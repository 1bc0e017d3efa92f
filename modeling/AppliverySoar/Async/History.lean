import AppliverySoar.Async.Pool

/-!
# Positions in a run

A label of a run stands at a position of its trace, which is also the number of
calls that had been answered before it. What a thread did before a label can be
asked for by position: where it last made a call of some kind.

Results:
* `Run.label_at`: the state in which the call at a position was answered.
* `Run.lastCall_of_past`: a call that a thread has made stands at a position.
* `LastCall.unique`, `LastCall.lastBefore_eq`: there is one last call of a kind, and
  it can be looked up.
-/

namespace AppliverySoar.Async

open List

variable {S : Sig} {ε σ Task : Type} {sys : System S ε σ Task}
  {cond : List (Label S ε Task) → σ → Label S ε Task → Prop} {s : σ} {ts : List Task}
  {tr : List (Label S ε Task)} {cfg : Config S ε σ Task} {l : Label S ε Task} {n m m' : ℕ}

/-- The state in which the call at a position is answered. -/
def stateAt (W : World S ε σ) (s : σ) (tr : List (Label S ε Task)) (n : ℕ) : σ :=
  W.after s ((tr.take n).map Label.event)

theorem take_append_of_getElem? {α : Type} {l : List α} {a : α} (h : l[n]? = some a) :
    l = l.take n ++ a :: l.drop (n + 1) := by
  obtain ⟨hlt, rfl⟩ := List.getElem?_eq_some_iff.mp h
  rw [List.getElem_cons_drop, List.take_append_drop]

theorem Run.label_at (h : Run sys cond (sys.launch s ts) tr cfg) (hn : tr[n]? = some l) :
    sys.world.may (stateAt sys.world s tr n) l.event.call l.event.answer ∧
      cond (tr.take n) (stateAt sys.world s tr n) l := by
  obtain ⟨cfg₁, cfg₂, hrun, hstep, hcond, -⟩ := h.step_of_append (take_append_of_getElem? hn)
  have hstore : cfg₁.store = stateAt sys.world s tr n := hrun.store_eq
  exact ⟨hstore ▸ hstep.may, hstore ▸ hcond⟩

theorem stateAt_succ (W : World S ε σ) (s : σ) (hn : tr[n]? = some l) :
    stateAt W s tr (n + 1) = W.next (stateAt W s tr n) l.event.call l.event.answer := by
  obtain ⟨hlt, rfl⟩ := List.getElem?_eq_some_iff.mp hn
  rw [stateAt, List.take_succ_eq_append_getElem hlt, List.map_append, World.after_append]
  rfl

/-- At `m` the thread of the label at `n` made its last call with `P` before `n`. -/
def LastCall (tr : List (Label S ε Task)) (P : S.Call → Prop) (n m : ℕ) : Prop :=
  ∃ l lm, tr[n]? = some l ∧ tr[m]? = some lm ∧ m < n ∧ lm.thread = l.thread ∧ P lm.event.call ∧
    ∀ k lk, m < k → k < n → tr[k]? = some lk → lk.thread = l.thread → ¬P lk.event.call

theorem LastCall.unique {P : S.Call → Prop} (h : LastCall tr P n m) (h' : LastCall tr P n m') :
    m = m' := by
  obtain ⟨l, lm, hl, hlm, hmn, hthread, hP, hlast⟩ := h
  obtain ⟨l', lm', hl', hlm', hmn', hthread', hP', hlast'⟩ := h'
  obtain rfl : l = l' := Option.some.inj (hl.symm.trans hl')
  rcases Nat.lt_trichotomy m m' with hlt | heq | hlt
  · exact absurd hP' (hlast m' lm' hlt hmn' hlm' hthread')
  · exact heq
  · exact absurd hP (hlast' m lm hlt hmn hlm hthread)

/-- The last position before `n` at which a thread made a call with `P`. -/
def lastBefore (tr : List (Label S ε Task)) (thread : ℕ) (P : S.Call → Bool) : ℕ → Option ℕ
  | 0 => none
  | n + 1 =>
    if (tr[n]?).any fun l => l.thread = thread && P l.event.call then some n
    else lastBefore tr thread P n

theorem LastCall.lastBefore_eq {P : S.Call → Bool} (h : LastCall tr (fun c => P c = true) n m)
    (hn : tr[n]? = some l) : lastBefore tr l.thread P n = some m := by
  obtain ⟨l', lm, hl, hm, hmn, hthread, hP, hlast⟩ := h
  obtain rfl : l = l' := Option.some.inj (hn.symm.trans hl)
  clear hl hn
  induction n with
  | zero => omega
  | succ n ih =>
    unfold lastBefore
    by_cases heq : m = n
    · subst heq
      rw [if_pos (by rw [hm]; simp [hthread, hP])]
    · have hskip : ¬((tr[n]?).any fun l' => l'.thread = l.thread && P l'.event.call) = true := by
        cases hlk : tr[n]? with
        | none => simp
        | some lk =>
          intro hany
          simp only [Option.any_some, Bool.and_eq_true, decide_eq_true_eq] at hany
          exact hlast n lk (by omega) (by omega) hlk hany.1 hany.2
      rw [if_neg hskip]
      exact ih (by omega) fun k lk hlt hk => hlast k lk hlt (by omega)

theorem Run.lastCall_of_past (h : Run sys cond (sys.launch s ts) tr cfg) (hn : tr[n]? = some l)
    {P : S.Call → Prop} {pre rest : List (Event S ε)} {e : Event S ε}
    (hpast : l.past = pre ++ e :: rest) (he : P e.call) (hrest : ∀ e' ∈ rest, ¬P e'.call) :
    ∃ m lm, tr[m]? = some lm ∧ lm.event = e ∧ LastCall tr P n m := by
  have htr := take_append_of_getElem? hn
  have hown := (h.past_eq htr).symm.trans hpast
  obtain ⟨before, lm, after, htake, hthread, rfl, -, hafter⟩ := exists_of_ownEvents hown
  have hat : ∀ k, k < n → tr[k]? = (before ++ lm :: after)[k]? := fun k hk => by
    rw [← htake, getElem?_take_of_lt hk]
  have hlen : before.length < n := by
    have hle : (before ++ lm :: after).length ≤ n := htake ▸ length_take_le n tr
    simp only [length_append, length_cons] at hle
    omega
  have hm : tr[before.length]? = some lm := by rw [hat _ hlen]; simp
  refine ⟨before.length, lm, hm, rfl, l, lm, hn, hm, hlen, hthread, he,
    fun k lk hlt hk hlk hsame => hrest _ ?_⟩
  rw [hat k hk, getElem?_append_right (Nat.le_of_lt hlt)] at hlk
  obtain ⟨j, hj⟩ := Nat.exists_eq_add_of_lt hlt
  rw [show k - before.length = j + 1 by omega, getElem?_cons_succ] at hlk
  rw [← hafter, mem_ownEvents]
  exact ⟨lk, mem_of_getElem? hlk, hsame, rfl⟩

end AppliverySoar.Async
