import AppliverySoar.Async.Logic

/-!
# Programs that fail fast

An `async` function without `throw` and without `catch` ends with an exception
only when one of its calls throws, and then at once. `FailsFast caught p` says
so of `p`, but for the calls in `caught`, whose exceptions it may handle and go
on.

Results:
* `FailsFast.bind`, `FailsFast.foldlM`, `FailsFast.tryCatch`: the rules for the
  ways in which programs are put together.
* `FailsFast.rest`: what is left of such a program at a call fails fast too.
* `FailsFast.completes`: where every call can be answered, it can end with a
  value.
-/

namespace AppliverySoar.Async.Prog

variable {S : Sig} {ε σ α β γ : Type} {caught : S.Call → Prop}

/-- The exceptions of `p` are those of its calls, thrown on at once, but for
those of `caught` calls. -/
def FailsFast (caught : S.Call → Prop) : Prog S ε α → Prop
  | .ret r => ∃ a, r = .ok a
  | .await c k => (∀ a, (k (.ok a)).FailsFast caught) ∧
      ∀ e, (caught c ∧ (k (.error e)).FailsFast caught) ∨ k (.error e) = .ret (.error e)

theorem failsFast_ret (a : α) : (.ret (.ok a) : Prog S ε α).FailsFast caught := ⟨a, rfl⟩

theorem failsFast_call (c : S.Call) : (call c : Prog S ε _).FailsFast caught :=
  ⟨fun a => failsFast_ret a, fun _ => .inr rfl⟩

variable {p : Prog S ε α}

theorem FailsFast.bind {f : α → Prog S ε β} (hp : p.FailsFast caught)
    (hf : ∀ a, (f a).FailsFast caught) : (p >>= f).FailsFast caught := by
  induction p with
  | ret r =>
    obtain ⟨a, rfl⟩ := hp
    exact hf a
  | await c k ih =>
    refine ⟨fun a => ih _ (hp.1 a), fun e => ?_⟩
    rcases hp.2 e with ⟨hc, hk⟩ | hk
    · exact .inl ⟨hc, ih _ hk⟩
    · refine .inr ?_
      show (k (.error e)).bind f = _
      rw [hk]
      rfl

theorem FailsFast.tryCatch {f : ε → Prog S ε α} (hp : p.FailsFast caught)
    (hcalls : p.Calls caught) (hf : ∀ e, (f e).FailsFast caught) :
    (tryCatchThe ε p f).FailsFast caught := by
  unfold Calls Ensures at hcalls
  generalize ([] : List (Event S ε)) = es at hcalls
  induction p generalizing es with
  | ret r =>
    obtain ⟨a, rfl⟩ := hp
    exact failsFast_ret a
  | await c k ih =>
    refine ⟨fun a => ih _ (hp.1 a) _ (hcalls.2 (.ok a) trivial), fun e => .inl ⟨hcalls.1, ?_⟩⟩
    rcases hp.2 e with ⟨-, hk⟩ | hk
    · exact ih _ hk _ (hcalls.2 (.error e) trivial)
    · show ((k (.error e)).tryCatch f).FailsFast caught
      rw [hk]
      exact hf e

theorem FailsFast.ite {c : Prop} [Decidable c] {p q : Prog S ε α} (hp : c → p.FailsFast caught)
    (hq : ¬c → q.FailsFast caught) : (if c then p else q).FailsFast caught := by
  split_ifs with hc
  · exact hp hc
  · exact hq hc

theorem FailsFast.foldlM {f : β → γ → Prog S ε β} {l : List γ} {b : β}
    (hf : ∀ b c, (f b c).FailsFast caught) : (l.foldlM f b).FailsFast caught := by
  induction l generalizing b with
  | nil => exact failsFast_ret b
  | cons c l ih =>
    rw [List.foldlM_cons]
    exact (hf b c).bind fun b => ih

/-- A program that has come to a call has had no exception thrown on. -/
theorem FailsFast.rest {es : List (Event S ε)} {c : S.Call}
    {k : Except ε (S.Ret c) → Prog S ε α} (h : p.FailsFast caught)
    (hsteps : Steps p es (.await c k)) : (Prog.await c k).FailsFast caught := by
  generalize hq : Prog.await c k = q at hsteps
  induction hsteps with
  | refl p => exact h
  | @head c' k' r es q' hstep ih =>
    cases r with
    | ok a => exact ih (h.1 a) hq
    | error e =>
      rcases h.2 e with ⟨-, hk⟩ | hk
      · exact ih hk hq
      · rw [hk, ← hq] at hstep
        cases hstep

/-- Where every call can be answered with a value, the program can end with
one. -/
theorem FailsFast.completes {W : World S ε σ} (hW : ∀ s c, ∃ a, W.may s c (.ok a))
    (h : p.FailsFast caught) (s : σ) : ∃ es a, Steps p es (.ret (.ok a)) ∧ W.Accepts s es := by
  induction p generalizing s with
  | ret r =>
    obtain ⟨a, rfl⟩ := h
    exact ⟨[], a, .refl _, trivial⟩
  | await c k ih =>
    obtain ⟨b, hb⟩ := hW s c
    obtain ⟨es, a, hsteps, hes⟩ := ih (.ok b) (h.1 b) (W.next s c (.ok b))
    exact ⟨⟨c, .ok b⟩ :: es, a, .head hsteps, hb, hes⟩

end AppliverySoar.Async.Prog
