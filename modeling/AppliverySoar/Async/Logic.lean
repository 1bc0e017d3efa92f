import AppliverySoar.Async.Program

/-!
# A program logic for asynchronous programs

A `World` says which answers a call may get and what it leaves behind. Over
it, `Prog.Meets W ok p s Q` reads: every call that `p`, started in `s`, can
come to issue satisfies `ok` in the state it is issued in, and whenever `p`
ends, its result and the state satisfy `Q`. It is defined by recursion on the
program, so that a `do` block is verified by following its text.

Results:
* `Prog.Meets.bind`, `Prog.Meets.tryCatch`, `Prog.Meets.foldlM`: the rules for
  sequencing, for `try … catch` and for a loop with an invariant.
* `Prog.Meets.sound`: what `Meets` promises holds after every partial run.
* `Prog.Calls.not_reaches`: the calls a program is shown to make are the only
  ones it can come to make.
-/

namespace AppliverySoar.Async

open List

/-- The surroundings of a program, with states in `σ`: the answers a call may
get in a state, and the state that an answered call leaves. -/
structure World (S : Sig) (ε σ : Type) where
  may : σ → (c : S.Call) → Except ε (S.Ret c) → Prop
  next : σ → (c : S.Call) → Except ε (S.Ret c) → σ

namespace World

variable {S : Sig} {ε σ : Type}

/-- The answers of `es`, in order, are possible from `s` on. -/
def Accepts (W : World S ε σ) : σ → List (Event S ε) → Prop
  | _, [] => True
  | s, e :: es => W.may s e.call e.answer ∧ W.Accepts (W.next s e.call e.answer) es

/-- The state that `es` leaves. -/
def after (W : World S ε σ) (s : σ) (es : List (Event S ε)) : σ :=
  es.foldl (fun s e => W.next s e.call e.answer) s

@[simp] theorem after_nil (W : World S ε σ) (s : σ) : W.after s [] = s := rfl

@[simp] theorem after_cons (W : World S ε σ) (s : σ) (e : Event S ε)
    (es : List (Event S ε)) :
    W.after s (e :: es) = W.after (W.next s e.call e.answer) es := rfl

theorem after_append (W : World S ε σ) (s : σ) (es fs : List (Event S ε)) :
    W.after s (es ++ fs) = W.after (W.after s es) fs :=
  foldl_append

theorem accepts_append {W : World S ε σ} {s : σ} {es fs : List (Event S ε)} :
    W.Accepts s (es ++ fs) ↔ W.Accepts s es ∧ W.Accepts (W.after s es) fs := by
  induction es generalizing s with
  | nil => simp [Accepts]
  | cons e es ih => simp [Accepts, ih, and_assoc]

/-- The world that answers anything and remembers the exchange: what can be
said of a program alone, whatever runs beside it. -/
def log (S : Sig) (ε : Type) : World S ε (List (Event S ε)) where
  may _ _ _ := True
  next es c r := es ++ [⟨c, r⟩]

/-- The world that answers what `may` allows and remembers the exchange. -/
def answering (may : (c : S.Call) → Except ε (S.Ret c) → Prop) :
    World S ε (List (Event S ε)) where
  may _ c r := may c r
  next es c r := es ++ [⟨c, r⟩]

theorem answering_after (may : (c : S.Call) → Except ε (S.Ret c) → Prop)
    (s es : List (Event S ε)) : (answering may).after s es = s ++ es := by
  induction es generalizing s with
  | nil => simp
  | cons e es ih =>
    rw [after_cons, ih]
    simp [answering]

theorem log_accepts (s es : List (Event S ε)) : (log S ε).Accepts s es := by
  induction es generalizing s with
  | nil => trivial
  | cons e es ih => exact ⟨trivial, ih _⟩

theorem log_after (s es : List (Event S ε)) : (log S ε).after s es = s ++ es := by
  induction es generalizing s with
  | nil => simp
  | cons e es ih =>
    rw [after_cons, ih]
    simp [log]

end World

/-- A postcondition given apart for values and for exceptions. -/
def post {ε α σ : Type} (Q : α → σ → Prop) (E : ε → σ → Prop) : Except ε α → σ → Prop
  | .ok a, s => Q a s
  | .error e, s => E e s

@[simp] theorem post_ok {ε α σ : Type} (Q : α → σ → Prop) (E : ε → σ → Prop) (a : α) (s : σ) :
    post Q E (.ok a) s = Q a s := rfl

@[simp] theorem post_error {ε α σ : Type} (Q : α → σ → Prop) (E : ε → σ → Prop) (e : ε)
    (s : σ) : post Q E (.error e) s = E e s := rfl

namespace Prog

variable {S : Sig} {ε σ α β : Type} {W : World S ε σ} {ok : σ → S.Call → Prop}

/-- Every call of `p` from `s` on is `ok` where it is issued, and `Q` holds
when `p` ends. -/
def Meets (W : World S ε σ) (ok : σ → S.Call → Prop) :
    Prog S ε α → σ → (Except ε α → σ → Prop) → Prop
  | .ret r, s, Q => Q r s
  | .await c k, s, Q => ok s c ∧ ∀ r, W.may s c r → (k r).Meets W ok (W.next s c r) Q

@[simp] theorem meets_ret (r : Except ε α) (s : σ) (Q : Except ε α → σ → Prop) :
    (Prog.ret r : Prog S ε α).Meets W ok s Q ↔ Q r s := Iff.rfl

theorem meets_await (c : S.Call) (k : Except ε (S.Ret c) → Prog S ε α) (s : σ)
    (Q : Except ε α → σ → Prop) :
    (Prog.await c k).Meets W ok s Q ↔
      ok s c ∧ ∀ r, W.may s c r → (k r).Meets W ok (W.next s c r) Q := Iff.rfl

variable {s : σ} {p : Prog S ε α} {Q : Except ε α → σ → Prop} {f : α → Prog S ε β} {c : S.Call}

theorem Meets.mono {Q Q' : Except ε α → σ → Prop}
    (h : p.Meets W ok s Q) (hQ : ∀ r s, Q r s → Q' r s) : p.Meets W ok s Q' := by
  induction p generalizing s with
  | ret r => exact hQ r s h
  | await c k ih => exact ⟨h.1, fun r hr => ih r (h.2 r hr)⟩

theorem Meets.weaken {ok' : σ → S.Call → Prop} (h : p.Meets W ok s Q)
    (hok : ∀ s c, ok s c → ok' s c) : p.Meets W ok' s Q := by
  induction p generalizing s with
  | ret r => exact h
  | await c k ih => exact ⟨hok s c h.1, fun r hr => ih r (h.2 r hr)⟩

theorem Meets.bind
    {R : α → σ → Prop} {Q : Except ε β → σ → Prop}
    (h : p.Meets W ok s (post R fun e s => Q (.error e) s))
    (hf : ∀ a s, R a s → (f a).Meets W ok s Q) : (p >>= f).Meets W ok s Q := by
  induction p generalizing s with
  | ret r =>
    cases r with
    | ok a => exact hf a s h
    | error e => exact h
  | await c k ih => exact ⟨h.1, fun r hr => ih r (h.2 r hr)⟩

/-- `await` of a call, and what follows it. -/
theorem Meets.call_bind {f : S.Ret c → Prog S ε β}
    {Q : Except ε β → σ → Prop} (hc : ok s c)
    (he : ∀ e, W.may s c (.error e) → Q (.error e) (W.next s c (.error e)))
    (hf : ∀ a, W.may s c (.ok a) → (f a).Meets W ok (W.next s c (.ok a)) Q) :
    (call c >>= f).Meets W ok s Q := by
  refine ⟨hc, fun r hr => ?_⟩
  cases r with
  | ok a => exact hf a hr
  | error e => exact he e hr

variable {E : ε → σ → Prop}

theorem Meets.tryCatch {f : ε → Prog S ε α}
    (h : p.Meets W ok s (post (fun a s => Q (.ok a) s) E))
    (hf : ∀ e s, E e s → (f e).Meets W ok s Q) : (tryCatchThe ε p f).Meets W ok s Q := by
  induction p generalizing s with
  | ret r =>
    cases r with
    | ok a => exact h
    | error e => exact hf e s h
  | await c k ih => exact ⟨h.1, fun r hr => ih r (h.2 r hr)⟩

theorem Meets.attempt {Q : Except ε (Except ε α) → σ → Prop}
    (h : p.Meets W ok s fun r s => Q (.ok r) s) : p.attempt.Meets W ok s Q := by
  induction p generalizing s with
  | ret r => exact h
  | await c k ih => exact ⟨h.1, fun r hr => ih r (h.2 r hr)⟩

variable {γ : Type} {b : β}

variable {l : List γ}

/-- The loop rule: an invariant of what the loop has gone through, its
accumulator and the state. -/
theorem Meets.foldlM {f : β → γ → Prog S ε β} (I : List γ → β → σ → Prop) (hb : I [] b s)
    (hstep : ∀ done c todo, l = done ++ c :: todo → ∀ b s, I done b s →
      (f b c).Meets W ok s (post (I (done ++ [c])) E)) :
    (l.foldlM f b).Meets W ok s (post (I l) E) := by
  suffices H : ∀ done todo, l = done ++ todo → ∀ b s, I done b s →
      (todo.foldlM f b).Meets W ok s (post (I l) E) from H [] l rfl b s hb
  intro done todo
  induction todo generalizing done with
  | nil =>
    intro hl b s hI
    rw [append_nil] at hl
    exact hl ▸ hI
  | cons c todo ih =>
    intro hl b s hI
    rw [foldlM_cons]
    refine Meets.bind (hstep done c todo hl b s hI) fun b' s' hI' => ?_
    exact ih (done ++ [c]) (by simp [hl]) b' s' hI'

variable {es : List (Event S ε)}

/-- **Main theorem of the logic**: what `Meets` promises of a program it
promises of the rest of it after any partial run. -/
theorem Meets.sound {p q : Prog S ε α} (h : p.Meets W ok s Q) (hsteps : Steps p es q)
    (hes : W.Accepts s es) : q.Meets W ok (W.after s es) Q := by
  induction hsteps generalizing s with
  | refl p => exact h
  | head _ ih => exact ih (h.2 _ hes.1) hes.2

theorem Meets.ok_of_steps
    {k : Except ε (S.Ret c) → Prog S ε α}
    (h : p.Meets W ok s Q) (hsteps : Steps p es (.await c k)) (hes : W.Accepts s es) :
    ok (W.after s es) c :=
  (h.sound hsteps hes).1

/-- Every call of a partial run is `ok` where it was issued. -/
theorem Meets.ok_of_append {p q : Prog S ε α} {es fs : List (Event S ε)}
    {e : Event S ε} (h : p.Meets W ok s Q)
    (hsteps : Steps p (es ++ e :: fs) q) (hes : W.Accepts s (es ++ e :: fs)) :
    ok (W.after s es) e.call := by
  obtain ⟨m, hm, hrest⟩ := hsteps.split
  have hmid := h.sound hm (World.accepts_append.mp hes).1
  cases hrest with
  | head _ => exact hmid.1

/-- What every answer keeps holds when a program that may call anything ends. -/
theorem Meets.stable {P : σ → Prop}
    (hP : ∀ s c r, W.may s c r → P s → P (W.next s c r)) (hs : P s) :
    p.Meets W (fun _ _ => True) s fun _ s' => P s' := by
  induction p generalizing s with
  | ret r => exact hs
  | await c k ih => exact ⟨trivial, fun r hr => ih r (hP s c r hr hs)⟩

/-- What holds against a world that only follows the exchange holds of the
exchange. -/
theorem Meets.on_log (V : World S ε σ) (hmay : ∀ s c r, V.may s c r)
    (es : List (Event S ε)) (h : p.Meets V ok (V.after s es) Q) :
    p.Meets (World.log S ε) (fun es c => ok (V.after s es) c) es
      fun r es => Q r (V.after s es) := by
  induction p generalizing es with
  | ret r => exact h
  | await c k ih =>
    refine ⟨h.1, fun r _ => ih r _ ?_⟩
    have hrest := h.2 r (hmay _ c r)
    have hsnoc : V.after s ((World.log S ε).next es c r) = V.next (V.after s es) c r :=
      World.after_append V s es [⟨c, r⟩]
    rw [hsnoc]
    exact hrest

/-- A program that is run alone adds to what has been exchanged. -/
theorem Meets.extends_ok {ok : List (Event S ε) → S.Call → Prop}
    {Q : Except ε α → List (Event S ε) → Prop}
    (h : p.Meets (World.log S ε) ok es Q) :
    p.Meets (World.log S ε) (fun es' c => ok es' c ∧ es <+: es') es
      fun r es' => Q r es' ∧ es <+: es' := by
  induction p generalizing es with
  | ret r => exact ⟨h, prefix_refl es⟩
  | await c k ih =>
    refine ⟨⟨h.1, prefix_refl es⟩, fun r hr => ?_⟩
    have hpre : es <+: es ++ [⟨c, r⟩] := prefix_append es _
    have hrest := ih r (h.2 r hr)
    exact (hrest.mono fun _ _ hQ => ⟨hQ.1, hpre.trans hQ.2⟩).weaken
      fun _ _ hok => ⟨hok.1, hpre.trans hok.2⟩

theorem Meets.extends {ok : List (Event S ε) → S.Call → Prop}
    {Q : Except ε α → List (Event S ε) → Prop}
    (h : p.Meets (World.log S ε) ok es Q) :
    p.Meets (World.log S ε) ok es fun r es' => Q r es' ∧ es <+: es' :=
  h.extends_ok.weaken fun _ _ hok => hok.1

/-- A program that is run alone leaves a run of its own behind. -/
theorem Meets.tracks {ok : List (Event S ε) → S.Call → Prop}
    {Q : Except ε α → List (Event S ε) → Prop}
    (h : p.Meets (World.log S ε) ok es Q) :
    p.Meets (World.log S ε) ok es
      fun r es' => Q r es' ∧ ∃ fs, es' = es ++ fs ∧ Steps p fs (.ret r) := by
  induction p generalizing es with
  | ret r => exact ⟨h, [], (append_nil es).symm, .refl _⟩
  | await c k ih =>
    refine ⟨h.1, fun r hr => (ih r (h.2 r hr)).mono fun r' es' hQ => ⟨hQ.1, ?_⟩⟩
    obtain ⟨fs, rfl, hsteps⟩ := hQ.2
    exact ⟨⟨c, r⟩ :: fs, append_assoc es _ fs, .head hsteps⟩

variable {r : Except ε α}

theorem Meets.post_of_steps
    (h : p.Meets W ok s Q) (hsteps : Steps p es (.ret r)) (hes : W.Accepts s es) :
    Q r (W.after s es) :=
  h.sound hsteps hes

/-! ## Runs with given answers -/

/-- `p` from `s` on, its calls answered by `answer`: what is exchanged, and the
result. -/
def execute (W : World S ε σ) (answer : σ → (c : S.Call) → Except ε (S.Ret c)) :
    Prog S ε α → σ → List (Event S ε) × Except ε α
  | .ret r, _ => ([], r)
  | .await c k, s =>
    let rest := (k (answer s c)).execute W answer (W.next s c (answer s c))
    (⟨c, answer s c⟩ :: rest.1, rest.2)

variable {answer : σ → (c : S.Call) → Except ε (S.Ret c)}

theorem steps_execute (p : Prog S ε α) (s : σ) :
    Steps p (p.execute W answer s).1 (.ret (p.execute W answer s).2) := by
  induction p generalizing s with
  | ret r => exact .refl _
  | await c k ih => exact .head (ih _ _)

theorem accepts_execute (hanswer : ∀ s c, W.may s c (answer s c)) (p : Prog S ε α) (s : σ) :
    W.Accepts s (p.execute W answer s).1 := by
  induction p generalizing s with
  | ret r => trivial
  | await c k ih => exact ⟨hanswer s c, ih _ _⟩

/-! ## Calls that a program may make, and calls that it can come to make -/

/-- Every call that `p` can come to make satisfies `ok`, and a value that it
ends with satisfies `R`, whatever its calls are answered. -/
def Ensures (ok : S.Call → Prop) (R : α → Prop) (p : Prog S ε α) : Prop :=
  p.Meets (World.log S ε) (fun _ c => ok c) [] (post (fun a _ => R a) fun _ _ => True)

/-- Every call that `p` can come to make satisfies `ok`. -/
def Calls (ok : S.Call → Prop) (p : Prog S ε α) : Prop :=
  p.Ensures ok fun _ => True

/-- Some answers make `p` call a `c` with `P c`. -/
def Reaches (P : S.Call → Prop) (p : Prog S ε α) : Prop :=
  ∃ es c k, Steps p es (.await c k) ∧ P c

/-- Some answers make `p` end with `a`. -/
def Returns (p : Prog S ε α) (a : α) : Prop :=
  ∃ es, Steps p es (.ret (.ok a))

variable {okc P : S.Call → Prop} {R : α → Prop} {a : α}

theorem ensures_iff_meets (R : α → Prop) (p : Prog S ε α) (es : List (Event S ε)) :
    p.Ensures okc R ↔ p.Meets (World.log S ε) (fun _ c => okc c) es
      (post (fun a _ => R a) fun _ _ => True) := by
  unfold Ensures
  generalize ([] : List (Event S ε)) = fs
  induction p generalizing es fs with
  | ret r => cases r <;> rfl
  | await c k ih =>
    rw [meets_await, meets_await]
    refine and_congr_right fun _ => forall₂_congr fun r _ => ?_
    rw [ih r ((World.log S ε).next es c r)]

@[simp] theorem ensures_ret_ok (R : α → Prop) (a : α) :
    (.ret (.ok a) : Prog S ε α).Ensures okc R ↔ R a := Iff.rfl

@[simp] theorem ensures_ret_error (R : α → Prop) (e : ε) :
    (.ret (.error e) : Prog S ε α).Ensures okc R := trivial

@[simp] theorem calls_ret (r : Except ε α) : (.ret r : Prog S ε α).Calls okc := by
  cases r <;> trivial

theorem calls_call (h : okc c) : (call c : Prog S ε _).Calls okc :=
  ⟨h, fun r _ => by cases r <;> trivial⟩

theorem ensures_of_forall (hR : ∀ a, R a) (p : Prog S ε α) :
    p.Ensures (fun _ => True) R := by
  unfold Ensures
  generalize ([] : List (Event S ε)) = es
  induction p generalizing es with
  | ret r =>
    cases r with
    | ok a => exact hR a
    | error e => trivial
  | await c k ih => exact ⟨trivial, fun r _ => ih r _⟩

theorem calls_true (p : Prog S ε α) : p.Calls fun _ => True :=
  ensures_of_forall (fun _ => trivial) p

theorem Ensures.calls (h : p.Ensures okc R) : p.Calls okc :=
  h.mono fun r _ _ => by cases r <;> trivial

theorem Calls.widen {okc' : S.Call → Prop} (hp : p.Calls okc)
    (h : ∀ c, okc c → okc' c) : p.Calls okc' :=
  hp.weaken fun _ c hc => h c hc

theorem Ensures.bind {R' : β → Prop}
    (hp : p.Ensures okc R) (hf : ∀ a, R a → (f a).Ensures okc R') :
    (p >>= f).Ensures okc R' :=
  Meets.bind (R := fun a _ => R a) hp fun a s ha =>
    (ensures_iff_meets R' (f a) s).mp (hf a ha)

theorem Calls.bind (hp : p.Calls okc)
    (hf : ∀ a, (f a).Calls okc) : (p >>= f).Calls okc :=
  Ensures.bind hp fun a _ => hf a

theorem Calls.tryCatch {f : ε → Prog S ε α} (hp : p.Calls okc)
    (hf : ∀ e, (f e).Calls okc) : (tryCatchThe ε p f).Calls okc :=
  Meets.tryCatch (E := fun _ _ => True) (hp.mono fun r _ _ => by cases r <;> trivial)
    fun e s _ => (ensures_iff_meets _ (f e) s).mp (hf e)

theorem Ensures.attempt (hp : p.Ensures okc R) :
    p.attempt.Ensures okc fun r => ∀ a, r = .ok a → R a :=
  Meets.attempt <| hp.mono fun r _ h => by
    rintro a rfl
    exact h

theorem Calls.ite {c : Prop} [Decidable c] {p q : Prog S ε α} (hp : c → p.Calls okc)
    (hq : ¬c → q.Calls okc) : (if c then p else q).Calls okc := by
  split_ifs with hc
  · exact hp hc
  · exact hq hc

theorem Calls.guard {c : Prop} [Decidable c] {r : Except ε α}
    (hp : ¬c → p.Calls okc) : (if c then .ret r else p).Calls okc :=
  Calls.ite (fun _ => calls_ret r) hp

theorem Calls.attempt (hp : p.Calls okc) : p.attempt.Calls okc :=
  (Ensures.attempt hp).calls

theorem Calls.foldlM {f : β → γ → Prog S ε β}
    (hf : ∀ b, ∀ c ∈ l, (f b c).Calls okc) : (l.foldlM f b).Calls okc := by
  induction l generalizing b with
  | nil => exact calls_ret _
  | cons c l ih =>
    rw [foldlM_cons]
    exact (hf b c (by simp)).bind fun b' => ih fun b c hc => hf b c (by simp [hc])

/-- In any world, what `okc` calls leave alone is as it was at every call, and
when the program ends. -/
theorem Ensures.meets_frame_ok {τ : Type} (f : σ → τ)
    (hf : ∀ s c r, okc c → W.may s c r → f (W.next s c r) = f s) (h : p.Ensures okc R) (s : σ) :
    p.Meets W (fun s' c => okc c ∧ f s' = f s) s
      (post (fun a s' => f s' = f s ∧ R a) fun _ s' => f s' = f s) := by
  unfold Ensures at h
  generalize ([] : List (Event S ε)) = es at h
  induction p generalizing s es with
  | ret r =>
    cases r with
    | ok a => exact ⟨rfl, h⟩
    | error e => exact rfl
  | await c k ih =>
    refine ⟨⟨h.1, rfl⟩, fun r hr => ?_⟩
    have hkeep := hf s c r h.1 hr
    have hrest := ih r (W.next s c r) _ (h.2 r trivial)
    rw [hkeep] at hrest
    exact hrest

theorem Ensures.meets_frame {τ : Type} (f : σ → τ)
    (hf : ∀ s c r, okc c → W.may s c r → f (W.next s c r) = f s) (h : p.Ensures okc R) (s : σ) :
    p.Meets W (fun _ c => okc c) s
      (post (fun a s' => f s' = f s ∧ R a) fun _ s' => f s' = f s) :=
  (h.meets_frame_ok f hf s).weaken fun _ _ hok => hok.1

/-- What answers to `okc` calls keep holds at every call, and when the program
ends. -/
theorem Ensures.meets_stable {P : σ → Prop}
    (h : p.Ensures okc R) (hok : ∀ s c, P s → okc c → ok s c)
    (hP : ∀ s c r, okc c → W.may s c r → P s → P (W.next s c r)) (hs : P s) :
    p.Meets W ok s (post (fun a s' => P s' ∧ R a) fun _ s' => P s') := by
  unfold Ensures at h
  generalize ([] : List (Event S ε)) = es at h
  induction p generalizing s es with
  | ret r =>
    cases r with
    | ok a => exact ⟨hs, h⟩
    | error e => exact hs
  | await c k ih =>
    exact ⟨hok s c hs h.1, fun r hr => ih r (hP s c r h.1 hr hs) _ (h.2 r trivial)⟩

theorem Calls.meets_stable {P : σ → Prop} (hp : p.Calls okc)
    (hok : ∀ s c, P s → okc c → ok s c)
    (hP : ∀ s c r, okc c → W.may s c r → P s → P (W.next s c r)) (hs : P s) :
    p.Meets W ok s fun _ s' => P s' := by
  refine (Ensures.meets_stable (R := fun _ => True) hp hok hP hs).mono fun r s' h => ?_
  cases r with
  | ok a => exact h.1
  | error e => exact h

/-- A program alone, whose calls are `okc`, adds to what has been exchanged. -/
theorem Calls.meets_extends {ok : List (Event S ε) → S.Call → Prop}
    (hp : p.Calls okc) (hok : ∀ es c, okc c → ok es c) (es : List (Event S ε)) :
    p.Meets (World.log S ε) ok es fun _ es' => es <+: es' := by
  have hmeets := ((ensures_iff_meets _ p es).mp hp).weaken hok
  exact hmeets.extends.mono fun _ _ h => h.2

/-- A program alone adds calls that are `okc` to what has been exchanged. -/
theorem Calls.meets_tracked {ok : List (Event S ε) → S.Call → Prop}
    (hp : p.Calls okc) (hok : ∀ es c, okc c → ok es c) (es : List (Event S ε)) :
    p.Meets (World.log S ε) ok es fun _ es' => ∃ fs, es' = es ++ fs ∧ ∀ e ∈ fs, okc e.call := by
  have hp' := (ensures_iff_meets _ p es).mp hp
  clear hp
  induction p generalizing es with
  | ret r => exact ⟨[], by simp, by simp⟩
  | await c k ih =>
    refine ⟨hok es c hp'.1, fun r hr => (ih r _ (hp'.2 r hr)).mono fun _ es' h => ?_⟩
    obtain ⟨fs, rfl, hfs⟩ := h
    refine ⟨⟨c, r⟩ :: fs, append_assoc es _ fs, fun e he => ?_⟩
    rcases mem_cons.mp he with rfl | he
    · exact hp'.1
    · exact hfs e he

/-- The calls that a program has been answered are among its calls. -/
theorem Calls.of_steps
    (hp : p.Calls okc) (h : Steps p es (.ret r)) : ∀ e ∈ es, okc e.call := by
  have hmeets : p.Meets (World.log S ε) (fun _ _ => True) [] _ :=
    hp.meets_tracked (fun _ _ _ => trivial) []
  obtain ⟨fs, hfs, hcalls⟩ := hmeets.post_of_steps h (World.log_accepts _ _)
  rw [World.log_after] at hfs
  obtain rfl := append_cancel_left hfs
  exact hcalls

theorem Calls.not_reaches (hp : p.Calls fun c => ¬P c) : ¬p.Reaches P := by
  rintro ⟨es, c, k, hsteps, hc⟩
  exact hp.ok_of_steps hsteps (World.log_accepts [] es) hc

theorem reaches_await (k : Except ε (S.Ret c) → Prog S ε α) (h : P c) :
    (.await c k : Prog S ε α).Reaches P :=
  ⟨[], c, k, .refl _, h⟩

theorem reaches_call (h : P c) : (call c : Prog S ε _).Reaches P :=
  reaches_await _ h

theorem Reaches.bind (f : α → Prog S ε β) (h : p.Reaches P) :
    (p >>= f).Reaches P := by
  obtain ⟨es, c, k, hsteps, hc⟩ := h
  exact ⟨es, c, _, hsteps.bind f, hc⟩

theorem Reaches.attempt (h : p.Reaches P) : p.attempt.Reaches P := by
  obtain ⟨es, c, k, hsteps, hc⟩ := h
  exact ⟨es, c, _, hsteps.attempt, hc⟩

theorem Reaches.tryCatch (f : ε → Prog S ε α) (h : p.Reaches P) :
    (tryCatchThe ε p f).Reaches P := by
  obtain ⟨es, c, k, hsteps, hc⟩ := h
  exact ⟨es, c, _, hsteps.tryCatch f, hc⟩

theorem returns_ret (a : α) : (.ret (.ok a) : Prog S ε α).Returns a := ⟨[], .refl _⟩

theorem returns_call (c : S.Call) (a : S.Ret c) : (call c : Prog S ε _).Returns a :=
  ⟨[⟨c, .ok a⟩], .head (.refl _)⟩

theorem Returns.reaches_bind (h : p.Returns a)
    (hf : (f a).Reaches P) : (p >>= f).Reaches P := by
  obtain ⟨es, hsteps⟩ := h
  obtain ⟨fs, c, k, hsteps', hc⟩ := hf
  exact ⟨es ++ fs, c, k, (hsteps.bind f).trans hsteps', hc⟩

theorem Returns.bind (h : p.Returns a)
    (hf : (f a).Returns b) : (p >>= f).Returns b := by
  obtain ⟨es, hsteps⟩ := h
  obtain ⟨fs, hsteps'⟩ := hf
  exact ⟨es ++ fs, (hsteps.bind f).trans hsteps'⟩

theorem Returns.attempt (h : p.Returns a) : p.attempt.Returns (.ok a) := by
  obtain ⟨es, hsteps⟩ := h
  exact ⟨es, hsteps.attempt⟩

theorem Returns.tryCatch (f : ε → Prog S ε α) (h : p.Returns a) :
    (tryCatchThe ε p f).Returns a := by
  obtain ⟨es, hsteps⟩ := h
  exact ⟨es, hsteps.tryCatch f⟩

/-- A loop comes to an iteration when the earlier ones can end. -/
theorem reaches_foldlM {f : β → γ → Prog S ε β} {c : γ}
    (hc : c ∈ l) (hend : ∀ b d, ∃ b', (f b d).Returns b') (hreach : ∀ b, (f b c).Reaches P) :
    (l.foldlM f b).Reaches P := by
  induction l generalizing b with
  | nil => simp at hc
  | cons d l ih =>
    rw [foldlM_cons]
    rcases mem_cons.mp hc with rfl | hc
    · exact (hreach b).bind _
    · obtain ⟨b', hb'⟩ := hend b d
      exact hb'.reaches_bind (ih hc)

/-! ## Calls that are as they should be after anything -/

/-- Whatever has been exchanged before, every call of `p` is `ok` where it is
issued. -/
def Obeys (ok : List (Event S ε) → S.Call → Prop) (p : Prog S ε α) : Prop :=
  ∀ es, p.Meets (World.log S ε) ok es fun _ _ => True

section Obeys

variable {ok : List (Event S ε) → S.Call → Prop}

theorem obeys_ret (r : Except ε α) : (.ret r : Prog S ε α).Obeys ok := fun _ => trivial

variable {p : Prog S ε α}

theorem Calls.obeys (hp : p.Calls okc) (hok : ∀ es c, okc c → ok es c) :
    p.Obeys ok := fun es => (hp.meets_extends hok es).mono fun _ _ _ => trivial

theorem obeys_call {c : S.Call} (h : ∀ es, ok es c) : (call c : Prog S ε _).Obeys ok :=
  fun es => ⟨h es, fun _ _ => trivial⟩

theorem Obeys.bind {f : α → Prog S ε β} (hp : p.Obeys ok)
    (hf : ∀ a, (f a).Obeys ok) : (p >>= f).Obeys ok := fun es =>
  Meets.bind (R := fun _ _ => True) ((hp es).mono fun r _ _ => by cases r <;> trivial)
    fun a es' _ => hf a es'

theorem Obeys.tryCatch {f : ε → Prog S ε α} (hp : p.Obeys ok)
    (hf : ∀ e, (f e).Obeys ok) : (tryCatchThe ε p f).Obeys ok := fun es =>
  Meets.tryCatch (E := fun _ _ => True) ((hp es).mono fun r _ _ => by cases r <;> trivial)
    fun e es' _ => hf e es'

theorem Obeys.attempt (hp : p.Obeys ok) : p.attempt.Obeys ok :=
  fun es => Meets.attempt (hp es)

theorem Obeys.ite {c : Prop} [Decidable c] {p q : Prog S ε α} (hp : c → p.Obeys ok)
    (hq : ¬c → q.Obeys ok) : (if c then p else q).Obeys ok := by
  split_ifs with h
  · exact hp h
  · exact hq h

theorem Obeys.foldlM {γ : Type} {f : β → γ → Prog S ε β} {l : List γ} {b : β}
    (hf : ∀ b, ∀ c ∈ l, (f b c).Obeys ok) : (l.foldlM f b).Obeys ok := by
  induction l generalizing b with
  | nil => exact obeys_ret _
  | cons c l ih =>
    rw [foldlM_cons]
    exact (hf b c (by simp)).bind fun b' => ih fun b c hc => hf b c (by simp [hc])

end Obeys

end Prog

end AppliverySoar.Async
