import AppliverySoar.Async.Logic

/-!
# Programs over a smaller signature as part of a larger one

A function that awaits calls of one signature is used by a function that
awaits calls of another: each of its calls is issued as a call of the larger
signature, and the answer is read back.

Results:
* `Prog.embed_bind`: embedding goes through a sequence.
* `Prog.Calls.embed`, `Prog.Meets.embed`: an embedded program calls what the
  program calls, and meets what it meets.
* `Prog.Meets.embed_log`: the same for a program alone.
* `Prog.Calls.meets_counted`: in a world that counts the calls, what a program
  calls it calls from the present count on.
-/

namespace AppliverySoar.Async

/-- Each call of `S` as a call of `T`, and how its answer is read. -/
structure SigHom (S T : Sig) where
  call : S.Call → T.Call
  answer : ∀ c, T.Ret (call c) → S.Ret c

namespace Prog

variable {S T : Sig} {ε α β : Type}

/-- The program with its calls issued in `T`. -/
def embed (φ : SigHom S T) : Prog S ε α → Prog T ε α
  | .ret r => .ret r
  | .await c k => .await (φ.call c) fun r => (k (r.map (φ.answer c))).embed φ

variable {φ : SigHom S T}

@[simp] theorem embed_ret (r : Except ε α) : (.ret r : Prog S ε α).embed φ = .ret r := rfl

@[simp] theorem embed_await (c : S.Call) (k : Except ε (S.Ret c) → Prog S ε α) :
    (Prog.await c k).embed φ = .await (φ.call c) fun r => (k (r.map (φ.answer c))).embed φ :=
  rfl

theorem embed_bind (p : Prog S ε α) (f : α → Prog S ε β) :
    (p >>= f).embed φ = p.embed φ >>= fun a => (f a).embed φ := by
  induction p with
  | ret r => cases r <;> rfl
  | await c k ih =>
    simp only [await_bind, embed_await]
    congr 1
    funext r
    exact ih _

variable {p : Prog S ε α}

theorem Calls.embed {okc : T.Call → Prop}
    (h : p.Calls fun c => okc (φ.call c)) : (p.embed φ).Calls okc := by
  have hp := (ensures_iff_meets _ p []).mp h
  clear h
  refine (ensures_iff_meets _ _ []).mpr ?_
  generalize ([] : List (Event S ε)) = es at hp
  generalize ([] : List (Event T ε)) = fs
  induction p generalizing es fs with
  | ret r => cases r <;> trivial
  | await c k ih => exact ⟨hp.1, fun r _ => ih _ _ (hp.2 _ trivial) _⟩

/-- What a program meets over its own calls, the embedded one meets where the
world of `T` treats the calls of `S` in the same way. -/
theorem Meets.embed {σ : Type} {V : World S ε σ} {W : World T ε σ} {okS : σ → S.Call → Prop}
    {ok : σ → T.Call → Prop} (hok : ∀ s c, okS s c → ok s (φ.call c))
    (hmay : ∀ s c r, W.may s (φ.call c) r → V.may s c (r.map (φ.answer c)))
    (hnext : ∀ s c r, W.next s (φ.call c) r = V.next s c (r.map (φ.answer c)))
    {s : σ} {Q : Except ε α → σ → Prop} (h : p.Meets V okS s Q) : (p.embed φ).Meets W ok s Q := by
  induction p generalizing s with
  | ret r => exact h
  | await c k ih =>
    refine ⟨hok s c h.1, fun r hr => ?_⟩
    rw [hnext]
    exact ih _ (h.2 _ (hmay s c r hr))

/-- What a program meets alone, the embedded one meets alone of what `own` reads
of an exchange: the calls of `S` in it. -/
theorem Meets.embed_log {own : List (Event T ε) → List (Event S ε)}
    (hown : ∀ es c r, own (es ++ [⟨φ.call c, r⟩]) = own es ++ [⟨c, r.map (φ.answer c)⟩])
    {okS : List (Event S ε) → S.Call → Prop} {ok : List (Event T ε) → T.Call → Prop}
    (hok : ∀ es c, okS (own es) c → ok es (φ.call c)) {es : List (Event T ε)}
    {Q : Except ε α → List (Event S ε) → Prop} (h : p.Meets (World.log S ε) okS (own es) Q) :
    (p.embed φ).Meets (World.log T ε) ok es fun r es' => Q r (own es') := by
  induction p generalizing es with
  | ret r => exact h
  | await c k ih =>
    refine ⟨hok es c h.1, fun r _ => ih (r.map (φ.answer c)) ?_⟩
    have hnext : own ((World.log T ε).next es (φ.call c) r) =
        (World.log S ε).next (own es) c (r.map (φ.answer c)) := hown es c r
    rw [hnext]
    exact h.2 _ trivial

/-- A program alone, whose calls are `okc`, in a world that counts the calls. -/
theorem Calls.meets_counted {W : World S ε ℕ} (hnext : ∀ n c r, W.next n c r = n + 1)
    {okc : S.Call → Prop} (h : p.Calls okc) (n : ℕ) :
    p.Meets W (fun m c => n ≤ m ∧ okc c) n fun _ m => n ≤ m := by
  have hp := (ensures_iff_meets _ p []).mp h
  clear h
  generalize ([] : List (Event S ε)) = es at hp
  induction p generalizing es n with
  | ret r => exact Nat.le_refl n
  | await c k ih =>
    refine ⟨⟨Nat.le_refl n, hp.1⟩, fun r _ => ?_⟩
    rw [hnext]
    have hrest := ih r (n + 1) _ (hp.2 r trivial)
    exact (hrest.mono fun _ m hm => by omega).weaken fun m _ hm => ⟨by omega, hm.2⟩

end Prog

end AppliverySoar.Async
