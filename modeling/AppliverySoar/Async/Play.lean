import AppliverySoar.Async.Program

/-!
# Programs against a player

A player answers every call from a state of its own, which each call may move
on. A program played against it has one result: two programs can be compared by
what they come to against every player.

Results:
* `play_bind_ok`, `play_attempt`: sequences, and parts whose failure is caught.
* `play_bind_inv`: a sequence that ends with a value did so in two parts.
-/

namespace AppliverySoar.Async

/-- Surroundings that answer every call in one way. -/
structure Player (S : Sig) (ε σ : Type) where
  answer : σ → (c : S.Call) → Except ε (S.Ret c)
  next : σ → S.Call → σ

namespace Prog

variable {S : Sig} {ε σ α β : Type} {P : Player S ε σ}

/-- The result of `p`, and what is left of the player. -/
def play (P : Player S ε σ) : Prog S ε α → σ → Except ε α × σ
  | .ret r, s => (r, s)
  | .await c k, s => (k (P.answer s c)).play P (P.next s c)

variable {p : Prog S ε α} {s s' : σ}

@[simp] theorem play_ret (r : Except ε α) (s : σ) : (.ret r : Prog S ε α).play P s = (r, s) := rfl

@[simp] theorem play_pure (a : α) (s : σ) : (pure a : Prog S ε α).play P s = (.ok a, s) := rfl

@[simp] theorem play_call (c : S.Call) (s : σ) :
    (call c : Prog S ε _).play P s = (P.answer s c, P.next s c) := rfl

theorem play_bind_ok {a : α} (h : p.play P s = (.ok a, s'))
    (f : α → Prog S ε β) : (p >>= f).play P s = (f a).play P s' := by
  induction p generalizing s with
  | ret r =>
    obtain ⟨rfl, rfl⟩ := Prod.mk.inj h
    rfl
  | await c k ih => exact ih _ h

theorem play_bind_error {e : ε} (h : p.play P s = (.error e, s'))
    (f : α → Prog S ε β) : (p >>= f).play P s = (.error e, s') := by
  induction p generalizing s with
  | ret r =>
    obtain ⟨rfl, rfl⟩ := Prod.mk.inj h
    rfl
  | await c k ih => exact ih _ h

theorem play_bind_inv {f : α → Prog S ε β} {b : β}
    (h : (p >>= f).play P s = (.ok b, s')) :
    ∃ a s₁, p.play P s = (.ok a, s₁) ∧ (f a).play P s₁ = (.ok b, s') := by
  cases hp : p.play P s with
  | mk r s₁ =>
    cases r with
    | ok a => exact ⟨a, s₁, rfl, play_bind_ok hp f ▸ h⟩
    | error e =>
      rw [play_bind_error hp] at h
      cases (Prod.mk.inj h).1

theorem play_attempt {r : Except ε α} (h : p.play P s = (r, s')) :
    p.attempt.play P s = (.ok r, s') := by
  induction p generalizing s with
  | ret r =>
    obtain ⟨rfl, rfl⟩ := Prod.mk.inj h
    rfl
  | await c k ih => exact ih _ h

end Prog

end AppliverySoar.Async
