import AppliverySoar.Async.Program

/-!
# Programs with fixed answers

A program that only reads is a function of what it reads: with an answer fixed
for every call it comes to one result.

Results:
* `eval_bind`, `eval_foldlM`: sequences and loops of programs.
-/

namespace AppliverySoar.Async

namespace Prog

variable {S : Sig} {ε α β : Type} (answer : (c : S.Call) → Except ε (S.Ret c))

/-- The result of `p` when its calls are answered by `answer`. -/
def eval : Prog S ε α → Except ε α
  | .ret r => r
  | .await c k => (k (answer c)).eval

variable {answer}

variable {p : Prog S ε α}

@[simp] theorem eval_ret (r : Except ε α) : (.ret r : Prog S ε α).eval answer = r := rfl

@[simp] theorem eval_pure (a : α) : (pure a : Prog S ε α).eval answer = .ok a := rfl

@[simp] theorem eval_call (c : S.Call) : (call c : Prog S ε _).eval answer = answer c := rfl

theorem eval_bind {a : α} (h : p.eval answer = .ok a) (f : α → Prog S ε β) :
    (p >>= f).eval answer = (f a).eval answer := by
  induction p with
  | ret r =>
    obtain rfl : r = .ok a := h
    rfl
  | await c k ih => exact ih _ h

theorem eval_tryCatch {a : α} (h : p.eval answer = .ok a)
    (f : ε → Prog S ε α) : (tryCatchThe ε p f).eval answer = .ok a := by
  induction p with
  | ret r =>
    obtain rfl : r = .ok a := h
    rfl
  | await c k ih => exact ih _ h

theorem eval_foldlM {f : β → α → Prog S ε β} {g : β → α → β}
    (h : ∀ b a, (f b a).eval answer = .ok (g b a)) (l : List α) (b : β) :
    (l.foldlM f b).eval answer = .ok (l.foldl g b) := by
  induction l generalizing b with
  | nil => rfl
  | cons a l ih => rw [List.foldlM_cons, eval_bind (h b a), ih, List.foldl_cons]

end Prog

end AppliverySoar.Async
