import AppliverySoar.Async.Logic

/-!
# Calls that are carried out by programs

A model that takes a function as one call is refined by running the function's
own program in the place of the call.

Results:
* `Prog.expand_bind`: expanding goes through a sequence.
-/

namespace AppliverySoar.Async.Prog

variable {S T : Sig} {ε α β : Type}

/-- The program with each of its calls carried out by a program of `T`. -/
def expand (impl : (c : S.Call) → Prog T ε (S.Ret c)) : Prog S ε α → Prog T ε α
  | .ret r => .ret r
  | .await c k => (impl c).attempt >>= fun r => (k r).expand impl

variable {impl : (c : S.Call) → Prog T ε (S.Ret c)}

@[simp] theorem expand_ret (r : Except ε α) : (.ret r : Prog S ε α).expand impl = .ret r := rfl

@[simp] theorem expand_await (c : S.Call) (k : Except ε (S.Ret c) → Prog S ε α) :
    (Prog.await c k).expand impl = (impl c).attempt >>= fun r => (k r).expand impl := rfl

@[simp] theorem expand_pure (a : α) : (pure a : Prog S ε α).expand impl = pure a := rfl

theorem attempt_bind_ret (p : Prog T ε α) : (p.attempt >>= fun r => .ret r) = p := by
  induction p with
  | ret r => rfl
  | await c k ih =>
    rw [attempt_await, await_bind]
    congr 1
    funext r
    exact ih r

theorem expand_bind (p : Prog S ε α) (f : α → Prog S ε β) :
    (p >>= f).expand impl = p.expand impl >>= fun a => (f a).expand impl := by
  induction p with
  | ret r => cases r <;> rfl
  | await c k ih =>
    rw [await_bind, expand_await, expand_await, bind_assoc]
    congr 1
    funext r
    exact ih r

end AppliverySoar.Async.Prog
