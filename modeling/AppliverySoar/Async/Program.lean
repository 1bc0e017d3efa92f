import Mathlib.Tactic.Common

/-!
# Asynchronous programs as trees of awaited calls

An `async` function is cut by its `await`s: between two of them it runs
without interruption, and at each of them it hands a call to its
surroundings and goes on with whatever comes back, a value or an exception.
`Prog S ε α` is that shape: a tree whose inner nodes are the awaited calls of
a signature `S` and whose branches are the possible answers.

Results:
* `Prog.instLawfulMonad`: sequencing obeys the monad laws, so `do` blocks may
  be reassociated.
* `Prog.Steps.bind`, `Prog.Steps.tryCatch`: a run of the first part of a
  program is a run of the whole program up to there.
-/

namespace AppliverySoar.Async

/-- The calls a family of programs may await, each with the type of its
answer. -/
structure Sig where
  Call : Type
  Ret : Call → Type

/-- A program: it has ended (with a value or with an exception that nobody
caught), or it awaits a call and continues with the answer. -/
inductive Prog (S : Sig) (ε α : Type) where
  | ret (r : Except ε α)
  | await (c : S.Call) (k : Except ε (S.Ret c) → Prog S ε α)

/-- A call together with the answer it got. -/
structure Event (S : Sig) (ε : Type) where
  call : S.Call
  answer : Except ε (S.Ret call)

namespace Prog

variable {S : Sig} {ε α β γ : Type}

/-! ## Sequencing and exceptions -/

/-- `p` and then `f`; an exception of `p` skips `f`. -/
def bind : Prog S ε α → (α → Prog S ε β) → Prog S ε β
  | .ret (.ok a), f => f a
  | .ret (.error e), _ => .ret (.error e)
  | .await c k, f => .await c fun r => (k r).bind f

/-- `try p catch (e) { h e }`. -/
def tryCatch : Prog S ε α → (ε → Prog S ε α) → Prog S ε α
  | .ret (.ok a), _ => .ret (.ok a)
  | .ret (.error e), h => h e
  | .await c k, h => .await c fun r => (k r).tryCatch h

/-- `p` with its outcome as a value: what follows can go on from what it had
reached when `p` threw. -/
def attempt : Prog S ε α → Prog S ε (Except ε α)
  | .ret r => .ret (.ok r)
  | .await c k => .await c fun r => (k r).attempt

instance : Monad (Prog S ε) where
  pure a := .ret (.ok a)
  bind := bind

instance : MonadExceptOf ε (Prog S ε) where
  throw e := .ret (.error e)
  tryCatch := tryCatch

/-- `await c`: an answered exception is thrown on. -/
def call (c : S.Call) : Prog S ε (S.Ret c) :=
  .await c .ret

@[simp] theorem pure_eq (a : α) : (pure a : Prog S ε α) = .ret (.ok a) := rfl

@[simp] theorem throw_eq (e : ε) : (throw e : Prog S ε α) = .ret (.error e) := rfl

@[simp] theorem ret_ok_bind (a : α) (f : α → Prog S ε β) :
    ((.ret (.ok a) : Prog S ε α) >>= f) = f a := rfl

@[simp] theorem ret_error_bind (e : ε) (f : α → Prog S ε β) :
    ((.ret (.error e) : Prog S ε α) >>= f) = .ret (.error e) := rfl

@[simp] theorem await_bind (c : S.Call) (k : Except ε (S.Ret c) → Prog S ε α)
    (f : α → Prog S ε β) :
    ((.await c k : Prog S ε α) >>= f) = .await c fun r => k r >>= f := rfl

@[simp] theorem tryCatch_ret_ok (a : α) (h : ε → Prog S ε α) :
    (tryCatchThe ε (.ret (.ok a) : Prog S ε α) h) = .ret (.ok a) := rfl

@[simp] theorem tryCatch_ret_error (e : ε) (h : ε → Prog S ε α) :
    (tryCatchThe ε (.ret (.error e) : Prog S ε α) h) = h e := rfl

@[simp] theorem tryCatch_await (c : S.Call) (k : Except ε (S.Ret c) → Prog S ε α)
    (h : ε → Prog S ε α) :
    (tryCatchThe ε (.await c k : Prog S ε α) h) =
      .await c fun r => tryCatchThe ε (k r) h := rfl

@[simp] theorem attempt_ret (r : Except ε α) :
    (.ret r : Prog S ε α).attempt = .ret (.ok r) := rfl

@[simp] theorem attempt_await (c : S.Call) (k : Except ε (S.Ret c) → Prog S ε α) :
    (.await c k : Prog S ε α).attempt = .await c fun r => (k r).attempt := rfl

theorem bind_assoc (p : Prog S ε α) (f : α → Prog S ε β) (g : β → Prog S ε γ) :
    p >>= f >>= g = p >>= fun a => f a >>= g := by
  induction p with
  | ret r => cases r <;> rfl
  | await c k ih =>
    simp only [await_bind]
    congr 1
    funext r
    exact ih r

theorem bind_pure_comp' (p : Prog S ε α) : p >>= pure = p := by
  induction p with
  | ret r => cases r <;> rfl
  | await c k ih =>
    simp only [await_bind]
    congr 1
    funext r
    exact ih r

instance instLawfulMonad : LawfulMonad (Prog S ε) :=
  LawfulMonad.mk' (Prog S ε)
    (fun p => bind_pure_comp' p)
    (fun _ _ => rfl)
    bind_assoc

/-! ## Partial runs -/

/-- `Steps p es q`: from `p`, the calls and answers `es` lead to `q`. -/
inductive Steps : Prog S ε α → List (Event S ε) → Prog S ε α → Prop
  | refl (p : Prog S ε α) : Steps p [] p
  | head {c : S.Call} {k : Except ε (S.Ret c) → Prog S ε α} {r : Except ε (S.Ret c)}
      {es : List (Event S ε)} {q : Prog S ε α} :
      Steps (k r) es q → Steps (.await c k) (⟨c, r⟩ :: es) q

variable {c : S.Call} {es : List (Event S ε)} {p : Prog S ε α}

theorem Steps.call {a : S.Ret c} {f : S.Ret c → Prog S ε α}
    {q : Prog S ε α} (h : Steps (f a) es q) :
    Steps ((Prog.call c : Prog S ε _) >>= f) (⟨c, .ok a⟩ :: es) q :=
  .head h

theorem Steps.trans {p q r : Prog S ε α} {es fs : List (Event S ε)}
    (h : Steps p es q) (h' : Steps q fs r) : Steps p (es ++ fs) r := by
  induction h with
  | refl p => exact h'
  | head _ ih => exact .head (ih h')

theorem Steps.snoc
    {k : Except ε (S.Ret c) → Prog S ε α} (h : Steps p es (.await c k))
    (r : Except ε (S.Ret c)) : Steps p (es ++ [⟨c, r⟩]) (k r) :=
  h.trans (.head (.refl (k r)))

theorem Steps.split {p r : Prog S ε α} {es fs : List (Event S ε)}
    (h : Steps p (es ++ fs) r) : ∃ q, Steps p es q ∧ Steps q fs r := by
  induction es generalizing p with
  | nil => exact ⟨p, .refl p, h⟩
  | cons e es ih =>
    cases h with
    | head h =>
      obtain ⟨q, hq, hr⟩ := ih h
      exact ⟨q, .head hq, hr⟩

theorem Steps.ret_unique {es es' fs fs' : List (Event S ε)} {r r' : Except ε α}
    (h : Steps p es (.ret r)) (h' : Steps p es' (.ret r')) (hes : es ++ fs = es' ++ fs') :
    es = es' ∧ r = r' := by
  induction p generalizing es es' with
  | ret x =>
    cases h
    cases h'
    exact ⟨rfl, rfl⟩
  | await c k ih =>
    cases h with
    | head h =>
      cases h' with
      | head h' =>
        rw [List.cons_append, List.cons_append] at hes
        obtain ⟨hhead, htail⟩ := List.cons.inj hes
        obtain rfl := eq_of_heq (Event.mk.inj hhead).2
        obtain ⟨rfl, rfl⟩ := ih _ h h' htail
        exact ⟨rfl, rfl⟩

theorem Steps.bind {p q : Prog S ε α} (h : Steps p es q)
    (f : α → Prog S ε β) : Steps (p >>= f) es (q >>= f) := by
  induction h with
  | refl p => exact .refl _
  | head _ ih => exact .head ih

/-- A sequence that ends with a value is a run of its first part that ends with a
value, and a run of what follows. -/
theorem Steps.of_bind_ok {f : α → Prog S ε β} {b : β}
    (h : Steps (p >>= f) es (.ret (.ok b))) :
    ∃ a fs gs, es = fs ++ gs ∧ Steps p fs (.ret (.ok a)) ∧ Steps (f a) gs (.ret (.ok b)) := by
  induction p generalizing es with
  | ret r =>
    cases r with
    | ok a => exact ⟨a, [], es, rfl, .refl _, h⟩
    | error e => cases h
  | await c k ih =>
    cases h with
    | @head _ _ r es _ hrest =>
      obtain ⟨a, fs, gs, rfl, hfirst, hnext⟩ := ih r hrest
      exact ⟨a, ⟨c, r⟩ :: fs, gs, rfl, .head hfirst, hnext⟩

theorem Steps.of_call_bind_ok {f : S.Ret c → Prog S ε β}
    {b : β} (h : Steps ((Prog.call c : Prog S ε _) >>= f) es (.ret (.ok b))) :
    ∃ a gs, es = ⟨c, .ok a⟩ :: gs ∧ Steps (f a) gs (.ret (.ok b)) := by
  obtain ⟨a, fs, gs, rfl, hfirst, hnext⟩ := h.of_bind_ok
  cases hfirst with
  | head hend =>
    cases hend
    exact ⟨a, gs, rfl, hnext⟩

theorem Steps.tryCatch {p q : Prog S ε α} (h : Steps p es q)
    (f : ε → Prog S ε α) : Steps (tryCatchThe ε p f) es (tryCatchThe ε q f) := by
  induction h with
  | refl p => exact .refl _
  | head _ ih => exact .head ih

theorem Steps.attempt {p q : Prog S ε α} (h : Steps p es q) :
    Steps p.attempt es q.attempt := by
  induction h with
  | refl p => exact .refl _
  | head _ ih => exact .head ih

theorem Steps.of_attempt {r : Except ε α}
    (h : Steps p.attempt es (.ret (.ok r))) : Steps p es (.ret r) := by
  induction p generalizing es with
  | ret r' =>
    cases h
    exact .refl _
  | await c k ih =>
    cases h with
    | head h => exact .head (ih _ h)

end Prog

end AppliverySoar.Async
