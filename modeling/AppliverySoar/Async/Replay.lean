import AppliverySoar.Async.Program

/-!
# Programs whose surroundings change

Each call of a program is answered from the state in which its surroundings are
at that moment. What a program comes to is then a matter of the sequence of
states that its calls meet.

Results:
* `replay_snoc`: one more answer continues what has been replayed.
* `replay_congr`: where two surroundings give the same answers in every state
  that is met, a program comes to the same.
-/

namespace AppliverySoar.Async

namespace Prog

variable {S : Sig} {ε σ α : Type} {answer answer' : σ → (c : S.Call) → Except ε (S.Ret c)}

/-- The pending call of a program is answered in state `s`. -/
def advance (answer : σ → (c : S.Call) → Except ε (S.Ret c)) (p : Prog S ε α) (s : σ) :
    Prog S ε α :=
  match p with
  | .ret r => .ret r
  | .await c k => k (answer s c)

/-- What is left of a program whose calls have met the states `ss`. -/
def replay (answer : σ → (c : S.Call) → Except ε (S.Ret c)) (p : Prog S ε α) (ss : List σ) :
    Prog S ε α :=
  ss.foldl (advance answer) p

@[simp] theorem replay_nil (p : Prog S ε α) : p.replay answer [] = p := rfl

theorem replay_snoc (p : Prog S ε α) (ss : List σ) (s : σ) :
    p.replay answer (ss ++ [s]) = (p.replay answer ss).advance answer s := by
  simp [replay]

theorem replay_congr (p : Prog S ε α) {ss : List σ}
    (h : ∀ s ∈ ss, ∀ c, answer s c = answer' s c) : p.replay answer ss = p.replay answer' ss := by
  induction ss generalizing p with
  | nil => rfl
  | cons s ss ih =>
    have hhead : p.advance answer s = p.advance answer' s := by
      cases p with
      | ret r => rfl
      | await c k => exact congrArg k (h s List.mem_cons_self c)
    show (p.advance answer s).replay answer ss = (p.advance answer' s).replay answer' ss
    rw [hhead]
    exact ih _ fun t ht => h t (List.mem_cons_of_mem _ ht)

end Prog

end AppliverySoar.Async
