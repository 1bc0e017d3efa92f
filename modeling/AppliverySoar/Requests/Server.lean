import Mathlib.Tactic.Common

/-!
# Request servers and two runs of them

A server answers one request after the other, each with a response and a next
state. What somebody can tell about its state is what the responses to a list
of requests say.

Results:
* `run_related`: states related by a relation that every admissible request
  keeps, and under which it gets one response, cannot be told apart.
-/

namespace AppliverySoar.Requests

variable {St Rq Rs : Type}

/-- The responses to a list of requests, and the state they leave. -/
def run (handle : St → Rq → Rs × St) : St → List Rq → List Rs × St
  | s, [] => ([], s)
  | s, rq :: rqs =>
    let (r, s') := handle s rq
    let (rs, s'') := run handle s' rqs
    (r :: rs, s'')

/-- Every request of the list is admissible where it is handled. -/
def Along (handle : St → Rq → Rs × St) (ok : St → Rq → Prop) : St → List Rq → Prop
  | _, [] => True
  | s, rq :: rqs => ok s rq ∧ Along handle ok (handle s rq).2 rqs

@[simp] theorem run_nil (handle : St → Rq → Rs × St) (s : St) : run handle s [] = ([], s) := rfl

theorem run_cons (handle : St → Rq → Rs × St) (s : St) (rq : Rq) (rqs : List Rq) :
    run handle s (rq :: rqs) =
      ((handle s rq).1 :: (run handle (handle s rq).2 rqs).1,
        (run handle (handle s rq).2 rqs).2) := rfl

theorem run_related {handle : St → Rq → Rs × St} {ok : St → Rq → Prop} (R : St → St → Prop)
    (hstep : ∀ s₁ s₂ rq, R s₁ s₂ → ok s₁ rq → ok s₂ rq →
      (handle s₁ rq).1 = (handle s₂ rq).1 ∧ R (handle s₁ rq).2 (handle s₂ rq).2)
    {s₁ s₂ : St} {rqs : List Rq} (h₁ : Along handle ok s₁ rqs) (h₂ : Along handle ok s₂ rqs)
    (h : R s₁ s₂) :
    (run handle s₁ rqs).1 = (run handle s₂ rqs).1 ∧
      R (run handle s₁ rqs).2 (run handle s₂ rqs).2 := by
  induction rqs generalizing s₁ s₂ with
  | nil => exact ⟨rfl, h⟩
  | cons rq rqs ih =>
    obtain ⟨hresp, hrel⟩ := hstep s₁ s₂ rq h h₁.1 h₂.1
    obtain ⟨hresps, hrels⟩ := ih h₁.2 h₂.2 hrel
    rw [run_cons, run_cons]
    exact ⟨by rw [hresp, hresps], hrels⟩

end AppliverySoar.Requests
