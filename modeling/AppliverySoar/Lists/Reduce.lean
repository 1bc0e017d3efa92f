/-!
# What `reduce` keeps

`reduce` without a first value takes the head of the list for it. A step that answers one of
its two arguments, and one that is not behind the other, keeps an element that no other is
ahead of.
-/

namespace AppliverySoar.Lists

open List

variable {α : Type} {f : α → α → α} {l : List α} {r : α}

/-- `l.reduce(f)`; the source never calls it on an empty list. -/
def reduce (f : α → α → α) : List α → Option α
  | [] => none
  | a :: l => some (l.foldl f a)

theorem reduce_isSome (f : α → α → α) (hl : l ≠ []) : ∃ r, reduce f l = some r := by
  cases l with
  | nil => exact absurd rfl hl
  | cons a l => exact ⟨_, rfl⟩

theorem mem_of_reduce (hf : ∀ a b, f a b = a ∨ f a b = b) (h : reduce f l = some r) : r ∈ l := by
  cases l with
  | nil => cases h
  | cons a l =>
    cases h
    induction l generalizing a with
    | nil => exact mem_cons_self
    | cons b l ih =>
      rw [foldl_cons]
      rcases mem_cons.mp (ih (f a b)) with heq | hmem
      · rw [heq]
        rcases hf a b with hab | hab <;> rw [hab]
        · exact mem_cons_self
        · exact mem_cons_of_mem a mem_cons_self
      · exact mem_cons_of_mem a (mem_cons_of_mem b hmem)

/-- **Nothing is ahead of what is kept.** -/
theorem ahead_of_reduce (le : α → α → Prop) (hrefl : ∀ a, le a a)
    (htrans : ∀ a b c, le a b → le b c → le a c) (hf : ∀ a b, le a (f a b) ∧ le b (f a b))
    (h : reduce f l = some r) : ∀ a ∈ l, le a r := by
  cases l with
  | nil => exact fun _ ha => nomatch ha
  | cons a l =>
    cases h
    induction l generalizing a with
    | nil => exact fun x hx => mem_singleton.mp hx ▸ hrefl a
    | cons b l ih =>
      intro x hx
      have hab : le (f a b) (l.foldl f (f a b)) := ih (f a b) _ mem_cons_self
      rw [foldl_cons]
      rcases mem_cons.mp hx with rfl | hx
      · exact htrans _ _ _ (hf x b).1 hab
      · rcases mem_cons.mp hx with rfl | hx
        · exact htrans _ _ _ (hf a x).2 hab
        · exact ih (f a b) x (mem_cons_of_mem _ hx)

end AppliverySoar.Lists
