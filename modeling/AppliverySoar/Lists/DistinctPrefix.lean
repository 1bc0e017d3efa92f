import Mathlib.Data.List.Nodup

/-!
# The part of a list before its first repetition

Results:
* `longestDistinct_distinctPrefix`: it is the longest prefix that has no element twice.
-/

namespace AppliverySoar.Lists

open List

variable {α : Type}

/-- `p` is the longest prefix of `l` that has at most `n` elements and none twice. -/
structure LongestDistinct (n : ℕ) (p l : List α) : Prop where
  isPrefix : p <+: l
  nodup : p.Nodup
  length_le : p.length ≤ n
  longest : ∀ p', p' <+: l → p'.Nodup → p'.length ≤ n → p' <+: p

variable [DecidableEq α] {seen l p : List α}

/-- The elements in front of the first that has been seen. -/
def distinctPrefix : List α → List α → List α
  | _, [] => []
  | seen, a :: l => if a ∈ seen then [] else a :: distinctPrefix (a :: seen) l

theorem distinctPrefix_cons_of_mem {a : α} (h : a ∈ seen) : distinctPrefix seen (a :: l) = [] :=
  if_pos h

theorem distinctPrefix_cons_of_not_mem {a : α} (h : a ∉ seen) :
    distinctPrefix seen (a :: l) = a :: distinctPrefix (a :: seen) l :=
  if_neg h

theorem distinctPrefix_isPrefix (seen l : List α) : distinctPrefix seen l <+: l := by
  induction l generalizing seen with
  | nil => exact prefix_refl _
  | cons a l ih =>
    by_cases h : a ∈ seen
    · rw [distinctPrefix_cons_of_mem h]
      exact nil_prefix
    · rw [distinctPrefix_cons_of_not_mem h]
      exact (prefix_cons_inj a).mpr (ih (a :: seen))

/-- Nothing of it has been seen, and nothing of it comes twice. -/
theorem distinctPrefix_fresh (seen l : List α) :
    (∀ a ∈ distinctPrefix seen l, a ∉ seen) ∧ (distinctPrefix seen l).Nodup := by
  induction l generalizing seen with
  | nil => exact ⟨fun a ha => absurd ha not_mem_nil, nodup_nil⟩
  | cons a l ih =>
    by_cases h : a ∈ seen
    · rw [distinctPrefix_cons_of_mem h]
      exact ⟨fun a ha => absurd ha not_mem_nil, nodup_nil⟩
    · obtain ⟨hfresh, hnodup⟩ := ih (a :: seen)
      rw [distinctPrefix_cons_of_not_mem h]
      refine ⟨fun b hb => ?_, nodup_cons.mpr ⟨fun ha => ?_, hnodup⟩⟩
      · rcases mem_cons.mp hb with rfl | hb
        · exact h
        · exact fun hseen => hfresh b hb (mem_cons_of_mem a hseen)
      · exact hfresh a ha mem_cons_self

theorem prefix_distinctPrefix (hp : p <+: l) (hnodup : p.Nodup) (hfresh : ∀ a ∈ p, a ∉ seen) :
    p <+: distinctPrefix seen l := by
  induction l generalizing seen p with
  | nil => exact hp
  | cons a l ih =>
    cases p with
    | nil => exact nil_prefix
    | cons b p =>
      obtain ⟨rfl, htail⟩ := cons_prefix_cons.mp hp
      obtain ⟨hb, hnodup⟩ := nodup_cons.mp hnodup
      rw [distinctPrefix_cons_of_not_mem (hfresh b mem_cons_self)]
      refine (prefix_cons_inj b).mpr (ih htail hnodup fun c hc hseen => ?_)
      rcases mem_cons.mp hseen with rfl | hseen
      · exact hb hc
      · exact hfresh c (mem_cons_of_mem b hc) hseen

/-- Of a list that is not longer than `n` it is the longest. -/
theorem longestDistinct_distinctPrefix {n : ℕ} (h : l.length ≤ n) :
    LongestDistinct n (distinctPrefix [] l) l where
  isPrefix := distinctPrefix_isPrefix [] l
  nodup := (distinctPrefix_fresh [] l).2
  length_le := Nat.le_trans (distinctPrefix_isPrefix [] l).length_le h
  longest _ hp hnodup _ := prefix_distinctPrefix hp hnodup fun _ _ => not_mem_nil

end AppliverySoar.Lists
