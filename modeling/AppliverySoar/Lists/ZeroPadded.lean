import Mathlib.Data.List.GetD
import Mathlib.Order.PiLex

/-!
# Lists compared entry by entry, the shorter one padded with zeros

A loop goes over the indices of the longer list and stops at the first one at
which the entries differ. What it answers there differs from copy to copy: a sign,
a difference or a truth value. The order behind it is the lexicographic one of the
padded sequences, which Mathlib knows to be linear.

Results:
* `firstDifference_eq`: what the loop answers, in terms of the padded sequences.
* `padded_lt_iff`: the order reads the first index at which the lists differ.
* `padded_append_zeros`: zeros at the end change nothing.
-/

namespace AppliverySoar.Lists

open List

variable {α β : Type} [Zero α]

/-- The entries of a list, and zeros from its end on. -/
def padded (a : List α) : Lex (ℕ → α) :=
  toLex fun i => a.getD i 0

@[simp] theorem padded_apply (a : List α) (i : ℕ) : padded a i = a.getD i 0 := rfl

/-- `for (i …) if (a[i] !== b[i]) return differ(a[i], b[i]); return same`. -/
def firstDifference [DecidableEq α] (differ : α → α → β) (same : β) (a b : List α) : β :=
  (((List.range (max a.length b.length)).find? fun i => a.getD i 0 ≠ b.getD i 0).map fun i =>
    differ (a.getD i 0) (b.getD i 0)).getD same

theorem padded_eq_iff {a b : List α} : padded a = padded b ↔ ∀ i, a.getD i 0 = b.getD i 0 :=
  funext_iff

theorem padded_append_zeros (a : List α) (n : ℕ) : padded (a ++ replicate n 0) = padded a := by
  rw [padded_eq_iff]
  intro i
  rcases Nat.lt_or_ge i a.length with hi | hi
  · rw [getD_append _ _ _ _ hi]
  · rw [getD_append_right _ _ _ _ hi, getD_eq_default a 0 hi]
    rw [getD_eq_getElem?_getD]
    exact getElem?_getD_replicate_default_eq 0 n (i - a.length)

theorem getD_eq_of_length_le {a b : List α} {i : ℕ} (h : max a.length b.length ≤ i) :
    a.getD i 0 = b.getD i 0 := by
  rw [getD_eq_default a 0 ((Nat.le_max_left _ _).trans h),
    getD_eq_default b 0 ((Nat.le_max_right _ _).trans h)]

/-- **What the loop answers**: `same` for lists that are equal when padded, and
else what it makes of the first two entries that differ. -/
theorem firstDifference_eq [DecidableEq α] (differ : α → α → β) (same : β) (a b : List α) :
    (padded a = padded b ∧ firstDifference differ same a b = same) ∨
    ∃ i, (∀ j < i, padded a j = padded b j) ∧ padded a i ≠ padded b i ∧
      firstDifference differ same a b = differ (padded a i) (padded b i) := by
  unfold firstDifference
  cases hfind : (range (max a.length b.length)).find? fun i => a.getD i 0 ≠ b.getD i 0 with
  | none =>
    refine .inl ⟨padded_eq_iff.mpr fun i => ?_, rfl⟩
    rcases Nat.lt_or_ge i (max a.length b.length) with hi | hi
    · have hall := find?_eq_none.mp hfind i (mem_range.mpr hi)
      rw [decide_eq_true_eq, ne_eq, not_not] at hall
      exact hall
    · exact getD_eq_of_length_le hi
  | some i =>
    obtain ⟨hi, hmem, hbefore⟩ := find?_range_eq_some.mp hfind
    refine .inr ⟨i, fun j hj => ?_, of_decide_eq_true hi, rfl⟩
    have hsame := hbefore j hj
    rw [Bool.not_eq_true', decide_eq_false_iff_not, ne_eq, not_not] at hsame
    exact hsame

section Order

variable [LinearOrder α]

theorem padded_lt_iff {a b : List α} :
    padded a < padded b ↔
      ∃ i, (∀ j < i, a.getD j 0 = b.getD j 0) ∧ a.getD i 0 < b.getD i 0 :=
  Iff.rfl

/-- The answer of the loop, by the order of the padded sequences. -/
theorem firstDifference_cases (differ : α → α → β) (same : β) (a b : List α) :
    (padded a < padded b ∧
      ∃ x y, x < y ∧ firstDifference differ same a b = differ x y) ∨
    (padded a = padded b ∧ firstDifference differ same a b = same) ∨
    (padded b < padded a ∧ ∃ x y, y < x ∧ firstDifference differ same a b = differ x y) := by
  rcases firstDifference_eq differ same a b with heq | ⟨i, hbefore, hne, hresult⟩
  · exact .inr (.inl heq)
  · rcases lt_or_gt_of_ne hne with hlt | hgt
    · exact .inl ⟨⟨i, hbefore, hlt⟩, _, _, hlt, hresult⟩
    · exact .inr (.inr ⟨⟨i, fun j hj => (hbefore j hj).symm, hgt⟩, _, _, hgt, hresult⟩)

end Order

end AppliverySoar.Lists
