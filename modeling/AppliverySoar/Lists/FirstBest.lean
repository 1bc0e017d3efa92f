import Mathlib.Data.List.Perm.Basic

/-!
# The first of the best elements of a list

`firstBest` keeps the element of least rank that comes first. A window is what a list shows
of its first `k` elements.

Results:
* `firstBest_mem`, `firstBest_le`, `firstBest_of_head`: what is kept.
* `avoids_iff`: a list can be arranged so that its window has no element with a property,
  exactly if there are enough others.
* `wins_iff`: an element is kept of some window, exactly if that window can avoid all better
  ones.
-/

namespace AppliverySoar.Lists

open List

variable {α : Type} {rank : α → ℕ} {p q : α → Bool}

/-- The element of least rank that comes first. -/
def firstBest (rank : α → ℕ) : List α → Option α
  | [] => none
  | a :: as => some (as.foldl (fun best cur => if rank cur < rank best then cur else best) a)

theorem foldl_best (as : List α) (a : α) :
    let w := as.foldl (fun best cur => if rank cur < rank best then cur else best) a
    w ∈ a :: as ∧ ∀ b ∈ a :: as, rank w ≤ rank b := by
  induction as generalizing a with
  | nil => simp
  | cons c as ih =>
    dsimp only [foldl_cons]
    split
    · next hlt =>
      obtain ⟨hmem, hle⟩ := ih c
      refine ⟨mem_cons_of_mem a hmem, fun b hb => ?_⟩
      rcases mem_cons.mp hb with rfl | hb
      · exact Nat.le_of_lt (Nat.lt_of_le_of_lt (hle c mem_cons_self) hlt)
      · exact hle b hb
    · next hlt =>
      obtain ⟨hmem, hle⟩ := ih a
      refine ⟨?_, fun b hb => ?_⟩
      · rcases mem_cons.mp hmem with heq | hmem
        · exact mem_cons.mpr (Or.inl heq)
        · exact mem_cons_of_mem a (mem_cons_of_mem c hmem)
      · rcases mem_cons.mp hb with rfl | hb
        · exact hle b mem_cons_self
        · rcases mem_cons.mp hb with rfl | hb
          · exact Nat.le_trans (hle a mem_cons_self) (Nat.le_of_not_lt hlt)
          · exact hle b (mem_cons_of_mem a hb)

variable {l : List α} {w : α} {as : List α}

theorem firstBest_mem (h : firstBest rank l = some w) : w ∈ l := by
  cases l with
  | nil => cases h
  | cons a as => exact Option.some.inj h ▸ (foldl_best as a).1

theorem firstBest_le (h : firstBest rank l = some w) : ∀ a ∈ l, rank w ≤ rank a := by
  cases l with
  | nil => cases h
  | cons a as => exact Option.some.inj h ▸ (foldl_best as a).2

theorem firstBest_isSome (rank : α → ℕ) (h : l ≠ []) : ∃ w, firstBest rank l = some w := by
  cases l with
  | nil => exact absurd rfl h
  | cons a as => exact ⟨_, rfl⟩

theorem firstBest_of_head (h : ∀ a ∈ as, rank w ≤ rank a) :
    firstBest rank (w :: as) = some w := by
  refine congrArg some ?_
  induction as with
  | nil => rfl
  | cons c as ih =>
    rw [foldl_cons, if_neg (Nat.not_lt_of_le (h c mem_cons_self))]
    exact ih fun a ha => h a (mem_cons_of_mem c ha)

/-! ## Windows -/

variable {k : ℕ}

theorem take_append_avoids (bs : List α) (has : ∀ a ∈ as, q a = false)
    (hk : bs.length + min k (as ++ bs).length ≤ (as ++ bs).length) :
    ∀ a ∈ (as ++ bs).take k, q a = false := by
  intro a ha
  rw [length_append] at hk
  by_cases hle : k ≤ as.length
  · rw [take_append_of_le_length hle] at ha
    exact has a (mem_of_mem_take ha)
  · have hnil : bs = [] := length_eq_zero_iff.mp (by omega)
    rw [hnil, append_nil] at ha
    exact has a (mem_of_mem_take ha)

theorem count_of_avoids {l order : List α} (hperm : order.Perm l)
    (h : ∀ a ∈ order.take k, q a = false) : l.countP q + min k l.length ≤ l.length := by
  have hcount : l.countP q = (order.drop k).countP q := by
    rw [← hperm.countP_eq, ← take_append_drop k order, countP_append,
      countP_eq_zero.mpr fun a ha => by simp [h a ha], take_append_drop, Nat.zero_add]
  have hle := countP_le_length (p := q) (l := order.drop k)
  rw [length_drop, hperm.length_eq] at hle
  omega

/-- A window can be without an element with a property exactly if there are enough others. -/
theorem avoids_iff (l : List α) (k : ℕ) :
    (∃ order : List α, order.Perm l ∧ ∀ a ∈ order.take k, q a = false) ↔
      l.countP q + min k l.length ≤ l.length := by
  constructor
  · rintro ⟨order, hperm, h⟩
    exact count_of_avoids hperm h
  · intro h
    have hperm : ((l.filter fun a => !q a) ++ l.filter q).Perm l :=
      perm_append_comm.trans (filter_append_perm q l)
    refine ⟨_, hperm, take_append_avoids _ (fun a ha => ?_) ?_⟩
    · simpa using (mem_filter.mp ha).2
    · rw [hperm.length_eq, ← countP_eq_length_filter]
      exact h

/-- An element can be the best of a window, the first of those with a property, exactly if
the window can be without a better one. -/
theorem wins_iff (l : List α) (hk : 0 < k) (r : α) :
    (∃ order : List α, order.Perm l ∧ firstBest rank ((order.take k).filter p) = some r) ↔
      r ∈ l ∧ p r = true ∧
      l.countP (fun a => p a && decide (rank a < rank r)) + min k l.length ≤ l.length := by
  constructor
  · rintro ⟨order, hperm, h⟩
    obtain ⟨hmem, hp⟩ := mem_filter.mp (firstBest_mem h)
    refine ⟨hperm.mem_iff.mp (mem_of_mem_take hmem), hp, count_of_avoids hperm fun a ha => ?_⟩
    by_contra hbetter
    simp only [Bool.not_eq_false, Bool.and_eq_true, decide_eq_true_eq] at hbetter
    have hle := firstBest_le h a (mem_filter.mpr ⟨ha, hbetter.1⟩)
    exact Nat.not_le_of_lt hbetter.2 hle
  · rintro ⟨hmem, hp, hcount⟩
    set better : α → Bool := fun a => p a && decide (rank a < rank r) with hbetter
    have hr : better r = false := by simp [hbetter]
    have hin : r ∈ l.filter fun a => !better a := mem_filter.mpr ⟨hmem, by rw [hr]; rfl⟩
    obtain ⟨before, after, hsplit⟩ := append_of_mem hin
    -- the element itself, the others that are not better, and those that are
    have hperm : ((r :: (before ++ after)) ++ l.filter better).Perm l := by
      have hmiddle : (r :: (before ++ after)).Perm (l.filter fun a => !better a) := by
        rw [hsplit]
        exact perm_middle.symm
      exact (hmiddle.append_right _).trans
        (perm_append_comm.trans (filter_append_perm better l))
    have hnot : ∀ a ∈ r :: (before ++ after), better a = false := fun a ha => by
      have hfilter : a ∈ l.filter fun a => !better a := by
        rw [hsplit]
        exact perm_middle.symm.mem_iff.mp ha
      simpa using (mem_filter.mp hfilter).2
    have henough : (l.filter better).length + min k
        ((r :: (before ++ after)) ++ l.filter better).length ≤
        ((r :: (before ++ after)) ++ l.filter better).length := by
      rw [hperm.length_eq, ← countP_eq_length_filter]
      exact hcount
    have hwindow := take_append_avoids (l.filter better) hnot henough
    refine ⟨_, hperm, ?_⟩
    obtain ⟨k, rfl⟩ := Nat.exists_eq_succ_of_ne_zero (Nat.ne_of_gt hk)
    rw [cons_append, take_succ_cons, filter_cons_of_pos hp]
    refine firstBest_of_head fun a ha => ?_
    obtain ⟨htake, hpa⟩ := mem_filter.mp ha
    have hworse := hwindow a (by
      rw [cons_append, take_succ_cons]
      exact mem_cons_of_mem r htake)
    simpa [hbetter, hpa] using hworse

end AppliverySoar.Lists
