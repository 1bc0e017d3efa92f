import Mathlib.Data.List.Perm.Subperm
import Mathlib.Order.Nat

/-!
# Taking turns by age

At every tick the elements of least rank have their turn, at most `b` of them, and
go behind all others.

Results:
* `le_of_oldest`: who has a turn is not behind one who waits.
* `served_within`: every element has a turn within as many ticks as `b` goes into
  their number.
-/

namespace AppliverySoar.Lists

open List

variable {α : Type}

/-- The `b` elements of least rank; elements of one rank come as in the list. -/
def oldest (rank : α → ℕ) (b : ℕ) (l : List α) : List α :=
  (l.mergeSort fun x y => rank x ≤ rank y).take b

section Oldest

variable {rank : α → ℕ} {b : ℕ} {l : List α} {x y : α}

theorem mem_of_oldest (h : x ∈ oldest rank b l) : x ∈ l :=
  mem_mergeSort.mp (mem_of_mem_take h)

theorem nodup_oldest (h : l.Nodup) : (oldest rank b l).Nodup :=
  ((mergeSort_perm l _).nodup_iff.mpr h).sublist (take_sublist _ _)

theorem length_oldest : (oldest rank b l).length = min b l.length := by
  rw [oldest, length_take, length_mergeSort]

theorem le_of_oldest (hx : x ∈ oldest rank b l) (hy : y ∈ l) (hwaits : y ∉ oldest rank b l) :
    rank x ≤ rank y := by
  have hsorted : (l.mergeSort fun x y => rank x ≤ rank y).Pairwise
      fun x y => decide (rank x ≤ rank y) = true := by
    refine pairwise_mergeSort (fun x y z hxy hyz => ?_) (fun x y => ?_) l
    · exact decide_eq_true ((of_decide_eq_true hxy).trans (of_decide_eq_true hyz))
    · rw [Bool.or_eq_true, decide_eq_true_iff, decide_eq_true_iff]
      exact le_total _ _
  have hbehind : y ∈ (l.mergeSort fun x y => rank x ≤ rank y).drop b := by
    have hmem : y ∈ l.mergeSort fun x y => rank x ≤ rank y := mem_mergeSort.mpr hy
    rw [← take_append_drop b (l.mergeSort _)] at hmem
    exact (mem_append.mp hmem).resolve_left hwaits
  rw [← take_append_drop b (l.mergeSort _)] at hsorted
  exact of_decide_eq_true ((pairwise_append.mp hsorted).2.2 x hx y hbehind)

/-- When somebody waits, all `b` turns are taken. -/
theorem length_oldest_of_waits (hy : y ∈ l) (hwaits : y ∉ oldest rank b l) :
    (oldest rank b l).length = b := by
  rw [length_oldest]
  refine min_eq_left (le_of_not_gt fun hlt => hwaits ?_)
  rw [oldest, take_of_length_le (by rw [length_mergeSort]; exact hlt.le)]
  exact mem_mergeSort.mpr hy

end Oldest

/-- A tick over `l`, whose elements come in some order: who has a turn goes behind all others, and
nobody else moves. -/
structure Turn (b : ℕ) (l order : List α) (rank rank' : α → ℕ) : Prop where
  perm : order.Perm l
  behind : ∀ x ∈ oldest rank b order, ∀ y ∈ l, rank y < rank' x
  others : ∀ x ∈ l, x ∉ oldest rank b order → rank' x = rank x

section Turns

variable [DecidableEq α] {b : ℕ} {l : List α} {x : α}

/-- Those that have had no turn in the first `i` batches. -/
def waiting (batch : ℕ → List α) (l : List α) : ℕ → List α
  | 0 => l
  | i + 1 => (waiting batch l i).filter fun x => x ∉ batch i

theorem mem_waiting {batch : ℕ → List α} (i : ℕ) :
    x ∈ waiting batch l i ↔ x ∈ l ∧ ∀ k < i, x ∉ batch k := by
  induction i with
  | zero => exact ⟨fun h => ⟨h, fun _ hk => absurd hk (Nat.not_lt_zero _)⟩, fun h => h.1⟩
  | succ i ih =>
    rw [waiting, mem_filter, ih, decide_eq_true_iff, and_assoc]
    refine and_congr_right fun _ => ⟨fun ⟨hbefore, hlast⟩ k hk => ?_, fun h =>
      ⟨fun k hk => h k (Nat.lt_succ_of_lt hk), h i (Nat.lt_succ_self i)⟩⟩
    rcases Nat.lt_succ_iff_lt_or_eq.mp hk with hk | rfl
    · exact hbefore k hk
    · exact hlast

variable {order : ℕ → List α} {rank : ℕ → α → ℕ} {w i : ℕ}

/-- The batches of the ticks. -/
def batches (b : ℕ) (order : ℕ → List α) (rank : ℕ → α → ℕ) (i : ℕ) : List α :=
  oldest (rank i) b (order i)

theorem waiting_ahead (hturn : ∀ i < w, Turn b l (order i) (rank i) (rank (i + 1)))
    (hi : i ≤ w) : ∀ x ∈ waiting (batches b order rank) l i, ∀ y ∈ l,
      y ∉ waiting (batches b order rank) l i → rank i x < rank i y := by
  induction i with
  | zero => exact fun _ _ y hy hnot => absurd hy hnot
  | succ i ih =>
    intro x hx y hy hnot
    have hstep := hturn i hi
    obtain ⟨hxw, hxb⟩ := mem_filter.mp hx
    have hxb : x ∉ oldest (rank i) b (order i) := of_decide_eq_true hxb
    have hxl : x ∈ l := ((mem_waiting i).mp hxw).1
    rw [hstep.others x hxl hxb]
    by_cases hyb : y ∈ oldest (rank i) b (order i)
    · exact hstep.behind y hyb x hxl
    · rw [hstep.others y hy hyb]
      refine ih (Nat.le_of_succ_le hi) x hxw y hy fun hyw => hnot ?_
      exact mem_filter.mpr ⟨hyw, decide_eq_true hyb⟩

/-- **Step lemma**: at every tick `b` of those that wait have a turn, or all of them. -/
theorem length_waiting_succ (hl : l.Nodup)
    (hturn : ∀ i < w, Turn b l (order i) (rank i) (rank (i + 1))) (hi : i < w) :
    (waiting (batches b order rank) l (i + 1)).length ≤
      (waiting (batches b order rank) l i).length - b := by
  have hstep := hturn i hi
  have hmem : ∀ {x}, x ∈ order i ↔ x ∈ l := hstep.perm.mem_iff
  by_cases hall : ∀ x ∈ waiting (batches b order rank) l i, x ∈ batches b order rank i
  · have hnone : waiting (batches b order rank) l (i + 1) = [] :=
      filter_eq_nil_iff.mpr fun x hx hnot => of_decide_eq_true hnot (hall x hx)
    rw [hnone]
    exact Nat.zero_le _
  · obtain ⟨y, hy, hwaits⟩ : ∃ y ∈ waiting (batches b order rank) l i,
        y ∉ batches b order rank i := by
      by_contra hno
      exact hall fun x hx => by_contra fun hnot => hno ⟨x, hx, hnot⟩
    have hyl : y ∈ order i := hmem.mpr ((mem_waiting i).mp hy).1
    -- nobody who has had a turn is in the batch, since `y` is ahead of them and waits
    have hsub : batches b order rank i ⊆ (waiting (batches b order rank) l i).filter
        fun x => x ∈ batches b order rank i := by
      intro x hx
      refine mem_filter.mpr ⟨by_contra fun hnot => ?_, decide_eq_true hx⟩
      have hlt := waiting_ahead hturn hi.le y hy x (hmem.mp (mem_of_oldest hx)) hnot
      exact absurd (le_of_oldest hx hyl hwaits) (Nat.not_le_of_lt hlt)
    have hlength := ((nodup_oldest (hstep.perm.nodup_iff.mpr hl)).subperm hsub).length_le
    rw [length_oldest_of_waits hyl hwaits] at hlength
    have hparts := length_eq_length_filter_add (l := waiting (batches b order rank) l i)
      fun x => decide (x ∈ batches b order rank i)
    have hnext : waiting (batches b order rank) l (i + 1) =
        (waiting (batches b order rank) l i).filter
          fun x => !decide (x ∈ batches b order rank i) := by
      rw [waiting]
      exact filter_congr fun x _ => decide_not
    rw [hnext]
    omega

theorem length_waiting (hl : l.Nodup)
    (hturn : ∀ i < w, Turn b l (order i) (rank i) (rank (i + 1))) (hi : i ≤ w) :
    (waiting (batches b order rank) l i).length ≤ l.length - i * b := by
  induction i with
  | zero => rw [Nat.zero_mul]; exact le_refl _
  | succ i ih =>
    have hstep := length_waiting_succ hl hturn hi
    have hbefore := ih (Nat.le_of_succ_le hi)
    rw [Nat.succ_mul]
    omega

/-- **Everybody has a turn** within `w` ticks, when `w` times `b` are enough for all. -/
theorem served_within (hl : l.Nodup)
    (hturn : ∀ i < w, Turn b l (order i) (rank i) (rank (i + 1))) (hw : l.length ≤ w * b)
    (hx : x ∈ l) : ∃ i < w, x ∈ oldest (rank i) b (order i) := by
  have hnone : waiting (batches b order rank) l w = [] := by
    refine length_eq_zero_iff.mp (Nat.le_zero.mp ?_)
    exact (length_waiting hl hturn (le_refl w)).trans_eq (Nat.sub_eq_zero_of_le hw)
  by_contra hno
  have hwaits : x ∈ waiting (batches b order rank) l w :=
    (mem_waiting w).mpr ⟨hx, fun k hk hmem => hno ⟨k, hk, hmem⟩⟩
  rw [hnone] at hwaits
  exact not_mem_nil hwaits

end Turns

end AppliverySoar.Lists
