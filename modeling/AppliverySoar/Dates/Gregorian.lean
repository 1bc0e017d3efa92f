import Mathlib.Algebra.Order.Ring.Int
import Mathlib.Algebra.BigOperators.Group.List.Basic

/-!
# The calendar of days

Days are counted from 1970-01-01, as the times of a JavaScript `Date` are: year,
month and day of the month are those of the Gregorian calendar, before its
introduction too.

Results:
* `yearFromDay_spec`: the year that a day is in.
* `monthDay_injective`: a month and day do not come again within a year.
-/

namespace AppliverySoar.Dates

open List

/-! ## Years -/

/-- The first day of a year. -/
def dayFromYear (y : ℤ) : ℤ :=
  365 * (y - 1970) + (y - 1969) / 4 - (y - 1901) / 100 + (y - 1601) / 400

/-- Whether a year has a 29th of February. -/
def isLeapYear (y : ℤ) : Bool :=
  y % 4 = 0 && (y % 100 ≠ 0 || y % 400 = 0)

/-- The year of a day: the mean length of a year gives it, or the one before or behind it. -/
def yearFromDay (d : ℤ) : ℤ :=
  let y := 1970 + 400 * d / 146097
  if d < dayFromYear y then y - 1 else if dayFromYear (y + 1) ≤ d then y + 1 else y

theorem dayFromYear_succ (y : ℤ) :
    dayFromYear (y + 1) = dayFromYear y + if isLeapYear y then 366 else 365 := by
  unfold dayFromYear isLeapYear
  by_cases h4 : y % 4 = 0 <;> by_cases h100 : y % 100 = 0 <;> by_cases h400 : y % 400 = 0 <;>
    simp only [h4, h100, h400, decide_true, decide_false, ne_eq, not_true_eq_false,
      not_false_eq_true, Bool.and_true, Bool.and_false, Bool.or_true, Bool.or_false,
      Bool.false_eq_true, if_true, if_false] <;> omega

/-- **The year of a day** begins on it or before, and the next one behind it. -/
theorem yearFromDay_spec (d : ℤ) :
    dayFromYear (yearFromDay d) ≤ d ∧ d < dayFromYear (yearFromDay d + 1) := by
  rw [yearFromDay]
  split_ifs with hbefore hbehind
  · rw [Int.sub_add_cancel]
    refine ⟨?_, hbefore⟩
    unfold dayFromYear
    omega
  · refine ⟨hbehind, ?_⟩
    unfold dayFromYear
    omega
  · exact ⟨not_lt.mp hbefore, not_le.mp hbehind⟩

theorem dayFromYear_add_le {y y' : ℤ} (h : y < y') : dayFromYear y + 365 ≤ dayFromYear y' := by
  unfold dayFromYear
  omega

/-! ## Months -/

/-- The months of a year. -/
def monthLengths (leap : Bool) : List ℕ :=
  [31, if leap then 29 else 28, 31, 30, 31, 30, 31, 31, 30, 31, 30, 31]

/-- The month and the day of the month, counted from zero, of a day of the year. -/
def monthDayOf : List ℕ → ℕ → ℕ × ℕ
  | [], k => (0, k)
  | length :: lengths, k =>
    if k < length then (0, k)
    else ((monthDayOf lengths (k - length)).1 + 1, (monthDayOf lengths (k - length)).2)

theorem sum_monthDayOf (lengths : List ℕ) (k : ℕ) :
    (lengths.take (monthDayOf lengths k).1).sum + (monthDayOf lengths k).2 = k := by
  induction lengths generalizing k with
  | nil => rw [take_nil, sum_nil, Nat.zero_add, monthDayOf]
  | cons length lengths ih =>
    rw [monthDayOf]
    split_ifs with hk
    · rw [take_zero, sum_nil, Nat.zero_add]
    · rw [take_succ_cons, sum_cons, Nat.add_assoc, ih]
      omega

theorem monthDayOf_lt {lengths : List ℕ} {k : ℕ} (h : k < lengths.sum) :
    (monthDayOf lengths k).1 < lengths.length ∧
      (∀ bound, (∀ length ∈ lengths, length ≤ bound) → (monthDayOf lengths k).2 < bound) := by
  induction lengths generalizing k with
  | nil => exact absurd h (Nat.not_lt_zero k)
  | cons length lengths ih =>
    rw [sum_cons] at h
    rw [monthDayOf]
    split_ifs with hk
    · exact ⟨Nat.succ_pos _, fun bound hbound =>
        lt_of_lt_of_le hk (hbound length mem_cons_self)⟩
    · obtain ⟨hmonth, hday⟩ := ih (k := k - length) (by omega)
      exact ⟨Nat.succ_lt_succ hmonth, fun bound hbound =>
        hday bound fun l hl => hbound l (mem_cons_of_mem _ hl)⟩

/-- `getUTCMonth()` and `getUTCDate() - 1`. -/
def monthDay (d : ℤ) : ℕ × ℕ :=
  monthDayOf (monthLengths (isLeapYear (yearFromDay d))) (d - dayFromYear (yearFromDay d)).toNat

theorem monthDay_lt (d : ℤ) : (monthDay d).1 < 12 ∧ (monthDay d).2 < 31 := by
  obtain ⟨hle, hlt⟩ := yearFromDay_spec d
  rw [dayFromYear_succ] at hlt
  have hsum : (d - dayFromYear (yearFromDay d)).toNat <
      (monthLengths (isLeapYear (yearFromDay d))).sum := by
    cases hleap : isLeapYear (yearFromDay d) with
    | false =>
      rw [hleap, if_neg Bool.false_ne_true] at hlt
      show _ < 365
      omega
    | true =>
      rw [hleap, if_pos rfl] at hlt
      show _ < 366
      omega
  have hmonths := monthDayOf_lt hsum
  refine ⟨hmonths.1, hmonths.2 31 ?_⟩
  cases isLeapYear (yearFromDay d) <;> decide

theorem day_eq (d : ℤ) :
    d = dayFromYear (yearFromDay d) +
      (((monthLengths (isLeapYear (yearFromDay d))).take (monthDay d).1).sum + (monthDay d).2 : ℕ) := by
  have hsum := sum_monthDayOf (monthLengths (isLeapYear (yearFromDay d)))
    (d - dayFromYear (yearFromDay d)).toNat
  have hle := (yearFromDay_spec d).1
  rw [monthDay, hsum]
  omega

/-- The days in front of a month are one more in a leap year at most. -/
theorem sum_take_monthLengths (leap leap' : Bool) {m : ℕ} (h : m < 12) :
    ((monthLengths leap).take m).sum ≤ ((monthLengths leap').take m).sum + 1 := by
  have hall : ∀ leap leap' : Bool, ∀ m < 12,
      ((monthLengths leap).take m).sum ≤ ((monthLengths leap').take m).sum + 1 := by decide
  exact hall leap leap' m h

/-- **A month and day come once** in a year. -/
theorem monthDay_injective {d d' : ℤ} (hnear : |d' - d| < 364) (h : monthDay d = monthDay d') :
    d = d' := by
  have hd := day_eq d
  have hd' := day_eq d'
  rw [← h] at hd'
  have hm := (monthDay_lt d).1
  have hle := sum_take_monthLengths (isLeapYear (yearFromDay d)) (isLeapYear (yearFromDay d')) hm
  have hge := sum_take_monthLengths (isLeapYear (yearFromDay d')) (isLeapYear (yearFromDay d)) hm
  obtain ⟨hlow, hhigh⟩ := abs_lt.mp hnear
  rcases lt_trichotomy (yearFromDay d) (yearFromDay d') with hyear | hyear | hyear
  · have hyears := dayFromYear_add_le hyear
    omega
  · rw [hyear] at hd
    omega
  · have hyears := dayFromYear_add_le hyear
    omega

end AppliverySoar.Dates
