import Mathlib.Algebra.Order.Ring.Int
import Mathlib.Data.List.Basic

/-!
# Windows of a list of times

Lists of things with times, the newest first. The window of a time reaches back to `start` of
it.

Results:
* `take_filter_recent`: the newest few, of those since some time.
* `WindowCapped.interval`: if the window of each thing, when it came, holds no more than its
  limit, every interval that a window covers holds no more than the largest limit in it.
-/

namespace AppliverySoar.Lists

open List

variable {α β : Type} [LinearOrder α] {time : β → α} {start : α → α} {limit : β → ℤ} {l : List β}

/-- Those since some time. -/
def recent (time : β → α) (since : α) (l : List β) : List β :=
  l.filter fun x => since ≤ time x

/-- The newest first. -/
def NewestFirst (time : β → α) (l : List β) : Prop :=
  l.Pairwise fun x y => time y ≤ time x

theorem recent_cons (x : β) (since : α) :
    recent time since (x :: l) =
      if since ≤ time x then x :: recent time since l else recent time since l := by
  simp [recent, filter_cons]

theorem recent_of_lt {since : α} (h : ∀ x ∈ l, time x < since) : recent time since l = [] :=
  filter_eq_nil_iff.mpr fun x hx => by simpa using h x hx

/-- The newest `n`, and of these those since some time: the newest `n` of those since then. -/
theorem take_filter_recent (h : NewestFirst time l) (since : α) (n : ℕ) :
    recent time since (l.take n) = (recent time since l).take n := by
  induction l generalizing n with
  | nil => simp [recent]
  | cons x l ih =>
    cases n with
    | zero => simp [recent]
    | succ n =>
      obtain ⟨hx, hl⟩ := pairwise_cons.mp h
      rw [take_succ_cons, recent_cons, recent_cons]
      split_ifs with hsince
      · rw [take_succ_cons, ih hl]
      · -- everything that follows is older
        have hold : ∀ y ∈ l, time y < since := fun y hy =>
          lt_of_le_of_lt (hx y hy) (lt_of_not_ge hsince)
        rw [recent_of_lt hold, recent_of_lt fun y hy => hold y (mem_of_mem_take hy)]
        rfl

theorem recent_recent {since since' : α} (h : since ≤ since') :
    recent time since' (recent time since l) = recent time since' l := by
  unfold recent
  rw [filter_filter]
  refine filter_congr fun x _ => ?_
  by_cases hx : since' ≤ time x
  · simp [hx, le_trans h hx]
  · simp [hx]

/-- The window of each thing, when it came, holds no more than its limit. -/
def WindowCapped (time : β → α) (start : α → α) (limit : β → ℤ) : List β → Prop
  | [] => True
  | x :: l => ((recent time (start (time x)) (x :: l)).length : ℤ) ≤ limit x ∧
    WindowCapped time start limit l

/-- An interval that a window covers holds no more than the largest limit in it. -/
theorem WindowCapped.interval (hstart : Monotone start) (h : WindowCapped time start limit l)
    {a b : α} (hab : start b ≤ a) {m : ℤ}
    (hm : ∀ x ∈ l, a ≤ time x → time x ≤ b → limit x ≤ m) :
    ((l.filter fun x => a ≤ time x ∧ time x ≤ b).length : ℤ) ≤ max m 0 := by
  induction l with
  | nil => exact le_max_right m 0
  | cons x l ih =>
    obtain ⟨hx, hl⟩ := h
    by_cases hin : a ≤ time x ∧ time x ≤ b
    · -- what lies in the interval lies in the window of the newest of it
      have hsub : Sublist ((x :: l).filter fun x => a ≤ time x ∧ time x ≤ b)
          (recent time (start (time x)) (x :: l)) := by
        refine monotone_filter_right _ fun y hy => ?_
        rw [decide_eq_true_iff] at hy ⊢
        exact le_trans (hstart hin.2) (le_trans hab hy.1)
      calc (((x :: l).filter fun x => a ≤ time x ∧ time x ≤ b).length : ℤ)
          ≤ (recent time (start (time x)) (x :: l)).length := by exact_mod_cast hsub.length_le
        _ ≤ limit x := hx
        _ ≤ m := hm x mem_cons_self hin.1 hin.2
        _ ≤ max m 0 := le_max_left m 0
    · rw [filter_cons_of_neg (by simpa using hin)]
      exact ih hl fun y hy => hm y (mem_cons_of_mem x hy)

end AppliverySoar.Lists
