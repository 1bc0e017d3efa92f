import AppliverySoar.Dates.Gregorian
import AppliverySoar.Js.Gather
import Mathlib.Data.List.Nodup

/-!
# The days of a trend

A trend of widgets.service.ts counts by the month and day of a record (lines
62–100): `widgetTrendDateMap` sets the counts of the days of its window to zero,
and a record whose label is among them is added to the count of the label.

Results:
* `mmdd_injective`: a label stands for one day of a window.
* `trendDays_eq`: the days of the window.
* `entries_tally`: what is counted under a label.
-/

namespace AppliverySoar.Analytics

open Dates Js List

/-! ## Labels -/

/-- `86_400_000`. -/
def dayMs : ℤ := 86400000

/-- The UTC day of a time. -/
def dayOf (time : ℤ) : ℤ :=
  time / dayMs

/-- `String(n).padStart(2, "0")`. -/
def padStart2 (n : ℕ) : List Char :=
  (toString n).toList.leftpad 2 '0'

/-- `mmdd`, of a day. -/
def mmdd (d : ℤ) : String :=
  String.ofList (padStart2 ((monthDay d).1 + 1) ++ '-' :: padStart2 ((monthDay d).2 + 1))

/-- `isoToMmdd`, of the time that the text is read as. -/
def isoToMmdd (time : Option ℤ) : Option String :=
  time.map fun t => mmdd (dayOf t)

/-! ## Windows -/

/-- `dateIni` and `dateEnd`, as days. -/
structure DateRange where
  dateIni : ℤ
  dateEnd : ℤ

def DateRange.dStart (range : DateRange) : ℤ :=
  range.dateIni * dayMs

/-- `dStop`, a second before the next day. -/
def DateRange.dStop (range : DateRange) : ℤ :=
  range.dateEnd * dayMs + 86399000

def DateRange.deltaDays (range : DateRange) (maxDays : ℤ) : ℤ :=
  min ((range.dStop - range.dStart) / dayMs + 1) maxDays

/-- The days of the first loop of `widgetTrendDateMap`. -/
def DateRange.days (range : DateRange) (maxDays : ℤ) : List ℤ :=
  (List.range (range.deltaDays maxDays).toNat).map fun i : ℕ => dayOf (range.dStart + i * dayMs)

/-- The days of the second loop, up to today. -/
def lastDays (now : ℤ) (defaultDays : ℕ) : List ℤ :=
  (List.range defaultDays).reverse.map fun i : ℕ => dayOf (now - i * dayMs)

/-- The days of `widgetTrendDateMap`. -/
def trendDays (range : Option DateRange) (now : ℤ) (defaultDays : ℕ) (maxDays : ℤ) : List ℤ :=
  match range with
  | some range =>
    if 0 < range.deltaDays maxDays then range.days maxDays else lastDays now defaultDays
  | none => lastDays now defaultDays

/-- `dateMap[mmdd(d)] = zero` for the days. -/
def dateMap {β : Type} (days : List ℤ) (zero : β) : OrderedMap β :=
  days.foldl (fun m d => m.set (mmdd d) zero) .empty

/-- `if (key in map) map[key] = f(map[key])`. -/
def adjust {β : Type} (f : β → β) (m : OrderedMap β) (key : String) : OrderedMap β :=
  match m.get key with
  | some value => m.set key (f value)
  | none => m

/-- The loop over the records. -/
def tally {α β : Type} (time : α → Option ℤ) (add : β → α → β) (m : OrderedMap β)
    (records : List α) : OrderedMap β :=
  records.foldl (fun m a => (isoToMmdd (time a)).elim m (adjust (fun value => add value a) m)) m

/-! ## Results -/

section Labels

theorem padStart2_length {n : ℕ} (h : n < 32) : (padStart2 n).length = 2 := by
  have hall : ∀ n < 32, (padStart2 n).length = 2 := by decide +kernel
  exact hall n h

theorem padStart2_injective {a b : ℕ} (ha : a < 32) (hb : b < 32)
    (h : padStart2 a = padStart2 b) : a = b := by
  have hread : ∀ n < 32,
      (padStart2 n).foldl (fun acc c => 10 * acc + (c.toNat - 48)) 0 = n := by decide +kernel
  rw [← hread a ha, h, hread b hb]

/-- **A label stands for one day** among days that are less than a year apart. -/
theorem mmdd_injective {d d' : ℤ} (hnear : |d' - d| < 364) (h : mmdd d = mmdd d') : d = d' := by
  obtain ⟨hm, hd⟩ := monthDay_lt d
  obtain ⟨hm', hd'⟩ := monthDay_lt d'
  have hchars := String.ofList_injective h
  have hlength : (padStart2 ((monthDay d).1 + 1)).length = (padStart2 ((monthDay d').1 + 1)).length := by
    rw [padStart2_length (by omega), padStart2_length (by omega)]
  obtain ⟨hmonth, hday⟩ := append_inj hchars hlength
  refine monthDay_injective hnear (Prod.ext ?_ ?_)
  · have hsame := padStart2_injective (by omega) (by omega) hmonth
    omega
  · have hsame := padStart2_injective (by omega) (by omega) (List.cons.inj hday).2
    omega

end Labels

section Windows

/-- The window: the first sixty days of a range, or the last fourteen days. -/
def window (range : Option DateRange) (now : ℤ) : List ℤ :=
  match range with
  | some range =>
    (List.range (min (range.dateEnd - range.dateIni + 1) 60).toNat).map fun i : ℕ =>
      range.dateIni + i
  | none => (List.range 14).map fun i : ℕ => dayOf now - 13 + i

variable {range : Option DateRange} {now : ℤ} {d d' : ℤ}

theorem DateRange.deltaDays_eq (range : DateRange) (maxDays : ℤ) :
    range.deltaDays maxDays = min (range.dateEnd - range.dateIni + 1) maxDays := by
  unfold deltaDays dStop dStart dayMs
  congr 1
  omega

theorem DateRange.days_eq (range : DateRange) :
    range.days 60 = (List.range (min (range.dateEnd - range.dateIni + 1) 60).toNat).map
      fun i : ℕ => range.dateIni + (i : ℤ) := by
  rw [days, deltaDays_eq]
  refine List.map_congr_left fun i _ => ?_
  unfold dayOf dStart dayMs
  omega

theorem lastDays_eq (now : ℤ) :
    lastDays now 14 = (List.range 14).map fun i : ℕ => dayOf now - 13 + (i : ℤ) := by
  have hday (i : ℕ) : dayOf (now - i * dayMs) = dayOf now - i := by
    unfold dayOf dayMs
    omega
  have hreverse : (List.range 14).reverse = (List.range 14).map (13 - ·) := by decide
  rw [lastDays, List.map_congr_left fun i _ => hday i, hreverse, List.map_map]
  refine List.map_congr_left fun i hi => ?_
  have hi := List.mem_range.mp hi
  show dayOf now - ((13 - i : ℕ) : ℤ) = dayOf now - 13 + i
  omega

/-- **The days of a trend** are those of the window. -/
theorem trendDays_eq (hrange : ∀ r ∈ range, r.dateIni ≤ r.dateEnd) :
    trendDays range now 14 60 = window range now := by
  cases range with
  | none => exact lastDays_eq now
  | some range =>
    have hle := hrange range rfl
    have hpos : 0 < range.deltaDays 60 := by
      rw [range.deltaDays_eq]
      omega
    show (if 0 < range.deltaDays 60 then range.days 60 else lastDays now 14) = _
    rw [if_pos hpos, range.days_eq]
    rfl

theorem window_near (hd : d ∈ window range now) (hd' : d' ∈ window range now) : |d' - d| < 364 := by
  have hspan : ∃ first : ℤ, (first ≤ d ∧ d < first + 60) ∧ first ≤ d' ∧ d' < first + 60 := by
    cases range with
    | none =>
      obtain ⟨i, hi, rfl⟩ := mem_map.mp hd
      obtain ⟨j, hj, rfl⟩ := mem_map.mp hd'
      have hi := mem_range.mp hi
      have hj := mem_range.mp hj
      exact ⟨dayOf now - 13, by omega, by omega⟩
    | some range =>
      obtain ⟨i, hi, rfl⟩ := mem_map.mp hd
      obtain ⟨j, hj, rfl⟩ := mem_map.mp hd'
      have hi := mem_range.mp hi
      have hj := mem_range.mp hj
      exact ⟨range.dateIni, by omega, by omega⟩
  obtain ⟨first, hfirst, hfirst'⟩ := hspan
  rw [abs_lt]
  omega

theorem nodup_window (range : Option DateRange) (now : ℤ) : (window range now).Nodup := by
  have hshift (first : ℤ) : Function.Injective fun i : ℕ => first + (i : ℤ) := fun i j h =>
    Int.ofNat_inj.mp (add_left_cancel h)
  cases range with
  | none => exact List.Nodup.map (hshift _) nodup_range
  | some range => exact List.Nodup.map (hshift _) nodup_range

theorem nodup_labels (range : Option DateRange) (now : ℤ) :
    ((window range now).map mmdd).Nodup :=
  Nodup.map_on (fun _ hd _ hd' h => mmdd_injective (window_near hd hd') h)
    (nodup_window range now)

end Windows

section Counting

variable {α β : Type} {m : OrderedMap β} {key : String} {f : β → β}

theorem entries_dateMap {days : List ℤ} (h : (days.map mmdd).Nodup) (zero : β) :
    (dateMap days zero).entries = days.map fun d => (mmdd d, zero) := by
  induction days using reverseRecOn with
  | nil => rfl
  | append_singleton days d ih =>
    rw [map_append, nodup_append] at h
    have ih := ih h.1
    have hnew : mmdd d ∉ (dateMap days zero).entries.map Prod.fst := by
      intro hmem
      rw [ih, map_map] at hmem
      exact h.2.2 _ hmem (mmdd d) (mem_singleton_self _) rfl
    rw [dateMap, foldl_concat, map_append, ← ih]
    exact setEntry_of_not_mem hnew

theorem setEntry_eq_map {l : List (String × β)} (hl : (l.map Prod.fst).Nodup) {value : β}
    (h : l.lookup key = some value) :
    setEntry key (f value) l = l.map fun e => if e.1 = key then (e.1, f e.2) else e := by
  induction l with
  | nil => cases h
  | cons e l ih =>
    obtain ⟨k, v⟩ := e
    obtain ⟨hhead, htail⟩ := nodup_cons.mp hl
    rw [lookup_cons] at h
    rw [setEntry, map_cons]
    by_cases hk : k = key
    · rw [if_pos hk, if_pos hk]
      rw [beq_iff_eq.mpr hk.symm] at h
      obtain rfl := Option.some.inj h
      refine congrArg₂ List.cons (Prod.ext hk.symm rfl) ?_
      refine (map_id l).symm.trans (map_congr_left fun e he => ?_)
      refine (if_neg fun heq => hhead ?_).symm
      rw [hk, ← heq]
      exact mem_map.mpr ⟨e, he, rfl⟩
    · rw [if_neg hk, if_neg hk]
      rw [beq_false_of_ne (Ne.symm hk)] at h
      rw [ih htail h]

theorem entries_adjust (f : β → β) (m : OrderedMap β) (key : String) :
    (adjust f m key).entries = m.entries.map fun e => if e.1 = key then (e.1, f e.2) else e := by
  unfold adjust
  cases h : m.get key with
  | some value => exact setEntry_eq_map m.nodup h
  | none =>
    refine (map_id m.entries).symm.trans (map_congr_left fun e he => ?_)
    refine (if_neg fun heq => ?_).symm
    have hget : m.get e.1 = some e.2 := OrderedMap.get_eq_some_iff.mpr he
    rw [heq, h] at hget
    cases hget

/-- **What is counted under a label** are the records of the label. -/
theorem entries_tally (time : α → Option ℤ) (add : β → α → β) (m : OrderedMap β)
    (records : List α) :
    (tally time add m records).entries = m.entries.map fun e =>
      (e.1, (records.filter fun a => isoToMmdd (time a) = some e.1).foldl add e.2) := by
  induction records using reverseRecOn with
  | nil => exact (map_id _).symm
  | append_singleton records a ih =>
    rw [tally, foldl_concat]
    cases htime : isoToMmdd (time a) with
    | none =>
      refine Eq.trans ih (map_congr_left fun e _ => ?_)
      have hnot : decide (isoToMmdd (time a) = some e.1) = false := by
        rw [htime]
        exact decide_eq_false nofun
      rw [filter_append, filter_singleton, hnot, cond_false, append_nil]
    | some key =>
      refine (entries_adjust _ _ key).trans ?_
      rw [show (records.foldl _ m).entries = _ from ih, map_map]
      refine map_congr_left fun e _ => ?_
      by_cases hkey : e.1 = key
      · have hlabel : decide (isoToMmdd (time a) = some e.1) = true :=
          decide_eq_true (htime.trans (congrArg some hkey.symm))
        rw [filter_append, filter_singleton, hlabel, cond_true, foldl_concat]
        exact if_pos hkey
      · have hnot : decide (isoToMmdd (time a) = some e.1) = false :=
          decide_eq_false fun h => hkey (Option.some.inj (htime.symm.trans h)).symm
        rw [filter_append, filter_singleton, hnot, cond_false, append_nil]
        exact if_neg hkey

end Counting

end AppliverySoar.Analytics
