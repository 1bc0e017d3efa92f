import AppliverySoar.Analytics.CountTrends
import AppliverySoar.Js.TextOrder
import AppliverySoar.Lists.DistinctBy
import Mathlib.Data.List.Dedup
import Mathlib.Data.List.Flatten
import Mathlib.Data.List.Sort

/-!
# Trends from daily snapshots

`aggregateSnapshotsForRange` of `analytics/snapshotEngine.ts` (lines 41–120), over
the snapshots that `captureDailySnapshot` stores of the trend sources
(`widgets.service.ts`, lines 972–1054).

Results:
* `captured_statsDevicesTrend`, `captured_statsByDayTrend`: a snapshot holds the days
  of its capture.
* `trend_aggregate_faithful_iff`: the aggregate has the latest value of every day once
  exactly when a label is that of one day, the first value of a day is its latest, and
  the other captured rows count no device of a platform.
* `two_days_aggregated`: a device that is counted twice and missed.
-/

namespace AppliverySoar.Analytics

open Js Lists List

/-! ## Snapshots -/

/-- A row of `analyticsSnapshot`, of one workspace. -/
structure SnapshotRow where
  date : String
  source : String
  payload : WidgetResponse

/-- `TREND_SOURCES`. -/
def trendSources : List String :=
  ["stats_devices_trend", "stats_downloads_trend", "stats_builds_trend"]

def loadSnapshot (rows : List SnapshotRow) (dateStr source : String) : Option WidgetResponse :=
  (rows.find? fun row => row.date = dateStr ∧ row.source = source).map SnapshotRow.payload

/-- `a <= b`. -/
def dateLe (a b : String) : Bool :=
  !decide (units b < units a)

def listSnapshotDates (rows : List SnapshotRow) : List String :=
  (rows.map SnapshotRow.date).dedup.insertionSort fun a b => dateLe a b

/-- The snapshots of the dates in range. -/
def snapshotsInRange (rows : List SnapshotRow) (source dateIni dateEnd : String) :
    List WidgetResponse :=
  ((listSnapshotDates rows).filter fun d => dateLe dateIni d && dateLe d dateEnd).filterMap fun d =>
    loadSnapshot rows d source

/-- `labels.forEach((lbl, i) => …)`: the labels with their values. -/
def TrendData.points (td : TrendData) : List (String × ℕ) :=
  td.labels.zipIdx.map fun p => (p.1, td.series.getD p.2 0)

/-- A total of the snapshots. -/
def addedTotal (snapshots : List WidgetResponse) (total : OsTotals → ℕ) : ℕ :=
  (snapshots.map fun snap => total snap.trendData.osTotals).sum

/-- The response of a trend source: the first point of each label, and the totals added up. -/
def aggregateTrend (snapshots : List WidgetResponse) (last : WidgetResponse) : WidgetResponse :=
  let points := distinctBy Prod.fst (snapshots.flatMap fun snap => snap.trendData.points)
  { last with
    trendData :=
      { labels := points.map Prod.fst
        series := points.map Prod.snd
        osTotals := ⟨addedTotal snapshots OsTotals.apple, addedTotal snapshots OsTotals.android,
          addedTotal snapshots OsTotals.windows⟩ }
    scorecardValue := (points.map Prod.snd).sum }

/-- `Math.round(total / n)`. -/
def roundedMean (total n : ℕ) : ℕ :=
  (2 * total + n) / (2 * n)

/-- The response of another source: the means. -/
def aggregateChart (snapshots : List WidgetResponse) (last : WidgetResponse) : WidgetResponse :=
  let aggChart := snapshots.foldl (fun m snap => snap.chartData.foldl (fun (m : OrderedMap ℕ) item =>
    m.set item.1 ((m.get item.1).getD 0 + item.2)) m) .empty
  let avgChart := aggChart.entries.map fun e => (e.1, roundedMean e.2 snapshots.length)
  { last with
    chartData := avgChart.mergeSort fun a b => b.2 ≤ a.2
    scorecardValue :=
      roundedMean (snapshots.map WidgetResponse.scorecardValue).sum snapshots.length }

def aggregateSnapshotsForRange (rows : List SnapshotRow) (source dateIni dateEnd : String) :
    Option WidgetResponse :=
  let snapshots := snapshotsInRange rows source dateIni dateEnd
  snapshots.getLast?.map fun last =>
    if source ∈ trendSources then aggregateTrend snapshots last else aggregateChart snapshots last

/-! ## Captures -/

/-- What a capture knows of a day. -/
structure DayRow where
  day : ℤ
  counts : DayCounts
  counted : counts.apple + counts.android + counts.windows ≤ counts.total
deriving DecidableEq

/-- The point of a day. -/
def DayRow.point (row : DayRow) : String × ℕ :=
  (mmdd row.day, row.counts.total)

/-- `slice(-14)`. -/
def lastFourteen {α : Type} (l : List α) : List α :=
  l.drop (l.length - 14)

/-- The trend of a capture that covers some days. -/
def captured (rows : List DayRow) : TrendData where
  labels := (lastFourteen rows).map fun row => mmdd row.day
  series := (lastFourteen rows).map fun row => row.counts.total
  osTotals := osTotals (rows.map DayRow.counts)

/-- The counts of an answered day, by system. -/
def dayCounts (systems : List (NormalizedPlatform × ℕ)) : DayCounts :=
  let counted (p : NormalizedPlatform) := ((systems.filter fun s => s.1 = p).map Prod.snd).sum
  { apple := counted .apple
    android := counted .android
    windows := counted .windows
    total := (systems.map Prod.snd).sum }

/-- `stats_downloads_trend` and `stats_builds_trend`, of the answered days in order. -/
def statsByDayTrend (answered : List (ℤ × List (NormalizedPlatform × ℕ))) : WidgetResponse :=
  let series := answered.map fun d => (dayCounts d.2).total
  { trendData :=
      { labels := lastFourteen (answered.map fun d => mmdd d.1)
        series := lastFourteen series
        osTotals := osTotals (answered.map fun d => dayCounts d.2) }
    scorecardValue := series.sum }

theorem counted_dayCounts (systems : List (NormalizedPlatform × ℕ)) :
    (dayCounts systems).apple + (dayCounts systems).android + (dayCounts systems).windows ≤
      (dayCounts systems).total := by
  induction systems with
  | nil => exact le_rfl
  | cons s systems ih =>
    obtain ⟨p, n⟩ := s
    simp only [dayCounts] at ih ⊢
    cases p <;>
      simp only [filter_cons, decide_true, if_true, reduceCtorEq, decide_false,
        Bool.false_eq_true, if_false, map_cons, sum_cons] <;>
      omega

theorem captured_statsByDayTrend (answered : List (ℤ × List (NormalizedPlatform × ℕ))) :
    ∃ rows : List DayRow, (statsByDayTrend answered).trendData = captured rows := by
  refine ⟨answered.map fun d => ⟨d.1, dayCounts d.2, counted_dayCounts d.2⟩, ?_⟩
  simp only [statsByDayTrend, captured, lastFourteen, length_map, map_drop, map_map]
  rfl

theorem counted_foldl_add (devices : List TrendDevice) (counts : DayCounts)
    (h : counts.apple + counts.android + counts.windows ≤ counts.total) :
    (devices.foldl DayCounts.add counts).apple + (devices.foldl DayCounts.add counts).android +
      (devices.foldl DayCounts.add counts).windows ≤
        (devices.foldl DayCounts.add counts).total := by
  induction devices generalizing counts with
  | nil => exact h
  | cons device devices ih =>
    refine ih _ ?_
    unfold DayCounts.add
    cases device.platform <;> dsimp only <;> omega

theorem captured_statsDevicesTrend (now : ℤ) (devices : List TrendDevice) :
    ∃ rows : List DayRow, (statsDevicesTrend none now devices).trendData = captured rows := by
  have hentries := entries_tally TrendDevice.enrolled DayCounts.add
    (dateMap (window none now) {}) devices
  rw [entries_dateMap (nodup_labels none now), map_map] at hentries
  refine ⟨(window none now).map fun d => ⟨d, _, counted_foldl_add
    (devices.filter fun a => isoToMmdd a.enrolled = some (mmdd d)) {} le_rfl⟩, ?_⟩
  have hlength : (window none now).length = 14 := by simp [window]
  unfold statsDevicesTrend
  rw [statsDays_eq]
  simp only [captured, lastFourteen, length_map, hlength, Nat.sub_self, drop_zero,
    OrderedMap.keys, OrderedMap.values, hentries, map_map]
  rfl

/-! ## Aggregates -/

/-- The days that snapshots show. -/
def shownRows (captures : List (List DayRow)) : List DayRow :=
  captures.flatMap lastFourteen

/-- The row of each day that the latest snapshot with the day has. -/
def latestRows (shown : List DayRow) : List DayRow :=
  distinctBy DayRow.day shown.reverse

/-- What was captured besides. -/
def supersededRows (captures : List (List DayRow)) : List DayRow :=
  captures.flatten.diff (latestRows (shownRows captures))

/-- A response that has the latest row of each day once. -/
structure Faithful (response : WidgetResponse) (latest : List DayRow) : Prop where
  days : (response.trendData.labels.zip response.trendData.series).Perm
    (latest.map DayRow.point)
  scorecard : response.scorecardValue = (latest.map fun row => row.counts.total).sum
  totals : response.trendData.osTotals = osTotals (latest.map DayRow.counts)
  within : response.trendData.osTotals.apple + response.trendData.osTotals.android +
    response.trendData.osTotals.windows ≤ response.scorecardValue

/-- Captures that agree on their days. -/
structure Unanimous (captures : List (List DayRow)) : Prop where
  labels : ∀ a ∈ shownRows captures, ∀ b ∈ shownRows captures, mmdd a.day = mmdd b.day → a.day = b.day
  first : ∀ a ∈ distinctBy DayRow.day (shownRows captures), ∀ b ∈ latestRows (shownRows captures),
    a.day = b.day → a.counts.total = b.counts.total
  once : ∀ row ∈ supersededRows captures,
    row.counts.apple = 0 ∧ row.counts.android = 0 ∧ row.counts.windows = 0

/-! ## Results -/

section Results

variable {captures : List (List DayRow)}

theorem points_captured (rows : List DayRow) :
    (captured rows).points = (lastFourteen rows).map DayRow.point := by
  refine ext_getElem (by simp [TrendData.points, captured]) fun i h h' => ?_
  have hi : i < (lastFourteen rows).length := by simpa using h'
  simp [TrendData.points, captured, DayRow.point, hi]

theorem zip_aggregateTrend (snapshots : List WidgetResponse) (last : WidgetResponse) :
    (aggregateTrend snapshots last).trendData.labels.zip
        (aggregateTrend snapshots last).trendData.series =
      distinctBy Prod.fst (snapshots.flatMap fun snap => snap.trendData.points) :=
  (zip_of_prod rfl rfl).symm

variable {snapshots : List WidgetResponse} {rows : List DayRow} {a : DayRow}

theorem points_snapshots (h : snapshots.map WidgetResponse.trendData = captures.map captured) :
    (snapshots.flatMap fun snap => snap.trendData.points) =
      (shownRows captures).map DayRow.point := by
  have hpoints := congrArg (flatMap TrendData.points) h
  rw [flatMap_map, flatMap_map] at hpoints
  rw [hpoints, shownRows, map_flatMap]
  exact flatMap_congr fun rows _ => points_captured rows

theorem totals_snapshots (h : snapshots.map WidgetResponse.trendData = captures.map captured)
    (total : OsTotals → ℕ) (count : DayCounts → ℕ)
    (htotal : ∀ l, total (osTotals l) = (l.map count).sum) :
    addedTotal snapshots total = (captures.flatten.map fun row => count row.counts).sum := by
  have htotals := congrArg (List.map fun td => total td.osTotals) h
  rw [map_map, map_map] at htotals
  refine (congrArg sum htotals).trans ?_
  rw [map_flatten, sum_flatten, map_map]
  refine congrArg sum (map_congr_left fun rows _ => ?_)
  exact (htotal _).trans (by rw [map_map]; rfl)

theorem sum_captured (captures : List (List DayRow)) (count : DayCounts → ℕ) :
    (captures.flatten.map fun row => count row.counts).sum =
      ((latestRows (shownRows captures)).map fun row => count row.counts).sum +
        ((supersededRows captures).map fun row => count row.counts).sum := by
  have hshown : (shownRows captures).Sublist captures.flatten := by
    have h := List.Sublist.flatMap_right captures fun rows _ =>
      (drop_sublist (rows.length - 14) rows)
    rwa [flatMap_id'] at h
  have hperm : (latestRows (shownRows captures) ++ supersededRows captures).Perm
      captures.flatten := by
    refine subperm_append_diff_self_of_count_le fun row _ => ?_
    calc (latestRows (shownRows captures)).count row
        ≤ (shownRows captures).reverse.count row := (sublist_distinctBy _ _).count_le row
      _ = (shownRows captures).count row := count_reverse
      _ ≤ captures.flatten.count row := hshown.count_le row
  rw [← sum_append, ← map_append]
  exact ((hperm.map _).sum_eq).symm

theorem counted_osTotals (rows : List DayRow) :
    (osTotals (rows.map DayRow.counts)).apple + (osTotals (rows.map DayRow.counts)).android +
      (osTotals (rows.map DayRow.counts)).windows ≤ (rows.map fun row => row.counts.total).sum := by
  induction rows with
  | nil => exact le_rfl
  | cons row rows ih =>
    have hrow := row.counted
    simp only [osTotals, map_cons, sum_cons] at ih ⊢
    omega

theorem exists_latest (h : a ∈ rows) :
    ∃ b ∈ latestRows rows, b.day = a.day :=
  exists_distinctBy DayRow.day (mem_reverse.mpr h)

theorem mem_of_latest (h : a ∈ latestRows rows) : a ∈ rows :=
  mem_reverse.mp (mem_of_distinctBy h)

/-- The first points of the labels are the latest rows' exactly when labels stand for one day
and the first total of a day is its latest. -/
theorem first_points_iff (rows : List DayRow) :
    ((distinctBy (fun row => mmdd row.day) rows).map DayRow.point).Perm
        ((latestRows rows).map DayRow.point) ↔
      (∀ a ∈ rows, ∀ b ∈ rows, mmdd a.day = mmdd b.day → a.day = b.day) ∧
        ∀ a ∈ distinctBy DayRow.day rows, ∀ b ∈ latestRows rows,
          a.day = b.day → a.counts.total = b.counts.total := by
  have hfirst {l : List DayRow} (hl : ∀ a ∈ l, ∀ b ∈ l, mmdd a.day = mmdd b.day → a.day = b.day) :
      distinctBy (fun row => mmdd row.day) l = distinctBy DayRow.day l :=
    (distinctBy_eq_iff fun _ _ _ _ h => congrArg mmdd h).mpr hl
  constructor
  · intro hperm
    have hnodup : ((latestRows rows).map fun row => mmdd row.day).Nodup := by
      have hlabels := hperm.map Prod.fst
      rw [map_map, map_map] at hlabels
      exact hlabels.nodup_iff.mp (nodup_distinctBy _ _)
    have hone : ∀ a ∈ rows, ∀ b ∈ rows, mmdd a.day = mmdd b.day → a.day = b.day := by
      intro a ha b hb hlabel
      obtain ⟨a', ha', hdaya⟩ := exists_latest ha
      obtain ⟨b', hb', hdayb⟩ := exists_latest hb
      have hsame : a' = b' := inj_on_of_nodup_map hnodup ha' hb' (by
        rw [hdaya, hdayb, hlabel])
      rw [← hdaya, hsame, hdayb]
    refine ⟨hone, fun a ha b hb hday => ?_⟩
    rw [hfirst hone] at hperm
    obtain ⟨c, hc, hpoint⟩ := mem_map.mp (hperm.mem_iff.mp (mem_map_of_mem ha))
    obtain ⟨hlabel, htotal⟩ := Prod.mk.inj hpoint
    have hsame : c = b := inj_on_of_nodup_map hnodup hc hb (by rw [hlabel, hday])
    rw [← htotal, hsame]
  · rintro ⟨hone, htotal⟩
    have hnodup {l : List DayRow}
        (hl : ∀ a ∈ l, ∀ b ∈ l, mmdd a.day = mmdd b.day → a.day = b.day) :
        ((distinctBy DayRow.day l).map DayRow.point).Nodup := by
      refine Nodup.of_map Prod.fst ?_
      rw [map_map, ← hfirst hl]
      exact nodup_distinctBy _ _
    have hreverse : ∀ a ∈ rows.reverse, ∀ b ∈ rows.reverse, mmdd a.day = mmdd b.day →
        a.day = b.day := fun a ha b hb =>
      hone a (mem_reverse.mp ha) b (mem_reverse.mp hb)
    rw [hfirst hone]
    refine (perm_ext_iff_of_nodup (hnodup hone) (hnodup hreverse)).mpr fun point =>
      ⟨fun h => ?_, fun h => ?_⟩
    · obtain ⟨a, ha, rfl⟩ := mem_map.mp h
      obtain ⟨b, hb, hday⟩ := exists_latest (mem_of_distinctBy ha)
      exact mem_map.mpr
        ⟨b, hb, Prod.ext (congrArg mmdd hday) (htotal a ha b hb hday.symm).symm⟩
    · obtain ⟨b, hb, rfl⟩ := mem_map.mp h
      obtain ⟨a, ha, hday⟩ := exists_distinctBy DayRow.day (mem_of_latest hb)
      exact mem_map.mpr ⟨a, ha, Prod.ext (congrArg mmdd hday) (htotal a ha b hb hday)⟩

/-- **The aggregate of snapshots** has the latest value of each day once, and the totals of
those days, exactly when the captures agree on their days. -/
theorem trend_aggregate_faithful_iff (rows : List SnapshotRow) (source dateIni dateEnd : String)
    (hsource : source ∈ trendSources) (captures : List (List DayRow))
    (hcaptures : (snapshotsInRange rows source dateIni dateEnd).map WidgetResponse.trendData =
      captures.map captured)
    (response : WidgetResponse)
    (h : aggregateSnapshotsForRange rows source dateIni dateEnd = some response) :
    Faithful response (latestRows (shownRows captures)) ↔ Unanimous captures := by
  obtain ⟨last, -, rfl⟩ := Option.map_eq_some_iff.mp h
  rw [if_pos hsource]
  have hpoints : distinctBy Prod.fst ((snapshotsInRange rows source dateIni dateEnd).flatMap
      fun snap => snap.trendData.points) =
        (distinctBy (fun row => mmdd row.day) (shownRows captures)).map DayRow.point := by
    rw [points_snapshots hcaptures, distinctBy_map]
    rfl
  have happle := totals_snapshots hcaptures OsTotals.apple DayCounts.apple fun _ => rfl
  have handroid := totals_snapshots hcaptures OsTotals.android DayCounts.android fun _ => rfl
  have hwindows := totals_snapshots hcaptures OsTotals.windows DayCounts.windows fun _ => rfl
  rw [sum_captured] at happle handroid hwindows
  have hdays := first_points_iff (shownRows captures)
  rw [← hpoints] at hdays
  have hzero (count : DayCounts → ℕ) :
      ((supersededRows captures).map fun row => count row.counts).sum = 0 ↔
        ∀ row ∈ supersededRows captures, count row.counts = 0 := by
    rw [List.sum_eq_zero_iff_forall_eq_nat, forall_mem_map]
  have htotals : (aggregateTrend (snapshotsInRange rows source dateIni dateEnd)
      last).trendData.osTotals = osTotals ((latestRows (shownRows captures)).map DayRow.counts) ↔
        ∀ row ∈ supersededRows captures,
          row.counts.apple = 0 ∧ row.counts.android = 0 ∧ row.counts.windows = 0 := by
    show OsTotals.mk _ _ _ = _ ↔ _
    rw [happle, handroid, hwindows]
    simp only [osTotals, OsTotals.mk.injEq, map_map, Function.comp_def, Nat.add_eq_left,
      hzero, ← forall_and]
  constructor
  · rintro ⟨hperm, -, hadded, -⟩
    rw [zip_aggregateTrend] at hperm
    obtain ⟨hlabels, hfirst⟩ := hdays.mp hperm
    exact ⟨hlabels, hfirst, htotals.mp hadded⟩
  · rintro ⟨hlabels, hfirst, honce⟩
    have hperm := hdays.mpr ⟨hlabels, hfirst⟩
    have hadded := htotals.mpr honce
    have hscorecard : (aggregateTrend (snapshotsInRange rows source dateIni dateEnd)
        last).scorecardValue =
          ((latestRows (shownRows captures)).map fun row => row.counts.total).sum :=
      ((hperm.map Prod.snd).sum_eq).trans (by rw [map_map]; rfl)
    refine ⟨?_, hscorecard, hadded, ?_⟩
    · rw [zip_aggregateTrend]
      exact hperm
    · rw [hadded, hscorecard]
      exact counted_osTotals _

/-! ### Two days of downloads -/

/-- The downloads as the snapshots of two days have them: one on the first day, by then, and
another later that day. -/
def downloads : List (List (ℤ × List (NormalizedPlatform × ℕ))) :=
  [[(20000, [(.android, 1)])], [(20000, [(.android, 2)]), (20001, [(.android, 1)])]]

/-- What was captured. -/
def downloadCaptures : List (List DayRow) :=
  downloads.map fun answered => answered.map fun d => ⟨d.1, dayCounts d.2, counted_dayCounts d.2⟩

/-- The snapshots. -/
def downloadSnapshots : List SnapshotRow :=
  (["2024-10-04", "2024-10-05"].zip downloads).map fun d =>
    ⟨d.1, "stats_downloads_trend", statsByDayTrend d.2⟩

/-- What is aggregated of October. -/
def downloadAggregate : Option WidgetResponse :=
  aggregateSnapshotsForRange downloadSnapshots "stats_downloads_trend" "2024-10-01" "2024-10-31"

theorem trend_aggregate_faithful_iff_downloads :
    Faithful (downloadAggregate.get (by decide +kernel))
        (latestRows (shownRows downloadCaptures)) ↔ Unanimous downloadCaptures :=
  trend_aggregate_faithful_iff downloadSnapshots "stats_downloads_trend" "2024-10-01" "2024-10-31"
    (by decide +kernel) downloadCaptures (by decide +kernel) _ (Option.some_get _).symm

/-- **Downloads of two snapshots** are counted twice among the totals, and their first count
stays in the series. -/
theorem downloads_counted_twice :
    downloadAggregate.map (fun response => (response.trendData, response.scorecardValue)) =
        some (⟨["10-04", "10-05"], [1, 1], ⟨0, 4, 0⟩⟩, 2) ∧
      ¬Faithful (downloadAggregate.get (by decide +kernel))
        (latestRows (shownRows downloadCaptures)) :=
  ⟨by decide +kernel, fun h => absurd h.within (by decide +kernel)⟩

end Results

end AppliverySoar.Analytics
