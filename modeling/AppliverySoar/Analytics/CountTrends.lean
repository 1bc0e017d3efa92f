import AppliverySoar.Analytics.TrendWindow

/-!
# Trends that count records

The branches of `getWidgetData` that count stored records by day:
`compliance_violations_trend` (lines 337–348), `cases_trend` (566–575),
`triggers_fired_trend` (629–646), `workflow_runs_trend` (716–742) and
`stats_devices_trend` (972–1008).

Results:
* `series_eq`: a value of a series counts the records of a label.
* `count_trends_exact_iff`: it counts those of its day exactly when as many records
  of other days have the label as records of the day are not read.
* `case_of_last_year`: a case that is counted a year after.
-/

namespace AppliverySoar.Analytics

open Js List

/-! ## Responses -/

/-- `os_totals`. -/
structure OsTotals where
  apple : ℕ := 0
  android : ℕ := 0
  windows : ℕ := 0
deriving DecidableEq

structure TrendData where
  labels : List String := []
  series : List ℕ := []
  osTotals : OsTotals := {}
deriving DecidableEq

/-- `WidgetResponse`, its items and its profile as they are. -/
structure WidgetResponse where
  chartData : List (String × ℕ) := []
  trendData : TrendData := {}
  scorecardValue : ℕ := 0
  items : List Value := []
  orgProfile : List (String × Value) := []

/-! ## Records -/

/-- What `compliance_violations_trend` reads of a violation. -/
structure ViolationRow where
  deviceId : String
  detectedAt : ℤ

/-- What `triggers_fired_trend` reads of the audit log. -/
structure AuditEntry where
  category : String
  action : String
  createdAt : ℤ

inductive NormalizedPlatform
  | android | apple | macos | windows | other
deriving DecidableEq

/-- What `stats_devices_trend` reads of a device: when it was enrolled or created, and what
`normalizePlatform` makes of its type. The device itself is an item of the response. -/
structure TrendDevice where
  enrolled : Option ℤ
  platform : NormalizedPlatform
  item : Value

def inSegment (segmentIds : Option (List String)) (segId : Option String) : Bool :=
  match segmentIds with
  | some segmentIds => segmentIds.contains (segId.getD "0")
  | none => true

/-! ## Model -/

/-- The response of a map of counts. -/
def countResponse (dateMap : OrderedMap ℕ) : WidgetResponse where
  trendData := { labels := dateMap.keys, series := dateMap.values }
  scorecardValue := dateMap.values.sum

/-- A trend of times. -/
def countTrend (range : Option DateRange) (now : ℤ) (times : List (Option ℤ)) : WidgetResponse :=
  countResponse
    (tally id (fun count _ => count + 1) (dateMap (trendDays range now 14 60) 0) times)

section Sources

variable (range : Option DateRange) (now : ℤ)

/-- The violations of the devices in the segments. -/
def violationsInSegment (segmentIds : Option (List String)) (segmentOf : String → Option String)
    (violations : List ViolationRow) : List ViolationRow :=
  violations.filter fun v => inSegment segmentIds (segmentOf v.deviceId)

/-- `compliance_violations_trend`. -/
def complianceViolationsTrend (segmentIds : Option (List String))
    (segmentOf : String → Option String) (violations : List ViolationRow) : WidgetResponse :=
  countTrend range now
    ((violationsInSegment segmentIds segmentOf violations).map fun v => some v.detectedAt)

/-- `cases_trend`, of the times the cases were created at. -/
def casesTrend (created : List ℤ) : WidgetResponse :=
  countTrend range now (created.map some)

/-- `category: "trigger", action: { in: […] }`. -/
def AuditEntry.fired (entry : AuditEntry) : Bool :=
  entry.category = "trigger" &&
    ["trigger_fired", "trigger_fired_no_device"].contains entry.action

/-- `triggers_fired_trend`. -/
def triggersFiredTrend (entries : List AuditEntry) : WidgetResponse :=
  countTrend range now ((entries.filter AuditEntry.fired).map fun entry => some entry.createdAt)

/-- The limit that `listWorkflowRuns` is called with. -/
def runsLimit : ℕ := 100000

/-- `workflow_runs_trend`, of the times the runs were started at, if they are known. -/
def workflowRunsTrend (runs : List (Option ℤ)) : WidgetResponse :=
  countTrend range now (runs.take runsLimit)

/-- A value of `dateMap` in `stats_devices_trend`. -/
structure DayCounts where
  apple : ℕ := 0
  android : ℕ := 0
  windows : ℕ := 0
  total : ℕ := 0
deriving DecidableEq

/-- `total++`, and `[plat]++` for the platforms that are counted. -/
def DayCounts.add (counts : DayCounts) (device : TrendDevice) : DayCounts :=
  let counts := { counts with total := counts.total + 1 }
  match device.platform with
  | .apple => { counts with apple := counts.apple + 1 }
  | .android => { counts with android := counts.android + 1 }
  | .windows => { counts with windows := counts.windows + 1 }
  | .macos | .other => counts

/-- The totals of days. -/
def osTotals (days : List DayCounts) : OsTotals where
  apple := (days.map DayCounts.apple).sum
  android := (days.map DayCounts.android).sum
  windows := (days.map DayCounts.windows).sum

/-- The days of `stats_devices_trend`: a range that is empty has none. -/
def statsDays : List ℤ :=
  match range with
  | some range => range.days 60
  | none => lastDays now 14

/-- `stats_devices_trend`. -/
def statsDevicesTrend (devices : List TrendDevice) : WidgetResponse :=
  let counts := tally TrendDevice.enrolled DayCounts.add (dateMap (statsDays range now) {}) devices
  { trendData :=
      { labels := counts.keys
        series := counts.values.map DayCounts.total
        osTotals := osTotals counts.values }
    scorecardValue := (counts.values.map DayCounts.total).sum
    items := devices.map TrendDevice.item }

end Sources

/-! ## Statements -/

/-- The records of a trend. -/
inductive TrendRecords
  | complianceViolations (segmentIds : Option (List String)) (segmentOf : String → Option String)
      (violations : List ViolationRow)
  | cases (created : List ℤ)
  | triggersFired (entries : List AuditEntry)
  | workflowRuns (runs : List (Option ℤ))
  | statsDevices (devices : List TrendDevice)

namespace TrendRecords

/-- The response of the source. -/
def response (range : Option DateRange) (now : ℤ) : TrendRecords → WidgetResponse
  | complianceViolations segmentIds segmentOf violations =>
    complianceViolationsTrend range now segmentIds segmentOf violations
  | cases created => casesTrend range now created
  | triggersFired entries => triggersFiredTrend range now entries
  | workflowRuns runs => workflowRunsTrend range now runs
  | statsDevices devices => statsDevicesTrend range now devices

/-- The times of the records that are read. -/
def read : TrendRecords → List (Option ℤ)
  | complianceViolations segmentIds segmentOf violations =>
    (violationsInSegment segmentIds segmentOf violations).map fun v => some v.detectedAt
  | cases created => created.map some
  | triggersFired entries => (entries.filter AuditEntry.fired).map fun entry => some entry.createdAt
  | workflowRuns runs => runs.take runsLimit
  | statsDevices devices => devices.map TrendDevice.enrolled

/-- The times of the records that are not: those of runs beyond the limit. -/
def unread : TrendRecords → List (Option ℤ)
  | workflowRuns runs => runs.drop runsLimit
  | _ => []

/-- The times of all records. -/
def times (records : TrendRecords) : List (Option ℤ) :=
  records.read ++ records.unread

end TrendRecords

/-- The number of records of a day. -/
def onDay (d : ℤ) (times : List (Option ℤ)) : ℕ :=
  times.countP fun t => t.map dayOf = some d

/-- The number of records of other days with the same month and day. -/
def strays (d : ℤ) (times : List (Option ℤ)) : ℕ :=
  times.countP fun t => t.map dayOf ≠ some d ∧ isoToMmdd t = some (mmdd d)

/-- The number of records of some days. -/
def within (days : List ℤ) (times : List (Option ℤ)) : ℕ :=
  times.countP fun t => ∃ d ∈ days, t.map dayOf = some d

/-- A response that counts the records of its days. -/
structure Exact (response : WidgetResponse) (days : List ℤ) (times : List (Option ℤ)) : Prop where
  labels : response.trendData.labels = days.map mmdd
  series : response.trendData.series = days.map fun d => onDay d times
  scorecard : response.scorecardValue = within days times

/-! ## Results -/

section Results

variable {range : Option DateRange} {now d : ℤ} {days : List ℤ} {times times' : List (Option ℤ)}

/-- The records under the label of a day. -/
def labelled (d : ℤ) (times : List (Option ℤ)) : ℕ :=
  times.countP fun t => isoToMmdd t = some (mmdd d)

theorem labelled_eq (d : ℤ) (times : List (Option ℤ)) :
    labelled d times = onDay d times + strays d times := by
  induction times with
  | nil => rfl
  | cons t times ih =>
    have hlabel : t.map dayOf = some d → isoToMmdd t = some (mmdd d) := by
      intro h
      obtain ⟨time, rfl, rfl⟩ := Option.map_eq_some_iff.mp h
      rfl
    unfold labelled onDay strays at *
    simp only [countP_cons, ih, decide_eq_true_eq]
    by_cases hday : t.map dayOf = some d
    · simp only [hday, hlabel hday, ne_eq, not_true_eq_false, false_and, if_true, if_false]
      omega
    · simp only [hday, ne_eq, not_false_eq_true, true_and, if_false]
      omega

theorem onDay_append : onDay d (times ++ times') = onDay d times + onDay d times' :=
  countP_append

theorem within_cons (hd : d ∉ days) (times : List (Option ℤ)) :
    within (d :: days) times = onDay d times + within days times := by
  unfold within onDay
  induction times with
  | nil => rfl
  | cons t times ih =>
    rw [countP_cons, countP_cons, countP_cons, ih]
    simp only [decide_eq_true_eq]
    by_cases hday : t.map dayOf = some d
    · have hnot : ¬∃ d' ∈ days, t.map dayOf = some d' := by
        rintro ⟨d', hd', h⟩
        exact hd (Option.some.inj (hday.symm.trans h) ▸ hd')
      rw [if_pos hday, if_neg hnot, if_pos ⟨d, mem_cons_self, hday⟩]
      omega
    · have hrest : (∃ d' ∈ d :: days, t.map dayOf = some d') ↔ ∃ d' ∈ days, t.map dayOf = some d' := by
        rw [exists_mem_cons_iff, or_iff_right hday]
      rw [if_neg hday, if_congr hrest rfl rfl]
      omega

theorem sum_onDay (h : days.Nodup) (times : List (Option ℤ)) :
    (days.map fun d => onDay d times).sum = within days times := by
  induction days with
  | nil => exact (countP_eq_zero.mpr fun t _ => by simp).symm
  | cons d days ih =>
    obtain ⟨hd, hdays⟩ := nodup_cons.mp h
    rw [map_cons, sum_cons, ih hdays, within_cons hd]

theorem entries_counts (hdays : (days.map mmdd).Nodup) (times : List (Option ℤ)) :
    (tally id (fun count _ => count + 1) (dateMap days 0) times).entries =
      days.map fun d => (mmdd d, labelled d times) := by
  have hcount (l : List (Option ℤ)) (n : ℕ) :
      l.foldl (fun count _ => count + 1) n = n + l.length := by
    induction l generalizing n with
    | nil => rfl
    | cons t l ih => rw [foldl_cons, ih, length_cons]; omega
  rw [entries_tally, entries_dateMap hdays, map_map]
  refine map_congr_left fun d _ => ?_
  simp [hcount, labelled, countP_eq_length_filter]

theorem total_foldl_add (devices : List TrendDevice) (counts : DayCounts) :
    (devices.foldl DayCounts.add counts).total = counts.total + devices.length := by
  induction devices generalizing counts with
  | nil => rfl
  | cons device devices ih =>
    have htotal : (counts.add device).total = counts.total + 1 := by
      unfold DayCounts.add
      cases device.platform <;> rfl
    rw [foldl_cons, ih, htotal, length_cons]
    omega

/-- A response whose series counts the records of the labels. -/
structure Labelled (response : WidgetResponse) (days : List ℤ) (times : List (Option ℤ)) : Prop where
  labels : response.trendData.labels = days.map mmdd
  series : response.trendData.series = days.map fun d => labelled d times
  scorecard : response.scorecardValue = response.trendData.series.sum

theorem labelled_countTrend (hrange : ∀ r ∈ range, r.dateIni ≤ r.dateEnd)
    (times : List (Option ℤ)) : Labelled (countTrend range now times) (window range now) times := by
  have hentries := entries_counts (nodup_labels range now) times
  unfold countTrend
  rw [trendDays_eq hrange]
  refine ⟨?_, ?_, rfl⟩
  · show OrderedMap.keys _ = _
    rw [OrderedMap.keys, hentries, map_map]
    rfl
  · show OrderedMap.values _ = _
    rw [OrderedMap.values, hentries, map_map]
    rfl

theorem statsDays_eq (range : Option DateRange) (now : ℤ) :
    statsDays range now = window range now := by
  cases range with
  | none => exact lastDays_eq now
  | some range => exact range.days_eq

theorem labelled_statsDevicesTrend (devices : List TrendDevice) : Labelled (statsDevicesTrend range now devices)
      (window range now) (devices.map TrendDevice.enrolled) := by
  unfold statsDevicesTrend
  rw [statsDays_eq]
  have hentries := entries_tally TrendDevice.enrolled DayCounts.add
    (dateMap (window range now) {}) devices
  rw [entries_dateMap (nodup_labels range now), map_map] at hentries
  refine ⟨?_, ?_, rfl⟩
  · show OrderedMap.keys _ = _
    rw [OrderedMap.keys, hentries, map_map]
    rfl
  · show (OrderedMap.values _).map DayCounts.total = _
    rw [OrderedMap.values, hentries, map_map, map_map]
    refine map_congr_left fun d _ => ?_
    refine (total_foldl_add _ _).trans ((Nat.zero_add _).trans ?_)
    rw [labelled, countP_map, countP_eq_length_filter]
    rfl

/-- **A value of a series** counts the records of its label that are read. -/
theorem labelled_response (hrange : ∀ r ∈ range, r.dateIni ≤ r.dateEnd) (now : ℤ)
    (records : TrendRecords) :
    Labelled (records.response range now) (window range now) records.read := by
  cases records with
  | statsDevices devices => exact labelled_statsDevicesTrend devices
  | _ => exact labelled_countTrend hrange _

/-- **A trend is exact** exactly when, for each day of its window, as many records of other days
have the month and day of it as records of the day are not read. -/
theorem count_trends_exact_iff (records : TrendRecords) (range : Option DateRange) (now : ℤ)
    (hrange : ∀ r ∈ range, r.dateIni ≤ r.dateEnd) :
    Exact (records.response range now) (window range now) records.times ↔
      ∀ d ∈ window range now, strays d records.read = onDay d records.unread := by
  obtain ⟨hlabels, hseries, hscorecard⟩ := labelled_response hrange now records
  have hcount (d : ℤ) : labelled d records.read = onDay d records.times ↔
      strays d records.read = onDay d records.unread := by
    rw [labelled_eq, TrendRecords.times, onDay_append]
    omega
  constructor
  · intro h d hd
    rw [← hcount]
    exact map_inj_left.mp (hseries.symm.trans h.series) d hd
  · intro h
    have hexact := hseries.trans (map_congr_left fun d hd => (hcount d).mpr (h d hd))
    refine ⟨hlabels, hexact, ?_⟩
    rw [hscorecard, hexact, sum_onDay (nodup_window range now)]

/-- The second of January 2026. -/
def secondOfJanuary : ℤ :=
  20455

theorem count_trends_exact_iff_week :
    Exact ((TrendRecords.cases [secondOfJanuary * dayMs]).response
        (some ⟨secondOfJanuary - 6, secondOfJanuary⟩) (secondOfJanuary * dayMs))
        (window (some ⟨secondOfJanuary - 6, secondOfJanuary⟩) (secondOfJanuary * dayMs))
        (TrendRecords.cases [secondOfJanuary * dayMs]).times ↔
      ∀ d ∈ window (some ⟨secondOfJanuary - 6, secondOfJanuary⟩) (secondOfJanuary * dayMs),
        strays d (TrendRecords.cases [secondOfJanuary * dayMs]).read =
          onDay d (TrendRecords.cases [secondOfJanuary * dayMs]).unread :=
  count_trends_exact_iff _ _ _ fun r hr => by
    obtain rfl := Option.some.inj hr
    decide

/-- **A case of the year before** is counted under its month and day. -/
theorem case_of_last_year :
    (casesTrend (some ⟨secondOfJanuary, secondOfJanuary⟩) (secondOfJanuary * dayMs)
        [(secondOfJanuary - 365) * dayMs]).trendData = ⟨["01-02"], [1], {}⟩ ∧
      ¬Exact ((TrendRecords.cases [(secondOfJanuary - 365) * dayMs]).response
        (some ⟨secondOfJanuary, secondOfJanuary⟩) (secondOfJanuary * dayMs))
        (window (some ⟨secondOfJanuary, secondOfJanuary⟩) (secondOfJanuary * dayMs))
        (TrendRecords.cases [(secondOfJanuary - 365) * dayMs]).times := by
  refine ⟨by decide +kernel, fun h => ?_⟩
  have hscorecard := h.scorecard
  revert hscorecard
  decide +kernel

end Results

end AppliverySoar.Analytics
