import AppliverySoar.Analytics.Snapshots
import AppliverySoar.Devices.LiveCache

/-!
# The tiers of a widget

`getWidgetData` of `widgets.service.ts` (lines 118–184, 1158–1164) answers from stored
snapshots, from the live cache or live; `captureDailySnapshot` stores the snapshots. Kept
with each response, for the statements only, is what was applied where it was computed.

Results:
* `plain_run`: nothing was ever applied to what is stored.
* `tiers_respect_iff`: a stored answer has what the live branch would apply exactly when
  segments are asked for, that is nothing, or no snapshot is in range.
* `platform_ignored`: a platform filter that the snapshot does not have.
-/

namespace AppliverySoar.Analytics

open Devices Js List

/-! ## Filters -/

/-- The filters that are read. -/
structure Filters where
  segmentId : Option String := none
  type : Option String := none
  complianceStatus : Option String := none
  inactive24h : Bool := false
  role : Option String := none
  authOrigin : Option String := none
  segmentIds : List String := []

/-- What a live branch applies: parameters of its requests and filters of their answers. -/
structure Applied where
  segmentId : Option String := none
  os : Option String := none
  compliant : Option Bool := none
  inactive24h : Bool := false
  role : Option String := none
  authOrigin : Option String := none
  segmentIds : List String := []
deriving DecidableEq

/-- `value && value !== all`. -/
def selected (value : Option String) (all : String) : Option String :=
  value.filter fun s => s ≠ "" && s ≠ all

/-- The sources that `inSegment` filters. -/
def inSegmentSources : List String :=
  ["compliance_devices_violating", "compliance_violations_by_policy",
    "compliance_violations_trend", "compliance_review_queue", "autorun_safety_summary",
    "geofence_zones_summary", "geofence_devices_status", "geofence_location_freshness",
    "os_updates_device_status_summary", "vuln_device_status_summary",
    "os_lifecycle_device_status_summary", "vuln_service_device_status_summary",
    "device_risk_distribution"]

def deviceSources : List String :=
  ["mdm_devices", "stats_devices_os", "stats_devices_status", "stats_compliance", "stats_battery",
    "stats_models"]

def collabSources : List String :=
  ["stats_collaborators", "mdm_collaborators", "app_dist_collaborators", "mdm_users",
    "app_dist_store_users"]

/-- The other sources whose requests have `baseParams`. -/
def segmentSources : List String :=
  ["app_dist_apps", "stats_devices_trend", "stats_downloads_trend", "stats_builds_trend",
    "stats_builds_os"]

/-- The sources whose requests have the platform as it is. -/
def osSources : List String :=
  ["stats_os_updates_all", "stats_os_versions"]

/-- The sources that read no filter. -/
def unfilteredSources : List String :=
  ["system_health_summary", "os_updates_catalog_summary", "vuln_catalog_summary",
    "os_lifecycle_summary", "apple_app_updates_summary", "compliance_policies_summary",
    "compliance_framework_coverage", "cases_summary", "cases_by_severity", "cases_by_source",
    "cases_trend", "cases_sla_summary", "cases_mttr_trend", "applivery_events_by_type",
    "applivery_events_trend", "applivery_automation_outcomes", "triggers_summary",
    "triggers_fired_trend", "workflow_runs_summary", "workflow_runs_trend", "device_risk_trend",
    "mitre_coverage", "threat_intel_summary", "ticketing_summary", "org_profile", "mdm_segments",
    "stats_sync_errors"]

section Model

variable (lower : String → String) (frameworks : List String) (workspaceSlug : String)

/-- What the live branch of a source applies. -/
def applied (source : String) (filters : Filters) : Applied :=
  let segmentId := selected filters.segmentId "0"
  if inSegmentSources.contains source then { segmentIds := filters.segmentIds }
  else if deviceSources.contains source then
    { segmentId
      os := (selected filters.type "all").map fun type => if type = "apple" then "ios" else type
      compliant :=
        if filters.complianceStatus = some "compliant" then some true
        else if filters.complianceStatus = some "non_compliant" then some false else none
      inactive24h := filters.inactive24h }
  else if collabSources.contains source then
    { segmentId
      role := (selected filters.role "all").map lower
      authOrigin := (selected filters.authOrigin "all").map lower }
  else if segmentSources.contains source then { segmentId }
  else if osSources.contains source then { os := selected filters.type "all" }
  else {}

/-- A source with a branch of its own. -/
def known (source : String) : Bool :=
  (inSegmentSources ++ deviceSources ++ collabSources ++ segmentSources ++ osSources ++
    unfilteredSources ++ frameworks.map (· ++ "_compliance_status")).contains source

/-! ## Tiers -/

/-- A response, with what was applied to the ones that it is made from. -/
structure Computed where
  response : WidgetResponse
  applied : List Applied

/-- A row of `analyticsSnapshot`. -/
structure StoredRow where
  date : String
  source : String
  payload : Computed

/-- The row that the aggregation reads. -/
def StoredRow.row (row : StoredRow) : SnapshotRow :=
  ⟨row.date, row.source, row.payload.response⟩

/-- What is stored of the workspace. -/
structure Tiers where
  rows : List StoredRow := []
  cache : LiveCache Computed := fun _ => none

/-- The time of a call. -/
structure Clock where
  nowMs : ℕ
  todayStr : String

/-- The arguments of `getWidgetData`. -/
structure WidgetRequest where
  source : String
  filters : Filters := {}
  dateIni : Option String := none
  dateEnd : Option String := none

/-- `dateIni && dateEnd`. -/
def WidgetRequest.range (q : WidgetRequest) : Option (String × String) :=
  (selected q.dateIni "").bind fun dateIni => (selected q.dateEnd "").map (dateIni, ·)

/-- A row of the source with a date in range. -/
def StoredRow.covers (row : StoredRow) (source : String) (range : String × String) : Bool :=
  row.source = source && dateLe range.1 row.date && dateLe row.date range.2

/-- The range of the snapshots: `!isTodayOnly`. -/
def WidgetRequest.past (q : WidgetRequest) (clock : Clock) : Option (String × String) :=
  q.range.filter fun r => r ≠ (clock.todayStr, clock.todayStr)

/-- Tier 2. -/
def Tiers.snapshotTier (s : Tiers) (clock : Clock) (q : WidgetRequest) : Option Computed :=
  (q.past clock).bind fun r =>
    (aggregateSnapshotsForRange (s.rows.map StoredRow.row) q.source r.1 r.2).map fun response =>
      ⟨response, (s.rows.filter (StoredRow.covers · q.source r)).flatMap fun row =>
        row.payload.applied⟩

/-- Tier 1: not where `dateIni < todayStr`. -/
def Tiers.cacheTier (s : Tiers) (clock : Clock) (q : WidgetRequest) : Option Computed :=
  if q.range.any fun r => !dateLe clock.todayStr r.1 then none
  else liveCacheGet s.cache clock.nowMs workspaceSlug q.source

/-- The answer of the two tiers. -/
def Tiers.stored (s : Tiers) (clock : Clock) (q : WidgetRequest) : Option Computed :=
  if q.filters.segmentIds = [] then
    (s.snapshotTier clock q).or (s.cacheTier workspaceSlug clock q)
  else none

def Tiers.saveSnapshot (s : Tiers) (date source : String) (data : Computed) : Tiers :=
  { s with rows := s.rows.filter (fun row => ¬(row.date = date ∧ row.source = source)) ++
      [⟨date, source, data⟩] }

/-- `getWidgetData`, where the live branch answers `live`. -/
def Tiers.getWidgetData (s : Tiers) (clock : Clock) (q : WidgetRequest) (live : WidgetResponse) :
    Computed × Tiers :=
  match s.stored workspaceSlug clock q with
  | some data => (data, s)
  | none =>
    let data := ⟨live, [applied lower q.source q.filters]⟩
    (data, if known frameworks q.source then s else
      { s with cache := liveCacheSet s.cache clock.nowMs workspaceSlug q.source data 300 }.saveSnapshot
        clock.todayStr q.source data)

/-- `ALL_SNAPSHOT_SOURCES`. -/
def allSnapshotSources : List String :=
  ["mdm_devices", "stats_devices_os", "stats_devices_status", "stats_compliance", "stats_battery",
    "stats_models", "stats_os_versions", "stats_sync_errors", "stats_devices_trend",
    "stats_downloads_trend", "stats_builds_trend", "mdm_users", "mdm_collaborators",
    "stats_collaborators", "app_dist_apps", "app_dist_store_users", "app_dist_collaborators",
    "mdm_segments"]

/-- One source of `captureDailySnapshot`; the live branch may fail. -/
def Tiers.captureSource (clock : Clock) (dateStr : String)
    (live : String → Option WidgetResponse) (s : Tiers) (source : String) : Tiers :=
  match live source with
  | none => s
  | some response =>
    let (data, s) := s.getWidgetData lower frameworks workspaceSlug clock { source } response
    s.saveSnapshot dateStr source data

/-- What happens to the tiers. -/
inductive TierEvent
  | widget (q : WidgetRequest) (live : WidgetResponse)
  | captureDailySnapshot (dateStr : String) (live : String → Option WidgetResponse)
  | purgeOldSnapshots (cutoff : String)

/-- What an event leaves. -/
def Tiers.step (s : Tiers) (clock : Clock) : TierEvent → Tiers
  | .widget q live => (s.getWidgetData lower frameworks workspaceSlug clock q live).2
  | .captureDailySnapshot dateStr live =>
    let s := allSnapshotSources.foldl
      (Tiers.captureSource lower frameworks workspaceSlug clock dateStr live) s
    { s with cache := liveCacheInvalidateWorkspace s.cache workspaceSlug }
  | .purgeOldSnapshots cutoff => { s with rows := s.rows.filter fun row => dateLe cutoff row.date }

/-- The tiers after some events. -/
def tiersAfter (events : List (Clock × TierEvent)) : Tiers :=
  events.foldl (fun s e => s.step lower frameworks workspaceSlug e.1 e.2) {}

/-! ## What is stored -/

/-- What is wanted holds of a response. -/
def Applied.Within (wanted held : Applied) : Prop :=
  (wanted.segmentId = none ∨ held.segmentId = wanted.segmentId) ∧
    (wanted.os = none ∨ held.os = wanted.os) ∧
    (wanted.compliant = none ∨ held.compliant = wanted.compliant) ∧
    (wanted.inactive24h = false ∨ held.inactive24h = true) ∧
    (wanted.role = none ∨ held.role = wanted.role) ∧
    (wanted.authOrigin = none ∨ held.authOrigin = wanted.authOrigin) ∧
    (wanted.segmentIds = [] ∨ held.segmentIds = wanted.segmentIds)

instance (wanted held : Applied) : Decidable (wanted.Within held) :=
  inferInstanceAs (Decidable (_ ∧ _))

theorem within_empty_iff {wanted : Applied} : wanted.Within {} ↔ wanted = {} := by
  obtain ⟨segmentId, os, compliant, inactive24h, role, authOrigin, segmentIds⟩ := wanted
  simp only [Applied.Within, Applied.mk.injEq, eq_comm (a := none), eq_comm (a := []),
    Bool.false_eq_true, or_false, or_self]

/-- Computed without a filter. -/
def Computed.Plain (data : Computed) : Prop :=
  data.applied ≠ [] ∧ ∀ a ∈ data.applied, a = {}

/-- Nothing was applied to what is stored, and the sources with a branch are not in the
cache. -/
structure Tiers.Plain (s : Tiers) : Prop where
  rows : ∀ row ∈ s.rows, row.payload.Plain
  cache : ∀ source entry, s.cache (cacheKey workspaceSlug source) = some entry →
    known frameworks source = false ∧ entry.data.Plain

/-- A stored answer has what the live branch would apply. -/
def Tiers.Respects (s : Tiers) (clock : Clock) (q : WidgetRequest) : Prop :=
  ∀ data, s.stored workspaceSlug clock q = some data →
    ∀ held ∈ data.applied, (applied lower q.source q.filters).Within held

variable {frameworks workspaceSlug} {s : Tiers} {clock : Clock} {q : WidgetRequest}
  {source : String} {filters : Filters} {data : Computed} {live : WidgetResponse}

theorem applied_empty : applied lower source {} = {} := by
  simp only [applied, selected, Option.filter_none, Option.map_none, reduceCtorEq, if_false,
    ite_self]

theorem applied_of_unknown (h : known frameworks source = false) :
    applied lower source filters = {} := by
  simp only [known, contains_eq_mem, mem_append, decide_eq_false_iff_not, not_or] at h
  obtain ⟨⟨⟨⟨⟨⟨hin, hdevice⟩, hcollab⟩, hsegment⟩, hos⟩, -⟩, -⟩ := h
  simp only [applied, contains_eq_mem, hin, hdevice, hcollab, hsegment, hos, decide_false,
    Bool.false_eq_true, if_false]

/-- There is an aggregate exactly when a row of the source is in range. -/
theorem aggregate_isSome_iff {rows : List SnapshotRow} {dateIni dateEnd : String} :
    (aggregateSnapshotsForRange rows source dateIni dateEnd).isSome ↔
      ∃ row ∈ rows, row.source = source ∧ dateLe dateIni row.date ∧ dateLe row.date dateEnd := by
  have hload (d : String) : (loadSnapshot rows d source).isSome ↔
      ∃ row ∈ rows, row.date = d ∧ row.source = source := by
    simp only [loadSnapshot, Option.isSome_map, find?_isSome, decide_eq_true_eq]
  have hdates (d : String) : d ∈ listSnapshotDates rows ↔ ∃ row ∈ rows, row.date = d := by
    rw [listSnapshotDates, mem_insertionSort, mem_dedup, mem_map]
  rw [aggregateSnapshotsForRange, Option.isSome_map, getLast?_isSome, ne_eq,
    snapshotsInRange, filterMap_eq_nil_iff]
  simp only [mem_filter, hdates, Bool.and_eq_true, and_imp, not_forall,
    ← Option.isSome_iff_ne_none, hload, exists_prop]
  constructor
  · rintro ⟨_, -, hini, hend, row, hrow, rfl, hsource⟩
    exact ⟨row, hrow, hsource, hini, hend⟩
  · rintro ⟨row, hrow, hsource, hini, hend⟩
    exact ⟨row.date, ⟨row, hrow, rfl⟩, hini, hend, row, hrow, rfl, hsource⟩

theorem snapshotTier_isSome_iff :
    (s.snapshotTier clock q).isSome ↔ ∃ r ∈ q.past clock, ∃ row ∈ s.rows, row.covers q.source r := by
  simp only [Tiers.snapshotTier, Option.isSome_bind, Option.any_eq_true, Option.isSome_map,
    aggregate_isSome_iff, mem_map, exists_exists_and_eq_and, StoredRow.row, StoredRow.covers,
    Bool.and_eq_true, decide_eq_true_eq, and_assoc, Option.mem_def]

theorem plain_snapshotTier (hs : ∀ row ∈ s.rows, row.payload.Plain)
    (h : s.snapshotTier clock q = some data) : data.Plain := by
  obtain ⟨r, hr, row, hrow, hcovers⟩ :=
    snapshotTier_isSome_iff.mp (Option.isSome_of_mem h)
  rw [Tiers.snapshotTier, Option.mem_def.mp hr, Option.bind_some] at h
  obtain ⟨_, -, rfl⟩ := Option.map_eq_some_iff.mp h
  constructor
  · intro hnil
    have hin : row ∈ s.rows.filter (StoredRow.covers · q.source r) :=
      mem_filter.mpr ⟨hrow, hcovers⟩
    exact (hs row hrow).1 (flatMap_eq_nil_iff.mp hnil row hin)
  · intro a ha
    obtain ⟨row, hrow, ha⟩ := mem_flatMap.mp ha
    exact (hs row (mem_of_mem_filter hrow)).2 a ha

section

variable (hs : s.Plain frameworks workspaceSlug)
include hs

theorem plain_stored
    (h : s.stored workspaceSlug clock q = some data) : data.Plain := by
  unfold Tiers.stored at h
  split_ifs at h
  rcases Option.or_eq_some_iff.mp h with h | ⟨-, h⟩
  · exact plain_snapshotTier hs.rows h
  · unfold Tiers.cacheTier at h
    split_ifs at h
    obtain ⟨entry, hentry, rfl⟩ := exists_entry_of_get h
    exact (hs.cache q.source entry hentry).2

theorem plain_saveSnapshot (hdata : data.Plain)
    (date : String) : (s.saveSnapshot date source data).Plain frameworks workspaceSlug := by
  refine ⟨fun row hrow => ?_, hs.cache⟩
  rcases mem_append.mp hrow with hrow | hrow
  · exact hs.rows row (mem_of_mem_filter hrow)
  · rw [mem_singleton.mp hrow]
    exact hdata

/-- A call leaves the tiers plain, and answers with a plain response where nothing is applied. -/
theorem plain_getWidgetData (clock : Clock)
    (q : WidgetRequest) (live : WidgetResponse) :
    (s.getWidgetData lower frameworks workspaceSlug clock q live).2.Plain frameworks workspaceSlug ∧
      (applied lower q.source q.filters = {} →
        (s.getWidgetData lower frameworks workspaceSlug clock q live).1.Plain) := by
  have hlive (h : applied lower q.source q.filters = {}) :
      (Computed.mk live [applied lower q.source q.filters]).Plain :=
    ⟨cons_ne_nil _ _, fun a ha => (mem_singleton.mp ha).trans h⟩
  unfold Tiers.getWidgetData
  split
  next data h => exact ⟨hs, fun _ => plain_stored hs h⟩
  next =>
    refine ⟨?_, hlive⟩
    show Tiers.Plain _ _ (if _ then _ else _)
    split_ifs with hknown
    · exact hs
    · have hunknown := eq_false_of_ne_true hknown
      have hdata := hlive (applied_of_unknown lower hunknown)
      refine plain_saveSnapshot (s := ⟨s.rows, liveCacheSet s.cache clock.nowMs workspaceSlug
        q.source _ 300⟩) ⟨hs.rows, fun source entry hentry => ?_⟩ hdata _
      change liveCacheSet _ _ _ _ _ _ _ = _ at hentry
      by_cases hkey : cacheKey workspaceSlug source = cacheKey workspaceSlug q.source
      · have hsource : source = q.source := by
          simpa only [cacheKey, String.append_right_inj] using hkey
        rw [liveCacheSet, hkey, Function.update_self] at hentry
        obtain rfl := Option.some.inj hentry
        exact ⟨hsource ▸ hunknown, hdata⟩
      · rw [liveCacheSet, Function.update_of_ne hkey] at hentry
        exact hs.cache source entry hentry

theorem plain_captureSource {dateStr : String} {live : String → Option WidgetResponse} (source : String) :
    (s.captureSource lower frameworks workspaceSlug clock dateStr live source).Plain
      frameworks workspaceSlug := by
  unfold Tiers.captureSource
  split
  next => exact hs
  next response _ =>
    obtain ⟨hs', hdata⟩ := plain_getWidgetData lower hs clock { source } response
    exact plain_saveSnapshot hs' (hdata (applied_empty lower)) _

end

/-- **Nothing was ever applied** to what is stored. -/
theorem plain_run (frameworks : List String) (workspaceSlug : String)
    (events : List (Clock × TierEvent)) :
    (tiersAfter lower frameworks workspaceSlug events).Plain frameworks workspaceSlug := by
  have hstep (s : Tiers) (hs : s.Plain frameworks workspaceSlug) (e : Clock × TierEvent) :
      (s.step lower frameworks workspaceSlug e.1 e.2).Plain frameworks workspaceSlug := by
    obtain ⟨clock, e⟩ := e
    cases e with
    | widget q live => exact (plain_getWidgetData lower hs clock q live).1
    | captureDailySnapshot dateStr live =>
      have hfold (sources : List String) := foldlRecOn sources
        (Tiers.captureSource lower frameworks workspaceSlug clock dateStr live) hs
        fun _ hs source _ => plain_captureSource lower hs source
      exact ⟨(hfold _).rows, fun source entry h =>
        (hfold _).cache source entry (entry_of_invalidateWorkspace h)⟩
    | purgeOldSnapshots cutoff =>
      exact ⟨fun row hrow => hs.rows row (mem_of_mem_filter hrow), hs.cache⟩
  exact foldlRecOn events _ ⟨forall_mem_nil _, fun _ _ h => nomatch h⟩
    fun s hs e _ => hstep s hs e

/-- **What is stored respects a filter** exactly when it goes by the segments, the live
branch applies nothing, or no snapshot of the source is in range. -/
theorem tiers_respect_iff (lower : String → String) (frameworks : List String)
    (workspaceSlug : String) (events : List (Clock × TierEvent)) (clock : Clock)
    (q : WidgetRequest) :
    (tiersAfter lower frameworks workspaceSlug events).Respects lower workspaceSlug clock q ↔
      q.filters.segmentIds ≠ [] ∨ applied lower q.source q.filters = {} ∨
        ∀ r ∈ q.past clock, ∀ row ∈ (tiersAfter lower frameworks workspaceSlug events).rows,
          ¬row.covers q.source r := by
  have hplain := plain_run lower frameworks workspaceSlug events
  generalize tiersAfter lower frameworks workspaceSlug events = s at hplain ⊢
  constructor
  · intro h
    by_contra! hnot
    obtain ⟨hsegments, happlied, hsnapshot⟩ := hnot
    obtain ⟨data, hdata⟩ := Option.isSome_iff_exists.mp
      (snapshotTier_isSome_iff.mpr hsnapshot)
    have hstored : s.stored workspaceSlug clock q = some data := by
      rw [Tiers.stored, if_pos hsegments, hdata, Option.some_or]
    obtain ⟨held, hheld⟩ := exists_mem_of_ne_nil _ (plain_snapshotTier hplain.rows hdata).1
    have hwithin := h data hstored held hheld
    rw [(plain_snapshotTier hplain.rows hdata).2 held hheld] at hwithin
    exact happlied (within_empty_iff.mp hwithin)
  · intro h data hdata held hheld
    rw [(plain_stored hplain hdata).2 held hheld, within_empty_iff]
    unfold Tiers.stored at hdata
    split_ifs at hdata with hsegments
    rcases h with h | h | h
    · exact absurd hsegments h
    · exact h
    · have hnone : s.snapshotTier clock q = none := by
        rw [← Option.not_isSome_iff_eq_none, snapshotTier_isSome_iff]
        rintro ⟨r, hr, row, hrow, hcovers⟩
        exact h r hr row hrow hcovers
      rw [hnone, Option.none_or] at hdata
      unfold Tiers.cacheTier at hdata
      split_ifs at hdata
      obtain ⟨entry, hentry, -⟩ := exists_entry_of_get hdata
      exact applied_of_unknown lower (hplain.cache q.source entry hentry).1

end Model

/-- The devices of a day are captured, and those with Windows asked for on the next. -/
theorem platform_ignored :
    ¬(tiersAfter id [] "acme" [(⟨0, "2026-01-05"⟩, .captureDailySnapshot "2026-01-05" fun _ => some {})]).Respects
      id "acme" ⟨86400000, "2026-01-06"⟩
      { source := "mdm_devices", filters := { type := some "windows" }
        dateIni := some "2026-01-05", dateEnd := some "2026-01-05" } := by
  intro h
  have happlied : ((tiersAfter id [] "acme" [(⟨0, "2026-01-05"⟩, .captureDailySnapshot "2026-01-05"
      fun _ => some {})]).stored "acme" ⟨86400000, "2026-01-06"⟩
        { source := "mdm_devices", filters := { type := some "windows" }
          dateIni := some "2026-01-05", dateEnd := some "2026-01-05" }).map Computed.applied =
      some [{}] := by
    decide +kernel
  obtain ⟨data, hdata, hheld⟩ := Option.map_eq_some_iff.mp happlied
  exact absurd (h data hdata {} (by rw [hheld]; exact mem_singleton_self _)) (by decide)

end AppliverySoar.Analytics
