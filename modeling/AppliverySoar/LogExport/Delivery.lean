import AppliverySoar.Feeds.CursorFeed
import AppliverySoar.LogExport.Scheduler

/-!
# What a destination receives

The log of a workspace and one of its destinations are a feed read behind a cursor: the
steps of the exporter are steps of the feed, or leave it alone (`view_step`).

Results:
* `known_step`, `known_run`: what the tables and the tick know of each other.
* `faithful_iff_untied`: every entry is shipped or will be read, and what a tick that
  succeeded had found is shipped, once unless the cursor could not be moved, in all states of
  a run, exactly if no entry is recorded with the time of the last one read after a read
  whose cursor is moved.
* `entry_skipped`: an entry of the same millisecond as the last one exported is never read.
-/

namespace AppliverySoar.LogExport

open List

open Feeds (Feed deliveries)

/-! ## Specification -/

/-- The batches that were shipped to a destination. -/
def exported (d : LogExportDestination) (s : Exporter) : List (List AuditEventLike) :=
  (s.exports.filter fun x => x.1 = d.id).map Prod.snd

/-- What a destination is owed: an entry of its workspace in the log is shipped or will be
read, and every entry that a tick that succeeded had found is shipped, and only once
unless its cursor could not be moved after an export. -/
structure Faithful (d : LogExportDestination) (s : Exporter) : Prop where
  kept : ∀ e ∈ s.entries, e.workspaceSlug = d.workspaceSlug →
    0 < deliveries (exported d s) e.toEvent ∨ behind (cursor d.id s.rows) e = true
  delivered : ∀ found, (d.id, found) ∈ s.succeeded → ∀ e ∈ found,
    0 < deliveries (exported d s) e.toEvent ∧
      (d.id ∉ s.stuck → deliveries (exported d s) e.toEvent = 1)

/-- A step keeps the entries of one time together: none is recorded with the time of the
cursor, and when the cursor moves, all of the time it moves to were found by the read. -/
def Untied (d : LogExportDestination) (s : Exporter) (e : Event) (now : ℕ) : Prop :=
  match e, s.tick with
  | .record workspaceSlug _, _ => workspaceSlug = d.workspaceSlug →
    ∀ c, cursor d.id s.rows = some c → c < now
  | .proceed, some ⟨dest :: _, .updating found newEntries⟩ => dest.id = d.id →
    ∀ e ∈ s.entries, e.workspaceSlug = d.workspaceSlug →
      newEntries.getLast?.map AuditLogEntry.createdAt = some e.createdAt → e ∈ found
  | _, _ => True

/-- A destination as `createLogExportDestination` leaves it, before any tick. -/
structure Created (d : LogExportDestination) (s : Exporter) : Prop where
  row : d ∈ s.rows
  ids : (s.rows.map LogExportDestination.id).Nodup
  cursor : d.lastExportedAt = none
  idle : s.tick = none
  entries : ∀ e ∈ s.entries, e.id < s.inserted ∧ e.createdAt ≤ s.clock
  exports : ∀ x ∈ s.exports, x.1 ≠ d.id
  succeeded : ∀ x ∈ s.succeeded, x.1 ≠ d.id

/-- `P` holds of every state that these events lead to. -/
def AllStates (P : Exporter → Prop) : Exporter → List (Event × ℕ) → Prop
  | s, [] => P s
  | s, (e, now) :: es => P s ∧ ∀ s', s.step e now = some s' → AllStates P s' es

/-- `P` holds of every step that these events make. -/
def AllSteps (P : Exporter → Event → ℕ → Prop) : Exporter → List (Event × ℕ) → Prop
  | _, [] => True
  | s, (e, now) :: es => ∀ s', s.step e now = some s' → P s e now ∧ AllSteps P s' es

variable {P : Exporter → Prop} {es : List (Event × ℕ)}

theorem AllStates.here {s : Exporter} (h : AllStates P s es) : P s := by
  cases es with
  | nil => exact h
  | cons e es => exact h.1

theorem AllStates.last {s s' : Exporter}
    (h : AllStates P s es) (hrun : s.run es = some s') : P s' := by
  induction es generalizing s with
  | nil => exact Option.some.inj hrun ▸ h
  | cons e es ih =>
    obtain ⟨s₁, hstep, hrest⟩ := Option.bind_eq_some_iff.mp hrun
    exact ih (h.2 s₁ hstep) hrest

/-! ## The exporter as a feed -/

/-- The stage of the tick with a destination. -/
def stageOf (d : LogExportDestination) (tick : Option Tick) : Stage :=
  match tick with
  | some ⟨dest :: _, stage⟩ => if dest.id = d.id then stage else .reading
  | _ => .reading

/-- A stage, seen from the feed. -/
def Stage.view : Stage → Feeds.Stage AuditEventLike
  | .reading => .idle
  | .exporting found newEntries =>
    .read (found.map AuditLogEntry.toEvent) (newEntries.map AuditLogEntry.toEvent)
  | .updating found newEntries =>
    .shipped (found.map AuditLogEntry.toEvent) (newEntries.map AuditLogEntry.toEvent)
  | .failing _ => .idle

/-- The feed of a destination. -/
def view (d : LogExportDestination) (s : Exporter) : Feed AuditEventLike where
  log := (s.entries.filter fun e => e.workspaceSlug = d.workspaceSlug).map AuditLogEntry.toEvent
  cursor := cursor d.id s.rows
  stage := (stageOf d s.tick).view
  shipments := exported d s
  settled := (s.succeeded.filter fun x => x.1 = d.id).map fun x => x.2.map AuditLogEntry.toEvent
  stuck := d.id ∈ s.stuck

/-- The table has the destination, once. -/
structure Listed (d : LogExportDestination) (rows : List LogExportDestination) : Prop where
  ids : (rows.map LogExportDestination.id).Nodup
  row : d.id ∈ rows.map LogExportDestination.id
  slug : ∀ r ∈ rows, r.id = d.id → r.workspaceSlug = d.workspaceSlug

/-- What the tables and the tick know of each other. -/
structure Known (d : LogExportDestination) (s : Exporter) : Prop where
  rows : Listed d s.rows
  entries : ∀ e ∈ s.entries, e.id < s.inserted ∧ e.createdAt ≤ s.clock
  exports : ∀ batch ∈ exported d s, ∀ v ∈ batch, v.id < s.inserted
  stage : ∀ found newEntries, stageOf d s.tick = .exporting found newEntries ∨
    stageOf d s.tick = .updating found newEntries →
    (∀ e ∈ found, e.id < s.inserted ∧ e.createdAt ≤ s.clock ∧
      e.workspaceSlug = d.workspaceSlug) ∧ newEntries ⊆ found
  tick : ∀ t, s.tick = some t → (t.destinations.map LogExportDestination.id).Nodup ∧
    ∀ r ∈ t.destinations, r.id = d.id →
      r.workspaceSlug = d.workspaceSlug ∧ r.lastExportedAt = cursor d.id s.rows

section View

variable {d dest : LogExportDestination} {s s' : Exporter} {e : Event} {now : ℕ}
  {destinations : List LogExportDestination}

theorem stageOf_reading : stageOf d (some ⟨destinations, .reading⟩) = .reading := by
  cases destinations with
  | nil => rfl
  | cons dest destinations =>
    unfold stageOf
    exact ite_self _

theorem stageOf_self (h : dest.id = d.id) (stage : Stage) :
    stageOf d (some ⟨dest :: destinations, stage⟩) = stage :=
  if_pos h

theorem stageOf_other (h : dest.id ≠ d.id) (stage : Stage) :
    stageOf d (some ⟨dest :: destinations, stage⟩) = .reading :=
  if_neg h

theorem stage_of_view {found batch : List AuditEventLike}
    (h : (view d s).stage = .read found batch ∨ (view d s).stage = .shipped found batch) :
    ∃ entries newEntries, (stageOf d s.tick = .exporting entries newEntries ∨
      stageOf d s.tick = .updating entries newEntries) ∧
      found = entries.map AuditLogEntry.toEvent := by
  unfold view at h
  dsimp only at h
  cases hstage : stageOf d s.tick with
  | exporting entries newEntries =>
    rw [hstage] at h
    rcases h with h | h
    · exact ⟨entries, newEntries, Or.inl rfl, (Feeds.Stage.read.inj h).1.symm⟩
    · cases h
  | updating entries newEntries =>
    rw [hstage] at h
    rcases h with h | h
    · cases h
    · exact ⟨entries, newEntries, Or.inr rfl, (Feeds.Stage.shipped.inj h).1.symm⟩
  | _ =>
    rw [hstage] at h
    rcases h with h | h <;> cases h

/-- Two entries of a workspace that ship as the same event are the same. -/
theorem toEvent_inj {e e' : AuditLogEntry} (hslug : e.workspaceSlug = e'.workspaceSlug)
    (h : e.toEvent = e'.toEvent) : e = e' := by
  unfold AuditLogEntry.toEvent at h
  cases e
  cases e'
  simp only [AuditEventLike.mk.injEq] at h
  simp_all

theorem behind_iff {c : Option ℕ} {e : AuditLogEntry} :
    behind c e = true ↔ Feeds.Behind AuditEventLike.timestamp c e.toEvent := by
  unfold behind Feeds.Behind
  cases c with
  | none => simp
  | some c => simp [AuditLogEntry.toEvent]

theorem filter_snoc_other {β : Type} {id id' : ℕ} (h : id' ≠ id) (xs : List (ℕ × β)) (b : β) :
    ((xs ++ [(id', b)]).filter fun x => x.1 = id) = xs.filter fun x => x.1 = id := by
  rw [filter_append, filter_cons_of_neg (by simpa using h), filter_nil,
    append_nil]

theorem filter_snoc_self {β : Type} (id : ℕ) (xs : List (ℕ × β)) (b : β) :
    ((xs ++ [(id, b)]).filter fun x => x.1 = id) = (xs.filter fun x => x.1 = id) ++ [(id, b)] := by
  rw [filter_append, filter_cons_of_pos (by simp), filter_nil]

variable {stage : Stage}

theorem view_proceed_other (h : dest.id ≠ d.id)
    (htick : s.tick = some ⟨dest :: destinations, stage⟩) :
    view d (s.proceed now dest destinations stage) = view d s := by
  have hstage : stageOf d s.tick = .reading := by rw [htick, stageOf_other h]
  unfold view exported
  cases stage with
  | reading =>
    unfold Exporter.proceed
    dsimp only
    split
    · rw [hstage, stageOf_reading, filter_snoc_other h]
    · rw [hstage, stageOf_other h]
  | exporting found newEntries =>
    unfold Exporter.proceed
    dsimp only
    rw [hstage, stageOf_other h, filter_snoc_other h]
  | updating found newEntries =>
    unfold Exporter.proceed
    dsimp only
    rw [hstage, stageOf_reading, cursor_moveCursor_other (Ne.symm h), filter_snoc_other h]
  | failing message =>
    unfold Exporter.proceed
    dsimp only
    rw [hstage, stageOf_reading, cursor_writeError]

theorem view_fail_other (h : dest.id ≠ d.id) (message : String)
    (htick : s.tick = some ⟨dest :: destinations, stage⟩) :
    view d (s.fail now dest destinations message stage) = view d s := by
  have hstage : stageOf d s.tick = .reading := by rw [htick, stageOf_other h]
  have hstuck : (d.id ∈ s.stuck ++ [dest.id]) = (d.id ∈ s.stuck) := by
    simp [Ne.symm h]
  unfold view exported
  cases stage with
  | updating found newEntries =>
    unfold Exporter.fail
    dsimp only
    rw [hstage, stageOf_other h, hstuck]
  | failing message =>
    unfold Exporter.fail
    dsimp only
    rw [hstage, stageOf_reading]
  | _ =>
    unfold Exporter.fail
    dsimp only
    rw [hstage, stageOf_other h]

theorem readEntries_view (hslug : dest.workspaceSlug = d.workspaceSlug)
    (hcursor : dest.lastExportedAt = cursor d.id s.rows) (v : AuditEventLike) :
    v ∈ (readEntries s.entries dest).map AuditLogEntry.toEvent ↔
      v ∈ (view d s).log ∧ Feeds.Behind AuditEventLike.timestamp (view d s).cursor v := by
  simp only [view, mem_map, mem_filter, decide_eq_true_eq]
  constructor
  · rintro ⟨e, he, rfl⟩
    obtain ⟨hmem, hws, hbehind⟩ := readEntries_mem.mp he
    exact ⟨⟨e, ⟨hmem, hws.trans hslug⟩, rfl⟩, behind_iff.mp (hcursor ▸ hbehind)⟩
  · rintro ⟨⟨e, ⟨hmem, hws⟩, rfl⟩, hbehind⟩
    exact ⟨e, readEntries_mem.mpr ⟨hmem, hws.trans hslug.symm,
      hcursor ▸ behind_iff.mpr hbehind⟩, rfl⟩

/-- A step of the tick for the destination is a step of its feed. -/
theorem view_proceed (hknown : Known d s) (hid : dest.id = d.id)
    (htick : s.tick = some ⟨dest :: destinations, stage⟩) :
    ∃ l, Feeds.Step AuditEventLike.timestamp l (view d s)
        (view d (s.proceed now dest destinations stage)) ∧
      (Untied d s .proceed now ↔ Feeds.Untied AuditEventLike.timestamp (view d s) l) := by
  obtain ⟨hslug, hcursor⟩ := (hknown.tick _ htick).2 dest mem_cons_self hid
  have hstage : (view d s).stage = stage.view := by
    simp only [view, htick, stageOf_self hid]
  cases stage with
  | reading =>
    have huntied : Untied d s .proceed now ↔ True := by simp only [Untied, htick]
    have hlog : (s.entries.filter fun e => e.workspaceSlug = dest.workspaceSlug).map
        AuditLogEntry.toEvent = (view d s).log := by rw [hslug]; rfl
    by_cases hnone : readEntries s.entries dest = []
    · refine ⟨.skip, ?_, huntied⟩
      have hview : view d (s.proceed now dest destinations .reading) =
          { view d s with settled := (view d s).settled ++ [(view d s).log] } := by
        simp only [Exporter.proceed, if_pos hnone, view, exported, hid, filter_snoc_self,
          map_append, map_singleton, stageOf_reading, htick, stageOf_self hid, hslug]
      rw [hview]
      refine .skip hstage fun v hv hbehind => ?_
      have hmem := (readEntries_view hslug hcursor v).mpr ⟨hv, hbehind⟩
      rw [hnone] at hmem
      cases hmem
    · refine ⟨.read, ?_, huntied⟩
      have hview : view d (s.proceed now dest destinations .reading) =
          { view d s with
            stage := .read (view d s).log
              ((readEntries s.entries dest).map AuditLogEntry.toEvent) } := by
        simp only [Exporter.proceed, if_neg hnone, view, exported, stageOf_self hid, Stage.view,
          hslug]
      rw [hview]
      refine .read hstage (by simpa using hnone) (readEntries_view hslug hcursor) ?_
      exact pairwise_map.mpr (readEntries_sorted s.entries dest)
  | exporting found newEntries =>
    refine ⟨.ship, ?_, by simp only [Untied, htick, Feeds.Untied]⟩
    have hview : view d (s.proceed now dest destinations (.exporting found newEntries)) =
        { view d s with
          stage := .shipped (found.map AuditLogEntry.toEvent)
            (newEntries.map AuditLogEntry.toEvent)
          shipments := (view d s).shipments ++ [newEntries.map AuditLogEntry.toEvent] } := by
      simp only [Exporter.proceed, view, exported, stageOf_self hid, Stage.view, hid,
        filter_snoc_self, map_append, map_singleton]
    rw [hview]
    exact .ship hstage
  | updating found newEntries =>
    refine ⟨.move, ?_, ?_⟩
    · have hview : view d (s.proceed now dest destinations (.updating found newEntries)) =
          { view d s with
            stage := .idle
            cursor := (newEntries.map AuditLogEntry.toEvent).getLast?.map
              AuditEventLike.timestamp
            settled := (view d s).settled ++ [found.map AuditLogEntry.toEvent] } := by
        simp only [Exporter.proceed, view, exported, stageOf_reading, Stage.view, hid,
          filter_snoc_self, map_append, map_singleton, cursor_moveCursor _ hknown.rows.row,
          getLast?_map, Option.map_map]
        rfl
      rw [hview]
      exact .move hstage
    · have hfound := (hknown.stage found newEntries
        (Or.inr (by rw [htick, stageOf_self hid]))).1
      simp only [Untied, htick, Feeds.Untied, hstage, Stage.view, hid, forall_const]
      constructor
      · rintro h _ _ ⟨⟩ v hv hlast
        simp only [view, mem_map, mem_filter, decide_eq_true_eq] at hv
        obtain ⟨e, ⟨hmem, hws⟩, rfl⟩ := hv
        refine mem_map_of_mem (h e hmem hws ?_)
        rw [getLast?_map, Option.map_map] at hlast
        exact hlast
      · intro h e hmem hws hlast
        have hv : e.toEvent ∈ (view d s).log :=
          mem_map_of_mem (mem_filter.mpr ⟨hmem, by simpa using hws⟩)
        have hin := h _ _ rfl e.toEvent hv (by
          rw [getLast?_map, Option.map_map]
          exact hlast)
        obtain ⟨e', he', heq⟩ := mem_map.mp hin
        rw [← toEvent_inj ((hfound e' he').2.2.trans hws.symm) heq]
        exact he'
  | failing message =>
    refine ⟨.stay, ?_, by simp only [Untied, htick, Feeds.Untied]⟩
    have hview : view d (s.proceed now dest destinations (.failing message)) = view d s := by
      simp only [Exporter.proceed, view, exported, stageOf_reading, Stage.view, htick,
        stageOf_self hid, cursor_writeError]
    rw [hview]
    exact .stay _

theorem view_fail (now : ℕ) (hid : dest.id = d.id) (message : String)
    (htick : s.tick = some ⟨dest :: destinations, stage⟩) :
    ∃ l, Feeds.Step AuditEventLike.timestamp l (view d s)
        (view d (s.fail now dest destinations message stage)) ∧
      Feeds.Untied AuditEventLike.timestamp (view d s) l := by
  have hstage : (view d s).stage = stage.view := by
    simp only [view, htick, stageOf_self hid]
  cases stage with
  | reading =>
    refine ⟨.stay, ?_, trivial⟩
    have hview : view d (s.fail now dest destinations message .reading) = view d s := by
      simp only [Exporter.fail, view, exported, stageOf_self hid, Stage.view, htick]
    rw [hview]
    exact .stay _
  | exporting found newEntries =>
    refine ⟨.abandon, ?_, trivial⟩
    have hview : view d (s.fail now dest destinations message (.exporting found newEntries)) =
        { view d s with stage := .idle } := by
      simp only [Exporter.fail, view, exported, stageOf_self hid, Stage.view]
    rw [hview]
    refine .abandon fun found' batch' h => ?_
    cases hstage.symm.trans h
  | updating found newEntries =>
    refine ⟨.lose, ?_, trivial⟩
    have hview : view d (s.fail now dest destinations message (.updating found newEntries)) =
        { view d s with stage := .idle, stuck := True } := by
      simp only [Exporter.fail, view, exported, stageOf_self hid, Stage.view, hid,
        mem_append, mem_singleton, or_true]
    rw [hview]
    exact .lose hstage
  | failing message' =>
    refine ⟨.stay, ?_, trivial⟩
    have hview : view d (s.fail now dest destinations message (.failing message')) =
        view d s := by
      simp only [Exporter.fail, view, exported, stageOf_reading, Stage.view, htick,
        stageOf_self hid]
    rw [hview]
    exact .stay _

theorem Known.fresh (h : Known d s) (event : AuditEventInput) :
    Feeds.Fresh (view d s) (event.entry s.inserted d.workspaceSlug now).toEvent := by
  refine ⟨fun hmem => ?_, fun batch hbatch hmem => ?_, fun found newEntries hstage hmem => ?_⟩
  · obtain ⟨e, he, heq⟩ := mem_map.mp hmem
    have hid : e.id = s.inserted := congrArg AuditEventLike.id heq
    exact Nat.ne_of_lt (h.entries e (mem_filter.mp he).1).1 hid
  · exact Nat.lt_irrefl _ (h.exports batch hbatch _ hmem)
  · obtain ⟨entries, newEntries', hstage', rfl⟩ := stage_of_view hstage
    obtain ⟨e, he, heq⟩ := mem_map.mp hmem
    have hid : e.id = s.inserted := congrArg AuditEventLike.id heq
    exact Nat.ne_of_lt ((h.stage entries newEntries' hstage').1 e he).1 hid

theorem Known.latest (h : Known d s) (event : AuditEventInput) (hle : s.clock ≤ now) :
    Feeds.Latest AuditEventLike.timestamp (view d s)
      (event.entry s.inserted d.workspaceSlug now).toEvent := by
  refine ⟨fun v hv => ?_, fun found newEntries hstage v hv => ?_⟩
  · obtain ⟨e, he, rfl⟩ := mem_map.mp hv
    exact Nat.le_trans (h.entries e (mem_filter.mp he).1).2 hle
  · obtain ⟨entries, newEntries', hstage', rfl⟩ := stage_of_view hstage
    obtain ⟨e, he, rfl⟩ := mem_map.mp hv
    exact Nat.le_trans ((h.stage entries newEntries' hstage').1 e he).2.1 hle

/-- Every step of the exporter is a step of the feed, or leaves it alone. -/
theorem view_step (hknown : Known d s) (hstep : s.step e now = some s') :
    ∃ l, Feeds.Step AuditEventLike.timestamp l (view d s) (view d s') ∧
      (Untied d s e now ↔ Feeds.Untied AuditEventLike.timestamp (view d s) l) := by
  obtain ⟨hle, hcases⟩ := Exporter.step_cases hstep
  rcases hcases with ⟨workspaceSlug, event, rfl, rfl⟩ | ⟨cutoff, rfl, rfl⟩ | ⟨rfl, htick, rfl⟩ |
    ⟨dest, destinations, stage, rfl, htick, rfl⟩ |
    ⟨message, dest, destinations, stage, rfl, htick, rfl⟩ | ⟨stage, rfl, htick, rfl⟩
  · by_cases hslug : workspaceSlug = d.workspaceSlug
    · subst hslug
      refine ⟨.add (event.entry s.inserted d.workspaceSlug now).toEvent, ?_, ?_⟩
      · have hview : view d { s with
              clock := now
              entries := s.entries ++ [event.entry s.inserted d.workspaceSlug now]
              inserted := s.inserted + 1 } =
            { view d s with
              log := (view d s).log ++ [(event.entry s.inserted d.workspaceSlug now).toEvent] } := by
          simp only [view, exported, filter_append, map_append]
          rw [filter_cons_of_pos (by simp [AuditEventInput.entry]), filter_nil,
            map_singleton]
        rw [hview]
        exact .add (hknown.fresh event) (hknown.latest event hle)
      · simp only [Untied, Feeds.Untied, forall_const]
        rfl
    · refine ⟨.stay, ?_, by simp only [Untied, Feeds.Untied, hslug, false_implies]⟩
      have hview : view d { s with
            clock := now
            entries := s.entries ++ [event.entry s.inserted workspaceSlug now]
            inserted := s.inserted + 1 } = view d s := by
        simp only [view, exported, filter_append]
        rw [filter_cons_of_neg (by simp [AuditEventInput.entry, hslug]),
          filter_nil, append_nil]
      rw [hview]
      exact .stay _
  · refine ⟨.remove, ?_, by simp only [Untied, Feeds.Untied]⟩
    refine .remove (map_subset _ fun e he => ?_)
    obtain ⟨hmem, hslug⟩ := mem_filter.mp he
    exact mem_filter.mpr ⟨(mem_filter.mp hmem).1, hslug⟩
  · refine ⟨.stay, ?_, by simp only [Untied, Feeds.Untied]⟩
    have hview : view d { s with
        clock := now, tick := some ⟨tickOrder s.rows, .reading⟩ } = view d s := by
      simp only [view, exported, stageOf_reading, htick]
      rfl
    rw [hview]
    exact .stay _
  · by_cases hid : dest.id = d.id
    · exact view_proceed hknown hid htick
    · refine ⟨.stay, ?_, ?_⟩
      · rw [view_proceed_other hid htick]
        exact .stay _
      · cases stage <;> simp only [Untied, htick, Feeds.Untied, hid, false_implies]
  · have huntied : Untied d s (.fail message) now ↔ True := by simp only [Untied]
    by_cases hid : dest.id = d.id
    · obtain ⟨l, hl, hl'⟩ := view_fail now hid message htick
      exact ⟨l, hl, huntied.trans (iff_of_true trivial hl')⟩
    · refine ⟨.stay, ?_, huntied⟩
      rw [view_fail_other hid message htick]
      exact .stay _
  · refine ⟨.stay, ?_, by simp only [Untied, Feeds.Untied]⟩
    have hview : view d { s with clock := now, tick := none } = view d s := by
      simp only [view, exported, htick]
      rfl
    rw [hview]
    exact .stay _

variable {rows : List LogExportDestination}

theorem Listed.map (h : Listed d rows)
    {f : LogExportDestination → LogExportDestination} (hid : ∀ r, (f r).id = r.id)
    (hslug : ∀ r, (f r).workspaceSlug = r.workspaceSlug) : Listed d (rows.map f) := by
  have hids : (rows.map f).map LogExportDestination.id = rows.map LogExportDestination.id := by
    rw [map_map]
    exact map_congr_left fun r _ => hid r
  refine ⟨hids ▸ h.ids, hids ▸ h.row, fun r hr hrid => ?_⟩
  obtain ⟨r', hr', rfl⟩ := mem_map.mp hr
  rw [hslug]
  exact h.slug r' hr' ((hid r').symm.trans hrid)

theorem Listed.moveCursor (h : Listed d rows) (id : ℕ)
    (c : Option ℕ) : Listed d (moveCursor id c rows) :=
  h.map (fun r => by split <;> rfl) fun r => by split <;> rfl

theorem Listed.writeError (h : Listed d rows) (id : ℕ)
    (message : String) : Listed d (writeError id message rows) :=
  h.map (fun r => by split <;> rfl) fun r => by split <;> rfl

/-- The tick knows the cursor of a destination still to come, also after it has moved that of
another one. -/
theorem Known.tail (h : Known d s) (htick : s.tick = some ⟨dest :: destinations, stage⟩)
    (hcursor : dest.id ≠ d.id → cursor d.id rows = cursor d.id s.rows) :
    (destinations.map LogExportDestination.id).Nodup ∧ ∀ r ∈ destinations, r.id = d.id →
      r.workspaceSlug = d.workspaceSlug ∧ r.lastExportedAt = cursor d.id rows := by
  obtain ⟨hnodup, hrows⟩ := h.tick _ htick
  obtain ⟨hnot, hnodup'⟩ := nodup_cons.mp hnodup
  refine ⟨hnodup', fun r hr hid => ?_⟩
  have hne : dest.id ≠ d.id := fun heq =>
    hnot (heq.trans hid.symm ▸ mem_map_of_mem hr)
  rw [hcursor hne]
  exact hrows r (mem_cons_of_mem dest hr) hid

theorem known_proceed (h : Known d s) (hle : s.clock ≤ now)
    (htick : s.tick = some ⟨dest :: destinations, stage⟩) :
    Known d (s.proceed now dest destinations stage) := by
  have hentries : ∀ e ∈ s.entries, e.id < s.inserted ∧ e.createdAt ≤ now := fun e he =>
    ⟨(h.entries e he).1, Nat.le_trans (h.entries e he).2 hle⟩
  have hnone : ∀ {destinations : List LogExportDestination} {found newEntries},
      stageOf d (some ⟨destinations, .reading⟩) = .exporting found newEntries ∨
      stageOf d (some ⟨destinations, .reading⟩) = .updating found newEntries → False := by
    intro destinations found newEntries hstage
    rw [stageOf_reading] at hstage
    rcases hstage with hstage | hstage <;> cases hstage
  have hstage : dest.id = d.id → ∀ found newEntries, stage = .exporting found newEntries ∨
      stage = .updating found newEntries → (∀ e ∈ found, e.id < s.inserted ∧
        e.createdAt ≤ now ∧ e.workspaceSlug = d.workspaceSlug) ∧ newEntries ⊆ found := by
    intro hid found newEntries hstage
    obtain ⟨hfound, hsub⟩ := h.stage found newEntries (by rw [htick, stageOf_self hid]; exact hstage)
    exact ⟨fun e he => ⟨(hfound e he).1, Nat.le_trans (hfound e he).2.1 hle, (hfound e he).2.2⟩,
      hsub⟩
  cases stage with
  | reading =>
    unfold Exporter.proceed
    dsimp only
    split
    · refine ⟨h.rows, hentries, h.exports, fun _ _ hs => (hnone hs).elim, ?_⟩
      rintro t ⟨⟩
      exact h.tail htick fun _ => rfl
    · refine ⟨h.rows, hentries, h.exports, fun found newEntries hs => ?_, ?_⟩
      · by_cases hid : dest.id = d.id
        · dsimp only at hs
          rw [stageOf_self hid] at hs
          rcases hs with hs | hs
          · cases hs
            obtain ⟨hslug, -⟩ := (h.tick _ htick).2 dest mem_cons_self hid
            refine ⟨fun e he => ?_, fun e he => ?_⟩
            · obtain ⟨hmem, hws⟩ := mem_filter.mp he
              exact ⟨(hentries e hmem).1, (hentries e hmem).2,
                (of_decide_eq_true hws).trans hslug⟩
            · obtain ⟨hmem, hws, -⟩ := readEntries_mem.mp he
              exact mem_filter.mpr ⟨hmem, by simpa using hws⟩
          · cases hs
        · dsimp only at hs
          rw [stageOf_other hid] at hs
          rcases hs with hs | hs <;> cases hs
      · rintro t ⟨⟩
        exact h.tick ⟨dest :: destinations, .reading⟩ htick
  | exporting found newEntries =>
    refine ⟨h.rows, hentries, fun batch hbatch v hv => ?_, fun found' newEntries' hs => ?_, ?_⟩
    · simp only [Exporter.proceed, exported] at hbatch ⊢
      by_cases hid : dest.id = d.id
      · rw [hid, filter_snoc_self, map_append] at hbatch
        rcases mem_append.mp hbatch with hbatch | hbatch
        · exact h.exports batch hbatch v hv
        · rw [map_singleton, mem_singleton] at hbatch
          subst hbatch
          obtain ⟨e, he, rfl⟩ := mem_map.mp hv
          obtain ⟨hfound, hsub⟩ := hstage hid found newEntries (Or.inl rfl)
          exact (hfound e (hsub he)).1
      · rw [filter_snoc_other hid] at hbatch
        exact h.exports batch hbatch v hv
    · by_cases hid : dest.id = d.id
      · simp only [Exporter.proceed, stageOf_self hid] at hs
        rcases hs with hs | hs
        · cases hs
        · cases hs
          exact hstage hid found newEntries (Or.inl rfl)
      · simp only [Exporter.proceed, stageOf_other hid] at hs
        rcases hs with hs | hs <;> cases hs
    · rintro t ⟨⟩
      exact h.tick ⟨dest :: destinations, .exporting found newEntries⟩ htick
  | updating found newEntries =>
    refine ⟨h.rows.moveCursor _ _, hentries, h.exports, fun _ _ hs => (hnone hs).elim, ?_⟩
    rintro t ⟨⟩
    exact h.tail htick fun hne => cursor_moveCursor_other (Ne.symm hne) _ _
  | failing message =>
    refine ⟨h.rows.writeError _ _, hentries, h.exports, fun _ _ hs => (hnone hs).elim, ?_⟩
    rintro t ⟨⟩
    exact h.tail htick fun _ => cursor_writeError _ _ _ _

theorem known_fail (h : Known d s) (hle : s.clock ≤ now) (message : String)
    (htick : s.tick = some ⟨dest :: destinations, stage⟩) :
    Known d (s.fail now dest destinations message stage) := by
  have hentries : ∀ e ∈ s.entries, e.id < s.inserted ∧ e.createdAt ≤ now := fun e he =>
    ⟨(h.entries e he).1, Nat.le_trans (h.entries e he).2 hle⟩
  have hfailing : ∀ {found newEntries},
      stageOf d (some ⟨dest :: destinations, .failing message⟩) = .exporting found newEntries ∨
      stageOf d (some ⟨dest :: destinations, .failing message⟩) = .updating found newEntries →
      False := by
    intro found newEntries hs
    by_cases hid : dest.id = d.id
    · rw [stageOf_self hid] at hs
      rcases hs with hs | hs <;> cases hs
    · rw [stageOf_other hid] at hs
      rcases hs with hs | hs <;> cases hs
  cases stage with
  | failing message' =>
    refine ⟨h.rows, hentries, h.exports, fun _ _ hs => ?_, ?_⟩
    · dsimp only [Exporter.fail] at hs
      rw [stageOf_reading] at hs
      rcases hs with hs | hs <;> cases hs
    · rintro t ⟨⟩
      exact h.tail htick fun _ => rfl
  | reading =>
    refine ⟨h.rows, hentries, h.exports, fun _ _ hs => (hfailing hs).elim, ?_⟩
    rintro t ⟨⟩
    exact h.tick ⟨dest :: destinations, .reading⟩ htick
  | exporting found newEntries =>
    refine ⟨h.rows, hentries, h.exports, fun _ _ hs => (hfailing hs).elim, ?_⟩
    rintro t ⟨⟩
    exact h.tick ⟨dest :: destinations, .exporting found newEntries⟩ htick
  | updating found newEntries =>
    refine ⟨h.rows, hentries, h.exports, fun _ _ hs => (hfailing hs).elim, ?_⟩
    rintro t ⟨⟩
    exact h.tick ⟨dest :: destinations, .updating found newEntries⟩ htick

theorem known_step (h : Known d s) (hstep : s.step e now = some s') : Known d s' := by
  obtain ⟨hle, hcases⟩ := Exporter.step_cases hstep
  have hstage : ∀ n, s.inserted ≤ n → ∀ found newEntries,
      stageOf d s.tick = .exporting found newEntries ∨
      stageOf d s.tick = .updating found newEntries → (∀ e ∈ found, e.id < n ∧
        e.createdAt ≤ now ∧ e.workspaceSlug = d.workspaceSlug) ∧ newEntries ⊆ found := by
    intro n hn found newEntries hs
    obtain ⟨hfound, hsub⟩ := h.stage found newEntries hs
    exact ⟨fun e he => ⟨Nat.lt_of_lt_of_le (hfound e he).1 hn,
      Nat.le_trans (hfound e he).2.1 hle, (hfound e he).2.2⟩, hsub⟩
  have hentries : ∀ e ∈ s.entries, e.id < s.inserted ∧ e.createdAt ≤ now := fun e he =>
    ⟨(h.entries e he).1, Nat.le_trans (h.entries e he).2 hle⟩
  rcases hcases with ⟨workspaceSlug, event, -, rfl⟩ | ⟨cutoff, -, rfl⟩ | ⟨-, htick, rfl⟩ |
    ⟨dest, destinations, stage, -, htick, rfl⟩ |
    ⟨message, dest, destinations, stage, -, htick, rfl⟩ | ⟨stage, -, htick, rfl⟩
  · refine ⟨h.rows, fun e he => ?_, fun batch hbatch v hv => ?_,
      hstage _ (Nat.le_succ s.inserted), h.tick⟩
    · rcases mem_append.mp he with he | he
      · exact ⟨Nat.lt_succ_of_lt (hentries e he).1, (hentries e he).2⟩
      · rw [mem_singleton.mp he]
        exact ⟨Nat.lt_succ_self _, Nat.le_refl _⟩
    · exact Nat.lt_succ_of_lt (h.exports batch hbatch v hv)
  · exact ⟨h.rows, fun e he => hentries e (mem_filter.mp he).1, h.exports,
      hstage _ (Nat.le_refl _), h.tick⟩
  · refine ⟨h.rows, hentries, h.exports, fun found newEntries hs => ?_, ?_⟩
    · dsimp only at hs
      rw [stageOf_reading] at hs
      rcases hs with hs | hs <;> cases hs
    · rintro t ⟨⟩
      refine ⟨tickOrder_nodup h.rows.ids, fun r hr hid => ?_⟩
      have hmem := (mem_tickOrder.mp hr).1
      refine ⟨h.rows.slug r hmem hid, ?_⟩
      rw [← hid, cursor_of_mem h.rows.ids hmem]
  · exact known_proceed h hle htick
  · exact known_fail h hle message htick
  · refine ⟨h.rows, hentries, h.exports, fun found newEntries hs => ?_, ?_⟩
    · rcases hs with hs | hs <;> cases hs
    · rintro t ⟨⟩

theorem exported_created (h : Created d s) : exported d s = [] := by
  unfold exported
  rw [filter_eq_nil_iff.mpr fun x hx => by simpa using h.exports x hx, map_nil]

theorem known_created (h : Created d s) : Known d s := by
  refine ⟨⟨h.ids, mem_map_of_mem h.row, fun r hr hid => ?_⟩, h.entries, ?_, ?_, ?_⟩
  · rw [inj_on_of_nodup_map h.ids hr h.row hid]
  · rw [exported_created h]
    exact forall_mem_nil _
  · intro found newEntries hs
    rw [h.idle] at hs
    rcases hs with hs | hs <;> cases hs
  · intro t ht
    cases h.idle.symm.trans ht

theorem view_created (h : Created d s) : (view d s).stage = .idle ∧ (view d s).cursor = none ∧
    (view d s).shipments = [] ∧ (view d s).settled = [] := by
  unfold view
  refine ⟨?_, ?_, exported_created h, ?_⟩
  · rw [h.idle]
    rfl
  · exact (cursor_of_mem h.ids h.row).trans h.cursor
  · dsimp only
    rw [filter_eq_nil_iff.mpr fun x hx => by simpa using h.succeeded x hx, map_nil]

theorem faithful_of_good (hinv : Feeds.Inv AuditEventLike.timestamp (view d s))
    (hgood : Feeds.Good AuditEventLike.timestamp (view d s)) : Faithful d s := by
  refine ⟨fun e he hslug => ?_, fun found hfound e he => ?_⟩
  · have hlog : e.toEvent ∈ (view d s).log :=
      mem_map_of_mem (mem_filter.mpr ⟨he, by simpa using hslug⟩)
    exact (hgood.kept e.toEvent hlog).imp_right behind_iff.mpr
  · have hsettled : found.map AuditLogEntry.toEvent ∈ (view d s).settled :=
      mem_map_of_mem (f := fun x : ℕ × List AuditLogEntry => x.2.map AuditLogEntry.toEvent)
        (mem_filter.mpr ⟨hfound, by simp⟩)
    have hpos := hgood.settled _ hsettled e.toEvent (mem_map_of_mem he)
    exact ⟨hpos, fun hstuck => Nat.le_antisymm (hinv.once hstuck e.toEvent) hpos⟩

theorem kept_of_faithful (h : Faithful d s) : Feeds.Kept AuditEventLike.timestamp (view d s) := by
  intro v hv
  obtain ⟨e, he, rfl⟩ := mem_map.mp hv
  obtain ⟨hmem, hslug⟩ := mem_filter.mp he
  exact (h.kept e hmem (of_decide_eq_true hslug)).imp_right behind_iff.mp

end View

/-- In all states of a run the destination gets what it is owed, exactly if every step is
untied. -/
theorem faithful_iff_untied {d : LogExportDestination} {s : Exporter} (hcreated : Created d s)
    (es : List (Event × ℕ)) : AllStates (Faithful d) s es ↔ AllSteps (Untied d) s es := by
  have hrun : ∀ es s, Known d s → Feeds.Inv AuditEventLike.timestamp (view d s) →
      Feeds.Good AuditEventLike.timestamp (view d s) →
      (AllStates (Faithful d) s es ↔ AllSteps (Untied d) s es) := by
    intro es
    induction es with
    | nil =>
      intro s _ hinv hgood
      exact iff_of_true (faithful_of_good hinv hgood) trivial
    | cons e es ih =>
      intro s hknown hinv hgood
      have hhere := faithful_of_good hinv hgood
      have hnext : ∀ s', s.step e.1 e.2 = some s' → Untied d s e.1 e.2 →
          (AllStates (Faithful d) s' es ↔ AllSteps (Untied d) s' es) := fun s' hstep huntied => by
        obtain ⟨l, hl, hiff⟩ := view_step hknown hstep
        exact ih s' (known_step hknown hstep) (hinv.step hl)
          (hgood.step hinv (hiff.mp huntied) hl)
      constructor
      · intro h s' hstep
        obtain ⟨l, hl, hiff⟩ := view_step hknown hstep
        have hstates := h.2 s' hstep
        have huntied : Untied d s e.1 e.2 :=
          hiff.mpr (Feeds.untied_of_kept hinv hl (kept_of_faithful hstates.here))
        exact ⟨huntied, (hnext s' hstep huntied).mp hstates⟩
      · intro h
        exact ⟨hhere, fun s' hstep => (hnext s' hstep (h s' hstep).1).mpr (h s' hstep).2⟩
  obtain ⟨hidle, hcursor, hshipments, hsettled⟩ := view_created hcreated
  exact hrun es s (known_created hcreated) (.start hidle hshipments)
    (.start hidle hcursor hsettled)

/-- An S3 destination. -/
def s3 : LogExportDestination :=
  ⟨0, "acme", "s3", true, none, none⟩

/-- It has been created, and nothing else has happened. -/
def onlyS3 : Exporter :=
  ⟨[], 0, [s3], none, 0, [], [], []⟩

theorem created_s3 : Created s3 onlyS3 := by
  refine ⟨mem_singleton_self s3, by decide, rfl, rfl, ?_, ?_, ?_⟩ <;> exact
    forall_mem_nil _

/-- What is recorded when someone signs in. -/
def signIn : AuditEventInput where
  category := "auth"
  action := "login"
  actor := some "ana@acme.com"
  message := "Ana signed in"

theorem faithful_iff_untied_s3 :
    AllStates (Faithful s3) onlyS3 [(.record "acme" signIn, 20), (.start, 30), (.proceed, 30)] := by
  refine (faithful_iff_untied created_s3 _).mpr fun s₁ h₁ => ?_
  cases h₁
  refine ⟨fun _ c hc => (by cases hc), fun s₂ h₂ => ?_⟩
  cases h₂
  refine ⟨trivial, fun s₃ h₃ => ?_⟩
  cases h₃
  exact ⟨trivial, trivial⟩

/-- A second entry is recorded in the millisecond of the first, after the first has been read
and before it is shipped; a day later nothing is behind the cursor. -/
def twoSignIns : List (Event × ℕ) :=
  [(.record "acme" signIn, 20), (.start, 20), (.proceed, 20), (.record "acme" signIn, 20),
   (.proceed, 20), (.proceed, 20), (.finish, 20), (.start, 86400020), (.proceed, 86400020)]

/-- What they leave: the second entry is not shipped, and the cursor is at its time. -/
def skipped : Exporter where
  entries := [signIn.entry 0 "acme" 20, signIn.entry 1 "acme" 20]
  inserted := 2
  rows := [{ s3 with lastExportedAt := some 20 }]
  tick := some ⟨[], .reading⟩
  clock := 86400020
  exports := [(0, [(signIn.entry 0 "acme" 20).toEvent])]
  succeeded := [(0, [signIn.entry 0 "acme" 20]),
    (0, [signIn.entry 0 "acme" 20, signIn.entry 1 "acme" 20])]
  stuck := []

theorem entry_skipped :
    Created s3 onlyS3 ∧ onlyS3.run twoSignIns = some skipped ∧ ¬ Faithful s3 skipped ∧
    ¬ AllStates (Faithful s3) onlyS3 twoSignIns := by
  have hrun : onlyS3.run twoSignIns = some skipped := by decide +kernel
  have hnot : ¬ Faithful s3 skipped := fun h =>
    absurd (h.kept (signIn.entry 1 "acme" 20) (by decide) rfl) (by decide)
  exact ⟨created_s3, hrun, hnot, fun h => hnot (h.last hrun)⟩

end AppliverySoar.LogExport
