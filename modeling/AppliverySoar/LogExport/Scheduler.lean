import Mathlib.Data.List.Dedup

/-!
# The batch export of the audit log

Model of `recordAuditEvent` (services/auditLog.ts, lines 26–58), of
`runLogExportSchedulerTick` (logExportDestinations.service.ts, lines 291–330) and of
`rotateAuditLogsForAllWorkspaces` (auditLogs.service.ts). A tick goes through the enabled
batch destinations one after the other; for each it reads the entries behind the cursor
`lastExportedAt`, ships them, and moves the cursor. Entries are inserted and removed between
any two of its steps.

Results:
* `Exporter.step_cases`: what a step does.
* `mem_tickOrder`, `tickOrder_nodup`: a tick goes through the enabled batch destinations, once.
* `readEntries_mem`, `readEntries_sorted`: the entries of a batch, and their order.
* `cursor_moveCursor`, `cursor_writeError`: what the writes do to the cursors.
-/

namespace AppliverySoar.LogExport

open List

/-! ## Rows -/

structure AuditEventInput where
  category : String
  action : String
  actor : Option String := none
  targetType : Option String := none
  targetId : Option String := none
  targetName : Option String := none
  message : String
  severity : Option String := none

/-- An `AuditLogEntry` row; `uuid()` is the number of entries inserted before. -/
structure AuditLogEntry where
  id : ℕ
  workspaceSlug : String
  category : String
  action : String
  actor : String
  targetType : Option String
  targetId : Option String
  targetName : Option String
  message : String
  severity : String
  createdAt : ℕ
  deriving DecidableEq

/-- `AuditEventLike`, with the time of `toISOString()`. -/
structure AuditEventLike where
  id : ℕ
  timestamp : ℕ
  category : String
  action : String
  severity : String
  actor : String
  targetType : Option String
  targetId : Option String
  targetName : Option String
  message : String
  deriving DecidableEq

/-- The event that is shipped for an entry. -/
def AuditLogEntry.toEvent (e : AuditLogEntry) : AuditEventLike where
  id := e.id
  timestamp := e.createdAt
  category := e.category
  action := e.action
  severity := e.severity
  actor := e.actor
  targetType := e.targetType
  targetId := e.targetId
  targetName := e.targetName
  message := e.message

/-- A `LogExportDestination` row. -/
structure LogExportDestination where
  id : ℕ
  workspaceSlug : String
  type : String
  enabled : Bool
  lastExportedAt : Option ℕ
  lastExportError : Option String
  deriving DecidableEq

/-- `LOG_EXPORT_BATCH_TYPES`. -/
def logExportBatchTypes : List String :=
  ["s3", "nfs", "sftp"]

/-- The row that `recordAuditEvent` creates. -/
def AuditEventInput.entry (event : AuditEventInput) (id : ℕ) (workspaceSlug : String)
    (createdAt : ℕ) : AuditLogEntry where
  id := id
  workspaceSlug := workspaceSlug
  category := event.category
  action := event.action
  actor := event.actor.getD "unknown"
  targetType := event.targetType
  targetId := event.targetId
  targetName := event.targetName
  message := event.message
  severity := event.severity.getD "info"
  createdAt := createdAt

/-! ## What a tick reads and writes -/

/-- The destinations of a tick, workspace by workspace, in the order of `byWorkspace`. -/
def tickOrder (rows : List LogExportDestination) : List LogExportDestination :=
  let destinations := rows.filter fun d => d.enabled && d.type ∈ logExportBatchTypes
  let slugs := (destinations.map LogExportDestination.workspaceSlug).reverse.dedup.reverse
  slugs.flatMap fun workspaceSlug =>
    destinations.filter fun d => d.workspaceSlug = workspaceSlug

/-- `createdAt: { gt: dest.lastExportedAt }`, if there is a cursor. -/
def behind (cursor : Option ℕ) (e : AuditLogEntry) : Bool :=
  match cursor with
  | none => true
  | some c => c < e.createdAt

/-- `newEntries`. -/
def readEntries (entries : List AuditLogEntry) (dest : LogExportDestination) :
    List AuditLogEntry :=
  (entries.filter fun e => e.workspaceSlug = dest.workspaceSlug && behind dest.lastExportedAt e)
    |>.mergeSort fun a b => a.createdAt ≤ b.createdAt

/-- `prisma.logExportDestination.update` after an export. -/
def moveCursor (id : ℕ) (lastExportedAt : Option ℕ) (rows : List LogExportDestination) :
    List LogExportDestination :=
  rows.map fun d => if d.id = id then
    { d with lastExportedAt := lastExportedAt, lastExportError := none } else d

/-- `prisma.logExportDestination.update` after a failure. -/
def writeError (id : ℕ) (message : String) (rows : List LogExportDestination) :
    List LogExportDestination :=
  rows.map fun d => if d.id = id then { d with lastExportError := some message } else d

/-- The cursor of a destination. -/
def cursor (id : ℕ) (rows : List LogExportDestination) : Option ℕ :=
  (rows.find? fun d => d.id = id).bind LogExportDestination.lastExportedAt

/-! ## Runs -/

/-- How far the tick is with a destination: `found` is what its workspace had in the log when
the tick read it. -/
inductive Stage
  | reading
  | exporting (found newEntries : List AuditLogEntry)
  | updating (found newEntries : List AuditLogEntry)
  | failing (message : String)
  deriving DecidableEq

/-- A tick under way: the destinations still to come, and the stage of the first. -/
structure Tick where
  destinations : List LogExportDestination
  stage : Stage
  deriving DecidableEq

/-- The tables, the tick under way, the time, and what has happened: the successful exports,
what each tick that succeeded for a destination had found, and the destinations whose
cursor could not be moved. -/
structure Exporter where
  entries : List AuditLogEntry
  inserted : ℕ
  rows : List LogExportDestination
  tick : Option Tick
  clock : ℕ
  exports : List (ℕ × List AuditEventLike)
  succeeded : List (ℕ × List AuditLogEntry)
  stuck : List ℕ
  deriving DecidableEq

/-- `recordAuditEvent`, a rotation of the log, or a step of the tick: what it awaits succeeds
or fails. -/
inductive Event
  | record (workspaceSlug : String) (event : AuditEventInput)
  | rotate (cutoff : ℕ)
  | start
  | proceed
  | fail (message : String)
  | finish

/-- The tick gets what it awaits. -/
def Exporter.proceed (s : Exporter) (now : ℕ) (dest : LogExportDestination)
    (destinations : List LogExportDestination) : Stage → Exporter
  | .reading =>
    let newEntries := readEntries s.entries dest
    let found := s.entries.filter fun e => e.workspaceSlug = dest.workspaceSlug
    if newEntries = [] then
      { s with
        clock := now
        tick := some ⟨destinations, .reading⟩
        succeeded := s.succeeded ++ [(dest.id, found)] }
    else { s with clock := now, tick := some ⟨dest :: destinations, .exporting found newEntries⟩ }
  | .exporting found newEntries =>
    { s with
      clock := now
      tick := some ⟨dest :: destinations, .updating found newEntries⟩
      exports := s.exports ++ [(dest.id, newEntries.map AuditLogEntry.toEvent)] }
  | .updating found newEntries =>
    { s with
      clock := now
      tick := some ⟨destinations, .reading⟩
      rows := moveCursor dest.id (newEntries.getLast?.map AuditLogEntry.createdAt) s.rows
      succeeded := s.succeeded ++ [(dest.id, found)] }
  | .failing message =>
    { s with
      clock := now
      tick := some ⟨destinations, .reading⟩
      rows := writeError dest.id message s.rows }

/-- What the tick awaits throws. -/
def Exporter.fail (s : Exporter) (now : ℕ) (dest : LogExportDestination)
    (destinations : List LogExportDestination) (message : String) : Stage → Exporter
  | .reading | .exporting _ _ =>
    { s with clock := now, tick := some ⟨dest :: destinations, .failing message⟩ }
  | .updating _ _ =>
    { s with
      clock := now
      tick := some ⟨dest :: destinations, .failing message⟩
      stuck := s.stuck ++ [dest.id] }
  | .failing _ => { s with clock := now, tick := some ⟨destinations, .reading⟩ }

/-- An event at a time, if it can happen. Ticks do not overlap. -/
def Exporter.step (s : Exporter) (e : Event) (now : ℕ) : Option Exporter :=
  if now < s.clock then none else
  match e, s.tick with
  | .record workspaceSlug event, _ =>
    some { s with
      clock := now
      entries := s.entries ++ [event.entry s.inserted workspaceSlug now]
      inserted := s.inserted + 1 }
  | .rotate cutoff, _ =>
    some { s with clock := now, entries := s.entries.filter fun e => cutoff ≤ e.createdAt }
  | .start, none => some { s with clock := now, tick := some ⟨tickOrder s.rows, .reading⟩ }
  | .proceed, some ⟨dest :: destinations, stage⟩ => some (s.proceed now dest destinations stage)
  | .fail message, some ⟨dest :: destinations, stage⟩ =>
    some (s.fail now dest destinations message stage)
  | .finish, some ⟨[], _⟩ => some { s with clock := now, tick := none }
  | _, _ => none

/-- The state after some events. -/
def Exporter.run (s : Exporter) : List (Event × ℕ) → Option Exporter
  | [] => some s
  | (e, now) :: es => (s.step e now).bind fun s' => s'.run es

theorem Exporter.step_cases {s s' : Exporter} {e : Event} {now : ℕ}
    (h : s.step e now = some s') :
    s.clock ≤ now ∧
    ((∃ workspaceSlug event, e = .record workspaceSlug event ∧
        s' = { s with
          clock := now
          entries := s.entries ++ [event.entry s.inserted workspaceSlug now]
          inserted := s.inserted + 1 }) ∨
      (∃ cutoff, e = .rotate cutoff ∧
        s' = { s with clock := now, entries := s.entries.filter fun e => cutoff ≤ e.createdAt }) ∨
      (e = .start ∧ s.tick = none ∧
        s' = { s with clock := now, tick := some ⟨tickOrder s.rows, .reading⟩ }) ∨
      (∃ dest destinations stage, e = .proceed ∧ s.tick = some ⟨dest :: destinations, stage⟩ ∧
        s' = s.proceed now dest destinations stage) ∨
      (∃ message dest destinations stage, e = .fail message ∧
        s.tick = some ⟨dest :: destinations, stage⟩ ∧
        s' = s.fail now dest destinations message stage) ∨
      (∃ stage, e = .finish ∧ s.tick = some ⟨[], stage⟩ ∧
        s' = { s with clock := now, tick := none })) := by
  unfold Exporter.step at h
  by_cases hlt : now < s.clock
  · rw [if_pos hlt] at h
    cases h
  rw [if_neg hlt] at h
  refine ⟨Nat.le_of_not_lt hlt, ?_⟩
  split at h
  · exact Or.inl ⟨_, _, rfl, (Option.some.inj h).symm⟩
  · exact Or.inr (Or.inl ⟨_, rfl, (Option.some.inj h).symm⟩)
  · next htick => exact Or.inr (Or.inr (Or.inl ⟨rfl, htick, (Option.some.inj h).symm⟩))
  · next htick =>
    exact Or.inr (Or.inr (Or.inr (Or.inl ⟨_, _, _, rfl, htick, (Option.some.inj h).symm⟩)))
  · next htick =>
    exact Or.inr (Or.inr (Or.inr (Or.inr (Or.inl
      ⟨_, _, _, _, rfl, htick, (Option.some.inj h).symm⟩))))
  · next htick =>
    exact Or.inr (Or.inr (Or.inr (Or.inr (Or.inr ⟨_, rfl, htick, (Option.some.inj h).symm⟩))))
  · cases h

/-! ## Reads and writes -/

variable {rows : List LogExportDestination} {d : LogExportDestination}

theorem mem_tickOrder :
    d ∈ tickOrder rows ↔ d ∈ rows ∧ d.enabled = true ∧ d.type ∈ logExportBatchTypes := by
  unfold tickOrder
  simp only [mem_flatMap, mem_reverse, mem_dedup, mem_map, mem_filter,
    Bool.and_eq_true, decide_eq_true_eq]
  constructor
  · rintro ⟨-, -, hd, -⟩
    exact hd
  · intro hd
    exact ⟨d.workspaceSlug, ⟨d, hd, rfl⟩, hd, rfl⟩

theorem tickOrder_nodup (h : (rows.map LogExportDestination.id).Nodup) :
    ((tickOrder rows).map LogExportDestination.id).Nodup := by
  refine Nodup.map_on (fun a ha b hb hab => ?_) ?_
  · exact inj_on_of_nodup_map h (mem_tickOrder.mp ha).1 (mem_tickOrder.mp hb).1 hab
  · unfold tickOrder
    refine nodup_flatMap.mpr ⟨fun slug _ => (h.of_map.filter _).filter _, ?_⟩
    refine (nodup_reverse.mpr (List.nodup_dedup _)).imp fun hne => ?_
    intro d hd hd'
    simp only [mem_filter, decide_eq_true_eq] at hd hd'
    exact hne (hd.2.symm.trans hd'.2)

theorem readEntries_mem {entries : List AuditLogEntry} {dest : LogExportDestination}
    {e : AuditLogEntry} : e ∈ readEntries entries dest ↔
      e ∈ entries ∧ e.workspaceSlug = dest.workspaceSlug ∧ behind dest.lastExportedAt e = true := by
  unfold readEntries
  rw [mem_mergeSort, mem_filter, Bool.and_eq_true, decide_eq_true_eq]

theorem readEntries_sorted (entries : List AuditLogEntry) (dest : LogExportDestination) :
    (readEntries entries dest).Pairwise fun a b => a.createdAt ≤ b.createdAt := by
  refine (pairwise_mergeSort ?_ ?_ _).imp fun h => by simpa using h
  · intro a b c hab hbc
    simp only [decide_eq_true_eq] at hab hbc ⊢
    omega
  · intro a b
    simp only [Bool.or_eq_true, decide_eq_true_eq]
    omega

theorem cursor_of_mem (h : (rows.map LogExportDestination.id).Nodup) (hd : d ∈ rows) :
    cursor d.id rows = d.lastExportedAt := by
  unfold cursor
  cases hfind : rows.find? fun r => r.id = d.id with
  | none => exact absurd (find?_eq_none.mp hfind d hd) (by simp)
  | some r =>
    have hid : r.id = d.id := by simpa using find?_some hfind
    rw [inj_on_of_nodup_map h (mem_of_find?_eq_some hfind) hd hid]
    rfl

theorem cursor_moveCursor {id : ℕ} (c : Option ℕ)
    (hid : id ∈ rows.map LogExportDestination.id) : cursor id (moveCursor id c rows) = c := by
  induction rows with
  | nil => cases hid
  | cons d rows ih =>
    unfold cursor moveCursor at ih ⊢
    by_cases h : d.id = id
    · simp [h]
    · have hid' : id ∈ rows.map LogExportDestination.id := by
        rcases mem_cons.mp hid with heq | hmem
        · exact absurd heq.symm h
        · exact hmem
      rw [map_cons, if_neg h, find?_cons_of_neg (by simpa using h)]
      exact ih hid'

theorem cursor_map {id : ℕ} {f : LogExportDestination → LogExportDestination}
    (rows : List LogExportDestination) (hid : ∀ d, (f d).id = d.id)
    (hcursor : ∀ d, d.id = id → (f d).lastExportedAt = d.lastExportedAt) :
    cursor id (rows.map f) = cursor id rows := by
  unfold cursor
  induction rows with
  | nil => rfl
  | cons d rows ih =>
    by_cases h : d.id = id
    · simp [hid, h, hcursor d h]
    · rw [map_cons, find?_cons_of_neg (by simpa [hid] using h),
        find?_cons_of_neg (by simpa using h)]
      exact ih

theorem cursor_moveCursor_other {id id' : ℕ} (h : id ≠ id') (c : Option ℕ)
    (rows : List LogExportDestination) : cursor id (moveCursor id' c rows) = cursor id rows := by
  refine cursor_map rows (fun d => ?_) fun d hd => ?_
  · split <;> rfl
  · rw [if_neg (hd ▸ h)]

theorem cursor_writeError (id id' : ℕ) (message : String) (rows : List LogExportDestination) :
    cursor id (writeError id' message rows) = cursor id rows := by
  refine cursor_map rows (fun d => ?_) fun d _ => ?_ <;> split <;> rfl

end AppliverySoar.LogExport
