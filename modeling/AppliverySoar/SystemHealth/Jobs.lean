import Mathlib.Data.List.Nodup

/-!
# The health of the background jobs

Model of `systemHealth.registry.ts`, of `recordJobHeartbeat`
(services/systemHealth.ts, lines 11–43) and of `checkSystemHealthAndAlert`
(systemHealth.service.ts, lines 14–131). A tick reads all rows, then goes through the
registered jobs; a heartbeat may come between any two of its steps. Times are in
milliseconds, and every write succeeds.

Results:
* `Monitor.step_cases`: what a step does.
* `alertFor_action`, `alertFor_none`: what an alert, or its absence, says of the row.
* `wasAlerted_recordJobHeartbeat`, `wasAlerted_writeAlerted`: only the tick's writes touch
  the mark of an alert.
-/

namespace AppliverySoar.SystemHealth

open Option Function

/-! ## Rows -/

structure SystemHealthJobMeta where
  key : String
  label : String
  intervalSeconds : ℕ
  deriving DecidableEq

/-- `SYSTEM_HEALTH_JOBS`. -/
def systemHealthJobs : List SystemHealthJobMeta :=
  [⟨"compliance_scheduler", "Compliance Policy scheduler", 60⟩,
   ⟨"installed_apps_refresher", "Installed apps refresher", 30⟩,
   ⟨"workflow_wait_resumer", "Workflow wait-step resumer", 30⟩,
   ⟨"script_log_reconciler", "Script run reconciler", 90⟩,
   ⟨"ticket_status_sync", "Ticketing inbound sync", 900⟩,
   ⟨"case_sla_monitor", "Case SLA breach monitor", 300⟩,
   ⟨"catalog:os-update", "OS update catalog refresh (MSRC)", 86400⟩,
   ⟨"catalog:vuln", "Vulnerability catalog refresh (EUVD)", 86400⟩,
   ⟨"vuln_service_refresh", "Vulnerability Service refresh", 3600⟩,
   ⟨"misp_refresh", "MISP threat intel refresh", 3600⟩,
   ⟨"vulncheck_refresh", "VulnCheck threat intel refresh", 3600⟩,
   ⟨"binary_integrity_refresh", "Binary integrity (VirusTotal) refresh", 3600⟩,
   ⟨"osv_android_refresh", "Android Security Bulletin (OSV.dev) refresh", 3600⟩,
   ⟨"sofa_refresh", "Apple Security Releases (SOFA) refresh", 3600⟩,
   ⟨"catalog:os-lifecycle", "OS lifecycle refresh (endoflife.date)", 604800⟩,
   ⟨"catalog:gdmf", "Apple Software Lookup Service refresh (GDMF)", 86400⟩,
   ⟨"catalog:mitre", "MITRE ATT&CK catalog refresh", 86400⟩,
   ⟨"audit_log_rotation", "Audit log rotation", 86400⟩,
   ⟨"log_export_scheduler", "Log export scheduler", 86400⟩,
   ⟨"snapshot_scheduler", "Analytics snapshot capture", 86400⟩,
   ⟨"report_scheduler", "Scheduled report delivery", 60⟩,
   ⟨"system_health_monitor", "System health alert monitor", 300⟩]

/-- `status` of a heartbeat. -/
inductive HeartbeatStatus
  | ok
  | error
  deriving DecidableEq

/-- A `SystemHealthJob` row. -/
structure SystemHealthJob where
  status : HeartbeatStatus
  detail : Option String
  lastHeartbeatAt : ℕ
  lastSuccessAt : Option ℕ
  lastErrorAt : Option ℕ
  consecutiveErrors : ℕ
  lastAlertSentAt : Option ℕ
  deriving DecidableEq

/-- The table, by `jobKey`. -/
abbrev Rows : Type := String → Option SystemHealthJob

/-- `recordJobHeartbeat`; the `lastHeartbeatAt` of a new row is the database's `now()`. -/
def recordJobHeartbeat (jobKey : String) (status : HeartbeatStatus) (detail : Option String)
    (now : ℕ) (rows : Rows) : Rows :=
  Function.update rows jobKey <| some <|
    match status, rows jobKey with
    | .ok, none => ⟨.ok, detail, now, some now, none, 0, none⟩
    | .ok, some row =>
      { row with
        status := .ok
        detail := detail
        lastHeartbeatAt := now
        lastSuccessAt := some now
        consecutiveErrors := 0 }
    | .error, none => ⟨.error, detail, now, none, some now, 1, none⟩
    | .error, some row =>
      { row with
        status := .error
        detail := detail
        lastHeartbeatAt := now
        lastErrorAt := some now
        consecutiveErrors := row.consecutiveErrors + 1 }

/-! ## The check -/

/-- `action` of an alert. -/
inductive AlertAction
  | trigger
  | resolve
  deriving DecidableEq

/-- The `thresholdMs` of `isOverdue`. -/
def thresholdMs (intervalSeconds : ℕ) : ℕ :=
  max (intervalSeconds * 3) 300 * 1000

def isOverdue (intervalSeconds : ℕ) (lastHeartbeatAt : Option ℕ) (now : ℕ) : Bool :=
  match lastHeartbeatAt with
  | none => true
  | some at_ => now - at_ > thresholdMs intervalSeconds

def isUnhealthy (job : SystemHealthJobMeta) (entry : Option SystemHealthJob) (now : ℕ) : Bool :=
  isOverdue job.intervalSeconds (entry.map SystemHealthJob.lastHeartbeatAt) now ||
    (entry.map SystemHealthJob.consecutiveErrors).getD 0 ≥ 3

def wasAlerted (entry : Option SystemHealthJob) : Bool :=
  (entry.bind SystemHealthJob.lastAlertSentAt).isSome

/-- The call of `fireSystemHealthAlert`, with its `detail`. -/
structure Alert where
  action : AlertAction
  detail : String
  deriving DecidableEq

/-- The alert for a job, if there is one. -/
def alertFor (job : SystemHealthJobMeta) (entry : Option SystemHealthJob) (now : ℕ) :
    Option Alert :=
  let consecutiveErrors := (entry.map SystemHealthJob.consecutiveErrors).getD 0
  if isUnhealthy job entry now && !wasAlerted entry then
    let reason := if consecutiveErrors ≥ 3 then s!"failed {consecutiveErrors} times in a row"
      else "has not reported in over its expected interval — it may be stalled or crashed"
    some ⟨.trigger, s!"{job.label} {reason}."⟩
  else if !isUnhealthy job entry now && wasAlerted entry then
    some ⟨.resolve, s!"{job.label} has recovered."⟩
  else none

/-- What is written once the alert has been sent: an upsert, or an update. -/
def writeAlerted (jobKey : String) (action : AlertAction) (now : ℕ) (rows : Rows) : Rows :=
  match action with
  | .trigger => Function.update rows jobKey <| some <|
    match rows jobKey with
    | none => ⟨.error, none, now, none, none, 0, some now⟩
    | some row => { row with lastAlertSentAt := some now }
  | .resolve => Function.update rows jobKey <|
    (rows jobKey).map fun row => { row with lastAlertSentAt := none }

/-! ## Runs -/

/-- A tick under way: the rows it has read, the jobs still to come, and the write that
follows an alert. -/
structure Tick where
  byKey : Rows
  jobs : List SystemHealthJobMeta
  write : Option (String × AlertAction)

/-- What has happened; the log has the newest note first. -/
inductive Note
  | heartbeat (jobKey : String) (status : HeartbeatStatus) (now : ℕ)
  | read
  | examined (jobKey : String) (now : ℕ) (alert : Option Alert)
  deriving DecidableEq

/-- The table, the tick under way, the time and what has happened. -/
structure Monitor where
  rows : Rows
  tick : Option Tick
  clock : ℕ
  log : List Note

/-- Nothing has happened. -/
def Monitor.start : Monitor :=
  ⟨fun _ => none, none, 0, []⟩

/-- A heartbeat, or a step of the tick: it reads the rows, examines the next job up to the
alert, writes what follows the alert, or ends. -/
inductive Event
  | heartbeat (jobKey : String) (status : HeartbeatStatus) (detail : Option String)
  | read
  | examine
  | write
  | finish

/-- An event at a time, if it can happen. Ticks do not overlap. -/
def Monitor.step (s : Monitor) (e : Event) (now : ℕ) : Option Monitor :=
  if now < s.clock then none else
  match e, s.tick with
  | .heartbeat jobKey status detail, tick =>
    some ⟨recordJobHeartbeat jobKey status detail now s.rows, tick, now,
      .heartbeat jobKey status now :: s.log⟩
  | .read, none => some ⟨s.rows, some ⟨s.rows, systemHealthJobs, none⟩, now, .read :: s.log⟩
  | .examine, some ⟨byKey, job :: jobs, none⟩ =>
    let alert := alertFor job (byKey job.key) now
    some ⟨s.rows, some ⟨byKey, jobs, alert.map fun a => (job.key, a.action)⟩, now,
      .examined job.key now alert :: s.log⟩
  | .write, some ⟨byKey, jobs, some (jobKey, action)⟩ =>
    some ⟨writeAlerted jobKey action now s.rows, some ⟨byKey, jobs, none⟩, now, s.log⟩
  | .finish, some ⟨_, [], none⟩ => some ⟨s.rows, none, now, s.log⟩
  | _, _ => none

variable {now : ℕ} {s s' : Monitor}

theorem Monitor.step_cases {e : Event} (h : s.step e now = some s') :
    s.clock ≤ now ∧
    ((∃ jobKey status detail, e = .heartbeat jobKey status detail ∧
        s' = ⟨recordJobHeartbeat jobKey status detail now s.rows, s.tick, now,
          .heartbeat jobKey status now :: s.log⟩) ∨
      (e = .read ∧ s.tick = none ∧
        s' = ⟨s.rows, some ⟨s.rows, systemHealthJobs, none⟩, now, .read :: s.log⟩) ∨
      (∃ byKey job jobs, e = .examine ∧ s.tick = some ⟨byKey, job :: jobs, none⟩ ∧
        s' = ⟨s.rows, some ⟨byKey, jobs,
            (alertFor job (byKey job.key) now).map fun a => (job.key, a.action)⟩, now,
          .examined job.key now (alertFor job (byKey job.key) now) :: s.log⟩) ∨
      (∃ byKey jobs jobKey action, e = .write ∧
        s.tick = some ⟨byKey, jobs, some (jobKey, action)⟩ ∧
        s' = ⟨writeAlerted jobKey action now s.rows, some ⟨byKey, jobs, none⟩, now, s.log⟩) ∨
      (∃ byKey, e = .finish ∧ s.tick = some ⟨byKey, [], none⟩ ∧
        s' = ⟨s.rows, none, now, s.log⟩)) := by
  unfold Monitor.step at h
  by_cases hlt : now < s.clock
  · rw [if_pos hlt] at h
    cases h
  rw [if_neg hlt] at h
  refine ⟨Nat.le_of_not_lt hlt, ?_⟩
  split at h
  · next jobKey status detail => exact Or.inl ⟨_, _, _, rfl, (some.inj h).symm⟩
  · next htick => exact Or.inr (Or.inl ⟨rfl, htick, (some.inj h).symm⟩)
  · next htick => exact Or.inr (Or.inr (Or.inl ⟨_, _, _, rfl, htick, (some.inj h).symm⟩))
  · next htick =>
    exact Or.inr (Or.inr (Or.inr (Or.inl ⟨_, _, _, _, rfl, htick, (some.inj h).symm⟩)))
  · next htick =>
    exact Or.inr (Or.inr (Or.inr (Or.inr ⟨_, rfl, htick, (some.inj h).symm⟩)))
  · cases h

/-- The states reached from the start by steps that are `ok`. -/
inductive Reaches (ok : Monitor → Event → ℕ → Prop) : Monitor → Prop
  | start : Reaches ok Monitor.start
  | step {s s' : Monitor} (e : Event) (now : ℕ) :
      Reaches ok s → ok s e now → s.step e now = some s' → Reaches ok s'

/-- The state after some events. -/
def Monitor.run (s : Monitor) : List (Event × ℕ) → Option Monitor
  | [] => some s
  | (e, now) :: es => (s.step e now).bind fun s' => s'.run es

theorem reaches_run {es : List (Event × ℕ)}
    (h : Reaches (fun _ _ _ => True) s) (hrun : s.run es = some s') :
    Reaches (fun _ _ _ => True) s' := by
  induction es generalizing s with
  | nil => exact some.inj hrun ▸ h
  | cons e es ih =>
    obtain ⟨s₁, hstep, hrest⟩ := bind_eq_some_iff.mp hrun
    exact ih (h.step e.1 e.2 trivial hstep) hrest

/-! ## Rows, step by step -/

section Rows

variable {jobKey key : String} {rows : Rows} {now : ℕ}

theorem recordJobHeartbeat_other (h : key ≠ jobKey) (status : HeartbeatStatus)
    (detail : Option String) : recordJobHeartbeat jobKey status detail now rows key = rows key :=
  update_of_ne h _ _

@[simp] theorem wasAlerted_recordJobHeartbeat (status : HeartbeatStatus) (detail : Option String) :
    wasAlerted (recordJobHeartbeat jobKey status detail now rows key) =
      wasAlerted (rows key) := by
  by_cases h : key = jobKey
  · subst h
    unfold recordJobHeartbeat
    rw [Function.update_self]
    cases status <;> cases rows key <;> rfl
  · rw [recordJobHeartbeat_other h]

theorem writeAlerted_other (h : key ≠ jobKey) (action : AlertAction) :
    writeAlerted jobKey action now rows key = rows key := by
  cases action <;> exact update_of_ne h _ _

theorem wasAlerted_writeAlerted (action : AlertAction) :
    wasAlerted (writeAlerted key action now rows key) = true ↔ action = .trigger := by
  unfold writeAlerted
  cases action with
  | trigger =>
    simp only [update_self, iff_true]
    cases rows key <;> rfl
  | resolve =>
    simp only [update_self, reduceCtorEq, iff_false]
    cases rows key <;> exact Bool.false_ne_true

end Rows

variable {job : SystemHealthJobMeta} {entry : Option SystemHealthJob}

/-- The action of an alert says whether the job was alerted before. -/
theorem alertFor_action
    {a : Alert} (h : alertFor job entry now = some a) :
    (a.action = .trigger ∧ isUnhealthy job entry now = true ∧ wasAlerted entry = false) ∨
    (a.action = .resolve ∧ isUnhealthy job entry now = false ∧ wasAlerted entry = true) := by
  unfold alertFor at h
  dsimp only at h
  split_ifs at h with htrigger hcount hresolve
  · obtain rfl := some.inj h
    exact Or.inl ⟨rfl, by simpa using htrigger⟩
  · obtain rfl := some.inj h
    exact Or.inl ⟨rfl, by simpa using htrigger⟩
  · obtain rfl := some.inj h
    exact Or.inr ⟨rfl, by simpa using hresolve⟩

theorem alertFor_none
    (h : alertFor job entry now = none) : isUnhealthy job entry now = wasAlerted entry := by
  unfold alertFor at h
  dsimp only at h
  split_ifs at h with htrigger hresolve
  cases hu : isUnhealthy job entry now <;> cases hw : wasAlerted entry <;> simp_all

end AppliverySoar.SystemHealth
