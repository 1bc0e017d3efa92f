import AppliverySoar.Async.History
import AppliverySoar.Workflows.ScriptRuns
import Mathlib.Data.List.Dedup

/-!
# The outcomes of dispatched scripts

`runScriptLogReconcilerTick` (scriptLogReconciler.ts, lines 30–104) compares the
totals of a script on a device with the totals that were noted before a dispatch,
and takes every difference for the outcome of that dispatch. Any number of
dispatches and ticks run beside each other, and beside the executions of the
device: those of earlier dispatches, and those that a policy calls for.

Results:
* `looked_reconcile`, `noted_run`: what a tick has seen where it records an
  outcome, and what a dispatch has noted where it creates its row.
* `exists_of_total`: totals that have grown name an execution.
* `outcome_of_attributable`: where each baseline was read, no older execution ends
  in between and no two rows of one script wait at the same time, every outcome is
  that of an execution that started after its dispatch, and no two rows share one.
* `older_execution_recorded`: an execution that was running before the dispatch is
  recorded for it.
-/

namespace AppliverySoar.Workflows

open Async Prog Compliance List Option

/-! ## The tick -/

def SCRIPT_RUN_MAX_ATTEMPTS : ℕ := 60

/-- The parked step of a row is resumed, if there is one. -/
def resumeParked (rec : ScriptRunTracking) (outcomeOk : Bool) (message : String) : Scripts Unit :=
  match rec.workflowResume with
  | none => pure ()
  | some ref => askScript (.resumeWorkflowPendingStep ref outcomeOk message)

/-- An event about a row is recorded, the row is deleted and its step resumed. -/
def settleRow (slugKey : String) (event : ScriptAudit) (outcomeOk : Bool) : Scripts Unit := do
  askScript (.recordAuditEvent slugKey event)
  let _ ← (askScript (.deleteTracking event.about.id)).attempt
  resumeParked event.about outcomeOk event.message

def giveUp (slugKey : String) (rec : ScriptRunTracking) (message : String) : Scripts Unit :=
  settleRow slugKey ⟨rec, "script_execution_unconfirmed", "warning", message⟩ false

/-- A check without news (lines 58–66 and 74–82). -/
def countAttempt (slugKey : String) (rec : ScriptRunTracking) : Scripts Unit :=
  if SCRIPT_RUN_MAX_ATTEMPTS ≤ rec.attempts + 1 then
    giveUp slugKey rec ("No execution result received for script '" ++ rec.scriptName ++ "' on " ++
      orElse rec.deviceName "device" ++ " after " ++ toString SCRIPT_RUN_MAX_ATTEMPTS ++
      " checks — device may be offline or the script asset may have been removed.")
  else askScript (.updateTracking rec.id (rec.attempts + 1))

def fetchScriptLogDetail (platformPath platformDeviceId : String) (logId : Option String) :
    Scripts (Option ScriptLogAnswer) :=
  match truthy logId with
  | none => pure none
  | some logId => do
    match ← (askScript (.getScriptLog platformPath platformDeviceId logId)).attempt with
    | .error _ => return none
    | .ok res => if 300 ≤ res.status then return none else return some res

/-- `excerpt`. -/
def excerptOf (detail : Option ScriptLogAnswer) : String :=
  match detail with
  | none => ""
  | some res =>
    let text := ((truthy res.logError).or (truthy res.log)).or res.summary
    let raw := Js.trim (text.getD "").toList
    if raw.isEmpty then "" else " — " ++ String.ofList (raw.take 300)

/-- `deltaError <= 0`. -/
def outcomeOk (rec : ScriptRunTracking) (entry : ScriptLogSummaryEntry) : Bool :=
  entry.error.getD 0 ≤ rec.baselineError

/-- The event of an outcome (lines 93–107). -/
def outcomeAudit (rec : ScriptRunTracking) (ok : Bool) (excerpt : String) : ScriptAudit where
  about := rec
  action := if ok then "script_execution_succeeded" else "script_execution_failed"
  severity := if ok then "info" else "critical"
  message :=
    let scriptName := orElse (some rec.scriptName) rec.assetId
    let deviceLabel := orElse rec.deviceName "device"
    if ok then "Script '" ++ scriptName ++ "' ran successfully on " ++ deviceLabel ++ "."
    else "Script '" ++ scriptName ++ "' FAILED on " ++ deviceLabel ++ excerpt

/-- `totalNow <= totalBaseline`. -/
def unmoved (rec : ScriptRunTracking) (entry : ScriptLogSummaryEntry) : Prop :=
  entry.success.getD 0 + entry.error.getD 0 ≤ rec.baselineSuccess + rec.baselineError

instance (rec : ScriptRunTracking) (entry : ScriptLogSummaryEntry) : Decidable (unmoved rec entry) :=
  inferInstanceAs (Decidable (_ ≤ _))

/-- One tracking row. -/
def reconcileRow (slugKey : String) (rec : ScriptRunTracking) : Scripts Unit := do
  match ← fetchScriptLogSummaryEntry rec.platformPath rec.platformDeviceId rec.assetId with
  | none => countAttempt slugKey rec
  | some entry =>
    if unmoved rec entry then countAttempt slugKey rec
    else
      let detail ← fetchScriptLogDetail rec.platformPath rec.platformDeviceId entry.id
      settleRow slugKey (outcomeAudit rec (outcomeOk rec entry) (excerptOf detail))
        (outcomeOk rec entry)

/-- One workspace. -/
def reconcileWorkspace (slugKey : String) : Scripts Unit := do
  let tracking ← askScript (.findTracking slugKey)
  if tracking.isEmpty then pure ()
  else
    match ← askScript (.getAutomationBearer slugKey) with
    | none => pure ()
    | some _ =>
      let _ ← askScript (.resolveOrgBase slugKey)
      tracking.foldlM (fun _ rec => reconcileRow slugKey rec) ()

def runScriptLogReconcilerTick : Scripts Unit := do
  let workspaces ← askScript .listAutomationWorkspaces
  workspaces.foldlM (fun _ slugKey => reconcileWorkspace slugKey) ()

/-- A dispatch, or a tick of the job. -/
inductive ScriptTask
  | run (params : RunScriptParams)
  | reconcile
  deriving DecidableEq

/-- What a task runs. -/
def ScriptTask.body : ScriptTask → Scripts Unit
  | .run params => do
    let _ ← executeRunScript params
  | .reconcile => runScriptLogReconcilerTick

/-- The dispatches and the ticks over the devices and the tables. -/
def scriptSystem : System scriptSig JsError ScriptStore ScriptTask where
  world := scriptWorld
  body := ScriptTask.body
  starts _ _ := []

/-- A label of a run. -/
abbrev ScriptLabel := Label scriptSig JsError ScriptTask

/-! ## What a task has seen -/

/-- The outcome that an event records. -/
def ScriptAudit.outcome (event : ScriptAudit) : Option Bool :=
  if event.action = "script_execution_succeeded" then some true
  else if event.action = "script_execution_failed" then some false
  else none

/-- The call asks for the totals of the scripts of a device. -/
def ScriptCall.looks : ScriptCall → Bool
  | .getScriptLogSummary .. => true
  | _ => false

/-- The call writes the scripts of a device. -/
def ScriptCall.puts : ScriptCall → Bool
  | .putDevice .. => true
  | _ => false

/-- What was read last of the totals has moved past the baseline of a row, in the
way that the outcome says; the row had been read before. -/
def Looked (past : List ScriptMove) (rec : ScriptRunTracking) (ok : Bool) : Prop :=
  ∃ pre res rest entry, past = pre ++
      ⟨.getScriptLogSummary rec.platformPath rec.platformDeviceId, .ok res⟩ :: rest ∧
    (∀ e ∈ rest, ¬e.call.looks = true) ∧ res.status < 300 ∧
    (res.items.find? fun item => item.mdmAssetId = some rec.assetId) = some entry ∧
    ¬unmoved rec entry ∧ ok = outcomeOk rec entry ∧
    ∃ slugKey rows, ⟨.findTracking slugKey, .ok rows⟩ ∈ pre ∧ rec ∈ rows

/-- The baselines of a row are what was read last of the totals before the last
write, 0 if that failed. -/
def Noted (past : List ScriptMove) (data : ScriptRunData) : Prop :=
  ∃ pre entries r put, past = pre ++
      [⟨.getScriptLogSummary data.platformPath data.platformDeviceId, r⟩,
        ⟨.putDevice data.platformPath data.platformDeviceId entries, .ok put⟩] ∧
    put.status < 300 ∧
    ∀ res, r = .ok res → res.status < 300 →
      data.baselineSuccess = totalOf (res.items.find? fun item =>
        item.mdmAssetId = some data.assetId) true ∧
      data.baselineError = totalOf (res.items.find? fun item =>
        item.mdmAssetId = some data.assetId) false

/-- A step is resumed with the outcome that was recorded for its row, or as failed
after it was given up. -/
def Fed (past : List ScriptMove) (ref : WorkflowResumeRef) (ok : Bool) (message : String) : Prop :=
  ∃ slugKey event, ⟨.recordAuditEvent slugKey event, .ok ()⟩ ∈ past ∧
    event.about.workflowResume = some ref ∧ event.message = message ∧
    (event.outcome = some ok ∨ event.outcome = none ∧ ok = false)

/-- A call of a task. -/
def ScriptTask.May (past : List ScriptMove) (c : ScriptCall) : Prop :=
  match c with
  | .recordAuditEvent _ event => ∀ ok, event.outcome = some ok → Looked past event.about ok
  | .createTracking data => Noted past data
  | .resumeWorkflowPendingStep ref ok message => Fed past ref ok message
  | _ => True

section Programs

variable {es : List ScriptMove} {rec : ScriptRunTracking} {slugKey : String} {c : ScriptCall}

/-- The call neither records nor creates nor resumes anything. -/
def ScriptCall.Plain : ScriptCall → Prop
  | .recordAuditEvent .. | .createTracking _ | .resumeWorkflowPendingStep .. => False
  | _ => True

theorem may_of_plain (h : c.Plain) : ScriptTask.May es c := by
  cases c with
  | recordAuditEvent | createTracking | resumeWorkflowPendingStep => exact h.elim
  | _ => trivial

theorem obeys_of_plain (h : c.Plain) : (askScript c).Obeys ScriptTask.May :=
  Prog.obeys_call fun _ => may_of_plain h

theorem meets_settleRow {event : ScriptAudit} {ok : Bool}
    (hlooked : ∀ ok, event.outcome = some ok → Looked es event.about ok)
    (hok : event.outcome = some ok ∨ event.outcome = none ∧ ok = false) :
    (settleRow slugKey event ok).Meets (World.log scriptSig JsError) ScriptTask.May es
      fun _ _ => True := by
  refine Meets.call_bind hlooked (fun _ _ => trivial) fun _ _ => ?_
  refine Meets.bind (R := fun _ es' => ⟨.recordAuditEvent slugKey event, .ok ()⟩ ∈ es')
    (Meets.attempt ⟨trivial, fun r _ => ?_⟩) fun _ es' hmem => ?_
  · exact mem_append_left _ (mem_append_right _ (mem_singleton_self _))
  unfold resumeParked
  cases href : event.about.workflowResume with
  | none => trivial
  | some ref =>
    exact ⟨⟨slugKey, event, hmem, href, rfl, hok⟩, fun _ _ => trivial⟩

theorem meets_countAttempt : (countAttempt slugKey rec).Meets (World.log scriptSig JsError)
    ScriptTask.May es fun _ _ => True := by
  unfold countAttempt
  split_ifs
  · exact meets_settleRow (fun ok h => by cases h) (.inr ⟨rfl, rfl⟩)
  · exact ⟨trivial, fun _ _ => trivial⟩

theorem outcome_outcomeAudit (ok : Bool) (excerpt : String) :
    (outcomeAudit rec ok excerpt).outcome = some ok := by
  cases ok <;> rfl

/-- The details are asked for, and the totals are still those that were read. -/
theorem meets_fetchScriptLogDetail {logId : Option String} {path deviceId : String} :
    (fetchScriptLogDetail path deviceId logId).Meets (World.log scriptSig JsError) ScriptTask.May es
      (post (fun _ es' => ∃ rest, es' = es ++ rest ∧ ∀ e ∈ rest, ¬e.call.looks = true)
        fun _ _ => False) := by
  unfold fetchScriptLogDetail
  cases truthy logId with
  | none => exact ⟨[], (append_nil es).symm, fun e he => absurd he not_mem_nil⟩
  | some logId =>
    refine ⟨trivial, fun r _ => ?_⟩
    have hrest : ∃ rest, es ++ [⟨.getScriptLog path deviceId logId, r⟩] = es ++ rest ∧
        ∀ e ∈ rest, ¬ScriptCall.looks e.call = true :=
      ⟨_, rfl, fun e he => by rw [mem_singleton.mp he]; exact Bool.false_ne_true⟩
    cases r with
    | error e => exact hrest
    | ok res =>
      show Meets _ _ (if _ then _ else _) _ _
      split_ifs
      · exact hrest
      · exact hrest

theorem meets_reconcileRow
    (hrec : ∃ slugKey rows, ⟨.findTracking slugKey, .ok rows⟩ ∈ es ∧ rec ∈ rows) :
    (reconcileRow slugKey rec).Meets (World.log scriptSig JsError) ScriptTask.May es
      fun _ _ => True := by
  refine meets_fetchScriptLogSummaryEntry trivial fun r => ?_
  cases hentry : summaryEntry rec.assetId r with
  | none => exact meets_countAttempt
  | some entry =>
    obtain ⟨res, rfl, hstatus, hfind⟩ : ∃ res, r = .ok res ∧ res.status < 300 ∧
        (res.items.find? fun item => item.mdmAssetId = some rec.assetId) = some entry := by
      unfold summaryEntry at hentry
      split at hentry
      · cases hentry
      · next res =>
        split_ifs at hentry with hstatus
        exact ⟨res, rfl, by omega, hentry⟩
    dsimp only
    split_ifs with hmoved
    · exact meets_countAttempt
    · refine Meets.bind (meets_fetchScriptLogDetail.mono fun r es' h => ?_)
        (R := fun _ es' => Looked es' rec (outcomeOk rec entry)) fun detail es' hlooked => ?_
      · cases r with
        | error e => exact (h : False).elim
        | ok detail =>
          obtain ⟨rest, hes', hrest⟩ := h
          exact ⟨es, res, rest, entry, hes'.trans (append_assoc ..), hrest, hstatus, hfind,
            hmoved, rfl, hrec⟩
      · refine meets_settleRow (fun ok h => ?_) (.inl (outcome_outcomeAudit _ _))
        rw [outcome_outcomeAudit] at h
        exact some.inj h ▸ hlooked

theorem looked_reconcile : runScriptLogReconcilerTick.Meets (World.log scriptSig JsError)
    ScriptTask.May [] fun _ _ => True := by
  refine Obeys.bind (obeys_of_plain (by trivial)) (fun workspaces => Obeys.foldlM
    fun _ slugKey _ => ?_) []
  intro es
  refine Meets.call_bind trivial (fun _ _ => trivial) fun tracking _ => ?_
  split_ifs
  · trivial
  · refine Meets.call_bind trivial (fun _ _ => trivial) fun bearer _ => ?_
    cases bearer with
    | none => trivial
    | some bearer =>
      refine Meets.call_bind trivial (fun _ _ => trivial) fun orgBase _ => ?_
      refine (Meets.foldlM (E := fun _ _ => True)
        (fun _ _ es' => ⟨.findTracking slugKey, .ok tracking⟩ ∈ es') (by simp [World.log])
        fun done rec todo hrows _ es' hmem => ?_).mono fun r _ _ => by cases r <;> trivial
      refine (meets_reconcileRow ⟨slugKey, tracking, hmem, by simp [hrows]⟩).extends.mono
        fun r es'' h => ?_
      cases r with
      | error e => trivial
      | ok u => exact h.2.subset hmem

/-- A row is created with the totals that were read before the write. -/
theorem noted_run (params : RunScriptParams) :
    (executeRunScript params).Meets (World.log scriptSig JsError) ScriptTask.May []
      fun _ _ => True := by
  unfold executeRunScript
  split
  · trivial
  · refine Meets.call_bind trivial (fun _ _ => trivial) fun found _ => ?_
    cases found with
    | none => trivial
    | some entry =>
      dsimp only
      split_ifs
      · trivial
      · split
        · trivial
        · next assetId _ =>
          refine Meets.call_bind trivial (fun _ _ => trivial) fun resetDate _ => ?_
          refine Meets.call_bind trivial (fun _ _ => trivial) fun res _ => ?_
          refine meets_fetchScriptLogSummaryEntry trivial fun r => ?_
          refine Meets.call_bind trivial (fun _ _ => trivial) fun put _ => ?_
          split_ifs with hput
          · trivial
          · refine Meets.bind (R := fun _ _ => True)
              (Meets.attempt ⟨?_, fun _ _ => trivial⟩) fun _ _ _ => trivial
            refine ⟨_, _, r, put, append_assoc _ [_] [_], by omega, ?_⟩
            intro res hres hstatus
            have hentry : summaryEntry assetId r =
                res.items.find? fun item => item.mdmAssetId = some assetId := by
              rw [hres]
              exact if_neg (by omega)
            rw [hentry]
            exact ⟨rfl, rfl⟩

theorem meets_body_script (task : ScriptTask) :
    task.body.Meets (World.log scriptSig JsError) ScriptTask.May [] fun _ _ => True := by
  cases task with
  | run params =>
    exact Meets.bind (R := fun _ _ => True)
      ((noted_run params).mono fun r _ _ => by cases r <;> trivial) fun _ _ _ => trivial
  | reconcile => exact looked_reconcile

end Programs

/-! ## Runs -/

/-- The row was created by a thread that last looked at the totals at `b`, and last
wrote the scripts of a device at `p`. -/
def DispatchedAt (tr : List ScriptLabel) (rec : ScriptRunTracking) (b p : ℕ) : Prop :=
  ∃ c l, tr[c]? = some l ∧ l.event = ⟨.createTracking rec.toScriptRunData, .ok rec.id⟩ ∧
    LastCall tr (fun c => c.looks = true) c b ∧ LastCall tr (fun c => c.puts = true) c p

/-- At `n` an outcome is recorded for the row, after a look at the totals at `m`. -/
def RecordedAt (tr : List ScriptLabel) (rec : ScriptRunTracking) (ok : Bool) (n m : ℕ) : Prop :=
  ∃ l slugKey event, tr[n]? = some l ∧ l.event.call = .recordAuditEvent slugKey event ∧
    event.about = rec ∧ event.outcome = some ok ∧ LastCall tr (fun c => c.looks = true) n m

/-- Two rows of one script on one device. -/
def SameScript (rec rec' : ScriptRunTracking) : Prop :=
  rec.platformPath = rec'.platformPath ∧ rec.platformDeviceId = rec'.platformDeviceId ∧
    rec.assetId = rec'.assetId

/-- The baseline of a row has been read, what has ended since then by the look at
`m` was started after the write, and no other row of the script has been looked
at in between. -/
structure Timely (s : ScriptStore) (tr : List ScriptLabel) (rec : ScriptRunTracking) (m b p : ℕ) :
    Prop where
  baseline : ∃ l res, tr[b]? = some l ∧
    l.event = ⟨.getScriptLogSummary rec.platformPath rec.platformDeviceId, .ok res⟩ ∧
    res.status < 300
  younger : ∀ x ∈ s.executions, x.Of rec.platformPath rec.platformDeviceId rec.assetId →
    b < x.finished → x.finished ≤ m → p < x.started
  alone : ∀ n' rec' ok' m' b' p', RecordedAt tr rec' ok' n' m' → DispatchedAt tr rec' b' p' →
    SameScript rec rec' → rec.id ≠ rec'.id → m' ≤ b ∨ m ≤ b'

/-- Every outcome is recorded in time. -/
def Attributable (s : ScriptStore) (tr : List ScriptLabel) : Prop :=
  ∀ n rec ok m b p, RecordedAt tr rec ok n m → DispatchedAt tr rec b p → Timely s tr rec m b p

/-- Nothing is tracked yet, and the calls are counted from here on. -/
structure ScriptStore.Fresh (s : ScriptStore) : Prop where
  tracking : s.tracking = []
  tick : s.tick = 0

/-- The execution is an outcome of the row: it is one of the script, started after
the write and ended after the baseline was read, by the look at `m`. -/
structure ExecutionOutcome (s : ScriptStore) (tr : List ScriptLabel) (rec : ScriptRunTracking) (ok : Bool)
    (m : ℕ) (x : ScriptExecution) : Prop where
  mem : x ∈ s.executions
  of : x.Of rec.platformPath rec.platformDeviceId rec.assetId
  ok_eq : x.ok = ok
  finished : x.finished ≤ m
  started : ∃ b p, DispatchedAt tr rec b p ∧ p < x.started ∧ b < x.finished

theorem exists_of_total {s : ScriptStore} {path deviceId assetId : String} {t t' : ℕ} {ok : Bool}
    (h : s.total path deviceId assetId t ok < s.total path deviceId assetId t' ok) :
    ∃ x ∈ s.executions, x.Of path deviceId assetId ∧ x.ok = ok ∧ t < x.finished ∧
      x.finished ≤ t' := by
  by_contra hnone
  refine absurd h (Nat.not_lt.mpr (countP_mono_left fun x hx hlate => ?_))
  obtain ⟨hof, hle, hok⟩ := of_decide_eq_true hlate
  refine decide_eq_true ⟨hof, ?_, hok⟩
  by_contra hgt
  exact hnone ⟨x, hx, hof, hok, by omega, hle⟩

section Runs

variable {s : ScriptStore} {ts : List ScriptTask} {tr : List ScriptLabel}
  {cfg : Config scriptSig JsError ScriptStore ScriptTask} {rec : ScriptRunTracking} {ok : Bool}
  {n m : ℕ} {l : ScriptLabel}

theorem tick_next (s : ScriptStore) (e : ScriptMove) :
    (s.next e.call e.answer).tick = s.tick + 1 := by
  obtain ⟨c, r⟩ := e
  cases c <;> cases r <;> rfl

theorem executions_next (s : ScriptStore) (e : ScriptMove) :
    (s.next e.call e.answer).executions = s.executions := by
  obtain ⟨c, r⟩ := e
  cases c <;> cases r <;> rfl

theorem stateAt_clock (hn : n ≤ tr.length) :
    (stateAt scriptWorld s tr n).tick = s.tick + n ∧
      (stateAt scriptWorld s tr n).executions = s.executions := by
  induction n with
  | zero => exact ⟨rfl, rfl⟩
  | succ n ih =>
    obtain ⟨htick, hexecutions⟩ := ih (by omega)
    have hl := getElem?_eq_getElem (show n < tr.length by omega)
    rw [stateAt_succ scriptWorld s hl]
    exact ⟨(tick_next _ _).trans (by rw [htick]; rfl), (executions_next _ _).trans hexecutions⟩

/-- A row after a call was there with its data, or has been created. -/
theorem tracking_next {e : ScriptMove} (h : rec ∈ (s.next e.call e.answer).tracking) :
    (∃ row ∈ s.tracking, row.toScriptRunData = rec.toScriptRunData ∧ row.id = rec.id) ∨
      e = ⟨.createTracking rec.toScriptRunData, .ok rec.id⟩ := by
  obtain ⟨c, r⟩ := e
  cases c with
  | createTracking data =>
    cases r with
    | error e => exact .inl ⟨rec, h, rfl, rfl⟩
    | ok id =>
      rcases mem_append.mp h with hold | hnew
      · exact .inl ⟨rec, hold, rfl, rfl⟩
      · obtain rfl := mem_singleton.mp hnew
        exact .inr rfl
  | updateTracking id attempts =>
    cases r with
    | error e => exact .inl ⟨rec, h, rfl, rfl⟩
    | ok u =>
      obtain ⟨row, hrow, rfl⟩ := mem_map.mp h
      refine .inl ⟨row, hrow, ?_⟩
      split_ifs <;> exact ⟨rfl, rfl⟩
  | deleteTracking id =>
    cases r with
    | error e => exact .inl ⟨rec, h, rfl, rfl⟩
    | ok u => exact .inl ⟨rec, (mem_filter.mp h).1, rfl, rfl⟩
  | _ => cases r <;> exact .inl ⟨rec, h, rfl, rfl⟩

/-- **Run lemma**: every row has been created. -/
theorem created_of_tracked (hfresh : s.Fresh) (hn : n ≤ tr.length)
    (hrec : rec ∈ (stateAt scriptWorld s tr n).tracking) :
    ∃ (c : ℕ) (l : ScriptLabel), tr[c]? = some l ∧
      l.event = ⟨.createTracking rec.toScriptRunData, .ok rec.id⟩ := by
  induction n generalizing rec with
  | zero =>
    rw [show (stateAt scriptWorld s tr 0).tracking = [] from hfresh.tracking] at hrec
    cases hrec
  | succ n ih =>
    have hl := getElem?_eq_getElem (show n < tr.length by omega)
    rw [stateAt_succ scriptWorld s hl] at hrec
    rcases tracking_next hrec with ⟨row, hrow, hdata, hid⟩ | hcreated
    · obtain ⟨c, l, hc, hevent⟩ := ih (by omega) hrow
      exact ⟨c, l, hc, by rw [hevent, hdata, hid]⟩
    · exact ⟨n, _, hl, hcreated⟩

variable {cond : List ScriptLabel → ScriptStore → ScriptLabel → Prop} {slugKey : String}

section

variable (h : Run scriptSystem cond (scriptSystem.launch s ts) tr cfg)
include h

theorem may_of_run
    (hn : tr[n]? = some l) : ScriptTask.May l.past l.event.call :=
  h.ok_of_meets (fun _ => ScriptTask.May) meets_body_script l (mem_of_getElem? hn)

theorem total_of_look
    (hfresh : s.Fresh) {path deviceId : String} {res : SummaryAnswer} (hn : tr[n]? = some l)
    (hevent : l.event = ⟨.getScriptLogSummary path deviceId, .ok res⟩) (hstatus : res.status < 300)
    (assetId : String) (ok : Bool) :
    totalOf (res.items.find? fun item => item.mdmAssetId = some assetId) ok =
      s.total path deviceId assetId n ok := by
  have hmay : scriptWorld.may (stateAt scriptWorld s tr n) l.event.call l.event.answer :=
    (h.label_at hn).1
  obtain ⟨htick, hexecutions⟩ := stateAt_clock (s := s) (List.getElem?_eq_some_iff.mp hn).1.le
  rw [hevent] at hmay
  have hexact : totalOf _ ok = _ := hmay hstatus assetId ok
  rw [hexact]
  unfold ScriptStore.total
  rw [htick, hexecutions, hfresh.tick, Nat.zero_add]

/-- Every row for which an outcome is recorded has been dispatched. -/
theorem dispatched_of_looked
    (hfresh : s.Fresh) (hn : tr[n]? = some l) {rows : List ScriptRunTracking}
    (hfound : ⟨.findTracking slugKey, .ok rows⟩ ∈ l.past) (hrec : rec ∈ rows) :
    ∃ b p lb r, DispatchedAt tr rec b p ∧ tr[b]? = some lb ∧
      lb.event = ⟨.getScriptLogSummary rec.platformPath rec.platformDeviceId, r⟩ ∧
      ∀ res, r = .ok res → res.status < 300 →
        rec.baselineSuccess = totalOf (res.items.find? fun item =>
          item.mdmAssetId = some rec.assetId) true ∧
        rec.baselineError = totalOf (res.items.find? fun item =>
          item.mdmAssetId = some rec.assetId) false := by
  obtain ⟨before, lf, mid, hbefore, hlf⟩ := h.label_of_past (take_append_of_getElem? hn) hfound
  have htr : tr[before.length]? = some lf := by
    rw [take_append_of_getElem? hn, hbefore]
    simp
  obtain ⟨hmay, -⟩ := h.label_at htr
  rw [hlf] at hmay
  have hrows : rows = ((stateAt scriptWorld s tr before.length).tracking.filter
      fun row => row.workspaceSlug = slugKey).take 50 := hmay
  rw [hrows] at hrec
  obtain ⟨c, lc, hc, hcreated⟩ := created_of_tracked hfresh
    (List.getElem?_eq_some_iff.mp htr).1.le (List.mem_filter.mp (List.mem_of_mem_take hrec)).1
  have hnoted := may_of_run h hc
  rw [hcreated] at hnoted
  obtain ⟨pre, entries, r, put, hpast, -, hbaseline⟩ := hnoted
  obtain ⟨b, lb, hb, hlook, hlast⟩ := h.lastCall_of_past hc (P := fun c => c.looks = true) hpast rfl
    fun e he => by rw [List.mem_singleton.mp he]; exact Bool.false_ne_true
  obtain ⟨p, lp, -, -, hput⟩ := h.lastCall_of_past hc (P := fun c => c.puts = true)
    (hpast.trans (List.append_assoc pre [_] [_]).symm) rfl fun e he => absurd he List.not_mem_nil
  exact ⟨b, p, lb, r, ⟨c, lc, hc, hcreated, hlast, hput⟩, hb, hlook, hbaseline⟩

theorem outcome_of_recorded
    (hfresh : s.Fresh) (hattributable : Attributable s tr) (hrecorded : RecordedAt tr rec ok n m) :
    ∃ x, ExecutionOutcome s tr rec ok m x := by
  obtain ⟨l, slugKey, event, hn, hcall, rfl, houtcome, hlast⟩ := hrecorded
  have hlooked := may_of_run h hn
  rw [hcall] at hlooked
  obtain ⟨pre, res, rest, entry, hpast, hrest, hstatus, hentry, hmoved, rfl, slugKey', rows, hfound,
    hrec⟩ := hlooked ok houtcome
  obtain ⟨m', lm, hm, hlook, hlast'⟩ := h.lastCall_of_past hn (P := fun c => c.looks = true) hpast rfl
    hrest
  obtain rfl := hlast.unique hlast'
  obtain ⟨b, p, lb, r, hdispatched, hb, hbase, hbaseline⟩ := dispatched_of_looked h hfresh hn
    (hpast ▸ mem_append_left _ hfound) hrec
  have htimely := hattributable n _ _ m b p ⟨l, slugKey, event, hn, hcall, rfl, houtcome, hlast⟩
    hdispatched
  obtain ⟨lb', resb, hb', hbase', hstatusb⟩ := htimely.baseline
  obtain rfl : lb = lb' := some.inj (hb.symm.trans hb')
  obtain ⟨hsuccess, herror⟩ := hbaseline resb (by rw [hbase] at hbase'; cases hbase'; rfl) hstatusb
  rw [total_of_look h hfresh hb hbase' hstatusb] at hsuccess herror
  have htotal := fun ok => total_of_look h hfresh hm hlook hstatus event.about.assetId ok
  rw [hentry] at htotal
  have htrue : entry.success.getD 0 = _ := htotal true
  have hfalse : entry.error.getD 0 = _ := htotal false
  -- the total that has grown is that of the outcome
  obtain ⟨x, hx, hof, hok, hlate, hby⟩ : ∃ x ∈ s.executions,
      x.Of event.about.platformPath event.about.platformDeviceId event.about.assetId ∧
      x.ok = outcomeOk event.about entry ∧ b < x.finished ∧ x.finished ≤ m := by
    refine exists_of_total ?_
    unfold unmoved at hmoved
    unfold outcomeOk
    by_cases hle : entry.error.getD 0 ≤ event.about.baselineError
    · rw [decide_eq_true hle]
      omega
    · rw [decide_eq_false hle]
      omega
  exact ⟨x, hx, hof, hok, hby, b, p, hdispatched, htimely.younger x hx hof hlate hby, hlate⟩

end

theorem RecordedAt.unique {rec' : ScriptRunTracking} {ok' : Bool} {m' : ℕ}
    (h : RecordedAt tr rec ok n m) (h' : RecordedAt tr rec' ok' n m') :
    rec = rec' ∧ ok = ok' ∧ m = m' := by
  obtain ⟨l, slugKey, event, hn, hcall, rfl, houtcome, hlast⟩ := h
  obtain ⟨l', slugKey', event', hn', hcall', rfl, houtcome', hlast'⟩ := h'
  obtain rfl : l = l' := some.inj (hn.symm.trans hn')
  rw [hcall] at hcall'
  cases hcall'
  exact ⟨rfl, some.inj (houtcome.symm.trans houtcome'), hlast.unique hlast'⟩

theorem recordedAt_of_audit (h : Run scriptSystem cond (scriptSystem.launch s ts) tr cfg)
    (hn : tr[n]? = some l) {event : ScriptAudit}
    (hcall : l.event.call = .recordAuditEvent slugKey event) (houtcome : event.outcome = some ok) :
    ∃ m, RecordedAt tr event.about ok n m := by
  have hlooked := may_of_run h hn
  rw [hcall] at hlooked
  obtain ⟨pre, res, rest, entry, hpast, hrest, -⟩ := hlooked ok houtcome
  obtain ⟨m, -, -, -, hlast⟩ := h.lastCall_of_past hn (P := fun c => c.looks = true) hpast rfl hrest
  exact ⟨m, l, slugKey, event, hn, hcall, rfl, houtcome, hlast⟩

/-- In every run in which each outcome is recorded in time, every outcome is that
of an execution that started after its dispatch, no two rows have one execution
in common, and a parked step is fed what was recorded. -/
theorem outcome_of_attributable {s : ScriptStore} {ts : List ScriptTask} {tr : List ScriptLabel}
    {cfg : Config scriptSig JsError ScriptStore ScriptTask} (hfresh : s.Fresh)
    (h : Run scriptSystem always (scriptSystem.launch s ts) tr cfg)
    (hattributable : Attributable s tr) :
    (∃ f : ℕ → ScriptExecution,
      (∀ rec ok n m, RecordedAt tr rec ok n m → ExecutionOutcome s tr rec ok m (f n)) ∧
      ∀ rec rec' ok ok' n n' m m', RecordedAt tr rec ok n m → RecordedAt tr rec' ok' n' m' →
        rec.id ≠ rec'.id → f n ≠ f n') ∧
    (∀ (n : ℕ) l slugKey event ok, tr[n]? = some l → l.event.call = .recordAuditEvent slugKey event →
      event.outcome = some ok → ∃ m, RecordedAt tr event.about ok n m) ∧
    ∀ l ∈ tr, ∀ ref ok message, l.event.call = .resumeWorkflowPendingStep ref ok message →
      Fed l.past ref ok message := by
  refine ⟨?_, fun n l slugKey event ok hn hcall houtcome => ?_, fun l hl ref ok message hcall => ?_⟩
  · have hchoice : ∀ n, ∃ x, ∀ rec ok m, RecordedAt tr rec ok n m → ExecutionOutcome s tr rec ok m x := by
      intro n
      by_cases hn : ∃ rec ok m, RecordedAt tr rec ok n m
      · obtain ⟨rec, ok, m, hrecorded⟩ := hn
        obtain ⟨x, hx⟩ := outcome_of_recorded h hfresh hattributable hrecorded
        refine ⟨x, fun rec' ok' m' hrecorded' => ?_⟩
        obtain ⟨rfl, rfl, rfl⟩ := hrecorded.unique hrecorded'
        exact hx
      · exact ⟨default, fun rec ok m hrecorded => absurd ⟨rec, ok, m, hrecorded⟩ hn⟩
    choose f hf using hchoice
    refine ⟨f, fun rec ok n m => hf n rec ok m, fun rec rec' ok ok' n n' m m' hrec hrec' hid heq => ?_⟩
    have hx := hf n _ _ _ hrec
    have hx' := hf n' _ _ _ hrec'
    rw [← heq] at hx'
    obtain ⟨b, p, hdispatched, -, hlate⟩ := hx.started
    obtain ⟨b', p', hdispatched', -, hlate'⟩ := hx'.started
    have hsame : SameScript rec rec' :=
      ⟨hx.of.1.symm.trans hx'.of.1, hx.of.2.1.symm.trans hx'.of.2.1, hx.of.2.2.symm.trans hx'.of.2.2⟩
    have hfinished := hx.finished
    have hfinished' := hx'.finished
    rcases (hattributable n _ _ m b p hrec hdispatched).alone n' _ _ m' b' p' hrec' hdispatched' hsame
      hid with hle | hle
    · omega
    · omega
  · exact recordedAt_of_audit h hn hcall houtcome
  · obtain ⟨n, hlt, rfl⟩ := mem_iff_getElem.mp hl
    have hfed := may_of_run h (getElem?_eq_getElem hlt)
    rwa [hcall] at hfed

end Runs

/-! ## One dispatch and one tick -/

/-- The totals of the scripts of a device. -/
def ScriptStore.summary (s : ScriptStore) (path deviceId : String) : SummaryAnswer where
  status := 200
  items := (s.executions.map ScriptExecution.assetId).dedup.map fun assetId =>
    ⟨some "log1", some assetId, some (s.total path deviceId assetId s.tick true),
      some (s.total path deviceId assetId s.tick false)⟩

/-- A deployment in which everything answers. -/
def ScriptStore.answer (s : ScriptStore) :
    (c : ScriptCall) → Except JsError (ScriptCall.Answer c)
  | .getScriptLogSummary path deviceId => .ok (s.summary path deviceId)
  | .createTracking _ => if "row1" ∈ s.issued then .error ⟨"taken"⟩ else .ok "row1"
  | .listAutomationWorkspaces => .ok ["acme"]
  | .getAutomationBearer _ => .ok (some "bearer")
  | c => s.reply shownScripts c

theorem total_summary (s : ScriptStore) (path deviceId assetId : String) (ok : Bool) :
    totalOf ((s.summary path deviceId).items.find? fun item => item.mdmAssetId = some assetId) ok =
      s.total path deviceId assetId s.tick ok := by
  unfold ScriptStore.summary
  rw [find?_map]
  cases hfind : (s.executions.map ScriptExecution.assetId).dedup.find?
      ((fun item : ScriptLogSummaryEntry => decide (item.mdmAssetId = some assetId)) ∘ fun assetId =>
        ⟨some "log1", some assetId, some (s.total path deviceId assetId s.tick true),
          some (s.total path deviceId assetId s.tick false)⟩) with
  | some found =>
    obtain rfl : found = assetId := some.inj (of_decide_eq_true (find?_some hfind :))
    cases ok <;> rfl
  | none =>
    refine (countP_eq_zero.mpr fun x hx hcounted => ?_).symm
    have hof := (of_decide_eq_true hcounted).1
    exact find?_eq_none.mp hfind x.assetId
      (mem_dedup.mpr (mem_map_of_mem hx)) (decide_eq_true (congrArg some hof.2.2))

theorem may_scriptAnswer (s : ScriptStore) (c : ScriptCall) : s.may c (s.answer c) := by
  cases c with
  | getDevice path deviceId => exact fun _ scripts harr => (Js.Value.arr.inj harr).symm
  | getScriptLogSummary path deviceId => exact fun _ => total_summary s path deviceId
  | createTracking data =>
    show s.may (.createTracking data) (if _ then _ else _)
    split_ifs with htaken
    · trivial
    · exact htaken
  | findLibraryEntry | findTracking => exact rfl
  | _ => trivial

/-- The Mac of `scriptedMac`, with its executions. -/
def executingMac (executions : List ScriptExecution) : ScriptStore :=
  { scriptedMac with executions := executions }

/-- The script is dispatched, and then the job has a tick. -/
def trackedRun (executions : List ScriptExecution) :
    List ScriptLabel × Config scriptSig JsError ScriptStore ScriptTask :=
  (scriptSystem.launch (executingMac executions) [.run runCleanup, .reconcile]).play scriptSystem
    ScriptStore.answer (List.replicate 6 0 ++ List.replicate 9 1)

theorem run_trackedRun (executions : List ScriptExecution) :
    Run scriptSystem always (scriptSystem.launch (executingMac executions)
      [.run runCleanup, .reconcile]) (trackedRun executions).1 (trackedRun executions).2 :=
  Config.run_play scriptSystem ScriptStore.answer may_scriptAnswer _ _

/-- The row and the outcome that a call records. -/
def recordedOf (c : ScriptCall) : Option (ScriptRunTracking × Bool) :=
  match c with
  | .recordAuditEvent _ event => event.outcome.map fun ok => (event.about, ok)
  | _ => none

/-- The call creates a row. -/
def ScriptCall.creates : ScriptCall → Bool
  | .createTracking _ => true
  | _ => false

/-- A run with one dispatch and one outcome, where they stand. -/
structure OneOutcome (tr : List ScriptLabel) (rec : ScriptRunTracking) (ok : Bool) : Prop where
  length : tr.length = 14
  recorded : ∀ n < 14, ((tr[n]?).any fun l => (recordedOf l.event.call).isSome) = true → n = 12
  outcome : (tr[12]?).bind (fun l => recordedOf l.event.call) = some (rec, ok)
  created : ∀ n < 14, ((tr[n]?).any fun l => l.event.call.creates) = true → n = 5
  look : (tr[12]?).map (fun l => lastBefore tr l.thread ScriptCall.looks 12) = some (some 10)
  baseline : (tr[5]?).map (fun l => lastBefore tr l.thread ScriptCall.looks 5) = some (some 3)
  write : (tr[5]?).map (fun l => lastBefore tr l.thread ScriptCall.puts 5) = some (some 4)

section OneOutcome

variable {tr : List ScriptLabel} {rec rec' : ScriptRunTracking} {ok ok' : Bool} {n m b p : ℕ}

theorem OneOutcome.recordedAt (h : OneOutcome tr rec ok) (hrecorded : RecordedAt tr rec' ok' n m) :
    rec' = rec ∧ ok' = ok ∧ n = 12 ∧ m = 10 := by
  obtain ⟨l, slugKey, event, hn, hcall, rfl, houtcome, hlast⟩ := hrecorded
  have hof : recordedOf l.event.call = some (event.about, ok') := by
    rw [hcall, recordedOf, houtcome]
    rfl
  obtain rfl : n = 12 := h.recorded n (h.length ▸ (List.getElem?_eq_some_iff.mp hn).1)
    (by rw [hn]; simp [hof])
  have houtcome' := h.outcome
  have hlook := h.look
  rw [hn, map_some, hlast.lastBefore_eq hn] at hlook
  rw [hn, bind_some, hof] at houtcome'
  cases houtcome'
  cases hlook
  exact ⟨rfl, rfl, rfl, rfl⟩

theorem OneOutcome.dispatchedAt (h : OneOutcome tr rec ok) (hdispatched : DispatchedAt tr rec' b p) :
    b = 3 ∧ p = 4 := by
  obtain ⟨c, l, hc, hcreated, hlook, hput⟩ := hdispatched
  obtain rfl : c = 5 := h.created c (h.length ▸ (List.getElem?_eq_some_iff.mp hc).1)
    (by rw [hc, any_some, hcreated]; rfl)
  have hbaseline := h.baseline
  have hwrite := h.write
  rw [hc, map_some, hlook.lastBefore_eq hc] at hbaseline
  rw [hc, map_some, hput.lastBefore_eq hc] at hwrite
  cases hbaseline
  cases hwrite
  exact ⟨rfl, rfl⟩

theorem OneOutcome.exists_audit (h : OneOutcome tr rec ok) : ∃ l slugKey event, tr[12]? = some l ∧
    l.event.call = .recordAuditEvent slugKey event ∧ event.about = rec ∧ event.outcome = some ok := by
  obtain ⟨l, hl, hrecorded⟩ := bind_eq_some_iff.mp h.outcome
  cases hcall : l.event.call with
  | recordAuditEvent slugKey event =>
    rw [hcall] at hrecorded
    obtain ⟨ok', houtcome, heq⟩ := map_eq_some_iff.mp hrecorded
    obtain ⟨rfl, rfl⟩ := Prod.mk.inj heq
    exact ⟨l, slugKey, event, hl, hcall, rfl, houtcome⟩
  | _ =>
    rw [hcall] at hrecorded
    cases hrecorded

end OneOutcome

/-- The row of the dispatch. -/
def cleanupRow : ScriptRunTracking where
  id := "row1"
  workspaceSlug := "acme"
  deviceId := ""
  deviceName := none
  platformPath := "apple"
  platformDeviceId := "mac1"
  assetId := "cleanup"
  scriptName := "Cleanup"
  baselineSuccess := 0
  baselineError := 0
  workflowResume := none
  attempts := 0

/-- The execution that the dispatch has caused. -/
def ownExecution : ScriptExecution :=
  ⟨"apple", "mac1", "cleanup", 8, 9, false⟩

/-- An execution that was running before. -/
def olderExecution : ScriptExecution :=
  ⟨"apple", "mac1", "cleanup", 0, 5, true⟩

theorem oneOutcome_own : OneOutcome (trackedRun [ownExecution]).1 cleanupRow false := by
  constructor <;> decide +kernel

theorem oneOutcome_older : OneOutcome (trackedRun [olderExecution]).1 cleanupRow true := by
  constructor <;> decide +kernel

theorem fresh_executingMac (executions : List ScriptExecution) : (executingMac executions).Fresh :=
  ⟨rfl, rfl⟩

theorem attributable_own :
    Attributable (executingMac [ownExecution]) (trackedRun [ownExecution]).1 := by
  intro n rec ok m b p hrecorded hdispatched
  obtain ⟨rfl, rfl, rfl, rfl⟩ := oneOutcome_own.recordedAt hrecorded
  obtain ⟨rfl, rfl⟩ := oneOutcome_own.dispatchedAt hdispatched
  refine ⟨⟨_, _, rfl, rfl, by decide⟩, fun x hx _ _ _ => ?_, fun n' rec' ok' m' b' p' hrecorded' _ _
    hid => absurd (oneOutcome_own.recordedAt hrecorded').1.symm fun heq => hid (congrArg _ heq)⟩
  obtain rfl := mem_singleton.mp hx
  decide

/-- The failure that is recorded is that of the execution the dispatch has caused. -/
theorem outcome_of_attributable_own : ∃ m,
    RecordedAt (trackedRun [ownExecution]).1 cleanupRow false 12 m ∧
      ExecutionOutcome (executingMac [ownExecution]) (trackedRun [ownExecution]).1 cleanupRow false m
        ownExecution := by
  obtain ⟨⟨f, hf, -⟩, hrecorded, -⟩ := outcome_of_attributable (fresh_executingMac _)
    (run_trackedRun [ownExecution]) attributable_own
  obtain ⟨l, slugKey, event, hl, hcall, habout, houtcome⟩ := oneOutcome_own.exists_audit
  obtain ⟨m, hm⟩ := hrecorded 12 l slugKey event false hl hcall houtcome
  rw [habout] at hm
  have hx := hf _ _ _ _ hm
  rw [mem_singleton.mp hx.mem] at hx
  exact ⟨m, hm, hx⟩

/-- An execution that was running before the dispatch, and ends after the baseline
was read, is recorded as its outcome. -/
theorem older_execution_recorded :
    ¬∀ (s : ScriptStore) (ts : List ScriptTask) (tr : List ScriptLabel)
      (cfg : Config scriptSig JsError ScriptStore ScriptTask), s.Fresh →
      Run scriptSystem always (scriptSystem.launch s ts) tr cfg →
      ∀ rec ok n m, RecordedAt tr rec ok n m → ∃ x, ExecutionOutcome s tr rec ok m x := by
  intro hall
  obtain ⟨l, slugKey, event, hl, hcall, habout, houtcome⟩ := oneOutcome_older.exists_audit
  obtain ⟨m, hm⟩ := recordedAt_of_audit (run_trackedRun [olderExecution]) hl hcall houtcome
  obtain ⟨x, hx⟩ := hall _ _ _ _ (fresh_executingMac _) (run_trackedRun [olderExecution]) _ _ _ _ hm
  obtain ⟨b, p, hdispatched, hstarted, -⟩ := hx.started
  obtain ⟨-, rfl⟩ := oneOutcome_older.dispatchedAt hdispatched
  rw [mem_singleton.mp hx.mem] at hstarted
  exact absurd hstarted (by decide)

end AppliverySoar.Workflows
