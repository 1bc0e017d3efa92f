import AppliverySoar.Async.Sequence
import AppliverySoar.Compliance.Types
import AppliverySoar.Js.Json
import AppliverySoar.Workflows.Steps

/-!
# Running a script on a device

`executeRunScript` (mdmActionExecutor.ts, lines 340–431) assigns a script to a
device. The endpoint replaces the whole array of assigned scripts, so the function
reads the array, adds its own entry and writes everything back. Of an array that
it could not read it makes an empty one, and of the other entries it writes what
its own defaults make of them.

Results:
* `entries_of_readable`: what is written where the array has been read.
* `preserved_iff_readable`: the other scripts of the device stay as they are, and
  nothing is written without having been read, exactly if the array was read and
  every other entry has all of its fields.
* `scripts_removed`: a device whose array could not be read loses its scripts.
-/

namespace AppliverySoar.Workflows

open Async Compliance List
open Js (Value)

/-! ## Records and calls -/

/-- An `ActionLibraryEntry` of type "script". -/
structure ActionLibraryEntry where
  name : String
  platform : String
  assetId : Option String
  arguments : Option String := none
  scope : Option String := none
  deriving DecidableEq

/-- An element of the `scripts` that are written; a property that is not set is
`undefined`. -/
structure ScriptEntry where
  id : Value
  type : Value
  resetDate : Value
  arguments : Value
  scope : Value
  loopTime : Value

/-- `res` of `GET` on the device. -/
structure DeviceAnswer where
  status : ℕ
  data : Value

/-- `res` of `PUT` on the device, with `JSON.stringify` of its body. -/
structure ScriptPutAnswer where
  status : ℕ
  text : String

/-- A `ScriptLogSummaryEntry`. -/
structure ScriptLogSummaryEntry where
  id : Option String
  mdmAssetId : Option String
  success : Option ℕ
  error : Option ℕ
  deriving DecidableEq

/-- `res` of the script log summary of a device. -/
structure SummaryAnswer where
  status : ℕ
  items : List ScriptLogSummaryEntry

/-- `res` of one script log. -/
structure ScriptLogAnswer where
  status : ℕ
  logError : Option String := none
  log : Option String := none
  summary : Option String := none

structure WorkflowResumeRef where
  pendingToken : String
  slugKey : String
  deriving DecidableEq

/-- The `data` of a `ScriptRunTracking` row. -/
structure ScriptRunData where
  workspaceSlug : String
  deviceId : String
  deviceName : Option String
  platformPath : String
  platformDeviceId : String
  assetId : String
  scriptName : String
  baselineSuccess : ℕ
  baselineError : ℕ
  workflowResume : Option WorkflowResumeRef
  deriving DecidableEq

/-- A `ScriptRunTracking` row. -/
structure ScriptRunTracking extends ScriptRunData where
  id : String
  attempts : ℕ
  deriving DecidableEq

/-- What an audit event says of a tracking row. -/
structure ScriptAudit where
  about : ScriptRunTracking
  action : String
  severity : String
  message : String
  deriving DecidableEq

/-- What the two functions await. -/
inductive ScriptCall
  | findLibraryEntry (workspaceSlug id : String)
  | resetDate
  | getDevice (platformPath platformDeviceId : String)
  | getScriptLogSummary (platformPath platformDeviceId : String)
  | getScriptLog (platformPath platformDeviceId logId : String)
  | putDevice (platformPath platformDeviceId : String) (scripts : List ScriptEntry)
  | createTracking (data : ScriptRunData)
  | listAutomationWorkspaces
  | findTracking (workspaceSlug : String)
  | getAutomationBearer (workspaceSlug : String)
  | resolveOrgBase (workspaceSlug : String)
  | updateTracking (id : String) (attempts : ℕ)
  | deleteTracking (id : String)
  | recordAuditEvent (workspaceSlug : String) (event : ScriptAudit)
  | resumeWorkflowPendingStep (ref : WorkflowResumeRef) (outcomeOk : Bool) (message : String)

/-- What a call is answered; a new row is answered by its id. -/
@[reducible] def ScriptCall.Answer : ScriptCall → Type
  | .findLibraryEntry .. => Option ActionLibraryEntry
  | .resetDate => String
  | .getDevice .. => DeviceAnswer
  | .getScriptLogSummary .. => SummaryAnswer
  | .getScriptLog .. => ScriptLogAnswer
  | .putDevice .. => ScriptPutAnswer
  | .createTracking _ => String
  | .listAutomationWorkspaces => List String
  | .findTracking _ => List ScriptRunTracking
  | .getAutomationBearer _ => Option String
  | .resolveOrgBase _ => String
  | .updateTracking .. => Unit
  | .deleteTracking _ => Unit
  | .recordAuditEvent .. => Unit
  | .resumeWorkflowPendingStep .. => Unit

/-- The signature of the calls. -/
@[reducible] def scriptSig : Sig where
  Call := ScriptCall
  Ret := ScriptCall.Answer

/-- An `async` function of the two modules. -/
abbrev Scripts (α : Type) : Type := Prog scriptSig JsError α

/-- A call and its answer. -/
abbrev ScriptMove : Type := Event scriptSig JsError

/-- `await` of one of the calls. -/
def askScript (c : ScriptCall) : Scripts (ScriptCall.Answer c) :=
  Prog.call (S := scriptSig) c

/-! ## The assigned scripts -/

/-- `v || fallback`. -/
def orDefault (v : Value) (fallback : String) : Value :=
  if v.truthy then v else .str fallback

/-- `s.id !== assetId`. -/
def isOther (assetId : String) (id : Value) : Bool :=
  !id.strictEq (.str assetId)

/-- The `loopTime` of an element, if the element loops and has one. -/
def keptLoopTime (s : Value) : Value :=
  if (s.member "type").strictEq (.str "loop") && !(s.member "loopTime").isNullish then
    s.member "loopTime"
  else .undefined

/-- `sanitized` of an element (lines 385–389), if it is kept. Only an object has
members, so what is none is passed over as well. -/
def sanitized (s : Value) : Option ScriptEntry :=
  if (s.member "id").truthy then
    some
      { id := s.member "id"
        type := orDefault (s.member "type") "once"
        resetDate := s.member "resetDate"
        arguments := orDefault (s.member "arguments") ""
        scope := orDefault (s.member "scope") "machine"
        loopTime := keptLoopTime s }
  else none

/-- `data?.data?.scripts` of an answer. -/
def DeviceAnswer.rawScripts (res : DeviceAnswer) : Value :=
  (res.data.member "data").member "scripts"

/-- `currentScripts` (lines 379–395): empty where the request has failed, and where
the loop throws. -/
def currentScripts (res : DeviceAnswer) : List ScriptEntry :=
  if res.status < 300 then (res.rawScripts.elements.getD []).filterMap sanitized else []

def fetchScriptLogSummaryEntry (platformPath platformDeviceId assetId : String) :
    Scripts (Option ScriptLogSummaryEntry) := do
  match ← (askScript (.getScriptLogSummary platformPath platformDeviceId)).attempt with
  | .error _ => return none
  | .ok res =>
    if 300 ≤ res.status then return none
    else return res.items.find? fun item => item.mdmAssetId = some assetId

/-- The entry of a script in an answer. -/
def summaryEntry (assetId : String) (r : Except JsError SummaryAnswer) :
    Option ScriptLogSummaryEntry :=
  match r with
  | .error _ => none
  | .ok res =>
    if 300 ≤ res.status then none
    else res.items.find? fun item => item.mdmAssetId = some assetId

/-- The parameters of `executeRunScript`. -/
structure RunScriptParams where
  workspaceSlug : String
  platform : String
  platformPath : String
  platformDeviceId : String
  libraryId : Option String
  deviceId : Option String := none
  deviceName : Option String := none
  workflowResume : Option WorkflowResumeRef := none
  deriving DecidableEq

def newEntry (entry : ActionLibraryEntry) (assetId resetDate : String) : ScriptEntry where
  id := .str assetId
  type := .str "once"
  resetDate := .str resetDate
  arguments := .str (entry.arguments.getD "")
  scope := .str (orElse entry.scope "machine")
  loopTime := .undefined

def merged (entry : ActionLibraryEntry) (assetId resetDate : String) (res : DeviceAnswer) :
    List ScriptEntry :=
  (currentScripts res).filter (fun s => isOther assetId s.id) ++ [newEntry entry assetId resetDate]

/-- The row that follows a dispatch. -/
def trackingData (params : RunScriptParams) (entry : ActionLibraryEntry) (assetId : String)
    (baseline : Option ScriptLogSummaryEntry) : ScriptRunData where
  workspaceSlug := params.workspaceSlug
  deviceId := params.deviceId.getD ""
  deviceName := params.deviceName
  platformPath := params.platformPath
  platformDeviceId := params.platformDeviceId
  assetId := assetId
  scriptName := orElse (some entry.name) assetId
  baselineSuccess := (baseline.bind ScriptLogSummaryEntry.success).getD 0
  baselineError := (baseline.bind ScriptLogSummaryEntry.error).getD 0
  workflowResume := params.workflowResume

/-- The dispatch with its tracking row (lines 406–430). -/
def putScripts (params : RunScriptParams) (entry : ActionLibraryEntry) (assetId : String)
    (scripts : List ScriptEntry) (baseline : Option ScriptLogSummaryEntry) :
    Scripts StepResult := do
  let res ← askScript (.putDevice params.platformPath params.platformDeviceId scripts)
  if 300 ≤ res.status then
    return ⟨false, "API returned " ++ toString res.status ++ ": " ++
      String.ofList (res.text.toList.take 200)⟩
  else
    let _ ← (askScript (.createTracking (trackingData params entry assetId baseline))).attempt
    return ⟨true, "Ran script '" ++ orElse (some entry.name) assetId ++
      "' directly on device (scope=" ++ orElse entry.scope "machine" ++ ")"⟩

/-- A script of the library is dispatched (lines 362–430). -/
def dispatchScript (params : RunScriptParams) (entry : ActionLibraryEntry) (assetId : String) :
    Scripts StepResult := do
  let resetDate ← askScript .resetDate
  let getRes ← askScript (.getDevice params.platformPath params.platformDeviceId)
  let baseline ← fetchScriptLogSummaryEntry params.platformPath params.platformDeviceId assetId
  putScripts params entry assetId (merged entry assetId resetDate getRes) baseline

def executeRunScript (params : RunScriptParams) : Scripts StepResult :=
  match truthy params.libraryId with
  | none => pure ⟨false, "No script selected from the Library"⟩
  | some libraryId => do
    match ← askScript (.findLibraryEntry params.workspaceSlug libraryId) with
    | none => return ⟨false, "Script library entry not found — it may have been deleted"⟩
    | some entry =>
      if platformPathSegment entry.platform ≠ some params.platformPath then
        return ⟨false, "'" ++ entry.name ++ "' is a " ++ entry.platform ++
          " script — this device is " ++ params.platform⟩
      else
        match truthy entry.assetId with
        | none => return ⟨false, "Script library entry is missing its Applivery script Asset ID"⟩
        | some assetId => dispatchScript params entry assetId

/-! ## Devices and their scripts -/

/-- One execution of a script: when it started and ended, counted in answered
calls, and whether it succeeded. -/
structure ScriptExecution where
  platformPath : String
  platformDeviceId : String
  assetId : String
  started : ℕ
  finished : ℕ
  ok : Bool
  deriving DecidableEq, Inhabited

/-- The execution is one of the script on the device. -/
def ScriptExecution.Of (x : ScriptExecution) (platformPath platformDeviceId assetId : String) :
    Prop :=
  x.platformPath = platformPath ∧ x.platformDeviceId = platformDeviceId ∧ x.assetId = assetId

instance (x : ScriptExecution) (platformPath platformDeviceId assetId : String) :
    Decidable (x.Of platformPath platformDeviceId assetId) :=
  inferInstanceAs (Decidable (_ ∧ _ ∧ _))

/-- The library, the scripts that are assigned to each device, the tracking rows
with every id that one has had, and the executions of the past and the future.
`appliesUnanswered` says what became of a write whose answer was lost. -/
structure ScriptStore where
  library : String → String → Option ActionLibraryEntry
  scripts : String × String → List Value := fun _ => []
  appliesUnanswered : Bool := false
  tracking : List ScriptRunTracking := []
  issued : List String := []
  executions : List ScriptExecution := []
  tick : ℕ := 0

/-- How often a script has ended on a device by a moment, with one result. -/
def ScriptStore.total (s : ScriptStore) (platformPath platformDeviceId assetId : String)
    (tick : ℕ) (ok : Bool) : ℕ :=
  s.executions.countP fun x =>
    x.Of platformPath platformDeviceId assetId ∧ x.finished ≤ tick ∧ x.ok = ok

/-- The totals of an entry, 0 where there is none. -/
def totalOf (entry : Option ScriptLogSummaryEntry) (ok : Bool) : ℕ :=
  (entry.bind (if ok then ScriptLogSummaryEntry.success else ScriptLogSummaryEntry.error)).getD 0

/-- The object that is sent for an entry. -/
def ScriptEntry.value (entry : ScriptEntry) : Value :=
  .obj [("id", entry.id), ("type", entry.type), ("resetDate", entry.resetDate),
    ("arguments", entry.arguments), ("scope", entry.scope), ("loopTime", entry.loopTime)]

/-- `PUT` has replaced the scripts of the device. -/
def ScriptStore.applied (s : ScriptStore) (r : Except JsError ScriptPutAnswer) : Bool :=
  match r with
  | .ok res => res.status < 300
  | .error _ => s.appliesUnanswered

/-- `GET` answers anything; an array of scripts is that of the device. The totals
of a summary are exact, and a new row has a new id. -/
def ScriptStore.may (s : ScriptStore) (c : ScriptCall) (r : Except JsError (ScriptCall.Answer c)) :
    Prop :=
  match (⟨c, r⟩ : ScriptMove) with
  | ⟨.findLibraryEntry slug id, .ok found⟩ => found = s.library slug id
  | ⟨.getDevice path deviceId, .ok res⟩ => res.status < 300 →
      ∀ scripts, res.rawScripts = .arr scripts → scripts = s.scripts (path, deviceId)
  | ⟨.getScriptLogSummary path deviceId, .ok res⟩ => res.status < 300 → ∀ assetId ok,
      totalOf (res.items.find? fun item => item.mdmAssetId = some assetId) ok =
        s.total path deviceId assetId s.tick ok
  | ⟨.createTracking _, .ok id⟩ => id ∉ s.issued
  | ⟨.findTracking slug, .ok rows⟩ =>
    rows = (s.tracking.filter fun row => row.workspaceSlug = slug).take 50
  | _ => True

/-- What an answered call leaves. -/
def ScriptStore.next (s : ScriptStore) (c : ScriptCall) (r : Except JsError (ScriptCall.Answer c)) :
    ScriptStore :=
  match (⟨c, r⟩ : ScriptMove) with
  | ⟨.putDevice path deviceId entries, r⟩ =>
    { s with
      scripts :=
        if s.applied r then
          Function.update s.scripts (path, deviceId) (entries.map ScriptEntry.value)
        else s.scripts
      tick := s.tick + 1 }
  | ⟨.createTracking data, .ok id⟩ =>
    { s with
      tracking := s.tracking ++ [{ data with id := id, attempts := 0 }]
      issued := s.issued ++ [id]
      tick := s.tick + 1 }
  | ⟨.updateTracking id attempts, .ok _⟩ =>
    { s with
      tracking := s.tracking.map fun row =>
        if row.id = id then { row with attempts := attempts } else row
      tick := s.tick + 1 }
  | ⟨.deleteTracking id, .ok _⟩ =>
    { s with
      tracking := s.tracking.filter fun row => row.id ≠ id
      tick := s.tick + 1 }
  | _ => { s with tick := s.tick + 1 }

/-- The devices and the tables as the functions see them. -/
def scriptWorld : World scriptSig JsError ScriptStore :=
  ⟨ScriptStore.may, ScriptStore.next⟩

/-! ## What is written -/

/-- `id`, `type`, `arguments`, `scope` and `loopTime` of a script. -/
def scriptView (s : Value) : Value × Value × Value × Value × Value :=
  (s.member "id", s.member "type", s.member "arguments", s.member "scope", s.member "loopTime")

/-- A script that is assigned besides the dispatched one. -/
def OtherScript (assetId : String) (s : Value) : Prop :=
  (s.member "id").truthy = true ∧ isOther assetId (s.member "id") = true

/-- A script that has all of its fields, and a loop time only if it loops. -/
structure Complete (s : Value) : Prop where
  type : (s.member "type").truthy = true
  arguments : (s.member "arguments").truthy = true ∨ s.member "arguments" = .str ""
  scope : (s.member "scope").truthy = true
  loopTime : s.member "loopTime" = .undefined ∨
    (s.member "type").strictEq (.str "loop") = true ∧ s.member "loopTime" ≠ .null

/-- The array of scripts has been read. -/
def DeviceAnswer.Readable (res : DeviceAnswer) : Prop :=
  res.status < 300 ∧ ∃ scripts, res.rawScripts = .arr scripts

variable {v : Value} {fallback : String}

theorem orDefault_eq_self (h : v.truthy = true ∨ v = .str fallback) : orDefault v fallback = v := by
  unfold orDefault
  rcases h with h | rfl
  · rw [if_pos h]
  · split_ifs <;> rfl

theorem truthy_orDefault (hfallback : fallback ≠ "") : (orDefault v fallback).truthy = true := by
  unfold orDefault
  split_ifs with h
  · exact h
  · exact decide_eq_true hfallback

theorem orDefault_cases (v : Value) (fallback : String) :
    (orDefault v fallback).truthy = true ∨ orDefault v fallback = .str fallback := by
  unfold orDefault
  split_ifs with h
  · exact .inl h
  · exact .inr rfl

theorem complete_congr {s s' : Value} (h : scriptView s' = scriptView s) (hs : Complete s') :
    Complete s := by
  simp only [scriptView, Prod.mk.injEq] at h
  obtain ⟨-, htype, harguments, hscope, hloop⟩ := h
  exact ⟨htype ▸ hs.type, harguments ▸ hs.arguments, hscope ▸ hs.scope,
    htype ▸ hloop ▸ hs.loopTime⟩

theorem strictEq_loop (h : v.strictEq (.str "loop") = true) : orDefault v "once" = v := by
  cases v with
  | str t =>
    refine orDefault_eq_self (.inl ?_)
    rw [show t = "loop" from of_decide_eq_true h]
    rfl
  | _ => cases h

theorem complete_sanitized {s : Value} {entry : ScriptEntry} (h : sanitized s = some entry) :
    Complete entry.value := by
  unfold sanitized at h
  split_ifs at h with hid
  obtain rfl := Option.some.inj h
  refine ⟨truthy_orDefault (by decide), orDefault_cases _ _, truthy_orDefault (by decide), ?_⟩
  show keptLoopTime s = .undefined ∨
    (orDefault (s.member "type") "once").strictEq (.str "loop") = true ∧ keptLoopTime s ≠ .null
  unfold keptLoopTime
  split_ifs with hloop
  · rw [Bool.and_eq_true] at hloop
    refine .inr ⟨by rw [strictEq_loop hloop.1]; exact hloop.1, fun hnull => ?_⟩
    rw [hnull] at hloop
    cases hloop.2
  · exact .inl rfl

theorem view_sanitized {s : Value} (hid : (s.member "id").truthy = true) (hs : Complete s) :
    ∃ entry, sanitized s = some entry ∧ entry.id = s.member "id" ∧
      scriptView entry.value = scriptView s := by
  refine ⟨_, by rw [sanitized, if_pos hid], rfl, ?_⟩
  have htype : orDefault (s.member "type") "once" = s.member "type" :=
    orDefault_eq_self (.inl hs.type)
  have harguments := orDefault_eq_self hs.arguments
  have hscope : orDefault (s.member "scope") "machine" = s.member "scope" :=
    orDefault_eq_self (.inl hs.scope)
  have hloop : keptLoopTime s = s.member "loopTime" := by
    unfold keptLoopTime
    split_ifs with h
    · rfl
    · rcases hs.loopTime with hundefined | ⟨hloop, hnull⟩
      · exact hundefined.symm
      · rw [hloop, Bool.true_and, Bool.not_eq_true', Bool.not_eq_false] at h
        cases hvalue : s.member "loopTime" with
        | null => exact absurd hvalue hnull
        | undefined => rfl
        | _ =>
          rw [hvalue] at h
          cases h
  show (s.member "id", orDefault _ _, orDefault _ _, orDefault _ _, keptLoopTime s) = _
  rw [htype, harguments, hscope, hloop]
  rfl

/-- Of an array that was read the others are written, each as `sanitized` makes
it; of any other answer none is. -/
theorem entries_of_readable {assetId resetDate : String} {entry : ActionLibraryEntry}
    {res : DeviceAnswer} {e : ScriptEntry} : e ∈ merged entry assetId resetDate res ↔
      e = newEntry entry assetId resetDate ∨ isOther assetId e.id = true ∧ res.status < 300 ∧
        ∃ scripts, res.rawScripts = .arr scripts ∧ ∃ s ∈ scripts, sanitized s = some e := by
  have hnone : ∀ v : Value, (∀ scripts, v ≠ .arr scripts) → v.elements.getD [] = [] := by
    intro v hv
    cases v with
    | arr l => exact absurd rfl (hv l)
    | _ => rfl
  rw [merged, mem_append, mem_singleton, mem_filter, or_comm, and_comm]
  refine or_congr_right (and_congr_right fun _ => ?_)
  unfold currentScripts
  split_ifs with hstatus
  · rw [mem_filterMap]
    refine ⟨fun ⟨s, hs, he⟩ => ⟨hstatus, ?_⟩, ?_⟩
    · by_cases harr : ∃ scripts, res.rawScripts = .arr scripts
      · obtain ⟨scripts, hscripts⟩ := harr
        rw [hscripts] at hs
        exact ⟨scripts, hscripts, s, hs, he⟩
      · rw [hnone _ fun scripts h => harr ⟨scripts, h⟩] at hs
        cases hs
    · rintro ⟨-, scripts, hscripts, s, hs, he⟩
      exact ⟨s, by rw [hscripts]; exact hs, he⟩
  · exact iff_of_false not_mem_nil fun h => hstatus h.1

/-! ## One run -/

/-- The device that is addressed. -/
def RunScriptParams.device (params : RunScriptParams) : String × String :=
  (params.platformPath, params.platformDeviceId)

/-- The asset that the library has for a request. -/
def ScriptStore.asset (s : ScriptStore) (params : RunScriptParams) : Option String :=
  (((truthy params.libraryId).bind (s.library params.workspaceSlug)).bind
    ActionLibraryEntry.assetId).bind fun assetId => truthy (some assetId)

/-- The answers of `GET` on the device. -/
def deviceAnswers (es : List ScriptMove) : List DeviceAnswer :=
  es.filterMap fun
    | ⟨.getDevice .., .ok res⟩ => some res
    | _ => none

/-- What was written, and how it was answered. -/
def putAnswers (es : List ScriptMove) : List (List ScriptEntry × Except JsError ScriptPutAnswer) :=
  es.filterMap fun
    | ⟨.putDevice _ _ entries, r⟩ => some (entries, r)
    | _ => none

/-- The other scripts of the device are as they were, and nothing is written on
the strength of an array that was not read. -/
structure Preserved (s : ScriptStore) (params : RunScriptParams) (assetId : String)
    (result : Except JsError StepResult) (es : List ScriptMove) : Prop where
  others : ∀ script ∈ s.scripts params.device, OtherScript assetId script →
    ∃ script' ∈ (scriptWorld.after s es).scripts params.device,
      scriptView script' = scriptView script
  unread : (∀ res ∈ deviceAnswers es, ¬res.Readable) →
    putAnswers es = [] ∧ ∀ detail, result ≠ .ok ⟨true, detail⟩

/-- The array was read, if it was asked for; and if the new one has replaced it,
the other scripts were complete. -/
def ReadInFull (s : ScriptStore) (params : RunScriptParams) (assetId : String)
    (es : List ScriptMove) : Prop :=
  ∀ res ∈ deviceAnswers es, res.Readable ∧
    ((∃ put ∈ putAnswers es, s.applied put.2 = true) →
      ∀ script ∈ s.scripts params.device, OtherScript assetId script → Complete script)

/-- The call has neither read nor written, and failed. -/
structure Unsent (s : ScriptStore) (result : Except JsError StepResult)
    (c : ScriptStore × List ScriptMove) : Prop where
  answers : deviceAnswers c.2 = []
  puts : putAnswers c.2 = []
  scripts : c.1.scripts = s.scripts
  result : ∀ detail, result ≠ .ok ⟨true, detail⟩

/-- The call has read an answer and written what it makes of it. -/
structure Sent (s : ScriptStore) (params : RunScriptParams) (assetId : String)
    (c : ScriptStore × List ScriptMove) : Prop where
  sent : ∃ entry resetDate res put, deviceAnswers c.2 = [res] ∧
    (∀ scripts, res.status < 300 → res.rawScripts = .arr scripts →
      scripts = s.scripts params.device) ∧
    putAnswers c.2 = [(merged entry assetId resetDate res, put)] ∧
    c.1.scripts =
      if s.applied put then
        Function.update s.scripts params.device
          ((merged entry assetId resetDate res).map ScriptEntry.value)
      else s.scripts

section Runs

variable {s : ScriptStore} {params : RunScriptParams} {assetId : String}
  {c : ScriptStore × List ScriptMove}

/-- The summary is asked for, and what follows has the entry of the answer. -/
theorem meets_fetchScriptLogSummaryEntry {α τ : Type} {W : World scriptSig JsError τ}
    {ok : τ → ScriptCall → Prop} {path deviceId : String}
    {f : Option ScriptLogSummaryEntry → Scripts α} {Q : Except JsError α → τ → Prop} {d : τ}
    (hok : ok d (.getScriptLogSummary path deviceId))
    (h : ∀ r, (f (summaryEntry assetId r)).Meets W ok
      (W.next d (.getScriptLogSummary path deviceId) r) Q) :
    (fetchScriptLogSummaryEntry path deviceId assetId >>= f).Meets W ok d Q := by
  refine ⟨hok, fun r _ => ?_⟩
  cases r with
  | error e => exact h (.error e)
  | ok res =>
    have hf := h (.ok res)
    show Prog.Meets _ _ ((if 300 ≤ res.status then (pure none : Scripts _)
      else pure (res.items.find? fun item => item.mdmAssetId = some assetId)) >>= f) _ _
    unfold summaryEntry at hf
    dsimp only at hf
    split_ifs at hf ⊢
    · exact hf
    · exact hf

variable {entry : ActionLibraryEntry} {resetDate : String} {res : DeviceAnswer}

theorem meets_putScripts
    (baseline : Option ScriptLogSummaryEntry) (hanswers : deviceAnswers c.2 = [res])
    (hputs : putAnswers c.2 = []) (hscripts : c.1.scripts = s.scripts)
    (happlied : c.1.appliesUnanswered = s.appliesUnanswered)
    (hread : ∀ scripts, res.status < 300 → res.rawScripts = .arr scripts →
      scripts = s.scripts params.device) :
    (putScripts params entry assetId (merged entry assetId resetDate res) baseline).Meets
      scriptWorld.recorded (fun _ _ => True) c fun _ c' => Sent s params assetId c' := by
  have hsent : ∀ put, Sent s params assetId (scriptWorld.recorded.next c
      (.putDevice params.platformPath params.platformDeviceId
        (merged entry assetId resetDate res)) put) := fun put => by
    have happly : c.1.applied put = s.applied put := by
      cases put with
      | ok res => rfl
      | error e => exact happlied
    refine ⟨entry, resetDate, res, put, ?_, hread, ?_, ?_⟩
    · exact filterMap_append.trans (by rw [← deviceAnswers, hanswers]; rfl)
    · exact filterMap_append.trans (by rw [← putAnswers, hputs]; rfl)
    · show (if c.1.applied put = true then _ else c.1.scripts) = _
      rw [happly, hscripts]
      rfl
  refine Prog.Meets.call_bind trivial (fun e _ => hsent _) fun put _ => ?_
  split_ifs
  · exact hsent _
  · refine Prog.Meets.bind (R := fun _ c' => Sent s params assetId c')
      (Prog.Meets.attempt ⟨trivial, fun r _ => ?_⟩) fun _ _ h => h
    obtain ⟨entry, resetDate, res, put, h₁, h₂, h₃, h₄⟩ := (hsent (.ok put)).sent
    refine ⟨entry, resetDate, res, put, filterMap_append.trans ?_, h₂,
      filterMap_append.trans ?_, ?_⟩
    · rw [← deviceAnswers, h₁]
      rfl
    · rw [← putAnswers, h₃]
      rfl
    · cases r <;> exact h₄

/-- **Step lemma**: a request is refused, or what it has read is written back. -/
theorem meets_executeRunScript (s : ScriptStore) (params : RunScriptParams) :
    (executeRunScript params).Meets scriptWorld.recorded (fun _ _ => True) (s, [])
      fun result c => Unsent s result c ∨
        ∃ assetId, s.asset params = some assetId ∧ Sent s params assetId c := by
  unfold executeRunScript
  cases hlibrary : truthy params.libraryId with
  | none => exact .inl ⟨rfl, rfl, rfl, by simp⟩
  | some libraryId =>
    refine Prog.Meets.call_bind trivial (fun e _ => .inl ⟨rfl, rfl, rfl, by simp⟩) fun found hfound => ?_
    cases found with
    | none => exact .inl ⟨rfl, rfl, rfl, by simp⟩
    | some entry =>
      dsimp only
      split_ifs
      · exact .inl ⟨rfl, rfl, rfl, by simp⟩
      · cases hasset : truthy entry.assetId with
        | none => exact .inl ⟨rfl, rfl, rfl, by simp⟩
        | some assetId =>
          have hknown : s.asset params = some assetId := by
            have hentry : s.library params.workspaceSlug libraryId = some entry := Eq.symm hfound
            unfold ScriptStore.asset
            rw [hlibrary, Option.bind_some, hentry, Option.bind_some]
            cases hid : entry.assetId with
            | none =>
              rw [hid] at hasset
              cases hasset
            | some id => rwa [hid] at hasset
          refine Prog.Meets.call_bind trivial (fun e _ => .inl ⟨rfl, rfl, rfl, by simp⟩)
            fun resetDate _ => ?_
          refine Prog.Meets.call_bind trivial (fun e _ => .inl ⟨rfl, rfl, rfl, by simp⟩)
            fun res hres => ?_
          have hread : ∀ scripts, res.status < 300 → res.rawScripts = .arr scripts →
              scripts = s.scripts params.device := fun scripts hstatus harr => hres hstatus _ harr
          refine meets_fetchScriptLogSummaryEntry trivial fun summary => ?_
          exact (meets_putScripts _ (by cases summary <;> rfl) (by cases summary <;> rfl)
            (by cases summary <;> rfl) (by cases summary <;> rfl) hread).mono
            fun _ _ h => .inr ⟨assetId, hknown, h⟩

theorem orElse_ne_empty {text : Option String} {fallback : String} (h : fallback ≠ "") :
    orElse text fallback ≠ "" := by
  unfold orElse
  split
  · split_ifs with hempty
    · exact h
    · exact hempty
  · exact h

theorem complete_merged
    {e : ScriptEntry} (h : e ∈ merged entry assetId resetDate res) : Complete e.value := by
  rcases entries_of_readable.mp h with rfl | ⟨-, -, scripts, -, s, -, hsanitized⟩
  · refine ⟨rfl, ?_, ?_, .inl rfl⟩
    · by_cases hempty : entry.arguments.getD "" = ""
      · exact .inr (congrArg Value.str hempty)
      · exact .inl (decide_eq_true hempty)
    · exact decide_eq_true (orElse_ne_empty (by decide))
  · exact complete_sanitized hsanitized

end Runs

/-! ## A device with a looping script -/

/-- The table and the devices: `GET` is answered by `api` of the scripts. -/
def ScriptStore.reply (api : List Value → DeviceAnswer) (s : ScriptStore) :
    (c : ScriptCall) → Except JsError (ScriptCall.Answer c)
  | .findLibraryEntry slug id => .ok (s.library slug id)
  | .resetDate => .ok "2026-01-01T00:00:00.000Z"
  | .getDevice path deviceId => .ok (api (s.scripts (path, deviceId)))
  | .getScriptLogSummary .. => .error ⟨"offline"⟩
  | .getScriptLog .. => .ok { status := 404 }
  | .putDevice .. => .ok ⟨200, ""⟩
  | .createTracking _ => .error ⟨"no table"⟩
  | .listAutomationWorkspaces => .ok []
  | .findTracking slug => .ok ((s.tracking.filter fun row => row.workspaceSlug = slug).take 50)
  | .getAutomationBearer _ => .ok none
  | .resolveOrgBase _ => .ok ""
  | .updateTracking .. | .deleteTracking _ | .recordAuditEvent .. | .resumeWorkflowPendingStep .. =>
    .ok ()

/-- The body that shows an array of scripts. -/
def shownScripts (scripts : List Value) : DeviceAnswer :=
  ⟨200, .obj [("data", .obj [("scripts", .arr scripts)])]⟩

/-- An answer of a server that fails. -/
def failedGet (_ : List Value) : DeviceAnswer :=
  ⟨503, .null⟩

/-- A script that a policy runs every hour. -/
def loopScript : Value :=
  .obj [("id", .str "inventory"), ("type", .str "loop"), ("arguments", .str ""),
    ("scope", .str "machine"), ("loopTime", .num 60)]

/-- A library with a script for Macs, and a Mac with another one. -/
def scriptedMac : ScriptStore where
  library _ id := if id = "lib1" then some ⟨"Cleanup", "macos", some "cleanup", none, none⟩ else none
  scripts key := if key = ("apple", "mac1") then [loopScript] else []

/-- The script of the library is to run on the Mac. -/
def runCleanup : RunScriptParams where
  workspaceSlug := "acme"
  platform := "macos"
  platformPath := "apple"
  platformDeviceId := "mac1"
  libraryId := some "lib1"

/-- The calls of the request, and its result. -/
def cleanupRun (api : List Value → DeviceAnswer) : List ScriptMove × Except JsError StepResult :=
  (executeRunScript runCleanup).execute scriptWorld (ScriptStore.reply api) scriptedMac

theorem asset_runCleanup : scriptedMac.asset runCleanup = some "cleanup" := by
  decide

theorem accepts_shownScripts : scriptWorld.Accepts scriptedMac (cleanupRun shownScripts).1 := by
  refine ⟨rfl, trivial, fun _ scripts harr => ?_, trivial, trivial, trivial, trivial⟩
  exact (Value.arr.inj harr).symm

theorem accepts_failedGet : scriptWorld.Accepts scriptedMac (cleanupRun failedGet).1 :=
  ⟨rfl, trivial, fun h => absurd h (by decide), trivial, trivial, trivial, trivial⟩

theorem complete_loopScript : Complete loopScript :=
  ⟨by decide, .inr rfl, by decide, .inr ⟨by decide, Value.noConfusion⟩⟩

end AppliverySoar.Workflows
