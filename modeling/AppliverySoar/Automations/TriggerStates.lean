import AppliverySoar.Async.Pool
import AppliverySoar.Automations.Paths

/-!
# The firing state of a trigger

`fireTrigger` marks a device of a trigger active after it has fetched the fleet
and launched the workflow; `resolveTrigger` (triggers.service.ts, lines 269–305)
marks it resolved after the fetch alone. `updateTrigger` and `deleteTrigger`
(lines 55–87) edit the triggers and do not touch the marks. Requests run in any
order, one awaited call at a time.

Results:
* `cleared_of_orderly`: where a fire marks a device active only while its trigger
  exists and before any resolve received later has marked it, and a trigger is
  deleted only while none of its marks is active, a resolve that was received
  after every fire has the last word, and no active mark outlives its trigger.
* `fire_overtaken`: a fire received first that marks last, and a deleted trigger
  whose mark stays active.
-/

namespace AppliverySoar.Automations

open Async Access Compliance Workflows List
open Js (Value Runtime)

variable {E : Evaluator}

/-! ## Rows and calls -/

/-- `status` of a `TriggerFireState` row. -/
inductive FireStatus
  | active
  | resolved
  deriving DecidableEq

/-- The unique key of a `TriggerFireState` row. -/
structure FireStateKey where
  workspaceSlug : String
  triggerId : String
  deviceId : String
  deriving DecidableEq

/-- A `TriggerFireState` row. Times are numbers of calls. -/
structure TriggerFireState extends FireStateKey where
  status : FireStatus
  lastFiredAt : ℕ
  resolvedAt : Option ℕ
  fireCount : ℕ
  lastPayload : Value

structure TriggerPayload where
  name : String
  workflowId : String
  enabled : Option Bool := none
  openCase : Option Bool := none
  caseSeverity : Option String := none
  deviceLookupField : Option String := none

/-- The row that `updateTrigger` leaves (lines 61–65). -/
def Trigger.edit (trigger : Trigger) (payload : TriggerPayload) : Trigger :=
  { trigger with
    name := payload.name
    workflowId := payload.workflowId
    enabled := payload.enabled.getD true
    openCase := payload.openCase.getD false
    caseSeverity := payload.caseSeverity.getD "medium"
    deviceLookupField := payload.deviceLookupField }

/-- What a request for a trigger awaits. `receive` is its arrival. -/
inductive TriggerCall (E : Evaluator)
  | receive
  | automation (c : AutomationCall E)
  | findWorkspaceTrigger (workspaceSlug triggerId : String)
  | updateTrigger (triggerId : String) (payload : TriggerPayload)
  | deleteTrigger (triggerId : String)
  | upsertResolved (workspaceSlug triggerId deviceId : String) (lastPayload : Value)

/-- The answers. -/
@[reducible] def TriggerCall.Answer : TriggerCall E → Type
  | .receive => Unit
  | .automation c => AutomationCall.Answer c
  | .findWorkspaceTrigger .. => Option Trigger
  | .updateTrigger .. => Trigger
  | .deleteTrigger _ => Unit
  | .upsertResolved .. => Unit

/-- The signature of the calls. -/
@[reducible] def triggerSig (E : Evaluator) : Sig where
  Call := TriggerCall E
  Ret := TriggerCall.Answer

/-- An `async` function of triggers.service.ts. -/
abbrev TriggerProg (E : Evaluator) (α : Type) : Type := Prog (triggerSig E) ServiceError α

/-- `await` of one of the calls. -/
def askTrigger (c : TriggerCall E) : TriggerProg E (TriggerCall.Answer c) :=
  Prog.call (S := triggerSig E) c

/-- The calls that the launch paths make too. -/
def automationCalls (E : Evaluator) : SigHom (automationSig E) (triggerSig E) where
  call := .automation
  answer _ a := a

/-- `await` of one of those. -/
def askPath (c : AutomationCall E) : TriggerProg E (AutomationCall.Answer c) :=
  askTrigger (.automation c)

/-- `throw new HttpError(status, detail)`. -/
def failTrigger {α : Type} (status : ℕ) (detail : String) : TriggerProg E α :=
  Prog.ret (.error (.http ⟨status, detail⟩))

/-! ## The functions -/

/-- `resolveTrigger`: the name of the device that has been cleared. -/
def resolveTrigger (rt : Runtime) (triggerId secret : String) (body : Value) :
    TriggerProg E String := do
  match ← askPath (.findTrigger triggerId) with
  | none => failTrigger 404 "Unknown trigger"
  | some trigger =>
    if secret ≠ trigger.secret then failTrigger 401 "Invalid trigger secret"
    else if !trigger.enabled then failTrigger 403 "This trigger is disabled"
    else
      match truthy trigger.deviceLookupField with
      | none => failTrigger 400 "This trigger has no Device lookup field configured — set one (Settings > Inbound Webhooks) so a Resolved call knows which device's state to clear."
      | some field =>
        let slugKey := trigger.workspaceSlug
        match truthy (← askPath (.getAutomationBearer slugKey)) with
        | none => failTrigger 503 "No automation credential configured for this workspace — set one in Settings > Workspace Automation."
        | some authorization =>
          let devices ← askPath (.getFleet authorization slugKey)
          match resolveTriggerDevice rt trigger.deviceLookupField body devices with
          | none =>
            askPath (.recordAuditEvent slugKey
              ⟨"trigger", "trigger_resolved_no_device", "warning", "trigger", triggerId⟩)
            failTrigger 404 ("No device matched on field '" ++ field ++ "'")
          | some matchedDevice =>
            askTrigger (.upsertResolved slugKey triggerId matchedDevice.id body)
            askPath (.recordAuditEvent slugKey
              ⟨"trigger", "trigger_resolved", "info", "device", matchedDevice.id⟩)
            askPath (.triggerEventDrivenReEvaluation slugKey matchedDevice.serialNumber)
            return matchedDevice.displayName

def updateTrigger (workspaceSlug triggerId : String) (payload : TriggerPayload) :
    TriggerProg E Trigger := do
  match ← askPath (.findStoredWorkflow workspaceSlug payload.workflowId) with
  | none => failTrigger 400 "Linked workflow not found"
  | some _ =>
    match ← askTrigger (.findWorkspaceTrigger workspaceSlug triggerId) with
    | none => failTrigger 404 "Trigger not found"
    | some _ =>
      let updated ← askTrigger (.updateTrigger triggerId payload)
      askPath (.recordAuditEvent workspaceSlug
        ⟨"trigger", "trigger_updated", "info", "trigger", triggerId⟩)
      return updated

def deleteTrigger (workspaceSlug triggerId : String) : TriggerProg E Unit := do
  match ← askTrigger (.findWorkspaceTrigger workspaceSlug triggerId) with
  | none => failTrigger 404 "Trigger not found"
  | some _ =>
    askTrigger (.deleteTrigger triggerId)
    askPath (.recordAuditEvent workspaceSlug
      ⟨"trigger", "trigger_deleted", "warning", "trigger", triggerId⟩)

/-! ## The store -/

/-- The rows that the launch paths read, and the firing states. -/
structure TriggerStore (E : Evaluator) where
  base : Store E
  states : List TriggerFireState := []
  tick : ℕ := 0

/-- `prisma.triggerFireState.findUnique` of a key. -/
def findState (states : List TriggerFireState) (k : FireStateKey) : Option TriggerFireState :=
  states.find? fun row => row.toFireStateKey = k

/-- `prisma.triggerFireState.upsert`. -/
def upsertState (states : List TriggerFireState) (k : FireStateKey)
    (update : TriggerFireState → TriggerFireState) (create : TriggerFireState) :
    List TriggerFireState :=
  if states.any fun row => row.toFireStateKey = k then
    states.map fun row => if row.toFireStateKey = k then update row else row
  else states ++ [create]

/-- The upsert of `fireTrigger` (lines 204–212). -/
def markFired (states : List TriggerFireState) (k : FireStateKey) (now : ℕ) (lastPayload : Value) :
    List TriggerFireState :=
  upsertState states k
    (fun row => { row with
      status := .active
      lastFiredAt := now
      resolvedAt := none
      fireCount := row.fireCount + 1
      lastPayload := lastPayload })
    ⟨k, .active, now, none, 1, lastPayload⟩

/-- The upsert of `resolveTrigger` (lines 298–308). -/
def markResolved (states : List TriggerFireState) (k : FireStateKey) (now : ℕ)
    (lastPayload : Value) : List TriggerFireState :=
  upsertState states k
    (fun row => { row with
      status := .resolved
      resolvedAt := some now
      lastPayload := lastPayload })
    ⟨k, .resolved, 0, some now, 0, lastPayload⟩

/-- Reads answer what is stored; a row that is updated or deleted has to be
there. -/
def TriggerStore.may (s : TriggerStore E) (c : TriggerCall E)
    (r : Except ServiceError (TriggerCall.Answer c)) : Prop :=
  match (⟨c, r⟩ : Event (triggerSig E) ServiceError) with
  | ⟨.automation (.updateTriggerFired id), .ok _⟩ => ∃ t ∈ s.base.triggers, t.id = id
  | ⟨.automation c, .ok a⟩ => s.base.Answers c a
  | ⟨.findWorkspaceTrigger slug id, .ok found⟩ =>
    found = s.base.triggers.find? fun t => t.workspaceSlug = slug && t.id = id
  | ⟨.updateTrigger id payload, .ok t⟩ =>
    ∃ old ∈ s.base.triggers, old.id = id ∧ t = old.edit payload
  | ⟨.deleteTrigger id, .ok _⟩ => ∃ t ∈ s.base.triggers, t.id = id
  | _ => True

/-- The triggers after an answered call. -/
def TriggerStore.triggersNext (s : TriggerStore E) (e : Event (triggerSig E) ServiceError) :
    List Trigger :=
  match e with
  | ⟨.updateTrigger id payload, .ok _⟩ =>
    s.base.triggers.map fun t => if t.id = id then t.edit payload else t
  | ⟨.deleteTrigger id, .ok _⟩ => s.base.triggers.filter fun t => t.id ≠ id
  | _ => s.base.triggers

/-- The firing states after an answered call. -/
def TriggerStore.statesNext (s : TriggerStore E) (e : Event (triggerSig E) ServiceError) :
    List TriggerFireState :=
  match e with
  | ⟨.automation (.upsertTriggerFireState slug triggerId deviceId payload), .ok _⟩ =>
    markFired s.states ⟨slug, triggerId, deviceId⟩ s.tick payload
  | ⟨.upsertResolved slug triggerId deviceId payload, .ok _⟩ =>
    markResolved s.states ⟨slug, triggerId, deviceId⟩ s.tick payload
  | _ => s.states

/-- What an answered call leaves. -/
def TriggerStore.next (s : TriggerStore E) (c : TriggerCall E)
    (r : Except ServiceError (TriggerCall.Answer c)) : TriggerStore E where
  base := { s.base with triggers := s.triggersNext ⟨c, r⟩ }
  states := s.statesNext ⟨c, r⟩
  tick := s.tick + 1

/-- The requests. -/
inductive TriggerTask
  | fire (triggerId secret : String) (body : Value)
  | resolve (triggerId secret : String) (body : Value)
  | update (workspaceSlug triggerId : String) (payload : TriggerPayload)
  | delete (workspaceSlug triggerId : String)

/-- What a request runs, from its arrival on. -/
def TriggerTask.body (E : Evaluator) (rt : Runtime) (task : TriggerTask) : TriggerProg E Unit := do
  askTrigger .receive
  match task with
  | .fire triggerId secret body =>
    let _ ← (fireTrigger (E := E) rt triggerId secret body).embed (automationCalls E)
  | .resolve triggerId secret body =>
    let _ ← resolveTrigger (E := E) rt triggerId secret body
  | .update workspaceSlug triggerId payload =>
    let _ ← updateTrigger (E := E) workspaceSlug triggerId payload
  | .delete workspaceSlug triggerId => deleteTrigger workspaceSlug triggerId

/-- The requests over the store. -/
def triggerSystem (E : Evaluator) (rt : Runtime) :
    System (triggerSig E) ServiceError (TriggerStore E) TriggerTask where
  world := ⟨TriggerStore.may, TriggerStore.next⟩
  body := TriggerTask.body E rt
  starts _ _ := []

/-- A label of a run. -/
abbrev TriggerLabel (E : Evaluator) := Label (triggerSig E) ServiceError TriggerTask

/-! ## Statements -/

/-- The event marks the device of the trigger active. -/
def FireMarks (k : FireStateKey) (e : Event (triggerSig E) ServiceError) : Prop :=
  ∃ payload, e = ⟨.automation (.upsertTriggerFireState k.workspaceSlug k.triggerId k.deviceId
    payload), .ok ()⟩

/-- The event marks it resolved. -/
def ResolveMarks (k : FireStateKey) (e : Event (triggerSig E) ServiceError) : Prop :=
  ∃ payload, e = ⟨.upsertResolved k.workspaceSlug k.triggerId k.deviceId payload, .ok ()⟩

/-- When the request of a thread was received: the place of its first call in the
trace. -/
def receivedAt (tr : List (TriggerLabel E)) (thread : ℕ) : ℕ :=
  tr.findIdx fun l => l.thread = thread

/-- Once a resolve has been answered that was received after every fire that has
been answered, the state is resolved. -/
def LastResolveWins (tr : List (TriggerLabel E)) (s : TriggerStore E) : Prop :=
  ∀ k, ∀ l ∈ tr, ResolveMarks k l.event →
    (∀ f ∈ tr, FireMarks k f.event → receivedAt tr f.thread < receivedAt tr l.thread) →
    ∃ row, findState s.states k = some row ∧ row.status = .resolved

/-- No firing state is active whose trigger does not exist. -/
def TriggerStore.NoOrphan (s : TriggerStore E) : Prop :=
  ∀ row ∈ s.states, row.status = .active → ∃ t ∈ s.base.triggers, t.id = row.triggerId

/-- A fire marks a device active while its trigger exists and before any resolve
that was received later has marked it; a trigger is deleted while none of its
states is active. -/
def orderly (tr : List (TriggerLabel E)) (s : TriggerStore E) (l : TriggerLabel E) : Prop :=
  match l.event with
  | ⟨.automation (.upsertTriggerFireState slug triggerId deviceId _), .ok _⟩ =>
    (∃ t ∈ s.base.triggers, t.id = triggerId) ∧ ∀ r ∈ tr,
      ResolveMarks ⟨slug, triggerId, deviceId⟩ r.event →
      receivedAt tr r.thread < receivedAt tr l.thread
  | ⟨.deleteTrigger triggerId, .ok _⟩ =>
    ∀ row ∈ s.states, row.triggerId = triggerId → row.status = .resolved
  | _ => True

/-! ## One row -/

section Rows

variable {states : List TriggerFireState} {k k' : FireStateKey} {create : TriggerFireState}
  {update : TriggerFireState → TriggerFireState}

theorem findState_map (hupdate : ∀ row, (update row).toFireStateKey = row.toFireStateKey) :
    findState (states.map fun row => if row.toFireStateKey = k then update row else row) k' =
      (findState states k').map fun row => if row.toFireStateKey = k then update row else row := by
  unfold findState
  rw [find?_map]
  congr 2
  funext row
  by_cases hk : row.toFireStateKey = k <;> simp [hk, hupdate]

theorem findState_upsert (hupdate : ∀ row, (update row).toFireStateKey = row.toFireStateKey)
    (hcreate : create.toFireStateKey = k) :
    findState (upsertState states k update create) k' =
      if k' = k then some ((findState states k).elim create update) else findState states k' := by
  unfold upsertState
  split_ifs with hany hk hk
  · subst hk
    rw [findState_map hupdate]
    obtain ⟨row, hmem, hrow⟩ := any_eq_true.mp hany
    obtain ⟨found, hfound⟩ := Option.isSome_iff_exists.mp
      (find?_isSome.mpr ⟨row, hmem, hrow⟩ : (findState states k').isSome)
    have hkey : found.toFireStateKey = k' := by simpa using find?_some hfound
    rw [show findState states k' = some found from hfound]
    simp [hkey]
  · rw [findState_map hupdate]
    cases hfound : findState states k' with
    | none => rfl
    | some row =>
      have hkey : row.toFireStateKey = k' := by simpa using find?_some hfound
      simp [hkey, hk]
  · subst hk
    have hnone : findState states k' = none :=
      find?_eq_none.mpr fun row hmem hrow => hany (any_eq_true.mpr ⟨row, hmem, hrow⟩)
    unfold findState at hnone ⊢
    rw [find?_append, hnone]
    simp [hcreate]
  · unfold findState
    rw [find?_append]
    have hne : create.toFireStateKey ≠ k' := fun h => hk (h.symm.trans hcreate)
    simp [hne]

/-- A row after an upsert is the one of its key, or was there before. -/
theorem mem_upsertState {row : TriggerFireState} (h : row ∈ upsertState states k update create) :
    (row = create ∨ ∃ old ∈ states, old.toFireStateKey = k ∧ row = update old) ∨ row ∈ states := by
  unfold upsertState at h
  split_ifs at h
  · obtain ⟨old, hold, rfl⟩ := mem_map.mp h
    split_ifs with hk
    · exact .inl (.inr ⟨old, hold, hk, rfl⟩)
    · exact .inr hold
  · rcases mem_append.mp h with h | h
    · exact .inr h
    · exact .inl (.inl (mem_singleton.mp h))

theorem findState_markResolved (now : ℕ) (payload : Value) :
    ∃ row, findState (markResolved states k now payload) k = some row ∧ row.status = .resolved := by
  refine ⟨_, (findState_upsert (fun _ => by rfl) (by rfl)).trans (if_pos rfl), ?_⟩
  cases findState states k <;> rfl

/-- What is marked for another device or trigger leaves the row alone. -/
theorem findState_mark_of_ne {now : ℕ} {payload : Value} (h : k' ≠ k) :
    findState (markFired states k now payload) k' = findState states k' ∧
      findState (markResolved states k now payload) k' = findState states k' :=
  ⟨(findState_upsert (fun _ => by rfl) (by rfl)).trans (if_neg h),
    (findState_upsert (fun _ => by rfl) (by rfl)).trans (if_neg h)⟩

end Rows

/-! ## Steps -/

section Steps

variable {s : TriggerStore E} {e : Event (triggerSig E) ServiceError} {k : FireStateKey}

/-- **Step lemma**: a state changes where it is marked. -/
theorem findState_next (hfire : ¬FireMarks k e) (hresolve : ¬ResolveMarks k e) :
    findState (s.next e.call e.answer).states k = findState s.states k := by
  show findState (s.statesNext e) k = _
  unfold TriggerStore.statesNext
  split
  · next slug triggerId deviceId payload _ =>
    refine (findState_mark_of_ne fun hk => hfire ⟨payload, ?_⟩).1
    rw [hk]
  · next slug triggerId deviceId payload _ =>
    refine (findState_mark_of_ne fun hk => hresolve ⟨payload, ?_⟩).2
    rw [hk]
  · rfl

theorem findState_next_resolved (h : ResolveMarks k e) :
    ∃ row, findState (s.next e.call e.answer).states k = some row ∧ row.status = .resolved := by
  obtain ⟨payload, rfl⟩ := h
  exact findState_markResolved s.tick payload

theorem trigger_next {id : String} (hid : ∃ t ∈ s.base.triggers, t.id = id)
    (hkeep : e ≠ ⟨.deleteTrigger id, .ok ()⟩) :
    ∃ t ∈ (s.next e.call e.answer).base.triggers, t.id = id := by
  obtain ⟨t, ht, rfl⟩ := hid
  show ∃ t' ∈ s.triggersNext e, t'.id = t.id
  unfold TriggerStore.triggersNext
  split
  · next id payload _ =>
    refine ⟨_, mem_map_of_mem ht, ?_⟩
    split_ifs <;> rfl
  · next id _ =>
    refine ⟨t, mem_filter.mpr ⟨ht, ?_⟩, rfl⟩
    exact decide_eq_true fun heq => hkeep (by rw [heq])
  · exact ⟨t, ht, rfl⟩

/-- **Step lemma**: an orderly step leaves no orphan. -/
theorem noOrphan_next {tr : List (TriggerLabel E)} {l : TriggerLabel E} (h : s.NoOrphan)
    (horderly : orderly tr s l) : (s.next l.event.call l.event.answer).NoOrphan := by
  obtain ⟨i, task, past, e⟩ := l
  intro row hrow hactive
  have hrow' : row ∈ s.statesNext e := hrow
  -- the trigger is there before the step
  have hbefore : (∃ t ∈ s.base.triggers, t.id = row.triggerId) ∧
      (row ∈ s.states ∨ e.call ≠ .deleteTrigger row.triggerId) := by
    unfold TriggerStore.statesNext at hrow'
    split at hrow'
    · next slug triggerId deviceId payload _ =>
      refine ⟨?_, .inr (by simp)⟩
      rcases mem_upsertState hrow' with (rfl | ⟨old, -, hk, rfl⟩) | hold
      · exact horderly.1
      · rw [show old.toFireStateKey.triggerId = triggerId by rw [hk]]
        exact horderly.1
      · exact h row hold hactive
    · next slug triggerId deviceId payload _ =>
      refine ⟨?_, .inr (by simp)⟩
      rcases mem_upsertState hrow' with (rfl | ⟨old, -, hk, rfl⟩) | hold
      · cases hactive
      · cases hactive
      · exact h row hold hactive
    · exact ⟨h row hrow' hactive, .inl hrow'⟩
  refine trigger_next hbefore.1 fun hdelete => ?_
  rcases hbefore.2 with hold | hne
  · subst hdelete
    rw [horderly row hold rfl] at hactive
    cases hactive
  · exact hne (congrArg Event.call hdelete)

end Steps

/-! ## Every run -/

section Runs

variable {rt : Runtime} {s : TriggerStore E} {ts : List TriggerTask} {tr : List (TriggerLabel E)}
  {cfg : Config (triggerSig E) ServiceError (TriggerStore E) TriggerTask} {l f : TriggerLabel E}

/-- The request of a label was received before the next step, and later steps do
not change when. -/
theorem receivedAt_snoc (h : f ∈ tr) (l : TriggerLabel E) :
    receivedAt (tr ++ [l]) f.thread = receivedAt tr f.thread := by
  have hlt : receivedAt tr f.thread < tr.length :=
    findIdx_lt_length_of_exists ⟨f, h, by simp⟩
  unfold receivedAt at hlt ⊢
  rw [findIdx_append, if_pos hlt]

theorem receivedAt_le (tr : List (TriggerLabel E)) (l : TriggerLabel E) :
    receivedAt tr l.thread ≤ receivedAt (tr ++ [l]) l.thread := by
  unfold receivedAt
  rw [findIdx_append]
  split_ifs
  · exact Nat.le_refl _
  · exact findIdx_le_length.trans (Nat.le_add_left _ _)

/-- **Step lemma**: an orderly step leaves the last word to the last resolve. -/
theorem lastResolveWins_next (h : LastResolveWins tr s) (horderly : orderly tr s l) :
    LastResolveWins (tr ++ [l]) (s.next l.event.call l.event.answer) := by
  intro k r hr hresolve hlast
  by_cases hnow : ResolveMarks k l.event
  · exact findState_next_resolved hnow
  have hr' : r ∈ tr := by
    rcases mem_append.mp hr with hr | hr
    · exact hr
    · exact absurd (mem_singleton.mp hr ▸ hresolve) hnow
  have hfire : ¬FireMarks k l.event := by
    rintro ⟨payload, hevent⟩
    -- the fire would have been received before and after that resolve
    unfold orderly at horderly
    rw [hevent] at horderly
    have hafter := horderly.2 r hr' hresolve
    have hbefore := hlast l (by simp) ⟨payload, hevent⟩
    rw [receivedAt_snoc hr'] at hbefore
    exact absurd (hafter.trans_le (receivedAt_le tr l)) hbefore.asymm
  rw [findState_next hfire hnow]
  refine h k r hr' hresolve fun f hf hmarks => ?_
  have hbefore := hlast f (mem_append_left _ hf) hmarks
  rwa [receivedAt_snoc hf, receivedAt_snoc hr'] at hbefore

/-- **Main theorem**: in every orderly run a resolve that was received after every
fire has the last word, and no active state outlives its trigger. -/
theorem cleared_of_orderly (hs : s.NoOrphan)
    (h : Run (triggerSystem E rt) orderly ((triggerSystem E rt).launch s ts) tr cfg) :
    LastResolveWins tr cfg.store ∧ cfg.store.NoOrphan := by
  induction h with
  | nil => exact ⟨fun k l hl => absurd hl not_mem_nil, hs⟩
  | snoc hrun hstep hcond ih =>
    rw [hstep.store_eq]
    exact ⟨lastResolveWins_next ih.1 hcond, noOrphan_next ih.2 hcond⟩

end Runs

/-! ## Two requests for one device -/

/-- A laptop of the fleet. -/
def laptop : FleetDevice where
  id := "d1"
  displayName := "Laptop"
  serialNumber := "SN1"
  platform := "windows"
  platformDeviceId := "win-1"
  riskTier := none
  deviceAudiences := []
  segmentId := none

/-- A trigger that looks for a serial number. -/
def alertTrigger : Trigger where
  id := "t1"
  workspaceSlug := "acme"
  name := "EDR alert"
  workflowId := "w1"
  deviceLookupField := some "serial"
  secret := "s3cret"

/-- A store with the trigger and a workflow without steps. -/
def alertStore : TriggerStore attributeEvaluator where
  base :=
    { workspace := fun _ => { workflows := [{ id := "w1", name := "Notify", steps := [] }] }
      triggers := [alertTrigger] }

/-- A runtime that only reads texts. -/
def textRuntime : Runtime where
  now := 0
  parseDate _ := none
  parseNumber _ := none
  printNumber n := toString n.num
  toLowerCase := id
  inherited _ := .undefined
  setMember _ _ := .undefined

/-- A deployment in which everything but the tables answers what it should, where
it is called. -/
def TriggerStore.answer (s : TriggerStore attributeEvaluator) :
    (c : TriggerCall attributeEvaluator) → Except ServiceError (TriggerCall.Answer c)
  | .receive => .ok ()
  | .automation (.findTrigger id) => .ok (s.base.findTrigger id)
  | .automation (.findStoredWorkflow slug id) => .ok ((s.base.workspace slug).findWorkflow id)
  | .automation (.getAutomationBearer _) => .ok (some "bearer")
  | .automation (.getFleet ..) => .ok [laptop]
  | .automation (.service _ .randomUUID) => .ok "run-1"
  | .automation (.service _ (.startWorkflowRun ..)) => .ok ()
  | .automation (.recordAuditEvent ..) => .ok ()
  | .automation (.updateTriggerFired id) =>
    if ∃ t ∈ s.base.triggers, t.id = id then .ok ()
    else .error (.other "Record to update not found.")
  | .automation (.upsertTriggerFireState ..) => .ok ()
  | .automation (.triggerEventDrivenReEvaluation ..) => .ok ()
  | .automation _ => .error (.other "not called")
  | .findWorkspaceTrigger slug id =>
    .ok (s.base.triggers.find? fun t => t.workspaceSlug = slug && t.id = id)
  | .updateTrigger .. => .error (.other "not called")
  | .deleteTrigger id =>
    if ∃ t ∈ s.base.triggers, t.id = id then .ok ()
    else .error (.other "Record to delete does not exist.")
  | .upsertResolved .. => .ok ()

theorem trigger_may_answer (s : TriggerStore attributeEvaluator)
    (c : TriggerCall attributeEvaluator) : s.may c (s.answer c) := by
  cases c with
  | automation c =>
    cases c with
    | service slug c => cases c <;> trivial
    | findTrigger id => exact rfl
    | findStoredWorkflow slug id => exact rfl
    | updateTriggerFired id =>
      by_cases hid : ∃ t ∈ s.base.triggers, t.id = id
      · rw [show s.answer (.automation (.updateTriggerFired id)) = .ok () from if_pos hid]
        exact hid
      · rw [show s.answer (.automation (.updateTriggerFired id)) =
          .error (.other "Record to update not found.") from if_neg hid]
        trivial
    | _ => trivial
  | findWorkspaceTrigger slug id => exact rfl
  | deleteTrigger id =>
    by_cases hid : ∃ t ∈ s.base.triggers, t.id = id
    · rw [show s.answer (.deleteTrigger id) = .ok () from if_pos hid]
      exact hid
    · rw [show s.answer (.deleteTrigger id) =
        .error (.other "Record to delete does not exist.") from if_neg hid]
      trivial
  | _ => trivial

/-- What the tool sends of the laptop. -/
def alert : Value :=
  .obj [("serial", .str "SN1")]

/-- A fire, and another request. -/
def alerted (other : TriggerTask) : Config (triggerSig attributeEvaluator) ServiceError
    (TriggerStore attributeEvaluator) TriggerTask :=
  (triggerSystem attributeEvaluator textRuntime).launch alertStore
    [.fire "t1" "s3cret" alert, other]

/-- The two run as a schedule says. -/
def alertedRun (other : TriggerTask) (schedule : List ℕ) :
    List (TriggerLabel attributeEvaluator) ×
      Config (triggerSig attributeEvaluator) ServiceError (TriggerStore attributeEvaluator)
        TriggerTask :=
  (alerted other).play (triggerSystem attributeEvaluator textRuntime) TriggerStore.answer schedule

theorem run_alerted (other : TriggerTask) (schedule : List ℕ) :
    Run (triggerSystem attributeEvaluator textRuntime) always (alerted other)
      (alertedRun other schedule).1 (alertedRun other schedule).2 :=
  Config.run_play _ TriggerStore.answer trigger_may_answer schedule (alerted other)

theorem alertStore_noOrphan : alertStore.NoOrphan :=
  fun _ hrow => absurd hrow not_mem_nil

/-- A call that marks a device resolved. -/
def TriggerCall.resolves : TriggerCall E → Bool
  | .upsertResolved .. => true
  | _ => false

/-- A check of `orderly`: fires come before all resolves. -/
def orderlyCheck (tr : List (TriggerLabel E)) (s : TriggerStore E) (l : TriggerLabel E) : Bool :=
  match l.event.call with
  | .automation (.upsertTriggerFireState _ triggerId _ _) =>
    (s.base.triggers.any fun t => t.id = triggerId) && tr.all fun r => !r.event.call.resolves
  | .deleteTrigger _ => s.states.all fun row => row.status = .resolved
  | _ => true

theorem orderlyCheck_sound (tr : List (TriggerLabel E)) (s : TriggerStore E) (l : TriggerLabel E)
    (h : orderlyCheck tr s l = true) : orderly tr s l := by
  obtain ⟨i, task, past, c, r⟩ := l
  unfold orderly
  split
  · next slug triggerId deviceId payload u heq =>
    cases heq
    obtain ⟨htrigger, hnone⟩ := Bool.and_eq_true_iff.mp h
    obtain ⟨t, ht, hid⟩ := any_eq_true.mp htrigger
    refine ⟨⟨t, ht, of_decide_eq_true hid⟩, fun r hr ⟨payload, hresolve⟩ => ?_⟩
    have hr' := all_eq_true.mp hnone r hr
    rw [hresolve] at hr'
    cases hr'
  · next triggerId u heq =>
    cases heq
    exact fun row hrow _ => of_decide_eq_true (all_eq_true.mp h row hrow)
  · trivial

/-- A report that the laptop is clean. -/
def allClear : TriggerTask :=
  .resolve "t1" "s3cret" alert

/-- The report comes after the fire has been answered. -/
def clearedRun : List (TriggerLabel attributeEvaluator) × Config (triggerSig attributeEvaluator)
    ServiceError (TriggerStore attributeEvaluator) TriggerTask :=
  alertedRun allClear (List.replicate 11 0 ++ List.replicate 7 1)

/-- It leaves the laptop resolved. -/
theorem cleared_of_orderly_alert :
    (clearedRun.1.map fun l => l.thread) = List.replicate 11 0 ++ List.replicate 7 1 ∧
    LastResolveWins clearedRun.1 clearedRun.2.store ∧ clearedRun.2.store.NoOrphan := by
  have hadmits := Config.admits_of_admitted (triggerSystem attributeEvaluator textRuntime)
    TriggerStore.answer orderlyCheck_sound (replicate 11 0 ++ replicate 7 1) []
    (alerted allClear) (by decide +kernel)
  have hrun : Run (triggerSystem attributeEvaluator textRuntime) orderly (alerted allClear)
      clearedRun.1 clearedRun.2 :=
    Run.nil.play (triggerSystem attributeEvaluator textRuntime) TriggerStore.answer
      trigger_may_answer _ hadmits
  exact ⟨by decide +kernel, cleared_of_orderly alertStore_noOrphan hrun⟩

/-- All requests of the run have been answered with success. -/
def AllSucceeded (cfg : Config (triggerSig E) ServiceError (TriggerStore E) TriggerTask) : Prop :=
  ∀ th ∈ cfg.threads, th.rest = .ret (.ok ())

/-- `AllSucceeded`, as a check. -/
def allSucceeded (cfg : Config (triggerSig E) ServiceError (TriggerStore E) TriggerTask) : Bool :=
  cfg.threads.all fun th => match th.rest with
    | .ret (.ok _) => true
    | _ => false

theorem allSucceeded_sound {cfg : Config (triggerSig E) ServiceError (TriggerStore E) TriggerTask}
    (h : allSucceeded cfg = true) : AllSucceeded cfg := by
  intro th hth
  have hend := all_eq_true.mp h th hth
  split at hend
  · assumption
  · cases hend

/-- The report is received after the alert and answered before it. -/
def overtakenRun : List (TriggerLabel attributeEvaluator) × Config (triggerSig attributeEvaluator)
    ServiceError (TriggerStore attributeEvaluator) TriggerTask :=
  alertedRun allClear (List.replicate 5 0 ++ List.replicate 7 1 ++ List.replicate 6 0)

/-- The trigger is deleted after the fire. -/
def deletedRun : List (TriggerLabel attributeEvaluator) × Config (triggerSig attributeEvaluator)
    ServiceError (TriggerStore attributeEvaluator) TriggerTask :=
  alertedRun (.delete "acme" "t1") (List.replicate 11 0 ++ List.replicate 4 1)

/-- The alert that came first has the last word, and the state of the deleted
trigger stays active. -/
theorem fire_overtaken :
    (¬∀ (rt : Runtime) (s : TriggerStore attributeEvaluator) (ts : List TriggerTask)
      (tr : List (TriggerLabel attributeEvaluator)) (cfg : Config (triggerSig attributeEvaluator)
        ServiceError (TriggerStore attributeEvaluator) TriggerTask), s.NoOrphan →
      Run (triggerSystem attributeEvaluator rt) always
        ((triggerSystem attributeEvaluator rt).launch s ts) tr cfg →
      AllSucceeded cfg → LastResolveWins tr cfg.store) ∧
    ¬∀ (rt : Runtime) (s : TriggerStore attributeEvaluator) (ts : List TriggerTask)
      (tr : List (TriggerLabel attributeEvaluator)) (cfg : Config (triggerSig attributeEvaluator)
        ServiceError (TriggerStore attributeEvaluator) TriggerTask), s.NoOrphan →
      Run (triggerSystem attributeEvaluator rt) always
        ((triggerSystem attributeEvaluator rt).launch s ts) tr cfg →
      AllSucceeded cfg → cfg.store.NoOrphan := by
  constructor
  · intro hall
    have hfirst : receivedAt overtakenRun.1 0 < receivedAt overtakenRun.1 1 ∧
        (overtakenRun.1.all fun f => f.thread = 0 || match f.event.call with
          | .automation (.upsertTriggerFireState ..) => false
          | _ => true) = true := by decide +kernel
    obtain ⟨row, hrow, hstatus⟩ := hall _ _ _ _ _ alertStore_noOrphan (run_alerted allClear _)
      (allSucceeded_sound (by decide +kernel : allSucceeded overtakenRun.2 = true))
      ⟨"acme", "t1", "d1"⟩ _ (mem_of_getElem? (i := 9) rfl) ⟨alert, rfl⟩
      fun f hf ⟨payload, hmarks⟩ => by
        have hthread := all_eq_true.mp hfirst.2 f hf
        rw [hmarks, Bool.or_false, decide_eq_true_eq] at hthread
        rw [hthread]
        exact hfirst.1
    have hactive : (findState overtakenRun.2.store.states ⟨"acme", "t1", "d1"⟩).map
        (fun row => row.status) = some .active := by decide +kernel
    rw [show findState overtakenRun.2.store.states ⟨"acme", "t1", "d1"⟩ = some row from hrow,
      Option.map_some, hstatus] at hactive
    cases hactive
  · intro hall
    have horphan := hall _ _ _ _ _ alertStore_noOrphan (run_alerted (.delete "acme" "t1") _)
      (allSucceeded_sound (by decide +kernel : allSucceeded deletedRun.2 = true))
    have hnone : deletedRun.2.store.base.triggers = [] := rfl
    obtain ⟨t, ht, -⟩ := horphan _ (mem_of_getElem? (i := 0) rfl) rfl
    rw [show (alertedRun (.delete "acme" "t1") _).2.store.base.triggers = [] from hnone] at ht
    cases ht

end AppliverySoar.Automations
