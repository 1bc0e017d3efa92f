import Mathlib.Data.List.Nodup
import AppliverySoar.Automations.Paths

/-!
# Deliveries of Applivery's webhook

Calls of `receiveAppliveryWebhook` (appliveryWebhookReceive.service.ts, lines 108–258) for one
workspace, in any order of their awaited calls. The rule of an action is looked for and then
created, which fails if it is there by then; `appendEvent` (lines 99–106) reads the events and
then writes them, and the same write adds one to `receivedCount`.

Results:
* `meets_receiveAppliveryWebhook`: what one delivery does.
* `deliveries_consistent`: in every run without outages, where a rule is created and events are
  written only if nobody else has done so since they were read, every delivery completes, with
  one rule for its action, and the newest 50 events are stored and all are counted.
* `deliveries_race`: two first deliveries of an action, one of which fails, and two deliveries
  of which one is lost.
-/

namespace AppliverySoar.Automations.Deliveries

open Async Access Compliance Workflows List
open Js (Value Runtime)

variable {E : Evaluator}

/-! ## One delivery -/

/-- The action of a payload, as it is read. -/
def rawActionOf (rt : Runtime) (body : Value) : String :=
  (((body.prop rt "action").orElse (body.prop rt "event")).orElse (.str "unknown")).text rt

/-- The key of its rule. -/
def actionKeyOf (rt : Runtime) (body : Value) : String :=
  (normalizeAction (rawActionOf rt body)).2

/-- How far a delivery has come: whether it has found no rule, whether there is one, the events
that it has read and not written, and the event that it has stored. -/
structure Progress where
  absent : Bool := false
  ruled : Bool := false
  read : Option (List AppliveryWebhookEventRecord) := none
  appended : Option AppliveryWebhookEventRecord := none

/-- The progress by an answered call. -/
def Progress.next (g : Progress) (c : AutomationCall E)
    (r : Except ServiceError (AutomationCall.Answer c)) : Progress :=
  match c, r with
  | .findWebhookRule .., .ok none => { g with absent := true }
  | .findWebhookRule .., .ok (some _) => { g with ruled := true }
  | .createWebhookRule .., .ok _ => { g with absent := false, ruled := true }
  | .findWebhookConfig _, .ok (some config) => { g with read := some config.recentEvents }
  | .updateWebhookConfig _ events, .ok _ => { g with read := none, appended := events.head? }
  | _, _ => g

/-- The calls whose failure is caught. -/
def caught : AutomationCall E → Bool
  | .getFleet .. | .startDeviceSync .. => true
  | _ => false

/-- The answers to a delivery, with no outage: the secret is looked for in the one
configuration, which stays. -/
def MayAnswer (secret slug : String) (c : AutomationCall E)
    (r : Except ServiceError (AutomationCall.Answer c)) : Prop :=
  (caught c = false → ∃ a, r = .ok a) ∧
  match c, r with
  | .findWebhookConfigs, .ok configs =>
    ∃ config : AppliveryWebhookConfig, configs = [config] ∧ config.secret = secret ∧
      config.workspaceSlug = slug
  | .findWebhookConfig _, .ok config => config ≠ none
  | _, _ => True

def delivering (secret slug : String) : World (automationSig E) ServiceError Progress where
  may _ c r := MayAnswer secret slug c r
  next := Progress.next

/-- A delivery looks for the rule of its action, creates it if there is none, and stores its
event in front of those that it has read. -/
def Follows (slug actionKey : String) (g : Progress) : AutomationCall E → Prop
  | .findWebhookRule workspaceSlug key => workspaceSlug = slug ∧ key = actionKey
  | .createWebhookRule workspaceSlug rule =>
    workspaceSlug = slug ∧ rule.actionKey = actionKey ∧ g.absent = true
  | .findWebhookConfig workspaceSlug => workspaceSlug = slug ∧ g.appended = none
  | .updateWebhookConfig workspaceSlug events => workspaceSlug = slug ∧ g.appended = none ∧
    ∃ old event, g.read = some old ∧ events = (event :: old).take 50 ∧
      event.canonicalKey = actionKey
  | _ => True

/-- A delivery that has completed has a rule, and has stored its event; one that has failed had
another secret. -/
def Completes (sent secret actionKey : String) :
    Except ServiceError ReceiveAppliveryWebhookResult → Progress → Prop
  | .ok _, g => g.ruled = true ∧ ∃ event, g.appended = some event ∧ event.canonicalKey = actionKey
  | .error _, _ => sent ≠ secret

section Delivery

variable {rt : Runtime} {secret slug actionKey : String} {g : Progress} {α : Type}
  {Q : Except ServiceError α → Progress → Prop} {c : AutomationCall E}

theorem meets_ask {f : AutomationCall.Answer c → Automation E α} (hcaught : caught c = false)
    (hc : Follows slug actionKey g c)
    (hf : ∀ a, MayAnswer secret slug c (.ok a) →
      (f a).Meets (delivering secret slug) (Follows slug actionKey) (g.next c (.ok a)) Q) :
    (ask c >>= f).Meets (delivering secret slug) (Follows slug actionKey) g Q := by
  refine Prog.Meets.call_bind hc (fun e he => ?_) hf
  obtain ⟨a, ha⟩ := he.1 hcaught
  cases ha

/-- Calls that are not about rules and events, and whose failure is not caught. -/
def Aside : AutomationCall E → Prop
  | .findWebhookRule .. | .createWebhookRule .. | .findWebhookConfig _
  | .updateWebhookConfig .. | .findWebhookConfigs | .getFleet .. | .startDeviceSync .. => False
  | _ => True

theorem aside_effects (slug actionKey : String) (h : Aside c) : caught c = false ∧
    (∀ g, Follows slug actionKey g c) ∧ ∀ g r, Progress.next g c r = g := by
  cases c <;> first
    | exact h.elim
    | exact ⟨rfl, fun _ => trivial, fun _ _ => rfl⟩

/-- A part of a delivery that always ends with a value, and leaves the progress. -/
def Quiet (secret slug actionKey : String) (p : Automation E α) : Prop :=
  ∀ g, p.Meets (delivering secret slug) (Follows slug actionKey) g
    (post (fun _ g' => g' = g) fun _ _ => False)

variable {p : Automation E α} {β : Type}

theorem Quiet.meets_bind (h : Quiet secret slug actionKey p)
    {f : α → Automation E β} {Q : Except ServiceError β → Progress → Prop}
    (hf : ∀ a, (f a).Meets (delivering secret slug) (Follows slug actionKey) g Q) :
    (p >>= f).Meets (delivering secret slug) (Follows slug actionKey) g Q := by
  refine Prog.Meets.bind (R := fun _ g' => g' = g) ((h g).mono fun r g' hr => ?_) ?_
  · cases r with
    | ok a => exact hr
    | error e => exact hr.elim
  · rintro a g' rfl
    exact hf a

theorem Quiet.bind (h : Quiet secret slug actionKey p)
    {f : α → Automation E β} (hf : ∀ a, Quiet secret slug actionKey (f a)) :
    Quiet secret slug actionKey (p >>= f) :=
  fun g => h.meets_bind fun a => hf a g

theorem quiet_pure (a : α) : Quiet secret slug actionKey (pure a : Automation E α) :=
  fun _ => rfl

theorem quiet_ask (h : Aside c) : Quiet secret slug actionKey (ask c) := by
  intro g
  obtain ⟨hcaught, hok, hnext⟩ := aside_effects slug actionKey h
  refine ⟨hok g, fun r hr => ?_⟩
  obtain ⟨a, rfl⟩ := hr.1 hcaught
  exact hnext g (.ok a)

theorem meets_ask_aside {f : AutomationCall.Answer c → Automation E α} (h : Aside c)
    (hf : ∀ a, (f a).Meets (delivering secret slug) (Follows slug actionKey) g Q) :
    (ask c >>= f).Meets (delivering secret slug) (Follows slug actionKey) g Q :=
  (quiet_ask h).meets_bind hf

theorem quiet_ask_bind {f : AutomationCall.Answer c → Automation E α}
    (h : Aside c) (hf : ∀ a, Quiet secret slug actionKey (f a)) :
    Quiet secret slug actionKey (ask c >>= f) :=
  (quiet_ask h).bind hf

theorem quiet_service {c : ServiceCall E} :
    Quiet secret slug actionKey (within slug (Compliance.ask c) : Automation E _) := by
  refine fun g => ⟨trivial, fun r hr => ?_⟩
  obtain ⟨a, rfl⟩ := hr.1 rfl
  exact rfl

theorem quiet_launch {pair : Option (String × String)} {workflow : StoredWorkflow}
    {devices : List DeviceRef} :
    Quiet secret slug actionKey (launch slug pair workflow devices : Automation E _) := by
  unfold launch within launchWorkflowRun
  rw [Prog.embed_bind]
  refine quiet_service.bind fun runId => ?_
  split_ifs
  · rw [Prog.embed_bind]
    refine quiet_service.bind fun _ => ?_
    rw [Prog.embed_bind]
    exact quiet_service.bind fun _ => quiet_service
  · rw [Prog.embed_bind]
    exact quiet_service.bind fun _ => quiet_pure _

theorem quiet_linkRun {caseId : Option String} {runId : String} :
    Quiet secret slug actionKey (within slug (linkRun caseId runId) : Automation E _) := by
  unfold linkRun within
  split
  · exact quiet_pure _
  · rw [Prog.embed_bind]
    exact quiet_service.bind fun _ => quiet_service

theorem quiet_syncEnrolled {enrolled : Bool} :
    Quiet secret slug actionKey (syncEnrolled slug enrolled : Automation E _) := by
  unfold syncEnrolled
  split_ifs
  · refine quiet_ask_bind trivial fun bearer => ?_
    split
    · exact quiet_pure _
    · intro g
      refine ⟨trivial, fun r _ => ?_⟩
      cases r <;> exact rfl
  · exact quiet_pure _

variable {body : Value}

theorem quiet_matchDevice {auth : Option String} :
    Quiet secret slug actionKey (matchDevice rt slug body auth : Automation E _) := by
  unfold matchDevice
  split
  · exact quiet_pure _
  · intro g
    refine ⟨trivial, fun r _ => ?_⟩
    cases r <;> exact rfl

variable {rule : AppliveryWebhookRule} {device : Option FleetDevice}

theorem quiet_openWebhookCase :
    Quiet secret slug actionKey (openWebhookCase slug rule device : Automation E _) := by
  unfold openWebhookCase
  split_ifs
  · exact quiet_ask_bind trivial fun caseId => quiet_ask_bind trivial fun _ =>
      quiet_ask_bind trivial fun _ => quiet_pure _
  · exact quiet_pure _

theorem quiet_runWebhookWorkflow {auth caseId : Option String}
    :
    Quiet secret slug actionKey
      (runWebhookWorkflow slug rule auth device caseId : Automation E _) := by
  unfold runWebhookWorkflow
  split
  · refine quiet_ask_bind trivial fun found => ?_
    split
    · exact quiet_pure _
    · split_ifs
      · exact quiet_pure _
      · exact quiet_ask_bind trivial fun _ => quiet_pure _
      · refine quiet_launch.bind fun record => ?_
        split
        · exact quiet_pure _
        · exact quiet_linkRun.bind fun _ => quiet_pure _
  · exact quiet_pure _

theorem meets_appendEvent {event : AppliveryWebhookEventRecord}
    {f : Unit → Automation E α}
    (hkey : event.canonicalKey = actionKey) (hfree : g.appended = none)
    (hf : (f ()).Meets (delivering secret slug) (Follows slug actionKey)
      { g with read := none, appended := some event } Q) :
    (appendEvent slug event >>= f).Meets (delivering secret slug) (Follows slug actionKey) g Q := by
  unfold appendEvent
  rw [bind_assoc]
  refine meets_ask rfl ⟨rfl, hfree⟩ fun found hmay => ?_
  rcases found with _ | config
  · exact (hmay.2 rfl).elim
  have hhead : ((event :: config.recentEvents).take 50).head? = some event := by
    rw [take_cons (by decide)]
    rfl
  refine meets_ask rfl ⟨rfl, hfree, config.recentEvents, event, rfl, rfl, hkey⟩ fun _ _ => ?_
  unfold Progress.next
  dsimp only
  rw [hhead]
  exact hf

theorem meets_handleEvent {nowIso rawAction sent : String} {config : AppliveryWebhookConfig}
    (hslug : config.workspaceSlug = slug)
    (hkey : (normalizeAction rawAction).2 = actionKey) (hruled : g.ruled = true)
    (hfree : g.appended = none) :
    (handleEvent rt nowIso config rawAction body rule : Automation E _).Meets
      (delivering secret slug) (Follows slug actionKey) g (Completes sent secret actionKey) := by
  subst hslug
  unfold handleEvent
  generalize normalizeAction rawAction = action at hkey ⊢
  dsimp only
  refine meets_ask_aside trivial fun eventId => quiet_syncEnrolled.meets_bind fun synced => ?_
  split
  · refine meets_appendEvent hkey hfree (meets_ask_aside trivial fun _ => ?_)
    exact ⟨hruled, _, rfl, hkey⟩
  · refine meets_ask_aside trivial fun bearer => quiet_matchDevice.meets_bind fun device => ?_
    refine quiet_openWebhookCase.meets_bind fun caseId => ?_
    refine quiet_runWebhookWorkflow.meets_bind fun ran => ?_
    refine meets_appendEvent hkey hfree (meets_ask_aside trivial fun _ => ?_)
    exact ⟨hruled, _, rfl, hkey⟩

/-- What one delivery does: with the secret of the workspace it finds or creates the rule of its
action, and stores its event. -/
theorem meets_receiveAppliveryWebhook {nowIso sent : String} :
    (receiveAppliveryWebhook rt nowIso sent body : Automation E _).Meets (delivering secret slug)
      (Follows slug (actionKeyOf rt body)) {} (Completes sent secret (actionKeyOf rt body)) := by
  unfold receiveAppliveryWebhook
  refine meets_ask rfl trivial fun configs hmay => ?_
  obtain ⟨config, rfl, hsecret, hslug⟩ := hmay.2
  subst hslug
  by_cases hsent : sent = config.secret
  · rw [find?_singleton, if_pos (by simpa using hsent)]
    change Prog.Meets _ _ (findOrCreateRule config.workspaceSlug (actionKeyOf rt body) >>= fun rule =>
      handleEvent rt nowIso config (rawActionOf rt body) body rule) _ _
    have hkey : (normalizeAction (rawActionOf rt body)).2 = actionKeyOf rt body := rfl
    generalize actionKeyOf rt body = actionKey at hkey ⊢
    unfold findOrCreateRule
    rw [bind_assoc]
    refine meets_ask rfl ⟨rfl, rfl⟩ fun found _ => ?_
    rcases found with _ | rule
    · rw [bind_assoc]
      exact meets_ask rfl ⟨rfl, rfl, rfl⟩ fun _ _ => meets_handleEvent rfl hkey rfl rfl
    · exact meets_handleEvent rfl hkey rfl rfl
  · rw [find?_singleton, if_neg (by simpa using hsent)]
    exact fun heq => hsent (heq.trans hsecret.symm)

end Delivery

/-! ## Runs -/

/-- The rules of the workspace: `@@unique([workspaceSlug, actionKey])`. -/
structure RuleTable where
  rows : List AppliveryWebhookRule
  unique : (rows.map AppliveryWebhookRule.actionKey).Nodup

/-- The action has a rule. -/
def RuleTable.Has (table : RuleTable) (actionKey : String) : Prop :=
  actionKey ∈ table.rows.map AppliveryWebhookRule.actionKey

instance (table : RuleTable) (actionKey : String) : Decidable (table.Has actionKey) :=
  inferInstanceAs (Decidable (_ ∈ _))

/-- The rule of an action. -/
def RuleTable.find (table : RuleTable) (actionKey : String) : Option AppliveryWebhookRule :=
  table.rows.find? fun rule => rule.actionKey = actionKey

/-- The table with a rule, if its action has none. -/
def RuleTable.insert (table : RuleTable) (rule : AppliveryWebhookRule) : RuleTable :=
  if h : table.Has rule.actionKey then table
  else
    { rows := rule :: table.rows
      unique := by
        rw [List.map_cons]
        exact List.nodup_cons.mpr ⟨h, table.unique⟩ }

/-- A delivery: the secret that was sent, the action, what is left of it, and how far it is. -/
structure Delivery (E : Evaluator) where
  sent : String
  actionKey : String
  rest : Automation E ReceiveAppliveryWebhookResult
  progress : Progress

/-- The configuration of the workspace with `receivedCount`, its rules, the deliveries, and
every event that was counted, with its delivery, the newest first. -/
structure Webhook (E : Evaluator) where
  config : AppliveryWebhookConfig
  receivedCount : ℕ
  rules : RuleTable
  deliveries : ℕ → Option (Delivery E)
  received : List (ℕ × AppliveryWebhookEventRecord)

/-- An answer for whatever is awaited. -/
abbrev Reply (E : Evaluator) : Type :=
  (c : AutomationCall E) → Except ServiceError (AutomationCall.Answer c)

/-- What the tables answer. -/
def Webhook.stored (s : Webhook E) : (c : AutomationCall E) → AutomationCall.Answer c →
    Except ServiceError (AutomationCall.Answer c)
  | .findWebhookConfigs, _ => .ok [s.config]
  | .findWebhookConfig _, _ => .ok (some s.config)
  | .findWebhookRule _ actionKey, _ => .ok (s.rules.find actionKey)
  | .createWebhookRule _ rule, _ =>
    if s.rules.Has rule.actionKey then .error (.other "Unique constraint failed") else .ok ()
  | _, a => .ok a

/-- The answer, unless the call fails. -/
def Webhook.answer (s : Webhook E) (reply : Reply E) (c : AutomationCall E) :
    Except ServiceError (AutomationCall.Answer c) :=
  match reply c with
  | .error e => .error e
  | .ok a => s.stored c a

/-- What an answered call of delivery `i` does to the tables. -/
def Webhook.perform (s : Webhook E) (i : ℕ) (c : AutomationCall E)
    (r : Except ServiceError (AutomationCall.Answer c)) : Webhook E :=
  match c, r with
  | .createWebhookRule _ rule, .ok _ => { s with rules := s.rules.insert rule }
  | .updateWebhookConfig _ events, .ok _ =>
    { s with
      config := { s.config with recentEvents := events }
      receivedCount := s.receivedCount + 1
      received := (events.head?.map fun event => (i, event)).toList ++ s.received }
  | _, _ => s

/-- The delivery, as it is now. -/
def Webhook.put (s : Webhook E) (i : ℕ) (d : Delivery E) : Webhook E :=
  { s with deliveries := Function.update s.deliveries i (some d) }

/-- What can happen. -/
inductive Event (E : Evaluator)
  | deliver (i : ℕ) (rt : Runtime) (nowIso sent : String) (body : Value)
  | answer (i : ℕ) (reply : Reply E)

/-- The state after an event. -/
def Webhook.step (s : Webhook E) : Event E → Webhook E
  | .deliver i rt nowIso sent body =>
    match s.deliveries i with
    | none => s.put i
      { sent := sent
        actionKey := actionKeyOf rt body
        rest := receiveAppliveryWebhook rt nowIso sent body
        progress := {} }
    | some _ => s
  | .answer i reply =>
    match s.deliveries i with
    | some ⟨sent, actionKey, .await c k, progress⟩ =>
      (s.perform i c (s.answer reply c)).put i
        ⟨sent, actionKey, k (s.answer reply c), progress.next c (s.answer reply c)⟩
    | _ => s

def Webhook.run (s : Webhook E) (events : List (Event E)) : Webhook E :=
  events.foldl Webhook.step s

/-- A configuration that has received nothing. -/
def Webhook.start (config : AppliveryWebhookConfig) (rules : RuleTable) : Webhook E where
  config := { config with recentEvents := [] }
  receivedCount := 0
  rules := rules
  deliveries := fun _ => none
  received := []

/-! ## Specification -/

/-- Deliveries with the secret do not fail. A delivery that has completed has one rule for its
action, and one event of it was counted; the newest 50 of these are stored. -/
structure Webhook.Consistent (s : Webhook E) : Prop where
  completes : ∀ i d, s.deliveries i = some d → d.sent = s.config.secret →
    ∀ e, d.rest ≠ .ret (.error e)
  one_rule : ∀ i d result, s.deliveries i = some d → d.rest = .ret (.ok result) →
    (s.rules.rows.map AppliveryWebhookRule.actionKey).count d.actionKey = 1
  one_event : ∀ i d result, s.deliveries i = some d → d.rest = .ret (.ok result) →
    (s.received.map Prod.fst).count i = 1 ∧
    ∃ event, (i, event) ∈ s.received ∧ event.canonicalKey = d.actionKey
  recent : s.config.recentEvents = (s.received.map Prod.snd).take 50
  counted : s.receivedCount = s.received.length

/-- A call that does not come too late: a rule is created where there is still none, and events
are written when those that were read are still stored. -/
def InTime (s : Webhook E) (g : Progress) : AutomationCall E → Prop
  | .createWebhookRule _ rule => ¬s.rules.Has rule.actionKey
  | .updateWebhookConfig .. => g.read = some s.config.recentEvents
  | _ => True

/-- A step that keeps the deliveries consistent: what is answered does not fail, unless that
is caught, and does not come too late. -/
def Timely (s : Webhook E) : Event E → Prop
  | .deliver .. => True
  | .answer i reply => ∀ d c k, s.deliveries i = some d → d.rest = .await c k →
    (caught c = false → ∃ a, reply c = .ok a) ∧ InTime s d.progress c

/-- A run of such steps. -/
def AllTimely : Webhook E → List (Event E) → Prop
  | _, [] => True
  | s, e :: events => Timely s e ∧ AllTimely (s.step e) events

/-! ## The invariant -/

variable {table : RuleTable} {actionKey : String} {s : Webhook E}

theorem RuleTable.has_of_find
    {rule : AppliveryWebhookRule} (h : table.find actionKey = some rule) : table.Has actionKey := by
  have hkey : rule.actionKey = actionKey := by simpa using find?_some h
  exact hkey ▸ mem_map_of_mem (mem_of_find?_eq_some h)

theorem RuleTable.has_insert (table : RuleTable) (rule : AppliveryWebhookRule) :
    (table.insert rule).Has rule.actionKey := by
  unfold RuleTable.insert
  split_ifs with h
  · exact h
  · exact mem_cons_self

theorem RuleTable.Has.insert (h : table.Has actionKey)
    (rule : AppliveryWebhookRule) : (table.insert rule).Has actionKey := by
  unfold RuleTable.insert
  split_ifs
  · exact h
  · exact mem_cons_of_mem _ h

/-- What is known of a delivery: what it has found is stored. -/
structure InDelivery (s : Webhook E) (i : ℕ) (d : Delivery E) : Prop where
  meets : d.rest.Meets (delivering s.config.secret s.config.workspaceSlug)
    (Follows s.config.workspaceSlug d.actionKey) d.progress
    (Completes d.sent s.config.secret d.actionKey)
  ruled : d.progress.ruled = true → s.rules.Has d.actionKey
  appended : ∀ event, d.progress.appended = some event → (i, event) ∈ s.received

/-- What is known in a run of timely steps. -/
structure Keeping (s : Webhook E) : Prop where
  deliveries : ∀ i d, s.deliveries i = some d → InDelivery s i d
  owned : ∀ p ∈ s.received, ∃ d, s.deliveries p.1 = some d ∧ d.progress.appended = some p.2
  once : (s.received.map Prod.fst).Nodup
  recent : s.config.recentEvents = (s.received.map Prod.snd).take 50
  counted : s.receivedCount = s.received.length

theorem Keeping.consistent (h : Keeping s) : s.Consistent where
  completes i d hd hsent e he := by
    have hmeets := (h.deliveries i d hd).meets
    rw [he] at hmeets
    exact hmeets hsent
  one_rule i d result hd hresult := by
    have hmeets := (h.deliveries i d hd).meets
    rw [hresult] at hmeets
    exact count_eq_one_of_mem s.rules.unique ((h.deliveries i d hd).ruled hmeets.1)
  one_event i d result hd hresult := by
    have hmeets := (h.deliveries i d hd).meets
    rw [hresult] at hmeets
    obtain ⟨-, event, hevent, hkey⟩ := hmeets
    have hmem := (h.deliveries i d hd).appended event hevent
    exact ⟨count_eq_one_of_mem h.once (mem_map_of_mem hmem), event, hmem, hkey⟩
  recent := h.recent
  counted := h.counted

/-! ## Steps -/

section Steps

variable {s s' : Webhook E} {i : ℕ} {d : Delivery E} {c : AutomationCall E}
  {r : Except ServiceError (AutomationCall.Answer c)} {reply : Reply E}

/-- What an answered call is: a rule that is found or created, an event that is stored, or
none of these. -/
inductive Effect : (c : AutomationCall E) → Except ServiceError (AutomationCall.Answer c) → Prop
  | found (slug actionKey : String) (rule : AppliveryWebhookRule) :
    Effect (.findWebhookRule slug actionKey) (.ok (some rule))
  | created (slug : String) (rule : AppliveryWebhookRule) (a : Unit) :
    Effect (.createWebhookRule slug rule) (.ok a)
  | stored (slug : String) (events : List AppliveryWebhookEventRecord) (a : Unit) :
    Effect (.updateWebhookConfig slug events) (.ok a)
  | none {c : AutomationCall E} {r : Except ServiceError (AutomationCall.Answer c)}
      (perform : ∀ (s : Webhook E) i, s.perform i c r = s)
      (ruled : ∀ g : Progress, (g.next c r).ruled = g.ruled)
      (appended : ∀ g : Progress, (g.next c r).appended = g.appended) : Effect c r

theorem effect (c : AutomationCall E) (r : Except ServiceError (AutomationCall.Answer c)) :
    Effect c r := by
  cases r with
  | error e => cases c <;> exact .none (fun _ _ => rfl) (fun _ => rfl) fun _ => rfl
  | ok a =>
    cases c with
    | findWebhookRule slug actionKey =>
      cases a with
      | none => exact .none (fun _ _ => rfl) (fun _ => rfl) fun _ => rfl
      | some rule => exact .found slug actionKey rule
    | createWebhookRule slug rule => exact .created slug rule a
    | updateWebhookConfig slug events => exact .stored slug events a
    | findWebhookConfig slug => cases a <;> exact .none (fun _ _ => rfl) (fun _ => rfl) fun _ => rfl
    | _ => exact .none (fun _ _ => rfl) (fun _ => rfl) fun _ => rfl

theorem InDelivery.mono (h : InDelivery s i d) (hsecret : s'.config.secret = s.config.secret)
    (hslug : s'.config.workspaceSlug = s.config.workspaceSlug)
    (hrules : ∀ actionKey, s.rules.Has actionKey → s'.rules.Has actionKey)
    (hreceived : ∀ p ∈ s.received, p ∈ s'.received) : InDelivery s' i d where
  meets := by
    rw [hsecret, hslug]
    exact h.meets
  ruled hruled := hrules _ (h.ruled hruled)
  appended event hevent := hreceived _ (h.appended event hevent)

theorem put_self (s : Webhook E) (i : ℕ) (d : Delivery E) : (s.put i d).deliveries i = some d :=
  Function.update_self ..

theorem put_other {j : ℕ} (h : j ≠ i) (s : Webhook E) (d : Delivery E) :
    (s.put i d).deliveries j = s.deliveries j :=
  Function.update_of_ne h ..

theorem Keeping.put (hd : InDelivery s i d)
    (others : ∀ j other, j ≠ i → s.deliveries j = some other → InDelivery s j other)
    (own : ∀ event, (i, event) ∈ s.received → d.progress.appended = some event)
    (owned : ∀ p ∈ s.received, p.1 ≠ i →
      ∃ other, s.deliveries p.1 = some other ∧ other.progress.appended = some p.2)
    (once : (s.received.map Prod.fst).Nodup)
    (recent : s.config.recentEvents = (s.received.map Prod.snd).take 50)
    (counted : s.receivedCount = s.received.length) : Keeping (s.put i d) := by
  refine ⟨fun j other hj => ?_, fun p hp => ?_, once, recent, counted⟩
  · by_cases hji : j = i
    · subst hji
      rw [put_self] at hj
      cases hj
      exact ⟨hd.meets, hd.ruled, hd.appended⟩
    · rw [put_other hji] at hj
      have hother := others j other hji hj
      exact ⟨hother.meets, hother.ruled, hother.appended⟩
  · obtain ⟨j, event⟩ := p
    by_cases hji : j = i
    · subst hji
      exact ⟨d, put_self .., own event hp⟩
    · obtain ⟨other, hother, happended⟩ := owned (j, event) hp hji
      exact ⟨other, (put_other hji ..).trans hother, happended⟩

theorem mayAnswer (s : Webhook E) (htimely : caught c = false → ∃ a, reply c = .ok a)
    (hintime : InTime s d.progress c) :
    MayAnswer s.config.secret s.config.workspaceSlug c (s.answer reply c) := by
  constructor
  · intro hcaught
    obtain ⟨a, ha⟩ := htimely hcaught
    unfold Webhook.answer
    rw [ha]
    cases c with
    | createWebhookRule slug rule => exact ⟨(), if_neg hintime⟩
    | _ => exact ⟨_, rfl⟩
  · unfold Webhook.answer
    cases reply c with
    | error e => cases c <;> exact trivial
    | ok a =>
      cases c with
      | findWebhookConfigs => exact ⟨s.config, rfl, rfl, rfl⟩
      | findWebhookConfig slug => exact Option.some_ne_none _
      | _ => exact trivial

theorem inDelivery_start (s : Webhook E) (i : ℕ) (rt : Runtime) (nowIso sent : String)
    (body : Value) :
    InDelivery s i ⟨sent, actionKeyOf rt body, receiveAppliveryWebhook rt nowIso sent body, {}⟩ where
  meets := by
    dsimp only
    exact meets_receiveAppliveryWebhook
  ruled hruled := by cases hruled
  appended event hevent := by cases hevent

theorem has_of_answer {slug actionKey : String} {rule : AppliveryWebhookRule}
    (h : s.answer reply (.findWebhookRule slug actionKey) = .ok (some rule)) :
    s.rules.Has actionKey := by
  unfold Webhook.answer at h
  split at h
  · cases h
  · exact RuleTable.has_of_find (Except.ok.inj h)

theorem Keeping.answered (h : Keeping s)
    {k : Except ServiceError (AutomationCall.Answer c) → Automation E _}
    (hd : s.deliveries i = some d) (hr : s.answer reply c = r)
    (hfollows : Follows s.config.workspaceSlug d.actionKey d.progress c)
    (hintime : InTime s d.progress c)
    (hmeets : (k r).Meets (delivering s.config.secret s.config.workspaceSlug)
      (Follows s.config.workspaceSlug d.actionKey) (d.progress.next c r)
      (Completes d.sent s.config.secret d.actionKey)) :
    Keeping ((s.perform i c r).put i ⟨d.sent, d.actionKey, k r, d.progress.next c r⟩) := by
  have hin := h.deliveries i d hd
  have hothers : ∀ j other, j ≠ i → s.deliveries j = some other → InDelivery s j other :=
    fun j other _ hj => h.deliveries j other hj
  have hown : ∀ event, (i, event) ∈ s.received → d.progress.appended = some event := by
    intro event hevent
    obtain ⟨other, hother, happended⟩ := h.owned _ hevent
    rw [hd] at hother
    cases hother
    exact happended
  have howned : ∀ p ∈ s.received, p.1 ≠ i →
      ∃ other, s.deliveries p.1 = some other ∧ other.progress.appended = some p.2 :=
    fun p hp _ => h.owned p hp
  cases effect c r with
  | none hperform hruled happended =>
    rw [hperform]
    refine Keeping.put ⟨hmeets, fun hset => ?_, fun event hevent => ?_⟩ hothers
      (fun event hevent => ?_) howned h.once h.recent h.counted
    · rw [hruled] at hset
      exact hin.ruled hset
    · rw [happended] at hevent
      exact hin.appended event hevent
    · rw [happended]
      exact hown event hevent
  | found slug actionKey rule =>
    obtain ⟨-, rfl⟩ := hfollows
    exact Keeping.put ⟨hmeets, fun _ => has_of_answer hr, hin.appended⟩ hothers hown howned h.once
      h.recent h.counted
  | created slug rule a =>
    obtain ⟨-, hkey, -⟩ := hfollows
    have hmono : ∀ actionKey, s.rules.Has actionKey → (s.rules.insert rule).Has actionKey :=
      fun actionKey hhas => hhas.insert rule
    exact Keeping.put ⟨hmeets, fun _ => hkey ▸ s.rules.has_insert rule, hin.appended⟩
      (fun j other hji hj => (hothers j other hji hj).mono rfl rfl hmono fun _ hp => hp)
      hown howned h.once h.recent h.counted
  | stored slug events a =>
    obtain ⟨-, hfree, old, event, hread, rfl, hkey⟩ := hfollows
    have hold : old = s.config.recentEvents := Option.some.inj (hread.symm.trans hintime)
    subst hold
    have hhead : ((event :: s.config.recentEvents).take 50).head? = some event := by
      rw [take_cons (by decide)]
      rfl
    have hnew : i ∉ s.received.map Prod.fst := by
      intro hmem
      obtain ⟨p, hp, rfl⟩ := mem_map.mp hmem
      have happended := hown p.2 hp
      rw [hfree] at happended
      cases happended
    have hrecent : (event :: s.config.recentEvents).take 50 =
        (((i, event) :: s.received).map Prod.snd).take 50 := by
      rw [h.recent, map_cons, take_cons (by decide), take_cons (by decide),
        take_take]
      rfl
    generalize (event :: s.config.recentEvents).take 50 = events at *
    have hperform : s.perform i (.updateWebhookConfig slug events) (.ok a) =
        { s with
          config := { s.config with recentEvents := events }
          receivedCount := s.receivedCount + 1
          received := (i, event) :: s.received } := by
      unfold Webhook.perform
      dsimp only
      rw [hhead]
      rfl
    have hnext : d.progress.next (.updateWebhookConfig (E := E) slug events) (.ok a) =
        { d.progress with read := none, appended := some event } := by
      unfold Progress.next
      dsimp only
      rw [hhead]
    rw [hnext] at hmeets
    rw [hperform, hnext]
    refine Keeping.put ⟨hmeets, hin.ruled, fun other hother => ?_⟩
      (fun j other hji hj => (hothers j other hji hj).mono rfl rfl (fun _ hhas => hhas)
        fun _ hp => mem_cons_of_mem _ hp)
      (fun other hother => ?_) (fun p hp hne => ?_) ?_ hrecent (congrArg (· + 1) h.counted)
    · cases hother
      exact mem_cons_self
    · rcases mem_cons.mp hother with heq | hmem
      · cases heq
        rfl
      · exact absurd (mem_map_of_mem hmem) hnew
    · rcases mem_cons.mp hp with rfl | hmem
      · exact absurd rfl hne
      · exact howned p hmem hne
    · rw [map_cons]
      exact nodup_cons.mpr ⟨hnew, h.once⟩

/-- **Step lemma.** -/
theorem Keeping.step (h : Keeping s) {e : Event E} (htimely : Timely s e) : Keeping (s.step e) := by
  cases e with
  | deliver i rt nowIso sent body =>
    unfold Webhook.step
    dsimp only
    split
    · next hnone =>
      refine Keeping.put (inDelivery_start s i rt nowIso sent body)
        (fun j other _ hj => h.deliveries j other hj)
        (fun event hevent => ?_) (fun p hp _ => h.owned p hp) h.once h.recent h.counted
      obtain ⟨other, hother, -⟩ := h.owned _ hevent
      rw [hnone] at hother
      cases hother
    · exact h
  | answer i reply =>
    unfold Webhook.step
    dsimp only
    split
    · next sent actionKey c k progress hd =>
      obtain ⟨hreply, hintime⟩ := htimely _ c k hd rfl
      obtain ⟨⟨hfollows, hrest⟩, hruled, happended⟩ := h.deliveries i _ hd
      have hmeets := hrest _ (mayAnswer s hreply hintime)
      exact h.answered hd rfl hfollows hintime hmeets
    · exact h

end Steps

/-! ## Main results -/

section Runs

variable {s : Webhook E}

theorem keeping_start (config : AppliveryWebhookConfig) (rules : RuleTable) :
    Keeping (Webhook.start config rules : Webhook E) where
  deliveries i d hd := by cases hd
  owned p hp := by cases hp
  once := nodup_nil
  recent := rfl
  counted := rfl

/-- **Run lemma.** -/
theorem Keeping.run {events : List (Event E)} (h : Keeping s) (htimely : AllTimely s events) :
    Keeping (s.run events) := by
  induction events generalizing s with
  | nil => exact h
  | cons e events ih => exact ih (h.step htimely.1) htimely.2

end Runs

/-- In every run of timely steps, deliveries with the secret do not fail, there is one rule for
the action of each that has completed, and the newest 50 of the events that were counted, one
for each delivery, are stored. -/
theorem deliveries_consistent (config : AppliveryWebhookConfig) (rules : RuleTable)
    (events : List (Event E)) (htimely : AllTimely (Webhook.start config rules) events) :
    ((Webhook.start config rules).run events).Consistent :=
  ((keeping_start config rules).run htimely).consistent

/-! ## One delivery, and two at a time -/

def keyRuntime : Runtime where
  now := 0
  parseDate _ := none
  parseNumber _ := none
  printNumber _ := ""
  toLowerCase s := s
  inherited _ := .undefined
  setMember _ _ := .undefined

def acmeWebhook : AppliveryWebhookConfig := { workspaceSlug := "acme", secret := "s3" }

/-- A delivery of an event "wiped". -/
def wiped (i : ℕ) : Event attributeEvaluator :=
  .deliver i keyRuntime "2025-01-01T00:00:00Z" "s3" (.obj [("action", .str "wiped")])

/-- Whatever is asked apart from the tables is answered. -/
def online : Reply attributeEvaluator
  | .findWebhookConfigs => .ok []
  | .findWebhookConfig _ => .ok none
  | .findWebhookRule .. => .ok none
  | .createWebhookRule .. => .ok ()
  | .updateWebhookConfig .. => .ok ()
  | .randomUUID => .ok "e"
  | .recordAuditEvent .. => .ok ()
  | _ => .error (.other "offline")

/-- The first delivery of an action. -/
def firstDelivery : List (Event attributeEvaluator) :=
  [wiped 0, .answer 0 online, .answer 0 online, .answer 0 online, .answer 0 online,
    .answer 0 online, .answer 0 online, .answer 0 online]

/-- Two first deliveries, which look for the rule before either of them creates it. -/
def twoFirst : List (Event attributeEvaluator) :=
  [wiped 0, wiped 1, .answer 0 online, .answer 0 online, .answer 1 online, .answer 1 online,
    .answer 0 online, .answer 1 online]

/-- Two later ones, which read the events before either of them writes them. -/
def twoLater : List (Event attributeEvaluator) :=
  firstDelivery ++ [wiped 1, wiped 2, .answer 1 online, .answer 1 online, .answer 1 online,
    .answer 1 online, .answer 2 online, .answer 2 online, .answer 2 online, .answer 2 online,
    .answer 1 online, .answer 2 online]

def noRules : RuleTable := ⟨[], List.nodup_nil⟩

theorem deliveries_consistent_first :
    ((Webhook.start acmeWebhook noRules).run firstDelivery).Consistent := by
  refine deliveries_consistent acmeWebhook noRules firstDelivery ?_
  refine ⟨trivial, ?_, ?_, ?_, ?_, ?_, ?_, ?_, trivial⟩
  · rintro d c k ⟨⟩ ⟨⟩
    exact ⟨fun _ => ⟨_, rfl⟩, trivial⟩
  · rintro d c k ⟨⟩ ⟨⟩
    exact ⟨fun _ => ⟨_, rfl⟩, trivial⟩
  · -- the rule is created
    rintro d c k ⟨⟩ ⟨⟩
    exact ⟨fun _ => ⟨_, rfl⟩, not_mem_nil⟩
  · rintro d c k ⟨⟩ ⟨⟩
    exact ⟨fun _ => ⟨_, rfl⟩, trivial⟩
  · rintro d c k ⟨⟩ ⟨⟩
    exact ⟨fun _ => ⟨_, rfl⟩, trivial⟩
  · -- the event is stored
    rintro d c k ⟨⟩ ⟨⟩
    exact ⟨fun _ => ⟨_, rfl⟩, rfl⟩
  · rintro d c k ⟨⟩ ⟨⟩
    exact ⟨fun _ => ⟨_, rfl⟩, trivial⟩

/-- Whether a delivery with the secret has failed. -/
def Webhook.failed (s : Webhook E) (i : ℕ) : Bool :=
  match s.deliveries i with
  | some ⟨sent, _, .ret (.error _), _⟩ => sent = s.config.secret
  | _ => false

theorem Webhook.Consistent.not_failed (h : s.Consistent) (i : ℕ) :
    s.failed i = false := by
  unfold Webhook.failed
  split
  · next sent _ e _ hd =>
    exact decide_eq_false fun hsent => h.completes i _ hd hsent e rfl
  · rfl

/-- Of two first deliveries one fails, and of two later ones the event of one is lost. -/
theorem deliveries_race :
    ¬((Webhook.start acmeWebhook noRules).run twoFirst).Consistent ∧
    ¬((Webhook.start acmeWebhook noRules).run twoLater).Consistent := by
  have hfailed : ((Webhook.start acmeWebhook noRules).run twoFirst).failed 1 = true := by
    decide +kernel
  have hcount : ((Webhook.start acmeWebhook noRules).run twoLater).received.length = 3 := by
    decide +kernel
  have hstored : ((Webhook.start acmeWebhook noRules).run twoLater).config.recentEvents.length = 2 := by
    decide +kernel
  refine ⟨fun h => ?_, fun h => ?_⟩
  · rw [h.not_failed 1] at hfailed
    cases hfailed
  · rw [h.recent, length_take, length_map, hcount] at hstored
    revert hstored
    decide

end AppliverySoar.Automations.Deliveries
