import Mathlib.Tactic.Linarith
import AppliverySoar.Automations.Paths
import AppliverySoar.Lists.SlidingWindow

/-!
# The hourly cap of a case auto-run rule

Calls of `tryCaseAutorun` (caseAutoRun.service.ts, lines 104–159) and edits of the rules by
`updateCaseAutoRunRule` (lines 56–78), in any order, each call with its own reading of the
rules. Times are in milliseconds. A call is begun with the time that it is going to read: the
answer that it waits for before comes at that time.

Results:
* `meets_tryCaseAutorun`: what one call does for a rule.
* `launches_capped`: no hour has more launches of a rule than its cap, in every run where each
  launch goes by the rule as it is stored, and is recorded.
* `cap_exceeded`: two calls that overlap, and a cap of zero.
-/

namespace AppliverySoar.Automations.Autorun

open Async Access Compliance Workflows List
open Js (Runtime)
open AppliverySoar.Lists

variable {E : Evaluator}

/-! ## One call -/

/-- How far a call has come: the rules that it has read, whether it has found the workflow, and
whether it has launched a run of the rule that it has not recorded yet. -/
structure Progress where
  rules : Option (List CaseAutoRunRule) := none
  located : Bool := false
  unrecorded : Bool := false

/-- The progress by an answered call. -/
def Progress.next (ruleId : String) (g : Progress) (c : AutomationCall E)
    (r : Except ServiceError (AutomationCall.Answer c)) : Progress :=
  match c, r with
  | .findCaseAutoRunRules _, .ok rules => { g with rules := some rules, located := false }
  | .findStoredWorkflow .., .ok _ => { g with located := true }
  | .service _ (.startWorkflowRun (some (id, _)) ..), .ok _ =>
    { g with unrecorded := g.unrecorded || id = ruleId }
  | .updateRecentFires id _, .ok _ => { g with unrecorded := g.unrecorded && id ≠ ruleId }
  | _, _ => g

/-- An answer that lets a launch be recorded. -/
def Smooth (c : AutomationCall E) (r : Except ServiceError (AutomationCall.Answer c)) : Prop :=
  match c, r with
  | .service _ (.durableRunView _), .ok view => view ≠ none
  | _, .ok _ => True
  | _, .error _ => False

/-- Once a run is launched, nothing fails before it is recorded. -/
def recording (ruleId : String) : World (automationSig E) ServiceError Progress where
  may g c r := g.unrecorded = true → Smooth c r
  next := Progress.next ruleId

/-- The rule is one of those that the call has read. -/
def Progress.Has (g : Progress) (rule : CaseAutoRunRule) : Prop :=
  ∃ rules, g.rules = some rules ∧ rule ∈ rules

/-- A launch of the rule is within its cap, and is recorded with the fires of the last hour,
before the rules are read again. -/
def Records (rt : Runtime) (nowIso ruleId : String) (g : Progress) : AutomationCall E → Prop
  | .findCaseAutoRunRules _ => g.unrecorded = false
  | .service _ (.startWorkflowRun (some (id, _)) ..) => id = ruleId →
    g.located = true ∧ g.unrecorded = false ∧ ∃ rule, g.Has rule ∧ rule.id = ruleId ∧
      ((rule.firesInWindow rt).length : ℤ) < rule.maxPerHour
  | .updateRecentFires id fires => id = ruleId →
    g.unrecorded = true ∧ ∃ rule, g.Has rule ∧ rule.id = ruleId ∧
      fires = lastOf 200 (rule.firesInWindow rt ++ [nowIso])
  | _ => True

section Call

variable {rt : Runtime} {nowIso ruleId slug : String} {g : Progress} {rule : CaseAutoRunRule}

theorem meets_ask {α : Type} {c : AutomationCall E}
    {f : AutomationCall.Answer c → Automation E α} {Q : Except ServiceError α → Progress → Prop}
    (hc : Records rt nowIso ruleId g c)
    (he : ∀ e, (recording ruleId).may g c (.error e) →
      Q (.error e) ((recording ruleId).next g c (.error e)))
    (hf : ∀ a, (recording ruleId).may g c (.ok a) →
      (f a).Meets (recording ruleId) (Records rt nowIso ruleId)
        ((recording ruleId).next g c (.ok a)) Q) :
    (ask c >>= f).Meets (recording ruleId) (Records rt nowIso ruleId) g Q :=
  Prog.Meets.call_bind hc he hf

/-- What a launch of a rule leaves, if it returns a run. -/
structure Launched (ruleId : String) (rule : CaseAutoRunRule) (g g' : Progress)
    (r : Option RunView) : Prop where
  rules_eq : g'.rules = g.rules
  of_none : r = none → g'.unrecorded = false
  of_some : r ≠ none → g'.unrecorded = decide (rule.id = ruleId)

theorem meets_launch {deviceId : String} {workflow : StoredWorkflow} {devices : List DeviceRef}
    (hhas : g.Has rule) (hlocated : g.located = true) (hfree : g.unrecorded = false)
    (hroom : ((rule.firesInWindow rt).length : ℤ) < rule.maxPerHour) :
    (launch slug (some (rule.id, deviceId)) workflow devices : Automation E _).Meets
      (recording ruleId) (Records rt nowIso ruleId) g
      (post (fun r g' => Launched ruleId rule g g' r) fun _ g' => g'.unrecorded = false) := by
  have hstart : ∀ runId, Records (E := E) rt nowIso ruleId g (.service slug
      (.startWorkflowRun (some (rule.id, deviceId)) runId workflow.toWorkflow devices)) :=
    fun runId hid => ⟨hlocated, hfree, rule, hhas, hid, hroom⟩
  have hset : (g.unrecorded || decide (rule.id = ruleId)) = decide (rule.id = ruleId) := by
    rw [hfree, Bool.false_or]
  unfold launch within launchWorkflowRun
  rw [Prog.embed_bind]
  refine ⟨trivial, fun r _ => ?_⟩
  rcases r with e | runId
  · exact hfree
  show Prog.Meets _ _ (Prog.embed _ _) g _
  split_ifs
  · refine ⟨trivial, fun r _ => ?_⟩
    rcases r with e | _
    · exact hfree
    refine ⟨hstart _, fun r _ => ?_⟩
    rcases r with e | _
    · exact hfree
    refine ⟨trivial, fun r hmay => ?_⟩
    rcases r with e | view
    · show (g.unrecorded || decide (rule.id = ruleId)) = false
      by_contra hset
      exact hmay (Bool.eq_true_of_not_eq_false hset)
    · refine ⟨rfl, fun hnone => ?_, fun _ => hset⟩
      show (g.unrecorded || decide (rule.id = ruleId)) = false
      by_contra hset
      exact hmay (Bool.eq_true_of_not_eq_false hset) hnone
  · refine ⟨hstart _, fun r _ => ?_⟩
    rcases r with e | _
    · exact hfree
    · exact ⟨rfl, fun hnone => (by cases hnone), fun _ => hset⟩

variable {kase : CaseAutorunTarget}

/-- A rule that applies launches within its cap, and records what it has launched. -/
theorem meets_runCaseRule {auth deviceId : String}
    (hhas : g.Has rule) (hfree : g.unrecorded = false) :
    (runCaseRule rt nowIso slug auth kase deviceId rule : Automation E _).Meets
      (recording ruleId) (Records rt nowIso ruleId) g fun _ g' => g'.unrecorded = false := by
  unfold runCaseRule
  refine meets_ask trivial (fun e _ => hfree) fun found _ => ?_
  have hnext : (recording (E := E) ruleId).next g (.findStoredWorkflow slug rule.workflowId)
      (.ok found) = { g with located := true } := rfl
  rw [hnext]
  rcases found with _ | workflow
  · exact hfree
  dsimp only
  split_ifs with hgate hcap
  · exact hfree
  · exact meets_ask trivial (fun e _ => hfree) fun _ _ => hfree
  refine meets_ask trivial (fun e _ => hfree) fun items _ => ?_
  show Prog.Meets _ _ _ { g with located := true } _
  split
  · exact hfree
  · next device hdevice =>
    refine Prog.Meets.bind (meets_launch hhas rfl hfree (not_le.mp hcap)) fun record g' hg' => ?_
    rcases record with _ | runRecord
    · exact hg'.of_none rfl
    have hset := hg'.of_some (by simp)
    dsimp only
    refine meets_ask (fun hid => ⟨by simp [hset, hid], rule, ?_, hid, rfl⟩) (fun e hmay => ?_)
      fun _ _ => ?_
    · obtain ⟨rules, hrules, hmem⟩ := hhas
      exact ⟨rules, hg'.rules_eq.trans hrules, hmem⟩
    · by_cases hid : rule.id = ruleId
      · exact (hmay (by simp [hset, hid])).elim
      · simp [recording, Progress.next, hset, hid]
    · have hdone : ((recording (E := E) ruleId).next g' (.updateRecentFires rule.id
          (lastOf 200 (rule.firesInWindow rt ++ [nowIso]))) (.ok ())).unrecorded = false := by
        by_cases hid : rule.id = ruleId <;> simp [recording, Progress.next, hset, hid]
      exact meets_ask trivial (fun e _ => hdone) fun _ _ => hdone

/-- What one call does: it launches within the cap of the rule as it has read it, and records
what it has launched before it ends. -/
theorem meets_tryCaseAutorun {auth : Option String} :
    (tryCaseAutorun rt nowIso slug kase auth : Automation E _).Meets
      (recording ruleId) (Records rt nowIso ruleId) {} fun _ g => g.unrecorded = false := by
  unfold tryCaseAutorun
  split
  · refine meets_ask rfl (fun e _ => rfl) fun rules _ => ?_
    split
    · exact rfl
    · next rule hrule =>
      exact meets_runCaseRule ⟨rules, rfl, mem_of_find?_eq_some hrule⟩ rfl
  · exact rfl

end Call

/-! ## Rules -/

/-- The rules of a workspace, in the order in which they were created. -/
structure RuleTable where
  rows : List CaseAutoRunRule
  unique : (rows.map CaseAutoRunRule.id).Nodup

/-- The row with an id. -/
def RuleTable.find (table : RuleTable) (id : String) : Option CaseAutoRunRule :=
  table.rows.find? fun rule => rule.id = id

/-- A change of the row with an id, which stays. -/
def RuleTable.modify (table : RuleTable) (id : String) (f : CaseAutoRunRule → CaseAutoRunRule)
    (hf : ∀ rule, (f rule).id = rule.id) : RuleTable where
  rows := table.rows.map fun rule => if rule.id = id then f rule else rule
  unique := by
    have hids : (table.rows.map fun rule => if rule.id = id then f rule else rule).map
        CaseAutoRunRule.id = table.rows.map CaseAutoRunRule.id := by
      rw [List.map_map]
      refine List.map_congr_left fun rule _ => ?_
      by_cases h : rule.id = id <;> simp [h, hf]
    rw [hids]
    exact table.unique

/-- `prisma.caseAutoRunRule.update({ where: { id }, data: { recentFires } })`. -/
def RuleTable.recordFires (table : RuleTable) (id : String) (fires : List String) : RuleTable :=
  table.modify id (fun rule => { rule with recentFires := fires }) fun _ => rfl

structure CaseAutoRunRulePayload where
  name : String
  enabled : Bool := true
  minSeverity : String := "high"
  mitreTechniques : List String := []
  workflowId : String
  autoRunDestructiveAck : Bool := false
  maxFiresPerHour : ℤ := 10

/-- What an edit leaves of a row: its id and its recent fires. -/
def CaseAutoRunRulePayload.edit (payload : CaseAutoRunRulePayload) (rule : CaseAutoRunRule) :
    CaseAutoRunRule :=
  { rule with
    name := payload.name
    enabled := payload.enabled
    minSeverity := payload.minSeverity
    mitreTechniques := payload.mitreTechniques
    workflowId := payload.workflowId
    autoRunDestructiveAck := payload.autoRunDestructiveAck
    maxFiresPerHour := payload.maxFiresPerHour }

theorem CaseAutoRunRulePayload.edit_id (payload : CaseAutoRunRulePayload)
    (rule : CaseAutoRunRule) : (payload.edit rule).id = rule.id := rfl

/-- `CASE_SEVERITIES`. -/
def caseSeverities : List String :=
  ["low", "medium", "high", "critical"]

/-- `updateCaseAutoRunRule`; `workflow` is the row that `validateDestructive` finds. -/
def updateCaseAutoRunRule (table : RuleTable) (ruleId : String) (payload : CaseAutoRunRulePayload)
    (workflow : Option StoredWorkflow) : Except HttpError RuleTable :=
  if payload.minSeverity ∉ caseSeverities then
    .error ⟨400, "minSeverity must be one of [\"low\",\"medium\",\"high\",\"critical\"]"⟩
  else if payload.enabled && workflowHasDestructiveStep (workflow.map StoredWorkflow.toWorkflow) &&
      !payload.autoRunDestructiveAck then
    .error ⟨400, "Workflow \"" ++ (workflow.map fun w => w.name).getD "undefined" ++
      "\" contains a destructive action (wipe, unenroll, disable, etc.) — enabling this rule requires explicit acknowledgment."⟩
  else match table.find ruleId with
    | none => .error ⟨404, "Case Auto-Run rule not found"⟩
    | some _ => .ok (table.modify ruleId payload.edit payload.edit_id)

/-! ## Runs -/

/-- A launch of the rule that is looked at: when it was launched, the time that its call had
read, which is recorded, and `maxFiresPerHour` at the launch. -/
structure Launch where
  launchedAt : ℚ
  now : ℚ
  cap : ℤ
  deriving DecidableEq

/-- A call that goes on: the time that it reads, when it read the rules and how many launches
there were then. -/
structure AutorunCall (E : Evaluator) where
  now : ℚ
  rest : Automation E (Option RunView)
  progress : Progress
  readAt : ℚ
  launchesThen : ℕ

/-- The rules, the clock, the calls, and the launches of one rule, the newest first. -/
structure Autoruns (E : Evaluator) where
  rules : RuleTable
  clock : ℚ
  calls : ℕ → Option (AutorunCall E)
  launches : List Launch

/-- An answer for whatever is awaited. -/
abbrev Reply (E : Evaluator) : Type :=
  (c : AutomationCall E) → Except ServiceError (AutomationCall.Answer c)

/-- The table answers a read of the rules, unless the read fails. -/
def Autoruns.answer (s : Autoruns E) (reply : Reply E) :
    (c : AutomationCall E) → Except ServiceError (AutomationCall.Answer c)
  | .findCaseAutoRunRules slug =>
    match reply (.findCaseAutoRunRules slug) with
    | .ok _ => .ok s.rules.rows
    | .error e => .error e
  | c => reply c

/-- What an answered call does to the rules and to the launches. -/
def Autoruns.perform (s : Autoruns E) (ruleId : String) (now : ℚ) (c : AutomationCall E)
    (r : Except ServiceError (AutomationCall.Answer c)) : Autoruns E :=
  match c, r with
  | .service _ (.startWorkflowRun (some (id, _)) ..), .ok _ =>
    if id = ruleId then
      { s with launches :=
        ⟨s.clock, now, ((s.rules.find ruleId).map fun rule => rule.maxFiresPerHour).getD 0⟩ ::
          s.launches }
    else s
  | .updateRecentFires id fires, .ok _ => { s with rules := s.rules.recordFires id fires }
  | _, _ => s

/-- The call goes on, or has ended. -/
def Autoruns.goOn (s : Autoruns E) (i : ℕ) (call : AutorunCall E) : Autoruns E :=
  { s with
    calls := Function.update s.calls i (match call.rest with
      | .ret _ => none
      | .await _ _ => some call) }

/-- What can happen. -/
inductive Event (E : Evaluator)
  | tick (ms : ℕ)
  | call (i : ℕ) (kase : CaseAutorunTarget) (authorization : Option String) (now : ℚ)
  | answer (i : ℕ) (reply : Reply E)
  | edit (ruleId : String) (payload : CaseAutoRunRulePayload) (workflow : Option StoredWorkflow)

/-- A clock that `new Date(ts)` reads as `toISOString` writes it. -/
structure IsoClock where
  rt : Runtime
  toISOString : ℚ → String
  parse_toISOString : ∀ t, rt.parseDate (toISOString t) = some t

/-- What a call runs at a time. -/
def IsoClock.at (clock : IsoClock) (now : ℚ) : Runtime :=
  { clock.rt with now := now }

/-- The rules are read. -/
def readsRules (c : AutomationCall E) (r : Except ServiceError (AutomationCall.Answer c)) : Bool :=
  match c, r with
  | .findCaseAutoRunRules _, .ok _ => true
  | _, _ => false

/-- The call after which the time is read. -/
def findsWorkflow : AutomationCall E → Bool
  | .findStoredWorkflow .. => true
  | _ => false

/-- The progress, with the time and the launches at the reading of the rules. -/
def AutorunCall.answered (call : AutorunCall E) (s : Autoruns E) (ruleId : String)
    (c : AutomationCall E) (r : Except ServiceError (AutomationCall.Answer c))
    (rest : Automation E (Option RunView)) : AutorunCall E where
  now := call.now
  rest := rest
  progress := call.progress.next ruleId c r
  readAt := if readsRules c r then s.clock else call.readAt
  launchesThen := if readsRules c r then s.launches.length else call.launchesThen

/-- The state after an event. The answer after which a call reads the time comes at the time
that it was begun with. -/
def Autoruns.step (clock : IsoClock) (slug ruleId : String) (s : Autoruns E) :
    Event E → Autoruns E
  | .tick ms => { s with clock := s.clock + ms }
  | .call i kase authorization now =>
    match s.calls i with
    | none => s.goOn i
      { now := now
        rest := tryCaseAutorun (clock.at now) (clock.toISOString now) slug kase authorization
        progress := {}
        readAt := s.clock
        launchesThen := s.launches.length }
    | some _ => s
  | .answer i reply =>
    match s.calls i with
    | some ⟨now, .await c k, progress, readAt, launchesThen⟩ =>
      if findsWorkflow c ∧ s.clock ≠ now then s
      else
        let call : AutorunCall E := ⟨now, .await c k, progress, readAt, launchesThen⟩
        (s.perform ruleId now c (s.answer reply c)).goOn i
          (call.answered s ruleId c (s.answer reply c) (k (s.answer reply c)))
    | _ => s
  | .edit id payload workflow =>
    match updateCaseAutoRunRule s.rules id payload workflow with
    | .ok rules => { s with rules := rules }
    | .error _ => s

def Autoruns.run (clock : IsoClock) (slug ruleId : String) (s : Autoruns E)
    (events : List (Event E)) : Autoruns E :=
  events.foldl (Autoruns.step clock slug ruleId) s

/-- The rules of a workspace, of which one has just been created. -/
def Autoruns.start (rules : RuleTable) (ruleId : String) (now : ℚ) : Autoruns E where
  rules := rules.recordFires ruleId []
  clock := now
  calls := fun _ => none
  launches := []

/-! ## Specification -/

/-- An hour. -/
def hourMs : ℚ := 3600000

/-- Every 60 minutes have no more launches than the largest cap of the rule at one of them. -/
def Autoruns.Capped (s : Autoruns E) : Prop :=
  ∀ (m : ℤ) (a : ℚ), (∀ l ∈ s.launches, a ≤ l.launchedAt → l.launchedAt ≤ a + hourMs → l.cap ≤ m) →
    ((s.launches.filter fun l => a ≤ l.launchedAt ∧ l.launchedAt ≤ a + hourMs).length : ℤ) ≤ max m 0

/-- A launch of the rule that keeps its cap: no launch of it is unrecorded, and none has come
since the call read the rules, whose cap and fires are still those that are stored; the
cap is not zero, and no more than the 200 fires that are kept, unless fewer are in the last
hour; and what was launched in the last hour counts at the time that the call has read. -/
structure LaunchTimely (clock : IsoClock) (s : Autoruns E) (ruleId : String)
    (call : AutorunCall E) : Prop where
  alone : ∀ j other, s.calls j = some other → other.progress.unrecorded = false
  since : s.launches.length = call.launchesThen
  stored : ∀ rule, call.progress.Has rule → rule.id = ruleId → ∃ row,
    s.rules.find ruleId = some row ∧ row.recentFires = rule.recentFires ∧
    row.maxFiresPerHour = rule.maxFiresPerHour
  limit : ∀ rule, call.progress.Has rule → rule.id = ruleId → rule.maxFiresPerHour ≠ 0 ∧
    (rule.maxFiresPerHour ≤ 200 ∨ (rule.firesInWindow (clock.at call.now)).length < 200)
  counted : ∀ l ∈ s.launches, s.clock - hourMs ≤ l.launchedAt → call.now - hourMs ≤ l.now

/-- An answer that launches a run of the rule does it so. -/
def LaunchesTimely (clock : IsoClock) (s : Autoruns E) (ruleId : String) (call : AutorunCall E)
    (c : AutomationCall E) (r : Except ServiceError (AutomationCall.Answer c)) : Prop :=
  match c, r with
  | .service _ (.startWorkflowRun (some (id, _)) ..), .ok _ =>
    id = ruleId → LaunchTimely clock s ruleId call
  | _, _ => True

/-- A step that keeps the cap: its launches do, and what is launched is recorded. -/
def Timely (clock : IsoClock) (ruleId : String) (s : Autoruns E) : Event E → Prop
  | .answer i reply => ∀ call c k, s.calls i = some call → call.rest = .await c k →
    (call.progress.unrecorded = true → Smooth c (reply c)) ∧
    LaunchesTimely clock s ruleId call c (reply c)
  | _ => True

/-- A run of such steps. -/
def AllTimely (clock : IsoClock) (slug ruleId : String) : Autoruns E → List (Event E) → Prop
  | _, [] => True
  | s, e :: events => Timely clock ruleId s e ∧
    AllTimely clock slug ruleId (s.step clock slug ruleId e) events

/-! ## What is stored of the launches -/

section Stored

variable {clock : IsoClock} {rule row : CaseAutoRunRule} {launches older : List Launch} {l : Launch}
  {t : ℚ}

/-- Of the fires that are stored, those of the hour before `t` are the newest 200 launches of
that hour. -/
def Kept (clock : IsoClock) (rule : CaseAutoRunRule) (launches : List Launch) (t : ℚ) : Prop :=
  rule.firesInWindow (clock.at t) =
    (((recent Launch.now (t - hourMs) launches).take 200).map fun l =>
      clock.toISOString l.now).reverse

/-- So it is at every time from the newest launch on. -/
def Stored (clock : IsoClock) (rule : CaseAutoRunRule) (launches : List Launch) : Prop :=
  ∀ t, (∀ l ∈ launches, l.now ≤ t) → Kept clock rule launches t

theorem Kept.congr (h : Kept clock rule launches t) (hfires : row.recentFires = rule.recentFires) :
    Kept clock row launches t := by
  unfold Kept CaseAutoRunRule.firesInWindow at h ⊢
  rw [hfires]
  exact h

theorem lastOf_reverse {α : Type} (n : ℕ) (l : List α) : lastOf n l.reverse = (l.take n).reverse := by
  unfold lastOf
  rw [length_reverse, drop_reverse]
  rcases Nat.le_total l.length n with h | h
  · rw [take_of_length_le h, Nat.sub_eq_zero_of_le h, Nat.sub_zero, take_length]
  · rw [Nat.sub_sub_self h]

/-- The fires of a window, of fires that were written as launches. -/
theorem firesInWindow_map (h : row.recentFires =
    (launches.map fun l => clock.toISOString l.now).reverse) :
    row.firesInWindow (clock.at t) =
      ((recent Launch.now (t - hourMs) launches).map fun l => clock.toISOString l.now).reverse := by
  unfold CaseAutoRunRule.firesInWindow
  rw [h, filter_reverse, filter_map]
  unfold recent
  congr 2
  refine filter_congr fun l _ => ?_
  simp [IsoClock.at, clock.parse_toISOString, hourMs]

/-- What is recorded of a launch, with the fires that its call had read. -/
theorem stored_record (hnewest : NewestFirst Launch.now (l :: older))
    (hkept : Kept clock rule older l.now)
    (hrow : row.recentFires =
      lastOf 200 (rule.firesInWindow (clock.at l.now) ++ [clock.toISOString l.now])) :
    Stored clock row (l :: older) := by
  intro t ht
  have hfires : row.recentFires =
      (((l :: recent Launch.now (l.now - hourMs) older).take 200).map fun l =>
        clock.toISOString l.now).reverse := by
    rw [hrow, hkept, ← reverse_cons, lastOf_reverse]
    congr 1
    rw [take_cons (by decide), take_cons (by decide), map_cons, map_take,
      map_take, take_take]
    rfl
  have hsorted : NewestFirst Launch.now (l :: recent Launch.now (l.now - hourMs) older) :=
    hnewest.sublist (Sublist.cons_cons l filter_sublist)
  have hsince : l.now - hourMs ≤ t - hourMs := by linarith [ht l mem_cons_self]
  unfold Kept
  rw [firesInWindow_map hfires, take_filter_recent hsorted, recent_cons, recent_recent hsince,
    recent_cons]

end Stored

/-! ## The invariant -/

section Invariant

variable {clock : IsoClock} {slug ruleId : String} {s : Autoruns E} {launches : List Launch}
  {now : ℚ} {call : AutorunCall E}

theorem RuleTable.find_modify (table : RuleTable) (id ruleId : String)
    (f : CaseAutoRunRule → CaseAutoRunRule) (hf : ∀ rule, (f rule).id = rule.id) :
    (table.modify id f hf).find ruleId =
      (table.find ruleId).map fun rule => if ruleId = id then f rule else rule := by
  unfold RuleTable.find RuleTable.modify
  rw [find?_map]
  have hid : ((fun rule : CaseAutoRunRule => decide (rule.id = ruleId)) ∘
      fun rule => if rule.id = id then f rule else rule) = fun rule => decide (rule.id = ruleId) := by
    funext rule
    by_cases h : rule.id = id <;> simp [h, hf]
  rw [hid]
  cases hfind : table.rows.find? fun rule => decide (rule.id = ruleId) with
  | none => rfl
  | some rule =>
    have hrule : rule.id = ruleId := by simpa using find?_some hfind
    simp [hrule]

theorem RuleTable.find_recordFires (table : RuleTable) (id ruleId : String) (fires : List String) :
    (table.recordFires id fires).find ruleId = (table.find ruleId).map fun rule =>
      if ruleId = id then { rule with recentFires := fires } else rule :=
  RuleTable.find_modify table id ruleId (fun rule => { rule with recentFires := fires }) fun _ => rfl

/-- What is known of a call that goes on. -/
structure InCall (clock : IsoClock) (ruleId : String) (now : ℚ) (launches : List Launch)
    (call : AutorunCall E) : Prop where
  meets : call.rest.Meets (recording ruleId)
    (Records (clock.at call.now) (clock.toISOString call.now) ruleId) call.progress
    fun _ g => g.unrecorded = false
  read : call.readAt ≤ now
  located : call.progress.located = true → call.readAt ≤ call.now ∧ call.now ≤ now
  before : launches.length = call.launchesThen → ∀ l ∈ launches, l.now ≤ call.readAt
  then_le : call.launchesThen ≤ launches.length
  unrecorded : call.progress.unrecorded = true → ∃ l older, launches = l :: older ∧
    l.now = call.now ∧ ∀ rule, call.progress.Has rule → rule.id = ruleId →
      Kept clock rule older l.now

/-- What is known in a run of timely steps. -/
structure Limiting (clock : IsoClock) (ruleId : String) (s : Autoruns E) : Prop where
  past : ∀ l ∈ s.launches, l.now ≤ l.launchedAt ∧ l.launchedAt ≤ s.clock
  newest : NewestFirst Launch.now s.launches
  capped : WindowCapped Launch.launchedAt (· - hourMs) Launch.cap s.launches
  single : ∀ i j call other, s.calls i = some call → s.calls j = some other →
    call.progress.unrecorded = true → other.progress.unrecorded = true → i = j
  stored : (∀ i call, s.calls i = some call → call.progress.unrecorded = false) →
    ∀ row, s.rules.find ruleId = some row → Stored clock row s.launches
  calls : ∀ i call, s.calls i = some call → InCall clock ruleId s.clock s.launches call

theorem InCall.later (h : InCall clock ruleId now launches call) {now' : ℚ} (hle : now ≤ now') :
    InCall clock ruleId now' launches call where
  meets := h.meets
  read := le_trans h.read hle
  located hlocated := (h.located hlocated).imp_right fun hnow => le_trans hnow hle
  before := h.before
  then_le := h.then_le
  unrecorded := h.unrecorded

theorem InCall.launched (h : InCall clock ruleId now launches call)
    (hfree : call.progress.unrecorded = false) (l : Launch) :
    InCall clock ruleId now (l :: launches) call where
  meets := h.meets
  read := h.read
  located := h.located
  before heq := absurd h.then_le (by rw [← heq]; exact Nat.not_succ_le_self _)
  then_le := Nat.le_succ_of_le h.then_le
  unrecorded hset := by
    rw [hfree] at hset
    cases hset

theorem goOn_self (i : ℕ) (call : AutorunCall E) : (s.goOn i call).calls i =
    match call.rest with
    | .ret _ => none
    | .await _ _ => some call :=
  Function.update_self ..

theorem goOn_other {i j : ℕ} (h : j ≠ i) (call : AutorunCall E) :
    (s.goOn i call).calls j = s.calls j :=
  Function.update_of_ne h ..

theorem Limiting.goOn {i : ℕ} (past : ∀ l ∈ s.launches, l.now ≤ l.launchedAt ∧ l.launchedAt ≤ s.clock)
    (newest : NewestFirst Launch.now s.launches)
    (capped : WindowCapped Launch.launchedAt (· - hourMs) Launch.cap s.launches)
    (others : ∀ j other, j ≠ i → s.calls j = some other →
      InCall clock ruleId s.clock s.launches other)
    (single : ∀ j k other other', j ≠ i → k ≠ i → s.calls j = some other →
      s.calls k = some other' → other.progress.unrecorded = true →
      other'.progress.unrecorded = true → j = k)
    (alone : call.progress.unrecorded = true → ∀ j other, j ≠ i → s.calls j = some other →
      other.progress.unrecorded = false)
    (hcall : InCall clock ruleId s.clock s.launches call)
    (stored : call.progress.unrecorded = false →
      (∀ j other, j ≠ i → s.calls j = some other → other.progress.unrecorded = false) →
      ∀ row, s.rules.find ruleId = some row → Stored clock row s.launches) :
    Limiting clock ruleId (s.goOn i call) := by
  have hself : ∀ other, (s.goOn i call).calls i = some other → other = call := by
    intro other hother
    rw [goOn_self] at hother
    split at hother
    · cases hother
    · exact (Option.some.inj hother).symm
  refine ⟨past, newest, capped, fun j k other other' hj hk hset hset' => ?_, fun hfree => ?_,
    fun j other hj => ?_⟩
  · by_cases hji : j = i
    · subst hji
      by_cases hki : k = j
      · exact hki.symm
      · rw [goOn_other hki] at hk
        rw [hself other hj] at hset
        rw [alone hset k other' hki hk] at hset'
        cases hset'
    · rw [goOn_other hji] at hj
      by_cases hki : k = i
      · subst hki
        rw [hself other' hk] at hset'
        rw [alone hset' j other hji hj] at hset
        cases hset
      · rw [goOn_other hki] at hk
        exact single j k other other' hji hki hj hk hset hset'
  · refine stored ?_ fun j other hji hj => hfree j other (by rwa [goOn_other hji])
    cases hrest : call.rest with
    | ret r =>
      have hmeets := hcall.meets
      rw [hrest] at hmeets
      exact hmeets
    | await c k =>
      refine hfree i call ?_
      rw [goOn_self, hrest]
  · by_cases hji : j = i
    · subst hji
      rw [hself other hj]
      exact hcall
    · rw [goOn_other hji] at hj
      exact others j other hji hj

end Invariant

/-! ## Answers -/

section Answers

variable {clock : IsoClock} {slug ruleId : String} {s : Autoruns E} {now : ℚ} {call : AutorunCall E}
  {g : Progress} {c : AutomationCall E} {r : Except ServiceError (AutomationCall.Answer c)}

/-- What an answered call is for a rule: a launch of it, a record of its fires, or neither. -/
inductive Effect (ruleId : String) :
    (c : AutomationCall E) → Except ServiceError (AutomationCall.Answer c) → Prop
  | launch (slug deviceId runId : String) (workflow : Workflow) (devices : List DeviceRef)
      (a : Unit) : Effect ruleId (.service slug
        (.startWorkflowRun (some (ruleId, deviceId)) runId workflow devices)) (.ok a)
  | record (fires : List String) (a : Unit) : Effect ruleId (.updateRecentFires ruleId fires) (.ok a)
  | quiet {c : AutomationCall E} {r : Except ServiceError (AutomationCall.Answer c)}
      (launches : ∀ (s : Autoruns E) now, (s.perform ruleId now c r).launches = s.launches)
      (rules : ∀ (s : Autoruns E) now,
        (s.perform ruleId now c r).rules.find ruleId = s.rules.find ruleId)
      (unrecorded : ∀ g : Progress, (g.next ruleId c r).unrecorded = g.unrecorded) :
      Effect ruleId c r

theorem effect (ruleId : String) (c : AutomationCall E)
    (r : Except ServiceError (AutomationCall.Answer c)) : Effect ruleId c r := by
  cases r with
  | error e =>
    cases c with
    | service slug c =>
      cases c with
      | startWorkflowRun pair runId workflow devices =>
        cases pair <;> exact .quiet (fun _ _ => rfl) (fun _ _ => rfl) fun _ => rfl
      | _ => exact .quiet (fun _ _ => rfl) (fun _ _ => rfl) fun _ => rfl
    | _ => exact .quiet (fun _ _ => rfl) (fun _ _ => rfl) fun _ => rfl
  | ok a =>
    cases c with
    | service slug c =>
      cases c with
      | startWorkflowRun pair runId workflow devices =>
        rcases pair with _ | ⟨id, deviceId⟩
        · exact .quiet (fun _ _ => rfl) (fun _ _ => rfl) fun _ => rfl
        · by_cases hid : id = ruleId
          · subst hid
            exact .launch slug deviceId runId workflow devices a
          · exact .quiet (fun _ _ => by simp [Autoruns.perform, hid])
              (fun _ _ => by simp [Autoruns.perform, hid]) fun _ => by simp [Progress.next, hid]
      | _ => exact .quiet (fun _ _ => rfl) (fun _ _ => rfl) fun _ => rfl
    | updateRecentFires id fires =>
      by_cases hid : id = ruleId
      · subst hid
        exact .record fires a
      · refine .quiet (fun _ _ => rfl) (fun s _ => ?_) fun _ => by simp [Progress.next, hid]
        show (s.rules.recordFires id fires).find ruleId = s.rules.find ruleId
        rw [RuleTable.find_recordFires]
        simp [Ne.symm hid]
    | _ => exact .quiet (fun _ _ => rfl) (fun _ _ => rfl) fun _ => rfl

theorem perform_frame (s : Autoruns E) (ruleId : String) (now : ℚ) (c : AutomationCall E)
    (r : Except ServiceError (AutomationCall.Answer c)) : (s.perform ruleId now c r).calls = s.calls ∧
    (s.perform ruleId now c r).clock = s.clock := by
  unfold Autoruns.perform
  split
  · split_ifs <;> exact ⟨rfl, rfl⟩
  · exact ⟨rfl, rfl⟩
  · exact ⟨rfl, rfl⟩

theorem next_of_reads (ruleId : String) (g : Progress) (h : readsRules c r = true) :
    (g.next ruleId c r).located = false ∧ (g.next ruleId c r).unrecorded = g.unrecorded := by
  unfold readsRules at h
  split at h
  · exact ⟨rfl, rfl⟩
  · cases h

theorem unrecorded_of_reads {rt : Runtime} {nowIso : String} (h : readsRules c r = true)
    (hok : Records rt nowIso ruleId g c) : g.unrecorded = false := by
  unfold readsRules at h
  split at h
  · exact hok
  · cases h

theorem next_rules (h : readsRules c r = false) : (g.next ruleId c r).rules = g.rules := by
  unfold Progress.next
  split
  · cases h
  all_goals rfl

theorem next_located (h : (g.next ruleId c r).located = true) :
    findsWorkflow c = true ∨ g.located = true := by
  unfold Progress.next at h
  split at h
  · cases h
  · exact Or.inl rfl
  all_goals exact Or.inr h

theorem InCall.quiet {k : Except ServiceError (AutomationCall.Answer c) → Automation E _}
    (h : InCall clock ruleId s.clock s.launches call)
    (hpast : ∀ l ∈ s.launches, l.now ≤ l.launchedAt ∧ l.launchedAt ≤ s.clock)
    (hok : Records (clock.at call.now) (clock.toISOString call.now) ruleId call.progress c)
    (hmeets : (k r).Meets (recording ruleId)
      (Records (clock.at call.now) (clock.toISOString call.now) ruleId)
      (call.progress.next ruleId c r) fun _ g => g.unrecorded = false)
    (hnow : findsWorkflow c = true → s.clock = call.now)
    (hunrecorded : (call.progress.next ruleId c r).unrecorded = call.progress.unrecorded) :
    InCall clock ruleId s.clock s.launches (call.answered s ruleId c r (k r)) := by
  unfold AutorunCall.answered
  by_cases hreads : readsRules c r = true
  · obtain ⟨hlocated, hsame⟩ := next_of_reads ruleId call.progress hreads
    refine ⟨hmeets, ?_, fun hset => ?_, fun _ l hl => ?_, ?_, fun hset => ?_⟩
    · simp only [hreads, if_true]
      exact le_refl _
    · exact absurd (hlocated.symm.trans hset) Bool.false_ne_true
    · simp only [hreads, if_true]
      exact le_trans (hpast l hl).1 (hpast l hl).2
    · simp only [hreads, if_true]
      exact le_refl _
    · exact absurd ((unrecorded_of_reads hreads hok).symm.trans (hsame.symm.trans hset))
        Bool.false_ne_true
  · have hreads' : readsRules c r = false := Bool.eq_false_of_not_eq_true hreads
    simp only [hreads', Bool.false_eq_true, if_false]
    refine ⟨hmeets, h.read, fun hset => ?_, h.before, h.then_le, fun hset => ?_⟩
    · rcases next_located hset with hfinds | hlocated
      · rw [← hnow hfinds]
        exact ⟨h.read, le_refl _⟩
      · exact h.located hlocated
    · obtain ⟨l, older, hl, hlnow, hkept⟩ := h.unrecorded (hunrecorded.symm.trans hset)
      refine ⟨l, older, hl, hlnow, fun rule hrule => hkept rule ?_⟩
      obtain ⟨rules, hrules, hmem⟩ := hrule
      exact ⟨rules, (next_rules hreads').symm.trans hrules, hmem⟩

end Answers

/-! ## Steps -/

section Steps

variable {clock : IsoClock} {slug ruleId : String} {s : Autoruns E} {call : AutorunCall E}
  {c : AutomationCall E} {reply : Reply E}

/-- A launch within the cap, of a rule that counts what was launched in the last hour. -/
theorem capped_launch {rule : CaseAutoRunRule} {now t : ℚ} {launches : List Launch}
    (hcapped : WindowCapped Launch.launchedAt (· - hourMs) Launch.cap launches)
    (hkept : Kept clock rule launches t)
    (hroom : ((rule.firesInWindow (clock.at t)).length : ℤ) < rule.maxPerHour)
    (hlimit : rule.maxFiresPerHour ≠ 0 ∧ (rule.maxFiresPerHour ≤ 200 ∨
      (rule.firesInWindow (clock.at t)).length < 200))
    (hcounted : ∀ l ∈ launches, now - hourMs ≤ l.launchedAt → t - hourMs ≤ l.now) :
    WindowCapped Launch.launchedAt (· - hourMs) Launch.cap
      (⟨now, t, rule.maxFiresPerHour⟩ :: launches) := by
  refine ⟨?_, hcapped⟩
  have hlength : (rule.firesInWindow (clock.at t)).length =
      min 200 (recent Launch.now (t - hourMs) launches).length := by
    rw [hkept, length_reverse, length_map, length_take]
  have hmax : rule.maxPerHour = rule.maxFiresPerHour := if_neg hlimit.1
  -- fewer than 200 launches lie in the hour that is counted
  have hfew : ((recent Launch.now (t - hourMs) launches).length : ℤ) < rule.maxFiresPerHour := by
    rw [hmax] at hroom
    rcases hlimit.2 with hle | hlt <;> omega
  have hsub : (recent Launch.launchedAt (now - hourMs) launches).length ≤
      (recent Launch.now (t - hourMs) launches).length := by
    unfold recent
    rw [← countP_eq_length_filter, ← countP_eq_length_filter]
    refine countP_mono_left fun l hl hrecent => ?_
    rw [decide_eq_true_iff] at hrecent ⊢
    exact hcounted l hl hrecent
  have hself : now - hourMs ≤ now := by
    unfold hourMs
    linarith
  show ((recent Launch.launchedAt (now - hourMs) (⟨now, t, rule.maxFiresPerHour⟩ ::
    launches)).length : ℤ) ≤ rule.maxFiresPerHour
  rw [recent_cons, if_pos hself, length_cons]
  omega

theorem Limiting.answered (h : Limiting clock ruleId s) {i : ℕ}
    {k : Except ServiceError (AutomationCall.Answer c) → Automation E (Option RunView)}
    (hcall : s.calls i = some call) (hrest : call.rest = .await c k)
    {r : Except ServiceError (AutomationCall.Answer c)}
    (hsmooth : call.progress.unrecorded = true → Smooth c r)
    (hlaunch : LaunchesTimely clock s ruleId call c r)
    (hnow : findsWorkflow c = true → s.clock = call.now) :
    Limiting clock ruleId
      ((s.perform ruleId call.now c r).goOn i (call.answered s ruleId c r (k r))) := by
  have hin := h.calls i call hcall
  have hawait := hin.meets
  rw [hrest] at hawait
  have hok : Records (clock.at call.now) (clock.toISOString call.now) ruleId call.progress c :=
    hawait.1
  have hmeets : (k r).Meets (recording ruleId)
      (Records (clock.at call.now) (clock.toISOString call.now) ruleId)
      (call.progress.next ruleId c r) fun _ g => g.unrecorded = false := hawait.2 r hsmooth
  obtain ⟨hcalls, hclock⟩ := perform_frame s ruleId call.now c r
  clear hawait
  cases effect ruleId c r with
  | quiet hlaunches hrules hunrecorded =>
    have hlaunches := hlaunches s call.now
    have hrules := hrules s call.now
    have hunrecorded := hunrecorded call.progress
    have hquiet := hin.quiet h.past hok hmeets hnow hunrecorded
    refine Limiting.goOn ?_ ?_ ?_ ?_ ?_ ?_ ?_ ?_
    · rw [hlaunches, hclock]
      exact h.past
    · rw [hlaunches]
      exact h.newest
    · rw [hlaunches]
      exact h.capped
    · rw [hlaunches, hclock, hcalls]
      exact fun j other _ hj => h.calls j other hj
    · rw [hcalls]
      exact fun j k other other' _ _ hj hk => h.single j k other other' hj hk
    · rw [hcalls]
      intro hset j other hji hj
      by_contra hfree
      exact hji (h.single j i other call hj hcall (Bool.eq_true_of_not_eq_false hfree)
        (hunrecorded.symm.trans hset))
    · rw [hlaunches, hclock]
      exact hquiet
    · rw [hlaunches, hcalls, hrules]
      intro hfree hothers
      refine h.stored fun j other hj => ?_
      by_cases hji : j = i
      · subst hji
        obtain rfl := Option.some.inj (hcall.symm.trans hj)
        exact hunrecorded.symm.trans hfree
      · exact hothers j other hji hj
  | launch slug deviceId runId workflow devices a =>
    obtain ⟨hlocated, hfree, rule, hhas, hid, hroom⟩ := hok rfl
    obtain ⟨halone, hsince, hstored, hlimit, hcounted⟩ := hlaunch rfl
    obtain ⟨hread, hnow⟩ := hin.located hlocated
    have hbefore : ∀ l ∈ s.launches, l.now ≤ call.now := fun l hl =>
      le_trans (hin.before hsince l hl) hread
    -- the fires that the call has read are those of the launches
    have hkept : ∀ rule, call.progress.Has rule → rule.id = ruleId →
        Kept clock rule s.launches call.now := by
      intro rule hhas hid
      obtain ⟨row, hrow, hfires, -⟩ := hstored rule hhas hid
      exact (h.stored halone row hrow call.now hbefore).congr hfires.symm
    obtain ⟨row, hrow, hfires, hcap⟩ := hstored rule hhas hid
    have heffect : s.perform ruleId call.now (.service slug (.startWorkflowRun
        (some (ruleId, deviceId)) runId workflow devices)) (.ok a) =
        { s with launches := ⟨s.clock, call.now, rule.maxFiresPerHour⟩ :: s.launches } := by
      simp [Autoruns.perform, hrow, hcap]
    rw [heffect]
    have hnever : call.launchesThen ≠ s.launches.length + 1 :=
      Nat.ne_of_lt (Nat.lt_succ_of_le hin.then_le)
    have hnewCall : InCall clock ruleId s.clock
        (⟨s.clock, call.now, rule.maxFiresPerHour⟩ :: s.launches)
        (call.answered s ruleId (.service slug (.startWorkflowRun (some (ruleId, deviceId)) runId
          workflow devices)) (.ok a) (k (.ok a))) :=
      ⟨hmeets, hin.read, fun _ => ⟨hread, hnow⟩, fun heq => absurd heq.symm hnever,
        Nat.le_succ_of_le hin.then_le, fun _ => ⟨_, s.launches, rfl, rfl, hkept⟩⟩
    refine Limiting.goOn ?_ ?_ ?_ ?_ ?_ ?_ hnewCall ?_
    · intro l hl
      rcases mem_cons.mp hl with rfl | hl
      · exact ⟨hnow, le_refl _⟩
      · exact h.past l hl
    · exact pairwise_cons.mpr ⟨hbefore, h.newest⟩
    · exact capped_launch h.capped (hkept rule hhas hid) hroom (hlimit rule hhas hid) hcounted
    · exact fun j other _ hj => (h.calls j other hj).launched (halone j other hj) _
    · exact fun j k other other' _ _ hj hk => h.single j k other other' hj hk
    · exact fun _ j other _ hj => halone j other hj
    · intro hfree' _ row _
      have hset : (call.progress.unrecorded || decide (ruleId = ruleId)) = true := by simp
      exact absurd (hset.symm.trans hfree') (by decide)
  | record fires a =>
    obtain ⟨hset, rule, hhas, hid, hfires⟩ := hok rfl
    obtain ⟨l, older, hl, hlnow, hkept⟩ := hin.unrecorded hset
    have hothers : ∀ j other, j ≠ i → s.calls j = some other → other.progress.unrecorded = false := by
      intro j other hji hj
      by_contra hfree
      exact hji (h.single j i other call hj hcall (Bool.eq_true_of_not_eq_false hfree) hset)
    have hdone : (call.progress.unrecorded && decide (ruleId ≠ ruleId)) = false := by simp
    have hnewCall : InCall clock ruleId s.clock s.launches
        (call.answered s ruleId (.updateRecentFires ruleId fires) (.ok a) (k (.ok a))) :=
      ⟨hmeets, hin.read, hin.located, hin.before, hin.then_le,
        fun hset' => absurd (hdone.symm.trans hset') (by decide)⟩
    refine Limiting.goOn h.past h.newest h.capped (fun j other _ hj => h.calls j other hj)
      (fun j k other other' _ _ hj hk => h.single j k other other' hj hk)
      (fun hset' => absurd (hdone.symm.trans hset') (by decide)) hnewCall ?_
    rintro - - row hrow
    have hrow' : row.recentFires = fires := by
      rw [show (s.perform ruleId call.now (.updateRecentFires ruleId fires) (.ok a)).rules =
        s.rules.recordFires ruleId fires from rfl, RuleTable.find_recordFires] at hrow
      obtain ⟨old, -, rfl⟩ := Option.map_eq_some_iff.mp hrow
      rw [if_pos rfl]
    have hnewest := h.newest
    rw [hl] at hnewest
    show Stored clock row s.launches
    rw [hl]
    exact stored_record hnewest (hkept rule hhas hid) (by rw [hrow', hfires, hlnow])

theorem answer_timely
    (h : LaunchesTimely clock s ruleId call c (reply c)) :
    LaunchesTimely clock s ruleId call c (s.answer reply c) := by
  unfold Autoruns.answer
  split
  · trivial
  · exact h

theorem answer_smooth (h : Smooth c (reply c)) :
    Smooth c (s.answer reply c) := by
  unfold Autoruns.answer
  split
  · next slug =>
    split
    · trivial
    · next e he =>
      rw [he] at h
      exact h
  · exact h

theorem edit_keeps {rules : RuleTable} {id : String} {payload : CaseAutoRunRulePayload}
    {workflow : Option StoredWorkflow}
    (h : updateCaseAutoRunRule s.rules id payload workflow = .ok rules) {row : CaseAutoRunRule}
    (hrow : rules.find ruleId = some row) :
    ∃ old, s.rules.find ruleId = some old ∧ row.recentFires = old.recentFires := by
  unfold updateCaseAutoRunRule at h
  split_ifs at h
  split at h
  · cases h
  · obtain rfl := Except.ok.inj h
    rw [RuleTable.find_modify] at hrow
    obtain ⟨old, hold, rfl⟩ := Option.map_eq_some_iff.mp hrow
    refine ⟨old, hold, ?_⟩
    split_ifs <;> rfl

theorem limiting_step (h : Limiting clock ruleId s) {e : Event E}
    (htimely : Timely clock ruleId s e) : Limiting clock ruleId (s.step clock slug ruleId e) := by
  cases e with
  | tick ms =>
    have hle : s.clock ≤ s.clock + ms := by
      have := Nat.cast_nonneg (α := ℚ) ms
      linarith
    exact ⟨fun l hl => ⟨(h.past l hl).1, le_trans (h.past l hl).2 hle⟩, h.newest, h.capped, h.single,
      h.stored, fun i call hcall => (h.calls i call hcall).later hle⟩
  | call i kase authorization now =>
    rw [Autoruns.step]
    cases hcall : s.calls i with
    | some _ => exact h
    | none =>
      refine Limiting.goOn h.past h.newest h.capped (fun j other _ hj => h.calls j other hj)
        (fun j k other other' _ _ hj hk => h.single j k other other' hj hk)
        (fun hset => (by cases hset))
        ⟨meets_tryCaseAutorun, le_refl _, fun hset => (by cases hset),
          fun _ l hl => le_trans (h.past l hl).1 (h.past l hl).2, le_refl _,
          fun hset => (by cases hset)⟩ fun _ hothers => ?_
      refine h.stored fun j other hj => hothers j other ?_ hj
      rintro rfl
      cases hj.symm.trans hcall
  | answer i reply =>
    rw [Autoruns.step]
    split
    · next now c k progress readAt launchesThen hcall =>
      split_ifs with hlate
      · exact h
      · obtain ⟨hsmooth, hlaunches⟩ := htimely _ c k hcall rfl
        refine h.answered hcall rfl (fun hset => answer_smooth (hsmooth hset))
          (answer_timely hlaunches) fun hfinds => ?_
        by_contra hne
        exact hlate ⟨hfinds, hne⟩
    · exact h
  | edit id payload workflow =>
    rw [Autoruns.step]
    split
    · next rules hrules =>
      refine ⟨h.past, h.newest, h.capped, h.single, fun hfree row hrow t ht => ?_, h.calls⟩
      obtain ⟨old, hold, hfires⟩ := edit_keeps hrules hrow
      exact (h.stored hfree old hold t ht).congr hfires
    · exact h

theorem limiting_run (h : Limiting clock ruleId s) {events : List (Event E)}
    (htimely : AllTimely clock slug ruleId s events) :
    Limiting clock ruleId (s.run clock slug ruleId events) := by
  induction events generalizing s with
  | nil => exact h
  | cons e events ih => exact ih (limiting_step h htimely.1) htimely.2

theorem limiting_start (rules : RuleTable) (now : ℚ) :
    Limiting clock ruleId (Autoruns.start rules ruleId now : Autoruns E) := by
  refine ⟨fun l hl => (by cases hl), Pairwise.nil, trivial,
    fun i j call other hcall => (by cases hcall), fun _ row hrow t _ => ?_,
    fun i call hcall => (by cases hcall)⟩
  rw [show (Autoruns.start rules ruleId now : Autoruns E).rules = rules.recordFires ruleId [] from
    rfl, RuleTable.find_recordFires] at hrow
  obtain ⟨old, -, rfl⟩ := Option.map_eq_some_iff.mp hrow
  rw [if_pos rfl]
  rfl

end Steps

/-- In every run of timely steps, a rule that has just been created launches no more runs in any
60 minutes than its cap. -/
theorem launches_capped (clock : IsoClock) (slug ruleId : String) (rules : RuleTable) (now : ℚ)
    (events : List (Event E))
    (htimely : AllTimely clock slug ruleId (.start rules ruleId now) events) :
    ((Autoruns.start rules ruleId now).run clock slug ruleId events).Capped := by
  have hlimiting := limiting_run (limiting_start rules now) htimely
  intro m a hm
  refine hlimiting.capped.interval (fun x y hxy => sub_le_sub_right hxy _) ?_ hm
  rw [add_sub_cancel_right]

/-! ## Calls that overlap, and a cap of zero -/

/-- The epoch as `toISOString` writes it, and other times in unary: the denominator, the sign
and the numerator. -/
def isoText (t : ℚ) : String :=
  if t = 0 then "1970-01-01T00:00:00.000Z"
  else String.ofList (List.replicate t.den 'd' ++ List.replicate t.num.natAbs 'n' ++
    if t.num < 0 then ['-'] else [])

/-- The time of such a text. -/
def parseIsoText (s : String) : Option ℚ :=
  if '1' ∈ s.toList then some 0
  else some (mkRat (if '-' ∈ s.toList then -(s.toList.count 'n' : ℤ) else s.toList.count 'n')
    (s.toList.count 'd'))

theorem parse_isoText (t : ℚ) : parseIsoText (isoText t) = some t := by
  unfold isoText parseIsoText
  by_cases h0 : t = 0
  · rw [if_pos h0, h0]
    decide +kernel
  · have hnum : (if t.num < 0 then -(t.num.natAbs : ℤ) else t.num.natAbs) = t.num := by
      split_ifs <;> omega
    rw [if_neg h0]
    by_cases hneg : t.num < 0
    · rw [if_pos hneg] at hnum ⊢
      simp [-Nat.cast_natAbs, mem_replicate, count_replicate, hnum, Rat.mkRat_self]
    · rw [if_neg hneg] at hnum ⊢
      simp [-Nat.cast_natAbs, mem_replicate, count_replicate, hnum, Rat.mkRat_self]

/-- A clock that writes its times so. -/
def isoClock : IsoClock where
  rt :=
    { now := 0
      parseDate := parseIsoText
      parseNumber := fun _ => none
      printNumber := fun _ => ""
      toLowerCase := id
      inherited := fun _ => .undefined
      setMember := fun _ _ => .undefined }
  toISOString := isoText
  parse_toISOString := parse_isoText

/-- A rule for every case of high severity. -/
def isolateRule (maxFiresPerHour : ℤ) : RuleTable where
  rows := [{ id := "r1", name := "Isolate", workflowId := "w1", maxFiresPerHour := maxFiresPerHour }]
  unique := by simp

/-- A deployment in which everything answers. -/
def ready : Reply attributeEvaluator
  | .findCaseAutoRunRules _ => .ok []
  | .findStoredWorkflow .. => .ok (some { id := "w1", name := "Isolate", steps := [] })
  | .getFleet .. => .ok [{
      id := "d1"
      displayName := "Laptop"
      serialNumber := "SN1"
      platform := "windows"
      platformDeviceId := "w-d1"
      riskTier := none
      deviceAudiences := []
      segmentId := none }]
  | .service _ .randomUUID => .ok "run"
  | .service _ (.startWorkflowRun ..) => .ok ()
  | .updateRecentFires .. => .ok ()
  | .recordAuditEvent .. => .ok ()
  | _ => .error (.other "not called")

/-- A case of the device. -/
def laptopCase : CaseAutorunTarget where
  id := "c1"
  title := "Malware"
  deviceId := some "d1"
  severity := "high"
  mitreTechniques := []

/-- A call for the case, at the epoch. -/
def laptopCall (i : ℕ) : Event attributeEvaluator :=
  .call i laptopCase (some "bearer") 0

/-- One call after the other. -/
def oneCall : List (Event attributeEvaluator) :=
  [laptopCall 0, .answer 0 ready, .answer 0 ready, .answer 0 ready, .answer 0 ready,
    .answer 0 ready, .answer 0 ready, .answer 0 ready]

/-- Two calls, which read the rules before either of them launches. -/
def twoCalls : List (Event attributeEvaluator) :=
  [laptopCall 0, laptopCall 1, .answer 0 ready, .answer 1 ready, .answer 0 ready, .answer 0 ready,
    .answer 0 ready, .answer 0 ready, .answer 1 ready, .answer 1 ready, .answer 1 ready,
    .answer 1 ready]

theorem launches_capped_once :
    ((Autoruns.start (isolateRule 1) "r1" 0).run isoClock "acme" "r1" oneCall).Capped := by
  refine launches_capped isoClock "acme" "r1" (isolateRule 1) 0 oneCall ?_
  refine ⟨trivial, ?_, ?_, ?_, ?_, ?_, ?_, ?_, trivial⟩
  · rintro call c k ⟨⟩ ⟨⟩
    exact ⟨fun h => (by cases h), trivial⟩
  · rintro call c k ⟨⟩ ⟨⟩
    exact ⟨fun h => (by cases h), trivial⟩
  · rintro call c k ⟨⟩ ⟨⟩
    exact ⟨fun h => (by cases h), trivial⟩
  · rintro call c k ⟨⟩ ⟨⟩
    exact ⟨fun h => (by cases h), trivial⟩
  · -- the launch
    rintro call c k ⟨⟩ ⟨⟩
    refine ⟨fun h => (by cases h), fun _ => ⟨?_, rfl, ?_, ?_, ?_⟩⟩
    · rintro (_ | j) other ⟨⟩
      rfl
    · rintro rule ⟨rules, ⟨⟩, hmem⟩ -
      obtain rfl := mem_singleton.mp hmem
      exact ⟨_, rfl, rfl, rfl⟩
    · rintro rule ⟨rules, ⟨⟩, hmem⟩ -
      obtain rfl := mem_singleton.mp hmem
      exact ⟨by decide, Or.inl (by decide)⟩
    · rintro l ⟨⟩
  · rintro call c k ⟨⟩ ⟨⟩
    exact ⟨fun _ => trivial, trivial⟩
  · rintro call c k ⟨⟩ ⟨⟩
    exact ⟨fun h => (by cases h), trivial⟩

/-- A rule with a cap of one launches twice at a time, and a rule with a cap of zero launches. -/
theorem cap_exceeded :
    ¬((Autoruns.start (isolateRule 1) "r1" 0).run isoClock "acme" "r1" twoCalls).Capped ∧
    ¬((Autoruns.start (isolateRule 0) "r1" 0).run isoClock "acme" "r1" oneCall).Capped := by
  have htwo : ((Autoruns.start (isolateRule 1) "r1" 0).run isoClock "acme" "r1" twoCalls).launches =
      [⟨0, 0, 1⟩, ⟨0, 0, 1⟩] := by decide +kernel
  have hone : ((Autoruns.start (isolateRule 0) "r1" 0).run isoClock "acme" "r1" oneCall).launches =
      [⟨0, 0, 0⟩] := by decide +kernel
  refine ⟨fun h => ?_, fun h => ?_⟩
  · have hcount := h 1 0 (by rw [htwo]; decide +kernel)
    rw [htwo] at hcount
    revert hcount
    decide +kernel
  · have hcount := h 0 0 (by rw [hone]; decide +kernel)
    rw [hone] at hcount
    revert hcount
    decide +kernel

end AppliverySoar.Automations.Autorun
