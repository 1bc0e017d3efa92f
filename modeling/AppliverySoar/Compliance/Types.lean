import AppliverySoar.Access.Rbac
import AppliverySoar.Workflows.Types

/-!
# Policies, violations and the suppression blob

The rows that the compliance service reads and writes
(compliance.service.ts) and the one JSON value it keeps for a workspace: an
entry under `policyId:deviceId` for every pair that has been flagged and has
not recovered.

Results:
* `get_set`, `get_delete`, `get_setStatus`, `get_purge`: what each of the four
  updates of the blob leaves under a key.
* `suppressionKey_inj`: a key names one pair, where policy ids hold no colon.
-/

namespace AppliverySoar.Compliance

open Access Workflows List

/-! ## Rows -/

/-- A `CompliancePolicy` row, as far as the evaluation reads it. -/
structure CompliancePolicy (E : Evaluator) where
  id : String
  name : String
  severity : Option String := none
  enabled : Bool := true
  conditions : List (Condition E) := []
  conditionLogic : String := "any"
  workflowId : Option String := none
  escalatedWorkflowId : Option String := none
  escalatedWorkflowMinRiskTier : Option String := none
  nonComplianceTag : Option String := none
  nonComplianceSmartAttributeId : Option String := none
  targetDeviceAudienceId : Option String := none
  targetPlatform : Option String := none
  autoRun : Bool := false
  autoRunTripped : Bool := false
  autoRunTrippedReason : Option String := none
  autoRunDestructiveAck : Bool := false
  autoRunBatchCap : Option ℤ := none
  openCaseOnViolation : Bool := false
  autoResolveCaseOnRecovery : Bool := false
  mitreTechniques : List String := []
  caseAssignee : Option String := none

/-- The conditions of a policy, as `policyViolated` takes them. -/
def CompliancePolicy.rule {E : Evaluator} (p : CompliancePolicy E) : Rule E :=
  ⟨p.conditions, p.conditionLogic⟩

/-- `CompliancePolicyPayload`, as far as the evaluation reads what it stores.
`caseAssignee` is the trimmed text. -/
structure PolicyPayload (E : Evaluator) where
  name : String
  severity : String
  enabled : Bool
  conditions : List (Condition E)
  conditionLogic : String
  workflowId : Option String
  escalatedWorkflowId : Option String
  escalatedWorkflowMinRiskTier : String
  nonComplianceTag : Option String
  nonComplianceSmartAttributeId : Option String
  targetDeviceAudienceId : Option String
  targetPlatform : Option String
  autoRun : Bool
  autoRunDestructiveAck : Bool
  autoRunBatchCap : Option (Option ℤ)
  openCaseOnViolation : Bool
  autoResolveCaseOnRecovery : Bool
  mitreTechniques : List String
  caseAssignee : Option String

/-- `resolveAutoRunBatchCapOnSave`: `null` is "no limit", a missing value 15. -/
def resolveAutoRunBatchCapOnSave (value : Option (Option ℤ)) : Option ℤ :=
  value.getD (some 15)

/-- The row that `updateCompliancePolicy` writes (lines 178–223): the payload,
and the circuit breaker cleared. -/
def CompliancePolicy.updated {E : Evaluator} (p : CompliancePolicy E)
    (payload : PolicyPayload E) : CompliancePolicy E where
  id := p.id
  name := payload.name
  severity := some payload.severity
  enabled := payload.enabled
  conditions := payload.conditions
  conditionLogic := payload.conditionLogic
  workflowId := payload.workflowId
  escalatedWorkflowId := payload.escalatedWorkflowId
  escalatedWorkflowMinRiskTier := some payload.escalatedWorkflowMinRiskTier
  nonComplianceTag := payload.nonComplianceTag
  nonComplianceSmartAttributeId := payload.nonComplianceSmartAttributeId
  targetDeviceAudienceId := payload.targetDeviceAudienceId
  targetPlatform := payload.targetPlatform
  autoRun := payload.autoRun
  autoRunTripped := false
  autoRunTrippedReason := none
  autoRunDestructiveAck := payload.autoRunDestructiveAck
  autoRunBatchCap := resolveAutoRunBatchCapOnSave payload.autoRunBatchCap
  openCaseOnViolation := payload.openCaseOnViolation
  autoResolveCaseOnRecovery := payload.autoResolveCaseOnRecovery
  mitreTechniques := payload.mitreTechniques
  caseAssignee := truthy payload.caseAssignee

/-- A violation's `status`. -/
inductive ViolationStatus
  | pending | autorunBlocked | autorunCapped | autoFired | workflowUnavailable | noWorkflow
  | approved | dismissed
  deriving DecidableEq, Repr

/-- The string the source stores for a status. -/
def ViolationStatus.text : ViolationStatus → String
  | .pending => "pending"
  | .autorunBlocked => "autorun_blocked"
  | .autorunCapped => "autorun_capped"
  | .autoFired => "auto_fired"
  | .workflowUnavailable => "workflow_unavailable"
  | .noWorkflow => "no_workflow"
  | .approved => "approved"
  | .dismissed => "dismissed"

/-- The statuses that a pass counts as `queuedForReview`. -/
def ViolationStatus.queued : ViolationStatus → Bool
  | .pending | .autorunBlocked | .autorunCapped => true
  | _ => false

/-- A `ComplianceViolation` row. -/
structure ComplianceViolation (E : Evaluator) where
  id : String
  policyId : String
  policyName : String
  workflowId : Option String
  workflowName : Option String
  workflowRunId : Option String
  escalated : Bool
  deviceId : String
  deviceName : String
  platform : String
  platformDeviceId : String
  matchedConditions : List (Condition E)
  detectedAt : String
  status : ViolationStatus
  severity : String
  caseId : Option String

/-- A workflow run, as far as it is read here. -/
structure RunView where
  id : String
  status : String
  finalStatuses : List String
  deriving DecidableEq

/-- A case, as far as `runWorkflowFromCase` reads it. -/
structure CaseRow where
  id : String
  title : String
  deviceId : Option String
  deriving DecidableEq

/-- `platformPathSegment` (deviceNormalize.ts, lines 55–61). -/
def platformPathSegment (platform : String) : Option String :=
  if platform = "apple" ∨ platform = "macos" then some "apple"
  else if platform = "android" then some "android"
  else if platform = "windows" then some "windows"
  else if platform = "aosp" then some "aosp"
  else none

/-- What a rejected call or a thrown error carries. -/
inductive ServiceError
  | http (e : HttpError)
  | other (message : String)
  deriving DecidableEq

/-- A policy that asks for encryption and has no workflow. -/
def encryptionPolicy : CompliancePolicy attributeEvaluator where
  id := "p1"
  name := "Encryption"
  conditions := [⟨"encryption", "off"⟩]

/-- A device that is not encrypted. -/
def plainLaptop : Device attributeEvaluator where
  id := "d1"
  displayName := "Laptop"
  serialNumber := "SN1"
  platform := "windows"
  platformDeviceId := "win-1"
  riskTier := none
  deviceAudiences := []
  segmentId := none
  facts := "off"

/-! ## The suppression blob -/

structure SuppressionEntry where
  violationId : String
  status : ViolationStatus
  lastDetectedAt : String
  deriving DecidableEq, Repr

/-- `Record<string, SuppressionEntry>`. -/
abbrev SuppressionState := List (String × SuppressionEntry)

/-- `${policyId}:`, the prefix of a policy's keys. -/
def policyPrefix (policyId : String) : String :=
  policyId ++ ":"

/-- `${policyId}:${deviceId}`. -/
def suppressionKey (policyId deviceId : String) : String :=
  policyPrefix policyId ++ deviceId

/-- `key.startsWith(prefix)`. -/
def startsWith (key p : String) : Bool :=
  p.toList.isPrefixOf key.toList

namespace SuppressionState

/-- `state[key]`. -/
def get (st : SuppressionState) (key : String) : Option SuppressionEntry :=
  st.lookup key

/-- `delete state[key]`. -/
def delete (st : SuppressionState) (key : String) : SuppressionState :=
  st.filter fun p => p.1 ≠ key

/-- `state[key] = entry`. -/
def set (st : SuppressionState) (key : String) (entry : SuppressionEntry) : SuppressionState :=
  (key, entry) :: st.delete key

/-- `if (state[key]) state[key].status = status`. -/
def setStatus (st : SuppressionState) (key : String) (status : ViolationStatus) :
    SuppressionState :=
  st.map fun p => if p.1 = key then (p.1, { p.2 with status := status }) else p

/-- The loop of `deleteCompliancePolicy` over the keys with a prefix. -/
def purge (st : SuppressionState) (p : String) : SuppressionState :=
  st.filter fun kv => !startsWith kv.1 p

theorem get_cons (k' : String) (e : SuppressionEntry) (st : SuppressionState) (k : String) :
    get ((k', e) :: st) k = if k = k' then some e else get st k := by
  by_cases h : k = k'
  · simp [get, lookup_cons, h]
  · simp [get, lookup_cons, h, beq_eq_false_iff_ne.mpr h]

theorem get_filter (f : String → Bool) (st : SuppressionState) (k : String) :
    get (st.filter fun p => f p.1) k = if f k then get st k else none := by
  induction st with
  | nil => simp [get]
  | cons p st ih =>
    rcases p with ⟨k', e⟩
    rw [filter_cons, get_cons]
    by_cases hk : k = k'
    · subst hk
      cases hf : f k with
      | true => simp [get_cons]
      | false => simpa [hf] using ih
    · cases hf : f k' with
      | true => simp [get_cons, hk, ih]
      | false => simp [hk, ih]

theorem get_delete (st : SuppressionState) (key k : String) :
    get (delete st key) k = if k = key then none else get st k := by
  have h := get_filter (fun x => x ≠ key) st k
  by_cases hk : k = key
  · simpa [delete, hk] using h
  · simpa [delete, hk] using h

theorem get_set (st : SuppressionState) (key k : String) (entry : SuppressionEntry) :
    get (set st key entry) k = if k = key then some entry else get st k := by
  rw [set, get_cons, get_delete]
  by_cases hk : k = key <;> simp [hk]

theorem get_setStatus (st : SuppressionState) (key k : String) (status : ViolationStatus) :
    get (setStatus st key status) k =
      if k = key then (get st k).map fun e => { e with status := status } else get st k := by
  induction st with
  | nil => simp [setStatus, get]
  | cons p st ih =>
    rcases p with ⟨k', e⟩
    have hcons : setStatus ((k', e) :: st) key status =
        (k', if k' = key then { e with status := status } else e) :: setStatus st key status := by
      by_cases hk : k' = key <;> simp [setStatus, hk]
    rw [hcons, get_cons, get_cons, ih]
    by_cases hk : k = k'
    · subst hk
      by_cases hkey : k = key <;> simp [hkey]
    · simp [hk]

theorem get_purge (st : SuppressionState) (p k : String) :
    get (purge st p) k = if startsWith k p then none else get st k := by
  have h := get_filter (fun x => !startsWith x p) st k
  by_cases hk : startsWith k p = true
  · simpa [purge, hk] using h
  · simpa [purge, hk] using h

end SuppressionState

/-! ## Keys -/

/-- Ids are UUIDs; all that matters of that is that they hold no colon. -/
def NoColon (id : String) : Prop :=
  ':' ∉ id.toList

instance (id : String) : Decidable (NoColon id) :=
  inferInstanceAs (Decidable (':' ∉ id.toList))

theorem toList_policyPrefix (policyId : String) :
    (policyPrefix policyId).toList = policyId.toList ++ [':'] := by
  simp [policyPrefix]

theorem toList_suppressionKey (policyId deviceId : String) :
    (suppressionKey policyId deviceId).toList = policyId.toList ++ ':' :: deviceId.toList := by
  simp [suppressionKey, toList_policyPrefix]

theorem append_colon_inj {a b c d : List Char} (ha : ':' ∉ a) (hb : ':' ∉ b)
    (h : a ++ ':' :: c = b ++ ':' :: d) : a = b ∧ c = d := by
  induction a generalizing b with
  | nil =>
    cases b with
    | nil => simpa using h
    | cons x b =>
      rw [nil_append, cons_append, List.cons.injEq] at h
      exact absurd (h.1 ▸ mem_cons_self) hb
  | cons x a ih =>
    cases b with
    | nil =>
      rw [nil_append, cons_append, List.cons.injEq] at h
      exact absurd (h.1 ▸ mem_cons_self) ha
    | cons y b =>
      rw [cons_append, cons_append, List.cons.injEq] at h
      obtain ⟨hab, hcd⟩ := ih (fun hm => ha (mem_cons_of_mem _ hm))
        (fun hm => hb (mem_cons_of_mem _ hm)) h.2
      exact ⟨by rw [h.1, hab], hcd⟩

theorem suppressionKey_inj {p q d e : String} (hp : NoColon p) (hq : NoColon q)
    (h : suppressionKey p d = suppressionKey q e) : p = q ∧ d = e := by
  have hlist := congrArg String.toList h
  rw [toList_suppressionKey, toList_suppressionKey] at hlist
  obtain ⟨hpq, hde⟩ := append_colon_inj hp hq hlist
  exact ⟨String.toList_inj.mp hpq, String.toList_inj.mp hde⟩

theorem eq_of_startsWith {p q d : String} (hp : NoColon p) (hq : NoColon q)
    (h : startsWith (suppressionKey p d) (policyPrefix q) = true) : p = q := by
  rw [startsWith, isPrefixOf_iff_prefix, toList_suppressionKey, toList_policyPrefix] at h
  obtain ⟨rest, hrest⟩ := h
  rw [append_assoc, singleton_append] at hrest
  exact String.toList_inj.mp (append_colon_inj hp hq hrest.symm).1

end AppliverySoar.Compliance
