import AppliverySoar.Cases.Writes

/-!
# One case for a policy and a device

`upsertCaseForViolation` links a violation to the open case of its policy and
device, else to the one that was closed last, else to a new one (cases.service.ts,
lines 567–622). `markCaseRecovered` and `updateCase` move cases between the open and
the closed ones, and link nothing.

Results:
* `Linked.next_push`, `Linked.next_create`, `Linked.next_unlinking`: what a call makes
  of the links.
* `linked_of_sequence`: after any sequence of the three the cases list what was linked,
  in order.
* `one_case_per_pair`: there is one case for a workspace, policy and device, it lists
  what was passed once and in order, it is open right after each upsert, and no
  violation is linked to two cases.
-/

namespace AppliverySoar.Cases

open Async Prog Access Automations Compliance List Function CaseCall
  AppliverySoar.Workflows

/-! ## Links -/

/-- A workspace, a policy and a device. -/
structure PolicyPair where
  workspaceSlug : String
  policyId : String
  deviceId : String
  deriving DecidableEq

/-- The case is about the pair. -/
def Case.IsAbout (row : Case) (pair : PolicyPair) : Prop :=
  row.workspaceSlug = pair.workspaceSlug ∧ row.policyId = some pair.policyId ∧
    row.deviceId = some pair.deviceId

/-- The cases list `ids` of their pairs: one case for a pair, and none of a pair
without a link has violations. -/
structure Linked (ids : PolicyPair → List String) (s : CaseStore) : Prop where
  unique : s.Unique
  one : ∀ row ∈ s.cases, ∀ row' ∈ s.cases, ∀ pair, row.IsAbout pair → row'.IsAbout pair →
    row = row'
  lists : ∀ row ∈ s.cases, ∀ pair, row.IsAbout pair → row.violationIds = ids pair
  others : ∀ row ∈ s.cases, (∀ pair, ¬row.IsAbout pair) → row.violationIds = []
  complete : ∀ pair, ids pair ≠ [] → ∃ row ∈ s.cases, row.IsAbout pair

/-- What links a violation to the pair after those that are linked. -/
def addLink (ids : PolicyPair → List String) (pair : PolicyPair) (violationId : String) :
    PolicyPair → List String :=
  Function.update ids pair (ids pair ++ [violationId])

/-- The call links nothing. -/
def CaseCall.Unlinking : CaseCall → Prop
  | .createCase data => data.policyId = none ∧ data.violationIds = []
  | .updateCase _ data => data.pushViolationId = none
  | _ => True

/-- The call links a violation. -/
def CaseCall.links : CaseCall → Bool
  | .createCase data => !data.violationIds.isEmpty
  | .updateCase _ data => data.pushViolationId.isSome
  | _ => false

/-- A violation was linked in an exchange. -/
def linksIn (es : List CaseMove) : Bool :=
  es.any fun e => e.call.links && e.answer.isOk

section Steps

variable {ids : PolicyPair → List String} {s : CaseStore} {e : CaseMove} {row : Case}
  {pair : PolicyPair} {violationId : String}

theorem isAbout_unique {pair' : PolicyPair} (h : row.IsAbout pair) (h' : row.IsAbout pair') :
    pair = pair' := by
  obtain ⟨slug, policyId, deviceId⟩ := pair
  obtain ⟨slug', policyId', deviceId'⟩ := pair'
  obtain ⟨rfl, hpolicy, hdevice⟩ := h
  obtain ⟨hslug', hpolicy', hdevice'⟩ := h'
  cases hslug'
  cases hpolicy.symm.trans hpolicy'
  cases hdevice.symm.trans hdevice'
  rfl

/-- What a call makes of a row: what it was about it stays about. -/
theorem isAbout_next {row' : Case} (hunlinking : e.call.Unlinking)
    (hmay : s.may e.call e.answer) (h : row' ∈ (s.next e.call e.answer).cases) :
    (∃ row ∈ s.cases, row.id = row'.id ∧ row'.violationIds = row.violationIds ∧
      ∀ pair, row'.IsAbout pair ↔ row.IsAbout pair) ∨
    ((∀ pair, ¬row'.IsAbout pair) ∧ row'.violationIds = []) := by
  rcases rows_next h with ⟨hold, -⟩ | ⟨row, hrow, data, rfl, rfl⟩ | ⟨data, rfl⟩
  · exact .inl ⟨row', hold, rfl, rfl, fun _ => Iff.rfl⟩
  · have hpush : data.pushViolationId = none := hunlinking
    refine .inl ⟨row, hrow, rfl, ?_, fun _ => Iff.rfl⟩
    show row.violationIds ++ data.pushViolationId.toList = row.violationIds
    rw [hpush]
    exact append_nil _
  · obtain ⟨id, -, rfl⟩ := hmay
    obtain ⟨hpolicy, hviolations⟩ := hunlinking
    refine .inr ⟨fun pair habout => ?_, hviolations⟩
    have hsome : data.policyId = some pair.policyId := habout.2.1
    rw [hpolicy] at hsome
    cases hsome

theorem Linked.next_unlinking (h : Linked ids s) (hunlinking : e.call.Unlinking)
    (hmay : s.may e.call e.answer) : Linked ids (s.next e.call e.answer) where
  unique := unique_next h.unique hmay
  one row hrow row' hrow' pair habout habout' := by
    rcases isAbout_next hunlinking hmay hrow with ⟨old, hold, hid, -, hpairs⟩ | ⟨hnone, -⟩
    · rcases isAbout_next hunlinking hmay hrow' with ⟨old', hold', hid', -, hpairs'⟩ | ⟨hnone, -⟩
      · obtain rfl := h.one old hold old' hold' pair ((hpairs pair).mp habout)
          ((hpairs' pair).mp habout')
        exact (unique_next h.unique hmay).eq hrow hrow' (hid.symm.trans hid')
      · exact absurd habout' (hnone pair)
    · exact absurd habout (hnone pair)
  lists row hrow pair habout := by
    rcases isAbout_next hunlinking hmay hrow with ⟨old, hold, -, hids, hpairs⟩ | ⟨hnone, -⟩
    · exact hids.trans (h.lists old hold pair ((hpairs pair).mp habout))
    · exact absurd habout (hnone pair)
  others row hrow hnone := by
    rcases isAbout_next hunlinking hmay hrow with ⟨old, hold, -, hids, hpairs⟩ | ⟨-, hids⟩
    · exact hids.trans (h.others old hold fun pair habout =>
        hnone pair ((hpairs pair).mpr habout))
    · exact hids
  complete pair hids := by
    obtain ⟨row, hrow, habout⟩ := h.complete pair hids
    obtain ⟨row', hrow', rfl | ⟨data, -, rfl⟩⟩ := exists_next hrow e
    · exact ⟨row', hrow', habout⟩
    · exact ⟨_, hrow', habout⟩

/-- A violation that is pushed to the case of a pair is linked after the others. -/
theorem Linked.next_push (h : Linked ids s) (hrow : row ∈ s.cases) (habout : row.IsAbout pair)
    {data : CaseData} (hpush : data.pushViolationId = some violationId) :
    Linked (addLink ids pair violationId) (s.next (.updateCase row.id data) (.ok ())) ∧
      data.apply row s.now ∈ (s.next (.updateCase row.id data) (.ok ())).cases := by
  have hmay : s.may (.updateCase row.id data) (.ok ()) := Exists.intro row ⟨hrow, rfl⟩
  have hunique := unique_next (e := ⟨.updateCase row.id data, .ok ()⟩) h.unique hmay
  have hrows : ∀ row' ∈ (s.next (.updateCase row.id data) (.ok ())).cases,
      row' = data.apply row s.now ∨ (row' ∈ s.cases ∧ row'.id ≠ row.id) := by
    intro row' hrow'
    rcases rows_next (e := ⟨.updateCase row.id data, .ok ()⟩) hrow' with
      ⟨hold, hno⟩ | ⟨old, hold, data', heq, rfl⟩ | ⟨data', heq⟩
    · exact .inr ⟨hold, fun hid => hno data (by rw [hid])⟩
    · injection heq with hcall
      injection hcall with hid hdata
      obtain rfl := h.unique.eq hold hrow hid.symm
      exact .inl (by rw [hdata])
    · cases heq
  have hmem : data.apply row s.now ∈ (s.next (.updateCase row.id data) (.ok ())).cases := by
    obtain ⟨row', hrow', rfl | ⟨data', heq, rfl⟩⟩ := exists_next hrow
      (⟨.updateCase row.id data, .ok ()⟩ : CaseMove)
    · rcases hrows row' hrow' with heq | ⟨-, hid⟩
      · exact heq ▸ hrow'
      · exact absurd rfl hid
    · injection heq with hcall
      injection hcall with _ hdata
      rwa [← hdata] at hrow'
  have hother : ∀ row' ∈ s.cases, row'.id ≠ row.id → ¬row'.IsAbout pair := fun row' hrow' hid
    habout' => hid (congrArg Case.id (h.one row' hrow' row hrow pair habout' habout))
  refine ⟨⟨hunique, ?_, ?_, ?_, ?_⟩, hmem⟩
  · intro row₁ hrow₁ row₂ hrow₂ pair' habout₁ habout₂
    rcases hrows row₁ hrow₁ with rfl | ⟨hold₁, hid₁⟩
    · obtain rfl := isAbout_unique habout₁ habout
      rcases hrows row₂ hrow₂ with rfl | ⟨hold₂, hid₂⟩
      · rfl
      · exact absurd habout₂ (hother row₂ hold₂ hid₂)
    · rcases hrows row₂ hrow₂ with rfl | ⟨hold₂, hid₂⟩
      · obtain rfl := isAbout_unique habout₂ habout
        exact absurd habout₁ (hother row₁ hold₁ hid₁)
      · exact h.one row₁ hold₁ row₂ hold₂ pair' habout₁ habout₂
  · intro row' hrow' pair' habout'
    rcases hrows row' hrow' with rfl | ⟨hold, hid⟩
    · obtain rfl := isAbout_unique habout' habout
      rw [addLink, update_self, ← h.lists row hrow pair' habout]
      show row.violationIds ++ data.pushViolationId.toList = _
      rw [hpush]
      rfl
    · have hne : pair' ≠ pair := fun heq => hother row' hold hid (heq ▸ habout')
      rw [addLink, update_of_ne hne]
      exact h.lists row' hold pair' habout'
  · intro row' hrow' hnone
    rcases hrows row' hrow' with rfl | ⟨hold, -⟩
    · exact absurd habout (hnone pair)
    · exact h.others row' hold hnone
  · intro pair' hids
    by_cases hpair : pair' = pair
    · exact ⟨_, hmem, hpair ▸ habout⟩
    · rw [addLink, update_of_ne hpair] at hids
      obtain ⟨row', hrow', habout'⟩ := h.complete pair' hids
      obtain ⟨row'', hrow'', rfl | ⟨data', -, rfl⟩⟩ := exists_next hrow'
        (⟨.updateCase row.id data, .ok ()⟩ : CaseMove)
      · exact ⟨row'', hrow'', habout'⟩
      · exact ⟨_, hrow'', habout'⟩

/-- A case that is created for a pair without one has the first violation of it. -/
theorem Linked.next_create (h : Linked ids s) (hnone : ∀ row ∈ s.cases, ¬row.IsAbout pair)
    {data : CaseCreate} {kase : Case}
    (hviolations : data.violationIds = [violationId]) (hslug : data.workspaceSlug = pair.workspaceSlug)
    (hpolicy : data.policyId = some pair.policyId) (hdevice : data.deviceId = some pair.deviceId)
    (hmay : s.may (.createCase data) (.ok kase)) :
    Linked (addLink ids pair violationId) (s.next (.createCase data) (.ok kase)) ∧
      kase.IsAbout pair ∧ kase ∈ (s.next (.createCase data) (.ok kase)).cases := by
  have hunique := unique_next (e := ⟨.createCase data, .ok kase⟩) h.unique hmay
  obtain ⟨id, hfresh, rfl⟩ := hmay
  have habout : (data.row id s.now).IsAbout pair := ⟨hslug, hpolicy, hdevice⟩
  have hrows : ∀ row ∈ (s.next (.createCase data) (.ok (data.row id s.now))).cases,
      row = data.row id s.now ∨ row ∈ s.cases := fun row hrow =>
    (mem_append.mp hrow).symm.imp_left mem_singleton.mp
  have hempty : ids pair = [] := by
    by_contra hids
    obtain ⟨row, hrow, habout'⟩ := h.complete pair hids
    exact hnone row hrow habout'
  refine ⟨⟨hunique, ?_, ?_, ?_, ?_⟩, habout, mem_append_right _ (mem_singleton_self _)⟩
  · intro row₁ hrow₁ row₂ hrow₂ pair' habout₁ habout₂
    rcases hrows row₁ hrow₁ with rfl | hold₁
    · obtain rfl := isAbout_unique habout₁ habout
      rcases hrows row₂ hrow₂ with rfl | hold₂
      · rfl
      · exact absurd habout₂ (hnone row₂ hold₂)
    · rcases hrows row₂ hrow₂ with rfl | hold₂
      · obtain rfl := isAbout_unique habout₂ habout
        exact absurd habout₁ (hnone row₁ hold₁)
      · exact h.one row₁ hold₁ row₂ hold₂ pair' habout₁ habout₂
  · intro row hrow pair' habout'
    rcases hrows row hrow with rfl | hold
    · obtain rfl := isAbout_unique habout' habout
      rw [addLink, update_self, hempty]
      exact hviolations
    · have hne : pair' ≠ pair := fun heq => hnone row hold (heq ▸ habout')
      rw [addLink, update_of_ne hne]
      exact h.lists row hold pair' habout'
  · intro row hrow hnot
    rcases hrows row hrow with rfl | hold
    · exact absurd habout (hnot pair)
    · exact h.others row hold hnot
  · intro pair' hids
    by_cases hpair : pair' = pair
    · exact ⟨_, mem_append_right _ (mem_singleton_self _), hpair ▸ habout⟩
    · rw [addLink, update_of_ne hpair] at hids
      obtain ⟨row, hrow, habout'⟩ := h.complete pair' hids
      exact ⟨row, mem_append_left _ hrow, habout'⟩

end Steps

/-! ## What the functions link -/

/-- Nothing is linked, and no status changed. -/
def CaseCall.Incidental : CaseCall → Prop
  | .createCase _ => False
  | .updateCase _ data => data.pushViolationId = none ∧ data.status = none
  | _ => True

variable {c : CaseCall}

theorem CaseCall.Incidental.unlinking (h : c.Incidental) : c.Unlinking := by
  cases c with
  | createCase data => exact h.elim
  | updateCase id data => exact h.1
  | _ => trivial

theorem incidental_of_reads (h : c.Reads) : c.Incidental := by
  cases c with
  | createCase data => cases h
  | updateCase id data => cases h
  | _ => trivial

variable {α : Type}

theorem calls_incidental {p : CaseProg α} (h : p.Calls Reads) : p.Calls Incidental :=
  h.widen fun _ => incidental_of_reads

theorem calls_unlinking {p : CaseProg α} (h : p.Calls Incidental) : p.Calls Unlinking :=
  h.widen fun _ => Incidental.unlinking

theorem incidental_dispatchAndAttachCaseEvent (slug caseId : String)
    (eventType : CaseEvent) :
    (dispatchAndAttachCaseEvent slug caseId eventType).Calls Incidental := by
  refine (calls_ask trivial).bind fun found => ?_
  cases found with
  | none => exact calls_ret _
  | some kase =>
    refine (calls_incidental (calls_dispatchCaseIntegrations _ _ _)).bind fun refs => ?_
    refine Calls.guard fun _ => ?_
    refine (calls_ask trivial).bind fun found => ?_
    cases found with
    | none => exact calls_ret _
    | some kase =>
      refine (calls_ask ⟨rfl, rfl⟩).bind fun _ => ?_
      exact Calls.foldlM fun _ _ _ => calls_ask trivial

theorem incidental_dispatchNotify (slug caseId : String) (event : Option CaseEvent) :
    (dispatchNotify slug caseId event).Calls Incidental :=
  calls_forSome (fun event => Calls.tryCatch
    (incidental_dispatchAndAttachCaseEvent slug caseId event)
    fun _ => calls_ret _) event

theorem unlinking_updateCase (rt : TextRuntime) (slug caseId : String)
    (payload : CaseUpdatePayload) (auth : Option String) :
    (updateCase rt slug caseId payload auth).Calls Unlinking := by
  have hreads : ∀ {α : Type} {p : CaseProg α}, p.Calls Reads →
      p.Calls Unlinking := fun h => calls_unlinking (calls_incidental h)
  refine (calls_ask trivial).bind fun found => ?_
  cases found with
  | none => exact calls_ret _
  | some kase =>
    refine (calls_ask trivial).bind fun now => ?_
    refine (hreads (calls_checkEdits rt _ _)).bind fun _ => ?_
    refine (calls_ask (by rfl)).bind fun _ => (calls_ask trivial).bind fun _ => ?_
    refine Calls.bind (calls_forSome (fun event => ?_) _) fun _ => hreads (calls_showCase _ _)
    exact (calls_unlinking (incidental_dispatchAndAttachCaseEvent _ _ _)).bind fun _ =>
      hreads (calls_removeMarkers _ _ _ _)

theorem unlinking_markCaseRecovered (slug : String) (violationId : Option String)
    (autoResolve : Bool) : (markCaseRecovered slug violationId autoResolve).Calls Unlinking := by
  unfold markCaseRecovered
  split
  · exact calls_ret _
  · refine (calls_ask trivial).bind fun found => ?_
    cases found with
    | none => exact calls_ret _
    | some kase =>
      refine Calls.ite (fun _ => ?_) fun _ => ?_
      · refine (calls_ask trivial).bind fun now => ?_
        refine (calls_ask (by rfl)).bind fun _ => ?_
        exact (calls_ask trivial).bind fun _ => calls_ret _
      · refine (calls_ask (by rfl)).bind fun _ => ?_
        exact (calls_ask trivial).bind fun _ => calls_ret _

section Programs

variable {ids : PolicyPair → List String} {s : CaseStore} {pair : PolicyPair}
  {violationId : String} {c : CaseStore × List CaseMove} {e : CaseMove}

/-- Nothing has been linked yet. -/
def Unchanged (ids : PolicyPair → List String) (c : CaseStore × List CaseMove) : Prop :=
  Linked ids c.1 ∧ linksIn c.2 = false

/-- The violation has been linked, and its case is open. -/
def Relinked (ids : PolicyPair → List String) (pair : PolicyPair) (violationId : String)
    (c : CaseStore × List CaseMove) : Prop :=
  Linked (addLink ids pair violationId) c.1 ∧ linksIn c.2 = true ∧
    ∃ row ∈ c.1.cases, row.IsAbout pair ∧ row.status.isOpen = true

theorem linksIn_append (es fs : List CaseMove) : linksIn (es ++ fs) = (linksIn es || linksIn fs) :=
  any_append

theorem links_of_unlinking {c : CaseCall} (h : c.Unlinking) : c.links = false := by
  cases c with
  | createCase data =>
    show (!data.violationIds.isEmpty) = false
    rw [h.2]
    rfl
  | updateCase id data =>
    show data.pushViolationId.isSome = false
    rw [show data.pushViolationId = none from h]
    rfl
  | _ => rfl

theorem Unchanged.next (h : Unchanged ids c)
    (hunlinking : e.call.Unlinking) (hmay : c.1.may e.call e.answer) :
    Unchanged ids (c.1.next e.call e.answer, c.2 ++ [e]) := by
  refine ⟨h.1.next_unlinking hunlinking hmay, ?_⟩
  rw [linksIn_append, h.2]
  simp [linksIn, links_of_unlinking hunlinking]

theorem Relinked.next (h : Relinked ids pair violationId c) (hincidental : e.call.Incidental) (hmay : c.1.may e.call e.answer) :
    Relinked ids pair violationId (c.1.next e.call e.answer, c.2 ++ [e]) := by
  obtain ⟨hlinked, hlinks, row, hrow, habout, hopen⟩ := h
  refine ⟨hlinked.next_unlinking hincidental.unlinking hmay, ?_, ?_⟩
  · rw [linksIn_append, hlinks, Bool.true_or]
  · obtain ⟨row', hrow', rfl | ⟨data, rfl, rfl⟩⟩ := exists_next hrow e
    · exact ⟨row', hrow', habout, hopen⟩
    · refine ⟨_, hrow', habout, ?_⟩
      show (data.status.getD row.status).isOpen = true
      rw [show data.status = none from hincidental.2]
      exact hopen

theorem Unchanged.failed (h : Unchanged ids c) (call : CaseCall)
    (error : ServiceError) :
    Unchanged ids (c.1.next call (.error error), c.2 ++ [⟨call, .error error⟩]) := by
  have hcases : (c.1.next call (.error error)).cases = c.1.cases := by cases call <;> rfl
  obtain ⟨⟨hunique, hone, hlists, hothers, hcomplete⟩, hlinks⟩ := h
  refine ⟨⟨?_, ?_, ?_, ?_, ?_⟩, ?_⟩
  · unfold CaseStore.Unique
    rw [hcases]
    exact hunique
  · rwa [hcases]
  · rwa [hcases]
  · rwa [hcases]
  · rwa [hcases]
  · rw [linksIn_append, hlinks]
    simp [linksIn, Except.isOk, Except.toBool]

variable {α : Type} {result : α} {row : Case}

theorem meets_unlinking {p : CaseProg α} (hp : p.Calls Unlinking) (hc : Unchanged ids c) :
    p.Meets caseWorld.recorded (fun _ _ => True) c fun _ => Unchanged ids :=
  hp.meets_stable (fun _ _ _ _ => trivial)
    (fun _ c r h hmay hc => hc.next (e := ⟨c, r⟩) h hmay) hc

/-- The post of `upsertCaseForViolation`: the violation is linked if it returns. -/
def Upserted {α : Type} (ids : PolicyPair → List String) (pair : PolicyPair) (violationId : String)
    (result : Except ServiceError α) (c : CaseStore × List CaseMove) : Prop :=
  match result with
  | .ok _ => Relinked ids pair violationId c
  | .error _ => Unchanged ids c ∨ Relinked ids pair violationId c

theorem meets_upserted {type caseId : String} (hc : Relinked ids pair violationId c) :
    Meets caseWorld.recorded (fun _ _ => True)
      (ask (.addTimelineEntry caseId type) >>= fun _ => (pure result : CaseProg α)) c
      (Upserted ids pair violationId) :=
  Meets.call_bind trivial
    (fun e hmay => .inr (hc.next (e := ⟨.addTimelineEntry caseId type, .error e⟩) trivial hmay))
    fun u hmay => hc.next (e := ⟨.addTimelineEntry caseId type, .ok u⟩) trivial hmay

theorem mem_casesOfPolicy {slug policyId deviceId : String} {isOpen : Bool} :
    row ∈ s.casesOfPolicy slug policyId deviceId isOpen ↔
      row ∈ s.cases ∧ row.IsAbout ⟨slug, policyId, deviceId⟩ ∧ row.status.isOpen = isOpen := by
  simp [CaseStore.casesOfPolicy, Case.IsAbout, and_assoc]

/-- An update that pushes the violation onto a case of the pair and leaves it open. -/
theorem meets_relink {type : String} {data : CaseData} (hc : Unchanged ids c) (hrow : row ∈ c.1.cases)
    (habout : row.IsAbout pair) (hpush : data.pushViolationId = some violationId)
    (hopen : (data.status.getD row.status).isOpen = true) :
    Meets caseWorld.recorded (fun _ _ => True)
      (ask (.updateCase row.id data) >>= fun _ =>
        ask (.addTimelineEntry row.id type) >>= fun _ => (pure result : CaseProg α)) c
      (Upserted ids pair violationId) := by
  refine Meets.call_bind trivial (fun e _ => .inl (hc.failed _ e)) fun u hmay => ?_
  obtain ⟨hlinked, hmem⟩ := hc.1.next_push hrow habout hpush
  refine meets_upserted ⟨hlinked, ?_, _, hmem, habout, hopen⟩
  show linksIn (c.2 ++ [_]) = true
  rw [linksIn_append]
  simp [linksIn, links, hpush, Except.isOk, Except.toBool]

theorem upserted_upsertCaseForViolation (slug : String) (policy : CasePolicyRef)
    (device : CaseDeviceRef) (hc : Unchanged ids c) :
    (upsertCaseForViolation slug policy device violationId).Meets caseWorld.recorded
      (fun _ _ => True) c (Upserted ids ⟨slug, policy.id, device.id⟩ violationId) := by
  refine Meets.call_bind trivial (fun e _ => .inl (hc.failed _ e)) fun now hnow => ?_
  have hc₁ := hc.next (e := ⟨.now, .ok now⟩) trivial hnow
  refine Meets.call_bind trivial (fun e _ => .inl (hc₁.failed _ e)) fun existing hexisting => ?_
  have hc₂ := hc₁.next (e := ⟨.findCaseOfPolicy slug policy.id device.id true,
    .ok existing⟩) trivial hexisting
  cases existing with
  | some existing =>
    obtain ⟨hrow, habout, hopen⟩ := mem_casesOfPolicy.mp hexisting.1
    exact meets_relink hc₂ hrow habout rfl hopen
  | none =>
    refine Meets.call_bind trivial (fun e _ => .inl (hc₂.failed _ e)) fun closedMatch hclosed => ?_
    have hc₃ := hc₂.next (e := ⟨.findCaseOfPolicy slug policy.id device.id false,
      .ok closedMatch⟩) trivial hclosed
    cases closedMatch with
    | some closedMatch =>
      obtain ⟨hrow, habout, -⟩ := mem_casesOfPolicy.mp hclosed.1
      exact meets_relink hc₃ hrow habout rfl rfl
    | none =>
      -- neither an open nor a closed case is about the pair
      have hnone : ∀ row ∈ c.1.cases, ¬row.IsAbout ⟨slug, policy.id, device.id⟩ := by
        intro row hrow habout
        cases hopen : row.status.isOpen with
        | true => exact not_mem_nil (hexisting.1 ▸ mem_casesOfPolicy.mpr ⟨hrow, habout, hopen⟩)
        | false => exact not_mem_nil (hclosed.1 ▸ mem_casesOfPolicy.mpr ⟨hrow, habout, hopen⟩)
      refine Meets.call_bind trivial (fun e _ => .inl (hc₃.failed _ e)) fun created hcreated => ?_
      obtain ⟨hlinked, habout, hmem⟩ := hc₃.1.next_create hnone rfl rfl rfl rfl hcreated
      refine meets_upserted ⟨hlinked, ?_, created, hmem, habout, ?_⟩
      · show linksIn (_ ++ [_]) = true
        rw [linksIn_append]
        simp [linksIn, links, violationCase, Except.isOk, Except.toBool]
      · obtain ⟨id, -, rfl⟩ := hcreated
        rfl

theorem upserted_violation (rt : TextRuntime) (slug : String) (policy : CasePolicyRef)
    (device : CaseDeviceRef) (violationId : String) (hc : Unchanged ids c) :
    ((CaseTask.violation slug policy device violationId).body rt).Meets caseWorld.recorded
      (fun _ _ => True) c (Upserted ids ⟨slug, policy.id, device.id⟩ violationId) := by
  refine Meets.bind (R := fun _ =>
      Relinked ids ⟨slug, policy.id, device.id⟩ violationId)
    ((upserted_upsertCaseForViolation slug policy device hc).mono fun r c h => ?_)
    fun opened c h => ?_
  · cases r <;> exact h
  · refine ((incidental_dispatchNotify slug opened.1 opened.2).meets_stable
      (P := Relinked ids ⟨slug, policy.id, device.id⟩ violationId)
      (fun _ _ _ _ => trivial) (fun _ c r h hmay hc => hc.next (e := ⟨c, r⟩) h hmay) h).mono
      fun r c h => ?_
    cases r with
    | ok u => exact h
    | error e => exact .inr h

end Programs

/-! ## Sequences -/

/-- The upsert of a violation, a recovery or an update. -/
def CaseTask.LinksOrMoves : CaseTask → Prop
  | .violation .. | .recovery .. | .update .. => True
  | _ => False

instance : DecidablePred CaseTask.LinksOrMoves := fun task => by
  cases task <;> first | exact isTrue trivial | exact isFalse id

/-- What another operation may do between two tasks: a call that links nothing. -/
def OtherCall (s s' : CaseStore) : Prop :=
  ∃ e : CaseMove, e.call.Unlinking ∧ s.may e.call e.answer ∧ s' = s.next e.call e.answer

/-- What an upsert was passed: a pair and a violation. -/
def CaseTask.passes : CaseTask → Option (PolicyPair × String)
  | .violation workspaceSlug policy device violationId =>
    some (⟨workspaceSlug, policy.id, device.id⟩, violationId)
  | _ => none

/-- What a turn was passed, if it has linked it. -/
def linkOf (t : CaseTurn) : Option (PolicyPair × String) :=
  if linksIn t.events then t.task.passes else none

/-- Everything that was passed. -/
def passed (ts : List CaseTurn) : List (PolicyPair × String) :=
  ts.filterMap fun t => t.task.passes

/-- The violations among some that are of a pair. -/
def ofPair (pair : PolicyPair) (links : List (PolicyPair × String)) : List String :=
  links.filterMap fun l => if l.1 = pair then some l.2 else none

/-- The violations that were linked to a pair, in order. -/
def linkedIds (ts : List CaseTurn) (pair : PolicyPair) : List String :=
  ofPair pair (ts.filterMap linkOf)

section Sequences

variable {rt : TextRuntime} {init s : CaseStore} {ts : List CaseTurn} {t : CaseTurn}
  {violationId : String} {pair : PolicyPair}

theorem linkedIds_snoc (ts : List CaseTurn) (t : CaseTurn) : linkedIds (ts ++ [t]) =
    match linkOf t with
    | none => linkedIds ts | some l => addLink (linkedIds ts) l.1 l.2 := by
  funext pair
  unfold linkedIds ofPair
  rw [filterMap_append, filterMap_append]
  cases hlink : linkOf t with
  | none => simp [hlink]
  | some l =>
    by_cases hpair : l.1 = pair
    · subst hpair
      simp [hlink, addLink]
    · simp [hlink, hpair, addLink, update_of_ne (Ne.symm hpair)]

theorem linkOf_of_passes_none (h : t.task.passes = none) : linkOf t = none := by
  unfold linkOf
  rw [h, ite_self]

theorem linkOf_of_relinked
    (hpasses : t.task.passes = some (pair, violationId))
    (h : Relinked (linkedIds ts) pair violationId (t.after caseWorld, t.events)) :
    linkOf t = some (pair, violationId) ∧ Linked (linkedIds (ts ++ [t])) (t.after caseWorld) ∧
      ∃ row ∈ (t.after caseWorld).cases, row.IsAbout pair ∧ row.status.isOpen = true := by
  have hlink : linkOf t = some (pair, violationId) := by
    unfold linkOf
    rw [if_pos h.2.1, hpasses]
  refine ⟨hlink, ?_, h.2.2⟩
  rw [linkedIds_snoc, hlink]
  exact h.1

theorem linked_of_unchanged (h : Unchanged (linkedIds ts) (t.after caseWorld, t.events)) :
    Linked (linkedIds (ts ++ [t])) (t.after caseWorld) := by
  have hnone : linkOf t = none := if_neg (by rw [h.2]; decide)
  rw [linkedIds_snoc, hnone]
  exact h.1

/-- What a task has done to the links: what it was passed is linked and its case
open, else it has failed or was passed nothing. -/
def LinksWhatItPasses (t : CaseTurn) : Prop :=
  ∀ pair violationId, t.task.passes = some (pair, violationId) → t.result = .ok () →
    linkOf t = some (pair, violationId) ∧
      ∃ row ∈ (t.after caseWorld).cases, row.IsAbout pair ∧ row.status.isOpen = true

theorem linked_of_unlinking (hlegal : t.Legal caseWorld (CaseTask.body rt))
    (h : Linked (linkedIds ts) t.before) (hcalls : (t.task.body rt).Calls Unlinking)
    (hpasses : t.task.passes = none) :
    Linked (linkedIds (ts ++ [t])) (t.after caseWorld) ∧ LinksWhatItPasses t := by
  refine ⟨linked_of_unchanged (hlegal.post_recorded (meets_unlinking hcalls ⟨h, rfl⟩)), ?_⟩
  intro pair violationId hsome
  rw [hpasses] at hsome
  cases hsome

/-- **Step lemma**: a task links what it is passed, if it returns. -/
theorem linked_turn (hlegal : t.Legal caseWorld (CaseTask.body rt)) (htask : t.task.LinksOrMoves)
    (h : Linked (linkedIds ts) t.before) :
    Linked (linkedIds (ts ++ [t])) (t.after caseWorld) ∧ LinksWhatItPasses t := by
  obtain ⟨task, before, events, result⟩ := t
  cases task with
  | violation workspaceSlug policy device violationId =>
    have hpost := hlegal.post_recorded
      (upserted_violation rt workspaceSlug policy device violationId ⟨h, rfl⟩)
    have hrelinked : Relinked (linkedIds ts) _ _ _ → _ := linkOf_of_relinked
      (t := ⟨.violation workspaceSlug policy device violationId, before, events, result⟩) rfl
    cases result with
    | ok u =>
      obtain ⟨hlink, hlinked, hopen⟩ := hrelinked hpost
      refine ⟨hlinked, fun pair violationId' hpasses _ => ?_⟩
      cases hpasses
      exact ⟨hlink, hopen⟩
    | error error =>
      refine ⟨?_, fun _ _ _ hok => by cases hok⟩
      rcases hpost with hunchanged | hpost
      · exact linked_of_unchanged hunchanged
      · exact (hrelinked hpost).2.1
  | recovery workspaceSlug violationId autoResolve =>
    refine linked_of_unlinking hlegal h ?_ rfl
    refine (unlinking_markCaseRecovered workspaceSlug violationId autoResolve).bind fun kase => ?_
    exact calls_forSome (fun kase => calls_unlinking (incidental_dispatchNotify _ _ _)) kase
  | update workspaceSlug caseId payload authorization =>
    refine linked_of_unlinking hlegal h ?_ rfl
    exact (unlinking_updateCase rt _ _ _ _).bind fun _ => calls_ret _
  | _ => exact htask.elim

theorem outside_linked {ids : PolicyPair → List String} {s' : CaseStore} (h : OtherCall s s')
    (hs : Linked ids s) : Linked ids s' := by
  obtain ⟨e, hunlinking, hmay, rfl⟩ := h
  exact hs.next_unlinking hunlinking hmay

/-- **Run lemma**: the cases list what was linked, and each task links what it is
passed. -/
theorem linked_of_sequence (hrun : Sequence caseWorld (CaseTask.body rt) OtherCall init ts s)
    (htasks : ∀ t ∈ ts, t.task.LinksOrMoves) (hinit : Linked (fun _ => []) init) :
    Linked (linkedIds ts) s ∧ ∀ t ∈ ts, LinksWhatItPasses t := by
  induction hrun with
  | start => exact ⟨hinit, fun t ht => by cases ht⟩
  | @turn ts t _ hlegal ih =>
    obtain ⟨hbefore, hall⟩ := ih fun t ht => htasks t (mem_append_left _ ht)
    obtain ⟨hafter, hlinks⟩ := linked_turn hlegal (htasks t (by simp)) hbefore
    refine ⟨hafter, fun t' ht' => ?_⟩
    rcases mem_append.mp ht' with ht' | ht'
    · exact hall t' ht'
    · exact mem_singleton.mp ht' ▸ hlinks
  | outside _ hother ih =>
    obtain ⟨hbefore, hall⟩ := ih htasks
    exact ⟨outside_linked hother hbefore, hall⟩

theorem mem_ofPair {links : List (PolicyPair × String)} :
    violationId ∈ ofPair pair links ↔ (pair, violationId) ∈ links := by
  rw [ofPair, mem_filterMap]
  constructor
  · rintro ⟨⟨pair', violationId'⟩, hmem, hpair⟩
    split at hpair
    · next heq =>
      cases hpair
      exact heq ▸ hmem
    · cases hpair
  · exact fun hmem => ⟨_, hmem, if_pos rfl⟩

theorem ofPair_sublist (pair : PolicyPair) (links : List (PolicyPair × String)) :
    (ofPair pair links).Sublist (links.map Prod.snd) := by
  unfold ofPair
  induction links with
  | nil => exact Sublist.slnil
  | cons l links ih =>
    rw [filterMap_cons, map_cons]
    split
    · exact ih.cons _
    · next heq =>
      split at heq
      · cases heq
        exact ih.cons_cons _
      · cases heq

theorem linkOf_sublist (ts : List CaseTurn) : (ts.filterMap linkOf).Sublist (passed ts) := by
  unfold passed
  induction ts with
  | nil => exact Sublist.slnil
  | cons t ts ih =>
    rw [filterMap_cons, filterMap_cons]
    by_cases hlinks : linksIn t.events = true
    · rw [linkOf, if_pos hlinks]
      cases t.task.passes with
      | none => exact ih
      | some l => exact ih.cons_cons l
    · rw [linkOf, if_neg hlinks]
      cases t.task.passes with
      | none => exact ih
      | some l => exact ih.cons l

theorem linkOf_of_returned (h : LinksWhatItPasses t) (hreturned : t.result = .ok ()) :
    linkOf t = t.task.passes := by
  cases hpasses : t.task.passes with
  | none => exact linkOf_of_passes_none hpasses
  | some l => exact (h l.1 l.2 hpasses hreturned).1

theorem linkedIds_of_returned (h : ∀ t ∈ ts, LinksWhatItPasses t)
    (hreturned : ∀ t ∈ ts, t.result = .ok ()) (pair : PolicyPair) :
    linkedIds ts pair = ofPair pair (passed ts) := by
  rw [linkedIds, passed,
    filterMap_congr fun t ht => linkOf_of_returned (h t ht) (hreturned t ht)]

/-- There is one case for a pair. It lists, in order, the violations that were passed
for it, all of those whose upsert returned among them. -/
structure OneCasePerPair (ts : List CaseTurn) (s : CaseStore) : Prop where
  one : ∀ row ∈ s.cases, ∀ row' ∈ s.cases, ∀ pair, row.IsAbout pair → row'.IsAbout pair →
    row = row'
  inOrder : ∀ row ∈ s.cases, ∀ pair, row.IsAbout pair →
    row.violationIds.Sublist (ofPair pair (passed ts)) ∧ row.violationIds.Nodup
  all : (∀ t ∈ ts, t.result = .ok ()) → ∀ row ∈ s.cases, ∀ pair, row.IsAbout pair →
    row.violationIds = ofPair pair (passed ts)
  linked : ∀ t ∈ ts, ∀ pair violationId, t.task.passes = some (pair, violationId) →
    t.result = .ok () → ∃ row ∈ s.cases, row.IsAbout pair ∧ violationId ∈ row.violationIds
  opened : ∀ t ∈ ts, ∀ pair violationId, t.task.passes = some (pair, violationId) →
    t.result = .ok () →
    ∃ row ∈ (t.after caseWorld).cases, row.IsAbout pair ∧ row.status.isOpen = true
  apart : ∀ row ∈ s.cases, ∀ row' ∈ s.cases, ∀ violationId ∈ row.violationIds,
    violationId ∈ row'.violationIds → row = row'

/-- **Any sequence of upserts, recoveries and updates** keeps one case for a workspace,
policy and device, with every violation in it once. -/
theorem one_case_per_pair (rt : TextRuntime) (init s : CaseStore) (ts : List CaseTurn)
    (hinit : Linked (fun _ => []) init)
    (hrun : Sequence caseWorld (CaseTask.body rt) OtherCall init ts s)
    (htasks : ∀ t ∈ ts, t.task.LinksOrMoves)
    -- a violation's id is a new `crypto.randomUUID()`
    (hfresh : ((passed ts).map Prod.snd).Nodup) : OneCasePerPair ts s := by
  obtain ⟨hlinked, hall⟩ := linked_of_sequence hrun htasks hinit
  have hnodup : ((ts.filterMap linkOf).map Prod.snd).Nodup :=
    hfresh.sublist ((linkOf_sublist ts).map _)
  have hpair : ∀ row ∈ s.cases, ∀ violationId ∈ row.violationIds,
      ∃ pair, row.IsAbout pair ∧ (pair, violationId) ∈ ts.filterMap linkOf := by
    intro row hrow violationId hmem
    by_cases habout : ∃ pair, row.IsAbout pair
    · obtain ⟨pair, habout⟩ := habout
      rw [hlinked.lists row hrow pair habout] at hmem
      exact ⟨pair, habout, mem_ofPair.mp hmem⟩
    · rw [hlinked.others row hrow (not_exists.mp habout)] at hmem
      cases hmem
  refine ⟨hlinked.one, fun row hrow pair habout => ?_, fun hreturned row hrow pair habout => ?_,
    fun t ht pair violationId hpasses hok => ?_, fun t ht pair violationId hpasses hok =>
      (hall t ht pair violationId hpasses hok).2, fun row hrow row' hrow' violationId hmem hmem' => ?_⟩
  · rw [hlinked.lists row hrow pair habout]
    exact ⟨(linkOf_sublist ts).filterMap _, hnodup.sublist (ofPair_sublist pair _)⟩
  · rw [hlinked.lists row hrow pair habout]
    exact linkedIds_of_returned hall hreturned pair
  · have hids : violationId ∈ linkedIds ts pair := mem_ofPair.mpr
      (mem_filterMap.mpr ⟨t, ht, (hall t ht pair violationId hpasses hok).1⟩)
    obtain ⟨row, hrow, habout⟩ := hlinked.complete pair (ne_nil_of_mem hids)
    exact ⟨row, hrow, habout, hlinked.lists row hrow pair habout ▸ hids⟩
  · obtain ⟨pair, habout, hlink⟩ := hpair row hrow violationId hmem
    obtain ⟨pair', habout', hlink'⟩ := hpair row' hrow' violationId hmem'
    cases inj_on_of_nodup_map hnodup hlink hlink' rfl
    exact hlinked.one row hrow row' hrow' pair habout habout'

/-- No case yet. -/
def emptyStore : CaseStore where
  clock := id
  clock_mono := monotone_id

/-- A violation, a request to close its case, and another violation. -/
def reopeningTurns : List CaseTurn × CaseStore :=
  Turn.playAll caseWorld (CaseTask.body plainText) CaseStore.reply
    [.violation "acme" { id := "p1", name := "Encryption" } { id := "d1" } "v1",
      .update "acme" "c1" { status := some "closed" } none,
      .violation "acme" { id := "p1", name := "Encryption" } { id := "d1" } "v2"] ([], emptyStore)

/-- The case is reopened and lists both violations. -/
theorem one_case_per_pair_reopened :
    (reopeningTurns.2.cases.map fun row => (row.violationIds, row.status)) =
      [(["v1", "v2"], .opened)] ∧ OneCasePerPair reopeningTurns.1 reopeningTurns.2 := by
  refine ⟨by decide +kernel, one_case_per_pair plainText emptyStore _ _ ?_
    (Sequence.playAll may_reply _ .start) (by decide +kernel) (by decide +kernel)⟩
  refine ⟨nodup_nil, ?_, ?_, ?_, fun _ h => absurd rfl h⟩ <;> intro _ h <;> cases h

end Sequences

end AppliverySoar.Cases
