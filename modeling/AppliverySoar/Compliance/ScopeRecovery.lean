import AppliverySoar.Compliance.Workspace

/-!
# Flagged devices that leave a policy's scope

A pass finds a recovery only at a device that it visits, and it visits the
devices in a policy's scope (compliance.service.ts, lines 661–712). What a
fleet-wide pass leaves of a policy's suppression keys therefore depends on
whether the devices under these keys are still in its scope.

Results:
* `flagged_violates_iff`: in every run, every key of a policy is a violating
  device's after a fleet-wide pass exactly when every key was that of a device
  in scope before it.
* `departed_device_stays_flagged`: a run in which a flagged device leaves the
  fleet.
-/

namespace AppliverySoar.Compliance

open Async Access Workflows List

variable {E : Evaluator} {req : EvaluationRequest} {p : CompliancePolicy E}

/-! ## The keys of a policy -/

/-- `key` is a suppression key of `p` in the stored blob. -/
def Workspace.Flagged (s : Workspace E) (p : CompliancePolicy E) (key : String) : Prop :=
  (SuppressionState.get s.state key).isSome = true ∧ startsWith key (policyPrefix p.id) = true

/-- Every key of `p` is that of a device in its current scope. -/
def FlaggedInScope (s : Workspace E) (p : CompliancePolicy E) : Prop :=
  ∀ key, s.Flagged p key → ∃ d ∈ p.scopedDevices s.devices, p.key d = key

/-- After the turn every key of `p` is that of a device in its scope which, with
what the pass has read, violates it. -/
def FlaggedViolates (req : EvaluationRequest) (t : WorkspaceTurn E) (p : CompliancePolicy E) :
    Prop :=
  ∃ fleet, FleetRead req t.events fleet ∧ ∀ key, (t.after (workspaceWorld E)).Flagged p key →
    ∃ d ∈ p.scopedDevices fleet.1, p.key d = key ∧ policyViolated d p.rule fleet.2 ≠ []

theorem FleetRead.unique {es : List (ServiceEvent E)}
    {fleet fleet' : Fleet E} (h : FleetRead req es fleet) (h' : FleetRead req es fleet') :
    fleet = fleet' := by
  obtain ⟨all, fs, rest, hes, hsteps⟩ := h
  obtain ⟨all', fs', rest', hes', hsteps'⟩ := h'
  rw [hes] at hes'
  obtain ⟨hhead, htail⟩ := List.cons.inj hes'
  obtain rfl := Except.ok.inj (eq_of_heq (Event.mk.inj hhead).2)
  exact Except.ok.inj (hsteps.ret_unique hsteps' htail).2

/-! ## Scopes and shapes -/

theorem scoped_of_shape {devices devices' : List (Device E)} {d : Device E}
    (hshape : devices.map Device.shape = devices'.map Device.shape)
    (hd : d ∈ p.scopedDevices devices) : ∃ d' ∈ p.scopedDevices devices', p.key d' = p.key d := by
  have hkeys := keys_of_shape [p] hshape
  have hmem : p.key d ∈ (visitsOf [p] devices).map Visit.key :=
    mem_map.mpr ⟨⟨p, d⟩, mem_visitsOf.mpr ⟨by simp, hd⟩, rfl⟩
  rw [hkeys] at hmem
  obtain ⟨⟨q, d'⟩, hv, hkey⟩ := mem_map.mp hmem
  obtain ⟨hq, hd'⟩ := mem_visitsOf.mp hv
  obtain rfl := mem_singleton.mp hq
  exact ⟨d', hd', hkey⟩

theorem devices_of_fleet (h : req.scope = .fleet)
    (items : List (Device E)) : req.devices items = items := by
  rw [EvaluationRequest.devices, h]
  exact filter_eq_self.mpr fun _ _ => rfl

section Pass

variable {req : EvaluationRequest} {t : WorkspaceTurn E} {fleet : Fleet E}
  {visits : List (Visit E)} {st : ScanState E} {ms : List (Mark E)} {p : CompliancePolicy E}
  {key : String}

section

variable (h : PassTurn req t fleet visits st ms)
include h

/-- A visit under a key of `p` is a visit of `p`. -/
theorem PassTurn.policy_of_key
    (hp : p ∈ req.policies t.before.policies.rows) {v : Visit E} (hv : v ∈ visits)
    (hkey : startsWith v.key (policyPrefix p.id) = true) :
    v.policy = p ∧ v.device ∈ p.scopedDevices fleet.1 := by
  rw [← h.visits_eq] at hv
  obtain ⟨hpolicy, hdevice⟩ := mem_visitsOf.mp hv
  have hmem := (mem_filter.mp hp).1
  have hmem' := (mem_filter.mp hpolicy).1
  have hid : v.policy.id = p.id :=
    eq_of_startsWith (t.before.policies.noColon _ hmem') (t.before.policies.noColon _ hmem) hkey
  have hsame := inj_on_of_nodup_map t.before.policies.ids_nodup hmem' hmem hid
  exact ⟨hsame, hsame ▸ hdevice⟩

theorem PassTurn.visited (hreq : req.scope = .fleet)
    (hp : p ∈ req.policies t.before.policies.rows) {d : Device E}
    (hd : d ∈ p.scopedDevices t.before.devices) : p.key d ∈ visits.map Visit.key := by
  have hshape := h.shapes
  rw [devices_of_fleet hreq] at hshape
  obtain ⟨d', hd', hkey⟩ := scoped_of_shape hshape.symm hd
  rw [← h.visits_eq, ← hkey]
  exact mem_map.mpr ⟨⟨p, d'⟩, mem_visitsOf.mpr ⟨hp, hd'⟩, rfl⟩

theorem PassTurn.violates (hreq : req.scope = .fleet)
    (hp : p ∈ req.policies t.before.policies.rows) (hbefore : FlaggedInScope t.before p)
    (hkey : (t.after (workspaceWorld E)).Flagged p key) :
    ∃ d ∈ p.scopedDevices fleet.1, p.key d = key ∧ policyViolated d p.rule fleet.2 ≠ [] := by
  obtain ⟨hsome, hpre⟩ := hkey
  rw [h.saved] at hsome
  have hvisited : key ∈ visits.map Visit.key := by
    by_contra hunvisited
    have hold := hsome
    rw [h.scan.get_of_unvisited hunvisited] at hold
    obtain ⟨d, hd, rfl⟩ := hbefore key ⟨hold, hpre⟩
    exact hunvisited (h.visited hreq hp hd)
  obtain ⟨v, hv, rfl, hiff⟩ := h.scan.get_of_visited hvisited
  obtain ⟨rfl, hd⟩ := h.policy_of_key hp hv hpre
  exact ⟨v.device, hd, rfl, hiff.mp hsome⟩

theorem PassTurn.inScope (hreq : req.scope = .fleet)
    (hp : p ∈ req.policies t.before.policies.rows)
    (hafter : ∀ key, (t.after (workspaceWorld E)).Flagged p key →
      ∃ d ∈ p.scopedDevices fleet.1, p.key d = key) : FlaggedInScope t.before p := by
  intro key hkey
  have hshape := h.shapes
  rw [devices_of_fleet hreq] at hshape
  have hfleet : ∃ d ∈ p.scopedDevices fleet.1, p.key d = key := by
    by_cases hvisited : key ∈ visits.map Visit.key
    · obtain ⟨v, hv, rfl⟩ := mem_map.mp hvisited
      obtain ⟨rfl, hd⟩ := h.policy_of_key hp hv hkey.2
      exact ⟨v.device, hd, rfl⟩
    · refine hafter key ⟨?_, hkey.2⟩
      rw [h.saved, h.scan.get_of_unvisited hvisited]
      exact hkey.1
  obtain ⟨d, hd, rfl⟩ := hfleet
  exact scoped_of_shape hshape hd

end

end Pass

theorem inScope_of_violates {s₀ s : Workspace E} {ts : List (WorkspaceTurn E)}
    {t : WorkspaceTurn E}
    (h : WorkspaceRun E s₀ ts s) (ht : t ∈ ts) (htask : t.task = .blob (.evaluate req))
    (hreq : req.scope = .fleet) (hok : t.result = .ok ())
    (hp : p ∈ req.policies t.before.policies.rows) (hviolates : FlaggedViolates req t p) :
    FlaggedInScope t.before p := by
  have hne : req.policies t.before.policies.rows ≠ [] := ne_nil_of_mem hp
  obtain ⟨fleet, visits, st, ms, hpass⟩ := pass_of_turn (h.legal ht) htask hok hne
  obtain ⟨fleet', hread, hviolates⟩ := hviolates
  obtain rfl := hread.unique hpass.read
  refine hpass.inScope hreq hp fun key hkey => ?_
  obtain ⟨d, hd, hkey, -⟩ := hviolates key hkey
  exact ⟨d, hd, hkey⟩

/-- **Main theorem**: in every run, after a fleet-wide pass that evaluates `p`
every key of `p` is that of a violating device in its scope exactly when
every key of `p` was that of a device in its scope before the pass. -/
theorem flagged_violates_iff {s₀ s : Workspace E} {ts : List (WorkspaceTurn E)}
    {t : WorkspaceTurn E} {req : EvaluationRequest} {p : CompliancePolicy E}
    (h : WorkspaceRun E s₀ ts s) (ht : t ∈ ts) (htask : t.task = .blob (.evaluate req))
    (hreq : req.scope = .fleet) (hok : t.result = .ok ())
    (hp : p ∈ req.policies t.before.policies.rows) :
    FlaggedViolates req t p ↔ FlaggedInScope t.before p := by
  refine ⟨inScope_of_violates h ht htask hreq hok hp, fun hbefore => ?_⟩
  have hne : req.policies t.before.policies.rows ≠ [] := ne_nil_of_mem hp
  obtain ⟨fleet, visits, st, ms, hpass⟩ := pass_of_turn (h.legal ht) htask hok hne
  exact ⟨fleet, hpass.read, fun key hkey => hpass.violates hreq hp hbefore hkey⟩

/-! ## A laptop that violates, and that leaves the fleet -/

/-- A fleet-wide pass. -/
def fleetPass : EvaluationRequest where
  nowIso := "2024-01-01T00:00:00.000Z"

/-- The policy about encryption and the laptop, before any pass. -/
def newWorkspace : Workspace attributeEvaluator where
  policies := ⟨[encryptionPolicy], by decide, by decide⟩
  devices := [plainLaptop]
  state := []

/-- The first pass. -/
def firstTurn : WorkspaceTurn attributeEvaluator :=
  newWorkspace.play (.blob (.evaluate fleetPass))

/-- The workspace after the first pass, when the laptop has been removed. -/
def emptiedWorkspace : Workspace attributeEvaluator :=
  { firstTurn.after (workspaceWorld _) with devices := [] }

/-- The pass after the removal. -/
def secondTurn : WorkspaceTurn attributeEvaluator :=
  emptiedWorkspace.play (.blob (.evaluate fleetPass))

theorem run_firstTurn :
    WorkspaceRun attributeEvaluator newWorkspace ([] ++ [firstTurn])
      (firstTurn.after (workspaceWorld _)) :=
  .turn .start (legal_play _ _)

theorem run_secondTurn :
    WorkspaceRun attributeEvaluator newWorkspace ([] ++ [firstTurn] ++ [secondTurn])
      (secondTurn.after (workspaceWorld _)) :=
  .turn (run_firstTurn.outside rfl) (legal_play _ _)

/-- The laptop is flagged by the first pass, and violates. -/
theorem flagged_violates_firstTurn :
    (SuppressionState.get (firstTurn.after (workspaceWorld _)).state "p1:d1").isSome = true ∧
      FlaggedViolates fleetPass firstTurn encryptionPolicy := by
  refine ⟨by decide +kernel, (flagged_violates_iff run_firstTurn mem_cons_self rfl rfl
    (by decide +kernel) (mem_of_getElem? (i := 0) rfl)).mpr ?_⟩
  rintro key ⟨hsome, -⟩
  cases hsome

/-- The second pass leaves the key of the laptop that is gone. -/
theorem departed_device_stays_flagged :
    ¬∀ (s₀ s : Workspace attributeEvaluator) (ts : List (WorkspaceTurn attributeEvaluator))
      (t : WorkspaceTurn attributeEvaluator) (req : EvaluationRequest)
      (p : CompliancePolicy attributeEvaluator),
      WorkspaceRun attributeEvaluator s₀ ts s → t ∈ ts → t.task = .blob (.evaluate req) →
      req.scope = .fleet → t.result = .ok () → p ∈ req.policies t.before.policies.rows →
      FlaggedViolates req t p := by
  intro h
  have hviolates := h _ _ _ secondTurn fleetPass encryptionPolicy run_secondTurn (by simp) rfl rfl
    (by decide +kernel) (mem_of_getElem? (i := 0) rfl)
  have hscope := inScope_of_violates run_secondTurn (by simp) rfl rfl (by decide +kernel)
    (mem_of_getElem? (i := 0) rfl) hviolates
  obtain ⟨d, hd, -⟩ := hscope "p1:d1" ⟨by decide +kernel, by decide +kernel⟩
  cases hd

end AppliverySoar.Compliance
