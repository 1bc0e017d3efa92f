import AppliverySoar.Compliance.Context
import Mathlib.Data.List.Nodup

/-!
# What a pass shows the evaluator

The evaluation pass (compliance.service.ts, lines 583–608) attaches the
installed apps and loads the locations for the devices that some policy of the
pass calls for, and evaluates every policy over the result.

Results:
* `eval_loadFleet`: the devices and the context that a pass evaluates.
* `eval_passMatched`: the conditions of a policy that a pass finds to match a
  device of its scope; `eval_passMatched_unscoped`: of no other device.
-/

namespace AppliverySoar.Compliance

open Async Workflows List Function

section Passes

variable {E : Evaluator} {items : List (Device E)} {α : Type}

/-- A pass takes in a policy and a device. -/
structure Includes (req : EvaluationRequest) (all : List (CompliancePolicy E))
    (items : List (Device E)) (policy : CompliancePolicy E) (d : Device E) : Prop where
  policy : policy ∈ req.policies all
  device : d ∈ req.devices items

/-- The conditions of a policy that a pass finds to match the device of an id
(lines 583–608, 661–664 and 696); nothing for a device out of its scope. -/
def passMatched (req : EvaluationRequest) (all : List (CompliancePolicy E))
    (policy : CompliancePolicy E) (deviceId : String) :
    Service E (Option (List (Condition E))) := do
  let fleet ← loadFleet req (req.policies all)
  return ((policy.scopedDevices fleet.1).find? fun d => d.id = deviceId).map fun d =>
    policyViolated d policy.rule fleet.2

/-- Some policy of the list calls for what `fields` read on a device. -/
def callsFor (fields : List String) (policies : List (CompliancePolicy E)) (d : Device E) : Bool :=
  policies.any fun p =>
    p.enabled && p.rule.usesField fields && inAudience d p.targetDeviceAudienceId

/-! ## Devices by id -/

theorem find?_of_unique {p : α → Bool} {a : α} {l : List α} (ha : a ∈ l)
    (hp : p a = true) (huniq : ∀ b ∈ l, p b = true → b = a) : l.find? p = some a := by
  cases h : l.find? p with
  | none => exact absurd hp (find?_eq_none.mp h a ha)
  | some b => rw [huniq b (mem_of_find?_eq_some h) (find?_some h)]

theorem nodup_eraseDups [BEq α] [LawfulBEq α] (l : List α) : l.eraseDups.Nodup := by
  induction hn : l.length using Nat.strong_induction_on generalizing l with
  | _ n ih =>
    cases l with
    | nil => simp
    | cons a l =>
      have hlength : (l.filter fun b => !b == a).length < n :=
        Nat.lt_of_le_of_lt (length_filter_le _ _) (by rw [← hn]; exact Nat.lt_succ_self _)
      rw [eraseDups_cons, nodup_cons]
      refine ⟨fun hmem => ?_, ih _ hlength _ rfl⟩
      rw [mem_eraseDups, mem_filter] at hmem
      simp at hmem

theorem eq_of_id (hids : (items.map fun d => d.id).Nodup) {d d' : Device E}
    (hd : d ∈ items) (hd' : d' ∈ items) (h : d.id = d'.id) : d = d' :=
  inj_on_of_nodup_map hids hd hd' h

/-- With ids that name one device each, an inventory goes to the device of its
id. -/
theorem attachInstalledApps_eq_map (id : String) (apps : E.Apps)
    (hids : (items.map fun d => d.id).Nodup) :
    attachInstalledApps id apps items =
      items.map fun d => if d.id = id then d.withApps apps else d := by
  induction items with
  | nil => rfl
  | cons d items ih =>
    rw [map_cons, nodup_cons] at hids
    obtain ⟨hfresh, hids⟩ := hids
    rw [attachInstalledApps, map_cons]
    by_cases hd : d.id = id
    · subst hd
      have hnone : ∀ d' ∈ items, ¬d'.id = d.id := fun d' hd' heq =>
        hfresh (mem_map.mpr ⟨d', hd', heq⟩)
      have hany : (items.any fun d' => decide (d'.id = d.id)) = false := by
        simpa using hnone
      have hrest : (items.map fun d' => if d'.id = d.id then d'.withApps apps else d') = items :=
        (map_congr_left fun d' hd' => if_neg (hnone d' hd')).trans (map_id items)
      rw [if_pos ⟨rfl, by rw [hany]; exact Bool.false_ne_true⟩, if_pos rfl, hrest]
    · rw [if_neg (fun h => hd h.1), if_neg hd, ih hids]

theorem foldl_attachInstalledApps (apps : String → E.Apps)
    {ids : List String} (hnodup : ids.Nodup) (hids : (items.map fun d => d.id).Nodup) :
    (ids.foldl (fun devices id => attachInstalledApps id (apps id) devices) items) =
      items.map fun d => if d.id ∈ ids then d.withApps (apps d.id) else d := by
  induction ids generalizing items with
  | nil => simp
  | cons id ids ih =>
    obtain ⟨hid, hnodup⟩ := nodup_cons.mp hnodup
    have hkept : ((items.map fun d => if d.id = id then d.withApps (apps id) else d).map
        fun d => d.id) = items.map fun d => d.id := by
      rw [map_map]
      refine map_congr_left fun d _ => ?_
      by_cases h : d.id = id <;> simp [h]
    rw [foldl_cons, attachInstalledApps_eq_map id _ hids, ih hnodup (hkept ▸ hids),
      map_map]
    refine map_congr_left fun d _ => ?_
    by_cases h : d.id = id
    · subst h
      simp [hid]
    · simp [h]

theorem mem_scopedDeviceIds {fields : List String} {devices : List (Device E)}
    {policies : List (CompliancePolicy E)} (hids : (devices.map fun d => d.id).Nodup) {d : Device E}
    (hd : d ∈ devices) :
    d.id ∈ scopedDeviceIds fields devices policies ↔ callsFor fields policies d = true := by
  unfold scopedDeviceIds callsFor
  rw [mem_eraseDups, mem_flatMap, any_eq_true]
  constructor
  · rintro ⟨p, hp, hmem⟩
    split_ifs at hmem with hcalls
    · obtain ⟨d', hd', hid⟩ := mem_map.mp hmem
      obtain ⟨hd', haudience⟩ := mem_filter.mp hd'
      obtain rfl := eq_of_id hids hd' hd hid
      exact ⟨p, hp, by rw [hcalls, haudience]; rfl⟩
    · simp at hmem
  · rintro ⟨p, hp, h⟩
    rw [Bool.and_eq_true] at h
    refine ⟨p, hp, ?_⟩
    rw [if_pos h.1]
    exact mem_map.mpr ⟨d, mem_filter.mpr ⟨hd, h.2⟩, rfl⟩

theorem scopedDeviceIds_map {f : Device E → Device E} (hcore : ∀ d, (f d).toDeviceCore = d.toDeviceCore)
    (fields : List String) (devices : List (Device E)) (policies : List (CompliancePolicy E)) :
    scopedDeviceIds fields (devices.map f) policies = scopedDeviceIds fields devices policies := by
  unfold scopedDeviceIds
  congr 1
  refine flatMap_congr fun p _ => ?_
  split_ifs
  · have haudience : ∀ d, inAudience (f d) p.targetDeviceAudienceId =
        inAudience d p.targetDeviceAudienceId := fun d => by unfold inAudience; rw [hcore]
    rw [filter_map, map_map]
    simp only [comp_def, hcore, haudience]
  · rfl

end Passes

/-! ## The reads of a pass -/

section Stored

variable {env : EvalEnv} (data : WorkspaceData) {req : EvaluationRequest}
  {all : List (CompliancePolicy (conditionEvaluator env))}
  {items : List (Device (conditionEvaluator env))}

/-- A device with its inventory, for an id of the list. -/
def WorkspaceData.attached (data : WorkspaceData) (ids : List String)
    (d : Device (conditionEvaluator env)) : Device (conditionEvaluator env) :=
  if d.id ∈ ids then d.withApps (data.apps d.id) else d

theorem attached_core (ids : List String) (d : Device (conditionEvaluator env)) :
    (data.attached ids d).toDeviceCore = d.toDeviceCore := by
  unfold WorkspaceData.attached
  split_ifs <;> rfl

theorem nodup_devices (hids : (items.map fun d => d.id).Nodup) :
    ((req.devices items).map fun d => d.id).Nodup :=
  hids.sublist (filter_sublist.map _)

theorem eval_loadLocations (ids : List String) :
    (loadLocations ids : Service (conditionEvaluator env) _).eval (data.service items) =
      .ok (data.locationsOf ids) := by
  unfold loadLocations
  split_ifs with h
  · rw [List.isEmpty_iff.mp h]
    refine congrArg Except.ok (funext fun id => ?_)
    simp [WorkspaceData.locationsOf]
  · rfl

/-- What a pass evaluates: the selected devices, with the inventories of those
that are called for, and the locations of those. -/
theorem eval_loadFleet (policies : List (CompliancePolicy (conditionEvaluator env)))
    (hids : (items.map fun d => d.id).Nodup) :
    (loadFleet req policies).eval (data.service items) =
      .ok ((req.devices items).map
          (data.attached (scopedDeviceIds appListFields (req.devices items) policies)),
        ⟨some data.appLists, some (data.zones,
          data.locationsOf (scopedDeviceIds geofenceFields (req.devices items) policies))⟩) := by
  have hitems : (ask (.getDevicesFull true) : Service (conditionEvaluator env) _).eval
      (data.service items) = .ok items := rfl
  have hlists : (ask .loadAppListsContext : Service (conditionEvaluator env) _).eval
      (data.service items) = .ok data.appLists := rfl
  have hzones : (ask .loadGeofenceZonesById : Service (conditionEvaluator env) _).eval
      (data.service items) = .ok data.zones := rfl
  have happs : ∀ (devices : List (Device (conditionEvaluator env))) (id : String),
      (do let apps ← ask (.readInstalledAppsFromStore id)
          return attachInstalledApps id apps devices :
        Service (conditionEvaluator env) _).eval (data.service items) =
        .ok (attachInstalledApps id (data.apps id) devices) := fun _ _ => rfl
  have hattached : ((scopedDeviceIds appListFields (req.devices items) policies).foldl
      (fun devices id => attachInstalledApps id (data.apps id) devices) (req.devices items)) =
      (req.devices items).map
        (data.attached (scopedDeviceIds appListFields (req.devices items) policies)) :=
    foldl_attachInstalledApps data.apps (nodup_eraseDups _) (nodup_devices hids)
  unfold loadFleet
  rw [Prog.eval_bind hitems]
  dsimp only
  rw [Prog.eval_bind (Prog.eval_foldlM happs _ _), Prog.eval_bind hlists, Prog.eval_bind hzones,
    hattached, scopedDeviceIds_map (attached_core data _), Prog.eval_bind (eval_loadLocations data _),
    Prog.eval_pure]

/-! ## What a pass finds -/

variable {d : Device (conditionEvaluator env)} {policy : CompliancePolicy (conditionEvaluator env)}

theorem scopedDevices_map {f : Device (conditionEvaluator env) → Device (conditionEvaluator env)}
    (hcore : ∀ d, (f d).toDeviceCore = d.toDeviceCore)
    (policy : CompliancePolicy (conditionEvaluator env))
    (devices : List (Device (conditionEvaluator env))) :
    policy.scopedDevices (devices.map f) = (policy.scopedDevices devices).map f := by
  unfold CompliancePolicy.scopedDevices
  rw [filter_map]
  congr 1
  refine filter_congr fun d _ => ?_
  simp only [comp_def, inAudience, hcore]

/-- A pass finds a device of a policy's scope to match what the policies of the
pass together call for. -/
theorem eval_passMatched (hids : (items.map fun d => d.id).Nodup)
    (hinc : Includes req all items policy d) (hscope : d ∈ policy.scopedDevices items) :
    (passMatched req all policy d.id).eval (data.service items) =
      .ok (some (data.matched d policy.rule (callsFor appListFields (req.policies all) d)
        (callsFor geofenceFields (req.policies all) d))) := by
  have hselected : ((req.devices items).map fun d => d.id).Nodup := nodup_devices hids
  have hscoped : d ∈ policy.scopedDevices (req.devices items) :=
    mem_filter.mpr ⟨hinc.device, (mem_filter.mp hscope).2⟩
  have hfind : ((policy.scopedDevices (req.devices items)).find? fun d' => d'.id = d.id) = some d :=
    find?_of_unique hscoped (decide_eq_true rfl) fun d' hd' hid =>
      eq_of_id hselected (mem_of_mem_filter hd') hinc.device (of_decide_eq_true hid)
  have happs : data.attached (scopedDeviceIds appListFields (req.devices items) (req.policies all))
      d = if callsFor appListFields (req.policies all) d then d.withApps (data.apps d.id) else d := by
    unfold WorkspaceData.attached
    simp only [mem_scopedDeviceIds hselected hinc.device]
  have hgeo : decide (d.id ∈ scopedDeviceIds geofenceFields (req.devices items) (req.policies all)) =
      callsFor geofenceFields (req.policies all) d := by
    simp only [mem_scopedDeviceIds hselected hinc.device, Bool.decide_eq_true]
  unfold passMatched
  rw [Prog.eval_bind (eval_loadFleet data _ hids), Prog.eval_pure, scopedDevices_map (attached_core data _),
    find?_map]
  simp only [comp_def, attached_core, hfind, Option.map_some, happs]
  rw [policyViolated_located, hgeo]

theorem eval_passMatched_unscoped (hids : (items.map fun d => d.id).Nodup) (hd : d ∈ items)
    (hscope : d ∉ policy.scopedDevices items) :
    (passMatched req all policy d.id).eval (data.service items) = .ok none := by
  have hfind : ((policy.scopedDevices (req.devices items)).find? fun d' => d'.id = d.id) = none := by
    refine find?_eq_none.mpr fun d' hd' hid => hscope ?_
    obtain ⟨hselected, hscoped⟩ := mem_filter.mp hd'
    obtain rfl := eq_of_id hids (mem_of_mem_filter hselected) hd (of_decide_eq_true hid)
    exact mem_filter.mpr ⟨hd, hscoped⟩
  unfold passMatched
  rw [Prog.eval_bind (eval_loadFleet data _ hids), Prog.eval_pure, scopedDevices_map (attached_core data _),
    find?_map]
  simp only [comp_def, attached_core, hfind, Option.map_none]

end Stored

end AppliverySoar.Compliance
