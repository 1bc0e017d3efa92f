import AppliverySoar.Compliance.ScopeRecovery
import Mathlib.Data.List.Induction

/-!
# Policies that share a marker

A pass puts the tag and the smart attribute of a policy on a device when the
device newly violates it, and takes them off when it recovers
(compliance.service.ts, lines 694–722 and 896–932). It does so policy by policy:
a recovery takes a marker off that another policy still needs, and a device that
is flagged already does not get it again.

Results:
* `carried_of_pass`: what a pass leaves of a marker on a device is what the last
  visit that newly violates or recovers has asked for.
* `markers_carried`: in every sequence of passes in which no recovery takes off
  what another policy needs, every flagged device carries the markers of its
  policies.
* `shared_tag_lost`: a sequence in which one does.
-/

namespace AppliverySoar.Compliance

open Async Access Workflows List

variable {E : Evaluator}

/-! ## Markers on devices -/

/-- A workspace with the tags and smart attributes that its devices carry.
Devices have ids of their own. -/
structure MarkedWorkspace (E : Evaluator) extends Workspace E where
  ids_nodup : (devices.map fun d => d.id).Nodup
  carried : List (String × Marker)

/-- Applivery has a path for the device. -/
def MarkedWorkspace.supports (s : MarkedWorkspace E) (deviceId : String) : Bool :=
  s.devices.any fun d => d.id = deviceId && (platformPathSegment d.platform).isSome

/-- `[...current, tag]`, or `current` without the tag. -/
def setMarker (carried : List (String × Marker)) (x : String × Marker) (present : Bool) :
    List (String × Marker) :=
  if present then x :: carried else carried.filter fun y => y ≠ x

/-- What `applyComplianceTag` and `applyComplianceSmartAttribute` (lines 348–384)
leave when the write succeeds. -/
def applyMarker (supports : String → Bool) (carried : List (String × Marker)) (deviceId : String)
    (marker : Marker) (present : Bool) : List (String × Marker) :=
  if supports deviceId then setMarker carried (deviceId, marker) present else carried

/-- Reads answer what is stored, and no marker write fails. -/
def MarkedWorkspace.may (s : MarkedWorkspace E) (c : ServiceCall E)
    (r : Except ServiceError (ServiceCall.Answer c)) : Prop :=
  s.toWorkspace.may c r ∧
    match (⟨c, r⟩ : ServiceEvent E) with
    | ⟨.applyMarker .., .error _⟩ => False
    | _ => True

/-- What an answered call leaves. -/
def MarkedWorkspace.next (s : MarkedWorkspace E) (c : ServiceCall E)
    (r : Except ServiceError (ServiceCall.Answer c)) : MarkedWorkspace E where
  toWorkspace := s.toWorkspace.next c r
  ids_nodup := s.ids_nodup
  carried :=
    match (⟨c, r⟩ : ServiceEvent E) with
    | ⟨.applyMarker _ deviceId marker present, .ok _⟩ =>
      applyMarker s.supports s.carried deviceId marker present
    | _ => s.carried

/-- The store as the passes see it. -/
def markedWorld (E : Evaluator) : World (serviceSig E) ServiceError (MarkedWorkspace E) :=
  ⟨MarkedWorkspace.may, MarkedWorkspace.next⟩

/-- What a pass runs. -/
def passBody (req : EvaluationRequest) : Service E Unit :=
  (BlobTask.evaluate req).body

/-- A pass that was run to its end. -/
abbrev MarkedTurn (E : Evaluator) :=
  Turn (serviceSig E) ServiceError (MarkedWorkspace E) EvaluationRequest

/-- A turn as a turn of its workspace. -/
def workspaceTurn (t : MarkedTurn E) : WorkspaceTurn E where
  task := .blob (.evaluate t.task)
  before := t.before.toWorkspace
  events := t.events
  result := t.result

/-! ## What the marker writes leave -/

theorem mem_setMarker (carried : List (String × Marker)) (x y : String × Marker)
    (present : Bool) :
    y ∈ setMarker carried x present ↔ if y = x then present = true else y ∈ carried := by
  unfold setMarker
  cases present <;> by_cases h : y = x <;> simp [h]

/-- Whether `x` is carried after some marker actions. -/
def carries (supports : String → Bool) (x : String × Marker) (b : Bool)
    (acts : List MarkerAction) : Bool :=
  acts.foldl (fun b a => if (a.deviceId, a.marker) = x ∧ supports a.deviceId then a.present else b)
    b

@[simp] theorem carries_nil (supports : String → Bool) (x : String × Marker) (b : Bool) :
    carries supports x b [] = b := rfl

theorem carries_append (supports : String → Bool) (x : String × Marker) (b : Bool)
    (acts acts' : List MarkerAction) :
    carries supports x b (acts ++ acts') = carries supports x (carries supports x b acts) acts' :=
  foldl_append

/-- The actions on the device of `x` decide. -/
theorem carries_filter (supports : String → Bool) (x : String × Marker) (b : Bool)
    (acts : List MarkerAction) :
    carries supports x b (acts.filter fun a => a.deviceId = x.1) = carries supports x b acts := by
  rw [carries, foldl_filter, carries]
  congr 1
  funext b a
  by_cases h : a.deviceId = x.1
  · simp [h]
  · have hne : ¬((a.deviceId, a.marker) = x ∧ supports a.deviceId = true) := by
      rintro ⟨rfl, -⟩
      exact h rfl
    simp [h, hne]

variable {x : String × Marker}

theorem carries_of_unsupported {supports : String → Bool} {b : Bool}
    {acts : List MarkerAction} (h : ¬supports x.1 = true) : carries supports x b acts = b := by
  induction acts generalizing b with
  | nil => rfl
  | cons a acts ih =>
    have hskip : ¬((a.deviceId, a.marker) = x ∧ supports a.deviceId = true) := by
      rintro ⟨rfl, hs⟩
      exact h hs
    rw [carries, foldl_cons, if_neg hskip]
    exact ih

/-- Going through some devices once each, a device gets its actions in their
order. -/
theorem flatMap_eraseDups_filter (acts : List MarkerAction) (deviceId : String) (n : ℕ)
    (ids : List String) (hlen : ids.length ≤ n) :
    (ids.eraseDups.flatMap fun id => acts.filter fun a => a.deviceId = id).filter
        (fun a => a.deviceId = deviceId) =
      if deviceId ∈ ids then acts.filter (fun a => a.deviceId = deviceId) else [] := by
  induction n generalizing ids with
  | zero =>
    rw [length_eq_zero_iff.mp (Nat.le_zero.mp hlen)]
    rfl
  | succ n ih =>
    cases ids with
    | nil => rfl
    | cons id ids =>
      have hrest : (ids.filter fun b => !b == id).length ≤ n :=
        (length_filter_le _ _).trans (Nat.le_of_succ_le_succ hlen)
      rw [eraseDups_cons, flatMap_cons, filter_append, ih _ hrest,
        filter_filter]
      by_cases hid : deviceId = id
      · subst hid
        simp
      · have hnone : acts.filter (fun a => decide (a.deviceId = deviceId) &&
            decide (a.deviceId = id)) = [] := by
          refine filter_eq_nil_iff.mpr fun a _ ha => hid ?_
          simp only [Bool.and_eq_true, decide_eq_true_eq] at ha
          exact ha.1.symm.trans ha.2
        rw [hnone, nil_append]
        simp [hid]

theorem byDevice_filter (acts : List MarkerAction) (deviceId : String) :
    (byDevice acts).filter (fun a => a.deviceId = deviceId) =
      acts.filter fun a => a.deviceId = deviceId := by
  rw [byDevice, flatMap_eraseDups_filter _ _ _ _ le_rfl]
  split_ifs with hmem
  · rfl
  · refine (filter_eq_nil_iff.mpr fun a ha heq => hmem ?_).symm
    rw [← of_decide_eq_true heq]
    exact mem_map_of_mem ha

theorem carries_byDevice (supports : String → Bool) (x : String × Marker) (b : Bool)
    (acts : List MarkerAction) :
    carries supports x b (byDevice acts) = carries supports x b acts := by
  rw [← carries_filter, byDevice_filter, carries_filter]

/-! ## What the visits of a pass do to a marker -/

/-- The device no longer violates, and was flagged. -/
def Visit.recovers (v : Visit E) (ctx : EvalContext E) (b₀ : SuppressionState) : Bool :=
  (v.matched ctx).isEmpty && (SuppressionState.get b₀ v.key).isSome

/-- The device violates, and was not flagged. -/
def Visit.opens (v : Visit E) (ctx : EvalContext E) (b₀ : SuppressionState) : Bool :=
  !(v.matched ctx).isEmpty && (SuppressionState.get b₀ v.key).isNone

/-- The marker actions of a visit. -/
def Visit.acts (v : Visit E) (ctx : EvalContext E) (b₀ : SuppressionState) :
    List MarkerAction :=
  if v.recovers ctx b₀ then v.policy.markerActions v.device.id false
  else if v.opens ctx b₀ then v.policy.markerActions v.device.id true
  else []

/-- The visit is about the device and a policy with the marker. -/
def Visit.about (v : Visit E) (x : String × Marker) : Bool :=
  v.device.id = x.1 && v.policy.markers.contains x.2

/-- What a visit asks for a marker on a device. -/
def Visit.asks (v : Visit E) (ctx : EvalContext E) (b₀ : SuppressionState)
    (x : String × Marker) : Option Bool :=
  if v.about x then
    if v.recovers ctx b₀ then some false else if v.opens ctx b₀ then some true else none
  else none

variable {ctx : EvalContext E} {b₀ : SuppressionState} {visits : List (Visit E)}
  {ms : List (Mark E)} {v : Visit E} (s : MarkedWorkspace attributeEvaluator)

/-- Where no key is visited twice, the queued actions are those of the visits. -/
theorem Scan.acts_eq
    {st : ScanState E} (h : Scan ctx b₀ visits st ms)
    (hkeys : (visits.map Visit.key).Nodup) : st.acts = visits.flatMap fun v => v.acts ctx b₀ := by
  have hget : ∀ {visits : List (Visit E)} {st : ScanState E} {ms : List (Mark E)} {v : Visit E},
      Scan ctx b₀ visits st ms → ((visits ++ [v]).map Visit.key).Nodup →
        SuppressionState.get st.blob v.key = SuppressionState.get b₀ v.key := by
    intro visits st ms v hscan hkeys
    rw [map_append, nodup_append] at hkeys
    exact hscan.get_of_unvisited fun hmem => hkeys.2.2 _ hmem _ (by simp) rfl
  induction h with
  | start => rfl
  | kept v hscan hiff ih =>
    have hold := hget hscan hkeys
    rw [map_append, nodup_append] at hkeys
    rw [flatMap_append, ← ih hkeys.1]
    rw [hold] at hiff
    cases hm : v.matched ctx <;> cases hg : SuppressionState.get b₀ v.key <;>
      simp [Visit.acts, Visit.recovers, Visit.opens, hm, hg] at hiff ⊢
  | recovered v hscan hmatched hsome ih =>
    have hold := hget hscan hkeys
    rw [map_append, nodup_append] at hkeys
    rw [flatMap_append, ← ih hkeys.1]
    rw [hold] at hsome
    simp [Visit.acts, Visit.recovers, hmatched, hsome]
  | opened v hscan hmatched hnone _ _ _ _ _ _ ih =>
    have hold := hget hscan hkeys
    rw [map_append, nodup_append] at hkeys
    rw [flatMap_append, ← ih hkeys.1]
    rw [hold] at hnone
    simp [Visit.acts, Visit.recovers, Visit.opens, hmatched, hnone]

/-- The actions about one policy and device ask the same of each marker. -/
theorem carries_markerActions (supports : String → Bool) (x : String × Marker) (b : Bool)
    (p : CompliancePolicy E) (deviceId : String) (present : Bool) :
    carries supports x b (p.markerActions deviceId present) =
      if deviceId = x.1 ∧ x.2 ∈ p.markers ∧ supports x.1 then present else b := by
  unfold CompliancePolicy.markerActions
  induction p.markers generalizing b with
  | nil => simp [carries]
  | cons m ms ih =>
    rw [map_cons, carries, foldl_cons]
    refine (ih _).trans ?_
    obtain ⟨d, m'⟩ := x
    by_cases hd : deviceId = d
    · subst hd
      by_cases hm : m = m'
      · subst hm
        by_cases hs : supports deviceId = true <;> simp [hs]
      · simp [hm, Ne.symm hm]
    · simp [hd]

theorem carries_acts (supports : String → Bool) (x : String × Marker) (hs : supports x.1 = true)
    (b : Bool) (ctx : EvalContext E) (b₀ : SuppressionState) (v : Visit E) :
    carries supports x b (v.acts ctx b₀) = (v.asks ctx b₀ x).getD b := by
  have habout : (v.device.id = x.1 ∧ x.2 ∈ v.policy.markers ∧ supports x.1 = true) ↔
      v.about x = true := by
    simp [Visit.about, hs]
  have hput : ∀ present, carries supports x b (v.policy.markerActions v.device.id present) =
      if v.about x then present else b := by
    intro present
    rw [carries_markerActions]
    exact if_congr habout rfl rfl
  unfold Visit.acts Visit.asks
  cases v.recovers ctx b₀ <;> cases v.opens ctx b₀ <;> cases ha : v.about x <;> simp [hput, ha]

theorem asks_of_opens
    {deviceId : String} {marker : Marker} (hdevice : v.device.id = deviceId)
    (hmarker : marker ∈ v.policy.markers) (hopens : v.opens ctx b₀ = true) :
    v.asks ctx b₀ (deviceId, marker) = some true := by
  have hunrecovered : v.recovers ctx b₀ = false := by
    simp only [Visit.opens, Bool.and_eq_true, Bool.not_eq_true'] at hopens
    simp [Visit.recovers, hopens.1]
  simp [Visit.asks, Visit.about, hdevice, hmarker, hopens, hunrecovered]

theorem recovers_of_asks
    (h : v.asks ctx b₀ x = some false) :
    v.device.id = x.1 ∧ x.2 ∈ v.policy.markers ∧ v.recovers ctx b₀ = true := by
  unfold Visit.asks at h
  split_ifs at h with habout hrecovers hopens
  · simp only [Visit.about, Bool.and_eq_true, decide_eq_true_eq, contains_iff_mem] at habout
    exact ⟨habout.1, habout.2, hrecovers⟩
  · cases h

/-- A marker is carried after some visits when no visit asks to take it off
without a later one asking to put it on, and one asks to put it on if it
was not there. -/
theorem carried_of_asks {asks : Visit E → Option Bool} {b : Bool}
    (hoff : ∀ pre w post, visits = pre ++ w :: post → asks w = some false →
      ∃ u ∈ post, asks u = some true)
    (hon : b = true ∨ ∃ v ∈ visits, asks v = some true) :
    visits.foldl (fun b v => (asks v).getD b) b = true := by
  induction visits using reverseRecOn with
  | nil => simpa using hon
  | append_singleton visits v ih =>
    rw [foldl_append, foldl_cons, foldl_nil]
    cases hask : asks v with
    | some present =>
      cases present with
      | true => rfl
      | false =>
        obtain ⟨u, hu, -⟩ := hoff visits v [] rfl hask
        cases hu
    | none =>
      refine ih (fun pre w post hsplit hw => ?_) (hon.imp_right fun ⟨u, hu, hput⟩ => ?_)
      · obtain ⟨u, hu, hput⟩ := hoff pre w (post ++ [v]) (by simp [hsplit]) hw
        rcases mem_append.mp hu with hu | hu
        · exact ⟨u, hu, hput⟩
        · rw [mem_singleton.mp hu, hask] at hput
          cases hput
      · rcases mem_append.mp hu with hu | hu
        · exact ⟨u, hu, hput⟩
        · rw [mem_singleton.mp hu, hask] at hput
          cases hput

/-! ## A pass in its store -/

/-- The marker action that a mark records. -/
def Mark.markerAction : Mark E → Option MarkerAction
  | .marker deviceId m present => some ⟨deviceId, m, present⟩
  | _ => none

theorem markerAction_early (h : ms.all Mark.early = true) :
    ms.filterMap Mark.markerAction = [] := by
  refine filterMap_eq_nil_iff.mpr fun m hm => ?_
  have hearly := all_eq_true.mp h m hm
  cases m <;> first | rfl | cases hearly

theorem markerAction_markerMarks (acts : List MarkerAction) :
    (markerMarks acts : List (Mark E)).filterMap Mark.markerAction = byDevice acts := by
  rw [markerMarks, filterMap_map]
  exact filterMap_some

section Store

variable {s : MarkedWorkspace E} {es : List (ServiceEvent E)}

theorem workspace_after (s : MarkedWorkspace E) (es : List (ServiceEvent E)) :
    ((markedWorld E).after s es).toWorkspace = (workspaceWorld E).after s.toWorkspace es := by
  induction es generalizing s with
  | nil => rfl
  | cons e es ih => exact ih _

theorem accepts_workspace (h : (markedWorld E).Accepts s es) :
    (workspaceWorld E).Accepts s.toWorkspace es := by
  induction es generalizing s with
  | nil => trivial
  | cons e es ih => exact ⟨h.1.1, ih h.2⟩

theorem legal_workspace {t : MarkedTurn E} (h : t.Legal (markedWorld E) passBody) :
    (workspaceTurn t).Legal (workspaceWorld E) WorkspaceTask.body :=
  ⟨h.steps, accepts_workspace h.accepted⟩

theorem carried_next (x : String × Marker) {e : ServiceEvent E}
    (hmay : s.may e.call e.answer) :
    x ∈ (s.next e.call e.answer).carried ↔
      carries s.supports x (decide (x ∈ s.carried))
        ((mark e).toList.filterMap Mark.markerAction) = true := by
  have hkeep : x ∈ s.carried ↔
      carries s.supports x (decide (x ∈ s.carried)) [] = true := by simp
  obtain ⟨c, r⟩ := e
  cases c with
  | applyMarker orgBase deviceId marker present =>
    cases r with
    | error e => exact hmay.2.elim
    | ok a =>
      show x ∈ applyMarker s.supports s.carried deviceId marker present ↔
        (if (deviceId, marker) = x ∧ s.supports deviceId = true then present
          else decide (x ∈ s.carried)) = true
      unfold applyMarker
      by_cases hs : s.supports deviceId = true
      · rw [if_pos hs, mem_setMarker]
        by_cases hx : x = (deviceId, marker)
        · simp [hx, hs]
        · simp [hx, Ne.symm hx]
      · simp [hs]
  | getDevicesFull refresh => cases refresh <;> cases r <;> exact hkeep
  | startWorkflowRun pair runId w ds => cases pair <;> cases r <;> exact hkeep
  | _ => cases r <;> exact hkeep

theorem carried_after (x : String × Marker) (h : (markedWorld E).Accepts s es) :
    x ∈ ((markedWorld E).after s es).carried ↔
      carries s.supports x (decide (x ∈ s.carried))
        ((marks es).filterMap Mark.markerAction) = true := by
  induction es generalizing s with
  | nil => simp [marks]
  | cons e es ih =>
    have hcons : marks (e :: es) = (mark e).toList ++ marks es := by
      cases hm : mark e <;> simp [marks, hm]
    have hfirst : decide (x ∈ (s.next e.call e.answer).carried) =
        carries s.supports x (decide (x ∈ s.carried))
          ((mark e).toList.filterMap Mark.markerAction) :=
      Bool.eq_iff_iff.mpr (decide_eq_true_iff.trans (carried_next x h.1))
    rw [World.after_cons, hcons, filterMap_append, carries_append]
    refine (ih h.2).trans ?_
    show carries (s.next e.call e.answer).supports x
      (decide (x ∈ (s.next e.call e.answer).carried)) _ = true ↔ _
    rw [hfirst]
    rfl

/-- A call that writes a row of the policy table for an administrator. -/
def ServiceCall.editsPolicy : ServiceCall E → Bool
  | .updatePolicy .. | .deletePolicy _ => true
  | _ => false

/-- Without such calls every policy keeps its id and its markers. -/
theorem policies_after (h : ∀ e ∈ es, ServiceCall.editsPolicy e.call = false) :
    ∀ p' ∈ ((markedWorld E).after s es).policies.rows,
      ∃ p ∈ s.policies.rows, p.id = p'.id ∧ p.markers = p'.markers := by
  induction es generalizing s with
  | nil => exact fun p' hp' => ⟨p', hp', rfl, rfl⟩
  | cons e es ih =>
    intro p' hp'
    obtain ⟨p, hp, hid, hmarkers⟩ := ih (fun e' he' => h e' (mem_cons_of_mem _ he')) p' hp'
    have hfirst := h e mem_cons_self
    obtain ⟨q, hq, hqid, hqmarkers⟩ :
        ∃ q ∈ s.policies.rows, q.id = p.id ∧ q.markers = p.markers := by
      obtain ⟨c, r⟩ := e
      cases c with
      | updatePolicy id payload => cases hfirst
      | deletePolicy id => cases hfirst
      | tripAutoRun id reason =>
        cases r with
        | error e => exact ⟨p, hp, rfl, rfl⟩
        | ok a =>
          obtain ⟨q, hq, rfl⟩ := mem_map.mp hp
          refine ⟨q, hq, ?_⟩
          split_ifs <;> exact ⟨rfl, rfl⟩
      | _ => cases r <;> exact ⟨p, hp, rfl, rfl⟩
    exact ⟨q, hq, hqid.trans hid, hqmarkers.trans hmarkers⟩

theorem unchanged_of_early (hacc : (markedWorld E).Accepts s es) (h : Early es) :
    ((markedWorld E).after s es).state = s.state ∧
      ∀ x, x ∈ ((markedWorld E).after s es).carried ↔ x ∈ s.carried := by
  refine ⟨?_, fun x => ?_⟩
  · rw [workspace_after, state_after]
    exact blobOf_early h
  · rw [carried_after x hacc, markerAction_early h]
    simp

end Store

/-! ## Statements -/

/-- The visits of the pass over the devices that it has read. -/
def passVisits (t : MarkedTurn E) (fleet : Fleet E) : List (Visit E) :=
  visitsOf (t.task.policies t.before.policies.rows) fleet.1

/-- `p` goes on to flag the device: a visit finds it violating, or it is flagged
and not visited. -/
def StillFlags (t : MarkedTurn E) (fleet : Fleet E) (p : CompliancePolicy E) (deviceId : String) :
    Prop :=
  (∃ v ∈ passVisits t fleet, v.policy = p ∧ v.device.id = deviceId ∧ v.matched fleet.2 ≠ []) ∨
    (SuppressionState.get t.before.state (suppressionKey p.id deviceId)).isSome = true ∧
      suppressionKey p.id deviceId ∉ (passVisits t fleet).map Visit.key

/-- A pass whose recoveries take no marker off that another policy needs. -/
structure KeepsShared (t : MarkedTurn E) : Prop where
  /-- It does not throw once it has saved. -/
  completes : t.result = .ok () ∨ ∀ b, .saved b ∉ marks t.events
  /-- Where a policy with the marker goes on to flag the device, a recovery is
      followed by a new violation of a policy with the marker. -/
  recovery : ∀ fleet, FleetRead t.task t.events fleet → ∀ pre w post,
    passVisits t fleet = pre ++ w :: post → w.recovers fleet.2 t.before.state = true →
      ∀ marker ∈ w.policy.markers, ∀ p ∈ t.before.policies.rows, marker ∈ p.markers →
        StillFlags t fleet p w.device.id → ∃ u ∈ post, u.device.id = w.device.id ∧
          marker ∈ u.policy.markers ∧ u.opens fleet.2 t.before.state = true
  /-- A device that is newly flagged by a policy with markers can be marked. -/
  supported : ∀ fleet, FleetRead t.task t.events fleet → ∀ v ∈ passVisits t fleet,
    v.opens fleet.2 t.before.state = true → v.policy.markers ≠ [] →
      (platformPathSegment v.device.platform).isSome = true

/-- Every flagged device carries the markers of its policies. -/
def AllCarried (s : MarkedWorkspace E) : Prop :=
  ∀ p ∈ s.policies.rows, ∀ deviceId,
    (SuppressionState.get s.state (suppressionKey p.id deviceId)).isSome = true →
      ∀ marker ∈ p.markers, (deviceId, marker) ∈ s.carried

/-- After the pass, every device in scope that an evaluated policy flags carries
the markers of the policy. -/
def FlaggedCarry (t : MarkedTurn E) : Prop :=
  ∀ p ∈ t.task.policies t.before.policies.rows, ∀ d ∈ p.scopedDevices t.before.devices,
    (SuppressionState.get (t.after (markedWorld E)).state (p.key d)).isSome = true →
      ∀ marker ∈ p.markers, (d.id, marker) ∈ (t.after (markedWorld E)).carried

/-- Between two passes policies and devices change, by nobody who writes flags or
markers. -/
def Unmarked (s s' : MarkedWorkspace E) : Prop :=
  s'.state = s.state ∧ s'.carried = s.carried

/-- A policy that flags a device is not given a marker that it did not have. -/
def KeepsMarkers (s s' : MarkedWorkspace E) : Prop :=
  Unmarked s s' ∧ ∀ p' ∈ s'.policies.rows, ∀ deviceId,
    (SuppressionState.get s.state (suppressionKey p'.id deviceId)).isSome = true →
      ∃ p ∈ s.policies.rows, p.id = p'.id ∧ p'.markers ⊆ p.markers

theorem KeepsMarkers.allCarried {s s' : MarkedWorkspace E} (h : KeepsMarkers s s')
    (hs : AllCarried s) : AllCarried s' := by
  obtain ⟨⟨hstate, hcarried⟩, hpolicies⟩ := h
  intro p' hp' deviceId hflag marker hmarker
  rw [hstate] at hflag
  obtain ⟨p, hp, hid, hsub⟩ := hpolicies p' hp' deviceId hflag
  rw [hcarried]
  exact hs p hp deviceId (hid ▸ hflag) marker (hsub hmarker)

/-! ## One pass -/

section Pass

variable {t : MarkedTurn E} {fleet : Fleet E} {visits : List (Visit E)} {st : ScanState E}
  {ms : List (Mark E)} {v : Visit E}

theorem policies_of_pass (h : t.Legal (markedWorld E) passBody) :
    ∀ p' ∈ (t.after (markedWorld E)).policies.rows,
      ∃ p ∈ t.before.policies.rows, p.id = p'.id ∧ p.markers = p'.markers := by
  refine policies_after fun e he => ?_
  obtain ⟨pre, post, hes⟩ := append_of_mem he
  have hsteps := h.steps
  rw [hes] at hsteps
  have hcall : PassCall t.task _ e.call :=
    (meets_evaluateTask t.task).ok_of_append hsteps (World.log_accepts _ _)
  cases hc : e.call with
  | updatePolicy id payload =>
    rw [hc] at hcall
    obtain ⟨fleet, -, hfalse⟩ := hcall rfl
    exact hfalse.elim
  | deletePolicy id =>
    rw [hc] at hcall
    obtain ⟨fleet, -, hfalse⟩ := hcall rfl
    exact hfalse.elim
  | _ => rfl

theorem pass_or_early (h : t.Legal (markedWorld E) passBody)
    (hcompletes : t.result = .ok () ∨ ∀ b, .saved b ∉ marks t.events) :
    (∃ fleet visits st ms early tail, PassTurn t.task (workspaceTurn t) fleet visits st ms ∧
      marks t.events = early ++ .saved st.blob :: tail ++ markerMarks st.acts ∧
        early.all Mark.early = true ∧ (tail = [] ∨ tail = [.created st.rows])) ∨
      Early t.events := by
  rcases hcompletes with hok | hunsaved
  · exact (pass_cases_of_turn (legal_workspace h) rfl hok).imp_right And.left
  · refine .inr ?_
    obtain ⟨r', hend, -⟩ := (legal_workspace h).post (meets_evaluateTask t.task)
    have hsaved : ∀ {fleet acts ms}, PassSaved t.task fleet acts ms →
        ¬(marks t.events = ms ∨ marks t.events = ms ++ markerMarks acts) := by
      intro fleet acts ms hsaved hms
      obtain ⟨b₀, visits, st, ms', tail, -, -, rfl, -⟩ := hsaved.scanned
      refine hunsaved st.blob ?_
      rcases hms with hms | hms <;> simp [hms]
    cases r' with
    | ok summary =>
      rcases hend with ⟨fleet, -, acts, ms, hpass, hms⟩ | ⟨all, hes, -⟩
      · exact absurd (.inr hms) (hsaved hpass)
      · have hes' : t.events = _ := hes
        rw [hes']
        rfl
    | error e =>
      rcases hend with ⟨fleet, -, hearly | ⟨b₀, visits, st, ms, -, -, hms⟩ | ⟨acts, ms, hpass, hms⟩⟩
        | hearly
      · exact hearly
      · have hms' : marks t.events = _ := hms
        exact absurd (by simp [hms']) (hunsaved st.blob)
      · exact absurd hms (hsaved hpass)
      · exact hearly

theorem passVisits_nodup (h : PassTurn t.task (workspaceTurn t) fleet visits st ms) :
    ((passVisits t fleet).map Visit.key).Nodup := by
  have hitems : (fleet.1.map fun d => d.id).Nodup := by
    have hids : fleet.1.map (fun d => d.id) =
        (t.task.devices t.before.devices).map fun d => d.id := by
      have hshape : (fleet.1.map Device.shape).map Prod.fst =
          ((t.task.devices t.before.devices).map Device.shape).map Prod.fst :=
        congrArg (List.map Prod.fst) h.shapes
      simpa [map_map, Function.comp_def, Device.shape] using hshape
    rw [hids]
    exact t.before.ids_nodup.sublist (filter_sublist.map _)
  have hsub : (t.task.policies t.before.policies.rows).Sublist t.before.policies.rows :=
    filter_sublist
  refine visitsOf_keys_nodup (t.before.policies.ids_nodup.sublist (hsub.map _)) ?_ hitems
  exact fun p hp => t.before.policies.noColon p (hsub.subset hp)

/-- **Step lemma**: what a pass leaves of a marker on a device is what the last
visit that newly violates or recovers has asked for. -/
theorem carried_of_pass (hacc : (markedWorld E).Accepts t.before t.events)
    (h : PassTurn t.task (workspaceTurn t) fleet visits st ms) {early tail : List (Mark E)}
    (hmarks : marks t.events = early ++ .saved st.blob :: tail ++ markerMarks st.acts)
    (hearly : early.all Mark.early = true) (htail : tail = [] ∨ tail = [.created st.rows])
    {x : String × Marker} (hs : t.before.supports x.1 = true) :
    x ∈ (t.after (markedWorld E)).carried ↔
      (passVisits t fleet).foldl (fun b v => (v.asks fleet.2 t.before.state x).getD b)
        (decide (x ∈ t.before.carried)) = true := by
  have hacts : (marks t.events).filterMap Mark.markerAction = byDevice st.acts := by
    rw [hmarks, filterMap_append, filterMap_append, markerAction_early hearly,
      markerAction_markerMarks]
    rcases htail with rfl | rfl <;> rfl
  have hscan : st.acts = (passVisits t fleet).flatMap fun v => v.acts fleet.2 t.before.state := by
    have hkeys := passVisits_nodup h
    have hvisits : passVisits t fleet = visits := h.visits_eq
    rw [hvisits] at hkeys ⊢
    exact h.scan.acts_eq hkeys
  rw [Turn.after, carried_after x hacc, hacts, carries_byDevice, hscan]
  generalize decide (x ∈ t.before.carried) = b
  induction passVisits t fleet generalizing b with
  | nil => rfl
  | cons v vs ih =>
    rw [flatMap_cons, carries_append, carries_acts _ _ hs, foldl_cons]
    exact ih _

/-- A visited device is one that Applivery knows, on the same platform. -/
theorem PassTurn.known (h : PassTurn t.task (workspaceTurn t) fleet visits st ms)
    (hv : v ∈ passVisits t fleet) :
    ∃ d ∈ t.before.devices, d.id = v.device.id ∧ d.platform = v.device.platform := by
  have hdevice := (mem_filter.mp (mem_visitsOf.mp hv).2).1
  have hshape : v.device.shape ∈ (t.task.devices t.before.devices).map Device.shape :=
    h.shapes ▸ mem_map_of_mem hdevice
  obtain ⟨d, hd, heq⟩ := mem_map.mp hshape
  obtain ⟨hid, hrest⟩ := Prod.mk.inj heq
  exact ⟨d, (mem_filter.mp hd).1, hid, (Prod.mk.inj hrest).2⟩

theorem PassTurn.supports (h : PassTurn t.task (workspaceTurn t) fleet visits st ms)
    (hv : v ∈ passVisits t fleet) (hpath : (platformPathSegment v.device.platform).isSome = true) :
    t.before.supports v.device.id = true := by
  obtain ⟨d, hd, hid, hplatform⟩ := h.known hv
  refine any_eq_true.mpr ⟨d, hd, ?_⟩
  rw [hplatform, hid, hpath]
  simp

variable {p : CompliancePolicy E} {deviceId : String}

/-- A policy that flags a device after the pass goes on to flag it in the pass. -/
theorem PassTurn.stillFlags (h : PassTurn t.task (workspaceTurn t) fleet visits st ms)
    (hp : p ∈ t.before.policies.rows)
    (hflag : (SuppressionState.get st.blob (suppressionKey p.id deviceId)).isSome = true) :
    StillFlags t fleet p deviceId := by
  have hvisits : passVisits t fleet = visits := h.visits_eq
  rw [StillFlags, hvisits]
  by_cases hvisited : suppressionKey p.id deviceId ∈ visits.map Visit.key
  · obtain ⟨v, hv, hkey, hiff⟩ := h.scan.get_of_visited hvisited
    have hpolicy : v.policy ∈ t.before.policies.rows := by
      rw [← hvisits] at hv
      exact (mem_filter.mp (mem_visitsOf.mp hv).1).1
    obtain ⟨hid, hdevice⟩ := suppressionKey_inj (t.before.policies.noColon _ hpolicy)
      (t.before.policies.noColon _ hp) hkey
    have hsame := inj_on_of_nodup_map t.before.policies.ids_nodup hpolicy hp hid
    exact .inl ⟨v, hv, hsame, hdevice, hiff.mp hflag⟩
  · rw [h.scan.get_of_unvisited hvisited] at hflag
    exact .inr ⟨hflag, hvisited⟩

/-- A device that a policy goes on to flag has its markers, or gets them in a
visit that newly flags it. -/
theorem StillFlags.carried_or_opens (h : StillFlags t fleet p deviceId) (hs : AllCarried t.before)
    (hp : p ∈ t.before.policies.rows) {marker : Marker} (hmarker : marker ∈ p.markers) :
    (deviceId, marker) ∈ t.before.carried ∨
      ∃ v ∈ passVisits t fleet, v.policy = p ∧ v.device.id = deviceId ∧
        v.opens fleet.2 t.before.state = true := by
  rcases h with ⟨v, hv, rfl, rfl, hmatched⟩ | ⟨hflag, -⟩
  · cases hold : SuppressionState.get t.before.state v.key with
    | none => exact .inr ⟨v, hv, rfl, rfl, by simp [Visit.opens, hmatched, hold]⟩
    | some entry =>
      refine .inl (hs _ hp v.device.id ?_ marker hmarker)
      rw [show suppressionKey v.policy.id v.device.id = v.key from rfl, hold]
      rfl
  · exact .inl (hs p hp deviceId hflag marker hmarker)

/-- **Step lemma**: a pass whose recoveries keep what others need leaves every
flagged device with the markers of its policies. -/
theorem carried_of_flagged (h : t.Legal (markedWorld E) passBody) (hkeeps : KeepsShared t)
    (hs : AllCarried t.before) :
    ∀ p ∈ t.before.policies.rows, ∀ deviceId,
      (SuppressionState.get (t.after (markedWorld E)).state
        (suppressionKey p.id deviceId)).isSome = true →
      ∀ marker ∈ p.markers, (deviceId, marker) ∈ (t.after (markedWorld E)).carried := by
  intro p hp deviceId hflag marker hmarker
  rcases pass_or_early h hkeeps.completes with
    ⟨fleet, visits, st, ms, early, tail, hpass, hmarks, hearly, htail⟩ | hearly
  · have hsaved : (t.after (markedWorld E)).state = st.blob := by
      rw [Turn.after, workspace_after]
      exact hpass.saved
    rw [hsaved] at hflag
    have hstill := hpass.stillFlags hp hflag
    have hon := hstill.carried_or_opens hs hp hmarker
    by_cases hsupport : t.before.supports deviceId = true
    · rw [carried_of_pass h.accepted hpass hmarks hearly htail (x := (deviceId, marker)) hsupport]
      refine carried_of_asks (fun pre w post hsplit hw => ?_) (hon.imp decide_eq_true ?_)
      · obtain ⟨hdevice, hwmarker, hrecovers⟩ := recovers_of_asks hw
        obtain ⟨u, hu, hudevice, humarker, hopens⟩ := hkeeps.recovery fleet hpass.read pre w post
          hsplit hrecovers marker hwmarker p hp hmarker (hdevice ▸ hstill)
        exact ⟨u, hu, asks_of_opens (hudevice.trans hdevice) humarker hopens⟩
      · rintro ⟨v, hv, rfl, hdevice, hopens⟩
        exact ⟨v, hv, asks_of_opens hdevice hmarker hopens⟩
    · rcases hon with hcarried | ⟨v, hv, rfl, rfl, hopens⟩
      · rw [Turn.after, carried_after _ h.accepted, carries_of_unsupported hsupport]
        exact decide_eq_true hcarried
      · have hpath := hkeeps.supported fleet hpass.read v hv hopens (ne_nil_of_mem hmarker)
        exact absurd (hpass.supports hv hpath) hsupport
  · obtain ⟨hstate, hcarried⟩ := unchanged_of_early h.accepted hearly
    have hflag' : (SuppressionState.get t.before.state
        (suppressionKey p.id deviceId)).isSome = true := hstate ▸ hflag
    exact (hcarried _).mpr (hs p hp deviceId hflag' marker hmarker)

theorem allCarried_of_pass (h : t.Legal (markedWorld E) passBody) (hkeeps : KeepsShared t)
    (hs : AllCarried t.before) : AllCarried (t.after (markedWorld E)) := by
  intro p' hp' deviceId hflag marker hmarker
  obtain ⟨p, hp, hid, hmarkers⟩ := policies_of_pass h p' hp'
  rw [← hid] at hflag
  rw [← hmarkers] at hmarker
  exact carried_of_flagged h hkeeps hs p hp deviceId hflag marker hmarker

end Pass

/-- **Main theorem**: in every sequence of passes in which no recovery takes off
what another policy needs, every flagged device in scope carries the markers
of the policies that flag it, after each pass. -/
theorem markers_carried {s₀ s : MarkedWorkspace E} {ts : List (MarkedTurn E)}
    (h : Sequence (markedWorld E) passBody KeepsMarkers s₀ ts s) (hs : AllCarried s₀)
    (hkeeps : ∀ t ∈ ts, KeepsShared t) : ∀ t ∈ ts, FlaggedCarry t := by
  have hinv := h.invariant hs (fun t ht hlegal hbefore => allCarried_of_pass hlegal (hkeeps t ht)
    hbefore) fun _ _ hout hbefore => hout.allCarried hbefore
  intro t ht p hp d hd hflag marker hmarker
  exact carried_of_flagged (h.legal ht) (hkeeps t ht) (hinv.2 t ht) p (mem_filter.mp hp).1
    d.id hflag marker hmarker

/-! ## Two policies with one tag -/

/-- A device whose disk is not encrypted is quarantined. -/
def unencryptedPolicy : CompliancePolicy attributeEvaluator :=
  { encryptionPolicy with nonComplianceTag := some "quarantine" }

/-- So is one of which that is not known. -/
def unconfirmedPolicy : CompliancePolicy attributeEvaluator where
  id := "p2"
  name := "Encryption confirmed"
  conditions := [⟨"encryption", "off"⟩, ⟨"encryption", "unknown"⟩]
  nonComplianceTag := some "quarantine"

/-- The two policies and the laptop, before any pass. -/
def newMarked : MarkedWorkspace attributeEvaluator where
  policies := ⟨[unencryptedPolicy, unconfirmedPolicy], by decide, by decide⟩
  devices := [plainLaptop]
  state := []
  ids_nodup := List.nodup_singleton _
  carried := []

/-- The answers of a store in which all writes succeed. -/
def MarkedWorkspace.answer (s : MarkedWorkspace attributeEvaluator) :
    (c : ServiceCall attributeEvaluator) → Except ServiceError (ServiceCall.Answer c)
  | .markCaseRecovered .. => .ok none
  | .resolveOrgBase => .ok "org"
  | .applyMarker .. => .ok true
  | c => s.toWorkspace.answer c

theorem may_markedAnswer
    (c : ServiceCall attributeEvaluator) :
    (markedWorld attributeEvaluator).may s c (s.answer c) := by
  have hworkspace := may_answer s.toWorkspace c
  cases c with
  | markCaseRecovered _ _ => exact ⟨trivial, trivial⟩
  | resolveOrgBase => exact ⟨trivial, trivial⟩
  | applyMarker _ _ _ _ => exact ⟨trivial, trivial⟩
  | getDevicesFull refresh => exact ⟨hworkspace, trivial⟩
  | startWorkflowRun pair _ _ _ => cases pair <;> exact ⟨hworkspace, trivial⟩
  | _ => exact ⟨hworkspace, trivial⟩

/-- The turn of a fleet-wide pass, answered by the store. -/
def MarkedWorkspace.play (s : MarkedWorkspace attributeEvaluator) :
    MarkedTurn attributeEvaluator where
  task := fleetPass
  before := s
  events := ((passBody fleetPass).execute (markedWorld _) MarkedWorkspace.answer s).1
  result := ((passBody fleetPass).execute (markedWorld _) MarkedWorkspace.answer s).2

theorem legal_markedPlay :
    s.play.Legal (markedWorld _) passBody :=
  ⟨Prog.steps_execute _ _, Prog.accepts_execute may_markedAnswer _ _⟩

/-- The pass that finds the laptop not encrypted. -/
def flaggingTurn : MarkedTurn attributeEvaluator :=
  newMarked.play

/-- What is stored when the laptop no longer reports its encryption. -/
def unreported : MarkedWorkspace attributeEvaluator where
  policies := newMarked.policies
  devices := [{ plainLaptop with facts := "unknown" }]
  state := (flaggingTurn.after (markedWorld _)).state
  ids_nodup := List.nodup_singleton _
  carried := (flaggingTurn.after (markedWorld _)).carried

/-- The pass after that. -/
def recoveringTurn : MarkedTurn attributeEvaluator :=
  unreported.play

theorem allCarried_newMarked : AllCarried newMarked := by
  intro p _ deviceId hflag
  cases hflag

/-- Both policies flag the laptop in the first pass, and it carries the tag. -/
theorem markers_carried_flaggingTurn :
    (∀ key ∈ ["p1:d1", "p2:d1"],
      (SuppressionState.get (flaggingTurn.after (markedWorld _)).state key).isSome = true) ∧
      FlaggedCarry flaggingTurn := by
  refine ⟨by decide +kernel, markers_carried (.turn .start (legal_markedPlay newMarked))
    allCarried_newMarked (fun t ht => ?_) flaggingTurn mem_cons_self⟩
  obtain rfl := mem_singleton.mp ht
  refine ⟨.inl (by decide +kernel), fun fleet _ pre w post _ hrecovers => ?_,
    fun fleet hread v hv _ _ => ?_⟩
  · have hnone : SuppressionState.get newMarked.state w.key = none := rfl
    have hstart : newMarked.play.before.state = newMarked.state := rfl
    simp [Visit.recovers, hstart, hnone] at hrecovers
  · rcases pass_or_early (legal_markedPlay newMarked) (.inl (by decide +kernel)) with
      ⟨fleet', visits, st, ms, early, tail, hpass, -⟩ | hearly
    · obtain rfl := hread.unique hpass.read
      obtain ⟨d, hd, -, hplatform⟩ := hpass.known hv
      obtain rfl := mem_singleton.mp hd
      rw [← hplatform]
      rfl
    · have hsaves : (marks newMarked.play.events).all Mark.early = false := by decide +kernel
      exact absurd (hearly.symm.trans hsaves) (by decide)

theorem run_flaggingTurn :
    Sequence (markedWorld _) passBody Unmarked newMarked ([] ++ [flaggingTurn])
      (flaggingTurn.after (markedWorld _)) :=
  .turn .start (legal_markedPlay newMarked)

theorem run_recoveringTurn :
    Sequence (markedWorld _) passBody Unmarked newMarked ([] ++ [flaggingTurn] ++ [recoveringTurn])
      (recoveringTurn.after (markedWorld _)) :=
  .turn (run_flaggingTurn.outside ⟨rfl, rfl⟩) (legal_markedPlay unreported)

/-- The first policy recovers in the second pass and takes the tag of the second
one off. -/
theorem shared_tag_lost :
    ¬∀ (s₀ s : MarkedWorkspace attributeEvaluator) (ts : List (MarkedTurn attributeEvaluator)),
      Sequence (markedWorld _) passBody Unmarked s₀ ts s → AllCarried s₀ →
      (∀ t ∈ ts, t.result = .ok ()) → ∀ t ∈ ts, FlaggedCarry t := by
  intro h
  have hok : ∀ t ∈ [] ++ [flaggingTurn] ++ [recoveringTurn], t.result = .ok () := by
    rw [nil_append, forall_mem_append, forall_mem_singleton,
      forall_mem_singleton]
    exact ⟨by decide +kernel, by decide +kernel⟩
  have hcarry := h _ _ _ run_recoveringTurn allCarried_newMarked hok recoveringTurn (by simp)
    unconfirmedPolicy (mem_of_getElem? (i := 1) rfl) { plainLaptop with facts := "unknown" }
    (mem_of_getElem? (i := 0) rfl) (by decide +kernel) (.tag "quarantine")
    (mem_of_getElem? (i := 0) rfl)
  exact absurd hcarry (by decide +kernel)

end AppliverySoar.Compliance
