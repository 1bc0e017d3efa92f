import AppliverySoar.Workflows.PolicyRuns

/-!
# The place of an added policy

An add step reads the stack of a device, gives the new policy a priority before
or behind all others, and sends the whole stack. The world shows one stack and
keeps what is sent with success; nobody else edits the device.

Results:
* `newPriority_before`, `newPriority_behind`: the new priority passes all others
  unless the range ends.
* `placed_iff_hasRoom`: after a successful step the new policy has its place, and
  the others theirs, exactly where there was room for it.
-/

namespace AppliverySoar.Workflows

open Async Compliance Devices List
open Js (Runtime)

/-! ## The new priority -/

variable {ns : List ℚ} {n : ℚ}

theorem newPriority_before (hn : n ∈ ns) : newPriority true ns < n ↔ PRIORITY_MIN < n := by
  obtain ⟨m, hm⟩ := Option.isSome_iff_exists.mp (isSome_min?_of_mem hn)
  have hmn : m ≤ n := (min?_eq_some_iff.mp hm).2 n hn
  rw [newPriority, if_pos rfl, hm, Option.getD_some, max_lt_iff, and_iff_left_iff_imp]
  intro _
  exact lt_of_lt_of_le (sub_lt_self m (by decide)) hmn

theorem newPriority_behind (hn : n ∈ ns) : n < newPriority false ns ↔ n < PRIORITY_MAX := by
  obtain ⟨m, hm⟩ := Option.isSome_iff_exists.mp (isSome_max?_of_mem hn)
  have hnm : n ≤ m := (max?_eq_some_iff.mp hm).2 n hn
  rw [newPriority, if_neg Bool.false_ne_true, hm, Option.getD_some, lt_min_iff,
    and_iff_left_iff_imp]
  intro _
  exact lt_of_le_of_lt hnm (lt_add_of_pos_right m (by decide))

/-- A number passes another in the direction of the step. -/
def Passes (top : Bool) (n m : ℚ) : Prop :=
  if top then n < m else m < n

instance (top : Bool) (n m : ℚ) : Decidable (Passes top n m) :=
  inferInstanceAs (Decidable (if top then n < m else m < n))

/-- The end of the range that the step goes towards. -/
def priorityEnd (top : Bool) : ℚ :=
  if top then PRIORITY_MIN else PRIORITY_MAX

theorem passes_newPriority (top : Bool) (hn : n ∈ ns) :
    Passes top (newPriority top ns) n ↔ Passes top (priorityEnd top) n := by
  cases top with
  | true => exact newPriority_before hn
  | false => exact newPriority_behind hn

/-! ## Stacks -/

/-- The stack that the policies of a device show: the first one that is flagged is
the primary policy, and the others are assigned. -/
def shownStack (policies : List PolicyEntry) : PolicyStack :=
  let primaryIdx := policies.findIdx? PolicyEntry.isPrimary
  { primary := primaryIdx.bind fun i => policies[i]?.map PolicyEntry.id
    assignments := (match primaryIdx with
      | some i => policies.eraseIdx i
      | none => policies).map fun p : PolicyEntry => (p.id, p.priority) }

/-- The policies of a stack. -/
def PolicyStack.ids (st : PolicyStack) : List String :=
  st.primary.toList ++ st.assignments.map Prod.fst

/-- The policy is there once, it passes all other numbers, and the others are what
they were. -/
structure Placed (top : Bool) (policyId : String) (before after : PolicyStack) : Prop where
  once : after.ids.count policyId = 1
  passes : ∃ n, (policyId, some n) ∈ after.assignments ∧ ∀ id m,
    (id, some m) ∈ after.assignments → id ≠ policyId → Passes top n m
  others : after.assignments.filter (fun a => a.1 ≠ policyId) =
    before.assignments.filter (fun a => a.1 ≠ policyId)
  primary : after.primary = before.primary

/-- There is a primary policy, the new policy is not there yet, and every assignment
has a number that is not at the end of the range. -/
structure HasRoom (top : Bool) (policyId : String) (before : PolicyStack) : Prop where
  primary : before.primary.isSome
  absent : policyId ∉ before.ids
  numbered : ∀ a ∈ before.assignments, ∃ m, a.2 = some m ∧ Passes top (priorityEnd top) m

/-- `newEntry`. -/
def addedEntry (top : Bool) (policyId : String) (policies : List PolicyEntry) : PolicyEntry :=
  ⟨policyId, some (newPriority top (policies.filterMap PolicyEntry.priority)), false⟩

/-- The stack with the added policy. -/
def addedStack (platformPath : String) (top : Bool) (policyId : String)
    (policies : List PolicyEntry) : PolicyStack :=
  (policyBody platformPath (policies ++ [addedEntry top policyId policies])).stack

variable {platformPath policyId : String} {policies : List PolicyEntry} {top : Bool}

/-- What is sent for the assignments, by their places. -/
def numberedByPlace (policies : List PolicyEntry) : List (String × Option ℚ) :=
  (policies.mapIdx fun k p => (p.id, p.priority.getD (k + 1))).map fun a => (a.1, some a.2)

variable {i : ℕ}

theorem addedStack_of_primary (hi : policies.findIdx? PolicyEntry.isPrimary = some i) :
    addedStack platformPath top policyId policies =
      ⟨policies[i]?.map PolicyEntry.id, numberedByPlace (policies.eraseIdx i) ++
          [(policyId, some (newPriority top (policies.filterMap PolicyEntry.priority)))]⟩ := by
  have hlt : i < policies.length := (findIdx?_eq_some_iff_getElem.mp hi).1
  have hadded : (policies ++ [addedEntry top policyId policies]).findIdx? PolicyEntry.isPrimary =
      some i := by
    rw [findIdx?_append, hi]
    rfl
  unfold addedStack policyBody PolicyBody.stack
  rw [hadded]
  dsimp only
  rw [getElem?_append_left hlt, eraseIdx_append_of_lt_length hlt, mapIdx_append,
    map_append]
  rfl

theorem addedStack_primary_isSome (platformPath : String) (top : Bool) (policyId : String)
    (hnone : policies.findIdx? PolicyEntry.isPrimary = none) :
    (addedStack platformPath top policyId policies).primary.isSome := by
  have hadded : (policies ++ [addedEntry top policyId policies]).findIdx? PolicyEntry.isPrimary =
      none := by
    rw [findIdx?_append, hnone]
    rfl
  unfold addedStack policyBody PolicyBody.stack
  rw [hadded]
  cases policies <;> rfl

theorem shownStack_of_primary (hi : policies.findIdx? PolicyEntry.isPrimary = some i) :
    shownStack policies = ⟨policies[i]?.map PolicyEntry.id,
      (policies.eraseIdx i).map fun p => (p.id, p.priority)⟩ := by
  rw [shownStack, hi]
  rfl

theorem fst_numberedByPlace (es : List PolicyEntry) :
    (numberedByPlace es).map Prod.fst = es.map PolicyEntry.id := by
  refine ext_getElem? fun k => ?_
  cases hk : es[k]? <;> simp [numberedByPlace, hk]

theorem numberedByPlace_of_numbered {es : List PolicyEntry} (h : ∀ p ∈ es, p.priority.isSome) :
    numberedByPlace es = es.map fun p => (p.id, p.priority) := by
  refine ext_getElem? fun k => ?_
  cases hk : es[k]? with
  | none => simp [numberedByPlace, hk]
  | some p =>
    obtain ⟨n, hn⟩ := Option.isSome_iff_exists.mp (h p (mem_of_getElem? hk))
    simp [numberedByPlace, hk, hn]

variable {a : String × Option ℚ}

theorem isSome_of_mem_numberedByPlace {es : List PolicyEntry}
    (ha : a ∈ numberedByPlace es) : ∃ n, a.2 = some n := by
  obtain ⟨b, -, rfl⟩ := mem_map.mp ha
  exact ⟨_, rfl⟩

theorem ids_addedStack (hi : policies.findIdx? PolicyEntry.isPrimary = some i) :
    (addedStack platformPath top policyId policies).ids =
      (shownStack policies).ids ++ [policyId] := by
  rw [addedStack_of_primary hi, shownStack_of_primary hi]
  unfold PolicyStack.ids
  rw [map_append, fst_numberedByPlace, map_map, append_assoc]
  rfl

theorem mem_numbered {m : ℚ}
    (ha : a ∈ (policies.eraseIdx i).map fun p => (p.id, p.priority)) (hm : a.2 = some m) :
    m ∈ policies.filterMap PolicyEntry.priority := by
  obtain ⟨p, hp, rfl⟩ := mem_map.mp ha
  exact mem_filterMap.mpr ⟨p, mem_of_mem_eraseIdx hp, hm⟩

theorem filter_of_absent {as : List (String × Option ℚ)} (h : policyId ∉ as.map Prod.fst) :
    as.filter (fun a => a.1 ≠ policyId) = as := by
  refine filter_eq_self.mpr fun a ha => decide_eq_true fun hid => h ?_
  exact mem_map.mpr ⟨a, ha, hid⟩

theorem hasRoom_of_placed (h : Placed top policyId (shownStack policies)
      (addedStack platformPath top policyId policies)) :
    HasRoom top policyId (shownStack policies) := by
  cases hi : policies.findIdx? PolicyEntry.isPrimary with
  | none =>
    have hprimary : (shownStack policies).primary = none := by
      rw [shownStack, hi]
      rfl
    have hsome := addedStack_primary_isSome platformPath top policyId hi
    rw [h.primary, hprimary] at hsome
    cases hsome
  | some i =>
    have hlt : i < policies.length := (findIdx?_eq_some_iff_getElem.mp hi).1
    have habsent : policyId ∉ (shownStack policies).ids := by
      have honce := h.once
      rw [ids_addedStack hi, count_append, count_singleton_self] at honce
      exact count_eq_zero.mp (Nat.succ.inj honce)
    refine ⟨?_, habsent, fun a ha => ?_⟩
    · rw [shownStack_of_primary hi, getElem?_eq_getElem hlt]
      rfl
    · have hothers := h.others
      obtain ⟨n, hn, hpasses⟩ := h.passes
      rw [shownStack_of_primary hi] at hothers habsent ha
      rw [addedStack_of_primary hi] at hothers hn hpasses
      have hids : policyId ∉ ((policies.eraseIdx i).map fun p => (p.id, p.priority)).map Prod.fst :=
        fun h => habsent (mem_append_right _ h)
      have hids' : policyId ∉ (numberedByPlace (policies.eraseIdx i)).map Prod.fst := by
        rw [fst_numberedByPlace]
        rwa [map_map] at hids
      rw [filter_append, filter_of_absent hids, filter_of_absent hids',
        filter_cons_of_neg (by simp), filter_nil, append_nil] at hothers
      -- the new policy has the one number that the step has chosen
      obtain rfl : n = newPriority top (policies.filterMap PolicyEntry.priority) := by
        rcases mem_append.mp hn with hn | hn
        · exact absurd (mem_map_of_mem hn) hids'
        · exact Option.some.inj (congrArg Prod.snd (mem_singleton.mp hn))
      obtain ⟨m, hm⟩ := isSome_of_mem_numberedByPlace (hothers ▸ ha)
      refine ⟨m, hm, (passes_newPriority top (mem_numbered ha hm)).mp ?_⟩
      refine hpasses a.1 m (mem_append_left _ ?_) fun hid => hids ?_
      · rw [hothers, ← hm]
        exact ha
      · exact hid ▸ mem_map_of_mem ha

theorem placed_of_hasRoom (h : HasRoom top policyId (shownStack policies)) :
    Placed top policyId (shownStack policies) (addedStack platformPath top policyId policies) := by
  have hprimary := h.primary
  cases hi : policies.findIdx? PolicyEntry.isPrimary with
  | none =>
    rw [shownStack, hi] at hprimary
    cases hprimary
  | some i =>
    have hnumbered := h.numbered
    have habsent := h.absent
    have honce : (addedStack platformPath top policyId policies).ids.count policyId = 1 := by
      rw [ids_addedStack hi, count_append, count_singleton_self,
        count_eq_zero_of_not_mem habsent]
    rw [shownStack_of_primary hi] at hnumbered habsent ⊢
    have hids : policyId ∉ ((policies.eraseIdx i).map fun p => (p.id, p.priority)).map Prod.fst :=
      fun h => habsent (mem_append_right _ h)
    have hsome : ∀ p ∈ policies.eraseIdx i, p.priority.isSome := by
      intro p hp
      obtain ⟨m, hm, -⟩ := hnumbered _ (mem_map_of_mem hp)
      exact Option.isSome_iff_exists.mpr ⟨m, hm⟩
    rw [addedStack_of_primary hi, numberedByPlace_of_numbered hsome] at honce ⊢
    refine ⟨honce, ⟨_, mem_append_right _ mem_cons_self, fun id m hm hid => ?_⟩, ?_, rfl⟩
    · rcases mem_append.mp hm with hm | hm
      · obtain ⟨m', hm', hpasses⟩ := hnumbered _ hm
        obtain rfl := Option.some.inj hm'
        exact (passes_newPriority top (mem_numbered hm rfl)).mpr hpasses
      · exact absurd (congrArg Prod.fst (mem_singleton.mp hm)) hid
    · rw [filter_append, filter_cons_of_neg (by simp), filter_nil,
        append_nil]

/-! ## Runs -/

/-- What a device shows, and its stack. -/
structure ShownDevice where
  shown : List ActivePolicy
  stack : PolicyStack

/-- A pull shows the policies, and a request that succeeds is carried out. -/
def shownWorld : World policySig JsError ShownDevice where
  may d c r := match (⟨c, r⟩ : PolicyEvent) with
    | ⟨.getFullDevice _ _ _, .ok found⟩ => ∀ deviceFull, found = some deviceFull →
      deviceFull.activePolicies = d.shown
    | _ => True
  next d c r := match (⟨c, r⟩ : PolicyEvent) with
    | ⟨.putDevice _ _ body, .ok res⟩ => if res.status ≥ 300 then d else { d with stack := body.stack }
    | _ => d

/-- `currentValid`: the policies of a device with their ids. -/
def ShownDevice.currentValid (d : ShownDevice) : List PolicyEntry :=
  d.shown.filterMap ActivePolicy.entry

variable {rt : Runtime} {workspaceSlug : String} {device : DeviceRef} (d : ShownDevice)

theorem applyDevicePolicies_sends (auth platform deviceId : String)
    (stack : List PolicyEntry) :
    (applyDevicePolicies auth workspaceSlug platform deviceId stack).Meets shownWorld
      (fun _ _ => True) d (post (fun res d' => res.ok = true →
          ∃ platformPath, d'.stack = (policyBody platformPath stack).stack) fun _ _ => True) := by
  unfold applyDevicePolicies
  split
  next platformPath _ =>
    split_ifs
    · refine Prog.Meets.bind (R := fun _ _ => True) ⟨trivial, fun r _ => by cases r <;> trivial⟩ ?_
      intro orgBase d' _
      refine ⟨trivial, fun r _ => ?_⟩
      cases r with
      | error e => trivial
      | ok res =>
        by_cases hstatus : res.status ≥ 300
        · show StepResult.ok (if _ then _ else _) = true → _
          rw [if_pos hstatus]
          exact nofun
        · intro _
          refine ⟨platformPath, ?_⟩
          show ShownDevice.stack (if _ then _ else _) = _
          rw [if_neg hstatus]
    · exact nofun
  next => exact nofun

theorem readAndSnapshot_shows (auth : String)
    (workflowId : Option String) :
    (readAndSnapshot auth workspaceSlug device workflowId).Meets shownWorld
      (fun _ _ => True) d (post (fun found d' => d = d' ∧ ∀ deviceFull, found = some deviceFull →
        deviceFull.activePolicies = d.shown) fun _ _ => True) := by
  refine Prog.Meets.bind (R := fun found d' => d = d' ∧ ∀ deviceFull, found = some deviceFull →
    deviceFull.activePolicies = d.shown) ⟨trivial, fun r hr => ?_⟩ ?_
  · cases r with
    | ok found => exact ⟨rfl, hr⟩
    | error e => trivial
  · rintro found _ ⟨rfl, hfound⟩
    cases found with
    | none => exact ⟨rfl, nofun⟩
    | some deviceFull =>
      refine Prog.Meets.bind (R := fun _ d' => d = d') ?_ ?_
      · refine Prog.Meets.bind (R := fun _ d' => d = d')
          ⟨trivial, fun r _ => by cases r <;> trivial⟩ ?_
        rintro existing _ rfl
        cases existing with
        | some entry => exact rfl
        | none => exact ⟨trivial, fun r _ => by cases r <;> trivial⟩
      · rintro _ _ rfl
        exact ⟨rfl, hfound⟩

theorem executePolicyAddStep_adds (auth : String)
    (config : PolicyConfig) (workflowId : Option String) :
    (executePolicyAddStep rt auth workspaceSlug device config workflowId).Meets shownWorld
      (fun _ _ => True) d fun r d' => ∀ detail, r = .ok ⟨true, detail⟩ →
        ∃ policyId platformPath, truthy config.policyId = some policyId ∧
          d'.stack = addedStack platformPath (orElse config.priority "bottom" = "top") policyId
            d.currentValid := by
  unfold executePolicyAddStep
  split
  · exact fun _ hr => nomatch hr
  next policyId hid =>
    refine Prog.Meets.bind (R := fun found d' => d = d' ∧ ∀ deviceFull, found = some deviceFull →
      deviceFull.activePolicies = d.shown)
      ((readAndSnapshot_shows d auth workflowId).mono fun r d' h => ?_) ?_
    · cases r with
      | ok found => exact h
      | error e => exact fun _ hr => nomatch hr
    · rintro found _ ⟨rfl, hfound⟩
      cases found with
      | none => exact fun _ hr => nomatch hr
      | some deviceFull =>
        obtain ⟨platform, policies⟩ := deviceFull
        obtain rfl : policies = d.shown := hfound _ rfl
        refine Prog.Meets.bind (R := fun res d' => res.ok = true → ∃ platformPath, d'.stack =
          addedStack platformPath (orElse config.priority "bottom" = "top") policyId
            d.currentValid)
          ((applyDevicePolicies_sends d auth _ _ _).mono fun r d' h => ?_) ?_
        · cases r with
          | ok res => exact h
          | error e => exact fun _ hr => nomatch hr
        · intro res d' hres detail hdetail
          by_cases hok : res.ok = true
          · obtain ⟨platformPath, hstack⟩ := hres hok
            exact ⟨policyId, platformPath, hid, hstack⟩
          · rw [if_neg hok] at hdetail
            obtain rfl := Except.ok.inj hdetail
            exact absurd rfl hok

/-- What a device shows that has a primary policy and assignments with these numbers. -/
def numberedDevice (priorities : List (String × ℚ)) : ShownDevice where
  shown := ⟨some "p1", "Base", "apple", none, true⟩ ::
    priorities.map fun a => ⟨some a.1, a.1, "apple", some a.2, false⟩
  stack := ⟨some "p1", priorities.map fun a => (a.1, some a.2)⟩

/-- Everything succeeds, and no snapshot has been taken. -/
def succeeding (d : ShownDevice) : (c : PolicyCall) → Except JsError (policySig.Ret c)
  | .getFullDevice _ _ _ => .ok (some ⟨"apple", d.shown⟩)
  | .findQuarantineEntry _ _ => .ok none
  | .createQuarantineEntry _ _ _ => .ok ()
  | .deleteQuarantineEntry _ _ => .ok ()
  | .resolveOrgBase _ _ => .ok "https://api.applivery.io/v1/organizations/acme"
  | .putDevice _ _ _ => .ok ⟨200, ""⟩

theorem succeeding_may (c : PolicyCall) : shownWorld.may d c (succeeding d c) := by
  cases c with
  | getFullDevice _ _ _ =>
    rintro deviceFull hfound
    obtain rfl := Option.some.inj hfound
    rfl
  | _ => trivial

/-- A policy is added to the top. -/
def addTop (d : ShownDevice) : List PolicyEvent × Except JsError StepResult :=
  (executePolicyAddStep bareRuntime "Bearer a" "acme" tablet
    { policyId := some "p9", priority := some "top" } none).execute shownWorld succeeding d

theorem addTop_steps {d : ShownDevice} {detail : String}
    (h : (addTop d).2 = .ok ⟨true, detail⟩) :
    Prog.Steps (executePolicyAddStep bareRuntime "Bearer a" "acme" tablet
      { policyId := some "p9", priority := some "top" } none) (addTop d).1
      (.ret (.ok ⟨true, detail⟩)) :=
  h ▸ Prog.steps_execute _ _

end AppliverySoar.Workflows
