import AppliverySoar.Automations.Paths

/-!
# The device that a trigger acts on

`resolveTriggerDevice` looks for a value among the serial numbers, the ids and
the addresses of the users, in one pass over the fleet: the first device that
has the value under any of the three keys is taken.

Results:
* `resolved_iff`: the keys have their priority in a listing exactly where the
  first device that has the value has it under the best key.
* `resolved_by_priority_iff`: they have it in every listing of a fleet exactly
  where no two devices have the value under different keys.
-/

namespace AppliverySoar.Automations

open List Option

open Js (Value Runtime)

/-! ## Keys -/

/-- The first of the keys under which the device has the value: its serial number, its id, and
the address of its user. -/
def keyRank (rt : Runtime) (value : Option String) (d : FleetDevice) : Option ℕ :=
  value.bind fun v =>
    if canonical rt d.serialNumber = v then some 0
    else if canonical rt d.id = v then some 1
    else if canonical rt (d.mdmUserEmail.getD "") = v then some 2
    else none

variable {rt : Runtime} {field : Option String} {body : Value} {d e : FleetDevice}
  {l fleet : List FleetDevice}

/-- The device has the value under a key, and no device of the list under a better one. -/
def HasBest (rt : Runtime) (value : Option String) (l : List FleetDevice) (d : FleetDevice) :
    Prop :=
  ∃ rank, keyRank rt value d = some rank ∧
    ∀ e ∈ l, ∀ rank', keyRank rt value e = some rank' → rank ≤ rank'

/-- The outcome follows the priority of the keys: a device of the list that has the value under
the best key, or none if no device has the value. -/
def FollowsPriority (rt : Runtime) (value : Option String) (l : List FleetDevice) :
    Option FleetDevice → Prop
  | some d => d ∈ l ∧ HasBest rt value l d
  | none => ∀ d ∈ l, keyRank rt value d = none

/-- The first device that has the value at all has it under the best key. -/
def FirstHasBest (rt : Runtime) (value : Option String) (l : List FleetDevice) : Prop :=
  ∀ l₁ d l₂, l = l₁ ++ d :: l₂ → (∀ e ∈ l₁, keyRank rt value e = none) →
    (keyRank rt value d).isSome → HasBest rt value l d

/-- Two devices have the value under the best key. -/
def Tied (rt : Runtime) (value : Option String) (l : List FleetDevice) : Prop :=
  ∃ d ∈ l, ∃ e ∈ l, d ≠ e ∧ HasBest rt value l d ∧ HasBest rt value l e

/-- The devices that have the value have it under one key. -/
def OneKey (rt : Runtime) (value : Option String) (l : List FleetDevice) : Prop :=
  ∀ d ∈ l, ∀ e ∈ l, ∀ rank rank', keyRank rt value d = some rank →
    keyRank rt value e = some rank' → rank = rank'

/-! ## One listing -/

theorem resolveTriggerDevice_eq (l : List FleetDevice) :
    resolveTriggerDevice rt field body l =
      l.find? fun d => (keyRank rt (triggerLookupValue rt field body) d).isSome := by
  unfold resolveTriggerDevice keyRank
  cases triggerLookupValue rt field body with
  | none =>
    symm
    rw [bind_none, find?_eq_none]
    exact fun d _ => Bool.false_ne_true
  | some value =>
    rw [bind_some]
    congr 1
    funext d
    rw [bind_some]
    by_cases hserial : canonical rt d.serialNumber = value
    · simp [hserial]
    by_cases hid : canonical rt d.id = value
    · simp [hserial, hid]
    by_cases hemail : canonical rt (d.mdmUserEmail.getD "") = value
    · simp [hserial, hid, hemail]
    · simp [hserial, hid, hemail]

theorem resolve_eq_some_iff : resolveTriggerDevice rt field body l = some d ↔
    (keyRank rt (triggerLookupValue rt field body) d).isSome ∧
      ∃ l₁ l₂, l = l₁ ++ d :: l₂ ∧
        ∀ e ∈ l₁, keyRank rt (triggerLookupValue rt field body) e = none := by
  rw [resolveTriggerDevice_eq, find?_eq_some_iff_append]
  simp only [Bool.not_eq_true', isSome_eq_false_iff, isNone_iff_eq_none]

theorem resolve_eq_none_iff : resolveTriggerDevice rt field body l = none ↔
    ∀ d ∈ l, keyRank rt (triggerLookupValue rt field body) d = none := by
  rw [resolveTriggerDevice_eq, find?_eq_none]
  simp only [Bool.not_eq_true, isSome_eq_false_iff, isNone_iff_eq_none]

/-- **One listing**: the keys have their priority exactly where the first device that has the
value has it under the best key. -/
theorem resolved_iff : FollowsPriority rt (triggerLookupValue rt field body) l
      (resolveTriggerDevice rt field body l) ↔
    FirstHasBest rt (triggerLookupValue rt field body) l := by
  cases hresolve : resolveTriggerDevice rt field body l with
  | none =>
    have hnone := resolve_eq_none_iff.mp hresolve
    refine iff_of_true hnone fun l₁ d l₂ hl _ hd => ?_
    rw [hnone d (hl ▸ mem_append_right _ mem_cons_self)] at hd
    cases hd
  | some d =>
    obtain ⟨hd, l₁, l₂, hl, hbefore⟩ := resolve_eq_some_iff.mp hresolve
    refine ⟨fun h m₁ e m₂ hm hbefore' he => ?_, fun h => ⟨?_, h l₁ d l₂ hl hbefore hd⟩⟩
    · have he' := resolve_eq_some_iff.mpr ⟨he, m₁, m₂, hm, hbefore'⟩
      rw [hresolve] at he'
      exact some.inj he' ▸ h.2
    · rw [hl]
      exact mem_append_right _ mem_cons_self

/-! ## Every listing of a fleet -/

theorem OneKey.perm (h : OneKey rt (triggerLookupValue rt field body) fleet) (hl : l.Perm fleet) :
    OneKey rt (triggerLookupValue rt field body) l := fun d hd e he =>
  h d (hl.mem_iff.mp hd) e (hl.mem_iff.mp he)

theorem OneKey.hasBest (h : OneKey rt (triggerLookupValue rt field body) l) (hd : d ∈ l)
    (hrank : (keyRank rt (triggerLookupValue rt field body) d).isSome) :
    HasBest rt (triggerLookupValue rt field body) l d := by
  obtain ⟨rank, hrank⟩ := isSome_iff_exists.mp hrank
  exact ⟨rank, hrank, fun e he rank' hrank' => (h d hd e he rank rank' hrank hrank').le⟩

/-- **Every listing**: whatever the order in which the fleet is listed, the keys have their
priority, and the order does not matter unless two devices tie, exactly where all devices
that have the value have it under one key. -/
theorem resolved_by_priority_iff (rt : Runtime) (field : Option String) (body : Value) :
    (∀ l, FollowsPriority rt (triggerLookupValue rt field body) l
        (resolveTriggerDevice rt field body l) ↔
      FirstHasBest rt (triggerLookupValue rt field body) l) ∧
    ∀ fleet, ((∀ l, l.Perm fleet → FollowsPriority rt (triggerLookupValue rt field body) l
          (resolveTriggerDevice rt field body l)) ∧
        (¬Tied rt (triggerLookupValue rt field body) fleet → ∀ l, l.Perm fleet →
          resolveTriggerDevice rt field body l = resolveTriggerDevice rt field body fleet)) ↔
      OneKey rt (triggerLookupValue rt field body) fleet := by
  refine ⟨fun l => resolved_iff, fun fleet => ⟨fun ⟨hpriority, _⟩ => ?_, fun h => ⟨?_, ?_⟩⟩⟩
  · -- each of two devices may be the first one that is listed
    have hle : ∀ d ∈ fleet, ∀ e ∈ fleet, ∀ rank rank',
        keyRank rt (triggerLookupValue rt field body) d = some rank →
        keyRank rt (triggerLookupValue rt field body) e = some rank' → rank ≤ rank' := by
      intro d hd e he rank rank' hrank hrank'
      obtain ⟨l₁, l₂, rfl⟩ := append_of_mem hd
      have hfirst := resolved_iff.mp (hpriority _ perm_middle.symm) [] d (l₁ ++ l₂) rfl
        (fun _ h => nomatch h) (by rw [hrank]; rfl)
      obtain ⟨rank₀, hrank₀, hbest⟩ := hfirst
      rw [hrank] at hrank₀
      obtain rfl := some.inj hrank₀
      exact hbest e (perm_middle.mem_iff.mp he) rank' hrank'
    exact fun d hd e he rank rank' hrank hrank' =>
      le_antisymm (hle d hd e he _ _ hrank hrank') (hle e he d hd _ _ hrank' hrank)
  · intro l hl
    refine resolved_iff.mpr fun l₁ d l₂ heq _ hd => (h.perm hl).hasBest ?_ hd
    rw [heq]
    exact mem_append_right _ mem_cons_self
  · intro htied l hl
    cases hresolve : resolveTriggerDevice rt field body fleet with
    | none =>
      exact resolve_eq_none_iff.mpr fun d hd =>
        resolve_eq_none_iff.mp hresolve d (hl.mem_iff.mp hd)
    | some d =>
      obtain ⟨hd, l₁, l₂, hfleet, -⟩ := resolve_eq_some_iff.mp hresolve
      have hmem : d ∈ fleet := hfleet ▸ mem_append_right _ mem_cons_self
      cases hresolve' : resolveTriggerDevice rt field body l with
      | none =>
        rw [resolve_eq_none_iff.mp hresolve' d (hl.mem_iff.mpr hmem)] at hd
        cases hd
      | some e =>
        obtain ⟨he, m₁, m₂, hlist, -⟩ := resolve_eq_some_iff.mp hresolve'
        have hmem' : e ∈ fleet := hl.mem_iff.mp (hlist ▸ mem_append_right _ mem_cons_self)
        by_contra hne
        exact htied ⟨d, hmem, e, hmem', fun heq => hne (congrArg some heq.symm),
          h.hasBest hmem hd, h.hasBest hmem' he⟩

/-! ## Example -/

/-- A runtime that knows the letters of ASCII. -/
def asciiRuntime : Runtime where
  now := 0
  parseDate _ := none
  parseNumber _ := none
  printNumber n := toString n.num
  toLowerCase := String.map Char.toLower
  inherited _ := .undefined
  setMember _ _ := .undefined

def numberedDevice (id serialNumber : String) : FleetDevice where
  id
  displayName := "Laptop"
  serialNumber
  platform := "macos"
  platformDeviceId := id
  riskTier := none
  deviceAudiences := []
  segmentId := none

/-- A device whose id is the value is listed before the one whose serial number it is, and is
taken. -/
theorem id_before_serialNumber :
    ¬ ∀ l, FollowsPriority asciiRuntime
      (triggerLookupValue asciiRuntime (some "serial") (.obj [("serial", .str "A42")])) l
      (resolveTriggerDevice asciiRuntime (some "serial") (.obj [("serial", .str "A42")]) l) := by
  -- the value is looked up once; the ranks are then those of a plain text
  have hvalue : triggerLookupValue asciiRuntime (some "serial") (.obj [("serial", .str "A42")]) =
      some "a42" := by decide +kernel
  have hid : keyRank asciiRuntime (some "a42") (numberedDevice "a42" "C7") = some 1 := by
    decide +kernel
  have hserial : keyRank asciiRuntime (some "a42") (numberedDevice "b1" "A42") = some 0 := by
    decide +kernel
  intro h
  have hfirst := resolved_iff.mp (h [numberedDevice "a42" "C7", numberedDevice "b1" "A42"])
  rw [hvalue] at hfirst
  obtain ⟨rank, hrank, hbest⟩ := hfirst [] (numberedDevice "a42" "C7") [numberedDevice "b1" "A42"]
    rfl (fun _ he => nomatch he) (hid ▸ rfl)
  obtain rfl := some.inj (hrank.symm.trans hid)
  exact absurd (hbest _ (mem_cons_of_mem _ mem_cons_self) 0 hserial) (by decide)

end AppliverySoar.Automations
