import AppliverySoar.Js.Value

/-!
# The policies that a device record shows

`extractActivePolicies` (deviceNormalize.ts): the policies are read off nine
properties that hold one policy and six that hold a list of assignments. A policy
without a name is left out, and of several with one id on one platform the first
counts.

Results:
* `find_listPolicies`: what the list has for an id, where a record shows the
  policies of one platform.
-/

namespace AppliverySoar.Devices

open List

open Js (Value Runtime trim)

/-! ## Reading the record -/

def SINGLE_POLICY_KEYS : List (String × String) :=
  [("appliedEmmPolicy", "android"), ("deviceEmmPolicy", "android"), ("emmPolicy", "android"),
    ("appliedAdmPolicy", "apple"), ("deviceAdmPolicy", "apple"), ("admPolicy", "apple"),
    ("appliedWinPolicy", "windows"), ("deviceWinPolicy", "windows"), ("winPolicy", "windows")]

def ARRAY_POLICY_KEYS : List (String × String) :=
  [("emmPolicyAssignments", "android"), ("emmPolicyAssignmentsEnforced", "android"),
    ("admPolicyAssignments", "apple"), ("admPolicyAssignmentsEnforced", "apple"),
    ("winPolicyAssignments", "windows"), ("winPolicyAssignmentsEnforced", "windows")]

structure ActivePolicy where
  id : Option String
  name : String
  platform : String
  priority : Option ℚ
  isPrimary : Bool

/-- What `add` makes of a policy before it decides whether to list it: `pid`,
`pid ?? name` as a text, and the trimmed name unless it is missing or
blank. -/
structure ShownPolicy where
  id : Option String
  ident : String
  name : Option String
  platform : String
  priority : Option ℚ
  isPrimary : Bool

/-- The first of these properties that is neither `null` nor `undefined`. -/
def firstProp (r : Runtime) (p : Value) (keys : List String) : Value :=
  keys.foldl (fun v key => v.orElse (p.prop r key)) .undefined

/-- `String(v).trim()`, where `v` is truthy and this is not blank. -/
def nameOf (r : Runtime) (v : Value) : Option String :=
  let text := String.ofList (trim (v.text r).toList)
  if v.truthy && text ≠ "" then some text else none

/-- `add`, as far as it reads `p`; a `p` that is falsy adds nothing. -/
def shownPolicy (r : Runtime) (platform : String) (priority : Option ℚ) (isPrimary : Bool)
    (p : Value) : List ShownPolicy :=
  if !p.truthy then []
  else if p.isObject then
    let pid := firstProp r p ["id", "_id", "policyId", "emmPolicyId", "admPolicyId", "winPolicyId"]
    let name := firstProp r p
      ["name", "policyName", "emmPolicyName", "admPolicyName", "winPolicyName"]
    [⟨if pid.isNullish then none else some (pid.text r), (pid.orElse name).text r, nameOf r name,
      platform, priority, isPrimary⟩]
  else match p with
    | .str _ => [⟨nameOf r p, (nameOf r p).getD "", nameOf r p, platform, priority, isPrimary⟩]
    | _ => [⟨none, "", none, platform, priority, isPrimary⟩]

/-- An element of a list of assignments. -/
def shownAssignment (r : Runtime) (platform : String) (entry : Value) : List ShownPolicy :=
  match entry with
  | .obj _ | .set _ | .arr _ =>
    let adm := entry.prop r "admPolicy"
    let emm := entry.prop r "emmPolicy"
    let win := entry.prop r "winPolicy"
    let nested := if adm.truthy then adm else if emm.truthy then emm else win
    let priority := match entry.prop r "priority" with
      | .num n => some n
      | _ => none
    shownPolicy r platform priority false (if nested.truthy then nested else entry)
  | _ => shownPolicy r platform none false entry

/-- What the properties with one policy show. -/
def shownPrimaries (r : Runtime) (raw : Value) : List ShownPolicy :=
  SINGLE_POLICY_KEYS.flatMap fun k => shownPolicy r k.2 none true (raw.prop r k.1)

/-- What the lists of assignments show. -/
def shownAssignments (r : Runtime) (raw : Value) : List ShownPolicy :=
  ARRAY_POLICY_KEYS.flatMap fun k =>
    match raw.prop r k.1 with
    | .arr items => items.flatMap (shownAssignment r k.2)
    | _ => []

/-! ## The list -/

def ShownPolicy.key (p : ShownPolicy) : String :=
  p.platform ++ ":" ++ p.ident

/-- `found` and `seen` after `add` has been called for every policy. -/
def listPolicies (seen : List String) : List ShownPolicy → List ActivePolicy
  | [] => []
  | p :: ps =>
    match p.name with
    | none => listPolicies seen ps
    | some name =>
      if p.key ∈ seen then listPolicies seen ps
      else ⟨p.id, name, p.platform, p.priority, p.isPrimary⟩ ::
        listPolicies (p.key :: seen) ps

def extractActivePolicies (r : Runtime) (raw : Value) : List ActivePolicy :=
  listPolicies [] (shownPrimaries r raw ++ shownAssignments r raw)

/-! ## What is listed -/

/-- What is shown has an id, and is of one platform. -/
def OfPlatform (platform : String) (ps : List ShownPolicy) : Prop :=
  ∀ p ∈ ps, p.platform = platform ∧ p.id = some p.ident

theorem platformKey_inj {platform x y : String}
    (h : platform ++ ":" ++ x = platform ++ ":" ++ y) : x = y := by
  have hlist := congrArg String.toList h
  simp only [String.toList_append] at hlist
  exact String.toList_inj.mp (append_cancel_left hlist)

/-- The listed form of a policy that is listed. -/
def ShownPolicy.listed (p : ShownPolicy) : Option ActivePolicy :=
  p.name.map fun name => ⟨p.id, name, p.platform, p.priority, p.isPrimary⟩

variable {seen : List String} {ps : List ShownPolicy}

theorem listPolicies_subset {q : ActivePolicy}
    (h : q ∈ listPolicies seen ps) : ∃ p ∈ ps, p.listed = some q := by
  induction ps generalizing seen with
  | nil => cases h
  | cons p ps ih =>
    unfold listPolicies at h
    split at h
    next =>
      obtain ⟨p', hp', hlisted⟩ := ih h
      exact ⟨p', mem_cons_of_mem _ hp', hlisted⟩
    next name hname =>
      split_ifs at h
      · obtain ⟨p', hp', hlisted⟩ := ih h
        exact ⟨p', mem_cons_of_mem _ hp', hlisted⟩
      · rcases mem_cons.mp h with rfl | h
        · exact ⟨p, mem_cons_self, by rw [ShownPolicy.listed, hname]; rfl⟩
        · obtain ⟨p', hp', hlisted⟩ := ih h
          exact ⟨p', mem_cons_of_mem _ hp', hlisted⟩

/-- The list has, for an id that has not been seen, the first policy with a name
that shows it. -/
theorem find_listPolicies {platform : String}
    (hps : OfPlatform platform ps) (x : String) :
    (listPolicies seen ps).find? (fun q => q.id = some x) =
      if platform ++ ":" ++ x ∈ seen then none
      else (ps.find? fun p => p.id = some x ∧ p.name.isSome).bind ShownPolicy.listed := by
  induction ps generalizing seen with
  | nil => simp [listPolicies]
  | cons p ps ih =>
    have hrest : OfPlatform platform ps := fun p' hp' => hps p' (mem_cons_of_mem _ hp')
    obtain ⟨hplatform, hid⟩ := hps p mem_cons_self
    have hkey : p.key = platform ++ ":" ++ p.ident := by rw [ShownPolicy.key, hplatform]
    cases hname : p.name with
    | none =>
      have hlist : listPolicies seen (p :: ps) = listPolicies seen ps := by
        rw [listPolicies, hname]
      rw [hlist, ih hrest, find?_cons_of_neg (by simp [hname])]
    | some name =>
      by_cases hseen : p.key ∈ seen
      · have hlist : listPolicies seen (p :: ps) = listPolicies seen ps := by
          rw [listPolicies, hname]
          simp only [hseen, if_true]
        rw [hlist, ih hrest]
        by_cases hx : p.ident = x
        · have hxseen : platform ++ ":" ++ x ∈ seen := hx ▸ hkey ▸ hseen
          rw [if_pos hxseen, if_pos hxseen]
        · rw [find?_cons_of_neg (by simp [hid, hx])]
      · have hlist : listPolicies seen (p :: ps) =
            ⟨p.id, name, p.platform, p.priority, p.isPrimary⟩ ::
              listPolicies (p.key :: seen) ps := by
          rw [listPolicies, hname]
          simp only [hseen, if_false]
        rw [hlist]
        by_cases hx : p.ident = x
        · have hxseen : platform ++ ":" ++ x ∉ seen := hx ▸ hkey ▸ hseen
          rw [find?_cons_of_pos (by simp [hid, hx]),
            find?_cons_of_pos (by simp [hid, hx, hname]), if_neg hxseen, Option.bind_some,
            ShownPolicy.listed, hname]
          rfl
        · have hmem : platform ++ ":" ++ x ∈ p.key :: seen ↔ platform ++ ":" ++ x ∈ seen := by
            rw [hkey, mem_cons, or_iff_right_iff_imp]
            exact fun h => absurd (platformKey_inj h).symm hx
          rw [find?_cons_of_neg (by simp [hid, hx]),
            find?_cons_of_neg (by simp [hid, hx]), ih hrest]
          simp only [hmem]

end AppliverySoar.Devices
