import AppliverySoar.Access.Roles
import AppliverySoar.Lists.FirstBest

/-!
# The collaborator of an email (rbac.service.ts, lines 53–171)

`findSelfCollaborator` asks for the records of an email, and scans all pages of the endpoint
if none is among the first fifty answers. Of the records found it takes the first one with
the highest privilege, and only its tags decide.

Results:
* `findSelf_ok`: what is found in an arrangement of the records.
* `found_iff`: which records are found in some arrangement.
* `decided_iff_unambiguous`: when the decision is the same in all arrangements, and the one
  that the records of the email call for.
* `tie_decides`: two admins of one email, and a decision that depends on their order.
-/

namespace AppliverySoar.Access

open AppliverySoar.Lists List

/-! ## The functions -/

/-- An item of the endpoint: a record with its `email` and its `user.email`. -/
structure CollaboratorItem extends Collaborator where
  email : Option String
  userEmail : Option String

/-- `(i.email ?? i.user?.email ?? "").toLowerCase()`. -/
def CollaboratorItem.candidateEmail (t : TextOps) (i : CollaboratorItem) : String :=
  t.lower ((i.email.or i.userEmail).getD "")

/-- An answer of the endpoint. -/
structure CollaboratorsAnswer where
  status : ℕ
  items : List CollaboratorItem
  hasNextPage : Bool

/-- `ROLE_PRIVILEGE_ORDER`. -/
def rolePrivilegeOrder : List String :=
  ["owner", "admin", "editor", "viewer", "unassigned"]

/-- `rolePrivilegeRank`: the index of the role, or the length of the order. -/
def rolePrivilegeRank (t : TextOps) (role : Option String) : ℕ :=
  rolePrivilegeOrder.idxOf (t.lower (role.getD ""))

/-- The rank of a record. -/
def CollaboratorItem.rank (t : TextOps) (i : CollaboratorItem) : ℕ :=
  rolePrivilegeRank t i.role

/-- `pickBestCollaborator`: the first of the records with the highest privilege. -/
def pickBestCollaborator (t : TextOps) (candidates : List CollaboratorItem) :
    Option CollaboratorItem :=
  firstBest (CollaboratorItem.rank t) candidates

/-- What a 401 or a 403 throws. -/
def sessionExpired : HttpError :=
  ⟨401, "Applivery session expired — please sign in again."⟩

/-- The loop over the pages, with their answers. -/
def scanCollaborators (t : TextOps) (emailLower : String) :
    List CollaboratorsAnswer → List CollaboratorItem → Except HttpError (List CollaboratorItem)
  | [], matched => .ok matched
  | res :: answers, matched =>
    if res.status = 401 ∨ res.status = 403 then .error sessionExpired
    else if res.status ≠ 200 then .ok matched
    else
      let matched := matched ++ res.items.filter fun i => i.candidateEmail t = emailLower
      if res.hasNextPage then scanCollaborators t emailLower answers matched else .ok matched

/-- `findSelfCollaborator`, with the answer to the filtered call and those to the pages. -/
def findSelfCollaborator (t : TextOps) (filtered : CollaboratorsAnswer)
    (answers : List CollaboratorsAnswer) (email : String) :
    Except HttpError (Option CollaboratorItem) :=
  let emailLower := t.lower email
  if emailLower = "" then .ok none
  else if filtered.status = 401 ∨ filtered.status = 403 then .error sessionExpired
  else
    let matched := filtered.items.filter fun i => i.candidateEmail t = emailLower
    if filtered.status = 200 ∧ matched ≠ [] then .ok (pickBestCollaborator t matched)
    else (scanCollaborators t emailLower answers []).map (pickBestCollaborator t)

/-- The access of the record that is found. -/
def accessOf (t : TextOps) (roles : List SoarRoleRecord) (found : Option CollaboratorItem) :
    ResolvedAccess :=
  resolveSoarAccess t (found.map CollaboratorItem.toCollaborator) roles

/-! ## Specification -/

/-- A record is of an email. -/
def ofEmail (t : TextOps) (email : String) (i : CollaboratorItem) : Bool :=
  t.lower email ≠ "" && i.candidateEmail t = t.lower email

/-- A record has role owner. -/
def IsOwner (t : TextOps) (i : CollaboratorItem) : Prop :=
  t.lower (i.role.getD "") = "owner"

/-- The tags of a record, in lower case. -/
def CollaboratorItem.tags (t : TextOps) (i : CollaboratorItem) : List String :=
  (extractCollaboratorTagCandidates t i.toCollaborator).map t.lower

/-- A record carries a tag that some role maps. -/
def IsMapped (t : TextOps) (roles : List SoarRoleRecord) (i : CollaboratorItem) : Prop :=
  ∃ role ∈ roles, ∃ tagValue ∈ role.appliveryTagValues, t.lower (t.trim tagValue) ∈ i.tags t

/-- A record of the email that no other one outranks. -/
def IsTop (t : TextOps) (directory : List CollaboratorItem) (email : String)
    (i : CollaboratorItem) : Prop :=
  i ∈ directory ∧ ofEmail t email i = true ∧
    ∀ j ∈ directory, ofEmail t email j = true → i.rank t ≤ j.rank t

/-- How the endpoint presents the records of an organisation: an order of those that its
`email` filter hits, of which it answers the first fifty, and pages of all of them. -/
structure Arrangement (directory : List CollaboratorItem) (hits : CollaboratorItem → Bool) where
  order : List CollaboratorItem
  order_perm : order.Perm (directory.filter hits)
  pages : List (List CollaboratorItem)
  pages_perm : pages.flatten.Perm directory

/-- The answers to the pages: each but the last says that there is a next one. -/
def answerPages : List (List CollaboratorItem) → List CollaboratorsAnswer
  | [] => []
  | [items] => [⟨200, items, false⟩]
  | items :: page :: pages => ⟨200, items, true⟩ :: answerPages (page :: pages)

section Decision

variable (t : TextOps) (roles : List SoarRoleRecord) (directory : List CollaboratorItem)
  (hits : CollaboratorItem → Bool) (email : String)

variable {directory hits} in
/-- The record found in an arrangement. -/
def Arrangement.find (a : Arrangement directory hits) : Except HttpError (Option CollaboratorItem) :=
  findSelfCollaborator t ⟨200, a.order.take 50, decide (50 < a.order.length)⟩
    (answerPages a.pages) email

variable {directory hits} in
/-- The decision in an arrangement. -/
def Arrangement.decision (a : Arrangement directory hits) : Except HttpError ResolvedAccess :=
  (a.find t email).map (accessOf t roles)

/-- The decision is the same in all arrangements; it is super admin exactly if some record of
the email is an owner, and else allowed exactly if some record with the highest privilege
is mapped. -/
structure Decided : Prop where
  same : ∀ a b : Arrangement directory hits, a.decision t roles email = b.decision t roles email
  superAdmin : ∀ a : Arrangement directory hits, ∃ access, a.decision t roles email = .ok access ∧
    (access.isSuperAdmin = true ↔ ∃ i ∈ directory, ofEmail t email i = true ∧ IsOwner t i)
  allowed : ∀ a : Arrangement directory hits, ∃ access, a.decision t roles email = .ok access ∧
    ((¬ ∃ i ∈ directory, ofEmail t email i = true ∧ IsOwner t i) →
      (access.allowed = true ↔ ∃ i, IsTop t directory email i ∧ IsMapped t roles i))

/-- A record of the email that can win: the first fifty hits can be without a better one, or
without any record of the email where no record outranks it. -/
def CanWin (i : CollaboratorItem) : Prop :=
  i ∈ directory ∧ ofEmail t email i = true ∧
  let found := directory.filter hits
  ((hits i = true ∧ found.countP (fun j => ofEmail t email j && decide (j.rank t < i.rank t)) +
      min 50 found.length ≤ found.length) ∨
    (found.countP (ofEmail t email) + min 50 found.length ≤ found.length ∧
      ∀ j ∈ directory, ofEmail t email j = true → i.rank t ≤ j.rank t))

/-- The records that can win agree, and speak for those of highest privilege: if some record
of the email is an owner, they are owners; else they have one role, match one SOAR role by
one tag, and are mapped exactly if some record with the highest privilege is. -/
structure Unambiguous : Prop where
  owner : (∃ i ∈ directory, ofEmail t email i = true ∧ IsOwner t i) →
    ∀ w, CanWin t directory hits email w → IsOwner t w
  same : (¬ ∃ i ∈ directory, ofEmail t email i = true ∧ IsOwner t i) →
    ∀ w w', CanWin t directory hits email w → CanWin t directory hits email w' →
      t.lower (w.role.getD "") = t.lower (w'.role.getD "") ∧
      matchRole t (w.tags t) roles = matchRole t (w'.tags t) roles
  mapped : (¬ ∃ i ∈ directory, ofEmail t email i = true ∧ IsOwner t i) →
    ∀ w, CanWin t directory hits email w →
      (IsMapped t roles w ↔ ∃ i, IsTop t directory email i ∧ IsMapped t roles i)

end Decision

/-! ## What is found -/

section Found

variable {t : TextOps} {roles : List SoarRoleRecord} {directory : List CollaboratorItem}
  {hits : CollaboratorItem → Bool} {email : String}

theorem scanCollaborators_pages (emailLower : String) (pages : List (List CollaboratorItem))
    (acc : List CollaboratorItem) :
    scanCollaborators t emailLower (answerPages pages) acc =
      .ok (acc ++ pages.flatten.filter fun i => i.candidateEmail t = emailLower) := by
  induction pages generalizing acc with
  | nil => simp [answerPages, scanCollaborators]
  | cons items pages ih =>
    cases pages with
    | nil => simp [answerPages, scanCollaborators]
    | cons page pages =>
      rw [answerPages, scanCollaborators, if_neg (by simp), if_neg (by simp)]
      dsimp only
      rw [if_pos rfl, ih, flatten_cons (l := items), filter_append, append_assoc]

theorem ofEmail_eq (h : t.lower email ≠ "") (i : CollaboratorItem) :
    ofEmail t email i = decide (i.candidateEmail t = t.lower email) := by
  simp [ofEmail, h]

/-- The record found: the best of the first fifty hits that are of the email, or else the
best of all records of the email. -/
theorem findSelf_ok (a : Arrangement directory hits) : a.find t email = .ok
    (if (a.order.take 50).filter (ofEmail t email) = [] then
      firstBest (CollaboratorItem.rank t) (a.pages.flatten.filter (ofEmail t email))
    else firstBest (CollaboratorItem.rank t) ((a.order.take 50).filter (ofEmail t email))) := by
  unfold Arrangement.find findSelfCollaborator
  dsimp only
  by_cases hempty : t.lower email = ""
  · have hnone : ∀ l : List CollaboratorItem, l.filter (ofEmail t email) = [] := fun l =>
      filter_eq_nil_iff.mpr fun i _ => by simp [ofEmail, hempty]
    rw [if_pos hempty, hnone, hnone, if_pos rfl]
    rfl
  · have heq : (fun i : CollaboratorItem => decide (i.candidateEmail t = t.lower email)) =
        ofEmail t email := funext fun i => (ofEmail_eq hempty i).symm
    rw [if_neg hempty, if_neg (by simp), scanCollaborators_pages, nil_append, heq]
    by_cases hmatched : (a.order.take 50).filter (ofEmail t email) = []
    · rw [if_neg (by simp [hmatched]), if_pos hmatched]
      rfl
    · rw [if_pos ⟨rfl, hmatched⟩, if_neg hmatched]
      rfl

/-- A record is found in some arrangement exactly if it can win. -/
theorem found_iff (w : CollaboratorItem) :
    (∃ a : Arrangement directory hits, a.find t email = .ok (some w)) ↔
      CanWin t directory hits email w := by
  constructor
  · rintro ⟨a, hfind⟩
    rw [findSelf_ok] at hfind
    split_ifs at hfind with hnone
    · have hbest := Except.ok.inj hfind
      obtain ⟨hmem, hof⟩ := mem_filter.mp (firstBest_mem hbest)
      refine ⟨a.pages_perm.mem_iff.mp hmem, hof, Or.inr ⟨?_, fun j hj hjof => ?_⟩⟩
      · refine count_of_avoids a.order_perm fun i hi => ?_
        simpa using filter_eq_nil_iff.mp hnone i hi
      · exact firstBest_le hbest j
          (mem_filter.mpr ⟨a.pages_perm.mem_iff.mpr hj, hjof⟩)
    · obtain ⟨hmem, hof, hcount⟩ := (wins_iff (directory.filter hits) (by decide) w).mp
        ⟨a.order, a.order_perm, Except.ok.inj hfind⟩
      obtain ⟨hin, hhit⟩ := mem_filter.mp hmem
      exact ⟨hin, hof, Or.inl ⟨hhit, hcount⟩⟩
  · rintro ⟨hin, hof, ⟨hhit, hcount⟩ | ⟨hcount, htop⟩⟩
    · obtain ⟨order, hperm, hbest⟩ := (wins_iff (directory.filter hits) (by decide) w).mpr
        ⟨mem_filter.mpr ⟨hin, hhit⟩, hof, hcount⟩
      refine ⟨⟨order, hperm, [directory], by simp⟩, ?_⟩
      rw [findSelf_ok]
      dsimp only
      rw [if_neg fun hnil => ?_, hbest]
      rw [hnil] at hbest
      cases hbest
    · obtain ⟨order, hperm, hnone⟩ := (avoids_iff (directory.filter hits) 50).mpr hcount
      obtain ⟨before, after, rfl⟩ := append_of_mem hin
      refine ⟨⟨order, hperm, [w :: (before ++ after)], ?_⟩, ?_⟩
      · simpa using perm_middle.symm
      · rw [findSelf_ok]
        dsimp only
        rw [if_pos (filter_eq_nil_iff.mpr fun i hi => by simp [hnone i hi]),
          flatten_singleton, filter_cons_of_pos hof]
        refine congrArg Except.ok (firstBest_of_head fun j hj => ?_)
        obtain ⟨hmem, hjof⟩ := mem_filter.mp hj
        exact htop j (perm_middle.symm.subset (mem_cons_of_mem w hmem)) hjof

variable {a : Arrangement directory hits}

/-- Nothing is found only where there is no record of the email. -/
theorem find_none (h : a.find t email = .ok none) : ∀ i ∈ directory, ofEmail t email i = false := by
  rw [findSelf_ok] at h
  intro i hi
  by_contra hof
  split_ifs at h with hnone
  · have hmem : i ∈ a.pages.flatten.filter (ofEmail t email) :=
      mem_filter.mpr ⟨a.pages_perm.mem_iff.mpr hi, by simpa using hof⟩
    obtain ⟨w, hw⟩ := firstBest_isSome (CollaboratorItem.rank t) (ne_nil_of_mem hmem)
    rw [hw] at h
    cases h
  · obtain ⟨w, hw⟩ := firstBest_isSome (CollaboratorItem.rank t) hnone
    rw [hw] at h
    cases h

theorem find_cases (t : TextOps) (email : String) (a : Arrangement directory hits) :
    (a.find t email = .ok none ∧ ∀ i ∈ directory, ofEmail t email i = false) ∨
    ∃ w, a.find t email = .ok (some w) ∧ CanWin t directory hits email w := by
  have hok : a.find t email = _ := findSelf_ok a
  cases hfound : (if (a.order.take 50).filter (ofEmail t email) = [] then
      firstBest (CollaboratorItem.rank t) (a.pages.flatten.filter (ofEmail t email))
    else firstBest (CollaboratorItem.rank t) ((a.order.take 50).filter (ofEmail t email))) with
  | none =>
    rw [hfound] at hok
    exact Or.inl ⟨hok, find_none hok⟩
  | some w =>
    rw [hfound] at hok
    exact Or.inr ⟨w, hok, (found_iff w).mp ⟨a, hok⟩⟩

/-! ## What is decided -/

theorem matchRole_isSome (tags : List String) (roles : List SoarRoleRecord) :
    (matchRole t tags roles).isSome = true ↔
      ∃ role ∈ roles, ∃ tagValue ∈ role.appliveryTagValues, t.lower (t.trim tagValue) ∈ tags := by
  induction roles with
  | nil => simp [matchRole]
  | cons role roles ih =>
    rw [matchRole]
    cases hfind : role.appliveryTagValues.find? fun v => tags.contains (t.lower (t.trim v)) with
    | some v =>
      refine iff_of_true rfl ⟨role, mem_cons_self, v, mem_of_find?_eq_some hfind, ?_⟩
      simpa using find?_some hfind
    | none =>
      rw [ih]
      constructor
      · rintro ⟨r, hr, h⟩
        exact ⟨r, mem_cons_of_mem role hr, h⟩
      · rintro ⟨r, hr, v, hv, hin⟩
        rcases mem_cons.mp hr with rfl | hr
        · exact absurd (find?_eq_none.mp hfind v hv) (by simpa using hin)
        · exact ⟨r, hr, v, hv, hin⟩

variable {w : CollaboratorItem}

theorem accessOf_owner (h : IsOwner t w) :
    accessOf t roles (some w) = ⟨true, true, none, some "owner", none, none⟩ := by
  unfold IsOwner at h
  simp only [accessOf, resolveSoarAccess, Option.map_some, h, if_pos]

/-- The access of anyone else tells the role and the match of the record. -/
theorem accessOf_other (roles : List SoarRoleRecord) (h : ¬ IsOwner t w) :
    (accessOf t roles (some w)).isSuperAdmin = false ∧
    (accessOf t roles (some w)).collaboratorRole = some (t.lower (w.role.getD "")) ∧
    (accessOf t roles (some w)).role = (matchRole t (w.tags t) roles).map Prod.fst ∧
    (accessOf t roles (some w)).matchedTagValue = (matchRole t (w.tags t) roles).map Prod.snd ∧
    ((accessOf t roles (some w)).allowed = true ↔ IsMapped t roles w) := by
  unfold IsOwner at h
  have hmapped : IsMapped t roles w ↔ (matchRole t (w.tags t) roles).isSome = true :=
    (matchRole_isSome (w.tags t) roles).symm
  rw [hmapped]
  simp only [accessOf, resolveSoarAccess, Option.map_some, if_neg h, CollaboratorItem.tags]
  cases matchRole t ((extractCollaboratorTagCandidates t w.toCollaborator).map t.lower) roles with
  | none => simp
  | some m => simp

theorem accessOf_congr {w w' : CollaboratorItem}
    (hrole : t.lower (w.role.getD "") = t.lower (w'.role.getD ""))
    (hmatch : matchRole t (w.tags t) roles = matchRole t (w'.tags t) roles) :
    accessOf t roles (some w) = accessOf t roles (some w') := by
  unfold CollaboratorItem.tags at hmatch
  simp only [accessOf, resolveSoarAccess, Option.map_some, hrole, hmatch]

theorem decision_of_find {found : Option CollaboratorItem}
    (h : a.find t email = .ok found) : a.decision t roles email = .ok (accessOf t roles found) := by
  unfold Arrangement.decision
  rw [h]
  rfl

end Found

theorem option_ext {α β : Type} {x y : Option (α × β)} (hfst : x.map Prod.fst = y.map Prod.fst)
    (hsnd : x.map Prod.snd = y.map Prod.snd) : x = y := by
  cases x <;> cases y <;> simp_all [Prod.ext_iff]

/-- The decision is the one that the records call for, in every arrangement, exactly if the
records that can win are unambiguous. -/
theorem decided_iff_unambiguous (t : TextOps) (roles : List SoarRoleRecord)
    (directory : List CollaboratorItem) (hits : CollaboratorItem → Bool) (email : String) :
    Decided t roles directory hits email ↔ Unambiguous t roles directory hits email := by
  constructor
  · intro h
    have haccess : ∀ w, CanWin t directory hits email w →
        ∃ a : Arrangement directory hits, a.decision t roles email =
          .ok (accessOf t roles (some w)) := fun w hw => by
      obtain ⟨a, ha⟩ := (found_iff w).mpr hw
      exact ⟨a, decision_of_find ha⟩
    have hsuper : ∀ w, CanWin t directory hits email w →
        ((accessOf t roles (some w)).isSuperAdmin = true ↔
          ∃ i ∈ directory, ofEmail t email i = true ∧ IsOwner t i) := fun w hw => by
      obtain ⟨a, ha⟩ := haccess w hw
      obtain ⟨access, hok, hiff⟩ := h.superAdmin a
      rwa [← Except.ok.inj (hok.symm.trans ha)]
    have hnot : (¬ ∃ i ∈ directory, ofEmail t email i = true ∧ IsOwner t i) → ∀ w,
        CanWin t directory hits email w → ¬ IsOwner t w := fun hno w hw howner =>
      hno ⟨w, hw.1, hw.2.1, howner⟩
    refine ⟨fun hex w hw => ?_, fun hno w w' hw hw' => ?_, fun hno w hw => ?_⟩
    · by_contra howner
      have hfalse := (accessOf_other roles howner).1
      rw [(hsuper w hw).mpr hex] at hfalse
      cases hfalse
    · obtain ⟨a, ha⟩ := haccess w hw
      obtain ⟨b, hb⟩ := haccess w' hw'
      have heq := Except.ok.inj (ha.symm.trans ((h.same a b).trans hb))
      obtain ⟨-, hrole, hfst, hsnd, -⟩ := accessOf_other roles (hnot hno w hw)
      obtain ⟨-, hrole', hfst', hsnd', -⟩ := accessOf_other roles (hnot hno w' hw')
      rw [heq] at hrole hfst hsnd
      refine ⟨Option.some.inj (hrole.symm.trans hrole'), ?_⟩
      exact option_ext (hfst.symm.trans hfst') (hsnd.symm.trans hsnd')
    · obtain ⟨a, ha⟩ := haccess w hw
      obtain ⟨access, hok, hiff⟩ := h.allowed a
      rw [← (accessOf_other roles (hnot hno w hw)).2.2.2.2, ← Except.ok.inj (hok.symm.trans ha)]
      exact hiff hno
  · intro h
    refine ⟨fun a b => ?_, fun a => ?_, fun a => ?_⟩
    · rcases find_cases t email a with ⟨ha, hnone⟩ | ⟨w, ha, hw⟩
      · rcases find_cases t email b with ⟨hb, -⟩ | ⟨w', -, hw'⟩
        · rw [decision_of_find ha, decision_of_find hb]
        · cases (hnone w' hw'.1).symm.trans hw'.2.1
      · rcases find_cases t email b with ⟨-, hnone⟩ | ⟨w', hb, hw'⟩
        · cases (hnone w hw.1).symm.trans hw.2.1
        · rw [decision_of_find ha, decision_of_find hb]
          by_cases hex : ∃ i ∈ directory, ofEmail t email i = true ∧ IsOwner t i
          · rw [accessOf_owner (h.owner hex w hw), accessOf_owner (h.owner hex w' hw')]
          · obtain ⟨hrole, hmatch⟩ := h.same hex w w' hw hw'
            rw [accessOf_congr hrole hmatch]
    · rcases find_cases t email a with ⟨ha, hnone⟩ | ⟨w, ha, hw⟩
      · refine ⟨_, decision_of_find ha, iff_of_false Bool.false_ne_true ?_⟩
        rintro ⟨i, hi, hof, -⟩
        rw [hnone i hi] at hof
        cases hof
      · refine ⟨_, decision_of_find ha, ?_⟩
        by_cases hex : ∃ i ∈ directory, ofEmail t email i = true ∧ IsOwner t i
        · rw [accessOf_owner (h.owner hex w hw)]
          exact iff_of_true rfl hex
        · have howner : ¬ IsOwner t w := fun howner => hex ⟨w, hw.1, hw.2.1, howner⟩
          rw [(accessOf_other roles howner).1]
          exact iff_of_false Bool.false_ne_true hex
    · rcases find_cases t email a with ⟨ha, hnone⟩ | ⟨w, ha, hw⟩
      · refine ⟨_, decision_of_find ha, fun _ => iff_of_false Bool.false_ne_true ?_⟩
        rintro ⟨i, ⟨hi, hof, -⟩, -⟩
        rw [hnone i hi] at hof
        cases hof
      · refine ⟨_, decision_of_find ha, fun hno => ?_⟩
        have howner : ¬ IsOwner t w := fun howner => hno ⟨w, hw.1, hw.2.1, howner⟩
        rw [(accessOf_other roles howner).2.2.2.2]
        exact h.mapped hno w hw

/-- An admin of the workspace, tagged with `tag`. -/
def taggedAdmin (tag : String) : CollaboratorItem where
  role := some "admin"
  field := fun field => if field = "tags" then some [tag] else none
  email := none
  userEmail := some "ana@acme.test"

/-- Two admins of one email are hit by the filter, one of them tagged `ops`: the first of them
decides. -/
theorem tie_decides :
    let roles := [(rolePayloadSchema (opsRole "read")).toRow "r1" "acme"].map toSoarRoleRecord
    let directory := [taggedAdmin "it", taggedAdmin "ops"]
    let hits := fun i : CollaboratorItem => decide (i.userEmail = some "ana@acme.test")
    (∃ a : Arrangement directory hits, ∃ access,
      a.decision plainText roles "ana@acme.test" = .ok access ∧ access.allowed = false) ∧
    (∃ b : Arrangement directory hits, ∃ access,
      b.decision plainText roles "ana@acme.test" = .ok access ∧ access.allowed = true) ∧
    ¬ Decided plainText roles directory hits "ana@acme.test" := by
  intro roles directory hits
  let a : Arrangement directory hits := ⟨directory, List.Perm.refl _, [directory], List.Perm.refl _⟩
  let b : Arrangement directory hits :=
    ⟨directory.reverse, reverse_perm directory, [directory], List.Perm.refl _⟩
  have ha : (a.decision plainText roles "ana@acme.test").map ResolvedAccess.allowed =
      .ok false := by decide +kernel
  have hb : (b.decision plainText roles "ana@acme.test").map ResolvedAccess.allowed =
      .ok true := by decide +kernel
  have hsome : ∀ {x : Except HttpError ResolvedAccess} {v : Bool},
      x.map ResolvedAccess.allowed = .ok v → ∃ access, x = .ok access ∧ access.allowed = v := by
    intro x v hx
    cases x with
    | error e => cases hx
    | ok access => exact ⟨access, rfl, Except.ok.inj hx⟩
  refine ⟨⟨a, hsome ha⟩, ⟨b, hsome hb⟩, fun h => ?_⟩
  rw [h.same a b, hb] at ha
  cases ha

end AppliverySoar.Access
