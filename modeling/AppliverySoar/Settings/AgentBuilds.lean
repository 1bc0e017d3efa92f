import Mathlib.Data.List.Induction

/-!
# Publishing an agent build

`publishAgentBuildToApplivery` (agentBuilds.service.ts, lines 219–377) of one workspace and
variant: an asset, an application that references it, and the id that is remembered. Every
call may fail, also after it has taken effect, and builds are replaced between publishes.

Results:
* `Linked.step`: what an orderly step keeps.
* `publish_dependable`: in an orderly run each publish that returns has an application with
  the current build, and no build has two assets.
-/

namespace AppliverySoar.Settings

open List

variable {Content Fingerprint : Type}

/-! ## Stores -/

/-- An MDM asset. The token in its description is the fingerprint of its content. -/
structure Asset (Content : Type) where
  id : ℕ
  content : Content

/-- An enterprise application. -/
structure Application where
  id : ℕ
  mdmAssetId : ℕ

/-- The stored build, what Applivery has, the remembered id, and the number of ids given. -/
structure Stores (Content : Type) where
  build : Option Content := none
  assets : List (Asset Content) := []
  applications : List Application := []
  applicationId : Option ℕ := none
  given : ℕ := 0

/-- How a write ends. A lost one has taken effect. -/
inductive Reply
  | done
  | refused
  | failed
  | lost
deriving DecidableEq

/-- The write takes effect. -/
def Reply.applies (reply : Reply) : Bool :=
  reply = .done || reply = .lost

/-- How the calls of a publish end. The list of assets shows some of them, a refused one none;
it is missing where it, or a call in front of it, fails. -/
structure Replies (Content : Type) where
  list : Option (Asset Content → Bool) := some fun _ => true
  upload : Reply := .done
  put : Reply := .done
  post : Reply := .done
  persist : Reply := .done
  audit : Bool := true

/-- `PublishResult`; an id of `none` is the empty string. -/
structure PublishResult where
  applicationId : Option ℕ
  assetId : ℕ
  created : Bool
  alreadyPublished : Bool

def Stores.addAsset (s : Stores Content) (content : Content) : Stores Content :=
  { s with assets := s.assets ++ [⟨s.given, content⟩], given := s.given + 1 }

def Stores.addApplication (s : Stores Content) (assetId : ℕ) : Stores Content :=
  { s with applications := s.applications ++ [⟨s.given, assetId⟩], given := s.given + 1 }

def Stores.putApplication (s : Stores Content) (id assetId : ℕ) : Stores Content :=
  { s with applications := s.applications.map fun application =>
      if application.id = id then { application with mdmAssetId := assetId } else application }

def Stores.persistApplicationId (s : Stores Content) (id : ℕ) : Stores Content :=
  { s with applicationId := some id }

def uploadBinaryAsset (s : Stores Content) (content : Content) (reply : Reply) :
    Option ℕ × Stores Content :=
  (if reply = .done then some s.given else none, if reply.applies then s.addAsset content else s)

/-- `upsertWindowsApp` and `upsertMacosApp`: the id, and whether it is created. -/
def upsertApp (s : Stores Content) (assetId : ℕ) (put post : Reply) :
    Option (ℕ × Bool) × Stores Content :=
  let created := (if post = .done then some (s.given, true) else none,
    if post.applies then s.addApplication assetId else s)
  match s.applicationId, put with
  | none, _ | some _, .refused => created
  | some id, .done => (some (id, false), s.putApplication id assetId)
  | some id, .lost => (none, s.putApplication id assetId)
  | some _, .failed => (none, s)

/-- The part of a publish behind the check, for a build without an asset. -/
def publishNew (s : Stores Content) (content : Content) (r : Replies Content) :
    Option PublishResult × Stores Content :=
  match uploadBinaryAsset s content r.upload with
  | (none, s) => (none, s)
  | (some assetId, s) =>
    match upsertApp s assetId r.put r.post with
    | (none, s) => (none, s)
    | (some (id, created), s) =>
      (if r.persist = .done ∧ r.audit = true then some ⟨id, assetId, created, false⟩ else none,
        if r.persist.applies then s.persistApplicationId id else s)

section Publish

variable [DecidableEq Fingerprint] (buildFingerprint : Content → Fingerprint)

/-- `findExistingAsset`; `none` where the call fails. -/
def findExistingAsset (s : Stores Content) (fingerprint : Fingerprint)
    (list : Option (Asset Content → Bool)) : Option (Option ℕ) :=
  list.map fun shown => ((s.assets.filter shown).find? fun asset =>
    buildFingerprint asset.content = fingerprint).map Asset.id

/-- `publishAgentBuildToApplivery`; `none` where it throws. -/
def publishAgentBuildToApplivery (s : Stores Content) (r : Replies Content) :
    Option PublishResult × Stores Content :=
  match s.build with
  | none => (none, s)
  | some content =>
    match findExistingAsset buildFingerprint s (buildFingerprint content) r.list with
    | none => (none, s)
    | some (some existingAssetId) => (some ⟨s.applicationId, existingAssetId, false, true⟩, s)
    | some none => publishNew s content r

/-- What happens to the stores. -/
inductive AgentEvent (Content : Type)
  | receiveAgentBuild (content : Content)
  | publish (r : Replies Content)

/-- What an event leaves. -/
def Stores.step (s : Stores Content) : AgentEvent Content → Stores Content
  | .receiveAgentBuild content => { s with build := content }
  | .publish r => (publishAgentBuildToApplivery buildFingerprint s r).2

/-- The stores after some events. -/
def storesAfter (events : List (AgentEvent Content)) : Stores Content :=
  events.foldl (Stores.step buildFingerprint) {}

/-! ## Orderly runs -/

/-- The application of a result exists and references an asset with the current build. -/
def Published (s : Stores Content) (result : PublishResult) : Prop :=
  ∃ application ∈ s.applications, result.applicationId = some application.id ∧
    ∃ asset ∈ s.assets, application.mdmAssetId = asset.id ∧ s.build = some asset.content

/-- Each publish of a run that returns is published, and no build has two assets. -/
def Dependable (events : List (AgentEvent Content)) : Prop :=
  (∀ pre r post result, events = pre ++ .publish r :: post →
    (publishAgentBuildToApplivery buildFingerprint (storesAfter buildFingerprint pre) r).1 =
      some result →
    Published (storesAfter buildFingerprint (pre ++ [.publish r])) result) ∧
  ∀ a ∈ (storesAfter buildFingerprint events).assets,
    ∀ b ∈ (storesAfter buildFingerprint events).assets, a.content = b.content → a = b

/-- An upload is answered, and behind it an application with the asset is remembered. -/
def Replies.Completes (r : Replies Content) (applicationId : Option ℕ) : Prop :=
  r.upload = .done ∧ ((applicationId ≠ none ∧ r.put.applies) ∨
    ((applicationId = none ∨ r.put = .refused) ∧ r.post = .done ∧ r.persist.applies))

/-- A new build has the fingerprint of no asset; an asset of the build is listed; and what an
upload begins is completed. -/
def Orderly (s : Stores Content) : AgentEvent Content → Prop
  | .receiveAgentBuild content => s.build = some content ∨
      ∀ asset ∈ s.assets, buildFingerprint asset.content ≠ buildFingerprint content
  | .publish r => ∀ content, s.build = some content → ∀ shown, r.list = some shown →
      (∀ asset ∈ s.assets, buildFingerprint asset.content = buildFingerprint content →
        shown asset) ∧
      ((∀ asset ∈ s.assets, buildFingerprint asset.content ≠ buildFingerprint content) →
        r.upload.applies → r.Completes s.applicationId)

/-- Every step of a run is orderly. -/
def OrderlyRun (events : List (AgentEvent Content)) : Prop :=
  ∀ pre e post, events = pre ++ e :: post →
    Orderly buildFingerprint (storesAfter buildFingerprint pre) e

/-- The stores in an orderly run: a fingerprint is that of one asset, the remembered
application exists, and where the build has an asset it references that. -/
structure Linked (s : Stores Content) : Prop where
  one : ∀ a ∈ s.assets, ∀ b ∈ s.assets,
    buildFingerprint a.content = buildFingerprint b.content → a = b
  remembered : ∀ id, s.applicationId = some id → ∃ application ∈ s.applications, application.id = id
  current : ∀ content, s.build = some content → ∀ a ∈ s.assets,
    buildFingerprint a.content = buildFingerprint content → a.content = content ∧
      ∃ application ∈ s.applications, s.applicationId = some application.id ∧
        application.mdmAssetId = a.id

/-! ## What a publish keeps -/

variable {buildFingerprint} {s s' : Stores Content} {r : Replies Content} {content : Content}
  {e : AgentEvent Content}

omit [DecidableEq Fingerprint] in
/-- The build has been uploaded, and the remembered application references the asset. -/
theorem linked_of_uploaded (h : Linked buildFingerprint s) (hbuild : s.build = some content)
    (habsent : ∀ a ∈ s.assets, buildFingerprint a.content ≠ buildFingerprint content) {id : ℕ}
    (hbuild' : s'.build = s.build) (hassets : s'.assets = s.assets ++ [⟨id, content⟩])
    {application : Application} (hmem : application ∈ s'.applications)
    (hremembered : s'.applicationId = some application.id) (hasset : application.mdmAssetId = id) :
    Linked buildFingerprint s' ∧ ∀ result : PublishResult,
      result.applicationId = s'.applicationId → Published s' result := by
  have hcases : ∀ a ∈ s'.assets, a ∈ s.assets ∨ a = ⟨id, content⟩ := by
    intro a ha
    rw [hassets] at ha
    exact (mem_append.mp ha).imp_right mem_singleton.mp
  refine ⟨⟨?_, ?_, ?_⟩, fun result hresult => ⟨application, hmem, hresult.trans hremembered, _,
    hassets ▸ mem_append_right _ (mem_singleton_self _), hasset, hbuild'.trans hbuild⟩⟩
  · intro a ha b hb heq
    rcases hcases a ha, hcases b hb with ⟨ha | rfl, hb | rfl⟩
    · exact h.one a ha b hb heq
    · exact absurd heq (habsent a ha)
    · exact absurd heq.symm (habsent b hb)
    · rfl
  · intro id' hid
    exact ⟨application, hmem, Option.some.inj (hremembered.symm.trans hid)⟩
  · intro content' hcontent a ha heq
    obtain rfl := Option.some.inj ((hbuild.symm.trans hbuild'.symm).trans hcontent)
    rcases hcases a ha with ha | rfl
    · exact absurd heq (habsent a ha)
    · exact ⟨rfl, application, hmem, hremembered, hasset⟩

omit [DecidableEq Fingerprint] in
theorem linked_publishNew (h : Linked buildFingerprint s) (hbuild : s.build = some content)
    (habsent : ∀ a ∈ s.assets, buildFingerprint a.content ≠ buildFingerprint content)
    (hcompletes : r.upload.applies → r.Completes s.applicationId) :
    Linked buildFingerprint (publishNew s content r).2 ∧
      ∀ result, (publishNew s content r).1 = some result →
        Published (publishNew s content r).2 result := by
  by_cases happlies : r.upload.applies = true
  swap
  · have hne : r.upload ≠ .done := fun hdone => happlies (hdone ▸ rfl)
    simp only [publishNew, uploadBinaryAsset, if_neg happlies, if_neg hne]
    exact ⟨h, fun _ hresult => nomatch hresult⟩
  obtain ⟨hupload, hrest⟩ := hcompletes happlies
  have hadded (s' : Stores Content) :=
    @linked_of_uploaded _ _ _ _ s' _ h hbuild habsent s.given
  simp only [publishNew, uploadBinaryAsset, if_pos happlies, if_pos hupload]
  rcases hrest with ⟨hknown, hput⟩ | ⟨hnew, hpost, hpersist⟩
  · obtain ⟨id, hid⟩ := Option.ne_none_iff_exists'.mp hknown
    obtain ⟨application, happlication, rfl⟩ := h.remembered id hid
    have hid' : (s.addAsset content).applicationId = some application.id := hid
    obtain ⟨hlinked, hpublished⟩ := hadded ((s.addAsset content).putApplication application.id
      s.given) rfl rfl (mem_map.mpr ⟨application, happlication, if_pos rfl⟩) hid rfl
    cases hreply : r.put with
    | refused => rw [hreply] at hput; cases hput
    | failed => rw [hreply] at hput; cases hput
    | lost =>
      simp only [upsertApp, hid']
      exact ⟨hlinked, fun _ hresult => nomatch hresult⟩
    | done =>
      -- The id is remembered already, whatever becomes of the last write.
      have hsame : ∀ s' : Stores Content, s'.applicationId = some application.id →
          s'.persistApplicationId application.id = s' := by
        rintro ⟨⟩ ⟨⟩
        rfl
      simp only [upsertApp, hid']
      rw [hsame ((s.addAsset _).putApplication _ _) hid, ite_self]
      refine ⟨hlinked, fun result hresult => hpublished result ?_⟩
      split_ifs at hresult
      obtain rfl := Option.some.inj hresult
      exact hid.symm
  · have hcreated : upsertApp (s.addAsset content) s.given r.put r.post =
        (some (s.given + 1, true), (s.addAsset content).addApplication s.given) := by
      have happlies : r.post.applies = true := hpost ▸ rfl
      simp only [upsertApp, if_pos hpost, if_pos happlies]
      rcases hnew with hnew | hrefused
      · have hnew' : (s.addAsset content).applicationId = none := hnew
        rw [hnew']
        rfl
      · rw [hrefused]
        split <;> first | rfl | contradiction
    obtain ⟨hlinked, hpublished⟩ := hadded (((s.addAsset content).addApplication
      s.given).persistApplicationId (s.given + 1)) rfl rfl
      (mem_append_right _ (mem_singleton_self _)) rfl rfl
    simp only [hcreated, if_pos hpersist]
    refine ⟨hlinked, fun result hresult => hpublished result ?_⟩
    split_ifs at hresult
    obtain rfl := Option.some.inj hresult
    rfl

/-- An orderly publish keeps the links, and what it returns is published. -/
theorem linked_publish (h : Linked buildFingerprint s)
    (ho : Orderly buildFingerprint s (.publish r)) :
    Linked buildFingerprint (publishAgentBuildToApplivery buildFingerprint s r).2 ∧
      ∀ result, (publishAgentBuildToApplivery buildFingerprint s r).1 = some result →
        Published (publishAgentBuildToApplivery buildFingerprint s r).2 result := by
  unfold publishAgentBuildToApplivery
  split
  next => exact ⟨h, fun _ hresult => nomatch hresult⟩
  next content hbuild =>
    split
    next => exact ⟨h, fun _ hresult => nomatch hresult⟩
    next assetId hfind =>
      refine ⟨h, fun result hresult => ?_⟩
      obtain rfl := Option.some.inj hresult
      obtain ⟨shown, -, hfind⟩ := Option.map_eq_some_iff.mp hfind
      obtain ⟨asset, hfound, -⟩ := Option.map_eq_some_iff.mp hfind
      have hasset := (mem_filter.mp (mem_of_find?_eq_some hfound)).1
      have hfingerprint := find?_some hfound
      obtain ⟨hcontent, application, happlication, hremembered, hreferenced⟩ :=
        h.current content hbuild asset hasset (of_decide_eq_true hfingerprint)
      exact ⟨application, happlication, hremembered, asset, hasset, hreferenced, hcontent ▸ hbuild⟩
    next hfind =>
      obtain ⟨shown, hlist, hfind⟩ := Option.map_eq_some_iff.mp hfind
      obtain ⟨hlisted, hcompletes⟩ := ho content hbuild shown hlist
      have habsent : ∀ a ∈ s.assets, buildFingerprint a.content ≠ buildFingerprint content :=
        fun a ha heq => find?_eq_none.mp (Option.map_eq_none_iff.mp hfind) a
          (mem_filter.mpr ⟨ha, hlisted a ha heq⟩) (decide_eq_true heq)
      exact linked_publishNew h hbuild habsent (hcompletes habsent)

/-- **An orderly step** keeps the links. -/
theorem Linked.step (h : Linked buildFingerprint s) (ho : Orderly buildFingerprint s e) :
    Linked buildFingerprint (s.step buildFingerprint e) := by
  cases e with
  | publish r => exact (linked_publish h ho).1
  | receiveAgentBuild content =>
    refine ⟨h.one, h.remembered, fun content' hcontent a ha heq => ?_⟩
    obtain rfl := Option.some.inj hcontent
    rcases ho with ho | ho
    · exact h.current content ho a ha heq
    · exact absurd heq (ho a ha)

variable {events : List (AgentEvent Content)}

theorem linked_run (h : OrderlyRun buildFingerprint events) :
    Linked buildFingerprint (storesAfter buildFingerprint events) := by
  induction events using reverseRecOn with
  | nil => exact ⟨forall_mem_nil _, fun _ h => (nomatch h), fun _ h => (nomatch h)⟩
  | append_singleton events e ih =>
    rw [storesAfter, foldl_append]
    exact (ih fun pre e' post heq => h pre e' (post ++ [e]) (by
      rw [heq, append_assoc]
      rfl)).step (h events e [] rfl)

end Publish

/-- **Publishing is dependable** in an orderly run, whichever calls fail. -/
theorem publish_dependable [DecidableEq Fingerprint] (buildFingerprint : Content → Fingerprint)
    (events : List (AgentEvent Content)) (h : OrderlyRun buildFingerprint events) :
    Dependable buildFingerprint events := by
  refine ⟨fun pre r post result heq hresult => ?_, fun a ha b hb hcontent =>
    (linked_run h).one a ha b hb (congrArg buildFingerprint hcontent)⟩
  have hpre : Linked buildFingerprint (storesAfter buildFingerprint pre) :=
    linked_run fun pre' e post' heq' => h pre' e (post' ++ .publish r :: post) (by
      rw [heq, heq', append_assoc]
      rfl)
  rw [storesAfter, foldl_append]
  exact (linked_publish hpre (h pre (.publish r) post heq)).2 result hresult

/-- A publish whose last answer is lost, and another one, that finds the asset. -/
theorem publish_dependable_twice :
    Dependable id [.receiveAgentBuild 7, .publish { persist := .lost }, .publish {}] :=
  publish_dependable id _ (by
    intro pre e post h
    rcases pre with _ | ⟨a, _ | ⟨b, _ | ⟨c, pre⟩⟩⟩
    · cases h
      exact .inr (forall_mem_nil _)
    · cases h
      exact fun content _ _ _ => ⟨forall_mem_nil _, fun _ _ => ⟨rfl, .inr ⟨.inl rfl, rfl, rfl⟩⟩⟩
    · cases h
      rintro content ⟨⟩ shown ⟨⟩
      exact ⟨fun _ _ _ => rfl, fun habsent => absurd rfl (habsent _ (mem_singleton_self _))⟩
    · cases pre <;> cases h)

end AppliverySoar.Settings
