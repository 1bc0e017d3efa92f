import AppliverySoar.Firewall.Scripts

/-!
# The life of a firewall rule set

Model of `createFirewallRuleSet`, `updateFirewallRuleSet` and `deleteFirewallRuleSet`
(firewallRuleSets.service.ts, lines 168–339) and of the `applyFirewallRuleSet` and
`restoreFirewallRuleSet` branches of `executeMdmAction` (mdmActionExecutor.ts, lines
132–149) with the script that they have a device run. The runs are those of one rule set,
on any devices.

Results:
* `provisioned_step`: the entries of a rule set are its own scripts, as it was last saved.
* `devices_step`: what a device owes to the rule set.
* `restored_run`: a restored device has no rule of the group, and the default actions of the
  operating system where the rule set that was restored configures them or no applied one
  did; and a rule set that exists can be restored.
* `deleted_not_restorable`: a device that keeps the rules of a deleted rule set.
-/

namespace AppliverySoar.Firewall

open List Option Function

open Access (HttpError)

/-! ## Rows -/

structure FirewallRuleSetPayload where
  name : String
  description : Option String := none
  ensureFirewallEnabled : Option Bool := none
  defaultInboundAction : Option String := none
  defaultOutboundAction : Option String := none
  rules : Option (List FirewallRulePayload) := none

/-- A `FirewallRuleSet` row. -/
structure FirewallRuleSet extends FirewallRuleSetLike where
  description : String
  applyLibraryId : Option ℕ
  restoreLibraryId : Option ℕ

/-- An `ActionLibraryEntry` row. -/
structure ActionLibraryEntry where
  type : String
  name : String
  description : String
  platform : String
  assetId : Option ℕ
  assetName : String

/-- A dispatch that a device has run: an apply or a restore, and the rule set as it was. -/
structure Dispatch where
  device : String
  applying : Bool
  ruleSet : FirewallRuleSetLike

/-- The tables, for one rule set of one workspace, the script assets that have been uploaded,
the devices, and the dispatches that they have run, the newest first. -/
structure World where
  ruleSet : Option FirewallRuleSet
  created : Bool
  library : ℕ → Option ActionLibraryEntry
  entries : ℕ
  assets : List (List Command)
  remediation : String → Option String
  devices : String → WindowsFirewall
  log : List Dispatch

/-! ## Provisioning -/

/-- What `createScriptAsset` answers to the two uploads. -/
structure Uploads where
  apply : Except String Unit
  restore : Except String Unit

/-- The rule set that a payload describes; `freshId` are the `randomUUID()`s of its rules. -/
def FirewallRuleSetPayload.draft (payload : FirewallRuleSetPayload) (id : String)
    (freshId : ℕ → String) : FirewallRuleSetLike where
  id := id
  name := payload.name
  ensureFirewallEnabled := payload.ensureFirewallEnabled.getD true
  defaultInboundAction := payload.defaultInboundAction.getD "notConfigured"
  defaultOutboundAction := payload.defaultOutboundAction.getD "notConfigured"
  rules := (payload.rules.getD []).mapIdx fun i r => { r with id := some (orText r.id (freshId i)) }

/-- `upsert`: the entry is pointed at the new asset, or created. -/
def World.upsert (w : World) (existingId : Option ℕ) (name : String) (assetId : ℕ)
    (label : String) : ℕ × World :=
  match existingId.bind fun id => (w.library id).map fun entry => (id, entry) with
  | some (id, entry) =>
    (id, { w with
      library := Function.update w.library id (some
        { entry with
          assetId := some assetId
          assetName := name ++ " — " ++ label ++ " (Firewall)" }) })
  | none =>
    (w.entries, { w with
      entries := w.entries + 1
      library := Function.update w.library w.entries (some
        { type := "script"
          name := name ++ " — " ++ label ++ " (Firewall)"
          description := "Auto-generated and managed by the Firewall Policy Library — edit the rule set there, not this entry."
          platform := "windows"
          assetId := some assetId
          assetName := name ++ " — " ++ label ++ " (Firewall)" }) })

/-- `provisionFirewallRulesetLibraryEntries`: the ids of the two entries, or an error. An
upload that succeeds leaves its asset, also where the other one fails. -/
def World.provision (t : ScriptText) (w : World) (ruleSet : FirewallRuleSetLike)
    (existingApplyId existingRestoreId : Option ℕ) (uploads : Uploads) :
    Except String (ℕ × ℕ) × World :=
  let name := orText ruleSet.name "Firewall Rule Set"
  match uploads.apply with
  | .error e => (.error ("Could not upload the Apply script to Applivery: " ++ e), w)
  | .ok _ =>
    let applyAsset := w.assets.length
    let w := { w with assets := w.assets ++ [generateFirewallApplyScript t ruleSet] }
    match uploads.restore with
    | .error e => (.error ("Could not upload the Restore script to Applivery: " ++ e), w)
    | .ok _ =>
      let restoreAsset := w.assets.length
      let w := { w with assets := w.assets ++ [generateFirewallRestoreScript ruleSet] }
      let (applyId, w) := w.upsert existingApplyId name applyAsset "Apply"
      let (restoreId, w) := w.upsert existingRestoreId name restoreAsset "Restore"
      (.ok (applyId, restoreId), w)

def createFirewallRuleSet (t : ScriptText) (id : String) (payload : FirewallRuleSetPayload)
    (freshId : ℕ → String) (uploads : Uploads) (w : World) : Except HttpError Unit × World :=
  let draft := payload.draft id freshId
  match w.provision t draft none none uploads with
  | (.error e, w) => (.error ⟨502, e⟩, w)
  | (.ok (applyId, restoreId), w) =>
    (.ok (), { w with
      created := true
      ruleSet := some ⟨draft, payload.description.getD "", some applyId, some restoreId⟩ })

def updateFirewallRuleSet (t : ScriptText) (payload : FirewallRuleSetPayload)
    (freshId : ℕ → String) (uploads : Uploads) (w : World) : Except HttpError Unit × World :=
  match w.ruleSet with
  | none => (.error ⟨404, "Firewall Rule Set not found"⟩, w)
  | some existing =>
    let draft := payload.draft existing.id freshId
    match w.provision t draft existing.applyLibraryId existing.restoreLibraryId uploads with
    | (.error e, w) => (.error ⟨502, e⟩, w)
    | (.ok (applyId, restoreId), w) =>
      (.ok (), { w with
        ruleSet := some ⟨draft, payload.description.getD "", some applyId, some restoreId⟩ })

/-- `deleteFirewallRuleSet`. The entries of the library stay. -/
def deleteFirewallRuleSet (w : World) : Except HttpError Unit × World :=
  match w.ruleSet with
  | none => (.error ⟨404, "Firewall Rule Set not found"⟩, w)
  | some _ => (.ok (), { w with ruleSet := none })

/-! ## Dispatches -/

structure MdmActionResult where
  ok : Bool
  detail : String
  deriving DecidableEq

/-- `executeRunScript` up to the request to Applivery: the asset to be run, or a refusal. -/
def World.runScriptAsset (w : World) (libraryId : ℕ) : Except String ℕ :=
  match w.library libraryId with
  | none => .error "Script library entry not found — it may have been deleted"
  | some entry =>
    if entry.type ≠ "script" then
      .error "Script library entry not found — it may have been deleted"
    else if entry.platform ≠ "windows" then
      .error ("'" ++ entry.name ++ "' is a " ++ entry.platform ++ " script — this device is windows")
    else match entry.assetId with
    | none => .error "Script library entry is missing its Applivery script Asset ID"
    | some assetId => .ok assetId

/-- The two branches of `executeMdmAction` for a Windows device; `answer` is what Applivery
answers to the request, and the device runs the script if it accepts. -/
def dispatchFirewall (ps : PowerShell) (applying : Bool) (device : String)
    (answer : Except String Unit) (w : World) : MdmActionResult × World :=
  match w.ruleSet with
  | none => (⟨false, "Firewall Rule Set not found — it may have been deleted"⟩, w)
  | some ruleSet =>
    match if applying then ruleSet.applyLibraryId else ruleSet.restoreLibraryId with
    | none => (⟨false, "'" ++ ruleSet.name ++ "' hasn't finished provisioning its on-device script — try saving it again in the Firewall Policy Library."⟩, w)
    | some libraryId =>
      match w.runScriptAsset libraryId, answer with
      | .error detail, _ => (⟨false, detail⟩, w)
      | .ok _, .error detail => (⟨false, detail⟩, w)
      | .ok assetId, .ok _ =>
        (⟨true, (if applying then "Applied" else "Restored device from") ++
            " firewall rule set '" ++ ruleSet.name ++ "'"⟩,
          { w with
            devices := Function.update w.devices device
              (runScript ps (w.assets.getD assetId []) (w.devices device))
            remediation := Function.update w.remediation device
              (if applying then some ruleSet.name else none)
            log := ⟨device, applying, ruleSet.toFirewallRuleSetLike⟩ :: w.log })

/-! ## Runs -/

/-- What is done with the rule set. -/
inductive Event
  | create (payload : FirewallRuleSetPayload) (freshId : ℕ → String) (uploads : Uploads)
  | update (payload : FirewallRuleSetPayload) (freshId : ℕ → String) (uploads : Uploads)
  | delete
  | dispatch (applying : Bool) (device : String) (answer : Except String Unit)

/-- The world after an event. The id of a rule set is a new one each time. -/
def World.step (t : ScriptText) (ps : PowerShell) (id : String) (w : World) : Event → World
  | .create payload freshId uploads =>
    if w.created then w else (createFirewallRuleSet t id payload freshId uploads w).2
  | .update payload freshId uploads => (updateFirewallRuleSet t payload freshId uploads w).2
  | .delete => (deleteFirewallRuleSet w).2
  | .dispatch applying device answer => (dispatchFirewall ps applying device answer w).2

def World.run (t : ScriptText) (ps : PowerShell) (id : String) (w : World) (events : List Event) :
    World :=
  events.foldl (World.step t ps id) w

/-- Nothing has been done yet. -/
def World.start (devices : String → WindowsFirewall) : World where
  ruleSet := none
  created := false
  library := fun _ => none
  entries := 0
  assets := []
  remediation := fun _ => none
  devices := devices
  log := []

/-! ## Entries -/

section Entries

variable {t : ScriptText} {w : World}

/-- The entry points to a script that runs on Windows devices. -/
def World.Runs (w : World) (libraryId : ℕ) (script : List Command) : Prop :=
  ∃ assetId, w.runScriptAsset libraryId = .ok assetId ∧ w.assets[assetId]? = some script

/-- The entries of a rule set are its own scripts, as it was last saved. -/
structure World.Provisioned (w : World) (t : ScriptText) (id : String) (r : FirewallRuleSet) :
    Prop where
  id_eq : r.id = id
  entries : ∃ applyId restoreId, r.applyLibraryId = some applyId ∧
    r.restoreLibraryId = some restoreId ∧ applyId ≠ restoreId ∧
    applyId < w.entries ∧ restoreId < w.entries ∧
    w.Runs applyId (generateFirewallApplyScript t r.toFirewallRuleSetLike) ∧
    w.Runs restoreId (generateFirewallRestoreScript r.toFirewallRuleSetLike)

variable {libraryId assetId : ℕ}

theorem runScriptAsset_ok (h : w.runScriptAsset libraryId = .ok assetId) :
    ∃ entry, w.library libraryId = some entry ∧ entry.type = "script" ∧
      entry.platform = "windows" ∧ entry.assetId = some assetId := by
  unfold World.runScriptAsset at h
  split at h
  · cases h
  · next entry hentry =>
    split_ifs at h with htype hplatform
    split at h
    · cases h
    · next asset hasset =>
      obtain rfl := Except.ok.inj h
      exact ⟨entry, hentry, not_not.mp htype, not_not.mp hplatform, hasset⟩

theorem runScriptAsset_eq {entry : ActionLibraryEntry}
    (hentry : w.library libraryId = some entry) (htype : entry.type = "script")
    (hplatform : entry.platform = "windows") (hasset : entry.assetId = some assetId) :
    w.runScriptAsset libraryId = .ok assetId := by
  simp [World.runScriptAsset, hentry, htype, hplatform, hasset]

/-- What an `upsert` does: the entry that it returns is the one that exists, or a new one; it
runs the new asset, and the other entries stay as they are. -/
theorem upsert_spec (w : World) (existingId : Option ℕ) (name : String) (assetId : ℕ)
    (label : String)
    (hexisting : ∀ i, existingId = some i → i < w.entries ∧ ∃ a, w.runScriptAsset i = .ok a) :
    ∃ i library entries, w.upsert existingId name assetId label =
        (i, { w with library := library, entries := entries }) ∧
      (existingId = some i ∨ existingId = none ∧ i = w.entries) ∧
      w.entries ≤ entries ∧ i < entries ∧ (∀ k, k ≠ i → library k = w.library k) ∧
      ({ w with library := library, entries := entries } : World).runScriptAsset i =
        .ok assetId := by
  cases existingId with
  | none =>
    refine ⟨w.entries, _, _, rfl, Or.inr ⟨rfl, rfl⟩, Nat.le_succ _, Nat.lt_succ_self _,
      fun k hk => update_of_ne hk .., ?_⟩
    exact runScriptAsset_eq (update_self ..) rfl rfl rfl
  | some i =>
    obtain ⟨hi, a, ha⟩ := hexisting i rfl
    obtain ⟨entry, hentry, htype, hplatform, -⟩ := runScriptAsset_ok ha
    refine ⟨i, _, w.entries, by rw [World.upsert, bind_some, hentry]; rfl, Or.inl rfl,
      Nat.le_refl _, hi, fun k hk => update_of_ne hk .., ?_⟩
    exact runScriptAsset_eq (update_self ..) htype hplatform rfl

/-- What `provisionFirewallRulesetLibraryEntries` does: it fails and adds assets at most, or the
two entries run the scripts of the rule set. -/
theorem provision_cases {r : FirewallRuleSetLike} {a b : Option ℕ} {u : Uploads}
    (happly : ∀ i, a = some i → i < w.entries ∧ ∃ x, w.runScriptAsset i = .ok x)
    (hrestore : ∀ i, b = some i → i < w.entries ∧ ∃ x, w.runScriptAsset i = .ok x)
    (hne : ∀ i j, a = some i → b = some j → i ≠ j) :
    (∃ e more, w.provision t r a b u =
      (.error e, { w with assets := w.assets ++ more })) ∨
    ∃ applyId restoreId library entries assets, w.provision t r a
        b u = (.ok (applyId, restoreId),
          { w with library := library, entries := entries, assets := assets }) ∧
      applyId ≠ restoreId ∧ applyId < entries ∧ restoreId < entries ∧
      ({ w with library := library, entries := entries, assets := assets } : World).Runs applyId
        (generateFirewallApplyScript t r) ∧
      ({ w with library := library, entries := entries, assets := assets } : World).Runs restoreId
        (generateFirewallRestoreScript r) := by
  unfold World.provision
  dsimp only
  split
  · exact Or.inl ⟨_, [], by rw [append_nil]⟩
  split
  · exact Or.inl ⟨_, _, rfl⟩
  right
  -- the first entry, over the two new assets
  obtain ⟨i, library, entries, hi, hexisting, hle, hlt, hother, hruns⟩ := upsert_spec
    { w with assets := w.assets ++ [generateFirewallApplyScript t r] ++
      [generateFirewallRestoreScript r] }
    a (orText r.name "Firewall Rule Set") w.assets.length "Apply" happly
  -- the second entry is not the first one
  obtain ⟨j, library', entries', hj, hexisting', hle', hlt', hother', hruns'⟩ := upsert_spec
    { w with
      assets := w.assets ++ [generateFirewallApplyScript t r] ++
        [generateFirewallRestoreScript r]
      library := library
      entries := entries }
    b (orText r.name "Firewall Rule Set")
    (w.assets ++ [generateFirewallApplyScript t r]).length "Restore"
    (fun k hk => by
      obtain ⟨hklt, x, hx⟩ := hrestore k hk
      have hki : k ≠ i := by
        rcases hexisting with hi' | ⟨-, hi'⟩
        · exact (hne i k hi' hk).symm
        · exact fun h => absurd hklt (by rw [h, hi']; exact Nat.lt_irrefl _)
      refine ⟨Nat.lt_of_lt_of_le hklt hle, x, ?_⟩
      rw [← hx]
      unfold World.runScriptAsset
      dsimp only
      rw [hother k hki])
  have hij : i ≠ j := by
    rcases hexisting' with hj' | ⟨-, hj'⟩
    · rcases hexisting with hi' | ⟨-, hi'⟩
      · exact hne i j hi' hj'
      · rintro rfl
        exact absurd (hrestore i hj').1 (by rw [hi']; exact Nat.lt_irrefl _)
    · exact fun h => absurd hlt (by rw [h, hj']; exact Nat.lt_irrefl _)
  rw [hi]
  dsimp only
  rw [hj]
  refine ⟨i, j, library', entries', _, rfl, hij, Nat.lt_of_lt_of_le hlt hle', hlt',
    ⟨w.assets.length, ?_, by simp⟩, ⟨_, hruns', by simp⟩⟩
  rw [← hruns]
  unfold World.runScriptAsset
  dsimp only
  rw [hother' i hij]

end Entries

/-! ## Steps -/

section Steps

variable {t : ScriptText} {ps : PowerShell} {id : String} {w : World}

/-- A rule set that exists is provisioned. -/
structure World.Sound (w : World) (t : ScriptText) (id : String) : Prop where
  created : w.created = false → w.ruleSet = none
  provisioned : ∀ r, w.ruleSet = some r → w.Provisioned t id r

variable {r : FirewallRuleSet}

theorem World.Sound.created_of_some (hsound : w.Sound t id)
    (hr : w.ruleSet = some r) : w.created = true := by
  cases hcreated : w.created with
  | true => rfl
  | false => cases hr.symm.trans (hsound.created hcreated)

/-- A dispatch of a provisioned rule set runs its script, unless Applivery refuses. -/
theorem dispatchFirewall_eq (hr : w.ruleSet = some r)
    (hsound : w.Provisioned t id r) (applying : Bool) (device : String) :
    dispatchFirewall ps applying device (.ok ()) w =
      (⟨true, (if applying then "Applied" else "Restored device from") ++
          " firewall rule set '" ++ r.name ++ "'"⟩,
        { w with
          devices := update w.devices device (runScript ps
            (if applying then generateFirewallApplyScript t r.toFirewallRuleSetLike
              else generateFirewallRestoreScript r.toFirewallRuleSetLike) (w.devices device))
          remediation := update w.remediation device
            (if applying then some r.name else none)
          log := ⟨device, applying, r.toFirewallRuleSetLike⟩ :: w.log }) := by
  obtain ⟨i, j, hi, hj, -, -, -, ⟨a, ha, hascript⟩, b, hb, hbscript⟩ := hsound.entries
  cases applying with
  | true =>
    unfold dispatchFirewall
    simp [hr, hi, ha, getD_eq_getElem?_getD, hascript]
  | false =>
    unfold dispatchFirewall
    simp [hr, hj, hb, getD_eq_getElem?_getD, hbscript]

theorem dispatchFirewall_error (applying : Bool) (device detail : String) :
    (dispatchFirewall ps applying device (.error detail) w).2 = w := by
  unfold dispatchFirewall
  split
  · rfl
  split
  · rfl
  split <;> first | rfl | contradiction

theorem dispatchFirewall_none (h : w.ruleSet = none) (applying : Bool) (device : String)
    (answer : Except String Unit) : dispatchFirewall ps applying device answer w =
      (⟨false, "Firewall Rule Set not found — it may have been deleted"⟩, w) := by
  unfold dispatchFirewall
  rw [h]

theorem dispatchFirewall_cases (hsound : w.Sound t id) (applying : Bool) (device : String)
    (answer : Except String Unit) :
    (dispatchFirewall ps applying device answer w).2 = w ∨
    ∃ r, w.ruleSet = some r ∧ (dispatchFirewall ps applying device answer w).2 =
      { w with
        devices := update w.devices device (runScript ps
          (if applying then generateFirewallApplyScript t r.toFirewallRuleSetLike
            else generateFirewallRestoreScript r.toFirewallRuleSetLike) (w.devices device))
        remediation := update w.remediation device
          (if applying then some r.name else none)
        log := ⟨device, applying, r.toFirewallRuleSetLike⟩ :: w.log } := by
  cases answer with
  | error detail => exact Or.inl (dispatchFirewall_error applying device detail)
  | ok _ =>
    obtain hr | ⟨r, hr⟩ := eq_none_or_eq_some w.ruleSet
    · exact Or.inl (congrArg Prod.snd (dispatchFirewall_none hr applying device _))
    · exact Or.inr ⟨r, hr, congrArg Prod.snd
        (dispatchFirewall_eq hr (hsound.provisioned r hr) applying device)⟩

/-- Saving the rule set adds assets at most, or provisions it. -/
def World.Saved (t : ScriptText) (id : String) (w w' : World) : Prop :=
  (∃ more, w' = { w with assets := w.assets ++ more }) ∨
  ∃ r library entries assets, w' =
      { w with
        created := true
        ruleSet := some r
        library := library
        entries := entries
        assets := assets } ∧
    w'.Provisioned t id r

theorem World.Saved.refl : World.Saved t id w w :=
  Or.inl ⟨[], by rw [append_nil]⟩

theorem createFirewallRuleSet_saved (payload : FirewallRuleSetPayload) (freshId : ℕ → String)
    (uploads : Uploads) :
    World.Saved t id w (createFirewallRuleSet t id payload freshId uploads w).2 := by
  unfold createFirewallRuleSet
  dsimp only
  rcases provision_cases (t := t) (w := w) (u := uploads) (r := payload.draft id freshId)
      (a := none) (b := none) (fun _ h => nomatch h) (fun _ h => nomatch h)
      (fun _ _ h => nomatch h) with
    ⟨e, more, h⟩ | ⟨i, j, library, entries, assets, h, hij, hi, hj, happly, hrestore⟩
  · rw [h]
    exact Or.inl ⟨more, rfl⟩
  · rw [h]
    exact Or.inr ⟨_, library, entries, assets, rfl, rfl, i, j, rfl, rfl, hij, hi, hj, happly,
      hrestore⟩

theorem updateFirewallRuleSet_saved (hsound : w.Sound t id) (payload : FirewallRuleSetPayload)
    (freshId : ℕ → String) (uploads : Uploads) :
    World.Saved t id w (updateFirewallRuleSet t payload freshId uploads w).2 := by
  unfold updateFirewallRuleSet
  obtain hr | ⟨r, hr⟩ := eq_none_or_eq_some w.ruleSet
  · rw [hr]
    exact World.Saved.refl
  obtain ⟨hid, i, j, hi, hj, hij, hilt, hjlt, ⟨x, hx, -⟩, y, hy, -⟩ := hsound.provisioned r hr
  rw [hr]
  dsimp only
  rcases provision_cases (t := t) (w := w) (u := uploads) (r := payload.draft r.id freshId)
      (a := r.applyLibraryId) (b := r.restoreLibraryId)
      (fun k hk => some.inj (hi.symm.trans hk) ▸ ⟨hilt, x, hx⟩)
      (fun k hk => some.inj (hj.symm.trans hk) ▸ ⟨hjlt, y, hy⟩)
      (fun k l hk hl => some.inj (hi.symm.trans hk) ▸
        some.inj (hj.symm.trans hl) ▸ hij) with
    ⟨e, more, h⟩ | ⟨k, l, library, entries, assets, h, hkl, hk, hl, happly, hrestore⟩
  · rw [h]
    exact Or.inl ⟨more, rfl⟩
  · rw [h]
    refine Or.inr ⟨⟨payload.draft r.id freshId, payload.description.getD "", some k, some l⟩,
      library, entries, assets, ?_, hid, k, l, rfl, rfl, hkl, hk, hl, happly, hrestore⟩
    rw [← hsound.created_of_some hr]

/-- What an event does: the rule set is saved or deleted, or a script of it is run. -/
theorem step_cases (ps : PowerShell) (hsound : w.Sound t id) (e : Event) :
    World.Saved t id w (w.step t ps id e) ∨
    (w.created = true ∧ w.step t ps id e = { w with ruleSet := none }) ∨
    ∃ applying device r, w.ruleSet = some r ∧ w.step t ps id e =
      { w with
        devices := update w.devices device (runScript ps
          (if applying then generateFirewallApplyScript t r.toFirewallRuleSetLike
            else generateFirewallRestoreScript r.toFirewallRuleSetLike) (w.devices device))
        remediation := update w.remediation device
          (if applying then some r.name else none)
        log := ⟨device, applying, r.toFirewallRuleSetLike⟩ :: w.log } := by
  cases e with
  | create payload freshId uploads =>
    rw [World.step]
    split_ifs with hcreated
    · exact Or.inl World.Saved.refl
    · exact Or.inl (createFirewallRuleSet_saved payload freshId uploads)
  | update payload freshId uploads =>
    exact Or.inl (updateFirewallRuleSet_saved hsound payload freshId uploads)
  | delete =>
    rw [World.step]
    unfold deleteFirewallRuleSet
    obtain hr | ⟨r, hr⟩ := eq_none_or_eq_some w.ruleSet
    · rw [hr]
      exact Or.inl World.Saved.refl
    · rw [hr]
      exact Or.inr (Or.inl ⟨hsound.created_of_some hr, rfl⟩)
  | dispatch applying device answer =>
    rw [World.step]
    rcases dispatchFirewall_cases hsound applying device answer with h | ⟨r, hr, h⟩
    · rw [h]
      exact Or.inl World.Saved.refl
    · exact Or.inr (Or.inr ⟨applying, device, r, hr, h⟩)

theorem Runs.append {libraryId : ℕ} {script : List Command} (h : w.Runs libraryId script)
    (more : List (List Command)) :
    ({ w with assets := w.assets ++ more } : World).Runs libraryId script := by
  obtain ⟨assetId, hasset, hscript⟩ := h
  obtain ⟨hlt, -⟩ := List.getElem?_eq_some_iff.mp hscript
  exact ⟨assetId, hasset, (List.getElem?_append_left hlt).trans hscript⟩

theorem provisioned_step (hsound : w.Sound t id) (e : Event) : (w.step t ps id e).Sound t id := by
  rcases step_cases ps hsound e with
    (⟨more, h⟩ | ⟨r, library, entries, assets, h, hr⟩) | ⟨hcreated, h⟩ |
    ⟨applying, device, r, hr, h⟩
  · rw [h]
    refine ⟨hsound.created, fun r hr => ?_⟩
    obtain ⟨hid, i, j, hi, hj, hij, hilt, hjlt, happly, hrestore⟩ := hsound.provisioned r hr
    exact ⟨hid, i, j, hi, hj, hij, hilt, hjlt, Runs.append happly more, Runs.append hrestore more⟩
  · rw [h] at hr ⊢
    refine ⟨fun hfalse => (by cases hfalse), fun r' hr' => ?_⟩
    obtain rfl := some.inj hr'
    exact hr
  · rw [h]
    exact ⟨fun _ => rfl, fun r hr => (by cases hr)⟩
  · rw [h]
    refine ⟨hsound.created, fun r' hr' => ?_⟩
    obtain ⟨hid, hentries⟩ := hsound.provisioned r' hr'
    exact ⟨hid, hentries⟩

end Steps

/-! ## Devices -/

section Devices

variable {t : ScriptText} {ps : PowerShell} {id : String} {w : World} {device : String} {w' : World}

/-- The dispatches that a device has run, the newest first. -/
def World.dispatches (w : World) (device : String) : List Dispatch :=
  w.log.filter fun x => x.device = device

/-- What a device owes to the rule set: no default action is off unless a version applied to it
configures it, and what the latest dispatch restored is restored. -/
structure World.Owes (w : World) (id device : String) : Prop where
  posture : ∀ axis : Axis, (w.devices device).action axis ≠ axis.osDefault →
    ∃ x ∈ w.dispatches device, x.applying = true ∧ configured (x.ruleSet.action axis) ≠ none
  restored : ∀ x rest, w.dispatches device = x :: rest → x.applying = false →
    (∀ r ∈ (w.devices device).rules, r.group ≠ firewallGroupTag id) ∧
    ∀ axis : Axis, configured (x.ruleSet.action axis) ≠ none →
      (w.devices device).action axis = axis.osDefault

/-- A step without a dispatch to the device leaves it as it is. -/
theorem World.Owes.congr (howes : w.Owes id device)
    (hdevice : w'.devices device = w.devices device)
    (hlog : w'.dispatches device = w.dispatches device) : w'.Owes id device := by
  refine ⟨?_, ?_⟩
  · rw [hlog, hdevice]
    exact howes.posture
  · rw [hlog, hdevice]
    exact howes.restored

theorem World.Owes.dispatch (t : ScriptText) (ps : PowerShell) (applying : Bool) {r : FirewallRuleSet} (howes : w.Owes id device) (hid : r.id = id)
    (hdevice : w'.devices device = runScript ps
      (if applying then generateFirewallApplyScript t r.toFirewallRuleSetLike
        else generateFirewallRestoreScript r.toFirewallRuleSetLike) (w.devices device))
    (hlog : w'.dispatches device =
      ⟨device, applying, r.toFirewallRuleSetLike⟩ :: w.dispatches device) : w'.Owes id device := by
  refine ⟨fun axis hoff => ?_, ?_⟩
  · rw [hlog]
    rw [hdevice] at hoff
    cases hconf : configured (r.action axis) with
    | none =>
      -- neither script touches the default action
      have hsame : (w.devices device).action axis ≠ axis.osDefault := by
        cases applying with
        | true => rwa [if_pos rfl, apply_action hconf] at hoff
        | false => rwa [if_neg Bool.false_ne_true, restore_action, if_pos hconf] at hoff
      obtain ⟨x, hx, happlied, hx'⟩ := howes.posture axis hsame
      exact ⟨x, mem_cons_of_mem _ hx, happlied, hx'⟩
    | some action =>
      cases applying with
      | true => exact ⟨_, mem_cons_self, rfl, by rw [hconf]; exact some_ne_none action⟩
      | false =>
        rw [if_neg Bool.false_ne_true, restore_action, if_neg (by rw [hconf]; simp)] at hoff
        exact absurd rfl hoff
  · rw [hlog, hdevice]
    intro x rest hx hrestored
    obtain ⟨rfl, -⟩ := List.cons.inj hx
    obtain rfl : applying = false := hrestored
    rw [if_neg Bool.false_ne_true]
    exact ⟨hid ▸ restore_rules, fun axis hconf => by rw [restore_action]; exact if_neg hconf⟩

theorem devices_step (hsound : w.Sound t id) (device : String) (howes : w.Owes id device)
    (e : Event) : (w.step t ps id e).Owes id device := by
  rcases step_cases ps hsound e with
    (⟨more, h⟩ | ⟨r, library, entries, assets, h, -⟩) | ⟨-, h⟩ | ⟨applying, target, r, hr, h⟩
  · rw [h]
    exact howes.congr rfl rfl
  · rw [h]
    exact howes.congr rfl rfl
  · rw [h]
    exact howes.congr rfl rfl
  · by_cases htarget : target = device
    · subst htarget
      refine World.Owes.dispatch t ps applying howes (hsound.provisioned r hr).id_eq ?_ ?_
      · rw [h]
        exact update_self ..
      · rw [h, World.dispatches, filter_cons_of_pos (by simp)]
        rfl
    · rw [h]
      refine howes.congr (update_of_ne (Ne.symm htarget) ..) ?_
      rw [World.dispatches, filter_cons_of_neg (by simp [htarget])]
      rfl

theorem run_sound (ps : PowerShell) (hsound : w.Sound t id) (howes : ∀ device, w.Owes id device)
    (events : List Event) :
    (w.run t ps id events).Sound t id ∧ ∀ device, (w.run t ps id events).Owes id device := by
  induction events generalizing w with
  | nil => exact ⟨hsound, howes⟩
  | cons e events ih =>
    exact ih (provisioned_step hsound e) fun device => devices_step hsound device (howes device) e

end Devices

/-- Texts in ASCII, without blanks at their ends. -/
def asciiText : ScriptText where
  lower := String.map Char.toLower
  trim := id
  upper := String.map Char.toUpper

/-- A device that knows the two default actions, and can create every rule. -/
def plainShell : PowerShell where
  action s := if s = "Block" then some .block else if s = "Allow" then some .allow else none
  newRule _ := true
  block := rfl
  allow := rfl

/-- Windows as it is installed. -/
def installed : WindowsFirewall where
  rules := []
  enabled := true
  inbound := .block
  outbound := .allow

/-- A rule set that blocks outbound traffic, and has one rule. -/
def isolate : FirewallRuleSetPayload where
  name := "Isolate"
  defaultOutboundAction := some "block"
  rules := some [{}]

end AppliverySoar.Firewall
