import AppliverySoar.Config.Import

/-!
# Cloning a workspace's configuration (config.service.ts, lines 170–192)

A clone loads each selected store of the source and saves it into the empty target. The
rows are saved under the ids they have in the source, into the same tables, whose primary
keys are global: no store with a row can be cloned. The first refusal ends the clone, and
what was saved before it stays.

Results:
* `cloneStores_import`: a clone that succeeds is the import of what the source shows.
* `save_own_rows`: no rows are saved under ids that are taken.
* `cloned_iff_clonable`: when a clone keeps its promise.
* `half_cloned`: a clone that fails and cannot be repeated.
-/

namespace AppliverySoar.Config

open Access List StoreHandler

variable {B : Type} {S T : String}

/-! ## A clone as an import -/

/-- The rows and records of `S` are the same in both states. -/
def SameSource (S : String) (st st' : ConfigState B) : Prop :=
  (∀ m, st.rowsOf m S = st'.rowsOf m S) ∧ ∀ m, st.record m S = st'.record m S

theorem SameSource.load_eq {st st' : ConfigState B} (hsame : SameSource S st st')
    (h : StoreHandler) : h.load S st = h.load S st' := by
  cases h with
  | list m => simp only [load, hsame.1]
  | singleton m => simp only [load, hsame.2]
  | webhook => simp only [load, hsame.1, hsame.2]

theorem save_source (hne : S ≠ T) (sc : Schema B) (h : StoreHandler) (d : StoreData B)
    (st : ConfigState B) : SameSource S (h.save sc T d st).2 st :=
  ⟨fun m => save_rowsOf hne sc h m d st, fun _ => save_record_other (.inr hne)⟩

/-- What the source shows, as a bundle. -/
def sourceBundle (S : String) (st : ConfigState B) (key : ConfigStoreKey) :
    Option (StoreData B) :=
  some ((storeHandlers key).load S st)

theorem sourceBundle_save (hne : S ≠ T) (sc : Schema B) (h : StoreHandler) (d : StoreData B)
    (st : ConfigState B) : sourceBundle S (h.save sc T d st).2 = sourceBundle S st :=
  funext fun key => congrArg some ((save_source hne sc h d st).load_eq (storeHandlers key))

/-- A clone succeeds exactly if the import of what the source shows reports no failure, and
then leaves the same. -/
theorem cloneStores_import (hne : S ≠ T) (sc : Schema B) (stores : List ConfigStoreKey)
    (st : ConfigState B) :
    let out := importWorkspaceConfig sc T (sourceBundle S st) stores st
    ((cloneStores sc T S stores st).1 = .ok () ↔ failedStores out = []) ∧
      ((cloneStores sc T S stores st).1 = .ok () → (cloneStores sc T S stores st).2 = out.2) := by
  induction stores generalizing st with
  | nil => exact ⟨iff_of_true rfl rfl, fun _ => rfl⟩
  | cons key stores ih =>
    obtain ⟨hst, hfailed⟩ := import_cons_some sc T stores st
      (show sourceBundle S st key = some ((storeHandlers key).load S st) from rfl)
    have hnext := ih ((storeHandlers key).save sc T ((storeHandlers key).load S st) st).2
    rw [sourceBundle_save hne] at hnext
    dsimp only at hst hfailed hnext ⊢
    unfold cloneStores
    dsimp only
    rcases hsave : (storeHandlers key).save sc T ((storeHandlers key).load S st) st with
      ⟨saved, st'⟩
    rw [hsave] at hst hfailed hnext
    cases saved with
    | error e =>
      have hmem := (hfailed key).mpr (.inl ⟨rfl, e, rfl⟩)
      refine ⟨iff_of_false (fun h => by cases h) ?_, fun h => by cases h⟩
      exact ne_nil_of_mem hmem
    | ok u =>
      have hiff : failedStores (importWorkspaceConfig sc T (sourceBundle S st) (key :: stores) st) =
          [] ↔ failedStores (importWorkspaceConfig sc T (sourceBundle S st) stores st') = [] := by
        rw [eq_nil_iff_forall_not_mem, eq_nil_iff_forall_not_mem]
        refine forall_congr' fun k => not_congr ((hfailed k).trans (or_iff_right ?_))
        rintro ⟨-, e, h⟩
        cases h
      refine ⟨hnext.1.trans hiff.symm, fun h => ?_⟩
      rw [hst]
      exact hnext.2 h

theorem cloneStores_source (hne : S ≠ T) (sc : Schema B) (stores : List ConfigStoreKey)
    (st : ConfigState B) : SameSource S (cloneStores sc T S stores st).2 st := by
  induction stores generalizing st with
  | nil => exact ⟨fun _ => rfl, fun _ => rfl⟩
  | cons key stores ih =>
    have hsave := save_source hne sc (storeHandlers key) ((storeHandlers key).load S st) st
    unfold cloneStores
    dsimp only
    rcases hout : (storeHandlers key).save sc T ((storeHandlers key).load S st) st with
      ⟨saved, st'⟩
    rw [hout] at hsave
    cases saved with
    | error e => exact hsave
    | ok u =>
      obtain ⟨hrows, hrecord⟩ := ih st'
      exact ⟨fun m => (hrows m).trans (hsave.1 m), fun m => (hrecord m).trans (hsave.2 m)⟩

/-! ## One store -/

/-- The references between rows: the ids that a body refers to, and the body with other ones
in their place. -/
structure References (B : Type) where
  ids : B → List String
  rename : (String → String) → B → B

/-- The target's store is the source's, with the rows under new ids. -/
def StoreHandler.Copied (h : StoreHandler) (refs : References B) (newId : String → String)
    (S T : String) (st : ConfigState B) : Prop :=
  let rowsCopied (m : ListModel) : Prop :=
    (st.rowsOf m T).map (fun r => (r.id, r.body)) =
      (st.rowsOf m S).map fun r => (newId r.id, refs.rename newId r.body)
  match h with
  | .list m => rowsCopied m
  | .singleton m => st.record m T = st.record m S
  | .webhook => st.record .appliveryWebhookConfig T = st.record .appliveryWebhookConfig S ∧
      rowsCopied .appliveryWebhookRule

/-- The source has no rows in the store, and the database takes its record as it is. -/
def StoreHandler.Clonable (h : StoreHandler) (sc : Schema B) (S : String) (st : ConfigState B) :
    Prop :=
  match h with
  | .list m => st.rowsOf m S = []
  | .singleton m => ∀ b, st.record m S = some b → sc.merge m none b = .ok b
  | .webhook => (∀ b, st.record .appliveryWebhookConfig S = some b →
      sc.merge .appliveryWebhookConfig none b = .ok b) ∧
    st.rowsOf .appliveryWebhookRule S = []

/-- The target's store is empty, or has the source's record already. -/
def StoreHandler.Fresh (h : StoreHandler) (S T : String) (st : ConfigState B) : Prop :=
  match h with
  | .list m => st.rowsOf m T = []
  | .singleton m => st.record m T = none ∨ st.record m T = st.record m S
  | .webhook => st.record .appliveryWebhookConfig T = none ∨
      st.record .appliveryWebhookConfig T = st.record .appliveryWebhookConfig S

section OneStore

variable {sc : Schema B} {st : ConfigState B} {refs : References B} {newId : String → String}
  {h : StoreHandler}

/-- The rows of the source hold their ids, so that the target's rows are refused. -/
theorem save_own_rows (hne : S ≠ T) {m : ListModel} {e : Unit}
    (h : (saveRows sc m T ((st.rowsOf m S).map Row.toData) st).1 = .ok e) : st.rowsOf m S = [] := by
  by_contra hsome
  rw [saveRows_eq] at h
  unfold savedRows at h
  split_ifs at h with hheld hnil
  · exact hsome (map_eq_nil_iff.mp hnil)
  · cases haccepted : accepted sc m T ((st.rowsOf m S).map Row.toData) (st.rows m)
        (st.record .appliveryWebhookConfig T).isSome with
    | error e => rw [haccepted] at h; cases h
    | ok rows' =>
      obtain ⟨new, hfill, haccepted⟩ := bind_eq_ok haccepted
      obtain ⟨more, hinsert, -⟩ := bind_eq_ok haccepted
      obtain ⟨r, rest, hrows⟩ := exists_cons_of_ne_nil hsome
      have hr : r ∈ st.rowsOf m S := hrows ▸ mem_cons_self
      obtain ⟨hmem, hws⟩ := mem_filter.mp hr
      have hws : r.workspaceSlug = S := by simpa using hws
      -- the first row to be inserted has the id of `r`, which is there
      rw [hrows, map_cons] at hfill
      obtain ⟨body, -, hfill⟩ := bind_eq_ok hfill
      obtain ⟨bodies, -, hfill⟩ := bind_eq_ok hfill
      rw [← Except.ok.inj hfill] at hinsert
      refine insertRows_fresh hinsert _ mem_cons_self r ?_ rfl
      exact mem_filter.mpr ⟨hmem, by simpa [hws] using hne⟩

/-- Nothing to save: the target has no rows that could be held. -/
theorem save_no_rows (sc : Schema B) (T : String) (st : ConfigState B) {m : ListModel}
    (hfresh : m = .appliveryWebhookRule ∨ st.rowsOf m T = []) :
    (saveRows sc m T [] st).1 = .ok () ∧ (saveRows sc m T [] st).2.record = st.record ∧
      (saveRows sc m T [] st).2.rowsOf m T = [] := by
  have hheld : ¬Held sc m T (st.rows m) := by
    rintro ⟨hm, hany⟩
    rcases hfresh with h | h
    · rw [h] at hm
      cases hm
    · unfold ConfigState.rowsOf at h
      rw [h] at hany
      cases hany
  have hsaved : ∀ hasConfig, savedRows sc m T [] (st.rows m) hasConfig =
      (.ok (), (st.rows m).filter fun r => r.workspaceSlug ≠ T) := fun hasConfig =>
    (if_neg hheld).trans (if_pos rfl)
  rw [saveRows_eq, hsaved]
  refine ⟨rfl, rfl, ?_⟩
  unfold ConfigState.rowsOf
  rw [setRows_rows_self]
  exact filter_deleted T (st.rows m)

/-- A record that the database takes as it is, is saved as it is. -/
theorem saveRecord_clonable (sc : LawfulSchema B) {m : SingletonModel} {b : B}
    (hmerge : sc.merge m none b = .ok b)
    (hfresh : st.record m T = none ∨ st.record m T = some b) :
    saveRecord sc.toSchema m T b st = (.ok (), st.setRecord m T b) := by
  unfold saveRecord
  rcases hfresh with h | h
  · rw [h, hmerge]
  · rw [h, sc.merge_again m none b b hmerge]

/-- A store without rows in the source is copied, as often as it is selected. -/
theorem save_clonable (sc : LawfulSchema B) (refs : References B) (newId : String → String)
    (hne : S ≠ T) (hfresh : h.Fresh S T st)
    (hclonable : h.Clonable sc.toSchema S st) :
    let saved := h.save sc.toSchema T (h.load S st) st
    saved.1 = .ok () ∧ h.Copied refs newId S T saved.2 ∧ h.Fresh S T saved.2 := by
  obtain ⟨hsource, hrecord⟩ := save_source hne sc.toSchema h (h.load S st) st
  dsimp only
  cases h with
  | list m =>
    have hnil : st.rowsOf m S = [] := hclonable
    obtain ⟨hok, -, hrows⟩ := save_no_rows sc.toSchema T st (.inr hfresh)
    have hload : save (.list m) sc.toSchema T (load (.list m) S st) st =
        saveRows sc.toSchema m T [] st := by
      simp only [save, load, hnil, map_nil, Option.getD_some]
    dsimp only [Copied, StoreHandler.Fresh]
    rw [hsource, hnil, hload, hrows]
    exact ⟨hok, rfl, rfl⟩
  | singleton m =>
    dsimp only [Copied, StoreHandler.Fresh]
    rw [hrecord]
    cases hb : st.record m S with
    | none =>
      have hload : save (.singleton m) sc.toSchema T
          (load (.singleton m) S st) st = (.ok (), st) := by
        simp only [save, load, hb]
      have hnone : st.record m T = none := hfresh.elim id fun h => h.trans hb
      rw [hload]
      exact ⟨rfl, hnone, .inl hnone⟩
    | some b =>
      have hload : save (.singleton m) sc.toSchema T
          (load (.singleton m) S st) st = (.ok (), st.setRecord m T b) := by
        simp only [save, load, hb]
        exact saveRecord_clonable sc (hclonable b hb) (hb ▸ hfresh)
      have hset : (st.setRecord m T b).record m T = some b := by
        rw [setRecord_record, if_pos ⟨rfl, rfl⟩]
      rw [hload]
      exact ⟨rfl, hset, .inr hset⟩
  | webhook =>
    obtain ⟨htakes, hnil⟩ := hclonable
    have hrules : (load .webhook S st).rules = [] := by
      simp only [load, hnil, map_nil]
    dsimp only [Copied, StoreHandler.Fresh]
    rw [hsource, hrecord, hnil]
    cases hb : st.record .appliveryWebhookConfig S with
    | none =>
      have hnone : st.record .appliveryWebhookConfig T = none :=
        hfresh.elim id fun h => h.trans hb
      obtain ⟨hok, hsame, hrows⟩ := save_no_rows sc.toSchema T st
        (m := .appliveryWebhookRule) (.inl rfl)
      rw [save_webhook_none hb, hrules, hsame, hrows]
      exact ⟨hok, ⟨hnone, rfl⟩, .inl hnone⟩
    | some b =>
      have hT : st.record .appliveryWebhookConfig T = none ∨
          st.record .appliveryWebhookConfig T = some b := hfresh.imp_right fun h => h.trans hb
      have hsaved := saveRecord_clonable sc (htakes b hb) hT
      have hset : (st.setRecord .appliveryWebhookConfig T b).record .appliveryWebhookConfig T =
          some b := by
        rw [setRecord_record, if_pos ⟨rfl, rfl⟩]
      have hload : save .webhook sc.toSchema T (load .webhook S st) st =
          saveRows sc.toSchema .appliveryWebhookRule T []
            (st.setRecord .appliveryWebhookConfig T b) := by
        rw [← hrules]
        simp only [save, load, hb, hsaved]
      obtain ⟨hok, hsame, hrows⟩ := save_no_rows sc.toSchema T
        (st.setRecord .appliveryWebhookConfig T b) (m := .appliveryWebhookRule) (.inl rfl)
      rw [hload, hsame, hrows]
      exact ⟨hok, ⟨hset, rfl⟩, .inr hset⟩

/-- A save that copies its store had no rows to copy, and a record that is taken as it is. -/
theorem clonable_of_saved (hne : S ≠ T) (hempty : h.isEmpty T st = true)
    (hok : (h.save sc T (h.load S st) st).1 = .ok ())
    (hcopied : h.Copied refs newId S T (h.save sc T (h.load S st) st).2) : h.Clonable sc S st := by
  have hrecord := (save_source hne sc h (h.load S st) st).2
  cases h with
  | list m => exact save_own_rows hne hok
  | singleton m =>
    intro b hb
    have hnone : st.record m T = none := Option.isNone_iff_eq_none.mp hempty
    dsimp only [Copied] at hcopied
    rw [hrecord, hb] at hcopied
    simp only [save, load, hb, saveRecord, hnone] at hok hcopied
    cases hmerge : sc.merge m none b with
    | error e =>
      rw [hmerge] at hok
      cases hok
    | ok b' =>
      rw [hmerge] at hcopied
      dsimp only at hcopied
      rw [setRecord_record, if_pos ⟨rfl, rfl⟩] at hcopied
      rw [Option.some.inj hcopied]
  | webhook =>
    have hnone : st.record .appliveryWebhookConfig T = none :=
      Option.isNone_iff_eq_none.mp hempty
    cases hb : st.record .appliveryWebhookConfig S with
    | none =>
      rw [save_webhook_none hb] at hok
      exact ⟨fun b h => (by rw [hb] at h; cases h), save_own_rows hne hok⟩
    | some b =>
      cases hmerge : sc.merge .appliveryWebhookConfig (st.record .appliveryWebhookConfig T) b with
      | error e =>
        rw [save_webhook_error hb hmerge] at hok
        cases hok
      | ok b' =>
        have hcopied := hcopied.1
        rw [hrecord, hb, save_webhook_ok hb hmerge, saveRows_eq, setRows_record,
          setRecord_record, if_pos ⟨rfl, rfl⟩] at hcopied
        rw [hnone] at hmerge
        refine ⟨fun b₁ h => ?_, ?_⟩
        · rw [hb] at h
          rw [← Option.some.inj h, hmerge, Option.some.inj hcopied]
        · rw [save_webhook_ok hb (by rw [hnone]; exact hmerge)] at hok
          exact @save_own_rows B S T sc (st.setRecord .appliveryWebhookConfig T b') hne
            .appliveryWebhookRule () hok

theorem isEmpty_of_workspace (hempty : (workspaceConfigIsEmpty T st).1 = true)
    (key : ConfigStoreKey) : (storeHandlers key).isEmpty T st = true := by
  simp only [workspaceConfigIsEmpty, any_map, Bool.not_eq_true', any_eq_false] at hempty
  have hkey := hempty key (by cases key <;> decide)
  simpa using hkey

theorem StoreHandler.Fresh.of_isEmpty (hempty : h.isEmpty T st = true) :
    h.Fresh S T st := by
  cases h with
  | list m => exact List.isEmpty_iff.mp hempty
  | singleton m => exact .inl (Option.isNone_iff_eq_none.mp hempty)
  | webhook => exact .inl (Option.isNone_iff_eq_none.mp hempty)

variable {st' : ConfigState B}

theorem copied_congr (hagree : h.Agree T st st')
    (hsource : SameSource S st st') : h.Copied refs newId S T st ↔ h.Copied refs newId S T st' := by
  have hrows : ∀ m, h.WritesRows m → st.rowsOf m T = st'.rowsOf m T := fun m hm => by
    simp only [ConfigState.rowsOf, hagree.1 m hm]
  cases h with
  | list m => simp only [Copied, hrows m rfl, hsource.1]
  | singleton m => simp only [Copied, hagree.2 m rfl, hsource.2]
  | webhook =>
    simp only [Copied, hrows .appliveryWebhookRule rfl,
      hagree.2 .appliveryWebhookConfig rfl, hsource.1, hsource.2]

theorem clonable_congr (hsource : SameSource S st st') :
    h.Clonable sc S st ↔ h.Clonable sc S st' := by
  cases h with
  | list m => simp only [Clonable, hsource.1]
  | singleton m => simp only [Clonable, hsource.2]
  | webhook => simp only [Clonable, hsource.1, hsource.2]

/-- A store that was copied without rows has none in the target. -/
theorem rows_of_copied (hclonable : h.Clonable sc S st)
    (hcopied : h.Copied refs newId S T st) {m : ListModel} (hm : h.WritesRows m) :
    st.rowsOf m T = [] := by
  have hnil : ∀ m, st.rowsOf m S = [] → (st.rowsOf m T).map (fun r => (r.id, r.body)) =
      (st.rowsOf m S).map (fun r => (newId r.id, refs.rename newId r.body)) →
      st.rowsOf m T = [] := by
    intro m hS hT
    rw [hS] at hT
    exact map_eq_nil_iff.mp hT
  cases h with
  | list m' =>
    rw [show m = m' from hm]
    exact hnil m' hclonable hcopied
  | singleton m' => exact False.elim hm
  | webhook =>
    rw [show m = _ from hm]
    exact hnil _ hclonable.2 hcopied.2

end OneStore

/-! ## The promise of a clone -/

/-- The clone has succeeded: the target's selected stores are the source's under new ids, no
row of them refers to a row that is not the target's, and the source is as it was; or it
has failed, and the target is empty. -/
structure Cloned (refs : References B) (S T : String) (stores : List ConfigStoreKey)
    (st : ConfigState B) (out : ConfigResponse B × ConfigState B) : Prop where
  succeeds : out.1 = .cloned stores S
  copied : ∃ newId : String → String,
    ∀ key ∈ stores, (storeHandlers key).Copied refs newId S T out.2
  own : ∀ key ∈ stores, ∀ m, (storeHandlers key).WritesRows m → ∀ r ∈ out.2.rowsOf m T,
    ∀ id ∈ refs.ids r.body, ∃ m', ∃ r' ∈ out.2.rowsOf m' T, r'.id = id
  source : SameSource S out.2 st
  repeatable : out.1 ≠ .cloned stores S → (workspaceConfigIsEmpty T out.2).1 = true

theorem cloneWorkspaceConfig_eq (sc : Schema B) (hne : S ≠ T) (stores : List ConfigStoreKey)
    (st : ConfigState B) (hempty : (workspaceConfigIsEmpty T st).1 = true) :
    cloneWorkspaceConfig sc T S stores st =
      match cloneStores sc T S stores st with
      | (.error _, st') => (.refused ⟨500, "Internal server error"⟩, st')
      | (.ok (), st') => (.cloned stores S, st') := by
  unfold cloneWorkspaceConfig
  rw [if_neg hne, hempty]
  rfl

/-- **Main theorem.** A clone into an empty workspace keeps its promise exactly if no selected
store of the source has a row, and the database takes each of its records as it is. -/
theorem cloned_iff_clonable (sc : LawfulSchema B) (refs : References B) (hne : S ≠ T)
    (stores : List ConfigStoreKey) (st : ConfigState B)
    (hempty : (workspaceConfigIsEmpty T st).1 = true) :
    Cloned refs S T stores st (cloneWorkspaceConfig sc.toSchema T S stores st) ↔
      ∀ key ∈ stores, (storeHandlers key).Clonable sc.toSchema S st := by
  have hclone := cloneWorkspaceConfig_eq sc.toSchema hne stores st hempty
  obtain ⟨hiff, hout⟩ := cloneStores_import hne sc.toSchema stores st
  have hsource := cloneStores_source hne sc.toSchema stores st
  have hspec := fun key (hkey : key ∈ stores) => import_spec sc T st hkey
    (show sourceBundle S st key = some ((storeHandlers key).load S st) from rfl)
  have hfirst := fun key => save_source hne sc.toSchema (storeHandlers key)
    ((storeHandlers key).load S st) st
  rw [hclone]
  rcases hstores : cloneStores sc.toSchema T S stores st with ⟨result, st'⟩
  rw [hstores] at hiff hout hsource
  dsimp only at hiff hout hsource hspec
  cases result with
  | error e =>
    refine iff_of_false (fun h => by cases h.succeeds) fun h => ?_
    -- every store is saved, the first time and again
    have hnone : failedStores (importWorkspaceConfig sc.toSchema T (sourceBundle S st) stores st) =
        [] := by
      rw [eq_nil_iff_forall_not_mem]
      intro key hfailed
      by_cases hkey : key ∈ stores
      · obtain ⟨hok, -, hfresh⟩ := save_clonable sc refs id hne
          (.of_isEmpty (isEmpty_of_workspace hempty key)) (h key hkey)
        obtain ⟨hok', -, -⟩ := save_clonable sc refs id hne hfresh
          ((clonable_congr (hfirst key)).mpr (h key hkey))
        rw [(hfirst key).load_eq] at hok'
        rcases (hspec key hkey).2.2 hfailed with ⟨e, he⟩ | ⟨e, he⟩
        · rw [hok] at he
          cases he
        · rw [hok'] at he
          cases he
      · exact (import_unselected sc.toSchema T (sourceBundle S st) st
          fun h => absurd h hkey).2 hfailed
    cases hiff.mpr hnone
  | ok u =>
    have hst := hout rfl
    have hnone := hiff.mp rfl
    have hagree := fun key hkey => (hspec key hkey).1
    rw [← hst] at hagree
    have hsame : ∀ key, SameSource S st' ((storeHandlers key).save sc.toSchema T
        ((storeHandlers key).load S st) st).2 := fun key =>
      ⟨fun m => (hsource.1 m).trans ((hfirst key).1 m).symm,
        fun m => (hsource.2 m).trans ((hfirst key).2 m).symm⟩
    constructor
    · intro h key hkey
      obtain ⟨newId, hcopied⟩ := h.copied
      have hok : ((storeHandlers key).save sc.toSchema T ((storeHandlers key).load S st) st).1 =
          .ok () := by
        cases hresult : ((storeHandlers key).save sc.toSchema T
          ((storeHandlers key).load S st) st).1 with
        | ok u => rfl
        | error e =>
          have hfailed := (hspec key hkey).2.1 ⟨e, hresult⟩
          rw [hnone] at hfailed
          cases hfailed
      exact clonable_of_saved hne (isEmpty_of_workspace hempty key) hok
        ((copied_congr (hagree key hkey) (hsame key)).mp (hcopied key hkey))
    · intro h
      have hcopied : ∀ key ∈ stores, (storeHandlers key).Copied refs id S T st' :=
        fun key hkey => (copied_congr (hagree key hkey) (hsame key)).mpr
          (save_clonable sc refs id hne (.of_isEmpty (isEmpty_of_workspace hempty key))
            (h key hkey)).2.1
      refine ⟨rfl, ⟨id, hcopied⟩, fun key hkey m hm r hr => ?_, hsource, fun h => absurd rfl h⟩
      have hnil := rows_of_copied ((clonable_congr hsource).mpr (h key hkey)) (hcopied key hkey) hm
      dsimp only at hr
      rw [hnil] at hr
      cases hr

/-- `acme` has SLA settings and nothing else. -/
def onlySettings : ConfigState String where
  rows _ := []
  record m workspaceSlug :=
    if m = .caseSlaSettings ∧ workspaceSlug = "acme" then some "high: 240" else none

/-- No text refers to a row. -/
def noReferences : References String where
  ids _ := []
  rename _ b := b

theorem cloned_iff_clonable_settings :
    Cloned noReferences "acme" "beta" [.caseSlaSettings, .workflows] onlySettings
      (cloneWorkspaceConfig plainSchema "beta" "acme" [.caseSlaSettings, .workflows]
        onlySettings) :=
  (cloned_iff_clonable plainDatabase noReferences (by decide) [.caseSlaSettings, .workflows]
    onlySettings (by decide)).mpr (by
      intro key hkey
      rcases mem_cons.mp hkey with h | hkey
      · rw [h]
        exact fun b _ => rfl
      · rw [mem_singleton.mp hkey]
        rfl)

/-! ### A clone that cannot be repeated -/

/-- `acme` has SLA settings and one workflow. -/
def oneWorkflowAndSettings : ConfigState String where
  rows m := if m = .workflow then [⟨"w1", "acme", "Notify"⟩] else []
  record := onlySettings.record

/-- The settings are copied and the workflow is refused, its id being taken; the target is not
empty any more, and the second clone is refused. -/
theorem half_cloned :
    let stores := [ConfigStoreKey.caseSlaSettings, .workflows]
    let out := cloneWorkspaceConfig plainSchema "beta" "acme" stores oneWorkflowAndSettings
    (workspaceConfigIsEmpty "beta" oneWorkflowAndSettings).1 = true ∧
      out.1 = .refused ⟨500, "Internal server error"⟩ ∧
      (workspaceConfigIsEmpty "beta" out.2).1 = false ∧
      (∀ refs, ¬Cloned refs "acme" "beta" stores oneWorkflowAndSettings out) := by
  refine ⟨by decide, by decide, by decide, fun refs h => ?_⟩
  exact absurd h.succeeds (by decide)

end AppliverySoar.Config
