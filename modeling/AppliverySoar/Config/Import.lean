import AppliverySoar.Config.Restore

/-!
# What an import leaves of a workspace

`importWorkspaceConfig` (config.service.ts, lines 149–167) saves one selected store after
the other and reports those whose save threw. The versions of a workflow go with its row
(schema.prisma, line 422).

Results:
* `import_spec`: an import leaves of a store what its own save leaves.
* `versions_iff`: when an import leaves the stored versions.
* `restored_iff_importable`: when an import keeps its promise.
* `emptied_store`: a store that is reported as failed, and empty.
-/

namespace AppliverySoar.Config

open Access List StoreHandler

variable {B H : Type}

/-! ## Tables that no store shows -/

/-- A `WorkflowVersion` row. -/
structure WorkflowVersion where
  id : String
  workflowId : String
  deriving DecidableEq, Repr

/-- The configuration with the versions of its workflows; `history` is what no workflow
takes along: violations, runs and cases. -/
structure Database (B H : Type) where
  config : ConfigState B
  versions : List WorkflowVersion
  history : H
  stored : ∀ v ∈ versions, ∃ r ∈ config.rows .workflow, r.id = v.workflowId

/-- The versions that a save leaves: `deleteMany` of the workflows, which nothing
restricts, takes theirs along. -/
def StoreHandler.cascade (h : StoreHandler) (workspaceSlug : String) (st : ConfigState B)
    (versions : List WorkflowVersion) : List WorkflowVersion :=
  match h with
  | .list .workflow => versions.filter fun v =>
    (st.rowsOf .workflow workspaceSlug).all fun r => r.id ≠ v.workflowId
  | _ => versions

theorem cascade_other {h : StoreHandler} (hne : ¬h.WritesRows .workflow) (slug : String)
    (st : ConfigState B) (versions : List WorkflowVersion) :
    h.cascade slug st versions = versions := by
  unfold cascade
  split
  · exact absurd rfl hne
  · rfl

theorem cascade_sublist (h : StoreHandler) (slug : String) (st : ConfigState B)
    (versions : List WorkflowVersion) : (h.cascade slug st versions).Sublist versions := by
  unfold cascade
  split
  · exact filter_sublist
  · exact .refl _

variable {versions : List WorkflowVersion} {st : ConfigState B}

theorem mem_cascade {slug : String}
    {v : WorkflowVersion} :
    v ∈ cascade (.list .workflow) slug st versions ↔
      v ∈ versions ∧ ∀ r ∈ st.rowsOf .workflow slug, r.id ≠ v.workflowId := by
  simp only [cascade, mem_filter, all_eq_true, decide_eq_true_eq]

/-- The workflows of the versions that are left are still there. -/
theorem cascade_stored {sc : Schema B} (h : StoreHandler) (workspaceSlug : String)
    (d : StoreData B)
    (hstored : ∀ v ∈ versions, ∃ r ∈ st.rows .workflow, r.id = v.workflowId) :
    ∀ v ∈ h.cascade workspaceSlug st versions,
      ∃ r ∈ (h.save sc workspaceSlug d st).2.rows .workflow, r.id = v.workflowId := by
  intro v hv
  by_cases hwrites : h.WritesRows .workflow
  · cases h with
    | singleton m => exact False.elim hwrites
    | webhook => cases hwrites
    | list m =>
      have hm : ListModel.workflow = m := hwrites
      subst hm
      obtain ⟨hmem, hother⟩ := mem_cascade.mp hv
      obtain ⟨r, hr, hid⟩ := hstored v hmem
      refine ⟨r, ?_, hid⟩
      dsimp only [save]
      rw [saveRows_eq, setRows_rows_self]
      -- the row is another workspace's, and such rows stay
      have hws : r.workspaceSlug ≠ workspaceSlug := fun hws =>
        hother r (mem_filter.mpr ⟨hr, by simpa using hws⟩) hid
      have hkept : r ∈ (st.rows .workflow).filter fun r => r.workspaceSlug ≠ workspaceSlug :=
        mem_filter.mpr ⟨hr, by simpa using hws⟩
      rw [← savedRows_others sc .workflow workspaceSlug (d.elements.getD []) _
        (st.record .appliveryWebhookConfig workspaceSlug).isSome] at hkept
      exact (mem_filter.mp hkept).1
  · rw [cascade_other hwrites] at hv
    rw [save_rows_other hwrites]
    exact hstored v hv

/-- `save` of a handler, with what it does to the versions. -/
def StoreHandler.saveDb (h : StoreHandler) (sc : Schema B) (workspaceSlug : String)
    (data : StoreData B) (db : Database B H) : Except DbError Unit × Database B H :=
  ((h.save sc workspaceSlug data db.config).1,
    { config := (h.save sc workspaceSlug data db.config).2
      versions := h.cascade workspaceSlug db.config db.versions
      history := db.history
      stored := cascade_stored h workspaceSlug data db.stored })

/-- `importWorkspaceConfig`, with what it does to the versions. -/
def importDb (sc : Schema B) (workspaceSlug : String)
    (data : ConfigStoreKey → Option (StoreData B)) :
    List ConfigStoreKey → Database B H →
      (List ConfigStoreKey × List (ConfigStoreKey × DbError)) × Database B H
  | [], db => (([], []), db)
  | key :: stores, db =>
    match data key with
    | none => importDb sc workspaceSlug data stores db
    | some d =>
      let (saved, db') := (storeHandlers key).saveDb sc workspaceSlug d db
      let ((imported, failed), db'') := importDb sc workspaceSlug data stores db'
      match saved with
      | .ok () => ((key :: imported, failed), db'')
      | .error e => ((imported, (key, e) :: failed), db'')

/-- The configuration is what `importWorkspaceConfig` makes of it. -/
theorem importDb_config (sc : Schema B) (slug : String)
    (data : ConfigStoreKey → Option (StoreData B)) (stores : List ConfigStoreKey)
    (db : Database B H) :
    ((importDb sc slug data stores db).1,
      (importDb sc slug data stores db).2.config) =
      importWorkspaceConfig sc slug data stores db.config := by
  induction stores generalizing db with
  | nil => rfl
  | cons key stores ih =>
    unfold importDb importWorkspaceConfig
    cases data key with
    | none => exact ih db
    | some d =>
      have hnext := ih ((storeHandlers key).saveDb sc slug d db).2
      dsimp only [saveDb] at hnext ⊢
      rw [← hnext]
      cases ((storeHandlers key).save sc slug d db.config).1 <;> rfl

/-! ## One store of an import -/

section Import

variable {sc : Schema B} {workspaceSlug : String} {data : ConfigStoreKey → Option (StoreData B)}
  {stores : List ConfigStoreKey} {key : ConfigStoreKey} {st : ConfigState B} {d : StoreData B}

/-- The stores that an import reports as failed. -/
abbrev failedStores (out : (List ConfigStoreKey × List (ConfigStoreKey × DbError)) ×
    ConfigState B) : List ConfigStoreKey :=
  out.1.2.map Prod.fst

theorem import_cons_none (hdata : data key = none) :
    importWorkspaceConfig sc workspaceSlug data (key :: stores) st =
      importWorkspaceConfig sc workspaceSlug data stores st := by
  rw [importWorkspaceConfig, hdata]

theorem import_cons_some (sc : Schema B) (slug : String) (stores : List ConfigStoreKey)
    (st : ConfigState B) (hdata : data key = some d) :
    let saved := (storeHandlers key).save sc slug d st
    let rest := importWorkspaceConfig sc slug data stores saved.2
    let out := importWorkspaceConfig sc slug data (key :: stores) st
    out.2 = rest.2 ∧ ∀ k, k ∈ failedStores out ↔
      (k = key ∧ ∃ e, saved.1 = .error e) ∨ k ∈ failedStores rest := by
  dsimp only
  rw [importWorkspaceConfig, hdata]
  dsimp only
  cases ((storeHandlers key).save sc slug d st).1 with
  | ok u => simp
  | error e => simp [eq_comm]

/-- A store that is not selected, or not in the bundle, is left alone. -/
theorem import_unselected (sc : Schema B) (slug : String)
    (data : ConfigStoreKey → Option (StoreData B)) (st : ConfigState B)
    (hkey : key ∈ stores → data key = none) :
    (storeHandlers key).Agree slug
        (importWorkspaceConfig sc slug data stores st).2 st ∧
      key ∉ failedStores (importWorkspaceConfig sc slug data stores st) := by
  induction stores generalizing st with
  | nil => exact ⟨.refl, not_mem_nil⟩
  | cons key' stores ih =>
    have hmore : key ∈ stores → data key = none := fun h => hkey (mem_cons_of_mem _ h)
    cases hdata : data key' with
    | none =>
      rw [import_cons_none hdata]
      exact ih st hmore
    | some d =>
      have hne : key ≠ key' := by
        intro h
        rw [← h, hkey (h ▸ mem_cons_self)] at hdata
        cases hdata
      obtain ⟨hst, hfailed⟩ := import_cons_some sc slug stores st hdata
      obtain ⟨hagree, hnot⟩ := ih ((storeHandlers key').save sc slug d st).2 hmore
      rw [hst, hfailed]
      exact ⟨hagree.trans (save_other sc d st hne), fun h => h.elim (fun h => hne h.1) hnot⟩

/-- An import leaves of a selected store what its own save leaves, however often it is
selected; it is reported as failed if that save failed, or one after it. -/
theorem import_spec (sc : LawfulSchema B) (slug : String) (st : ConfigState B)
    (hkey : key ∈ stores) (hdata : data key = some d) :
    let out := importWorkspaceConfig sc.toSchema slug data stores st
    let first := (storeHandlers key).save sc.toSchema slug d st
    let second := (storeHandlers key).save sc.toSchema slug d first.2
    (storeHandlers key).Agree slug out.2 first.2 ∧
      ((∃ e, first.1 = .error e) → key ∈ failedStores out) ∧
      (key ∈ failedStores out → (∃ e, first.1 = .error e) ∨ ∃ e, second.1 = .error e) := by
  induction stores generalizing st with
  | nil => cases hkey
  | cons key' stores ih =>
    have hrule := storeHandlers_ne key
    by_cases hkey' : key = key'
    · subst hkey'
      obtain ⟨hst, hfailed⟩ := import_cons_some sc.toSchema slug stores st hdata
      have herror : ∀ {P : Prop}, (key = key ∧ P) ↔ P := and_iff_right rfl
      dsimp only
      rw [hst, hfailed, herror]
      by_cases hmem : key ∈ stores
      · -- the store is selected once more, and saved with what was left of it
        obtain ⟨hagree, -, hfailed'⟩ :=
          ih ((storeHandlers key).save sc.toSchema slug d st).2 hmem
        obtain ⟨hagain, -⟩ := save_again sc (storeHandlers key) hrule slug d st
        have hsame := (save_congr sc.toSchema d hrule hagain).1
        refine ⟨hagree.trans hagain, .inl, ?_⟩
        rintro (h | h)
        · exact .inl h
        · rcases hfailed' h with h | h
          · exact .inr h
          · exact .inr (hsame ▸ h)
      · obtain ⟨hagree, hnot⟩ := import_unselected sc.toSchema slug data
          ((storeHandlers key).save sc.toSchema slug d st).2 fun h => absurd h hmem
        exact ⟨hagree, .inl, fun h => .inl (h.resolve_right hnot)⟩
    · have hmem : key ∈ stores := (mem_cons.mp hkey).resolve_left hkey'
      cases hdata' : data key' with
      | none =>
        rw [import_cons_none hdata']
        exact ih st hmem
      | some d' =>
        obtain ⟨hst, hfailed⟩ := import_cons_some sc.toSchema slug stores st hdata'
        obtain ⟨hagree, herror, hfailed'⟩ :=
          ih ((storeHandlers key').save sc.toSchema slug d' st).2 hmem
        obtain ⟨hfirst, hafter⟩ := save_congr sc.toSchema d hrule
          (save_other sc.toSchema d' st hkey')
        have hsecond := (save_congr sc.toSchema d hrule hafter).1
        have hother : ∀ {P Q : Prop}, (key = key' ∧ P) ∨ Q ↔ Q := fun {P Q} =>
          or_iff_right fun h => hkey' h.1
        dsimp only at herror hfailed' ⊢
        rw [hfirst] at herror hfailed'
        rw [hsecond] at hfailed'
        rw [hst, hfailed, hother]
        exact ⟨hagree.trans hafter, herror, hfailed'⟩

end Import

/-! ## Versions -/

section Versions

variable {sc : Schema B} {workspaceSlug : String} {data : ConfigStoreKey → Option (StoreData B)}
  {stores : List ConfigStoreKey} {key : ConfigStoreKey} {db : Database B H} {d : StoreData B}
  {m : ListModel}

/-- No version belongs to a workflow of the workspace. -/
def Untouched (workspaceSlug : String) (db : Database B H) : Prop :=
  ∀ v ∈ db.versions, ∀ r ∈ db.config.rowsOf .workflow workspaceSlug, r.id ≠ v.workflowId

theorem importDb_cons_none (hdata : data key = none) :
    importDb sc workspaceSlug data (key :: stores) db =
      importDb sc workspaceSlug data stores db := by
  rw [importDb, hdata]

theorem importDb_cons_some (hdata : data key = some d) :
    (importDb sc workspaceSlug data (key :: stores) db).2 =
      (importDb sc workspaceSlug data stores
        ((storeHandlers key).saveDb sc workspaceSlug d db).2).2 := by
  rw [importDb, hdata]
  dsimp only
  cases ((storeHandlers key).saveDb sc workspaceSlug d db).1 <;> rfl

theorem importDb_history (sc : Schema B) (slug : String)
    (data : ConfigStoreKey → Option (StoreData B)) (stores : List ConfigStoreKey)
    (db : Database B H) : (importDb sc slug data stores db).2.history = db.history := by
  induction stores generalizing db with
  | nil => rfl
  | cons key stores ih =>
    cases hdata : data key with
    | none => rw [importDb_cons_none hdata, ih]
    | some d => rw [importDb_cons_some hdata, ih]; rfl

theorem importDb_versions (sc : Schema B) (slug : String)
    (data : ConfigStoreKey → Option (StoreData B)) (stores : List ConfigStoreKey)
    (db : Database B H) : (importDb sc slug data stores db).2.versions.Sublist db.versions := by
  induction stores generalizing db with
  | nil => exact .refl _
  | cons key stores ih =>
    cases hdata : data key with
    | none =>
      rw [importDb_cons_none hdata]
      exact ih db
    | some d =>
      rw [importDb_cons_some hdata]
      exact (ih _).trans (cascade_sublist _ _ _ _)

theorem insertRows_fresh {rows rows' new : List (Row B)}
    (h : insertRows sc m rows new = .ok rows') : ∀ r ∈ new, ∀ r' ∈ rows, r'.id ≠ r.id := by
  induction new generalizing rows with
  | nil => exact fun r hr => absurd hr not_mem_nil
  | cons row more ih =>
    obtain ⟨rows₁, hrow, hmore⟩ := bind_eq_ok h
    intro r hr r' hr'
    rcases mem_cons.mp hr with hr | hr
    · unfold insertRow at hrow
      split_ifs at hrow with hid
      rw [hr]
      intro hsame
      exact hid (any_eq_true.mpr ⟨r', hr', by simpa using hsame⟩)
    · refine ih hmore r hr r' ?_
      rw [insertRow_ok hrow]
      exact mem_append_left _ hr'

/-- The rows that a save leaves the workspace are old ones, or have an id that no other
workspace has. -/
theorem savedRows_fresh {data : List (RowData B)} {rows : List (Row B)}
    {hasConfig : Bool} {r : Row B}
    (hr : r ∈ (savedRows sc m workspaceSlug data rows hasConfig).2) :
    r ∈ rows ∨ ∀ r' ∈ rows, r'.workspaceSlug ≠ workspaceSlug → r'.id ≠ r.id := by
  unfold savedRows at hr
  split_ifs at hr with hheld hnil
  · exact .inl hr
  · exact .inl (mem_filter.mp hr).1
  · cases haccepted : accepted sc m workspaceSlug data rows hasConfig with
    | error e =>
      rw [haccepted] at hr
      exact .inl (mem_filter.mp hr).1
    | ok rows' =>
      rw [haccepted] at hr
      obtain ⟨new, hfill, h⟩ := bind_eq_ok haccepted
      obtain ⟨more, hinsert, h⟩ := bind_eq_ok h
      split_ifs at h
      rw [← Except.ok.inj h, insertRows_append hinsert] at hr
      rcases mem_append.mp hr with hr | hr
      · exact .inl (mem_filter.mp hr).1
      · exact .inr fun r' hr' hne =>
          insertRows_fresh hinsert r hr r' (mem_filter.mpr ⟨hr', by simpa using hne⟩)

/-- The workflows that are created get no versions that are there. -/
theorem untouched_saveDb (h : StoreHandler) (hall : Untouched workspaceSlug db) :
    Untouched workspaceSlug (h.saveDb sc workspaceSlug d db).2 := by
  intro v hv r hr
  have hmem : v ∈ db.versions := (cascade_sublist _ _ _ _).subset hv
  obtain ⟨hr, hws⟩ := mem_filter.mp hr
  have hws : r.workspaceSlug = workspaceSlug := by simpa using hws
  by_cases hwrites : h.WritesRows .workflow
  · cases h with
    | singleton m => exact False.elim hwrites
    | webhook => cases hwrites
    | list m =>
      have hm : ListModel.workflow = m := hwrites
      subst hm
      dsimp only [saveDb, save] at hr
      rw [saveRows_eq, setRows_rows_self] at hr
      rcases savedRows_fresh hr with hold | hfresh
      · exact hall v hmem r (mem_filter.mpr ⟨hold, by simpa using hws⟩)
      · obtain ⟨r', hr', hid⟩ := db.stored v hmem
        have hother : r'.workspaceSlug ≠ workspaceSlug := fun hws' =>
          hall v hmem r' (mem_filter.mpr ⟨hr', by simpa using hws'⟩) hid
        rw [← hid]
        exact (hfresh r' hr' hother).symm
  · dsimp only [saveDb] at hr
    rw [save_rows_other hwrites] at hr
    exact hall v hmem r (mem_filter.mpr ⟨hr, by simpa using hws⟩)

/-- The versions are left if no workflows are saved, or those of the workspace have none. -/
theorem versions_iff (sc : Schema B) (slug : String)
    (data : ConfigStoreKey → Option (StoreData B)) (stores : List ConfigStoreKey)
    (db : Database B H) :
    (importDb sc slug data stores db).2.versions = db.versions ↔
      (.workflows ∈ stores → data .workflows ≠ none → Untouched slug db) := by
  induction stores generalizing db with
  | nil => exact iff_of_true rfl fun h => absurd h not_mem_nil
  | cons key stores ih =>
    cases hdata : data key with
    | none =>
      rw [importDb_cons_none hdata, ih]
      refine ⟨fun h hmem hsome => h ?_ hsome, fun h hmem => h (mem_cons_of_mem _ hmem)⟩
      rcases mem_cons.mp hmem with hkey | hmem
      · exact absurd (hkey ▸ hdata) hsome
      · exact hmem
    | some d =>
      rw [importDb_cons_some hdata]
      by_cases hkey : key = .workflows
      · subst hkey
        have hsome : data .workflows ≠ none := by
          rw [hdata]
          exact Option.some_ne_none d
        constructor
        · -- what is left in the end was left by the first save
          intro h _ _ v hv
          rw [← h] at hv
          exact (mem_cascade.mp ((importDb_versions sc slug data stores _).subset hv)).2
        · intro h
          have hall := h mem_cons_self hsome
          have hkept : (StoreHandler.list .workflow).cascade slug db.config db.versions =
              db.versions := filter_eq_self.mpr fun v hv =>
            all_eq_true.mpr fun r hr => by simpa using hall v hv r hr
          exact ((ih _).mpr fun _ _ => untouched_saveDb _ hall).trans hkept
      · have hwrites : ¬(storeHandlers key).WritesRows .workflow := fun h =>
          hkey (listStore_of_writes h).symm
        have hversions : ((storeHandlers key).saveDb sc slug d db).2.versions =
            db.versions := cascade_other hwrites _ _ _
        have huntouched : Untouched slug
            ((storeHandlers key).saveDb sc slug d db).2 ↔ Untouched slug db := by
          unfold Untouched ConfigState.rowsOf
          rw [hversions]
          dsimp only [saveDb]
          rw [save_rows_other hwrites]
        rw [← hversions, ih, huntouched]
        have hmem : ConfigStoreKey.workflows ∈ key :: stores ↔ .workflows ∈ stores :=
          mem_cons.trans (or_iff_right (Ne.symm hkey))
        rw [hmem]

end Versions

/-! ## The promise of an import -/

section Restored

variable (workspaceSlug : String) (data : ConfigStoreKey → Option (StoreData B))
  (stores : List ConfigStoreKey)

/-- Every selected store of the bundle shows what the bundle says, or is reported as failed
and is as it was; and nothing else is touched. -/
structure Restored (db : Database B H) (failed : List ConfigStoreKey) (db' : Database B H) :
    Prop where
  selected : ∀ key ∈ stores, ∀ d, data key = some d →
    (storeHandlers key).Shows workspaceSlug db'.config d ∨
      key ∈ failed ∧ (storeHandlers key).load workspaceSlug db'.config =
        (storeHandlers key).load workspaceSlug db.config
  unselected : ∀ key, (key ∈ stores → data key = none) →
    (storeHandlers key).load workspaceSlug db'.config =
      (storeHandlers key).load workspaceSlug db.config
  elsewhere : ∀ ws ≠ workspaceSlug, ∀ key,
    (storeHandlers key).load ws db'.config = (storeHandlers key).load ws db.config
  versions : db'.versions = db.versions
  history : db'.history = db.history

/-- Every selected store can be restored, and no version goes with a workflow. -/
structure Importable (sc : Schema B) (db : Database B H) : Prop where
  restorable : ∀ key ∈ stores, ∀ d, data key = some d →
    (storeHandlers key).Restorable sc workspaceSlug d db.config
  versions : .workflows ∈ stores → data .workflows ≠ none → Untouched workspaceSlug db

end Restored

section Promise

variable {workspaceSlug : String} {data : ConfigStoreKey → Option (StoreData B)}
  {stores : List ConfigStoreKey} {key : ConfigStoreKey} {d : StoreData B}

/-- An import leaves the configuration of the other workspaces. -/
theorem import_elsewhere (sc : Schema B) (data : ConfigStoreKey → Option (StoreData B))
    (stores : List ConfigStoreKey) (h : StoreHandler) {ws : String} (hne : ws ≠ workspaceSlug)
    (st : ConfigState B) :
    h.load ws (importWorkspaceConfig sc workspaceSlug data stores st).2 = h.load ws st := by
  induction stores generalizing st with
  | nil => rfl
  | cons key stores ih =>
    cases hdata : data key with
    | none =>
      rw [import_cons_none hdata]
      exact ih st
    | some d =>
      rw [(import_cons_some sc workspaceSlug stores st hdata).1, ih]
      have hrows := fun m => save_rowsOf hne sc (storeHandlers key) m d st
      have hrecord := fun m => @save_record_other B sc (storeHandlers key) workspaceSlug st d m
        ws (.inr hne)
      cases h with
      | list m => simp only [load, hrows]
      | singleton m => simp only [load, hrecord]
      | webhook => simp only [load, hrows, hrecord]

/-- A selected store is restored, or reported and as it was, exactly if its own save could
restore it. -/
theorem restored_store_iff (sc : LawfulSchema B) (st : ConfigState B) (hkey : key ∈ stores)
    (hdata : data key = some d) :
    let out := importWorkspaceConfig sc.toSchema workspaceSlug data stores st
    ((storeHandlers key).Shows workspaceSlug out.2 d ∨ key ∈ failedStores out ∧
      (storeHandlers key).load workspaceSlug out.2 =
        (storeHandlers key).load workspaceSlug st) ↔
      (storeHandlers key).Restorable sc.toSchema workspaceSlug d st := by
  obtain ⟨hagree, herror, hfailed⟩ := import_spec sc workspaceSlug st hkey hdata
  obtain ⟨-, hsame⟩ := save_again sc (storeHandlers key) (storeHandlers_ne key) workspaceSlug
    d st
  dsimp only at hagree herror hfailed hsame ⊢
  rw [hagree.shows_iff, hagree.load_eq, ← restored_save_iff]
  refine or_congr_right (and_congr_left fun hload => ⟨fun h => ?_, herror⟩)
  rcases hfailed h with h | h
  · exact h
  · -- the save left what was there, so that a second one ends like the first
    exact hsame hload ▸ h

/-- **Main theorem.** An import keeps its promise exactly if every selected store can be
restored and no version goes with a workflow. -/
theorem restored_iff_importable (sc : LawfulSchema B) (workspaceSlug : String)
    (data : ConfigStoreKey → Option (StoreData B)) (stores : List ConfigStoreKey)
    (db : Database B H) :
    let out := importDb sc.toSchema workspaceSlug data stores db
    Restored workspaceSlug data stores db (out.1.2.map Prod.fst) out.2 ↔
      Importable workspaceSlug data stores sc.toSchema db := by
  have hconfig := importDb_config sc.toSchema workspaceSlug data stores db
  have hout := congrArg Prod.fst hconfig
  have hst := congrArg Prod.snd hconfig
  have hversions := versions_iff sc.toSchema workspaceSlug data stores db
  dsimp only at hout hst ⊢
  constructor
  · intro h
    refine ⟨fun key hkey d hdata => ?_, hversions.mp h.versions⟩
    have hselected := h.selected key hkey d hdata
    rw [hout, hst] at hselected
    exact (restored_store_iff sc db.config hkey hdata).mp hselected
  · intro h
    rw [hout]
    constructor
    case selected =>
      intro key hkey d hdata
      rw [hst]
      exact (restored_store_iff sc db.config hkey hdata).mpr (h.restorable key hkey d hdata)
    case unselected =>
      intro key hkey
      rw [hst]
      exact (import_unselected sc.toSchema workspaceSlug data db.config hkey).1.load_eq
    case elsewhere =>
      intro ws hne key
      rw [hst]
      exact import_elsewhere sc.toSchema data stores (storeHandlers key) hne db.config
    case versions => exact hversions.mpr h.versions
    case history => exact importDb_history sc.toSchema workspaceSlug data stores db

end Promise

/-! ### A store that is emptied -/

/-- `plainSchema` replaces a record. -/
def plainDatabase : LawfulSchema String where
  toSchema := plainSchema
  merge_again _ _ _ _ h := h

/-- `acme` has one workflow, with one version. -/
def oneVersion : Database String Unit where
  config :=
    { rows := fun m => if m = .workflow then [⟨"w1", "acme", "Notify"⟩] else []
      record := fun _ _ => none }
  versions := [⟨"v1", "w1"⟩]
  history := ()
  stored := by decide

/-- A bundle that lists a workflow twice. -/
def twiceListed (key : ConfigStoreKey) : Option (StoreData String) :=
  if key = .workflows then
    some { elements := some [⟨some "w2", "", "Isolate"⟩, ⟨some "w2", "", "Isolate"⟩] }
  else none

/-- The old workflow is deleted with its version, and the new ones are refused: the store is
reported as failed, and empty. -/
theorem emptied_store :
    let out := importDb plainDatabase.toSchema "acme" twiceListed [.workflows] oneVersion
    out.1 = ([], [(.workflows, .uniqueConstraint ["id"])]) ∧
      out.2.config.rowsOf .workflow "acme" = [] ∧ out.2.versions = [] ∧
      ¬Restored "acme" twiceListed [.workflows] oneVersion (out.1.2.map Prod.fst) out.2 := by
  refine ⟨rfl, rfl, rfl, fun h => ?_⟩
  rcases h.selected .workflows (by decide) _ rfl with hshows | ⟨-, hload⟩
  · have hrows : some [(some "w2", "Isolate"), (some "w2", "Isolate")] = some [] := hshows
    exact absurd hrows (by decide)
  · exact absurd hload (by decide)

end AppliverySoar.Config
