import AppliverySoar.Config.Isolation

/-!
# What a save leaves of a store

To save a list is to delete the workspace's rows and to create those of the bundle, two
statements without a transaction (config.service.ts, lines 43–47), so that a store whose
new rows are refused has lost the old ones. A record is merged into what is there
(line 64) and left where the bundle has none (line 62).

Results:
* `saveRows_eq`: what a save makes of a table.
* `restored_save_iff`: when one save leaves what the bundle says, or what was there.
* `save_congr`, `save_other`: a save reads and writes the tables of its store only.
* `save_again`: a second save of the same data leaves what the first has left.
-/

namespace AppliverySoar.Config

open Access List StoreHandler

variable {B : Type}

/-! ## One table -/

/-- `createMany` into a table without the workspace's rows. -/
def accepted (sc : Schema B) (m : ListModel) (workspaceSlug : String) (data : List (RowData B))
    (rows : List (Row B)) (hasConfig : Bool) : Except DbError (List (Row B)) := do
  let new ← fillRows sc m workspaceSlug data
  let rows' ← insertRows sc m (rows.filter fun r => r.workspaceSlug ≠ workspaceSlug) new
  if m = .appliveryWebhookRule ∧ hasConfig = false then
    .error (.foreignKeyConstraint "workspaceSlug")
  else .ok rows'

/-- A violation refers to a policy of the workspace, so that its policies stay. -/
def Held (sc : Schema B) (m : ListModel) (workspaceSlug : String) (rows : List (Row B)) : Prop :=
  m = .compliancePolicy ∧
    ((rows.filter fun r => r.workspaceSlug = workspaceSlug).any fun r => sc.referenced r.id) = true

instance (sc : Schema B) (m : ListModel) (workspaceSlug : String) (rows : List (Row B)) :
    Decidable (Held sc m workspaceSlug rows) :=
  inferInstanceAs (Decidable (_ ∧ _))

/-- What a save makes of a table. -/
def savedRows (sc : Schema B) (m : ListModel) (workspaceSlug : String) (data : List (RowData B))
    (rows : List (Row B)) (hasConfig : Bool) : Except DbError Unit × List (Row B) :=
  if Held sc m workspaceSlug rows then (.error (.foreignKeyConstraint "policyId"), rows)
  else if data = [] then (.ok (), rows.filter fun r => r.workspaceSlug ≠ workspaceSlug)
  else
    match accepted sc m workspaceSlug data rows hasConfig with
    | .error e => (.error e, rows.filter fun r => r.workspaceSlug ≠ workspaceSlug)
    | .ok rows' => (.ok (), rows')

theorem setRows_self (st : ConfigState B) (m : ListModel) : st.setRows m (st.rows m) = st := by
  unfold ConfigState.setRows
  rw [Function.update_eq_self]

theorem setRows_setRows (st : ConfigState B) (m : ListModel) (rows rows' : List (Row B)) :
    (st.setRows m rows).setRows m rows' = st.setRows m rows' := by
  simp [ConfigState.setRows]

theorem saveRows_eq (sc : Schema B) (m : ListModel) (slug : String)
    (data : List (RowData B)) (st : ConfigState B) :
    saveRows sc m slug data st =
      ((savedRows sc m slug data (st.rows m)
          (st.record .appliveryWebhookConfig slug).isSome).1,
        st.setRows m (savedRows sc m slug data (st.rows m)
          (st.record .appliveryWebhookConfig slug).isSome).2) := by
  unfold saveRows deleteMany savedRows
  have hiff : (m = .compliancePolicy ∧
      ((st.rowsOf m slug).any fun r => sc.referenced r.id) = true) ↔
      Held sc m slug (st.rows m) := Iff.rfl
  by_cases hheld : Held sc m slug (st.rows m)
  · rw [if_pos hheld, if_pos (hiff.mpr hheld), setRows_self]
  · rw [if_neg hheld, if_neg (mt hiff.mp hheld)]
    dsimp only
    by_cases hdata : data = []
    · rw [if_pos hdata, if_pos (by rw [hdata]; rfl)]
    · rw [if_neg hdata, if_neg (by simpa using hdata)]
      have hcreate : createMany sc m slug data
          (st.setRows m ((st.rows m).filter fun r => r.workspaceSlug ≠ slug)) =
          (accepted sc m slug data (st.rows m)
            (st.record .appliveryWebhookConfig slug).isSome).map (st.setRows m) := by
        unfold createMany accepted
        rw [setRows_rows_self, setRows_record]
        cases fillRows sc m slug data with
        | error e => rfl
        | ok new =>
          dsimp only [bind, Except.bind]
          cases insertRows sc m _ new with
          | error e => rfl
          | ok rows' =>
            dsimp only
            rw [setRows_setRows]
            cases hrecord : st.record .appliveryWebhookConfig slug <;>
              by_cases hm : m = .appliveryWebhookRule <;> simp [hm, Except.map]
      rw [hcreate]
      cases accepted sc m slug data (st.rows m)
        (st.record .appliveryWebhookConfig slug).isSome <;> rfl

/-! ## What a store shows -/

/-- What an export shows of a row. -/
def RowData.shown (r : RowData B) : Option String × B :=
  (r.id, r.body)

/-- The store shows what the bundle says of it. -/
def StoreHandler.Shows (h : StoreHandler) (workspaceSlug : String) (st : ConfigState B)
    (d : StoreData B) : Prop :=
  match h with
  | .list m => d.elements.map (List.map RowData.shown) =
      some ((st.rowsOf m workspaceSlug).map fun r => (some r.id, r.body))
  | .singleton m => d.fields = st.record m workspaceSlug
  | .webhook => d.config = st.record .appliveryWebhookConfig workspaceSlug ∧
      d.rules.map RowData.shown =
        (st.rowsOf .appliveryWebhookRule workspaceSlug).map fun r => (some r.id, r.body)

/-- Every row has its id and all that the database would fill in. -/
def Complete (sc : Schema B) (m : ListModel) (data : List (RowData B)) : Prop :=
  ∀ r ∈ data, r.id ≠ none ∧ sc.fill m r.body = .ok r.body

/-- The rows of a bundle can be saved: the old ones are held, or the new ones are
accepted and complete, or there is nothing to lose. -/
def RowsRestorable (sc : Schema B) (m : ListModel) (workspaceSlug : String)
    (data : List (RowData B)) (rows : List (Row B)) (hasConfig : Bool) : Prop :=
  Held sc m workspaceSlug rows ∨ data = [] ∨
    match accepted sc m workspaceSlug data rows hasConfig with
    | .ok _ => Complete sc m data
    | .error _ => rows.filter (fun r => r.workspaceSlug = workspaceSlug) = []

/-- The store can be restored from the bundle. A list must be a list; a record must be
refused or be all that the merge leaves; and a record that the bundle does not have
must not be there. -/
def StoreHandler.Restorable (h : StoreHandler) (sc : Schema B) (workspaceSlug : String)
    (d : StoreData B) (st : ConfigState B) : Prop :=
  let hasConfig := (st.record .appliveryWebhookConfig workspaceSlug).isSome
  match h with
  | .list m => (d.elements = none → Held sc m workspaceSlug (st.rows m)) ∧
      RowsRestorable sc m workspaceSlug (d.elements.getD []) (st.rows m) hasConfig
  | .singleton m =>
    match d.fields with
    | none => st.record m workspaceSlug = none
    | some b => ∀ b', sc.merge m (st.record m workspaceSlug) b = .ok b' → b' = b
  | .webhook =>
    let rules := st.rows .appliveryWebhookRule
    match d.config with
    | none =>
      if d.rules = [] then hasConfig = false
      else (∀ rows, accepted sc .appliveryWebhookRule workspaceSlug d.rules rules hasConfig ≠
        .ok rows) ∧ rules.filter (fun r => r.workspaceSlug = workspaceSlug) = []
    | some b => ∀ b', sc.merge .appliveryWebhookConfig
        (st.record .appliveryWebhookConfig workspaceSlug) b = .ok b' →
      if d.rules = [] then b' = b
      else
        match accepted sc .appliveryWebhookRule workspaceSlug d.rules rules true with
        | .ok _ => b' = b ∧ Complete sc .appliveryWebhookRule d.rules
        | .error _ => st.record .appliveryWebhookConfig workspaceSlug = some b' ∧
          rules.filter (fun r => r.workspaceSlug = workspaceSlug) = []

section OneSave

variable {sc : Schema B} {m : ListModel} {workspaceSlug : String} {data : List (RowData B)}
  {rows rows' : List (Row B)} {hasConfig : Bool} {st : ConfigState B} {d : StoreData B}

/-- The rows that were accepted show what the bundle says exactly if it was complete. -/
theorem fillRows_shown {new : List (Row B)} (h : fillRows sc m workspaceSlug data = .ok new) :
    data.map RowData.shown = new.map (fun r => (some r.id, r.body)) ↔ Complete sc m data := by
  induction data generalizing new with
  | nil =>
    rw [← Except.ok.inj h]
    exact iff_of_true rfl fun r hr => by cases hr
  | cons r data ih =>
    obtain ⟨body, hfill, h⟩ := bind_eq_ok h
    obtain ⟨more, hmore, h⟩ := bind_eq_ok h
    rw [← Except.ok.inj h, map_cons, map_cons, List.cons.injEq, ih hmore]
    unfold Complete
    rw [forall_mem_cons, hfill, RowData.shown, Prod.mk.injEq, Except.ok.injEq]
    refine and_congr_left' (and_congr ?_ eq_comm)
    unfold RowData.newId
    cases r.id <;> simp

theorem accepted_ok (h : accepted sc m workspaceSlug data rows hasConfig = .ok rows') :
    (m = .appliveryWebhookRule → hasConfig = true) ∧
      ∃ new, fillRows sc m workspaceSlug data = .ok new ∧
        rows'.filter (fun r => r.workspaceSlug = workspaceSlug) = new := by
  obtain ⟨new, hfill, h⟩ := bind_eq_ok h
  obtain ⟨more, hinsert, h⟩ := bind_eq_ok h
  split_ifs at h with hrule
  rw [← Except.ok.inj h, insertRows_append hinsert]
  refine ⟨fun hm => by simpa [hm] using hrule, new, hfill, ?_⟩
  rw [filter_append, filter_filter]
  have hall : new.filter (fun r => r.workspaceSlug = workspaceSlug) = new :=
    filter_eq_self.mpr fun r hr => by simpa using (fillRows_spec hfill r hr).1
  rw [hall]
  simp

theorem filter_deleted (slug : String) (rows : List (Row B)) :
    (rows.filter fun r => r.workspaceSlug ≠ slug).filter
      (fun r => r.workspaceSlug = slug) = [] := by
  rw [filter_filter]
  exact filter_eq_nil_iff.mpr fun r _ => by simp

/-- A save of rows shows them, or has failed and left what was there. -/
theorem savedRows_iff (sc : Schema B) (m : ListModel) (slug : String)
    (data : List (RowData B)) (rows : List (Row B)) (hasConfig : Bool) :
    (data.map RowData.shown =
        ((savedRows sc m slug data rows hasConfig).2.filter
          fun r => r.workspaceSlug = slug).map (fun r => (some r.id, r.body)) ∨
      (∃ e, (savedRows sc m slug data rows hasConfig).1 = .error e) ∧
        ((savedRows sc m slug data rows hasConfig).2.filter
          fun r => r.workspaceSlug = slug).map Row.toData =
          (rows.filter fun r => r.workspaceSlug = slug).map Row.toData) ↔
      RowsRestorable sc m slug data rows hasConfig := by
  unfold savedRows RowsRestorable
  by_cases hheld : Held sc m slug rows
  · rw [if_pos hheld]
    exact iff_of_true (.inr ⟨⟨_, rfl⟩, rfl⟩) (.inl hheld)
  · rw [if_neg hheld]
    by_cases hnil : data = []
    · rw [if_pos hnil]
      refine iff_of_true (.inl ?_) (.inr (.inl hnil))
      rw [filter_deleted, hnil]
      rfl
    · rw [if_neg hnil]
      cases haccepted : accepted sc m slug data rows hasConfig with
      | ok rows' =>
        obtain ⟨-, new, hfill, hnew⟩ := accepted_ok haccepted
        simp [hheld, hnil, hnew, fillRows_shown hfill]
      | error e =>
        have hsome : data.map RowData.shown ≠ [] := by simpa using hnil
        simp only [hheld, hnil, false_or, filter_deleted, map_nil, hsome]
        exact ⟨fun h => map_eq_nil_iff.mp h.2.symm, fun h => ⟨⟨e, rfl⟩, by rw [h]; rfl⟩⟩

/-- A save of a record shows it, or has failed and left what was there. -/
theorem saveRecord_iff {m : SingletonModel} (b : B) :
    (some b = (saveRecord sc m workspaceSlug b st).2.record m workspaceSlug ∨
      (∃ e, (saveRecord sc m workspaceSlug b st).1 = .error e) ∧
        (saveRecord sc m workspaceSlug b st).2.record m workspaceSlug =
          st.record m workspaceSlug) ↔
      ∀ b', sc.merge m (st.record m workspaceSlug) b = .ok b' → b' = b := by
  unfold saveRecord
  cases sc.merge m (st.record m workspaceSlug) b with
  | error e => simp
  | ok b' => simp [setRecord_record, eq_comm]

theorem load_singleton {m : SingletonModel} {st st' : ConfigState B} :
    load (.singleton m) workspaceSlug st' =
      load (.singleton m) workspaceSlug st ↔
      st'.record m workspaceSlug = st.record m workspaceSlug := by
  simp [load]

theorem load_list {st st' : ConfigState B} :
    load (.list m) workspaceSlug st' = load (.list m) workspaceSlug st ↔
      (st'.rowsOf m workspaceSlug).map Row.toData = (st.rowsOf m workspaceSlug).map Row.toData := by
  simp [load]

theorem load_webhook {st st' : ConfigState B} :
    load .webhook workspaceSlug st' = load .webhook workspaceSlug st ↔
      st'.record .appliveryWebhookConfig workspaceSlug =
          st.record .appliveryWebhookConfig workspaceSlug ∧
        (st'.rowsOf .appliveryWebhookRule workspaceSlug).map Row.toData =
          (st.rowsOf .appliveryWebhookRule workspaceSlug).map Row.toData := by
  simp [load]

theorem restored_list_iff :
    (Shows (.list m) workspaceSlug
        (save (.list m) sc workspaceSlug d st).2 d ∨
      (∃ e, (save (.list m) sc workspaceSlug d st).1 = .error e) ∧
        load (.list m) workspaceSlug
          (save (.list m) sc workspaceSlug d st).2 =
          load (.list m) workspaceSlug st) ↔
      StoreHandler.Restorable (.list m) sc workspaceSlug d st := by
  rw [load_list]
  dsimp only [Shows, save, StoreHandler.Restorable]
  rw [saveRows_eq]
  unfold ConfigState.rowsOf
  rw [setRows_rows_self]
  have hiff := savedRows_iff sc m workspaceSlug (d.elements.getD []) (st.rows m)
    (st.record .appliveryWebhookConfig workspaceSlug).isSome
  cases helements : d.elements with
  | some data =>
    rw [helements] at hiff
    simpa using hiff
  | none =>
    -- what is not a list is saved as the empty one
    rw [Option.getD_none]
    by_cases hheld : Held sc m workspaceSlug (st.rows m)
    · rw [savedRows, if_pos hheld]
      exact iff_of_true (.inr ⟨⟨_, rfl⟩, rfl⟩) ⟨fun _ => hheld, .inl hheld⟩
    · rw [savedRows, if_neg hheld, if_pos rfl]
      refine iff_of_false ?_ fun h => hheld (h.1 rfl)
      rintro (h | ⟨⟨e, h⟩, -⟩) <;> cases h

theorem restored_singleton_iff {m : SingletonModel} :
    (Shows (.singleton m) workspaceSlug
        (save (.singleton m) sc workspaceSlug d st).2 d ∨
      (∃ e, (save (.singleton m) sc workspaceSlug d st).1 = .error e) ∧
        load (.singleton m) workspaceSlug
          (save (.singleton m) sc workspaceSlug d st).2 =
          load (.singleton m) workspaceSlug st) ↔
      StoreHandler.Restorable (.singleton m) sc workspaceSlug d st := by
  rw [load_singleton]
  dsimp only [Shows, save, StoreHandler.Restorable]
  cases d.fields with
  | none => simp [eq_comm]
  | some b => exact saveRecord_iff b

theorem saveRules_eq (sc : Schema B) (slug : String) (rules : List (RowData B))
    (st : ConfigState B) :
    let saved := savedRows sc .appliveryWebhookRule slug rules
      (st.rows .appliveryWebhookRule) (st.record .appliveryWebhookConfig slug).isSome
    (saveRows sc .appliveryWebhookRule slug rules st).1 = saved.1 ∧
      (saveRows sc .appliveryWebhookRule slug rules st).2.record = st.record ∧
      (saveRows sc .appliveryWebhookRule slug rules st).2.rows .appliveryWebhookRule =
        saved.2 := by
  rw [saveRows_eq]
  exact ⟨rfl, rfl, setRows_rows_self _ _ _⟩

theorem savedRules_eq (rules : List (RowData B)) (rows : List (Row B)) (hasConfig : Bool) :
    savedRows sc .appliveryWebhookRule workspaceSlug rules rows hasConfig =
      if rules = [] then (.ok (), rows.filter fun r => r.workspaceSlug ≠ workspaceSlug)
      else
        match accepted sc .appliveryWebhookRule workspaceSlug rules rows hasConfig with
        | .error e => (.error e, rows.filter fun r => r.workspaceSlug ≠ workspaceSlug)
        | .ok rows' => (.ok (), rows') :=
  if_neg fun h => ListModel.noConfusion h.1

theorem save_webhook_none (hconfig : d.config = none) :
    save .webhook sc workspaceSlug d st =
      saveRows sc .appliveryWebhookRule workspaceSlug d.rules st := by
  simp only [save, hconfig]

theorem save_webhook_error {b : B} {e : DbError} (hconfig : d.config = some b)
    (hmerge : sc.merge .appliveryWebhookConfig
      (st.record .appliveryWebhookConfig workspaceSlug) b = .error e) :
    save .webhook sc workspaceSlug d st = (.error e, st) := by
  simp only [save, hconfig, saveRecord, hmerge]

theorem save_webhook_ok {b b' : B} (hconfig : d.config = some b)
    (hmerge : sc.merge .appliveryWebhookConfig
      (st.record .appliveryWebhookConfig workspaceSlug) b = .ok b') :
    save .webhook sc workspaceSlug d st =
      saveRows sc .appliveryWebhookRule workspaceSlug d.rules
        (st.setRecord .appliveryWebhookConfig workspaceSlug b') := by
  simp only [save, hconfig, saveRecord, hmerge]

theorem restored_webhook_none (hconfig : d.config = none) :
    (Shows .webhook workspaceSlug
        (save .webhook sc workspaceSlug d st).2 d ∨
      (∃ e, (save .webhook sc workspaceSlug d st).1 = .error e) ∧
        load .webhook workspaceSlug
          (save .webhook sc workspaceSlug d st).2 =
          load .webhook workspaceSlug st) ↔
      StoreHandler.Restorable .webhook sc workspaceSlug d st := by
  obtain ⟨hresult, hrecord, hrows⟩ := saveRules_eq sc workspaceSlug d.rules st
  rw [load_webhook, save_webhook_none hconfig]
  dsimp only [Shows, StoreHandler.Restorable]
  unfold ConfigState.rowsOf
  rw [hconfig, hresult, hrecord, hrows, savedRules_eq]
  dsimp only
  by_cases hnil : d.rules = []
  · rw [if_pos hnil, if_pos hnil, filter_deleted, hnil]
    cases st.record .appliveryWebhookConfig workspaceSlug <;> simp
  · rw [if_neg hnil, if_neg hnil]
    cases haccepted : accepted sc .appliveryWebhookRule workspaceSlug d.rules
        (st.rows .appliveryWebhookRule)
        (st.record .appliveryWebhookConfig workspaceSlug).isSome with
    | ok rows' =>
      -- the rules were accepted because there was a configuration
      have hsome := (accepted_ok haccepted).1 rfl
      refine iff_of_false ?_ fun h => h.1 rows' rfl
      rintro (⟨h, -⟩ | ⟨⟨e, h⟩, -⟩)
      · rw [← h] at hsome
        cases hsome
      · cases h
    | error e =>
      have hrules : d.rules.map RowData.shown ≠ [] := by simpa using hnil
      rw [filter_deleted]
      refine ⟨?_, fun h => .inr ⟨⟨e, rfl⟩, rfl, by rw [h.2]⟩⟩
      rintro (⟨-, h⟩ | ⟨-, -, h⟩)
      · exact absurd h hrules
      · exact ⟨fun _ h => (by cases h), map_eq_nil_iff.mp h.symm⟩

theorem restored_webhook_some {b : B} (hconfig : d.config = some b) :
    (Shows .webhook workspaceSlug
        (save .webhook sc workspaceSlug d st).2 d ∨
      (∃ e, (save .webhook sc workspaceSlug d st).1 = .error e) ∧
        load .webhook workspaceSlug
          (save .webhook sc workspaceSlug d st).2 =
          load .webhook workspaceSlug st) ↔
      StoreHandler.Restorable .webhook sc workspaceSlug d st := by
  rw [load_webhook]
  dsimp only [Shows, StoreHandler.Restorable]
  rw [hconfig]
  dsimp only
  cases hmerge : sc.merge .appliveryWebhookConfig
      (st.record .appliveryWebhookConfig workspaceSlug) b with
  | error e =>
    rw [save_webhook_error hconfig hmerge]
    exact iff_of_true (.inr ⟨⟨e, rfl⟩, rfl, rfl⟩) fun b' h => (by cases h)
  | ok b' =>
    obtain ⟨hresult, hrecord, hrows⟩ := saveRules_eq sc workspaceSlug d.rules
      (st.setRecord .appliveryWebhookConfig workspaceSlug b')
    have hset : (st.setRecord .appliveryWebhookConfig workspaceSlug b').record
        .appliveryWebhookConfig workspaceSlug = some b' := by
      rw [setRecord_record, if_pos ⟨rfl, rfl⟩]
    have hforall : ∀ {P : B → Prop},
        (∀ b'', (Except.ok b' : Except DbError B) = .ok b'' → P b'') ↔ P b' :=
      ⟨fun h => h b' rfl, fun h b'' heq => Except.ok.inj heq ▸ h⟩
    rw [save_webhook_ok hconfig hmerge, hforall]
    unfold ConfigState.rowsOf
    rw [hresult, hrecord, hrows, savedRules_eq, hset, setRecord_rows, Option.isSome_some]
    by_cases hnil : d.rules = []
    · rw [if_pos hnil, if_pos hnil, filter_deleted, hnil]
      simpa using eq_comm
    · rw [if_neg hnil, if_neg hnil]
      cases haccepted : accepted sc .appliveryWebhookRule workspaceSlug d.rules
          (st.rows .appliveryWebhookRule) true with
      | ok rows' =>
        obtain ⟨-, new, hfill, hnew⟩ := accepted_ok haccepted
        dsimp only
        rw [hnew, fillRows_shown hfill]
        simpa using fun _ => eq_comm
      | error e =>
        have hrules : d.rules.map RowData.shown ≠ [] := by simpa using hnil
        rw [filter_deleted]
        refine ⟨?_, fun h => .inr ⟨⟨e, rfl⟩, h.1.symm, by rw [h.2]⟩⟩
        rintro (⟨-, h⟩ | ⟨-, hsame, h⟩)
        · exact absurd h hrules
        · exact ⟨hsame.symm, map_eq_nil_iff.mp h.symm⟩

/-- One save leaves what the bundle says, or has failed and left what was there, exactly if
the store can be restored. -/
theorem restored_save_iff (h : StoreHandler) :
    (h.Shows workspaceSlug (h.save sc workspaceSlug d st).2 d ∨
      (∃ e, (h.save sc workspaceSlug d st).1 = .error e) ∧
        h.load workspaceSlug (h.save sc workspaceSlug d st).2 = h.load workspaceSlug st) ↔
      h.Restorable sc workspaceSlug d st := by
  cases h with
  | list m => exact restored_list_iff
  | singleton m => exact restored_singleton_iff
  | webhook =>
    cases hconfig : d.config with
    | none => exact restored_webhook_none hconfig
    | some b => exact restored_webhook_some hconfig

end OneSave

/-! ## The tables of a store -/

/-- The handler writes rows of this table. -/
def StoreHandler.WritesRows (h : StoreHandler) (m : ListModel) : Prop :=
  match h with
  | .list m' => m = m'
  | .singleton _ => False
  | .webhook => m = .appliveryWebhookRule

/-- The handler writes the workspace's record of this table. -/
def StoreHandler.WritesRecord (h : StoreHandler) (m : SingletonModel) : Prop :=
  match h with
  | .list _ => False
  | .singleton m' => m = m'
  | .webhook => m = .appliveryWebhookConfig

/-- The two states agree on the handler's tables. -/
def StoreHandler.Agree (h : StoreHandler) (workspaceSlug : String) (st st' : ConfigState B) :
    Prop :=
  (∀ m, h.WritesRows m → st.rows m = st'.rows m) ∧
    ∀ m, h.WritesRecord m → st.record m workspaceSlug = st'.record m workspaceSlug

/-- The store with the rows of a table. -/
def listStore : ListModel → ConfigStoreKey
  | .compliancePolicy => .compliancePolicies
  | .workflow => .workflows
  | .trigger => .triggers
  | .integration => .integrations
  | .caseAutoRunRule => .caseAutoRunRules
  | .threatIntelProvider => .threatIntelProviders
  | .actionLibraryEntry => .actionLibrary
  | .appList => .appLists
  | .scriptRepo => .scriptRepos
  | .firewallRuleSet => .firewallRuleSets
  | .appliveryWebhookRule => .appliveryWebhookConfig

/-- The store with the records of a table. -/
def recordStore : SingletonModel → ConfigStoreKey
  | .caseSlaSettings => .caseSlaSettings
  | .workspaceState => .dashboardState
  | .vulnServiceConfig => .vulnServiceConfig
  | .appliveryWebhookConfig => .appliveryWebhookConfig

variable {key : ConfigStoreKey}

theorem listStore_of_writes {m : ListModel}
    (h : (storeHandlers key).WritesRows m) : listStore m = key := by
  cases key <;> first
    | exact False.elim h
    | (have hm : m = _ := h
       rw [hm]
       rfl)

theorem recordStore_of_writes {m : SingletonModel}
    (h : (storeHandlers key).WritesRecord m) : recordStore m = key := by
  cases key <;> first
    | exact False.elim h
    | (have hm : m = _ := h
       rw [hm]
       rfl)

theorem storeHandlers_ne (key : ConfigStoreKey) :
    storeHandlers key ≠ .list .appliveryWebhookRule := by
  cases key <;> exact fun h => (by cases h)

section Agree

variable {sc : Schema B} {h : StoreHandler} {m : ListModel} {workspaceSlug : String}
  {data : List (RowData B)} {rows rows' : List (Row B)} {hasConfig : Bool}
  {st st' st'' : ConfigState B} {d : StoreData B}

theorem StoreHandler.Agree.refl : h.Agree workspaceSlug st st :=
  ⟨fun _ _ => rfl, fun _ _ => rfl⟩

theorem StoreHandler.Agree.trans (h₁ : h.Agree workspaceSlug st st')
    (h₂ : h.Agree workspaceSlug st' st'') : h.Agree workspaceSlug st st'' :=
  ⟨fun m hm => (h₁.1 m hm).trans (h₂.1 m hm), fun m hm => (h₁.2 m hm).trans (h₂.2 m hm)⟩

theorem StoreHandler.Agree.load_eq (hagree : h.Agree workspaceSlug st st') :
    h.load workspaceSlug st = h.load workspaceSlug st' := by
  cases h with
  | list m => simp only [load, ConfigState.rowsOf, hagree.1 m rfl]
  | singleton m => simp only [load, hagree.2 m rfl]
  | webhook =>
    simp only [load, ConfigState.rowsOf, hagree.1 .appliveryWebhookRule rfl,
      hagree.2 .appliveryWebhookConfig rfl]

theorem StoreHandler.Agree.shows_iff (hagree : h.Agree workspaceSlug st st') :
    h.Shows workspaceSlug st d ↔ h.Shows workspaceSlug st' d := by
  cases h with
  | list m => simp only [Shows, ConfigState.rowsOf, hagree.1 m rfl]
  | singleton m => simp only [Shows, hagree.2 m rfl]
  | webhook =>
    simp only [Shows, ConfigState.rowsOf, hagree.1 .appliveryWebhookRule rfl,
      hagree.2 .appliveryWebhookConfig rfl]

theorem savedRows_hasConfig (hm : m ≠ .appliveryWebhookRule) (hasConfig hasConfig' : Bool) :
    savedRows sc m workspaceSlug data rows hasConfig =
      savedRows sc m workspaceSlug data rows hasConfig' := by
  simp only [savedRows, accepted, hm, false_and, if_false]

theorem save_congr (sc : Schema B) (d : StoreData B) (hne : h ≠ .list .appliveryWebhookRule)
    (hagree : h.Agree workspaceSlug st st') :
    (h.save sc workspaceSlug d st).1 = (h.save sc workspaceSlug d st').1 ∧
      h.Agree workspaceSlug (h.save sc workspaceSlug d st).2 (h.save sc workspaceSlug d st').2 := by
  cases h with
  | list m =>
    have hm : m ≠ .appliveryWebhookRule := fun h => hne (by rw [h])
    have hrows := hagree.1 m rfl
    dsimp only [save]
    rw [saveRows_eq, saveRows_eq, hrows, savedRows_hasConfig hm _
      (st'.record .appliveryWebhookConfig workspaceSlug).isSome]
    refine ⟨rfl, fun m' hm' => ?_, fun _ hm' => False.elim hm'⟩
    rw [show m' = m from hm', setRows_rows_self, setRows_rows_self]
  | singleton m =>
    have hrecord := hagree.2 m rfl
    cases hfields : d.fields with
    | none => simpa only [save, hfields, true_and] using hagree
    | some b =>
      simp only [save, hfields, saveRecord, hrecord]
      cases sc.merge m (st'.record m workspaceSlug) b with
      | error e => exact ⟨rfl, hagree⟩
      | ok b' =>
        refine ⟨rfl, fun _ hm' => False.elim hm', fun m' hm' => ?_⟩
        rw [show m' = m from hm', setRecord_record, setRecord_record]
        simp only [and_self, if_true]
  | webhook =>
    have hrules : ∀ {s s' : ConfigState B}, StoreHandler.Agree .webhook workspaceSlug s s' →
        (saveRows sc .appliveryWebhookRule workspaceSlug d.rules s).1 =
            (saveRows sc .appliveryWebhookRule workspaceSlug d.rules s').1 ∧
          StoreHandler.Agree .webhook workspaceSlug
            (saveRows sc .appliveryWebhookRule workspaceSlug d.rules s).2
            (saveRows sc .appliveryWebhookRule workspaceSlug d.rules s').2 := by
      intro s s' hs
      have hrecord := hs.2 .appliveryWebhookConfig rfl
      rw [saveRows_eq, saveRows_eq, hs.1 .appliveryWebhookRule rfl, hrecord]
      refine ⟨rfl, fun m' hm' => ?_, hs.2⟩
      rw [show m' = _ from hm', setRows_rows_self, setRows_rows_self]
    cases hconfig : d.config with
    | none =>
      rw [save_webhook_none hconfig, save_webhook_none hconfig]
      exact hrules hagree
    | some b =>
      have hrecord := hagree.2 .appliveryWebhookConfig rfl
      cases hmerge : sc.merge .appliveryWebhookConfig
          (st'.record .appliveryWebhookConfig workspaceSlug) b with
      | error e =>
        rw [save_webhook_error hconfig hmerge, save_webhook_error hconfig (hrecord ▸ hmerge)]
        exact ⟨rfl, hagree⟩
      | ok b' =>
        rw [save_webhook_ok hconfig hmerge, save_webhook_ok hconfig (hrecord ▸ hmerge)]
        refine hrules ⟨hagree.1, fun m' hm' => ?_⟩
        rw [show m' = _ from hm', setRecord_record, setRecord_record]
        simp only [and_self, if_true]

theorem saveRecord_record {m m' : SingletonModel} {ws : String} (b : B)
    (hne : m' ≠ m ∨ ws ≠ workspaceSlug) :
    (saveRecord sc m workspaceSlug b st).2.record m' ws = st.record m' ws := by
  unfold saveRecord
  cases sc.merge m (st.record m workspaceSlug) b with
  | error e => rfl
  | ok b' =>
    have hnot : ¬(m' = m ∧ ws = workspaceSlug) := fun h => hne.elim (· h.1) (· h.2)
    rw [setRecord_record, if_neg hnot]

theorem save_rows_other (hm : ¬h.WritesRows m) :
    (h.save sc workspaceSlug d st).2.rows m = st.rows m := by
  cases h with
  | list m' =>
    dsimp only [save]
    rw [saveRows_eq, setRows_rows_of_ne st hm]
  | singleton m' =>
    cases hfields : d.fields with
    | none => simp only [save, hfields]
    | some b => simp only [save, hfields, saveRecord_rows]
  | webhook =>
    cases hconfig : d.config with
    | none => rw [save_webhook_none hconfig, saveRows_eq, setRows_rows_of_ne st hm]
    | some b =>
      cases hmerge : sc.merge .appliveryWebhookConfig
          (st.record .appliveryWebhookConfig workspaceSlug) b with
      | error e => rw [save_webhook_error hconfig hmerge]
      | ok b' => rw [save_webhook_ok hconfig hmerge, saveRows_eq, setRows_rows_of_ne _ hm]; rfl

/-- A save writes its workspace's records in its store's tables only. -/
theorem save_record_other {m : SingletonModel} {ws : String}
    (hm : ¬h.WritesRecord m ∨ ws ≠ workspaceSlug) :
    (h.save sc workspaceSlug d st).2.record m ws = st.record m ws := by
  cases h with
  | list m' =>
    dsimp only [save]
    rw [saveRows_eq]
    rfl
  | singleton m' =>
    cases hfields : d.fields with
    | none => simp only [save, hfields]
    | some b => simpa only [save, hfields] using saveRecord_record b hm
  | webhook =>
    cases hconfig : d.config with
    | none => rw [save_webhook_none hconfig, saveRows_eq]; rfl
    | some b =>
      have hrecord := @saveRecord_record B sc workspaceSlug st .appliveryWebhookConfig m ws b hm
      cases hmerge : sc.merge .appliveryWebhookConfig
          (st.record .appliveryWebhookConfig workspaceSlug) b with
      | error e => rw [save_webhook_error hconfig hmerge]
      | ok b' =>
        rw [saveRecord, hmerge] at hrecord
        rw [save_webhook_ok hconfig hmerge, saveRows_eq]
        exact hrecord

theorem save_other (sc : Schema B) (d : StoreData B) (st : ConfigState B)
    {key key' : ConfigStoreKey} (hne : key' ≠ key) :
    (storeHandlers key').Agree workspaceSlug
      ((storeHandlers key).save sc workspaceSlug d st).2 st := by
  refine ⟨fun m hm => save_rows_other fun hm' => hne ?_,
    fun m hm => save_record_other (.inl fun hm' => hne ?_)⟩
  · exact (listStore_of_writes hm).symm.trans (listStore_of_writes hm')
  · exact (recordStore_of_writes hm).symm.trans (recordStore_of_writes hm')

end Agree

/-! ## A store that is selected twice -/

/-- A database, where the same `upsert` again changes nothing. -/
structure LawfulSchema (B : Type) extends Schema B where
  merge_again : ∀ m old b b', merge m old b = .ok b' → merge m (some b') b = .ok b'

section Again

variable {m : ListModel} {workspaceSlug : String} {data : List (RowData B)}
  {rows rows' : List (Row B)} {hasConfig : Bool} {st : ConfigState B} {d : StoreData B}
  (sc : Schema B)

theorem accepted_congr
    (h : (rows.filter fun r => r.workspaceSlug ≠ workspaceSlug) =
      rows'.filter fun r => r.workspaceSlug ≠ workspaceSlug) :
    accepted sc m workspaceSlug data rows hasConfig =
      accepted sc m workspaceSlug data rows' hasConfig := by
  unfold accepted
  rw [h]

theorem held_congr
    (h : (rows.filter fun r => r.workspaceSlug = workspaceSlug).map Row.toData =
      (rows'.filter fun r => r.workspaceSlug = workspaceSlug).map Row.toData) :
    Held sc m workspaceSlug rows ↔ Held sc m workspaceSlug rows' := by
  have hany : ∀ rows : List (Row B), (rows.any fun r => sc.referenced r.id) =
      (rows.map Row.toData).any fun r => sc.referenced r.newId := by
    intro rows
    rw [any_map]
    rfl
  unfold Held
  rw [hany, hany, h]

theorem filter_twice (workspaceSlug : String) (rows : List (Row B)) :
    (rows.filter fun r => r.workspaceSlug ≠ workspaceSlug).filter
      (fun r => r.workspaceSlug ≠ workspaceSlug) =
      rows.filter fun r => r.workspaceSlug ≠ workspaceSlug := by
  rw [filter_filter]
  simp only [Bool.and_self]

/-- The accepted rows are those of the other workspaces and the workspace's new ones. -/
theorem accepted_others {sc : Schema B}
    (h : accepted sc m workspaceSlug data rows hasConfig = .ok rows') :
    (rows'.filter fun r => r.workspaceSlug ≠ workspaceSlug) =
      rows.filter fun r => r.workspaceSlug ≠ workspaceSlug := by
  obtain ⟨new, hfill, h⟩ := bind_eq_ok h
  obtain ⟨more, hinsert, h⟩ := bind_eq_ok h
  split_ifs at h
  have hnone : (new.filter fun r => r.workspaceSlug ≠ workspaceSlug) = [] :=
    filter_eq_nil_iff.mpr fun r hr => by simp [(fillRows_spec hfill r hr).1]
  rw [← Except.ok.inj h, insertRows_append hinsert, filter_append, filter_twice, hnone,
    append_nil]

theorem savedRows_others (m : ListModel) (workspaceSlug : String)
    (data : List (RowData B)) (rows : List (Row B)) (hasConfig : Bool) :
    ((savedRows sc m workspaceSlug data rows hasConfig).2.filter
      fun r => r.workspaceSlug ≠ workspaceSlug) =
      rows.filter fun r => r.workspaceSlug ≠ workspaceSlug := by
  unfold savedRows
  split_ifs with hheld hnil
  · rfl
  · exact filter_twice workspaceSlug rows
  · cases haccepted : accepted sc m workspaceSlug data rows hasConfig with
    | error e => exact filter_twice workspaceSlug rows
    | ok rows' => exact accepted_others haccepted

theorem not_held_deleted (m : ListModel) (slug : String)
    (rows : List (Row B)) : ¬Held sc m slug (rows.filter fun r => r.workspaceSlug ≠ slug) := by
  rintro ⟨-, h⟩
  rw [filter_deleted] at h
  cases h

/-- A second save leaves the rows that the first has left; and it ends as the first did, if
that left the rows that were there. -/
theorem savedRows_again (m : ListModel) (slug : String)
    (data : List (RowData B)) (rows : List (Row B)) (hasConfig : Bool) :
    let first := savedRows sc m slug data rows hasConfig
    let second := savedRows sc m slug data first.2 hasConfig
    second.2 = first.2 ∧
      ((first.2.filter fun r => r.workspaceSlug = slug).map Row.toData =
        (rows.filter fun r => r.workspaceSlug = slug).map Row.toData →
          second.1 = first.1) := by
  dsimp only
  by_cases hheld : Held sc m slug rows
  · have hfirst : savedRows sc m slug data rows hasConfig =
        (.error (.foreignKeyConstraint "policyId"), rows) := if_pos hheld
    rw [hfirst, hfirst]
    exact ⟨rfl, fun _ => rfl⟩
  · have hdeleted := not_held_deleted sc m slug rows
    by_cases hnil : data = []
    · have hfirst : ∀ rows, ¬Held sc m slug rows →
          savedRows sc m slug data rows hasConfig =
            (.ok (), rows.filter fun r => r.workspaceSlug ≠ slug) :=
        fun rows h => (if_neg h).trans (if_pos hnil)
      rw [hfirst rows hheld, hfirst _ hdeleted, filter_twice]
      exact ⟨rfl, fun _ => rfl⟩
    · have hfirst : ∀ rows, ¬Held sc m slug rows →
          savedRows sc m slug data rows hasConfig =
            match accepted sc m slug data rows hasConfig with
            | .error e => (.error e, rows.filter fun r => r.workspaceSlug ≠ slug)
            | .ok rows' => (.ok (), rows') :=
        fun rows h => (if_neg h).trans (if_neg hnil)
      rw [hfirst rows hheld]
      cases haccepted : accepted sc m slug data rows hasConfig with
      | error e =>
        dsimp only
        rw [hfirst _ hdeleted, accepted_congr sc (filter_twice slug rows), haccepted,
          filter_twice]
        exact ⟨rfl, fun _ => rfl⟩
      | ok rows' =>
        dsimp only
        -- the new policies may be held where the old ones were not
        by_cases hheld' : Held sc m slug rows'
        · rw [savedRows, if_pos hheld']
          exact ⟨rfl, fun hsame => absurd ((held_congr sc hsame).mp hheld') hheld⟩
        · rw [hfirst rows' hheld', accepted_congr sc (accepted_others haccepted), haccepted]
          exact ⟨rfl, fun _ => rfl⟩

theorem setRecord_self {m : SingletonModel} {b : B} (h : st.record m workspaceSlug = some b) :
    st.setRecord m workspaceSlug b = st := by
  unfold ConfigState.setRecord
  rw [← h, Function.update_eq_self]
  dsimp only
  rw [Function.update_eq_self]

theorem saveRules_again (slug : String) (rules : List (RowData B)) (st : ConfigState B) :
    let first := saveRows sc .appliveryWebhookRule slug rules st
    let second := saveRows sc .appliveryWebhookRule slug rules first.2
    StoreHandler.Agree .webhook slug second.2 first.2 ∧
      ((first.2.rowsOf .appliveryWebhookRule slug).map Row.toData =
        (st.rowsOf .appliveryWebhookRule slug).map Row.toData →
          second.1 = first.1) := by
  obtain ⟨hrows, hresult⟩ := savedRows_again sc .appliveryWebhookRule slug rules
    (st.rows .appliveryWebhookRule) (st.record .appliveryWebhookConfig slug).isSome
  dsimp only
  rw [saveRows_eq, saveRows_eq, setRows_record, setRows_rows_self, setRows_setRows]
  refine ⟨⟨fun m' hm' => ?_, fun _ _ => rfl⟩, fun hsame => hresult ?_⟩
  · rw [show m' = _ from hm', setRows_rows_self, setRows_rows_self]
    exact hrows
  · unfold ConfigState.rowsOf at hsame
    rwa [setRows_rows_self] at hsame

/-- A second save of the same data leaves what the first has left; and it ends as the first
did, if that left what was there. -/
theorem save_again (sc : LawfulSchema B) (h : StoreHandler)
    (hne : h ≠ .list .appliveryWebhookRule) (slug : String) (d : StoreData B)
    (st : ConfigState B) :
    let first := h.save sc.toSchema slug d st
    let second := h.save sc.toSchema slug d first.2
    h.Agree slug second.2 first.2 ∧
      (h.load slug first.2 = h.load slug st → second.1 = first.1) := by
  dsimp only
  cases h with
  | list m =>
    have hm : m ≠ .appliveryWebhookRule := fun h => hne (by rw [h])
    obtain ⟨hrows, hresult⟩ := savedRows_again sc.toSchema m slug
      (d.elements.getD []) (st.rows m) (st.record .appliveryWebhookConfig slug).isSome
    rw [load_list]
    dsimp only [save]
    rw [saveRows_eq, saveRows_eq, setRows_record, setRows_rows_self, setRows_setRows]
    refine ⟨⟨fun m' hm' => ?_, fun _ hm' => False.elim hm'⟩, fun hsame => hresult ?_⟩
    · rw [show m' = m from hm', setRows_rows_self, setRows_rows_self]
      exact hrows
    · unfold ConfigState.rowsOf at hsame
      rwa [setRows_rows_self] at hsame
  | singleton m =>
    cases hfields : d.fields with
    | none => simp only [save, hfields, implies_true, and_true]; exact .refl
    | some b =>
      simp only [save, hfields]
      cases hmerge : sc.merge m (st.record m slug) b with
      | error e =>
        have hsave : saveRecord sc.toSchema m slug b st = (.error e, st) := by
          simp only [saveRecord, hmerge]
        rw [hsave, hsave]
        exact ⟨.refl, fun _ => rfl⟩
      | ok b' =>
        have hsave : ∀ s : ConfigState B, sc.merge m (s.record m slug) b = .ok b' →
            saveRecord sc.toSchema m slug b s =
              (.ok (), s.setRecord m slug b') := fun s hs => by
          simp only [saveRecord, hs]
        have hset : (st.setRecord m slug b').record m slug = some b' := by
          rw [setRecord_record, if_pos ⟨rfl, rfl⟩]
        rw [hsave st hmerge, hsave _ (by rw [hset]; exact sc.merge_again m _ b b' hmerge)]
        refine ⟨⟨fun _ hm' => False.elim hm', fun m' hm' => ?_⟩, fun _ => rfl⟩
        rw [show m' = m from hm', hset, setRecord_record, if_pos ⟨rfl, rfl⟩]
  | webhook =>
    cases hconfig : d.config with
    | none =>
      rw [save_webhook_none hconfig, save_webhook_none hconfig, load_webhook]
      exact ⟨(saveRules_again sc.toSchema slug d.rules st).1,
        fun hsame => (saveRules_again sc.toSchema slug d.rules st).2 hsame.2⟩
    | some b =>
      cases hmerge : sc.merge .appliveryWebhookConfig
          (st.record .appliveryWebhookConfig slug) b with
      | error e =>
        rw [save_webhook_error hconfig hmerge, save_webhook_error hconfig hmerge]
        exact ⟨.refl, fun _ => rfl⟩
      | ok b' =>
        obtain ⟨hagree, hresult⟩ := saveRules_again sc.toSchema slug
          d.rules (st.setRecord .appliveryWebhookConfig slug b')
        obtain ⟨-, hrecord, -⟩ := saveRules_eq sc.toSchema slug d.rules
          (st.setRecord .appliveryWebhookConfig slug b')
        have hset : (saveRows sc.toSchema .appliveryWebhookRule slug d.rules
            (st.setRecord .appliveryWebhookConfig slug b')).2.record
              .appliveryWebhookConfig slug = some b' := by
          rw [hrecord, setRecord_record, if_pos ⟨rfl, rfl⟩]
        rw [save_webhook_ok hconfig hmerge, load_webhook,
          save_webhook_ok hconfig (by rw [hset]; exact sc.merge_again _ _ b b' hmerge),
          setRecord_self hset]
        exact ⟨hagree, fun hsame => hresult hsame.2⟩

end Again

end AppliverySoar.Config
