import AppliverySoar.Config.Routes

/-!
# One workspace's configuration seen from another

What requests with workspace `T` in the header can tell about the
configuration of `S`. The argument is a projection: every request that neither
clones from `S` nor inserts a row under an id that `S` holds does the same
thing on the tables with `S` taken out.

Results:
* `handleConfig_without`: such a request commutes with taking `S` out.
* `source_not_learned`: no sequence of such requests tells two states apart
  that differ in the configuration of `S` only.
* `source_cloned`: a clone and an export show the stored webhook secret of a
  workspace on which the caller has no access at all.
-/

namespace AppliverySoar.Config

open Access Requests List StoreHandler

variable {B : Type} {S T : String}

/-! ## Taking a workspace out -/

/-- The rows of the other workspaces. -/
def others (S : String) (rows : List (Row B)) : List (Row B) :=
  rows.filter fun r => r.workspaceSlug ≠ S

/-- The tables without the configuration of `S`. -/
def ConfigState.without (S : String) (st : ConfigState B) : ConfigState B where
  rows m := others S (st.rows m)
  record m workspaceSlug := if workspaceSlug = S then none else st.record m workspaceSlug

/-- The two states differ at most in the configuration of `S`. -/
def SameBut (S : String) (st₁ st₂ : ConfigState B) : Prop :=
  st₁.without S = st₂.without S

theorem record_without (hne : T ≠ S) (st : ConfigState B) (m : SingletonModel) :
    (st.without S).record m T = st.record m T :=
  if_neg hne

theorem rowsOf_without (hne : T ≠ S) (st : ConfigState B) (m : ListModel) :
    (st.without S).rowsOf m T = st.rowsOf m T := by
  simp only [ConfigState.rowsOf, ConfigState.without, others, filter_filter]
  refine filter_congr fun r _ => ?_
  by_cases h : r.workspaceSlug = T
  · simp [h, hne]
  · simp [h]

theorem others_append (rows new : List (Row B)) :
    others S (rows ++ new) = others S rows ++ others S new :=
  filter_append _ _

theorem others_of_target (hne : T ≠ S) {new : List (Row B)}
    (hnew : ∀ r ∈ new, r.workspaceSlug = T) : others S new = new :=
  filter_eq_self.mpr fun r hr => by simpa [hnew r hr] using hne

theorem setRows_without (st : ConfigState B) (m : ListModel) (rows : List (Row B)) :
    (st.setRows m rows).without S = (st.without S).setRows m (others S rows) := by
  have hrows : ∀ m', others S ((st.setRows m rows).rows m') =
      ((st.without S).setRows m (others S rows)).rows m' := by
    intro m'
    by_cases h : m' = m
    · rw [h, setRows_rows_self, setRows_rows_self]
    · rw [setRows_rows_of_ne st h, setRows_rows_of_ne (st.without S) h]
      rfl
  exact congrArg (fun f => ConfigState.mk f _) (funext hrows)

theorem setRecord_without (hne : T ≠ S) (st : ConfigState B) (m : SingletonModel) (b : B) :
    (st.setRecord m T b).without S = (st.without S).setRecord m T b := by
  have hrec : ∀ m' ws, ((st.setRecord m T b).without S).record m' ws =
      ((st.without S).setRecord m T b).record m' ws := by
    intro m' ws
    rw [setRecord_record]
    simp only [ConfigState.without, setRecord_record]
    by_cases hws : ws = S
    · simp [hws, hne.symm]
    · simp [hws]
  exact congrArg (ConfigState.mk _) (funext fun m' => funext (hrec m'))

/-- The target's rows, seen from `S`, are no rows of `S`. -/
theorem others_filter (rows : List (Row B)) :
    others S (rows.filter fun r => r.workspaceSlug ≠ T) =
      (others S rows).filter fun r => r.workspaceSlug ≠ T := by
  simp only [others, filter_filter, Bool.and_comm]

/-! ## Statements -/

/-- Whether the id is taken does not hang on `S`: a workspace other than `S` and
the target holds it, or `S` does not. -/
def Decided (S T : String) (rows : List (Row B)) (id : String) : Prop :=
  (∃ r ∈ rows, r.workspaceSlug ≠ S ∧ r.workspaceSlug ≠ T ∧ r.id = id) ∨
    ∀ r ∈ rows, r.workspaceSlug = S → r.id ≠ id

variable {rows : List (Row B)} {id : String} {row : Row B}

theorem Decided.any_eq (h : Decided S T rows id) :
    (others S rows).any (fun r => r.id = id) = rows.any fun r => r.id = id := by
  rw [Bool.eq_iff_iff]
  simp only [others, any_eq_true, mem_filter, decide_eq_true_eq]
  constructor
  · rintro ⟨r, ⟨hr, -⟩, hid⟩
    exact ⟨r, hr, hid⟩
  · rintro ⟨r, hr, hid⟩
    rcases h with ⟨r', hr', hS, -, hid'⟩ | hfree
    · exact ⟨r', ⟨hr', hS⟩, hid'⟩
    · exact ⟨r, ⟨hr, fun hS => hfree r hr hS hid⟩, hid⟩

/-- Neither the target's rows going nor new ones coming change that. -/
theorem Decided.filter (h : Decided S T rows id) :
    Decided S T (rows.filter fun r => r.workspaceSlug ≠ T) id := by
  rcases h with ⟨r, hr, hS, hT, hid⟩ | hfree
  · exact .inl ⟨r, mem_filter.mpr ⟨hr, by simpa using hT⟩, hS, hT, hid⟩
  · exact .inr fun r hr => hfree r (mem_filter.mp hr).1

theorem Decided.append (hne : T ≠ S)
    (h : Decided S T rows id) (hrow : row.workspaceSlug = T) :
    Decided S T (rows ++ [row]) id := by
  rcases h with ⟨r, hr, hcase⟩ | hfree
  · exact .inl ⟨r, mem_append_left _ hr, hcase⟩
  · refine .inr fun r hr hS => ?_
    rcases mem_append.mp hr with hr | hr
    · exact hfree r hr hS
    · rw [mem_singleton.mp hr, hrow] at hS
      exact absurd hS hne

theorem insertRow_others (hne : T ≠ S) (sc : Schema B) (m : ListModel) (hrow : row.workspaceSlug = T) (h : Decided S T rows row.id) :
    insertRow sc m (others S rows) row = (insertRow sc m rows row).map (others S) := by
  have hkey : (others S rows).any (fun r => r.workspaceSlug = row.workspaceSlug ∧
        sc.actionKey r.body = sc.actionKey row.body) =
      rows.any fun r => r.workspaceSlug = row.workspaceSlug ∧
        sc.actionKey r.body = sc.actionKey row.body := by
    rw [Bool.eq_iff_iff]
    simp only [others, any_eq_true, mem_filter, decide_eq_true_eq]
    constructor
    · rintro ⟨r, ⟨hr, -⟩, hk⟩
      exact ⟨r, hr, hk⟩
    · rintro ⟨r, hr, hws, hk⟩
      exact ⟨r, ⟨hr, by rw [hws, hrow]; exact hne⟩, hws, hk⟩
  unfold insertRow
  rw [h.any_eq, hkey]
  split_ifs
  · rfl
  · rfl
  · simp only [Except.map, others_append]
    have hself : others S [row] = [row] :=
      others_of_target hne fun r hr => mem_singleton.mp hr ▸ hrow
    rw [hself]

theorem insertRows_others (hne : T ≠ S) (sc : Schema B) (m : ListModel)
    {rows new : List (Row B)} (hnew : ∀ r ∈ new, r.workspaceSlug = T)
    (h : ∀ r ∈ new, Decided S T rows r.id) :
    insertRows sc m (others S rows) new = (insertRows sc m rows new).map (others S) := by
  induction new generalizing rows with
  | nil => rfl
  | cons row more ih =>
    have hrow := hnew row mem_cons_self
    rw [insertRows, insertRows, insertRow_others hne sc m hrow (h row mem_cons_self)]
    cases hins : insertRow sc m rows row with
    | error e => rfl
    | ok rows' =>
      refine ih (fun r hr => hnew r (mem_cons_of_mem _ hr)) fun r hr => ?_
      rw [insertRow_ok hins]
      exact (h r (mem_cons_of_mem _ hr)).append hne hrow

theorem deleteMany_without (hne : T ≠ S) (sc : Schema B) (m : ListModel) (st : ConfigState B) :
    deleteMany sc m T (st.without S) = (deleteMany sc m T st).map (ConfigState.without S) := by
  unfold deleteMany
  rw [rowsOf_without hne]
  split_ifs
  · rfl
  · simp only [Except.map, setRows_without, others_filter]
    rfl

variable {st : ConfigState B} {data : List (RowData B)}

theorem createMany_without (hne : T ≠ S) (sc : Schema B) (m : ListModel) (h : ∀ d ∈ data, Decided S T (st.rows m) d.newId) :
    createMany sc m T data (st.without S) =
      (createMany sc m T data st).map (ConfigState.without S) := by
  unfold createMany
  cases hfill : fillRows sc m T data with
  | error e => rfl
  | ok new =>
    have hspec := fillRows_spec hfill
    have hins : insertRows sc m ((st.without S).rows m) new =
        (insertRows sc m (st.rows m) new).map (others S) :=
      insertRows_others hne sc m (fun r hr => (hspec r hr).1) fun r hr => by
        obtain ⟨-, d, hd, hid⟩ := hspec r hr
        exact hid ▸ h d hd
    simp only [bind, Except.bind]
    rw [hins, record_without hne]
    cases insertRows sc m (st.rows m) new with
    | error e => rfl
    | ok rows =>
      simp only [Except.map]
      split_ifs
      · rfl
      · exact congrArg Except.ok (setRows_without st m rows).symm

/-! ## Handlers -/

theorem isEmpty_without (hne : T ≠ S) (h : StoreHandler) (st : ConfigState B) :
    h.isEmpty T (st.without S) = h.isEmpty T st := by
  cases h with
  | list m => simp only [StoreHandler.isEmpty, rowsOf_without hne]
  | singleton m => simp only [StoreHandler.isEmpty, record_without hne]
  | webhook => simp only [StoreHandler.isEmpty, record_without hne]

theorem load_without (hne : T ≠ S) (h : StoreHandler) (st : ConfigState B) :
    h.load T (st.without S) = h.load T st := by
  cases h with
  | list m => simp only [load, rowsOf_without hne]
  | singleton m => simp only [load, record_without hne]
  | webhook => simp only [load, record_without hne, rowsOf_without hne]

/-- The rows that a `save` inserts, each with its table. -/
def StoreHandler.inserts (h : StoreHandler) (d : StoreData B) : List (ListModel × RowData B) :=
  match h with
  | .list m => (d.elements.getD []).map fun r => (m, r)
  | .singleton _ => []
  | .webhook => d.rules.map fun r => (.appliveryWebhookRule, r)

/-- `p` with `S` taken out of the state it left. -/
abbrev outcomeWithout (S : String) {α : Type} (p : α × ConfigState B) : α × ConfigState B :=
  (p.1, p.2.without S)

theorem saveRows_without (hne : T ≠ S) (sc : Schema B) (m : ListModel) (h : ∀ d ∈ data, Decided S T (st.rows m) d.newId) :
    saveRows sc m T data (st.without S) = outcomeWithout S (saveRows sc m T data st) := by
  unfold saveRows
  rw [deleteMany_without hne]
  cases hdel : deleteMany sc m T st with
  | error e => rfl
  | ok st' =>
    have hrows : st'.rows m = (st.rows m).filter fun r => r.workspaceSlug ≠ T := by
      unfold deleteMany at hdel
      split_ifs at hdel
      rw [← Except.ok.inj hdel, setRows_rows_self]
    have hdata : ∀ d ∈ data, Decided S T (st'.rows m) d.newId := fun d hd =>
      hrows ▸ (h d hd).filter
    simp only [Except.map]
    rw [createMany_without hne sc m hdata]
    split_ifs
    · rfl
    · cases createMany sc m T data st' <;> rfl

theorem saveRecord_without (hne : T ≠ S) (sc : Schema B) (m : SingletonModel) (b : B)
    (st : ConfigState B) :
    saveRecord sc m T b (st.without S) = outcomeWithout S (saveRecord sc m T b st) := by
  unfold saveRecord
  rw [record_without hne]
  cases sc.merge m (st.record m T) b with
  | error e => rfl
  | ok b' => simp only [outcomeWithout, setRecord_without hne]

theorem saveRecord_rows (sc : Schema B) (m : SingletonModel) (b : B) (st : ConfigState B) :
    (saveRecord sc m T b st).2.rows = st.rows := by
  unfold saveRecord
  split <;> rfl

theorem save_without (hne : T ≠ S) (sc : Schema B) (h : StoreHandler) {d : StoreData B}
    (hd : ∀ x ∈ h.inserts d, Decided S T (st.rows x.1) x.2.newId) :
    h.save sc T d (st.without S) = outcomeWithout S (h.save sc T d st) := by
  cases h with
  | list m =>
    exact saveRows_without hne sc m fun r hr => hd (m, r) (mem_map_of_mem hr)
  | singleton m =>
    cases hf : d.fields with
    | none => simp only [save, hf]
    | some b => simp only [save, hf, saveRecord_without hne]
  | webhook =>
    have hrules : ∀ r ∈ d.rules, Decided S T (st.rows .appliveryWebhookRule) r.newId :=
      fun r hr => hd (.appliveryWebhookRule, r) (mem_map_of_mem hr)
    cases hc : d.config with
    | none => simp only [save, hc, saveRows_without hne sc _ hrules]
    | some b =>
      have hkeep := saveRecord_rows (T := T) sc .appliveryWebhookConfig b st
      simp only [save, hc, saveRecord_without hne]
      rcases hsave : saveRecord sc .appliveryWebhookConfig T b st with ⟨r, st'⟩
      rw [hsave] at hkeep
      cases r with
      | error e => rfl
      | ok u => exact saveRows_without hne sc _ fun r hr => by rw [hkeep]; exact hrules r hr

theorem saveRows_rowsOf (hne : S ≠ T) (sc : Schema B) (m m' : ListModel)
    (data : List (RowData B)) (st : ConfigState B) :
    (saveRows sc m T data st).2.rowsOf m' S = st.rowsOf m' S := by
  have hdel : ∀ st', deleteMany sc m T st = .ok st' → st'.rowsOf m' S = st.rowsOf m' S := by
    intro st' h
    unfold deleteMany at h
    split_ifs at h
    rw [← Except.ok.inj h]
    unfold ConfigState.rowsOf
    by_cases hm : m' = m
    · rw [hm, setRows_rows_self, filter_filter]
      refine filter_congr fun r _ => ?_
      by_cases hr : r.workspaceSlug = S <;> simp [hr, hne]
    · rw [setRows_rows_of_ne st hm]
  have hcreate : ∀ st' st'', createMany sc m T data st' = .ok st'' →
      st''.rowsOf m' S = st'.rowsOf m' S := by
    intro st' st'' h
    obtain ⟨new, hfill, h⟩ := bind_eq_ok h
    obtain ⟨rows, hins, h⟩ := bind_eq_ok h
    split_ifs at h
    rw [← Except.ok.inj h]
    unfold ConfigState.rowsOf
    by_cases hm : m' = m
    · rw [hm, setRows_rows_self, insertRows_append hins, filter_append]
      have hnone : new.filter (fun r => r.workspaceSlug = S) = [] := by
        refine filter_eq_nil_iff.mpr fun r hr => ?_
        rw [(fillRows_spec hfill r hr).1]
        simpa using hne.symm
      rw [hnone, append_nil]
    · rw [setRows_rows_of_ne st' hm]
  unfold saveRows
  cases hd : deleteMany sc m T st with
  | error e => rfl
  | ok st' =>
    simp only
    split_ifs
    · exact hdel st' hd
    · cases hc : createMany sc m T data st' with
      | error e => exact hdel st' hd
      | ok st'' => rw [hcreate st' st'' hc, hdel st' hd]

theorem save_rowsOf (hne : S ≠ T) (sc : Schema B) (h : StoreHandler) (m : ListModel)
    (d : StoreData B) (st : ConfigState B) : (h.save sc T d st).2.rowsOf m S = st.rowsOf m S := by
  have hrecord : ∀ sm b, (saveRecord sc sm T b st).2.rowsOf m S = st.rowsOf m S := by
    intro sm b
    unfold ConfigState.rowsOf
    rw [saveRecord_rows]
  cases h with
  | list m' => exact saveRows_rowsOf hne sc m' m _ st
  | singleton sm =>
    cases hf : d.fields with
    | none => simp only [save, hf]
    | some b => simpa only [save, hf] using hrecord sm b
  | webhook =>
    cases hc : d.config with
    | none => simpa only [save, hc] using saveRows_rowsOf hne sc _ m d.rules st
    | some b =>
      have hkeep := hrecord .appliveryWebhookConfig b
      simp only [save, hc]
      rcases hsave : saveRecord sc .appliveryWebhookConfig T b st with ⟨r, st'⟩
      rw [hsave] at hkeep
      cases r with
      | error e => exact hkeep
      | ok u => exact (saveRows_rowsOf hne sc _ m d.rules st').trans hkeep

/-! ## Routes -/

theorem workspaceConfigIsEmpty_without (hne : T ≠ S) (st : ConfigState B) :
    workspaceConfigIsEmpty T (st.without S) = workspaceConfigIsEmpty T st := by
  simp only [workspaceConfigIsEmpty, isEmpty_without hne]

theorem exportWorkspaceConfig_without (hne : T ≠ S) (st : ConfigState B) :
    exportWorkspaceConfig T (st.without S) = exportWorkspaceConfig T st := by
  simp only [exportWorkspaceConfig, load_without hne]

/-- No row of the bundle's selected stores carries an id that `S` holds. -/
def Unclaimed (S : String) (data : ConfigStoreKey → Option (StoreData B))
    (stores : List ConfigStoreKey) (st : ConfigState B) : Prop :=
  ∀ key ∈ stores, ∀ d, data key = some d → ∀ x ∈ (storeHandlers key).inserts d,
    ∀ r ∈ st.rowsOf x.1 S, r.id ≠ x.2.newId

variable {stores : List ConfigStoreKey} {U : String}

theorem importWorkspaceConfig_without (hne : T ≠ S) (sc : Schema B)
    {data : ConfigStoreKey → Option (StoreData B)}
    (h : Unclaimed S data stores st) :
    importWorkspaceConfig sc T data stores (st.without S) =
      outcomeWithout S (importWorkspaceConfig sc T data stores st) := by
  induction stores generalizing st with
  | nil => rfl
  | cons key stores ih =>
    have hmore : Unclaimed S data stores st := fun k hk => h k (mem_cons_of_mem _ hk)
    unfold importWorkspaceConfig
    cases hdata : data key with
    | none => exact ih hmore
    | some d =>
      have hfree : ∀ x ∈ (storeHandlers key).inserts d, Decided S T (st.rows x.1) x.2.newId :=
        fun x hx => .inr fun r hr hS =>
          h key mem_cons_self d hdata x hx r (mem_filter.mpr ⟨hr, by simpa using hS⟩)
      have hkeep := fun m => save_rowsOf (Ne.symm hne) sc (storeHandlers key) m d st
      simp only [save_without hne sc _ hfree]
      rcases hsave : (storeHandlers key).save sc T d st with ⟨saved, st'⟩
      rw [hsave] at hkeep
      have hnext : Unclaimed S data stores st' := fun k hk d' hd' x hx => by
        rw [hkeep]
        exact hmore k hk d' hd' x hx
      simp only [ih hnext]
      cases saved <;> rfl

/-- The ids of a workspace's own rows are held by it, whoever else is looked
at. -/
theorem decided_of_load (hS : U ≠ S) (hT : U ≠ T) (h : StoreHandler)
    (st : ConfigState B) : ∀ x ∈ h.inserts (h.load U st), Decided S T (st.rows x.1) x.2.newId := by
  have hrows : ∀ m, ∀ r ∈ st.rowsOf m U, Decided S T (st.rows m) r.id := by
    intro m r hr
    obtain ⟨hmem, hws⟩ := mem_filter.mp hr
    have hU : r.workspaceSlug = U := by simpa using hws
    exact .inl ⟨r, hmem, hU ▸ hS, hU ▸ hT, rfl⟩
  intro x hx
  cases h with
  | list m =>
    simp only [inserts, load, Option.getD_some, map_map,
      mem_map] at hx
    obtain ⟨r, hr, hxr⟩ := hx
    rw [← hxr]
    exact hrows m r hr
  | singleton m => exact absurd hx not_mem_nil
  | webhook =>
    simp only [inserts, load, map_map, mem_map] at hx
    obtain ⟨r, hr, hxr⟩ := hx
    rw [← hxr]
    exact hrows .appliveryWebhookRule r hr

theorem cloneStores_without (hne : T ≠ S) (hS : U ≠ S) (hT : U ≠ T) (sc : Schema B)
    (stores : List ConfigStoreKey) (st : ConfigState B) :
    cloneStores sc T U stores (st.without S) = outcomeWithout S (cloneStores sc T U stores st) := by
  induction stores generalizing st with
  | nil => rfl
  | cons key stores ih =>
    unfold cloneStores
    simp only [load_without hS, save_without hne sc _ (decided_of_load hS hT _ st)]
    rcases (storeHandlers key).save sc T ((storeHandlers key).load U st) st with ⟨saved, st'⟩
    cases saved with
    | error e => rfl
    | ok u => exact ih st'

/-- The request learns nothing of `S` and leaves nothing of it in the target:
where the gate admits it, it does not clone stores from `S` into a still
empty target, and imports no row under an id that `S` holds. -/
def KeepsApart (S T : String) (st : ConfigState B) (rq : ConfigRequest B) : Prop :=
  configGate rq = .ok () →
    match rq.route with
    | .cloneFrom source stores =>
      source = S → stores = [] ∨ (workspaceConfigIsEmpty T st).1 = false
    | .importConfig version data stores =>
      version = configExportSchemaVersion → Unclaimed S data stores st
    | _ => True

theorem cloneWorkspaceConfig_without (hne : T ≠ S) (sc : Schema B) {source : String}
    (h : source = S → stores = [] ∨ (workspaceConfigIsEmpty T st).1 = false) :
    cloneWorkspaceConfig sc T source stores (st.without S) =
      outcomeWithout S (cloneWorkspaceConfig sc T source stores st) := by
  unfold cloneWorkspaceConfig
  rw [workspaceConfigIsEmpty_without hne]
  split_ifs with hT hempty
  · rfl
  · rfl
  · by_cases hS : source = S
    · rcases h hS with hnil | hfull
      · rw [hnil]
        rfl
      · exact absurd (by rw [hfull]; rfl) hempty
    · rw [cloneStores_without hne hS hT]
      rcases cloneStores sc T source stores st with ⟨r, st'⟩
      cases r <;> rfl

/-- The request does the same thing on the tables with `S` taken out. -/
theorem handleConfig_without (hne : T ≠ S) (sc : Schema B)
    {rq : ConfigRequest B} (h : KeepsApart S T st rq) :
    handleConfig sc T (st.without S) rq = outcomeWithout S (handleConfig sc T st rq) := by
  cases hgate : configGate rq with
  | error e => rw [handleConfig_refused hgate, handleConfig_refused hgate]
  | ok u =>
    have happ := h hgate
    rw [handleConfig_admitted hgate, handleConfig_admitted hgate]
    cases hroute : rq.route with
    | workspaceStatus => simp only [configRoute, workspaceConfigIsEmpty_without hne]
    | exportConfig => simp only [configRoute, exportWorkspaceConfig_without hne]
    | cloneFrom source stores =>
      rw [hroute] at happ
      exact cloneWorkspaceConfig_without hne sc happ
    | importConfig version data stores =>
      rw [hroute] at happ
      simp only [configRoute]
      split_ifs with hversion
      · rfl
      · simp only [importWorkspaceConfig_without hne sc (happ (not_not.mp hversion))]

/-- **Main theorem.** No caller can tell two states apart that differ in the
configuration of `S` only, by any sequence of requests for `T` that all
keep the two workspaces apart. -/
theorem source_not_learned {S T : String} (hne : T ≠ S) (sc : Schema B)
    {st₁ st₂ : ConfigState B} (h : SameBut S st₁ st₂) {rqs : List (ConfigRequest B)}
    (h₁ : Along (handleConfig sc T) (KeepsApart S T) st₁ rqs)
    (h₂ : Along (handleConfig sc T) (KeepsApart S T) st₂ rqs) :
    (run (handleConfig sc T) st₁ rqs).1 = (run (handleConfig sc T) st₂ rqs).1 ∧
      SameBut S (run (handleConfig sc T) st₁ rqs).2 (run (handleConfig sc T) st₂ rqs).2 := by
  refine run_related (SameBut S) (fun s₁ s₂ rq hs hok₁ hok₂ => ?_) h₁ h₂ h
  have hsame : outcomeWithout S (handleConfig sc T s₁ rq) =
      outcomeWithout S (handleConfig sc T s₂ rq) := by
    rw [← handleConfig_without hne sc hok₁, ← handleConfig_without hne sc hok₂, hs]
  exact Prod.mk.inj hsame

/-! ### A webhook secret -/

/-- Bodies are plain texts: every row is accepted as it is, an upsert replaces,
and no violation refers to a policy. -/
def plainSchema : Schema String where
  fill _ b := .ok b
  merge _ _ b := .ok b
  actionKey b := b
  referenced _ := false

/-- `acme` has a webhook configuration with `secret`; nothing else is stored. -/
def webhookOnly (secret : String) : ConfigState String where
  rows _ := []
  record m workspaceSlug :=
    if m = .appliveryWebhookConfig ∧ workspaceSlug = "acme" then some secret else none

/-- A role that may manage and move the settings of the workspace it is for. -/
def settingsRole : SoarRoleRecord where
  id := "r1"
  name := "Settings"
  description := none
  featureAccess area := if area = "settings" then some "manage" else none
  riskyActions action := if action = "canExportOrImportConfig" then some true else none
  appliveryTagValues := ["ops"]
  segmentIds := []

/-- A request for `beta` of a collaborator with that role there. -/
def betaRequest (route : ConfigRoute String) : ConfigRequest String where
  session := .ok ()
  cached := some
    { allowed := true, isSuperAdmin := false, role := some settingsRole,
      collaboratorRole := some "viewer", matchedTagValue := some "ops", deniedReason := none }
  route := route

theorem sameBut_webhookOnly (a b : String) : SameBut "acme" (webhookOnly a) (webhookOnly b) := by
  refine congrArg (ConfigState.mk _) (funext fun m => funext fun ws => ?_)
  by_cases hws : ws = "acme"
  · simp [hws]
  · simp [webhookOnly, hws]

/-- A bundle with one workflow. -/
def oneWorkflow (key : ConfigStoreKey) : Option (StoreData String) :=
  if key = .workflows then some { elements := some [⟨some "w1", "", "Notify"⟩] } else none

/-- Import it into `beta`, then export `beta`. -/
def importAndExport : List (ConfigRequest String) :=
  [betaRequest (.importConfig "1" oneWorkflow [.workflows]), betaRequest .exportConfig]

/-- `acme` holds no row at all. -/
theorem along_importAndExport (secret : String) :
    Along (handleConfig plainSchema "beta") (KeepsApart "acme" "beta") (webhookOnly secret)
      importAndExport :=
  And.intro (fun _ _ _ _ _ _ _ _ _ hr => absurd hr not_mem_nil)
    (And.intro (fun _ => trivial) trivial)

theorem source_not_learned_import :
    (run (handleConfig plainSchema "beta") (webhookOnly "k1") importAndExport).1 =
      (run (handleConfig plainSchema "beta") (webhookOnly "k2") importAndExport).1 :=
  (source_not_learned (by decide : "beta" ≠ "acme") plainSchema (sameBut_webhookOnly "k1" "k2")
    (along_importAndExport "k1") (along_importAndExport "k2")).1

/-- Cloning the webhook store of `acme` into the empty `beta` and exporting
`beta` shows the secret, with no access to `acme` at all. -/
theorem source_cloned :
    let rqs := [betaRequest (.cloneFrom "acme" [.appliveryWebhookConfig]),
      betaRequest .exportConfig]
    SameBut "acme" (webhookOnly "k1") (webhookOnly "k2") ∧
      requirePermission exportOrImportConfig none ≠ .ok () ∧
      (run (handleConfig plainSchema "beta") (webhookOnly "k1") rqs).1 ≠
        (run (handleConfig plainSchema "beta") (webhookOnly "k2") rqs).1 :=
  ⟨sameBut_webhookOnly "k1" "k2", by decide, by decide⟩

end AppliverySoar.Config
