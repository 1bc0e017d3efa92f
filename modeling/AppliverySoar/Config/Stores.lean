import AppliverySoar.Access.Rbac

/-!
# The configuration stores (config.service.ts)

Export, import and clone work on fourteen stores, each of one table or (the
Applivery webhook) of two. The tables hold the rows of all workspaces under one
primary key, so a bundle's row ids are compared with every workspace's rows.

Results:
* `insertRows_append`: an accepted insertion appends the new rows.
* `fillRows_spec`: they are rows of the target, under the ids of the bundle.
-/

namespace AppliverySoar.Config

open Access List

/-! ## Tables -/

/-- The tables with one row an entry, all keyed by `id`. -/
inductive ListModel
  | compliancePolicy | workflow | trigger | integration | caseAutoRunRule | threatIntelProvider
  | actionLibraryEntry | appList | scriptRepo | firewallRuleSet | appliveryWebhookRule
  deriving DecidableEq, Repr

/-- The tables with one row a workspace, keyed by `workspaceSlug`. -/
inductive SingletonModel
  | caseSlaSettings | workspaceState | vulnServiceConfig | appliveryWebhookConfig
  deriving DecidableEq, Repr

/-- A row; `body` is everything but its id and its workspace. -/
structure Row (B : Type) where
  id : String
  workspaceSlug : String
  body : B
  deriving DecidableEq, Repr

/-- The configuration of all workspaces. -/
structure ConfigState (B : Type) where
  rows : ListModel → List (Row B)
  record : SingletonModel → String → Option B

/-- How a statement on these tables can fail. -/
inductive DbError
  | validation
  | uniqueConstraint (fields : List String)
  | foreignKeyConstraint (field : String)
  deriving DecidableEq, Repr

/-- What the database does that the stores do not look into: fill in a row's
defaults or reject its fields, merge an upsert into what is there, and
know which policies violations refer to. -/
structure Schema (B : Type) where
  fill : ListModel → B → Except DbError B
  merge : SingletonModel → Option B → B → Except DbError B
  actionKey : B → String
  referenced : String → Bool

/-- A row of a bundle: an `id` if it has one, and the `uuid()` it gets if not. -/
structure RowData (B : Type) where
  id : Option String
  uuid : String
  body : B
  deriving DecidableEq, Repr

/-- The id under which a row of a bundle is inserted. -/
def RowData.newId {B : Type} (r : RowData B) : String :=
  r.id.getD r.uuid

/-- `data[key]`, as the handlers read it: its elements if it is an array, its
fields (without `workspaceSlug` and `updatedAt`) if it is an object, and its
`config` and `rules`. -/
structure StoreData (B : Type) where
  elements : Option (List (RowData B)) := none
  fields : Option B := none
  config : Option B := none
  rules : List (RowData B) := []
  deriving DecidableEq, Repr

variable {B : Type} (st : ConfigState B)

/-- `findMany({ where: { workspaceSlug } })`. -/
def ConfigState.rowsOf (st : ConfigState B) (m : ListModel) (workspaceSlug : String) :
    List (Row B) :=
  (st.rows m).filter fun r => r.workspaceSlug = workspaceSlug

/-- `st` with the rows of one table replaced. -/
def ConfigState.setRows (st : ConfigState B) (m : ListModel) (rows : List (Row B)) :
    ConfigState B :=
  { st with rows := Function.update st.rows m rows }

/-- `st` with one record replaced. -/
def ConfigState.setRecord (st : ConfigState B) (m : SingletonModel) (workspaceSlug : String)
    (b : B) : ConfigState B :=
  let records := Function.update (st.record m) workspaceSlug (some b)
  { st with record := Function.update st.record m records }

@[simp] theorem setRows_rows_self (m : ListModel) (rows : List (Row B)) :
    (st.setRows m rows).rows m = rows := by
  simp [ConfigState.setRows]

theorem setRows_rows_of_ne {m m' : ListModel} (h : m' ≠ m)
    (rows : List (Row B)) : (st.setRows m rows).rows m' = st.rows m' := by
  simp [ConfigState.setRows, h]

@[simp] theorem setRows_record (m : ListModel) (rows : List (Row B)) :
    (st.setRows m rows).record = st.record := rfl

@[simp] theorem setRecord_rows (m : SingletonModel) (workspaceSlug : String)
    (b : B) : (st.setRecord m workspaceSlug b).rows = st.rows := rfl

theorem setRecord_record (m m' : SingletonModel) (slug ws : String)
    (b : B) : (st.setRecord m slug b).record m' ws =
      if m' = m ∧ ws = slug then some b else st.record m' ws := by
  by_cases hm : m' = m
  · subst hm
    simp only [ConfigState.setRecord, Function.update_self, Function.update_apply, true_and]
  · simp only [ConfigState.setRecord, Function.update_of_ne hm, hm, false_and, if_false]

/-! ## Statements -/

/-- `deleteMany({ where: { workspaceSlug } })`: a policy that a violation refers
to cannot go. -/
def deleteMany (sc : Schema B) (m : ListModel) (workspaceSlug : String) (st : ConfigState B) :
    Except DbError (ConfigState B) :=
  if m = .compliancePolicy ∧ (st.rowsOf m workspaceSlug).any fun r => sc.referenced r.id then
    .error (.foreignKeyConstraint "policyId")
  else .ok (st.setRows m ((st.rows m).filter fun r => r.workspaceSlug ≠ workspaceSlug))

/-- The insertion of one row: its id, and for a webhook rule its action within
the workspace, must be unused in the whole table. -/
def insertRow (sc : Schema B) (m : ListModel) (rows : List (Row B)) (row : Row B) :
    Except DbError (List (Row B)) :=
  if rows.any fun r => r.id = row.id then .error (.uniqueConstraint ["id"])
  else if m = .appliveryWebhookRule ∧ rows.any fun r =>
      r.workspaceSlug = row.workspaceSlug ∧ sc.actionKey r.body = sc.actionKey row.body then
    .error (.uniqueConstraint ["workspaceSlug", "actionKey"])
  else .ok (rows ++ [row])

/-- The insertion of several rows, all or none. -/
def insertRows (sc : Schema B) (m : ListModel) : List (Row B) → List (Row B) →
    Except DbError (List (Row B))
  | rows, [] => .ok rows
  | rows, row :: more => do insertRows sc m (← insertRow sc m rows row) more

/-- The rows that `data.map((r) => ({ ...r, workspaceSlug }))` becomes. -/
def fillRows (sc : Schema B) (m : ListModel) (workspaceSlug : String) :
    List (RowData B) → Except DbError (List (Row B))
  | [] => .ok []
  | r :: data => do
    let body ← sc.fill m r.body
    let rows ← fillRows sc m workspaceSlug data
    return ⟨r.newId, workspaceSlug, body⟩ :: rows

/-- `createMany`; webhook rules refer to the workspace's webhook configuration. -/
def createMany (sc : Schema B) (m : ListModel) (workspaceSlug : String) (data : List (RowData B))
    (st : ConfigState B) : Except DbError (ConfigState B) := do
  let new ← fillRows sc m workspaceSlug data
  let rows ← insertRows sc m (st.rows m) new
  if m = .appliveryWebhookRule ∧ (st.record .appliveryWebhookConfig workspaceSlug).isNone then
    .error (.foreignKeyConstraint "workspaceSlug")
  else .ok (st.setRows m rows)

/-! ## Handlers -/

/-- The `save` of `listHandler`: two statements, and no transaction around
them. -/
def saveRows (sc : Schema B) (m : ListModel) (workspaceSlug : String) (data : List (RowData B))
    (st : ConfigState B) : Except DbError Unit × ConfigState B :=
  match deleteMany sc m workspaceSlug st with
  | .error e => (.error e, st)
  | .ok st' =>
    if data.isEmpty then (.ok (), st')
    else
      match createMany sc m workspaceSlug data st' with
      | .error e => (.error e, st')
      | .ok st'' => (.ok (), st'')

/-- The `upsert` of a singleton store. -/
def saveRecord (sc : Schema B) (m : SingletonModel) (workspaceSlug : String) (b : B)
    (st : ConfigState B) : Except DbError Unit × ConfigState B :=
  match sc.merge m (st.record m workspaceSlug) b with
  | .error e => (.error e, st)
  | .ok b' => (.ok (), st.setRecord m workspaceSlug b')

/-- `CONFIG_STORE_KEYS`. -/
inductive ConfigStoreKey
  | compliancePolicies | workflows | triggers | integrations | caseAutoRunRules | caseSlaSettings
  | threatIntelProviders | appliveryWebhookConfig | actionLibrary | appLists | scriptRepos
  | dashboardState | vulnServiceConfig | firewallRuleSets
  deriving DecidableEq, Repr

/-- All keys in their order. -/
def configStoreKeys : List ConfigStoreKey :=
  [.compliancePolicies, .workflows, .triggers, .integrations, .caseAutoRunRules, .caseSlaSettings,
    .threatIntelProviders, .appliveryWebhookConfig, .actionLibrary, .appLists, .scriptRepos,
    .dashboardState, .vulnServiceConfig, .firewallRuleSets]

/-- The three kinds of `StoreHandler`. -/
inductive StoreHandler
  | list (m : ListModel)
  | singleton (m : SingletonModel)
  | webhook

/-- `STORE_HANDLERS` (lines 104–119). -/
def storeHandlers : ConfigStoreKey → StoreHandler
  | .compliancePolicies => .list .compliancePolicy
  | .workflows => .list .workflow
  | .triggers => .list .trigger
  | .integrations => .list .integration
  | .caseAutoRunRules => .list .caseAutoRunRule
  | .caseSlaSettings => .singleton .caseSlaSettings
  | .threatIntelProviders => .list .threatIntelProvider
  | .appliveryWebhookConfig => .webhook
  | .actionLibrary => .list .actionLibraryEntry
  | .appLists => .list .appList
  | .scriptRepos => .list .scriptRepo
  | .dashboardState => .singleton .workspaceState
  | .vulnServiceConfig => .singleton .vulnServiceConfig
  | .firewallRuleSets => .list .firewallRuleSet

/-- `isEmpty` of a handler. -/
def StoreHandler.isEmpty (h : StoreHandler) (workspaceSlug : String) (st : ConfigState B) : Bool :=
  match h with
  | .list m => (st.rowsOf m workspaceSlug).isEmpty
  | .singleton m => (st.record m workspaceSlug).isNone
  | .webhook => (st.record .appliveryWebhookConfig workspaceSlug).isNone

/-- A stored row as a bundle shows it. -/
def Row.toData (r : Row B) : RowData B :=
  ⟨some r.id, "", r.body⟩

/-- `load` of a handler. -/
def StoreHandler.load (h : StoreHandler) (workspaceSlug : String) (st : ConfigState B) :
    StoreData B :=
  match h with
  | .list m => { elements := some ((st.rowsOf m workspaceSlug).map Row.toData) }
  | .singleton m => { fields := st.record m workspaceSlug }
  | .webhook =>
    { config := st.record .appliveryWebhookConfig workspaceSlug,
      rules := (st.rowsOf .appliveryWebhookRule workspaceSlug).map Row.toData }

/-- `save` of a handler. -/
def StoreHandler.save (h : StoreHandler) (sc : Schema B) (workspaceSlug : String)
    (data : StoreData B) (st : ConfigState B) : Except DbError Unit × ConfigState B :=
  match h with
  | .list m => saveRows sc m workspaceSlug (data.elements.getD []) st
  | .singleton m =>
    match data.fields with
    | none => (.ok (), st)
    | some b => saveRecord sc m workspaceSlug b st
  | .webhook =>
    match data.config with
    | none => saveRows sc .appliveryWebhookRule workspaceSlug data.rules st
    | some b =>
      match saveRecord sc .appliveryWebhookConfig workspaceSlug b st with
      | (.error e, st') => (.error e, st')
      | (.ok (), st') => saveRows sc .appliveryWebhookRule workspaceSlug data.rules st'

variable {sc : Schema B} {m : ListModel}

theorem insertRow_ok {rows rows' : List (Row B)} {row : Row B}
    (h : insertRow sc m rows row = .ok rows') : rows' = rows ++ [row] := by
  unfold insertRow at h
  split_ifs at h
  exact (Except.ok.inj h).symm

theorem insertRows_append {rows rows' new : List (Row B)}
    (h : insertRows sc m rows new = .ok rows') : rows' = rows ++ new := by
  induction new generalizing rows with
  | nil => simpa [insertRows] using h.symm
  | cons row more ih =>
    obtain ⟨rows₁, hrow, hmore⟩ := bind_eq_ok h
    rw [ih hmore, insertRow_ok hrow, append_assoc, singleton_append]

/-- The rows to insert are the target's, each under its id in the bundle. -/
theorem fillRows_spec {slug : String} {data : List (RowData B)} {new : List (Row B)}
    (h : fillRows sc m slug data = .ok new) :
    ∀ r ∈ new, r.workspaceSlug = slug ∧ ∃ d ∈ data, d.newId = r.id := by
  induction data generalizing new with
  | nil =>
    rw [← Except.ok.inj h]
    exact fun r hr => absurd hr not_mem_nil
  | cons d data ih =>
    obtain ⟨b, -, h⟩ := bind_eq_ok h
    obtain ⟨more, hmore, h⟩ := bind_eq_ok h
    rw [← Except.ok.inj h]
    intro r hr
    rcases mem_cons.mp hr with hr | hr
    · rw [hr]
      exact ⟨rfl, d, mem_cons_self, rfl⟩
    · obtain ⟨hws, d', hd', hid⟩ := ih hmore r hr
      exact ⟨hws, d', mem_cons_of_mem _ hd', hid⟩

end AppliverySoar.Config
