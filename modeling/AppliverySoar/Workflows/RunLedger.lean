import AppliverySoar.Workflows.RunTable

/-!
# What a durable run holds of its devices

A launched run, and what every state of it keeps: whatever the tables hold for
the run is for one of its devices, and each of these can still be resumed, is
being worked for, or is done.

Results:
* `Within.step`, `Accounted.step`: a step keeps both.
-/

namespace AppliverySoar.Workflows

open Async Compliance List

variable {E : Evaluator}

/-! ## Launching -/

/-- The arguments of `launchWorkflowRun`, and the id that it draws. -/
structure RunLaunch where
  runId : String
  slug : String
  authorization : String
  target : Option String
  workflow : Workflow
  devices : List DeviceRef

namespace RunLaunch

/-- The row that is created. -/
def row (launch : RunLaunch) : WorkflowRunRow where
  id := launch.runId
  workspaceSlug := launch.slug
  workflowId := launch.workflow.id
  workflowName := launch.workflow.name
  targetDescription := launch.target
  completed := false
  total := some launch.devices.length

/-- The chain of one of the devices. -/
def env (launch : RunLaunch) (device : DeviceRef) : ChainEnv where
  slug := launch.slug
  authorization := launch.authorization
  workflow := launch.workflow
  device := device
  runId := launch.runId

/-- `executeWorkflowRunDurable`. -/
def tasks (launch : RunLaunch) : List RunTask :=
  launch.devices.map (fun device => .engine (.chain (launch.env device))) ++
    [.settle launch.runId]

def ids (launch : RunLaunch) : List String :=
  launch.devices.map (·.id)

/-- The run is created and its chains are started beside what runs already. -/
def config (launch : RunLaunch) (s : RunStore) (others : List RunTask) :
    Config (engineSig E) JsError RunStore RunTask :=
  (runSystem E).launch { s with runs := launch.row :: s.runs } (launch.tasks ++ others)

end RunLaunch

/-- The id that a launch has drawn is new: no row has it, and no other operation
works for it. -/
structure Unused (runId : String) (s : RunStore) (others : List RunTask) : Prop where
  wellFormed : s.WellFormed
  keys : (s.results.map (·.key)).Nodup
  runs : ∀ run ∈ s.runs, run.id ≠ runId
  rows : ∀ r ∈ s.pending, r.runId ≠ runId
  results : ∀ row ∈ s.results, row.runId ≠ runId
  entry : ∀ task, RunTask.engine task ∈ others → task.Entry
  chains : ∀ env, RunTask.engine (.chain env) ∈ others → env.runId ≠ runId

/-- The run for whose accounting a call is made. -/
def EngineCall.accountOf : EngineCall → Option String
  | .upsertRunResult row => some row.runId
  | .findRun runId | .findRunResults runId | .completeRun runId .. => some runId
  | _ => none

/-- Where a run of the engine accounts for `runId`: none of its calls that do so
rejects, nor a lookup of a resume, and a device is recorded as waiting only
while its row can still be taken. -/
structure Undisturbed (runId : String) (_ : List (RunLabel E)) (s : RunStore) (l : RunLabel E) :
    Prop where
  accounts : ∀ c e, l.event = ⟨c, .error e⟩ → c.accountOf ≠ some runId
  lookups : ∀ c e d, l.event = ⟨c, .error e⟩ → l.task.key l.past = some (runId, d) →
    c.looksUp = true → ¬NoBegin l.past
  waiting : ∀ row u, l.event = ⟨.upsertRunResult row, .ok u⟩ → row.runId = runId →
    row.status = .waiting → ∃ r ∈ s.pending, r.key = row.key ∧ r.claimed = false

/-- The thread works for the run. -/
def WorksFor (runId : String) (th : Thread (engineSig E) JsError RunTask) : Prop :=
  (∃ d, th.task.key th.log = some (runId, d)) ∨ th.task = .settle runId

/-! ## What a call does to the tables -/

section Tables

variable {s : RunStore} {e : EngineEvent E} {k : ChainKey} {r : PendingRow}

/-- The device has a row that can still be taken. -/
def HasRow (s : RunStore) (k : ChainKey) : Prop :=
  ∃ r ∈ s.pending, r.key = k ∧ r.claimed = false

/-- The device is recorded as done. -/
def DoneIn (s : RunStore) (k : ChainKey) : Prop :=
  ∃ row ∈ s.results, row.key = k ∧ row.status = .done

theorem key_claimed {ids : List ℕ} :
    (if r.id ∈ ids then { r with claimed := true } else r : PendingRow).key = r.key := by
  split_ifs <;> rfl

/-- The rows after a call have the keys of rows before, or of the one created. -/
theorem key_of_mem_next
    (hr : r ∈ (s.toEngineStore.next e.call e.answer).pending) :
    (∃ data u, e = ⟨.createPendingStep data, .ok u⟩ ∧ data.key = r.key) ∨
      ∃ r₀ ∈ s.pending, r₀.key = r.key := by
  rcases e with ⟨c, e | a⟩
  · rw [next_error] at hr
    exact .inr ⟨r, hr, rfl⟩
  · cases c
    case createPendingStep data =>
      rcases mem_append.mp hr with hr | hr
      · exact .inr ⟨r, hr, rfl⟩
      · rw [mem_singleton.mp hr]
        exact .inl ⟨data, a, rfl, rfl⟩
    case deletePendingStep id => exact .inr ⟨r, (mem_filter.mp hr).1, rfl⟩
    case deleteByToken token => exact .inr ⟨r, (mem_filter.mp hr).1, rfl⟩
    case claimDueSteps limit =>
      obtain ⟨r₀, hr₀, rfl⟩ := mem_claimRows.mp hr
      exact .inr ⟨r₀, hr₀, key_claimed.symm⟩
    all_goals exact .inr ⟨r, hr, rfl⟩

/-- A row that can be taken stays, or is taken, or is deleted by its id. -/
theorem HasRow.next (h : HasRow s k) (hwf : s.WellFormed)
    (hmay : s.toEngineStore.may e.call e.answer) :
    HasRow (s.next e.call e.answer) k ∨ (∃ row ∈ takenRows e, row.key = k) ∨
      ∃ id u, e = ⟨.deletePendingStep id, .ok u⟩ ∧ ∃ r ∈ s.pending, r.id = id ∧ r.claimed = false := by
  obtain ⟨r, hr, hkey, hfree⟩ := h
  rcases e with ⟨c, e | a⟩
  · have hsame : (s.next c (.error e)).pending = s.pending :=
      congrArg EngineStore.pending (next_error (E := E) s.toEngineStore c e)
    exact .inl ⟨r, hsame.symm ▸ hr, hkey, hfree⟩
  · cases c
    case createPendingStep data => exact .inl ⟨r, mem_append_left _ hr, hkey, hfree⟩
    case deletePendingStep id =>
      by_cases hid : r.id = id
      · exact .inr (.inr ⟨id, a, rfl, r, hr, hid, hfree⟩)
      · exact .inl ⟨r, mem_filter.mpr ⟨hr, by simpa using hid⟩, hkey, hfree⟩
    case deleteByToken token =>
      by_cases htoken : r.pendingToken = some token
      · have hfind : a = s.pending.find? fun r => r.pendingToken = some token := hmay
        cases a with
        | none => exact absurd htoken (by simpa using find?_eq_none.mp hfind.symm r hr)
        | some row =>
          have hrow := find?_some hfind.symm
          obtain rfl : row = r := hwf.tokens row (mem_of_find?_eq_some hfind.symm) r hr token
            (by simpa using hrow) htoken
          exact .inr (.inl ⟨row, mem_singleton.mpr rfl, hkey⟩)
      · exact .inl ⟨r, mem_filter.mpr ⟨hr, by simpa using htoken⟩, hkey, hfree⟩
    case claimDueSteps limit =>
      by_cases hid : r.id ∈ a.map (·.id)
      · obtain ⟨row, hrow, hrowid⟩ := mem_map.mp hid
        obtain rfl : row = r := hwf.eq_of_id (hmay.2.2 row hrow).1 hr hrowid
        exact .inr (.inl ⟨row, hrow, hkey⟩)
      · exact .inl ⟨r, mem_claimRows.mpr ⟨r, hr, (if_neg hid).symm⟩, hkey, hfree⟩
    all_goals exact .inl ⟨r, hr, hkey, hfree⟩

theorem results_next_of_not_upsert (h : ∀ row u, e ≠ ⟨.upsertRunResult row, .ok u⟩) :
    (s.next e.call e.answer).results = s.results := by
  rcases e with ⟨c, e | a⟩
  · exact congrArg EngineStore.results (next_error (E := E) s.toEngineStore c e)
  · cases c
    case upsertRunResult row => exact absurd rfl (h row a)
    all_goals rfl

theorem nodup_upsertResult {row : RunResultRow} {rows : List RunResultRow}
    (h : (rows.map (·.key)).Nodup) : ((upsertResult row rows).map (·.key)).Nodup := by
  unfold upsertResult
  rw [map_cons, nodup_cons]
  refine ⟨fun hmem => ?_, h.sublist (filter_sublist.map _)⟩
  obtain ⟨r, hr, hkey⟩ := mem_map.mp hmem
  obtain ⟨-, hne⟩ := mem_filter.mp hr
  exact of_decide_eq_true hne (Prod.mk.inj hkey)

/-- What is recorded as done stays so until the device is recorded again. -/
theorem DoneIn.next (h : DoneIn s k) : DoneIn (s.next e.call e.answer) k ∨
    ∃ row u, e = ⟨.upsertRunResult row, .ok u⟩ ∧ row.key = k := by
  obtain ⟨r, hr, hkey, hdone⟩ := h
  by_cases hupsert : ∃ row u, e = ⟨.upsertRunResult row, .ok u⟩
  · obtain ⟨row, u, rfl⟩ := hupsert
    by_cases hrow : row.key = k
    · exact .inr ⟨row, u, rfl, hrow⟩
    · exact .inl ⟨r, mem_upsertResult.mpr (.inr ⟨hr, hkey.trans_ne (Ne.symm hrow)⟩), hkey, hdone⟩
  · refine .inl ⟨r, ?_, hkey, hdone⟩
    rw [results_next_of_not_upsert fun row u heq => hupsert ⟨row, u, heq⟩]
    exact hr

end Tables

/-! ## What a step does to the threads -/

section Threads

variable {cfg cfg' : Config (engineSig E) JsError RunStore RunTask} {l : RunLabel E} {k : ChainKey}
  {task : RunTask}

/-- The chain has recorded neither that it waits nor that it is done. -/
def Unreported (log : List (EngineEvent E)) : Prop :=
  phaseOf log = .running ∨ phaseOf log = .created

/-- A thread works for the device and has not reported yet. -/
def AtWork (cfg : Config (engineSig E) JsError RunStore RunTask) (k : ChainKey) : Prop :=
  ∃ (j : ℕ) (th : Thread (engineSig E) JsError RunTask),
    cfg.threads[j]? = some th ∧ th.task.key th.log = some k ∧ Unreported th.log

/-- The operation continues a device that was parked. -/
def RunTask.resumes : RunTask → Bool
  | .engine (.resume _) | .engine (.scriptResult ..) => true
  | _ => false

/-- The thread has taken a row of the device, and has since neither parked the
device again nor recorded how its chain ended. -/
def HoldsRow (th : Thread (engineSig E) JsError RunTask) (k : ChainKey) : Prop :=
  th.task.resumes = true ∧ th.task.key th.log = some k ∧ phaseOf th.log = .running

/-- Some thread has taken a row of the device. -/
def Held (cfg : Config (engineSig E) JsError RunStore RunTask) (k : ChainKey) : Prop :=
  ∃ th ∈ cfg.threads, HoldsRow th k

theorem key_of_extends {log log' : List (EngineEvent E)}
    (h : task.key log = some k) (hpre : log <+: log') : task.key log' = some k := by
  cases task with
  | engine task => exact taskKey_of_prefix_eq h hpre
  | settle runId => cases h

/-- An operation learns its device from the row that it deletes. -/
theorem key_snoc {log : List (EngineEvent E)} {e : EngineEvent E}
    (h : task.key (log ++ [e]) = some k) :
    task.key log = some k ∨ ∃ row, deletedRow e = some row ∧ row.key = k := by
  cases task with
  | settle runId => cases h
  | engine task =>
    cases task with
    | chain env => exact .inl h
    | tick limit => cases h
    | resume row => exact .inl h
    | scriptResult token ok detail =>
      obtain ⟨row, hrow, hkey⟩ := Option.map_eq_some_iff.mp h
      have hfind : (log ++ [e]).findSome? deletedRow = some row := hrow
      rw [findSome?_append] at hfind
      rcases hlog : log.findSome? deletedRow with _ | row'
      · rw [hlog] at hfind
        exact .inr ⟨row, by simpa using hfind, hkey⟩
      · rw [hlog] at hfind
        obtain rfl : row' = row := Option.some.inj hfind
        exact .inl (Option.map_eq_some_iff.mpr ⟨row', hlog, hkey⟩)

variable {u : Except JsError Unit}

theorem upsert_key (hcall : RunCall l.task l.past l.event.call) {row : RunResultRow}
    (hevent : l.event = ⟨.upsertRunResult row, u⟩) : l.task.key l.past = some row.key := by
  rw [hevent] at hcall
  cases htask : l.task with
  | settle runId =>
    rw [htask] at hcall
    cases hcall
  | engine task =>
    rw [htask] at hcall
    obtain ⟨k, hkey, hrow, -⟩ := hcall
    exact hkey.trans (congrArg some hrow.symm)

theorem create_key (hcall : RunCall l.task l.past l.event.call) {data : PendingData}
    (hevent : l.event = ⟨.createPendingStep data, u⟩) : l.task.key l.past = some data.key := by
  rw [hevent] at hcall
  cases htask : l.task with
  | settle runId =>
    rw [htask] at hcall
    cases hcall
  | engine task =>
    rw [htask] at hcall
    obtain ⟨k, hkey, -, hdata⟩ := hcall
    exact hkey.trans (congrArg some hdata.symm)

theorem AtWork.step (h : AtWork cfg k) (hstep : Step (runSystem E) cfg l cfg')
    (hcall : RunCall l.task l.past l.event.call) :
    AtWork cfg' k ∨ ∃ row u, l.event = ⟨.upsertRunResult row, .ok u⟩ ∧ row.key = k := by
  obtain ⟨j, th, hj, hkey, hopen⟩ := h
  by_cases hself : j = l.thread
  · obtain ⟨rest, hrest⟩ := hstep.thread_before
    rw [hself, hrest] at hj
    obtain rfl := Option.some.inj hj
    by_cases hupsert : ∃ row u, l.event = ⟨.upsertRunResult row, .ok u⟩
    · obtain ⟨row, u, hevent⟩ := hupsert
      exact .inr ⟨row, u, hevent, Option.some.inj ((upsert_key hcall hevent).symm.trans hkey)⟩
    · obtain ⟨rest', hafter⟩ := hstep.thread_after
      refine .inl ⟨_, _, hafter, key_of_extends hkey (prefix_append _ _), ?_⟩
      show phaseOf _ = _ ∨ phaseOf _ = _
      rw [phaseOf_snoc]
      rcases hevent : l.event with ⟨c, e | a⟩
      · rw [after_error]
        exact hopen
      · cases c
        case upsertRunResult row => exact absurd ⟨row, a, hevent⟩ hupsert
        case createPendingStep data => exact .inr rfl
        all_goals exact hopen
  · exact .inl ⟨j, th, hstep.thread_other hj hself, hkey, hopen⟩

end Threads

/-! ## What every state of a run keeps -/

section Invariants

variable {runId : String} {ids : List String}
  {cfg cfg' : Config (engineSig E) JsError RunStore RunTask} {l : RunLabel E}

/-- Whatever the tables and the threads hold for the run is for one of its
devices, and the row of a resume that a tick has started is claimed. -/
structure Within (runId : String) (ids : List String)
    (cfg : Config (engineSig E) JsError RunStore RunTask) : Prop where
  wellFormed : cfg.store.WellFormed
  keys : (cfg.store.results.map (·.key)).Nodup
  rows : ∀ r ∈ cfg.store.pending, ∀ d, r.key = (runId, d) → d ∈ ids
  results : ∀ row ∈ cfg.store.results, ∀ d, row.key = (runId, d) → d ∈ ids
  threads : ∀ th ∈ cfg.threads, ∀ d, th.task.key th.log = some (runId, d) → d ∈ ids
  timers : ∀ th ∈ cfg.threads, ∀ row, th.task = .engine (.resume row) →
    row.id < cfg.store.nextId ∧ ∀ r ∈ cfg.store.pending, r.id = row.id → r.claimed = true

/-- The row of a resume that a tick has started is claimed. -/
def TimersClaimed (cfg : Config (engineSig E) JsError RunStore RunTask) : Prop :=
  ∀ th ∈ cfg.threads, ∀ row, th.task = .engine (.resume row) →
    row.id < cfg.store.nextId ∧ ∀ r ∈ cfg.store.pending, r.id = row.id → r.claimed = true

/-- The device can still be resumed, or is being worked for, or is done. -/
def Accounted (cfg : Config (engineSig E) JsError RunStore RunTask) (k : ChainKey) : Prop :=
  HasRow cfg.store k ∨ AtWork cfg k ∨ DoneIn cfg.store k

variable {row : PendingRow} {e : EngineEvent E}

theorem taken_mem {s : RunStore} (hmay : s.toEngineStore.may e.call e.answer)
    (hrow : row ∈ takenRows e) : row ∈ s.pending := by
  rcases e with ⟨c, e | a⟩
  · cases c <;> simp [takenRows] at hrow
  · cases c
    case claimDueSteps limit => exact (hmay.2.2 row hrow).1
    case deleteByToken token =>
      cases a with
      | none => simp [takenRows] at hrow
      | some row' =>
        obtain rfl : row = row' := by simpa [takenRows] using hrow
        have hfind : some row = s.pending.find? fun r => r.pendingToken = some token := hmay
        exact mem_of_find?_eq_some hfind.symm
    all_goals simp [takenRows] at hrow

theorem deleted_taken (h : deletedRow e = some row) : row ∈ takenRows e := by
  rcases e with ⟨c, e | a⟩
  · cases c <;> cases h
  · cases c
    case deleteByToken token =>
      cases a with
      | none => cases h
      | some row' =>
        obtain rfl := Option.some.inj h
        exact mem_singleton.mpr rfl
    all_goals cases h

/-- A thread after a step is a thread before it with the event in its log, or
has just been started for a row that was claimed. -/
theorem mem_threads_step (hstep : Step (runSystem E) cfg l cfg')
    {th : Thread (engineSig E) JsError RunTask} (hth : th ∈ cfg'.threads) :
    (th.task = l.task ∧ th.log = l.past ++ [l.event] ∧
      ∃ k, (⟨l.task, l.past, k⟩ : Thread _ _ _) ∈ cfg.threads) ∨
    th ∈ cfg.threads ∨
    ∃ row ∈ takenRows l.event, deletedRow l.event = none ∧ th.task = .engine (.resume row) ∧
      th.log = [] := by
  obtain ⟨j, hj⟩ := mem_iff_getElem?.mp hth
  rcases hstep.thread_cases hj with ⟨rfl, htask, hlog, k, hk, -⟩ | ⟨-, hk⟩ | ⟨-, t, ht, rfl⟩
  · exact .inl ⟨htask, hlog, _, mem_of_getElem? hk⟩
  · exact .inr (.inl (mem_of_getElem? hk))
  · obtain ⟨task, htask, rfl⟩ := mem_map.mp (mem_of_getElem? ht)
    refine .inr (.inr ?_)
    rcases hevent : l.event with ⟨c, e | a⟩
    · rw [hevent] at htask
      cases c <;> cases htask
    · rw [hevent] at htask
      cases c
      case claimDueSteps limit =>
        obtain ⟨row, hrow, rfl⟩ := mem_map.mp htask
        exact ⟨row, hrow, rfl, rfl, rfl⟩
      all_goals cases htask

theorem TimersClaimed.step (h : TimersClaimed cfg) (hwf : cfg.store.WellFormed)
    (hstep : Step (runSystem E) cfg l cfg') : TimersClaimed cfg' := by
  have hmay : cfg.store.toEngineStore.may l.event.call l.event.answer := hstep.may.1
  have hstore : cfg'.store = cfg.store.next l.event.call l.event.answer := hstep.store_eq
  intro th hth row htask
  rw [hstore]
  have hold : row.id < cfg.store.nextId →
      (∀ r ∈ cfg.store.pending, r.id = row.id → r.claimed = true) →
      row.id < (cfg.store.toEngineStore.next l.event.call l.event.answer).nextId ∧
        ∀ r ∈ (cfg.store.toEngineStore.next l.event.call l.event.answer).pending,
          r.id = row.id → r.claimed = true := by
    intro hbelow hclaimed
    refine ⟨hbelow.trans_le (nextId_le_next _ l.event), fun r hr hid => ?_⟩
    rcases mem_pending_next hr with ⟨hnew, -⟩ | ⟨r₀, hr₀, hid₀, hkeep⟩
    · omega
    · exact hkeep (hclaimed r₀ hr₀ (hid₀.symm.trans hid))
  rcases mem_threads_step hstep hth with ⟨htask', -, k, hk⟩ | hmem | ⟨row', hrow', hnone, htask', -⟩
  · obtain ⟨hbelow, hclaimed⟩ := h _ hk row (htask'.symm.trans htask)
    exact hold hbelow hclaimed
  · obtain ⟨hbelow, hclaimed⟩ := h th hmem row htask
    exact hold hbelow hclaimed
  · obtain rfl : row' = row := by
      rw [htask'] at htask
      cases htask
      rfl
    have hmem := taken_mem hmay hrow'
    refine ⟨(hwf.below row' hmem).trans_le (nextId_le_next _ l.event), ?_⟩
    exact (taken_spec hwf hmay (by rw [hnone]; nofun) hrow').2

theorem Within.step (h : Within runId ids cfg) (hstep : Step (runSystem E) cfg l cfg')
    (hcall : RunCall l.task l.past l.event.call) : Within runId ids cfg' := by
  have hmay : cfg.store.toEngineStore.may l.event.call l.event.answer := hstep.may.1
  have hstore : cfg'.store = cfg.store.next l.event.call l.event.answer := hstep.store_eq
  have hself : ∀ d, l.task.key l.past = some (runId, d) → d ∈ ids := by
    obtain ⟨k, hk⟩ := hstep.thread_before
    exact h.threads _ (mem_of_getElem? hk)
  constructor
  · rw [hstore]
    exact h.wellFormed.next hmay
  · by_cases hupsert : ∃ row u, l.event = ⟨.upsertRunResult row, .ok u⟩
    · obtain ⟨row, u, hevent⟩ := hupsert
      rw [hstore, hevent]
      exact nodup_upsertResult h.keys
    · rw [hstore, results_next_of_not_upsert fun row u heq => hupsert ⟨row, u, heq⟩]
      exact h.keys
  · intro r hr d hkey
    rw [hstore] at hr
    rcases key_of_mem_next hr with ⟨data, u, hevent, hdata⟩ | ⟨r₀, hr₀, hr₀k⟩
    · exact hself d ((create_key hcall hevent).trans (congrArg some (hdata.trans hkey)))
    · exact h.rows r₀ hr₀ d (hr₀k.trans hkey)
  · intro row hrow d hkey
    by_cases hupsert : ∃ row u, l.event = ⟨.upsertRunResult row, .ok u⟩
    · obtain ⟨row', u, hevent⟩ := hupsert
      rw [hstore, hevent] at hrow
      rcases mem_upsertResult.mp hrow with rfl | ⟨hrow, -⟩
      · exact hself d ((upsert_key hcall hevent).trans (congrArg some hkey))
      · exact h.results row hrow d hkey
    · rw [hstore, results_next_of_not_upsert fun row u heq => hupsert ⟨row, u, heq⟩] at hrow
      exact h.results row hrow d hkey
  · intro th hth d hkey
    rcases mem_threads_step hstep hth with ⟨htask, hlog, -⟩ | hold | ⟨row, hrow, -, htask, hlog⟩
    · rw [htask, hlog] at hkey
      rcases key_snoc hkey with hkey | ⟨row, hrow, hkey⟩
      · exact hself d hkey
      · exact h.rows row (taken_mem hmay (deleted_taken hrow)) d hkey
    · exact h.threads th hold d hkey
    · rw [htask] at hkey
      exact h.rows row (taken_mem hmay hrow) d (Option.some.inj hkey)
  · exact TimersClaimed.step h.timers h.wellFormed hstep

/-- A row that is handed to a resume has a thread that works for its device. -/
theorem held_of_taken (hstep : Step (runSystem E) cfg l cfg')
    (hcall : RunCall l.task l.past l.event.call)
    (hrow : row ∈ takenRows l.event) : Held cfg' row.key := by
  rcases hevent : l.event with ⟨c, e | a⟩
  · rw [hevent] at hrow
    cases c <;> simp [takenRows] at hrow
  · rw [hevent] at hrow hcall
    cases c
    case claimDueSteps limit =>
      have hstarted : (runSystem E).start (.engine (.resume row)) ∈ cfg'.threads := by
        refine hstep.thread_started ?_
        rw [hevent]
        exact mem_map_of_mem (mem_map_of_mem hrow)
      exact ⟨_, hstarted, rfl, rfl, rfl⟩
    case deleteByToken token =>
      obtain ⟨rest, hafter⟩ := hstep.thread_after
      cases a with
      | none => simp [takenRows] at hrow
      | some row' =>
        obtain rfl : row = row' := by simpa [takenRows] using hrow
        cases htask : l.task with
        | settle runId =>
          rw [htask] at hcall
          cases hcall
        | engine task =>
          rw [htask] at hcall
          obtain ⟨hpast, token', ok, detail, rfl⟩ := hcall
          rw [htask, hpast, hevent] at hafter
          exact ⟨_, mem_of_getElem? hafter, rfl, rfl, rfl⟩
    all_goals simp [takenRows] at hrow

theorem atWork_of_taken (hstep : Step (runSystem E) cfg l cfg')
    (hcall : RunCall l.task l.past l.event.call)
    (hrow : row ∈ takenRows l.event) : AtWork cfg' row.key := by
  obtain ⟨th, hth, -, hkey, hrunning⟩ := held_of_taken hstep hcall hrow
  obtain ⟨j, hj⟩ := mem_iff_getElem?.mp hth
  exact ⟨j, th, hj, hkey, .inl hrunning⟩

/-- A row that can be taken stays until an operation takes it: only the timer
path deletes a row by its id, and has claimed it. -/
theorem HasRow.step {k : ChainKey} (h : HasRow cfg.store k) (hwf : cfg.store.WellFormed)
    (htimers : TimersClaimed cfg) (hstep : Step (runSystem E) cfg l cfg')
    (hcall : RunCall l.task l.past l.event.call) :
    HasRow cfg'.store k ∨ ∃ row ∈ takenRows l.event, row.key = k := by
  have hmay : cfg.store.toEngineStore.may l.event.call l.event.answer := hstep.may.1
  rw [hstep.store_eq]
  rcases h.next hwf hmay with hrow | htaken | ⟨id, u, hevent, r, hr, hid, hfree⟩
  · exact .inl hrow
  · exact .inr htaken
  · obtain ⟨k, hk⟩ := hstep.thread_before
    rw [hevent] at hcall
    cases htask : l.task with
    | settle runId =>
      rw [htask] at hcall
      cases hcall
    | engine task =>
      rw [htask] at hcall
      obtain ⟨-, row, rfl, hrowid⟩ := hcall
      have hclaimed := (htimers _ (mem_of_getElem? hk) row htask).2 r hr
        (hid.trans hrowid.symm)
      rw [hfree] at hclaimed
      cases hclaimed

theorem Accounted.step {d : String} (h : Accounted cfg (runId, d)) (hwithin : Within runId ids cfg)
    (hstep : Step (runSystem E) cfg l cfg') (hcall : RunCall l.task l.past l.event.call)
    {tr : List (RunLabel E)} (hcond : Undisturbed runId tr cfg.store l) :
    Accounted cfg' (runId, d) := by
  have hstore : cfg'.store = cfg.store.next l.event.call l.event.answer := hstep.store_eq
  have hrecorded : (∃ row u, l.event = ⟨.upsertRunResult row, .ok u⟩ ∧ row.key = (runId, d)) →
      Accounted cfg' (runId, d) := by
    rintro ⟨row, u, hevent, hkey⟩
    cases hstatus : row.status with
    | done =>
      refine .inr (.inr ⟨row, ?_, hkey, hstatus⟩)
      rw [hstore, hevent]
      exact mem_upsertResult.mpr (.inl rfl)
    | waiting =>
      obtain ⟨r, hr, hrk, hfree⟩ := hcond.waiting row u hevent (Prod.mk.inj hkey).1 hstatus
      refine .inl ⟨r, ?_, hrk.trans hkey, hfree⟩
      rw [hstore, hevent]
      exact hr
  rcases h with hrow | hwork | hdone
  · rcases hrow.step hwithin.wellFormed hwithin.timers hstep hcall with hrow | ⟨row, hrow, hkey⟩
    · exact .inl hrow
    · exact .inr (.inl (hkey ▸ atWork_of_taken hstep hcall hrow))
  · rcases hwork.step hstep hcall with hwork | hupsert
    · exact .inr (.inl hwork)
    · exact hrecorded hupsert
  · rcases hdone.next (e := l.event) with hdone | hupsert
    · exact .inr (.inr (hstore ▸ hdone))
    · exact hrecorded hupsert

end Invariants

end AppliverySoar.Workflows
