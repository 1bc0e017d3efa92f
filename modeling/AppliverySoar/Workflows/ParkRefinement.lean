import AppliverySoar.Workflows.ParkBoard
import AppliverySoar.Workflows.TaskCalls

/-!
# The engine refines the board

`boardOf` reads a board off a configuration and its trace. A step that takes
rows only where `Orderly` lets it is a step of that board.

Results:
* `boardStep_of_step`: a step of the engine is a step of the board.
-/

namespace AppliverySoar.Workflows

open Async Compliance List

variable {E : Evaluator} {cfg : Config (engineSig E) JsError EngineStore EngineTask}
  {tr : List (EngineLabel E)} {k : ChainKey}

/-! ## Statements about a trace -/

/-- The row of a parking chain is inserted. -/
def Inserts (k : ChainKey) (e : EngineEvent E) : Prop :=
  ∃ data u, e = ⟨.createPendingStep data, .ok u⟩ ∧ data.key = k

/-- A result is recorded. -/
def Records (k : ChainKey) (status : ResultStatus) (e : EngineEvent E) : Prop :=
  ∃ row u, e = ⟨.upsertRunResult row, .ok u⟩ ∧ row.key = k ∧ row.status = status

/-- A row of `k` has been inserted, and `'waiting'` has not been recorded since. -/
def Parking (k : ChainKey) (tr : List (EngineLabel E)) : Prop :=
  ∃ pre l post, tr = pre ++ l :: post ∧ Inserts k l.event ∧
    ∀ l' ∈ post, ¬Records k .waiting l'.event

/-- Where the code keeps results and rows together: a row is taken after its
chain has recorded that it waits, a script result does not take a claimed
row, no result fails to be recorded, and a script result that has taken its
row finds what it looks up. -/
structure Orderly (tr : List (EngineLabel E)) (s : EngineStore) (l : EngineLabel E) : Prop where
  claims : ClaimRespected tr s l
  parked : ∀ row ∈ takenRows l.event, ¬Parking row.key tr
  upserts : ∀ row e, l.event ≠ ⟨.upsertRunResult row, .error e⟩
  lookups : ∀ token ok detail c e, l.task = .scriptResult token ok detail → c.looksUp = true →
    NoBegin l.past → l.event ≠ ⟨c, .error e⟩

theorem parking_snoc {l : EngineLabel E} :
    Parking k (tr ++ [l]) ↔ Inserts k l.event ∨ (¬Records k .waiting l.event ∧ Parking k tr) := by
  constructor
  · rintro ⟨pre, l', post, htr, hins, hpost⟩
    rcases eq_nil_or_concat post with rfl | ⟨post, x, rfl⟩
    · obtain ⟨-, hl⟩ := append_inj' htr rfl
      cases hl
      exact .inl hins
    · have htr' : tr ++ [l] = (pre ++ l' :: post) ++ [x] := by simpa using htr
      obtain ⟨heq, hx⟩ := append_inj' htr' rfl
      cases hx
      exact .inr ⟨hpost l (by simp), pre, l', post, heq, hins, fun l'' h => hpost l'' (by simp [h])⟩
  · rintro (hins | ⟨hwait, pre, l', post, rfl, hins, hpost⟩)
    · exact ⟨tr, l, [], by simp, hins, by simp⟩
    · refine ⟨pre, l', post ++ [l], by simp, hins, fun l'' h => ?_⟩
      rcases mem_append.mp h with h | h
      · exact hpost l'' h
      · rw [mem_singleton.mp h]
        exact hwait

/-! ## The board of a configuration -/

/-- The key and the phase of an operation. -/
def actorOf (task : EngineTask) (log : List (EngineEvent E)) : Option (ChainKey × ChainPhase) :=
  (taskKey task log).map fun k => (k, phaseOf log)

/-- The claimed row that an operation resumes. -/
def timerOf : EngineTask → Option PendingRow
  | .resume row => some row
  | _ => none

/-- The board after the trace `tr`. -/
def boardOf (tr : List (EngineLabel E))
    (cfg : Config (engineSig E) JsError EngineStore EngineTask) : Board where
  pending := cfg.store.pending
  results := cfg.store.results
  actor j := cfg.threads[j]?.bind fun th => actorOf th.task th.log
  timer j := cfg.threads[j]?.bind fun th => timerOf th.task
  parking k := Parking k tr
  done k := ∃ l ∈ tr, Records k .done l.event

theorem actorOf_eq_some {task : EngineTask} {log : List (EngineEvent E)}
    {p : ChainPhase} (hkey : taskKey task log = some k) (hphase : phaseOf log = p) :
    actorOf task log = some (k, p) := by
  rw [actorOf, hkey, ← hphase]
  rfl

theorem timer_holder {j : ℕ} {r : PendingRow}
    (h : (boardOf tr cfg).timer j = some r) : holder cfg j = some r := by
  obtain ⟨th, hth, hr⟩ := Option.bind_eq_some_iff.mp h
  refine Option.bind_eq_some_iff.mpr ⟨th, hth, ?_⟩
  cases htask : th.task with
  | resume row =>
    rw [htask] at hr
    exact hr
  | chain env =>
    rw [htask] at hr
    cases hr
  | tick limit =>
    rw [htask] at hr
    cases hr
  | scriptResult token ok detail =>
    rw [htask] at hr
    cases hr

theorem tables_boardOf (h : ResumeInv cfg) :
    (boardOf tr cfg).Tables where
  ids _ hr _ hr' hid := h.store.eq_of_id hr hr' hid
  taken j r' hj := h.taken j r' (timer_holder hj)
  once i j _ _ hi hj := h.once i j _ _ (timer_holder hi) (timer_holder hj)

section Steps

variable {tr : List (EngineLabel E)} {l : EngineLabel E}
  {cfg cfg' : Config (engineSig E) JsError EngineStore EngineTask} {c : EngineCall}

theorem actor_thread (tr : List (EngineLabel E)) (hstep : Step (engineSystem E) cfg l cfg') :
    (boardOf tr cfg).actor l.thread = actorOf l.task l.past := by
  obtain ⟨k, hk⟩ := hstep.thread_before
  show cfg.threads[l.thread]?.bind _ = _
  rw [hk]
  rfl

theorem timer_thread (tr : List (EngineLabel E)) (hstep : Step (engineSystem E) cfg l cfg') :
    (boardOf tr cfg).timer l.thread = timerOf l.task := by
  obtain ⟨k, hk⟩ := hstep.thread_before
  show cfg.threads[l.thread]?.bind _ = _
  rw [hk]
  rfl

theorem getElem?_threads_of_no_starts (hstep : Step (engineSystem E) cfg l cfg')
    (hstarts : resumesOf l.event.call l.event.answer = []) : ∃ rest, ∀ j, cfg'.threads[j]? =
      if j = l.thread then some ⟨l.task, l.past ++ [l.event], rest⟩ else cfg.threads[j]? := by
  obtain ⟨rest, hrest⟩ := hstep.getElem?_threads
  refine ⟨rest, fun j => (hrest j).trans ?_⟩
  split_ifs with hj hlen
  · rfl
  · rfl
  · have hnone : (engineSystem E).starts l.event.call l.event.answer = [] := hstarts
    have hle : cfg.threads.length ≤ j := by omega
    rw [hnone, getElem?_eq_none hle]
    rfl

theorem boardOf_snoc (tr : List (EngineLabel E)) (hstep : Step (engineSystem E) cfg l cfg')
    (hstarts : resumesOf l.event.call l.event.answer = []) : boardOf (tr ++ [l]) cfg' =
      { pending := (cfg.store.next l.event.call l.event.answer).pending
        results := (cfg.store.next l.event.call l.event.answer).results
        actor := fun j => if j = l.thread then actorOf l.task (l.past ++ [l.event])
          else (boardOf tr cfg).actor j
        timer := (boardOf tr cfg).timer
        parking := fun k => Inserts k l.event ∨ (¬Records k .waiting l.event ∧ Parking k tr)
        done := fun k => Records k .done l.event ∨ ∃ l' ∈ tr, Records k .done l'.event } := by
  obtain ⟨rest, hrest⟩ := getElem?_threads_of_no_starts hstep hstarts
  have hstore : cfg'.store = cfg.store.next l.event.call l.event.answer := hstep.store_eq
  unfold boardOf
  simp only [Board.mk.injEq]
  refine ⟨by rw [hstore], by rw [hstore], funext fun j => ?_, funext fun j => ?_, funext fun k => ?_,
    funext fun k => ?_⟩
  · rw [hrest j]
    split_ifs <;> rfl
  · rw [hrest j]
    split_ifs with hj
    · rw [hj]
      exact (timer_thread tr hstep).symm
    · rfl
  · exact propext parking_snoc
  · simp [or_comm]

/-! ## The engine refines the board -/

theorem taskKey_snoc {task : EngineTask} {log : List (EngineEvent E)} {e : EngineEvent E}
    (h : deletedRow e = none) : taskKey task (log ++ [e]) = taskKey task log := by
  cases task with
  | scriptResult token ok detail => simp [taskKey, resumedRow, findSome?_append, h]
  | chain env => rfl
  | tick limit => rfl
  | resume row => rfl

/-- An exchange that neither records nor takes anything. -/
structure Unnoticed (s : EngineStore) (e : EngineEvent E) : Prop where
  pending : (s.next e.call e.answer).pending = s.pending
  results : (s.next e.call e.answer).results = s.results
  starts : resumesOf e.call e.answer = []
  deleted : deletedRow e = none
  phase : ∀ phase : ChainPhase, phase.after e = phase
  inserts : ∀ k, ¬Inserts k e
  records : ∀ k status, ¬Records k status e

theorem unnoticed_error (s : EngineStore) (c : EngineCall) (e : JsError) :
    Unnoticed (E := E) s ⟨c, .error e⟩ where
  pending := by rw [next_error]
  results := by rw [next_error]
  starts := by cases c <;> rfl
  deleted := by cases c <;> rfl
  phase phase := after_error phase c e
  inserts k h := by obtain ⟨data, u, heq, -⟩ := h; cases c <;> cases heq
  records k status h := by obtain ⟨row, u, heq, -⟩ := h; cases c <;> cases heq

theorem unnoticed_quiet (s : EngineStore) (h : Quiet c)
    (r : Except JsError (c.Answer E)) : Unnoticed (E := E) s ⟨c, r⟩ where
  pending := pending_quiet s h r
  results := by cases c <;> first | (cases r <;> rfl) | cases h
  starts := by cases c <;> first | (cases r <;> rfl) | cases h
  deleted := by cases c <;> first | (cases r <;> rfl) | cases h
  phase phase := after_quiet r h
  inserts k hk := by obtain ⟨data, u, heq, -⟩ := hk; cases heq; cases h
  records k status hk := by obtain ⟨row, u, heq, -⟩ := hk; cases heq; cases h

theorem boardOf_unnoticed (hstep : Step (engineSystem E) cfg l cfg')
    (h : Unnoticed cfg.store l.event) : boardOf (tr ++ [l]) cfg' = boardOf tr cfg := by
  rw [boardOf_snoc tr hstep h.starts, h.pending, h.results]
  unfold boardOf
  simp only [Board.mk.injEq, true_and]
  refine ⟨funext fun j => ?_, funext fun k => ?_, funext fun k => ?_⟩
  · split_ifs with hj
    · rw [hj, actorOf, taskKey_snoc h.deleted, phaseOf_snoc, h.phase]
      exact (actor_thread tr hstep).symm
    · rfl
  · simp [h.inserts, h.records]
  · simp [h.records]

variable {u : Unit}

theorem not_inserts {r : Except JsError (c.Answer E)} (k : ChainKey)
    (h : ∀ data, c ≠ .createPendingStep data) : ¬Inserts k ⟨c, r⟩ := by
  rintro ⟨data, u, heq, -⟩
  cases heq
  exact h data rfl

theorem not_records {r : Except JsError (c.Answer E)} (k : ChainKey)
    (status : ResultStatus) (h : ∀ row, c ≠ .upsertRunResult row) : ¬Records k status ⟨c, r⟩ := by
  rintro ⟨row, u, heq, -⟩
  cases heq
  exact h row rfl

theorem boardStep_create (hstep : Step (engineSystem E) cfg l cfg')
    (hcall : TaskCall l.task l.past l.event.call) {data : PendingData}
    (hevent : l.event = ⟨.createPendingStep data, .ok u⟩) :
    Board.Step (boardOf tr cfg) (boardOf (tr ++ [l]) cfg') := by
  obtain ⟨i, task, past, event⟩ := l
  subst hevent
  obtain ⟨k, hkey, hphase, hdata⟩ := hcall
  have hboard : boardOf (tr ++ [⟨i, task, past, ⟨.createPendingStep data, .ok u⟩⟩]) cfg' =
      { boardOf tr cfg with
        pending := (boardOf tr cfg).pending ++ [{ toPendingData := data, id := cfg.store.nextId }]
        actor := (boardOf tr cfg).move i k .created
        parking := fun k' => k' = k ∨ (boardOf tr cfg).parking k' } := by
    have hinserts : ∀ k', Inserts k' (⟨.createPendingStep data, .ok u⟩ : EngineEvent E) ↔ k' = k := by
      intro k'
      constructor
      · rintro ⟨data', u', heq, rfl⟩
        cases heq
        exact hdata
      · rintro rfl
        exact ⟨data, u, rfl, hdata⟩
    rw [boardOf_snoc tr hstep rfl]
    unfold boardOf
    simp only [Board.mk.injEq, true_and, hinserts, not_records, ne_eq, reduceCtorEq,
      not_false_eq_true, implies_true, false_or, and_true]
    refine ⟨rfl, rfl, funext fun j => ?_⟩
    unfold Board.move
    split_ifs with hj
    · rw [actorOf, taskKey_snoc rfl, hkey, phaseOf_snoc]
      rfl
    · rfl
  rw [hboard]
  exact .create i k _ ((actor_thread tr hstep).trans (actorOf_eq_some hkey hphase)) hdata rfl

theorem boardStep_upsert (hstep : Step (engineSystem E) cfg l cfg')
    (hcall : TaskCall l.task l.past l.event.call) (hclean : ¬RecordRejected l.past)
    {row : RunResultRow} (hevent : l.event = ⟨.upsertRunResult row, .ok u⟩) :
    Board.Step (boardOf tr cfg) (boardOf (tr ++ [l]) cfg') := by
  obtain ⟨i, task, past, event⟩ := l
  subst hevent
  obtain ⟨k, hkey, hrow, hwaiting, hdone⟩ := hcall
  have hrecords : ∀ k' status, Records k' status (⟨.upsertRunResult row, .ok u⟩ : EngineEvent E) ↔
      k' = k ∧ row.status = status := by
    intro k' status
    constructor
    · rintro ⟨row', u', heq, rfl, rfl⟩
      cases heq
      exact ⟨hrow, rfl⟩
    · rintro ⟨rfl, hstatus⟩
      exact ⟨row, u, rfl, hrow, hstatus⟩
  have hbefore : (boardOf tr cfg).actor i = some (k, phaseOf past) :=
    (actor_thread tr hstep).trans (actorOf_eq_some hkey rfl)
  have hafter : actorOf task (past ++ [⟨.upsertRunResult row, .ok u⟩]) =
      some (k, (phaseOf past).record row.status) :=
    actorOf_eq_some ((taskKey_snoc rfl).trans hkey) (phaseOf_snoc _ _)
  have hboard := boardOf_snoc tr hstep rfl
  cases hstatus : row.status with
  | waiting =>
    have heq : boardOf (tr ++ [⟨i, task, past, ⟨.upsertRunResult row, .ok u⟩⟩]) cfg' =
        { boardOf tr cfg with
          results := upsertResult row (boardOf tr cfg).results
          actor := (boardOf tr cfg).move i k .parked
          parking := fun k' => k' ≠ k ∧ (boardOf tr cfg).parking k' } := by
      rw [hboard]
      unfold boardOf
      simp only [Board.mk.injEq, not_inserts, ne_eq, not_false_eq_true, implies_true, hrecords, hstatus,
        and_true, false_or, reduceCtorEq, and_false]
      refine ⟨rfl, rfl, funext fun j => ?_⟩
      unfold Board.move
      split_ifs with hj
      · rw [hafter, hstatus]
        rfl
      · rfl
    rw [heq]
    exact .wait i k row (hwaiting hstatus ▸ hbefore) hrow hstatus
  | done =>
    have hphase : phaseOf past = .running ∨ phaseOf past = .recorded := by
      rcases hdone hstatus with h | h | ⟨_, h⟩
      · exact .inl h
      · exact .inr h
      · exact absurd h.recordRejected hclean
    have heq : boardOf (tr ++ [⟨i, task, past, ⟨.upsertRunResult row, .ok u⟩⟩]) cfg' =
        { boardOf tr cfg with
          results := upsertResult row (boardOf tr cfg).results
          actor := (boardOf tr cfg).move i k .recorded
          done := fun k' => k' = k ∨ (boardOf tr cfg).done k' } := by
      rw [hboard]
      unfold boardOf
      simp only [Board.mk.injEq, true_and, not_inserts, ne_eq, implies_true, hrecords, hstatus, and_true,
        false_or, reduceCtorEq, and_false, not_false_eq_true]
      refine ⟨rfl, rfl, funext fun j => ?_⟩
      unfold Board.move
      split_ifs with hj
      · rw [hafter, hstatus]
        rcases hphase with h | h <;> rw [h] <;> rfl
      · rfl
    rw [heq]
    exact .finish i k _ row hbefore hphase hrow hstatus

theorem boardStep_discard (hstep : Step (engineSystem E) cfg l cfg')
    (hcall : TaskCall l.task l.past l.event.call) (hclean : ¬RecordRejected l.past)
    {id : ℕ} (hevent : l.event = ⟨.deletePendingStep id, .ok u⟩) :
    Board.Step (boardOf tr cfg) (boardOf (tr ++ [l]) cfg') := by
  obtain ⟨i, task, past, event⟩ := l
  subst hevent
  obtain ⟨hend, row, rfl, rfl⟩ := hcall
  have hphase : phaseOf past = .parked ∨ phaseOf past = .recorded := by
    rcases hend with h | h | h
    · exact .inl h
    · exact .inr h
    · exact absurd h hclean
  have hboard : boardOf (tr ++ [⟨i, .resume row, past, ⟨.deletePendingStep row.id, .ok u⟩⟩]) cfg' =
      { boardOf tr cfg with pending := (boardOf tr cfg).pending.filter fun r => r.id ≠ row.id } := by
    rw [boardOf_snoc tr hstep rfl]
    unfold boardOf
    simp only [Board.mk.injEq, true_and, not_inserts, not_records, ne_eq, reduceCtorEq,
      not_false_eq_true, implies_true, false_or, and_true]
    refine ⟨rfl, rfl, funext fun j => ?_⟩
    split_ifs with hj
    · rw [hj]
      refine Eq.trans ?_ (actor_thread tr hstep).symm
      rw [actorOf, taskKey_snoc rfl, phaseOf_snoc]
      rfl
    · rfl
  rw [hboard]
  exact .discard i row _ (timer_thread tr hstep) (actor_thread tr hstep) hphase

theorem boardOf_start (tr : List (EngineLabel E)) (hinserts : ∀ k, ¬Inserts k l.event)
    (hrecords : ∀ k status, ¬Records k status l.event)
    (hresults : cfg'.store.results = cfg.store.results)
    (hactor : ∀ j, (boardOf (tr ++ [l]) cfg').actor j =
      (boardOf tr cfg).started (newRow cfg.threads.length l) j) :
    boardOf (tr ++ [l]) cfg' = { boardOf tr cfg with
      pending := cfg'.store.pending
      actor := (boardOf tr cfg).started (newRow cfg.threads.length l)
      timer := (boardOf (tr ++ [l]) cfg').timer } := by
  have hparking : (boardOf (tr ++ [l]) cfg').parking = (boardOf tr cfg).parking := by
    funext k
    show Parking k (tr ++ [l]) = Parking k tr
    rw [parking_snoc]
    simp [hinserts, hrecords]
  have hdone : (boardOf (tr ++ [l]) cfg').done = (boardOf tr cfg).done := by
    funext k
    simp [boardOf, hrecords]
  exact Board.ext rfl hresults (funext hactor) rfl hparking hdone

theorem boardStep_claim (hinv : ResumeInv cfg) (hstep : Step (engineSystem E) cfg l cfg')
    (hcall : TaskCall l.task l.past l.event.call)
    (hpark : ∀ row ∈ takenRows l.event, ¬Parking row.key tr) {limit : ℕ} {rows : List PendingRow}
    (hevent : l.event = ⟨.claimDueSteps limit, .ok rows⟩) :
    Board.Step (boardOf tr cfg) (boardOf (tr ++ [l]) cfg') := by
  obtain ⟨i, task, past, event⟩ := l
  subst hevent
  have hmay : cfg.store.may (.claimDueSteps limit) (.ok rows) := hstep.may
  have hrows : ∀ r ∈ rows, r ∈ cfg.store.pending ∧ r.claimed = false := hmay.2.2
  have hlt := hstep.thread_lt
  obtain ⟨limit', rfl⟩ : ∃ limit', task = .tick limit' := hcall
  have hstore := hstep.store_eq
  have hpending : cfg'.store.pending = claimRows (rows.map (·.id)) cfg.store.pending :=
    congrArg EngineStore.pending hstore
  set l : EngineLabel E := ⟨i, .tick limit', past, ⟨.claimDueSteps limit, .ok rows⟩⟩
  have hnew : ∀ j, newRow cfg.threads.length l j =
      if cfg.threads.length ≤ j then rows[j - cfg.threads.length]? else none := fun _ => rfl
  obtain ⟨rest, hthreads⟩ := hstep.getElem?_threads
  have hresumes : ∀ j : ℕ, ((engineSystem E).starts l.event.call l.event.answer)[j]? =
      rows[j]?.map .resume := fun _ => getElem?_map
  have hactor : ∀ j, (boardOf (tr ++ [l]) cfg').actor j =
      (boardOf tr cfg).started (newRow cfg.threads.length l) j := by
    intro j
    show cfg'.threads[j]?.bind _ = _
    rw [hthreads j, hresumes]
    split_ifs with hj hlen
    · rw [Board.started_of_none (by rw [hnew, if_neg (by omega)]), hj, actor_thread tr hstep]
      rfl
    · rw [Board.started_of_none (by rw [hnew, if_neg (by omega)])]
      rfl
    · have hle : cfg.threads.length ≤ j := by omega
      cases hr : rows[j - cfg.threads.length]? with
      | none =>
        rw [Board.started_of_none (by rw [hnew, if_pos hle, hr])]
        show none = cfg.threads[j]?.bind _
        rw [getElem?_eq_none hle]
        rfl
      | some r =>
        rw [Board.started, hnew, if_pos hle, hr]
        rfl
  have hstart : (boardOf tr cfg).Start rows (newRow cfg.threads.length l) cfg'.store.pending
      (boardOf (tr ++ [l]) cfg').timer := by
    constructor
    · intro r hr
      exact ⟨(hrows r hr).1, (hrows r hr).2, hpark r hr⟩
    · intro j r hj
      rw [hnew] at hj
      split_ifs at hj
      exact mem_of_getElem? hj
    · intro i j r hi hj
      exact newRow_inj hinv.store hmay hi hj rfl
    · intro r hr
      obtain ⟨i, hi⟩ := mem_iff_getElem?.mp hr
      refine ⟨cfg.threads.length + i, ?_⟩
      rw [hnew, if_pos (by omega), ← hi]
      congr 1
      omega
    · intro j r hj
      rw [hnew] at hj
      split_ifs at hj with hle
      have hnone := getElem?_eq_none hle
      constructor <;>
      · show cfg.threads[j]?.bind _ = none
        rw [hnone]
        rfl
    · intro r hr hclaimed
      rw [hpending] at hr
      obtain ⟨r₀, hr₀, rfl⟩ := mem_claimRows.mp hr
      by_cases hid : r₀.id ∈ rows.map (·.id)
      · rw [if_pos hid] at hclaimed
        cases hclaimed
      · rw [if_neg hid]
        exact ⟨hr₀, fun hmem => hid (mem_map_of_mem hmem)⟩
    · intro r hr hnot
      rw [hpending]
      refine mem_claimRows.mpr ⟨r, hr, ?_⟩
      rw [if_neg]
      intro hid
      obtain ⟨r', hr', hid'⟩ := mem_map.mp hid
      rw [hinv.store.eq_of_id (hrows r' hr').1 hr hid'] at hr'
      exact hnot hr'
    · intro j r hj
      change cfg'.threads[j]?.bind _ = _ at hj
      rw [hthreads j, hresumes] at hj
      split_ifs at hj with h hlen
      · cases hj
      · exact .inl hj
      · have hle : cfg.threads.length ≤ j := by omega
        obtain ⟨r', hr', rfl⟩ : ∃ r', rows[j - cfg.threads.length]? = some r' ∧ r' = r := by
          simpa [System.start, timerOf, Option.bind_eq_some_iff] using hj
        have hmem := mem_of_getElem? hr'
        refine .inr ⟨by rw [hnew, if_pos hle, hr'], { r' with claimed := true }, ?_, rfl, rfl⟩
        rw [hpending]
        refine mem_claimRows.mpr ⟨r', (hrows r' hmem).1, ?_⟩
        rw [if_pos (mem_map_of_mem hmem)]
  rw [boardOf_start tr ?_ ?_ ?_ hactor]
  · exact .start rows _ _ _ hstart
  · exact fun k => not_inserts k (by simp)
  · exact fun k status => not_records k status (by simp)
  · exact hstore ▸ rfl

theorem boardStep_take (hinv : ResumeInv cfg) (hstep : Step (engineSystem E) cfg l cfg')
    (hcall : TaskCall l.task l.past l.event.call)
    (hclaims : ∀ row, deletedRow l.event = some row → row.claimed = false)
    (hpark : ∀ row ∈ takenRows l.event, ¬Parking row.key tr) {token : String}
    {row? : Option PendingRow} (hevent : l.event = ⟨.deleteByToken token, .ok row?⟩) :
    Board.Step (boardOf tr cfg) (boardOf (tr ++ [l]) cfg') := by
  obtain ⟨i, task, past, event⟩ := l
  subst hevent
  have hmay : cfg.store.may (.deleteByToken token) (.ok row?) := hstep.may
  have hfind : row? = cfg.store.pending.find? fun r => r.pendingToken = some token := hmay
  obtain ⟨rfl, token', ok, detail, rfl⟩ : past = [] ∧ ∃ token' ok detail,
      task = .scriptResult token' ok detail := hcall
  have hstore := hstep.store_eq
  have hpending : cfg'.store.pending =
      cfg.store.pending.filter fun r => r.pendingToken ≠ some token :=
    congrArg EngineStore.pending hstore
  set l : EngineLabel E := ⟨i, .scriptResult token' ok detail, [], ⟨.deleteByToken token, .ok row?⟩⟩
  have hnew : ∀ j, newRow cfg.threads.length l j = if j = i then row? else none := fun _ => rfl
  obtain ⟨rest, hthreads⟩ := getElem?_threads_of_no_starts hstep rfl
  have hbefore : (boardOf tr cfg).actor i = none := actor_thread tr hstep
  have htimers : ∀ j, (boardOf (tr ++ [l]) cfg').timer j = (boardOf tr cfg).timer j := by
    intro j
    show cfg'.threads[j]?.bind _ = _
    rw [hthreads j]
    split_ifs with hj
    · rw [hj, timer_thread tr hstep]
      rfl
    · rfl
  have hactor : ∀ j, (boardOf (tr ++ [l]) cfg').actor j =
      (boardOf tr cfg).started (newRow cfg.threads.length l) j := by
    intro j
    show cfg'.threads[j]?.bind _ = _
    rw [hthreads j]
    split_ifs with hj
    · rw [Board.started, hnew, if_pos hj, hj, hbefore]
      cases row? <;> rfl
    · rw [Board.started_of_none (by rw [hnew, if_neg hj])]
      rfl
  have hrow : ∀ r, row? = some r → r ∈ cfg.store.pending ∧ r.pendingToken = some token := by
    intro r hr
    rw [hr] at hfind
    exact ⟨mem_of_find?_eq_some hfind.symm, by simpa using find?_some hfind.symm⟩
  have hstart : (boardOf tr cfg).Start row?.toList (newRow cfg.threads.length l)
      cfg'.store.pending (boardOf (tr ++ [l]) cfg').timer := by
    constructor
    · intro r hr
      have hr := Option.mem_toList.mp hr
      subst hr
      exact ⟨(hrow r rfl).1, hclaims r rfl, hpark r (mem_singleton.mpr rfl)⟩
    · intro j r hj
      rw [hnew] at hj
      split_ifs at hj
      exact Option.mem_toList.mpr hj
    · intro i j r hi hj
      exact newRow_inj hinv.store hmay hi hj rfl
    · intro r hr
      exact ⟨i, by rw [hnew, if_pos rfl]; exact Option.mem_toList.mp hr⟩
    · intro j r hj
      rw [hnew] at hj
      split_ifs at hj with h
      rw [h]
      exact ⟨hbefore, timer_thread tr hstep⟩
    · intro r hr _
      rw [hpending] at hr
      obtain ⟨hr, htoken⟩ := mem_filter.mp hr
      refine ⟨hr, fun hmem => ?_⟩
      simp [(hrow r (Option.mem_toList.mp hmem)).2] at htoken
    · intro r hr hnot
      rw [hpending]
      refine mem_filter.mpr ⟨hr, ?_⟩
      simp only [decide_eq_true_eq]
      intro htoken
      -- the row that was found has the same token, so it is this one
      cases hrow? : row? with
      | none =>
        rw [hrow?] at hfind
        exact absurd htoken (by simpa using find?_eq_none.mp hfind.symm r hr)
      | some r' =>
        obtain ⟨hr', htoken'⟩ := hrow r' hrow?
        rw [hinv.store.tokens r hr r' hr' token htoken htoken', hrow?] at hnot
        simp at hnot
    · intro j r hj
      rw [htimers] at hj
      exact .inl hj
  rw [boardOf_start tr ?_ ?_ ?_ hactor]
  · exact .start row?.toList _ _ _ hstart
  · exact fun k => not_inserts k (by simp)
  · exact fun k status => not_records k status (by simp)
  · exact hstore ▸ rfl

/-- **Refinement**: a step of the engine that meets `Orderly` is a step of the
board. -/
theorem boardStep_of_step (hinv : ResumeInv cfg) (hstep : Step (engineSystem E) cfg l cfg')
    (hcall : TaskCall l.task l.past l.event.call) (hclean : ¬RecordRejected l.past)
    (hcond : Orderly tr cfg.store l) : Board.Step (boardOf tr cfg) (boardOf (tr ++ [l]) cfg') := by
  have hunnoticed : Unnoticed cfg.store l.event →
      Board.Step (boardOf tr cfg) (boardOf (tr ++ [l]) cfg') := fun h => by
    rw [boardOf_unnoticed hstep h]
    exact .idle
  rcases hevent : l.event with ⟨c, e | a⟩
  · exact hunnoticed (hevent ▸ unnoticed_error cfg.store c e)
  · by_cases hquiet : Quiet c
    · exact hunnoticed (hevent ▸ unnoticed_quiet cfg.store hquiet _)
    · cases c
      case createPendingStep data => exact boardStep_create hstep hcall hevent
      case upsertRunResult row => exact boardStep_upsert hstep hcall hclean hevent
      case deletePendingStep id => exact boardStep_discard hstep hcall hclean hevent
      case claimDueSteps limit => exact boardStep_claim hinv hstep hcall hcond.parked hevent
      case deleteByToken token =>
        exact boardStep_take hinv hstep hcall hcond.claims hcond.parked hevent
      all_goals exact absurd rfl hquiet

end Steps

end AppliverySoar.Workflows
