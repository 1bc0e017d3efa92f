import AppliverySoar.Workflows.RunLedger
import Mathlib.Data.List.Dedup
import Mathlib.Data.List.Perm.Subperm

/-!
# A durable run completes

`launchWorkflowRun` takes the length of the list of devices for the run's
`total` (workflows.service.ts, lines 409–417), and `finalizeRunIfDone` compares
it with the number of result rows that are done, of which there is one for each
device id.

Results:
* `completed_iff`: once everything that works for a run has ended and no pending
  row of it remains, the run is completed with all its devices counted exactly
  where no device id is listed twice.
* `repeated_device_never_completes`: a run that stays open.
-/

namespace AppliverySoar.Workflows

open Async Compliance List

variable {E : Evaluator}

section Invariants

variable {runId : String} {ids : List String}
  {cfg cfg' : Config (engineSig E) JsError RunStore RunTask} {l : RunLabel E}

/-! ## Counting -/

/-- The row of the run is there, and whatever has counted its results has
counted as many as there are devices listed, and not more than there are
device ids. -/
structure Counts (runId : String) (ids : List String)
    (cfg : Config (engineSig E) JsError RunStore RunTask) : Prop where
  run : ∃ run, cfg.store.run runId = some run ∧ run.total = some ids.length ∧
    (run.completed = true → ids.length ≤ run.doneCount ∧ run.doneCount ≤ ids.dedup.length)
  found : ∀ th ∈ cfg.threads, ∀ total own, th.task.fin th.log = .found runId total own →
    total = some ids.length
  counted : ∀ th ∈ cfg.threads, ∀ n own, th.task.fin th.log = .counted runId n own →
    ids.length ≤ n ∧ n ≤ ids.dedup.length

theorem id_completeRow (runId : String) (n : ℕ) (results : List DeviceRunResult)
    (run : WorkflowRunRow) : (completeRow runId n results run).id = run.id := by
  unfold completeRow
  split_ifs <;> rfl

theorem run_complete (s : RunStore) (runId id : String) (n : ℕ) (results : List DeviceRunResult)
    (u : EngineCall.Answer E (.completeRun id n results)) :
    (s.next (.completeRun id n results) (.ok u)).run runId =
      (s.run runId).map (completeRow id n results) := by
  show (s.runs.map (completeRow id n results)).find? _ = _
  rw [find?_map]
  have hid : ((fun run : WorkflowRunRow => decide (run.id = runId)) ∘ completeRow id n results) =
      fun run => decide (run.id = runId) := by
    funext run
    rw [Function.comp_apply, id_completeRow]
  rw [hid]
  rfl

variable {e : EngineEvent E} {s : RunStore}

theorem run_next {run : WorkflowRunRow} (hrun : s.run runId = some run)
    (hmay : s.may e.call e.answer) :
    (s.next e.call e.answer).run runId = some run ∨
      ∃ n results u, e = ⟨.completeRun runId n results, .ok u⟩ ∧
        (s.next e.call e.answer).run runId =
          some { run with completed := true, doneCount := n, results := results } := by
  have hid : run.id = runId := by simpa using find?_some hrun
  rcases e with ⟨c, e | a⟩
  · left
    rw [← hrun]
    cases c <;> rfl
  · cases c
    case createRun row =>
      have hne : row.id ≠ runId := fun heq =>
        hmay.2 run (mem_of_find?_eq_some hrun) (hid.trans heq.symm)
      refine .inl ((find?_cons_of_neg ?_).trans hrun)
      simpa using hne
    case completeRun id n results =>
      have hnext := run_complete (E := E) s runId id n results a
      rw [hrun, Option.map_some, completeRow] at hnext
      by_cases heq : runId = id
      · subst heq
        rw [if_pos hid] at hnext
        exact .inr ⟨n, results, a, rfl, hnext⟩
      · rw [if_neg fun h => heq (hid.symm.trans h)] at hnext
        exact .inl hnext
    all_goals exact .inl hrun

/-- The devices of a run whose results are done. -/
def doneDevices (s : RunStore) (runId : String) : List String :=
  ((s.results.filter fun r => r.runId = runId).filter fun r => r.status = .done).map (·.deviceId)

theorem nodup_doneDevices (h : Within runId ids cfg) : (doneDevices cfg.store runId).Nodup := by
  have hkeys := h.keys.sublist ((filter_sublist (p := fun r => decide (r.status = .done))).trans
    (filter_sublist (p := fun r => decide (r.runId = runId)) (l := cfg.store.results)) |>.map
      (·.key))
  refine Nodup.of_map (fun d => (runId, d)) ?_
  rw [doneDevices, map_map]
  refine (map_congr_left fun r hr => ?_) ▸ hkeys
  have hrun := (mem_filter.mp (mem_filter.mp hr).1).2
  exact Prod.ext (of_decide_eq_true hrun) rfl

/-- The results of a run that are done are not more than its device ids. -/
theorem doneCount_le (h : Within runId ids cfg) :
    doneCount (cfg.store.results.filter fun r => r.runId = runId) ≤ ids.dedup.length := by
  have hsub : doneDevices cfg.store runId ⊆ ids.dedup := fun d hd => by
    obtain ⟨r, hr, rfl⟩ := mem_map.mp hd
    have hr' := mem_filter.mp (mem_filter.mp hr).1
    exact mem_dedup.mpr (h.results r hr'.1 _ (Prod.ext (of_decide_eq_true hr'.2) rfl))
  simpa [doneCount, doneDevices] using
    (subperm_of_subset (nodup_doneDevices h) hsub).length_le

/-- They are as many as its devices once all of these are done and none is
listed twice. -/
theorem le_doneCount (hnodup : ids.Nodup) (hdone : ∀ d ∈ ids, DoneIn cfg.store (runId, d)) :
    ids.length ≤ doneCount (cfg.store.results.filter fun r => r.runId = runId) := by
  have hsub : ids ⊆ doneDevices cfg.store runId := fun d hd => by
    obtain ⟨r, hr, hkey, hstatus⟩ := hdone d hd
    obtain ⟨hrun, rfl⟩ := Prod.mk.inj hkey
    refine mem_map.mpr ⟨r, mem_filter.mpr ⟨mem_filter.mpr ⟨hr, ?_⟩, ?_⟩, rfl⟩
    · exact decide_eq_true hrun
    · exact decide_eq_true hstatus
  simpa [doneCount, doneDevices] using (subperm_of_subset hnodup hsub).length_le

variable {phase : FinPhase} {tr : List (RunLabel E)} {own : Bool}

theorem after_found {total : Option ℕ}
    (h : phase.after e.call e.answer = .found runId total own) :
    phase = .found runId total own ∨
      ∃ run, e = ⟨.findRun runId, .ok (some run)⟩ ∧ run.total = total := by
  rcases e with ⟨c, r⟩
  cases c
  case findRun id =>
    rcases r with e | _ | run
    · cases h
    · cases h
    · simp only [FinPhase.after] at h
      split_ifs at h
      obtain ⟨rfl, htotal, -⟩ := FinPhase.found.inj h
      exact .inr ⟨run, rfl, htotal⟩
  case upsertRunResult row =>
    rcases r with e | u
    · cases h
    · simp only [FinPhase.after] at h
      split_ifs at h
  case findRunResults id =>
    rcases r with e | rows
    · cases h
    · simp only [FinPhase.after, FinPhase.count] at h
      split at h
      · split_ifs at h
      · cases h
  case completeRun id n results => cases h
  all_goals exact .inl ((after_aside rfl _ _).symm.trans h)

theorem after_counted {n : ℕ}
    (h : phase.after e.call e.answer = .counted runId n own) :
    phase = .counted runId n own ∨ ∃ id total rows, phase = .found id (some total) own ∧
      e = ⟨.findRunResults runId, .ok rows⟩ ∧ total ≤ doneCount rows ∧ n = doneCount rows := by
  rcases e with ⟨c, r⟩
  cases c
  case findRun id =>
    rcases r with e | _ | run
    · cases h
    · cases h
    · simp only [FinPhase.after] at h
      split_ifs at h
  case upsertRunResult row =>
    rcases r with e | u
    · cases h
    · simp only [FinPhase.after] at h
      split_ifs at h
  case findRunResults id =>
    rcases r with e | rows
    · cases h
    · simp only [FinPhase.after, FinPhase.count] at h
      split at h
      · next id' total own' =>
        split_ifs at h with hcount
        obtain ⟨rfl, hn, rfl⟩ := FinPhase.counted.inj h
        exact .inr ⟨id', total, rows, rfl, rfl, hcount, hn.symm⟩
      · cases h
  case completeRun id n results => cases h
  all_goals exact .inl ((after_aside rfl _ _).symm.trans h)

theorem Counts.step (h : Counts runId ids cfg) (hwithin : Within runId ids cfg)
    (hstep : Step (runSystem E) cfg l cfg')
    (hfin : FinCall (l.task.fin l.past) l.event.call) : Counts runId ids cfg' := by
  have hmay : cfg.store.may l.event.call l.event.answer := hstep.may
  have hstore : cfg'.store = cfg.store.next l.event.call l.event.answer := hstep.store_eq
  obtain ⟨k, hk⟩ := hstep.thread_before
  have hself := mem_of_getElem? hk
  obtain ⟨run, hrun, htotal, hcompleted⟩ := h.run
  constructor
  · rw [hstore]
    rcases run_next hrun hmay with hsame | ⟨n, results, u, hevent, hnext⟩
    · exact ⟨run, hsame, htotal, hcompleted⟩
    · refine ⟨_, hnext, htotal, fun _ => ?_⟩
      rw [hevent] at hfin
      cases hphase : l.task.fin l.past with
      | counted id n' own =>
        rw [hphase] at hfin
        obtain ⟨results', heq⟩ := hfin
        obtain ⟨rfl, rfl, -⟩ := EngineCall.completeRun.inj heq
        exact h.counted _ hself n own hphase
      | idle =>
        rw [hphase] at hfin
        cases hfin
      | recorded id =>
        rw [hphase] at hfin
        cases hfin
      | found id total own =>
        rw [hphase] at hfin
        cases hfin
  · intro th hth total own hphase
    rcases mem_threads_step hstep hth with ⟨htask, hlog, -⟩ | hold | ⟨row, -, -, htask, hlog⟩
    · rw [htask, hlog, fin_snoc] at hphase
      rcases after_found hphase with hbefore | ⟨run', hevent, hrunTotal⟩
      · exact h.found _ hself total own hbefore
      · rw [hevent] at hmay
        have hsome : some run' = cfg.store.run runId := hmay.2
        obtain rfl : run' = run := Option.some.inj (hsome.trans hrun)
        exact hrunTotal.symm.trans htotal
    · exact h.found th hold total own hphase
    · rw [htask, hlog] at hphase
      cases hphase
  · intro th hth n own hphase
    rcases mem_threads_step hstep hth with ⟨htask, hlog, -⟩ | hold | ⟨row, -, -, htask, hlog⟩
    · rw [htask, hlog, fin_snoc] at hphase
      rcases after_counted hphase with hbefore | ⟨id, total, rows, hbefore, hevent, hle, rfl⟩
      · exact h.counted _ hself n own hbefore
      · rw [hevent, hbefore] at hfin
        obtain rfl : runId = id := EngineCall.findRunResults.inj hfin
        rw [hevent] at hmay
        have hrows : rows = cfg.store.results.filter fun r => r.runId = runId := hmay.1
        rw [Option.some.inj (h.found _ hself _ own hbefore)] at hle
        refine ⟨hle, ?_⟩
        rw [hrows]
        exact doneCount_le hwithin
    · exact h.counted th hold n own hphase
    · rw [htask, hlog] at hphase
      cases hphase

/-! ## Finalizing -/

/-- The run for which a finalization is in hand. -/
def FinPhase.inHand : FinPhase → Option String
  | .recorded runId | .found runId _ true | .counted runId _ true => some runId
  | _ => none

/-- The run is completed. -/
def Completed (s : RunStore) (runId : String) : Prop :=
  ∃ run, s.run runId = some run ∧ run.completed = true

/-- Once all devices are done, the run is completed or about to be. -/
def Settling (runId : String) (ids : List String)
    (cfg : Config (engineSig E) JsError RunStore RunTask) : Prop :=
  (∀ d ∈ ids, DoneIn cfg.store (runId, d)) → Completed cfg.store runId ∨
    ∃ th ∈ cfg.threads, (th.task.fin th.log).inHand = some runId

theorem Completed.next (h : Completed s runId)
    (hmay : s.may e.call e.answer) : Completed (s.next e.call e.answer) runId := by
  obtain ⟨run, hrun, hcompleted⟩ := h
  rcases run_next hrun hmay with hsame | ⟨n, results, u, -, hnext⟩
  · exact ⟨run, hsame, hcompleted⟩
  · exact ⟨_, hnext, rfl⟩

/-- Where no result of the run is recorded, its devices were done before. -/
theorem doneIn_before {d : String} (h : DoneIn (s.next e.call e.answer) (runId, d))
    (hnot : ∀ row u, e = ⟨.upsertRunResult row, .ok u⟩ → row.runId ≠ runId) :
    DoneIn s (runId, d) := by
  obtain ⟨r, hr, hkey, hdone⟩ := h
  by_cases hupsert : ∃ row u, e = ⟨.upsertRunResult row, .ok u⟩
  · obtain ⟨row, u, rfl⟩ := hupsert
    rcases mem_upsertResult.mp hr with rfl | ⟨hr, -⟩
    · exact absurd (Prod.mk.inj hkey).1 (hnot r u rfl)
    · exact ⟨r, hr, hkey, hdone⟩
  · rw [results_next_of_not_upsert fun row u heq => hupsert ⟨row, u, heq⟩] at hr
    exact ⟨r, hr, hkey, hdone⟩

/-- A finalization that is in hand goes on, or completes the run. -/
theorem inHand_step (hnodup : ids.Nodup) (hcounts : Counts runId ids cfg)
    (hdone : ∀ d ∈ ids, DoneIn cfg.store (runId, d)) (hstep : Step (runSystem E) cfg l cfg')
    (hfin : FinCall (l.task.fin l.past) l.event.call)
    (hcond : Undisturbed runId tr cfg.store l)
    (hhand : (l.task.fin l.past).inHand = some runId) :
    Completed (cfg.store.next l.event.call l.event.answer) runId ∨
      ((l.task.fin l.past).after l.event.call l.event.answer).inHand = some runId := by
  have hmay : cfg.store.may l.event.call l.event.answer := hstep.may
  obtain ⟨k, hk⟩ := hstep.thread_before
  obtain ⟨run, hrun, htotal, hcompleted⟩ := hcounts.run
  rcases hevent : l.event with ⟨c, r⟩
  rw [hevent] at hfin hmay
  cases hphase : l.task.fin l.past with
  | idle =>
    rw [hphase] at hhand
    cases hhand
  | recorded id =>
    rw [hphase] at hhand hfin
    obtain rfl : id = runId := Option.some.inj hhand
    obtain rfl : c = .findRun id := hfin
    rcases r with e | run?
    · exact absurd rfl (hcond.accounts _ e hevent)
    · obtain rfl : run? = some run := hmay.2.trans hrun
      cases hopen : run.completed with
      | true => exact .inl ⟨run, hrun, hopen⟩
      | false =>
        refine .inr ?_
        simp only [FinPhase.after, hopen]
        rfl
  | found id total own =>
    rw [hphase] at hhand hfin
    obtain rfl : own = true := by cases own <;> [cases hhand; rfl]
    obtain rfl : id = runId := Option.some.inj hhand
    obtain rfl : c = .findRunResults id := hfin
    rcases r with e | rows
    · exact absurd rfl (hcond.accounts _ e hevent)
    · have hrows : rows = cfg.store.results.filter fun r => r.runId = id := hmay.1
      obtain rfl := hcounts.found _ (mem_of_getElem? hk) total true hphase
      refine .inr ?_
      simp only [FinPhase.after, FinPhase.count]
      rw [if_pos (hrows ▸ le_doneCount hnodup hdone)]
      rfl
  | counted id n own =>
    rw [hphase] at hhand hfin
    obtain rfl : own = true := by cases own <;> [cases hhand; rfl]
    obtain rfl : id = runId := Option.some.inj hhand
    obtain ⟨results, rfl⟩ := hfin
    rcases r with e | u
    · exact absurd rfl (hcond.accounts _ e hevent)
    · refine .inl ⟨completeRow id n results run, ?_, ?_⟩
      · show (cfg.store.next _ _).run id = _
        rw [run_complete, hrun]
        rfl
      · have hid : run.id = id := by simpa using find?_some hrun
        rw [completeRow, if_pos hid]

theorem Settling.step (h : Settling runId ids cfg) (hnodup : ids.Nodup)
    (hwithin : Within runId ids cfg) (hcounts : Counts runId ids cfg)
    (hstep : Step (runSystem E) cfg l cfg') (hcall : RunCall l.task l.past l.event.call)
    (hfin : FinCall (l.task.fin l.past) l.event.call)
    (hcond : Undisturbed runId tr cfg.store l) : Settling runId ids cfg' := by
  intro hdone
  have hmay : cfg.store.may l.event.call l.event.answer := hstep.may
  have hstore : cfg'.store = cfg.store.next l.event.call l.event.answer := hstep.store_eq
  obtain ⟨k, hk⟩ := hstep.thread_before
  obtain ⟨rest, hafter⟩ := hstep.thread_after
  by_cases hupsert : ∃ row u, l.event = ⟨.upsertRunResult row, .ok u⟩ ∧ row.runId = runId
  · obtain ⟨row, u, hevent, hrow⟩ := hupsert
    have hkey : row.key = (runId, row.deviceId) := Prod.ext hrow rfl
    have hmem : row.deviceId ∈ ids := hwithin.threads _ (mem_of_getElem? hk) _
      ((upsert_key hcall hevent).trans (congrArg some hkey))
    obtain ⟨r, hr, hrk, hrdone⟩ := hdone _ hmem
    rw [hstore, hevent] at hr
    rcases mem_upsertResult.mp hr with rfl | ⟨-, hne⟩
    · refine .inr ⟨_, mem_of_getElem? hafter, ?_⟩
      show (l.task.fin (l.past ++ [l.event])).inHand = some runId
      rw [fin_snoc, hevent]
      simp only [FinPhase.after, hrdone, if_pos]
      exact congrArg some hrow
    · exact absurd (hrk.trans hkey.symm) hne
  · have hbefore : ∀ d ∈ ids, DoneIn cfg.store (runId, d) := fun d hd =>
      doneIn_before (hstore ▸ hdone d hd) fun row u hevent hrow => hupsert ⟨row, u, hevent, hrow⟩
    rw [hstore]
    rcases h hbefore with hcompleted | ⟨th, hth, hhand⟩
    · exact .inl (hcompleted.next hmay)
    · obtain ⟨j, hj⟩ := mem_iff_getElem?.mp hth
      by_cases hself : j = l.thread
      · rw [hself, hk] at hj
        obtain rfl := Option.some.inj hj
        rcases inHand_step hnodup hcounts hbefore hstep hfin hcond hhand with hcompleted | hnext
        · exact .inl hcompleted
        · refine .inr ⟨_, mem_of_getElem? hafter, ?_⟩
          show (l.task.fin (l.past ++ [l.event])).inHand = some runId
          rw [fin_snoc]
          exact hnext
      · exact .inr ⟨th, mem_of_getElem? (hstep.thread_other hj hself), hhand⟩

/-- What an operation has in hand is for its own run. -/
def OwnRun (runId : String) (cfg : Config (engineSig E) JsError RunStore RunTask) : Prop :=
  ∀ th ∈ cfg.threads, (th.task.fin th.log).inHand = some runId → WorksFor runId th

theorem inHand_after (hfin : FinCall phase e.call)
    (h : (phase.after e.call e.answer).inHand = some runId) : phase.inHand = some runId ∨
      ∃ row u, e = ⟨.upsertRunResult row, .ok u⟩ ∧ row.runId = runId := by
  rcases e with ⟨c, r⟩
  cases c
  case findRun id =>
    rcases r with e | _ | run
    · cases h
    · cases h
    · simp only [FinPhase.after] at h
      split_ifs at h
      · cases h
      · cases phase with
        | recorded id' =>
          obtain rfl : id = id' := EngineCall.findRun.inj hfin
          exact .inl h
        | idle => cases h
        | found id' total own => cases hfin
        | counted id' n own =>
          obtain ⟨_, heq⟩ := hfin
          cases heq
  case upsertRunResult row =>
    rcases r with e | u
    · cases h
    · simp only [FinPhase.after] at h
      split_ifs at h
      · exact .inr ⟨row, u, rfl, Option.some.inj h⟩
      · cases h
  case findRunResults id =>
    rcases r with e | rows
    · cases h
    · simp only [FinPhase.after, FinPhase.count] at h
      split at h
      · next id' total own =>
        split_ifs at h
        · obtain rfl := EngineCall.findRunResults.inj hfin
          cases own with
          | true => exact .inl h
          | false => cases h
        · cases h
      · cases h
  case completeRun id n results => cases h
  all_goals exact .inl ((congrArg FinPhase.inHand (after_aside rfl _ _)).symm.trans h)

theorem OwnRun.step (h : OwnRun runId cfg) (hstep : Step (runSystem E) cfg l cfg')
    (hcall : RunCall l.task l.past l.event.call)
    (hfin : FinCall (l.task.fin l.past) l.event.call) : OwnRun runId cfg' := by
  obtain ⟨k, hk⟩ := hstep.thread_before
  intro th hth hhand
  rcases mem_threads_step hstep hth with ⟨htask, hlog, -⟩ | hold | ⟨row, -, -, htask, hlog⟩
  · unfold WorksFor
    rw [htask, hlog] at hhand ⊢
    rw [fin_snoc] at hhand
    rcases inHand_after hfin hhand with hbefore | ⟨row, u, hevent, hrow⟩
    · rcases h _ (mem_of_getElem? hk) hbefore with ⟨d, hd⟩ | hsettle
      · exact .inl ⟨d, key_of_extends hd (prefix_append _ _)⟩
      · exact .inr hsettle
    · have hkey : row.key = (runId, row.deviceId) := Prod.ext hrow rfl
      exact .inl ⟨_, key_of_extends ((upsert_key hcall hevent).trans (congrArg some hkey))
        (prefix_append _ _)⟩
  · exact h th hold hhand
  · rw [htask, hlog] at hhand
    cases hhand

end Invariants

/-! ## Runs -/

section Runs

variable {launch : RunLaunch} {s : RunStore} {others : List RunTask}

variable {th : Thread (engineSig E) JsError RunTask} {d : String}

theorem mem_config
    (h : th ∈ (launch.config s others : Config (engineSig E) JsError RunStore RunTask).threads) :
    th.log = [] ∧ ((∃ device ∈ launch.devices, th.task = .engine (.chain (launch.env device))) ∨
      th.task = .settle launch.runId ∨ th.task ∈ others) := by
  obtain ⟨task, htask, rfl⟩ := mem_map.mp h
  refine ⟨rfl, ?_⟩
  rcases mem_append.mp htask with htask | htask
  · rcases mem_append.mp htask with htask | htask
    · obtain ⟨device, hdevice, rfl⟩ := mem_map.mp htask
      exact .inl ⟨device, hdevice, rfl⟩
    · exact .inr (.inl (mem_singleton.mp htask))
  · exact .inr (.inr htask)

theorem within_config (h : Unused launch.runId s others) :
    Within launch.runId launch.ids (launch.config s others : Config (engineSig E) _ _ _) where
  wellFormed := h.wellFormed
  keys := h.keys
  rows r hr d hkey := absurd (Prod.mk.inj hkey).1 (h.rows r hr)
  results row hrow d hkey := absurd (Prod.mk.inj hkey).1 (h.results row hrow)
  threads th hth d hkey := by
    obtain ⟨hlog, ⟨device, hdevice, htask⟩ | htask | htask⟩ := mem_config hth
    · rw [htask] at hkey
      obtain ⟨-, rfl⟩ := Prod.mk.inj (Option.some.inj hkey)
      exact mem_map_of_mem hdevice
    · rw [htask] at hkey
      cases hkey
    · cases heq : th.task with
      | settle id =>
        rw [heq] at hkey
        cases hkey
      | engine task =>
        rw [heq, hlog] at hkey
        rw [heq] at htask
        cases task with
        | chain env => exact absurd (Prod.mk.inj (Option.some.inj hkey)).1 (h.chains env htask)
        | tick limit => cases hkey
        | resume row => exact (h.entry _ htask).elim
        | scriptResult token ok detail => cases hkey
  timers th hth row hrow := by
    obtain ⟨-, ⟨device, -, htask⟩ | htask | htask⟩ := mem_config hth
    · rw [htask] at hrow
      cases hrow
    · rw [htask] at hrow
      cases hrow
    · rw [hrow] at htask
      exact (h.entry _ htask).elim

theorem accounted_config (hd : d ∈ launch.ids) :
    Accounted (launch.config s others : Config (engineSig E) _ _ _) (launch.runId, d) := by
  obtain ⟨device, hdevice, rfl⟩ := mem_map.mp hd
  have hmem : RunTask.engine (.chain (launch.env device)) ∈ launch.tasks ++ others :=
    mem_append_left _ (mem_append_left _ (mem_map_of_mem hdevice))
  obtain ⟨j, hj⟩ := mem_iff_getElem?.mp (mem_map_of_mem (f := (runSystem E).start) hmem)
  exact .inr (.inl ⟨j, _, hj, rfl, .inl rfl⟩)

theorem fin_config
    (hth : th ∈ (launch.config s others : Config (engineSig E) JsError RunStore RunTask).threads) :
    th.task.fin th.log = th.task.finStart := by
  rw [(mem_config hth).1]
  rfl

theorem counts_config :
    Counts launch.runId launch.ids (launch.config s others : Config (engineSig E) _ _ _) where
  run := by
    refine ⟨launch.row, find?_cons_of_pos (by simp [RunLaunch.row]), ?_, nofun⟩
    simp [RunLaunch.row, RunLaunch.ids]
  found th hth total own hphase := by
    rw [fin_config hth] at hphase
    cases htask : th.task <;> rw [htask] at hphase <;> cases hphase
  counted th hth n own hphase := by
    rw [fin_config hth] at hphase
    cases htask : th.task <;> rw [htask] at hphase <;> cases hphase

theorem settling_config :
    Settling launch.runId launch.ids (launch.config s others : Config (engineSig E) _ _ _) :=
  fun _ => .inr ⟨(runSystem E).start (.settle launch.runId),
    mem_map_of_mem (mem_append_left _ (mem_append_right _ (mem_singleton.mpr rfl))),
    rfl⟩

theorem ownRun_config :
    OwnRun launch.runId (launch.config s others : Config (engineSig E) _ _ _) := by
  intro th hth hhand
  rw [fin_config hth] at hhand
  cases htask : th.task with
  | engine task =>
    rw [htask] at hhand
    cases hhand
  | settle id =>
    rw [htask] at hhand
    obtain rfl : id = launch.runId := Option.some.inj hhand
    exact .inr htask

variable {tr : List (RunLabel E)} {cfg : Config (engineSig E) JsError RunStore RunTask}

theorem invariants_of_run (hunused : Unused launch.runId s others)
    (h : Run (runSystem E) (Undisturbed launch.runId) (launch.config s others) tr cfg) :
    Within launch.runId launch.ids cfg ∧ (∀ d ∈ launch.ids, Accounted cfg (launch.runId, d)) ∧
      Counts launch.runId launch.ids cfg ∧ OwnRun launch.runId cfg ∧
      (launch.ids.Nodup → Settling launch.runId launch.ids cfg) := by
  induction h with
  | nil =>
    exact ⟨within_config hunused, fun _ => accounted_config, counts_config,
      ownRun_config, fun _ => settling_config⟩
  | @snoc tr cfg cfg' l hrun hstep hcond ih =>
    obtain ⟨hwithin, haccounted, hcounts, hown, hsettling⟩ := ih
    have hcall := hrun.ok_of_step RunCall RunEnd meets_runTask hstep
    have hfin := hrun.ok_of_step (fun task log c => FinCall (task.fin log) c)
      (fun task log => task.fin log = .idle) meets_runTask_fin hstep
    exact ⟨hwithin.step hstep hcall,
      fun d hd => (haccounted d hd).step hwithin hstep hcall hcond,
      hcounts.step hwithin hstep hfin, hown.step hstep hcall hfin,
      fun hnodup => (hsettling hnodup).step hnodup hwithin hcounts hstep hcall hfin hcond⟩

/-- A thread that has ended has reported, unless it knew no device. -/
theorem reported_of_ended
    (h : Run (runSystem E) (Undisturbed launch.runId) (launch.config s others) tr cfg) {j : ℕ}
    (hj : cfg.threads[j]? = some th)
    (hended : ∃ r, th.rest = .ret r)
    (hkey : th.task.key th.log = some (launch.runId, d)) : ¬Unreported th.log := by
  obtain ⟨r, hr⟩ := hended
  have hend := h.thread_meets RunCall RunEnd meets_runTask hj
  rw [hr] at hend
  intro hopen
  rcases hend with hnone | (hparked | hrecorded | ⟨c, e, hmem, hrecords⟩) | ⟨pre, c, e, hlog, hlooks, hno⟩
  · rw [hkey] at hnone
    cases hnone
  · rcases hopen with hopen | hopen <;> rw [hparked] at hopen <;> cases hopen
  · rcases hopen with hopen | hopen <;> rw [hrecorded] at hopen <;> cases hopen
  · -- a rejected recording is excluded
    obtain ⟨pre, post, hlog⟩ := append_of_mem hmem
    obtain ⟨before, l, after, htr, htask, hpast, hevent⟩ := h.label_of_log hj hlog
    obtain ⟨cfg₁, cfg₂, hrun, hstep, hcond, -⟩ := h.step_of_append htr
    have hcall := hrun.ok_of_step RunCall RunEnd meets_runTask hstep
    cases c
    case upsertRunResult row =>
      have hrow := upsert_key hcall hevent
      rw [htask, hpast] at hrow
      have hsame := (key_of_extends hrow ⟨_, hlog.symm⟩).symm.trans hkey
      exact hcond.accounts _ e hevent (congrArg (fun k => k.map Prod.fst) hsame)
    case beginChain a b c =>
      have hmay := hstep.may.1
      rw [hevent] at hmay
      exact hmay
    all_goals cases hrecords
  · -- so is a rejected lookup of a resume
    obtain ⟨before, l, after, htr, htask, hpast, hevent⟩ := h.label_of_log hj hlog
    obtain ⟨cfg₁, cfg₂, hrun, hstep, hcond, -⟩ := h.step_of_append htr
    rw [hlog] at hkey
    rcases key_snoc hkey with hbefore | ⟨row, hrow, -⟩
    · rw [← hpast, ← htask] at hbefore
      exact hcond.lookups c e d hevent hbefore hlooks (hpast ▸ hno)
    · cases c <;> cases hrow

/-- In every state that an undisturbed run reaches, once everything that works
for the run has ended and no pending row of it remains, the run is completed
with `completed = total` exactly where no device id is listed twice. -/
theorem completed_iff (launch : RunLaunch) (s : RunStore) (others : List RunTask)
    (hunused : Unused launch.runId s others) (tr : List (RunLabel E))
    (cfg : Config (engineSig E) JsError RunStore RunTask)
    (h : Run (runSystem E) (Undisturbed launch.runId) (launch.config s others) tr cfg)
    (hended : ∀ th ∈ cfg.threads, WorksFor launch.runId th → ∃ r, th.rest = .ret r)
    (hrows : ∀ r ∈ cfg.store.pending, r.runId ≠ launch.runId) :
    (∃ run, cfg.store.run launch.runId = some run ∧ run.completed = true ∧
      run.total = some run.doneCount) ↔ (launch.devices.map (·.id)).Nodup := by
  obtain ⟨-, haccounted, hcounts, hown, hsettling⟩ := invariants_of_run hunused h
  obtain ⟨run, hrun, htotal, hcount⟩ := hcounts.run
  constructor
  · rintro ⟨run', hrun', hcompleted, -⟩
    obtain rfl : run' = run := Option.some.inj (hrun'.symm.trans hrun)
    obtain ⟨hle, hge⟩ := hcount hcompleted
    have hdedup : launch.ids.dedup = launch.ids :=
      (dedup_sublist launch.ids).eq_of_length_le (hle.trans hge)
    exact dedup_eq_self.mp hdedup
  · intro hnodup
    have hdone : ∀ d ∈ launch.ids, DoneIn cfg.store (launch.runId, d) := by
      intro d hd
      rcases haccounted d hd with ⟨r, hr, hkey, -⟩ | ⟨j, th, hj, hkey, hopen⟩ | hdone
      · exact absurd (Prod.mk.inj hkey).1 (hrows r hr)
      · have hend := hended th (mem_of_getElem? hj) (.inl ⟨d, hkey⟩)
        exact absurd hopen (reported_of_ended h hj hend hkey)
      · exact hdone
    have hcompleted : Completed cfg.store launch.runId := by
      rcases hsettling hnodup hdone with hcompleted | ⟨th, hth, hhand⟩
      · exact hcompleted
      · obtain ⟨j, hj⟩ := mem_iff_getElem?.mp hth
        obtain ⟨r, hr⟩ := hended th hth (hown th hth hhand)
        have hidle := h.thread_meets (fun task log c => FinCall (task.fin log) c)
          (fun task log => task.fin log = .idle) meets_runTask_fin hj
        rw [hr] at hidle
        rw [show th.task.fin th.log = .idle from hidle] at hhand
        cases hhand
    obtain ⟨run', hrun', hcompleted⟩ := hcompleted
    obtain rfl : run' = run := Option.some.inj (hrun'.symm.trans hrun)
    obtain ⟨hle, hge⟩ := hcount hcompleted
    have hdedup : launch.ids.dedup = launch.ids := dedup_eq_self.mpr hnodup
    rw [hdedup] at hge
    exact ⟨run', hrun, hcompleted, htotal.trans (congrArg some (Nat.le_antisymm hle hge))⟩

end Runs

/-! ## A run that completes, and one that stays open -/

/-- The answers of the tables of the chains and of the runs. -/
def RunStore.answer (w : Workflow) (s : RunStore) (c : EngineCall) : Except JsError (c.Answer E) :=
  match c with
  | .findRun runId => .ok (s.run runId)
  | .completeRun .. => .ok ()
  | c => s.toEngineStore.answer w c

theorem run_may_answer (w : Workflow) (s : RunStore) (c : EngineCall) :
    s.may (E := E) c (s.answer w c) := by
  cases c
  case findRun runId => exact ⟨trivial, rfl⟩
  case completeRun runId n results => exact ⟨trivial, trivial⟩
  all_goals exact ⟨may_answer w s.toEngineStore _, trivial⟩

/-- A check that passes only undisturbed steps. -/
def undisturbed (_ : List (RunLabel E)) (s : RunStore) (l : RunLabel E) : Bool :=
  match l.event with
  | ⟨.upsertRunResult row, .ok _⟩ =>
    row.status = .done || s.pending.any fun r => r.key = row.key && !r.claimed
  | ⟨_, .ok _⟩ => true
  | ⟨_, .error _⟩ => false

theorem undisturbed_sound (runId : String) (tr : List (RunLabel E)) (s : RunStore)
    (l : RunLabel E) (h : undisturbed tr s l = true) : Undisturbed runId tr s l := by
  have herror : ∀ c e, l.event ≠ ⟨c, .error e⟩ := by
    intro c e hevent
    unfold undisturbed at h
    rw [hevent] at h
    cases c <;> cases h
  constructor
  · exact fun c e hevent => absurd hevent (herror c e)
  · exact fun c e d hevent => absurd hevent (herror c e)
  · intro row u hevent _ hwaiting
    unfold undisturbed at h
    rw [hevent] at h
    simpa [hwaiting] using h

/-- The tables before anything has run. -/
def noRows : RunStore where
  pending := []
  results := []
  nextId := 0
  runs := []

theorem unused_noRows (runId : String) {others : List RunTask}
    (hentry : ∀ task, RunTask.engine task ∈ others → task.Entry)
    (hchains : ∀ env, RunTask.engine (.chain env) ∈ others → env.runId ≠ runId) :
    Unused runId noRows others where
  wellFormed := ⟨nodup_nil, nofun, nofun⟩
  keys := nodup_nil
  runs := nofun
  rows := nofun
  results := nofun
  entry := hentry
  chains := hchains

/-- A device. -/
def macBook : DeviceRef where
  id := "d1"
  platform := "macos"
  platformDeviceId := "mac-1"

/-- A launch for one device of the workflow that waits for a script. -/
def launchOnce : RunLaunch where
  runId := "run1"
  slug := "w"
  authorization := "bearer"
  target := none
  workflow := waitForScript
  devices := [macBook]

/-- All threads have ended. -/
def allEnded (threads : List (Thread (engineSig E) JsError RunTask)) : Bool :=
  threads.all fun th => match th.rest with
    | .ret _ => true
    | .await .. => false

theorem ended_of_allEnded {threads : List (Thread (engineSig E) JsError RunTask)}
    (h : allEnded threads = true) : ∀ th ∈ threads, ∃ r, th.rest = .ret r := by
  intro th hth
  have hend := all_eq_true.mp h th hth
  cases hrest : th.rest with
  | ret r => exact ⟨r, rfl⟩
  | await c k =>
    rw [hrest] at hend
    cases hend

/-- The device parks, the script's result resumes it, and its chain ends. -/
def onceSchedule : List ℕ :=
  List.replicate 9 0 ++ List.replicate 2 1 ++ List.replicate 12 2

theorem completed_iff_launchOnce :
    ∃ (tr : List (RunLabel attributeEvaluator))
      (cfg : Config (engineSig attributeEvaluator) JsError RunStore RunTask),
      Run (runSystem attributeEvaluator) (Undisturbed "run1")
        (launchOnce.config noRows [.engine (.scriptResult (some "token1") true "")]) tr cfg ∧
      tr.length = 23 ∧ ∃ run, cfg.store.run "run1" = some run ∧ run.completed = true ∧
        run.total = some run.doneCount := by
  have hrun := Run.nil.play (runSystem attributeEvaluator) (fun s => s.answer waitForScript)
    (run_may_answer waitForScript) onceSchedule
    (Config.admits_of_admitted _ _ (undisturbed_sound "run1") onceSchedule []
      (launchOnce.config noRows [.engine (.scriptResult (some "token1") true "")]) rfl)
  have hunused : Unused launchOnce.runId noRows
      [.engine (.scriptResult (some "token1") true "")] :=
    unused_noRows _ (by simp [EngineTask.Entry]) (by simp)
  refine ⟨_, _, hrun, rfl, ?_⟩
  exact (completed_iff launchOnce noRows _ hunused _ _ hrun
    (fun th hth _ => ended_of_allEnded rfl th hth) fun _ hrow => absurd hrow not_mem_nil).mpr
    (by decide)

/-- A workflow that waits for no time at all. -/
def waitForNothing : Workflow where
  id := "w1"
  name := "Wait"
  steps := [{ id := "s1", type := .wait, name := "Wait" }]

/-- A launch for a list that names one device twice. -/
def launchTwice : RunLaunch where
  runId := "run1"
  slug := "w"
  authorization := "bearer"
  target := none
  workflow := waitForNothing
  devices := [macBook, macBook]

/-- Both chains end, and so does the launch, no row is left, and the run is still
running with one result of two. -/
theorem repeated_device_never_completes :
    ¬∀ (launch : RunLaunch) (s : RunStore) (others : List RunTask)
      (tr : List (RunLabel attributeEvaluator))
      (cfg : Config (engineSig attributeEvaluator) JsError RunStore RunTask),
      Unused launch.runId s others →
      Run (runSystem attributeEvaluator) always (launch.config s others) tr cfg →
      (∀ th ∈ cfg.threads, WorksFor launch.runId th → ∃ r, th.rest = .ret r) →
      (∀ r ∈ cfg.store.pending, r.runId ≠ launch.runId) →
      ∃ run, cfg.store.run launch.runId = some run ∧ run.completed = true ∧
        run.total = some run.doneCount := by
  intro hall
  have hrun := Config.run_play (runSystem attributeEvaluator) (fun s => s.answer waitForNothing)
    (run_may_answer waitForNothing)
    (replicate 8 0 ++ replicate 8 1 ++ replicate 3 2)
    (launchTwice.config noRows [])
  obtain ⟨run, hfind, hcompleted, -⟩ := hall launchTwice noRows [] _ _
    (unused_noRows _ nofun nofun) hrun (fun th hth _ => ended_of_allEnded rfl th hth) nofun
  obtain rfl := Option.some.inj hfind
  cases hcompleted

end AppliverySoar.Workflows
