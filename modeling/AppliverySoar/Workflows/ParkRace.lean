import AppliverySoar.Workflows.ParkRefinement
import AppliverySoar.Workflows.ChainFailure
import Mathlib.Logic.Relation

/-!
# Parking and resuming

A pending row can be taken as soon as it is inserted, but that its device waits
is recorded only afterwards. When the row is resumed in between, the late
`'waiting'` overwrites what the resumed chain has recorded, and nobody is left
to resume the device.

Results:
* `waiting_has_row`: in an orderly run a device that a resumed chain has recorded
  as done stays so, and a device waits only while it has a pending row.
* `board_run`: an orderly run is one of the board.
* `waiting_without_row`: a run in which neither holds.
-/

namespace AppliverySoar.Workflows

open Async Compliance List Option

variable {E : Evaluator}

/-! ## Statements -/

/-- Tables and operations to start from: a device waits only with a pending row,
no two rows of one device can be taken, and a fresh chain is the only one of
its run and device. -/
structure FreshStart (s : EngineStore) (ts : List EngineTask) : Prop where
  wellFormed : s.WellFormed
  entry : ∀ t ∈ ts, t.Entry
  oneRow : ∀ r ∈ s.pending, ∀ r' ∈ s.pending, r.claimed = false → r'.claimed = false →
    r.key = r'.key → r = r'
  waiting : ∀ row ∈ s.results, row.status = .waiting → ∃ r ∈ s.pending, r.key = row.key
  chains : ∀ (i j : ℕ) (env env' : ChainEnv), ts[i]? = some (EngineTask.chain env) →
    ts[j]? = some (EngineTask.chain env') → env.key = env'.key → i = j
  noRow : ∀ env, EngineTask.chain env ∈ ts → ∀ r ∈ s.pending, r.key = env.key → r.claimed = true

/-- What a resumed chain has recorded as done is not set back to `'waiting'`. -/
def DoneStays (tr : List (EngineLabel E)) : Prop :=
  ∀ k pre l₁ mid l₂ post, tr = pre ++ l₁ :: (mid ++ l₂ :: post) →
    (resumedRow l₁.task l₁.past).isSome → Records k .done l₁.event →
      ¬Records k .waiting l₂.event

/-- A device that no operation is working for waits only with a pending row. -/
def WaitsWithRow (cfg : Config (engineSig E) JsError EngineStore EngineTask) : Prop :=
  ∀ row ∈ cfg.store.results, row.status = .waiting →
    (∀ th ∈ cfg.threads, taskKey th.task th.log = some row.key → ∃ r, th.rest = .ret r) →
      ∃ r ∈ cfg.store.pending, r.key = row.key

/-! ## Orderly runs -/

theorem sound_launch {s : EngineStore} {ts : List EngineTask} (h : FreshStart s ts) :
    (boardOf [] ((engineSystem E).launch s ts)).Sound := by
  have hactor : ∀ j k p, (boardOf [] ((engineSystem E).launch s ts)).actor j = some (k, p) →
      p = .running ∧ ∃ env, ts[j]? = some (.chain env) ∧ env.key = k := by
    intro j k p hj
    obtain ⟨th, hth, ha⟩ := bind_eq_some_iff.mp hj
    obtain ⟨t, ht, rfl⟩ : ∃ t, ts[j]? = some t ∧ (engineSystem E).start t = th := by
      simpa [System.launch, map_eq_some_iff] using hth
    have hentry := h.entry t (mem_of_getElem? ht)
    cases t with
    | chain env =>
      cases ha
      exact ⟨rfl, env, ht, rfl⟩
    | tick limit => cases ha
    | resume row => exact hentry.elim
    | scriptResult token ok detail => cases ha
  have htimer : ∀ j r, (boardOf [] ((engineSystem E).launch s ts)).timer j ≠ some r := by
    intro j r hj
    have hholder := timer_holder hj
    rw [holder_launch h.entry] at hholder
    cases hholder
  constructor
  · exact h.oneRow
  · intro j k hj
    cases (hactor j k _ hj).1
  · intro i j k p q hi hj _ _
    obtain ⟨_, env, hts, rfl⟩ := hactor i k p hi
    obtain ⟨_, env', hts', hkey⟩ := hactor j _ q hj
    exact h.chains i j env env' hts hts' hkey.symm
  · intro j k p hj _ r hr hrk
    obtain ⟨_, env, hts, rfl⟩ := hactor j k p hj
    exact h.noRow env (mem_of_getElem? hts) r hr hrk
  · intro j k hj
    cases (hactor j k _ hj).1
  · intro j r p hj
    exact absurd hj (htimer j r)
  · intro row hrow hstatus
    obtain ⟨r, hr, hrk⟩ := h.waiting row hrow hstatus
    exact .inl ⟨r, hr, hrk, fun j r' hj => absurd hj (htimer j r')⟩
  · intro j k hj
    cases (hactor j k _ hj).1
  · rintro k ⟨l, hl, -⟩
    simp at hl

section Runs

variable {s : EngineStore} {ts : List EngineTask} {tr : List (EngineLabel E)}
  {cfg cfg' : Config (engineSig E) JsError EngineStore EngineTask} {l : EngineLabel E}

variable {i : ℕ} {th : Thread (engineSig E) JsError EngineTask}

theorem clean_of_run (h : Run (engineSystem E) Orderly ((engineSystem E).launch s ts) tr cfg)
    (hi : cfg.threads[i]? = some th) : ¬RecordRejected th.log := by
  rintro ⟨c, e, hmem, hc⟩
  obtain ⟨pre, post, hlog⟩ := append_of_mem hmem
  have hnot : c.records = false := by
    refine h.log_of_cond (fun _ _ (event : EngineEvent E) => event = ⟨c, .error e⟩ →
      c.records = false) ?_ hi hlog rfl
    intro tr s l hcond hmay hevent
    cases c
    case upsertRunResult row => exact absurd hevent (hcond.upserts row e)
    case beginChain runId deviceId startStepId =>
      rw [hevent] at hmay
      exact hmay.elim
    all_goals rfl
  rw [hc] at hnot
  cases hnot

/-- No script result has ended with a lookup that rejected in an orderly run. -/
theorem lookups_of_run (h : Run (engineSystem E) Orderly ((engineSystem E).launch s ts) tr cfg)
    (hi : cfg.threads[i]? = some th)
    (htask : ∃ token ok detail, th.task = .scriptResult token ok detail) :
    ¬LookupRejected th.log := by
  rintro ⟨pre, c, e, hlog, hc, hno⟩
  obtain ⟨token, ok, detail, htask⟩ := htask
  refine h.log_of_cond (fun task past event => task = .scriptResult token ok detail →
    NoBegin past → event ≠ ⟨c, .error e⟩) ?_ hi hlog htask hno rfl
  exact fun tr s l hcond _ ht hpast => hcond.lookups token ok detail c e ht hc hpast

theorem sound_run (hstart : FreshStart s ts)
    (h : Run (engineSystem E) Orderly ((engineSystem E).launch s ts) tr cfg) :
    (boardOf tr cfg).Sound := by
  induction h with
  | nil => exact sound_launch hstart
  | @snoc tr cfg cfg' l hrun hstep hcond ih =>
    have hinv := resumeInv_run hstart.wellFormed hstart.entry
      (hrun.weaken fun _ _ _ hcond => hcond.claims)
    have hcall := hrun.ok_of_step TaskCall TaskEnd meets_task hstep
    obtain ⟨k, hk⟩ := hstep.thread_before
    exact ih.step (tables_boardOf hinv)
      (boardStep_of_step hinv hstep hcall (clean_of_run hrun hk) hcond)

theorem taskEnd_of_ended (h : Run (engineSystem E) Orderly ((engineSystem E).launch s ts) tr cfg)
    (hi : cfg.threads[i]? = some th) (hend : ∃ r, th.rest = .ret r) : TaskEnd th.task th.log := by
  obtain ⟨r, hr⟩ := hend
  have hmeets := h.thread_meets TaskCall TaskEnd meets_task hi
  rw [hr] at hmeets
  exact hmeets

/-- In an orderly run a device that no operation works for waits only with a
pending row. -/
theorem waitsWithRow_of_run (hstart : FreshStart s ts)
    (h : Run (engineSystem E) Orderly ((engineSystem E).launch s ts) tr cfg) :
    WaitsWithRow cfg := by
  intro row hrow hstatus hended
  have hsound := sound_run hstart h
  rcases hsound.waiting row hrow hstatus with ⟨r, hr, hrk, _⟩ | ⟨j, p, hj, hp⟩
  · exact ⟨r, hr, hrk⟩
  · obtain ⟨th, hth, hactor⟩ := bind_eq_some_iff.mp hj
    obtain ⟨k, hkey, hkp⟩ := map_eq_some_iff.mp hactor
    obtain ⟨rfl, hphase⟩ : k = row.key ∧ phaseOf th.log = p := by
      cases hkp
      exact ⟨rfl, rfl⟩
    have hend := hended th (mem_of_getElem? hth) hkey
    rcases taskEnd_of_ended h hth hend with hnone | hchain | ⟨r, htask⟩ | ⟨htask, hlookup⟩
    · rw [hkey] at hnone
      cases hnone
    · rcases hchain with hpark | hrec | hrejected
      · rw [hphase] at hpark
        rw [hpark] at hp
        simp at hp
      · rw [hphase] at hrec
        rw [hrec] at hp
        simp at hp
      · exact absurd hrejected (clean_of_run h hth)
    · -- the timer path has left before its chain: its row is still there
      have htimer : (boardOf tr cfg).timer j = some r := by
        show cfg.threads[j]?.bind _ = _
        rw [hth, bind_some, htask]
        rfl
      have hrk : r.key = row.key := by
        rw [htask] at hkey
        exact some.inj hkey
      obtain ⟨r', hr', _, hr'k⟩ := hsound.held j r p htimer (hrk ▸ hj) hp
      exact ⟨r', hr', hr'k.trans hrk⟩
    · exact absurd hlookup (lookups_of_run h hth htask)

theorem doneStays_of_run (hstart : FreshStart s ts)
    (h : Run (engineSystem E) Orderly ((engineSystem E).launch s ts) tr cfg) : DoneStays tr := by
  rintro k pre l₁ mid l₂ post htr _ hdone ⟨row, u, hevent, hrow, hstatus⟩
  have htr' : tr = (pre ++ l₁ :: mid) ++ l₂ :: post := by simp [htr]
  obtain ⟨cfg₁, cfg₂, hrun, hstep, _, _⟩ := h.step_of_append htr'
  have hcall := hrun.ok_of_step TaskCall TaskEnd meets_task hstep
  rw [hevent] at hcall
  obtain ⟨k', hkey, hrowk, hphase, _⟩ := hcall
  have hactor : (boardOf (pre ++ l₁ :: mid) cfg₁).actor l₂.thread = some (k, .created) := by
    rw [← hrow, hrowk, actor_thread _ hstep]
    exact actorOf_eq_some hkey (hphase hstatus)
  exact (sound_run hstart hrun).not_done_of_created hactor ⟨l₁, by simp, hdone⟩

end Runs

/-- **Main theorem on parking**: however fresh chains, ticks, resumes and script
results interleave, in every orderly run what a resumed chain has recorded
as done is not set back to `'waiting'`, and a device that no operation works
for waits only with a pending row. -/
theorem waiting_has_row (s : EngineStore) (ts : List EngineTask) (tr : List (EngineLabel E))
    (cfg : Config (engineSig E) JsError EngineStore EngineTask) (hstart : FreshStart s ts)
    (h : Run (engineSystem E) Orderly ((engineSystem E).launch s ts) tr cfg) :
    DoneStays tr ∧ WaitsWithRow cfg :=
  ⟨doneStays_of_run hstart h, waitsWithRow_of_run hstart h⟩

/-- **Refinement of runs**: what fresh chains, ticks, resumes and script results do in an
orderly run is what the board can do, from the start on, and the board is sound. -/
theorem board_run (s : EngineStore) (ts : List EngineTask) (tr : List (EngineLabel E))
    (cfg : Config (engineSig E) JsError EngineStore EngineTask) (hstart : FreshStart s ts)
    (h : Run (engineSystem E) Orderly ((engineSystem E).launch s ts) tr cfg) :
    Relation.ReflTransGen Board.Step (boardOf [] ((engineSystem E).launch s ts)) (boardOf tr cfg) ∧
      (boardOf tr cfg).Sound := by
  refine ⟨?_, sound_run hstart h⟩
  induction h with
  | nil => exact .refl
  | @snoc tr cfg cfg' l hrun hstep hcond ih =>
    have hinv := resumeInv_run hstart.wellFormed hstart.entry
      (hrun.weaken fun _ _ _ hcond => hcond.claims)
    obtain ⟨k, hk⟩ := hstep.thread_before
    exact ih.tail (boardStep_of_step hinv hstep
      (hrun.ok_of_step TaskCall TaskEnd meets_task hstep) (clean_of_run hrun hk) hcond)

/-! ## A run that is orderly, and one that is not -/

theorem orderly_of_ok {tr : List (EngineLabel E)} {s : EngineStore} {l : EngineLabel E}
    {c : EngineCall} {a : c.Answer E} (hevent : l.event = ⟨c, .ok a⟩)
    (htaken : takenRows l.event = []) (hdeleted : deletedRow l.event = none) : Orderly tr s l := by
  constructor
  · intro row hrow
    rw [hdeleted] at hrow
    cases hrow
  · simp [htaken]
  · rintro row e heq
    rw [hevent] at heq
    cases heq
  · rintro token ok detail c' e - - - heq
    rw [hevent] at heq
    cases heq

/-- A script result for a device that waits for it. -/
def dueResult : Config (engineSig attributeEvaluator) JsError EngineStore EngineTask :=
  (engineSystem attributeEvaluator).launch
    { pending := [scriptRow]
      results := [{ runId := "run1", deviceId := "d1", deviceName := none, steps := []
                    status := .waiting, finalStatus := none }]
      nextId := 1 }
    [.scriptResult (some "token1") true ""]

theorem freshStart_dueResult :
    FreshStart dueResult.store [.scriptResult (some "token1") true ""] where
  wellFormed := ⟨by decide, by simp [dueResult, System.launch, scriptRow],
    by simp [dueResult, System.launch]⟩
  entry := by simp [EngineTask.Entry]
  oneRow := by simp [dueResult, System.launch]
  waiting := by simp [dueResult, System.launch, scriptRow, PendingData.key, RunResultRow.key]
  chains i j env env' hi := by cases i <;> simp at hi
  noRow env henv := by simp at henv

/-- The script result resumes the device, and its chain is recorded as done. -/
theorem waiting_has_row_dueResult :
    FreshStart dueResult.store [.scriptResult (some "token1") true ""] ∧ ∃ tr cfg,
      Run (engineSystem attributeEvaluator) Orderly dueResult tr cfg ∧ tr.length = 10 ∧
        DoneStays tr ∧ WaitsWithRow cfg := by
  have hadmits : dueResult.Admits (engineSystem attributeEvaluator) Orderly
      (fun s => s.answer waitForScript) (replicate 10 0) [] := by
    refine And.intro ⟨?_, ?_, ?_, ?_⟩ ?_
    · intro row hrow
      cases hrow
      rfl
    · simp [Parking]
    · rintro row e heq
      cases heq
    · rintro token ok detail c e - - - heq
      cases heq
    · exact And.intro (orderly_of_ok rfl rfl rfl) (And.intro (orderly_of_ok rfl rfl rfl)
        (And.intro (orderly_of_ok rfl rfl rfl) (And.intro (orderly_of_ok rfl rfl rfl)
          (And.intro (orderly_of_ok rfl rfl rfl) (And.intro (orderly_of_ok rfl rfl rfl)
            (And.intro (orderly_of_ok rfl rfl rfl) (And.intro (orderly_of_ok rfl rfl rfl)
              (And.intro (orderly_of_ok rfl rfl rfl) trivial))))))))
  have hrun := Run.nil.play _ _ (fun s c => may_answer waitForScript s c) _ hadmits
  exact ⟨freshStart_dueResult, _, _, hrun, rfl,
    waiting_has_row _ _ _ _ freshStart_dueResult hrun⟩

theorem board_run_dueResult : ∃ (tr : List (EngineLabel attributeEvaluator)) (cfg : _),
    tr.length = 1 ∧ Relation.ReflTransGen Board.Step (boardOf [] dueResult) (boardOf tr cfg) ∧
      (boardOf tr cfg).Sound := by
  have hadmits : dueResult.Admits (engineSystem attributeEvaluator) Orderly
      (fun s => s.answer waitForScript) [0] [] := by
    refine And.intro ⟨?_, ?_, ?_, ?_⟩ trivial
    · rintro row ⟨⟩
      rfl
    · simp [Parking]
    · rintro row e ⟨⟩
    · rintro token ok detail c e - - - ⟨⟩
  have hrun := Run.nil.play _ _ (fun s c => may_answer waitForScript s c) _ hadmits
  exact ⟨_, _, rfl, board_run _ _ _ _ freshStart_dueResult hrun⟩

/-- A fresh chain that parks, and the result of its script. -/
def earlyResult : Config (engineSig attributeEvaluator) JsError EngineStore EngineTask :=
  (engineSystem attributeEvaluator).launch { pending := [], results := [], nextId := 0 }
    [.chain scriptChain, .scriptResult (some "token1") true ""]

theorem freshStart_earlyResult :
    FreshStart earlyResult.store [.chain scriptChain, .scriptResult (some "token1") true ""] where
  wellFormed := ⟨by decide, by simp [earlyResult, System.launch],
    by simp [earlyResult, System.launch]⟩
  entry := by simp [EngineTask.Entry]
  oneRow := by simp [earlyResult, System.launch]
  waiting := by simp [earlyResult, System.launch]
  chains i j env env' hi hj _ := by
    rcases i with _ | _ | i <;> rcases j with _ | _ | j <;> simp at hi hj ⊢
  noRow env henv := by simp [earlyResult, System.launch]

/-- The chain inserts its row; the script result takes it and runs the chain to
its end; then the chain records that the device waits. -/
def raceSchedule : List ℕ := List.replicate 8 0 ++ List.replicate 10 1 ++ [0]

/-- After the race the device has gone from `'done'` back to `'waiting'`, all
operations have ended, and no row is left. -/
theorem waiting_without_row :
    (¬∀ (s : EngineStore) (ts : List EngineTask) (tr : List (EngineLabel attributeEvaluator))
        (cfg : Config (engineSig attributeEvaluator) JsError EngineStore EngineTask),
      FreshStart s ts → Run (engineSystem attributeEvaluator) always
        ((engineSystem attributeEvaluator).launch s ts) tr cfg → DoneStays tr) ∧
    ¬∀ (s : EngineStore) (ts : List EngineTask) (tr : List (EngineLabel attributeEvaluator))
        (cfg : Config (engineSig attributeEvaluator) JsError EngineStore EngineTask),
      FreshStart s ts → Run (engineSystem attributeEvaluator) always
        ((engineSystem attributeEvaluator).launch s ts) tr cfg → WaitsWithRow cfg := by
  have hrun := Config.run_play (engineSystem attributeEvaluator)
    (fun s => s.answer waitForScript) (fun s c => may_answer waitForScript s c)
    raceSchedule earlyResult
  constructor
  · intro hall
    obtain ⟨l₁, h₁, hresumed, hdone⟩ : ∃ l, (earlyResult.play (engineSystem attributeEvaluator)
        (fun s => s.answer waitForScript) raceSchedule).1[16]? = some l ∧
          (resumedRow l.task l.past).isSome ∧ Records ("run1", "d1") .done l.event :=
      ⟨_, rfl, rfl, _, _, rfl, rfl, rfl⟩
    obtain ⟨l₂, h₂, hwaiting⟩ : ∃ l, (earlyResult.play (engineSystem attributeEvaluator)
        (fun s => s.answer waitForScript) raceSchedule).1[18]? = some l ∧
          Records ("run1", "d1") .waiting l.event :=
      ⟨_, rfl, _, _, rfl, rfl, rfl⟩
    obtain ⟨pre, mid, post, htr⟩ := append_of_getElem? (by omega) h₁ h₂
    exact hall _ _ _ _ freshStart_earlyResult hrun _ pre l₁ mid l₂ post htr hresumed hdone hwaiting
  · intro hall
    have hended : ∀ th ∈ (earlyResult.play (engineSystem attributeEvaluator)
        (fun s => s.answer waitForScript) raceSchedule).2.threads, ∃ r, th.rest = .ret r := by
      intro th hth
      rcases mem_iff_getElem?.mp hth with ⟨_ | _ | i, hi⟩
      · cases some.inj hi
        exact ⟨_, rfl⟩
      · cases some.inj hi
        exact ⟨_, rfl⟩
      · cases hi
    obtain ⟨r, hr, -⟩ := hall _ _ _ _ freshStart_earlyResult hrun _ mem_cons_self rfl
      fun th hth _ => hended th hth
    cases hr

end AppliverySoar.Workflows
