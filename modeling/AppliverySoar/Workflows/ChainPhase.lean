import AppliverySoar.Workflows.Calls

/-!
# What a chain records, and in which order

A chain inserts at most one pending row, and then records that it waits; or it
records that it is done. `phaseOf` reads off what a chain has exchanged how far
it is with that, and `ChainCall` says which calls on the two tables it makes in
which phase.

Results:
* `meets_runDeviceStepChain`: a chain makes its calls in the order of the
  phases, and ends parked or recorded unless an upsert has rejected.
-/

namespace AppliverySoar.Workflows

open Async Prog Compliance

variable {E : Evaluator}

/-! ## Phases -/

/-- A run's id and a device's id: what the two tables have in common. -/
abbrev ChainKey : Type := String × String

/-- The key of a pending row. -/
def PendingData.key (data : PendingData) : ChainKey := (data.runId, data.deviceSnapshot.id)

/-- The key of a result row. -/
def RunResultRow.key (row : RunResultRow) : ChainKey := (row.runId, row.deviceId)

/-- The key of a chain. -/
def ChainEnv.key (env : ChainEnv) : ChainKey := (env.runId, env.device.id)

/-- How far a chain is: it has recorded nothing, or inserted its pending row, or
recorded that it waits, or that it is done; `stale` when it has recorded
that it is done after it had inserted a row. -/
inductive ChainPhase where
  | running
  | created
  | parked
  | recorded
  | stale
  deriving DecidableEq

/-- A result is recorded. -/
def ChainPhase.record : ChainPhase → ResultStatus → ChainPhase
  | _, .waiting => .parked
  | .running, .done => .recorded
  | .recorded, .done => .recorded
  | _, .done => .stale

/-- The phase after one more exchange. -/
def ChainPhase.after (phase : ChainPhase) (e : EngineEvent E) : ChainPhase :=
  match e with
  | ⟨.createPendingStep _, .ok _⟩ => .created
  | ⟨.upsertRunResult row, .ok _⟩ => phase.record row.status
  | _ => phase

/-- The phase that an exchange leads to. -/
def phaseOf (log : List (EngineEvent E)) : ChainPhase :=
  log.foldl ChainPhase.after .running

@[simp] theorem phaseOf_nil : phaseOf ([] : List (EngineEvent E)) = .running := rfl

@[simp] theorem phaseOf_snoc (log : List (EngineEvent E))
    (e : EngineEvent E) : phaseOf (log ++ [e]) = (phaseOf log).after e := by
  simp [phaseOf]

@[simp] theorem after_error (phase : ChainPhase) (c : EngineCall) (e : JsError) :
    phase.after (E := E) ⟨c, .error e⟩ = phase := by
  cases c <;> rfl

/-- The last thing exchanged is a `'waiting'` that could not be recorded. -/
def WaitingRejected (log : List (EngineEvent E)) : Prop :=
  ∃ pre row e, log = pre ++ [⟨.upsertRunResult row, .error e⟩] ∧ row.status = .waiting

/-- The recording of a result, and the mark of a chain's entry, which is no call
of the source and never rejects. -/
def EngineCall.records : EngineCall → Bool
  | .upsertRunResult _ | .beginChain .. => true
  | _ => false

/-- Some result could not be recorded. -/
def RecordRejected (log : List (EngineEvent E)) : Prop :=
  ∃ c e, ⟨c, .error e⟩ ∈ log ∧ c.records = true

/-- When a chain records that it is done: nothing was recorded before, or it has
recorded that already, or it has inserted a row and could not record that
it waits. -/
def MayRecordDone (log : List (EngineEvent E)) : Prop :=
  phaseOf log = .running ∨ phaseOf log = .recorded ∨
    (phaseOf log = .created ∧ WaitingRejected log)

/-- The calls of the chain `k` on the two tables, and when it makes them. -/
def ChainCall (k : ChainKey) (log : List (EngineEvent E)) : EngineCall → Prop
  | .createPendingStep data => phaseOf log = .running ∧ data.key = k
  | .upsertRunResult row =>
    row.key = k ∧ (row.status = .waiting → phaseOf log = .created) ∧
      (row.status = .done → MayRecordDone log)
  | .deletePendingStep _ | .claimDueSteps _ | .deleteByToken _ => False
  | _ => True

/-- How a chain ends. -/
def ChainEnd (log : List (EngineEvent E)) : Prop :=
  phaseOf log = .parked ∨ phaseOf log = .recorded ∨ RecordRejected log

/-! ## Calls that do not touch the two tables -/

/-- A call that reads or writes neither pending rows nor results of a chain. -/
def EngineCall.quiet : EngineCall → Bool
  | .createPendingStep _ | .upsertRunResult _ | .deletePendingStep _ | .claimDueSteps _
  | .deleteByToken _ => false
  | _ => true

/-- A call that leaves the two tables alone. -/
abbrev Quiet (c : EngineCall) : Prop := c.quiet = true

theorem quiet_of_plain (c : EngineCall) (h : c.plain = true) : Quiet c := by
  cases c <;> first | rfl | cases h

theorem quiet_of_serves (c : EngineCall) (h : c.serves = true) : Quiet c :=
  quiet_of_plain c (plain_of_serves c h)

theorem stepCalls_quiet : StepCalls Quiet := ⟨quiet_of_plain, fun _ => rfl⟩

variable {c : EngineCall}

theorem chainCall_of_quiet {k : ChainKey} {log : List (EngineEvent E)}
    (h : Quiet c) : ChainCall k log c := by
  cases c <;> trivial

theorem after_quiet {phase : ChainPhase} (r : Except JsError (c.Answer E))
    (h : Quiet c) : phase.after (E := E) ⟨c, r⟩ = phase := by
  cases c <;> first | rfl | cases h

theorem phaseOf_quiet (log : List (EngineEvent E)) (h : Quiet c)
    (r : Except JsError (c.Answer E)) : phaseOf (log ++ [⟨c, r⟩]) = phaseOf log := by
  rw [phaseOf_snoc, after_quiet r h]

section Parts

variable {α : Type} {k : ChainKey} {log : List (EngineEvent E)}

variable {p : Engine E α}

theorem meets_quiet (h : p.Calls Quiet) (k : ChainKey)
    (log : List (EngineEvent E)) :
    p.Meets (World.log _ _) (ChainCall k) log
      fun _ log' => phaseOf log' = phaseOf log ∧ log <+: log' := by
  have hframe := Ensures.meets_frame (W := World.log (engineSig E) JsError) phaseOf
    (fun s c r hc _ => phaseOf_quiet s hc r) h log
  refine (hframe.weaken fun s c hc => chainCall_of_quiet hc).extends.mono fun r s hr => ?_
  cases r with
  | ok a => exact ⟨hr.1.1, hr.2⟩
  | error e => exact hr

variable {log' : List (EngineEvent E)}

theorem RecordRejected.mono
    (h : RecordRejected log) (hpre : log <+: log') : RecordRejected log' := by
  obtain ⟨c, e, hmem, hc⟩ := h
  exact ⟨c, e, hpre.subset hmem, hc⟩

theorem ChainEnd.mono (h : ChainEnd log)
    (hphase : phaseOf log' = phaseOf log) (hpre : log <+: log') : ChainEnd log' := by
  unfold ChainEnd
  rw [hphase]
  rcases h with h | h | h
  · exact .inl h
  · exact .inr (.inl h)
  · exact .inr (.inr (h.mono hpre))

/-- After a chain has come to its end, quiet calls leave it there. -/
theorem meets_quiet_end (h : p.Calls Quiet) (hend : ChainEnd log) :
    p.Meets (World.log _ _) (ChainCall k) log fun _ log' => ChainEnd log' :=
  (meets_quiet h k log).mono fun _ _ hr => hend.mono hr.1 hr.2

variable {row : RunResultRow} (env : ChainEnv) (entries : List StepLogEntry) (step : WorkflowStep)
  (currentId : String)

theorem meets_upsert (hok : ChainCall k log (.upsertRunResult row)) :
    (ask (.upsertRunResult row) : Engine E Unit).Meets (World.log _ _) (ChainCall k) log
      (post (fun _ log' => phaseOf log' = (phaseOf log).record row.status)
        fun e log' => log' = log ++ [⟨.upsertRunResult row, .error e⟩]) := by
  refine ⟨hok, fun r _ => ?_⟩
  cases r with
  | ok u => exact phaseOf_snoc log _
  | error e => exact rfl

theorem record_done {log : List (EngineEvent E)} (h : MayRecordDone log) :
    (phaseOf log).record .done = .recorded ∨
      ((phaseOf log).record .done = .stale ∧ WaitingRejected log) := by
  rcases h with h | h | ⟨h, hrejected⟩
  · rw [h]
    exact .inl rfl
  · rw [h]
    exact .inl rfl
  · rw [h]
    exact .inr ⟨rfl, hrejected⟩

theorem recordRejected_snoc (log : List (EngineEvent E)) {c : EngineCall} (e : JsError)
    (hc : c.records = true) : RecordRejected (log ++ [⟨c, .error e⟩]) :=
  ⟨c, e, by simp, hc⟩

theorem WaitingRejected.recordRejected (h : WaitingRejected log) : RecordRejected log := by
  obtain ⟨pre, row, e, rfl, _⟩ := h
  exact recordRejected_snoc pre e rfl

/-! ## The ends of a chain -/

/-- Recording that a chain is done: the result is there, or an upsert has
rejected. -/
theorem meets_upsert_done (hkey : row.key = k) (hstatus : row.status = .done)
    (hlog : MayRecordDone log) :
    (ask (.upsertRunResult row) : Engine E Unit).Meets (World.log _ _) (ChainCall k) log
      fun _ log' => ChainEnd log' := by
  have hok : ChainCall k log (.upsertRunResult row) := by
    refine ⟨hkey, fun h => ?_, fun _ => hlog⟩
    rw [hstatus] at h
    cases h
  refine (meets_upsert hok).extends.mono fun r log' h => ?_
  obtain ⟨h, hpre⟩ := h
  cases r with
  | ok u =>
    rw [post_ok, hstatus] at h
    rcases record_done hlog with hr | ⟨_, hrejected⟩
    · exact .inr (.inl (h.trans hr))
    · exact .inr (.inr (hrejected.recordRejected.mono hpre))
  | error e =>
    rw [post_error] at h
    rw [h]
    exact .inr (.inr (recordRejected_snoc log e rfl))

theorem quiet_finalizeRunIfDone (runId : String) :
    (finalizeRunIfDone runId : Engine E Unit).Calls Quiet :=
  calls_finalizeRunIfDone quiet_of_plain runId

/-- The `catch` of a chain ends it. -/
theorem meets_recordFailure (e : JsError)
    (hlog : MayRecordDone log) :
    (recordFailure env entries e : Engine E _).Meets (World.log _ _) (ChainCall env.key) log
      fun _ log' => ChainEnd log' := by
  unfold recordFailure
  refine Meets.bind (R := fun _ log' => ChainEnd log') ?_ fun _ log' hend => ?_
  · refine Meets.tryCatch (E := fun _ log' => ChainEnd log') ?_ fun _ _ h => h
    exact (meets_upsert_done rfl rfl hlog).mono fun r _ h => by cases r <;> exact h
  · refine Meets.bind (R := fun _ log' => ChainEnd log') ?_ fun _ _ h => h
    refine Meets.tryCatch (E := fun _ log' => ChainEnd log') ?_ fun _ _ h => h
    exact (meets_quiet_end (quiet_finalizeRunIfDone env.runId) hend).mono
      fun r _ h => by cases r <;> exact h

theorem meets_recordDone
    (hlog : phaseOf log = .running) :
    (recordDone env entries : Engine E _).Meets (World.log _ _) (ChainCall env.key) log
      fun _ log' => ChainEnd log' := by
  unfold recordDone
  refine Meets.bind (R := fun outcome log' => match outcome with
    | .ok _ => phaseOf log' = .recorded
    | .error _ => phaseOf log' = .running ∨ phaseOf log' = .recorded) ?_ fun outcome log' h => ?_
  · refine Meets.attempt ?_
    refine Meets.bind (R := fun _ log' => phaseOf log' = .recorded) ?_ fun _ log' h => ?_
    · have hok : ChainCall env.key log (.upsertRunResult
          { runId := env.runId, deviceId := env.device.id, deviceName := env.device.displayName
            steps := entries, status := .done, finalStatus := some (finalStatus entries) }) :=
        And.intro rfl (And.intro (fun h => by cases h) fun _ => .inl hlog)
      refine (meets_upsert hok).mono fun r log' h => ?_
      cases r with
      | ok u => exact h.trans (by rw [hlog]; rfl)
      | error e =>
        refine .inl ?_
        rw [post_error] at h
        rw [h, phaseOf_snoc, after_error, hlog]
    · refine (meets_quiet (quiet_finalizeRunIfDone env.runId) _ log').mono fun r _ hr => ?_
      cases r with
      | ok u => exact hr.1.trans h
      | error e => exact .inr (hr.1.trans h)
  · cases outcome with
    | ok u => exact .inr (.inl h)
    | error e =>
      refine meets_recordFailure env entries e ?_
      rcases h with h | h
      · exact .inl h
      · exact .inr (.inl h)

/-- A chain that has recorded nothing inserts its row and records that it
waits. -/
theorem meets_park {data : PendingData}
    (hkey : data.key = env.key) (hlog : phaseOf log = .running) :
    (park env entries data : Engine E _).Meets (World.log _ _) (ChainCall env.key) log
      fun _ log' => ChainEnd log' := by
  unfold park
  refine Meets.bind (R := fun outcome log' => match outcome with
    | .ok _ => phaseOf log' = .parked
    | .error _ => MayRecordDone log') ?_ fun outcome log' h => ?_
  · refine Meets.attempt ?_
    refine Meets.bind (R := fun _ log' => phaseOf log' = .created) ?_ fun _ log' h => ?_
    · refine ⟨⟨hlog, hkey⟩, fun r _ => ?_⟩
      cases r with
      | ok u => exact phaseOf_snoc log _
      | error e =>
        refine .inl ?_
        show phaseOf (log ++ [_]) = _
        rw [phaseOf_snoc, after_error, hlog]
    · have hok : ChainCall env.key log' (.upsertRunResult
          { runId := env.runId, deviceId := env.device.id, deviceName := env.device.displayName
            steps := entries, status := .waiting, finalStatus := none }) :=
        And.intro rfl (And.intro (fun _ => h) fun h => by cases h)
      refine (meets_upsert hok).mono fun r log'' h' => ?_
      cases r with
      | ok u => exact h'
      | error e =>
        rw [post_error] at h'
        refine .inr (.inr ⟨?_, log', _, e, h', rfl⟩)
        rw [h', phaseOf_snoc, after_error, h]
  · cases outcome with
    | ok u => exact .inl h
    | error e => exact meets_recordFailure env entries e h

/-! ## The chain -/

theorem data_key_waitStep :
    (waitStep env step currentId : Engine E _).Ensures Quiet
      fun outcome => ∀ entry data, outcome = .park entry data → ∀ entries,
        (data entries).key = env.key := by
  unfold waitStep
  split
  · simp
  · split_ifs
    · simp
    · refine Ensures.bind (calls_ask quiet_of_serves rfl) fun start _ => ?_
      rintro entry data ⟨⟩ entries
      rfl

theorem data_key_runScriptWaitStep :
    (runScriptWaitStep env step currentId : Engine E _).Ensures Quiet
      fun outcome => ∀ entry data, outcome = .park entry data → ∀ entries,
        (data entries).key = env.key := by
  unfold runScriptWaitStep
  split
  · simp
  · refine Ensures.bind (calls_ask quiet_of_serves rfl) fun token _ => ?_
    refine Ensures.bind (calls_anyMdmAction stepCalls_quiet.serve _) fun r _ => ?_
    split_ifs
    · refine Ensures.bind (calls_ask quiet_of_serves rfl) fun start _ => ?_
      rintro entry data ⟨⟩ entries
      rfl
    · simp

/-- A step makes quiet calls, and the row it parks with is its chain's. -/
theorem data_key_runStep :
    (runStep env step currentId : Engine E _).Ensures Quiet
      fun outcome => ∀ entry data, outcome = .park entry data → ∀ entries,
        (data entries).key = env.key := by
  unfold runStep
  split
  · exact data_key_waitStep env step currentId
  · exact data_key_runScriptWaitStep env step currentId
  · refine Ensures.bind (calls_executeStep quiet_of_serves
      (fun _ => calls_anyMdmAction stepCalls_quiet.serve _) (calls_durableStep quiet_of_serves env step))
      fun r _ => ?_
    rintro entry data ⟨⟩

/-- A quiet part of a chain, whose failure is caught, in front of the rest. -/
theorem meets_attempt_bind {β : Type} {R : α → Prop}
    {f : Except JsError α → Engine E β} {Q : Except JsError β → List (EngineEvent E) → Prop}
    (h : p.Ensures Quiet R) (hlog : phaseOf log = .running)
    (hf : ∀ r log', phaseOf log' = .running → (∀ a, r = .ok a → R a) →
      (f r).Meets (World.log _ _) (ChainCall k) log' Q) :
    (p.attempt >>= f).Meets (World.log _ _) (ChainCall k) log Q := by
  refine Meets.bind (R := fun r log' => phaseOf log' = .running ∧ ∀ a, r = .ok a → R a)
    (Meets.attempt ?_) fun r log' hr => hf r log' hr.1 hr.2
  have hframe := Ensures.meets_frame (W := World.log (engineSig E) JsError) phaseOf
    (fun s c r hc _ => phaseOf_quiet s hc r) h log
  refine (hframe.weaken fun s c hc => chainCall_of_quiet hc).mono fun r s hr => ?_
  cases r with
  | ok a =>
    refine ⟨hr.1.trans hlog, ?_⟩
    rintro b ⟨⟩
    exact hr.2
  | error e =>
    refine ⟨hr.trans hlog, ?_⟩
    rintro b ⟨⟩

theorem meets_chainLoop (gate : Option (Gate E)) (fuel : ℕ) (currentId : String)
    (entries : List StepLogEntry) (hlog : phaseOf log = .running) :
    (chainLoop env gate fuel currentId entries).Meets (World.log _ _) (ChainCall env.key) log
      fun _ log' => ChainEnd log' := by
  induction fuel generalizing currentId entries log with
  | zero => exact meets_recordDone env entries hlog
  | succ fuel ih =>
    unfold chainLoop
    split_ifs
    · exact meets_recordDone env entries hlog
    · split
      · exact meets_recordDone env entries hlog
      · next step _ =>
        refine meets_attempt_bind (ensures_gate quiet_of_serves env.toStepEnv gate) hlog
          fun recovered log' hlog' _ => ?_
        rcases recovered with e | ⟨_ | _⟩
        · exact meets_recordFailure env entries e (.inl hlog')
        · refine meets_attempt_bind (data_key_runStep env step currentId) hlog'
            fun outcome log'' hlog'' hkey => ?_
          rcases outcome with e | ⟨r | ⟨entry, data⟩⟩
          · exact meets_recordFailure env entries e (.inl hlog'')
          · exact ih _ _ hlog''
          · exact meets_park env _ (hkey _ rfl entry data rfl _) hlog''
        · refine meets_attempt_bind (calls_anyRecoverySteps stepCalls_quiet.serve env.toStepEnv entries)
            hlog' fun outcome log'' hlog'' _ => ?_
          rcases outcome with e | recoveryLog
          · exact meets_recordFailure env entries e (.inl hlog'')
          · exact meets_recordDone env _ hlog''

/-- **Main theorem on one chain**: whatever its calls are answered, it inserts
its row, records that it waits and records that it is done in the order of
the phases, for its own run and device, and it ends parked or recorded
unless a result could not be recorded. -/
theorem meets_runDeviceStepChain (startStepId : Option String)
    (entries : List StepLogEntry) (hlog : phaseOf log = .running) :
    (runDeviceStepChain env startStepId entries : Engine E _).Meets (World.log _ _)
      (ChainCall env.key) log fun _ log' => ChainEnd log' := by
  unfold runDeviceStepChain
  refine Meets.bind (R := fun _ log' => phaseOf log' = .running) ?_ fun _ log hlog => ?_
  · refine ⟨trivial, fun r _ => ?_⟩
    cases r with
    | ok u => exact (phaseOf_quiet log rfl _).trans hlog
    | error e => exact .inr (.inr (recordRejected_snoc log e rfl))
  split
  · refine Meets.bind (R := fun _ log' => ChainEnd log') ?_ fun _ log' hend => ?_
    · exact (meets_upsert_done rfl rfl (.inl hlog)).mono fun r _ h => by cases r <;> exact h
    · refine Meets.bind (R := fun _ log' => ChainEnd log') ?_ fun _ _ h => h
      exact (meets_quiet_end (quiet_finalizeRunIfDone env.runId) hend).mono
        fun r _ h => by cases r <;> exact h
  · refine meets_attempt_bind (ensures_prepareChain quiet_of_serves env startStepId) hlog
      fun r log' hlog' _ => ?_
    rcases r with e | ⟨gate, authorization⟩
    · exact meets_recordFailure env entries e (.inl hlog')
    · exact meets_chainLoop { env with authorization := authorization } gate _ _ _ hlog'

end Parts

end AppliverySoar.Workflows
