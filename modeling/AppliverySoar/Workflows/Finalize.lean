import AppliverySoar.Workflows.TaskCalls

/-!
# Recording a result and finalizing the run

Each part of the durable engine that records a device as done tries to finalize
the run right afterwards (durableEngine.ts, lines 79–99). `FinPhase` reads off
what an operation has exchanged how far it is with that.

Results:
* `meets_fin_body`: every operation finalizes after each `'done'`, and completes
  a run only with the number of results that it has counted.
-/

namespace AppliverySoar.Workflows

open Async Compliance

variable {E : Evaluator} {c : EngineCall}

/-! ## Phases -/

/-- How far an operation is with a finalization: it has none in hand, or has
recorded a device of the run as done, or has found the run open, or has
counted enough results. `own` tells whether it had recorded a device before. -/
inductive FinPhase where
  | idle
  | recorded (runId : String)
  | found (runId : String) (total : Option ℕ) (own : Bool)
  | counted (runId : String) (doneCount : ℕ) (own : Bool)
  deriving DecidableEq

/-- The results that are done. -/
def doneCount (rows : List RunResultRow) : ℕ :=
  (rows.filter fun r => r.status = .done).length

/-- A device has just been recorded as done. -/
def FinPhase.justRecorded : FinPhase → Bool
  | .recorded _ => true
  | _ => false

/-- The results are counted. -/
def FinPhase.count (phase : FinPhase) (runId : String) (rows : List RunResultRow) : FinPhase :=
  match phase with
  | .found _ (some total) own =>
    if total ≤ doneCount rows then .counted runId (doneCount rows) own else .idle
  | _ => .idle

/-- The phase after one more exchange. -/
def FinPhase.after (phase : FinPhase) : (c : EngineCall) → Except JsError (c.Answer E) → FinPhase
  | .upsertRunResult row, .ok _ => if row.status = .done then .recorded row.runId else .idle
  | .upsertRunResult _, .error _ => .idle
  | .findRun runId, .ok (some run) =>
    if run.completed then .idle else .found runId run.total phase.justRecorded
  | .findRun _, _ => .idle
  | .findRunResults runId, .ok rows => phase.count runId rows
  | .findRunResults _, .error _ => .idle
  | .completeRun .., _ => .idle
  | _, _ => phase

/-- The surroundings that only follow the phase. -/
def finWorld (E : Evaluator) : World (engineSig E) JsError FinPhase where
  may _ _ _ := True
  next phase c r := phase.after c r

/-- The calls that an operation makes in each phase. -/
def FinCall : FinPhase → EngineCall → Prop
  | .recorded runId, c => c = .findRun runId
  | .found runId _ _, c => c = .findRunResults runId
  | .counted runId n _, c => ∃ results, c = .completeRun runId n results
  | .idle, .findRunResults _ | .idle, .completeRun .. => False
  | .idle, _ => True

/-- A call that moves the phase. -/
def EngineCall.accounts : EngineCall → Bool
  | .upsertRunResult _ | .findRun _ | .findRunResults _ | .completeRun .. => true
  | _ => false

/-- A call beside the finalization. -/
abbrev Aside (c : EngineCall) : Prop := c.accounts = false

theorem aside_of_serves (c : EngineCall) (h : c.serves = true) : Aside c := by
  cases c <;> first | rfl | cases h

theorem serveCalls_aside : ServeCalls Aside := ⟨aside_of_serves, fun _ => rfl⟩

theorem after_aside (h : Aside c) (phase : FinPhase)
    (r : Except JsError (c.Answer E)) : phase.after c r = phase := by
  cases c <;> first | (cases phase <;> rfl) | cases h

theorem finCall_of_aside (h : Aside c) : FinCall .idle c := by
  cases c <;> trivial

/-! ## The parts of a chain -/

section Parts

variable {α β : Type} {p : Engine E α} {R : α → Prop} (env : ChainEnv) (log : List StepLogEntry)

/-- Whatever a part comes to, it leaves no finalization in hand. -/
abbrev Settled {γ : Type} (_ : γ) (phase : FinPhase) : Prop := phase = .idle

theorem meets_aside (h : p.Ensures Aside R) :
    p.Meets (finWorld E) FinCall .idle
      (post (fun a phase => phase = .idle ∧ R a) fun _ phase => phase = .idle) := by
  have hframe := Prog.Ensures.meets_frame_ok (W := finWorld E) (fun phase => phase)
    (fun s c r hc _ => after_aside hc s r) h FinPhase.idle
  refine hframe.weaken fun phase c hc => ?_
  rw [hc.2]
  exact finCall_of_aside hc.1

theorem settled_of_aside (h : p.Calls Aside) :
    p.Meets (finWorld E) FinCall .idle Settled :=
  (meets_aside h).mono fun r _ hr => by cases r <;> [exact hr; exact hr.1]

/-- A part beside the finalization, whose failure is caught, in front of the
rest. -/
theorem meets_fin_bind {f : Except JsError α → Engine E β}
    {Q : Except JsError β → FinPhase → Prop} (h : p.Ensures Aside R)
    (hf : ∀ r, (f r).Meets (finWorld E) FinCall .idle Q) :
    (p.attempt >>= f).Meets (finWorld E) FinCall .idle Q := by
  refine Prog.Meets.bind (R := Settled) (Prog.Meets.attempt ?_) ?_
  · exact (meets_aside h).mono fun r _ hr => by cases r <;> [exact hr; exact hr.1]
  · rintro r _ rfl
    exact hf r

theorem meets_fin_finalize {phase : FinPhase} {runId : String}
    (h : phase = .idle ∨ phase = .recorded runId) :
    (finalizeRunIfDone runId : Engine E Unit).Meets (finWorld E) FinCall phase Settled := by
  have hfind : FinCall phase (.findRun runId) := by
    rcases h with rfl | rfl
    · trivial
    · exact rfl
  unfold finalizeRunIfDone
  refine ⟨hfind, fun r _ => ?_⟩
  rcases r with e | run?
  · exact rfl
  cases run? with
  | none => exact rfl
  | some run =>
    obtain ⟨id, slug, workflowId, workflowName, target, completed, total, count, entries⟩ := run
    cases completed with
    | true => exact rfl
    | false =>
      cases total with
      | none => exact ⟨rfl, fun r _ => by cases r <;> exact rfl⟩
      | some total =>
        refine ⟨rfl, fun r _ => ?_⟩
        rcases r with e | rows
        · exact rfl
        show (if doneCount rows ≥ total then _ else _ : Engine E Unit).Meets (finWorld E) FinCall
          (if total ≤ doneCount rows then .counted runId (doneCount rows) _ else .idle) Settled
        by_cases hcount : total ≤ doneCount rows
        · rw [if_pos hcount, if_pos hcount]
          exact ⟨⟨_, rfl⟩, fun _ _ => rfl⟩
        · rw [if_neg hcount, if_neg hcount]
          exact rfl

theorem meets_fin_upsert (runId : String) (device : DeviceRef) (log : List StepLogEntry)
    (final : Option FinalStatus) :
    (upsertRunResult runId device log .done final : Engine E Unit).Meets (finWorld E) FinCall .idle
      (post (fun _ phase => phase = .recorded runId) fun _ phase => phase = .idle) :=
  ⟨trivial, fun r _ => by cases r <;> exact rfl⟩

theorem meets_fin_recordFailure (e : JsError) :
    (recordFailure env log e : Engine E _).Meets (finWorld E) FinCall .idle Settled := by
  unfold recordFailure
  refine Prog.Meets.bind (R := fun _ phase => phase = .idle ∨ phase = .recorded env.runId) ?_ ?_
  · refine Prog.Meets.tryCatch (E := Settled) ?_ fun _ _ h => .inl h
    exact (meets_fin_upsert _ _ _ _).mono fun r _ h => by cases r <;> [exact h; exact .inr h]
  · intro _ phase h
    refine Prog.Meets.bind (R := Settled) ?_ fun _ _ h => h
    refine Prog.Meets.tryCatch (E := Settled) ?_ fun _ _ h => h
    exact (meets_fin_finalize h).mono fun r _ h => by cases r <;> exact h

theorem meets_fin_recordDone :
    (recordDone env log : Engine E _).Meets (finWorld E) FinCall .idle Settled := by
  unfold recordDone
  refine Prog.Meets.bind (R := Settled) (Prog.Meets.attempt ?_) ?_
  · refine Prog.Meets.bind (R := fun _ phase => phase = .recorded env.runId) ?_ ?_
    · exact (meets_fin_upsert _ _ _ _).mono fun r _ h => by cases r <;> exact h
    · exact fun _ phase h => (meets_fin_finalize (.inr h)).mono fun r _ h => h
  · rintro (e | u) phase rfl
    · exact meets_fin_recordFailure env log e
    · exact rfl

theorem meets_fin_park (data : PendingData) :
    (park env log data : Engine E _).Meets (finWorld E) FinCall .idle Settled := by
  unfold park
  refine Prog.Meets.bind (R := Settled) (Prog.Meets.attempt ?_) ?_
  · refine Prog.Meets.bind (R := Settled) ?_ ?_
    · exact ⟨trivial, fun r _ => by cases r <;> exact rfl⟩
    · rintro _ phase rfl
      exact ⟨trivial, fun r _ => by cases r <;> exact rfl⟩
  · rintro (e | u) phase rfl
    · exact meets_fin_recordFailure env log e
    · exact rfl

theorem meets_fin_recordBlocked (row : PendingData) (log : List StepLogEntry) :
    (recordBlocked row log : Engine E _).Meets (finWorld E) FinCall .idle Settled := by
  unfold recordBlocked
  refine Prog.Meets.bind (R := fun _ phase => phase = .recorded row.runId) ?_ ?_
  · exact (meets_fin_upsert _ _ _ _).mono fun r _ h => by cases r <;> exact h
  · exact fun _ phase h => meets_fin_finalize (.inr h)

/-! ## The operations -/

theorem meets_fin_chainLoop (gate : Option (Gate E)) (fuel : ℕ)
    (currentId : String) (log : List StepLogEntry) :
    (chainLoop env gate fuel currentId log).Meets (finWorld E) FinCall .idle Settled := by
  induction fuel generalizing currentId log with
  | zero => exact meets_fin_recordDone env log
  | succ fuel ih =>
    unfold chainLoop
    split_ifs
    · exact meets_fin_recordDone env log
    · split
      · exact meets_fin_recordDone env log
      · next step _ =>
        refine meets_fin_bind (ensures_gate aside_of_serves env.toStepEnv gate) fun recovered => ?_
        rcases recovered with e | ⟨_ | _⟩
        · exact meets_fin_recordFailure env log e
        · refine meets_fin_bind (calls_runStep serveCalls_aside env step currentId)
            fun outcome => ?_
          rcases outcome with e | ⟨r | ⟨entry, data⟩⟩
          · exact meets_fin_recordFailure env log e
          · exact ih _ _
          · exact meets_fin_park env _ _
        · refine meets_fin_bind (calls_anyRecoverySteps serveCalls_aside env.toStepEnv log)
            fun outcome => ?_
          rcases outcome with e | recoveryLog
          · exact meets_fin_recordFailure env log e
          · exact meets_fin_recordDone env _

theorem meets_fin_chain (startStepId : Option String) (log : List StepLogEntry) :
    (runDeviceStepChain env startStepId log : Engine E _).Meets (finWorld E) FinCall .idle
      Settled := by
  unfold runDeviceStepChain
  refine Prog.Meets.bind (R := Settled) ?_ ?_
  · exact ⟨trivial, fun r _ => by cases r <;> exact rfl⟩
  rintro _ phase rfl
  split
  · refine Prog.Meets.bind (R := fun _ phase => phase = .recorded env.runId) ?_ ?_
    · exact (meets_fin_upsert _ _ _ _).mono fun r _ h => by cases r <;> exact h
    · intro _ phase h
      refine Prog.Meets.bind (R := Settled) ?_ fun _ _ h => h
      exact (meets_fin_finalize (.inr h)).mono fun r _ h => by cases r <;> exact h
  · refine meets_fin_bind (ensures_prepareChain aside_of_serves env startStepId) fun r => ?_
    rcases r with e | ⟨gate, authorization⟩
    · exact meets_fin_recordFailure env log e
    · exact meets_fin_chainLoop _ gate _ _ _

theorem meets_fin_ask {c : EngineCall} (hc : Aside c) {f : c.Answer E → Engine E α}
    (hf : ∀ a, (f a).Meets (finWorld E) FinCall .idle Settled) :
    (ask c >>= f).Meets (finWorld E) FinCall .idle Settled := by
  refine Prog.Meets.bind (R := Settled) ?_ ?_
  · exact ⟨finCall_of_aside hc, fun r _ => by
      cases r <;> exact after_aside hc .idle _⟩
  · rintro a phase rfl
    exact hf a

theorem meets_fin_try {p : Engine E Unit} (h : p.Meets (finWorld E) FinCall .idle Settled) :
    (tryCatch p fun _ => return () : Engine E Unit).Meets (finWorld E) FinCall .idle Settled :=
  Prog.Meets.tryCatch (E := Settled) (h.mono fun r _ h => by cases r <;> exact h)
    fun _ _ h => h

theorem meets_fin_continue (target : String) (log : List StepLogEntry) :
    (do
      let _ ← runDeviceStepChain env (some target) log
      return () : Engine E Unit).Meets (finWorld E) FinCall .idle Settled := by
  refine Prog.Meets.bind (R := Settled) ?_ fun _ _ h => h
  exact (meets_fin_chain _ _ _).mono fun r _ h => by cases r <;> exact h

theorem meets_fin_resumeOne (row : PendingRow) :
    (resumeOne row : Engine E Unit).Meets (finWorld E) FinCall .idle Settled := by
  unfold resumeOne
  refine meets_fin_ask rfl fun bearer => ?_
  refine meets_fin_ask rfl fun workflow? => ?_
  refine Prog.Meets.bind (R := Settled) ?_ ?_
  · refine (meets_fin_try ?_).mono fun r _ h => by cases r <;> exact h
    cases workflow? with
    | none => exact meets_fin_recordBlocked _ _
    | some workflow =>
      dsimp only
      by_cases hauth : orElse bearer "" = ""
      · rw [if_pos hauth]
        exact meets_fin_recordBlocked _ _
      · rw [if_neg hauth]
        exact meets_fin_continue _ _ _
  · rintro _ phase rfl
    have hdelete : (ask (.deletePendingStep row.id) : Engine E Unit).Calls Aside :=
      Prog.calls_call rfl
    exact meets_fin_try (settled_of_aside hdelete)

theorem meets_fin_resumeByToken (row : PendingRow) (outcomeOk : Bool) (detail : String) :
    (resumeByToken row outcomeOk detail : Engine E Unit).Meets (finWorld E) FinCall .idle
      Settled := by
  unfold resumeByToken
  refine meets_fin_ask rfl fun workflow? => ?_
  cases workflow? with
  | none => exact meets_fin_recordBlocked _ _
  | some workflow =>
    refine meets_fin_ask rfl fun bearer => ?_
    dsimp only
    by_cases hauth : orElse bearer "" = ""
    · rw [if_pos hauth]
      exact meets_fin_recordBlocked _ _
    · rw [if_neg hauth]
      exact meets_fin_try (meets_fin_continue _ _ _)

/-- **Main theorem on finalizing**: whatever its calls are answered, an operation
follows each `'done'` that it has recorded by a finalization of the run, which
it brings to its end. -/
theorem meets_fin_body (task : EngineTask) :
    (task.body E).Meets (finWorld E) FinCall .idle Settled := by
  cases task with
  | chain env =>
    refine Prog.Meets.bind (R := Settled) ?_ fun _ _ h => h
    exact (meets_fin_chain env none []).mono fun r _ h => by cases r <;> exact h
  | tick limit => exact meets_fin_ask rfl fun _ => rfl
  | resume row => exact meets_fin_resumeOne row
  | scriptResult token ok detail =>
    show (resumeWorkflowPendingStepByToken token ok detail : Engine E Unit).Meets _ _ _ _
    unfold resumeWorkflowPendingStepByToken
    split
    · exact rfl
    · refine meets_fin_ask rfl fun row? => ?_
      cases row? with
      | none => exact rfl
      | some row => exact meets_fin_resumeByToken row ok detail

end Parts

end AppliverySoar.Workflows
