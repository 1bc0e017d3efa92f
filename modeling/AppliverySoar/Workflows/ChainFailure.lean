import AppliverySoar.Workflows.World
import Mathlib.Data.List.Induction

/-!
# What a failed chain leaves behind

The `catch` of `runDeviceStepChain` declares a chain finished, wherever it was
when a call threw. The one point at which this is wrong is between the insert
of the pending row and the recording of `'waiting'`: the row stays, and a tick
or a script result goes on with a chain that has been reported as failed.

Results:
* `catch_leaves_nothing_iff`: when the `catch` has recorded a failure, no row of
  the chain is left to be resumed if and only if there was none before and the
  call that threw is not the recording of `'waiting'`.
* `catch_leaves_row`: a chain that is recorded as failed and leaves its row.
-/

namespace AppliverySoar.Workflows

open Async Compliance List

variable {E : Evaluator}

/-! ## Statements -/

/-- A row that a tick claims once it is due, or that a script result takes. -/
def Resumable (r : PendingRow) : Prop :=
  r.claimed = false ∨ (truthy r.pendingToken).isSome

/-- No row of the chain `k` is left to be resumed. -/
def NothingLeft (k : ChainKey) (s : EngineStore) : Prop :=
  ∀ r ∈ s.pending, r.key = k → ¬Resumable r

/-- A chain throws after the exchange `es`, and its `catch` records `row`. -/
def CatchRecords (env : ChainEnv) (startStepId : Option String) (entries : List StepLogEntry)
    (es : List (EngineEvent E)) (row : RunResultRow) : Prop :=
  ∃ env' entries' e rest,
    Prog.Steps (runDeviceStepChain env startStepId entries) es (recordFailure env' entries' e) ∧
    Prog.Steps (recordFailure env' entries' e : Engine E _) [⟨.upsertRunResult row, .ok ()⟩] rest

/-! ## What a chain does to the pending rows -/

/-- The pending rows after a chain's exchange `es`, in which it was alone. -/
structure ChainRows (k : ChainKey) (s : EngineStore) (es : List (EngineEvent E))
    (t : EngineStore) : Prop where
  kept : ∀ r ∈ s.pending, r ∈ t.pending
  same : phaseOf es = .running ∨ phaseOf es = .recorded → t.pending = s.pending
  made : phaseOf es = .created → ∃ r ∈ t.pending, r.claimed = false ∧ r.key = k

variable {k : ChainKey} {es : List (EngineEvent E)} {e : EngineEvent E}

theorem ChainRows.of_pending {s t t' : EngineStore}
    (h : ChainRows k s es t) (ht : t'.pending = t.pending)
    (hsame : (phaseOf es).after e = .running ∨ (phaseOf es).after e = .recorded →
      phaseOf es = .running ∨ phaseOf es = .recorded)
    (hmade : (phaseOf es).after e = .created → phaseOf es = .created) :
    ChainRows k s (es ++ [e]) t' := by
  constructor
  · rw [ht]
    exact h.kept
  · intro hphase
    rw [phaseOf_snoc] at hphase
    rw [ht]
    exact h.same (hsame hphase)
  · intro hphase
    rw [phaseOf_snoc] at hphase
    rw [ht]
    exact h.made (hmade hphase)

theorem ChainRows.step {s t : EngineStore}
    (h : ChainRows k s es t) (hcall : ChainCall k es e.call) :
    ChainRows k s (es ++ [e]) (t.next e.call e.answer) := by
  obtain ⟨c, r⟩ := e
  by_cases hquiet : Quiet c
  · refine h.of_pending (pending_quiet t hquiet r) ?_ ?_ <;> rw [after_quiet r hquiet] <;> exact id
  · rcases r with e | a
    · refine h.of_pending (by rw [next_error]) ?_ ?_ <;> rw [after_error] <;> exact id
    · cases c
      case createPendingStep data =>
        obtain ⟨hphase, hkey⟩ := hcall
        constructor
        · exact fun r hr => mem_append_left _ (h.kept r hr)
        · intro hnext
          rw [phaseOf_snoc] at hnext
          rcases hnext with hnext | hnext <;> cases hnext
        · exact fun _ => ⟨_, mem_append_right _ (mem_singleton.mpr rfl), rfl, hkey⟩
      case upsertRunResult row =>
        refine h.of_pending rfl ?_ ?_
        · show (phaseOf es).record row.status = _ ∨ (phaseOf es).record row.status = _ → _
          cases phaseOf es <;> cases row.status <;> simp [ChainPhase.record]
        · show (phaseOf es).record row.status = _ → _
          cases phaseOf es <;> cases row.status <;> simp [ChainPhase.record]
      case deletePendingStep id => exact hcall.elim
      case claimDueSteps limit => exact hcall.elim
      case deleteByToken token => exact hcall.elim
      all_goals exact absurd rfl hquiet

theorem chainRows_of_calls (s : EngineStore) (es : List (EngineEvent E))
    (hcalls : ∀ pre e post, es = pre ++ e :: post → ChainCall k pre e.call) :
    ChainRows k s es ((engineWorld E).after s es) := by
  induction es using reverseRecOn with
  | nil => exact ⟨fun _ h => h, fun _ => rfl, fun h => by cases h⟩
  | append_singleton es e ih =>
    have hprev := ih fun pre e' post heq => hcalls pre e' (post ++ [e]) (by simp [heq])
    rw [World.after_append]
    exact hprev.step (hcalls es e [] rfl)

theorem phaseOf_waitingRejected
    (hcalls : ∀ pre e post, es = pre ++ e :: post → ChainCall k pre e.call)
    (h : WaitingRejected es) : phaseOf es = .created := by
  obtain ⟨pre, row, e, heq, hstatus⟩ := h
  have hcall : ChainCall k pre (.upsertRunResult row) := hcalls pre _ [] heq
  rw [heq, phaseOf_snoc, after_error]
  exact hcall.2.1 hstatus

theorem calls_of_catch {env : ChainEnv} {startStepId : Option String}
    {entries : List StepLogEntry} {row : RunResultRow}
    (h : CatchRecords env startStepId entries es row) :
    (∀ pre e post, es = pre ++ e :: post → ChainCall env.key pre e.call) ∧ MayRecordDone es := by
  obtain ⟨env', entries', e, rest, hsteps, -⟩ := h
  have hmeets := meets_runDeviceStepChain (E := E) env startStepId entries phaseOf_nil
  constructor
  · intro pre ev post heq
    rw [heq] at hsteps
    have hok := hmeets.ok_of_append hsteps (World.log_accepts [] _)
    rwa [World.log_after, nil_append] at hok
  · have hrest := hmeets.sound hsteps (World.log_accepts [] es)
    rw [World.log_after, nil_append] at hrest
    have hcall : ChainCall env.key es _ := hrest.1
    exact hcall.2.2 rfl

/-! ## Main results -/

/-- **Main theorem on failed chains**: over any tables, wherever a chain throws,
once its `catch` has recorded the failure no row of the chain is left to be
resumed if and only if there was none before and the call that threw is not
the recording of `'waiting'`. -/
theorem catch_leaves_nothing_iff (env : ChainEnv) (startStepId : Option String)
    (entries : List StepLogEntry) (s : EngineStore) (es : List (EngineEvent E))
    (row : RunResultRow) (h : CatchRecords env startStepId entries es row) :
    NothingLeft env.key
        ((engineWorld E).after s (es ++ [⟨.upsertRunResult row, .ok ()⟩])) ↔
      NothingLeft env.key s ∧ ¬WaitingRejected es := by
  obtain ⟨hcalls, hdone⟩ := calls_of_catch h
  have hrows := chainRows_of_calls s es hcalls
  have hpending : ((engineWorld E).after s (es ++ [⟨.upsertRunResult row, .ok ()⟩])).pending =
      ((engineWorld E).after s es).pending := by
    rw [World.after_append]
    rfl
  unfold NothingLeft
  rw [hpending]
  rcases hdone with hphase | hphase | ⟨hphase, hrejected⟩
  · rw [hrows.same (.inl hphase)]
    refine (and_iff_left fun hrejected => ?_).symm
    rw [phaseOf_waitingRejected hcalls hrejected] at hphase
    cases hphase
  · rw [hrows.same (.inr hphase)]
    refine (and_iff_left fun hrejected => ?_).symm
    rw [phaseOf_waitingRejected hcalls hrejected] at hphase
    cases hphase
  · constructor
    · intro hnone
      obtain ⟨r, hr, hclaimed, hkey⟩ := hrows.made hphase
      exact absurd (.inl hclaimed) (hnone r hr hkey)
    · exact fun hnone => absurd hrejected hnone.2

/-- The chain of `waitForScript` on one device. -/
def scriptChain : ChainEnv where
  slug := "acme"
  authorization := "Bearer t"
  workflow := waitForScript
  device := { id := "d1", platform := "windows", platformDeviceId := "p1" }
  runId := "run1"

/-- The answer that a call times out. -/
def timeout : JsError where
  message := "timeout"

/-- What the `catch` of a chain records. -/
def failureRow (env : ChainEnv) (entries : List StepLogEntry) (e : JsError) : RunResultRow where
  runId := env.runId
  deviceId := env.device.id
  deviceName := env.device.displayName
  steps := entries ++ [engineErrorEntry e]
  status := .done
  finalStatus := some .failed

/-- The chain throws before its first step. -/
def earlyFailure : List (EngineEvent attributeEvaluator) :=
  [⟨.beginChain "run1" "d1" none, .ok ()⟩, ⟨.findGlobalWorkspaceState, .error timeout⟩]

theorem catchRecords_earlyFailure :
    CatchRecords scriptChain none [] earlyFailure (failureRow scriptChain [] timeout) :=
  ⟨scriptChain, [], timeout, _, .head (.head (.refl _)), .head (.refl _)⟩

theorem catch_leaves_nothing_iff_earlyFailure :
    NothingLeft scriptChain.key ((engineWorld attributeEvaluator).after
        { pending := [], results := [], nextId := 0 }
        (earlyFailure ++ [⟨.upsertRunResult (failureRow scriptChain [] timeout), .ok ()⟩])) ↔
      NothingLeft scriptChain.key { pending := [], results := [], nextId := 0 } ∧
        ¬WaitingRejected earlyFailure :=
  catch_leaves_nothing_iff scriptChain none [] _ _ _ catchRecords_earlyFailure

/-- The log of the chain when it parks. -/
def parkedEntries : List StepLogEntry :=
  [{ stepId := some "s1", name := "Script", type := "run_script_wait", ok := true
     detail := .dispatched 30 }]

/-- The script is dispatched and the row inserted, but that the device waits
cannot be recorded. -/
def failureWhileParking : List (EngineEvent attributeEvaluator) :=
  [⟨.beginChain "run1" "d1" none, .ok ()⟩,
   ⟨.findGlobalWorkspaceState, .ok ()⟩,
   ⟨.resolveOrgBase "Bearer t" "acme", .ok ""⟩,
   ⟨.randomUUID, .ok "token1"⟩,
   ⟨.executeMdmAction (scriptChain.mdmRequest (some "runScript") { libraryId := some "lib1" }
      (some "token1")), .ok none⟩,
   ⟨.executeRunScript (scriptChain.mdmRequest (some "runScript") { libraryId := some "lib1" }
      (some "token1")), .ok { ok := true, detail := "" }⟩,
   ⟨.now, .ok 0⟩,
   ⟨.createPendingStep { scriptChain.pendingData parkedEntries "s2" (0 + 30 * 60000) with
      stepKind := .script
      onFailureStepId := some "end"
      pendingToken := some "token1" }, .ok ()⟩,
   ⟨.upsertRunResult
      { runId := "run1", deviceId := "d1", deviceName := none, steps := parkedEntries
        status := .waiting, finalStatus := none }, .error timeout⟩]

/-- The chain inserts its row, cannot record that it waits, and is recorded as
failed: the row is left, although there was none before. -/
theorem catch_leaves_row : ¬∀ (env : ChainEnv) (startStepId : Option String)
    (entries : List StepLogEntry) (s : EngineStore) (es : List (EngineEvent attributeEvaluator))
    (row : RunResultRow), NothingLeft env.key s →
      (engineWorld attributeEvaluator).Accepts s (es ++ [⟨.upsertRunResult row, .ok ()⟩]) →
      CatchRecords env startStepId entries es row →
        NothingLeft env.key ((engineWorld attributeEvaluator).after s
          (es ++ [⟨.upsertRunResult row, .ok ()⟩])) := by
  intro hall
  have hcatch : CatchRecords scriptChain none [] failureWhileParking
      (failureRow scriptChain parkedEntries timeout) :=
    ⟨scriptChain, parkedEntries, timeout, _,
      .head (.head (.head (.head (.head (.head (.head (.head (.head (.refl _))))))))),
      .head (.refl _)⟩
  have hnone : NothingLeft scriptChain.key { pending := [], results := [], nextId := 0 } := by
    simp [NothingLeft]
  have hes : (engineWorld attributeEvaluator).Accepts { pending := [], results := [], nextId := 0 }
      (failureWhileParking ++
        [⟨.upsertRunResult (failureRow scriptChain parkedEntries timeout), .ok ()⟩]) := by
    simp [failureWhileParking, World.Accepts, engineWorld, EngineStore.may, EngineStore.next]
  have hleft := hall _ _ _ _ _ _ hnone hes hcatch
  obtain ⟨-, hrejected⟩ := (catch_leaves_nothing_iff _ _ _ _ _ _ hcatch).mp hleft
  exact hrejected ⟨failureWhileParking.take 8,
    { runId := "run1", deviceId := "d1", deviceName := none, steps := parkedEntries
      status := .waiting, finalStatus := none }, timeout, rfl, rfl⟩

end AppliverySoar.Workflows
