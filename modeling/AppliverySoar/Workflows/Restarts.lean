import AppliverySoar.Async.Restart
import AppliverySoar.Workflows.Completion

/-!
# Parked devices over restarts of the process

A tick claims the rows that are due, a script result deletes the row of its
token, and then the chain of the device runs. Nothing takes a claim back, and
nothing runs at the start of the process: what a stop leaves claimed no tick
selects again.

Results:
* `parked_step`: a device that is recorded as waiting has a row that a tick can
  select, or an operation holds it.
* `parked_resumable`: over any number of lives, where no stop comes while an
  operation holds a device, every parked device has such a row.
* `parked_device_lost`: a stop between the claim of a row and its resume.
-/

namespace AppliverySoar.Workflows

open Async Compliance List

variable {E : Evaluator}

/-! ## Statements -/

/-- The device has a result that is not `done`. -/
def Parked (s : RunStore) (k : ChainKey) : Prop :=
  ∃ row ∈ s.results, row.key = k ∧ row.status ≠ .done

/-- Every parked device has an unclaimed row, which a tick selects when it is
due. -/
def ParkedResumable (s : RunStore) : Prop :=
  ∀ k, Parked s k → HasRow s k

/-- Between two lives of the process. -/
structure BetweenLives (s : RunStore) : Prop where
  wellFormed : s.WellFormed
  parked : ParkedResumable s

/-- A device is recorded as waiting only while its row can still be taken. -/
def WaitsInTime (_ : List (RunLabel E)) (s : RunStore) (l : RunLabel E) : Prop :=
  ∀ row u, l.event = ⟨.upsertRunResult row, .ok u⟩ → row.status = .waiting → HasRow s row.key

/-- No operation holds a device: whatever has claimed or deleted the row of one
has parked it again or recorded its result since. -/
def NothingHeld (cfg : Config (engineSig E) JsError RunStore RunTask) : Prop :=
  ∀ k, ¬Held cfg k

/-- What something outside the engine starts. -/
def RunTask.Entry : RunTask → Prop
  | .engine task => task.Entry
  | .settle _ => True

/-- The histories of the durable engine's process. -/
abbrev EngineLives (E : Evaluator) (cond : List (RunLabel E) → RunStore → RunLabel E → Prop)
    (stop : Config (engineSig E) JsError RunStore RunTask → Prop) :
    RunStore → Config (engineSig E) JsError RunStore RunTask → Prop :=
  Lives (runSystem E) cond stop RunTask.Entry

/-! ## What a step keeps -/

section Invariants

variable {cfg cfg' : Config (engineSig E) JsError RunStore RunTask} {l : RunLabel E}

/-- In every state of a life: the rows are sound, those of the timers are
claimed, and every parked device has a row or is held. -/
structure ParkedInv (cfg : Config (engineSig E) JsError RunStore RunTask) : Prop where
  wellFormed : cfg.store.WellFormed
  timers : TimersClaimed cfg
  parked : ∀ k, Parked cfg.store k → HasRow cfg.store k ∨ Held cfg k

/-- A thread holds the device until it parks it again or records its result. -/
theorem Held.step {k : ChainKey} (h : Held cfg k) (hstep : Step (runSystem E) cfg l cfg')
    (hcall : RunCall l.task l.past l.event.call) :
    Held cfg' k ∨ HasRow cfg'.store k ∨
      ∃ row u, l.event = ⟨.upsertRunResult row, .ok u⟩ ∧ row.key = k := by
  obtain ⟨th, hth, hresumes, hkey, hrunning⟩ := h
  obtain ⟨j, hj⟩ := mem_iff_getElem?.mp hth
  by_cases hself : j = l.thread
  · obtain ⟨rest, hrest⟩ := hstep.thread_before
    rw [hself, hrest] at hj
    obtain rfl := Option.some.inj hj
    obtain ⟨rest', hafter⟩ := hstep.thread_after
    have hkey' := key_of_extends hkey (prefix_append l.past [l.event])
    have hheld : phaseOf (l.past ++ [l.event]) = .running → Held cfg' k := fun hphase =>
      ⟨_, mem_of_getElem? hafter, hresumes, hkey', hphase⟩
    rw [phaseOf_snoc] at hheld
    change phaseOf l.past = .running at hrunning
    rw [hrunning] at hheld
    rcases hevent : l.event with ⟨c, e | a⟩
    · exact .inl (hheld (by rw [hevent, after_error]))
    · rw [hevent] at hheld
      cases c
      case upsertRunResult row =>
        exact .inr (.inr ⟨row, a, rfl,
          Option.some.inj ((upsert_key hcall hevent).symm.trans hkey)⟩)
      case createPendingStep data =>
        refine .inr (.inl ⟨{ toPendingData := data, id := cfg.store.nextId }, ?_,
          Option.some.inj ((create_key hcall hevent).symm.trans hkey), rfl⟩)
        rw [hstep.store_eq, hevent]
        exact mem_append_right _ (mem_singleton_self _)
      all_goals exact .inl (hheld rfl)
  · exact .inl ⟨th, mem_of_getElem? (hstep.thread_other hj hself), hresumes, hkey, hrunning⟩

variable {tr : List (RunLabel E)}

/-- **Step lemma**: what is recorded as waiting has a row or is held. -/
theorem parked_step (h : ParkedInv cfg) (hstep : Step (runSystem E) cfg l cfg')
    (hcall : RunCall l.task l.past l.event.call)
    (hcond : WaitsInTime tr cfg.store l) {k : ChainKey} (hparked : Parked cfg'.store k) :
    HasRow cfg'.store k ∨ Held cfg' k := by
  have hstore : cfg'.store = cfg.store.next l.event.call l.event.answer := hstep.store_eq
  -- A row that can be taken stays or is handed to an operation.
  have hkept : HasRow cfg.store k → HasRow cfg'.store k ∨ Held cfg' k := fun hrow => by
    rcases hrow.step h.wellFormed h.timers hstep hcall with hrow | ⟨row, htaken, rfl⟩
    · exact .inl hrow
    · exact .inr (held_of_taken hstep hcall htaken)
  obtain ⟨row, hrow, hkey, hopen⟩ := hparked
  by_cases hupsert : ∃ row' u, l.event = ⟨.upsertRunResult row', .ok u⟩ ∧ row'.key = k
  · obtain ⟨row', u, hevent, hkey'⟩ := hupsert
    rw [hstore, hevent] at hrow
    rcases mem_upsertResult.mp hrow with rfl | ⟨-, hne⟩
    · have hwaiting : row.status = .waiting := by
        cases hstatus : row.status with
        | waiting => rfl
        | done => exact absurd hstatus hopen
      exact hkept (hkey ▸ hcond row u hevent hwaiting)
    · exact absurd (hkey.trans hkey'.symm) hne
  · have hbefore : Parked cfg.store k := by
      refine ⟨row, ?_, hkey, hopen⟩
      by_cases hany : ∃ row' u, l.event = ⟨.upsertRunResult row', .ok u⟩
      · obtain ⟨row', u, hevent⟩ := hany
        rw [hstore, hevent] at hrow
        rcases mem_upsertResult.mp hrow with rfl | ⟨hrow, -⟩
        · exact absurd ⟨row, u, hevent, hkey⟩ hupsert
        · exact hrow
      · rw [hstore, results_next_of_not_upsert fun row' u heq => hany ⟨row', u, heq⟩] at hrow
        exact hrow
    rcases h.parked k hbefore with hrow | hheld
    · exact hkept hrow
    · rcases hheld.step hstep hcall with hheld | hrow | hrecorded
      · exact .inr hheld
      · exact .inl hrow
      · exact absurd hrecorded hupsert

theorem ParkedInv.step (h : ParkedInv cfg) (hstep : Step (runSystem E) cfg l cfg')
    (hcall : RunCall l.task l.past l.event.call)
    (hcond : WaitsInTime tr cfg.store l) : ParkedInv cfg' where
  wellFormed := by
    rw [hstep.store_eq]
    exact h.wellFormed.next hstep.may.1
  timers := h.timers.step h.wellFormed hstep
  parked _ := parked_step h hstep hcall hcond

theorem parkedInv_launch {s : RunStore} {ts : List RunTask} (hs : BetweenLives s)
    (hts : ∀ t ∈ ts, t.Entry) : ParkedInv ((runSystem E).launch s ts) where
  wellFormed := hs.wellFormed
  timers th hth row htask := by
    obtain ⟨t, ht, rfl⟩ := mem_map.mp hth
    have hentry := hts t ht
    rw [show t = .engine (.resume row) from htask] at hentry
    exact hentry.elim
  parked k hparked := .inl (hs.parked k hparked)

end Invariants

/-- **Main theorem**: over any number of lives, where no stop comes while an
operation holds a device, every parked device has a row that a later tick
selects. -/
theorem parked_resumable {s : RunStore} {cfg : Config (engineSig E) JsError RunStore RunTask}
    (hs : BetweenLives s) (h : EngineLives E WaitsInTime NothingHeld s cfg)
    (hstop : NothingHeld cfg) : ParkedResumable cfg.store := by
  have hinv : ParkedInv cfg := h.invariant ParkedInv BetweenLives hs
    (fun _ _ hs hts => parkedInv_launch hs hts)
    (fun _ _ _ _ _ _ hrun hstep hcond hinv =>
      hinv.step hstep (hrun.ok_of_step RunCall RunEnd meets_runTask hstep) hcond)
    (fun cfg hinv hstop => ⟨hinv.wellFormed, fun k hparked =>
      (hinv.parked k hparked).resolve_right (hstop k)⟩)
  exact fun k hparked => (hinv.parked k hparked).resolve_right (hstop k)

/-! ## A device that parks, and restarts -/

/-- A check of `WaitsInTime`. -/
def waitsInTime (_ : List (RunLabel E)) (s : RunStore) (l : RunLabel E) : Bool :=
  match l.event with
  | ⟨.upsertRunResult row, .ok _⟩ =>
    row.status = .done || s.pending.any fun r => r.key = row.key && !r.claimed
  | _ => true

theorem waitsInTime_sound (tr : List (RunLabel E)) (s : RunStore) (l : RunLabel E)
    (h : waitsInTime tr s l = true) : WaitsInTime tr s l := by
  intro row u hevent hwaiting
  rw [waitsInTime, hevent] at h
  simpa [hwaiting, HasRow] using h

/-- A check of `NothingHeld`. -/
def nothingHeld (cfg : Config (engineSig E) JsError RunStore RunTask) : Bool :=
  cfg.threads.all fun th => !th.task.resumes || (th.task.key th.log).isNone ||
    phaseOf th.log ≠ .running

theorem nothingHeld_sound {cfg : Config (engineSig E) JsError RunStore RunTask}
    (h : nothingHeld cfg = true) : NothingHeld cfg := by
  rintro k ⟨th, hth, hresumes, hkey, hrunning⟩
  have hcheck := all_eq_true.mp h th hth
  simp [hresumes, hkey, hrunning] at hcheck

theorem betweenLives_noRows : BetweenLives noRows where
  wellFormed := ⟨nodup_nil, nofun, nofun⟩
  parked := by
    rintro k ⟨row, hrow, -⟩
    cases hrow

/-- A device that has not begun, and a tick. -/
def beforeParking : Config (engineSig attributeEvaluator) JsError RunStore RunTask :=
  (runSystem attributeEvaluator).launch noRows
    [.engine (.chain (launchOnce.env macBook)), .engine (.tick 1)]

/-- The device is parked. -/
def afterParking : Config (engineSig attributeEvaluator) JsError RunStore RunTask :=
  (Config.play (runSystem attributeEvaluator) (fun s => s.answer waitForScript)
    (List.replicate 9 0) beforeParking).2

/-- The next life, in which a script result for another device comes in. -/
def afterRestart : Config (engineSig attributeEvaluator) JsError RunStore RunTask :=
  (runSystem attributeEvaluator).launch afterParking.store
    [.engine (.scriptResult (some "token2") true "")]

/-- The device parks, the process stops, and in the next life a script result for
another device comes in. -/
theorem parked_resumable_restart : ∃ cfg : Config (engineSig attributeEvaluator) JsError _ _,
    EngineLives attributeEvaluator WaitsInTime NothingHeld noRows cfg ∧
    Parked cfg.store ("run1", "d1") ∧ ParkedResumable cfg.store := by
  have hfirst := Run.nil.play (runSystem attributeEvaluator) (fun s => s.answer waitForScript)
    (run_may_answer waitForScript) (replicate 9 0)
    (Config.admits_of_admitted _ _ waitsInTime_sound (replicate 9 0) [] beforeParking rfl)
  have hlife : EngineLives attributeEvaluator WaitsInTime NothingHeld noRows afterParking :=
    .first (by simp [RunTask.Entry, EngineTask.Entry]) hfirst
  have hagain := Run.nil.play (runSystem attributeEvaluator) (fun s => s.answer waitForScript)
    (run_may_answer waitForScript) [0]
    (Config.admits_of_admitted _ _ waitsInTime_sound [0] [] afterRestart rfl)
  have hlives := hlife.again (nothingHeld_sound rfl)
    (by simp [RunTask.Entry, EngineTask.Entry]) hagain
  exact ⟨_, hlives, ⟨_, mem_singleton_self _, rfl, by decide⟩,
    parked_resumable betweenLives_noRows hlives (nothingHeld_sound rfl)⟩

/-- A tick claims the row of the parked device, and the process stops before the
resume has come to anything. -/
theorem parked_device_lost :
    ¬∀ (s : RunStore) (cfg : Config (engineSig attributeEvaluator) JsError RunStore RunTask),
      BetweenLives s → EngineLives attributeEvaluator always (fun _ => True) s cfg →
      ParkedResumable cfg.store := by
  intro hall
  have hrun := Config.run_play (runSystem attributeEvaluator) (fun s => s.answer waitForScript)
    (run_may_answer waitForScript) (replicate 9 0 ++ [1]) beforeParking
  obtain ⟨r, hr, -, hfree⟩ := hall noRows _ betweenLives_noRows
    (.first (by simp [RunTask.Entry, EngineTask.Entry]) hrun) ("run1", "d1")
    ⟨_, mem_singleton_self _, rfl, by decide⟩
  obtain rfl := mem_singleton.mp hr
  cases hfree

end AppliverySoar.Workflows
