import AppliverySoar.Async.Pool
import AppliverySoar.Compliance.BreakerCheck
import AppliverySoar.Compliance.ReviewQueue
import Mathlib.Data.List.Perm.Subperm

/-!
# Re-arming a circuit breaker

`updateCompliancePolicy` clears the breaker of a policy (compliance.service.ts,
lines 215–221), and the next pass checks it again over the whole history of the
policy's violations. Passes, edits, approvals, dismissals and deletions
interleave at every `await`, while the workflow runs come to their ends.

The store holds the policies, the violations and what each run is at each time,
and notes when a tripped breaker was cleared. Everything else may be answered
anything.

Results:
* `Separated.next`: a completed run that did better separates the failures
  before a reset from what comes after it.
* `retrips_on_new_failures`: where it does so, a breaker that was cleared trips
  again only for runs that have completed, and failed, since.
* `retripped_without_failures`: a run in which it trips again for nothing.
-/

namespace AppliverySoar.Compliance

open Async Access Workflows List

variable {E : Evaluator}

/-! ## The store -/

/-- What each run is at each time, if it is on record. -/
abbrev RunHistory := ℕ → String → Option RunView

/-- The run has come to its end. -/
def CompletedAt (runs : RunHistory) (time : ℕ) (runId : String) : Prop :=
  ∃ run, runs time runId = some run ∧ run.completed = true

/-- The run has failed on every targeted device. -/
def FailedAt (runs : RunHistory) (time : ℕ) (runId : String) : Prop :=
  ∃ run, runs time runId = some run ∧ run.completed = true ∧ runFullyFailed run = true

/-- The run has come to its end and not failed on every device. -/
def PassedAt (runs : RunHistory) (time : ℕ) (runId : String) : Prop :=
  ∃ run, runs time runId = some run ∧ run.completed = true ∧ runFullyFailed run = false

variable {time : ℕ} {runId : String}

theorem passed_or_failed {runs : RunHistory}
    (h : CompletedAt runs time runId) : PassedAt runs time runId ∨ FailedAt runs time runId := by
  obtain ⟨run, hrun, hcompleted⟩ := h
  cases hfailed : runFullyFailed run with
  | false => exact .inl ⟨run, hrun, hcompleted, hfailed⟩
  | true => exact .inr ⟨run, hrun, hcompleted, hfailed⟩

/-- A workspace over time. `resets` are the policies whose tripped breaker was
cleared, and when. -/
structure BreakerStore (E : Evaluator) where
  policies : PolicyTable E
  violations : List (ComplianceViolation E)
  runs : RunHistory
  clock : ℕ := 0
  resets : List (String × ℕ) := []

/-- Reads answer what is stored: the violations newest first, those of one time
in any order, and a run as it is at the time. -/
def BreakerStore.may (s : BreakerStore E) (c : ServiceCall E)
    (r : Except ServiceError (ServiceCall.Answer c)) : Prop :=
  match (⟨c, r⟩ : ServiceEvent E) with
  | ⟨.findPolicies, .ok all⟩ => all = s.policies.rows
  | ⟨.findViolations, .ok vs⟩ => vs.Perm s.violations ∧
      vs.Pairwise fun a b => ¬a.detectedAt < b.detectedAt
  | ⟨.getWorkflowRun runId, .ok run⟩ => s.runs s.clock runId = some run
  | _ => True

/-- The violations after an answered call. -/
def violationsNext (vs : List (ComplianceViolation E)) (e : ServiceEvent E) :
    List (ComplianceViolation E) :=
  match e with
  | ⟨.createViolations rows, .ok _⟩ => vs ++ rows
  | ⟨.updateViolation id status runId, .ok _⟩ => vs.map fun v =>
      if v.id = id then { v with status := status, workflowRunId := runId.or v.workflowRunId }
      else v
  | ⟨.deleteViolations policyId, .ok _⟩ => vs.filter fun v => v.policyId ≠ policyId
  | _ => vs

/-- The policy's breaker is tripped. -/
def BreakerStore.tripped (s : BreakerStore E) (policyId : String) : Bool :=
  s.policies.rows.any fun p => p.id = policyId && p.autoRunTripped

/-- The resets after an answered call. -/
def BreakerStore.resetsNext (s : BreakerStore E) (e : ServiceEvent E) : List (String × ℕ) :=
  match e with
  | ⟨.updatePolicy policyId _, .ok _⟩ =>
    if s.tripped policyId then (policyId, s.clock) :: s.resets else s.resets
  | _ => s.resets

/-- What an answered call leaves. -/
def BreakerStore.next (s : BreakerStore E) (c : ServiceCall E)
    (r : Except ServiceError (ServiceCall.Answer c)) : BreakerStore E where
  policies := s.policies.next ⟨c, r⟩
  violations := violationsNext s.violations ⟨c, r⟩
  runs := s.runs
  clock := s.clock + 1
  resets := s.resetsNext ⟨c, r⟩

/-- The operations over their store. -/
def breakerSystem (E : Evaluator) :
    System (serviceSig E) ServiceError (BreakerStore E) (WorkspaceTask E) where
  world := ⟨BreakerStore.may, BreakerStore.next⟩
  body := WorkspaceTask.body
  starts _ _ := []

/-- A label of a run. -/
abbrev BreakerLabel (E : Evaluator) := Label (serviceSig E) ServiceError (WorkspaceTask E)

/-! ## Statements -/

/-- Every auto-fired run of the policy that had failed at `time` was detected
before one that had come to its end then without failing. -/
def Separated (s : BreakerStore E) (policyId : String) (time : ℕ) : Prop :=
  ∀ f ∈ s.violations, ∀ runId, f.autoFiredRun policyId = some runId →
    FailedAt s.runs time runId → ∃ g ∈ s.violations, ∃ runId',
      g.autoFiredRun policyId = some runId' ∧ PassedAt s.runs time runId' ∧
        f.detectedAt < g.detectedAt

/-- A step after which what separates the failures before a reset from those
after it is still there. -/
structure Rearming (tr : List (BreakerLabel E)) (s : BreakerStore E) (l : BreakerLabel E) :
    Prop where
  /-- A breaker is cleared when its failures are separated. -/
  separated : ∀ policyId payload a, l.event = ⟨.updatePolicy policyId payload, .ok a⟩ →
    s.tripped policyId = true → Separated s policyId s.clock
  /-- A violation whose run had passed at a reset is not dismissed. -/
  kept : ∀ id status runId a, l.event = ⟨.updateViolation id status runId, .ok a⟩ →
    ∀ g ∈ s.violations, g.id = id → ∀ policyId time, (policyId, time) ∈ s.resets →
      ∀ runId', g.autoFiredRun policyId = some runId' → ¬PassedAt s.runs time runId'
  /-- A violation whose run had failed at a reset is not inserted after it. -/
  inserted : ∀ rows a, l.event = ⟨.createViolations rows, .ok a⟩ → ∀ v ∈ rows,
    ∀ policyId time, (policyId, time) ∈ s.resets → ∀ runId, v.autoFiredRun policyId = some runId →
      ¬FailedAt s.runs time runId
  /-- A run that had passed at a reset is found as it was. -/
  found : ∀ runId answer, l.event = ⟨.getWorkflowRun runId, answer⟩ →
    ∀ policyId time, (policyId, time) ∈ s.resets → ∀ run, s.runs time runId = some run →
      run.completed = true → runFullyFailed run = false → answer = .ok run
  /-- A pass that trips a breaker has read the violations since it was cleared. -/
  reread : ∀ policyId reason a, l.event = ⟨.tripAutoRun policyId reason, .ok a⟩ →
    ∀ time, (policyId, time) ∈ s.resets → ∃ before r after vs, tr = before ++ r :: after ∧
      r.thread = l.thread ∧ r.event = ⟨.findViolations, .ok vs⟩ ∧ time + after.length + 1 < s.clock

/-- The store after a trace. -/
def storeAfter (s : BreakerStore E) (tr : List (BreakerLabel E)) : BreakerStore E :=
  (breakerSystem E).world.after s (tr.map Label.event)

/-- At `time` a run of the policy had not come to its end, and before `now` it
was found to have failed. -/
def FailedSince (s : BreakerStore E) (policyId : String) (time now : ℕ)
    (v : ComplianceViolation E) : Prop :=
  ∃ runId, v.autoFiredRun policyId = some runId ∧ ¬CompletedAt s.runs time runId ∧
    ∃ c, time < c ∧ c < now ∧ FailedAt s.runs c runId

/-- When a breaker trips that was cleared before, the runs of at least three
stored violations have failed since. -/
def RetripsOnNewFailures (s : BreakerStore E) (tr : List (BreakerLabel E)) : Prop :=
  ∀ pre l post policyId reason a, tr = pre ++ l :: post →
    l.event = ⟨.tripAutoRun policyId reason, .ok a⟩ → ∀ time,
      (policyId, time) ∈ (storeAfter s pre).resets → ∃ (read : List (BreakerLabel E))
        (counted : List (ComplianceViolation E)), read <+: pre ∧ counted.Subperm (storeAfter s read).violations ∧
          autorunCircuitBreakerThreshold ≤ counted.length ∧
            ∀ v ∈ counted, FailedSince s policyId time (storeAfter s pre).clock v

/-! ## What a step keeps -/

section Steps

variable {s : BreakerStore E} {l : BreakerLabel E} {tr : List (BreakerLabel E)}
  {policyId : String} {time : ℕ}

theorem policyId_of_autoFiredRun {v : ComplianceViolation E} {runId : String}
    (h : v.autoFiredRun policyId = some runId) : v.policyId = policyId ∧ v.status = .autoFired := by
  unfold ComplianceViolation.autoFiredRun at h
  split_ifs at h with hown
  exact hown

/-- **Step lemma**: what separates the failures before a reset stays. -/
theorem Separated.next (h : Separated s policyId time) (hreset : (policyId, time) ∈ s.resets)
    (hcall : TripCall l.past l.event.call) (hcond : Rearming tr s l) :
    Separated (s.next l.event.call l.event.answer) policyId time := by
  intro f hf runId hrun hfailed
  obtain ⟨i, t, past, c, r⟩ := l
  cases r with
  | error e => cases c <;> exact h f hf runId hrun hfailed
  | ok a =>
    cases c with
    | createViolations rows =>
      rcases mem_append.mp hf with hf | hf
      · obtain ⟨g, hg, hrest⟩ := h f hf runId hrun hfailed
        exact ⟨g, mem_append_left _ hg, hrest⟩
      · exact absurd hfailed (hcond.inserted rows a rfl f hf policyId time hreset runId hrun)
    | updateViolation id status run =>
      obtain ⟨v, hv, rfl⟩ := mem_map.mp hf
      by_cases hid : v.id = id
      · rw [if_pos hid] at hrun
        exact absurd (policyId_of_autoFiredRun hrun).2 hcall
      · rw [if_neg hid] at hrun ⊢
        obtain ⟨g, hg, runId', hrun', hpassed, hlt⟩ := h v hv runId hrun hfailed
        have hgid : g.id ≠ id := fun hgid =>
          hcond.kept id status run a rfl g hg hgid policyId time hreset runId' hrun' hpassed
        exact ⟨g, mem_map.mpr ⟨g, hg, if_neg hgid⟩, runId', hrun', hpassed, hlt⟩
    | deleteViolations policyId' =>
      obtain ⟨hf, hne⟩ := mem_filter.mp hf
      obtain ⟨g, hg, runId', hrun', hrest⟩ := h f hf runId hrun hfailed
      refine ⟨g, mem_filter.mpr ⟨hg, ?_⟩, runId', hrun', hrest⟩
      rw [(policyId_of_autoFiredRun hrun').1, ← (policyId_of_autoFiredRun hrun).1]
      exact hne
    | _ => exact h f hf runId hrun hfailed

theorem mem_resets_next (h : (policyId, time) ∈ (s.next l.event.call l.event.answer).resets) :
    (policyId, time) ∈ s.resets ∨ time = s.clock ∧ s.tripped policyId = true ∧
      ∃ payload a, l.event = ⟨.updatePolicy policyId payload, .ok a⟩ := by
  obtain ⟨i, t, past, c, r⟩ := l
  cases r with
  | error e => cases c <;> exact .inl h
  | ok a =>
    cases c with
    | updatePolicy id payload =>
      have hnext : (s.next (.updatePolicy id payload) (.ok a)).resets =
          if s.tripped id then (id, s.clock) :: s.resets else s.resets := rfl
      rw [hnext] at h
      split_ifs at h with htripped
      · rcases mem_cons.mp h with heq | h
        · cases heq
          exact .inr ⟨rfl, htripped, payload, a, rfl⟩
        · exact .inl h
      · exact .inl h
    | _ => exact .inl h

theorem resets_subset (s : BreakerStore E) (e : ServiceEvent E) :
    s.resets ⊆ (s.next e.call e.answer).resets := by
  intro x hx
  obtain ⟨c, r⟩ := e
  cases r with
  | error e => cases c <;> exact hx
  | ok a =>
    cases c with
    | updatePolicy id payload =>
      have hnext : (s.next (.updatePolicy id payload) (.ok a)).resets =
          if s.tripped id then (id, s.clock) :: s.resets else s.resets := rfl
      rw [hnext]
      split_ifs
      · exact mem_cons_of_mem _ hx
      · exact hx
    | _ => exact hx

end Steps

/-! ## What a run keeps -/

variable (s : BreakerStore E) (tr : List (BreakerLabel E))

theorem storeAfter_append (tr tr' : List (BreakerLabel E)) :
    storeAfter s (tr ++ tr') = storeAfter (storeAfter s tr) tr' := by
  rw [storeAfter, map_append, World.after_append]
  rfl

theorem storeAfter_cons (l : BreakerLabel E) (tr : List (BreakerLabel E)) :
    storeAfter s (l :: tr) = storeAfter (s.next l.event.call l.event.answer) tr := rfl

theorem runs_after :
    (storeAfter s tr).runs = s.runs := by
  induction tr generalizing s with
  | nil => rfl
  | cons l tr ih => rw [storeAfter_cons, ih]; rfl

theorem clock_after :
    (storeAfter s tr).clock = s.clock + tr.length := by
  induction tr generalizing s with
  | nil => rfl
  | cons l tr ih =>
    rw [storeAfter_cons, ih, length_cons]
    show s.clock + 1 + tr.length = _
    omega

theorem resets_after :
    s.resets ⊆ (storeAfter s tr).resets := by
  induction tr generalizing s with
  | nil => exact Subset.refl _
  | cons l tr ih => exact Subset.trans (resets_subset s l.event) (ih _)

variable {s : BreakerStore E} {policyId : String}

theorem mem_resets_of_lt {tr : List (BreakerLabel E)} (h : (policyId, time) ∈ (storeAfter s tr).resets) (hlt : time < s.clock) :
    (policyId, time) ∈ s.resets := by
  induction tr generalizing s with
  | nil => exact h
  | cons l tr ih =>
    have hnext := ih h (Nat.lt_succ_of_lt hlt)
    rcases mem_resets_next hnext with hmem | ⟨rfl, -⟩
    · exact hmem
    · exact absurd hlt (lt_irrefl _)

section Runs

variable {s : BreakerStore E} {ts : List (WorkspaceTask E)} {tr : List (BreakerLabel E)}
  {cfg : Config (serviceSig E) ServiceError (BreakerStore E) (WorkspaceTask E)}
  {policyId : String} {time : ℕ}

theorem store_of_run {cond} (h : Run (breakerSystem E) cond ((breakerSystem E).launch s ts) tr cfg) :
    cfg.store = storeAfter s tr :=
  h.store_eq

/-- **Run lemma**: after every reset the failures before it stay separated. -/
theorem separated_of_run (hstart : s.resets = [])
    (h : Run (breakerSystem E) Rearming ((breakerSystem E).launch s ts) tr cfg)
    (hreset : (policyId, time) ∈ cfg.store.resets) : Separated cfg.store policyId time := by
  induction h with
  | nil =>
    have hnone : (policyId, time) ∈ s.resets := hreset
    rw [hstart] at hnone
    cases hnone
  | @snoc tr cfg cfg' l hrun hstep hcond ih =>
    have hcall := hrun.ok_of_step (fun _ => TripCall) (fun _ _ => True) meets_tripTask hstep
    rw [hstep.store_eq] at hreset ⊢
    rcases mem_resets_next hreset with hmem | ⟨rfl, htripped, payload, a, hevent⟩
    · exact (ih hmem).next hmem hcall hcond
    · -- the violations are what they were when the condition was met
      have hsep := hcond.separated policyId payload a hevent htripped
      rw [hevent]
      exact hsep

/-- A lookup after a reset: when it was answered, and with what. -/
theorem lookup_of_run (h : Run (breakerSystem E) Rearming ((breakerSystem E).launch s ts) tr cfg)
    {before after post : List (BreakerLabel E)} (htr : tr = before ++ after ++ post)
    (hreset : (policyId, time) ∈ (storeAfter s before).resets) {i : ℕ} {runId : String}
    {answer : Except ServiceError RunView}
    (hmem : ⟨.getWorkflowRun runId, answer⟩ ∈ ownEvents i after) :
    (∃ now, s.clock + before.length ≤ now ∧ now < s.clock + (before ++ after).length ∧
      ∀ run, answer = .ok run → s.runs now runId = some run) ∧
    ∀ run, s.runs time runId = some run → run.completed = true → runFullyFailed run = false →
      answer = .ok run := by
  obtain ⟨l, hl, -, hevent⟩ := mem_ownEvents.mp hmem
  obtain ⟨a, b, rfl⟩ := append_of_mem hl
  have htr' : tr = (before ++ a) ++ l :: (b ++ post) := by simp [htr]
  obtain ⟨cfg₁, cfg₂, hrun, hstep, hcond, -⟩ := h.step_of_append htr'
  have hstore := store_of_run hrun
  have hruns : cfg₁.store.runs = s.runs := by rw [hstore, runs_after]
  have hclock : cfg₁.store.clock = s.clock + (before ++ a).length := by rw [hstore, clock_after]
  refine ⟨⟨cfg₁.store.clock, ?_, ?_, ?_⟩, ?_⟩
  · rw [hclock, length_append]
    omega
  · rw [hclock]
    simp
  · rintro run rfl
    have hmay := hstep.may
    rw [hevent] at hmay
    rw [← hruns]
    exact hmay
  · have hnow : (policyId, time) ∈ cfg₁.store.resets := by
      rw [hstore, storeAfter_append]
      exact resets_after _ _ hreset
    have hfound := hcond.found runId answer hevent policyId time hnow
    rwa [hruns] at hfound

/-- The read of the violations that a trip is due to came after the reset. -/
theorem read_after_reset {before after pre : List (BreakerLabel E)} {l r : BreakerLabel E} {now : ℕ}
    (hpre : pre = before ++ r :: after) (hclock : s.clock + pre.length = now)
    (hnone : ∀ e ∈ ownEvents l.thread after, e.call.readsHistory = false)
    (hreread : ∃ before' r' after' vs, pre = before' ++ r' :: after' ∧ r'.thread = l.thread ∧
      r'.event = ⟨.findViolations, .ok vs⟩ ∧ time + after'.length + 1 < now) :
    time < s.clock + before.length := by
  obtain ⟨before', r', after', vs, hpre', hthread, hevent, hlt⟩ := hreread
  have hlen : before'.length ≤ before.length := by
    by_contra hgt
    have hr' : r' ∈ after := by
      have hat : pre[before'.length]? = some r' := by simp [hpre']
      rw [hpre, getElem?_append_right (by omega)] at hat
      rw [show before'.length - before.length = (before'.length - before.length - 1) + 1 by omega,
        getElem?_cons_succ] at hat
      exact mem_of_getElem? hat
    have hread := hnone r'.event (mem_ownEvents.mpr ⟨r', hr', hthread, rfl⟩)
    rw [hevent] at hread
    cases hread
  have hlength : pre.length = before'.length + after'.length + 1 := by
    rw [hpre', length_append, length_cons]
    omega
  omega

end Runs

/-- Where the failures before a reset are separated, no run among the newest
violations had completed then, if none of those that had is found to have
done better. -/
theorem not_completed_of_found
    {vs front rest : List (ComplianceViolation E)} (hsep : Separated s policyId time)
    (hperm : vs.Perm s.violations) (hsorted : vs.Pairwise fun a b => ¬a.detectedAt < b.detectedAt)
    (hvs : front ++ rest = vs)
    (hfound : ∀ v ∈ front, ∀ runId, v.autoFiredRun policyId = some runId →
      ∀ run, s.runs time runId = some run → run.completed = true → runFullyFailed run = true)
    {v : ComplianceViolation E} (hv : v ∈ front)
    (hrun : v.autoFiredRun policyId = some runId) : ¬CompletedAt s.runs time runId := by
  have hnone : ∀ g ∈ front, ∀ r, g.autoFiredRun policyId = some r → ¬PassedAt s.runs time r := by
    rintro g hg r hr ⟨run, hat, hcompleted, hpassed⟩
    rw [hfound g hg r hr run hat hcompleted] at hpassed
    cases hpassed
  intro hcompleted
  rcases passed_or_failed hcompleted with hpassed | hfailed
  · exact hnone v hv runId hrun hpassed
  · have hstored : v ∈ s.violations := hperm.subset (hvs ▸ mem_append_left _ hv)
    obtain ⟨g, hg, r, hr, hpassed, hlt⟩ := hsep v hstored runId hrun hfailed
    have hgvs : g ∈ front ++ rest := hvs ▸ hperm.symm.subset hg
    rcases mem_append.mp hgvs with hg | hg
    · exact hnone g hg r hr hpassed
    · rw [← hvs] at hsorted
      exact (pairwise_append.mp hsorted).2.2 v hv g hg hlt

/-- **Main theorem**: however passes, edits, approvals, dismissals and deletions
interleave, whatever becomes of the runs, in every run whose resets find
the failures separated and whose steps keep them so, a breaker that was
cleared trips again only for runs that have failed since. -/
theorem retrips_on_new_failures (s : BreakerStore E) (ts : List (WorkspaceTask E))
    (tr : List (BreakerLabel E))
    (cfg : Config (serviceSig E) ServiceError (BreakerStore E) (WorkspaceTask E))
    (hstart : s.resets = [])
    (h : Run (breakerSystem E) Rearming ((breakerSystem E).launch s ts) tr cfg) :
    RetripsOnNewFailures s tr := by
  rintro pre l post policyId reason a htr hevent time hreset
  obtain ⟨cfg₁, cfg₂, hrun, hstep, hcond, -⟩ := h.step_of_append htr
  have hcall := hrun.ok_of_step (fun _ => TripCall) (fun _ _ => True) meets_tripTask hstep
  rw [hevent] at hcall
  obtain ⟨vs, seen, ⟨past, hpast, hnone⟩, front, counted, ⟨rest, hvs⟩, hlen, hseen⟩ := hcall
  rw [h.past_eq htr] at hpast
  obtain ⟨before, r, after, hpre, hthread, hread, -, hafter⟩ := exists_of_ownEvents hpast
  -- the violations were read after the reset, when its failures were separated
  have hlt : time < s.clock + before.length := by
    have hreset' : (policyId, time) ∈ cfg₁.store.resets := by rwa [store_of_run hrun]
    refine read_after_reset hpre rfl (by rwa [hafter]) ?_
    have hreread := hcond.reread policyId reason a hevent time hreset'
    rwa [store_of_run hrun, clock_after] at hreread
  have hresetRead : (policyId, time) ∈ (storeAfter s before).resets := by
    rw [hpre, storeAfter_append] at hreset
    exact mem_resets_of_lt hreset (by rwa [clock_after])
  have htrRead : tr = before ++ r :: (after ++ l :: post) := by simp [htr, hpre]
  obtain ⟨cfg₃, cfg₄, hrunRead, hstepRead, -, -⟩ := h.step_of_append htrRead
  have hmay := hstepRead.may
  rw [hread, store_of_run hrunRead] at hmay
  obtain ⟨hperm, hsorted⟩ := hmay
  have hsep : Separated (storeAfter s before) policyId time := by
    rw [← store_of_run hrunRead] at hresetRead ⊢
    exact separated_of_run hstart hrunRead hresetRead
  -- what the lookups since then have found
  have htrLook : tr = (before ++ [r]) ++ after ++ l :: post := by simp [htr, hpre]
  have hresetLook : (policyId, time) ∈ (storeAfter s (before ++ [r])).resets := by
    rw [storeAfter_append]
    exact resets_after _ _ hresetRead
  refine ⟨before, counted, ⟨r :: after, hpre.symm⟩, ?_, hlen, fun v hv => ?_⟩
  · have hfront : front.Sublist vs := hvs ▸ sublist_append_left _ _
    exact (hseen.sublist.trans hfront).subperm.trans hperm.subperm
  · obtain ⟨runId, run, hrunId, hmem, hcompleted, hfailed⟩ := hseen.failed v hv
    obtain ⟨⟨now, hfrom, hto, hat⟩, -⟩ := lookup_of_run h htrLook hresetLook (hafter ▸ hmem)
    refine ⟨runId, hrunId, ?_, now, ?_, ?_, run, hat run rfl, hcompleted, hfailed⟩
    · rw [← runs_after s before]
      refine not_completed_of_found hsep hperm hsorted hvs ?_ (hseen.sublist.subset hv) hrunId
      intro g hg r' hr' run' hat' hcompleted'
      obtain ⟨answer, hmem', hanswer⟩ := hseen.looked g hg r' hr'
      rw [runs_after] at hat'
      obtain ⟨-, hfound⟩ := lookup_of_run h htrLook hresetLook (hafter ▸ hmem')
      by_contra hpassed
      rw [Bool.not_eq_true] at hpassed
      have hfailed' := hanswer run' (hfound run' hat' hcompleted' hpassed) hcompleted'
      rw [hfailed'] at hpassed
      cases hpassed
    · rw [length_append, length_singleton] at hfrom
      omega
    · rw [clock_after, hpre]
      simpa [Nat.add_assoc] using hto

/-! ## A breaker that trips for new failures, and one that trips for old ones -/

/-- The answers of a workspace without devices. -/
def BreakerStore.answer (s : BreakerStore attributeEvaluator) :
    (c : ServiceCall attributeEvaluator) → Except ServiceError (ServiceCall.Answer c)
  | .findPolicies => .ok s.policies.rows
  | .getDevicesFull _ => .ok []
  | .loadAppListsContext => .ok ()
  | .loadGeofenceZonesById => .ok ()
  | .findWorkflows => .ok [emptyWorkflow]
  | .findWorkflowsIn _ => .ok [emptyWorkflow]
  | .loadComplianceState => .ok []
  | .findViolations =>
    if s.violations.Pairwise fun a b => ¬a.detectedAt < b.detectedAt then .ok s.violations
    else .error (.other "not sorted")
  | .getWorkflowRun runId =>
    match s.runs s.clock runId with
    | some run => .ok run
    | none => .error (.http ⟨404, "Run not found"⟩)
  | .tripAutoRun .. => .ok ()
  | .findPolicy id => .ok (s.policies.rows.find? fun p => p.id = id)
  | .updatePolicy id payload =>
    match s.policies.rows.find? fun p => p.id = id with
    | some policy => .ok (policy.updated payload)
    | none => .error (.other "Record to update not found.")
  | .recordAuditEvents _ => .ok ()
  | .saveComplianceState _ => .ok ()
  | .stampEvaluated _ => .ok ()
  | _ => .error (.other "not reached")

theorem may_breakerAnswer (s : BreakerStore attributeEvaluator)
    (c : ServiceCall attributeEvaluator) : s.may c (s.answer c) := by
  cases c with
  | findPolicies => exact rfl
  | findViolations =>
    by_cases hsorted : s.violations.Pairwise fun a b => ¬a.detectedAt < b.detectedAt
    · have hok : s.answer .findViolations = .ok s.violations := if_pos hsorted
      rw [hok]
      exact ⟨List.Perm.refl _, hsorted⟩
    · have herr : s.answer .findViolations = .error (.other "not sorted") := if_neg hsorted
      rw [herr]
      trivial
  | getWorkflowRun runId =>
    cases hrun : s.runs s.clock runId with
    | some run =>
      have hok : s.answer (.getWorkflowRun runId) = .ok run := by simp [BreakerStore.answer, hrun]
      rw [hok]
      exact hrun
    | none =>
      have herr : s.answer (.getWorkflowRun runId) = .error (.http ⟨404, "Run not found"⟩) := by
        simp [BreakerStore.answer, hrun]
      rw [herr]
      trivial
  | _ => trivial

/-- A violation of the policy, auto-fired with a run of its own. -/
def firedRow (runId detectedAt : String) : ComplianceViolation attributeEvaluator :=
  { queuedRow trippedPolicy .autoFired with
    id := runId
    workflowRunId := some runId
    detectedAt := detectedAt }

/-- The policy as it is saved again. -/
def resave : PolicyPayload attributeEvaluator where
  name := "Encryption"
  severity := "medium"
  enabled := true
  conditions := [⟨"encryption", "off"⟩]
  conditionLogic := "all"
  workflowId := some "w1"
  escalatedWorkflowId := none
  escalatedWorkflowMinRiskTier := "high"
  nonComplianceTag := none
  nonComplianceSmartAttributeId := none
  targetDeviceAudienceId := none
  targetPlatform := none
  autoRun := true
  autoRunDestructiveAck := false
  autoRunBatchCap := none
  openCaseOnViolation := false
  autoResolveCaseOnRecovery := false
  mitreTechniques := []
  caseAssignee := none

/-- A tripped policy with the violations `rows`, its edit and then a pass. -/
def resaved (rows : List (ComplianceViolation attributeEvaluator)) (runs : RunHistory) :
    Config (serviceSig attributeEvaluator) ServiceError (BreakerStore attributeEvaluator)
      (WorkspaceTask attributeEvaluator) :=
  (breakerSystem attributeEvaluator).launch
    { policies := ⟨[trippedPolicy], by decide, by decide⟩
      violations := rows
      runs := runs }
    [.update "p1" resave, .blob (.evaluate { nowIso := "2024-02-01T00:00:00.000Z" })]

/-- The edit makes four calls; the eleventh call of the pass trips the breaker. -/
def editThenPass : List ℕ := List.replicate 4 0 ++ List.replicate 14 1

/-- A check of `Separated`. -/
def separated (s : BreakerStore E) (policyId : String) (time : ℕ) : Bool :=
  s.violations.all fun f => (f.autoFiredRun policyId).all fun r =>
    !((s.runs time r).any fun run => run.completed && runFullyFailed run) ||
      s.violations.any fun g => (g.autoFiredRun policyId).any fun r' =>
        ((s.runs time r').any fun run => run.completed && !runFullyFailed run) &&
          decide (f.detectedAt < g.detectedAt)

theorem separated_sound
    (h : separated s policyId time = true) : Separated s policyId time := by
  rintro f hf runId hrunId ⟨run, hrun, hcompleted, hfailed⟩
  have hany := all_eq_true.mp h f hf
  rw [hrunId, Option.all_some, hrun, Option.any_some, hcompleted, hfailed] at hany
  obtain ⟨g, hg, hgood⟩ := any_eq_true.mp hany
  obtain ⟨r', hr', hpass⟩ := (Option.any_eq_true _ _).mp hgood
  rw [Bool.and_eq_true, decide_eq_true_eq] at hpass
  obtain ⟨run', hrun', hpassed⟩ := (Option.any_eq_true _ _).mp hpass.1
  rw [Bool.and_eq_true, Bool.not_eq_true'] at hpassed
  exact ⟨g, hg, r', hr', ⟨run', hrun', hpassed.1, hpassed.2⟩, hpass.2⟩

/-- A check of `Rearming` for runs that neither write violations nor look up what
had passed at a reset. -/
def rearming (tr : List (BreakerLabel E)) (s : BreakerStore E) (l : BreakerLabel E) : Bool :=
  match l.event with
  | ⟨.updatePolicy policyId _, .ok _⟩ => !s.tripped policyId || separated s policyId s.clock
  | ⟨.updateViolation .., .ok _⟩ => false
  | ⟨.createViolations _, .ok _⟩ => false
  | ⟨.getWorkflowRun runId, _⟩ => s.resets.all fun reset =>
    !((s.runs reset.2 runId).any fun run => run.completed && !runFullyFailed run)
  | ⟨.tripAutoRun .., .ok _⟩ => s.resets.all fun reset => (List.range tr.length).any fun k =>
    (tr[k]?).any fun r => r.thread = l.thread && r.event.call.readsHistory && r.event.answer.isOk &&
      decide (reset.2 + (tr.length - k) < s.clock)
  | _ => true

theorem eq_of_readsHistory {e : ServiceEvent E} (hread : e.call.readsHistory = true)
    (hok : e.answer.isOk = true) : ∃ vs, e = ⟨.findViolations, .ok vs⟩ := by
  obtain ⟨c, r⟩ := e
  cases c <;> try cases hread
  cases r with
  | ok vs => exact ⟨vs, rfl⟩
  | error e => cases hok

theorem rearming_sound (s : BreakerStore E) (l : BreakerLabel E)
    (h : rearming tr s l = true) : Rearming tr s l := by
  constructor
  · intro policyId payload a hevent htripped
    rw [rearming, hevent] at h
    exact separated_sound (by simpa [htripped] using h)
  · intro id status runId a hevent
    rw [rearming, hevent] at h
    cases h
  · intro rows a hevent
    rw [rearming, hevent] at h
    cases h
  · intro runId answer hevent policyId time hreset run hrun hcompleted hpassed
    rw [rearming, hevent] at h
    have hnone := List.all_eq_true.mp h _ hreset
    rw [hrun, Option.any_some, hcompleted, hpassed] at hnone
    cases hnone
  · intro policyId reason a hevent time hreset
    rw [rearming, hevent] at h
    obtain ⟨k, hk, hany⟩ := List.any_eq_true.mp (List.all_eq_true.mp h _ hreset)
    obtain ⟨r, hr, hgood⟩ := (Option.any_eq_true _ _).mp hany
    simp only [Bool.and_eq_true, decide_eq_true_eq] at hgood
    obtain ⟨⟨⟨hthread, hread⟩, hok⟩, hlt⟩ := hgood
    obtain ⟨vs, hvs⟩ := eq_of_readsHistory hread hok
    obtain ⟨hlen, rfl⟩ := List.getElem?_eq_some_iff.mp hr
    refine ⟨tr.take k, tr[k], tr.drop (k + 1), vs, ?_, hthread, hvs, ?_⟩
    · rw [← List.drop_eq_getElem_cons hlen, List.take_append_drop]
    · rw [List.length_drop]
      omega

/-- Three violations whose runs were going on at the reset, newer than one whose
run had passed. -/
def newFailures : List (ComplianceViolation attributeEvaluator) :=
  [firedRow "n3" "2024-01-07", firedRow "n2" "2024-01-06", firedRow "n1" "2024-01-05",
    firedRow "ok" "2024-01-04", firedRow "r1" "2024-01-01"]

/-- Those runs fail while the pass is going on. -/
def failLater : RunHistory := fun time runId =>
  if runId = "ok" then some ⟨runId, "completed", ["success"]⟩
  else if runId = "r1" ∨ 6 < time then some ⟨runId, "completed", ["failed"]⟩
  else some ⟨runId, "running", []⟩

/-- The breaker is cleared, three runs fail, and it trips again. -/
theorem retrips_on_new_failures_later : ∃ tr cfg,
    Run (breakerSystem attributeEvaluator) Rearming (resaved newFailures failLater) tr cfg ∧
    ((tr[14]?).any fun l => l.event.call.trips) = true ∧
    RetripsOnNewFailures (resaved newFailures failLater).store tr := by
  have hadmits := Config.admits_of_admitted (breakerSystem attributeEvaluator)
    BreakerStore.answer rearming_sound editThenPass [] (resaved newFailures failLater)
    (by decide +kernel)
  have hrun := Run.nil.play _ _ may_breakerAnswer _ hadmits
  exact ⟨_, _, hrun, rfl, retrips_on_new_failures _ _ _ _ rfl hrun⟩

/-- Three violations whose runs failed before the reset. -/
def oldFailures : List (ComplianceViolation attributeEvaluator) :=
  [firedRow "r3" "2024-01-03", firedRow "r2" "2024-01-02", firedRow "r1" "2024-01-01"]

/-- Every run has failed. -/
def allFailed : RunHistory := fun _ runId => some ⟨runId, "completed", ["failed"]⟩

/-- A breaker that was cleared trips again although no run has failed since. -/
theorem retripped_without_failures :
    ¬∀ (s : BreakerStore attributeEvaluator) (ts : List (WorkspaceTask attributeEvaluator))
        (tr : List (BreakerLabel attributeEvaluator))
        (cfg : Config (serviceSig attributeEvaluator) ServiceError
          (BreakerStore attributeEvaluator) (WorkspaceTask attributeEvaluator)),
      s.resets = [] → Run (breakerSystem attributeEvaluator) always
        ((breakerSystem attributeEvaluator).launch s ts) tr cfg → RetripsOnNewFailures s tr := by
  intro hall
  have hrun := Config.run_play (breakerSystem attributeEvaluator) BreakerStore.answer
    may_breakerAnswer editThenPass (resaved oldFailures allFailed)
  obtain ⟨l, hl, reason, hevent⟩ : ∃ l, ((resaved oldFailures allFailed).play
      (breakerSystem attributeEvaluator) BreakerStore.answer editThenPass).1[14]? = some l ∧
        ∃ reason, l.event = ⟨.tripAutoRun "p1" reason, .ok ()⟩ := ⟨_, rfl, _, rfl⟩
  obtain ⟨hlt, rfl⟩ := List.getElem?_eq_some_iff.mp hl
  have htr := (List.take_append_drop 14 _).symm.trans
    (congrArg (List.append _) (List.drop_eq_getElem_cons hlt))
  have hreset := List.mem_of_getElem? (i := 0) (a := ("p1", 2))
    (l := (storeAfter (resaved oldFailures allFailed).store (((resaved oldFailures allFailed).play
      (breakerSystem attributeEvaluator) BreakerStore.answer editThenPass).1.take 14)).resets) rfl
  obtain ⟨read, counted, -, -, hlen, hsince⟩ :=
    hall _ _ _ _ rfl hrun _ _ _ "p1" reason () htr hevent 2 hreset
  obtain ⟨v, hv⟩ := List.exists_mem_of_length_pos (Nat.lt_of_lt_of_le (by decide) hlen)
  obtain ⟨runId, -, hopen, -⟩ := hsince v hv
  exact hopen ⟨_, rfl, rfl⟩

end AppliverySoar.Compliance
