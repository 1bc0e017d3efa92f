import AppliverySoar.Async.Pool
import AppliverySoar.Compliance.ReviewQueue
import Mathlib.Data.List.Induction

/-!
# Reviewers that race on a violation

Any number of approvals and dismissals, alone and in bulk, interleaved at every
`await` (compliance.service.ts, lines 1113–1229). An approval checks the status
that it has read, launches and only then writes; a dismissal checks nothing.
Both write whatever the row has become in the meantime.

The store holds the violations; everything else may be answered anything.

Results:
* `write_current`: where nobody else writes between a reviewer's read and its
  write, the row is written as it was read.
* `decided_stays`, `launched_once`: then a decided violation stays as it is,
  and a violation is launched once.
* `launched_twice`: two approvals that both launch, and a dismissal of an
  approved violation.
-/

namespace AppliverySoar.Compliance

open Async Prog Workflows List

variable {E : Evaluator}

/-! ## The operations and their store -/

/-- A stored violation, and when it was resolved. -/
structure ReviewRow (E : Evaluator) where
  violation : ComplianceViolation E
  resolvedAt : Option ℕ

/-- `data: { status, resolvedAt: new Date(), workflowRunId }` (lines 1132–1135
and 1184–1187). -/
def ReviewRow.resolve (row : ReviewRow E) (now : ℕ) (status : ViolationStatus)
    (runId : Option String) : ReviewRow E where
  violation := { row.violation with
    status := status
    workflowRunId := runId.or row.violation.workflowRunId }
  resolvedAt := some now

/-- The violations by id, and a clock that every answer moves on. -/
structure ReviewStore (E : Evaluator) where
  rows : String → Option (ReviewRow E)
  clock : ℕ

/-- A read answers the stored row, and only a stored row is updated. -/
def ReviewStore.may (s : ReviewStore E) (c : ServiceCall E)
    (r : Except ServiceError (ServiceCall.Answer c)) : Prop :=
  match (⟨c, r⟩ : ServiceEvent E) with
  | ⟨.findViolation id, .ok found⟩ => found = (s.rows id).map ReviewRow.violation
  | ⟨.updateViolation id _ _, .ok _⟩ => (s.rows id).isSome
  | _ => True

/-- An update that is answered resolves its row. -/
def ReviewStore.next (s : ReviewStore E) (c : ServiceCall E)
    (r : Except ServiceError (ServiceCall.Answer c)) : ReviewStore E where
  rows id :=
    match (⟨c, r⟩ : ServiceEvent E) with
    | ⟨.updateViolation id' status runId, .ok _⟩ =>
      if id = id' then (s.rows id).map fun row => row.resolve s.clock status runId else s.rows id
    | _ => s.rows id
  clock := s.clock + 1

/-- The operations of the review queue. -/
inductive ReviewTask
  | approve (violationId : String)
  | bulkApprove (violationIds : List String)
  | dismiss (violationId : String) (authorized : Bool)
  | bulkDismiss (violationIds : List String) (authorized : Bool)

/-- What each operation runs. -/
def ReviewTask.body : ReviewTask → Service E Unit
  | .approve violationId => approveViolationCore violationId
  | .bulkApprove violationIds => do
    let _ ← bulkApproveViolations violationIds
    pure ()
  | .dismiss violationId authorized => dismissViolationCore violationId authorized
  | .bulkDismiss violationIds authorized => do
    let _ ← bulkDismissViolations violationIds authorized
    pure ()

/-- The operations over their store. -/
def reviewSystem (E : Evaluator) : System (serviceSig E) ServiceError (ReviewStore E) ReviewTask where
  world := ⟨ReviewStore.may, ReviewStore.next⟩
  body := ReviewTask.body
  starts _ _ := []

/-- A label of a run. -/
abbrev ReviewLabel (E : Evaluator) := Label (serviceSig E) ServiceError ReviewTask

/-! ## What a reviewer has in hand -/

/-- A call by which a reviewer takes up a violation or has done with it. -/
def ServiceCall.handles : ServiceCall E → Bool
  | .findViolation _ | .updateViolation .. => true
  | _ => false

/-- The violation in hand after a further call. -/
def handAfter (hand : Option (String × ComplianceViolation E)) (e : ServiceEvent E) :
    Option (String × ComplianceViolation E) :=
  match e with
  | ⟨.findViolation id, .ok (some row)⟩ => some (id, row)
  | ⟨.findViolation _, _⟩ => none
  | ⟨.updateViolation .., _⟩ => none
  | _ => hand

/-- The violation that a reviewer has read, and since then neither read another
nor written. -/
def inHand (past : List (ServiceEvent E)) : Option (String × ComplianceViolation E) :=
  past.foldl handAfter none

theorem inHand_snoc (past : List (ServiceEvent E)) (e : ServiceEvent E) :
    inHand (past ++ [e]) = handAfter (inHand past) e := by
  simp [inHand]

variable {hand : Option (String × ComplianceViolation E)} {e : ServiceEvent E} {id : String}
  {l : ReviewLabel E} {row : ComplianceViolation E} {tr : List (ReviewLabel E)} {s : ReviewStore E}

theorem handAfter_of_not_handles (h : e.call.handles = false) : handAfter hand e = hand := by
  obtain ⟨c, r⟩ := e
  cases c <;> first | rfl | cases h

theorem handAfter_eq_some (h : handAfter hand e = some (id, row)) :
    e = ⟨.findViolation id, .ok (some row)⟩ ∨ e.call.handles = false ∧ hand = some (id, row) := by
  by_cases hcall : e.call.handles = true
  · left
    unfold handAfter at h
    split at h
    · cases h
      rfl
    · cases h
    · cases h
    · next h₁ h₂ h₃ =>
      obtain ⟨c, r⟩ := e
      cases c with
      | findViolation id' => exact absurd rfl (h₂ id' r)
      | updateViolation id' status runId => exact absurd rfl (h₃ id' status runId r)
      | _ => cases hcall
  · rw [Bool.not_eq_true] at hcall
    exact .inr ⟨hcall, (handAfter_of_not_handles hcall).symm.trans h⟩

/-- What is in hand was read, and nothing has been taken up since. -/
theorem exists_read_of_inHand {past : List (ServiceEvent E)} (h : inHand past = some (id, row)) :
    ∃ pre post, past = pre ++ ⟨.findViolation id, .ok (some row)⟩ :: post ∧
      ∀ e ∈ post, e.call.handles = false := by
  induction past using reverseRecOn with
  | nil => cases h
  | append_singleton past e ih =>
    rw [inHand_snoc] at h
    rcases handAfter_eq_some h with rfl | ⟨hcall, hhand⟩
    · exact ⟨past, [], rfl, by simp⟩
    · obtain ⟨pre, post, rfl, hpost⟩ := ih hhand
      refine ⟨pre, post ++ [e], by simp, fun e' he' => ?_⟩
      rcases mem_append.mp he' with he' | he'
      · exact hpost e' he'
      · rw [mem_singleton.mp he']
        exact hcall

/-- What each operation's calls satisfy: only a violation in hand that was
`pending` is launched or approved, and only one in hand is dismissed. -/
def ReviewCall (past : List (ServiceEvent E)) : ServiceCall E → Prop
  | .startWorkflowRun .. => ∃ id row, inHand past = some (id, row) ∧ row.status = .pending
  | .updateViolation id status _ => ∃ row, inHand past = some (id, row) ∧
      (status = .approved ∧ row.status = .pending ∨ status = .dismissed)
  | _ => True

section Calls

variable {es : List (ServiceEvent E)} {α β : Type}

theorem not_handles_of_inLaunch (c : ServiceCall E) (h : c.inLaunch = true) :
    c.handles = false := by
  cases c <;> first | rfl | cases h

theorem not_handles_of_aside (c : ServiceCall E) (h : c.aside = true) : c.handles = false := by
  cases c <;> first | rfl | cases h

variable {p : Service E α}

/-- Calls beside the violation in hand, which was `pending`. -/
theorem meets_pendingThen {id : String} {row : ComplianceViolation E}
    {f : α → Service E β} {Q : Except ServiceError β → List (ServiceEvent E) → Prop}
    (hp : p.Calls fun c => ServiceCall.handles c = false) (hhand : inHand es = some (id, row))
    (hpending : row.status = .pending) (hQ : ∀ e es', Q (.error e) es')
    (hf : ∀ a es', inHand es' = some (id, row) →
      (f a).Meets (World.log _ _) ReviewCall es' Q) :
    (p >>= f).Meets (World.log _ _) ReviewCall es Q := by
  refine Meets.bind (R := fun _ es' => inHand es' = some (id, row)) ?_ hf
  have hframe := hp.meets_frame_ok (W := World.log _ _) inHand (fun s c r hc _ =>
    (inHand_snoc s ⟨c, r⟩).trans (handAfter_of_not_handles hc)) es
  refine (hframe.weaken fun es' c hc => ?_).mono fun r es' h => ?_
  · cases c with
    | startWorkflowRun => exact ⟨id, row, hc.2.trans hhand, hpending⟩
    | updateViolation => cases hc.1
    | _ => trivial
  · cases r with
    | ok a => exact h.1.trans hhand
    | error e => exact hQ e es'

/-- A call that neither takes up nor writes a violation, nor starts a run. -/
def ServiceCall.harmless (c : ServiceCall E) : Bool :=
  !c.handles && !c.inLaunch

theorem meets_harmless (hp : p.Calls fun c => ServiceCall.harmless c = true) :
    p.Meets (World.log _ _) ReviewCall es fun _ _ => True := by
  refine (hp.meets_extends (fun es' c hc => ?_) es).mono fun _ _ _ => trivial
  cases c <;> trivial

theorem harmless_of_aside (c : ServiceCall E) (h : c.aside = true) : c.harmless = true := by
  cases c <;> first | rfl | cases h

theorem harmless_setSuppressionStatus (policyId deviceId : String) (status : ViolationStatus) :
    (setSuppressionStatus policyId deviceId status : Service E Unit).Calls
      fun c => ServiceCall.harmless c = true :=
  Calls.bind (calls_ask rfl) fun _ => calls_awaitIf (calls_ask rfl)

theorem meets_approve_from (violationId : String) (es : List (ServiceEvent E)) :
    (approveViolationCore violationId : Service E Unit).Meets (World.log _ _) ReviewCall es
      fun _ _ => True := by
  unfold approveViolationCore
  refine Meets.bind (R := fun found es' => ∀ row, found = some row →
    inHand es' = some (violationId, row)) ⟨trivial, fun r _ => ?_⟩ fun found es' hfound => ?_
  · cases r with
    | ok found =>
      rintro row rfl
      exact inHand_snoc es _
    | error _ => trivial
  · cases found with
    | none => trivial
    | some row =>
      dsimp only
      split_ifs with hstatus
      · trivial
      · have hpending : row.status = .pending := by simpa using hstatus
        refine meets_pendingThen ((aside_findLinkedWorkflow _).widen not_handles_of_aside)
          (hfound row rfl) hpending (fun _ _ => trivial) fun linked es₁ h₁ => ?_
        cases linked with
        | none => trivial
        | some workflow =>
          refine meets_pendingThen ((inLaunch_launchWorkflowRun _ _ _).widen not_handles_of_inLaunch)
            h₁ hpending (fun _ _ => trivial) fun record es₂ h₂ => ?_
          cases record with
          | none => trivial
          | some record =>
            refine Meets.bind (R := fun _ _ => True)
              ⟨⟨row, h₂, .inl ⟨rfl, hpending⟩⟩, fun r _ => by cases r <;> trivial⟩ fun _ es₃ _ => ?_
            refine meets_harmless (Calls.bind (calls_ask rfl) fun _ => ?_)
            refine Calls.bind (harmless_setSuppressionStatus _ _ _) fun _ => ?_
            exact (Calls.bind (aside_linkRun _ _) fun _ =>
              calls_quietly (aside_removeComplianceMarkersForDevice _ _)).widen harmless_of_aside

theorem meets_dismiss_from (violationId : String) (authorized : Bool)
    (es : List (ServiceEvent E)) :
    (dismissViolationCore violationId authorized : Service E Unit).Meets (World.log _ _)
      ReviewCall es fun _ _ => True := by
  unfold dismissViolationCore
  refine Meets.bind (R := fun found es' => ∀ row, found = some row →
    inHand es' = some (violationId, row)) ⟨trivial, fun r _ => ?_⟩ fun found es' hfound => ?_
  · cases r with
    | ok found =>
      rintro row rfl
      exact inHand_snoc es _
    | error _ => trivial
  · cases found with
    | none => trivial
    | some row =>
      refine Meets.bind (R := fun _ _ => True)
        ⟨⟨row, hfound row rfl, .inr rfl⟩, fun r _ => by cases r <;> trivial⟩ fun _ es₁ _ => ?_
      refine meets_harmless (Calls.bind (calls_ask rfl) fun _ => ?_)
      refine Calls.bind (harmless_setSuppressionStatus _ _ _) fun _ => ?_
      exact (Calls.bind (aside_noteDismissed _) fun _ => calls_awaitIf
        (calls_quietly (aside_removeComplianceMarkersForDevice _ _))).widen harmless_of_aside

/-- A bulk form goes on from one element to the next, whatever became of it. -/
theorem meets_bulk {γ : Type} {core : String → Service E Unit}
    {f : γ → String → Except ServiceError Unit → Service E γ}
    (hcore : ∀ id es, (core id).Meets (World.log _ _) ReviewCall es fun _ _ => True)
    (hf : ∀ acc id r, ∃ acc', f acc id r = pure acc') (ids : List String) (acc : γ) :
    (ids.foldlM (fun acc id => (core id).attempt >>= f acc id) acc >>= fun _ => pure () :
      Service E Unit).Meets (World.log _ _) ReviewCall [] fun _ _ => True := by
  refine Meets.bind (R := fun _ _ => True) ?_ fun _ _ _ => trivial
  refine (Meets.foldlM (fun _ _ _ => True) (E := fun _ _ => True) trivial ?_).mono
    fun r _ _ => by cases r <;> trivial
  rintro done id todo - acc es -
  refine Meets.bind (R := fun _ _ => True) (Meets.attempt ?_) fun r es' _ => ?_
  · exact (hcore id es).mono fun _ _ _ => trivial
  · obtain ⟨acc', h⟩ := hf acc id r
    rw [h]
    trivial

theorem meets_reviewTask (task : ReviewTask) :
    (task.body : Service E Unit).Meets (World.log _ _) ReviewCall [] fun _ _ => True := by
  cases task with
  | approve violationId => exact meets_approve_from violationId []
  | dismiss violationId authorized => exact meets_dismiss_from violationId authorized []
  | bulkApprove violationIds =>
    exact meets_bulk meets_approve_from (fun _ _ r => by cases r <;> exact ⟨_, rfl⟩) violationIds _
  | bulkDismiss violationIds authorized =>
    exact meets_bulk (fun id => meets_dismiss_from id authorized)
      (fun _ _ r => by cases r <;> exact ⟨_, rfl⟩) violationIds _

end Calls

/-! ## Runs without disputes -/

/-- The label writes the violation. -/
def Writes (id : String) (l : ReviewLabel E) : Prop :=
  ∃ status runId, l.event = ⟨.updateViolation id status runId, .ok ()⟩

/-- The label launches the workflow of the violation. -/
def Launches (id : String) (l : ReviewLabel E) : Prop :=
  (∃ pair runId workflow refs, l.event.call = .startWorkflowRun pair runId workflow refs) ∧
    ∃ row, inHand l.past = some (id, row)

/-- `'approved'` or `'dismissed'`. -/
def ViolationStatus.decided : ViolationStatus → Bool
  | .approved | .dismissed => true
  | _ => false

/-- A step by which a reviewer does not interfere with another, nor with what
has been decided. -/
structure Undisputed (tr : List (ReviewLabel E)) (_ : ReviewStore E) (l : ReviewLabel E) :
    Prop where
  /-- Since the reviewer's read, nobody else has written what it launches or
      writes. -/
  current : ∀ id, Launches id l ∨ Writes id l → ∀ before w after, tr = before ++ w :: after →
    Writes id w → w.thread ≠ l.thread →
      ∃ r ∈ after, r.thread = l.thread ∧ ∃ answer, r.event = ⟨.findViolation id, answer⟩
  /-- A dismissed violation was read undecided. -/
  undecided : ∀ id runId row, l.event.call = .updateViolation id .dismissed runId →
    inHand l.past = some (id, row) → row.status.decided = false
  /-- An earlier launch of what is launched has been recorded. -/
  recorded : ∀ id, Launches id l → ∀ before l' after, tr = before ++ l' :: after →
    Launches id l' → ∃ w ∈ after, Writes id w

/-- The violations after a trace. -/
def rowsAfter (s : ReviewStore E) (tr : List (ReviewLabel E)) : String → Option (ReviewRow E) :=
  ((reviewSystem E).world.after s (tr.map Label.event)).rows

/-- A decided violation keeps its status and its time. -/
def DecidedStays (s : ReviewStore E) (tr : List (ReviewLabel E)) : Prop :=
  ∀ id row pre post, tr = pre ++ post → rowsAfter s pre id = some row →
    row.violation.status.decided = true → rowsAfter s tr id = some row

/-- A violation is launched at most once. -/
def LaunchedOnce (tr : List (ReviewLabel E)) : Prop :=
  ∀ id pre l mid l' post, tr = pre ++ l :: (mid ++ l' :: post) → Launches id l → ¬Launches id l'

theorem rowsAfter_append (s : ReviewStore E) (tr tr' : List (ReviewLabel E)) :
    rowsAfter s (tr ++ tr') =
      rowsAfter ((reviewSystem E).world.after s (tr.map Label.event)) tr' := by
  rw [rowsAfter, map_append, World.after_append]
  rfl

theorem rows_of_run {cond} {ts : List ReviewTask}
    {cfg : Config (serviceSig E) ServiceError (ReviewStore E) ReviewTask}
    (h : Run (reviewSystem E) cond ((reviewSystem E).launch s ts) tr cfg) :
    cfg.store.rows = rowsAfter s tr := by
  rw [h.store_eq]
  rfl

theorem next_unwritten (h : ¬Writes id l) :
    (s.next l.event.call l.event.answer).rows id = s.rows id := by
  obtain ⟨i, t, past, c, r⟩ := l
  cases c with
  | updateViolation id' status runId =>
    cases r with
    | ok a =>
      have hne : id ≠ id' := by
        rintro rfl
        exact h ⟨status, runId, rfl⟩
      exact if_neg hne
    | error e => rfl
  | _ => rfl

theorem rowsAfter_unwritten (s : ReviewStore E)
    (h : ∀ w ∈ tr, ¬Writes id w) : rowsAfter s tr id = s.rows id := by
  induction tr generalizing s with
  | nil => rfl
  | cons l tr ih =>
    have hrest := ih (s.next l.event.call l.event.answer) fun w hw => h w (mem_cons_of_mem _ hw)
    exact hrest.trans (next_unwritten (h l mem_cons_self))

section Runs

variable {s : ReviewStore E} {ts : List ReviewTask} {tr : List (ReviewLabel E)}
  {cfg : Config (serviceSig E) ServiceError (ReviewStore E) ReviewTask} {l : ReviewLabel E}
  {id : String} {row : ComplianceViolation E}

theorem reviewCall_of_run {cond}
    (h : Run (reviewSystem E) cond ((reviewSystem E).launch s ts) tr cfg) (hl : l ∈ tr) :
    ReviewCall l.past l.event.call :=
  h.ok_of_meets (fun _ => ReviewCall) meets_reviewTask l hl

variable {pre post : List (ReviewLabel E)}

theorem exists_read {cond} (h : Run (reviewSystem E) cond ((reviewSystem E).launch s ts) tr cfg)
    (htr : tr = pre ++ l :: post)
    (hhand : inHand l.past = some (id, row)) :
    ∃ before r after, pre = before ++ r :: after ∧
      r.event = ⟨.findViolation id, .ok (some row)⟩ ∧
      (rowsAfter s before id).map ReviewRow.violation = some row ∧
      ∀ l' ∈ after, l'.thread = l.thread → l'.event.call.handles = false := by
  obtain ⟨pre', post', hpast, hpost⟩ := exists_read_of_inHand hhand
  rw [h.past_eq htr] at hpast
  obtain ⟨before, r, after, rfl, hthread, hevent, -, hafter⟩ := exists_of_ownEvents hpast
  obtain ⟨cfg₁, cfg₂, hrun, hstep, -, -⟩ :=
    h.step_of_append (htr.trans (append_assoc before (r :: after) (l :: post)))
  refine ⟨before, r, after, rfl, hevent, ?_, fun l' hl' hthread' => ?_⟩
  · have hmay := hstep.may
    rw [hevent] at hmay
    rw [← rows_of_run hrun]
    exact hmay.symm
  · refine hpost l'.event ?_
    rw [← hafter]
    exact mem_ownEvents.mpr ⟨l', hl', hthread', rfl⟩

/-- Where nobody else writes in between, nothing is written from the read to the
launch or write. -/
theorem unwritten_since_read {pre before after : List (ReviewLabel E)} {r : ReviewLabel E}
    (hcond : Undisputed pre s l) (htouch : Launches id l ∨ Writes id l)
    (hpre : pre = before ++ r :: after)
    (hafter : ∀ l' ∈ after, l'.thread = l.thread → l'.event.call.handles = false) :
    ∀ w ∈ after, ¬Writes id w := by
  intro w hw hwrites
  by_cases hthread : w.thread = l.thread
  · obtain ⟨status, runId, hevent⟩ := hwrites
    have hnot := hafter w hw hthread
    rw [hevent] at hnot
    cases hnot
  · obtain ⟨a, b, rfl⟩ := append_of_mem hw
    obtain ⟨r', hr', hthread', answer, hevent⟩ := hcond.current id htouch (before ++ r :: a) w b
      (by simp [hpre]) hwrites hthread
    have hnot := hafter r' (by simp [hr']) hthread'
    rw [hevent] at hnot
    cases hnot

section

variable (h : Run (reviewSystem E) Undisputed ((reviewSystem E).launch s ts) tr cfg)
include h

/-- A reviewer launches or writes a violation as it has read it. -/
theorem current_of_run
    (htr : tr = pre ++ l :: post)
    (htouch : Launches id l ∨ Writes id l) (hhand : inHand l.past = some (id, row)) :
    (rowsAfter s pre id).map ReviewRow.violation = some row := by
  obtain ⟨before, r, after, hpre, hevent, hread, hafter⟩ := exists_read h htr hhand
  obtain ⟨cfg₁, cfg₂, hrun, hstep, hcond, -⟩ := h.step_of_append htr
  have hcond' : Undisputed pre s l := ⟨hcond.current, hcond.undecided, hcond.recorded⟩
  have hnone := unwritten_since_read hcond' htouch hpre hafter
  rw [← hread, hpre, rowsAfter_append, rowsAfter_unwritten _ (fun w hw => ?_)]
  · rfl
  · rcases mem_cons.mp hw with rfl | hw
    · rintro ⟨status, runId, hwrite⟩
      rw [hevent] at hwrite
      cases hwrite
    · exact hnone w hw

theorem write_current
    (htr : tr = pre ++ l :: post) (hwrites : Writes id l) :
    ∃ row, (rowsAfter s pre id).map ReviewRow.violation = some row ∧
      row.status.decided = false := by
  obtain ⟨status, runId, hevent⟩ := hwrites
  have hcall := reviewCall_of_run h (l := l) (by simp [htr])
  rw [hevent] at hcall
  obtain ⟨row, hhand, hstatus⟩ := hcall
  refine ⟨row, current_of_run h htr (.inr ⟨status, runId, hevent⟩) hhand, ?_⟩
  rcases hstatus with ⟨-, hpending⟩ | rfl
  · rw [hpending]
    rfl
  · obtain ⟨_, _, _, _, hcond, _⟩ := h.step_of_append htr
    exact hcond.undecided id runId row (by rw [hevent]) hhand

theorem decided_stays :
    DecidedStays s tr := by
  rintro id row pre post rfl hrow hdecided
  induction post using reverseRecOn generalizing cfg with
  | nil => simpa using hrow
  | append_singleton post l ih =>
    have htr : pre ++ (post ++ [l]) = (pre ++ post) ++ l :: [] := by simp
    obtain ⟨cfg₁, cfg₂, hrun, hstep, -, -⟩ := h.step_of_append htr
    have hbefore := ih hrun
    rw [htr, rowsAfter_append]
    refine (next_unwritten fun hwrites => ?_).trans hbefore
    obtain ⟨row', hrow', hopen⟩ := write_current h htr hwrites
    rw [hbefore] at hrow'
    cases hrow'
    rw [hdecided] at hopen
    cases hopen

end

theorem decided_of_write {cond}
    (h : Run (reviewSystem E) cond ((reviewSystem E).launch s ts) tr cfg)
    (htr : tr = pre ++ l :: post) (hwrites : Writes id l) :
    ∃ row, rowsAfter s (pre ++ [l]) id = some row ∧ row.violation.status.decided = true := by
  obtain ⟨status, runId, hevent⟩ := hwrites
  have hcall := reviewCall_of_run h (l := l) (by simp [htr])
  obtain ⟨cfg₁, cfg₂, hrun, hstep, -, -⟩ := h.step_of_append htr
  have hmay := hstep.may
  rw [hevent] at hcall hmay
  obtain ⟨row, hrow⟩ := Option.isSome_iff_exists.mp hmay
  refine ⟨row.resolve cfg₁.store.clock status runId, ?_, ?_⟩
  · rw [rowsAfter, map_append, World.after_append]
    have hstore := hrun.store_eq
    change _ = (reviewSystem E).world.after s _ at hstore
    rw [← hstore]
    show (cfg₁.store.next l.event.call l.event.answer).rows id = _
    rw [hevent]
    exact (if_pos rfl).trans (by rw [hrow]; rfl)
  · obtain ⟨_, -, ⟨rfl, -⟩ | rfl⟩ := hcall <;> rfl

theorem launched_once (h : Run (reviewSystem E) Undisputed ((reviewSystem E).launch s ts) tr cfg) :
    LaunchedOnce tr := by
  rintro v pre l mid l' post htr hl hl'
  have htr' : tr = (pre ++ l :: mid) ++ l' :: post := by simp [htr]
  obtain ⟨cfg₁, cfg₂, hrun, hstep, hcond, -⟩ := h.step_of_append htr'
  -- the first launch has been recorded, so the violation is decided
  obtain ⟨w, hw, hwrites⟩ := hcond.recorded v hl' pre l mid rfl hl
  obtain ⟨a, b, rfl⟩ := append_of_mem hw
  have hw' : pre ++ l :: (a ++ w :: b) = (pre ++ l :: a) ++ w :: b := by simp
  obtain ⟨stored, hstored, hdecided⟩ := decided_of_write hrun hw' hwrites
  have hstays := decided_stays hrun v stored (pre ++ l :: a ++ [w]) b (by simp) hstored hdecided
  -- but the second launch has it in hand as it is, and `pending`
  obtain ⟨⟨pair, runId, workflow, refs, hcall⟩, row, hhand⟩ := id hl'
  have hpending := reviewCall_of_run h (l := l') (by simp [htr])
  rw [hcall] at hpending
  have hcurrent := current_of_run h htr' (.inl hl') hhand
  obtain ⟨v', row', hhand', hpending⟩ := hpending
  rw [hhand] at hhand'
  cases hhand'
  rw [hstays] at hcurrent
  cases hcurrent
  rw [hpending] at hdecided
  cases hdecided

end Runs

/-- **Main theorem**: however approvals and dismissals interleave, alone or in
bulk, in every undisputed run a violation is launched at most once, and once
decided keeps its status and its time. -/
theorem reviewed_once (s : ReviewStore E) (ts : List ReviewTask) (tr : List (ReviewLabel E))
    (cfg : Config (serviceSig E) ServiceError (ReviewStore E) ReviewTask)
    (h : Run (reviewSystem E) Undisputed ((reviewSystem E).launch s ts) tr cfg) :
    LaunchedOnce tr ∧ DecidedStays s tr :=
  ⟨launched_once h, decided_stays h⟩

/-! ## A run that is undisputed, and two that are not -/

/-- The answers of a store whose other tables are empty but for the workflow. -/
def ReviewStore.answer (s : ReviewStore attributeEvaluator) :
    (c : ServiceCall attributeEvaluator) → Except ServiceError (ServiceCall.Answer c)
  | .findViolation id => .ok ((s.rows id).map ReviewRow.violation)
  | .updateViolation id _ _ =>
    if (s.rows id).isSome then .ok () else .error (.other "Record to update not found.")
  | .findWorkflow _ => .ok (some emptyWorkflow)
  | .randomUUID => .ok "run1"
  | .startWorkflowRun .. => .ok ()
  | .recordAuditEvents _ => .ok ()
  | .loadComplianceState => .ok []
  | .findPolicy _ => .ok none
  | _ => .error (.other "unavailable")

theorem may_reviewAnswer (s : ReviewStore attributeEvaluator)
    (c : ServiceCall attributeEvaluator) : s.may c (s.answer c) := by
  cases c with
  | findViolation id => exact rfl
  | updateViolation id status runId =>
    by_cases hrow : (s.rows id).isSome = true
    · have hok : s.answer (.updateViolation id status runId) = .ok () := if_pos hrow
      rw [hok]
      exact hrow
    · have herr : s.answer (.updateViolation id status runId) =
          .error (.other "Record to update not found.") := if_neg hrow
      rw [herr]
      trivial
  | _ => trivial

/-- Two pending violations and the operations `ts`. -/
def twoPending (ts : List ReviewTask) :
    Config (serviceSig attributeEvaluator) ServiceError (ReviewStore attributeEvaluator)
      ReviewTask :=
  (reviewSystem attributeEvaluator).launch
    { rows := fun id => if id ∈ ["v1", "v2"]
        then some ⟨{ queuedRow reviewedPolicy .pending with id := id }, none⟩ else none
      clock := 0 } ts

/-- The violation that a label launches or writes. -/
def touched (l : ReviewLabel E) : Option String :=
  match l.event with
  | ⟨.updateViolation id _ _, .ok _⟩ => some id
  | ⟨.startWorkflowRun .., _⟩ => (inHand l.past).map Prod.fst
  | _ => none

/-- A check of `Undisputed` for reviewers that never meet. -/
def undisputed (tr : List (ReviewLabel E)) (_ : ReviewStore E) (l : ReviewLabel E) : Bool :=
  tr.all (fun l' => touched l' = none || touched l' ≠ touched l ||
    (l'.thread = l.thread && !l.event.call.inLaunch)) &&
  (inHand l.past).all fun hand => !hand.2.status.decided

theorem touched_of_writes (h : Writes id l) :
    touched l = some id := by
  obtain ⟨status, runId, hevent⟩ := h
  rw [touched, hevent]

theorem touched_of_launches (h : Launches id l) :
    touched l = some id := by
  obtain ⟨i, t, past, c, r⟩ := l
  obtain ⟨⟨pair, runId, workflow, refs, rfl⟩, row, hhand⟩ := h
  exact congrArg (Option.map Prod.fst) hhand

theorem undisputed_sound (tr : List (ReviewLabel E)) (s : ReviewStore E) (l : ReviewLabel E)
    (h : undisputed tr s l = true) : Undisputed tr s l := by
  obtain ⟨hall, hhand⟩ := Bool.and_eq_true_iff.mp h
  have htouched : ∀ l' ∈ tr, touched l' = touched l → touched l ≠ none →
      l'.thread = l.thread ∧ l.event.call.inLaunch = false := by
    intro l' hl' hsame hsome
    simpa [hsame, hsome] using all_eq_true.mp hall l' hl'
  constructor
  · intro id htouch before w after htr hwrites hthread
    have hl : touched l = some id := htouch.elim touched_of_launches touched_of_writes
    have hw := htouched w (by simp [htr]) ((touched_of_writes hwrites).trans hl.symm) (by simp [hl])
    exact absurd hw.1 hthread
  · intro id runId row _ hrow
    rw [hrow] at hhand
    simpa using hhand
  · intro id hlaunch before l' after htr hlaunch'
    have hl := touched_of_launches hlaunch
    have hw := htouched l' (by simp [htr]) ((touched_of_launches hlaunch').trans hl.symm)
      (by simp [hl])
    obtain ⟨⟨pair, runId, workflow, refs, hcall⟩, -⟩ := hlaunch
    rw [hcall] at hw
    cases hw.2

/-- One violation is approved while another is dismissed. -/
theorem reviewed_once_apart : ∃ tr cfg,
    Run (reviewSystem attributeEvaluator) Undisputed
      (twoPending [.approve "v1", .bulkDismiss ["v2"] false]) tr cfg ∧
    tr.length = 12 ∧ LaunchedOnce tr ∧ DecidedStays (twoPending []).store tr := by
  have hadmits := Config.admits_of_admitted (reviewSystem attributeEvaluator)
    ReviewStore.answer undisputed_sound [0, 1, 0, 0, 1, 0, 0, 1, 0, 0, 1, 0] []
    (twoPending [.approve "v1", .bulkDismiss ["v2"] false]) (by decide +kernel)
  have hrun := Run.nil.play _ _ may_reviewAnswer _ hadmits
  exact ⟨_, _, hrun, rfl, reviewed_once _ _ _ _ hrun⟩

/-- Both approvals read the violation, then one runs to its end, then the other. -/
def bothApprove : List ℕ := [0, 1] ++ List.replicate 7 0 ++ List.replicate 7 1

/-- Two approvals that read the violation before either writes it both launch;
an approved violation is dismissed. -/
theorem launched_twice :
    (¬∀ (s : ReviewStore attributeEvaluator) (ts : List ReviewTask)
        (tr : List (ReviewLabel attributeEvaluator))
        (cfg : Config (serviceSig attributeEvaluator) ServiceError
          (ReviewStore attributeEvaluator) ReviewTask),
      Run (reviewSystem attributeEvaluator) always
        ((reviewSystem attributeEvaluator).launch s ts) tr cfg → LaunchedOnce tr) ∧
    ¬∀ (s : ReviewStore attributeEvaluator) (ts : List ReviewTask)
        (tr : List (ReviewLabel attributeEvaluator))
        (cfg : Config (serviceSig attributeEvaluator) ServiceError
          (ReviewStore attributeEvaluator) ReviewTask),
      Run (reviewSystem attributeEvaluator) always
        ((reviewSystem attributeEvaluator).launch s ts) tr cfg → DecidedStays s tr := by
  constructor
  · intro hall
    have hrun := Config.run_play (reviewSystem attributeEvaluator) ReviewStore.answer
      may_reviewAnswer bothApprove
      (twoPending [.approve "v1", .approve "v1"])
    obtain ⟨l, hi, hl⟩ : ∃ l, ((twoPending [.approve "v1", .approve "v1"]).play
        (reviewSystem attributeEvaluator) ReviewStore.answer bothApprove).1[4]? = some l ∧
          Launches "v1" l := ⟨_, rfl, ⟨_, _, _, _, rfl⟩, _, rfl⟩
    obtain ⟨l', hj, hl'⟩ : ∃ l, ((twoPending [.approve "v1", .approve "v1"]).play
        (reviewSystem attributeEvaluator) ReviewStore.answer bothApprove).1[11]? = some l ∧
          Launches "v1" l := ⟨_, rfl, ⟨_, _, _, _, rfl⟩, _, rfl⟩
    obtain ⟨pre, mid, post, htr⟩ := append_of_getElem? (by decide) hi hj
    exact hall _ _ _ _ hrun "v1" pre l mid l' post htr hl hl'
  · intro hall
    have hrun := Config.run_play (reviewSystem attributeEvaluator) ReviewStore.answer
      may_reviewAnswer (replicate 8 0 ++ replicate 4 1)
      (twoPending [.approve "v1", .dismiss "v1" false])
    have hstays := hall _ _ _ _ hrun "v1" _ _ _ (take_append_drop 5 _).symm rfl rfl
    cases hstays

end AppliverySoar.Compliance
