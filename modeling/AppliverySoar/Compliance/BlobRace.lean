import AppliverySoar.Async.Pool
import AppliverySoar.Compliance.Workspace
import Mathlib.Data.List.Induction

/-!
# Operations that race on the suppression blob

Any number of evaluation passes, approvals, dismissals and policy deletions of
one workspace, interleaved at every `await`. Each loads the whole blob, changes
some keys and writes the whole blob back (`loadComplianceState` and
`saveComplianceState`, compliance.service.ts, lines 282–293).

All that the store remembers is the blob and the ids that were drawn; every
other read may be answered anything, so that what is proved holds for whatever
those tables hold and whoever else changes them.

Results:
* `saves_own_changes`: where a save meets the blob that was loaded, it changes
  only the keys that its own operation is about.
* `recovery_between`: between the creation of two rows for one policy and
  device, a pass has found the first recovered.
* `blob_race_free`: both, for every run whose saves and insertions meet what
  they expect.
* `duplicate_violation`: a run of two passes that does not.
-/

namespace AppliverySoar.Compliance

open Async Access Workflows List

variable {E : Evaluator}

/-! ## The operations and their store -/

/-- The stored blob, and the ids that `crypto.randomUUID()` has given. -/
structure BlobStore where
  state : SuppressionState
  issued : List String

/-- A load answers the stored blob, and no id is given twice. -/
def BlobStore.may (s : BlobStore) (c : ServiceCall E)
    (r : Except ServiceError (ServiceCall.Answer c)) : Prop :=
  match mark ⟨c, r⟩ with
  | some (.loaded state) => state = s.state
  | some (.issued id) => id ∉ s.issued
  | _ => True

/-- A save that is answered replaces the blob. -/
def BlobStore.next (s : BlobStore) (c : ServiceCall E)
    (r : Except ServiceError (ServiceCall.Answer c)) : BlobStore :=
  match mark ⟨c, r⟩ with
  | some (.saved state) => { s with state := state }
  | some (.issued id) => { s with issued := id :: s.issued }
  | _ => s

/-- The operations over their store. -/
def blobSystem (E : Evaluator) : System (serviceSig E) ServiceError BlobStore BlobTask where
  world := ⟨BlobStore.may, BlobStore.next⟩
  body := BlobTask.body
  starts _ _ := []

/-- A label of a run. -/
abbrev BlobLabel (E : Evaluator) := Label (serviceSig E) ServiceError BlobTask

/-- The mark that a label leaves. -/
def labelMark (l : BlobLabel E) : Option (Mark E) :=
  mark l.event

/-! ## What an operation may do to a key -/

/-- The entry of a violation that the operation has read takes a new status. -/
def Restatused (violationId : String) (status : ViolationStatus) (past : List (ServiceEvent E))
    (key : String) (old new : Option SuppressionEntry) : Prop :=
  ∃ v, ⟨.findViolation violationId, .ok (some v)⟩ ∈ past ∧
    key = suppressionKey v.policyId v.deviceId ∧ new = old.map fun e => { e with status := status }

/-- The entry `old` of a key becomes `new` by the operation's own doing: a pass
removes what it found recovered and adds what it found violating, among the
keys of its policies and devices; an approval or dismissal changes the
status of its violation; a deletion removes its policy's keys. -/
def OwnChange (task : BlobTask) (past : List (ServiceEvent E)) (key : String)
    (old new : Option SuppressionEntry) : Prop :=
  match task with
  | .evaluate req =>
    (∃ all items, .policies all ∈ marks past ∧ .devices items ∈ marks past ∧
      key ∈ req.keys all items) ∧
    (∀ e, old = some e → .recovered e.violationId ∈ marks past) ∧
    ∀ e, new = some e → .issued e.violationId ∈ marks past
  | .approve violationId => Restatused violationId .approved past key old new
  | .dismiss violationId _ => Restatused violationId .dismissed past key old new
  | .deletePolicy policyId => startsWith key (policyPrefix policyId) = true ∧ new = none

/-- The blob `b` is what the operation loaded, but for its own changes. -/
def SavesOver (own : List (ServiceEvent E) → String → Option SuppressionEntry →
    Option SuppressionEntry → Prop) (past : List (ServiceEvent E)) (b : SuppressionState) : Prop :=
  ∃ b₀, .loaded b₀ ∈ marks past ∧ ∀ key,
    SuppressionState.get b key = SuppressionState.get b₀ key ∨
      own past key (SuppressionState.get b₀ key) (SuppressionState.get b key)

/-- The writes of an operation other than a pass. -/
def WriteCall (own : List (ServiceEvent E) → String → Option SuppressionEntry →
    Option SuppressionEntry → Prop) (past : List (ServiceEvent E)) : ServiceCall E → Prop
  | .saveComplianceState b => SavesOver own past b
  | .createViolations _ => False
  | _ => True

/-- What each operation's calls satisfy. -/
def TaskCall (task : BlobTask) (past : List (ServiceEvent E)) (c : ServiceCall E) : Prop :=
  match task with
  | .evaluate req => PassCall req past c
  | task => WriteCall (OwnChange task) past c

/-! ## The short operations -/

/-- A call that writes neither the blob nor rows. -/
def ServiceCall.writes : ServiceCall E → Bool
  | .saveComplianceState _ | .createViolations _ => true
  | _ => false

/-- A call that does not write. -/
abbrev ReadsOnly (c : ServiceCall E) : Prop := c.writes = false

section Short

variable {own : List (ServiceEvent E) → String → Option SuppressionEntry →
    Option SuppressionEntry → Prop} {es : List (ServiceEvent E)}

theorem writeCall_of_readsOnly (past : List (ServiceEvent E)) (c : ServiceCall E)
    (h : ReadsOnly c) : WriteCall own past c := by
  cases c <;> trivial

theorem meets_readsOnly {α : Type} {p : Service E α} (hp : p.Calls ReadsOnly) :
    p.Meets (World.log _ _) (WriteCall own) es fun _ _ => True :=
  (hp.meets_extends writeCall_of_readsOnly es).mono fun _ _ _ => trivial

theorem meets_bind_readsOnly {α β : Type} {p : Service E α} {f : α → Service E β}
    (hp : p.Calls ReadsOnly)
    (hf : ∀ a es', es <+: es' → (f a).Meets (World.log _ _) (WriteCall own) es' fun _ _ => True) :
    (p >>= f).Meets (World.log _ _) (WriteCall own) es fun _ _ => True := by
  refine Prog.Meets.bind (R := fun _ es' => es <+: es') ?_ hf
  refine (hp.meets_extends writeCall_of_readsOnly es).mono fun r es' h => ?_
  cases r with
  | ok _ => exact h
  | error _ => trivial

theorem reads_ask {c : ServiceCall E} (h : ReadsOnly c) : (ask c : Service E _).Calls ReadsOnly :=
  calls_ask h

theorem readsOnly_of_inLaunch (c : ServiceCall E) (h : c.inLaunch = true) : ReadsOnly c := by
  cases c <;> first | rfl | cases h

theorem readsOnly_of_aside (c : ServiceCall E) (h : c.aside = true) : ReadsOnly c := by
  cases c <;> first | rfl | cases h

variable {β : Type} {f : Unit → Service E β}

/-- What follows the load of the blob, in an operation that saves it at most
once. -/
theorem meets_loadThen {f : SuppressionState → Service E β}
    (hf : ∀ b₀ es', es <+: es' → .loaded b₀ ∈ marks es' →
      (f b₀).Meets (World.log _ _) (WriteCall own) es' fun _ _ => True) :
    (ask .loadComplianceState >>= f : Service E β).Meets (World.log _ _) (WriteCall own) es
      fun _ _ => True := by
  refine Prog.Meets.bind (R := fun b₀ es' => es <+: es' ∧ .loaded b₀ ∈ marks es')
    (meets_ask trivial fun r => ?_) fun b₀ es' h => hf b₀ es' h.1 h.2
  cases r with
  | ok b₀ =>
    exact ⟨prefix_append _ _, mem_marks.mpr ⟨_, mem_append_right _ (mem_cons_self), rfl⟩⟩
  | error _ => trivial

theorem meets_saveThen {b : SuppressionState} {c : Bool}
    (hb : SavesOver own es b) (hf : ∀ u, (f u).Calls ReadsOnly) :
    (awaitIf c (ask (.saveComplianceState b)) >>= f).Meets (World.log _ _) (WriteCall own) es
      fun _ _ => True := by
  refine Prog.Meets.bind (R := fun _ _ => True) ?_ fun u es' _ => meets_readsOnly (hf u)
  unfold awaitIf
  split_ifs
  · refine meets_ask hb fun r => ?_
    cases r <;> trivial
  · trivial

variable {violationId : String} {status : ViolationStatus} {v : ComplianceViolation E}

theorem savesOver_setStatus {b₀ : SuppressionState}
    (hfound : ⟨.findViolation violationId, .ok (some v)⟩ ∈ es) (hload : .loaded b₀ ∈ marks es) :
    SavesOver (Restatused violationId status) es
      (SuppressionState.setStatus b₀ (suppressionKey v.policyId v.deviceId) status) := by
  refine ⟨b₀, hload, fun key => ?_⟩
  rw [SuppressionState.get_setStatus]
  split_ifs with hkey
  · exact .inr ⟨v, hfound, hkey, rfl⟩
  · exact .inl rfl

/-- Setting the status of a violation that was read, and then reads. -/
theorem meets_setStatusThen
    (hfound : ⟨.findViolation violationId, .ok (some v)⟩ ∈ es)
    (hf : ∀ u, (f u).Calls ReadsOnly) :
    (setSuppressionStatus v.policyId v.deviceId status >>= f).Meets (World.log _ _)
      (WriteCall (Restatused violationId status)) es fun _ _ => True := by
  unfold setSuppressionStatus
  rw [bind_assoc]
  refine meets_loadThen fun b₀ es' hpre hload => ?_
  exact meets_saveThen (savesOver_setStatus (hpre.mem hfound) hload) hf

/-- The read of the violation with which both operations of the queue begin. -/
theorem meets_findViolationThen {f : Option (ComplianceViolation E) → Service E β}
    (hnone : (f none).Meets (World.log _ _) (WriteCall own)
      [⟨.findViolation violationId, .ok none⟩] fun _ _ => True)
    (hsome : ∀ v es, ⟨.findViolation violationId, .ok (some v)⟩ ∈ es →
      (f (some v)).Meets (World.log _ _) (WriteCall own) es fun _ _ => True) :
    (ask (.findViolation violationId) >>= f : Service E β).Meets (World.log _ _) (WriteCall own) []
      fun _ _ => True := by
  refine Prog.Meets.bind (R := fun found es => es = [⟨.findViolation violationId, .ok found⟩])
    (meets_ask trivial fun r => ?_) fun found es' h => ?_
  · cases r with
    | ok _ => rfl
    | error _ => trivial
  · subst h
    cases found with
    | none => exact hnone
    | some v => exact hsome v _ mem_cons_self

theorem meets_approveViolationCore (violationId : String) :
    (approveViolationCore violationId : Service E Unit).Meets (World.log _ _)
      (WriteCall (Restatused violationId .approved)) [] fun _ _ => True := by
  unfold approveViolationCore
  refine meets_findViolationThen trivial fun v es hfound => ?_
  dsimp only
  split_ifs
  · trivial
  · refine meets_bind_readsOnly ((aside_findLinkedWorkflow _).widen readsOnly_of_aside) fun linked es₁ h₁ => ?_
    cases linked with
    | none => trivial
    | some workflow =>
      refine meets_bind_readsOnly ((inLaunch_launchWorkflowRun _ _ _).widen readsOnly_of_inLaunch) fun record es₂ h₂ => ?_
      cases record with
      | none => trivial
      | some record =>
        refine meets_bind_readsOnly (reads_ask rfl) fun _ es₃ h₃ => ?_
        refine meets_bind_readsOnly (reads_ask rfl) fun _ es₄ h₄ => ?_
        have hpre : es <+: es₄ := ((h₁.trans h₂).trans h₃).trans h₄
        refine meets_setStatusThen (hpre.mem hfound) fun _ => ?_
        exact (Prog.Calls.bind (aside_linkRun _ _) fun _ =>
          calls_quietly (aside_removeComplianceMarkersForDevice _ _)).widen readsOnly_of_aside

theorem meets_dismissViolationCore (violationId : String) (authorized : Bool) :
    (dismissViolationCore violationId authorized : Service E Unit).Meets (World.log _ _)
      (WriteCall (Restatused violationId .dismissed)) [] fun _ _ => True := by
  unfold dismissViolationCore
  refine meets_findViolationThen trivial fun v es hfound => ?_
  refine meets_bind_readsOnly (reads_ask rfl) fun _ es₁ h₁ => ?_
  refine meets_bind_readsOnly (reads_ask rfl) fun _ es₂ h₂ => ?_
  refine meets_setStatusThen ((h₁.trans h₂).mem hfound) fun _ => ?_
  exact (Prog.Calls.bind (aside_noteDismissed _) fun _ => calls_awaitIf
    (calls_quietly (aside_removeComplianceMarkersForDevice _ _))).widen readsOnly_of_aside

theorem meets_deleteCompliancePolicy (policyId : String) :
    (deleteCompliancePolicy policyId : Service E Unit).Meets (World.log _ _)
      (WriteCall (OwnChange (.deletePolicy policyId))) [] fun _ _ => True := by
  unfold deleteCompliancePolicy
  refine meets_bind_readsOnly (reads_ask rfl) fun found es₁ _ => ?_
  cases found with
  | none => trivial
  | some deleted =>
    refine meets_bind_readsOnly (reads_ask rfl) fun _ es₂ _ => ?_
    refine meets_loadThen fun b₀ es₃ _ hload => meets_saveThen ?_ fun _ => ?_
    · refine ⟨b₀, hload, fun key => ?_⟩
      rw [SuppressionState.get_purge]
      split_ifs with hkey
      · exact .inr ⟨hkey, rfl⟩
      · exact .inl rfl
    · exact Prog.Calls.bind (reads_ask rfl) fun _ => reads_ask rfl

end Short

theorem meets_task (task : BlobTask) :
    (task.body : Service E Unit).Meets (World.log _ _) (TaskCall task) [] fun _ _ => True := by
  cases task with
  | evaluate req =>
    refine Prog.Meets.bind (R := fun _ _ => True) ?_ fun _ _ _ => trivial
    exact (meets_runComplianceEvaluation req).mono fun r _ _ => by cases r <;> trivial
  | approve violationId => exact meets_approveViolationCore violationId
  | dismiss violationId authorized => exact meets_dismissViolationCore violationId authorized
  | deletePolicy policyId => exact meets_deleteCompliancePolicy policyId

/-! ## What the calls of an operation write -/

variable {past : List (ServiceEvent E)} {task : BlobTask}

/-- Every operation saves what it has loaded, but for its own changes. -/
theorem savesOver_of_call {b : SuppressionState}
    (h : TaskCall task past (.saveComplianceState b)) : SavesOver (OwnChange task) past b := by
  cases task with
  | evaluate req =>
    obtain ⟨fleet, -, b₀, visits, st, hscan, rfl⟩ := h rfl
    exact ⟨b₀, hscan.changed⟩
  | approve _ => exact h
  | dismiss _ _ => exact h
  | deletePolicy _ => exact h

/-- Only a pass inserts rows, once, and with ids that it has drawn. -/
theorem creates_of_call
    {rows : List (ComplianceViolation E)} (h : TaskCall task past (.createViolations rows)) :
    (∃ req, task = .evaluate req) ∧ (∀ rows', .created rows' ∉ marks past) ∧
      (rows.map fun r => r.id).Sublist ((marks past).filterMap Mark.issuedId) := by
  cases task with
  | evaluate req =>
    obtain ⟨fleet, -, b₀, visits, st, ms, hscan, rfl, -, hms⟩ := h rfl
    refine ⟨⟨req, rfl⟩, fun rows' hmem => ?_, ?_⟩
    · rw [hms] at hmem
      rcases mem_append.mp hmem with hmem | hmem
      · have hearly := all_eq_true.mp hscan.early _ hmem
        cases hearly
      · simp at hmem
    · rw [hms, filterMap_append]
      exact hscan.rows_issued.trans (sublist_append_left _ _)
  | approve _ => exact h.elim
  | dismiss _ _ => exact h.elim
  | deletePolicy _ => exact h.elim

/-! ## Runs -/

/-- The blob that is stored after a trace. -/
def blobAfter (b : SuppressionState) (tr : List (BlobLabel E)) : SuppressionState :=
  tr.foldl (fun b l => match labelMark l with | some (.saved b') => b' | _ => b) b

theorem blobAfter_snoc (b : SuppressionState) (tr : List (BlobLabel E)) (l : BlobLabel E) :
    blobAfter b (tr ++ [l]) =
      match labelMark l with | some (.saved b') => b' | _ => blobAfter b tr := by
  rw [blobAfter, foldl_append]
  rfl

theorem key_congr {r r' : ComplianceViolation E} (hpolicy : r.policyId = r'.policyId)
    (hdevice : r.deviceId = r'.deviceId) : r.key = r'.key := by
  rw [ComplianceViolation.key, hpolicy, hdevice]
  rfl

/-- A deletion of the key's policy has saved. -/
def Purged (tr : List (BlobLabel E)) (key : String) : Prop :=
  ∃ l ∈ tr, ∃ policyId b, l.task = .deletePolicy policyId ∧ labelMark l = some (.saved b) ∧
    startsWith key (policyPrefix policyId) = true

/-- The condition on a step: a save meets the blob that its operation loaded,
and an insertion meets the entries of its rows, none of a policy whose keys
a deletion has removed. -/
structure Undisturbed (tr : List (BlobLabel E)) (s : BlobStore) (l : BlobLabel E) : Prop where
  save : ∀ b b₀, labelMark l = some (.saved b) → .loaded b₀ ∈ marks l.past →
    ∀ key, SuppressionState.get s.state key = SuppressionState.get b₀ key
  create : ∀ rows, labelMark l = some (.created rows) → ∀ r ∈ rows,
    (∃ e, SuppressionState.get s.state r.key = some e ∧ e.violationId = r.id) ∧ ¬Purged tr r.key

/-- Over the blob `b`: every save of a run leaves each key as it is stored, but
for its operation's own changes. -/
def SavesOwnChanges (b : SuppressionState) (tr : List (BlobLabel E)) : Prop :=
  ∀ pre l post b', tr = pre ++ l :: post → labelMark l = some (.saved b') → ∀ key,
    SuppressionState.get b' key = SuppressionState.get (blobAfter b pre) key ∨
      OwnChange l.task l.past key (SuppressionState.get (blobAfter b pre) key)
        (SuppressionState.get b' key)

/-- A pass saves that it has found the violation recovered. -/
def SavesRecovery (violationId : String) (l : BlobLabel E) : Prop :=
  (∃ req, l.task = .evaluate req) ∧ (∃ b, labelMark l = some (.saved b)) ∧
    .recovered violationId ∈ marks l.past

/-- Between two rows for one policy and device a recovery of the first is saved,
and no insertion has two rows for one policy and device. -/
structure OneRowBetweenRecoveries (tr : List (BlobLabel E)) : Prop where
  apart : ∀ pre l₁ mid l₂ post rows₁ rows₂ r₁ r₂, tr = pre ++ l₁ :: (mid ++ l₂ :: post) →
    labelMark l₁ = some (.created rows₁) → labelMark l₂ = some (.created rows₂) →
    r₁ ∈ rows₁ → r₂ ∈ rows₂ → r₁.policyId = r₂.policyId → r₁.deviceId = r₂.deviceId →
    ∃ l ∈ mid, SavesRecovery r₁.id l
  together : ∀ l ∈ tr, ∀ rows, labelMark l = some (.created rows) →
    (rows.map fun r => (r.policyId, r.deviceId)).Nodup

section Runs

variable {s : BlobStore} {ts : List BlobTask} {tr : List (BlobLabel E)}
  {cfg : Config (serviceSig E) ServiceError BlobStore BlobTask}

variable {l : BlobLabel E} {key id : String}

theorem taskCall_of_run {cond}
    (h : Run (blobSystem E) cond ((blobSystem E).launch s ts) tr cfg)
    (hl : l ∈ tr) : TaskCall l.task l.past l.event.call :=
  h.ok_of_meets TaskCall meets_task l hl

theorem blob_of_run {cond} (h : Run (blobSystem E) cond ((blobSystem E).launch s ts) tr cfg) :
    cfg.store.state = blobAfter s.state tr := by
  induction h with
  | nil => rfl
  | @snoc tr cfg cfg' l hrun hstep hcond ih =>
    rw [blobAfter_snoc, hstep.store_eq, ← ih]
    show (BlobStore.next cfg.store l.event.call l.event.answer).state = _
    unfold BlobStore.next labelMark
    split <;> simp_all

/-- The id that a label draws. -/
def drawn (l : BlobLabel E) : Option String :=
  (labelMark l).bind Mark.issuedId

theorem drawn_fresh {id : String} (hdrawn : drawn l = some id)
    (hmay : BlobStore.may s l.event.call l.event.answer) : id ∉ s.issued := by
  obtain ⟨m, hm, hid⟩ := Option.bind_eq_some_iff.mp hdrawn
  cases m <;> cases hid
  unfold BlobStore.may at hmay
  rw [show mark ⟨l.event.call, l.event.answer⟩ = _ from hm] at hmay
  exact hmay

theorem issued_next (s : BlobStore) (l : BlobLabel E) :
    (BlobStore.next s l.event.call l.event.answer).issued = (drawn l).toList ++ s.issued := by
  show _ = ((mark l.event).bind Mark.issuedId).toList ++ s.issued
  unfold BlobStore.next
  split
  · next h => simp [show mark l.event = _ from h, Mark.issuedId]
  · next h => simp [show mark l.event = _ from h, Mark.issuedId]
  · next hsaved hissued =>
    cases hm : mark l.event with
    | none => rfl
    | some m => cases m <;> first | rfl | exact absurd hm (hissued _)

theorem drawn_nodup_of_run {cond}
    (h : Run (blobSystem E) cond ((blobSystem E).launch s ts) tr cfg) :
    (tr.filterMap drawn).Nodup := by
  suffices H : (tr.filterMap drawn).Nodup ∧ ∀ id ∈ tr.filterMap drawn, id ∈ cfg.store.issued from
    H.1
  induction h with
  | nil => exact ⟨nodup_nil, by simp⟩
  | @snoc tr cfg cfg' l hrun hstep hcond ih =>
    have hissued : cfg'.store.issued = (drawn l).toList ++ cfg.store.issued := by
      rw [hstep.store_eq]
      exact issued_next cfg.store l
    have hlast : [l].filterMap drawn = (drawn l).toList := by
      cases hd : drawn l <;> simp [hd]
    rw [filterMap_append, hlast, hissued]
    constructor
    · refine nodup_append.mpr ⟨ih.1, ?_, fun id hid id' hid' heq => ?_⟩
      · cases drawn l <;> simp
      · subst heq
        exact drawn_fresh (Option.mem_toList.mp hid') hstep.may (ih.2 id hid)
    · intro id hid
      rcases mem_append.mp hid with hid | hid
      · exact mem_append_right _ (ih.2 id hid)
      · exact mem_append_left _ hid

theorem eq_of_drawn {l l' : BlobLabel E} {id : String} (hnodup : (tr.filterMap drawn).Nodup)
    (hl : l ∈ tr) (hl' : l' ∈ tr) (hid : drawn l = some id) (hid' : drawn l' = some id) :
    l = l' := by
  induction tr with
  | nil => simp at hl
  | cons a tr ih =>
    have hmem : ∀ x ∈ tr, drawn x = some id → id ∈ tr.filterMap drawn :=
      fun x hx hd => mem_filterMap.mpr ⟨x, hx, hd⟩
    have htail : (tr.filterMap drawn).Nodup :=
      hnodup.sublist ((sublist_cons_self a tr).filterMap drawn)
    have hhead : drawn a = some id → id ∉ tr.filterMap drawn := by
      intro hd
      rw [filterMap_cons_some hd] at hnodup
      exact (nodup_cons.mp hnodup).1
    rcases mem_cons.mp hl with rfl | hin <;> rcases mem_cons.mp hl' with rfl | hin'
    · rfl
    · exact absurd (hmem l' hin' hid') (hhead hid)
    · exact absurd (hmem l hin hid) (hhead hid')
    · exact ih htail hin hin'

/-- The ids that a thread has drawn before a label are among those of the
trace. -/
theorem past_drawn {cond} (h : Run (blobSystem E) cond ((blobSystem E).launch s ts) tr cfg)
    {pre post : List (BlobLabel E)} (htr : tr = pre ++ l :: post) :
    ((marks l.past).filterMap Mark.issuedId).Nodup ∧
      ∀ id ∈ (marks l.past).filterMap Mark.issuedId,
        ∃ l' ∈ tr, l'.thread = l.thread ∧ drawn l' = some id := by
  have hpast : (marks l.past).filterMap Mark.issuedId =
      (pre.filter fun l' => l'.thread = l.thread).filterMap drawn := by
    rw [h.past_eq htr, ownEvents, marks, filterMap_filterMap, filterMap_map]
    rfl
  rw [hpast]
  constructor
  · refine (drawn_nodup_of_run h).sublist ?_
    rw [htr, filterMap_append]
    exact (filter_sublist.filterMap drawn).trans (sublist_append_left _ _)
  · intro id hid
    obtain ⟨l', hl', hdrawn⟩ := mem_filterMap.mp hid
    obtain ⟨hmem, hthread⟩ := mem_filter.mp hl'
    exact ⟨l', by rw [htr]; exact mem_append_left _ hmem, by simpa using hthread, hdrawn⟩

/-! ## What undisturbed runs keep -/

theorem saves_own_changes (h : Run (blobSystem E) Undisturbed ((blobSystem E).launch s ts) tr cfg) :
    SavesOwnChanges s.state tr := by
  intro pre l post b' htr hsaved key
  obtain ⟨cfg₁, cfg₂, hrun, hstep, hcond, -⟩ := h.step_of_append htr
  have hcall := taskCall_of_run h (l := l) (by simp [htr])
  rw [call_of_saved hsaved] at hcall
  obtain ⟨b₀, hload, hkeys⟩ := savesOver_of_call hcall
  have hstored := hcond.save b' b₀ hsaved hload key
  rw [blob_of_run hrun] at hstored
  rw [hstored]
  exact hkeys key

/-- The entry of `key` is about the violation `id`. -/
def Holds (b : SuppressionState) (key id : String) : Prop :=
  ∃ e, SuppressionState.get b key = some e ∧ e.violationId = id

/-- Where an entry has gone over to another violation, a save has changed it. -/
theorem exists_save_of_holds {b : SuppressionState}
    {pre mid : List (BlobLabel E)} (hpre : Holds (blobAfter b pre) key id)
    (hmid : ¬Holds (blobAfter b (pre ++ mid)) key id) :
    ∃ mid₁ l mid₂ b', mid = mid₁ ++ l :: mid₂ ∧ labelMark l = some (.saved b') ∧
      Holds (blobAfter b (pre ++ mid₁)) key id ∧ ¬Holds b' key id := by
  induction mid using reverseRecOn with
  | nil =>
    rw [append_nil] at hmid
    exact absurd hpre hmid
  | append_singleton mid l ih =>
    by_cases hlast : Holds (blobAfter b (pre ++ mid)) key id
    · rw [← append_assoc, blobAfter_snoc] at hmid
      split at hmid
      · next b' hsaved => exact ⟨mid, l, [], b', rfl, hsaved, hlast, hmid⟩
      · exact absurd hlast hmid
    · obtain ⟨mid₁, l', mid₂, b', rfl, hl'⟩ := ih hlast
      exact ⟨mid₁, l', mid₂ ++ [l], b', by simp, hl'⟩

/-- An operation that takes an entry off its violation has found it recovered or
deletes its policy. -/
theorem ownChange_holds {task : BlobTask} {past : List (ServiceEvent E)}
    {b b' : SuppressionState} (hold : Holds b key id) (hnew : ¬Holds b' key id)
    (h : OwnChange task past key (SuppressionState.get b key) (SuppressionState.get b' key)) :
    ((∃ req, task = .evaluate req) ∧ .recovered id ∈ marks past) ∨
      ∃ policyId, task = .deletePolicy policyId ∧
        startsWith key (policyPrefix policyId) = true := by
  obtain ⟨e, he, rfl⟩ := hold
  have hrestatused : ∀ {violationId status}, ¬Restatused violationId status past key
      (SuppressionState.get b key) (SuppressionState.get b' key) := by
    rintro violationId status ⟨v, -, -, hget⟩
    rw [he] at hget
    exact hnew ⟨_, hget, rfl⟩
  cases task with
  | evaluate req => exact .inl ⟨⟨req, rfl⟩, h.2.1 e he⟩
  | approve _ => exact absurd h hrestatused
  | dismiss _ _ => exact absurd h hrestatused
  | deletePolicy policyId => exact .inr ⟨policyId, rfl, h.1⟩

theorem created_ids_ne {cond} (h : Run (blobSystem E) cond ((blobSystem E).launch s ts) tr cfg)
    {pre mid post : List (BlobLabel E)} {l₁ l₂ : BlobLabel E}
    {rows₁ rows₂ : List (ComplianceViolation E)} {r₁ r₂ : ComplianceViolation E}
    (htr : tr = pre ++ l₁ :: (mid ++ l₂ :: post)) (h₁ : labelMark l₁ = some (.created rows₁))
    (h₂ : labelMark l₂ = some (.created rows₂)) (hr₁ : r₁ ∈ rows₁) (hr₂ : r₂ ∈ rows₂) :
    r₁.id ≠ r₂.id := by
  intro hid
  have htr₂ : tr = (pre ++ l₁ :: mid) ++ l₂ :: post := by simp [htr]
  have hcall₁ := taskCall_of_run h (l := l₁) (by simp [htr])
  have hcall₂ := taskCall_of_run h (l := l₂) (by simp [htr])
  rw [call_of_created h₁] at hcall₁
  rw [call_of_created h₂] at hcall₂
  obtain ⟨-, -, hissued₁⟩ := creates_of_call hcall₁
  obtain ⟨-, honce, hissued₂⟩ := creates_of_call hcall₂
  obtain ⟨a, ha, hthread₁, hdrawn₁⟩ := (past_drawn h htr).2 _
    (hissued₁.subset (mem_map_of_mem hr₁))
  obtain ⟨b, hb, hthread₂, hdrawn₂⟩ := (past_drawn h htr₂).2 _
    (hissued₂.subset (mem_map_of_mem hr₂))
  rw [← hid] at hdrawn₂
  obtain rfl := eq_of_drawn (drawn_nodup_of_run h) ha hb hdrawn₁ hdrawn₂
  have hpast := h.mem_past htr (hthread₁.symm.trans hthread₂)
  exact honce rows₁ (mem_marks.mpr ⟨l₁.event, hpast, h₁⟩)

theorem recovery_between (h : Run (blobSystem E) Undisturbed ((blobSystem E).launch s ts) tr cfg) :
    OneRowBetweenRecoveries tr := by
  constructor
  · intro pre l₁ mid l₂ post rows₁ rows₂ r₁ r₂ htr h₁ h₂ hr₁ hr₂ hpolicy hdevice
    have hkey : r₁.key = r₂.key := key_congr hpolicy hdevice
    have htr₂ : tr = (pre ++ l₁ :: mid) ++ l₂ :: post := by simp [htr]
    obtain ⟨cfg₁, _, hrun₁, _, hcond₁, hrun₁'⟩ := h.step_of_append htr
    obtain ⟨cfg₂, _, hrun₂, _, hcond₂, _⟩ := h.step_of_append htr₂
    have hne := created_ids_ne h htr h₁ h₂ hr₁ hr₂
    -- the entry is about the first row when that is inserted, and about the second later on
    have hold : Holds (blobAfter s.state (pre ++ [l₁])) r₁.key r₁.id := by
      rw [blobAfter_snoc, h₁, ← blob_of_run hrun₁]
      exact (hcond₁.create rows₁ h₁ r₁ hr₁).1
    have hnew : ¬Holds (blobAfter s.state ((pre ++ [l₁]) ++ mid)) r₁.key r₁.id := by
      have hstored := (hcond₂.create rows₂ h₂ r₂ hr₂).1
      rw [blob_of_run hrun₂, ← hkey] at hstored
      rw [show (pre ++ [l₁]) ++ mid = pre ++ l₁ :: mid by simp]
      rintro ⟨e, he, heid⟩
      obtain ⟨e', he', heid'⟩ := hstored
      rw [he] at he'
      obtain rfl := Option.some.inj he'
      exact hne (heid.symm.trans heid')
    obtain ⟨mid₁, l, mid₂, b', rfl, hsaved, hbefore, hafter⟩ := exists_save_of_holds hold hnew
    have hown := saves_own_changes h (pre ++ [l₁] ++ mid₁) l (mid₂ ++ l₂ :: post) b'
      (by simp [htr]) hsaved r₁.key
    rcases hown with hsame | hown
    · exact absurd (by rw [Holds, hsame]; exact hbefore) hafter
    · rcases ownChange_holds hbefore hafter hown with ⟨htask, hrec⟩ | ⟨policyId, htask, hpre⟩
      · exact ⟨l, by simp, htask, ⟨b', hsaved⟩, hrec⟩
      · refine absurd ?_ (hcond₂.create rows₂ h₂ r₂ hr₂).2
        exact ⟨l, by simp, policyId, b', htask, hsaved, hkey ▸ hpre⟩
  · intro l hl rows hrows
    obtain ⟨pre, post, htr⟩ := append_of_mem hl
    obtain ⟨cfg₁, _, hrun₁, _, hcond₁, _⟩ := h.step_of_append htr
    have hcall := taskCall_of_run h hl
    rw [call_of_created hrows] at hcall
    obtain ⟨-, -, hissued⟩ := creates_of_call hcall
    have hids : (rows.map fun r => r.id).Nodup := (past_drawn h htr).1.sublist hissued
    refine Nodup.map_on (fun r hr r' hr' hpair => ?_) hids.of_map
    obtain ⟨hpolicy, hdevice⟩ := Prod.mk.inj hpair
    obtain ⟨e, he, heid⟩ := (hcond₁.create rows hrows r hr).1
    obtain ⟨e', he', heid'⟩ := (hcond₁.create rows hrows r' hr').1
    have hkey : r.key = r'.key := key_congr hpolicy hdevice
    rw [← hkey, he] at he'
    obtain rfl := Option.some.inj he'
    exact inj_on_of_nodup_map hids hr hr' (heid.symm.trans heid')

end Runs

/-- **Main theorem**: in every run in which saves and insertions meet what they
expect, every save changes its operation's own keys only, and between two
rows for one policy and device a recovery is saved. -/
theorem blob_race_free (s : BlobStore) (ts : List BlobTask) (tr : List (BlobLabel E))
    (cfg : Config (serviceSig E) ServiceError BlobStore BlobTask)
    (h : Run (blobSystem E) Undisturbed ((blobSystem E).launch s ts) tr cfg) :
    OneRowBetweenRecoveries tr ∧ SavesOwnChanges s.state tr :=
  ⟨recovery_between h, saves_own_changes h⟩

/-! ## Two passes, one after the other and interleaved -/

/-- The id to draw next. -/
def nextViolationId (s : BlobStore) : String :=
  if s.issued = [] then "v1" else "v2"

/-- A workspace with that policy and device and no workflows. -/
def BlobStore.answer (s : BlobStore) :
    (c : ServiceCall attributeEvaluator) → Except ServiceError (ServiceCall.Answer c)
  | .findPolicies => .ok [encryptionPolicy]
  | .getDevicesFull _ => .ok [plainLaptop]
  | .loadAppListsContext => .ok ()
  | .loadGeofenceZonesById => .ok ()
  | .findWorkflows => .ok []
  | .loadComplianceState => .ok s.state
  | .findViolations => .ok []
  | .randomUUID =>
    if nextViolationId s ∈ s.issued then .error (.other "drawn before") else .ok (nextViolationId s)
  | .saveComplianceState _ => .ok ()
  | .createViolations _ => .ok ()
  | .recordAuditEvents _ => .ok ()
  | .stampEvaluated _ => .ok ()
  | _ => .error (.other "not reached")

theorem may_blobAnswer (s : BlobStore) (c : ServiceCall attributeEvaluator) :
    (blobSystem attributeEvaluator).world.may s c (s.answer c) := by
  show BlobStore.may s c (s.answer c)
  cases c with
  | randomUUID =>
    unfold BlobStore.answer
    split_ifs with h
    · trivial
    · exact h
  | getDevicesFull refresh => cases refresh <;> trivial
  | startWorkflowRun pair _ _ _ => cases pair <;> trivial
  | loadComplianceState => rfl
  | _ => trivial

/-- Two fleet-wide passes over an empty blob. -/
def twoPasses : Config (serviceSig attributeEvaluator) ServiceError BlobStore BlobTask :=
  (blobSystem attributeEvaluator).launch ⟨[], []⟩
    [.evaluate { nowIso := "2024-01-01T00:00:00.000Z" },
      .evaluate { nowIso := "2024-01-01T00:01:00.000Z" }]

/-- A deletion of the key's policy has saved, decided. -/
def purged (tr : List (BlobLabel E)) (key : String) : Bool :=
  tr.any fun l =>
    match l.task, labelMark l with
    | .deletePolicy policyId, some (.saved _) => startsWith key (policyPrefix policyId)
    | _, _ => false

/-- `Undisturbed`, decided. -/
def undisturbed (tr : List (BlobLabel E)) (s : BlobStore) (l : BlobLabel E) : Bool :=
  match labelMark l with
  | some (.saved _) => (marks l.past).all fun m =>
    match m with
    | .loaded b₀ => s.state = b₀
    | _ => true
  | some (.created rows) => rows.all fun r =>
    ((SuppressionState.get s.state r.key).any fun e => e.violationId = r.id) && !purged tr r.key
  | _ => true

theorem purged_of_purged {tr : List (BlobLabel E)} {key : String} (h : Purged tr key) :
    purged tr key = true := by
  obtain ⟨l, hl, policyId, b, htask, hsaved, hstarts⟩ := h
  refine any_eq_true.mpr ⟨l, hl, ?_⟩
  rw [htask, hsaved]
  exact hstarts

theorem undisturbed_sound (tr : List (BlobLabel E)) (s : BlobStore) (l : BlobLabel E)
    (h : undisturbed tr s l = true) : Undisturbed tr s l := by
  unfold undisturbed at h
  constructor
  · intro b b₀ hsaved hload key
    rw [hsaved] at h
    have hstate := all_eq_true.mp h _ hload
    rw [decide_eq_true_eq] at hstate
    rw [hstate]
  · intro rows hcreated r hr
    rw [hcreated] at h
    have hrow := all_eq_true.mp h r hr
    rw [Bool.and_eq_true, Option.any_eq_true] at hrow
    obtain ⟨⟨e, he, hid⟩, hpurged⟩ := hrow
    refine ⟨⟨e, he, by simpa using hid⟩, fun hp => ?_⟩
    rw [purged_of_purged hp] at hpurged
    cases hpurged

/-- One pass after the other: the second finds the key and inserts nothing. -/
theorem blob_race_free_twoPasses : ∃ tr cfg,
    Run (blobSystem attributeEvaluator) Undisturbed twoPasses tr cfg ∧
      (∃ l ∈ tr, ∃ r, labelMark l = some (.created [r])) ∧
      OneRowBetweenRecoveries tr ∧ SavesOwnChanges twoPasses.store.state tr := by
  have hadmits := Config.admits_of_admitted (blobSystem attributeEvaluator) BlobStore.answer
    undisturbed_sound (replicate 12 0 ++ replicate 10 1) [] twoPasses (by decide +kernel)
  have hrun := Run.nil.play _ _ may_blobAnswer _ hadmits
  refine ⟨_, _, hrun, ?_, blob_race_free _ _ _ _ hrun⟩
  exact ⟨_, mem_of_getElem? (i := 9) rfl, _, rfl⟩

/-- A recovery. -/
def Mark.isRecovered : Mark E → Bool
  | .recovered _ => true
  | _ => false

/-- Both passes load the blob before either saves it. -/
def raceSchedule : List ℕ :=
  List.replicate 7 0 ++ List.replicate 7 1 ++ List.replicate 3 0 ++ List.replicate 3 1

/-- Both passes find the device newly violating: each inserts a row, and the
second save puts its own entry in the place of the first one. -/
theorem duplicate_violation :
    (¬∀ (s : BlobStore) (ts : List BlobTask) (tr : List (BlobLabel attributeEvaluator))
        (cfg : Config (serviceSig attributeEvaluator) ServiceError BlobStore BlobTask),
      Run (blobSystem attributeEvaluator) always ((blobSystem attributeEvaluator).launch s ts)
        tr cfg → OneRowBetweenRecoveries tr) ∧
    ¬∀ (s : BlobStore) (ts : List BlobTask) (tr : List (BlobLabel attributeEvaluator))
        (cfg : Config (serviceSig attributeEvaluator) ServiceError BlobStore BlobTask),
      Run (blobSystem attributeEvaluator) always ((blobSystem attributeEvaluator).launch s ts)
        tr cfg → SavesOwnChanges s.state tr := by
  have hrun := Config.run_play (blobSystem attributeEvaluator) BlobStore.answer may_blobAnswer
    raceSchedule twoPasses
  have hnone : ∀ l ∈ (twoPasses.play (blobSystem attributeEvaluator) BlobStore.answer
      raceSchedule).1, ∀ id, .recovered id ∉ marks l.past := by
    have hall : (twoPasses.play (blobSystem attributeEvaluator) BlobStore.answer
        raceSchedule).1.all (fun l => (marks l.past).all fun m => !m.isRecovered) = true := rfl
    intro l hl id hmem
    have hmark := all_eq_true.mp (all_eq_true.mp hall l hl) _ hmem
    cases hmark
  constructor
  · intro hall
    obtain ⟨l₁, r₁, h₁, hcreated₁, hpair₁⟩ : ∃ l r, (twoPasses.play (blobSystem attributeEvaluator)
        BlobStore.answer raceSchedule).1[16]? = some l ∧ labelMark l = some (.created [r]) ∧
          (r.policyId, r.deviceId) = ("p1", "d1") := ⟨_, _, rfl, rfl, rfl⟩
    obtain ⟨l₂, r₂, h₂, hcreated₂, hpair₂⟩ : ∃ l r, (twoPasses.play (blobSystem attributeEvaluator)
        BlobStore.answer raceSchedule).1[19]? = some l ∧ labelMark l = some (.created [r]) ∧
          (r.policyId, r.deviceId) = ("p1", "d1") := ⟨_, _, rfl, rfl, rfl⟩
    obtain ⟨pre, mid, post, htr⟩ := append_of_getElem? (by omega) h₁ h₂
    obtain ⟨hpolicy, hdevice⟩ := Prod.mk.inj (hpair₁.trans hpair₂.symm)
    obtain ⟨l, hl, -, -, hrecovered⟩ := (hall _ _ _ _ hrun).apart pre l₁ mid l₂ post _ _ r₁ r₂ htr
      hcreated₁ hcreated₂ (by simp) (by simp) hpolicy hdevice
    exact hnone l (by rw [htr]; simp [hl]) _ hrecovered
  · intro hall
    have hsave := hall _ _ _ _ hrun ((twoPasses.play (blobSystem attributeEvaluator)
      BlobStore.answer raceSchedule).1.take 18) _ ((twoPasses.play (blobSystem attributeEvaluator)
      BlobStore.answer raceSchedule).1.drop 19) _ rfl rfl "p1:d1"
    rcases hsave with hsame | hown
    · exact absurd hsame (by decide)
    · exact hnone _ (mem_of_getElem? (i := 18) rfl) _ (hown.2.1 _ rfl)

end AppliverySoar.Compliance
