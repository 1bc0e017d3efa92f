import AppliverySoar.Cases.Writes

/-!
# References and threat intel that are written back

The references of a case and its threat intel are JSON arrays. Who adds to one of
them, or notes the state of a ticket in it, reads the whole array, awaits other
systems and writes the whole array; and a sync resolves the case if the status
that it has read was an open one.

Results:
* `meets_body_write`: every array that a task writes continues one that it has read.
* `nothing_lost_of_upToDate`: if each of them is written where it is still the one
  that was read, no reference and no threat intel is lost in any run, and no sync
  resolves a case that is closed.
* `reference_lost`: a ticket that is created while the job looks at the tickets of
  its case is lost.
-/

namespace AppliverySoar.Cases

open Async Prog Access Compliance Workflows List CaseCall

/-! ## What a write continues -/

/-- What of a reference no sync changes. -/
def ExternalRef.ticket (ref : ExternalRef) : IntegrationType × String × String × Option String :=
  (ref.type, ref.id, ref.url, ref.sysId)

/-- The tickets of some references. -/
def tickets (refs : List ExternalRef) : List (IntegrationType × String × String × Option String) :=
  refs.map ExternalRef.ticket

/-- `kase` is what has been read last of the case `id` alone. -/
def LastGet (past : List CaseMove) (id : String) (kase : Case) : Prop :=
  ∃ pre rest, past = pre ++ ⟨.getCase id, .ok (some kase)⟩ :: rest ∧
    ∀ e ∈ rest, e.call ≠ .getCase id

/-- The case whose references a task writes back, with what it has added. -/
def RefsRead (task : CaseTask) (past : List CaseMove) (id : String) (kase : Case) : Prop :=
  match task with
  | .syncTickets slug _ => ⟨.findCase slug id, .ok (some kase)⟩ ∈ past
  | .syncTick => ∃ rows, LastRead past rows ∧ kase ∈ rows ∧ kase.id = id
  | _ => LastGet past id kase

/-- The case whose threat intel a task writes back. -/
def IntelRead (task : CaseTask) (past : List CaseMove) (id : String) (kase : Case) : Prop :=
  match task with
  | .enrich slug .. => ⟨.findCase slug id, .ok (some kase)⟩ ∈ past
  | _ => LastGet past id kase

/-- The case whose status a sync has judged. -/
def StatusRead (task : CaseTask) (past : List CaseMove) (id : String) (kase : Case) : Prop :=
  match task with
  | .syncTick => ∃ rows, LastRead past rows ∧ kase ∈ rows ∧ kase.id = id
  | _ => LastGet past id kase

/-- The task is an automatic sync. -/
def CaseTask.Syncs : CaseTask → Prop
  | .syncTickets .. | .syncTick => True
  | _ => False

/-- What a task writes of an array continues what it has read, and a sync that
resolves a case has found it open. -/
structure Continues (task : CaseTask) (past : List CaseMove) (id : String) (data : CaseData) :
    Prop where
  refs : ∀ refs, data.externalRefs = some refs →
    ∃ kase, RefsRead task past id kase ∧ tickets kase.externalRefs <+: tickets refs
  intel : ∀ intel, data.threatIntel = some intel →
    ∃ kase, IntelRead task past id kase ∧ kase.threatIntel <+: intel
  status : task.Syncs → data.status = some .resolved →
    ∃ kase, StatusRead task past id kase ∧ (task = .syncTick ∨ kase.status.isOpen = true)

/-- A call of a task. -/
def WriteCall (task : CaseTask) (past : List CaseMove) (c : CaseCall) : Prop :=
  match c with
  | .updateCase id data => Continues task past id data
  | _ => True

/-- Neither array is written, and no case is resolved. -/
structure CaseData.Plain (data : CaseData) : Prop where
  externalRefs : data.externalRefs = none
  threatIntel : data.threatIntel = none

/-- No array is written. -/
def CaseCall.Plain : CaseCall → Prop
  | .updateCase _ data => data.Plain
  | _ => True

section Programs

variable {task : CaseTask} {es : List CaseMove} {id : String} {kase : Case} {α : Type}

variable {c : CaseCall}

theorem writeCall_of_plain (htask : ¬task.Syncs) (h : c.Plain) : WriteCall task es c := by
  cases c with
  | updateCase id data =>
    refine ⟨fun refs hrefs => ?_, fun intel hintel => ?_, fun hsyncs => absurd hsyncs htask⟩
    · rw [h.externalRefs] at hrefs
      cases hrefs
    · rw [h.threatIntel] at hintel
      cases hintel
  | _ => trivial

theorem writeCall_of_reads (h : c.Reads) : WriteCall task es c := by
  cases c with
  | updateCase id data => cases h
  | _ => trivial

theorem obeys_of_reads {p : CaseProg α} (h : p.Calls Reads) : p.Obeys (WriteCall task) :=
  h.obeys fun _ _ => writeCall_of_reads

theorem obeys_ask (htask : ¬task.Syncs) (h : c.Plain) :
    (ask c).Obeys (WriteCall task) :=
  Prog.obeys_call fun _ => writeCall_of_plain htask h

theorem obeys_forSome {p : α → CaseProg Unit} (h : ∀ a, (p a).Obeys (WriteCall task))
    (value : Option α) : (forSome value p).Obeys (WriteCall task) := by
  cases value with
  | none => exact obeys_ret _
  | some a => exact h a

theorem LastGet.snoc (h : LastGet es id kase) {e : CaseMove} (he : e.call ≠ .getCase id) :
    LastGet (es ++ [e]) id kase := by
  obtain ⟨pre, rest, rfl, hrest⟩ := h
  refine ⟨pre, rest ++ [e], by simp, fun e' he' => ?_⟩
  rcases mem_append.mp he' with he' | he'
  · exact hrest e' he'
  · exact mem_singleton.mp he' ▸ he

theorem lastGet_self (es : List CaseMove) (id : String) (kase : Case) :
    LastGet (es ++ [⟨.getCase id, .ok (some kase)⟩]) id kase :=
  ⟨es, [], rfl, forall_mem_nil _⟩

variable {rows : List Case} (rt : TextRuntime)

theorem LastRead.snoc (h : LastRead es rows) {e : CaseMove}
    (he : ∀ slug, e.call ≠ .findOpenCases slug) : LastRead (es ++ [e]) rows := by
  obtain ⟨slug, pre, rest, rfl, hrest⟩ := h
  refine ⟨slug, pre, rest ++ [e], by simp, fun e' he' => ?_⟩
  rcases mem_append.mp he' with he' | he'
  · exact hrest e' he'
  · exact mem_singleton.mp he' ▸ he

/-! ## References -/

/-- A task whose references are those that were read last. -/
def CaseTask.Attaches (task : CaseTask) : Prop :=
  ¬task.Syncs ∧ ∀ past id kase, LastGet past id kase → RefsRead task past id kase

theorem obeys_attachExternalRefs (htask : task.Attaches) (caseId : String)
    (refs : List ExternalRef) : (attachExternalRefs caseId refs).Obeys (WriteCall task) := by
  intro es
  refine Meets.call_bind trivial (fun _ _ => trivial) fun found _ => ?_
  cases found with
  | none => trivial
  | some kase =>
    refine Meets.call_bind ⟨fun refs' h => ?_, fun intel h => (by cases h),
      fun hsyncs => absurd hsyncs htask.1⟩ (fun _ _ => trivial) fun _ _ => ?_
    · obtain rfl := Option.some.inj h
      refine ⟨kase, htask.2 _ _ _ (lastGet_self es caseId kase), ?_⟩
      rw [tickets, tickets, map_append]
      exact prefix_append _ _
    · have hnotes : (refs.foldlM (fun _ _ => ask (.addTimelineEntry caseId "note_added")) () :
          CaseProg Unit).Calls Reads := Calls.foldlM fun _ _ _ => calls_read rfl
      exact obeys_of_reads hnotes _

theorem obeys_dispatchAndAttachCaseEvent (htask : task.Attaches) (slug caseId : String)
    (eventType : CaseEvent) :
    (dispatchAndAttachCaseEvent slug caseId eventType).Obeys (WriteCall task) := by
  refine (obeys_ask htask.1 (by trivial)).bind fun found => ?_
  cases found with
  | none => exact obeys_ret _
  | some kase =>
    refine (obeys_of_reads (calls_dispatchCaseIntegrations _ _ _)).bind fun refs => ?_
    exact Obeys.ite (fun _ => obeys_ret _) fun _ =>
      obeys_attachExternalRefs htask caseId refs

theorem obeys_dispatchNotify (htask : task.Attaches) (slug caseId : String)
    (event : Option CaseEvent) :
    (dispatchNotify slug caseId event).Obeys (WriteCall task) :=
  obeys_forSome (fun event => (obeys_dispatchAndAttachCaseEvent htask _ _ event).tryCatch
    fun _ => obeys_ret _) event

/-! ## Threat intel -/

/-- A task whose threat intel is that which was read last. -/
def CaseTask.Enriches (task : CaseTask) : Prop :=
  ¬task.Syncs ∧ ∀ past id kase, LastGet past id kase → IntelRead task past id kase

/-- The call is no read of the case alone. -/
def CaseCall.Elsewhere (id : String) (c : CaseCall) : Prop :=
  c.Reads ∧ c ≠ .getCase id

theorem calls_enrichCandidate_elsewhere (slug caseId : String)
    (acc : List String × List ThreatIntelResult) (iocValue : String) :
    (enrichCandidate rt slug caseId acc iocValue).Calls (Elsewhere caseId) := by
  unfold enrichCandidate
  refine Calls.guard fun _ => ?_
  refine (Calls.attempt (calls_ask ⟨by rfl, by simp⟩)).bind fun looked => ?_
  cases looked with
  | error e => exact calls_ret _
  | ok results =>
    exact Calls.guard fun _ =>
      (calls_ask ⟨by rfl, by simp⟩).bind fun _ => calls_ret _

theorem meets_elsewhere {p : CaseProg α} (hp : p.Calls (Elsewhere id))
    (h : LastGet es id kase) :
    p.Meets (World.log caseSig ServiceError) (WriteCall task) es fun _ es' => LastGet es' id kase :=
  hp.meets_stable (P := fun es' => LastGet es' id kase)
    (fun _ _ _ hc => writeCall_of_reads hc.1)
    (fun _ c r hc _ h => h.snoc (e := ⟨c, r⟩) hc.2) h

theorem obeys_autoEnrichCaseFromText (htask : task.Enriches) (rt : TextRuntime)
    (slug caseId : String) (text : Option String) :
    (autoEnrichCaseFromText rt slug caseId text).Obeys (WriteCall task) := by
  unfold autoEnrichCaseFromText
  dsimp only
  refine Obeys.ite (fun _ => obeys_ret _) fun _ => ?_
  refine (obeys_ask htask.1 (by trivial)).bind fun providerCount => ?_
  refine Obeys.ite (fun _ => obeys_ret _) fun _ => ?_
  intro es
  refine Meets.call_bind trivial (fun _ _ => trivial) fun found _ => ?_
  cases found with
  | none => trivial
  | some kase =>
    refine Meets.bind (R := fun _ es' => LastGet es' caseId kase) ?_ fun acc es' h => ?_
    · refine (meets_elsewhere (Calls.foldlM fun acc iocValue _ =>
        calls_enrichCandidate_elsewhere rt slug caseId acc iocValue)
        (lastGet_self es caseId kase)).mono fun r es' h => ?_
      cases r with
      | error e => trivial
      | ok acc => exact h
    · split_ifs
      · trivial
      · refine ⟨⟨fun refs h => (by cases h), fun intel hintel => ?_,
          fun hsyncs => absurd hsyncs htask.1⟩, fun _ _ => trivial⟩
        obtain rfl := Option.some.inj hintel
        exact ⟨kase, htask.2 _ _ _ h, prefix_append _ _⟩

theorem obeys_enrichCase (slug caseId value : String)
    (forceRefresh : Bool) (es : List CaseMove) :
    (enrichCase rt slug caseId value forceRefresh).Meets (World.log caseSig ServiceError)
      (WriteCall (.enrich slug caseId value forceRefresh)) es fun _ _ => True := by
  have htask : ¬(CaseTask.enrich slug caseId value forceRefresh).Syncs := fun h => h
  unfold enrichCase
  split
  · trivial
  · refine Meets.call_bind trivial (fun _ _ => trivial) fun found _ => ?_
    cases found with
    | none => trivial
    | some kase =>
      refine Meets.call_bind trivial (fun _ _ => trivial) fun providerCount _ => ?_
      by_cases hcount : providerCount = 0
      · rw [if_pos hcount]
        trivial
      · rw [if_neg hcount]
        dsimp only
        split
        · trivial
        · refine Meets.call_bind trivial (fun _ _ => trivial) fun results _ => ?_
          refine Meets.call_bind ⟨fun refs h => (by cases h), fun intel hintel => ?_,
            fun hsyncs => absurd hsyncs htask⟩ (fun _ _ => trivial) fun _ _ => ?_
          · obtain rfl := Option.some.inj hintel
            refine ⟨kase, ?_, prefix_append _ _⟩
            exact mem_append_left _ (mem_append_left _
              (mem_append_right _ (mem_singleton_self _)))
          · exact obeys_of_reads ((calls_read (by rfl)).bind fun _ => calls_getCaseOrThrow caseId) _

/-! ## Syncs -/

theorem ticket_checked (ref : ExternalRef) (status : RemoteTicketStatus) (now : ℕ) :
    (ref.checked status now).ticket = ref.ticket := rfl

/-- The job's calls between its reading and its writing. -/
def CaseCall.Remote (c : CaseCall) : Prop :=
  c.Reads ∧ (∀ slug, c ≠ .findOpenCases slug) ∧ ∀ id, c ≠ .getCase id

/-- A sync notes what it learns of a ticket, and leaves the tickets. -/
theorem ensures_syncCaseTicketRefs (refs : List ExternalRef) (types : List IntegrationType) :
    (syncCaseTicketRefs refs types).Ensures Remote
      fun synced => tickets synced.1 = tickets refs := by
  refine (Meets.foldlM (fun done acc _ => tickets acc.1 = tickets done) (E := fun _ _ => True)
    rfl fun done ref todo _ acc es hacc => ?_).mono fun r _ h => by cases r <;> exact h
  have hsnoc : ∀ ref', ref'.ticket = ref.ticket →
      tickets (acc.1 ++ [ref']) = tickets (done ++ [ref]) := fun ref' href => by
    rw [tickets, map_append, ← tickets, hacc, tickets, tickets, map_append]
    exact congrArg _ (congrArg (fun t => [t]) href)
  unfold syncRef
  split_ifs
  · exact hsnoc ref rfl
  · split
    · exact hsnoc ref rfl
    · refine Meets.bind (R := fun _ _ => True)
        (Meets.attempt ⟨⟨by rfl, by simp⟩, fun _ _ => trivial⟩) fun fetched es _ => ?_
      cases fetched with
      | error e => exact hsnoc _ rfl
      | ok status =>
        exact Meets.call_bind ⟨by rfl, by simp⟩ (fun _ _ => trivial) fun now _ =>
          hsnoc _ (ticket_checked ref status now)

theorem meets_syncCaseTicketRefs (refs : List ExternalRef) (types : List IntegrationType)
    {P : List CaseMove → Prop} (hP : ∀ es e, e.call.Remote → P es → P (es ++ [e])) (h : P es) :
    (syncCaseTicketRefs refs types).Meets (World.log caseSig ServiceError) (WriteCall task) es
      (post (fun synced es' => P es' ∧ tickets synced.1 = tickets refs) fun _ _ => True) := by
  refine ((ensures_syncCaseTicketRefs refs types).meets_stable
    (fun _ _ _ hc => writeCall_of_reads hc.1) (fun es c r hc _ h => hP es ⟨c, r⟩ hc h) h).mono
    fun r _ h => ?_
  cases r with
  | error e => trivial
  | ok synced => exact h

theorem meets_settleSync {slug caseId : String} {kase kaseNow : Case}
    {integrations : List Integration} {synced : List ExternalRef × List ExternalRef}
    (hread : ⟨.findCase slug caseId, .ok (some kase)⟩ ∈ es)
    (hnow : LastGet es caseId kaseNow)
    (htickets : tickets synced.1 = tickets kase.externalRefs) :
    (settleSync caseId kaseNow integrations synced).Meets (World.log caseSig ServiceError)
      (WriteCall (.syncTickets slug caseId)) es fun _ _ => True := by
  have hrefs : ∀ refs, some synced.1 = some refs → tickets kase.externalRefs <+: tickets refs :=
    fun refs h => by rw [← Option.some.inj h, htickets]
  have hnoted : Continues (.syncTickets slug caseId) es caseId
      { externalRefs := some synced.1 } :=
    ⟨fun refs h => ⟨kase, hread, hrefs refs h⟩, fun intel h => (by cases h), fun _ h => by cases h⟩
  unfold settleSync
  split
  · exact Meets.call_bind hnoted (fun _ _ => trivial) fun _ _ => trivial
  · next ref href =>
    split_ifs
    · refine Meets.call_bind trivial (fun _ _ => trivial) fun now _ => ?_
      refine Meets.call_bind ⟨fun refs h => ⟨kase, mem_append_left _ hread,
        hrefs refs h⟩, fun intel h => (by cases h), fun _ _ => ⟨kaseNow,
        hnow.snoc (e := ⟨.now, .ok now⟩) (fun h => by cases h), .inr ?_⟩⟩ (fun _ _ => trivial)
        fun _ _ => ?_
      · by_contra hclosed
        rw [if_neg hclosed] at href
        cases href
      · exact obeys_of_reads ((calls_read (by rfl)).bind fun _ => calls_ret _) _
    · refine Meets.call_bind hnoted (fun _ _ => trivial) fun _ _ => ?_
      exact obeys_of_reads ((calls_read (by rfl)).bind fun _ => calls_ret _) _

theorem meets_syncCaseTicketStatus (slug caseId : String) (es : List CaseMove) :
    (syncCaseTicketStatus slug caseId).Meets (World.log caseSig ServiceError)
      (WriteCall (.syncTickets slug caseId)) es fun _ _ => True := by
  refine Meets.call_bind trivial (fun _ _ => trivial) fun found _ => ?_
  cases found with
  | none => trivial
  | some kase =>
    dsimp only
    split_ifs
    · trivial
    · refine Meets.call_bind trivial (fun _ _ => trivial) fun integrations _ => ?_
      -- the references are those of the first reading, the status that of the second
      refine Meets.bind (meets_syncCaseTicketRefs (P := fun es' =>
        ⟨.findCase slug caseId, .ok (some kase)⟩ ∈ es') kase.externalRefs _
        (fun _ _ _ h => mem_append_left _ h) (mem_append_left _
          (mem_append_right _ (mem_singleton_self _)))) fun synced es₁ h₁ => ?_
      refine Meets.bind (R := fun kaseNow es₂ => LastGet es₂ caseId kaseNow ∧
        ⟨.findCase slug caseId, .ok (some kase)⟩ ∈ es₂) ?_ fun kaseNow es₂ h₂ => ?_
      · refine Meets.call_bind trivial (fun _ _ => trivial) fun found _ => ?_
        cases found with
        | none => trivial
        | some kaseNow => exact ⟨lastGet_self es₁ caseId kaseNow, mem_append_left _ h₁.1⟩
      · refine Meets.bind (R := fun _ _ => True) ((meets_settleSync h₂.2 h₂.1 h₁.2).mono
          fun r _ _ => by cases r <;> trivial) fun autoClosed es₃ _ => ?_
        exact obeys_of_reads ((calls_read (by rfl)).bind fun _ =>
          (calls_getCaseOrThrow caseId).bind fun _ => calls_ret _) _

/-- The job's calls for one case: what is written of its references are its own
tickets. -/
def CaseCall.Notes (kase : Case) : CaseCall → Prop
  | .updateCase id data => id = kase.id ∧ data.threatIntel = none ∧
    ∀ refs, data.externalRefs = some refs → tickets kase.externalRefs <+: tickets refs
  | .findOpenCases _ => False
  | _ => True

theorem notes_of_remote (h : c.Remote) : c.Notes kase := by
  cases c with
  | updateCase id data => cases h.1
  | findOpenCases slug => exact h.2.1 slug rfl
  | _ => trivial

theorem calls_tickOpenCase (slug : String) (integrations : List Integration)
    (kase : Case) : (tickOpenCase slug integrations kase).Calls (Notes kase) := by
  refine Calls.guard fun _ => ?_
  refine Calls.tryCatch ?_ fun _ => calls_ret _
  refine Ensures.bind (Meets.weaken (ensures_syncCaseTicketRefs _ _)
    fun _ _ => notes_of_remote) fun synced hsynced => ?_
  refine Calls.bind (calls_ask ⟨rfl, rfl, fun refs h => ?_⟩) fun _ => ?_
  · rw [← Option.some.inj h, hsynced]
  · refine calls_forSome (fun ref => Calls.ite (fun _ => ?_) fun _ => calls_ask trivial) _
    refine (calls_ask trivial).bind fun now => ?_
    refine (calls_ask ⟨rfl, rfl, fun refs h => by cases h⟩).bind fun _ => ?_
    exact (calls_ask trivial).bind fun _ => calls_ask trivial

/-- One case of the job: its references and its status are those that were read
with the other cases. -/
theorem meets_tickOpenCase (workspaceSlug : String) (integrations : List Integration) {kase : Case}
    (hmem : kase ∈ rows) (hread : LastRead es rows) :
    (tickOpenCase workspaceSlug integrations kase).Meets (World.log caseSig ServiceError)
      (WriteCall .syncTick) es fun _ es' => LastRead es' rows := by
  refine (calls_tickOpenCase workspaceSlug integrations kase).meets_stable
    (P := fun es' => LastRead es' rows) (fun es' c h hc => ?_) (fun es' c r hc _ h => ?_) hread
  · cases c with
    | updateCase id data =>
      obtain ⟨rfl, hintel, hrefs⟩ := hc
      refine ⟨fun refs href => ⟨kase, ⟨rows, h, hmem, rfl⟩, hrefs refs href⟩, fun intel hsome => ?_,
        fun _ _ => ⟨kase, ⟨rows, h, hmem, rfl⟩, .inl rfl⟩⟩
      rw [hintel] at hsome
      cases hsome
    | _ => trivial
  · refine h.snoc (e := ⟨c, r⟩) fun slug hslug => ?_
    rw [show c = .findOpenCases slug from hslug] at hc
    exact hc

theorem meets_runTicketStatusSyncTick :
    runTicketStatusSyncTick.Meets (World.log caseSig ServiceError) (WriteCall .syncTick) []
      fun _ _ => True := by
  refine Meets.call_bind trivial (fun _ _ => trivial) fun workspaces _ => ?_
  refine (Meets.foldlM (fun _ _ _ => True) (E := fun _ _ => True) trivial
    fun done slug todo _ _ es _ => ?_).mono fun _ _ _ => trivial
  refine Meets.call_bind trivial (fun _ _ => trivial) fun integrations _ => ?_
  split_ifs
  · trivial
  · refine Meets.call_bind trivial (fun _ _ => trivial) fun rows _ => ?_
    refine (Meets.foldlM (fun _ _ es' => LastRead es' rows) (E := fun _ _ => True)
      ⟨slug, _, [], rfl, fun e he => absurd he not_mem_nil⟩
      fun done kase todo hrows _ es' hread => ?_).mono fun r _ _ => by cases r <;> trivial
    refine (meets_tickOpenCase slug integrations (hrows ▸ by simp) hread).mono fun r _ h => ?_
    cases r with
    | error e => trivial
    | ok u => exact h

/-! ## Tasks -/

theorem attaches_of_not_syncs (h : ¬task.Syncs) : task.Attaches := by
  refine ⟨h, fun past id kase hget => ?_⟩
  cases task with
  | syncTickets slug caseId => exact absurd trivial h
  | syncTick => exact absurd trivial h
  | _ => exact hget

theorem obeys_createCase {rt : TextRuntime} (htask : task.Attaches) (henriches : task.Enriches)
    (slug : String) (payload : CaseCreatePayload) (auth : Option String) :
    (createCase rt slug payload auth).Obeys (WriteCall task) := by
  refine Obeys.ite (fun _ => obeys_ret _) fun _ => ?_
  refine (obeys_ask htask.1 (by trivial)).bind fun created => ?_
  refine (obeys_ask htask.1 (by trivial)).bind fun _ => ?_
  refine Obeys.bind ?_ fun _ => ?_
  · unfold createFirstNote
    split
    · exact obeys_ret _
    · exact obeys_ask htask.1 (by trivial)
  refine (obeys_ask htask.1 (by trivial)).bind fun _ => ?_
  refine (obeys_dispatchAndAttachCaseEvent htask _ _ _).bind fun _ => ?_
  refine (obeys_autoEnrichCaseFromText henriches rt _ _ _).bind fun _ => ?_
  refine Obeys.bind ?_ fun _ => obeys_of_reads (calls_showCase _ _)
  unfold autorunCase
  split
  · exact obeys_ret _
  · refine Obeys.tryCatch ?_ fun _ => obeys_ret _
    refine (obeys_of_reads (calls_getCaseOrThrow _)).bind fun kase => ?_
    refine (obeys_ask htask.1 (by trivial)).bind fun found => ?_
    cases found with
    | none => exact obeys_ret _
    | some runId =>
      exact (obeys_ask htask.1 (by exact ⟨rfl, rfl⟩)).bind fun _ => obeys_ask htask.1 (by trivial)

theorem obeys_updateCase {rt : TextRuntime} (htask : task.Attaches) (slug caseId : String)
    (payload : CaseUpdatePayload) (auth : Option String) :
    (updateCase rt slug caseId payload auth).Obeys (WriteCall task) := by
  refine (obeys_ask htask.1 (by trivial)).bind fun found => ?_
  cases found with
  | none => exact obeys_ret _
  | some kase =>
    refine (obeys_ask htask.1 (by trivial)).bind fun now => ?_
    refine (obeys_of_reads (calls_checkEdits rt _ _)).bind fun _ => ?_
    refine (obeys_ask htask.1 (by exact ⟨rfl, rfl⟩)).bind fun _ => ?_
    refine (obeys_ask htask.1 (by trivial)).bind fun _ => ?_
    refine Obeys.bind (obeys_forSome (fun event => ?_) _) fun _ =>
      obeys_of_reads (calls_showCase _ _)
    exact (obeys_dispatchAndAttachCaseEvent htask _ _ _).bind fun _ =>
      obeys_of_reads (calls_removeMarkers _ _ _ _)

theorem obeys_bulkUpdateCases {rt : TextRuntime} (htask : task.Attaches) (slug : String)
    (payload : CaseBulkUpdatePayload) (auth : Option String) :
    (bulkUpdateCases rt slug payload auth).Obeys (WriteCall task) := by
  unfold bulkUpdateCases
  refine Obeys.ite (fun _ => obeys_ret _) fun _ => Obeys.foldlM fun acc caseId _ => ?_
  refine (Obeys.attempt (obeys_updateCase htask _ _ _ _)).bind fun result => ?_
  cases result with
  | ok shown => exact obeys_ret _
  | error e => cases e <;> exact obeys_ret _

theorem obeys_upsertCaseForViolation (htask : ¬task.Syncs) (slug : String)
    (policy : CasePolicyRef) (device : CaseDeviceRef) (violationId : String) :
    (upsertCaseForViolation slug policy device violationId).Obeys (WriteCall task) := by
  refine (obeys_ask htask (by trivial)).bind fun now => ?_
  refine (obeys_ask htask (by trivial)).bind fun existing => ?_
  cases existing with
  | some existing =>
    refine (obeys_ask htask (by exact ⟨rfl, rfl⟩)).bind fun _ => ?_
    exact (obeys_ask htask (by trivial)).bind fun _ => obeys_ret _
  | none =>
    refine (obeys_ask htask (by trivial)).bind fun closedMatch => ?_
    cases closedMatch with
    | some closedMatch =>
      refine (obeys_ask htask (by exact ⟨rfl, rfl⟩)).bind fun _ => ?_
      exact (obeys_ask htask (by trivial)).bind fun _ => obeys_ret _
    | none =>
      refine (obeys_ask htask (by trivial)).bind fun _ => ?_
      exact (obeys_ask htask (by trivial)).bind fun _ => obeys_ret _

theorem obeys_markCaseRecovered (htask : ¬task.Syncs) (slug : String)
    (violationId : Option String) (autoResolve : Bool) :
    (markCaseRecovered slug violationId autoResolve).Obeys (WriteCall task) := by
  unfold markCaseRecovered
  split
  · exact obeys_ret _
  · refine (obeys_ask htask (by trivial)).bind fun found => ?_
    cases found with
    | none => exact obeys_ret _
    | some kase =>
      refine Obeys.ite (fun _ => ?_) fun _ => ?_
      · refine (obeys_ask htask (by trivial)).bind fun now => ?_
        refine (obeys_ask htask (by exact ⟨rfl, rfl⟩)).bind fun _ => ?_
        exact (obeys_ask htask (by trivial)).bind fun _ => obeys_ret _
      · refine (obeys_ask htask (by exact ⟨rfl, rfl⟩)).bind fun _ => ?_
        exact (obeys_ask htask (by trivial)).bind fun _ => obeys_ret _

theorem obeys_retryCaseIntegrations (htask : task.Attaches) (slug caseId : String) :
    (retryCaseIntegrations slug caseId).Obeys (WriteCall task) := by
  refine (obeys_ask htask.1 (by trivial)).bind fun found => ?_
  cases found with
  | none => exact obeys_ret _
  | some kase =>
    refine (obeys_dispatchAndAttachCaseEvent htask _ _ _).bind fun _ => ?_
    refine (obeys_ask htask.1 (by exact ⟨rfl, rfl⟩)).bind fun _ => ?_
    exact (obeys_ask htask.1 (by trivial)).bind fun _ => obeys_of_reads (calls_getCaseOrThrow caseId)

theorem obeys_addCaseNote (henriches : task.Enriches)
    (slug caseId text : String) : (addCaseNote rt slug caseId text).Obeys (WriteCall task) := by
  unfold addCaseNote
  split
  · exact obeys_ret _
  · refine (obeys_ask henriches.1 (by trivial)).bind fun found => ?_
    cases found with
    | none => exact obeys_ret _
    | some kase =>
      refine (obeys_ask henriches.1 (by trivial)).bind fun _ => ?_
      refine (obeys_ask henriches.1 (by trivial)).bind fun _ => ?_
      refine (obeys_ask henriches.1 (by exact ⟨rfl, rfl⟩)).bind fun _ => ?_
      exact (obeys_autoEnrichCaseFromText henriches rt _ _ _).bind fun _ =>
        obeys_of_reads (calls_getCaseOrThrow caseId)

/-- Every array that a task writes continues one that it has read. -/
theorem meets_body_write (task : CaseTask) :
    (task.body rt).Meets (World.log caseSig ServiceError) (WriteCall task) [] fun _ _ => True := by
  have hvoid : ∀ {α : Type} {p : CaseProg α}, p.Obeys (WriteCall task) →
      (do let _ ← p : CaseProg Unit).Obeys (WriteCall task) :=
    fun h => h.bind fun _ => obeys_ret _
  cases task with
  | create slug payload authorization =>
    have henriches : (CaseTask.create slug payload authorization).Enriches :=
      ⟨id, fun _ _ _ h => h⟩
    exact hvoid (obeys_createCase (attaches_of_not_syncs id) henriches _ _ _) []
  | trigger slug triggerName runId caseSeverity matchedDevice =>
    have htask : ¬(CaseTask.trigger slug triggerName runId caseSeverity matchedDevice).Syncs := id
    refine hvoid ((obeys_ask htask (by trivial)).bind fun created => ?_) []
    refine (obeys_ask htask (by trivial)).bind fun _ => ?_
    exact (obeys_dispatchAndAttachCaseEvent (attaches_of_not_syncs htask) _ _ _).bind fun _ =>
      obeys_ret _
  | update slug caseId payload authorization =>
    exact hvoid (obeys_updateCase (attaches_of_not_syncs id) _ _ _ _) []
  | bulkUpdate slug payload authorization =>
    exact hvoid (obeys_bulkUpdateCases (attaches_of_not_syncs id) _ _ _) []
  | violation slug policy device violationId =>
    exact ((obeys_upsertCaseForViolation id _ _ _ _).bind fun opened =>
      obeys_dispatchNotify (attaches_of_not_syncs id) _ _ _) []
  | recovery slug violationId autoResolve =>
    exact ((obeys_markCaseRecovered id _ _ _).bind fun recovered => obeys_forSome (fun kase =>
      obeys_dispatchNotify (attaches_of_not_syncs id) _ _ _) recovered) []
  | syncTickets slug caseId =>
    exact Meets.bind (R := fun _ _ => True) ((meets_syncCaseTicketStatus slug caseId []).mono
      fun r _ _ => by cases r <;> trivial) fun _ _ _ => trivial
  | syncTick => exact meets_runTicketStatusSyncTick
  | slaTick =>
    refine Calls.obeys calls_runCaseSlaMonitorTick (fun es c h => ?_) []
    rcases h with hreads | ⟨caseId, kind, time, rfl⟩
    · exact writeCall_of_reads hreads
    · have htask : ¬CaseTask.slaTick.Syncs := id
      exact writeCall_of_plain htask (by cases kind <;> exact ⟨rfl, rfl⟩)
  | retry slug caseId => exact hvoid (obeys_retryCaseIntegrations (attaches_of_not_syncs id) _ _) []
  | addNote slug caseId text =>
    have henriches : (CaseTask.addNote slug caseId text).Enriches := ⟨id, fun _ _ _ h => h⟩
    have hnote := obeys_addCaseNote rt henriches slug caseId text
    rw [CaseTask.body]
    generalize addCaseNote rt slug caseId text = note at hnote ⊢
    exact hvoid hnote []
  | enrich slug caseId value forceRefresh =>
    have henrich := obeys_enrichCase rt slug caseId value forceRefresh []
    rw [CaseTask.body]
    generalize enrichCase rt slug caseId value forceRefresh = enrichment at henrich ⊢
    exact Meets.bind (R := fun _ _ => True) (henrich.mono
      fun r _ _ => by cases r <;> trivial) fun _ _ _ => trivial

end Programs

/-! ## Runs -/

/-- An array is written where it is still the one that was read, and a sync
resolves a case that is still as open as it was. -/
def UpToDate (_ : List CaseLabel) (s : CaseStore) (l : CaseLabel) : Prop :=
  ∀ id data, l.event = ⟨.updateCase id data, .ok ()⟩ → ∀ row ∈ s.cases, row.id = id →
    (data.externalRefs.isSome → ∀ kase, RefsRead l.task l.past id kase →
      tickets row.externalRefs = tickets kase.externalRefs) ∧
    (data.threatIntel.isSome → ∀ kase, IntelRead l.task l.past id kase →
      row.threatIntel = kase.threatIntel) ∧
    (l.task.Syncs → data.status = some .resolved → ∀ kase, StatusRead l.task l.past id kase →
      row.status.isOpen = kase.status.isOpen)

/-- A later row has every ticket and every result of an earlier one. -/
structure Kept (row row' : Case) : Prop where
  id_eq : row'.id = row.id
  tickets : tickets row.externalRefs <+: tickets row'.externalRefs
  threatIntel : row.threatIntel <+: row'.threatIntel

theorem Kept.refl (row : Case) : Kept row row :=
  ⟨rfl, prefix_refl _, prefix_refl _⟩

theorem Kept.trans {row row' row'' : Case} (h : Kept row row') (h' : Kept row' row'') :
    Kept row row'' :=
  ⟨h'.id_eq.trans h.id_eq, h.tickets.trans h'.tickets, h.threatIntel.trans h'.threatIntel⟩

section Runs

variable {rt : TextRuntime} {s : CaseStore} {ts : List CaseTask} {tr pre mid post : List CaseLabel}
  {l : CaseLabel} {cfg : Config caseSig ServiceError CaseStore CaseTask} {row : Case}

theorem writeCall_of_run {cond : List CaseLabel → CaseStore → CaseLabel → Prop}
    (h : Run (caseSystem rt) cond ((caseSystem rt).launch s ts) tr cfg) (hl : l ∈ tr) :
    WriteCall l.task l.past l.event.call :=
  h.ok_of_meets WriteCall (meets_body_write rt) l hl

/-- **Step lemma**: a write that is up to date keeps what is in the row. -/
theorem kept_apply {task : CaseTask} {past : List CaseMove} {data : CaseData} (now : ℕ)
    (hwrite : Continues task past row.id data)
    (hrefs : data.externalRefs.isSome → ∀ kase, RefsRead task past row.id kase →
      tickets row.externalRefs = tickets kase.externalRefs)
    (hintel : data.threatIntel.isSome → ∀ kase, IntelRead task past row.id kase →
      row.threatIntel = kase.threatIntel) : Kept row (data.apply row now) := by
  refine ⟨rfl, ?_, ?_⟩
  · show tickets row.externalRefs <+: tickets (data.externalRefs.getD row.externalRefs)
    cases hdata : data.externalRefs with
    | none => exact prefix_refl _
    | some refs =>
      obtain ⟨kase, hread, hprefix⟩ := hwrite.refs refs hdata
      rw [hrefs (by rw [hdata]; rfl) kase hread]
      exact hprefix
  · show row.threatIntel <+: data.threatIntel.getD row.threatIntel
    cases hdata : data.threatIntel with
    | none => exact prefix_refl _
    | some intel =>
      obtain ⟨kase, hread, hprefix⟩ := hwrite.intel intel hdata
      rw [hintel (by rw [hdata]; rfl) kase hread]
      exact hprefix

/-- **Run lemma**: nothing of a row is lost between two moments of a run. -/
theorem kept_after (h : Run (caseSystem rt) UpToDate ((caseSystem rt).launch s ts) tr cfg)
    (hunique : s.Unique) (htr : tr = pre ++ mid ++ post)
    (hrow : row ∈ (storeAfter s pre).cases) :
    ∃ row' ∈ (storeAfter s (pre ++ mid)).cases, Kept row row' := by
  induction mid using reverseRecOn generalizing post with
  | nil => exact ⟨row, by rwa [append_nil], .refl row⟩
  | append_singleton mid l ih =>
    have htr' : tr = pre ++ mid ++ l :: post := by simp [htr]
    obtain ⟨row₁, hrow₁, hkept₁⟩ := ih htr'
    rw [← append_assoc, storeAfter_append]
    obtain ⟨row', hrow', hcases⟩ := exists_next hrow₁ l.event
    refine ⟨row', hrow', hkept₁.trans ?_⟩
    rcases hcases with rfl | ⟨data, hevent, rfl⟩
    · exact .refl _
    · have hwrite := writeCall_of_run h (l := l) (htr' ▸ by simp)
      rw [hevent] at hwrite
      obtain ⟨hrefs, hintel, -⟩ :=
        (before_label h hunique htr').2.2 row₁.id data hevent row₁ hrow₁ rfl
      exact kept_apply _ hwrite hrefs hintel

theorem open_of_resolved (h : Run (caseSystem rt) UpToDate ((caseSystem rt).launch s ts) tr cfg)
    (hunique : s.Unique) (htr : tr = pre ++ l :: post) (hsyncs : l.task.Syncs) {id : String}
    {data : CaseData} (hevent : l.event = ⟨.updateCase id data, .ok ()⟩)
    (hresolves : data.status = some .resolved) (hrow : row ∈ (storeAfter s pre).cases)
    (hid : row.id = id) : row.status.isOpen = true := by
  have hwrite := writeCall_of_run h (l := l) (htr ▸ by simp)
  rw [hevent] at hwrite
  obtain ⟨kase, hread, hopen⟩ := Continues.status hwrite hsyncs hresolves
  rw [((before_label h hunique htr).2.2 id data hevent row hrow hid).2.2 hsyncs hresolves kase hread]
  rcases hopen with htask | hopen
  · -- the job reads open cases only
    rw [htask] at hread
    obtain ⟨rows, ⟨slug, pre', rest, hpast, -⟩, hmem, -⟩ := hread
    obtain ⟨before, l', after, -, -, hmay⟩ := label_of_mem_past h hunique htr
      (e := ⟨.findOpenCases slug, .ok rows⟩) (hpast ▸ mem_append_right _ mem_cons_self)
    have hfound : kase ∈ (storeAfter s before).openCases slug :=
      (show rows = _ from hmay) ▸ hmem
    have hboth := (mem_filter.mp hfound).2
    rw [Bool.and_eq_true] at hboth
    exact hboth.2
  · exact hopen

/-- In every run in which each array is written where it is still the one that was
read, and no case is closed between the look of a sync at its status and its
resolution, what a row has of references and threat intel is there in the end,
and no sync resolves a case that has been closed. -/
theorem nothing_lost_of_upToDate {rt : TextRuntime} {s : CaseStore} {ts : List CaseTask}
    {tr : List CaseLabel} {cfg : Config caseSig ServiceError CaseStore CaseTask}
    (hunique : s.Unique)
    (h : Run (caseSystem rt) UpToDate ((caseSystem rt).launch s ts) tr cfg) :
    (∀ pre post, tr = pre ++ post → ∀ row ∈ (storeAfter s pre).cases,
      ∃ row' ∈ cfg.store.cases, Kept row row') ∧
    ∀ pre l post, tr = pre ++ l :: post → l.task.Syncs → ∀ id data,
      l.event = ⟨.updateCase id data, .ok ()⟩ → data.status = some .resolved →
      ∀ row ∈ (storeAfter s pre).cases, row.id = id →
        row.status ≠ .closed ∧ row.status ≠ .falsePositive := by
  refine ⟨fun pre post htr row hrow => ?_, fun pre l post htr hsyncs id data hevent hresolves row
    hrow hid => ?_⟩
  · rw [show cfg.store = storeAfter s (pre ++ post) from htr ▸ h.store_eq]
    exact kept_after h hunique (htr.trans (append_nil _).symm) hrow
  · have hopen := open_of_resolved h hunique htr hsyncs hevent hresolves hrow hid
    constructor <;> intro hstatus <;> rw [hstatus] at hopen <;> cases hopen

end Runs

/-! ## A ticket that is created beside a sync -/

/-- The cases `id` that a call has read. -/
def readsOf (id : String) (e : CaseMove) : List Case :=
  match e with
  | ⟨.findCase _ _, .ok (some kase)⟩ => [kase]
  | ⟨.getCase _, .ok (some kase)⟩ => [kase]
  | ⟨.findOpenCases _, .ok rows⟩ => rows.filter fun kase => kase.id = id
  | _ => []

/-- Nothing that an update writes was changed since the case was read. -/
def sameToWrite (data : CaseData) (kase row : Case) : Bool :=
  (data.externalRefs.isNone || tickets row.externalRefs = tickets kase.externalRefs) &&
    (data.threatIntel.isNone || row.threatIntel = kase.threatIntel) &&
    (data.status.isNone || row.status.isOpen = kase.status.isOpen)

/-- A check of `UpToDate`, for tasks that read one case. -/
def upToDateCheck (_ : List CaseLabel) (s : CaseStore) (l : CaseLabel) : Bool :=
  match l.event with
  | ⟨.updateCase id data, .ok _⟩ => l.past.all fun e => (readsOf id e).all fun kase =>
      s.cases.all fun row => row.id ≠ id || sameToWrite data kase row
  | _ => true

variable {past : List CaseMove} {kase : Case} {task : CaseTask}

theorem exists_readsOf_of_lastGet {id : String}
    (h : LastGet past id kase) : ∃ e ∈ past, kase ∈ readsOf id e := by
  obtain ⟨pre, rest, rfl, -⟩ := h
  exact ⟨_, mem_append_right _ mem_cons_self, mem_singleton_self kase⟩

theorem exists_readsOf_of_findCase {slug id : String}
    (h : ⟨.findCase slug id, .ok (some kase)⟩ ∈ past) :
    ∃ e ∈ past, kase ∈ readsOf id e :=
  ⟨_, h, mem_singleton_self kase⟩

theorem exists_readsOf_of_lastRead {rows : List Case}
    (h : LastRead past rows) (hkase : kase ∈ rows) : ∃ e ∈ past, kase ∈ readsOf kase.id e := by
  obtain ⟨slug, pre, rest, rfl, -⟩ := h
  refine ⟨_, mem_append_right _ mem_cons_self, mem_filter.mpr ⟨hkase, ?_⟩⟩
  exact decide_eq_true rfl

theorem exists_readsOf_of_refsRead {id : String} (h : RefsRead task past id kase) : ∃ e ∈ past, kase ∈ readsOf id e := by
  cases task with
  | syncTickets => exact exists_readsOf_of_findCase h
  | syncTick =>
    obtain ⟨rows, hread, hkase, rfl⟩ := h
    exact exists_readsOf_of_lastRead hread hkase
  | _ => exact exists_readsOf_of_lastGet h

theorem exists_readsOf_of_intelRead {id : String} (h : IntelRead task past id kase) : ∃ e ∈ past, kase ∈ readsOf id e := by
  cases task with
  | enrich => exact exists_readsOf_of_findCase h
  | _ => exact exists_readsOf_of_lastGet h

theorem exists_readsOf_of_statusRead {id : String} (h : StatusRead task past id kase) : ∃ e ∈ past, kase ∈ readsOf id e := by
  cases task with
  | syncTick =>
    obtain ⟨rows, hread, hkase, rfl⟩ := h
    exact exists_readsOf_of_lastRead hread hkase
  | _ => exact exists_readsOf_of_lastGet h

theorem upToDateCheck_sound (tr : List CaseLabel) (s : CaseStore) (l : CaseLabel)
    (h : upToDateCheck tr s l = true) : UpToDate tr s l := by
  intro id data hevent row hrow hid
  have hsame : ∀ kase, (∃ e ∈ l.past, kase ∈ readsOf id e) →
      sameToWrite data kase row = true := by
    rintro kase ⟨e, he, hkase⟩
    unfold upToDateCheck at h
    rw [hevent] at h
    have hall := all_eq_true.mp (all_eq_true.mp (all_eq_true.mp h e he) kase hkase)
      row hrow
    simpa [hid] using hall
  refine ⟨fun hsome kase hread => ?_, fun hsome kase hread => ?_, fun _ hsome kase hread => ?_⟩
  · have := hsame kase (exists_readsOf_of_refsRead hread)
    simp only [sameToWrite, Bool.and_eq_true, Bool.or_eq_true, decide_eq_true_eq] at this
    exact this.1.1.resolve_left (by cases hdata : data.externalRefs <;> simp_all)
  · have := hsame kase (exists_readsOf_of_intelRead hread)
    simp only [sameToWrite, Bool.and_eq_true, Bool.or_eq_true, decide_eq_true_eq] at this
    exact this.1.2.resolve_left (by cases hdata : data.threatIntel <;> simp_all)
  · have := hsame kase (exists_readsOf_of_statusRead hread)
    simp only [sameToWrite, Bool.and_eq_true, Bool.or_eq_true, decide_eq_true_eq] at this
    exact this.2.resolve_left (by rw [hsome]; exact Bool.false_ne_true)

/-- A case with a ticket, in a workspace that opens tickets and follows them. -/
def ticketCase : CaseStore where
  cases := [{ id := "c1", workspaceSlug := "acme", title := "Malware", source := "manual",
              externalRefs := [{ type := .jira, id := "SEC-0", url := "" }],
              slaClockStartedAt := 0, updatedAt := 0 }]
  integrations := [{ id := "i1", workspaceSlug := "acme", type := .jira,
                     autoCloseCaseOnRemoteResolve := true }]
  clock := id
  clock_mono := monotone_id

theorem ticketCase_unique : ticketCase.Unique :=
  nodup_singleton _

/-- A sync beside a request for a second ticket. -/
def ticketRun (schedule : List ℕ) :
    List CaseLabel × Config caseSig ServiceError CaseStore CaseTask :=
  ((caseSystem plainText).launch ticketCase [.syncTickets "acme" "c1", .retry "acme" "c1"]).play
    (caseSystem plainText) CaseStore.reply schedule

/-- The second ticket, and then the sync. -/
def retriedFirst : List ℕ :=
  List.replicate 20 1 ++ List.replicate 20 0

/-- The sync finds both tickets resolved, and the case has both of them. -/
theorem nothing_lost_of_upToDate_retried :
    (ticketRun retriedFirst).2.store.cases.map (fun row => (row.status,
      row.externalRefs.map ExternalRef.id)) = [(.resolved, ["SEC-0", "SEC-1"])] ∧
    ∀ row ∈ ticketCase.cases, ∃ row' ∈ (ticketRun retriedFirst).2.store.cases, Kept row row' := by
  have hadmits := Config.admits_of_admitted (caseSystem plainText) CaseStore.reply
    upToDateCheck_sound retriedFirst [] ((caseSystem plainText).launch ticketCase
      [.syncTickets "acme" "c1", .retry "acme" "c1"]) (by decide +kernel)
  have hrun : Run (caseSystem plainText) UpToDate ((caseSystem plainText).launch ticketCase
      [.syncTickets "acme" "c1", .retry "acme" "c1"]) (ticketRun retriedFirst).1
      (ticketRun retriedFirst).2 :=
    Run.nil.play (caseSystem plainText) CaseStore.reply may_reply retriedFirst hadmits
  exact ⟨by decide +kernel,
    (nothing_lost_of_upToDate ticketCase_unique hrun).1 [] _ rfl⟩

/-- The second ticket is created after the sync has read the case. -/
def retriedMeanwhile : List ℕ :=
  List.replicate 3 0 ++ List.replicate 20 1 ++ List.replicate 20 0

/-- The sync writes its references back, and the second ticket is gone. -/
theorem reference_lost :
    ¬∀ (rt : TextRuntime) (s : CaseStore) (ts : List CaseTask) (tr : List CaseLabel)
      (cfg : Config caseSig ServiceError CaseStore CaseTask), s.Unique →
      Run (caseSystem rt) always ((caseSystem rt).launch s ts) tr cfg →
      ∀ pre post, tr = pre ++ post → ∀ row ∈ (storeAfter s pre).cases,
        ∃ row' ∈ cfg.store.cases, Kept row row' := by
  intro hall
  have hrun : Run (caseSystem plainText) always ((caseSystem plainText).launch ticketCase
      [.syncTickets "acme" "c1", .retry "acme" "c1"]) (ticketRun retriedMeanwhile).1
      (ticketRun retriedMeanwhile).2 :=
    Config.run_play (caseSystem plainText) CaseStore.reply may_reply _ _
  obtain ⟨row, hrow, htwo⟩ : ∃ row ∈ (storeAfter ticketCase
      ((ticketRun retriedMeanwhile).1.take 14)).cases, row.externalRefs.length = 2 := by
    decide +kernel
  obtain ⟨row', hrow', hkept⟩ := hall _ _ _ _ _ ticketCase_unique hrun _ _
    (take_append_drop 14 _).symm row hrow
  have hone : ∀ row' ∈ (ticketRun retriedMeanwhile).2.store.cases, row'.externalRefs.length = 1 := by
    decide +kernel
  have hle := hkept.tickets.length_le
  rw [tickets, tickets, length_map, length_map, htwo, hone row' hrow'] at hle
  exact absurd hle (by decide)

end AppliverySoar.Cases
