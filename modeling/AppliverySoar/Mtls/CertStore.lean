import AppliverySoar.Async.Pool
import AppliverySoar.Mtls.Certificates
import Mathlib.Order.Monotone.Basic

/-!
# The certificate table and the operations on it

The rows of `DeviceCertificate`, what each query does to them, and the system
in which any number of registrations, renewals, revocations, purges and checks
of an identity run at the same time.

Results:
* `activeRows_next`: a step that does not insert a certificate of a device adds
  none to the active ones of that device.
* `activeRows_supersede`: after `supersedeActiveCertificates` a device has no
  active certificate.
-/

namespace AppliverySoar.Mtls

open Async Compliance List

/-! ## The table -/

/-- Neither revoked nor superseded. -/
def DeviceCertificate.unretired (row : DeviceCertificate) : Bool :=
  row.revokedAt.isNone && row.supersededAt.isNone

/-- What `findActiveCertificate` asks of a row besides its device. -/
def DeviceCertificate.active (row : DeviceCertificate) (now : ℕ) : Bool :=
  row.unretired && now < row.notAfter

/-- The certificate is one of the device `serialNumber` of the workspace. -/
def DeviceCertificate.isOf (row : DeviceCertificate) (workspaceSlug serialNumber : String) : Bool :=
  row.workspaceSlug = workspaceSlug && row.serialNumber = serialNumber

/-- The rows, and a clock that every answer may move on and nothing back. -/
structure CertStore where
  rows : List DeviceCertificate
  clock : ℕ → ℕ
  clock_mono : Monotone clock
  tick : ℕ := 0

/-- `new Date()`. -/
def CertStore.now (s : CertStore) : ℕ :=
  s.clock s.tick

/-- The active certificates of a device. -/
def CertStore.activeRows (s : CertStore) (workspaceSlug serialNumber : String) :
    List DeviceCertificate :=
  s.rows.filter fun row => row.isOf workspaceSlug serialNumber && row.active s.now

/-- The row is superseded, if it belongs to the device and is not retired. -/
def DeviceCertificate.supersede (row : DeviceCertificate) (workspaceSlug serialNumber : String)
    (now : ℕ) : DeviceCertificate :=
  if row.isOf workspaceSlug serialNumber && row.unretired then { row with supersededAt := some now }
  else row

/-- The row is revoked, if it has the id. -/
def DeviceCertificate.revoke (row : DeviceCertificate) (id reason : String) (now : ℕ) :
    DeviceCertificate :=
  if row.id = id then { row with revokedAt := some now, revokedReason := some reason } else row

/-- The row that is inserted for a record. -/
def CertificateRecord.row (record : CertificateRecord) (id : String)
    (thumbprintHex : Option String) : DeviceCertificate :=
  { record with id := id, thumbprintHex := thumbprintHex }

/-- Queries answer what is stored. An insertion gets a new id and is refused
where `(workspaceSlug, serialHex)` is taken; `getCertificateThumbprintHex`
catches what it throws. -/
def CertStore.may (s : CertStore) (c : MtlsCall) (r : Except ServiceError (MtlsCall.Answer c)) :
    Prop :=
  match (⟨c, r⟩ : MtlsEvent) with
  | ⟨.findActiveCertificate workspaceSlug serialNumber, .ok found⟩ =>
    match found with
    | none => s.activeRows workspaceSlug serialNumber = []
    | some id => ∃ row ∈ s.activeRows workspaceSlug serialNumber, row.id = id
  | ⟨.createCertificate record _, .ok id⟩ => ∀ row ∈ s.rows, row.id ≠ id ∧
      ¬(row.workspaceSlug = record.workspaceSlug ∧ row.serialHex = record.serialHex)
  | ⟨.findCertificate id, .ok found⟩ => found = s.rows.find? fun row => row.id = id
  | ⟨.revokeCertificate id _, .ok _⟩ => ∃ row ∈ s.rows, row.id = id
  | ⟨.getCertificateThumbprintHex _, .error _⟩ => False
  | _ => True

/-- The rows after an answered call. -/
def CertStore.rowsNext (s : CertStore) (e : MtlsEvent) : List DeviceCertificate :=
  match e with
  | ⟨.createCertificate record thumbprintHex, .ok id⟩ =>
    s.rows ++ [record.row id thumbprintHex]
  | ⟨.supersedeCertificates workspaceSlug serialNumber, .ok _⟩ =>
    s.rows.map fun row => row.supersede workspaceSlug serialNumber s.now
  | ⟨.revokeCertificate id reason, .ok _⟩ => s.rows.map fun row => row.revoke id reason s.now
  | ⟨.purgeRevoked workspaceSlug days, .ok _⟩ =>
    s.rows.filter fun row => !(row.workspaceSlug = workspaceSlug &&
      row.revokedAt.any fun revokedAt => revokedAt < s.now - days * 24 * 60 * 60 * 1000)
  | _ => s.rows

/-- What an answered call leaves. -/
def CertStore.next (s : CertStore) (c : MtlsCall) (r : Except ServiceError (MtlsCall.Answer c)) :
    CertStore :=
  { s with
    rows := s.rowsNext ⟨c, r⟩
    tick := s.tick + 1 }

/-- The table as the functions see it. -/
def certWorld : World mtlsSig ServiceError CertStore :=
  ⟨CertStore.may, CertStore.next⟩

/-! ## The operations -/

/-- A client certificate, with what the proxy says of its chain. -/
structure ClientCertificate where
  subject : String
  certPem : String
  verification : String
  deriving DecidableEq

/-- The headers of a request that presents a certificate through the proxy. -/
def ClientCertificate.headers (cert : ClientCertificate) (secret : String)
    (workspaceSlug : Option String) : IdentityHeaders where
  workspaceSlug := workspaceSlug
  proxySecret := some secret
  certVerified := some cert.verification
  certCn := some cert.subject

/-- What agents and administrators ask for; `authenticate` is any other route
behind `assertMtlsIdentity`. -/
inductive MtlsTask
  | register (workspaceSlug : String) (params : CsrPayload) (bootstrapToken : Option String)
  | renew (cert : ClientCertificate) (workspaceSlug : Option String) (params : CsrPayload)
  | authenticate (cert : ClientCertificate) (workspaceSlug : Option String)
  | revoke (workspaceSlug id reason : String)
  | purge (workspaceSlug : String) (days : ℕ)
  deriving DecidableEq

/-- What a task runs. -/
def MtlsTask.body (secret : String) : MtlsTask → Mtls Unit
  | .register workspaceSlug params bootstrapToken => do
    let _ ← registerDevice workspaceSlug params bootstrapToken
    pure ()
  | .renew cert workspaceSlug params => do
    let _ ← renewRoute secret (cert.headers secret workspaceSlug) params
    pure ()
  | .authenticate cert workspaceSlug => do
    let _ ← assertMtlsIdentity secret (cert.headers secret workspaceSlug)
    pure ()
  | .revoke workspaceSlug id reason => revokeCertificate workspaceSlug id reason
  | .purge workspaceSlug days => purgeRevokedCertificates workspaceSlug days

/-- The tasks over the table. -/
def mtlsSystem (secret : String) : System mtlsSig ServiceError CertStore MtlsTask where
  world := certWorld
  body := MtlsTask.body secret
  starts _ _ := []

/-- A label of a run. -/
abbrev MtlsLabel := Label mtlsSig ServiceError MtlsTask

/-- The table after a trace. -/
def storeAfter (s : CertStore) (tr : List MtlsLabel) : CertStore :=
  certWorld.after s (tr.map Label.event)

/-- The event inserts a certificate of the device. -/
def Inserts (workspaceSlug serialNumber : String) (e : MtlsEvent) : Prop :=
  ∃ record thumbprintHex id, e = ⟨.createCertificate record thumbprintHex, .ok id⟩ ∧
    record.workspaceSlug = workspaceSlug ∧ record.serialNumber = serialNumber

/-! ## Active certificates -/

section Active

variable {s : CertStore} {workspaceSlug serialNumber : String} {row : DeviceCertificate}

theorem mem_activeRows : row ∈ s.activeRows workspaceSlug serialNumber ↔
    row ∈ s.rows ∧ row.isOf workspaceSlug serialNumber = true ∧ row.active s.now = true := by
  simp [CertStore.activeRows]

theorem now_next (s : CertStore) (e : MtlsEvent) : s.now ≤ (s.next e.call e.answer).now :=
  s.clock_mono (Nat.le_succ s.tick)

variable {now now' : ℕ}

theorem active_of_later (hle : now ≤ now') (h : row.active now' = true) :
    row.active now = true := by
  simp only [DeviceCertificate.active, Bool.and_eq_true, decide_eq_true_eq] at h ⊢
  exact ⟨h.1, hle.trans_lt h.2⟩

/-- Where each row goes to itself or to one that is not counted, nothing is
counted that was not before. -/
theorem filter_map_sublist {α : Type} {f : α → α} {p q : α → Bool} {l : List α}
    (h : ∀ a, q (f a) = true → f a = a ∧ p a = true) :
    ((l.map f).filter q).Sublist (l.filter p) := by
  induction l with
  | nil => exact .slnil
  | cons a l ih =>
    rw [map_cons]
    by_cases hq : q (f a) = true
    · obtain ⟨hself, hp⟩ := h a hq
      rw [filter_cons_of_pos hq, filter_cons_of_pos hp, hself]
      exact ih.cons_cons a
    · rw [filter_cons_of_neg hq]
      exact ih.trans ((sublist_cons_self a l).filter p)

theorem supersede_retires (h : (row.supersede workspaceSlug serialNumber now).active now' = true) :
    row.supersede workspaceSlug serialNumber now = row ∧
      ¬(row.isOf workspaceSlug serialNumber && row.unretired) = true := by
  unfold DeviceCertificate.supersede at h ⊢
  split_ifs at h ⊢ with hof
  · simp [DeviceCertificate.active, DeviceCertificate.unretired] at h
  · exact ⟨rfl, hof⟩

theorem inactive_of_supersede
    (h : (row.supersede workspaceSlug serialNumber now).isOf workspaceSlug serialNumber = true) :
    ¬(row.supersede workspaceSlug serialNumber now).active now' = true := by
  intro hactive
  obtain ⟨hself, hnot⟩ := supersede_retires hactive
  rw [hself] at h hactive
  rw [DeviceCertificate.active, Bool.and_eq_true] at hactive
  exact hnot (Bool.and_eq_true_iff.mpr ⟨h, hactive.1⟩)

theorem revoke_retires {id reason : String}
    (h : (row.revoke id reason now).active now' = true) : row.revoke id reason now = row := by
  unfold DeviceCertificate.revoke at h ⊢
  split_ifs at h ⊢
  · simp [DeviceCertificate.active, DeviceCertificate.unretired] at h
  · rfl

/-- **Step lemma**: only an insertion adds to the active certificates of a
device. -/
theorem activeRows_next (s : CertStore) {e : MtlsEvent}
    (h : ¬Inserts workspaceSlug serialNumber e) :
    ((s.next e.call e.answer).activeRows workspaceSlug serialNumber).Sublist
      (s.activeRows workspaceSlug serialNumber) := by
  have hlater := now_next s e
  have hsame : ∀ {rows' : List DeviceCertificate}, rows'.Sublist s.rows →
      (rows'.filter fun row => row.isOf workspaceSlug serialNumber &&
        row.active (s.next e.call e.answer).now).Sublist
        (s.activeRows workspaceSlug serialNumber) := by
    intro rows' hrows
    refine (hrows.filter _).trans (monotone_filter_right s.rows fun row hrow => ?_)
    rw [Bool.and_eq_true] at hrow ⊢
    exact ⟨hrow.1, active_of_later hlater hrow.2⟩
  have hmap : ∀ {f : DeviceCertificate → DeviceCertificate},
      (∀ row, (f row).active (s.next e.call e.answer).now = true → f row = row) →
      ((s.rows.map f).filter fun row => row.isOf workspaceSlug serialNumber &&
        row.active (s.next e.call e.answer).now).Sublist
        (s.activeRows workspaceSlug serialNumber) := by
    intro f hf
    refine filter_map_sublist fun row hrow => ?_
    rw [Bool.and_eq_true] at hrow
    have hself := hf row hrow.2
    rw [hself] at hrow
    exact ⟨hself, Bool.and_eq_true_iff.mpr ⟨hrow.1, active_of_later hlater hrow.2⟩⟩
  obtain ⟨c, r⟩ := e
  cases r with
  | error e => cases c <;> exact hsame (Sublist.refl _)
  | ok a =>
    cases c with
    | createCertificate record thumbprintHex =>
      have hnone : ∀ now, [record.row a thumbprintHex].filter (fun row =>
          row.isOf workspaceSlug serialNumber && row.active now) = [] := by
        refine fun now => filter_eq_nil_iff.mpr fun row hrow hof => h ?_
        obtain rfl := mem_singleton.mp hrow
        simp only [DeviceCertificate.isOf, Bool.and_eq_true, decide_eq_true_eq] at hof
        exact ⟨record, thumbprintHex, a, rfl, hof.1⟩
      have hrows := hsame (Sublist.refl s.rows)
      show ((s.rows ++ [_]).filter _).Sublist _
      rw [filter_append, hnone, append_nil]
      exact hrows
    | supersedeCertificates ws serial => exact hmap fun row hrow => (supersede_retires hrow).1
    | revokeCertificate id reason => exact hmap fun row hrow => revoke_retires hrow
    | purgeRevoked ws days => exact hsame filter_sublist
    | _ => exact hsame (Sublist.refl _)

theorem activeRows_insert (s : CertStore) (e : MtlsEvent) (slug serial : String) :
    ((s.next e.call e.answer).activeRows slug serial).length ≤
      (s.activeRows slug serial).length + 1 := by
  by_cases h : Inserts slug serial e
  · obtain ⟨record, thumbprintHex, id, rfl, -⟩ := h
    show ((s.rows ++ [_]).filter _).length ≤ _
    rw [filter_append, length_append]
    refine Nat.add_le_add (Sublist.length_le ?_) (length_filter_le _ _)
    refine monotone_filter_right s.rows fun row hrow => ?_
    rw [Bool.and_eq_true] at hrow ⊢
    exact ⟨hrow.1, active_of_later (s.clock_mono (Nat.le_succ s.tick)) hrow.2⟩
  · exact (activeRows_next s h).length_le.trans (Nat.le_succ _)

theorem activeRows_supersede (s : CertStore) (slug serial : String) :
    (s.next (.supersedeCertificates slug serial) (.ok ())).activeRows slug serial = [] := by
  refine filter_eq_nil_iff.mpr fun row' hrow' hactive => ?_
  obtain ⟨row, -, rfl⟩ := mem_map.mp hrow'
  rw [Bool.and_eq_true] at hactive
  exact inactive_of_supersede hactive.1 hactive.2

/-- Without insertions of a device's certificates none becomes active. -/
theorem activeRows_after {es : List MtlsEvent}
    (h : ∀ e ∈ es, ¬Inserts workspaceSlug serialNumber e) (s : CertStore) :
    ((certWorld.after s es).activeRows workspaceSlug serialNumber).Sublist
      (s.activeRows workspaceSlug serialNumber) := by
  induction es generalizing s with
  | nil => exact Sublist.refl _
  | cons e es ih =>
    exact (ih (fun e' he' => h e' (mem_cons_of_mem _ he')) _).trans
      (activeRows_next s (h e mem_cons_self))

end Active

/-! ## Runs -/

section Runs

variable {secret : String} {s : CertStore} {ts : List MtlsTask} {tr : List MtlsLabel}
  {cfg : Config mtlsSig ServiceError CertStore MtlsTask}
  {cond : List MtlsLabel → CertStore → MtlsLabel → Prop}

theorem storeAfter_append (s : CertStore) (tr tr' : List MtlsLabel) :
    storeAfter s (tr ++ tr') = storeAfter (storeAfter s tr) tr' := by
  rw [storeAfter, map_append, World.after_append]
  rfl

theorem store_of_run (h : Run (mtlsSystem secret) cond ((mtlsSystem secret).launch s ts) tr cfg) :
    cfg.store = storeAfter s tr :=
  h.store_eq

theorem may_of_run (h : Run (mtlsSystem secret) cond ((mtlsSystem secret).launch s ts) tr cfg)
    {pre post : List MtlsLabel} {l : MtlsLabel} (htr : tr = pre ++ l :: post) :
    (storeAfter s pre).may l.event.call l.event.answer := by
  obtain ⟨cfg₁, cfg₂, hrun, hstep, -, -⟩ := h.step_of_append htr
  rw [← store_of_run hrun]
  exact hstep.may

end Runs

/-! ## Runs with the answers of the table -/

/-- A deployment in which everything but the table answers what it should. -/
def CertStore.answer (s : CertStore) : (c : MtlsCall) → Except ServiceError (MtlsCall.Answer c)
  | .getGlobalBootstrapToken _ => .ok (some "token")
  | .getAutomationBearer _ => .ok (some "bearer")
  | .getDevicesFull .. => .ok ["SN1", "SN2"]
  | .findActiveCertificate workspaceSlug serialNumber =>
    .ok ((s.activeRows workspaceSlug serialNumber).head?.map DeviceCertificate.id)
  | .touchLastSeen _ => .ok ()
  | .getCaForSigning _ => .ok (some ⟨"ca", "key", 90⟩)
  | .claimNextSerial _ => .ok s.tick
  | .parseCsr csrPem => if csrPem = "garbage" then .error (.other "asn1") else .ok ()
  | .verifyCsr _ => .ok true
  | .createLeaf _ _ _ _ serialHex validityDays =>
    .ok ("cert " ++ serialHex, s.now, s.now + validityDays * 24 * 60 * 60 * 1000)
  | .getCertificateThumbprintHex _ => .ok none
  | .createCertificate record _ =>
    let id := "row " ++ record.serialHex
    if ∀ row ∈ s.rows, row.id ≠ id ∧
        ¬(row.workspaceSlug = record.workspaceSlug ∧ row.serialHex = record.serialHex) then
      .ok id
    else .error (.other "Unique constraint failed")
  | .supersedeCertificates .. => .ok ()
  | .findCertificate id => .ok (s.rows.find? fun row => row.id = id)
  | .revokeCertificate id _ =>
    if ∃ row ∈ s.rows, row.id = id then .ok () else .error (.other "Record to update not found.")
  | .purgeRevoked .. => .ok 0
  | .recordAuditEvent .. => .ok ()

theorem may_answer (s : CertStore) (c : MtlsCall) : certWorld.may s c (s.answer c) := by
  show s.may c (s.answer c)
  cases c with
  | findActiveCertificate workspaceSlug serialNumber =>
    have hanswer : s.answer (.findActiveCertificate workspaceSlug serialNumber) =
        .ok ((s.activeRows workspaceSlug serialNumber).head?.map DeviceCertificate.id) := rfl
    rw [hanswer]
    cases hrows : s.activeRows workspaceSlug serialNumber with
    | nil => exact hrows
    | cons row rows => exact ⟨row, hrows ▸ mem_cons_self, rfl⟩
  | createCertificate record thumbprintHex =>
    by_cases hfree : ∀ row ∈ s.rows, row.id ≠ "row " ++ record.serialHex ∧
        ¬(row.workspaceSlug = record.workspaceSlug ∧ row.serialHex = record.serialHex)
    · have hanswer : s.answer (.createCertificate record thumbprintHex) =
          .ok ("row " ++ record.serialHex) := if_pos hfree
      rw [hanswer]
      exact hfree
    · have hanswer : s.answer (.createCertificate record thumbprintHex) =
          .error (.other "Unique constraint failed") := if_neg hfree
      rw [hanswer]
      trivial
  | revokeCertificate id reason =>
    by_cases hrow : ∃ row ∈ s.rows, row.id = id
    · have hanswer : s.answer (.revokeCertificate id reason) = .ok () := if_pos hrow
      rw [hanswer]
      exact hrow
    · have hanswer : s.answer (.revokeCertificate id reason) =
          .error (.other "Record to update not found.") := if_neg hrow
      rw [hanswer]
      trivial
  | findCertificate id => exact rfl
  | _ => trivial

/-- `f` of every cut of a list into what comes before an element, the element and
what comes after it. -/
def everyCut {α : Type} (f : List α → α → List α → Bool) (l : List α) : Bool :=
  (List.range l.length).all fun i => l[i]?.all fun a => f (l.take i) a (l.drop (i + 1))

theorem everyCut_sound {α : Type} {f : List α → α → List α → Bool} {pre post : List α} {a : α}
    (h : everyCut f (pre ++ a :: post) = true) : f pre a post = true := by
  have hat := all_eq_true.mp h pre.length (by simp)
  have hpost : (pre ++ a :: post).drop (pre.length + 1) = post := by
    rw [drop_append, drop_of_length_le (Nat.le_succ _), nil_append,
      Nat.add_sub_cancel_left, drop_one, tail_cons]
  simpa [hpost] using hat

/-- A table without certificates at the moment 0. -/
def emptyTable : CertStore where
  rows := []
  clock := id
  clock_mono := monotone_id

end AppliverySoar.Mtls
