import AppliverySoar.Mtls.Certificates
import AppliverySoar.Names.Printer
import AppliverySoar.Names.Reprints
import Mathlib.Data.Char

/-!
# From the serial number to the common name

`signDeviceCsr` (mtlsPki.ts) splices the serial number into the subject `CN=…`,
the X.509 library reads that text as a name and prints it for the proxy, and
`extractCommonName` (mtlsIdentity.middleware.ts) cuts the common name out of the
printed name again.

Results:
* `extractCommonName_cases`: what the regular expression finds.
* `subject_eq`: the subject of every certificate that a registration creates.
* `commonName_exact_iff`: the serial numbers that come back as they were.
* `spliced_serial_shortened`: one that does not.
-/

namespace AppliverySoar.Mtls

open Async Prog Workflows Names List

/-! ## The regular expression -/

/-- The white space that is listed one by one. -/
def spaceChars : List Char :=
  [' ', '\t', '\n', '\x0b', '\x0c', '\r', '\u00a0', '\u1680', '\u2028', '\u2029', '\u202f',
    '\u205f', '\u3000', '\ufeff']

variable {c : Char}

theorem isSpace_cases (h : isSpace c = true) : c ∈ spaceChars ∨ '\u2000' ≤ c := by
  rw [isSpace, Bool.or_eq_true, Bool.and_eq_true, decide_eq_true_eq, contains_iff_mem] at h
  exact h.imp id And.left

/-- White space takes part in no escape and no encoding, and separates nothing. -/
theorem blankChar_of_isSpace (h : isSpace c = true) : BlankChar c := by
  have hnot : c ≠ '#' ∧ c ≠ '=' ∧ c ∉ reservedChars := by
    refine ⟨?_, ?_, fun hc => ?_⟩
    · rintro rfl
      exact absurd h (by decide)
    · rintro rfl
      exact absurd h (by decide)
    · simp only [reservedChars, mem_cons, not_mem_nil, or_false] at hc
      rcases hc with rfl | rfl | rfl | rfl | rfl | rfl | rfl <;> exact absurd h (by decide)
  refine ⟨c, rfl, hnot.1, hnot.2.1, hnot.2.2, ?_⟩
  rcases isSpace_cases h with h | h
  · have hall : (spaceChars.all fun d => (Names.hexDigit d).isNone) = true := by decide
    exact Option.isNone_iff_eq_none.mp (all_eq_true.mp hall c h)
  · have beyond {d : Char} (hd : d < '\u2000') : ¬c ≤ d := fun hc =>
      absurd (lt_of_le_of_lt (le_trans h hc) hd) (lt_irrefl _)
    rw [Names.hexDigit, if_neg fun hc => beyond (by decide) hc.2,
      if_neg fun hc => beyond (by decide) hc.2, if_neg fun hc => beyond (by decide) hc.2]

theorem not_isSpace_of_keyChar (h : keyChar c = true) : isSpace c = false := by
  by_contra hspace
  rcases isSpace_cases (Bool.not_eq_false _ ▸ hspace) with hc | hc
  · have hall : (spaceChars.all fun d => !keyChar d) = true := by decide
    have hkey := all_eq_true.mp hall c hc
    rw [h] at hkey
    exact absurd hkey Bool.false_ne_true
  · have beyond {d : Char} (hd : d < '\u2000') : ¬c ≤ d := fun hcd =>
      absurd (lt_of_le_of_lt (le_trans hc hcd) hd) (lt_irrefl _)
    delta keyChar Char.isAlphanum Char.isAlpha Char.isUpper Char.isLower Char.isDigit at h
    simp only [Bool.or_eq_true, Bool.and_eq_true, decide_eq_true_eq, beq_iff_eq] at h
    rcases h with (((h | h) | h) | h) | h
    · exact beyond (d := 'Z') (by decide) h.2
    · exact beyond (d := 'z') (by decide) h.2
    · exact beyond (d := '9') (by decide) h.2
    · exact beyond (d := '-') (by decide) (le_of_eq h)
    · exact beyond (d := '.') (by decide) (le_of_eq h)

/-- `trim` leaves out white space only. -/
theorem exists_trim (l : List Char) : ∃ w₀ w, l = w₀ ++ trim l ++ w ∧
    (∀ c ∈ w₀, isSpace c = true) ∧ ∀ c ∈ w, isSpace c = true := by
  have hfront := takeWhile_append_dropWhile (p := isSpace) (l := l)
  have hback := takeWhile_append_dropWhile (p := isSpace) (l := (l.dropWhile isSpace).reverse)
  have hdrop : l.dropWhile isSpace =
      trim l ++ ((l.dropWhile isSpace).reverse.takeWhile isSpace).reverse := by
    have := congrArg reverse hback
    rw [reverse_reverse, reverse_append] at this
    exact this.symm
  refine ⟨l.takeWhile isSpace, ((l.dropWhile isSpace).reverse.takeWhile isSpace).reverse, ?_,
    fun c hc => mem_takeWhile_imp hc, fun c hc => ?_⟩
  · rw [append_assoc, ← hdrop, hfront]
  · exact mem_takeWhile_imp (mem_reverse.mp hc)

theorem not_mem_of_mem_splitOn {α : Type} [DecidableEq α] {x : α} {l part : List α}
    (h : part ∈ l.splitOn x) : x ∉ part := by
  induction l generalizing part with
  | nil =>
    rw [splitOn_nil, mem_singleton] at h
    rw [h]
    exact not_mem_nil
  | cons y l ih =>
    rw [splitOn_cons_eq_if_modifyHead] at h
    split at h
    · rcases mem_cons.mp h with rfl | h
      · exact not_mem_nil
      · exact ih h
    · rename_i hy
      cases hl : l.splitOn x with
      | nil => exact absurd hl (splitOn_ne_nil x l)
      | cons p ps =>
        rw [hl] at h ih
        rcases mem_cons.mp h with rfl | h
        · intro hx
          rcases mem_cons.mp hx with rfl | hx
          · exact hy (beq_self_eq_true _)
          · exact ih mem_cons_self hx
        · exact ih (mem_cons_of_mem p h)

theorem exists_of_intercalate (l₁ l₂ : List (List Char)) (part : List Char) :
    ∃ pre post, [','].intercalate (l₁ ++ part :: l₂) = pre ++ part ++ post ∧
      (pre = [] ∨ ∃ z, pre = z ++ [',']) ∧ (post = [] ∨ ∃ b, post = ',' :: b) := by
  induction l₁ with
  | nil =>
    rw [nil_append]
    by_cases hnil : l₂ = []
    · exact ⟨[], [], by rw [hnil, intercalate_singleton]; simp, .inl rfl, .inl rfl⟩
    · exact ⟨[], ',' :: [','].intercalate l₂,
        by rw [intercalate_cons_of_ne_nil hnil]; simp, .inl rfl, .inr ⟨_, rfl⟩⟩
  | cons p l₁ ih =>
    obtain ⟨pre, post, heq, hpre, hpost⟩ := ih
    refine ⟨p ++ ',' :: pre, post, ?_, .inr ?_, hpost⟩
    · rw [cons_append, intercalate_cons_of_ne_nil (by simp), heq]
      simp
    · rcases hpre with rfl | ⟨z, rfl⟩
      · exact ⟨p, rfl⟩
      · exact ⟨p ++ ',' :: z, by simp⟩

/-- The regular expression matches between two commas, or the whole text is
taken. -/
theorem extractCommonName_cases (header : String) :
    (∃ pre ws c n name post, header.toList = pre ++ ws ++ [c, n] ++ '=' :: (name ++ post) ∧
      (extractCommonName header).toList = trim name ∧ ',' ∉ name ∧ keyChar c = true ∧
      keyChar n = true ∧ (∀ c ∈ ws, isSpace c = true) ∧ (pre = [] ∨ ∃ z, pre = z ++ [',']) ∧
      (post = [] ∨ ∃ b, post = ',' :: b)) ∨
    ((extractCommonName header).toList = trim header.toList ∧
      ∀ part ∈ header.toList.splitOn ',', commonNameAt part = none) := by
  unfold extractCommonName
  dsimp only
  rw [String.toList_ofList]
  cases hfind : (header.toList.splitOn ',').findSome? commonNameAt with
  | none => exact .inr ⟨rfl, findSome?_eq_none_iff.mp hfind⟩
  | some name =>
    left
    obtain ⟨l₁, part, l₂, hsplit, hpart, -⟩ := findSome?_eq_some_iff.mp hfind
    obtain ⟨pre, post, htext, hpre, hpost⟩ := exists_of_intercalate l₁ l₂ part
    have hcomma : ',' ∉ part := not_mem_of_mem_splitOn (by rw [hsplit]; simp)
    rw [← hsplit, intercalate_splitOn] at htext
    have happend := takeWhile_append_dropWhile (p := isSpace) (l := part)
    have hws : ∀ c ∈ part.takeWhile isSpace, isSpace c = true := fun c hc =>
      mem_takeWhile_imp hc
    generalize part.takeWhile isSpace = ws at happend hws
    unfold commonNameAt at hpart
    split at hpart
    · rename_i c n name' hdrop
      split_ifs at hpart with hcn
      obtain rfl := Option.some.inj hpart
      rw [hdrop] at happend
      subst happend
      refine ⟨pre, ws, c, n, name', post, by rw [htext]; simp, rfl, fun h => hcomma (by simp [h]),
        ?_, ?_, hws, hpre, hpost⟩
      · rcases hcn.1 with rfl | rfl <;> decide
      · rcases hcn.2.1 with rfl | rfl <;> decide
    · exact absurd hpart (by simp)

/-! ## The library and the registrations -/

/-- An X.509 library: it reads subjects and prints names by RFC 2253, and may
refuse more than the RFC does. -/
structure NameLibrary where
  schema : Schema
  parse : String → Option Name
  print : Name → String
  parse_reads : ∀ text n, parse text = some n → readName schema text.toList = some n
  print_prints : ∀ text n, parse text = some n → Prints schema n (print n).toList

/-- A registration that has answered with a certificate. -/
structure Registration (lib : NameLibrary) where
  workspaceSlug : String
  params : CsrPayload
  bootstrapToken : Option String
  past : List MtlsEvent
  result : IssuedCertificateResponse
  subject : Name
  /-- `deviceMtlsRegisterPayloadSchema`. -/
  serialNumber_ne : params.serialNumber ≠ ""
  steps : Prog.Steps (registerDevice workspaceSlug params bootstrapToken) past (.ret (.ok result))
  /-- The subject is what the library has made of the text it was handed for the
      certificate. -/
  created : ∃ csrPem text caCertPem caPrivateKeyPem serialHex validityDays notBefore notAfter,
    (⟨.createLeaf csrPem text caCertPem caPrivateKeyPem serialHex validityDays,
      .ok (result.certPem, notBefore, notAfter)⟩ : MtlsEvent) ∈ past ∧ lib.parse text = some subject

variable {lib : NameLibrary}

/-- The accepted serial number. -/
def Registration.serial (r : Registration lib) : String :=
  r.params.serialNumber

/-- The subject as the proxy forwards it. -/
def Registration.header (r : Registration lib) : String :=
  lib.print r.subject

/-- The library prints `CN=s` as it was written, no comma cuts `s` and nothing is
trimmed from it. -/
def NameLibrary.Verbatim (lib : NameLibrary) (s : String) : Prop :=
  ',' ∉ s.toList ∧ trim s.toList = s.toList ∧
    (lib.parse ("CN=" ++ s)).map lib.print = some ("CN=" ++ s)

instance (s : String) : Decidable (lib.Verbatim s) :=
  inferInstanceAs (Decidable (_ ∧ _))

/-! ## The subject of a certificate -/

/-- The subjects that certificates are created with. -/
def SubjectCall (serialNumber : String) : MtlsCall → Prop
  | .createLeaf _ subject .. => subject = "CN=" ++ serialNumber
  | _ => True

theorem subjectCall_signDeviceCsr (p : SignRequest) :
    (signDeviceCsr p).Calls (SubjectCall p.forcedCn) := by
  unfold signDeviceCsr
  refine Calls.bind (Calls.attempt (calls_call trivial)) fun parsed => ?_
  cases parsed with
  | error _ => exact calls_ret _
  | ok _ =>
    refine Calls.bind (calls_call trivial) fun _ =>
      Calls.guard fun _ => ?_
    exact Calls.bind (calls_call rfl) fun _ => calls_ret _

theorem subjectCall_issueLeaf (slug serial csrPem : String) :
    (issueLeaf slug serial csrPem).Calls (SubjectCall serial) := by
  unfold issueLeaf issueCertificateRecord
  refine Calls.bind (calls_call trivial) fun ca => ?_
  cases ca with
  | none => exact calls_ret _
  | some ca =>
    refine Calls.bind (calls_call trivial) fun _ =>
      Calls.bind (subjectCall_signDeviceCsr _) fun leaf =>
        Calls.bind ?_ fun _ => calls_ret _
    exact Calls.bind (calls_call trivial) fun _ =>
      Calls.bind (calls_call trivial) fun _ => calls_ret _

theorem subjectCall_registerDevice (slug : String) (params : CsrPayload)
    (bootstrapToken : Option String) :
    (registerDevice slug params bootstrapToken).Calls (SubjectCall params.serialNumber) := by
  unfold registerDevice verifyGlobalBootstrapToken assertNotAlreadyActive
    assertKnownApplivertyDevice
  refine Calls.bind (Calls.bind (calls_call trivial) fun secret => ?_) fun _ =>
    Calls.bind (Calls.bind (calls_call trivial) fun active => ?_) fun _ =>
      Calls.bind (Calls.bind (calls_call trivial) fun bearer => ?_) fun _ =>
        Calls.bind (subjectCall_issueLeaf _ _ _) fun _ =>
          Calls.bind (calls_call trivial) fun _ => calls_ret _
  · split
    · exact calls_ret _
    · exact Calls.guard fun _ => calls_ret _
  · split
    · exact calls_ret _
    · exact calls_ret _
  · split
    · exact calls_ret _
    · exact Calls.bind (calls_call trivial) fun _ =>
        Calls.guard fun _ => calls_ret _

/-- The library has read `CN=` and the serial number. -/
theorem subject_eq (r : Registration lib) : lib.parse ("CN=" ++ r.serial) = some r.subject := by
  obtain ⟨csrPem, text, caCertPem, caPrivateKeyPem, serialHex, validityDays, notBefore, notAfter,
    hmem, hparse⟩ := r.created
  have htext := (subjectCall_registerDevice _ _ _).of_steps r.steps _ hmem
  rw [← hparse]
  exact congrArg lib.parse htext.symm

/-! ## The name that comes back -/

theorem commonNameAt_key {s : List Char} (hs : s ≠ []) :
    commonNameAt (['C', 'N', '='] ++ s) = some s :=
  if_pos ⟨.inl rfl, .inl rfl, hs⟩

theorem extractCommonName_key {header s : List Char} (h : header = ['C', 'N', '='] ++ s)
    (hcomma : ',' ∉ s) (hs : s ≠ []) :
    (extractCommonName (String.ofList header)).toList = trim s := by
  have hsplit : header.splitOn ',' = [header] := by
    refine splitOn_eq_singleton ?_
    rw [h]
    simpa using hcomma
  unfold extractCommonName
  rw [String.toList_ofList, String.toList_ofList, hsplit, findSome?_cons,
    show commonNameAt header = some s by rw [h, commonNameAt_key hs]]
  rfl

theorem commonNameAt_of_splitOn {rest : List Char} (hc : c ≠ ',') :
    ∃ part ∈ (['C', 'N', '='] ++ c :: rest).splitOn ',', commonNameAt part ≠ none := by
  have hfront : ',' ∉ ['C', 'N', '=', c] := by simpa using hc.symm
  have hsplit := splitOn_append_left hfront rest
  obtain ⟨p, ps, hps⟩ := exists_cons_of_ne_nil (splitOn_ne_nil ',' rest)
  rw [hps] at hsplit
  refine ⟨['C', 'N', '=', c] ++ p, ?_, ?_⟩
  · rw [show ['C', 'N', '='] ++ c :: rest = ['C', 'N', '=', c] ++ rest from rfl, hsplit]
    exact mem_cons_self
  · rw [show ['C', 'N', '=', c] ++ p = ['C', 'N', '='] ++ c :: p from rfl,
      commonNameAt_key (cons_ne_nil c p)]
    exact Option.some_ne_none _

/-- The serial number comes back exactly when it was printed as it was written. -/
theorem extractCommonName_header_iff (r : Registration lib) :
    extractCommonName r.header = r.serial ↔ lib.Verbatim r.serial := by
  have hsubject := subject_eq r
  have hread := lib.parse_reads _ _ hsubject
  have hprint := lib.print_prints _ _ hsubject
  have hserial : r.serial.toList ≠ [] := by
    rw [Ne, String.toList_eq_nil_iff]
    exact r.serialNumber_ne
  rw [String.toList_append, show "CN=".toList = ['C', 'N'] ++ ['='] from rfl, append_assoc,
    singleton_append] at hread
  constructor
  · intro h
    have htrim := congrArg String.toList h
    rcases extractCommonName_cases r.header with
      ⟨pre, ws, c, n, name, post, htext, hname, hcomma, hc, hn, hws, hpre, hpost⟩ | ⟨hname, hnone⟩
    · -- the name stands between commas, and there is room for nothing else
      rw [hname] at htrim
      obtain ⟨w₀, w, hname', hw₀, hw⟩ := exists_trim name
      rw [htrim] at hname'
      obtain ⟨hx, hcn, rfl, rfl, rfl⟩ := @name_rigid lib.schema r.subject ['C', 'N'] [c, n]
        r.serial.toList (pre ++ ws) w₀ w post lib.schema.keyword_cn hread
        (fun hmem => hcomma (by rw [hname']; simp [hmem])) (by
          intro d hd
          rcases mem_cons.mp hd with rfl | hd
          · exact hc
          · rw [mem_singleton.mp hd]
            exact hn) rfl
        (by rw [← hname']; exact htext ▸ hprint) ⟨pre, ws, rfl,
          fun d hd => blankChar_of_isSpace (hws d hd), hpre⟩ hpost
        (fun d hd => blankChar_of_isSpace (hw₀ d hd)) fun d hd => blankChar_of_isSpace (hw d hd)
      rw [nil_append, append_nil] at hname'
      rw [hname'] at hcomma htrim htext
      rw [hx, hcn, append_nil] at htext
      refine ⟨hcomma, htrim, ?_⟩
      rw [hsubject, Option.map_some]
      exact congrArg some (String.toList_injective (by rw [String.toList_append]; exact htext))
    · -- the whole printing has been taken, but it begins with `CN=` and a value
      rw [hname] at htrim
      obtain ⟨w₀, w, hheader, hw₀, hw⟩ := exists_trim r.header.toList
      obtain rfl : w₀ = [] := by
        cases w₀ with
        | nil => rfl
        | cons d w₀ =>
          obtain ⟨c, rest, htext, hc⟩ := head_of_prints lib.schema.keyword_cn hread hprint
          have hd := hw₀ d mem_cons_self
          have hcd : c = d := (List.cons.inj (htext.symm.trans hheader)).1
          rw [← hcd] at hd
          rcases hc with hc | rfl
          · rw [not_isSpace_of_keyChar hc] at hd
            exact absurd hd Bool.false_ne_true
          · exact absurd hd (by decide)
      rw [htrim, nil_append] at hheader
      obtain ⟨c, rest, hkey, hc⟩ := @exists_of_prints_self lib.schema r.subject ['C', 'N']
        r.serial.toList w lib.schema.keyword_cn hread (hheader ▸ hprint)
        fun d hd => blankChar_of_isSpace (hw d hd)
      obtain ⟨part, hpart, hmatch⟩ := @commonNameAt_of_splitOn c rest hc
      rw [hheader, hkey] at hnone
      exact absurd (hnone part hpart) hmatch
  · rintro ⟨hcomma, htrim, hverbatim⟩
    rw [hsubject, Option.map_some] at hverbatim
    have hheader : r.header = String.ofList (['C', 'N', '='] ++ r.serial.toList) := by
      rw [Registration.header, Option.some.inj hverbatim]
      exact String.toList_injective (by simp)
    rw [hheader]
    refine String.toList_injective ?_
    rw [extractCommonName_key rfl hcomma hserial, htrim]

/-- **Main theorem**: the common name that is cut out of the subject of the
certificate is the serial number exactly when the library prints `CN=` and the
serial number as they were written, and there is no comma in the serial number
and no white space around it. Two serial numbers of this kind are kept apart. -/
theorem commonName_exact_iff (lib : NameLibrary) :
    (∀ r : Registration lib, extractCommonName r.header = r.serial ↔ lib.Verbatim r.serial) ∧
    ∀ a b : Registration lib, a.serial ≠ b.serial →
      ((extractCommonName a.header = a.serial ∧ extractCommonName b.header = b.serial ∧
        extractCommonName a.header ≠ extractCommonName b.header) ↔
      lib.Verbatim a.serial ∧ lib.Verbatim b.serial) := by
  refine ⟨extractCommonName_header_iff, fun a b hne => ⟨?_, ?_⟩⟩
  · rintro ⟨ha, hb, -⟩
    exact ⟨(extractCommonName_header_iff a).mp ha, (extractCommonName_header_iff b).mp hb⟩
  · rintro ⟨ha, hb⟩
    have ha' := (extractCommonName_header_iff a).mpr ha
    have hb' := (extractCommonName_header_iff b).mpr hb
    exact ⟨ha', hb', by rwa [ha', hb']⟩

/-- The library with the types of the RFC. -/
def rfcLibrary : NameLibrary where
  schema := rfcSchema
  parse text := readName rfcSchema text.toList
  print n := String.ofList (printName n)
  parse_reads _ _ h := h
  print_prints _ _ h := by
    rw [String.toList_ofList]
    exact prints_printName h

/-- What signing exchanges. -/
def signEvents (p : SignRequest) : List MtlsEvent :=
  [⟨.parseCsr p.csrPem, .ok ()⟩, ⟨.verifyCsr p.csrPem, .ok true⟩,
    ⟨.createLeaf p.csrPem ("CN=" ++ p.forcedCn) p.caCertPem p.caPrivateKeyPem
      (serialToHex p.serialCounter) p.validityDays, .ok ("leaf", 0, 1000)⟩]

/-- What storing a certificate exchanges. -/
def recordEvents (record : CertificateRecord) : List MtlsEvent :=
  [⟨.getCertificateThumbprintHex record.certPem, .ok none⟩,
    ⟨.createCertificate record none, .ok "row"⟩]

/-- What issuing exchanges. -/
def issueEvents (serialNumber : String) : List MtlsEvent :=
  ⟨.getCaForSigning "acme", .ok (some ⟨"ca", "key", 90⟩)⟩ :: ⟨.claimNextSerial "acme", .ok 1⟩ ::
    (signEvents ⟨"csr", serialNumber, "ca", "key", 1, 90⟩ ++
      recordEvents ⟨"acme", serialNumber, serialToHex 1, "leaf", 0, 1000⟩)

/-- What a registration exchanges for a serial number of the fleet. -/
def registrationEvents (serialNumber : String) : List MtlsEvent :=
  ⟨.getGlobalBootstrapToken "acme", .ok (some "token")⟩ ::
    ⟨.findActiveCertificate "acme" serialNumber, .ok none⟩ ::
    ⟨.getAutomationBearer "acme", .ok (some "bearer")⟩ ::
    ⟨.getDevicesFull "bearer" "acme", .ok [serialNumber]⟩ ::
    (issueEvents serialNumber ++
      [⟨.recordAuditEvent "acme" "mtls_device_registered" serialNumber, .ok ()⟩])

theorem steps_signDeviceCsr (p : SignRequest) : Prog.Steps (signDeviceCsr p) (signEvents p)
    (.ret (.ok ⟨"leaf", serialToHex p.serialCounter, 0, 1000⟩)) :=
  .head (.head (.head (.refl _)))

theorem steps_issueCertificateRecord (record : CertificateRecord) :
    Prog.Steps (issueCertificateRecord record) (recordEvents record) (.ret (.ok ())) :=
  .head (.head (.refl _))

theorem steps_issueLeaf (serialNumber : String) :
    Prog.Steps (issueLeaf "acme" serialNumber "csr") (issueEvents serialNumber)
      (.ret (.ok ⟨"leaf", "ca", 1000⟩)) := by
  refine .head (.head ?_)
  show Prog.Steps (signDeviceCsr ⟨"csr", serialNumber, "ca", "key", 1, 90⟩ >>= fun leaf =>
    issueCertificateRecord ⟨"acme", serialNumber, leaf.serialHex, leaf.certPem, leaf.notBefore,
      leaf.notAfter⟩ >>= fun _ =>
      pure (IssuedCertificateResponse.mk leaf.certPem "ca" leaf.notAfter)) _ _
  refine ((steps_signDeviceCsr _).bind _).trans ?_
  rw [Prog.ret_ok_bind]
  dsimp only
  have h := (steps_issueCertificateRecord
    ⟨"acme", serialNumber, serialToHex 1, "leaf", 0, 1000⟩).bind fun _ =>
      pure (IssuedCertificateResponse.mk "leaf" "ca" 1000)
  rw [Prog.ret_ok_bind] at h
  exact h

theorem steps_registerDevice (serial : String) :
    Prog.Steps (registerDevice "acme" ⟨"csr", serial⟩ (some "token"))
      (registrationEvents serial) (.ret (.ok ⟨"leaf", "ca", 1000⟩)) := by
  have hknown : Prog.Steps (assertKnownApplivertyDevice "acme" serial)
      [⟨.getAutomationBearer "acme", .ok (some "bearer")⟩,
        ⟨.getDevicesFull "bearer" "acme", .ok [serial]⟩] (.ret (.ok ())) := by
    refine .head (.head ?_)
    have hcontains : [serial].contains serial = true := by simp
    show Prog.Steps (if [serial].contains serial then pure () else _) [] _
    rw [if_pos hcontains]
    exact .refl _
  refine .head (.head ?_)
  exact (hknown.bind _).trans (((steps_issueLeaf serial).bind _).trans (.head (.refl _)))

/-- A registration of a serial number whose subject the library can read. -/
def acmeRegistration (serialNumber : String) (subject : Name) (hne : serialNumber ≠ "")
    (h : rfcLibrary.parse ("CN=" ++ serialNumber) = some subject) : Registration rfcLibrary where
  workspaceSlug := "acme"
  params := ⟨"csr", serialNumber⟩
  bootstrapToken := some "token"
  past := registrationEvents serialNumber
  result := ⟨"leaf", "ca", 1000⟩
  subject := subject
  serialNumber_ne := hne
  steps := steps_registerDevice serialNumber
  created := ⟨"csr", "CN=" ++ serialNumber, "ca", "key", serialToHex 1, 90, 0, 1000, by
    simp [registrationEvents, issueEvents, signEvents], h⟩

/-- The name of one attribute for each component. -/
def nameOf (avas : List (String × String)) : Name :=
  avas.map fun (type, value) => [⟨type.toList, .text (value.toList.flatMap String.utf8EncodeChar)⟩]

theorem commonName_exact_iff_serials :
    let a := acmeRegistration "SN-0042" (nameOf [("CN", "SN-0042")]) (by decide) (by decide +kernel)
    let b := acmeRegistration "SN-0043" (nameOf [("CN", "SN-0043")]) (by decide) (by decide +kernel)
    extractCommonName a.header = a.serial ∧ extractCommonName b.header = b.serial ∧
      extractCommonName a.header ≠ extractCommonName b.header :=
  ((commonName_exact_iff rfcLibrary).2
    (acmeRegistration "SN-0042" (nameOf [("CN", "SN-0042")]) (by decide) (by decide +kernel))
    (acmeRegistration "SN-0043" (nameOf [("CN", "SN-0043")]) (by decide) (by decide +kernel))
    (show "SN-0042" ≠ "SN-0043" by decide)).mpr
    ⟨(by decide +kernel : rfcLibrary.Verbatim "SN-0042"),
      (by decide +kernel : rfcLibrary.Verbatim "SN-0043")⟩

/-- A comma in a serial number ends the common name, and what follows becomes an
attribute of its own: the device shares its name with the one that has the
first part as its serial number. -/
theorem spliced_serial_shortened :
    let a := acmeRegistration "A,O=B" (nameOf [("CN", "A"), ("O", "B")]) (by decide)
      (by decide +kernel)
    let b := acmeRegistration "A" (nameOf [("CN", "A")]) (by decide) (by decide +kernel)
    a.serial ≠ b.serial ∧ extractCommonName a.header ≠ a.serial ∧
      extractCommonName a.header = "A" ∧ extractCommonName b.header = "A" := by
  refine ⟨?_, ?_, ?_, ?_⟩
  · show "A,O=B" ≠ "A"
    decide
  · show extractCommonName (String.ofList (printName (nameOf [("CN", "A"), ("O", "B")]))) ≠ "A,O=B"
    decide +kernel
  · show extractCommonName (String.ofList (printName (nameOf [("CN", "A"), ("O", "B")]))) = "A"
    decide +kernel
  · show extractCommonName (String.ofList (printName (nameOf [("CN", "A")]))) = "A"
    decide +kernel

end AppliverySoar.Mtls
