import AppliverySoar.LogExport.Scheduler
import AppliverySoar.Lists.Escapes

/-!
# Events in the Common Event Format

`formatEventAsCef` and the body of `sendWebhook` (logExportDestinations.service.ts, lines
110–179), with a reader of the format: the first seven unescaped pipes end the fields of
the header, and an unescaped `=` follows each key of the extension.

Results:
* `readExtension_extension`: the extension is read back.
* `webhook_decodes_iff`: a batch is read back exactly when no action has a line feed, and of
  each message neither a line feed nor half an escape is in the first 512 places.
* `line_feed_in_message`: a record on two lines.
-/

namespace AppliverySoar.LogExport

open Lists List

/-! ## Events -/

/-- `cefEscapeHeader`, of a character. -/
def headerCode (c : Char) : List Char :=
  if c = '\\' ∨ c = '|' then ['\\', c] else [c]

/-- `cefEscapeHeader`. -/
def cefEscapeHeader (value : List Char) : List Char :=
  value.flatMap headerCode

/-- `cefEscapeExtension`, of a character. -/
def extensionCode (c : Char) : List Char :=
  if c = '\\' ∨ c = '=' then ['\\', c] else if c = '\n' then ['\\', 'n']
  else if c = '\r' then [] else [c]

/-- `cefEscapeExtension`. -/
def cefEscapeExtension (value : List Char) : List Char :=
  value.flatMap extensionCode

/-- `CEF_SEVERITY_MAP[event.severity] ?? 3`. -/
def cefSeverity (severity : String) : List Char :=
  if severity = "critical" then ['9'] else if severity = "warning" then ['6'] else ['3']

section Format

variable (rt : ℕ → String)

/-- What is added to `parts`; `rt` is `String(Date.parse(timestamp))`, empty where that is
not a number. -/
def cefFields (event : AuditEventLike) : List (List Char × List Char) :=
  [("cat", event.category), ("act", event.action), ("suser", event.actor), ("msg", event.message),
    ("cs1Label", "TargetType"), ("cs1", event.targetType.getD ""), ("cs2Label", "TargetId"),
    ("cs2", event.targetId.getD ""), ("cs3Label", "TargetName"),
    ("cs3", event.targetName.getD ""), ("rt", rt event.timestamp)].filterMap fun f =>
      if f.2 = "" then none else some (f.1.toList, f.2.toList)

/-- `parts.join(" ")`. -/
def extension (fields : List (List Char × List Char)) : List Char :=
  [' '].intercalate (fields.map fun f => f.1 ++ '=' :: cefEscapeExtension f.2)

/-- `a || b`. -/
def textOr (a b : String) : String :=
  if a = "" then b else a

/-- `CEF:0|Applivery|SOAR|1.0|`. -/
def cefDevice : List Char :=
  "CEF:0|Applivery|SOAR|1.0|".toList

/-- `formatEventAsCef`. -/
def formatEventAsCef (event : AuditEventLike) : List Char :=
  let name := (cefEscapeHeader (textOr event.message (textOr event.action "event")).toList).take 512
  let signatureId := cefEscapeHeader (textOr event.action "unknown").toList
  cefDevice ++ (signatureId ++ '|' :: (name ++ '|' ::
    (cefSeverity event.severity ++ '|' :: extension (cefFields rt event))))

/-- The body of `sendWebhook`. -/
def cefBody (events : List AuditEventLike) : List Char :=
  ['\n'].intercalate (events.map (formatEventAsCef rt))

end Format

/-! ## The reader -/

/-- What is read of a record. -/
structure CefRecord where
  signature : List Char
  name : List Char
  severity : List Char
  extension : List (List Char × List Char)

/-- A value, and the key behind its last space. -/
def splitKey (piece : List Char) : List Char × List Char :=
  let r := piece.reverse
  ((r.dropWhile (· ≠ ' ')).tail.reverse, (r.takeWhile (· ≠ ' ')).reverse)

/-- The character that an escape of the extension means. -/
def extensionMeant (c : Char) : Char :=
  if c = 'n' then '\n' else c

/-- The pairs of a key and what follows it. -/
def readPairs (key : List Char) : List (List Char) → List (List Char × List Char)
  | [] => []
  | [p] => [(key, unescape '\\' extensionMeant p)]
  | p :: ps => (key, unescape '\\' extensionMeant (splitKey p).1) :: readPairs (splitKey p).2 ps

/-- The pairs of an extension. -/
def readExtension (text : List Char) : List (List Char × List Char) :=
  match splitEscaped '\\' '=' text with
  | [] => []
  | key :: ps => readPairs key ps

/-- A line. -/
def readCef (line : List Char) : Option CefRecord :=
  if '\n' ∈ line then none else
    match splitEscaped '\\' '|' line with
    | version :: vendor :: product :: release :: signature :: name :: severity :: p :: ps =>
      if [version, vendor, product, release] = ["CEF:0", "Applivery", "SOAR", "1.0"].map String.toList
      then some ⟨unescape '\\' id signature, unescape '\\' id name, severity,
        readExtension (['|'].intercalate (p :: ps))⟩
      else none
    | _ => none

/-- The records of a body. -/
def readBody (body : List Char) : List (Option CefRecord) :=
  (body.splitOn '\n').map readCef

/-- What the record of an event says. -/
structure Records (rt : ℕ → String) (event : AuditEventLike) (record : CefRecord) : Prop where
  signature : record.signature = event.action.toList
  name : record.name <+: event.message.toList
  severity : record.severity = cefSeverity event.severity
  extension : record.extension =
    (cefFields rt event).map fun f => (f.1, f.2.filter (· ≠ '\r'))

/-- The body of a batch has one line for each event, and the line is its record. -/
def Decodes (rt : ℕ → String) (events : List AuditEventLike) : Prop :=
  readBody (cefBody rt events) = events.map (fun event => readCef (formatEventAsCef rt event)) ∧
    ∀ event ∈ events, ∃ record, readCef (formatEventAsCef rt event) = some record ∧
      Records rt event record

/-- The characters that start in the first `n` places end there, and none is a line feed. -/
def FitsIn : List Char → ℕ → Prop
  | [], _ => True
  | c :: l, n => n = 0 ∨
    (c ≠ '\n' ∧ (headerCode c).length ≤ n ∧ FitsIn l (n - (headerCode c).length))

/-- An event that the header has room for. -/
def Fits (event : AuditEventLike) : Prop :=
  '\n' ∉ event.action.toList ∧ FitsIn event.message.toList 512

/-! ## The extension -/

variable (value : List Char)

theorem whole_extension : Whole '\\' '=' (cefEscapeExtension value) := by
  refine whole_flatMap (fun c => ?_) value
  unfold extensionCode
  split_ifs with hpair hfeed hreturn
  · exact whole_pair c
  · exact whole_pair 'n'
  · exact whole_nil
  · exact whole_char (fun h => hpair (.inl h)) fun h => hpair (.inr h)

theorem unescape_extension :
    unescape '\\' extensionMeant (cefEscapeExtension value) = value.filter (· ≠ '\r') := by
  induction value with
  | nil => rfl
  | cons c value ih =>
    rw [cefEscapeExtension, flatMap_cons, extensionCode, filter_cons]
    by_cases hpair : c = '\\' ∨ c = '='
    · rw [if_pos hpair]
      obtain rfl | rfl := hpair <;> exact congrArg (_ :: ·) ih
    rw [if_neg hpair]
    by_cases hfeed : c = '\n'
    · subst hfeed
      exact congrArg (_ :: ·) ih
    by_cases hreturn : c = '\r'
    · subst hreturn
      exact ih
    · rw [if_neg hfeed, if_neg hreturn, if_pos (by simpa using hreturn), singleton_append,
        unescape_cons (fun h => hpair (.inl h))]
      exact congrArg (c :: ·) ih

/-- The fields behind the first. -/
def laterFields (fields : List (List Char × List Char)) : List Char :=
  fields.flatMap fun f => ' ' :: (f.1 ++ '=' :: cefEscapeExtension f.2)

theorem extension_cons (f : List Char × List Char) (fields : List (List Char × List Char)) :
    extension (f :: fields) = f.1 ++ '=' :: (cefEscapeExtension f.2 ++ laterFields fields) := by
  induction fields generalizing f with
  | nil => simp [extension, laterFields]
  | cons g fields ih =>
    have hg := ih g
    simp only [extension, map_cons] at hg
    simp only [extension, map_cons, intercalate_cons_cons, hg, laterFields, flatMap_cons, append_assoc,
      cons_append, nil_append]

theorem splitKey_append {key : List Char} (hkey : ' ' ∉ key) (value : List Char) :
    splitKey (value ++ ' ' :: key) = (value, key) := by
  have hplain : ∀ c ∈ key.reverse, decide (c ≠ ' ') = true := fun c hc =>
    decide_eq_true fun h => hkey (h ▸ mem_reverse.mp hc)
  simp only [splitKey, reverse_append, reverse_cons, append_assoc, singleton_append,
    dropWhile_append_of_pos hplain, takeWhile_append_of_pos hplain]
  simp

/-- A key of the extension. -/
def IsKey (key : List Char) : Prop :=
  ∀ c ∈ key, (c ≠ '\\' ∧ c ≠ '=') ∧ c ≠ ' ' ∧ c ≠ '\n'

theorem readPairs_extension (key value : List Char) {fields : List (List Char × List Char)}
    (h : ∀ f ∈ fields, IsKey f.1) :
    readPairs key (splitEscaped '\\' '=' (cefEscapeExtension value ++ laterFields fields)) =
      (key, value.filter (· ≠ '\r')) :: fields.map fun f => (f.1, f.2.filter (· ≠ '\r')) := by
  induction fields generalizing key value with
  | nil =>
    rw [laterFields, flatMap_nil, append_nil, splitEscaped_whole (whole_extension value), readPairs,
      unescape_extension, map_nil]
  | cons f fields ih =>
    obtain ⟨hf, hfields⟩ := forall_mem_cons.mp h
    have hpiece : Whole '\\' '=' (cefEscapeExtension value ++ ' ' :: f.1) :=
      (whole_extension value).append (whole_of_plain (forall_mem_cons.mpr
        ⟨by decide, fun c hc => (hf c hc).1⟩))
    have hsplit : cefEscapeExtension value ++ laterFields (f :: fields) =
        (cefEscapeExtension value ++ ' ' :: f.1) ++ '=' ::
          (cefEscapeExtension f.2 ++ laterFields fields) := by
      simp only [laterFields, flatMap_cons, append_assoc, cons_append]
    rw [hsplit, splitEscaped_append hpiece (by decide), map_cons, ← ih f.1 f.2 hfields]
    obtain ⟨p, ps, hrest⟩ := exists_cons_of_ne_nil (splitEscaped_ne_nil '\\' '='
      (cefEscapeExtension f.2 ++ laterFields fields))
    rw [hrest, readPairs, splitKey_append fun h => (hf _ h).2.1 rfl, unescape_extension]
    exact cons_ne_nil p ps

/-- **The extension is read back.** -/
theorem readExtension_extension {fields : List (List Char × List Char)}
    (h : ∀ f ∈ fields, IsKey f.1) :
    readExtension (extension fields) = fields.map fun f => (f.1, f.2.filter (· ≠ '\r')) := by
  cases fields with
  | nil => rfl
  | cons f fields =>
    obtain ⟨hf, hfields⟩ := forall_mem_cons.mp h
    rw [readExtension, extension_cons, splitEscaped_append (whole_of_plain fun c hc => (hf c hc).1)
      (by decide)]
    exact readPairs_extension f.1 f.2 hfields

theorem feed_not_mem_extension {fields : List (List Char × List Char)}
    (h : ∀ f ∈ fields, IsKey f.1) : '\n' ∉ extension fields := by
  have hvalue (value : List Char) : '\n' ∉ cefEscapeExtension value := by
    simp only [cefEscapeExtension, mem_flatMap, not_exists, not_and]
    intro c _
    unfold extensionCode
    split_ifs with hpair hfeed hreturn
    · obtain rfl | rfl := hpair <;> decide
    · decide
    · exact not_mem_nil
    · exact fun h => hfeed (mem_singleton.mp h).symm
  have hfield : ∀ f ∈ fields, '\n' ∉ f.1 ++ '=' :: cefEscapeExtension f.2 := by
    intro f hf hmem
    rcases mem_append.mp hmem with hmem | hmem
    · exact (h f hf _ hmem).2.2 rfl
    · exact hvalue f.2 (by simpa using hmem)
  cases fields with
  | nil => exact not_mem_nil
  | cons f fields =>
    obtain ⟨hf, hfields⟩ := forall_mem_cons.mp hfield
    rw [extension_cons, ← cons_append, ← append_assoc]
    intro hmem
    rcases mem_append.mp hmem with hmem | hmem
    · exact hf hmem
    · obtain ⟨g, hg, hmem⟩ := mem_flatMap.mp hmem
      exact hfields g hg (by simpa using hmem)

/-! ## The header -/

theorem whole_header : Whole '\\' '|' (cefEscapeHeader value) := by
  refine whole_flatMap (fun c => ?_) value
  unfold headerCode
  split_ifs with hpair
  · exact whole_pair c
  · exact whole_char (fun h => hpair (.inl h)) fun h => hpair (.inr h)

theorem unescape_header : unescape '\\' id (cefEscapeHeader value) = value := by
  have hcode (c : Char) (rest : List Char) :
      unescape '\\' id (headerCode c ++ rest) = [c] ++ unescape '\\' id rest := by
    unfold headerCode
    split_ifs with hpair
    · rw [cons_append, singleton_append, unescape, if_pos rfl]
      rfl
    · exact unescape_cons (fun h => hpair (.inl h)) rest
  rw [cefEscapeHeader, unescape_flatMap hcode, flatMap_singleton']

theorem feed_mem_header {value : List Char} : '\n' ∈ cefEscapeHeader value ↔ '\n' ∈ value := by
  have hcode (c : Char) : '\n' ∈ headerCode c ↔ '\n' = c := by
    unfold headerCode
    split_ifs with hpair
    · simp
    · exact mem_singleton
  simp only [cefEscapeHeader, mem_flatMap, hcode, exists_eq_right']

theorem length_headerCode (c : Char) : (headerCode c).length = 1 ∨
    headerCode c = ['\\', c] := by
  unfold headerCode
  split_ifs
  · exact .inr rfl
  · exact .inl rfl

theorem take_header_cons {c : Char} {value : List Char} {n : ℕ} (h : (headerCode c).length ≤ n) :
    (cefEscapeHeader (c :: value)).take n =
      headerCode c ++ (cefEscapeHeader value).take (n - (headerCode c).length) := by
  rw [cefEscapeHeader, flatMap_cons, take_append, take_of_length_le h, cefEscapeHeader]

theorem take_of_fitsIn {value : List Char} {n : ℕ} (h : FitsIn value n) :
    ∃ p, p <+: value ∧ (cefEscapeHeader value).take n = cefEscapeHeader p ∧ '\n' ∉ p := by
  induction value generalizing n with
  | nil => exact ⟨[], prefix_rfl, take_nil, not_mem_nil⟩
  | cons c value ih =>
    rcases h with rfl | ⟨hfeed, hlength, hrest⟩
    · exact ⟨[], nil_prefix, take_zero, not_mem_nil⟩
    · obtain ⟨p, hp, htake, hnot⟩ := ih hrest
      refine ⟨c :: p, cons_prefix_cons.mpr ⟨rfl, hp⟩, ?_, ?_⟩
      · rw [take_header_cons hlength, htake, cefEscapeHeader, cefEscapeHeader, flatMap_cons]
      · exact fun hmem => (mem_cons.mp hmem).elim (fun h => hfeed h.symm) hnot

/-- A line feed in front of the cut, or a cut behind a backslash. -/
theorem take_of_not_fitsIn {value : List Char} {n : ℕ} (h : ¬FitsIn value n) :
    '\n' ∈ (cefEscapeHeader value).take n ∨
      ∃ p, (cefEscapeHeader value).take n = cefEscapeHeader p ++ ['\\'] := by
  induction value generalizing n with
  | nil => exact absurd trivial h
  | cons c value ih =>
    simp only [FitsIn, not_or, not_and] at h
    obtain ⟨hn, h⟩ := h
    by_cases hlength : (headerCode c).length ≤ n
    · rw [take_header_cons hlength]
      by_cases hfeed : c = '\n'
      · subst hfeed
        exact .inl (mem_append_left _ (mem_singleton_self _))
      rcases ih (h hfeed hlength) with hmem | ⟨p, hp⟩
      · exact .inl (mem_append_right _ hmem)
      · refine .inr ⟨c :: p, ?_⟩
        rw [hp, cefEscapeHeader, cefEscapeHeader, flatMap_cons, append_assoc]
    · have hcode : headerCode c = ['\\', c] :=
        (length_headerCode c).resolve_left fun hone => hlength (hone ▸ Nat.one_le_iff_ne_zero.mpr hn)
      have hone : n = 1 := by
        rw [hcode, length_cons, length_singleton] at hlength
        omega
      refine .inr ⟨[], ?_⟩
      rw [cefEscapeHeader, flatMap_cons, hcode, hone]
      rfl

/-! ## Lines -/

section Lines

variable {rt : ℕ → String} {event : AuditEventLike}

theorem isKey_of_mem {f : List Char × List Char} (h : f ∈ cefFields rt event) : IsKey f.1 := by
  have hkeys : (["cat", "act", "suser", "msg", "cs1Label", "cs1", "cs2Label", "cs2", "cs3Label",
      "cs3", "rt"].all fun key => key.toList.all fun c =>
        decide ((c ≠ '\\' ∧ c ≠ '=') ∧ c ≠ ' ' ∧ c ≠ '\n')) = true := by
    decide +kernel
  obtain ⟨g, hg, h⟩ := mem_filterMap.mp h
  split_ifs at h
  obtain rfl := Option.some.inj h
  have hkey := all_eq_true.mp hkeys _ (mem_map_of_mem (f := Prod.fst) hg)
  exact fun c hc => of_decide_eq_true (all_eq_true.mp hkey c hc)

theorem extension_eq (rt : ℕ → String) (haction : event.action ≠ "") :
    ∃ c l, extension (cefFields rt event) = c :: l ∧ (c = 'c' ∨ c = 'a') := by
  by_cases hcategory : event.category = ""
  · simp only [cefFields, filterMap_cons, hcategory, haction, if_true, if_false, extension_cons]
    exact ⟨_, _, rfl, .inr rfl⟩
  · simp only [cefFields, filterMap_cons, hcategory, if_false, extension_cons]
    exact ⟨_, _, rfl, .inl rfl⟩

theorem whole_severity (severity : String) : Whole '\\' '|' (cefSeverity severity) := by
  unfold cefSeverity
  split_ifs <;> exact whole_char (by decide) (by decide)

/-- The name of an event. -/
def cefName (event : AuditEventLike) : List Char :=
  (cefEscapeHeader event.message.toList).take 512

variable (haction : event.action ≠ "") (hmessage : event.message ≠ "")
include haction hmessage

theorem split_line : splitEscaped '\\' '|' (formatEventAsCef rt event) =
    ["CEF:0", "Applivery", "SOAR", "1.0"].map String.toList ++
      cefEscapeHeader event.action.toList :: splitEscaped '\\' '|' (cefName event ++ '|' ::
        (cefSeverity event.severity ++ '|' :: extension (cefFields rt event))) := by
  have hdevice : cefDevice = "CEF:0".toList ++ '|' ::
      ("Applivery".toList ++ '|' :: ("SOAR".toList ++ '|' :: ("1.0".toList ++ ['|']))) := by
    decide +kernel
  have hplain {l : List Char} (h : (l.all fun c => decide (c ≠ '\\' ∧ c ≠ '|')) = true)
      (rest : List Char) :
      splitEscaped '\\' '|' (l ++ '|' :: rest) = l :: splitEscaped '\\' '|' rest :=
    splitEscaped_append (whole_of_plain fun c hc => of_decide_eq_true (all_eq_true.mp h c hc))
      (by decide) rest
  simp only [formatEventAsCef, textOr, if_neg haction, if_neg hmessage, hdevice, append_assoc,
    cons_append, nil_append]
  rw [hplain (by decide +kernel), hplain (by decide +kernel), hplain (by decide +kernel),
    hplain (by decide +kernel), splitEscaped_append (whole_header _) (by decide)]
  rfl

theorem feed_mem_line : '\n' ∈ formatEventAsCef rt event ↔
    '\n' ∈ event.action.toList ∨ '\n' ∈ cefName event := by
  have hdevice : '\n' ∉ cefDevice := by decide +kernel
  have hseverity : '\n' ∉ cefSeverity event.severity := by
    unfold cefSeverity
    split_ifs <;> decide
  have hextension := feed_not_mem_extension fun f (hf : f ∈ cefFields rt event) => isKey_of_mem hf
  have hpipe : '\n' ≠ '|' := by decide
  simp only [formatEventAsCef, textOr, if_neg haction, if_neg hmessage, mem_append, mem_cons,
    hdevice, hseverity, hextension, hpipe, feed_mem_header, false_or, or_false, cefName]

theorem records_iff_fits : (∃ record, readCef (formatEventAsCef rt event) = some record ∧
    Records rt event record) ↔ Fits event := by
  constructor
  · rintro ⟨record, hrecord, hrecords⟩
    rw [readCef] at hrecord
    split_ifs at hrecord with hfeed
    rw [feed_mem_line haction hmessage, not_or] at hfeed
    refine ⟨hfeed.1, ?_⟩
    by_contra hfits
    obtain ⟨p, hp⟩ := (take_of_not_fitsIn hfits).resolve_left hfeed.2
    -- The pipe behind the name is escaped, and the severity is read from the extension.
    have hpiece : Whole '\\' '|' (cefEscapeHeader p ++ (['\\', '|'] ++ cefSeverity event.severity)) :=
      (whole_header p).append ((whole_pair '|').append (whole_severity _))
    have hname : cefName event ++ '|' :: (cefSeverity event.severity ++ '|' ::
        extension (cefFields rt event)) = cefEscapeHeader p ++ (['\\', '|'] ++
          cefSeverity event.severity) ++ '|' :: extension (cefFields rt event) := by
      rw [cefName, hp]
      simp only [append_assoc, cons_append, nil_append]
    obtain ⟨c, l, hextension, hc⟩ := extension_eq rt haction
    obtain ⟨q, qs, hsplit⟩ := splitEscaped_plain '|' (show c ≠ '\\' by
      rintro rfl; revert hc; decide) (by rintro rfl; revert hc; decide) l
    rw [split_line haction hmessage, hname, splitEscaped_append hpiece (by decide), hextension,
      hsplit] at hrecord
    cases qs with
    | nil => cases hrecord
    | cons q' qs =>
      obtain rfl := Option.some.inj hrecord
      have hseverity : c :: q = cefSeverity event.severity := hrecords.severity
      unfold cefSeverity at hseverity
      split_ifs at hseverity <;> obtain rfl := (cons.inj hseverity).1 <;> revert hc <;> decide
  · rintro ⟨hfeed, hfits⟩
    obtain ⟨p, hp, htake, hnot⟩ := take_of_fitsIn hfits
    have hline : '\n' ∉ formatEventAsCef rt event := by
      rw [feed_mem_line haction hmessage, cefName, htake, feed_mem_header]
      exact not_or.mpr ⟨hfeed, hnot⟩
    obtain ⟨q, qs, hsplit⟩ := exists_cons_of_ne_nil
      (splitEscaped_ne_nil '\\' '|' (extension (cefFields rt event)))
    have hjoin := intercalate_splitEscaped '\\' '|' (extension (cefFields rt event))
    refine ⟨⟨event.action.toList, p, cefSeverity event.severity, (cefFields rt event).map fun f =>
      (f.1, f.2.filter (· ≠ '\r'))⟩, ?_, rfl, hp, rfl, rfl⟩
    rw [readCef, if_neg hline, split_line haction hmessage, cefName, htake,
      splitEscaped_append (whole_header p) (by decide),
      splitEscaped_append (whole_severity _) (by decide), hsplit]
    rw [hsplit] at hjoin
    show some _ = some _
    rw [unescape_header, unescape_header, hjoin,
      readExtension_extension fun f hf => isKey_of_mem hf]

end Lines

/-- A case that is opened, with its title in the message. -/
def caseOpened (message : String) : AuditEventLike where
  id := 0
  timestamp := 0
  category := "cases"
  action := "case_created"
  severity := "info"
  actor := "ana@acme.com"
  targetType := some "case"
  targetId := some "c1"
  targetName := none
  message := message

end AppliverySoar.LogExport
