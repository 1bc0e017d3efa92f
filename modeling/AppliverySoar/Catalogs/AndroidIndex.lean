import AppliverySoar.Catalogs.VulnSources
import Mathlib.Data.List.Forall2

/-!
# The index of the Android bulletins

`indexByMajorVersion` (osvAndroidService.ts, lines 139–176) makes one row for each major
version and CVE of a dump of bulletin entries. A row is replaced only by one with a later
patch level, so among those with the latest level the first one stays.

Results:
* `rowAt_latest`: a row is one of the pair's occurrences, and none of these has a later level.
* `index_reordered`: what does not depend on the order of the dump.
-/

namespace AppliverySoar.Catalogs.OsvAndroid

open Js List Option

/-! ## Model -/

/-- `affected.ecosystem_specific`. -/
structure EcosystemSpecific where
  severity : Option String := none
  spl : Option String := none

/-- An element of `entry.affected`; `ecosystem` is that of its package. -/
structure Affected where
  ecosystem : Option String := none
  versions : Option (List String) := none
  ecosystemSpecific : Option EcosystemSpecific := none

structure OsvAndroidEntry where
  id : String
  aliases : Option (List String) := none
  affected : Option (List Affected) := none

inductive Severity
  | critical
  | high
  | medium
  | low
  deriving DecidableEq

/-- A row of the index; the properties that are the same in all rows are left out. -/
structure Row where
  id : String
  severity : Option Severity
  fixedIn : Option String
  asbId : String
  deriving DecidableEq

/-- `CVE_ID_RE`. -/
def isCveId (s : String) : Bool :=
  let year := (s.toList.drop 4).take 4
  let number := s.toList.drop 9
  (s.toList.take 4).map Char.toUpper = ['C', 'V', 'E', '-'] &&
    (year.length = 4 && year.all Char.isDigit) && (s.toList.drop 8).head? = some '-' &&
    (4 ≤ number.length && number.all Char.isDigit)

section Index

variable (toUpperCase : String → String)

/-- `mapSeverity` (lines 121–128). -/
def mapSeverity (raw : Option String) : Option Severity :=
  let s := toUpperCase (String.ofList (trim (raw.getD "").toList))
  if s = "CRITICAL" then some .critical
  else if s = "HIGH" then some .high
  else if s = "MODERATE" ∨ s = "MEDIUM" then some .medium
  else if s = "LOW" then some .low
  else none

/-- `cveId`, unless the entry is passed over (lines 144–145). -/
def cveIdOf (entry : OsvAndroidEntry) : Option String :=
  (((entry.aliases.getD []).find? isCveId).map toUpperCase).filter fun cveId => cveId ≠ ""

/-- The row of lines 165–168. -/
def rowOf (entry : OsvAndroidEntry) (affected : Affected) (cveId : String) : Row where
  id := cveId
  severity := mapSeverity toUpperCase (affected.ecosystemSpecific.bind EcosystemSpecific.severity)
  fixedIn := affected.ecosystemSpecific.bind EcosystemSpecific.spl
  asbId := entry.id

/-- `version.split("-")[0]`. -/
def majorVersion (version : String) : String :=
  String.ofList (version.toList.takeWhile fun c => c ≠ '-')

/-- The patch level of a row, empty where it has none. -/
def Row.level (r : Row) : String :=
  r.fixedIn.getD ""

/-- `!existing || (spl && (!existing.fixed_in || spl > existing.fixed_in))`, and the row that is
then set. -/
def replace (existing : Option Row) (row : Row) : Option Row :=
  match existing with
  | none => some row
  | some e =>
    if row.level ≠ "" ∧ (e.level = "" ∨ units e.level < units row.level) then some row else none

/-- One version of an affected block (lines 149–170). -/
def visitVersion (row : Row) (byVersion : OrderedMap (OrderedMap Row)) (version : String) :
    OrderedMap (OrderedMap Row) :=
  if majorVersion version = "" then byVersion
  else
    let byId := (byVersion.get (majorVersion version)).getD .empty
    byVersion.set (majorVersion version) (byId.visit Row.id replace row)

/-- One affected block (lines 146–171). -/
def visitAffected (entry : OsvAndroidEntry) (cveId : String)
    (byVersion : OrderedMap (OrderedMap Row)) (affected : Affected) :
    OrderedMap (OrderedMap Row) :=
  if affected.ecosystem = some "Android" then
    (affected.versions.getD []).foldl (visitVersion (rowOf toUpperCase entry affected cveId))
      byVersion
  else byVersion

/-- One entry (lines 143–172). -/
def visitEntry (byVersion : OrderedMap (OrderedMap Row)) (entry : OsvAndroidEntry) :
    OrderedMap (OrderedMap Row) :=
  match cveIdOf toUpperCase entry with
  | none => byVersion
  | some cveId =>
    (entry.affected.getD []).foldl (visitAffected toUpperCase entry cveId) byVersion

def indexByMajorVersion (entries : List OsvAndroidEntry) : OrderedMap (OrderedMap Row) :=
  entries.foldl (visitEntry toUpperCase) .empty

end Index

/-- The row of a major version and a CVE. -/
def rowAt (index : OrderedMap (OrderedMap Row)) (major cveId : String) : Option Row :=
  (index.get major).bind fun byId => byId.get cveId

/-! ## Occurrences -/

/-- The pairs of a dump, each with the row that is made of it. -/
def Occurs (toUpperCase : String → String) (entries : List OsvAndroidEntry) (major : String)
    (row : Row) : Prop :=
  major ≠ "" ∧ ∃ entry ∈ entries, ∃ cveId, cveIdOf toUpperCase entry = some cveId ∧
    ∃ affected ∈ entry.affected.getD [], affected.ecosystem = some "Android" ∧
      row = rowOf toUpperCase entry affected cveId ∧
      ∃ version ∈ affected.versions.getD [], majorVersion version = major

section Occurrences

variable (toUpperCase : String → String)

/-- The occurrences of a block, in the order in which the loop reaches them. -/
def blockOccurrences (entry : OsvAndroidEntry) (cveId : String) (affected : Affected) :
    List (String × Row) :=
  if affected.ecosystem = some "Android" then
    (((affected.versions.getD []).map majorVersion).filter fun major => major ≠ "").map fun major =>
      (major, rowOf toUpperCase entry affected cveId)
  else []

/-- Those of an entry. -/
def entryOccurrences (entry : OsvAndroidEntry) : List (String × Row) :=
  match cveIdOf toUpperCase entry with
  | none => []
  | some cveId => (entry.affected.getD []).flatMap (blockOccurrences toUpperCase entry cveId)

/-- Those of a dump. -/
def occurrences (entries : List OsvAndroidEntry) : List (String × Row) :=
  entries.flatMap (entryOccurrences toUpperCase)

theorem mem_occurrences {entries : List OsvAndroidEntry} {major : String} {row : Row} :
    (major, row) ∈ occurrences toUpperCase entries ↔ Occurs toUpperCase entries major row := by
  constructor
  · intro h
    obtain ⟨entry, hentry, h⟩ := mem_flatMap.mp h
    unfold entryOccurrences at h
    cases hcve : cveIdOf toUpperCase entry with
    | none =>
      rw [hcve] at h
      cases h
    | some cveId =>
      rw [hcve] at h
      obtain ⟨affected, haffected, h⟩ := mem_flatMap.mp h
      unfold blockOccurrences at h
      by_cases hecosystem : affected.ecosystem = some "Android"
      · rw [if_pos hecosystem] at h
        obtain ⟨m, hm, heq⟩ := mem_map.mp h
        obtain ⟨hversion, hne⟩ := mem_filter.mp hm
        obtain ⟨version, hmem, hmajor⟩ := mem_map.mp hversion
        cases heq
        exact ⟨of_decide_eq_true hne, entry, hentry, cveId, hcve, affected, haffected, hecosystem,
          rfl, version, hmem, hmajor⟩
      · rw [if_neg hecosystem] at h
        cases h
  · rintro ⟨hne, entry, hentry, cveId, hcve, affected, haffected, hecosystem, rfl, version, hmem,
      hmajor⟩
    refine mem_flatMap.mpr ⟨entry, hentry, ?_⟩
    unfold entryOccurrences
    rw [hcve]
    refine mem_flatMap.mpr ⟨affected, haffected, ?_⟩
    unfold blockOccurrences
    rw [if_pos hecosystem]
    exact mem_map.mpr ⟨major, mem_filter.mpr
      ⟨mem_map.mpr ⟨version, hmem, hmajor⟩, decide_eq_true hne⟩, rfl⟩

/-! ## The loops as one -/

/-- The rows of a major version, after an occurrence. -/
def intoMajor (byId : Option (OrderedMap Row)) (o : String × Row) : Option (OrderedMap Row) :=
  some ((byId.getD .empty).visit (fun o => o.2.id) (fun existing o => replace existing o.2) o)

/-- One turn of the loop, for one occurrence. -/
def visitOccurrence (byVersion : OrderedMap (OrderedMap Row)) (o : String × Row) :
    OrderedMap (OrderedMap Row) :=
  byVersion.visit Prod.fst intoMajor o

theorem foldl_visitVersion (row : Row) (versions : List String)
    (byVersion : OrderedMap (OrderedMap Row)) :
    versions.foldl (visitVersion row) byVersion =
      (((versions.map majorVersion).filter fun major => major ≠ "").map fun major =>
        (major, row)).foldl visitOccurrence byVersion := by
  induction versions generalizing byVersion with
  | nil => rfl
  | cons version versions ih =>
    rw [foldl_cons, ih, map_cons]
    unfold visitVersion
    by_cases hempty : majorVersion version = ""
    · rw [if_pos hempty, filter_cons_of_neg (by simp [hempty])]
    · rw [if_neg hempty, filter_cons_of_pos (by simp [hempty]), map_cons,
        foldl_cons]
      rfl

theorem visitAffected_eq (entry : OsvAndroidEntry) (cveId : String)
    (byVersion : OrderedMap (OrderedMap Row)) (affected : Affected) :
    visitAffected toUpperCase entry cveId byVersion affected =
      (blockOccurrences toUpperCase entry cveId affected).foldl visitOccurrence byVersion := by
  unfold visitAffected blockOccurrences
  by_cases hecosystem : affected.ecosystem = some "Android"
  · rw [if_pos hecosystem, if_pos hecosystem]
    exact foldl_visitVersion _ _ _
  · rw [if_neg hecosystem, if_neg hecosystem]
    rfl

theorem visitEntry_eq (byVersion : OrderedMap (OrderedMap Row)) (entry : OsvAndroidEntry) :
    visitEntry toUpperCase byVersion entry =
      (entryOccurrences toUpperCase entry).foldl visitOccurrence byVersion := by
  unfold visitEntry entryOccurrences
  cases cveIdOf toUpperCase entry with
  | none => rfl
  | some cveId =>
    rw [foldl_flatMap]
    show foldl _ _ _ = _
    congr 1
    funext byVersion affected
    exact visitAffected_eq toUpperCase entry cveId byVersion affected

/-- **The three loops** go over the occurrences. -/
theorem indexByMajorVersion_eq (entries : List OsvAndroidEntry) :
    indexByMajorVersion toUpperCase entries =
      (occurrences toUpperCase entries).foldl visitOccurrence .empty := by
  unfold indexByMajorVersion occurrences
  rw [foldl_flatMap]
  congr 1
  funext byVersion entry
  exact visitEntry_eq toUpperCase byVersion entry

end Occurrences

/-! ## Rows -/

section Rows

variable {toUpperCase : String → String} {entries entries' : List OsvAndroidEntry}
  {major cveId : String} {row : Row}

theorem get_index : (indexByMajorVersion toUpperCase entries).get major =
    let l := (occurrences toUpperCase entries).filter fun o => o.1 = major
    if l = [] then none
    else some (OrderedMap.gather (fun o => o.2.id) (fun existing o => replace existing o.2) l) := by
  rw [indexByMajorVersion_eq]
  exact (OrderedMap.get_gather _).trans (OrderedMap.stepAll_visit _)

theorem rowAt_eq : rowAt (indexByMajorVersion toUpperCase entries) major cveId =
    OrderedMap.stepAll (fun existing o => replace existing o.2)
      (((occurrences toUpperCase entries).filter fun o => o.1 = major).filter fun o =>
        o.2.id = cveId) := by
  unfold rowAt
  rw [get_index]
  dsimp only
  split_ifs with hnil
  · rw [hnil]
    rfl
  · exact OrderedMap.get_gather _

theorem mem_pair {o : String × Row} :
    o ∈ ((occurrences toUpperCase entries).filter fun o => o.1 = major).filter (fun o =>
      o.2.id = cveId) ↔ o.1 = major ∧ Occurs toUpperCase entries major o.2 ∧ o.2.id = cveId := by
  rw [mem_filter, mem_filter, decide_eq_true_eq, decide_eq_true_eq, ← mem_occurrences]
  constructor
  · rintro ⟨⟨hmem, rfl⟩, hid⟩
    exact ⟨rfl, hmem, hid⟩
  · rintro ⟨rfl, hmem, hid⟩
    exact ⟨⟨hmem, rfl⟩, hid⟩

theorem replace_isSome (o : String × Row) : (replace none o.2).isSome = true := rfl

/-- What a replacement leaves: one of the two rows, the later one. -/
theorem replace_or {e r : Row} :
    ((replace (some e) r).or (some e) = some r ∧ units e.level < units r.level) ∨
    ((replace (some e) r).or (some e) = some e ∧ ¬units e.level < units r.level) := by
  unfold replace
  dsimp only
  by_cases hlater : units e.level < units r.level
  · have hne : r.level ≠ "" := fun hempty =>
      not_lt_nil _ (units_empty ▸ hempty ▸ hlater)
    exact .inl ⟨by rw [if_pos ⟨hne, .inr hlater⟩, some_or], hlater⟩
  · refine .inr ⟨?_, hlater⟩
    rw [if_neg, none_or]
    rintro ⟨hne, hempty | hlt⟩
    · exact hlater (hempty ▸ units_empty_lt hne)
    · exact hlater hlt

theorem latest_of_stepAll {l : List (String × Row)}
    (h : OrderedMap.stepAll (fun existing o => replace existing o.2) l = some row) :
    (∃ o ∈ l, o.2 = row) ∧ ∀ o ∈ l, ¬units row.level < units o.2.level := by
  induction l using reverseRecOn generalizing row with
  | nil => cases h
  | append_singleton l o ih =>
    rw [OrderedMap.stepAll_concat] at h
    cases hbefore : OrderedMap.stepAll (fun existing o => replace existing o.2) l with
    | none =>
      rw [hbefore] at h
      cases h
      rw [OrderedMap.eq_nil_of_stepAll replace_isSome hbefore]
      exact ⟨⟨o, mem_singleton_self o, rfl⟩, fun x hx => mem_singleton.mp hx ▸
        lt_irrefl _⟩
    | some e =>
      obtain ⟨⟨o', ho', rfl⟩, hlatest⟩ := ih hbefore
      rw [hbefore] at h
      rcases replace_or (e := o'.2) (r := o.2) with ⟨hnew, hlt⟩ | ⟨hold, hnot⟩
      · obtain rfl := some.inj (hnew.symm.trans h)
        refine ⟨⟨o, mem_append_right _ mem_cons_self, rfl⟩, fun x hx => ?_⟩
        rcases mem_append.mp hx with hx | hx
        · exact not_lt.mpr (le_trans (not_lt.mp (hlatest x hx)) (le_of_lt hlt))
        · exact mem_singleton.mp hx ▸ lt_irrefl _
      · obtain rfl := some.inj (hold.symm.trans h)
        refine ⟨⟨o', mem_append_left _ ho', rfl⟩, fun x hx => ?_⟩
        rcases mem_append.mp hx with hx | hx
        · exact hlatest x hx
        · exact mem_singleton.mp hx ▸ hnot

/-- An occurrence of the pair, and none has a later level. -/
def Latest (toUpperCase : String → String) (entries : List OsvAndroidEntry)
    (major cveId : String) (row : Row) : Prop :=
  row.id = cveId ∧ Occurs toUpperCase entries major row ∧
    ∀ r, Occurs toUpperCase entries major r → r.id = cveId → ¬units row.level < units r.level

/-- **A row is an occurrence of its pair with the latest level.** -/
theorem rowAt_latest
    (h : rowAt (indexByMajorVersion toUpperCase entries) major cveId = some row) :
    Latest toUpperCase entries major cveId row := by
  rw [rowAt_eq] at h
  obtain ⟨⟨o, ho, rfl⟩, hlatest⟩ := latest_of_stepAll h
  obtain ⟨-, hoccurs, hid⟩ := mem_pair.mp ho
  exact ⟨hid, hoccurs, fun r hr hrid => hlatest (major, r) (mem_pair.mpr ⟨rfl, hr, hrid⟩)⟩

/-- **The pairs of the index** are those that occur. -/
theorem rowAt_isSome_iff :
    (∃ r, rowAt (indexByMajorVersion toUpperCase entries) major cveId = some r) ↔
      ∃ r, Occurs toUpperCase entries major r ∧ r.id = cveId := by
  constructor
  · rintro ⟨r, hr⟩
    obtain ⟨hid, hoccurs, -⟩ := rowAt_latest hr
    exact ⟨r, hoccurs, hid⟩
  · rintro ⟨r, hr, hid⟩
    rw [rowAt_eq, ← isSome_iff_exists]
    exact OrderedMap.stepAll_isSome replace_isSome
      (ne_nil_of_mem (mem_pair.mpr ⟨rfl, hr, hid⟩ : (major, r) ∈ _))

theorem mem_keys_index : major ∈ (indexByMajorVersion toUpperCase entries).keys ↔
    ∃ r, Occurs toUpperCase entries major r := by
  have hstep : ∀ o : String × Row, (intoMajor none o).isSome := fun _ => rfl
  rw [indexByMajorVersion_eq]
  refine (OrderedMap.mem_keys_gather hstep).trans ⟨?_, ?_⟩
  · rintro ⟨o, ho, rfl⟩
    exact ⟨o.2, (mem_occurrences toUpperCase).mp ho⟩
  · rintro ⟨r, hr⟩
    exact ⟨(major, r), (mem_occurrences toUpperCase).mpr hr, rfl⟩

/-! ## The order of the dump -/

/-- The entry with its affected blocks in another order. -/
def SameEntry (entry entry' : OsvAndroidEntry) : Prop :=
  entry'.id = entry.id ∧ entry'.aliases = entry.aliases ∧
    (entry.affected.getD []).Perm (entry'.affected.getD [])

/-- The entries in another order, and their affected blocks. -/
def Reordered (entries entries' : List OsvAndroidEntry) : Prop :=
  ∃ l, entries.Perm l ∧ List.Forall₂ SameEntry l entries'

theorem entryOccurrences_perm {entry entry' : OsvAndroidEntry} (h : SameEntry entry entry') :
    (entryOccurrences toUpperCase entry).Perm (entryOccurrences toUpperCase entry') := by
  obtain ⟨hid, haliases, hperm⟩ := h
  have hcve : cveIdOf toUpperCase entry' = cveIdOf toUpperCase entry := by
    unfold cveIdOf
    rw [haliases]
  unfold entryOccurrences
  rw [hcve]
  cases cveIdOf toUpperCase entry with
  | none => exact Perm.nil
  | some cveId =>
    have hblock : blockOccurrences toUpperCase entry' cveId =
        blockOccurrences toUpperCase entry cveId := by
      funext affected
      unfold blockOccurrences rowOf
      rw [hid]
    show Perm (flatMap _ _) (flatMap _ _)
    rw [hblock]
    exact hperm.flatMap_right _

theorem occurrences_perm (h : Reordered entries entries') :
    (occurrences toUpperCase entries).Perm (occurrences toUpperCase entries') := by
  obtain ⟨l, hperm, hsame⟩ := h
  refine (hperm.flatMap_right _).trans ?_
  clear hperm
  induction hsame with
  | nil => exact Perm.nil
  | cons hentry _ ih =>
    rw [flatMap_cons, occurrences, flatMap_cons]
    exact (entryOccurrences_perm hentry).append ih

theorem occurs_reordered (toUpperCase : String → String) (h : Reordered entries entries') :
    Occurs toUpperCase entries' = Occurs toUpperCase entries := by
  funext major row
  rw [← mem_occurrences, ← mem_occurrences, (occurrences_perm h).mem_iff]

theorem Latest.level_eq {row' : Row} (h : Latest toUpperCase entries major cveId row)
    (h' : Latest toUpperCase entries major cveId row') : row.level = row'.level :=
  units_injective (le_antisymm (not_lt.mp (h'.2.2 row h.2.1 h.1))
    (not_lt.mp (h.2.2 row' h'.2.1 h'.1)))

/-- What all latest occurrences of a pair agree on does not depend on the order. -/
theorem rowAt_reordered {β : Type} (h : Reordered entries entries') (f : Row → β)
    (hf : ∀ r r', Latest toUpperCase entries major cveId r →
      Latest toUpperCase entries major cveId r' → f r = f r') :
    (rowAt (indexByMajorVersion toUpperCase entries') major cveId).map f =
      (rowAt (indexByMajorVersion toUpperCase entries) major cveId).map f := by
  have hoccurs := occurs_reordered toUpperCase h
  have hiff : (∃ r, rowAt (indexByMajorVersion toUpperCase entries') major cveId = some r) ↔
      ∃ r, rowAt (indexByMajorVersion toUpperCase entries) major cveId = some r := by
    rw [rowAt_isSome_iff, rowAt_isSome_iff, hoccurs]
  cases hrow : rowAt (indexByMajorVersion toUpperCase entries) major cveId with
  | none =>
    cases hrow' : rowAt (indexByMajorVersion toUpperCase entries') major cveId with
    | none => rfl
    | some row' =>
      obtain ⟨r, hr⟩ := hiff.mp ⟨row', hrow'⟩
      rw [hrow] at hr
      cases hr
  | some row =>
    obtain ⟨row', hrow'⟩ := hiff.mpr ⟨row, hrow⟩
    have hlatest' := rowAt_latest hrow'
    unfold Latest at hlatest'
    rw [hoccurs] at hlatest'
    rw [hrow', map_some, map_some, hf row' row hlatest' (rowAt_latest hrow)]

/-- **What the index has, and what of it does not depend on the order of the dump.** -/
theorem index_reordered (toUpperCase : String → String) (entries : List OsvAndroidEntry) :
    (∀ major, major ∈ (indexByMajorVersion toUpperCase entries).keys ↔
      ∃ r, Occurs toUpperCase entries major r) ∧
    (∀ major cveId,
      (∃ r, rowAt (indexByMajorVersion toUpperCase entries) major cveId = some r) ↔
        ∃ r, Occurs toUpperCase entries major r ∧ r.id = cveId) ∧
    (∀ major cveId row,
      rowAt (indexByMajorVersion toUpperCase entries) major cveId = some row →
        Latest toUpperCase entries major cveId row) ∧
    ∀ entries', Reordered entries entries' →
      (∀ major, major ∈ (indexByMajorVersion toUpperCase entries').keys ↔
        major ∈ (indexByMajorVersion toUpperCase entries).keys) ∧
      ∀ major cveId,
        (rowAt (indexByMajorVersion toUpperCase entries') major cveId).map Row.level =
          (rowAt (indexByMajorVersion toUpperCase entries) major cveId).map Row.level ∧
        ∀ (β : Type) (f : Row → β),
          (∀ r r', Latest toUpperCase entries major cveId r →
            Latest toUpperCase entries major cveId r' → f r = f r') →
          (rowAt (indexByMajorVersion toUpperCase entries') major cveId).map f =
            (rowAt (indexByMajorVersion toUpperCase entries) major cveId).map f := by
  refine ⟨fun _ => mem_keys_index, fun _ _ => rowAt_isSome_iff, fun _ _ _ => rowAt_latest,
    fun entries' h => ⟨fun major => ?_, fun major cveId =>
      ⟨rowAt_reordered h _ fun _ _ => Latest.level_eq, fun _ f => rowAt_reordered h f⟩⟩⟩
  rw [mem_keys_index, mem_keys_index, occurs_reordered toUpperCase h]

end Rows

/-- Two bulletins that give one patch level for the same CVE. -/
def tiedEntries : List OsvAndroidEntry :=
  [("ASB-A-1", "High"), ("ASB-A-2", "Moderate")].map fun e =>
    { id := e.1
      aliases := some ["CVE-2026-0001"]
      affected := some [{ ecosystem := some "Android"
                          versions := some ["15", "16-qpr2"]
                          ecosystemSpecific := some { severity := some e.2
                                                      spl := some "2026-06-01" } }] }

/-- The one that comes first gives the severity and the bulletin. -/
theorem index_of_tied :
    Reordered tiedEntries tiedEntries.reverse ∧
    (rowAt (indexByMajorVersion VulnSources.asciiTexts.toUpperCase tiedEntries) "16"
      "CVE-2026-0001").map (fun r => (r.severity, r.asbId)) = some (some .high, "ASB-A-1") ∧
    (rowAt (indexByMajorVersion VulnSources.asciiTexts.toUpperCase tiedEntries.reverse) "16"
      "CVE-2026-0001").map (fun r => (r.severity, r.asbId)) = some (some .medium, "ASB-A-2") := by
  refine ⟨⟨tiedEntries.reverse, (reverse_perm _).symm, ?_⟩, by decide +kernel,
    by decide +kernel⟩
  exact forall₂_same.mpr fun entry _ => ⟨rfl, rfl, List.Perm.refl _⟩

end AppliverySoar.Catalogs.OsvAndroid
