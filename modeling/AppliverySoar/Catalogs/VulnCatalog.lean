import AppliverySoar.Compliance.Types
import AppliverySoar.Js.Gather
import Mathlib.Algebra.Order.Ring.Rat

/-!
# Refreshing the EUVD catalog

`refreshVulnCatalog` (vulnCatalog.ts, lines 46–179) reads the pages of two searches, one for
each platform, and replaces the entries of a platform if its search gave an item. A page that
fails ends a search without a word, and so does the twenty-first page.

Results:
* `partOf_refresh`: the entries of a platform after a refresh.
* `keepsPlatforms_iff`: when a refresh keeps the entries of every platform whose search did
  not reach its end.
-/

namespace AppliverySoar.Catalogs.VulnCatalog

open Js Compliance List

/-! ## Model -/

/-- What the runtime does with texts; `toLowerCase` has no effect on colons. -/
structure Texts where
  toLowerCase : String → String
  localeCompare : String → String → ℤ
  colon_mem_toLowerCase : ∀ s, ':' ∈ s.toList → ':' ∈ (toLowerCase s).toList

/-- An element of `enisaIdProduct`; one without a product is one without a name. -/
structure EnisaProduct where
  name : Option String
  productVersion : Option String

/-- An item of a search. -/
structure Item where
  id : String
  aliases : Option String := none
  description : Option String := none
  baseScore : Option ℚ := none
  epss : Option ℚ := none
  exploitedSince : Option String := none
  datePublished : Option String := none
  references : Option String := none
  enisaIdProduct : Option (List EnisaProduct) := none

/-- The answer to the request of a page; `failed` is a status from 300 on or an error. -/
inductive PageAnswer
  | failed
  | page (items : Option (List Item)) (total : Option ℕ)

/-- How a search ended. -/
inductive Ending
  | complete
  | failed
  | tooManyPages
  deriving DecidableEq

/-- What a search has given. The source has the items only. -/
structure Fetched where
  items : List Item
  ending : Ending

/-- The loop of `fetchEuvd` (lines 52–65), over the pages that it may still ask for. -/
def fetchPages (answer : ℕ → PageAnswer) : List ℕ → List Item → Fetched
  | [], items => ⟨items, .tooManyPages⟩
  | page :: pages, items =>
    match answer page with
    | .failed => ⟨items, .failed⟩
    | .page batch total =>
      let items' := items ++ batch.getD []
      if batch.getD [] = [] ∨ items'.length ≥ total.getD items'.length then ⟨items', .complete⟩
      else fetchPages answer pages items'

/-- The answers to the searches, by vendor and product. -/
abbrev Upstream := String → String → ℕ → PageAnswer

/-- `fetchEuvd`: `page` is greater than 20 after the twenty-first page. -/
def fetchEuvd (upstream : Upstream) (vendor product : String) : Fetched :=
  fetchPages (upstream vendor product) (List.range 21) []

/-- The platforms that are searched for. -/
inductive Platform
  | apple
  | android
  deriving DecidableEq

def Platform.text : Platform → String
  | .apple => "apple"
  | .android => "android"

/-- The search of a platform (lines 135 and 141). -/
def ownFetch (upstream : Upstream) : Platform → Fetched
  | .apple => fetchEuvd upstream "apple" "ios"
  | .android => fetchEuvd upstream "google" "android"

inductive Severity
  | critical
  | high
  | medium
  | low
  deriving DecidableEq

/-- `cvssBand` (lines 26–33). -/
def cvssBand : Option ℚ → Option Severity
  | none => none
  | some score =>
    if score ≥ 9 then some .critical
    else if score ≥ 7 then some .high
    else if score ≥ 4 then some .medium
    else if score > 0 then some .low
    else none

/-- The match of `/<\s*([\d][\d.]*)\s*$/` that begins before these characters. -/
def fixedVersionAfter (s : List Char) : Option String :=
  match trim s with
  | [] => none
  | c :: cs =>
    if c.isDigit && cs.all (fun c => c.isDigit || c = '.') then some (String.ofList (c :: cs))
    else none

/-- `parseAppleFixedVersion` (lines 35–39). -/
def parseAppleFixedVersion : List Char → Option String
  | [] => none
  | c :: s => if c = '<' then (fixedVersionAfter s).or (parseAppleFixedVersion s)
    else parseAppleFixedVersion s

/-- `parseAndroidMajorVersion` (lines 41–44): `/^\d{1,2}[A-Za-z]?$/`. -/
def parseAndroidMajorVersion (productVersion : List Char) : Option String :=
  let v := trim productVersion
  let rest := v.dropWhile Char.isDigit
  let digits := (v.takeWhile Char.isDigit).length
  if 1 ≤ digits ∧ digits ≤ 2 ∧ rest.length ≤ 1 ∧ rest.all Char.isAlpha then
    some (String.ofList v)
  else none

/-- An entry of the catalog. -/
structure Entry where
  cveId : String
  euvdId : String
  platform : String
  productLabel : String
  description : Option String := none
  baseScore : Option ℚ := none
  baseSeverity : Option Severity := none
  epss : Option ℚ := none
  exploited : Bool := false
  datePublished : Option String := none
  fixedVersion : Option String := none
  androidMajorVersion : Option String := none
  references : List String := []
  deriving DecidableEq

/-- `text.split("\n")`. -/
def lines (text : Option String) : List (List Char) :=
  (text.getD "").toList.splitOn '\n'

/-- The first alias that is a CVE (lines 76–83). -/
def cveAlias (item : Item) : Option String :=
  ((lines item.aliases).map fun line => String.ofList (trim line)).find? fun trimmed =>
    startsWith trimmed "CVE-"

/-- The product filters (lines 137–138 and 143). -/
def matchesProduct (t : Texts) (platform : Platform) (name : String) : Bool :=
  match platform with
  | .apple => ["ios and ipados", "macos", "ipados"].contains (t.toLowerCase name)
  | .android => t.toLowerCase name = "android"

/-- `dedupKey` (line 95). -/
def productKey (item : Item) (p : EnisaProduct) : String :=
  item.id ++ ":" ++ p.name.getD "" ++ ":" ++ p.productVersion.getD ""

/-- The entry of a product (lines 92–102). -/
def entryOf (platform : Platform) (item : Item) (p : EnisaProduct) : Entry :=
  let versionRaw := (p.productVersion.getD "").toList
  { cveId := (cveAlias item).getD item.id
    euvdId := item.id
    platform := platform.text
    productLabel := p.name.getD ""
    description := item.description
    baseScore := item.baseScore
    baseSeverity := cvssBand item.baseScore
    epss := item.epss
    exploited := item.exploitedSince.getD "" ≠ ""
    datePublished := item.datePublished
    fixedVersion := if platform = .apple then parseAppleFixedVersion versionRaw else none
    androidMajorVersion :=
      if platform = .android then parseAndroidMajorVersion versionRaw else none
    references :=
      (((lines item.references).filter fun r => trim r ≠ []).take 3).map String.ofList }

/-- `parseEuvdItems` (lines 73–106). -/
def parseEuvdItems (t : Texts) (items : List Item) (platform : Platform) : List Entry :=
  items.flatMap fun item =>
    (OrderedMap.gather (productKey item) OrderedMap.first
      ((item.enisaIdProduct.getD []).filter fun p =>
        matchesProduct t platform (p.name.getD ""))).values.map (entryOf platform item)

/-- The key of an entry (line 159). -/
def entryKey (e : Entry) : String :=
  e.cveId ++ ":" ++ e.platform ++ ":" ++ e.productLabel ++ ":" ++ e.fixedVersion.getD "" ++ ":" ++
    e.androidMajorVersion.getD ""

/-- `Array.from(dedup.values())` (lines 157–162): the last entry of a key stays. -/
def dedup (entries : List Entry) : List Entry :=
  (OrderedMap.gather entryKey OrderedMap.last entries).values

/-- What the catalog has for a platform that this cycle gave data (lines 136–144). -/
def freshEntries (t : Texts) (upstream : Upstream) (platform : Platform) : Option (List Entry) :=
  let raw := (ownFetch upstream platform).items
  if raw.length ≠ 0 then some (parseEuvdItems t raw platform) else none

/-- `preserved` (lines 153–155). -/
def preserved (fresh : Platform → Option (List Entry)) (entries : List Entry) : List Entry :=
  entries.filter fun e =>
    (e.platform ≠ "apple" || (fresh .apple).isNone) &&
      (e.platform ≠ "android" || (fresh .android).isNone)

/-- `allEntries` (line 156). -/
def allEntries (fresh : Platform → Option (List Entry)) (entries : List Entry) : List Entry :=
  preserved fresh entries ++ (fresh .apple).getD [] ++ (fresh .android).getD []

/-- The entries in the order of line 162. -/
def sorted (t : Texts) (entries : List Entry) : List Entry :=
  entries.mergeSort fun a b =>
    t.localeCompare (b.datePublished.getD "") (a.datePublished.getD "") ≤ 0

/-- The parts of the key that follow the CVE have no colon. -/
structure Shaped (e : Entry) : Prop where
  platform : ':' ∉ e.platform.toList
  productLabel : ':' ∉ e.productLabel.toList
  fixedVersion : ':' ∉ (e.fixedVersion.getD "").toList
  androidMajorVersion : ':' ∉ (e.androidMajorVersion.getD "").toList

/-- The catalog that is saved. -/
structure Catalog where
  entries : List Entry := []
  lastFetchedAt : Option String := none
  lastError : Option String := none
  windowFrom : Option String := none
  shaped : ∀ e ∈ entries, Shaped e
  nodup : (entries.map entryKey).Nodup

/-- The catalog before the first refresh. -/
def emptyCatalog : Catalog where
  shaped := List.forall_mem_nil _
  nodup := List.nodup_nil

/-! ## How a search ends -/

/-- The items of a page. -/
def PageAnswer.batch : PageAnswer → List Item
  | .failed => []
  | .page batch _ => batch.getD []

/-! ## Keys -/

section Keys

variable {t : Texts} {e : Entry} {entries : List Entry} {p : String}

/-- The part of a key that is the platform: the fourth part from the end. -/
def keyPlatform (key : String) : String :=
  String.ofList ((key.toList.splitOn ':').reverse.getD 3 [])

theorem splitOn_append_colon (s : List Char) {rest : List Char} :
    (s ++ ':' :: rest).splitOn ':' = s.splitOn ':' ++ rest.splitOn ':' := by
  exact splitOnP_append_cons _ _ (by decide)

theorem splitOn_of_not_mem {s : List Char} (h : ':' ∉ s) : s.splitOn ':' = [s] :=
  splitOnP_eq_singleton fun _ hc => beq_eq_false_iff_ne.mpr fun heq => h (heq ▸ hc)

theorem keyPlatform_entryKey (h : Shaped e) : keyPlatform (entryKey e) = e.platform := by
  have hlist : (entryKey e).toList = e.cveId.toList ++ ':' :: (e.platform.toList ++ ':' ::
      (e.productLabel.toList ++ ':' :: ((e.fixedVersion.getD "").toList ++ ':' ::
        (e.androidMajorVersion.getD "").toList))) := by
    simp only [entryKey, String.toList_append, append_assoc]
    rfl
  rw [keyPlatform, hlist, splitOn_append_colon, splitOn_append_colon, splitOn_append_colon,
    splitOn_append_colon, splitOn_of_not_mem h.platform, splitOn_of_not_mem h.productLabel,
    splitOn_of_not_mem h.fixedVersion, splitOn_of_not_mem h.androidMajorVersion,
    reverse_append]
  exact String.ofList_toList

theorem mem_of_mem_dedup (h : e ∈ dedup entries) : e ∈ entries := by
  obtain ⟨pair, hpair, rfl⟩ := mem_map.mp h
  exact (OrderedMap.mem_of_mem_gather_last hpair).1

theorem nodup_dedup (entries : List Entry) : ((dedup entries).map entryKey).Nodup := by
  rw [dedup, OrderedMap.map_values_gather_last]
  exact OrderedMap.nodup _

theorem dedup_of_nodup (h : (entries.map entryKey).Nodup) : dedup entries = entries :=
  OrderedMap.values_gather_last h

theorem filter_dedup (h : ∀ e ∈ entries, Shaped e) :
    (dedup entries).filter (fun e => e.platform = p) =
      dedup (entries.filter fun e => e.platform = p) :=
  OrderedMap.values_gather_last_filter (q := fun key => keyPlatform key = p) fun e he => by
    rw [keyPlatform_entryKey (h e he)]

end Keys

/-! ## What is parsed -/

section Parsed

variable {t : Texts} {platform : Platform} {items : List Item} {v : String} {e : Entry}

variable {s : List Char}

theorem not_colon_of_fixedVersionAfter (h : fixedVersionAfter s = some v) : ':' ∉ v.toList := by
  unfold fixedVersionAfter at h
  cases htrim : trim s with
  | nil =>
    rw [htrim] at h
    cases h
  | cons c cs =>
    rw [htrim] at h
    dsimp only at h
    split_ifs at h with hmatch
    cases h
    rw [Bool.and_eq_true] at hmatch
    rw [String.toList_ofList]
    intro hmem
    rcases mem_cons.mp hmem with hc | hcs
    · rw [← hc] at hmatch
      exact absurd hmatch.1 (by decide)
    · exact absurd (all_eq_true.mp hmatch.2 ':' hcs) (by decide)

theorem not_colon_of_parseAppleFixedVersion
    (h : parseAppleFixedVersion s = some v) : ':' ∉ v.toList := by
  induction s with
  | nil => cases h
  | cons c s ih =>
    rw [parseAppleFixedVersion] at h
    split_ifs at h with hlt
    · cases hafter : fixedVersionAfter s with
      | none =>
        rw [hafter, Option.none_or] at h
        exact ih h
      | some w =>
        rw [hafter, Option.some_or] at h
        exact not_colon_of_fixedVersionAfter (hafter.trans h)
    · exact ih h

theorem not_colon_of_parseAndroidMajorVersion
    (h : parseAndroidMajorVersion s = some v) : ':' ∉ v.toList := by
  unfold parseAndroidMajorVersion at h
  dsimp only at h
  split_ifs at h with hmatch
  cases h
  rw [String.toList_ofList, ← takeWhile_append_dropWhile (p := Char.isDigit) (l := trim s)]
  intro hmem
  rcases mem_append.mp hmem with hdigit | hletter
  · exact absurd (all_eq_true.mp all_takeWhile ':' hdigit) (by decide)
  · exact absurd (all_eq_true.mp hmatch.2.2.2 ':' hletter) (by decide)

theorem not_colon_of_matchesProduct {name : String}
    (h : matchesProduct t platform name = true) : ':' ∉ name.toList := by
  intro hcolon
  have hlower := t.colon_mem_toLowerCase name hcolon
  cases platform with
  | apple =>
    have hname : t.toLowerCase name ∈ ["ios and ipados", "macos", "ipados"] :=
      contains_iff_mem.mp h
    have hnone : ∀ s ∈ ["ios and ipados", "macos", "ipados"], ':' ∉ s.toList := by decide
    exact hnone _ hname hlower
  | android =>
    have hname : t.toLowerCase name = "android" := of_decide_eq_true h
    rw [hname] at hlower
    exact absurd hlower (by decide)

theorem not_colon_text (platform : Platform) : ':' ∉ platform.text.toList := by
  cases platform <;> decide

theorem shaped_entryOf {item : Item} {p : EnisaProduct}
    (h : matchesProduct t platform (p.name.getD "") = true) :
    Shaped (entryOf platform item p) where
  platform := not_colon_text platform
  productLabel := not_colon_of_matchesProduct h
  fixedVersion := by
    show ':' ∉ ((if platform = .apple then parseAppleFixedVersion _ else none).getD "").toList
    split_ifs with hplatform
    · cases hparse : parseAppleFixedVersion (p.productVersion.getD "").toList with
      | none => decide
      | some v => exact not_colon_of_parseAppleFixedVersion hparse
    · decide
  androidMajorVersion := by
    show ':' ∉ ((if platform = .android then parseAndroidMajorVersion _ else none).getD "").toList
    split_ifs with hplatform
    · cases hparse : parseAndroidMajorVersion (p.productVersion.getD "").toList with
      | none => decide
      | some v => exact not_colon_of_parseAndroidMajorVersion hparse
    · decide

/-- **What is parsed** is of the platform, and of its products. -/
theorem of_mem_parseEuvdItems (h : e ∈ parseEuvdItems t items platform) :
    e.platform = platform.text ∧ Shaped e := by
  obtain ⟨item, -, he⟩ := mem_flatMap.mp h
  obtain ⟨p, hp, rfl⟩ := mem_map.mp he
  have hmem := mem_of_find?_eq_some (OrderedMap.mem_values_gather_first.mp hp)
  exact ⟨rfl, shaped_entryOf (mem_filter.mp hmem).2⟩

end Parsed

/-! ## The refresh -/

section Refresh

variable {t : Texts} {upstream : Upstream} {entries : List Entry} {e : Entry}

theorem shaped_allEntries (h : ∀ e ∈ entries, Shaped e)
    (he : e ∈ allEntries (freshEntries t upstream) entries) : Shaped e := by
  have hfresh : ∀ platform, e ∈ (freshEntries t upstream platform).getD [] → Shaped e := by
    intro platform hmem
    unfold freshEntries at hmem
    dsimp only at hmem
    split_ifs at hmem
    · exact (of_mem_parseEuvdItems hmem).2
    · cases hmem
  rcases mem_append.mp he with he | he
  · rcases mem_append.mp he with he | he
    · exact h e (mem_filter.mp he).1
    · exact hfresh .apple he
  · exact hfresh .android he

theorem sorted_perm (t : Texts) (entries : List Entry) : (sorted t entries).Perm entries :=
  mergeSort_perm _ _

end Refresh

/-- `refreshVulnCatalog` (lines 126–179), on the catalog that is loaded. -/
def refreshVulnCatalog (t : Texts) (upstream : Upstream) (now fromDate : String)
    (catalog : Catalog) : Catalog :=
  let fresh := freshEntries t upstream
  if (fresh .apple).isSome || (fresh .android).isSome then
    { entries := sorted t (dedup (allEntries fresh catalog.entries))
      lastFetchedAt := some now
      lastError := none
      windowFrom := some fromDate
      shaped := fun _ he => shaped_allEntries catalog.shaped
        (mem_of_mem_dedup ((sorted_perm t _).mem_iff.mp he))
      nodup := ((sorted_perm t _).map entryKey).nodup_iff.mpr (nodup_dedup _) }
  else if catalog.entries = [] then
    { catalog with
      lastError :=
        some "No EUVD data fetched yet — check network access to euvdservices.enisa.europa.eu" }
  else catalog

/-! ## The entries of a platform -/

/-- What the catalog has for a platform. -/
def partOf (catalog : Catalog) (p : String) : List Entry :=
  catalog.entries.filter fun e => e.platform = p

/-- What a search gives for its platform. -/
def resultOf (t : Texts) (upstream : Upstream) (platform : Platform) : List Entry :=
  dedup (parseEuvdItems t (ownFetch upstream platform).items platform)

/-- The entries of a platform stay, unless its own search reached its end and gave others. -/
structure KeepsPlatforms (t : Texts) (upstream : Upstream) (before after : Catalog) : Prop where
  cutShort : ∀ platform, (ownFetch upstream platform).ending ≠ .complete →
    (partOf after platform.text).Perm (partOf before platform.text)
  complete : ∀ platform, (ownFetch upstream platform).ending = .complete →
    (partOf after platform.text).Perm (partOf before platform.text) ∨
    (partOf after platform.text).Perm (resultOf t upstream platform)
  other : ∀ p, (∀ platform : Platform, platform.text ≠ p) →
    (partOf after p).Perm (partOf before p)

/-- A search that was cut short had given no item, or what it had given are the entries that the
catalog has anyway. -/
def CutShortEmpty (t : Texts) (upstream : Upstream) (catalog : Catalog) : Prop :=
  ∀ platform, (ownFetch upstream platform).ending ≠ .complete →
    (ownFetch upstream platform).items ≠ [] →
    (resultOf t upstream platform).Perm (partOf catalog platform.text)

section Parts

variable {fresh : Platform → Option (List Entry)} {entries : List Entry} {e : Entry} {p : String}
  {platform : Platform}

theorem text_injective : Function.Injective Platform.text := by
  intro a b h
  cases a <;> cases b <;> first | rfl | exact absurd h (by decide)

theorem mem_preserved : e ∈ preserved fresh entries ↔
    e ∈ entries ∧ ∀ platform : Platform, platform.text = e.platform → fresh platform = none := by
  rw [preserved, mem_filter, Bool.and_eq_true, Bool.or_eq_true, Bool.or_eq_true,
    decide_eq_true_eq, decide_eq_true_eq, Option.isNone_iff_eq_none, Option.isNone_iff_eq_none]
  refine and_congr_right fun _ => ⟨fun ⟨happle, handroid⟩ platform htext => ?_, fun h => ⟨?_, ?_⟩⟩
  · cases platform with
    | apple => exact happle.resolve_left (not_not_intro htext.symm)
    | android => exact handroid.resolve_left (not_not_intro htext.symm)
  · exact or_iff_not_imp_left.mpr fun hp => h .apple (not_not.mp hp).symm
  · exact or_iff_not_imp_left.mpr fun hp => h .android (not_not.mp hp).symm

theorem filter_preserved_of_none
    (h : ∀ platform : Platform, platform.text = p → fresh platform = none) :
    (preserved fresh entries).filter (fun e => e.platform = p) =
      entries.filter fun e => e.platform = p := by
  rw [preserved, filter_filter]
  refine filter_congr fun e he => ?_
  by_cases hp : e.platform = p
  · have hstays : e ∈ preserved fresh entries :=
      mem_preserved.mpr ⟨he, fun platform htext => h platform (htext.trans hp)⟩
    rw [(mem_filter.mp hstays).2, Bool.and_true]
  · rw [decide_eq_false hp, Bool.false_and]

theorem filter_preserved_of_some {l : List Entry} (h : fresh platform = some l) :
    (preserved fresh entries).filter (fun e => e.platform = platform.text) = [] := by
  refine filter_eq_nil_iff.mpr fun e he hp => ?_
  rw [(mem_preserved.mp he).2 platform (of_decide_eq_true hp).symm] at h
  cases h

/-- The fresh entries of a platform are of that platform. -/
def OfPlatforms (fresh : Platform → Option (List Entry)) : Prop :=
  ∀ platform, ∀ e ∈ (fresh platform).getD [], e.platform = platform.text

theorem filter_fresh (hfresh : OfPlatforms fresh) :
    ((fresh platform).getD []).filter (fun e => e.platform = p) =
      if platform.text = p then (fresh platform).getD [] else [] := by
  split_ifs with hp
  · exact filter_eq_self.mpr fun e he => decide_eq_true ((hfresh platform e he).trans hp)
  · exact filter_eq_nil_iff.mpr fun e he heq =>
      hp ((hfresh platform e he).symm.trans (of_decide_eq_true heq))

/-- **The parts before the duplicates go**: fresh entries in place of the old ones. -/
theorem filter_allEntries (hfresh : OfPlatforms fresh) (platform : Platform) :
    (allEntries fresh entries).filter (fun e => e.platform = platform.text) =
      (fresh platform).getD (entries.filter fun e => e.platform = platform.text) := by
  have hpreserved : (preserved fresh entries).filter (fun e => e.platform = platform.text) ++
      (fresh platform).getD [] =
      (fresh platform).getD (entries.filter fun e => e.platform = platform.text) := by
    cases hf : fresh platform with
    | none =>
      rw [filter_preserved_of_none fun other htext => text_injective htext ▸ hf]
      exact append_nil _
    | some l =>
      rw [filter_preserved_of_some hf]
      rfl
  rw [allEntries, filter_append, filter_append, filter_fresh hfresh,
    filter_fresh hfresh, ← hpreserved]
  cases platform with
  | apple => rw [if_pos rfl, if_neg (by decide), append_nil]
  | android => rw [if_neg (by decide), if_pos rfl, append_nil]

theorem filter_allEntries_other (hfresh : OfPlatforms fresh)
    (hp : ∀ platform : Platform, platform.text ≠ p) :
    (allEntries fresh entries).filter (fun e => e.platform = p) =
      entries.filter fun e => e.platform = p := by
  rw [allEntries, filter_append, filter_append, filter_fresh hfresh,
    filter_fresh hfresh, if_neg (hp .apple), if_neg (hp .android), append_nil,
    append_nil, filter_preserved_of_none fun platform htext => absurd htext (hp platform)]

theorem filter_allEntries_of_none (h : ∀ platform, fresh platform = none) :
    (allEntries fresh entries).filter (fun e => e.platform = p) =
      entries.filter fun e => e.platform = p := by
  rw [allEntries, h, h, Option.getD_none, append_nil, append_nil,
    filter_preserved_of_none fun platform _ => h platform]

end Parts

section Main

variable {t : Texts} {upstream : Upstream} {now fromDate p : String} {catalog : Catalog}
  {platform : Platform}

theorem ofPlatforms_freshEntries (t : Texts) (upstream : Upstream) :
    OfPlatforms (freshEntries t upstream) := by
  intro platform e he
  unfold freshEntries at he
  dsimp only at he
  split_ifs at he
  · exact (of_mem_parseEuvdItems he).1
  · cases he

theorem freshEntries_of_items (h : (ownFetch upstream platform).items ≠ []) :
    freshEntries t upstream platform =
      some (parseEuvdItems t (ownFetch upstream platform).items platform) :=
  if_pos (mt length_eq_zero_iff.mp h)

theorem freshEntries_of_no_items (h : (ownFetch upstream platform).items = []) :
    freshEntries t upstream platform = none :=
  if_neg (not_not_intro (length_eq_zero_iff.mpr h))

theorem fresh_of_no_success
    (h : ¬((freshEntries t upstream .apple).isSome || (freshEntries t upstream .android).isSome) =
      true) (platform : Platform) : freshEntries t upstream platform = none := by
  rw [Bool.or_eq_true, not_or, Option.not_isSome_iff_eq_none, Option.not_isSome_iff_eq_none] at h
  cases platform with
  | apple => exact h.1
  | android => exact h.2

theorem dedup_partOf (catalog : Catalog) (p : String) :
    dedup (partOf catalog p) = partOf catalog p :=
  dedup_of_nodup (catalog.nodup.sublist (filter_sublist.map entryKey))

/-- The entries of a platform are those that are there before the duplicates go. -/
theorem partOf_refresh_perm (t : Texts) (upstream : Upstream) (now fromDate : String)
    (catalog : Catalog) (p : String) :
    (partOf (refreshVulnCatalog t upstream now fromDate catalog) p).Perm
      (dedup ((allEntries (freshEntries t upstream) catalog.entries).filter fun e =>
        e.platform = p)) := by
  unfold refreshVulnCatalog
  dsimp only
  split_ifs with hsuccess hempty
  · rw [← filter_dedup fun e he => shaped_allEntries catalog.shaped he]
    exact (sorted_perm t _).filter _
  all_goals
    rw [filter_allEntries_of_none (fresh_of_no_success hsuccess)]
    exact .of_eq (dedup_partOf catalog p).symm

/-- **A platform whose search gave an item** has what it gave. -/
theorem partOf_refresh_of_items (h : (ownFetch upstream platform).items ≠ []) :
    (partOf (refreshVulnCatalog t upstream now fromDate catalog) platform.text).Perm
      (resultOf t upstream platform) := by
  have hperm := partOf_refresh_perm t upstream now fromDate catalog platform.text
  rwa [filter_allEntries (ofPlatforms_freshEntries t upstream), freshEntries_of_items h] at hperm

/-- **A platform whose search gave none** keeps its entries. -/
theorem partOf_refresh_of_no_items (h : (ownFetch upstream platform).items = []) :
    (partOf (refreshVulnCatalog t upstream now fromDate catalog) platform.text).Perm
      (partOf catalog platform.text) := by
  have hperm := partOf_refresh_perm t upstream now fromDate catalog platform.text
  rw [filter_allEntries (ofPlatforms_freshEntries t upstream), freshEntries_of_no_items h] at hperm
  exact hperm.trans (.of_eq (dedup_partOf catalog platform.text))

theorem partOf_refresh_other (hp : ∀ platform : Platform, platform.text ≠ p) :
    (partOf (refreshVulnCatalog t upstream now fromDate catalog) p).Perm (partOf catalog p) := by
  have hperm := partOf_refresh_perm t upstream now fromDate catalog p
  rw [filter_allEntries_other (ofPlatforms_freshEntries t upstream) hp] at hperm
  exact hperm.trans (.of_eq (dedup_partOf catalog p))

/-- **What a refresh keeps**: all that it has to, exactly if no search that was cut short gave an
item that matters. -/
theorem keepsPlatforms_iff (t : Texts) (upstream : Upstream) (now fromDate : String)
    (catalog : Catalog) :
    KeepsPlatforms t upstream catalog (refreshVulnCatalog t upstream now fromDate catalog) ↔
      CutShortEmpty t upstream catalog := by
  refine ⟨fun h platform hending hitems => ?_, fun h => ⟨fun platform hending => ?_,
    fun platform _ => ?_, fun p hp => partOf_refresh_other hp⟩⟩
  · exact (partOf_refresh_of_items hitems).symm.trans (h.cutShort platform hending)
  · by_cases hitems : (ownFetch upstream platform).items = []
    · exact partOf_refresh_of_no_items hitems
    · exact (partOf_refresh_of_items hitems).trans (h platform hending hitems)
  · by_cases hitems : (ownFetch upstream platform).items = []
    · exact .inl (partOf_refresh_of_no_items hitems)
    · exact .inr (partOf_refresh_of_items hitems)

end Main

end AppliverySoar.Catalogs.VulnCatalog
