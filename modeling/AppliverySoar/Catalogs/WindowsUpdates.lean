import AppliverySoar.Compliance.Operators
import AppliverySoar.Js.Gather
import AppliverySoar.Js.TextOrder
import Mathlib.Data.List.Dedup

/-!
# The catalog of Windows updates

`rollupKbEntries` and `refreshOsUpdateCatalog` (osUpdateCatalog.ts, lines 287–395) turn the
bulletins of the months into rows, one for each KB and build of a bulletin, and keep the rows of
the months that a run does not fetch. `computeWindowsPendingUpdates` (lines 397–415) lists the
rows of a device's build whose revision is above that of the device.

Results:
* `kbKey_inj`: a key of the rollup is that of one KB and one build.
* `rowOf_of_mem`, `exists_row`, `nodup_rollup`: the rows of a bulletin, one for each KB and
  build that its entries name.
-/

namespace AppliverySoar.Catalogs.OsUpdateCatalog

open Js Compliance List

/-! ## Model -/

/-- `WINDOWS_BUILD_TO_FEATURE`. -/
def windowsBuildToFeature : List (ℕ × String) :=
  [(28000, "Windows 11, version 26H1"), (26200, "Windows 11, version 25H2"),
    (26100, "Windows 11, version 24H2"), (22631, "Windows 11, version 23H2"),
    (22621, "Windows 11, version 22H2"), (22000, "Windows 11, version 21H2"),
    (19045, "Windows 10, version 22H2"), (19044, "Windows 10, version 21H2"),
    (19043, "Windows 10, version 21H1"), (19042, "Windows 10, version 20H2"),
    (20348, "Windows Server 2022"), (17763, "Windows Server 2019 / version 1809")]

/-- `WINDOWS_BUILD_TO_FEATURE[buildMajor] ?? …`. -/
def featureLabel (buildMajor : ℕ) : String :=
  (windowsBuildToFeature.lookup buildMajor).getD ("Windows (build " ++ toString buildMajor ++ ")")

/-- An entry of a bulletin, as `fetchMsrcMonth` makes it. -/
structure RawEntry where
  kb : Option String := none
  cve : Option String := none
  severity : Option String := none
  exploited : Bool := false
  productName : String := ""
  buildMajor : ℕ
  fixedUbr : Option ℕ := none
  releaseMonth : String
  deriving DecidableEq

/-- `KbRollupEntry`; `updateType` is always `Security`. -/
structure KbRollupEntry where
  kb : String
  buildMajor : ℕ
  featureLabel : String
  productName : String
  releaseMonth : String
  cveIds : List String := []
  maxSeverity : Option String := none
  exploited : Bool := false
  fixedUbr : Option ℕ := none

/-- A row of `kbEntries`. -/
structure KbEntry extends KbRollupEntry where
  cveCount : ℕ

/-- `Boolean(fixedUbr)`. -/
def isKnown (fixedUbr : Option ℕ) : Bool :=
  fixedUbr.getD 0 ≠ 0

/-- `SEVERITY_RANK[sev] ?? -1`. -/
def severityRank (severity : String) : ℤ :=
  ([("low", (0 : ℤ)), ("moderate", 1), ("important", 2), ("critical", 3)].lookup severity).getD (-1)

/-- `${kb}:${buildMajor}`. -/
def kbKey (kb : String) (buildMajor : ℕ) : String :=
  kb ++ ":" ++ toString buildMajor

/-- What the conversions take from the runtime. -/
structure Texts where
  toLowerCase : String → String
  localeCompare : String → String → ℤ

section Rollup

variable (t : Texts)

/-- The group of lines 294–298. -/
def newGroup (e : RawEntry) : KbRollupEntry where
  kb := e.kb.getD ""
  buildMajor := e.buildMajor
  featureLabel := featureLabel e.buildMajor
  productName := e.productName
  releaseMonth := e.releaseMonth

/-- `if (e.cve) g.cveIds.add(e.cve)`. -/
def addCve (cveIds : List String) (cve : Option String) : List String :=
  match cve with
  | none => cveIds
  | some cve => if cve = "" ∨ cve ∈ cveIds then cveIds else cveIds ++ [cve]

/-- An entry goes into its group (lines 301–305). -/
def addEntry (g : KbRollupEntry) (e : RawEntry) : KbRollupEntry :=
  { g with
    cveIds := addCve g.cveIds e.cve
    exploited := g.exploited || e.exploited
    fixedUbr := if isKnown e.fixedUbr = true ∧ isKnown g.fixedUbr = false then e.fixedUbr
      else g.fixedUbr
    maxSeverity :=
      if severityRank (t.toLowerCase (e.severity.getD "")) >
        severityRank (t.toLowerCase (g.maxSeverity.getD "")) then e.severity
      else g.maxSeverity }

/-- One turn of the loop over the entries that have a KB. -/
def intoGroup (group : Option KbRollupEntry) (e : RawEntry) : Option KbRollupEntry :=
  some (addEntry t (group.getD (newGroup e)) e)

/-- The comparison of line 308. -/
def sortedBefore (a b : KbEntry) : Bool :=
  let byMonth := t.localeCompare b.releaseMonth a.releaseMonth
  if byMonth ≠ 0 then byMonth ≤ 0 else (b.buildMajor : ℤ) - a.buildMajor ≤ 0

/-- `cveIds` sorted, and counted. -/
def finish (g : KbRollupEntry) : KbEntry where
  toKbRollupEntry := { g with cveIds := g.cveIds.mergeSort fun a b => decide (units a ≤ units b) }
  cveCount := g.cveIds.length

/-- `grouped` (lines 289–306). -/
def grouped (rawEntries : List RawEntry) : OrderedMap KbRollupEntry :=
  OrderedMap.gather (fun e => kbKey (e.kb.getD "") e.buildMajor) (intoGroup t)
    (rawEntries.filter fun e => e.kb.getD "" ≠ "")

def rollupKbEntries (rawEntries : List RawEntry) : List KbEntry :=
  ((grouped t rawEntries).values.map finish).mergeSort (sortedBefore t)

end Rollup

/-- `OsUpdateCatalog`. -/
structure Catalog where
  kbEntries : List KbEntry := []
  monthsFetched : List String := []
  lastFetchedAt : Option String := none
  lastError : Option String := none
  catalogVersion : Option ℕ := none

/-- What `loadOsUpdateCatalog` gives when there is none. -/
def emptyCatalog : Catalog where
  catalogVersion := some 2

structure FetchMsrcMonthResult where
  entries : Option (List RawEntry)
  error : Option String := none

/-- What a run of `refreshOsUpdateCatalog` reads: the date, the answers for the months, each with
entries of its own month, and the map of the release-health page. -/
structure Inputs where
  year : ℕ
  month : ℕ
  nowIso : String := ""
  fetchMsrcMonth : String → FetchMsrcMonthResult
  ofMonth : ∀ monthCode entries, (fetchMsrcMonth monthCode).entries = some entries →
    ∀ e ∈ entries, e.releaseMonth = monthCode
  releaseHealthMap : Option (OrderedMap ℕ) := none

def monthAbbr : List String :=
  ["", "Jan", "Feb", "Mar", "Apr", "May", "Jun", "Jul", "Aug", "Sep", "Oct", "Nov", "Dec"]

/-- The code of the `i`-th month before that of the date (lines 331–337 and 344). -/
def monthCode (year month i : ℕ) : String :=
  let months := year * 12 + month - 1 - i
  toString (months / 12) ++ "-" ++ monthAbbr.getD (months % 12 + 1) ""

/-- The variables of the loop over the months. -/
structure FetchState where
  allEntriesByMonth : OrderedMap (List RawEntry) := .empty
  fetchErrors : List String := []
  monthsFetched : List String

/-- One turn of it (lines 343–351). -/
def fetchMonth (x : Inputs) (s : FetchState) (idx : ℕ) : FetchState :=
  let code := monthCode x.year x.month idx
  if s.monthsFetched.contains code = true ∧ idx ≥ 2 then s
  else
    let result := x.fetchMsrcMonth code
    let fetchErrors := s.fetchErrors ++ result.error.toList
    match result.entries with
    | none => { s with fetchErrors := fetchErrors }
    | some entries =>
      { allEntriesByMonth := s.allEntriesByMonth.set code entries
        fetchErrors := fetchErrors
        monthsFetched :=
          if s.monthsFetched.contains code then s.monthsFetched else s.monthsFetched ++ [code] }

/-- The loop (lines 316–352). -/
def fetchMonths (c : Catalog) (x : Inputs) : FetchState :=
  (List.range 15).foldl (fetchMonth x)
    { monthsFetched := if c.catalogVersion ≠ some 2 then [] else c.monthsFetched }

/-- `kbEntries` after the merge (lines 354–359). -/
def mergedEntries (t : Texts) (kbEntries : List KbEntry)
    (allEntriesByMonth : OrderedMap (List RawEntry)) : List KbEntry :=
  if allEntriesByMonth.keys.length > 0 then
    (kbEntries.filter fun e => !allEntriesByMonth.keys.contains e.releaseMonth) ++
      allEntriesByMonth.values.flatMap (rollupKbEntries t)
  else kbEntries

/-- One turn of the loop of lines 376–383. -/
def backfill (releaseHealthMap : OrderedMap ℕ) (e : KbEntry) : KbEntry :=
  if isKnown e.fixedUbr then e
  else
    match releaseHealthMap.get (kbKey e.kb e.buildMajor) with
    | none => e
    | some ubr => if ubr ≠ 0 then { e with fixedUbr := some ubr } else e

/-- `kbEntries` after a run. -/
def refreshedEntries (t : Texts) (kbEntries : List KbEntry)
    (allEntriesByMonth : OrderedMap (List RawEntry)) (releaseHealthMap : Option (OrderedMap ℕ)) :
    List KbEntry :=
  match releaseHealthMap with
  | none => mergedEntries t kbEntries allEntriesByMonth
  | some health => (mergedEntries t kbEntries allEntriesByMonth).map (backfill health)

/-- `lastError` after the merge (lines 365–368). -/
def fetchError (c : Catalog) (s : FetchState) : Option String :=
  let texts := " | ".intercalate (s.fetchErrors.take 3)
  if s.allEntriesByMonth.keys.length > 0 then
    if s.fetchErrors.length > 0 then
      some (toString s.fetchErrors.length ++ " of 15 months failed to fetch: " ++ texts)
    else none
  else if c.kbEntries.length = 0 then
    if s.fetchErrors.length > 0 then some texts
    else some "No MSRC data fetched yet — check network access to api.msrc.microsoft.com"
  else c.lastError

def refreshOsUpdateCatalog (t : Texts) (c : Catalog) (x : Inputs) : Catalog :=
  let s := fetchMonths c x
  let merged := mergedEntries t c.kbEntries s.allEntriesByMonth
  let suffix :=
    "release-health page fetch failed — patch-level (fixedUbr) comparison unavailable this run"
  { kbEntries := refreshedEntries t c.kbEntries s.allEntriesByMonth x.releaseHealthMap
    monthsFetched := s.monthsFetched
    lastFetchedAt := if s.allEntriesByMonth.keys.length > 0 then some x.nowIso else c.lastFetchedAt
    lastError :=
      if x.releaseHealthMap.isNone ∧ merged.any (fun e => isKnown e.fixedUbr) = false then
        some (match fetchError c s with
          | none => suffix
          | some error => error ++ " | " ++ suffix)
      else fetchError c s
    catalogVersion := some 2 }

/-! ### Pending updates -/

/-- What `windowsDeviceBuild` answers. -/
structure DeviceBuild where
  buildMajor : ℤ
  ubr : ℤ

/-- `windowsDeviceBuild` (lines 155–162), without the label. -/
def windowsDeviceBuild (osVersion : String) : Option DeviceBuild :=
  let v := versionTupleOf osVersion.toList
  if v.length < 3 ∨ v.getD 0 0 ≠ 10 ∨ v.getD 1 0 ≠ 0 then none
  else if v.getD 2 0 < 10000 then none
  else some { buildMajor := v.getD 2 0, ubr := if v.length > 3 then v.getD 3 0 else 0 }

/-- What `computeWindowsPendingUpdates` answers; the rows are listed with all their properties. -/
structure PendingUpdates where
  buildMajor : ℤ
  ubr : ℤ
  latestKnownUbr : Option ℕ
  pendingCount : ℕ
  pendingCveCount : ℕ
  pendingKbs : List KbEntry
  confidence : String

/-- `e.fixedUbr`, where it is known. -/
def KbEntry.ubr (e : KbEntry) : ℕ :=
  e.fixedUbr.getD 0

/-- The rows of the device's build whose revision is known. -/
def sameFamily (d : DeviceBuild) (kbEntries : List KbEntry) : List KbEntry :=
  kbEntries.filter fun e => decide ((e.buildMajor : ℤ) = d.buildMajor) && isKnown e.fixedUbr

/-- Lines 402–414, for the build of a device. -/
def pendingUpdates (d : DeviceBuild) (kbEntries : List KbEntry) : PendingUpdates :=
  let family := sameFamily d kbEntries
  let pending := (family.filter fun e => decide ((e.ubr : ℤ) > d.ubr)).mergeSort fun a b =>
    decide (b.ubr ≤ a.ubr)
  { buildMajor := d.buildMajor
    ubr := d.ubr
    latestKnownUbr := if family.length > 0 then some ((family.map KbEntry.ubr).foldl max 0) else none
    pendingCount := pending.length
    pendingCveCount := (pending.flatMap fun e => e.cveIds).dedup.length
    pendingKbs := pending
    confidence := if family.length > 0 then "build" else "unknown" }

def computeWindowsPendingUpdates (osVersion : Option String) (c : Catalog) :
    Option PendingUpdates :=
  (windowsDeviceBuild (osVersion.getD "")).map fun d => pendingUpdates d c.kbEntries

/-! ## Keys -/

theorem colon_not_mem_repr (n : ℕ) : ':' ∉ n.repr.toList := fun h =>
  absurd (isDigit_of_mem_repr h) (by decide)

theorem colon_append_inj {a b x y : List Char} (hx : ':' ∉ x) (hy : ':' ∉ y)
    (h : a ++ ':' :: x = b ++ ':' :: y) : a = b ∧ x = y := by
  rcases append_eq_append_iff.mp h with ⟨l, rfl, hl⟩ | ⟨l, rfl, hl⟩
  · cases l with
    | nil =>
      rw [nil_append] at hl
      exact ⟨(append_nil a).symm, (List.cons.inj hl).2⟩
    | cons c l =>
      have htail : x = l ++ ':' :: y := (List.cons.inj hl).2
      exact absurd (htail ▸ mem_append_right l mem_cons_self) hx
  · cases l with
    | nil =>
      rw [nil_append] at hl
      exact ⟨append_nil b, (List.cons.inj hl).2.symm⟩
    | cons c l =>
      have htail : y = l ++ ':' :: x := (List.cons.inj hl).2
      exact absurd (htail ▸ mem_append_right l mem_cons_self) hy

/-- **A key is that of one KB and one build.** -/
theorem kbKey_inj {kb kb' : String} {build build' : ℕ} (h : kbKey kb build = kbKey kb' build') :
    kb = kb' ∧ build = build' := by
  have hlist := congrArg String.toList h
  unfold kbKey at hlist
  rw [String.toList_append, String.toList_append, String.toList_append, String.toList_append,
    append_assoc, append_assoc] at hlist
  obtain ⟨hkb, hbuild⟩ := colon_append_inj (colon_not_mem_repr build) (colon_not_mem_repr build')
    hlist
  refine ⟨String.toList_injective hkb, ?_⟩
  have hread := readNat_repr build
  rw [hbuild, readNat_repr] at hread
  exact (Option.some.inj hread).symm

/-! ## Groups -/

section Groups

variable {t : Texts} {kb : String} {build : ℕ} {e : RawEntry} {g : KbRollupEntry}
  {l rawEntries : List RawEntry}

/-- The entry names the KB, for the build. -/
def NamesKb (kb : String) (build : ℕ) (e : RawEntry) : Prop :=
  e.kb.getD "" = kb ∧ e.buildMajor = build

/-- The CVEs that the entries name. -/
def HasCve (l : List RawEntry) (cve : String) : Prop :=
  cve ≠ "" ∧ ∃ e ∈ l, e.cve = some cve

/-- The first revision that is known. -/
def firstKnown (l : List RawEntry) : Option ℕ :=
  (l.find? fun e => isKnown e.fixedUbr).bind RawEntry.fixedUbr

/-- What a group has of its entries. -/
structure GroupOf (kb : String) (build : ℕ) (l : List RawEntry) (g : KbRollupEntry) : Prop where
  kb_eq : g.kb = kb
  build_eq : g.buildMajor = build
  cves : ∀ cve, cve ∈ g.cveIds ↔ HasCve l cve
  nodup : g.cveIds.Nodup
  fixedUbr_eq : g.fixedUbr = firstKnown l
  month : ∃ e ∈ l, g.releaseMonth = e.releaseMonth

variable {cveIds : List String}

theorem mem_addCve {cve : Option String} {c : String} :
    c ∈ addCve cveIds cve ↔ c ∈ cveIds ∨ c ≠ "" ∧ cve = some c := by
  unfold addCve
  cases cve with
  | none => simp
  | some cve =>
    dsimp only
    split_ifs with h
    · refine ⟨.inl, fun hc => hc.elim id ?_⟩
      rintro ⟨hne, heq⟩
      cases heq
      exact h.resolve_left hne
    · rw [not_or] at h
      rw [mem_append, mem_singleton, Option.some.injEq]
      refine or_congr_right ⟨?_, fun hc => hc.2.symm⟩
      rintro rfl
      exact ⟨h.1, rfl⟩

theorem nodup_addCve (cve : Option String) (h : cveIds.Nodup) : (addCve cveIds cve).Nodup := by
  unfold addCve
  cases cve with
  | none => exact h
  | some cve =>
    dsimp only
    split_ifs with hin
    · exact h
    · rw [not_or] at hin
      exact nodup_append.mpr ⟨h, pairwise_singleton _ _, fun a ha b hb heq =>
        hin.2 (mem_singleton.mp hb ▸ heq ▸ ha)⟩

theorem not_hasCve_nil {cve : String} : ¬HasCve [] cve := by
  rintro ⟨-, e, he, -⟩
  cases he

theorem hasCve_concat {cve : String} :
    HasCve (l ++ [e]) cve ↔ HasCve l cve ∨ cve ≠ "" ∧ e.cve = some cve := by
  unfold HasCve
  simp only [mem_append, mem_singleton, or_and_right, exists_or, exists_eq_left,
    and_or_left]

theorem firstKnown_concat : firstKnown (l ++ [e]) =
    if isKnown e.fixedUbr = true ∧ isKnown (firstKnown l) = false then e.fixedUbr
    else firstKnown l := by
  unfold firstKnown
  rw [find?_append]
  cases hfind : l.find? fun e => isKnown e.fixedUbr with
  | some a =>
    have ha := find?_some hfind
    rw [Option.some_or, Option.bind_some, if_neg]
    rw [ha]
    exact fun h => Bool.false_ne_true h.2.symm
  | none =>
    rw [Option.none_or, Option.bind_none, find?_cons]
    cases hknown : isKnown e.fixedUbr with
    | true =>
      rw [if_pos ⟨rfl, rfl⟩]
      rfl
    | false =>
      rw [if_neg fun h => Bool.false_ne_true h.1]
      rfl

/-- **What the entries of one KB and one build make of their group.** -/
theorem groupOf_stepAll (hl : ∀ e ∈ l, NamesKb kb build e)
    (h : OrderedMap.stepAll (intoGroup t) l = some g) : GroupOf kb build l g := by
  induction l using reverseRecOn generalizing g with
  | nil => cases h
  | append_singleton l e ih =>
    obtain ⟨hkb, hbuild⟩ := hl e (mem_append_right _ mem_cons_self)
    rw [OrderedMap.stepAll_concat] at h
    cases Option.some.inj h
    cases hbefore : OrderedMap.stepAll (intoGroup t) l with
    | none =>
      obtain rfl := OrderedMap.eq_nil_of_stepAll (fun _ => rfl) hbefore
      rw [Option.getD_none]
      exact
        { kb_eq := hkb
          build_eq := hbuild
          cves := fun cve => mem_addCve.trans (hasCve_concat.trans
            (or_congr_left (iff_of_false not_hasCve_nil not_mem_nil))).symm
          nodup := nodup_addCve _ nodup_nil
          fixedUbr_eq := (firstKnown_concat (l := [])).symm
          month := ⟨e, mem_cons_self, rfl⟩ }
    | some g =>
      have hg := ih (fun e he => hl e (mem_append_left _ he)) hbefore
      rw [Option.getD_some]
      exact
        { kb_eq := hg.kb_eq
          build_eq := hg.build_eq
          cves := fun cve => mem_addCve.trans ((or_congr_left (hg.cves cve)).trans
            hasCve_concat.symm)
          nodup := nodup_addCve _ hg.nodup
          fixedUbr_eq := by
            rw [firstKnown_concat, ← hg.fixedUbr_eq]
            rfl
          month := by
            obtain ⟨a, ha, hmonth⟩ := hg.month
            exact ⟨a, mem_append_left _ ha, hmonth⟩ }

/-! ## The rows of a bulletin -/

/-- The entries that name a KB for a build. -/
def naming (rawEntries : List RawEntry) (kb : String) (build : ℕ) : List RawEntry :=
  rawEntries.filter fun e => decide (e.kb.getD "" = kb) && decide (e.buildMajor = build)

theorem mem_naming : e ∈ naming rawEntries kb build ↔ e ∈ rawEntries ∧ NamesKb kb build e := by
  rw [naming, mem_filter, Bool.and_eq_true, decide_eq_true_eq, decide_eq_true_eq]
  rfl

theorem get_grouped (hkb : kb ≠ "") : (grouped t rawEntries).get (kbKey kb build) =
    OrderedMap.stepAll (intoGroup t) (naming rawEntries kb build) := by
  rw [grouped, OrderedMap.get_gather, filter_filter]
  congr 1
  refine filter_congr fun e _ => ?_
  rw [Bool.eq_iff_iff, Bool.and_eq_true, Bool.and_eq_true, decide_eq_true_eq, decide_eq_true_eq,
    decide_eq_true_eq, decide_eq_true_eq]
  constructor
  · rintro ⟨hkey, -⟩
    exact kbKey_inj hkey
  · rintro ⟨rfl, rfl⟩
    exact ⟨rfl, hkb⟩

theorem get_grouped_eq_some {key : String} (h : (grouped t rawEntries).get key = some g) :
    key = kbKey g.kb g.buildMajor ∧ g.kb ≠ "" ∧
      OrderedMap.stepAll (intoGroup t) (naming rawEntries g.kb g.buildMajor) = some g := by
  have hstep := h
  rw [grouped, OrderedMap.get_gather] at hstep
  -- the group has an entry, whose KB and build the key is of
  obtain ⟨e, he⟩ : ∃ e, e ∈ (rawEntries.filter fun e => e.kb.getD "" ≠ "").filter
      fun e => kbKey (e.kb.getD "") e.buildMajor = key := by
    refine exists_mem_of_ne_nil _ fun hnil => ?_
    rw [hnil] at hstep
    cases hstep
  obtain ⟨hin, hkey⟩ := mem_filter.mp he
  obtain ⟨-, hne⟩ := mem_filter.mp hin
  rw [decide_eq_true_eq] at hkey hne
  rw [← hkey, get_grouped hne] at h
  have hgroup := groupOf_stepAll (fun e he => (mem_naming.mp he).2) h
  rw [hgroup.kb_eq, hgroup.build_eq]
  exact ⟨hkey.symm, hne, h⟩

/-- What a row has of the entries of its bulletin. -/
structure RowOf (rawEntries : List RawEntry) (r : KbEntry) : Prop where
  kb_ne : r.kb ≠ ""
  named : ∃ e ∈ rawEntries, NamesKb r.kb r.buildMajor e
  cves : ∀ cve, cve ∈ r.cveIds ↔ HasCve (naming rawEntries r.kb r.buildMajor) cve
  nodup : r.cveIds.Nodup
  count : r.cveCount = r.cveIds.length

theorem rollup_perm (t : Texts) (rawEntries : List RawEntry) :
    (rollupKbEntries t rawEntries).Perm ((grouped t rawEntries).values.map finish) :=
  mergeSort_perm _ _

/-- **A row of the rollup.** -/
theorem rowOf_of_mem {r : KbEntry} (h : r ∈ rollupKbEntries t rawEntries) :
    RowOf rawEntries r ∧ r.fixedUbr = firstKnown (naming rawEntries r.kb r.buildMajor) ∧
      ∃ e ∈ rawEntries, r.releaseMonth = e.releaseMonth := by
  obtain ⟨g, hg, rfl⟩ := mem_map.mp ((rollup_perm t rawEntries).mem_iff.mp h)
  obtain ⟨key, hkey⟩ := OrderedMap.mem_values_iff.mp hg
  obtain ⟨-, hne, hstep⟩ := get_grouped_eq_some hkey
  have hgroup := groupOf_stepAll (fun e he => (mem_naming.mp he).2) hstep
  have hperm : (finish g).cveIds.Perm g.cveIds := mergeSort_perm _ _
  obtain ⟨e, he, hmonth⟩ := hgroup.month
  exact ⟨
    { kb_ne := hne
      named := ⟨e, mem_naming.mp he⟩
      cves := fun cve => hperm.mem_iff.trans (hgroup.cves cve)
      nodup := hperm.nodup_iff.mpr hgroup.nodup
      count := hperm.length_eq.symm },
    hgroup.fixedUbr_eq, e, (mem_naming.mp he).1, hmonth⟩

theorem exists_row (hkb : kb ≠ "") (he : e ∈ naming rawEntries kb build) :
    ∃ r ∈ rollupKbEntries t rawEntries, r.kb = kb ∧ r.buildMajor = build := by
  have hsome : (OrderedMap.stepAll (intoGroup t) (naming rawEntries kb build)).isSome :=
    OrderedMap.stepAll_isSome (fun _ => rfl) (ne_nil_of_mem he)
  obtain ⟨g, hg⟩ := Option.isSome_iff_exists.mp hsome
  have hgroup := groupOf_stepAll (fun e he => (mem_naming.mp he).2) hg
  exact ⟨finish g, (rollup_perm t rawEntries).mem_iff.mpr (mem_map_of_mem
    (OrderedMap.mem_values_iff.mpr ⟨_, (get_grouped hkb).trans hg⟩)), hgroup.kb_eq,
    hgroup.build_eq⟩

/-- **A bulletin has one row for a KB and a build.** -/
theorem nodup_rollup (t : Texts) (rawEntries : List RawEntry) :
    ((rollupKbEntries t rawEntries).map fun r => (r.kb, r.buildMajor)).Nodup := by
  refine ((rollup_perm t rawEntries).map _).nodup_iff.mpr ?_
  rw [map_map, OrderedMap.values, map_map]
  refine Nodup.of_map (fun p => kbKey p.1 p.2) ?_
  have hkeys : (grouped t rawEntries).entries.map Prod.fst =
      (grouped t rawEntries).entries.map fun e => kbKey e.2.kb e.2.buildMajor :=
    map_congr_left fun e he =>
      (get_grouped_eq_some (OrderedMap.get_eq_some_iff.mpr he)).1
  rw [map_map]
  exact hkeys ▸ (grouped t rawEntries).nodup

end Groups

end AppliverySoar.Catalogs.OsUpdateCatalog
