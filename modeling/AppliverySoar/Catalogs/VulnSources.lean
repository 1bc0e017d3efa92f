import AppliverySoar.Catalogs.VulnService
import AppliverySoar.Compliance.VersionOrder
import AppliverySoar.Js.Gather
import AppliverySoar.Js.TextOrder

/-!
# One list out of many sources

`mergeRawVulnResults`, `isConfirmedCve` and `filterCvesByPatchLevel`
(vulnSources.ts), as the readers of vulnService.ts use them. A source that has
no entry for a key is `none`; the Worker's own result comes last.

Results:
* `merged_keeps_one`: every id that a mapped source lists is there once, with
  one of the entries that the sources list for it.
-/

namespace AppliverySoar.Catalogs.VulnSources

open Js AppliverySoar.Lists Compliance List

/-! ## Model -/

/-- A runtime with `toUpperCase`. -/
structure Texts extends Runtime where
  toUpperCase : String → String

/-- An element of a `cve_list`: the properties that are read, and the others. -/
structure Cve where
  id : Value := .undefined
  cveId : Value := .undefined
  score : Value := .undefined
  isKev : Value := .undefined
  confirmed : Value := .undefined
  fixedIn : Value := .undefined
  others : List (String × Value) := []

/-- A result of a source. -/
structure RawVulnResult where
  mapped : Bool
  cveList : Option (List Cve)

/-- What `mergeRawVulnResults` returns. -/
structure MergedVulnResult where
  mapped : Bool
  cveList : List Cve

/-- `String(c.id ?? c.cve_id ?? "").toUpperCase()`. -/
def mergeId (t : Texts) (c : Cve) : String :=
  t.toUpperCase (((c.id.orElse c.cveId).orElse (.str "")).text t.toRuntime)

/-- The elements that the loops of `mergeRawVulnResults` reach. -/
def mappedCves (sources : List (Option RawVulnResult)) : List Cve :=
  sources.flatMap fun source =>
    match source with
    | some s => if s.mapped then s.cveList.getD [] else []
    | none => []

/-- `!existing || (existing.score == null && c.score != null)`. -/
def prefer (existing : Option Cve) (c : Cve) : Option Cve :=
  match existing with
  | none => some c
  | some e => if e.score.isNullish && !c.score.isNullish then some c else none

def mergeRawVulnResults (t : Texts) (sources : List (Option RawVulnResult)) : MergedVulnResult where
  mapped := sources.any fun source => source.any RawVulnResult.mapped
  cveList := (OrderedMap.gather (mergeId t) prefer
    ((mappedCves sources).filter fun c => mergeId t c ≠ "")).values

/-- `c.confirmed !== false`. -/
def isConfirmedCve (c : Cve) : Bool :=
  !c.confirmed.strictEq (.bool false)

/-- `osConfirmedList` of `computeVulnServiceStatus` before the patch level, and `cveList` of
`toVersionVulnInfo`. -/
def confirmedCves (t : Texts) (sources : List (Option RawVulnResult)) : List Cve :=
  (mergeRawVulnResults t sources).cveList.filter isConfirmedCve

/-- The test of `filterCvesByPatchLevel` for a `fixed_in` that is a text. -/
def keepsFix (workerPlatform osPatchLevel fixedIn : String) : Bool :=
  if fixedIn = "" then true
  else if workerPlatform = "android" then decide (units osPatchLevel < units fixedIn)
  else if workerPlatform = "macos" ∨ workerPlatform = "ios" then
    match extractLeadingVersion osPatchLevel with
    | none => true
    | some deviceVersion =>
      decide (0 < compareVersionTuples (versionTuple fixedIn) (versionTuple deviceVersion))
  else true

/-- The test of `filterCvesByPatchLevel`. -/
def keepsCve (workerPlatform osPatchLevel : String) (c : Cve) : Bool :=
  match c.fixedIn with
  | .str fixedIn => keepsFix workerPlatform osPatchLevel fixedIn
  | _ => true

def filterCvesByPatchLevel (cveList : List Cve) (workerPlatform : String)
    (osPatchLevel : Option String) : List Cve :=
  match osPatchLevel with
  | none => cveList
  | some level => if level = "" then cveList else cveList.filter (keepsCve workerPlatform level)

/-! ## The merged list -/

variable {t : Texts} {sources : List (Option RawVulnResult)} {c e : Cve} {cves : List Cve}
  {l : List Cve} {k : String}

/-- A source that is mapped lists it. -/
def Lists (source : Option RawVulnResult) (c : Cve) : Prop :=
  ∃ s l, source = some s ∧ s.mapped = true ∧ s.cveList = some l ∧ c ∈ l

theorem mem_mappedCves : c ∈ mappedCves sources ↔ ∃ source ∈ sources, Lists source c := by
  refine mem_flatMap.trans (exists_congr fun source => and_congr_right fun _ => ?_)
  rcases source with _ | ⟨mapped, cveList⟩
  · exact iff_of_false not_mem_nil fun ⟨s, l, hs, _⟩ => nomatch hs
  · rcases mapped with _ | _
    · refine iff_of_false not_mem_nil ?_
      rintro ⟨s, l, hs, hmapped, -⟩
      obtain rfl := Option.some.inj hs
      cases hmapped
    · cases cveList with
      | none =>
        refine iff_of_false not_mem_nil ?_
        rintro ⟨s, l, hs, -, hl, -⟩
        obtain rfl := Option.some.inj hs
        cases hl
      | some l =>
        refine ⟨fun hc => ⟨_, l, rfl, rfl, rfl, hc⟩, ?_⟩
        rintro ⟨s, l', hs, -, hl, hc⟩
        obtain rfl := Option.some.inj hs
        exact Option.some.inj hl ▸ hc

theorem prefer_none (c : Cve) : (prefer none c).isSome := rfl

theorem mem_of_stepAll_prefer (h : OrderedMap.stepAll prefer l = some e) :
    e ∈ l := by
  induction l using reverseRecOn generalizing e with
  | nil => cases h
  | append_singleton l c ih =>
    rw [OrderedMap.stepAll_concat] at h
    cases hl : OrderedMap.stepAll prefer l with
    | none =>
      rw [hl] at h
      obtain rfl := Option.some.inj h
      exact mem_append_right _ mem_cons_self
    | some e' =>
      rw [hl, prefer] at h
      split_ifs at h
      · obtain rfl := Option.some.inj h
        exact mem_append_right _ mem_cons_self
      · obtain rfl := Option.some.inj h
        exact mem_append_left _ (ih hl)

theorem scored_of_stepAll_prefer (h : OrderedMap.stepAll prefer l = some e)
    (hc : c ∈ l) (hscore : c.score.isNullish = false) : e.score.isNullish = false := by
  induction l using reverseRecOn generalizing e with
  | nil => cases hc
  | append_singleton l d ih =>
    rw [OrderedMap.stepAll_concat] at h
    cases hl : OrderedMap.stepAll prefer l with
    | none =>
      rw [hl] at h
      obtain rfl := Option.some.inj h
      have hnil : l = [] := by
        by_contra hne
        have hsome := OrderedMap.stepAll_isSome prefer_none hne
        rw [hl] at hsome
        cases hsome
      rw [hnil, nil_append, mem_singleton] at hc
      exact hc ▸ hscore
    | some e' =>
      rw [hl, prefer] at h
      split_ifs at h with hbetter
      · obtain rfl := Option.some.inj h
        rw [Bool.and_eq_true, Bool.not_eq_true'] at hbetter
        exact hbetter.2
      · obtain rfl := Option.some.inj h
        rcases mem_append.mp hc with hc | hc
        · exact ih hl hc
        · obtain rfl := mem_singleton.mp hc
          rw [hscore, Bool.not_false, Bool.and_true, Bool.not_eq_true] at hbetter
          exact hbetter

/-- The entries under which the merge keeps the lists' elements. -/
def byId (t : Texts) (cves : List Cve) : OrderedMap Cve :=
  OrderedMap.gather (mergeId t) prefer (cves.filter fun c => mergeId t c ≠ "")

theorem get_byId (h : (byId t cves).get k = some e) :
    e ∈ cves ∧ mergeId t e = k ∧ k ≠ "" := by
  rw [byId, OrderedMap.get_gather, filter_filter] at h
  obtain ⟨hmem, hid⟩ := mem_filter.mp (mem_of_stepAll_prefer h)
  rw [Bool.and_eq_true, decide_eq_true_eq, decide_eq_true_eq] at hid
  exact ⟨hmem, hid.1, hid.1 ▸ hid.2⟩

theorem values_byId (cves : List Cve) :
    (byId t cves).values.map (mergeId t) = (byId t cves).keys := by
  rw [OrderedMap.values, OrderedMap.keys, map_map]
  exact map_congr_left fun p hp => (get_byId (OrderedMap.get_eq_some_iff.mpr hp)).2.1

theorem mem_keys_byId :
    k ∈ (byId t cves).keys ↔ k ≠ "" ∧ ∃ c ∈ cves, mergeId t c = k := by
  rw [byId, OrderedMap.mem_keys_gather prefer_none]
  constructor
  · rintro ⟨c, hc, rfl⟩
    obtain ⟨hmem, hid⟩ := mem_filter.mp hc
    exact ⟨of_decide_eq_true hid, c, hmem, rfl⟩
  · rintro ⟨hk, c, hmem, rfl⟩
    exact ⟨c, mem_filter.mpr ⟨hmem, decide_eq_true hk⟩, rfl⟩

theorem mem_merged : e ∈ (mergeRawVulnResults t sources).cveList ↔
    ∃ k, (byId t (mappedCves sources)).get k = some e :=
  OrderedMap.mem_values_iff

theorem ids_merged (t : Texts) (sources : List (Option RawVulnResult)) :
    (mergeRawVulnResults t sources).cveList.map (mergeId t) =
      (byId t (mappedCves sources)).keys :=
  values_byId _

variable {source : Option RawVulnResult}

theorem exists_merged (hsource : source ∈ sources)
    (hc : Lists source c) (hid : mergeId t c ≠ "") :
    ∃ e ∈ (mergeRawVulnResults t sources).cveList, mergeId t e = mergeId t c := by
  have hkey : mergeId t c ∈ (byId t (mappedCves sources)).keys :=
    mem_keys_byId.mpr ⟨hid, c, mem_mappedCves.mpr ⟨source, hsource, hc⟩, rfl⟩
  rw [← ids_merged] at hkey
  exact mem_map.mp hkey

theorem listed_of_merged (he : e ∈ (mergeRawVulnResults t sources).cveList) :
    ∃ source ∈ sources, Lists source e := by
  obtain ⟨k, hk⟩ := mem_merged.mp he
  exact mem_mappedCves.mp (get_byId hk).1

theorem scored_of_merged (he : e ∈ (mergeRawVulnResults t sources).cveList)
    (hsource : source ∈ sources) (hc : Lists source c)
    (hid : mergeId t c = mergeId t e) (hscore : c.score.isNullish = false) :
    e.score.isNullish = false := by
  obtain ⟨k, hk⟩ := mem_merged.mp he
  obtain ⟨-, hek, hne⟩ := get_byId hk
  rw [byId, OrderedMap.get_gather] at hk
  refine scored_of_stepAll_prefer hk ?_ hscore
  rw [filter_filter]
  refine mem_filter.mpr ⟨mem_mappedCves.mpr ⟨source, hsource, hc⟩, ?_⟩
  rw [hid, hek, Bool.and_eq_true, decide_eq_true_eq, decide_eq_true_eq]
  exact ⟨rfl, hne⟩

/-- **One entry for each id.** Every id that a mapped source lists is listed once, with one of
the entries that the sources have for it, as it is; an entry with a score is preferred, so
that the one of a source is kept that alone has a score for the id. -/
theorem merged_keeps_one (t : Texts) (sources : List (Option RawVulnResult)) :
    ((mergeRawVulnResults t sources).cveList.map (mergeId t)).Nodup ∧
    (∀ k, k ∈ (mergeRawVulnResults t sources).cveList.map (mergeId t) ↔
      k ≠ "" ∧ ∃ source ∈ sources, ∃ c, Lists source c ∧ mergeId t c = k) ∧
    (∀ e ∈ (mergeRawVulnResults t sources).cveList,
      (∃ source ∈ sources, Lists source e) ∧
      ∀ source ∈ sources, ∀ c, Lists source c → mergeId t c = mergeId t e →
        c.score.isNullish = false → e.score.isNullish = false) ∧
    (∀ e ∈ (mergeRawVulnResults t sources).cveList,
      (∀ source ∈ sources, ∀ c, Lists source c → mergeId t c = mergeId t e → c.isKev.truthy) →
        e.isKev.truthy) ∧
    (∀ e ∈ (mergeRawVulnResults t sources).cveList,
      (∀ source ∈ sources, ∀ c, Lists source c → mergeId t c = mergeId t e → isConfirmedCve c) →
        e ∈ confirmedCves t sources) ∧
    ∀ extra worker c, sources = extra ++ [worker] → Lists worker c → mergeId t c ≠ "" →
      c.score.isNullish = false →
      (∀ source ∈ extra, ∀ d, Lists source d → mergeId t d = mergeId t c → d.score.isNullish) →
      ∃ e ∈ (mergeRawVulnResults t sources).cveList, mergeId t e = mergeId t c ∧
        Lists worker e ∧ e.score.isNullish = false := by
  refine ⟨?_, fun k => ?_, fun e he => ⟨listed_of_merged he, fun source hsource c hc hid =>
    scored_of_merged he hsource hc hid⟩, fun e he hall => ?_, fun e he hall => ?_, ?_⟩
  · rw [ids_merged]
    exact (byId t (mappedCves sources)).nodup
  · rw [ids_merged, mem_keys_byId]
    refine and_congr_right fun _ => ⟨?_, ?_⟩
    · rintro ⟨c, hc, hk⟩
      obtain ⟨source, hsource, hlists⟩ := mem_mappedCves.mp hc
      exact ⟨source, hsource, c, hlists, hk⟩
    · rintro ⟨source, hsource, c, hlists, hk⟩
      exact ⟨c, mem_mappedCves.mpr ⟨source, hsource, hlists⟩, hk⟩
  · obtain ⟨source, hsource, hlists⟩ := listed_of_merged he
    exact hall source hsource e hlists rfl
  · obtain ⟨source, hsource, hlists⟩ := listed_of_merged he
    exact mem_filter.mpr ⟨he, hall source hsource e hlists rfl⟩
  · rintro extra worker c rfl hc hid hscore hextra
    have hworker : worker ∈ extra ++ [worker] := mem_append_right _ mem_cons_self
    obtain ⟨e, he, heid⟩ := exists_merged hworker hc hid
    have hescore := scored_of_merged he hworker hc heid.symm hscore
    refine ⟨e, he, heid, ?_, hescore⟩
    obtain ⟨source, hsource, hlists⟩ := listed_of_merged he
    rcases mem_append.mp hsource with hsource | hsource
    · rw [hextra source hsource e hlists heid] at hescore
      cases hescore
    · exact mem_singleton.mp hsource ▸ hlists

/-- A runtime that knows the letters of ASCII. -/
def asciiTexts : Texts where
  now := 0
  parseDate _ := none
  parseNumber _ := none
  printNumber n := toString n.num
  toLowerCase := String.map Char.toLower
  inherited _ := .undefined
  setMember _ _ := .undefined
  toUpperCase := String.map Char.toUpper

/-- MISP knows a CVE to be exploited, the Worker gives it a score and does not confirm it. -/
def kevStub : List (Option RawVulnResult) :=
  [some ⟨true, some [{ id := .str "cve-2024-1", isKev := .bool true }]⟩,
    some ⟨true, some [{ id := .str "CVE-2024-1", score := .num 5, confirmed := .bool false }]⟩]

/-- VulnCheck and the Worker give different scores. -/
def twoScores : List (Option RawVulnResult) :=
  [some ⟨true, some [{ id := .str "CVE-2024-1", score := .num 5 }]⟩,
    some ⟨true, some [{ id := .str "CVE-2024-1", score := .num 9 }]⟩]

/-- The flags of an entry that is not kept are lost, also where they keep the id in the list of
confirmed CVEs; and the Worker's score does not replace another one. -/
theorem merged_loses :
    (mappedCves kevStub).map (fun c => (c.isKev.truthy, isConfirmedCve c)) =
        [(true, true), (false, false)] ∧
      (mergeRawVulnResults asciiTexts kevStub).cveList.map
        (fun c => (mergeId asciiTexts c, c.isKev.truthy)) = [("CVE-2024-1", false)] ∧
      (confirmedCves asciiTexts kevStub).length = 0 ∧
      (mergeRawVulnResults asciiTexts twoScores).cveList.map
        (fun c => (mergeId asciiTexts c, c.score.strictEq (.num 9))) = [("CVE-2024-1", false)] := by
  have hid : ∀ c ∈ mappedCves kevStub, mergeId asciiTexts c = "CVE-2024-1" := by decide +kernel
  have hfilter : ((mappedCves kevStub).filter fun c => mergeId asciiTexts c ≠ "") =
      mappedCves kevStub :=
    filter_eq_self.mpr fun c hc => by rw [hid c hc]; decide
  -- both have one id, so the loop sees one key
  have hmerged : (mergeRawVulnResults asciiTexts kevStub).cveList =
      (OrderedMap.gather (fun _ => "CVE-2024-1") prefer (mappedCves kevStub)).values := by
    rw [mergeRawVulnResults, hfilter, OrderedMap.gather_congr hid]
  have hflags : (confirmedCves asciiTexts kevStub).length = 0 := by
    rw [confirmedCves, hmerged]
    decide +kernel
  refine ⟨by decide +kernel, ?_, hflags, by decide +kernel⟩
  rw [hmerged]
  decide +kernel

end AppliverySoar.Catalogs.VulnSources
