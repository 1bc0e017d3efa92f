import AppliverySoar.Compliance.Types
import AppliverySoar.Compliance.VersionOrder
import AppliverySoar.Js.OrderedMap
import AppliverySoar.Lists.Reduce

/-!
# The release a device should have, and the response that is active for it

`gdmfBestTarget` and `gdmfActiveRsr` (gdmfCatalog.ts, lines 83–130) look for a release of
Apple's feed, and for a rapid security response to a base version. Both leave out what is
expired, and keep to the entries that support the device where there are any. The first takes
the greatest version; the second takes what comes first among the entries whose version
starts with the base version as a text.

Results:
* `bestTarget_greatest`: the release has the greatest version.
* `latest_iff_listsLatestFirst`: the response has it exactly if it is listed first.
-/

namespace AppliverySoar.Catalogs

open Js AppliverySoar.Lists Compliance List

/-! ## Model -/

/-- What `parseGdmfRelease` makes of an entry of the feed (lines 33–38). -/
structure GdmfRelease where
  productVersion : Option String := none
  build : Option String := none
  expirationDate : Option String := none
  isExpired : Bool := false
  supportedDevices : List String := []
  supplementalBuildVersion : Option String := none
  cveIds : List String := []
  deriving DecidableEq

structure GdmfCatalog where
  platforms : OrderedMap (List GdmfRelease) := .empty
  rapidSecurityResponses : OrderedMap (List GdmfRelease) := .empty

namespace GdmfCatalog

/-- `(catalog.platforms ?? {})[platform] ?? []`. -/
def releases (catalog : GdmfCatalog) (platform : String) : List GdmfRelease :=
  (catalog.platforms.get platform).getD []

/-- `(catalog.rapidSecurityResponses ?? {})[platform] ?? []`. -/
def rsrEntries (catalog : GdmfCatalog) (platform : String) : List GdmfRelease :=
  (catalog.rapidSecurityResponses.get platform).getD []

/-- `(e.supportedDevices ?? []).some((sd) => deviceIdentifiers.includes(sd))`. -/
def supports (deviceIdentifiers : List String) (e : GdmfRelease) : Bool :=
  e.supportedDevices.any fun sd => deviceIdentifiers.contains sd

/-- The entries that support the device, or all if there are none, and whether there are any
(lines 94–101 and 123–126). -/
def narrow (deviceIdentifiers : Option (List String)) (entries : List GdmfRelease) :
    List GdmfRelease × Bool :=
  match deviceIdentifiers with
  | none => (entries, false)
  | some identifiers =>
    if identifiers = [] then (entries, false)
    else
      let matched := entries.filter (supports identifiers)
      if matched = [] then (entries, false) else (matched, true)

structure GdmfTarget where
  productVersion : Option String
  build : Option String
  expirationDate : Option String
  hardwareMatched : Bool
  deriving DecidableEq

/-- `gdmfBestTarget` (lines 90–104). -/
def gdmfBestTarget (platform : String) (deviceIdentifiers : Option (List String))
    (catalog : Option GdmfCatalog) : Option GdmfTarget :=
  match catalog with
  | none => none
  | some catalog =>
    let entries := (catalog.releases platform).filter fun e => !e.isExpired
    if entries = [] then none
    else
      let narrowed := narrow deviceIdentifiers entries
      let best := reduce (fun a b =>
        if cmpVersions a.productVersion b.productVersion ≥ 0 then a else b) narrowed.1
      best.map fun best =>
        { productVersion := best.productVersion
          build := best.build
          expirationDate := best.expirationDate
          hardwareMatched := narrowed.2 }

/-- What `gdmfActiveRsr` answers when there are a catalog and a base version. -/
inductive ActiveRsr
  | unavailable
  | available (version supplementalBuildVersion build : Option String) (cveIds : List String)
  deriving DecidableEq

/-- An entry that line 122 keeps. -/
def isCandidate (baseProductVersion : String) (e : GdmfRelease) : Bool :=
  !e.isExpired && startsWith (e.productVersion.getD "") baseProductVersion

/-- `gdmfActiveRsr` (lines 118–130). -/
def gdmfActiveRsr (platform : String) (baseProductVersion : Option String)
    (deviceIdentifiers : Option (List String)) (catalog : Option GdmfCatalog) :
    Option ActiveRsr :=
  match catalog, baseProductVersion with
  | some catalog, some base =>
    if base = "" then none
    else
      let rsrEntries := catalog.rsrEntries platform
      if rsrEntries = [] then some .unavailable
      else
        let candidates := (narrow deviceIdentifiers (rsrEntries.filter (isCandidate base))).1
        match candidates with
        | [] => some .unavailable
        | latest :: _ =>
          some (.available latest.productVersion latest.supplementalBuildVersion latest.build
            latest.cveIds)
  | _, _ => none

/-! ## What is asked for -/

/-- `v` is the base version, or goes on with something else than a digit. -/
def Continues (base v : String) : Prop :=
  v = base ∨ ∃ c rest, Char.isDigit c = false ∧ v.toList = base.toList ++ c :: rest

/-- The version of an entry, in the order of `cmpVersions`. -/
def version (e : GdmfRelease) : Lex (ℕ → ℤ) :=
  padded (versionTupleOf (e.productVersion.getD "").toList)

/-- The entry is one of those with `p` that support the device, or one with `p` where none of
them does. -/
def Supporting (deviceIdentifiers : Option (List String)) (p : GdmfRelease → Prop)
    (entries : List GdmfRelease) (e : GdmfRelease) : Prop :=
  (e ∈ entries ∧ p e) ∧ (supports (deviceIdentifiers.getD []) e = true ∨
    ∀ x ∈ entries, p x → supports (deviceIdentifiers.getD []) x = false)

/-- The response is one for the base version. -/
def Applies (base : String) (e : GdmfRelease) : Prop :=
  e.isExpired = false ∧ Continues base (e.productVersion.getD "")

/-- The answer is the response with the greatest version among those for the device. -/
def ServesLatest (base : String) (deviceIdentifiers : Option (List String))
    (entries : List GdmfRelease) : ActiveRsr → Prop
  | .unavailable => ∀ e, ¬Supporting deviceIdentifiers (Applies base) entries e
  | .available productVersion supplementalBuildVersion build cveIds =>
    ∃ e, Supporting deviceIdentifiers (Applies base) entries e ∧
      (e.productVersion = productVersion ∧ e.supplementalBuildVersion = supplementalBuildVersion ∧
        e.build = build ∧ e.cveIds = cveIds) ∧
      ∀ x, Supporting deviceIdentifiers (Applies base) entries x → ¬version e < version x

/-- The target is the release with the greatest version among those for the device. -/
def TargetsGreatest (deviceIdentifiers : Option (List String)) (entries : List GdmfRelease) :
    Option GdmfTarget → Prop
  | none => ∀ e ∈ entries, e.isExpired = true
  | some target =>
    ∃ e, Supporting deviceIdentifiers (fun e => e.isExpired = false) entries e ∧
      target = { productVersion := e.productVersion
                 build := e.build
                 expirationDate := e.expirationDate
                 hardwareMatched := supports (deviceIdentifiers.getD []) e } ∧
      ∀ x, Supporting deviceIdentifiers (fun e => e.isExpired = false) entries x →
        ¬version e < version x

/-- The response that is listed first, of those whose version starts with the base version as
a text, does not go on with a digit, and none behind it that applies is greater. -/
def ListsLatestFirst (base : String) (deviceIdentifiers : Option (List String))
    (entries : List GdmfRelease) : Prop :=
  ∀ before e after, entries = before ++ e :: after →
    Supporting deviceIdentifiers (fun e => isCandidate base e = true) entries e →
    (∀ x ∈ before, ¬Supporting deviceIdentifiers (fun e => isCandidate base e = true) entries x) →
    Continues base (e.productVersion.getD "") ∧
      ∀ x ∈ after, Supporting deviceIdentifiers (Applies base) entries x →
        ¬version e < version x

/-! ## The entries for a device -/

section Narrow

variable {deviceIdentifiers : Option (List String)} {entries : List GdmfRelease} {e : GdmfRelease}
  {p : GdmfRelease → Bool}

theorem supports_nil (e : GdmfRelease) : supports [] e = false :=
  any_eq_false.mpr fun _ _ => Bool.false_ne_true

theorem narrow_eq (deviceIdentifiers : Option (List String)) (entries : List GdmfRelease) :
    narrow deviceIdentifiers entries =
      if entries.filter (supports (deviceIdentifiers.getD [])) = [] then (entries, false)
      else (entries.filter (supports (deviceIdentifiers.getD [])), true) := by
  have hnil : entries.filter (supports []) = [] :=
    filter_eq_nil_iff.mpr fun e _ => by rw [supports_nil]; exact Bool.false_ne_true
  unfold narrow
  cases deviceIdentifiers with
  | none => exact (if_pos hnil).symm
  | some identifiers =>
    dsimp only
    by_cases hempty : identifiers = []
    · rw [if_pos hempty, hempty]
      exact (if_pos hnil).symm
    · rw [if_neg hempty]
      rfl

theorem mem_narrow : e ∈ (narrow deviceIdentifiers (entries.filter p)).1 ↔
    Supporting deviceIdentifiers (fun e => p e = true) entries e := by
  unfold Supporting
  rw [narrow_eq]
  split_ifs with hnone
  · have hall : ∀ x ∈ entries, p x = true → supports (deviceIdentifiers.getD []) x = false :=
      fun x hx hp => Bool.not_eq_true _ ▸
        filter_eq_nil_iff.mp hnone x (mem_filter.mpr ⟨hx, hp⟩)
    exact mem_filter.trans (and_iff_left (.inr hall)).symm
  · obtain ⟨x, hx⟩ := exists_mem_of_ne_nil _ hnone
    obtain ⟨hmem, hsupports⟩ := mem_filter.mp hx
    obtain ⟨hx, hp⟩ := mem_filter.mp hmem
    rw [mem_filter, mem_filter]
    refine and_congr_right fun _ => (or_iff_left fun hall => ?_).symm
    rw [hall x hx hp] at hsupports
    cases hsupports

theorem narrow_matched (h : e ∈ (narrow deviceIdentifiers entries).1) :
    (narrow deviceIdentifiers entries).2 = supports (deviceIdentifiers.getD []) e := by
  rw [narrow_eq] at h ⊢
  split_ifs at h ⊢ with hnone
  · exact (Bool.not_eq_true _ ▸ filter_eq_nil_iff.mp hnone e h).symm
  · exact (mem_filter.mp h).2.symm

theorem exists_narrow_eq_filter (deviceIdentifiers : Option (List String))
    (entries : List GdmfRelease) : ∃ q : GdmfRelease → Bool,
      (narrow deviceIdentifiers entries).1 = entries.filter q := by
  rw [narrow_eq]
  split_ifs
  · exact ⟨fun _ => true, (filter_true entries).symm⟩
  · exact ⟨_, rfl⟩

theorem narrow_ne_nil (deviceIdentifiers : Option (List String)) (h : entries ≠ []) :
    (narrow deviceIdentifiers entries).1 ≠ [] := by
  rw [narrow_eq]
  split_ifs with hnone
  · exact h
  · exact hnone

theorem narrow_eq_cons {rest : List GdmfRelease}
    (h : (narrow deviceIdentifiers (entries.filter p)).1 = e :: rest) :
    ∃ before after, entries = before ++ e :: after ∧
      ∀ x ∈ before, ¬Supporting deviceIdentifiers (fun e => p e = true) entries x := by
  obtain ⟨q, hq⟩ := exists_narrow_eq_filter deviceIdentifiers (entries.filter p)
  have hfilter := hq.symm.trans h
  rw [filter_filter] at hfilter
  obtain ⟨before, after, hentries, hbefore, -, -⟩ := filter_eq_cons_iff.mp hfilter
  refine ⟨before, after, hentries, fun x hx hsupporting => hbefore x hx ?_⟩
  have hmem := mem_narrow.mpr hsupporting
  rw [hq, filter_filter] at hmem
  exact (mem_filter.mp hmem).2

end Narrow

/-! ## The target -/

/-- What `reduce` goes by. -/
theorem cmpVersions_nonneg_iff {a b : GdmfRelease} :
    cmpVersions a.productVersion b.productVersion ≥ 0 ↔ ¬version a < version b :=
  firstDifference_sub_nonneg_iff

/-- **The release has the greatest version** of those for the device. -/
theorem bestTarget_greatest (platform : String) (deviceIdentifiers : Option (List String))
    (catalog : Option GdmfCatalog) :
    TargetsGreatest deviceIdentifiers ((catalog.map fun c => c.releases platform).getD [])
      (gdmfBestTarget platform deviceIdentifiers catalog) := by
  cases catalog with
  | none => exact fun _ he => nomatch he
  | some catalog =>
    show TargetsGreatest deviceIdentifiers (catalog.releases platform)
      (gdmfBestTarget platform deviceIdentifiers (some catalog))
    unfold gdmfBestTarget
    dsimp only
    by_cases hnone : (catalog.releases platform).filter (fun e => !e.isExpired) = []
    · rw [if_pos hnone]
      intro e he
      have hexpired := filter_eq_nil_iff.mp hnone e he
      rwa [Bool.not_eq_true', Bool.not_eq_false] at hexpired
    rw [if_neg hnone]
    obtain ⟨best, hbest⟩ := reduce_isSome (fun a b : GdmfRelease =>
      if cmpVersions a.productVersion b.productVersion ≥ 0 then a else b)
      (narrow_ne_nil deviceIdentifiers hnone)
    have hmem := mem_of_reduce (fun a b => by
      by_cases h : cmpVersions a.productVersion b.productVersion ≥ 0
      · exact .inl (if_pos h)
      · exact .inr (if_neg h)) hbest
    have hgreatest := ahead_of_reduce (fun a b : GdmfRelease => ¬version b < version a)
      (fun a => lt_irrefl _)
      (fun a b c hab hbc => not_lt.mpr (le_trans (not_lt.mp hab) (not_lt.mp hbc)))
      (fun a b => by
        by_cases h : cmpVersions a.productVersion b.productVersion ≥ 0
        · rw [if_pos h]
          exact ⟨lt_irrefl _, cmpVersions_nonneg_iff.mp h⟩
        · rw [if_neg h]
          refine ⟨?_, lt_irrefl _⟩
          rw [cmpVersions_nonneg_iff, not_not] at h
          exact lt_asymm h) hbest
    have hexpired : ∀ x : GdmfRelease, (!x.isExpired) = true ↔ x.isExpired = false := fun x => by
      rw [Bool.not_eq_true']
    rw [hbest]
    refine ⟨best, by simpa only [hexpired] using mem_narrow.mp hmem, ?_, fun x hx =>
      hgreatest x (mem_narrow.mpr (by simpa only [hexpired] using hx))⟩
    rw [narrow_matched hmem]

/-! ## The response -/

section Response

variable {base : String} {deviceIdentifiers : Option (List String)} {entries : List GdmfRelease}
  {e x : GdmfRelease}

theorem isCandidate_iff : isCandidate base e = true ↔
    e.isExpired = false ∧ base.toList <+: (e.productVersion.getD "").toList := by
  rw [isCandidate, Bool.and_eq_true, Bool.not_eq_true', startsWith, isPrefixOf_iff_prefix]

theorem Applies.isCandidate (h : Applies base e) : isCandidate base e = true := by
  obtain ⟨hexpired, hversion | ⟨c, rest, -, hversion⟩⟩ := h
  · exact isCandidate_iff.mpr ⟨hexpired, hversion ▸ prefix_refl _⟩
  · exact isCandidate_iff.mpr ⟨hexpired, c :: rest, hversion.symm⟩

/-- A response for the base version that is among those whose version starts with it as a
text. -/
theorem supporting_applies
    (h : Supporting deviceIdentifiers (fun e => isCandidate base e = true) entries e)
    (hcontinues : Continues base (e.productVersion.getD "")) :
    Supporting deviceIdentifiers (Applies base) entries e := by
  obtain ⟨⟨hmem, hcandidate⟩, hsupports⟩ := h
  exact ⟨⟨hmem, (isCandidate_iff.mp hcandidate).1, hcontinues⟩,
    hsupports.imp_right fun hall x hx happlies => hall x hx happlies.isCandidate⟩

/-- All responses for the base version are among those, if one of them is. -/
theorem Supporting.candidate
    (he : Supporting deviceIdentifiers (fun e => isCandidate base e = true) entries e)
    (hcontinues : Continues base (e.productVersion.getD ""))
    (hx : Supporting deviceIdentifiers (Applies base) entries x) :
    Supporting deviceIdentifiers (fun e => isCandidate base e = true) entries x := by
  obtain ⟨⟨hmem, happlies⟩, hsupports⟩ := hx
  refine ⟨⟨hmem, happlies.isCandidate⟩, hsupports.imp_right fun hall => ?_⟩
  obtain ⟨⟨hmem', hcandidate⟩, hsupports' | hall'⟩ := he
  · rw [hall e hmem' ⟨(isCandidate_iff.mp hcandidate).1, hcontinues⟩] at hsupports'
    cases hsupports'
  · exact hall'

theorem listsLatestFirst_iff {before after : List GdmfRelease}
    (hentries : entries = before ++ e :: after)
    (he : Supporting deviceIdentifiers (fun e => isCandidate base e = true) entries e)
    (hbefore : ∀ x ∈ before,
      ¬Supporting deviceIdentifiers (fun e => isCandidate base e = true) entries x) :
    ListsLatestFirst base deviceIdentifiers entries ↔
      Continues base (e.productVersion.getD "") ∧
        ∀ x, Supporting deviceIdentifiers (Applies base) entries x → ¬version e < version x := by
  constructor
  · intro h
    obtain ⟨hcontinues, hafter⟩ := h before e after hentries he hbefore
    refine ⟨hcontinues, fun x hx => ?_⟩
    have hmem : x ∈ before ++ e :: after := hentries ▸ hx.1.1
    rcases mem_append.mp hmem with hmem | hmem
    · exact absurd (he.candidate hcontinues hx) (hbefore x hmem)
    · rcases mem_cons.mp hmem with rfl | hmem
      · exact lt_irrefl _
      · exact hafter x hmem hx
  · rintro ⟨hcontinues, hgreatest⟩ before' e' after' hentries' he' hbefore'
    have hfirst : e' = e := by
      have hsame := hentries.symm.trans hentries'
      rcases append_eq_append_iff.mp hsame with ⟨l, rfl, hl⟩ | ⟨l, rfl, hl⟩
      · cases l with
        | nil => exact (List.cons.inj hl).1.symm
        | cons a l =>
          obtain ⟨rfl, -⟩ := List.cons.inj hl
          exact absurd he (hbefore' e (mem_append_right _ mem_cons_self))
      · cases l with
        | nil => exact (List.cons.inj hl).1
        | cons a l =>
          obtain ⟨rfl, -⟩ := List.cons.inj hl
          exact absurd he' (hbefore e' (mem_append_right _ mem_cons_self))
    subst hfirst
    exact ⟨hcontinues, fun x _ hx => hgreatest x hx⟩

end Response

theorem activeRsr_iff (platform : String) (base : Option String)
    (deviceIdentifiers : Option (List String)) (catalog : Option GdmfCatalog) :
    (∀ r ∈ gdmfActiveRsr platform base deviceIdentifiers catalog,
      ServesLatest (base.getD "") deviceIdentifiers
        ((catalog.map fun c => c.rsrEntries platform).getD []) r) ↔
    (base.getD "" ≠ "" → ListsLatestFirst (base.getD "") deviceIdentifiers
      ((catalog.map fun c => c.rsrEntries platform).getD [])) := by
  have hnothing : ∀ b, ListsLatestFirst b deviceIdentifiers [] := fun b before e after h =>
    absurd h.symm (append_ne_nil_of_right_ne_nil _ (cons_ne_nil _ _))
  cases catalog with
  | none => exact iff_of_true (fun _ hr => nomatch hr) fun _ => hnothing _
  | some catalog =>
    cases base with
    | none => exact iff_of_true (fun _ hr => nomatch hr) fun hne => absurd rfl hne
    | some base =>
      rw [Option.map_some, Option.getD_some, Option.getD_some]
      unfold gdmfActiveRsr
      dsimp only
      by_cases hbase : base = ""
      · rw [if_pos hbase]
        exact iff_of_true (fun _ hr => nomatch hr) fun hne => absurd hbase hne
      rw [if_neg hbase]
      by_cases hnil : catalog.rsrEntries platform = []
      · rw [if_pos hnil, hnil]
        refine iff_of_true (fun r hr => ?_) fun _ => hnothing base
        cases hr
        exact fun e he => nomatch he.1.1
      rw [if_neg hnil]
      cases hcandidates : (narrow deviceIdentifiers
        ((catalog.rsrEntries platform).filter (isCandidate base))).1 with
      | nil =>
        have hnone : (catalog.rsrEntries platform).filter (isCandidate base) = [] := by
          by_contra hne
          exact narrow_ne_nil deviceIdentifiers hne hcandidates
        have hcandidate : ∀ e ∈ catalog.rsrEntries platform, ¬isCandidate base e = true :=
          filter_eq_nil_iff.mp hnone
        refine iff_of_true (fun r hr => ?_) fun _ before e after hentries he _ =>
          absurd he.1.2 (hcandidate e he.1.1)
        cases hr
        exact fun e he => hcandidate e he.1.1 he.1.2.isCandidate
      | cons latest rest =>
        obtain ⟨before, after, hentries, hbefore⟩ := narrow_eq_cons hcandidates
        have hlatest := mem_narrow.mp (hcandidates ▸ mem_cons_self)
        refine Iff.trans ?_ ((listsLatestFirst_iff hentries hlatest hbefore).symm.trans
          ⟨fun h _ => h, fun h => h hbase⟩)
        constructor
        · intro h
          obtain ⟨e, he, ⟨hversion, -, -, -⟩, hgreatest⟩ := h _ rfl
          refine ⟨hversion ▸ he.1.2.2, fun x hx => ?_⟩
          rw [version, ← hversion]
          exact hgreatest x hx
        · rintro ⟨hcontinues, hgreatest⟩ r hr
          cases hr
          exact ⟨latest, supporting_applies hlatest hcontinues, ⟨rfl, rfl, rfl, rfl⟩, hgreatest⟩

/-- A feed with a response for 17.10 before the one for 17.1. -/
def feedOf1710 : GdmfCatalog where
  rapidSecurityResponses := OrderedMap.empty.set "apple"
    [{ productVersion := some "17.10 (a)" }, { productVersion := some "17.1 (a)" }]

end GdmfCatalog

end AppliverySoar.Catalogs
