import AppliverySoar.Catalogs.AndroidIndex
import Mathlib.Algebra.Order.Ring.Rat

/-!
# What the later releases of a track fix

`computeOutstandingByVersion` (sofaService.ts, lines 167–203) makes a list of CVEs for each
release of an Apple track: what the releases behind it fix, in the order of their dates. The
lists are cached under `platform|version`, and a version without a row of its own gets the one
of the nearest older version (lines 297–341).

Results:
* `outstanding_listed`: what is in the list of a release.
* `cacheRow_floor`: which row a version gets.
* `outstanding_laws`: both.
-/

namespace AppliverySoar.Catalogs.SofaService

open Js AppliverySoar.Lists Compliance List
open Catalogs.VulnSources (Texts asciiTexts)

/-! ## Model -/

/-- An element of `CVEs`. -/
structure SofaCveDetail where
  activelyExploited : Bool := false
  inKev : Bool := false
  severity : Option String := none

/-- A release of a track; an empty `ProductVersion` or `ReleaseDate` is one that is missing. -/
structure SofaRelease where
  updateName : Option String := none
  productVersion : String
  releaseDate : String := ""
  securityInfo : Option String := none
  cves : Option (OrderedMap SofaCveDetail) := none
  activelyExploitedCves : Option (List String) := none

structure SofaOsVersionTrack where
  latest : Option SofaRelease := none
  securityReleases : Option (List SofaRelease) := none

/-- An element of a list; the properties that are the same in all elements are left out. -/
structure SofaCve where
  id : String
  severity : Option OsvAndroid.Severity
  isKev : Bool
  fixedIn : String
  releaseName : Option String
  securityInfo : Option String
  deriving DecidableEq

/-- `mapSeverity` (lines 123–130), which is that of osvAndroidService.ts. -/
def mapSeverity (toUpperCase : String → String) (raw : Option String) :
    Option OsvAndroid.Severity :=
  OsvAndroid.mapSeverity toUpperCase raw

/-- `byVersion` (lines 169–172). -/
def byVersion (track : SofaOsVersionTrack) : OrderedMap SofaRelease :=
  OrderedMap.gather SofaRelease.productVersion OrderedMap.first
    ((track.latest.toList ++ track.securityReleases.getD []).filter fun r =>
      r.productVersion ≠ "")

/-- The releases of `byVersion` that have a date. -/
def indexed (track : SofaOsVersionTrack) : List SofaRelease :=
  (byVersion track).values.filter fun r => r.releaseDate ≠ ""

section Texts

variable (t : Texts)

/-- `new Date(a.ReleaseDate).getTime() - new Date(b.ReleaseDate).getTime() <= 0`; where one of
the dates cannot be read, the difference counts as zero. -/
def notLater (a b : SofaRelease) : Bool :=
  match t.parseDate a.releaseDate, t.parseDate b.releaseDate with
  | some x, some y => x ≤ y
  | _, _ => true

/-- `releases` (lines 173–175). -/
def releases (track : SofaOsVersionTrack) : List SofaRelease :=
  (indexed track).mergeSort (notLater t)

/-- What lines 185–197 make of the `CVEs` of a release. -/
def fixedBy (later : SofaRelease) : List SofaCve :=
  ((later.cves.map OrderedMap.entries).getD []).map fun e =>
    { id := t.toUpperCase e.1
      severity := mapSeverity t.toUpperCase e.2.severity
      isKev := e.2.inKev || e.2.activelyExploited ||
        (later.activelyExploitedCves.getD []).contains e.1
      fixedIn := later.productVersion
      releaseName := later.updateName
      securityInfo := later.securityInfo }

/-- `Array.from(seen.values())` (lines 180–200), for the releases from `i + 1` on. -/
def outstanding (laters : List SofaRelease) : List SofaCve :=
  (OrderedMap.gather SofaCve.id OrderedMap.first (laters.flatMap (fixedBy t))).values

/-- The loop over the releases (lines 178–201). -/
def outstandingFrom (out : OrderedMap (List SofaCve)) :
    List SofaRelease → OrderedMap (List SofaCve)
  | [] => out
  | current :: laters =>
    outstandingFrom (out.set current.productVersion (outstanding t laters)) laters

def computeOutstandingByVersion (track : SofaOsVersionTrack) : OrderedMap (List SofaCve) :=
  outstandingFrom t .empty (releases t track)

end Texts

/-- A row of the cache table of a workspace. -/
structure SofaCacheRow (Result : Type) where
  key : String
  result : Result
  deriving DecidableEq

section Cache

variable {Result : Type}

/-- `versionTuple(c.key.slice(platform.length + 1))`. -/
def rowTuple (platform : String) (c : SofaCacheRow Result) : List ℤ :=
  versionTupleOf (c.key.toList.drop (platform.toList.length + 1))

/-- One turn of the loop over the candidates (lines 313–321). -/
def closer (platform : String) (deviceTuple : List ℤ) (best : Option (SofaCacheRow Result))
    (c : SofaCacheRow Result) : Option (SofaCacheRow Result) :=
  if cmpTuples (rowTuple platform c) deviceTuple > 0 then none
  else
    match best with
    | none => some c
    | some b => if cmpTuples (rowTuple platform c) (rowTuple platform b) > 0 then some c else none

/-- `getSofaCacheRow`, on the rows of the workspace. -/
def getSofaCacheRow (rows : List (SofaCacheRow Result)) (key : String) :
    Option (SofaCacheRow Result) :=
  match rows.find? fun row => row.key = key with
  | some hit => some hit
  | none =>
    let parts := key.toList.splitOn '|'
    let platform := String.ofList (parts.getD 0 [])
    let versionStr := String.ofList (parts.getD 1 [])
    if platform = "" ∨ versionStr = "" then none
    else
      OrderedMap.stepAll (closer platform (versionTupleOf versionStr.toList))
        (rows.filter fun row => startsWith row.key (platform ++ "|"))

def getSofaCacheRows (rows : List (SofaCacheRow Result)) (keys : List String) :
    List (SofaCacheRow Result) :=
  keys.filterMap fun requestedKey =>
    (getSofaCacheRow rows requestedKey).map fun row => { row with key := requestedKey }

end Cache

/-! ## The order of the releases -/

section Releases

variable {t : Texts} {track : SofaOsVersionTrack} {r r' : SofaRelease} {c : SofaCve}

/-- The second release is dated after the first. -/
def Later (t : Texts) (r r' : SofaRelease) : Prop :=
  ∃ x y, t.parseDate r.releaseDate = some x ∧ t.parseDate r'.releaseDate = some y ∧ x < y

/-- All dates of the track can be read. -/
def DatesRead (t : Texts) (track : SofaOsVersionTrack) : Prop :=
  ∀ r ∈ indexed track, ∃ x, t.parseDate r.releaseDate = some x

theorem later_irrefl (t : Texts) (r : SofaRelease) : ¬Later t r r := by
  rintro ⟨x, y, hx, hy, hlt⟩
  cases hx.symm.trans hy
  exact lt_irrefl x hlt

theorem nodup_indexed (track : SofaOsVersionTrack) :
    ((indexed track).map SofaRelease.productVersion).Nodup := by
  have hkeys : ((byVersion track).values.map SofaRelease.productVersion).Nodup := by
    rw [byVersion, OrderedMap.map_values_gather_first]
    exact (byVersion track).nodup
  exact hkeys.sublist (filter_sublist.map _)

theorem releases_perm (t : Texts) (track : SofaOsVersionTrack) :
    (releases t track).Perm (indexed track) :=
  mergeSort_perm _ _

theorem releases_sorted (h : DatesRead t track) :
    (releases t track).Pairwise fun r r' => ¬Later t r' r := by
  -- the comparison by dates that is one on all releases
  let date := fun r : SofaRelease => (t.parseDate r.releaseDate).getD 0
  have hsame : ∀ a ∈ indexed track, ∀ b ∈ indexed track,
      notLater t a b = decide (date a ≤ date b) := by
    intro a ha b hb
    obtain ⟨x, hx⟩ := h a ha
    obtain ⟨y, hy⟩ := h b hb
    show notLater t a b = decide ((t.parseDate _).getD 0 ≤ (t.parseDate _).getD 0)
    unfold notLater
    rw [hx, hy]
    rfl
  have hsort : releases t track =
      (indexed track).mergeSort fun a b => decide (date a ≤ date b) := by
    have hmap := map_mergeSort (s := fun a b => decide (date a ≤ date b)) (f := id) hsame
    rwa [map_id, map_id] at hmap
  rw [hsort]
  refine (pairwise_mergeSort (fun a b c hab hbc => ?_) (fun a b => ?_) _).imp fun hle => ?_
  · exact decide_eq_true (le_trans (of_decide_eq_true hab) (of_decide_eq_true hbc))
  · rw [Bool.or_eq_true, decide_eq_true_eq, decide_eq_true_eq]
    exact le_total _ _
  · rintro ⟨x, y, hx, hy, hlt⟩
    have hdates := of_decide_eq_true hle
    simp only [date, hx, hy, Option.getD_some] at hdates
    exact not_lt.mpr hdates hlt

/-! ## The lists -/

variable {laters : List SofaRelease}

/-- What is in a list comes from the first release that fixes it. -/
theorem mem_outstanding (h : c ∈ outstanding t laters) :
    ∃ before r' after, laters = before ++ r' :: after ∧ c ∈ fixedBy t r' ∧
      ∀ r'' ∈ before, ∀ c'' ∈ fixedBy t r'', c''.id ≠ c.id := by
  have hfind := OrderedMap.mem_values_gather_first.mp h
  rw [find?_flatMap] at hfind
  obtain ⟨before, r', after, hlaters, hfound, hbefore⟩ := findSome?_eq_some_iff.mp hfind
  refine ⟨before, r', after, hlaters, mem_of_find?_eq_some hfound, fun r'' hr'' c'' hc'' => ?_⟩
  have hnone := find?_eq_none.mp (hbefore r'' hr'') c'' hc''
  rwa [decide_eq_true_eq] at hnone

theorem nodup_outstanding (t : Texts) (laters : List SofaRelease) :
    ((outstanding t laters).map SofaCve.id).Nodup := by
  rw [outstanding, OrderedMap.map_values_gather_first]
  exact OrderedMap.nodup _

theorem exists_mem_outstanding (hr : r ∈ laters)
    (hc : c ∈ fixedBy t r) : ∃ c' ∈ outstanding t laters, c'.id = c.id := by
  have hsome : ((laters.flatMap (fixedBy t)).find? fun c' => c'.id = c.id).isSome :=
    find?_isSome.mpr ⟨c, mem_flatMap.mpr ⟨r, hr, hc⟩, decide_eq_true rfl⟩
  obtain ⟨c', hc'⟩ := Option.isSome_iff_exists.mp hsome
  have hid := find?_some hc'
  exact ⟨c', OrderedMap.mem_values_gather_first.mpr (of_decide_eq_true hid ▸ hc'),
    of_decide_eq_true hid⟩

variable {out : OrderedMap (List SofaCve)} {l : List SofaRelease}

theorem get_outstandingFrom
    (hnodup : (l.map SofaRelease.productVersion).Nodup) {before after : List SofaRelease}
    (hl : l = before ++ r :: after) :
    (outstandingFrom t out l).get r.productVersion = some (outstanding t after) := by
  have hother : ∀ (l : List SofaRelease) (out : OrderedMap (List SofaCve)) (v : String),
      (∀ r ∈ l, r.productVersion ≠ v) → (outstandingFrom t out l).get v = out.get v := by
    intro l
    induction l with
    | nil => exact fun _ _ _ => rfl
    | cons current laters ih =>
      intro out v hv
      rw [outstandingFrom, ih _ _ fun r hr => hv r (mem_cons_of_mem _ hr),
        OrderedMap.get_set, if_neg (hv current mem_cons_self).symm]
  induction before generalizing l out with
  | nil =>
    subst hl
    rw [nil_append] at hnodup ⊢
    obtain ⟨hhead, -⟩ := nodup_cons.mp hnodup
    rw [outstandingFrom, hother after _ _ fun x hx hv => hhead (mem_map.mpr ⟨x, hx, hv⟩),
      OrderedMap.get_set_self]
  | cons a before ih =>
    subst hl
    rw [cons_append] at hnodup ⊢
    rw [outstandingFrom]
    exact ih (nodup_cons.mp hnodup).2 rfl

theorem mem_keys_outstandingFrom {v : String} : v ∈ (outstandingFrom t out l).keys ↔
      (∃ r ∈ l, r.productVersion = v) ∨ v ∈ out.keys := by
  induction l generalizing out with
  | nil => simp [outstandingFrom]
  | cons current laters ih =>
    have hset : v ∈ (out.set current.productVersion (outstanding t laters)).keys ↔
        v = current.productVersion ∨ v ∈ out.keys := mem_keys_setEntry
    rw [outstandingFrom, ih, hset]
    simp only [mem_cons, exists_eq_or_imp]
    rw [or_left_comm, ← or_assoc, eq_comm]

/-- The indexed versions are those of the releases with a date. -/
theorem mem_keys_outstanding {v : String} :
    v ∈ (computeOutstandingByVersion t track).keys ↔ ∃ r ∈ indexed track, r.productVersion = v := by
  rw [computeOutstandingByVersion, mem_keys_outstandingFrom]
  simp only [(releases_perm t track).mem_iff]
  exact or_iff_left (not_mem_nil)

/-- What is said of the list of a release. -/
structure ListsOutstanding (t : Texts) (track : SofaOsVersionTrack) (r : SofaRelease)
    (cves : List SofaCve) : Prop where
  nodup : (cves.map SofaCve.id).Nodup
  complete : DatesRead t track → ∀ r' ∈ indexed track, Later t r r' →
    ∀ c ∈ fixedBy t r', ∃ c' ∈ cves, c'.id = c.id
  sound : ∀ c ∈ cves, ∃ r' ∈ indexed track, r'.productVersion ≠ r.productVersion ∧
    c ∈ fixedBy t r' ∧ c.fixedIn = r'.productVersion ∧
    (DatesRead t track → ¬Later t r' r ∧ ∀ r'' ∈ indexed track, Later t r r'' →
      ∀ c'' ∈ fixedBy t r'', c''.id = c.id → ¬Later t r'' r')

/-- **What is in the list of a release.** -/
theorem outstanding_listed (hr : r ∈ indexed track) :
    ∃ cves, (computeOutstandingByVersion t track).get r.productVersion = some cves ∧
      ListsOutstanding t track r cves := by
  have hperm := releases_perm t track
  obtain ⟨earlier, laters, hreleases⟩ := append_of_mem (hperm.mem_iff.mpr hr)
  have hnodup : ((releases t track).map SofaRelease.productVersion).Nodup :=
    (hperm.map _).nodup_iff.mpr (nodup_indexed track)
  have hmem : ∀ x ∈ laters, x ∈ indexed track := fun x hx => hperm.mem_iff.mp
    (hreleases ▸ mem_append_right _ (mem_cons_of_mem _ hx))
  -- a release that is dated after this one is behind it
  have hbehind : DatesRead t track → ∀ r' ∈ indexed track, Later t r r' → r' ∈ laters := by
    intro hdates r' hr' hlater
    have hsorted := releases_sorted hdates
    have hin := hperm.mem_iff.mpr hr'
    rw [hreleases] at hsorted hin
    rcases mem_append.mp hin with hin | hin
    · exact absurd hlater
        ((pairwise_append.mp hsorted).2.2 r' hin r mem_cons_self)
    · rcases mem_cons.mp hin with rfl | hin
      · exact absurd hlater (later_irrefl t r')
      · exact hin
  refine ⟨outstanding t laters, get_outstandingFrom hnodup hreleases,
    nodup_outstanding t laters, fun hdates r' hr' hlater c hc =>
      exists_mem_outstanding (hbehind hdates r' hr' hlater) hc, fun c hc => ?_⟩
  obtain ⟨before, r', after, hlaters, hfixed, hfirst⟩ := mem_outstanding hc
  have hr' : r' ∈ laters := hlaters ▸ mem_append_right _ mem_cons_self
  refine ⟨r', hmem r' hr', fun hversion => ?_, hfixed, ?_, fun hdates => ⟨?_, ?_⟩⟩
  · rw [hreleases, map_append, map_cons] at hnodup
    have hhead := (nodup_cons.mp (nodup_append.mp hnodup).2.1).1
    exact hhead (mem_map.mpr ⟨r', hr', hversion⟩)
  · obtain ⟨e, -, rfl⟩ := mem_map.mp hfixed
    rfl
  · have hsorted := releases_sorted hdates
    rw [hreleases] at hsorted
    have htail := (pairwise_append.mp hsorted).2.1
    exact (pairwise_cons.mp htail).1 r' hr'
  · intro r'' hr'' hlater c'' hc'' hid
    have hin := hbehind hdates r'' hr'' hlater
    have hsorted := releases_sorted hdates
    rw [hreleases, hlaters] at hsorted
    rw [hlaters] at hin
    rcases mem_append.mp hin with hin | hin
    · exact absurd hid (hfirst r'' hin c'' hc'')
    · rcases mem_cons.mp hin with rfl | hin
      · exact later_irrefl t r''
      · have htail := (pairwise_cons.mp (pairwise_append.mp hsorted).2.1).2
        exact (pairwise_cons.mp (pairwise_append.mp htail).2.1).1 r'' hin

end Releases

/-! ## The row of a version -/

section Rows

variable {Result : Type} {rows : List (SofaCacheRow Result)} {platform v w : String}
  {row c : SofaCacheRow Result}

/-- The row is one for the platform and the version. -/
def IsFor (platform w : String) (row : SofaCacheRow Result) : Prop :=
  row.key = platform ++ "|" ++ w

/-- The first version is below the second. -/
def VersionLt (v w : String) : Prop :=
  padded (versionTupleOf v.toList) < padded (versionTupleOf w.toList)

theorem toList_key (h : IsFor platform w row) :
    row.key.toList = platform.toList ++ '|' :: w.toList := by
  rw [h, String.toList_append, String.toList_append, append_assoc]
  rfl

theorem startsWith_iff :
    startsWith row.key (platform ++ "|") = true ↔ ∃ w, IsFor platform w row := by
  rw [startsWith, isPrefixOf_iff_prefix, String.toList_append]
  constructor
  · rintro ⟨rest, hrest⟩
    refine ⟨String.ofList rest, String.toList_injective (hrest.symm.trans ?_)⟩
    rw [String.toList_append, String.toList_append, String.toList_ofList (l := rest)]
  · rintro ⟨w, hw⟩
    exact ⟨w.toList, by rw [toList_key hw, append_assoc]; rfl⟩

theorem rowTuple_eq (h : IsFor platform w row) :
    rowTuple platform row = versionTupleOf w.toList := by
  rw [rowTuple, toList_key h]
  congr 1
  rw [drop_append, drop_eq_nil_of_le (Nat.le_succ _), nil_append,
    Nat.add_sub_cancel_left]
  rfl

theorem cmpTuples_pos_iff {a b : List ℤ} : cmpTuples a b > 0 ↔ padded b < padded a :=
  firstDifference_sub_pos_iff

theorem versionLt_iff :
    VersionLt v w ↔ cmpTuples (versionTupleOf w.toList) (versionTupleOf v.toList) > 0 :=
  cmpTuples_pos_iff.symm

theorem splitOn_key (hplatform : '|' ∉ platform.toList) (hv : '|' ∉ v.toList) :
    (platform ++ "|" ++ v).toList.splitOn '|' = [platform.toList, v.toList] := by
  have hnot : ∀ s : String, '|' ∉ s.toList → ∀ c ∈ s.toList, (c == '|') = false :=
    fun s hs c hc => beq_eq_false_iff_ne.mpr fun heq => hs (heq ▸ hc)
  rw [String.toList_append, String.toList_append, append_assoc]
  show splitOnP _ (platform.toList ++ '|' :: v.toList) = _
  rw [splitOnP_append_cons_of_forall_mem (hnot platform hplatform) '|' (by decide),
    splitOnP_eq_singleton (hnot v hv)]

/-- The row is one of the greatest version that is not above that of the device. -/
def IsFloor (platform : String) (deviceTuple : List ℤ) (l : List (SofaCacheRow Result)) :
    Option (SofaCacheRow Result) → Prop
  | none => ∀ c ∈ l, padded deviceTuple < padded (rowTuple platform c)
  | some c => c ∈ l ∧ ¬padded deviceTuple < padded (rowTuple platform c) ∧
    ∀ c' ∈ l, ¬padded deviceTuple < padded (rowTuple platform c') →
      ¬padded (rowTuple platform c) < padded (rowTuple platform c')

theorem IsFloor.concat_above {deviceTuple : List ℤ} {l : List (SofaCacheRow Result)}
    {best : Option (SofaCacheRow Result)} (h : IsFloor platform deviceTuple l best)
    (hc : padded deviceTuple < padded (rowTuple platform c)) :
    IsFloor platform deviceTuple (l ++ [c]) best := by
  cases best with
  | none =>
    intro x hx
    rcases mem_append.mp hx with hx | hx
    · exact h x hx
    · exact mem_singleton.mp hx ▸ hc
  | some b =>
    obtain ⟨hmem, hnot, hgreatest⟩ := h
    refine ⟨mem_append_left _ hmem, hnot, fun x hx hxnot => ?_⟩
    rcases mem_append.mp hx with hx | hx
    · exact hgreatest x hx hxnot
    · exact absurd (mem_singleton.mp hx ▸ hc) hxnot

/-- **The loop over the candidates** keeps the greatest version that is not above. -/
theorem isFloor_stepAll (platform : String) (deviceTuple : List ℤ)
    (l : List (SofaCacheRow Result)) :
    IsFloor platform deviceTuple l (OrderedMap.stepAll (closer platform deviceTuple) l) := by
  induction l using reverseRecOn with
  | nil => exact forall_mem_nil _
  | append_singleton l c ih =>
    rw [OrderedMap.stepAll_concat]
    generalize OrderedMap.stepAll (closer platform deviceTuple) l = best at ih ⊢
    unfold closer
    by_cases habove : cmpTuples (rowTuple platform c) deviceTuple > 0
    · rw [if_pos habove, Option.none_or]
      exact ih.concat_above (cmpTuples_pos_iff.mp habove)
    rw [if_neg habove]
    rw [cmpTuples_pos_iff] at habove
    have hc : c ∈ l ++ [c] := mem_append_right _ mem_cons_self
    cases best with
    | none =>
      refine ⟨hc, habove, fun x hx hxnot => ?_⟩
      rcases mem_append.mp hx with hx | hx
      · exact absurd (ih x hx) hxnot
      · exact mem_singleton.mp hx ▸ lt_irrefl _
    | some b =>
      obtain ⟨hmem, hnot, hgreatest⟩ := ih
      dsimp only
      by_cases hgreater : cmpTuples (rowTuple platform c) (rowTuple platform b) > 0
      · rw [if_pos hgreater, Option.some_or]
        refine ⟨hc, habove, fun x hx hxnot => ?_⟩
        rcases mem_append.mp hx with hx | hx
        · exact not_lt.mpr (le_trans (not_lt.mp (hgreatest x hx hxnot))
            (le_of_lt (cmpTuples_pos_iff.mp hgreater)))
        · exact mem_singleton.mp hx ▸ lt_irrefl _
      · rw [if_neg hgreater, Option.none_or]
        refine ⟨mem_append_left _ hmem, hnot, fun x hx hxnot => ?_⟩
        rcases mem_append.mp hx with hx | hx
        · exact hgreatest x hx hxnot
        · rw [mem_singleton.mp hx, ← cmpTuples_pos_iff]
          exact hgreater

/-- What a version gets: the row of the greatest version on the platform that is not above it. -/
def Serves (rows : List (SofaCacheRow Result)) (platform v : String) :
    Option (SofaCacheRow Result) → Prop
  | none => ∀ row ∈ rows, ∀ w, IsFor platform w row → VersionLt v w
  | some row => row ∈ rows ∧ ∃ w, IsFor platform w row ∧ ¬VersionLt v w ∧
    ∀ row' ∈ rows, ∀ w', IsFor platform w' row' → ¬VersionLt v w' → ¬VersionLt w w'

theorem cacheRow_floor (hplatform : platform ≠ "" ∧ '|' ∉ platform.toList)
    (hv : v ≠ "" ∧ '|' ∉ v.toList) :
    Serves rows platform v (getSofaCacheRow rows (platform ++ "|" ++ v)) := by
  unfold getSofaCacheRow
  cases hhit : rows.find? fun row => row.key = platform ++ "|" ++ v with
  | some hit =>
    have hkey : hit.key = platform ++ "|" ++ v := by simpa using find?_some hhit
    refine ⟨mem_of_find?_eq_some hhit, v, hkey, lt_irrefl _, ?_⟩
    exact fun row' _ w' _ hnot => hnot
  | none =>
    dsimp only
    rw [splitOn_key hplatform.2 hv.2]
    have hparts : String.ofList (getD [platform.toList, v.toList] 0 []) = platform ∧
        String.ofList (getD [platform.toList, v.toList] 1 []) = v :=
      ⟨String.ofList_toList, String.ofList_toList⟩
    rw [hparts.1, hparts.2, if_neg (not_or.mpr ⟨hplatform.1, hv.1⟩)]
    have hfloor := isFloor_stepAll platform (versionTupleOf v.toList)
      (rows.filter fun row => startsWith row.key (platform ++ "|"))
    have hmem : ∀ row ∈ rows, ∀ w, IsFor platform w row →
        row ∈ rows.filter fun row => startsWith row.key (platform ++ "|") :=
      fun row hrow w hw => mem_filter.mpr ⟨hrow, startsWith_iff.mpr ⟨w, hw⟩⟩
    generalize OrderedMap.stepAll (closer platform (versionTupleOf v.toList))
      (rows.filter fun row => startsWith row.key (platform ++ "|")) = best at hfloor ⊢
    cases best with
    | none =>
      intro row hrow w hw
      have hlt := hfloor row (hmem row hrow w hw)
      rwa [rowTuple_eq hw] at hlt
    | some row =>
      obtain ⟨hrow, hnot, hgreatest⟩ := hfloor
      obtain ⟨hin, hstarts⟩ := mem_filter.mp hrow
      obtain ⟨w, hw⟩ := startsWith_iff.mp hstarts
      rw [rowTuple_eq hw] at hnot hgreatest
      refine ⟨hin, w, hw, hnot, fun row' hrow' w' hw' hnot' => ?_⟩
      have hle := hgreatest row' (hmem row' hrow' w' hw')
      rw [rowTuple_eq hw'] at hle
      exact hle hnot'

/-- Each answer of the batch carries the key that was asked for. -/
theorem mem_cacheRows {keys : List String} : c ∈ getSofaCacheRows rows keys ↔
    c.key ∈ keys ∧ ∃ row, getSofaCacheRow rows c.key = some row ∧ c.result = row.result := by
  unfold getSofaCacheRows
  rw [mem_filterMap]
  constructor
  · rintro ⟨key, hkey, hanswer⟩
    obtain ⟨row, hrow, rfl⟩ := Option.map_eq_some_iff.mp hanswer
    exact ⟨hkey, row, hrow, rfl⟩
  · rintro ⟨hkey, row, hrow, hresult⟩
    refine ⟨c.key, hkey, Option.map_eq_some_iff.mpr ⟨row, hrow, ?_⟩⟩
    rw [← hresult]

end Rows

/-- **What is listed for each indexed version, and which row each version gets.** -/
theorem outstanding_laws (t : Texts) (track : SofaOsVersionTrack) :
    (∀ v, v ∈ (computeOutstandingByVersion t track).keys ↔
      ∃ r ∈ indexed track, r.productVersion = v) ∧
    (∀ r ∈ indexed track, ∃ cves,
      (computeOutstandingByVersion t track).get r.productVersion = some cves ∧
      ListsOutstanding t track r cves) ∧
    ∀ (Result : Type) (rows : List (SofaCacheRow Result)),
      (∀ platform v, platform ≠ "" ∧ '|' ∉ platform.toList → v ≠ "" ∧ '|' ∉ v.toList →
        Serves rows platform v (getSofaCacheRow rows (platform ++ "|" ++ v))) ∧
      ∀ keys c, c ∈ getSofaCacheRows rows keys ↔ c.key ∈ keys ∧
        ∃ row, getSofaCacheRow rows c.key = some row ∧ c.result = row.result :=
  ⟨fun _ => mem_keys_outstanding, fun _ hr => outstanding_listed hr, fun _ _ =>
    ⟨fun _ _ => cacheRow_floor, fun _ _ => mem_cacheRows⟩⟩

/-! ## What is fixed twice -/

/-- A runtime that reads two dates. -/
def datedTexts : Texts where
  toRuntime := { asciiTexts.toRuntime with
    parseDate := fun s =>
      if s = "2025-09-15" then some 1757894400000
      else if s = "2025-11-03" then some 1762128000000
      else none }
  toUpperCase := asciiTexts.toUpperCase

/-- A release of `repeatedTrack`. -/
def repeatedRelease (productVersion releaseDate : String) : SofaRelease where
  productVersion := productVersion
  releaseDate := releaseDate
  cves := some (OrderedMap.empty.set "CVE-2025-0001" {})

/-- Two releases that list the same CVE. -/
def repeatedTrack : SofaOsVersionTrack where
  latest := some (repeatedRelease "26.1" "2025-11-03")
  securityReleases := some [repeatedRelease "26.0" "2025-09-15"]

/-- Three rows of a platform. -/
def threeRows : List (SofaCacheRow Unit) :=
  [⟨"macos|0", ()⟩, ⟨"macos|26", ()⟩, ⟨"macos|26.5", ()⟩]

/-- What a release has fixed is listed for it if a later release lists it too. A version with
a bar is cut at the bar, and the empty version gets no row. -/
theorem outstanding_of_repeated :
    (∃ r ∈ indexed repeatedTrack, r.productVersion = "26.0" ∧
      (fixedBy datedTexts r).map SofaCve.id = ["CVE-2025-0001"] ∧
      ((computeOutstandingByVersion datedTexts repeatedTrack).get "26.0").map
        (fun cves => cves.map SofaCve.id) = some ["CVE-2025-0001"]) ∧
    ¬Serves threeRows "macos" "26|1.5" (getSofaCacheRow threeRows "macos|26|1.5") ∧
    ¬Serves threeRows "macos" "" (getSofaCacheRow threeRows "macos|") := by
  refine ⟨⟨repeatedRelease "26.0" "2025-09-15", ?_, rfl, ?_, ?_⟩, ?_, ?_⟩
  · exact mem_cons_of_mem _ mem_cons_self
  · decide +kernel
  · have hreleases : releases datedTexts repeatedTrack =
        [repeatedRelease "26.0" "2025-09-15", repeatedRelease "26.1" "2025-11-03"] := by
      show mergeSort [repeatedRelease "26.1" "2025-11-03",
        repeatedRelease "26.0" "2025-09-15"] (notLater datedTexts) = _
      rw [mergeSort]
      show merge (mergeSort [_] _) (mergeSort [_] _) _ = _
      rw [mergeSort_singleton, mergeSort_singleton,
        cons_merge_cons_neg _ _ _ (by decide +kernel), merge_right]
    rw [computeOutstandingByVersion, hreleases]
    decide +kernel
  · have hrow : getSofaCacheRow threeRows "macos|26|1.5" = some ⟨"macos|26", ()⟩ := by
      decide +kernel
    rw [hrow]
    rintro ⟨-, w, hw, -, hgreatest⟩
    refine hgreatest ⟨"macos|26.5", ()⟩ (by decide +kernel) "26.5" rfl ?_ ?_
    · rw [versionLt_iff]
      decide +kernel
    · rw [versionLt_iff, ← rowTuple_eq hw]
      decide +kernel
  · have hrow : getSofaCacheRow threeRows "macos|" = none := by decide +kernel
    rw [hrow]
    intro h
    have hlt := h ⟨"macos|0", ()⟩ mem_cons_self "0" rfl
    rw [versionLt_iff] at hlt
    exact absurd hlt (by decide +kernel)

end AppliverySoar.Catalogs.SofaService
