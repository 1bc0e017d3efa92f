import AppliverySoar.Catalogs.VulnSources

/-!
# What a patch level rules out

`filterCvesByPatchLevel` (vulnSources.ts, lines 200–217) leaves out the entries
whose `fixed_in` is not behind the patch level of the device: by the order of
texts on Android, by that of versions on Apple platforms, and none elsewhere.

Results:
* `filterCves_anti`: a later patch level leaves fewer entries.
* `filterCves_merged`: the filter can be applied before or after the merge.
* `filterCves_laws`: all laws of the filter.
-/

namespace AppliverySoar.Catalogs.VulnSources

open Js AppliverySoar.Lists Compliance List

/-! ## The order of patch levels -/

/-- The version of a patch level of an Apple device. -/
def levelTuple (osPatchLevel : Option String) : Option (List ℤ) :=
  (osPatchLevel.bind extractLeadingVersion).map versionTuple

/-- `p` is not behind `q`. No patch level, and one without a version on Apple platforms, is
before all others. Where the platform has no order, every level is as good as every other. -/
def LevelLe (workerPlatform : String) (p q : Option String) : Prop :=
  if workerPlatform = "android" then units (p.getD "") ≤ units (q.getD "")
  else if workerPlatform = "macos" ∨ workerPlatform = "ios" then
    ∀ v ∈ levelTuple p, ∃ w ∈ levelTuple q, ¬padded w < padded v
  else True

/-- The fix is at the patch level or before it. -/
def FixedAt (workerPlatform fixedIn osPatchLevel : String) : Prop :=
  if workerPlatform = "android" then units fixedIn ≤ units osPatchLevel
  else if workerPlatform = "macos" ∨ workerPlatform = "ios" then
    ∃ v ∈ levelTuple (some osPatchLevel), ¬padded v < padded (versionTuple fixedIn)
  else False

/-! ## One entry -/

variable {workerPlatform level : String} {p q : Option String} {c : Cve} {l : List Cve}

/-- The filter, as a test that every entry passes where there is no patch level. -/
def keepsAt (workerPlatform : String) (osPatchLevel : Option String) (c : Cve) : Bool :=
  match osPatchLevel with
  | none => true
  | some level => if level = "" then true else keepsCve workerPlatform level c

theorem filterCvesByPatchLevel_eq (l : List Cve) (workerPlatform : String)
    (osPatchLevel : Option String) :
    filterCvesByPatchLevel l workerPlatform osPatchLevel =
      l.filter (keepsAt workerPlatform osPatchLevel) := by
  unfold filterCvesByPatchLevel
  cases osPatchLevel with
  | none => exact (filter_true l).symm
  | some level =>
    unfold keepsAt
    dsimp only
    split_ifs with hlevel
    · exact (filter_true l).symm
    · rfl

variable {fixedIn : String}

theorem keepsFix_eq_false_iff :
    keepsFix workerPlatform level fixedIn = false ↔
      fixedIn ≠ "" ∧ FixedAt workerPlatform fixedIn level := by
  unfold keepsFix FixedAt
  by_cases hempty : fixedIn = ""
  · rw [if_pos hempty]
    exact iff_of_false Bool.false_ne_true.symm fun h => h.1 hempty
  rw [if_neg hempty, and_iff_right hempty]
  by_cases handroid : workerPlatform = "android"
  · rw [if_pos handroid, if_pos handroid, decide_eq_false_iff_not, not_lt]
  rw [if_neg handroid, if_neg handroid]
  by_cases happle : workerPlatform = "macos" ∨ workerPlatform = "ios"
  · rw [if_pos happle, if_pos happle]
    unfold levelTuple
    rw [Option.bind_some]
    cases extractLeadingVersion level with
    | none => exact iff_of_false Bool.false_ne_true.symm fun ⟨v, hv, _⟩ => nomatch hv
    | some deviceVersion =>
      rw [decide_eq_false_iff_not]
      refine (not_congr firstDifference_sub_pos_iff).trans ⟨fun h => ⟨_, rfl, h⟩, ?_⟩
      rintro ⟨v, hv, h⟩
      exact Option.some.inj hv ▸ h
  · rw [if_neg happle, if_neg happle]
    exact iff_of_false Bool.false_ne_true.symm not_false

/-- **What the filter leaves out**: an entry that is fixed at the patch level. -/
theorem keepsAt_eq_false_iff : keepsAt workerPlatform p c = false ↔
    ∃ level fixedIn, p = some level ∧ level ≠ "" ∧ c.fixedIn = .str fixedIn ∧ fixedIn ≠ "" ∧
      FixedAt workerPlatform fixedIn level := by
  unfold keepsAt
  cases p with
  | none => exact iff_of_false Bool.false_ne_true.symm fun ⟨_, _, h, _⟩ => nomatch h
  | some level =>
    dsimp only
    by_cases hlevel : level = ""
    · rw [if_pos hlevel]
      refine iff_of_false Bool.false_ne_true.symm ?_
      rintro ⟨_, _, hp, hne, -⟩
      exact hne (Option.some.inj hp ▸ hlevel)
    · rw [if_neg hlevel]
      unfold keepsCve
      cases hfixed : c.fixedIn with
      | str fixedIn =>
        refine keepsFix_eq_false_iff.trans ⟨fun h => ⟨level, fixedIn, rfl, hlevel, rfl, h⟩, ?_⟩
        rintro ⟨_, _, hp, -, hf, h⟩
        cases hp
        cases hf
        exact h
      | _ => exact iff_of_false Bool.false_ne_true.symm fun ⟨_, _, _, _, hf, _⟩ => nomatch hf

theorem exists_level_of_le (hfixed : fixedIn ≠ "")
    (hle : LevelLe workerPlatform (some level) q) (h : FixedAt workerPlatform fixedIn level) :
    ∃ level', q = some level' ∧ level' ≠ "" := by
  unfold LevelLe at hle
  unfold FixedAt at h
  by_cases handroid : workerPlatform = "android"
  · rw [if_pos handroid] at hle h
    have hpos : units "" < units (q.getD "") :=
      lt_of_lt_of_le (units_empty_lt hfixed) (le_trans h hle)
    cases q with
    | none => exact absurd hpos (lt_irrefl _)
    | some level' => exact ⟨level', rfl, fun hlevel => absurd (hlevel ▸ hpos) (lt_irrefl _)⟩
  rw [if_neg handroid] at hle h
  by_cases happle : workerPlatform = "macos" ∨ workerPlatform = "ios"
  · rw [if_pos happle] at hle h
    obtain ⟨v, hv, -⟩ := h
    obtain ⟨w, hw, -⟩ := hle v hv
    cases q with
    | none => cases hw
    | some level' =>
      refine ⟨level', rfl, ?_⟩
      rintro rfl
      cases hw
  · rw [if_neg happle] at h
    exact h.elim

theorem fixedAt_mono {fixedIn level' : String}
    (hle : LevelLe workerPlatform (some level) (some level'))
    (h : FixedAt workerPlatform fixedIn level) : FixedAt workerPlatform fixedIn level' := by
  unfold FixedAt at h ⊢
  unfold LevelLe at hle
  by_cases handroid : workerPlatform = "android"
  · rw [if_pos handroid] at hle h ⊢
    exact le_trans h hle
  rw [if_neg handroid] at hle h ⊢
  by_cases happle : workerPlatform = "macos" ∨ workerPlatform = "ios"
  · rw [if_pos happle] at hle h ⊢
    obtain ⟨v, hv, hfix⟩ := h
    obtain ⟨w, hw, hvw⟩ := hle v hv
    exact ⟨w, hw, fun hlt => hvw (lt_of_lt_of_le hlt (not_lt.mp hfix))⟩
  · rw [if_neg happle] at h
    exact h.elim

theorem keepsAt_anti (hle : LevelLe workerPlatform p q) (h : keepsAt workerPlatform q c = true) :
    keepsAt workerPlatform p c = true := by
  by_contra hp
  obtain ⟨level, fixedIn, rfl, hlevel, hf, hfixed, hat⟩ :=
    keepsAt_eq_false_iff.mp (Bool.not_eq_true _ ▸ hp)
  obtain ⟨level', rfl, hlevel'⟩ := exists_level_of_le hfixed hle hat
  have hfalse := keepsAt_eq_false_iff.mpr
    ⟨level', fixedIn, rfl, hlevel', hf, hfixed, fixedAt_mono hle hat⟩
  rw [h] at hfalse
  cases hfalse

/-- The test reads `fixed_in` only. -/
theorem keepsAt_congr {d : Cve} (h : c.fixedIn = d.fixedIn) :
    keepsAt workerPlatform p c = keepsAt workerPlatform p d := by
  unfold keepsAt keepsCve
  rw [h]

/-! ## Lists -/

/-- **A later patch level leaves fewer entries.** -/
theorem filterCves_anti (hle : LevelLe workerPlatform p q) (l : List Cve) :
    (filterCvesByPatchLevel l workerPlatform q).Sublist
      (filterCvesByPatchLevel l workerPlatform p) := by
  rw [filterCvesByPatchLevel_eq, filterCvesByPatchLevel_eq]
  exact monotone_filter_right l fun c hc => keepsAt_anti hle hc

/-! ## The merge -/

variable {t : Texts} {sources : List (Option RawVulnResult)}

/-- The filter is applied to the list of a source. -/
def filterSource (workerPlatform : String) (p : Option String)
    (source : Option RawVulnResult) : Option RawVulnResult :=
  source.map fun s =>
    { s with cveList := s.cveList.map fun l => filterCvesByPatchLevel l workerPlatform p }

theorem mappedCves_filterSource (sources : List (Option RawVulnResult)) :
    mappedCves (sources.map (filterSource workerPlatform p)) =
      (mappedCves sources).filter (keepsAt workerPlatform p) := by
  unfold mappedCves
  rw [flatMap_map, filter_flatMap]
  refine flatMap_congr fun source _ => ?_
  rcases source with _ | ⟨mapped, cveList⟩
  · rfl
  · cases mapped with
    | false => rfl
    | true =>
      cases cveList with
      | none => rfl
      | some l => exact filterCvesByPatchLevel_eq l workerPlatform p

/-- Entries that are merged into one have the same `fixed_in`. -/
def SameFixes (t : Texts) (sources : List (Option RawVulnResult)) : Prop :=
  ∀ c ∈ mappedCves sources, ∀ d ∈ mappedCves sources, mergeId t c = mergeId t d →
    mergeId t c ≠ "" → c.fixedIn = d.fixedIn

theorem mapped_filterSource (sources : List (Option RawVulnResult)) :
    (mergeRawVulnResults t (sources.map (filterSource workerPlatform p))).mapped =
      (mergeRawVulnResults t sources).mapped := by
  unfold mergeRawVulnResults
  dsimp only
  rw [any_map]
  congr 1
  funext source
  cases source <;> rfl

/-- **The filter before the merge, or after it.** -/
theorem filterCves_merged (h : SameFixes t sources) :
    filterCvesByPatchLevel (mergeRawVulnResults t sources).cveList workerPlatform p =
      (mergeRawVulnResults t (sources.map (filterSource workerPlatform p))).cveList := by
  -- what the filter says of an id
  let q := fun k => ((mappedCves sources).find? fun c => mergeId t c = k).any
    (keepsAt workerPlatform p)
  have hq : ∀ c ∈ mappedCves sources, mergeId t c ≠ "" →
      keepsAt workerPlatform p c = q (mergeId t c) := by
    intro c hc hid
    have hfound : ((mappedCves sources).find? fun d => mergeId t d = mergeId t c).isSome :=
      find?_isSome.mpr ⟨c, hc, decide_eq_true rfl⟩
    obtain ⟨d, hd⟩ := Option.isSome_iff_exists.mp hfound
    have hdid : mergeId t d = mergeId t c := by simpa using find?_some hd
    show _ = Option.any _ (find? _ _)
    rw [hd, Option.any_some]
    exact keepsAt_congr (h c hc d (mem_of_find?_eq_some hd) hdid.symm hid)
  have hentries : (byId t ((mappedCves sources).filter (keepsAt workerPlatform p))).entries =
      (byId t (mappedCves sources)).entries.filter fun e => q e.1 := by
    unfold byId
    rw [filter_comm, OrderedMap.gather_filter fun c hc => ?_]
    obtain ⟨hmem, hid⟩ := mem_filter.mp hc
    exact hq c hmem (of_decide_eq_true hid)
  rw [filterCvesByPatchLevel_eq]
  show (byId t (mappedCves sources)).values.filter _ =
    (byId t (mappedCves (sources.map (filterSource workerPlatform p)))).values
  rw [mappedCves_filterSource, OrderedMap.values, OrderedMap.values, hentries, filter_map]
  congr 1
  refine filter_congr fun e he => ?_
  obtain ⟨hmem, hid, hne⟩ := get_byId (OrderedMap.get_eq_some_iff.mpr he)
  rw [Function.comp_apply, hq e.2 hmem (hid ▸ hne), hid]

/-- **The laws of the filter.** -/
theorem filterCves_laws (workerPlatform : String) (l : List Cve) :
    (∀ p q, LevelLe workerPlatform p q →
      (filterCvesByPatchLevel l workerPlatform q).Sublist
        (filterCvesByPatchLevel l workerPlatform p)) ∧
    ∀ p, (filterCvesByPatchLevel l workerPlatform p).Sublist l ∧
      (∀ c ∈ l, c ∉ filterCvesByPatchLevel l workerPlatform p → ∃ level fixedIn, p = some level ∧
        c.fixedIn = .str fixedIn ∧ FixedAt workerPlatform fixedIn level) ∧
      filterCvesByPatchLevel (filterCvesByPatchLevel l workerPlatform p) workerPlatform p =
        filterCvesByPatchLevel l workerPlatform p ∧
      ∀ (t : Texts) (sources : List (Option RawVulnResult)), SameFixes t sources →
        (mergeRawVulnResults t (sources.map (filterSource workerPlatform p))).mapped =
          (mergeRawVulnResults t sources).mapped ∧
        (mergeRawVulnResults t (sources.map (filterSource workerPlatform p))).cveList =
          filterCvesByPatchLevel (mergeRawVulnResults t sources).cveList workerPlatform p := by
  refine ⟨fun p q hle => filterCves_anti hle l, fun p => ⟨?_, fun c hc hnot => ?_, ?_,
    fun t sources h => ⟨mapped_filterSource sources, (filterCves_merged h).symm⟩⟩⟩
  · rw [filterCvesByPatchLevel_eq]
    exact filter_sublist
  · rw [filterCvesByPatchLevel_eq, mem_filter, not_and, Bool.not_eq_true] at hnot
    obtain ⟨level, fixedIn, hp, -, hf, -, hat⟩ := keepsAt_eq_false_iff.mp (hnot hc)
    exact ⟨level, fixedIn, hp, hf, hat⟩
  · rw [filterCvesByPatchLevel_eq, filterCvesByPatchLevel_eq, filter_filter]
    congr 1
    funext c
    exact Bool.and_self _

example : (filterCvesByPatchLevel [{ fixedIn := .str "26.6.2" }, { fixedIn := .str "26.10" }]
    "ios" (some "26.6.2 (25G82)")).map (fun c => c.fixedIn.strictEq (.str "26.10")) = [true] := by
  decide +kernel

end AppliverySoar.Catalogs.VulnSources
