import AppliverySoar.Catalogs.WindowsUpdates
import Mathlib.Data.List.Perm.Subperm

/-!
# When each pending update is listed once

The rows of a KB in the bulletins of two months are not rolled up into one. So a device is told
of a KB once, with all its CVEs, if at most one of these rows has a known revision and has all
CVEs that the others name.

Results:
* `describes_run`: the rows of the catalog after any runs.
* `listed_iff`, `pending_anti`: what is pending, and that a higher revision has no more of it.
* `listsPending_iff_oneBulletin`: the exact condition.
-/

namespace AppliverySoar.Catalogs.OsUpdateCatalog

open Js List

/-! ## What has been read -/

/-- The bulletins that runs have read: the entries of the last fetch of each month, and the
revision of a KB for a build. -/
structure Bulletins where
  entries : String → Option (List RawEntry)
  revision : String → String → ℕ → Option ℕ

namespace Bulletins

/-- Bulletins are fetched. Their revisions are the ones that they give themselves. -/
def fetch (b : Bulletins) (fetched : OrderedMap (List RawEntry)) : Bulletins where
  entries month := (fetched.get month).or (b.entries month)
  revision month kb build :=
    match fetched.get month with
    | some entries => firstKnown (naming entries kb build)
    | none => b.revision month kb build

/-- A release-health page is read. It gives the revisions that are not known yet. -/
def enrich (b : Bulletins) (health : OrderedMap ℕ) : Bulletins where
  entries := b.entries
  revision month kb build :=
    if isKnown (b.revision month kb build) then b.revision month kb build
    else ((health.get (kbKey kb build)).filter fun ubr => ubr ≠ 0).or (b.revision month kb build)

/-- A run. -/
def read (b : Bulletins) (fetched : OrderedMap (List RawEntry))
    (health : Option (OrderedMap ℕ)) : Bulletins :=
  match health with
  | none => b.fetch fetched
  | some health => (b.fetch fetched).enrich health

end Bulletins

/-- The catalog after runs, and what they have read. -/
def run (t : Texts) (inputs : List Inputs) : Catalog × Bulletins :=
  inputs.foldl
    (fun s x => (refreshOsUpdateCatalog t s.1 x,
      s.2.read (fetchMonths s.1 x).allEntriesByMonth x.releaseHealthMap))
    (emptyCatalog, { entries := fun _ => none, revision := fun _ _ _ => none })

section Bulletins

variable (b : Bulletins)

/-- The bulletin of a month names a KB for a build. -/
def Names (month kb : String) (build : ℕ) : Prop :=
  kb ≠ "" ∧ ∃ entries, b.entries month = some entries ∧ ∃ e ∈ entries, NamesKb kb build e

/-- It does, and the revision that fixes the KB is known. -/
def KnownAt (month kb : String) (build ubr : ℕ) : Prop :=
  Names b month kb build ∧ b.revision month kb build = some ubr ∧ ubr ≠ 0

/-- The bulletin of a month gives a CVE for a KB and a build. -/
def CveAt (month kb : String) (build : ℕ) (cve : String) : Prop :=
  ∃ entries, b.entries month = some entries ∧ HasCve (naming entries kb build) cve

/-- The rows are those of the bulletins. -/
structure Describes (rows : List KbEntry) : Prop where
  nodup : (rows.map fun r => (r.releaseMonth, r.kb, r.buildMajor)).Nodup
  sound : ∀ r ∈ rows, ∃ entries, b.entries r.releaseMonth = some entries ∧ RowOf entries r ∧
    r.fixedUbr = b.revision r.releaseMonth r.kb r.buildMajor
  complete : ∀ month kb build, Names b month kb build →
    ∃ r ∈ rows, r.releaseMonth = month ∧ r.kb = kb ∧ r.buildMajor = build

/-- What is pending for a device. -/
structure ListsPending (rows : List KbEntry) (d : DeviceBuild) : Prop where
  once : ((pendingUpdates d rows).pendingKbs.map fun e => e.kb).Nodup
  listed : ∀ kb, kb ∈ (pendingUpdates d rows).pendingKbs.map (fun e => e.kb) ↔
    ∃ (month : String) (build ubr : ℕ), (build : ℤ) = d.buildMajor ∧
      KnownAt b month kb build ubr ∧ d.ubr < ubr
  cves : ∀ e ∈ (pendingUpdates d rows).pendingKbs, ∀ cve,
    cve ∈ e.cveIds ↔ ∃ month, CveAt b month e.kb e.buildMajor cve
  cveCount : ∃ cves : List String, cves.Nodup ∧
    cves.length = (pendingUpdates d rows).pendingCveCount ∧
    ∀ cve, cve ∈ cves ↔ ∃ (month : String) (build : ℕ) (kb : String),
      (build : ℤ) = d.buildMajor ∧ kb ∈ (pendingUpdates d rows).pendingKbs.map (fun e => e.kb) ∧
      CveAt b month kb build cve
  anti : ∀ ubr, d.ubr ≤ ubr → (pendingUpdates { d with ubr := ubr } rows).pendingKbs.Subperm
    (pendingUpdates d rows).pendingKbs

/-- Where the bulletins of two months name a KB for a build and one knows its revision, the other
does not know one and has no other CVEs. -/
def OneBulletin : Prop :=
  ∀ month month' kb build ubr, month ≠ month' → KnownAt b month kb build ubr →
    Names b month' kb build →
    (∀ ubr', ¬KnownAt b month' kb build ubr') ∧
      ∀ cve, CveAt b month' kb build cve → CveAt b month kb build cve

end Bulletins

/-! ## The rows -/

section Rows

variable {t : Texts} {b : Bulletins} {rows : List KbEntry} {fetched : OrderedMap (List RawEntry)}

/-- The bulletins that a run fetches have entries of their own month. -/
def OfMonths (fetched : OrderedMap (List RawEntry)) : Prop :=
  ∀ month entries, fetched.get month = some entries → ∀ e ∈ entries, e.releaseMonth = month

theorem ofMonths_fetchMonth {x : Inputs} {s : FetchState} (idx : ℕ)
    (h : OfMonths s.allEntriesByMonth) : OfMonths (fetchMonth x s idx).allEntriesByMonth := by
  unfold fetchMonth
  dsimp only
  by_cases hskip : s.monthsFetched.contains (monthCode x.year x.month idx) = true ∧ idx ≥ 2
  · rw [if_pos hskip]
    exact h
  · rw [if_neg hskip]
    cases hentries : (x.fetchMsrcMonth (monthCode x.year x.month idx)).entries with
    | none => exact h
    | some entries =>
      intro month entries' hget
      replace hget : (s.allEntriesByMonth.set _ entries).get month = some entries' := hget
      rw [OrderedMap.get_set] at hget
      split_ifs at hget with hmonth
      · cases Option.some.inj hget
        exact hmonth ▸ x.ofMonth _ _ hentries
      · exact h month entries' hget

theorem ofMonths_fetchMonths (c : Catalog) (x : Inputs) :
    OfMonths (fetchMonths c x).allEntriesByMonth := by
  have hfold : ∀ (l : List ℕ) (s : FetchState), OfMonths s.allEntriesByMonth →
      OfMonths (l.foldl (fetchMonth x) s).allEntriesByMonth := by
    intro l
    induction l with
    | nil => exact fun s h => h
    | cons idx l ih => exact fun s h => ih _ (ofMonths_fetchMonth idx h)
  exact hfold _ _ fun month entries h => nomatch h

theorem mem_flatMap_rollup {r : KbEntry} (hmonths : OfMonths fetched)
    (h : r ∈ fetched.values.flatMap (rollupKbEntries t)) :
    ∃ entries, fetched.get r.releaseMonth = some entries ∧ r ∈ rollupKbEntries t entries := by
  obtain ⟨entries, hentries, hr⟩ := mem_flatMap.mp h
  obtain ⟨month, hget⟩ := OrderedMap.mem_values_iff.mp hentries
  obtain ⟨-, -, e, he, hmonth⟩ := rowOf_of_mem hr
  rw [hmonths month entries hget e he] at hmonth
  exact ⟨entries, hmonth ▸ hget, hr⟩

theorem nodup_flatMap_rollup (hmonths : OfMonths fetched) :
    ((fetched.values.flatMap (rollupKbEntries t)).map fun r =>
      (r.releaseMonth, r.kb, r.buildMajor)).Nodup := by
  rw [map_flatMap, OrderedMap.values, flatMap_map, nodup_flatMap]
  have hmonth : ∀ e ∈ fetched.entries, ∀ r ∈ rollupKbEntries t e.2, r.releaseMonth = e.1 := by
    intro e he r hr
    obtain ⟨-, -, raw, hraw, hmonth⟩ := rowOf_of_mem hr
    exact hmonth.trans (hmonths e.1 e.2 (OrderedMap.get_eq_some_iff.mpr he) raw hraw)
  refine ⟨fun e he => ?_, ?_⟩
  · refine Nodup.of_map Prod.snd ?_
    rw [map_map]
    exact nodup_rollup t e.2
  · refine (pairwise_map.mp fetched.nodup).imp_of_mem fun he he' hne => ?_
    refine disjoint_left.mpr fun k hk hk' => ?_
    obtain ⟨r, hr, rfl⟩ := mem_map.mp hk
    obtain ⟨r', hr', heq⟩ := mem_map.mp hk'
    have hsame : r'.releaseMonth = r.releaseMonth := congrArg Prod.fst heq
    rw [hmonth _ he r hr, hmonth _ he' r' hr'] at hsame
    exact hne hsame.symm

theorem contains_keys {month : String} :
    fetched.keys.contains month = true ↔ ∃ entries, fetched.get month = some entries := by
  rw [contains_iff_mem, OrderedMap.mem_keys_iff]

theorem fetch_of_no_keys (h : ¬fetched.keys.length > 0) : b.fetch fetched = b := by
  have hnone : ∀ month, fetched.get month = none := by
    intro month
    cases hget : fetched.get month with
    | none => rfl
    | some entries =>
      have hkey := OrderedMap.mem_keys_iff.mpr ⟨entries, hget⟩
      exact absurd (length_pos_of_mem hkey) h
  cases b with
  | mk entries revision => simp only [Bulletins.fetch, hnone, Option.none_or]

/-- **The merge**: the rows of the other months stay, those of the fetched ones are new. -/
theorem describes_merged (hb : Describes b rows) (hmonths : OfMonths fetched) :
    Describes (b.fetch fetched) (mergedEntries t rows fetched) := by
  unfold mergedEntries
  by_cases hkeys : fetched.keys.length > 0
  · rw [if_pos hkeys]
    refine ⟨?_, fun r hr => ?_, ?_⟩
    · rw [map_append]
      refine nodup_append.mpr ⟨hb.nodup.sublist (filter_sublist.map _),
        nodup_flatMap_rollup hmonths, fun k hk k' hk' heq => ?_⟩
      obtain ⟨r, hr, rfl⟩ := mem_map.mp hk
      obtain ⟨r', hr', rfl⟩ := mem_map.mp hk'
      have hkept := (mem_filter.mp hr).2
      obtain ⟨entries, hget, -⟩ := mem_flatMap_rollup hmonths hr'
      have hmonth : r.releaseMonth = r'.releaseMonth := congrArg Prod.fst heq
      rw [Bool.not_eq_true', Bool.eq_false_iff, ne_eq, contains_keys, hmonth] at hkept
      exact hkept ⟨entries, hget⟩
    · rcases mem_append.mp hr with hr | hr
      · obtain ⟨hr, hkept⟩ := mem_filter.mp hr
        rw [Bool.not_eq_true', Bool.eq_false_iff, ne_eq, contains_keys] at hkept
        have hget : fetched.get r.releaseMonth = none :=
          Option.eq_none_iff_forall_not_mem.mpr fun entries h => hkept ⟨entries, h⟩
        simp only [Bulletins.fetch, hget, Option.none_or]
        exact hb.sound r hr
      · obtain ⟨entries, hget, hr⟩ := mem_flatMap_rollup hmonths hr
        obtain ⟨hrow, hfixed, -⟩ := rowOf_of_mem hr
        simp only [Bulletins.fetch, hget, Option.some_or]
        exact ⟨entries, rfl, hrow, hfixed⟩
    · rintro month kb build ⟨hne, entries, hentries, e, he, hnames⟩
      cases hget : fetched.get month with
      | none =>
        simp only [Bulletins.fetch, hget, Option.none_or] at hentries
        obtain ⟨r, hr, hmonth, hrest⟩ := hb.complete month kb build
          ⟨hne, entries, hentries, e, he, hnames⟩
        refine ⟨r, mem_append_left _ (mem_filter.mpr ⟨hr, ?_⟩), hmonth, hrest⟩
        rw [Bool.not_eq_true', Bool.eq_false_iff, ne_eq, contains_keys, hmonth, hget]
        exact fun h => nomatch h.choose_spec
      | some entries' =>
        simp only [Bulletins.fetch, hget, Option.some_or, Option.some.injEq] at hentries
        subst hentries
        obtain ⟨r, hr, hrest⟩ := exists_row (t := t) hne (mem_naming.mpr ⟨he, hnames⟩)
        have hin : r ∈ fetched.values.flatMap (rollupKbEntries t) :=
          mem_flatMap.mpr ⟨entries', OrderedMap.mem_values_iff.mpr ⟨month, hget⟩, hr⟩
        obtain ⟨-, -, raw, hraw, hmonth⟩ := rowOf_of_mem hr
        exact ⟨r, mem_append_right _ hin,
          hmonth.trans (hmonths month entries' hget raw hraw), hrest⟩
  · rw [if_neg hkeys, fetch_of_no_keys hkeys]
    exact hb

theorem backfill_eq (health : OrderedMap ℕ) (r : KbEntry) :
    ∃ fixedUbr, backfill health r =
        { r with toKbRollupEntry := { r.toKbRollupEntry with fixedUbr := fixedUbr } } ∧
      fixedUbr = if isKnown r.fixedUbr then r.fixedUbr
        else ((health.get (kbKey r.kb r.buildMajor)).filter fun ubr => ubr ≠ 0).or r.fixedUbr := by
  refine ⟨_, ?_, rfl⟩
  unfold backfill
  by_cases hknown : isKnown r.fixedUbr = true
  · rw [if_pos hknown, if_pos hknown]
  · rw [if_neg hknown, if_neg hknown]
    cases health.get (kbKey r.kb r.buildMajor) with
    | none => rfl
    | some ubr =>
      by_cases hzero : ubr = 0
      · subst hzero
        rfl
      · dsimp only
        rw [if_pos hzero, Option.filter_some, if_pos (decide_eq_true hzero), Option.some_or]

/-- **The backfill.** -/
theorem describes_backfill (hb : Describes b rows) (health : OrderedMap ℕ) :
    Describes (b.enrich health) (rows.map (backfill health)) := by
  have hkey : ∀ r, ((backfill health r).releaseMonth, (backfill health r).kb,
      (backfill health r).buildMajor) = (r.releaseMonth, r.kb, r.buildMajor) := by
    intro r
    obtain ⟨fixedUbr, heq, -⟩ := backfill_eq health r
    rw [heq]
  refine ⟨?_, fun r' hr' => ?_, ?_⟩
  · rw [map_map]
    exact (map_congr_left fun r _ => hkey r : rows.map _ = _) ▸ hb.nodup
  · obtain ⟨r, hr, rfl⟩ := mem_map.mp hr'
    obtain ⟨entries, hentries, hrow, hfixed⟩ := hb.sound r hr
    obtain ⟨fixedUbr, heq, hubr⟩ := backfill_eq health r
    rw [heq]
    refine ⟨entries, hentries, ⟨hrow.kb_ne, hrow.named, hrow.cves, hrow.nodup, hrow.count⟩, ?_⟩
    rw [hfixed] at hubr
    exact hubr
  · intro month kb build hnames
    obtain ⟨r, hr, hmonth, hkb, hbuild⟩ := hb.complete month kb build hnames
    refine ⟨backfill health r, mem_map_of_mem hr, ?_⟩
    obtain ⟨fixedUbr, heq, -⟩ := backfill_eq health r
    rw [heq]
    exact ⟨hmonth, hkb, hbuild⟩

/-- **After any runs the rows are those of the bulletins that were read.** -/
theorem describes_run (t : Texts) (inputs : List Inputs) :
    Describes (run t inputs).2 (run t inputs).1.kbEntries := by
  induction inputs using reverseRecOn with
  | nil =>
    refine ⟨nodup_nil, forall_mem_nil _, ?_⟩
    rintro month kb build ⟨-, entries, hentries, -⟩
    cases hentries
  | append_singleton inputs x ih =>
    have hmerged := describes_merged (t := t) ih (ofMonths_fetchMonths (run t inputs).1 x)
    rw [run, foldl_append]
    show Describes ((run t inputs).2.read _ x.releaseHealthMap)
      (refreshedEntries t (run t inputs).1.kbEntries _ x.releaseHealthMap)
    cases x.releaseHealthMap with
    | none => exact hmerged
    | some health => exact describes_backfill hmerged health

end Rows

/-! ## What is pending -/

section Pending

variable {b : Bulletins} {rows : List KbEntry} {d : DeviceBuild} {r : KbEntry}

/-- A row that is pending for a device. -/
def IsPending (d : DeviceBuild) (r : KbEntry) : Prop :=
  (r.buildMajor : ℤ) = d.buildMajor ∧ isKnown r.fixedUbr = true ∧ d.ubr < r.ubr

theorem pendingKbs_perm (d : DeviceBuild) (rows : List KbEntry) :
    (pendingUpdates d rows).pendingKbs.Perm
      ((sameFamily d rows).filter fun e => decide ((e.ubr : ℤ) > d.ubr)) :=
  mergeSort_perm _ _

theorem mem_pendingKbs : r ∈ (pendingUpdates d rows).pendingKbs ↔ r ∈ rows ∧ IsPending d r := by
  rw [(pendingKbs_perm d rows).mem_iff, mem_filter, sameFamily, mem_filter,
    Bool.and_eq_true, decide_eq_true_eq, decide_eq_true_eq, and_assoc, and_assoc]
  rfl

theorem isKnown_iff {fixedUbr : Option ℕ} :
    isKnown fixedUbr = true ↔ ∃ ubr, fixedUbr = some ubr ∧ ubr ≠ 0 := by
  unfold isKnown
  rw [decide_eq_true_eq]
  cases fixedUbr with
  | none => simp
  | some ubr => simp

/-- A row with a known revision is that of a KB whose revision is known. -/
theorem knownAt_of_mem (hb : Describes b rows) (hr : r ∈ rows) (h : isKnown r.fixedUbr = true) :
    KnownAt b r.releaseMonth r.kb r.buildMajor r.ubr := by
  obtain ⟨entries, hentries, hrow, hfixed⟩ := hb.sound r hr
  obtain ⟨ubr, hubr, hne⟩ := isKnown_iff.mp h
  have hr : r.ubr = ubr := congrArg (fun o => Option.getD o 0) hubr
  exact ⟨⟨hrow.kb_ne, entries, hentries, hrow.named⟩, hfixed.symm.trans (hr ▸ hubr), hr ▸ hne⟩

theorem exists_row_of_knownAt {month kb : String} {build ubr : ℕ} (hb : Describes b rows)
    (h : KnownAt b month kb build ubr) : ∃ r ∈ rows, (r.releaseMonth = month ∧ r.kb = kb ∧
      r.buildMajor = build) ∧ isKnown r.fixedUbr = true ∧ r.ubr = ubr := by
  obtain ⟨hnames, hrevision, hne⟩ := h
  obtain ⟨r, hr, hmonth, hkb, hbuild⟩ := hb.complete month kb build hnames
  obtain ⟨-, -, -, hfixed⟩ := hb.sound r hr
  rw [hmonth, hkb, hbuild, hrevision] at hfixed
  exact ⟨r, hr, ⟨hmonth, hkb, hbuild⟩, isKnown_iff.mpr ⟨ubr, hfixed, hne⟩,
    congrArg (fun o => Option.getD o 0) hfixed⟩

theorem mem_cveIds (hb : Describes b rows) (hr : r ∈ rows) {cve : String} :
    cve ∈ r.cveIds ↔ CveAt b r.releaseMonth r.kb r.buildMajor cve := by
  obtain ⟨entries, hentries, hrow, -⟩ := hb.sound r hr
  rw [hrow.cves]
  refine ⟨fun h => ⟨entries, hentries, h⟩, ?_⟩
  rintro ⟨entries', hentries', h⟩
  cases hentries.symm.trans hentries'
  exact h

theorem names_of_cveAt {month kb cve : String} {build : ℕ} (hkb : kb ≠ "")
    (h : CveAt b month kb build cve) : Names b month kb build := by
  obtain ⟨entries, hentries, -, e, he, -⟩ := h
  exact ⟨hkb, entries, hentries, e, mem_naming.mp he⟩

/-- **What is pending**: the KBs of the build whose revision is known and above the device's. -/
theorem listed_iff (hb : Describes b rows) (kb : String) :
    kb ∈ (pendingUpdates d rows).pendingKbs.map (fun e => e.kb) ↔
      ∃ (month : String) (build ubr : ℕ), (build : ℤ) = d.buildMajor ∧
        KnownAt b month kb build ubr ∧ d.ubr < ubr := by
  rw [mem_map]
  constructor
  · rintro ⟨r, hr, rfl⟩
    obtain ⟨hr, hbuild, hknown, hubr⟩ := mem_pendingKbs.mp hr
    exact ⟨r.releaseMonth, r.buildMajor, r.ubr, hbuild, knownAt_of_mem hb hr hknown, hubr⟩
  · rintro ⟨month, build, ubr, hbuild, hknown, hubr⟩
    obtain ⟨r, hr, ⟨-, hkb, rfl⟩, hisKnown, rfl⟩ := exists_row_of_knownAt hb hknown
    exact ⟨r, mem_pendingKbs.mpr ⟨hr, hbuild, hisKnown, hubr⟩, hkb⟩

/-- **A higher revision has no more of it.** -/
theorem pending_anti (rows : List KbEntry) (d : DeviceBuild) {ubr : ℤ} (h : d.ubr ≤ ubr) :
    (pendingUpdates { d with ubr := ubr } rows).pendingKbs.Subperm
      (pendingUpdates d rows).pendingKbs := by
  have hsublist : ((sameFamily { d with ubr := ubr } rows).filter fun e =>
      decide ((e.ubr : ℤ) > ubr)).Sublist
      ((sameFamily d rows).filter fun e => decide ((e.ubr : ℤ) > d.ubr)) :=
    monotone_filter_right _ fun e he =>
      decide_eq_true (lt_of_le_of_lt h (of_decide_eq_true he))
  exact (pendingKbs_perm _ rows).subperm.trans
    (hsublist.subperm.trans (pendingKbs_perm d rows).symm.subperm)

theorem once_of_oneBulletin (hb : Describes b rows) (h : OneBulletin b) :
    ((pendingUpdates d rows).pendingKbs.map fun e => e.kb).Nodup := by
  have hnodup : (pendingUpdates d rows).pendingKbs.Nodup := by
    rw [(pendingKbs_perm d rows).nodup_iff]
    exact ((Nodup.of_map _ hb.nodup).filter _).filter _
  refine hnodup.map_on fun r hr r' hr' hkb => ?_
  obtain ⟨hr, hbuild, hknown, -⟩ := mem_pendingKbs.mp hr
  obtain ⟨hr', hbuild', hknown', -⟩ := mem_pendingKbs.mp hr'
  have hat := knownAt_of_mem hb hr hknown
  have hat' := knownAt_of_mem hb hr' hknown'
  have hsame : r.buildMajor = r'.buildMajor := Int.ofNat_inj.mp (hbuild.trans hbuild'.symm)
  rw [← hkb, ← hsame] at hat'
  have hmonth : r.releaseMonth = r'.releaseMonth := by
    by_contra hne
    exact (h _ _ _ _ _ hne hat hat'.1).1 _ hat'
  exact inj_on_of_nodup_map hb.nodup hr hr' (by rw [hmonth, hkb, hsame])

theorem cves_of_oneBulletin (hb : Describes b rows) (h : OneBulletin b) (hr : r ∈ rows)
    (hknown : isKnown r.fixedUbr = true) (cve : String) :
    cve ∈ r.cveIds ↔ ∃ month, CveAt b month r.kb r.buildMajor cve := by
  rw [mem_cveIds hb hr]
  refine ⟨fun h => ⟨_, h⟩, ?_⟩
  rintro ⟨month, hcve⟩
  have hat := knownAt_of_mem hb hr hknown
  by_cases hmonth : r.releaseMonth = month
  · exact hmonth ▸ hcve
  · exact (h _ _ _ _ _ hmonth hat (names_of_cveAt hat.1.1 hcve)).2 cve hcve

theorem listsPending_of_oneBulletin (hb : Describes b rows) (h : OneBulletin b)
    (d : DeviceBuild) : ListsPending b rows d where
  once := once_of_oneBulletin hb h
  listed := listed_iff hb
  cves e he cve := by
    obtain ⟨hr, -, hknown, -⟩ := mem_pendingKbs.mp he
    exact cves_of_oneBulletin hb h hr hknown cve
  cveCount := by
    refine ⟨((pendingUpdates d rows).pendingKbs.flatMap fun e => e.cveIds).dedup,
      List.nodup_dedup _, rfl, fun cve => ?_⟩
    rw [mem_dedup, mem_flatMap]
    constructor
    · rintro ⟨r, hr, hcve⟩
      obtain ⟨hin, hbuild, -⟩ := mem_pendingKbs.mp hr
      exact ⟨r.releaseMonth, r.buildMajor, r.kb, hbuild, mem_map_of_mem hr,
        (mem_cveIds hb hin).mp hcve⟩
    · rintro ⟨month, build, kb, hbuild, hkb, hcve⟩
      obtain ⟨r, hr, rfl⟩ := mem_map.mp hkb
      obtain ⟨hin, hbuild', hknown, -⟩ := mem_pendingKbs.mp hr
      have hsame : build = r.buildMajor := Int.ofNat_inj.mp (hbuild.trans hbuild'.symm)
      exact ⟨r, hr, (cves_of_oneBulletin hb h hin hknown cve).mpr ⟨month, hsame ▸ hcve⟩⟩
  anti _ := pending_anti rows d

/-- The device of a build without any revision, for which all known rows are pending. -/
def unpatched (build : ℕ) : DeviceBuild where
  buildMajor := build
  ubr := 0

theorem mem_pendingKbs_unpatched (hr : r ∈ rows) (hknown : isKnown r.fixedUbr = true) :
    r ∈ (pendingUpdates (unpatched r.buildMajor) rows).pendingKbs := by
  obtain ⟨ubr, hubr, hne⟩ := isKnown_iff.mp hknown
  have hr' : r.ubr = ubr := congrArg (fun o => Option.getD o 0) hubr
  exact mem_pendingKbs.mpr ⟨hr, rfl, hknown, Int.ofNat_lt.mpr (hr' ▸ Nat.pos_of_ne_zero hne)⟩

/-- Where two bulletins know a KB's revision, the KB is listed twice. -/
theorem not_once_of_known {month month' kb : String} {build ubr ubr' : ℕ} (hb : Describes b rows)
    (hne : month ≠ month') (h : KnownAt b month kb build ubr)
    (h' : KnownAt b month' kb build ubr') :
    ¬((pendingUpdates (unpatched build) rows).pendingKbs.map fun e => e.kb).Nodup := by
  intro honce
  obtain ⟨r, hr, ⟨hmonth, hkb, hbuild⟩, hknown, -⟩ := exists_row_of_knownAt hb h
  obtain ⟨r', hr', ⟨hmonth', hkb', hbuild'⟩, hknown', -⟩ := exists_row_of_knownAt hb h'
  have hin := mem_pendingKbs_unpatched hr hknown
  have hin' := mem_pendingKbs_unpatched hr' hknown'
  rw [hbuild] at hin
  rw [hbuild'] at hin'
  have hsame := inj_on_of_nodup_map honce hin hin' (hkb.trans hkb'.symm)
  exact hne (hmonth ▸ hmonth' ▸ congrArg (fun e : KbEntry => e.releaseMonth) hsame)

theorem oneBulletin_of_listsPending (hb : Describes b rows)
    (h : ∀ build, ListsPending b rows (unpatched build)) : OneBulletin b := by
  intro month month' kb build ubr hne hknown hnames
  refine ⟨fun ubr' hknown' => not_once_of_known hb hne hknown hknown' (h build).once,
    fun cve hcve => ?_⟩
  obtain ⟨r, hr, ⟨hmonth, hkb, hbuild⟩, hisKnown, -⟩ := exists_row_of_knownAt hb hknown
  have hin := mem_pendingKbs_unpatched hr hisKnown
  rw [hbuild] at hin
  have hall := ((h build).cves r hin cve).mpr ⟨month', by rw [hkb, hbuild]; exact hcve⟩
  have hat := (mem_cveIds hb hr).mp hall
  rwa [hmonth, hkb, hbuild] at hat

/-- **After any runs, every device is told of each pending update once and with all its CVEs**,
exactly if of the bulletins that name a KB for a build one has all that is known of it. -/
theorem listsPending_iff_oneBulletin (t : Texts) (inputs : List Inputs) :
    (∀ d, ListsPending (run t inputs).2 (run t inputs).1.kbEntries d) ↔
      OneBulletin (run t inputs).2 :=
  ⟨fun h => oneBulletin_of_listsPending (describes_run t inputs) fun build => h (unpatched build),
    listsPending_of_oneBulletin (describes_run t inputs)⟩

end Pending

/-! ## A KB of two months -/

/-- A runtime that knows the letters of ASCII and compares texts by their units. -/
def asciiTexts : Texts where
  toLowerCase := String.map Char.toLower
  localeCompare a b := if a = b then 0 else if units a < units b then -1 else 1

/-- An entry for a KB that the bulletins of two months name. -/
def repeatedEntry (releaseMonth cve : String) : RawEntry where
  kb := some "5041585"
  cve := some cve
  buildMajor := 26100
  releaseMonth := releaseMonth

/-- The answers for the months. -/
def repeatedAnswers (code : String) : FetchMsrcMonthResult where
  entries :=
    if code = "2026-Aug" then some [repeatedEntry "2026-Aug" "CVE-2026-0002"]
    else if code = "2026-Jul" then some [repeatedEntry "2026-Jul" "CVE-2026-0001"]
    else none

/-- A run that reads them, and a release-health page that gives the revision of the KB. -/
def repeatedInputs : Inputs where
  year := 2026
  month := 8
  fetchMsrcMonth := repeatedAnswers
  ofMonth code entries h e he := by
    replace h : (if code = "2026-Aug" then some [repeatedEntry "2026-Aug" "CVE-2026-0002"]
      else if code = "2026-Jul" then some [repeatedEntry "2026-Jul" "CVE-2026-0001"]
      else none) = some entries := h
    split_ifs at h with haug hjul
    · cases h
      exact List.mem_singleton.mp he ▸ haug.symm
    · cases h
      exact List.mem_singleton.mp he ▸ hjul.symm
  releaseHealthMap := some (OrderedMap.empty.set "5041585:26100" 1457)

theorem knownAt_repeated (releaseMonth cve : String)
    (hentries : (run asciiTexts [repeatedInputs]).2.entries releaseMonth =
      some [repeatedEntry releaseMonth cve])
    (hrevision : (run asciiTexts [repeatedInputs]).2.revision releaseMonth "5041585" 26100 =
      some 1457) :
    KnownAt (run asciiTexts [repeatedInputs]).2 releaseMonth "5041585" 26100 1457 :=
  ⟨⟨by decide, _, hentries, _, mem_cons_self, rfl, rfl⟩, hrevision, by decide⟩

/-- The KB is listed twice. -/
theorem pending_of_repeated : ¬ListsPending (run asciiTexts [repeatedInputs]).2
    (run asciiTexts [repeatedInputs]).1.kbEntries (unpatched 26100) := by
  have haug := knownAt_repeated "2026-Aug" "CVE-2026-0002" (by decide +kernel) (by decide +kernel)
  have hjul := knownAt_repeated "2026-Jul" "CVE-2026-0001" (by decide +kernel) (by decide +kernel)
  exact fun h => not_once_of_known (describes_run asciiTexts [repeatedInputs]) (by decide) haug
    hjul h.once

end AppliverySoar.Catalogs.OsUpdateCatalog
