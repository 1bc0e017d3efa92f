import AppliverySoar.Catalogs.VulnService

/-!
# The keys that are stored and the keys that are looked up

A refresh stores answers under the keys of the fleet's versions and apps and deletes
all other rows; the status of a device is computed from the rows under keys that
`computeVulnServiceStatus` builds again (vulnService.ts, lines 207–260 and 395–472).
"The two MUST stay in lockstep" says the source (vulnSources.ts, line 179), yet the
reader prefers the version in the patch level of an Apple device, which no refresh
asks for, and looks up apps without an identifier or a version.

Results:
* `reaches_iff_mem_lookupKeys`: the keys that a reader looks up.
* `refreshed`: what a refresh without errors leaves of every key.
* `settled_iff_lockstep`: after such a refresh every key that is looked up for a
  device of the fleet was stored or found fresh, and none was deleted, exactly if the
  fleet is in `Lockstep`.
* `patch_level_not_asked`: a Mac whose patch level is newer than its version.
-/

namespace AppliverySoar.Catalogs

open Async Prog Compliance Js List Option

/-! ## What is looked up -/

section Reader

variable {r : Runtime} {now : ℚ} {workspaceSlug workerPlatform key : String}
  {plugins : List String} {device : NormalizedDevice} {entries : List InstalledAppsEntry}

/-- The keys that are looked up for a device. -/
def lookupKeys (r : Runtime) (now : ℚ) (d : NormalizedDevice)
    (entries : List InstalledAppsEntry) : List String :=
  match platformMap d.platform with
  | none => []
  | some workerPlatform =>
    (lookupOsKey workerPlatform d).toList ++
      (appsOf (entries.filter (isAppsEntryFresh r now))).map (lookupAppKey r workerPlatform)

/-- The call that looks a key up. -/
def IsLookup (workspaceSlug key : String) (c : VulnCall) : Prop :=
  c = .findCacheRow workspaceSlug key

/-- Some answers make a reader look `key` up. -/
def LooksUp (r : Runtime) (now : ℚ) (workspaceSlug : String) (d : NormalizedDevice)
    (entries : List InstalledAppsEntry) (key : String) : Prop :=
  (computeVulnServiceStatus r now workspaceSlug d entries).Reaches (IsLookup workspaceSlug key)

theorem calls_findRows {key' : String} (hkey : key' ≠ key) :
    (findRows workspaceSlug plugins key').Calls fun c => ¬IsLookup workspaceSlug key c := by
  have hrow : ¬IsLookup workspaceSlug key (.findCacheRow workspaceSlug key') := fun h =>
    hkey (VulnCall.findCacheRow.inj h).2
  refine (calls_call (S := vulnSig) hrow).bind fun _ => ?_
  refine Calls.bind (Calls.foldlM fun _ plugin _ => ?_) fun _ => calls_ret _
  exact (calls_call (S := vulnSig) (by simp [IsLookup])).bind fun _ => calls_ret _

theorem reaches_findRows :
    (findRows workspaceSlug plugins key).Reaches (IsLookup workspaceSlug key) :=
  Prog.Reaches.bind _ (Prog.reaches_call (S := vulnSig) rfl)

theorem returns_findRows (slug : String) (plugins : List String) (key : String) :
    ∃ found, (findRows slug plugins key).Returns found := by
  have hextra : ∀ acc : List (Option CacheRow), ∃ rows, Prog.Returns (S := vulnSig)
      (ε := ServiceError) (plugins.foldlM (fun rows plugin => do
        let extra ← ask (.getPluginCacheRow plugin slug key)
        return rows ++ [extra]) acc) rows := by
    induction plugins with
    | nil => exact fun acc => ⟨acc, returns_ret acc⟩
    | cons plugin plugins ih =>
      intro acc
      obtain ⟨rows, hrows⟩ := ih (acc ++ [none])
      refine ⟨rows, ?_⟩
      rw [foldlM_cons]
      exact Prog.Returns.bind (a := acc ++ [none])
        (Prog.Returns.bind (returns_call (S := vulnSig) _ none) (returns_ret _)) hrows
  obtain ⟨rows, hrows⟩ := hextra []
  exact ⟨⟨none, rows⟩, Prog.Returns.bind (returns_call (S := vulnSig) _ none)
    (hrows.bind (returns_ret _))⟩

variable {apps : List InstalledApp} {seen : List String}

theorem calls_findAppRows (hkey : ∀ a ∈ apps, lookupAppKey r workerPlatform a ≠ key) :
    (findAppRows r workspaceSlug workerPlatform plugins apps seen).Calls
      fun c => ¬IsLookup workspaceSlug key c := by
  induction apps generalizing seen with
  | nil => exact calls_ret _
  | cons a apps ih =>
    have hrest := fun b hb => hkey b (mem_cons_of_mem a hb)
    unfold findAppRows
    refine Calls.ite (fun _ => ih hrest) fun _ => ?_
    refine (calls_findRows (hkey a mem_cons_self)).bind fun _ => ?_
    exact (ih hrest).bind fun _ => calls_ret _

/-- A key that has not been looked up is looked up when its app comes. -/
theorem reaches_findAppRows (hseen : key ∉ seen)
    (hkey : ∃ a ∈ apps, lookupAppKey r workerPlatform a = key) :
    (findAppRows r workspaceSlug workerPlatform plugins apps seen).Reaches
      (IsLookup workspaceSlug key) := by
  induction apps generalizing seen with
  | nil => obtain ⟨a, ha, -⟩ := hkey; cases ha
  | cons b apps ih =>
    unfold findAppRows
    by_cases hb : lookupAppKey r workerPlatform b = key
    · simp only [hb, if_neg hseen]
      exact reaches_findRows.bind _
    · have hrest : ∃ a ∈ apps, lookupAppKey r workerPlatform a = key := by
        obtain ⟨a, ha, hakey⟩ := hkey
        rcases mem_cons.mp ha with rfl | ha
        · exact absurd hakey hb
        · exact ⟨a, ha, hakey⟩
      dsimp only
      split_ifs with hold
      · exact ih hseen hrest
      · obtain ⟨found, hfound⟩ := returns_findRows workspaceSlug plugins
          (lookupAppKey r workerPlatform b)
        refine hfound.reaches_bind ((ih ?_ hrest).bind _)
        simp only [mem_cons, not_or]
        exact ⟨fun h => hb h.symm, hseen⟩

/-- **The keys of a reader**: what it may look up are the `lookupKeys`. -/
theorem reaches_iff_mem_lookupKeys :
    LooksUp r now workspaceSlug device entries key ↔ key ∈ lookupKeys r now device entries := by
  unfold LooksUp computeVulnServiceStatus lookupKeys
  cases hplatform : platformMap device.platform with
  | none => exact iff_of_false (calls_ret _).not_reaches not_mem_nil
  | some workerPlatform =>
    simp only [mem_append, mem_toList, List.mem_map]
    constructor
    · intro hreaches
      by_contra hnot
      obtain ⟨hos, happs⟩ := not_or.mp hnot
      refine Calls.not_reaches ?_ hreaches
      refine (calls_call (S := vulnSig) (by simp [IsLookup])).bind fun plugins => ?_
      refine Calls.bind ?_ fun _ => ?_
      · unfold findOsRows
        cases hkey : lookupOsKey workerPlatform device with
        | none => exact calls_ret _
        | some osKey =>
          refine (calls_findRows ?_).bind fun _ => calls_ret _
          rintro rfl
          exact hos hkey
      · refine (calls_findAppRows ?_).bind fun _ => calls_ret _
        exact fun a ha hkey => happs ⟨a, ha, hkey⟩
    · intro hkeys
      refine (returns_call (S := vulnSig) _ []).reaches_bind ?_
      rcases hkeys with hos | happs
      · unfold findOsRows
        rw [show lookupOsKey workerPlatform device = some key from hos]
        exact (reaches_findRows.bind _).bind _
      · have hreturns : ∃ found, (findOsRows workspaceSlug []
            (lookupOsKey workerPlatform device)).Returns found := by
          unfold findOsRows
          cases lookupOsKey workerPlatform device with
          | none => exact ⟨none, returns_ret _⟩
          | some osKey =>
            obtain ⟨found, hfound⟩ := returns_findRows workspaceSlug [] osKey
            exact ⟨some found, hfound.bind (returns_ret _)⟩
        obtain ⟨found, hfound⟩ := hreturns
        exact hfound.reaches_bind ((reaches_findAppRows not_mem_nil happs).bind _)

end Reader

/-! ## What a refresh leaves -/

/-- The run stored a row under `key`. -/
def Populated (workspaceSlug : String) (es : List VulnMove) (key : String) : Prop :=
  ∃ result now, ⟨.upsertCacheRow workspaceSlug key result now, .ok ()⟩ ∈ es

/-- The run deleted the row of `key`. -/
def Evicted (workspaceSlug : String) (es : List VulnMove) (key : String) : Prop :=
  ⟨.deleteCacheRow workspaceSlug key, .ok ()⟩ ∈ es

/-- The row of `key` was fresh at a moment of the run. -/
def FreshAmong (cacheRows : List (String × CacheRow)) (es : List VulnMove) (key : String) : Prop :=
  ∃ row now, (key, row) ∈ cacheRows ∧ ⟨.now, .ok now⟩ ∈ es ∧ now - row.cachedAt < cacheTtlMs

/-- The row of `key` was stored or fresh. -/
def Kept (workspaceSlug : String) (cacheRows : List (String × CacheRow)) (es : List VulnMove)
    (key : String) : Prop :=
  Populated workspaceSlug es key ∨ FreshAmong cacheRows es key

section Refresh

variable {r : Runtime} {workspaceSlug base token key : String} {force : Bool}
  {cacheRows : List (String × CacheRow)} {es fs : List VulnMove}
  {combos : List (String × String × String)}

theorem Populated.mono (h : Populated workspaceSlug es key) (hes : es ⊆ fs) :
    Populated workspaceSlug fs key := by
  obtain ⟨result, now, hmem⟩ := h
  exact ⟨result, now, hes hmem⟩

theorem FreshAmong.mono (h : FreshAmong cacheRows es key) (hes : es ⊆ fs) :
    FreshAmong cacheRows fs key := by
  obtain ⟨row, now, hrow, hnow, hfresh⟩ := h
  exact ⟨row, now, hrow, hes hnow, hfresh⟩

theorem Kept.mono (h : Kept workspaceSlug cacheRows es key) (hes : es ⊆ fs) :
    Kept workspaceSlug cacheRows fs key :=
  h.imp (fun h => h.mono hes) fun h => h.mono hes

theorem fresh_of_isFresh
    (h : Prog.Steps (isFresh force ((cacheRows.lookup key).map CacheRow.cachedAt)) es
      (.ret (.ok true))) : FreshAmong cacheRows es key := by
  unfold isFresh at h
  split_ifs at h with hforce
  · cases h
  · cases hlookup : cacheRows.lookup key with
    | none =>
      rw [hlookup] at h
      cases h
    | some row =>
      rw [hlookup] at h
      obtain ⟨now, gs, rfl, hend⟩ := Prog.Steps.of_call_bind_ok (S := vulnSig) h
      have hrow : (key, row) ∈ cacheRows := by
        obtain ⟨before, after, rfl, -⟩ := lookup_eq_some_iff.mp hlookup
        simp
      refine ⟨row, now, hrow, mem_cons_self, ?_⟩
      generalize hd : decide (now - row.cachedAt < cacheTtlMs) = d at hend
      cases hend
      exact of_decide_eq_true hd

theorem populated_of_storeOs {platform osVersion : String}
    (h : Prog.Steps (storeOs workspaceSlug base token key platform osVersion) es (.ret (.ok ()))) :
    Populated workspaceSlug es key := by
  obtain ⟨res, ps, gs, rfl, -, hnext⟩ := h.of_bind_ok
  split_ifs at hnext with hstatus
  · cases hnext
  · obtain ⟨now, hs, rfl, hend⟩ := Prog.Steps.of_call_bind_ok (S := vulnSig) hnext
    cases hend with
    | head hdone =>
      cases hdone
      exact ⟨res.data, now, by simp⟩

theorem kept_of_queryOs {tally tally' : OsTally}
    (h : Prog.Steps (combos.foldlM (fun tally combo => do
      let fresh ← isFresh force ((cacheRows.lookup combo.1).map CacheRow.cachedAt)
      if fresh then return tally
      else
        match ← (storeOs workspaceSlug base token combo.1 combo.2.1 combo.2.2).attempt with
        | .ok _ => return (tally.1 + 1, tally.2)
        | .error _ => return (tally.1, tally.2 + 1)) tally) es (.ret (.ok tally'))) :
    tally.2 ≤ tally'.2 ∧
      (tally'.2 = tally.2 → ∀ combo ∈ combos, Kept workspaceSlug cacheRows es combo.1) := by
  induction combos generalizing tally es with
  | nil =>
    cases h
    exact ⟨le_rfl, fun _ _ hmem => nomatch hmem⟩
  | cons combo combos ih =>
    rw [foldlM_cons] at h
    obtain ⟨mid, fs, gs, rfl, hfirst, hrest⟩ := h.of_bind_ok
    obtain ⟨hle, hkept⟩ := ih hrest
    obtain ⟨fresh, ps, qs, rfl, hfresh, hnext⟩ := hfirst.of_bind_ok
    have hstep : tally.2 ≤ mid.2 ∧ (mid.2 = tally.2 →
        Kept workspaceSlug cacheRows (ps ++ qs) combo.1) := by
      cases fresh with
      | true =>
        cases hnext
        exact ⟨le_rfl, fun _ => .inr ((fresh_of_isFresh hfresh).mono (by simp))⟩
      | false =>
        obtain ⟨stored, us, vs, rfl, hstored, hend⟩ := hnext.of_bind_ok
        cases stored with
        | ok _ =>
          cases hend
          exact ⟨le_rfl, fun _ => .inl ((populated_of_storeOs hstored.of_attempt).mono (by simp))⟩
        | error e =>
          cases hend
          exact ⟨Nat.le_succ _, fun heq => absurd heq (Nat.succ_ne_self _)⟩
    refine ⟨hstep.1.trans hle, fun heq => ?_⟩
    have hmid : mid.2 = tally.2 := le_antisymm (heq ▸ hle) hstep.1
    rintro c (_ | ⟨_, hc⟩)
    · exact (hstep.2 hmid).mono (subset_append_left _ _)
    · exact (hkept (heq.trans hmid.symm) c hc).mono (subset_append_right _ _)

theorem stale_or_fresh {combos acc toQuery : List (String × AppCombo)}
    (h : Prog.Steps (combos.foldlM (fun toQuery combo => do
      let fresh ← isFresh force ((cacheRows.lookup combo.1).map CacheRow.cachedAt)
      return if fresh then toQuery else toQuery ++ [combo]) acc) es (.ret (.ok toQuery))) :
    acc ⊆ toQuery ∧ ∀ combo ∈ combos, combo ∈ toQuery ∨ FreshAmong cacheRows es combo.1 := by
  induction combos generalizing acc es with
  | nil =>
    cases h
    exact ⟨Subset.refl _, fun _ hmem => nomatch hmem⟩
  | cons combo combos ih =>
    rw [foldlM_cons] at h
    obtain ⟨mid, fs, gs, rfl, hfirst, hrest⟩ := h.of_bind_ok
    obtain ⟨hsub, hall⟩ := ih hrest
    obtain ⟨fresh, ps, qs, rfl, hfresh, hend⟩ := hfirst.of_bind_ok
    cases hend
    refine ⟨fun c hc => hsub ?_, ?_⟩
    · split_ifs
      · exact hc
      · exact mem_append_left _ hc
    · rintro c (_ | ⟨_, hc⟩)
      · cases fresh with
        | true => exact .inr ((fresh_of_isFresh hfresh).mono (by simp))
        | false => exact .inl (hsub (by simp))
      · exact (hall c hc).imp_right fun h => h.mono (subset_append_right _ _)

variable {batch : List (String × AppCombo)} {chunkSize : ℕ}

theorem populated_of_storeResults {results : List Value} {i : ℕ}
    {tally tally' : AppsTally} {es : List VulnMove}
    (h : Prog.Steps (storeResults workspaceSlug results batch i tally) es
      (.ret (.ok (tally', true)))) : ∀ e ∈ batch, Populated workspaceSlug es e.1 := by
  induction batch generalizing i tally es with
  | nil => exact fun _ hmem => nomatch hmem
  | cons e batch ih =>
    obtain ⟨key, combo⟩ := e
    obtain ⟨now, gs, rfl, hnext⟩ := Prog.Steps.of_call_bind_ok (S := vulnSig) h
    obtain ⟨stored, ps, qs, rfl, hstored, hrest⟩ := hnext.of_bind_ok
    cases stored with
    | error e => cases hrest
    | ok _ =>
      have hcall := hstored.of_attempt
      cases hcall with
      | head hdone =>
        cases hdone
        rintro e (_ | ⟨_, he⟩)
        · exact ⟨(results[i]?).getD .undefined, now, by simp⟩
        · exact (ih hrest e he).mono (by simp)

theorem populated_of_queryApps
    {tally : AppsTally} (h : Prog.Steps (queryApps chunkSize workspaceSlug base token batch) es
      (.ret (.ok tally))) (herrors : tally.errors = 0) :
    ∀ e ∈ batch, Populated workspaceSlug es e.1 := by
  unfold queryApps at h
  split_ifs at h with hempty
  · rw [List.isEmpty_iff.mp hempty]
    exact fun _ hmem => nomatch hmem
  · have hlength : batch.length ≠ 0 := fun h0 => hempty (by
      rw [length_eq_zero_iff.mp h0]
      rfl)
    obtain ⟨fetched, ps, qs, rfl, -, hnext⟩ := h.of_bind_ok
    cases fetched with
    | error e =>
      cases hnext
      exact absurd herrors hlength
    | ok results =>
      obtain ⟨⟨tally', stored⟩, us, vs, rfl, hstored, hend⟩ := hnext.of_bind_ok
      cases stored with
      | true => exact fun e he => (populated_of_storeResults hstored e he).mono (by simp)
      | false =>
        cases hend
        exact absurd (Nat.eq_zero_of_add_eq_zero_left herrors) hlength

theorem evicted_of_evictRows (keep : String → Bool) {rows : List (String × CacheRow)} {n m : ℕ}
    (h : Prog.Steps (rows.foldlM (fun evicted row =>
      if keep row.1 then pure evicted
      else do
        ask (.deleteCacheRow workspaceSlug row.1)
        return evicted + 1) n) es (.ret (.ok m))) :
    ∀ row ∈ rows, keep row.1 = false → Evicted workspaceSlug es row.1 := by
  induction rows generalizing n es with
  | nil => exact fun _ hmem => nomatch hmem
  | cons row rows ih =>
    rw [foldlM_cons] at h
    obtain ⟨mid, fs, gs, rfl, hfirst, hrest⟩ := h.of_bind_ok
    rintro e (_ | ⟨_, he⟩) hkeep
    · rw [hkeep] at hfirst
      obtain ⟨_, hs, rfl, -⟩ := Prog.Steps.of_call_bind_ok (S := vulnSig) hfirst
      exact mem_append_left _ mem_cons_self
    · exact mem_append_right _ (ih hrest e he hkeep)

/-- The keys that a refresh asks for. -/
def Asks {r : Runtime} (osCombos : OrderedMap (String × String)) (appCombos : AppCombos r)
    (key : String) : Prop :=
  key ∈ osCombos.keys ∨ key ∈ appCombos.keys

/-- What is called once the fleet is gathered: rows are stored under keys that are
asked for, and others are deleted. -/
def AfterGathering {r : Runtime} (workspaceSlug : String) (osCombos : OrderedMap (String × String))
    (appCombos : AppCombos r) : VulnCall → Prop
  | .deleteCacheRow slug key => slug = workspaceSlug ∧ ¬Asks osCombos appCombos key
  | .upsertCacheRow slug key _ _ => slug = workspaceSlug ∧ Asks osCombos appCombos key
  | .now | .sleep _ | .post .. | .updateConfig .. => True
  | _ => False

variable {osCombos : OrderedMap (String × String)} {appCombos : AppCombos r}

theorem calls_postWithRetry {url : String} {body : VulnQuery} :
    (postWithRetry url token body).Calls (AfterGathering workspaceSlug osCombos appCombos) := by
  have hall : ∀ pauses : List ℕ, (postAttempts url token body pauses).Calls
      (AfterGathering workspaceSlug osCombos appCombos) := by
    intro pauses
    induction pauses with
    | nil => exact calls_call (S := vulnSig) trivial
    | cons pause pauses ih =>
      have hpost : (ask (.post url token body)).Calls
          (AfterGathering workspaceSlug osCombos appCombos) :=
        calls_call (S := vulnSig) trivial
      have hpause : Calls (AfterGathering workspaceSlug osCombos appCombos)
          (ask (.sleep pause) >>= fun _ => postAttempts url token body pauses) :=
        (calls_call (S := vulnSig) trivial).bind fun _ => ih
      refine hpost.attempt.bind fun res => ?_
      cases res with
      | ok res => exact Calls.ite (fun _ => hpause) fun _ => calls_ret _
      | error e => exact hpause
  exact hall _

theorem calls_isFresh {cachedAt : Option ℚ} :
    (isFresh force cachedAt).Calls (AfterGathering workspaceSlug osCombos appCombos) := by
  refine Calls.guard fun _ => ?_
  cases cachedAt with
  | none => exact calls_ret _
  | some time => exact (calls_call (S := vulnSig) trivial).bind fun _ => calls_ret _

theorem calls_evictRows :
    (evictRows workspaceSlug (fun key => osCombos.has key || appCombos.has key) cacheRows).Calls
      (AfterGathering workspaceSlug osCombos appCombos) := by
  refine Calls.foldlM fun n row _ => Calls.guard fun hkeep => ?_
  refine (calls_call (S := vulnSig) ⟨rfl, fun hasks => hkeep ?_⟩).bind
    fun _ => calls_ret _
  simpa [Asks] using hasks

theorem calls_queryOs
    (hcombos : ∀ combo ∈ combos, Asks osCombos appCombos combo.1) :
    (queryOs workspaceSlug base token force cacheRows combos).Calls
      (AfterGathering workspaceSlug osCombos appCombos) := by
  refine Calls.foldlM fun tally combo hcombo => calls_isFresh.bind fun fresh => ?_
  refine Calls.guard fun _ => ?_
  refine Calls.bind (Calls.attempt ?_) fun stored => ?_
  · refine calls_postWithRetry.bind fun res => ?_
    refine Calls.guard fun _ => ?_
    refine (calls_call (S := vulnSig) trivial).bind fun now => ?_
    exact calls_call (S := vulnSig) ⟨rfl, hcombos combo hcombo⟩
  · cases stored <;> exact calls_ret _

theorem ensures_staleApps {combos : List (String × AppCombo)} :
    (staleApps force cacheRows combos).Ensures (AfterGathering workspaceSlug osCombos appCombos)
      fun toQuery => toQuery ⊆ combos := by
  refine (Meets.foldlM (W := World.log vulnSig ServiceError)
    (fun done toQuery _ => toQuery ⊆ done) (Subset.refl _) ?_).mono fun r _ h => by
      cases r with
      | ok toQuery => exact h
      | error e => exact (trivial : (fun _ _ => True : ServiceError → List VulnMove → Prop) e [])
  intro done combo todo _ toQuery es hsub
  refine Meets.bind (R := fun _ _ => True) ?_ fun fresh es' _ => ?_
  · exact (calls_isFresh.meets_extends (fun _ _ h => h) es).mono fun r _ _ => by
      cases r <;> trivial
  · show (if fresh = true then toQuery else toQuery ++ [combo]) ⊆ done ++ [combo]
    split_ifs
    · exact Subset.trans hsub (subset_append_left _ _)
    · exact append_subset.mpr
        ⟨Subset.trans hsub (subset_append_left _ _), subset_append_right _ _⟩

theorem calls_queryApps
    (hbatch : ∀ e ∈ batch, Asks osCombos appCombos e.1) :
    (queryApps chunkSize workspaceSlug base token batch).Calls
      (AfterGathering workspaceSlug osCombos appCombos) := by
  have hstore : ∀ (results : List Value) (l : List (String × AppCombo)) (i : ℕ) (tally : AppsTally),
      (∀ e ∈ l, Asks osCombos appCombos e.1) →
      (storeResults workspaceSlug results l i tally).Calls
        (AfterGathering workspaceSlug osCombos appCombos) := by
    intro results l
    induction l with
    | nil => exact fun _ _ _ => calls_ret _
    | cons e l ih =>
      intro i tally hl
      refine (calls_call (S := vulnSig) trivial).bind fun now => ?_
      refine Calls.bind (Calls.attempt ?_) fun stored => ?_
      · exact calls_call (S := vulnSig) ⟨rfl, hl e mem_cons_self⟩
      · cases stored with
        | ok _ => exact ih _ _ fun e he => hl e (mem_cons_of_mem _ he)
        | error _ => exact calls_ret _
  refine Calls.guard fun _ => ?_
  refine Calls.bind (Calls.attempt (Calls.foldlM fun results chunk _ => ?_))
    fun fetched => ?_
  · refine calls_postWithRetry.bind fun res => Calls.guard fun _ => ?_
    cases res.results <;> exact calls_ret _
  · cases fetched with
    | error e => exact calls_ret _
    | ok results =>
      refine (hstore results batch 0 _ hbatch).bind fun stored => ?_
      obtain ⟨tally, _ | _⟩ := stored <;> exact calls_ret _

theorem calls_refreshCombos :
    (refreshCombos r workspaceSlug base token force osCombos appCombos cacheRows).Calls
      (AfterGathering workspaceSlug osCombos appCombos) := by
  refine calls_evictRows.bind fun evicted => ?_
  refine (calls_queryOs fun combo h => .inl (mem_map_of_mem h)).bind fun os => ?_
  refine Ensures.bind ensures_staleApps fun toQuery hsub => ?_
  refine Calls.bind (calls_queryApps fun e he => .inr
    (mem_map_of_mem (hsub (mem_of_mem_take he)))) fun apps => ?_
  refine (calls_call (S := vulnSig) trivial).bind fun refreshedAt => ?_
  refine (calls_call (S := vulnSig) trivial).bind fun now => ?_
  exact (calls_call (S := vulnSig) trivial).bind fun _ => calls_ret _

variable {stats : VulnStats} {bearer : String}

section

variable (h : Prog.Steps (refreshCombos r workspaceSlug base token force osCombos appCombos cacheRows) es (.ret (.ok stats)))
include h

/-- The parts of a refresh, each with its share of the exchange. -/
theorem parts_of_refreshCombos :
    ∃ evicted os toQuery apps, ∃ es₁ ⊆ es, ∃ es₂ ⊆ es, ∃ es₃ ⊆ es, ∃ es₄ ⊆ es,
      Prog.Steps (evictRows workspaceSlug (fun key => osCombos.has key || appCombos.has key)
        cacheRows) es₁ (.ret (.ok evicted)) ∧
      Prog.Steps (queryOs workspaceSlug base token force cacheRows osCombos.entries) es₂
        (.ret (.ok os)) ∧
      Prog.Steps (staleApps force cacheRows appCombos.entries) es₃ (.ret (.ok toQuery)) ∧
      Prog.Steps (queryApps appsChunkSize workspaceSlug base token (toQuery.take maxAppsPerTick))
        es₄ (.ret (.ok apps)) ∧
      stats.osErrors = os.2 ∧ stats.appsErrors = apps.errors ∧
      stats.appsRemaining = toQuery.length - (toQuery.take maxAppsPerTick).length := by
  obtain ⟨evicted, es₁, gs₁, rfl, hevict, h₁⟩ := h.of_bind_ok
  obtain ⟨os, es₂, gs₂, rfl, hquery, h₂⟩ := h₁.of_bind_ok
  obtain ⟨toQuery, es₃, gs₃, rfl, hstale, h₃⟩ := h₂.of_bind_ok
  obtain ⟨apps, es₄, gs₄, rfl, hbatch, h₄⟩ := h₃.of_bind_ok
  have hsub : ∀ l l' : List VulnMove, l ⊆ l ++ l' := fun l l' => subset_append_left l l'
  have htail : ∀ {l l' m : List VulnMove}, l ⊆ l' → l ⊆ m ++ l' := fun h =>
    Subset.trans h (subset_append_right _ _)
  refine ⟨evicted, os, toQuery, apps, es₁, hsub _ _, es₂, htail (hsub _ _), es₃,
    htail (htail (hsub _ _)), es₄, htail (htail (htail (hsub _ _))), hevict, hquery, hstale, hbatch,
    ?_⟩
  obtain ⟨refreshedAt, gs₅, rfl, h₅⟩ := Prog.Steps.of_call_bind_ok (S := vulnSig) h₄
  obtain ⟨now, gs₆, rfl, h₆⟩ := Prog.Steps.of_call_bind_ok (S := vulnSig) h₅
  obtain ⟨_, gs₇, rfl, h₇⟩ := Prog.Steps.of_call_bind_ok (S := vulnSig) h₆
  cases h₇
  exact ⟨rfl, rfl, rfl⟩

theorem kept_of_refreshCombos
    (hos : stats.osErrors = 0) (happs : stats.appsErrors = 0) (hleft : stats.appsRemaining = 0) :
    (∀ key, Asks osCombos appCombos key → Kept workspaceSlug cacheRows es key) ∧
      ∀ row ∈ cacheRows, ¬Asks osCombos appCombos row.1 → Evicted workspaceSlug es row.1 := by
  obtain ⟨evicted, os, toQuery, apps, es₁, h₁, es₂, h₂, es₃, h₃, es₄, h₄, hevict, hquery, hstale,
    hbatch, hosErrors, happsErrors, hremaining⟩ := parts_of_refreshCombos h
  refine ⟨?_, fun row hrow hnot => ?_⟩
  · rintro key (hkey | hkey)
    · obtain ⟨combo, hcombo, rfl⟩ := mem_map.mp hkey
      exact ((kept_of_queryOs hquery).2 (hosErrors.symm.trans hos) combo hcombo).mono h₂
    · obtain ⟨combo, hcombo, rfl⟩ := mem_map.mp hkey
      rcases (stale_or_fresh hstale).2 combo hcombo with hstaleApp | hfresh
      · -- nothing is left over, so the batch is all that is to be queried
        have hshort : toQuery.length ≤ maxAppsPerTick := by
          rw [hremaining, length_take] at hleft
          omega
        rw [take_of_length_le hshort] at hbatch
        exact .inl ((populated_of_queryApps hbatch (happsErrors.symm.trans happs) combo
          hstaleApp).mono h₄)
      · exact .inr (hfresh.mono h₃)
  · refine h₁ (evicted_of_evictRows (fun key => osCombos.has key || appCombos.has key) hevict row
      hrow ?_)
    rw [Bool.eq_false_iff]
    intro hkeep
    exact hnot (by simpa [Asks] using hkeep)

end

/-- A run that gathers a fleet and goes on with it. -/
structure Gathered (r : Runtime) (workspaceSlug bearer : String) (force : Bool)
    (es : List VulnMove) (stats : VulnStats) where
  base : String
  token : String
  devices : List NormalizedDevice
  store : String → Option InstalledAppsRecord
  cacheRows : List (String × CacheRow)
  front : List VulnMove
  rest : List VulnMove
  events : es = front ++ ⟨.getDevicesFull bearer workspaceSlug, .ok devices⟩ ::
    ⟨.loadInstalledAppsStore workspaceSlug, .ok store⟩ ::
    ⟨.findCacheRows workspaceSlug, .ok cacheRows⟩ :: rest
  configured : ∀ e ∈ front, (∃ slug, e.call = .loadConfigRow slug) ∨
    ∃ text, e.call = .decryptSecret text
  steps : Prog.Steps (refreshCombos r workspaceSlug base token force (Catalogs.osCombos devices)
    (Catalogs.appCombos r devices store) cacheRows) rest (.ret (.ok stats))

theorem gathered_of_refresh
    (h : Prog.Steps (refreshVulnServiceForWorkspace r workspaceSlug bearer force) es
      (.ret (.ok stats))) : Nonempty (Gathered r workspaceSlug bearer force es stats) := by
  obtain ⟨cfg, gs, rfl, hcfg⟩ := Prog.Steps.of_call_bind_ok (S := vulnSig) h
  cases cfg with
  | none => cases hcfg
  | some cfg =>
    obtain ⟨token, ts, hs, rfl, htoken, htail⟩ := hcfg.of_bind_ok
    obtain ⟨devices, ds, rfl, hstore⟩ := Prog.Steps.of_call_bind_ok (S := vulnSig) htail
    obtain ⟨store, ss, rfl, hrows⟩ := Prog.Steps.of_call_bind_ok (S := vulnSig) hstore
    obtain ⟨cacheRows, rs, rfl, hrest⟩ := Prog.Steps.of_call_bind_ok (S := vulnSig) hrows
    have hdecrypt : ∀ e ∈ ts, ∃ text, e.call = .decryptSecret text := by
      unfold apiToken at htoken
      cases hencrypted : cfg.apiTokenEncrypted with
      | none =>
        rw [hencrypted] at htoken
        cases htoken
        exact fun _ hmem => nomatch hmem
      | some text =>
        rw [hencrypted] at htoken
        dsimp only at htoken
        split_ifs at htoken
        · cases htoken
          exact fun _ hmem => nomatch hmem
        · cases htoken with
          | head hdone =>
            cases hdone
            intro e he
            exact ⟨text, by rw [mem_singleton.mp he]⟩
    refine ⟨⟨trimSlashes cfg.baseUrl, token, devices, store, cacheRows,
      ⟨.loadConfigRow workspaceSlug, .ok (some cfg)⟩ :: ts, rs, by simp, ?_, hrest⟩⟩
    rintro e (_ | ⟨_, he⟩)
    · exact .inl ⟨workspaceSlug, rfl⟩
    · exact .inr (hdecrypt e he)

/-- The row of `key` was found, and was fresh. -/
def FoundFresh (workspaceSlug : String) (es : List VulnMove) (key : String) : Prop :=
  ∃ cacheRows, ⟨.findCacheRows workspaceSlug, .ok cacheRows⟩ ∈ es ∧ FreshAmong cacheRows es key

/-- The run stored a row under `key` or found it fresh, and did not delete it. -/
def Settled (workspaceSlug : String) (es : List VulnMove) (key : String) : Prop :=
  (Populated workspaceSlug es key ∨ FoundFresh workspaceSlug es key) ∧
    ¬Evicted workspaceSlug es key

/-- **A refresh without errors** settles the keys that it asks for, and no others. -/
theorem refreshed {devices : List NormalizedDevice}
    {store : String → Option InstalledAppsRecord}
    (h : Prog.Steps (refreshVulnServiceForWorkspace r workspaceSlug bearer force) es
      (.ret (.ok stats)))
    (hos : stats.osErrors = 0) (happs : stats.appsErrors = 0) (hleft : stats.appsRemaining = 0)
    (hdevices : ⟨.getDevicesFull bearer workspaceSlug, .ok devices⟩ ∈ es)
    (hstore : ⟨.loadInstalledAppsStore workspaceSlug, .ok store⟩ ∈ es) (key : String) :
    Settled workspaceSlug es key ↔
      Asks (Catalogs.osCombos devices) (Catalogs.appCombos r devices store) key := by
  obtain ⟨base, token, devices', store', cacheRows, front, rest, rfl, hconfigured, hsteps⟩ :=
    gathered_of_refresh h
  have hafter := calls_refreshCombos.of_steps hsteps
  obtain ⟨hkept, hevicted⟩ := kept_of_refreshCombos hsteps hos happs hleft
  have hsub : rest ⊆ front ++ ⟨.getDevicesFull bearer workspaceSlug, .ok devices'⟩ ::
      ⟨.loadInstalledAppsStore workspaceSlug, .ok store'⟩ ::
      ⟨.findCacheRows workspaceSlug, .ok cacheRows⟩ :: rest := fun e he => by simp [he]
  obtain rfl : devices = devices' := by
    rcases mem_append.mp hdevices with he | he
    · rcases hconfigured _ he with ⟨slug, heq⟩ | ⟨text, heq⟩ <;> cases heq
    · rcases mem_cons.mp he with heq | he
      · simpa using heq
      · simp only [mem_cons, Event.mk.injEq, reduceCtorEq, false_and, false_or] at he
        exact (hafter _ he).elim
  obtain rfl : store = store' := by
    rcases mem_append.mp hstore with he | he
    · rcases hconfigured _ he with ⟨slug, heq⟩ | ⟨text, heq⟩ <;> cases heq
    · simp only [mem_cons, Event.mk.injEq, reduceCtorEq, false_and, false_or] at he
      rcases he with heq | he
      · simpa using heq
      · exact (hafter _ he).elim
  constructor
  · rintro ⟨⟨result, now, hupsert⟩ | ⟨found, hfound, row, now, hrow, -⟩, hkeep⟩
    · rcases mem_append.mp hupsert with he | he
      · rcases hconfigured _ he with ⟨slug, heq⟩ | ⟨text, heq⟩ <;> cases heq
      · simp only [mem_cons, Event.mk.injEq, reduceCtorEq, false_and, false_or] at he
        exact (hafter _ he).2
    · -- a fresh row that nothing asks for is deleted
      obtain rfl : found = cacheRows := by
        rcases mem_append.mp hfound with he | he
        · rcases hconfigured _ he with ⟨slug, heq⟩ | ⟨text, heq⟩ <;> cases heq
        · simp only [mem_cons, Event.mk.injEq, reduceCtorEq, false_and, false_or] at he
          rcases he with heq | he
          · simpa using heq
          · exact (hafter _ he).elim
      by_contra hnot
      exact hkeep (hsub (hevicted _ hrow hnot))
  · intro hasks
    refine ⟨(hkept key hasks).imp (fun h => h.mono hsub)
      fun h => ⟨cacheRows, by simp, h.mono hsub⟩, fun hdelete => ?_⟩
    rcases mem_append.mp hdelete with he | he
    · rcases hconfigured _ he with ⟨slug, heq⟩ | ⟨text, heq⟩ <;> cases heq
    · simp only [mem_cons, Event.mk.injEq, reduceCtorEq, false_and, false_or] at he
      exact (hafter _ he).2 hasks

end Refresh

/-! ## The keys of a fleet -/

section Keys

variable {r : Runtime} {devices : List NormalizedDevice}
  {store : String → Option InstalledAppsRecord} {key : String}

/-- The key that a refresh asks for a device's operating system. -/
def fleetOsKey (d : NormalizedDevice) : Option String :=
  (platformMap d.platform).bind fun workerPlatform =>
    if d.osVersion = "" then none
    else some (osKey workerPlatform (normalizeOsVersionForWorker workerPlatform d.osVersion))

theorem mem_keys_osCombos :
    key ∈ (osCombos devices).keys ↔ ∃ d ∈ devices, fleetOsKey d = some key := by
  induction devices using reverseRecOn with
  | nil => simp [osCombos]
  | append_singleton devices d ih =>
    unfold osCombos at ih ⊢
    rw [foldl_append, foldl_cons, foldl_nil]
    simp only [mem_append, mem_singleton, or_and_right, exists_or, exists_eq_left, ← ih]
    cases hplatform : platformMap d.platform with
    | none => simp [fleetOsKey, hplatform]
    | some workerPlatform =>
      by_cases hversion : d.osVersion = ""
      · simp [fleetOsKey, hplatform, hversion]
      · simp only [fleetOsKey, hplatform, bind_some, if_neg hversion,
          OrderedMap.mem_keys_set, some.injEq]
        rw [or_comm, eq_comm]

theorem mem_keys_foldl_add {combos : List AppCombo} {acc : AppCombos r} :
    key ∈ (combos.foldl AppCombos.add acc).keys ↔
      key ∈ acc.keys ∨ ∃ combo ∈ combos, appKey r combo = key := by
  induction combos generalizing acc with
  | nil => simp
  | cons combo combos ih =>
    have hadd : key ∈ (acc.add combo).keys ↔ key = appKey r combo ∨ key ∈ acc.keys :=
      mem_keys_setEntry
    rw [foldl_cons, ih, hadd]
    simp only [mem_cons, exists_eq_or_imp, eq_comm (a := key)]
    tauto

theorem mem_keys_appCombos : key ∈ (appCombos r devices store).keys ↔
    ∃ d ∈ devices, ∃ combo ∈ combosOf store d, appKey r combo = key := by
  unfold appCombos
  rw [mem_keys_foldl_add]
  simp only [mem_flatMap]
  constructor
  · rintro (hnone | ⟨combo, ⟨d, hd, hcombo⟩, hkey⟩)
    · cases hnone
    · exact ⟨d, hd, combo, hcombo, hkey⟩
  · rintro ⟨d, hd, combo, hcombo, hkey⟩
    exact .inr ⟨combo, ⟨d, hd, hcombo⟩, hkey⟩

/-! ## Texts of keys -/

theorem versionTail_chars {s : List Char} : ∀ c ∈ versionTail s, c.isDigit = true ∨ c = '.' := by
  fun_induction versionTail s with
  | case1 => exact fun _ h => nomatch h
  | case2 d s hd ih =>
    rintro c (_ | ⟨_, _ | ⟨_, hc⟩⟩)
    · exact .inr rfl
    · exact .inl hd
    · exact ih c hc
  | case3 => exact fun _ h => nomatch h
  | case4 d s _ hd ih =>
    rintro c (_ | ⟨_, hc⟩)
    · exact .inl hd
    · exact ih c hc
  | case5 => exact fun _ h => nomatch h

/-- A version that begins a text is not empty and has no bar in it. -/
theorem extractLeadingVersion_text {raw version : String}
    (h : extractLeadingVersion raw = some version) : version ≠ "" ∧ '|' ∉ version.toList := by
  unfold extractLeadingVersion at h
  split at h
  · cases h
  · rename_i c s _
    split_ifs at h with hc
    cases h
    refine ⟨fun hempty => ?_, fun hbar => ?_⟩
    · have hlist := congrArg String.toList hempty
      simp at hlist
    · rw [String.toList_ofList] at hbar
      rcases mem_cons.mp hbar with rfl | hbar
      · exact absurd hc (by decide)
      · rcases versionTail_chars _ hbar with hdigit | hdot
        · exact absurd hdigit (by decide)
        · exact absurd hdot (by decide)

theorem platformMap_text {platform workerPlatform : String}
    (h : platformMap platform = some workerPlatform) : '|' ∉ workerPlatform.toList := by
  unfold platformMap at h
  split_ifs at h <;> (cases h; decide)

theorem count_bar_osKey {platform version : String} (hplatform : '|' ∉ platform.toList)
    (hversion : '|' ∉ version.toList) : (osKey platform version).toList.count '|' = 1 := by
  simp [osKey, count_eq_zero_of_not_mem hplatform, count_eq_zero_of_not_mem hversion]

theorem count_bar_appKey (combo : AppCombo) : 2 ≤ (appKey r combo).toList.count '|' := by
  simp [appKey]
  omega

theorem takeWhile_before_bar {l m : List Char} (hl : '|' ∉ l) :
    (l ++ '|' :: m).takeWhile (· ≠ '|') = l := by
  rw [takeWhile_append_of_pos, takeWhile_cons_of_neg (by simp), append_nil]
  intro c hc
  exact decide_eq_true fun heq => hl (heq ▸ hc)

theorem osKey_inj {platform platform' version version' : String}
    (hplatform : '|' ∉ platform.toList) (hplatform' : '|' ∉ platform'.toList)
    (h : osKey platform version = osKey platform' version') :
    platform = platform' ∧ version = version' := by
  have hlist : platform.toList ++ '|' :: version.toList =
      platform'.toList ++ '|' :: version'.toList := by
    have htext := congrArg String.toList h
    simpa [osKey] using htext
  have hfirst : platform.toList = platform'.toList := by
    rw [← takeWhile_before_bar (m := version.toList) hplatform, hlist,
      takeWhile_before_bar hplatform']
  rw [hfirst] at hlist
  have hrest := append_cancel_left hlist
  exact ⟨String.toList_injective hfirst, String.toList_injective (List.cons.inj hrest).2⟩

/-! ## Lockstep -/

/-- The app has an identifier and a version. -/
def InstalledApp.Named (a : InstalledApp) : Prop :=
  ∃ identifier version, a = ⟨some identifier, some version⟩ ∧ identifier ≠ "" ∧ version ≠ ""

/-- The text of `key` is a key of some device's operating system or named app. -/
def SharesKey (r : Runtime) (devices : List NormalizedDevice)
    (store : String → Option InstalledAppsRecord) (key : String) : Prop :=
  ∃ d ∈ devices, fleetOsKey d = some key ∨ ∃ combo ∈ combosOf store d, appKey r combo = key

/-- A fleet whose readers look up what a refresh asks for: the version in a patch level
of an Apple device is the version of a device on its platform, and a fresh app is
named or shares its key. -/
structure Lockstep (r : Runtime) (now : ℚ) (devices : List NormalizedDevice)
    (store : String → Option InstalledAppsRecord) : Prop where
  patchLevel : ∀ d ∈ devices, ∀ workerPlatform, platformMap d.platform = some workerPlatform →
    ∀ version, patchVersion workerPlatform d = some version →
      ∃ d' ∈ devices, platformMap d'.platform = some workerPlatform ∧ d'.osVersion = version
  apps : ∀ d ∈ devices, ∀ workerPlatform, platformMap d.platform = some workerPlatform →
    ∀ a ∈ appsOf ((installedAppsRecordEntries (store d.id)).filter (isAppsEntryFresh r now)),
      a.Named ∨ SharesKey r devices store (lookupAppKey r workerPlatform a)

theorem asks_iff_sharesKey : Asks (osCombos devices) (appCombos r devices store) key ↔
    SharesKey r devices store key := by
  unfold Asks SharesKey
  rw [mem_keys_osCombos, mem_keys_appCombos]
  constructor
  · rintro (⟨d, hd, hkey⟩ | ⟨d, hd, hkey⟩)
    · exact ⟨d, hd, .inl hkey⟩
    · exact ⟨d, hd, .inr hkey⟩
  · rintro ⟨d, hd, hkey | hkey⟩
    · exact .inl ⟨d, hd, hkey⟩
    · exact .inr ⟨d, hd, hkey⟩

theorem comboOf_of_named {a : InstalledApp} (h : a.Named) (workerPlatform : String) :
    ∃ combo, comboOf workerPlatform a = some combo ∧
      appKey r combo = lookupAppKey r workerPlatform a := by
  obtain ⟨identifier, version, rfl, hidentifier, hversion⟩ := h
  exact ⟨_, if_neg (by simp [hidentifier, hversion]), rfl⟩

variable {d : NormalizedDevice} {workerPlatform version : String}

/-- Only Apple devices have a version in their patch level, and it is kept as it is. -/
theorem patchVersion_text
    (h : patchVersion workerPlatform d = some version) :
    version ≠ "" ∧ '|' ∉ version.toList ∧
      ∀ v, normalizeOsVersionForWorker workerPlatform v = v := by
  unfold patchVersion at h
  split_ifs at h with happle
  obtain ⟨level, -, hversion⟩ := bind_eq_some_iff.mp h
  obtain ⟨hne, hbar⟩ := extractLeadingVersion_text hversion
  refine ⟨hne, hbar, fun v => if_pos ?_⟩
  rcases happle with rfl | rfl <;> decide

/-- The key of a patch level is shared exactly if its version is a device's. -/
theorem sharesKey_patchVersion
    (hplatform : platformMap d.platform = some workerPlatform)
    (hversion : patchVersion workerPlatform d = some version) :
    SharesKey r devices store (osKey workerPlatform version) ↔
      ∃ d' ∈ devices, platformMap d'.platform = some workerPlatform ∧ d'.osVersion = version := by
  obtain ⟨hne, hbar, hsame⟩ := patchVersion_text hversion
  constructor
  · rintro ⟨d', hd', hkey | ⟨combo, -, hkey⟩⟩
    · obtain ⟨platform', hplatform', hrest⟩ := bind_eq_some_iff.mp hkey
      split_ifs at hrest
      obtain ⟨rfl, hnormal⟩ := osKey_inj (platformMap_text hplatform') (platformMap_text hplatform)
        (some.inj hrest)
      exact ⟨d', hd', hplatform', (hsame _).symm.trans hnormal⟩
    · -- the key of an app has more bars
      have hcount := count_bar_appKey (r := r) combo
      rw [hkey, count_bar_osKey (platformMap_text hplatform) hbar] at hcount
      omega
  · rintro ⟨d', hd', hplatform', rfl⟩
    refine ⟨d', hd', .inl ?_⟩
    rw [fleetOsKey, hplatform', bind_some, if_neg hne, hsame]

/-- Every key that is looked up for a device is asked for exactly in lockstep. -/
theorem sharesKey_iff_lockstep {now : ℚ} :
    (∀ d ∈ devices, ∀ key ∈ lookupKeys r now d (installedAppsRecordEntries (store d.id)),
      SharesKey r devices store key) ↔ Lockstep r now devices store := by
  constructor
  · intro hall
    refine ⟨fun d hd workerPlatform hplatform version hversion => ?_,
      fun d hd workerPlatform hplatform a ha => .inr (hall d hd _ ?_)⟩
    · obtain ⟨hne, -, hsame⟩ := patchVersion_text hversion
      have heffective : effectiveOsVersion workerPlatform d = version := by
        rw [effectiveOsVersion, hversion, getD_some]
      have hkey : lookupOsKey workerPlatform d = some (osKey workerPlatform version) := by
        rw [lookupOsKey, heffective, if_neg hne, hsame]
      have hshared : SharesKey r devices store (osKey workerPlatform version) :=
        hall d hd _ (by simp [lookupKeys, hplatform, hkey])
      exact (sharesKey_patchVersion hplatform hversion).mp hshared
    · rw [lookupKeys, hplatform]
      exact mem_append_right _ (mem_map_of_mem ha)
  · rintro hlockstep d hd key hkey
    cases hplatform : platformMap d.platform with
    | none =>
      rw [lookupKeys, hplatform] at hkey
      cases hkey
    | some workerPlatform =>
      rw [lookupKeys, hplatform] at hkey
      rcases mem_append.mp hkey with hos | happ
      · have hos' : lookupOsKey workerPlatform d = some key := mem_toList.mp hos
        cases hversion : patchVersion workerPlatform d with
        | some version =>
          obtain ⟨hne, -, hsame⟩ := patchVersion_text hversion
          rw [lookupOsKey, effectiveOsVersion, hversion, getD_some, if_neg hne, hsame] at hos'
          obtain rfl := some.inj hos'
          exact (sharesKey_patchVersion hplatform hversion).mpr
            (hlockstep.patchLevel d hd workerPlatform hplatform version hversion)
        | none =>
          -- without a patch level the device's own version is looked up
          refine ⟨d, hd, .inl ?_⟩
          rw [lookupOsKey, effectiveOsVersion, hversion, getD_none] at hos'
          rw [fleetOsKey, hplatform, bind_some, hos']
      · obtain ⟨a, ha, rfl⟩ := mem_map.mp happ
        rcases hlockstep.apps d hd workerPlatform hplatform a ha with hnamed | hshared
        · obtain ⟨combo, hcombo, hkey'⟩ := comboOf_of_named (r := r) hnamed workerPlatform
          refine ⟨d, hd, .inr ⟨combo, ?_, hkey'⟩⟩
          rw [combosOf, hplatform]
          refine mem_filterMap.mpr ⟨a, ?_, hcombo⟩
          obtain ⟨entry, hentry, hmem⟩ := mem_flatMap.mp ha
          exact mem_flatMap.mpr ⟨entry, mem_of_mem_filter hentry, hmem⟩
        · exact hshared

/-- After a refresh in which every query succeeded and no app was left over, every key
that is looked up for a device of the fleet is settled exactly if the fleet is in
lockstep. -/
theorem settled_iff_lockstep {r : Runtime} {now : ℚ} {workspaceSlug bearer : String} {force : Bool}
    {es : List VulnMove} {stats : VulnStats} {devices : List NormalizedDevice}
    {store : String → Option InstalledAppsRecord}
    (h : Prog.Steps (refreshVulnServiceForWorkspace r workspaceSlug bearer force) es
      (.ret (.ok stats)))
    (hos : stats.osErrors = 0) (happs : stats.appsErrors = 0) (hleft : stats.appsRemaining = 0)
    (hdevices : ⟨.getDevicesFull bearer workspaceSlug, .ok devices⟩ ∈ es)
    (hstore : ⟨.loadInstalledAppsStore workspaceSlug, .ok store⟩ ∈ es) :
    (∀ d ∈ devices, ∀ key,
      LooksUp r now workspaceSlug d (installedAppsRecordEntries (store d.id)) key →
        Settled workspaceSlug es key) ↔ Lockstep r now devices store := by
  rw [← sharesKey_iff_lockstep]
  refine forall₂_congr fun d hd => forall_congr' fun key => ?_
  rw [reaches_iff_mem_lookupKeys, refreshed h hos happs hleft hdevices hstore, asks_iff_sharesKey]

end Keys

/-! ## A Mac with a patch level -/

/-- A runtime that changes no text and takes every date for the same moment. -/
def steadyRuntime : Runtime where
  now := 0
  parseDate _ := some 0
  parseNumber _ := none
  printNumber _ := ""
  toLowerCase s := s
  inherited _ := .undefined
  setMember _ _ := .undefined

/-- A Mac whose patch level names `version`. -/
def macWith (version : String) : NormalizedDevice :=
  ⟨"d1", "macos", "15.1", some (version ++ " (24B83)")⟩

/-- One app, reported by the device. -/
def oneApp (_ : String) : Option InstalledAppsRecord :=
  some ⟨some ⟨some [⟨some "Editor", some "1.0"⟩], "2026-01-01"⟩, none⟩

/-- A fleet of one Mac, and a Worker that answers everything. -/
def macReply (version : String) (_ : List VulnMove) :
    (c : VulnCall) → Except ServiceError (VulnCall.Answer c)
  | .loadConfigRow _ => .ok (some ⟨"https://worker/", none⟩)
  | .decryptSecret text => .ok text
  | .getDevicesFull .. => .ok [macWith version]
  | .loadInstalledAppsStore _ => .ok oneApp
  | .findCacheRows _ => .ok [("macos|14.0", ⟨.obj [], 0⟩)]
  | .deleteCacheRow .. => .ok ()
  | .now => .ok 0
  | .sleep _ => .ok ()
  | .post _ _ (.os ..) => .ok ⟨200, .obj []⟩
  | .post _ _ (.apps apps) => .ok ⟨200, .obj [("results", .arr (apps.map fun _ => .obj []))]⟩
  | .upsertCacheRow .. => .ok ()
  | .updateConfig .. => .ok ()
  | .getEnabledVulnSourcePlugins _ => .ok []
  | .findCacheRow .. => .ok none
  | .getPluginCacheRow .. => .ok none

/-- The refresh of that fleet. -/
def macRefresh (version : String) : List VulnMove × Except ServiceError VulnStats :=
  (refreshVulnServiceForWorkspace steadyRuntime "acme" "bearer" false).execute
    (World.log vulnSig ServiceError) (macReply version) []

theorem macRefresh_legal (version : String) (hresult : ∃ stats, (macRefresh version).2 = .ok stats ∧
      stats.osErrors = 0 ∧ stats.appsErrors = 0 ∧ stats.appsRemaining = 0) :
    ∃ stats, Prog.Steps (refreshVulnServiceForWorkspace steadyRuntime "acme" "bearer" false)
        (macRefresh version).1 (.ret (.ok stats)) ∧
      stats.osErrors = 0 ∧ stats.appsErrors = 0 ∧ stats.appsRemaining = 0 := by
  obtain ⟨stats, hok, hclean⟩ := hresult
  exact ⟨stats, hok ▸ steps_execute _ _, hclean⟩

theorem lockstep_same : Lockstep steadyRuntime 0 [macWith "15.1"] oneApp where
  patchLevel d hd workerPlatform hplatform version hversion := by
    obtain rfl := mem_singleton.mp hd
    have hmac : platformMap (macWith "15.1").platform = some "macos" := by decide
    obtain rfl := some.inj (hplatform.symm.trans hmac)
    have hlevel : patchVersion "macos" (macWith "15.1") = some "15.1" := by decide +kernel
    obtain rfl := some.inj (hversion.symm.trans hlevel)
    exact ⟨macWith "15.1", mem_cons_self, hmac, rfl⟩
  apps d hd workerPlatform _ a ha := by
    obtain rfl := mem_singleton.mp hd
    have hlist : appsOf ((installedAppsRecordEntries (oneApp "d1")).filter
        (isAppsEntryFresh steadyRuntime 0)) = [⟨some "Editor", some "1.0"⟩] := by
      decide +kernel
    have ha' : a ∈ [(⟨some "Editor", some "1.0"⟩ : InstalledApp)] := hlist ▸ ha
    obtain rfl := mem_singleton.mp ha'
    exact .inl ⟨"Editor", "1.0", rfl, by decide, by decide⟩

/-- With a patch level that names the version of the Mac, all is settled. -/
theorem settled_iff_lockstep_same : (∃ stats, (macRefresh "15.1").2 = .ok stats) ∧
    ∀ d ∈ [macWith "15.1"], ∀ key,
      LooksUp steadyRuntime 0 "acme" d (installedAppsRecordEntries (oneApp d.id)) key →
        Settled "acme" (macRefresh "15.1").1 key := by
  refine ⟨⟨_, rfl⟩, ?_⟩
  obtain ⟨stats, hsteps, hos, happs, hleft⟩ := macRefresh_legal "15.1" ⟨_, rfl, rfl, rfl, rfl⟩
  refine (settled_iff_lockstep hsteps hos happs hleft ?_ ?_).mpr lockstep_same
  · exact .tail _ (.head _)
  · exact .tail _ (.tail _ (.head _))

/-- A patch level that is newer than the version is looked up, and nothing asks for it. -/
theorem patch_level_not_asked :
    ¬∀ (r : Runtime) (now : ℚ) (workspaceSlug bearer : String) (force : Bool) (es : List VulnMove)
      (stats : VulnStats) (devices : List NormalizedDevice)
      (store : String → Option InstalledAppsRecord),
      Prog.Steps (refreshVulnServiceForWorkspace r workspaceSlug bearer force) es
        (.ret (.ok stats)) →
      stats.osErrors = 0 → stats.appsErrors = 0 → stats.appsRemaining = 0 →
      ⟨.getDevicesFull bearer workspaceSlug, .ok devices⟩ ∈ es →
      ⟨.loadInstalledAppsStore workspaceSlug, .ok store⟩ ∈ es →
      ∀ d ∈ devices, ∀ key,
        LooksUp r now workspaceSlug d (installedAppsRecordEntries (store d.id)) key →
          Settled workspaceSlug es key := by
  intro hall
  obtain ⟨stats, hsteps, hos, happs, hleft⟩ := macRefresh_legal "15.2" ⟨_, rfl, rfl, rfl, rfl⟩
  have hdevices : ⟨.getDevicesFull "bearer" "acme", .ok [macWith "15.2"]⟩ ∈ (macRefresh "15.2").1 :=
    .tail _ (.head _)
  have hstore : ⟨.loadInstalledAppsStore "acme", .ok oneApp⟩ ∈ (macRefresh "15.2").1 :=
    .tail _ (.tail _ (.head _))
  have hlookup : LooksUp steadyRuntime 0 "acme" (macWith "15.2")
      (installedAppsRecordEntries (oneApp "d1")) "macos|15.2" :=
    reaches_iff_mem_lookupKeys.mpr (by decide +kernel)
  have hsettled := hall steadyRuntime 0 "acme" "bearer" false _ _ _ _ hsteps hos happs hleft
    hdevices hstore (macWith "15.2") mem_cons_self "macos|15.2" hlookup
  have hasks := (refreshed hsteps hos happs hleft hdevices hstore "macos|15.2").mp hsettled
  unfold Asks at hasks
  exact absurd hasks (by decide +kernel)

end AppliverySoar.Catalogs
