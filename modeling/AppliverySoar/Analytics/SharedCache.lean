import AppliverySoar.Analytics.LocationsSync

/-!
# One row for the positions of all workspaces

A call reads the row, adds the positions that it obtains to its own copy and
writes the copy back. What other calls have written meanwhile is gone.

Results:
* `consistent_step`: what a step keeps, if no call writes between another's read
  and write.
* `holds_of_undisturbed`: in runs of such steps the row holds the last position of
  every device, once all calls have completed.
* `first_sync_lost`: two workspaces, the first of which loses its positions.
-/

namespace AppliverySoar.Analytics

open Js Compliance Geofencing List Option

/-! ## Statements -/

/-- The position that the row holds for a device. -/
def SyncState.cached (s : SyncState) (devId : String) : Option Position :=
  (s.row.getD ∅).lookup devId

/-- The call that an effect has obtained a position of the device for. -/
def Effect.position? (devId : String) : Effect → Option (ℕ × Position)
  | .obtained call devId' position => if devId' = devId then some (call, position) else none
  | _ => none

/-- The last position that was obtained of the device, with the call that fetched it. -/
def lastObtained (devId : String) (es : List Effect) : Option (ℕ × Position) :=
  (es.filterMap (Effect.position? devId)).getLast?

/-- All calls have completed. -/
def SyncState.Completed (s : SyncState) : Prop :=
  ∀ stage ∈ s.calls, ∃ result, stage = .ended result

/-- The row holds the last position that was obtained of each device. -/
def SyncState.Holds (s : SyncState) : Prop :=
  ∀ devId call position, lastObtained devId s.effects = some (call, position) →
    s.cached devId = some position

/-- The effect is a write of the row. -/
def Effect.writes : Effect → Bool
  | .cacheWritten _ => true
  | _ => false

/-- What has happened since the call read the row, the last first. -/
def sinceRead (call : ℕ) (es : List Effect) : List Effect :=
  es.reverse.takeWhile (· ≠ .cacheRead call)

/-- The row has not been written since the call read it. -/
def Quiet (call : ℕ) (es : List Effect) : Prop :=
  ∀ e ∈ sinceRead call es, e.writes = false

/-- The list of devices has no entry that is `null`, or has one in its first batch, so
that the call ends before it asks for any location. -/
def Complete (devices : List Value) : Prop :=
  (∃ dev ∈ devices.take concurrency, dev.isNullish = true) ∨
    ∀ dev ∈ devices, dev.isNullish = false

/-- A call writes the row that it has read, or has nothing to write; a row that cannot
be read is empty; a list of devices is complete. -/
def Undisturbed (s : SyncState) : Label → Prop
  | .listed _ (.ok devices) => Complete devices
  | .cacheRead _ false => s.row.getD ∅ = ∅
  | .cacheWritten call true => Quiet call s.effects
  | .cacheWritten call false => ∀ devId position, .obtained call devId position ∉ s.effects
  | _ => True

/-! ## What has been obtained -/

section Effects

variable {es : List Effect} {e : Effect} {i j : ℕ} {devId : String} {position : Position}

/-- The position of the device that an effect has obtained for the call. -/
def Effect.own? (call : ℕ) (devId : String) : Effect → Option Position
  | .obtained call' devId' position =>
    if call' = call ∧ devId' = devId then some position else none
  | _ => none

/-- The last position of the device that the call has obtained. -/
def ownObtained (call : ℕ) (devId : String) (es : List Effect) : Option Position :=
  (es.filterMap (Effect.own? call devId)).getLast?

theorem getLast?_filterMap_snoc {α β : Type} (f : α → Option β) (l : List α) (a : α) :
    ((l ++ [a]).filterMap f).getLast? = (f a).or (l.filterMap f).getLast? := by
  rw [filterMap_append, getLast?_append]
  cases h : f a with
  | none => rw [filterMap_cons_none h]; rfl
  | some b => rw [filterMap_cons_some h]; rfl

theorem lastObtained_snoc :
    lastObtained devId (es ++ [e]) = (e.position? devId).or (lastObtained devId es) :=
  getLast?_filterMap_snoc _ es e

theorem ownObtained_snoc :
    ownObtained i devId (es ++ [e]) = (e.own? i devId).or (ownObtained i devId es) :=
  getLast?_filterMap_snoc _ es e

theorem mem_of_ownObtained (h : ownObtained i devId es = some position) :
    .obtained i devId position ∈ es := by
  obtain ⟨e, he, hown⟩ := mem_filterMap.mp (mem_of_getLast? h)
  cases e with
  | obtained call devId' position' =>
    rw [Effect.own?] at hown
    split_ifs at hown with heq
    obtain ⟨rfl, rfl⟩ := heq
    obtain rfl := some.inj hown
    exact he
  | _ => cases hown

theorem mem_of_lastObtained (h : lastObtained devId es = some (i, position)) :
    .obtained i devId position ∈ es := by
  obtain ⟨e, he, hposition⟩ := mem_filterMap.mp (mem_of_getLast? h)
  cases e with
  | obtained call devId' position' =>
    rw [Effect.position?] at hposition
    split_ifs at hposition with heq
    subst heq
    obtain ⟨rfl, rfl⟩ := Prod.mk.inj (some.inj hposition)
    exact he
  | _ => cases hposition

theorem ownObtained_of_lastObtained (h : lastObtained devId es = some (i, position)) :
    ownObtained i devId es = some position := by
  induction es using reverseRecOn with
  | nil => cases h
  | append_singleton es e ih =>
    rw [lastObtained_snoc] at h
    rw [ownObtained_snoc]
    cases e with
    | obtained call devId' position' =>
      by_cases hdev : devId' = devId
      · rw [Effect.position?, if_pos hdev] at h
        obtain ⟨rfl, rfl⟩ := Prod.mk.inj (some.inj h)
        rw [Effect.own?, if_pos ⟨rfl, hdev⟩]
        rfl
      · rw [Effect.position?, if_neg hdev] at h
        rw [Effect.own?, if_neg fun h => hdev h.2]
        exact ih h
    | _ => exact ih h

theorem quiet_snoc : Quiet i (es ++ [e]) ↔ e = .cacheRead i ∨ (e.writes = false ∧ Quiet i es) := by
  rw [Quiet, sinceRead, reverse_append, reverse_singleton, singleton_append,
    takeWhile_cons]
  by_cases h : e = .cacheRead i
  · simp [h]
  · simp [h, Quiet, sinceRead]

end Effects

/-! ## Stages -/

/-- The map of a call that has read the row. -/
def Stage.cache? : Stage → Option LocationCache
  | .fetching cache _ _ => some cache
  | .writing cache => some cache
  | _ => none

/-- The call has not read the row yet. -/
def Stage.Unread : Stage → Prop
  | .resolving | .listing | .readingCache _ => True
  | _ => False

/-- The map that a call is at work on. -/
def SyncState.cacheOf (s : SyncState) (call : ℕ) : Option LocationCache :=
  s.calls[call]?.bind Stage.cache?

/-- No call is before its reading of the row under this number. -/
def SyncState.Unread (s : SyncState) (call : ℕ) : Prop :=
  ∀ stage, s.calls[call]? = some stage → stage.Unread

/-- No call is thrown out of its batches by an entry that is `null`. -/
def Stage.Sound : Stage → Prop
  | .readingCache devices => Complete devices
  | .fetching _ _ later => ∀ batch ∈ later, ∀ dev ∈ batch, dev.isNullish = false
  | _ => True

section Stages

variable {r : Runtime} {cache : LocationCache} {dev : Value} {batch devices : List Value}
  {later : List (List Value)} {e : String}

theorem read_eq_of_isNullish (h : dev.isNullish = true) (key : String) :
    ∃ e, dev.read key = .error e := by
  cases dev with
  | undefined => exact ⟨_, rfl⟩
  | null => exact ⟨_, rfl⟩
  | _ => cases h

theorem read_eq_of_not_isNullish (h : dev.isNullish = false) (key : String) :
    dev.read key = .ok (dev.member key) := by
  cases dev with
  | undefined => cases h
  | null => cases h
  | _ => rfl

theorem fetchOf_of_not_isNullish (h : dev.isNullish = false) :
    ∃ fetch, fetchOf r dev = .ok fetch := by
  rw [fetchOf, read_eq_of_not_isNullish h]
  dsimp only [bind, Except.bind]
  split
  · exact ⟨_, rfl⟩
  · exact ⟨_, rfl⟩

theorem fetchesOf_of_not_isNullish (h : ∀ dev ∈ batch, dev.isNullish = false) :
    ∃ fetches, fetchesOf r batch = .ok fetches := by
  have hmapM : ∃ fetches, batch.mapM (fetchOf r) = .ok fetches := by
    induction batch with
    | nil => exact ⟨[], rfl⟩
    | cons dev batch ih =>
      obtain ⟨fetch, hfetch⟩ := @fetchOf_of_not_isNullish r dev (h dev mem_cons_self)
      obtain ⟨fetches, hfetches⟩ := ih fun dev' hdev' => h dev' (mem_cons_of_mem _ hdev')
      refine ⟨fetch :: fetches, ?_⟩
      rw [mapM_cons, hfetch, hfetches]
      rfl
  obtain ⟨fetches, hfetches⟩ := hmapM
  exact ⟨fetches.reduceOption, by rw [fetchesOf, hfetches]; rfl⟩

theorem fetchesOf_of_isNullish (hdev : dev ∈ batch) (h : dev.isNullish = true) :
    ∃ e, fetchesOf r batch = .error e := by
  have hmapM : ∃ e, batch.mapM (fetchOf r) = .error e := by
    induction batch with
    | nil => cases hdev
    | cons first batch ih =>
      rw [mapM_cons]
      cases hfirst : fetchOf r first with
      | error e => exact ⟨e, rfl⟩
      | ok fetch =>
        rcases mem_cons.mp hdev with rfl | hdev
        · obtain ⟨e, he⟩ := read_eq_of_isNullish h "id"
          rw [fetchOf, he] at hfirst
          cases hfirst
        · obtain ⟨e, he⟩ := ih hdev
          refine ⟨e, ?_⟩
          rw [he]
          rfl
  obtain ⟨e, he⟩ := hmapM
  exact ⟨e, by rw [fetchesOf, he]; rfl⟩

theorem not_unread_of_cache {stage : Stage} (h : stage.cache? = some cache) : ¬stage.Unread := by
  cases stage with
  | fetching cache fetches later => exact id
  | writing cache => exact id
  | _ => cases h

/-- Batches without such an entry are gone through with the same map. -/
theorem nextBatch_of_not_isNullish
    (h : ∀ batch ∈ later, ∀ dev ∈ batch, dev.isNullish = false) :
    (nextBatch r cache later).cache? = some cache ∧ (nextBatch r cache later).Sound := by
  induction later with
  | nil => exact ⟨rfl, trivial⟩
  | cons batch later ih =>
    have hlater := fun batch' hbatch' => h batch' (mem_cons_of_mem _ hbatch')
    obtain ⟨fetches, hfetches⟩ := @fetchesOf_of_not_isNullish r batch (h batch mem_cons_self)
    rw [nextBatch, hfetches]
    cases fetches with
    | nil => exact ih hlater
    | cons fetch fetches => exact ⟨rfl, hlater⟩

theorem mem_of_mem_batchesOf (hbatch : batch ∈ batchesOf devices) (hdev : dev ∈ batch) :
    dev ∈ devices := by
  obtain ⟨k, -, rfl⟩ := mem_map.mp hbatch
  exact mem_of_mem_drop (mem_of_mem_take hdev)

theorem batchesOf_eq_cons (h : devices ≠ []) :
    ∃ later, batchesOf devices = devices.take concurrency :: later := by
  have hlength : 0 < devices.length := length_pos_iff.mpr h
  obtain ⟨n, hn⟩ : ∃ n, (devices.length + concurrency - 1) / concurrency = n + 1 :=
    Nat.exists_eq_add_one.mpr (Nat.div_pos (by unfold concurrency; omega) (by decide))
  rw [batchesOf, hn, range_succ_eq_map, map_cons, Nat.zero_mul, drop_zero]
  exact ⟨_, rfl⟩

/-- After its reading of the row, a call is at work on what it has read, or has ended. -/
theorem nextBatch_batchesOf (h : Complete devices) :
    ((nextBatch r cache (batchesOf devices)).cache? = some cache ∨
      (nextBatch r cache (batchesOf devices)).cache? = none) ∧
      (nextBatch r cache (batchesOf devices)).Sound ∧
      ¬(nextBatch r cache (batchesOf devices)).Unread := by
  rcases h with ⟨dev, hdev, hnullish⟩ | h
  · have hne : devices ≠ [] := by
      rintro rfl
      cases hdev
    obtain ⟨later, hbatches⟩ := batchesOf_eq_cons hne
    obtain ⟨e, he⟩ := @fetchesOf_of_isNullish r dev _ hdev hnullish
    rw [hbatches, nextBatch, he]
    exact ⟨.inr rfl, trivial, id⟩
  · obtain ⟨hcache, hsound⟩ := @nextBatch_of_not_isNullish r cache (batchesOf devices)
      fun batch hbatch dev hdev => h dev (mem_of_mem_batchesOf hbatch hdev)
    exact ⟨.inl hcache, hsound, not_unread_of_cache hcache⟩

end Stages

/-! ## What the calls keep -/

/-- What of the positions is where: a call that may still write has the row and what it
has obtained, and nobody who is done has obtained anything newer; the row has what
nobody who is at work has obtained again. -/
structure Consistent (init : String → Option Position) (s : SyncState) : Prop where
  unread : ∀ i, s.Unread i → ∀ devId position, .obtained i devId position ∉ s.effects
  sound : ∀ stage ∈ s.calls, stage.Sound
  copy : ∀ i cache, s.cacheOf i = some cache → Quiet i s.effects → ∀ devId,
    cache.lookup devId = (ownObtained i devId s.effects).or (s.cached devId)
  newest : ∀ i, s.cacheOf i ≠ none → Quiet i s.effects → ∀ devId position,
    .obtained i devId position ∈ s.effects →
    ∃ j position', lastObtained devId s.effects = some (j, position') ∧ s.cacheOf j ≠ none
  settled : ∀ devId,
    (∀ j position, lastObtained devId s.effects = some (j, position) → s.cacheOf j = none) →
    s.cached devId = ((lastObtained devId s.effects).map Prod.snd).or (init devId)

section Steps

variable {r : Runtime} {init : String → Option Position} {s s' : SyncState} {i j : ℕ}
  {stage stage' : Stage} {cache : LocationCache} {es : List Effect} {devId : String}

theorem cacheOf_eq_none_of_unread (h : s.Unread i) : s.cacheOf i = none := by
  unfold SyncState.cacheOf
  cases hcall : s.calls[i]? with
  | none => rfl
  | some stage =>
    have hunread := h stage hcall
    cases stage with
    | fetching cache fetches later => cases hunread
    | writing cache => cases hunread
    | _ => rfl

section

variable (h : s.calls[i]? = some stage)
include h

theorem calls_goOn :
    (s.goOn i stage' es).calls[j]? = if j = i then some stage' else s.calls[j]? := by
  obtain ⟨hlt, -⟩ := List.getElem?_eq_some_iff.mp h
  show (s.calls.set i stage')[j]? = _
  rw [List.getElem?_set]
  by_cases hij : j = i
  · rw [if_pos hij, if_pos hij.symm, if_pos hlt]
  · rw [if_neg hij, if_neg (Ne.symm hij)]

theorem cacheOf_goOn :
    (s.goOn i stage' es).cacheOf j = if j = i then stage'.cache? else s.cacheOf j := by
  unfold SyncState.cacheOf
  rw [calls_goOn h]
  split_ifs <;> rfl

theorem cacheOf_of_calls : s.cacheOf i = stage.cache? := by
  rw [SyncState.cacheOf, h]
  rfl

theorem unread_of_calls (hunread : stage.Unread) : s.Unread i := by
  intro stage' hstage'
  obtain rfl := some.inj (h.symm.trans hstage')
  exact hunread

/-- A call that goes on to a stage in which it has read the row is no longer unread. -/
theorem unread_goOn (hread : ¬stage'.Unread)
    (hunread : (s.goOn i stage' es).Unread j) : s.Unread j ∧ j ≠ i := by
  have hne : j ≠ i := by
    rintro rfl
    exact hread (hunread stage' (by rw [calls_goOn h, if_pos rfl]))
  refine ⟨fun stage'' hstage'' => hunread stage'' ?_, hne⟩
  rw [calls_goOn h, if_neg hne]
  exact hstage''

end

theorem sound_goOn (h : ∀ stage ∈ s.calls, stage.Sound) (hsound : stage'.Sound) :
    ∀ stage ∈ (s.goOn i stage' es).calls, stage.Sound := by
  intro stage hstage
  rcases mem_or_eq_of_mem_set hstage with hmem | rfl
  · exact h stage hmem
  · exact hsound

section

variable (h : Consistent init s)
include h

/-- A step that leaves the row, the maps and what has happened. -/
theorem Consistent.of_calls (hrow : s'.row = s.row)
    (heffects : s'.effects = s.effects) (hcaches : ∀ i, s'.cacheOf i = s.cacheOf i)
    (hunread : ∀ i, s'.Unread i → s.Unread i) (hsound : ∀ stage ∈ s'.calls, stage.Sound) :
    Consistent init s' := by
  have hcached : s'.cached = s.cached := by
    unfold SyncState.cached
    rw [hrow]
  obtain ⟨hun, -, hcopy, hnewest, hsettled⟩ := h
  constructor
  · rw [heffects]
    exact fun i hi => hun i (hunread i hi)
  · exact hsound
  · rw [heffects, hcached]
    exact fun i cache hcache => hcopy i cache (hcaches i ▸ hcache)
  · rw [heffects]
    intro i hi hquiet devId position hmem
    obtain ⟨j, position', hlast, hj⟩ := hnewest i (hcaches i ▸ hi) hquiet devId position hmem
    exact ⟨j, position', hlast, by rwa [hcaches j]⟩
  · rw [heffects, hcached]
    exact fun devId hdone => hsettled devId fun j position hlast =>
      (hcaches j).symm.trans (hdone j position hlast)

theorem consistent_unread (hstage : s.calls[i]? = some stage)
    (hunread : stage.Unread) (hcache : stage'.cache? = none) (hsound : stage'.Sound) :
    Consistent init (s.goOn i stage' []) := by
  refine h.of_calls rfl (append_nil _) (fun j => ?_) (fun j hj => ?_)
    (sound_goOn h.sound hsound)
  · rw [cacheOf_goOn hstage]
    split_ifs with hji
    · rw [hcache, hji, cacheOf_eq_none_of_unread (unread_of_calls hstage hunread)]
    · rfl
  · by_cases hji : j = i
    · exact hji ▸ unread_of_calls hstage hunread
    · intro stage'' hstage''
      exact hj stage'' (by rw [calls_goOn hstage, if_neg hji]; exact hstage'')

theorem consistent_append (hrow : s'.row = s.row)
    (heffects : s'.effects = s.effects) (hcalls : s'.calls = s.calls ++ [stage])
    (hcache : stage.cache? = none) (hsound : stage.Sound) : Consistent init s' := by
  refine h.of_calls hrow heffects (fun j => ?_) (fun j hj stage' hstage' => ?_) ?_
  · unfold SyncState.cacheOf
    rw [hcalls]
    rcases Nat.lt_trichotomy j s.calls.length with hlt | rfl | hgt
    · rw [List.getElem?_append_left hlt]
    · rw [List.getElem?_concat_length, List.getElem?_eq_none (Nat.le_refl _)]
      exact hcache
    · rw [List.getElem?_eq_none (by simp; omega), List.getElem?_eq_none (Nat.le_of_lt hgt)]
  · refine hj stage' ?_
    rw [hcalls, List.getElem?_append_left (List.getElem?_eq_some_iff.mp hstage').1]
    exact hstage'
  · rw [hcalls]
    intro stage' hstage'
    rcases List.mem_append.mp hstage' with hmem | hmem
    · exact h.sound stage' hmem
    · exact List.mem_singleton.mp hmem ▸ hsound

theorem consistent_begin (slug : String) (now later : ℕ) :
    Consistent init (s.begin slug now later) := by
  unfold SyncState.begin
  split
  · exact consistent_append h rfl rfl rfl rfl trivial
  · exact consistent_append h rfl rfl rfl rfl trivial

theorem consistent_read {devices : List Value}
    (hstage : s.calls[i]? = some (.readingCache devices))
    (hcache : ∀ devId, cache.lookup devId = s.cached devId) :
    Consistent init (s.goOn i (nextBatch r cache (batchesOf devices)) [.cacheRead i]) := by
  have hunread : s.Unread i := unread_of_calls hstage trivial
  have hnone := cacheOf_eq_none_of_unread hunread
  obtain ⟨hnext, hsound, hread⟩ := @nextBatch_batchesOf r cache devices
    (h.sound _ (mem_of_getElem? hstage))
  have hlast : ∀ devId, lastObtained devId (s.effects ++ [.cacheRead i]) =
      lastObtained devId s.effects := fun devId => lastObtained_snoc
  have hown : ∀ j devId, ownObtained j devId (s.effects ++ [.cacheRead i]) =
      ownObtained j devId s.effects := fun j devId => ownObtained_snoc
  have hmem : ∀ {j devId position}, .obtained j devId position ∈ s.effects ++ [.cacheRead i] →
      .obtained j devId position ∈ s.effects := fun hmem => by simpa using hmem
  have hquiet : ∀ {j}, j ≠ i → Quiet j (s.effects ++ [.cacheRead i]) → Quiet j s.effects := by
    intro j hji hquiet
    rcases quiet_snoc.mp hquiet with heq | ⟨-, hquiet⟩
    · cases heq
      exact absurd rfl hji
    · exact hquiet
  constructor
  · intro j hj devId position hobtained
    exact h.unread j (unread_goOn hstage hread hj).1 devId position (hmem hobtained)
  · exact sound_goOn h.sound hsound
  · intro j cache' hcache' hq devId
    rw [cacheOf_goOn hstage] at hcache'
    rw [show (s.goOn i _ [.cacheRead i]).effects = s.effects ++ [.cacheRead i] from rfl, hown]
    by_cases hji : j = i
    · rw [if_pos hji] at hcache'
      obtain rfl : cache = cache' := by
        rcases hnext with hsome | hended
        · exact some.inj (hsome.symm.trans hcache')
        · cases hended.symm.trans hcache'
      have hfresh : ownObtained j devId s.effects = none := by
        cases howned : ownObtained j devId s.effects with
        | none => rfl
        | some position =>
          exact absurd (mem_of_ownObtained howned) (h.unread j (hji ▸ hunread) devId position)
      rw [hfresh]
      exact hcache devId
    · rw [if_neg hji] at hcache'
      exact h.copy j cache' hcache' (hquiet hji hq) devId
  · intro j hj hq devId position hobtained
    rw [cacheOf_goOn hstage] at hj
    by_cases hji : j = i
    · exact absurd (hmem hobtained) (h.unread j (hji ▸ hunread) devId position)
    · rw [if_neg hji] at hj
      obtain ⟨k, position', hk, hworking⟩ := h.newest j hj (hquiet hji hq) devId position
        (hmem hobtained)
      refine ⟨k, position', (hlast devId).trans hk, ?_⟩
      rw [cacheOf_goOn hstage, if_neg]
      · exact hworking
      · rintro rfl
        exact hworking hnone
  · intro devId hdone
    rw [show (s.goOn i _ [.cacheRead i]).effects = s.effects ++ [.cacheRead i] from rfl] at hdone ⊢
    rw [hlast] at hdone ⊢
    refine h.settled devId fun j position hj => ?_
    by_cases hji : j = i
    · exact hji ▸ hnone
    · have := hdone j position hj
      rwa [cacheOf_goOn hstage, if_neg hji] at this

theorem consistent_obtained {position : Position}
    (hstage : s.calls[i]? = some stage) (hcache : stage.cache? = some cache)
    (hcache' : stage'.cache? = some (cache.insert devId position)) (hsound : stage'.Sound) :
    Consistent init (s.goOn i stage' [.obtained i devId position]) := by
  have hread := not_unread_of_cache hcache'
  have hcaches : ∀ j, (s.goOn i stage' [.obtained i devId position]).cacheOf j = none ↔
      s.cacheOf j = none := by
    intro j
    rw [cacheOf_goOn hstage]
    split_ifs with hji
    · rw [hji, cacheOf_of_calls hstage, hcache, hcache']
      exact ⟨fun h => (by cases h), fun h => (by cases h)⟩
    · exact Iff.rfl
  have hquiet : ∀ {j}, Quiet j (s.effects ++ [.obtained i devId position]) → Quiet j s.effects := by
    intro j hquiet
    rcases quiet_snoc.mp hquiet with heq | ⟨-, hquiet⟩
    · cases heq
    · exact hquiet
  have hlast : lastObtained devId (s.effects ++ [.obtained i devId position]) =
      some (i, position) := by
    rw [lastObtained_snoc, Effect.position?, if_pos rfl]
    rfl
  have hlast' : ∀ {devId'}, devId ≠ devId' →
      lastObtained devId' (s.effects ++ [.obtained i devId position]) =
        lastObtained devId' s.effects := by
    intro devId' hne
    rw [lastObtained_snoc, Effect.position?, if_neg hne]
    rfl
  have hworking : (s.goOn i stage' [.obtained i devId position]).cacheOf i ≠ none := by
    rw [cacheOf_goOn hstage, if_pos rfl, hcache']
    exact fun h => (by cases h)
  constructor
  · intro j hj devId' position' hobtained
    obtain ⟨hj, hji⟩ := unread_goOn hstage hread hj
    rcases mem_append.mp hobtained with hmem | hmem
    · exact h.unread j hj devId' position' hmem
    · cases mem_singleton.mp hmem
      exact hji rfl
  · exact sound_goOn h.sound hsound
  · intro j cache'' hcache'' hq devId'
    rw [cacheOf_goOn hstage] at hcache''
    rw [show (s.goOn i stage' [.obtained i devId position]).effects =
      s.effects ++ [.obtained i devId position] from rfl, ownObtained_snoc]
    by_cases hji : j = i
    · subst hji
      rw [if_pos rfl, hcache'] at hcache''
      obtain rfl := some.inj hcache''
      by_cases hdev : devId = devId'
      · subst hdev
        rw [Effect.own?, if_pos ⟨rfl, rfl⟩, AList.lookup_insert]
        rfl
      · rw [Effect.own?, if_neg fun h => hdev h.2, AList.lookup_insert_ne (Ne.symm hdev)]
        exact h.copy j cache ((cacheOf_of_calls hstage).trans hcache) (hquiet hq) devId'
    · rw [if_neg hji] at hcache''
      rw [Effect.own?, if_neg fun h => hji h.1.symm]
      exact h.copy j cache'' hcache'' (hquiet hq) devId'
  · intro j hj hq devId' position' hobtained
    by_cases hdev : devId = devId'
    · exact hdev ▸ ⟨i, position, hlast, hworking⟩
    · have hmem : .obtained j devId' position' ∈ s.effects := by
        rcases mem_append.mp hobtained with hmem | hmem
        · exact hmem
        · cases mem_singleton.mp hmem
          exact absurd rfl hdev
      obtain ⟨k, position'', hk, hworking⟩ := h.newest j (fun h => hj ((hcaches j).mpr h))
        (hquiet hq) devId' position' hmem
      exact ⟨k, position'', (hlast' hdev).trans hk, fun h => hworking ((hcaches k).mp h)⟩
  · intro devId' hdone
    by_cases hdev : devId = devId'
    · exact absurd (hdone i position (hdev ▸ hlast)) hworking
    · rw [show (s.goOn i stage' [.obtained i devId position]).effects =
        s.effects ++ [.obtained i devId position] from rfl, hlast' hdev] at hdone ⊢
      exact h.settled devId' fun j position' hj => (hcaches j).mp (hdone j position' hj)

theorem consistent_located {fetch : LocationFetch} {fetches fetches' : List LocationFetch}
    {later : List (List Value)}
    (hstage : s.calls[i]? = some (.fetching cache fetches later)) (position : Option Position) :
    Consistent init (s.goOn i (afterLocation r (keep cache fetch.devId position) fetches' later)
      (position.toList.map (.obtained i fetch.devId))) := by
  have hlater : ∀ batch ∈ later, ∀ dev ∈ batch, dev.isNullish = false :=
    h.sound _ (mem_of_getElem? hstage)
  have hafter : ∀ cache', (afterLocation r cache' fetches' later).cache? = some cache' ∧
      (afterLocation r cache' fetches' later).Sound := by
    intro cache'
    unfold afterLocation
    split
    · exact nextBatch_of_not_isNullish hlater
    · exact ⟨rfl, hlater⟩
  cases position with
  | none =>
    refine h.of_calls rfl (append_nil _) (fun j => ?_) (fun j hj => ?_)
      (sound_goOn h.sound (hafter cache).2)
    · rw [cacheOf_goOn hstage]
      split_ifs with hji
      · rw [hji, cacheOf_of_calls hstage]
        exact (hafter cache).1
      · rfl
    · exact (unread_goOn hstage (not_unread_of_cache (hafter cache).1) hj).1
  | some position =>
    exact consistent_obtained h hstage rfl (hafter _).1 (hafter _).2

theorem consistent_written (hstage : s.calls[i]? = some (.writing cache))
    (hquiet : Quiet i s.effects) (result : Except ServiceError SyncResult) :
    Consistent init
      { s.goOn i (.ended result) [.cacheWritten i] with row := some cache } := by
  have hcacheOf : s.cacheOf i = some cache := cacheOf_of_calls hstage
  have hsound : ∀ stage ∈ (s.goOn i (.ended result) [.cacheWritten i]).calls, stage.Sound :=
    sound_goOn h.sound trivial
  have hloud : ∀ {j}, ¬Quiet j (s.effects ++ [.cacheWritten i]) := by
    intro j hq
    rcases quiet_snoc.mp hq with heq | ⟨hwrites, -⟩
    · cases heq
    · cases hwrites
  constructor
  · intro j hj devId position hobtained
    have hunread : (s.goOn i (.ended result) [.cacheWritten i]).Unread j := hj
    rcases mem_append.mp hobtained with hmem | hmem
    · exact h.unread j (unread_goOn hstage id hunread).1 devId position hmem
    · cases mem_singleton.mp hmem
  · exact hsound
  · exact fun j cache' hcache' hq => absurd hq hloud
  · exact fun j hj hq => absurd hq hloud
  · intro devId hdone
    have hlast : lastObtained devId (s.effects ++ [.cacheWritten i]) =
        lastObtained devId s.effects := lastObtained_snoc
    have hdone' : ∀ j position, lastObtained devId s.effects = some (j, position) → j ≠ i →
        s.cacheOf j = none := by
      intro j position hj hji
      have hended : (s.goOn i (.ended result) [.cacheWritten i]).cacheOf j = none :=
        hdone j position (hlast.trans hj)
      rwa [cacheOf_goOn hstage, if_neg hji] at hended
    show cache.lookup devId = ((lastObtained devId (s.effects ++ [.cacheWritten i])).map _).or _
    rw [hlast, h.copy i cache hcacheOf hquiet devId]
    cases howned : ownObtained i devId s.effects with
    | some position =>
      obtain ⟨j, position', hj, hworking⟩ := h.newest i (by rw [hcacheOf]; simp) hquiet devId
        position (mem_of_ownObtained howned)
      obtain rfl : j = i := by
        by_contra hji
        exact hworking (hdone' j position' hj hji)
      rw [ownObtained_of_lastObtained hj] at howned
      rw [hj, ← howned]
      rfl
    | none =>
      refine h.settled devId fun j position hj => hdone' j position hj ?_
      rintro rfl
      rw [ownObtained_of_lastObtained hj] at howned
      cases howned

theorem consistent_unwritten (hstage : s.calls[i]? = some (.writing cache))
    (hnothing : ∀ devId position, .obtained i devId position ∉ s.effects)
    (result : Except ServiceError SyncResult) : Consistent init (s.goOn i (.ended result) []) := by
  have hne : ∀ {devId j position}, lastObtained devId s.effects = some (j, position) → j ≠ i := by
    rintro devId j position hj rfl
    exact hnothing devId position (mem_of_lastObtained hj)
  have hcaches : ∀ {j}, j ≠ i → (s.goOn i (.ended result) []).cacheOf j = s.cacheOf j := by
    intro j hji
    rw [cacheOf_goOn hstage, if_neg hji]
  have hended : (s.goOn i (.ended result) []).cacheOf i = none := by
    rw [cacheOf_goOn hstage, if_pos rfl]
    rfl
  have heffects : (s.goOn i (.ended result) []).effects = s.effects := append_nil _
  constructor
  · rw [heffects]
    exact fun j hj => h.unread j (unread_goOn hstage id hj).1
  · exact sound_goOn h.sound trivial
  · rw [heffects]
    intro j cache' hcache' hq
    have hji : j ≠ i := by
      rintro rfl
      rw [hended] at hcache'
      cases hcache'
    exact h.copy j cache' (hcaches hji ▸ hcache') hq
  · rw [heffects]
    intro j hj hq devId position hobtained
    have hji : j ≠ i := by
      rintro rfl
      exact hj hended
    obtain ⟨k, position', hk, hworking⟩ := h.newest j (hcaches hji ▸ hj) hq devId position hobtained
    exact ⟨k, position', hk, by rwa [hcaches (hne hk)]⟩
  · rw [heffects]
    exact fun devId hdone => h.settled devId fun j position hj =>
      (hcaches (hne hj)).symm.trans (hdone j position hj)

/-- **Step lemma**: an undisturbed step keeps the positions consistent. -/
theorem consistent_step {l : Label} (hcond : Undisturbed s l)
    (hstep : step r s l = some s') : Consistent init s' := by
  cases l with
  | called workspaceSlug now later =>
    obtain rfl := some.inj hstep
    exact consistent_begin h workspaceSlug now later
  | resolved i answer =>
    rw [step.eq_def] at hstep
    dsimp only at hstep
    split at hstep
    · next hstage =>
      cases answer with
      | ok _ =>
        obtain rfl := some.inj hstep
        exact consistent_unread h hstage trivial rfl trivial
      | error e =>
        obtain rfl := some.inj hstep
        exact consistent_unread h hstage trivial rfl trivial
    · cases hstep
  | listed i answer =>
    rw [step.eq_def] at hstep
    dsimp only at hstep
    split at hstep
    · next hstage =>
      cases answer with
      | ok devices =>
        obtain rfl := some.inj hstep
        exact consistent_unread h hstage trivial rfl hcond
      | error e =>
        obtain rfl := some.inj hstep
        exact consistent_unread h hstage trivial rfl trivial
    · cases hstep
  | cacheRead i answered =>
    rw [step.eq_def] at hstep
    dsimp only at hstep
    split at hstep
    · next devices hstage =>
      obtain rfl := some.inj hstep
      refine consistent_read h hstage fun devId => ?_
      cases answered with
      | true => rfl
      | false =>
        unfold SyncState.cached
        rw [show s.row.getD ∅ = ∅ from hcond]
        rfl
    · cases hstep
  | located i k answer =>
    rw [step.eq_def] at hstep
    dsimp only at hstep
    split at hstep
    · next cache fetches later hstage =>
      split at hstep
      · next fetch hfetch =>
        obtain rfl := some.inj hstep
        exact consistent_located h hstage (positionOf r answer)
      · cases hstep
    · cases hstep
  | cacheWritten i stored =>
    rw [step.eq_def] at hstep
    dsimp only at hstep
    split at hstep
    · next cache hstage =>
      obtain rfl := some.inj hstep
      cases stored with
      | true => exact consistent_written h hstage hcond _
      | false => exact consistent_unwritten h hstage hcond _
    · cases hstep

end

end Steps

/-! ## Runs -/

section Runs

variable {r : Runtime} {row : Option LocationCache} {lastLocationSync : String → Option ℕ}
  {ls : List Label} {s : SyncState}

theorem consistent_run (h : Run r Undisturbed ⟨row, lastLocationSync, [], []⟩ ls s) :
    Consistent (row.getD ∅).lookup s := by
  induction h with
  | nil =>
    refine ⟨fun _ _ _ _ h => (by cases h), fun _ h => (by cases h), fun i cache h => ?_,
      fun i h => absurd rfl h, fun devId _ => rfl⟩
    cases h
  | snoc _ hcond hstep ih => exact consistent_step ih hcond hstep

/-- When all calls have completed, each device is at its last position, or where it was. -/
theorem cached_of_completed (h : Run r Undisturbed ⟨row, lastLocationSync, [], []⟩ ls s)
    (hdone : s.Completed) (devId : String) :
    s.cached devId =
      ((lastObtained devId s.effects).map Prod.snd).or ((row.getD ∅).lookup devId) := by
  refine (consistent_run h).settled devId fun i position _ => ?_
  unfold SyncState.cacheOf
  cases hstage : s.calls[i]? with
  | none => rfl
  | some stage =>
    obtain ⟨result, rfl⟩ := hdone stage (mem_of_getElem? hstage)
    rfl

/-- **Main theorem**: in every interleaving whose calls write what they have read, the
row holds the last position that was obtained of each device, once all calls have
completed. -/
theorem holds_of_undisturbed (r : Runtime) (row : Option LocationCache)
    (lastLocationSync : String → Option ℕ) (ls : List Label) (s : SyncState)
    (h : Run r Undisturbed ⟨row, lastLocationSync, [], []⟩ ls s) (hdone : s.Completed) :
    s.Holds := by
  intro devId call position hlast
  rw [cached_of_completed h hdone, hlast]
  rfl

theorem run_of_play {cond : SyncState → Label → Prop} {check : SyncState → Label → Bool}
    (hcheck : ∀ s l, check s l = true → cond s l) {init : SyncState}
    (h : play r check init ls = some s) : Run r cond init ls s := by
  induction ls using reverseRecOn generalizing s with
  | nil =>
    obtain rfl := some.inj h
    exact .nil
  | append_singleton ls l ih =>
    rw [play, foldlM_append] at h
    obtain ⟨s₁, hplay, h⟩ := bind_eq_some_iff.mp h
    rw [foldlM_cons] at h
    obtain ⟨s₂, hstep, h⟩ := bind_eq_some_iff.mp h
    obtain rfl := some.inj h
    split_ifs at hstep with hpass
    exact .snoc (ih hplay) (hcheck _ _ hpass) hstep

end Runs

/-! ## Two workspaces -/

/-- `Undisturbed`, as a check that may refuse more. -/
def undisturbedCheck (s : SyncState) : Label → Bool
  | .listed _ (.ok devices) => devices.all fun dev => !dev.isNullish
  | .cacheRead _ false => false
  | .cacheWritten call true => (sinceRead call s.effects).all fun e => !e.writes
  | .cacheWritten _ false => false
  | _ => true

theorem undisturbedCheck_sound (s : SyncState) (l : Label) (h : undisturbedCheck s l = true) :
    Undisturbed s l := by
  cases l with
  | listed call answer =>
    cases answer with
    | ok devices => exact .inr (by simpa [undisturbedCheck] using h)
    | error e => trivial
  | cacheRead call answered =>
    cases answered with
    | true => trivial
    | false => cases h
  | cacheWritten call stored =>
    cases stored with
    | true => simpa [undisturbedCheck, Undisturbed, Quiet] using h
    | false => cases h
  | _ => trivial

/-- A device of a workspace. -/
def oneDevice (devId : String) : List Value :=
  [.obj [("id", .str devId), ("type", .str "android")]]

/-- The location of the device. -/
def oneLocation (lat lng : ℚ) : LocationsAnswer where
  status := 200
  data := .obj [("items", .arr [.obj [("latitude", .num lat), ("longitude", .num lng)]])]

/-- The steps of a call up to its location, and its write. -/
def syncSteps (call : ℕ) (devId : String) (lat lng : ℚ) : List Label × List Label :=
  ([.resolved call (.ok ()), .listed call (.ok (oneDevice devId)), .cacheRead call true,
      .located call 0 (.ok (oneLocation lat lng))],
    [.cacheWritten call true])

/-- The syncs of two workspaces, one after the other. -/
def inTurn : List Label :=
  let acme := syncSteps 0 "d1" 40 (-3)
  let globex := syncSteps 1 "d2" 48 2
  [.called "acme" 0 0] ++ acme.1 ++ acme.2 ++ [.called "globex" 1 1] ++ globex.1 ++ globex.2

/-- The second sync reads the row before the first one writes it. -/
def overlapping : List Label :=
  let acme := syncSteps 0 "d1" 40 (-3)
  let globex := syncSteps 1 "d2" 48 2
  [.called "acme" 0 0, .called "globex" 1 1] ++ acme.1 ++ globex.1 ++ acme.2 ++ globex.2

/-- The positions of the two devices. -/
def twoPositions (s : SyncState) : Option Position × Option Position :=
  (s.cached "d1", s.cached "d2")

/-- Whether all calls have completed. -/
def SyncState.completed (s : SyncState) : Bool :=
  s.calls.all fun
    | .ended _ => true
    | _ => false

theorem completed_of_completed {s : SyncState} (h : s.completed = true) : s.Completed := by
  intro stage hstage
  have hended := all_eq_true.mp h stage hstage
  cases stage with
  | ended result => exact ⟨result, rfl⟩
  | _ => cases hended

theorem holds_of_undisturbed_in_turn :
    ∃ s, Run bareRuntime Undisturbed ⟨none, fun _ => none, [], []⟩ inTurn s ∧ s.Holds ∧
      twoPositions s = (some ⟨some 40, some (-3)⟩, some ⟨some 48, some 2⟩) := by
  have hvalue : (play bareRuntime undisturbedCheck ⟨none, fun _ => none, [], []⟩ inTurn).map
      (fun s => (s.completed, twoPositions s)) =
        some (true, some ⟨some 40, some (-3)⟩, some ⟨some 48, some 2⟩) := by
    decide +kernel
  obtain ⟨s, hplay, hs⟩ := map_eq_some_iff.mp hvalue
  obtain ⟨hdone, hpositions⟩ := Prod.mk.inj hs
  have hrun := run_of_play undisturbedCheck_sound hplay
  exact ⟨s, hrun, holds_of_undisturbed bareRuntime none (fun _ => none) inTurn s hrun
    (completed_of_completed hdone), hpositions⟩

/-- The second sync writes the row back without what the first one has written. -/
theorem first_sync_lost :
    ¬∀ (r : Runtime) (row : Option LocationCache) (lastLocationSync : String → Option ℕ)
      (ls : List Label) (s : SyncState),
      Run r (fun _ _ => True) ⟨row, lastLocationSync, [], []⟩ ls s → s.Completed → s.Holds := by
  intro hall
  have hvalue : (play bareRuntime (fun _ _ => true) ⟨none, fun _ => none, [], []⟩ overlapping).map
      (fun s => (s.completed, lastObtained "d1" s.effects, twoPositions s)) =
        some (true, some (0, ⟨some 40, some (-3)⟩), none, some ⟨some 48, some 2⟩) := by
    decide +kernel
  obtain ⟨s, hplay, hs⟩ := map_eq_some_iff.mp hvalue
  obtain ⟨hdone, hs⟩ := Prod.mk.inj hs
  obtain ⟨hlast, hpositions⟩ := Prod.mk.inj hs
  have hrun := @run_of_play bareRuntime overlapping s (fun _ _ => True) (fun _ _ => true)
    (fun _ _ _ => trivial) _ hplay
  have hheld := hall _ _ _ _ s hrun (completed_of_completed hdone) "d1" 0 _ hlast
  have hgone : s.cached "d1" = none := (Prod.mk.inj hpositions).1
  rw [hgone] at hheld
  cases hheld

end AppliverySoar.Analytics
