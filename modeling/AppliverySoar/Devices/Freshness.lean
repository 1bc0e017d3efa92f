import AppliverySoar.Devices.FleetCache

/-!
# How old a fleet can be

A pull enters its result into the cache whatever has been invalidated since it
began, and a call with `refresh` joins a pull whatever has been written since it
was answered.

Results:
* `fresh_of_timely`: where invalidations find no pull in flight, and a call with
  `refresh` none that was answered before the last write, a call is never given
  a pull that an invalidation before the call has overtaken, and one with
  `refresh` is given every write before it.
* `waits_of_untimely`: any other invalidation or call leads to a call that waits
  for a pull that it should not be given.
-/

namespace AppliverySoar.Devices

open Async Compliance List Option

variable {E : FleetEnv} {O : Outside E.toFleetTypes}

/-! ## What a call may expect -/

/-- A pull that began after every invalidation before the call and, for a call
with `refresh`, was answered nothing before a write that came before the
call. -/
structure FreshFor {σ : Type} (invalidations : List (String × ℕ)) (writes : List ℕ) (c : Caller)
    (origin : Origin σ) : Prop where
  began : ∀ i, (slugKey c.workspaceSlug, i) ∈ invalidations → i < c.startedAt → i < origin.begun
  reflects : c.refresh = true → ∀ w ∈ writes, w < c.startedAt → ∀ r ∈ origin.reads, w < r.1

/-- Every call has been given what it may expect, and the cache serves nothing
that was begun before an invalidation. -/
structure Fresh (s : State E O) : Prop where
  served : ∀ r ∈ s.served, (∃ fleet, r.outcome = .ok fleet) →
    FreshFor s.invalidations s.writes r.caller r.origin
  cache : ∀ workspaceSlug fleet origin,
    liveCacheGet s.cache s.nowMs (slugKey workspaceSlug) DEVICES_CACHE_SOURCE =
      some (fleet, origin) →
    ∀ i, (slugKey workspaceSlug, i) ∈ s.invalidations → i < origin.begun

/-- An invalidation finds no pull of its workspace in flight, and a call with
`refresh` none that was answered before the last write. -/
def Timely (s : State E O) : Label O → Prop
  | .invalidateDevicesCache workspaceSlug => s.devicesFullInFlight (slugKey workspaceSlug) = none
  | .getDevicesFull _ workspaceSlug true =>
    ∀ flight, s.devicesFullInFlight (slugKey workspaceSlug) = some flight →
      ∀ w ∈ s.writes, ∀ r ∈ flight.origin.reads, w < r.1
  | _ => True

/-! ## What has happened after a call -/

/-- `l'` has `l` and what happened from moment `n` on. -/
def Grows {α : Type} (time : α → ℕ) (n : ℕ) (l l' : List α) : Prop :=
  ∀ x ∈ l', x ∈ l ∨ n ≤ time x

variable {n : ℕ} {α : Type}

theorem grows_refl {time : α → ℕ} (l : List α) : Grows time n l l :=
  fun _ h => .inl h

theorem grows_snoc {time : α → ℕ} {l : List α} {x : α} (h : n ≤ time x) :
    Grows time n l (l ++ [x]) := by
  intro y hy
  rcases mem_append.mp hy with hy | hy
  · exact .inl hy
  · exact .inr (mem_singleton.mp hy ▸ h)

variable {σ : Type} {invalidations invalidations' : List (String × ℕ)} {writes writes' : List ℕ}
  {c : Caller} {origin : Origin σ}

theorem FreshFor.later (h : FreshFor invalidations writes c origin)
    (hinv : Grows Prod.snd c.startedAt invalidations invalidations')
    (hwrite : Grows id c.startedAt writes writes') :
    FreshFor invalidations' writes' c origin where
  began i hi hlt := by
    rcases hinv _ hi with hold | hnew
    · exact h.began i hold hlt
    · exact absurd hlt (not_lt.mpr hnew)
  reflects hrefresh w hw hlt := by
    rcases hwrite w hw with hold | hnew
    · exact h.reflects hrefresh w hold hlt
    · exact absurd hlt (not_lt.mpr hnew)

theorem FreshFor.snoc (h : FreshFor invalidations writes c origin) {outside : σ}
    (hn : ∀ w ∈ writes, w < n) :
    FreshFor invalidations writes c { origin with reads := origin.reads ++ [(n, outside)] } where
  began := h.began
  reflects hrefresh w hw hlt r hr := by
    rcases mem_append.mp hr with hold | hnew
    · exact h.reflects hrefresh w hw hlt r hold
    · obtain rfl := mem_singleton.mp hnew
      exact hn w hw

/-! ## The invariant -/

/-- A pull in flight that no invalidation has overtaken, with what its callers
may expect; `n` comes after all that has happened. -/
structure CurrentFlight (n : ℕ) (s : State E O) (key : String) (flight : Flight E O) :
    Prop where
  begun : flight.origin.begun < n
  began : ∀ i, (key, i) ∈ s.invalidations → i < flight.origin.begun
  callers : ∀ c ∈ flight.callers, slugKey c.workspaceSlug = key ∧ c.startedAt < n ∧
    FreshFor s.invalidations s.writes c flight.origin

structure Current (n : ℕ) (s : State E O) : Prop where
  invalidated : ∀ i ∈ s.invalidations, i.2 < n
  written : ∀ w ∈ s.writes, w < n
  flight : ∀ key flight, s.devicesFullInFlight key = some flight → CurrentFlight n s key flight
  cached : ∀ key entry, s.cache (cacheKey key DEVICES_CACHE_SOURCE) = some entry →
    ∀ i, (key, i) ∈ s.invalidations → i < entry.data.2.begun
  served : ∀ r ∈ s.served, r.caller.startedAt < n ∧
    FreshFor s.invalidations s.writes r.caller r.origin

theorem current_start (outside : O.St) (nowMs : ℕ) : Current 0 (.start E O outside nowMs) where
  invalidated _ h := absurd h not_mem_nil
  written _ h := absurd h not_mem_nil
  flight _ _ h := nomatch h
  cached _ _ h := nomatch h
  served _ h := absurd h not_mem_nil

variable {key : String} {flight : Flight E O} {s : State E O} {m n : ℕ}

theorem CurrentFlight.mono (hmn : m ≤ n)
    (h : CurrentFlight m s key flight) : CurrentFlight n s key flight where
  begun := h.begun.trans_le hmn
  began := h.began
  callers c hc := ⟨(h.callers c hc).1, (h.callers c hc).2.1.trans_le hmn, (h.callers c hc).2.2⟩

theorem Current.mono (hmn : m ≤ n) (h : Current m s) :
    Current n s where
  invalidated i hi := (h.invalidated i hi).trans_le hmn
  written w hw := (h.written w hw).trans_le hmn
  flight key flight hflight := (h.flight key flight hflight).mono hmn
  cached := h.cached
  served r hr := ⟨(h.served r hr).1.trans_le hmn, (h.served r hr).2⟩

theorem CurrentFlight.congr {s s' : State E O} (h : CurrentFlight n s key flight)
    (hinv : s'.invalidations = s.invalidations := by rfl)
    (hwrite : s'.writes = s.writes := by rfl) : CurrentFlight n s' key flight where
  begun := h.begun
  began := hinv ▸ h.began
  callers := hinv ▸ hwrite ▸ h.callers

/-- A promise is replaced by one that is as it should be, or removed. -/
theorem Current.setInFlight (h : Current n s)
    {new : Option (Flight E O)}
    (hnew : ∀ flight, new = some flight → CurrentFlight n s key flight) :
    Current n (s.setInFlight key new) where
  invalidated := h.invalidated
  written := h.written
  flight key' flight hflight := by
    rcases inFlight_of_set hflight with ⟨rfl, hset⟩ | hold
    · exact (hnew flight hset).congr
    · exact (h.flight key' flight hold).congr
  cached := h.cached
  served := h.served

theorem Current.serve (h : Current n s) {new : List (Served E O)}
    (hnew : ∀ r ∈ new, r.caller.startedAt < n ∧
      FreshFor s.invalidations s.writes r.caller r.origin) :
    Current n { s with served := s.served ++ new } where
  invalidated := h.invalidated
  written := h.written
  flight key flight hflight := (h.flight key flight hflight).congr
  cached := h.cached
  served r hr := (mem_append.mp hr).elim (h.served r) (hnew r)

/-- The cache holds what it held, or what no invalidation has overtaken. -/
theorem Current.setCache (h : Current n s)
    {cache : LiveCache (Fleet E.Device × Origin O.St)}
    (hcache : ∀ key entry, cache (cacheKey key DEVICES_CACHE_SOURCE) = some entry →
      ∀ i, (key, i) ∈ s.invalidations → i < entry.data.2.begun) :
    Current n { s with cache := cache } where
  invalidated := h.invalidated
  written := h.written
  flight key flight hflight := (h.flight key flight hflight).congr
  cached := hcache
  served := h.served

/-! ## The steps -/

theorem currentFlight_new (h : Current s.moment s)
    (auth workspaceSlug : String) (refresh : Bool) :
    CurrentFlight (s.moment + 1) s (slugKey workspaceSlug) (s.newFlight auth workspaceSlug
      ⟨auth, workspaceSlug, refresh, s.moment⟩) where
  begun := Nat.lt_succ_self _
  began i hi := h.invalidated _ hi
  callers c hc := by
    obtain rfl := mem_singleton.mp hc
    exact ⟨rfl, Nat.lt_succ_self _, ⟨fun i hi _ => h.invalidated _ hi,
      fun _ _ _ _ r hr => absurd hr not_mem_nil⟩⟩

variable {workspaceSlug : String} {l : Label O}

theorem CurrentFlight.join
    (h : CurrentFlight s.moment s (slugKey workspaceSlug) flight) {auth : String}
    {refresh : Bool}
    (htimely : refresh = true → ∀ w ∈ s.writes, ∀ r ∈ flight.origin.reads, w < r.1) :
    CurrentFlight (s.moment + 1) s (slugKey workspaceSlug) { flight with
      callers := flight.callers ++ [⟨auth, workspaceSlug, refresh, s.moment⟩] } where
  begun := Nat.lt_succ_of_lt h.begun
  began := h.began
  callers c hc := by
    rcases mem_append.mp hc with hold | hnew
    · exact (h.mono (Nat.le_succ _)).callers c hold
    · obtain rfl := mem_singleton.mp hnew
      exact ⟨rfl, Nat.lt_succ_self _, ⟨fun i hi _ => h.began i hi,
        fun hrefresh w hw _ => htimely hrefresh w hw⟩⟩

theorem Current.invalidate (h : Current s.moment s)
    (hnone : s.devicesFullInFlight (slugKey workspaceSlug) = none) :
    Current (s.moment + 1) (s.invalidateDevicesCache workspaceSlug) where
  invalidated i hi := by
    rcases mem_append.mp hi with hold | hnew
    · exact Nat.lt_succ_of_lt (h.invalidated i hold)
    · obtain rfl := mem_singleton.mp hnew
      exact Nat.lt_succ_self _
  written w hw := Nat.lt_succ_of_lt (h.written w hw)
  flight key flight hflight := by
    have hold := h.flight key flight hflight
    refine ⟨Nat.lt_succ_of_lt hold.begun, fun i hi => ?_, fun c hc => ?_⟩
    · rcases mem_append.mp hi with hi | hi
      · exact hold.began i hi
      · -- the promise would be that of the invalidated workspace
        obtain ⟨rfl, -⟩ := Prod.mk.inj (mem_singleton.mp hi)
        exact absurd hflight (hnone ▸ nofun)
    · obtain ⟨hkey, hstarted, hfresh⟩ := hold.callers c hc
      exact ⟨hkey, Nat.lt_succ_of_lt hstarted,
        hfresh.later (grows_snoc (Nat.le_of_lt hstarted)) (grows_refl _)⟩
  cached key entry hentry i hi := by
    obtain ⟨hne, hold⟩ := entry_of_invalidateSource hentry
    rcases mem_append.mp hi with hi | hi
    · exact h.cached key entry hold i hi
    · exact absurd (Prod.mk.inj (mem_singleton.mp hi)).1 hne
  served r hr :=
    have ⟨hstarted, hfresh⟩ := h.served r hr
    ⟨Nat.lt_succ_of_lt hstarted,
      hfresh.later (grows_snoc (Nat.le_of_lt hstarted)) (grows_refl _)⟩

theorem Current.write (h : Current s.moment s) (outside : O.St) :
    Current (s.moment + 1) { s with outside := outside, writes := s.writes ++ [s.moment] } where
  invalidated i hi := Nat.lt_succ_of_lt (h.invalidated i hi)
  written w hw := by
    rcases mem_append.mp hw with hold | hnew
    · exact Nat.lt_succ_of_lt (h.written w hold)
    · exact mem_singleton.mp hnew ▸ Nat.lt_succ_self _
  flight key flight hflight :=
    have hold := h.flight key flight hflight
    ⟨Nat.lt_succ_of_lt hold.begun, hold.began, fun c hc =>
      have ⟨hkey, hstarted, hfresh⟩ := hold.callers c hc
      ⟨hkey, Nat.lt_succ_of_lt hstarted,
        hfresh.later (grows_refl _) (grows_snoc (Nat.le_of_lt hstarted))⟩⟩
  cached := h.cached
  served r hr :=
    have ⟨hstarted, hfresh⟩ := h.served r hr
    ⟨Nat.lt_succ_of_lt hstarted,
      hfresh.later (grows_refl _) (grows_snoc (Nat.le_of_lt hstarted))⟩

theorem Current.moves {s s' : State E O} (h : Current s.moment s)
    (htimely : Timely s l) (hmove : Moves s l s') : Current (s.moment + 1) s' := by
  have hnext := h.mono (Nat.le_succ s.moment)
  cases hmove with
  | cached hcached =>
    obtain ⟨entry, hentry, hdata⟩ := exists_entry_of_get hcached
    refine hnext.serve fun r hr => ?_
    obtain rfl := mem_singleton.mp hr
    refine ⟨Nat.lt_succ_self _, fun i hi _ => ?_, fun hrefresh => absurd hrefresh nofun⟩
    exact congrArg (fun d => d.2.begun) hdata ▸ h.cached _ entry hentry i hi
  | @joined authorization workspaceSlug refresh flight hflight =>
    refine hnext.setInFlight fun new hnew => ?_
    obtain rfl := some.inj hnew
    refine (h.flight _ flight hflight).join fun hrefresh => ?_
    subst hrefresh
    exact htimely flight hflight
  | started _ =>
    refine hnext.setInFlight fun new hnew => ?_
    obtain rfl := some.inj hnew
    exact currentFlight_new h _ _ _
  | @answered key flight hflight =>
    refine hnext.setInFlight fun new hnew => ?_
    obtain rfl := some.inj hnew
    have hold := hnext.flight key flight hflight
    exact ⟨hold.begun, hold.began, fun c hc => ⟨(hold.callers c hc).1, (hold.callers c hc).2.1,
      (hold.callers c hc).2.2.snoc h.written⟩⟩
  | @stored key flight items hflight _ =>
    have hold := hnext.flight key flight hflight
    have hset : Current (s.moment + 1) (s.setInFlight key
        (some { flight with stored := some (s.responseData items) })) :=
      hnext.setInFlight fun new hnew => by
        obtain rfl := some.inj hnew
        exact ⟨hold.begun, hold.began, hold.callers⟩
    refine hset.setCache fun key' entry hentry i hi => ?_
    rcases entry_of_set hentry with ⟨rfl, hdata⟩ | hcached
    · exact hdata ▸ hold.began i hi
    · exact h.cached key' entry hcached i hi
  | @settled key flight outcome hflight _ =>
    have hold := hnext.flight key flight hflight
    have hset : Current (s.moment + 1) (s.setInFlight key none) :=
      hnext.setInFlight fun _ hnew => nomatch hnew
    refine hset.serve fun r hr => ?_
    obtain ⟨c, hc, rfl⟩ := mem_map.mp hr
    exact (hold.callers c hc).2
  | invalidated => exact h.invalidate htimely
  | emptied =>
    exact hnext.setCache fun key entry hentry =>
      h.cached key entry (entry_of_invalidateWorkspace hentry)
  | written => exact h.write _
  | waited =>
    exact ⟨hnext.invalidated, hnext.written,
      fun key flight hflight => (hnext.flight key flight hflight).congr, hnext.cached, hnext.served⟩

theorem current_of_timely (h : Reached Timely s) : Current s.moment s := by
  refine h.induct_step (I := fun s => Current s.moment s) current_start ?_
  intro s l s' hs htimely hmove
  have hnext := hs.moves htimely hmove
  exact ⟨hnext.invalidated, hnext.written,
    fun key flight hflight => (hnext.flight key flight hflight).congr, hnext.cached, hnext.served⟩

theorem step_refresh
    (hflight : s.devicesFullInFlight (slugKey workspaceSlug) = some flight)
    (auth : String) :
    ∃ s', s.step (.getDevicesFull auth workspaceSlug true) = some s' ∧
      s'.invalidations = s.invalidations ∧ s'.writes = s.writes ∧
      s'.devicesFullInFlight (slugKey workspaceSlug) = some { flight with
        callers := flight.callers ++ [⟨auth, workspaceSlug, true, s.moment⟩] } := by
  refine ⟨_, rfl, ?_⟩
  simp only [State.getDevicesFull, if_true, hflight, State.setInFlight, Function.update_self,
    and_self]

/-- A call waits for a pull that it should not be given. -/
abbrev Misled (s : State E O) : Prop :=
  ∃ key flight, s.devicesFullInFlight key = some flight ∧
    ∃ c ∈ flight.callers, ¬ FreshFor s.invalidations s.writes c flight.origin

theorem fresh_of_timely {s : State E O} (h : Reached Timely s) : Fresh s where
  served r hr _ := ((current_of_timely h).served r hr).2
  cache workspaceSlug fleet origin hcached i hi := by
    obtain ⟨entry, hentry, hdata⟩ := exists_entry_of_get hcached
    have hlt := (current_of_timely h).cached _ entry hentry i hi
    rw [hdata] at hlt
    exact hlt

/-- A fleet of named devices, without lookups. -/
def namedFleet : FleetEnv where
  Record := String
  idText := id
  platformIds _ := []
  name := some
  Lookup := Empty
  Rows := Empty.elim
  Device := String
  appliveryApiUrl := ""
  assemble _ itemsAll _ _ := pure itemsAll

/-- An API that shows the same devices to every token. -/
def openApi : Outside namedFleet.toFleetTypes where
  St := List String
  answer _ devices
    | .organization _ => .ok ⟨404, none⟩
    | .list _ _ _ _ => .ok ⟨200, "", devices, false⟩
    | .deviceAudiences _ _ => .ok ⟨404, "", [], false⟩
    | .lookup q => q.elim

/-- A pull from its first answer to its end. -/
def wholePull : List (Label openApi) :=
  [.answer "acme", .answer "acme", .answer "acme", .answer "acme", .store "acme", .settle "acme"]

/-- The device is tagged and the cache invalidated between two pulls. -/
theorem fresh_between_pulls :
    ∃ s : State namedFleet openApi, Reached Timely s ∧ Fresh s ∧
      (s.served.map fun r => r.outcome.toOption.map Fleet.items) =
        [some ["laptop"], some ["laptop, tagged"]] := by
  have hwhole : ∀ l ∈ wholePull, ∀ s : State namedFleet openApi, Timely s l := by
    intro l hl s
    simp only [wholePull, mem_cons, not_mem_nil, or_false] at hl
    rcases hl with rfl | rfl | rfl | rfl | rfl | rfl <;> trivial
  have hfirst := ((Reached.start ["laptop"] 0 : Reached Timely (.start namedFleet openApi _ _)).step
    (l := .getDevicesFull "Bearer a" "acme" false) trivial rfl).execute hwhole rfl
  have hbetween := (hfirst.step (l := .write ["laptop, tagged"]) trivial rfl).step
    (l := .invalidateDevicesCache "acme") rfl rfl
  have hsecond := (hbetween.step (l := .getDevicesFull "Bearer a" "acme" true)
    (fun _ h => nomatch h) rfl).execute hwhole rfl
  exact ⟨_, hsecond, fresh_of_timely hsecond, rfl⟩

/-- The device is tagged, and the cache invalidated, after a pull has read it.
One call joins that pull, one finds its result. -/
def overtakenPull : List (Label openApi) :=
  [.getDevicesFull "Bearer a" "acme" false, .answer "acme", .answer "acme",
    .write ["laptop, tagged"], .invalidateDevicesCache "acme",
    .getDevicesFull "Bearer a" "acme" true, .answer "acme", .answer "acme", .store "acme",
    .settle "acme", .getDevicesFull "Bearer a" "acme" false]

theorem invalidation_overtakes_pull :
    ¬ ∀ s : State namedFleet openApi, Reached (fun _ _ => True) s → Fresh s := by
  intro h
  obtain ⟨s, hrun, r, hr, hok, hi, hcaller, hbegun⟩ : ∃ s : State namedFleet openApi,
      (State.start namedFleet openApi ["laptop"] 0).execute overtakenPull = some s ∧
      ∃ r ∈ s.served, (∃ fleet, r.outcome = .ok fleet) ∧ ("acme", 4) ∈ s.invalidations ∧
        r.caller = ⟨"Bearer a", "acme", true, 5⟩ ∧ r.origin.begun = 0 :=
    ⟨_, rfl, _, .tail _ (.head _), ⟨_, rfl⟩, .head _, rfl, rfl⟩
  have hstart : Reached (fun _ _ => True) (State.start namedFleet openApi ["laptop"] 0) :=
    .start _ _
  have hbegan := ((h s (hstart.execute (fun _ _ _ => trivial) hrun)).served r hr hok).began 4
    (hcaller ▸ hi) (hcaller ▸ by decide)
  omega

end AppliverySoar.Devices
