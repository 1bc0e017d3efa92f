import AppliverySoar.Devices.Freshness

/-!
# Whose fleet it is

The cache and the promises are kept by workspace and not by token. A call is
given the result of one pull, made with the token of some caller.

Results:
* `traced`: what a call is given is what one pull has come to.
* `execute_retoken`: tokens that are answered alike can be exchanged without a
  change in any outcome.
* `outcomes_of_alike_tokens`: a call whose token is answered as that of the pull
  is given what it would have got by itself.
-/

namespace AppliverySoar.Devices

open Async Compliance List Function

variable {E : FleetEnv} {O : Outside E.toFleetTypes}

/-! ## The pull that a call is given -/

/-- What is left of the pull of a workspace after its requests have been answered
in these states, to this token. -/
def pulled (O : Outside E.toFleetTypes) (workspaceSlug authorization : String)
    (reads : List (ℕ × O.St)) : Fetch E.toFleetTypes (List E.Device) :=
  (fetchDevicesFullUncached E workspaceSlug).replay (O.answer authorization) (reads.map Prod.snd)

/-- What a pull has come to. -/
def Origin.result (origin : Origin O.St) : Fetch E.toFleetTypes (List E.Device) :=
  pulled O origin.workspaceSlug origin.authorization origin.reads

/-- The call is given what a pull with its own token would have come to. -/
def Served.SeesOwn (r : Served E O) : Prop :=
  pulled O r.caller.workspaceSlug r.caller.authorization r.origin.reads =
    .ret (r.outcome.map Fleet.items)

/-- The token of the pull is answered as that of the call. -/
def Served.AnsweredAlike (r : Served E O) : Prop :=
  r.origin.workspaceSlug = r.caller.workspaceSlug ∧
    ∀ read ∈ r.origin.reads, ∀ c,
      O.answer r.origin.authorization read.2 c = O.answer r.caller.authorization read.2 c

/-- What is in flight, cached and returned is what pulls have come to. -/
structure Traced (s : State E O) : Prop where
  flight : ∀ key flight, s.devicesFullInFlight key = some flight →
    flight.rest = flight.origin.result (E := E) ∧
    ∀ fleet, flight.stored = some fleet → flight.rest = .ret (.ok fleet.items)
  cached : ∀ key entry, s.cache (cacheKey key DEVICES_CACHE_SOURCE) = some entry →
    entry.data.2.result (E := E) = .ret (.ok entry.data.1.items)
  served : ∀ r ∈ s.served, r.origin.result (E := E) = .ret (r.outcome.map Fleet.items)

theorem traced_start (outside : O.St) (nowMs : ℕ) : Traced (.start E O outside nowMs) where
  flight _ _ h := nomatch h
  cached _ _ h := nomatch h
  served _ h := absurd h not_mem_nil

variable {s : State E O}

/-- A promise is replaced by one that is as it should be, or removed. -/
theorem Traced.setInFlight (h : Traced s) {key : String}
    {new : Option (Flight E O)}
    (hnew : ∀ flight, new = some flight → flight.rest = flight.origin.result (E := E) ∧
      ∀ fleet, flight.stored = some fleet → flight.rest = .ret (.ok fleet.items)) :
    Traced (s.setInFlight key new) where
  flight key' flight hflight := by
    rcases inFlight_of_set hflight with ⟨-, hset⟩ | hold
    · exact hnew flight hset
    · exact h.flight key' flight hold
  cached := h.cached
  served := h.served

/-- One more answer to a pull is one more answer to what it has come to. -/
theorem result_answered (s : State E O) {flight : Flight E O}
    (h : flight.rest = flight.origin.result (E := E)) :
    (s.answered flight).rest = (s.answered flight).origin.result (E := E) := by
  unfold State.answered Origin.result pulled
  rw [map_append, map_singleton, Prog.replay_snoc, h]
  rfl

theorem result_of_outcome {flight : Flight E O} {outcome : Except ServiceError (Fleet E.Device)}
    (hstored : ∀ fleet, flight.stored = some fleet → flight.rest = .ret (.ok fleet.items))
    (h : flight.outcome = some outcome) : flight.rest = .ret (outcome.map Fleet.items) := by
  unfold Flight.outcome at h
  split at h
  next e hrest =>
    obtain rfl := Option.some.inj h
    exact hrest
  next items hrest =>
    obtain ⟨fleet, hfleet, rfl⟩ := Option.map_eq_some_iff.mp h
    exact hstored fleet hfleet
  next => cases h

theorem Traced.moves {s s' : State E O} {l : Label O} (h : Traced s) (hmove : Moves s l s') :
    Traced s' := by
  cases hmove with
  | cached hcached =>
    obtain ⟨entry, hentry, hdata⟩ := exists_entry_of_get hcached
    refine ⟨h.flight, h.cached, fun r hr => ?_⟩
    rcases mem_append.mp hr with hr | hr
    · exact h.served r hr
    · obtain rfl := mem_singleton.mp hr
      have hresult := h.cached _ entry hentry
      rw [hdata] at hresult
      exact hresult
  | @joined authorization workspaceSlug refresh flight hflight =>
    refine h.setInFlight fun new hnew => ?_
    obtain rfl := Option.some.inj hnew
    exact h.flight _ flight hflight
  | started _ =>
    refine h.setInFlight fun new hnew => ?_
    obtain rfl := Option.some.inj hnew
    exact ⟨rfl, fun _ hstored => nomatch hstored⟩
  | @answered key flight hflight =>
    obtain ⟨hrest, hstored⟩ := h.flight key flight hflight
    refine h.setInFlight fun new hnew => ?_
    obtain rfl := Option.some.inj hnew
    refine ⟨result_answered s hrest, fun fleet hfleet => ?_⟩
    show flight.rest.advance _ _ = _
    rw [hstored fleet hfleet]
    rfl
  | @stored key flight items hflight hret =>
    obtain ⟨hrest, -⟩ := h.flight key flight hflight
    have hset : Traced (s.setInFlight key
        (some { flight with stored := some (s.responseData items) })) :=
      h.setInFlight fun new hnew => by
        obtain rfl := Option.some.inj hnew
        refine ⟨hrest, fun fleet hfleet => ?_⟩
        obtain rfl := Option.some.inj hfleet
        exact hret
    refine ⟨hset.flight, fun key' entry hentry => ?_, h.served⟩
    rcases entry_of_set hentry with ⟨-, hdata⟩ | hcached
    · rw [hdata]
      exact hrest.symm.trans hret
    · exact h.cached key' entry hcached
  | @settled key flight outcome hflight houtcome =>
    obtain ⟨hrest, hstored⟩ := h.flight key flight hflight
    have hset : Traced (s.setInFlight key none) :=
      h.setInFlight fun _ hnew => nomatch hnew
    refine ⟨hset.flight, h.cached, fun r hr => ?_⟩
    rcases mem_append.mp hr with hr | hr
    · exact h.served r hr
    · obtain ⟨c, -, rfl⟩ := mem_map.mp hr
      exact hrest.symm.trans (result_of_outcome hstored houtcome)
  | invalidated =>
    exact ⟨h.flight, fun key entry hentry =>
      h.cached key entry (entry_of_invalidateSource hentry).2, h.served⟩
  | emptied =>
    exact ⟨h.flight, fun key entry hentry =>
      h.cached key entry (entry_of_invalidateWorkspace hentry), h.served⟩
  | written => exact ⟨h.flight, h.cached, h.served⟩
  | waited => exact ⟨h.flight, h.cached, h.served⟩

variable {C : State E O → Label O → Prop}

theorem traced (h : Reached C s) : Traced s := by
  refine h.induct_step traced_start fun s l s' hs _ hmove => ?_
  exact ⟨(hs.moves hmove).flight, (hs.moves hmove).cached, (hs.moves hmove).served⟩

theorem seesOwn_of_answeredAlike
    (h : Reached C s) {r : Served E O} (hr : r ∈ s.served) (halike : r.AnsweredAlike) :
    r.SeesOwn := by
  obtain ⟨hslug, hanswers⟩ := halike
  rw [Served.SeesOwn, ← (traced h).served r hr, Origin.result, pulled, pulled, ← hslug]
  refine Prog.replay_congr _ fun st hst c => ?_
  obtain ⟨read, hread, rfl⟩ := mem_map.mp hst
  exact (hanswers read hread c).symm

/-! ## Other tokens -/

/-- Every token is replaced. -/
def Origin.retoken {σ : Type} (ρ : String → String) (origin : Origin σ) : Origin σ :=
  { origin with authorization := ρ origin.authorization }

def Caller.retoken (ρ : String → String) (c : Caller) : Caller :=
  { c with authorization := ρ c.authorization }

def Flight.retoken (ρ : String → String) (flight : Flight E O) : Flight E O :=
  { flight with origin := flight.origin.retoken ρ, callers := flight.callers.map (.retoken ρ) }

def Served.retoken (ρ : String → String) (r : Served E O) : Served E O :=
  { r with caller := r.caller.retoken ρ, origin := r.origin.retoken ρ }

def retokenCache (ρ : String → String) (cache : LiveCache (Fleet E.Device × Origin O.St)) :
    LiveCache (Fleet E.Device × Origin O.St) :=
  fun key => (cache key).map fun entry =>
    { entry with data := (entry.data.1, entry.data.2.retoken ρ) }

def State.retoken (ρ : String → String) (s : State E O) : State E O :=
  { s with
    cache := retokenCache ρ s.cache
    devicesFullInFlight := fun key => (s.devicesFullInFlight key).map (.retoken ρ)
    served := s.served.map (.retoken ρ) }

def Label.retoken (ρ : String → String) : Label O → Label O
  | .getDevicesFull authorization workspaceSlug refresh =>
    .getDevicesFull (ρ authorization) workspaceSlug refresh
  | l => l

variable {ρ : String → String} (cache : LiveCache (Fleet E.Device × Origin O.St))

theorem retoken_setInFlight (s : State E O) (key : String) (flight : Option (Flight E O)) :
    (s.setInFlight key flight).retoken ρ =
      (s.retoken ρ).setInFlight key (flight.map (.retoken ρ)) := by
  unfold State.setInFlight State.retoken
  congr 1
  funext key'
  by_cases hkey : key' = key
  · subst hkey
    simp only [update_self]
  · simp only [update_of_ne hkey]

theorem retoken_liveCacheGet (nowMs : ℕ)
    (slug source : String) :
    liveCacheGet (retokenCache ρ cache) nowMs slug source =
      (liveCacheGet cache nowMs slug source).map fun d => (d.1, d.2.retoken ρ) := by
  unfold liveCacheGet retokenCache
  cases cache (cacheKey slug source) with
  | none => rfl
  | some entry =>
    simp only [Option.map_some]
    split_ifs <;> rfl

theorem retoken_update (key : String)
    (entry : Option (CacheEntry (Fleet E.Device × Origin O.St))) :
    retokenCache ρ (update cache key entry) =
      update (retokenCache ρ cache) key
        (entry.map fun e => { e with data := (e.data.1, e.data.2.retoken ρ) }) := by
  funext key'
  unfold retokenCache
  by_cases hkey : key' = key
  · subst hkey
    simp only [update_self]
  · simp only [update_of_ne hkey]

theorem retoken_answered (hρ : ∀ t st c, O.answer (ρ t) st c = O.answer t st c) (s : State E O)
    (flight : Flight E O) :
    (s.answered flight).retoken ρ = (s.retoken ρ).answered (flight.retoken ρ) := by
  have hrest : flight.rest.advance (O.answer (ρ flight.origin.authorization)) s.outside =
      flight.rest.advance (O.answer flight.origin.authorization) s.outside := by
    unfold Prog.advance
    split
    · rfl
    next c k hpending => rw [hρ]
  unfold State.answered Flight.retoken Origin.retoken State.retoken
  simp only [hrest]

theorem retoken_getDevicesFull (s : State E O) (auth slug : String)
    (refresh : Bool) :
    (s.getDevicesFull auth slug refresh).retoken ρ =
      (s.retoken ρ).getDevicesFull (ρ auth) slug refresh := by
  have hcached : (if refresh then none else
        liveCacheGet (s.retoken ρ).cache (s.retoken ρ).nowMs (slugKey slug)
          DEVICES_CACHE_SOURCE) =
      (if refresh then none else
        liveCacheGet s.cache s.nowMs (slugKey slug) DEVICES_CACHE_SOURCE).map
          fun d => (d.1, d.2.retoken ρ) := by
    split_ifs
    · rfl
    · exact retoken_liveCacheGet s.cache s.nowMs _ _
  unfold State.getDevicesFull
  simp only [hcached]
  cases (if refresh then none else
      liveCacheGet s.cache s.nowMs (slugKey slug) DEVICES_CACHE_SOURCE) with
  | some cached => simp [State.retoken, Served.retoken, Caller.retoken]
  | none =>
    have hinFlight : (s.retoken ρ).devicesFullInFlight (slugKey slug) =
        (s.devicesFullInFlight (slugKey slug)).map (.retoken ρ) := rfl
    simp only [Option.map_none, hinFlight]
    cases s.devicesFullInFlight (slugKey slug) with
    | some flight =>
      simp only [Option.map_some, retoken_setInFlight, Flight.retoken, map_append,
        map_singleton]
      rfl
    | none =>
      simp only [Option.map_none, retoken_setInFlight, Option.map_some]
      rfl

theorem retoken_store (s : State E O) (key : String) (flight : Flight E O)
    (items : List E.Device) :
    (s.store key flight items).retoken ρ = (s.retoken ρ).store key (flight.retoken ρ) items := by
  have hset := retoken_setInFlight (ρ := ρ) s key
    (some { flight with stored := some (s.responseData items) })
  have hcache := retoken_update (ρ := ρ) s.cache (cacheKey key DEVICES_CACHE_SOURCE)
    (some ⟨(s.responseData items, flight.origin), s.nowMs + DEVICES_CACHE_TTL_SECONDS * 1000⟩)
  calc (s.store key flight items).retoken ρ
      = { (s.setInFlight key (some { flight with
              stored := some (s.responseData items) })).retoken ρ with
            cache := retokenCache ρ (update s.cache (cacheKey key DEVICES_CACHE_SOURCE)
              (some ⟨(s.responseData items, flight.origin),
                s.nowMs + DEVICES_CACHE_TTL_SECONDS * 1000⟩)) } := rfl
    _ = (s.retoken ρ).store key (flight.retoken ρ) items := by rw [hset, hcache]; rfl

theorem retoken_settle (s : State E O) (key : String) (flight : Flight E O)
    (outcome : Except ServiceError (Fleet E.Device)) :
    (s.settle key flight outcome).retoken ρ =
      (s.retoken ρ).settle key (flight.retoken ρ) outcome := by
  have hset := retoken_setInFlight (ρ := ρ) s key none
  have hserved : (s.served ++ flight.callers.map fun c =>
        (⟨c, flight.origin, outcome⟩ : Served E O)).map (Served.retoken ρ) =
      s.served.map (Served.retoken ρ) ++ (flight.callers.map (Caller.retoken ρ)).map fun c =>
        (⟨c, flight.origin.retoken ρ, outcome⟩ : Served E O) := by
    rw [map_append, map_map, map_map]
    rfl
  calc (s.settle key flight outcome).retoken ρ
      = { (s.setInFlight key none).retoken ρ with
            served := (s.served ++ flight.callers.map fun c =>
              (⟨c, flight.origin, outcome⟩ : Served E O)).map (Served.retoken ρ) } := rfl
    _ = (s.retoken ρ).settle key (flight.retoken ρ) outcome := by rw [hset, hserved]; rfl

theorem retoken_invalidateDevicesCache (s : State E O) (workspaceSlug : String) :
    (s.invalidateDevicesCache workspaceSlug).retoken ρ =
      (s.retoken ρ).invalidateDevicesCache workspaceSlug := by
  have hcache := retoken_update (ρ := ρ) s.cache
    (cacheKey (slugKey workspaceSlug) DEVICES_CACHE_SOURCE) none
  calc (s.invalidateDevicesCache workspaceSlug).retoken ρ
      = { s.retoken ρ with
            cache := retokenCache ρ (update s.cache
              (cacheKey (slugKey workspaceSlug) DEVICES_CACHE_SOURCE) none)
            invalidations := s.invalidations ++ [(slugKey workspaceSlug, s.moment)] } := rfl
    _ = (s.retoken ρ).invalidateDevicesCache workspaceSlug := by rw [hcache]; rfl

theorem retoken_liveCacheInvalidateWorkspace (slug : String) :
    retokenCache ρ (liveCacheInvalidateWorkspace cache slug) =
      liveCacheInvalidateWorkspace (retokenCache ρ cache) slug := by
  funext key
  unfold retokenCache liveCacheInvalidateWorkspace
  split_ifs <;> rfl

section

variable (hρ : ∀ t st c, O.answer (ρ t) st c = O.answer t st c)
include hρ

/-- A step with other tokens that are answered alike is the same step. -/
theorem effect_retoken (s : State E O)
    (l : Label O) : (s.retoken ρ).effect (l.retoken ρ) = (s.effect l).map (.retoken ρ) := by
  have hinFlight (key : String) : (s.retoken ρ).devicesFullInFlight key =
      (s.devicesFullInFlight key).map (.retoken ρ) := rfl
  cases l with
  | getDevicesFull authorization workspaceSlug refresh =>
    exact congrArg some (retoken_getDevicesFull s authorization workspaceSlug refresh).symm
  | answer key =>
    simp only [Label.retoken, State.effect, hinFlight]
    cases s.devicesFullInFlight key with
    | none => rfl
    | some flight =>
      have hrest : (flight.retoken ρ).rest = flight.rest := rfl
      simp only [Option.map_some, hrest]
      split
      · rw [Option.map_some, retoken_setInFlight, Option.map_some, retoken_answered hρ]
      · rfl
  | store key =>
    simp only [Label.retoken, State.effect, hinFlight]
    cases s.devicesFullInFlight key with
    | none => rfl
    | some flight =>
      simp only [Option.map_some]
      have hparts : (flight.retoken ρ).rest = flight.rest ∧
          (flight.retoken ρ).stored = flight.stored := ⟨rfl, rfl⟩
      rw [hparts.1, hparts.2]
      split
      next items _ _ => exact congrArg some (retoken_store s key flight items).symm
      next => rfl
  | settle key =>
    simp only [Label.retoken, State.effect, hinFlight]
    cases s.devicesFullInFlight key with
    | none => rfl
    | some flight =>
      have houtcome : (flight.retoken ρ).outcome = flight.outcome := rfl
      simp only [Option.map_some, houtcome, Option.map_map]
      congr 1
      funext outcome
      exact (retoken_settle s key flight outcome).symm
  | invalidateDevicesCache workspaceSlug =>
    exact congrArg some (retoken_invalidateDevicesCache s workspaceSlug).symm
  | liveCacheInvalidateWorkspace workspaceSlug =>
    have hcache := retoken_liveCacheInvalidateWorkspace (ρ := ρ) s.cache workspaceSlug
    simp only [Label.retoken, State.effect, Option.map_some, State.retoken, hcache]
  | write outside => rfl
  | wait ms => rfl

theorem step_retoken (s : State E O)
    (l : Label O) : (s.retoken ρ).step (l.retoken ρ) = (s.step l).map (.retoken ρ) := by
  unfold State.step
  rw [effect_retoken hρ, Option.map_map, Option.map_map]
  rfl

theorem execute_retoken (s : State E O)
    (ls : List (Label O)) :
    (s.retoken ρ).execute (ls.map (.retoken ρ)) = (s.execute ls).map (.retoken ρ) := by
  induction ls generalizing s with
  | nil => rfl
  | cons l ls ih =>
    simp only [map_cons, State.execute, step_retoken hρ]
    cases s.step l with
    | none => rfl
    | some s' => exact ih s'

end

/-! ## Calls with different tokens -/

/-- **Calls of one workspace with different tokens.** A call whose token is
answered as that of the pull it is given gets what it would have got by
itself, and tokens that are answered alike can be exchanged. -/
theorem outcomes_of_alike_tokens (outside : O.St) (nowMs : ℕ) {ls : List (Label O)}
    {s : State E O} (hrun : (State.start E O outside nowMs).execute ls = some s) :
    (∀ r ∈ s.served, r.AnsweredAlike → r.SeesOwn) ∧
    ∀ ρ : String → String, (∀ t st c, O.answer (ρ t) st c = O.answer t st c) →
      ∃ s', (State.start E O outside nowMs).execute (ls.map (.retoken ρ)) = some s' ∧
        s'.served.map Served.outcome = s.served.map Served.outcome := by
  have hstart : Reached (fun _ _ => True) (State.start E O outside nowMs) := .start _ _
  refine ⟨fun r hr => seesOwn_of_answeredAlike (hstart.execute (fun _ _ _ => trivial) hrun) hr,
    fun ρ hρ => ⟨s.retoken ρ, ?_, ?_⟩⟩
  · have hretoken := execute_retoken hρ (State.start E O outside nowMs) ls
    rw [hrun] at hretoken
    exact hretoken
  · simp only [State.retoken, map_map]
    rfl

/-- The devices that a token may see, if it is valid. -/
def visible (authorization : String) (devices : List String) : Option (List String) :=
  match authorization with
  | "Bearer admin" | "Bearer root" => some devices
  | "Bearer helpdesk" => some (devices.filter fun d => d == "laptop")
  | _ => none

/-- An API that shows each token the devices it may see, and rejects a token that
is not valid. -/
def scopedApi : Outside namedFleet.toFleetTypes where
  St := List String
  answer authorization devices
    | .organization _ => .ok ⟨404, none⟩
    | .list _ _ _ _ =>
      match visible authorization devices with
      | some items => .ok ⟨200, "", items, false⟩
      | none => .ok ⟨401, "unauthorized", [], false⟩
    | .deviceAudiences _ _ => .ok ⟨404, "", [], false⟩
    | .lookup q => q.elim

/-- Two tokens that see the same devices share a pull. -/
def equalPull : List (Label scopedApi) :=
  [.getDevicesFull "Bearer admin" "acme" false, .getDevicesFull "Bearer root" "acme" true,
    .answer "acme", .answer "acme", .answer "acme", .answer "acme", .store "acme", .settle "acme"]

/-- `Bearer root` for `Bearer admin`. -/
def asRoot (t : String) : String :=
  if t = "Bearer admin" then "Bearer root" else t

theorem answer_root (st : scopedApi.St) (c : (fleetSig namedFleet.toFleetTypes).Call) :
    scopedApi.answer "Bearer root" st c = scopedApi.answer "Bearer admin" st c := by
  cases c <;> rfl

theorem answer_asRoot (t : String) (st : scopedApi.St)
    (c : (fleetSig namedFleet.toFleetTypes).Call) :
    scopedApi.answer (asRoot t) st c = scopedApi.answer t st c := by
  unfold asRoot
  split_ifs with ht
  · rw [ht, answer_root]
  · rfl

theorem outcomes_of_equal_pull :
    ∃ s, (State.start namedFleet scopedApi ["laptop", "server"] 0).execute equalPull = some s ∧
      (∀ r ∈ s.served, r.SeesOwn) ∧
      ∃ s', (State.start namedFleet scopedApi ["laptop", "server"] 0).execute
          (equalPull.map (.retoken asRoot)) = some s' ∧
        s'.served.map Served.outcome = s.served.map Served.outcome := by
  obtain ⟨s, hrun, halike⟩ : ∃ s : State namedFleet scopedApi,
      (State.start namedFleet scopedApi ["laptop", "server"] 0).execute equalPull = some s ∧
      ∀ r ∈ s.served, r.AnsweredAlike := by
    refine ⟨_, rfl, fun r hr => ?_⟩
    rcases hr with _ | ⟨_, _ | ⟨_, hr⟩⟩
    · exact ⟨rfl, fun _ _ _ => rfl⟩
    · exact ⟨rfl, fun read _ c => (answer_root read.2 c).symm⟩
    · cases hr
  have hshared := outcomes_of_alike_tokens (O := scopedApi) ["laptop", "server"] 0 hrun
  exact ⟨s, hrun, fun r hr => hshared.1 r hr (halike r hr), hshared.2 asRoot answer_asRoot⟩

/-- An expired token and one that sees less, each joined by an administrator; then
the administrator's own pull, found in the cache by the token that sees
less. -/
def unequalPulls : List (Label scopedApi) :=
  [.getDevicesFull "Bearer expired" "acme" false, .getDevicesFull "Bearer admin" "acme" true,
    .answer "acme", .answer "acme", .settle "acme",
    .getDevicesFull "Bearer helpdesk" "acme" false, .getDevicesFull "Bearer admin" "acme" true,
    .answer "acme", .answer "acme", .answer "acme", .answer "acme", .store "acme", .settle "acme",
    .getDevicesFull "Bearer admin" "acme" true,
    .answer "acme", .answer "acme", .answer "acme", .answer "acme", .store "acme", .settle "acme",
    .getDevicesFull "Bearer helpdesk" "acme" false]

theorem outcomes_of_unequal_pulls :
    ∃ s, (State.start namedFleet scopedApi ["laptop", "server"] 0).execute unequalPulls = some s ∧
      (s.served.map fun r => (r.caller.authorization, r.outcome.toOption.map Fleet.items)) =
        [("Bearer expired", none), ("Bearer admin", none),
          ("Bearer helpdesk", some ["laptop"]), ("Bearer admin", some ["laptop"]),
          ("Bearer admin", some ["laptop", "server"]),
          ("Bearer helpdesk", some ["laptop", "server"])] ∧ ¬ ∀ r ∈ s.served, r.SeesOwn := by
  refine ⟨_, rfl, rfl, fun h => ?_⟩
  have hown : (Prog.ret (.ok ["laptop", "server"]) : Fetch namedFleet.toFleetTypes (List String)) =
      .ret (.ok ["laptop"]) := h _ (.tail _ (.tail _ (.tail _ (.head _))))
  cases hown

end AppliverySoar.Devices
