import AppliverySoar.Async.Replay
import AppliverySoar.Devices.FleetFetch
import AppliverySoar.Devices.LiveCache

/-!
# `getDevicesFull` among other callers

The live cache and `devicesFullInFlight`, with everything that changes them. A
pull is cut where other code of the process can run: at each of its requests,
between the last answer and the cache entry, and between the entry and the
`finally` that removes the promise. What is answered depends on the state of the
API and of the local stores at that moment, which others change as they like.

Beside what the process keeps, the state remembers when pulls, invalidations
and writes happened, what each pull has met, and who was given what.

Results:
* `moves_of_step`: what a step can do.
* `Reached.induct_step`: an invariant of the steps holds in every run.
-/

namespace AppliverySoar.Devices

open Async Compliance Option

/-! ## The state -/

def DEVICES_CACHE_SOURCE : String := "devices_full"

def DEVICES_CACHE_TTL_SECONDS : ℕ := 900

/-- The API and the local stores: what each token is answered in each state. -/
structure Outside (T : FleetTypes) where
  St : Type
  answer : (authorization : String) → St → (c : (fleetSig T).Call) →
    Except ServiceError ((fleetSig T).Ret c)

/-- `responseData`. -/
structure Fleet (D : Type) where
  items : List D
  total : ℕ
  fetchedAt : ℕ

/-- Whose pull it is, when it began, and the moments and states in which its
requests were answered. -/
structure Origin (σ : Type) where
  authorization : String
  workspaceSlug : String
  begun : ℕ
  reads : List (ℕ × σ)

/-- A call of `getDevicesFull`. -/
structure Caller where
  authorization : String
  workspaceSlug : String
  refresh : Bool
  startedAt : ℕ

variable (E : FleetEnv) (O : Outside E.toFleetTypes)

/-- A promise in `devicesFullInFlight`: what is left of the pull, what it has put
into the cache, and who waits for it. -/
structure Flight where
  origin : Origin O.St
  rest : Fetch E.toFleetTypes (List E.Device)
  stored : Option (Fleet E.Device)
  callers : List Caller

/-- A call that has returned or thrown. -/
structure Served where
  caller : Caller
  origin : Origin O.St
  outcome : Except ServiceError (Fleet E.Device)

structure State where
  moment : ℕ
  nowMs : ℕ
  outside : O.St
  cache : LiveCache (Fleet E.Device × Origin O.St)
  devicesFullInFlight : String → Option (Flight E O)
  served : List (Served E O)
  invalidations : List (String × ℕ)
  writes : List ℕ

/-- The process has just started. -/
def State.start (outside : O.St) (nowMs : ℕ) : State E O where
  moment := 0
  nowMs := nowMs
  outside := outside
  cache := fun _ => none
  devicesFullInFlight := fun _ => none
  served := []
  invalidations := []
  writes := []

variable {E O}

/-! ## What happens -/

namespace State

/-- The promise of `slugKey` is replaced or removed. -/
def setInFlight (s : State E O) (slugKey : String) (flight : Option (Flight E O)) : State E O :=
  { s with devicesFullInFlight := Function.update s.devicesFullInFlight slugKey flight }

/-- A pull that has made no request yet. -/
def newFlight (s : State E O) (authorization workspaceSlug : String) (caller : Caller) :
    Flight E O where
  origin := ⟨authorization, workspaceSlug, s.moment, []⟩
  rest := fetchDevicesFullUncached E workspaceSlug
  stored := none
  callers := [caller]

def getDevicesFull (s : State E O) (authorization workspaceSlug : String) (refresh : Bool) :
    State E O :=
  let key := slugKey workspaceSlug
  let caller : Caller := ⟨authorization, workspaceSlug, refresh, s.moment⟩
  let cached := if refresh then none else liveCacheGet s.cache s.nowMs key DEVICES_CACHE_SOURCE
  match cached with
  | some (fleet, origin) => { s with served := s.served ++ [⟨caller, origin, .ok fleet⟩] }
  | none =>
    match s.devicesFullInFlight key with
    | some flight =>
      s.setInFlight key (some { flight with callers := flight.callers ++ [caller] })
    | none => s.setInFlight key (some (s.newFlight authorization workspaceSlug caller))

/-- The pending request of a pull is answered. -/
def answered (s : State E O) (flight : Flight E O) : Flight E O :=
  { flight with
    origin := { flight.origin with reads := flight.origin.reads ++ [(s.moment, s.outside)] }
    rest := flight.rest.advance (O.answer flight.origin.authorization) s.outside }

/-- `responseData` of a pull that ends now. -/
def responseData (s : State E O) (items : List E.Device) : Fleet E.Device :=
  ⟨items, items.length, s.nowMs⟩

/-- The end of `fetchDevicesFullUncached`: the entry replaces what the cache
holds. -/
def store (s : State E O) (key : String) (flight : Flight E O) (items : List E.Device) :
    State E O :=
  { s.setInFlight key (some { flight with stored := some (s.responseData items) }) with
    cache := liveCacheSet s.cache s.nowMs key DEVICES_CACHE_SOURCE
      (s.responseData items, flight.origin) DEVICES_CACHE_TTL_SECONDS }

/-- The `finally`: the promise is removed, and all who wait for it get its
outcome. -/
def settle (s : State E O) (key : String) (flight : Flight E O)
    (outcome : Except ServiceError (Fleet E.Device)) : State E O :=
  { s.setInFlight key none with
    served := s.served ++ flight.callers.map fun c => ⟨c, flight.origin, outcome⟩ }

def invalidateDevicesCache (s : State E O) (workspaceSlug : String) : State E O :=
  { s with
    cache := liveCacheInvalidateSource s.cache (slugKey workspaceSlug) DEVICES_CACHE_SOURCE
    invalidations := s.invalidations ++ [(slugKey workspaceSlug, s.moment)] }

end State

/-! ## Steps -/

inductive Label (O : Outside E.toFleetTypes)
  | getDevicesFull (authorization workspaceSlug : String) (refresh : Bool)
  | answer (key : String)
  | store (key : String)
  | settle (key : String)
  | invalidateDevicesCache (workspaceSlug : String)
  | liveCacheInvalidateWorkspace (workspaceSlug : String)
  | write (outside : O.St)
  | wait (ms : ℕ)

/-- What a pull that has got its last answer comes to, once it has put its
result into the cache. -/
def Flight.outcome (flight : Flight E O) : Option (Except ServiceError (Fleet E.Device)) :=
  match flight.rest with
  | .ret (.error e) => some (.error e)
  | .ret (.ok _) => flight.stored.map .ok
  | .await _ _ => none

namespace State

/-- What a label does, where it can happen. -/
def effect (s : State E O) : Label O → Option (State E O)
  | .getDevicesFull authorization workspaceSlug refresh =>
    some (s.getDevicesFull authorization workspaceSlug refresh)
  | .answer key =>
    match s.devicesFullInFlight key with
    | some flight =>
      match flight.rest with
      | .await _ _ => some (s.setInFlight key (some (s.answered flight)))
      | .ret _ => none
    | none => none
  | .store key =>
    match s.devicesFullInFlight key with
    | some flight =>
      match flight.rest, flight.stored with
      | .ret (.ok items), none => some (s.store key flight items)
      | _, _ => none
    | none => none
  | .settle key =>
    match s.devicesFullInFlight key with
    | some flight => flight.outcome.map (s.settle key flight)
    | none => none
  | .invalidateDevicesCache workspaceSlug => some (s.invalidateDevicesCache workspaceSlug)
  | .liveCacheInvalidateWorkspace workspaceSlug =>
    some { s with cache := liveCacheInvalidateWorkspace s.cache workspaceSlug }
  | .write outside => some { s with outside := outside, writes := s.writes ++ [s.moment] }
  | .wait ms => some { s with nowMs := s.nowMs + ms }

def step (s : State E O) (l : Label O) : Option (State E O) :=
  (s.effect l).map fun s' => { s' with moment := s.moment + 1 }

/-- The labels one after the other, where each of them can happen. -/
def execute (s : State E O) : List (Label O) → Option (State E O)
  | [] => some s
  | l :: ls => (s.step l).bind fun s' => s'.execute ls

end State

/-- The states of the runs whose steps all meet `C`. -/
inductive Reached (C : State E O → Label O → Prop) : State E O → Prop
  | start (outside : O.St) (nowMs : ℕ) : Reached C (.start E O outside nowMs)
  | step {s s' : State E O} {l : Label O} :
      Reached C s → C s l → s.step l = some s' → Reached C s'

/-! ## What a step can do -/

/-- The effect of a label. -/
inductive Moves (s : State E O) : Label O → State E O → Prop
  | cached {authorization workspaceSlug : String} {fleet : Fleet E.Device} {origin : Origin O.St} :
      liveCacheGet s.cache s.nowMs (slugKey workspaceSlug) DEVICES_CACHE_SOURCE =
        some (fleet, origin) →
      Moves s (.getDevicesFull authorization workspaceSlug false)
        { s with served := s.served ++
            [⟨⟨authorization, workspaceSlug, false, s.moment⟩, origin, .ok fleet⟩] }
  | joined {authorization workspaceSlug : String} {refresh : Bool} {flight : Flight E O} :
      s.devicesFullInFlight (slugKey workspaceSlug) = some flight →
      Moves s (.getDevicesFull authorization workspaceSlug refresh)
        (s.setInFlight (slugKey workspaceSlug) (some { flight with
          callers := flight.callers ++ [⟨authorization, workspaceSlug, refresh, s.moment⟩] }))
  | started {authorization workspaceSlug : String} {refresh : Bool} :
      s.devicesFullInFlight (slugKey workspaceSlug) = none →
      Moves s (.getDevicesFull authorization workspaceSlug refresh)
        (s.setInFlight (slugKey workspaceSlug) (some (s.newFlight authorization workspaceSlug
          ⟨authorization, workspaceSlug, refresh, s.moment⟩)))
  | answered {key : String} {flight : Flight E O} :
      s.devicesFullInFlight key = some flight →
      Moves s (.answer key) (s.setInFlight key (some (s.answered flight)))
  | stored {key : String} {flight : Flight E O} {items : List E.Device} :
      s.devicesFullInFlight key = some flight → flight.rest = .ret (.ok items) →
      Moves s (.store key) (s.store key flight items)
  | settled {key : String} {flight : Flight E O} {outcome : Except ServiceError (Fleet E.Device)} :
      s.devicesFullInFlight key = some flight → flight.outcome = some outcome →
      Moves s (.settle key) (s.settle key flight outcome)
  | invalidated {workspaceSlug : String} :
      Moves s (.invalidateDevicesCache workspaceSlug) (s.invalidateDevicesCache workspaceSlug)
  | emptied {workspaceSlug : String} :
      Moves s (.liveCacheInvalidateWorkspace workspaceSlug)
        { s with cache := liveCacheInvalidateWorkspace s.cache workspaceSlug }
  | written {outside : O.St} :
      Moves s (.write outside) { s with outside := outside, writes := s.writes ++ [s.moment] }
  | waited {ms : ℕ} : Moves s (.wait ms) { s with nowMs := s.nowMs + ms }

theorem moves_getDevicesFull (s : State E O) (auth workspaceSlug : String)
    (refresh : Bool) :
    Moves s (.getDevicesFull auth workspaceSlug refresh)
      (s.getDevicesFull auth workspaceSlug refresh) := by
  have hcall : Moves s (.getDevicesFull auth workspaceSlug refresh)
      (match s.devicesFullInFlight (slugKey workspaceSlug) with
        | some flight => s.setInFlight (slugKey workspaceSlug) (some { flight with
            callers := flight.callers ++ [⟨auth, workspaceSlug, refresh, s.moment⟩] })
        | none => s.setInFlight (slugKey workspaceSlug) (some (s.newFlight auth
            workspaceSlug ⟨auth, workspaceSlug, refresh, s.moment⟩))) := by
    split
    next flight hflight => exact .joined hflight
    next hflight => exact .started hflight
  cases refresh with
  | true => exact hcall
  | false =>
    unfold State.getDevicesFull
    simp only [Bool.false_eq_true, if_false]
    split
    next fleet origin hcached => exact .cached hcached
    next => exact hcall

variable {s s' : State E O} {l : Label O}

theorem moves_of_effect (h : s.effect l = some s') : Moves s l s' := by
  cases l with
  | getDevicesFull authorization workspaceSlug refresh =>
    obtain rfl := some.inj h
    exact moves_getDevicesFull s authorization workspaceSlug refresh
  | answer key =>
    simp only [State.effect] at h
    split at h
    next flight hflight =>
      split at h
      · obtain rfl := some.inj h
        exact .answered hflight
      · cases h
    next => cases h
  | store key =>
    simp only [State.effect] at h
    split at h
    next flight hflight =>
      split at h
      next items hrest _ =>
        obtain rfl := some.inj h
        exact .stored hflight hrest
      next => cases h
    next => cases h
  | settle key =>
    simp only [State.effect] at h
    split at h
    next flight hflight =>
      obtain ⟨outcome, houtcome, rfl⟩ := map_eq_some_iff.mp h
      exact .settled hflight houtcome
    next => cases h
  | invalidateDevicesCache workspaceSlug =>
    obtain rfl := some.inj h
    exact .invalidated
  | liveCacheInvalidateWorkspace workspaceSlug =>
    obtain rfl := some.inj h
    exact .emptied
  | write outside =>
    obtain rfl := some.inj h
    exact .written
  | wait ms =>
    obtain rfl := some.inj h
    exact .waited

/-- A step moves the clock of the model on, beside what its label does. -/
theorem moves_of_step (h : s.step l = some s') :
    ∃ s₁, Moves s l s₁ ∧ s' = { s₁ with moment := s.moment + 1 } := by
  obtain ⟨s₁, hs₁, rfl⟩ := map_eq_some_iff.mp h
  exact ⟨s₁, moves_of_effect hs₁, rfl⟩

variable {C : State E O → Label O → Prop} {s : State E O}

theorem Reached.induct_step {I : State E O → Prop}
    (hstart : ∀ outside nowMs, I (.start E O outside nowMs))
    (hmove : ∀ s l s', I s → C s l → Moves s l s' → I { s' with moment := s.moment + 1 }) (h : Reached C s) : I s := by
  induction h with
  | start outside nowMs => exact hstart outside nowMs
  | step _ hC hstep ih =>
    obtain ⟨s₁, hs₁, rfl⟩ := moves_of_step hstep
    exact hmove _ _ s₁ ih hC hs₁

/-- A part of a run whose labels meet `C` in every state. -/
theorem Reached.execute (h : Reached C s)
    {ls : List (Label O)} (hC : ∀ l ∈ ls, ∀ s, C s l) (hrun : s.execute ls = some s') :
    Reached C s' := by
  induction ls generalizing s with
  | nil => exact some.inj hrun ▸ h
  | cons l ls ih =>
    obtain ⟨s₁, hstep, hrest⟩ := bind_eq_some_iff.mp hrun
    exact ih (h.step (hC l List.mem_cons_self s) hstep)
      (fun l hl => hC l (List.mem_cons_of_mem _ hl)) hrest

/-! ## Where promises come from -/

theorem inFlight_of_set {key key' : String} {new : Option (Flight E O)}
    {flight : Flight E O}
    (h : (s.setInFlight key new).devicesFullInFlight key' = some flight) :
    (key' = key ∧ new = some flight) ∨ s.devicesFullInFlight key' = some flight := by
  change Function.update s.devicesFullInFlight key new key' = some flight at h
  by_cases hkey : key' = key
  · rw [hkey, Function.update_self] at h
    exact .inl ⟨hkey, h⟩
  · rw [Function.update_of_ne hkey] at h
    exact .inr h

end AppliverySoar.Devices
