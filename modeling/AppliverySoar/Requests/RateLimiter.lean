import AppliverySoar.Requests.Server
import Mathlib.Data.List.Basic
import Mathlib.Data.List.Pairwise

/-!
# The rate limiter (rateLimiter.middleware.ts)

A fixed-window limiter for each of three tiers, keyed by the client's address. The tier of
a request is read off its path by exact and prefix comparison, ahead of the routers, which
compare without regard to case and allow a slash at the end.

Results:
* `Windowed.minute`: windows of a minute, each within its limit, keep every minute within
  twice the limit.
* `limiter_windowed`, `charges_windowed`: the limiter keeps its windows.
* `charged_iff_spelled`: when every request is charged to its handler's own tier.
* `login_uncharged`: a login that no tier counts.
-/

namespace AppliverySoar.Requests

open List Option Function

/-! ## The limiter -/

/-- `Window`; times are in milliseconds. -/
structure Window where
  count : ℕ
  windowStartedAt : ℕ
  deriving DecidableEq, Repr

/-- `WINDOW_MS`. -/
def windowMs : ℕ := 60000

/-- What a limiter does with a request: hand it on, or answer 429 with `Retry-After`. -/
inductive Verdict
  | next
  | rateLimitExceeded (retryAfterSeconds : ℕ)
  deriving DecidableEq, Repr

/-- The `buckets` of a limiter. -/
abbrev Buckets := String → Option Window

/-- The limiter that `makeLimiter` makes. -/
def limiter (limit : ℕ) (buckets : Buckets) (ip : String) (now : ℕ) : Verdict × Buckets :=
  match buckets ip with
  | none => (.next, Function.update buckets ip (some ⟨1, now⟩))
  | some bucket =>
    if now - bucket.windowStartedAt ≥ windowMs then
      (.next, Function.update buckets ip (some ⟨1, now⟩))
    else if bucket.count ≥ limit then
      (.rateLimitExceeded ((bucket.windowStartedAt + windowMs - now + 999) / 1000), buckets)
    else (.next, Function.update buckets ip (some { bucket with count := bucket.count + 1 }))

/-- The three limiters. -/
inductive Tier
  | login
  | secretPath
  | defaultApi
  deriving DecidableEq, Repr

/-- Their limits. -/
def Tier.limit : Tier → ℕ
  | .login => 10
  | .secretPath => 120
  | .defaultApi => 300

/-- A request, as far as the limiter reads it. -/
structure ApiRequest where
  ip : String
  path : List Char
  now : ℕ
  deriving DecidableEq, Repr

/-- `path.startsWith(prefix)`, for a prefix in the text of the source. -/
def startsWith (path : List Char) (start : String) : Bool :=
  start.toList.isPrefixOf path

/-- The tier that a path is charged to. -/
def tierOf (path : List Char) : Option Tier :=
  if path = "/api/auth/login".toList then some .login
  else if startsWith path "/api/triggers/fire/" ||
      startsWith path "/api/applivery-webhook/receive/" then some .secretPath
  else if startsWith path "/api/" then some .defaultApi
  else none

/-- The limiters' buckets. -/
abbrev Limiters := Tier → Buckets

def rateLimiterMiddleware (st : Limiters) (rq : ApiRequest) : Verdict × Limiters :=
  match tierOf rq.path with
  | none => (.next, st)
  | some tier =>
    let (verdict, buckets) := limiter tier.limit (st tier) rq.ip rq.now
    (verdict, Function.update st tier buckets)

/-! ## Windows -/

/-- A request that a tier has handed on, with the start of the window it was counted in. -/
structure Charge where
  tier : Tier
  ip : String
  now : ℕ
  window : ℕ
  deriving DecidableEq, Repr

/-- The charge of a request that a tier hands on. -/
def charge (st : Limiters) (rq : ApiRequest) : List Charge :=
  match tierOf rq.path, rateLimiterMiddleware st rq with
  | some tier, (.next, st') =>
    [⟨tier, rq.ip, rq.now, ((st' tier rq.ip).map Window.windowStartedAt).getD 0⟩]
  | _, _ => []

/-- The charges of the requests as they come. -/
def charges : Limiters → List ApiRequest → List Charge
  | _, [] => []
  | st, rq :: rqs => charge st rq ++ charges (rateLimiterMiddleware st rq).2 rqs

/-- Those of one tier and one address. -/
def chargedTo (tier : Tier) (ip : String) (cs : List Charge) : List Charge :=
  cs.filter fun c => c.tier = tier ∧ c.ip = ip

/-- The charges lie in windows of a minute, none of which takes more than `limit`. -/
structure Windowed (limit : ℕ) (cs : List Charge) : Prop where
  within : ∀ c ∈ cs, c.window ≤ c.now ∧ c.now < c.window + windowMs
  apart : cs.Pairwise fun c c' => c.window = c'.window ∨ c.window + windowMs ≤ c'.window
  counted : ∀ window, cs.countP (fun c => c.window = window) ≤ limit

variable {limit : ℕ} {cs : List Charge}

/-- Two charges lie in one window, or their windows are a minute apart. -/
theorem Windowed.same_or_apart (h : Windowed limit cs)
    {c c' : Charge} (hc : c ∈ cs) (hc' : c' ∈ cs) :
    c.window = c'.window ∨ c.window + windowMs ≤ c'.window ∨ c'.window + windowMs ≤ c.window := by
  have hpairs : cs.Pairwise fun c c' => c.window = c'.window ∨
      c.window + windowMs ≤ c'.window ∨ c'.window + windowMs ≤ c.window :=
    h.apart.imp fun hcase => hcase.imp_right .inl
  refine hpairs.forall_of_forall_of_flip (fun c _ => .inl rfl) (hpairs.imp ?_) hc hc'
  rintro c c' (heq | hlt | hlt)
  · exact .inl heq.symm
  · exact .inr (.inr hlt)
  · exact .inr (.inl hlt)

theorem length_le_countP_add {α : Type} {p q : α → Bool} {l : List α}
    (h : ∀ a ∈ l, p a = true ∨ q a = true) : l.length ≤ l.countP p + l.countP q := by
  induction l with
  | nil => exact Nat.zero_le _
  | cons a l ih =>
    have hrest := ih fun b hb => h b (mem_cons_of_mem _ hb)
    rw [length_cons, countP_cons, countP_cons]
    rcases h a mem_cons_self with ha | ha
    · rw [if_pos ha]
      omega
    · rw [if_pos ha]
      omega

/-- In any minute, twice the limit: it meets two windows at most. -/
theorem Windowed.minute (h : Windowed limit cs) (start : ℕ) :
    cs.countP (fun c => start ≤ c.now ∧ c.now ≤ start + windowMs) ≤ 2 * limit := by
  rw [countP_eq_length_filter]
  generalize hinside : cs.filter (fun c => start ≤ c.now ∧ c.now ≤ start + windowMs) = inside
  have hsub : inside.Sublist cs := hinside ▸ filter_sublist
  have hnow : ∀ c ∈ inside, start ≤ c.now ∧ c.now ≤ start + windowMs := fun c hc => by
    rw [← hinside] at hc
    simpa using (mem_filter.mp hc).2
  have hcount : ∀ window, inside.countP (fun c => c.window = window) ≤ limit := fun window =>
    Nat.le_trans hsub.countP_le (h.counted window)
  have htwo : ∃ w w', ∀ c ∈ inside, c.window = w ∨ c.window = w' := by
    cases hfirst : inside with
    | nil => exact ⟨0, 0, fun c hc => by cases hc⟩
    | cons c₀ rest =>
      rw [hfirst] at hsub hnow
      by_cases hother : ∃ c₁ ∈ rest, c₁.window ≠ c₀.window
      · obtain ⟨c₁, hc₁, hne⟩ := hother
        have hlater : ∀ c ∈ rest, c₀.window = c.window ∨ c₀.window + windowMs ≤ c.window :=
          (pairwise_cons.mp (h.apart.sublist hsub)).1
        refine ⟨c₀.window, c₁.window, fun c hc => ?_⟩
        rcases mem_cons.mp hc with heq | hc
        · exact .inl (congrArg Charge.window heq)
        · -- a third window would start more than a minute after the first charge
          have hmem : ∀ c ∈ c₀ :: rest, c ∈ cs := fun c hc => hsub.subset hc
          have hmem₁ : c₁ ∈ c₀ :: rest := mem_cons_of_mem _ hc₁
          have hmemc : c ∈ c₀ :: rest := mem_cons_of_mem _ hc
          have hin₀ := h.within c₀ (hmem c₀ mem_cons_self)
          have hin₁ := h.within c₁ (hmem c₁ hmem₁)
          have hinc := h.within c (hmem c hmemc)
          have hnow₀ := hnow c₀ mem_cons_self
          have hnow₁ := hnow c₁ hmem₁
          have hnowc := hnow c hmemc
          have hsame := h.same_or_apart (hmem c hmemc) (hmem c₁ hmem₁)
          have hlater₁ := hlater c₁ hc₁
          have hlaterc := hlater c hc
          omega
      · refine ⟨c₀.window, c₀.window, fun c hc => .inl ?_⟩
        rcases mem_cons.mp hc with heq | hc
        · exact congrArg Charge.window heq
        · exact not_not.mp fun hne => hother ⟨c, hc, hne⟩
  obtain ⟨w, w', hw⟩ := htwo
  have hle := length_le_countP_add (p := fun c : Charge => c.window = w)
    (q := fun c => c.window = w') fun c hc => by simpa using hw c hc
  have h₁ := hcount w
  have h₂ := hcount w'
  omega

/-- The charges of one tier to one address so far, with the bucket that counts them, before a
request at `now`. -/
structure Counted (limit : ℕ) (cs : List Charge) (bucket : Option Window) (now : ℕ) : Prop where
  windowed : Windowed limit cs
  past : ∀ c ∈ cs, c.now ≤ now
  unused : bucket = none → cs = []
  current : ∀ w, bucket = some w → w.windowStartedAt ≤ now ∧
    cs.countP (fun c => c.window = w.windowStartedAt) = w.count ∧
    ∀ c ∈ cs, c.window = w.windowStartedAt ∨ c.window + windowMs ≤ w.windowStartedAt

variable {bucket : Option Window}

theorem Counted.later {now now' : ℕ}
    (h : Counted limit cs bucket now) (hle : now ≤ now') : Counted limit cs bucket now' where
  windowed := h.windowed
  past c hc := Nat.le_trans (h.past c hc) hle
  unused := h.unused
  current w hw := by
    obtain ⟨hstart, hrest⟩ := h.current w hw
    exact ⟨Nat.le_trans hstart hle, hrest⟩

/-- A charge to a window that starts no earlier than a minute after those before it, or that
is the current one and has room. -/
theorem Windowed.snoc (h : Windowed limit cs) (c : Charge)
    (hwithin : c.window ≤ c.now ∧ c.now < c.window + windowMs)
    (hapart : ∀ c' ∈ cs, c'.window = c.window ∨ c'.window + windowMs ≤ c.window)
    (hroom : cs.countP (fun c' => c'.window = c.window) < limit) : Windowed limit (cs ++ [c]) where
  within c' hc' := by
    rcases mem_append.mp hc' with hc' | hc'
    · exact h.within c' hc'
    · exact mem_singleton.mp hc' ▸ hwithin
  apart := pairwise_append.mpr ⟨h.apart, pairwise_singleton _ _, fun c' hc' c'' hc'' =>
    mem_singleton.mp hc'' ▸ hapart c' hc'⟩
  counted window := by
    rw [countP_append, countP_singleton]
    have hbefore := h.counted window
    split_ifs with hsame
    · have hsame : c.window = window := by simpa using hsame
      rw [hsame] at hroom
      omega
    · omega

variable {now : ℕ}

theorem Counted.opened
    (h : Counted limit cs bucket now) (hlimit : 0 < limit) (tier : Tier) (ip : String)
    (hold : ∀ w, bucket = some w → w.windowStartedAt + windowMs ≤ now) :
    Counted limit (cs ++ [⟨tier, ip, now, now⟩]) (some ⟨1, now⟩) now := by
  have hbefore : ∀ c ∈ cs, c.window + windowMs ≤ now := by
    intro c hc
    cases hb : bucket with
    | none =>
      rw [h.unused hb] at hc
      cases hc
    | some w =>
      have hw := hold w hb
      rcases (h.current w hb).2.2 c hc with heq | hlt <;> omega
  have hnone : cs.countP (fun c => c.window = now) = 0 := by
    rw [countP_eq_zero]
    intro c hc heq
    have hlt := hbefore c hc
    have heq : c.window = now := by simpa using heq
    unfold windowMs at hlt
    omega
  refine ⟨h.windowed.snoc _ ⟨Nat.le_refl _, Nat.lt_add_of_pos_right (by decide)⟩ (fun c hc => .inr (hbefore c hc))
    (by dsimp only; omega), ?_, fun hb => (by cases hb), ?_⟩
  · intro c hc
    rcases mem_append.mp hc with hc | hc
    · exact h.past c hc
    · exact mem_singleton.mp hc ▸ Nat.le_refl now
  · intro w hw
    rw [← some.inj hw]
    refine ⟨Nat.le_refl _, ?_, fun c hc => ?_⟩
    · rw [countP_append, hnone]
      simp
    · rcases mem_append.mp hc with hc | hc
      · exact .inr (hbefore c hc)
      · rw [mem_singleton.mp hc]
        exact .inl rfl

theorem Counted.joined {w : Window}
    (h : Counted limit cs (some w) now) (tier : Tier) (ip : String)
    (hopen : now < w.windowStartedAt + windowMs) (hroom : w.count < limit) :
    Counted limit (cs ++ [⟨tier, ip, now, w.windowStartedAt⟩])
      (some { w with count := w.count + 1 }) now := by
  obtain ⟨hstart, hcount, hwindows⟩ := h.current w rfl
  refine ⟨h.windowed.snoc _ ⟨hstart, hopen⟩ hwindows (by rw [hcount]; exact hroom), ?_,
    fun hb => (by cases hb), ?_⟩
  · intro c hc
    rcases mem_append.mp hc with hc | hc
    · exact h.past c hc
    · exact mem_singleton.mp hc ▸ Nat.le_refl now
  · intro w' hw'
    rw [← some.inj hw']
    refine ⟨hstart, ?_, fun c hc => ?_⟩
    · rw [countP_append, hcount]
      simp
    · rcases mem_append.mp hc with hc | hc
      · exact hwindows c hc
      · rw [mem_singleton.mp hc]
        exact .inl rfl

/-- A limiter counts the request in its bucket, or refuses it and leaves the bucket. -/
theorem limiter_counted {buckets : Buckets} {ip : String}
    (hlimit : 0 < limit) (tier : Tier) (h : Counted limit cs (buckets ip) now) :
    (∃ w, limiter limit buckets ip now = (.next, update buckets ip (some w)) ∧
        Counted limit (cs ++ [⟨tier, ip, now, w.windowStartedAt⟩]) (some w) now) ∨
      ∃ seconds, limiter limit buckets ip now = (.rateLimitExceeded seconds, buckets) := by
  unfold limiter
  cases hbucket : buckets ip with
  | none => exact .inl ⟨⟨1, now⟩, rfl, h.opened hlimit tier ip fun w hw => by
      rw [hbucket] at hw
      cases hw⟩
  | some w =>
    dsimp only
    rw [hbucket] at h
    by_cases hold : now - w.windowStartedAt ≥ windowMs
    · rw [if_pos hold]
      refine .inl ⟨⟨1, now⟩, rfl, h.opened hlimit tier ip fun w' hw' => ?_⟩
      rw [← some.inj hw']
      unfold windowMs at hold ⊢
      omega
    · rw [if_neg hold]
      by_cases hfull : w.count ≥ limit
      · rw [if_pos hfull]
        exact .inr ⟨_, rfl⟩
      · rw [if_neg hfull]
        refine .inl ⟨{ w with count := w.count + 1 }, rfl, h.joined tier ip ?_ (by omega)⟩
        unfold windowMs at hold ⊢
        have hstart := (h.current w rfl).1
        omega

/-- Every tier counts what it has handed on to every address. -/
def AllCounted (st : Limiters) (cs : List Charge) (now : ℕ) : Prop :=
  ∀ tier ip, Counted tier.limit (chargedTo tier ip cs) (st tier ip) now

theorem Tier.limit_pos (tier : Tier) : 0 < tier.limit := by
  cases tier <;> decide

theorem allCounted_step {st : Limiters} {rq : ApiRequest}
    (h : AllCounted st cs now) (hle : now ≤ rq.now) :
    AllCounted (rateLimiterMiddleware st rq).2 (cs ++ charge st rq) rq.now := by
  intro tier ip
  have hlater := (h tier ip).later hle
  unfold charge chargedTo
  cases htier : tierOf rq.path with
  | none =>
    unfold rateLimiterMiddleware
    rw [htier, append_nil]
    exact hlater
  | some tier' =>
    have hstep := limiter_counted tier'.limit_pos tier' ((h tier' rq.ip).later hle)
    unfold rateLimiterMiddleware
    rw [htier]
    rcases hstep with ⟨w, hlimiter, hcounted⟩ | ⟨seconds, hlimiter⟩
    · dsimp only
      rw [hlimiter]
      dsimp only
      rw [update_self, update_self, map_some, getD_some,
        filter_append]
      by_cases hsame : tier' = tier ∧ rq.ip = ip
      · obtain ⟨htier', hip⟩ := hsame
        subst htier'
        subst hip
        rw [update_self, update_self]
        simpa [chargedTo] using hcounted
      · have hbucket : update st tier' (update (st tier') rq.ip (some w)) tier ip =
            st tier ip := by
          by_cases htier' : tier = tier'
          · subst htier'
            rw [update_self, update_of_ne fun hip => hsame ⟨rfl, hip.symm⟩]
          · rw [update_of_ne htier']
        rw [hbucket]
        simpa [hsame, chargedTo] using hlater
    · dsimp only
      rw [hlimiter]
      dsimp only
      rw [update_eq_self, append_nil]
      exact hlater

/-- From empty limiters on, every tier keeps its windows for every address. -/
theorem charges_windowed {rqs : List ApiRequest}
    (hsorted : rqs.Pairwise fun rq rq' => rq.now ≤ rq'.now) (tier : Tier) (ip : String) :
    Windowed tier.limit (chargedTo tier ip (charges (fun _ _ => none) rqs)) := by
  have hgen : ∀ (rqs : List ApiRequest) (st : Limiters) (cs : List Charge) (now : ℕ),
      AllCounted st cs now → (rqs.Pairwise fun rq rq' => rq.now ≤ rq'.now) →
      (∀ rq ∈ rqs, now ≤ rq.now) →
      Windowed tier.limit (chargedTo tier ip (cs ++ charges st rqs)) := by
    intro rqs
    induction rqs with
    | nil =>
      intro st cs now h _ _
      rw [charges, append_nil]
      exact (h tier ip).windowed
    | cons rq rqs ih =>
      intro st cs now h hsorted hnow
      obtain ⟨hfirst, hrest⟩ := pairwise_cons.mp hsorted
      rw [charges, ← append_assoc]
      exact ih _ _ rq.now (allCounted_step h (hnow rq mem_cons_self)) hrest hfirst
  have hempty : AllCounted (fun _ _ => none) [] 0 := fun tier ip =>
    ⟨⟨fun c hc => (by cases hc), .nil, fun _ => Nat.zero_le _⟩, fun c hc => (by cases hc),
      fun _ => rfl, fun w hw => (by cases hw)⟩
  exact hgen rqs _ [] 0 hempty hsorted fun _ _ => Nat.zero_le _

/-! ## Routes -/

/-- A route of Express: a fixed path, and so many parameters after it. -/
structure Route where
  fixed : String
  params : ℕ
  deriving DecidableEq, Repr

/-- The rest of `path` after `fixed`, without regard to case. -/
def afterFixed : List Char → List Char → Option (List Char)
  | [], path => some path
  | _ :: _, [] => none
  | f :: fs, c :: cs => if c.toUpper = f.toUpper then afterFixed fs cs else none

/-- `/` and a parameter, so many times, and perhaps a last `/`. -/
def matchParams : ℕ → List Char → Bool
  | 0, path => path = [] || path = ['/']
  | n + 1, '/' :: path =>
    path.takeWhile (· ≠ '/') ≠ [] && matchParams n (path.dropWhile (· ≠ '/'))
  | _ + 1, _ => false

/-- The default routing sends the path to the route: case is ignored, and a slash at the end. -/
def Route.matches (route : Route) (path : List Char) : Bool :=
  match afterFixed route.fixed.toList path with
  | none => false
  | some rest => matchParams route.params rest

/-- The handlers with a tier of their own, and `resolve` beside `fire`. -/
inductive Handler
  | login
  | fire
  | resolve
  | receive
  deriving DecidableEq, Repr

/-- Where they are mounted. -/
def Handler.route : Handler → Route
  | .login => ⟨"/api/auth/login", 0⟩
  | .fire => ⟨"/api/triggers/fire", 2⟩
  | .resolve => ⟨"/api/triggers/resolve", 2⟩
  | .receive => ⟨"/api/applivery-webhook/receive", 1⟩

/-- Their tiers, by the comment on the limiter: `resolve` is "everything else". -/
def Handler.tier : Handler → Tier
  | .login => .login
  | .fire => .secretPath
  | .resolve => .defaultApi
  | .receive => .secretPath

/-- The path begins as the limiter spells it. -/
def Handler.Spelled (h : Handler) (path : List Char) : Prop :=
  match h with
  | .login => path = "/api/auth/login".toList
  | .fire => startsWith path "/api/triggers/fire/" = true
  | .resolve => startsWith path "/api/" = true
  | .receive => startsWith path "/api/applivery-webhook/receive/" = true

/-! ## Tiers and routes -/

section Routes

variable {path fixed rest : List Char} {start : String} {i : ℕ} {c d : Char}

theorem upper_of_afterFixed (h : afterFixed fixed path = some rest) (hc : fixed[i]? = some c) :
    ∃ c', path[i]? = some c' ∧ c'.toUpper = c.toUpper := by
  induction fixed generalizing path i with
  | nil => cases hc
  | cons f fs ih =>
    cases path with
    | nil => cases h
    | cons p ps =>
      unfold afterFixed at h
      split_ifs at h with hupper
      cases i with
      | zero =>
        rw [getElem?_cons_zero] at hc ⊢
        exact ⟨p, rfl, some.inj hc ▸ hupper⟩
      | succ i =>
        rw [getElem?_cons_succ] at hc ⊢
        exact ih h hc

theorem getElem?_of_startsWith (h : startsWith path start = true) (hd : start.toList[i]? = some d) :
    path[i]? = some d := by
  obtain ⟨rest, hrest⟩ := List.isPrefixOf_iff_prefix.mp h
  rw [← hrest, List.getElem?_append_left (List.getElem?_eq_some_iff.mp hd).1]
  exact hd

/-- A path that fits one fixed path does not begin like another. -/
theorem not_startsWith (start : String) (h : afterFixed fixed path = some rest) (i : ℕ) (hc : fixed[i]? = some c)
    (hd : start.toList[i]? = some d) (hne : d.toUpper ≠ c.toUpper) :
    startsWith path start = false := by
  cases hstart : startsWith path start with
  | false => rfl
  | true =>
    obtain ⟨c', hc', hupper⟩ := upper_of_afterFixed h hc
    rw [getElem?_of_startsWith hstart hd] at hc'
    exact absurd (some.inj hc' ▸ hupper) hne

theorem not_login (h : afterFixed fixed path = some rest) (i : ℕ) (hc : fixed[i]? = some c)
    (hd : "/api/auth/login".toList[i]? = some d) (hne : d.toUpper ≠ c.toUpper) :
    path ≠ "/api/auth/login".toList := by
  intro hpath
  obtain ⟨c', hc', hupper⟩ := upper_of_afterFixed h hc
  rw [hpath, hd] at hc'
  exact hne (some.inj hc' ▸ hupper)

/-- A path that is sent to a handler is charged to its tier exactly if it is spelled so. -/
theorem tierOf_iff_spelled {h : Handler} (hmatch : h.route.matches path = true) :
    tierOf path = some h.tier ↔ h.Spelled path := by
  obtain ⟨rest, hfixed⟩ : ∃ rest, afterFixed h.route.fixed.toList path = some rest := by
    unfold Route.matches at hmatch
    cases hafter : afterFixed h.route.fixed.toList path with
    | none =>
      rw [hafter] at hmatch
      cases hmatch
    | some rest => exact ⟨rest, rfl⟩
  unfold tierOf
  cases h with
  | login =>
    dsimp only [Handler.Spelled, Handler.tier]
    by_cases hpath : path = "/api/auth/login".toList
    · rw [if_pos hpath]
      exact iff_of_true rfl hpath
    · rw [if_neg hpath]
      refine iff_of_false (fun htier => ?_) hpath
      split_ifs at htier <;> cases htier
  | fire =>
    have hlogin := not_login hfixed 5 rfl rfl (by decide)
    have hreceive := not_startsWith "/api/applivery-webhook/receive/" hfixed 5 rfl rfl
      (by decide)
    dsimp only [Handler.Spelled, Handler.tier]
    rw [if_neg hlogin, hreceive, Bool.or_false]
    cases startsWith path "/api/triggers/fire/" <;> simp
  | resolve =>
    have hlogin := not_login hfixed 5 rfl rfl (by decide)
    have hreceive := not_startsWith "/api/applivery-webhook/receive/" hfixed 5 rfl rfl
      (by decide)
    have hfire := not_startsWith "/api/triggers/fire/" hfixed 14 rfl rfl (by decide)
    dsimp only [Handler.Spelled, Handler.tier]
    rw [if_neg hlogin, hreceive, hfire]
    cases startsWith path "/api/" <;> simp
  | receive =>
    have hlogin := not_login hfixed 6 rfl rfl (by decide)
    have hfire := not_startsWith "/api/triggers/fire/" hfixed 5 rfl rfl (by decide)
    dsimp only [Handler.Spelled, Handler.tier]
    rw [if_neg hlogin, hfire, Bool.false_or]
    cases startsWith path "/api/applivery-webhook/receive/" <;> simp

end Routes

/-- Every request that is sent to one of the handlers is charged to its tier, and every tier
hands on to every address at most its limit in a window and twice its limit in a minute. -/
structure Limited (rqs : List ApiRequest) : Prop where
  charged : ∀ rq ∈ rqs, ∀ h : Handler, h.route.matches rq.path = true →
    tierOf rq.path = some h.tier
  window : ∀ (tier : Tier) ip window, (chargedTo tier ip (charges (fun _ _ => none) rqs)).countP
    (fun c => c.window = window) ≤ tier.limit
  minute : ∀ (tier : Tier) ip start, (chargedTo tier ip (charges (fun _ _ => none) rqs)).countP
    (fun c => start ≤ c.now ∧ c.now ≤ start + windowMs) ≤ 2 * tier.limit

/-- **Main theorem.** For requests in the order of time, the limiter does that exactly if every
path that is sent to one of the handlers is spelled as the limiter spells it. -/
theorem limited_iff_spelled {rqs : List ApiRequest}
    (hsorted : rqs.Pairwise fun rq rq' => rq.now ≤ rq'.now) :
    Limited rqs ↔ ∀ rq ∈ rqs, ∀ h : Handler, h.route.matches rq.path = true →
      h.Spelled rq.path := by
  constructor
  · exact fun hlimited rq hrq h hmatch =>
      (tierOf_iff_spelled hmatch).mp (hlimited.charged rq hrq h hmatch)
  · intro hspelled
    have hwindowed := fun tier ip => charges_windowed hsorted tier ip
    exact ⟨fun rq hrq h hmatch => (tierOf_iff_spelled hmatch).mpr (hspelled rq hrq h hmatch),
      fun tier ip => (hwindowed tier ip).counted, fun tier ip => (hwindowed tier ip).minute⟩

/-- Two requests from one address, a login and a trigger. -/
def spelledRequests : List ApiRequest :=
  [⟨"10.0.0.1", "/api/auth/login".toList, 0⟩,
    ⟨"10.0.0.1", "/api/triggers/fire/t1/s1".toList, 40⟩]

theorem limited_iff_spelled_login : Limited spelledRequests :=
  (limited_iff_spelled (show spelledRequests.Pairwise _ by decide)).mpr (by
    intro rq hrq h
    simp only [spelledRequests, mem_cons, not_mem_nil, or_false] at hrq
    rcases hrq with hrq | hrq <;> rw [hrq] <;> cases h <;> intro hmatch <;>
      first
        | rfl
        | exact absurd hmatch (by decide))

/-- A login in capitals. -/
def capitalLogin : List ApiRequest :=
  [⟨"10.0.0.1", "/API/auth/login".toList, 0⟩]

/-- It is sent to the login handler, and no tier counts it. -/
theorem login_uncharged :
    Handler.login.route.matches "/API/auth/login".toList = true ∧
      tierOf "/API/auth/login".toList = none ∧
      charges (fun _ _ => none) capitalLogin = [] ∧ ¬Limited capitalLogin := by
  refine ⟨by decide, by decide, by decide, fun h => ?_⟩
  have hcharged := h.charged _ mem_cons_self .login (by decide)
  exact absurd hcharged (by decide)

end AppliverySoar.Requests
