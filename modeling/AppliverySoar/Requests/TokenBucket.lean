import Mathlib.Algebra.Order.BigOperators.Group.List
import Mathlib.Data.List.Induction
import Mathlib.Tactic.Linarith
import Mathlib.Tactic.Ring

/-!
# The token bucket

`TokenBucket` (tokenBucket.ts, lines 7–41) keeps the requests to Applivery under a rate. A call
refills the bucket for the time since the last one, up to the capacity, and takes its tokens if
there are enough. Times are in milliseconds, the rate is per second, and both are exact.

Results:
* `keeps_run`: the level stays between zero and the capacity.
* `takenIn_run_le`: what is granted in an interval.
* `granted_iff_fits`: when a call is granted, by the room that windows have left.
* `consume_laws`: all of it, with what it means that a call is refused.
-/

namespace AppliverySoar.Requests

open List

/-! ## Model -/

structure TokenBucket where
  capacity : ℚ
  refillRatePerSec : ℚ
  tokens : ℚ
  lastRefill : ℚ

namespace TokenBucket

/-- `new TokenBucket(capacity, refillRatePerSec)`. -/
def create (capacity refillRatePerSec now : ℚ) : TokenBucket :=
  ⟨capacity, refillRatePerSec, capacity, now⟩

/-- `refill` (lines 35–40). -/
def refill (b : TokenBucket) (now : ℚ) : TokenBucket :=
  let elapsedSeconds := (now - b.lastRefill) / 1000
  { b with
    tokens := min b.capacity (b.tokens + elapsedSeconds * b.refillRatePerSec)
    lastRefill := now }

/-- `consume` (lines 19–26). -/
def consume (b : TokenBucket) (now tokensToConsume : ℚ) : Bool × TokenBucket :=
  let b := b.refill now
  if b.tokens ≥ tokensToConsume then (true, { b with tokens := b.tokens - tokensToConsume })
  else (false, b)

end TokenBucket

/-- `consume(tokens)` at a time. -/
structure Consume where
  time : ℚ
  tokens : ℚ

/-- A call and what it was told. -/
structure Consumed extends Consume where
  granted : Bool

namespace TokenBucket

variable (b : TokenBucket)

/-- The bucket after a call. -/
def next (c : Consume) : TokenBucket :=
  (b.consume c.time c.tokens).2

/-- What the calls are told. -/
def run : TokenBucket → List Consume → List Consumed
  | _, [] => []
  | b, c :: calls => ⟨c, (b.consume c.time c.tokens).1⟩ :: run (b.next c) calls

/-- The bucket after the calls. -/
def after (calls : List Consume) : TokenBucket :=
  calls.foldl next b

end TokenBucket

/-! ## Specification -/

/-- The tokens that a call has taken. -/
def Consumed.taken (o : Consumed) : ℚ :=
  if o.granted then o.tokens else 0

/-- What has been taken. -/
def taken (past : List Consumed) : ℚ :=
  (past.map Consumed.taken).sum

/-- What has been taken from the time `a` to the time `z`. -/
def takenIn (a z : ℚ) (past : List Consumed) : ℚ :=
  taken (past.filter fun o => a ≤ o.time && o.time ≤ z)

section Spec

variable (c r start : ℚ)

/-- The tokens accrued at a time, capped after each call; the last call comes first. -/
def accrued : List Consumed → ℚ → ℚ
  | [], now => min c (c + r * ((now - start) / 1000))
  | o :: earlier, now => min c (accrued earlier o.time - o.taken + r * ((now - o.time) / 1000))

/-- The calls come one after another. -/
def InOrder (calls : List Consume) : Prop :=
  (start :: calls.map Consume.time).Pairwise (· ≤ ·)

end Spec

/-! ## One call -/

section Call

variable {b : TokenBucket} {c r : ℚ} {call : Consume}

/-- A call and its answer. -/
def TokenBucket.answered (b : TokenBucket) (call : Consume) : Consumed :=
  ⟨call, (b.consume call.time call.tokens).1⟩

/-- The level is between zero and the capacity. -/
structure Keeps (c r : ℚ) (b : TokenBucket) : Prop where
  capacity : b.capacity = c
  rate : b.refillRatePerSec = r
  nonneg : 0 ≤ b.tokens
  le_capacity : b.tokens ≤ c

theorem refill_tokens (h : Keeps c r b) (now : ℚ) :
    (b.refill now).tokens = min c (b.tokens + r * ((now - b.lastRefill) / 1000)) := by
  rw [TokenBucket.refill, h.capacity, h.rate, mul_comm r]

theorem next_lastRefill (b : TokenBucket) (call : Consume) :
    (b.next call).lastRefill = call.time := by
  unfold TokenBucket.next TokenBucket.consume
  dsimp only
  split_ifs <;> rfl

theorem consume_of_le (h : call.tokens ≤ (b.refill call.time).tokens) :
    b.consume call.time call.tokens = (true,
      { b.refill call.time with tokens := (b.refill call.time).tokens - call.tokens }) :=
  if_pos h

theorem consume_of_lt (h : (b.refill call.time).tokens < call.tokens) :
    b.consume call.time call.tokens = (false, b.refill call.time) :=
  if_neg (not_le.mpr h)

/-- A call takes what it is granted from the level to which it has refilled the bucket. -/
theorem next_tokens (b : TokenBucket) (call : Consume) :
    (b.next call).tokens = (b.refill call.time).tokens - (b.answered call).taken := by
  rw [TokenBucket.next, TokenBucket.answered, Consumed.taken]
  rcases le_or_gt call.tokens (b.refill call.time).tokens with h | h
  · rw [consume_of_le h]
    rfl
  · rw [consume_of_lt h]
    exact (sub_zero (b.refill call.time).tokens).symm

theorem taken_le (hlevel : 0 ≤ (b.refill call.time).tokens) :
    (b.answered call).taken ≤ (b.refill call.time).tokens := by
  rw [TokenBucket.answered, Consumed.taken]
  rcases le_or_gt call.tokens (b.refill call.time).tokens with h | h
  · rw [consume_of_le h]
    exact h
  · rw [consume_of_lt h]
    exact hlevel

theorem taken_nonneg (o : Consumed) (hk : 0 ≤ o.tokens) : 0 ≤ o.taken := by
  unfold Consumed.taken
  split_ifs
  · exact hk
  · exact le_rfl

theorem refused_iff (b : TokenBucket) (call : Consume) :
    (b.consume call.time call.tokens).1 = false ↔ (b.refill call.time).tokens < call.tokens := by
  rcases le_or_gt call.tokens (b.refill call.time).tokens with h | h
  · rw [consume_of_le h]
    exact iff_of_false (fun h => nomatch h) (not_lt.mpr h)
  · rw [consume_of_lt h]
    exact iff_of_true rfl h

theorem accrues (hr : 0 ≤ r) {since now : ℚ} (htime : since ≤ now) :
    0 ≤ r * ((now - since) / 1000) :=
  mul_nonneg hr (div_nonneg (sub_nonneg.mpr htime) (by norm_num))

theorem keeps_next (h : Keeps c r b) (hr : 0 ≤ r) (hk : 0 ≤ call.tokens)
    (htime : b.lastRefill ≤ call.time) : Keeps c r (b.next call) := by
  have hgain := accrues hr htime
  have hlevel := refill_tokens h call.time
  have hnonneg : 0 ≤ (b.refill call.time).tokens := by
    rw [hlevel]
    exact le_min (h.nonneg.trans h.le_capacity) (add_nonneg h.nonneg hgain)
  have hle : (b.refill call.time).tokens ≤ c := hlevel ▸ min_le_left _ _
  have htaken := taken_le hnonneg
  have htaken0 := taken_nonneg (b.answered call) hk
  refine ⟨?_, ?_, ?_, ?_⟩
  · unfold TokenBucket.next TokenBucket.consume
    dsimp only
    split_ifs <;> exact h.capacity
  · unfold TokenBucket.next TokenBucket.consume
    dsimp only
    split_ifs <;> exact h.rate
  · rw [next_tokens]
    linarith
  · rw [next_tokens]
    linarith

end Call

/-! ## Runs -/

section Runs

variable {c r start a z k : ℚ} {calls : List Consume} {call : Consume} {past : List Consumed}

theorem run_concat (b : TokenBucket) (calls : List Consume) (call : Consume) :
    b.run (calls ++ [call]) = b.run calls ++ [(b.after calls).answered call] := by
  induction calls generalizing b with
  | nil => rfl
  | cons first calls ih => exact congrArg (b.answered first :: ·) (ih (b.next first))

theorem after_concat (b : TokenBucket) (calls : List Consume) (call : Consume) :
    b.after (calls ++ [call]) = (b.after calls).next call := by
  rw [TokenBucket.after, foldl_concat]
  rfl

theorem inOrder_concat (h : InOrder start (calls ++ [call])) :
    InOrder start calls ∧ start ≤ call.time ∧ ∀ earlier ∈ calls, earlier.time ≤ call.time := by
  unfold InOrder at h
  rw [map_append, ← cons_append, pairwise_append] at h
  have hlast := fun t ht => h.2.2 t ht call.time mem_cons_self
  exact ⟨h.1, hlast start mem_cons_self, fun earlier he =>
    hlast _ (mem_cons_of_mem _ (mem_map_of_mem he))⟩

theorem lastRefill_after (h : InOrder start calls) {now : ℚ} (hstart : start ≤ now)
    (hcalls : ∀ earlier ∈ calls, earlier.time ≤ now) :
    ((TokenBucket.create c r start).after calls).lastRefill ≤ now := by
  induction calls using reverseRecOn with
  | nil => exact hstart
  | append_singleton calls last ih =>
    rw [after_concat, next_lastRefill]
    exact hcalls last (mem_append_right _ mem_cons_self)

/-- **The level** stays between zero and the capacity. -/
theorem keeps_run (hc : 0 ≤ c) (hr : 0 ≤ r) (hk : ∀ call ∈ calls, 0 ≤ call.tokens)
    (horder : InOrder start calls) : Keeps c r ((TokenBucket.create c r start).after calls) := by
  induction calls using reverseRecOn with
  | nil => exact ⟨rfl, rfl, hc, le_rfl⟩
  | append_singleton calls call ih =>
    obtain ⟨hbefore, hstart, hcalls⟩ := inOrder_concat horder
    rw [after_concat]
    exact keeps_next (ih (fun e he => hk e (mem_append_left _ he)) hbefore) hr
      (hk call (mem_append_right _ mem_cons_self))
      (lastRefill_after hbefore hstart hcalls)

/-! ## Intervals -/

theorem taken_concat (past : List Consumed) (o : Consumed) :
    taken (past ++ [o]) = taken past + o.taken := by
  rw [taken, map_append, sum_append]
  exact congrArg (taken past + ·) (add_zero o.taken)

theorem takenIn_concat (past : List Consumed) (o : Consumed) :
    takenIn a z (past ++ [o]) =
      takenIn a z past + if a ≤ o.time ∧ o.time ≤ z then o.taken else 0 := by
  rw [takenIn, takenIn, filter_append]
  by_cases h : a ≤ o.time ∧ o.time ≤ z
  · rw [if_pos h, filter_cons_of_pos (by simp [h]), filter_nil, taken_concat]
  · rw [if_neg h, filter_cons_of_neg (by simpa using h), filter_nil, append_nil,
      add_zero]

/-- What an interval has seen: nothing before it; inside it, what was taken and what is left is
at most a full bucket and what has accrued since; and no more behind it. -/
structure Amortised (c r a z : ℚ) (b : TokenBucket) (past : List Consumed) : Prop where
  before : b.lastRefill < a → takenIn a z past = 0
  inside : a ≤ b.lastRefill → b.lastRefill ≤ z →
    takenIn a z past + b.tokens ≤ c + r * ((b.lastRefill - a) / 1000)
  total : takenIn a z past ≤ c + r * ((z - a) / 1000)

/-- The step: inside the interval a call moves tokens from the level to what was taken. -/
theorem Amortised.next {b : TokenBucket} (h : Amortised c r a z b past) (hb : Keeps c r b)
    (hr : 0 ≤ r) (hk : 0 ≤ call.tokens) (htime : b.lastRefill ≤ call.time) :
    Amortised c r a z (b.next call) (past ++ [b.answered call]) := by
  have hlevel := refill_tokens hb call.time
  have hcap : (b.refill call.time).tokens ≤ c := hlevel ▸ min_le_left _ _
  have hgain : (b.refill call.time).tokens ≤
      b.tokens + r * ((call.time - b.lastRefill) / 1000) := hlevel ▸ min_le_right _ _
  have hnext := next_tokens b call
  have hnonneg := (keeps_next hb hr hk htime).nonneg
  -- what is taken in the interval and left in the bucket, when the call is in it
  have hinside : a ≤ call.time → call.time ≤ z →
      takenIn a z past + (b.refill call.time).tokens ≤ c + r * ((call.time - a) / 1000) := by
    intro ha hz
    rcases lt_or_ge b.lastRefill a with hlast | hlast
    · rw [h.before hlast, zero_add]
      linarith [accrues hr ha]
    · have hin := h.inside hlast (htime.trans hz)
      have hsplit : r * ((call.time - a) / 1000) = r * ((b.lastRefill - a) / 1000) +
          r * ((call.time - b.lastRefill) / 1000) := by ring
      linarith
  refine ⟨fun hlast => ?_, fun hlast hz => ?_, ?_⟩
  · rw [next_lastRefill] at hlast
    rw [takenIn_concat, h.before (htime.trans_lt hlast),
      if_neg fun hin => absurd hin.1 (not_le.mpr hlast), add_zero]
  · rw [next_lastRefill] at hlast hz
    rw [takenIn_concat, if_pos ⟨hlast, hz⟩, next_lastRefill, hnext]
    linarith [hinside hlast hz]
  · rw [takenIn_concat]
    split_ifs with hin
    · have hstep := hinside hin.1 hin.2
      have hz : call.time ≤ z := hin.2
      have hrest : r * ((call.time - a) / 1000) ≤ r * ((z - a) / 1000) :=
        mul_le_mul_of_nonneg_left (by linarith) hr
      change takenIn a z past + (b.answered call).taken ≤ _
      linarith
    · rw [add_zero]
      exact h.total

/-- **What is granted in an interval** is at most a full bucket and what accrues in it. -/
theorem takenIn_run_le (hc : 0 ≤ c) (hr : 0 ≤ r) (hk : ∀ call ∈ calls, 0 ≤ call.tokens)
    (horder : InOrder start calls) (haz : a ≤ z) :
    takenIn a z ((TokenBucket.create c r start).run calls) ≤ c + r * ((z - a) / 1000) := by
  suffices h : Amortised c r a z ((TokenBucket.create c r start).after calls)
      ((TokenBucket.create c r start).run calls) from h.total
  induction calls using reverseRecOn with
  | nil =>
    refine ⟨fun _ => rfl, fun hlast _ => ?_, ?_⟩
    · have hgain : 0 ≤ r * ((start - a) / 1000) := accrues hr hlast
      show (0 : ℚ) + c ≤ c + r * ((start - a) / 1000)
      linarith
    · show (0 : ℚ) ≤ c + r * ((z - a) / 1000)
      linarith [accrues hr haz]
  | append_singleton calls call ih =>
    obtain ⟨hbefore, hstart, hcalls⟩ := inOrder_concat horder
    have hk' := fun e he => hk e (mem_append_left _ he)
    rw [after_concat, run_concat]
    exact (ih hk' hbefore).next (keeps_run hc hr hk' hbefore) hr
      (hk call (mem_append_right _ mem_cons_self))
      (lastRefill_after hbefore hstart hcalls)

/-! ## Refusals -/

theorem refill_tokens_eq_accrued (hc : 0 ≤ c) (hr : 0 ≤ r)
    (hk : ∀ call ∈ calls, 0 ≤ call.tokens) (horder : InOrder start calls) (now : ℚ) :
    (((TokenBucket.create c r start).after calls).refill now).tokens =
      accrued c r start ((TokenBucket.create c r start).run calls).reverse now := by
  induction calls using reverseRecOn generalizing now with
  | nil => exact refill_tokens ⟨rfl, rfl, hc, le_rfl⟩ now
  | append_singleton calls call ih =>
    obtain ⟨hbefore, -, -⟩ := inOrder_concat horder
    have hk' := fun e he => hk e (mem_append_left _ he)
    rw [refill_tokens (keeps_run hc hr hk horder), after_concat, next_tokens, next_lastRefill,
      ih hk' hbefore, run_concat, reverse_append]
    rfl

/-- What may still be taken at a time from which `since` was the first moment. -/
def roomSince (c r now since : ℚ) (past : List Consumed) : ℚ :=
  c + r * ((now - since) / 1000) - taken past

/-- The tokens fit into the windows that end now: the one of now, those that began with an
earlier call, and the one that began with the bucket. -/
structure Fits (c r start now k : ℚ) (past : List Consumed) : Prop where
  capacity : k ≤ c
  call : ∀ later o earlier, past = later ++ o :: earlier →
    k ≤ roomSince c r now o.time (later ++ [o])
  start : k ≤ roomSince c r now start past

theorem roomSince_cons (now since : ℚ) (o : Consumed) (later : List Consumed) :
    roomSince c r now since (o :: later) =
      roomSince c r o.time since later - o.taken + r * ((now - o.time) / 1000) := by
  have htaken : taken (o :: later) = o.taken + taken later := sum_cons
  rw [roomSince, roomSince, htaken]
  ring

/-- **The level** is the least room that a window has left. -/
theorem le_accrued_iff {now : ℚ} : k ≤ accrued c r start past now ↔ Fits c r start now k past := by
  induction past generalizing now k with
  | nil =>
    have hroom : roomSince c r now start [] = c + r * ((now - start) / 1000) := sub_zero _
    rw [accrued, le_min_iff]
    refine ⟨fun h => ⟨h.1, fun later o earlier hnil => ?_, hroom ▸ h.2⟩,
      fun h => ⟨h.capacity, hroom ▸ h.start⟩⟩
    exact absurd hnil.symm (append_ne_nil_of_right_ne_nil later (cons_ne_nil o earlier))
  | cons o earlier ih =>
    -- what has to fit at the time of the call `o`
    have hshift : ∀ since later, k ≤ roomSince c r now since (o :: later) ↔
        k + o.taken - r * ((now - o.time) / 1000) ≤ roomSince c r o.time since later := by
      intro since later
      rw [roomSince_cons]
      constructor <;> intro h <;> linarith
    have hown : k ≤ roomSince c r now o.time [o] ↔
        k + o.taken - r * ((now - o.time) / 1000) ≤ c := by
      rw [hshift]
      have hroom : roomSince c r o.time o.time [] = c := by
        rw [roomSince, sub_self, zero_div, mul_zero, add_zero]
        exact sub_zero c
      rw [hroom]
    have hlevel : k ≤ accrued c r start earlier o.time - o.taken +
        r * ((now - o.time) / 1000) ↔
        Fits c r start o.time (k + o.taken - r * ((now - o.time) / 1000)) earlier := by
      rw [← ih]
      constructor <;> intro h <;> linarith
    rw [accrued, le_min_iff, hlevel]
    refine ⟨fun h => ⟨h.1, fun later o' early hsplit => ?_, (hshift start earlier).mpr h.2.start⟩,
      fun h => ⟨h.capacity, hown.mp (h.call [] o earlier rfl), fun later o' early hsplit => ?_,
        (hshift start earlier).mp h.start⟩⟩
    · cases later with
      | nil =>
        obtain ⟨rfl, -⟩ := List.cons.inj hsplit
        exact hown.mpr h.2.capacity
      | cons first later =>
        obtain ⟨rfl, hrest⟩ := List.cons.inj hsplit
        exact (hshift o'.time (later ++ [o'])).mpr (h.2.call later o' early hrest)
    · exact (hshift o'.time (later ++ [o'])).mp
        (h.call (o :: later) o' early (congrArg (o :: ·) hsplit))

end Runs

/-- **The token bucket**, over any calls one after another: its level, what it grants in an
interval, and when it refuses a call. -/
theorem consume_laws {c r start : ℚ} {calls : List Consume} (hc : 0 < c) (hr : 0 ≤ r)
    (hk : ∀ call ∈ calls, 0 ≤ call.tokens) (horder : InOrder start calls) :
    (∀ before, before <+: calls →
      0 ≤ ((TokenBucket.create c r start).after before).tokens ∧
        ((TokenBucket.create c r start).after before).tokens ≤ c) ∧
    (∀ a z, a ≤ z →
      takenIn a z ((TokenBucket.create c r start).run calls) ≤ c + r * ((z - a) / 1000)) ∧
    ∀ before call later, calls = before ++ call :: later →
      ((((TokenBucket.create c r start).after before).consume call.time call.tokens).1 = false ↔
        accrued c r start ((TokenBucket.create c r start).run before).reverse call.time <
          call.tokens) := by
  have hpart : ∀ before, before <+: calls →
      (∀ call ∈ before, 0 ≤ call.tokens) ∧ InOrder start before := by
    rintro before ⟨later, rfl⟩
    refine ⟨fun call hcall => hk call (mem_append_left _ hcall), ?_⟩
    unfold InOrder at horder ⊢
    rw [map_append, ← cons_append] at horder
    exact (pairwise_append.mp horder).1
  refine ⟨fun before hbefore => ?_, fun a z haz => takenIn_run_le hc.le hr hk horder haz, ?_⟩
  · obtain ⟨hk', horder'⟩ := hpart before hbefore
    have hkeeps := keeps_run hc.le hr hk' horder'
    exact ⟨hkeeps.nonneg, hkeeps.le_capacity⟩
  · intro before call later hcalls
    obtain ⟨hk', horder'⟩ := hpart before ⟨call :: later, hcalls.symm⟩
    rw [refused_iff, refill_tokens_eq_accrued hc.le hr hk' horder']

/-- A bucket of two tokens and one a second: the third call within a second is refused. -/
theorem consume_laws_burst :
    ((TokenBucket.create 2 1 0).run [⟨0, 1⟩, ⟨0, 1⟩, ⟨500, 1⟩, ⟨1500, 1⟩]).map
      Consumed.granted = [true, true, false, true] ∧
    takenIn 0 1500 ((TokenBucket.create 2 1 0).run [⟨0, 1⟩, ⟨0, 1⟩, ⟨500, 1⟩, ⟨1500, 1⟩]) ≤
      2 + 1 * ((1500 - 0) / 1000) :=
  ⟨by decide +kernel, (consume_laws (by norm_num) (by norm_num) (by decide +kernel)
    (by unfold InOrder; decide +kernel)).2.1 0 1500 (by norm_num)⟩

/-- **A call is granted** exactly if its tokens fit into every window that ends with it. -/
theorem granted_iff_fits {c r start : ℚ} {calls : List Consume} (hc : 0 ≤ c) (hr : 0 ≤ r)
    (hk : ∀ call ∈ calls, 0 ≤ call.tokens) (horder : InOrder start calls) (call : Consume) :
    (((TokenBucket.create c r start).after calls).consume call.time call.tokens).1 = true ↔
      Fits c r start call.time call.tokens ((TokenBucket.create c r start).run calls).reverse := by
  rw [← Bool.not_eq_false, refused_iff, refill_tokens_eq_accrued hc hr hk horder, not_lt,
    le_accrued_iff]

theorem granted_iff_fits_burst : ¬Fits 2 1 0 500 1
    ((TokenBucket.create 2 1 0).run [⟨0, 1⟩, ⟨0, 1⟩]).reverse :=
  fun h => absurd ((granted_iff_fits (by norm_num) (by norm_num) (by decide +kernel)
    (by unfold InOrder; decide +kernel) ⟨500, 1⟩).mpr h) (by decide +kernel)

end AppliverySoar.Requests
