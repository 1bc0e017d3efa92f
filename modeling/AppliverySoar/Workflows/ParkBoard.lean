import AppliverySoar.Workflows.World

/-!
# Parked devices, abstractly

A board shows, for every run and device, the pending rows, the recorded result
and how far each operation that works for them is. `Board.Step` is what the
durable engine does to the board when a row is taken only after its chain has
recorded that it waits. `Board.Sound` is kept by every step, and says that at
most one operation works for a device at a time.

Results:
* `Sound.step`: every step keeps the board sound.
* `Sound.not_done_of_created`: a chain that may still record that it waits works
  for a device that has not been recorded as done.
-/

namespace AppliverySoar.Workflows

open Async

/-! ## The board -/

/-- What the tables show, and how far the operations are. `timer` is the claimed
row that an operation resumes, `parking k` says that a row of `k` has been
inserted and `'waiting'` not recorded since, and `done k` that `k` has been
recorded as done. -/
@[ext]
structure Board where
  pending : List PendingRow
  results : List RunResultRow
  actor : ℕ → Option (ChainKey × ChainPhase)
  timer : ℕ → Option PendingRow
  parking : ChainKey → Prop
  done : ChainKey → Prop

namespace Board

/-- Operation `i` is now in phase `p`. -/
def move (b : Board) (i : ℕ) (k : ChainKey) (p : ChainPhase) :
    ℕ → Option (ChainKey × ChainPhase) :=
  fun j => if j = i then some (k, p) else b.actor j

/-- Operations are started for the rows that `new` gives them. -/
def started (b : Board) (new : ℕ → Option PendingRow) : ℕ → Option (ChainKey × ChainPhase) :=
  fun j => ((new j).map fun r => (r.key, ChainPhase.running)).or (b.actor j)

variable {b : Board} {i j : ℕ}

theorem move_eq_some {k k' : ChainKey} {p p' : ChainPhase}
    (h : b.move i k p j = some (k', p')) :
    (j = i ∧ k' = k ∧ p' = p) ∨ (j ≠ i ∧ b.actor j = some (k', p')) := by
  unfold move at h
  split_ifs at h with hj
  · cases h
    exact .inl ⟨hj, rfl, rfl⟩
  · exact .inr ⟨hj, h⟩

theorem move_self (b : Board) (i : ℕ) (k : ChainKey) (p : ChainPhase) :
    b.move i k p i = some (k, p) :=
  if_pos rfl

theorem move_of_ne (b : Board) (k : ChainKey) (p : ChainPhase) (h : j ≠ i) :
    b.move i k p j = b.actor j :=
  if_neg h

variable {new : ℕ → Option PendingRow}

theorem started_eq_some {j : ℕ} {k : ChainKey}
    {p : ChainPhase} (h : b.started new j = some (k, p)) :
    (∃ r, new j = some r ∧ k = r.key ∧ p = .running) ∨ (new j = none ∧ b.actor j = some (k, p)) := by
  unfold started at h
  cases hnew : new j with
  | none =>
    rw [hnew] at h
    exact .inr ⟨rfl, h⟩
  | some r =>
    rw [hnew] at h
    cases h
    exact .inl ⟨r, rfl, rfl, rfl⟩

theorem started_of_none {j : ℕ} (h : new j = none) : b.started new j = b.actor j := by
  rw [started, h]
  rfl

/-! ## Steps -/

/-- Rows are handed to operations: `rows` become the rows `new` of operations
that had none, and leave the table or become claimed. -/
structure Start (b : Board) (rows : List PendingRow) (new : ℕ → Option PendingRow)
    (pending' : List PendingRow) (timer' : ℕ → Option PendingRow) : Prop where
  free : ∀ r ∈ rows, r ∈ b.pending ∧ r.claimed = false ∧ ¬b.parking r.key
  mem : ∀ j r, new j = some r → r ∈ rows
  inj : ∀ i j r, new i = some r → new j = some r → i = j
  handed : ∀ r ∈ rows, ∃ j, new j = some r
  fresh : ∀ j r, new j = some r → b.actor j = none ∧ b.timer j = none
  old : ∀ r ∈ pending', r.claimed = false → r ∈ b.pending ∧ r ∉ rows
  kept : ∀ r ∈ b.pending, r ∉ rows → r ∈ pending'
  timers : ∀ j r, timer' j = some r → b.timer j = some r ∨
    (new j = some r ∧ ∃ r' ∈ pending', r'.id = r.id ∧ r'.key = r.key)

/-- What the engine does to the board. -/
inductive Step (b : Board) : Board → Prop
  | idle : Step b b
  | create (i : ℕ) (k : ChainKey) (new : PendingRow) :
      b.actor i = some (k, .running) → new.key = k → new.claimed = false →
      Step b { b with
        pending := b.pending ++ [new]
        actor := b.move i k .created
        parking := fun k' => k' = k ∨ b.parking k' }
  | wait (i : ℕ) (k : ChainKey) (row : RunResultRow) :
      b.actor i = some (k, .created) → row.key = k → row.status = .waiting →
      Step b { b with
        results := upsertResult row b.results
        actor := b.move i k .parked
        parking := fun k' => k' ≠ k ∧ b.parking k' }
  | finish (i : ℕ) (k : ChainKey) (p : ChainPhase) (row : RunResultRow) :
      b.actor i = some (k, p) → p = .running ∨ p = .recorded → row.key = k →
      row.status = .done →
      Step b { b with
        results := upsertResult row b.results
        actor := b.move i k .recorded
        done := fun k' => k' = k ∨ b.done k' }
  | discard (i : ℕ) (row : PendingRow) (p : ChainPhase) :
      b.timer i = some row → b.actor i = some (row.key, p) → p = .parked ∨ p = .recorded →
      Step b { b with pending := b.pending.filter fun r => r.id ≠ row.id }
  | start (rows : List PendingRow) (new : ℕ → Option PendingRow) (pending' : List PendingRow)
      (timer' : ℕ → Option PendingRow) :
      b.Start rows new pending' timer' →
      Step b { b with pending := pending', actor := b.started new, timer := timer' }

/-! ## The invariant -/

/-- A row of `k` that no operation resumes. -/
def Free (b : Board) (k : ChainKey) : Prop :=
  ∃ r ∈ b.pending, r.key = k ∧ ∀ j r', b.timer j = some r' → r'.id ≠ r.id

/-- What is known of the rows: their ids are distinct, a row that is resumed is
claimed, and no two operations resume one row. -/
structure Tables (b : Board) : Prop where
  ids : ∀ r ∈ b.pending, ∀ r' ∈ b.pending, r.id = r'.id → r = r'
  taken : ∀ j r', b.timer j = some r' → ∀ r ∈ b.pending, r.id = r'.id → r.claimed = true
  once : ∀ i j r r', b.timer i = some r → b.timer j = some r' → r.id = r'.id → i = j

/-- At most one operation works for a device, and the tables say what it has
recorded. -/
structure Sound (b : Board) : Prop where
  oneRow : ∀ r ∈ b.pending, ∀ r' ∈ b.pending, r.claimed = false → r'.claimed = false →
    r.key = r'.key → r = r'
  noStale : ∀ j k, b.actor j ≠ some (k, .stale)
  busy : ∀ i j k p q, b.actor i = some (k, p) → b.actor j = some (k, q) → p ≠ .parked →
    q ≠ .parked → i = j
  idle : ∀ j k p, b.actor j = some (k, p) → p = .running ∨ p = .recorded →
    ∀ r ∈ b.pending, r.key = k → r.claimed = true
  made : ∀ j k, b.actor j = some (k, .created) →
    b.parking k ∧ ∃ r ∈ b.pending, r.claimed = false ∧ r.key = k
  held : ∀ j r p, b.timer j = some r → b.actor j = some (r.key, p) →
    p = .running ∨ p = .created → ∃ r' ∈ b.pending, r'.id = r.id ∧ r'.key = r.key
  waiting : ∀ row ∈ b.results, row.status = .waiting → b.Free row.key ∨
    ∃ j p, b.actor j = some (row.key, p) ∧ (p = .running ∨ p = .created)
  recorded : ∀ j k, b.actor j = some (k, .recorded) → ∀ row ∈ b.results, row.key = k →
    row.status = .done
  settled : ∀ k, b.done k → (∀ r ∈ b.pending, r.key = k → r.claimed = true) ∧
    ∀ j p, b.actor j = some (k, p) → p = .parked ∨ p = .recorded

end Board

namespace Board.Sound

open Board

variable {b : Board} (hb : b.Sound)
include hb

variable {i : ℕ} {k : ChainKey}

variable {p p₀ : ChainPhase} {row : RunResultRow}

theorem noStale_move (hp : p ≠ .stale) : ∀ j k', b.move i k p j ≠ some (k', .stale) := by
  intro j k' h
  rcases move_eq_some h with ⟨_, _, hstale⟩ | ⟨_, h⟩
  · exact hp hstale.symm
  · exact hb.noStale j k' h

/-- An operation that moves on was not parked, so it was the only one for its device. -/
theorem busy_move (hi : b.actor i = some (k, p₀)) (hp₀ : p₀ ≠ .parked) :
    ∀ j j' k' q q', b.move i k p j = some (k', q) → b.move i k p j' = some (k', q') →
      q ≠ .parked → q' ≠ .parked → j = j' := by
  intro j j' k' q q' h h' hq hq'
  rcases move_eq_some h with ⟨hj, hk, _⟩ | ⟨_, h₀⟩ <;>
    rcases move_eq_some h' with ⟨hj', hk', _⟩ | ⟨_, h₁⟩
  · rw [hj, hj']
  · rw [hk] at h₁
    rw [hj]
    exact hb.busy _ _ _ _ _ hi h₁ hp₀ hq'
  · rw [hk'] at h₀
    rw [hj']
    exact hb.busy _ _ _ _ _ h₀ hi hq hp₀
  · exact hb.busy _ _ _ _ _ h₀ h₁ hq hq'

theorem waiting_move (hi : b.actor i = some (k, p₀)) {r : RunResultRow} (hne : r.key ≠ k)
    (hr : r ∈ b.results) (hwaiting : r.status = .waiting) : b.Free r.key ∨
      ∃ j q, b.move i k p j = some (r.key, q) ∧ (q = .running ∨ q = .created) := by
  refine (hb.waiting r hr hwaiting).imp_right ?_
  rintro ⟨j, q, h, hq⟩
  refine ⟨j, q, (move_of_ne b k _ fun hj => ?_).trans h, hq⟩
  rw [hj, hi] at h
  cases h
  exact hne rfl

theorem create {new : PendingRow} (hi : b.actor i = some (k, .running))
    (hkey : new.key = k) (hclaimed : new.claimed = false) :
    Sound { b with
      pending := b.pending ++ [new]
      actor := b.move i k .created
      parking := fun k' => k' = k ∨ b.parking k' } := by
  have hmem : ∀ r, r ∈ b.pending ++ [new] ↔ r ∈ b.pending ∨ r = new := by simp
  constructor
  · intro r hr r' hr' hc hc' hrr'
    rcases (hmem r).mp hr with hr₀ | rfl <;> rcases (hmem r').mp hr' with hr₁ | rfl
    · exact hb.oneRow r hr₀ r' hr₁ hc hc' hrr'
    · rw [hb.idle i k _ hi (.inl rfl) r hr₀ (hrr'.trans hkey)] at hc
      cases hc
    · rw [hb.idle i k _ hi (.inl rfl) r' hr₁ (hrr'.symm.trans hkey)] at hc'
      cases hc'
    · rfl
  · exact hb.noStale_move (by simp)
  · exact hb.busy_move hi (by simp)
  · intro j k' p h hp r hr hrk
    rcases move_eq_some h with ⟨_, _, rfl⟩ | ⟨hj, h₀⟩
    · simp at hp
    · rcases (hmem r).mp hr with hr₀ | rfl
      · exact hb.idle j k' p h₀ hp r hr₀ hrk
      · have hpp : p ≠ .parked := by rcases hp with rfl | rfl <;> simp
        rw [← hrk, hkey] at h₀
        exact absurd (hb.busy _ _ _ _ _ h₀ hi hpp (by simp)) hj
  · intro j k' h
    rcases move_eq_some h with ⟨_, rfl, _⟩ | ⟨_, h⟩
    · exact ⟨.inl rfl, new, (hmem new).mpr (.inr rfl), hclaimed, hkey⟩
    · obtain ⟨hpark, r, hr, hrest⟩ := hb.made j k' h
      exact ⟨.inr hpark, r, (hmem r).mpr (.inl hr), hrest⟩
  · intro j r p hj h hp
    have hold : ∃ p, b.actor j = some (r.key, p) ∧ (p = .running ∨ p = .created) := by
      rcases move_eq_some h with ⟨rfl, hk, _⟩ | ⟨_, h⟩
      · exact ⟨_, hk ▸ hi, .inl rfl⟩
      · exact ⟨p, h, hp⟩
    obtain ⟨p', h', hp'⟩ := hold
    obtain ⟨r', hr', hrest⟩ := hb.held j r p' hj h' hp'
    exact ⟨r', (hmem r').mpr (.inl hr'), hrest⟩
  · intro row hrow hstatus
    rcases hb.waiting row hrow hstatus with ⟨r, hr, hrest⟩ | ⟨j, p, h, hp⟩
    · exact .inl ⟨r, (hmem r).mpr (.inl hr), hrest⟩
    · refine .inr ?_
      by_cases hj : j = i
      · subst hj
        rw [hi] at h
        cases h
        exact ⟨j, .created, move_self _ _ _ _, .inr rfl⟩
      · exact ⟨j, p, (move_of_ne b k _ hj).trans h, hp⟩
  · intro j k' h
    rcases move_eq_some h with ⟨_, _, hp⟩ | ⟨_, h⟩
    · cases hp
    · exact hb.recorded j k' h
  · intro k' hdone
    obtain ⟨hrows, hactors⟩ := hb.settled k' hdone
    have hne : k ≠ k' := by
      rintro rfl
      simpa using hactors i _ hi
    refine ⟨fun r hr hrk => ?_, fun j p h => ?_⟩
    · rcases (hmem r).mp hr with hr | rfl
      · exact hrows r hr hrk
      · exact absurd (hkey.symm.trans hrk) hne
    · rcases move_eq_some h with ⟨_, hk, _⟩ | ⟨_, h⟩
      · exact absurd hk.symm hne
      · exact hactors j p h

theorem wait (ht : b.Tables)
    (hi : b.actor i = some (k, .created)) (hkey : row.key = k) (hstatus : row.status = .waiting) :
    Sound { b with
      results := upsertResult row b.results
      actor := b.move i k .parked
      parking := fun k' => k' ≠ k ∧ b.parking k' } := by
  -- another operation that is not parked works for another device
  have hother : ∀ j k' p, j ≠ i → b.actor j = some (k', p) → p ≠ .parked → k' ≠ k := by
    rintro j k' p hj h hp rfl
    exact hj (hb.busy _ _ _ _ _ h hi hp (by simp))
  constructor
  · exact hb.oneRow
  · exact hb.noStale_move (by simp)
  · exact hb.busy_move hi (by simp)
  · intro j k' p h hp
    rcases move_eq_some h with ⟨_, _, rfl⟩ | ⟨_, h⟩
    · simp at hp
    · exact hb.idle j k' p h hp
  · intro j k' h
    rcases move_eq_some h with ⟨_, _, hp⟩ | ⟨hj, h⟩
    · cases hp
    · obtain ⟨hpark, hrow⟩ := hb.made j k' h
      exact ⟨⟨hother j k' _ hj h (by simp), hpark⟩, hrow⟩
  · intro j r p hj h hp
    rcases move_eq_some h with ⟨_, _, rfl⟩ | ⟨_, h⟩
    · simp at hp
    · exact hb.held j r p hj h hp
  · intro r hr hwaiting
    rcases mem_upsertResult.mp hr with rfl | ⟨hr, hne⟩
    · obtain ⟨_, r', hr', hclaimed, hrk⟩ := hb.made i k hi
      refine .inl ⟨r', hr', hrk.trans hkey.symm, fun j t hj hid => ?_⟩
      rw [ht.taken j t hj r' hr' hid.symm] at hclaimed
      cases hclaimed
    · exact hb.waiting_move hi (hkey ▸ hne) hr hwaiting
  · intro j k' h r hr hrk
    rcases move_eq_some h with ⟨_, _, hp⟩ | ⟨hj, h₀⟩
    · cases hp
    · rcases mem_upsertResult.mp hr with rfl | ⟨hr₀, _⟩
      · exact absurd (hrk.symm.trans hkey) (hother j k' _ hj h₀ (by simp))
      · exact hb.recorded j k' h₀ r hr₀ hrk
  · intro k' hdone
    obtain ⟨hrows, hactors⟩ := hb.settled k' hdone
    refine ⟨hrows, fun j p h => ?_⟩
    rcases move_eq_some h with ⟨_, _, rfl⟩ | ⟨_, h⟩
    · exact .inl rfl
    · exact hactors j p h

theorem finish
    (hi : b.actor i = some (k, p₀)) (hp₀ : p₀ = .running ∨ p₀ = .recorded) (hkey : row.key = k)
    (hstatus : row.status = .done) :
    Sound { b with
      results := upsertResult row b.results
      actor := b.move i k .recorded
      done := fun k' => k' = k ∨ b.done k' } := by
  have hp₀' : p₀ ≠ .parked := by rcases hp₀ with rfl | rfl <;> simp
  constructor
  · exact hb.oneRow
  · exact hb.noStale_move (by simp)
  · exact hb.busy_move hi hp₀'
  · intro j k' p h hp
    rcases move_eq_some h with ⟨rfl, rfl, _⟩ | ⟨_, h⟩
    · exact hb.idle j _ p₀ hi hp₀
    · exact hb.idle j k' p h hp
  · intro j k' h
    rcases move_eq_some h with ⟨_, _, hp⟩ | ⟨_, h⟩
    · cases hp
    · exact hb.made j k' h
  · intro j r p hj h hp
    rcases move_eq_some h with ⟨_, _, rfl⟩ | ⟨_, h⟩
    · simp at hp
    · exact hb.held j r p hj h hp
  · intro r hr hwaiting
    rcases mem_upsertResult.mp hr with rfl | ⟨hr, hne⟩
    · rw [hstatus] at hwaiting
      cases hwaiting
    · exact hb.waiting_move hi (hkey ▸ hne) hr hwaiting
  · intro j k' h r hr hrk
    rcases mem_upsertResult.mp hr with rfl | ⟨hr, hne⟩
    · exact hstatus
    · rcases move_eq_some h with ⟨_, rfl, _⟩ | ⟨_, h⟩
      · exact absurd (hrk.trans hkey.symm) hne
      · exact hb.recorded j k' h r hr hrk
  · intro k' hdone
    rcases hdone with rfl | hdone
    · refine ⟨hb.idle i k' p₀ hi hp₀, fun j p h => ?_⟩
      rcases move_eq_some h with ⟨_, _, rfl⟩ | ⟨hj, h⟩
      · exact .inr rfl
      · refine .inl (by_contra fun hp => hj ?_)
        exact hb.busy _ _ _ _ _ h hi hp hp₀'
    · obtain ⟨hrows, hactors⟩ := hb.settled k' hdone
      refine ⟨hrows, fun j p h => ?_⟩
      rcases move_eq_some h with ⟨_, _, rfl⟩ | ⟨_, h⟩
      · exact .inr rfl
      · exact hactors j p h

theorem discard (ht : b.Tables) {row : PendingRow}
    (htimer : b.timer i = some row) (hi : b.actor i = some (row.key, p₀))
    (hp₀ : p₀ = .parked ∨ p₀ = .recorded) :
    Sound { b with pending := b.pending.filter fun r => r.id ≠ row.id } := by
  have hmem : ∀ r, r ∈ b.pending.filter (fun r => r.id ≠ row.id) ↔
      r ∈ b.pending ∧ r.id ≠ row.id := by simp
  constructor
  · intro r hr r' hr'
    exact hb.oneRow r ((hmem r).mp hr).1 r' ((hmem r').mp hr').1
  · exact hb.noStale
  · exact hb.busy
  · intro j k p h hp r hr
    exact hb.idle j k p h hp r ((hmem r).mp hr).1
  · intro j k h
    obtain ⟨hpark, r, hr, hclaimed, hrk⟩ := hb.made j k h
    refine ⟨hpark, r, (hmem r).mpr ⟨hr, fun hid => ?_⟩, hclaimed, hrk⟩
    rw [ht.taken i row htimer r hr hid] at hclaimed
    cases hclaimed
  · intro j r p hj h hp
    obtain ⟨r', hr', hid, hrk⟩ := hb.held j r p hj h hp
    refine ⟨r', (hmem r').mpr ⟨hr', fun hid' => ?_⟩, hid, hrk⟩
    obtain rfl := ht.once j i r row hj htimer (hid.symm.trans hid')
    rw [htimer] at hj
    cases hj
    rw [hi] at h
    cases h
    rcases hp₀ with rfl | rfl <;> simp at hp
  · intro r hr hwaiting
    rcases hb.waiting r hr hwaiting with ⟨r', hr', hrk, hfree⟩ | hactor
    · exact .inl ⟨r', (hmem r').mpr ⟨hr', (hfree i row htimer).symm⟩, hrk, hfree⟩
    · exact .inr hactor
  · exact hb.recorded
  · intro k hdone
    obtain ⟨hrows, hactors⟩ := hb.settled k hdone
    exact ⟨fun r hr => hrows r ((hmem r).mp hr).1, hactors⟩

/-- The operations that work for the device of a row that can be taken are
parked. -/
theorem parked_of_row {r : PendingRow} (hr : r ∈ b.pending) (hclaimed : r.claimed = false)
    (hparking : ¬b.parking r.key) {j : ℕ} {p : ChainPhase} (h : b.actor j = some (r.key, p)) :
    p = .parked := by
  have hidle : p ≠ .running ∧ p ≠ .recorded := by
    constructor <;>
    · rintro rfl
      rw [hb.idle j r.key _ h (by simp) r hr rfl] at hclaimed
      cases hclaimed
  cases p with
  | running => exact absurd rfl hidle.1
  | created => exact absurd (hb.made j r.key h).1 hparking
  | parked => rfl
  | recorded => exact absurd rfl hidle.2
  | stale => exact absurd h (hb.noStale j r.key)

theorem start (ht : b.Tables) {rows : List PendingRow} {new : ℕ → Option PendingRow}
    {pending' : List PendingRow} {timer' : ℕ → Option PendingRow}
    (hs : b.Start rows new pending' timer') :
    Sound { b with pending := pending', actor := b.started new, timer := timer' } := by
  have hparked : ∀ j r, new j = some r → ∀ i p, b.actor i = some (r.key, p) → p = .parked := by
    intro j r hj i p h
    obtain ⟨hr, hclaimed, hparking⟩ := hs.free r (hs.mem j r hj)
    exact hb.parked_of_row hr hclaimed hparking h
  constructor
  · intro r hr r' hr' hc hc'
    exact hb.oneRow r (hs.old r hr hc).1 r' (hs.old r' hr' hc').1 hc hc'
  · intro j k h
    rcases started_eq_some h with ⟨_, _, _, hp⟩ | ⟨_, h⟩
    · cases hp
    · exact hb.noStale j k h
  · intro i j k p q h h' hp hq
    rcases started_eq_some h with ⟨r, hi, rfl, rfl⟩ | ⟨_, h⟩ <;>
      rcases started_eq_some h' with ⟨r', hj, hk, rfl⟩ | ⟨_, h'⟩
    · obtain ⟨hr, hc, _⟩ := hs.free r (hs.mem i r hi)
      obtain ⟨hr', hc', _⟩ := hs.free r' (hs.mem j r' hj)
      rw [hb.oneRow r hr r' hr' hc hc' hk] at hi
      exact hs.inj i j r' hi hj
    · exact absurd (hparked i r hi j q h') hq
    · rw [hk] at h
      exact absurd (hparked j r' hj i p h) hp
    · exact hb.busy _ _ _ _ _ h h' hp hq
  · intro j k p h hp r hr hrk
    by_contra hclaimed
    obtain ⟨hr₀, hnot⟩ := hs.old r hr (by simpa using hclaimed)
    rcases started_eq_some h with ⟨r', hj, rfl, _⟩ | ⟨_, h⟩
    · obtain ⟨hr', hc', _⟩ := hs.free r' (hs.mem j r' hj)
      rw [hb.oneRow r hr₀ r' hr' (by simpa using hclaimed) hc' hrk] at hnot
      exact hnot (hs.mem j r' hj)
    · exact hclaimed (hb.idle j k p h hp r hr₀ hrk)
  · intro j k h
    rcases started_eq_some h with ⟨_, _, _, hp⟩ | ⟨_, h⟩
    · cases hp
    · obtain ⟨hpark, r, hr, hclaimed, hrk⟩ := hb.made j k h
      refine ⟨hpark, r, hs.kept r hr fun hmem => ?_, hclaimed, hrk⟩
      exact (hs.free r hmem).2.2 (hrk ▸ hpark)
  · intro j r p hj h hp
    rcases hs.timers j r hj with hj | ⟨_, hr'⟩
    · have hnone : new j = none := by
        cases hnew : new j with
        | none => rfl
        | some r' =>
          rw [(hs.fresh j r' hnew).2] at hj
          cases hj
      rcases started_eq_some h with ⟨r', hnew, _⟩ | ⟨_, h⟩
      · rw [hnone] at hnew
        cases hnew
      · obtain ⟨r', hr', hid, hrk⟩ := hb.held j r p hj h hp
        refine ⟨r', hs.kept r' hr' fun hmem => ?_, hid, hrk⟩
        have hclaimed := ht.taken j r hj r' hr' hid
        rw [(hs.free r' hmem).2.1] at hclaimed
        cases hclaimed
    · exact hr'
  · intro row hrow hwaiting
    rcases hb.waiting row hrow hwaiting with ⟨r, hr, hrk, hfree⟩ | ⟨j, p, h, hp⟩
    · by_cases hmem : r ∈ rows
      · obtain ⟨j, hj⟩ := hs.handed r hmem
        refine .inr ⟨j, .running, ?_, .inl rfl⟩
        simp [started, hj, hrk]
      · refine .inl ⟨r, hs.kept r hr hmem, hrk, fun j r' hj hid => ?_⟩
        rcases hs.timers j r' hj with hj | ⟨hnew, _⟩
        · exact hfree j r' hj hid
        · have hr' := hs.mem j r' hnew
          rw [ht.ids r' (hs.free r' hr').1 r hr hid] at hr'
          exact hmem hr'
    · refine .inr ⟨j, p, ?_, hp⟩
      cases hnew : new j with
      | none => exact (started_of_none hnew).trans h
      | some r =>
        rw [(hs.fresh j r hnew).1] at h
        cases h
  · intro j k h
    rcases started_eq_some h with ⟨_, _, _, hp⟩ | ⟨_, h⟩
    · cases hp
    · exact hb.recorded j k h
  · intro k hdone
    obtain ⟨hrows, hactors⟩ := hb.settled k hdone
    refine ⟨fun r hr hrk => ?_, fun j p h => ?_⟩
    · by_contra hclaimed
      exact hclaimed (hrows r (hs.old r hr (by simpa using hclaimed)).1 hrk)
    · rcases started_eq_some h with ⟨r, hj, rfl, _⟩ | ⟨_, h⟩
      · obtain ⟨hr, hclaimed, _⟩ := hs.free r (hs.mem j r hj)
        rw [hrows r hr rfl] at hclaimed
        cases hclaimed
      · exact hactors j p h

/-- **Main theorem on the board**: every step keeps it sound. -/
theorem step (ht : b.Tables) {b' : Board} (h : Board.Step b b') : b'.Sound := by
  cases h with
  | idle => exact hb
  | create i k new hi hkey hclaimed => exact hb.create hi hkey hclaimed
  | wait i k row hi hkey hstatus => exact hb.wait ht hi hkey hstatus
  | finish i k p row hi hp hkey hstatus => exact hb.finish hi hp hkey hstatus
  | discard i row p htimer hi hp => exact hb.discard ht htimer hi hp
  | start rows new pending' timer' hs => exact hb.start ht hs

/-- A chain that has inserted its row works for a device that has not been
recorded as done. -/
theorem not_done_of_created {j : ℕ} (h : b.actor j = some (k, .created)) : ¬b.done k := by
  intro hdone
  simpa using (hb.settled k hdone).2 j _ h

end Board.Sound

end AppliverySoar.Workflows
