import Mathlib.Data.List.Basic
import Mathlib.Data.List.Flatten

/-!
# A log read behind a cursor

A reader ships the items of a log in batches. It reads the items whose time is greater than
its cursor, ships them, and then moves the cursor to the time of the last one. Items are
added, with times that do not decrease, and removed between any two of its steps.

Results:
* `Inv.step`: what the reader knows of the log and of its shipments, in every run.
* `Good.step`: an item of the log is shipped or will be read, as long as every step is
  `Untied`: no item is added, after a read whose cursor is moved, with the time of the last
  item read.
* `untied_of_kept`: a step that is tied leaves an item that is not shipped and never will.
-/

namespace AppliverySoar.Feeds

open List

variable {α : Type} [DecidableEq α] {time : α → ℕ}

/-- How far the reader is: `found` is what it saw in the log. -/
inductive Stage (α : Type)
  | idle
  | read (found batch : List α)
  | shipped (found batch : List α)

/-- A log and its reader: the items, the cursor, the stage, the batches shipped, what the
reader had found each time it was done, and whether the cursor was ever not moved after
a shipment. -/
structure Feed (α : Type) where
  log : List α
  cursor : Option ℕ
  stage : Stage α
  shipments : List (List α)
  settled : List (List α)
  stuck : Prop

/-- An item that the reader has not passed. -/
def Behind (time : α → ℕ) (cursor : Option ℕ) (a : α) : Prop :=
  ∀ c, cursor = some c → c < time a

/-- How often an item was shipped. -/
def deliveries (shipments : List (List α)) (a : α) : ℕ :=
  shipments.countP fun batch => a ∈ batch

/-- An item that was neither in the log, nor seen by the reader, nor shipped. -/
structure Fresh (f : Feed α) (a : α) : Prop where
  log : a ∉ f.log
  shipments : ∀ batch ∈ f.shipments, a ∉ batch
  found : ∀ found batch, f.stage = .read found batch ∨ f.stage = .shipped found batch → a ∉ found

/-- An item is not older than those that the log had before. -/
structure Latest (time : α → ℕ) (f : Feed α) (a : α) : Prop where
  log : ∀ b ∈ f.log, time b ≤ time a
  found : ∀ found batch, f.stage = .read found batch ∨ f.stage = .shipped found batch →
    ∀ b ∈ found, time b ≤ time a

/-- What happens to a feed. -/
inductive Label (α : Type)
  | stay
  | add (a : α)
  | remove
  | read
  | skip
  | ship
  | move
  | abandon
  | lose

/-- The steps of a feed. -/
inductive Step (time : α → ℕ) : Label α → Feed α → Feed α → Prop
  | stay (f : Feed α) : Step time .stay f f
  | add {f : Feed α} {a : α} : Fresh f a → Latest time f a →
      Step time (.add a) f { f with log := f.log ++ [a] }
  | remove {f : Feed α} {log : List α} : log ⊆ f.log →
      Step time .remove f { f with log := log }
  | read {f : Feed α} {batch : List α} : f.stage = .idle → batch ≠ [] →
      (∀ a, a ∈ batch ↔ a ∈ f.log ∧ Behind time f.cursor a) →
      batch.Pairwise (fun a b => time a ≤ time b) →
      Step time .read f { f with stage := .read f.log batch }
  | skip {f : Feed α} : f.stage = .idle → (∀ a ∈ f.log, ¬ Behind time f.cursor a) →
      Step time .skip f { f with settled := f.settled ++ [f.log] }
  | ship {f : Feed α} {found batch : List α} : f.stage = .read found batch →
      Step time .ship f
        { f with stage := .shipped found batch, shipments := f.shipments ++ [batch] }
  | move {f : Feed α} {found batch : List α} : f.stage = .shipped found batch →
      Step time .move f
        { f with
          stage := .idle
          cursor := batch.getLast?.map time
          settled := f.settled ++ [found] }
  | abandon {f : Feed α} : (∀ found batch, f.stage ≠ .shipped found batch) →
      Step time .abandon f { f with stage := .idle }
  | lose {f : Feed α} {found batch : List α} : f.stage = .shipped found batch →
      Step time .lose f { f with stage := .idle, stuck := True }

/-- No item is added with the time of the cursor, and none has been added since the read, with
the time of the last item read, when the cursor moves there. -/
def Untied (time : α → ℕ) (f : Feed α) : Label α → Prop
  | .add a => Behind time f.cursor a
  | .move => ∀ found batch, f.stage = .shipped found batch → ∀ a ∈ f.log,
      batch.getLast?.map time = some (time a) → a ∈ found
  | _ => True

/-- Every item of the log is shipped, or will be read. -/
def Kept (time : α → ℕ) (f : Feed α) : Prop :=
  ∀ a ∈ f.log, 0 < deliveries f.shipments a ∨ Behind time f.cursor a

/-! ## Shipments -/

theorem deliveries_snoc (shipments : List (List α)) (batch : List α) (a : α) :
    deliveries (shipments ++ [batch]) a = deliveries shipments a + if a ∈ batch then 1 else 0 := by
  unfold deliveries
  rw [countP_append, countP_singleton]
  simp only [decide_eq_true_eq]

variable {shipments : List (List α)} {f : Feed α} {a : α}

theorem deliveries_pos_snoc (batch : List α)
    (h : 0 < deliveries shipments a) : 0 < deliveries (shipments ++ [batch]) a := by
  rw [deliveries_snoc]
  omega

theorem deliveries_fresh
    (h : ∀ batch ∈ shipments, a ∉ batch) : deliveries shipments a = 0 :=
  countP_eq_zero.mpr fun batch hbatch => by simpa using h batch hbatch

/-! ## What the reader knows -/

/-- A batch under way. -/
structure Batch (time : α → ℕ) (f : Feed α) (found batch : List α) : Prop where
  some_last : ∃ last, batch.getLast? = some last ∧ ∀ a ∈ batch, time a ≤ time last
  sub : ∀ a ∈ batch, a ∈ found ∧ Behind time f.cursor a
  rest : ∀ a ∈ found, a ∈ batch ∨ ¬ Behind time f.cursor a
  later : ∀ a ∈ f.log, a ∉ found →
    deliveries f.shipments a = 0 ∧ ∀ b ∈ found, time b ≤ time a

/-- The invariant of every run. -/
structure Inv (time : α → ℕ) (f : Feed α) : Prop where
  once : ¬ f.stuck → ∀ a, deliveries f.shipments a ≤ 1
  passed : ¬ f.stuck → ∀ a, 0 < deliveries f.shipments a → ¬ Behind time f.cursor a ∨
    ∃ found batch, f.stage = .shipped found batch ∧ a ∈ batch
  read : ∀ found batch, f.stage = .read found batch → Batch time f found batch
  shipped : ∀ found batch, f.stage = .shipped found batch →
    Batch time f found batch ∧ ∀ a ∈ batch, 0 < deliveries f.shipments a

/-- What holds as long as the steps are untied. -/
structure Good (time : α → ℕ) (f : Feed α) : Prop where
  kept : Kept time f
  found : ∀ found batch, f.stage = .read found batch ∨ f.stage = .shipped found batch →
    ∀ a ∈ found, a ∈ batch ∨ 0 < deliveries f.shipments a
  settled : ∀ found ∈ f.settled, ∀ a ∈ found, 0 < deliveries f.shipments a

theorem Batch.add {found batch : List α} (h : Batch time f found batch)
    (hfresh : ∀ batch ∈ f.shipments, a ∉ batch) (hlatest : ∀ b ∈ found, time b ≤ time a) :
    Batch time { f with log := f.log ++ [a] } found batch := by
  refine ⟨h.some_last, h.sub, h.rest, fun b hb hnot => ?_⟩
  rcases mem_append.mp hb with hb | hb
  · exact h.later b hb hnot
  · rw [mem_singleton.mp hb]
    exact ⟨deliveries_fresh hfresh, hlatest⟩

theorem Batch.remove {found batch log : List α} (h : Batch time f found batch)
    (hsub : log ⊆ f.log) : Batch time { f with log := log } found batch :=
  ⟨h.some_last, h.sub, h.rest, fun b hb hnot => h.later b (hsub hb) hnot⟩

omit [DecidableEq α] in
/-- The last item of a sorted batch is its latest. -/
theorem exists_last {batch : List α} (hne : batch ≠ [])
    (hsorted : batch.Pairwise fun a b => time a ≤ time b) :
    ∃ last, batch.getLast? = some last ∧ ∀ a ∈ batch, time a ≤ time last := by
  refine ⟨batch.getLast hne, getLast?_eq_some_getLast hne, fun a ha => ?_⟩
  rw [← dropLast_append_getLast hne] at ha hsorted
  rcases mem_append.mp ha with ha | ha
  · exact (pairwise_append.mp hsorted).2.2 a ha _ (mem_singleton_self _)
  · exact Nat.le_of_eq (congrArg time (mem_singleton.mp ha))

theorem Inv.start (hidle : f.stage = .idle) (hnone : f.shipments = []) :
    Inv time f := by
  refine ⟨fun _ a => ?_, fun _ a ha => ?_, fun found batch hstage => ?_,
    fun found batch hstage => ?_⟩
  · rw [hnone]
    exact Nat.zero_le 1
  · rw [hnone] at ha
    exact absurd ha (Nat.lt_irrefl 0)
  · cases hidle.symm.trans hstage
  · cases hidle.symm.trans hstage

theorem Good.start (hidle : f.stage = .idle) (hcursor : f.cursor = none)
    (hsettled : f.settled = []) : Good time f := by
  refine ⟨fun a _ => Or.inr fun c hc => ?_, fun found batch hstage => ?_, fun found hfound => ?_⟩
  · cases hcursor.symm.trans hc
  · rcases hstage with hstage | hstage <;> cases hidle.symm.trans hstage
  · rw [hsettled] at hfound
    cases hfound

variable {l : Label α}

theorem Inv.step {f f' : Feed α} (h : Inv time f) (hstep : Step time l f f') : Inv time f' := by
  cases hstep with
  | stay => exact h
  | @add _ a hfresh hlatest =>
    refine ⟨h.once, h.passed, fun found batch hstage => ?_, fun found batch hstage => ?_⟩
    · exact (h.read found batch hstage).add hfresh.shipments
        (hlatest.found found batch (Or.inl hstage))
    · exact ⟨(h.shipped found batch hstage).1.add hfresh.shipments
        (hlatest.found found batch (Or.inr hstage)), (h.shipped found batch hstage).2⟩
  | remove hsub =>
    refine ⟨h.once, h.passed, fun found batch hstage => ?_, fun found batch hstage => ?_⟩
    · exact (h.read found batch hstage).remove hsub
    · exact ⟨(h.shipped found batch hstage).1.remove hsub, (h.shipped found batch hstage).2⟩
  | @read _ batch hidle hne hmem hsorted =>
    refine ⟨h.once, fun hstuck a ha => ?_, ?_, ?_⟩
    · rcases h.passed hstuck a ha with hpassed | ⟨found, batch', hstage, -⟩
      · exact Or.inl hpassed
      · rw [hidle] at hstage
        cases hstage
    · rintro found batch' ⟨⟩
      refine ⟨exists_last hne hsorted, fun a ha => (hmem a).mp ha, fun a ha => ?_,
        fun a ha hnot => absurd ha hnot⟩
      by_cases hbehind : Behind time f.cursor a
      · exact Or.inl ((hmem a).mpr ⟨ha, hbehind⟩)
      · exact Or.inr hbehind
    · rintro found batch' ⟨⟩
  | skip hidle hnone =>
    refine ⟨h.once, h.passed, fun found batch hstage => ?_, fun found batch hstage => ?_⟩
    · cases hidle.symm.trans hstage
    · cases hidle.symm.trans hstage
  | @ship _ found batch hstage =>
    have hbatch := h.read found batch hstage
    have hnot : ¬ f.stuck → ∀ a ∈ batch, deliveries f.shipments a = 0 := fun hstuck a ha => by
      by_contra hpos
      rcases h.passed hstuck a (Nat.pos_of_ne_zero hpos) with hpassed | ⟨found', batch', hs, -⟩
      · exact hpassed (hbatch.sub a ha).2
      · rw [hstage] at hs
        cases hs
    refine ⟨fun hstuck a => ?_, fun hstuck a ha => ?_, ?_, ?_⟩
    · dsimp only
      rw [deliveries_snoc]
      by_cases ha : a ∈ batch
      · have hfirst : deliveries f.shipments a + 1 = 1 := congrArg (· + 1) (hnot hstuck a ha)
        rw [if_pos ha]
        exact Nat.le_of_eq hfirst
      · rw [if_neg ha]
        exact h.once hstuck a
    · by_cases hmem : a ∈ batch
      · exact Or.inr ⟨found, batch, rfl, hmem⟩
      · dsimp only at ha
        rw [deliveries_snoc, if_neg hmem] at ha
        rcases h.passed hstuck a ha with hpassed | ⟨found', batch', hs, -⟩
        · exact Or.inl hpassed
        · rw [hstage] at hs
          cases hs
    · rintro found' batch' ⟨⟩
    · rintro found' batch' ⟨⟩
      refine ⟨⟨hbatch.some_last, hbatch.sub, hbatch.rest, fun a ha hnotin => ?_⟩, fun a ha => ?_⟩
      · obtain ⟨hzero, hle⟩ := hbatch.later a ha hnotin
        refine ⟨?_, hle⟩
        dsimp only
        rw [deliveries_snoc, hzero, if_neg fun hmem => hnotin (hbatch.sub a hmem).1]
      · dsimp only
        rw [deliveries_snoc, if_pos ha]
        omega
  | @move _ found batch hstage =>
    obtain ⟨hbatch, -⟩ := h.shipped found batch hstage
    obtain ⟨last, hlast, hmax⟩ := hbatch.some_last
    have hlastmem : last ∈ batch := mem_of_getLast? hlast
    refine ⟨h.once, fun hstuck a ha => Or.inl fun hbehind => ?_, ?_, ?_⟩
    · have hlt : time last < time a := hbehind (time last) (by rw [hlast]; rfl)
      rcases h.passed hstuck a ha with hpassed | ⟨found', batch', hs, hmem⟩
      · refine hpassed fun c hc => ?_
        exact Nat.lt_trans ((hbatch.sub last hlastmem).2 c hc) hlt
      · rw [hstage] at hs
        cases hs
        exact absurd (hmax a hmem) (Nat.not_le_of_lt hlt)
    · rintro found' batch' ⟨⟩
    · rintro found' batch' ⟨⟩
  | abandon hnot =>
    refine ⟨h.once, fun hstuck a ha => ?_, ?_, ?_⟩
    · rcases h.passed hstuck a ha with hpassed | ⟨found', batch', hs, -⟩
      · exact Or.inl hpassed
      · exact absurd hs (hnot found' batch')
    · rintro found' batch' ⟨⟩
    · rintro found' batch' ⟨⟩
  | lose hstage =>
    refine ⟨fun hstuck => absurd trivial hstuck, fun hstuck => absurd trivial hstuck, ?_, ?_⟩
    · rintro found' batch' ⟨⟩
    · rintro found' batch' ⟨⟩

theorem Good.step {f f' : Feed α} (hinv : Inv time f) (h : Good time f)
    (huntied : Untied time f l) (hstep : Step time l f f') : Good time f' := by
  cases hstep with
  | stay => exact h
  | @add _ a hfresh hlatest =>
    refine ⟨fun b hb => ?_, h.found, h.settled⟩
    rcases mem_append.mp hb with hb | hb
    · exact h.kept b hb
    · rw [mem_singleton.mp hb]
      exact Or.inr huntied
  | remove hsub => exact ⟨fun a ha => h.kept a (hsub ha), h.found, h.settled⟩
  | @read _ batch hidle hne hmem hsorted =>
    refine ⟨h.kept, ?_, h.settled⟩
    intro found batch' hstage a ha
    rcases hstage with hstage | hstage
    · cases hstage
      rcases h.kept a ha with hpos | hbehind
      · exact Or.inr hpos
      · exact Or.inl ((hmem a).mpr ⟨ha, hbehind⟩)
    · cases hstage
  | skip hidle hnone =>
    refine ⟨h.kept, h.found, fun found hfound a ha => ?_⟩
    rcases mem_append.mp hfound with hfound | hfound
    · exact h.settled found hfound a ha
    · rw [mem_singleton.mp hfound] at ha
      exact (h.kept a ha).resolve_right (hnone a ha)
  | @ship _ found batch hstage =>
    refine ⟨fun a ha => ?_, ?_, fun found' hfound' a ha => ?_⟩
    · exact (h.kept a ha).imp_left (deliveries_pos_snoc batch)
    · intro found' batch' hstage' a ha
      rcases hstage' with hstage' | hstage'
      · cases hstage'
      · cases hstage'
        exact (h.found found batch (Or.inl hstage) a ha).imp_right (deliveries_pos_snoc batch)
    · exact deliveries_pos_snoc batch (h.settled found' hfound' a ha)
  | @move _ found batch hstage =>
    obtain ⟨hbatch, hpos⟩ := hinv.shipped found batch hstage
    obtain ⟨last, hlast, hmax⟩ := hbatch.some_last
    have hfound : ∀ a ∈ found, 0 < deliveries f.shipments a := fun a ha =>
      (h.found found batch (Or.inr hstage) a ha).elim (hpos a) id
    refine ⟨fun a ha => ?_, ?_, fun found' hfound' a ha => ?_⟩
    · by_cases hmem : a ∈ found
      · exact Or.inl (hfound a hmem)
      · refine Or.inr fun c hc => ?_
        -- an item added since the read is not older than the last one read, and not of its time
        dsimp only at hc
        rw [hlast] at hc
        obtain rfl := Option.some.inj hc
        have hle := (hbatch.later a ha hmem).2 last (hbatch.sub last (mem_of_getLast? hlast)).1
        refine Nat.lt_of_le_of_ne hle fun heq => hmem (huntied found batch hstage a ha ?_)
        rw [hlast, Option.map_some, heq]
    · intro found' batch' hstage'
      rcases hstage' with hstage' | hstage' <;> cases hstage'
    · rcases mem_append.mp hfound' with hfound' | hfound'
      · exact h.settled found' hfound' a ha
      · rw [mem_singleton.mp hfound'] at ha
        exact hfound a ha
  | abandon hnot =>
    refine ⟨h.kept, fun found' batch' hstage' => ?_, h.settled⟩
    rcases hstage' with hstage' | hstage' <;> cases hstage'
  | lose hstage =>
    refine ⟨h.kept, fun found' batch' hstage' => ?_, h.settled⟩
    rcases hstage' with hstage' | hstage' <;> cases hstage'

/-- A step that is tied leaves an item that is neither shipped nor still to be read. -/
theorem untied_of_kept {f f' : Feed α} (hinv : Inv time f)
    (hstep : Step time l f f') (hkept : Kept time f') : Untied time f l := by
  cases hstep with
  | @add _ a hfresh hlatest =>
    refine (hkept a (mem_append_right _ (mem_singleton_self a))).resolve_left ?_
    rw [deliveries_fresh hfresh.shipments]
    exact Nat.lt_irrefl 0
  | @move _ found batch hstage =>
    intro found' batch' hstage' a ha hlast
    rw [hstage] at hstage'
    cases hstage'
    by_contra hnot
    rcases hkept a ha with hpos | hbehind
    · rw [((hinv.shipped found batch hstage).1.later a ha hnot).1] at hpos
      exact Nat.lt_irrefl 0 hpos
    · exact Nat.lt_irrefl _ (hbehind (time a) hlast)
  | _ => trivial

end AppliverySoar.Feeds
