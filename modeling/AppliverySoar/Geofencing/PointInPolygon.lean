import AppliverySoar.Compliance.Conditions
import AppliverySoar.Lists.CyclicParity
import Mathlib.Tactic.FieldSimp
import Mathlib.Tactic.Ring

/-!
# Points in polygons

`pointInPolygon` (geofence.service.ts, lines 64–75), over exact numbers. The
model of the conditions divides as Lean does, where a division by zero is zero;
`checkedPointInPolygon` is the same loop with a division that fails there.

Results:
* `checkedPointInPolygon_eq`: no division by zero is reached.
* `pointInPolygon_eq_cycleParity`: the answer is the parity of the closed walk
  along the ring, so neither its start nor its direction matters.
* `pointInPolygon_laws`: the answers for other rings of the same polygon, for a
  translated polygon and for the parts of a polygon.
-/

namespace AppliverySoar.Geofencing

open Compliance AppliverySoar.Lists

/-! ## Model -/

/-- A division that fails at zero. -/
def checkedDiv (a b : ℚ) : Option ℚ :=
  if b = 0 then none else some (a / b)

/-- `intersects`: the position of the edge is computed, and the division done, only when the edge
goes past the point's latitude. -/
def checkedIntersects (p i j : Point) : Option Bool :=
  if decide (i.lat > p.lat) != decide (j.lat > p.lat) then
    (checkedDiv ((j.lng - i.lng) * (p.lat - i.lat)) (j.lat - i.lat)).map fun d =>
      decide (p.lng < d + i.lng)
  else
    some false

/-- The loop of `pointInPolygon` from the corner `j` on. -/
def checkedPointInPolygonFrom (p : Point) (inside : Bool) (j : Point) : List Point → Option Bool
  | [] => some inside
  | i :: ring => do
    let intersects ← checkedIntersects p i j
    checkedPointInPolygonFrom p (if intersects then !inside else inside) i ring

/-- `pointInPolygon`. -/
def checkedPointInPolygon (p : Point) (ring : List Point) : Option Bool :=
  match ring.getLast? with
  | none => some false
  | some last => checkedPointInPolygonFrom p false last ring

/-- The point moved by `d`. -/
def translate (d p : Point) : Point :=
  ⟨p.lat + d.lat, p.lng + d.lng⟩

/-! ## The edges -/

variable {p i j : Point}

theorem lat_ne_of_past (h : (decide (i.lat > p.lat) != decide (j.lat > p.lat)) = true) :
    j.lat - i.lat ≠ 0 := by
  intro hlevel
  rw [sub_eq_zero.1 hlevel, bne_self_eq_false] at h
  exact Bool.false_ne_true h

theorem checkedIntersects_eq (p i j : Point) :
    checkedIntersects p i j = some (intersects p i j) := by
  unfold checkedIntersects intersects checkedDiv
  split
  case isTrue hpast =>
    rw [if_neg (lat_ne_of_past hpast), hpast, Bool.true_and, Option.map_some]
  case isFalse hpast =>
    rw [Bool.eq_false_of_not_eq_true hpast, Bool.false_and]

theorem intersects_comm (p i j : Point) : intersects p i j = intersects p j i := by
  unfold intersects
  rw [bne_comm (a := decide (j.lat > p.lat))]
  by_cases hpast : (decide (i.lat > p.lat) != decide (j.lat > p.lat)) = true
  · have hij : j.lat - i.lat ≠ 0 := lat_ne_of_past hpast
    have hji : i.lat - j.lat ≠ 0 := fun h => hij (by rw [← neg_sub, h, neg_zero])
    have hline : (j.lng - i.lng) * (p.lat - i.lat) / (j.lat - i.lat) + i.lng =
        (i.lng - j.lng) * (p.lat - j.lat) / (i.lat - j.lat) + j.lng := by
      field_simp
      ring
    rw [hline]
  · rw [Bool.eq_false_of_not_eq_true hpast, Bool.false_and, Bool.false_and]

theorem intersects_self (p i : Point) : intersects p i i = false := by
  unfold intersects
  rw [bne_self_eq_false, Bool.false_and]

theorem intersects_translate (d p i j : Point) :
    intersects (translate d p) (translate d i) (translate d j) = intersects p i j := by
  simp only [intersects, translate, gt_iff_lt, add_lt_add_iff_right, add_sub_add_right_eq_sub,
    ← add_assoc]

/-! ## The loop -/

theorem pointInPolygonFrom_eq_pathParity (p j : Point) (ring : List Point) :
    pointInPolygonFrom p j ring = pathParity (intersects p) j ring := by
  induction ring generalizing j with
  | nil => rfl
  | cons i ring ih => rw [pointInPolygonFrom, pathParity_cons, ih]

/-- The answer is **the parity** of the edges that go past the point on its right. -/
theorem pointInPolygon_eq_cycleParity (p : Point) (ring : List Point) :
    pointInPolygon p ring = cycleParity (intersects p) ring := by
  unfold pointInPolygon cycleParity
  cases ring.getLast? with
  | none => rfl
  | some last => exact pointInPolygonFrom_eq_pathParity p last ring

theorem checkedPointInPolygonFrom_eq (p : Point) (inside : Bool) (j : Point) (ring : List Point) :
    checkedPointInPolygonFrom p inside j ring = some (inside != pointInPolygonFrom p j ring) := by
  induction ring generalizing inside j with
  | nil => rw [checkedPointInPolygonFrom, pointInPolygonFrom, Bool.bne_false]
  | cons i ring ih =>
    rw [checkedPointInPolygonFrom, pointInPolygonFrom, checkedIntersects_eq, Option.bind_eq_bind,
      Option.bind_some, ih]
    cases intersects p i j with
    | false => rw [Bool.false_bne, if_neg Bool.false_ne_true]
    | true => rw [if_pos rfl, Bool.not_bne, Bool.true_bne, Bool.bne_not]

/-- **No division by zero** is reached. -/
theorem checkedPointInPolygon_eq (p : Point) (ring : List Point) :
    checkedPointInPolygon p ring = some (pointInPolygon p ring) := by
  unfold checkedPointInPolygon pointInPolygon
  cases ring.getLast? with
  | none => rfl
  | some last =>
    show checkedPointInPolygonFrom p false last ring = some (pointInPolygonFrom p last ring)
    rw [checkedPointInPolygonFrom_eq, Bool.false_bne]

/-- **The laws of the test**: it never divides by zero; the first corner, the direction, the first
corner once more at the end and a translation do not matter; and of the two parts into which a
chord between `u` and `w` cuts a polygon, exactly one has the point when the whole has it. -/
theorem pointInPolygon_laws (p : Point) :
    (∀ ring, checkedPointInPolygon p ring = some (pointInPolygon p ring)) ∧
    (∀ ring n, pointInPolygon p (ring.rotate n) = pointInPolygon p ring) ∧
    (∀ ring, pointInPolygon p ring.reverse = pointInPolygon p ring) ∧
    (∀ v ring, pointInPolygon p (v :: ring ++ [v]) = pointInPolygon p (v :: ring)) ∧
    (∀ d ring, pointInPolygon (translate d p) (ring.map (translate d)) =
      pointInPolygon p ring) ∧
    (∀ a b c u w, Xor (pointInPolygon p (u :: b ++ [w]) = true)
      (pointInPolygon p (a ++ u :: w :: c) = true) ↔
      pointInPolygon p (a ++ u :: b ++ w :: c) = true) := by
  simp only [pointInPolygon_eq_cycleParity]
  refine ⟨fun ring => ?_, cycleParity_rotate, cycleParity_reverse (intersects_comm p),
    cycleParity_close (intersects_self p), fun d ring => ?_, fun a b c u w => ?_⟩
  · rw [checkedPointInPolygon_eq, pointInPolygon_eq_cycleParity]
  · exact cycleParity_map (intersects_translate d p) ring
  · rw [cycleParity_split (intersects_comm p) a b c u w]
    cases cycleParity (intersects p) (u :: b ++ [w]) <;>
      cases cycleParity (intersects p) (a ++ u :: w :: c) <;> decide

end AppliverySoar.Geofencing
