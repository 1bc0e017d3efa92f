import Mathlib.Data.Char
import Mathlib.Data.List.Lex

/-!
# The order of texts

`a < b` compares two strings by their UTF-16 units, lexicographically.

Results:
* `units_injective`: the units determine the string, so the order is total.
-/

namespace AppliverySoar.Js

/-- The UTF-16 units of a character. -/
def charUnits (c : Char) : List ℕ :=
  if c.toNat < 0x10000 then [c.toNat]
  else [0xD800 + (c.toNat - 0x10000) / 0x400, 0xDC00 + (c.toNat - 0x10000) % 0x400]

/-- The UTF-16 units of a string. -/
def units (s : String) : List ℕ :=
  s.toList.flatMap charUnits

/-- A first unit tells how many units a character has, and these tell the character. -/
theorem charUnits_append_inj {c d : Char} {l m : List ℕ}
    (h : charUnits c ++ l = charUnits d ++ m) : c = d ∧ l = m := by
  have hc : c.toNat < 0xD800 ∨ 0xDFFF < c.toNat ∧ c.toNat < 0x110000 := c.valid
  have hd : d.toNat < 0xD800 ∨ 0xDFFF < d.toNat ∧ d.toNat < 0x110000 := d.valid
  unfold charUnits at h
  split_ifs at h with hshort hshort' hshort'
  · obtain ⟨hunit, htail⟩ := List.cons.inj h
    exact ⟨Char.toNat_inj.mp hunit, htail⟩
  · obtain ⟨hunit, -⟩ := List.cons.inj h
    omega
  · obtain ⟨hunit, -⟩ := List.cons.inj h
    omega
  · obtain ⟨hhigh, h⟩ := List.cons.inj h
    obtain ⟨hlow, htail⟩ := List.cons.inj h
    exact ⟨Char.toNat_inj.mp (by omega), htail⟩

theorem charUnits_ne_nil (c : Char) : charUnits c ≠ [] := by
  unfold charUnits
  split_ifs <;> exact List.cons_ne_nil _ _

theorem flatMap_charUnits_injective : Function.Injective (List.flatMap charUnits) := by
  intro s
  induction s with
  | nil =>
    rintro (_ | ⟨d, t⟩) h
    · rfl
    · exact absurd (List.append_eq_nil_iff.mp h.symm).1 (charUnits_ne_nil d)
  | cons c s ih =>
    rintro (_ | ⟨d, t⟩) h
    · exact absurd (List.append_eq_nil_iff.mp h).1 (charUnits_ne_nil c)
    · obtain ⟨rfl, htail⟩ := charUnits_append_inj h
      rw [ih htail]

theorem units_injective : Function.Injective units := fun _ _ h =>
  String.toList_injective (flatMap_charUnits_injective h)

theorem units_empty : units "" = [] := rfl

theorem units_empty_lt {s : String} (h : s ≠ "") : units "" < units s := by
  cases hs : units s with
  | nil => exact absurd (units_injective (hs.trans units_empty.symm)) h
  | cons a l => exact List.nil_lt_cons a l

end AppliverySoar.Js
