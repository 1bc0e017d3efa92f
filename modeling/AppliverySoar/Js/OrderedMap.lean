import AppliverySoar.Js.Value

/-!
# Maps that keep the order of insertion

A JavaScript `Map` (or a plain object with textual keys) lists its entries in the
order in which their keys were first set; setting a key again replaces the value
where it stands. A `OrderedMap` carries that no key occurs twice.
-/

namespace AppliverySoar.Js

open List

variable {β : Type} {key k : String} {value v : β} {l : List (String × β)}

/-- The entries after `map.set(key, value)`. -/
def setEntry (key : String) (value : β) : List (String × β) → List (String × β)
  | [] => [(key, value)]
  | e :: l => if e.1 = key then (key, value) :: l else e :: setEntry key value l

theorem mem_setEntry (h : (k, v) ∈ setEntry key value l) : (k, v) = (key, value) ∨ (k, v) ∈ l := by
  induction l with
  | nil => exact .inl (mem_singleton.mp h)
  | cons e l ih =>
    unfold setEntry at h
    split_ifs at h with he
    · exact (mem_cons.mp h).imp_right (mem_cons_of_mem _)
    · rcases mem_cons.mp h with rfl | h
      · exact .inr mem_cons_self
      · exact (ih h).imp_right (mem_cons_of_mem _)

theorem mem_keys_setEntry :
    k ∈ (setEntry key value l).map Prod.fst ↔ k = key ∨ k ∈ l.map Prod.fst := by
  induction l with
  | nil => simp [setEntry]
  | cons e l ih =>
    unfold setEntry
    split_ifs with he
    · simp only [map_cons, mem_cons, he, or_self_left]
    · simp only [map_cons, mem_cons, ih]
      exact or_left_comm

theorem nodup_setEntry (h : (l.map Prod.fst).Nodup) :
    ((setEntry key value l).map Prod.fst).Nodup := by
  induction l with
  | nil => simp [setEntry]
  | cons e l ih =>
    obtain ⟨hhead, htail⟩ := nodup_cons.mp h
    unfold setEntry
    split_ifs with he
    · exact nodup_cons.mpr ⟨he ▸ hhead, htail⟩
    · refine nodup_cons.mpr ⟨fun hmem => ?_, ih htail⟩
      rcases mem_keys_setEntry.mp hmem with heq | hmem
      · exact he heq
      · exact hhead hmem

/-- A `Map` with textual keys. -/
structure OrderedMap (β : Type) where
  entries : List (String × β)
  nodup : (entries.map Prod.fst).Nodup

namespace OrderedMap

/-- `new Map()`. -/
def empty : OrderedMap β :=
  ⟨[], List.nodup_nil⟩

/-- `map.set(key, value)`. -/
def set (m : OrderedMap β) (key : String) (value : β) : OrderedMap β :=
  ⟨setEntry key value m.entries, nodup_setEntry m.nodup⟩

/-- `Array.from(map.keys())`. -/
def keys (m : OrderedMap β) : List String :=
  m.entries.map Prod.fst

/-- `map.get(key)`. -/
def get (m : OrderedMap β) (key : String) : Option β :=
  m.entries.lookup key

/-- `map.has(key)`. -/
def has (m : OrderedMap β) (key : String) : Bool :=
  m.keys.contains key

/-- `map.size`. -/
def size (m : OrderedMap β) : ℕ :=
  m.entries.length

variable {m : OrderedMap β}

@[simp] theorem keys_empty : (empty : OrderedMap β).keys = [] := rfl

@[simp] theorem mem_keys_set : k ∈ (m.set key value).keys ↔ k = key ∨ k ∈ m.keys :=
  mem_keys_setEntry

@[simp] theorem has_iff : m.has key = true ↔ key ∈ m.keys :=
  List.contains_iff_mem

end OrderedMap

end AppliverySoar.Js
