import AppliverySoar.Js.OrderedMap

/-!
# Maps that a loop fills

A loop goes over a list. For each element it reads the entry of the element's
key, and sets it to something or leaves it. What the map has for a key then
depends on the elements with that key alone, and to leave out all elements of
some keys is to leave out their entries.

Results:
* `get_gather`: the entry of a key.
* `mem_keys_gather`: the keys.
* `gather_filter`: a loop over the elements of some keys.
-/

namespace AppliverySoar.Js

open List

variable {α β : Type}

/-! ## Reading after writing -/

section Entries

variable {key k : String} {value v : β} {l : List (String × β)}

theorem lookup_setEntry :
    (setEntry key value l).lookup k = if k = key then some value else l.lookup k := by
  induction l with
  | nil =>
    rw [setEntry, lookup_cons, lookup_nil]
    by_cases hk : k = key
    · rw [if_pos hk, beq_iff_eq.mpr hk]
    · rw [if_neg hk, beq_false_of_ne hk]
  | cons e l ih =>
    obtain ⟨k', v'⟩ := e
    by_cases he : k' = key
    · rw [setEntry, if_pos he, lookup_cons, lookup_cons, he]
      by_cases hk : k = key
      · rw [if_pos hk, beq_iff_eq.mpr hk]
      · rw [if_neg hk, beq_false_of_ne hk]
    · rw [setEntry, if_neg he, lookup_cons, lookup_cons, ih]
      by_cases hk : k = k'
      · rw [beq_iff_eq.mpr hk]
        exact (if_neg (hk ▸ he)).symm
      · rw [beq_false_of_ne hk]

theorem setEntry_of_not_mem (h : key ∉ l.map Prod.fst) :
    setEntry key value l = l ++ [(key, value)] := by
  induction l with
  | nil => rfl
  | cons e l ih =>
    obtain ⟨hne, hrest⟩ := ne_and_not_mem_of_not_mem_cons h
    rw [setEntry, if_neg (Ne.symm hne), ih hrest, cons_append]

variable {q : String → Bool}

theorem filter_setEntry_of_not (hq : q key = false) :
    (setEntry key value l).filter (fun e => q e.1) = l.filter fun e => q e.1 := by
  induction l with
  | nil => rw [setEntry, filter_cons_of_neg (by simp [hq])]
  | cons e l ih =>
    by_cases he : e.1 = key
    · rw [setEntry, if_pos he, filter_cons_of_neg (by simp [hq]),
        filter_cons_of_neg (by simp [he, hq])]
    · rw [setEntry, if_neg he, filter_cons, filter_cons, ih]

theorem filter_setEntry (hq : q key = true) :
    (setEntry key value l).filter (fun e => q e.1) =
      setEntry key value (l.filter fun e => q e.1) := by
  induction l with
  | nil => simp only [setEntry, filter_cons, hq, if_true, filter_nil]
  | cons e l ih =>
    by_cases he : e.1 = key
    · rw [setEntry, if_pos he, filter_cons, filter_cons, if_pos hq, he, if_pos hq,
        setEntry, if_pos he]
    · rw [setEntry, if_neg he, filter_cons, filter_cons, ih]
      split_ifs
      · rw [setEntry, if_neg he]
      · rfl

end Entries

namespace OrderedMap

variable {m : OrderedMap β} {key k : String} {value : β}

@[simp] theorem get_empty : (empty : OrderedMap β).get k = none := rfl

theorem get_set : (m.set key value).get k = if k = key then some value else m.get k :=
  lookup_setEntry

@[simp] theorem get_set_self : (m.set key value).get key = some value := by
  rw [get_set, if_pos rfl]

theorem get_eq_some_iff : m.get k = some value ↔ (k, value) ∈ m.entries := by
  refine ⟨fun h => ?_, fun h => ?_⟩
  · obtain ⟨l₁, l₂, hl, -⟩ := lookup_eq_some_iff.mp h
    rw [hl]
    exact mem_append_right _ mem_cons_self
  · obtain ⟨l₁, l₂, hl⟩ := append_of_mem h
    refine lookup_eq_some_iff.mpr ⟨l₁, l₂, hl, fun p hp => bne_iff_ne.mpr fun hk => ?_⟩
    have hnodup := m.nodup
    rw [hl, map_append, map_cons] at hnodup
    exact (nodup_append.mp hnodup).2.2 p.1 (mem_map_of_mem hp) k mem_cons_self
      hk.symm

theorem mem_keys_iff : k ∈ m.keys ↔ ∃ v, m.get k = some v := by
  simp only [get_eq_some_iff, keys, mem_map, Prod.exists, exists_and_right, exists_eq_right]

/-- `Array.from(map.values())`. -/
def values (m : OrderedMap β) : List β :=
  m.entries.map Prod.snd

theorem mem_values_iff : value ∈ m.values ↔ ∃ k, m.get k = some value := by
  simp only [get_eq_some_iff, values, mem_map, Prod.exists, exists_eq_right]

/-! ## The loop -/

variable {q : String → Bool} (key : α → String) (step : Option β → α → Option β)

/-- One turn: the entry of the element's key is set, or left as it is. -/
def visit (m : OrderedMap β) (a : α) : OrderedMap β :=
  match step (m.get (key a)) a with
  | some value => m.set (key a) value
  | none => m

/-- `for (const a of l) …` on an empty map. -/
def gather (l : List α) : OrderedMap β :=
  l.foldl (visit key step) empty

/-- What the elements of one key make of its entry. -/
def stepAll (l : List α) : Option β :=
  l.foldl (fun o a => (step o a).or o) none

variable {key step} {l : List α} {p : α → Bool}

theorem gather_concat (l : List α) (a : α) :
    gather key step (l ++ [a]) = visit key step (gather key step l) a := by
  rw [gather, foldl_append]
  rfl

theorem gather_congr {key' : α → String} (h : ∀ a ∈ l, key a = key' a) :
    gather key step l = gather key' step l := by
  induction l using reverseRecOn with
  | nil => rfl
  | append_singleton l a ih =>
    rw [gather_concat, gather_concat, ih fun b hb => h b (mem_append_left _ hb), visit, visit,
      h a (mem_append_right _ mem_cons_self)]

theorem stepAll_concat (l : List α) (a : α) :
    stepAll step (l ++ [a]) = (step (stepAll step l) a).or (stepAll step l) := by
  rw [stepAll, foldl_append]
  rfl

theorem get_visit (m : OrderedMap β) (a : α) :
    (visit key step m a).get k =
      if k = key a then (step (m.get k) a).or (m.get k) else m.get k := by
  unfold visit
  by_cases hk : k = key a
  · rw [if_pos hk, hk]
    cases step (m.get (key a)) a with
    | none => rfl
    | some value => exact get_set_self
  · rw [if_neg hk]
    cases step (m.get (key a)) a with
    | none => rfl
    | some value => rw [get_set, if_neg hk]

/-- **The entry of a key** is what the elements with that key make of it. -/
theorem get_gather (l : List α) :
    (gather key step l).get k = stepAll step (l.filter fun a => key a = k) := by
  induction l using reverseRecOn with
  | nil => rfl
  | append_singleton l a ih =>
    rw [gather_concat, get_visit, filter_append, ih]
    by_cases hk : k = key a
    · rw [if_pos hk, filter_cons_of_pos (by simp [hk]), filter_nil, stepAll_concat]
    · rw [if_neg hk, filter_cons_of_neg (by simp [Ne.symm hk]), filter_nil,
        append_nil]

theorem stepAll_isSome (hstep : ∀ a, (step none a).isSome) (hl : l ≠ []) :
    (stepAll step l).isSome := by
  induction l using reverseRecOn with
  | nil => exact absurd rfl hl
  | append_singleton l a ih =>
    rw [stepAll_concat, Option.isSome_or]
    cases h : stepAll step l with
    | none => rw [hstep a, Bool.true_or]
    | some value => exact Bool.or_true _

theorem eq_nil_of_stepAll (hstep : ∀ a, (step none a).isSome)
    (h : stepAll step l = none) : l = [] := by
  by_contra hne
  have hsome := stepAll_isSome hstep hne
  rw [h] at hsome
  cases hsome

/-- **The keys** are those of the elements, where an element without an entry makes one. -/
theorem mem_keys_gather (hstep : ∀ a, (step none a).isSome) :
    k ∈ (gather key step l).keys ↔ ∃ a ∈ l, key a = k := by
  rw [mem_keys_iff, ← Option.isSome_iff_exists, get_gather]
  refine ⟨fun h => ?_, fun ⟨a, ha, hk⟩ => ?_⟩
  · by_contra hnone
    rw [filter_eq_nil_iff.mpr fun a ha => by
      rw [decide_eq_true_eq]
      exact fun hk => hnone ⟨a, ha, hk⟩] at h
    cases h
  · exact stepAll_isSome hstep (ne_nil_of_mem (mem_filter.mpr ⟨ha, decide_eq_true hk⟩))

/-- A map for every key: it is what the loop over the elements of that key makes. -/
theorem stepAll_visit {inner : α → String} {step : Option β → α → Option β} (l : List α) :
    stepAll (fun m a => some (visit inner step (m.getD empty) a)) l =
      if l = [] then none else some (gather inner step l) := by
  induction l using reverseRecOn with
  | nil => rfl
  | append_singleton l a ih =>
    rw [stepAll_concat, ih, if_neg (append_ne_nil_of_right_ne_nil _ (cons_ne_nil _ _)),
      gather_concat, Option.some_or]
    by_cases hl : l = []
    · rw [if_pos hl, hl]
      rfl
    · rw [if_neg hl]
      rfl

/-- **The elements of some keys only**: the entries of these keys, in the same order. -/
theorem gather_filter
    (h : ∀ a ∈ l, p a = q (key a)) :
    (gather key step (l.filter p)).entries = (gather key step l).entries.filter fun e => q e.1 := by
  induction l using reverseRecOn with
  | nil => rfl
  | append_singleton l a ih =>
    have ih := ih fun b hb => h b (mem_append_left _ hb)
    have ha := h a (mem_append_right _ mem_cons_self)
    rw [filter_append, gather_concat]
    cases hq : q (key a) with
    | false =>
      rw [filter_cons_of_neg (by rw [ha, hq]; exact Bool.false_ne_true), filter_nil,
        append_nil, ih]
      unfold visit
      cases step ((gather key step l).get (key a)) a with
      | none => rfl
      | some value => exact (filter_setEntry_of_not hq).symm
    | true =>
      have hget : (gather key step (l.filter p)).get (key a) = (gather key step l).get (key a) := by
        rw [get_gather, get_gather, filter_filter]
        congr 1
        refine filter_congr fun b hb => ?_
        by_cases hk : key b = key a
        · rw [h b (mem_append_left _ hb), hk, hq, Bool.and_true]
        · rw [decide_eq_false hk, Bool.false_and]
      rw [filter_cons_of_pos (ha.trans hq), filter_nil, gather_concat]
      unfold visit
      rw [hget]
      cases step ((gather key step l).get (key a)) a with
      | none => exact ih
      | some value =>
        show setEntry _ _ _ = _
        rw [ih]
        exact (filter_setEntry hq).symm

/-- Elements with different keys, whose entries do not depend on what is there. -/
theorem get_gather_of_nodup {f : α → Option β} (h : (l.map key).Nodup) :
    (gather key (fun _ a => f a) l).get k = (l.find? fun a => key a = k).bind f := by
  rw [get_gather]
  induction l with
  | nil => rfl
  | cons a l ih =>
    obtain ⟨hnot, hl⟩ := nodup_cons.mp h
    by_cases hk : key a = k
    · have hrest : l.filter (fun b => key b = k) = [] :=
        filter_eq_nil_iff.mpr fun b hb heq =>
          hnot (hk.trans (of_decide_eq_true heq).symm ▸ mem_map_of_mem hb)
      rw [filter_cons_of_pos (by simp [hk]), hrest, find?_cons_of_pos (by simp [hk])]
      exact Option.or_none
    · rw [filter_cons_of_neg (by simp [hk]), find?_cons_of_neg (by simp [hk])]
      exact ih hl

/-! ## The first element of a key -/

/-- `if (!map.has(key)) map.set(key, a)`. -/
def first (existing : Option α) (a : α) : Option α :=
  if existing.isSome then none else some a

theorem stepAll_first (l : List α) : stepAll first l = l.head? := by
  induction l using reverseRecOn with
  | nil => rfl
  | append_singleton l a ih =>
    rw [stepAll_concat, ih, head?_append]
    cases l.head? <;> rfl

theorem get_gather_first : (gather key first l).get k = l.find? fun a => key a = k := by
  rw [get_gather, stepAll_first, head?_filter]

theorem map_values_gather_first (l : List α) :
    (gather key first l).values.map key = (gather key first l).keys := by
  rw [values, keys, map_map]
  refine map_congr_left fun e he => ?_
  have hget := get_eq_some_iff.mpr he
  rw [get_gather_first] at hget
  have hkey := find?_some hget
  exact of_decide_eq_true hkey

theorem mem_values_gather_first {a : α} :
    a ∈ (gather key first l).values ↔ (l.find? fun b => key b = key a) = some a := by
  rw [mem_values_iff]
  constructor
  · rintro ⟨k, hk⟩
    rw [get_gather_first] at hk
    have hkey := find?_some hk
    obtain rfl : key a = k := of_decide_eq_true hkey
    exact hk
  · exact fun h => ⟨key a, get_gather_first.trans h⟩

/-! ## The last element of a key -/

/-- `map.set(key, a)`. -/
def last (_ : Option α) (a : α) : Option α :=
  some a

theorem stepAll_last (l : List α) : stepAll last l = l.getLast? := by
  induction l using reverseRecOn with
  | nil => rfl
  | append_singleton l a ih =>
    rw [stepAll_concat, getLast?_concat]
    rfl

theorem mem_of_mem_gather_last {e : String × α}
    (h : e ∈ (gather key last l).entries) : e.2 ∈ l ∧ key e.2 = e.1 := by
  have hget := get_eq_some_iff.mpr h
  rw [get_gather, stepAll_last] at hget
  have hmem := mem_filter.mp (mem_of_getLast? hget)
  exact ⟨hmem.1, of_decide_eq_true hmem.2⟩

theorem map_values_gather_last (l : List α) :
    (gather key last l).values.map key = (gather key last l).keys := by
  rw [values, keys, map_map]
  exact map_congr_left fun e he => (mem_of_mem_gather_last he).2

/-- **Elements with different keys** are the values, in the same order. -/
theorem values_gather_last (h : (l.map key).Nodup) :
    (gather key last l).values = l := by
  induction l using reverseRecOn with
  | nil => rfl
  | append_singleton l a ih =>
    rw [map_append, nodup_append] at h
    have hnew : key a ∉ (gather key last l).entries.map Prod.fst := by
      intro hmem
      obtain ⟨e, he, hk⟩ := mem_map.mp hmem
      obtain ⟨hl, hkey⟩ := mem_of_mem_gather_last he
      exact h.2.2 _ (mem_map_of_mem hl) (key a) mem_cons_self (hkey.trans hk)
    rw [gather_concat]
    show (setEntry (key a) a (gather key last l).entries).map Prod.snd = l ++ [a]
    rw [setEntry_of_not_mem hnew, map_append]
    exact congrArg (· ++ [a]) (ih h.1)

theorem values_gather_last_filter
    (h : ∀ a ∈ l, p a = q (key a)) :
    (gather key last l).values.filter p = (gather key last (l.filter p)).values := by
  rw [values, values, gather_filter h, filter_map]
  refine congrArg (List.map Prod.snd) (filter_congr fun e he => ?_)
  obtain ⟨hl, hkey⟩ := mem_of_mem_gather_last he
  rw [Function.comp_apply, h _ hl, hkey]

end OrderedMap

end AppliverySoar.Js
