import Mathlib.Data.List.Induction
import Mathlib.Data.List.Nodup

/-!
# The first elements of their keys

Results:
* `distinctBy_eq_iff`: when the elements of a key are told apart by another key, the
  two keep the same elements exactly when they tell the same elements apart.
-/

namespace AppliverySoar.Lists

open List

variable {α β γ : Type} [DecidableEq β] [DecidableEq γ]

/-- The elements whose key no earlier element has. -/
def distinctBy (key : α → β) (l : List α) : List α :=
  l.foldl (fun kept a => if key a ∈ kept.map key then kept else kept ++ [a]) []

variable {key : α → β} {key' : α → γ} {l : List α} {a b : α}

theorem distinctBy_concat (l : List α) (a : α) :
    distinctBy key (l ++ [a]) = if key a ∈ (distinctBy key l).map key then distinctBy key l
      else distinctBy key l ++ [a] := by
  rw [distinctBy, foldl_concat]
  rfl

theorem sublist_distinctBy (key : α → β) (l : List α) : (distinctBy key l).Sublist l := by
  induction l using reverseRecOn with
  | nil => exact Sublist.refl _
  | append_singleton l b ih =>
    rw [distinctBy_concat]
    split_ifs
    · exact ih.trans (sublist_append_left _ _)
    · exact ih.append_right _

theorem mem_of_distinctBy (h : a ∈ distinctBy key l) : a ∈ l :=
  (sublist_distinctBy key l).subset h

theorem distinctBy_map {δ : Type} (key : α → β) (f : δ → α) (l : List δ) :
    distinctBy key (l.map f) = (distinctBy (fun d => key (f d)) l).map f := by
  induction l using reverseRecOn with
  | nil => rfl
  | append_singleton l d ih =>
    rw [map_append, map_singleton, distinctBy_concat, distinctBy_concat, ih, map_map,
      Function.comp_def]
    split_ifs
    · rfl
    · rw [map_append, map_singleton]

theorem nodup_distinctBy (key : α → β) (l : List α) : ((distinctBy key l).map key).Nodup := by
  induction l using reverseRecOn with
  | nil => exact nodup_nil
  | append_singleton l b ih =>
    rw [distinctBy_concat]
    split_ifs with hseen
    · exact ih
    · rw [map_append, map_singleton]
      exact nodup_append.mpr ⟨ih, nodup_singleton _, fun x hx y hy =>
        mem_singleton.mp hy ▸ fun heq => hseen (heq ▸ hx)⟩

theorem exists_distinctBy (key : α → β) (h : a ∈ l) : ∃ b ∈ distinctBy key l, key b = key a := by
  induction l using reverseRecOn with
  | nil => exact absurd h not_mem_nil
  | append_singleton l b ih =>
    rw [distinctBy_concat]
    rcases mem_append.mp h with h | h
    · obtain ⟨c, hc, hkey⟩ := ih h
      refine ⟨c, ?_, hkey⟩
      split_ifs
      · exact hc
      · exact mem_append_left _ hc
    · obtain rfl := mem_singleton.mp h
      split_ifs with hseen
      · exact mem_map.mp hseen
      · exact ⟨a, mem_append_right _ (mem_singleton_self _), rfl⟩

theorem distinctBy_congr (h : ∀ a ∈ l, ∀ b ∈ l, key a = key b ↔ key' a = key' b) :
    distinctBy key l = distinctBy key' l := by
  induction l using reverseRecOn with
  | nil => rfl
  | append_singleton l c ih =>
    have hbefore := ih fun a ha b hb =>
      h a (mem_append_left _ ha) b (mem_append_left _ hb)
    have hseen : key c ∈ (distinctBy key l).map key ↔ key' c ∈ (distinctBy key' l).map key' := by
      rw [← hbefore, mem_map, mem_map]
      refine exists_congr fun a => and_congr_right fun ha => ?_
      exact h a (mem_append_left _ (mem_of_distinctBy ha)) c
        (mem_append_right _ (mem_singleton_self _))
    rw [distinctBy_concat, distinctBy_concat, hbefore]
    exact if_congr (hbefore ▸ hseen) rfl rfl

/-- **The same elements stay** exactly when a key is that of one other key only. -/
theorem distinctBy_eq_iff (hfine : ∀ a ∈ l, ∀ b ∈ l, key' a = key' b → key a = key b) :
    distinctBy key l = distinctBy key' l ↔ ∀ a ∈ l, ∀ b ∈ l, key a = key b → key' a = key' b := by
  refine ⟨fun heq a ha b hb hkey => ?_, fun h =>
    distinctBy_congr fun a ha b hb => ⟨h a ha b hb, hfine a ha b hb⟩⟩
  obtain ⟨a', ha', hkeya⟩ := exists_distinctBy key' ha
  obtain ⟨b', hb', hkeyb⟩ := exists_distinctBy key' hb
  have hsame : key a' = key b' := by
    rw [hfine a' (mem_of_distinctBy ha') a ha hkeya, hfine b' (mem_of_distinctBy hb') b hb hkeyb,
      hkey]
  rw [← heq] at ha' hb'
  have heq' : a' = b' := inj_on_of_nodup_map (nodup_distinctBy key l) ha' hb' hsame
  rw [← hkeya, heq', hkeyb]

end AppliverySoar.Lists
