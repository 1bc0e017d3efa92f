import Mathlib.Data.List.Basic

/-!
# Escaped texts

Texts in which an escape makes one of the character that follows it. A text is whole for a
separator when the pieces of what follows it are split off behind it as they would be alone.

Results:
* `splitEscaped_append`: a whole text is a piece, where a separator follows.
* `whole_flatMap`: texts that are escaped character by character are whole.
* `unescape_flatMap`: such a text, read back.
-/

namespace AppliverySoar.Lists

open List

variable {α : Type}

/-- A text in front of the first piece. -/
def inFront (s : List α) : List (List α) → List (List α)
  | [] => [s]
  | p :: ps => (s ++ p) :: ps

theorem inFront_append (s t : List α) (ps : List (List α)) :
    inFront (s ++ t) ps = inFront s (inFront t ps) := by
  cases ps with
  | nil => rfl
  | cons p ps => exact congrArg (· :: ps) (append_assoc _ _ _)

variable [DecidableEq α] (esc stop : α)

/-- The pieces between the separators that are not escaped. -/
def splitEscaped : List α → List (List α)
  | [] => [[]]
  | [c] => if c = stop then [[], []] else [[c]]
  | c :: d :: l =>
    if c = esc then inFront [c, d] (splitEscaped l)
    else if c = stop then [] :: splitEscaped (d :: l)
    else inFront [c] (splitEscaped (d :: l))

/-- The characters that are meant. -/
def unescape (meant : α → α) : List α → List α
  | [] => []
  | [c] => [c]
  | c :: d :: l => if c = esc then meant d :: unescape meant l else c :: unescape meant (d :: l)

/-- Split as it stands. -/
def Whole (l : List α) : Prop :=
  ∀ rest, splitEscaped esc stop (l ++ rest) = inFront l (splitEscaped esc stop rest)

theorem splitEscaped_ne_nil (l : List α) : splitEscaped esc stop l ≠ [] := by
  have hfront (s : List α) (ps : List (List α)) : inFront s ps ≠ [] := by
    cases ps <;> exact cons_ne_nil _ _
  unfold splitEscaped
  split <;> (try split_ifs) <;> first | exact cons_ne_nil _ _ | exact hfront _ _

theorem intercalate_splitEscaped (l : List α) :
    [stop].intercalate (splitEscaped esc stop l) = l := by
  have hfront (s : List α) {ps : List (List α)} (h : ps ≠ []) :
      [stop].intercalate (inFront s ps) = s ++ [stop].intercalate ps := by
    obtain ⟨p, ps, rfl⟩ := exists_cons_of_ne_nil h
    cases ps <;> simp [inFront, intercalate]
  have hcons {ps : List (List α)} (h : ps ≠ []) :
      [stop].intercalate ([] :: ps) = stop :: [stop].intercalate ps := by
    obtain ⟨p, ps, rfl⟩ := exists_cons_of_ne_nil h
    simp [intercalate]
  fun_induction splitEscaped esc stop l with
  | case1 => rfl
  | case2 => simp_all [intercalate]
  | case3 => simp [intercalate]
  | case4 d l ih => rw [hfront _ (splitEscaped_ne_nil _ _ _), ih]; rfl
  | case5 d l hne ih => rw [hcons (splitEscaped_ne_nil _ _ _), ih]
  | case6 c d l hesc hstop ih => rw [hfront _ (splitEscaped_ne_nil _ _ _), ih]; rfl

variable {esc stop}

variable {c : α}

theorem splitEscaped_cons (hesc : c ≠ esc) (l : List α) :
    splitEscaped esc stop (c :: l) =
      if c = stop then [] :: splitEscaped esc stop l
      else inFront [c] (splitEscaped esc stop l) := by
  cases l with
  | nil => rw [splitEscaped, splitEscaped]; rfl
  | cons d l => rw [splitEscaped, if_neg hesc]

/-! ## Whole texts -/

theorem whole_nil : Whole esc stop [] := by
  intro rest
  obtain ⟨p, ps, h⟩ := exists_cons_of_ne_nil (splitEscaped_ne_nil esc stop rest)
  rw [nil_append, h]
  rfl

theorem Whole.append {l m : List α} (hl : Whole esc stop l) (hm : Whole esc stop m) :
    Whole esc stop (l ++ m) := by
  intro rest
  rw [append_assoc, hl, hm, inFront_append]

theorem whole_pair (c : α) : Whole esc stop [esc, c] := by
  intro rest
  rw [cons_append, singleton_append, splitEscaped, if_pos rfl]

theorem whole_char (hesc : c ≠ esc) (hstop : c ≠ stop) : Whole esc stop [c] := by
  intro rest
  rw [singleton_append, splitEscaped_cons hesc, if_neg hstop]

variable {l : List α}

theorem whole_of_plain (h : ∀ c ∈ l, c ≠ esc ∧ c ≠ stop) : Whole esc stop l := by
  induction l with
  | nil => exact whole_nil
  | cons c l ih =>
    obtain ⟨hc, hl⟩ := forall_mem_cons.mp h
    exact (whole_char hc.1 hc.2).append (ih hl)

theorem whole_flatMap {code : α → List α} (h : ∀ c, Whole esc stop (code c)) (l : List α) :
    Whole esc stop (l.flatMap code) := by
  induction l with
  | nil => exact whole_nil
  | cons c l ih =>
    rw [flatMap_cons]
    exact (h c).append ih

/-- **A whole text is a piece.** -/
theorem splitEscaped_append (hl : Whole esc stop l) (hne : stop ≠ esc)
    (rest : List α) :
    splitEscaped esc stop (l ++ stop :: rest) = l :: splitEscaped esc stop rest := by
  rw [hl, splitEscaped_cons hne, if_pos rfl, inFront, append_nil]

theorem splitEscaped_whole (hl : Whole esc stop l) : splitEscaped esc stop l = [l] := by
  have h := hl []
  rw [append_nil, splitEscaped, inFront, append_nil] at h
  exact h

variable (stop) in
theorem splitEscaped_plain (hesc : c ≠ esc) (hstop : c ≠ stop) (l : List α) :
    ∃ p ps, splitEscaped esc stop (c :: l) = (c :: p) :: ps := by
  obtain ⟨p, ps, h⟩ := exists_cons_of_ne_nil (splitEscaped_ne_nil esc stop l)
  refine ⟨p, ps, ?_⟩
  rw [splitEscaped_cons hesc, if_neg hstop, h]
  rfl

/-! ## Reading back -/

variable {meant : α → α}

theorem unescape_cons (hesc : c ≠ esc) (l : List α) :
    unescape esc meant (c :: l) = c :: unescape esc meant l := by
  cases l with
  | nil => rfl
  | cons d l => rw [unescape, if_neg hesc]

theorem unescape_flatMap {code kept : α → List α}
    (h : ∀ c rest, unescape esc meant (code c ++ rest) = kept c ++ unescape esc meant rest)
    (l : List α) : unescape esc meant (l.flatMap code) = l.flatMap kept := by
  induction l with
  | nil => rfl
  | cons c l ih => rw [flatMap_cons, flatMap_cons, h, ih]

end AppliverySoar.Lists
