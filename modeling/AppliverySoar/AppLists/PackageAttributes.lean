import AppliverySoar.Js.Value
import Mathlib.Data.Char
import Mathlib.Data.List.TakeWhile

/-!
# Attributes of a tag

`xmlAttr` of windowsDeviceApps.service.ts (lines 109–112): the regular expression
`\battr\s*=\s*"([^"]*)"`, in any letter case, at the first place of a tag where it
matches. A place of its own is a white space, a name, `=` and a quoted value, but
the end of a value matches as well, when it reads like a name and `=`.

Results:
* `searchAttr_segment`: what a search finds up to the next quote.
* `searchAttr_attributes`: what it finds among attributes.
* `readAttrs_eq_field`: it is the attribute's value, unless a value in front of it
  reads like the attribute.
-/

namespace AppliverySoar.AppLists

open Js List Option

/-! ## Model -/

/-- `\w`. -/
def isWordChar (c : Char) : Bool :=
  c.isAlphanum || c = '_'

/-- Whether two texts are the same in some letter case. -/
def sameLetters (a b : List Char) : Bool :=
  a.map Char.toLower = b.map Char.toLower

/-- `attr\s*=\s*` at the front of a text: what is behind it. -/
def afterAttr (attr s : List Char) : Option (List Char) :=
  if sameLetters (s.take attr.length) attr then
    match (s.drop attr.length).dropWhile isSpace with
    | '=' :: rest => some (rest.dropWhile isSpace)
    | _ => none
  else none

/-- `"([^"]*)"` at the front of a text: what is captured. -/
def quoted : List Char → Option (List Char)
  | '"' :: rest => if '"' ∈ rest then some (rest.takeWhile (· ≠ '"')) else none
  | _ => none

/-- The regular expression at the front of a text that is behind the character `prev`; `attr` begins
with a letter, so `\b` asks that `prev` is none. -/
def attrAt (attr : List Char) (prev : Option Char) (s : List Char) : Option (List Char) :=
  if prev.any isWordChar then none else (afterAttr attr s).bind quoted

/-- The first match. -/
def searchAttr (attr : List Char) : Option Char → List Char → Option (List Char)
  | _, [] => none
  | prev, c :: s => (attrAt attr prev (c :: s)).or (searchAttr attr (some c) s)

def xmlAttr (tag : List Char) (attr : String) : Option String :=
  (searchAttr attr.toList none tag).map String.ofList

/-! ## Attributes -/

/-- An attribute as it is written. -/
def attributeText (a : String × String) : List Char :=
  ' ' :: (a.1.toList ++ '=' :: '"' :: (a.2.toList ++ ['"']))

/-- Whether a text that is behind `prev` ends like the attribute and `=`. -/
def endsWithAttr (attr : List Char) : Option Char → List Char → Bool
  | _, [] => false
  | prev, c :: s => (!prev.any isWordChar && afterAttr attr (c :: s) = some []) ||
      endsWithAttr attr (some c) s

/-- What stands in front of the value of the next attribute. -/
def nextName : List (String × String) → Option (List Char)
  | [] => none
  | a :: _ => some (' ' :: (a.1.toList ++ ['=']))

/-- What a search finds among attributes. -/
def readAttrs (attr : List Char) : List (String × String) → Option (List Char)
  | [] => none
  | a :: rest =>
    if sameLetters a.1.toList attr then some a.2.toList
    else (if endsWithAttr attr (some '"') a.2.toList then nextName rest else none).or
      (readAttrs attr rest)

/-- A value that reads like the attribute, before the attribute itself and before another one. -/
def misleads (attr : List Char) : List (String × String) → Bool
  | [] => false
  | a :: rest => !rest.isEmpty && !sameLetters a.1.toList attr &&
      (endsWithAttr attr (some '"') a.2.toList || misleads attr rest)

/-- The value of an attribute. -/
def field (attributes : List (String × String)) (attr : List Char) : Option String :=
  (attributes.find? fun a => sameLetters a.1.toList attr).map Prod.snd

/-- A name for which the search makes sense: nothing of what surrounds a name is in it. -/
def Searchable (attr : List Char) : Prop :=
  attr ≠ [] ∧ ∀ c ∈ attr.map Char.toLower, c ≠ '"' ∧ c ≠ '=' ∧ c ≠ ' '

instance (attr : List Char) : Decidable (Searchable attr) :=
  @instDecidableAnd _ _ _ (List.decidableBAll _ _)

/-- The name of an attribute. -/
def IsName (n : List Char) : Prop :=
  n ≠ [] ∧ ∀ c ∈ n, isWordChar c = true

instance (n : List Char) : Decidable (IsName n) :=
  @instDecidableAnd _ _ _ (List.decidableBAll _ _)

/-! ## Names -/

section Names

variable {attr a n : List Char} {c : Char}

theorem not_isSpace_of_isWordChar (h : isWordChar c = true) : isSpace c = false := by
  by_contra hspace
  have hspace : isSpace c = true := Bool.not_eq_false _ ▸ hspace
  rw [isSpace, Bool.or_eq_true, Bool.and_eq_true, decide_eq_true_eq, contains_iff_mem]
    at hspace
  rcases hspace with hc | ⟨hc, -⟩
  · have hall : ([' ', '\t', '\n', '\x0b', '\x0c', '\r', '\u00a0', '\u1680', '\u2028', '\u2029',
        '\u202f', '\u205f', '\u3000', '\ufeff'].all fun d => !isWordChar d) = true := by decide
    have hword := all_eq_true.mp hall c hc
    rw [h] at hword
    exact Bool.false_ne_true hword
  · have beyond {d : Char} (hd : d < '\u2000') : ¬c ≤ d := fun hcd =>
      absurd (lt_of_le_of_lt (le_trans hc hcd) hd) (lt_irrefl _)
    delta isWordChar Char.isAlphanum Char.isAlpha Char.isUpper Char.isLower Char.isDigit at h
    simp only [Bool.or_eq_true, Bool.and_eq_true, decide_eq_true_eq] at h
    rcases h with ((h | h) | h) | h
    · exact beyond (d := 'Z') (by decide) h.2
    · exact beyond (d := 'z') (by decide) h.2
    · exact beyond (d := '9') (by decide) h.2
    · exact beyond (d := '_') (by decide) (le_of_eq h)

theorem length_eq_of_sameLetters (h : sameLetters a attr = true) : a.length = attr.length := by
  have hmap : a.map Char.toLower = attr.map Char.toLower := of_decide_eq_true h
  rw [← length_map Char.toLower, hmap, length_map]

/-- A character that is not in the name is not in what reads like it. -/
theorem not_mem_of_sameLetters (hc : c.toLower ∉ attr.map Char.toLower)
    (h : sameLetters a attr = true) : c ∉ a := by
  intro hmem
  have hmap : a.map Char.toLower = attr.map Char.toLower := of_decide_eq_true h
  exact hc (hmap ▸ mem_map_of_mem hmem)

theorem Searchable.quote (h : Searchable attr) : Char.toLower '"' ∉ attr.map Char.toLower :=
  fun hmem => (h.2 _ hmem).1 rfl

theorem Searchable.space (h : Searchable attr) : Char.toLower ' ' ∉ attr.map Char.toLower :=
  fun hmem => (h.2 _ hmem).2.2 rfl

theorem IsName.not_mem (h : IsName n) (hc : isWordChar c = false) : c ∉ n := by
  intro hmem
  rw [h.2 c hmem] at hc
  exact absurd hc (by decide)

theorem suffix_of_afterAttr {s rest : List Char} (h : afterAttr attr s = some rest) :
    rest <:+ s := by
  unfold afterAttr at h
  split_ifs at h
  split at h
  · next rest' hdrop =>
    have hcons : rest' <:+ '=' :: rest' := suffix_cons _ _
    have hsuffix : '=' :: rest' <:+ s :=
      hdrop ▸ (dropWhile_suffix _).trans (drop_suffix attr.length s)
    rw [← some.inj h]
    exact (dropWhile_suffix _).trans (hcons.trans hsuffix)
  · cases h

theorem afterAttr_eq_nil {s : List Char} (h : afterAttr attr s = some []) :
    ∃ a w w', s = a ++ w ++ '=' :: w' ∧ sameLetters a attr = true ∧
      (∀ c ∈ w, isSpace c = true) ∧ ∀ c ∈ w', isSpace c = true := by
  unfold afterAttr at h
  split_ifs at h with hsame
  split at h
  · next rest hdrop =>
    refine ⟨s.take attr.length, (s.drop attr.length).takeWhile isSpace, rest, ?_, hsame,
      fun c hc => mem_takeWhile_imp hc, fun c hc => ?_⟩
    · rw [← hdrop, append_assoc, takeWhile_append_dropWhile, take_append_drop]
    · exact dropWhile_eq_nil_iff.mp (some.inj h) c hc
  · cases h

end Names

/-! ## Segments between quotes -/

section Segments

variable {attr n s t : List Char} {prev : Option Char}

theorem dropWhile_isSpace_append (s t : List Char) :
    (s ++ '"' :: t).dropWhile isSpace = s.dropWhile isSpace ++ '"' :: t := by
  induction s with
  | nil => exact dropWhile_cons_of_neg (by decide)
  | cons c s ih =>
    rw [cons_append]
    by_cases hc : isSpace c = true
    · rw [dropWhile_cons_of_pos hc, dropWhile_cons_of_pos hc, ih]
    · rw [dropWhile_cons_of_neg hc, dropWhile_cons_of_neg hc, cons_append]

theorem afterAttr_append_quote (hattr : Searchable attr) (s t : List Char) :
    afterAttr attr (s ++ '"' :: t) = (afterAttr attr s).map (· ++ '"' :: t) := by
  unfold afterAttr
  by_cases hlength : attr.length ≤ s.length
  · rw [take_append_of_le_length hlength, drop_append_of_le_length hlength,
      dropWhile_isSpace_append]
    by_cases hsame : sameLetters (s.take attr.length) attr = true
    · rw [if_pos hsame, if_pos hsame]
      cases hdrop : (s.drop attr.length).dropWhile isSpace with
      | nil => rfl
      | cons c rest =>
        rw [cons_append]
        by_cases hc : c = '='
        · subst hc
          exact congrArg some (dropWhile_isSpace_append rest t)
        · split
          · next heq => exact absurd (List.cons.inj heq).1 hc
          · split
            · next heq => exact absurd (List.cons.inj heq).1 hc
            · rfl
    · rw [if_neg hsame, if_neg hsame]
      rfl
  · have hlong : ¬sameLetters ((s ++ '"' :: t).take attr.length) attr = true := by
      intro hsame
      refine not_mem_of_sameLetters hattr.quote hsame ?_
      obtain ⟨k, hk⟩ := Nat.exists_eq_add_of_lt (Nat.lt_of_not_le hlength)
      rw [hk, show s.length + k + 1 = s.length + (k + 1) from rfl, take_length_add_append,
        take_succ_cons]
      exact mem_append_right _ mem_cons_self
    have hshort : ¬sameLetters (s.take attr.length) attr = true := by
      intro hsame
      have heq := length_eq_of_sameLetters hsame
      rw [length_take, min_eq_right (le_of_not_ge hlength)] at heq
      exact hlength heq.ge
    rw [if_neg hlong, if_neg hshort]
    rfl

theorem attrAt_append_quote (hattr : Searchable attr) (hs : '"' ∉ s) :
    attrAt attr prev (s ++ '"' :: t) =
      if (!prev.any isWordChar && afterAttr attr s = some []) = true then quoted ('"' :: t)
      else none := by
  unfold attrAt
  rw [afterAttr_append_quote hattr]
  cases hprev : prev.any isWordChar with
  | true => rw [if_pos rfl, Bool.not_true, Bool.false_and, if_neg Bool.false_ne_true]
  | false =>
    rw [if_neg Bool.false_ne_true, Bool.not_false, Bool.true_and]
    cases hafter : afterAttr attr s with
    | none => rfl
    | some rest =>
      cases rest with
      | nil => rfl
      | cons c rest =>
        have hc : c ≠ '"' := fun heq =>
          hs ((suffix_of_afterAttr hafter).subset (heq ▸ mem_cons_self))
        rw [if_neg (fun hdec => cons_ne_nil _ _ (some.inj (of_decide_eq_true hdec)))]
        show quoted (c :: (rest ++ '"' :: t)) = none
        unfold quoted
        split
        · next heq => exact absurd (List.cons.inj heq).1 hc
        · rfl

theorem afterAttr_quote (hattr : Searchable attr) : afterAttr attr ('"' :: t) = none := by
  have h := afterAttr_append_quote hattr [] t
  rw [nil_append] at h
  rw [h]
  have hshort : ¬sameLetters ([].take attr.length) attr = true := by
    intro hsame
    have heq := length_eq_of_sameLetters hsame
    rw [take_nil, length_nil] at heq
    exact hattr.1 (length_eq_zero_iff.mp heq.symm)
  rw [afterAttr, if_neg hshort]
  rfl

/-- **A search up to a quote** finds what is quoted there, when the text in front of it ends like
the attribute; else it goes on behind the quote. -/
theorem searchAttr_segment (hattr : Searchable attr) (prev : Option Char) (s t : List Char)
    (hs : '"' ∉ s) : searchAttr attr prev (s ++ '"' :: t) =
      (if endsWithAttr attr prev s then quoted ('"' :: t) else none).or
        (searchAttr attr (some '"') t) := by
  induction s generalizing prev with
  | nil =>
    have hnone : attrAt attr prev ('"' :: t) = none := by
      unfold attrAt
      rw [afterAttr_quote hattr]
      exact ite_self none
    rw [nil_append, searchAttr, hnone, endsWithAttr, if_neg Bool.false_ne_true]
  | cons c s ih =>
    obtain ⟨hc, hs'⟩ := ne_and_not_mem_of_not_mem_cons hs
    rw [cons_append, searchAttr, ih (some c) hs', ← cons_append,
      attrAt_append_quote hattr hs, endsWithAttr]
    cases h : (!prev.any isWordChar && decide (afterAttr attr (c :: s) = some [])) with
    | false => rw [if_neg Bool.false_ne_true, Bool.false_or, Option.none_or]
    | true =>
      rw [if_pos rfl, Bool.true_or, if_pos rfl]
      by_cases hend : endsWithAttr attr (some c) s = true
      · rw [if_pos hend, ← Option.or_assoc, Option.or_self]
      · rw [if_neg hend, Option.none_or]

theorem searchAttr_of_not_mem (s : List Char) (prev : Option Char) (hs : '"' ∉ s) :
    searchAttr attr prev s = none := by
  induction s generalizing prev with
  | nil => rfl
  | cons c s ih =>
    rw [searchAttr, ih (some c) (not_mem_of_not_mem_cons hs), or_none]
    unfold attrAt
    split_ifs
    · rfl
    · cases hafter : afterAttr attr (c :: s) with
      | none => rfl
      | some rest =>
        have hrest : '"' ∉ rest := fun hmem => hs ((suffix_of_afterAttr hafter).subset hmem)
        show quoted rest = none
        unfold quoted
        split
        · exact absurd mem_cons_self hrest
        · rfl

theorem endsWithAttr_inside (n : List Char) (c : Char) (hc : isWordChar c = true)
    (hn : ∀ d ∈ n, isWordChar d = true) : endsWithAttr attr (some c) (n ++ ['=']) = false := by
  induction n generalizing c with
  | nil =>
    rw [nil_append, endsWithAttr, endsWithAttr, any_some, hc, Bool.not_true,
      Bool.false_and, Bool.false_or]
  | cons d n ih =>
    rw [cons_append, endsWithAttr, any_some, hc, Bool.not_true, Bool.false_and,
      Bool.false_or]
    exact ih d (hn d mem_cons_self) fun e he => hn e (mem_cons_of_mem _ he)

/-- What is in front of `=` and reads like the attribute ends with a name. -/
theorem sameLetters_of_afterAttr {x : List Char} (hn : IsName n)
    (h : afterAttr attr (x ++ n ++ ['=']) = some []) : sameLetters (x ++ n) attr = true := by
  obtain ⟨a, w, w', heq, hsame, hw, hw'⟩ := afterAttr_eq_nil h
  -- the text ends with `=`, which is no white space
  have hlast : w' = [] := by
    rcases eq_nil_or_concat' w' with rfl | ⟨w', c, rfl⟩
    · rfl
    · rw [show a ++ w ++ '=' :: (w' ++ [c]) = (a ++ w ++ '=' :: w') ++ [c] by simp] at heq
      have hc := hw' c (mem_append_right _ (mem_singleton_self _))
      rw [← (append_inj' heq rfl).2 |> singleton_inj.mp] at hc
      exact absurd hc (by decide)
  subst hlast
  have hfront : x ++ n = a ++ w := (append_inj' heq rfl).1
  -- and its name has no white space
  have hwnil : w = [] := by
    rcases eq_nil_or_concat' w with rfl | ⟨w, c, rfl⟩
    · rfl
    · obtain ⟨n', d, rfl⟩ := (eq_nil_or_concat' n).resolve_left hn.1
      rw [← append_assoc, ← append_assoc] at hfront
      have hcd : d = c := singleton_inj.mp (append_inj' hfront rfl).2
      have hspace := hw c (mem_append_right _ (mem_singleton_self _))
      have hword := hn.2 d (mem_append_right _ (mem_singleton_self _))
      rw [← hcd, not_isSpace_of_isWordChar hword] at hspace
      exact absurd hspace (by decide)
  rw [hfront, hwnil, append_nil]
  exact hsame

theorem afterAttr_name (hn : IsName n) : afterAttr attr (n ++ ['=']) = some [] ↔
    sameLetters n attr = true := by
  constructor
  · intro h
    exact sameLetters_of_afterAttr (x := []) hn h
  · intro h
    have hlength := length_eq_of_sameLetters h
    rw [afterAttr, ← hlength, take_left', if_pos h, drop_left']
    · rfl
    · rfl
    · rfl

/-- **A name and `=`** read like the attribute of this name, whatever is in front of them. -/
theorem endsWithAttr_name (hattr : Searchable attr) (hn : IsName n) (x : List Char)
    (prev : Option Char) : endsWithAttr attr prev (x ++ ' ' :: (n ++ ['='])) =
      sameLetters n attr := by
  induction x generalizing prev with
  | nil =>
    have hspace : ¬afterAttr attr (' ' :: (n ++ ['='])) = some [] := fun h =>
      not_mem_of_sameLetters hattr.space (sameLetters_of_afterAttr (x := [' ']) hn h)
        mem_cons_self
    obtain ⟨c, n', rfl⟩ := exists_cons_of_ne_nil hn.1
    have hname : afterAttr attr (c :: n' ++ ['=']) = some [] ↔ sameLetters (c :: n') attr = true :=
      afterAttr_name hn
    rw [nil_append, endsWithAttr, decide_eq_false hspace, Bool.and_false, Bool.false_or,
      cons_append, endsWithAttr, endsWithAttr_inside n' c (hn.2 c mem_cons_self)
        (fun d hd => hn.2 d (mem_cons_of_mem _ hd)), Bool.or_false, any_some,
      show isWordChar ' ' = false by decide, Bool.not_false, Bool.true_and, ← cons_append]
    exact Bool.eq_iff_iff.mpr (decide_eq_true_iff.trans hname)
  | cons c x ih =>
    have hlonger : ¬afterAttr attr (c :: (x ++ ' ' :: (n ++ ['=']))) = some [] := fun h => by
      have hsame := sameLetters_of_afterAttr (x := c :: (x ++ [' '])) hn (by simpa using h)
      refine not_mem_of_sameLetters hattr.space hsame ?_
      simp
    rw [cons_append, endsWithAttr, decide_eq_false hlonger, Bool.and_false, Bool.false_or, ih]

end Segments

/-! ## Results -/

section Results

variable {attr s : List Char} {attributes : List (String × String)} {prev : Option Char}

/-- Attributes as they are written, up to the end of the tag. -/
def attributesText (attributes : List (String × String)) : List Char :=
  attributes.flatMap attributeText ++ ['/', '>']

/-- Names are words, and values have no quote. -/
def WellWritten (attributes : List (String × String)) : Prop :=
  ∀ a ∈ attributes, IsName a.1.toList ∧ '"' ∉ a.2.toList

theorem attributesText_cons (a : String × String) (rest : List (String × String)) :
    attributesText (a :: rest) =
      ' ' :: (a.1.toList ++ ['=']) ++ '"' :: (a.2.toList ++ '"' :: attributesText rest) := by
  simp [attributesText, attributeText]

theorem quoted_append_quote (s t : List Char) (hs : '"' ∉ s) :
    quoted ('"' :: (s ++ '"' :: t)) = some s := by
  have hfront : ∀ c ∈ s, decide (c ≠ '"') = true := fun c hc =>
    decide_eq_true fun heq => hs (heq ▸ hc)
  rw [quoted, if_pos (mem_append_right _ mem_cons_self),
    takeWhile_append_of_pos hfront, takeWhile_cons_of_neg (by decide), append_nil]

theorem quote_not_mem_name (n : List Char) (hn : IsName n) : '"' ∉ ' ' :: (n ++ ['=']) := by
  intro hmem
  rcases mem_cons.mp hmem with heq | hmem
  · exact absurd heq (by decide)
  · rcases mem_append.mp hmem with hmem | hmem
    · exact hn.not_mem (by decide) hmem
    · exact absurd (mem_singleton.mp hmem) (by decide)

theorem quoted_attributesText (h : WellWritten attributes) :
    quoted ('"' :: attributesText attributes) = nextName attributes := by
  cases attributes with
  | nil => decide
  | cons a rest =>
    rw [attributesText_cons]
    exact quoted_append_quote _ _ (quote_not_mem_name _ (h a mem_cons_self).1)

/-- **A search among attributes.** -/
theorem searchAttr_attributes (hattr : Searchable attr) (h : WellWritten attributes)
    (s : List Char) (hs : '"' ∉ s) (prev : Option Char) :
    searchAttr attr prev (s ++ attributesText attributes) = readAttrs attr attributes := by
  induction attributes generalizing s prev with
  | nil =>
    refine searchAttr_of_not_mem _ _ fun hmem => ?_
    rcases mem_append.mp hmem with hmem | hmem
    · exact hs hmem
    · exact absurd hmem (by decide)
  | cons a rest ih =>
    obtain ⟨hname, hvalue⟩ := h a mem_cons_self
    have hrest : WellWritten rest := fun b hb => h b (mem_cons_of_mem _ hb)
    have hfront : '"' ∉ s ++ ' ' :: (a.1.toList ++ ['=']) := fun hmem =>
      (mem_append.mp hmem).elim hs (quote_not_mem_name _ hname)
    have hnext := ih hrest [] not_mem_nil (some '"')
    rw [nil_append] at hnext
    -- the name up to the value, then the value up to the quote behind it
    rw [attributesText_cons, ← append_assoc, searchAttr_segment hattr _ _ _ hfront,
      endsWithAttr_name hattr hname, quoted_append_quote _ _ hvalue,
      searchAttr_segment hattr _ _ _ hvalue, quoted_attributesText hrest, hnext, readAttrs]
    by_cases hsame : sameLetters a.1.toList attr = true
    · rw [if_pos hsame, if_pos hsame, some_or]
    · rw [if_neg hsame, if_neg hsame, none_or]

/-- **A search finds the attribute** where no value in front of it misleads. -/
theorem readAttrs_eq_field (h : misleads attr attributes = false) :
    (readAttrs attr attributes).map String.ofList = field attributes attr := by
  induction attributes with
  | nil => rfl
  | cons a rest ih =>
    rw [readAttrs, field, find?_cons]
    by_cases hsame : sameLetters a.1.toList attr = true
    · rw [if_pos hsame, hsame, map_some, map_some, String.ofList_toList]
    · rw [if_neg hsame, eq_false_of_ne_true hsame]
      cases rest with
      | nil =>
        rw [nextName, ite_self, readAttrs, none_or]
        rfl
      | cons b rest =>
        rw [misleads, isEmpty_cons, eq_false_of_ne_true hsame, Bool.not_false, Bool.true_and,
          Bool.true_and, Bool.or_eq_false_iff] at h
        obtain ⟨hends, hrest⟩ := h
        rw [if_neg (hends ▸ Bool.false_ne_true), none_or]
        exact ih hrest

end Results

end AppliverySoar.AppLists
