import AppliverySoar.AppLists.PackageAttributes

/-!
# Templates

`renderTemplate` (workflows/templateRender.ts, lines 16–26), by which the steps
of a workflow write the attributes of a device into requests and notifications.

Results:
* `exists_template`: every text is one of literals and holes.
* `renderTemplate_faithful`: its literals are kept, its holes filled.
-/

namespace AppliverySoar.Workflows

open Js List
open AppLists (isWordChar not_isSpace_of_isWordChar)

/-! ## Placeholders -/

/-- `[\w.]`. -/
def isPathChar (c : Char) : Bool :=
  isWordChar c || c = '.'

/-- The match of `\{\{\s*([\w.]+)\s*\}\}` that a text starts with: its path, and
the text after it. No character is of two of the classes, so that the first try
is the only one. -/
def placeholder : List Char → Option (List Char × List Char)
  | '{' :: '{' :: s =>
    let s := s.dropWhile isSpace
    let path := s.takeWhile isPathChar
    match (s.dropWhile isPathChar).dropWhile isSpace with
    | '}' :: '}' :: rest => if path = [] then none else some (path, rest)
    | _ => none
  | _ => none

/-- A text in which no placeholder starts. -/
structure Literal where
  text : List Char
  plain : ∀ t, t <:+ text → placeholder t = none

/-- A placeholder, with the spaces it is written with. -/
structure Hole where
  before : List Char
  path : List Char
  after : List Char
  space_before : ∀ c ∈ before, isSpace c
  path_chars : ∀ c ∈ path, isPathChar c
  path_ne_nil : path ≠ []
  space_after : ∀ c ∈ after, isSpace c

def Hole.text (h : Hole) : List Char :=
  '{' :: '{' :: (h.before ++ (h.path ++ (h.after ++ ['}', '}'])))

theorem not_isSpace_of_isPathChar {c : Char} (h : isPathChar c = true) : isSpace c = false := by
  rcases Bool.or_eq_true_iff.mp h with h | h
  · exact not_isSpace_of_isWordChar h
  · rw [of_decide_eq_true h]
    decide

section Scans

variable {p : Char → Bool} {s u : List Char} {c : Char}

theorem dropWhile_append_stop (h : p c = false) :
    (s ++ c :: u).dropWhile p = s.dropWhile p ++ c :: u := by
  induction s with
  | nil => simp [h]
  | cons a s ih =>
    rw [cons_append, dropWhile_cons, dropWhile_cons, ih]
    split <;> rfl

theorem takeWhile_append_stop (h : p c = false) :
    (s ++ c :: u).takeWhile p = s.takeWhile p := by
  induction s with
  | nil => simp [h]
  | cons a s ih => rw [cons_append, takeWhile_cons, takeWhile_cons, ih]

end Scans

theorem placeholder_hole (h : Hole) (u : List Char) :
    placeholder (h.text ++ u) = some (h.path, u) := by
  obtain ⟨before, path, after, hbefore, hpath, hne, hafter⟩ := h
  have hfirst : (path ++ (after ++ '}' :: '}' :: u)).dropWhile isSpace =
      path ++ (after ++ '}' :: '}' :: u) := by
    obtain ⟨c, path, rfl⟩ := exists_cons_of_ne_nil hne
    exact dropWhile_cons_of_neg (by simp [not_isSpace_of_isPathChar (hpath c mem_cons_self)])
  have hlast : (after ++ '}' :: '}' :: u).head?.any isPathChar = false := by
    cases after with
    | nil => exact show isPathChar '}' = false by decide
    | cons c after =>
      refine Bool.eq_false_iff.mpr fun hc => ?_
      have := hafter c mem_cons_self
      rw [not_isSpace_of_isPathChar hc] at this
      cases this
  cases hrest : after ++ '}' :: '}' :: u with
  | nil => simp at hrest
  | cons d rest =>
    rw [hrest] at hfirst hlast
    have hd : ¬isPathChar d = true := by simpa using hlast
    simp only [Hole.text, placeholder, cons_append, append_assoc, nil_append,
      dropWhile_append_of_pos hbefore, hrest, hfirst, dropWhile_append_of_pos hpath,
      takeWhile_append_of_pos hpath]
    rw [dropWhile_cons_of_neg hd, takeWhile_cons_of_neg hd, ← hrest,
      dropWhile_append_of_pos hafter, append_nil]
    simp [isSpace, hne]

theorem exists_hole {s path rest : List Char} (hs : placeholder s = some (path, rest)) :
    ∃ h : Hole, h.path = path ∧ s = h.text ++ rest := by
  unfold placeholder at hs
  split at hs
  · next s =>
    dsimp only at hs
    split at hs
    · next rest' htail =>
      split at hs
      · cases hs
      · next hne =>
        cases hs
        refine ⟨⟨s.takeWhile isSpace, _,
          ((s.dropWhile isSpace).dropWhile isPathChar).takeWhile isSpace,
          fun _ => mem_takeWhile_imp, fun _ => mem_takeWhile_imp, hne,
          fun _ => mem_takeWhile_imp⟩, rfl, ?_⟩
        simp only [Hole.text, cons_append, append_assoc, nil_append, ← htail,
          takeWhile_append_dropWhile]
    · cases hs
  · cases hs

/-- A placeholder does not reach into the one after it. -/
theorem placeholder_append_eq_none {t u : List Char} (ht : t ≠ []) :
    placeholder (t ++ '{' :: '{' :: u) = none ↔ placeholder t = none := by
  rcases t with _ | ⟨a, _ | ⟨b, t⟩⟩
  · exact absurd rfl ht
  · by_cases ha : a = '{'
    · subst ha
      -- With the brace after it this is `{{`, but the brace after that is in no class.
      simp [placeholder, dropWhile_cons_of_neg (show ¬isSpace '{' = true by decide),
        dropWhile_cons_of_neg (show ¬isPathChar '{' = true by decide)]
    · simp [placeholder, ha]
  · by_cases hab : a = '{' ∧ b = '{'
    · obtain ⟨rfl, rfl⟩ := hab
      simp only [placeholder, cons_append,
        dropWhile_append_stop (p := isSpace) (c := '{') (by decide),
        dropWhile_append_stop (p := isPathChar) (c := '{') (by decide),
        takeWhile_append_stop (p := isPathChar) (c := '{') (by decide)]
      -- What is left of `t` behind its path begins with `}}`, or does not with a brace behind it.
      rcases ((t.dropWhile isSpace).dropWhile isPathChar).dropWhile isSpace with
        _ | ⟨c, _ | ⟨d, rest⟩⟩
      · simp
      · simp
      · simp only [cons_append]
        split <;> simp_all
    · have hnone : ∀ v, placeholder (a :: b :: v) = none := by
        intro v
        unfold placeholder
        split
        · simp_all
        · rfl
      simp [hnone]

/-! ## Rendering -/

/-- `input.replace(…)`: the text with a value for each placeholder. -/
def replaceAll (value : List Char → List Char) : List Char → List Char
  | [] => []
  | c :: s =>
    match _h : placeholder (c :: s) with
    | some (path, rest) => value path ++ replaceAll value rest
    | none => c :: replaceAll value s
termination_by s => s.length
decreasing_by
  · obtain ⟨hole, -, heq⟩ := exists_hole _h
    rw [heq, Hole.text]
    simp
    omega
  · simp

/-- Literals with holes between them. -/
inductive Template
  | literal (l : Literal)
  | hole (l : Literal) (h : Hole) (rest : Template)

namespace Template

def text : Template → List Char
  | .literal l => l.text
  | .hole l h rest => l.text ++ (h.text ++ rest.text)

/-- The literals with a value in each hole. -/
def filled (value : List Char → List Char) : Template → List Char
  | .literal l => l.text
  | .hole l h rest => l.text ++ (value h.path ++ rest.filled value)

end Template

variable {value : List Char → List Char}

theorem replaceAll_append {s u : List Char} (hs : ∀ t, t <:+ s → placeholder t = none)
    (hu : u = [] ∨ ∃ v, u = '{' :: '{' :: v) :
    replaceAll value (s ++ u) = s ++ replaceAll value u := by
  induction s with
  | nil => rfl
  | cons c s ih =>
    have hnone : placeholder (c :: (s ++ u)) = none := by
      rcases hu with rfl | ⟨v, rfl⟩
      · rw [append_nil]
        exact hs _ (suffix_refl _)
      · exact (placeholder_append_eq_none (cons_ne_nil c s)).mpr (hs _ (suffix_refl _))
    rw [cons_append, replaceAll]
    split
    · simp_all
    · rw [ih fun t ht => hs t (ht.trans (suffix_cons c s)), cons_append]

theorem replaceAll_text (t : Template) : replaceAll value t.text = t.filled value := by
  induction t with
  | literal l =>
    rw [Template.text, ← append_nil l.text, replaceAll_append l.plain (.inl rfl), replaceAll]
    simp [Template.filled]
  | hole l h rest ih =>
    have hsome := placeholder_hole h rest.text
    have hstart : ∃ v, h.text ++ rest.text = '{' :: '{' :: v := ⟨_, rfl⟩
    rw [Template.text, replaceAll_append l.plain (.inr hstart), Template.filled, ← ih]
    rw [Hole.text, cons_append] at hsome ⊢
    rw [replaceAll]
    split <;> simp_all

/-- Every text is one of literals and holes. -/
theorem exists_template (s : List Char) : ∃ t : Template, t.text = s := by
  induction s using replaceAll.induct with
  | case1 => exact ⟨.literal ⟨[], by simp [placeholder]⟩, rfl⟩
  | case2 c s path rest hsome ih =>
    obtain ⟨t, rfl⟩ := ih
    obtain ⟨h, -, heq⟩ := exists_hole hsome
    exact ⟨.hole ⟨[], by simp [placeholder]⟩ h t, heq.symm⟩
  | case3 c s hnone ih =>
    obtain ⟨t, rfl⟩ := ih
    have hplain {l : Literal} (h : placeholder (c :: l.text) = none) (t : List Char)
        (ht : t <:+ c :: l.text) : placeholder t = none := by
      rcases suffix_cons_iff.mp ht with rfl | ht
      · exact h
      · exact l.plain t ht
    cases t with
    | literal l => exact ⟨.literal ⟨_, hplain hnone⟩, rfl⟩
    | hole l h rest =>
      have hfree := (placeholder_append_eq_none (cons_ne_nil c _)).mp hnone
      exact ⟨.hole ⟨_, hplain hfree⟩ h rest, rfl⟩

/-! ## The attributes of a device -/

section Attributes

variable (r : Runtime) (arrayMember : String → Value)

/-- `acc[key]` where `acc` is an object, with what arrays inherit. -/
def member (acc : Value) (key : String) : Value :=
  match acc with
  | .arr l =>
    if key = "length" then .num l.length
    else ((range l.length).find? fun i => toString i = key).elim (arrayMember key) fun i =>
      l.getD i .undefined
  | _ => acc.prop r key

/-- What is written for a path. -/
def valueText (context : Value) (path : List Char) : List Char :=
  let value := (path.splitOn '.').foldl
    (fun acc key => member r arrayMember acc (String.ofList key)) context
  if value.isNullish then [] else (value.text r).toList

def renderTemplate (input : Option String) (context : Value) : String :=
  match input with
  | none => ""
  | some input => String.ofList (replaceAll (valueText r arrayMember context) input.toList)

/-- **Templates are filled**: every text is one of literals and holes, and rendering it
keeps the literals, fills the holes and renders no value again. -/
theorem renderTemplate_faithful (input : String) (context : Value) :
    (∃ t : Template, t.text = input.toList) ∧ ∀ t : Template, t.text = input.toList →
      renderTemplate r arrayMember (some input) context =
        String.ofList (t.filled (valueText r arrayMember context)) := by
  refine ⟨exists_template _, fun t ht => ?_⟩
  rw [renderTemplate, ← ht, replaceAll_text]

end Attributes

end AppliverySoar.Workflows
