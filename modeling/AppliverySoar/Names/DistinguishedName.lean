import Mathlib.Algebra.BigOperators.Group.List.Basic

/-!
# Distinguished names as text

The string form of a distinguished name (RFC 2253): how such a text is read,
and which texts are printings of a name. A text is first cut into `Token`s, so
that escaped characters are never taken for separators.

The reader accepts what section 3 of the RFC derives, spaces around separators
and semicolons (section 4), and an unescaped `=`, `#`, `<` or `>` within a
value. A printing (section 2) may escape more than it has to, and may put the
parts of a multi-valued component in any order.

Results:
* `tokens_spell_append`, `exists_of_spell_eq_append`: a text is cut into tokens
  in one way, and cutting the text between two tokens cuts the list.
-/

namespace AppliverySoar.Names

open List Option

/-! ## Tokens -/

/-- A unit of the text: a character that stands for itself, such a character
between quotation marks, `\c`, `\hh`, a quotation mark. -/
inductive Token
  | raw (c : Char)
  | quoted (c : Char)
  | pair (c : Char)
  | octet (high low : Char)
  | quote
  deriving DecidableEq

/-- The value of a hexadecimal digit. -/
def hexDigit (c : Char) : Option ℕ :=
  if '0' ≤ c ∧ c ≤ '9' then some (c.toNat - 48)
  else if 'A' ≤ c ∧ c ≤ 'F' then some (c.toNat - 55)
  else if 'a' ≤ c ∧ c ≤ 'f' then some (c.toNat - 87)
  else none

/-- The octet that a pair of digits stands for. -/
def hexPair (high low : Char) : Option UInt8 := do
  let a ← hexDigit high
  let b ← hexDigit low
  return UInt8.ofNat (16 * a + b)

/-- The characters that may follow a backslash on their own. -/
def pairChars : List Char :=
  [',', '=', '+', '<', '>', '#', ';', '\\', '"', ' ']

/-- The characters of a value that cannot stand for themselves. -/
def reservedChars : List Char :=
  [',', '+', '"', '\\', '<', '>', ';']

/-- The text of a token. -/
def Token.spell : Token → List Char
  | .raw c | .quoted c => [c]
  | .pair c => ['\\', c]
  | .octet high low => ['\\', high, low]
  | .quote => ['"']

/-- The octets that a token adds to a value. -/
def Token.octets : Token → List UInt8
  | .raw c | .quoted c | .pair c => String.utf8EncodeChar c
  | .octet high low => (hexPair high low).toList
  | .quote => []

/-- The tokens of a text, from a place that is between quotation marks or not. -/
def tokens (inQuotes : Bool) : List Char → Option (List Token)
  | [] => if inQuotes then none else some []
  | c :: rest =>
    if c = '\\' then
      match rest with
      | [] => none
      | d :: rest =>
        if d ∈ pairChars then (tokens inQuotes rest).map (.pair d :: ·)
        else
          match rest with
          | [] => none
          | e :: rest =>
            if (hexPair d e).isSome then (tokens inQuotes rest).map (.octet d e :: ·) else none
    else if c = '"' then (tokens (!inQuotes) rest).map (.quote :: ·)
    else (tokens inQuotes rest).map ((if inQuotes then .quoted c else .raw c) :: ·)

/-- A token that can stand outside quotation marks. -/
def Token.Plain : Token → Prop
  | .raw c => c ≠ '\\' ∧ c ≠ '"'
  | .pair c => c ∈ pairChars
  | .octet high low => (hexPair high low).isSome
  | .quoted _ | .quote => False

/-- A token that may be printed in a value. -/
def Token.Safe : Token → Prop
  | .raw c => c ∉ reservedChars
  | t => t.Plain

/-! ## Names -/

/-- A value: the octets of a string in UTF-8, or a BER encoding that has no
string form. -/
inductive Value
  | text (octets : List UInt8)
  | encoded (ber : List UInt8)
  deriving DecidableEq

/-- An attribute with its type as it is printed. -/
structure Ava where
  type : List Char
  value : Value
  deriving DecidableEq

/-- A name, in the order of its text. -/
abbrev Name : Type := List (List Ava)

/-- The characters of keywords and dotted numbers. -/
def keyChar (c : Char) : Bool :=
  c.isAlphanum || c == '-' || c == '.'

/-- What is known of the attribute types: the keyword or number that a type is
printed with, by how it is written, and the string of a BER encoding. -/
structure Schema where
  keyword : List Char → Option (List Char)
  berString : List UInt8 → Option (List UInt8)
  keyword_cn : keyword ['C', 'N'] = some ['C', 'N']
  keyword_keyChar : ∀ k k', keyword k = some k' → ∀ c ∈ k', keyChar c = true
  keyword_keyword : ∀ k k', keyword k = some k' → keyword k' = some k'
  /-- The tag and the length come on top of the string. -/
  berString_length : ∀ ber s, berString ber = some s → s.length ≤ ber.length

/-! ## Reading -/

/-- Without the spaces at both ends. -/
def strip (ts : List Token) : List Token :=
  ((ts.dropWhile (· == .raw ' ')).reverse.dropWhile (· == .raw ' ')).reverse

/-- The octets of a string of hexadecimal pairs. -/
def hexString : List Token → Option (List UInt8)
  | [] => some []
  | .raw high :: .raw low :: ts => do
    let b ← hexPair high low
    let bs ← hexString ts
    return b :: bs
  | _ => none

/-- The characters of unescaped tokens. -/
def rawText (ts : List Token) : Option (List Char) :=
  ts.mapM fun t => match t with
    | .raw c => some c
    | _ => none

variable (σ : Schema)

/-- The value of a BER encoding. -/
def Schema.berValue (ber : List UInt8) : Value :=
  match σ.berString ber with
  | some s => .text s
  | none => .encoded ber

/-- `attributeValue`. -/
def readValue (ts : List Token) : Option Value :=
  let ts := strip ts
  if ts.head? = some (.raw '#') then
    if ts.tail = [] then none else (hexString ts.tail).map σ.berValue
  else if .quote ∈ ts then
    if ts.head? = some .quote ∧ ts.getLast? = some .quote ∧ ts.count .quote = 2 then
      some (.text (ts.flatMap Token.octets))
    else none
  else some (.text (ts.flatMap Token.octets))

/-- `attributeTypeAndValue`. -/
def readAva (ts : List Token) : Option Ava :=
  match ts.dropWhile (· != .raw '=') with
  | [] => none
  | _ :: value => do
    let type ← σ.keyword (← rawText (strip (ts.takeWhile (· != .raw '='))))
    let value ← readValue σ value
    return ⟨type, value⟩

/-- `name-component`. -/
def readRdn (ts : List Token) : Option (List Ava) :=
  (ts.splitOn (.raw '+')).mapM (readAva σ)

/-- `distinguishedName`. -/
def readName (text : List Char) : Option Name := do
  let ts ← tokens false text
  if strip ts = [] then some []
  else (ts.splitOnP fun t => t == .raw ',' || t == .raw ';').mapM (readRdn σ)

/-! ## Printing -/

/-- The tokens are a printing of the value. -/
inductive PrintsValue : Value → List Token → Prop
  | text {ts : List Token} (safe : ∀ t ∈ ts, t.Safe) (head_space : ts.head? ≠ some (.raw ' '))
      (head_hash : ts.head? ≠ some (.raw '#')) (last_space : ts.getLast? ≠ some (.raw ' ')) :
      PrintsValue (.text (ts.flatMap Token.octets)) ts
  | encoded {ber : List UInt8} {hex : List Token} (noString : σ.berString ber = none)
      (nonempty : hex ≠ []) (digits : hexString hex = some ber) :
      PrintsValue (.encoded ber) (.raw '#' :: hex)

/-- The tokens are a printing of the attribute. -/
def PrintsAva (a : Ava) (ts : List Token) : Prop :=
  σ.keyword a.type = some a.type ∧
    ∃ value, PrintsValue σ a.value value ∧ ts = a.type.map .raw ++ .raw '=' :: value

/-- The tokens are a printing of the component. -/
def PrintsRdn (r : List Ava) (ts : List Token) : Prop :=
  ∃ r' parts, r'.Perm r ∧ List.Forall₂ (PrintsAva σ) r' parts ∧ ts = [.raw '+'].intercalate parts

/-- The text is a printing of the name. -/
def Prints (n : Name) (text : List Char) : Prop :=
  ∃ parts, List.Forall₂ (PrintsRdn σ) n parts ∧
    text = ([.raw ','].intercalate parts).flatMap Token.spell

/-! ## A text has one list of tokens -/

variable {c : Char} {high low : Char}

theorem hexDigit_of_mem_pairChars (h : c ∈ pairChars) : hexDigit c = none := by
  simp only [pairChars, mem_cons, not_mem_nil, or_false] at h
  rcases h with rfl | rfl | rfl | rfl | rfl | rfl | rfl | rfl | rfl | rfl <;> decide

theorem hexDigit_isSome_of_hexPair (h : (hexPair high low).isSome) :
    (hexDigit high).isSome ∧ (hexDigit low).isSome := by
  unfold hexPair at h
  cases hhigh : hexDigit high with
  | none => simp [hhigh] at h
  | some a =>
    cases hlow : hexDigit low with
    | none => simp [hhigh, hlow] at h
    | some b => exact ⟨rfl, rfl⟩

theorem not_mem_pairChars_of_hexPair (h : (hexPair high low).isSome) :
    high ∉ pairChars := fun hmem => by
  have := (hexDigit_isSome_of_hexPair h).1
  rw [hexDigit_of_mem_pairChars hmem] at this
  exact absurd this Bool.false_ne_true

variable {t : Token} {ts : List Token} {a b : List Char}

theorem tokens_spell (ht : t.Plain) (rest : List Char) :
    tokens false (t.spell ++ rest) = (tokens false rest).map (t :: ·) := by
  cases t with
  | raw c =>
    rw [show Token.spell (.raw c) ++ rest = c :: rest from rfl, tokens.eq_def]
    exact (if_neg ht.1).trans (if_neg ht.2)
  | pair c =>
    rw [show Token.spell (.pair c) ++ rest = '\\' :: c :: rest from rfl, tokens.eq_def]
    exact (if_pos rfl).trans (if_pos ht)
  | octet high low =>
    rw [show Token.spell (.octet high low) ++ rest = '\\' :: high :: low :: rest from rfl,
      tokens.eq_def]
    exact (if_pos rfl).trans ((if_neg (not_mem_pairChars_of_hexPair ht)).trans (if_pos ht))
  | quoted c => exact absurd ht id
  | quote => exact absurd ht id

theorem tokens_spell_append (hts : ∀ t ∈ ts, t.Plain) (rest : List Char) :
    tokens false (ts.flatMap Token.spell ++ rest) = (tokens false rest).map (ts ++ ·) := by
  induction ts with
  | nil => simp
  | cons t ts ih =>
    rw [flatMap_cons, append_assoc, tokens_spell (hts t mem_cons_self),
      ih fun u hu => hts u (mem_cons_of_mem t hu), Option.map_map]
    rfl

theorem tokens_flatMap_spell (hts : ∀ t ∈ ts, t.Plain) :
    tokens false (ts.flatMap Token.spell) = some ts := by
  have h := tokens_spell_append hts []
  rwa [append_nil, show tokens false [] = some [] from rfl, map_some,
    append_nil] at h

theorem spell_map_raw (l : List Char) : (l.map Token.raw).flatMap Token.spell = l := by
  induction l with
  | nil => rfl
  | cons c l ih => rw [map_cons, flatMap_cons, ih]; rfl

theorem eq_nil_of_spell_eq_append (ht : t.Plain)
    (h : t.spell = a ++ b) (hb : b ≠ []) (ha : tokens false a ≠ none) : a = [] := by
  cases t with
  | raw c =>
    rcases cons_eq_append_iff.mp h with ⟨rfl, -⟩ | ⟨a', -, h⟩
    · rfl
    · exact absurd (append_eq_nil_iff.mp h.symm).2 hb
  | pair c =>
    match a, h with
    | [], _ => rfl
    | [x], h =>
      obtain ⟨rfl, -⟩ := List.cons.inj h
      exact absurd rfl ha
    | x :: y :: a, h =>
      obtain ⟨-, h⟩ := List.cons.inj h
      exact absurd (append_eq_nil_iff.mp (List.cons.inj h).2.symm).2 hb
  | octet high low =>
    match a, h with
    | [], _ => rfl
    | [x], h =>
      obtain ⟨rfl, -⟩ := List.cons.inj h
      exact absurd rfl ha
    | [x, y], h =>
      obtain ⟨hx, h⟩ := List.cons.inj h
      obtain ⟨rfl, -⟩ := List.cons.inj h
      refine absurd ?_ ha
      rw [← hx, tokens.eq_def]
      exact (if_pos rfl).trans (if_neg (not_mem_pairChars_of_hexPair ht))
    | x :: y :: z :: a, h =>
      obtain ⟨-, h⟩ := List.cons.inj h
      obtain ⟨-, h⟩ := List.cons.inj h
      exact absurd (append_eq_nil_iff.mp (List.cons.inj h).2.symm).2 hb
  | quoted c => exact absurd ht id
  | quote => exact absurd ht id

/-- Where a text is cut so that its first part is a text of its own, the list of
tokens is cut. -/
theorem exists_of_spell_eq_append (hts : ∀ t ∈ ts, t.Plain)
    (h : ts.flatMap Token.spell = a ++ b) (ha : tokens false a ≠ none) :
    ∃ us vs, ts = us ++ vs ∧ us.flatMap Token.spell = a ∧ vs.flatMap Token.spell = b := by
  induction ts generalizing a with
  | nil =>
    obtain ⟨rfl, rfl⟩ := append_eq_nil_iff.mp h.symm
    exact ⟨[], [], rfl, rfl, rfl⟩
  | cons t ts ih =>
    have ht := hts t mem_cons_self
    have hts' : ∀ u ∈ ts, u.Plain := fun u hu => hts u (mem_cons_of_mem t hu)
    rw [flatMap_cons] at h
    rcases append_eq_append_iff.mp h with ⟨a', rfl, hrest⟩ | ⟨b', hb', rfl⟩
    · rw [tokens_spell ht] at ha
      obtain ⟨us, vs, rfl, hus, hvs⟩ := ih hts' hrest fun hnone => ha (by rw [hnone]; rfl)
      exact ⟨t :: us, vs, rfl, by rw [flatMap_cons, hus], hvs⟩
    · by_cases hnil : b' = []
      · subst hnil
        exact ⟨[t], ts, rfl, by simpa using hb', rfl⟩
      · obtain rfl := eq_nil_of_spell_eq_append ht hb' hnil ha
        exact ⟨[], t :: ts, rfl, rfl, by rw [flatMap_cons, hb', nil_append]⟩

theorem exists_of_spell_eq_comma (hts : ∀ t ∈ ts, t.Plain)
    (h : ts.flatMap Token.spell = a ++ ',' :: b) :
    ∃ us vs, ts = us ++ vs ∧ us.flatMap Token.spell = a ++ [','] ∧ vs.flatMap Token.spell = b := by
  induction ts generalizing a with
  | nil => simp at h
  | cons t ts ih =>
    have ht := hts t mem_cons_self
    have hts' : ∀ u ∈ ts, u.Plain := fun u hu => hts u (mem_cons_of_mem t hu)
    have next {a'} (h : ts.flatMap Token.spell = a' ++ ',' :: b) : ∃ us vs, t :: ts = us ++ vs ∧
        us.flatMap Token.spell = (t.spell ++ a') ++ [','] ∧ vs.flatMap Token.spell = b := by
      obtain ⟨us, vs, rfl, hus, hvs⟩ := ih hts' h
      exact ⟨t :: us, vs, rfl, by rw [flatMap_cons, hus, append_assoc], hvs⟩
    rw [flatMap_cons] at h
    rcases append_eq_append_iff.mp h with ⟨a', rfl, hrest⟩ | ⟨b', hb', hcomma⟩
    · exact next hrest
    · cases b' with
      | nil =>
        rw [append_nil] at hb'
        obtain ⟨us, vs, hts, hus, hvs⟩ := @next [] hcomma.symm
        exact ⟨us, vs, hts, by rw [hus, hb', append_nil], hvs⟩
      | cons c b' =>
        obtain ⟨rfl, hrest⟩ := List.cons.inj hcomma
        have hlast : b' = [] := by
          cases t with
          | raw d =>
            rcases cons_eq_append_iff.mp hb' with ⟨-, h⟩ | ⟨a', -, h⟩
            · exact (List.cons.inj h).2
            · exact absurd (append_eq_nil_iff.mp h.symm).2 (cons_ne_nil _ _)
          | pair d =>
            match a, hb' with
            | [], h => exact absurd (List.cons.inj h).1 (by decide)
            | [x], h => exact (List.cons.inj (List.cons.inj h).2).2.symm
            | x :: y :: a, h =>
              have := (List.cons.inj (List.cons.inj h).2).2
              exact absurd (append_eq_nil_iff.mp this.symm).2 (cons_ne_nil _ _)
          | octet high low =>
            have hdigits := hexDigit_isSome_of_hexPair ht
            match a, hb' with
            | [], h => exact absurd (List.cons.inj h).1 (by decide)
            | [x], h =>
              obtain ⟨rfl, -⟩ := List.cons.inj (List.cons.inj h).2
              exact absurd hdigits.1 (by decide)
            | [x, y], h => exact (List.cons.inj (List.cons.inj (List.cons.inj h).2).2).2.symm
            | x :: y :: z :: a, h =>
              have := (List.cons.inj (List.cons.inj (List.cons.inj h).2).2).2
              exact absurd (append_eq_nil_iff.mp this.symm).2 (cons_ne_nil _ _)
          | quoted c => exact absurd ht id
          | quote => exact absurd ht id
        subst hlast
        exact ⟨[t], ts, rfl, by simpa using hb', hrest.symm⟩

/-! ## What a printing is made of -/

theorem mem_of_mem_intercalate {x t : Token} {parts : List (List Token)}
    (h : t ∈ [x].intercalate parts) : t = x ∨ ∃ part ∈ parts, t ∈ part := by
  induction parts with
  | nil => exact absurd h not_mem_nil
  | cons part parts ih =>
    cases parts with
    | nil =>
      rw [intercalate_singleton] at h
      exact .inr ⟨part, mem_cons_self, h⟩
    | cons part' parts =>
      rw [intercalate_cons_cons, mem_append, mem_append, mem_singleton] at h
      rcases h with (h | h) | h
      · exact .inr ⟨part, mem_cons_self, h⟩
      · exact .inl h
      · refine (ih h).imp id ?_
        rintro ⟨p, hp, ht⟩
        exact ⟨p, mem_cons_of_mem _ hp, ht⟩

theorem mem_pairChars_of_mem_reservedChars (h : c ∈ reservedChars) : c ∈ pairChars := by
  simp only [reservedChars, mem_cons, not_mem_nil, or_false] at h
  rcases h with rfl | rfl | rfl | rfl | rfl | rfl | rfl <;> decide

theorem Token.Safe.plain (h : t.Safe) : t.Plain := by
  cases t with
  | raw c =>
    refine ⟨fun hc => h ?_, fun hc => h ?_⟩ <;> rw [hc] <;> decide
  | _ => exact h

theorem Token.Safe.ne_raw (h : t.Safe) (hc : c ∈ reservedChars) : t ≠ .raw c := by
  rintro rfl
  exact h hc

theorem safe_raw_of_not_mem (h : c ∉ pairChars) : (Token.raw c).Safe :=
  fun hc => h (mem_pairChars_of_mem_reservedChars hc)

theorem not_mem_pairChars_of_hexDigit (h : (hexDigit c).isSome) : c ∉ pairChars :=
  fun hmem => by
    rw [hexDigit_of_mem_pairChars hmem] at h
    exact absurd h Bool.false_ne_true

theorem not_mem_pairChars_of_keyChar (h : keyChar c = true) : c ∉ pairChars :=
  fun hmem => by
    simp only [pairChars, mem_cons, not_mem_nil, or_false] at hmem
    rcases hmem with rfl | rfl | rfl | rfl | rfl | rfl | rfl | rfl | rfl | rfl <;>
      exact absurd h (by decide)

/-- A string of hexadecimal pairs: two unescaped digits for each octet. -/
theorem hexString_spec {bs : List UInt8} (h : hexString ts = some bs) :
    (∀ t ∈ ts, ∃ c, t = .raw c ∧ (hexDigit c).isSome) ∧ ts.length = 2 * bs.length := by
  fun_induction hexString ts generalizing bs with
  | case1 =>
    obtain rfl := some.inj h
    exact ⟨fun t ht => absurd ht not_mem_nil, rfl⟩
  | case2 high low ts ih =>
    obtain ⟨b, hb, h⟩ := bind_eq_some_iff.mp h
    obtain ⟨bs', hbs', h⟩ := bind_eq_some_iff.mp h
    obtain rfl := some.inj h
    obtain ⟨hraw, hlength⟩ := ih hbs'
    have hdigits := hexDigit_isSome_of_hexPair (isSome_of_eq_some hb)
    refine ⟨fun t ht => ?_, ?_⟩
    · rcases mem_cons.mp ht with rfl | ht
      · exact ⟨high, rfl, hdigits.1⟩
      rcases mem_cons.mp ht with rfl | ht
      · exact ⟨low, rfl, hdigits.2⟩
      · exact hraw t ht
    · simp only [length_cons, hlength]
      omega
  | case3 => exact absurd h (by simp)

variable {σ} {v : Value} {a : Ava} {r : List Ava} {n : Name} {ts : List Token}

theorem PrintsValue.safe (h : PrintsValue σ v ts) : ∀ t ∈ ts, t.Safe := by
  cases h with
  | text safe => exact safe
  | encoded noString nonempty digits =>
    intro t ht
    rcases mem_cons.mp ht with rfl | ht
    · exact (by decide : '#' ∉ reservedChars)
    · obtain ⟨c, rfl, hc⟩ := (hexString_spec digits).1 t ht
      exact safe_raw_of_not_mem (not_mem_pairChars_of_hexDigit hc)

theorem PrintsAva.safe (h : PrintsAva σ a ts) : ∀ t ∈ ts, t.Safe := by
  obtain ⟨htype, value, hvalue, rfl⟩ := h
  intro t ht
  rcases mem_append.mp ht with ht | ht
  · obtain ⟨c, hc, rfl⟩ := mem_map.mp ht
    exact safe_raw_of_not_mem (not_mem_pairChars_of_keyChar (σ.keyword_keyChar _ _ htype c hc))
  · rcases mem_cons.mp ht with rfl | ht
    · exact (by decide : '=' ∉ reservedChars)
    · exact hvalue.safe t ht

/-- The tokens of a component: safe ones and `+`. -/
theorem PrintsRdn.safe (h : PrintsRdn σ r ts) : ∀ t ∈ ts, t = .raw '+' ∨ t.Safe := by
  obtain ⟨r', parts, -, hparts, rfl⟩ := h
  intro t ht
  refine (mem_of_mem_intercalate ht).imp id ?_
  rintro ⟨part, hpart, ht⟩
  obtain ⟨i, hi, rfl⟩ := mem_iff_getElem.mp hpart
  exact (hparts.get (by rw [hparts.length_eq]; exact hi) hi).safe t ht

theorem PrintsRdn.plain (h : PrintsRdn σ r ts) : ∀ t ∈ ts, t.Plain := by
  intro t ht
  rcases h.safe t ht with rfl | ht
  · exact ⟨by decide, by decide⟩
  · exact ht.plain

theorem PrintsRdn.ne_raw (h : PrintsRdn σ r ts) (hc : c ∈ reservedChars)
    (hplus : c ≠ '+') : ∀ t ∈ ts, t ≠ .raw c := by
  intro t ht
  rcases h.safe t ht with rfl | ht
  · exact fun heq => hplus (Token.raw.inj heq).symm
  · exact ht.ne_raw hc

/-! ## Reading a printing back -/

theorem strip_of_ends (hhead : ts.head? ≠ some (.raw ' ')) (hlast : ts.getLast? ≠ some (.raw ' ')) :
    strip ts = ts := by
  have drop {us : List Token} (h : us.head? ≠ some (.raw ' ')) :
      us.dropWhile (· == .raw ' ') = us := by
    cases us with
    | nil => rfl
    | cons u us => exact dropWhile_cons_of_neg (by simpa using h)
  rw [strip, drop hhead, drop (by rwa [head?_reverse]), reverse_reverse]

theorem readValue_of_prints (h : PrintsValue σ v ts) : readValue σ ts = some v := by
  cases h with
  | text safe head_space head_hash last_space =>
    have hquote : Token.quote ∉ ts := fun hmem => (safe _ hmem).plain
    rw [readValue, strip_of_ends head_space last_space]
    exact (if_neg head_hash).trans (if_neg hquote)
  | @encoded ber hex noString nonempty digits =>
    have hlast : (Token.raw '#' :: hex).getLast? ≠ some (.raw ' ') := fun h => by
      rcases mem_cons.mp (mem_of_getLast? h) with h | h
      · exact absurd (Token.raw.inj h) (by decide)
      · obtain ⟨c, hc, hdigit⟩ := (hexString_spec digits).1 _ h
        obtain rfl := Token.raw.inj hc
        exact absurd hdigit (by decide)
    rw [readValue, strip_of_ends (by simp) hlast]
    refine (if_pos rfl).trans ((if_neg nonempty).trans ?_)
    rw [tail_cons, digits, map_some, Schema.berValue, noString]

theorem rawText_map_raw (l : List Char) : rawText (l.map .raw) = some l := by
  induction l with
  | nil => rfl
  | cons c l ih =>
    rw [rawText] at ih ⊢
    rw [map_cons, mapM_cons, ih]
    rfl

/-- An attribute is read from its first `=` on. -/
theorem readAva_append {k k' : List Char} (hk : ∀ c ∈ k, keyChar c = true)
    (hkeyword : σ.keyword k = some k') (value : List Token) :
    readAva σ (k.map .raw ++ .raw '=' :: value) = (readValue σ value).map (Ava.mk k') := by
  have hne : ∀ c ∈ k, c ∉ pairChars := fun c hc => not_mem_pairChars_of_keyChar (hk c hc)
  have hkey : ∀ t ∈ k.map Token.raw, (t != .raw '=') = true := by
    intro t ht
    obtain ⟨c, hc, rfl⟩ := mem_map.mp ht
    refine bne_iff_ne.mpr fun heq => hne c hc ?_
    rw [Token.raw.inj heq]
    decide
  have hends : ∀ t ∈ k.map Token.raw, t ≠ .raw ' ' := by
    intro t ht heq
    obtain ⟨c, hc, rfl⟩ := mem_map.mp ht
    refine hne c hc ?_
    rw [Token.raw.inj heq]
    decide
  have hstrip : strip (k.map Token.raw) = k.map .raw :=
    strip_of_ends (fun h => hends _ (mem_of_mem_head? h) rfl)
      fun h => hends _ (mem_of_getLast? h) rfl
  rw [readAva, dropWhile_append_of_pos hkey, takeWhile_append_of_pos hkey,
    dropWhile_cons_of_neg (by simp), takeWhile_cons_of_neg (by simp), append_nil,
    hstrip]
  simp only [rawText_map_raw, bind_eq_bind, bind_some, hkeyword]
  cases readValue σ value <;> rfl

theorem mapM_eq_some_iff {α β : Type} {f : α → Option β} {l : List α} {l' : List β} :
    l.mapM f = some l' ↔ Forall₂ (fun a b => f a = some b) l l' := by
  induction l generalizing l' with
  | nil =>
    rw [mapM_nil, forall₂_nil_left_iff]
    exact ⟨fun h => (some.inj h).symm, fun h => h ▸ rfl⟩
  | cons a l ih =>
    rw [mapM_cons, forall₂_cons_left_iff]
    refine ⟨fun h => ?_, ?_⟩
    · obtain ⟨b, hb, h⟩ := bind_eq_some_iff.mp h
      obtain ⟨bs, hbs, h⟩ := bind_eq_some_iff.mp h
      exact ⟨b, bs, hb, ih.mp hbs, (some.inj h).symm⟩
    · rintro ⟨b, bs, hb, hbs, rfl⟩
      rw [hb, ih.mpr hbs]
      rfl

theorem PrintsRdn.parts (h : PrintsRdn σ r ts) (hr : r ≠ []) :
    ∃ r', r'.Perm r ∧ Forall₂ (PrintsAva σ) r' (ts.splitOn (.raw '+')) := by
  obtain ⟨r', parts, hperm, hparts, rfl⟩ := h
  refine ⟨r', hperm, ?_⟩
  rw [splitOn_intercalate]
  · exact hparts
  · intro part hpart hplus
    obtain ⟨i, hi, rfl⟩ := mem_iff_getElem.mp hpart
    exact (hparts.get (by rw [hparts.length_eq]; exact hi) hi).safe _ hplus (by decide)
  · rintro rfl
    obtain rfl := forall₂_nil_right_iff.mp hparts
    exact hr hperm.nil_eq.symm

end AppliverySoar.Names
