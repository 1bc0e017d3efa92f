import AppliverySoar.Names.DistinguishedName
import Mathlib.Algebra.Ring.Nat
import Mathlib.Data.List.Flatten
import Mathlib.Data.List.ModifyLast
import Mathlib.Data.List.TakeWhile
import Mathlib.Data.Multiset.ZeroCons

/-!
# Names read from a text that their printing contains

A text `k=s` is read as a name, and the name is printed. Where the printing has
`s` in it, at the place where a value begins, give or take characters that
belong to no escape, then it is `k=s` and nothing more: every octet of `s` that
is read is printed once, so there is no room for anything else.

Results:
* `rdn_rigid`: this for a component.
* `name_rigid`: this for a name, with `s` between a comma and a comma.
* `exists_of_prints_self`: when the printing is `s`, it begins with `k=` and a
  value.
* `head_of_prints`: what a printing begins with.
-/

namespace AppliverySoar.Names

open List Option Token

variable {σ : Schema} {v v' : Value} {a a' : Ava} {r : List Ava} {n : Name}
variable {X S W W₀ ts : List Token} {k k' : List Char}

/-! ## How much a value holds -/

/-- The number of octets of a value. -/
def Value.size : Value → ℕ
  | .text octets => octets.length
  | .encoded ber => ber.length

/-- An unescaped character that is no part of an encoding and separates nothing. -/
def Token.Blank (t : Token) : Prop :=
  ∃ c, t = .raw c ∧ c ≠ '#' ∧ c ≠ '=' ∧ c ∉ reservedChars ∧ hexDigit c = none

/-- A token that is no part of an encoding. -/
def Token.NotHex (t : Token) : Prop :=
  ∀ c, t = .raw c → c ≠ '#' ∧ hexDigit c = none

variable {t : Token}

theorem Token.Blank.notHex (h : t.Blank) : t.NotHex := by
  obtain ⟨c, rfl, hhash, -, -, hhex⟩ := h
  rintro d hd
  obtain rfl := raw.inj hd
  exact ⟨hhash, hhex⟩

variable {c : Char} {x : Token} {α : Type}

theorem Token.Blank.ne_raw (h : t.Blank) (hc : c ∈ '=' :: reservedChars) : t ≠ .raw c := by
  obtain ⟨d, rfl, -, heq, hreserved, -⟩ := h
  intro hd
  obtain rfl := raw.inj hd
  rcases mem_cons.mp hc with rfl | hc
  · exact heq rfl
  · exact hreserved hc

theorem Token.Plain.octets_ne_nil (h : t.Plain) : t.octets ≠ [] := by
  cases t with
  | raw c => exact String.utf8EncodeChar_ne_nil
  | pair c => exact String.utf8EncodeChar_ne_nil
  | octet high low =>
    obtain ⟨b, hb⟩ := isSome_iff_exists.mp h
    rw [octets, hb]
    exact cons_ne_nil _ _
  | quoted c => exact absurd h id
  | quote => exact absurd h id

theorem length_le_octets (h : ∀ t ∈ ts, t.Plain) : ts.length ≤ (ts.flatMap octets).length := by
  induction ts with
  | nil => exact Nat.le_refl _
  | cons t ts ih =>
    have ht := length_pos_iff.mpr (h t mem_cons_self).octets_ne_nil
    have := ih fun u hu => h u (mem_cons_of_mem t hu)
    rw [length_cons, flatMap_cons, length_append]
    omega

theorem strip_sublist (ts : List Token) : (strip ts).Sublist ts := by
  have h := ((dropWhile_sublist (· == raw ' ')
    (l := (ts.dropWhile (· == .raw ' ')).reverse)).reverse)
  rw [reverse_reverse] at h
  exact h.trans (dropWhile_sublist _)

/-- What is read from within a printed value is no larger than the value, and
smaller when something of the printing is left out. -/
theorem size_le_of_within (hread : readValue σ S = some v) (hprint : PrintsValue σ v' (X ++ S ++ W))
    (hX : X = [] ∨ ∃ t ∈ X, t.NotHex) (hW : W = [] ∨ ∃ t ∈ W, t.NotHex) :
    v.size ≤ v'.size ∧ (v.size = v'.size → X = [] ∧ W = []) := by
  have hsafe := hprint.safe
  have hplain : ∀ t ∈ X ++ S ++ W, t.Plain := fun t ht => (hsafe t ht).plain
  have hsub := strip_sublist S
  have hquote : Token.quote ∉ strip S := fun h =>
    hplain _ (mem_append_left _ (mem_append_right _ (hsub.subset h)))
  generalize hts : X ++ S ++ W = ts at hprint
  cases hprint with
  | text safe head_space head_hash last_space =>
    subst hts
    rw [flatMap_append, flatMap_append, Value.size, length_append,
      length_append]
    have hXlength := length_le_octets fun t ht =>
      hplain t (mem_append_left _ (mem_append_left _ ht))
    have hWlength := length_le_octets fun t ht => hplain t (mem_append_right _ ht)
    have hlength := (hsub.flatMap octets).length_le
    rw [readValue] at hread
    split_ifs at hread with hhead htail
    · -- an encoding takes two characters for each octet of its string
      obtain ⟨ber, hber, rfl⟩ := map_eq_some_iff.mp hread
      have hstrip := length_le_octets fun t ht =>
        hplain t (mem_append_left _ (mem_append_right _ (hsub.subset ht)))
      have htwo := (hexString_spec hber).2
      have hsize : (σ.berValue ber).size ≤ ber.length := by
        unfold Schema.berValue
        split
        · exact σ.berString_length _ _ (by assumption)
        · exact Nat.le_refl _
      have hcons : (strip S).length = (strip S).tail.length + 1 := by
        cases hS : strip S with
        | nil => rw [hS] at hhead; exact absurd hhead (by simp)
        | cons t ts => rfl
      exact ⟨by omega, fun heq => by omega⟩
    · obtain rfl := some.inj hread
      rw [Value.size]
      refine ⟨by omega, fun heq => ⟨length_eq_zero_iff.mp ?_, length_eq_zero_iff.mp ?_⟩⟩
      · omega
      · omega
  | @encoded ber hex noString nonempty digits =>
    have hdigits := (hexString_spec digits).1
    have hnot : ∀ t ∈ X ++ S ++ W, ¬t.NotHex := by
      intro t ht hhex
      rw [hts] at ht
      rcases mem_cons.mp ht with rfl | ht
      · exact (hhex '#' rfl).1 rfl
      · obtain ⟨c, rfl, hc⟩ := hdigits t ht
        rw [(hhex c rfl).2] at hc
        exact absurd hc Bool.false_ne_true
    obtain rfl : X = [] := by
      refine hX.resolve_right ?_
      rintro ⟨t, ht, h⟩
      exact hnot t (mem_append_left _ (mem_append_left _ ht)) h
    obtain rfl : W = [] := by
      refine hW.resolve_right ?_
      rintro ⟨t, ht, h⟩
      exact hnot t (mem_append_right _ ht) h
    obtain rfl : S = .raw '#' :: hex := by simpa using hts
    rw [readValue_of_prints (.encoded noString nonempty digits)] at hread
    obtain rfl := some.inj hread
    exact ⟨Nat.le_refl _, fun _ => ⟨rfl, rfl⟩⟩

/-! ## Attributes -/

theorem first_inj {l₁ l₂ m₁ m₂ : List Token} (h : l₁ ++ x :: m₁ = l₂ ++ x :: m₂)
    (h₁ : x ∉ l₁) (h₂ : x ∉ l₂) : l₁ = l₂ ∧ m₁ = m₂ := by
  induction l₁ generalizing l₂ with
  | nil =>
    cases l₂ with
    | nil => exact ⟨rfl, (List.cons.inj h).2⟩
    | cons y l₂ =>
      obtain ⟨rfl, -⟩ := List.cons.inj h
      exact absurd mem_cons_self h₂
  | cons y l₁ ih =>
    cases l₂ with
    | nil =>
      obtain ⟨rfl, -⟩ := List.cons.inj h
      exact absurd mem_cons_self h₁
    | cons z l₂ =>
      obtain ⟨rfl, htail⟩ := List.cons.inj h
      obtain ⟨rfl, hm⟩ := ih htail (fun hx => h₁ (mem_cons_of_mem y hx))
        fun hx => h₂ (mem_cons_of_mem y hx)
      exact ⟨rfl, hm⟩

theorem raw_not_mem_key (hk : ∀ c ∈ k, keyChar c = true) (hc : c ∈ pairChars) :
    raw c ∉ k.map raw := by
  intro hmem
  obtain ⟨d, hd, hdc⟩ := mem_map.mp hmem
  obtain rfl := raw.inj hdc
  exact not_mem_pairChars_of_keyChar (hk _ hd) hc

theorem exists_notHex (hW : ∀ t ∈ W, t.Blank) : W = [] ∨ ∃ t ∈ W, t.NotHex := by
  cases W with
  | nil => exact .inl rfl
  | cons t W => exact .inr ⟨t, mem_cons_self, (hW t mem_cons_self).notHex⟩

/-- An attribute that is read up to some blank tokens before the end of another
one's printing. -/
theorem ava_le_of_within (hread : readAva σ S = some a) (hprint : PrintsAva σ a' (S ++ W))
    (hW : ∀ t ∈ W, t.Blank) :
    a.type = a'.type ∧ a.value.size ≤ a'.value.size ∧ (a.value.size = a'.value.size → W = []) := by
  obtain ⟨htype, value', hvalue', heq⟩ := hprint
  have hkey := σ.keyword_keyChar _ _ htype
  have happend := takeWhile_append_dropWhile (p := (· != raw '=')) (l := S)
  cases hdrop : S.dropWhile (· != raw '=') with
  | nil =>
    rw [readAva, hdrop] at hread
    exact absurd hread (by simp)
  | cons e value =>
    have he : e = .raw '=' := by
      have := head?_dropWhile_not (· != raw '=') S
      rw [hdrop] at this
      simpa using this
    rw [hdrop, he] at happend
    have hnot : raw '=' ∉ S.takeWhile (· != .raw '=') := fun hmem => by
      have := mem_takeWhile_imp hmem
      simp at this
    rw [← happend, append_assoc, cons_append] at heq
    obtain ⟨htake, rfl⟩ := first_inj heq hnot (raw_not_mem_key hkey (by decide))
    rw [← happend, htake, readAva_append hkey htype] at hread
    obtain ⟨v, hv, rfl⟩ := map_eq_some_iff.mp hread
    have hle := @size_le_of_within σ v a'.value [] value W hv hvalue' (.inl rfl)
      (exists_notHex hW)
    exact ⟨rfl, hle.1, fun h => (hle.2 h).2⟩

/-- The same for the attribute that `k=` has been put in front of. -/
theorem first_le_of_within (hk : σ.keyword k = some k)
    (hread : readAva σ (k.map .raw ++ .raw '=' :: S) = some a) (hk' : ∀ c ∈ k', keyChar c = true)
    (hprint : PrintsAva σ a' (X ++ k'.map .raw ++ .raw '=' :: (W₀ ++ S ++ W)))
    (hW₀ : ∀ t ∈ W₀, t.Blank) (hW : ∀ t ∈ W, t.Blank) :
    a.type = k ∧ a.value.size ≤ a'.value.size ∧ (a.value.size = a'.value.size →
      W₀ = [] ∧ W = [] ∧ a'.type.map .raw = X ++ k'.map .raw) := by
  rw [readAva_append (σ.keyword_keyChar _ _ hk) hk] at hread
  obtain ⟨v, hv, rfl⟩ := map_eq_some_iff.mp hread
  obtain ⟨htype, value', hvalue', heq⟩ := hprint
  have heq' := raw_not_mem_key (c := '=') (σ.keyword_keyChar _ _ htype) (by decide)
  by_cases hmem : raw '=' ∈ X
  · -- then the value begins before `k'`, and is too large
    obtain ⟨X₁, X₂, rfl, hX₁⟩ := eq_append_cons_of_mem hmem
    rw [append_assoc, append_assoc, cons_append] at heq
    obtain ⟨-, rfl⟩ := first_inj heq hX₁ heq'
    have hle := @size_le_of_within σ v a'.value (X₂ ++ k'.map .raw ++ .raw '=' :: W₀) S W hv
      (by simpa using hvalue') (.inr ⟨.raw '=', by simp, fun c hc => by
        obtain rfl := raw.inj hc
        decide⟩) (exists_notHex hW)
    exact ⟨rfl, hle.1, fun h => absurd (hle.2 h).1 (by simp)⟩
  · have hnot : raw '=' ∉ X ++ k'.map raw := fun h =>
      (mem_append.mp h).elim hmem (raw_not_mem_key hk' (by decide))
    obtain ⟨hX, rfl⟩ := first_inj heq hnot heq'
    have hle := size_le_of_within hv hvalue' (exists_notHex hW₀) (exists_notHex hW)
    exact ⟨rfl, hle.1, fun h => ⟨(hle.2 h).1, (hle.2 h).2, hX.symm⟩⟩

/-! ## Components -/

theorem splitOn_append_left [DecidableEq α] {x : α} {l : List α} (h : x ∉ l)
    (m : List α) : (l ++ m).splitOn x = (m.splitOn x).modifyHead (l ++ ·) := by
  induction l with
  | nil =>
    rw [nil_append]
    cases m.splitOn x <;> rfl
  | cons y l ih =>
    have hy : y ≠ x := fun hyx => h (hyx ▸ mem_cons_self)
    rw [cons_append, splitOn_cons_eq_if_modifyHead, if_neg (by simpa using hy),
      ih fun hx => h (mem_cons_of_mem y hx), modifyHead_modifyHead]
    rfl

theorem modifyLast_cons_of_ne_nil {l : List α} (h : l ≠ []) (f : α → α) (a : α) :
    (a :: l).modifyLast f = a :: l.modifyLast f :=
  modifyLast_append_of_right_ne_nil f [a] l h

theorem splitOn_append_right {l : List Token} (h : x ∉ l) (m : List Token) :
    (m ++ l).splitOn x = (m.splitOn x).modifyLast (· ++ l) := by
  induction m with
  | nil => rw [nil_append, splitOn_eq_singleton h, splitOn_nil]; rfl
  | cons y m ih =>
    have hne := splitOn_ne_nil x m
    rw [cons_append, splitOn_cons_eq_if_modifyHead, splitOn_cons_eq_if_modifyHead,
      ih]
    split
    · rw [modifyLast_cons_of_ne_nil hne]
    · cases hm : m.splitOn x with
      | nil => exact absurd hm hne
      | cons p ps =>
        cases ps with
        | nil => rfl
        | cons q qs =>
          rw [modifyHead_cons, modifyLast_cons_of_ne_nil (cons_ne_nil _ _),
            modifyLast_cons_of_ne_nil (cons_ne_nil _ _), modifyHead_cons]

theorem length_splitOn (x : Token) (l : List Token) : (l.splitOn x).length = l.count x + 1 := by
  induction l with
  | nil => rfl
  | cons y l ih =>
    rw [splitOn_cons_eq_if_modifyHead, count_cons]
    split
    · rw [length_cons, ih]
    · rw [length_modifyHead, ih, Nat.add_zero]

/-- The octets of all the values. -/
def totalSize (as : List Ava) : ℕ :=
  (as.map fun a => a.value.size).sum

variable {as as' : List Ava} {l : List Char}

theorem totalSize_perm (h : as'.Perm as) : totalSize as' = totalSize as :=
  (h.map _).sum_nat

theorem attributes_le_of_within {ps : List (List Token)}
    (hread : Forall₂ (fun p a => readAva σ p = some a) ps as)
    (hprint : Forall₂ (PrintsAva σ) as' (ps.modifyLast (· ++ W))) (hW : ∀ t ∈ W, t.Blank) :
    as.map Ava.type = as'.map Ava.type ∧ totalSize as ≤ totalSize as' ∧
      (ps ≠ [] → totalSize as = totalSize as' → W = []) := by
  induction ps generalizing as as' with
  | nil =>
    obtain rfl := forall₂_nil_left_iff.mp hread
    obtain rfl := forall₂_nil_right_iff.mp hprint
    exact ⟨rfl, Nat.le_refl _, fun h => absurd rfl h⟩
  | cons p ps ih =>
    obtain ⟨a, as, ha, has, rfl⟩ := forall₂_cons_left_iff.mp hread
    by_cases hps : ps = []
    · subst hps
      obtain rfl := forall₂_nil_left_iff.mp has
      obtain ⟨a', as', ha', has', rfl⟩ := forall₂_cons_right_iff.mp hprint
      obtain rfl := forall₂_nil_right_iff.mp has'
      obtain ⟨htype, hsize, heq⟩ := ava_le_of_within ha ha' hW
      simp only [totalSize, map_cons, map_nil, sum_cons, sum_nil, htype]
      exact ⟨trivial, by omega, fun _ h => heq (by omega)⟩
    · rw [modifyLast_cons_of_ne_nil hps] at hprint
      obtain ⟨a', as', ha', has', rfl⟩ := forall₂_cons_right_iff.mp hprint
      obtain ⟨htypes, hsizes, heqs⟩ := ih has has'
      obtain ⟨htype, hsize, -⟩ := @ava_le_of_within σ a a' p [] ha
        (by rwa [append_nil]) fun t ht => absurd ht not_mem_nil
      simp only [totalSize, map_cons, sum_cons, htype, htypes] at hsizes heqs ⊢
      exact ⟨trivial, by omega, fun _ h => heqs hps (by omega)⟩

/-- Of two components that are the same but for the order and the first type, the
first types are the same. -/
theorem type_eq_of_perm (hperm : (a' :: as').Perm (a :: as))
    (htypes : as.map Ava.type = as'.map Ava.type) : a'.type = a.type := by
  have h := hperm.map Ava.type
  rw [map_cons, map_cons, htypes] at h
  have hcoe := Multiset.coe_eq_coe.mpr h
  rw [← Multiset.cons_coe, ← Multiset.cons_coe] at hcoe
  exact (Multiset.cons_inj_left _).mp hcoe

theorem blank_plus (hW : ∀ t ∈ W, t.Blank) : raw '+' ∉ W :=
  fun h => (hW _ h).ne_raw (by decide) rfl

/-- Between `k=` and the end, a component has no room but for what was read. -/
theorem rdn_rigid (hk : σ.keyword k = some k)
    (hread : readRdn σ (k.map .raw ++ .raw '=' :: S) = some r) (hk' : ∀ c ∈ k', keyChar c = true)
    (hlength : k'.length = k.length)
    (hprint : PrintsRdn σ r (X ++ k'.map .raw ++ .raw '=' :: (W₀ ++ S ++ W)))
    (hW₀ : ∀ t ∈ W₀, t.Blank) (hW : ∀ t ∈ W, t.Blank) : X = [] ∧ k' = k ∧ W₀ = [] ∧ W = [] := by
  have hkplus := raw_not_mem_key (c := '+') (σ.keyword_keyChar _ _ hk) (by decide)
  have hk'plus := raw_not_mem_key (c := '+') hk' (by decide)
  have hreads := mapM_eq_some_iff.mp hread
  have hr : r ≠ [] := by
    rintro rfl
    exact splitOn_ne_nil _ _ (forall₂_nil_right_iff.mp hreads)
  obtain ⟨r', hperm, hparts⟩ := hprint.parts hr
  -- there are as many attributes, so there is no `+` in front
  have hXplus : raw '+' ∉ X := by
    have h₁ := hparts.length_eq
    have h₂ := hreads.length_eq
    rw [length_splitOn] at h₁ h₂
    simp only [count_append, count_cons, count_eq_zero_of_not_mem hkplus,
      count_eq_zero_of_not_mem hk'plus, count_eq_zero_of_not_mem (blank_plus hW₀),
      count_eq_zero_of_not_mem (blank_plus hW)] at h₁ h₂
    have h₃ := hperm.length_eq
    exact count_eq_zero.mp (by omega)
  have hfront : raw '+' ∉ X ++ k'.map .raw ++ .raw '=' :: W₀ := by
    simp only [mem_append, mem_cons, not_or]
    exact ⟨⟨hXplus, hk'plus⟩, by decide, blank_plus hW₀⟩
  have hkey : raw '+' ∉ k.map .raw ++ [.raw '='] := by
    simp only [mem_append, mem_singleton, not_or]
    exact ⟨hkplus, by decide⟩
  rw [show X ++ k'.map .raw ++ .raw '=' :: (W₀ ++ S ++ W) =
      (X ++ k'.map .raw ++ .raw '=' :: W₀) ++ (S ++ W) by simp, splitOn_append_left hfront,
    splitOn_append_right (blank_plus hW)] at hparts
  rw [show k.map .raw ++ .raw '=' :: S = (k.map .raw ++ [.raw '=']) ++ S by simp,
    splitOn_append_left hkey] at hreads
  have hdone {a' : Ava} (h : a'.type.map .raw = X ++ k'.map .raw) (htype : a'.type = k) :
      X = [] ∧ k' = k := by
    have hlen := congrArg length h
    rw [htype, length_append, length_map, length_map, hlength] at hlen
    obtain rfl : X = [] := length_eq_zero_iff.mp (by omega)
    rw [htype, nil_append] at h
    exact ⟨rfl, (map_injective_iff.mpr (fun _ _ => raw.inj) h).symm⟩
  cases hS : S.splitOn (.raw '+') with
  | nil => exact absurd hS (splitOn_ne_nil _ _)
  | cons p ps =>
    rw [hS, modifyHead_cons] at hreads
    rw [hS] at hparts
    obtain ⟨a, as, ha, has, rfl⟩ := forall₂_cons_left_iff.mp hreads
    rw [append_assoc, singleton_append] at ha
    by_cases hps : ps = []
    · subst hps
      obtain rfl := forall₂_nil_left_iff.mp has
      obtain rfl := perm_singleton.mp hperm
      obtain ⟨a', as', ha', has', heq⟩ := forall₂_cons_right_iff.mp hparts
      obtain ⟨rfl, -⟩ := List.cons.inj heq
      obtain ⟨htype, -, hrest⟩ := @first_le_of_within σ a a X p W W₀ k k' hk ha hk'
        (by simpa using ha') hW₀ hW
      obtain ⟨rfl, rfl, hX⟩ := hrest rfl
      exact ⟨(hdone hX htype).1, (hdone hX htype).2, rfl, rfl⟩
    · rw [modifyLast_cons_of_ne_nil hps, modifyHead_cons] at hparts
      obtain ⟨a', as', ha', has', rfl⟩ := forall₂_cons_right_iff.mp hparts
      obtain ⟨htypes, hsizes, hlast⟩ := attributes_le_of_within has has' hW
      obtain ⟨htype, hsize, hrest⟩ := @first_le_of_within σ a a' X p [] W₀ k k' hk ha hk'
        (by simpa using ha') hW₀ fun t ht => absurd ht not_mem_nil
      have htotal := totalSize_perm hperm
      simp only [totalSize, map_cons, sum_cons] at htotal hsizes hlast
      obtain ⟨rfl, -, hX⟩ := hrest (by omega)
      have htype' := (type_eq_of_perm hperm htypes).trans htype
      exact ⟨(hdone hX htype').1, (hdone hX htype').2, rfl, hlast hps (by omega)⟩

/-- A component that is printed as what has been read after `k=` begins with `k=`
itself, and a value. -/
theorem rdn_unmatched (hk : σ.keyword k = some k)
    (hread : readRdn σ (k.map .raw ++ .raw '=' :: S) = some r) (hprint : PrintsRdn σ r (S ++ W))
    (hW : ∀ t ∈ W, t.Blank) : ∃ rest, S ++ W = k.map .raw ++ .raw '=' :: rest ∧ rest ≠ [] := by
  have hkey := σ.keyword_keyChar _ _ hk
  have hkplus : raw '+' ∉ k.map .raw ++ [.raw '='] := by
    simp only [mem_append, mem_singleton, not_or]
    exact ⟨raw_not_mem_key hkey (by decide), by decide⟩
  have hreads := mapM_eq_some_iff.mp hread
  have hr : r ≠ [] := by
    rintro rfl
    exact splitOn_ne_nil _ _ (forall₂_nil_right_iff.mp hreads)
  obtain ⟨r', hperm, hparts⟩ := hprint.parts hr
  rw [splitOn_append_right (blank_plus hW)] at hparts
  rw [show k.map .raw ++ .raw '=' :: S = (k.map .raw ++ [.raw '=']) ++ S by simp,
    splitOn_append_left hkplus] at hreads
  have hintercalate := @List.intercalate_splitOn _ S _ _ (raw '+')
  cases hS : S.splitOn (.raw '+') with
  | nil => exact absurd hS (splitOn_ne_nil _ _)
  | cons p ps =>
    rw [hS, modifyHead_cons] at hreads
    rw [hS] at hparts hintercalate
    obtain ⟨a, as, ha, has, rfl⟩ := forall₂_cons_left_iff.mp hreads
    rw [append_assoc, singleton_append, readAva_append hkey hk] at ha
    obtain ⟨v, hv, rfl⟩ := map_eq_some_iff.mp ha
    by_cases hps : ps = []
    · subst hps
      obtain rfl := forall₂_nil_left_iff.mp has
      obtain rfl := perm_singleton.mp hperm
      obtain ⟨a', as', ha', -, heq⟩ := forall₂_cons_right_iff.mp hparts
      obtain ⟨rfl, -⟩ := List.cons.inj heq
      rw [intercalate_singleton] at hintercalate
      subst hintercalate
      obtain ⟨-, value, hvalue, hvalue'⟩ := ha'
      change p ++ W = _ at hvalue'
      refine ⟨value, hvalue', ?_⟩
      rintro rfl
      -- without a value, what has been read is `k=`, which is a value itself
      have hWnil : W = [] := by
        by_contra hne
        have hlast : (p ++ W).getLast? = some (.raw '=') := by rw [hvalue']; simp
        rw [getLast?_append_of_ne_nil _ hne] at hlast
        exact (hW _ (mem_of_getLast? hlast)).ne_raw (by decide) rfl
      rw [hWnil, append_nil] at hvalue'
      have hchars : ∀ t ∈ p, ∃ c, t = .raw c ∧ (keyChar c = true ∨ c = '=') := by
        intro t ht
        rw [hvalue', mem_append, mem_singleton] at ht
        rcases ht with ht | rfl
        · obtain ⟨c, hc, rfl⟩ := mem_map.mp ht
          exact ⟨c, rfl, .inl (hkey c hc)⟩
        · exact ⟨'=', rfl, .inr rfl⟩
      have hne : ∀ t ∈ p, t ≠ .raw ' ' ∧ t ≠ .raw '#' := by
        intro t ht
        obtain ⟨c, rfl, hc⟩ := hchars t ht
        refine ⟨fun h => ?_, fun h => ?_⟩ <;> obtain rfl := raw.inj h <;>
          exact absurd hc (by decide)
      have hprints : PrintsValue σ (.text (p.flatMap octets)) p :=
        .text (fun t ht => by
            obtain ⟨c, rfl, hc | rfl⟩ := hchars t ht
            · exact safe_raw_of_not_mem (not_mem_pairChars_of_keyChar hc)
            · exact (by decide : '=' ∉ reservedChars))
          (fun h => (hne _ (mem_of_mem_head? h)).1 rfl)
          (fun h => (hne _ (mem_of_mem_head? h)).2 rfl)
          fun h => (hne _ (mem_of_getLast? h)).1 rfl
      rw [readValue_of_prints hprints] at hv
      obtain rfl := some.inj hv
      have hlen := length_le_octets fun t ht => (hprints.safe t ht).plain
      generalize hoctets : p.flatMap octets = octets at hvalue hlen
      cases hvalue
      rw [hvalue', length_append] at hlen
      exact absurd hlen (by simp)
    · rw [modifyLast_cons_of_ne_nil hps] at hparts
      obtain ⟨a', as', ha', has', rfl⟩ := forall₂_cons_right_iff.mp hparts
      obtain ⟨htypes, -, -⟩ := attributes_le_of_within has has' hW
      have htype := type_eq_of_perm hperm htypes
      obtain ⟨-, value, -, rfl⟩ := ha'
      rw [intercalate_cons_of_ne_nil hps] at hintercalate
      refine ⟨value ++ (.raw '+' :: [raw '+'].intercalate ps) ++ W, ?_, by simp⟩
      rw [← hintercalate, htype]
      simp

/-! ## Names -/

theorem tokens_of_raw (h : ∀ c ∈ l, c ≠ '\\' ∧ c ≠ '"') :
    tokens false l = some (l.map .raw) := by
  have hplain : ∀ t ∈ l.map raw, t.Plain := by
    intro t ht
    obtain ⟨c, hc, rfl⟩ := mem_map.mp ht
    exact h c hc
  have := tokens_flatMap_spell hplain
  rwa [spell_map_raw] at this

theorem raw_append {l b : List Char} (hts : ∀ t ∈ ts, t.Plain)
    (h : ts.flatMap spell = l ++ b) (hl : ∀ c ∈ l, c ≠ '\\' ∧ c ≠ '"') :
    ∃ us, ts = l.map .raw ++ us ∧ us.flatMap spell = b := by
  have htokens := tokens_of_raw hl
  obtain ⟨us, vs, rfl, hus, hvs⟩ := exists_of_spell_eq_append hts h (by rw [htokens]; simp)
  have := tokens_flatMap_spell fun t ht => hts t (mem_append_left _ ht)
  rw [hus, htokens] at this
  exact ⟨vs, by rw [some.inj this], hvs⟩

/-- A character that no escape, encoding or separator has. -/
def BlankChar (c : Char) : Prop :=
  (Token.raw c).Blank

theorem BlankChar.ne (h : BlankChar c) : c ≠ '\\' ∧ c ≠ '"' :=
  ⟨fun hc => Blank.ne_raw h (c := '\\') (by decide) (by rw [hc]),
    fun hc => Blank.ne_raw h (c := '"') (by decide) (by rw [hc])⟩

theorem blank_map_raw (h : ∀ c ∈ l, BlankChar c) : ∀ t ∈ l.map raw, t.Blank := by
  intro t ht
  obtain ⟨c, hc, rfl⟩ := mem_map.mp ht
  exact h c hc

theorem keyChar_ne (h : keyChar c = true) : c ≠ '\\' ∧ c ≠ '"' := by
  refine ⟨?_, ?_⟩ <;> rintro rfl <;> exact absurd h (by decide)

theorem key_eq_ne (hk : ∀ c ∈ k, keyChar c = true) : ∀ c ∈ k ++ ['='], c ≠ '\\' ∧ c ≠ '"' := by
  intro c hc
  rcases mem_append.mp hc with hc | hc
  · exact keyChar_ne (hk c hc)
  · rw [mem_singleton.mp hc]
    decide

/-- Whether a token separates two components. -/
def separates (t : Token) : Bool :=
  t == .raw ',' || t == .raw ';'

theorem eq_space_of_strip_eq_nil (h : strip ts = []) : ∀ t ∈ ts, t = .raw ' ' := by
  intro t ht
  rw [strip, reverse_eq_nil_iff, dropWhile_eq_nil_iff] at h
  rw [← takeWhile_append_dropWhile (p := (· == raw ' ')) (l := ts)] at ht
  rcases mem_append.mp ht with ht | ht
  · simpa using mem_takeWhile_imp ht
  · simpa using h t (mem_reverse.mpr ht)

/-- How a text that begins with `k=` is read. -/
theorem readName_key (hk : ∀ c ∈ k, keyChar c = true) {s : List Char}
    (h : readName σ (k ++ '=' :: s) = some n) :
    ∃ S, tokens false s = some S ∧
      ((k.map raw ++ .raw '=' :: S).splitOnP separates).mapM (readRdn σ) = some n := by
  have hplain : ∀ t ∈ (k ++ ['=']).map raw, t.Plain := by
    intro t ht
    obtain ⟨c, hc, rfl⟩ := mem_map.mp ht
    exact key_eq_ne hk c hc
  have htokens := tokens_spell_append hplain s
  rw [spell_map_raw, append_assoc, singleton_append, map_append, map_singleton]
    at htokens
  obtain ⟨ts, hts, h⟩ := bind_eq_some_iff.mp h
  rw [htokens] at hts
  obtain ⟨S, hS, rfl⟩ := map_eq_some_iff.mp hts
  refine ⟨S, hS, ?_⟩
  have hstrip : strip (k.map raw ++ [.raw '='] ++ S) ≠ [] := fun hnil =>
    absurd (eq_space_of_strip_eq_nil hnil (.raw '=') (by simp)) (by decide)
  have h' := (if_neg hstrip).symm.trans h
  rwa [append_assoc, singleton_append] at h'

theorem plain_of_prints {parts : List (List Token)} (h : Forall₂ (PrintsRdn σ) n parts) :
    ∀ t ∈ [raw ','].intercalate parts, t.Plain ∧ t ≠ .raw ';' := by
  intro t ht
  rcases mem_of_mem_intercalate ht with rfl | ⟨part, hpart, ht⟩
  · exact ⟨⟨by decide, by decide⟩, by decide⟩
  · obtain ⟨i, hi, rfl⟩ := mem_iff_getElem.mp hpart
    have hprint := h.get (by rw [h.length_eq]; exact hi) hi
    exact ⟨hprint.plain t ht, hprint.ne_raw (by decide) (by decide) t ht⟩

theorem separates_key (hk : ∀ c ∈ k, keyChar c = true)
    (hS : ∀ t ∈ S, t ≠ .raw ',' ∧ t ≠ .raw ';') :
    ∀ t ∈ k.map .raw ++ .raw '=' :: S, separates t = false := by
  intro t ht
  rw [separates, Bool.or_eq_false_iff, beq_eq_false_iff_ne, beq_eq_false_iff_ne]
  rcases mem_append.mp ht with ht | ht
  · exact ⟨fun h => raw_not_mem_key hk (by decide) (h ▸ ht),
      fun h => raw_not_mem_key hk (by decide) (h ▸ ht)⟩
  · rcases mem_cons.mp ht with rfl | ht
    · exact ⟨by decide, by decide⟩
    · exact hS t ht

/-- The text `s` has been read after `k=`, and comes up in the printing after some
`k'=`, between the commas of the text. Then this is `k=s`, and all of it. -/
theorem name_rigid {s x w₀ w post : List Char} (hk : σ.keyword k = some k)
    (hread : readName σ (k ++ '=' :: s) = some n) (hcomma : ',' ∉ s)
    (hk' : ∀ c ∈ k', keyChar c = true) (hlength : k'.length = k.length)
    (hprint : Prints σ n (x ++ k' ++ '=' :: (w₀ ++ s ++ w ++ post)))
    (hx : ∃ y b, x = y ++ b ∧ (∀ c ∈ b, BlankChar c) ∧ (y = [] ∨ ∃ z, y = z ++ [',']))
    (hpost : post = [] ∨ ∃ b, post = ',' :: b) (hw₀ : ∀ c ∈ w₀, BlankChar c)
    (hw : ∀ c ∈ w, BlankChar c) : x = [] ∧ k' = k ∧ w₀ = [] ∧ w = [] ∧ post = [] := by
  have hkey := σ.keyword_keyChar _ _ hk
  obtain ⟨S, hS, hmapM⟩ := readName_key hkey hread
  obtain ⟨parts, hparts, htext⟩ := hprint
  have hplain := plain_of_prints hparts
  generalize hT : [raw ','].intercalate parts = T at htext hplain
  -- the printing is cut along with its text
  obtain ⟨X, T₁, rfl, hX, hT₁⟩ : ∃ X T₁, T = X ++ T₁ ∧ X.flatMap spell = x ∧
      T₁.flatMap spell = k' ++ '=' :: (w₀ ++ s ++ w ++ post) := by
    obtain ⟨y, b, rfl, hb, hy⟩ := hx
    have hplain' : ∀ t ∈ T, t.Plain := fun t ht => (hplain t ht).1
    obtain ⟨us, vs, rfl, hus, hvs⟩ : ∃ us vs, T = us ++ vs ∧ us.flatMap spell = y ∧
        vs.flatMap spell = b ++ (k' ++ '=' :: (w₀ ++ s ++ w ++ post)) := by
      rcases hy with rfl | ⟨z, rfl⟩
      · exact ⟨[], T, rfl, rfl, by simpa using htext.symm⟩
      · exact exists_of_spell_eq_comma hplain' (by simpa using htext.symm)
    obtain ⟨T₁, rfl, hT₁⟩ := raw_append (fun t ht => hplain' t (mem_append_right _ ht)) hvs
      fun c hc => (hb c hc).ne
    refine ⟨us ++ b.map .raw, T₁, by simp, ?_, hT₁⟩
    rw [flatMap_append, hus, spell_map_raw]
  have hplain₁ : ∀ t ∈ T₁, t.Plain := fun t ht => (hplain t (mem_append_right _ ht)).1
  obtain ⟨T₂, rfl, hT₂⟩ := raw_append (l := k' ++ ['=']) hplain₁
    (b := w₀ ++ s ++ w ++ post) (by simpa using hT₁) (key_eq_ne hk')
  have hplain₂ : ∀ t ∈ T₂, t.Plain := fun t ht => hplain₁ t (mem_append_right _ ht)
  obtain ⟨T₃, rfl, hT₃⟩ := raw_append (l := w₀) (b := s ++ w ++ post) hplain₂
    (by simpa using hT₂) fun c hc => (hw₀ c hc).ne
  have hplain₃ : ∀ t ∈ T₃, t.Plain := fun t ht => hplain₂ t (mem_append_right _ ht)
  obtain ⟨S', T₄, rfl, hS', hT₄⟩ := exists_of_spell_eq_append hplain₃ (a := s) (b := w ++ post)
    (by simpa using hT₃) (by rw [hS]; simp)
  obtain rfl : S' = S := by
    have := tokens_flatMap_spell fun t ht => hplain₃ t (mem_append_left _ ht)
    rw [hS', hS] at this
    exact (some.inj this).symm
  have hplain₄ : ∀ t ∈ T₄, t.Plain := fun t ht => hplain₃ t (mem_append_right _ ht)
  obtain ⟨T₅, rfl, hT₅⟩ := raw_append (l := w) (b := post) hplain₄ hT₄ fun c hc => (hw c hc).ne
  -- what was read is one component
  have hsep : ∀ t ∈ S', t ≠ .raw ',' ∧ t ≠ .raw ';' := by
    refine fun t ht => ⟨?_, (hplain t (by simp [ht])).2⟩
    rintro rfl
    refine hcomma (hS' ▸ mem_flatMap.mpr ⟨_, ht, mem_singleton_self ','⟩)
  rw [splitOnP_eq_singleton (separates_key hkey hsep)] at hmapM
  obtain ⟨r, n', hr, hn', rfl⟩ := forall₂_cons_left_iff.mp (mapM_eq_some_iff.mp hmapM)
  obtain rfl := forall₂_nil_left_iff.mp hn'
  obtain ⟨part, parts', hpart, hparts', rfl⟩ := forall₂_cons_left_iff.mp hparts
  obtain rfl := forall₂_nil_left_iff.mp hparts'
  rw [intercalate_singleton] at hT
  subst hT
  -- nothing follows
  obtain rfl : T₅ = [] := by
    cases T₅ with
    | nil => rfl
    | cons t T₅ =>
      exfalso
      have ht : t ∈ X ++ ((k' ++ ['=']).map .raw ++ (w₀.map .raw ++ (S' ++ (w.map .raw ++
        t :: T₅)))) := by simp
      rw [flatMap_cons] at hT₅
      rcases hpost with rfl | ⟨b, rfl⟩
      · have := (append_eq_nil_iff.mp hT₅).1
        cases t <;> exact absurd this (cons_ne_nil _ _)
      · have hplain := hpart.plain t ht
        cases t with
        | raw c =>
          obtain ⟨rfl, -⟩ := List.cons.inj hT₅
          exact hpart.ne_raw (by decide) (by decide) _ ht rfl
        | pair c => exact absurd (List.cons.inj hT₅).1 (by decide)
        | octet high low => exact absurd (List.cons.inj hT₅).1 (by decide)
        | quoted c => exact hplain
        | quote => exact hplain
  obtain ⟨rfl, hkk, hw₀, hw⟩ := @rdn_rigid σ r X S' (w.map .raw) (w₀.map .raw) k k' hk hr hk'
    hlength (by simpa using hpart) (blank_map_raw hw₀) (blank_map_raw hw)
  exact ⟨hX.symm, hkk, map_eq_nil_iff.mp hw₀, map_eq_nil_iff.mp hw, hT₅.symm⟩

/-- A printing begins with a type, or an `=` where the type is empty. -/
theorem head_of_prints {s text : List Char} (hk : σ.keyword k = some k)
    (hread : readName σ (k ++ '=' :: s) = some n) (hprint : Prints σ n text) :
    ∃ c rest, text = c :: rest ∧ (keyChar c = true ∨ c = '=') := by
  obtain ⟨S, -, hmapM⟩ := readName_key (σ.keyword_keyChar _ _ hk) hread
  obtain ⟨parts, hparts, rfl⟩ := hprint
  have hreads := mapM_eq_some_iff.mp hmapM
  cases hparts with
  | nil => exact absurd (forall₂_nil_right_iff.mp hreads) (splitOnP_ne_nil _ _)
  | @cons r part n' parts' hpart hparts' =>
    obtain ⟨T, Ts, hr, -, -⟩ := forall₂_cons_right_iff.mp hreads
    have hrne : r ≠ [] := by
      rintro rfl
      exact splitOn_ne_nil _ _ (forall₂_nil_right_iff.mp (mapM_eq_some_iff.mp hr))
    have hsplit := hpart.parts hrne
    have hintercalate := @List.intercalate_splitOn _ part _ _ (raw '+')
    obtain ⟨r', hperm, havas⟩ := hsplit
    obtain ⟨p, ps, hps⟩ := exists_cons_of_ne_nil (splitOn_ne_nil (.raw '+') part)
    rw [hps] at havas hintercalate
    obtain ⟨a, as, ⟨htype, value, -, rfl⟩, -, -⟩ := forall₂_cons_right_iff.mp havas
    have hkey := σ.keyword_keyChar _ _ htype
    obtain ⟨rest, hpart'⟩ : ∃ rest, [.raw ','].intercalate (part :: parts') =
        a.type.map .raw ++ .raw '=' :: rest := by
      have head (x : Token) (p : List Token) (ps : List (List Token)) :
          ∃ rest, [x].intercalate (p :: ps) = p ++ rest := by
        by_cases hnil : ps = []
        · exact ⟨[], by rw [hnil, intercalate_singleton, append_nil]⟩
        · exact ⟨_, by rw [intercalate_cons_of_ne_nil hnil, append_assoc]⟩
      obtain ⟨rest₁, h₁⟩ := head (.raw ',') part parts'
      obtain ⟨rest₂, h₂⟩ := head (.raw '+') (a.type.map .raw ++ .raw '=' :: value) ps
      rw [h₂] at hintercalate
      exact ⟨value ++ rest₂ ++ rest₁, by rw [h₁, ← hintercalate]; simp⟩
    rw [hpart', flatMap_append, spell_map_raw]
    cases htypes : a.type with
    | nil => exact ⟨'=', rest.flatMap spell, rfl, .inr rfl⟩
    | cons c type =>
      exact ⟨c, _, rfl, .inl (hkey c (by rw [htypes]; exact mem_cons_self))⟩

/-- When the printing is the text that was read after `k=`, give or take blank
characters at the end, it begins with `k=` itself, and a value. -/
theorem exists_of_prints_self {s w : List Char} (hk : σ.keyword k = some k)
    (hread : readName σ (k ++ '=' :: s) = some n) (hprint : Prints σ n (s ++ w))
    (hw : ∀ c ∈ w, BlankChar c) : ∃ c rest, s ++ w = k ++ '=' :: c :: rest ∧ c ≠ ',' := by
  have hkey := σ.keyword_keyChar _ _ hk
  obtain ⟨S, hS, hmapM⟩ := readName_key hkey hread
  obtain ⟨parts, hparts, htext⟩ := hprint
  have hplain := plain_of_prints hparts
  obtain ⟨S', W, hT, hS', hW⟩ := exists_of_spell_eq_append (fun t ht => (hplain t ht).1) htext.symm
    (by rw [hS]; simp)
  rw [hT] at hplain htext
  obtain rfl : S' = S := by
    have := tokens_flatMap_spell fun t ht => (hplain t (mem_append_left _ ht)).1
    rw [hS', hS] at this
    exact (some.inj this).symm
  obtain rfl : W = w.map .raw := by
    have := tokens_flatMap_spell fun t ht => (hplain t (mem_append_right _ ht)).1
    rw [hW, tokens_of_raw fun c hc => (hw c hc).ne] at this
    exact (some.inj this).symm
  have hblank := blank_map_raw hw
  -- the first component
  have hfirst : ∃ r part rest, PrintsRdn σ r part ∧ S' ++ w.map .raw = part ++ rest ∧
      ∃ F W, part = F ++ W ∧ (∀ t ∈ W, t.Blank) ∧
        readRdn σ (k.map .raw ++ .raw '=' :: F) = some r := by
    cases parts with
    | nil =>
      obtain rfl := forall₂_nil_right_iff.mp hparts
      exact absurd (forall₂_nil_right_iff.mp (mapM_eq_some_iff.mp hmapM))
        (splitOnP_ne_nil _ _)
    | cons part parts =>
      obtain ⟨r, n', hpart, hparts', rfl⟩ := forall₂_cons_right_iff.mp hparts
      by_cases hnil : parts = []
      · subst hnil
        rw [intercalate_singleton] at hT
        have hsep : ∀ t ∈ S', t ≠ .raw ',' ∧ t ≠ .raw ';' := fun t ht =>
          ⟨hpart.ne_raw (by decide) (by decide) t (hT ▸ mem_append_left _ ht),
            (hplain t (mem_append_left _ ht)).2⟩
        rw [splitOnP_eq_singleton (separates_key hkey hsep)] at hmapM
        obtain ⟨r', n'', hr, -, heq⟩ := forall₂_cons_left_iff.mp (mapM_eq_some_iff.mp hmapM)
        obtain ⟨rfl, -⟩ := List.cons.inj heq
        exact ⟨r, part, [], hpart, by rw [hT, append_nil], S', _, hT, hblank, hr⟩
      · rw [intercalate_cons_of_ne_nil hnil, append_assoc] at hT
        have hcommaW : raw ',' ∉ w.map raw := fun h =>
          (hblank _ h).ne_raw (by decide) rfl
        obtain ⟨S'', rfl⟩ : ∃ S'', S' = part ++ .raw ',' :: S'' := by
          rcases append_eq_append_iff.mp hT with ⟨as, rfl, has⟩ | ⟨bs, -, hbs⟩
          · cases as with
            | nil => exact absurd (by rw [← nil_append (w.map _), ← has]; simp) hcommaW
            | cons t as =>
              obtain ⟨rfl, -⟩ := List.cons.inj has
              exact ⟨as, rfl⟩
          · exact absurd (by rw [hbs]; simp) hcommaW
        have hsep : ∀ t ∈ part, t ≠ .raw ',' ∧ t ≠ .raw ';' := fun t ht =>
          ⟨hpart.ne_raw (by decide) (by decide) t ht, hpart.ne_raw (by decide) (by decide) t ht⟩
        rw [show k.map .raw ++ .raw '=' :: (part ++ .raw ',' :: S'') =
            (k.map .raw ++ .raw '=' :: part) ++ .raw ',' :: S'' by simp,
          splitOnP_append_cons_of_forall_mem (separates_key hkey hsep) _ (by decide)] at hmapM
        obtain ⟨r', n'', hr, -, heq⟩ := forall₂_cons_left_iff.mp (mapM_eq_some_iff.mp hmapM)
        obtain ⟨rfl, -⟩ := List.cons.inj heq
        exact ⟨r, part, .raw ',' :: S'' ++ w.map .raw, hpart, by simp, part, [], by simp,
          fun t ht => absurd ht not_mem_nil, hr⟩
  obtain ⟨r, part, rest, hpart, heq, F, W, rfl, hWblank, hr⟩ := hfirst
  obtain ⟨value, hvalue, hne⟩ := rdn_unmatched hk hr hpart hWblank
  obtain ⟨t, value, rfl⟩ := exists_cons_of_ne_nil hne
  have ht : t ∈ F ++ W := by rw [hvalue]; simp
  have hhead : ∃ c b, t.spell = c :: b ∧ c ≠ ',' := by
    have hplain := hpart.plain t ht
    cases t with
    | raw c =>
      exact ⟨c, [], rfl, fun h =>
        hpart.ne_raw (c := ',') (by decide) (by decide) _ ht (by rw [h])⟩
    | pair c => exact ⟨_, _, rfl, by decide⟩
    | octet high low => exact ⟨_, _, rfl, by decide⟩
    | quoted c => exact absurd hplain id
    | quote => exact absurd hplain id
  obtain ⟨c, b, hspell, hc⟩ := hhead
  refine ⟨c, b ++ value.flatMap spell ++ rest.flatMap spell, ?_, hc⟩
  rw [htext, heq, hvalue]
  simp only [flatMap_append, flatMap_cons, spell_map_raw, hspell]
  simp [spell]

end AppliverySoar.Names
