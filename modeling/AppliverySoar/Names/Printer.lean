import AppliverySoar.Names.DistinguishedName
import Mathlib.Data.List.ModifyLast

/-!
# A printer of distinguished names

It escapes what RFC 2253 requires it to, and prints octets outside ASCII as
hexadecimal pairs.

Results:
* `prints_printName`: what it makes of a name that has been read is a printing
  of the name.
* `rfcSchema`: the attribute types of the RFC.
-/

namespace AppliverySoar.Names

open List Option Token

variable {σ : Schema} {v : Value} {a : Ava} {r : List Ava} {n : Name} {ts : List Token}

/-- The digits of an octet. -/
def hexDigits (b : UInt8) : Char × Char :=
  (Nat.digitChar (b.toNat / 16), Nat.digitChar (b.toNat % 16))

/-- The token of an octet in the middle of a string. -/
def printOctet (b : UInt8) : Token :=
  let c := Char.ofNat b.toNat
  if 128 ≤ b.toNat then .octet (hexDigits b).1 (hexDigits b).2
  else if c ∈ reservedChars then .pair c
  else .raw c

/-- A token at the edge of a string. -/
def escapeEdge : Token → Token
  | .raw c => if c = ' ' ∨ c = '#' then .pair c else .raw c
  | t => t

/-- The tokens of a value. -/
def printValue : Value → List Token
  | .text octets => ((octets.map printOctet).modifyHead escapeEdge).modifyLast escapeEdge
  | .encoded ber =>
    .raw '#' :: ber.flatMap fun b => [.raw (hexDigits b).1, .raw (hexDigits b).2]

/-- The tokens of an attribute. -/
def printAva (a : Ava) : List Token :=
  a.type.map .raw ++ .raw '=' :: printValue a.value

/-- The tokens of a component. -/
def printRdn (r : List Ava) : List Token :=
  [.raw '+'].intercalate (r.map printAva)

/-- The text of a name. -/
def printName (n : Name) : List Char :=
  ([.raw ','].intercalate (n.map printRdn)).flatMap Token.spell

/-! ## Strings -/

theorem hexPair_hexDigits (b : UInt8) : hexPair (hexDigits b).1 (hexDigits b).2 = some b := by
  have h : ∀ i : Fin 256, hexPair (hexDigits (UInt8.ofNat i)).1 (hexDigits (UInt8.ofNat i)).2 =
      some (UInt8.ofNat i) := by
    decide +kernel
  have := h ⟨b.toNat, b.toNat_lt⟩
  rwa [UInt8.ofNat_toNat] at this

theorem octets_printOctet (b : UInt8) : (printOctet b).octets = [b] := by
  have h : ∀ i : Fin 256, (printOctet (UInt8.ofNat i)).octets = [UInt8.ofNat i] := by
    decide +kernel
  have := h ⟨b.toNat, b.toNat_lt⟩
  rwa [UInt8.ofNat_toNat] at this

theorem safe_printOctet (b : UInt8) : (printOctet b).Safe := by
  unfold printOctet
  dsimp only
  split_ifs with hascii hreserved
  · exact isSome_of_eq_some (hexPair_hexDigits b)
  · exact mem_pairChars_of_mem_reservedChars hreserved
  · exact hreserved

theorem octets_map_printOctet (octets : List UInt8) :
    (octets.map printOctet).flatMap Token.octets = octets := by
  induction octets with
  | nil => rfl
  | cons b octets ih => rw [map_cons, flatMap_cons, ih, octets_printOctet]; rfl

theorem octets_escapeEdge (t : Token) : (escapeEdge t).octets = t.octets := by
  unfold escapeEdge
  split
  · split <;> rfl
  · rfl

theorem safe_escapeEdge {t : Token} (h : t.Safe) : (escapeEdge t).Safe := by
  unfold escapeEdge
  split
  · split_ifs with hc
    · rcases hc with rfl | rfl
      · exact (by decide : ' ' ∈ pairChars)
      · exact (by decide : '#' ∈ pairChars)
    · exact h
  · exact h

theorem escapeEdge_ne (t : Token) {c : Char} (hc : c = ' ' ∨ c = '#') : escapeEdge t ≠ .raw c := by
  unfold escapeEdge
  split
  · split_ifs with hd
    · simp
    · intro h
      obtain rfl := raw.inj h
      exact hd hc
  · rename_i hraw
    exact hraw c

/-- Escaping at both edges keeps the string and makes it printable. -/
theorem prints_escapeEdge (hts : ∀ t ∈ ts, t.Safe) :
    PrintsValue σ (.text (ts.flatMap octets))
      ((ts.modifyHead escapeEdge).modifyLast escapeEdge) := by
  have hheads : ∀ t ∈ ts.modifyHead escapeEdge, t.Safe := by
    cases ts with
    | nil => exact hts
    | cons t ts =>
      intro u hu
      rcases mem_cons.mp hu with rfl | hu
      · exact safe_escapeEdge (hts t mem_cons_self)
      · exact hts u (mem_cons_of_mem t hu)
  have hoctets : (ts.modifyHead escapeEdge).flatMap octets = ts.flatMap octets := by
    cases ts with
    | nil => rfl
    | cons t ts =>
      rw [modifyHead_cons, flatMap_cons, flatMap_cons, octets_escapeEdge]
  have hhead : ∀ t, (ts.modifyHead escapeEdge).head? = some t → ∃ u, t = escapeEdge u := by
    intro t ht
    cases ts with
    | nil => exact absurd ht (by simp)
    | cons u ts => exact ⟨u, (some.inj ht).symm⟩
  rw [← hoctets]
  generalize ts.modifyHead escapeEdge = us at hheads hhead
  rcases us.eq_nil_or_concat' with rfl | ⟨init, last, rfl⟩
  · exact .text hheads (by simp) (by simp) (by simp)
  rw [modifyLast_concat, show (init ++ [last]).flatMap octets =
    (init ++ [escapeEdge last]).flatMap octets by simp [octets_escapeEdge]]
  have hfirst : ∀ t, (init ++ [escapeEdge last]).head? = some t → ∃ u, t = escapeEdge u := by
    intro t ht
    cases init with
    | nil => exact ⟨last, (some.inj ht).symm⟩
    | cons u init => exact hhead t ht
  refine .text (fun t ht => ?_) (fun h => ?_) (fun h => ?_) fun h => ?_
  · rcases mem_append.mp ht with ht | ht
    · exact hheads t (mem_append_left _ ht)
    · rw [mem_singleton.mp ht]
      exact safe_escapeEdge (hheads last (by simp))
  · obtain ⟨u, hu⟩ := hfirst _ h
    exact escapeEdge_ne u (.inl rfl) hu.symm
  · obtain ⟨u, hu⟩ := hfirst _ h
    exact escapeEdge_ne u (.inr rfl) hu.symm
  · rw [getLast?_concat] at h
    exact escapeEdge_ne last (.inl rfl) (some.inj h)

theorem hexString_hexDigits (ber : List UInt8) :
    hexString (ber.flatMap fun b => [.raw (hexDigits b).1, .raw (hexDigits b).2]) = some ber := by
  induction ber with
  | nil => rfl
  | cons b ber ih =>
    rw [flatMap_cons, cons_append, singleton_append, hexString, hexPair_hexDigits,
      ih]
    rfl

/-! ## What has been read can be printed -/

theorem printsValue_text (octets : List UInt8) :
    PrintsValue σ (.text octets) (printValue (.text octets)) := by
  have hsafe : ∀ t ∈ octets.map printOctet, t.Safe := by
    intro t ht
    obtain ⟨b, -, rfl⟩ := mem_map.mp ht
    exact safe_printOctet b
  have h : PrintsValue σ _ _ := prints_escapeEdge hsafe
  rwa [octets_map_printOctet] at h

theorem printsValue_of_read (h : readValue σ ts = some v) : PrintsValue σ v (printValue v) := by
  rw [readValue] at h
  split_ifs at h with hhash hempty hquote hquotes
  · obtain ⟨ber, hber, rfl⟩ := map_eq_some_iff.mp h
    unfold Schema.berValue
    split
    · exact printsValue_text _
    · refine .encoded (by assumption) (fun hnil => hempty ?_) (hexString_hexDigits ber)
      have hlength := (hexString_spec hber).2
      have hnone := (hexString_spec (hexString_hexDigits ber)).2
      rw [hnil] at hnone
      exact length_eq_zero_iff.mp (by rw [hlength, ← hnone]; rfl)
  · obtain rfl := some.inj h
    exact printsValue_text _
  · obtain rfl := some.inj h
    exact printsValue_text _

theorem printsAva_of_read (h : readAva σ ts = some a) : PrintsAva σ a (printAva a) := by
  rw [readAva] at h
  split at h
  · exact absurd h (by simp)
  · obtain ⟨key, -, h⟩ := bind_eq_some_iff.mp h
    obtain ⟨type, htype, h⟩ := bind_eq_some_iff.mp h
    obtain ⟨v, hv, h⟩ := bind_eq_some_iff.mp h
    obtain rfl := some.inj h
    exact ⟨σ.keyword_keyword _ _ htype, printValue v, printsValue_of_read hv, rfl⟩

theorem printsRdn_of_read (h : readRdn σ ts = some r) : PrintsRdn σ r (printRdn r) := by
  refine ⟨r, r.map printAva, List.Perm.refl r, ?_, rfl⟩
  rw [forall₂_map_right_iff, forall₂_same]
  intro a ha
  obtain ⟨i, hi, rfl⟩ := mem_iff_getElem.mp ha
  have hreads := mapM_eq_some_iff.mp h
  exact printsAva_of_read (hreads.get (by rw [hreads.length_eq]; exact hi) hi)

theorem prints_printName {text : List Char} (h : readName σ text = some n) :
    Prints σ n (printName n) := by
  refine ⟨n.map printRdn, ?_, rfl⟩
  rw [forall₂_map_right_iff, forall₂_same]
  intro r hr
  obtain ⟨ts, -, h⟩ := bind_eq_some_iff.mp h
  split_ifs at h with hempty
  · obtain rfl := some.inj h
    exact absurd hr not_mem_nil
  · obtain ⟨i, hi, rfl⟩ := mem_iff_getElem.mp hr
    have hreads := mapM_eq_some_iff.mp h
    exact printsRdn_of_read (hreads.get (by rw [hreads.length_eq]; exact hi) hi)

/-! ## The keywords of the RFC -/

/-- Section 2.3. -/
def rfcKeywords : List (List Char) :=
  ["CN", "L", "ST", "O", "OU", "C", "STREET", "DC", "UID"].map String.toList

/-- The types of section 2.3, in any case, and no BER encodings of strings. -/
def rfcSchema : Schema where
  keyword k := if k.map Char.toUpper ∈ rfcKeywords then some (k.map Char.toUpper) else none
  berString _ := none
  keyword_cn := by decide
  keyword_keyChar k k' h := by
    have hall : (rfcKeywords.all fun key => key.all keyChar) = true := by decide
    split_ifs at h with hk
    obtain rfl := Option.some.inj h
    exact List.all_eq_true.mp (List.all_eq_true.mp hall _ hk)
  keyword_keyword k k' h := by
    have hall : ∀ key ∈ rfcKeywords, key.map Char.toUpper = key := by decide
    split_ifs at h with hk
    obtain rfl := Option.some.inj h
    rw [hall _ hk, if_pos hk]
  berString_length _ _ h := absurd h (by simp)

end AppliverySoar.Names
