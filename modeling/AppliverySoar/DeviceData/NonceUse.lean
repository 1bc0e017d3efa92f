import AppliverySoar.Async.Pool
import AppliverySoar.DeviceData.PlayIntegrity
import Mathlib.Data.List.Nodup

/-!
# A nonce is good for one token

The table of nonces, with any number of `issueNonce` and
`verifyAndDecodeToken` calls at the same time. A nonce is read, judged and then
consumed by three awaited statements. What is configured, and what a token
decrypts to, is free at each call.

Results:
* `meets_verifyAndDecodeToken`: what a call has done with the nonce when it
  ends.
* `single_use`: in every run in which no two calls for one device overlap
  between the read of an unconsumed nonce and its write, a nonce makes at most
  one call return attributes.
* `nonce_used_twice`: two calls that overlap both return attributes.
-/

namespace AppliverySoar.DeviceData

open Async Compliance Js List

/-! ## The table -/

/-- Rows with different ids and different nonces. -/
structure NonceTable where
  rows : List PlayIntegrityNonce
  ids : (rows.map fun row => row.id).Nodup
  nonces : (rows.map fun row => row.nonce).Nodup

/-- `findUnique({ where: { nonce } })`. -/
def NonceTable.find (t : NonceTable) (nonce : String) : Option PlayIntegrityNonce :=
  t.rows.find? fun row => row.nonce = nonce

/-- The row may be inserted. -/
def NonceTable.Free (t : NonceTable) (id nonce : String) : Prop :=
  ∀ row ∈ t.rows, row.id ≠ id ∧ row.nonce ≠ nonce

instance (t : NonceTable) (id nonce : String) : Decidable (t.Free id nonce) :=
  inferInstanceAs (Decidable (∀ row ∈ t.rows, _))

theorem nodup_map_append {α β : Type} {f : α → β} {l : List α} {b : α} (hl : (l.map f).Nodup)
    (hb : ∀ a ∈ l, f a ≠ f b) : ((l ++ [b]).map f).Nodup := by
  rw [map_append]
  refine nodup_append.mpr ⟨hl, nodup_singleton _, fun x hx y hy => ?_⟩
  obtain ⟨a, ha, rfl⟩ := mem_map.mp hx
  exact mem_singleton.mp hy ▸ hb a ha

/-- An insertion, refused where the id or the nonce is taken. -/
def NonceTable.insert (t : NonceTable) (row : PlayIntegrityNonce) : NonceTable :=
  if h : t.Free row.id row.nonce then
    { rows := t.rows ++ [row]
      ids := nodup_map_append t.ids fun a ha => (h a ha).1
      nonces := nodup_map_append t.nonces fun a ha => (h a ha).2 }
  else t

/-- The row is consumed, if it has the id. -/
def PlayIntegrityNonce.consume (row : PlayIntegrityNonce) (id : String) (now : ℕ) :
    PlayIntegrityNonce :=
  if row.id = id then { row with consumedAt := some now } else row

@[simp] theorem consume_id (row : PlayIntegrityNonce) (id : String) (now : ℕ) :
    (row.consume id now).id = row.id := by
  unfold PlayIntegrityNonce.consume
  split_ifs <;> rfl

@[simp] theorem consume_nonce (row : PlayIntegrityNonce) (id : String) (now : ℕ) :
    (row.consume id now).nonce = row.nonce := by
  unfold PlayIntegrityNonce.consume
  split_ifs <;> rfl

/-- `update({ where: { id }, data: { consumedAt } })`. -/
def NonceTable.consume (t : NonceTable) (id : String) (now : ℕ) : NonceTable where
  rows := t.rows.map fun row => row.consume id now
  ids := by simpa [Function.comp_def] using t.ids
  nonces := by simpa [Function.comp_def] using t.nonces

/-- The table and the clock, which every answer may move. -/
structure NonceStore where
  table : NonceTable
  clock : ℕ → ℕ
  tick : ℕ := 0

/-- `Date.now()`. -/
def NonceStore.now (s : NonceStore) : ℕ :=
  s.clock s.tick

/-- Queries answer what is stored. An insertion gets a new id and is refused
where its nonce is taken. -/
def NonceStore.may (s : NonceStore) (c : NonceCall)
    (r : Except ServiceError (NonceCall.Answer c)) : Prop :=
  match (⟨c, r⟩ : NonceEvent) with
  | ⟨.findNonce nonce, .ok found⟩ => found = s.table.find nonce
  | ⟨.createNonce _ _ nonce, .ok id⟩ => s.table.Free id nonce
  | ⟨.dateNow, .ok now⟩ => now = s.now
  | ⟨.dateNow, .error _⟩ => False
  | _ => True

/-- The table after an answered call. -/
def NonceStore.tableNext (s : NonceStore) (e : NonceEvent) : NonceTable :=
  match e with
  | ⟨.createNonce workspaceSlug serialNumber nonce, .ok id⟩ =>
    s.table.insert { id, workspaceSlug, serialNumber, nonce, issuedAt := s.now }
  | ⟨.consumeNonce id, .ok _⟩ => s.table.consume id s.now
  | _ => s.table

/-- What an answered call leaves. -/
def NonceStore.next (s : NonceStore) (c : NonceCall)
    (r : Except ServiceError (NonceCall.Answer c)) : NonceStore :=
  { s with
    table := s.tableNext ⟨c, r⟩
    tick := s.tick + 1 }

/-- The table as the functions see it. -/
def nonceWorld : World nonceSig ServiceError NonceStore :=
  ⟨NonceStore.may, NonceStore.next⟩

/-- What is asked for. -/
inductive NonceTask
  | issueNonce (workspaceSlug serialNumber : String)
  | verifyAndDecodeToken (workspaceSlug serialNumber rawToken : String)
  deriving DecidableEq

/-- What a task runs. -/
def NonceTask.body : NonceTask → Nonces Unit
  | .issueNonce workspaceSlug serialNumber => do
    let _ ← DeviceData.issueNonce workspaceSlug serialNumber
    pure ()
  | .verifyAndDecodeToken workspaceSlug serialNumber rawToken => do
    let _ ← DeviceData.verifyAndDecodeToken workspaceSlug serialNumber rawToken
    pure ()

/-- The tasks over the table. -/
def nonceSystem : System nonceSig ServiceError NonceStore NonceTask where
  world := nonceWorld
  body := NonceTask.body
  starts _ _ := []

/-- A label of a run. -/
abbrev NonceLabel := Label nonceSig ServiceError NonceTask

/-- The table after a trace. -/
def nonceStoreAfter (s : NonceStore) (tr : List NonceLabel) : NonceStore :=
  nonceWorld.after s (tr.map Label.event)

/-! ## Rows stay, and stay consumed -/

/-- The nonce has a row, with this id. -/
def NonceStore.HasRow (s : NonceStore) (nonce id : String) : Prop :=
  ∃ row ∈ s.table.rows, row.nonce = nonce ∧ row.id = id

/-- The nonce has a row that is consumed. -/
def NonceStore.Consumed (s : NonceStore) (nonce : String) : Prop :=
  ∃ row ∈ s.table.rows, row.nonce = nonce ∧ row.consumedAt ≠ none

section Rows

variable {s : NonceStore} {nonce id : String} {row : PlayIntegrityNonce}

theorem NonceTable.eq_of_nonce (t : NonceTable) {a b : PlayIntegrityNonce} (ha : a ∈ t.rows)
    (hb : b ∈ t.rows) (h : a.nonce = b.nonce) : a = b :=
  inj_on_of_nodup_map t.nonces ha hb h

theorem NonceTable.find_eq_some {t : NonceTable} (h : t.find nonce = some row) :
    row ∈ t.rows ∧ row.nonce = nonce :=
  ⟨mem_of_find?_eq_some h, by simpa using find?_some h⟩

/-- A row after a call is one that was there, with the same consumption or a
new one, or the one that was inserted. -/
theorem mem_tableNext {e : NonceEvent} (h : row ∈ (s.tableNext e).rows) :
    (∃ row₀ ∈ s.table.rows, row = row₀ ∨ ∃ now, row = { row₀ with consumedAt := some now }) ∨
    (∃ workspaceSlug serialNumber nonce id,
      e = ⟨.createNonce workspaceSlug serialNumber nonce, .ok id⟩ ∧
      row = { id, workspaceSlug, serialNumber, nonce, issuedAt := s.now }) := by
  obtain ⟨c, r⟩ := e
  cases r with
  | error e => cases c <;> exact .inl ⟨row, h, .inl rfl⟩
  | ok a =>
    cases c with
    | createNonce workspaceSlug serialNumber nonce =>
      simp only [NonceStore.tableNext, NonceTable.insert] at h
      split_ifs at h
      · rcases mem_append.mp h with h | h
        · exact .inl ⟨row, h, .inl rfl⟩
        · exact .inr ⟨_, _, _, _, rfl, mem_singleton.mp h⟩
      · exact .inl ⟨row, h, .inl rfl⟩
    | consumeNonce id =>
      obtain ⟨row₀, hrow₀, rfl⟩ := mem_map.mp h
      refine .inl ⟨row₀, hrow₀, ?_⟩
      unfold PlayIntegrityNonce.consume
      split_ifs
      · exact .inr ⟨_, rfl⟩
      · exact .inl rfl
    | _ => exact .inl ⟨row, h, .inl rfl⟩

/-- **Step lemma**: a row stays, and what it gains is a consumption. -/
theorem row_next (e : NonceEvent) (h : row ∈ s.table.rows) :
    ∃ row' ∈ (s.next e.call e.answer).table.rows, row'.nonce = row.nonce ∧ row'.id = row.id ∧
      (row.consumedAt ≠ none → row'.consumedAt ≠ none) ∧
      (e.call = .consumeNonce row.id → e.answer.isOk = true → row'.consumedAt ≠ none) := by
  obtain ⟨c, r⟩ := e
  have hsame : c ≠ .consumeNonce row.id ∨ r.isOk = false →
      row ∈ (s.next c r).table.rows →
      ∃ row' ∈ (s.next c r).table.rows, row'.nonce = row.nonce ∧ row'.id = row.id ∧
        (row.consumedAt ≠ none → row'.consumedAt ≠ none) ∧
        (c = .consumeNonce row.id → r.isOk = true → row'.consumedAt ≠ none) := by
    intro hnot hmem
    refine ⟨row, hmem, rfl, rfl, id, fun hc hr => ?_⟩
    rcases hnot with hnot | hnot
    · exact absurd hc hnot
    · rw [hr] at hnot
      cases hnot
  cases r with
  | error e => cases c <;> exact hsame (.inr rfl) h
  | ok a =>
    cases c with
    | createNonce workspaceSlug serialNumber nonce =>
      refine hsame (.inl (fun heq => by cases heq)) ?_
      show row ∈ (s.table.insert _).rows
      unfold NonceTable.insert
      split_ifs
      · exact mem_append_left _ h
      · exact h
    | consumeNonce id =>
      refine ⟨_, mem_map_of_mem h, consume_nonce _ _ _, consume_id _ _ _, ?_, ?_⟩
      · intro hconsumed
        unfold PlayIntegrityNonce.consume
        split_ifs
        · exact Option.some_ne_none _
        · exact hconsumed
      · intro hc _
        rw [PlayIntegrityNonce.consume, if_pos (NonceCall.consumeNonce.inj hc).symm]
        exact Option.some_ne_none _
    | _ => exact hsame (.inl (fun heq => by cases heq)) h

theorem hasRow_next (e : NonceEvent) (h : s.HasRow nonce id) :
    (s.next e.call e.answer).HasRow nonce id := by
  obtain ⟨row, hrow, rfl, rfl⟩ := h
  obtain ⟨row', hrow', hnonce, hid, -, -⟩ := row_next e hrow
  exact ⟨row', hrow', hnonce, hid⟩

theorem consumed_next (e : NonceEvent) (h : s.Consumed nonce) :
    (s.next e.call e.answer).Consumed nonce := by
  obtain ⟨row, hrow, rfl, hconsumed⟩ := h
  obtain ⟨row', hrow', hnonce, -, hkept, -⟩ := row_next e hrow
  exact ⟨row', hrow', hnonce, hkept hconsumed⟩

theorem hasRow_after (es : List NonceEvent) (h : s.HasRow nonce id) :
    (nonceWorld.after s es).HasRow nonce id := by
  induction es generalizing s with
  | nil => exact h
  | cons e es ih => exact ih (hasRow_next e h)

theorem consumed_after (es : List NonceEvent) (h : s.Consumed nonce) :
    (nonceWorld.after s es).Consumed nonce := by
  induction es generalizing s with
  | nil => exact h
  | cons e es ih => exact ih (consumed_next e h)

/-- An update that is not refused consumes the nonce of the id. -/
theorem consumed_of_consume (h : s.HasRow nonce id) :
    (s.next (.consumeNonce id) (.ok ())).Consumed nonce := by
  obtain ⟨row, hrow, rfl, rfl⟩ := h
  obtain ⟨row', hrow', hnonce, -, -, hconsumed⟩ :=
    row_next ⟨.consumeNonce row.id, .ok ()⟩ hrow
  exact ⟨row', hrow', hnonce, hconsumed rfl rfl⟩

theorem consumedAt_of_find (h : s.Consumed nonce) (hfind : s.table.find nonce = some row) :
    row.consumedAt ≠ none := by
  obtain ⟨row', hrow', rfl, hconsumed⟩ := h
  obtain ⟨hrow, hnonce⟩ := NonceTable.find_eq_some hfind
  exact s.table.eq_of_nonce hrow' hrow hnonce.symm ▸ hconsumed

end Rows

/-! ## What a call does with the nonce -/

/-- The calls that read or write the row of a nonce. -/
def NonceCall.asksRow : NonceCall → Bool
  | .findNonce _ | .consumeNonce _ => true
  | _ => false

/-- No row has been asked for yet. -/
def Unasked (es : List NonceEvent) : Prop :=
  ∀ e ∈ es, e.call.asksRow = false

/-- The row of the nonce has been read. -/
def FoundRow (es : List NonceEvent) (nonce : String) (row : PlayIntegrityNonce) : Prop :=
  ⟨.findNonce nonce, .ok (some row)⟩ ∈ es

/-- The row was issued to the device. -/
def PlayIntegrityNonce.isFor (row : PlayIntegrityNonce) (workspaceSlug serialNumber : String) :
    Prop :=
  row.workspaceSlug = workspaceSlug ∧ row.serialNumber = serialNumber

instance (row : PlayIntegrityNonce) (workspaceSlug serialNumber : String) :
    Decidable (row.isFor workspaceSlug serialNumber) :=
  inferInstanceAs (Decidable (_ ∧ _))

/-- What a call has exchanged that returns attributes: it has read an unconsumed
row of its device, judged it young enough, and consumed it. -/
structure Redeemed (workspaceSlug serialNumber : String) (es : List NonceEvent) (nonce : String)
    (row : PlayIntegrityNonce) (pre : List NonceEvent) (now : ℕ) : Prop where
  log : es = pre ++ [⟨.findNonce nonce, .ok (some row)⟩, ⟨.dateNow, .ok now⟩,
    ⟨.consumeNonce row.id, .ok ()⟩]
  unasked : Unasked pre
  isFor : row.isFor workspaceSlug serialNumber
  fresh : row.consumedAt = none
  young : now - row.issuedAt ≤ NONCE_MAX_AGE_MS

/-- What a call has done when it returns `a`: a row that it found was consumed
before or by its last call. -/
structure VerifyEnd (workspaceSlug serialNumber : String)
    (a : Option PlayIntegrityDerivedAttributes) (es : List NonceEvent) : Prop where
  spent : ∀ nonce row, FoundRow es nonce row → row.consumedAt ≠ none ∨
    ∃ pre, es = pre ++ [⟨.consumeNonce row.id, .ok ()⟩] ∧ FoundRow pre nonce row
  redeemed : a ≠ none → ∃ nonce row pre now, Redeemed workspaceSlug serialNumber es nonce row pre now

/-- One nonce is looked up. -/
def AsksOnce (es : List NonceEvent) (c : NonceCall) : Prop :=
  ∀ nonce, c = .findNonce nonce → Unasked es

section Program

variable {workspaceSlug serialNumber : String} {es : List NonceEvent} {row : PlayIntegrityNonce}
  {nonce : String}

theorem Unasked.snoc {e : NonceEvent} (h : Unasked es) (he : e.call.asksRow = false) :
    Unasked (es ++ [e]) := by
  intro e' he'
  rcases mem_append.mp he' with he' | he'
  · exact h e' he'
  · exact mem_singleton.mp he' ▸ he

theorem Unasked.not_found (h : Unasked es) :
    ¬FoundRow es nonce row :=
  fun hfound => Bool.noConfusion (h _ hfound)

theorem verifyEnd_unasked (h : Unasked es) : VerifyEnd workspaceSlug serialNumber none es :=
  ⟨fun _ _ hfound => absurd hfound h.not_found, fun hne => absurd rfl hne⟩

/-- A row that is found is the one that was read, and its update comes last. -/
theorem spent_of_consumed {nonce nonce' : String} {row row' : PlayIntegrityNonce}
    (hes : Unasked es) (fs : List NonceEvent) (hfs : Unasked fs)
    (hfound : FoundRow ((es ++ ⟨.findNonce nonce, .ok (some row)⟩ :: fs) ++
      [⟨.consumeNonce row.id, .ok ()⟩]) nonce' row') :
    ∃ pre, (es ++ ⟨.findNonce nonce, .ok (some row)⟩ :: fs) ++ [⟨.consumeNonce row.id, .ok ()⟩] =
      pre ++ [⟨.consumeNonce row'.id, .ok ()⟩] ∧ FoundRow pre nonce' row' := by
  rcases mem_append.mp hfound with hfound | hfound
  · have hfound' := hfound
    rcases mem_append.mp hfound with hfound | hfound
    · exact absurd hfound hes.not_found
    · rcases mem_cons.mp hfound with hfound | hfound
      · cases hfound
        exact ⟨_, rfl, hfound'⟩
      · exact absurd hfound hfs.not_found
  · cases mem_singleton.mp hfound

theorem meets_redeem (hes : Unasked es)
    (a : PlayIntegrityDerivedAttributes) :
    (do
      let ok ← nonceOk workspaceSlug serialNumber row
      consumeIfFresh row
      return if ok then some a else none :
      Nonces (Option PlayIntegrityDerivedAttributes)).Meets (World.log _ _) AsksOnce
      (es ++ [⟨.findNonce nonce, .ok (some row)⟩])
      (post (VerifyEnd workspaceSlug serialNumber) fun _ _ => True) := by
  unfold nonceOk consumeIfFresh
  by_cases hconsumed : row.consumedAt = none
  · by_cases hfor : row.workspaceSlug = workspaceSlug ∧ row.serialNumber = serialNumber
    · rw [if_pos ⟨hfor.1, hfor.2, hconsumed⟩, if_pos hconsumed]
      refine ⟨fun _ h => (by cases h), fun r _ => ?_⟩
      cases r with
      | error e => trivial
      | ok now =>
        refine ⟨fun _ h => (by cases h), fun r _ => ?_⟩
        cases r with
        | error e => trivial
        | ok u =>
          refine ⟨fun nonce' row' hfound => .inr ?_, fun hsome => ?_⟩
          · have hes' : (World.log nonceSig ServiceError).next ((World.log _ _).next
                (es ++ [⟨.findNonce nonce, .ok (some row)⟩]) .dateNow (.ok now))
                (.consumeNonce row.id) (.ok u) =
                (es ++ ⟨.findNonce nonce, .ok (some row)⟩ :: [⟨.dateNow, .ok now⟩]) ++
                [⟨.consumeNonce row.id, .ok ()⟩] := by
              simp [World.log]
            rw [hes'] at hfound ⊢
            exact spent_of_consumed hes _ (by simp [Unasked, NonceCall.asksRow]) hfound
          · have hyoung : now - row.issuedAt ≤ NONCE_MAX_AGE_MS := by
              by_contra hold
              rw [if_neg (by simpa using hold)] at hsome
              exact hsome rfl
            exact ⟨nonce, row, es, now, by simp [World.log], hes, hfor, hconsumed, hyoung⟩
    · rw [if_neg (fun h => hfor ⟨h.1, h.2.1⟩), if_pos hconsumed]
      refine ⟨fun _ h => (by cases h), fun r _ => ?_⟩
      cases r with
      | error e => trivial
      | ok u =>
        refine ⟨fun nonce' row' hfound => .inr ?_, fun hsome => absurd rfl hsome⟩
        exact spent_of_consumed hes [] (by simp [Unasked]) hfound
  · rw [if_neg (fun h => hconsumed h.2.2), if_neg hconsumed]
    refine ⟨fun nonce' row' hfound => .inl ?_, fun hsome => absurd rfl hsome⟩
    rcases mem_append.mp hfound with hfound | hfound
    · exact absurd hfound hes.not_found
    · cases mem_singleton.mp hfound
      exact hconsumed

theorem meets_redeemNonce (hes : Unasked es) (payload : Value) :
    (redeemNonce workspaceSlug serialNumber payload).Meets (World.log _ _) AsksOnce es
      (post (VerifyEnd workspaceSlug serialNumber) fun _ _ => True) := by
  unfold redeemNonce
  cases tokenNonce payload with
  | none => exact verifyEnd_unasked hes
  | some nonce =>
    refine ⟨fun _ _ => hes, fun r _ => ?_⟩
    match r with
    | .error e => trivial
    | .ok none =>
      refine ⟨fun nonce' row hfound => ?_, fun hsome => absurd rfl hsome⟩
      rcases mem_append.mp hfound with hfound | hfound
      · exact absurd hfound hes.not_found
      · cases mem_singleton.mp hfound
    | .ok (some row) => exact meets_redeem hes (derivedAttributes payload)

theorem meets_decodePayload (hes : Unasked es) (config : PlayIntegrityConfig)
    (rawToken : String) :
    (decodePayload config rawToken).Meets (World.log _ _) AsksOnce es fun _ es => Unasked es := by
  refine ⟨nofun, fun r _ => ?_⟩
  have hes' := hes.snoc (e := ⟨.compactDecrypt rawToken config.decryptionKey, r⟩) rfl
  cases r with
  | error e => exact hes'
  | ok compactJws => exact ⟨nofun, fun r _ => hes'.snoc rfl⟩

/-- **Specification of `verifyAndDecodeToken`.** -/
theorem meets_verifyAndDecodeToken (slug serial rawToken : String) :
    (verifyAndDecodeToken slug serial rawToken).Meets (World.log _ _) AsksOnce []
      (post (VerifyEnd slug serial) fun _ _ => True) := by
  refine ⟨nofun, fun r _ => ?_⟩
  have hes : Unasked [⟨.findConfig slug, r⟩] := by simp [Unasked, NonceCall.asksRow]
  match r, hes with
  | .error e, _ => trivial
  | .ok none, hes => exact verifyEnd_unasked hes
  | .ok (some config), hes =>
    show Prog.Meets _ _ (if !config.enabled then _ else _) _ _
    split_ifs with henabled
    · exact verifyEnd_unasked hes
    · refine Prog.Meets.bind (R := fun _ es => Unasked es)
        (Prog.Meets.attempt ((meets_decodePayload hes config rawToken).mono fun _ _ h => h))
        fun decoded es hes => ?_
      cases decoded with
      | error e => exact verifyEnd_unasked hes
      | ok payload => exact meets_redeemNonce hes payload

end Program

/-! ## Statements -/

/-- The thread is a call that has returned attributes for a token that carries
the nonce. -/
def Gives (th : Thread nonceSig ServiceError NonceTask) (nonce : String) : Prop :=
  ∃ workspaceSlug serialNumber rawToken a r,
    th.task = .verifyAndDecodeToken workspaceSlug serialNumber rawToken ∧
    Prog.Steps (verifyAndDecodeToken workspaceSlug serialNumber rawToken) th.log
      (.ret (.ok (some a))) ∧ ⟨.findNonce nonce, r⟩ ∈ th.log

/-- With this label a call has come to its end without an exception, for a token
that carries the nonce, and has found the nonce issued. -/
def Processed (l : NonceLabel) (nonce : String) : Prop :=
  ∃ workspaceSlug serialNumber rawToken a row,
    l.task = .verifyAndDecodeToken workspaceSlug serialNumber rawToken ∧
    Prog.Steps (verifyAndDecodeToken workspaceSlug serialNumber rawToken) (l.past ++ [l.event])
      (.ret (.ok a)) ∧ FoundRow (l.past ++ [l.event]) nonce row

/-- The nonce was issued to the device at the moment `issuedAt`: it stands in the
table from the start on, or a label of the trace inserts it. -/
def IssuedTo (s : NonceStore) (tr : List NonceLabel)
    (nonce workspaceSlug serialNumber : String) (issuedAt : ℕ) : Prop :=
  (∃ row ∈ s.table.rows, row.nonce = nonce ∧ row.isFor workspaceSlug serialNumber ∧
    row.issuedAt = issuedAt) ∨
  ∃ pre l post id, tr = pre ++ l :: post ∧
    l.event = ⟨.createNonce workspaceSlug serialNumber nonce, .ok id⟩ ∧
    issuedAt = (nonceStoreAfter s pre).now

/-- A nonce makes at most one call return attributes, one for the device that it
was issued to, which judges it within its maximum age; and a call that reads
it after another one has processed it returns none. -/
structure SingleUse (s : NonceStore) (tr : List NonceLabel)
    (cfg : Config nonceSig ServiceError NonceStore NonceTask) : Prop where
  once : ∀ (i j : ℕ) th th' nonce, cfg.threads[i]? = some th → cfg.threads[j]? = some th' →
    Gives th nonce → Gives th' nonce → i = j
  bound : ∀ (i : ℕ) th nonce workspaceSlug serialNumber rawToken, cfg.threads[i]? = some th →
    Gives th nonce → th.task = .verifyAndDecodeToken workspaceSlug serialNumber rawToken →
    ∃ pre l post issuedAt, tr = pre ++ l :: post ∧ l.thread = i ∧
      IssuedTo s pre nonce workspaceSlug serialNumber issuedAt ∧
      (nonceStoreAfter s pre).now - issuedAt ≤ NONCE_MAX_AGE_MS
  processed : ∀ pre l mid l' post nonce th, tr = pre ++ l :: (mid ++ l' :: post) →
    Processed l nonce → l'.event.call = .findNonce nonce → cfg.threads[l'.thread]? = some th →
    ¬Gives th nonce

/-- The task is a call for the device of the row. -/
def NonceTask.isFor (t : NonceTask) (row : PlayIntegrityNonce) : Prop :=
  ∃ rawToken, t = .verifyAndDecodeToken row.workspaceSlug row.serialNumber rawToken

/-- Where a call reads a nonce of its device as unconsumed, every other call for
the device that has read it so has had its update answered. -/
def NoOverlap (tr : List NonceLabel) (_ : NonceStore) (l : NonceLabel) : Prop :=
  ∀ nonce row, l.event = ⟨.findNonce nonce, .ok (some row)⟩ → row.consumedAt = none →
    l.task.isFor row → ∀ l' ∈ tr, ∀ row', l'.event = ⟨.findNonce nonce, .ok (some row')⟩ →
    row'.consumedAt = none → l'.task.isFor row' →
    ∃ l'' ∈ tr, l''.thread = l'.thread ∧ l''.event.call = .consumeNonce row'.id

/-! ## Every run -/

section Runs

variable {s : NonceStore} {ts : List NonceTask} {tr : List NonceLabel}
  {cond : List NonceLabel → NonceStore → NonceLabel → Prop}
  {cfg : Config nonceSig ServiceError NonceStore NonceTask}
  {th : Thread nonceSig ServiceError NonceTask} {nonce : String}

theorem nonceStoreAfter_append (s : NonceStore) (tr tr' : List NonceLabel) :
    nonceStoreAfter s (tr ++ tr') = nonceWorld.after (nonceStoreAfter s tr)
      (tr'.map Label.event) := by
  rw [nonceStoreAfter, map_append, World.after_append]
  rfl

variable {pre post : List NonceLabel} {l : NonceLabel}

theorem nonce_may (h : Run nonceSystem cond (nonceSystem.launch s ts) tr cfg)
    (htr : tr = pre ++ l :: post) : (nonceStoreAfter s pre).may l.event.call l.event.answer := by
  obtain ⟨cfg₁, cfg₂, hrun, hstep, -, -⟩ := h.step_of_append htr
  have hstore : cfg₁.store = nonceStoreAfter s pre := hrun.store_eq
  exact hstore ▸ hstep.may

variable {slug serial : String} {row : PlayIntegrityNonce}

theorem IssuedTo.append {issuedAt : ℕ}
    (h : IssuedTo s tr nonce slug serial issuedAt) (tr' : List NonceLabel) :
    IssuedTo s (tr ++ tr') nonce slug serial issuedAt := by
  rcases h with hrow | ⟨pre, l, post, id, rfl, hl⟩
  · exact .inl hrow
  · exact .inr ⟨pre, l, post ++ tr', id, by simp, hl⟩

theorem issued_of_mem
    (h : row ∈ (nonceStoreAfter s tr).table.rows) :
    IssuedTo s tr row.nonce row.workspaceSlug row.serialNumber row.issuedAt := by
  induction tr using reverseRecOn generalizing row with
  | nil => exact .inl ⟨row, h, rfl, ⟨rfl, rfl⟩, rfl⟩
  | append_singleton tr l ih =>
    rw [nonceStoreAfter_append] at h
    rcases mem_tableNext h with ⟨row₀, hrow₀, rfl | ⟨now, rfl⟩⟩ | ⟨ws, serial, nonce, id, he, rfl⟩
    · exact (ih hrow₀).append _
    · have hissued := ih hrow₀
      exact hissued.append _
    · exact .inr ⟨tr, l, [], id, rfl, he, rfl⟩

theorem redeemed_of_gives {slug serialNumber rawToken : String} (h : Gives th nonce)
    (htask : th.task = .verifyAndDecodeToken slug serialNumber rawToken) :
    ∃ row pre now, Redeemed slug serialNumber th.log nonce row pre now := by
  obtain ⟨ws, serial, token, a, r, htask', hsteps, hmem⟩ := h
  obtain ⟨rfl, rfl, rfl⟩ := NonceTask.verifyAndDecodeToken.inj (htask'.symm.trans htask)
  have hend := (meets_verifyAndDecodeToken ws serial token).post_of_steps hsteps
    (World.log_accepts _ _)
  rw [World.log_after, nil_append] at hend
  obtain ⟨nonce', row, pre, now, hredeemed⟩ := hend.redeemed (Option.some_ne_none a)
  obtain rfl : nonce = nonce' := by
    rw [hredeemed.log] at hmem
    rcases mem_append.mp hmem with hmem | hmem
    · exact Bool.noConfusion (hredeemed.unasked _ hmem)
    · simp only [mem_cons, not_mem_nil, or_false] at hmem
      rcases hmem with hmem | hmem | hmem <;> cases hmem
      rfl
  exact ⟨row, pre, now, hredeemed⟩

section

variable (h : Run nonceSystem cond (nonceSystem.launch s ts) tr cfg)
include h

/-- After the update of a row that its call has read, the nonce is consumed. -/
theorem consumed_of_label
    (htr : tr = pre ++ l :: post) (hevent : l.event = ⟨.consumeNonce row.id, .ok ()⟩)
    (hfound : FoundRow l.past nonce row) : (nonceStoreAfter s (pre ++ [l])).Consumed nonce := by
  rw [h.past_eq htr] at hfound
  obtain ⟨l₀, hl₀, -, hevent₀⟩ := mem_ownEvents.mp hfound
  obtain ⟨before, between, rfl⟩ := append_of_mem hl₀
  have hmay := nonce_may h (htr.trans (append_assoc before (l₀ :: between) (l :: post)))
  rw [hevent₀] at hmay
  obtain ⟨hrow, hnonce⟩ := NonceTable.find_eq_some (show some row = _ from hmay).symm
  have hrow' : (nonceStoreAfter s before).HasRow nonce row.id := ⟨row, hrow, hnonce, rfl⟩
  have hhas : (nonceStoreAfter s (before ++ l₀ :: between)).HasRow nonce row.id := by
    rw [nonceStoreAfter_append]
    exact hasRow_after _ hrow'
  rw [nonceStoreAfter_append, map_cons, hevent]
  exact consumed_of_consume hhas

theorem consumed_of_read
    {pre mid post : List NonceLabel}
    (htr : tr = pre ++ l :: (mid ++ post)) (hconsumed : row.consumedAt ≠ none)
    (hevent : l.event = ⟨.findNonce nonce, .ok (some row)⟩) :
    (nonceStoreAfter s (pre ++ l :: mid)).Consumed nonce := by
  have hmay := nonce_may h htr
  rw [hevent] at hmay
  obtain ⟨hrow, hnonce⟩ := NonceTable.find_eq_some (show some row = _ from hmay).symm
  have hread : (nonceStoreAfter s pre).Consumed nonce := ⟨row, hrow, hnonce, hconsumed⟩
  rw [nonceStoreAfter_append]
  exact consumed_after _ hread

/-- Once a call for the nonce has come to its end, the nonce is consumed. -/
theorem consumed_of_processed
    (htr : tr = pre ++ l :: post)
    (hprocessed : Processed l nonce) : (nonceStoreAfter s (pre ++ [l])).Consumed nonce := by
  obtain ⟨ws, serial, token, a, row, -, hsteps, hfound⟩ := hprocessed
  have hend := (meets_verifyAndDecodeToken ws serial token).post_of_steps hsteps
    (World.log_accepts _ _)
  rw [World.log_after, nil_append] at hend
  rcases hend.spent nonce row hfound with hconsumed | ⟨past, hlog, hread⟩
  · have hown : ⟨.findNonce nonce, .ok (some row)⟩ ∈ ownEvents l.thread (pre ++ [l]) := by
      rw [ownEvents_snoc, if_pos rfl, ← h.past_eq htr]
      exact hfound
    obtain ⟨l₀, hl₀, -, hevent₀⟩ := mem_ownEvents.mp hown
    obtain ⟨before, between, hcut⟩ := append_of_mem hl₀
    have htr' : tr = before ++ l₀ :: (between ++ post) :=
      calc tr = (pre ++ [l]) ++ post := by simp [htr]
        _ = before ++ l₀ :: (between ++ post) := by rw [hcut]; simp
    rw [hcut]
    exact consumed_of_read h htr' hconsumed hevent₀
  · obtain ⟨rfl, hevent⟩ := append_inj' hlog rfl
    exact consumed_of_label h htr (List.cons.inj hevent).1 hread

/-- The calls about a row that a call has made which gives attributes. -/
theorem event_of_redeemed
    (hl : l ∈ tr) (hi : cfg.threads[l.thread]? = some th) {past : List NonceEvent}
    {now : ℕ} (hredeemed : Redeemed slug serial th.log nonce row past now)
    (hcall : l.event.call.asksRow = true) :
    l.event = ⟨.findNonce nonce, .ok (some row)⟩ ∨
    (l.event = ⟨.consumeNonce row.id, .ok ()⟩ ∧ FoundRow l.past nonce row) := by
  have hmem : l.event ∈ th.log := by
    rw [(h.thread_spec hi).1]
    exact mem_ownEvents.mpr ⟨l, hl, rfl, rfl⟩
  rw [hredeemed.log] at hmem
  rcases mem_append.mp hmem with hmem | hmem
  · rw [hredeemed.unasked _ hmem] at hcall
    cases hcall
  simp only [mem_cons, not_mem_nil, or_false] at hmem
  rcases hmem with hmem | hmem | hmem
  · exact .inl hmem
  · rw [hmem] at hcall
    cases hcall
  · refine .inr ⟨hmem, ?_⟩
    obtain ⟨th', hth', -, hprefix⟩ := h.thread_of_label hl
    obtain rfl := Option.some.inj (hi.symm.trans hth')
    rw [hmem, hredeemed.log, show ∀ x y z : NonceEvent, past ++ [x, y, z] = (past ++ [x, y]) ++ [z]
      by simp] at hprefix
    -- the update is the last call, and there is no other one
    rcases prefix_concat_iff.mp hprefix with heq | hprefix
    · rw [(append_inj' heq rfl).1]
      exact mem_append_right _ mem_cons_self
    · have hagain := hprefix.subset (mem_append_right _ mem_cons_self)
      rcases mem_append.mp hagain with hagain | hagain
      · exact Bool.noConfusion (hredeemed.unasked _ hagain)
      · simp at hagain

/-- A call that gives attributes has read the nonce where it is not consumed. -/
theorem not_gives_of_consumed
    (htr : tr = pre ++ l :: post)
    (hcall : l.event.call = .findNonce nonce) (hi : cfg.threads[l.thread]? = some th)
    (hconsumed : (nonceStoreAfter s pre).Consumed nonce) : ¬Gives th nonce := by
  intro hgives
  obtain ⟨ws, serial, token, -, -, htask, -⟩ := id hgives
  obtain ⟨row, past, now, hredeemed⟩ := redeemed_of_gives hgives htask
  have hmay := nonce_may h htr
  rcases event_of_redeemed h (htr ▸ by simp) hi hredeemed (by rw [hcall]; rfl) with
    hevent | ⟨hevent, -⟩
  · rw [hevent] at hmay
    exact consumedAt_of_find hconsumed (show some row = _ from hmay).symm hredeemed.fresh
  · rw [hevent] at hcall
    cases hcall

end

/-- Two calls that give attributes for one nonce do not read it one after the
other. -/
theorem not_gives_of_before (h : Run nonceSystem NoOverlap (nonceSystem.launch s ts) tr cfg)
    {l l' : NonceLabel} (htr : tr = pre ++ l :: post)
    (hmem : l' ∈ pre) {th th' : Thread nonceSig ServiceError NonceTask}
    (hi : cfg.threads[l.thread]? = some th) (hi' : cfg.threads[l'.thread]? = some th')
    (hcall : l.event.call = .findNonce nonce) (hcall' : l'.event.call = .findNonce nonce)
    (hgives : Gives th nonce) (hgives' : Gives th' nonce) : False := by
  obtain ⟨ws, serial, token, -, -, htask, -⟩ := id hgives
  obtain ⟨ws', serial', token', -, -, htask', -⟩ := id hgives'
  obtain ⟨row, past, now, hredeemed⟩ := redeemed_of_gives hgives htask
  obtain ⟨row', past', now', hredeemed'⟩ := redeemed_of_gives hgives' htask'
  have hl : l ∈ tr := htr ▸ by simp
  have hl' : l' ∈ tr := htr ▸ mem_append_left _ hmem
  have hread : ∀ {l : NonceLabel} {th : Thread nonceSig ServiceError NonceTask}
      {ws serial token : String} {row : PlayIntegrityNonce} {past : List NonceEvent} {now : ℕ},
      l ∈ tr → cfg.threads[l.thread]? = some th → l.event.call = .findNonce nonce →
      th.task = .verifyAndDecodeToken ws serial token →
      Redeemed ws serial th.log nonce row past now →
      l.event = ⟨.findNonce nonce, .ok (some row)⟩ ∧ l.task.isFor row := by
    intro l th ws serial token row past now hl hi hcall htask hredeemed
    obtain ⟨th₁, hth₁, htask₁, -⟩ := h.thread_of_label hl
    obtain rfl := Option.some.inj (hi.symm.trans hth₁)
    obtain ⟨rfl, rfl⟩ := hredeemed.isFor
    refine ⟨?_, token, htask₁.symm.trans htask⟩
    rcases event_of_redeemed h hl hi hredeemed (by rw [hcall]; rfl) with hevent | ⟨hevent, -⟩
    · exact hevent
    · rw [hevent] at hcall
      cases hcall
  obtain ⟨hevent, hfor⟩ := hread hl hi hcall htask hredeemed
  obtain ⟨hevent', hfor'⟩ := hread hl' hi' hcall' htask' hredeemed'
  obtain ⟨cfg₁, cfg₂, -, -, hcond, -⟩ := h.step_of_append htr
  obtain ⟨l₂, hl₂, hthread₂, hcall₂⟩ := hcond nonce row hevent hredeemed.fresh hfor l' hmem row'
    hevent' hredeemed'.fresh hfor'
  rcases event_of_redeemed h (htr ▸ mem_append_left _ hl₂) (hthread₂ ▸ hi') hredeemed'
    (by rw [hcall₂]; rfl) with hevent₂ | ⟨hevent₂, hfound₂⟩
  · rw [hevent₂] at hcall₂
    cases hcall₂
  · obtain ⟨before, between, rfl⟩ := append_of_mem hl₂
    have hconsumed := consumed_of_label h
      (htr.trans (append_assoc before (l₂ :: between) (l :: post))) hevent₂ hfound₂
    refine not_gives_of_consumed h htr hcall hi ?_ hgives
    rw [show before ++ l₂ :: between = (before ++ [l₂]) ++ between by simp, nonceStoreAfter_append]
    exact consumed_after _ hconsumed

/-- The label at which a call that gives attributes has read the nonce. -/
theorem read_of_gives (h : Run nonceSystem cond (nonceSystem.launch s ts) tr cfg) {i : ℕ}
    (hi : cfg.threads[i]? = some th) (hgives : Gives th nonce) :
    ∃ pre l post, tr = pre ++ l :: post ∧ l.thread = i ∧ l.event.call = .findNonce nonce := by
  obtain ⟨ws, serial, token, a, r, -, -, hmem⟩ := hgives
  rw [(h.thread_spec hi).1] at hmem
  obtain ⟨l, hl, hthread, hevent⟩ := mem_ownEvents.mp hmem
  obtain ⟨pre, post, htr⟩ := append_of_mem hl
  exact ⟨pre, l, post, htr, hthread, by rw [hevent]⟩

/-- A call that gives attributes has judged the nonce, issued to its device,
within its maximum age. -/
theorem bound_of_gives (h : Run nonceSystem cond (nonceSystem.launch s ts) tr cfg) {i : ℕ}
    (hi : cfg.threads[i]? = some th) (hgives : Gives th nonce)
    {slug serial rawToken : String}
    (htask : th.task = .verifyAndDecodeToken slug serial rawToken) :
    ∃ pre l post issuedAt, tr = pre ++ l :: post ∧ l.thread = i ∧
      IssuedTo s pre nonce slug serial issuedAt ∧
      (nonceStoreAfter s pre).now - issuedAt ≤ NONCE_MAX_AGE_MS := by
  obtain ⟨row, past, now, hredeemed⟩ := redeemed_of_gives hgives htask
  have hown : ownEvents i tr = (past ++ [⟨.findNonce nonce, .ok (some row)⟩]) ++
      ⟨.dateNow, .ok now⟩ :: [⟨.consumeNonce row.id, .ok ()⟩] := by
    rw [← (h.thread_spec hi).1, hredeemed.log]
    simp
  obtain ⟨before, l, after, rfl, hthread, hevent, hpast, -⟩ := exists_of_ownEvents hown
  have hread : ⟨.findNonce nonce, .ok (some row)⟩ ∈ ownEvents i before := hpast ▸ by simp
  obtain ⟨l₀, hl₀, -, hevent₀⟩ := mem_ownEvents.mp hread
  obtain ⟨pre, mid, rfl⟩ := append_of_mem hl₀
  have hmay₀ := nonce_may h (append_assoc pre (l₀ :: mid) (l :: after))
  rw [hevent₀] at hmay₀
  obtain ⟨hrow, hnonce⟩ := NonceTable.find_eq_some (show some row = _ from hmay₀).symm
  have hnow := nonce_may h rfl
  rw [hevent] at hnow
  refine ⟨_, l, after, row.issuedAt, rfl, hthread, ?_, (show now = _ from hnow) ▸ hredeemed.young⟩
  have hissued := issued_of_mem hrow
  rw [hnonce, hredeemed.isFor.1, hredeemed.isFor.2] at hissued
  exact hissued.append _

/-- **Main theorem**: without overlap a nonce is good for one call. -/
theorem single_use (h : Run nonceSystem NoOverlap (nonceSystem.launch s ts) tr cfg) :
    SingleUse s tr cfg where
  once := by
    intro i j th th' nonce hi hj hgives hgives'
    obtain ⟨pre, l, post, htr, rfl, hcall⟩ := read_of_gives h hi hgives
    obtain ⟨pre', l', post', htr', rfl, hcall'⟩ := read_of_gives h hj hgives'
    by_contra hne
    rcases append_eq_append_iff.mp (htr.symm.trans htr') with
      ⟨mid, hpre, hpost⟩ | ⟨mid, hpre, hpost⟩
    · cases mid with
      | nil => exact hne (congrArg _ (List.cons.inj hpost).1)
      | cons x mid =>
        obtain ⟨rfl, -⟩ := List.cons.inj hpost
        exact not_gives_of_before h htr' (hpre ▸ by simp) hj hi hcall' hcall hgives' hgives
    · cases mid with
      | nil => exact hne (congrArg _ (List.cons.inj hpost).1.symm)
      | cons x mid =>
        obtain ⟨rfl, -⟩ := List.cons.inj hpost
        exact not_gives_of_before h htr (hpre ▸ by simp) hi hj hcall hcall' hgives hgives'
  bound := fun i th nonce ws serial token hi hgives htask => bound_of_gives h hi hgives htask
  processed := by
    intro pre l mid l' post nonce th htr hprocessed hcall hi
    have hconsumed := consumed_of_processed h htr hprocessed
    have htr' : tr = (pre ++ l :: mid) ++ l' :: post := by simp [htr]
    refine not_gives_of_consumed h htr' hcall hi ?_
    rw [show pre ++ l :: mid = (pre ++ [l]) ++ mid by simp, nonceStoreAfter_append]
    exact consumed_after _ hconsumed

end Runs

/-! ## One token, reported twice -/

/-- What a genuine token for the nonce `n1` says. -/
def genuinePayload : Value :=
  .obj [("requestDetails", .obj [("nonce", .str "n1")]),
    ("deviceIntegrity", .obj [("deviceRecognitionVerdict", .arr [.str "MEETS_DEVICE_INTEGRITY"])]),
    ("appIntegrity", .obj [("appRecognitionVerdict", .str "PLAY_RECOGNIZED")])]

/-- A configured workspace, in which every token is that one. -/
def NonceStore.answer (s : NonceStore) :
    (c : NonceCall) → Except ServiceError (NonceCall.Answer c)
  | .findConfig _ => .ok (some ⟨true, "project", "key", "public key"⟩)
  | .randomNonce => .ok "n1"
  | .createNonce _ _ nonce =>
    if s.table.Free nonce nonce then .ok nonce else .error (.other "Unique constraint failed")
  | .compactDecrypt .. => .ok "signed"
  | .compactVerify .. => .ok genuinePayload
  | .findNonce nonce => .ok (s.table.find nonce)
  | .dateNow => .ok s.now
  | .consumeNonce _ => .ok ()

theorem nonce_may_answer (s : NonceStore) (c : NonceCall) : s.may c (s.answer c) := by
  cases c with
  | createNonce workspaceSlug serialNumber nonce =>
    show NonceStore.may _ _ (if _ then _ else _)
    split_ifs with hfree
    · exact hfree
    · trivial
  | findNonce nonce => rfl
  | dateNow => rfl
  | _ => trivial

/-- No nonces, and a clock that stands still. -/
def noNonces : NonceStore where
  table := ⟨[], List.nodup_nil, List.nodup_nil⟩
  clock _ := 0

/-- A nonce is asked for, and its token is reported twice. -/
def reportedTwice : Config nonceSig ServiceError NonceStore NonceTask :=
  nonceSystem.launch noNonces [.issueNonce "acme" "SN1",
    .verifyAndDecodeToken "acme" "SN1" "token", .verifyAndDecodeToken "acme" "SN1" "token"]

/-- A check of `NoOverlap`. -/
def noOverlap (tr : List NonceLabel) (_ : NonceStore) (l : NonceLabel) : Bool :=
  match l.event with
  | ⟨.findNonce _, .ok (some _)⟩ => tr.all fun l' =>
    match l'.event with
    | ⟨.findNonce _, .ok (some row')⟩ => tr.any fun l'' =>
      l''.thread = l'.thread && l''.event.call = .consumeNonce row'.id
    | _ => true
  | _ => true

theorem noOverlap_sound (tr : List NonceLabel) (s : NonceStore) (l : NonceLabel)
    (h : noOverlap tr s l = true) : NoOverlap tr s l := by
  intro nonce row hevent _ _ l' hl' row' hevent' _ _
  rw [noOverlap, hevent] at h
  have hl'' := all_eq_true.mp h l' hl'
  rw [hevent'] at hl''
  simpa using hl''

/-- The second report comes after the first one: the run keeps apart what it
must, and the first report gives attributes. -/
theorem single_use_sequential : ∃ tr cfg th,
    Run nonceSystem NoOverlap (nonceSystem.launch noNonces [.issueNonce "acme" "SN1",
      .verifyAndDecodeToken "acme" "SN1" "token",
      .verifyAndDecodeToken "acme" "SN1" "token"]) tr cfg ∧
    cfg.threads[1]? = some th ∧ Gives th "n1" ∧ SingleUse noNonces tr cfg := by
  have hrun := Run.nil.play nonceSystem NonceStore.answer nonce_may_answer _
    (Config.admits_of_admitted nonceSystem NonceStore.answer noOverlap_sound
      (replicate 3 0 ++ replicate 6 1 ++ replicate 4 2) [] reportedTwice
      (by decide +kernel))
  exact ⟨_, _, _, hrun, rfl, ⟨"acme", "SN1", "token", _, _, rfl,
    .head (.head (.head (.head (.head (.head (.refl _)))))), mem_of_getElem? (i := 3) rfl⟩,
    single_use hrun⟩

/-- Both reports read the nonce before either consumes it, and both give
attributes. -/
theorem nonce_used_twice : ¬∀ (s : NonceStore) (ts : List NonceTask) (tr : List NonceLabel)
    (cfg : Config nonceSig ServiceError NonceStore NonceTask),
    Run nonceSystem always (nonceSystem.launch s ts) tr cfg → SingleUse s tr cfg := by
  intro hall
  have hrun := Config.run_play nonceSystem NonceStore.answer nonce_may_answer
    (replicate 3 0 ++ replicate 4 1 ++ replicate 6 2 ++ replicate 2 1)
    reportedTwice
  have htwice := (hall _ _ _ _ hrun).once 1 2 _ _ "n1" rfl rfl
    ⟨"acme", "SN1", "token", _, _, rfl,
      .head (.head (.head (.head (.head (.head (.refl _)))))), mem_of_getElem? (i := 3) rfl⟩
    ⟨"acme", "SN1", "token", _, _, rfl,
      .head (.head (.head (.head (.head (.head (.refl _)))))), mem_of_getElem? (i := 3) rfl⟩
  exact absurd htwice (by decide)

end AppliverySoar.DeviceData
