import AppliverySoar.Workflows.World

/-!
# A pending row is resumed once

The timer path claims a row and deletes it when the resumed chain has run; the
token path deletes it by its token. The `DELETE` does not look at `claimedAt`,
so a script result can take a row whose chain a tick is already running. This
module shows that this is the only way in which a row is resumed twice.

Results:
* `resumed_once`: in a run in which no script result takes a claimed row, every
  row continues its device's chain at most once.
* `resumed_twice`: a run in which a row continues its chain twice.
-/

namespace AppliverySoar.Workflows

open Async Compliance List

variable {E : Evaluator}

/-! ## Statements about a trace -/

/-- A label of the durable engine's system. -/
abbrev EngineLabel (E : Evaluator) : Type := Label (engineSig E) JsError EngineTask

/-- The label at which the row `id` continues its device's chain. -/
def Continues (id : ℕ) (l : EngineLabel E) : Prop :=
  EngineCall.begins l.event.call = true ∧ ∃ row, resumedRow l.task l.past = some row ∧ row.id = id

/-- No row continues its chain at two labels of the trace. -/
def ResumedOnce (tr : List (EngineLabel E)) : Prop :=
  ∀ id pre l₁ mid l₂ post, tr = pre ++ l₁ :: (mid ++ l₂ :: post) →
    Continues id l₁ → Continues id l₂ → False

/-- The rows that an answered call hands to a resume. -/
def takenRows (e : EngineEvent E) : List PendingRow :=
  match e with
  | ⟨.claimDueSteps _, .ok rows⟩ => rows
  | ⟨.deleteByToken _, .ok (some row)⟩ => [row]
  | _ => []

/-- Where the code resumes a row once: the row that a script result's `DELETE`
takes is not claimed by a tick. -/
def ClaimRespected (_ : List (EngineLabel E)) (_ : EngineStore) (l : EngineLabel E) : Prop :=
  ∀ row, deletedRow l.event = some row → row.claimed = false

/-- Row ids are distinct and below the next one, and no two rows have the same
token. -/
structure EngineStore.WellFormed (s : EngineStore) : Prop where
  ids : (s.pending.map (·.id)).Nodup
  below : ∀ r ∈ s.pending, r.id < s.nextId
  tokens : ∀ r ∈ s.pending, ∀ r' ∈ s.pending, ∀ token,
    r.pendingToken = some token → r'.pendingToken = some token → r = r'

/-! ## What a task does on its own -/

/-- Nothing in the log enters a chain. -/
def NoBegin (log : List (EngineEvent E)) : Prop :=
  ∀ e ∈ log, EngineCall.begins e.call = false

/-- No task enters a chain twice. -/
def ResumeCall (log : List (EngineEvent E)) (c : EngineCall) : Prop :=
  c.begins = true → NoBegin log

section Tasks

variable {α : Type}

variable {log : List (EngineEvent E)}

theorem resumeCall_of_inner {c : EngineCall} (h : Inner c) :
    ResumeCall log c := fun hb => by
  rw [h] at hb
  cases hb

theorem meets_of_inner {p : Engine E α} (h : p.Calls Inner) (log : List (EngineEvent E)) :
    p.Meets (World.log _ _) ResumeCall log fun _ log' => NoBegin log → NoBegin log' := by
  have hframe := Prog.Ensures.meets_frame (W := World.log (engineSig E) JsError) NoBegin
    (fun s c r hc _ => propext ?_) h log
  · refine (hframe.mono fun r s' hr => ?_).weaken fun s c hc => resumeCall_of_inner hc
    cases r with
    | ok a => exact fun hlog => hr.1.mpr hlog
    | error e => exact fun hlog => (id hr : NoBegin s' = NoBegin log) ▸ hlog
  · constructor
    · exact fun h e he => h e (mem_append_left _ he)
    · intro h e he
      rcases mem_append.mp he with he | he
      · exact h e he
      · rw [mem_singleton.mp he]
        exact hc

theorem meets_chain (env : ChainEnv) (startStepId : Option String) (entries : List StepLogEntry)
    (hlog : NoBegin log) :
    (runDeviceStepChain env startStepId entries : Engine E _).Meets (World.log _ _)
      ResumeCall log fun _ _ => True := by
  obtain ⟨rest, heq, hrest⟩ := runDeviceStepChain_eq (E := E) env startStepId entries
  rw [heq]
  refine ⟨fun _ => hlog, fun r _ => ?_⟩
  cases r with
  | ok u => exact (meets_of_inner (hrest u) _).mono fun _ _ _ => trivial
  | error e => trivial

theorem meets_recordBlocked (row : PendingData) (entries : List StepLogEntry)
    (log : List (EngineEvent E)) :
    (recordBlocked row entries : Engine E _).Meets (World.log _ _) ResumeCall log
      fun _ _ => True :=
  (meets_of_inner (calls_recordBlocked recordCalls_inner row entries) log).mono
    fun _ _ _ => trivial

/-- `await` of an inner call in front of the rest of a resume. -/
theorem meets_ask_bind {c : EngineCall} (hc : Inner c) {f : c.Answer E → Engine E α}
    (hlog : NoBegin log)
    (hf : ∀ a log', NoBegin log' →
      (f a).Meets (World.log _ _) ResumeCall log' fun _ _ => True) :
    (ask c >>= f).Meets (World.log _ _) ResumeCall log fun _ _ => True := by
  have hask : (ask c : Engine E _).Calls Inner := Prog.calls_call hc
  refine Prog.Meets.bind (R := fun _ log' => NoBegin log') ?_ hf
  refine (meets_of_inner hask log).mono fun r log' h => ?_
  cases r with
  | ok a => exact h hlog
  | error e => trivial

/-- The part of a resume that may run a chain, inside its `try`. -/
theorem meets_try {p : Engine E Unit}
    (h : p.Meets (World.log _ _) ResumeCall log fun _ _ => True) :
    (tryCatch p fun _ => return () : Engine E Unit).Meets (World.log _ _) ResumeCall log
      fun _ _ => True :=
  Prog.Meets.tryCatch (E := fun _ _ => True) (h.mono fun r _ _ => by cases r <;> trivial)
    fun _ _ _ => trivial

theorem meets_resumeOne (row : PendingRow) :
    (resumeOne row : Engine E _).Meets (World.log _ _) ResumeCall [] fun _ _ => True := by
  unfold resumeOne
  refine meets_ask_bind rfl (by simp [NoBegin]) fun bearer log hlog => ?_
  refine meets_ask_bind rfl hlog fun workflow? log hlog => ?_
  refine Prog.Meets.bind (R := fun _ _ => True) ?_ fun _ log _ => ?_
  · refine Prog.Meets.mono (meets_try ?_) fun r _ _ => by cases r <;> trivial
    cases workflow? with
    | none => exact meets_recordBlocked _ _ _
    | some workflow =>
      dsimp only
      by_cases hauth : orElse bearer "" = ""
      · rw [if_pos hauth]
        exact meets_recordBlocked _ _ _
      · rw [if_neg hauth]
        refine Prog.Meets.bind (R := fun _ _ => True) ?_ fun _ _ _ => trivial
        exact (meets_chain _ _ _ hlog).mono fun r _ _ => by cases r <;> trivial
  · have hdel : (ask (.deletePendingStep row.id) : Engine E _).Calls Inner :=
      Prog.calls_call (by rfl)
    exact meets_try ((meets_of_inner hdel log).mono fun _ _ _ => trivial)

theorem meets_resumeByToken (row : PendingRow) (outcomeOk : Bool) (detail : String)
    (hlog : NoBegin log) :
    (resumeByToken row outcomeOk detail : Engine E _).Meets (World.log _ _) ResumeCall log
      fun _ _ => True := by
  unfold resumeByToken
  refine meets_ask_bind rfl hlog fun workflow? log hlog => ?_
  cases workflow? with
  | none => exact meets_recordBlocked _ _ _
  | some workflow =>
    refine meets_ask_bind rfl hlog fun bearer log hlog => ?_
    dsimp only
    by_cases hauth : orElse bearer "" = ""
    · rw [if_pos hauth]
      exact meets_recordBlocked _ _ _
    · rw [if_neg hauth]
      refine meets_try (Prog.Meets.bind (R := fun _ _ => True) ?_ fun _ _ _ => trivial)
      exact (meets_chain _ _ _ hlog).mono fun r _ _ => by cases r <;> trivial

theorem meets_body (task : EngineTask) :
    (task.body E).Meets (World.log _ _) ResumeCall [] fun _ _ => True := by
  have hnil : NoBegin ([] : List (EngineEvent E)) := by simp [NoBegin]
  cases task with
  | chain env =>
    refine Prog.Meets.bind (R := fun _ _ => True) ?_ fun _ _ _ => trivial
    exact (meets_chain env none [] hnil).mono fun r _ _ => by cases r <;> trivial
  | tick limit =>
    exact meets_ask_bind rfl hnil fun _ _ _ => trivial
  | resume row => exact meets_resumeOne row
  | scriptResult token ok detail =>
    show (resumeWorkflowPendingStepByToken token ok detail : Engine E _).Meets _ _ _ _
    unfold resumeWorkflowPendingStepByToken
    split
    · trivial
    · refine meets_ask_bind rfl hnil fun row? log hlog => ?_
      cases row? with
      | none => trivial
      | some row => exact meets_resumeByToken row ok detail hlog

end Tasks

/-! ## What a call does to the pending rows -/

variable {s : EngineStore} {e : EngineEvent E}

/-- The pending rows after a call are rows from before, which may have become
claimed, and at most one new one. -/
theorem mem_pending_next {r : PendingRow}
    (hr : r ∈ (s.next e.call e.answer).pending) :
    (r.id = s.nextId ∧ (s.next e.call e.answer).nextId = s.nextId + 1) ∨
      ∃ r₀ ∈ s.pending, r.id = r₀.id ∧ (r₀.claimed = true → r.claimed = true) := by
  rcases e with ⟨c, e | a⟩
  · rw [next_error] at hr
    exact .inr ⟨r, hr, rfl, id⟩
  · cases c
    case createPendingStep data =>
      rcases mem_append.mp hr with hr | hr
      · exact .inr ⟨r, hr, rfl, id⟩
      · rw [mem_singleton.mp hr]
        exact .inl ⟨rfl, rfl⟩
    case deletePendingStep id' => exact .inr ⟨r, (mem_filter.mp hr).1, rfl, id⟩
    case deleteByToken token => exact .inr ⟨r, (mem_filter.mp hr).1, rfl, id⟩
    case claimDueSteps limit =>
      obtain ⟨r₀, hr₀, rfl⟩ := mem_claimRows.mp hr
      refine .inr ⟨r₀, hr₀, ?_, fun h => ?_⟩
      · split_ifs <;> rfl
      · split_ifs
        · rfl
        · exact h
    all_goals exact .inr ⟨r, hr, rfl, id⟩

theorem nextId_le_next (s : EngineStore) (e : EngineEvent E) :
    s.nextId ≤ (s.next e.call e.answer).nextId := by
  rcases e with ⟨c, e | a⟩
  · rw [next_error]
  · cases c
    case createPendingStep data => exact Nat.le_succ _
    all_goals exact le_rfl

theorem ids_next (h : s.WellFormed) (e : EngineEvent E) :
    ((s.next e.call e.answer).pending.map (·.id)).Nodup := by
  rcases e with ⟨c, e | a⟩
  · rw [next_error]
    exact h.ids
  · cases c
    case createPendingStep data =>
      simp only [EngineStore.next, map_append, map_cons, map_nil]
      refine nodup_append.mpr ⟨h.ids, by simp, ?_⟩
      intro a ha b hb
      obtain ⟨r, hr, rfl⟩ := mem_map.mp ha
      rw [mem_singleton.mp hb]
      exact (h.below r hr).ne
    case deletePendingStep id => exact h.ids.sublist (filter_sublist.map _)
    case deleteByToken token => exact h.ids.sublist (filter_sublist.map _)
    case claimDueSteps limit =>
      show ((claimRows _ s.pending).map (·.id)).Nodup
      rw [map_id_claimRows]
      exact h.ids
    all_goals exact h.ids

theorem tokens_next (h : s.WellFormed)
    (hmay : s.may e.call e.answer) : ∀ r ∈ (s.next e.call e.answer).pending,
      ∀ r' ∈ (s.next e.call e.answer).pending, ∀ token,
        r.pendingToken = some token → r'.pendingToken = some token → r = r' := by
  intro r hr r' hr' token ht ht'
  rcases e with ⟨c, e | a⟩
  · rw [next_error] at hr hr'
    exact h.tokens r hr r' hr' token ht ht'
  · cases c
    case createPendingStep data =>
      -- a new row has a token that no other row has
      rcases mem_append.mp hr with hr | hr <;> rcases mem_append.mp hr' with hr' | hr'
      · exact h.tokens r hr r' hr' token ht ht'
      · rw [mem_singleton.mp hr'] at ht'
        exact absurd ht (hmay token ht' r hr)
      · rw [mem_singleton.mp hr] at ht
        exact absurd ht' (hmay token ht r' hr')
      · rw [mem_singleton.mp hr, mem_singleton.mp hr']
    case deletePendingStep id =>
      exact h.tokens r (mem_filter.mp hr).1 r' (mem_filter.mp hr').1 token ht ht'
    case deleteByToken token' =>
      exact h.tokens r (mem_filter.mp hr).1 r' (mem_filter.mp hr').1 token ht ht'
    case claimDueSteps limit =>
      obtain ⟨r₀, hr₀, rfl⟩ := mem_claimRows.mp hr
      obtain ⟨r₁, hr₁, rfl⟩ := mem_claimRows.mp hr'
      have ht₀ : r₀.pendingToken = some token := by
        rw [← ht]
        split_ifs <;> rfl
      have ht₁ : r₁.pendingToken = some token := by
        rw [← ht']
        split_ifs <;> rfl
      rw [h.tokens r₀ hr₀ r₁ hr₁ token ht₀ ht₁]
    all_goals exact h.tokens r hr r' hr' token ht ht'

theorem EngineStore.WellFormed.next (h : s.WellFormed)
    (hmay : s.may e.call e.answer) : (s.next e.call e.answer).WellFormed := by
  refine ⟨ids_next h e, fun r hr => ?_, tokens_next h hmay⟩
  rcases mem_pending_next hr with ⟨hid, hnext⟩ | ⟨r₀, hr₀, hid, _⟩
  · omega
  · rw [hid]
    exact (h.below r₀ hr₀).trans_le (nextId_le_next s e)

theorem EngineStore.WellFormed.eq_of_id (h : s.WellFormed) {r r' : PendingRow}
    (hr : r ∈ s.pending) (hr' : r' ∈ s.pending) (hid : r.id = r'.id) : r = r' :=
  inj_on_of_nodup_map h.ids hr hr' hid

variable {row : PendingRow}

/-- A row is handed to a resume while it is pending and, where the claims are
respected, unclaimed; afterwards it is claimed or gone. -/
theorem taken_spec (h : s.WellFormed)
    (hmay : s.may e.call e.answer) (hcond : ∀ row, deletedRow e = some row → row.claimed = false)
    (hrow : row ∈ takenRows e) :
    (row ∈ s.pending ∧ row.claimed = false) ∧
      ∀ r ∈ (s.next e.call e.answer).pending, r.id = row.id → r.claimed = true := by
  rcases e with ⟨c, e | a⟩
  · cases c <;> simp [takenRows] at hrow
  · cases c
    case claimDueSteps limit =>
      have hmem : row ∈ a := hrow
      refine ⟨hmay.2.2 row hmem, fun r hr hid => ?_⟩
      obtain ⟨r₀, hr₀, rfl⟩ := mem_claimRows.mp hr
      have hid₀ : r₀.id = row.id := by
        rw [← hid]
        split_ifs <;> rfl
      rw [if_pos (hid₀ ▸ mem_map_of_mem hmem)]
    case deleteByToken token =>
      cases a with
      | none => simp [takenRows] at hrow
      | some row' =>
        obtain rfl : row = row' := by simpa [takenRows] using hrow
        have hfind : s.pending.find? (fun r => r.pendingToken = some token) = some row := hmay.symm
        have hmem := mem_of_find?_eq_some hfind
        refine ⟨⟨hmem, hcond row rfl⟩, fun r hr hid => ?_⟩
        obtain ⟨hr, htoken⟩ := mem_filter.mp hr
        have hfound := find?_some hfind
        rw [h.eq_of_id hr hmem hid] at htoken
        simp at htoken hfound
        exact absurd hfound htoken
    all_goals simp [takenRows] at hrow

/-! ## The threads that resume a row -/

/-- The row that thread `j` resumes. -/
def holder (cfg : Config (engineSig E) JsError EngineStore EngineTask) (j : ℕ) :
    Option PendingRow :=
  cfg.threads[j]?.bind fun th => resumedRow th.task th.log

/-- The row that a step hands to thread `j`, when there were `n` threads: a tick
starts one thread for each row, a script result takes its row itself. -/
def newRow (n : ℕ) (l : EngineLabel E) (j : ℕ) : Option PendingRow :=
  match l.event with
  | ⟨.claimDueSteps _, .ok rows⟩ => if n ≤ j then rows[j - n]? else none
  | ⟨.deleteByToken _, .ok row?⟩ => if j = l.thread then row? else none
  | _ => none

variable {n : ℕ} {l : EngineLabel E}

theorem newRow_mem {j : ℕ} (h : newRow n l j = some row) : row ∈ takenRows l.event := by
  unfold newRow at h
  split at h
  · next rows heq =>
    rw [heq]
    split_ifs at h
    exact mem_of_getElem? h
  · next row? heq =>
    rw [heq]
    split_ifs at h
    subst h
    exact mem_singleton.mpr rfl
  · cases h

theorem newRow_inj (hs : s.WellFormed)
    (hmay : s.may l.event.call l.event.answer) {j k : ℕ} {row row' : PendingRow}
    (hj : newRow n l j = some row) (hk : newRow n l k = some row') (hid : row.id = row'.id) :
    j = k := by
  unfold newRow at hj hk
  split at hj
  · next limit rows heq =>
    rw [heq] at hmay hk
    dsimp only at hk
    split_ifs at hj hk with h1 h2
    obtain ⟨hnodup, _, hrows⟩ := hmay
    have heq' : row = row' := hs.eq_of_id (hrows row (List.mem_of_getElem? hj)).1
      (hrows row' (List.mem_of_getElem? hk)).1 hid
    obtain ⟨hj', hjrow⟩ := List.getElem?_eq_some_iff.mp hj
    obtain ⟨hk', hkrow⟩ := List.getElem?_eq_some_iff.mp hk
    have heqj : rows[j - n] = rows[k - n] := by rw [hjrow, hkrow, heq']
    have hsub := hnodup.getElem_inj_iff.mp heqj
    omega
  · next token row? heq =>
    rw [heq] at hk
    dsimp only at hk
    split_ifs at hj hk with h1 h2
    omega
  · cases hj

variable {task : EngineTask}

theorem resumedRow_snoc {log : List (EngineEvent E)}
    (h : resumedRow task (log ++ [e]) = some row) :
    resumedRow task log = some row ∨ deletedRow e = some row := by
  cases task with
  | resume r => exact .inl h
  | scriptResult token ok detail =>
    simp only [resumedRow, findSome?_append, findSome?_singleton,
      Option.or_eq_some_iff] at h ⊢
    rcases h with h | ⟨_, h⟩
    · exact .inl h
    · exact .inr h
  | chain env => exact .inl h
  | tick limit => exact .inl h

theorem deletedRow_eq_some (h : deletedRow e = some row) :
    ∃ token, e = ⟨.deleteByToken token, .ok (some row)⟩ := by
  unfold deletedRow at h
  split at h
  · next token row? =>
    subst h
    exact ⟨token, rfl⟩
  · cases h

/-- Only a tick starts tasks: the resumes of the rows it has claimed. -/
theorem resumesOf_getElem {t : EngineTask}
    (h : (resumesOf e.call e.answer)[n]? = some t) :
    ∃ limit rows row, e = ⟨.claimDueSteps limit, .ok rows⟩ ∧ rows[n]? = some row ∧
      t = .resume row := by
  obtain ⟨c, a⟩ := e
  rcases a with e | rows
  · cases c <;> simp [resumesOf] at h
  · cases c
    case claimDueSteps limit =>
      obtain ⟨row, hrow, rfl⟩ : ∃ row, rows[n]? = some row ∧ .resume row = t := by
        simpa [resumesOf, getElem?_map, Option.map_eq_some_iff] using h
      exact ⟨limit, rows, row, rfl, hrow, rfl⟩
    all_goals simp [resumesOf] at h

variable {cfg cfg' : Config (engineSig E) JsError EngineStore EngineTask}

/-- A thread resumes the row it resumed before the step, or the one the step
hands to it. -/
theorem holder_step (hstep : Step (engineSystem E) cfg l cfg') {j : ℕ}
    (h : holder cfg' j = some row) :
    holder cfg j = some row ∨ newRow cfg.threads.length l j = some row := by
  obtain ⟨th, hth, hrow⟩ := Option.bind_eq_some_iff.mp h
  rcases hstep.thread_cases hth with ⟨rfl, htask, hlog, k, hk, _⟩ | ⟨_, hk⟩ | ⟨hle, t, ht, rfl⟩
  · rw [htask, hlog] at hrow
    rcases resumedRow_snoc hrow with hrow | hrow
    · refine .inl ?_
      rw [holder, hk]
      exact hrow
    · obtain ⟨token, hevent⟩ := deletedRow_eq_some hrow
      refine .inr ?_
      rw [newRow, hevent]
      exact if_pos rfl
  · exact .inl (Option.bind_eq_some_iff.mpr ⟨th, hk, hrow⟩)
  · obtain ⟨limit, rows, r, hevent, hr, rfl⟩ := resumesOf_getElem ht
    obtain rfl : r = row := by simpa [System.start, resumedRow] using hrow
    refine .inr ?_
    rw [newRow, hevent]
    exact (if_pos hle).trans hr

/-! ## The invariant -/

/-- A row that a thread resumes has an id below the next one and, where it is
still pending, is claimed; no two threads resume one row. -/
structure ResumeInv (cfg : Config (engineSig E) JsError EngineStore EngineTask) : Prop where
  store : cfg.store.WellFormed
  below : ∀ j row, holder cfg j = some row → row.id < cfg.store.nextId
  taken : ∀ j row, holder cfg j = some row →
    ∀ r ∈ cfg.store.pending, r.id = row.id → r.claimed = true
  once : ∀ j k row row', holder cfg j = some row → holder cfg k = some row' →
    row.id = row'.id → j = k

variable {ts : List EngineTask}

theorem holder_launch (hts : ∀ t ∈ ts, t.Entry) (j : ℕ) :
    holder ((engineSystem E).launch s ts) j = none := by
  unfold holder System.launch
  rw [getElem?_map]
  cases ht : ts[j]? with
  | none => rfl
  | some t =>
    have hentry := hts t (mem_of_getElem? ht)
    cases t with
    | resume row => exact hentry.elim
    | chain env => rfl
    | tick limit => rfl
    | scriptResult token ok detail => rfl

theorem resumeInv_launch (hs : s.WellFormed)
    (hts : ∀ t ∈ ts, t.Entry) : ResumeInv ((engineSystem E).launch s ts) := by
  have hnone := holder_launch (E := E) (s := s) hts
  constructor
  · exact hs
  · intro j row h
    rw [hnone j] at h
    cases h
  · intro j row h
    rw [hnone j] at h
    cases h
  · intro j k row row' h
    rw [hnone j] at h
    cases h

theorem ResumeInv.step (hinv : ResumeInv cfg) (hstep : Step (engineSystem E) cfg l cfg')
    (hcond : ∀ row, deletedRow l.event = some row → row.claimed = false) : ResumeInv cfg' := by
  have hmay : cfg.store.may l.event.call l.event.answer := hstep.may
  have hstore : cfg'.store = cfg.store.next l.event.call l.event.answer := hstep.store_eq
  have hnew : ∀ j row, newRow cfg.threads.length l j = some row →
      (row ∈ cfg.store.pending ∧ row.claimed = false) ∧
        ∀ r ∈ cfg'.store.pending, r.id = row.id → r.claimed = true := fun j row h => by
    rw [hstore]
    exact taken_spec hinv.store hmay hcond (newRow_mem h)
  -- a row in the hands of a thread is not handed out again
  have hfresh : ∀ j k row row', holder cfg j = some row →
      newRow cfg.threads.length l k = some row' → row.id = row'.id → False := by
    intro j k row row' hj hk hid
    obtain ⟨⟨hmem, hclaimed⟩, _⟩ := hnew k row' hk
    rw [hinv.taken j row hj row' hmem hid.symm] at hclaimed
    cases hclaimed
  constructor
  · rw [hstore]
    exact hinv.store.next hmay
  · intro j row h
    rw [hstore]
    refine Nat.lt_of_lt_of_le ?_ (nextId_le_next cfg.store l.event)
    rcases holder_step hstep h with h | h
    · exact hinv.below j row h
    · exact hinv.store.below row (hnew j row h).1.1
  · intro j row h r hr hid
    rcases holder_step hstep h with h | h
    · rw [hstore] at hr
      rcases mem_pending_next hr with ⟨hnext, _⟩ | ⟨r₀, hr₀, hid₀, hclaimed⟩
      · have := hinv.below j row h
        omega
      · exact hclaimed (hinv.taken j row h r₀ hr₀ (hid₀.symm.trans hid))
    · exact (hnew j row h).2 r hr hid
  · intro j k row row' hj hk hid
    rcases holder_step hstep hj with hj | hj <;> rcases holder_step hstep hk with hk | hk
    · exact hinv.once j k row row' hj hk hid
    · exact (hfresh j k row row' hj hk hid).elim
    · exact (hfresh k j row' row hk hj hid.symm).elim
    · exact newRow_inj hinv.store hmay hj hk hid

theorem resumeInv_run (hs : s.WellFormed) (hts : ∀ t ∈ ts, t.Entry) {tr : List (EngineLabel E)}
    {cfg : Config (engineSig E) JsError EngineStore EngineTask}
    (h : Run (engineSystem E) ClaimRespected ((engineSystem E).launch s ts) tr cfg) :
    ResumeInv cfg := by
  induction h with
  | nil => exact resumeInv_launch hs hts
  | snoc _ hstep hcond ih => exact ih.step hstep hcond

/-! ## Main results -/

theorem resumedRow_prefix {log log' : List (EngineEvent E)}
    (h : resumedRow task log = some row) (hpre : log <+: log') :
    resumedRow task log' = some row := by
  obtain ⟨rest, rfl⟩ := hpre
  cases task with
  | scriptResult token ok detail =>
    simp only [resumedRow, findSome?_append] at h ⊢
    rw [h, Option.some_or]
  | _ => exact h

/-- **Main theorem**: from any well-formed tables, however the chains,
the ticks, their resumes and the script results interleave and whatever
their calls are answered, a row is resumed once, as long as no script
result takes a row that a tick has claimed. -/
theorem resumed_once (s : EngineStore) (ts : List EngineTask) (tr : List (EngineLabel E))
    (cfg : Config (engineSig E) JsError EngineStore EngineTask) (hs : s.WellFormed)
    (hts : ∀ t ∈ ts, t.Entry)
    (h : Run (engineSystem E) ClaimRespected ((engineSystem E).launch s ts) tr cfg) :
    ResumedOnce tr := by
  rintro id pre l₁ mid l₂ post htr ⟨hb₁, row₁, hrow₁, hid₁⟩ ⟨hb₂, row₂, hrow₂, hid₂⟩
  -- both labels belong to the one thread that resumes the row
  have hholder : ∀ l ∈ tr, ∀ row, resumedRow l.task l.past = some row →
      holder cfg l.thread = some row := by
    intro l hl row hrow
    obtain ⟨th, hth, htask, hlog⟩ := h.thread_of_label hl
    rw [holder, hth, Option.bind_some, htask]
    exact resumedRow_prefix hrow ((prefix_append _ _).trans hlog)
  have hthread : l₁.thread = l₂.thread :=
    (resumeInv_run hs hts h).once _ _ row₁ row₂
      (hholder l₁ (by simp [htr]) row₁ hrow₁) (hholder l₂ (by simp [htr]) row₂ hrow₂)
      (hid₁.trans hid₂.symm)
  -- and a thread enters a chain once
  have hcall : ResumeCall l₂.past l₂.event.call :=
    h.ok_of_meets (fun _ => ResumeCall) meets_body l₂ (by simp [htr])
  have hno := hcall hb₂ l₁.event (h.mem_past htr hthread)
  rw [hb₁] at hno
  cases hno

/-- A device that waits for the result of `s1`. -/
def scriptRow : PendingRow where
  id := 0
  runId := "run1"
  deviceSnapshot := { id := "d1", platform := "windows", platformDeviceId := "p1" }
  workflowId := "w1"
  slugKey := "acme"
  nextStepId := "s2"
  log := []
  resumeAt := 0
  stepKind := .script
  onFailureStepId := some "end"
  pendingToken := some "token1"

/-- A script result and a tick, beside a device that waits for both. -/
def lateResult : Config (engineSig attributeEvaluator) JsError EngineStore EngineTask :=
  (engineSystem attributeEvaluator).launch
    { pending := [scriptRow], results := [], nextId := 1 }
    [.scriptResult (some "token1") true "", .tick 50]

theorem wellFormed_lateResult : lateResult.store.WellFormed :=
  ⟨by decide, by simp [lateResult, System.launch, scriptRow], by simp [lateResult, System.launch]⟩

/-- The script result takes the row before the tick looks: the run respects the
claims, and enters a chain. -/
theorem resumed_once_lateResult : ∃ tr cfg,
    lateResult.store.WellFormed ∧
      Run (engineSystem attributeEvaluator) ClaimRespected lateResult tr cfg ∧
      (∃ l ∈ tr, Continues 0 l) ∧ ResumedOnce tr := by
  have hnone : ∀ e : EngineEvent attributeEvaluator, deletedRow e = none →
      ∀ row, deletedRow e = some row → row.claimed = false := by
    intro e he row hrow
    rw [he] at hrow
    cases hrow
  have hadmits : lateResult.Admits (engineSystem attributeEvaluator) ClaimRespected
      (fun s => s.answer waitForScript) [0, 0, 0, 0, 1] [] := by
    refine And.intro (fun row hrow => ?_) ?_
    · obtain rfl : scriptRow = row := Option.some.inj hrow
      rfl
    · exact And.intro (hnone _ rfl) (And.intro (hnone _ rfl) (And.intro (hnone _ rfl)
        (And.intro (hnone _ rfl) trivial)))
  have hrun := Run.nil.play _ _ (fun s c => may_answer waitForScript s c) _ hadmits
  refine ⟨_, _, wellFormed_lateResult, hrun, ?_,
    resumed_once _ _ _ _ wellFormed_lateResult (by simp [EngineTask.Entry]) hrun⟩
  refine ⟨_, mem_of_getElem? (i := 3) rfl, rfl, scriptRow, rfl, rfl⟩

/-- A tick claims the row and enters its failure branch; the script result, late
by a moment, takes the claimed row and enters its success branch. -/
theorem resumed_twice : ¬∀ (s : EngineStore) (ts : List EngineTask)
    (tr : List (EngineLabel attributeEvaluator))
    (cfg : Config (engineSig attributeEvaluator) JsError EngineStore EngineTask),
    s.WellFormed → (∀ t ∈ ts, t.Entry) →
      Run (engineSystem attributeEvaluator) always
        ((engineSystem attributeEvaluator).launch s ts) tr cfg → ResumedOnce tr := by
  intro hall
  have hrun := Config.run_play (engineSystem attributeEvaluator)
    (fun s => s.answer waitForScript) (fun s c => may_answer waitForScript s c)
    [1, 2, 2, 2, 0, 0, 0, 0] lateResult
  have honce := hall _ _ _ _ wellFormed_lateResult (by simp [EngineTask.Entry]) hrun
  obtain ⟨l₁, h₁, hc₁⟩ : ∃ l, (lateResult.play (engineSystem attributeEvaluator)
      (fun s => s.answer waitForScript) [1, 2, 2, 2, 0, 0, 0, 0]).1[3]? = some l ∧
        Continues 0 l := ⟨_, rfl, rfl, _, rfl, rfl⟩
  obtain ⟨l₂, h₂, hc₂⟩ : ∃ l, (lateResult.play (engineSystem attributeEvaluator)
      (fun s => s.answer waitForScript) [1, 2, 2, 2, 0, 0, 0, 0]).1[7]? = some l ∧
        Continues 0 l := ⟨_, rfl, rfl, _, rfl, rfl⟩
  obtain ⟨pre, mid, post, htr⟩ := append_of_getElem? (by omega) h₁ h₂
  exact honce 0 pre l₁ mid l₂ post htr hc₁ hc₂

end AppliverySoar.Workflows
