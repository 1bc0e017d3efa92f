import AppliverySoar.Async.Logic
import Mathlib.Data.List.Basic

/-!
# Interleaved runs of asynchronous programs

A `System` has one store and any number of threads. Each thread runs the body
of a task, one awaited call at a time; the threads take their calls in any
order, and a call may leave further tasks running beside its caller, as
`void f()` or `Promise.all(rows.map(f))` does. A run carries its trace. Each
label of the trace names the thread, the task and the calls that the thread
had made before, so that what an operation knew when it made a call can be
read off the label.

Results:
* `Run.past_eq`: the past of a label is what the thread did earlier in the
  trace.
* `Run.thread_meets`, `Run.ok_of_meets`: what the program logic shows of every
  task alone holds of every thread and every call of every run.
* `Config.run_play`: a schedule that is played out is a run.
-/

namespace AppliverySoar.Async

open List

variable {S : Sig} {ε σ Task : Type}

/-! ## Threads and steps -/

/-- A store, the program of each task, and the tasks that an answered call
leaves running beside its caller. -/
structure System (S : Sig) (ε σ Task : Type) where
  world : World S ε σ
  body : Task → Prog S ε Unit
  starts : (c : S.Call) → Except ε (S.Ret c) → List Task

/-- A thread: its task, the calls it has made and what is left of it. -/
structure Thread (S : Sig) (ε Task : Type) where
  task : Task
  log : List (Event S ε)
  rest : Prog S ε Unit

/-- The store and the threads, in the order they were started. -/
structure Config (S : Sig) (ε σ Task : Type) where
  store : σ
  threads : List (Thread S ε Task)

/-- One call of one thread. `past` is what that thread did before. -/
structure Label (S : Sig) (ε Task : Type) where
  thread : ℕ
  task : Task
  past : List (Event S ε)
  event : Event S ε

/-- The thread of a task that has just been started. -/
def System.start (sys : System S ε σ Task) (t : Task) : Thread S ε Task :=
  { task := t, log := [], rest := sys.body t }

/-- The tasks `ts` over the store `s`, none of which has made a call. -/
def System.launch (sys : System S ε σ Task) (s : σ) (ts : List Task) : Config S ε σ Task :=
  { store := s, threads := ts.map sys.start }

/-- The configuration after thread `i` got the answer `r` to its call `c`. -/
def System.advance (sys : System S ε σ Task) (cfg : Config S ε σ Task) (i : ℕ) (t : Task)
    (log : List (Event S ε)) (c : S.Call) (k : Except ε (S.Ret c) → Prog S ε Unit)
    (r : Except ε (S.Ret c)) : Config S ε σ Task :=
  { store := sys.world.next cfg.store c r
    threads := cfg.threads.set i { task := t, log := log ++ [⟨c, r⟩], rest := k r } ++
      (sys.starts c r).map sys.start }

/-- Thread `i`, which awaits `c`, gets an answer. -/
inductive Step (sys : System S ε σ Task) :
    Config S ε σ Task → Label S ε Task → Config S ε σ Task → Prop
  | call {cfg : Config S ε σ Task} {i : ℕ} {t : Task} {log : List (Event S ε)} {c : S.Call}
      {k : Except ε (S.Ret c) → Prog S ε Unit} {r : Except ε (S.Ret c)} :
      cfg.threads[i]? = some ⟨t, log, .await c k⟩ → sys.world.may cfg.store c r →
      Step sys cfg ⟨i, t, log, ⟨c, r⟩⟩ (sys.advance cfg i t log c k r)

/-- The runs from `init` in which every step satisfies `cond`, a condition on
the trace so far, the store before the step and the step's label. -/
inductive Run (sys : System S ε σ Task) (cond : List (Label S ε Task) → σ → Label S ε Task → Prop)
    (init : Config S ε σ Task) : List (Label S ε Task) → Config S ε σ Task → Prop
  | nil : Run sys cond init [] init
  | snoc {tr : List (Label S ε Task)} {cfg cfg' : Config S ε σ Task} {l : Label S ε Task} :
      Run sys cond init tr cfg → Step sys cfg l cfg' → cond tr cfg.store l →
      Run sys cond init (tr ++ [l]) cfg'

/-- The condition that excludes nothing. -/
def always (_ : List (Label S ε Task)) (_ : σ) (_ : Label S ε Task) : Prop := True

/-- What thread `i` did in `tr`. -/
def ownEvents (i : ℕ) (tr : List (Label S ε Task)) : List (Event S ε) :=
  (tr.filter fun l => l.thread = i).map Label.event

theorem ownEvents_snoc (i : ℕ) (tr : List (Label S ε Task)) (l : Label S ε Task) :
    ownEvents i (tr ++ [l]) = ownEvents i tr ++ if l.thread = i then [l.event] else [] := by
  by_cases h : l.thread = i <;> simp [ownEvents, h]

variable {tr : List (Label S ε Task)} {e : Event S ε}

/-- What a thread did, cut at one of its events, cuts the trace at the label of
that event. -/
theorem exists_of_ownEvents {i : ℕ} {pre post : List (Event S ε)} (h : ownEvents i tr = pre ++ e :: post) :
    ∃ before l after, tr = before ++ l :: after ∧ l.thread = i ∧ l.event = e ∧
      ownEvents i before = pre ∧ ownEvents i after = post := by
  obtain ⟨ls, rest, hown, hpre, hrest⟩ := map_eq_append_iff.mp h
  obtain ⟨l, ls', rfl, hl, hpost⟩ := map_eq_cons_iff.mp hrest
  obtain ⟨before, tr', rfl, hbefore, htr'⟩ := filter_eq_append_iff.mp hown
  obtain ⟨skipped, after, rfl, hskipped, hthread, hafter⟩ := filter_eq_cons_iff.mp htr'
  refine ⟨before ++ skipped, l, after, by simp, by simpa using hthread, hl, ?_, ?_⟩
  · have hnone : skipped.filter (fun l => l.thread = i) = [] := filter_eq_nil_iff.mpr hskipped
    rw [ownEvents, filter_append, hnone, append_nil, hbefore, hpre]
  · rw [ownEvents, hafter, hpost]

theorem mem_ownEvents {i : ℕ} :
    e ∈ ownEvents i tr ↔ ∃ l ∈ tr, l.thread = i ∧ l.event = e := by
  simp [ownEvents, and_assoc]

/-! ## What every run keeps -/

section Runs

variable {sys : System S ε σ Task} {cond : List (Label S ε Task) → σ → Label S ε Task → Prop}
  {init cfg cfg' : Config S ε σ Task} {tr : List (Label S ε Task)} {l : Label S ε Task}

theorem Run.weaken {cond' : List (Label S ε Task) → σ → Label S ε Task → Prop}
    (h : Run sys cond init tr cfg) (hc : ∀ tr s l, cond tr s l → cond' tr s l) :
    Run sys cond' init tr cfg := by
  induction h with
  | nil => exact .nil
  | snoc _ hstep hcond ih => exact ih.snoc hstep (hc _ _ _ hcond)

theorem Step.store_eq (h : Step sys cfg l cfg') :
    cfg'.store = sys.world.next cfg.store l.event.call l.event.answer := by
  cases h with
  | call _ _ => rfl

theorem Step.may (h : Step sys cfg l cfg') :
    sys.world.may cfg.store l.event.call l.event.answer := by
  cases h with
  | call _ hr => exact hr

theorem Run.store_eq (h : Run sys cond init tr cfg) :
    cfg.store = sys.world.after init.store (tr.map Label.event) := by
  induction h with
  | nil => rfl
  | snoc _ hstep _ ih => rw [hstep.store_eq, ih, map_append, World.after_append]; rfl

variable {pre post : List (Label S ε Task)}

/-- The store after a trace is what its rest leaves of the store on the way. -/
theorem Run.store_of_append {mid : Config S ε σ Task}
    (h : Run sys cond init (pre ++ post) cfg) (hmid : Run sys cond init pre mid) :
    cfg.store = sys.world.after mid.store (post.map Label.event) := by
  rw [h.store_eq, hmid.store_eq, map_append, World.after_append]

variable {th : Thread S ε Task}

section

variable (h : Step sys cfg l cfg')
include h

/-- A thread after a step is the one that stepped, or was there before, or
has just been started. -/
theorem Step.thread_cases {j : ℕ}
    (hj : cfg'.threads[j]? = some th) :
    (j = l.thread ∧ th.task = l.task ∧ th.log = l.past ++ [l.event] ∧
      ∃ k, cfg.threads[j]? = some ⟨l.task, l.past, .await l.event.call k⟩ ∧
        th.rest = k l.event.answer) ∨
    (j ≠ l.thread ∧ cfg.threads[j]? = some th) ∨
    (cfg.threads.length ≤ j ∧ ∃ t,
      (sys.starts l.event.call l.event.answer)[j - cfg.threads.length]? = some t ∧
        th = sys.start t) := by
  cases h with
  | @call i t log c k r hi hr =>
    simp only [System.advance] at hj
    by_cases hlen : j < cfg.threads.length
    · rw [getElem?_append_left (by simpa using hlen)] at hj
      by_cases hij : i = j
      · subst hij
        rw [getElem?_set_self hlen] at hj
        cases hj
        exact .inl ⟨rfl, rfl, rfl, k, hi, rfl⟩
      · rw [getElem?_set_ne hij] at hj
        exact .inr (.inl ⟨fun h => hij h.symm, hj⟩)
    · rw [getElem?_append_right (by simpa using hlen), getElem?_map] at hj
      obtain ⟨t, ht, rfl⟩ := Option.map_eq_some_iff.mp hj
      rw [length_set] at ht
      exact .inr (.inr ⟨by omega, t, ht, rfl⟩)

theorem Step.getElem?_threads : ∃ rest, ∀ j, cfg'.threads[j]? =
    if j = l.thread then some ⟨l.task, l.past ++ [l.event], rest⟩
    else if j < cfg.threads.length then cfg.threads[j]?
    else ((sys.starts l.event.call l.event.answer)[j - cfg.threads.length]?).map sys.start := by
  cases h with
  | @call i t log c k r hi hr =>
    have hlt := (List.getElem?_eq_some_iff.mp hi).1
    refine ⟨k r, fun j => ?_⟩
    simp only [System.advance]
    split_ifs with hj hlen
    · subst hj
      rw [List.getElem?_append_left (by simpa using hlt), List.getElem?_set_self hlt]
    · rw [List.getElem?_append_left (by simpa using hlen), List.getElem?_set_ne (Ne.symm hj)]
    · rw [List.getElem?_append_right (by simpa using hlen), List.getElem?_map, List.length_set]

theorem Step.thread_lt : l.thread < cfg.threads.length := by
  cases h with
  | call hi _ => exact (List.getElem?_eq_some_iff.mp hi).1

theorem Step.length_le : cfg.threads.length ≤ cfg'.threads.length := by
  cases h with
  | call _ _ => simp [System.advance]

theorem Step.thread_before :
    ∃ k, cfg.threads[l.thread]? = some ⟨l.task, l.past, .await l.event.call k⟩ := by
  cases h with
  | @call _ _ _ _ k _ hi _ => exact ⟨k, hi⟩

theorem Step.thread_after :
    ∃ rest, cfg'.threads[l.thread]? = some ⟨l.task, l.past ++ [l.event], rest⟩ := by
  obtain ⟨rest, hthreads⟩ := h.getElem?_threads
  exact ⟨rest, (hthreads l.thread).trans (if_pos rfl)⟩

theorem Step.thread_other {j : ℕ}
    (hj : cfg.threads[j]? = some th) (hne : j ≠ l.thread) : cfg'.threads[j]? = some th := by
  obtain ⟨rest, hthreads⟩ := h.getElem?_threads
  rw [hthreads j, if_neg hne, if_pos (List.getElem?_eq_some_iff.mp hj).1]
  exact hj

theorem Step.thread_started {t : Task}
    (ht : t ∈ sys.starts l.event.call l.event.answer) : sys.start t ∈ cfg'.threads := by
  cases h with
  | call _ _ => exact mem_append_right _ (mem_map_of_mem ht)

end

variable {s : σ} {ts : List Task}

theorem Run.thread_of_mem (h : Run sys cond (sys.launch s ts) tr cfg) :
    ∀ l ∈ tr, l.thread < cfg.threads.length := by
  induction h with
  | nil => simp
  | snoc _ hstep _ ih =>
    intro l hl
    rcases mem_append.mp hl with hl | hl
    · exact Nat.lt_of_lt_of_le (ih l hl) hstep.length_le
    · rw [mem_singleton.mp hl]
      exact Nat.lt_of_lt_of_le hstep.thread_lt hstep.length_le

variable {i : ℕ}

/-- The log of a thread is what it did in the trace, and leads its body to
what is left of it. -/
theorem Run.thread_spec (h : Run sys cond (sys.launch s ts) tr cfg)
    (hi : cfg.threads[i]? = some th) :
    th.log = ownEvents i tr ∧ (sys.body th.task).Steps th.log th.rest := by
  induction h generalizing i th with
  | nil =>
    have hmem : th ∈ ts.map sys.start := mem_of_getElem? hi
    obtain ⟨t, _, rfl⟩ := mem_map.mp hmem
    exact ⟨rfl, .refl _⟩
  | @snoc tr cfg cfg' l hrun hstep hcond ih =>
    rw [ownEvents_snoc]
    rcases hstep.thread_cases hi with ⟨rfl, ht, hlog, k, hk, hrest⟩ | ⟨hne, hk⟩ |
      ⟨hle, t, _, rfl⟩
    · obtain ⟨hown, hsteps⟩ := ih hk
      refine ⟨by simpa [hlog] using hown, ?_⟩
      rw [ht, hlog, hrest]
      exact hsteps.snoc l.event.answer
    · rw [if_neg (fun h => hne h.symm), append_nil]
      exact ih hk
    · have hlt := hstep.thread_lt
      have hnone : ownEvents i tr = [] := by
        have hbelow := hrun.thread_of_mem
        simp only [ownEvents, map_eq_nil_iff, filter_eq_nil_iff, decide_eq_true_eq]
        intro l' hl' heq
        have := hbelow l' hl'
        omega
      rw [hnone, if_neg (by omega)]
      exact ⟨rfl, .refl _⟩

/-- Every label of a run is the label of a step out of a configuration that
the run has reached. -/
theorem Run.step_of_append (h : Run sys cond init tr cfg)
    (htr : tr = pre ++ l :: post) :
    ∃ cfg₁ cfg₂, Run sys cond init pre cfg₁ ∧ Step sys cfg₁ l cfg₂ ∧ cond pre cfg₁.store l ∧
      Run sys cond init (pre ++ [l]) cfg₂ := by
  induction h generalizing post with
  | nil => simp at htr
  | @snoc tr' cfg₁ cfg₂ l' hrun hstep hcond ih =>
    rcases eq_nil_or_concat post with rfl | ⟨post', x, rfl⟩
    · obtain ⟨rfl, hl⟩ := append_inj' htr rfl
      cases hl
      exact ⟨cfg₁, cfg₂, hrun, hstep, hcond, hrun.snoc hstep hcond⟩
    · have htr' : tr' ++ [l'] = (pre ++ l :: post') ++ [x] := by simpa using htr
      obtain ⟨h₁, _⟩ := append_inj' htr' rfl
      exact ih h₁

/-- The past of a label is what its thread did earlier in the trace. -/
theorem Run.past_eq (h : Run sys cond (sys.launch s ts) tr cfg) (htr : tr = pre ++ l :: post) :
    l.past = ownEvents l.thread pre := by
  obtain ⟨cfg₁, cfg₂, hrun, hstep, _, _⟩ := h.step_of_append htr
  obtain ⟨k, hk⟩ := hstep.thread_before
  exact (hrun.thread_spec hk).1

variable {l₁ l₂ : Label S ε Task}

/-- A call that a thread made is in the past of its later calls. -/
theorem Run.mem_past (h : Run sys cond (sys.launch s ts) tr cfg)
    {pre mid post : List (Label S ε Task)} (htr : tr = pre ++ l₁ :: (mid ++ l₂ :: post))
    (hthread : l₁.thread = l₂.thread) : l₁.event ∈ l₂.past := by
  have htr' : tr = (pre ++ l₁ :: mid) ++ l₂ :: post := by simp [htr]
  rw [h.past_eq htr', mem_ownEvents]
  exact ⟨l₁, by simp, hthread, rfl⟩

variable {e : Event S ε} (ok : Task → List (Event S ε) → S.Call → Prop)
  (Q : Task → List (Event S ε) → Prop)

/-- What is in the past of a label stands at a label before it. -/
theorem Run.label_of_past (h : Run sys cond (sys.launch s ts) tr cfg) (htr : tr = pre ++ l :: post)
    (he : e ∈ l.past) : ∃ before l' mid, pre = before ++ l' :: mid ∧ l'.event = e := by
  rw [h.past_eq htr, mem_ownEvents] at he
  obtain ⟨l', hl', -, rfl⟩ := he
  obtain ⟨before, mid, rfl⟩ := append_of_mem hl'
  exact ⟨before, l', mid, rfl, rfl⟩

/-- The thread of a label is still there, with its task, and has what it did up
to that label at the head of its log. -/
theorem Run.thread_of_label (h : Run sys cond (sys.launch s ts) tr cfg) (hl : l ∈ tr) :
    ∃ th, cfg.threads[l.thread]? = some th ∧ th.task = l.task ∧ l.past ++ [l.event] <+: th.log := by
  induction h with
  | nil => simp at hl
  | @snoc tr cfg cfg' l' hrun hstep hcond ih =>
    have hlt : l.thread < cfg'.threads.length := (hrun.snoc hstep hcond).thread_of_mem l hl
    refine ⟨cfg'.threads[l.thread], List.getElem?_eq_getElem hlt, ?_⟩
    have hj := List.getElem?_eq_getElem hlt
    rcases List.mem_append.mp hl with hl | hl
    · obtain ⟨th, hth, htask, hlog⟩ := ih hl
      rcases hstep.thread_cases hj with ⟨heq, ht, hlog', k, hk, _⟩ | ⟨_, hk⟩ | ⟨hle, _⟩
      · rw [heq] at hth
        rw [heq] at hk
        rw [hk] at hth
        cases hth
        exact ⟨ht.trans htask, hlog.trans (by rw [hlog']; exact List.prefix_append _ _)⟩
      · rw [hk] at hth
        cases hth
        exact ⟨htask, hlog⟩
      · have := (List.getElem?_eq_some_iff.mp hth).1
        omega
    · obtain rfl := List.mem_singleton.mp hl
      rcases hstep.thread_cases hj with ⟨_, ht, hlog', _⟩ | ⟨hne, _⟩ | ⟨hle, _⟩
      · exact ⟨ht, by simp [hlog']⟩
      · exact absurd rfl hne
      · have := hstep.thread_lt
        omega

theorem Run.task_of_thread (h : Run sys cond (sys.launch s ts) tr cfg)
    (h₁ : l₁ ∈ tr) (h₂ : l₂ ∈ tr) (hthread : l₁.thread = l₂.thread) : l₁.task = l₂.task := by
  obtain ⟨th₁, hth₁, htask₁, -⟩ := h.thread_of_label h₁
  obtain ⟨th₂, hth₂, htask₂, -⟩ := h.thread_of_label h₂
  rw [hthread, hth₂] at hth₁
  cases hth₁
  exact htask₁.symm.trans htask₂

/-- **Main theorem of the pool**: what the program logic shows of every task
alone, whatever its calls are answered, holds of what is left of every
thread. -/
theorem Run.thread_meets
    (hbody : ∀ t, (sys.body t).Meets (World.log S ε) (ok t) [] fun _ es => Q t es)
    (h : Run sys cond (sys.launch s ts) tr cfg)
    (hi : cfg.threads[i]? = some th) :
    th.rest.Meets (World.log S ε) (ok th.task) th.log fun _ es => Q th.task es := by
  obtain ⟨_, hsteps⟩ := h.thread_spec hi
  have hrest := (hbody th.task).sound hsteps (World.log_accepts [] th.log)
  rwa [World.log_after, nil_append] at hrest

/-- A call of a run is one that its task makes alone, after the same past. -/
theorem Run.ok_of_step
    (hbody : ∀ t, (sys.body t).Meets (World.log S ε) (ok t) [] fun _ es => Q t es)
    (h : Run sys cond (sys.launch s ts) tr cfg) (hstep : Step sys cfg l cfg') :
    ok l.task l.past l.event.call := by
  obtain ⟨k, hk⟩ := hstep.thread_before
  exact (h.thread_meets ok Q hbody hk).1

theorem Run.ok_of_meets
    (hbody : ∀ t, (sys.body t).Meets (World.log S ε) (ok t) [] fun _ _ => True)
    (h : Run sys cond (sys.launch s ts) tr cfg) : ∀ l ∈ tr, ok l.task l.past l.event.call := by
  intro l hl
  obtain ⟨pre, post, htr⟩ := append_of_mem hl
  obtain ⟨cfg₁, cfg₂, hrun, hstep, _, _⟩ := h.step_of_append htr
  exact hrun.ok_of_step ok (fun _ _ => True) hbody hstep

/-- What a thread did is what the world and the condition of the run have let
pass. -/
theorem Run.log_of_cond (P : Task → List (Event S ε) → Event S ε → Prop)
    (hP : ∀ tr s l, cond tr s l → sys.world.may s l.event.call l.event.answer →
      P l.task l.past l.event)
    (h : Run sys cond (sys.launch s ts) tr cfg)
    (hi : cfg.threads[i]? = some th) {pre post : List (Event S ε)}
    (hlog : th.log = pre ++ e :: post) : P th.task pre e := by
  induction h generalizing i th post with
  | nil =>
    have hmem : th ∈ ts.map sys.start := mem_of_getElem? hi
    obtain ⟨t, _, rfl⟩ := mem_map.mp hmem
    simp [System.start] at hlog
  | @snoc tr cfg cfg' l hrun hstep hcond ih =>
    rcases hstep.thread_cases hi with ⟨_, ht, hl, k, hk, _⟩ | ⟨_, hk⟩ | ⟨_, t, _, rfl⟩
    · rw [hl] at hlog
      rcases eq_nil_or_concat post with rfl | ⟨post, x, rfl⟩
      · obtain ⟨hpast, hevent⟩ := append_inj' hlog rfl
        cases hevent
        rw [ht, ← hpast]
        exact hP _ _ _ hcond hstep.may
      · have hlog' : l.past ++ [l.event] = (pre ++ e :: post) ++ [x] := by simpa using hlog
        rw [ht]
        exact ih hk (append_inj' hlog' rfl).1
    · exact ih hk hlog
    · simp [System.start] at hlog

theorem Run.label_of_log (h : Run sys cond (sys.launch s ts) tr cfg)
    (hi : cfg.threads[i]? = some th) {pre post : List (Event S ε)}
    (hlog : th.log = pre ++ e :: post) :
    ∃ before l after, tr = before ++ l :: after ∧ l.task = th.task ∧ l.past = pre ∧ l.event = e := by
  rw [(h.thread_spec hi).1] at hlog
  obtain ⟨before, l, after, rfl, hthread, hevent, hpre, -⟩ := exists_of_ownEvents hlog
  obtain ⟨th', hth', htask, -⟩ := h.thread_of_label (l := l) (by simp)
  rw [hthread, hi] at hth'
  obtain rfl := Option.some.inj hth'
  exact ⟨before, l, after, rfl, htask.symm, (h.past_eq rfl).trans (hthread ▸ hpre), hevent⟩

end Runs

/-! ## Playing a schedule -/

/-- Let the threads named by a schedule take one call each, in that order,
with the answers of `answer`. A thread that has ended is passed over. -/
def Config.play (sys : System S ε σ Task) (answer : σ → (c : S.Call) → Except ε (S.Ret c)) :
    List ℕ → Config S ε σ Task → List (Label S ε Task) × Config S ε σ Task
  | [], cfg => ([], cfg)
  | i :: is, cfg =>
    match cfg.threads[i]? with
    | some ⟨t, log, .await c k⟩ =>
      let r := answer cfg.store c
      let rest := Config.play sys answer is (sys.advance cfg i t log c k r)
      (⟨i, t, log, ⟨c, r⟩⟩ :: rest.1, rest.2)
    | _ => Config.play sys answer is cfg

theorem append_of_getElem? {α : Type} {l : List α} {i j : ℕ} {a b : α} (hij : i < j)
    (hi : l[i]? = some a) (hj : l[j]? = some b) :
    ∃ pre mid post, l = pre ++ a :: (mid ++ b :: post) := by
  obtain ⟨hlt, rfl⟩ := List.getElem?_eq_some_iff.mp hi
  have hb : b ∈ l.drop (i + 1) := by
    refine List.mem_of_getElem? (i := j - (i + 1)) ?_
    rw [List.getElem?_drop, ← hj]
    congr 1
    omega
  obtain ⟨mid, post, hdrop⟩ := List.append_of_mem hb
  refine ⟨l.take i, mid, post, ?_⟩
  rw [← hdrop, ← List.drop_eq_getElem_cons hlt, List.take_append_drop]

/-- `cond` holds of every step that a schedule takes, from the trace `tr` on. -/
def Config.Admits (sys : System S ε σ Task)
    (cond : List (Label S ε Task) → σ → Label S ε Task → Prop)
    (answer : σ → (c : S.Call) → Except ε (S.Ret c)) :
    List ℕ → List (Label S ε Task) → Config S ε σ Task → Prop
  | [], _, _ => True
  | i :: is, tr, cfg =>
    match cfg.threads[i]? with
    | some ⟨t, log, .await c k⟩ =>
      let r := answer cfg.store c
      cond tr cfg.store ⟨i, t, log, ⟨c, r⟩⟩ ∧
        Config.Admits sys cond answer is (tr ++ [⟨i, t, log, ⟨c, r⟩⟩])
          (sys.advance cfg i t log c k r)
    | _ => Config.Admits sys cond answer is tr cfg

/-- `check` passes every step that a schedule takes. -/
def Config.admitted (sys : System S ε σ Task)
    (check : List (Label S ε Task) → σ → Label S ε Task → Bool)
    (answer : σ → (c : S.Call) → Except ε (S.Ret c)) :
    List ℕ → List (Label S ε Task) → Config S ε σ Task → Bool
  | [], _, _ => true
  | i :: is, tr, cfg =>
    match cfg.threads[i]? with
    | some ⟨t, log, .await c k⟩ =>
      let r := answer cfg.store c
      check tr cfg.store ⟨i, t, log, ⟨c, r⟩⟩ &&
        Config.admitted sys check answer is (tr ++ [⟨i, t, log, ⟨c, r⟩⟩])
          (sys.advance cfg i t log c k r)
    | _ => Config.admitted sys check answer is tr cfg

section Play

variable (sys : System S ε σ Task) {cond : List (Label S ε Task) → σ → Label S ε Task → Prop}
  (answer : σ → (c : S.Call) → Except ε (S.Ret c))

theorem Config.admits_always (is : List ℕ) (tr : List (Label S ε Task))
    (cfg : Config S ε σ Task) : cfg.Admits sys always answer is tr := by
  induction is generalizing tr cfg with
  | nil => trivial
  | cons i is ih =>
    unfold Config.Admits
    split
    · exact ⟨trivial, ih _ _⟩
    · exact ih _ _

/-- A schedule that a sound check passes satisfies the condition. -/
theorem Config.admits_of_admitted {check : List (Label S ε Task) → σ → Label S ε Task → Bool}
    (hcheck : ∀ tr s l, check tr s l = true → cond tr s l) (is : List ℕ)
    (tr : List (Label S ε Task)) (cfg : Config S ε σ Task)
    (h : cfg.admitted sys check answer is tr = true) : cfg.Admits sys cond answer is tr := by
  induction is generalizing tr cfg with
  | nil => trivial
  | cons i is ih =>
    unfold Config.admitted at h
    unfold Config.Admits
    split at h
    · rw [Bool.and_eq_true] at h
      exact ⟨hcheck _ _ _ h.1, ih _ _ h.2⟩
    · exact ih _ _ h

/-- A schedule that is played out with possible answers continues a run. -/
theorem Run.play (hans : ∀ s c, sys.world.may s c (answer s c)) {init cfg : Config S ε σ Task}
    {tr : List (Label S ε Task)} (h : Run sys cond init tr cfg) (is : List ℕ)
    (hcond : cfg.Admits sys cond answer is tr) :
    Run sys cond init (tr ++ (cfg.play sys answer is).1) (cfg.play sys answer is).2 := by
  induction is generalizing tr cfg with
  | nil => simpa [Config.play] using h
  | cons i is ih =>
    unfold Config.Admits at hcond
    unfold Config.play
    split at hcond
    · next t log c k hi =>
      have hstep : Step sys cfg _ _ := Step.call hi (hans cfg.store c)
      have hrest := ih (h.snoc hstep hcond.1) hcond.2
      rw [append_assoc] at hrest
      exact hrest
    · exact ih h hcond

/-- A schedule that is played out with possible answers is a run. -/
theorem Config.run_play (hans : ∀ s c, sys.world.may s c (answer s c)) (is : List ℕ)
    (cfg : Config S ε σ Task) :
    Run sys always cfg (cfg.play sys answer is).1 (cfg.play sys answer is).2 :=
  Run.nil.play sys answer hans is (Config.admits_always sys answer is [] cfg)

end Play

end AppliverySoar.Async
