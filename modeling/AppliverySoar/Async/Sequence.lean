import AppliverySoar.Async.Logic

/-!
# Tasks one after the other

A sequential run of a system: each task runs to its end before the next one
begins, and between two tasks something outside the system may change the
state. What a task left is read off its turn: the state in which it began, its
calls and their answers, and its result.

Results:
* `Sequence.legal`: every turn is a run of its task from the state in which it
  began.
* `Sequence.invariant`: what every turn and every outside change keeps holds in
  every state that is reached.
* `Turn.Legal.post_recorded`: what a task does to the state and what it exchanges
  is read off its program.
-/

namespace AppliverySoar.Async

open List

variable {S : Sig} {ε σ Task : Type}

/-- A task that was run to its end. -/
structure Turn (S : Sig) (ε σ Task : Type) where
  task : Task
  before : σ
  events : List (Event S ε)
  result : Except ε Unit

/-- The state that a turn leaves. -/
def Turn.after (W : World S ε σ) (t : Turn S ε σ Task) : σ :=
  W.after t.before t.events

/-- A turn is a complete run of its task. -/
structure Turn.Legal (W : World S ε σ) (body : Task → Prog S ε Unit) (t : Turn S ε σ Task) :
    Prop where
  steps : Prog.Steps (body t.task) t.events (.ret t.result)
  accepted : W.Accepts t.before t.events

/-- The runs from `init`: turns, and changes from outside between them. -/
inductive Sequence (W : World S ε σ) (body : Task → Prog S ε Unit) (outside : σ → σ → Prop)
    (init : σ) : List (Turn S ε σ Task) → σ → Prop
  | start : Sequence W body outside init [] init
  | turn {ts : List (Turn S ε σ Task)} {t : Turn S ε σ Task} :
      Sequence W body outside init ts t.before → t.Legal W body →
      Sequence W body outside init (ts ++ [t]) (t.after W)
  | outside {ts : List (Turn S ε σ Task)} {s s' : σ} :
      Sequence W body outside init ts s → outside s s' →
      Sequence W body outside init ts s'

variable {W : World S ε σ} {body : Task → Prog S ε Unit} {outside : σ → σ → Prop} {init s : σ}
  {ts : List (Turn S ε σ Task)} {t : Turn S ε σ Task}

theorem Sequence.legal (h : Sequence W body outside init ts s) (ht : t ∈ ts) : t.Legal W body := by
  induction h with
  | start => cases ht
  | turn _ hlegal ih =>
    rcases mem_append.mp ht with ht | ht
    · exact ih ht
    · exact mem_singleton.mp ht ▸ hlegal
  | outside _ _ ih => exact ih ht

/-- **Invariant rule**: an invariant holds when the run ends and when each turn
begins. -/
theorem Sequence.invariant {I : σ → Prop} (h : Sequence W body outside init ts s) (hinit : I init)
    (hturn : ∀ t ∈ ts, t.Legal W body → I t.before → I (t.after W))
    (hout : ∀ s s', outside s s' → I s → I s') : I s ∧ ∀ t ∈ ts, I t.before := by
  induction h with
  | start => exact ⟨hinit, by simp⟩
  | @turn ts t _ hlegal ih =>
    obtain ⟨hbefore, hall⟩ := ih fun t' ht' => hturn t' (mem_append_left _ ht')
    refine ⟨hturn t (by simp) hlegal hbefore, fun t' ht' => ?_⟩
    rcases mem_append.mp ht' with ht' | ht'
    · exact hall t' ht'
    · exact mem_singleton.mp ht' ▸ hbefore
  | outside _ hstep ih =>
    obtain ⟨hbefore, hall⟩ := ih hturn
    exact ⟨hout _ _ hstep hbefore, hall⟩

/-- What the program logic shows of a task alone holds of its turns. -/
theorem Turn.Legal.post {ok : List (Event S ε) → S.Call → Prop}
    {Q : Except ε Unit → List (Event S ε) → Prop} (h : t.Legal W body)
    (hmeets : (body t.task).Meets (World.log S ε) ok [] Q) : Q t.result t.events := by
  have hpost := hmeets.post_of_steps h.steps (World.log_accepts _ _)
  rwa [World.log_after, nil_append] at hpost

/-- The world that also remembers what was exchanged. -/
def World.recorded (W : World S ε σ) : World S ε (σ × List (Event S ε)) where
  may s c r := W.may s.1 c r
  next s c r := (W.next s.1 c r, s.2 ++ [⟨c, r⟩])

theorem World.after_recorded (W : World S ε σ) (s : σ) (es fs : List (Event S ε)) :
    W.recorded.after (s, es) fs = (W.after s fs, es ++ fs) := by
  induction fs generalizing s es with
  | nil => simp
  | cons e fs ih =>
    rw [after_cons, after_cons, World.recorded]
    exact (ih _ _).trans (by simp)

theorem World.accepts_recorded {W : World S ε σ} {s : σ} {es fs : List (Event S ε)}
    (h : W.Accepts s fs) : W.recorded.Accepts (s, es) fs := by
  induction fs generalizing s es with
  | nil => trivial
  | cons e fs ih => exact ⟨h.1, ih h.2⟩

/-- What the program logic shows of a task and of its exchange holds of its
turns. -/
theorem Turn.Legal.post_recorded {ok : σ × List (Event S ε) → S.Call → Prop}
    {Q : Except ε Unit → σ × List (Event S ε) → Prop} (h : t.Legal W body)
    (hmeets : (body t.task).Meets W.recorded ok (t.before, []) Q) :
    Q t.result (t.after W, t.events) := by
  have hpost := hmeets.post_of_steps h.steps (World.accepts_recorded h.accepted)
  rwa [World.after_recorded, nil_append] at hpost

/-! ## Sequences with given answers -/

/-- A task from `s` on, its calls answered by `answer`. -/
def Turn.play (W : World S ε σ) (body : Task → Prog S ε Unit)
    (answer : σ → (c : S.Call) → Except ε (S.Ret c)) (s : σ) (task : Task) : Turn S ε σ Task where
  task := task
  before := s
  events := ((body task).execute W answer s).1
  result := ((body task).execute W answer s).2

/-- The turns of `tasks` after `acc`, and the state that they leave. -/
def Turn.playAll (W : World S ε σ) (body : Task → Prog S ε Unit)
    (answer : σ → (c : S.Call) → Except ε (S.Ret c)) (tasks : List Task)
    (acc : List (Turn S ε σ Task) × σ) : List (Turn S ε σ Task) × σ :=
  tasks.foldl (fun acc task => (acc.1 ++ [Turn.play W body answer acc.2 task],
    (Turn.play W body answer acc.2 task).after W)) acc

variable {answer : σ → (c : S.Call) → Except ε (S.Ret c)}

theorem Turn.legal_play (hanswer : ∀ s c, W.may s c (answer s c)) (s : σ) (task : Task) :
    (Turn.play W body answer s task).Legal W body :=
  ⟨Prog.steps_execute _ _, Prog.accepts_execute hanswer _ _⟩

theorem Sequence.playAll (hanswer : ∀ s c, W.may s c (answer s c)) (tasks : List Task)
    {acc : List (Turn S ε σ Task) × σ} (h : Sequence W body outside init acc.1 acc.2) :
    Sequence W body outside init (Turn.playAll W body answer tasks acc).1
      (Turn.playAll W body answer tasks acc).2 := by
  induction tasks generalizing acc with
  | nil => exact h
  | cons task tasks ih => exact ih (h.turn (Turn.legal_play hanswer acc.2 task))

end AppliverySoar.Async
