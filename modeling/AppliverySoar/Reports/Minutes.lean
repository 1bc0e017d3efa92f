import AppliverySoar.Reports.Scheduler
import Mathlib.Data.List.Nodup

/-!
# Which minutes a scheduled report is generated for

A tick has no memory of the ticks before it: a report is generated when some tick
happens to read the clock in a minute that its schedule selects, and as often as
that happens.

Results:
* `generatedFor_eq`: in every run, a report has been generated for a minute once
  for each tick that read the clock in it, if the schedule matches the minute as it
  is written and the tick gets as far as the report.
* `generated_once_iff`: when that is exactly once.
* `second_report_missed`: a minute that is missed because an earlier report took
  long.
-/

namespace AppliverySoar.Reports

open Js Workflows List Option

variable {d : Deployment} {start t now i j : ℕ} {rep : ScheduledReport} {c : Civil}
variable {r r' : Runner} {stage : Stage} {ahead : Ahead} {l : List (Option ScheduledReport)}

/-! ## Statements -/

/-- The report is enabled and has a workspace. -/
def ScheduledReport.Runs (rep : ScheduledReport) : Prop :=
  rep.schedule.enabled = true ∧ rep.workspaceSlug ≠ ""

instance (rep : ScheduledReport) : Decidable rep.Runs :=
  inferInstanceAs (Decidable (_ ∧ _))

/-- The report is the `i`th of the list, enabled, and its workspace has a credential. -/
structure Deployment.Schedules (d : Deployment) (i : ℕ) (rep : ScheduledReport) : Prop where
  listed : d.scheduledReports[i]? = some (some rep)
  runs : rep.Runs
  bearer : ∃ token, d.credential rep.workspaceSlug = .bearer token

/-- No enabled report before the `i`th has a workspace whose credential cannot be
decrypted. -/
def Deployment.Unbroken (d : Deployment) (i : ℕ) : Prop :=
  ∀ j < i, ∀ rep, d.scheduledReports[j]? = some (some rep) → rep.Runs →
    d.credential rep.workspaceSlug ≠ .broken

/-- The schedule selects the minute. -/
structure Schedule.Selects (schedule : Schedule) (c : Civil) : Prop where
  started : ¬c.dateStr < orElse schedule.startDate "2000-01-01"
  time : schedule.time = twoDigits c.hour ++ ":" ++ twoDigits c.minute
  weekly : schedule.frequency = .weekly → c.weekday = 0
  monthly : schedule.frequency = .monthly → c.dayOfMonth = 1

/-- Whether an effect is a generation of the `i`th report for the minute. -/
def Effect.generates (d : Deployment) (i : ℕ) (rep : ScheduledReport) (c : Civil) : Effect → Bool
  | .generateReportPdf index now _ _ =>
    index == i && d.calendar.minuteOf rep.schedule now == some c
  | _ => false

/-- Whether an effect is a tick's reading of the clock in the minute. -/
def Effect.readsClock (d : Deployment) (rep : ScheduledReport) (c : Civil) : Effect → Bool
  | .newDate now => d.calendar.minuteOf rep.schedule now == some c
  | _ => false

/-- How often the report has been generated for the minute. -/
def Runner.generatedFor (r : Runner) (d : Deployment) (i : ℕ) (rep : ScheduledReport) (c : Civil) :
    ℕ :=
  r.effects.countP (Effect.generates d i rep c)

/-- How many ticks have found the slot free and read the clock in the minute. -/
def Runner.ticksIn (r : Runner) (d : Deployment) (rep : ScheduledReport) (c : Civil) : ℕ :=
  r.effects.countP (Effect.readsClock d rep c)

/-- The `now` of the tick at work. -/
def Stage.now? : Stage → Option ℕ
  | .credential now .. => some now
  | .generating now .. => some now
  | _ => none

/-- No tick that has read the clock in the minute is still at work. -/
def Runner.Settled (r : Runner) (d : Deployment) (rep : ScheduledReport) (c : Civil) : Prop :=
  ∀ now, r.stage.now? = some now → d.calendar.minuteOf rep.schedule now ≠ some c

/-! ## What a tick still has before it -/

/-- How often a tick that is at `ahead` will generate the `i`th report for the
minute. -/
def due (d : Deployment) (i : ℕ) (rep : ScheduledReport) (c : Civil) (now : ℕ) : Ahead → ℕ
  | [] => 0
  | (none, _) :: ahead => due d i rep c now ahead
  | (some rep', index) :: ahead =>
    if rep'.Runs then
      match d.credential rep'.workspaceSlug with
      | .missing => due d i rep c now ahead
      | .broken => 0
      | .bearer _ =>
        match d.calendar.minuteOf rep'.schedule now with
        | none => 0
        | some c' =>
          (if rep'.schedule.isDue (d.calendar.parts c') && index == i &&
            d.calendar.minuteOf rep.schedule now == some c then 1 else 0) + due d i rep c now ahead
    else due d i rep c now ahead

/-- The same for where the tick awaits. -/
def Stage.due (d : Deployment) (i : ℕ) (rep : ScheduledReport) (c : Civil) : Stage → ℕ
  | .credential now index rep' ahead => Reports.due d i rep c now ((some rep', index) :: ahead)
  | .generating now _ ahead => Reports.due d i rep c now ahead
  | _ => 0

theorem minuteOf_ne_none (cal : Calendar) (schedule : Schedule) (now : ℕ) :
    ∃ c, cal.minuteOf schedule now = some c := by
  obtain ⟨c, hc⟩ := isSome_iff_exists.mp (cal.civil_utc now)
  unfold Calendar.minuteOf
  rw [hc]
  cases cal.civil (orElse schedule.timezone "UTC") now with
  | none => exact ⟨c, rfl⟩
  | some c' => exact ⟨c', rfl⟩

theorem due_walk : (walk now ahead).due d i rep c = due d i rep c now ahead := by
  induction ahead with
  | nil => rfl
  | cons entry ahead ih =>
    obtain ⟨raw, index⟩ := entry
    cases raw with
    | none => exact ih
    | some rep' =>
      rw [walk, due]
      by_cases hruns : rep'.Runs
      · have hcond : (rep'.schedule.enabled && rep'.workspaceSlug != "") = true := by
          simpa [ScheduledReport.Runs] using hruns
        rw [if_pos hcond, if_pos hruns, Stage.due, due, if_pos hruns]
      · have hcond : ¬(rep'.schedule.enabled && rep'.workspaceSlug != "") = true := by
          simpa [ScheduledReport.Runs] using hruns
        rw [if_neg hcond, if_neg hruns, ih]

/-- When the credential has come, the report is generated or will not be. -/
theorem due_afterCredential {index : ℕ} {rep' : ScheduledReport} (hruns : rep'.Runs) :
    (afterCredential d now index rep' ahead).1.due d i rep c +
        (afterCredential d now index rep' ahead).2.countP (Effect.generates d i rep c) =
      due d i rep c now ((some rep', index) :: ahead) := by
  rw [due, if_pos hruns, afterCredential]
  cases d.credential rep'.workspaceSlug with
  | missing => exact due_walk
  | broken => rfl
  | bearer token =>
    obtain ⟨c', hc'⟩ := minuteOf_ne_none d.calendar rep'.schedule now
    rw [hc']
    dsimp only
    have hchat : (chatEffects (d.payload rep')).countP (Effect.generates d i rep c) = 0 := by
      unfold chatEffects
      cases truthy (d.payload rep').webhookUrl <;> rfl
    by_cases hdue : rep'.schedule.isDue (d.calendar.parts c') = true
    · rw [if_pos hdue, hdue, Bool.true_and, countP_append, hchat, Nat.zero_add,
        countP_singleton, Nat.add_comm]
      rfl
    · rw [if_neg hdue, Bool.eq_false_iff.mpr hdue, Bool.false_and, Bool.false_and]
      simpa using due_walk

/-- No enabled report of `l` in front of place `k` has a workspace whose credential
cannot be decrypted. -/
def Deployment.UnbrokenIn (d : Deployment) (l : List (Option ScheduledReport)) (k : ℕ) : Prop :=
  ∀ j < k, ∀ rep, l[j]? = some (some rep) → rep.Runs → d.credential rep.workspaceSlug ≠ .broken

theorem unbrokenIn_cons {raw : Option ScheduledReport} {k : ℕ} :
    d.UnbrokenIn (raw :: l) (k + 1) ↔
      (∀ rep, raw = some rep → rep.Runs → d.credential rep.workspaceSlug ≠ .broken) ∧
        d.UnbrokenIn l k := by
  constructor
  · intro h
    exact ⟨fun rep hraw => h 0 (Nat.succ_pos k) rep (by rw [hraw]; rfl),
      fun j hj rep hrep => h (j + 1) (Nat.succ_lt_succ hj) rep hrep⟩
  · rintro ⟨hraw, hl⟩ j hj rep hrep
    cases j with
    | zero => exact hraw rep (some.inj hrep)
    | succ j => exact hl j (Nat.lt_of_succ_lt_succ hj) rep hrep

theorem due_of_fresh (h : ∀ entry ∈ ahead, entry.2 ≠ i) : due d i rep c now ahead = 0 := by
  induction ahead with
  | nil => rfl
  | cons entry ahead ih =>
    obtain ⟨raw, index⟩ := entry
    have hindex : (index == i) = false := by simpa using h _ mem_cons_self
    have ih := ih fun e he => h e (mem_cons_of_mem _ he)
    cases raw with
    | none => exact ih
    | some rep' =>
      rw [due]
      split
      · cases d.credential rep'.workspaceSlug with
        | missing => exact ih
        | broken => rfl
        | bearer token =>
          obtain ⟨c', hc'⟩ := minuteOf_ne_none d.calendar rep'.schedule now
          rw [hc']
          dsimp only
          rw [hindex, Bool.and_false, Bool.false_and, ih]
          rfl
      · exact ih

open Classical in
/-- A tick at the head of the list has its report before it exactly when nothing
broken is in between. -/
theorem due_zipIdx {n k : ℕ}
    (hlisted : l[k]? = some (some rep)) (hruns : rep.Runs)
    (hbearer : ∃ token, d.credential rep.workspaceSlug = .bearer token) :
    due d (n + k) rep c now (l.zipIdx n) =
      if d.calendar.minuteOf rep.schedule now = some c ∧
        rep.schedule.isDue (d.calendar.parts c) = true ∧ d.UnbrokenIn l k then 1 else 0 := by
  induction l generalizing n k with
  | nil => exact absurd hlisted (by simp)
  | cons raw l ih =>
    rw [zipIdx_cons]
    cases k with
    | zero =>
      obtain rfl : raw = some rep := some.inj hlisted
      obtain ⟨token, htoken⟩ := hbearer
      have hunbroken : d.UnbrokenIn (some rep :: l) 0 := fun j hj => absurd hj (Nat.not_lt_zero j)
      have hrest : due d (n + 0) rep c now (l.zipIdx (n + 1)) = 0 := by
        refine due_of_fresh fun entry hentry => ?_
        have := le_snd_of_mem_zipIdx hentry
        omega
      obtain ⟨c', hc'⟩ := minuteOf_ne_none d.calendar rep.schedule now
      rw [due, if_pos hruns, htoken]
      dsimp only
      rw [hrest, hc']
      by_cases hcc : c' = c
      · subst hcc
        simp [hunbroken]
      · have hne : (some c' == some c) = false := by simpa using hcc
        simp [hcc]
    | succ k =>
      have ih := ih (n := n + 1) hlisted
      rw [show n + 1 + k = n + (k + 1) by omega] at ih
      rw [unbrokenIn_cons]
      cases raw with
      | none =>
        rw [due, ih]
        simp
      | some rep' =>
        rw [due]
        by_cases hruns' : rep'.Runs
        · rw [if_pos hruns']
          cases hcred : d.credential rep'.workspaceSlug with
          | missing =>
            dsimp only
            rw [ih]
            simp [hcred]
          | broken => simp [hruns', hcred]
          | bearer token =>
            obtain ⟨c', hc'⟩ := minuteOf_ne_none d.calendar rep'.schedule now
            dsimp only
            rw [hc']
            dsimp only
            have hindex : (n == n + (k + 1)) = false := by simp
            rw [hindex, Bool.and_false, Bool.false_and, ih]
            simp [hcred]
        · rw [if_neg hruns', ih]
          simp [hruns']

/-- A tick that has read the clock in another minute has nothing before it. -/
theorem due_of_minute (h : d.calendar.minuteOf rep.schedule now ≠ some c) :
    due d i rep c now ahead = 0 := by
  induction ahead with
  | nil => rfl
  | cons entry ahead ih =>
    obtain ⟨raw, index⟩ := entry
    have hminute : (d.calendar.minuteOf rep.schedule now == some c) = false := by simpa using h
    cases raw with
    | none => exact ih
    | some rep' =>
      rw [due]
      split
      · cases d.credential rep'.workspaceSlug with
        | missing => exact ih
        | broken => rfl
        | bearer token =>
          obtain ⟨c', hc'⟩ := minuteOf_ne_none d.calendar rep'.schedule now
          rw [hc']
          dsimp only
          rw [hminute, Bool.and_false, ih]
          rfl
      · exact ih

theorem due_of_settled (h : r.Settled d rep c) : r.stage.due d i rep c = 0 := by
  unfold Runner.Settled at h
  cases hstage : r.stage with
  | credential now index rep' ahead =>
    rw [hstage] at h
    exact due_of_minute (h now rfl)
  | generating now payload ahead =>
    rw [hstage] at h
    exact due_of_minute (h now rfl)
  | _ => rfl

/-! ## Runs -/

/-- A tick awaits the credential of a report that is enabled and has a workspace. -/
def Stage.Runs : Stage → Prop
  | .credential _ _ rep _ => rep.Runs
  | _ => True

theorem runs_walk : (walk now ahead).Runs := by
  induction ahead with
  | nil => trivial
  | cons entry ahead ih =>
    obtain ⟨raw, index⟩ := entry
    cases raw with
    | none => exact ih
    | some rep' =>
      rw [walk]
      split
      · rename_i h
        simpa [Stage.Runs, ScheduledReport.Runs] using h
      · exact ih

theorem runs_acquire (h : stage.Runs) : (acquire stage).Runs := by
  cases stage <;> exact h

theorem due_acquire : (acquire stage).due d i rep c = stage.due d i rep c := by
  cases stage <;> rfl

open Classical in
/-- What has been generated and what is still ahead, against the ticks that read the
clock in the minute. -/
structure Accounted (d : Deployment) (i : ℕ) (rep : ScheduledReport) (c : Civil) (r : Runner) :
    Prop where
  runs : r.stage.Runs
  generated : r.generatedFor d i rep c + r.stage.due d i rep c =
    if rep.schedule.isDue (d.calendar.parts c) = true ∧ d.Unbroken i then r.ticksIn d rep c else 0

theorem effects_chat (payload : ReportPayload) :
    (chatEffects payload).countP (Effect.readsClock d rep c) = 0 := by
  unfold chatEffects
  cases truthy payload.webhookUrl <;> rfl

theorem effects_email (payload : ReportPayload) :
    (emailEffects payload).countP (Effect.readsClock d rep c) = 0 ∧
      (emailEffects payload).countP (Effect.generates d i rep c) = 0 := by
  unfold emailEffects
  split
  · exact ⟨rfl, rfl⟩
  · exact ⟨rfl, rfl⟩

theorem afterCredential_runs {index : ℕ} {rep' : ScheduledReport} :
    (afterCredential d now index rep' ahead).1.Runs ∧
      (afterCredential d now index rep' ahead).2.countP (Effect.readsClock d rep c) = 0 := by
  unfold afterCredential
  cases d.credential rep'.workspaceSlug with
  | missing => exact ⟨runs_walk, rfl⟩
  | broken => exact ⟨trivial, rfl⟩
  | bearer token =>
    dsimp only
    split
    · exact ⟨trivial, rfl⟩
    · split
      · refine ⟨trivial, ?_⟩
        rw [countP_append, effects_chat]
        rfl
      · exact ⟨runs_walk, rfl⟩

theorem accounted_resume (hschedules : d.Schedules i rep) (h : Accounted d i rep c r)
    (ok : Bool) : Accounted d i rep c { r with
      clock := t
      stage := (resume d t ok r.stage).1
      effects := r.effects ++ (resume d t ok r.stage).2 } := by
  obtain ⟨hruns, hgenerated⟩ := h
  unfold Runner.generatedFor Runner.ticksIn at hgenerated
  cases hstage : r.stage with
  | idle =>
    refine ⟨trivial, ?_⟩
    simpa [hstage, resume, Runner.generatedFor, Runner.ticksIn] using hgenerated
  | heartbeat =>
    refine ⟨trivial, ?_⟩
    simpa [hstage, resume, Runner.generatedFor, Runner.ticksIn, Stage.due] using hgenerated
  | reading =>
    rw [hstage] at hgenerated
    have hempty : d.scheduledReports.isEmpty = false := by
      cases hlist : d.scheduledReports with
      | nil =>
        have := hschedules.listed
        rw [hlist] at this
        exact absurd this (by simp)
      | cons _ _ => rfl
    have hresume : resume d t ok .reading = (walk t d.scheduledReports.zipIdx, [.newDate t]) := by
      rw [resume, hempty]
      rfl
    rw [hresume]
    refine ⟨runs_walk, ?_⟩
    have hdue := @due_zipIdx d t rep c d.scheduledReports 0 i hschedules.listed hschedules.runs
      hschedules.bearer
    rw [Nat.zero_add] at hdue
    dsimp only [Runner.generatedFor, Runner.ticksIn]
    rw [due_walk, countP_append, countP_append,
      show countP (Effect.generates d i rep c) [.newDate t] = 0 from rfl, Nat.add_zero]
    rw [show Stage.due d i rep c .reading = 0 from rfl, Nat.add_zero] at hgenerated
    rw [hgenerated]
    by_cases hminute : d.calendar.minuteOf rep.schedule t = some c
    · have hread : countP (Effect.readsClock d rep c) [.newDate t] = 1 := by
        simp [Effect.readsClock, hminute]
      rw [hread, hdue]
      by_cases hcond : rep.schedule.isDue (d.calendar.parts c) = true ∧ d.Unbroken i
      · rw [if_pos hcond, if_pos hcond, if_pos ⟨hminute, hcond⟩]
      · rw [if_neg hcond, if_neg hcond, if_neg fun h => hcond h.2]
    · have hread : countP (Effect.readsClock d rep c) [.newDate t] = 0 := by
        simp [Effect.readsClock, hminute]
      rw [hread, hdue.trans (if_neg fun h => hminute h.1)]
      rfl
  | credential now index rep' ahead =>
    rw [hstage] at hruns hgenerated
    obtain ⟨hruns', hclock⟩ := @afterCredential_runs d now rep c ahead index rep'
    refine ⟨hruns', ?_⟩
    dsimp only [Runner.generatedFor, Runner.ticksIn, resume]
    have hafter := @due_afterCredential d now i rep c ahead index rep' hruns
    rw [countP_append, countP_append, hclock, Nat.add_zero, ← hgenerated, Stage.due]
    omega
  | generating now payload ahead =>
    rw [hstage] at hgenerated
    refine ⟨runs_walk, ?_⟩
    dsimp only [Runner.generatedFor, Runner.ticksIn, resume]
    have hemail : (if ok = true then emailEffects payload else []).countP
          (Effect.readsClock d rep c) = 0 ∧
        (if ok = true then emailEffects payload else []).countP (Effect.generates d i rep c) = 0 := by
      cases ok with
      | true => exact effects_email payload
      | false => exact ⟨rfl, rfl⟩
    rw [countP_append, countP_append, hemail.1, hemail.2, Nat.add_zero, Nat.add_zero,
      due_walk]
    exact hgenerated

theorem accounted_step (hschedules : d.Schedules i rep) {l : Label} (h : Accounted d i rep c r)
    (hstep : step d start r l = some r') : Accounted d i rep c r' := by
  cases l with
  | due =>
    rw [step] at hstep
    split_ifs at hstep
    obtain rfl := some.inj hstep
    exact ⟨runs_acquire h.runs, (congrArg _ due_acquire).trans h.generated⟩
  | answered t ok =>
    rw [step] at hstep
    split_ifs at hstep
    obtain rfl := some.inj hstep
    exact accounted_resume hschedules h ok

open Classical in
/-- In every run, the report has been generated for a minute as often as ticks have
read the clock in it, or not at all. -/
theorem generatedFor_eq (hschedules : d.Schedules i rep) {ls : List Label}
    (hrun : run d start ⟨start, 0, .idle, []⟩ ls = some r) (hsettled : r.Settled d rep c) :
    r.generatedFor d i rep c =
      if rep.schedule.isDue (d.calendar.parts c) = true ∧ d.Unbroken i then r.ticksIn d rep c
      else 0 := by
  have hall : ∀ ls (r₀ r : Runner), Accounted d i rep c r₀ → run d start r₀ ls = some r →
      Accounted d i rep c r := by
    intro ls
    induction ls with
    | nil =>
      intro r₀ r h hrun
      obtain rfl := some.inj hrun
      exact h
    | cons l ls ih =>
      intro r₀ r h hrun
      obtain ⟨r₁, hstep, hrun⟩ := bind_eq_some_iff.mp hrun
      exact ih r₁ r (accounted_step hschedules h hstep) hrun
  have hstart : Accounted d i rep c ⟨start, 0, .idle, []⟩ :=
    ⟨trivial, by simp [Runner.generatedFor, Runner.ticksIn, Stage.due]⟩
  have h := (hall ls _ r hstart hrun).generated
  rwa [due_of_settled hsettled, Nat.add_zero] at h

theorem append_twoDigits_eq_iff {a b : String} (n : ℕ) :
    a ++ ":" ++ twoDigits n = b ++ ":" ++ twoDigits n ↔ a = b := by
  refine ⟨fun h => ?_, fun h => by rw [h]⟩
  have hlist := congrArg String.toList h
  simp only [String.toList_append, append_assoc] at hlist
  exact String.toList_injective (append_cancel_right hlist)

/-- A selected minute passes the checks exactly when its hour is written in the usual
way. -/
theorem isDue_iff_of_selects {cal : Calendar} {schedule : Schedule} (h : schedule.Selects c) :
    schedule.isDue (cal.parts c) = true ↔ cal.hourText c.hour = twoDigits c.hour := by
  obtain ⟨hstarted, htime, hweekly, hmonthly⟩ := h
  rw [Schedule.isDue, Calendar.parts]
  dsimp only
  rw [Bool.and_eq_true, Bool.and_eq_true, Bool.and_eq_true, htime, beq_iff_eq,
    append_twoDigits_eq_iff]
  constructor
  · rintro ⟨⟨⟨-, h⟩, -⟩, -⟩
    exact h.symm
  · intro h
    refine ⟨⟨⟨by simpa using hstarted, h.symm⟩, ?_⟩, ?_⟩
    · by_cases hfrequency : schedule.frequency = .weekly
      · simp [hweekly hfrequency]
      · simp [hfrequency]
    · by_cases hfrequency : schedule.frequency = .monthly
      · simp [hmonthly hfrequency]
      · simp [hfrequency]

/-- **Main theorem**: in every run, a report is generated exactly once for a minute
that its schedule selects if and only if exactly one of the ticks that find the
slot free reads the clock in this minute, no report before it in the list has a
workspace with a broken credential, and the runtime writes the hour with the
digits that a schedule has. -/
theorem generated_once_iff (hschedules : d.Schedules i rep) (hselects : rep.schedule.Selects c)
    {ls : List Label} (hrun : run d start ⟨start, 0, .idle, []⟩ ls = some r)
    (hsettled : r.Settled d rep c) :
    r.generatedFor d i rep c = 1 ↔
      r.ticksIn d rep c = 1 ∧ d.Unbroken i ∧ d.calendar.hourText c.hour = twoDigits c.hour := by
  rw [generatedFor_eq hschedules hrun hsettled, ← isDue_iff_of_selects hselects]
  split_ifs with hcond
  · exact ⟨fun h => ⟨h, hcond.2, hcond.1⟩, fun h => h.1⟩
  · exact ⟨fun h => absurd h (by decide), fun h => absurd ⟨h.2.2, h.2.1⟩ hcond⟩

/-! ## Two reports, one minute apart -/

/-- A clock in UTC, from the first of January. -/
def utcCalendar : Calendar where
  civil _ t := some
    ⟨if t < 86400000 then "2024-01-01" else "2024-01-02", t / 3600000 % 24, t / 60000 % 60,
      t / 86400000, t / 86400000 + 1⟩
  hourText := twoDigits
  civil_utc _ := rfl

/-- A daily report at a time of the day. -/
def dailyReport (time : String) : ScheduledReport where
  workspaceSlug := "acme"
  sources := ["cases"]
  timeLapse := "Last 30 Days"
  filters := .obj []
  display := .obj []
  emailRecipients := none
  chat := false
  email := false
  schedule := ⟨true, .daily, time, none, none⟩

/-- A report at nine, and one a minute later. -/
def twoReports : Deployment where
  calendar := utcCalendar
  scheduledReports := [some (dailyReport "09:00"), some (dailyReport "09:01")]
  webhookUrl := none
  smtpConfig := none
  credential _ := .bearer "Bearer token"

/-- One minute past nine. -/
def nineOhOne : Civil :=
  ⟨"2024-01-01", 9, 1, 0, 1⟩

/-- The ticks at 9:00:30, 9:01:30 and 9:02:30, when the first PDF takes `ms`; the second
tick is skipped when it takes longer than a minute. -/
def threeTicks (ms : ℕ) : List Label :=
  let start := 32430000
  let first := [.due, .answered start true, .answered start true]
  let last := [.answered (start + ms) true, .answered (start + ms) true, .answered (start + ms) true]
  let tick t := [.due, .answered t true, .answered t true, .answered t true, .answered t true]
  if ms ≤ 60000 then first ++ last ++ tick (start + 60000) ++ [.answered (start + 60000) true] ++
    tick (start + 120000)
  else first ++ [.due] ++ last ++ tick (start + 120000)

theorem schedules_twoReports : twoReports.Schedules 1 (dailyReport "09:01") :=
  ⟨rfl, ⟨rfl, by decide⟩, "Bearer token", rfl⟩

theorem selects_nineOhOne : (dailyReport "09:01").schedule.Selects nineOhOne :=
  ⟨by decide +kernel, by decide +kernel, fun h => (by cases h), fun h => (by cases h)⟩

theorem generated_once_iff_short :
    ∃ r, run twoReports 32430000 ⟨32430000, 0, .idle, []⟩ (threeTicks 10000) = some r ∧
      r.generatedFor twoReports 1 (dailyReport "09:01") nineOhOne = 1 := by
  have hvalue : (run twoReports 32430000 ⟨32430000, 0, .idle, []⟩ (threeTicks 10000)).map
      (fun r => (r.ticksIn twoReports (dailyReport "09:01") nineOhOne, r.stage.now?)) =
        some (1, none) := by
    decide +kernel
  obtain ⟨r, hrun, hr⟩ := map_eq_some_iff.mp hvalue
  obtain ⟨hticks, hidle⟩ := Prod.mk.inj hr
  have hsettled : r.Settled twoReports (dailyReport "09:01") nineOhOne := fun now h => by
    rw [hidle] at h
    cases h
  exact ⟨r, hrun, (generated_once_iff schedules_twoReports selects_nineOhOne hrun hsettled).mpr
    ⟨hticks, fun j _ rep' _ _ h => (by cases h), rfl⟩⟩

/-- The first PDF takes a minute and a half. The tick of the next minute is skipped, and
the report that was due then is not generated for it, nor will it be. -/
theorem second_report_missed :
    ∃ r, run twoReports 32430000 ⟨32430000, 0, .idle, []⟩ (threeTicks 90000) = some r ∧
      twoReports.Schedules 1 (dailyReport "09:01") ∧
      (dailyReport "09:01").schedule.Selects nineOhOne ∧
      (∀ t, r.clock ≤ t →
        twoReports.calendar.minuteOf (dailyReport "09:01").schedule t ≠ some nineOhOne) ∧
      r.Settled twoReports (dailyReport "09:01") nineOhOne ∧
      r.generatedFor twoReports 1 (dailyReport "09:01") nineOhOne = 0 := by
  have hvalue : (run twoReports 32430000 ⟨32430000, 0, .idle, []⟩ (threeTicks 90000)).map
      (fun r => (r.clock, r.stage.now?,
        r.generatedFor twoReports 1 (dailyReport "09:01") nineOhOne)) =
          some (32550000, none, 0) := by
    decide +kernel
  obtain ⟨r, hrun, hr⟩ := map_eq_some_iff.mp hvalue
  obtain ⟨hclock, hr⟩ := Prod.mk.inj hr
  obtain ⟨hidle, hgenerated⟩ := Prod.mk.inj hr
  refine ⟨r, hrun, schedules_twoReports, selects_nineOhOne, fun t ht hminute => ?_,
    fun now h => ?_, hgenerated⟩
  · have hcivil := some.inj hminute
    have hhour : t / 3600000 % 24 = 9 := congrArg Civil.hour hcivil
    have hmin : t / 60000 % 60 = 1 := congrArg Civil.minute hcivil
    have hday : t / 86400000 = 0 := congrArg Civil.weekday hcivil
    omega
  · rw [hidle] at h
    cases h

end AppliverySoar.Reports
