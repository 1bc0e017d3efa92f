import AppliverySoar.Js.Value
import AppliverySoar.Workflows.Types

/-!
# Scheduled reports

Model of `runReportSchedulerTick` (analyticsJobs.ts, lines 27–99) under the
in-process job runner (backgroundJobs.ts, lines 164–205) and its slot
(jobReentrancyGuard.ts, lines 38–49). A tick is due every minute; it is skipped
while the previous one is still at work. The steps of a tick are its `await`s,
each of which takes as long as it takes.

Left out: log lines, and the id and the name of a report, which only they show.
The database answers.
-/

namespace AppliverySoar.Reports

open Js Workflows

/-! ## Reports -/

/-- `schedule.frequency`. -/
inductive Frequency
  | daily
  | weekly
  | monthly
  deriving DecidableEq

structure Schedule where
  enabled : Bool
  frequency : Frequency
  time : String
  timezone : Option String
  startDate : Option String

/-- A `ScheduledReport`; `chat` and `email` are the members of `delivery`. -/
structure ScheduledReport where
  workspaceSlug : String
  sources : List String
  timeLapse : String
  filters : Value
  display : Value
  emailRecipients : Option String
  chat : Bool
  email : Bool
  schedule : Schedule

structure ReportPayload where
  workspace : String
  sources : List String
  timeLapse : String
  filters : Value
  display : Value
  webhookUrl : Option String
  emailRecipients : Option String
  smtp : Option Value

/-! ## Local time -/

/-- A minute on the clock of a time zone; `weekday` counts from Monday. -/
structure Civil where
  dateStr : String
  hour : ℕ
  minute : ℕ
  weekday : ℕ
  dayOfMonth : ℕ
  deriving DecidableEq

/-- The time zones of the runtime: the minute of a moment, or an exception for an
unknown zone, and how the hour is written without `hour12`. -/
structure Calendar where
  civil : String → ℕ → Option Civil
  hourText : ℕ → String
  civil_utc : ∀ t, (civil "UTC" t).isSome

/-- A number with two digits. -/
def twoDigits (n : ℕ) : String :=
  String.ofList [Nat.digitChar (n / 10), Nat.digitChar (n % 10)]

/-- What `localPartsInTimezone` returns. -/
structure LocalParts where
  hhmm : String
  weekday : ℕ
  dayOfMonth : ℕ
  dateStr : String

/-- `localPartsInTimezone`, from the minute. -/
def Calendar.parts (cal : Calendar) (c : Civil) : LocalParts where
  hhmm := cal.hourText c.hour ++ ":" ++ twoDigits c.minute
  weekday := c.weekday
  dayOfMonth := c.dayOfMonth
  dateStr := c.dateStr

/-- The minute that a schedule sees: in its time zone, or in UTC if that throws. -/
def Calendar.minuteOf (cal : Calendar) (schedule : Schedule) (now : ℕ) : Option Civil :=
  (cal.civil (orElse schedule.timezone "UTC") now).or (cal.civil "UTC" now)

/-- The checks of lines 71–75. -/
def Schedule.isDue (schedule : Schedule) (now : LocalParts) : Bool :=
  !(now.dateStr < orElse schedule.startDate "2000-01-01") && schedule.time == now.hhmm &&
    !(schedule.frequency = .weekly && now.weekday != 0) &&
    !(schedule.frequency = .monthly && now.dayOfMonth != 1)

/-! ## A tick -/

/-- What `getAutomationBearer` comes to: no credential, one that cannot be
decrypted, which throws, or the bearer. -/
inductive Credential
  | missing
  | broken
  | bearer (token : String)

/-- What a tick reads: the global `WorkspaceState` row, with `none` for a report that
`scheduledReportSchema` refuses and the SMTP settings as decrypted, and the
credentials. -/
structure Deployment where
  calendar : Calendar
  scheduledReports : List (Option ScheduledReport)
  webhookUrl : Option String
  smtpConfig : Option Value
  credential : String → Credential

/-- What a tick does to the outside. A generation is marked with the place of its
report in the list and with the tick's `now`. -/
inductive Effect
  | newDate (now : ℕ)
  | sendGoogleChatWebhook (webhookUrl workspace timeLapse : String) (sources : ℕ)
  | generateReportPdf (index now : ℕ) (payload : ReportPayload) (bearer : String)
  | sendEmailReport (smtp : Value) (emailRecipients timeLapse : String)

/-- The reports that a tick still has before it, with their places in the list. -/
abbrev Ahead : Type := List (Option ScheduledReport × ℕ)

/-- Where the tick awaits: the global row, a credential, a PDF, the heartbeat.
`idle` is a free slot. -/
inductive Stage
  | idle
  | reading
  | credential (now index : ℕ) (rep : ScheduledReport) (ahead : Ahead)
  | generating (now : ℕ) (payload : ReportPayload) (ahead : Ahead)
  | heartbeat

/-- The payload of lines 79–88. -/
def Deployment.payload (d : Deployment) (rep : ScheduledReport) : ReportPayload where
  workspace := rep.workspaceSlug
  sources := rep.sources
  timeLapse := rep.timeLapse
  filters := rep.filters
  display := rep.display
  webhookUrl := if rep.chat then d.webhookUrl else none
  emailRecipients := if rep.email then rep.emailRecipients else none
  smtp := if rep.email then d.smtpConfig else none

/-- The next report that is enabled and has a workspace. -/
def walk (now : ℕ) : Ahead → Stage
  | [] => .heartbeat
  | (none, _) :: ahead => walk now ahead
  | (some rep, index) :: ahead =>
    if rep.schedule.enabled && rep.workspaceSlug != "" then .credential now index rep ahead
    else walk now ahead

/-- The chat message, which is not awaited. -/
def chatEffects (payload : ReportPayload) : List Effect :=
  match truthy payload.webhookUrl with
  | some url =>
    [.sendGoogleChatWebhook url payload.workspace payload.timeLapse payload.sources.length]
  | none => []

/-- The message with the PDF, which is not awaited. -/
def emailEffects (payload : ReportPayload) : List Effect :=
  match truthy payload.emailRecipients, payload.smtp.filter Value.truthy with
  | some recipients, some smtp => [.sendEmailReport smtp recipients payload.timeLapse]
  | _, _ => []

/-- What follows when the credential of a report has come. -/
def afterCredential (d : Deployment) (now index : ℕ) (rep : ScheduledReport) (ahead : Ahead) :
    Stage × List Effect :=
  match d.credential rep.workspaceSlug with
  | .missing => (walk now ahead, [])
  | .broken => (.heartbeat, [])
  | .bearer token =>
    match d.calendar.minuteOf rep.schedule now with
    | none => (.heartbeat, [])
    | some c =>
      if rep.schedule.isDue (d.calendar.parts c) then
        (.generating now (d.payload rep) ahead,
          chatEffects (d.payload rep) ++ [.generateReportPdf index now (d.payload rep) token])
      else (walk now ahead, [])

/-- What follows when the pending `await` ends at `t`; `ok` is whether a PDF was
generated. -/
def resume (d : Deployment) (t : ℕ) (ok : Bool) : Stage → Stage × List Effect
  | .idle => (.idle, [])
  | .reading =>
    if d.scheduledReports.isEmpty then (.heartbeat, [])
    else (walk t d.scheduledReports.zipIdx, [.newDate t])
  | .credential now index rep ahead => afterCredential d now index rep ahead
  | .generating now payload ahead =>
    (walk now ahead, if ok then emailEffects payload else [])
  | .heartbeat => (.idle, [])

/-! ## The runner -/

/-- `REPORT_SCHEDULER_TICK_MS`. -/
def reportSchedulerTickMs : ℕ := 60000

/-- The runner: the time, the number of ticks that have been due, and what has
happened. -/
structure Runner where
  clock : ℕ
  ticks : ℕ := 0
  stage : Stage := .idle
  effects : List Effect := []

/-- What happens next: a tick is due, or the pending `await` ends. -/
inductive Label
  | due
  | answered (t : ℕ) (ok : Bool)

/-- When the next tick is due. -/
def nextDue (start : ℕ) (r : Runner) : ℕ :=
  start + reportSchedulerTickMs * r.ticks

/-- `tryAcquireJobSlot`: a tick begins if the slot is free. -/
def acquire : Stage → Stage
  | .idle => .reading
  | stage => stage

/-- A step; nothing happens before what is due. -/
def step (d : Deployment) (start : ℕ) (r : Runner) : Label → Option Runner
  | .due =>
    if r.clock ≤ nextDue start r then
      some { r with clock := nextDue start r, ticks := r.ticks + 1, stage := acquire r.stage }
    else none
  | .answered t ok =>
    if r.clock ≤ t ∧ t ≤ nextDue start r then
      let (stage, effects) := resume d t ok r.stage
      some { r with clock := t, stage := stage, effects := r.effects ++ effects }
    else none

/-- A run from a runner. -/
def run (d : Deployment) (start : ℕ) (r : Runner) (ls : List Label) : Option Runner :=
  ls.foldlM (step d start) r

end AppliverySoar.Reports
