import Mathlib.Data.List.Count
import AppliverySoar.Async.Logic

/-!
# The daily caps of the alerts of a policy

Model of `firePolicyViolationAlert` (compliance.service.ts, lines 459–534) and of the
evaluation passes that call it (lines 564–894) as far as one policy is concerned: a pass
reads the row of the policy when it starts, and hands this row to the alert at its end.
Days are numbered. A webhook alert is sent if the endpoint accepts it, and an e-mail if the
mail server does.

Results:
* `meets_firePolicyViolationAlert`: what one alert does, by the counters that it goes by.
* `alerts_capped`: the caps hold, and the counters of a day only grow, in every run where each
  alert goes by the stored counters, and no two alerts are sent at a time.
* `overlap_exceeds`: two passes that overlap.
-/

namespace AppliverySoar.Compliance.Alerting

open Function

open Async (Sig Prog)

/-! ## The alert -/

/-- `trim`, and the ISO date of a day. -/
structure AlertText where
  trim : String → String
  isoDate : ℕ → String

/-- The columns of a `CompliancePolicy` that its alerts read and write. -/
structure AlertPolicy where
  id : String
  name : String
  alertOnViolation : Bool
  alertViaWebhook : Bool
  alertViaEmail : Bool
  alertWebhookUrl : Option String := none
  alertEmailRecipients : Option String := none
  alertWebhookMaxPerDay : Option ℕ := none
  alertEmailMaxPerDay : Option ℕ := none
  alertWebhookSentToday : ℕ := 0
  alertEmailSentToday : ℕ := 0
  alertCountersDate : Option ℕ := none
  lastAlertError : Option String := none

/-- The two channels. -/
inductive Channel
  | webhook
  | email
  deriving DecidableEq

/-- `alertWebhookMaxPerDay` and `alertEmailMaxPerDay`. -/
def AlertPolicy.maxPerDay (policy : AlertPolicy) : Channel → Option ℕ
  | .webhook => policy.alertWebhookMaxPerDay
  | .email => policy.alertEmailMaxPerDay

/-- `countersStale ? 0 : sentToday`, on the given day. -/
def AlertPolicy.storedOn (policy : AlertPolicy) (day : ℕ) (channel : Channel) : ℕ :=
  if policy.alertCountersDate ≠ some day then 0
  else match channel with
    | .webhook => policy.alertWebhookSentToday
    | .email => policy.alertEmailSentToday

/-- What `firePolicyViolationAlert` awaits. -/
inductive AlertCall
  | globalWebhookUrl
  | sendChatText (url text : String)
  | sendAlertEmail (subject text recipients : String)
  | updatePolicy (lastAlertError : Option String) (webhookSentToday emailSentToday today : ℕ)

/-- The calls with their answers. -/
def alertSig : Sig where
  Call := AlertCall
  Ret
    | .globalWebhookUrl => Option String
    | .sendChatText .. | .sendAlertEmail .. | .updatePolicy .. => Unit

/-- The programs of an alert. -/
abbrev AlertProg (α : Type) : Type :=
  Prog alertSig String α

def ask (c : AlertCall) : AlertProg (alertSig.Ret c) :=
  Prog.call (S := alertSig) c

/-- `s || null`, for a text. -/
def truthy (s : Option String) : Option String :=
  s.filter fun s => s ≠ ""

/-- The URL of the policy, or the one of Settings. -/
def alertUrl (t : AlertText) (policy : AlertPolicy) : AlertProg (Option String) :=
  match truthy (policy.alertWebhookUrl.map t.trim) with
  | some url => pure (some url)
  | none => do
    let webhookUrl ← ask .globalWebhookUrl
    pure (truthy (Option.map t.trim webhookUrl))

/-- The limit, if it has been reached. -/
def limitReached (maxPerDay : Option ℕ) (sentToday : ℕ) : Option ℕ :=
  maxPerDay.filter fun max => sentToday ≥ max

/-- The part for the webhook: the new count, and the errors. -/
def alertViaWebhook (t : AlertText) (policy : AlertPolicy) (text : String)
    (today sentToday : ℕ) : AlertProg (ℕ × List String) :=
  if policy.alertViaWebhook then
    match limitReached policy.alertWebhookMaxPerDay sentToday with
    | some max => pure (sentToday, ["webhook: daily limit reached (" ++ toString max ++
        "/day) — skipped, resets after " ++ t.isoDate today])
    | none =>
      tryCatch (do
        let url ← alertUrl t policy
        match url with
        | none =>
          throw "no webhook URL configured (set one on this policy or in Settings > General)"
        | some url => do
          ask (.sendChatText url text)
          pure (sentToday + 1, []))
        fun e => pure (sentToday, ["webhook: " ++ e])
  else pure (sentToday, [])

/-- The part for the e-mail. -/
def alertViaEmail (t : AlertText) (policy : AlertPolicy) (subject text : String)
    (today sentToday : ℕ) : AlertProg (ℕ × List String) :=
  if policy.alertViaEmail then
    match limitReached policy.alertEmailMaxPerDay sentToday with
    | some max => pure (sentToday, ["email: daily limit reached (" ++ toString max ++
        "/day) — skipped, resets after " ++ t.isoDate today])
    | none =>
      match policy.alertEmailRecipients, truthy (policy.alertEmailRecipients.map t.trim) with
      | some recipients, some _ => do
        ask (.sendAlertEmail subject text recipients)
        pure (sentToday + 1, [])
      | _, _ => pure (sentToday, ["email: no recipients configured on this policy"])
  else pure (sentToday, [])

/-- `n === 1 ? "" : "s"`. -/
def plural (n : ℕ) : String :=
  if n = 1 then "" else "s"

/-- `errors.length ? errors.join("; ").slice(0, 500) : null`. -/
def joinErrors (errors : List String) : Option String :=
  if errors = [] then none else some (String.ofList (("; ".intercalate errors).toList.take 500))

/-- `firePolicyViolationAlert`, called on the day `today`. -/
def firePolicyViolationAlert (t : AlertText) (policy : AlertPolicy)
    (newViolationCount deviceCount today : ℕ) : AlertProg Unit :=
  if !policy.alertOnViolation || newViolationCount < 1 then pure ()
  else if !policy.alertViaWebhook && !policy.alertViaEmail then pure ()
  else do
    let subject := "[Compliance] \"" ++ policy.name ++ "\" — " ++ toString newViolationCount ++
      " new violation" ++ plural newViolationCount
    let text := toString newViolationCount ++ " device" ++ plural newViolationCount ++
      " newly violated Compliance Policy \"" ++ policy.name ++ "\" this evaluation pass (" ++
      toString deviceCount ++ " device" ++ plural deviceCount ++
      " in scope). Review in Compliance > Violations."
    let webhook ← alertViaWebhook t policy text today (policy.storedOn today .webhook)
    let email ← alertViaEmail t policy subject text today (policy.storedOn today .email)
    tryCatch (ask (.updatePolicy (joinErrors (webhook.2 ++ email.2)) webhook.1 email.1 today))
      fun _ => pure ()

/-! ## What one alert does -/

/-- What an alert has counted, its counters with what it has sent, and what it had counted when
it last wrote. -/
structure Tally where
  counted : Channel → ℕ
  written : Channel → ℕ

/-- One more. -/
def Tally.add (g : Tally) (channel : Channel) : Tally where
  counted := Function.update g.counted channel (g.counted channel + 1)
  written := g.written

/-- An alert counts a webhook alert that is accepted, and an e-mail, which never fails. -/
def tallying : Async.World alertSig String Tally where
  may
    | _, .sendAlertEmail .., .error _ => False
    | _, _, _ => True
  next
    | g, .sendChatText .., .ok _ => g.add .webhook
    | g, .sendAlertEmail .., .ok _ => g.add .email
    | g, .updatePolicy .., _ => ⟨g.counted, g.counted⟩
    | g, _, _ => g

/-- There is room for one more. -/
def Room (caps : Channel → Option ℕ) (g : Tally) (channel : Channel) : Prop :=
  ∀ max, caps channel = some max → g.counted channel < max

/-- It sends where there is room, and writes what it has counted. -/
def WithinCap (caps : Channel → Option ℕ) (today : ℕ) (g : Tally) : alertSig.Call → Prop
  | .globalWebhookUrl => True
  | .sendChatText .. => Room caps g .webhook
  | .sendAlertEmail .. => Room caps g .email
  | .updatePolicy _ webhookSentToday emailSentToday day =>
    webhookSentToday = g.counted .webhook ∧ emailSentToday = g.counted .email ∧ day = today ∧
    ∀ channel, g.written channel ≤ g.counted channel

section Alert

variable {t : AlertText} {policy : AlertPolicy} {today : ℕ} {g : Tally} {caps : Channel → Option ℕ}

theorem meets_ask {α : Type} {c : AlertCall}
    {f : alertSig.Ret c → AlertProg α} {Q : Except String α → Tally → Prop}
    (hc : WithinCap caps today g c)
    (he : ∀ e, tallying.may g c (.error e) → Q (.error e) (tallying.next g c (.error e)))
    (hf : ∀ a, tallying.may g c (.ok a) →
      (f a).Meets tallying (WithinCap caps today) (tallying.next g c (.ok a)) Q) :
    (ask c >>= f).Meets tallying (WithinCap caps today) g Q :=
  Prog.Meets.call_bind hc he hf

theorem room_of_limitReached {channel : Channel}
    (h : limitReached (policy.maxPerDay channel) (g.counted channel) = none) :
    Room policy.maxPerDay g channel := by
  intro max hmax
  rw [hmax] at h
  simpa [limitReached] using h

/-- The channel `channel` has counted `n`, and nothing else has changed. -/
def Tally.Counts (g g' : Tally) (channel : Channel) (n : ℕ) : Prop :=
  g'.counted channel = n ∧ g.counted channel ≤ n ∧ g'.written = g.written ∧
  ∀ other, other ≠ channel → g'.counted other = g.counted other

theorem Tally.counts_same (channel : Channel) : g.Counts g channel (g.counted channel) :=
  ⟨rfl, Nat.le_refl _, rfl, fun _ _ => rfl⟩

theorem Tally.counts_add (channel : Channel) :
    g.Counts (g.add channel) channel (g.counted channel + 1) :=
  ⟨update_self .., Nat.le_succ _, rfl, fun _ h => update_of_ne h ..⟩

theorem meets_alertUrl : (alertUrl t policy).Meets tallying
    (WithinCap caps today) g (Async.post (fun _ g' => g' = g) fun _ g' => g' = g) := by
  unfold alertUrl
  split
  · exact rfl
  · refine meets_ask trivial (fun e _ => rfl) ?_
    exact fun url _ => rfl

theorem meets_alertViaWebhook {text : String} :
    (alertViaWebhook t policy text today (g.counted .webhook)).Meets tallying
      (WithinCap policy.maxPerDay today) g (Async.post
        (fun r g' => g.Counts g' .webhook r.1) fun _ _ => False) := by
  unfold alertViaWebhook
  split
  · split
    · exact Tally.counts_same .webhook
    · next hlimit =>
      refine Prog.Meets.tryCatch (E := fun _ g' => g' = g) ?_ ?_
      · refine Prog.Meets.bind (R := fun _ g' => g' = g) meets_alertUrl ?_
        rintro url g' rfl
        cases url with
        | none => exact rfl
        | some url =>
          refine meets_ask (room_of_limitReached hlimit) (fun e _ => rfl) ?_
          exact fun a _ => Tally.counts_add .webhook
      · rintro e g' rfl
        exact Tally.counts_same .webhook
  · exact Tally.counts_same .webhook

theorem meets_alertViaEmail {subject text : String} :
    (alertViaEmail t policy subject text today (g.counted .email)).Meets tallying
      (WithinCap policy.maxPerDay today) g (Async.post
        (fun r g' => g.Counts g' .email r.1) fun _ _ => False) := by
  unfold alertViaEmail
  split
  · split
    · exact Tally.counts_same .email
    · next hlimit =>
      split
      · refine meets_ask (room_of_limitReached hlimit) (fun e he => he.elim) ?_
        exact fun a _ => Tally.counts_add .email
      · exact Tally.counts_same .email
  · exact Tally.counts_same .email

/-- An alert that goes by some counters sends where they leave room, and writes what it has
sent on top of them before it ends. -/
theorem meets_firePolicyViolationAlert {newViolationCount deviceCount : ℕ} :
    (firePolicyViolationAlert t policy newViolationCount deviceCount today).Meets tallying
      (WithinCap policy.maxPerDay today) ⟨policy.storedOn today, policy.storedOn today⟩
      fun _ g => g.written = g.counted := by
  unfold firePolicyViolationAlert
  split
  · exact rfl
  split
  · exact rfl
  refine Prog.Meets.bind
    (R := fun r g => Tally.Counts ⟨policy.storedOn today, policy.storedOn today⟩ g .webhook r.1)
    ((meets_alertViaWebhook (g := ⟨policy.storedOn today, policy.storedOn today⟩)).mono ?_) ?_
  · rintro (e | r) g h
    · exact h.elim
    · exact h
  rintro webhook g ⟨hwebhook, hle, hwritten, hother⟩
  have hemail : policy.storedOn today .email = g.counted .email :=
    (hother .email (by decide)).symm
  rw [hemail]
  refine Prog.Meets.bind (R := fun r g' => g.Counts g' .email r.1)
    (meets_alertViaEmail.mono ?_) ?_
  · rintro (e | r) g' h
    · exact h.elim
    · exact h
  rintro email g' ⟨hemail', hle', hwritten', hother'⟩
  have hwebhook' : webhook.1 = g'.counted .webhook :=
    hwebhook.symm.trans (hother' .webhook (by decide)).symm
  refine Prog.Meets.tryCatch (E := fun _ g => g.written = g.counted) ?_
    fun e g (h : g.written = g.counted) => h
  refine ⟨⟨hwebhook', hemail'.symm, rfl, fun channel => ?_⟩, fun r _ => by cases r <;> exact rfl⟩
  rw [hwritten', hwritten]
  cases channel with
  | webhook => exact hwebhook' ▸ hle
  | email => exact Nat.le_trans (Nat.le_of_eq hemail) (hemail' ▸ hle')

end Alert

/-! ## Passes -/

/-- An evaluation pass, with the row that it has read, or what is left of its alert and the
day on which it was called. -/
inductive Pass
  | evaluating (policy : AlertPolicy)
  | alerting (today : ℕ) (rest : AlertProg Unit)

/-- The row of the policy, the passes that go on, the day, and the alerts that have been sent,
with their days. -/
structure Alerts where
  row : AlertPolicy
  passes : ℕ → Option Pass
  day : ℕ
  sent : List (ℕ × Channel)

/-- An answer to a pending call. -/
inductive Reply
  | ok (webhookUrl : Option String)
  | error (e : String)

/-- What the call returns; `sendAlertEmail` never throws. -/
def Reply.answer (reply : Reply) (c : AlertCall) : Except String (alertSig.Ret c) :=
  match c, reply with
  | .globalWebhookUrl, .ok webhookUrl => .ok webhookUrl
  | .sendChatText .., .ok _ | .sendAlertEmail .., _ | .updatePolicy .., .ok _ => .ok ()
  | .globalWebhookUrl, .error e | .sendChatText .., .error e | .updatePolicy .., .error e =>
    .error e

/-- What the call does. -/
def Alerts.perform (s : Alerts) (c : AlertCall) (reply : Reply) : Alerts :=
  match c, reply with
  | .sendChatText .., .ok _ => { s with sent := (s.day, .webhook) :: s.sent }
  | .sendAlertEmail .., .ok _ => { s with sent := (s.day, .email) :: s.sent }
  | .updatePolicy lastAlertError webhookSentToday emailSentToday today, .ok _ =>
    { s with
      row := { s.row with
        lastAlertError := lastAlertError
        alertWebhookSentToday := webhookSentToday
        alertEmailSentToday := emailSentToday
        alertCountersDate := some today } }
  | _, _ => s

/-- A pass with what is left of its alert; none, if the alert has ended. -/
def Pass.left (today : ℕ) : AlertProg Unit → Option Pass
  | .ret _ => none
  | .await c k => some (.alerting today (.await c k))

/-- A pass goes on with its alert, or ends. -/
def Alerts.goOn (s : Alerts) (pass today : ℕ) (rest : AlertProg Unit) : Alerts :=
  { s with passes := Function.update s.passes pass (Pass.left today rest) }

inductive Event
  | load (pass : ℕ)
  | alert (pass newViolationCount deviceCount : ℕ)
  | answer (pass : ℕ) (reply : Reply)
  | midnight

/-- The state after an event. -/
def Alerts.step (t : AlertText) (s : Alerts) : Event → Alerts
  | .load pass =>
    match s.passes pass with
    | none => { s with passes := Function.update s.passes pass (some (.evaluating s.row)) }
    | some _ => s
  | .alert pass newViolationCount deviceCount =>
    match s.passes pass with
    | some (.evaluating policy) =>
      s.goOn pass s.day (firePolicyViolationAlert t policy newViolationCount deviceCount s.day)
    | _ => s
  | .answer pass reply =>
    match s.passes pass with
    | some (.alerting today (.await c k)) =>
      (s.perform c reply).goOn pass today (k (reply.answer c))
    | _ => s
  | .midnight => { s with day := s.day + 1 }

def Alerts.run (t : AlertText) (s : Alerts) (events : List Event) : Alerts :=
  events.foldl (Alerts.step t) s

/-- A policy that has not alerted yet, on some day. -/
def Alerts.start (policy : AlertPolicy) (day : ℕ) : Alerts where
  row := { policy with
    alertWebhookSentToday := 0
    alertEmailSentToday := 0
    alertCountersDate := none }
  passes := fun _ => none
  day := day
  sent := []

/-! ## Specification -/

/-- The alerts sent on a day. -/
def Alerts.sentOn (s : Alerts) (day : ℕ) (channel : Channel) : ℕ :=
  s.sent.count (day, channel)

/-- The caps hold on every day. -/
def Alerts.Capped (s : Alerts) (caps : Channel → Option ℕ) : Prop :=
  ∀ channel max, caps channel = some max → ∀ day, s.sentOn day channel ≤ max

/-- A step that keeps the counters of the day: an alert goes by the counters that are stored,
while no other one is being sent; what it sends is sent on the day by whose counters it
goes, and the counts of that day are saved. -/
def Timely (s : Alerts) : Event → Prop
  | .load _ | .midnight => True
  | .alert pass newViolationCount _ => ∀ policy, s.passes pass = some (.evaluating policy) →
    policy.alertOnViolation → 1 ≤ newViolationCount →
    policy.alertViaWebhook ∨ policy.alertViaEmail →
    (∀ other today rest, s.passes other ≠ some (.alerting today rest)) ∧
    ∀ channel, policy.storedOn s.day channel = s.row.storedOn s.day channel
  | .answer pass reply => ∀ today c k, s.passes pass = some (.alerting today (.await c k)) →
    match c, reply with
    | .sendChatText .., .ok _ | .sendAlertEmail .., .ok _ => s.day = today
    | .updatePolicy _ webhookSentToday emailSentToday _, .error _ => s.day = today →
      webhookSentToday = s.row.storedOn today .webhook ∧
      emailSentToday = s.row.storedOn today .email
    | _, _ => True

/-- A run of such steps. -/
def AllTimely (t : AlertText) : Alerts → List Event → Prop
  | _, [] => True
  | s, e :: events => Timely s e ∧ AllTimely t (s.step t e) events

/-! ## The counters -/

/-- What is known while an alert is being sent. -/
structure Sending (s : Alerts) (caps : Channel → Option ℕ) (today : ℕ) (rest : AlertProg Unit)
    (g : Tally) : Prop where
  meets : rest.Meets tallying (WithinCap caps today) g fun _ g => g.written = g.counted
  started : today ≤ s.day
  dated : ∀ day, s.row.alertCountersDate = some day → day ≤ today
  stored : s.day = today → ∀ channel, s.row.storedOn today channel = g.written channel
  sent : s.day = today → ∀ channel, s.sentOn today channel ≤ g.counted channel
  later : s.day ≠ today → ∀ channel, s.sentOn s.day channel = 0

/-- What is known in a run of timely steps. -/
structure Counting (s : Alerts) (policy : AlertPolicy) : Prop where
  caps : s.row.maxPerDay = policy.maxPerDay
  snapshots : ∀ pass snapshot, s.passes pass = some (.evaluating snapshot) →
    snapshot.maxPerDay = policy.maxPerDay
  capped : s.Capped policy.maxPerDay
  dated : ∀ day, s.row.alertCountersDate = some day → day ≤ s.day
  future : ∀ day channel, s.day < day → s.sentOn day channel = 0
  single : ∀ pass pass' today today' rest rest', s.passes pass = some (.alerting today rest) →
    s.passes pass' = some (.alerting today' rest') → pass = pass'
  quiet : (∀ pass today rest, s.passes pass ≠ some (.alerting today rest)) →
    ∀ channel, s.sentOn s.day channel ≤ s.row.storedOn s.day channel
  sending : ∀ pass today rest, s.passes pass = some (.alerting today rest) →
    ∃ g, Sending s policy.maxPerDay today rest g

section Steps

variable {t : AlertText} {policy : AlertPolicy} {s : Alerts} {caps : Channel → Option ℕ}

variable {row : AlertPolicy}

theorem storedOn_of_lt {today day : ℕ}
    (hdated : ∀ day, row.alertCountersDate = some day → day ≤ today) (hlt : today < day)
    (channel : Channel) : row.storedOn day channel = 0 := by
  unfold AlertPolicy.storedOn
  refine if_pos fun h => ?_
  exact absurd (hdated day h) (Nat.not_le.mpr hlt)

/-- One more alert on a channel, today. -/
def Alerts.send (s : Alerts) (channel : Channel) : Alerts :=
  { s with sent := (s.day, channel) :: s.sent }

theorem sentOn_send_self (channel : Channel) :
    (s.send channel).sentOn s.day channel = s.sentOn s.day channel + 1 :=
  List.count_cons_self ..

theorem sentOn_send_other {day : ℕ} {channel other : Channel}
    (h : day = s.day → other ≠ channel) :
    (s.send channel).sentOn day other = s.sentOn day other := by
  refine List.count_cons_of_ne fun heq => ?_
  obtain ⟨rfl, rfl⟩ := Prod.mk.inj heq
  exact h rfl rfl

theorem may_answer (g : Tally) (c : AlertCall) (reply : Reply) :
    tallying.may g c (reply.answer c) := by
  cases c <;> cases reply <;> trivial

variable {today : ℕ} {g g' : Tally} {rest rest' : AlertProg Unit}

theorem Sending.keep (h : Sending s caps today rest g)
    (hmeets : rest'.Meets tallying (WithinCap caps today) g' fun _ g => g.written = g.counted)
    (hwritten : g'.written = g.written) (hcounted : ∀ channel, g.counted channel ≤ g'.counted channel) :
    Sending s caps today rest' g' := by
  refine ⟨hmeets, h.started, h.dated, fun hday channel => ?_, fun hday channel => ?_, h.later⟩
  · rw [hwritten]
    exact h.stored hday channel
  · exact Nat.le_trans (h.sent hday channel) (hcounted channel)

theorem Tally.le_add (g : Tally) (channel other : Channel) :
    g.counted other ≤ (g.add channel).counted other := by
  by_cases h : other = channel
  · subst h
    exact Nat.le_of_lt (by simp [Tally.add])
  · exact Nat.le_of_eq (update_of_ne h ..).symm

theorem Sending.send (h : Sending s caps today rest g) (hday : s.day = today) (channel : Channel)
    (hmeets : rest'.Meets tallying (WithinCap caps today) (g.add channel)
      fun _ g => g.written = g.counted) :
    Sending (s.send channel) caps today rest' (g.add channel) := by
  refine ⟨hmeets, h.started, h.dated, h.stored, fun _ other => ?_, fun hne => absurd hday hne⟩
  subst hday
  by_cases hother : other = channel
  · subst hother
    rw [sentOn_send_self]
    exact Nat.le_trans (Nat.succ_le_succ (h.sent rfl other)) (by simp [Tally.add])
  · rw [sentOn_send_other fun _ => hother]
    exact Nat.le_trans (h.sent rfl other) (Tally.le_add g channel other)

theorem capped_send (h : Sending s caps today rest g) (hday : s.day = today)
    (hcapped : s.Capped caps) {channel : Channel} (hroom : Room caps g channel) :
    (s.send channel).Capped caps := by
  intro other max hmax day
  by_cases hsame : day = s.day ∧ other = channel
  · obtain ⟨rfl, rfl⟩ := hsame
    rw [sentOn_send_self]
    exact Nat.lt_of_le_of_lt (hday ▸ h.sent hday other) (hroom max hmax)
  · rw [sentOn_send_other fun hd ho => hsame ⟨hd, ho⟩]
    exact hcapped other max hmax day

theorem Sending.write (h : Sending s caps today rest g)
    (hrow : ∀ channel, row.storedOn today channel = g.counted channel)
    (hdate : row.alertCountersDate = some today)
    (hmeets : rest'.Meets tallying (WithinCap caps today) ⟨g.counted, g.counted⟩
      fun _ g => g.written = g.counted) :
    Sending { s with row := row } caps today rest' ⟨g.counted, g.counted⟩ := by
  refine ⟨hmeets, h.started, fun day hday => ?_, fun _ => hrow, h.sent, h.later⟩
  rw [hdate] at hday
  exact Nat.le_of_eq (Option.some.inj hday).symm

/-- What an alert that goes on does, in a timely step: it stays within the caps, and the
counters of the day do not decrease. -/
theorem Sending.perform {c : AlertCall} {k : Except String (alertSig.Ret c) → AlertProg Unit}
    {pass : ℕ} {reply : Reply} (h : Sending s caps today (.await c k) g)
    (hcapped : s.Capped caps) (hpass : s.passes pass = some (.alerting today (.await c k)))
    (htimely : Timely s (.answer pass reply)) :
    Sending (s.perform c reply) caps today (k (reply.answer c))
        (tallying.next g c (reply.answer c)) ∧
      (s.perform c reply).Capped caps ∧
      ∀ channel, s.row.storedOn s.day channel ≤ (s.perform c reply).row.storedOn s.day channel := by
  obtain ⟨hcall, hk⟩ := h.meets
  have hmeets := hk (reply.answer c) (may_answer g c reply)
  have htime := htimely today c k hpass
  cases c with
  | globalWebhookUrl =>
    cases reply <;>
      exact ⟨h.keep hmeets rfl fun _ => Nat.le_refl _, hcapped, fun _ => Nat.le_refl _⟩
  | sendChatText url text =>
    cases reply with
    | ok webhookUrl =>
      exact ⟨h.send htime .webhook hmeets, capped_send h htime hcapped hcall,
        fun _ => Nat.le_refl _⟩
    | error e => exact ⟨h.keep hmeets rfl fun _ => Nat.le_refl _, hcapped, fun _ => Nat.le_refl _⟩
  | sendAlertEmail subject text recipients =>
    cases reply with
    | ok webhookUrl =>
      exact ⟨h.send htime .email hmeets, capped_send h htime hcapped hcall,
        fun _ => Nat.le_refl _⟩
    | error e =>
      -- the e-mail is counted, and has not been sent
      exact ⟨h.keep hmeets rfl (Tally.le_add g .email), hcapped, fun _ => Nat.le_refl _⟩
  | updatePolicy lastAlertError webhookSentToday emailSentToday day =>
    obtain ⟨rfl, rfl, rfl, hle⟩ := hcall
    cases reply with
    | ok webhookUrl =>
      refine ⟨h.write (fun channel => ?_) rfl hmeets, hcapped, fun channel => ?_⟩
      · cases channel <;> simp [AlertPolicy.storedOn]
      · by_cases hday : s.day = day
        · rw [hday, h.stored hday]
          refine Nat.le_trans (hle channel) ?_
          cases channel <;> simp [Alerts.perform, AlertPolicy.storedOn]
        · rw [storedOn_of_lt h.dated (Nat.lt_of_le_of_ne h.started (Ne.symm hday))]
          exact Nat.zero_le _
    | error e =>
      refine ⟨⟨hmeets, h.started, h.dated, fun hday channel => ?_, h.sent, h.later⟩, hcapped,
        fun _ => Nat.le_refl _⟩
      obtain ⟨hwebhook, hemail⟩ := htime hday
      cases channel with
      | webhook => exact hwebhook.symm
      | email => exact hemail.symm

end Steps

/-! ## Runs -/

section Runs

variable {t : AlertText} {policy : AlertPolicy} {s : Alerts} {rest : AlertProg Unit}
  {pass today : ℕ}

theorem perform_frame (s : Alerts) (c : AlertCall) (reply : Reply) :
    (s.perform c reply).passes = s.passes ∧ (s.perform c reply).day = s.day ∧
      (s.perform c reply).row.maxPerDay = s.row.maxPerDay := by
  cases c <;> cases reply <;> exact ⟨rfl, rfl, rfl⟩

theorem perform_future (c : AlertCall) (reply : Reply)
    (h : ∀ day channel, s.day < day → s.sentOn day channel = 0) (day : ℕ) (channel : Channel)
    (hday : s.day < day) : (s.perform c reply).sentOn day channel = 0 := by
  have hne : day ≠ s.day := Nat.ne_of_gt hday
  cases c <;> cases reply <;>
    first
    | exact h day channel hday
    | exact (sentOn_send_other fun heq => absurd heq hne).trans (h day channel hday)

theorem goOn_self (pass today : ℕ) (rest : AlertProg Unit) :
    (s.goOn pass today rest).passes pass = Pass.left today rest :=
  update_self ..

theorem goOn_other {pass other : ℕ} (h : other ≠ pass) (today : ℕ) (rest : AlertProg Unit) :
    (s.goOn pass today rest).passes other = s.passes other :=
  update_of_ne h ..

theorem Counting.goOn {g : Tally}
    (hcaps : s.row.maxPerDay = policy.maxPerDay)
    (hsnapshots : ∀ pass snapshot, s.passes pass = some (.evaluating snapshot) →
      snapshot.maxPerDay = policy.maxPerDay)
    (hcapped : s.Capped policy.maxPerDay)
    (hfuture : ∀ day channel, s.day < day → s.sentOn day channel = 0)
    (hothers : ∀ other today rest, other ≠ pass → s.passes other ≠ some (.alerting today rest))
    (h : Sending s policy.maxPerDay today rest g) : Counting (s.goOn pass today rest) policy := by
  have hgone : ∀ other today' rest', (s.goOn pass today rest).passes other =
      some (.alerting today' rest') → other = pass ∧ today' = today ∧ rest' = rest := by
    intro other today' rest' hother
    by_cases hne : other = pass
    · subst hne
      rw [goOn_self] at hother
      cases rest with
      | ret r => cases hother
      | await c k =>
        cases hother
        exact ⟨rfl, rfl, rfl⟩
    · rw [goOn_other hne] at hother
      exact absurd hother (hothers other today' rest' hne)
  refine ⟨hcaps, fun other snapshot hother => ?_, hcapped,
    fun day hday => Nat.le_trans (h.dated day hday) h.started, hfuture,
    fun other other' today' today'' rest' rest'' hother hother' =>
      (hgone _ _ _ hother).1.trans (hgone _ _ _ hother').1.symm,
    fun hquiet channel => ?_, fun other today' rest' hother => ?_⟩
  · by_cases hne : other = pass
    · subst hne
      rw [goOn_self] at hother
      cases rest <;> cases hother
    · rw [goOn_other hne] at hother
      exact hsnapshots other snapshot hother
  · cases rest with
    | ret r =>
      -- the alert has written what it has counted
      have hwritten : g.written = g.counted := h.meets
      by_cases hday : s.day = today
      · subst hday
        show s.sentOn s.day channel ≤ s.row.storedOn s.day channel
        rw [h.stored rfl, hwritten]
        exact h.sent rfl channel
      · show s.sentOn s.day channel ≤ _
        rw [h.later hday]
        exact Nat.zero_le _
    | await c k => exact absurd (goOn_self pass today _) (hquiet pass today (.await c k))
  · obtain ⟨rfl, rfl, rfl⟩ := hgone other today' rest' hother
    exact ⟨g, h.meets, h.started, h.dated, h.stored, h.sent, h.later⟩

theorem fire_of_not {newViolationCount deviceCount today : ℕ}
    (h : ¬(policy.alertOnViolation ∧ 1 ≤ newViolationCount ∧
      (policy.alertViaWebhook ∨ policy.alertViaEmail))) :
    firePolicyViolationAlert t policy newViolationCount deviceCount today = .ret (.ok ()) := by
  unfold firePolicyViolationAlert
  split
  · rfl
  split
  · rfl
  · next hoff hnone =>
    refine absurd ?_ h
    simp only [Bool.or_eq_true, Bool.not_eq_true', decide_eq_true_eq, not_or, Bool.and_eq_true,
      not_and_or, Bool.not_eq_false, Nat.not_lt] at hoff hnone
    exact ⟨hoff.1, hoff.2, hnone⟩

theorem alerting_of_load {passes : ℕ → Option Pass} {row : AlertPolicy} {pass other today : ℕ}
    (h : update passes pass (some (.evaluating row)) other =
      some (.alerting today rest)) : passes other = some (.alerting today rest) := by
  by_cases hne : other = pass
  · subst hne
    rw [update_self] at h
    cases h
  · rwa [update_of_ne hne] at h

theorem Counting.ends {snapshot : AlertPolicy} (h : Counting s policy)
    (hpass : s.passes pass = some (.evaluating snapshot)) :
    Counting (s.goOn pass today (.ret (.ok ()))) policy := by
  have hback : ∀ other p, (s.goOn pass today (.ret (.ok ()))).passes other = some p →
      s.passes other = some p := by
    intro other p hother
    by_cases hne : other = pass
    · subst hne
      rw [goOn_self] at hother
      cases hother
    · rwa [goOn_other hne] at hother
  refine ⟨h.caps, fun other snapshot hother => h.snapshots other snapshot (hback _ _ hother),
    h.capped, h.dated, h.future, fun other other' today today' rest rest' hother hother' =>
      h.single other other' today today' rest rest' (hback _ _ hother) (hback _ _ hother'),
    fun hquiet => h.quiet fun other today' rest hother => hquiet other today' rest ?_,
    fun other today' rest hother => ?_⟩
  · have hne : other ≠ pass := by
      rintro rfl
      cases hother.symm.trans hpass
    rw [goOn_other hne]
    exact hother
  · obtain ⟨g, hg⟩ := h.sending other today' rest (hback _ _ hother)
    exact ⟨g, hg.meets, hg.started, hg.dated, hg.stored, hg.sent, hg.later⟩

/-- What a timely step keeps, and that the counters of the day do not decrease. -/
theorem counting_step (h : Counting s policy) {e : Event} (htimely : Timely s e) :
    Counting (s.step t e) policy ∧ ((s.step t e).day = s.day → ∀ channel,
      s.row.storedOn s.day channel ≤ (s.step t e).row.storedOn s.day channel) := by
  cases e with
  | load pass =>
    rw [Alerts.step]
    cases hpass : s.passes pass with
    | some _ => exact ⟨h, fun _ _ => Nat.le_refl _⟩
    | none =>
      dsimp only
      refine ⟨⟨h.caps, fun other snapshot hother => ?_, h.capped, h.dated, h.future, ?_, ?_, ?_⟩,
        fun _ _ => Nat.le_refl _⟩
      · dsimp only at hother
        by_cases hne : other = pass
        · subst hne
          rw [update_self] at hother
          cases hother
          exact h.caps
        · rw [update_of_ne hne] at hother
          exact h.snapshots other snapshot hother
      · intro other other' today today' rest rest' hother hother'
        exact h.single other other' today today' rest rest' (alerting_of_load hother)
          (alerting_of_load hother')
      · intro hquiet
        refine h.quiet fun other today rest hother => hquiet other today rest ?_
        have hne : other ≠ pass := by
          rintro rfl
          cases hother.symm.trans hpass
        exact (update_of_ne hne ..).trans hother
      · intro other today rest hother
        obtain ⟨g, hg⟩ := h.sending other today rest (alerting_of_load hother)
        exact ⟨g, hg.meets, hg.started, hg.dated, hg.stored, hg.sent, hg.later⟩
  | alert pass newViolationCount deviceCount =>
    rw [Alerts.step]
    cases hpass : s.passes pass with
    | none => exact ⟨h, fun _ _ => Nat.le_refl _⟩
    | some p =>
      cases p with
      | alerting today rest => exact ⟨h, fun _ _ => Nat.le_refl _⟩
      | evaluating snapshot =>
        dsimp only
        refine ⟨?_, fun _ _ => Nat.le_refl _⟩
        have hcaps := h.snapshots pass snapshot hpass
        by_cases hfires : snapshot.alertOnViolation ∧ 1 ≤ newViolationCount ∧
            (snapshot.alertViaWebhook ∨ snapshot.alertViaEmail)
        · obtain ⟨halone, hstored⟩ := htimely snapshot hpass hfires.1 hfires.2.1 hfires.2.2
          refine Counting.goOn h.caps h.snapshots h.capped h.future
            (fun other today rest _ => halone other today rest)
            (g := ⟨snapshot.storedOn s.day, snapshot.storedOn s.day⟩)
            ⟨hcaps ▸ meets_firePolicyViolationAlert, Nat.le_refl _, h.dated,
              fun _ channel => (hstored channel).symm, fun _ channel => ?_,
              fun hne => absurd rfl hne⟩
          show s.sentOn s.day channel ≤ snapshot.storedOn s.day channel
          rw [hstored channel]
          exact h.quiet halone channel
        · rw [fire_of_not hfires]
          exact h.ends hpass
  | answer pass reply =>
    rw [Alerts.step]
    cases hpass : s.passes pass with
    | none => exact ⟨h, fun _ _ => Nat.le_refl _⟩
    | some p =>
      cases p with
      | evaluating snapshot => exact ⟨h, fun _ _ => Nat.le_refl _⟩
      | alerting today rest =>
        cases rest with
        | ret r => exact ⟨h, fun _ _ => Nat.le_refl _⟩
        | await c k =>
          obtain ⟨g, hg⟩ := h.sending pass today _ hpass
          obtain ⟨hsending, hcapped, hmono⟩ := hg.perform h.capped hpass htimely
          obtain ⟨hpasses, hday, hcaps⟩ := perform_frame s c reply
          refine ⟨Counting.goOn (hcaps.trans h.caps) ?_ hcapped ?_ ?_ hsending, fun _ => hmono⟩
          · rw [hpasses]
            exact h.snapshots
          · rw [hday]
            exact perform_future c reply h.future
          · rw [hpasses]
            intro other today' rest' hne hother
            exact hne (h.single other pass today' today rest' _ hother hpass)
  | midnight =>
    refine ⟨⟨h.caps, h.snapshots, h.capped, fun day hday => Nat.le_succ_of_le (h.dated day hday),
      fun day channel hday => h.future day channel (Nat.lt_of_succ_lt hday), h.single,
      fun _ channel => ?_, fun pass today rest hpass => ?_⟩,
      fun hday => absurd hday (Nat.succ_ne_self _)⟩
    · show s.sentOn (s.day + 1) channel ≤ _
      rw [h.future _ channel (Nat.lt_succ_self _)]
      exact Nat.zero_le _
    · obtain ⟨g, hg⟩ := h.sending pass today rest hpass
      refine ⟨g, hg.meets, Nat.le_succ_of_le hg.started, hg.dated, fun hday => ?_, fun hday => ?_,
        fun _ channel => h.future _ channel (Nat.lt_succ_self _)⟩
      · exact absurd (hday ▸ hg.started) (Nat.not_succ_le_self _)
      · exact absurd (hday ▸ hg.started) (Nat.not_succ_le_self _)

theorem counting_start (day : ℕ) : Counting (.start policy day) policy where
  caps := by
    funext channel
    cases channel <;> rfl
  snapshots _ _ h := by cases h
  capped _ _ _ _ := Nat.zero_le _
  dated _ h := by cases h
  future _ _ _ := rfl
  single _ _ _ _ _ _ h := by cases h
  quiet _ _ := Nat.zero_le _
  sending _ _ _ h := by cases h

theorem run_append (pre more : List Event) : s.run t (pre ++ more) = (s.run t pre).run t more :=
  List.foldl_append

theorem day_le_step (e : Event) : s.day ≤ (s.step t e).day := by
  cases e with
  | load pass =>
    rw [Alerts.step]
    split <;> exact Nat.le_refl _
  | alert pass newViolationCount deviceCount =>
    rw [Alerts.step]
    split <;> exact Nat.le_refl _
  | answer pass reply =>
    rw [Alerts.step]
    split
    · next today c k hpass => exact Nat.le_of_eq (perform_frame s c reply).2.1.symm
    · exact Nat.le_refl _
  | midnight => exact Nat.le_succ _

theorem day_le_run (events : List Event) : s.day ≤ (s.run t events).day := by
  induction events generalizing s with
  | nil => exact Nat.le_refl _
  | cons e events ih => exact Nat.le_trans (day_le_step e) ih

theorem counting_run (h : Counting s policy) {events : List Event}
    (htimely : AllTimely t s events) :
    Counting (s.run t events) policy ∧ ((s.run t events).day = s.day → ∀ channel,
      s.row.storedOn s.day channel ≤ (s.run t events).row.storedOn s.day channel) := by
  induction events generalizing s with
  | nil => exact ⟨h, fun _ _ => Nat.le_refl _⟩
  | cons e events ih =>
    obtain ⟨hstep, hmono⟩ := counting_step (t := t) h htimely.1
    obtain ⟨hrun, hmono'⟩ := ih hstep htimely.2
    refine ⟨hrun, fun hday channel => ?_⟩
    -- the day is the same all along
    have hmid : (s.step t e).day = s.day :=
      Nat.le_antisymm (hday ▸ day_le_run events) (day_le_step e)
    exact Nat.le_trans (hmono hmid channel) (hmid ▸ hmono' (hday.trans hmid.symm) channel)

theorem allTimely_append {pre more : List Event} (h : AllTimely t s (pre ++ more)) :
    AllTimely t s pre ∧ AllTimely t (s.run t pre) more := by
  induction pre generalizing s with
  | nil => exact ⟨trivial, h⟩
  | cons e pre ih =>
    obtain ⟨hpre, hmore⟩ := ih h.2
    exact ⟨⟨h.1, hpre⟩, hmore⟩

end Runs

/-- In every run of timely steps the alerts sent on a day stay within the caps of the policy,
and its counters do not decrease within a day. -/
theorem alerts_capped (t : AlertText) (policy : AlertPolicy) (day : ℕ) (pre more : List Event)
    (htimely : AllTimely t (.start policy day) (pre ++ more)) :
    ((Alerts.start policy day).run t (pre ++ more)).Capped policy.maxPerDay ∧
    (((Alerts.start policy day).run t (pre ++ more)).day =
        ((Alerts.start policy day).run t pre).day → ∀ channel,
      ((Alerts.start policy day).run t pre).row.storedOn
          ((Alerts.start policy day).run t pre).day channel ≤
        ((Alerts.start policy day).run t (pre ++ more)).row.storedOn
          ((Alerts.start policy day).run t pre).day channel) := by
  obtain ⟨hpre, hmore⟩ := allTimely_append htimely
  have hcounting := (counting_run (counting_start day) hpre).1
  obtain ⟨hrun, hmono⟩ := counting_run hcounting hmore
  rw [run_append]
  exact ⟨hrun.capped, hmono⟩

/-! ## Passes that overlap -/

/-- Texts without blanks at their ends, and days by their numbers. -/
def plainText : AlertText where
  trim := id
  isoDate := toString

/-- A policy with a webhook, and one alert a day. -/
def oncePolicy : AlertPolicy where
  id := "p"
  name := "Disk encryption"
  alertOnViolation := true
  alertViaWebhook := true
  alertViaEmail := false
  alertWebhookUrl := some "https://hooks.example"
  alertWebhookMaxPerDay := some 1

theorem alerts_capped_once :
    ((Alerts.start oncePolicy 5).run plainText
      [.load 0, .alert 0 1 1, .answer 0 (.ok none), .answer 0 (.ok none)]).Capped
        oncePolicy.maxPerDay := by
  refine (alerts_capped plainText oncePolicy 5
    [.load 0, .alert 0 1 1, .answer 0 (.ok none), .answer 0 (.ok none)] [] ?_).1
  refine ⟨trivial, ?_, ?_, ?_, trivial⟩
  · rintro snapshot ⟨⟩ - - -
    refine ⟨fun other today rest => ?_, fun channel => rfl⟩
    by_cases h : other = 0
    · subst h
      exact fun hother => (by cases hother)
    · exact fun hother => (by cases (update_of_ne h ..).symm.trans hother)
  · rintro today c k ⟨⟩
    rfl
  · rintro today c k ⟨⟩
    trivial

/-- Two passes that have read the policy before either of them alerts: it has sent two alerts on
a day for which its cap is one. And where the later one cannot reach the webhook, the
counter of the day goes back. -/
theorem overlap_exceeds :
    ((Alerts.start oncePolicy 5).run plainText
      [.load 0, .load 1, .alert 0 1 1, .answer 0 (.ok none), .answer 0 (.ok none),
        .alert 1 1 1, .answer 1 (.ok none), .answer 1 (.ok none)]).sentOn 5 .webhook = 2 ∧
    ((Alerts.start oncePolicy 5).run plainText
      [.load 0, .load 1, .alert 0 1 1, .answer 0 (.ok none), .answer 0 (.ok none)]).row.storedOn
        5 .webhook = 1 ∧
    ((Alerts.start oncePolicy 5).run plainText
      [.load 0, .load 1, .alert 0 1 1, .answer 0 (.ok none), .answer 0 (.ok none),
        .alert 1 1 1, .answer 1 (.error "timeout"), .answer 1 (.ok none)]).row.storedOn
        5 .webhook = 0 := by
  decide +kernel

end AppliverySoar.Compliance.Alerting
