import AppliverySoar.SystemHealth.Jobs

/-!
# Alerts and the health of a job

The health of a job is read off its heartbeats alone: it is unhealthy if there is none, if
the last one is too old, or if the last three failed. The tick judges by the row instead,
which it creates itself, with the time of creation as its last heartbeat, when it alerts
for a job without one.

Results:
* `alerts_alternate`: triggers and resolves of a job alternate, in every run.
* `alerts_sound`: where a tick triggers a job only if no heartbeat has come since it read
  the rows, and marks it only where it has a row, its alerts are the edges of its health,
  and it is not resolved without a heartbeat after the trigger.
* `never_ran_recovers`: a job that never ran is resolved.
-/

namespace AppliverySoar.SystemHealth

open List Option

/-! ## Specification -/

/-- The heartbeats of a job, the newest first. -/
def beats (key : String) : List Note → List (HeartbeatStatus × ℕ)
  | [] => []
  | .heartbeat jobKey status now :: log =>
    if jobKey = key then (status, now) :: beats key log else beats key log
  | .read :: log => beats key log
  | .examined _ _ _ :: log => beats key log

/-- How many of them have failed in a row. -/
def errorStreak : List (HeartbeatStatus × ℕ) → ℕ
  | [] => 0
  | (.ok, _) :: _ => 0
  | (.error, _) :: bs => errorStreak bs + 1

/-- The health of a job with these heartbeats. -/
def unhealthy (job : SystemHealthJobMeta) (bs : List (HeartbeatStatus × ℕ)) (now : ℕ) : Bool :=
  isOverdue job.intervalSeconds (bs.head?.map Prod.snd) now || errorStreak bs ≥ 3

/-- What had happened when the last tick read the rows. -/
def beforeRead : List Note → List Note
  | [] => []
  | .read :: log => log
  | .heartbeat _ _ _ :: log => beforeRead log
  | .examined _ _ _ :: log => beforeRead log

/-- The alerts for a job, the newest first. -/
def alerts (key : String) : List Note → List AlertAction
  | [] => []
  | .examined jobKey _ (some a) :: log =>
    if jobKey = key then a.action :: alerts key log else alerts key log
  | .examined _ _ none :: log => alerts key log
  | .heartbeat _ _ _ :: log => alerts key log
  | .read :: log => alerts key log

/-- A resolve after each trigger, and a trigger first or after each resolve. -/
def Alternates : List AlertAction → Prop
  | [] => True
  | a :: as => (a = .resolve ↔ as.head? = some .trigger) ∧ Alternates as

/-- A heartbeat of a job has come since the last alert for it. -/
def heardSince (key : String) : List Note → Bool
  | [] => false
  | .heartbeat jobKey _ _ :: log => jobKey = key || heardSince key log
  | .examined jobKey _ (some _) :: log => jobKey ≠ key && heardSince key log
  | .examined _ _ none :: log => heardSince key log
  | .read :: log => heardSince key log

/-- The health of a job when it was last examined, by the heartbeats that had come when the
tick read the rows. -/
def wasUnhealthy (job : SystemHealthJobMeta) : List Note → Bool
  | [] => false
  | .examined jobKey now _ :: log =>
    if jobKey = job.key then unhealthy job (beats job.key (beforeRead log)) now
    else wasUnhealthy job log
  | .heartbeat _ _ _ :: log => wasUnhealthy job log
  | .read :: log => wasUnhealthy job log

/-- The alert that a change of health calls for. -/
def edge : Bool → Bool → Option AlertAction
  | false, true => some .trigger
  | true, false => some .resolve
  | _, _ => none

/-- Each examination of the job alerts if and only if its health has changed since the one
before, and resolves only if a heartbeat has come since the trigger. -/
def Sound (job : SystemHealthJobMeta) : List Note → Prop
  | [] => True
  | .examined jobKey now alert :: log =>
    (jobKey = job.key →
      alert.map Alert.action =
        edge (wasUnhealthy job log) (unhealthy job (beats job.key (beforeRead log)) now) ∧
      (alert.map Alert.action = some .resolve → heardSince job.key log = true)) ∧
    Sound job log
  | .heartbeat _ _ _ :: log => Sound job log
  | .read :: log => Sound job log

/-- The alerts of a job alternate, they are the edges of its health, and none resolves without
a heartbeat. -/
structure Announced (job : SystemHealthJobMeta) (log : List Note) : Prop where
  alternates : Alternates (alerts job.key log)
  sound : Sound job log

instance decidableSound (job : SystemHealthJobMeta) : (log : List Note) → Decidable (Sound job log)
  | [] => isTrue trivial
  | .examined _ _ _ :: log =>
    have := decidableSound job log
    inferInstanceAs (Decidable (_ ∧ _))
  | .heartbeat _ _ _ :: log => decidableSound job log
  | .read :: log => decidableSound job log

/-- A step that keeps the rows and the heartbeats of a job together: it triggers the job
only if no heartbeat has come since the rows were read, and marks it as triggered only
where it has a row. -/
def Timely (job : SystemHealthJobMeta) (s : Monitor) (e : Event) (now : ℕ) : Prop :=
  match e, s.tick with
  | .examine, some ⟨byKey, job' :: _, none⟩ => job' = job →
    (alertFor job (byKey job.key) now).map Alert.action = some .trigger →
    beats job.key s.log = beats job.key (beforeRead s.log)
  | .write, some ⟨_, _, some (jobKey, .trigger)⟩ => jobKey = job.key → s.rows job.key ≠ none
  | _, _ => True

/-! ## The log -/

section Log

variable {job : SystemHealthJobMeta} {key : String} {log : List Note} {now : ℕ}

variable {jobKey : String} {alert : Option Alert} {jobKey : String}

@[simp] theorem alerts_read : alerts key (.read :: log) = alerts key log := rfl

@[simp] theorem alerts_heartbeat {status : HeartbeatStatus} :
    alerts key (.heartbeat jobKey status now :: log) = alerts key log := rfl

theorem alerts_examined :
    alerts key (.examined jobKey now alert :: log) =
      (if jobKey = key then (alert.map Alert.action).toList else []) ++ alerts key log := by
  cases alert with
  | none => simp [alerts]
  | some a => by_cases h : jobKey = key <;> simp [alerts, h]

@[simp] theorem beats_examined :
    beats key (.examined jobKey now alert :: log) = beats key log := rfl

/-- The job has not been examined since the rows were read. -/
def Unexamined (key : String) : List Note → Prop
  | [] => True
  | .read :: _ => True
  | .examined jobKey _ _ :: log => jobKey ≠ key ∧ Unexamined key log
  | .heartbeat _ _ _ :: log => Unexamined key log

/-- Without a heartbeat since the last alert, all heartbeats were there when the rows were
read. -/
theorem beats_beforeRead (hnot : Unexamined key log) (hquiet : heardSince key log = false) :
    beats key (beforeRead log) = beats key log := by
  induction log with
  | nil => rfl
  | cons n log ih =>
    cases n with
    | read => rfl
    | heartbeat jobKey status at_ =>
      simp only [heardSince, Bool.or_eq_false_iff, decide_eq_false_iff_not] at hquiet
      rw [beats, if_neg hquiet.1]
      exact ih hnot hquiet.2
    | examined jobKey at_ alert =>
      refine ih hnot.2 ?_
      cases alert with
      | none => exact hquiet
      | some a => simpa [heardSince, hnot.1] using hquiet

variable {bs : List (HeartbeatStatus × ℕ)} {rows : Rows}

theorem unhealthy_mono {now' : ℕ}
    (h : unhealthy job bs now = true) (hle : now ≤ now') : unhealthy job bs now' = true := by
  unfold unhealthy isOverdue at h ⊢
  cases bs with
  | nil => rfl
  | cons b bs =>
    simp only [head?_cons, map_some, Bool.or_eq_true, decide_eq_true_eq] at h ⊢
    omega

/-- A row tells the last heartbeat and the errors in a row. -/
def Summary (entry : Option SystemHealthJob) (bs : List (HeartbeatStatus × ℕ)) : Prop :=
  entry.map (fun row => (row.lastHeartbeatAt, row.consecutiveErrors)) =
    bs.head?.map fun b => (b.2, errorStreak bs)

theorem isUnhealthy_of_summary {entry : Option SystemHealthJob}
    (h : Summary entry bs) : isUnhealthy job entry now = unhealthy job bs now := by
  unfold Summary at h
  unfold isUnhealthy unhealthy
  cases entry with
  | none =>
    cases bs with
    | nil => rfl
    | cons b bs => cases h
  | some row =>
    cases bs with
    | nil => cases h
    | cons b bs =>
      obtain ⟨hlast, herrors⟩ := Prod.mk.inj (some.inj h)
      simp only [map_some, getD_some, head?_cons, hlast, herrors]

theorem summary_recordJobHeartbeat
    (h : Summary (rows key) (beats key log)) (status : HeartbeatStatus) (detail : Option String) :
    Summary (recordJobHeartbeat jobKey status detail now rows key)
      (beats key (.heartbeat jobKey status now :: log)) := by
  by_cases hkey : jobKey = key
  · subst hkey
    unfold Summary at h ⊢
    unfold recordJobHeartbeat
    rw [beats, if_pos rfl, Function.update_self]
    cases hrow : rows jobKey with
    | none =>
      rw [hrow] at h
      have hnone : beats jobKey log = [] :=
        head?_eq_none_iff.mp (map_eq_none_iff.mp h.symm)
      cases status <;> simp [hnone, errorStreak]
    | some row =>
      rw [hrow] at h
      cases hb : beats jobKey log with
      | nil => rw [hb] at h; cases h
      | cons b bs =>
        rw [hb] at h
        have herrors := (Prod.mk.inj (some.inj h)).2
        cases status <;> simp [errorStreak, herrors]
  · rw [beats, if_neg hkey, recordJobHeartbeat_other (Ne.symm hkey)]
    exact h

/-- The writes of a tick keep what a row tells, unless they create it. -/
theorem summary_writeAlerted {action : AlertAction} (h : Summary (rows key) bs)
    (hrow : action = .trigger → jobKey = key → rows key ≠ none) :
    Summary (writeAlerted jobKey action now rows key) bs := by
  by_cases hkey : key = jobKey
  · subst hkey
    unfold Summary at h ⊢
    unfold writeAlerted
    cases action with
    | trigger =>
      obtain ⟨row, hsome⟩ := Option.ne_none_iff_exists'.mp (hrow rfl rfl)
      rw [hsome] at h
      simp only [Function.update_self, hsome]
      exact h
    | resolve =>
      simp only [Function.update_self, Option.map_map]
      exact h
  · rw [writeAlerted_other hkey]
    exact h

end Log

/-! ## The mark of an alert -/

theorem systemHealthJobs_nodup : (systemHealthJobs.map SystemHealthJobMeta.key).Nodup := by
  decide

theorem job_of_key {job job' : SystemHealthJobMeta} (h : job ∈ systemHealthJobs)
    (h' : job' ∈ systemHealthJobs) (hkey : job'.key = job.key) : job' = job :=
  inj_on_of_nodup_map systemHealthJobs_nodup h' h hkey

/-- What the tick and the rows know of the alerts for a job. The mark of the row says whether
the last alert is a trigger, unless it is still to be written; a job still to come has
not been examined, and its row as it was read has the mark of its row. -/
structure Marked (job : SystemHealthJobMeta) (s : Monitor) : Prop where
  alternates : Alternates (alerts job.key s.log)
  jobs : ∀ t, s.tick = some t → t.jobs <:+ systemHealthJobs
  stamped : (∀ t action, s.tick = some t → t.write ≠ some (job.key, action)) →
    (wasAlerted (s.rows job.key) = true ↔ (alerts job.key s.log).head? = some .trigger)
  written : ∀ t action, s.tick = some t → t.write = some (job.key, action) →
    (alerts job.key s.log).head? = some action
  pending : ∀ t, s.tick = some t → job ∈ t.jobs →
    (∀ action, t.write ≠ some (job.key, action)) ∧ Unexamined job.key s.log ∧
    wasAlerted (t.byKey job.key) = wasAlerted (s.rows job.key)

variable {job : SystemHealthJobMeta} {s : Monitor}

theorem Marked.read_mark (h : Marked job s) {t : Tick}
    (ht : s.tick = some t) (hjob : job ∈ t.jobs) :
    wasAlerted (t.byKey job.key) = true ↔ (alerts job.key s.log).head? = some .trigger := by
  obtain ⟨hwrite, -, hbyKey⟩ := h.pending t ht hjob
  rw [hbyKey]
  refine h.stamped fun t' action ht' => ?_
  rw [some.inj (ht'.symm.trans ht)]
  exact hwrite action

theorem alternates_cons {key : String} {log : List Note}
    {entry : Option SystemHealthJob} {now : ℕ} {a : Alert}
    (halert : alertFor job entry now = some a)
    (hmark : wasAlerted entry = true ↔ (alerts key log).head? = some .trigger)
    (h : Alternates (alerts key log)) : Alternates (a.action :: alerts key log) := by
  refine ⟨?_, h⟩
  rw [← hmark]
  rcases alertFor_action halert with ⟨haction, -, hwas⟩ | ⟨haction, -, hwas⟩
  · simp [haction, hwas]
  · simp [haction, hwas]

section Step

variable {job : SystemHealthJobMeta} {s s' : Monitor} {e : Event} {now : ℕ}

theorem Marked.examined (h : Marked job s) {byKey : Rows} {jobs : List SystemHealthJobMeta}
    (htick : s.tick = some ⟨byKey, job :: jobs, none⟩) :
    Marked job ⟨s.rows, some ⟨byKey, jobs,
        (alertFor job (byKey job.key) now).map fun a => (job.key, a.action)⟩, now,
      .examined job.key now (alertFor job (byKey job.key) now) :: s.log⟩ := by
  have hmark := h.read_mark htick mem_cons_self
  have hsuffix : job :: jobs <:+ systemHealthJobs := h.jobs _ htick
  have hnotin : job ∉ jobs :=
    (nodup_cons.mp (systemHealthJobs_nodup.of_map.sublist hsuffix.sublist)).1
  have hjobs : jobs <:+ systemHealthJobs := (suffix_cons job jobs).trans hsuffix
  cases halert : alertFor job (byKey job.key) now with
  | none =>
    refine ⟨?_, ?_, fun _ => ?_, ?_, ?_⟩
    · simpa [alerts_examined] using h.alternates
    · rintro t ⟨⟩
      exact hjobs
    · dsimp only
      rw [alerts_examined, map_none, toList_none, ite_self, nil_append]
      exact h.stamped fun t action ht => by simp [some.inj (ht.symm.trans htick)]
    · rintro t action ⟨⟩ hwrite
      cases hwrite
    · rintro t ⟨⟩ hmem
      exact absurd hmem hnotin
  | some a =>
    have halerts : alerts job.key (.examined job.key now (some a) :: s.log) =
        a.action :: alerts job.key s.log := by simp [alerts_examined]
    refine ⟨?_, ?_, fun hwrite => absurd rfl (hwrite _ a.action rfl), ?_, ?_⟩
    · rw [halerts]
      exact alternates_cons halert hmark h.alternates
    · rintro t ⟨⟩
      exact hjobs
    · rintro t action ⟨⟩ hwrite
      rw [halerts, ← (Prod.mk.inj (some.inj hwrite)).2]
      rfl
    · rintro t ⟨⟩ hmem
      exact absurd hmem hnotin

theorem marked_step (hjob : job ∈ systemHealthJobs) (h : Marked job s)
    (hstep : s.step e now = some s') : Marked job s' := by
  obtain ⟨-, hcases⟩ := Monitor.step_cases hstep
  rcases hcases with ⟨jobKey, status, detail, -, rfl⟩ | ⟨-, htick, rfl⟩ |
    ⟨byKey, job', jobs, -, htick, rfl⟩ | ⟨byKey, jobs, jobKey, action, -, htick, rfl⟩ |
    ⟨byKey, -, htick, rfl⟩
  · refine ⟨h.alternates, h.jobs, ?_, h.written, ?_⟩
    · rw [wasAlerted_recordJobHeartbeat]
      exact h.stamped
    · rw [wasAlerted_recordJobHeartbeat]
      exact h.pending
  · refine ⟨h.alternates, ?_, fun _ => ?_, ?_, ?_⟩
    · rintro t ⟨⟩
      exact suffix_rfl
    · exact h.stamped fun t action ht => by rw [htick] at ht; cases ht
    · rintro t action ⟨⟩ hwrite
      cases hwrite
    · rintro t ⟨⟩ -
      exact ⟨fun _ hwrite => (by cases hwrite), trivial, rfl⟩
  · by_cases hkey : job'.key = job.key
    · have hmem : job' ∈ systemHealthJobs := (h.jobs _ htick).subset mem_cons_self
      obtain rfl := job_of_key hjob hmem hkey
      exact h.examined htick
    · have halerts : alerts job.key (.examined job'.key now (alertFor job' (byKey job'.key) now) ::
          s.log) = alerts job.key s.log := by simp [alerts_examined, hkey]
      refine ⟨?_, ?_, fun _ => ?_, ?_, ?_⟩
      · rw [halerts]
        exact h.alternates
      · rintro t ⟨⟩
        exact (suffix_cons job' jobs).trans (h.jobs _ htick)
      · rw [halerts]
        exact h.stamped fun t action ht => by simp [some.inj (ht.symm.trans htick)]
      · rintro t action ⟨⟩ hwrite
        obtain ⟨a, -, ha⟩ := map_eq_some_iff.mp hwrite
        exact absurd (Prod.mk.inj ha).1 hkey
      · rintro t ⟨⟩ hmem
        obtain ⟨-, hun, hbyKey⟩ := h.pending _ htick (mem_cons_of_mem job' hmem)
        refine ⟨fun action hwrite => ?_, ⟨hkey, hun⟩, hbyKey⟩
        obtain ⟨a, -, ha⟩ := map_eq_some_iff.mp hwrite
        exact hkey (Prod.mk.inj ha).1
  · refine ⟨h.alternates, ?_, fun _ => ?_, ?_, ?_⟩
    · rintro t ⟨⟩
      exact h.jobs ⟨byKey, jobs, some (jobKey, action)⟩ htick
    · dsimp only
      by_cases hkey : job.key = jobKey
      · subst hkey
        rw [wasAlerted_writeAlerted, h.written _ action htick rfl]
        simp
      · rw [writeAlerted_other hkey]
        refine h.stamped fun t action' ht => ?_
        rw [some.inj (ht.symm.trans htick)]
        exact fun hwrite => hkey (Prod.mk.inj (some.inj hwrite)).1.symm
    · rintro t action' ⟨⟩ hwrite
      cases hwrite
    · rintro t ⟨⟩ hmem
      obtain ⟨hwrite, hun, hbyKey⟩ := h.pending _ htick hmem
      have hkey : job.key ≠ jobKey := fun hkey => hwrite action (by rw [hkey])
      refine ⟨fun _ hw => (by cases hw), hun, ?_⟩
      dsimp only
      rw [writeAlerted_other hkey]
      exact hbyKey
  · refine ⟨h.alternates, ?_, fun _ => ?_, ?_, ?_⟩
    · rintro t ht
      cases ht
    · exact h.stamped fun t action ht => by simp [some.inj (ht.symm.trans htick)]
    · rintro t action ht
      cases ht
    · rintro t ht
      cases ht

end Step

theorem marked_start (job : SystemHealthJobMeta) : Marked job Monitor.start := by
  refine ⟨trivial, ?_, fun _ => by simp [Monitor.start, wasAlerted, alerts], ?_, ?_⟩
  · rintro t ht
    cases ht
  · rintro t action ht
    cases ht
  · rintro t ht
    cases ht

variable {ok : Monitor → Event → ℕ → Prop}

theorem marked_run
    (hjob : job ∈ systemHealthJobs) (h : Reaches ok s) : Marked job s := by
  induction h with
  | start => exact marked_start job
  | step _ _ _ _ hstep ih => exact marked_step hjob ih hstep

/-- Triggers and resolves of a job alternate, whatever happens. -/
theorem alerts_alternate (hjob : job ∈ systemHealthJobs) (h : Reaches ok s) :
    Alternates (alerts job.key s.log) :=
  (marked_run hjob h).alternates

/-! ## The health of the job -/

/-- What the rows and the log know of the heartbeats of a job. -/
structure Watched (job : SystemHealthJobMeta) (s : Monitor) : Prop where
  row : Summary (s.rows job.key) (beats job.key s.log)
  byKey : ∀ t, s.tick = some t →
    Summary (t.byKey job.key) (beats job.key (beforeRead s.log))
  verdict : wasUnhealthy job s.log = true ↔ (alerts job.key s.log).head? = some .trigger
  still : (alerts job.key s.log).head? = some .trigger → heardSince job.key s.log = false →
    ∀ now, s.clock ≤ now → unhealthy job (beats job.key s.log) now = true
  sound : Sound job s.log

section Step

variable {job : SystemHealthJobMeta} {s s' : Monitor} {e : Event} {now : ℕ}

theorem edge_self (b : Bool) : edge b b = none := by
  cases b <;> rfl

theorem Watched.examined (h : Watched job s) (hmarked : Marked job s) {byKey : Rows}
    {jobs : List SystemHealthJobMeta} (htick : s.tick = some ⟨byKey, job :: jobs, none⟩)
    (hle : s.clock ≤ now)
    (htimely : (alertFor job (byKey job.key) now).map Alert.action = some .trigger →
      beats job.key s.log = beats job.key (beforeRead s.log)) :
    Watched job ⟨s.rows, some ⟨byKey, jobs,
        (alertFor job (byKey job.key) now).map fun a => (job.key, a.action)⟩, now,
      .examined job.key now (alertFor job (byKey job.key) now) :: s.log⟩ := by
  have hmark := hmarked.read_mark htick mem_cons_self
  have hhealth : isUnhealthy job (byKey job.key) now =
      unhealthy job (beats job.key (beforeRead s.log)) now :=
    isUnhealthy_of_summary (h.byKey _ htick)
  have hwas : wasUnhealthy job s.log = wasAlerted (byKey job.key) :=
    Bool.eq_iff_iff.mpr (h.verdict.trans hmark.symm)
  have hnow : ∀ alert, wasUnhealthy job (.examined job.key now alert :: s.log) =
      unhealthy job (beats job.key (beforeRead s.log)) now := fun alert => by
    rw [wasUnhealthy, if_pos rfl]
  have hbyKey : ∀ t, some (⟨byKey, jobs, (alertFor job (byKey job.key) now).map
      fun a => (job.key, a.action)⟩ : Tick) = some t →
      Summary (t.byKey job.key) (beats job.key (beforeRead s.log)) := by
    rintro t ⟨⟩
    exact h.byKey ⟨byKey, job :: jobs, none⟩ htick
  cases halert : alertFor job (byKey job.key) now with
  | none =>
    have hsame := alertFor_none halert
    refine ⟨h.row, halert ▸ hbyKey, ?_, ?_, ?_, h.sound⟩
    · rw [hnow, ← hhealth, hsame]
      simpa [alerts_examined] using hmark
    · intro htrigger hquiet now' hle'
      rw [alerts_examined] at htrigger
      exact h.still (by simpa using htrigger) hquiet now' (Nat.le_trans hle hle')
    · refine fun _ => ⟨?_, fun hresolve => by cases hresolve⟩
      rw [hwas, ← hhealth, hsame, edge_self]
      rfl
  | some a =>
    have halerts : alerts job.key (.examined job.key now (some a) :: s.log) =
        a.action :: alerts job.key s.log := by simp [alerts_examined]
    rw [halert] at htimely
    rcases alertFor_action halert with ⟨haction, hun, hwasNot⟩ | ⟨haction, hun, hwasIs⟩
    · have hall := htimely (congrArg some haction)
      refine ⟨h.row, halert ▸ hbyKey, ?_, ?_, ?_, h.sound⟩
      · rw [hnow, ← hhealth, hun, halerts, haction]
        simp
      · intro _ _ now' hle'
        rw [beats_examined, hall]
        exact unhealthy_mono (hhealth.symm.trans hun) hle'
      · refine fun _ => ⟨?_, fun hresolve => ?_⟩
        · rw [hwas, ← hhealth, hun, hwasNot]
          exact congrArg some haction
        · rw [map_some, haction] at hresolve
          cases hresolve
    · refine ⟨h.row, halert ▸ hbyKey, ?_, ?_, ?_, h.sound⟩
      · rw [hnow, ← hhealth, hun, halerts, haction]
        simp
      · intro htrigger
        rw [halerts, haction] at htrigger
        cases htrigger
      · refine fun _ => ⟨?_, fun _ => ?_⟩
        · rw [hwas, ← hhealth, hun, hwasIs]
          exact congrArg some haction
        · -- without a heartbeat, the job would still be unhealthy
          obtain ⟨-, hunexamined, -⟩ := hmarked.pending _ htick mem_cons_self
          by_contra hheard
          have hquiet := Bool.eq_false_iff.mpr hheard
          have hstill := h.still (hmark.mp hwasIs) hquiet now hle
          rw [← beats_beforeRead hunexamined hquiet, ← hhealth, hun] at hstill
          cases hstill

theorem watched_step (hjob : job ∈ systemHealthJobs) (hmarked : Marked job s) (h : Watched job s)
    (htimely : Timely job s e now) (hstep : s.step e now = some s') : Watched job s' := by
  obtain ⟨hle, hcases⟩ := Monitor.step_cases hstep
  rcases hcases with ⟨jobKey, status, detail, rfl, rfl⟩ | ⟨rfl, htick, rfl⟩ |
    ⟨byKey, job', jobs, rfl, htick, rfl⟩ | ⟨byKey, jobs, jobKey, action, rfl, htick, rfl⟩ |
    ⟨byKey, rfl, htick, rfl⟩
  · refine ⟨summary_recordJobHeartbeat h.row status detail, h.byKey, h.verdict, ?_, h.sound⟩
    intro htrigger hquiet now' hle'
    simp only [heardSince, Bool.or_eq_false_iff, decide_eq_false_iff_not] at hquiet
    rw [beats, if_neg hquiet.1]
    exact h.still htrigger hquiet.2 now' (Nat.le_trans hle hle')
  · refine ⟨h.row, ?_, h.verdict, ?_, h.sound⟩
    · rintro t ⟨⟩
      exact h.row
    · intro htrigger hquiet now' hle'
      exact h.still htrigger hquiet now' (Nat.le_trans hle hle')
  · by_cases hkey : job'.key = job.key
    · have hmem : job' ∈ systemHealthJobs := (hmarked.jobs _ htick).subset mem_cons_self
      obtain rfl := job_of_key hjob hmem hkey
      unfold Timely at htimely
      rw [htick] at htimely
      exact h.examined hmarked htick hle (htimely rfl)
    · have halerts : alerts job.key (.examined job'.key now (alertFor job' (byKey job'.key) now) ::
          s.log) = alerts job.key s.log := by simp [alerts_examined, hkey]
      have hheard : heardSince job.key (.examined job'.key now (alertFor job' (byKey job'.key) now)
          :: s.log) = heardSince job.key s.log := by
        cases alertFor job' (byKey job'.key) now <;> simp [heardSince, hkey]
      refine ⟨h.row, ?_, ?_, ?_, fun hkey' => absurd hkey' hkey, h.sound⟩
      · rintro t ⟨⟩
        exact h.byKey ⟨byKey, job' :: jobs, none⟩ htick
      · rw [halerts, wasUnhealthy, if_neg hkey]
        exact h.verdict
      · intro htrigger hquiet now' hle'
        rw [halerts] at htrigger
        rw [hheard] at hquiet
        exact h.still htrigger hquiet now' (Nat.le_trans hle hle')
  · unfold Timely at htimely
    rw [htick] at htimely
    refine ⟨summary_writeAlerted h.row ?_, ?_, h.verdict, ?_, h.sound⟩
    · rintro rfl
      exact htimely
    · rintro t ⟨⟩
      exact h.byKey ⟨byKey, jobs, some (jobKey, action)⟩ htick
    · intro htrigger hquiet now' hle'
      exact h.still htrigger hquiet now' (Nat.le_trans hle hle')
  · refine ⟨h.row, ?_, h.verdict, ?_, h.sound⟩
    · rintro t ⟨⟩
    · intro htrigger hquiet now' hle'
      exact h.still htrigger hquiet now' (Nat.le_trans hle hle')

end Step

theorem watched_start (job : SystemHealthJobMeta) : Watched job Monitor.start := by
  refine ⟨rfl, ?_, by simp [Monitor.start, wasUnhealthy, alerts], ?_, trivial⟩
  · rintro t ⟨⟩
  · rintro ⟨⟩

/-- Where every step is timely for a job, its alerts are the edges of its health, and none
resolves without a heartbeat after the trigger. -/
theorem alerts_sound {job : SystemHealthJobMeta} {s : Monitor} (hjob : job ∈ systemHealthJobs)
    (h : Reaches (Timely job) s) : Announced job s.log := by
  have hwatched : Watched job s := by
    induction h with
    | start => exact watched_start job
    | step _ _ hreach htimely hstep ih =>
      exact watched_step hjob (marked_run hjob hreach) ih htimely hstep
  exact ⟨alerts_alternate hjob h, hwatched.sound⟩

theorem alerts_sound_scheduler :
    let job : SystemHealthJobMeta := ⟨"compliance_scheduler", "Compliance Policy scheduler", 60⟩
    ∃ s, Monitor.start.run
        [(.heartbeat job.key .ok none, 0), (.read, 300001), (.examine, 300001)] = some s ∧
      alerts job.key s.log = [.trigger] ∧ Announced job s.log := by
  intro job
  have hbeat := Reaches.start.step (.heartbeat job.key .ok none) 0
    (show Timely job Monitor.start _ _ from trivial) rfl
  have hread := hbeat.step .read 300001 trivial rfl
  have hexamined := hread.step .examine 300001 (fun _ _ => rfl) rfl
  exact ⟨_, rfl, by decide +kernel, alerts_sound (by decide) hexamined⟩

/-- A tick of which every alert is written at once. -/
def wholeTick (alerted : ℕ) (now : ℕ) : List (Event × ℕ) :=
  (.read, now) :: (List.replicate alerted [(.examine, now), (.write, now)]).flatten ++
    [(.finish, now)]

/-- All jobs are triggered on an empty table, and the compliance scheduler, which never ran,
is resolved five minutes later. -/
def neverRan : List (Event × ℕ) :=
  wholeTick 22 0 ++ [(.read, 300000), (.examine, 300000)]

/-- The heartbeat of the compliance scheduler comes after the rows were read and before it is
triggered; nothing else comes before it is resolved. -/
def lateHeartbeat : List (Event × ℕ) :=
  (.read, 0) :: (.heartbeat "compliance_scheduler" .ok none, 0) :: (wholeTick 22 0).tail ++
    [(.read, 300000), (.examine, 300000)]

theorem never_ran_recovers :
    let job : SystemHealthJobMeta := ⟨"compliance_scheduler", "Compliance Policy scheduler", 60⟩
    job ∈ systemHealthJobs ∧
    (∃ s, Reaches (fun _ _ _ => True) s ∧ beats job.key s.log = [] ∧
      alerts job.key s.log = [.resolve, .trigger] ∧ ¬ Announced job s.log) ∧
    (∃ s, Reaches (fun _ _ _ => True) s ∧ beats job.key s.log = [(.ok, 0)] ∧
      alerts job.key s.log = [.resolve, .trigger] ∧ ¬ Announced job s.log) := by
  intro job
  have hrun : ∀ es bs, (Monitor.start.run es).map (fun s => (beats job.key s.log,
      alerts job.key s.log, decide (Sound job s.log))) = some (bs, [.resolve, .trigger], false) →
      ∃ s, Reaches (fun _ _ _ => True) s ∧ beats job.key s.log = bs ∧
        alerts job.key s.log = [.resolve, .trigger] ∧ ¬ Announced job s.log := fun es bs hlog => by
    obtain ⟨s, hs, hlog⟩ := map_eq_some_iff.mp hlog
    obtain ⟨hbeats, hrest⟩ := Prod.mk.inj hlog
    obtain ⟨halerts, hsound⟩ := Prod.mk.inj hrest
    exact ⟨s, reaches_run .start hs, hbeats, halerts, fun h => of_decide_eq_false hsound h.sound⟩
  exact ⟨by decide, hrun neverRan [] (by decide +kernel),
    hrun lateHeartbeat [(.ok, 0)] (by decide +kernel)⟩

end AppliverySoar.SystemHealth
