import AppliverySoar.DeviceData.Store

/-!
# Where a stored integrity verdict comes from

The verified verdicts are written into the attributes that a device reports, and
replace there what stands under their names. Nothing removes what a device sent
under these names itself.

Results:
* `meets_handle`: what a request stores of the attributes of a device.
* `verdicts_verified`: in every run in which no report is stored that carries
  one of the names and whose own token was not verified, all stored verdicts
  are the values of a verification for the device.
* `reported_verdict_stored`: a report that carries a verdict and no token.
-/

namespace AppliverySoar.DeviceData

open Async Prog Compliance Js Workflows List

/-! ## Attributes under a name -/

section Keys

variable {out : List (String × Value)} {key key' : String} {v : Value}
  (derived : PlayIntegrityDerivedAttributes)

theorem lookup_map_self (h : out.any (fun entry => entry.1 = key) = true) :
    (out.map fun entry => if entry.1 = key then (key, v) else entry).lookup key = some v := by
  induction out with
  | nil => cases h
  | cons entry out ih =>
    by_cases hkey : entry.1 = key
    · simp [hkey]
    · rw [map_cons, if_neg hkey, lookup_cons]
      rw [any_cons, decide_eq_false hkey, Bool.false_or] at h
      rw [beq_false_of_ne (Ne.symm hkey)]
      exact ih h

theorem lookup_map_of_ne (h : key' ≠ key) :
    (out.map fun entry => if entry.1 = key then (key, v) else entry).lookup key' =
      out.lookup key' := by
  induction out with
  | nil => rfl
  | cons entry out ih =>
    rw [map_cons, lookup_cons, lookup_cons, ih]
    split_ifs with hkey
    · rw [hkey, beq_false_of_ne h]
    · rfl

theorem lookup_eq_none_of_any (h : ¬out.any (fun entry => entry.1 = key) = true) :
    out.lookup key = none := by
  refine lookup_eq_none_iff.mpr fun entry hentry => ?_
  have hne : entry.1 ≠ key := fun heq => h (any_eq_true.mpr ⟨entry, hentry, by simpa using heq⟩)
  exact bne_iff_ne.mpr (Ne.symm hne)

/-- `out[key] = v` puts `v` under the key. -/
theorem lookup_setKey_self : (setKey out key v).lookup key = some v := by
  unfold setKey
  split_ifs with h
  · exact lookup_map_self h
  · rw [lookup_append, lookup_eq_none_of_any h]
    simp

theorem lookup_setKey_of_ne (h : key' ≠ key) : (setKey out key v).lookup key' = out.lookup key' := by
  unfold setKey
  split_ifs with hany
  · exact lookup_map_of_ne h
  · rw [lookup_append, lookup_cons, beq_false_of_ne h]
    simp

theorem mergeDerived_verdict :
    (mergeDerived out derived).lookup "playIntegrityVerdict" =
      some (.str derived.playIntegrityVerdict) := by
  rw [mergeDerived, lookup_setKey_of_ne (by decide), lookup_setKey_self]

theorem mergeDerived_appRecognized :
    (mergeDerived out derived).lookup "playIntegrityAppRecognized" =
      some (.bool derived.playIntegrityAppRecognized) :=
  lookup_setKey_self

end Keys

/-! ## Statements -/

/-- The report of the request, if its body was taken. -/
def DataRequest.report (req : DataRequest) : Option DeviceReportPayload :=
  match req.route with
  | .report payload => payload
  | _ => none

/-- The token of the report was verified and decoded to `derived`, in a call for
the device of the report. -/
def VerifiedIn (workspaceSlug : String) (payload : DeviceReportPayload) (es : List DataEvent)
    (derived : PlayIntegrityDerivedAttributes) : Prop :=
  ∃ token, truthy payload.playIntegrityToken = some token ∧
    Prog.Steps (verifyAndDecodeToken workspaceSlug payload.serialNumber token) (nonceLog es)
      (.ret (.ok (some derived)))

/-- A call of the trace has returned `derived` for the device. -/
def VerifiedFor (tr : List DataLabel) (workspaceSlug serialNumber : String)
    (derived : PlayIntegrityDerivedAttributes) : Prop :=
  ∃ l ∈ tr, ∃ payload, l.task.workspaceSlug = workspaceSlug ∧ l.task.report = some payload ∧
    payload.serialNumber = serialNumber ∧
    VerifiedIn workspaceSlug payload (l.past ++ [l.event]) derived

/-- Whatever is stored under the two names for a device is what a verification
for that device returned. -/
def VerdictsVerified (tr : List DataLabel) (s : DataStore) : Prop :=
  ∀ workspaceSlug serialNumber record, s.pushData (workspaceSlug, serialNumber) = some record →
    (∀ v, record.attributes.lookup "playIntegrityVerdict" = some v →
      ∃ derived, VerifiedFor tr workspaceSlug serialNumber derived ∧
        v = .str derived.playIntegrityVerdict) ∧
    (∀ v, record.attributes.lookup "playIntegrityAppRecognized" = some v →
      ∃ derived, VerifiedFor tr workspaceSlug serialNumber derived ∧
        v = .bool derived.playIntegrityAppRecognized)

/-- The attributes carry neither name. -/
def Unclaimed (attributes : List (String × Value)) : Prop :=
  attributes.lookup "playIntegrityVerdict" = none ∧
    attributes.lookup "playIntegrityAppRecognized" = none

/-- Where a report is stored, its own attributes carry neither name, or its own
token was verified. -/
def ClaimsNoVerdict (env : Deployment) (_ : List DataLabel) (_ : DataStore) (l : DataLabel) :
    Prop :=
  ∀ workspaceSlug deviceId record reportedAt payload,
    l.event.call = .upsertDevicePushData workspaceSlug deviceId record reportedAt →
    l.task.report = some payload →
    Unclaimed (normalizePushedAttributes env.runtime payload.platform payload.attributes) ∨
      ∃ derived, VerifiedIn l.task.workspaceSlug payload l.past derived

/-! ## What a request stores -/

/-- The attributes that go with what has been exchanged about the token. -/
def AttributesOf (r : Runtime) (workspaceSlug : String) (payload : DeviceReportPayload)
    (es : List DataEvent) (attributes : List (String × Value)) : Prop :=
  (∃ derived, VerifiedIn workspaceSlug payload es derived ∧
    attributes = mergeDerived (normalizePushedAttributes r payload.platform payload.attributes)
      derived) ∨
  ((∀ derived, ¬VerifiedIn workspaceSlug payload es derived) ∧
    attributes = normalizePushedAttributes r payload.platform payload.attributes)

/-- A call of a request: a device's attributes are stored by a report of the
device alone. -/
def StoresReport (env : Deployment) (req : DataRequest) (es : List DataEvent) (c : DataCall) :
    Prop :=
  ∀ workspaceSlug deviceId record reportedAt,
    c = .upsertDevicePushData workspaceSlug deviceId record reportedAt →
    ∃ payload, req.report = some payload ∧ workspaceSlug = req.workspaceSlug ∧
      deviceId = payload.serialNumber ∧
      AttributesOf env.runtime workspaceSlug payload es record.attributes

/-- A call that neither concerns the nonces nor stores attributes. -/
def DataCall.isOther : DataCall → Bool
  | .nonce _ | .upsertDevicePushData .. => false
  | _ => true

section Program

variable {env : Deployment} {req : DataRequest} {es : List DataEvent}

variable {c : DataCall} {α : Type}

theorem storesReport_of_not_upsert (h : ∀ workspaceSlug deviceId record reportedAt,
      c ≠ .upsertDevicePushData workspaceSlug deviceId record reportedAt) :
    StoresReport env req es c :=
  fun workspaceSlug deviceId record reportedAt hc =>
    absurd hc (h workspaceSlug deviceId record reportedAt)

theorem storesReport_of_isOther (h : c.isOther = true) :
    StoresReport env req es c :=
  storesReport_of_not_upsert fun _ _ _ _ hc => by rw [hc] at h; cases h

theorem meets_other {p : DeviceData α} (hp : p.Calls fun c => DataCall.isOther c = true)
    (es : List DataEvent) :
    p.Meets (World.log _ _) (StoresReport env req) es fun _ es' => nonceLog es' = nonceLog es := by
  refine (hp.meets_tracked (fun _ _ hc => storesReport_of_isOther hc) es).mono ?_
  rintro _ _ ⟨fs, rfl, hfs⟩
  have hnone : nonceLog fs = [] := nonceLog_eq_nil fun e he => by
    obtain ⟨c, r⟩ := e
    have hc := hfs _ he
    cases c with
    | nonce c => cases hc
    | _ => rfl
  rw [nonceLog_append, hnone, append_nil]

theorem other_verifyDeviceIdentity (secret : String) (headers : DeviceHeaders)
    (slug : String) :
    (verifyDeviceIdentity secret headers slug).Calls fun c =>
      DataCall.isOther c = true := by
  unfold verifyDeviceIdentity
  refine Calls.bind (calls_ask rfl) fun enforced => Calls.ite (fun _ => ?_)
    fun _ => calls_verifyDeviceReportSecret _ _ rfl
  exact Calls.bind (Calls.embed (Calls.widen (calls_true _) fun _ _ => rfl))
    fun _ => calls_ret _

theorem storesReport_of_isNonce (h : c.isNonce = true) : StoresReport env req es c :=
  storesReport_of_not_upsert fun _ _ _ _ hc => by rw [hc] at h; cases h

theorem isNonce_embed (p : Nonces α) :
    (p.embed nonceCalls).Calls fun c => DataCall.isNonce c = true :=
  Calls.embed (Calls.widen (calls_true _) fun _ _ => rfl)

theorem meets_attributesToStore (payload : DeviceReportPayload) (hes : nonceLog es = []) :
    (attributesToStore env.runtime req.workspaceSlug payload).Meets (World.log _ _)
      (StoresReport env req) es
      (post (fun attributes es' => AttributesOf env.runtime req.workspaceSlug payload es' attributes)
        fun _ _ => True) := by
  unfold attributesToStore
  simp only []
  cases htoken : truthy payload.playIntegrityToken with
  | none =>
    refine .inr ⟨?_, rfl⟩
    rintro derived ⟨token, htoken', -⟩
    cases htoken.symm.trans htoken'
  | some token =>
    have hok : ∀ es' c, DataCall.isNonce c = true → StoresReport env req es' c :=
      fun _ _ hc => storesReport_of_isNonce hc
    have hmeets := ((Prog.ensures_iff_meets _ _ es).mp (isNonce_embed
      (verifyAndDecodeToken req.workspaceSlug payload.serialNumber token))).weaken hok
    refine Meets.bind (R := fun verified es' => ∃ fs, es' = es ++ fs ∧
      Prog.Steps (verifyAndDecodeToken req.workspaceSlug payload.serialNumber token) (nonceLog fs)
        (.ret verified)) ?_ ?_
    · refine Meets.attempt (hmeets.tracks.mono fun r es' h => ?_)
      obtain ⟨fs, rfl, hsteps⟩ := h.2
      exact ⟨fs, rfl, steps_of_embed hsteps⟩
    · rintro verified es' ⟨fs, rfl, hsteps⟩
      have hlog : nonceLog (es ++ fs) = nonceLog fs := by rw [nonceLog_append, hes, nil_append]
      have hother : ∀ derived, VerifiedIn req.workspaceSlug payload (es ++ fs) derived →
          verified = .ok (some derived) := by
        rintro derived ⟨token', htoken', hsteps'⟩
        obtain rfl := Option.some.inj (htoken.symm.trans htoken')
        rw [hlog] at hsteps'
        have hsame : nonceLog fs ++ [] = nonceLog fs ++ ([] : List NonceEvent) := rfl
        exact (hsteps.ret_unique hsteps' hsame).2
      match verified, hsteps, hother with
      | .ok (some derived), hsteps, _ =>
        exact .inl ⟨derived, ⟨token, htoken, hlog.symm ▸ hsteps⟩, rfl⟩
      | .ok none, _, hother =>
        exact .inr ⟨fun derived h => absurd (hother derived h) (by simp), rfl⟩
      | .error e, _, hother =>
        exact .inr ⟨fun derived h => absurd (hother derived h) (by simp), rfl⟩

variable {workspaceSlug : String} {payload : DeviceReportPayload} {e : DataEvent}

theorem verifiedIn_snoc
    (he : e.call.isNonce = false) (derived : PlayIntegrityDerivedAttributes) :
    VerifiedIn workspaceSlug payload (es ++ [e]) derived ↔
      VerifiedIn workspaceSlug payload es derived := by
  have hnone : nonceLog [e] = [] := nonceLog_eq_nil (by simpa using he)
  unfold VerifiedIn
  rw [nonceLog_append, hnone, append_nil]

theorem AttributesOf.snoc {r : Runtime}
    {attributes : List (String × Value)}
    (h : AttributesOf r workspaceSlug payload es attributes) (he : e.call.isNonce = false) :
    AttributesOf r workspaceSlug payload (es ++ [e]) attributes := by
  unfold AttributesOf
  simp only [verifiedIn_snoc he]
  exact h

theorem meets_reportDeviceData (hreq : req.report = some payload)
    (hes : nonceLog es = []) :
    (reportDeviceData env.runtime req.workspaceSlug payload).Meets (World.log _ _)
      (StoresReport env req) es fun _ _ => True := by
  unfold reportDeviceData
  split_ifs with hblank
  · trivial
  refine Meets.bind ((meets_attributesToStore payload hes).mono fun r es' h => by
    cases r <;> exact h) fun attributes es' hattributes => ?_
  refine ⟨storesReport_of_isOther rfl, fun now _ => ?_⟩
  cases now with
  | error e => trivial
  | ok now =>
    refine ⟨storesReport_of_isOther rfl, fun existing _ => ?_⟩
    cases existing with
    | error e => trivial
    | ok existing =>
      refine ⟨?_, fun stored _ => ?_⟩
      · intro workspaceSlug deviceId record reportedAt hcall
        obtain ⟨rfl, rfl, rfl, -⟩ := DataCall.upsertDevicePushData.inj hcall
        exact ⟨payload, hreq, rfl, rfl, (hattributes.snoc rfl).snoc rfl⟩
      · cases stored with
        | error e => trivial
        | ok stored =>
          refine (meets_other ?_ _).mono fun _ _ _ => trivial
          exact Calls.bind (calls_ret _) fun _ => Calls.bind (calls_ask rfl) fun _ =>
            Calls.bind (calls_ask rfl) fun _ => Calls.bind (calls_ask rfl) fun _ =>
              Calls.bind (calls_ask rfl) fun _ => calls_ret _

theorem other_reportDeviceApps (payload : DeviceAppReportPayload) :
    (reportDeviceApps env.runtime env.collation req.workspaceSlug payload).Calls
      fun c => DataCall.isOther c = true := by
  unfold reportDeviceApps
  refine Calls.guard fun _ => ?_
  refine Calls.bind (calls_ask rfl) fun nowIso => Calls.bind (calls_ask rfl)
    fun matched => Calls.bind ?_ fun matchedFlag => ?_
  · cases truthy (matched.map DeviceEntry.id) with
    | none => exact Calls.bind (calls_ask rfl) fun _ => calls_ret _
    | some deviceId =>
      exact Calls.bind (calls_ask rfl) fun _ => Calls.bind (calls_ask rfl) fun _ =>
        Calls.bind (calls_ask rfl) fun _ => calls_ret _
  · exact Calls.bind (calls_ask rfl) fun _ => calls_ret _

theorem meets_handle (env : Deployment) (req : DataRequest) :
    (req.handle env).Meets (World.log _ _) (StoresReport env req) [] fun _ _ => True := by
  unfold DataRequest.handle handleData
  have hidentity : (verifyDeviceIdentity env.mtlsInternalProxySecret req.headers
      req.workspaceSlug).Meets (World.log _ _) (StoresReport env req) []
      (post (fun _ es => nonceLog es = []) fun _ _ => True) :=
    (meets_other (other_verifyDeviceIdentity _ _ _) []).mono fun r _ h => by
      cases r with
      | ok _ => exact h
      | error _ => trivial
  refine Meets.bind hidentity fun _ es hes => ?_
  cases hroute : req.route with
  | report payload =>
    cases payload with
    | none => trivial
    | some payload =>
      have hreq : req.report = some payload := by rw [DataRequest.report, hroute]
      exact meets_discard (meets_reportDeviceData hreq hes)
  | reportApps payload =>
    cases payload with
    | none => trivial
    | some payload =>
      exact meets_discard ((meets_other (other_reportDeviceApps payload) es).mono fun _ _ _ =>
        trivial)
  | playIntegrityNonce serialNumber =>
    simp only []
    generalize String.ofList (trim (serialNumber.getD "").toList) = serial
    split_ifs with hblank
    · trivial
    · exact meets_discard (((Prog.ensures_iff_meets _ _ es).mp (isNonce_embed _)).weaken
        fun _ _ hc => storesReport_of_isNonce hc)

end Program

/-! ## Every run -/

section Runs

variable {env : Deployment} {s : DataStore} {ts : List DataRequest} {tr : List DataLabel}
  {cfg : Config dataSig ServiceError DataStore DataRequest} {l : DataLabel}

theorem VerifiedFor.snoc {slug serial : String}
    {derived : PlayIntegrityDerivedAttributes}
    (h : VerifiedFor tr slug serial derived) : VerifiedFor (tr ++ [l]) slug serial derived := by
  obtain ⟨l', hl', h⟩ := h
  exact ⟨l', mem_append_left _ hl', h⟩

theorem pushData_next {s : DataStore} {c : DataCall} {r : Except ServiceError (DataCall.Answer c)}
    (h : (∀ workspaceSlug deviceId record reportedAt,
      c ≠ .upsertDevicePushData workspaceSlug deviceId record reportedAt) ∨ ∃ e, r = .error e) :
    (s.next c r).pushData = s.pushData := by
  rcases h with h | ⟨e, rfl⟩
  · cases c with
    | upsertDevicePushData workspaceSlug deviceId record reportedAt =>
      exact absurd rfl (h workspaceSlug deviceId record reportedAt)
    | _ => cases r <;> rfl
  · cases c <;> rfl

/-- The step of `verdicts_verified`: what a report stores under the two names
comes from the verification of its own token. -/
theorem verified_stored {payload : DeviceReportPayload} {record : PushRecord}
    (hl : l ∈ tr) (hreport : l.task.report = some payload) (hcall : l.event.call.isNonce = false)
    (hattributes : AttributesOf env.runtime l.task.workspaceSlug payload l.past record.attributes)
    (hcond : Unclaimed (normalizePushedAttributes env.runtime payload.platform
        payload.attributes) ∨ ∃ derived, VerifiedIn l.task.workspaceSlug payload l.past derived) :
    (∀ v, record.attributes.lookup "playIntegrityVerdict" = some v →
      ∃ derived, VerifiedFor tr l.task.workspaceSlug payload.serialNumber derived ∧
        v = .str derived.playIntegrityVerdict) ∧
    (∀ v, record.attributes.lookup "playIntegrityAppRecognized" = some v →
      ∃ derived, VerifiedFor tr l.task.workspaceSlug payload.serialNumber derived ∧
        v = .bool derived.playIntegrityAppRecognized) := by
  rcases hattributes with ⟨derived, hverified, hmerged⟩ | ⟨hnone, hown⟩
  · have hfor : VerifiedFor tr l.task.workspaceSlug payload.serialNumber derived :=
      ⟨l, hl, payload, rfl, hreport, rfl, (verifiedIn_snoc hcall derived).mpr hverified⟩
    rw [hmerged, mergeDerived_verdict, mergeDerived_appRecognized]
    exact ⟨fun v hv => ⟨derived, hfor, (Option.some.inj hv).symm⟩,
      fun v hv => ⟨derived, hfor, (Option.some.inj hv).symm⟩⟩
  · rcases hcond with ⟨hverdict, happ⟩ | ⟨derived, hverified⟩
    · rw [hown, hverdict, happ]
      exact ⟨fun v hv => absurd hv (by simp), fun v hv => absurd hv (by simp)⟩
    · exact absurd hverified (hnone derived)

/-- **Main theorem**: where no report is stored that carries one of the names
without a token that was verified, all stored verdicts are verified ones. -/
theorem verdicts_verified (hs : VerdictsVerified [] s)
    (h : Run (dataSystem env) (ClaimsNoVerdict env) ((dataSystem env).launch s ts) tr cfg) :
    VerdictsVerified tr cfg.store := by
  induction h with
  | nil => exact hs
  | @snoc tr cfg cfg' l hrun hstep hcond ih =>
    have hkept : ∀ workspaceSlug serialNumber record,
        cfg.store.pushData (workspaceSlug, serialNumber) = some record →
        (∀ v, record.attributes.lookup "playIntegrityVerdict" = some v →
          ∃ derived, VerifiedFor (tr ++ [l]) workspaceSlug serialNumber derived ∧
            v = .str derived.playIntegrityVerdict) ∧
        (∀ v, record.attributes.lookup "playIntegrityAppRecognized" = some v →
          ∃ derived, VerifiedFor (tr ++ [l]) workspaceSlug serialNumber derived ∧
            v = .bool derived.playIntegrityAppRecognized) := fun ws serial record hrecord =>
      ⟨fun v hv => (ih ws serial record hrecord).1 v hv |>.imp fun _ h => ⟨h.1.snoc, h.2⟩,
        fun v hv => (ih ws serial record hrecord).2 v hv |>.imp fun _ h => ⟨h.1.snoc, h.2⟩⟩
    intro ws serial record hrecord
    rw [hstep.store_eq] at hrecord
    change (cfg.store.next l.event.call l.event.answer).pushData (ws, serial) = some record at hrecord
    by_cases hupsert : ∃ ws' deviceId record' reportedAt,
        l.event.call = .upsertDevicePushData ws' deviceId record' reportedAt
    · obtain ⟨thread, task, past, ⟨c, r⟩⟩ := l
      obtain ⟨ws', deviceId, record', reportedAt, rfl⟩ := hupsert
      obtain ⟨payload, hreport, hws, rfl, hattributes⟩ :=
        hrun.ok_of_step (StoresReport env) (fun _ _ => True) (meets_handle env) hstep
          ws' deviceId record' reportedAt rfl
      change ws' = task.workspaceSlug at hws
      subst hws
      cases r with
      | error e => exact hkept ws serial record hrecord
      | ok stored =>
        change Function.update cfg.store.pushData (task.workspaceSlug, payload.serialNumber)
          (some record') (ws, serial) = some record at hrecord
        by_cases hkey : (ws, serial) = (task.workspaceSlug, payload.serialNumber)
        · obtain ⟨rfl, rfl⟩ := Prod.mk.inj hkey
          rw [Function.update_self] at hrecord
          obtain rfl := Option.some.inj hrecord
          exact verified_stored (mem_append_right _ (mem_singleton_self _)) hreport rfl
            hattributes (hcond _ _ _ _ payload rfl hreport)
        · rw [Function.update_of_ne hkey] at hrecord
          exact hkept ws serial record hrecord
    · rw [pushData_next (.inl fun ws' deviceId record' reportedAt hcall =>
        hupsert ⟨ws', deviceId, record', reportedAt, hcall⟩)] at hrecord
      exact hkept ws serial record hrecord

end Runs

/-! ## A device that says it is sound -/

/-- A request to the workspace `global` with its webhook secret. -/
def secretRequest (route : DataRoute) : DataRequest where
  headers := ⟨⟨none, none, none, none⟩, some "secret"⟩
  route := route

/-- A report of `SN1`. -/
def reportOf (attributes : List (String × Value)) (token : Option String) : DataRequest :=
  secretRequest (.report (some { platform := "android", serialNumber := "SN1", attributes,
                                 playIntegrityToken := token }))

/-- A check of `ClaimsNoVerdict` for reports whose attributes carry neither name. -/
def unclaimed (env : Deployment) (_ : List DataLabel) (_ : DataStore) (l : DataLabel) : Bool :=
  match l.task.report with
  | some payload =>
    let attributes := normalizePushedAttributes env.runtime payload.platform payload.attributes
    (attributes.lookup "playIntegrityVerdict").isNone &&
      (attributes.lookup "playIntegrityAppRecognized").isNone
  | none => true

theorem unclaimed_sound (env : Deployment) (tr : List DataLabel) (s : DataStore) (l : DataLabel)
    (h : unclaimed env tr s l = true) : ClaimsNoVerdict env tr s l := by
  intro ws deviceId record reportedAt payload _ hreport
  simp only [unclaimed, hreport, Bool.and_eq_true, Option.isNone_iff_eq_none] at h
  exact .inl h

theorem verdictsVerified_fresh : VerdictsVerified [] freshTables :=
  fun _ _ _ h => absurd h (by simp [freshTables])

/-- A device asks for a nonce and reports the token: the verdict is stored. -/
theorem verdicts_verified_token : ∃ tr cfg record,
    Run (dataSystem plainDeployment) (ClaimsNoVerdict plainDeployment)
      ((dataSystem plainDeployment).launch freshTables
        [secretRequest (.playIntegrityNonce (some "SN1")), reportOf [] (some "token")]) tr cfg ∧
    cfg.store.pushData ("global", "SN1") = some record ∧
    record.attributes.lookup "playIntegrityVerdict" =
      some (.str "MEETS_DEVICE_INTEGRITY") ∧ VerdictsVerified tr cfg.store := by
  have hrun := Run.nil.play (dataSystem plainDeployment) DataStore.answer data_may_answer _
    (Config.admits_of_admitted (dataSystem plainDeployment) DataStore.answer
      (unclaimed_sound plainDeployment)
      (replicate 5 0 ++ replicate 15 1) []
      ((dataSystem plainDeployment).launch freshTables
        [secretRequest (.playIntegrityNonce (some "SN1")), reportOf [] (some "token")])
      (by decide +kernel))
  exact ⟨_, _, _, hrun, rfl, rfl, verdicts_verified verdictsVerified_fresh hrun⟩

/-- A report that carries a verdict and no token: it is stored as it is. -/
theorem reported_verdict_stored : ¬∀ (env : Deployment) (s : DataStore) (ts : List DataRequest)
    (tr : List DataLabel) (cfg : Config dataSig ServiceError DataStore DataRequest),
    VerdictsVerified [] s → Run (dataSystem env) always ((dataSystem env).launch s ts) tr cfg →
      VerdictsVerified tr cfg.store := by
  intro hall
  have hrun := Config.run_play (dataSystem plainDeployment) DataStore.answer data_may_answer
    (replicate 9 0) ((dataSystem plainDeployment).launch freshTables
      [reportOf [("playIntegrityVerdict", .str "MEETS_STRONG_INTEGRITY")] none])
  obtain ⟨derived, ⟨l, hl, payload, -, hreport, -, token, htoken, -⟩, -⟩ :=
    (hall _ _ _ _ _ verdictsVerified_fresh hrun "global" "SN1" _ rfl).1 _ rfl
  obtain ⟨th, hth, htask, -⟩ := hrun.thread_of_label hl
  have hmem : th.task ∈ [reportOf [("playIntegrityVerdict", .str "MEETS_STRONG_INTEGRITY")] none] :=
    mem_map_of_mem (f := Thread.task) (mem_of_getElem? hth)
  rw [← htask, mem_singleton.mp hmem] at hreport
  obtain rfl := Option.some.inj hreport
  cases htoken

end AppliverySoar.DeviceData
