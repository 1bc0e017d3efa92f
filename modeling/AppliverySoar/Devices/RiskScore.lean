import AppliverySoar.Catalogs.VulnSources
import Mathlib.Algebra.BigOperators.Group.List.Basic
import Mathlib.Algebra.Order.Ring.Rat
import Mathlib.Algebra.Ring.Nat

/-!
# The risk score of a device

`computeDeviceRisk` (deviceNormalize.ts, lines 476–700) goes through what is known of a device,
its open cases and its active violations. Each finding adds an amount to a score, and names its
points in a list of factors; the score is cut at 100.

Results:
* `fair_additions`: what is added to the score is what the factor says, and not negative.
* `total_additions_le`: more findings add no less.
* `riskScore_laws`: the score, its tier and its factors.
-/

namespace AppliverySoar.Devices.Risk

open Js Catalogs.VulnSources List

/-! ## What is read of a device -/

structure SelfReported where
  attributes : Option (OrderedMap Value) := none
  lastReportedAt : Option String := none

structure NonComplianceDetail where
  settingName : Option String := none
  nonComplianceReason : Option String := none

structure NativeSecurity where
  isDeviceSecure : Option Bool := none
  encryptionStatus : Option String := none
  adbEnabled : Option Bool := none
  unknownSourcesEnabled : Option Bool := none
  policyCompliant : Option Bool := none
  devicePosture : Option String := none
  nonComplianceDetails : Option (List NonComplianceDetail) := none

structure PendingKb where
  exploited : Bool

structure OsUpdateStatus where
  pendingCount : Option ℤ := none
  pendingKbs : Option (List PendingKb) := none

structure OsCve where
  severity : Option String := none
  isKev : Bool := false
  epssScore : Option ℚ := none

structure OsVulnerabilities where
  visible : Bool
  state : String
  cves : Option (List OsCve) := none

/-- `counts` and `hasKev` of an app's `vuln`. -/
structure AppVuln where
  critical : Option ℕ := none
  high : Option ℕ := none
  hasKev : Bool := false

structure InstalledApp where
  vuln : Option AppVuln := none

structure OsLifecycleStatus where
  isEol : Bool

structure AppleAppUpdateStatus where
  pendingCount : Option ℤ := none

structure NormalizedDevice where
  isCompliant : Option Bool := none
  selfReported : Option SelfReported := none
  nativeSecurity : Option NativeSecurity := none
  osUpdateStatus : Option OsUpdateStatus := none
  osVulnerabilities : Option OsVulnerabilities := none
  installedAppsDetail : Option (List InstalledApp) := none
  osLifecycleStatus : Option OsLifecycleStatus := none
  appleAppUpdateStatus : Option AppleAppUpdateStatus := none

structure ActiveViolation where
  policyName : Option String := none

/-! ## Model -/

/-- An element of `riskFactors`. -/
structure RiskFactor where
  label : String
  points : ℤ
  deriving DecidableEq

/-- `score += amount; factors.push({ label, points })`. -/
structure Addition where
  amount : ℤ
  label : String
  points : ℤ

inductive RiskTier
  | low
  | medium
  | high
  | critical
  deriving DecidableEq

structure RiskResult where
  riskScore : ℤ
  riskTier : RiskTier
  riskFactors : List RiskFactor
  deriving DecidableEq

/-- `s.replace("Z", "+00:00")`. -/
def replaceZ (s : String) : String :=
  let before := s.toList.takeWhile fun c => c ≠ 'Z'
  match s.toList.dropWhile fun c => c ≠ 'Z' with
  | [] => s
  | _ :: after => String.ofList (before ++ "+00:00".toList ++ after)

/-- `s.replace(/_/g, " ")`. -/
def spaced (s : String) : String :=
  String.ofList (s.toList.map fun c => if c = '_' then ' ' else c)

/-- `\w`. -/
def isWordChar (c : Char) : Bool :=
  c.isAlphanum || c = '_'

section Texts

variable (t : Texts)

/-- `w.charAt(0).toUpperCase() + w.slice(1).toLowerCase()`. -/
def capitalise : List Char → String
  | [] => ""
  | c :: w => t.toUpperCase (String.ofList [c]) ++ t.toLowerCase (String.ofList w)

/-- The matches of `/\w\S*/g` are replaced; the first argument is the match that is being
read. -/
def titleCaseFrom : List Char → List Char → String
  | word, [] => capitalise t word
  | [], c :: s =>
    if isWordChar c then titleCaseFrom [c] s else String.ofList [c] ++ titleCaseFrom [] s
  | d :: word, c :: s =>
    if isSpace c then capitalise t (d :: word) ++ (String.ofList [c] ++ titleCaseFrom [] s)
    else titleCaseFrom (d :: word ++ [c]) s

def titleCase (s : String) : String :=
  titleCaseFrom t [] s.toList

/-- `${n} what${n !== 1 ? "s" : ""}`. -/
def plural (n : ℤ) (what : String) : String :=
  toString n ++ what ++ if n ≠ 1 then "s" else ""

/-- Lines 504–507. -/
def complianceAdditions (d : NormalizedDevice) : List Addition :=
  if d.isCompliant = some false then
    [⟨25, "Out of compliance with an assigned Applivery policy", 25⟩]
  else []

/-- Lines 509–513. -/
def violationAdditions (activeViolations : List ActiveViolation) : List Addition :=
  (activeViolations.take 3).map fun v =>
    ⟨15, "Violates policy: \"" ++ v.policyName.getD "Unknown policy" ++ "\"", 15⟩

def attrPenalties : List (String × String × ℤ) :=
  [("diskEncryptionEnabled", "Disk encryption disabled", 15),
    ("firewallEnabled", "Firewall disabled", 10),
    ("antivirusEnabled", "Antivirus disabled", 15),
    ("secureBootEnabled", "Secure Boot disabled", 10),
    ("tpmEnabled", "TPM not enabled", 5),
    ("vbsEnabled", "Virtualization-based security disabled", 5),
    ("credentialGuardEnabled", "Credential Guard disabled", 5)]

/-- `(Date.now() - dt.getTime()) / 86_400_000 > 30`, false for a date that cannot be parsed. -/
def isStale (lastReported : String) : Bool :=
  match t.parseDate (replaceZ lastReported) with
  | none => false
  | some time => decide ((t.now - time) / 86400000 > 30)

/-- Lines 520–546. -/
def attestedAdditions (attrs : OrderedMap Value) (lastReportedAt : Option String) :
    List Addition :=
  (attrPenalties.filter fun p => (attrs.get p.1).any fun v => v.strictEq (.bool false)).map
    (fun p => ⟨p.2.2, p.2.1, p.2.2⟩) ++
  match lastReportedAt with
  | none => []
  | some lastReported =>
    if lastReported ≠ "" ∧ isStale t lastReported then
      [⟨10, "Security attestation stale (30+ days)", 10⟩]
    else []

/-- Lines 548–582. -/
def nativeAdditions (n : NativeSecurity) : List Addition :=
  let encryptionStatus := t.toUpperCase (n.encryptionStatus.getD "")
  (if n.isDeviceSecure = some false then
    [⟨15, "Android: device not secure (lock screen/encryption check failed)", 15⟩] else []) ++
  (if encryptionStatus ≠ "" ∧ ["ENCRYPTED", "ENCRYPTED_PER_USER"].contains encryptionStatus = false
    then [⟨15, "Android: encryption status is " ++ titleCase t (spaced encryptionStatus), 15⟩]
    else []) ++
  (if n.adbEnabled = some true then [⟨5, "Android: USB debugging (ADB) enabled", 5⟩] else []) ++
  (if n.unknownSourcesEnabled = some true then
    [⟨10, "Android: install from unknown sources allowed", 10⟩] else []) ++
  (if n.policyCompliant = some false then
    [⟨15, "Android: not compliant with its Android Management policy", 15⟩] else []) ++
  (match n.devicePosture with
    | none => []
    | some posture =>
      if posture = "AT_RISK" ∨ posture = "POTENTIALLY_COMPROMISED" then
        let points := if posture = "POTENTIALLY_COMPROMISED" then 25 else 15
        [⟨points, "Android device posture: " ++ titleCase t (spaced posture), points⟩]
      else []) ++
  ((n.nonComplianceDetails.getD []).take 3).map fun detail =>
    ⟨10, "Android policy non-compliance: " ++
      (detail.settingName.or detail.nonComplianceReason).getD "unknown setting", 10⟩

/-- Lines 515–587. -/
def securityAdditions (d : NormalizedDevice) : List Addition :=
  let attrs := (d.selfReported.bind SelfReported.attributes).getD .empty
  if d.selfReported.isSome ∧ attrs.keys ≠ [] then
    attestedAdditions t attrs (d.selfReported.bind SelfReported.lastReportedAt)
  else
    match d.nativeSecurity with
    | some n => nativeAdditions t n
    | none => [⟨10, "No security attestation reported", 10⟩]

/-- Lines 589–594. -/
def caseAdditions (openCaseCount : ℤ) : List Addition :=
  if openCaseCount > 0 then
    let points := min (openCaseCount * 10) 20
    [⟨points, plural openCaseCount " open case", points⟩]
  else []

/-- Lines 600–610. -/
def osUpdateAdditions (d : NormalizedDevice) : List Addition :=
  let pending := (d.osUpdateStatus.bind OsUpdateStatus.pendingCount).getD 0
  if pending > 0 then
    let points := min (pending * 5) 20
    ⟨points, plural pending " pending Windows security update", points⟩ ::
      if ((d.osUpdateStatus.bind OsUpdateStatus.pendingKbs).getD []).any PendingKb.exploited then
        [⟨20, "A pending Windows update fixes an exploited CVE", 20⟩]
      else []
  else []

/-- The CVEs of a device whose operating system is shown with them (lines 626–628). -/
def shownCves (osVulns : Option OsVulnerabilities) : List OsCve :=
  match osVulns with
  | none => []
  | some o => if o.visible ∧ o.state = "cves" then o.cves.getD [] else []

/-- Lines 626–642. -/
def osCveAdditions (d : NormalizedDevice) : List Addition :=
  let cves := shownCves d.osVulnerabilities
  let criticalHigh : ℤ :=
    (cves.filter fun c => c.severity = some "CRITICAL" || c.severity = some "HIGH").length
  (if criticalHigh > 0 then
    let points := min (criticalHigh * 5) 20
    [⟨points, plural criticalHigh " critical/high CVE" ++ " against this device's OS version",
      points⟩]
  else []) ++
  if cves.any OsCve.isKev then
    [⟨25, "A known-exploited CVE (CISA KEV) is present against this device's OS version", 25⟩]
  else if (cves.map fun c => c.epssScore.getD 0).foldl max 0 ≥ 1 / 2 then
    [⟨15, "An OS CVE has a high exploitation-probability (EPSS) score", 15⟩]
  else []

/-- `appsCriticalHigh += (v.counts?.CRITICAL ?? 0) + (v.counts?.HIGH ?? 0)`. -/
def addCriticalHigh (sum : ℤ) (a : InstalledApp) : ℤ :=
  match a.vuln with
  | none => sum
  | some v => sum + (v.critical.getD 0 + v.high.getD 0 : ℕ)

/-- What the loop over the apps adds up (lines 655–663). -/
def appsCriticalHigh (apps : List InstalledApp) : ℤ :=
  apps.foldl addCriticalHigh 0

def appsHasKev (apps : List InstalledApp) : Bool :=
  apps.any fun a => a.vuln.any AppVuln.hasKev

/-- Lines 654–672. -/
def appCveAdditions (d : NormalizedDevice) : List Addition :=
  let apps := d.installedAppsDetail.getD []
  (if appsCriticalHigh apps > 0 then
    let points := min (appsCriticalHigh apps * 5) 20
    [⟨points, plural (appsCriticalHigh apps) " critical/high CVE" ++ " across installed apps",
      points⟩]
  else []) ++
  if appsHasKev apps then
    [⟨25, "A known-exploited CVE (CISA KEV) is present in an installed app", 25⟩]
  else []

/-- Lines 674–678. -/
def lifecycleAdditions (d : NormalizedDevice) : List Addition :=
  if d.osLifecycleStatus.any OsLifecycleStatus.isEol then
    [⟨20, "OS version has reached end of life for security support", 20⟩]
  else []

/-- Lines 680–686. -/
def appUpdateAdditions (d : NormalizedDevice) : List Addition :=
  let pending := (d.appleAppUpdateStatus.bind AppleAppUpdateStatus.pendingCount).getD 0
  if pending > 0 then
    let points := min (pending * 2) 10
    [⟨points, plural pending " app" ++ " with an update available", points⟩]
  else []

/-- Everything that is added, in order. -/
def additions {Case : Type} (d : NormalizedDevice) (openCases : List Case)
    (activeViolations : List ActiveViolation) : List Addition :=
  complianceAdditions d ++ violationAdditions activeViolations ++ securityAdditions t d ++
    caseAdditions openCases.length ++ osUpdateAdditions d ++ osCveAdditions d ++
    appCveAdditions d ++ lifecycleAdditions d ++ appUpdateAdditions d

def computeDeviceRisk {Case : Type} (d : NormalizedDevice) (openCases : List Case)
    (activeViolations : List ActiveViolation) : RiskResult :=
  let l := additions t d openCases activeViolations
  let score := min (l.foldl (fun score a => score + a.amount) 0) 100
  { riskScore := score
    riskTier :=
      if score ≥ 75 then .critical
      else if score ≥ 50 then .high
      else if score ≥ 25 then .medium
      else .low
    riskFactors := l.map fun a => ⟨a.label, a.points⟩ }

end Texts

/-! ## The score and the factors -/

/-- What is added to the score is what the factor says, and not negative. -/
def Fair (l : List Addition) : Prop :=
  ∀ a ∈ l, a.amount = a.points ∧ 0 ≤ a.points

section Fair

variable {l l' : List Addition} {points : ℤ} {label : String}

theorem fair_nil : Fair [] := forall_mem_nil _

theorem fair_cons (h : 0 ≤ points) (hl : Fair l) : Fair (⟨points, label, points⟩ :: l) :=
  forall_mem_cons.mpr ⟨⟨rfl, h⟩, hl⟩

theorem fair_singleton (h : 0 ≤ points) : Fair [⟨points, label, points⟩] :=
  fair_cons h fair_nil

theorem fair_append (h : Fair l) (h' : Fair l') : Fair (l ++ l') :=
  forall_mem_append.mpr ⟨h, h'⟩

theorem fair_ite {p : Prop} [Decidable p] (h : p → Fair l) : Fair (if p then l else []) := by
  by_cases hp : p
  · rw [if_pos hp]
    exact h hp
  · rw [if_neg hp]
    exact fair_nil

theorem fair_map {α : Type} (f : α → String) (g : α → ℤ) (as : List α) (h : ∀ a ∈ as, 0 ≤ g a) :
    Fair (as.map fun a => ⟨g a, f a, g a⟩) := by
  intro x hx
  obtain ⟨a, ha, rfl⟩ := mem_map.mp hx
  exact ⟨rfl, h a ha⟩

variable (t : Texts) (d : NormalizedDevice)

theorem fair_attestedAdditions (attrs : OrderedMap Value) (lastReportedAt : Option String) :
    Fair (attestedAdditions t attrs lastReportedAt) := by
  refine fair_append (fair_map _ _ _ fun p hp => ?_) ?_
  · have hall : ∀ p ∈ attrPenalties, 0 ≤ p.2.2 := by decide
    exact hall p (mem_filter.mp hp).1
  · cases lastReportedAt with
    | none => exact fair_nil
    | some lastReported => exact fair_ite fun _ => fair_singleton (by decide)

theorem fair_nativeAdditions (n : NativeSecurity) : Fair (nativeAdditions t n) := by
  refine fair_append (fair_append (fair_append (fair_append (fair_append (fair_append ?_ ?_) ?_)
    ?_) ?_) ?_) (fair_map _ _ _ fun _ _ => by decide)
  · exact fair_ite fun _ => fair_singleton (by decide)
  · exact fair_ite fun _ => fair_singleton (by decide)
  · exact fair_ite fun _ => fair_singleton (by decide)
  · exact fair_ite fun _ => fair_singleton (by decide)
  · exact fair_ite fun _ => fair_singleton (by decide)
  · cases n.devicePosture with
    | none => exact fair_nil
    | some posture =>
      refine fair_ite fun _ => fair_singleton ?_
      split_ifs <;> decide

theorem fair_securityAdditions : Fair (securityAdditions t d) := by
  unfold securityAdditions
  dsimp only
  split_ifs
  · exact fair_attestedAdditions t _ _
  · cases d.nativeSecurity with
    | none => exact fair_singleton (by decide)
    | some n => exact fair_nativeAdditions t n

theorem fair_osCveAdditions : Fair (osCveAdditions d) := by
  refine fair_append (fair_ite fun h => fair_singleton (by omega)) ?_
  split_ifs
  · exact fair_singleton (by decide)
  · exact fair_singleton (by decide)
  · exact fair_nil

theorem fair_appCveAdditions : Fair (appCveAdditions d) :=
  fair_append (fair_ite fun h => fair_singleton (by omega))
    (fair_ite fun _ => fair_singleton (by decide))

theorem fair_osUpdateAdditions : Fair (osUpdateAdditions d) :=
  fair_ite fun h => fair_cons (by omega) (fair_ite fun _ => fair_singleton (by decide))

/-- **Every amount is that of its factor.** -/
theorem fair_additions {Case : Type} (openCases : List Case)
    (activeViolations : List ActiveViolation) :
    Fair (additions t d openCases activeViolations) := by
  refine fair_append (fair_append (fair_append (fair_append (fair_append (fair_append (fair_append
    (fair_append ?_ ?_) (fair_securityAdditions t d)) ?_) (fair_osUpdateAdditions d))
    (fair_osCveAdditions d)) (fair_appCveAdditions d)) ?_) ?_
  · exact fair_ite fun _ => fair_singleton (by decide)
  · exact fair_map _ _ _ fun _ _ => by decide
  · exact fair_ite fun h => fair_singleton (by omega)
  · exact fair_ite fun _ => fair_singleton (by decide)
  · exact fair_ite fun h => fair_singleton (by omega)

end Fair

/-! ## More findings -/

/-- What a list adds to the score. -/
def total (l : List Addition) : ℤ :=
  (l.map Addition.amount).sum

@[simp] theorem total_nil : total [] = 0 := rfl

@[simp] theorem total_cons (a : Addition) (l : List Addition) :
    total (a :: l) = a.amount + total l := List.sum_cons

@[simp] theorem total_append (l l' : List Addition) : total (l ++ l') = total l + total l' := by
  rw [total, List.map_append, List.sum_append]
  rfl

theorem foldl_amount (l : List Addition) (score : ℤ) :
    l.foldl (fun score a => score + a.amount) score = score + total l := by
  induction l generalizing score with
  | nil => exact (add_zero score).symm
  | cons a l ih => rw [foldl_cons, ih, total_cons, add_assoc]

/-- What `computeDeviceRisk` is given. -/
structure Findings (Case : Type) where
  device : NormalizedDevice
  openCases : List Case
  activeViolations : List ActiveViolation

/-- The second list of CVEs has the first one's, where flags can have been raised. -/
def FlagsRaised (cves cves' : List OsCve) : Prop :=
  List.Forall₂ (fun c c' => c'.severity = c.severity ∧ c'.epssScore = c.epssScore ∧
    (c.isKev = true → c'.isKev = true)) cves cves'

/-- An app whose CVEs have become no fewer. -/
def AppGrows (a a' : InstalledApp) : Prop :=
  ∀ v, a.vuln = some v → ∃ v', a'.vuln = some v' ∧ v.critical.getD 0 ≤ v'.critical.getD 0 ∧
    v.high.getD 0 ≤ v'.high.getD 0 ∧ (v.hasKev = true → v'.hasKev = true)

/-- Something is found in addition. -/
inductive Adds {Case : Type} : Findings Case → Findings Case → Prop
  | violation (x : Findings Case) (activeViolations : List ActiveViolation)
      (h : x.activeViolations.Sublist activeViolations) :
      Adds x { x with activeViolations := activeViolations }
  | openCase (x : Findings Case) (openCases : List Case) (h : x.openCases.Sublist openCases) :
      Adds x { x with openCases := openCases }
  | osCve (x : Findings Case) (osVulnerabilities : Option OsVulnerabilities)
      (h : (shownCves x.device.osVulnerabilities).Sublist (shownCves osVulnerabilities)) :
      Adds x { x with device := { x.device with osVulnerabilities := osVulnerabilities } }
  | osKev (x : Findings Case) (osVulnerabilities : Option OsVulnerabilities)
      (h : FlagsRaised (shownCves x.device.osVulnerabilities) (shownCves osVulnerabilities)) :
      Adds x { x with device := { x.device with osVulnerabilities := osVulnerabilities } }
  | appCve (x : Findings Case) (apps : List InstalledApp)
      (h : List.SublistForall₂ AppGrows (x.device.installedAppsDetail.getD []) apps) :
      Adds x { x with device := { x.device with installedAppsDetail := some apps } }
  | osUpdate (x : Findings Case) (status : OsUpdateStatus)
      (hcount : (x.device.osUpdateStatus.bind OsUpdateStatus.pendingCount).getD 0 ≤
        status.pendingCount.getD 0)
      (h : ((x.device.osUpdateStatus.bind OsUpdateStatus.pendingKbs).getD []).Sublist
        (status.pendingKbs.getD [])) :
      Adds x { x with device := { x.device with osUpdateStatus := some status } }
  | appUpdate (x : Findings Case) (status : AppleAppUpdateStatus)
      (h : (x.device.appleAppUpdateStatus.bind AppleAppUpdateStatus.pendingCount).getD 0 ≤
        status.pendingCount.getD 0) :
      Adds x { x with device := { x.device with appleAppUpdateStatus := some status } }
  | endOfLife (x : Findings Case) (status : OsLifecycleStatus)
      (h : x.device.osLifecycleStatus.any OsLifecycleStatus.isEol = true → status.isEol = true) :
      Adds x { x with device := { x.device with osLifecycleStatus := some status } }

section Monotone

theorem total_ite {p : Prop} [Decidable p] (l : List Addition) :
    total (if p then l else []) = if p then total l else 0 :=
  apply_ite total p l []

theorem total_map_const {α : Type} (f : α → Addition) (amount : ℤ) (l : List α)
    (h : ∀ a, (f a).amount = amount) : total (l.map f) = amount * l.length := by
  induction l with
  | nil => exact (mul_zero amount).symm
  | cons a l ih =>
    rw [map_cons, total_cons, h, ih, length_cons, Nat.cast_succ, mul_add, mul_one,
      add_comm]

theorem flag_le {p p' : Prop} [Decidable p] [Decidable p'] {points : ℤ} (hpoints : 0 ≤ points)
    (h : p → p') : (if p then points else 0) ≤ if p' then points else 0 := by
  by_cases hp : p
  · rw [if_pos hp, if_pos (h hp)]
  · rw [if_neg hp]
    split_ifs
    · exact hpoints
    · exact le_refl 0

theorem total_violationAdditions_le {l l' : List ActiveViolation} (h : l.Sublist l') :
    total (violationAdditions l) ≤ total (violationAdditions l') := by
  have hlength := h.length_le
  have htotal : ∀ l : List ActiveViolation,
      total (violationAdditions l) = 15 * ((l.take 3).length : ℤ) :=
    fun l => total_map_const _ 15 _ fun _ => rfl
  rw [htotal, htotal, length_take, length_take]
  omega

theorem total_caseAdditions_le {n n' : ℤ} (h : n ≤ n') :
    total (caseAdditions n) ≤ total (caseAdditions n') := by
  simp only [caseAdditions, total_ite, total_cons, total_nil]
  split_ifs <;> omega

/-- The `Math.max` reaches a bound above zero if one of the scores does. -/
theorem le_foldl_max_iff {bound : ℚ} (l : List ℚ) (init : ℚ) :
    bound ≤ l.foldl max init ↔ bound ≤ init ∨ ∃ e ∈ l, bound ≤ e := by
  induction l generalizing init with
  | nil => simp
  | cons e l ih =>
    rw [foldl_cons, ih, le_max_iff, or_assoc]
    simp only [mem_cons, exists_eq_or_imp]

theorem epss_iff (cves : List OsCve) :
    (cves.map fun c => c.epssScore.getD 0).foldl max 0 ≥ 1 / 2 ↔
      ∃ c ∈ cves, 1 / 2 ≤ c.epssScore.getD 0 := by
  rw [ge_iff_le, le_foldl_max_iff, or_iff_right (by decide +kernel)]
  simp only [mem_map, exists_exists_and_eq_and]

variable {d d' : NormalizedDevice}

/-- The severities of an operating system's CVEs, and the flags or else the probabilities. -/
theorem total_osCveAdditions_le (hcount : ((shownCves d.osVulnerabilities).filter fun c =>
        c.severity = some "CRITICAL" || c.severity = some "HIGH").length ≤
      ((shownCves d'.osVulnerabilities).filter fun c =>
        c.severity = some "CRITICAL" || c.severity = some "HIGH").length)
    (hkev : (shownCves d.osVulnerabilities).any OsCve.isKev = true →
      (shownCves d'.osVulnerabilities).any OsCve.isKev = true)
    (hepss : (∃ c ∈ shownCves d.osVulnerabilities, 1 / 2 ≤ c.epssScore.getD 0) →
      ∃ c ∈ shownCves d'.osVulnerabilities, 1 / 2 ≤ c.epssScore.getD 0) :
    total (osCveAdditions d) ≤ total (osCveAdditions d') := by
  simp only [osCveAdditions, total_append, apply_ite total, total_cons, total_nil, epss_iff]
  refine add_le_add ?_ ?_
  · split_ifs <;> omega
  · by_cases hkev' : (shownCves d'.osVulnerabilities).any OsCve.isKev = true
    · rw [if_pos hkev']
      split_ifs <;> decide
    · rw [if_neg hkev', if_neg fun h => hkev' (hkev h)]
      by_cases hhigh : ∃ c ∈ shownCves d.osVulnerabilities, 1 / 2 ≤ c.epssScore.getD 0
      · rw [if_pos hhigh, if_pos (hepss hhigh)]
      · rw [if_neg hhigh]
        split_ifs <;> decide

/-- The critical and high CVEs of an app. -/
def criticalHigh (a : InstalledApp) : ℕ :=
  (a.vuln.map fun v => v.critical.getD 0 + v.high.getD 0).getD 0

theorem foldl_addCriticalHigh (apps : List InstalledApp) (sum : ℤ) :
    apps.foldl addCriticalHigh sum = sum + ((apps.map criticalHigh).sum : ℕ) := by
  induction apps generalizing sum with
  | nil => exact (add_zero sum).symm
  | cons a apps ih =>
    have hstep : addCriticalHigh sum a = sum + (criticalHigh a : ℕ) := by
      unfold addCriticalHigh criticalHigh
      cases a.vuln with
      | none => exact (add_zero sum).symm
      | some v => rfl
    rw [foldl_cons, ih, hstep, map_cons, sum_cons, Nat.cast_add, add_assoc]

theorem appsCriticalHigh_eq (apps : List InstalledApp) :
    appsCriticalHigh apps = ((apps.map criticalHigh).sum : ℕ) :=
  (foldl_addCriticalHigh apps 0).trans (zero_add _)

variable {a a' : InstalledApp}

theorem AppGrows.criticalHigh_le (h : AppGrows a a') : criticalHigh a ≤ criticalHigh a' := by
  unfold criticalHigh
  cases hv : a.vuln with
  | none => exact Nat.zero_le _
  | some v =>
    obtain ⟨v', hv', hcritical, hhigh, -⟩ := h v hv
    rw [hv']
    exact Nat.add_le_add hcritical hhigh

theorem AppGrows.hasKev (h : AppGrows a a')
    (hkev : a.vuln.any AppVuln.hasKev = true) : a'.vuln.any AppVuln.hasKev = true := by
  cases hv : a.vuln with
  | none =>
    rw [hv] at hkev
    cases hkev
  | some v =>
    rw [hv] at hkev
    obtain ⟨v', hv', -, -, hflag⟩ := h v hv
    rw [hv']
    exact hflag hkev

section Flags

variable {cves cves' : List OsCve}

theorem FlagsRaised.length_filter (h : FlagsRaised cves cves') (q : Option String → Bool) :
    (cves.filter fun c => q c.severity).length = (cves'.filter fun c => q c.severity).length := by
  induction h with
  | nil => rfl
  | cons hc _ ih =>
    rw [filter_cons, filter_cons, hc.1]
    split_ifs
    · rw [length_cons, length_cons, ih]
    · exact ih

theorem FlagsRaised.isKev (h : FlagsRaised cves cves') (hkev : cves.any OsCve.isKev = true) :
    cves'.any OsCve.isKev = true := by
  induction h with
  | nil => cases hkev
  | cons hc _ ih =>
    rw [any_cons, Bool.or_eq_true] at hkev ⊢
    exact hkev.imp hc.2.2 ih

theorem FlagsRaised.epss (h : FlagsRaised cves cves')
    (hhigh : ∃ c ∈ cves, 1 / 2 ≤ c.epssScore.getD 0) : ∃ c ∈ cves', 1 / 2 ≤ c.epssScore.getD 0 := by
  induction h with
  | nil => exact hhigh
  | cons hc _ ih =>
    simp only [mem_cons, exists_eq_or_imp] at hhigh ⊢
    exact hhigh.imp (fun h => hc.2.1 ▸ h) ih

end Flags

section Apps

variable {apps apps' : List InstalledApp}

theorem sum_criticalHigh_le (h : SublistForall₂ AppGrows apps apps') :
    (apps.map criticalHigh).sum ≤ (apps'.map criticalHigh).sum := by
  induction h with
  | nil => exact Nat.zero_le _
  | cons hgrows _ ih => exact Nat.add_le_add hgrows.criticalHigh_le ih
  | cons_right _ ih => exact ih.trans (Nat.le_add_left _ _)

theorem appsHasKev_of_grows (h : SublistForall₂ AppGrows apps apps')
    (hkev : appsHasKev apps = true) : appsHasKev apps' = true := by
  unfold appsHasKev at hkev ⊢
  induction h with
  | nil => cases hkev
  | cons hgrows _ ih =>
    rw [any_cons, Bool.or_eq_true] at hkev ⊢
    exact hkev.imp hgrows.hasKev ih
  | cons_right _ ih =>
    rw [any_cons, ih hkev, Bool.or_true]

end Apps

theorem total_appCveAdditions_le (h : SublistForall₂ AppGrows (d.installedAppsDetail.getD [])
      (d'.installedAppsDetail.getD [])) :
    total (appCveAdditions d) ≤ total (appCveAdditions d') := by
  have hcounts := sum_criticalHigh_le h
  simp only [appCveAdditions, appsCriticalHigh_eq, total_append, apply_ite total, total_cons,
    total_nil]
  refine add_le_add ?_ ?_
  · split_ifs <;> omega
  · exact flag_le (by decide) (appsHasKev_of_grows h)

theorem total_osUpdateAdditions_le
    (hcount : (d.osUpdateStatus.bind OsUpdateStatus.pendingCount).getD 0 ≤
      (d'.osUpdateStatus.bind OsUpdateStatus.pendingCount).getD 0)
    (h : ((d.osUpdateStatus.bind OsUpdateStatus.pendingKbs).getD []).Sublist
      ((d'.osUpdateStatus.bind OsUpdateStatus.pendingKbs).getD [])) :
    total (osUpdateAdditions d) ≤ total (osUpdateAdditions d') := by
  have hexploited : ((d.osUpdateStatus.bind OsUpdateStatus.pendingKbs).getD []).any
      PendingKb.exploited = true → ((d'.osUpdateStatus.bind OsUpdateStatus.pendingKbs).getD []).any
      PendingKb.exploited = true := by
    simp only [any_eq_true]
    rintro ⟨kb, hkb, hflag⟩
    exact ⟨kb, h.subset hkb, hflag⟩
  simp only [osUpdateAdditions, apply_ite total, total_cons, total_nil]
  by_cases hpending : (d.osUpdateStatus.bind OsUpdateStatus.pendingCount).getD 0 > 0
  · rw [if_pos hpending, if_pos (lt_of_lt_of_le hpending hcount)]
    exact add_le_add (by omega) (flag_le (by decide) hexploited)
  · rw [if_neg hpending]
    split_ifs <;> omega

theorem total_appUpdateAdditions_le
    (h : (d.appleAppUpdateStatus.bind AppleAppUpdateStatus.pendingCount).getD 0 ≤
      (d'.appleAppUpdateStatus.bind AppleAppUpdateStatus.pendingCount).getD 0) :
    total (appUpdateAdditions d) ≤ total (appUpdateAdditions d') := by
  simp only [appUpdateAdditions, apply_ite total, total_cons, total_nil]
  split_ifs <;> omega

theorem total_lifecycleAdditions_le (h : d.osLifecycleStatus.any OsLifecycleStatus.isEol = true →
      d'.osLifecycleStatus.any OsLifecycleStatus.isEol = true) :
    total (lifecycleAdditions d) ≤ total (lifecycleAdditions d') := by
  unfold lifecycleAdditions
  rw [total_ite, total_ite]
  exact flag_le (by decide) h

variable {Case : Type} (t : Texts)

theorem total_additions (x : Findings Case) :
    total (additions t x.device x.openCases x.activeViolations) =
      total (complianceAdditions x.device) + total (violationAdditions x.activeViolations) +
        total (securityAdditions t x.device) + total (caseAdditions x.openCases.length) +
        total (osUpdateAdditions x.device) + total (osCveAdditions x.device) +
        total (appCveAdditions x.device) + total (lifecycleAdditions x.device) +
        total (appUpdateAdditions x.device) := by
  simp only [additions, total_append]

/-- **What is found in addition adds no less.** Each finding is read by one part of the score
only. -/
theorem total_additions_le {x y : Findings Case} (h : Adds x y) :
    total (additions t x.device x.openCases x.activeViolations) ≤
      total (additions t y.device y.openCases y.activeViolations) := by
  rw [total_additions, total_additions]
  -- the sum is left-associated: the parts behind the one that grows are peeled off first
  cases h with
  | violation violations h =>
    have hle := total_violationAdditions_le h
    gcongr
  | openCase cases h =>
    have hle := total_caseAdditions_le (Int.ofNat_le.mpr h.length_le)
    gcongr
  | osCve osVulnerabilities h =>
    refine add_le_add (add_le_add (add_le_add (add_le_add (le_refl _) ?_) (le_refl _))
      (le_refl _)) (le_refl _)
    refine total_osCveAdditions_le (h.filter _).length_le (fun hkev => ?_) fun hepss => ?_
    · obtain ⟨c, hc, hflag⟩ := any_eq_true.mp hkev
      exact any_eq_true.mpr ⟨c, h.subset hc, hflag⟩
    · obtain ⟨c, hc, hhigh⟩ := hepss
      exact ⟨c, h.subset hc, hhigh⟩
  | osKev osVulnerabilities h =>
    refine add_le_add (add_le_add (add_le_add (add_le_add (le_refl _) ?_) (le_refl _))
      (le_refl _)) (le_refl _)
    exact total_osCveAdditions_le (le_of_eq (h.length_filter fun severity =>
      severity = some "CRITICAL" || severity = some "HIGH")) h.isKev h.epss
  | appCve apps h =>
    refine add_le_add (add_le_add (add_le_add (le_refl _) ?_) (le_refl _)) (le_refl _)
    exact total_appCveAdditions_le h
  | osUpdate status hcount h =>
    refine add_le_add (add_le_add (add_le_add (add_le_add (add_le_add (le_refl _) ?_) (le_refl _))
      (le_refl _)) (le_refl _)) (le_refl _)
    exact total_osUpdateAdditions_le hcount h
  | appUpdate status h => exact add_le_add (le_refl _) (total_appUpdateAdditions_le h)
  | endOfLife status h =>
    refine add_le_add (add_le_add (le_refl _) ?_) (le_refl _)
    exact total_lifecycleAdditions_le h

/-! ## The result -/

theorem riskScore_eq (d : NormalizedDevice) (openCases : List Case)
    (activeViolations : List ActiveViolation) :
    (computeDeviceRisk t d openCases activeViolations).riskScore =
      min (total (additions t d openCases activeViolations)) 100 := by
  rw [computeDeviceRisk]
  dsimp only
  rw [foldl_amount, zero_add]

theorem sum_points {l : List Addition} (h : Fair l) :
    ((l.map fun a => RiskFactor.mk a.label a.points).map RiskFactor.points).sum = total l := by
  rw [map_map, total]
  congr 1
  exact map_congr_left fun a ha => (h a ha).1.symm

/-- The tier that belongs to a score. -/
def IsTier (score : ℤ) : RiskTier → Prop
  | .low => score < 25
  | .medium => 25 ≤ score ∧ score < 50
  | .high => 50 ≤ score ∧ score < 75
  | .critical => 75 ≤ score

/-- **The score, its tier and its factors**, and that more findings do not lower the score. -/
theorem riskScore_laws {Case : Type} (t : Texts) (x : Findings Case) :
    (∀ r, r = computeDeviceRisk t x.device x.openCases x.activeViolations →
      r.riskScore = min 100 (r.riskFactors.map RiskFactor.points).sum ∧
      (∀ f ∈ r.riskFactors, 0 ≤ f.points) ∧ IsTier r.riskScore r.riskTier) ∧
    ∀ y, Relation.ReflTransGen Adds x y →
      (computeDeviceRisk t x.device x.openCases x.activeViolations).riskScore ≤
        (computeDeviceRisk t y.device y.openCases y.activeViolations).riskScore := by
  refine ⟨?_, fun y h => ?_⟩
  · rintro r rfl
    have hfair := fair_additions t x.device x.openCases x.activeViolations
    refine ⟨?_, fun f hf => ?_, ?_⟩
    · rw [riskScore_eq, min_comm]
      exact congrArg (min 100) (sum_points hfair).symm
    · obtain ⟨a, ha, rfl⟩ := mem_map.mp hf
      exact (hfair a ha).2
    · generalize hscore : (computeDeviceRisk t x.device x.openCases x.activeViolations).riskScore =
        score
      have htier : (computeDeviceRisk t x.device x.openCases x.activeViolations).riskTier =
          if score ≥ 75 then .critical else if score ≥ 50 then .high
          else if score ≥ 25 then .medium else .low := hscore ▸ rfl
      rw [htier]
      split_ifs <;> simp only [IsTier] <;> omega
  · rw [riskScore_eq, riskScore_eq]
    refine min_le_min_right 100 ?_
    induction h with
    | refl => exact le_refl _
    | tail _ hadds ih => exact ih.trans (total_additions_le t hadds)

end Monotone

end AppliverySoar.Devices.Risk
