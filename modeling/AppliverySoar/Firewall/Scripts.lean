import AppliverySoar.Access.Rbac

/-!
# The scripts of a firewall rule set

Model of `generateFirewallApplyScript` and `generateFirewallRestoreScript`
(firewallRuleSets.service.ts, lines 32–166). A script is a list of commands, each with its
text; what it does to a device is read off the commands. It stops at the first one that
fails. The protocol, the ports and the profile of a rule are taken as single arguments.

Results:
* `restore_eq`: what a restore does to a device.
* `apply_action`: an apply leaves alone a default action that its rule set does not
  configure.
-/

namespace AppliverySoar.Firewall

open Access (TextOps)

/-! ## Texts -/

/-- `toLowerCase`, `trim` and `toUpperCase`. -/
structure ScriptText extends TextOps where
  upper : String → String

/-- `s || d`. -/
def orText (s : Option String) (d : String) : String :=
  match s with
  | none | some "" => d
  | some s => s

/-- `psEscape`; 96 is the backtick. -/
def psEscape (s : String) : String :=
  String.ofList (s.toList.flatMap fun c =>
    if c = Char.ofNat 96 ∨ c = '"' then [Char.ofNat 96, c] else [c])

/-- `FIREWALL_GROUP_PREFIX`. -/
def firewallGroupPrefix : String :=
  "BPSOAR-FW"

def firewallGroupTag (ruleSetId : String) : String :=
  firewallGroupPrefix ++ "-" ++ ruleSetId

/-! ## Rule sets -/

structure FirewallRulePayload where
  id : Option String := none
  name : Option String := none
  direction : Option String := none
  action : Option String := none
  protocol : Option String := none
  localPorts : Option String := none
  remoteAddresses : Option String := none
  profile : Option String := none
  enabled : Option Bool := none

structure FirewallRuleSetLike where
  id : String
  name : String
  ensureFirewallEnabled : Bool
  defaultInboundAction : String
  defaultOutboundAction : String
  rules : List FirewallRulePayload

def firewallRuleToPowershell (t : ScriptText) (rule : FirewallRulePayload) (groupTag : String)
    (idx : ℕ) : String :=
  let direction := if t.lower (orText rule.direction "inbound") = "inbound" then "Inbound"
    else "Outbound"
  let action := if t.lower (orText rule.action "block") = "block" then "Block" else "Allow"
  let displayName := groupTag ++ "-" ++ toString idx ++ "-" ++
    String.ofList ((orText rule.name "rule").toList.take 60)
  let protocol := t.trim (orText rule.protocol "Any")
  let localPorts := t.trim (orText rule.localPorts "")
  let remote := t.trim (orText rule.remoteAddresses "")
  let profile := t.trim (orText rule.profile "Any")
  let parts :=
    ["New-NetFirewallRule -DisplayName \"" ++ psEscape displayName ++ "\"",
      "-Group \"" ++ groupTag ++ "\"",
      "-Direction " ++ direction,
      "-Action " ++ action,
      "-Enabled " ++ (if rule.enabled ≠ some false then "True" else "False")] ++
    (if t.lower protocol ≠ "any" then ["-Protocol " ++ protocol] ++
      (if localPorts ≠ "" ∧ t.lower localPorts ≠ "any" then ["-LocalPort " ++ localPorts] else [])
      else []) ++
    (if remote ≠ "" ∧ t.lower remote ≠ "any" then
      ["-RemoteAddress \"" ++ psEscape remote ++ "\""] else []) ++
    (if t.lower profile ≠ "any" then ["-Profile " ++ profile] else [])
  " ".intercalate parts ++ " | Out-Null"

/-! ## Scripts -/

/-- A line of a script: one without effect on the firewall, or a command. -/
inductive Command
  | text (line : String)
  | removeGroup (group : String)
  | setProfile (enable : Bool) (inbound outbound : Option String)
  | newRule (group line : String)

/-- The line, as the script has it. -/
def Command.line : Command → String
  | .text line => line
  | .removeGroup _ => "Get-NetFirewallRule -Group $Group -ErrorAction SilentlyContinue | Remove-NetFirewallRule -ErrorAction SilentlyContinue"
  | .setProfile enable inbound outbound => " ".intercalate (["Set-NetFirewallProfile", "-All"] ++
      (if enable then ["-Enabled True"] else []) ++
      (inbound.map fun action => "-DefaultInboundAction " ++ action).toList ++
      (outbound.map fun action => "-DefaultOutboundAction " ++ action).toList)
  | .newRule _ line => line

/-- The text of a script. -/
def scriptText (script : List Command) : String :=
  "\n".intercalate (script.map Command.line)

/-- `ruleSet.defaultInboundAction || "notConfigured"`, where it is configured. -/
def configured (action : String) : Option String :=
  if action = "" ∨ action = "notConfigured" then none else some action

/-- An action with its first letter in upper case. -/
def capitalised (t : ScriptText) (action : String) : String :=
  t.upper (String.ofList (action.toList.take 1)) ++ String.ofList (action.toList.drop 1)

def generateFirewallApplyScript (t : ScriptText) (ruleSet : FirewallRuleSetLike) : List Command :=
  let group := firewallGroupTag ruleSet.id
  let name := orText ruleSet.name "Firewall Rule Set"
  let inbound := configured ruleSet.defaultInboundAction
  let outbound := configured ruleSet.defaultOutboundAction
  [.text ("# Auto-generated by Applivery SOAR — Firewall Rule Set \"" ++ psEscape name ++ "\""),
    .text ("# Rule set id: " ++ ruleSet.id),
    .text "# Do not edit on-device — make changes in Workflows > Firewall Policies and re-apply.",
    .text "$ErrorActionPreference = \"Stop\"",
    .text ("$Group = \"" ++ group ++ "\""),
    .text "",
    .text "# Idempotent: clear any rules we previously created under this group before recreating",
    .text "# them, so re-applying (rule set edited, workflow re-run) never leaves duplicates or",
    .text "# stale rules behind.",
    .removeGroup group,
    .text ""] ++
  (if ruleSet.ensureFirewallEnabled ∨ inbound ≠ none ∨ outbound ≠ none then
    (if ruleSet.ensureFirewallEnabled then
      [.text "# No EDR present (per this rule set's own configuration) — verify Windows Firewall",
        .text "# itself is enabled, otherwise nothing below would actually be enforced."]
    else
      [.text "# EDR present (per this rule set's own configuration) — Windows Firewall's enabled",
        .text "# state is left exactly as-is; only the default posture below (if configured) changes."]) ++
    (if inbound ≠ none ∨ outbound ≠ none then
      [.text "# Changing the profile's DEFAULT action (not a rule) is what makes a genuine \"allow",
        .text "# only these exceptions\" posture possible: Windows Firewall always lets an explicit",
        .text "# Block rule beat an explicit Allow rule regardless of which was created when or by",
        .text "# whom, so a \"block everything, then allow X\" pair of RULES would never actually let",
        .text "# X through. Flipping the profile default instead means unmatched traffic is blocked/",
        .text "# allowed by default, and this rule set's own Allow/Block rules below are what carve",
        .text "# out the exceptions — which behave normally against a changed default."]
    else []) ++
    [.setProfile ruleSet.ensureFirewallEnabled (inbound.map (capitalised t))
        (outbound.map (capitalised t)),
      .text ""]
  else []) ++
  (if ruleSet.rules ≠ [] then
    [.text "# Block rules always take precedence over Allow rules in Windows Firewall",
      .text "# regardless of creation order — containment (Block) rules below are reliable",
      .text "# even alongside pre-existing/EDR-managed rules; a narrow Allow rule is only",
      .text "# guaranteed to hold if nothing else is blocking that same traffic first."]
  else []) ++
  ruleSet.rules.mapIdx (fun idx rule =>
    .newRule group (firewallRuleToPowershell t rule group idx)) ++
  [.text "",
    .text ("Write-Output \"Applied firewall rule set '" ++ psEscape name ++ "' (" ++
      toString ruleSet.rules.length ++ " rule(s), group=$Group).\"")]

/-- `WINDOWS_FIREWALL_OS_DEFAULT_INBOUND`. -/
def windowsFirewallOsDefaultInbound : String :=
  "Block"

/-- `WINDOWS_FIREWALL_OS_DEFAULT_OUTBOUND`. -/
def windowsFirewallOsDefaultOutbound : String :=
  "Allow"

def generateFirewallRestoreScript (ruleSet : FirewallRuleSetLike) : List Command :=
  let group := firewallGroupTag ruleSet.id
  let name := orText ruleSet.name "Firewall Rule Set"
  let inbound := configured ruleSet.defaultInboundAction
  let outbound := configured ruleSet.defaultOutboundAction
  [.text ("# Auto-generated by Applivery SOAR — restores a device from Firewall Rule Set \"" ++
      psEscape name ++ "\""),
    .text ("# Removes every rule this rule set created (group=" ++ group ++
      "). Whatever firewall state"),
    .text "# pre-existed underneath is automatically back in effect once these are gone — no",
    .text "# snapshot was ever taken or is needed.",
    .text "$ErrorActionPreference = \"Stop\"",
    .text ("$Group = \"" ++ group ++ "\""),
    .removeGroup group] ++
  (if inbound ≠ none ∨ outbound ≠ none then
    [.text "# Revert the profile default posture this rule set changed, back to Windows' own OS default.",
      .setProfile false (inbound.map fun _ => windowsFirewallOsDefaultInbound)
        (outbound.map fun _ => windowsFirewallOsDefaultOutbound)]
  else []) ++
  [.text ("Write-Output \"Restored device from firewall rule set '" ++ psEscape name ++
    "' (removed group=$Group).\"")]

/-! ## Devices -/

/-- A default action of a firewall profile. -/
inductive DefaultAction
  | block
  | allow
  | notConfigured
  deriving DecidableEq

/-- A firewall rule: its group, and the line that created it. -/
structure GroupedRule where
  group : String
  line : String
  deriving DecidableEq

/-- The firewall of a device. -/
structure WindowsFirewall where
  rules : List GroupedRule
  enabled : Bool
  inbound : DefaultAction
  outbound : DefaultAction
  deriving DecidableEq

/-- What a device makes of arguments: the default actions that it knows, `Block` and `Allow`
among them, and the rules that it can create. -/
structure PowerShell where
  action : String → Option DefaultAction
  newRule : String → Bool
  block : action "Block" = some .block
  allow : action "Allow" = some .allow

/-- The value of an argument that may be left out. -/
def PowerShell.set (ps : PowerShell) (arg : Option String) (current : DefaultAction) :
    Option DefaultAction :=
  match arg with
  | none => some current
  | some action => ps.action action

/-- What a command does, unless it fails. -/
def Command.run (ps : PowerShell) (command : Command) (device : WindowsFirewall) :
    Option WindowsFirewall :=
  match command with
  | .text _ => some device
  | .removeGroup group =>
    some { device with rules := device.rules.filter fun r => r.group ≠ group }
  | .setProfile enable inbound outbound =>
    match ps.set inbound device.inbound, ps.set outbound device.outbound with
    | some inbound, some outbound =>
      some { device with
        enabled := enable || device.enabled
        inbound := inbound
        outbound := outbound }
    | _, _ => none
  | .newRule group line =>
    if ps.newRule line then some { device with rules := device.rules ++ [⟨group, line⟩] } else none

/-- What a script does. -/
def runScript (ps : PowerShell) : List Command → WindowsFirewall → WindowsFirewall
  | [], device => device
  | command :: script, device =>
    match command.run ps device with
    | some device => runScript ps script device
    | none => device

/-- The two default actions of a profile. -/
inductive Axis
  | inbound
  | outbound

/-- The default action of a device. -/
def WindowsFirewall.action (device : WindowsFirewall) : Axis → DefaultAction
  | .inbound => device.inbound
  | .outbound => device.outbound

/-- What a rule set says of it. -/
def FirewallRuleSetLike.action (ruleSet : FirewallRuleSetLike) : Axis → String
  | .inbound => ruleSet.defaultInboundAction
  | .outbound => ruleSet.defaultOutboundAction

/-- What Windows says of it. -/
def Axis.osDefault : Axis → DefaultAction
  | .inbound => .block
  | .outbound => .allow

/-- One of two arguments. -/
def Axis.pick {α : Type} (inbound outbound : α) : Axis → α
  | .inbound => inbound
  | .outbound => outbound

section Effect

variable {ps : PowerShell} {t : ScriptText} {ruleSet : FirewallRuleSetLike}
  {device : WindowsFirewall}

theorem runScript_keeps {P : WindowsFirewall → Prop} {script : List Command}
    (h : ∀ command ∈ script, ∀ device device', command.run ps device = some device' → P device →
      P device') (hdevice : P device) : P (runScript ps script device) := by
  induction script generalizing device with
  | nil => exact hdevice
  | cons command script ih =>
    rw [runScript]
    cases hrun : command.run ps device with
    | none => exact hdevice
    | some device' =>
      exact ih (fun c hc => h c (List.mem_cons_of_mem command hc))
        (h command List.mem_cons_self device device' hrun hdevice)

variable {inbound outbound : Option String}

theorem run_setProfile {enable : Bool} {device' : WindowsFirewall}
    (h : (Command.setProfile enable inbound outbound).run ps device = some device') (axis : Axis) :
    ps.set (axis.pick inbound outbound) (device.action axis) = some (device'.action axis) := by
  unfold Command.run at h
  dsimp only at h
  split at h
  · next hin hout =>
    obtain rfl := Option.some.inj h
    cases axis with
    | inbound => exact hin
    | outbound => exact hout
  · cases h

/-- The commands of an apply that change the profile do it as the rule set says. -/
theorem apply_setProfile {enable : Bool}
    (h : Command.setProfile enable inbound outbound ∈ generateFirewallApplyScript t ruleSet)
    (axis : Axis) :
    axis.pick inbound outbound = (configured (ruleSet.action axis)).map (capitalised t) := by
  have hboth : inbound = (configured ruleSet.defaultInboundAction).map (capitalised t) ∧
      outbound = (configured ruleSet.defaultOutboundAction).map (capitalised t) := by
    unfold generateFirewallApplyScript at h
    simp only [List.mem_append, List.mem_mapIdx] at h
    rcases h with (((h | h) | h) | ⟨_, _, h⟩) | h
    · simp at h
    · split_ifs at h <;> simp_all
    · split_ifs at h <;> simp at h
    · cases h
    · simp at h
  cases axis with
  | inbound => exact hboth.1
  | outbound => exact hboth.2

/-- An apply leaves alone a default action that its rule set does not configure. -/
theorem apply_action {axis : Axis} (h : configured (ruleSet.action axis) = none) :
    (runScript ps (generateFirewallApplyScript t ruleSet) device).action axis =
      device.action axis := by
  refine runScript_keeps (P := fun d => d.action axis = device.action axis)
    (fun command hc d d' hrun hd => ?_) rfl
  cases command with
  | text line => exact Option.some.inj hrun ▸ hd
  | removeGroup group =>
    obtain rfl := Option.some.inj hrun
    cases axis <;> exact hd
  | setProfile enable inbound outbound =>
    have hset := run_setProfile hrun axis
    rw [apply_setProfile hc axis, h] at hset
    exact (Option.some.inj hset).symm.trans hd
  | newRule group line =>
    unfold Command.run at hrun
    dsimp only at hrun
    split_ifs at hrun
    obtain rfl := Option.some.inj hrun
    cases axis <;> exact hd

/-- A restore removes the rules of the group, and resets the default actions that its rule set
configures. -/
theorem restore_eq : runScript ps (generateFirewallRestoreScript ruleSet) device =
    { device with
      rules := device.rules.filter fun r => r.group ≠ firewallGroupTag ruleSet.id
      inbound := if configured ruleSet.defaultInboundAction = none then device.inbound else .block
      outbound := if configured ruleSet.defaultOutboundAction = none then device.outbound
        else .allow } := by
  unfold generateFirewallRestoreScript
  cases configured ruleSet.defaultInboundAction <;>
    cases configured ruleSet.defaultOutboundAction <;>
    simp [runScript, Command.run, PowerShell.set, windowsFirewallOsDefaultInbound,
      windowsFirewallOsDefaultOutbound, ps.block, ps.allow]

theorem restore_action (axis : Axis) :
    (runScript ps (generateFirewallRestoreScript ruleSet) device).action axis =
      if configured (ruleSet.action axis) = none then device.action axis else axis.osDefault := by
  rw [restore_eq]
  cases axis <;> rfl

theorem restore_rules :
    ∀ r ∈ (runScript ps (generateFirewallRestoreScript ruleSet) device).rules,
      r.group ≠ firewallGroupTag ruleSet.id := by
  rw [restore_eq]
  intro r hr
  exact of_decide_eq_true (List.mem_filter.mp hr).2

end Effect

end AppliverySoar.Firewall
