import AppliverySoar.Access.Collaborators
import AppliverySoar.Analytics.SharedCache
import AppliverySoar.Analytics.WidgetTiers
import AppliverySoar.AppLists.PackageRecords
import AppliverySoar.AppLists.Presence
import AppliverySoar.AppLists.Refresher
import AppliverySoar.AppLists.ReportedApps
import AppliverySoar.Automations.Acknowledged
import AppliverySoar.Automations.AutorunCap
import AppliverySoar.Automations.DeviceKeys
import AppliverySoar.Automations.TriggerStates
import AppliverySoar.Automations.WebhookDeliveries
import AppliverySoar.Cases.Lifecycle
import AppliverySoar.Cases.Links
import AppliverySoar.Cases.LostUpdates
import AppliverySoar.Cases.SlaBreaches
import AppliverySoar.Catalogs.AppBatch
import AppliverySoar.Catalogs.GdmfTargets
import AppliverySoar.Catalogs.LifecycleCatalog
import AppliverySoar.Catalogs.LookupKeys
import AppliverySoar.Catalogs.PatchLevels
import AppliverySoar.Catalogs.PendingUpdates
import AppliverySoar.Catalogs.SofaReleases
import AppliverySoar.Compliance.AlertCaps
import AppliverySoar.Compliance.BlobRace
import AppliverySoar.Compliance.BreakerReset
import AppliverySoar.Compliance.MissingData
import AppliverySoar.Compliance.PassBalance
import AppliverySoar.Compliance.PassFailure
import AppliverySoar.Compliance.ReviewRace
import AppliverySoar.Compliance.SharedMarkers
import AppliverySoar.Compliance.Verdicts
import AppliverySoar.Config.Cloning
import AppliverySoar.DeviceData.Confinement
import AppliverySoar.DeviceData.Provenance
import AppliverySoar.Devices.RiskScore
import AppliverySoar.Devices.Tokens
import AppliverySoar.Firewall.RuleSets
import AppliverySoar.Geofencing.PointInPolygon
import AppliverySoar.LogExport.Cef
import AppliverySoar.LogExport.Delivery
import AppliverySoar.Mtls.Lockout
import AppliverySoar.Mtls.Renewal
import AppliverySoar.Mtls.SubjectNames
import AppliverySoar.Reports.Minutes
import AppliverySoar.Requests.LaunchRoutes
import AppliverySoar.Requests.RateLimiter
import AppliverySoar.Requests.TokenBucket
import AppliverySoar.Services.AllPages
import AppliverySoar.Settings.AgentBuilds
import AppliverySoar.SystemHealth.Alerts
import AppliverySoar.Workflows.DestructiveGate
import AppliverySoar.Workflows.DryRun
import AppliverySoar.Workflows.ParkRace
import AppliverySoar.Workflows.PolicyAdd
import AppliverySoar.Workflows.Restarts
import AppliverySoar.Workflows.RestoreScripts
import AppliverySoar.Workflows.RunIsolation
import AppliverySoar.Workflows.ScriptReconciler
import AppliverySoar.Workflows.Templates
import AppliverySoar.Workflows.Versions
