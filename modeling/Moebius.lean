import Moebius.TransitionGraph
import Moebius.Reaper
import Moebius.TenantIsolation
import Moebius.Confinement
import Moebius.CancelRace
import Moebius.AuditReplay
import Moebius.StartConsent
import Moebius.ConsentFailure
import Moebius.Proxy
import Moebius.ScopedLists
import Moebius.Escalation
import Moebius.FailOpen
import Moebius.ScheduleScope
import Moebius.ScheduleRuns
import Moebius.RetryDelay
import Moebius.RollbackTarget
import Moebius.UpdateReports
import Moebius.UploadRace
import Moebius.RoundTrip
import Moebius.UploadSize
import Moebius.InventorySync
import Moebius.ScopeOrder
import Moebius.QueueQuota
import Moebius.Deactivation
import Moebius.Dispatch
import Moebius.LimiterWindow
import Moebius.SessionHistory
import Moebius.LogShipper
import Moebius.MigrateRuns
import Moebius.UploadProgress
import Moebius.ResultRace
import Moebius.RevokedJobs
import Moebius.TransferRace
import Moebius.TransferPaths
import Moebius.RenewalFiles
import Moebius.PkgHelper
import Moebius.Durations
import Moebius.Versions
import Moebius.UpdatePolicies
import Moebius.Listings
import Moebius.Attribution
import Moebius.InstallScripts
import Moebius.Ipc
import Moebius.InstallerAuth
import Moebius.JobReads
import Moebius.Rollouts
