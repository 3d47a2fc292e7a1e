import EventRetention.Log.Call
import EventRetention.Log.Journal
import EventRetention.Log.Stream
import EventRetention.Main
import EventRetention.Proofs.AcceptedSettings
import EventRetention.Proofs.AuditTrail
import EventRetention.Proofs.BoundedDelete
import EventRetention.Proofs.CleaningDialogue
import EventRetention.Proofs.CompetingCleaners
import EventRetention.Proofs.DryRun
import EventRetention.Proofs.EqualSources
import EventRetention.Proofs.ExpiryMonotone
import EventRetention.Proofs.ExpiryPrefix
import EventRetention.Proofs.FailedSteps
import EventRetention.Proofs.ForwardClock
import EventRetention.Proofs.IndependentSteps
import EventRetention.Proofs.InsertionOrder
import EventRetention.Proofs.InterleavedFolds
import EventRetention.Proofs.LatestScan
import EventRetention.Proofs.LayeredSettings
import EventRetention.Proofs.LogTransparency
import EventRetention.Proofs.LoggedLines
import EventRetention.Proofs.NearestQuotient
import EventRetention.Proofs.ReportedSettings
import EventRetention.Proofs.ResumedCleaning
import EventRetention.Proofs.RetentionRace
import EventRetention.Proofs.RowAccounting
import EventRetention.Proofs.SeparateFields
import EventRetention.Proofs.SequentialFolds
import EventRetention.Proofs.SessionStates
import EventRetention.Proofs.SettableClock
import EventRetention.Proofs.SoleCleaner
import EventRetention.Proofs.StaleUpdate
import EventRetention.Proofs.UniversalTime
import EventRetention.Proofs.WholeActions
import EventRetention.Proofs.WrittenRows
import EventRetention.Retention.Script
import EventRetention.Proofs.LogRoutes
