import GitMate.Library.Outbox
import GitMate.Guarantees.Conservation
import GitMate.Guarantees.Fencing
import GitMate.Guarantees.Reports
import GitMate.Guarantees.LifeCycle
import GitMate.Guarantees.GivenUp
import GitMate.Guarantees.Attempts
import GitMate.Guarantees.Constraints
import GitMate.Guarantees.Acceptance
import GitMate.Guarantees.Checkpoint
import GitMate.Guarantees.DueQuery
import GitMate.Guarantees.Encoding
import GitMate.Guarantees.Evidence
import GitMate.Guarantees.WebhookOrder
import GitMate.Guarantees.InstallState
import GitMate.Guarantees.Purposes
import GitMate.Guarantees.Deactivation
import GitMate.Guarantees.Rotation
import GitMate.Guarantees.FirstDelivery
import GitMate.Library.Number
import GitMate.Collection.GithubErrors
import GitMate.Guarantees.RateLimits
import GitMate.Collection.RepositoryCollection
import GitMate.Guarantees.Pagination
import GitMate.Library.JsonValue
import GitMate.Scripts.DisableAsyncAnalysis
import GitMate.Guarantees.EmergencyStop
import GitMate.Library.IsoDate
import GitMate.Library.Paging
import GitMate.Guarantees.JobPages
import GitMate.Guarantees.RepositoryAccess
import GitMate.Guarantees.Statistics
import GitMate.Statements.Writes
import GitMate.Guarantees.ActiveJobs
import GitMate.Guarantees.Quota
import GitMate.Guarantees.LockOrder
import GitMate.Statements.Refinement
import GitMate.Guarantees.Balances
