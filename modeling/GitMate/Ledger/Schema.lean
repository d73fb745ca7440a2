import GitMate.Library.Table
import Mathlib.Data.Rat.Init

namespace GitMate

open Relational

/-!
# The job ledger's tables

The rows below follow the Prisma schema column by column.  Instants are
milliseconds since the epoch, token amounts are integers, and generated
identifiers (job ids, lease tokens, trace ids) are opaque natural numbers.
Columns that no modelled operation reads or writes are left out.

Two fields are history variables without a column: `CollectedData.window`
remembers the update window a collection was asked for, and
`AnalysisReport.collected` remembers the collected data a report was computed
from.  No operation branches on either of them.
-/

/-- Milliseconds since the epoch. -/
abbrev Instant := Int

abbrev JobId := Nat
abbrev UserId := Nat
abbrev RepositoryId := Nat
/-- A generated random identifier. -/
abbrev Uuid := Nat

inductive AnalysisJobStatus where
  | queued | running | succeeded | failed
  deriving DecidableEq, Repr

inductive AnalysisJobStage where
  | waiting | collecting | reservingTokens | analyzing | saving
  deriving DecidableEq, Repr

/-- The values of `lastErrorCode` that the application writes: the failure
codes of jobs, the failure codes of workers and the codes of the publisher. -/
inductive ErrorCode where
  | analysisFailed | insufficientTokens | inputLimitExceeded | maxAttemptsExceeded
  | noAnalyzableData | publishFailed | providerReconciliationRequired
  | repositoryUnavailable | tokenBudgetExceeded | unsupportedAnalysisVersion
  | databaseTemporaryFailure | githubTemporaryFailure | githubPaginationInvalid
  | githubResponseInvalid | invalidMessage | providerConfigurationError
  | providerRequestInvalid | providerTemporaryFailure | workerLeaseUnavailable
  | publishInProgress | publishDeliveryUncertain | publishAttemptFailed
  deriving DecidableEq, Repr

/-- What a client asks for when it creates a job. -/
inductive JobRequest where
  | create (githubRepoId : String)
  | retry (sourceJobId : JobId)
  deriving DecidableEq, Repr

/-- The canonical request whose SHA-256 digest is stored in `requestHash`.
The digest is treated as collision free, so the request stands for it. -/
inductive RequestHash where
  | api (userId : UserId) (request : JobRequest)
  | sync (userId : UserId) (repositoryId : RepositoryId) (sourceCursor : Option Instant)
      (modelVersion promptVersion : String)
  deriving DecidableEq, Repr

structure User where
  id : UserId
  username : String
  availableTokens : Int
  deriving DecidableEq, Repr

structure Repository where
  id : RepositoryId
  githubRepoId : String
  fullName : String
  lastSyncTime : Option Instant
  ownerId : UserId
  deriving DecidableEq, Repr

structure AnalysisJob where
  id : JobId
  status : AnalysisJobStatus
  stage : Option AnalysisJobStage
  progress : Nat
  userId : UserId
  repositoryId : RepositoryId
  idempotencyKey : String
  requestHash : RequestHash
  sourceCursor : Option Instant
  collectionCutoff : Instant
  modelVersion : String
  promptVersion : String
  estimatedTokens : Option Int
  reservedTokens : Option Int
  promptTokens : Option Int
  completionTokens : Option Int
  totalTokens : Option Int
  tokensSettledAt : Option Instant
  providerRequestIds : List String
  publishAttempts : Nat
  messagePublishedAt : Option Instant
  nextPublishAt : Option Instant
  attemptCount : Nat
  maxAttempts : Nat
  leaseToken : Option Uuid
  leaseExpiresAt : Option Instant
  heartbeatAt : Option Instant
  lastErrorCode : Option ErrorCode
  lastErrorMessage : Option String
  errorRetryable : Option Bool
  startedAt : Option Instant
  completedAt : Option Instant
  createdAt : Instant
  updatedAt : Instant
  deriving DecidableEq, Repr

/-- A half-open update window `(sourceCursor, collectionCutoff]`; without a
source cursor it reaches back to the beginning. -/
structure CollectionWindow where
  sourceCursor : Option Instant
  collectionCutoff : Instant
  deriving DecidableEq, Repr

/-- The update window stored in a job row. -/
def AnalysisJob.window (job : AnalysisJob) : CollectionWindow :=
  ⟨job.sourceCursor, job.collectionCutoff⟩

structure ReviewComment where
  author : String
  body : String
  createdAt : String
  deriving DecidableEq, Repr

structure Review where
  author : String
  body : String
  state : String
  comments : List ReviewComment
  deriving DecidableEq, Repr

structure PullRequest where
  number : Nat
  title : String
  body : String
  author : String
  updatedAt : String
  permalink : String
  reviews : List Review
  deriving DecidableEq, Repr

structure CollectedData where
  githubRepoId : String
  owner : String
  repo : String
  targetUser : String
  pullRequests : List PullRequest
  /-- History variable: the window the collection was asked for. -/
  window : CollectionWindow
  deriving DecidableEq, Repr

/-- The scores of an analysis result; its texts are not modelled. -/
structure LlmAnalysisResult where
  mutualRespect : Rat
  conflictManagement : Rat
  logicalProblemDefinition : Rat
  reviewGuiding : Rat
  documentation : Rat
  knowledgeSharing : Rat
  technicalInfluence : Rat
  codeStability : Rat
  deriving DecidableEq, Repr

structure AnalysisReport where
  id : Nat
  userId : UserId
  repositoryId : RepositoryId
  metrics : LlmAnalysisResult
  jobId : Option JobId
  /-- History variable: the data the result was computed from. -/
  collected : CollectedData
  deriving DecidableEq, Repr

/-- The eight final scores. -/
structure AnalysisMetrics where
  mutualRespectScore : Rat
  conflictManagementScore : Rat
  logicalProblemScore : Rat
  reviewGuidingScore : Rat
  documentationScore : Rat
  knowledgeSharingScore : Rat
  technicalInfluenceScore : Rat
  codeStabilityScore : Rat
  deriving DecidableEq, Repr

structure UserStat where
  userId : UserId
  scores : AnalysisMetrics
  analysisCount : Nat
  deriving DecidableEq, Repr

/-- The whole database. -/
structure Database where
  users : Table User.id
  repositories : Table Repository.id
  analysisJobs : Table AnalysisJob.id
  analysisReports : Table AnalysisReport.id
  userStats : Table UserStat.userId

/-- JavaScript's `text.startsWith(start)`. -/
def startsWith (text start : String) : Bool := start.toList.isPrefixOf text.toList

namespace AnalysisJob

/-- An idempotency key of the synchronous path. -/
def isSync (job : AnalysisJob) : Bool := startsWith job.idempotencyKey "sync:"

/-- A row backfilled for a report that predates the ledger. -/
def isLegacyReport (job : AnalysisJob) : Bool := startsWith job.idempotencyKey "legacy-report:"

/-- `status IN (QUEUED, RUNNING)`. -/
def isActive (job : AnalysisJob) : Bool :=
  job.status == .queued || job.status == .running

/-- `status IN (SUCCEEDED, FAILED)`. -/
def isTerminal (job : AnalysisJob) : Bool :=
  job.status == .succeeded || job.status == .failed

/-- Provider request ids or token usage are recorded.  The worker repository,
the checkpoint reader and the settlement all test this disjunction. -/
def hasProviderBillingEvidence (job : AnalysisJob) : Bool :=
  !job.providerRequestIds.isEmpty || job.promptTokens.isSome ||
    job.completionTokens.isSome || job.totalTokens.isSome

end AnalysisJob

/-- What a job row records of a provider charge. -/
structure ProviderCharge where
  promptTokens : Option Int
  completionTokens : Option Int
  totalTokens : Option Int
  providerRequestIds : List String
  deriving DecidableEq, Repr

/-- Nothing is recorded. -/
def ProviderCharge.none : ProviderCharge := ⟨.none, .none, .none, []⟩

def AnalysisJob.providerCharge (job : AnalysisJob) : ProviderCharge :=
  ⟨job.promptTokens, job.completionTokens, job.totalTokens, job.providerRequestIds⟩

/-- Billing evidence is any recorded part of a charge. -/
theorem AnalysisJob.hasProviderBillingEvidence_eq_false {job : AnalysisJob} :
    job.hasProviderBillingEvidence = false ↔ job.providerCharge = .none := by
  simp only [hasProviderBillingEvidence, providerCharge, ProviderCharge.none, Bool.or_eq_false_iff,
    Bool.not_eq_false', List.isEmpty_iff, Option.isSome_eq_false_iff, Option.isNone_iff_eq_none,
    ProviderCharge.mk.injEq]
  exact ⟨fun ⟨⟨⟨ids, prompt⟩, completion⟩, total⟩ => ⟨prompt, completion, total, ids⟩,
    fun ⟨prompt, completion, total, ids⟩ => ⟨⟨⟨ids, prompt⟩, completion⟩, total⟩⟩

namespace Database

def findUser (db : Database) (id : UserId) : Option User := db.users.find? id

def findRepository (db : Database) (id : RepositoryId) : Option Repository :=
  db.repositories.find? id

def findJob (db : Database) (id : JobId) : Option AnalysisJob := db.analysisJobs.find? id

/-- The reports linked to a job. -/
def reportsOf (db : Database) (jobId : JobId) : List AnalysisReport :=
  db.analysisReports.rows.filter fun report => report.jobId == some jobId

end Database
end GitMate
