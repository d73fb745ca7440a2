import GitMate.Ledger.JobService
import Mathlib.Data.List.Sort

namespace GitMate

open Relational

/-!
# Claims, progress and publication

The worker repository takes a job over in three ways: a queued job is
claimed, a job whose lease has expired is taken over, and a job with billing
evidence is taken over without a new attempt.  The publish repository claims
a publish attempt against the snapshot it has read and completes it against
the row that the claim has written.  Raw SQL sets `updatedAt` itself; Prisma
sets it to the clock of the process.
-/

/-! ## Worker claims -/

/-- A column that is null or at most `now`. -/
def nullOrDue (column : Option Instant) (now : Instant) : Bool :=
  match column with
  | some instant => decide (instant ≤ now)
  | none => true

def claimQueued (jobId : JobId) (leaseToken : Uuid) (now leaseExpiresAt : Instant) :
    RowUpdate where
  jobId := jobId
  guard job := job.status == .queued && decide (job.attemptCount < job.maxAttempts) &&
    nullOrDue job.nextPublishAt now && job.completedAt == none && job.tokensSettledAt == none
  data _ job :=
    { job with
      status := .running
      stage := some .collecting
      progress := 10
      attemptCount := job.attemptCount + 1
      leaseToken := some leaseToken
      leaseExpiresAt := some leaseExpiresAt
      heartbeatAt := some now
      startedAt := some (job.startedAt.getD now)
      nextPublishAt := none
      lastErrorCode := none
      lastErrorMessage := none
      errorRetryable := none
      updatedAt := now }
  keeps _ _ := rfl

/-- The lease columns of `current` as an SQL comparison: a null on either side
compares false. -/
def sameLease (current job : AnalysisJob) : Bool :=
  job.leaseToken.isSome && job.leaseToken == current.leaseToken &&
    job.leaseExpiresAt.isSome && job.leaseExpiresAt == current.leaseExpiresAt

/-- `"leaseExpiresAt" <= now`; a null expiry compares false. -/
def leaseExpired (job : AnalysisJob) (now : Instant) : Bool :=
  match job.leaseExpiresAt with
  | some leaseExpiresAt => decide (leaseExpiresAt ≤ now)
  | none => false

def takeOverExpiredLease (current : AnalysisJob) (leaseToken : Uuid)
    (now leaseExpiresAt : Instant) : RowUpdate where
  jobId := current.id
  guard job := job.status == .running && sameLease current job && leaseExpired job now &&
    job.attemptCount == current.attemptCount && decide (job.attemptCount < job.maxAttempts) &&
    job.completedAt == none && job.tokensSettledAt == none
  data _ job :=
    { job with
      stage := some .collecting
      progress := 10
      attemptCount := job.attemptCount + 1
      leaseToken := some leaseToken
      leaseExpiresAt := some leaseExpiresAt
      heartbeatAt := some now
      startedAt := some (job.startedAt.getD now)
      lastErrorCode := none
      lastErrorMessage := none
      errorRetryable := none
      updatedAt := now }
  keeps _ _ := rfl

def takeOverExpiredBilledLease (current : AnalysisJob) (leaseToken : Uuid)
    (now leaseExpiresAt : Instant) : RowUpdate where
  jobId := current.id
  guard job := job.status == .running && sameLease current job && leaseExpired job now &&
    job.attemptCount == current.attemptCount && job.hasProviderBillingEvidence &&
    job.completedAt == none && job.tokensSettledAt == none
  data _ job :=
    { job with
      stage := some .saving
      progress := max job.progress 90
      leaseToken := some leaseToken
      leaseExpiresAt := some leaseExpiresAt
      heartbeatAt := some now
      updatedAt := now }
  keeps _ _ := rfl

/-! ## Progress and release -/

structure UpdateProgressInput where
  jobId : JobId
  leaseToken : Uuid
  stage : AnalysisJobStage
  progress : Nat
  heartbeatAt : Instant
  leaseExpiresAt : Instant
  deriving DecidableEq, Repr

def updateProgressRow (input : UpdateProgressInput) : RowUpdate where
  jobId := input.jobId
  guard job := job.status == .running && job.leaseToken == some input.leaseToken &&
    job.tokensSettledAt == none
  data now job :=
    { job with
      stage := some input.stage
      progress := input.progress
      heartbeatAt := some input.heartbeatAt
      leaseExpiresAt := some input.leaseExpiresAt
      updatedAt := now }
  keeps _ _ := rfl

structure ReleaseForRetryInput where
  jobId : JobId
  leaseToken : Uuid
  nextPublishAt : Instant
  errorCode : ErrorCode
  errorMessage : String
  deriving DecidableEq, Repr

def releaseForRetryRow (input : ReleaseForRetryInput) : RowUpdate where
  jobId := input.jobId
  guard job := job.status == .running && job.leaseToken == some input.leaseToken &&
    job.tokensSettledAt == none && job.promptTokens == none && job.completionTokens == none &&
    job.totalTokens == none && job.providerRequestIds.isEmpty
  data now job :=
    { job with
      status := .queued
      stage := some .waiting
      nextPublishAt := some input.nextPublishAt
      leaseToken := none
      leaseExpiresAt := none
      heartbeatAt := none
      lastErrorCode := some input.errorCode
      lastErrorMessage := some input.errorMessage
      errorRetryable := some true
      updatedAt := now }
  keeps _ _ := rfl

/-! ## Publication -/

/-- The publisher works on a snapshot of the row. -/
abbrev AnalysisJobPublishRecord := AnalysisJob

def isUncertainPublishCode (code : Option ErrorCode) : Bool :=
  code == some .publishInProgress || code == some .publishDeliveryUncertain

/-- The `where` of `findDue`, without its order and its batch size. -/
def isDueForPublish (now : Instant) (republishAfterSeconds : Nat) (maxAttempts : Nat)
    (job : AnalysisJob) : Bool :=
  job.status == .queued && !job.isSync &&
    (decide (job.publishAttempts < maxAttempts) || isUncertainPublishCode job.lastErrorCode ||
      job.reservedTokens.isSome) &&
    nullOrDue job.nextPublishAt now &&
    nullOrDue job.messagePublishedAt (now - republishAfterSeconds * 1000)

/-- Ascending by creation time, then by id. -/
def createdBefore (left right : AnalysisJob) : Prop :=
  left.createdAt < right.createdAt ∨ left.createdAt = right.createdAt ∧ left.id ≤ right.id

instance : DecidableRel createdBefore := fun left right =>
  inferInstanceAs (Decidable
    (left.createdAt < right.createdAt ∨ left.createdAt = right.createdAt ∧ left.id ≤ right.id))

def Database.findDue (db : Database) (now : Instant) (republishAfterSeconds : Nat)
    (maxAttempts batchSize : Nat) : List AnalysisJobPublishRecord :=
  ((db.analysisJobs.rows.filter (isDueForPublish now republishAfterSeconds maxAttempts)).insertionSort
    createdBefore).take batchSize

structure ClaimAnalysisJobPublishAttemptInput where
  job : AnalysisJobPublishRecord
  claimedNextPublishAt : Instant
  deliveryUncertain : Bool
  deriving DecidableEq, Repr

structure CompleteAnalysisJobPublishAttemptInput where
  job : AnalysisJobPublishRecord
  attempt : Nat
  claimedNextPublishAt : Instant
  deriving DecidableEq, Repr

structure RecordAnalysisJobPublishFailureInput extends CompleteAnalysisJobPublishAttemptInput where
  nextPublishAt : Instant
  deliveryUncertain : Bool
  terminate : Bool
  completedAt : Instant
  deriving DecidableEq, Repr

def snapshotWhere (snapshot job : AnalysisJob) : Bool :=
  job.status == .queued && job.publishAttempts == snapshot.publishAttempts &&
    job.messagePublishedAt == snapshot.messagePublishedAt &&
    job.nextPublishAt == snapshot.nextPublishAt

def claimedWhere (input : CompleteAnalysisJobPublishAttemptInput) (job : AnalysisJob) : Bool :=
  job.status == .queued && job.publishAttempts == input.attempt &&
    job.messagePublishedAt == input.job.messagePublishedAt &&
    job.nextPublishAt == some input.claimedNextPublishAt

def claimAttempt (input : ClaimAnalysisJobPublishAttemptInput) : RowUpdate where
  jobId := input.job.id
  guard := snapshotWhere input.job
  data now job :=
    { job with
      publishAttempts := job.publishAttempts + 1
      nextPublishAt := some input.claimedNextPublishAt
      lastErrorCode := some
        (if input.deliveryUncertain then .publishDeliveryUncertain else .publishInProgress)
      lastErrorMessage := none
      errorRetryable := none
      updatedAt := now }
  keeps _ _ := rfl

def markPublished (input : CompleteAnalysisJobPublishAttemptInput) (publishedAt : Instant) :
    RowUpdate where
  jobId := input.job.id
  guard := claimedWhere input
  data now job :=
    { job with
      messagePublishedAt := some publishedAt
      nextPublishAt := none
      lastErrorCode := none
      lastErrorMessage := none
      errorRetryable := none
      updatedAt := now }
  keeps _ _ := rfl

/-- The job is given up: it fails without having been sent. -/
def AnalysisJob.publishFailed (job : AnalysisJob) (completedAt : Instant) : AnalysisJob :=
  { job with
    status := .failed
    stage := none
    nextPublishAt := none
    lastErrorCode := some .publishFailed
    lastErrorMessage := some "The analysis job could not be published."
    errorRetryable := some true
    promptTokens := some 0
    completionTokens := some 0
    totalTokens := some 0
    tokensSettledAt := some completedAt
    completedAt := some completedAt }

def recordFailure (input : RecordAnalysisJobPublishFailureInput) : RowUpdate where
  jobId := input.job.id
  guard job := claimedWhere input.toCompleteAnalysisJobPublishAttemptInput job &&
    (!input.terminate || job.reservedTokens == none)
  data now job :=
    if input.terminate then { job.publishFailed input.completedAt with updatedAt := now }
    else
      { job with
        nextPublishAt := some input.nextPublishAt
        lastErrorCode := some
          (if input.deliveryUncertain then .publishDeliveryUncertain else .publishAttemptFailed)
        lastErrorMessage := none
        errorRetryable := none
        updatedAt := now }
  keeps now job := by
    by_cases terminating : input.terminate = true
    · rw [if_pos terminating]
      rfl
    · rw [if_neg terminating]

end GitMate
