import GitMate.Service.Interface
import Mathlib.Data.Rat.Floor

namespace GitMate

open Interleaving

/-!
# Publishing jobs

The publisher claims a publish attempt against the snapshot of the job it was
given, sends the message and records what became of the send.  An accepted
job is published by the API once; the reconciler publishes what is due again.
-/

def MAX_BACKOFF_SECONDS : Nat := 3600
def JITTER_RATIO : Rat := 1 / 5

/-- `nextBackoffAt`: exponential seconds with jitter, in whole milliseconds. -/
def nextBackoffAt (now : Instant) (attempt baseSeconds : Nat) (random : Rat) : Instant :=
  let exponentialSeconds : Rat := (min (baseSeconds * 2 ^ (attempt - 1)) MAX_BACKOFF_SECONDS : Nat)
  let jitterSeconds := exponentialSeconds * JITTER_RATIO * random
  now + ((exponentialSeconds + jitterSeconds) * 1000).floor

inductive AnalysisJobPublishOutcome where
  | published | deferred | failed | skipped
  deriving DecidableEq, Repr

def isDue (job : AnalysisJobPublishRecord) (now : Instant) (republishAfterSeconds : Nat)
    (allowRepublish : Bool) : Bool :=
  if job.status ≠ .queued ∨ job.isSync = true ∨ nullOrDue job.nextPublishAt now = false then false
  else
    match job.messagePublishedAt with
    | none => true
    | some messagePublishedAt =>
        allowRepublish && decide (messagePublishedAt ≤ now - republishAfterSeconds * 1000)

def requiresPublishRecovery (job : AnalysisJobPublishRecord) : Bool :=
  job.reservedTokens.isSome || isUncertainPublishCode job.lastErrorCode

/-- `deliveryUncertain`: an earlier send may have been accepted, as far as the
snapshot shows. -/
def deliveryUncertain (job : AnalysisJobPublishRecord) : Bool :=
  job.messagePublishedAt.isSome || isUncertainPublishCode job.lastErrorCode

/-- A claimed attempt, as it is passed on inside `publish`. -/
structure PublishAttempt where
  job : AnalysisJobPublishRecord
  settings : AnalysisJobPublishSettings
  now : Instant
  deriving DecidableEq, Repr

namespace PublishAttempt

def claimedNextPublishAt (attempt : PublishAttempt) : Instant :=
  attempt.now + attempt.settings.republishAfterSeconds * 1000

def number (attempt : PublishAttempt) : Nat := attempt.job.publishAttempts + 1

def claim (attempt : PublishAttempt) : ClaimAnalysisJobPublishAttemptInput :=
  ⟨attempt.job, attempt.claimedNextPublishAt, deliveryUncertain attempt.job⟩

def completion (attempt : PublishAttempt) : CompleteAnalysisJobPublishAttemptInput :=
  ⟨attempt.job, attempt.number, attempt.claimedNextPublishAt⟩

/-- The failure that `handlePublishFailure` records. -/
def failure (attempt : PublishAttempt) (error : AppError) (random : Rat) :
    RecordAnalysisJobPublishFailureInput :=
  let uncertain := deliveryUncertain attempt.job || error != .analysisJobQueueRejected
  { attempt.completion with
    nextPublishAt := nextBackoffAt attempt.now attempt.number
      attempt.settings.republishAfterSeconds random
    deliveryUncertain := uncertain
    terminate := decide (attempt.settings.maxAttempts ≤ attempt.number) && !uncertain &&
      attempt.job.messagePublishedAt.isNone && attempt.job.reservedTokens.isNone
    completedAt := attempt.now }

end PublishAttempt

def handlePublishFailure (attempt : PublishAttempt) (error : AppError) (random : Rat) :
    Service AnalysisJobPublishOutcome := do
  let recorded : Bool <- Service.command (.update (.recordFailure (attempt.failure error random)))
  if recorded = false then pure .deferred
  else if (attempt.failure error random).terminate then pure .failed
  else pure .deferred

/-- The part of `publish` that follows a successful claim. -/
def sendClaimed (attempt : PublishAttempt) (traceId : Uuid) :
    Service AnalysisJobPublishOutcome := do
  let sent <- Program.attempt (Service.perform (.publishMessage attempt.job.id attempt.job.userId
    attempt.job.repositoryId traceId))
  match sent with
  | .error error => do
      let random <- Service.random
      handlePublishFailure attempt error random
  | .ok () => do
      let recorded : Bool <-
        Service.command (.update (.markPublished attempt.completion attempt.now))
      if recorded then pure .published else pure .deferred

/-- The guarded part of `publish`. -/
def publishDue (deployment : Deployment) (job : AnalysisJobPublishRecord) (allowRepublish : Bool)
    (now : Instant) (traceId : Uuid) : Service AnalysisJobPublishOutcome := do
  let settings <- Service.ofExcept deployment.publishSettings
  if isDue job now settings.republishAfterSeconds allowRepublish = false then pure .skipped
  else if settings.maxAttempts ≤ job.publishAttempts ∧ requiresPublishRecovery job = false then
    pure .skipped
  else do
    Service.ofExcept deployment.sqsSettings
    let attempt : PublishAttempt := ⟨job, settings, now⟩
    let claimed : Bool <- Service.command (.update (.claimAttempt attempt.claim))
    if claimed = false then pure .skipped else sendClaimed attempt traceId

/-- `AnalysisJobPublisherService.publish`.  Whatever goes wrong, the job is
left to a later attempt. -/
def publish (deployment : Deployment) (job : AnalysisJobPublishRecord) (allowRepublish : Bool)
    (now : Instant) : Service AnalysisJobPublishOutcome := do
  let traceId <- Service.randomUuid
  tryCatch (publishDue deployment job allowRepublish now traceId) fun _ => pure .deferred

/-- `publishAcceptedJob`. -/
def publishAcceptedJob (deployment : Deployment) (job : AnalysisJobPublishRecord) :
    Service AnalysisJobPublishOutcome := do
  let now <- Service.currentDate
  publish deployment job false now

/-! ## The reconciler -/

structure AnalysisJobReconcileSummary where
  scanned : Nat
  published : Nat
  deferred : Nat
  failed : Nat
  deriving DecidableEq, Repr

def AnalysisJobReconcileSummary.count (summary : AnalysisJobReconcileSummary) :
    Except AppError AnalysisJobPublishOutcome -> AnalysisJobReconcileSummary
  | .ok .published => { summary with published := summary.published + 1 }
  | .ok .failed => { summary with failed := summary.failed + 1 }
  | _ => { summary with deferred := summary.deferred + 1 }

/-- The loop of `runOnce` over the due jobs. -/
def reconcileJobs (deployment : Deployment) (now : Instant) :
    List AnalysisJobPublishRecord -> AnalysisJobReconcileSummary ->
      Service AnalysisJobReconcileSummary
  | [], summary => pure summary
  | job :: rest, summary => do
      let outcome <- Program.attempt (publish deployment job true now)
      reconcileJobs deployment now rest (summary.count outcome)

/-- `AnalysisJobReconcilerService.runOnce`. -/
def runOnce (deployment : Deployment) : Service AnalysisJobReconcileSummary := do
  let now <- Service.currentDate
  let settings <- Service.ofExcept deployment.publishSettings
  let jobs : List AnalysisJobPublishRecord <- Service.query (.findDue now
    settings.republishAfterSeconds settings.maxAttempts settings.reconcileBatchSize)
  reconcileJobs deployment now jobs ⟨jobs.length, 0, 0, 0⟩

end GitMate
