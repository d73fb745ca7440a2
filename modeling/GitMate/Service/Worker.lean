import GitMate.Service.Publisher
import GitMate.Service.Collection

namespace GitMate

open Interleaving

/-!
# The worker

A worker receives a batch of messages, claims the job of each message and runs
it under a fresh lease.  A record is acknowledged when its job needs no
further delivery; the first record that does not come to that ends the batch.
-/

/-! ## Classification of errors -/

structure AnalysisWorkerErrorClassification where
  code : ErrorCode
  message : String
  retryable : Bool
  retryAt : Option Instant
  deriving DecidableEq, Repr

namespace AnalysisWorkerErrorClassifier

def retryable (code : ErrorCode) (message : String) : AnalysisWorkerErrorClassification :=
  ⟨code, message, true, none⟩

def permanent (code : ErrorCode) (message : String) : AnalysisWorkerErrorClassification :=
  ⟨code, message, false, none⟩

def RETRYABLE_PRISMA_CODES : List String :=
  ["P1001", "P1002", "P1008", "P1017", "P2024", "P2034"]

def RETRYABLE_NETWORK_CODES : List String :=
  ["ECONNABORTED", "ECONNREFUSED", "ECONNRESET", "EHOSTUNREACH", "ENETUNREACH", "ENOTFOUND",
    "ETIMEDOUT"]

def analysisFailed : AnalysisWorkerErrorClassification :=
  permanent .analysisFailed "Analysis failed."

/-- The decision on a numeric `status` property. -/
def classifyStatus (status : Int) : AnalysisWorkerErrorClassification :=
  if status = 429 ∨ 500 ≤ status then
    retryable .githubTemporaryFailure "GitHub is temporarily unavailable."
  else if status = 401 ∨ status = 403 ∨ status = 404 then
    permanent .repositoryUnavailable "The repository is unavailable."
  else analysisFailed

/-- The decision on a string `code` property. -/
def classifyCode (code : String) : AnalysisWorkerErrorClassification :=
  if RETRYABLE_NETWORK_CODES.contains code then
    retryable .githubTemporaryFailure "An external service is temporarily unavailable."
  else analysisFailed

def databaseTemporaryFailure : AnalysisWorkerErrorClassification :=
  retryable .databaseTemporaryFailure "The database is temporarily unavailable."

def classify : AppError -> AnalysisWorkerErrorClassification
  | .inputLimitExceeded exceeded => permanent .inputLimitExceeded exceeded.message
  | .githubPagination => permanent .githubPaginationInvalid "GitHub pagination data is invalid."
  | .invalidGithubDate =>
      permanent .githubResponseInvalid "GitHub returned invalid repository data."
  | .githubRateLimit retryAt =>
      ⟨.githubTemporaryFailure, "GitHub rate limit was exceeded.", true, some retryAt⟩
  | .staleAnalysisWorkerLease _ | .staleAnalysisJobTransition .. =>
      retryable .workerLeaseUnavailable "The analysis job lease is unavailable."
  | .billedAnalysisJobRequiresReconciliation _ =>
      permanent .providerReconciliationRequired "The provider charge requires reconciliation."
  | .postBillingAnalysisPersistence .. =>
      retryable .databaseTemporaryFailure "The billed analysis result could not be persisted."
  | .providerApi .rateLimit | .providerApi .internalServer
  | .providerApi .connectionTimeout | .providerApi .connection =>
      retryable .providerTemporaryFailure "The analysis provider is temporarily unavailable."
  | .providerApi .authentication | .llmProviderConfiguration =>
      permanent .providerConfigurationError
        "The analysis provider is not configured correctly."
  | .providerApi .badRequest =>
      permanent .providerRequestInvalid "The analysis provider rejected the request."
  | .unsupportedAnalysisExecutionVersion _ =>
      permanent .unsupportedAnalysisVersion "The analysis execution version is not supported."
  | .invalidRepositoryCollectionInput =>
      permanent .repositoryUnavailable "The repository is unavailable."
  | .prismaKnownRequest code =>
      if RETRYABLE_PRISMA_CODES.contains code then databaseTemporaryFailure
      else classifyCode code
  | .prismaClient => databaseTemporaryFailure
  | .http status _ _ => classifyStatus status
  | .withStatus status => classifyStatus status
  | .withCode code => classifyCode code
  | _ => analysisFailed

end AnalysisWorkerErrorClassifier

/-! ## Claims -/

inductive AnalysisWorkerClaimResult where
  | claimed (job : AnalysisWorkerJob) (leaseToken : Uuid)
  | notFound
  | terminal
  | activeLease
  | notDue
  | maxAttempts (job : AnalysisWorkerJob)
  deriving DecidableEq, Repr

namespace AnalysisWorkerRepository

def findJob (jobId : JobId) : Service (Option AnalysisWorkerJob) :=
  Service.query (.findWorkerJob jobId)

/-- `requireClaimedJob`, as the result of a claim. -/
def requireClaimedJob (jobId : JobId) (leaseToken : Uuid) : Service AnalysisWorkerClaimResult := do
  let found : Option AnalysisWorkerJob <- Service.query (.requireClaimedJob jobId leaseToken)
  match found with
  | some job => pure (.claimed job leaseToken)
  | none => throw (.staleAnalysisWorkerLease jobId)

def resolveClaimRace (jobId : JobId) (now : Instant) : Service AnalysisWorkerClaimResult := do
  let found <- findJob jobId
  match found with
  | none => pure .notFound
  | some current =>
      if current.job.isTerminal then pure .terminal
      else if nullOrDue current.job.nextPublishAt now = false then pure .notDue
      else if current.job.status = .running ∧ current.job.leaseExpiresAt.isSome = true ∧
          leaseExpired current.job now = false then pure .activeLease
      else if current.job.maxAttempts ≤ current.job.attemptCount then pure (.maxAttempts current)
      else pure .activeLease

/-- Perform one of the claiming updates and resolve the race if it is lost. -/
def claimBy (change : JobUpdate) (jobId : JobId) (leaseToken : Uuid) (now : Instant) :
    Service AnalysisWorkerClaimResult := do
  let claimed : Bool <- Service.command (.update change)
  if claimed then requireClaimedJob jobId leaseToken else resolveClaimRace jobId now

/-- `claim` of a queued job. -/
def claimQueuedJob (current : AnalysisWorkerJob) (leaseToken : Uuid)
    (now leaseExpiresAt : Instant) : Service AnalysisWorkerClaimResult :=
  if current.job.maxAttempts ≤ current.job.attemptCount then pure (.maxAttempts current)
  else if current.job.completedAt ≠ none ∨ current.job.tokensSettledAt ≠ none then pure .terminal
  else if nullOrDue current.job.nextPublishAt now = false then pure .notDue
  else claimBy (.claimQueued current.job.id leaseToken now leaseExpiresAt) current.job.id
    leaseToken now

/-- `claim` of a running job, whose lease must have expired. -/
def takeOverRunningJob (current : AnalysisWorkerJob) (leaseToken : Uuid)
    (now leaseExpiresAt : Instant) : Service AnalysisWorkerClaimResult :=
  if current.job.leaseExpiresAt.isSome = true ∧ leaseExpired current.job now = false then
    pure .activeLease
  else if current.job.leaseToken = none ∨ current.job.leaseExpiresAt = none then pure .activeLease
  else if current.job.hasProviderBillingEvidence then
    claimBy (.takeOverExpiredBilledLease current.job leaseToken now leaseExpiresAt)
      current.job.id leaseToken now
  else if current.job.maxAttempts ≤ current.job.attemptCount then pure (.maxAttempts current)
  else claimBy (.takeOverExpiredLease current.job leaseToken now leaseExpiresAt) current.job.id
    leaseToken now

def claim (jobId : JobId) (leaseToken : Uuid) (now leaseExpiresAt : Instant) :
    Service AnalysisWorkerClaimResult := do
  let found <- findJob jobId
  match found with
  | none => pure .notFound
  | some current =>
      match current.job.status with
      | .succeeded => pure .terminal
      | .failed => pure .terminal
      | .queued => claimQueuedJob current leaseToken now leaseExpiresAt
      | .running => takeOverRunningJob current leaseToken now leaseExpiresAt

/-! ## Progress and settlement -/

def updateProgress (input : UpdateProgressInput) : Service Unit := do
  let updated : Bool <- Service.command (.update (.updateProgress input))
  if updated then pure () else throw (.staleAnalysisWorkerLease input.jobId)

/-- What `releaseForRetry` makes of a release that did not apply. -/
def explainRelease (jobId : JobId) (current : Option AnalysisWorkerJob) : Service Unit :=
  match current with
  | none => throw (.staleAnalysisWorkerLease jobId)
  | some current =>
      if current.job.status = .failed then pure ()
      else if current.job.hasProviderBillingEvidence then
        throw (.billedAnalysisJobRequiresReconciliation jobId)
      else throw (.staleAnalysisWorkerLease jobId)

def releaseForRetry (input : ReleaseForRetryInput) : Service Unit := do
  let released : Bool <- Service.command (.update (.releaseForRetry input))
  if released then pure ()
  else do
    let current <- findJob input.jobId
    explainRelease input.jobId current

def failQueuedInvalidMessage (jobId : JobId) (completedAt : Instant) : Service Bool :=
  Service.command (.settleFailure ⟨jobId, .queued, completedAt, .invalidMessage,
    "The analysis job message is invalid.", false⟩)

def finalizeRunningFailure (jobId : JobId) (leaseToken : Uuid) (completedAt : Instant)
    (errorCode : ErrorCode) (errorMessage : String) (errorRetryable : Bool) : Service Bool :=
  Service.command (.settleFailure ⟨jobId, .running leaseToken, completedAt, errorCode,
    errorMessage, errorRetryable⟩)

def finalizeQueuedAtLimit (jobId : JobId) (completedAt : Instant) : Service Bool :=
  Service.command (.settleFailure ⟨jobId, .queued, completedAt, .maxAttemptsExceeded,
    "The maximum number of attempts was exceeded.", true⟩)

end AnalysisWorkerRepository

/-! ## Executing a claimed job -/

inductive AnalysisWorkerRecordOutcome where
  | ack | retry
  deriving DecidableEq, Repr

/-- A job that a worker has claimed, with the delivery it came from. -/
structure ClaimedDelivery where
  job : AnalysisWorkerJob
  leaseToken : Uuid
  receiveCount : Nat
  deriving DecidableEq, Repr

namespace AnalysisWorkerService

def leaseExpiresAt (deployment : Deployment) (now : Instant) : Instant :=
  now + deployment.leaseSeconds * 1000

def updateProgress (deployment : Deployment) (jobId : JobId) (leaseToken : Uuid)
    (stage : AnalysisJobStage) (progress : Nat) : Service Unit := do
  let heartbeatAt <- Service.currentDate
  AnalysisWorkerRepository.updateProgress ⟨jobId, leaseToken, stage, progress, heartbeatAt,
    leaseExpiresAt deployment heartbeatAt⟩

/-- The least time between two collection heartbeats, in milliseconds. -/
def heartbeatInterval (deployment : Deployment) : Rat :=
  min 30000 (max 1000 ((deployment.leaseSeconds : Rat) * 1000 / 3))

/-- `collectionHeartbeat` over a number of pages; zero means that no heartbeat
was sent yet. -/
def collectionHeartbeats (deployment : Deployment) (jobId : JobId) (leaseToken : Uuid) :
    Nat -> Instant -> Service Unit
  | 0, _ => pure ()
  | pages + 1, lastHeartbeatAt => do
      let now <- Service.currentDate
      if lastHeartbeatAt ≠ 0 ∧ ((now - lastHeartbeatAt : Int) : Rat) < heartbeatInterval deployment
      then collectionHeartbeats deployment jobId leaseToken pages lastHeartbeatAt
      else do
        updateProgress deployment jobId leaseToken .collecting 10
        collectionHeartbeats deployment jobId leaseToken pages now

/-- The collection that the worker asks for. -/
def collectInput (job : AnalysisWorkerJob) : CollectRepositoryInput where
  userId := job.job.userId
  githubRepoId := job.githubRepoId
  fullName := job.fullName
  targetUser := job.ownerUsername
  sourceCursor := job.job.sourceCursor
  collectionCutoff := job.job.collectionCutoff

/-- The completion action of the worker. -/
def checkpoint (job : AnalysisWorkerJob) : CompletionAction :=
  .advanceRepositoryCheckpoint job.job.repositoryId job.job.userId job.job.collectionCutoff

def runOptions (deployment : Deployment) (delivery : ClaimedDelivery) : AnalysisJobRunOptions where
  deferUnbilledProviderErrors := true
  onTokensReserved :=
    updateProgress deployment delivery.job.job.id delivery.leaseToken .analyzing 55
  onSaving := updateProgress deployment delivery.job.job.id delivery.leaseToken .saving 90

/-- The guarded part of `executeClaimedJob`. -/
def runClaimedJob (deployment : Deployment) (delivery : ClaimedDelivery) :
    Service AnalysisWorkerRecordOutcome := do
  let context : AnalysisJobExecutionContext := ⟨delivery.job.job.id, delivery.leaseToken⟩
  let recovered <- recoverProviderCheckpoint context
  match recovered with
  | some _ => pure .ack
  | none => do
      let data <- collect (collectInput delivery.job) fun pages =>
        collectionHeartbeats deployment delivery.job.job.id delivery.leaseToken pages 0
      updateProgress deployment delivery.job.job.id delivery.leaseToken .reservingTokens 35
      -- Every outcome counts as terminal, so any result is acknowledged.
      let _ <- runAnalysisJob deployment.pipeline data context
        (some (checkpoint delivery.job)) (runOptions deployment delivery)
      pure .ack

/-- `nextRetryAt`. -/
def nextRetryAt (deployment : Deployment) (now : Instant) (attempt : Nat) (random : Rat)
    (providerRetryAt : Option Instant) : Instant :=
  let workerRetryAt := nextBackoffAt now attempt deployment.retryBaseSeconds random
  match providerRetryAt with
  | some retryAt => if workerRetryAt < retryAt then retryAt else workerRetryAt
  | none => workerRetryAt

def finalizeRunningAtLimit (jobId : JobId) (leaseToken : Uuid) :
    Service AnalysisWorkerRecordOutcome := do
  let completedAt <- Service.currentDate
  let _ <- Program.attempt (AnalysisWorkerRepository.finalizeRunningFailure jobId leaseToken
    completedAt .maxAttemptsExceeded "The maximum number of attempts was exceeded." true)
  pure .retry

/-- Give a retryable job back; a failure to do so is only logged. -/
def releaseClaimedJob (deployment : Deployment) (delivery : ClaimedDelivery)
    (classification : AnalysisWorkerErrorClassification) :
    Service AnalysisWorkerRecordOutcome := do
  let now <- Service.currentDate
  let random <- Service.random
  let _ <- Program.attempt (AnalysisWorkerRepository.releaseForRetry {
    jobId := delivery.job.job.id
    leaseToken := delivery.leaseToken
    nextPublishAt := nextRetryAt deployment now delivery.job.job.attemptCount random
      classification.retryAt
    errorCode := classification.code
    errorMessage := classification.message })
  pure .retry

/-- End a job that cannot be retried. -/
def finalizeClaimedJob (delivery : ClaimedDelivery)
    (classification : AnalysisWorkerErrorClassification) :
    Service AnalysisWorkerRecordOutcome := do
  let completedAt <- Service.currentDate
  let finalized <- Program.attempt (AnalysisWorkerRepository.finalizeRunningFailure
    delivery.job.job.id delivery.leaseToken completedAt classification.code
    classification.message false)
  match finalized with
  | .ok true => pure .ack
  | _ => pure .retry

def isUnresolvedBilling : AppError -> Bool
  | .postBillingAnalysisPersistence .. => true
  | .billedAnalysisJobRequiresReconciliation _ => true
  | _ => false

def handleClaimedFailure (deployment : Deployment) (delivery : ClaimedDelivery)
    (error : AppError) : Service AnalysisWorkerRecordOutcome :=
  let classification := AnalysisWorkerErrorClassifier.classify error
  if isUnresolvedBilling error then pure .retry
  else if classification.retryable then
    if delivery.job.job.maxAttempts ≤ delivery.job.job.attemptCount ∨
        delivery.job.job.maxAttempts ≤ delivery.receiveCount then
      finalizeRunningAtLimit delivery.job.job.id delivery.leaseToken
    else releaseClaimedJob deployment delivery classification
  else finalizeClaimedJob delivery classification

def executeClaimedJob (deployment : Deployment) (delivery : ClaimedDelivery) :
    Service AnalysisWorkerRecordOutcome :=
  tryCatch (runClaimedJob deployment delivery) (handleClaimedFailure deployment delivery)

/-- `finalizeClaimLimit`; every branch answers `RETRY`. -/
def finalizeClaimLimit (job : AnalysisWorkerJob) : Service AnalysisWorkerRecordOutcome := do
  let _ <- Program.attempt (match job.job.status, job.job.leaseToken with
    | .queued, _ => do
        let completedAt <- Service.currentDate
        AnalysisWorkerRepository.finalizeQueuedAtLimit job.job.id completedAt
    | _, none => pure false
    | _, some leaseToken => do
        let completedAt <- Service.currentDate
        AnalysisWorkerRepository.finalizeRunningFailure job.job.id leaseToken completedAt
          .maxAttemptsExceeded "The maximum number of attempts was exceeded." true)
  pure .retry

/-! ## Batches -/

/-- The part of `processRecord` that follows a claim. -/
def processClaim (deployment : Deployment) (receiveCount : Nat) :
    AnalysisWorkerClaimResult -> Service AnalysisWorkerRecordOutcome
  | .notFound => pure .ack
  | .terminal => pure .ack
  | .activeLease => pure .retry
  | .notDue => pure .retry
  | .maxAttempts job => finalizeClaimLimit job
  | .claimed job leaseToken => executeClaimedJob deployment ⟨job, leaseToken, receiveCount⟩

def processRecord (deployment : Deployment) (record : QueueMessage) :
    Service AnalysisWorkerRecordOutcome :=
  match record.body with
  | .invalid none => pure .ack
  | .invalid (some jobId) => do
      let completedAt <- Service.currentDate
      let _ <- AnalysisWorkerRepository.failQueuedInvalidMessage jobId completedAt
      pure .ack
  | .valid jobId => do
      let now <- Service.currentDate
      let leaseToken <- Service.randomUuid
      let claim <- AnalysisWorkerRepository.claim jobId leaseToken now
        (leaseExpiresAt deployment now)
      processClaim deployment record.receiveCount claim

/-- `processBatch`: the records from the first one that was not acknowledged
on. -/
def processBatch (deployment : Deployment) : List QueueMessage -> Service (List QueueMessage)
  | [] => pure []
  | record :: rest => do
      let outcome <- Program.attempt (processRecord deployment record)
      match outcome with
      | .ok .ack => processBatch deployment rest
      | _ => pure (record :: rest)

/-- One invocation of the worker: the event source deletes the messages that
were not reported as failures. -/
def handleBatch (deployment : Deployment) : Service Unit := do
  let records : List QueueMessage <- Service.perform .receiveMessages
  let failures <- processBatch deployment records
  Service.perform (.deleteMessages (records.filter fun record =>
    !failures.any fun failure => failure.messageId == record.messageId))

end AnalysisWorkerService
end GitMate
