import GitMate.Service.Interface

namespace GitMate

open Interleaving

/-!
# Running an analysis job

`AnalysisJobRunnerService` runs a job that its caller holds under a lease.  It
first reconciles a recorded provider charge, then reserves tokens, calls the
provider, records the charge and saves the result.  Every exit of
`executeAnalysis` ends the job in one transaction, or leaves it to a later
attempt.
-/

def MAX_ANALYSIS_COMPLETION_TOKENS : Int := 8192

structure AnalysisJobExecutionContext where
  jobId : JobId
  leaseToken : Uuid
  deriving DecidableEq, Repr

/-- A job under execution: the columns that were read under the lease and
the options of its caller.  `reservedTokens` is the mutable field of
`jobContext`. -/
structure JobExecution where
  userId : UserId
  repositoryId : RepositoryId
  jobId : JobId
  leaseToken : Uuid
  reservedTokens : Option Int
  version : AnalysisExecutionVersion
  completionAction : Option CompletionAction
  deriving DecidableEq, Repr

/-- `AnalysisJobRunOptions`. -/
structure AnalysisJobRunOptions where
  deferUnbilledProviderErrors : Bool
  onTokensReserved : Service Unit
  onSaving : Service Unit

inductive AnalysisJobExecutionOutcome where
  | succeeded | analysisFailed | insufficientTokens | inputLimitExceeded
  | noAnalyzableData | reconciliationRequired | tokenBudgetExceeded
  deriving DecidableEq, Repr

inductive AnalysisJobExecutionResult where
  | succeeded (metrics : AnalysisMetrics)
  | noAnalyzableData
  | failed (outcome : AnalysisJobExecutionOutcome) (error : AppError)
  deriving DecidableEq, Repr

/-! ## Service calls -/

/-- `AnalysisJobService.recordProviderCharge`. -/
def recordProviderCharge (input : RecordAnalysisJobProviderChargeInput) : Service Unit := do
  Service.ofExcept (validateRecordProviderCharge input)
  let recorded : Bool <- Service.command (.update (.recordProviderCharge input))
  if recorded then pure () else throw (.staleAnalysisJobTransition input.jobId .running)

/-- What a caller of `terminateWorkerJob` passes beyond the execution. -/
structure Termination where
  errorCode : AnalysisJobFailureCode
  usage : Option AnalysisTokenUsage
  refundTokens : Int
  providerRequestIds : List String
  tokensSettled : Bool
  additionalDebitTokens : Int
  completionAction : Option CompletionAction
  deriving DecidableEq, Repr

/-- A settled termination without a provider charge. -/
def Termination.unbilled (errorCode : AnalysisJobFailureCode) (refundTokens : Int)
    (completionAction : Option CompletionAction) : Termination :=
  ⟨errorCode, some ZERO_TOKEN_USAGE, refundTokens, [], true, 0, completionAction⟩

/-- `terminateProviderReconciliation` as a termination. -/
def Termination.reconciliation (reservedTokens : Option Int) (providerRequestId : Option String)
    (usage : Option AnalysisTokenUsage) : Termination :=
  match usage, reservedTokens with
  | some used, some reserved =>
      if reserved < used.totalTokens then
        ⟨.tokenBudgetExceeded, some used, 0, providerRequestId.toList, true,
          used.totalTokens - reserved, none⟩
      else
        ⟨.providerReconciliationRequired, some used, max 0 (reserved - used.totalTokens),
          providerRequestId.toList, true, 0, none⟩
  | usage, _ =>
      ⟨.providerReconciliationRequired, usage, 0, providerRequestId.toList, false, 0, none⟩

/-- The input of the termination transaction. -/
def Termination.input (termination : Termination) (job : JobExecution) (completedAt : Instant) :
    TerminateWorkerJobInput where
  userId := job.userId
  repositoryId := job.repositoryId
  jobId := job.jobId
  leaseToken := job.leaseToken
  contextReservedTokens := job.reservedTokens
  errorCode := termination.errorCode
  usage := termination.usage
  refundTokens := termination.refundTokens
  providerRequestIds := termination.providerRequestIds
  tokensSettled := termination.tokensSettled
  additionalDebitTokens := termination.additionalDebitTokens
  completionAction := termination.completionAction
  completedAt := completedAt

namespace JobExecution

/-- `terminateWorkerJob`. -/
def terminate (job : JobExecution) (termination : Termination) : Service Unit := do
  let completedAt <- Service.currentDate
  Service.command (.terminateWorkerJob (termination.input job completedAt))

/-- `terminateProviderReconciliation`. -/
def terminateProviderReconciliation (job : JobExecution) (reservedTokens : Option Int)
    (providerRequestId : Option String) (usage : Option AnalysisTokenUsage) : Service Unit :=
  job.terminate (.reconciliation reservedTokens providerRequestId usage)

/-- A reconciliation whose own failure is reported as unrecoverable. -/
def persistReconciliation (job : JobExecution) (reservedTokens : Option Int)
    (providerRequestId : Option String) (usage : Option AnalysisTokenUsage) : Service Unit :=
  tryCatch (job.terminateProviderReconciliation reservedTokens providerRequestId usage) fun _ =>
    throw (.postBillingAnalysisPersistence job.jobId providerRequestId usage)

/-- The charge of a provider response, recorded under the lease. -/
def chargeInput (job : JobExecution) (reservedTokens : Int) (usage : Option AnalysisTokenUsage)
    (providerRequestId : String) : RecordAnalysisJobProviderChargeInput where
  jobId := job.jobId
  expectedLeaseToken := job.leaseToken
  expectedUserId := job.userId
  expectedRepositoryId := job.repositoryId
  expectedReservedTokens := reservedTokens
  promptTokens := usage.map AnalysisTokenUsage.promptTokens
  completionTokens := usage.map AnalysisTokenUsage.completionTokens
  totalTokens := usage.map AnalysisTokenUsage.totalTokens
  providerRequestId := providerRequestId

def getValidTokenUsageOrNull (usage : Option AnalysisTokenUsage) : Option AnalysisTokenUsage :=
  usage.filter isValidAnalysisTokenUsage

/-- `checkpointAndTerminateProviderReconciliation`: the charge is recorded if
it can be, and the job is reconciled in any case. -/
def checkpointAndTerminate (job : JobExecution) (reservedTokens : Int)
    (providerRequestId : Option String) (reported : Option AnalysisTokenUsage) :
    Service Unit := do
  let usage := getValidTokenUsageOrNull reported
  let _ <- match providerRequestId with
    | none => pure (.error .invalidAnalysisTokenUsage)
    | some requestId =>
        Program.attempt (recordProviderCharge (job.chargeInput reservedTokens usage requestId))
  job.persistReconciliation (some reservedTokens) providerRequestId usage

/-! ## Reservation -/

structure TokenReservation where
  estimatedTokens : Int
  reservedTokens : Int
  deriving DecidableEq, Repr

def assertValidReservation (reservation : TokenReservation) : Except AppError Unit :=
  if isSafeInteger reservation.estimatedTokens && decide (0 ≤ reservation.estimatedTokens) &&
      isSafeInteger reservation.reservedTokens &&
      decide (reservation.estimatedTokens ≤ reservation.reservedTokens) then .ok ()
  else .error .invalidAnalysisTokenUsage

/-- `ensureWorkerTokenReservation`; the answer is the reservation in force. -/
def ensureWorkerTokenReservation (job : JobExecution) (reservation : TokenReservation) :
    Service Int := do
  Service.ofExcept (assertValidReservation reservation)
  match job.reservedTokens with
  | some reserved =>
      if reserved < reservation.reservedTokens then throw .analysisTokenBudgetExceeded
      else pure reserved
  | none => do
      Service.command (.reserveWorkerTokens {
        jobId := job.jobId
        expectedLeaseToken := job.leaseToken
        expectedUserId := job.userId
        expectedRepositoryId := job.repositoryId
        estimatedTokens := reservation.estimatedTokens
        reservedTokens := reservation.reservedTokens })
      pure reservation.reservedTokens

/-! ## The stages of `executeAnalysis` -/

/-- The job under the reservation that is now in force. -/
def withReservation (job : JobExecution) (reservedTokens : Int) : JobExecution :=
  { job with reservedTokens := some reservedTokens }

/-- The success transaction of the job. -/
def saveInput (job : JobExecution) (reservedTokens : Int) (response : LlmAnalysisResponse)
    (metrics : AnalysisMetrics) (collected : CollectedData) : SaveAnalysisResultInput where
  userId := job.userId
  repositoryId := job.repositoryId
  jobId := job.jobId
  leaseToken := job.leaseToken
  reservedTokens := reservedTokens
  usage := response.usage
  providerRequestId := response.providerRequestId
  result := response.result
  metrics := metrics
  completionAction := job.completionAction
  collected := collected

/-- Step 5: save the report, update the statistics and settle the tokens. -/
def saveResult (job : JobExecution) (options : AnalysisJobRunOptions) (reservedTokens : Int)
    (response : LlmAnalysisResponse) (metrics : AnalysisMetrics) (collected : CollectedData) :
    Service AnalysisJobExecutionResult := do
  let saved <- Program.attempt (do
    options.onSaving
    Service.command
      (.saveAnalysisResult (job.saveInput reservedTokens response metrics collected)))
  match saved with
  | .ok _ => pure (.succeeded metrics)
  | .error error => do
      job.persistReconciliation (some reservedTokens) (some response.providerRequestId)
        (some response.usage)
      pure (.failed .reconciliationRequired error)

/-- The stages after the charge has been recorded. -/
def settleResponse (pipeline : Pipeline) (job : JobExecution) (options : AnalysisJobRunOptions)
    (reservedTokens : Int) (response : LlmAnalysisResponse) (collected : CollectedData) :
    Service AnalysisJobExecutionResult :=
  if reservedTokens < response.usage.totalTokens then do
    job.terminateProviderReconciliation (some reservedTokens) (some response.providerRequestId)
      (some response.usage)
    pure (.failed .tokenBudgetExceeded .analysisTokenBudgetExceeded)
  else
    match pipeline.calculate response.result with
    | .error error => do
        job.terminateProviderReconciliation (some reservedTokens)
          (some response.providerRequestId) (some response.usage)
        pure (.failed .reconciliationRequired error)
    | .ok metrics => job.saveResult options reservedTokens response metrics collected

/-- The stages after the provider has answered. -/
def chargeResponse (pipeline : Pipeline) (job : JobExecution) (options : AnalysisJobRunOptions)
    (reservedTokens : Int) (response : LlmAnalysisResponse) (collected : CollectedData) :
    Service AnalysisJobExecutionResult :=
  if isValidAnalysisTokenUsage response.usage = false then do
    job.terminateProviderReconciliation (some reservedTokens) (some response.providerRequestId)
      none
    pure (.failed .reconciliationRequired .invalidAnalysisTokenUsage)
  else do
    let charged <- Program.attempt (recordProviderCharge
      (job.chargeInput reservedTokens (some response.usage) response.providerRequestId))
    match charged with
    | .error error => do
        job.persistReconciliation (some reservedTokens) (some response.providerRequestId)
          (some response.usage)
        pure (.failed .reconciliationRequired error)
    | .ok _ => settleResponse pipeline job options reservedTokens response collected

/-- What follows an error of the provider. -/
def handleProviderError (job : JobExecution) (options : AnalysisJobRunOptions)
    (reservedTokens : Int) (error : AppError) : Service AnalysisJobExecutionResult :=
  match error with
  | .llmProviderReconciliation providerRequestId usage => do
      job.checkpointAndTerminate reservedTokens providerRequestId usage
      pure (.failed .reconciliationRequired error)
  | _ =>
      if options.deferUnbilledProviderErrors then throw error
      else do
        job.terminate (.unbilled .analysisFailed reservedTokens none)
        pure (.failed .analysisFailed error)

/-- Step 3 and what follows it. -/
def analyzeReserved (pipeline : Pipeline) (job : JobExecution) (options : AnalysisJobRunOptions)
    (reservedTokens : Int) (collected preprocessed : CollectedData) :
    Service AnalysisJobExecutionResult := do
  options.onTokensReserved
  let analyzed <- Program.attempt (Service.perform (.analyze preprocessed job.version))
  match analyzed with
  | .error error => job.handleProviderError options reservedTokens error
  | .ok response => chargeResponse pipeline job options reservedTokens response collected

/-- What follows an error of the reservation. -/
def handleReservationError (job : JobExecution) (error : AppError) :
    Service AnalysisJobExecutionResult :=
  match error with
  | .insufficientAnalysisTokens => do
      job.terminate (.unbilled .insufficientTokens 0 none)
      pure (.failed .insufficientTokens error)
  | .analysisTokenBudgetExceeded => do
      job.terminate (.unbilled .tokenBudgetExceeded (job.reservedTokens.getD 0) none)
      pure (.failed .tokenBudgetExceeded error)
  | _ => throw error

/-- `estimateTokenReservationForData`. -/
def estimateReservation (pipeline : Pipeline) (data : CollectedData)
    (version : AnalysisExecutionVersion) : Except AppError TokenReservation :=
  (pipeline.estimateTokensForData data version).map fun estimatedTokens =>
    ⟨estimatedTokens, estimatedTokens + MAX_ANALYSIS_COMPLETION_TOKENS⟩

/-- Step 2 and what follows it. -/
def reserveAndAnalyze (pipeline : Pipeline) (job : JobExecution)
    (options : AnalysisJobRunOptions) (collected preprocessed : CollectedData) :
    Service AnalysisJobExecutionResult :=
  match estimateReservation pipeline preprocessed job.version with
  | .error (.inputLimitExceeded exceeded) => do
      job.terminate (.unbilled .inputLimitExceeded (job.reservedTokens.getD 0) none)
      pure (.failed .inputLimitExceeded (.inputLimitExceeded exceeded))
  | .error error => throw error
  | .ok reservation => do
      let ensured <- Program.attempt (job.ensureWorkerTokenReservation reservation)
      match ensured with
      | .error error => job.handleReservationError error
      | .ok reservedTokens =>
          analyzeReserved pipeline (job.withReservation reservedTokens) options reservedTokens
            collected preprocessed

/-- `executeAnalysis`. -/
def executeAnalysis (job : JobExecution) (pipeline : Pipeline) (options : AnalysisJobRunOptions)
    (data : CollectedData) : Service AnalysisJobExecutionResult := do
  let user : Option User <- Service.query (.findUser job.userId)
  match user with
  | none => throw (.error ("User with ID " ++ toString job.userId ++ " not found."))
  | some _ =>
      let refined := pipeline.refine data
      if refined.pullRequests.isEmpty then do
        job.terminate
          (.unbilled .noAnalyzableData (job.reservedTokens.getD 0) job.completionAction)
        pure .noAnalyzableData
      else reserveAndAnalyze pipeline job options data (pipeline.preprocess refined)

end JobExecution

/-! ## Entry points -/

/-- `resolveRunningExecution`. -/
def resolveRunningExecution (context : AnalysisJobExecutionContext)
    (completionAction : Option CompletionAction) : Service (AnalysisJob × JobExecution) := do
  let found : Option AnalysisJob <-
    Service.query (.findRunningByLease context.jobId context.leaseToken)
  match found with
  | none => throw (.staleAnalysisJobTransition context.jobId .running)
  | some job => pure (job, {
      userId := job.userId
      repositoryId := job.repositoryId
      jobId := context.jobId
      leaseToken := context.leaseToken
      reservedTokens := job.reservedTokens
      version := ⟨job.modelVersion, job.promptVersion⟩
      completionAction := completionAction })

/-- A provider charge that was recorded but not settled. -/
structure ProviderChargeCheckpoint where
  providerRequestId : Option String
  usage : Option AnalysisTokenUsage
  deriving DecidableEq, Repr

def getProviderChargeCheckpoint (job : AnalysisJob) : Option ProviderChargeCheckpoint :=
  if job.hasProviderBillingEvidence = false then none
  else
    let providerRequestId := match job.providerRequestIds with
      | [requestId] => some requestId
      | _ => none
    match job.promptTokens, job.completionTokens, job.totalTokens with
    | some promptTokens, some completionTokens, some totalTokens =>
        some ⟨providerRequestId, JobExecution.getValidTokenUsageOrNull
          (some ⟨promptTokens, completionTokens, totalTokens⟩)⟩
    | _, _, _ => some ⟨providerRequestId, none⟩

/-- `reconcileProviderCheckpoint`. -/
def reconcileProviderCheckpoint (job : AnalysisJob) (execution : JobExecution) :
    Service (Option AnalysisJobExecutionResult) :=
  match getProviderChargeCheckpoint job with
  | none => pure none
  | some checkpoint => do
      execution.terminateProviderReconciliation job.reservedTokens checkpoint.providerRequestId
        checkpoint.usage
      pure (some (.failed .reconciliationRequired
        (.llmProviderReconciliation checkpoint.providerRequestId checkpoint.usage)))

/-- `retireLegacyExecution`. -/
def retireLegacyExecution (execution : JobExecution) :
    Service (Option AnalysisJobExecutionResult) :=
  if isRetiredAnalysisExecutionVersion execution.version = false then pure none
  else do
    execution.terminate (.unbilled .unsupportedAnalysisVersion
      (execution.reservedTokens.getD 0) execution.completionAction)
    pure (some (.failed .analysisFailed (.unsupportedAnalysisExecutionVersion execution.version)))

/-- `recoverProviderCheckpoint`. -/
def recoverProviderCheckpoint (context : AnalysisJobExecutionContext) :
    Service (Option AnalysisJobExecutionResult) := do
  let resolved <- resolveRunningExecution context none
  let recovered <- reconcileProviderCheckpoint resolved.1 resolved.2
  match recovered with
  | some result => pure (some result)
  | none => retireLegacyExecution resolved.2

/-- `runAnalysisJob`. -/
def runAnalysisJob (pipeline : Pipeline) (data : CollectedData)
    (context : AnalysisJobExecutionContext) (completionAction : Option CompletionAction)
    (options : AnalysisJobRunOptions) : Service AnalysisJobExecutionResult := do
  let resolved <- resolveRunningExecution context completionAction
  let recovered <- reconcileProviderCheckpoint resolved.1 resolved.2
  match recovered with
  | some result => pure result
  | none => do
      let retired <- retireLegacyExecution resolved.2
      match retired with
      | some result => pure result
      | none =>
          if isSupportedAnalysisExecutionVersion resolved.2.version = false then
            throw (.unsupportedAnalysisExecutionVersion resolved.2.version)
          else resolved.2.executeAnalysis pipeline options data

end GitMate
