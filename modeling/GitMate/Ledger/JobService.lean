import GitMate.Ledger.Transaction

namespace GitMate

open Relational

/-!
# Guarded updates of a job row

Every write to an existing job is an `updateMany` whose `where` names the job
and tests some of its columns.  `RowUpdate` is such a write: its guard, and
the assignment it makes when the guard holds.  This module defines the writes
of `AnalysisJobService` and `AnalysisJobRepository`; the assignments of Prisma
also stamp `updatedAt` with the clock of the process.
-/

/-- The `where` and the `data` of an `updateMany` on one job. -/
structure RowUpdate where
  jobId : JobId
  guard : AnalysisJob -> Bool
  data : Instant -> AnalysisJob -> AnalysisJob
  keeps : forall now job, (data now job).id = job.id

namespace RowUpdate

/-- The rows an update selects. -/
def selects (update : RowUpdate) (job : AnalysisJob) : Bool :=
  decide (job.id = update.jobId) && update.guard job

theorem selects_iff {update : RowUpdate} {job : AnalysisJob} :
    update.selects job = true ↔ job.id = update.jobId ∧ update.guard job = true := by
  simp only [selects, Bool.and_eq_true, decide_eq_true_eq]

theorem names (update : RowUpdate) :
    Table.Names AnalysisJob.id update.selects update.jobId :=
  fun _ selected => (selects_iff.mp selected).1

/-- The table after the update. -/
def apply (update : RowUpdate) (now : Instant) (jobs : Table AnalysisJob.id) :
    Table AnalysisJob.id :=
  jobs.updateMany update.selects (update.data now) (update.keeps now)

/-- `result.count === 1`. -/
def applies (update : RowUpdate) (jobs : Table AnalysisJob.id) : Bool :=
  jobs.countWhere update.selects == 1

theorem applies_iff {update : RowUpdate} {jobs : Table AnalysisJob.id} :
    update.applies jobs = true ↔
      Exists fun job => jobs.find? update.jobId = some job ∧ update.guard job = true := by
  rw [applies, beq_iff_eq, Table.countWhere_eq_one_iff update.names]
  refine exists_congr fun job => and_congr_right fun found => ?_
  rw [selects_iff]
  exact and_iff_right (Table.key_of_find? found)

/-- An update that does not apply has no effect. -/
theorem apply_of_not_applies {update : RowUpdate} {jobs : Table AnalysisJob.id} {now : Instant}
    (refused : update.applies jobs = false) : update.apply now jobs = jobs := by
  apply Table.updateMany_of_countWhere_ne_one update.names
  simpa only [applies, beq_eq_false_iff_ne] using refused

theorem find?_apply {update : RowUpdate} {jobs : Table AnalysisJob.id} {now : Instant}
    {job : AnalysisJob} (found : jobs.find? update.jobId = some job)
    (guarded : update.guard job = true) :
    (update.apply now jobs).find? update.jobId = some (update.data now job) :=
  Table.find?_compareAndSet found (selects_iff.mpr ⟨Table.key_of_find? found, guarded⟩)

theorem find?_apply_ne {update : RowUpdate} {jobs : Table AnalysisJob.id} {now : Instant}
    {other : JobId} (different : other ≠ update.jobId) :
    (update.apply now jobs).find? other = jobs.find? other :=
  Table.find?_compareAndSet_ne update.names different

end RowUpdate

/-- The update as a statement; it reports whether one row was written. -/
def updateJob (update : RowUpdate) : Tx Bool :=
  Tx.statement fun db environment =>
    .ok (update.applies db.analysisJobs,
      { db with analysisJobs := update.apply environment.application db.analysisJobs })

theorem updateJob_ok {update : RowUpdate} {result : Bool} {session later : Session}
    (done : updateJob update session = .ok (result, later)) :
    result = update.applies session.db.analysisJobs ∧
      later.db = { session.db with
        analysisJobs := update.apply session.environment.application session.db.analysisJobs } ∧
      later.environment = session.environment := by
  have ran := Tx.statement_ok done
  simp only [Except.ok.injEq, Prod.mk.injEq] at ran
  exact ⟨ran.1.1.symm, ran.1.2.symm, ran.2⟩

/-! ## Failure codes of jobs -/

inductive AnalysisJobFailureCode where
  | analysisFailed | insufficientTokens | inputLimitExceeded | maxAttemptsExceeded
  | noAnalyzableData | publishFailed | providerReconciliationRequired
  | repositoryUnavailable | tokenBudgetExceeded | unsupportedAnalysisVersion
  deriving DecidableEq, Repr

/-- The value stored in `lastErrorCode`. -/
def AnalysisJobFailureCode.toErrorCode : AnalysisJobFailureCode -> ErrorCode
  | .analysisFailed => .analysisFailed
  | .insufficientTokens => .insufficientTokens
  | .inputLimitExceeded => .inputLimitExceeded
  | .maxAttemptsExceeded => .maxAttemptsExceeded
  | .noAnalyzableData => .noAnalyzableData
  | .publishFailed => .publishFailed
  | .providerReconciliationRequired => .providerReconciliationRequired
  | .repositoryUnavailable => .repositoryUnavailable
  | .tokenBudgetExceeded => .tokenBudgetExceeded
  | .unsupportedAnalysisVersion => .unsupportedAnalysisVersion

def SAFE_ERROR_MESSAGES : AnalysisJobFailureCode -> String
  | .analysisFailed => "Analysis failed."
  | .insufficientTokens => "The token balance is insufficient."
  | .inputLimitExceeded => "The analysis input limit was exceeded."
  | .maxAttemptsExceeded => "The maximum number of attempts was exceeded."
  | .noAnalyzableData => "No analyzable repository activity was found."
  | .publishFailed => "The analysis job could not be published."
  | .providerReconciliationRequired => "The provider charge requires reconciliation."
  | .repositoryUnavailable => "The repository is unavailable."
  | .tokenBudgetExceeded => "The analysis exceeded its token budget."
  | .unsupportedAnalysisVersion => "The analysis execution version is no longer supported."

/-! ## Transitions -/

def ALLOWED_TRANSITIONS : AnalysisJobStatus -> List AnalysisJobStatus
  | .queued => [.running, .failed]
  | .running => [.queued, .succeeded, .failed]
  | .succeeded => []
  | .failed => []

def canTransitionAnalysisJob (fromStatus toStatus : AnalysisJobStatus) : Bool :=
  (ALLOWED_TRANSITIONS fromStatus).contains toStatus

def MAX_PROVIDER_REQUEST_IDS : Nat := 10

structure TokenSettlementInput where
  completedAt : Instant
  tokensSettledAt : Instant
  usage : AnalysisTokenUsage
  providerRequestIds : List String
  deriving DecidableEq, Repr

/-- `FailureInput`, or `UnsettledProviderReconciliationFailureInput` when
`tokensSettledAt` is null. -/
structure FailureInput where
  completedAt : Instant
  tokensSettledAt : Option Instant
  promptTokens : Option Int
  completionTokens : Option Int
  totalTokens : Option Int
  providerRequestIds : List String
  errorCode : AnalysisJobFailureCode
  errorRetryable : Bool
  deriving DecidableEq, Repr

inductive TransitionAnalysisJobInput where
  | start (jobId : JobId) (leaseToken : Uuid) (leaseExpiresAt startedAt : Instant)
  | requeue (jobId : JobId) (expectedLeaseToken : Uuid) (nextPublishAt : Instant)
      (errorCode : AnalysisJobFailureCode)
  | succeed (jobId : JobId) (expectedLeaseToken : Uuid) (expectedUserId : UserId)
      (expectedRepositoryId : RepositoryId) (expectedReservedTokens : Int)
      (data : TokenSettlementInput) (reportId : Nat)
  | failQueued (jobId : JobId) (data : FailureInput)
  | failRunning (jobId : JobId) (expectedLeaseToken : Uuid) (expectedUserId : UserId)
      (expectedRepositoryId : RepositoryId) (expectedReservedTokens : Option Int)
      (data : FailureInput)
  deriving DecidableEq, Repr

namespace TransitionAnalysisJobInput

def jobId : TransitionAnalysisJobInput -> JobId
  | .start jobId _ _ _ => jobId
  | .requeue jobId _ _ _ => jobId
  | .succeed jobId _ _ _ _ _ _ => jobId
  | .failQueued jobId _ => jobId
  | .failRunning jobId _ _ _ _ _ => jobId

def fromStatus : TransitionAnalysisJobInput -> AnalysisJobStatus
  | .start .. => .queued
  | .requeue .. => .running
  | .succeed .. => .running
  | .failQueued .. => .queued
  | .failRunning .. => .running

def toStatus : TransitionAnalysisJobInput -> AnalysisJobStatus
  | .start .. => .running
  | .requeue .. => .queued
  | .succeed .. => .succeeded
  | .failQueued .. => .failed
  | .failRunning .. => .failed

end TransitionAnalysisJobInput

/-! ## Validation of service inputs -/

def assertPositiveInteger (value : Nat) (field : String) : Except AppError Unit :=
  if 0 < value then .ok ()
  else .error (.invalidAnalysisJobInput (field ++ " must be a positive integer"))

def assertTokenCount (value : Int) (field : String) : Except AppError Unit :=
  if isSafeInteger value && decide (0 ≤ value) then .ok ()
  else .error (.invalidAnalysisJobInput (field ++ " must be a non-negative safe integer"))

def assertValidTokenUsage (usage : AnalysisTokenUsage) : Except AppError Unit :=
  if isValidAnalysisTokenUsage usage then .ok ()
  else .error (.invalidAnalysisJobInput
    "provider token usage must contain valid non-negative counts and a matching total")

def assertProviderRequestIds (providerRequestIds : List String) : Except AppError Unit :=
  if providerRequestIds.length ≤ MAX_PROVIDER_REQUEST_IDS &&
      providerRequestIds.all isValidProviderRequestId then .ok ()
  else .error (.invalidAnalysisJobInput "providerRequestIds is invalid")

/-- The usage of an unsettled failure is entirely known or entirely unknown. -/
def assertOptionalTokenUsage :
    Option Int -> Option Int -> Option Int -> Except AppError Unit
  | none, none, none => .ok ()
  | some promptTokens, some completionTokens, some totalTokens =>
      assertValidTokenUsage ⟨promptTokens, completionTokens, totalTokens⟩
  | _, _, _ => .error (.invalidAnalysisJobInput
      "unsettled provider token usage must be entirely known or entirely unknown")

/-- The usage of a settled failure; its type excludes missing counts. -/
def assertSettledTokenUsage :
    Option Int -> Option Int -> Option Int -> Except AppError Unit
  | some promptTokens, some completionTokens, some totalTokens =>
      assertValidTokenUsage ⟨promptTokens, completionTokens, totalTokens⟩
  | _, _, _ => .error (.invalidAnalysisJobInput
      "provider token usage must contain valid non-negative counts and a matching total")

def assertTokenSettlement (input : TokenSettlementInput) : Except AppError Unit := do
  assertValidTokenUsage input.usage
  assertProviderRequestIds input.providerRequestIds

def validateFailureInput (data : FailureInput) : Except AppError Unit :=
  match data.tokensSettledAt with
  | none =>
      if data.errorCode ≠ .providerReconciliationRequired ∨ data.errorRetryable ≠ false then
        .error (.invalidAnalysisJobInput
          "only non-retryable provider reconciliation failures may remain unsettled")
      else do
        assertOptionalTokenUsage data.promptTokens data.completionTokens data.totalTokens
        assertProviderRequestIds data.providerRequestIds
  | some _ => do
      assertSettledTokenUsage data.promptTokens data.completionTokens data.totalTokens
      assertProviderRequestIds data.providerRequestIds

def validateTransitionInput : TransitionAnalysisJobInput -> Except AppError Unit
  | .start .. => .ok ()
  | .requeue .. => .ok ()
  | .succeed _ _ expectedUserId expectedRepositoryId expectedReservedTokens data reportId => do
      assertTokenSettlement data
      assertPositiveInteger reportId "reportId"
      assertPositiveInteger expectedUserId "expectedUserId"
      assertPositiveInteger expectedRepositoryId "expectedRepositoryId"
      assertTokenCount expectedReservedTokens "expectedReservedTokens"
  | .failQueued _ data => validateFailureInput data
  | .failRunning _ _ expectedUserId expectedRepositoryId expectedReservedTokens data => do
      validateFailureInput data
      assertPositiveInteger expectedUserId "expectedUserId"
      assertPositiveInteger expectedRepositoryId "expectedRepositoryId"
      match expectedReservedTokens with
      | some reservedTokens => assertTokenCount reservedTokens "expectedReservedTokens"
      | none => .ok ()

/-! ## The row written by a transition -/

/-- The columns every terminal transition assigns. -/
def AnalysisJob.terminated (job : AnalysisJob) (status : AnalysisJobStatus)
    (promptTokens completionTokens totalTokens : Option Int) (tokensSettledAt : Option Instant)
    (providerRequestIds : List String) (completedAt : Instant) : AnalysisJob :=
  { job with
    status := status
    stage := none
    promptTokens := promptTokens
    completionTokens := completionTokens
    totalTokens := totalTokens
    tokensSettledAt := tokensSettledAt
    providerRequestIds := providerRequestIds
    leaseToken := none
    leaseExpiresAt := none
    heartbeatAt := none
    completedAt := some completedAt }

def AnalysisJob.failedWith (job : AnalysisJob) (data : FailureInput) : AnalysisJob :=
  { job.terminated .failed data.promptTokens data.completionTokens data.totalTokens
      data.tokensSettledAt data.providerRequestIds data.completedAt with
    lastErrorCode := some data.errorCode.toErrorCode
    lastErrorMessage := some (SAFE_ERROR_MESSAGES data.errorCode)
    errorRetryable := some data.errorRetryable }

/-- The `data` of `toTransitionRecord`, with the target status. -/
def toTransitionData : TransitionAnalysisJobInput -> AnalysisJob -> AnalysisJob
  | .start _ leaseToken leaseExpiresAt startedAt, job =>
      { job with
        status := .running
        stage := some .collecting
        leaseToken := some leaseToken
        leaseExpiresAt := some leaseExpiresAt
        heartbeatAt := some startedAt
        startedAt := some startedAt }
  | .requeue _ _ nextPublishAt errorCode, job =>
      { job with
        status := .queued
        stage := some .waiting
        nextPublishAt := some nextPublishAt
        leaseToken := none
        leaseExpiresAt := none
        heartbeatAt := none
        lastErrorCode := some errorCode.toErrorCode
        lastErrorMessage := some (SAFE_ERROR_MESSAGES errorCode)
        errorRetryable := some true }
  | .succeed _ _ _ _ _ data _, job =>
      { job.terminated .succeeded (some data.usage.promptTokens)
          (some data.usage.completionTokens) (some data.usage.totalTokens)
          (some data.tokensSettledAt) data.providerRequestIds data.completedAt with
        progress := 100 }
  | .failQueued _ data, job => job.failedWith data
  | .failRunning _ _ _ _ _ data, job => job.failedWith data

/-- The `where` of `transitionStatus` beyond the id and the source status.
`report` is the id of the report linked to the job, if there is one. -/
def transitionWhere (linkedReport : JobId -> Option Nat) :
    TransitionAnalysisJobInput -> AnalysisJob -> Bool
  | .start .., _ => true
  | .requeue _ expectedLeaseToken _ _, job => job.leaseToken == some expectedLeaseToken
  | .succeed _ expectedLeaseToken expectedUserId expectedRepositoryId expectedReservedTokens _
      reportId, job =>
      job.leaseToken == some expectedLeaseToken && linkedReport job.id == some reportId &&
        job.userId == expectedUserId && job.repositoryId == expectedRepositoryId &&
        job.reservedTokens == some expectedReservedTokens && job.tokensSettledAt == none
  | .failQueued .., job => job.tokensSettledAt == none
  | .failRunning _ expectedLeaseToken expectedUserId expectedRepositoryId expectedReservedTokens _,
      job =>
      job.leaseToken == some expectedLeaseToken && job.userId == expectedUserId &&
        job.repositoryId == expectedRepositoryId &&
        job.reservedTokens == expectedReservedTokens && job.tokensSettledAt == none

def transitionStatus (linkedReport : JobId -> Option Nat) (input : TransitionAnalysisJobInput) :
    RowUpdate where
  jobId := input.jobId
  guard job := job.status == input.fromStatus && transitionWhere linkedReport input job
  data now job := { toTransitionData input job with updatedAt := now }
  keeps := by
    intro now job
    cases input <;> rfl

/-- The report linked to a job through its unique `jobId`. -/
def Database.linkedReport (db : Database) (jobId : JobId) : Option Nat :=
  (db.analysisReports.rows.find? fun report => report.jobId == some jobId).map AnalysisReport.id

def Tx.ofExcept {α : Type} : Except AppError α -> Tx α
  | .ok value => pure value
  | .error error => Tx.reject error

/-- `AnalysisJobService.transition`. -/
def transition (input : TransitionAnalysisJobInput) : Tx Unit := do
  ensure (canTransitionAnalysisJob input.fromStatus input.toStatus)
    (.invalidAnalysisJobTransition input.fromStatus input.toStatus)
  Tx.ofExcept (validateTransitionInput input)
  let linkedReport <- select Database.linkedReport
  let transitioned <- updateJob (transitionStatus linkedReport input)
  ensure transitioned (.staleAnalysisJobTransition input.jobId input.fromStatus)

theorem Tx.ofExcept_ok {α : Type} {checked : Except AppError α} {result : α}
    {session later : Session} (done : Tx.ofExcept checked session = .ok (result, later)) :
    checked = .ok result ∧ later = session := by
  cases checked with
  | error error => cases done
  | ok value =>
      rcases Tx.pure_ok done with ⟨rfl, rfl⟩
      exact ⟨rfl, rfl⟩

/-- A transition that succeeded was valid, found the job in its source status
behind its fence, and wrote exactly that row. -/
theorem transition_ok {input : TransitionAnalysisJobInput} {result : Unit}
    {session later : Session} (done : transition input session = .ok (result, later)) :
    validateTransitionInput input = .ok () ∧
    (Exists fun job => session.db.findJob input.jobId = some job ∧
      (transitionStatus session.db.linkedReport input).guard job = true) ∧
    later.db = { session.db with
      analysisJobs := (transitionStatus session.db.linkedReport input).apply
        session.environment.application session.db.analysisJobs } ∧
    later.environment = session.environment := by
  unfold transition at done
  rcases Tx.bind_ok done with ⟨_, allowed, allowedRan, afterAllowed⟩
  rcases ensure_ok allowedRan with ⟨_, rfl⟩
  rcases Tx.bind_ok afterAllowed with ⟨_, valid, validRan, afterValid⟩
  rcases Tx.ofExcept_ok validRan with ⟨validated, rfl⟩
  rcases Tx.bind_ok afterValid with ⟨linkedReport, joined, joinRan, afterJoin⟩
  rcases select_ok joinRan with ⟨rfl, joinedDb, joinedEnvironment⟩
  rcases Tx.bind_ok afterJoin with ⟨transitioned, updated, updateRan, afterUpdate⟩
  rcases updateJob_ok updateRan with ⟨counted, updatedDb, updatedEnvironment⟩
  rcases ensure_ok afterUpdate with ⟨applied, rfl⟩
  rw [joinedDb] at counted updatedDb
  rw [joinedEnvironment] at updatedDb updatedEnvironment
  refine ⟨validated, ?_, updatedDb, updatedEnvironment⟩
  exact RowUpdate.applies_iff.mp (counted.symm.trans applied)

/-! ## Reservation and provider charge -/

structure ReserveAnalysisJobTokensInput where
  jobId : JobId
  expectedLeaseToken : Uuid
  expectedUserId : UserId
  expectedRepositoryId : RepositoryId
  estimatedTokens : Int
  reservedTokens : Int
  deriving DecidableEq, Repr

def reserveTokensRow (input : ReserveAnalysisJobTokensInput) : RowUpdate where
  jobId := input.jobId
  guard job := job.status == .running && job.leaseToken == some input.expectedLeaseToken &&
    job.userId == input.expectedUserId && job.repositoryId == input.expectedRepositoryId &&
    job.reservedTokens == none && job.tokensSettledAt == none
  data now job :=
    { job with
      stage := some .analyzing
      estimatedTokens := some input.estimatedTokens
      reservedTokens := some input.reservedTokens
      updatedAt := now }
  keeps _ _ := rfl

def validateReserveTokens (input : ReserveAnalysisJobTokensInput) : Except AppError Unit := do
  assertPositiveInteger input.expectedUserId "expectedUserId"
  assertPositiveInteger input.expectedRepositoryId "expectedRepositoryId"
  assertTokenCount input.estimatedTokens "estimatedTokens"
  assertTokenCount input.reservedTokens "reservedTokens"
  if input.reservedTokens < input.estimatedTokens then
    .error (.invalidAnalysisJobInput
      "reservedTokens must be greater than or equal to estimatedTokens")
  else .ok ()

/-- `AnalysisJobService.reserveTokens`. -/
def reserveTokens (input : ReserveAnalysisJobTokensInput) : Tx Unit := do
  Tx.ofExcept (validateReserveTokens input)
  let reserved <- updateJob (reserveTokensRow input)
  ensure reserved (.staleAnalysisJobTransition input.jobId .running)

theorem reserveTokens_ok {input : ReserveAnalysisJobTokensInput} {result : Unit}
    {session later : Session} (done : reserveTokens input session = .ok (result, later)) :
    validateReserveTokens input = .ok () ∧
    (Exists fun job => session.db.findJob input.jobId = some job ∧
      (reserveTokensRow input).guard job = true) ∧
    later.db = { session.db with
      analysisJobs := (reserveTokensRow input).apply session.environment.application
        session.db.analysisJobs } := by
  unfold reserveTokens at done
  rcases Tx.bind_ok done with ⟨_, valid, validRan, afterValid⟩
  rcases Tx.ofExcept_ok validRan with ⟨validated, rfl⟩
  rcases Tx.bind_ok afterValid with ⟨reserved, updated, updateRan, afterUpdate⟩
  rcases updateJob_ok updateRan with ⟨counted, updatedDb, _⟩
  rcases ensure_ok afterUpdate with ⟨applied, rfl⟩
  exact ⟨validated, RowUpdate.applies_iff.mp (counted.symm.trans applied), updatedDb⟩

structure RecordAnalysisJobProviderChargeInput where
  jobId : JobId
  expectedLeaseToken : Uuid
  expectedUserId : UserId
  expectedRepositoryId : RepositoryId
  expectedReservedTokens : Int
  promptTokens : Option Int
  completionTokens : Option Int
  totalTokens : Option Int
  providerRequestId : String
  deriving DecidableEq, Repr

def recordProviderChargeRow (input : RecordAnalysisJobProviderChargeInput) : RowUpdate where
  jobId := input.jobId
  guard job := job.status == .running && job.leaseToken == some input.expectedLeaseToken &&
    job.userId == input.expectedUserId && job.repositoryId == input.expectedRepositoryId &&
    job.reservedTokens == some input.expectedReservedTokens && job.tokensSettledAt == none &&
    job.promptTokens == none && job.completionTokens == none && job.totalTokens == none &&
    job.providerRequestIds.isEmpty
  data now job :=
    { job with
      promptTokens := input.promptTokens
      completionTokens := input.completionTokens
      totalTokens := input.totalTokens
      providerRequestIds := [input.providerRequestId]
      updatedAt := now }
  keeps _ _ := rfl

/-- The checks `AnalysisJobService.recordProviderCharge` makes before it
writes. -/
def validateRecordProviderCharge (input : RecordAnalysisJobProviderChargeInput) :
    Except AppError Unit := do
  assertPositiveInteger input.expectedUserId "expectedUserId"
  assertPositiveInteger input.expectedRepositoryId "expectedRepositoryId"
  assertTokenCount input.expectedReservedTokens "expectedReservedTokens"
  match input.promptTokens, input.completionTokens, input.totalTokens with
  | none, none, none => assertProviderRequestIds [input.providerRequestId]
  | some promptTokens, some completionTokens, some totalTokens => do
      assertValidTokenUsage ⟨promptTokens, completionTokens, totalTokens⟩
      assertProviderRequestIds [input.providerRequestId]
  | _, _, _ => .error (.invalidAnalysisJobInput
      "provider token usage must be entirely known or entirely unknown")

end GitMate
