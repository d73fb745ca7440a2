import GitMate.Statements.Dialect

namespace GitMate

open Relational Interleaving

/-!
# The transactions as programs

Every transaction of the application, one statement after the other and with
the locks it takes.  `TransactionEntry` lists what a process may be started
for; the programs of the machine `isolated` are the transactions of these
entries, in any number and any interleaving.
-/

variable {digest : String -> Int}

/-- Code that issues statements. -/
abbrev Isolated (digest : String -> Int) (α : Type) : Type :=
  Program (statements digest).interface α

namespace Isolated

def acquire (id : Nat) (scope : LockScope) : Isolated digest Unit :=
  Dialect.acquire (L := statements digest) id scope

def issue (id : Nat) (statement : Statement) : Isolated digest statement.Reply :=
  Dialect.issue (L := statements digest) id statement

def currentDate : Isolated digest Instant := Dialect.now (L := statements digest)

def ofExcept {α : Type} : Except AppError α -> Isolated digest α
  | .ok value => pure value
  | .error error => throw error

/-- Reject a failed check. -/
def ensure (condition : Bool) (error : AppError) : Isolated digest Unit :=
  if condition then pure () else throw error

/-! ## Creation -/

def recoverStaleActiveJobs (id : Nat) (repositoryId : RepositoryId) : Isolated digest Unit := do
  let completedAt <- currentDate
  issue id (.failStaleUnreserved repositoryId completedAt)
  issue id (.failStaleReserved repositoryId completedAt)

/-- `createExclusiveInTransaction`. -/
def createExclusive (id : Nat) (input : CreateAnalysisJobRecordInput) :
    Isolated digest AnalysisJob := do
  acquire id (.repository input.repositoryId)
  recoverStaleActiveJobs id input.repositoryId
  let active : Option AnalysisJob <- issue id (.findActiveJob input.repositoryId)
  ensure active.isNone (.activeAnalysisJobExists input.repositoryId)
  issue id (.createJob input)

/-! ## Acceptance -/

def query (id : Nat) (asked : Query) : Isolated digest asked.Reply := issue id (.query asked)

/-- An existing job with the same key, together with the rate limit. -/
def replayExisting (id : Nat) (userId : UserId) (existing : AnalysisJobApiRecord)
    (requestHash : RequestHash) : Isolated digest AcceptedAnalysisJob := do
  let record <- ofExcept (resolveExisting existing requestHash)
  let rateLimit <- query id (.getCreationRateLimitStatus userId)
  pure ⟨record, rateLimit⟩

/-- The part of the acceptance transaction that creates a job. -/
def acceptNew (id : Nat) (userId : UserId) (idempotencyKey : String) (request : JobRequest)
    (retrySource : Option AnalysisJobApiRecord) : Isolated digest AcceptedAnalysisJob := do
  acquire id (.rateLimit userId)
  let rateLimit : AnalysisJobCreationRateLimitStatus <-
    query id (.getCreationRateLimitStatus userId)
  ensure (!rateLimit.isBlocked)
    (.http 429 "RATE_LIMITED" "Analysis job creation rate limit exceeded.")
  ensure (requestedGithubRepoId request retrySource != "")
    (notFound "JOB_NOT_FOUND" "Analysis job was not found.")
  let found : Option OwnedRepository <- query id
    (.findOwnedRepositoryByGithubId userId (requestedGithubRepoId request retrySource))
  match found with
  | none => throw (notFound "REPOSITORY_NOT_FOUND" "Repository was not found.")
  | some owned => do
      ensure (decide (0 < owned.owner.availableTokens)) (conflict "INSUFFICIENT_TOKENS"
        "Available tokens are required to create an analysis job.")
      let window <- ofExcept (collectionWindow request retrySource owned.repository)
      let job <- createExclusive id
        (acceptanceInput userId idempotencyKey request owned.repository.id window)
      let after <- query id (.getCreationRateLimitStatus userId)
      pure ⟨⟨job, owned.repository.githubRepoId⟩, after⟩

/-- The body of the acceptance transaction. -/
def acceptInTransaction (id : Nat) (userId : UserId) (idempotencyKey : String)
    (request : JobRequest) (retrySource : Option AnalysisJobApiRecord) :
    Isolated digest AcceptedAnalysisJob := do
  acquire id (.idempotency userId idempotencyKey)
  let existing : Option AnalysisJobApiRecord <-
    query id (.findByIdempotencyKey userId idempotencyKey)
  match existing with
  | some existing => replayExisting id userId existing (.api userId request)
  | none => acceptNew id userId idempotencyKey request retrySource

def transaction {α : Type} (body : Nat -> Isolated digest α) : Isolated digest α :=
  Dialect.transaction (L := statements digest) body

/-- A statement outside a transaction is a transaction of its own. -/
def direct (statement : Statement) : Isolated digest statement.Reply :=
  transaction fun id => issue id statement

/-- The error path of `acceptJob`: a lost race on the idempotency key becomes
a replay. -/
def recoverAcceptance (userId : UserId) (idempotencyKey : String) (request : JobRequest)
    (error : AppError) : Isolated digest AcceptedAnalysisJob :=
  if isIdempotencyUniqueConflict error then do
    let existing : Option AnalysisJobApiRecord <-
      direct (.query (.findByIdempotencyKey userId idempotencyKey))
    match existing with
    | some existing => do
        let record <- ofExcept (resolveExisting existing (.api userId request))
        let rateLimit : AnalysisJobCreationRateLimitStatus <-
          direct (.query (.getCreationRateLimitStatus userId))
        pure ⟨record, rateLimit⟩
    | none => throw (acceptanceError error)
  else throw (acceptanceError error)

def acceptJob (userId : UserId) (idempotencyKey : String) (request : JobRequest)
    (retrySource : Option AnalysisJobApiRecord) : Isolated digest AcceptedAnalysisJob :=
  tryCatch (transaction fun id => acceptInTransaction id userId idempotencyKey request retrySource)
    (recoverAcceptance userId idempotencyKey request)

/-- The pipe on the idempotency key. -/
def idempotencyKeyPipe (value : String) : Isolated digest Unit :=
  ensure (IdempotencyKeyPipe.isValid value)
    (.http 400 "INVALID_REQUEST" "Idempotency-Key is invalid.")

/-- `AnalysisJobApiService.create`, up to the publication of the job. -/
def create (userId : UserId) (githubRepoId key : String) : Isolated digest Unit := do
  idempotencyKeyPipe key
  let _ <- acceptJob userId key (.create githubRepoId) none
  pure ()

/-- `AnalysisJobApiService.retry`, up to the publication of the job. -/
def retry (userId : UserId) (sourceJobId : JobId) (key : String) : Isolated digest Unit := do
  idempotencyKeyPipe key
  let sourceJob : Option AnalysisJobApiRecord <-
    direct (.query (.findOwnedById userId sourceJobId))
  match sourceJob with
  | none => throw (notFound "JOB_NOT_FOUND" "Analysis job was not found.")
  | some source => do
      ensure (decide (source.job.status = .failed ∧ source.job.errorRetryable = some true))
        (conflict "JOB_NOT_RETRYABLE" "Analysis job cannot be retried.")
      let _ <- acceptJob userId key (.retry sourceJobId) (some source)
      pure ()

/-- `AnalysisJobService.create`. -/
def sync (input : CreateAnalysisJobInput) : Isolated digest Unit := do
  ofExcept (validateCreateInput input)
  let now <- currentDate
  let _ <- transaction fun id => createExclusive id (input.record now)
  pure ()

/-! ## Settlement -/

/-- `AnalysisJobService.transition`. -/
def transition (id : Nat) (input : TransitionAnalysisJobInput) : Isolated digest Unit := do
  ensure (canTransitionAnalysisJob input.fromStatus input.toStatus)
    (.invalidAnalysisJobTransition input.fromStatus input.toStatus)
  ofExcept (validateTransitionInput input)
  let transitioned : Bool <- issue id (.transitionJob input)
  ensure transitioned (.staleAnalysisJobTransition input.jobId input.fromStatus)

/-- `StatService.updateStats`. -/
def updateStats (id : Nat) (userId : UserId) (newMetrics : AnalysisMetrics) :
    Isolated digest Unit := do
  acquire id (.userStat userId)
  let existingStat : Option UserStat <- issue id (.findStat userId)
  match existingStat with
  | none => issue id (.createStat userId newMetrics)
  | some stat => issue id (.updateStat userId (stat.scores.weighted newMetrics))

/-- A positive refund of a settled job. -/
def refundTokens (id : Nat) (userId : UserId) (amount : Int) (settled : Bool) :
    Isolated digest Unit :=
  if settled && decide (0 < amount) then issue id (.incrementTokens userId amount) else pure ()

def runCompletionAction (id : Nat) : Option CompletionAction -> Isolated digest Unit
  | some action => issue id (.complete action)
  | none => pure ()

/-- The success transaction of `executeAnalysis`. -/
def saveAnalysisResult (id : Nat) (input : SaveAnalysisResultInput) : Isolated digest Unit := do
  let reportId : Nat <- issue id (.createReport input)
  updateStats id input.userId input.metrics
  refundTokens id input.userId (input.reservedTokens - input.usage.totalTokens) true
  let completedAt <- currentDate
  transition id (input.transition reportId completedAt)
  runCompletionAction id input.completionAction

/-- The transaction of `ensureWorkerTokenReservation`. -/
def reserveWorkerTokens (id : Nat) (input : ReserveAnalysisJobTokensInput) :
    Isolated digest Unit := do
  let debited : Bool <- issue id (.debitTokens input.expectedUserId input.reservedTokens)
  ensure debited .insufficientAnalysisTokens
  ofExcept (validateReserveTokens input)
  let reserved : Bool <- issue id (.reserveJob input)
  ensure reserved (.staleAnalysisJobTransition input.jobId .running)

/-- The additional debit, if there is one; it reports whether the user could
pay. -/
def debitAdditionally (id : Nat) (input : TerminateWorkerJobInput) : Isolated digest Bool :=
  if 0 < input.additionalDebitTokens then
    issue id (.debitTokens input.userId input.additionalDebitTokens)
  else pure true

/-- The transaction of `terminateWorkerJob`. -/
def terminateWorkerJob (id : Nat) (input : TerminateWorkerJobInput) : Isolated digest Unit := do
  let paid <- debitAdditionally id input
  refundTokens id input.userId input.refundTokens (input.tokensSettled && paid)
  ensure (!(input.tokensSettled && paid) || input.usage.isSome) .invalidAnalysisTokenUsage
  transition id (input.transition paid)
  runCompletionAction id input.completionAction

/-- The transaction of `settleFailure`. -/
def settleFailure (id : Nat) (input : SettleFailureInput) : Isolated digest Bool := do
  let row : Option AnalysisJob <- issue id (.findJob input.jobId)
  match row with
  | none => pure false
  | some job =>
      if job.status ≠ input.expected.status ∨ job.tokensSettledAt ≠ none ∨
          input.expected.leaseMatches job = false then
        pure false
      else do
        ensure (!job.hasProviderBillingEvidence)
          (.billedAnalysisJobRequiresReconciliation input.jobId)
        let terminalized : Bool <- issue id (.settleJob input)
        ensure terminalized (.staleAnalysisWorkerLease input.jobId)
        refundTokens id job.userId (job.reservedTokens.getD 0) true
        pure true

/-- Run a program for its effect. -/
def ignoring {α : Type} (program : Isolated digest α) : Isolated digest Unit := do
  let _ <- program
  pure ()

end Isolated

/-! ## The machine -/

/-- What a process may be started for.  A synchronous creation draws the
random part of its idempotency key itself. -/
inductive TransactionEntry where
  | create (userId : UserId) (githubRepoId key : String)
  | retry (userId : UserId) (sourceJobId : JobId) (key : String)
  | sync (userId : UserId) (repositoryId : RepositoryId) (key : Uuid)
      (sourceCursor collectionCutoff : Option Instant)
  | update (change : JobUpdate)
  | reserve (input : ReserveAnalysisJobTokensInput)
  | terminate (input : TerminateWorkerJobInput)
  | save (input : SaveAnalysisResultInput)
  | settle (input : SettleFailureInput)
  | upsertRepository (githubRepoId fullName : String) (userId : UserId)

def TransactionEntry.program : TransactionEntry -> Isolated digest Unit
  | .create userId githubRepoId key => Isolated.create userId githubRepoId key
  | .retry userId sourceJobId key => Isolated.retry userId sourceJobId key
  | .sync userId repositoryId key sourceCursor collectionCutoff =>
      Isolated.sync ⟨userId, repositoryId, syncKey key, sourceCursor, collectionCutoff⟩
  | .update change => Isolated.ignoring (Isolated.direct (.updateJob change))
  | .reserve input => Isolated.transaction fun id => Isolated.reserveWorkerTokens id input
  | .terminate input => Isolated.transaction fun id => Isolated.terminateWorkerJob id input
  | .save input => Isolated.transaction fun id => Isolated.saveAnalysisResult id input
  | .settle input =>
      Isolated.ignoring (Isolated.transaction fun id => Isolated.settleFailure id input)
  | .upsertRepository githubRepoId fullName userId =>
      Isolated.direct (.upsertRepository githubRepoId fullName userId)

/-- All transactions of the application over one database. -/
abbrev isolated (digest : String -> Int) : Machine (statements digest).interface :=
  (statements digest).machine TransactionEntry TransactionEntry.program

end GitMate
