import GitMate.Service.Publisher

namespace GitMate

open Interleaving

/-!
# Accepting jobs over the API

`create` and `retry` accept a job and publish it.  Acceptance is a transaction
under READ COMMITTED: its reads see whatever is committed when they are made,
and its only writes are those of `createExclusive`, with which it commits.  So
the reads are operations of their own and the creation is one command.  The
locks on the idempotency key and on the rate limit only order the acceptances
of one user; the model admits every order.
-/

def IdempotencyKeyPipe.isValid (value : String) : Bool :=
  decide (1 ≤ value.length) && decide (value.length ≤ 128) &&
    !startsWith value "legacy-report:" && !startsWith value "sync:" &&
    value.toList.all fun character => decide (31 < character.toNat) && character.toNat != 127

/-- `IdempotencyKeyPipe.transform`. -/
def IdempotencyKeyPipe.transform (value : String) : Service String :=
  if IdempotencyKeyPipe.isValid value then pure value
  else throw (.http 400 "INVALID_REQUEST" "Idempotency-Key is invalid.")

structure AcceptedAnalysisJob where
  record : AnalysisJobApiRecord
  rateLimit : AnalysisJobCreationRateLimitStatus
  deriving DecidableEq, Repr

def notFound (code message : String) : AppError := .http 404 code message
def conflict (code message : String) : AppError := .http 409 code message

def resolveExisting (existing : AnalysisJobApiRecord) (requestHash : RequestHash) :
    Except AppError AnalysisJobApiRecord :=
  if existing.job.requestHash ≠ requestHash then
    .error (conflict "IDEMPOTENCY_KEY_REUSED"
      "Idempotency-Key was already used for a different request.")
  else .ok existing

/-- An existing job with the same key, together with the rate limit. -/
def replayExisting (userId : UserId) (existing : AnalysisJobApiRecord)
    (requestHash : RequestHash) : Service AcceptedAnalysisJob := do
  let record <- Service.ofExcept (resolveExisting existing requestHash)
  let rateLimit <- Service.query (.getCreationRateLimitStatus userId)
  pure ⟨record, rateLimit⟩

/-- The collection window of a new job: a retry copies the window of its
source, a creation starts where the repository was last synchronized. -/
def collectionWindow (request : JobRequest) (retrySource : Option AnalysisJobApiRecord)
    (repository : Repository) : Except AppError (Option Instant × Option Instant) :=
  match request with
  | .retry _ =>
      match retrySource with
      | some source => .ok (source.job.sourceCursor, some source.job.collectionCutoff)
      | none => .error (notFound "JOB_NOT_FOUND" "Analysis job was not found.")
  | .create _ => .ok (repository.lastSyncTime, none)

/-- `githubRepoId` of the request; it may be missing for a retry. -/
def requestedGithubRepoId (request : JobRequest) (retrySource : Option AnalysisJobApiRecord) :
    String :=
  match request with
  | .create githubRepoId => githubRepoId
  | .retry _ => (retrySource.map AnalysisJobApiRecord.githubRepoId).getD ""

/-- The input of `createExclusive` for an accepted request. -/
def acceptanceInput (userId : UserId) (idempotencyKey : String) (request : JobRequest)
    (repositoryId : RepositoryId) (window : Option Instant × Option Instant) :
    CreateAnalysisJobRecordInput where
  userId := userId
  repositoryId := repositoryId
  idempotencyKey := idempotencyKey
  requestHash := .api userId request
  version := CURRENT_ANALYSIS_EXECUTION_VERSION
  sourceCursor := window.1
  collectionCutoff := window.2

/-- The part of the acceptance transaction that creates a job. -/
def acceptNew (userId : UserId) (idempotencyKey : String) (request : JobRequest)
    (retrySource : Option AnalysisJobApiRecord) : Service AcceptedAnalysisJob := do
  let rateLimit : AnalysisJobCreationRateLimitStatus <-
    Service.query (.getCreationRateLimitStatus userId)
  if rateLimit.isBlocked then
    throw (.http 429 "RATE_LIMITED" "Analysis job creation rate limit exceeded.")
  else if requestedGithubRepoId request retrySource = "" then
    throw (notFound "JOB_NOT_FOUND" "Analysis job was not found.")
  else do
    let found : Option OwnedRepository <- Service.query
      (.findOwnedRepositoryByGithubId userId (requestedGithubRepoId request retrySource))
    match found with
    | none => throw (notFound "REPOSITORY_NOT_FOUND" "Repository was not found.")
    | some owned =>
        if owned.owner.availableTokens ≤ 0 then
          throw (conflict "INSUFFICIENT_TOKENS"
            "Available tokens are required to create an analysis job.")
        else do
          let window <- Service.ofExcept (collectionWindow request retrySource owned.repository)
          let job : AnalysisJob <- Service.command (.createExclusive
            (acceptanceInput userId idempotencyKey request owned.repository.id window))
          let after <- Service.query (.getCreationRateLimitStatus userId)
          pure ⟨⟨job, owned.repository.githubRepoId⟩, after⟩

/-- The body of the acceptance transaction. -/
def acceptInTransaction (userId : UserId) (idempotencyKey : String) (request : JobRequest)
    (retrySource : Option AnalysisJobApiRecord) : Service AcceptedAnalysisJob := do
  let existing : Option AnalysisJobApiRecord <-
    Service.query (.findByIdempotencyKey userId idempotencyKey)
  match existing with
  | some existing => replayExisting userId existing (.api userId request)
  | none => acceptNew userId idempotencyKey request retrySource

/-- How a failed acceptance is reported. -/
def acceptanceError : AppError -> AppError
  | .http status code message => .http status code message
  | .activeAnalysisJobExists _ => conflict "ACTIVE_JOB_EXISTS"
      "An active analysis job already exists for this repository."
  | _ => .http 503 "JOB_ACCEPTANCE_UNAVAILABLE"
      "Analysis job acceptance is temporarily unavailable."

def isIdempotencyUniqueConflict : AppError -> Bool
  | .prismaKnownRequest code => code == "P2002"
  | .withCode code => code == "P2002"
  | _ => false

/-- The error path of `acceptJob`: a lost race on the idempotency key becomes
a replay. -/
def recoverAcceptance (userId : UserId) (idempotencyKey : String) (request : JobRequest)
    (error : AppError) : Service AcceptedAnalysisJob :=
  if isIdempotencyUniqueConflict error then do
    let existing : Option AnalysisJobApiRecord <-
      Service.query (.findByIdempotencyKey userId idempotencyKey)
    match existing with
    | some existing => replayExisting userId existing (.api userId request)
    | none => throw (acceptanceError error)
  else throw (acceptanceError error)

def acceptJob (userId : UserId) (idempotencyKey : String) (request : JobRequest)
    (retrySource : Option AnalysisJobApiRecord) : Service AcceptedAnalysisJob :=
  tryCatch (acceptInTransaction userId idempotencyKey request retrySource)
    (recoverAcceptance userId idempotencyKey request)

namespace AnalysisJobApiService

def create (deployment : Deployment) (userId : UserId) (githubRepoId : String)
    (key : String) : Service Unit := do
  let idempotencyKey <- IdempotencyKeyPipe.transform key
  let accepted <- acceptJob userId idempotencyKey (.create githubRepoId) none
  let _ <- publishAcceptedJob deployment accepted.record.job
  pure ()

def retry (deployment : Deployment) (userId : UserId) (sourceJobId : JobId) (key : String) :
    Service Unit := do
  let idempotencyKey <- IdempotencyKeyPipe.transform key
  let sourceJob : Option AnalysisJobApiRecord <-
    Service.query (.findOwnedById userId sourceJobId)
  match sourceJob with
  | none => throw (notFound "JOB_NOT_FOUND" "Analysis job was not found.")
  | some source =>
      if source.job.status ≠ .failed ∨ source.job.errorRetryable ≠ some true then
        throw (conflict "JOB_NOT_RETRYABLE" "Analysis job cannot be retried.")
      else do
        let accepted <- acceptJob userId idempotencyKey (.retry sourceJobId) (some source)
        let _ <- publishAcceptedJob deployment accepted.record.job
        pure ()

end AnalysisJobApiService
end GitMate
