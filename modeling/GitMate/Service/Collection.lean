import GitMate.Service.Runner

namespace GitMate

open Interleaving

/-!
# Collecting a repository, and the synchronous path

The worker and the synchronous path collect a repository through the same
service.  The synchronous path collects first, creates and starts its job
afterwards, and runs it in the same process.  Listing the repositories of a
user makes that user the owner of every listed repository.
-/

/-- `fullName.split('/')`. -/
def splitFullName (fullName : String) : List String :=
  (fullName.toList.splitOn '/').map String.ofList

/-- The owner and the name in `fullName`, when it has exactly these parts. -/
def ownerAndName (fullName : String) : Option (String × String) :=
  match splitFullName fullName with
  | [owner, repo] => if owner = "" ∨ repo = "" then none else some (owner, repo)
  | _ => none

/-- The input checks of `collect`. -/
def CollectRepositoryInput.isValid (input : CollectRepositoryInput) : Bool :=
  decide (0 < input.userId) && decide (input.githubRepoId ≠ "") &&
    (ownerAndName input.fullName).isSome && decide (input.targetUser ≠ "") &&
    (match input.sourceCursor with
      | some sourceCursor => decide (sourceCursor ≤ input.collectionCutoff)
      | none => true)

/-- The collected data of a successful attempt. -/
def collectedData (input : CollectRepositoryInput) (pullRequests : List PullRequest) :
    CollectedData where
  githubRepoId := input.githubRepoId
  owner := ((ownerAndName input.fullName).map Prod.fst).getD ""
  repo := ((ownerAndName input.fullName).map Prod.snd).getD ""
  targetUser := input.targetUser
  pullRequests := pullRequests
  window := input.window

/-- `RepositoryCollectionService.collect`; `onPages` runs the page callback
for the given number of pages. -/
def collect (input : CollectRepositoryInput) (onPages : Nat -> Service Unit) :
    Service CollectedData :=
  if input.isValid = false then throw .invalidRepositoryCollectionInput
  else do
    let attempt : CollectionAttempt <- Service.perform (.collectAttempt input)
    onPages attempt.pages
    let pullRequests <- Service.ofExcept attempt.outcome
    pure (collectedData input pullRequests)

/-! ## The synchronous path -/

structure CreateAnalysisJobInput where
  userId : UserId
  repositoryId : RepositoryId
  idempotencyKey : String
  sourceCursor : Option Instant
  collectionCutoff : Option Instant
  deriving DecidableEq, Repr

def validateCreateInput (input : CreateAnalysisJobInput) : Except AppError Unit :=
  if input.userId = 0 then
    .error (.invalidAnalysisJobInput "userId must be a positive integer")
  else if input.repositoryId = 0 then
    .error (.invalidAnalysisJobInput "repositoryId must be a positive integer")
  else if input.idempotencyKey.length = 0 ∨ 128 < input.idempotencyKey.length ∨
      startsWith input.idempotencyKey "legacy-report:" = true ∨
      (input.idempotencyKey.toList.any fun character =>
        decide (character.toNat ≤ 31) || character.toNat == 127) = true then
    .error (.invalidAnalysisJobInput "idempotencyKey is invalid")
  else .ok ()

/-- The record that `AnalysisJobService.create` inserts; `now` stands in for a
missing cutoff. -/
def CreateAnalysisJobInput.record (input : CreateAnalysisJobInput) (now : Instant) :
    CreateAnalysisJobRecordInput where
  userId := input.userId
  repositoryId := input.repositoryId
  idempotencyKey := input.idempotencyKey
  requestHash := .sync input.userId input.repositoryId input.sourceCursor
    ANALYSIS_MODEL_VERSION ANALYSIS_PROMPT_VERSION
  version := CURRENT_ANALYSIS_EXECUTION_VERSION
  sourceCursor := input.sourceCursor
  collectionCutoff := some (input.collectionCutoff.getD now)

/-- `AnalysisJobService.create`. -/
def AnalysisJobService.create (input : CreateAnalysisJobInput) : Service AnalysisJob := do
  Service.ofExcept (validateCreateInput input)
  let now <- Service.currentDate
  Service.command (.createExclusive (input.record now))

/-- The idempotency key of a synchronous job. -/
def syncKey (uuid : Uuid) : String := "sync:" ++ toString uuid

/-- The options of a caller that passes none. -/
def AnalysisJobRunOptions.none : AnalysisJobRunOptions := ⟨false, pure (), pure ()⟩

/-- `AnalysisJobRunnerService.runAnalysis`. -/
def runAnalysis (deployment : Deployment) (userId : UserId) (repositoryId : RepositoryId)
    (data : CollectedData) (completionAction : Option CompletionAction) : Service Unit := do
  let leaseToken <- Service.randomUuid
  let startedAt <- Service.currentDate
  let key <- Service.randomUuid
  let job <- AnalysisJobService.create ⟨userId, repositoryId, syncKey key, none, none⟩
  let started : Bool <- Service.command (.update
    (.start job.id leaseToken (startedAt + 15 * 60 * 1000) startedAt))
  if started = false then throw (.staleAnalysisJobTransition job.id .queued)
  else do
    let result <- runAnalysisJob deployment.pipeline data ⟨job.id, leaseToken⟩ completionAction
      AnalysisJobRunOptions.none
    match result with
    | .succeeded _ => pure ()
    | .noAnalyzableData => pure ()
    | .failed _ error => throw error

/-- How `syncRepository` reports an error of the analysis. -/
def syncError : AppError -> AppError
  | .activeAnalysisJobExists _ => .http 409 "ACTIVE_JOB_EXISTS"
      "An active analysis job already exists for this repository."
  | error => error

/-- The collection of the synchronous path. -/
def syncCollectInput (userId : UserId) (githubRepoId : String) (owned : OwnedRepository)
    (syncStartedAt : Instant) : CollectRepositoryInput where
  userId := userId
  githubRepoId := githubRepoId
  fullName := owned.repository.fullName
  targetUser := owned.owner.username
  sourceCursor := owned.repository.lastSyncTime
  collectionCutoff := syncStartedAt

/-- `CollectionService.syncRepository`. -/
def syncRepository (deployment : Deployment) (githubRepoId : String) (userId : UserId) :
    Service Unit := do
  let found : Option OwnedRepository <- Service.query (.findRepositoryWithOwner githubRepoId)
  match found with
  | none => throw (.http 404 "" ("Repository with ID " ++ githubRepoId ++ " not found"))
  | some owned =>
      if owned.repository.ownerId ≠ userId then
        throw (.http 403 "" "You do not have permission to sync this repository")
      else do
        let syncStartedAt <- Service.currentDate
        let data <- collect (syncCollectInput userId githubRepoId owned syncStartedAt)
          fun _ => pure ()
        tryCatch (runAnalysis deployment userId owned.repository.id data
          (some (.advanceSyncCheckpoint githubRepoId syncStartedAt)))
          fun error => throw (syncError error)

/-! ## Listing repositories -/

/-- `CollectionService.getRepositories`, as far as it writes. -/
def getRepositories (userId : UserId) : Service Unit := do
  let user : Option User <- Service.query (.findUser userId)
  match user with
  | none => throw (.http 403 "" "User not found")
  | some _ => do
      let repos : List AvailableRepo <- Service.perform (.getAvailableRepos userId)
      -- The upserts run concurrently, so the failure of one does not stop the others.
      Program.forEach repos fun repo => do
        let _ <- Program.attempt
          (Service.command (.upsertRepository repo.githubRepoId repo.fullName userId))
        pure ()

end GitMate
