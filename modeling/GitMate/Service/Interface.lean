import GitMate.Library.System
import GitMate.Ledger.Commands

namespace GitMate

open Relational Interleaving

/-!
# The operations of the services

A service observes the rest of the system through queries, the commands of
the ledger, clocks, random values, the collection of repository data, the
analysis provider and the message queue.  `exec` gives the effect of each
operation on the world; its second argument resolves what the environment
decides.  Nothing relates the clock readings of different operations, so
every skew and every delay between processes is covered.
-/

/-! ## Records read by the services -/

/-- The job columns with those of its repository that the worker selects. -/
structure AnalysisWorkerJob where
  job : AnalysisJob
  githubRepoId : String
  fullName : String
  ownerUsername : String
  deriving DecidableEq, Repr

/-- The job columns with the part of its repository that the API uses. -/
structure AnalysisJobApiRecord where
  job : AnalysisJob
  githubRepoId : String
  deriving DecidableEq, Repr

structure AnalysisJobCreationRateLimitStatus where
  totalHits : Nat
  remaining : Nat
  retryAfterSeconds : Int
  isBlocked : Bool
  deriving DecidableEq, Repr

/-- A repository with its owner. -/
structure OwnedRepository where
  repository : Repository
  owner : User
  deriving DecidableEq, Repr

def ANALYSIS_JOB_CREATION_RATE_LIMIT : Nat := 5
def ANALYSIS_JOB_CREATION_RATE_LIMIT_WINDOW_MS : Int := 60000

namespace Database

def findOwner (db : Database) (repository : Repository) : Option OwnedRepository :=
  (db.findUser repository.ownerId).map fun owner => ⟨repository, owner⟩

/-- The join of a job with its repository and the owner.  Foreign keys
guarantee that both exist. -/
def workerJob (db : Database) (job : AnalysisJob) : AnalysisWorkerJob :=
  let repository := db.findRepository job.repositoryId
  { job := job
    githubRepoId := (repository.map Repository.githubRepoId).getD ""
    fullName := (repository.map Repository.fullName).getD ""
    ownerUsername :=
      ((repository.bind db.findOwner).map fun found => found.owner.username).getD "" }

def apiRecord (db : Database) (job : AnalysisJob) : AnalysisJobApiRecord :=
  ⟨job, ((db.findRepository job.repositoryId).map Repository.githubRepoId).getD ""⟩

def findRunningByLease (db : Database) (jobId : JobId) (leaseToken : Uuid) :
    Option AnalysisJob :=
  (db.findJob jobId).filter fun job => job.status == .running && job.leaseToken == some leaseToken

def findOwnedById (db : Database) (userId : UserId) (jobId : JobId) :
    Option AnalysisJobApiRecord :=
  ((db.findJob jobId).filter fun job => job.userId == userId).map db.apiRecord

def findOwnedRepositoryByGithubId (db : Database) (userId : UserId) (githubRepoId : String) :
    Option OwnedRepository :=
  ((db.findRepositoryByGithubId githubRepoId).filter
    fun repository => repository.ownerId == userId).bind db.findOwner

/-- The jobs that count against the rate limit of a user at the given
`CURRENT_TIMESTAMP`, oldest first and at most as many as the limit. -/
def recentJobs (db : Database) (userId : UserId) (now : Instant) : List AnalysisJob :=
  ((db.analysisJobs.rows.filter fun job =>
    job.userId == userId &&
      decide (now - ANALYSIS_JOB_CREATION_RATE_LIMIT_WINDOW_MS < job.createdAt) &&
      !job.isLegacyReport && !job.isSync).insertionSort
        (fun left right => left.createdAt ≤ right.createdAt)).take ANALYSIS_JOB_CREATION_RATE_LIMIT

/-- Seconds, rounded up. -/
def ceilSeconds (milliseconds : Int) : Int := -((-milliseconds) / 1000)

def getCreationRateLimitStatus (db : Database) (userId : UserId) (now : Instant) :
    AnalysisJobCreationRateLimitStatus :=
  let recent := db.recentJobs userId now
  { totalHits := recent.length
    remaining := ANALYSIS_JOB_CREATION_RATE_LIMIT - recent.length
    retryAfterSeconds :=
      match recent.head? with
      | some oldest =>
          max 1 (ceilSeconds (oldest.createdAt + ANALYSIS_JOB_CREATION_RATE_LIMIT_WINDOW_MS - now))
      | none => ceilSeconds ANALYSIS_JOB_CREATION_RATE_LIMIT_WINDOW_MS
    isBlocked := decide (ANALYSIS_JOB_CREATION_RATE_LIMIT ≤ recent.length) }

end Database

/-! ## Queries -/

inductive Query where
  | findUser (id : UserId)
  | findRunningByLease (jobId : JobId) (leaseToken : Uuid)
  | findWorkerJob (jobId : JobId)
  | requireClaimedJob (jobId : JobId) (leaseToken : Uuid)
  | findDue (now : Instant) (republishAfterSeconds maxAttempts batchSize : Nat)
  | findOwnedById (userId : UserId) (jobId : JobId)
  | findByIdempotencyKey (userId : UserId) (idempotencyKey : String)
  | getCreationRateLimitStatus (userId : UserId)
  | findOwnedRepositoryByGithubId (userId : UserId) (githubRepoId : String)
  | findRepositoryWithOwner (githubRepoId : String)

@[reducible] def Query.Reply : Query -> Type
  | .findUser _ => Option User
  | .findRunningByLease .. => Option AnalysisJob
  | .findWorkerJob _ => Option AnalysisWorkerJob
  | .requireClaimedJob .. => Option AnalysisWorkerJob
  | .findDue .. => List AnalysisJobPublishRecord
  | .findOwnedById .. => Option AnalysisJobApiRecord
  | .findByIdempotencyKey .. => Option AnalysisJobApiRecord
  | .getCreationRateLimitStatus _ => AnalysisJobCreationRateLimitStatus
  | .findOwnedRepositoryByGithubId .. => Option OwnedRepository
  | .findRepositoryWithOwner _ => Option OwnedRepository

/-- The answer to a query; `now` is `CURRENT_TIMESTAMP`. -/
def Query.run (db : Database) (now : Instant) : (query : Query) -> query.Reply
  | .findUser id => db.findUser id
  | .findRunningByLease jobId leaseToken => db.findRunningByLease jobId leaseToken
  | .findWorkerJob jobId => (db.findJob jobId).map db.workerJob
  | .requireClaimedJob jobId leaseToken =>
      (db.findRunningByLease jobId leaseToken).map db.workerJob
  | .findDue dueAt republishAfterSeconds maxAttempts batchSize =>
      db.findDue dueAt republishAfterSeconds maxAttempts batchSize
  | .findOwnedById userId jobId => db.findOwnedById userId jobId
  | .findByIdempotencyKey userId idempotencyKey =>
      (db.findByIdempotencyKey userId idempotencyKey).map db.apiRecord
  | .getCreationRateLimitStatus userId => db.getCreationRateLimitStatus userId now
  | .findOwnedRepositoryByGithubId userId githubRepoId =>
      db.findOwnedRepositoryByGithubId userId githubRepoId
  | .findRepositoryWithOwner githubRepoId =>
      (db.findRepositoryByGithubId githubRepoId).bind db.findOwner

/-! ## The message queue -/

/-- A received body, as `parseAnalysisWorkerMessage` classifies it. -/
inductive AnalysisWorkerMessageParseResult where
  | valid (jobId : JobId)
  | invalid (jobId : Option JobId)
  deriving DecidableEq, Repr

structure QueueMessage where
  messageId : Nat
  body : AnalysisWorkerMessageParseResult
  /-- `MessageGroupId`, the user and the repository. -/
  group : UserId × RepositoryId
  receiveCount : Nat
  inFlight : Bool
  deriving DecidableEq, Repr

/-- A message of a job that the queue has accepted, with its time. -/
structure AcceptedSend where
  jobId : JobId
  acceptedAt : Instant
  deriving DecidableEq, Repr

/-- The source queue in its order, its dead-letter queue, the sends accepted
so far and the queue's own clock. -/
structure Queue where
  messages : List QueueMessage
  deadLetters : List QueueMessage
  accepted : List AcceptedSend
  nextMessageId : Nat
  clock : Instant
  deriving DecidableEq, Repr

def MAX_RECEIVE_COUNT : Nat := 5
def DEDUPLICATION_INTERVAL_MS : Int := 5 * 60 * 1000

namespace Queue

/-- The queue may ignore a send of a job id that it has accepted less than
five minutes ago. -/
def mayDeduplicate (queue : Queue) (jobId : JobId) : Bool :=
  queue.accepted.any fun earlier =>
    earlier.jobId == jobId && decide (queue.clock < earlier.acceptedAt + DEDUPLICATION_INTERVAL_MS)

def enqueue (queue : Queue) (jobId : JobId) (group : UserId × RepositoryId) : Queue :=
  { queue with
    messages := queue.messages ++ [⟨queue.nextMessageId, .valid jobId, group, 0, false⟩]
    accepted := queue.accepted ++ [⟨jobId, queue.clock⟩]
    nextMessageId := queue.nextMessageId + 1 }

/-- Whether the named messages may be delivered together: none of them is in
flight or worn out, and none overtakes an earlier message of its group. -/
def deliverable (ids : List Nat) : List QueueMessage -> List (UserId × RepositoryId) -> Bool
  | [], _ => true
  | message :: rest, blocked =>
      if message.messageId ∈ ids then
        decide (message.group ∉ blocked) && !message.inFlight &&
          decide (message.receiveCount < MAX_RECEIVE_COUNT) && deliverable ids rest blocked
      else deliverable ids rest (message.group :: blocked)

def receiveMessage (ids : List Nat) (message : QueueMessage) : QueueMessage :=
  if message.messageId ∈ ids then
    { message with receiveCount := message.receiveCount + 1, inFlight := true }
  else message

def receive (queue : Queue) (ids : List Nat) : Option (List QueueMessage × Queue) :=
  if deliverable ids queue.messages [] then
    let messages := queue.messages.map (receiveMessage ids)
    some (messages.filter fun message => message.messageId ∈ ids, { queue with messages := messages })
  else none

/-- Delete the messages of the given records. -/
def delete (queue : Queue) (records : List QueueMessage) : Queue :=
  { queue with messages := queue.messages.filter fun message =>
      !records.any fun record => record.messageId == message.messageId }

/-- An accepted send whose message is not delivered again. -/
def deduplicate (queue : Queue) (jobId : JobId) : Queue :=
  { queue with accepted := queue.accepted ++ [⟨jobId, queue.clock⟩] }

end Queue

structure World where
  db : Database
  queue : Queue
  /-- The identifiers generated so far. -/
  issued : List Uuid

/-! ## Operations -/

structure CollectRepositoryInput where
  userId : UserId
  githubRepoId : String
  fullName : String
  targetUser : String
  sourceCursor : Option Instant
  collectionCutoff : Instant
  deriving DecidableEq, Repr

def CollectRepositoryInput.window (input : CollectRepositoryInput) : CollectionWindow :=
  ⟨input.sourceCursor, input.collectionCutoff⟩

/-- One collection attempt: the pages it fetched, each of them followed by a
heartbeat, and what it found or failed with after them. -/
structure CollectionAttempt where
  pages : Nat
  outcome : Except AppError (List PullRequest)

structure LlmAnalysisResponse where
  providerRequestId : String
  result : LlmAnalysisResult
  usage : AnalysisTokenUsage
  deriving DecidableEq, Repr

/-- A repository of the listing that GitHub returns. -/
structure AvailableRepo where
  githubRepoId : String
  fullName : String
  deriving DecidableEq, Repr

inductive Op where
  | query (question : Query)
  | command (order : Command)
  /-- `new Date()`. -/
  | currentDate
  /-- `randomUUID()`. -/
  | randomUuid
  /-- `Math.random()`. -/
  | random
  | collectAttempt (input : CollectRepositoryInput)
  | analyze (data : CollectedData) (version : AnalysisExecutionVersion)
  | publishMessage (jobId : JobId) (userId : UserId) (repositoryId : RepositoryId) (traceId : Uuid)
  | getAvailableRepos (userId : UserId)
  /-- The batch with which the event source invokes the worker. -/
  | receiveMessages
  /-- What the event source does with the records of a batch that did not
  fail. -/
  | deleteMessages (records : List QueueMessage)

@[reducible] def Op.Reply : Op -> Type
  | .query question => question.Reply
  | .command order => order.Reply
  | .currentDate => Instant
  | .randomUuid => Uuid
  | .random => Rat
  | .collectAttempt _ => CollectionAttempt
  | .analyze .. => LlmAnalysisResponse
  | .publishMessage .. => Unit
  | .getAvailableRepos _ => List AvailableRepo
  | .receiveMessages => List QueueMessage
  | .deleteMessages _ => Unit

/-- The interface of the services. -/
abbrev Services : Interface := ⟨Op, Op.Reply, AppError⟩

/-- The errors that third parties and libraries raise; the rest are thrown by
the modelled code alone. -/
def AppError.isExternal : AppError -> Bool
  | .unsupportedAnalysisExecutionVersion _ | .llmProviderReconciliation .. => true
  | .llmProviderConfiguration | .llmTokenEstimation | .inputLimitExceeded _ => true
  | .invalidRepositoryCollectionInput | .githubPagination | .invalidGithubDate => true
  | .githubRateLimit _ | .http .. | .providerApi _ => true
  | .prismaKnownRequest _ | .prismaClient => true
  | .withStatus _ | .withCode _ | .error _ => true
  | _ => false

/-- How the queue answers a send. -/
inductive SendResult where
  | accepted
  | deduplicated
  | rejected
  /-- The caller sees an error although the queue may have accepted the
  message. -/
  | ambiguous (accepted : Bool) (error : AppError)
  deriving DecidableEq, Repr

/-- How the environment resolves an operation. -/
inductive Choice where
  /-- Answer a query at this `CURRENT_TIMESTAMP`. -/
  | answer (now : Instant)
  /-- Raise a fault in place of an answer. -/
  | fault (error : AppError)
  | commit (commit : Commit)
  | date (now : Instant)
  | uuid (uuid : Uuid)
  | random (value : Rat)
  | collection (attempt : CollectionAttempt)
  | response (response : LlmAnalysisResponse)
  | send (result : SendResult)
  | repositories (repos : List AvailableRepo)
  | received (messageIds : List Nat)
  | deleted

namespace World

/-- The queue's part of a send. -/
def send (world : World) (jobId : JobId) (group : UserId × RepositoryId) :
    SendResult -> Option (Except AppError Unit × World)
  | .accepted => some (.ok (), { world with queue := world.queue.enqueue jobId group })
  | .deduplicated =>
      if world.queue.mayDeduplicate jobId then
        some (.ok (), { world with queue := world.queue.deduplicate jobId })
      else none
  | .rejected => some (.error .analysisJobQueueRejected, world)
  | .ambiguous true error =>
      if error.isExternal then
        some (.error error, { world with queue := world.queue.enqueue jobId group })
      else none
  | .ambiguous false error => if error.isExternal then some (.error error, world) else none

def answer (world : World) (question : Query) :
    Choice -> Option (Except AppError question.Reply × World)
  | .answer now => some (.ok (question.run world.db now), world)
  | .fault error => if error.isDatabaseFault then some (.error error, world) else none
  | _ => none

def perform (world : World) (order : Command) :
    Choice -> Option (Except AppError order.Reply × World)
  | .commit commit =>
      if commit.isAdmissible then
        let done := world.db.transaction commit order.run
        some (done.1, { world with db := done.2 })
      else none
  | _ => none

def issue (world : World) : Choice -> Option (Except AppError Uuid × World)
  | .uuid uuid =>
      if uuid ∈ world.issued then none
      else some (.ok uuid, { world with issued := uuid :: world.issued })
  | _ => none

def publish (world : World) (jobId : JobId) (group : UserId × RepositoryId) :
    Choice -> Option (Except AppError Unit × World)
  | .send result => world.send jobId group result
  | _ => none

def receive (world : World) : Choice -> Option (Except AppError (List QueueMessage) × World)
  | .received messageIds =>
      (world.queue.receive messageIds).map fun delivery =>
        (.ok delivery.1, { world with queue := delivery.2 })
  | _ => none

def delete (world : World) (records : List QueueMessage) :
    Choice -> Option (Except AppError Unit × World)
  | .deleted => some (.ok (), { world with queue := world.queue.delete records })
  | .fault error => if error.isExternal then some (.error error, world) else none
  | _ => none

/-- The answers of the operations that change nothing in the world. -/
def observe : (op : Op) -> Choice -> Option (Except AppError op.Reply)
  | .currentDate, .date now => some (.ok (show Instant from now))
  | .random, .random value =>
      if 0 ≤ value ∧ value < 1 then some (.ok (show Rat from value)) else none
  | .collectAttempt _, .collection attempt =>
      match attempt.outcome with
      | .ok _ => some (.ok (show CollectionAttempt from attempt))
      | .error error =>
          if error.isExternal then some (.ok (show CollectionAttempt from attempt)) else none
  | .analyze _ _, .response response => some (.ok (show LlmAnalysisResponse from response))
  | .analyze _ _, .fault error => if error.isExternal then some (.error error) else none
  | .getAvailableRepos _, .repositories repos =>
      some (.ok (show List AvailableRepo from repos))
  | .getAvailableRepos _, .fault error =>
      if error.isExternal then some (.error error) else none
  | _, _ => none

/-- The effect of one operation. -/
def exec (op : Op) (choice : Choice) (world : World) : Option (Except AppError op.Reply × World) :=
  match op with
  | .query question => world.answer question choice
  | .command order => world.perform order choice
  | .randomUuid => world.issue choice
  | .publishMessage jobId userId repositoryId _ => world.publish jobId (userId, repositoryId) choice
  | .receiveMessages => world.receive choice
  | .deleteMessages records => world.delete records choice
  | op => (observe op choice).map fun outcome => (outcome, world)

end World

/-- The code of a service procedure. -/
abbrev Service (α : Type) : Type := Program Services α

namespace Service

def perform (op : Op) : Service op.Reply := @Program.perform Services op

def query (question : Query) : Service question.Reply := perform (.query question)

def command (order : Command) : Service order.Reply := perform (.command order)

def currentDate : Service Instant := perform .currentDate

def randomUuid : Service Uuid := perform .randomUuid

def random : Service Rat := perform .random

/-- Continue with a checked value, or throw its error. -/
def ofExcept {α : Type} : Except AppError α -> Service α
  | .ok value => pure value
  | .error error => throw error

end Service

/-! ## Configuration -/

/-- The settings of the publisher, which are read as positive integers. -/
structure AnalysisJobPublishSettings where
  maxAttempts : Nat
  republishAfterSeconds : Nat
  reconcileBatchSize : Nat
  maxAttempts_pos : 0 < maxAttempts
  deriving DecidableEq, Repr

/-- The pure stages of the analysis.  The ledger depends on whether anything
is left after refinement, on the estimate and on the metrics; the rest of
their results is passed on unread. -/
structure Pipeline where
  refine : CollectedData -> CollectedData
  preprocess : CollectedData -> CollectedData
  estimateTokensForData : CollectedData -> AnalysisExecutionVersion -> Except AppError Int
  calculate : LlmAnalysisResult -> Except AppError AnalysisMetrics

/-- The configuration of a deployment.  Reading the settings of the publisher
or of the queue may raise a configuration error; the settings of the worker
fall back to their defaults unless they are positive integers. -/
structure Deployment where
  publishSettings : Except AppError AnalysisJobPublishSettings
  sqsSettings : Except AppError Unit
  leaseSeconds : Nat
  retryBaseSeconds : Nat
  pipeline : Pipeline
  leaseSeconds_pos : 0 < leaseSeconds
  retryBaseSeconds_pos : 0 < retryBaseSeconds

/-- `MetricCalculatorService.calculate`. -/
def calculateMetrics (llmResult : LlmAnalysisResult) : AnalysisMetrics where
  mutualRespectScore := llmResult.mutualRespect * 20
  conflictManagementScore := llmResult.conflictManagement * 20
  logicalProblemScore := llmResult.logicalProblemDefinition * 20
  reviewGuidingScore := llmResult.reviewGuiding * 20
  documentationScore := llmResult.documentation * 20
  knowledgeSharingScore := llmResult.knowledgeSharing * 20
  technicalInfluenceScore := llmResult.technicalInfluence * 20
  codeStabilityScore := llmResult.codeStability * 20

def DEFAULT_PUBLISH_SETTINGS : AnalysisJobPublishSettings :=
  ⟨5, 60, 20, by decide⟩

/-- The default configuration, with an analysis that keeps everything and
estimates a thousand tokens. -/
def DEFAULT_DEPLOYMENT : Deployment where
  publishSettings := .ok DEFAULT_PUBLISH_SETTINGS
  sqsSettings := .ok ()
  leaseSeconds := 15 * 60
  retryBaseSeconds := 30
  pipeline :=
    { refine := id
      preprocess := id
      estimateTokensForData := fun _ _ => .ok 1000
      calculate := fun result => .ok (calculateMetrics result) }
  leaseSeconds_pos := by decide
  retryBaseSeconds_pos := by decide

end GitMate
