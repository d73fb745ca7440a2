import GitMate.Ledger.Evolution
import GitMate.Service.Api
import GitMate.Service.Worker

namespace GitMate

open Interleaving

/-!
# What the services do, and after what

No single query or update shows why the ledger stays consistent: it matters
that a lease token is used once, that a send belongs to a claimed attempt,
that a report is computed from the data collected for its job, and that a
message is deleted only when its job is over.  The discipline below states
these dependencies of an operation on the earlier operations of the same
process.
-/

/-- An operation with its outcome is part of the history. -/
def Happened (past : History Services) (op : Op) (outcome : Except AppError op.Reply) : Prop :=
  (⟨op, outcome⟩ : Event Services) ∈ past

/-- A query was answered. -/
def Learned (past : History Services) (question : Query) (reply : question.Reply) : Prop :=
  Happened past (.query question) (.ok reply)

/-- A command was acknowledged. -/
def Did (past : History Services) (order : Command) (reply : order.Reply) : Prop :=
  Happened past (.command order) (.ok reply)

section Growth

variable {past later : History Services} (extended : past <+: later)

include extended

theorem Happened.mono {op : Op} {outcome : Except AppError op.Reply}
    (happened : Happened past op outcome) : Happened later op outcome :=
  extended.subset happened

theorem Learned.mono {question : Query} {reply : question.Reply}
    (learned : Learned past question reply) : Learned later question reply :=
  Happened.mono extended learned

theorem Did.mono {order : Command} {reply : order.Reply} (did : Did past order reply) :
    Did later order reply :=
  Happened.mono extended did

end Growth

/-! ## Lease tokens -/

/-- The job that a claim concerns and the lease token it brings. -/
def JobUpdate.claims : JobUpdate -> Option (JobId × Uuid)
  | .claimQueued jobId leaseToken _ _ => some (jobId, leaseToken)
  | .takeOverExpiredLease current leaseToken _ _ => some (current.id, leaseToken)
  | .takeOverExpiredBilledLease current leaseToken _ _ => some (current.id, leaseToken)
  | _ => none

/-- The job that an update puts under a lease, and the token of the lease. -/
def JobUpdate.leases : JobUpdate -> Option (JobId × Uuid)
  | .start jobId leaseToken _ _ => some (jobId, leaseToken)
  | change => change.claims

/-- The process has put the job under the lease. -/
def Holds (past : History Services) (jobId : JobId) (leaseToken : Uuid) : Prop :=
  Exists fun change : JobUpdate => Did past (.update change) true ∧
    change.leases = some (jobId, leaseToken)

theorem Holds.mono {past later : History Services} (extended : past <+: later) {jobId : JobId}
    {leaseToken : Uuid} (holds : Holds past jobId leaseToken) : Holds later jobId leaseToken := by
  rcases holds with ⟨change, did, leases⟩
  exact ⟨change, Did.mono extended did, leases⟩

theorem JobUpdate.leases_of_claims {change : JobUpdate} {claim : JobId × Uuid}
    (claims : change.claims = some claim) : change.leases = some claim := by
  cases change with
  | start => cases claims
  | _ => exact claims

/-- The lease token that an update may write into a row. -/
def JobUpdate.installs : JobUpdate -> Option Uuid
  | .start _ leaseToken _ _ => some leaseToken
  | change => change.claims.map Prod.snd

/-- The lease token that a command may write into a row. -/
def Command.installs : Command -> Option Uuid
  | .update change => change.installs
  | _ => none

def Op.unusedAfter (unused : List Uuid) : (op : Op) -> Except AppError op.Reply -> List Uuid
  | .randomUuid, .ok uuid => (show Uuid from uuid) :: unused
  | .randomUuid, .error _ => unused
  | .command order, _ => unused.filter fun uuid => order.installs != some uuid
  | .query _, _ | .currentDate, _ | .random, _ | .collectAttempt _, _ | .analyze .., _
  | .publishMessage .., _ | .getAvailableRepos _, _ | .receiveMessages, _
  | .deleteMessages _, _ => unused

/-- The generated identifiers that the process has not yet used as a lease
token. -/
def unusedTokens (past : History Services) : List Uuid :=
  past.foldl (fun unused event => event.op.unusedAfter unused event.outcome) []

/-! ## Publish attempts -/

/-- A claimed publish attempt and the outcome of its send. -/
structure Publication where
  claim : ClaimAnalysisJobPublishAttemptInput
  sent : Option (Except AppError Unit)

def JobUpdate.publicationAfter (current : Option Publication) (outcome : Except AppError Bool) :
    JobUpdate -> Option Publication
  | .claimAttempt input =>
      match outcome with
      | .ok true => some ⟨input, none⟩
      | _ => none
  | .markPublished .. => none
  | .recordFailure _ => none
  | _ => current

def Op.publicationAfter (current : Option Publication) :
    (op : Op) -> Except AppError op.Reply -> Option Publication
  | .command (.update change), outcome => change.publicationAfter current outcome
  | .publishMessage .., outcome =>
      current.map fun publication => { publication with sent := some outcome }
  | .command (.createExclusive _), _ | .command (.reserveWorkerTokens _), _
  | .command (.terminateWorkerJob _), _ | .command (.saveAnalysisResult _), _
  | .command (.settleFailure _), _ | .command (.upsertRepository ..), _
  | .query _, _ | .currentDate, _ | .randomUuid, _ | .random, _ | .collectAttempt _, _
  | .analyze .., _ | .getAvailableRepos _, _ | .receiveMessages, _ | .deleteMessages _, _ => current

/-- The publish attempt that the process has claimed and not yet completed. -/
def openPublication (past : History Services) : Option Publication :=
  past.foldl (fun current event => event.op.publicationAfter current event.outcome) none

/-! ## Claims -/

def Query.claimAfter (current : Option AnalysisWorkerJob) :
    (question : Query) -> Except AppError question.Reply -> Option AnalysisWorkerJob
  | .requireClaimedJob .., .ok (some job) => some job
  | .requireClaimedJob .., _ => current
  | .findUser _, _ | .findRunningByLease .., _ | .findWorkerJob _, _ | .findDue .., _
  | .findOwnedById .., _ | .findByIdempotencyKey .., _ | .getCreationRateLimitStatus _, _
  | .findOwnedRepositoryByGithubId .., _ | .findRepositoryWithOwner _, _ => current

def Op.claimAfter (current : Option AnalysisWorkerJob) :
    (op : Op) -> Except AppError op.Reply -> Option AnalysisWorkerJob
  | .query question, outcome => question.claimAfter current outcome
  | .command _, _ | .currentDate, _ | .randomUuid, _ | .random, _ | .collectAttempt _, _
  | .analyze .., _ | .publishMessage .., _ | .getAvailableRepos _, _ | .receiveMessages, _
  | .deleteMessages _, _ => current

/-- The job that the process has claimed last. -/
def lastClaim (past : History Services) : Option AnalysisWorkerJob :=
  past.foldl (fun current event => event.op.claimAfter current event.outcome) none

/-! ## Clocks -/

def Op.clockAfter (current : Option Instant) :
    (op : Op) -> Except AppError op.Reply -> Option Instant
  | .currentDate, .ok now => some (show Instant from now)
  | .currentDate, .error _ => current
  | .query _, _ | .command _, _ | .randomUuid, _ | .random, _ | .collectAttempt _, _
  | .analyze .., _ | .publishMessage .., _ | .getAvailableRepos _, _ | .receiveMessages, _
  | .deleteMessages _, _ => current

def Op.readings : (op : Op) -> Except AppError op.Reply -> List Instant
  | .currentDate, .ok now => [(show Instant from now)]
  | _, _ => []

/-- Every reading of the clock of the process, the first one first. -/
def clockReadings (past : History Services) : List Instant :=
  past.flatMap fun event => event.op.readings event.outcome

/-- The latest reading of the clock of the process. -/
def latestClock (past : History Services) : Option Instant :=
  past.foldl (fun current event => event.op.clockAfter current event.outcome) none

/-! ## Collections -/

def Op.collections : Op -> List CollectRepositoryInput
  | .collectAttempt input => [input]
  | _ => []

/-- Every collection that the process has asked for, the first one first. -/
def collections (past : History Services) : List CollectRepositoryInput :=
  past.flatMap fun event => event.op.collections

/-! ## Charges -/

def RecordAnalysisJobProviderChargeInput.charge (input : RecordAnalysisJobProviderChargeInput) :
    ProviderCharge :=
  ⟨input.promptTokens, input.completionTokens, input.totalTokens, [input.providerRequestId]⟩

/-- The charge that goes with a usage and the id of its request. -/
def AnalysisTokenUsage.charge (usage : Option AnalysisTokenUsage)
    (providerRequestIds : List String) : ProviderCharge :=
  ⟨usage.map AnalysisTokenUsage.promptTokens, usage.map AnalysisTokenUsage.completionTokens,
    usage.map AnalysisTokenUsage.totalTokens, providerRequestIds⟩

def TerminateWorkerJobInput.charge (input : TerminateWorkerJobInput) : ProviderCharge :=
  AnalysisTokenUsage.charge input.usage input.providerRequestIds

def SaveAnalysisResultInput.charge (input : SaveAnalysisResultInput) : ProviderCharge :=
  AnalysisTokenUsage.charge (some input.usage) [input.providerRequestId]

/-- What the checkpoint of a recorded charge keeps of it: a single request id
and a valid usage. -/
def ProviderCharge.checkpoint (charge : ProviderCharge) : ProviderCharge :=
  let usage := match charge.promptTokens, charge.completionTokens, charge.totalTokens with
    | some promptTokens, some completionTokens, some totalTokens =>
        JobExecution.getValidTokenUsageOrNull
          (some ⟨promptTokens, completionTokens, totalTokens⟩)
    | _, _, _ => .none
  AnalysisTokenUsage.charge usage (match charge.providerRequestIds with
    | [requestId] => [requestId]
    | _ => [])

/-- The charge of a job as the process that runs it knows it. -/
structure KnownCharge where
  jobId : JobId
  leaseToken : Uuid
  charge : ProviderCharge
  deriving DecidableEq, Repr

def Query.chargeAfter (current : Option KnownCharge) :
    (question : Query) -> Except AppError question.Reply -> Option KnownCharge
  | .findRunningByLease jobId leaseToken, .ok (some job) =>
      some ⟨jobId, leaseToken, job.providerCharge⟩
  | .findRunningByLease .., _ => none
  | .findWorkerJob _, _ => none
  | .findUser _, _ | .requireClaimedJob .., _ | .findDue .., _ | .findOwnedById .., _
  | .findByIdempotencyKey .., _ | .getCreationRateLimitStatus _, _
  | .findOwnedRepositoryByGithubId .., _ | .findRepositoryWithOwner _, _ => current

/-- A charge that was asked to be recorded counts whatever became of the
request, and a claim begins a new execution. -/
def JobUpdate.chargeAfter (current : Option KnownCharge) : JobUpdate -> Option KnownCharge
  | .recordProviderCharge input => some ⟨input.jobId, input.expectedLeaseToken, input.charge⟩
  | .start .. | .claimQueued .. | .takeOverExpiredLease .. | .takeOverExpiredBilledLease .. => none
  | .updateProgress _ | .releaseForRetry _ | .claimAttempt _ | .markPublished ..
  | .recordFailure _ => current

/-- The charge that is known after an operation. -/
def Op.chargeAfter (current : Option KnownCharge) :
    (op : Op) -> Except AppError op.Reply -> Option KnownCharge
  | .query question, outcome => question.chargeAfter current outcome
  | .command (.update change), _ => change.chargeAfter current
  | .command (.createExclusive _), _ | .command (.reserveWorkerTokens _), _
  | .command (.terminateWorkerJob _), _ | .command (.saveAnalysisResult _), _
  | .command (.settleFailure _), _ | .command (.upsertRepository ..), _
  | .currentDate, _ | .randomUuid, _ | .random, _ | .collectAttempt _, _ | .analyze .., _
  | .publishMessage .., _ | .getAvailableRepos _, _ | .receiveMessages, _
  | .deleteMessages _, _ => current

/-- The charge that the process has read or asked to be recorded last. -/
def knownCharge (past : History Services) : Option KnownCharge :=
  past.foldl (fun current event => event.op.chargeAfter current event.outcome) none

section Append

variable (past : History Services) (op : Op) (outcome : Except AppError op.Reply)

@[simp] theorem unusedTokens_append :
    unusedTokens (past ++ [⟨op, outcome⟩]) = op.unusedAfter (unusedTokens past) outcome := by
  simp only [unusedTokens, List.foldl_append, List.foldl_cons, List.foldl_nil]

@[simp] theorem openPublication_append :
    openPublication (past ++ [⟨op, outcome⟩]) =
      op.publicationAfter (openPublication past) outcome := by
  simp only [openPublication, List.foldl_append, List.foldl_cons, List.foldl_nil]

@[simp] theorem lastClaim_append :
    lastClaim (past ++ [⟨op, outcome⟩]) = op.claimAfter (lastClaim past) outcome := by
  simp only [lastClaim, List.foldl_append, List.foldl_cons, List.foldl_nil]

@[simp] theorem latestClock_append :
    latestClock (past ++ [⟨op, outcome⟩]) = op.clockAfter (latestClock past) outcome := by
  simp only [latestClock, List.foldl_append, List.foldl_cons, List.foldl_nil]

@[simp] theorem clockReadings_append :
    clockReadings (past ++ [⟨op, outcome⟩]) = clockReadings past ++ op.readings outcome := by
  simp only [clockReadings, List.flatMap_append, List.flatMap_singleton]

@[simp] theorem collections_append :
    collections (past ++ [⟨op, outcome⟩]) = collections past ++ op.collections := by
  simp only [collections, List.flatMap_append, List.flatMap_singleton]

@[simp] theorem knownCharge_append :
    knownCharge (past ++ [⟨op, outcome⟩]) = op.chargeAfter (knownCharge past) outcome := by
  simp only [knownCharge, List.foldl_append, List.foldl_cons, List.foldl_nil]

end Append

/-! ## Where inputs come from -/

/-- The job rows in the answer to a query. -/
def Query.shown : (question : Query) -> question.Reply -> List AnalysisJob
  | .findDue .., jobs => jobs
  | .findRunningByLease .., job => job.toList
  | .findWorkerJob _, found => found.toList.map AnalysisWorkerJob.job
  | .requireClaimedJob .., found => found.toList.map AnalysisWorkerJob.job
  | .findOwnedById .., found => found.toList.map AnalysisJobApiRecord.job
  | .findByIdempotencyKey .., found => found.toList.map AnalysisJobApiRecord.job
  | .findUser _, _ | .getCreationRateLimitStatus _, _ | .findOwnedRepositoryByGithubId .., _
  | .findRepositoryWithOwner _, _ => []

/-- The job rows that an operation shows to its process. -/
def Op.shown : (op : Op) -> Except AppError op.Reply -> List AnalysisJob
  | .query question, .ok reply => question.shown reply
  | .command (.createExclusive _), .ok job => [(show AnalysisJob from job)]
  | _, _ => []

/-- The process has read this row, or has inserted it. -/
def Seen (past : History Services) (job : AnalysisJob) : Prop :=
  Exists fun event => event ∈ past ∧ job ∈ Op.shown event.op event.outcome

namespace Seen

variable {past later : History Services} {job : AnalysisJob}

theorem mono (extended : past <+: later) (seen : Seen past job) : Seen later job := by
  rcases seen with ⟨event, member, shown⟩
  exact ⟨event, extended.subset member, shown⟩

theorem append_iff {op : Op} {outcome : Except AppError op.Reply} :
    Seen (past ++ [⟨op, outcome⟩]) job ↔ Seen past job ∨ job ∈ op.shown outcome := by
  constructor
  · rintro ⟨event, member, shown⟩
    rcases List.mem_append.mp member with before | now
    · exact Or.inl ⟨event, before, shown⟩
    · rw [List.mem_singleton] at now
      subst now
      exact Or.inr shown
  · rintro (seen | shown)
    · exact seen.mono (List.prefix_append _ _)
    · exact ⟨_, List.mem_append_right _ List.mem_cons_self, shown⟩

theorem due {now : Instant} {republishAfterSeconds maxAttempts batchSize : Nat}
    {jobs : List AnalysisJobPublishRecord}
    (read : Learned past (.findDue now republishAfterSeconds maxAttempts batchSize) jobs)
    (member : job ∈ jobs) : Seen past job := ⟨_, read, member⟩

theorem replayed {userId : UserId} {idempotencyKey : String} {record : AnalysisJobApiRecord}
    (read : Learned past (.findByIdempotencyKey userId idempotencyKey) (some record)) :
    Seen past record.job := ⟨_, read, List.mem_singleton_self _⟩

theorem inserted {input : CreateAnalysisJobRecordInput}
    (created : Did past (.createExclusive input) job) : Seen past job :=
  ⟨_, created, List.mem_singleton_self _⟩

end Seen

/-- The retry source of an accepted request was read and was retryable. -/
def RetrySource (past : History Services) (userId : UserId) (request : JobRequest)
    (source : Option AnalysisJobApiRecord) : Prop :=
  match request with
  | .create _ => True
  | .retry sourceJobId => Exists fun record => source = some record ∧
      Learned past (.findOwnedById userId sourceJobId) (some record) ∧
      record.job.status = .failed ∧ record.job.errorRetryable = some true

/-- The creations that the API and the synchronous path issue. -/
inductive Accepts (past : History Services) : CreateAnalysisJobRecordInput -> Prop where
  | api {userId : UserId} {idempotencyKey : String} {request : JobRequest}
      {source : Option AnalysisJobApiRecord} {owned : OwnedRepository}
      {window : Option Instant × Option Instant}
      (valid : IdempotencyKeyPipe.isValid idempotencyKey = true)
      (owner : Learned past (.findOwnedRepositoryByGithubId userId
        (requestedGithubRepoId request source)) (some owned))
      (retried : RetrySource past userId request source)
      (windowed : collectionWindow request source owned.repository = .ok window) :
      Accepts past (acceptanceInput userId idempotencyKey request owned.repository.id window)
  | sync {userId : UserId} {githubRepoId : String} {owned : OwnedRepository} {key : Uuid}
      {syncStartedAt startedAt now : Instant}
      (owner : Learned past (.findRepositoryWithOwner githubRepoId) (some owned))
      (mine : owned.repository.ownerId = userId)
      (collected : collections past = [syncCollectInput userId githubRepoId owned syncStartedAt])
      (clocks : clockReadings past = [syncStartedAt, startedAt, now]) :
      Accepts past (CreateAnalysisJobInput.record
        ⟨userId, owned.repository.id, syncKey key, none, none⟩ now)

/-- The collections of the worker and of the synchronous path. -/
inductive Collects (past : History Services) : CollectRepositoryInput -> Prop where
  | worker {job : AnalysisWorkerJob} (claimed : lastClaim past = some job) :
      Collects past (AnalysisWorkerService.collectInput job)
  | sync {userId : UserId} {githubRepoId : String} {owned : OwnedRepository}
      {syncStartedAt : Instant} (unclaimed : lastClaim past = none)
      (owner : Learned past (.findRepositoryWithOwner githubRepoId) (some owned))
      (mine : owned.repository.ownerId = userId)
      (clocks : clockReadings past = [syncStartedAt]) :
      Collects past (syncCollectInput userId githubRepoId owned syncStartedAt)

/-- Collected data that a report of a job may be computed from, with the
completion action that goes with it. -/
inductive Reportable (past : History Services) (jobId : JobId) :
    Option CompletionAction -> CollectedData -> Prop where
  | worker {job : AnalysisWorkerJob} {leaseToken : Uuid} {attempt : CollectionAttempt}
      {pullRequests : List PullRequest}
      (claimed : Learned past (.requireClaimedJob jobId leaseToken) (some job))
      (collected : Happened past (.collectAttempt (AnalysisWorkerService.collectInput job))
        (.ok attempt))
      (found : attempt.outcome = .ok pullRequests) :
      Reportable past jobId (some (AnalysisWorkerService.checkpoint job))
        (collectedData (AnalysisWorkerService.collectInput job) pullRequests)
  | sync {userId : UserId} {githubRepoId : String} {owned : OwnedRepository}
      {syncStartedAt : Instant} {attempt : CollectionAttempt} {pullRequests : List PullRequest}
      {input : CreateAnalysisJobRecordInput} {job : AnalysisJob}
      (owner : Learned past (.findRepositoryWithOwner githubRepoId) (some owned))
      (mine : owned.repository.ownerId = userId)
      (collected : Happened past
        (.collectAttempt (syncCollectInput userId githubRepoId owned syncStartedAt)) (.ok attempt))
      (found : attempt.outcome = .ok pullRequests)
      (created : Did past (.createExclusive input) job) (named : job.id = jobId)
      (user : input.userId = userId) (repository : input.repositoryId = owned.repository.id) :
      Reportable past jobId (some (.advanceSyncCheckpoint githubRepoId syncStartedAt))
        (collectedData (syncCollectInput userId githubRepoId owned syncStartedAt) pullRequests)

theorem Reportable.mono {past later : History Services} (extended : past <+: later) {jobId : JobId}
    {completionAction : Option CompletionAction} {data : CollectedData}
    (reportable : Reportable past jobId completionAction data) :
    Reportable later jobId completionAction data := by
  cases reportable with
  | worker claimed collected found =>
      exact .worker (Learned.mono extended claimed) (Happened.mono extended collected) found
  | sync owner mine collected found created named user repository =>
      exact .sync (Learned.mono extended owner) mine (Happened.mono extended collected) found
        (Did.mono extended created) named user repository

/-- A row that the worker treats as ended. -/
def AnalysisJob.isEnded (job : AnalysisJob) : Prop :=
  job.isTerminal = true ∨ job.completedAt ≠ none ∨ job.tokensSettledAt ≠ none

/-- The process has learned that a job needs no further delivery. -/
inductive Finished (past : History Services) (jobId : JobId) : Prop where
  | missing (read : Learned past (.findWorkerJob jobId) none)
  | ended {job : AnalysisWorkerJob} (read : Learned past (.findWorkerJob jobId) (some job))
      (isEnded : job.job.isEnded)
  | terminated {input : TerminateWorkerJobInput} {reply : Unit}
      (did : Did past (.terminateWorkerJob input) reply) (named : input.jobId = jobId)
  | saved {input : SaveAnalysisResultInput} {reply : Unit}
      (did : Did past (.saveAnalysisResult input) reply) (named : input.jobId = jobId)
  | settled {input : SettleFailureInput} (did : Did past (.settleFailure input) true)
      (named : input.jobId = jobId)

theorem Finished.mono {past later : History Services} (extended : past <+: later) {jobId : JobId}
    (finished : Finished past jobId) : Finished later jobId := by
  cases finished with
  | missing read => exact .missing (Learned.mono extended read)
  | ended read isEnded => exact .ended (Learned.mono extended read) isEnded
  | terminated did named => exact .terminated (Did.mono extended did) named
  | saved did named => exact .saved (Did.mono extended did) named
  | settled did named => exact .settled (Did.mono extended did) named

/-! ## The discipline -/

/-- A charge agrees with what the process knows to be recorded. -/
def Charges (past : History Services) (jobId : JobId) (leaseToken : Uuid)
    (charge : ProviderCharge) : Prop :=
  Exists fun known => knownCharge past = some ⟨jobId, leaseToken, known⟩ ∧
    (known = .none ∨ charge = known ∨ charge = known.checkpoint)

/-- The version of a job row. -/
def AnalysisJob.version (job : AnalysisJob) : AnalysisExecutionVersion :=
  ⟨job.modelVersion, job.promptVersion⟩

/-- A failure moves the checkpoint of its repository only when nothing was
left to analyze.  (A job that is retired at the second look would do so as
well, but its version does not change between the two.) -/
inductive Completes (past : History Services) (input : TerminateWorkerJobInput) : Prop where
  | nothing (none : input.completionAction = none)
  | noData {collected : CollectedData} (code : input.errorCode = .noAnalyzableData)
      (settled : input.tokensSettled = true) (undebited : input.additionalDebitTokens = 0)
      (reportable : Reportable past input.jobId input.completionAction collected)
  | retired {job other : AnalysisJob} (seen : Seen past job) (named : job.id = input.jobId)
      (current : isRetiredAnalysisExecutionVersion job.version = false)
      (again : Seen past other) (sameJob : other.id = input.jobId)
      (retired : isRetiredAnalysisExecutionVersion other.version = true)

theorem Completes.mono {past later : History Services} (extended : past <+: later)
    {input : TerminateWorkerJobInput} (completes : Completes past input) :
    Completes later input := by
  cases completes with
  | nothing none => exact .nothing none
  | noData code settled undebited reportable =>
      exact .noData code settled undebited (reportable.mono extended)
  | retired seen named current again sameJob retired =>
      exact .retired (seen.mono extended) named current (again.mono extended) sameJob retired

/-- A claim is made at the latest clock reading, for a lease that ends no
earlier. -/
def ClaimsAt (past : History Services) (leaseToken : Uuid) (now leaseExpiresAt : Instant) : Prop :=
  leaseToken ∈ unusedTokens past ∧ latestClock past = some now ∧ now ≤ leaseExpiresAt

/-- When an update may be issued. -/
def JobUpdate.Permitted (deployment : Deployment) (past : History Services) : JobUpdate -> Prop
  | .start jobId leaseToken _ _ => leaseToken ∈ unusedTokens past ∧
      Exists fun input => Exists fun job => Did past (.createExclusive input) job ∧
        job.id = jobId ∧ startsWith input.idempotencyKey "sync:" = true
  | .claimQueued _ leaseToken now leaseExpiresAt => ClaimsAt past leaseToken now leaseExpiresAt
  | .takeOverExpiredLease _ leaseToken now leaseExpiresAt =>
      ClaimsAt past leaseToken now leaseExpiresAt
  | .takeOverExpiredBilledLease _ leaseToken now leaseExpiresAt =>
      ClaimsAt past leaseToken now leaseExpiresAt
  | .claimAttempt input => Seen past input.job ∧ input.job.isSync = false ∧
      input.deliveryUncertain = deliveryUncertain input.job
  | .markPublished input _ => Exists fun attempt : PublishAttempt =>
      openPublication past = some ⟨attempt.claim, some (.ok ())⟩ ∧ input = attempt.completion
  | .recordFailure input => Exists fun attempt : PublishAttempt =>
      deployment.publishSettings = .ok attempt.settings ∧
      Exists fun error => Exists fun random =>
        openPublication past = some ⟨attempt.claim, some (.error error)⟩ ∧
        input = attempt.failure error random
  | .recordProviderCharge input => validateRecordProviderCharge input = .ok () ∧
      Holds past input.jobId input.expectedLeaseToken ∧
      knownCharge past = some ⟨input.jobId, input.expectedLeaseToken, .none⟩
  | .updateProgress input => Holds past input.jobId input.leaseToken ∧ input.progress ≤ 100 ∧
      Exists fun now => latestClock past = some now ∧ now ≤ input.leaseExpiresAt
  | .releaseForRetry input => Holds past input.jobId input.leaseToken ∧
      input.errorMessage.length ≤ 256 ∧
      Exists fun now => latestClock past = some now ∧ now < input.nextPublishAt

/-- When a command may be issued. -/
def Command.Permitted (deployment : Deployment) (past : History Services) : Command -> Prop
  | .update change => change.Permitted deployment past
  | .createExclusive input => Accepts past input
  | .saveAnalysisResult input => Holds past input.jobId input.leaseToken ∧
      knownCharge past = some ⟨input.jobId, input.leaseToken, input.charge⟩ ∧
      Reportable past input.jobId input.completionAction input.collected
  | .terminateWorkerJob input => input.errorCode ≠ .publishFailed ∧
      Holds past input.jobId input.leaseToken ∧
      Charges past input.jobId input.leaseToken input.charge ∧ Completes past input
  | .settleFailure input => input.errorCode ≠ .publishFailed ∧ input.errorMessage.length ≤ 256
  | .reserveWorkerTokens input => Holds past input.jobId input.expectedLeaseToken
  | .upsertRepository .. => True

/-- When an operation may be performed. -/
def Op.Permitted (deployment : Deployment) (past : History Services) : Op -> Prop
  | .command order => order.Permitted deployment past ∧ order.Sound
  | .query (.requireClaimedJob jobId leaseToken) => Exists fun change : JobUpdate =>
      Exists fun earlier => past = earlier ++ [⟨.command (.update change), .ok true⟩] ∧
        change.claims = some (jobId, leaseToken)
  | .query (.findRunningByLease jobId leaseToken) => Holds past jobId leaseToken
  | .collectAttempt input => Collects past input
  | .publishMessage jobId userId repositoryId _ => Exists fun attempt : PublishAttempt =>
      openPublication past = some ⟨attempt.claim, none⟩ ∧ attempt.job.id = jobId ∧
        attempt.job.userId = userId ∧ attempt.job.repositoryId = repositoryId
  | .receiveMessages => past = []
  | .deleteMessages records => forall record, record ∈ records ->
      (Exists fun received : List QueueMessage =>
        Happened past .receiveMessages (.ok received) ∧ record ∈ received) ∧
        forall jobId, record.body = .valid jobId -> Finished past jobId
  | .analyze .. => Exists fun jobId => Exists fun leaseToken =>
      knownCharge past = some ⟨jobId, leaseToken, .none⟩
  | .query _ | .currentDate | .randomUuid | .random | .getAvailableRepos _ => True

/-- The replies of the database name the row that was asked for. -/
def Query.Credible : (question : Query) -> question.Reply -> Prop
  | .findRunningByLease jobId _, reply => forall job, reply = some job -> job.id = jobId
  | .findWorkerJob jobId, reply => forall job, reply = some job -> job.job.id = jobId
  | .requireClaimedJob jobId _, reply => forall job, reply = some job -> job.job.id = jobId
  | .findUser _, _ | .findDue .., _
  | .findOwnedById .., _ | .findByIdempotencyKey .., _ | .getCreationRateLimitStatus _, _
  | .findOwnedRepositoryByGithubId .., _ | .findRepositoryWithOwner _, _ => True

/-- An acknowledged creation returns the row of its input. -/
def Command.Credible : (order : Command) -> order.Reply -> Prop
  | .createExclusive input, reply => Exists fun environment => reply = newJob input environment
  | .update _, _ | .reserveWorkerTokens _, _ | .terminateWorkerJob _, _
  | .saveAnalysisResult _, _ | .settleFailure _, _ | .upsertRepository .., _ => True

/-- The outcomes that the world produces: clocks, random values and the queue
do not fail. -/
def Op.Credible : (op : Op) -> Except AppError op.Reply -> Prop
  | .query question, outcome => forall reply, outcome = .ok reply -> question.Credible reply
  | .currentDate, outcome => Exists fun now => outcome = .ok now
  | .randomUuid, outcome => Exists fun uuid => outcome = .ok uuid
  | .random, outcome => Exists fun value : Rat => outcome = .ok value ∧ 0 ≤ value
  | .command order, outcome => forall reply, outcome = .ok reply -> order.Credible reply
  | .collectAttempt _, outcome => Exists fun attempt => outcome = .ok attempt
  | .receiveMessages, outcome => Exists fun records => outcome = .ok records
  | .analyze .., _ | .publishMessage .., _ | .getAvailableRepos _, _
  | .deleteMessages _, _ => True

/-- The discipline of every process of the system. -/
def discipline (deployment : Deployment) : Discipline Services where
  Permits := Op.Permitted deployment
  Credible := Op.Credible

/-- A procedure of the services keeps the discipline. -/
abbrev Keeps (deployment : Deployment) {α : Type} (ends : Services.Post α)
    (past : History Services) (program : Service α) : Prop :=
  program.Obeys (discipline deployment) ends past

end GitMate
