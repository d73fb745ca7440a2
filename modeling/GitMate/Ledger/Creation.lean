import GitMate.Ledger.JobService

namespace GitMate

open Relational

/-!
# Creating a job

A job is created inside the advisory lock of its repository.  The creator
first fails the stale jobs of the repository, then refuses to go on while an
active job is left, and inserts the new row last.  All of this is one
transaction, so a refused creation also undoes its recovery.
-/

def ANALYSIS_JOB_STALE_TIMEOUT_MS : Int := 15 * 60 * 1000

/-! ## Stale recovery -/

/-- `staleLease`: an expired lease, or no lease and no recent write.  A null
expiry satisfies no comparison. -/
def staleLease (completedAt : Instant) (job : AnalysisJob) : Bool :=
  match job.leaseExpiresAt with
  | some leaseExpiresAt => decide (leaseExpiresAt ≤ completedAt)
  | none => decide (job.updatedAt ≤ completedAt - ANALYSIS_JOB_STALE_TIMEOUT_MS)

/-- The `where` of the first recovery update: nothing is reserved, and the
job is an abandoned synchronous one or its lease is stale. -/
def isStaleUnreserved (repositoryId : RepositoryId) (completedAt : Instant)
    (job : AnalysisJob) : Bool :=
  job.repositoryId == repositoryId && job.reservedTokens == none &&
    job.tokensSettledAt == none &&
    (job.status == .queued && job.isSync &&
        decide (job.createdAt ≤ completedAt - ANALYSIS_JOB_STALE_TIMEOUT_MS) &&
        job.startedAt == none && job.messagePublishedAt == none &&
        job.nextPublishAt == none && job.attemptCount == 0 ||
      job.status == .running && staleLease completedAt job)

/-- The `where` of the second recovery update: a stale lease over a
reservation. -/
def isStaleReserved (repositoryId : RepositoryId) (completedAt : Instant)
    (job : AnalysisJob) : Bool :=
  job.repositoryId == repositoryId && job.status == .running &&
    job.reservedTokens.isSome && job.tokensSettledAt == none && staleLease completedAt job

def failStaleUnreserved (completedAt : Instant) (job : AnalysisJob) : AnalysisJob :=
  { job with
    status := .failed
    stage := none
    promptTokens := some 0
    completionTokens := some 0
    totalTokens := some 0
    tokensSettledAt := some completedAt
    leaseToken := none
    leaseExpiresAt := none
    heartbeatAt := none
    completedAt := some completedAt
    lastErrorCode := some .analysisFailed
    lastErrorMessage := some "Analysis failed."
    errorRetryable := some true
    updatedAt := completedAt }

def failStaleReserved (completedAt : Instant) (job : AnalysisJob) : AnalysisJob :=
  { job with
    status := .failed
    stage := none
    tokensSettledAt := none
    leaseToken := none
    leaseExpiresAt := none
    heartbeatAt := none
    completedAt := some completedAt
    lastErrorCode := some .providerReconciliationRequired
    lastErrorMessage := some "The provider charge requires reconciliation."
    errorRetryable := some false
    updatedAt := completedAt }

theorem failStaleUnreserved_id (completedAt : Instant) (job : AnalysisJob) :
    (failStaleUnreserved completedAt job).id = job.id := rfl

theorem failStaleReserved_id (completedAt : Instant) (job : AnalysisJob) :
    (failStaleReserved completedAt job).id = job.id := rfl

/-- The table after both recovery updates. -/
def recoverStaleTable (repositoryId : RepositoryId) (completedAt : Instant)
    (jobs : Table AnalysisJob.id) : Table AnalysisJob.id :=
  (jobs.updateMany (isStaleUnreserved repositoryId completedAt)
      (failStaleUnreserved completedAt) (failStaleUnreserved_id completedAt)).updateMany
    (isStaleReserved repositoryId completedAt) (failStaleReserved completedAt)
    (failStaleReserved_id completedAt)

def recoverStaleActiveJobs (repositoryId : RepositoryId) : Tx Unit := do
  let completedAt <- Tx.currentDate
  Tx.statement fun db _ => .ok ((), { db with
    analysisJobs := db.analysisJobs.updateMany (isStaleUnreserved repositoryId completedAt)
      (failStaleUnreserved completedAt) (failStaleUnreserved_id completedAt) })
  Tx.statement fun db _ => .ok ((), { db with
    analysisJobs := db.analysisJobs.updateMany (isStaleReserved repositoryId completedAt)
      (failStaleReserved completedAt) (failStaleReserved_id completedAt) })

/-- What recovery does to one row. -/
def recoverRow (repositoryId : RepositoryId) (completedAt : Instant) (job : AnalysisJob) :
    AnalysisJob :=
  if isStaleUnreserved repositoryId completedAt job then failStaleUnreserved completedAt job
  else if isStaleReserved repositoryId completedAt job then failStaleReserved completedAt job
  else job

/-- A row failed by the first update is no longer running, so the second
update leaves it alone. -/
theorem recoverRow_eq (repositoryId : RepositoryId) (completedAt : Instant) (job : AnalysisJob) :
    (let first := if isStaleUnreserved repositoryId completedAt job
      then failStaleUnreserved completedAt job else job
    if isStaleReserved repositoryId completedAt first
      then failStaleReserved completedAt first else first) =
      recoverRow repositoryId completedAt job := by
  by_cases unreserved : isStaleUnreserved repositoryId completedAt job = true
  · have notRunning : isStaleReserved repositoryId completedAt
        (failStaleUnreserved completedAt job) = false := by
      simp [isStaleReserved, failStaleUnreserved]
    simp only [recoverRow, unreserved, if_true, notRunning, Bool.false_eq_true, if_false]
  · simp only [recoverRow, unreserved, if_false, Bool.false_eq_true]

theorem find?_recoverStaleTable {repositoryId : RepositoryId} {completedAt : Instant}
    {jobs : Table AnalysisJob.id} (wanted : JobId) :
    (recoverStaleTable repositoryId completedAt jobs).find? wanted =
      (jobs.find? wanted).map (recoverRow repositoryId completedAt) := by
  unfold recoverStaleTable
  rw [Table.find?_updateMany, Table.find?_updateMany, Option.map_map]
  refine congrArg (fun change => (jobs.find? wanted).map change) (funext fun job => ?_)
  exact recoverRow_eq repositoryId completedAt job

theorem mem_recoverStaleTable {repositoryId : RepositoryId} {completedAt : Instant}
    {jobs : Table AnalysisJob.id} {row : AnalysisJob} :
    row ∈ recoverStaleTable repositoryId completedAt jobs ↔
      Exists fun old => old ∈ jobs ∧ recoverRow repositoryId completedAt old = row := by
  unfold recoverStaleTable
  rw [Table.mem_updateMany]
  constructor
  · rintro ⟨middle, member, rfl⟩
    rcases Table.mem_updateMany.mp member with ⟨old, oldMember, rfl⟩
    exact ⟨old, oldMember, (recoverRow_eq repositoryId completedAt old).symm⟩
  · rintro ⟨old, oldMember, rfl⟩
    exact ⟨_, Table.mem_updateMany.mpr ⟨old, oldMember, rfl⟩,
      recoverRow_eq repositoryId completedAt old⟩

/-- Recovery leaves a row alone or fails it.  A row it fails belonged to the
repository, was active and unsettled, and had no live lease. -/
theorem recoverRow_cases (repositoryId : RepositoryId) (completedAt : Instant)
    (job : AnalysisJob) :
    recoverRow repositoryId completedAt job = job ∨
    (recoverRow repositoryId completedAt job = failStaleUnreserved completedAt job ∧
      isStaleUnreserved repositoryId completedAt job = true) ∨
    (recoverRow repositoryId completedAt job = failStaleReserved completedAt job ∧
      isStaleReserved repositoryId completedAt job = true) := by
  unfold recoverRow
  by_cases unreserved : isStaleUnreserved repositoryId completedAt job = true
  · exact Or.inr (Or.inl ⟨if_pos unreserved, unreserved⟩)
  · by_cases reserved : isStaleReserved repositoryId completedAt job = true
    · refine Or.inr (Or.inr ⟨?_, reserved⟩)
      rw [if_neg unreserved, if_pos reserved]
    · refine Or.inl ?_
      rw [if_neg unreserved, if_neg reserved]

theorem isStaleUnreserved_spec {repositoryId : RepositoryId} {completedAt : Instant}
    {job : AnalysisJob} (stale : isStaleUnreserved repositoryId completedAt job = true) :
    job.repositoryId = repositoryId ∧ job.reservedTokens = none ∧ job.tokensSettledAt = none ∧
      (job.status = .queued ∧ job.isSync = true ∨
        job.status = .running ∧ staleLease completedAt job = true) := by
  simp only [isStaleUnreserved, Bool.and_eq_true, Bool.or_eq_true, beq_iff_eq] at stale
  rcases stale with ⟨⟨⟨repository, reserved⟩, settled⟩, kind⟩
  refine ⟨repository, reserved, settled, ?_⟩
  rcases kind with queued | running
  · exact Or.inl ⟨queued.1.1.1.1.1.1, queued.1.1.1.1.1.2⟩
  · exact Or.inr running

theorem isStaleReserved_spec {repositoryId : RepositoryId} {completedAt : Instant}
    {job : AnalysisJob} (stale : isStaleReserved repositoryId completedAt job = true) :
    job.repositoryId = repositoryId ∧ job.status = .running ∧
      job.reservedTokens.isSome = true ∧ job.tokensSettledAt = none ∧
      staleLease completedAt job = true := by
  simp only [isStaleReserved, Bool.and_eq_true, beq_iff_eq] at stale
  rcases stale with ⟨⟨⟨⟨repository, running⟩, reserved⟩, settled⟩, lease⟩
  exact ⟨repository, running, reserved, settled, lease⟩

/-! ## The new row -/

structure CreateAnalysisJobRecordInput where
  userId : UserId
  repositoryId : RepositoryId
  idempotencyKey : String
  requestHash : RequestHash
  version : AnalysisExecutionVersion
  sourceCursor : Option Instant
  /-- Absent for the API, where the column default `now()` applies. -/
  collectionCutoff : Option Instant
  deriving DecidableEq, Repr

/-- The inserted row: the columns of the input and the defaults of the
schema. -/
def newJob (input : CreateAnalysisJobRecordInput) (environment : Environment) : AnalysisJob where
  id := environment.generated
  status := .queued
  stage := some .waiting
  progress := 0
  userId := input.userId
  repositoryId := input.repositoryId
  idempotencyKey := input.idempotencyKey
  requestHash := input.requestHash
  sourceCursor := input.sourceCursor
  collectionCutoff := input.collectionCutoff.getD environment.database
  modelVersion := input.version.modelVersion
  promptVersion := input.version.promptVersion
  estimatedTokens := none
  reservedTokens := none
  promptTokens := none
  completionTokens := none
  totalTokens := none
  tokensSettledAt := none
  providerRequestIds := []
  publishAttempts := 0
  messagePublishedAt := none
  nextPublishAt := none
  attemptCount := 0
  maxAttempts := 5
  leaseToken := none
  leaseExpiresAt := none
  heartbeatAt := none
  lastErrorCode := none
  lastErrorMessage := none
  errorRetryable := none
  startedAt := none
  completedAt := none
  createdAt := environment.database
  updatedAt := environment.application

/-- The unique index on the user and the idempotency key. -/
def Database.findByIdempotencyKey (db : Database) (userId : UserId) (idempotencyKey : String) :
    Option AnalysisJob :=
  db.analysisJobs.rows.find? fun job =>
    job.userId == userId && job.idempotencyKey == idempotencyKey

def createJob (input : CreateAnalysisJobRecordInput) : Tx AnalysisJob :=
  Tx.statement fun db environment =>
    let job := newJob input environment
    if (db.findUser input.userId).isNone || (db.findRepository input.repositoryId).isNone then
      .error (.prismaKnownRequest "P2003")
    else if (db.findByIdempotencyKey input.userId input.idempotencyKey).isSome then
      .error (.prismaKnownRequest "P2002")
    else
      match db.analysisJobs.insert? job with
      | some jobs => .ok (job, { db with analysisJobs := jobs })
      | none => .error (.prismaKnownRequest "P2002")

def Database.activeJobOf (db : Database) (repositoryId : RepositoryId) : Option AnalysisJob :=
  db.analysisJobs.rows.find? fun job => job.repositoryId == repositoryId && job.isActive

/-- `createExclusive` with `create` as its operation.  The advisory lock
orders the creators of one repository; in this module a transaction runs as
a whole, and the lock needs no state of its own. -/
def createExclusive (input : CreateAnalysisJobRecordInput) : Tx AnalysisJob := do
  recoverStaleActiveJobs input.repositoryId
  let active <- select fun db => db.activeJobOf input.repositoryId
  ensure active.isNone (.activeAnalysisJobExists input.repositoryId)
  createJob input

theorem createJob_ok {input : CreateAnalysisJobRecordInput} {result : AnalysisJob}
    {session later : Session} (done : createJob input session = .ok (result, later)) :
    result = newJob input session.environment ∧
    (Exists fun user => session.db.findUser input.userId = some user) ∧
    (Exists fun repository => session.db.findRepository input.repositoryId = some repository) ∧
    session.db.findByIdempotencyKey input.userId input.idempotencyKey = none ∧
    Exists fun fresh : (newJob input session.environment).id ∉
        session.db.analysisJobs.rows.map AnalysisJob.id =>
      later.db = { session.db with analysisJobs := session.db.analysisJobs.insert _ fresh } := by
  have ran := (Tx.statement_ok done).1
  simp only at ran
  split at ran
  · cases ran
  · rename_i references
    split at ran
    · cases ran
    · rename_i unused
      have inserted := ran
      unfold Table.insert? at inserted
      by_cases fresh : (newJob input session.environment).id ∉
          session.db.analysisJobs.rows.map AnalysisJob.id
      · rw [dif_pos fresh] at inserted
        simp only [Except.ok.injEq, Prod.mk.injEq] at inserted
        simp only [Bool.or_eq_true, Option.isNone_iff_eq_none, not_or] at references
        refine ⟨inserted.1.symm, Option.ne_none_iff_exists'.mp references.1,
          Option.ne_none_iff_exists'.mp references.2, ?_, fresh, inserted.2.symm⟩
        simpa only [Option.not_isSome_iff_eq_none] using unused
      · rw [dif_neg fresh] at inserted
        cases inserted

theorem recoverStaleActiveJobs_ok {repositoryId : RepositoryId} {result : Unit}
    {session later : Session}
    (done : recoverStaleActiveJobs repositoryId session = .ok (result, later)) :
    later.db = { session.db with
      analysisJobs := recoverStaleTable repositoryId session.environment.application
        session.db.analysisJobs } ∧
    later.environment = session.environment := by
  unfold recoverStaleActiveJobs at done
  rcases Tx.bind_ok done with ⟨completedAt, dated, dateRan, afterDate⟩
  rcases Tx.currentDate_ok dateRan with ⟨rfl, rfl⟩
  rcases Tx.bind_ok afterDate with ⟨_, first, firstRan, afterFirst⟩
  have firstDone := Tx.statement_ok firstRan
  have secondDone := Tx.statement_ok afterFirst
  simp only [Except.ok.injEq, Prod.mk.injEq, true_and] at firstDone secondDone
  refine ⟨?_, secondDone.2.trans firstDone.2⟩
  rw [← secondDone.1, ← firstDone.1]
  rfl

/-- A creation that succeeded recovered the stale jobs of the repository, saw
no active job left and inserted one new row under an unused key. -/
theorem createExclusive_ok {input : CreateAnalysisJobRecordInput} {result : AnalysisJob}
    {session later : Session} (done : createExclusive input session = .ok (result, later)) :
    result = newJob input session.environment ∧
    (Exists fun repository => session.db.findRepository input.repositoryId = some repository) ∧
    (forall job, job ∈ recoverStaleTable input.repositoryId session.environment.application
      session.db.analysisJobs -> job.repositoryId = input.repositoryId -> job.isActive = false) ∧
    (forall job, job ∈ recoverStaleTable input.repositoryId session.environment.application
      session.db.analysisJobs -> job.userId = input.userId ->
      job.idempotencyKey ≠ input.idempotencyKey) ∧
    Exists fun fresh : (newJob input session.environment).id ∉
        (recoverStaleTable input.repositoryId session.environment.application
          session.db.analysisJobs).rows.map AnalysisJob.id =>
      later.db = { session.db with
        analysisJobs := (recoverStaleTable input.repositoryId session.environment.application
          session.db.analysisJobs).insert _ fresh } := by
  unfold createExclusive at done
  rcases Tx.bind_ok done with ⟨_, recovered, recoveryRan, afterRecovery⟩
  rcases recoverStaleActiveJobs_ok recoveryRan with ⟨recoveredDb, recoveredEnvironment⟩
  rcases Tx.bind_ok afterRecovery with ⟨active, checked, checkRan, afterCheck⟩
  rcases select_ok checkRan with ⟨rfl, checkedDb, checkedEnvironment⟩
  rcases Tx.bind_ok afterCheck with ⟨_, ensured, ensureRan, created⟩
  rcases ensure_ok ensureRan with ⟨exclusive, rfl⟩
  rcases createJob_ok created with ⟨inserted, _, repository, unused, fresh, createdDb⟩
  have sameDb := checkedDb.trans recoveredDb
  have sameEnvironment := checkedEnvironment.trans recoveredEnvironment
  rw [recoveredDb, Option.isNone_iff_eq_none] at exclusive
  rw [sameEnvironment] at inserted
  simp only [sameDb] at repository
  rw [sameDb] at unused
  refine ⟨inserted, repository, ?_, ?_, ?_⟩
  · intro job member same
    have notFound := List.find?_eq_none.mp exclusive job member
    simpa only [same, beq_self_eq_true, Bool.true_and, Bool.not_eq_true] using notFound
  · intro job member sameUser sameKey
    have notFound := List.find?_eq_none.mp unused job member
    simp only [sameUser, sameKey, beq_self_eq_true, Bool.and_self, not_true_eq_false] at notFound
  · simp only [sameDb, sameEnvironment] at fresh createdDb
    exact ⟨fresh, createdDb⟩

end GitMate
