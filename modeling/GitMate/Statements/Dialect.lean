import GitMate.Library.Transactions
import GitMate.Service.Api
import GitMate.Service.Collection

namespace GitMate

open Relational Interleaving

/-!
# Transactions statement by statement

The ledger's transactions are modelled elsewhere as single steps.  Here the
same transactions are written as the programs that issue their statements, so
that the statements of different transactions interleave.  The statements
themselves are the ones of the ledger, run on what READ COMMITTED lets a
transaction see.

An update of several rows takes its candidates from a snapshot and tests each
of them again once it holds the row.  A row that came to satisfy the condition
after the snapshot may therefore be missed, and the surroundings choose which
rows are.
-/

/-! ## Row versions of the whole database -/

namespace Database

def empty : Database :=
  ⟨Table.empty, Table.empty, Table.empty, Table.empty, Table.empty⟩

def overlay (db written : Database) : Database where
  users := db.users.overlay written.users
  repositories := db.repositories.overlay written.repositories
  analysisJobs := db.analysisJobs.overlay written.analysisJobs
  analysisReports := db.analysisReports.overlay written.analysisReports
  userStats := db.userStats.overlay written.userStats

def changes (before after : Database) : Database where
  users := before.users.changes after.users
  repositories := before.repositories.changes after.repositories
  analysisJobs := before.analysisJobs.changes after.analysisJobs
  analysisReports := before.analysisReports.changes after.analysisReports
  userStats := before.userStats.changes after.userStats

/-- No version in one table has the same unique index entry as one in the
other. -/
def distinctBy {Row Entry : Type} [BEq Entry] (entry : Row -> Option Entry)
    (left right : List Row) : Bool :=
  left.all fun row => right.all fun other =>
    (entry row).isNone || !(entry row == entry other)

/-- The unique indexes beside the primary keys. -/
def uniqueApart (left right : Database) : Bool :=
  distinctBy (fun job : AnalysisJob => some (job.userId, job.idempotencyKey))
      left.analysisJobs.rows right.analysisJobs.rows &&
    distinctBy AnalysisReport.jobId left.analysisReports.rows right.analysisReports.rows &&
    distinctBy (fun repository : Repository => some repository.githubRepoId)
      left.repositories.rows right.repositories.rows

/-- Two transactions may hold these versions at once: they share no row, and
neither would violate a unique index once the other has committed. -/
def separate (left right : Database) : Bool :=
  left.users.separate right.users && left.repositories.separate right.repositories &&
    left.analysisJobs.separate right.analysisJobs &&
    left.analysisReports.separate right.analysisReports &&
    left.userStats.separate right.userStats && uniqueApart left right

theorem distinctBy_comm {Row Entry : Type} [BEq Entry] [LawfulBEq Entry]
    (entry : Row -> Option Entry) (left right : List Row) :
    distinctBy entry left right = distinctBy entry right left := by
  have imp : forall {one two : List Row}, distinctBy entry one two = true ->
      distinctBy entry two one = true := by
    intro one two apart
    simp only [distinctBy, List.all_eq_true, Bool.or_eq_true, Option.isNone_iff_eq_none,
      Bool.not_eq_true', beq_eq_false_iff_ne] at apart ⊢
    intro row member other otherMember
    by_cases absent : entry row = none
    · exact Or.inl absent
    · refine Or.inr fun same => ?_
      rcases apart other otherMember row member with none | different
      · exact absent (same.trans none)
      · exact different same.symm
  exact Bool.eq_iff_iff.mpr ⟨imp, imp⟩

theorem separate_comm (left right : Database) : left.separate right = right.separate left := by
  simp only [separate, uniqueApart, Table.separate_comm left.users,
    Table.separate_comm left.repositories, Table.separate_comm left.analysisJobs,
    Table.separate_comm left.analysisReports, Table.separate_comm left.userStats,
    distinctBy_comm _ left.analysisJobs.rows, distinctBy_comm _ left.analysisReports.rows,
    distinctBy_comm _ left.repositories.rows]

/-- How the versions that a transaction has written relate to the database. -/
def versions : Versioning Database where
  nothing := empty
  overlay := overlay
  changes := changes
  separate := separate
  separate_comm := separate_comm
  separate_nothing _ := rfl

end Database

/-! ## Locks -/

/-- What the advisory locks of the application stand for. -/
inductive LockScope where
  | idempotency (userId : UserId) (idempotencyKey : String)
  | rateLimit (userId : UserId)
  | repository (repositoryId : RepositoryId)
  | userStat (userId : UserId)
  deriving DecidableEq, Repr

/-- PostgreSQL keeps locks with one key apart from locks with two keys. -/
inductive LockId where
  | one (key : Int)
  | two (classId objectId : Int)
  deriving DecidableEq, Repr

/-- The lock of a scope; `digest` is the number that SHA-256 gives a text. -/
def LockScope.id (digest : String -> Int) : LockScope -> LockId
  | .idempotency userId idempotencyKey => .one (digest
      ("analysis-job-idempotency:" ++ toString userId ++ ":" ++ idempotencyKey))
  | .rateLimit userId => .one (digest ("analysis-job-rate-limit:" ++ toString userId))
  | .repository repositoryId =>
      .one (digest ("analysis-job-repository:" ++ toString repositoryId))
  | .userStat userId => .two 1196249940 userId

/-! ## Statements -/

/-- Run the one statement of a transaction body. -/
def Tx.once {α : Type} (body : Tx α) (db : Database) (environment : Environment) :
    Except AppError (α × Database) :=
  (body ⟨db, environment, none⟩).map fun done => (done.1, done.2.db)

inductive Statement where
  | query (query : Query)
  | failStaleUnreserved (repositoryId : RepositoryId) (completedAt : Instant)
  | failStaleReserved (repositoryId : RepositoryId) (completedAt : Instant)
  | findActiveJob (repositoryId : RepositoryId)
  | createJob (input : CreateAnalysisJobRecordInput)
  | updateJob (change : JobUpdate)
  | transitionJob (input : TransitionAnalysisJobInput)
  | reserveJob (input : ReserveAnalysisJobTokensInput)
  | settleJob (input : SettleFailureInput)
  | findJob (jobId : JobId)
  | debitTokens (userId : UserId) (amount : Int)
  | incrementTokens (userId : UserId) (amount : Int)
  | createReport (input : SaveAnalysisResultInput)
  | findStat (userId : UserId)
  | createStat (userId : UserId) (newMetrics : AnalysisMetrics)
  | updateStat (userId : UserId) (scores : AnalysisMetrics)
  | complete (action : CompletionAction)
  | upsertRepository (githubRepoId fullName : String) (userId : UserId)

@[reducible] def Statement.Reply : Statement -> Type
  | .query asked => asked.Reply
  | .failStaleUnreserved .. => Unit
  | .failStaleReserved .. => Unit
  | .findActiveJob _ => Option AnalysisJob
  | .createJob _ => AnalysisJob
  | .updateJob _ => Bool
  | .transitionJob _ => Bool
  | .reserveJob _ => Bool
  | .settleJob _ => Bool
  | .findJob _ => Option AnalysisJob
  | .debitTokens .. => Bool
  | .incrementTokens .. => Unit
  | .createReport _ => Nat
  | .findStat _ => Option UserStat
  | .createStat .. => Unit
  | .updateStat .. => Unit
  | .complete _ => Unit
  | .upsertRepository .. => Unit

/-- What the surroundings decide for one statement: the clocks and the
generated key, and the rows that an update of several rows misses. -/
structure StatementEnvironment where
  environment : Environment
  missed : List JobId

def UserStat.rescored (scores : AnalysisMetrics) (stat : UserStat) : UserStat :=
  { stat with scores := scores, analysisCount := stat.analysisCount + 1 }

theorem UserStat.rescored_userId (scores : AnalysisMetrics) (stat : UserStat) :
    (stat.rescored scores).userId = stat.userId := rfl

/-- An update of all rows that pass a test, but for the missed ones. -/
def updateReached (jobs : Table AnalysisJob.id) (missed : List JobId)
    (selects : AnalysisJob -> Bool) (change : AnalysisJob -> AnalysisJob)
    (keeps : forall job, (change job).id = job.id) : Table AnalysisJob.id :=
  jobs.updateMany (fun job => selects job && !missed.contains job.id) change keeps

def Statement.run (surroundings : StatementEnvironment) (db : Database) :
    (statement : Statement) -> Except AppError (statement.Reply × Database)
  | .query asked => .ok (asked.run db surroundings.environment.database, db)
  | .failStaleUnreserved repositoryId completedAt => .ok ((), { db with
      analysisJobs := updateReached db.analysisJobs surroundings.missed
        (isStaleUnreserved repositoryId completedAt)
        (GitMate.failStaleUnreserved completedAt) (failStaleUnreserved_id completedAt) })
  | .failStaleReserved repositoryId completedAt => .ok ((), { db with
      analysisJobs := updateReached db.analysisJobs surroundings.missed
        (isStaleReserved repositoryId completedAt)
        (GitMate.failStaleReserved completedAt) (failStaleReserved_id completedAt) })
  | .findActiveJob repositoryId => .ok (db.activeJobOf repositoryId, db)
  | .createJob input => (GitMate.createJob input).once db surroundings.environment
  | .updateJob change => (GitMate.updateJob change.row).once db surroundings.environment
  | .transitionJob input =>
      (GitMate.updateJob (transitionStatus db.linkedReport input)).once db surroundings.environment
  | .reserveJob input =>
      (GitMate.updateJob (reserveTokensRow input)).once db surroundings.environment
  | .settleJob input =>
      (GitMate.updateJob (settleFailureRow input)).once db surroundings.environment
  | .findJob jobId => .ok (db.findJob jobId, db)
  | .debitTokens userId amount =>
      (GitMate.debitTokens userId amount).once db surroundings.environment
  | .incrementTokens userId amount =>
      (GitMate.incrementTokens userId amount).once db surroundings.environment
  | .createReport input => (GitMate.createReport input).once db surroundings.environment
  | .findStat userId => .ok (db.userStats.find? userId, db)
  | .createStat userId newMetrics =>
      match db.userStats.insert? ⟨userId, newMetrics, 1⟩ with
      | some userStats => .ok ((), { db with userStats := userStats })
      | none => .error (.prismaKnownRequest "P2002")
  | .updateStat userId scores =>
      match db.userStats.find? userId with
      | some _ => .ok ((), { db with
          userStats := db.userStats.updateMany (fun stat => decide (stat.userId = userId))
            (UserStat.rescored scores) (UserStat.rescored_userId scores) })
      | none => .error (.prismaKnownRequest "P2025")
  | .complete action =>
      .ok ((), { db with repositories := action.apply db.repositories })
  | .upsertRepository githubRepoId fullName userId =>
      (GitMate.upsertRepository githubRepoId fullName userId).once db surroundings.environment

/-- `CURRENT_TIMESTAMP` is the start of the transaction.  The creation time of
a job is no earlier. -/
def Statement.admits (begun : Instant) (surroundings : StatementEnvironment) : Statement -> Bool
  | .createJob _ => decide (begun ≤ surroundings.environment.database)
  | _ => decide (surroundings.environment.database = begun)

/-- The statements of the application, whose locks are numbered by `digest`. -/
def statements (digest : String -> Int) : Dialect Database LockId Instant where
  Statement := Statement
  Reply := Statement.Reply
  Fault := AppError
  isFault := AppError.isDatabaseFault
  Environment := StatementEnvironment
  Scope := LockScope
  lockOf := LockScope.id digest
  versions := Database.versions
  admissible begun statement surroundings := statement.admits begun surroundings
  run statement surroundings db := statement.run surroundings db

end GitMate
