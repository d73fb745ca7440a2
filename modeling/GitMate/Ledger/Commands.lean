import GitMate.Ledger.Creation
import GitMate.Ledger.Delivery
import GitMate.Ledger.Settlement

namespace GitMate

open Relational

/-!
# The writes of the application

`Command` lists every write that the services issue, each of them one
statement or one transaction.  `Committed` says once what a command can do to
the database when it takes effect; the invariants of the ledger are derived
from it, command by command.
-/

/-- The guarded updates of one job that are statements of their own. -/
inductive JobUpdate where
  | start (jobId : JobId) (leaseToken : Uuid) (leaseExpiresAt startedAt : Instant)
  | recordProviderCharge (input : RecordAnalysisJobProviderChargeInput)
  | claimQueued (jobId : JobId) (leaseToken : Uuid) (now leaseExpiresAt : Instant)
  | takeOverExpiredLease (current : AnalysisJob) (leaseToken : Uuid) (now leaseExpiresAt : Instant)
  | takeOverExpiredBilledLease (current : AnalysisJob) (leaseToken : Uuid)
      (now leaseExpiresAt : Instant)
  | updateProgress (input : UpdateProgressInput)
  | releaseForRetry (input : ReleaseForRetryInput)
  | claimAttempt (input : ClaimAnalysisJobPublishAttemptInput)
  | markPublished (input : CompleteAnalysisJobPublishAttemptInput) (publishedAt : Instant)
  | recordFailure (input : RecordAnalysisJobPublishFailureInput)

/-- The `where` and the `data` of an update. -/
def JobUpdate.row : JobUpdate -> RowUpdate
  | .start jobId leaseToken leaseExpiresAt startedAt =>
      transitionStatus (fun _ => none) (.start jobId leaseToken leaseExpiresAt startedAt)
  | .recordProviderCharge input => recordProviderChargeRow input
  | .claimQueued jobId leaseToken now leaseExpiresAt =>
      GitMate.claimQueued jobId leaseToken now leaseExpiresAt
  | .takeOverExpiredLease current leaseToken now leaseExpiresAt =>
      GitMate.takeOverExpiredLease current leaseToken now leaseExpiresAt
  | .takeOverExpiredBilledLease current leaseToken now leaseExpiresAt =>
      GitMate.takeOverExpiredBilledLease current leaseToken now leaseExpiresAt
  | .updateProgress input => updateProgressRow input
  | .releaseForRetry input => releaseForRetryRow input
  | .claimAttempt input => GitMate.claimAttempt input
  | .markPublished input publishedAt => GitMate.markPublished input publishedAt
  | .recordFailure input => GitMate.recordFailure input

inductive Command where
  | update (change : JobUpdate)
  | createExclusive (input : CreateAnalysisJobRecordInput)
  | reserveWorkerTokens (input : ReserveAnalysisJobTokensInput)
  | terminateWorkerJob (input : TerminateWorkerJobInput)
  | saveAnalysisResult (input : SaveAnalysisResultInput)
  | settleFailure (input : SettleFailureInput)
  | upsertRepository (githubRepoId fullName : String) (userId : UserId)

/-- What a command reports to its caller; updates and settlements report
whether they applied. -/
@[reducible] def Command.Reply : Command -> Type
  | .update _ => Bool
  | .createExclusive _ => AnalysisJob
  | .reserveWorkerTokens _ => Unit
  | .terminateWorkerJob _ => Unit
  | .saveAnalysisResult _ => Unit
  | .settleFailure _ => Bool
  | .upsertRepository .. => Unit

/-! ## Repository listings -/

theorem Repository.relisted_keeps (fullName : String) (userId : UserId) (repository : Repository) :
    { repository with fullName := fullName, ownerId := userId }.id = repository.id := rfl

def relistedRepositories (repositories : Table Repository.id) (githubRepoId fullName : String)
    (userId : UserId) : Table Repository.id :=
  repositories.updateMany (fun repository => repository.githubRepoId == githubRepoId)
    (fun repository => { repository with fullName := fullName, ownerId := userId })
    (Repository.relisted_keeps fullName userId)

def Database.findRepositoryByGithubId (db : Database) (githubRepoId : String) :
    Option Repository :=
  db.repositories.rows.find? fun repository => repository.githubRepoId == githubRepoId

/-- `prisma.repository.upsert` of `getRepositories`: whoever lists a
repository becomes its owner. -/
def upsertRepository (githubRepoId fullName : String) (userId : UserId) : Tx Unit :=
  Tx.statement fun db environment =>
    match db.findRepositoryByGithubId githubRepoId with
    | some _ => .ok ((), { db with
        repositories := relistedRepositories db.repositories githubRepoId fullName userId })
    | none =>
        match db.repositories.insert?
            ⟨environment.generated, githubRepoId, fullName, none, userId⟩ with
        | some repositories => .ok ((), { db with repositories := repositories })
        | none => .error (.prismaKnownRequest "P2002")

/-! ## Effects -/

def Command.run : (command : Command) -> Tx command.Reply
  | .update change => updateJob change.row
  | .createExclusive input => GitMate.createExclusive input
  | .reserveWorkerTokens input => GitMate.reserveWorkerTokens input
  | .terminateWorkerJob input => GitMate.terminateWorkerJob input
  | .saveAnalysisResult input => GitMate.saveAnalysisResult input
  | .settleFailure input => GitMate.settleFailure input
  | .upsertRepository githubRepoId fullName userId =>
      GitMate.upsertRepository githubRepoId fullName userId

/-- The effect of a command on a database, with everything its statements
have checked. -/
inductive Committed (environment : Environment) (db : Database) : Command -> Database -> Prop where
  | updated {change : JobUpdate} {job : AnalysisJob}
      (found : db.findJob change.row.jobId = some job) (guarded : change.row.guard job = true) :
      Committed environment db (.update change)
        { db with analysisJobs := change.row.apply environment.application db.analysisJobs }
  | created {input : CreateAnalysisJobRecordInput} {repository : Repository}
      (repositoryFound : db.findRepository input.repositoryId = some repository)
      (exclusive : forall job, job ∈ recoverStaleTable input.repositoryId environment.application
        db.analysisJobs -> job.repositoryId = input.repositoryId -> job.isActive = false)
      (unused : forall job, job ∈ recoverStaleTable input.repositoryId environment.application
        db.analysisJobs -> job.userId = input.userId -> job.idempotencyKey ≠ input.idempotencyKey)
      (fresh : (newJob input environment).id ∉ (recoverStaleTable input.repositoryId
        environment.application db.analysisJobs).rows.map AnalysisJob.id) :
      Committed environment db (.createExclusive input)
        { db with
          analysisJobs := (recoverStaleTable input.repositoryId environment.application
            db.analysisJobs).insert (newJob input environment) fresh }
  | reserved {input : ReserveAnalysisJobTokensInput} {job : AnalysisJob}
      (paid : db.users.countWhere (canPay input.expectedUserId input.reservedTokens) = 1)
      (valid : validateReserveTokens input = .ok ())
      (found : db.findJob input.jobId = some job)
      (guarded : (reserveTokensRow input).guard job = true) :
      Committed environment db (.reserveWorkerTokens input)
        { db with
          users := debitedUsers db.users input.expectedUserId input.reservedTokens
          analysisJobs :=
            (reserveTokensRow input).apply environment.application db.analysisJobs }
  | terminated {input : TerminateWorkerJobInput} {paid : Bool} {debited : Table User.id}
      {job : AnalysisJob} (debit : AdditionalDebit input db.users paid debited)
      (usable : (input.tokensSettled && paid) = true -> input.usage.isSome = true)
      (owner : (input.tokensSettled && paid) = true -> 0 < input.refundTokens ->
        Exists fun user => debited.find? input.userId = some user)
      (valid : validateTransitionInput (input.transition paid) = .ok ())
      (found : db.findJob input.jobId = some job)
      (guarded :
        (transitionStatus db.linkedReport (input.transition paid)).guard job = true) :
      Committed environment db (.terminateWorkerJob input)
        { db with
          users := refundedUsers debited input.userId input.refundTokens
            (input.tokensSettled && paid)
          analysisJobs := (transitionStatus db.linkedReport (input.transition paid)).apply
            environment.application db.analysisJobs
          repositories := completed input.completionAction db.repositories }
  | saved {input : SaveAnalysisResultInput} {reportId : Nat}
      {userStats : Table UserStat.userId} {linkedReport : JobId -> Option Nat} {job : AnalysisJob}
      (fresh : (input.report reportId).id ∉ db.analysisReports.rows.map AnalysisReport.id)
      (unlinked : db.linkedReport input.jobId = none)
      (counted : forall other, analysisCount userStats other =
        analysisCount db.userStats other + if other = input.userId then 1 else 0)
      (owner : 0 < input.reservedTokens - input.usage.totalTokens ->
        Exists fun user => db.findUser input.userId = some user)
      (valid : validateTransitionInput
        (input.transition reportId environment.application) = .ok ())
      (found : db.findJob input.jobId = some job)
      (guarded : (transitionStatus linkedReport
        (input.transition reportId environment.application)).guard job = true) :
      Committed environment db (.saveAnalysisResult input)
        { users := refundedUsers db.users input.userId
            (input.reservedTokens - input.usage.totalTokens) true
          repositories := completed input.completionAction db.repositories
          analysisJobs := (transitionStatus linkedReport
            (input.transition reportId environment.application)).apply
              environment.application db.analysisJobs
          analysisReports := db.analysisReports.insert (input.report reportId) fresh
          userStats := userStats }
  | settled {input : SettleFailureInput} {job : AnalysisJob}
      (found : db.findJob input.jobId = some job)
      (guarded : (settleFailureRow input).guard job = true)
      (unbilled : job.hasProviderBillingEvidence = false)
      (owner : 0 < job.reservedTokens.getD 0 ->
        Exists fun user => db.findUser job.userId = some user) :
      Committed environment db (.settleFailure input)
        { db with
          users := refundedUsers db.users job.userId (job.reservedTokens.getD 0) true
          analysisJobs :=
            (settleFailureRow input).apply environment.application db.analysisJobs }
  | relisted {githubRepoId fullName : String} {userId : UserId} :
      Committed environment db (.upsertRepository githubRepoId fullName userId)
        { db with
          repositories := relistedRepositories db.repositories githubRepoId fullName userId }
  | listed {githubRepoId fullName : String} {userId : UserId}
      (unknown : db.findRepositoryByGithubId githubRepoId = none)
      (fresh : (⟨environment.generated, githubRepoId, fullName, none, userId⟩ : Repository).id ∉
        db.repositories.rows.map Repository.id) :
      Committed environment db (.upsertRepository githubRepoId fullName userId)
        { db with repositories := db.repositories.insert _ fresh }

/-- The replies by which a command says that it took effect. -/
def Command.tookEffect (environment : Environment) :
    (command : Command) -> command.Reply -> Prop
  | .update _, reply => reply = true
  | .settleFailure _, reply => reply = true
  | .createExclusive input, reply => reply = newJob input environment
  | .reserveWorkerTokens _, _ => True
  | .terminateWorkerJob _, _ => True
  | .saveAnalysisResult _, _ => True
  | .upsertRepository .., _ => True

/-- The replies by which a command says that it did nothing. -/
def Command.declined : (command : Command) -> command.Reply -> Prop
  | .update _, reply => reply = false
  | .settleFailure _, reply => reply = false
  | .createExclusive _, _ | .reserveWorkerTokens _, _ | .terminateWorkerJob _, _
  | .saveAnalysisResult _, _ | .upsertRepository .., _ => False

theorem upsertRepository_ok {githubRepoId fullName : String} {userId : UserId} {result : Unit}
    {session later : Session}
    (done : upsertRepository githubRepoId fullName userId session = .ok (result, later)) :
    Committed session.environment session.db (.upsertRepository githubRepoId fullName userId)
      later.db := by
  unfold upsertRepository at done
  have ran := (Tx.statement_ok done).1
  cases known : session.db.findRepositoryByGithubId githubRepoId with
  | some repository =>
      rw [known] at ran
      simp only [Except.ok.injEq, Prod.mk.injEq, true_and] at ran
      rw [← ran]
      exact .relisted
  | none =>
      rw [known] at ran
      by_cases fresh : (⟨session.environment.generated, githubRepoId, fullName, none,
          userId⟩ : Repository).id ∉ session.db.repositories.rows.map Repository.id
      · simp only [Table.insert?, dif_pos fresh, Except.ok.injEq, Prod.mk.injEq, true_and] at ran
        rw [← ran]
        exact .listed known fresh
      · simp only [Table.insert?, dif_neg fresh, reduceCtorEq] at ran

/-- A command whose transaction body succeeded either left the database alone
and says so, or had its effect on it and says so. -/
theorem Command.run_ok {command : Command} {reply : command.Reply} {session later : Session}
    (done : command.run session = .ok (reply, later)) :
    later.db = session.db ∧ command.declined reply ∨
    Committed session.environment session.db command later.db ∧
      command.tookEffect session.environment reply := by
  cases command with
  | update change =>
      rcases updateJob_ok done with ⟨counted, updatedDb, _⟩
      cases applied : change.row.applies session.db.analysisJobs with
      | false =>
          rw [RowUpdate.apply_of_not_applies applied] at updatedDb
          rw [applied] at counted
          exact Or.inl ⟨updatedDb, counted⟩
      | true =>
          rcases RowUpdate.applies_iff.mp applied with ⟨job, found, guarded⟩
          rw [updatedDb]
          exact Or.inr ⟨.updated found guarded, counted.trans applied⟩
  | createExclusive input =>
      rcases createExclusive_ok done with
        ⟨inserted, ⟨repository, found⟩, exclusive, unused, fresh, createdDb⟩
      rw [createdDb]
      exact Or.inr ⟨.created found exclusive unused fresh, inserted⟩
  | reserveWorkerTokens input =>
      rcases reserveWorkerTokens_ok done with ⟨paid, valid, ⟨job, found, guarded⟩, reservedDb⟩
      rw [reservedDb]
      exact Or.inr ⟨.reserved paid valid found guarded, trivial⟩
  | terminateWorkerJob input =>
      rcases terminateWorkerJob_ok done with
        ⟨paid, debited, debit, usable, owner, valid, ⟨job, found, guarded⟩, terminatedDb⟩
      rw [terminatedDb]
      exact Or.inr ⟨.terminated debit usable owner valid found guarded, trivial⟩
  | saveAnalysisResult input =>
      rcases saveAnalysisResult_ok done with ⟨reportId, fresh, userStats, linkedReport, unlinked,
        counted, owner, valid, ⟨job, found, guarded⟩, savedDb⟩
      rw [savedDb]
      exact Or.inr ⟨.saved fresh unlinked counted owner valid found guarded, trivial⟩
  | settleFailure input =>
      rcases settleFailure_ok done with ⟨refused, unchanged⟩ | ⟨applied, job, found, guarded,
        unbilled, owner, settledDb⟩
      · exact Or.inl ⟨unchanged, refused⟩
      · rw [settledDb]
        exact Or.inr ⟨.settled found guarded unbilled owner, applied⟩
  | upsertRepository githubRepoId fullName userId =>
      exact Or.inr ⟨upsertRepository_ok done, trivial⟩

/-- An issued command leaves the database alone or has its effect on it, and
an answer tells which. -/
theorem Database.transaction_committed {db : Database} {commit : Commit} {command : Command} :
    (db.transaction commit command.run).2 = db ∧
      (forall reply, (db.transaction commit command.run).1 = .ok reply ->
        command.declined reply) ∨
    Committed commit.environment db command (db.transaction commit command.run).2 ∧
      (forall reply, (db.transaction commit command.run).1 = .ok reply ->
        command.tookEffect commit.environment reply) := by
  rcases Database.transaction_cases with ⟨unchanged, silent⟩ | ⟨reply, session, ran, sameDb, same⟩
  · exact Or.inl ⟨unchanged, fun reply answered => absurd answered (silent reply)⟩
  · rw [sameDb]
    rcases Command.run_ok ran with ⟨idle, denied⟩ | ⟨committed, took⟩
    · exact Or.inl ⟨idle, fun answer answered => (same answer answered) ▸ denied⟩
    · exact Or.inr ⟨committed, fun answer answered => (same answer answered) ▸ took⟩

end GitMate
