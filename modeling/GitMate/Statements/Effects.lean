import GitMate.Statements.Discipline
import GitMate.Ledger.Evolution

namespace GitMate

open Relational Interleaving

/-!
# What a statement does

`Effect` lists once what each statement can do to the database that its
transaction sees.  What it means for one row of a table is derived from it.
-/

theorem Tx.once_ok {α : Type} {body : Tx α} {db after : Database} {environment : Environment}
    {result : α} (ran : body.once db environment = .ok (result, after)) :
    Exists fun session : Session =>
      body ⟨db, environment, none⟩ = .ok (result, session) ∧ after = session.db := by
  unfold Tx.once at ran
  cases done : body ⟨db, environment, none⟩ with
  | error error =>
      rw [done] at ran
      cases ran
  | ok pair =>
      rw [done] at ran
      cases ran
      exact ⟨pair.2, rfl, rfl⟩

/-- The guarded update of one job that a statement is. -/
def Statement.rowUpdate (db : Database) : Statement -> Option RowUpdate
  | .updateJob change => some change.row
  | .transitionJob input => some (transitionStatus db.linkedReport input)
  | .reserveJob input => some (reserveTokensRow input)
  | .settleJob input => some (settleFailureRow input)
  | _ => none

/-- The rows that a recovery reaches. -/
def reaches (missed : List JobId) (selects : AnalysisJob -> Bool) (job : AnalysisJob) : Bool :=
  selects job && !missed.contains job.id

inductive Effect (surroundings : StatementEnvironment) (db : Database) :
    Statement -> Database -> Prop where
  | nothing {statement : Statement} : Effect surroundings db statement db
  | recoveredUnreserved {repositoryId : RepositoryId} {completedAt : Instant} :
      Effect surroundings db (.failStaleUnreserved repositoryId completedAt)
        { db with
          analysisJobs := updateReached db.analysisJobs surroundings.missed
            (isStaleUnreserved repositoryId completedAt) (failStaleUnreserved completedAt)
            (failStaleUnreserved_id completedAt) }
  | recoveredReserved {repositoryId : RepositoryId} {completedAt : Instant} :
      Effect surroundings db (.failStaleReserved repositoryId completedAt)
        { db with
          analysisJobs := updateReached db.analysisJobs surroundings.missed
            (isStaleReserved repositoryId completedAt) (failStaleReserved completedAt)
            (failStaleReserved_id completedAt) }
  | inserted {input : CreateAnalysisJobRecordInput}
      (fresh : (newJob input surroundings.environment).id ∉
        db.analysisJobs.rows.map AnalysisJob.id) :
      Effect surroundings db (.createJob input)
        { db with analysisJobs := db.analysisJobs.insert _ fresh }
  | updated {statement : Statement} {update : RowUpdate} {job : AnalysisJob}
      (writes : statement.rowUpdate db = some update) (found : db.findJob update.jobId = some job)
      (guarded : update.guard job = true) :
      Effect surroundings db statement
        { db with
          analysisJobs := update.apply surroundings.environment.application db.analysisJobs }
  | debited {userId : UserId} {amount : Int}
      (paid : db.users.countWhere (canPay userId amount) = 1) :
      Effect surroundings db (.debitTokens userId amount)
        { db with users := debitedUsers db.users userId amount }
  | credited {userId : UserId} {amount : Int} {user : User}
      (found : db.findUser userId = some user) :
      Effect surroundings db (.incrementTokens userId amount)
        { db with users := creditedUsers db.users userId amount }
  | reported {input : SaveAnalysisResultInput} (unlinked : db.linkedReport input.jobId = none)
      (fresh : (input.report surroundings.environment.generated).id ∉
        db.analysisReports.rows.map AnalysisReport.id) :
      Effect surroundings db (.createReport input)
        { db with analysisReports := db.analysisReports.insert _ fresh }
  | counted {userId : UserId} {metrics : AnalysisMetrics}
      (fresh : (⟨userId, metrics, 1⟩ : UserStat).userId ∉ db.userStats.rows.map UserStat.userId) :
      Effect surroundings db (.createStat userId metrics)
        { db with userStats := db.userStats.insert _ fresh }
  | rescored {userId : UserId} {scores : AnalysisMetrics} {stat : UserStat}
      (found : db.userStats.find? userId = some stat) :
      Effect surroundings db (.updateStat userId scores)
        { db with
          userStats := db.userStats.updateMany (fun stat => decide (stat.userId = userId))
            (UserStat.rescored scores) (UserStat.rescored_userId scores) }
  | relisted {statement : Statement} {repositories : Table Repository.id} :
      Effect surroundings db statement { db with repositories := repositories }

/-- A guarded update as a statement of its own. -/
theorem effect_of_updateJob {statement : Statement} {surroundings : StatementEnvironment}
    {db after : Database} {update : RowUpdate} {reply : Bool}
    (writes : statement.rowUpdate db = some update)
    (ran : (updateJob update).once db surroundings.environment = .ok (reply, after)) :
    Effect surroundings db statement after := by
  rcases Tx.once_ok ran with ⟨session, done, rfl⟩
  rcases updateJob_ok done with ⟨_, updatedDb, _⟩
  rw [updatedDb]
  cases applied : update.applies db.analysisJobs with
  | false =>
      have unchanged : update.apply surroundings.environment.application db.analysisJobs =
          db.analysisJobs := RowUpdate.apply_of_not_applies applied
      rw [unchanged]
      exact .nothing
  | true =>
      rcases RowUpdate.applies_iff.mp applied with ⟨job, found, guarded⟩
      exact .updated writes found guarded

theorem Statement.effect {statement : Statement} {surroundings : StatementEnvironment}
    {db after : Database} {reply : statement.Reply}
    (ran : statement.run surroundings db = .ok (reply, after)) :
    Effect surroundings db statement after := by
  cases statement with
  | query | findActiveJob | findJob | findStat =>
      cases ran
      exact .nothing
  | failStaleUnreserved repositoryId completedAt =>
      cases ran
      exact .recoveredUnreserved
  | failStaleReserved repositoryId completedAt =>
      cases ran
      exact .recoveredReserved
  | createJob input =>
      rcases Tx.once_ok ran with ⟨session, done, rfl⟩
      rcases createJob_ok done with ⟨_, _, _, _, fresh, insertedDb⟩
      rw [insertedDb]
      exact .inserted fresh
  | updateJob change => exact effect_of_updateJob rfl ran
  | transitionJob input => exact effect_of_updateJob rfl ran
  | reserveJob input => exact effect_of_updateJob rfl ran
  | settleJob input => exact effect_of_updateJob rfl ran
  | debitTokens userId amount =>
      rcases Tx.once_ok ran with ⟨session, done, rfl⟩
      rcases debitTokens_ok done with ⟨_, debitedDb, _⟩
      rw [debitedDb]
      by_cases paid : db.users.countWhere (canPay userId amount) = 1
      · exact .debited paid
      · have unchanged : debitedUsers db.users userId amount = db.users :=
          debitedUsers_of_refused paid
        rw [unchanged]
        exact .nothing
  | incrementTokens userId amount =>
      rcases Tx.once_ok ran with ⟨session, done, rfl⟩
      rcases incrementTokens_ok done with ⟨⟨user, found⟩, creditedDb, _⟩
      rw [creditedDb]
      exact .credited found
  | createReport input =>
      rcases Tx.once_ok ran with ⟨session, done, rfl⟩
      rcases createReport_ok done with ⟨rfl, unlinked, _, fresh, reportedDb⟩
      rw [reportedDb]
      exact .reported unlinked fresh
  | createStat userId metrics =>
      by_cases fresh : (⟨userId, metrics, 1⟩ : UserStat).userId ∉
          db.userStats.rows.map UserStat.userId
      · simp only [run, Table.insert?, dif_pos fresh, Except.ok.injEq, Prod.mk.injEq,
          true_and] at ran
        rw [← ran]
        exact .counted fresh
      · simp only [run, Table.insert?, dif_neg fresh, reduceCtorEq] at ran
  | updateStat userId scores =>
      cases found : db.userStats.find? userId with
      | none =>
          simp only [run, found, reduceCtorEq] at ran
      | some stat =>
          simp only [run, found, Except.ok.injEq, Prod.mk.injEq, true_and] at ran
          rw [← ran]
          exact .rescored found
  | complete action =>
      cases ran
      exact .relisted
  | upsertRepository githubRepoId fullName userId =>
      rcases Tx.once_ok ran with ⟨session, done, rfl⟩
      have committed := upsertRepository_ok done
      generalize session.db = later at committed
      cases committed with
      | relisted => exact .relisted
      | listed unknown fresh => exact .relisted

/-! ## No row is lost -/

namespace Database

/-- No row of any table is missing later. -/
structure Extends (before after : Database) : Prop where
  users : before.users.Extends after.users
  repositories : before.repositories.Extends after.repositories
  analysisJobs : before.analysisJobs.Extends after.analysisJobs
  analysisReports : before.analysisReports.Extends after.analysisReports
  userStats : before.userStats.Extends after.userStats

theorem Extends.refl (db : Database) : db.Extends db :=
  ⟨.refl _, .refl _, .refl _, .refl _, .refl _⟩

theorem overlay_empty (db : Database) : db.overlay empty = db := by
  have nothing : forall {Row Key : Type} {key : Row -> Key} [DecidableEq Key]
      (table : Table key), table.overlay Table.empty = table := by
    intro Row Key key _ table
    refine Table.ext ?_
    change (table.rows.map fun row => row) ++ [] = table.rows
    rw [List.append_nil, List.map_id']
  simp only [overlay, empty, nothing]

theorem Extends.overlay_changes {committed written after : Database}
    (longer : (committed.overlay written).Extends after) :
    committed.overlay (written.overlay ((committed.overlay written).changes after)) = after := by
  have users := Table.overlay_changes longer.users
  have repositories := Table.overlay_changes longer.repositories
  have analysisJobs := Table.overlay_changes longer.analysisJobs
  have analysisReports := Table.overlay_changes longer.analysisReports
  have userStats := Table.overlay_changes longer.userStats
  cases after
  exact (Database.mk.injEq ..).mpr ⟨users, repositories, analysisJobs, analysisReports, userStats⟩

end Database

theorem upsertRepository_extends {githubRepoId fullName : String} {userId : UserId}
    {db after : Database} {environment : Environment} {reply : Unit}
    (ran : (upsertRepository githubRepoId fullName userId).once db environment =
      .ok (reply, after)) : db.Extends after := by
  rcases Tx.once_ok ran with ⟨session, done, rfl⟩
  have stated := (Tx.statement_ok done).1
  cases found : db.findRepositoryByGithubId githubRepoId with
  | some repository =>
      simp only [found, Except.ok.injEq, Prod.mk.injEq, true_and] at stated
      rw [← stated]
      exact ⟨.refl _, .updateMany (Repository.relisted_keeps _ _), .refl _, .refl _, .refl _⟩
  | none =>
      by_cases fresh : environment.generated ∉ db.repositories.rows.map Repository.id
      · simp only [found, Table.insert?, dif_pos fresh, Except.ok.injEq, Prod.mk.injEq,
          true_and] at stated
        rw [← stated]
        exact ⟨.refl _, .insert fresh, .refl _, .refl _, .refl _⟩
      · simp only [found, Table.insert?, dif_neg fresh, reduceCtorEq] at stated

theorem updateJob_extends {update : RowUpdate} {db after : Database} {environment : Environment}
    {reply : Bool} (ran : (updateJob update).once db environment = .ok (reply, after)) :
    db.Extends after := by
  rcases Tx.once_ok ran with ⟨session, done, rfl⟩
  rw [(updateJob_ok done).2.1]
  exact ⟨.refl _, .refl _, .updateMany (update.keeps environment.application), .refl _, .refl _⟩

/-- No statement deletes a row. -/
theorem Statement.extends {statement : Statement} {surroundings : StatementEnvironment}
    {db after : Database} {reply : statement.Reply}
    (ran : statement.run surroundings db = .ok (reply, after)) : db.Extends after := by
  cases statement with
  | query | findActiveJob | findJob | findStat =>
      cases ran
      exact .refl db
  | failStaleUnreserved repositoryId completedAt =>
      cases ran
      exact ⟨.refl _, .refl _, .updateMany (failStaleUnreserved_id completedAt), .refl _, .refl _⟩
  | failStaleReserved repositoryId completedAt =>
      cases ran
      exact ⟨.refl _, .refl _, .updateMany (failStaleReserved_id completedAt), .refl _, .refl _⟩
  | createJob input =>
      rcases Tx.once_ok ran with ⟨session, done, rfl⟩
      rcases createJob_ok done with ⟨_, _, _, _, fresh, insertedDb⟩
      rw [insertedDb]
      exact ⟨.refl _, .refl _, .insert fresh, .refl _, .refl _⟩
  | updateJob | transitionJob | reserveJob | settleJob => exact updateJob_extends ran
  | debitTokens userId amount =>
      rcases Tx.once_ok ran with ⟨session, done, rfl⟩
      rw [(debitTokens_ok done).2.1]
      exact ⟨.updateMany (User.debit_keeps amount), .refl _, .refl _, .refl _, .refl _⟩
  | incrementTokens userId amount =>
      rcases Tx.once_ok ran with ⟨session, done, rfl⟩
      rw [(incrementTokens_ok done).2.1]
      exact ⟨.updateMany (User.credit_keeps amount), .refl _, .refl _, .refl _, .refl _⟩
  | createReport input =>
      rcases Tx.once_ok ran with ⟨session, done, rfl⟩
      rcases createReport_ok done with ⟨_, _, _, fresh, reportedDb⟩
      rw [reportedDb]
      exact ⟨.refl _, .refl _, .refl _, .insert fresh, .refl _⟩
  | createStat userId newMetrics =>
      by_cases fresh : (⟨userId, newMetrics, 1⟩ : UserStat).userId ∉
          db.userStats.rows.map UserStat.userId
      · simp only [run, Table.insert?, dif_pos fresh, Except.ok.injEq, Prod.mk.injEq,
          true_and] at ran
        rw [← ran]
        exact ⟨.refl _, .refl _, .refl _, .refl _, .insert fresh⟩
      · simp only [run, Table.insert?, dif_neg fresh, reduceCtorEq] at ran
  | updateStat userId scores =>
      cases found : db.userStats.find? userId with
      | none => simp only [run, found, reduceCtorEq] at ran
      | some stat =>
          simp only [run, found, Except.ok.injEq, Prod.mk.injEq, true_and] at ran
          rw [← ran]
          exact ⟨.refl _, .refl _, .refl _, .refl _,
            .updateMany (UserStat.rescored_userId scores)⟩
  | complete action =>
      cases ran
      exact ⟨.refl _, .updateMany action.keeps, .refl _, .refl _, .refl _⟩
  | upsertRepository githubRepoId fullName userId => exact upsertRepository_extends ran

/-! ## Rows of the job table -/

/-- What a statement does to a job row that it rewrites. -/
inductive Rewrites (surroundings : StatementEnvironment) (db : Database) :
    Statement -> AnalysisJob -> AnalysisJob -> Prop where
  | updated {statement : Statement} {update : RowUpdate} {job : AnalysisJob}
      (writes : statement.rowUpdate db = some update) (guarded : update.guard job = true) :
      Rewrites surroundings db statement job
        (update.data surroundings.environment.application job)
  | recoveredUnreserved {repositoryId : RepositoryId} {completedAt : Instant} {job : AnalysisJob}
      (stale : isStaleUnreserved repositoryId completedAt job = true) :
      Rewrites surroundings db (.failStaleUnreserved repositoryId completedAt) job
        (failStaleUnreserved completedAt job)
  | recoveredReserved {repositoryId : RepositoryId} {completedAt : Instant} {job : AnalysisJob}
      (stale : isStaleReserved repositoryId completedAt job = true) :
      Rewrites surroundings db (.failStaleReserved repositoryId completedAt) job
        (failStaleReserved completedAt job)

/-- The row with a given id after a statement: the one before, a rewritten one
or an inserted one. -/
theorem Effect.findJob {surroundings : StatementEnvironment} {db after : Database}
    {statement : Statement} (effect : Effect surroundings db statement after) (jobId : JobId) :
    after.findJob jobId = db.findJob jobId ∨
    (Exists fun old => Exists fun row => db.findJob jobId = some old ∧
      after.findJob jobId = some row ∧ Rewrites surroundings db statement old row) ∨
    (Exists fun input => statement = .createJob input ∧ db.findJob jobId = none ∧
      after.findJob jobId = some (newJob input surroundings.environment) ∧
      (newJob input surroundings.environment).id = jobId) := by
  have recovered : forall (selects : AnalysisJob -> Bool) (change : AnalysisJob -> AnalysisJob)
      (keeps : forall job, (change job).id = job.id),
      (updateReached db.analysisJobs surroundings.missed selects change keeps).find? jobId =
        db.findJob jobId ∨
      Exists fun old => db.findJob jobId = some old ∧ selects old = true ∧
        (updateReached db.analysisJobs surroundings.missed selects change keeps).find? jobId =
          some (change old) := by
    intro selects change keeps
    unfold updateReached Database.findJob
    rw [Table.find?_updateMany]
    cases found : db.analysisJobs.find? jobId with
    | none => exact Or.inl rfl
    | some old =>
        rw [Option.map_some]
        split
        · rename_i selected
          exact Or.inr ⟨old, rfl, (Bool.and_eq_true_iff.mp selected).1, rfl⟩
        · exact Or.inl rfl
  cases effect with
  | nothing | debited | credited | reported | counted | rescored | relisted => exact Or.inl rfl
  | recoveredUnreserved =>
      rcases recovered _ _ (failStaleUnreserved_id _) with same | ⟨old, found, stale, changed⟩
      · exact Or.inl same
      · exact Or.inr (Or.inl ⟨old, _, found, changed, .recoveredUnreserved stale⟩)
  | recoveredReserved =>
      rcases recovered _ _ (failStaleReserved_id _) with same | ⟨old, found, stale, changed⟩
      · exact Or.inl same
      · exact Or.inr (Or.inl ⟨old, _, found, changed, .recoveredReserved stale⟩)
  | @inserted input fresh =>
      have placed : (db.analysisJobs.insert (newJob input surroundings.environment) fresh).find?
          jobId = _ := Table.find?_insert jobId
      by_cases same : (newJob input surroundings.environment).id = jobId
      · refine Or.inr (Or.inr ⟨input, rfl, ?_, ?_, same⟩)
        · refine Table.find?_eq_none_iff.mpr fun row member equal => fresh ?_
          rw [same, ← equal]
          exact List.mem_map_of_mem member
        · exact placed.trans (if_pos same)
      · exact Or.inl (placed.trans (if_neg same))
  | @updated statement update job writes found guarded =>
      by_cases same : jobId = update.jobId
      · subst same
        exact Or.inr (Or.inl ⟨job, _, found, RowUpdate.find?_apply found guarded,
          .updated writes guarded⟩)
      · exact Or.inl (RowUpdate.find?_apply_ne same)

/-- A rewritten row keeps its fixed columns. -/
theorem Rewrites.identity {surroundings : StatementEnvironment} {db : Database}
    {statement : Statement} {job row : AnalysisJob}
    (rewrites : Rewrites surroundings db statement job row) : row.identity = job.identity := by
  cases rewrites with
  | recoveredUnreserved | recoveredReserved => rfl
  | @updated _ update _ writes guarded =>
      cases statement with
      | updateJob change =>
          cases writes
          exact JobUpdate.identity_data change _ job
      | transitionJob input =>
          cases writes
          cases input <;> rfl
      | reserveJob | settleJob =>
          cases writes
          rfl
      | query | failStaleUnreserved | failStaleReserved | findActiveJob | createJob | findJob
      | debitTokens | incrementTokens | createReport | findStat | createStat | updateStat
      | complete | upsertRepository => cases writes

/-- Only active rows are rewritten. -/
theorem Rewrites.active {surroundings : StatementEnvironment} {db : Database}
    {statement : Statement} {job row : AnalysisJob}
    (rewrites : Rewrites surroundings db statement job row) : job.isActive = true := by
  rw [AnalysisJob.isActive_iff]
  cases rewrites with
  | recoveredUnreserved stale =>
      rcases (isStaleUnreserved_spec stale).2.2.2 with queued | running
      · exact Or.inl queued.1
      · exact Or.inr running.1
  | recoveredReserved stale => exact Or.inr (isStaleReserved_spec stale).2.1
  | @updated _ update _ writes guarded =>
      cases statement with
      | updateJob change =>
          cases writes
          exact AnalysisJob.isActive_iff.mp (JobUpdate.guard_active guarded)
      | transitionJob input =>
          cases writes
          have status : job.status = input.fromStatus := by
            simp only [transitionStatus, Bool.and_eq_true, beq_iff_eq] at guarded
            exact guarded.1
          rw [status]
          cases input with
          | start | failQueued => exact Or.inl rfl
          | requeue | succeed | failRunning => exact Or.inr rfl
      | reserveJob input =>
          cases writes
          exact Or.inr (reserveTokensRow_guard guarded).1
      | settleJob input =>
          cases writes
          rw [(settleFailureRow_guard guarded).1]
          cases input.expected with
          | queued => exact Or.inl rfl
          | running leaseToken => exact Or.inr rfl
      | query | failStaleUnreserved | failStaleReserved | findActiveJob | createJob | findJob
      | debitTokens | incrementTokens | createReport | findStat | createStat | updateStat
      | complete | upsertRepository => cases writes

end GitMate
