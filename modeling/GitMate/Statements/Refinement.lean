import GitMate.Library.Undisturbed
import GitMate.Service.Runs
import GitMate.Statements.Effects

namespace GitMate

open Relational Interleaving Dialect

/-!
# Statements refine commands

The ledger takes each write of the application as one step.  Here every such
command is compared with the program that issues its statements.  The
comparison is made part by part: a program computes a transaction body when
both, run on any database, answer the same and leave the same behind.  A
transaction that nobody disturbs then does exactly what its command does, and
leaves nothing behind when it fails.

Disturbed transactions are another matter.  What they keep under every
interleaving is proved from their statements, not from the commands.
-/

variable {digest : String -> Int}

theorem statements_lawful (digest : String -> Int) : (statements digest).Lawful where
  overlay_nothing := Database.overlay_empty
  overlay_changes ran := (Statement.extends ran).overlay_changes

/-! ## Programs that compute transaction bodies -/

/-- Run as sequential code, the program does to every database what the
transaction body does. -/
def Computes (digest : String -> Int) (environment : Environment) {α : Type}
    (program : Isolated digest α) (body : Tx α) : Prop :=
  forall db : Database, body ⟨db, environment, none⟩ =
    (sequential (L := statements digest) ⟨environment, []⟩ environment.application program db).map
      fun done => (done.1, ⟨done.2, environment, none⟩)

/-- A statement as a transaction body of its own. -/
def Statement.body (statement : Statement) : Tx statement.Reply :=
  Tx.statement fun db environment => statement.run ⟨environment, []⟩ db

namespace Computes

variable {environment : Environment} {α β : Type}

theorem pure (value : α) :
    Computes digest environment (Pure.pure value : Isolated digest α) (Pure.pure value) :=
  fun _ => rfl

theorem throw (error : AppError) :
    Computes digest environment (MonadExcept.throw error : Isolated digest α) (Tx.reject error) :=
  fun _ => rfl

theorem bind {program : Isolated digest α} {next : α -> Isolated digest β} {body : Tx α}
    {rest : α -> Tx β} (first : Computes digest environment program body)
    (continues : forall value, Computes digest environment (next value) (rest value)) :
    Computes digest environment (program >>= next) (body >>= rest) := by
  intro db
  have composed : sequential (L := statements digest) ⟨environment, []⟩ environment.application
      (program >>= next) db = _ := sequential_bind
  rw [composed]
  have started := first db
  cases ran : sequential (L := statements digest) ⟨environment, []⟩ environment.application
      program db with
  | error error =>
      rw [ran] at started
      simp only [Bind.bind, started, Except.map, Except.bind]
      rfl
  | ok done =>
      rw [ran] at started
      simp only [Bind.bind, started, Except.map, Except.bind]
      exact continues done.1 done.2

/-- Locks and reads of rows that change nothing are left out of a body. -/
theorem acquire {id : Nat} {scope : LockScope} {next : Unit -> Isolated digest α} {body : Tx α}
    (continues : Computes digest environment (next ()) body) :
    Computes digest environment (Isolated.acquire id scope >>= next) body := continues

theorem currentDate : Computes digest environment (Isolated.currentDate) Tx.currentDate :=
  fun _ => rfl

theorem ensure (condition : Bool) (error : AppError) :
    Computes digest environment (Isolated.ensure condition error)
      (GitMate.ensure condition error) := by
  cases condition with
  | false => exact throw error
  | true => exact pure ()

theorem ofExcept (checked : Except AppError α) :
    Computes digest environment (Isolated.ofExcept checked) (Tx.ofExcept checked) := by
  cases checked with
  | error error => exact throw error
  | ok value => exact pure value

/-- A statement computes the statement of the ledger that it runs. -/
theorem issue {id : Nat} {statement : Statement}
    {run : Database -> Environment -> Except AppError (statement.Reply × Database)}
    (same : forall db, statement.run ⟨environment, []⟩ db = run db environment) :
    Computes digest environment (Isolated.issue id statement) (Tx.statement run) := by
  intro db
  have issued : sequential (L := statements digest) ⟨environment, []⟩ environment.application
      (Isolated.issue id statement) db = statement.run ⟨environment, []⟩ db := sequential_issue
  rw [issued, same]
  rfl

theorem whole {id : Nat} (statement : Statement) :
    Computes digest environment (Isolated.issue id statement) statement.body :=
  issue fun _ => rfl

/-- The body of a transaction that is one statement of the ledger. -/
theorem issue_once {id : Nat} {statement : Statement}
    {run : Database -> Environment -> Except AppError (statement.Reply × Database)}
    (same : forall db, statement.run ⟨environment, []⟩ db =
      (Tx.statement run).once db environment) :
    Computes digest environment (Isolated.issue id statement) (Tx.statement run) := by
  refine issue fun db => (same db).trans ?_
  change ((run db environment).map _).map _ = _
  cases run db environment <;> rfl

end Computes

/-! ## The commands -/

variable {environment : Environment}

theorem updateReached_all (jobs : Table AnalysisJob.id) (selects : AnalysisJob -> Bool)
    (change : AnalysisJob -> AnalysisJob) (keeps : forall job, (change job).id = job.id) :
    updateReached jobs [] selects change keeps = jobs.updateMany selects change keeps := by
  have reached : (fun job => selects job && !([] : List JobId).contains job.id) = selects := by
    funext job
    exact Bool.and_true _
  unfold updateReached
  simp only [reached]

theorem computes_recoverStaleActiveJobs {id : Nat} {repositoryId : RepositoryId} :
    Computes digest environment (Isolated.recoverStaleActiveJobs id repositoryId)
      (recoverStaleActiveJobs repositoryId) := by
  refine Computes.currentDate.bind fun completedAt => ?_
  refine (Computes.issue fun db => ?_).bind fun _ => Computes.issue fun db => ?_
  · simp only [Statement.run, updateReached_all]
  · simp only [Statement.run, updateReached_all]

theorem computes_createExclusive {id : Nat} {input : CreateAnalysisJobRecordInput} :
    Computes digest environment (Isolated.createExclusive id input)
      (createExclusive input) := by
  refine Computes.acquire ?_
  refine computes_recoverStaleActiveJobs.bind fun _ => ?_
  refine (Computes.issue fun _ => rfl).bind fun active => ?_
  exact (Computes.ensure _ _).bind fun _ => Computes.issue_once fun _ => rfl

theorem computes_transition {id : Nat} {input : TransitionAnalysisJobInput} :
    Computes digest environment (Isolated.transition id input) (transition input) := by
  refine (Computes.ensure _ _).bind fun _ => (Computes.ofExcept _).bind fun _ => ?_
  -- The ledger reads the link to the report apart; the statement joins it.
  have written : Computes digest environment (Isolated.issue id (.transitionJob input))
      (select Database.linkedReport >>= fun linkedReport =>
        updateJob (transitionStatus linkedReport input)) := fun db => by
    rfl
  intro db
  exact (written.bind fun _ => Computes.ensure _ _) db

/-- The ledger scores a row in the update itself; the service reads the row,
scores it and writes the scores. -/
theorem rescored_eq_updated {stats : Table UserStat.userId} {userId : UserId} {stat : UserStat}
    (found : stats.find? userId = some stat) (newMetrics : AnalysisMetrics) :
    stats.updateMany (fun stat => decide (stat.userId = userId))
        (UserStat.rescored (stat.scores.weighted newMetrics))
        (UserStat.rescored_userId (stat.scores.weighted newMetrics)) =
      updatedStats stats userId newMetrics := by
  refine Table.ext (List.map_congr_left fun row member => ?_)
  by_cases named : row.userId = userId
  · have same : row = stat := Option.some.inj
      ((Table.find?_eq_some_iff.mpr ⟨member, named⟩).symm.trans found)
    rw [same]
    rfl
  · rw [if_neg, if_neg] <;> simpa only [decide_eq_true_eq] using named

theorem computes_updateStats {id : Nat} {userId : UserId} {newMetrics : AnalysisMetrics} :
    Computes digest environment (Isolated.updateStats id userId newMetrics)
      (updateStats userId newMetrics) := by
  have program : Computes digest environment (Isolated.updateStats id userId newMetrics)
      (select (fun db => db.userStats.find? userId) >>= fun existingStat =>
        existingStat.elim (Statement.createStat userId newMetrics).body
          fun stat => (Statement.updateStat userId (stat.scores.weighted newMetrics)).body) := by
    refine Computes.acquire ((Computes.issue fun _ => rfl).bind fun existingStat => ?_)
    cases existingStat with
    | none => exact Computes.whole _
    | some stat => exact Computes.whole _
  refine fun db => Eq.trans ?_ (program db)
  cases found : db.userStats.find? userId with
  | none =>
      have read : (select (fun db => db.userStats.find? userId)) ⟨db, environment, none⟩ =
          .ok (none, ⟨db, environment, none⟩) := by
        rw [← found]
        rfl
      simp only [Bind.bind, read, updateStats, Tx.statement, Option.elim, found]
      rfl
  | some stat =>
      have read : (select (fun db => db.userStats.find? userId)) ⟨db, environment, none⟩ =
          .ok (Option.some stat, ⟨db, environment, none⟩) := by
        rw [← found]
        rfl
      simp only [Bind.bind, read, updateStats, Tx.statement, Option.elim, Statement.body,
        Statement.run, found, rescored_eq_updated found]

theorem computes_refundTokens {id : Nat} {userId : UserId} {amount : Int} {settled : Bool} :
    Computes digest environment (Isolated.refundTokens id userId amount settled)
      (refundTokens userId amount settled) := by
  unfold Isolated.refundTokens refundTokens
  split
  · exact Computes.issue_once fun _ => rfl
  · exact Computes.pure ()

theorem computes_runCompletionAction {id : Nat} {action : Option CompletionAction} :
    Computes digest environment (Isolated.runCompletionAction id action)
      (runCompletionAction action) := by
  cases action with
  | none => exact Computes.pure ()
  | some action =>
      change Computes digest environment (Isolated.issue id (.complete action))
        (Tx.statement fun db _ => .ok ((), { db with
          repositories := action.apply db.repositories }))
      exact Computes.issue fun _ => rfl

theorem computes_saveAnalysisResult {id : Nat} {input : SaveAnalysisResultInput} :
    Computes digest environment (Isolated.saveAnalysisResult id input)
      (saveAnalysisResult input) := by
  have reported : Computes digest environment (Isolated.issue id (.createReport input))
      (createReport input) := Computes.issue_once fun _ => rfl
  refine reported.bind fun reportId => ?_
  refine computes_updateStats.bind fun _ => computes_refundTokens.bind fun _ => ?_
  refine Computes.currentDate.bind fun completedAt => ?_
  exact computes_transition.bind fun _ => computes_runCompletionAction

theorem computes_reserveWorkerTokens {id : Nat} {input : ReserveAnalysisJobTokensInput} :
    Computes digest environment (Isolated.reserveWorkerTokens id input)
      (reserveWorkerTokens input) := by
  have paid : Computes digest environment (Isolated.issue id
      (.debitTokens input.expectedUserId input.reservedTokens))
      (debitTokens input.expectedUserId input.reservedTokens) := Computes.issue_once fun _ => rfl
  refine paid.bind fun debited => (Computes.ensure _ _).bind fun _ => ?_
  refine (Computes.ofExcept _).bind fun _ => ?_
  have reserved : Computes digest environment (Isolated.issue id (.reserveJob input))
      (updateJob (reserveTokensRow input)) := Computes.issue_once fun _ => rfl
  exact reserved.bind fun applied => Computes.ensure _ _

theorem computes_debitAdditionally {id : Nat} {input : TerminateWorkerJobInput} :
    Computes digest environment (Isolated.debitAdditionally id input)
      (debitAdditionally input) := by
  unfold Isolated.debitAdditionally debitAdditionally
  split
  · exact Computes.issue_once fun _ => rfl
  · exact Computes.pure true

theorem computes_terminateWorkerJob {id : Nat} {input : TerminateWorkerJobInput} :
    Computes digest environment (Isolated.terminateWorkerJob id input)
      (terminateWorkerJob input) := by
  refine computes_debitAdditionally.bind fun paid => computes_refundTokens.bind fun _ => ?_
  refine (Computes.ensure _ _).bind fun _ => ?_
  exact computes_transition.bind fun _ => computes_runCompletionAction

theorem computes_settleFailure {id : Nat} {input : SettleFailureInput} :
    Computes digest environment (Isolated.settleFailure id input)
      (settleFailure input) := by
  refine (Computes.issue fun _ => rfl).bind fun row => ?_
  cases row with
  | none => exact Computes.pure false
  | some job =>
      simp only
      split
      · exact Computes.pure false
      · refine (Computes.ensure _ _).bind fun _ => ?_
        refine (Computes.issue_once fun _ => rfl).bind fun terminalized => ?_
        refine (Computes.ensure _ _).bind fun _ => computes_refundTokens.bind fun _ => ?_
        exact Computes.pure true

/-- The statements of a command, in a transaction with the given number. -/
def Command.program (id : Nat) : (command : Command) -> Isolated digest command.Reply
  | .update change => Isolated.issue id (.updateJob change)
  | .createExclusive input => Isolated.createExclusive id input
  | .reserveWorkerTokens input => Isolated.reserveWorkerTokens id input
  | .terminateWorkerJob input => Isolated.terminateWorkerJob id input
  | .saveAnalysisResult input => Isolated.saveAnalysisResult id input
  | .settleFailure input => Isolated.settleFailure id input
  | .upsertRepository githubRepoId fullName userId =>
      Isolated.issue id (.upsertRepository githubRepoId fullName userId)

theorem Command.computes (command : Command) (id : Nat) :
    Computes digest environment (command.program id) command.run := by
  cases command with
  | update change =>
      change Computes digest environment (Isolated.issue id (.updateJob change))
        (updateJob change.row)
      exact Computes.issue_once fun _ => rfl
  | createExclusive input => exact computes_createExclusive
  | reserveWorkerTokens input => exact computes_reserveWorkerTokens
  | terminateWorkerJob input => exact computes_terminateWorkerJob
  | saveAnalysisResult input => exact computes_saveAnalysisResult
  | settleFailure input => exact computes_settleFailure
  | upsertRepository githubRepoId fullName userId =>
      change Computes digest environment
        (Isolated.issue id (.upsertRepository githubRepoId fullName userId))
        (GitMate.upsertRepository githubRepoId fullName userId)
      exact Computes.issue_once fun _ => rfl

/-! ## The bodies of transactions -/

section Bodies

variable {id : Nat}

theorem plain_ensure (condition : Bool) (error : AppError) :
    Plain (L := statements digest) id (Isolated.ensure condition error) := by
  cases condition <;> trivial

theorem plain_ofExcept {α : Type} (checked : Except AppError α) :
    Plain (L := statements digest) id (Isolated.ofExcept checked) := by
  cases checked <;> trivial

theorem plain_transition {input : TransitionAnalysisJobInput} :
    Plain (L := statements digest) id (Isolated.transition id input) :=
  (plain_ensure _ _).bind fun _ => (plain_ofExcept _).bind fun _ =>
    plain_issue.bind fun _ => plain_ensure _ _

theorem plain_updateStats {userId : UserId} {newMetrics : AnalysisMetrics} :
    Plain (L := statements digest) id (Isolated.updateStats id userId newMetrics) := by
  refine plain_acquire.bind fun _ => plain_issue.bind fun existingStat => ?_
  cases existingStat with
  | none => exact plain_issue
  | some stat => exact plain_issue

theorem plain_refundTokens {userId : UserId} {amount : Int} {settled : Bool} :
    Plain (L := statements digest) id (Isolated.refundTokens id userId amount settled) := by
  unfold Isolated.refundTokens
  split
  · exact plain_issue
  · trivial

theorem plain_runCompletionAction {action : Option CompletionAction} :
    Plain (L := statements digest) id (Isolated.runCompletionAction id action) := by
  cases action with
  | none => trivial
  | some action => exact plain_issue

theorem plain_debitAdditionally {input : TerminateWorkerJobInput} :
    Plain (L := statements digest) id (Isolated.debitAdditionally id input) := by
  unfold Isolated.debitAdditionally
  split
  · exact plain_issue
  · trivial

theorem plain_settleFailure {input : SettleFailureInput} :
    Plain (L := statements digest) id (Isolated.settleFailure id input) := by
  refine plain_issue.bind fun row => ?_
  cases row with
  | none => trivial
  | some job =>
      simp only
      split
      · trivial
      · exact (plain_ensure _ _).bind fun _ => plain_issue.bind fun _ =>
          (plain_ensure _ _).bind fun _ => plain_refundTokens.bind fun _ => trivial

/-- The program of a command is the body of a transaction. -/
theorem Command.plain (command : Command) :
    Plain (L := statements digest) id (command.program id) := by
  cases command with
  | update change => exact plain_issue
  | createExclusive input =>
      refine plain_acquire.bind fun _ => Plain.bind ?_ fun _ => ?_
      · exact plain_now.bind fun _ => plain_issue.bind fun _ => plain_issue
      · exact plain_issue.bind fun _ => (plain_ensure _ _).bind fun _ => plain_issue
  | reserveWorkerTokens input =>
      exact plain_issue.bind fun _ => (plain_ensure _ _).bind fun _ =>
        (plain_ofExcept _).bind fun _ => plain_issue.bind fun _ => plain_ensure _ _
  | terminateWorkerJob input =>
      exact plain_debitAdditionally.bind fun _ => plain_refundTokens.bind fun _ =>
        (plain_ensure _ _).bind fun _ => plain_transition.bind fun _ => plain_runCompletionAction
  | saveAnalysisResult input =>
      exact plain_issue.bind fun _ => plain_updateStats.bind fun _ =>
        plain_refundTokens.bind fun _ => plain_now.bind fun _ =>
          plain_transition.bind fun _ => plain_runCompletionAction
  | settleFailure input => exact plain_settleFailure
  | upsertRepository githubRepoId fullName userId => exact plain_issue

end Bodies

/-! ## Runs -/

/-- Surroundings in which nothing goes wrong, and no row is missed. -/
abbrev quiet (digest : String -> Int) (environment : Environment) :
    (statements digest).Op -> (statements digest).Choice :=
  undisturbed (L := statements digest) environment.database ⟨environment, []⟩
    environment.application

/-- No transaction is open. -/
def Settled (store : Store Database LockId Instant) : Prop :=
  forall id transaction, store.find? id ≠ some transaction

/-- The program can run alone with this result, and is over then. -/
def RunsTo (digest : String -> Int) (environment : Environment) {α : Type}
    (program : Isolated digest α) (store : Store Database LockId Instant)
    (result : Except AppError α × Database) : Prop :=
  Exists fun later => alone (quiet digest environment) program store = some (result.1, later) ∧
    later.committed = result.2 ∧ Settled later

/-- The transaction of a command does what the command does. -/
theorem Command.runsTo (command : Command) (environment : Environment)
    {store : Store Database LockId Instant} (settled : Settled store) :
    RunsTo digest environment (Isolated.transaction fun id => command.program id) store
      (store.committed.transaction ⟨environment, none, .acknowledged⟩ command.run) := by
  have admitted : forall statement : Statement,
      (statements digest).admissible environment.database statement ⟨environment, []⟩ = true := by
    intro statement
    cases statement <;> simp [statements, Statement.admits]
  have ends := alone_transaction (statements_lawful digest) environment.application admitted
    (fun id => command.plain) settled
  have computed : Computes digest environment (command.program store.transactions.length)
      command.run := command.computes _
  unfold Database.transaction
  simp only
  rw [computed store.committed]
  cases ran : sequential (L := statements digest) ⟨environment, []⟩ environment.application
      (command.program store.transactions.length) store.committed with
  | error error => exact ends.2 error ran
  | ok done => exact ends.1 done.1 done.2 ran

/-- What `ignoring` drops is the reply. -/
theorem RunsTo.ignoring {environment : Environment} {α : Type} {program : Isolated digest α}
    {store : Store Database LockId Instant} {result : Except AppError α × Database}
    (runs : RunsTo digest environment program store result) :
    RunsTo digest environment (Isolated.ignoring program) store
      (result.1.map fun _ => (), result.2) := by
  rcases runs with ⟨later, ran, same, settled⟩
  refine ⟨later, ?_, same, settled⟩
  unfold Isolated.ignoring
  rcases result with ⟨answer, after⟩
  cases answer with
  | error error => exact (alone_bind (L := statements digest)).2 ran
  | ok value => exact (alone_bind (L := statements digest)).1 ran

/-- The command that an entry issues, once it has read the clock. -/
inductive Requests (now : Instant) : TransactionEntry -> Command -> Prop where
  | update (change : JobUpdate) : Requests now (.update change) (.update change)
  | sync {userId : UserId} {repositoryId : RepositoryId} {key : Uuid}
      {sourceCursor collectionCutoff : Option Instant}
      (valid : validateCreateInput
        ⟨userId, repositoryId, syncKey key, sourceCursor, collectionCutoff⟩ = .ok ()) :
      Requests now (.sync userId repositoryId key sourceCursor collectionCutoff)
        (.createExclusive ((⟨userId, repositoryId, syncKey key, sourceCursor,
          collectionCutoff⟩ : CreateAnalysisJobInput).record now))
  | reserve (input : ReserveAnalysisJobTokensInput) :
      Requests now (.reserve input) (.reserveWorkerTokens input)
  | terminate (input : TerminateWorkerJobInput) :
      Requests now (.terminate input) (.terminateWorkerJob input)
  | save (input : SaveAnalysisResultInput) :
      Requests now (.save input) (.saveAnalysisResult input)
  | settle (input : SettleFailureInput) : Requests now (.settle input) (.settleFailure input)
  | upsertRepository (githubRepoId fullName : String) (userId : UserId) :
      Requests now (.upsertRepository githubRepoId fullName userId)
        (.upsertRepository githubRepoId fullName userId)

/-- The program of an entry does what its command does. -/
theorem Requests.runsTo {environment : Environment} {entry : TransactionEntry} {command : Command}
    (requests : Requests environment.application entry command)
    {store : Store Database LockId Instant} (settled : Settled store) :
    RunsTo digest environment entry.program store
      ((store.committed.transaction ⟨environment, none, .acknowledged⟩ command.run).1.map
          fun _ => (),
        (store.committed.transaction ⟨environment, none, .acknowledged⟩ command.run).2) := by
  have runs : RunsTo digest environment
      (Isolated.transaction fun id => command.program id) store _ :=
    command.runsTo environment settled
  have unit : forall {result : Except AppError Unit × Database},
      (result.1.map fun _ => (), result.2) = result := by
    rintro ⟨answer, after⟩
    cases answer <;> rfl
  cases requests with
  | update change => exact runs.ignoring
  | settle input => exact runs.ignoring
  | sync valid =>
      rcases runs.ignoring with ⟨later, ran, same, closed⟩
      refine ⟨later, ?_, same, closed⟩
      change alone (quiet digest environment) (Isolated.sync _) store = _
      unfold Isolated.sync
      rw [valid]
      exact ran
  | reserve | terminate | save | upsertRepository => rw [unit]; exact runs

/-! ## Any number of commands -/

/-- A write of the application: what a process is started for, the command it
issues, and what the surroundings decide. -/
structure Write where
  entry : TransactionEntry
  command : Command
  environment : Environment
  requests : Requests environment.application entry command

/-- The databases that the ledger goes through. -/
def Write.apply (db : Database) (write : Write) : Database :=
  (db.transaction ⟨write.environment, none, .acknowledged⟩ write.command.run).2

/-- What the callers of the writes learn. -/
def Write.answers : Database -> List Write -> List (Except AppError Unit)
  | _, [] => []
  | db, write :: rest =>
      ((db.transaction ⟨write.environment, none, .acknowledged⟩ write.command.run).1.map
        fun _ => ()) :: answers (write.apply db) rest

/-- The process that a transition starts. -/
def startedEntry (step : (isolated digest).Transition) : Option TransactionEntry :=
  match step.label with
  | .spawn entry => some entry
  | .act .. | .crash _ | .internal _ => none

/-- Whatever writes the ledger takes as single steps, one after the other, the
processes of the machine can take statement by statement.  The same is
committed in the end, and each process ends with the answer to its write. -/
theorem writes_simulated (digest : String -> Int) (writes : List Write)
    (state : (isolated digest).State) (settled : Settled (storeOf state)) :
    Exists fun steps => Exists fun last : (isolated digest).State =>
      Machine.Execution state steps last ∧
      steps.filterMap startedEntry = writes.map Write.entry ∧
      Settled (storeOf last) ∧
      (storeOf last).committed = writes.foldl Write.apply (storeOf state).committed ∧
      last.processes.map Process.program = state.processes.map Process.program ++
        (Write.answers (storeOf state).committed writes).map endedProgram := by
  induction writes generalizing state with
  | nil => exact ⟨[], state, .start, rfl, settled, rfl, (List.append_nil _).symm⟩
  | cons write writes inductionHypothesis =>
      have runs : RunsTo digest write.environment write.entry.program (storeOf state) _ :=
        write.requests.runsTo settled
      rcases runs with ⟨later, ran, same, closed⟩
      have spawned : state.step (.spawn write.entry) =
        some ⟨state.world, state.processes ++ [⟨write.entry.program, []⟩]⟩ := rfl
      have here : (⟨state.world, state.processes ++ [⟨write.entry.program, []⟩]⟩ :
          (isolated digest).State).processes[state.processes.length]? =
        some ⟨write.entry.program, []⟩ := List.getElem?_concat_length
      rcases execution_of_alone here ran with ⟨steps, middle, run, acting, stored, events, ended⟩
      rcases inductionHypothesis middle (stored ▸ closed) with
        ⟨rest, last, continued, started, closedLast, committed, programs⟩
      refine ⟨_, last, (((Machine.Execution.start.next spawned).append run).append continued), ?_,
        closedLast, ?_, ?_⟩
      · have quiet : steps.filterMap startedEntry = [] := by
          refine List.filterMap_eq_nil_iff.mpr fun step member => ?_
          rcases Machine.Transition.act_of_actor (acting step member) with ⟨choice, label⟩
          simp only [startedEntry, label]
        rw [List.filterMap_append, List.filterMap_append, quiet, started]
        rfl
      · rw [committed, stored, same]
        rfl
      · rw [programs, ended, stored, same, List.map_set, List.map_append, Write.answers,
          List.map_cons]
        change (_ ++ [write.entry.program]).set _ (endedProgram _) ++ _ = _
        have last : state.processes.length = (state.processes.map Process.program).length :=
          (List.length_map _).symm
        rw [last, List.set_append_right _ _ (Nat.le_refl _), Nat.sub_self, List.append_assoc]
        rfl

def listedThenSynced : List Write :=
  [⟨.upsertRepository "R1" "team/renamed" 1, .upsertRepository "R1" "team/renamed" 1, ⟨5, 5, 7⟩,
      .upsertRepository "R1" "team/renamed" 1⟩,
    ⟨.sync 1 1 3 none none, .createExclusive ((⟨1, 1, syncKey 3, none, none⟩ :
      CreateAnalysisJobInput).record 9), ⟨9, 9, 1⟩, .sync rfl⟩]

def quietState : (isolated fun _ => 0).State := ⟨⟨smallDatabase, []⟩, []⟩

theorem writes_simulated_listed :
    Exists fun steps => Exists fun last : (isolated fun _ => 0).State =>
      Machine.Execution quietState steps last ∧
      (storeOf last).committed.analysisJobs.rows.map AnalysisJob.status = [.queued] ∧
      last.processes.map (fun process => process.program.running) = [false, false] := by
  have settled : Settled ⟨smallDatabase, []⟩ := fun id transaction found => by cases found
  rcases writes_simulated (fun _ => 0) listedThenSynced quietState settled with
    ⟨steps, last, run, _, _, committed, programs⟩
  refine ⟨steps, last, run, ?_, ?_⟩
  · rw [committed]
    decide +kernel
  · have ended := congrArg (List.map Program.running) programs
    rw [List.map_map] at ended
    refine ended.trans ?_
    decide +kernel

end GitMate
