import GitMate.Ledger.JobService
import Mathlib.Algebra.Order.Ring.Rat

namespace GitMate

open Relational

/-!
# Reservation and settlement

Five transactions move tokens.  The reservation debits the user and marks the
job; the success transaction stores the report, updates the statistics,
refunds what was not used and ends the job; termination refunds or debits and
fails the job; the worker's own settlement fails an unbilled job and refunds
its whole reservation.  Each of them ends with a guarded update of the job,
so a lost lease undoes every other write of the transaction.
-/

/-! ## Balances -/

theorem User.debit_keeps (amount : Int) (user : User) :
    { user with availableTokens := user.availableTokens - amount }.id = user.id := rfl

theorem User.credit_keeps (amount : Int) (user : User) :
    { user with availableTokens := user.availableTokens + amount }.id = user.id := rfl

def canPay (userId : UserId) (amount : Int) (user : User) : Bool :=
  decide (user.id = userId) && decide (amount ≤ user.availableTokens)

def debitedUsers (users : Table User.id) (userId : UserId) (amount : Int) : Table User.id :=
  users.updateMany (canPay userId amount)
    (fun user => { user with availableTokens := user.availableTokens - amount })
    (User.debit_keeps amount)

def creditedUsers (users : Table User.id) (userId : UserId) (amount : Int) : Table User.id :=
  users.updateMany (fun user => decide (user.id = userId))
    (fun user => { user with availableTokens := user.availableTokens + amount })
    (User.credit_keeps amount)

/-- `tx.user.updateMany` with `availableTokens: { gte, decrement }`; it
reports whether the user could pay. -/
def debitTokens (userId : UserId) (amount : Int) : Tx Bool :=
  Tx.statement fun db _ =>
    .ok (db.users.countWhere (canPay userId amount) == 1,
      { db with users := debitedUsers db.users userId amount })

/-- `tx.user.update` with `availableTokens: { increment }`. -/
def incrementTokens (userId : UserId) (amount : Int) : Tx Unit :=
  Tx.statement fun db _ =>
    match db.findUser userId with
    | some _ => .ok ((), { db with users := creditedUsers db.users userId amount })
    | none => .error (.prismaKnownRequest "P2025")

/-- The available tokens of a user, and zero when there is no such user. -/
def balance (users : Table User.id) (userId : UserId) : Int :=
  ((users.find? userId).map User.availableTokens).getD 0

theorem canPay_names (userId : UserId) (amount : Int) :
    Table.Names User.id (canPay userId amount) userId := by
  intro user selected
  simp only [canPay, Bool.and_eq_true, decide_eq_true_eq] at selected
  exact selected.1

/-- A debit that took place lowers the balance of its user by the amount,
which the user could pay, and touches nobody else. -/
theorem balance_debitedUsers {users : Table User.id} {userId : UserId} {amount : Int}
    (paid : users.countWhere (canPay userId amount) = 1) (other : UserId) :
    amount ≤ balance users userId ∧
    balance (debitedUsers users userId amount) other =
      balance users other - if other = userId then amount else 0 := by
  rcases (Table.countWhere_eq_one_iff (canPay_names userId amount)).mp paid with
    ⟨user, found, selected⟩
  have payable := selected
  simp only [canPay, Bool.and_eq_true, decide_eq_true_eq] at payable
  constructor
  · simpa only [balance, found, Option.map_some, Option.getD_some] using payable.2
  · by_cases same : other = userId
    · subst same
      have debited : (debitedUsers users other amount).find? other = _ :=
        Table.find?_compareAndSet found selected
      simp only [balance, debited, found, Option.map_some, Option.getD_some, if_true]
    · have untouched : (debitedUsers users userId amount).find? other = users.find? other :=
        Table.find?_compareAndSet_ne (canPay_names userId amount) same
      simp only [balance, untouched, if_neg same, sub_zero]

/-- A debit that was refused changes no balance. -/
theorem debitedUsers_of_refused {users : Table User.id} {userId : UserId} {amount : Int}
    (refused : users.countWhere (canPay userId amount) ≠ 1) :
    debitedUsers users userId amount = users :=
  Table.updateMany_of_countWhere_ne_one (canPay_names userId amount) refused

theorem balance_creditedUsers {users : Table User.id} {userId : UserId} {user : User}
    (found : users.find? userId = some user) (amount : Int) (other : UserId) :
    balance (creditedUsers users userId amount) other =
      balance users other + if other = userId then amount else 0 := by
  have names : Table.Names User.id (fun user => decide (user.id = userId)) userId :=
    fun user selected => of_decide_eq_true selected
  by_cases same : other = userId
  · subst same
    have credited : (creditedUsers users other amount).find? other = _ :=
      Table.find?_compareAndSet found (decide_eq_true (Table.key_of_find? found))
    simp only [balance, credited, found, Option.map_some, Option.getD_some, if_true]
  · have untouched : (creditedUsers users userId amount).find? other = users.find? other :=
      Table.find?_compareAndSet_ne names same
    simp only [balance, untouched, if_neg same, add_zero]

theorem debitTokens_ok {userId : UserId} {amount : Int} {result : Bool} {session later : Session}
    (done : debitTokens userId amount session = .ok (result, later)) :
    result = (session.db.users.countWhere (canPay userId amount) == 1) ∧
    later.db = { session.db with users := debitedUsers session.db.users userId amount } ∧
    later.environment = session.environment := by
  have ran := Tx.statement_ok done
  simp only [Except.ok.injEq, Prod.mk.injEq] at ran
  exact ⟨ran.1.1.symm, ran.1.2.symm, ran.2⟩

theorem incrementTokens_ok {userId : UserId} {amount : Int} {result : Unit}
    {session later : Session} (done : incrementTokens userId amount session = .ok (result, later)) :
    (Exists fun user => session.db.findUser userId = some user) ∧
    later.db = { session.db with users := creditedUsers session.db.users userId amount } ∧
    later.environment = session.environment := by
  have ran := Tx.statement_ok done
  cases found : session.db.findUser userId with
  | none =>
      rw [found] at ran
      cases ran.1
  | some user =>
      rw [found] at ran
      simp only [Except.ok.injEq, Prod.mk.injEq, true_and] at ran
      exact ⟨⟨user, rfl⟩, ran.1.symm, ran.2⟩

/-! ## Reservation -/

/-- The transaction of `ensureWorkerTokenReservation`. -/
def reserveWorkerTokens (input : ReserveAnalysisJobTokensInput) : Tx Unit := do
  let debited <- debitTokens input.expectedUserId input.reservedTokens
  ensure debited .insufficientAnalysisTokens
  reserveTokens input

theorem reserveWorkerTokens_ok {input : ReserveAnalysisJobTokensInput} {result : Unit}
    {session later : Session} (done : reserveWorkerTokens input session = .ok (result, later)) :
    session.db.users.countWhere (canPay input.expectedUserId input.reservedTokens) = 1 ∧
    validateReserveTokens input = .ok () ∧
    (Exists fun job => session.db.findJob input.jobId = some job ∧
      (reserveTokensRow input).guard job = true) ∧
    later.db = { session.db with
      users := debitedUsers session.db.users input.expectedUserId input.reservedTokens
      analysisJobs := (reserveTokensRow input).apply session.environment.application
        session.db.analysisJobs } := by
  unfold reserveWorkerTokens at done
  rcases Tx.bind_ok done with ⟨debited, paid, debitRan, afterDebit⟩
  rcases debitTokens_ok debitRan with ⟨counted, paidDb, paidEnvironment⟩
  rcases Tx.bind_ok afterDebit with ⟨_, ensured, ensureRan, reservation⟩
  rcases ensure_ok ensureRan with ⟨affordable, rfl⟩
  rcases reserveTokens_ok reservation with ⟨valid, held, reservedDb⟩
  rw [paidDb, paidEnvironment] at reservedDb
  rw [paidDb] at held
  exact ⟨beq_iff_eq.mp (counted.symm.trans affordable), valid, held, reservedDb⟩

/-! ## Completion actions -/

/-- The repository update that a caller passes to be made in the transaction
that ends its job. -/
inductive CompletionAction where
  /-- The worker's `advanceRepositoryCheckpoint`. -/
  | advanceRepositoryCheckpoint (repositoryId : RepositoryId) (userId : UserId)
      (collectionCutoff : Instant)
  /-- The action of `syncRepository`. -/
  | advanceSyncCheckpoint (githubRepoId : String) (syncStartedAt : Instant)
  deriving DecidableEq, Repr

namespace CompletionAction

def cutoff : CompletionAction -> Instant
  | .advanceRepositoryCheckpoint _ _ collectionCutoff => collectionCutoff
  | .advanceSyncCheckpoint _ syncStartedAt => syncStartedAt

/-- A null checkpoint, or one before the cutoff. -/
def moves (action : CompletionAction) (repository : Repository) : Bool :=
  match repository.lastSyncTime with
  | none => true
  | some lastSyncTime => decide (lastSyncTime < action.cutoff)

def concerns : CompletionAction -> Repository -> Bool
  | .advanceRepositoryCheckpoint repositoryId userId _, repository =>
      repository.id == repositoryId && repository.ownerId == userId
  | .advanceSyncCheckpoint githubRepoId _, repository => repository.githubRepoId == githubRepoId

theorem keeps (action : CompletionAction) (repository : Repository) :
    { repository with lastSyncTime := some action.cutoff }.id = repository.id := rfl

def apply (action : CompletionAction) (repositories : Table Repository.id) :
    Table Repository.id :=
  repositories.updateMany (fun repository => action.concerns repository && action.moves repository)
    (fun repository => { repository with lastSyncTime := some action.cutoff }) action.keeps

end CompletionAction

/-- The repositories after an optional completion action. -/
def completed (action : Option CompletionAction) (repositories : Table Repository.id) :
    Table Repository.id :=
  match action with
  | some action => action.apply repositories
  | none => repositories

def runCompletionAction (action : Option CompletionAction) : Tx Unit :=
  match action with
  | some action => Tx.statement fun db _ =>
      .ok ((), { db with repositories := action.apply db.repositories })
  | none => pure ()

theorem runCompletionAction_ok {action : Option CompletionAction} {result : Unit}
    {session later : Session} (done : runCompletionAction action session = .ok (result, later)) :
    later.db = { session.db with repositories := completed action session.db.repositories } := by
  cases action with
  | none =>
      rcases Tx.pure_ok done with ⟨_, rfl⟩
      rfl
  | some action =>
      unfold runCompletionAction at done
      have ran := Tx.statement_ok done
      simp only [Except.ok.injEq, Prod.mk.injEq, true_and] at ran
      exact ran.1.symm

/-! ## Termination -/

structure TerminateWorkerJobInput where
  userId : UserId
  repositoryId : RepositoryId
  jobId : JobId
  leaseToken : Uuid
  /-- `jobContext.reservedTokens`. -/
  contextReservedTokens : Option Int
  errorCode : AnalysisJobFailureCode
  usage : Option AnalysisTokenUsage
  refundTokens : Int
  providerRequestIds : List String
  tokensSettled : Bool
  additionalDebitTokens : Int
  completionAction : Option CompletionAction
  completedAt : Instant
  deriving DecidableEq, Repr

namespace TerminateWorkerJobInput

/-- The failure that is recorded; `paid` says that no additional debit was
refused. -/
def failure (input : TerminateWorkerJobInput) (paid : Bool) : FailureInput where
  completedAt := input.completedAt
  tokensSettledAt := if input.tokensSettled && paid then some input.completedAt else none
  promptTokens := input.usage.map AnalysisTokenUsage.promptTokens
  completionTokens := input.usage.map AnalysisTokenUsage.completionTokens
  totalTokens := input.usage.map AnalysisTokenUsage.totalTokens
  providerRequestIds := input.providerRequestIds
  errorCode :=
    if input.tokensSettled && paid then input.errorCode else .providerReconciliationRequired
  errorRetryable := false

def transition (input : TerminateWorkerJobInput) (paid : Bool) : TransitionAnalysisJobInput :=
  .failRunning input.jobId input.leaseToken input.userId input.repositoryId
    input.contextReservedTokens (input.failure paid)

end TerminateWorkerJobInput

/-- The additional debit, if there is one; it reports whether the user could
pay. -/
def debitAdditionally (input : TerminateWorkerJobInput) : Tx Bool :=
  if 0 < input.additionalDebitTokens then debitTokens input.userId input.additionalDebitTokens
  else pure true

/-- A positive refund of a settled job. -/
def refundTokens (userId : UserId) (amount : Int) (settled : Bool) : Tx Unit :=
  if settled && decide (0 < amount) then incrementTokens userId amount else pure ()

/-- The transaction of `terminateWorkerJob`. -/
def terminateWorkerJob (input : TerminateWorkerJobInput) : Tx Unit := do
  let paid <- debitAdditionally input
  refundTokens input.userId input.refundTokens (input.tokensSettled && paid)
  ensure (!(input.tokensSettled && paid) || input.usage.isSome) .invalidAnalysisTokenUsage
  transition (input.transition paid)
  runCompletionAction input.completionAction

/-- The users after an additional debit with the given answer. -/
def AdditionalDebit (input : TerminateWorkerJobInput) (users : Table User.id) (paid : Bool)
    (debited : Table User.id) : Prop :=
  if 0 < input.additionalDebitTokens then
    paid = (users.countWhere (canPay input.userId input.additionalDebitTokens) == 1) ∧
      debited = debitedUsers users input.userId input.additionalDebitTokens
  else paid = true ∧ debited = users

/-- The users after a refund. -/
def refundedUsers (users : Table User.id) (userId : UserId) (amount : Int) (settled : Bool) :
    Table User.id :=
  if settled && decide (0 < amount) then creditedUsers users userId amount else users

theorem debitAdditionally_ok {input : TerminateWorkerJobInput} {paid : Bool}
    {session later : Session} (done : debitAdditionally input session = .ok (paid, later)) :
    Exists fun debited => AdditionalDebit input session.db.users paid debited ∧
      later.db = { session.db with users := debited } ∧
      later.environment = session.environment := by
  unfold debitAdditionally at done
  unfold AdditionalDebit
  by_cases charged : 0 < input.additionalDebitTokens
  · rw [if_pos charged] at done
    rcases debitTokens_ok done with ⟨counted, debitDb, debitEnvironment⟩
    refine ⟨_, ?_, debitDb, debitEnvironment⟩
    rw [if_pos charged]
    exact ⟨counted, rfl⟩
  · rw [if_neg charged] at done
    rcases Tx.pure_ok done with ⟨unpaid, same⟩
    rw [same]
    refine ⟨session.db.users, ?_, rfl, rfl⟩
    rw [if_neg charged]
    exact ⟨unpaid, rfl⟩

theorem refundTokens_ok {userId : UserId} {amount : Int} {settled : Bool} {result : Unit}
    {session later : Session}
    (done : refundTokens userId amount settled session = .ok (result, later)) :
    (settled = true -> 0 < amount ->
      Exists fun user => session.db.users.find? userId = some user) ∧
    later.db = { session.db with
      users := refundedUsers session.db.users userId amount settled } ∧
    later.environment = session.environment := by
  unfold refundTokens at done
  unfold refundedUsers
  by_cases refunded : (settled && decide (0 < amount)) = true
  · rw [if_pos refunded] at done
    rw [if_pos refunded]
    rcases incrementTokens_ok done with ⟨owner, refundDb, refundEnvironment⟩
    exact ⟨fun _ _ => owner, refundDb, refundEnvironment⟩
  · rw [if_neg refunded] at done
    rw [if_neg refunded]
    rcases Tx.pure_ok done with ⟨_, rfl⟩
    refine ⟨fun isSettled positive => absurd ?_ refunded, rfl, rfl⟩
    rw [isSettled, decide_eq_true positive]
    rfl

/-- A termination that succeeded held the lease, failed exactly its job, and
moved tokens as the outcome of its additional debit allowed. -/
theorem terminateWorkerJob_ok {input : TerminateWorkerJobInput} {result : Unit}
    {session later : Session} (done : terminateWorkerJob input session = .ok (result, later)) :
    Exists fun paid => Exists fun debited =>
      AdditionalDebit input session.db.users paid debited ∧
      ((input.tokensSettled && paid) = true -> input.usage.isSome = true) ∧
      ((input.tokensSettled && paid) = true -> 0 < input.refundTokens ->
        Exists fun user => debited.find? input.userId = some user) ∧
      validateTransitionInput (input.transition paid) = .ok () ∧
      (Exists fun job => session.db.findJob input.jobId = some job ∧
        (transitionStatus session.db.linkedReport (input.transition paid)).guard job = true) ∧
      later.db = { session.db with
        users := refundedUsers debited input.userId input.refundTokens
          (input.tokensSettled && paid)
        analysisJobs := (transitionStatus session.db.linkedReport (input.transition paid)).apply
          session.environment.application session.db.analysisJobs
        repositories := completed input.completionAction session.db.repositories } := by
  unfold terminateWorkerJob at done
  rcases Tx.bind_ok done with ⟨paid, debitDone, debitRan, afterDebit⟩
  rcases debitAdditionally_ok debitRan with ⟨debited, debitSpec, debitDb, debitEnvironment⟩
  rcases Tx.bind_ok afterDebit with ⟨_, refundDone, refundRan, afterRefund⟩
  rcases refundTokens_ok refundRan with ⟨refundOwner, refundDb, refundEnvironment⟩
  rcases Tx.bind_ok afterRefund with ⟨_, checked, checkRan, afterCheck⟩
  rcases ensure_ok checkRan with ⟨usable, rfl⟩
  rcases Tx.bind_ok afterCheck with ⟨_, ended, transitionRan, actionRan⟩
  rcases transition_ok transitionRan with ⟨valid, held, endedDb, _⟩
  have actionDb := runCompletionAction_ok actionRan
  rw [debitDb] at refundOwner refundDb
  rw [refundDb] at held endedDb
  rw [refundEnvironment, debitEnvironment] at endedDb
  rw [endedDb] at actionDb
  refine ⟨paid, debited, debitSpec, fun settled => ?_, refundOwner, valid, held, actionDb⟩
  simpa only [settled, Bool.not_true, Bool.false_or] using usable

/-! ## Statistics -/

def weightOld : Rat := 7 / 10
def weightNew : Rat := 3 / 10

/-- The weighted average of the historical and the new scores. -/
def AnalysisMetrics.weighted (old new : AnalysisMetrics) : AnalysisMetrics where
  mutualRespectScore := old.mutualRespectScore * weightOld + new.mutualRespectScore * weightNew
  conflictManagementScore :=
    old.conflictManagementScore * weightOld + new.conflictManagementScore * weightNew
  logicalProblemScore :=
    old.logicalProblemScore * weightOld + new.logicalProblemScore * weightNew
  reviewGuidingScore := old.reviewGuidingScore * weightOld + new.reviewGuidingScore * weightNew
  documentationScore := old.documentationScore * weightOld + new.documentationScore * weightNew
  knowledgeSharingScore :=
    old.knowledgeSharingScore * weightOld + new.knowledgeSharingScore * weightNew
  technicalInfluenceScore :=
    old.technicalInfluenceScore * weightOld + new.technicalInfluenceScore * weightNew
  codeStabilityScore := old.codeStabilityScore * weightOld + new.codeStabilityScore * weightNew

def UserStat.updated (newMetrics : AnalysisMetrics) (stat : UserStat) : UserStat :=
  { stat with
    scores := stat.scores.weighted newMetrics
    analysisCount := stat.analysisCount + 1 }

theorem UserStat.updated_userId (newMetrics : AnalysisMetrics) (stat : UserStat) :
    (stat.updated newMetrics).userId = stat.userId := rfl

def updatedStats (userStats : Table UserStat.userId) (userId : UserId)
    (newMetrics : AnalysisMetrics) : Table UserStat.userId :=
  userStats.updateMany (fun stat => decide (stat.userId = userId))
    (UserStat.updated newMetrics) (UserStat.updated_userId newMetrics)

/-- `StatService.updateStats`, after it has taken the lock of the user. -/
def updateStats (userId : UserId) (newMetrics : AnalysisMetrics) : Tx Unit :=
  Tx.statement fun db _ =>
    match db.userStats.find? userId with
    | none =>
        match db.userStats.insert? ⟨userId, newMetrics, 1⟩ with
        | some userStats => .ok ((), { db with userStats := userStats })
        | none => .error (.prismaKnownRequest "P2002")
    | some _ =>
        .ok ((), { db with userStats := updatedStats db.userStats userId newMetrics })

/-- The number of analyses counted for a user. -/
def analysisCount (userStats : Table UserStat.userId) (userId : UserId) : Nat :=
  ((userStats.find? userId).map UserStat.analysisCount).getD 0

/-- One analysis more is counted for the user, and nobody else's statistics
change. -/
theorem updateStats_ok {userId : UserId} {newMetrics : AnalysisMetrics} {result : Unit}
    {session later : Session} (done : updateStats userId newMetrics session = .ok (result, later)) :
    Exists fun userStats => later.db = { session.db with userStats := userStats } ∧
      later.environment = session.environment ∧
      forall other, analysisCount userStats other =
        analysisCount session.db.userStats other + if other = userId then 1 else 0 := by
  have ran := Tx.statement_ok done
  have names : Table.Names UserStat.userId (fun stat => decide (stat.userId = userId)) userId :=
    fun stat selected => of_decide_eq_true selected
  cases found : session.db.userStats.find? userId with
  | none =>
      rw [found] at ran
      by_cases fresh : (⟨userId, newMetrics, 1⟩ : UserStat).userId ∉
          session.db.userStats.rows.map UserStat.userId
      · simp only [Table.insert?, dif_pos fresh, Except.ok.injEq, Prod.mk.injEq, true_and] at ran
        refine ⟨_, ran.1.symm, ran.2, fun other => ?_⟩
        simp only [analysisCount, Table.find?_insert]
        by_cases same : userId = other
        · subst same
          simp only [found, if_true, Option.map_some, Option.getD_some, Option.map_none,
            Option.getD_none]
        · rw [if_neg same, if_neg (fun reverse => same reverse.symm), Nat.add_zero]
      · simp only [Table.insert?, dif_neg fresh, reduceCtorEq, false_and] at ran
  | some stat =>
      rw [found] at ran
      simp only [Except.ok.injEq, Prod.mk.injEq, true_and] at ran
      refine ⟨_, ran.1.symm, ran.2, fun other => ?_⟩
      by_cases same : other = userId
      · subst same
        have counted : (updatedStats session.db.userStats other newMetrics).find? other =
            some (stat.updated newMetrics) :=
          Table.find?_compareAndSet found (decide_eq_true (Table.key_of_find? found))
        simp only [analysisCount, counted, found, Option.map_some, Option.getD_some, if_true]
        rfl
      · have untouched : (updatedStats session.db.userStats userId newMetrics).find? other =
            session.db.userStats.find? other := Table.find?_compareAndSet_ne names same
        simp only [analysisCount, untouched, if_neg same, Nat.add_zero]

/-! ## Success -/

structure SaveAnalysisResultInput where
  userId : UserId
  repositoryId : RepositoryId
  jobId : JobId
  leaseToken : Uuid
  reservedTokens : Int
  usage : AnalysisTokenUsage
  providerRequestId : String
  result : LlmAnalysisResult
  metrics : AnalysisMetrics
  completionAction : Option CompletionAction
  /-- History variable: the data the result was computed from. -/
  collected : CollectedData
  deriving DecidableEq, Repr

namespace SaveAnalysisResultInput

def report (input : SaveAnalysisResultInput) (reportId : Nat) : AnalysisReport where
  id := reportId
  userId := input.userId
  repositoryId := input.repositoryId
  metrics := input.result
  jobId := some input.jobId
  collected := input.collected

def transition (input : SaveAnalysisResultInput) (reportId : Nat) (completedAt : Instant) :
    TransitionAnalysisJobInput :=
  .succeed input.jobId input.leaseToken input.userId input.repositoryId input.reservedTokens
    ⟨completedAt, completedAt, input.usage, [input.providerRequestId]⟩ reportId

end SaveAnalysisResultInput

/-- `tx.analysisReport.create`, with the unique index on `jobId` and the
foreign keys. -/
def createReport (input : SaveAnalysisResultInput) : Tx Nat :=
  Tx.statement fun db environment =>
    if (db.findUser input.userId).isNone || (db.findRepository input.repositoryId).isNone ||
        (db.findJob input.jobId).isNone then
      .error (.prismaKnownRequest "P2003")
    else if (db.linkedReport input.jobId).isSome then .error (.prismaKnownRequest "P2002")
    else
      match db.analysisReports.insert? (input.report environment.generated) with
      | some reports => .ok (environment.generated, { db with analysisReports := reports })
      | none => .error (.prismaKnownRequest "P2002")

/-- The success transaction of `executeAnalysis`. -/
def saveAnalysisResult (input : SaveAnalysisResultInput) : Tx Unit := do
  let reportId <- createReport input
  updateStats input.userId input.metrics
  refundTokens input.userId (input.reservedTokens - input.usage.totalTokens) true
  let completedAt <- Tx.currentDate
  transition (input.transition reportId completedAt)
  runCompletionAction input.completionAction

theorem createReport_ok {input : SaveAnalysisResultInput} {reportId : Nat}
    {session later : Session} (done : createReport input session = .ok (reportId, later)) :
    reportId = session.environment.generated ∧
    session.db.linkedReport input.jobId = none ∧
    later.environment = session.environment ∧
    Exists fun fresh : (input.report reportId).id ∉
        session.db.analysisReports.rows.map AnalysisReport.id =>
      later.db = { session.db with
        analysisReports := session.db.analysisReports.insert (input.report reportId) fresh } := by
  rcases Tx.statement_ok done with ⟨ran, environment⟩
  split at ran
  · cases ran
  · split at ran
    · cases ran
    · rename_i unlinked
      by_cases fresh : (input.report session.environment.generated).id ∉
          session.db.analysisReports.rows.map AnalysisReport.id
      · simp only [Table.insert?, dif_pos fresh, Except.ok.injEq, Prod.mk.injEq] at ran
        rcases ran with ⟨rfl, inserted⟩
        refine ⟨rfl, ?_, environment, fresh, inserted.symm⟩
        simpa only [Option.not_isSome_iff_eq_none] using unlinked
      · simp only [Table.insert?, dif_neg fresh, reduceCtorEq] at ran

/-- A success that was committed stored one report for a job without one,
counted one analysis, refunded the rest of the reservation and ended the job
behind its lease. -/
theorem saveAnalysisResult_ok {input : SaveAnalysisResultInput} {result : Unit}
    {session later : Session} (done : saveAnalysisResult input session = .ok (result, later)) :
    Exists fun reportId => Exists fun fresh : (input.report reportId).id ∉
        session.db.analysisReports.rows.map AnalysisReport.id =>
    Exists fun userStats => Exists fun linkedReport : JobId -> Option Nat =>
      session.db.linkedReport input.jobId = none ∧
      (forall other, analysisCount userStats other =
        analysisCount session.db.userStats other + if other = input.userId then 1 else 0) ∧
      (0 < input.reservedTokens - input.usage.totalTokens ->
        Exists fun user => session.db.findUser input.userId = some user) ∧
      validateTransitionInput
        (input.transition reportId session.environment.application) = .ok () ∧
      (Exists fun job => session.db.findJob input.jobId = some job ∧
        (transitionStatus linkedReport
          (input.transition reportId session.environment.application)).guard job = true) ∧
      later.db = {
        users := refundedUsers session.db.users input.userId
          (input.reservedTokens - input.usage.totalTokens) true
        repositories := completed input.completionAction session.db.repositories
        analysisJobs := (transitionStatus linkedReport
          (input.transition reportId session.environment.application)).apply
            session.environment.application session.db.analysisJobs
        analysisReports := session.db.analysisReports.insert (input.report reportId) fresh
        userStats := userStats } := by
  unfold saveAnalysisResult at done
  rcases Tx.bind_ok done with ⟨reportId, reported, reportRan, afterReport⟩
  rcases createReport_ok reportRan with ⟨_, unlinked, reportEnvironment, fresh, reportDb⟩
  rcases Tx.bind_ok afterReport with ⟨_, counted, statRan, afterStat⟩
  rcases updateStats_ok statRan with ⟨userStats, statDb, statEnvironment, statCount⟩
  rcases Tx.bind_ok afterStat with ⟨_, refunded, refundRan, afterRefund⟩
  rcases refundTokens_ok refundRan with ⟨refundOwner, refundDb, refundEnvironment⟩
  rcases Tx.bind_ok afterRefund with ⟨completedAt, dated, dateRan, afterDate⟩
  rcases Tx.currentDate_ok dateRan with ⟨rfl, rfl⟩
  rcases Tx.bind_ok afterDate with ⟨_, ended, transitionRan, actionRan⟩
  rcases transition_ok transitionRan with ⟨valid, held, endedDb, _⟩
  have actionDb := runCompletionAction_ok actionRan
  have sameEnvironment := (refundEnvironment.trans statEnvironment).trans reportEnvironment
  rw [reportDb] at statDb statCount
  rw [statDb] at refundOwner refundDb
  rw [sameEnvironment] at valid
  rw [refundDb, sameEnvironment] at held endedDb
  rw [endedDb] at actionDb
  exact ⟨reportId, fresh, userStats, _, unlinked, statCount, fun positive => refundOwner rfl positive,
    valid, held, actionDb⟩

/-! ## The worker's settlement of an unbilled failure -/

/-- `expectedStatus` and `expectedLeaseToken`: the callers expect a queued job
without a lease or a running job under a given lease. -/
inductive ExpectedState where
  | queued
  | running (leaseToken : Uuid)
  deriving DecidableEq, Repr

def ExpectedState.status : ExpectedState -> AnalysisJobStatus
  | .queued => .queued
  | .running _ => .running

/-- The lease is compared for a running job only. -/
def ExpectedState.leaseMatches : ExpectedState -> AnalysisJob -> Bool
  | .queued, _ => true
  | .running leaseToken, job => job.leaseToken == some leaseToken

structure SettleFailureInput where
  jobId : JobId
  expected : ExpectedState
  completedAt : Instant
  errorCode : ErrorCode
  errorMessage : String
  errorRetryable : Bool
  deriving DecidableEq, Repr

def settleFailureRow (input : SettleFailureInput) : RowUpdate where
  jobId := input.jobId
  guard job := job.status == input.expected.status && job.tokensSettledAt == none &&
    input.expected.leaseMatches job
  data now job :=
    { job with
      status := .failed
      stage := none
      promptTokens := some 0
      completionTokens := some 0
      totalTokens := some 0
      tokensSettledAt := some input.completedAt
      leaseToken := none
      leaseExpiresAt := none
      heartbeatAt := none
      nextPublishAt := none
      completedAt := some input.completedAt
      lastErrorCode := some input.errorCode
      lastErrorMessage := some input.errorMessage
      errorRetryable := some input.errorRetryable
      updatedAt := now }
  keeps _ _ := rfl

/-- The part of `settleFailure` after the row was found in its expected
state. -/
def settleExpectedFailure (input : SettleFailureInput) (job : AnalysisJob) : Tx Bool := do
  ensure (!job.hasProviderBillingEvidence) (.billedAnalysisJobRequiresReconciliation input.jobId)
  let terminalized <- updateJob (settleFailureRow input)
  ensure terminalized (.staleAnalysisWorkerLease input.jobId)
  refundTokens job.userId (job.reservedTokens.getD 0) true
  pure true

/-- The transaction of `settleFailure`. -/
def settleFailure (input : SettleFailureInput) : Tx Bool := do
  let row <- select fun db => db.findJob input.jobId
  match row with
  | none => pure false
  | some job =>
      if job.status ≠ input.expected.status ∨ job.tokensSettledAt ≠ none ∨
          input.expected.leaseMatches job = false then
        pure false
      else settleExpectedFailure input job

/-- A settlement that answers `true` failed its unbilled job behind the fence
and refunded the reservation; one that answers `false` wrote nothing. -/
theorem settleFailure_ok {input : SettleFailureInput} {result : Bool} {session later : Session}
    (done : settleFailure input session = .ok (result, later)) :
    result = false ∧ later.db = session.db ∨
    result = true ∧ Exists fun job => session.db.findJob input.jobId = some job ∧
      (settleFailureRow input).guard job = true ∧
      job.hasProviderBillingEvidence = false ∧
      (0 < job.reservedTokens.getD 0 ->
        Exists fun user => session.db.findUser job.userId = some user) ∧
      later.db = { session.db with
        users := refundedUsers session.db.users job.userId (job.reservedTokens.getD 0) true
        analysisJobs := (settleFailureRow input).apply session.environment.application
          session.db.analysisJobs } := by
  unfold settleFailure at done
  rcases Tx.bind_ok done with ⟨row, read, readRan, afterRead⟩
  rcases select_ok readRan with ⟨rfl, readDb, readEnvironment⟩
  cases found : session.db.findJob input.jobId with
  | none =>
      rw [found] at afterRead
      rcases Tx.pure_ok afterRead with ⟨rfl, rfl⟩
      exact Or.inl ⟨rfl, readDb⟩
  | some job =>
      rw [found] at afterRead
      simp only at afterRead
      split at afterRead
      · rcases Tx.pure_ok afterRead with ⟨rfl, rfl⟩
        exact Or.inl ⟨rfl, readDb⟩
      · unfold settleExpectedFailure at afterRead
        rcases Tx.bind_ok afterRead with ⟨_, checked, checkRan, afterCheck⟩
        rcases ensure_ok checkRan with ⟨unbilled, rfl⟩
        rcases Tx.bind_ok afterCheck with ⟨terminalized, ended, updateRan, afterUpdate⟩
        rcases updateJob_ok updateRan with ⟨counted, endedDb, _⟩
        rcases Tx.bind_ok afterUpdate with ⟨_, ensured, ensureRan, afterEnsure⟩
        rcases ensure_ok ensureRan with ⟨applied, rfl⟩
        rcases Tx.bind_ok afterEnsure with ⟨_, refunded, refundRan, finished⟩
        rcases refundTokens_ok refundRan with ⟨owner, refundDb, _⟩
        rcases Tx.pure_ok finished with ⟨rfl, rfl⟩
        rw [readDb, readEnvironment] at endedDb
        rw [readDb] at counted
        rw [endedDb] at owner refundDb
        rcases RowUpdate.applies_iff.mp (counted.symm.trans applied) with ⟨other, sameRow, guarded⟩
        have same : other = job := Option.some.inj (sameRow.symm.trans found)
        rw [same] at guarded
        refine Or.inr ⟨rfl, job, rfl, guarded, ?_, fun positive => owner rfl positive, refundDb⟩
        simpa only [Bool.not_eq_true'] using unbilled

end GitMate
