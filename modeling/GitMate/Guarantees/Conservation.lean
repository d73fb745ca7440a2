import GitMate.Service.Runs

namespace GitMate

open Relational Interleaving Machine

/-!
# Conservation of tokens

A job holds tokens of its user from its reservation on: the reservation until
it is settled, and what was used from then on.  Every transaction moves the
balance of a user by exactly the change of what the jobs of that user hold, so
balance and holdings together are constant over every run.
-/

/-- The tokens that a job holds. -/
def AnalysisJob.charge (job : AnalysisJob) : Int :=
  match job.reservedTokens, job.tokensSettledAt with
  | none, _ => 0
  | some reserved, none => reserved
  | some _, some _ => job.totalTokens.getD 0

/-- The part of a job's charge that is one user's. -/
def AnalysisJob.chargeTo (userId : UserId) (job : AnalysisJob) : Int :=
  if job.userId = userId then job.charge else 0

/-- The tokens that the jobs of a user hold. -/
def Database.charged (db : Database) (userId : UserId) : Int :=
  db.analysisJobs.total (AnalysisJob.chargeTo userId)

/-! ## Balances after a refund or a debit -/

/-- The tokens moved by a transfer that is made only under a condition and
only when its amount is positive. -/
def moved (condition : Bool) (amount : Int) : Int := if condition then max 0 amount else 0

theorem balance_refundedUsers {users : Table User.id} {userId : UserId} {amount : Int}
    {settled : Bool}
    (owner : settled = true -> 0 < amount -> Exists fun user => users.find? userId = some user)
    (other : UserId) :
    balance (refundedUsers users userId amount settled) other =
      balance users other + if other = userId then moved settled amount else 0 := by
  unfold refundedUsers moved
  cases settled with
  | false => simp only [Bool.false_and, Bool.false_eq_true, if_false, ite_self, add_zero]
  | true =>
      by_cases positive : 0 < amount
      · rcases owner rfl positive with ⟨user, found⟩
        simp only [positive, decide_true, Bool.and_self, if_true, balance_creditedUsers found,
          max_eq_right positive.le]
      · simp only [positive, decide_false, Bool.and_false, Bool.false_eq_true, if_false,
          max_eq_left (not_lt.mp positive), ite_self, add_zero]

/-- An additional debit takes exactly what it moves, and no more than there
is. -/
theorem AdditionalDebit.balance {input : TerminateWorkerJobInput} {users debited : Table User.id}
    {paid : Bool} (debit : AdditionalDebit input users paid debited) (other : UserId) :
    GitMate.balance debited other = GitMate.balance users other -
        (if other = input.userId then moved paid input.additionalDebitTokens else 0) ∧
      (0 ≤ GitMate.balance users input.userId ->
        moved paid input.additionalDebitTokens ≤ GitMate.balance users input.userId) := by
  unfold AdditionalDebit at debit
  unfold moved
  by_cases positive : 0 < input.additionalDebitTokens
  · rw [if_pos positive] at debit
    rcases debit with ⟨answer, rfl⟩
    by_cases affordable :
        users.countWhere (canPay input.userId input.additionalDebitTokens) = 1
    · have debited := balance_debitedUsers affordable other
      simp only [answer, affordable, beq_self_eq_true, if_true, max_eq_right positive.le]
      exact ⟨debited.2, fun _ => debited.1⟩
    · rw [debitedUsers_of_refused affordable]
      simp only [answer, beq_eq_false_iff_ne.mpr affordable, Bool.false_eq_true, if_false,
        ite_self, sub_zero, true_and]
      exact fun nonneg => nonneg
  · rw [if_neg positive] at debit
    rcases debit with ⟨rfl, rfl⟩
    simp only [max_eq_left (not_lt.mp positive), ite_self, sub_zero, true_and]
    exact fun nonneg => nonneg

/-! ## Charges after an update -/

/-- A guarded update that is a statement of its own moves no tokens and
changes no charge. -/
theorem JobUpdate.charge_data {change : JobUpdate} {job : AnalysisJob}
    (wellFormed : job.WellFormed) (guarded : change.row.guard job = true) (now : Instant) :
    (change.row.data now job).charge = job.charge := by
  have unsettled := (wellFormed.unsettled (JobUpdate.guard_active guarded)).2
  cases change with
  | recordFailure input =>
      simp only [JobUpdate.row, GitMate.recordFailure] at guarded ⊢
      by_cases terminating : input.terminate = true
      · simp only [terminating, Bool.not_true, Bool.false_or, Bool.and_eq_true, beq_iff_eq]
          at guarded
        simp only [terminating, if_true, AnalysisJob.charge, AnalysisJob.publishFailed, guarded.2]
      · simp only [terminating, if_false, Bool.false_eq_true]
        rfl
  | recordProviderCharge input =>
      simp only [JobUpdate.row, recordProviderChargeRow, AnalysisJob.charge, unsettled]
      cases job.reservedTokens <;> rfl
  | start | claimQueued | takeOverExpiredLease | takeOverExpiredBilledLease | updateProgress
  | releaseForRetry | claimAttempt | markPublished => rfl

/-- The charge of a row moves by the reservation when it is reserved. -/
theorem reserveTokensRow_charge {input : ReserveAnalysisJobTokensInput} {job : AnalysisJob}
    (guarded : (reserveTokensRow input).guard job = true) (now : Instant) :
    job.charge = 0 ∧ ((reserveTokensRow input).data now job).charge = input.reservedTokens := by
  have held := reserveTokensRow_guard guarded
  constructor
  · simp only [AnalysisJob.charge, held.2.2.2.2.1]
  · simp only [AnalysisJob.charge, reserveTokensRow, held.2.2.2.2.2]

/-- A termination moves exactly the change of the charge. -/
theorem terminate_charge {linkedReport : JobId -> Option Nat} {input : TerminateWorkerJobInput}
    {paid : Bool} {job : AnalysisJob} (balanced : input.Balanced) (wellFormed : job.WellFormed)
    (usable : (input.tokensSettled && paid) = true -> input.usage.isSome = true)
    (guarded : (transitionStatus linkedReport (input.transition paid)).guard job = true)
    (now : Instant) :
    moved (input.tokensSettled && paid) input.refundTokens -
        moved paid input.additionalDebitTokens =
      job.charge -
        ((transitionStatus linkedReport (input.transition paid)).data now job).charge := by
  have held := transitionStatus_failRunning_guard guarded
  have after : ((transitionStatus linkedReport (input.transition paid)).data now job).charge =
      match job.reservedTokens, (input.failure paid).tokensSettledAt with
      | none, _ => 0
      | some reserved, none => reserved
      | some _, some _ => (input.failure paid).totalTokens.getD 0 := rfl
  have before : job.charge = job.reservedTokens.getD 0 := by
    unfold AnalysisJob.charge
    rw [held.2.2.2.2.2]
    cases job.reservedTokens <;> rfl
  rw [after, before]
  cases reservation : job.reservedTokens with
  | none =>
      -- Nothing is reserved, so nothing may be refunded or debited.
      have nothing := balanced.unreserved (held.2.2.2.2.1.symm.trans reservation)
      simp only [moved, max_eq_left nothing.1, max_eq_left nothing.2, ite_self, Option.getD_none]
  | some reserved =>
      have context := held.2.2.2.2.1.symm.trans reservation
      have nonneg := wellFormed.reserved reserved reservation
      simp only [TerminateWorkerJobInput.failure, Option.getD_some]
      cases settled : input.tokensSettled with
      | false =>
          simp only [Bool.false_and, moved, Bool.false_eq_true, if_false,
            max_eq_left (balanced.unsettled settled), ite_self, sub_self]
      | true =>
          cases paid with
          | false => simp only [Bool.and_false, moved, Bool.false_eq_true, if_false, sub_self]
          | true =>
              rw [settled] at usable
              rcases Option.isSome_iff_exists.mp (usable rfl) with ⟨usage, used⟩
              simp only [Bool.and_self, moved, if_true, used, Option.map_some, Option.getD_some]
              rcases balanced.settled settled usage reserved used context with
                ⟨unbilled, refund, enough⟩ | ⟨nothing, additional, exceeded⟩
              · have fits := enough nonneg
                rw [max_eq_left unbilled, refund]
                omega
              · rw [max_eq_left nothing, additional]
                omega

/-- A success refunds the part of the reservation that was not used. -/
theorem succeed_charge {linkedReport : JobId -> Option Nat} {input : SaveAnalysisResultInput}
    {reportId : Nat} {completedAt : Instant} {job : AnalysisJob}
    (enough : input.usage.totalTokens ≤ input.reservedTokens)
    (guarded : (transitionStatus linkedReport (input.transition reportId completedAt)).guard job =
      true) (now : Instant) :
    moved true (input.reservedTokens - input.usage.totalTokens) =
      job.charge - ((transitionStatus linkedReport
        (input.transition reportId completedAt)).data now job).charge := by
  have held := transitionStatus_succeed_guard guarded
  have before : job.charge = input.reservedTokens := by
    simp only [AnalysisJob.charge, held.2.2.2.2.2.1, held.2.2.2.2.2.2]
  have after : ((transitionStatus linkedReport (input.transition reportId completedAt)).data now
      job).charge = input.usage.totalTokens := by
    simp only [AnalysisJob.charge, transitionStatus, toTransitionData,
      SaveAnalysisResultInput.transition, AnalysisJob.terminated, held.2.2.2.2.2.1,
      Option.getD_some]
  rw [before, after, moved, if_pos rfl]
  omega

/-- The worker's settlement refunds everything that was reserved. -/
theorem settleFailure_charge {input : SettleFailureInput} {job : AnalysisJob}
    (wellFormed : job.WellFormed) (guarded : (settleFailureRow input).guard job = true)
    (now : Instant) :
    moved true (job.reservedTokens.getD 0) =
      job.charge - ((settleFailureRow input).data now job).charge := by
  have held := settleFailureRow_guard guarded
  simp only [AnalysisJob.charge, settleFailureRow, held.2.1, moved, if_true]
  cases reservation : job.reservedTokens with
  | none => rfl
  | some reserved =>
      have nonneg := wellFormed.reserved reserved reservation
      simp only [Option.getD_some]
      omega

/-! ## Every command conserves tokens -/

/-- The charges of a user after one row was rewritten. -/
theorem charged_apply (update : RowUpdate) {db : Database} {job : AnalysisJob}
    (found : db.findJob update.jobId = some job) (guarded : update.guard job = true)
    (now : Instant) (sameUser : (update.data now job).userId = job.userId) (userId : UserId) :
    (update.apply now db.analysisJobs).total (AnalysisJob.chargeTo userId) =
      db.analysisJobs.total (AnalysisJob.chargeTo userId) -
        if userId = job.userId then job.charge - (update.data now job).charge else 0 := by
  have selected := RowUpdate.selects_iff.mpr ⟨Table.key_of_find? found, guarded⟩
  have rewritten : (update.apply now db.analysisJobs).total (AnalysisJob.chargeTo userId) = _ :=
    Table.total_compareAndSet update.names found selected
  rw [rewritten]
  simp only [AnalysisJob.chargeTo, sameUser]
  by_cases same : job.userId = userId
  · subst same
    simp only [if_true]
    omega
  · simp only [if_neg same, if_neg (fun reverse => same (Eq.symm reverse)), sub_self, add_zero,
      sub_zero]

theorem charged_recoverStaleTable (repositoryId : RepositoryId) (completedAt : Instant)
    (jobs : Table AnalysisJob.id) (userId : UserId) :
    (recoverStaleTable repositoryId completedAt jobs).total (AnalysisJob.chargeTo userId) =
      jobs.total (AnalysisJob.chargeTo userId) := by
  have first : forall job, isStaleUnreserved repositoryId completedAt job = true ->
      (failStaleUnreserved completedAt job).chargeTo userId = job.chargeTo userId := by
    intro job stale
    have same : (failStaleUnreserved completedAt job).charge = job.charge := by
      simp only [AnalysisJob.charge, failStaleUnreserved, (isStaleUnreserved_spec stale).2.1]
    simp only [AnalysisJob.chargeTo, same]
    rfl
  have second : forall job, isStaleReserved repositoryId completedAt job = true ->
      (failStaleReserved completedAt job).chargeTo userId = job.chargeTo userId := by
    intro job stale
    have same : (failStaleReserved completedAt job).charge = job.charge := by
      simp only [AnalysisJob.charge, failStaleReserved, (isStaleReserved_spec stale).2.2.2.1]
    simp only [AnalysisJob.chargeTo, same]
    rfl
  unfold recoverStaleTable
  rw [Table.total_updateMany_of_eq fun job _ stale => second job stale,
    Table.total_updateMany_of_eq fun job _ stale => first job stale]

/-- What a user has and what the jobs of that user hold. -/
def Database.holdings (db : Database) (userId : UserId) : Int :=
  balance db.users userId + db.charged userId

/-- A command moves the balance of a user by the change of the charges. -/
theorem Committed.conserves {environment : Environment} {db after : Database} {command : Command}
    (committed : Committed environment db command after) (sound : command.Sound)
    (wellFormed : forall id job, db.findJob id = some job -> job.WellFormed) (userId : UserId) :
    after.holdings userId = db.holdings userId := by
  unfold Database.holdings Database.charged
  cases committed with
  | @updated change job found guarded =>
      have sameUser : (change.row.data environment.application job).userId = job.userId :=
        congrArg JobIdentity.userId (JobUpdate.identity_data change _ job)
      have same := JobUpdate.charge_data (wellFormed _ _ found) guarded environment.application
      have charges := charged_apply change.row found guarded environment.application sameUser userId
      simp only [charges, same, sub_self, ite_self, sub_zero]
  | @created input repository found exclusive unused fresh =>
      have unreserved : (newJob input environment).chargeTo userId = 0 := by
        unfold AnalysisJob.chargeTo
        exact ite_self 0
      simp only [Table.total_insert, charged_recoverStaleTable, unreserved, add_zero]
  | @reserved input job paid valid found guarded =>
      have held := reserveTokensRow_guard guarded
      have amounts := reserveTokensRow_charge guarded environment.application
      have debited := (balance_debitedUsers paid userId).2
      have charges := charged_apply (reserveTokensRow input) found guarded environment.application rfl
        userId
      simp only [charges, debited, amounts.1, amounts.2, held.2.2.1]
      split <;> omega
  | @terminated input paid debited job debit usable owner valid found guarded =>
      have held := transitionStatus_failRunning_guard guarded
      have amounts := terminate_charge sound (wellFormed _ _ found) usable guarded
        environment.application
      have refunded := balance_refundedUsers owner userId
      have charges := charged_apply (transitionStatus db.linkedReport (input.transition paid))
        found guarded environment.application rfl userId
      simp only [charges, refunded, (debit.balance userId).1, held.2.2.1]
      split <;> omega
  | @saved input reportId userStats linkedReport job fresh unlinked counted owner valid found
      guarded =>
      have held := transitionStatus_succeed_guard guarded
      have amounts := succeed_charge sound guarded environment.application
      have refunded : balance (refundedUsers db.users input.userId _ true) userId = _ :=
        balance_refundedUsers (fun _ => owner) userId
      have charges := charged_apply (transitionStatus linkedReport (input.transition reportId
        environment.application)) found guarded environment.application rfl userId
      simp only [charges, refunded, held.2.2.2.1]
      split <;> omega
  | @settled input job found guarded unbilled owner =>
      have amounts := settleFailure_charge (wellFormed _ _ found) guarded environment.application
      have refunded : balance (refundedUsers db.users job.userId _ true) userId = _ :=
        balance_refundedUsers (fun _ => owner) userId
      have charges := charged_apply (settleFailureRow input) found guarded environment.application rfl
        userId
      simp only [charges, refunded]
      split <;> omega
  | relisted => rfl
  | listed => rfl

/-- A command overdraws no balance. -/
theorem Committed.solvent {environment : Environment} {db after : Database} {command : Command}
    (committed : Committed environment db command after) {userId : UserId}
    (solvent : 0 ≤ balance db.users userId) : 0 ≤ balance after.users userId := by
  have refund_nonneg : forall settled amount, 0 ≤ moved settled amount := by
    intro settled amount
    unfold moved
    split <;> omega
  cases committed with
  | @reserved input job paid valid found guarded =>
      have debited := balance_debitedUsers paid userId
      simp only [debited.2]
      by_cases same : userId = input.expectedUserId
      · rw [if_pos same]
        rw [← same] at debited
        omega
      · rw [if_neg same]
        omega
  | @terminated input paid debited job debit usable owner valid found guarded =>
      have debitedBalance := debit.balance userId
      have refunded := refund_nonneg (input.tokensSettled && paid) input.refundTokens
      simp only [balance_refundedUsers owner, debitedBalance.1]
      by_cases same : userId = input.userId
      · rw [if_pos same, if_pos same]
        rw [← same] at debitedBalance
        have affordable := debitedBalance.2 solvent
        omega
      · rw [if_neg same, if_neg same]
        omega
  | @saved input reportId userStats linkedReport job fresh unlinked counted owner valid found
      guarded =>
      have gained := refund_nonneg true (input.reservedTokens - input.usage.totalTokens)
      have refunded : balance (refundedUsers db.users input.userId _ true) userId = _ :=
        balance_refundedUsers (fun _ => owner) userId
      simp only [refunded]
      split <;> omega
  | @settled input job found guarded unbilled owner =>
      have gained := refund_nonneg true (job.reservedTokens.getD 0)
      have refunded : balance (refundedUsers db.users job.userId _ true) userId = _ :=
        balance_refundedUsers (fun _ => owner) userId
      simp only [refunded]
      split <;> omega
  | updated | created | relisted | listed => exact solvent

/-! ## Settlements -/

/-- The job that a command settles or refunds. -/
def Command.settles : Command -> Option JobId
  | .terminateWorkerJob input => some input.jobId
  | .saveAnalysisResult input => some input.jobId
  | .settleFailure input => some input.jobId
  | _ => none

/-- A settlement that takes effect finds its job active and ends it. -/
theorem Committed.settles {environment : Environment} {db after : Database} {command : Command}
    {jobId : JobId} (committed : Committed environment db command after)
    (settlement : command.settles = some jobId) :
    (Exists fun job => db.findJob jobId = some job ∧ job.isActive = true) ∧
      Exists fun later => after.findJob jobId = some later ∧ later.isActive = false := by
  have ends : forall (update : RowUpdate) (job : AnalysisJob), update.jobId = jobId ->
      db.findJob update.jobId = some job -> update.guard job = true -> job.isActive = true ->
      (update.data environment.application job).isActive = false ->
      (Exists fun job => db.findJob jobId = some job ∧ job.isActive = true) ∧
        Exists fun later => (update.apply environment.application db.analysisJobs).find? jobId =
          some later ∧ later.isActive = false := by
    rintro update job rfl found guarded active ended
    exact ⟨⟨job, found, active⟩, _, RowUpdate.find?_apply found guarded, ended⟩
  cases committed with
  | @terminated input paid debited job debit usable owner valid found guarded =>
      have held := transitionStatus_failRunning_guard guarded
      exact ends (transitionStatus db.linkedReport (input.transition paid)) job
        (Option.some.inj settlement) found guarded (AnalysisJob.isActive_iff.mpr (Or.inr held.1)) rfl
  | @saved input reportId userStats linkedReport job fresh unlinked counted owner valid found
      guarded =>
      have held := transitionStatus_succeed_guard guarded
      exact ends (transitionStatus linkedReport (input.transition reportId
        environment.application)) job (Option.some.inj settlement) found guarded
        (AnalysisJob.isActive_iff.mpr (Or.inr held.1)) rfl
  | @settled input job found guarded unbilled owner =>
      have held := settleFailureRow_guard guarded
      have active : job.isActive = true := by
        rw [AnalysisJob.isActive_iff, held.1]
        cases input.expected with
        | queued => exact Or.inl rfl
        | running leaseToken => exact Or.inr rfl
      exact ends (settleFailureRow input) job (Option.some.inj settlement) found guarded active rfl
  | updated | created | reserved | relisted | listed => cases settlement

section Runs

variable {deployment : Deployment} {first last : SystemState deployment}
  {steps : List (Transition (gitMate deployment))}

/-- A step that attempts to settle or to refund a job. -/
def Attempts (step : Transition (gitMate deployment)) (jobId : JobId) : Prop :=
  Exists fun index => Exists fun choice => Exists fun order : Command =>
    step.label = .act index choice ∧ step.before.pending index = some (.command order) ∧
      order.settles = some jobId

/-- An attempt to settle a job leaves the database alone, or it ends the
active job. -/
theorem Attempts.effect {step : Transition (gitMate deployment)} {jobId : JobId}
    (attempts : Attempts step jobId) (stepped : step.before.step step.label = some step.after) :
    step.after.db = step.before.db ∨
      (Exists fun job => step.before.db.findJob jobId = some job ∧
        job.isActive = true) ∧
      Exists fun later => step.after.db.findJob jobId = some later ∧
        later.isActive = false := by
  rcases attempts with ⟨index, choice, order, acts, pending, settlement⟩
  rw [acts] at stepped
  cases SystemState.databaseStep stepped with
  | quiet same => exact Or.inl same
  | performed performing committed =>
      rw [pending] at performing
      cases performing
      exact Or.inr (committed.settles settlement)

/-- Once a job has ended, every attempt to settle it leaves the database as it
is. -/
theorem Attempts.quiet {step : Transition (gitMate deployment)} {jobId : JobId} {job : AnalysisJob}
    (attempts : Attempts step jobId) (stepped : step.before.step step.label = some step.after)
    (found : step.before.db.findJob jobId = some job)
    (ended : job.isActive = false) : step.after.db = step.before.db := by
  rcases attempts.effect stepped with same | ⟨⟨other, sameRow, active⟩, _⟩
  · exact same
  · rw [found] at sameRow
    cases sameRow
    rw [ended] at active
    cases active

/-- In every run a user has what the user had at first, less what the jobs of
the user hold; no balance is overdrawn; and the settlement of a job takes
effect at most once: neither a second attempt nor an attempt on a job whose
tokens are settled changes anything. -/
theorem tokens_conserved (initial : first.Initial) (run : Execution first steps last) :
    (forall userId, balance last.db.users userId =
      balance first.db.users userId - last.db.charged userId) ∧
    (forall userId, 0 ≤ balance first.db.users userId -> 0 ≤ balance last.db.users userId) ∧
    (forall earlier settlement rest jobId, steps = earlier ++ settlement :: rest ->
      Attempts settlement jobId ->
      settlement.after.db ≠ settlement.before.db ->
      forall attempt, attempt ∈ rest -> Attempts attempt jobId ->
        attempt.after.db = attempt.before.db) ∧
    (forall attempt, attempt ∈ steps -> forall jobId job, Attempts attempt jobId ->
      attempt.before.db.findJob jobId = some job -> job.tokensSettledAt ≠ none ->
      attempt.after.db = attempt.before.db) := by
  refine ⟨fun userId => ?_, fun userId solvent => ?_, ?_, ?_⟩
  · have nothing : first.db.charged userId = 0 := by
      refine List.sum_eq_zero fun charge member => ?_
      rcases List.mem_map.mp member with ⟨job, row, rfl⟩
      have legacy := initial.db.legacy job row
      simp only [AnalysisJob.chargeTo, AnalysisJob.charge, legacy.2.2.1, ite_self]
    have conserved : last.db.holdings userId = first.db.holdings userId := by
      refine run.always
        (fun state => state.db.holdings userId = first.db.holdings userId) rfl
        fun earlier state label after reached held stepped => ?_
      cases ledgerStep initial reached stepped with
      | quiet same => rw [same]; exact held
      | performed _ _ _ _ _ sound _ committed =>
          rw [← held]
          exact committed.conserves sound
            (fun id job found => reachable_wellFormed initial reached found) userId
    unfold Database.holdings at conserved
    omega
  · refine run.always (fun state => 0 ≤ balance state.db.users userId) solvent
      fun earlier state label after reached held stepped => ?_
    cases SystemState.databaseStep stepped with
    | quiet same => rw [same]; exact held
    | performed pending committed => exact committed.solvent held
  · intro earlier settlement rest jobId same settles changed attempt later attempts
    rw [same] at run
    rcases run.around with ⟨_, stepped, following⟩
    rcases settles.effect stepped with unchanged | ⟨_, ended, found, final⟩
    · exact absurd unchanged changed
    · rcases following.reaches_step later with ⟨⟨between, reached⟩, attempted⟩
      exact attempts.quiet attempted (row_final reached found final) final
  · intro attempt member jobId job attempts found settled
    rcases run.reaches_step member with ⟨⟨before, reached⟩, attempted⟩
    refine attempts.quiet attempted found (Bool.eq_false_iff.mpr fun active => settled ?_)
    exact ((reachable_wellFormed initial reached found).unsettled active).2

/-- After the whole life of one job its user has paid for what was used. -/
theorem tokens_conserved_after_success :
    balance ((smallState DEFAULT_DEPLOYMENT).after successScript).db.users 1 = 1000000 - 1000 := by
  rcases State.after_run (show ((smallState DEFAULT_DEPLOYMENT).play successScript).isSome = true
    by decide +kernel) with ⟨steps, run⟩
  have conserved := (tokens_conserved (smallState_initial DEFAULT_DEPLOYMENT) run).1 1
  rw [conserved]
  decide +kernel

end Runs
end GitMate
