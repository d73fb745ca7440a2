import GitMate.Ledger.Commands

namespace GitMate

open Relational

/-!
# How rows evolve

`JobStep` lists what one command may do to one existing job row, and
`Committed.evolves` says that nothing else happens to the table of jobs: every
row takes a `JobStep`, and the only new row is the one a creation inserts.
The facts about rows that hold in every run are preserved by `JobStep`.
-/

inductive JobStep (environment : Environment) : Command -> AnalysisJob -> AnalysisJob -> Prop where
  | idle {command : Command} {job : AnalysisJob} : JobStep environment command job job
  | updated {change : JobUpdate} {job : AnalysisJob} (named : job.id = change.row.jobId)
      (guarded : change.row.guard job = true) :
      JobStep environment (.update change) job (change.row.data environment.application job)
  | recoveredUnreserved {input : CreateAnalysisJobRecordInput} {job : AnalysisJob}
      (stale : isStaleUnreserved input.repositoryId environment.application job = true) :
      JobStep environment (.createExclusive input) job
        (failStaleUnreserved environment.application job)
  | recoveredReserved {input : CreateAnalysisJobRecordInput} {job : AnalysisJob}
      (stale : isStaleReserved input.repositoryId environment.application job = true) :
      JobStep environment (.createExclusive input) job
        (failStaleReserved environment.application job)
  | reserved {input : ReserveAnalysisJobTokensInput} {job : AnalysisJob}
      (named : job.id = input.jobId) (valid : validateReserveTokens input = .ok ())
      (guarded : (reserveTokensRow input).guard job = true) :
      JobStep environment (.reserveWorkerTokens input) job
        ((reserveTokensRow input).data environment.application job)
  | terminated {input : TerminateWorkerJobInput} {paid : Bool} {linkedReport : JobId -> Option Nat}
      {job : AnalysisJob} (named : job.id = input.jobId)
      (valid : validateTransitionInput (input.transition paid) = .ok ())
      (guarded : (transitionStatus linkedReport (input.transition paid)).guard job = true) :
      JobStep environment (.terminateWorkerJob input) job
        ((transitionStatus linkedReport (input.transition paid)).data environment.application job)
  | saved {input : SaveAnalysisResultInput} {reportId : Nat} {linkedReport : JobId -> Option Nat}
      {job : AnalysisJob} (named : job.id = input.jobId)
      (valid : validateTransitionInput
        (input.transition reportId environment.application) = .ok ())
      (guarded : (transitionStatus linkedReport
        (input.transition reportId environment.application)).guard job = true) :
      JobStep environment (.saveAnalysisResult input) job
        ((transitionStatus linkedReport (input.transition reportId environment.application)).data
          environment.application job)
  | settled {input : SettleFailureInput} {job : AnalysisJob} (named : job.id = input.jobId)
      (guarded : (settleFailureRow input).guard job = true)
      (unbilled : job.hasProviderBillingEvidence = false) :
      JobStep environment (.settleFailure input) job
        ((settleFailureRow input).data environment.application job)

/-- What a guarded update does to the row with a given id. -/
theorem RowUpdate.find?_apply_of_find? {update : RowUpdate} {jobs : Table AnalysisJob.id}
    {now : Instant} {wanted : JobId} {job : AnalysisJob} (found : jobs.find? wanted = some job) :
    (update.apply now jobs).find? wanted = some job ∨
      job.id = update.jobId ∧ update.guard job = true ∧
        (update.apply now jobs).find? wanted = some (update.data now job) := by
  have image : (update.apply now jobs).find? wanted = _ := Table.find?_updateMany wanted
  rw [found, Option.map_some] at image
  by_cases selected : update.selects job = true
  · rw [if_pos selected] at image
    rcases RowUpdate.selects_iff.mp selected with ⟨named, guarded⟩
    exact Or.inr ⟨named, guarded, image⟩
  · rw [if_neg selected] at image
    exact Or.inl image

theorem RowUpdate.find?_apply_none {update : RowUpdate} {jobs : Table AnalysisJob.id}
    {now : Instant} {wanted : JobId} :
    (update.apply now jobs).find? wanted = none ↔ jobs.find? wanted = none := by
  have image : (update.apply now jobs).find? wanted = _ := Table.find?_updateMany wanted
  rw [image, Option.map_eq_none_iff]

/-- The row with a given id after a command: absent, inserted, or evolved from
the row before. -/
inductive JobFate (environment : Environment) (command : Command) :
    Option AnalysisJob -> Option AnalysisJob -> Prop where
  | absent : JobFate environment command none none
  | inserted {input : CreateAnalysisJobRecordInput} (creating : command = .createExclusive input) :
      JobFate environment command none (some (newJob input environment))
  | evolved {job later : AnalysisJob} (step : JobStep environment command job later) :
      JobFate environment command (some job) (some later)

/-- The fate of a row under a guarded update whose application is a
`JobStep`. -/
theorem RowUpdate.fate {update : RowUpdate} {jobs : Table AnalysisJob.id}
    {environment : Environment} {command : Command}
    (step : forall job, jobs.find? update.jobId = some job -> update.guard job = true ->
      JobStep environment command job (update.data environment.application job))
    (id : JobId) :
    JobFate environment command (jobs.find? id)
      ((update.apply environment.application jobs).find? id) := by
  cases found : jobs.find? id with
  | none =>
      rw [RowUpdate.find?_apply_none.mpr found]
      exact .absent
  | some job =>
      rcases RowUpdate.find?_apply_of_find? found with untouched | ⟨named, guarded, changed⟩
      · rw [untouched]
        exact .evolved .idle
      · rw [changed]
        have same : id = update.jobId := (Table.key_of_find? found).symm.trans named
        exact .evolved (step job (same ▸ found) guarded)

theorem recoverRow_step (environment : Environment) (input : CreateAnalysisJobRecordInput)
    (job : AnalysisJob) :
    JobStep environment (.createExclusive input) job
      (recoverRow input.repositoryId environment.application job) := by
  rcases recoverRow_cases input.repositoryId environment.application job with
    same | ⟨failed, stale⟩ | ⟨failed, stale⟩
  · rw [same]
    exact .idle
  · rw [failed]
    exact .recoveredUnreserved stale
  · rw [failed]
    exact .recoveredReserved stale

/-- Every row takes a `JobStep`, and the only new row is an inserted one. -/
theorem Committed.evolves {environment : Environment} {db after : Database} {command : Command}
    (committed : Committed environment db command after) (id : JobId) :
    JobFate environment command (db.findJob id) (after.findJob id) := by
  unfold Database.findJob
  cases committed with
  | updated found guarded =>
      exact RowUpdate.fate (fun job here guard => .updated (Table.key_of_find? here) guard) id
  | @created input repository repositoryFound exclusive unused fresh =>
      rw [Table.find?_insert]
      by_cases same : (newJob input environment).id = id
      · rw [if_pos same]
        have absent : db.analysisJobs.find? id = none := by
          have missing : (recoverStaleTable input.repositoryId environment.application
              db.analysisJobs).find? id = none := by
            refine Table.find?_eq_none_iff.mpr fun row member equal => fresh ?_
            rw [same, ← equal]
            exact List.mem_map_of_mem member
          simpa only [find?_recoverStaleTable, Option.map_eq_none_iff] using missing
        rw [absent]
        exact .inserted rfl
      · rw [if_neg same, find?_recoverStaleTable]
        cases db.analysisJobs.find? id with
        | none => exact .absent
        | some job => exact .evolved (recoverRow_step environment input job)
  | reserved paid valid found guarded =>
      exact RowUpdate.fate (fun job here guard => .reserved (Table.key_of_find? here) valid guard) id
  | terminated debit usable owner valid found guarded =>
      exact RowUpdate.fate (fun job here guard => .terminated (Table.key_of_find? here) valid guard) id
  | saved fresh unlinked counted owner valid found guarded =>
      exact RowUpdate.fate (fun job here guard => .saved (Table.key_of_find? here) valid guard) id
  | @settled input job found guarded unbilled owner =>
      refine RowUpdate.fate (fun other here guard => ?_) id
      have same : job = other := Option.some.inj (found.symm.trans here)
      exact .settled (Table.key_of_find? here) guard (same ▸ unbilled)
  | relisted =>
      cases db.analysisJobs.find? id with
      | none => exact .absent
      | some job => exact .evolved .idle
  | listed unknown fresh =>
      cases db.analysisJobs.find? id with
      | none => exact .absent
      | some job => exact .evolved .idle

/-! ## Columns that never change -/

/-- What a guarded update did to the row with a given id. -/
theorem Committed.update_row {environment : Environment} {db after : Database}
    {change : JobUpdate} (committed : Committed environment db (.update change) after)
    {jobId : JobId} {job row : AnalysisJob} (found : db.findJob jobId = some job)
    (later : after.findJob jobId = some row) :
    change.row.jobId = jobId ∧ change.row.guard job = true ∧
        row = change.row.data environment.application job ∨
      change.row.jobId ≠ jobId ∧ row = job := by
  cases committed with
  | updated there guarded =>
      by_cases named : change.row.jobId = jobId
      · subst named
        cases there.symm.trans found
        have changed := @RowUpdate.find?_apply _ _ environment.application _ there guarded
        exact Or.inl ⟨rfl, guarded, Option.some.inj (later.symm.trans changed)⟩
      · have untouched := @RowUpdate.find?_apply_ne change.row db.analysisJobs
          environment.application jobId (Ne.symm named)
        exact Or.inr ⟨named, Option.some.inj ((later.symm.trans untouched).trans found)⟩

/-- The columns a row keeps from its insertion on. -/
structure JobIdentity where
  id : JobId
  userId : UserId
  repositoryId : RepositoryId
  idempotencyKey : String
  requestHash : RequestHash
  window : CollectionWindow
  version : AnalysisExecutionVersion
  maxAttempts : Nat
  createdAt : Instant
  deriving DecidableEq, Repr

def AnalysisJob.identity (job : AnalysisJob) : JobIdentity where
  id := job.id
  userId := job.userId
  repositoryId := job.repositoryId
  idempotencyKey := job.idempotencyKey
  requestHash := job.requestHash
  window := job.window
  version := ⟨job.modelVersion, job.promptVersion⟩
  maxAttempts := job.maxAttempts
  createdAt := job.createdAt

theorem JobUpdate.identity_data (change : JobUpdate) (now : Instant) (job : AnalysisJob) :
    (change.row.data now job).identity = job.identity := by
  cases change with
  | recordFailure input =>
      simp only [JobUpdate.row, GitMate.recordFailure]
      by_cases terminating : input.terminate = true
      · rw [if_pos terminating]
        rfl
      · rw [if_neg terminating]
        rfl
  | start | recordProviderCharge | claimQueued | takeOverExpiredLease
  | takeOverExpiredBilledLease | updateProgress | releaseForRetry | claimAttempt
  | markPublished => rfl

theorem JobStep.identity {environment : Environment} {command : Command} {job later : AnalysisJob}
    (step : JobStep environment command job later) : later.identity = job.identity := by
  cases step with
  | updated named guarded => exact JobUpdate.identity_data _ _ _
  | idle | recoveredUnreserved | recoveredReserved | reserved | terminated | saved
  | settled => rfl

/-! ## Well-formed rows

A row's status determines which of the lease and settlement columns are set.
Rows backfilled for old reports are well formed as well, except that their
token usage is unknown. -/

/-- The columns of a job that ended with a report. -/
structure AnalysisJob.Accounted (job : AnalysisJob) : Prop where
  settled : job.tokensSettledAt.isSome = true
  completed : job.completedAt.isSome = true
  progress : job.progress = 100
  stage : job.stage = none
  usage : Exists fun prompt : Int => Exists fun completion : Int => Exists fun reserved : Int =>
    job.promptTokens = some prompt ∧ job.completionTokens = some completion ∧
      job.totalTokens = some (prompt + completion) ∧ job.reservedTokens = some reserved ∧
      prompt + completion ≤ reserved

structure AnalysisJob.WellFormed (job : AnalysisJob) : Prop where
  reserved : forall tokens, job.reservedTokens = some tokens -> 0 ≤ tokens
  unleased : job.status ≠ .running -> job.leaseToken = none ∧ job.leaseExpiresAt = none
  leased : job.status = .running ->
    job.leaseToken.isSome = true ∧ job.leaseExpiresAt.isSome = true
  unsettled : job.isActive = true -> job.completedAt = none ∧ job.tokensSettledAt = none
  accounted : job.status = .succeeded -> job.isLegacyReport = false -> job.Accounted

theorem AnalysisJob.isActive_iff {job : AnalysisJob} :
    job.isActive = true ↔ job.status = .queued ∨ job.status = .running := by
  simp only [AnalysisJob.isActive, Bool.or_eq_true, beq_iff_eq]

theorem AnalysisJob.isTerminal_iff {job : AnalysisJob} :
    job.isTerminal = true ↔ job.status = .succeeded ∨ job.status = .failed := by
  simp only [AnalysisJob.isTerminal, Bool.or_eq_true, beq_iff_eq]

theorem AnalysisJob.isTerminal_eq_not_isActive (job : AnalysisJob) :
    job.isTerminal = !job.isActive := by
  unfold AnalysisJob.isTerminal AnalysisJob.isActive
  cases job.status <;> rfl

namespace AnalysisJob.WellFormed

theorem of_running {job : AnalysisJob}
    (reserved : forall tokens, job.reservedTokens = some tokens -> 0 ≤ tokens)
    (status : job.status = .running) (token : job.leaseToken.isSome = true)
    (expiry : job.leaseExpiresAt.isSome = true) (completed : job.completedAt = none)
    (settled : job.tokensSettledAt = none) : job.WellFormed where
  reserved := reserved
  unleased different := absurd status different
  leased _ := ⟨token, expiry⟩
  unsettled _ := ⟨completed, settled⟩
  accounted succeeded := by rw [status] at succeeded; cases succeeded

theorem of_queued {job : AnalysisJob}
    (reserved : forall tokens, job.reservedTokens = some tokens -> 0 ≤ tokens)
    (status : job.status = .queued) (token : job.leaseToken = none)
    (expiry : job.leaseExpiresAt = none) (completed : job.completedAt = none)
    (settled : job.tokensSettledAt = none) : job.WellFormed where
  reserved := reserved
  unleased _ := ⟨token, expiry⟩
  leased running := by rw [status] at running; cases running
  unsettled _ := ⟨completed, settled⟩
  accounted succeeded := by rw [status] at succeeded; cases succeeded

theorem of_failed {job : AnalysisJob}
    (reserved : forall tokens, job.reservedTokens = some tokens -> 0 ≤ tokens)
    (status : job.status = .failed) (token : job.leaseToken = none)
    (expiry : job.leaseExpiresAt = none) : job.WellFormed where
  reserved := reserved
  unleased _ := ⟨token, expiry⟩
  leased running := by rw [status] at running; cases running
  unsettled active := by
    rw [AnalysisJob.isActive_iff, status] at active
    rcases active with queued | running <;> contradiction
  accounted succeeded := by rw [status] at succeeded; cases succeeded

variable {job : AnalysisJob}

/-- A queued row is unleased and unsettled. -/
theorem queued (wellFormed : job.WellFormed) (status : job.status = .queued) :
    job.leaseToken = none ∧ job.leaseExpiresAt = none ∧ job.completedAt = none ∧
      job.tokensSettledAt = none := by
  have unleased := wellFormed.unleased (by rw [status]; exact fun same => by cases same)
  have unsettled := wellFormed.unsettled (AnalysisJob.isActive_iff.mpr (Or.inl status))
  exact ⟨unleased.1, unleased.2, unsettled.1, unsettled.2⟩

theorem running (wellFormed : job.WellFormed) (status : job.status = .running) :
    job.leaseToken.isSome = true ∧ job.leaseExpiresAt.isSome = true ∧ job.completedAt = none ∧
      job.tokensSettledAt = none := by
  have leased := wellFormed.leased status
  have unsettled := wellFormed.unsettled (AnalysisJob.isActive_iff.mpr (Or.inr status))
  exact ⟨leased.1, leased.2, unsettled.1, unsettled.2⟩

end AnalysisJob.WellFormed

/-- The guarded updates keep rows well formed. -/
theorem JobUpdate.wellFormed {change : JobUpdate} {now : Instant} {job : AnalysisJob}
    (wellFormed : job.WellFormed) (guarded : change.row.guard job = true) :
    (change.row.data now job).WellFormed := by
  cases change with
  | start jobId leaseToken leaseExpiresAt startedAt =>
      simp only [JobUpdate.row, transitionStatus, transitionWhere, Bool.and_true, beq_iff_eq]
        at guarded
      have before := wellFormed.queued guarded
      exact .of_running wellFormed.reserved rfl rfl rfl before.2.2.1 before.2.2.2
  | recordProviderCharge input =>
      simp only [JobUpdate.row, recordProviderChargeRow, Bool.and_eq_true, beq_iff_eq] at guarded
      have before := wellFormed.running guarded.1.1.1.1.1.1.1.1.1
      exact .of_running wellFormed.reserved guarded.1.1.1.1.1.1.1.1.1 before.1 before.2.1
        before.2.2.1 before.2.2.2
  | claimQueued jobId leaseToken claimedAt leaseExpiresAt =>
      simp only [JobUpdate.row, GitMate.claimQueued, Bool.and_eq_true, beq_iff_eq] at guarded
      exact .of_running wellFormed.reserved rfl rfl rfl guarded.1.2 guarded.2
  | takeOverExpiredLease current leaseToken takenAt leaseExpiresAt =>
      simp only [JobUpdate.row, GitMate.takeOverExpiredLease, Bool.and_eq_true, beq_iff_eq]
        at guarded
      exact .of_running wellFormed.reserved guarded.1.1.1.1.1.1 rfl rfl guarded.1.2 guarded.2
  | takeOverExpiredBilledLease current leaseToken takenAt leaseExpiresAt =>
      simp only [JobUpdate.row, GitMate.takeOverExpiredBilledLease, Bool.and_eq_true, beq_iff_eq]
        at guarded
      exact .of_running wellFormed.reserved guarded.1.1.1.1.1.1 rfl rfl guarded.1.2 guarded.2
  | updateProgress input =>
      simp only [JobUpdate.row, updateProgressRow, Bool.and_eq_true, beq_iff_eq] at guarded
      have before := wellFormed.running guarded.1.1
      exact .of_running wellFormed.reserved guarded.1.1 before.1 rfl before.2.2.1 before.2.2.2
  | releaseForRetry input =>
      simp only [JobUpdate.row, releaseForRetryRow, Bool.and_eq_true, beq_iff_eq] at guarded
      have before := wellFormed.running guarded.1.1.1.1.1.1
      exact .of_queued wellFormed.reserved rfl rfl rfl before.2.2.1 before.2.2.2
  | claimAttempt input =>
      simp only [JobUpdate.row, GitMate.claimAttempt, snapshotWhere, Bool.and_eq_true, beq_iff_eq]
        at guarded
      have before := wellFormed.queued guarded.1.1.1
      exact .of_queued wellFormed.reserved guarded.1.1.1 before.1 before.2.1 before.2.2.1
        before.2.2.2
  | markPublished input publishedAt =>
      simp only [JobUpdate.row, GitMate.markPublished, claimedWhere, Bool.and_eq_true, beq_iff_eq]
        at guarded
      have before := wellFormed.queued guarded.1.1.1
      exact .of_queued wellFormed.reserved guarded.1.1.1 before.1 before.2.1 before.2.2.1
        before.2.2.2
  | recordFailure input =>
      simp only [JobUpdate.row, GitMate.recordFailure, claimedWhere, Bool.and_eq_true, beq_iff_eq]
        at guarded
      have before := wellFormed.queued guarded.1.1.1.1
      simp only [JobUpdate.row, GitMate.recordFailure]
      by_cases terminating : input.terminate = true
      · rw [if_pos terminating]
        exact .of_failed wellFormed.reserved rfl before.1 before.2.1
      · rw [if_neg terminating]
        exact .of_queued wellFormed.reserved guarded.1.1.1.1 before.1 before.2.1 before.2.2.1
          before.2.2.2

/-! ## Sound commands

The services compute the refund and the additional debit of a termination
from the reservation and the usage they report, and they end a job as a
success only when its usage fits the reservation. -/

structure TerminateWorkerJobInput.Balanced (input : TerminateWorkerJobInput) : Prop where
  unreserved : input.contextReservedTokens = none ->
    input.refundTokens ≤ 0 ∧ input.additionalDebitTokens ≤ 0
  unsettled : input.tokensSettled = false -> input.additionalDebitTokens ≤ 0
  settled : input.tokensSettled = true -> forall usage reserved, input.usage = some usage ->
    input.contextReservedTokens = some reserved ->
    (input.additionalDebitTokens ≤ 0 ∧ input.refundTokens = reserved - usage.totalTokens ∧
      (0 ≤ reserved -> usage.totalTokens ≤ reserved)) ∨
    (input.refundTokens ≤ 0 ∧ input.additionalDebitTokens = usage.totalTokens - reserved ∧
      reserved < usage.totalTokens)

def Command.Sound : Command -> Prop
  | .terminateWorkerJob input => input.Balanced
  | .saveAnalysisResult input => input.usage.totalTokens ≤ input.reservedTokens
  | _ => True

theorem checked_bind_ok {α β : Type} {first : Except AppError α} {next : α -> Except AppError β}
    {result : β} (done : (first >>= next) = .ok result) :
    Exists fun value => first = .ok value ∧ next value = .ok result := by
  cases first with
  | error error => cases done
  | ok value => exact ⟨value, rfl, done⟩

theorem assertValidTokenUsage_ok {usage : AnalysisTokenUsage} {result : Unit}
    (done : assertValidTokenUsage usage = .ok result) : isValidAnalysisTokenUsage usage = true := by
  unfold assertValidTokenUsage at done
  by_cases valid : isValidAnalysisTokenUsage usage = true
  · exact valid
  · rw [if_neg valid] at done
    cases done

/-- A success is only ever recorded with a valid usage. -/
theorem SaveAnalysisResultInput.usage_valid {input : SaveAnalysisResultInput} {reportId : Nat}
    {completedAt : Instant}
    (valid : validateTransitionInput (input.transition reportId completedAt) = .ok ()) :
    isValidAnalysisTokenUsage input.usage = true := by
  rcases checked_bind_ok valid with ⟨_, settlement, _⟩
  rcases checked_bind_ok settlement with ⟨_, usage, _⟩
  exact assertValidTokenUsage_ok usage

theorem transitionStatus_succeed_guard {linkedReport : JobId -> Option Nat}
    {input : SaveAnalysisResultInput} {reportId : Nat} {completedAt : Instant} {job : AnalysisJob}
    (guarded : (transitionStatus linkedReport (input.transition reportId completedAt)).guard job =
      true) :
    job.status = .running ∧ job.leaseToken = some input.leaseToken ∧
      linkedReport job.id = some reportId ∧ job.userId = input.userId ∧
      job.repositoryId = input.repositoryId ∧ job.reservedTokens = some input.reservedTokens ∧
      job.tokensSettledAt = none := by
  simp only [transitionStatus, SaveAnalysisResultInput.transition, transitionWhere,
    TransitionAnalysisJobInput.fromStatus, Bool.and_eq_true, beq_iff_eq] at guarded
  rcases guarded with ⟨status, ⟨⟨⟨⟨token, linked⟩, user⟩, repository⟩, reserved⟩, unsettled⟩
  exact ⟨status, token, linked, user, repository, reserved, unsettled⟩

theorem transitionStatus_failRunning_guard {linkedReport : JobId -> Option Nat}
    {input : TerminateWorkerJobInput} {paid : Bool} {job : AnalysisJob}
    (guarded : (transitionStatus linkedReport (input.transition paid)).guard job = true) :
    job.status = .running ∧ job.leaseToken = some input.leaseToken ∧
      job.userId = input.userId ∧ job.repositoryId = input.repositoryId ∧
      job.reservedTokens = input.contextReservedTokens ∧ job.tokensSettledAt = none := by
  simp only [transitionStatus, TerminateWorkerJobInput.transition, transitionWhere,
    TransitionAnalysisJobInput.fromStatus, Bool.and_eq_true, beq_iff_eq] at guarded
  rcases guarded with ⟨status, ⟨⟨⟨token, user⟩, repository⟩, reserved⟩, unsettled⟩
  exact ⟨status, token, user, repository, reserved, unsettled⟩

theorem reserveTokensRow_guard {input : ReserveAnalysisJobTokensInput} {job : AnalysisJob}
    (guarded : (reserveTokensRow input).guard job = true) :
    job.status = .running ∧ job.leaseToken = some input.expectedLeaseToken ∧
      job.userId = input.expectedUserId ∧ job.repositoryId = input.expectedRepositoryId ∧
      job.reservedTokens = none ∧ job.tokensSettledAt = none := by
  simp only [reserveTokensRow, Bool.and_eq_true, beq_iff_eq] at guarded
  rcases guarded with ⟨⟨⟨⟨⟨status, token⟩, user⟩, repository⟩, unreserved⟩, unsettled⟩
  exact ⟨status, token, user, repository, unreserved, unsettled⟩

theorem settleFailureRow_guard {input : SettleFailureInput} {job : AnalysisJob}
    (guarded : (settleFailureRow input).guard job = true) :
    job.status = input.expected.status ∧ job.tokensSettledAt = none ∧
      input.expected.leaseMatches job = true := by
  simp only [settleFailureRow, Bool.and_eq_true, beq_iff_eq] at guarded
  exact ⟨guarded.1.1, guarded.1.2, guarded.2⟩

theorem assertTokenCount_nonneg {value : Int} {field : String} {result : Unit}
    (counted : assertTokenCount value field = .ok result) : 0 ≤ value := by
  unfold assertTokenCount at counted
  by_cases fits : (isSafeInteger value && decide (0 ≤ value)) = true
  · exact of_decide_eq_true (Bool.and_eq_true_iff.mp fits).2
  · rw [if_neg fits] at counted
    cases counted

/-- Every reservation is valid: it is not negative. -/
theorem validateReserveTokens_nonneg {input : ReserveAnalysisJobTokensInput}
    (valid : validateReserveTokens input = .ok ()) : 0 ≤ input.reservedTokens := by
  rcases checked_bind_ok valid with ⟨_, _, rest⟩
  rcases checked_bind_ok rest with ⟨_, _, rest⟩
  rcases checked_bind_ok rest with ⟨_, _, rest⟩
  rcases checked_bind_ok rest with ⟨_, counted, _⟩
  exact assertTokenCount_nonneg counted

/-- So is the estimate that goes with it. -/
theorem validateReserveTokens_estimated {input : ReserveAnalysisJobTokensInput}
    (valid : validateReserveTokens input = .ok ()) : 0 ≤ input.estimatedTokens := by
  rcases checked_bind_ok valid with ⟨_, _, rest⟩
  rcases checked_bind_ok rest with ⟨_, _, rest⟩
  rcases checked_bind_ok rest with ⟨_, counted, _⟩
  exact assertTokenCount_nonneg counted

theorem newJob_wellFormed (input : CreateAnalysisJobRecordInput) (environment : Environment) :
    (newJob input environment).WellFormed :=
  .of_queued (fun _ reserved => by cases reserved) rfl rfl rfl rfl rfl

/-- Every command keeps the rows well formed. -/
theorem JobStep.wellFormed {environment : Environment} {command : Command}
    {job later : AnalysisJob} (step : JobStep environment command job later)
    (sound : command.Sound) (wellFormed : job.WellFormed) : later.WellFormed := by
  cases step with
  | idle => exact wellFormed
  | updated named guarded => exact JobUpdate.wellFormed wellFormed guarded
  | recoveredUnreserved stale => exact .of_failed wellFormed.reserved rfl rfl rfl
  | recoveredReserved stale => exact .of_failed wellFormed.reserved rfl rfl rfl
  | @reserved input _ named valid guarded =>
      have held := reserveTokensRow_guard guarded
      have before := wellFormed.running held.1
      refine .of_running (fun tokens same => ?_) held.1 before.1 before.2.1 before.2.2.1
        before.2.2.2
      have amount : input.reservedTokens = tokens := Option.some.inj same
      rw [← amount]
      exact validateReserveTokens_nonneg valid
  | terminated named valid guarded => exact .of_failed wellFormed.reserved rfl rfl rfl
  | @saved input reportId linkedReport _ named valid guarded =>
      have held := transitionStatus_succeed_guard guarded
      have usage := isValidAnalysisTokenUsage_spec
        (SaveAnalysisResultInput.usage_valid valid)
      exact {
        reserved := wellFormed.reserved
        unleased := fun _ => ⟨rfl, rfl⟩
        leased := fun running => by cases running
        unsettled := fun active => by cases active
        accounted := fun _ _ => {
          settled := rfl
          completed := rfl
          progress := rfl
          stage := rfl
          usage := ⟨input.usage.promptTokens, input.usage.completionTokens, input.reservedTokens,
            rfl, rfl, congrArg some usage.2, held.2.2.2.2.2.1, usage.2 ▸ sound⟩ } }
  | settled named guarded unbilled => exact .of_failed wellFormed.reserved rfl rfl rfl

/-- The status that an update requires of its row. -/
def JobUpdate.expects : JobUpdate -> AnalysisJobStatus
  | .start .. | .claimQueued .. | .claimAttempt _ | .markPublished .. | .recordFailure _ => .queued
  | .recordProviderCharge _ | .takeOverExpiredLease .. | .takeOverExpiredBilledLease ..
  | .updateProgress _ | .releaseForRetry _ => .running

theorem JobUpdate.guard_status {change : JobUpdate} {job : AnalysisJob}
    (guarded : change.row.guard job = true) : job.status = change.expects := by
  cases change with
  | start | claimQueued | claimAttempt | markPublished | recordFailure =>
      simp only [JobUpdate.row, transitionStatus, GitMate.claimQueued, GitMate.claimAttempt,
        snapshotWhere, GitMate.markPublished, claimedWhere, GitMate.recordFailure,
        TransitionAnalysisJobInput.fromStatus, Bool.and_eq_true, beq_iff_eq] at guarded
      simp only [guarded, JobUpdate.expects]
  | recordProviderCharge | takeOverExpiredLease | takeOverExpiredBilledLease | updateProgress
  | releaseForRetry =>
      simp only [JobUpdate.row, recordProviderChargeRow, GitMate.takeOverExpiredLease,
        GitMate.takeOverExpiredBilledLease, updateProgressRow, releaseForRetryRow,
        Bool.and_eq_true, beq_iff_eq] at guarded
      simp only [guarded, JobUpdate.expects]

/-- The guarded updates only touch active rows. -/
theorem JobUpdate.guard_active {change : JobUpdate} {job : AnalysisJob}
    (guarded : change.row.guard job = true) : job.isActive = true := by
  rw [AnalysisJob.isActive_iff, JobUpdate.guard_status guarded]
  cases change with
  | start | claimQueued | claimAttempt | markPublished | recordFailure => exact Or.inl rfl
  | recordProviderCharge | takeOverExpiredLease | takeOverExpiredBilledLease | updateProgress
  | releaseForRetry => exact Or.inr rfl

/-- A row changes only while it is active: terminal rows are final. -/
theorem JobStep.active_or_same {environment : Environment} {command : Command}
    {job later : AnalysisJob} (step : JobStep environment command job later) :
    job.isActive = true ∨ later = job := by
  cases step with
  | idle => exact Or.inr rfl
  | updated named guarded => exact Or.inl (JobUpdate.guard_active guarded)
  | recoveredUnreserved stale =>
      refine Or.inl (AnalysisJob.isActive_iff.mpr ?_)
      rcases (isStaleUnreserved_spec stale).2.2.2 with queued | running
      · exact Or.inl queued.1
      · exact Or.inr running.1
  | recoveredReserved stale =>
      exact Or.inl (AnalysisJob.isActive_iff.mpr (Or.inr (isStaleReserved_spec stale).2.1))
  | reserved named valid guarded =>
      exact Or.inl (AnalysisJob.isActive_iff.mpr (Or.inr (reserveTokensRow_guard guarded).1))
  | terminated named valid guarded =>
      exact Or.inl (AnalysisJob.isActive_iff.mpr
        (Or.inr (transitionStatus_failRunning_guard guarded).1))
  | saved named valid guarded =>
      exact Or.inl (AnalysisJob.isActive_iff.mpr
        (Or.inr (transitionStatus_succeed_guard guarded).1))
  | @settled input _ named guarded unbilled =>
      refine Or.inl (AnalysisJob.isActive_iff.mpr ?_)
      rw [(settleFailureRow_guard guarded).1]
      cases input.expected with
      | queued => exact Or.inl rfl
      | running leaseToken => exact Or.inr rfl

end GitMate
