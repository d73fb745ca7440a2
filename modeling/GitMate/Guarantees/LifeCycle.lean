import GitMate.Service.Runs

namespace GitMate

open Relational Interleaving Machine

/-!
# The life cycle of a job

One service checks the table of allowed transitions.  The worker, the
publisher and the recovery change the status of a row by guarded updates of
their own.  Each of those updates follows the table all the same, because its
guard names the status it starts from; and the guards, together with the
columns that earlier updates have left, keep the counters and the settlement
of a job in order.
-/

/-! ## Backfilled rows -/

/-- The row that the migration inserts for a report that predates the ledger.
Its request hash is a digest of its own; `syncTime` is the time of the
report. -/
def backfilledJob (id : JobId) (report : AnalysisReport) (requestHash : RequestHash)
    (syncTime : Instant) : AnalysisJob where
  id := id
  status := .succeeded
  stage := none
  progress := 100
  userId := report.userId
  repositoryId := report.repositoryId
  idempotencyKey := "legacy-report:" ++ toString report.id
  requestHash := requestHash
  sourceCursor := none
  collectionCutoff := syncTime
  modelVersion := "legacy"
  promptVersion := "legacy"
  estimatedTokens := none
  reservedTokens := none
  promptTokens := none
  completionTokens := none
  totalTokens := none
  tokensSettledAt := some syncTime
  providerRequestIds := []
  publishAttempts := 0
  messagePublishedAt := none
  nextPublishAt := none
  attemptCount := 1
  maxAttempts := 5
  leaseToken := none
  leaseExpiresAt := none
  heartbeatAt := none
  lastErrorCode := none
  lastErrorMessage := none
  errorRetryable := none
  startedAt := some syncTime
  completedAt := some syncTime
  createdAt := syncTime
  updatedAt := syncTime

/-- The job rows of a database before the ledger is used are those of the
migration. -/
def Database.Backfilled (db : Database) : Prop :=
  forall job, job ∈ db.analysisJobs -> Exists fun id => Exists fun report =>
    Exists fun requestHash => Exists fun syncTime =>
      job = backfilledJob id report requestHash syncTime

/-! ## One step -/

/-- What stays true of a row whatever happens to it later. -/
structure AnalysisJob.Endures (job later : AnalysisJob) : Prop where
  final : job.isTerminal = true -> later = job
  reserved : forall tokens, job.reservedTokens = some tokens -> later.reservedTokens = some tokens
  settled : forall instant, job.tokensSettledAt = some instant ->
    later.tokensSettledAt = some instant
  publishAttempts : job.publishAttempts ≤ later.publishAttempts
  attemptCount : job.attemptCount ≤ later.attemptCount

namespace AnalysisJob.Endures

variable {job middle later : AnalysisJob}

theorem refl (job : AnalysisJob) : job.Endures job where
  final _ := rfl
  reserved _ same := same
  settled _ same := same
  publishAttempts := Nat.le_refl _
  attemptCount := Nat.le_refl _

theorem trans (first : job.Endures middle) (second : middle.Endures later) :
    job.Endures later where
  final ended := by
    have same := first.final ended
    subst same
    exact second.final ended
  reserved tokens held := second.reserved tokens (first.reserved tokens held)
  settled instant held := second.settled instant (first.settled instant held)
  publishAttempts := first.publishAttempts.trans second.publishAttempts
  attemptCount := first.attemptCount.trans second.attemptCount

/-- A row that is active has no settlement to lose. -/
theorem of_active (active : job.isActive = true) (unsettled : job.tokensSettledAt = none)
    (reserved : forall tokens, job.reservedTokens = some tokens ->
      later.reservedTokens = some tokens)
    (publishAttempts : job.publishAttempts ≤ later.publishAttempts)
    (attemptCount : job.attemptCount ≤ later.attemptCount) : job.Endures later where
  final ended := by
    rw [AnalysisJob.isTerminal_eq_not_isActive, active] at ended
    cases ended
  reserved := reserved
  settled instant same := by
    rw [unsettled] at same
    cases same
  publishAttempts := publishAttempts
  attemptCount := attemptCount

end AnalysisJob.Endures

/-- The guarded updates neither reset a reservation nor count backwards. -/
theorem JobUpdate.endures {change : JobUpdate} {now : Instant} {job : AnalysisJob}
    (wellFormed : job.WellFormed) (guarded : change.row.guard job = true) :
    job.Endures (change.row.data now job) := by
  have active := JobUpdate.guard_active guarded
  have unsettled := (wellFormed.unsettled active).2
  cases change with
  | start | recordProviderCharge | takeOverExpiredBilledLease | updateProgress | releaseForRetry
  | markPublished =>
      exact .of_active active unsettled (fun _ held => held) (Nat.le_refl _) (Nat.le_refl _)
  | claimQueued | takeOverExpiredLease =>
      exact .of_active active unsettled (fun _ held => held) (Nat.le_refl _) (Nat.le_succ _)
  | claimAttempt =>
      exact .of_active active unsettled (fun _ held => held) (Nat.le_succ _) (Nat.le_refl _)
  | recordFailure input =>
      simp only [JobUpdate.row, GitMate.recordFailure]
      split
      · exact .of_active active unsettled (fun _ held => held) (Nat.le_refl _) (Nat.le_refl _)
      · exact .of_active active unsettled (fun _ held => held) (Nat.le_refl _) (Nat.le_refl _)

/-- What one command does to a row endures. -/
theorem JobStep.endures {environment : Environment} {command : Command} {job later : AnalysisJob}
    (step : JobStep environment command job later) (wellFormed : job.WellFormed) :
    job.Endures later := by
  rcases step.active_or_same with active | same
  · have unsettled := (wellFormed.unsettled active).2
    cases step with
    | idle => exact .refl job
    | updated named guarded => exact JobUpdate.endures wellFormed guarded
    | reserved named valid guarded =>
        refine .of_active active unsettled (fun tokens held => ?_) (Nat.le_refl _) (Nat.le_refl _)
        rw [(reserveTokensRow_guard guarded).2.2.2.2.1] at held
        cases held
    | recoveredUnreserved | recoveredReserved | terminated | saved | settled =>
        exact .of_active active unsettled (fun _ held => held) (Nat.le_refl _) (Nat.le_refl _)
  · subst same
    exact .refl _

/-! ## Edges of the transition table -/

/-- The status stays the same or follows an edge of the table. -/
def AnalysisJob.FollowsEdge (job later : AnalysisJob) : Prop :=
  later.status = job.status ∨ canTransitionAnalysisJob job.status later.status = true

/-- A running job may be requeued or ended. -/
theorem AnalysisJob.FollowsEdge.of_running {job later : AnalysisJob}
    (running : job.status = .running) : job.FollowsEdge later := by
  unfold AnalysisJob.FollowsEdge
  rw [running]
  cases later.status with
  | running => exact Or.inl rfl
  | queued | succeeded | failed => exact Or.inr rfl

/-- An active job may fail. -/
theorem AnalysisJob.FollowsEdge.of_failed {job later : AnalysisJob}
    (active : job.isActive = true) (failed : later.status = .failed) : job.FollowsEdge later := by
  unfold AnalysisJob.FollowsEdge
  rw [failed]
  rcases AnalysisJob.isActive_iff.mp active with queued | running
  · rw [queued]
    exact Or.inr rfl
  · rw [running]
    exact Or.inr rfl

theorem JobUpdate.followsEdge {change : JobUpdate} {now : Instant} {job : AnalysisJob}
    (guarded : change.row.guard job = true) : job.FollowsEdge (change.row.data now job) := by
  have active := JobUpdate.guard_active guarded
  rcases AnalysisJob.isActive_iff.mp active with queued | running
  · cases change with
    | start | claimQueued =>
        unfold AnalysisJob.FollowsEdge
        rw [queued]
        exact Or.inr rfl
    | claimAttempt | markPublished | recordProviderCharge | takeOverExpiredLease
    | takeOverExpiredBilledLease | updateProgress => exact Or.inl rfl
    | releaseForRetry input =>
        simp only [JobUpdate.row, releaseForRetryRow, Bool.and_eq_true, beq_iff_eq] at guarded
        exact .of_running guarded.1.1.1.1.1.1
    | recordFailure input =>
        simp only [JobUpdate.row, GitMate.recordFailure]
        split
        · exact .of_failed active rfl
        · exact Or.inl rfl
  · exact .of_running running

theorem JobStep.followsEdge {environment : Environment} {command : Command}
    {job later : AnalysisJob} (step : JobStep environment command job later) :
    job.FollowsEdge later := by
  rcases step.active_or_same with active | same
  · cases step with
    | idle => exact Or.inl rfl
    | updated named guarded => exact JobUpdate.followsEdge guarded
    | reserved => exact Or.inl rfl
    | recoveredUnreserved | recoveredReserved | terminated | settled =>
        exact .of_failed active rfl
    | saved named valid guarded => exact .of_running (transitionStatus_succeed_guard guarded).1
  · exact Or.inl (congrArg AnalysisJob.status same)

/-! ## Counted attempts -/

/-- An attempt is counted only while attempts are left. -/
theorem JobStep.attempts {environment : Environment} {command : Command} {job later : AnalysisJob}
    (step : JobStep environment command job later) (bounded : job.attemptCount ≤ job.maxAttempts) :
    later.attemptCount ≤ later.maxAttempts := by
  cases step with
  | @updated change _ named guarded =>
      cases change with
      | claimQueued jobId leaseToken now leaseExpiresAt =>
          simp only [JobUpdate.row, GitMate.claimQueued, Bool.and_eq_true, decide_eq_true_eq]
            at guarded
          exact guarded.1.1.1.2
      | takeOverExpiredLease current leaseToken now leaseExpiresAt =>
          simp only [JobUpdate.row, GitMate.takeOverExpiredLease, Bool.and_eq_true,
            decide_eq_true_eq] at guarded
          exact guarded.1.1.2
      | recordFailure input =>
          simp only [JobUpdate.row, GitMate.recordFailure]
          split
          · exact bounded
          · exact bounded
      | start | recordProviderCharge | takeOverExpiredBilledLease | updateProgress
      | releaseForRetry | claimAttempt | markPublished => exact bounded
  | idle | recoveredUnreserved | recoveredReserved | reserved | terminated | saved | settled =>
      exact bounded

/-! ## Whole runs -/

section Runs

variable {deployment : Deployment} {first last : SystemState deployment}
  {steps : List (Transition (gitMate deployment))}

/-- No job is attempted more often than it may be. -/
theorem reachable_attempts (initial : first.Initial) (backfilled : first.db.Backfilled)
    (run : Execution first steps last) {id : JobId} {job : AnalysisJob}
    (found : last.db.findJob id = some job) : job.attemptCount ≤ job.maxAttempts := by
  refine @reachable_rows deployment first last steps
    (fun job => job.attemptCount ≤ job.maxAttempts) initial (fun id job there => ?_)
    (fun _ _ => Nat.zero_le _) (fun _ _ _ _ step _ bounded => step.attempts bounded) run id job found
  rcases backfilled job (Table.mem_of_find? there) with ⟨_, report, requestHash, syncTime, rfl⟩
  exact Nat.le_add_left 1 4

/-- What a row has become at the end of a run endures. -/
theorem row_endures {middle : SystemState deployment}
    {rest : List (Transition (gitMate deployment))} (initial : first.Initial)
    (reached : Execution first steps middle) (run : Execution middle rest last) {id : JobId}
    {job : AnalysisJob} (found : middle.db.findJob id = some job) :
    Exists fun later => last.db.findJob id = some later ∧ job.Endures later := by
  refine run.always (fun state => Exists fun later =>
      state.db.findJob id = some later ∧ job.Endures later)
    ⟨job, found, .refl job⟩ fun earlier state label after between held stepped => ?_
  rcases held with ⟨row, here, endures⟩
  cases SystemState.databaseStep stepped with
  | quiet same => exact ⟨row, same ▸ here, endures⟩
  | performed pending committed =>
      have wellFormed := reachable_wellFormed initial (reached.append between) here
      have fate := committed.evolves id
      rw [here] at fate
      generalize there : after.db.findJob id = new at fate ⊢
      cases fate with
      | evolved step => exact ⟨_, rfl, endures.trans (step.endures wellFormed)⟩

/-- One step of a run moves the status of a row along the table. -/
theorem step_followsEdge {state after : SystemState deployment} {label : SystemLabel deployment}
    (stepped : state.step label = some after) {id : JobId} {job : AnalysisJob}
    (found : state.db.findJob id = some job) :
    Exists fun later => after.db.findJob id = some later ∧ job.FollowsEdge later := by
  cases SystemState.databaseStep stepped with
  | quiet same => exact ⟨job, same ▸ found, Or.inl rfl⟩
  | performed pending committed =>
      have fate := committed.evolves id
      rw [found] at fate
      generalize there : after.db.findJob id = new at fate ⊢
      cases fate with
      | evolved step => exact ⟨_, rfl, step.followsEdge⟩

/-- The life cycle of every job.  In every reachable state the status of a row
determines its lease and settlement columns and its attempts are bounded; every
step moves its status along the table of allowed transitions; and from then on
terminal rows, reservations, settlements and counters endure. -/
theorem job_life_cycle (initial : first.Initial) (backfilled : first.db.Backfilled)
    {state : SystemState deployment} (reached : Execution first steps state) :
    (forall id job, state.db.findJob id = some job ->
      (job.status = .queued ->
        job.leaseToken = none ∧ job.leaseExpiresAt = none ∧ job.completedAt = none ∧
          job.tokensSettledAt = none) ∧
      (job.status = .running ->
        job.leaseToken.isSome = true ∧ job.leaseExpiresAt.isSome = true ∧
          job.tokensSettledAt = none) ∧
      job.attemptCount ≤ job.maxAttempts) ∧
    (forall label after, state.step label = some after ->
      forall id job, state.db.findJob id = some job ->
        Exists fun later => after.db.findJob id = some later ∧
          (later.status = job.status ∨
            canTransitionAnalysisJob job.status later.status = true)) ∧
    (forall rest last, Execution state rest last ->
      forall id job, state.db.findJob id = some job ->
        Exists fun later => last.db.findJob id = some later ∧
          (job.status = .succeeded ∨ job.status = .failed -> later = job) ∧
          (forall tokens, job.reservedTokens = some tokens ->
            later.reservedTokens = some tokens) ∧
          (forall instant, job.tokensSettledAt = some instant ->
            later.tokensSettledAt = some instant) ∧
          job.publishAttempts ≤ later.publishAttempts ∧
          job.attemptCount ≤ later.attemptCount) := by
  refine ⟨fun id job found => ⟨fun queued => ?_, fun running => ?_, ?_⟩,
    fun label after stepped id job found => step_followsEdge stepped found,
    fun rest last run id job found => ?_⟩
  · exact (reachable_wellFormed initial reached found).queued queued
  · have held := (reachable_wellFormed initial reached found).running running
    exact ⟨held.1, held.2.1, held.2.2.2⟩
  · exact reachable_attempts initial backfilled reached found
  · rcases row_endures initial reached run found with ⟨later, there, endures⟩
    exact ⟨later, there, fun ended => endures.final (AnalysisJob.isTerminal_iff.mpr ended),
      endures.reserved, endures.settled, endures.publishAttempts, endures.attemptCount⟩

theorem smallDatabase_backfilled : smallDatabase.Backfilled :=
  fun _ member => absurd member (Table.not_mem_empty _)

/-- After the life of the job of the small world its row has been attempted at
most five times. -/
theorem job_life_cycle_after_success :
    Exists fun job =>
      ((smallState DEFAULT_DEPLOYMENT).after successScript).db.findJob 1 = some job ∧
        job.attemptCount ≤ job.maxAttempts := by
  rcases State.after_run (show ((smallState DEFAULT_DEPLOYMENT).play successScript).isSome = true
    by decide +kernel) with ⟨steps, run⟩
  have present : (((smallState DEFAULT_DEPLOYMENT).after successScript).db.findJob 1).isSome =
      true := by decide +kernel
  rcases Option.isSome_iff_exists.mp present with ⟨job, found⟩
  exact ⟨job, found, ((job_life_cycle (smallState_initial DEFAULT_DEPLOYMENT)
    smallDatabase_backfilled run).1 1 job found).2.2⟩

end Runs
end GitMate
