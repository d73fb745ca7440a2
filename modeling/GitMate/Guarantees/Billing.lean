import GitMate.Guarantees.Holders

namespace GitMate

open Relational Interleaving Machine

/-!
# Recorded charges are final

A provider charge is recorded by the process that holds the lease of the job,
under the reservation, and only in an empty place.  From then on no update
writes over it: the row stays running with it, or ends with exactly it.  A
process that starts to execute the job afterwards reads the charge before it
does anything else, so it never calls the provider again.
-/

/-! ## The charge of a row -/

/-- A charge as the checkpoint records it: the id of one request, with a usage
that is valid or unknown. -/
def ProviderCharge.Recorded (charge : ProviderCharge) : Prop :=
  Exists fun requestId => Exists fun usage : Option AnalysisTokenUsage =>
    charge = AnalysisTokenUsage.charge usage [requestId] ∧
      forall used, usage = some used -> isValidAnalysisTokenUsage used = true

/-- A checkpoint reads back exactly what was recorded. -/
theorem ProviderCharge.Recorded.checkpoint {charge : ProviderCharge} (recorded : charge.Recorded) :
    charge.checkpoint = charge := by
  rcases recorded with ⟨requestId, usage, rfl, valid⟩
  cases usage with
  | none => rfl
  | some used =>
      have kept : JobExecution.getValidTokenUsageOrNull (some used) = some used := by
        rw [JobExecution.getValidTokenUsageOrNull, Option.filter_some, if_pos (valid used rfl)]
      change AnalysisTokenUsage.charge (JobExecution.getValidTokenUsageOrNull (some used)) _ = _
      rw [kept]
      rfl

/-- The charges that pass the checks of `recordProviderCharge`. -/
theorem validateRecordProviderCharge_recorded {input : RecordAnalysisJobProviderChargeInput}
    (valid : validateRecordProviderCharge input = .ok ()) : input.charge.Recorded := by
  rcases checked_bind_ok valid with ⟨_, _, rest⟩
  rcases checked_bind_ok rest with ⟨_, _, rest⟩
  rcases checked_bind_ok rest with ⟨_, _, counts⟩
  unfold RecordAnalysisJobProviderChargeInput.charge
  split at counts
  · rename_i prompt completion total
    rw [prompt, completion, total]
    exact ⟨input.providerRequestId, none, rfl, fun used same => by cases same⟩
  · rename_i promptTokens completionTokens totalTokens prompt completion total
    rcases checked_bind_ok counts with ⟨_, usage, _⟩
    rw [prompt, completion, total]
    refine ⟨input.providerRequestId, some ⟨promptTokens, completionTokens, totalTokens⟩, rfl,
      fun used same => ?_⟩
    cases same
    exact assertValidTokenUsage_ok usage
  · cases counts

theorem AnalysisJob.providerCharge_ne_none {job : AnalysisJob}
    (billed : job.hasProviderBillingEvidence = true) : job.providerCharge ≠ .none := by
  intro nothing
  rw [AnalysisJob.hasProviderBillingEvidence_eq_false.mpr nothing] at billed
  cases billed

/-- How a charge shows in the columns of a row. -/
structure AnalysisJob.Billing (job : AnalysisJob) : Prop where
  queued : job.status = .queued -> job.providerCharge = .none
  running : job.status = .running -> job.providerCharge = .none ∨
    job.providerCharge.Recorded ∧ job.reservedTokens.isSome = true
  failed : job.status = .failed ->
    (job.tokensSettledAt.isSome = true ∧ job.promptTokens.isSome = true ∧
      job.completionTokens.isSome = true ∧ job.totalTokens.isSome = true) ∨
    (job.tokensSettledAt = none ∧ job.lastErrorCode = some .providerReconciliationRequired)

namespace AnalysisJob.Billing

variable {job : AnalysisJob}

theorem of_queued (status : job.status = .queued) (unbilled : job.providerCharge = .none) :
    job.Billing where
  queued _ := unbilled
  running same := by rw [status] at same; cases same
  failed same := by rw [status] at same; cases same

theorem of_running (status : job.status = .running)
    (charged : job.providerCharge = .none ∨
      job.providerCharge.Recorded ∧ job.reservedTokens.isSome = true) : job.Billing where
  queued same := by rw [status] at same; cases same
  running _ := charged
  failed same := by rw [status] at same; cases same

theorem of_succeeded (status : job.status = .succeeded) : job.Billing where
  queued same := by rw [status] at same; cases same
  running same := by rw [status] at same; cases same
  failed same := by rw [status] at same; cases same

theorem of_failed (status : job.status = .failed)
    (ended : (job.tokensSettledAt.isSome = true ∧ job.promptTokens.isSome = true ∧
        job.completionTokens.isSome = true ∧ job.totalTokens.isSome = true) ∨
      (job.tokensSettledAt = none ∧ job.lastErrorCode = some .providerReconciliationRequired)) :
    job.Billing where
  queued same := by rw [status] at same; cases same
  running same := by rw [status] at same; cases same
  failed _ := ended

end AnalysisJob.Billing

/-- The guarded updates keep the billing of a row in order. -/
theorem JobUpdate.billing {deployment : Deployment} {past : History Services} {change : JobUpdate}
    {now : Instant} {job : AnalysisJob} (billing : job.Billing)
    (permitted : change.Permitted deployment past) (guarded : change.row.guard job = true) :
    (change.row.data now job).Billing := by
  have status := JobUpdate.guard_status guarded
  cases change with
  | start | claimQueued => exact .of_running rfl (Or.inl (billing.queued status))
  | claimAttempt | markPublished => exact .of_queued status (billing.queued status)
  | recordFailure input =>
      simp only [JobUpdate.row, GitMate.recordFailure]
      by_cases terminating : input.terminate = true
      · rw [if_pos terminating]
        exact .of_failed rfl (Or.inl ⟨rfl, rfl, rfl, rfl⟩)
      · rw [if_neg terminating]
        exact .of_queued status (billing.queued status)
  | recordProviderCharge input =>
      have reserved : job.reservedTokens.isSome = true := by
        simp only [JobUpdate.row, recordProviderChargeRow, Bool.and_eq_true, beq_iff_eq] at guarded
        rw [guarded.1.1.1.1.1.2]
        rfl
      exact .of_running status
        (Or.inr ⟨validateRecordProviderCharge_recorded permitted.1, reserved⟩)
  | takeOverExpiredLease | takeOverExpiredBilledLease | updateProgress =>
      exact .of_running status (billing.running status)
  | releaseForRetry input =>
      simp only [JobUpdate.row, releaseForRetryRow, Bool.and_eq_true, beq_iff_eq,
        List.isEmpty_iff] at guarded
      rcases guarded with ⟨⟨⟨⟨_, prompt⟩, completion⟩, total⟩, ids⟩
      refine .of_queued rfl ?_
      simp only [AnalysisJob.providerCharge, ProviderCharge.none, JobUpdate.row, releaseForRetryRow,
        prompt, completion, total, ids]

theorem newJob_billing (input : CreateAnalysisJobRecordInput) (environment : Environment) :
    (newJob input environment).Billing := .of_queued rfl rfl

/-- A termination settles a known usage, or leaves the charge to be
reconciled. -/
theorem TerminateWorkerJobInput.settles {input : TerminateWorkerJobInput} {paid : Bool}
    (valid : validateTransitionInput (input.transition paid) = .ok ()) :
    ((input.failure paid).tokensSettledAt.isSome = true ∧
      (input.failure paid).promptTokens.isSome = true ∧
      (input.failure paid).completionTokens.isSome = true ∧
      (input.failure paid).totalTokens.isSome = true) ∨
    ((input.failure paid).tokensSettledAt = none ∧
      (input.failure paid).errorCode = .providerReconciliationRequired) := by
  rcases checked_bind_ok valid with ⟨_, checked, _⟩
  unfold validateFailureInput at checked
  cases settled : (input.failure paid).tokensSettledAt with
  | none =>
      rw [settled] at checked
      simp only at checked
      split at checked
      · cases checked
      · rename_i unresolved
        rw [not_or, not_not] at unresolved
        exact Or.inr ⟨rfl, unresolved.1⟩
  | some settledAt =>
      rw [settled] at checked
      rcases checked_bind_ok checked with ⟨_, usage, _⟩
      cases prompt : (input.failure paid).promptTokens <;>
        cases completion : (input.failure paid).completionTokens <;>
        cases total : (input.failure paid).totalTokens <;>
        rw [prompt, completion, total] at usage <;>
        first
        | exact Or.inl ⟨rfl, rfl, rfl, rfl⟩
        | cases usage

/-- Every permitted command keeps the billing of a row in order. -/
theorem JobStep.billing {deployment : Deployment} {past : History Services}
    {environment : Environment} {order : Command} {job later : AnalysisJob}
    (step : JobStep environment order job later) (permitted : order.Permitted deployment past)
    (billing : job.Billing) : later.Billing := by
  cases step with
  | idle => exact billing
  | updated named guarded => exact JobUpdate.billing billing permitted guarded
  | recoveredUnreserved stale => exact .of_failed rfl (Or.inl ⟨rfl, rfl, rfl, rfl⟩)
  | recoveredReserved stale => exact .of_failed rfl (Or.inr ⟨rfl, rfl⟩)
  | reserved named valid guarded =>
      have status := (reserveTokensRow_guard guarded).1
      rcases billing.running status with unbilled | recorded
      · exact .of_running status (Or.inl unbilled)
      · exact .of_running status (Or.inr ⟨recorded.1, rfl⟩)
  | @terminated input paid linkedReport _ named valid guarded =>
      refine .of_failed rfl ?_
      rcases TerminateWorkerJobInput.settles valid with settled | ⟨unsettled, code⟩
      · exact Or.inl settled
      · exact Or.inr ⟨unsettled, congrArg (fun code : AnalysisJobFailureCode =>
          some code.toErrorCode) code⟩
  | saved named valid guarded => exact .of_succeeded rfl
  | settled named guarded unbilled => exact .of_failed rfl (Or.inl ⟨rfl, rfl, rfl, rfl⟩)

section Runs

variable {deployment : Deployment} {first last state after : SystemState deployment}
  {steps earlier : List (Transition (gitMate deployment))} {label : SystemLabel deployment}

theorem reachable_billing (initial : first.Initial) (run : Execution first steps last)
    {jobId : JobId} {job : AnalysisJob} (found : last.db.findJob jobId = some job) : job.Billing :=
  reachable_rows_permitted initial
    (fun _ _ there => .of_succeeded (initial.db.legacy _ (Table.mem_of_find? there)).2.1)
    (fun _ input environment _ => newJob_billing input environment)
    (fun _ _ _ _ _ step permitted _ billing => step.billing permitted billing) run found

/-! ## What the holder of a lease knows -/

/-- A lease has one holder. -/
theorem holder_unique (initial : first.Initial) (run : Execution first steps last)
    {index other : Nat} {jobId otherId : JobId} {leaseToken : Uuid}
    (holds : Holds (last.historyAt index) jobId leaseToken)
    (again : Holds (last.historyAt other) otherId leaseToken) : index = other := by
  refine run.always (fun state => Holds (state.historyAt index) jobId leaseToken ->
      Holds (state.historyAt other) otherId leaseToken -> index = other)
    (fun held => ?_) (fun earlier state label after reached known stepped => ?_) holds again
  · rcases held with ⟨change, did, _⟩
    unfold Did Happened State.historyAt at did
    rw [initial.processes] at did
    cases did
  · intro held heldAgain
    rcases holds_step initial reached stepped held with before | ⟨unused, _, _, performs⟩
    · rcases holds_step initial reached stepped heldAgain with
        beforeAgain | ⟨unusedAgain, _, _, _⟩
      · exact known before beforeAgain
      · exact absurd unusedAgain (before.used initial reached other)
    · rcases holds_step initial reached stepped heldAgain with
        beforeAgain | ⟨_, _, _, performsAgain⟩
      · exact absurd unused (beforeAgain.used initial reached index)
      · rcases performs.acts with ⟨choice, acts⟩
        rcases performsAgain.acts with ⟨choiceAgain, actsAgain⟩
        cases acts.symm.trans actsAgain
        rfl

/-- The events that tell a process the charge of a job. -/
inductive Tells : Event Services -> KnownCharge -> Prop where
  | read {jobId : JobId} {leaseToken : Uuid} {job : AnalysisJob} :
      Tells ⟨.query (.findRunningByLease jobId leaseToken), .ok (some job)⟩
        ⟨jobId, leaseToken, job.providerCharge⟩
  | recorded {input : RecordAnalysisJobProviderChargeInput} {outcome : Except AppError Bool} :
      Tells ⟨.command (.update (.recordProviderCharge input)), outcome⟩
        ⟨input.jobId, input.expectedLeaseToken, input.charge⟩

theorem Op.chargeAfter_origin {op : Op} {outcome : Except AppError op.Reply}
    {current : Option KnownCharge} {known : KnownCharge}
    (knows : op.chargeAfter current outcome = some known) :
    current = some known ∨ Tells ⟨op, outcome⟩ known := by
  cases op with
  | query question =>
      cases question with
      | findRunningByLease jobId leaseToken =>
          rcases outcome with error | (_ | job)
          · cases knows
          · cases knows
          · cases knows
            exact Or.inr .read
      | findWorkerJob => cases knows
      | findUser | requireClaimedJob | findDue | findOwnedById | findByIdempotencyKey
      | getCreationRateLimitStatus | findOwnedRepositoryByGithubId | findRepositoryWithOwner =>
          exact Or.inl knows
  | command order =>
      cases order with
      | update change =>
          cases change with
          | recordProviderCharge input =>
              cases knows
              exact Or.inr .recorded
          | start | claimQueued | takeOverExpiredLease | takeOverExpiredBilledLease => cases knows
          | updateProgress | releaseForRetry | claimAttempt | markPublished | recordFailure =>
              exact Or.inl knows
      | createExclusive | reserveWorkerTokens | terminateWorkerJob | saveAnalysisResult
      | settleFailure | upsertRepository => exact Or.inl knows
  | currentDate | randomUuid | random | collectAttempt | analyze | publishMessage
  | getAvailableRepos | receiveMessages | deleteMessages => exact Or.inl knows

/-- Only the holder of a lease may perform an operation that tells it the
charge of the job. -/
theorem Tells.holds {past : History Services} {op : Op} {outcome : Except AppError op.Reply}
    {known : KnownCharge} (tells : Tells ⟨op, outcome⟩ known)
    (permitted : op.Permitted deployment past) : Holds past known.jobId known.leaseToken := by
  cases tells with
  | read => exact permitted
  | recorded => exact permitted.1.2.1

/-- A process knows the charge of a job only while it holds its lease. -/
theorem knownCharge_holds (initial : first.Initial) (run : Execution first steps last)
    {index : Nat} {known : KnownCharge} (knows : knownCharge (last.historyAt index) = some known) :
    Holds (last.historyAt index) known.jobId known.leaseToken := by
  refine run.always (fun state => forall known, knownCharge (state.historyAt index) = some known ->
      Holds (state.historyAt index) known.jobId known.leaseToken)
    (fun known knows => ?_) (fun earlier state label after reached held stepped => ?_) known knows
  · rw [State.historyAt, initial.processes] at knows
    cases knows
  · intro known knows
    rcases State.historyAt_step stepped index with
      same | ⟨choice, op, resume, outcome, _, here, _, grown⟩
    · rw [same] at knows ⊢
      exact held known knows
    · rw [grown] at knows ⊢
      rw [knownCharge_append] at knows
      refine Holds.mono (List.prefix_append _ _) ?_
      rcases Op.chargeAfter_origin knows with before | tells
      · exact held known before
      · exact tells.holds ((reachable_disciplined initial reached).permits here)

/-- Under a lease that stays, the charge of a row changes only when it is
recorded. -/
theorem JobStep.providerCharge {environment : Environment} {order : Command}
    {job later : AnalysisJob} (step : JobStep environment order job later)
    (wellFormed : job.WellFormed) {leaseToken : Uuid}
    (held : later.leaseToken = some leaseToken) :
    order.installs = some leaseToken ∨ job.leaseToken = some leaseToken ∧
      (later.providerCharge = job.providerCharge ∨ Exists fun input =>
        order = .update (.recordProviderCharge input) ∧ job.id = input.jobId ∧
          input.expectedLeaseToken = leaseToken ∧ later.providerCharge = input.charge) := by
  cases step with
  | idle | reserved => exact Or.inr ⟨held, Or.inl rfl⟩
  | @updated change _ named guarded =>
      cases change with
      | start | claimQueued | takeOverExpiredLease | takeOverExpiredBilledLease =>
          exact Or.inl held
      | updateProgress | claimAttempt | markPublished => exact Or.inr ⟨held, Or.inl rfl⟩
      | releaseForRetry => cases held
      | recordFailure input =>
          have unleased := (wellFormed.queued (JobUpdate.guard_status guarded)).1
          have kept : ((JobUpdate.recordFailure input).row.data environment.application job).leaseToken =
              job.leaseToken := by
            simp only [JobUpdate.row, GitMate.recordFailure, AnalysisJob.publishFailed]
            split <;> rfl
          rw [kept, unleased] at held
          cases held
      | recordProviderCharge input =>
          have expected : job.leaseToken = some input.expectedLeaseToken :=
            JobUpdate.fence_guard rfl guarded
          cases expected.symm.trans held
          exact Or.inr ⟨expected, Or.inr ⟨input, rfl, named, rfl, rfl⟩⟩
  | recoveredUnreserved | recoveredReserved | terminated | saved | settled => cases held

/-- The charge under a lease that its holder keeps changes only when the
holder records it. -/
theorem leased_charge_step (initial : first.Initial) (reached : Execution first earlier state)
    (stepped : state.step label = some after) {index : Nat} {jobId : JobId} {leaseToken : Uuid}
    {row : AnalysisJob} (holds : Holds (state.historyAt index) jobId leaseToken)
    (found : after.db.findJob jobId = some row) (held : row.leaseToken = some leaseToken) :
    Exists fun job => state.db.findJob jobId = some job ∧ job.leaseToken = some leaseToken ∧
      (row.providerCharge = job.providerCharge ∨ Exists fun input => Exists fun outcome =>
        input.jobId = jobId ∧ input.expectedLeaseToken = leaseToken ∧
        row.providerCharge = input.charge ∧ after.historyAt index = state.historyAt index ++
          [⟨.command (.update (.recordProviderCharge input)), outcome⟩]) := by
  cases before : state.db.findJob jobId with
  | none =>
      rcases row_inserted stepped before found with ⟨input, environment, rfl⟩
      cases held
  | some job =>
      refine ⟨job, rfl, ?_⟩
      cases rowStep initial reached stepped before found with
      | same unchanged =>
          subst unchanged
          exact ⟨held, Or.inl rfl⟩
      | @performed acting choice order environment outcome acts pending grown permitted sound
          committed step =>
          rcases step.providerCharge (reachable_wellFormed initial reached before) held with
            installs | ⟨kept, same | ⟨input, rfl, named, expected, charged⟩⟩
          · exact absurd (permitted.unused installs) (holds.used initial reached acting)
          · exact ⟨kept, Or.inl same⟩
          · have sameJob : input.jobId = jobId := named.symm.trans (Table.key_of_find? before)
            have holder : Holds (state.historyAt acting) input.jobId input.expectedLeaseToken :=
              permitted.2.1
            have sameProcess : index = acting :=
              holder_unique initial reached holds (expected ▸ holder)
            rw [← sameProcess] at grown
            exact ⟨kept, Or.inr ⟨input, outcome, sameJob, expected, charged, grown⟩⟩

/-- What the holder of a lease knows of the charge of the job is what the row
has, if the row has any. -/
theorem knownCharge_agrees (initial : first.Initial) (run : Execution first steps last)
    {index : Nat} {known : KnownCharge} {row : AnalysisJob}
    (knows : knownCharge (last.historyAt index) = some known)
    (found : last.db.findJob known.jobId = some row)
    (held : row.leaseToken = some known.leaseToken) :
    row.providerCharge = .none ∨ row.providerCharge = known.charge := by
  refine run.always (fun state => forall (known : KnownCharge) (row : AnalysisJob),
      knownCharge (state.historyAt index) = some known ->
      state.db.findJob known.jobId = some row -> row.leaseToken = some known.leaseToken ->
      row.providerCharge = .none ∨ row.providerCharge = known.charge)
    (fun known row knows => ?_) (fun earlier state label after reached agrees stepped => ?_)
    known row knows found held
  · rw [State.historyAt, initial.processes] at knows
    cases knows
  · intro known row knows found held
    rcases State.historyAt_step stepped index with
      same | ⟨choice, op, resume, outcome, _, here, executed, grown⟩
    · rw [same] at knows
      rcases leased_charge_step initial reached stepped
          (knownCharge_holds initial reached knows) found held with
        ⟨job, before, kept, unchanged | ⟨input, outcome, _, _, _, added⟩⟩
      · rw [unchanged]
        exact agrees known job knows before kept
      · rw [same] at added
        cases List.self_eq_append_right.mp added
    · rw [grown, knownCharge_append] at knows
      have permitted := (reachable_disciplined initial reached).permits here
      rcases Op.chargeAfter_origin knows with before | tells
      · rcases leased_charge_step initial reached stepped
            (knownCharge_holds initial reached before) found held with
          ⟨job, there, kept, unchanged | ⟨input, recorded, sameJob, sameToken, charged, added⟩⟩
        · rw [unchanged]
          exact agrees known job before there kept
        · cases List.append_cancel_left (grown.symm.trans added)
          cases knows
          exact Or.inr charged
      · rcases leased_charge_step initial reached stepped (tells.holds permitted) found held with
          ⟨job, there, kept, unchanged | ⟨input, recorded, sameJob, sameToken, charged, added⟩⟩
        · rw [unchanged]
          cases tells with
          | read =>
              rcases (World.exec_query executed).2 _ rfl with ⟨now, read⟩
              have same := (Database.findRunningByLease_spec read.symm).1
              cases same.symm.trans there
              exact Or.inr rfl
          | recorded => exact Or.inl ((agrees _ job permitted.1.2.2 there kept).elim id id)
        · cases List.append_cancel_left (grown.symm.trans added)
          cases knows
          exact Or.inr charged

/-! ## Recorded charges stay -/

/-- A job with a recorded charge, and a row it may become: the row still has
exactly the charge and the reservation, and it is running, or has ended with
the charge settled, or has failed with the charge left to be reconciled. -/
structure ChargeKept (job row : AnalysisJob) : Prop where
  charge : row.providerCharge = job.providerCharge
  reservation : row.reservedTokens = job.reservedTokens
  reserved : job.isActive = true -> row.reservedTokens.isSome = true
  outcome : row.status = .running ∨
    (row.status = .succeeded ∧ (row.isLegacyReport = false -> row.Accounted)) ∨
    (row.status = .failed ∧ row.tokensSettledAt.isSome = true ∧ row.promptTokens.isSome = true ∧
      row.completionTokens.isSome = true ∧ row.totalTokens.isSome = true) ∨
    (row.status = .failed ∧ row.tokensSettledAt = none ∧
      row.lastErrorCode = some .providerReconciliationRequired)

/-- The columns of a recorded charge. -/
def AnalysisJob.chargeColumns (job : AnalysisJob) : ProviderCharge × Option Int :=
  (job.providerCharge, job.reservedTokens)

/-- No guarded update touches a recorded charge. -/
theorem JobUpdate.chargeColumns_data {change : JobUpdate} {now : Instant} {job : AnalysisJob}
    (billing : job.Billing) (billed : job.providerCharge ≠ .none)
    (guarded : change.row.guard job = true) :
    (change.row.data now job).chargeColumns = job.chargeColumns := by
  have status := JobUpdate.guard_status guarded
  cases change with
  | start | claimQueued | claimAttempt | markPublished | recordFailure =>
      exact absurd (billing.queued status) billed
  | takeOverExpiredLease | takeOverExpiredBilledLease | updateProgress => rfl
  | recordProviderCharge | releaseForRetry =>
      simp only [JobUpdate.row, recordProviderChargeRow, releaseForRetryRow, Bool.and_eq_true,
        beq_iff_eq, List.isEmpty_iff] at guarded
      refine absurd ?_ billed
      simp only [AnalysisJob.providerCharge, ProviderCharge.none, guarded]

/-- One step keeps a recorded charge. -/
theorem recorded_charge_step (initial : first.Initial) (reached : Execution first earlier state)
    (stepped : state.step label = some after) {jobId : JobId} {job row : AnalysisJob}
    (found : state.db.findJob jobId = some job) (later : after.db.findJob jobId = some row)
    (billed : job.providerCharge ≠ .none) : row.chargeColumns = job.chargeColumns := by
  have billing := reachable_billing initial reached found
  cases rowStep initial reached stepped found later with
  | same unchanged => rw [unchanged]
  | @performed index choice order environment outcome acts pending grown permitted sound committed
      step =>
      have agrees : forall {known : KnownCharge}, knownCharge (state.historyAt index) = some known ->
          known.jobId = jobId -> job.leaseToken = some known.leaseToken ->
          job.providerCharge = known.charge := by
        intro known knows named held
        subst named
        exact (knownCharge_agrees initial reached knows found held).resolve_left billed
      cases step with
      | idle | recoveredReserved => rfl
      | updated named guarded => exact JobUpdate.chargeColumns_data billing billed guarded
      | recoveredUnreserved stale =>
          have spec := isStaleUnreserved_spec stale
          rcases spec.2.2.2 with queued | running
          · exact absurd (billing.queued queued.1) billed
          · rcases billing.running running.1 with unbilled | recorded
            · exact absurd unbilled billed
            · rw [spec.2.1] at recorded
              cases recorded.2
      | reserved named valid guarded =>
          have guard := reserveTokensRow_guard guarded
          rcases billing.running guard.1 with unbilled | recorded
          · exact absurd unbilled billed
          · rw [guard.2.2.2.2.1] at recorded
            cases recorded.2
      | @terminated input paid linkedReport _ named valid guarded =>
          have guard := transitionStatus_failRunning_guard guarded
          rcases permitted with ⟨_, _, ⟨known, knows, charges⟩, _⟩
          have same : job.providerCharge = known :=
            agrees knows (named.symm.trans (Table.key_of_find? found)) guard.2.1
          have recorded := (billing.running guard.1).resolve_left billed
          have charged : input.charge = job.providerCharge := by
            rcases charges with nothing | exactly | checkpoint
            · exact absurd (same.trans nothing) billed
            · exact exactly.trans same.symm
            · rw [checkpoint, ← same]
              exact recorded.1.checkpoint
          exact congrArg (fun charge => (charge, job.reservedTokens)) charged
      | @saved input reportId linkedReport _ named valid guarded =>
          have guard := transitionStatus_succeed_guard guarded
          have same := agrees permitted.2.1 (named.symm.trans (Table.key_of_find? found)) guard.2.1
          exact congrArg (fun charge => (charge, job.reservedTokens)) same.symm
      | settled named guarded unbilled =>
          exact absurd (AnalysisJob.hasProviderBillingEvidence_eq_false.mp unbilled) billed

/-- Over every run, a recorded charge stays in its row. -/
theorem recorded_charge_kept (initial : first.Initial) (reached : Execution first earlier state)
    (run : Execution state steps last) {jobId : JobId} {job : AnalysisJob}
    (found : state.db.findJob jobId = some job) (billed : job.hasProviderBillingEvidence = true) :
    Exists fun row => last.db.findJob jobId = some row ∧ ChargeKept job row := by
  have recorded := AnalysisJob.providerCharge_ne_none billed
  have kept : Exists fun row => last.db.findJob jobId = some row ∧
      row.chargeColumns = job.chargeColumns := by
    refine run.always (fun later => Exists fun row => later.db.findJob jobId = some row ∧
      row.chargeColumns = job.chargeColumns) ⟨job, found, rfl⟩
      fun before middle label after between held stepped => ?_
    rcases held with ⟨row, here, same⟩
    rcases row_identity (Execution.start.next stepped) here with ⟨later, there, _⟩
    have charged : row.providerCharge ≠ .none := fun nothing =>
      recorded ((congrArg Prod.fst same).symm.trans nothing)
    exact ⟨later, there, (recorded_charge_step initial (reached.append between) stepped here there
      charged).trans same⟩
  rcases kept with ⟨row, there, same⟩
  have charge : row.providerCharge = job.providerCharge := congrArg Prod.fst same
  have reservation : row.reservedTokens = job.reservedTokens := congrArg Prod.snd same
  have before := reachable_billing initial reached found
  have billing := reachable_billing initial (reached.append run) there
  have wellFormed := reachable_wellFormed initial (reached.append run) there
  refine ⟨row, there, charge, reservation, fun active => ?_, ?_⟩
  · rw [reservation]
    rcases AnalysisJob.isActive_iff.mp active with queued | running
    · exact absurd (before.queued queued) recorded
    · exact ((before.running running).resolve_left recorded).2
  · cases status : row.status with
    | queued => exact absurd (charge.symm.trans (billing.queued status)) recorded
    | running => exact Or.inl rfl
    | succeeded => exact Or.inr (Or.inl ⟨rfl, wellFormed.accounted status⟩)
    | failed =>
        rcases billing.failed status with settled | unresolved
        · exact Or.inr (Or.inr (Or.inl ⟨rfl, settled⟩))
        · exact Or.inr (Or.inr (Or.inr ⟨rfl, unresolved⟩))

/-! ## The provider is not called again -/

/-- The job that an operation starts to execute: a claim looks it up and asks
for its lease, and an entry point of the runner looks it up under its
lease. -/
def Op.starts : Op -> Option JobId
  | .query (.findWorkerJob jobId) => some jobId
  | .query (.findRunningByLease jobId _) => some jobId
  | .command (.update change) => change.leases.map Prod.fst
  | _ => none

/-- A step in which a process starts to execute a job. -/
def Starts (step : Transition (gitMate deployment)) (index : Nat) (jobId : JobId) : Prop :=
  (Exists fun choice => step.label = .act index choice) ∧
    Exists fun op => step.before.pending index = some op ∧ op.starts = some jobId

/-- A step in which a process calls the provider. -/
def CallsProvider (step : Transition (gitMate deployment)) (index : Nat) : Prop :=
  (Exists fun choice => step.label = .act index choice) ∧
    Exists fun data => Exists fun version => step.before.pending index = some (.analyze data version)

/-- The process has read that the charge of the job is recorded, or knows of
no charge. -/
def Barred (past : History Services) (jobId : JobId) : Prop :=
  forall known, knownCharge past = some known -> known.jobId = jobId ∧ known.charge ≠ .none

/-- What a process that starts to execute a job knows of its charge is what it
has just read. -/
theorem Op.chargeAfter_starts {op : Op} {outcome : Except AppError op.Reply}
    {current : Option KnownCharge} {known : KnownCharge} {jobId : JobId}
    (starts : op.starts = some jobId) (knows : op.chargeAfter current outcome = some known) :
    Exists fun leaseToken => Exists fun job =>
      (⟨op, outcome⟩ : Event Services) =
        ⟨.query (.findRunningByLease jobId leaseToken), .ok (some job)⟩ ∧
      known = ⟨jobId, leaseToken, job.providerCharge⟩ := by
  cases op with
  | query question =>
      cases question with
      | findRunningByLease asked leaseToken =>
          cases starts
          rcases outcome with error | (_ | job)
          · cases knows
          · cases knows
          · cases knows
            exact ⟨leaseToken, job, rfl, rfl⟩
      | findWorkerJob => cases knows
      | findUser | requireClaimedJob | findDue | findOwnedById | findByIdempotencyKey
      | getCreationRateLimitStatus | findOwnedRepositoryByGithubId | findRepositoryWithOwner =>
          cases starts
  | command order =>
      cases order with
      | update change =>
          cases change with
          | start | claimQueued | takeOverExpiredLease | takeOverExpiredBilledLease => cases knows
          | recordProviderCharge | updateProgress | releaseForRetry | claimAttempt | markPublished
          | recordFailure => cases starts
      | createExclusive | reserveWorkerTokens | terminateWorkerJob | saveAnalysisResult
      | settleFailure | upsertRepository => cases starts
  | currentDate | randomUuid | random | collectAttempt | analyze | publishMessage
  | getAvailableRepos | receiveMessages | deleteMessages => cases starts

/-- A process that starts to execute a job with a recorded charge is barred. -/
theorem Barred.of_starts {index : Nat} {choice : Choice} {op : Op} {outcome : Except AppError op.Reply} {jobId : JobId}
    {job : AnalysisJob} (executed : World.exec op choice state.world = some (outcome, after.world))
    (grown : after.historyAt index = state.historyAt index ++ [⟨op, outcome⟩])
    (starts : op.starts = some jobId) (found : state.db.findJob jobId = some job)
    (billed : job.providerCharge ≠ .none) : Barred (after.historyAt index) jobId := by
  intro known knows
  rw [grown, knownCharge_append] at knows
  rcases Op.chargeAfter_starts starts knows with ⟨leaseToken, read, event, rfl⟩
  cases event
  refine ⟨rfl, ?_⟩
  rcases (World.exec_query executed).2 _ rfl with ⟨now, reply⟩
  cases (Database.findRunningByLease_spec reply.symm).1.symm.trans found
  exact billed

/-- A process that is barred stays so until it starts to execute a job. -/
theorem Barred.append {past : History Services} {op : Op} {outcome : Except AppError op.Reply}
    {jobId : JobId} (barred : Barred past jobId) (permitted : op.Permitted deployment past)
    (starts : op.starts = none) : Barred (past ++ [⟨op, outcome⟩]) jobId := by
  intro known knows
  rw [knownCharge_append] at knows
  rcases Op.chargeAfter_origin knows with before | tells
  · exact barred known before
  · cases tells with
    | read => cases starts
    | recorded => exact absurd rfl (barred _ permitted.1.2.2).2

/-- From a start of a job with a recorded charge on, a process is barred until
it starts to execute another job. -/
theorem barred_after_start (initial : first.Initial) {start : Transition (gitMate deployment)}
    (reached : Execution first earlier start.before)
    (stepped : start.before.step start.label = some start.after)
    (run : Execution start.after steps last) {index : Nat} {jobId : JobId} {job : AnalysisJob}
    (found : start.before.db.findJob jobId = some job)
    (billed : job.hasProviderBillingEvidence = true) (starts : Starts start index jobId)
    (alone : forall another, another ∈ steps -> forall other, Starts another index other ->
      other = jobId) :
    Barred (last.historyAt index) jobId := by
  have recorded := AnalysisJob.providerCharge_ne_none billed
  refine run.invariant (fun another => forall other, Starts another index other -> other = jobId)
    (fun state => Barred (state.historyAt index) jobId) ?_
    (fun between state label after through _ barred same moved => ?_) alone
  · rcases starts with ⟨⟨choice, acts⟩, op, pending, names⟩
    rw [acts] at stepped
    rcases State.historyAt_act stepped pending with ⟨resume, outcome, _, executed, grown⟩
    exact .of_starts executed grown names found recorded
  · rcases State.historyAt_step moved index with
      unmoved | ⟨choice, op, resume, outcome, acts, here, executed, grown⟩
    · rw [unmoved]
      exact barred
    · have before := (reached.next stepped).append through
      cases names : op.starts with
      | none =>
          rw [grown]
          exact barred.append ((reachable_disciplined initial before).permits here) names
      | some other =>
          have sameJob := same other
            ⟨⟨choice, acts⟩, op, SystemState.pending_of_getElem? here, names⟩
          subst sameJob
          rcases recorded_charge_kept initial reached ((Execution.start.next stepped).append through)
            found billed with ⟨row, there, kept⟩
          exact .of_starts executed grown names there (kept.charge.symm ▸ recorded)

/-- Provider billing is final.  Once a charge is recorded on a job, its row
keeps exactly that charge and the reservation, is never queued again, and can
only end with the charge settled or left to be reconciled; and a process that
starts to execute the job afterwards does not call the provider before it has
started to execute another one. -/
theorem recorded_charge_final (initial : first.Initial) (run : Execution first steps last) :
    (forall earlier state rest, Execution first earlier state -> Execution state rest last ->
      forall jobId job, state.db.findJob jobId = some job ->
        job.hasProviderBillingEvidence = true ->
        Exists fun row => last.db.findJob jobId = some row ∧ ChargeKept job row) ∧
    (forall earlier start middle call rest, steps = earlier ++ start :: (middle ++ call :: rest) ->
      forall index jobId job, start.before.db.findJob jobId = some job ->
        job.hasProviderBillingEvidence = true -> Starts start index jobId ->
        CallsProvider call index ->
        Exists fun another => another ∈ middle ∧
          Exists fun other => other ≠ jobId ∧ Starts another index other) := by
  constructor
  · exact fun earlier state rest reached following jobId job found billed =>
      recorded_charge_kept initial reached following found billed
  · intro earlier start middle call rest split index jobId job found billed starts calls
    subst split
    rcases run.around with ⟨reached, stepped, following⟩
    rcases following.around with ⟨between, called, _⟩
    by_contra alone
    have barred := barred_after_start initial reached stepped between found billed starts
      fun another member other startsOther => by_contra fun different =>
        alone ⟨another, member, other, different, startsOther⟩
    rcases calls with ⟨⟨choice, acts⟩, data, version, pending⟩
    rw [acts] at called
    rcases State.historyAt_act called pending with ⟨resume, outcome, here, _, _⟩
    have calling := (reached.next stepped).append between
    rcases (reachable_disciplined initial calling).permits here with ⟨called, leaseToken, knows⟩
    exact (barred _ knows).2 rfl

end Runs

/-- A worker dies after it has recorded the charge of a job. -/
def chargedScript : List (SystemLabel DEFAULT_DEPLOYMENT) :=
  [.spawn (.create 1 "R1" "key-1")] ++
    perform 0 (createChoices 1000 1 100 ++ publishChoices 1000) ++
    [.spawn .worker] ++ perform 1 (claimChoices 2000 0 101 ++
      [foundChoice, .date 2000, .committed 2000 0] ++ (analyzeChoices 2000 1).take 7) ++ [.crash 1]

/-- The message is delivered again when the lease has expired, and another
worker takes the job over and reconciles the charge. -/
def reconcileScript : List (SystemLabel DEFAULT_DEPLOYMENT) :=
  [.internal (.visibilityTimeout 0), .spawn .worker] ++
    perform 2 (claimChoices 1000000 0 102 ++ [.date 1000000, .committed 1000000 0])

def chargedState : SystemState DEFAULT_DEPLOYMENT :=
  (smallState DEFAULT_DEPLOYMENT).after chargedScript

/-- The job has failed with the charge that the first worker recorded. -/
theorem recorded_charge_final_takeover :
    ((chargedState.after reconcileScript).db.findJob 1).map AnalysisJob.providerCharge =
      some ⟨some 600, some 400, some 1000, ["request-1"]⟩ := by
  rcases State.after_run (show ((smallState DEFAULT_DEPLOYMENT).play chargedScript).isSome = true
    by decide +kernel) with ⟨earlier, reached⟩
  rcases State.after_run (show (chargedState.play reconcileScript).isSome = true
    by decide +kernel) with ⟨rest, following⟩
  have charged : (chargedState.db.findJob 1).map AnalysisJob.providerCharge =
      some ⟨some 600, some 400, some 1000, ["request-1"]⟩ := by decide +kernel
  have evidence : (chargedState.db.findJob 1).all AnalysisJob.hasProviderBillingEvidence = true := by
    decide +kernel
  rcases Option.map_eq_some_iff.mp charged with ⟨job, found, charge⟩
  rw [found] at evidence
  rcases (recorded_charge_final (smallState_initial DEFAULT_DEPLOYMENT)
    (reached.append following)).1 earlier chargedState rest reached following 1 job found evidence
    with ⟨row, there, kept⟩
  rw [there, Option.map_some, kept.charge, charge]

end GitMate
