import GitMate.Service.Runs

namespace GitMate

open Relational Interleaving Machine

/-!
# Success and reports

A job ends as a success in the one transaction that also stores its report,
counts it in the statistics of its user and settles its tokens.  So a job of
the ledger has succeeded exactly when a report is linked to it, and a
transaction that fails anywhere leaves nothing behind.
-/

/-! ## Who succeeds -/

/-- No guarded update makes a job succeed. -/
theorem JobUpdate.not_succeeded {change : JobUpdate} {job : AnalysisJob}
    (guarded : change.row.guard job = true) (now : Instant) :
    (change.row.data now job).status ≠ .succeeded := by
  have unfinished : job.status ≠ .succeeded := by
    intro succeeded
    have active := AnalysisJob.isActive_iff.mp (JobUpdate.guard_active guarded)
    rw [succeeded] at active
    rcases active with queued | running
    · cases queued
    · cases running
  cases change with
  | start | claimQueued | releaseForRetry => exact fun same => by cases same
  | recordFailure input =>
      simp only [JobUpdate.row, GitMate.recordFailure]
      by_cases terminating : input.terminate = true
      · rw [if_pos terminating]
        exact fun same => by cases same
      · rw [if_neg terminating]
        exact unfinished
  | recordProviderCharge | takeOverExpiredLease | takeOverExpiredBilledLease | updateProgress
  | claimAttempt | markPublished => exact unfinished

/-- Only the success transaction of a job makes it succeed. -/
theorem JobStep.succeeded_iff {environment : Environment} {command : Command}
    {job later : AnalysisJob} (step : JobStep environment command job later)
    (unsaved : forall input, command = .saveAnalysisResult input -> job.id ≠ input.jobId) :
    later.status = .succeeded ↔ job.status = .succeeded := by
  constructor
  · intro succeeded
    cases step with
    | idle => exact succeeded
    | updated named guarded => exact absurd succeeded (JobUpdate.not_succeeded guarded _)
    | reserved named valid guarded => exact succeeded
    | recoveredUnreserved | recoveredReserved | terminated | settled => cases succeeded
    | saved named valid guarded => exact absurd named (unsaved _ rfl)
  · intro succeeded
    rcases step.active_or_same with active | same
    · rw [AnalysisJob.isActive_iff, succeeded] at active
      rcases active with queued | running
      · cases queued
      · cases running
    · rw [same]
      exact succeeded

/-! ## Reports of a job -/

/-- A job has one report of its own when it has succeeded, and none
otherwise. -/
structure Database.Reported (db : Database) (jobId : JobId) : Prop where
  unreported : (forall job, db.findJob jobId = some job -> job.status ≠ .succeeded) ->
    db.reportsOf jobId = []
  reported : forall job, db.findJob jobId = some job -> job.status = .succeeded ->
    Exists fun report => db.reportsOf jobId = [report] ∧ report.userId = job.userId ∧
      report.repositoryId = job.repositoryId

/-- Other commands than a success leave the reports and the statistics
alone. -/
theorem Committed.reports_same {environment : Environment} {db after : Database}
    {command : Command} (committed : Committed environment db command after)
    (unsaved : forall input, command ≠ .saveAnalysisResult input) :
    after.analysisReports = db.analysisReports ∧ after.userStats = db.userStats := by
  cases committed with
  | saved => exact absurd rfl (unsaved _)
  | updated | created | reserved | terminated | settled | relisted | listed => exact ⟨rfl, rfl⟩

theorem Database.reportsOf_eq_nil_of_linkedReport {db : Database} {jobId : JobId}
    (unlinked : db.linkedReport jobId = none) : db.reportsOf jobId = [] := by
  have none := List.find?_eq_none.mp (Option.map_eq_none_iff.mp unlinked)
  exact List.filter_eq_nil_iff.mpr none

/-- A command that is no success of this job keeps what the job's row and its
reports say about each other. -/
theorem Database.Reported.of_unsaved {environment : Environment} {db after : Database}
    {command : Command} {jobId : JobId} (committed : Committed environment db command after)
    (unsaved : forall input, command = .saveAnalysisResult input -> jobId ≠ input.jobId)
    (reports : after.reportsOf jobId = db.reportsOf jobId) (reported : db.Reported jobId) :
    after.Reported jobId := by
  have fate := committed.evolves jobId
  generalize before : db.findJob jobId = old at fate
  generalize later : after.findJob jobId = new at fate
  cases fate with
  | absent =>
      refine ⟨fun _ => reports.trans (reported.unreported fun job found => ?_),
        fun job found => ?_⟩
      · rw [before] at found
        cases found
      · rw [later] at found
        cases found
  | inserted =>
      refine ⟨fun _ => reports.trans (reported.unreported fun job found => ?_),
        fun job found succeeded => ?_⟩
      · rw [before] at found
        cases found
      · rw [later] at found
        cases found
        cases succeeded
  | @evolved job row step =>
      have same := step.succeeded_iff fun input saving named =>
        unsaved input saving ((Table.key_of_find? before).symm.trans named)
      have identity := step.identity
      constructor
      · intro unfinished
        refine reports.trans (reported.unreported fun old found succeeded => ?_)
        rw [before] at found
        cases found
        exact unfinished row later (same.mpr succeeded)
      · intro found there succeeded
        rw [later] at there
        cases there
        rcases reported.reported job before (same.mp succeeded) with ⟨report, only, user, repository⟩
        exact ⟨report, reports.trans only, user.trans (congrArg JobIdentity.userId identity).symm,
          repository.trans (congrArg JobIdentity.repositoryId identity).symm⟩

/-- Every command keeps what the rows and the reports say about each
other. -/
theorem Committed.keeps_reported {environment : Environment} {db after : Database}
    {command : Command} (committed : Committed environment db command after) {jobId : JobId}
    (reported : db.Reported jobId) : after.Reported jobId := by
  by_cases saving : Exists fun input => command = .saveAnalysisResult input
  · rcases saving with ⟨input, rfl⟩
    by_cases concerned : jobId = input.jobId
    · subst concerned
      cases committed with
      | @saved _ reportId userStats linkedReport job fresh unlinked counted owner valid found
          guarded =>
          have held := transitionStatus_succeed_guard guarded
          have row := @RowUpdate.find?_apply
            (transitionStatus linkedReport (input.transition reportId environment.application))
            db.analysisJobs environment.application job found guarded
          have nothing := Database.reportsOf_eq_nil_of_linkedReport unlinked
          constructor
          · intro unfinished
            exact absurd rfl (unfinished _ row)
          · intro later there succeeded
            cases row.symm.trans there
            refine ⟨input.report reportId, ?_, held.2.2.2.1.symm, held.2.2.2.2.1.symm⟩
            change (db.analysisReports.rows ++ [input.report reportId]).filter _ = _
            rw [List.filter_append]
            change db.reportsOf input.jobId ++ _ = _
            rw [nothing]
            simp only [SaveAnalysisResultInput.report, List.nil_append, beq_self_eq_true,
              List.filter_cons_of_pos, List.filter_nil]
    · refine reported.of_unsaved committed (fun other same => ?_) ?_
      · cases same
        exact concerned
      · cases committed with
        | @saved _ reportId userStats linkedReport job fresh unlinked counted owner valid found
            guarded =>
            change (db.analysisReports.rows ++ [input.report reportId]).filter _ = _
            rw [List.filter_append]
            have other : (some input.jobId == some jobId) = false :=
              beq_eq_false_iff_ne.mpr fun same => concerned (Option.some.inj same).symm
            simp only [SaveAnalysisResultInput.report, List.filter_cons, other, Bool.false_eq_true,
              if_false, List.filter_nil, List.append_nil]
            rfl
  · refine reported.of_unsaved committed (fun input same => absurd ⟨input, same⟩ saving) ?_
    have same := committed.reports_same fun input isSave => saving ⟨input, isSave⟩
    unfold Database.reportsOf
    rw [same.1]

/-! ## Statistics -/

/-- The number of reports of a user. -/
def Database.reportCount (db : Database) (userId : UserId) : Nat :=
  db.analysisReports.rows.countP fun report => report.userId == userId

/-- Reports and counted analyses grow together. -/
theorem Committed.counts {environment : Environment} {db after : Database} {command : Command}
    (committed : Committed environment db command after) (userId : UserId) :
    Exists fun more => after.reportCount userId = db.reportCount userId + more ∧
      analysisCount after.userStats userId = analysisCount db.userStats userId + more := by
  by_cases saving : Exists fun input => command = .saveAnalysisResult input
  · rcases saving with ⟨input, rfl⟩
    cases committed with
    | @saved _ reportId userStats linkedReport job fresh unlinked counted owner valid found
        guarded =>
        refine ⟨if userId = input.userId then 1 else 0, ?_, counted userId⟩
        change (db.analysisReports.rows ++ [input.report reportId]).countP _ = _
        rw [List.countP_append, List.countP_singleton]
        simp only [SaveAnalysisResultInput.report, beq_iff_eq, @eq_comm _ userId]
        rfl
  · have same := committed.reports_same fun input isSave => saving ⟨input, isSave⟩
    refine ⟨0, ?_, ?_⟩
    · unfold Database.reportCount
      rw [same.1, Nat.add_zero]
    · rw [same.2, Nat.add_zero]

/-! ## Failures inside the success transaction -/

/-- One of the steps of the success transaction fails after the steps before
it have succeeded. -/
inductive SaveFails (input : SaveAnalysisResultInput) (session : Session) (error : AppError) :
    Prop where
  | report (failed : createReport input session = .error error)
  | stats {reportId : Nat} {reported : Session}
      (created : createReport input session = .ok (reportId, reported))
      (failed : updateStats input.userId input.metrics reported = .error error)
  | refund {reportId : Nat} {reported counted : Session}
      (created : createReport input session = .ok (reportId, reported))
      (updated : updateStats input.userId input.metrics reported = .ok ((), counted))
      (failed : refundTokens input.userId (input.reservedTokens - input.usage.totalTokens) true
        counted = .error error)
  | transition {reportId : Nat} {reported counted refunded : Session}
      (created : createReport input session = .ok (reportId, reported))
      (updated : updateStats input.userId input.metrics reported = .ok ((), counted))
      (credited : refundTokens input.userId (input.reservedTokens - input.usage.totalTokens) true
        counted = .ok ((), refunded))
      (failed : GitMate.transition
        (input.transition reportId refunded.environment.application) refunded = .error error)
  | completion {reportId : Nat} {reported counted refunded ended : Session}
      (created : createReport input session = .ok (reportId, reported))
      (updated : updateStats input.userId input.metrics reported = .ok ((), counted))
      (credited : refundTokens input.userId (input.reservedTokens - input.usage.totalTokens) true
        counted = .ok ((), refunded))
      (succeeded : GitMate.transition
        (input.transition reportId refunded.environment.application) refunded = .ok ((), ended))
      (failed : runCompletionAction input.completionAction ended = .error error)

theorem Tx.bind_of_ok {α β : Type} {first : Tx α} {next : α -> Tx β} {value : α}
    {session middle : Session} (ran : first session = .ok (value, middle)) :
    (first >>= next) session = next value middle := by
  simp only [bind, ran]

theorem Tx.bind_of_error {α β : Type} {first : Tx α} {next : α -> Tx β} {error : AppError}
    {session : Session} (failed : first session = .error error) :
    (first >>= next) session = .error error := by
  simp only [bind, failed]

/-- Whichever step fails, the transaction body fails. -/
theorem SaveFails.body {input : SaveAnalysisResultInput} {session : Session} {error : AppError}
    (fails : SaveFails input session error) : saveAnalysisResult input session = .error error := by
  unfold saveAnalysisResult
  cases fails with
  | report failed => exact Tx.bind_of_error failed
  | stats created failed =>
      rw [Tx.bind_of_ok created]
      exact Tx.bind_of_error failed
  | refund created updated failed =>
      rw [Tx.bind_of_ok created, Tx.bind_of_ok updated]
      exact Tx.bind_of_error failed
  | @transition reportId reported counted refunded created updated credited failed =>
      have dated : Tx.currentDate refunded = .ok (refunded.environment.application, refunded) := rfl
      rw [Tx.bind_of_ok created, Tx.bind_of_ok updated, Tx.bind_of_ok credited,
        Tx.bind_of_ok dated]
      exact Tx.bind_of_error failed
  | @completion reportId reported counted refunded ended created updated credited succeeded failed =>
      have dated : Tx.currentDate refunded = .ok (refunded.environment.application, refunded) := rfl
      rw [Tx.bind_of_ok created, Tx.bind_of_ok updated, Tx.bind_of_ok credited,
        Tx.bind_of_ok dated, Tx.bind_of_ok succeeded]
      exact failed

/-- A success transaction that fails anywhere leaves the database as it
was. -/
theorem SaveFails.unchanged {deployment : Deployment} {state after : SystemState deployment}
    {index : Nat} {commit : Commit} {input : SaveAnalysisResultInput} {error : AppError}
    (stepped : state.step (.act index (.commit commit)) = some after)
    (pending : state.pending index = some (.command (.saveAnalysisResult input)))
    (fails : SaveFails input ⟨state.db, commit.environment, commit.interruption⟩ error) :
    after.db = state.db := by
  rcases State.step_act stepped with ⟨op, resume, past, outcome, world, here, executed, rfl⟩
  rw [SystemState.pending_of_getElem? here] at pending
  cases pending
  change state.world.perform (.saveAnalysisResult input) (.commit commit) = _ at executed
  simp only [World.perform] at executed
  split at executed
  · have rolledBack : state.world.db.transaction commit (saveAnalysisResult input) = _ :=
      Database.transaction_error fails.body
    simp only [Command.run, rolledBack] at executed
    cases executed
    rfl
  · cases executed

/-! ## Over every run -/

section Runs

variable {deployment : Deployment} {first last : SystemState deployment}
  {steps : List (Transition (gitMate deployment))}

theorem reachable_reported (initial : first.Initial) (run : Execution first steps last)
    {jobId : JobId} (new : first.db.findJob jobId = none) : last.db.Reported jobId := by
  have nothing : first.db.reportsOf jobId = [] := by
    refine List.filter_eq_nil_iff.mpr fun report member linked => ?_
    rcases initial.db.linked report member jobId (beq_iff_eq.mp linked) with ⟨job, found⟩
    rw [new] at found
    cases found
  refine run.always (fun state => state.db.Reported jobId)
    ⟨fun _ => nothing, fun job found => by rw [new] at found; cases found⟩
    fun earlier state label after reached held stepped => ?_
  cases SystemState.databaseStep stepped with
  | quiet same => rw [same]; exact held
  | performed pending committed => exact committed.keeps_reported held

/-- A job of the ledger does not carry the key of a backfilled one. -/
theorem Accepts.not_legacy {past : History Services} {input : CreateAnalysisJobRecordInput}
    (accepts : Accepts past input) : startsWith input.idempotencyKey "legacy-report:" = false := by
  cases accepts with
  | api valid owner retried windowed =>
      simp only [IdempotencyKeyPipe.isValid, Bool.and_eq_true, Bool.not_eq_true'] at valid
      exact valid.1.1.2
  | sync owner mine clock =>
      simp only [CreateAnalysisJobInput.record, startsWith, syncKey, String.toList_append]
      rfl

/-- A job of the ledger has succeeded exactly when one report is linked to it.
The report is of the job's user and repository, and the job is then settled,
complete and unleased.  The statistics of a user count the reports of the
user, if they did at first.  And a success transaction of which any step fails
leaves the whole database as it was. -/
theorem succeeded_iff_reported (initial : first.Initial) (run : Execution first steps last) :
    (forall jobId job, first.db.findJob jobId = none -> last.db.findJob jobId = some job ->
      (job.status = .succeeded ↔ Exists fun report => last.db.reportsOf jobId = [report]) ∧
      (forall report, report ∈ last.db.reportsOf jobId ->
        report.userId = job.userId ∧ report.repositoryId = job.repositoryId) ∧
      (job.status = .succeeded ->
        job.Accounted ∧ job.leaseToken = none ∧ job.leaseExpiresAt = none)) ∧
    (forall userId, analysisCount first.db.userStats userId = first.db.reportCount userId ->
      analysisCount last.db.userStats userId = last.db.reportCount userId) ∧
    (forall step, step ∈ steps -> forall index commit input error,
      step.label = .act index (.commit commit) ->
      step.before.pending index = some (.command (.saveAnalysisResult input)) ->
      SaveFails input ⟨step.before.db, commit.environment, commit.interruption⟩ error ->
        step.after.db = step.before.db) := by
  refine ⟨fun jobId job new found => ⟨⟨?_, ?_⟩, ?_, ?_⟩, fun userId counted => ?_, ?_⟩
  · intro succeeded
    rcases (reachable_reported initial run new).reported job found succeeded with ⟨report, only, _⟩
    exact ⟨report, only⟩
  · rintro ⟨report, only⟩
    by_contra unfinished
    have nothing := (reachable_reported initial run new).unreported fun row there => by
      rw [found] at there
      cases there
      exact unfinished
    rw [nothing] at only
    cases only
  · intro report member
    by_cases succeeded : job.status = .succeeded
    · rcases (reachable_reported initial run new).reported job found succeeded with
        ⟨other, only, user, repository⟩
      rw [only, List.mem_singleton] at member
      rw [member]
      exact ⟨user, repository⟩
    · have nothing := (reachable_reported initial run new).unreported fun row there => by
        rw [found] at there
        cases there
        exact succeeded
      rw [nothing] at member
      cases member
  · intro succeeded
    rcases created_row initial run new found with ⟨past, input, environment, accepts, same⟩
    have key : job.idempotencyKey = input.idempotencyKey :=
      congrArg JobIdentity.idempotencyKey same
    have ledger : job.isLegacyReport = false := by
      unfold AnalysisJob.isLegacyReport
      rw [key]
      exact accepts.not_legacy
    have wellFormed := reachable_wellFormed initial run found
    exact ⟨wellFormed.accounted succeeded ledger,
      wellFormed.unleased (by rw [succeeded]; exact fun same => by cases same)⟩
  · refine run.always
      (fun state => analysisCount state.db.userStats userId = state.db.reportCount userId) counted
      fun earlier state label after reached held stepped => ?_
    cases SystemState.databaseStep stepped with
    | quiet same => rw [same]; exact held
    | performed pending committed =>
        rcases committed.counts userId with ⟨more, reports, counts⟩
        rw [reports, counts, held]
  · intro step member index commit input error acts pending fails
    have stepped := (run.reaches_step member).2
    rw [acts] at stepped
    exact fails.unchanged stepped pending

/-- The job of the small world succeeds, and with it a report is stored. -/
theorem succeeded_iff_reported_after_success :
    Exists fun report =>
      ((smallState DEFAULT_DEPLOYMENT).after successScript).db.reportsOf 1 = [report] := by
  rcases State.after_run (show ((smallState DEFAULT_DEPLOYMENT).play successScript).isSome = true
    by decide +kernel) with ⟨steps, run⟩
  have succeeded : (((smallState DEFAULT_DEPLOYMENT).after successScript).db.findJob 1).map
      AnalysisJob.status = some .succeeded := by decide +kernel
  rcases Option.map_eq_some_iff.mp succeeded with ⟨job, found, status⟩
  exact ((succeeded_iff_reported (smallState_initial DEFAULT_DEPLOYMENT) run).1 1 job rfl
    found).1.mp status

end Runs
end GitMate
