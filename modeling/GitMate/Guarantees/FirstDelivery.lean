import GitMate.Guarantees.GivenUp

namespace GitMate

open Relational Interleaving Machine Program

/-!
# The first delivery of a job

A publish attempt and a retry share one column of a job.  Before it sends the
message of a job, a publisher puts the end of its attempt there, and only after
the send it empties the column again; a worker that gives a job back puts the
end of the backoff there.  A worker that claims the job of a message reads the
column in either case.  So a message that overtakes its own publisher finds a
job that nobody has ever started and that is not due.
-/

/-! ## What a claim makes of the rows it reads -/

/-- The row would be claimed later, but not yet. -/
def AnalysisJob.isNotDue (job : AnalysisJob) (now : Instant) : Bool :=
  !job.isTerminal && !nullOrDue job.nextPublishAt now

theorem AnalysisJob.isNotDue_iff {job : AnalysisJob} {now : Instant} :
    job.isNotDue now = true ↔
      job.isTerminal = false ∧ nullOrDue job.nextPublishAt now = false := by
  rw [isNotDue, Bool.and_eq_true, Bool.not_eq_true', Bool.not_eq_true']

section Claims

open AnalysisWorkerRepository

variable {jobId : JobId} {leaseToken : Uuid} {now leaseExpiresAt : Instant}
  {events : History Services} {answer : AnalysisWorkerClaimResult}

/-- A program that queries first and returns has been answered. -/
theorem run_query {question : Query} {α : Type} {next : question.Reply -> Service α} {value : α}
    (ran : Run (Service.query question >>= next) events (.done value)) :
    Exists fun reply => Exists fun later =>
      events = ⟨.query question, .ok reply⟩ :: later ∧ Run (next reply) later (.done value) := by
  rcases Run.of_request ran with ⟨_, unfinished⟩ | ⟨outcome, later, split, onward⟩
  · cases unfinished
  · cases outcome with
    | ok reply => exact ⟨reply, later, split, onward⟩
    | error fault => cases onward.of_fail.2

/-- A program that performs a command first and returns has been answered. -/
theorem run_command {order : Command} {α : Type} {next : order.Reply -> Service α} {value : α}
    (ran : Run (Service.command order >>= next) events (.done value)) :
    Exists fun reply => Exists fun later =>
      events = ⟨.command order, .ok reply⟩ :: later ∧ Run (next reply) later (.done value) := by
  rcases Run.of_request ran with ⟨_, unfinished⟩ | ⟨outcome, later, split, onward⟩
  · cases unfinished
  · cases outcome with
    | ok reply => exact ⟨reply, later, split, onward⟩
    | error fault => cases onward.of_fail.2

/-- A lost race is not due exactly if the row that is read again is not. -/
theorem resolveClaimRace_notDue
    (ran : Run (resolveClaimRace jobId now) events (.done answer)) :
    Exists fun found => events = [⟨.query (.findWorkerJob jobId), .ok found⟩] ∧
      (answer = .notDue ↔ Exists fun row : AnalysisWorkerJob =>
        found = some row ∧ row.job.isNotDue now = true) := by
  rcases run_query ran with ⟨found, later, rfl, onward⟩
  refine ⟨found, ?_⟩
  cases found with
  | none =>
      rcases onward.of_done with ⟨rfl, answered⟩
      cases answered
      exact ⟨rfl, fun same => (by cases same), fun ⟨row, same, _⟩ => (by cases same)⟩
  | some row =>
      have only : (Exists fun other : AnalysisWorkerJob =>
          some row = some other ∧ other.job.isNotDue now = true) ↔
          row.job.isTerminal = false ∧ nullOrDue row.job.nextPublishAt now = false := by
        rw [← AnalysisJob.isNotDue_iff]
        exact ⟨fun ⟨other, same, notDue⟩ => Option.some.inj same ▸ notDue,
          fun notDue => ⟨row, rfl, notDue⟩⟩
      rw [only]
      simp only at onward
      split at onward
      · rename_i terminal
        rcases onward.of_done with ⟨rfl, answered⟩
        cases answered
        rw [terminal]
        exact ⟨rfl, fun same => (by cases same), fun notDue => (by cases notDue.1)⟩
      · rename_i active
        rw [Bool.not_eq_true] at active
        split at onward
        · rename_i undue
          rcases onward.of_done with ⟨rfl, answered⟩
          cases answered
          exact ⟨rfl, fun _ => ⟨active, undue⟩, fun _ => rfl⟩
        · rename_i due
          have elsewhere : later = [] ∧ answer ≠ .notDue := by
            split at onward
            · rcases onward.of_done with ⟨none, answered⟩
              exact ⟨none, fun same => by rw [same] at answered; cases answered⟩
            · split at onward
              · rcases onward.of_done with ⟨none, answered⟩
                exact ⟨none, fun same => by rw [same] at answered; cases answered⟩
              · rcases onward.of_done with ⟨none, answered⟩
                exact ⟨none, fun same => by rw [same] at answered; cases answered⟩
          rcases elsewhere with ⟨rfl, different⟩
          exact ⟨rfl, fun same => absurd same different, fun notDue => absurd notDue.2 due⟩

/-- A claim of a queued job that may be started is not due exactly if one of
the rows it reads is not. -/
theorem claim_notDue_iff {current : AnalysisWorkerJob}
    (ran : Run (claim jobId leaseToken now leaseExpiresAt)
      (⟨.query (.findWorkerJob jobId), .ok (some current)⟩ :: events) (.done answer))
    (named : current.job.id = jobId) (queued : current.job.status = .queued)
    (attemptsLeft : current.job.attemptCount < current.job.maxAttempts)
    (incomplete : current.job.completedAt = none)
    (unsettled : current.job.tokensSettledAt = none) :
    answer = .notDue ↔ Exists fun row : AnalysisWorkerJob =>
      Learned (⟨.query (.findWorkerJob jobId), .ok (some current)⟩ :: events)
        (.findWorkerJob jobId) (some row) ∧ row.job.isNotDue now = true := by
  subst named
  have active : current.job.isTerminal = false := by
    rw [AnalysisJob.isTerminal_eq_not_isActive, AnalysisJob.isActive_iff.mpr (Or.inl queued)]
    rfl
  rcases run_query ran with ⟨found, later, split, onward⟩
  cases split
  simp only [queued, claimQueuedJob, Nat.not_le.mpr attemptsLeft, incomplete, unsettled,
    ne_eq, not_true_eq_false, or_self, if_false] at onward
  split at onward
  · rename_i undue
    rcases onward.of_done with ⟨_, answered⟩
    cases answered
    exact ⟨fun _ => ⟨current, List.mem_cons_self, AnalysisJob.isNotDue_iff.mpr ⟨active, undue⟩⟩,
      fun _ => rfl⟩
  · rename_i due
    have notFirst : current.job.isNotDue now = true -> False := fun notDue =>
      due (AnalysisJob.isNotDue_iff.mp notDue).2
    rcases run_command onward with ⟨claimed, rest, rfl, further⟩
    cases claimed with
    | true =>
        rcases run_query further with ⟨reply, final, rfl, done⟩
        cases reply with
        | none => cases done.of_fail.2
        | some job =>
            rcases done.of_done with ⟨rfl, answered⟩
            cases answered
            refine ⟨fun same => (by cases same), fun ⟨row, read, notDue⟩ => ?_⟩
            rcases List.mem_cons.mp read with first | others
            · cases first
              exact (notFirst notDue).elim
            · simp only [List.mem_cons, List.not_mem_nil, or_false] at others
              rcases others with other | other <;> cases other
    | false =>
        rcases resolveClaimRace_notDue further with ⟨again, rfl, decided⟩
        rw [decided]
        constructor
        · rintro ⟨row, rfl, notDue⟩
          exact ⟨row, List.mem_cons_of_mem _ (List.mem_cons_of_mem _ List.mem_cons_self), notDue⟩
        · rintro ⟨row, read, notDue⟩
          rcases List.mem_cons.mp read with first | others
          · cases first
            exact (notFirst notDue).elim
          · rcases List.mem_cons.mp others with command | last
            · cases command
            · cases List.mem_singleton.mp last
              exact ⟨row, rfl, notDue⟩

/-- A claim that reads a queued job before it is due answers at once. -/
theorem claim_notDue {current : AnalysisWorkerJob} (queued : current.job.status = .queued)
    (attemptsLeft : current.job.attemptCount < current.job.maxAttempts)
    (incomplete : current.job.completedAt = none)
    (unsettled : current.job.tokensSettledAt = none)
    (undue : nullOrDue current.job.nextPublishAt now = false) :
    Run (claim jobId leaseToken now leaseExpiresAt)
      [⟨.query (.findWorkerJob jobId), .ok (some current)⟩] (.done .notDue) := by
  have read := @Run.next Services _ (claim jobId leaseToken now leaseExpiresAt) []
    (.query (.findWorkerJob jobId)) _ .start (.ok (some current))
  simp only [Program.bind, queued, claimQueuedJob, Nat.not_le.mpr attemptsLeft, incomplete,
    unsettled, ne_eq, not_true_eq_false, or_self, if_false, undue, if_true] at read
  exact read

/-- A claim that is not disturbed takes a queued job that is due. -/
theorem claim_claimed {current claimed : AnalysisWorkerJob} (named : current.job.id = jobId)
    (queued : current.job.status = .queued)
    (attemptsLeft : current.job.attemptCount < current.job.maxAttempts)
    (incomplete : current.job.completedAt = none)
    (unsettled : current.job.tokensSettledAt = none)
    (due : nullOrDue current.job.nextPublishAt now = true) :
    Run (claim jobId leaseToken now leaseExpiresAt)
      [⟨.query (.findWorkerJob jobId), .ok (some current)⟩,
        ⟨.command (.update (.claimQueued jobId leaseToken now leaseExpiresAt)), .ok true⟩,
        ⟨.query (.requireClaimedJob jobId leaseToken), .ok (some claimed)⟩]
      (.done (.claimed claimed leaseToken)) := by
  have read := @Run.next Services _ (claim jobId leaseToken now leaseExpiresAt) []
    (.query (.findWorkerJob jobId)) _ .start (.ok (some current))
  simp only [Program.bind, queued, claimQueuedJob, Nat.not_le.mpr attemptsLeft, incomplete,
    unsettled, ne_eq, not_true_eq_false, or_self, if_false, due, Bool.true_eq_false,
    named] at read
  have updated := @Run.next Services _ (claim jobId leaseToken now leaseExpiresAt) _
    (.command (.update (.claimQueued jobId leaseToken now leaseExpiresAt))) _ read (.ok true)
  exact @Run.next Services _ (claim jobId leaseToken now leaseExpiresAt) _
    (.query (.requireClaimedJob jobId leaseToken)) _ updated (.ok (some claimed))

/-! ## A claim catches no fault -/

theorem resolveClaimRace_unguarded : (resolveClaimRace jobId now).Unguarded := by
  refine Unguarded.bind (unguarded_perform _) fun found => ?_
  cases found with
  | none => trivial
  | some current =>
      simp only
      repeat' split
      all_goals trivial

theorem claimBy_unguarded {change : JobUpdate} :
    (claimBy change jobId leaseToken now).Unguarded := by
  refine Unguarded.bind (unguarded_perform _) fun claimed => ?_
  cases claimed with
  | false => exact resolveClaimRace_unguarded
  | true =>
      refine Unguarded.bind (unguarded_perform _) fun found => ?_
      cases found with
      | none => trivial
      | some job => trivial

theorem claim_unguarded : (claim jobId leaseToken now leaseExpiresAt).Unguarded := by
  refine Unguarded.bind (unguarded_perform _) fun found => ?_
  cases found with
  | none => trivial
  | some current =>
      simp only
      split
      · trivial
      · trivial
      · unfold claimQueuedJob
        repeat' split
        all_goals first | trivial | exact claimBy_unguarded
      · unfold takeOverRunningJob
        repeat' split
        all_goals first | trivial | exact claimBy_unguarded

end Claims

/-! ## Unfinished publish attempts -/

/-- The codes that a publisher leaves in the row until it has recorded a
success. -/
def isUnfinishedPublishCode (code : Option ErrorCode) : Bool :=
  code == some .publishInProgress || code == some .publishDeliveryUncertain ||
    code == some .publishAttemptFailed

section Runs

variable {deployment : Deployment} {first last : SystemState deployment}
  {steps : List (Transition (gitMate deployment))}

/-- A job of the API that waits for its first start has a due time only from a
publish attempt that has not been recorded as a success. -/
theorem unstarted_due (initial : first.Initial) (run : Execution first steps last) {id : JobId}
    {job : AnalysisJob} (found : last.db.findJob id = some job) (accepted : job.isSync = false)
    (queued : job.status = .queued) (unstarted : job.attemptCount = 0)
    (dated : job.nextPublishAt ≠ none) : isUnfinishedPublishCode job.lastErrorCode = true := by
  refine run.always
    (fun state => forall job, state.db.findJob id = some job -> job.isSync = false ->
      job.status = .queued -> job.attemptCount = 0 -> job.nextPublishAt ≠ none ->
        isUnfinishedPublishCode job.lastErrorCode = true)
    (fun job found _ queued => ?_) (fun earlier state label after reached held stepped => ?_)
    job found accepted queued unstarted dated
  · rw [(initial.db.legacy job (Table.mem_of_find? found)).2.1] at queued
    cases queued
  · intro later found accepted queued unstarted dated
    cases ledgerStep initial reached stepped with
    | quiet same => exact held later (same ▸ found) accepted queued unstarted dated
    | performed _ _ _ _ _ _ _ committed =>
        have fate := committed.evolves id
        rw [found] at fate
        generalize before : state.db.findJob id = old at fate
        cases fate with
        | inserted => exact absurd rfl dated
        | @evolved job _ step =>
            have sameKey : later.isSync = job.isSync :=
              congrArg (fun columns : JobIdentity => startsWith columns.idempotencyKey "sync:") step.identity
            have was := held job before (sameKey ▸ accepted)
            have notRunning : job.attemptCount = 0 -> job.status ≠ .running := fun none running =>
              absurd none (Nat.ne_of_gt
                (reachable_attempted initial reached before (sameKey ▸ accepted) running))
            cases step with
            | idle => exact was queued unstarted dated
            | @updated change _ named guarded =>
                cases change with
                | start | claimQueued => cases queued
                | takeOverExpiredLease => cases unstarted
                | recordProviderCharge | takeOverExpiredBilledLease | updateProgress =>
                    exact was queued unstarted dated
                | releaseForRetry input =>
                    simp only [JobUpdate.row, releaseForRetryRow, Bool.and_eq_true, beq_iff_eq]
                      at guarded
                    exact absurd guarded.1.1.1.1.1.1 (notRunning unstarted)
                | claimAttempt input =>
                    simp only [JobUpdate.row, GitMate.claimAttempt]
                    cases input.deliveryUncertain <;> rfl
                | markPublished => exact absurd rfl dated
                | recordFailure input =>
                    simp only [JobUpdate.row, GitMate.recordFailure] at queued ⊢
                    split at queued
                    · cases queued
                    · rename_i continues
                      rw [if_neg continues]
                      cases input.deliveryUncertain <;> rfl
            | reserved named valid guarded =>
                exact absurd (reserveTokensRow_guard guarded).1 (notRunning unstarted)
            | recoveredUnreserved | recoveredReserved | terminated | saved | settled =>
                cases queued

end Runs

/-! ## Claims in a run -/

/-- A call of `claim` by a process that has done certain things before. -/
structure ClaimCall where
  index : Nat
  past : History Services
  jobId : JobId
  leaseToken : Uuid
  now : Instant
  leaseExpiresAt : Instant

section Calls

variable {deployment : Deployment}

def ClaimCall.call (claim : ClaimCall) : Call Services AnalysisWorkerClaimResult where
  index := claim.index
  past := claim.past
  body := AnalysisWorkerRepository.claim claim.jobId claim.leaseToken claim.now
    claim.leaseExpiresAt

/-- In a step the claim reads the row of its job. -/
def ClaimCall.Reads (claim : ClaimCall) (step : Transition (gitMate deployment)) : Prop :=
  claim.call.Performs step (.query (.findWorkerJob claim.jobId))

/-- The job of the claim has ended or is due by the clock of the claim. -/
def ClaimCall.FindsDue (claim : ClaimCall) (state : SystemState deployment) : Prop :=
  forall job, state.db.findJob claim.jobId = some job -> job.isNotDue claim.now = false

/-- A step gives the job back for a retry. -/
def Releases (step : Transition (gitMate deployment)) (jobId : JobId) : Prop :=
  Exists fun index => Exists fun choice => Exists fun input : ReleaseForRetryInput =>
    step.label = .act index choice ∧
    step.before.pending index = some (.command (.update (.releaseForRetry input))) ∧
    input.jobId = jobId ∧ step.after.db ≠ step.before.db

/-- After the given steps a worker that has received a message of the job
claims it while it waits for its first start. -/
structure FirstDelivery (earlier : List (Transition (gitMate deployment))) (claim : ClaimCall)
    (state : SystemState deployment) : Prop where
  delivered : Exists fun records => Happened claim.past .receiveMessages (.ok records) ∧
    Exists fun record => record ∈ records ∧ record.body = .valid claim.jobId
  begins : claim.call.Begins state
  waiting : Exists fun job => state.db.findJob claim.jobId = some job ∧ job.status = .queued ∧
    job.attemptCount = 0
  unreleased : forall step, step ∈ earlier -> ¬ Releases step claim.jobId

variable {first last : SystemState deployment} {claim : ClaimCall}
  {earlier rest steps : List (Transition (gitMate deployment))}
  {reading step : Transition (gitMate deployment)} {events : History Services}
  {answer : AnalysisWorkerClaimResult} {choice : Choice}

/-- A claim starts with a read of the row. -/
theorem ClaimCall.reads_of_begins (begins : claim.call.Begins reading.before)
    (acts : reading.label = .act claim.index choice) :
    claim.Reads reading ∧ reading.before.historyAt claim.index = claim.past := by
  rcases begins with ⟨next, here⟩
  have history : reading.before.historyAt claim.index = claim.past :=
    State.historyAt_of_getElem? here
  refine ⟨⟨choice, [], _, acts, ?_, ?_, .start⟩, history⟩
  · rw [State.pending, here]
    rfl
  · exact history.trans (List.append_nil _).symm

/-- What a claim that has returned read in a step of the run was the row of
that step. -/
theorem ClaimCall.Reads.row (run : Execution first steps last)
    (returned : claim.call.Returned last events answer) (member : step ∈ steps)
    (reads : claim.Reads step) : Exists fun front =>
      step.before.historyAt claim.index = claim.past ++ front ∧
      front ++ [⟨.query (.findWorkerJob claim.jobId),
        .ok ((step.before.db.findJob claim.jobId).map step.before.db.workerJob)⟩] <+: events := by
  rcases Call.Performs.event run returned member reads with
    ⟨front, outcome, resolved, before, among, executed⟩
  cases outcome with
  | error fault =>
      rcases claim_unguarded.replied returned.1
        (among.subset (List.mem_append_right _ List.mem_cons_self)) with ⟨reply, answered⟩
      cases answered
  | ok reply =>
      rcases (World.exec_query executed).2 reply rfl with ⟨_, same⟩
      have asRow : reply =
          (step.before.db.findJob claim.jobId).map step.before.db.workerJob := same
      exact ⟨front, before, asRow ▸ among⟩

/-- A claim of a first delivery that has returned is not due exactly if a step
in which it read the row found the job not due. -/
theorem FirstDelivery.notDue_iff (initial : first.Initial)
    (run : Execution first (earlier ++ reading :: rest) last)
    (acts : reading.label = .act claim.index choice)
    (delivery : FirstDelivery earlier claim reading.before)
    (returned : claim.call.Returned last events answer) :
    answer = .notDue ↔ Exists fun step => step ∈ earlier ++ reading :: rest ∧ claim.Reads step ∧
      ¬ claim.FindsDue step.before := by
  rcases delivery.waiting with ⟨job, found, queued, unstarted⟩
  rcases run.around with ⟨leading, stepped, following⟩
  rcases ClaimCall.reads_of_begins delivery.begins acts with ⟨reads, history⟩
  rcases reads.row run returned (List.mem_append_right _ List.mem_cons_self) with
    ⟨front, before, later, split⟩
  rw [history, List.self_eq_append_right] at before
  subst before
  rw [found, List.nil_append, List.singleton_append, Option.map_some] at split
  have wellFormed := (reachable_wellFormed initial leading found).queued queued
  have attemptsLeft : job.attemptCount < job.maxAttempts := by
    cases old : first.db.findJob claim.jobId with
    | some row =>
        have succeeded := (initial.db.legacy row (Table.mem_of_find? old)).2.1
        have same := row_final leading old (by rw [AnalysisJob.isActive, succeeded]; rfl)
        rw [found] at same
        cases same
        rw [queued] at succeeded
        cases succeeded
    | none =>
        rcases created_row initial leading old found with ⟨_, input, environment, _, same⟩
        have five : job.maxAttempts = 5 := congrArg JobIdentity.maxAttempts same
        omega
  have ran : claim.call.body.Run events (.done answer) := returned.1
  rw [← split] at ran
  rw [claim_notDue_iff ran (Table.key_of_find? found) queued attemptsLeft wellFormed.2.2.1
    wellFormed.2.2.2, split]
  constructor
  · rintro ⟨row, read, notDue⟩
    rcases List.append_of_mem read with ⟨front, back, divided⟩
    rcases returned.step run initial.processes divided with
      ⟨step, member, performs, _, executed⟩
    refine ⟨step, member, performs, fun due => ?_⟩
    rcases (World.exec_query executed).2 _ rfl with ⟨_, same⟩
    rcases Option.map_eq_some_iff.mp same.symm with ⟨there, foundThere, rfl⟩
    exact Bool.false_ne_true ((due there foundThere).symm.trans notDue)
  · rintro ⟨step, member, readsThere, undue⟩
    have some_ : Exists fun there => step.before.db.findJob claim.jobId = some there ∧
        there.isNotDue claim.now = true := by
      by_contra none
      refine undue fun there foundThere => ?_
      rw [← Bool.not_eq_true]
      exact fun notDue => none ⟨there, foundThere, notDue⟩
    rcases some_ with ⟨there, foundThere, notDue⟩
    rcases readsThere.row run returned member with ⟨front, _, among⟩
    refine ⟨step.before.db.workerJob there, ?_, notDue⟩
    have read := among.subset (List.mem_append_right front List.mem_cons_self)
    rw [foundThere] at read
    exact read

/-- A first delivery is claimable, unless the claim overtakes a publisher: the
claim of a worker that has received a message of a job that waits for its first
start does not answer that the job is not due, if and only if in every step in
which it reads the row the job has ended or is due by its clock.  And where
such a job of the API is not due, a publish attempt of it has not been recorded
as a success. -/
theorem first_delivery_claimable (initial : first.Initial)
    (run : Execution first (earlier ++ reading :: rest) last)
    (acts : reading.label = .act claim.index choice)
    (delivery : FirstDelivery earlier claim reading.before)
    (returned : claim.call.Returned last events answer) :
    (answer ≠ .notDue ↔ forall step, step ∈ earlier ++ reading :: rest -> claim.Reads step ->
      claim.FindsDue step.before) ∧
    (forall job, reading.before.db.findJob claim.jobId = some job -> job.isSync = false ->
      job.isNotDue claim.now = true -> isUnfinishedPublishCode job.lastErrorCode = true) := by
  constructor
  · rw [ne_eq, delivery.notDue_iff initial run acts returned]
    simp only [not_exists, not_and, not_not]
  · intro job found accepted notDue
    rcases delivery.waiting with ⟨row, here, queued, unstarted⟩
    cases here.symm.trans found
    rcases run.around with ⟨leading, _, _⟩
    refine unstarted_due initial leading found accepted queued unstarted fun none => ?_
    have undue := (AnalysisJob.isNotDue_iff.mp notDue).2
    rw [none] at undue
    cases undue

/-! ## How a worker comes to its first claim -/

/-- After it has received a message of a job, a worker reads its clock, makes a
lease token and claims the job. -/
theorem worker_claims {record : QueueMessage} {records : List QueueMessage} {jobId : JobId}
    (valid : record.body = .valid jobId) (now : Instant) (leaseToken : Uuid) :
    Exists fun next => Run (Entry.program deployment .worker)
      [⟨.receiveMessages, .ok (record :: records)⟩, ⟨.currentDate, .ok now⟩,
        ⟨.randomUuid, .ok leaseToken⟩]
      ((AnalysisWorkerRepository.claim jobId leaseToken now
        (AnalysisWorkerService.leaseExpiresAt deployment now)).followedBy next) := by
  rcases record with ⟨messageId, body, group, receiveCount, inFlight⟩
  cases valid
  have received := @Run.next Services Unit (Entry.program deployment .worker) [] .receiveMessages
    _ .start (.ok (⟨messageId, .valid jobId, group, receiveCount, inFlight⟩ :: records))
  have dated := @Run.next Services Unit (Entry.program deployment .worker) _ .currentDate
    _ received (.ok now)
  have issued := @Run.next Services Unit (Entry.program deployment .worker) _ .randomUuid
    _ dated (.ok leaseToken)
  have remaining : Exists fun batch : Except AppError AnalysisWorkerRecordOutcome ->
      Service (List QueueMessage) => Exists fun finish : List QueueMessage -> Service Unit =>
      Run (Entry.program deployment .worker)
        [⟨.receiveMessages,
            .ok (⟨messageId, .valid jobId, group, receiveCount, inFlight⟩ :: records)⟩,
          ⟨.currentDate, .ok now⟩, ⟨.randomUuid, .ok leaseToken⟩]
        (((attempt ((AnalysisWorkerRepository.claim jobId leaseToken now
          (AnalysisWorkerService.leaseExpiresAt deployment now)).bind
            (AnalysisWorkerService.processClaim deployment receiveCount))).bind batch).bind
              finish) := ⟨_, _, issued⟩
  rcases remaining with ⟨batch, finish, ran⟩
  rw [attempt_eq_followedBy, bind_eq_followedBy, bind_eq_followedBy, bind_eq_followedBy,
    followedBy_followedBy, followedBy_followedBy, followedBy_followedBy] at ran
  exact ⟨_, ran⟩

/-- The message batch, the clock reading and the lease token of a worker that is
about to claim its first job. -/
def claimArguments : History Services -> Option (List QueueMessage × Instant × Uuid)
  | [⟨.receiveMessages, .ok records⟩, ⟨.currentDate, .ok now⟩, ⟨.randomUuid, .ok leaseToken⟩] =>
      some (records, now, leaseToken)
  | _ => none

theorem claimArguments_spec {past : History Services} {records : List QueueMessage}
    {now : Instant} {leaseToken : Uuid}
    (ready : claimArguments past = some (records, now, leaseToken)) :
    past = [⟨.receiveMessages, .ok records⟩, ⟨.currentDate, .ok now⟩,
      ⟨.randomUuid, .ok leaseToken⟩] := by
  unfold claimArguments at ready
  split at ready
  · cases ready
    rfl
  · cases ready

/-- A worker that is ready to claim the job of its first message claims it
next. -/
theorem begins_of_arguments {index : Nat} (run : Execution first steps last)
    (spawned : Spawned steps index .worker) (waiting : (last.pending index).isSome = true)
    {record : QueueMessage} {records : List QueueMessage} {jobId : JobId} {now : Instant}
    {leaseToken : Uuid} (valid : record.body = .valid jobId)
    (ready : claimArguments (last.historyAt index) = some (record :: records, now, leaseToken)) :
    (ClaimCall.call ⟨index, last.historyAt index, jobId, leaseToken, now,
      AnalysisWorkerService.leaseExpiresAt deployment now⟩).Begins last := by
  rcases run.follows spawned with ⟨process, here, remaining, ran, goes⟩
  have history : last.historyAt index = process.history := State.historyAt_of_getElem? here
  have goesOn : process.program = remaining := by
    rcases goes with same | ⟨stopped, _⟩
    · exact same
    · rw [State.pending, here] at waiting
      rcases process with ⟨program, past⟩
      simp only at stopped
      subst stopped
      cases waiting
  rcases @worker_claims deployment record records jobId valid now leaseToken with ⟨next, claims⟩
  rw [← history, claimArguments_spec ready] at ran
  have claiming : process.program = (AnalysisWorkerRepository.claim jobId leaseToken now
      (AnalysisWorkerService.leaseExpiresAt deployment now)).followedBy next :=
    goesOn.trans (ran.unique claims)
  rcases process with ⟨program, past⟩
  simp only at claiming history
  subst claiming
  subst history
  exact ⟨next, here⟩

end Calls

/-! ## A message that overtakes its publisher -/

/-- A publisher has sent the message of its job but not recorded that, and a
worker that has received the message is about to claim the job. -/
def overtakingScript : List (SystemLabel DEFAULT_DEPLOYMENT) :=
  [.spawn (.create 1 "R1" "key-1")] ++
    perform 0 (createChoices 1000 1 100 ++ [.committed 1000 0, .send .accepted]) ++
    [.spawn .worker] ++ perform 1 [.received [0], .date 2000, .uuid 101]

/-- The same with a publisher that has recorded its send. -/
def recordedScript : List (SystemLabel DEFAULT_DEPLOYMENT) :=
  [.spawn (.create 1 "R1" "key-1")] ++
    perform 0 (createChoices 1000 1 100 ++ publishChoices 1000) ++
    [.spawn .worker] ++ perform 1 [.received [0], .date 2000, .uuid 101]

/-- The message of the first job of the first user, received once. -/
def firstMessage : QueueMessage := ⟨0, .valid 1, (1, 1), 1, true⟩

/-- A worker's claim of the first job in a state. -/
def firstClaim (state : SystemState DEFAULT_DEPLOYMENT) : ClaimCall :=
  ⟨1, state.historyAt 1, 1, 101, 2000,
    AnalysisWorkerService.leaseExpiresAt DEFAULT_DEPLOYMENT 2000⟩

/-- The start of the second process as a worker. -/
def startsWorker (step : Transition (gitMate DEFAULT_DEPLOYMENT)) : Bool :=
  match step.label with
  | .spawn .worker => step.before.processes.length == 1
  | _ => false

/-- An attempt to give some job back. -/
def isRelease (step : Transition (gitMate DEFAULT_DEPLOYMENT)) : Bool :=
  match step.label with
  | .act index _ =>
      match step.before.pending index with
      | some (.command (.update (.releaseForRetry _))) => true
      | _ => false
  | _ => false

/-- The parts of a row that decide about its first claim. -/
def claimColumns (job : AnalysisJob) :
    AnalysisJobStatus × Nat × Nat × Option Instant × Option Instant × Option Instant :=
  (job.status, job.attemptCount, job.maxAttempts, job.completedAt, job.tokensSettledAt,
    job.nextPublishAt)

/-- A script after which the worker is about to claim the first job, which
waits for its first start and is due at some time. -/
def readyToClaim (script : List (SystemLabel DEFAULT_DEPLOYMENT))
    (nextPublishAt : Option Instant) : Bool :=
  let steps := (smallState DEFAULT_DEPLOYMENT).trace script
  let state := (smallState DEFAULT_DEPLOYMENT).after script
  ((smallState DEFAULT_DEPLOYMENT).play script).isSome && steps.any startsWorker &&
    !steps.any isRelease && (state.pending 1).isSome &&
    claimArguments (state.historyAt 1) == some ([firstMessage], 2000, 101) &&
    (state.db.findJob 1).map claimColumns == some (.queued, 0, 5, none, none, nextPublishAt)

theorem readyToClaim_spec {script : List (SystemLabel DEFAULT_DEPLOYMENT)}
    {nextPublishAt : Option Instant} (ready : readyToClaim script nextPublishAt = true) :
    Execution (smallState DEFAULT_DEPLOYMENT) ((smallState DEFAULT_DEPLOYMENT).trace script)
        ((smallState DEFAULT_DEPLOYMENT).after script) ∧
      FirstDelivery ((smallState DEFAULT_DEPLOYMENT).trace script)
        (firstClaim ((smallState DEFAULT_DEPLOYMENT).after script))
        ((smallState DEFAULT_DEPLOYMENT).after script) ∧
      Exists fun job => ((smallState DEFAULT_DEPLOYMENT).after script).db.findJob 1 = some job ∧
        claimColumns job = (.queued, 0, 5, none, none, nextPublishAt) := by
  simp only [readyToClaim, Bool.and_eq_true, beq_iff_eq, Bool.not_eq_true'] at ready
  rcases ready with ⟨⟨⟨⟨⟨possible, starts⟩, unreleased⟩, waiting⟩, arguments⟩, columns⟩
  have run := State.trace_execution possible
  rcases Option.map_eq_some_iff.mp columns with ⟨job, found, same⟩
  have status : job.status = .queued := congrArg Prod.fst same
  have attempts : job.attemptCount = 0 := congrArg (fun columns => columns.2.1) same
  have spawned : Spawned ((smallState DEFAULT_DEPLOYMENT).trace script) 1 .worker := by
    rcases List.any_eq_true.mp starts with ⟨step, member, started⟩
    unfold startsWorker at started
    split at started
    · rename_i spawns
      exact ⟨step, member, spawns, beq_iff_eq.mp started⟩
    · cases started
  refine ⟨run, ?_, job, found, same⟩
  exact {
    delivered := by
      have history := claimArguments_spec arguments
      refine ⟨[firstMessage], ?_, firstMessage, List.mem_cons_self, rfl⟩
      change Happened (State.historyAt _ 1) _ _
      rw [history]
      exact List.mem_cons_self
    begins := begins_of_arguments run spawned waiting rfl arguments
    waiting := ⟨job, found, status, attempts⟩
    unreleased := by
      rintro step member ⟨index, choice, input, acts, pending, _⟩
      rw [List.any_eq_false] at unreleased
      refine unreleased step member ?_
      simp only [isRelease, acts, pending] }

/-- The rows of a claim that was not disturbed. -/
def claimReplies (claim : ClaimCall) :
    History Services -> Option (AnalysisWorkerJob × AnalysisWorkerJob)
  | [⟨.query (.findWorkerJob readId), .ok (some current)⟩,
      ⟨.command (.update (.claimQueued jobId leaseToken now leaseExpiresAt)), .ok true⟩,
      ⟨.query (.requireClaimedJob requiredId requiredToken), .ok (some claimed)⟩] =>
      if readId = claim.jobId ∧ jobId = claim.jobId ∧ leaseToken = claim.leaseToken ∧
          now = claim.now ∧ leaseExpiresAt = claim.leaseExpiresAt ∧
          requiredId = claim.jobId ∧ requiredToken = claim.leaseToken then
        some (current, claimed)
      else none
  | _ => none

theorem claimReplies_spec {claim : ClaimCall} {events : History Services}
    {current claimed : AnalysisWorkerJob}
    (replied : claimReplies claim events = some (current, claimed)) :
    events = [⟨.query (.findWorkerJob claim.jobId), .ok (some current)⟩,
      ⟨.command (.update (.claimQueued claim.jobId claim.leaseToken claim.now
        claim.leaseExpiresAt)), .ok true⟩,
      ⟨.query (.requireClaimedJob claim.jobId claim.leaseToken), .ok (some claimed)⟩] := by
  unfold claimReplies at replied
  split at replied
  · split at replied
    · rename_i arguments
      rcases arguments with ⟨rfl, rfl, rfl, rfl, rfl, rfl, rfl⟩
      cases replied
      rfl
    · cases replied
  · cases replied

def recordedState : SystemState DEFAULT_DEPLOYMENT :=
  (smallState DEFAULT_DEPLOYMENT).after recordedScript

/-- The worker has read the row. -/
def readState : SystemState DEFAULT_DEPLOYMENT := recordedState.after [.act 1 (.answer 2000)]

/-- The worker claims the job and reads the claimed row. -/
def claimingScript : List (SystemLabel DEFAULT_DEPLOYMENT) :=
  perform 1 [.committed 2000 0, .answer 2000]

def claimedState : SystemState DEFAULT_DEPLOYMENT := readState.after claimingScript

/-- The claim of the recorded job returns, with the row that it has claimed. -/
theorem claimedState_returned : Exists fun events => Exists fun claimed =>
    (firstClaim recordedState).call.Returned claimedState events (.claimed claimed 101) := by
  have onward : (recordedState.play (.act 1 (.answer 2000) :: claimingScript)).isSome = true := by
    decide +kernel
  rcases State.after_run onward with ⟨steps, run⟩
  rcases run.historyAt_grows 1 with ⟨events, whole⟩
  have length : (recordedState.historyAt 1).length = 3 := by decide +kernel
  have replied : (((claimReplies (firstClaim recordedState)
      ((claimedState.historyAt 1).drop 3)).map fun replies => replies.1.job.id) == some 1 &&
      ((claimReplies (firstClaim recordedState)
        ((claimedState.historyAt 1).drop 3)).map fun replies => claimColumns replies.1.job) ==
          some (.queued, 0, 5, none, none, none)) = true := by decide +kernel
  simp only [Bool.and_eq_true, beq_iff_eq] at replied
  rcases Option.map_eq_some_iff.mp replied.1 with ⟨⟨current, claimed⟩, found, named⟩
  rw [found] at replied
  have columns := Option.some.inj replied.2
  have sameEvents : (claimedState.historyAt 1).drop 3 = events := by
    have dropped := congrArg (List.drop 3) whole
    rw [List.drop_append_of_le_length (Nat.le_of_eq length.symm), ← length, List.drop_length,
      List.nil_append, length] at dropped
    exact dropped.symm
  rw [sameEvents] at found
  have limits : current.job.attemptCount = 0 ∧ current.job.maxAttempts = 5 :=
    ⟨congrArg (fun columns => columns.2.1) columns,
      congrArg (fun columns => columns.2.2.1) columns⟩
  have due : current.job.nextPublishAt = none :=
    congrArg (fun columns => columns.2.2.2.2.2) columns
  refine ⟨events, claimed, ?_, ⟨[], ?_⟩⟩
  · rw [claimReplies_spec found]
    exact claim_claimed named (congrArg (fun columns => columns.1) columns) (by omega)
      (congrArg (fun columns => columns.2.2.2.1) columns)
      (congrArg (fun columns => columns.2.2.2.2.1) columns) (by rw [due]; rfl)
  · rw [List.append_nil]
    exact whole

/-- Once the publisher has recorded its send, the claim takes the job, and it
has found the job due whenever it read the row. -/
theorem first_delivery_claimable_recorded :
    Exists fun steps => Execution (smallState DEFAULT_DEPLOYMENT) steps claimedState ∧
      forall step, step ∈ steps -> (firstClaim recordedState).Reads step ->
        (firstClaim recordedState).FindsDue step.before := by
  rcases readyToClaim_spec (show readyToClaim recordedScript none = true by decide +kernel) with
    ⟨run, delivery, _⟩
  have stepped : recordedState.step (.act 1 (.answer 2000)) = some readState :=
    State.after_step (by decide +kernel)
  have following := State.trace_execution
    (show (readState.play claimingScript).isSome = true by decide +kernel)
  rcases claimedState_returned with ⟨events, claimed, returned⟩
  have whole := (run.next stepped).append following
  rw [List.append_assoc, List.singleton_append] at whole
  exact ⟨_, whole, (first_delivery_claimable (smallState_initial DEFAULT_DEPLOYMENT) whole
    rfl delivery returned).1.mp fun same => (by cases same)⟩

/-- In a step in which a claim reads a row that is queued but not due, the
claim returns. -/
theorem returned_notDue {state after : SystemState DEFAULT_DEPLOYMENT} {claim : ClaimCall}
    {readAt : Instant} (stepped : state.step (.act claim.index (.answer readAt)) = some after)
    (begins : claim.call.Begins state) {job : AnalysisJob}
    (found : state.db.findJob claim.jobId = some job) (queued : job.status = .queued)
    (attemptsLeft : job.attemptCount < job.maxAttempts) (incomplete : job.completedAt = none)
    (unsettled : job.tokensSettledAt = none)
    (undue : nullOrDue job.nextPublishAt claim.now = false) :
    claim.call.Returned after
      [⟨.query (.findWorkerJob claim.jobId), .ok (some (state.db.workerJob job))⟩] .notDue := by
  rcases @ClaimCall.reads_of_begins _ claim
    ⟨state, .act claim.index (.answer readAt), after⟩ (.answer readAt) begins rfl with
    ⟨⟨_, _, _, _, pending, _⟩, history⟩
  rcases State.historyAt_act stepped pending with ⟨_, outcome, _, executed, grown⟩
  have answer : (.ok ((state.db.findJob claim.jobId).map state.db.workerJob) :
      Except AppError (Option AnalysisWorkerJob)) = outcome :=
    congrArg Prod.fst (Option.some.inj executed)
  subst answer
  refine ⟨claim_notDue queued attemptsLeft incomplete unsettled undue, ?_⟩
  have answered : claim.call.past ++ [(⟨.query (.findWorkerJob claim.jobId),
      .ok ((state.db.findJob claim.jobId).map state.db.workerJob)⟩ : Event Services)] =
      after.historyAt claim.call.index := (grown.trans (history ▸ rfl)).symm
  rw [found] at answered
  exact answered ▸ List.prefix_rfl

/-- The claim of the worker that overtook the publisher answers that the job is
not due. -/
theorem overtaking_claim_not_due :
    ¬ forall (first last : SystemState DEFAULT_DEPLOYMENT)
      (earlier : List (Transition (gitMate DEFAULT_DEPLOYMENT)))
      (reading : Transition (gitMate DEFAULT_DEPLOYMENT))
      (rest : List (Transition (gitMate DEFAULT_DEPLOYMENT))), first.Initial ->
      Execution first (earlier ++ reading :: rest) last ->
      forall (claim : ClaimCall) (choice : Choice), reading.label = .act claim.index choice ->
        FirstDelivery earlier claim reading.before ->
        forall events answer, claim.call.Returned last events answer -> answer ≠ .notDue := by
  intro claimed
  rcases readyToClaim_spec (show readyToClaim overtakingScript (some 61000) = true by
    decide +kernel) with ⟨run, delivery, job, found, columns⟩
  have stepped := State.after_step (show (((smallState DEFAULT_DEPLOYMENT).after
    overtakingScript).play [.act 1 (.answer 2000)]).isSome = true by decide +kernel)
  have due : job.nextPublishAt = some 61000 :=
    congrArg (fun columns => columns.2.2.2.2.2) columns
  have limits : job.attemptCount = 0 ∧ job.maxAttempts = 5 :=
    ⟨congrArg (fun columns => columns.2.1) columns,
      congrArg (fun columns => columns.2.2.1) columns⟩
  have returned := returned_notDue stepped delivery.begins found
    (congrArg (fun columns => columns.1) columns) (by omega)
    (congrArg (fun columns => columns.2.2.2.1) columns)
    (congrArg (fun columns => columns.2.2.2.2.1) columns) (by rw [due]; rfl)
  exact claimed _ _ _ ⟨_, _, _⟩ [] (smallState_initial DEFAULT_DEPLOYMENT) (run.next stepped) _ _
    rfl delivery _ _ returned rfl

end GitMate
