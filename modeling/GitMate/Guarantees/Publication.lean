import GitMate.Library.Outbox
import GitMate.Service.Memory

namespace GitMate

open Relational Interleaving Machine Publishing

/-!
# Publication as an outbox

The row of a job is an item of an outbox, and the processes are its
publishers.  The mark of the item is what the publisher calls an uncertain
delivery.  A job waits until a worker claims it; from then on workers write to
the columns that hold the mark, and it means nothing any more.
-/

/-! ## The outbox of a job -/

def AnalysisJob.outboxPhase (job : AnalysisJob) : Phase :=
  if job.status = .failed ∧ job.lastErrorCode = some .publishFailed then .givenUp
  else if job.status = .queued ∧ job.attemptCount = 0 ∧ job.isSync = false then
    .waiting (deliveryUncertain job)
  else .begun

/-- Only a rejection by the queue is definite. -/
def publishAnswer : Except AppError Unit -> Answer
  | .error .analysisJobQueueRejected => .rejected
  | _ => .inconclusive

def Publication.attempt (publication : Publication) : Attempt where
  number := publication.claim.job.publishAttempts + 1
  doubtful := deliveryUncertain publication.claim.job
  sent := publication.sent.map publishAnswer

/-- The publish attempt of a job that a process has claimed and not yet
completed. -/
def publicationOf (past : History Services) (jobId : JobId) : Option Publication :=
  (openPublication past).filter fun publication => publication.claim.job.id == jobId

theorem publicationOf_eq_some_iff {past : History Services} {jobId : JobId}
    {publication : Publication} : publicationOf past jobId = some publication ↔
      openPublication past = some publication ∧ publication.claim.job.id = jobId := by
  rw [publicationOf, Option.filter_eq_some_iff, beq_iff_eq]

variable {deployment : Deployment}

/-- A job whose row is given, as an item of an outbox. -/
def jobOutbox (state : SystemState deployment) (jobId : JobId) (job : AnalysisJob) :
    Outbox Nat where
  attempts := job.publishAttempts
  phase := job.outboxPhase
  accepted := Exists fun send => send ∈ state.queue.accepted ∧ send.jobId = jobId
  attempt index := (publicationOf (state.historyAt index) jobId).map Publication.attempt
  seen index number marked := Exists fun snapshot => Seen (state.historyAt index) snapshot ∧
    snapshot.id = jobId ∧ snapshot.publishAttempts = number ∧ deliveryUncertain snapshot = marked

/-! ## Phases of rows -/

section Phases

variable {job later : AnalysisJob}

theorem outboxPhase_of_failed (status : job.status = .failed)
    (code : job.lastErrorCode = some .publishFailed) : job.outboxPhase = .givenUp :=
  if_pos ⟨status, code⟩

theorem outboxPhase_of_waiting (status : job.status = .queued) (unclaimed : job.attemptCount = 0)
    (queued : job.isSync = false) : job.outboxPhase = .waiting (deliveryUncertain job) := by
  unfold AnalysisJob.outboxPhase
  rw [if_neg, if_pos ⟨status, unclaimed, queued⟩]
  rintro ⟨failed, _⟩
  rw [status] at failed
  cases failed

theorem outboxPhase_of_begun (unfailed : job.status = .failed ->
      job.lastErrorCode ≠ some .publishFailed)
    (begun : job.status = .queued -> job.isSync = false -> job.attemptCount ≠ 0) :
    job.outboxPhase = .begun := by
  unfold AnalysisJob.outboxPhase
  rw [if_neg, if_neg]
  · rintro ⟨status, unclaimed, queued⟩
    exact begun status queued unclaimed
  · rintro ⟨status, code⟩
    exact unfailed status code

theorem outboxPhase_of_running (running : job.status = .running) : job.outboxPhase = .begun := by
  refine outboxPhase_of_begun (fun failed => ?_) (fun queued => ?_)
  · rw [running] at failed
    cases failed
  · rw [running] at queued
    cases queued

/-- An active job was not given up. -/
theorem outboxPhase_of_active (active : job.isActive = true) : job.outboxPhase ≠ .givenUp := by
  intro ended
  unfold AnalysisJob.outboxPhase at ended
  split at ended
  · rename_i failed
    rw [AnalysisJob.isActive_iff, failed.1] at active
    rcases active with queued | running
    · cases queued
    · cases running
  · split at ended <;> cases ended

theorem outboxPhase_givenUp_iff : job.outboxPhase = .givenUp ↔
    job.status = .failed ∧ job.lastErrorCode = some .publishFailed := by
  constructor
  · intro ended
    unfold AnalysisJob.outboxPhase at ended
    split at ended
    · assumption
    · split at ended <;> cases ended
  · exact fun failed => outboxPhase_of_failed failed.1 failed.2

/-- The updates with which publishers work. -/
def JobUpdate.publishes : JobUpdate -> Bool
  | .claimAttempt _ | .markPublished .. | .recordFailure _ => true
  | _ => false

def Command.publishes : Command -> Bool
  | .update change => change.publishes
  | _ => false

theorem toErrorCode_ne_publishFailed {code : AnalysisJobFailureCode}
    (different : code ≠ .publishFailed) : code.toErrorCode ≠ .publishFailed := by
  cases code with
  | publishFailed => exact absurd rfl different
  | _ => exact fun same => by cases same

/-- Whatever others than publishers do to a row leaves its attempts alone, and
its phase as well unless they end its waiting. -/
theorem JobStep.outboxPhase {past : History Services} {environment : Environment}
    {order : Command} (step : JobStep environment order job later)
    (permitted : order.Permitted deployment past) (other : order.publishes = false)
    (attempted : job.isSync = false -> job.status = .running -> 0 < job.attemptCount) :
    later.publishAttempts = job.publishAttempts ∧
      (later.outboxPhase = job.outboxPhase ∨
        job.outboxPhase ≠ .givenUp ∧ later.outboxPhase = .begun) := by
  have active : job.isActive = true -> job.outboxPhase ≠ .givenUp := outboxPhase_of_active
  rcases step.active_or_same with isActive | same
  · cases step with
    | idle => exact ⟨rfl, Or.inl rfl⟩
    | @updated change _ named guarded =>
        cases change with
        | claimAttempt | markPublished | recordFailure => cases other
        | start => exact ⟨rfl, Or.inr ⟨active isActive, outboxPhase_of_running rfl⟩⟩
        | claimQueued => exact ⟨rfl, Or.inr ⟨active isActive, outboxPhase_of_running rfl⟩⟩
        | recordProviderCharge input =>
            simp only [JobUpdate.row, recordProviderChargeRow, Bool.and_eq_true, beq_iff_eq]
              at guarded
            exact ⟨rfl, Or.inr ⟨active isActive,
              outboxPhase_of_running guarded.1.1.1.1.1.1.1.1.1⟩⟩
        | takeOverExpiredLease current leaseToken now leaseExpiresAt =>
            simp only [JobUpdate.row, GitMate.takeOverExpiredLease, Bool.and_eq_true, beq_iff_eq]
              at guarded
            exact ⟨rfl, Or.inr ⟨active isActive, outboxPhase_of_running guarded.1.1.1.1.1.1⟩⟩
        | takeOverExpiredBilledLease current leaseToken now leaseExpiresAt =>
            simp only [JobUpdate.row, GitMate.takeOverExpiredBilledLease, Bool.and_eq_true,
              beq_iff_eq] at guarded
            exact ⟨rfl, Or.inr ⟨active isActive, outboxPhase_of_running guarded.1.1.1.1.1.1⟩⟩
        | updateProgress input =>
            simp only [JobUpdate.row, updateProgressRow, Bool.and_eq_true, beq_iff_eq] at guarded
            exact ⟨rfl, Or.inr ⟨active isActive, outboxPhase_of_running guarded.1.1⟩⟩
        | releaseForRetry input =>
            simp only [JobUpdate.row, releaseForRetryRow, Bool.and_eq_true, beq_iff_eq] at guarded
            refine ⟨rfl, Or.inr ⟨active isActive, outboxPhase_of_begun
              (fun failed => by cases failed) fun _ queued => ?_⟩⟩
            exact Nat.pos_iff_ne_zero.mp (attempted queued guarded.1.1.1.1.1.1)
    | recoveredUnreserved | recoveredReserved =>
        refine ⟨rfl, Or.inr ⟨active isActive, outboxPhase_of_begun (fun _ code => ?_)
          (fun queued => by cases queued)⟩⟩
        cases code
    | reserved named valid guarded =>
        exact ⟨rfl, Or.inr ⟨active isActive,
          outboxPhase_of_running (reserveTokensRow_guard guarded).1⟩⟩
    | @terminated input paid linkedReport _ named valid guarded =>
        refine ⟨rfl, Or.inr ⟨active isActive, outboxPhase_of_begun (fun _ code => ?_)
          (fun queued => by cases queued)⟩⟩
        have stored : (input.failure paid).errorCode.toErrorCode = .publishFailed :=
          Option.some.inj code
        refine toErrorCode_ne_publishFailed ?_ stored
        simp only [TerminateWorkerJobInput.failure]
        split
        · exact permitted.1
        · exact fun same => by cases same
    | saved =>
        exact ⟨rfl, Or.inr ⟨active isActive, outboxPhase_of_begun (fun failed => by cases failed)
          (fun queued => by cases queued)⟩⟩
    | settled =>
        refine ⟨rfl, Or.inr ⟨active isActive, outboxPhase_of_begun (fun _ code => ?_)
          (fun queued => by cases queued)⟩⟩
        exact permitted.1 (Option.some.inj code)
  · rw [same]
    exact ⟨rfl, Or.inl rfl⟩

end Phases

/-! ## What a publisher holds -/

/-- An open attempt was claimed under a snapshot that was seen. -/
def KnowsPublication (past : History Services) : Prop :=
  forall publication, openPublication past = some publication ->
    Seen past publication.claim.job ∧ publication.claim.job.isSync = false ∧
      publication.claim.deliveryUncertain = deliveryUncertain publication.claim.job

/-- An operation leaves the open attempt alone, closes it, opens the one it
claims or answers its send. -/
theorem Op.publicationAfter_cases (current : Option Publication) (op : Op)
    (outcome : Except AppError op.Reply) :
    op.publicationAfter current outcome = current ∨
    op.publicationAfter current outcome = none ∨
    (Exists fun input => op = .command (.update (.claimAttempt input)) ∧
      op.publicationAfter current outcome = some ⟨input, none⟩) ∨
    (Exists fun publication => Exists fun sent => current = some publication ∧
      op.publicationAfter current outcome = some { publication with sent := some sent } ∧
      forall order, op ≠ .command order) := by
  cases op with
  | command order =>
      cases order with
      | update change =>
          cases change with
          | claimAttempt input =>
              cases outcome with
              | error error => exact Or.inr (Or.inl rfl)
              | ok reply =>
                  cases reply with
                  | true => exact Or.inr (Or.inr (Or.inl ⟨input, rfl, rfl⟩))
                  | false => exact Or.inr (Or.inl rfl)
          | markPublished | recordFailure => exact Or.inr (Or.inl rfl)
          | _ => exact Or.inl rfl
      | _ => exact Or.inl rfl
  | publishMessage jobId userId repositoryId traceId =>
      cases current with
      | none => exact Or.inl rfl
      | some publication =>
          exact Or.inr (Or.inr (Or.inr ⟨publication, outcome, rfl, rfl, fun _ same => by cases same⟩))
  | _ => exact Or.inl rfl

/-- The only attempt a claim can open is its own. -/
theorem claim_publicationAfter {current : Option Publication} {outcome : Except AppError Bool}
    {input : ClaimAnalysisJobPublishAttemptInput} {publication : Publication}
    (opened : (JobUpdate.claimAttempt input).publicationAfter current outcome =
      some publication) : publication = ⟨input, none⟩ := by
  cases outcome with
  | error error => cases opened
  | ok reply =>
      cases reply with
      | true => exact (Option.some.inj opened).symm
      | false => cases opened

section Runs

variable {first last : SystemState deployment} {steps : List (Transition (gitMate deployment))}

theorem reachable_publication (initial : first.Initial) (run : Execution first steps last) :
    last.Remembers fun _ => KnowsPublication := by
  have initially : first.Remembers fun _ => KnowsPublication := by
    intro index publication claimed
    rw [State.historyAt, initial.processes] at claimed
    cases claimed
  refine run.always (fun state => State.Remembers (fun _ => KnowsPublication) state) initially
    fun earlier state label after reached remembers stepped => ?_
  refine remembers.step stepped
    (fun index choice op resume past outcome here executed known publication claimed => ?_)
    (fun past known => known)
  rw [openPublication_append] at claimed
  have kept : forall current, openPublication past = some current ->
      Seen (past ++ [⟨op, outcome⟩]) current.claim.job ∧ current.claim.job.isSync = false ∧
        current.claim.deliveryUncertain = deliveryUncertain current.claim.job := by
    intro current before
    rcases known current before with ⟨seen, queued, doubt⟩
    exact ⟨seen.mono (List.prefix_append _ _), queued, doubt⟩
  rcases op.publicationAfter_cases (openPublication past) outcome with
    same | closed | ⟨input, rfl, opened⟩ | ⟨current, sent, before, answered, _⟩
  · exact kept publication (same ▸ claimed)
  · rw [closed] at claimed
    cases claimed
  · cases opened.symm.trans claimed
    have permitted : JobUpdate.Permitted deployment past (.claimAttempt input) :=
      ((reachable_disciplined initial reached).permits here).1
    exact ⟨permitted.1.mono (List.prefix_append _ _), permitted.2.1, permitted.2.2⟩
  · cases answered.symm.trans claimed
    exact kept current before

/-- The job of an open attempt was accepted over the API. -/
theorem publication_queued (initial : first.Initial) (run : Execution first steps last)
    {index : Nat} {publication : Publication} {jobId : JobId} {job : AnalysisJob}
    (claimed : publicationOf (last.historyAt index) jobId = some publication)
    (found : last.db.findJob jobId = some job) : job.isSync = false := by
  rcases publicationOf_eq_some_iff.mp claimed with ⟨opened, rfl⟩
  rcases reachable_publication initial run index publication opened with ⟨seen, queued, _⟩
  rcases reachable_seen initial run index _ seen with ⟨row, there, same⟩
  cases found.symm.trans there
  have key : job.isSync = publication.claim.job.isSync :=
    congrArg (fun columns : JobIdentity => startsWith columns.idempotencyKey "sync:") same
  exact key.trans queued

end Runs

/-! ## The queue's record of sends -/

/-- Only a send adds to the sends the queue has accepted. -/
theorem World.exec_accepted {op : Op} {choice : Choice} {world later : World}
    {outcome : Except AppError op.Reply}
    (executed : World.exec op choice world = some (outcome, later)) :
    later.queue.accepted = world.queue.accepted ∨
      Exists fun jobId => Exists fun userId => Exists fun repositoryId => Exists fun traceId =>
        op = .publishMessage jobId userId repositoryId traceId := by
  cases op with
  | publishMessage jobId userId repositoryId traceId => exact Or.inr ⟨_, _, _, _, rfl⟩
  | command order => exact Or.inl (congrArg Queue.accepted (World.exec_command executed).1)
  | query question => exact Or.inl (by rw [(World.exec_query executed).1])
  | randomUuid =>
      rcases World.exec_randomUuid executed with ⟨uuid, _, _, rfl⟩
      exact Or.inl rfl
  | receiveMessages =>
      change world.receive choice = _ at executed
      cases choice with
      | received messageIds =>
          rcases Option.map_eq_some_iff.mp executed with ⟨delivery, received, same⟩
          cases same
          unfold Queue.receive at received
          split at received
          · cases received
            exact Or.inl rfl
          · cases received
      | _ => cases executed
  | deleteMessages records =>
      change world.delete records choice = _ at executed
      cases choice with
      | deleted =>
          cases executed
          exact Or.inl rfl
      | fault error =>
          simp only [World.delete] at executed
          split at executed
          · cases executed
            exact Or.inl rfl
          · cases executed
      | _ => cases executed
  | currentDate | random | collectAttempt | analyze | getAvailableRepos =>
      rcases Option.map_eq_some_iff.mp executed with ⟨observed, _, same⟩
      cases same
      exact Or.inl rfl

/-- What a send adds, and what its publisher learns of it. -/
theorem World.exec_publish {jobId : JobId} {userId : UserId} {repositoryId : RepositoryId}
    {traceId : Uuid} {choice : Choice} {world later : World} {outcome : Except AppError Unit}
    (executed : World.exec (.publishMessage jobId userId repositoryId traceId) choice world =
      some (outcome, later)) :
    later.db = world.db ∧
      (later.queue.accepted = world.queue.accepted ∨
        later.queue.accepted = world.queue.accepted ++ [⟨jobId, world.queue.clock⟩] ∧
          publishAnswer outcome = .inconclusive) := by
  refine ⟨(World.exec_outside rfl executed).1, ?_⟩
  change world.publish jobId (userId, repositoryId) choice = _ at executed
  cases choice with
  | send result =>
      change world.send jobId (userId, repositoryId) result = _ at executed
      unfold World.send at executed
      split at executed
      · cases executed
        exact Or.inr ⟨rfl, rfl⟩
      · split at executed
        · cases executed
          exact Or.inr ⟨rfl, rfl⟩
        · cases executed
      · cases executed
        exact Or.inl rfl
      · rename_i error
        split at executed
        · rename_i external
          cases executed
          refine Or.inr ⟨rfl, ?_⟩
          cases error with
          | analysisJobQueueRejected => cases external
          | _ => rfl
        · cases executed
      · split at executed
        · cases executed
          exact Or.inl rfl
        · cases executed
  | _ => cases executed

theorem Queue.handle_accepted (queue : Queue) (event : QueueEvent) :
    (queue.handle event).accepted = queue.accepted := by
  cases event <;> rfl

/-! ## Steps of the outbox -/

section Steps

variable {first state after : SystemState deployment}
  {steps : List (Transition (gitMate deployment))} {label : SystemLabel deployment}
  {jobId : JobId} {job row : AnalysisJob}

theorem publicationOf_append (past : History Services) (op : Op)
    (outcome : Except AppError op.Reply) (jobId : JobId) :
    publicationOf (past ++ [⟨op, outcome⟩]) jobId =
      (op.publicationAfter (openPublication past) outcome).filter
        fun publication => publication.claim.job.id == jobId := by
  rw [publicationOf, openPublication_append]

/-- Processes read rows as they are after the step. -/
theorem jobOutbox_reads (stepped : state.step label = some after)
    (later : after.db.findJob jobId = some row) :
    (jobOutbox state jobId job).Reads (jobOutbox after jobId row) := by
  rintro index number marked ⟨snapshot, seen, rfl, rfl, rfl⟩
  rcases State.historyAt_step stepped index with
    same | ⟨choice, op, resume, outcome, _, _, executed, grown⟩
  · rw [same] at seen
    exact Or.inl ⟨snapshot, seen, rfl, rfl, rfl⟩
  · rw [grown] at seen
    rcases Seen.append_iff.mp seen with old | shown
    · exact Or.inl ⟨snapshot, old, rfl, rfl, rfl⟩
    · have current : after.db.findJob snapshot.id = some snapshot := World.exec_shown executed shown
      cases later.symm.trans current
      refine Or.inr ⟨rfl, fun mark phase => ?_⟩
      change row.outboxPhase = .waiting mark at phase
      unfold AnalysisJob.outboxPhase at phase
      split at phase
      · cases phase
      · split at phase
        · exact Phase.waiting.inj phase
        · cases phase

/-- Nothing that concerns the item happened. -/
theorem jobOutbox_quiet (stepped : state.step label = some after)
    (later : after.db.findJob jobId = some row)
    (attempts : row.publishAttempts = job.publishAttempts)
    (phase : row.outboxPhase = job.outboxPhase)
    (accepted : forall send, send ∈ after.queue.accepted -> send.jobId = jobId ->
      send ∈ state.queue.accepted)
    (abandons : forall index publication,
      publicationOf (after.historyAt index) jobId = some publication ->
        publicationOf (state.historyAt index) jobId = some publication) :
    (jobOutbox state jobId job).Step (jobOutbox after jobId row) := by
  refine .quiet attempts phase ?_ (fun index attempt there => ?_) (jobOutbox_reads stepped later)
  · rintro ⟨send, member, named⟩
    exact ⟨send, accepted send member named, named⟩
  · rcases Option.map_eq_some_iff.mp there with ⟨publication, claimed, rfl⟩
    exact Option.map_eq_some_iff.mpr ⟨publication, abandons index publication claimed, rfl⟩

section Acting

variable {index : Nat} {op : Op} {resume : Except AppError op.Reply -> Service Unit}
  {past : History Services} {outcome : Except AppError op.Reply} {world : World}

/-- The state after a process has performed its operation. -/
def acted (state : SystemState deployment) (index : Nat) (op : Op)
    (resume : Except AppError op.Reply -> Service Unit) (past : History Services)
    (outcome : Except AppError op.Reply) (world : World) : SystemState deployment :=
  ⟨world, state.processes.set index ⟨resume outcome, past ++ [⟨op, outcome⟩]⟩⟩

theorem acted_historyAt (here : state.processes[index]? = some ⟨.request op resume, past⟩) :
    (acted state index op resume past outcome world).historyAt index = past ++ [⟨op, outcome⟩] :=
  State.historyAt_set here _ _

theorem acted_historyAt_ne {other : Nat} (different : other ≠ index) :
    (acted state index op resume past outcome world).historyAt other = state.historyAt other :=
  State.historyAt_set_ne different _ _

theorem acted_attempt (here : state.processes[index]? = some ⟨.request op resume, past⟩) :
    (jobOutbox (acted state index op resume past outcome world) jobId row).attempt index =
      ((op.publicationAfter (openPublication past) outcome).filter
        fun publication => publication.claim.job.id == jobId).map Publication.attempt := by
  change (publicationOf (State.historyAt _ index) jobId).map Publication.attempt = _
  rw [acted_historyAt here, publicationOf_append]

theorem acted_others : (jobOutbox state jobId job).OthersKeep
    (jobOutbox (acted state index op resume past outcome world) jobId row) index := by
  intro other different
  change (publicationOf (State.historyAt _ other) jobId).map Publication.attempt = _
  rw [acted_historyAt_ne different]
  rfl

theorem acted_forgets (here : state.processes[index]? = some ⟨.request op resume, past⟩)
    (silent : op.shown outcome = []) : (jobOutbox state jobId job).Forgets
      (jobOutbox (acted state index op resume past outcome world) jobId row) := by
  rintro other number marked ⟨snapshot, seen, named, counted, doubted⟩
  refine ⟨snapshot, ?_, named, counted, doubted⟩
  by_cases same : other = index
  · subst same
    rw [acted_historyAt here] at seen
    rw [State.historyAt_of_getElem? here]
    rcases Seen.append_iff.mp seen with old | shown
    · exact old
    · rw [silent] at shown
      cases shown
  · rw [acted_historyAt_ne same] at seen
    exact seen

/-- An operation that leaves the open attempt alone, or closes it. -/
theorem acted_abandons (here : state.processes[index]? = some ⟨.request op resume, past⟩)
    (closes : forall publication, op.publicationAfter (openPublication past) outcome =
      some publication -> publication.claim.job.id = jobId ->
        openPublication past = some publication) :
    forall other publication,
      publicationOf ((acted state index op resume past outcome world).historyAt other) jobId =
        some publication -> publicationOf (state.historyAt other) jobId = some publication := by
  intro other publication claimed
  by_cases same : other = index
  · subst same
    rw [acted_historyAt here, publicationOf_append] at claimed
    rw [State.historyAt_of_getElem? here]
    rcases Option.filter_eq_some_iff.mp claimed with ⟨opened, named⟩
    have named := beq_iff_eq.mp named
    exact publicationOf_eq_some_iff.mpr ⟨closes publication opened named, named⟩
  · rw [acted_historyAt_ne same] at claimed
    exact claimed

end Acting

/-! ## The steps of publishers -/

section Publishers

variable {index : Nat} {resume : Except AppError Bool -> Service Unit}
  {past : History Services} {outcome : Except AppError Bool} {world : World}
  {environment : Environment}

/-- A marked item that still waits. -/
theorem claimedPhase (queued : job.status = .queued) (status : row.status = .queued)
    (attempts : row.attemptCount = job.attemptCount) (sync : row.isSync = job.isSync)
    (marked : deliveryUncertain row = true) :
    Outbox.ClaimedPhase job.outboxPhase row.outboxPhase := by
  by_cases waiting : job.attemptCount = 0 ∧ job.isSync = false
  · rw [outboxPhase_of_waiting queued waiting.1 waiting.2,
      outboxPhase_of_waiting status (attempts.trans waiting.1) (sync.trans waiting.2), marked]
    exact .waiting _
  · rw [outboxPhase_of_begun (fun failed => by rw [queued] at failed; cases failed)
        (fun _ unsynced unclaimed => waiting ⟨unclaimed, unsynced⟩),
      outboxPhase_of_begun (fun failed => by rw [status] at failed; cases failed)
        (fun _ unsynced unclaimed =>
          waiting ⟨attempts.symm.trans unclaimed, sync.symm.trans unsynced⟩)]
    exact .begun

/-- A waiting item after its attempt was recorded. -/
theorem recordedPhase {attempt : Attempt} (queued : job.status = .queued)
    (status : row.status = .queued) (attempts : row.attemptCount = job.attemptCount)
    (sync : row.isSync = job.isSync)
    (evidence : deliveryUncertain row = false ->
      attempt.doubtful = false ∧ attempt.sent = some .rejected) :
    Outbox.RecordedPhase attempt job.outboxPhase row.outboxPhase := by
  by_cases waiting : job.attemptCount = 0 ∧ job.isSync = false
  · rw [outboxPhase_of_waiting queued waiting.1 waiting.2,
      outboxPhase_of_waiting status (attempts.trans waiting.1) (sync.trans waiting.2)]
    exact .waiting _ _ evidence
  · rw [outboxPhase_of_begun (fun failed => by rw [queued] at failed; cases failed)
        (fun _ unsynced unclaimed => waiting ⟨unclaimed, unsynced⟩),
      outboxPhase_of_begun (fun failed => by rw [status] at failed; cases failed)
        (fun _ unsynced unclaimed =>
          waiting ⟨attempts.symm.trans unclaimed, sync.symm.trans unsynced⟩)]
    exact .begun

/-- A claim of a publish attempt that took effect. -/
theorem outbox_claim {input : ClaimAnalysisJobPublishAttemptInput}
    (here : state.processes[index]? =
      some ⟨.request (.command (.update (.claimAttempt input))) resume, past⟩)
    (accepted : world.queue.accepted = state.queue.accepted)
    (seen : Seen past input.job) (named : input.job.id = jobId) (guarded : (claimAttempt input).guard job = true)
    (written : row = (claimAttempt input).data environment.application job) :
    (jobOutbox state jobId job).Step (jobOutbox (acted state index
      (.command (.update (.claimAttempt input))) resume past outcome world) jobId row) := by
  simp only [claimAttempt, snapshotWhere, Bool.and_eq_true, beq_iff_eq] at guarded
  rcases guarded with ⟨⟨⟨queued, attempts⟩, _⟩, _⟩
  refine .claim index (deliveryUncertain input.job) ?_ (by rw [written]; rfl) ?_ ?_ ?_ acted_others
    (acted_forgets here rfl)
  · refine ⟨input.job, ?_, named, attempts.symm, rfl⟩
    rw [State.historyAt_of_getElem? here]
    exact seen
  · refine claimedPhase queued (by rw [written]; exact queued) (by rw [written]; rfl)
      (by rw [written]; rfl) ?_
    rw [written]
    simp only [deliveryUncertain, claimAttempt, isUncertainPublishCode]
    cases input.deliveryUncertain <;> simp
  · rintro ⟨send, member, sameJob⟩
    change send ∈ world.queue.accepted at member
    exact ⟨send, accepted ▸ member, sameJob⟩
  · intro attempt claimed
    rw [acted_attempt here] at claimed
    rcases Option.map_eq_some_iff.mp claimed with ⟨publication, kept, rfl⟩
    have opened := (Option.filter_eq_some_iff.mp kept).1
    have own : publication = ⟨input, none⟩ :=
      @claim_publicationAfter (openPublication past) outcome input publication opened
    rw [own]
    simp only [Publication.attempt, Option.map_none, ← attempts]
    rfl

variable {change : JobUpdate} {publication : Publication}

/-- The recording of an attempt, by the process that has claimed it. -/
theorem outbox_record
    (here : state.processes[index]? = some ⟨.request (.command (.update change)) resume, past⟩)
    (accepted : world.queue.accepted = state.queue.accepted)
    (opened : openPublication past = some publication)
    (named : publication.claim.job.id = jobId)
    (closes : change.publicationAfter (openPublication past) outcome = none)
    (latest : job.publishAttempts = publication.claim.job.publishAttempts + 1)
    (attempts : row.publishAttempts = job.publishAttempts)
    (phase : Outbox.RecordedPhase publication.attempt job.outboxPhase row.outboxPhase ∨
      (Exists fun marked => job.outboxPhase = .waiting marked) ∧
        publication.attempt.doubtful = false ∧ publication.attempt.sent = some .rejected ∧
        row.outboxPhase = .givenUp) :
    (jobOutbox state jobId job).Step (jobOutbox (acted state index
      (.command (.update change)) resume past outcome world) jobId row) := by
  have current : (jobOutbox state jobId job).attempt index = some publication.attempt := by
    change (publicationOf (state.historyAt index) jobId).map Publication.attempt = _
    rw [State.historyAt_of_getElem? here, publicationOf_eq_some_iff.mpr ⟨opened, named⟩]
    rfl
  have closed : (jobOutbox (acted state index (.command (.update change)) resume past outcome
      world) jobId row).attempt index = none := by
    rw [acted_attempt here]
    change ((change.publicationAfter (openPublication past) outcome).filter _).map _ = none
    rw [closes]
    rfl
  have keeps : (jobOutbox (acted state index (.command (.update change)) resume past outcome
      world) jobId row).accepted -> (jobOutbox state jobId job).accepted := by
    rintro ⟨send, member, sameJob⟩
    change send ∈ world.queue.accepted at member
    exact ⟨send, accepted ▸ member, sameJob⟩
  have silent : (Op.command (.update change)).shown outcome = [] := by
    cases outcome <;> rfl
  rcases phase with recorded | ⟨⟨marked, waiting⟩, certain, rejected, ended⟩
  · exact .record index publication.attempt current latest.symm attempts recorded keeps closed
      acted_others (acted_forgets here silent)
  · exact .giveUp index publication.attempt marked current latest.symm waiting certain rejected
      attempts ended keeps closed acted_others (acted_forgets here silent)

end Publishers

/-! ## Every step is a step of the outbox -/

/-- A publisher gives a job up only while no worker has claimed it: when a
terminating `recordFailure` applies, the job has never been attempted. -/
def GivesUpUnclaimed (step : Transition (gitMate deployment)) : Prop :=
  forall index choice input job, step.label = .act index choice ->
    step.before.pending index = some (.command (.update (.recordFailure input))) ->
    input.terminate = true -> step.before.db.findJob input.job.id = some job ->
    (recordFailure input).guard job = true -> job.attemptCount = 0

/-- A step that leaves all histories alone. -/
theorem outbox_unmoved (stepped : state.step label = some after)
    (sameDb : after.db = state.db) (sameAccepted : after.queue.accepted = state.queue.accepted)
    (unmoved : forall index choice, label ≠ .act index choice)
    (found : state.db.findJob jobId = some job) (later : after.db.findJob jobId = some row) :
    (jobOutbox state jobId job).Step (jobOutbox after jobId row) := by
  rw [sameDb] at later
  cases found.symm.trans later
  refine jobOutbox_quiet stepped (sameDb ▸ found) rfl rfl
    (fun send member _ => sameAccepted ▸ member) fun index publication claimed => ?_
  rcases State.historyAt_step stepped index with same | ⟨choice, _, _, _, acts, _⟩
  · rw [same] at claimed
    exact claimed
  · exact absurd acts (unmoved index choice)

/-- A command that leaves the row alone, or a publisher's update of another
row. -/
theorem outbox_idle {index : Nat} {choice : Choice} {order : Command}
    {resume : Except AppError order.Reply -> Service Unit} {past : History Services}
    {outcome : Except AppError order.Reply} {world : World}
    (stepped : state.step (.act index choice) = some (acted state index (.command order) resume
      past outcome world))
    (here : state.processes[index]? = some ⟨.request (.command order) resume, past⟩)
    (accepted : world.queue.accepted = state.queue.accepted)
    (later : world.db.findJob jobId = some row)
    (attempts : row.publishAttempts = job.publishAttempts)
    (phase : row.outboxPhase = job.outboxPhase)
    (unclaimed : forall input, order = .update (.claimAttempt input) -> input.job.id = jobId ->
      (Op.command order).publicationAfter (openPublication past) outcome = none) :
    (jobOutbox state jobId job).Step
      (jobOutbox (acted state index (.command order) resume past outcome world) jobId row) := by
  refine jobOutbox_quiet stepped later attempts phase (fun send member _ => ?_)
    (acted_abandons here fun publication opened named => ?_)
  · change send ∈ world.queue.accepted at member
    exact accepted ▸ member
  · rcases (Op.command order).publicationAfter_cases (openPublication past) outcome with
      same | closed | ⟨input, isClaim, claimed⟩ | ⟨_, _, _, _, notCommand⟩
    · exact same ▸ opened
    · rw [closed] at opened
      cases opened
    · cases isClaim
      cases claimed.symm.trans opened
      cases (unclaimed input rfl named).symm.trans opened
    · exact absurd rfl (notCommand order)

/-- A failure that leaves no mark knows its send for certain. -/
theorem recordFailure_certain {input : RecordAnalysisJobPublishFailureInput} {now : Instant}
    (continues : ¬ input.terminate = true)
    (certain : deliveryUncertain ((recordFailure input).data now job) = false) :
    input.deliveryUncertain = false := by
  simp only [recordFailure, if_neg continues, deliveryUncertain, isUncertainPublishCode] at certain
  cases uncertain : input.deliveryUncertain with
  | false => rfl
  | true =>
      rw [uncertain] at certain
      simp at certain

/-- A committed update of a publisher. -/
theorem outbox_publishes {index : Nat} {choice : Choice} {change : JobUpdate}
    {resume : Except AppError Bool -> Service Unit} {past : History Services}
    {outcome : Except AppError Bool} {world : World} {environment : Environment}
    (stepped : state.step (.act index choice) = some (acted state index
      (.command (.update change)) resume past outcome world))
    (here : state.processes[index]? = some ⟨.request (.command (.update change)) resume, past⟩)
    (accepted : world.queue.accepted = state.queue.accepted)
    (permitted : change.Permitted deployment past) (publishes : change.publishes = true)
    (meets : GivesUpUnclaimed ⟨state, .act index choice, acted state index
      (.command (.update change)) resume past outcome world⟩)
    (unsynced : forall publication, publicationOf past jobId = some publication ->
      job.isSync = false)
    (committed : Committed environment state.db (.update change) world.db)
    (found : state.db.findJob jobId = some job) (later : world.db.findJob jobId = some row) :
    (jobOutbox state jobId job).Step (jobOutbox (acted state index
      (.command (.update change)) resume past outcome world) jobId row) := by
  rcases committed.update_row found later with ⟨named, guarded, written⟩ | ⟨other, same⟩
  · cases change with
    | claimAttempt input =>
        exact outbox_claim here accepted permitted.1 named guarded written
    | markPublished input publishedAt =>
        rcases permitted with ⟨attempt, opened, rfl⟩
        simp only [JobUpdate.row, markPublished, claimedWhere, Bool.and_eq_true, beq_iff_eq]
          at guarded
        rcases guarded with ⟨⟨⟨queued, latest⟩, _⟩, _⟩
        refine outbox_record here accepted opened named rfl latest (by rw [written]; rfl) (.inl ?_)
        refine recordedPhase queued (by rw [written]; exact queued) (by rw [written]; rfl)
          (by rw [written]; rfl) fun certain => ?_
        rw [written] at certain
        cases certain
    | recordFailure input =>
        rcases permitted with ⟨attempt, _, error, random, opened, rfl⟩
        have whole := guarded
        simp only [JobUpdate.row, recordFailure, claimedWhere, Bool.and_eq_true, beq_iff_eq]
          at guarded
        rcases guarded with ⟨⟨⟨⟨queued, latest⟩, published⟩, _⟩, _⟩
        have rejection : (deliveryUncertain attempt.job || error != .analysisJobQueueRejected) =
            false -> (Publication.attempt ⟨attempt.claim, some (.error error)⟩).doubtful = false ∧
              (Publication.attempt ⟨attempt.claim, some (.error error)⟩).sent =
                some .rejected := by
          intro certain
          rw [Bool.or_eq_false_iff, bne_eq_false_iff_eq] at certain
          refine ⟨certain.1, ?_⟩
          rw [certain.2]
          rfl
        by_cases terminating : (attempt.failure error random).terminate = true
        · have certain := terminating
          simp only [PublishAttempt.failure, Bool.and_eq_true, Bool.not_eq_true'] at certain
          have proof := rejection certain.1.1.2
          simp only [JobUpdate.row, recordFailure, if_pos terminating] at written
          refine outbox_record here accepted opened named rfl latest (by rw [written]; rfl)
            (.inr ⟨⟨deliveryUncertain job, ?_⟩, proof.1, proof.2, ?_⟩)
          · have unclaimed := meets index choice (attempt.failure error random) job rfl
              (SystemState.pending_of_getElem? here) terminating
              ((congrArg state.db.findJob named).trans found) whole
            exact outboxPhase_of_waiting queued unclaimed
              (unsynced _ (publicationOf_eq_some_iff.mpr ⟨opened, named⟩))
          · rw [written]
            exact outboxPhase_of_failed rfl rfl
        · have plain := written
          simp only [JobUpdate.row, recordFailure, if_neg terminating] at plain
          refine outbox_record here accepted opened named rfl latest (by rw [plain]) (.inl ?_)
          refine recordedPhase queued (by rw [plain]; exact queued) (by rw [plain])
            (by rw [plain]; rfl) fun certain => rejection ?_
          rw [written] at certain
          exact recordFailure_certain terminating certain
    | _ => cases publishes
  · rw [same] at later ⊢
    refine outbox_idle stepped here accepted later rfl rfl fun input isClaim named => ?_
    cases isClaim
    exact absurd named other
/-- A send by the process that has claimed the attempt. -/
theorem outbox_send {index : Nat} {choice : Choice} {userId : UserId}
    {repositoryId : RepositoryId} {traceId : Uuid}
    {resume : Except AppError Unit -> Service Unit} {past : History Services}
    {outcome : Except AppError Unit} {world : World} {sentJob : JobId}
    (stepped : state.step (.act index choice) = some (acted state index
      (.publishMessage sentJob userId repositoryId traceId) resume past outcome world))
    (here : state.processes[index]? =
      some ⟨.request (.publishMessage sentJob userId repositoryId traceId) resume, past⟩)
    (executed : World.exec (.publishMessage sentJob userId repositoryId traceId) choice
      state.world = some (outcome, world))
    (permitted : Op.Permitted deployment past
      (.publishMessage sentJob userId repositoryId traceId))
    (found : state.db.findJob jobId = some job) (later : world.db.findJob jobId = some row) :
    (jobOutbox state jobId job).Step (jobOutbox (acted state index
      (.publishMessage sentJob userId repositoryId traceId) resume past outcome world)
        jobId row) := by
  rcases permitted with ⟨attempt, opened, named, _, _⟩
  rcases World.exec_publish executed with ⟨sameDb, sends⟩
  have there := later
  rw [sameDb] at there
  cases found.symm.trans there
  have answered : Op.publicationAfter (openPublication past)
      (.publishMessage sentJob userId repositoryId traceId) outcome =
        some ⟨attempt.claim, some outcome⟩ := by
    rw [opened]
    rfl
  by_cases same : sentJob = jobId
  · subst same
    refine .send index (Publication.attempt ⟨attempt.claim, none⟩) (publishAnswer outcome) ?_ rfl rfl
      rfl ?_ ?_ acted_others (acted_forgets here (by cases outcome <;> rfl))
    · change (publicationOf (state.historyAt index) sentJob).map Publication.attempt = _
      rw [State.historyAt_of_getElem? here, publicationOf_eq_some_iff.mpr ⟨opened, named⟩]
      rfl
    · rintro ⟨send, member, sameJob⟩
      change send ∈ world.queue.accepted at member
      rcases sends with none | ⟨added, inconclusive⟩
      · exact Or.inl ⟨send, none ▸ member, sameJob⟩
      · exact Or.inr inconclusive
    · rw [acted_attempt here, answered]
      simp only [Option.filter_some, PublishAttempt.claim, named, beq_self_eq_true, if_true,
        Option.map_some]
      rfl
  · refine jobOutbox_quiet stepped later rfl rfl (fun send member sameJob => ?_)
      (acted_abandons here fun publication claimed sameJob => ?_)
    · change send ∈ world.queue.accepted at member
      rcases sends with none | ⟨added, _⟩
      · exact none ▸ member
      · rw [added] at member
        rcases List.mem_append.mp member with old | new
        · exact old
        · rw [List.mem_singleton] at new
          subst new
          exact absurd sameJob same
    · rw [answered] at claimed
      cases claimed
      exact absurd (named.symm.trans sameJob) same

/-- The operations that neither write to the database nor send. -/
def Op.isSilent : Op -> Bool
  | .command _ | .publishMessage .. => false
  | _ => true

theorem Op.publicationAfter_of_silent {op : Op} (silent : op.isSilent = true)
    (current : Option Publication) (outcome : Except AppError op.Reply) :
    op.publicationAfter current outcome = current := by
  cases op with
  | command | publishMessage => cases silent
  | query | currentDate | randomUuid | random | collectAttempt | analyze | getAvailableRepos
  | receiveMessages | deleteMessages => rfl

theorem outbox_silent {index : Nat} {choice : Choice} {op : Op}
    {resume : Except AppError op.Reply -> Service Unit} {past : History Services}
    {outcome : Except AppError op.Reply} {world : World} (silent : op.isSilent = true)
    (stepped : state.step (.act index choice) = some (acted state index op resume past outcome
      world))
    (here : state.processes[index]? = some ⟨.request op resume, past⟩)
    (executed : World.exec op choice state.world = some (outcome, world))
    (found : state.db.findJob jobId = some job) (later : world.db.findJob jobId = some row) :
    (jobOutbox state jobId job).Step
      (jobOutbox (acted state index op resume past outcome world) jobId row) := by
  have sameDb : world.db = state.world.db := by
    rcases World.exec_db executed with same | ⟨order, _, rfl, _⟩
    · exact same
    · cases silent
  have there := later
  rw [sameDb] at there
  cases found.symm.trans there
  refine jobOutbox_quiet stepped later rfl rfl (fun send member _ => ?_)
    (acted_abandons here fun publication opened _ => ?_)
  · change send ∈ world.queue.accepted at member
    rcases World.exec_accepted executed with same | ⟨_, _, _, _, rfl⟩
    · exact same ▸ member
    · cases silent
  · rw [Op.publicationAfter_of_silent silent] at opened
    exact opened

/-- A command, which takes effect or leaves the database alone. -/
theorem outbox_command {earlier : List (Transition (gitMate deployment))}
    (initial : first.Initial) (reached : Execution first earlier state) {index : Nat}
    {choice : Choice} {order : Command} {resume : Except AppError order.Reply -> Service Unit}
    {past : History Services} {outcome : Except AppError order.Reply} {world : World}
    (stepped : state.step (.act index choice) = some (acted state index (.command order) resume
      past outcome world))
    (here : state.processes[index]? = some ⟨.request (.command order) resume, past⟩)
    (executed : World.exec (.command order) choice state.world = some (outcome, world))
    (meets : GivesUpUnclaimed ⟨state, .act index choice,
      acted state index (.command order) resume past outcome world⟩)
    (found : state.db.findJob jobId = some job) (later : world.db.findJob jobId = some row) :
    (jobOutbox state jobId job).Step
      (jobOutbox (acted state index (.command order) resume past outcome world) jobId row) := by
  have permitted : order.Permitted deployment past :=
    ((reachable_disciplined initial reached).permits here).1
  have pastIs : state.historyAt index = past := State.historyAt_of_getElem? here
  rcases World.exec_command executed with ⟨queue, _, environment, effect⟩
  have accepted : world.queue.accepted = state.queue.accepted := congrArg Queue.accepted queue
  rcases effect with ⟨idle, declined⟩ | ⟨committed, _⟩
  · have there := later
    rw [idle] at there
    cases found.symm.trans there
    refine outbox_idle stepped here accepted later rfl rfl fun input isClaim _ => ?_
    subst isClaim
    cases outcome with
    | error error => rfl
    | ok reply =>
        cases reply with
        | false => rfl
        | true => cases declined true rfl
  · cases publishing : order.publishes with
    | true =>
        cases order with
        | update change =>
            exact outbox_publishes stepped here accepted permitted publishing meets
              (fun publication claimed =>
                publication_queued initial reached (pastIs ▸ claimed) found)
              committed found later
        | _ => cases publishing
    | false =>
        have unclaimed : forall input, order ≠ .update (.claimAttempt input) := by
          intro input isClaim
          subst isClaim
          cases publishing
        have fate := committed.evolves jobId
        rw [show state.world.db.findJob jobId = some job from found, later] at fate
        cases fate with
        | evolved step =>
            rcases step.outboxPhase permitted publishing
              (fun queued running => reachable_attempted initial reached found queued running)
              with ⟨attempts, phase | ⟨possible, begun⟩⟩
            · exact outbox_idle stepped here accepted later attempts phase
                fun input isClaim _ => absurd isClaim (unclaimed input)
            · refine .begin possible begun attempts (fun other attempt there => ?_)
                (jobOutbox_reads stepped later)
              rcases Option.map_eq_some_iff.mp there with ⟨publication, claimed, rfl⟩
              refine Option.map_eq_some_iff.mpr ⟨publication, ?_, rfl⟩
              refine acted_abandons here (fun other opened _ => ?_) _ publication claimed
              rcases (Op.command order).publicationAfter_cases (openPublication past) outcome with
                same | closed | ⟨input, isClaim, _⟩ | ⟨_, _, _, _, notCommand⟩
              · exact same ▸ opened
              · rw [closed] at opened
                cases opened
              · exact absurd (Op.command.inj isClaim) (unclaimed input)
              · exact absurd rfl (notCommand order)

/-- Every step of a run in which jobs are given up only unclaimed is a step of
the outbox of each job. -/
theorem outbox_step {earlier : List (Transition (gitMate deployment))} (initial : first.Initial)
    (reached : Execution first earlier state) (stepped : state.step label = some after)
    (meets : GivesUpUnclaimed ⟨state, label, after⟩) (found : state.db.findJob jobId = some job)
    (later : after.db.findJob jobId = some row) :
    (jobOutbox state jobId job).Step (jobOutbox after jobId row) := by
  cases label with
  | spawn entry =>
      have result := State.step_spawn stepped
      exact outbox_unmoved stepped (by rw [result]; rfl) (by rw [result]; rfl)
        (fun _ _ same => by cases same) found later
  | crash index =>
      rcases State.step_crash stepped with ⟨stopped, _, result⟩
      exact outbox_unmoved stepped (by rw [result]; rfl) (by rw [result]; rfl)
        (fun _ _ same => by cases same) found later
  | internal event =>
      rcases State.step_internal stepped with ⟨world, moved, result⟩
      cases moved
      exact outbox_unmoved stepped (by rw [result]; rfl)
        (by rw [result]; exact Queue.handle_accepted _ _) (fun _ _ same => by cases same) found
        later
  | act index choice =>
      rcases State.step_act stepped with ⟨op, resume, past, outcome, world, here, executed, rfl⟩
      cases silent : op.isSilent with
      | true => exact outbox_silent silent stepped here executed found later
      | false =>
          cases op with
          | publishMessage sentJob userId repositoryId traceId =>
              exact outbox_send stepped here executed
                ((reachable_disciplined initial reached).permits here) found later
          | command order =>
              exact outbox_command initial reached stepped here executed meets found later
          | _ => cases silent

end Steps

end GitMate
