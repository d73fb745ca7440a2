import GitMate.Guarantees.Publication

namespace GitMate

open Relational Interleaving Machine Publishing

/-!
# Jobs that were given up

A publisher ends a job with `PUBLISH_FAILED` when its attempts are used up and
it believes that no send was accepted.  Its evidence is the mark that uncertain
sends leave in the row.  A worker that claims the job and releases it again
removes that mark, so the evidence holds exactly as long as no worker has
claimed the job.
-/

section Runs

variable {deployment : Deployment} {first last : SystemState deployment}
  {steps : List (Transition (gitMate deployment))}

/-! ## Known jobs -/

/-- The job of a claimed publish attempt has a row. -/
theorem publication_row (initial : first.Initial) (run : Execution first steps last)
    {index : Nat} {publication : Publication} {jobId : JobId}
    (claimed : publicationOf (last.historyAt index) jobId = some publication) :
    Exists fun row => last.db.findJob jobId = some row := by
  rcases publicationOf_eq_some_iff.mp claimed with ⟨opened, rfl⟩
  rcases reachable_publication initial run index publication opened with ⟨seen, _⟩
  rcases reachable_seen initial run index _ seen with ⟨row, found, _⟩
  exact ⟨row, found⟩

/-- The job of an accepted send has a row. -/
theorem accepted_row (initial : first.Initial) (run : Execution first steps last)
    {send : AcceptedSend} (member : send ∈ last.queue.accepted) :
    Exists fun row => last.db.findJob send.jobId = some row := by
  refine run.always (fun state => forall send, send ∈ state.queue.accepted ->
      Exists fun row => state.db.findJob send.jobId = some row)
    (fun send member => ?_) (fun earlier state label after reached held stepped => ?_) send member
  · rw [initial.accepted] at member
    cases member
  · intro send member
    have kept : send ∈ state.queue.accepted ->
        Exists fun row => after.db.findJob send.jobId = some row := by
      intro old
      rcases held send old with ⟨row, found⟩
      rcases step_row stepped found with ⟨later, there, _⟩
      exact ⟨later, there⟩
    cases label with
    | spawn entry =>
        rw [State.step_spawn stepped] at member
        exact kept member
    | crash index =>
        rcases State.step_crash stepped with ⟨stopped, _, result⟩
        rw [result] at member
        exact kept member
    | internal event =>
        rcases State.step_internal stepped with ⟨world, moved, result⟩
        cases moved
        rw [result] at member
        exact kept (Queue.handle_accepted _ event ▸ member)
    | act index choice =>
        rcases State.step_act stepped with ⟨op, resume, past, outcome, world, here, executed, rfl⟩
        change send ∈ world.queue.accepted at member
        rcases World.exec_accepted executed with same | ⟨jobId, userId, repositoryId, traceId, rfl⟩
        · exact kept (same ▸ member)
        · rcases (@World.exec_publish jobId userId repositoryId traceId _ _ _ _ executed).2 with
            same | ⟨added, _⟩
          · exact kept (same ▸ member)
          · rw [added] at member
            rcases List.mem_append.mp member with old | new
            · exact kept old
            · rw [List.mem_singleton] at new
              subst new
              rcases (reachable_disciplined initial reached).permits here with
                ⟨attempt, opened, named, _, _⟩
              have claimed : publicationOf (state.historyAt index) jobId =
                  some ⟨attempt.claim, none⟩ := by
                rw [State.historyAt_of_getElem? here]
                exact publicationOf_eq_some_iff.mpr ⟨opened, named⟩
              rcases publication_row initial reached claimed with ⟨row, found⟩
              rcases step_row stepped found with ⟨later, there, _⟩
              exact ⟨later, there⟩

/-! ## The outbox of every job is sound -/

/-- A row that has just been inserted is an outbox that nobody has used. -/
theorem inserted_outbox {state after : SystemState deployment} {label : SystemLabel deployment}
    {earlier : List (Transition (gitMate deployment))} {jobId : JobId} {row : AnalysisJob}
    (initial : first.Initial) (reached : Execution first earlier state)
    (stepped : state.step label = some after) (absent : state.db.findJob jobId = none)
    (later : after.db.findJob jobId = some row) (queued : row.outboxPhase ≠ .givenUp)
    (unsent : after.queue.accepted = state.queue.accepted) :
    (jobOutbox after jobId row).Sound := by
  have unseen : forall index snapshot, Seen (state.historyAt index) snapshot ->
      snapshot.id ≠ jobId := by
    intro index snapshot seen named
    rcases reachable_seen initial reached index snapshot seen with ⟨old, found, _⟩
    rw [named] at found
    cases absent.symm.trans found
  refine Outbox.sound_initial queued ?_ ?_ ?_
  · rintro ⟨send, member, named⟩
    change send ∈ after.queue.accepted at member
    rw [unsent] at member
    rcases accepted_row initial reached member with ⟨old, found⟩
    rw [named, absent] at found
    cases found
  · intro index
    change (publicationOf (after.historyAt index) jobId).map Publication.attempt = none
    rw [Option.map_eq_none_iff, Option.eq_none_iff_forall_not_mem]
    intro publication claimed
    rcases publicationOf_eq_some_iff.mp claimed with ⟨opened, named⟩
    have unclaimed : forall current, openPublication (state.historyAt index) = some current ->
        current.claim.job.id ≠ jobId := fun current before =>
      unseen index _ (reachable_publication initial reached index current before).1
    rcases State.historyAt_step stepped index with
      same | ⟨choice, op, resume, outcome, _, here, _, grown⟩
    · exact unclaimed publication (same ▸ opened) named
    · rw [grown, openPublication_append] at opened
      rcases op.publicationAfter_cases (openPublication (state.historyAt index)) outcome with
        same | closed | ⟨input, rfl, own⟩ | ⟨current, sent, before, answered, _⟩
      · exact unclaimed publication (same ▸ opened) named
      · rw [closed] at opened
        cases opened
      · cases own.symm.trans opened
        have permitted : JobUpdate.Permitted deployment (state.historyAt index)
            (.claimAttempt input) := ((reachable_disciplined initial reached).permits here).1
        exact unseen index _ permitted.1 named
      · cases answered.symm.trans opened
        exact unclaimed current before named
  · intro index number marked saw
    have reads : (jobOutbox state jobId row).Reads (jobOutbox after jobId row) :=
      jobOutbox_reads stepped later
    rcases reads index number marked saw with
      ⟨snapshot, seen, named, _⟩ | shows
    · exact absurd named (unseen index snapshot seen)
    · exact shows

/-- The outbox of every job is sound as long as jobs are given up only
unclaimed. -/
theorem reachable_outbox (initial : first.Initial) (run : Execution first steps last)
    (all : forall step, step ∈ steps -> GivesUpUnclaimed step) {jobId : JobId}
    {job : AnalysisJob} (found : last.db.findJob jobId = some job) :
    (jobOutbox last jobId job).Sound := by
  refine run.invariant GivesUpUnclaimed
    (fun state => forall job, state.db.findJob jobId = some job ->
      (jobOutbox state jobId job).Sound)
    (fun job found => ?_)
    (fun earlier state label after reached _ held meets stepped => ?_) all job found
  · have history : forall index, first.historyAt index = [] := by
      intro index
      rw [State.historyAt, initial.processes]
      rfl
    refine Outbox.sound_initial ?_ ?_ ?_ ?_
    · intro ended
      have failed := (outboxPhase_givenUp_iff.mp ended).1
      rw [(initial.db.legacy job (Table.mem_of_find? found)).2.1] at failed
      cases failed
    · rintro ⟨send, member, _⟩
      rw [initial.accepted] at member
      cases member
    · intro index
      change (publicationOf (first.historyAt index) jobId).map Publication.attempt = none
      rw [history]
      rfl
    · rintro index number marked ⟨snapshot, seen, _⟩
      rw [history] at seen
      rcases seen with ⟨event, member, _⟩
      cases member
  · intro row later
    cases before : state.db.findJob jobId with
    | some job => exact (held job before).step (outbox_step initial reached stepped meets before later)
    | none =>
        cases ledgerStep initial reached stepped with
        | quiet same =>
            have there : state.db.findJob jobId = some row := same ▸ later
            cases before.symm.trans there
        | performed _ _ queue _ _ _ _ committed =>
            have fate := committed.evolves jobId
            rw [before, later] at fate
            cases fate with
            | inserted creating =>
                refine inserted_outbox initial reached stepped before later (fun ended => ?_)
                  (congrArg Queue.accepted queue)
                cases (outboxPhase_givenUp_iff.mp ended).1

/-! ## Messages -/

/-- Some send of the job was accepted. -/
def Queue.Took (queue : Queue) (jobId : JobId) : Prop :=
  Exists fun send => send ∈ queue.accepted ∧ send.jobId = jobId

/-- Every message of a job comes from an accepted send. -/
def Queue.Backed (queue : Queue) : Prop :=
  forall message, message ∈ queue.messages -> forall jobId, message.body = .valid jobId ->
    queue.Took jobId

theorem Queue.handle_backed {queue : Queue} (backed : queue.Backed) (event : QueueEvent) :
    (queue.handle event).Backed := by
  intro message member jobId valid
  change Exists fun send => send ∈ (queue.handle event).accepted ∧ send.jobId = jobId
  rw [Queue.handle_accepted]
  cases event with
  | tick milliseconds => exact backed message member jobId valid
  | visibilityTimeout messageId =>
      rcases List.mem_map.mp member with ⟨old, there, rfl⟩
      refine backed old there jobId ?_
      split at valid <;> exact valid
  | deadLetter messageId => exact backed message (List.mem_of_mem_filter member) jobId valid
  | inject injected group =>
      rcases List.mem_append.mp member with old | new
      · exact backed message old jobId valid
      · rw [List.mem_singleton] at new
        subst new
        cases valid

theorem Queue.enqueue_backed {queue : Queue} (backed : queue.Backed) (jobId : JobId)
    (group : UserId × RepositoryId) : (queue.enqueue jobId group).Backed := by
  intro message member wanted valid
  rcases List.mem_append.mp member with old | new
  · rcases backed message old wanted valid with ⟨send, taken, named⟩
    exact ⟨send, List.mem_append_left _ taken, named⟩
  · rw [List.mem_singleton] at new
    subst new
    cases valid
    exact ⟨_, List.mem_append_right _ List.mem_cons_self, rfl⟩

theorem Queue.receive_spec {queue later : Queue} {ids : List Nat} {records : List QueueMessage}
    (received : queue.receive ids = some (records, later)) :
    later.accepted = queue.accepted ∧
      (forall message, message ∈ later.messages -> Exists fun old =>
        old ∈ queue.messages ∧ old.body = message.body) ∧
      forall record, record ∈ records -> record ∈ later.messages := by
  unfold Queue.receive at received
  split at received
  · cases received
    refine ⟨rfl, fun message member => ?_, fun record member => List.mem_of_mem_filter member⟩
    rcases List.mem_map.mp member with ⟨old, there, rfl⟩
    refine ⟨old, there, ?_⟩
    unfold Queue.receiveMessage
    split <;> rfl
  · cases received

/-- The operations keep the messages backed, and a batch consists of messages
of the queue. -/
theorem World.exec_backed {op : Op} {choice : Choice} {world later : World}
    {outcome : Except AppError op.Reply} (backed : world.queue.Backed)
    (executed : World.exec op choice world = some (outcome, later)) :
    later.queue.Backed ∧ forall records : List QueueMessage,
      (⟨op, outcome⟩ : Event Services) = ⟨.receiveMessages, .ok records⟩ ->
        forall record, record ∈ records -> record ∈ later.queue.messages := by
  cases op with
  | publishMessage jobId userId repositoryId traceId =>
      refine ⟨?_, fun records same => by cases same⟩
      change world.publish jobId (userId, repositoryId) choice = _ at executed
      cases choice with
      | send result =>
          change world.send jobId (userId, repositoryId) result = _ at executed
          unfold World.send at executed
          split at executed
          · cases executed
            exact Queue.enqueue_backed backed jobId _
          · split at executed
            · cases executed
              intro message member wanted valid
              rcases backed message member wanted valid with ⟨send, taken, named⟩
              exact ⟨send, List.mem_append_left _ taken, named⟩
            · cases executed
          · cases executed
            exact backed
          · split at executed
            · cases executed
              exact Queue.enqueue_backed backed jobId _
            · cases executed
          · split at executed
            · cases executed
              exact backed
            · cases executed
      | _ => cases executed
  | receiveMessages =>
      change world.receive choice = _ at executed
      cases choice with
      | received messageIds =>
          rcases Option.map_eq_some_iff.mp executed with ⟨⟨records, queue⟩, received, same⟩
          cases same
          rcases Queue.receive_spec received with ⟨accepted, origins, batch⟩
          refine ⟨fun message member jobId valid => ?_, fun other same => ?_⟩
          · rcases origins message member with ⟨old, there, body⟩
            rcases backed old there jobId (body.trans valid) with ⟨send, taken, named⟩
            exact ⟨send, accepted ▸ taken, named⟩
          · cases same
            exact batch
      | _ => cases executed
  | deleteMessages records =>
      refine ⟨?_, fun records same => by cases same⟩
      change world.delete records choice = _ at executed
      cases choice with
      | deleted =>
          cases executed
          exact fun message member jobId valid =>
            backed message (List.mem_of_mem_filter member) jobId valid
      | fault error =>
          simp only [World.delete] at executed
          split at executed
          · cases executed
            exact backed
          · cases executed
      | _ => cases executed
  | command order =>
      refine ⟨?_, fun records same => by cases same⟩
      rw [(World.exec_command executed).1]
      exact backed
  | query question =>
      refine ⟨?_, fun records same => by cases same⟩
      rw [(World.exec_query executed).1]
      exact backed
  | randomUuid =>
      refine ⟨?_, fun records same => by cases same⟩
      rcases World.exec_randomUuid executed with ⟨uuid, _, _, rfl⟩
      exact backed
  | currentDate | random | collectAttempt | analyze | getAvailableRepos =>
      refine ⟨?_, fun records same => by cases same⟩
      rcases Option.map_eq_some_iff.mp executed with ⟨observed, _, same⟩
      cases same
      exact backed

/-- A send that was accepted stays accepted. -/
theorem step_took {state after : SystemState deployment} {label : SystemLabel deployment}
    (stepped : state.step label = some after) {jobId : JobId} (took : state.queue.Took jobId) :
    after.queue.Took jobId := by
  rcases took with ⟨send, member, named⟩
  refine ⟨send, ?_, named⟩
  cases label with
  | spawn entry =>
      rw [State.step_spawn stepped]
      exact member
  | crash index =>
      rcases State.step_crash stepped with ⟨stopped, _, result⟩
      rw [result]
      exact member
  | internal event =>
      rcases State.step_internal stepped with ⟨world, moved, result⟩
      cases moved
      rw [result]
      exact (Queue.handle_accepted _ event).symm ▸ member
  | act index choice =>
      rcases State.step_act stepped with ⟨op, resume, past, outcome, world, here, executed, rfl⟩
      change send ∈ world.queue.accepted
      rcases World.exec_accepted executed with same | ⟨jobId, userId, repositoryId, traceId, rfl⟩
      · exact same ▸ member
      · rcases (@World.exec_publish jobId userId repositoryId traceId _ _ _ _ executed).2 with
          same | ⟨added, _⟩
        · exact same ▸ member
        · rw [added]
          exact List.mem_append_left _ member

/-- What a process has received was sent. -/
def KnowsDeliveries (world : World) (past : History Services) : Prop :=
  forall records, Happened past .receiveMessages (.ok records) -> forall record, record ∈ records ->
    forall jobId, record.body = .valid jobId -> world.queue.Took jobId

/-- In every run the messages are backed, the received ones included. -/
theorem reachable_backed (initial : first.Initial) (run : Execution first steps last) :
    last.queue.Backed ∧ last.Remembers KnowsDeliveries := by
  have initially : first.queue.Backed ∧ first.Remembers KnowsDeliveries := by
    constructor
    · intro message member
      rw [initial.messages] at member
      cases member
    · intro index records received
      rw [State.historyAt, initial.processes] at received
      cases received
  refine run.always (fun state => state.queue.Backed ∧ State.Remembers KnowsDeliveries state)
    initially fun earlier state label after reached held stepped => ?_
  constructor
  · cases label with
    | spawn entry =>
        rw [State.step_spawn stepped]
        exact held.1
    | crash index =>
        rcases State.step_crash stepped with ⟨stopped, _, result⟩
        rw [result]
        exact held.1
    | internal event =>
        rcases State.step_internal stepped with ⟨world, moved, result⟩
        cases moved
        rw [result]
        exact Queue.handle_backed held.1 event
    | act index choice =>
        rcases State.step_act stepped with ⟨op, resume, past, outcome, world, here, executed, rfl⟩
        exact (World.exec_backed held.1 executed).1
  · have lasts : forall past, KnowsDeliveries state.world past ->
        KnowsDeliveries after.world past := fun past known records received record member jobId
          valid => step_took stepped (known records received record member jobId valid)
    refine held.2.step stepped
      (fun index choice op resume past outcome here executed known records received record member
        jobId valid => ?_) lasts
    rcases List.mem_append.mp received with old | now
    · exact lasts past known records old record member jobId valid
    · have both := World.exec_backed held.1 executed
      have there := both.2 records (List.mem_singleton.mp now).symm record member
      exact both.1 record there jobId valid

/-! ## Jobs that were given up were never sent -/

/-- What a publisher's update makes of a row that it ends. -/
theorem JobUpdate.outboxPhase_givenUp {change : JobUpdate} {now : Instant} {job : AnalysisJob}
    (publishes : change.publishes = true) (guarded : change.row.guard job = true)
    (ended : (change.row.data now job).outboxPhase = .givenUp) :
    Exists fun input => change = .recordFailure input ∧ input.terminate = true := by
  have queued : job.status = .failed -> False := by
    intro failed
    have active := JobUpdate.guard_active guarded
    rw [AnalysisJob.isActive_iff, failed] at active
    rcases active with queued | running
    · cases queued
    · cases running
  have failed := (outboxPhase_givenUp_iff.mp ended).1
  cases change with
  | claimAttempt input => exact (queued failed).elim
  | markPublished input publishedAt => exact (queued failed).elim
  | recordFailure input =>
      by_cases terminating : input.terminate = true
      · exact ⟨input, rfl, terminating⟩
      · simp only [JobUpdate.row, GitMate.recordFailure, if_neg terminating] at failed
        exact (queued failed).elim
  | _ => cases publishes

/-- A job that was given up while unclaimed was never attempted. -/
theorem givenUp_unattempted (initial : first.Initial) (run : Execution first steps last)
    (all : forall step, step ∈ steps -> GivesUpUnclaimed step) {jobId : JobId}
    {job : AnalysisJob} (found : last.db.findJob jobId = some job)
    (ended : job.outboxPhase = .givenUp) : job.attemptCount = 0 := by
  refine run.invariant GivesUpUnclaimed
    (fun state => forall job, state.db.findJob jobId = some job ->
      job.outboxPhase = .givenUp -> job.attemptCount = 0)
    (fun job found ended => ?_)
    (fun earlier state label after reached _ held meets stepped => ?_) all job found ended
  · have failed := (outboxPhase_givenUp_iff.mp ended).1
    rw [(initial.db.legacy job (Table.mem_of_find? found)).2.1] at failed
    cases failed
  · intro row later ended
    cases ledgerStep initial reached stepped with
    | quiet same => exact held row (same ▸ later) ended
    | @performed index choice _ order environment past _ _ pending _ _ _ permitted _ _ committed =>
        have fate := committed.evolves jobId
        rw [later] at fate
        generalize before : state.db.findJob jobId = old at fate
        cases fate with
        | inserted => rfl
        | @evolved job _ step =>
            cases publishing : order.publishes with
            | false =>
                rcases step.outboxPhase permitted publishing (fun queued running =>
                  reachable_attempted initial reached before queued running) with
                  ⟨_, same | ⟨_, begun⟩⟩
                · have givenUp : job.outboxPhase = .givenUp := same.symm.trans ended
                  have inactive : job.isActive = true -> False := fun active =>
                    outboxPhase_of_active active givenUp
                  rcases step.active_or_same with active | unchanged
                  · exact (inactive active).elim
                  · rw [unchanged]
                    exact held job before givenUp
                · rw [begun] at ended
                  cases ended
            | true =>
                cases order with
                | update change =>
                    rcases committed.update_row before later with
                      ⟨named, guarded, written⟩ | ⟨_, unchanged⟩
                    · rw [written] at ended
                      rcases JobUpdate.outboxPhase_givenUp publishing guarded ended with
                        ⟨input, rfl, terminating⟩
                      have unclaimed := meets index choice input job rfl
                        (SystemState.pending_of_getElem? pending) terminating
                        ((congrArg state.db.findJob named).trans before) guarded
                      rw [written]
                      simp only [JobUpdate.row, recordFailure, if_pos terminating]
                      exact unclaimed
                    · subst unchanged
                      exact held row before ended
                | _ => cases publishing

/-- As long as jobs are given up only unclaimed, a job that ended with
`PUBLISH_FAILED` was never sent: the queue has accepted no send of it and holds
no message of it, no worker has received one, and it was never started. -/
theorem publish_failed_never_sent (initial : first.Initial) (run : Execution first steps last)
    (unclaimed : forall step, step ∈ steps -> GivesUpUnclaimed step) {jobId : JobId}
    {job : AnalysisJob} (found : last.db.findJob jobId = some job) (failed : job.status = .failed)
    (code : job.lastErrorCode = some .publishFailed) :
    (forall send, send ∈ last.queue.accepted -> send.jobId ≠ jobId) ∧
    (forall message, message ∈ last.queue.messages -> message.body ≠ .valid jobId) ∧
    (forall index records, Happened (last.historyAt index) .receiveMessages (.ok records) ->
      forall record, record ∈ records -> record.body ≠ .valid jobId) ∧
    job.attemptCount = 0 := by
  have ended : job.outboxPhase = .givenUp := outboxPhase_of_failed failed code
  have unsent : ¬ last.queue.Took jobId :=
    ((reachable_outbox initial run unclaimed found).givenUp ended).1
  rcases reachable_backed initial run with ⟨backed, delivered⟩
  refine ⟨fun send member named => unsent ⟨send, member, named⟩,
    fun message member valid => unsent (backed message member jobId valid),
    fun index records received record member valid =>
      unsent (delivered index records received record member jobId valid),
    givenUp_unattempted initial run unclaimed found ended⟩

/-- `GivesUpUnclaimed` as a check. -/
def givesUpUnclaimed (step : Transition (gitMate deployment)) : Bool :=
  match step.label with
  | .act index _ =>
      match step.before.pending index with
      | some (.command (.update (.recordFailure input))) =>
          match step.before.db.findJob input.job.id with
          | some job =>
              !(input.terminate && (recordFailure input).guard job) || job.attemptCount == 0
          | none => true
      | _ => true
  | _ => true

theorem givesUpUnclaimed_spec {step : Transition (gitMate deployment)}
    (checked : givesUpUnclaimed step = true) : GivesUpUnclaimed step := by
  intro index choice input job acts pending terminating found guarded
  simp only [givesUpUnclaimed, acts, pending, found, terminating, guarded, Bool.and_self,
    Bool.not_true, Bool.false_or, beq_iff_eq] at checked
  exact checked

end Runs

/-! ## Two jobs of the small world -/

/-- A reconciler's publish attempt of the only job that is due. -/
def reconcileChoices (now : Instant) (traceId : Uuid) (result : SendResult) : List Choice :=
  [.date now, .answer now, .uuid traceId] ++ failPublishChoices now result

/-- Four reconcilers, the first of them with the given index, whose sends are
rejected. -/
def rejectedScript {deployment : Deployment} (index : Nat) : List (SystemLabel deployment) :=
  [.spawn .reconcile] ++ perform index (reconcileChoices 10000000 102 .rejected) ++
    [.spawn .reconcile] ++ perform (index + 1) (reconcileChoices 20000000 103 .rejected) ++
    [.spawn .reconcile] ++ perform (index + 2) (reconcileChoices 30000000 104 .rejected) ++
    [.spawn .reconcile] ++ perform (index + 3) (reconcileChoices 40000000 105 .rejected)

/-- Every send of the job is rejected. -/
def neverSentScript : List (SystemLabel DEFAULT_DEPLOYMENT) :=
  [.spawn (.create 1 "R1" "key-1")] ++
    perform 0 (createChoices 1000 1 100 ++ failPublishChoices 1000 .rejected) ++ rejectedScript 1

/-- The job that was rejected five times has failed and was never sent. -/
theorem publish_failed_never_sent_rejected :
    Exists fun job => ((smallState DEFAULT_DEPLOYMENT).after neverSentScript).db.findJob 1 =
        some job ∧ job.status = .failed ∧ job.lastErrorCode = some .publishFailed ∧
      job.attemptCount = 0 := by
  rcases State.passes_run (show (smallState DEFAULT_DEPLOYMENT).passes givesUpUnclaimed
    neverSentScript = true by decide +kernel) with ⟨steps, run, all⟩
  have ended : (((smallState DEFAULT_DEPLOYMENT).after neverSentScript).db.findJob 1).map
      (fun job => (job.status, job.lastErrorCode)) = some (.failed, some .publishFailed) := by
    decide +kernel
  rcases Option.map_eq_some_iff.mp ended with ⟨job, found, same⟩
  have failed : job.status = .failed := congrArg Prod.fst same
  have code : job.lastErrorCode = some .publishFailed := congrArg Prod.snd same
  exact ⟨job, found, failed, code, (publish_failed_never_sent
    (smallState_initial DEFAULT_DEPLOYMENT) run
    (fun step member => givesUpUnclaimed_spec (all step member)) found failed code).2.2.2⟩

/-- The first send is accepted although its publisher sees a timeout.  A worker
claims the job and releases it, and four later sends are rejected. -/
def releasedScript : List (SystemLabel DEFAULT_DEPLOYMENT) :=
  [.spawn (.create 1 "R1" "key-1")] ++
    perform 0 (createChoices 1000 1 100 ++
      failPublishChoices 1000 (.ambiguous true (.error "timeout"))) ++
    [.spawn .worker] ++ perform 1 (claimChoices 100000 0 101 ++
      [.collection ⟨0, .error (.http 503 "" "")⟩, .date 100000, .random 0, .committed 100000 0,
        .deleted]) ++ rejectedScript 2

/-- A job that a worker has started fails with `PUBLISH_FAILED` all the same. -/
theorem publish_failed_although_sent :
    ¬ forall (first last : SystemState DEFAULT_DEPLOYMENT)
      (steps : List (Transition (gitMate DEFAULT_DEPLOYMENT))), first.Initial ->
      Execution first steps last -> forall jobId job, last.db.findJob jobId = some job ->
        job.status = .failed -> job.lastErrorCode = some .publishFailed ->
        forall send, send ∈ last.queue.accepted -> send.jobId ≠ jobId := by
  intro claimed
  rcases State.after_run (show ((smallState DEFAULT_DEPLOYMENT).play releasedScript).isSome = true
    by decide +kernel) with ⟨steps, run⟩
  have ended : (((smallState DEFAULT_DEPLOYMENT).after releasedScript).db.findJob 1).map
      (fun job => (job.status, job.lastErrorCode)) = some (.failed, some .publishFailed) := by
    decide +kernel
  rcases Option.map_eq_some_iff.mp ended with ⟨job, found, same⟩
  have sent : (⟨1, 0⟩ : AcceptedSend) ∈
      ((smallState DEFAULT_DEPLOYMENT).after releasedScript).queue.accepted := by decide +kernel
  exact claimed _ _ steps (smallState_initial DEFAULT_DEPLOYMENT) run 1 job found
    (congrArg Prod.fst same) (congrArg Prod.snd same) _ sent rfl

end GitMate
