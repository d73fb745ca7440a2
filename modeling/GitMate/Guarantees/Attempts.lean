import GitMate.Guarantees.Holders
import GitMate.Guarantees.Publication

namespace GitMate

open Relational Interleaving Machine

/-!
# Publish attempts are exclusive

A publisher claims an attempt against a snapshot of the row, and the number of
attempts is part of the snapshot.  The number only grows, so no number is
claimed twice, whatever else of an old snapshot comes back.  What a publisher
records about its attempt is compared with the due time that its claim has
written.  A worker claims a job no earlier than this time and releases it for
a later one, so the due time does not come back either.
-/

variable {deployment : Deployment} {first last state after : SystemState deployment}
  {steps earlier : List (Transition (gitMate deployment))} {label : SystemLabel deployment}

/-- The number of a claimed attempt. -/
def ClaimAnalysisJobPublishAttemptInput.number (input : ClaimAnalysisJobPublishAttemptInput) :
    Nat :=
  input.job.publishAttempts + 1

/-! ## Open attempts -/

/-- A claim that took effect has counted its attempt. -/
theorem Performs.claimed {step : Transition (gitMate deployment)} {index : Nat}
    {input : ClaimAnalysisJobPublishAttemptInput}
    (claims : Performs step index (.update (.claimAttempt input))) :
    Exists fun job => Exists fun row => step.before.db.findJob input.job.id = some job ∧
      step.after.db.findJob input.job.id = some row ∧ job.status = .queued ∧
      job.publishAttempts + 1 = input.number ∧ row.status = .queued ∧
      row.publishAttempts = input.number ∧ row.nextPublishAt = some input.claimedNextPublishAt := by
  rcases claims.committed with ⟨environment, committed⟩
  generalize step.after.db = later at committed ⊢
  cases committed with
  | @updated _ job found guarded =>
      have there : _ = some ((claimAttempt input).data environment.application job) :=
        RowUpdate.find?_apply found guarded
      simp only [JobUpdate.row, claimAttempt, snapshotWhere, Bool.and_eq_true, beq_iff_eq]
        at guarded
      rcases guarded with ⟨⟨⟨queued, attempts⟩, _⟩, _⟩
      exact ⟨job, _, found, there, queued, congrArg (· + 1) attempts, queued,
        congrArg (· + 1) attempts, rfl⟩

/-- The open attempt of a process after a step: it was open before, perhaps
without the answer to its send, or the step is its claim. -/
inductive OpenStep (state after : SystemState deployment) (label : SystemLabel deployment)
    (index : Nat) (publication : Publication) : Prop where
  | kept (before : openPublication (state.historyAt index) = some publication)
  | sent {current : Publication} (before : openPublication (state.historyAt index) = some current)
      (sameClaim : current.claim = publication.claim) (answered : publication.sent ≠ none)
  | claimed (claims : Performs ⟨state, label, after⟩ index
        (.update (.claimAttempt publication.claim)))

theorem openStep (stepped : state.step label = some after) {index : Nat}
    {publication : Publication}
    (opened : openPublication (after.historyAt index) = some publication) :
    OpenStep state after label index publication := by
  rcases State.historyAt_step stepped index with
    same | ⟨choice, op, resume, outcome, acts, here, executed, grown⟩
  · rw [same] at opened
    exact .kept opened
  · rw [grown, openPublication_append] at opened
    rcases op.publicationAfter_cases (openPublication (state.historyAt index)) outcome with
      same | closed | ⟨input, rfl, own⟩ | ⟨current, sent, before, answered, _⟩
    · exact .kept (same ▸ opened)
    · rw [closed] at opened
      cases opened
    · cases own.symm.trans opened
      refine .claimed ⟨⟨choice, acts⟩, SystemState.pending_of_getElem? here, ?_⟩
      rcases (World.exec_command executed).2.2 with ⟨environment, idle | ⟨committed, _⟩⟩
      · cases outcome with
        | error error => cases own
        | ok reply =>
            cases reply with
            | true => cases idle.2 true rfl
            | false => cases own
      · exact ⟨environment, committed⟩
    · cases answered.symm.trans opened
      exact .sent before rfl (fun none => by cases none)

/-- Rows keep their counts over one step. -/
theorem step_endures (initial : first.Initial) (reached : Execution first earlier state)
    (stepped : state.step label = some after) {jobId : JobId} {job : AnalysisJob}
    (found : state.db.findJob jobId = some job) :
    Exists fun row => after.db.findJob jobId = some row ∧ job.Endures row :=
  row_endures initial reached (Execution.start.next stepped) found

/-- Every open attempt is counted by the row of its job, and has a number of
its own. -/
structure Numbered (state : SystemState deployment) : Prop where
  counted : forall index publication,
    openPublication (state.historyAt index) = some publication ->
      Exists fun row => state.db.findJob publication.claim.job.id = some row ∧
        publication.claim.number ≤ row.publishAttempts
  distinct : forall index other publication more,
    openPublication (state.historyAt index) = some publication ->
    openPublication (state.historyAt other) = some more ->
    publication.claim.job.id = more.claim.job.id ->
    publication.claim.number = more.claim.number -> index = other

theorem reachable_numbered (initial : first.Initial) (run : Execution first steps last) :
    Numbered last := by
  have nothing : forall index, openPublication (first.historyAt index) = none := by
    intro index
    rw [State.historyAt, initial.processes]
    rfl
  refine run.always Numbered ⟨fun index publication opened => ?_,
    fun index other publication more opened => ?_⟩ fun earlier state label after reached held
      stepped => ?_
  · rw [nothing] at opened
    cases opened
  · rw [nothing] at opened
    cases opened
  -- An attempt that was open before, with the same claim, or the one that is claimed.
  have origin : forall (index : Nat) (publication : Publication),
      openPublication (after.historyAt index) = some publication ->
      (Exists fun current => openPublication (state.historyAt index) = some current ∧
        current.claim = publication.claim) ∨
      Performs ⟨state, label, after⟩ index (.update (.claimAttempt publication.claim)) := by
    intro index publication opened
    cases openStep stepped opened with
    | kept before => exact Or.inl ⟨publication, before, rfl⟩
    | sent before sameClaim _ => exact Or.inl ⟨_, before, sameClaim⟩
    | claimed claims => exact Or.inr claims
  have fresh : forall (index : Nat) (publication : Publication),
      Performs ⟨state, label, after⟩ index (.update (.claimAttempt publication.claim)) ->
      forall (other : Nat) (current : Publication), openPublication (state.historyAt other) = some current ->
        current.claim.job.id = publication.claim.job.id ->
        current.claim.number < publication.claim.number := by
    intro index publication claims other current before named
    rcases claims.claimed with ⟨job, _, found, _, _, number, _⟩
    rcases held.counted other current before with ⟨row, there, counted⟩
    rw [named] at there
    cases found.symm.trans there
    omega
  constructor
  · intro index publication opened
    rcases origin index publication opened with ⟨current, before, sameClaim⟩ | claims
    · rcases held.counted index current before with ⟨job, found, counted⟩
      rcases step_endures initial reached stepped found with ⟨row, there, endures⟩
      exact ⟨row, sameClaim ▸ there, sameClaim ▸ counted.trans endures.publishAttempts⟩
    · rcases claims.claimed with ⟨_, row, _, there, _, _, _, number, _⟩
      exact ⟨row, there, Nat.le_of_eq number.symm⟩
  · intro index other publication more opened alsoOpened sameJob sameNumber
    rcases origin index publication opened with ⟨current, before, sameClaim⟩ | claims
    · rcases origin other more alsoOpened with ⟨alsoCurrent, alsoBefore, alsoClaim⟩ | alsoClaims
      · rw [← sameClaim, ← alsoClaim] at sameJob sameNumber
        exact held.distinct index other current alsoCurrent before alsoBefore sameJob sameNumber
      · rw [← sameClaim] at sameJob sameNumber
        exact absurd sameNumber (Nat.ne_of_lt (fresh other more alsoClaims index current before
          sameJob))
    · rcases origin other more alsoOpened with ⟨alsoCurrent, alsoBefore, alsoClaim⟩ | alsoClaims
      · rw [← alsoClaim] at sameJob sameNumber
        exact absurd sameNumber.symm (Nat.ne_of_lt (fresh index publication claims other
          alsoCurrent alsoBefore sameJob.symm))
      · rcases claims.acts with ⟨choice, acts⟩
        rcases alsoClaims.acts with ⟨otherChoice, otherActs⟩
        cases acts.symm.trans otherActs
        rfl

/-! ## Sends -/

/-- The number of the attempt that a process has open, or zero. -/
def openNumber (past : History Services) : Nat :=
  match openPublication past with
  | some publication => publication.claim.number
  | none => 0

/-- The number of the attempt for which a step sends the message of a job. -/
def sentAttempt (jobId : JobId) (step : Transition (gitMate deployment)) : Option Nat :=
  match step.label with
  | .act index _ =>
      match step.before.pending index with
      | some (.publishMessage sentJob _ _ _) =>
          if sentJob = jobId then some (openNumber (step.before.historyAt index)) else none
      | _ => none
  | .spawn _ | .crash _ | .internal _ => none

/-- The attempts for which the steps of a run send the message of a job, in
their order. -/
def sentAttempts (jobId : JobId) (steps : List (Transition (gitMate deployment))) : List Nat :=
  steps.filterMap (sentAttempt jobId)

/-- A send is made for the attempt that its process has open and has not sent
for. -/
theorem sentAttempt_spec (initial : first.Initial) (reached : Execution first earlier state)
    (stepped : state.step label = some after) {jobId : JobId} {number : Nat}
    (sends : sentAttempt jobId ⟨state, label, after⟩ = some number) :
    Exists fun index => Exists fun claim : ClaimAnalysisJobPublishAttemptInput =>
      claim.job.id = jobId ∧ claim.number = number ∧
        openPublication (state.historyAt index) = some ⟨claim, none⟩ ∧
        (Exists fun sent => openPublication (after.historyAt index) = some ⟨claim, some sent⟩) ∧
        forall other, other ≠ index -> after.historyAt other = state.historyAt other := by
  cases label with
  | spawn | crash | internal => cases sends
  | act index choice =>
      rcases State.step_act stepped with ⟨op, resume, past, outcome, world, here, executed, rfl⟩
      have pending := SystemState.pending_of_getElem? here
      simp only [sentAttempt, pending] at sends
      cases op with
      | publishMessage sentJob userId repositoryId traceId =>
          rcases (reachable_disciplined initial reached).permits here with
            ⟨attempt, opened, named, _, _⟩
          have history : state.historyAt index = past := State.historyAt_of_getElem? here
          simp only [history, openNumber, opened] at sends
          split at sends
          · rename_i sameJob
            cases sends
            refine ⟨index, attempt.claim, named.trans sameJob, rfl, history ▸ opened, ⟨outcome, ?_⟩,
              fun other different => State.historyAt_set_ne different _ _⟩
            rw [State.historyAt_set here, openPublication_append, opened]
            rfl
          · cases sends
      | _ => cases sends

/-- The attempts that were sent for: each once, each counted, and none of them
is about to be sent for. -/
structure Sent (state : SystemState deployment) (jobId : JobId) (numbers : List Nat) : Prop where
  once : numbers.Nodup
  counted : forall number, number ∈ numbers -> 0 < number ∧
    Exists fun row => state.db.findJob jobId = some row ∧ number ≤ row.publishAttempts
  answered : forall index publication,
    openPublication (state.historyAt index) = some publication ->
      publication.claim.job.id = jobId -> publication.claim.number ∈ numbers ->
        publication.sent ≠ none

/-- A step that sends nothing for the job. -/
theorem Sent.silent {jobId : JobId} {numbers : List Nat} (sent : Sent state jobId numbers)
    (initial : first.Initial) (reached : Execution first earlier state)
    (stepped : state.step label = some after) : Sent after jobId numbers where
  once := sent.once
  counted number member := by
    rcases sent.counted number member with ⟨positive, job, found, counted⟩
    rcases step_endures initial reached stepped found with ⟨row, there, endures⟩
    exact ⟨positive, row, there, counted.trans endures.publishAttempts⟩
  answered index publication opened named member := by
    cases openStep stepped opened with
    | kept before => exact sent.answered index publication before named member
    | sent _ _ answered => exact answered
    | claimed claims =>
        -- A claimed number is larger than every number that was sent for.
        rcases claims.claimed with ⟨job, _, found, _, _, number, _⟩
        rcases sent.counted _ member with ⟨_, row, there, counted⟩
        rw [named] at found
        cases found.symm.trans there
        omega

/-- A step that sends for an attempt. -/
theorem Sent.send {jobId : JobId} {numbers : List Nat} {number : Nat}
    (sent : Sent state jobId numbers) (initial : first.Initial)
    (reached : Execution first earlier state) (stepped : state.step label = some after)
    (sends : sentAttempt jobId ⟨state, label, after⟩ = some number) :
    Sent after jobId (numbers ++ [number]) := by
  rcases sentAttempt_spec initial reached stepped sends with
    ⟨index, claim, rfl, rfl, opened, ⟨outcome, answered⟩, others⟩
  have numbered := reachable_numbered initial reached
  have silent := sent.silent initial reached stepped
  refine ⟨?_, fun number member => ?_, fun other publication current named member => ?_⟩
  · refine List.nodup_append.mpr ⟨sent.once, List.nodup_singleton _, fun one here two there => ?_⟩
    rw [List.mem_singleton] at there
    subst there
    intro same
    subst same
    exact sent.answered index _ opened rfl here rfl
  · rcases List.mem_append.mp member with old | new
    · exact silent.counted number old
    · rw [List.mem_singleton] at new
      subst new
      rcases numbered.counted index _ opened with ⟨job, found, counted⟩
      rcases step_endures initial reached stepped found with ⟨row, there, endures⟩
      exact ⟨Nat.succ_pos _, row, there, counted.trans endures.publishAttempts⟩
  · by_cases same : other = index
    · subst same
      cases answered.symm.trans current
      exact fun none => by cases none
    · rcases List.mem_append.mp member with old | new
      · exact silent.answered other publication current named old
      · rw [List.mem_singleton] at new
        rw [others other same] at current
        exact absurd (numbered.distinct other index publication _ current opened named new) same

theorem reachable_sent (initial : first.Initial) (run : Execution first steps last)
    (jobId : JobId) : Sent last jobId (sentAttempts jobId steps) := by
  induction run with
  | start =>
      refine ⟨List.nodup_nil, (fun number member => by cases member), fun index publication opened => ?_⟩
      rw [State.historyAt, initial.processes] at opened
      cases opened
  | @next steps state after label run stepped inductionHypothesis =>
      rw [sentAttempts, List.filterMap_append, List.filterMap_cons, List.filterMap_nil]
      cases sends : sentAttempt jobId ⟨state, label, after⟩ with
      | none =>
          simp only [List.append_nil]
          exact inductionHypothesis.silent initial run stepped
      | some number => exact inductionHypothesis.send initial run stepped sends

/-- No more sends are made for a job than its row counts attempts. -/
theorem length_sentAttempts_le (initial : first.Initial) (run : Execution first steps last)
    (jobId : JobId) : (sentAttempts jobId steps).length ≤
      ((last.db.findJob jobId).map AnalysisJob.publishAttempts).getD 0 := by
  have sent := reachable_sent initial run jobId
  have within : sentAttempts jobId steps ⊆
      List.range' 1 (((last.db.findJob jobId).map AnalysisJob.publishAttempts).getD 0) := by
    intro number member
    rcases sent.counted number member with ⟨positive, row, there, counted⟩
    rw [List.mem_range'_1, there, Option.map_some, Option.getD_some]
    omega
  have bound := (List.subperm_of_subset sent.once within).length_le
  rwa [List.length_range'] at bound

/-- The open attempt of a process was claimed by a step of it. -/
theorem opened_claimed (initial : first.Initial) (run : Execution first steps last) {index : Nat}
    {publication : Publication}
    (opened : openPublication (last.historyAt index) = some publication) :
    Exists fun step => step ∈ steps ∧
      Performs step index (.update (.claimAttempt publication.claim)) := by
  induction run generalizing publication with
  | start =>
      rw [State.historyAt, initial.processes] at opened
      cases opened
  | @next steps state after label run stepped inductionHypothesis =>
      have earlier : forall current, openPublication (state.historyAt index) = some current ->
          current.claim = publication.claim ->
          Exists fun step => step ∈ steps ++ [⟨state, label, after⟩] ∧
            Performs step index (.update (.claimAttempt publication.claim)) := by
        intro current before sameClaim
        rcases inductionHypothesis before with ⟨step, member, claims⟩
        exact ⟨step, List.mem_append_left _ member, sameClaim ▸ claims⟩
      cases openStep stepped opened with
      | kept before => exact earlier publication before rfl
      | sent before sameClaim _ => exact earlier _ before sameClaim
      | claimed claims => exact ⟨_, List.mem_append_right _ List.mem_cons_self, claims⟩

/-- Every attempt that is sent for was claimed before. -/
theorem sent_claimed (initial : first.Initial) (run : Execution first steps last) {jobId : JobId}
    {number : Nat} (member : number ∈ sentAttempts jobId steps) :
    Exists fun step => step ∈ steps ∧ Exists fun index => Exists fun input =>
      Performs step index (.update (.claimAttempt input)) ∧ input.job.id = jobId ∧
        input.number = number := by
  rcases List.mem_filterMap.mp member with ⟨sending, there, sends⟩
  rcases List.append_of_mem there with ⟨before, rest, rfl⟩
  rcases run.around with ⟨leading, stepped, _⟩
  rcases sentAttempt_spec initial leading stepped sends with
    ⟨index, claim, named, counted, opened, _⟩
  rcases opened_claimed initial leading opened with ⟨step, earlier, claims⟩
  exact ⟨step, List.mem_append_left _ earlier, index, claim, claims, named, counted⟩

/-- A number that was claimed once is not claimed again. -/
theorem claimed_once (initial : first.Initial) {one two : Transition (gitMate deployment)}
    {middle rest : List (Transition (gitMate deployment))}
    (run : Execution first (earlier ++ one :: (middle ++ two :: rest)) last) {index other : Nat}
    {input more : ClaimAnalysisJobPublishAttemptInput}
    (claims : Performs one index (.update (.claimAttempt input)))
    (again : Performs two other (.update (.claimAttempt more)))
    (sameJob : more.job.id = input.job.id) : input.number < more.number := by
  rcases run.around with ⟨leading, stepped, following⟩
  rcases following.around with ⟨between, _, _⟩
  rcases claims.claimed with ⟨_, row, _, found, _, _, _, counted, _⟩
  rcases again.claimed with ⟨job, _, before, _, _, number, _⟩
  rcases row_endures initial (leading.next stepped) between found with ⟨later, there, endures⟩
  rw [sameJob] at before
  cases there.symm.trans before
  have grown := endures.publishAttempts
  omega

/-! ## Clocks -/

/-- The readings of the clock of every process do not decrease in a step. -/
def MonotoneClocks (step : Transition (gitMate deployment)) : Prop :=
  forall index before now, latestClock (step.before.historyAt index) = some before ->
    latestClock (step.after.historyAt index) = some now -> before ≤ now

/-- A process that has read its clock has a latest reading from then on. -/
theorem MonotoneClocks.later (monotone : MonotoneClocks ⟨state, label, after⟩)
    (stepped : state.step label = some after) {index : Nat} {before : Instant}
    (read : latestClock (state.historyAt index) = some before) :
    Exists fun now => latestClock (after.historyAt index) = some now ∧ before ≤ now := by
  have reading : Exists fun now => latestClock (after.historyAt index) = some now := by
    rcases State.historyAt_step stepped index with
      same | ⟨choice, op, resume, outcome, _, _, _, grown⟩
    · exact ⟨before, same ▸ read⟩
    · rw [grown, latestClock_append, read]
      cases op with
      | currentDate =>
          cases outcome with
          | ok now => exact ⟨now, rfl⟩
          | error error => exact ⟨before, rfl⟩
      | _ => exact ⟨before, rfl⟩
  rcases reading with ⟨now, known⟩
  exact ⟨now, known, monotone index before now read known⟩

/-! ## Overtaken attempts -/

/-- Every process that holds the lease of a job has read its clock at the
bound or later. -/
def HoldersPast (state : SystemState deployment) (jobId : JobId) (bound : Instant)
    (row : AnalysisJob) : Prop :=
  forall index leaseToken, row.leaseToken = some leaseToken ->
    Holds (state.historyAt index) jobId leaseToken ->
      Exists fun now => latestClock (state.historyAt index) = some now ∧ bound ≤ now

/-- The row of a job has moved past an attempt whose due time is the bound:
what the attempt has written does not come back. -/
inductive Passed (state : SystemState deployment) (jobId : JobId) (number : Nat)
    (bound : Instant) (row : AnalysisJob) : Prop where
  | claimedAgain (later : number < row.publishAttempts)
  | ended (inactive : row.isActive = false)
  | released {due : Instant} (queued : row.status = .queued) (next : row.nextPublishAt = some due)
      (beyond : bound < due)
  | running {leaseExpiresAt : Instant} (isRunning : row.status = .running)
      (lease : row.leaseExpiresAt = some leaseExpiresAt) (within : bound ≤ leaseExpiresAt)
      (holders : HoldersPast state jobId bound row)

/-- The holders of a lease that stays in its row. -/
theorem HoldersPast.kept {jobId : JobId} {bound : Instant} {job row : AnalysisJob}
    (holders : HoldersPast state jobId bound job) (initial : first.Initial)
    (reached : Execution first earlier state) (stepped : state.step label = some after)
    (monotone : MonotoneClocks ⟨state, label, after⟩)
    (found : state.db.findJob jobId = some job) (same : row.leaseToken = job.leaseToken) :
    HoldersPast after jobId bound row := by
  intro index leaseToken held holds
  rw [same] at held
  rcases holds_step initial reached stepped holds with before | ⟨unused, _⟩
  · rcases holders index leaseToken held before with ⟨earlier, read, beyond⟩
    rcases monotone.later stepped read with ⟨now, known, later⟩
    exact ⟨now, known, beyond.trans later⟩
  · exact absurd unused
      (((reachable_leases initial reached).held jobId job leaseToken found held).2 index)

/-- The holder of a lease that a claim has just written. -/
theorem HoldersPast.taken {jobId : JobId} {bound now : Instant} {row : AnalysisJob} {index : Nat}
    {change : JobUpdate} {leaseToken : Uuid} {outcome : Except AppError Bool}
    (initial : first.Initial) (reached : Execution first earlier state)
    (stepped : state.step label = some after)
    (grown : after.historyAt index = state.historyAt index ++ [⟨.command (.update change), outcome⟩])
    (unused : leaseToken ∈ unusedTokens (state.historyAt index))
    (clock : latestClock (state.historyAt index) = some now) (beyond : bound ≤ now)
    (held : row.leaseToken = some leaseToken) : HoldersPast after jobId bound row := by
  intro other token holding holds
  cases held.symm.trans holding
  rcases holds_step initial reached stepped holds with before | ⟨theirs, _⟩
  · exact absurd unused (before.used initial reached index)
  · have same := (reachable_leases initial reached).distinct other index leaseToken theirs unused
    subst same
    refine ⟨now, ?_, beyond⟩
    rw [grown, latestClock_append]
    exact clock

/-- What every open attempt with the number of a claim is: the attempt of its
publisher. -/
def Owned (state : SystemState deployment) (publisher : Nat)
    (input : ClaimAnalysisJobPublishAttemptInput) : Prop :=
  forall index publication, openPublication (state.historyAt index) = some publication ->
    publication.claim.job.id = input.job.id -> publication.claim.number = input.number ->
      index = publisher ∧ publication.claim = input

theorem Owned.step {publisher : Nat} {input : ClaimAnalysisJobPublishAttemptInput}
    {job : AnalysisJob} (owned : Owned state publisher input)
    (stepped : state.step label = some after) (found : state.db.findJob input.job.id = some job)
    (counted : input.number ≤ job.publishAttempts) : Owned after publisher input := by
  intro index publication opened named numbered
  cases openStep stepped opened with
  | kept before => exact owned index publication before named numbered
  | sent before sameClaim _ =>
      rw [← sameClaim] at named numbered ⊢
      exact owned index _ before named numbered
  | claimed claims =>
      rcases claims.claimed with ⟨row, _, there, _, _, number, _⟩
      rw [named] at there
      cases found.symm.trans there
      omega

/-- A completion that matches the row is not that of an attempt whose due time
has passed out of the row. -/
theorem completion_guard {input : ClaimAnalysisJobPublishAttemptInput} {publisher index : Nat}
    {attempt : PublishAttempt} {sent : Option (Except AppError Unit)} {job : AnalysisJob}
    (owned : Owned state publisher input)
    (opened : openPublication (state.historyAt index) = some ⟨attempt.claim, sent⟩)
    (named : attempt.job.id = input.job.id) (counted : input.number ≤ job.publishAttempts)
    (matching : claimedWhere attempt.completion job = true) :
    job.status = .queued ∧ (input.number < job.publishAttempts ∨
      index = publisher ∧ job.publishAttempts = input.number ∧
        job.nextPublishAt = some input.claimedNextPublishAt) := by
  simp only [claimedWhere, Bool.and_eq_true, beq_iff_eq] at matching
  rcases matching with ⟨⟨⟨queued, attempts⟩, _⟩, next⟩
  refine ⟨queued, ?_⟩
  rcases Nat.lt_or_eq_of_le counted with less | equal
  · exact Or.inl less
  · rcases owned index _ opened named (attempts.symm.trans equal.symm) with ⟨same, claim⟩
    refine Or.inr ⟨same, equal.symm, next.trans ?_⟩
    rw [← claim]
    rfl

section Steps

variable {publisher : Nat} {input : ClaimAnalysisJobPublishAttemptInput} {job row : AnalysisJob}

/-- A worker's claim of a queued job whose due time is the bound or later. -/
theorem Passed.of_claim {jobId : JobId} {number : Nat} {bound due now leaseExpiresAt : Instant}
    {leaseToken : Uuid} {index : Nat} {outcome : Except AppError Bool} {written : Instant}
    (initial : first.Initial) (reached : Execution first earlier state)
    (stepped : state.step label = some after)
    (grown : after.historyAt index = state.historyAt index ++
      [⟨.command (.update (.claimQueued jobId leaseToken now leaseExpiresAt)), outcome⟩])
    (permitted : ClaimsAt (state.historyAt index) leaseToken now leaseExpiresAt)
    (next : job.nextPublishAt = some due) (beyond : bound ≤ due)
    (guarded : (claimQueued jobId leaseToken now leaseExpiresAt).guard job = true) :
    Passed after jobId number bound
      ((claimQueued jobId leaseToken now leaseExpiresAt).data written job) := by
  simp only [claimQueued, Bool.and_eq_true, next, nullOrDue, decide_eq_true_eq] at guarded
  rcases permitted with ⟨unused, clock, lasting⟩
  have late : bound ≤ now := beyond.trans guarded.1.1.2
  exact .running rfl rfl (late.trans lasting)
    (.taken initial reached stepped grown unused clock late rfl)

/-- A worker that takes over a lease that ended at the bound or later. -/
theorem Passed.of_takeOver {jobId : JobId} {number : Nat}
    {bound leaseEnd now leaseExpiresAt : Instant} {leaseToken : Uuid} {index : Nat}
    {change : JobUpdate} {outcome : Except AppError Bool} (initial : first.Initial)
    (reached : Execution first earlier state) (stepped : state.step label = some after)
    (grown : after.historyAt index = state.historyAt index ++ [⟨.command (.update change), outcome⟩])
    (permitted : ClaimsAt (state.historyAt index) leaseToken now leaseExpiresAt)
    (lease : job.leaseExpiresAt = some leaseEnd) (within : bound ≤ leaseEnd)
    (expired : leaseExpired job now = true) (isRunning : row.status = .running)
    (held : row.leaseToken = some leaseToken)
    (extended : row.leaseExpiresAt = some leaseExpiresAt) :
    Passed after jobId number bound row := by
  simp only [leaseExpired, lease, decide_eq_true_eq] at expired
  rcases permitted with ⟨unused, clock, lasting⟩
  have late : bound ≤ now := within.trans expired
  exact .running isRunning extended (late.trans lasting)
    (.taken initial reached stepped grown unused clock late held)

/-- A lease is taken over when it has expired by the clock of the claim. -/
theorem JobUpdate.expired_of_guard {change : JobUpdate} {claim : JobId × Uuid} {now : Instant}
    (claims : change.claims = some claim) (clock : change.claimedAt = some now)
    (isRunning : job.status = .running) (guarded : change.row.guard job = true) :
    leaseExpired job now = true := by
  cases change with
  | takeOverExpiredLease | takeOverExpiredBilledLease =>
      cases clock
      simp only [JobUpdate.row, GitMate.takeOverExpiredLease, GitMate.takeOverExpiredBilledLease,
        Bool.and_eq_true] at guarded
      simp only [guarded]
  | claimQueued =>
      have queued := JobUpdate.guard_status guarded
      rw [isRunning] at queued
      cases queued
  | start | recordProviderCharge | updateProgress | releaseForRetry | claimAttempt | markPublished
  | recordFailure => cases claims

/-- A row that has moved past an attempt stays past it. -/
theorem Passed.step (initial : first.Initial) (reached : Execution first earlier state)
    (stepped : state.step label = some after) (monotone : MonotoneClocks ⟨state, label, after⟩)
    (owned : Owned state publisher input) (found : state.db.findJob input.job.id = some job)
    (later : after.db.findJob input.job.id = some row) (unsynced : job.isSync = false)
    (counted : input.number ≤ job.publishAttempts)
    (passed : Passed state input.job.id input.number input.claimedNextPublishAt job) :
    Passed after input.job.id input.number input.claimedNextPublishAt row := by
  rcases step_endures initial reached stepped found with ⟨_, there, endures⟩
  cases later.symm.trans there
  have wellFormed := reachable_wellFormed initial reached found
  cases passed with
  | claimedAgain further => exact .claimedAgain (further.trans_le endures.publishAttempts)
  | ended inactive =>
      have final := endures.final (by rw [AnalysisJob.isTerminal_eq_not_isActive, inactive]; rfl)
      subst final
      exact .ended inactive
  | @released due queued next beyond =>
      have notRunning : job.status ≠ .running := fun running => by
        rw [queued] at running
        cases running
      cases rowStep initial reached stepped found later with
      | same unchanged => exact unchanged ▸ .released queued next beyond
      | @performed index _ order environment outcome _ _ grown permitted _ _ step =>
          cases step with
          | idle => exact .released queued next beyond
          | @updated change _ named guarded =>
              cases change with
              | start jobId leaseToken leaseExpiresAt startedAt =>
                  have sameJob : jobId = input.job.id :=
                    named.symm.trans (Table.key_of_find? found)
                  subst sameJob
                  cases unsynced.symm.trans (@start_isSync _ _ _ _ initial reached _ _ _
                    leaseExpiresAt startedAt _ permitted found)
              | claimQueued jobId leaseToken now leaseExpiresAt =>
                  have sameJob : jobId = input.job.id :=
                    named.symm.trans (Table.key_of_find? found)
                  subst sameJob
                  exact .of_claim initial reached stepped grown permitted next beyond.le guarded
              | claimAttempt more => exact .claimedAgain (Nat.lt_succ_of_le counted)
              | markPublished completion publishedAt =>
                  rcases permitted with ⟨attempt, opened, rfl⟩
                  rcases (completion_guard owned opened
                    (named.symm.trans (Table.key_of_find? found)) counted guarded).2 with
                    further | ⟨_, _, same⟩
                  · exact .claimedAgain further
                  · rw [next] at same
                    exact absurd (Option.some.inj same) (ne_of_gt beyond)
              | recordFailure failure =>
                  rcases permitted with ⟨attempt, _, error, random, opened, rfl⟩
                  have matching : claimedWhere attempt.completion job = true :=
                    (Bool.and_eq_true_iff.mp guarded).1
                  rcases (completion_guard owned opened
                    (named.symm.trans (Table.key_of_find? found)) counted matching).2 with
                    further | ⟨_, _, same⟩
                  · exact .claimedAgain (further.trans_le endures.publishAttempts)
                  · rw [next] at same
                    exact absurd (Option.some.inj same) (ne_of_gt beyond)
              | recordProviderCharge | takeOverExpiredLease | takeOverExpiredBilledLease
              | updateProgress | releaseForRetry =>
                  exact absurd (JobUpdate.guard_status guarded) notRunning
          | reserved _ _ guarded => exact absurd (reserveTokensRow_guard guarded).1 notRunning
          | recoveredUnreserved | recoveredReserved | terminated | saved | settled =>
              exact .ended rfl
  | @running leaseEnd isRunning lease within holders =>
      have notQueued : job.status ≠ .queued := fun queued => by
        rw [isRunning] at queued
        cases queued
      have kept : forall later : AnalysisJob, later.leaseToken = job.leaseToken ->
          HoldersPast after input.job.id input.claimedNextPublishAt later := fun later same =>
        holders.kept initial reached stepped monotone found same
      cases rowStep initial reached stepped found later with
      | same unchanged => exact unchanged ▸ .running isRunning lease within (kept job rfl)
      | @performed index _ order environment outcome _ _ grown permitted _ _ step =>
          have mine : forall leaseToken, job.leaseToken = some leaseToken ->
              Holds (state.historyAt index) input.job.id leaseToken ->
              forall now, latestClock (state.historyAt index) = some now ->
                input.claimedNextPublishAt ≤ now := by
            intro leaseToken held holds now clock
            rcases holders index leaseToken held holds with ⟨read, known, beyond⟩
            cases clock.symm.trans known
            exact beyond
          cases step with
          | idle => exact .running isRunning lease within (kept job rfl)
          | @updated change _ named guarded =>
              have sameJob := Table.key_of_find? found
              cases change with
              | start | claimQueued | claimAttempt | markPublished | recordFailure =>
                  exact absurd (JobUpdate.guard_status guarded) notQueued
              | recordProviderCharge => exact .running isRunning lease within (kept _ rfl)
              | updateProgress progress =>
                  rcases permitted with ⟨holds, _, now, clock, lasting⟩
                  have held : job.leaseToken = some progress.leaseToken :=
                    JobUpdate.fence_guard rfl guarded
                  rw [← show job.id = progress.jobId from named, sameJob] at holds
                  exact .running isRunning rfl ((mine _ held holds now clock).trans lasting)
                    (kept _ rfl)
              | releaseForRetry release =>
                  rcases permitted with ⟨holds, _, now, clock, due⟩
                  have held : job.leaseToken = some release.leaseToken :=
                    JobUpdate.fence_guard rfl guarded
                  rw [← show job.id = release.jobId from named, sameJob] at holds
                  exact .released rfl rfl ((mine _ held holds now clock).trans_lt due)
              | takeOverExpiredLease current leaseToken now leaseExpiresAt =>
                  exact .of_takeOver initial reached stepped grown permitted lease within
                    (JobUpdate.expired_of_guard rfl rfl isRunning guarded) isRunning rfl rfl
              | takeOverExpiredBilledLease current leaseToken now leaseExpiresAt =>
                  exact .of_takeOver initial reached stepped grown permitted lease within
                    (JobUpdate.expired_of_guard rfl rfl isRunning guarded) isRunning rfl rfl
          | reserved => exact .running isRunning lease within (kept _ rfl)
          | recoveredUnreserved | recoveredReserved | terminated | saved | settled =>
              exact .ended rfl

/-! ## Late completions -/

/-- The publisher of a claim has not completed its attempt. -/
def StillOpen (state : SystemState deployment) (publisher : Nat)
    (input : ClaimAnalysisJobPublishAttemptInput) : Prop :=
  Exists fun publication => openPublication (state.historyAt publisher) = some publication ∧
    publication.claim = input

/-- The row as the claim has left it. -/
structure Current (input : ClaimAnalysisJobPublishAttemptInput) (row : AnalysisJob) : Prop where
  queued : row.status = .queued
  counted : row.publishAttempts = input.number
  next : row.nextPublishAt = some input.claimedNextPublishAt

/-- An attempt that was claimed: only its publisher has it, and as long as it
is open the row is in one of certain states. -/
structure Followed (state : SystemState deployment) (publisher : Nat)
    (input : ClaimAnalysisJobPublishAttemptInput) (follows : AnalysisJob -> Prop) : Prop where
  owned : Owned state publisher input
  row : Exists fun row => state.db.findJob input.job.id = some row ∧
    input.number ≤ row.publishAttempts ∧ row.isSync = false ∧
      (StillOpen state publisher input -> follows row)

/-- An attempt that is open after a step was open before it. -/
theorem StillOpen.before (opened : StillOpen after publisher input)
    (stepped : state.step label = some after) (found : state.db.findJob input.job.id = some job)
    (counted : input.number ≤ job.publishAttempts) : StillOpen state publisher input := by
  rcases opened with ⟨publication, current, rfl⟩
  cases openStep stepped current with
  | kept before => exact ⟨publication, before, rfl⟩
  | sent before sameClaim _ => exact ⟨_, before, sameClaim⟩
  | claimed claims =>
      rcases claims.claimed with ⟨row, _, there, _, _, number, _⟩
      cases found.symm.trans there
      omega

/-- What is kept for an attempt over one step. -/
theorem Followed.step {follows followsAfter : AnalysisJob -> Prop}
    (followed : Followed state publisher input follows) (initial : first.Initial)
    (reached : Execution first earlier state) (stepped : state.step label = some after)
    (kept : forall job row, state.db.findJob input.job.id = some job ->
      after.db.findJob input.job.id = some row -> job.isSync = false ->
      input.number ≤ job.publishAttempts -> StillOpen after publisher input -> follows job ->
        followsAfter row) : Followed after publisher input followsAfter := by
  rcases followed.row with ⟨job, found, counted, unsynced, follows⟩
  rcases step_endures initial reached stepped found with ⟨row, there, endures⟩
  rcases step_row stepped found with ⟨_, same, identity⟩
  cases there.symm.trans same
  have sameKey : row.isSync = job.isSync :=
    congrArg (fun columns : JobIdentity => startsWith columns.idempotencyKey "sync:") identity
  exact ⟨followed.owned.step stepped found counted, row, there,
    counted.trans endures.publishAttempts, sameKey.trans unsynced, fun opened =>
      kept job row found there unsynced counted opened (follows (opened.before stepped found counted))⟩

/-- Until something overtakes an open attempt its row stays as the claim has
left it. -/
theorem Current.step (current : Current input job) (initial : first.Initial)
    (reached : Execution first earlier state) (stepped : state.step label = some after)
    (owned : Owned state publisher input) (found : state.db.findJob input.job.id = some job)
    (later : after.db.findJob input.job.id = some row) (unsynced : job.isSync = false)
    (opened : StillOpen after publisher input) :
    Current input row ∨
      Passed after input.job.id input.number input.claimedNextPublishAt row := by
  have notRunning : job.status ≠ .running := fun running => by
    rw [current.queued] at running
    cases running
  have closes : forall change : JobUpdate, forall outcome : Except AppError Bool,
      after.historyAt publisher = state.historyAt publisher ++
        [⟨.command (.update change), outcome⟩] ->
      change.publicationAfter (openPublication (state.historyAt publisher)) outcome = none ->
      False := by
    intro change outcome grown closed
    rcases opened with ⟨publication, isOpen, _⟩
    rw [grown, openPublication_append] at isOpen
    exact absurd (closed.symm.trans isOpen) (fun same => by cases same)
  have completes : forall index : Nat, forall attempt : PublishAttempt, forall change : JobUpdate,
      forall sent, forall outcome : Except AppError Bool,
      after.historyAt index = state.historyAt index ++ [⟨.command (.update change), outcome⟩] ->
      (forall publication, change.publicationAfter publication outcome = none) ->
      openPublication (state.historyAt index) = some ⟨attempt.claim, sent⟩ ->
      attempt.job.id = input.job.id -> claimedWhere attempt.completion job = true -> False := by
    intro index attempt change sent outcome grown closed isOpen named matching
    rcases (completion_guard owned isOpen named current.counted.ge matching).2 with
      further | ⟨same, _⟩
    · exact absurd current.counted (Nat.ne_of_gt further)
    · subst same
      exact closes change outcome grown (closed _)
  cases rowStep initial reached stepped found later with
  | same unchanged => exact Or.inl (unchanged ▸ current)
  | @performed index _ order environment outcome _ _ grown permitted _ _ step =>
      cases step with
      | idle => exact Or.inl current
      | @updated change _ named guarded =>
          have sameJob : change.row.jobId = input.job.id :=
            named.symm.trans (Table.key_of_find? found)
          cases change with
          | start jobId leaseToken leaseExpiresAt startedAt =>
              change jobId = _ at sameJob
              subst sameJob
              cases unsynced.symm.trans (@start_isSync _ _ _ _ initial reached _ _ _
                leaseExpiresAt startedAt _ permitted found)
          | claimQueued jobId leaseToken now leaseExpiresAt =>
              change jobId = _ at sameJob
              subst sameJob
              exact Or.inr (.of_claim initial reached stepped grown permitted current.next le_rfl
                guarded)
          | claimAttempt more =>
              exact Or.inr (.claimedAgain (Nat.lt_succ_of_le current.counted.ge))
          | markPublished completion publishedAt =>
              rcases permitted with ⟨attempt, isOpen, rfl⟩
              exact (completes index attempt _ _ outcome grown (fun _ => rfl) isOpen sameJob
                guarded).elim
          | recordFailure failure =>
              rcases permitted with ⟨attempt, _, error, random, isOpen, rfl⟩
              exact (completes index attempt _ _ outcome grown (fun _ => rfl) isOpen sameJob
                (Bool.and_eq_true_iff.mp guarded).1).elim
          | recordProviderCharge | takeOverExpiredLease | takeOverExpiredBilledLease
          | updateProgress | releaseForRetry =>
              exact absurd (JobUpdate.guard_status guarded) notRunning
      | reserved _ _ guarded => exact absurd (reserveTokensRow_guard guarded).1 notRunning
      | recoveredUnreserved | recoveredReserved | terminated | saved | settled =>
          exact Or.inr (.ended rfl)

/-- The updates that overtake a publish attempt of a job: the next claim of an
attempt, and a claim by a worker. -/
def JobUpdate.overtakes (change : JobUpdate) (jobId : JobId) : Prop :=
  (Exists fun input => change = .claimAttempt input ∧ input.job.id = jobId) ∨
    Exists fun leaseToken => change.claims = some (jobId, leaseToken)

/-- What a process does in a step that performs its command. -/
theorem Performs.spec {index : Nat} {order : Command}
    (performs : Performs ⟨state, label, after⟩ index order) (initial : first.Initial)
    (reached : Execution first earlier state) (stepped : state.step label = some after) :
    order.Permitted deployment (state.historyAt index) ∧ Exists fun outcome =>
      after.historyAt index = state.historyAt index ++ [⟨.command order, outcome⟩] := by
  rcases performs.acts with ⟨choice, acts⟩
  change label = _ at acts
  subst acts
  rcases State.step_act stepped with ⟨op, resume, past, outcome, world, here, executed, rfl⟩
  cases (SystemState.pending_of_getElem? here).symm.trans performs.pending
  have history : state.historyAt index = past := State.historyAt_of_getElem? here
  rw [history]
  exact ⟨((reachable_disciplined initial reached).permits here).1, outcome,
    State.historyAt_set here _ _⟩

theorem Current.overtaken (current : Current input job) (initial : first.Initial)
    (reached : Execution first earlier state) (stepped : state.step label = some after)
    (found : state.db.findJob input.job.id = some job)
    (later : after.db.findJob input.job.id = some row) {index : Nat} {change : JobUpdate}
    (performs : Performs ⟨state, label, after⟩ index (.update change))
    (overtakes : change.overtakes input.job.id) :
    Passed after input.job.id input.number input.claimedNextPublishAt row := by
  have notRunning : job.status ≠ .running := fun running => by
    rw [current.queued] at running
    cases running
  rcases performs.spec initial reached stepped with ⟨permitted, outcome, grown⟩
  rcases performs.committed with ⟨environment, committed⟩
  rcases committed.update_row found later with ⟨named, guarded, written⟩ | ⟨different, _⟩
  · subst written
    rcases overtakes with ⟨more, rfl, _⟩ | ⟨leaseToken, claims⟩
    · exact .claimedAgain (Nat.lt_succ_of_le current.counted.ge)
    · cases change with
      | claimQueued jobId leaseToken now leaseExpiresAt =>
          cases claims
          exact .of_claim initial reached stepped grown permitted current.next le_rfl guarded
      | takeOverExpiredLease | takeOverExpiredBilledLease =>
          exact absurd (JobUpdate.guard_status guarded) notRunning
      | start | recordProviderCharge | updateProgress | releaseForRetry | claimAttempt
      | markPublished | recordFailure => cases claims
  · rcases overtakes with ⟨more, rfl, sameJob⟩ | ⟨leaseToken, claims⟩
    · exact absurd sameJob different
    · exact absurd (JobUpdate.claims_spec claims).1 different

end Steps

/-! ## Attempts over a run -/

section Runs

variable {middle rest : List (Transition (gitMate deployment))} {publisher : Nat}
  {input : ClaimAnalysisJobPublishAttemptInput}

/-- The row is as the claim has left it, or it has moved past the attempt. -/
def AtMost (state : SystemState deployment) (input : ClaimAnalysisJobPublishAttemptInput)
    (row : AnalysisJob) : Prop :=
  Current input row ∨ Passed state input.job.id input.number input.claimedNextPublishAt row

/-- What a claim of an attempt establishes. -/
theorem Performs.followed (claims : Performs ⟨state, label, after⟩ publisher
      (.update (.claimAttempt input))) (initial : first.Initial)
    (reached : Execution first earlier state) (stepped : state.step label = some after) :
    Followed after publisher input (AtMost after input) := by
  rcases claims.claimed with ⟨job, row, found, there, _, number, queued, counted, next⟩
  rcases claims.spec initial reached stepped with ⟨⟨seen, unsynced, _⟩, _⟩
  refine ⟨fun index publication opened named numbered => ?_, row, there, counted.ge, ?_,
    fun _ => Or.inl ⟨queued, counted, next⟩⟩
  · have older : forall current, openPublication (state.historyAt index) = some current ->
        current.claim = publication.claim -> False := by
      intro current before sameClaim
      rcases (reachable_numbered initial reached).counted index current before with
        ⟨old, here, bound⟩
      rw [sameClaim, named] at here
      rw [sameClaim] at bound
      cases found.symm.trans here
      omega
    cases openStep stepped opened with
    | kept before => exact (older publication before rfl).elim
    | sent before sameClaim _ => exact (older _ before sameClaim).elim
    | claimed again =>
        rcases claims.acts with ⟨choice, acts⟩
        rcases again.acts with ⟨otherChoice, otherActs⟩
        cases acts.symm.trans otherActs
        cases claims.pending.symm.trans again.pending
        exact ⟨rfl, rfl⟩
  · rcases reachable_seen initial reached publisher _ seen with ⟨known, here, identity⟩
    cases found.symm.trans here
    rcases step_row stepped found with ⟨_, same, kept⟩
    cases there.symm.trans same
    have sameKey : row.isSync = input.job.isSync := congrArg
      (fun columns : JobIdentity => startsWith columns.idempotencyKey "sync:") (kept.trans identity)
    exact sameKey.trans unsynced

theorem Followed.waits (followed : Followed state publisher input (AtMost state input))
    (initial : first.Initial) (reached : Execution first earlier state)
    (run : Execution state rest last) (monotone : forall step, step ∈ rest -> MonotoneClocks step) :
    Followed last publisher input (AtMost last input) := by
  refine run.invariant MonotoneClocks (fun state => Followed state publisher input
    (AtMost state input)) followed (fun between middle label after further _ held clocks stepped =>
      ?_) monotone
  refine held.step initial (reached.append further) stepped
    fun job row found later unsynced counted opened follows => ?_
  rcases follows with current | passed
  · exact current.step initial (reached.append further) stepped held.owned found later unsynced
      opened
  · exact Or.inr (passed.step initial (reached.append further) stepped clocks held.owned found
      later unsynced counted)

theorem Followed.passes
    (followed : Followed state publisher input
      (Passed state input.job.id input.number input.claimedNextPublishAt))
    (initial : first.Initial) (reached : Execution first earlier state)
    (run : Execution state rest last) (monotone : forall step, step ∈ rest -> MonotoneClocks step) :
    Followed last publisher input
      (Passed last input.job.id input.number input.claimedNextPublishAt) := by
  refine run.invariant MonotoneClocks (fun state => Followed state publisher input
    (Passed state input.job.id input.number input.claimedNextPublishAt)) followed
    (fun between middle label after further _ held clocks stepped => ?_) monotone
  exact held.step initial (reached.append further) stepped
    fun job row found later unsynced counted _ passed =>
      passed.step initial (reached.append further) stepped clocks held.owned found later unsynced
        counted

/-- The attempt that a completion belongs to. -/
def JobUpdate.completes : JobUpdate -> Option (JobId × Nat)
  | .markPublished completion _ => some (completion.job.id, completion.attempt)
  | .recordFailure failure => some (failure.job.id, failure.attempt)
  | _ => none

/-- A completion does not match a row that has moved past its attempt. -/
theorem Followed.fences
    (followed : Followed state publisher input
      (Passed state input.job.id input.number input.claimedNextPublishAt))
    (initial : first.Initial) (reached : Execution first earlier state) {index : Nat}
    {choice : Choice} {change : JobUpdate}
    (stepped : state.step (.act index choice) = some after)
    (pending : state.pending index = some (.command (.update change)))
    (completes : change.completes = some (input.job.id, input.number)) :
    after.db = state.db := by
  rcases followed.row with ⟨job, found, counted, _, follows⟩
  cases ledgerStep initial reached stepped with
  | quiet same => exact same
  | @performed _ _ _ order environment past _ _ here _ _ _ permitted _ _ committed =>
      cases (SystemState.pending_of_getElem? here).symm.trans pending
      have history : state.historyAt index = past := State.historyAt_of_getElem? here
      have completing : Exists fun attempt : PublishAttempt => Exists fun sent =>
          openPublication (state.historyAt index) = some ⟨attempt.claim, sent⟩ ∧
          attempt.job.id = input.job.id ∧ attempt.number = input.number ∧
          claimedWhere attempt.completion job = true := by
        rw [history]
        generalize after.db = later at committed
        cases committed with
        | @updated _ row there guarded =>
            cases change with
            | markPublished completion publishedAt =>
                rcases permitted with ⟨attempt, opened, rfl⟩
                have same := Option.some.inj completes
                have named : attempt.job.id = input.job.id := congrArg Prod.fst same
                change state.db.findJob attempt.job.id = some row at there
                rw [named] at there
                cases found.symm.trans there
                exact ⟨attempt, _, opened, named, congrArg Prod.snd same, guarded⟩
            | recordFailure failure =>
                rcases permitted with ⟨attempt, _, error, random, opened, rfl⟩
                have same := Option.some.inj completes
                have named : attempt.job.id = input.job.id := congrArg Prod.fst same
                change state.db.findJob attempt.job.id = some row at there
                rw [named] at there
                cases found.symm.trans there
                exact ⟨attempt, _, opened, named, congrArg Prod.snd same,
                  (Bool.and_eq_true_iff.mp guarded).1⟩
            | _ => cases completes
      rcases completing with ⟨attempt, sent, opened, named, numbered, matching⟩
      have own := followed.owned index _ opened named numbered
      have isOpen : StillOpen state publisher input := own.1 ▸ ⟨_, opened, own.2⟩
      have latest := matching
      simp only [claimedWhere, Bool.and_eq_true, beq_iff_eq] at latest
      have exactly : job.publishAttempts = input.number := latest.1.1.2.trans numbered
      rcases completion_guard followed.owned opened named counted matching with
        ⟨queued, further | ⟨_, _, next⟩⟩
      · exact absurd exactly (Nat.ne_of_gt further)
      · cases follows isOpen with
        | claimedAgain further => exact absurd exactly (Nat.ne_of_gt further)
        | ended inactive =>
            rw [AnalysisJob.isActive_iff.mpr (Or.inl queued)] at inactive
            cases inactive
        | released _ due beyond =>
            rw [next] at due
            exact absurd (Option.some.inj due) (ne_of_lt beyond)
        | running isRunning =>
            rw [queued] at isRunning
            cases isRunning

/-- Publish attempts are exclusive when the clock of no process goes back.  The
claims of a job have increasing numbers, so none is claimed twice.  Sends are
made for distinct claimed attempts, so there are no more of them than attempts.
And once a later attempt or a worker has claimed the job, a completion of the
attempt changes nothing in the database. -/
theorem publish_attempts_exclusive (initial : first.Initial) (run : Execution first steps last)
    (monotone : forall step, step ∈ steps -> MonotoneClocks step) :
    (forall earlier one middle two rest, steps = earlier ++ one :: (middle ++ two :: rest) ->
      forall index other input more, Performs one index (.update (.claimAttempt input)) ->
        Performs two other (.update (.claimAttempt more)) -> more.job.id = input.job.id ->
          input.number < more.number) ∧
    (forall jobId, (sentAttempts jobId steps).Nodup ∧
      (forall number, number ∈ sentAttempts jobId steps -> Exists fun step => step ∈ steps ∧
        Exists fun index => Exists fun input =>
          Performs step index (.update (.claimAttempt input)) ∧ input.job.id = jobId ∧
            input.number = number) ∧
      (sentAttempts jobId steps).length ≤
        ((last.db.findJob jobId).map AnalysisJob.publishAttempts).getD 0) ∧
    (forall earlier claim middle late rest, steps = earlier ++ claim :: (middle ++ late :: rest) ->
      forall publisher input, Performs claim publisher (.update (.claimAttempt input)) ->
        (Exists fun overtaking => overtaking ∈ middle ∧ Exists fun other =>
          Exists fun change : JobUpdate => Performs overtaking other (.update change) ∧
            change.overtakes input.job.id) ->
        forall index choice change, late.label = .act index choice ->
          late.before.pending index = some (.command (.update change)) ->
          change.completes = some (input.job.id, input.number) ->
            late.after.db = late.before.db) := by
  refine ⟨?_, fun jobId => ⟨(reachable_sent initial run jobId).once,
    fun number member => sent_claimed initial run member, length_sentAttempts_le initial run jobId⟩,
    ?_⟩
  · intro earlier one middle two rest same index other input more claims again sameJob
    exact claimed_once initial (same ▸ run) claims again sameJob
  · intro earlier claim middle late rest same publisher input claims overtaken index choice change
      acts pending completes
    subst same
    rcases run.around with ⟨leading, stepped, following⟩
    rcases following.around with ⟨between, written, _⟩
    rcases overtaken with ⟨overtaking, inside, other, more, performs, overtakes⟩
    rcases List.append_of_mem inside with ⟨front, back, rfl⟩
    rcases between.around with ⟨waiting, passing, onward⟩
    have reachedOvertaking := (leading.next stepped).append waiting
    have waits := (claims.followed initial leading stepped).waits initial (leading.next stepped)
      waiting fun step member => monotone step (by simp only [List.mem_append, List.mem_cons]; tauto)
    have passed : Followed overtaking.after publisher input
        (Passed overtaking.after input.job.id input.number input.claimedNextPublishAt) := by
      refine waits.step initial reachedOvertaking passing
        fun job row found later unsynced counted _ follows => ?_
      rcases follows with current | old
      · exact current.overtaken initial reachedOvertaking passing found later performs overtakes
      · exact old.step initial reachedOvertaking passing
          (monotone _ (by simp only [List.mem_append, List.mem_cons]; tauto)) waits.owned found
          later unsynced counted
    have still := passed.passes initial (reachedOvertaking.next passing) onward
      fun step member => monotone step (by simp only [List.mem_append, List.mem_cons]; tauto)
    rw [acts] at written
    exact still.fences initial ((reachedOvertaking.next passing).append onward) written pending
      completes

/-- `MonotoneClocks` as a check of the acting process. -/
def monotoneClocks (step : Transition (gitMate deployment)) : Bool :=
  match step.label with
  | .act index _ =>
      match latestClock (step.before.historyAt index), latestClock (step.after.historyAt index) with
      | some before, some now => decide (before ≤ now)
      | _, _ => true
  | .spawn _ | .crash _ | .internal _ => true

theorem monotoneClocks_spec {step : Transition (gitMate deployment)}
    (stepped : step.before.step step.label = some step.after)
    (checked : monotoneClocks step = true) : MonotoneClocks step := by
  intro index before now read known
  rcases State.historyAt_step stepped index with same | ⟨choice, _, _, _, acts, _⟩
  · rw [same, read] at known
    exact (Option.some.inj known).le
  · simp only [monotoneClocks, acts, read, known, decide_eq_true_eq] at checked
    exact checked

end Runs

/-! ## A late mark -/

/-- A publisher is about to claim the first attempt of a job. -/
def unpublishedState : SystemState DEFAULT_DEPLOYMENT :=
  (smallState DEFAULT_DEPLOYMENT).after
    ([.spawn (.create 1 "R1" "key-1")] ++ perform 0 (createChoices 1000 1 100))

def attemptedState : SystemState DEFAULT_DEPLOYMENT :=
  unpublishedState.after [.act 0 (.committed 1000 0)]

/-- The message is sent, and a worker is about to claim the job. -/
def deliveredScript : List (SystemLabel DEFAULT_DEPLOYMENT) :=
  perform 0 [.send .accepted] ++ [.spawn .worker] ++
    perform 1 ((claimChoices 10000000 0 101).take 4)

def deliveredState : SystemState DEFAULT_DEPLOYMENT := attemptedState.after deliveredScript

def startedState : SystemState DEFAULT_DEPLOYMENT :=
  deliveredState.after [.act 1 (.committed 10000000 0)]

def markedState : SystemState DEFAULT_DEPLOYMENT :=
  startedState.after [.act 0 (.committed 10000000 0)]

/-- The update that the next operation of a process is. -/
def pendingUpdate {deployment : Deployment} (state : SystemState deployment) (index : Nat) :
    Option JobUpdate :=
  match state.pending index with
  | some (.command (.update change)) => some change
  | _ => none

theorem pending_of_pendingUpdate {state : SystemState deployment} {index : Nat}
    {change : JobUpdate} (pending : pendingUpdate state index = some change) :
    state.pending index = some (.command (.update change)) := by
  unfold pendingUpdate at pending
  split at pending
  · cases pending
    assumption
  · cases pending

/-- The publisher marks the job as published after the worker has claimed it. -/
theorem publish_attempts_exclusive_late_mark :
    markedState.db = startedState.db := by
  rcases State.passes_run (show (smallState DEFAULT_DEPLOYMENT).passes monotoneClocks
    ([.spawn (.create 1 "R1" "key-1")] ++ perform 0 (createChoices 1000 1 100)) = true
    by decide +kernel) with ⟨earlier, leading, checkedLeading⟩
  rcases State.passes_run (show attemptedState.passes monotoneClocks deliveredScript = true
    by decide +kernel) with ⟨middle, between, checkedBetween⟩
  have claimStep : unpublishedState.step (.act 0 (.committed 1000 0)) = some attemptedState :=
    State.after_step (by decide +kernel)
  have startStep : deliveredState.step (.act 1 (.committed 10000000 0)) = some startedState :=
    State.after_step (by decide +kernel)
  have markStep : startedState.step (.act 0 (.committed 10000000 0)) = some markedState :=
    State.after_step (by decide +kernel)
  have run := (((leading.next claimStep).append between).next startStep).next markStep
  have claiming : (pendingUpdate unpublishedState 0).bind (fun change => match change with
      | .claimAttempt input => some (input.job.id, input.number)
      | _ => none) = some (1, 1) := by decide +kernel
  have marking : (pendingUpdate startedState 0).bind JobUpdate.completes = some (1, 1) := by
    decide +kernel
  have starting : (pendingUpdate deliveredState 1).bind JobUpdate.claims = some (1, 101) := by
    decide +kernel
  rcases Option.bind_eq_some_iff.mp claiming with ⟨claim, pendingClaim, claimed⟩
  rcases Option.bind_eq_some_iff.mp marking with ⟨mark, pendingMark, completes⟩
  rcases Option.bind_eq_some_iff.mp starting with ⟨start, pendingStart, claims⟩
  have attempted : attemptedState.db ≠ unpublishedState.db := fun same => by
    have counts : (attemptedState.db.findJob 1).map AnalysisJob.publishAttempts ≠
        (unpublishedState.db.findJob 1).map AnalysisJob.publishAttempts := by decide +kernel
    exact counts (by rw [same])
  have started : startedState.db ≠ deliveredState.db := fun same => by
    have counts : (startedState.db.findJob 1).map AnalysisJob.attemptCount ≠
        (deliveredState.db.findJob 1).map AnalysisJob.attemptCount := by decide +kernel
    exact counts (by rw [same])
  have monotone : forall step, step ∈ _ -> MonotoneClocks step := fun step member => by
    refine monotoneClocks_spec (run.reaches_step member).2 ?_
    simp only [List.mem_append, List.mem_singleton] at member
    rcases member with (((early | rfl) | inside) | rfl) | rfl
    · exact checkedLeading step early
    · decide +kernel
    · exact checkedBetween step inside
    · decide +kernel
    · decide +kernel
  cases claim with
  | claimAttempt input =>
      have same := Option.some.inj claimed
      have named : input.job.id = 1 := congrArg Prod.fst same
      have numbered : input.number = 1 := congrArg Prod.snd same
      refine (publish_attempts_exclusive (smallState_initial DEFAULT_DEPLOYMENT) run monotone).2.2
        earlier ⟨unpublishedState, .act 0 (.committed 1000 0), attemptedState⟩
        (middle ++ [⟨deliveredState, .act 1 (.committed 10000000 0), startedState⟩])
        ⟨startedState, .act 0 (.committed 10000000 0), markedState⟩ [] ?_ 0 input
        (.of_changed claimStep (pending_of_pendingUpdate pendingClaim) attempted)
        ⟨_, List.mem_append_right _ List.mem_cons_self, 1, start,
          .of_changed startStep (pending_of_pendingUpdate pendingStart) started,
          Or.inr ⟨101, named ▸ claims⟩⟩
        0 (.committed 10000000 0) mark rfl (pending_of_pendingUpdate pendingMark) ?_
      · simp only [List.append_assoc, List.cons_append, List.nil_append]
        rfl
      · rw [named, numbered]
        exact completes
  | _ => cases claimed

end GitMate
