import GitMate.Service.Runs

namespace GitMate

open Relational Interleaving Machine

/-!
# Leases fence their workers

A lease token is generated by one process and written into at most one row.
From its generation on it is unused, then held by that row, and once the row
has lost it, spent.  A spent token never returns to a row, and every update
that a worker makes under its lease compares the token of the row, so a worker
that has lost its lease changes nothing.
-/

/-! ## Fences -/

/-- The lease token that an update expects in the row. -/
def JobUpdate.fence : JobUpdate -> Option Uuid
  | .recordProviderCharge input => some input.expectedLeaseToken
  | .updateProgress input => some input.leaseToken
  | .releaseForRetry input => some input.leaseToken
  | _ => none

/-- The lease token that a command expects in the row of its job: the old
token with which a worker performs it. -/
def Command.fence : Command -> Option Uuid
  | .update change => change.fence
  | .reserveWorkerTokens input => some input.expectedLeaseToken
  | .terminateWorkerJob input => some input.leaseToken
  | .saveAnalysisResult input => some input.leaseToken
  | .settleFailure input =>
      match input.expected with
      | .queued => none
      | .running leaseToken => some leaseToken
  | .createExclusive _ | .upsertRepository .. => none

theorem JobUpdate.fence_guard {change : JobUpdate} {leaseToken : Uuid} {job : AnalysisJob}
    (fenced : change.fence = some leaseToken) (guarded : change.row.guard job = true) :
    job.leaseToken = some leaseToken := by
  cases change with
  | recordProviderCharge input =>
      simp only [JobUpdate.row, recordProviderChargeRow, Bool.and_eq_true, beq_iff_eq] at guarded
      rw [guarded.1.1.1.1.1.1.1.1.2]
      exact fenced
  | updateProgress input =>
      simp only [JobUpdate.row, updateProgressRow, Bool.and_eq_true, beq_iff_eq] at guarded
      rw [guarded.1.2]
      exact fenced
  | releaseForRetry input =>
      simp only [JobUpdate.row, releaseForRetryRow, Bool.and_eq_true, beq_iff_eq] at guarded
      rw [guarded.1.1.1.1.1.2]
      exact fenced
  | start | claimQueued | takeOverExpiredLease | takeOverExpiredBilledLease | claimAttempt
  | markPublished | recordFailure => cases fenced

/-- A command under a lease takes effect only while some row holds it. -/
theorem Committed.fenced {environment : Environment} {db after : Database} {command : Command}
    {leaseToken : Uuid} (committed : Committed environment db command after)
    (fenced : command.fence = some leaseToken) :
    Exists fun id => Exists fun job => db.findJob id = some job ∧
      job.leaseToken = some leaseToken := by
  cases committed with
  | updated found guarded => exact ⟨_, _, found, JobUpdate.fence_guard fenced guarded⟩
  | reserved paid valid found guarded =>
      exact ⟨_, _, found, (reserveTokensRow_guard guarded).2.1.trans fenced⟩
  | terminated debit usable owner valid found guarded =>
      exact ⟨_, _, found, (transitionStatus_failRunning_guard guarded).2.1.trans fenced⟩
  | saved fresh unlinked counted owner valid found guarded =>
      exact ⟨_, _, found, (transitionStatus_succeed_guard guarded).2.1.trans fenced⟩
  | @settled input job found guarded unbilled owner =>
      have matched := (settleFailureRow_guard guarded).2.2
      simp only [Command.fence] at fenced
      cases expected : input.expected with
      | queued => rw [expected] at fenced; cases fenced
      | running token =>
          rw [expected] at fenced matched
          cases fenced
          exact ⟨_, _, found, beq_iff_eq.mp matched⟩
  | created | relisted | listed => cases fenced

/-! ## Where tokens come from -/

theorem JobUpdate.leaseToken_data {change : JobUpdate} {job : AnalysisJob} (now : Instant) :
    (change.row.data now job).leaseToken = job.leaseToken ∨
      (change.row.data now job).leaseToken = none ∨
      (change.row.data now job).leaseToken = change.installs := by
  cases change with
  | start | claimQueued | takeOverExpiredLease | takeOverExpiredBilledLease =>
      exact Or.inr (Or.inr rfl)
  | releaseForRetry => exact Or.inr (Or.inl rfl)
  | recordFailure input =>
      simp only [JobUpdate.row, GitMate.recordFailure]
      by_cases terminating : input.terminate = true
      · rw [if_pos terminating]
        exact Or.inl rfl
      · rw [if_neg terminating]
        exact Or.inl rfl
  | recordProviderCharge | updateProgress | claimAttempt | markPublished => exact Or.inl rfl

/-- A row keeps its lease token, loses it, or receives the one that the
command installs. -/
theorem JobStep.leaseToken {environment : Environment} {command : Command}
    {job later : AnalysisJob} (step : JobStep environment command job later) :
    later.leaseToken = job.leaseToken ∨ later.leaseToken = none ∨
      later.leaseToken = command.installs := by
  cases step with
  | updated named guarded => exact JobUpdate.leaseToken_data environment.application
  | idle | reserved => exact Or.inl rfl
  | recoveredUnreserved | recoveredReserved | terminated | saved | settled =>
      exact Or.inr (Or.inl rfl)

/-- A token is only installed by the process that holds it unused. -/
theorem Command.Permitted.unused {deployment : Deployment} {past : History Services}
    {order : Command} {leaseToken : Uuid} (permitted : order.Permitted deployment past)
    (installs : order.installs = some leaseToken) : leaseToken ∈ unusedTokens past := by
  cases order with
  | update change =>
      cases change with
      | start =>
          cases installs
          exact permitted.1
      | claimQueued | takeOverExpiredLease | takeOverExpiredBilledLease =>
          cases installs
          exact permitted.1
      | recordProviderCharge | updateProgress | releaseForRetry | claimAttempt | markPublished
      | recordFailure => cases installs
  | createExclusive | reserveWorkerTokens | terminateWorkerJob | saveAnalysisResult
  | settleFailure | upsertRepository => cases installs

/-! ## The life of a token -/

variable {deployment : Deployment}

/-- The unused tokens of the process with an index. -/
def unusedAt (state : SystemState deployment) (index : Nat) : List Uuid :=
  unusedTokens (state.historyAt index)

/-- Every token is in at most one place: with one process that has not used
it, or in one row. -/
structure Leases (state : SystemState deployment) : Prop where
  issued : forall index leaseToken, leaseToken ∈ unusedAt state index ->
    leaseToken ∈ state.world.issued
  distinct : forall index other leaseToken, leaseToken ∈ unusedAt state index ->
    leaseToken ∈ unusedAt state other -> index = other
  held : forall id job leaseToken, state.db.findJob id = some job ->
    job.leaseToken = some leaseToken ->
      leaseToken ∈ state.world.issued ∧ forall index, leaseToken ∉ unusedAt state index
  single : forall id job other row leaseToken, state.db.findJob id = some job ->
    job.leaseToken = some leaseToken -> state.db.findJob other = some row ->
      row.leaseToken = some leaseToken -> id = other

/-- A token that was generated, used and lost again. -/
structure Spent (state : SystemState deployment) (leaseToken : Uuid) : Prop where
  issued : leaseToken ∈ state.world.issued
  used : forall index, leaseToken ∉ unusedAt state index
  unheld : forall id job, state.db.findJob id = some job -> job.leaseToken ≠ some leaseToken

/-- What a step does to the tokens. -/
inductive TokenStep (state after : SystemState deployment) : Prop where
  /-- No row and no unused token changes. -/
  | quiet (issued : after.world.issued = state.world.issued) (db : after.db = state.db)
      (unused : forall index, unusedAt after index = unusedAt state index)
  /-- One process receives a new token. -/
  | generated (index : Nat) (leaseToken : Uuid) (fresh : leaseToken ∉ state.world.issued)
      (issued : after.world.issued = leaseToken :: state.world.issued) (db : after.db = state.db)
      (received : unusedAt after index = leaseToken :: unusedAt state index)
      (others : forall other, other ≠ index -> unusedAt after other = unusedAt state other)
  /-- One process performs a command, after which the token it installs is not
  unused any more. -/
  | performed (index : Nat) (order : Command) (environment : Environment)
      (issued : after.world.issued = state.world.issued)
      (unused : forall leaseToken, order.installs = some leaseToken ->
        leaseToken ∈ unusedAt state index)
      (left : unusedAt after index =
        (unusedAt state index).filter fun uuid => order.installs != some uuid)
      (others : forall other, other ≠ index -> unusedAt after other = unusedAt state other)
      (committed : after.db = state.db ∨ Committed environment state.db order after.db)

theorem tokenStep {first state after : SystemState deployment}
    {steps : List (Transition (gitMate deployment))} {label : SystemLabel deployment}
    (initial : first.Initial) (run : Execution first steps state)
    (stepped : state.step label = some after) : TokenStep state after := by
  have unchanged : forall index, after.historyAt index = state.historyAt index ->
      unusedAt after index = unusedAt state index := fun index same => by
    unfold unusedAt
    rw [same]
  by_cases acts : Exists fun index => Exists fun choice => label = .act index choice
  · rcases acts with ⟨index, choice, rfl⟩
    have others : forall other, other ≠ index -> unusedAt after other = unusedAt state other := by
      intro other different
      rcases State.historyAt_step stepped other with same | ⟨_, _, _, _, acting, _⟩
      · exact unchanged other same
      · cases acting
        exact absurd rfl different
    rcases State.step_act stepped with ⟨op, resume, past, outcome, world, here, executed, rfl⟩
    have before : state.historyAt index = past := State.historyAt_of_getElem? here
    have grown : State.historyAt ⟨world, state.processes.set index
        ⟨resume outcome, past ++ [⟨op, outcome⟩]⟩⟩ index = past ++ [⟨op, outcome⟩] := by
      simp only [State.historyAt, List.getElem?_set_self (List.getElem?_eq_some_iff.mp here).1,
        Option.map_some, Option.getD_some]
    have unused : unusedAt ⟨world, state.processes.set index
        ⟨resume outcome, past ++ [⟨op, outcome⟩]⟩⟩ index =
          op.unusedAfter (unusedAt state index) outcome := by
      unfold unusedAt
      rw [grown, before]
      exact unusedTokens_append past op outcome
    have outside : op.isOutside = true -> op.unusedAfter (unusedAt state index) outcome =
        unusedAt state index := by
      intro isOutside
      cases op with
      | command order => cases isOutside
      | randomUuid => cases isOutside
      | query | currentDate | random | collectAttempt | analyze | publishMessage
      | getAvailableRepos | receiveMessages | deleteMessages => rfl
    change World.exec op choice state.world = _ at executed
    have permitted := (reachable_disciplined initial run).permits here
    cases op with
    | command order =>
        rcases World.exec_command executed with ⟨_, issued, environment, effect⟩
        refine .performed index order environment issued (fun leaseToken installs => ?_) unused
          others ?_
        · unfold unusedAt
          rw [before]
          exact permitted.1.unused installs
        · rcases effect with idle | effective
          · exact Or.inl idle.1
          · exact Or.inr effective.1
    | randomUuid =>
        rcases World.exec_randomUuid executed with ⟨uuid, fresh, rfl, rfl⟩
        exact .generated index uuid fresh rfl rfl unused others
    | query | currentDate | random | collectAttempt | analyze | publishMessage
    | getAvailableRepos | receiveMessages | deleteMessages =>
        have same := World.exec_outside rfl executed
        refine .quiet same.2 same.1 fun other => ?_
        by_cases acting : other = index
        · rw [acting]
          exact unused.trans (outside rfl)
        · exact others other acting
  · have histories : forall index, unusedAt after index = unusedAt state index := by
      intro index
      rcases State.historyAt_step stepped index with same | ⟨choice, _, _, _, acting, _⟩
      · exact unchanged index same
      · exact absurd ⟨index, choice, acting⟩ acts
    cases label with
    | act index choice => exact absurd ⟨index, choice, rfl⟩ acts
    | spawn entry =>
        cases State.step_spawn stepped
        exact .quiet rfl rfl histories
    | crash index =>
        rcases State.step_crash stepped with ⟨stopped, here, rfl⟩
        exact .quiet rfl rfl histories
    | internal event =>
        rcases State.step_internal stepped with ⟨world, moved, rfl⟩
        cases moved
        exact .quiet rfl rfl histories

/-- A token in a row was there before, or the command has just installed it
there. -/
theorem Committed.token_origin {environment : Environment} {db after : Database}
    {command : Command} (committed : Committed environment db command after) {id : JobId}
    {later : AnalysisJob} {leaseToken : Uuid} (found : after.findJob id = some later)
    (holds : later.leaseToken = some leaseToken) :
    (Exists fun job => db.findJob id = some job ∧ job.leaseToken = some leaseToken) ∨
      command.installs = some leaseToken ∧
        Exists fun change => command = .update change ∧ id = change.row.jobId := by
  have fate := committed.evolves id
  rw [found] at fate
  generalize before : db.findJob id = old at fate
  cases fate with
  | inserted => cases holds
  | @evolved job later step =>
      cases step with
      | idle | reserved => exact Or.inl ⟨_, rfl, holds⟩
      | @updated change _ named guarded =>
          have sameId : id = change.row.jobId := (Table.key_of_find? before).symm.trans named
          rcases JobUpdate.leaseToken_data environment.application with same | none | installed
          · exact Or.inl ⟨job, rfl, same.symm.trans holds⟩
          · rw [none] at holds
            cases holds
          · exact Or.inr ⟨installed.symm.trans holds, change, rfl, sameId⟩
      | recoveredUnreserved | recoveredReserved | terminated | saved | settled => cases holds

theorem Leases.step {state after : SystemState deployment} (leases : Leases state)
    (step : TokenStep state after) : Leases after := by
  cases step with
  | quiet issued db unused =>
      constructor
      · intro index leaseToken member
        rw [unused] at member
        rw [issued]
        exact leases.issued index leaseToken member
      · intro index other leaseToken member otherMember
        rw [unused] at member otherMember
        exact leases.distinct index other leaseToken member otherMember
      · intro id job leaseToken found holds
        rw [db] at found
        rw [issued]
        refine ⟨(leases.held id job leaseToken found holds).1, fun index => ?_⟩
        rw [unused]
        exact (leases.held id job leaseToken found holds).2 index
      · intro id job other row leaseToken found holds otherFound otherHolds
        rw [db] at found otherFound
        exact leases.single id job other row leaseToken found holds otherFound otherHolds
  | generated index leaseToken fresh issued db received others =>
      have origin : forall other token, token ∈ unusedAt after other ->
          token = leaseToken ∧ other = index ∨ token ∈ unusedAt state other := by
        intro other token member
        by_cases same : other = index
        · rw [same, received] at member
          rcases List.mem_cons.mp member with new | old
          · exact Or.inl ⟨new, same⟩
          · exact Or.inr (same ▸ old)
        · rw [others other same] at member
          exact Or.inr member
      constructor
      · intro other token member
        rw [issued]
        rcases origin other token member with ⟨rfl, _⟩ | old
        · exact List.mem_cons_self
        · exact List.mem_cons_of_mem _ (leases.issued other token old)
      · intro one other token member otherMember
        rcases origin one token member with ⟨rfl, here⟩ | old
        · rcases origin other token otherMember with ⟨_, there⟩ | otherOld
          · exact here.trans there.symm
          · exact absurd (leases.issued other token otherOld) fresh
        · rcases origin other token otherMember with ⟨rfl, _⟩ | otherOld
          · exact absurd (leases.issued one token old) fresh
          · exact leases.distinct one other token old otherOld
      · intro id job token found holds
        rw [db] at found
        have before := leases.held id job token found holds
        rw [issued]
        refine ⟨List.mem_cons_of_mem _ before.1, fun other member => ?_⟩
        rcases origin other token member with ⟨rfl, _⟩ | old
        · exact fresh before.1
        · exact before.2 other old
      · intro id job other row token found holds otherFound otherHolds
        rw [db] at found otherFound
        exact leases.single id job other row token found holds otherFound otherHolds
  | performed index order environment issued unused left others committed =>
      have earlier : forall other token, token ∈ unusedAt after other ->
          token ∈ unusedAt state other ∧ (other = index -> order.installs ≠ some token) := by
        intro other token member
        by_cases same : other = index
        · rw [same, left] at member
          rcases List.mem_filter.mp member with ⟨old, different⟩
          exact ⟨same ▸ old, fun _ => bne_iff_ne.mp different⟩
        · rw [others other same] at member
          exact ⟨member, fun here => absurd here same⟩
      have origin : forall id later token, after.db.findJob id = some later ->
          later.leaseToken = some token ->
          (Exists fun job => state.db.findJob id = some job ∧ job.leaseToken = some token) ∨
            order.installs = some token ∧
              Exists fun change => order = .update change ∧ id = change.row.jobId := by
        intro id later token found holds
        rcases committed with same | effective
        · rw [same] at found
          exact Or.inl ⟨later, found, holds⟩
        · exact effective.token_origin found holds
      constructor
      · intro other token member
        rw [issued]
        exact leases.issued other token (earlier other token member).1
      · intro one other token member otherMember
        exact leases.distinct one other token (earlier one token member).1
          (earlier other token otherMember).1
      · intro id later token found holds
        rw [issued]
        rcases origin id later token found holds with ⟨job, old, held⟩ | ⟨installs, _⟩
        · have before := leases.held id job token old held
          exact ⟨before.1, fun other member => before.2 other (earlier other token member).1⟩
        · -- The installing process was the only one with this token.
          have mine := unused token installs
          refine ⟨leases.issued index token mine, fun other member => ?_⟩
          have same := leases.distinct other index token (earlier other token member).1 mine
          exact (earlier other token member).2 same installs
      · intro id later other row token found holds otherFound otherHolds
        rcases origin id later token found holds with ⟨job, old, held⟩ | ⟨installs, change, rfl, rfl⟩
        · rcases origin other row token otherFound otherHolds with
            ⟨otherJob, otherOld, otherHeld⟩ | ⟨installs, _⟩
          · exact leases.single id job other otherJob token old held otherOld otherHeld
          · exact absurd (unused token installs) ((leases.held id job token old held).2 index)
        · rcases origin other row token otherFound otherHolds with
            ⟨otherJob, otherOld, otherHeld⟩ | ⟨_, otherChange, same, rfl⟩
          · exact absurd (unused token installs)
              ((leases.held other otherJob token otherOld otherHeld).2 index)
          · cases same
            rfl

/-- A spent token stays spent. -/
theorem Spent.step {state after : SystemState deployment} {leaseToken : Uuid}
    (spent : Spent state leaseToken) (step : TokenStep state after) : Spent after leaseToken := by
  cases step with
  | quiet issued db unused =>
      refine ⟨issued ▸ spent.issued, fun index => ?_, fun id job found => ?_⟩
      · rw [unused]
        exact spent.used index
      · exact spent.unheld id job (db ▸ found)
  | generated index token fresh issued db received others =>
      refine ⟨issued ▸ List.mem_cons_of_mem _ spent.issued, fun other member => ?_,
        fun id job found => spent.unheld id job (db ▸ found)⟩
      by_cases same : other = index
      · rw [same, received] at member
        rcases List.mem_cons.mp member with new | old
        · exact fresh (new ▸ spent.issued)
        · exact spent.used index old
      · rw [others other same] at member
        exact spent.used other member
  | performed index order environment issued unused left others committed =>
      refine ⟨issued ▸ spent.issued, fun other member => ?_, fun id job found holds => ?_⟩
      · by_cases same : other = index
        · rw [same, left] at member
          exact spent.used index (List.mem_filter.mp member).1
        · rw [others other same] at member
          exact spent.used other member
      · rcases committed with same | effective
        · rw [same] at found
          exact spent.unheld id job found holds
        · rcases effective.token_origin found holds with ⟨old, before, held⟩ | ⟨installs, _⟩
          · exact spent.unheld id old before held
          · exact spent.used index (unused leaseToken installs)

/-- A row that loses its token spends it. -/
theorem Leases.lost {state after : SystemState deployment} (leases : Leases state)
    (step : TokenStep state after) {id : JobId} {job : AnalysisJob} {leaseToken : Uuid}
    (found : state.db.findJob id = some job) (held : job.leaseToken = some leaseToken)
    (lost : forall later, after.db.findJob id = some later -> later.leaseToken ≠ some leaseToken) :
    Spent after leaseToken := by
  have before := leases.held id job leaseToken found held
  cases step with
  | quiet issued db unused => exact absurd held (lost job (db ▸ found))
  | generated index token fresh issued db received others =>
      exact absurd held (lost job (db ▸ found))
  | performed index order environment issued unused left others committed =>
      refine ⟨issued ▸ before.1, fun other member => ?_, fun other row rowFound rowHolds => ?_⟩
      · by_cases same : other = index
        · rw [same, left] at member
          exact before.2 index (List.mem_filter.mp member).1
        · rw [others other same] at member
          exact before.2 other member
      · rcases committed with same | effective
        · exact absurd held (lost job (same ▸ found))
        · rcases effective.token_origin rowFound rowHolds with ⟨old, oldFound, oldHeld⟩ | ⟨installs, _⟩
          · have sameRow := leases.single id job other old leaseToken found held oldFound oldHeld
            subst sameRow
            exact lost row rowFound rowHolds
          · exact before.2 index (unused leaseToken installs)

section Runs

variable {first last : SystemState deployment} {steps : List (Transition (gitMate deployment))}

theorem reachable_leases (initial : first.Initial) (run : Execution first steps last) :
    Leases last := by
  have nothing : forall index, unusedAt first index = [] := by
    intro index
    simp only [unusedAt, State.historyAt, initial.processes, List.getElem?_nil, Option.map_none,
      Option.getD_none]
    rfl
  have start : Leases first := by
    constructor
    · intro index leaseToken member
      rw [nothing] at member
      cases member
    · intro index other leaseToken member
      rw [nothing] at member
      cases member
    · intro id job leaseToken found holds
      rw [(initial.db.legacy job (Table.mem_of_find? found)).2.2.2.1] at holds
      cases holds
    · intro id job other row leaseToken found holds
      rw [(initial.db.legacy job (Table.mem_of_find? found)).2.2.2.1] at holds
      cases holds
  exact run.always Leases start fun earlier state label after reached leases stepped =>
    leases.step (tokenStep initial reached stepped)

theorem Spent.run {leaseToken : Uuid} (initial : first.Initial)
    {state : SystemState deployment} {before : List (Transition (gitMate deployment))}
    (reached : Execution first before state) (spent : Spent state leaseToken)
    (run : Execution state steps last) : Spent last leaseToken :=
  run.always (fun state => Spent state leaseToken) spent
    fun _ _ _ _ further spent stepped => spent.step (tokenStep initial (reached.append further) stepped)

/-- From a state in which a row holds a token, the row holds it or the token
is spent. -/
theorem held_or_spent (initial : first.Initial) {state : SystemState deployment}
    {before : List (Transition (gitMate deployment))} (reached : Execution first before state)
    {id : JobId} {job : AnalysisJob} {leaseToken : Uuid} (found : state.db.findJob id = some job)
    (held : job.leaseToken = some leaseToken) (run : Execution state steps last) :
    (Exists fun later => last.db.findJob id = some later ∧ later.leaseToken = some leaseToken) ∨
      Spent last leaseToken := by
  refine run.always
    (fun state => (Exists fun later => state.db.findJob id = some later ∧
      later.leaseToken = some leaseToken) ∨ Spent state leaseToken)
    (Or.inl ⟨job, found, held⟩) fun between middle label after further earlier stepped => ?_
  have step := tokenStep initial (reached.append further) stepped
  rcases earlier with ⟨row, here, holds⟩ | spent
  · by_cases kept : Exists fun later => after.db.findJob id = some later ∧
        later.leaseToken = some leaseToken
    · exact Or.inl kept
    · refine Or.inr ((reachable_leases initial (reached.append further)).lost step here holds ?_)
      exact fun later there same => kept ⟨later, there, same⟩
  · exact Or.inr (spent.step step)

/-- A command under a spent lease changes nothing. -/
theorem Spent.fences {state after : SystemState deployment} {index : Nat} {choice : Choice}
    {order : Command} {leaseToken : Uuid} (spent : Spent state leaseToken)
    (stepped : state.step (.act index choice) = some after)
    (pending : state.pending index = some (.command order))
    (fence : order.fence = some leaseToken) : after.db = state.db := by
  cases SystemState.databaseStep stepped with
  | quiet same => exact same
  | performed performing committed =>
      rw [pending] at performing
      cases performing
      rcases committed.fenced fence with ⟨id, job, found, holds⟩
      exact absurd holds (spent.unheld id job found)

/-! ## Claims that return -/

/-- A step in which a claim returns `CLAIMED` with the given lease token. -/
def Claimed (step : Transition (gitMate deployment)) (index : Nat) (jobId : JobId)
    (leaseToken : Uuid) : Prop :=
  Exists fun job => step.after.historyAt index = step.before.historyAt index ++
    [⟨.query (.requireClaimedJob jobId leaseToken), .ok (some job)⟩]

/-- A step in which a process writes a new lease into the row of a job. -/
structure TakesOver (step : Transition (gitMate deployment)) (index : Nat) (change : JobUpdate) :
    Prop where
  acts : Exists fun choice => step.label = .act index choice
  pending : Exists fun resume => step.before.processes[index]? =
    some ⟨.request (.command (.update change)) resume, step.before.historyAt index⟩
  committed : Exists fun environment =>
    Committed environment step.before.db (.update change) step.after.db

/-- A claim writes its token into the row of its job. -/
theorem JobUpdate.claims_spec {change : JobUpdate} {jobId : JobId} {leaseToken : Uuid}
    (claims : change.claims = some (jobId, leaseToken)) :
    change.row.jobId = jobId ∧ change.installs = some leaseToken ∧
      forall now job, (change.row.data now job).leaseToken = some leaseToken := by
  cases change with
  | claimQueued | takeOverExpiredLease | takeOverExpiredBilledLease =>
      cases claims
      exact ⟨rfl, rfl, fun _ _ => rfl⟩
  | start | recordProviderCharge | updateProgress | releaseForRetry | claimAttempt | markPublished
  | recordFailure => cases claims

/-- The clock of a claim. -/
def JobUpdate.claimedAt : JobUpdate -> Option Instant
  | .claimQueued _ _ now _ => some now
  | .takeOverExpiredLease _ _ now _ => some now
  | .takeOverExpiredBilledLease _ _ now _ => some now
  | _ => none

/-- A claim applies to a row without a lease, or to one whose lease has
expired by the clock of the claim. -/
theorem JobUpdate.claims_guard {change : JobUpdate} {claim : JobId × Uuid} {job : AnalysisJob}
    (claims : change.claims = some claim) (guarded : change.row.guard job = true)
    (wellFormed : job.WellFormed) :
    Exists fun now => change.claimedAt = some now ∧
      (job.leaseToken = none ∨ leaseExpired job now = true) := by
  cases change with
  | claimQueued jobId leaseToken now leaseExpiresAt =>
      simp only [JobUpdate.row, GitMate.claimQueued, Bool.and_eq_true, beq_iff_eq] at guarded
      exact ⟨now, rfl, Or.inl (wellFormed.queued guarded.1.1.1.1).1⟩
  | takeOverExpiredLease current leaseToken now leaseExpiresAt =>
      simp only [JobUpdate.row, GitMate.takeOverExpiredLease, Bool.and_eq_true] at guarded
      exact ⟨now, rfl, Or.inr guarded.1.1.1.1.2⟩
  | takeOverExpiredBilledLease current leaseToken now leaseExpiresAt =>
      simp only [JobUpdate.row, GitMate.takeOverExpiredBilledLease, Bool.and_eq_true] at guarded
      exact ⟨now, rfl, Or.inr guarded.1.1.1.1.2⟩
  | start | recordProviderCharge | updateProgress | releaseForRetry | claimAttempt | markPublished
  | recordFailure => cases claims

/-- An update that was acknowledged took effect. -/
theorem TakesOver.of_acknowledged {step : Transition (gitMate deployment)} {index : Nat}
    {choice : Choice} {change : JobUpdate}
    {resume : Except AppError Bool -> Service Unit} {past : History Services}
    (acts : step.label = .act index choice)
    (pending : step.before.processes[index]? =
      some ⟨.request (.command (.update change)) resume, past⟩)
    (executed : World.exec (.command (.update change)) choice step.before.world =
      some (.ok true, step.after.world)) : TakesOver step index change := by
  refine ⟨⟨choice, acts⟩, ⟨resume, ?_⟩, ?_⟩
  · rw [State.historyAt_of_getElem? pending]
    exact pending
  · rcases World.exec_command executed with ⟨_, _, environment, idle | effective⟩
    · cases idle.2 true rfl
    · exact ⟨environment, effective.1⟩

/-- The row that a claim has written holds its token. -/
theorem TakesOver.held {step : Transition (gitMate deployment)} {index : Nat}
    {change : JobUpdate} (taking : TakesOver step index change) {jobId : JobId}
    {leaseToken : Uuid} (claims : change.claims = some (jobId, leaseToken)) :
    Exists fun job => step.after.db.findJob jobId = some job ∧
      job.leaseToken = some leaseToken := by
  rcases taking.committed with ⟨environment, committed⟩
  generalize step.after.db = after at committed ⊢
  rcases JobUpdate.claims_spec claims with ⟨rfl, _, installed⟩
  cases committed with
  | updated found guarded =>
      exact ⟨_, RowUpdate.find?_apply found guarded, installed _ _⟩

section Claims

variable {first last : SystemState deployment}
  {earlier rest steps : List (Transition (gitMate deployment))}

/-- A token that was written once is not written again. -/
theorem TakesOver.once (initial : first.Initial)
    {taking again : Transition (gitMate deployment)} {index other : Nat}
    {change more : JobUpdate} {jobId : JobId} {leaseToken : Uuid}
    (run : Execution first (earlier ++ taking :: rest) last) (takes : TakesOver taking index change)
    (claims : change.claims = some (jobId, leaseToken)) (later : again ∈ rest)
    (takesAgain : TakesOver again other more) (installs : more.installs = some leaseToken) :
    False := by
  rcases run.around with ⟨leading, stepped, following⟩
  rcases following.reaches_step later with ⟨⟨between, reached⟩, _⟩
  rcases takes.held claims with ⟨job, found, held⟩
  rcases takesAgain.pending with ⟨resume, pending⟩
  have reachedAgain := (leading.next stepped).append reached
  have unused : leaseToken ∈ unusedAt again.before other :=
    ((reachable_disciplined initial reachedAgain).permits pending).1.unused installs
  rcases held_or_spent initial (leading.next stepped) found held reached with
    ⟨row, here, holds⟩ | spent
  · exact ((reachable_leases initial reachedAgain).held jobId row leaseToken here holds).2 other
      unused
  · exact spent.used other unused

/-- Two claims that write the same token are claims of one process. -/
theorem TakesOver.same_process (initial : first.Initial) (run : Execution first steps last)
    {one two : Transition (gitMate deployment)} {index other : Nat} {change more : JobUpdate}
    {jobId : JobId} {leaseToken : Uuid} (takesOne : TakesOver one index change)
    (claimsOne : change.claims = some (jobId, leaseToken)) (memberOne : one ∈ steps)
    (takesTwo : TakesOver two other more) (claimsTwo : more.claims = some (jobId, leaseToken))
    (memberTwo : two ∈ steps) : index = other := by
  rcases List.append_of_mem memberOne with ⟨earlier, rest, rfl⟩
  rcases List.mem_append.mp memberTwo with before | after
  · rcases List.append_of_mem before with ⟨front, between, rfl⟩
    rw [List.append_assoc, List.cons_append] at run
    exact (takesTwo.once initial run claimsTwo (List.mem_append_right _ List.mem_cons_self) takesOne
      (JobUpdate.claims_spec claimsOne).2.1).elim
  · rcases List.mem_cons.mp after with same | later
    · subst same
      rcases takesOne.acts with ⟨choice, acts⟩
      rcases takesTwo.acts with ⟨otherChoice, otherActs⟩
      cases acts.symm.trans otherActs
      rfl
    · exact (takesOne.once initial run claimsOne later takesTwo
        (JobUpdate.claims_spec claimsTwo).2.1).elim

/-- A step in which a claim returns is a query of its process, right after the
update that took the job over; and the row holds the token. -/
theorem Claimed.spec {step : Transition (gitMate deployment)} {index : Nat} {jobId : JobId}
    {leaseToken : Uuid} (claimed : Claimed step index jobId leaseToken)
    (initial : first.Initial) (run : Execution first steps step.before)
    (stepped : step.before.step step.label = some step.after) :
    (Exists fun job => step.before.db.findJob jobId = some job ∧
      job.leaseToken = some leaseToken) ∧
    (Exists fun resume => step.before.processes[index]? = some
      ⟨.request (.query (.requireClaimedJob jobId leaseToken)) resume,
        step.before.historyAt index⟩) ∧
    (Exists fun choice => step.label = .act index choice) ∧
    Exists fun change : JobUpdate => Exists fun past =>
      step.before.historyAt index = past ++ [⟨.command (.update change), .ok true⟩] ∧
        change.claims = some (jobId, leaseToken) := by
  rcases claimed with ⟨job, grown⟩
  rcases State.historyAt_step stepped index with
    same | ⟨choice, op, resume, outcome, acts, here, executed, added⟩
  · rw [same] at grown
    simp only [List.self_eq_append_right, List.cons_ne_nil] at grown
  · cases List.append_cancel_left (added.symm.trans grown)
    refine ⟨?_, ⟨resume, here⟩, ⟨choice, acts⟩,
      (reachable_disciplined initial run).permits here⟩
    rcases (World.exec_query executed).2 (some job) rfl with ⟨now, read⟩
    rcases Option.map_eq_some_iff.mp read.symm with ⟨row, found, _⟩
    have holds := Database.findRunningByLease_spec found
    exact ⟨row, holds.1, holds.2.2⟩

/-- The update with which a claim took its job over lies between an earlier
returned claim of the job and its own return. -/
theorem Claimed.taking_between (initial : first.Initial)
    {middle : List (Transition (gitMate deployment))} {one two : Transition (gitMate deployment)}
    {index other : Nat} {jobId : JobId} {leaseToken newToken : Uuid}
    (run : Execution first (earlier ++ one :: (middle ++ two :: rest)) last)
    (claimedOne : Claimed one index jobId leaseToken)
    (claimedTwo : Claimed two other jobId newToken) :
    Exists fun taking => taking ∈ middle ∧ Exists fun change : JobUpdate =>
      TakesOver taking other change ∧ change.claims = some (jobId, newToken) := by
  rcases run.around with ⟨leading, stepped, following⟩
  rcases following.around with ⟨between, steppedTwo, _⟩
  have leadingTwo := (leading.next stepped).append between
  rcases claimedOne.spec initial leading stepped with
    ⟨⟨rowOne, foundOne, heldOne⟩, _, actsFirst, change, past, historyOne, claimsOne⟩
  rcases claimedTwo.spec initial leadingTwo steppedTwo with
    ⟨⟨rowTwo, foundTwo, heldTwo⟩, _, _, more, pastTwo, historyTwo, claimsTwo⟩
  by_cases same : index = other
  · -- The process of both claims was done with the first one.
    subst same
    have notYet : one.after.historyAt index ≠
        pastTwo ++ [⟨.command (.update more), .ok true⟩] := by
      rcases claimedOne with ⟨job, grown⟩
      rw [grown]
      intro equal
      cases (List.append_inj' equal rfl).2
    rcases between.step_of_growth historyTwo notYet with
      ⟨taking, member, choice, resume, acts, pending, executed⟩
    exact ⟨taking, member, more, .of_acknowledged acts pending executed, claimsTwo⟩
  · have nothing : forall index event past, first.historyAt index ≠ past ++ [event] := by
      intro index event past equal
      rw [State.historyAt, initial.processes] at equal
      exact absurd equal.symm (List.append_ne_nil_of_right_ne_nil _ (List.cons_ne_nil _ _))
    rcases leading.step_of_growth historyOne (nothing _ _ _) with
      ⟨takingOne, memberOne, choiceOne, resumeOne, actsOne, pendingOne, executedOne⟩
    rcases leadingTwo.step_of_growth historyTwo (nothing _ _ _) with
      ⟨taking, member, choice, resume, acts, pending, executed⟩
    have takesOne := TakesOver.of_acknowledged actsOne pendingOne executedOne
    have takes := TakesOver.of_acknowledged acts pending executed
    rcases List.mem_append.mp member with before | inside
    · refine absurd ?_ same
      rcases List.mem_append.mp before with early | atOne
      · -- The new token would have been held, or spent, since before the first claim returned.
        have sameToken : newToken = leaseToken := by
          rcases List.append_of_mem early with ⟨front, back, rfl⟩
          rcases leading.around with ⟨reached, taken, onward⟩
          rcases takes.held claimsTwo with ⟨row, found, held⟩
          rcases held_or_spent initial (reached.next taken) found held onward with
            ⟨later, there, holds⟩ | spent
          · rw [foundOne] at there
            cases there
            exact Option.some.inj (holds.symm.trans heldOne)
          · exact absurd heldTwo ((spent.run initial leading
              ((Execution.start.next stepped).append between)).unheld jobId rowTwo foundTwo)
        exact takesOne.same_process initial leading claimsOne memberOne takes
          (sameToken ▸ claimsTwo) early
      · rw [List.mem_singleton] at atOne
        subst atOne
        rcases actsFirst with ⟨choiceFirst, actsFirst⟩
        cases actsFirst.symm.trans acts
        rfl
    · exact ⟨taking, inside, more, takes, claimsTwo⟩

/-- Leases fence their workers.  From the step on in which the row of a job
loses a lease token, whatever clears or replaces it, no command that a process
performs under this token changes anything in the database.  And of two claims
of one job that both return, the later one took the job over in between, when
the row had no lease or its lease had expired by the clock of that claim. -/
theorem leases_fence (initial : first.Initial) (run : Execution first steps last) :
    (forall earlier lost middle write rest, steps = earlier ++ lost :: (middle ++ write :: rest) ->
      forall jobId job leaseToken, lost.before.db.findJob jobId = some job ->
        job.leaseToken = some leaseToken ->
        (forall later, lost.after.db.findJob jobId = some later ->
          later.leaseToken ≠ some leaseToken) ->
        forall index choice order, write.label = .act index choice ->
          write.before.pending index = some (.command order) -> order.fence = some leaseToken ->
            write.after.db = write.before.db) ∧
    (forall earlier one middle two rest, steps = earlier ++ one :: (middle ++ two :: rest) ->
      forall index other jobId leaseToken newToken, Claimed one index jobId leaseToken ->
        Claimed two other jobId newToken ->
        Exists fun taking => taking ∈ middle ∧ Exists fun change : JobUpdate => Exists fun job =>
          Exists fun now => TakesOver taking other change ∧
            change.claims = some (jobId, newToken) ∧ change.claimedAt = some now ∧
            taking.before.db.findJob jobId = some job ∧
            (job.leaseToken = none ∨ leaseExpired job now = true)) := by
  constructor
  · intro earlier lost middle write rest same jobId job leaseToken found held gone index choice
      order acts pending fence
    rw [same] at run
    rcases run.around with ⟨leading, stepped, following⟩
    rcases following.around with ⟨between, written, _⟩
    have spentThen := (reachable_leases initial leading).lost (tokenStep initial leading stepped)
      found held gone
    rw [acts] at written
    exact (spentThen.run initial (leading.next stepped) between).fences written pending fence
  · intro earlier one middle two rest same index other jobId leaseToken newToken claimedOne
      claimedTwo
    rw [same] at run
    rcases Claimed.taking_between initial run claimedOne claimedTwo with
      ⟨taking, inside, change, takes, claims⟩
    rcases takes.committed with ⟨environment, committed⟩
    rcases run.around with ⟨leading, stepped, following⟩
    rcases following.around with ⟨between, _, _⟩
    rcases between.reaches_step inside with ⟨⟨before, reached⟩, _⟩
    have wellFormed := fun id job => @reachable_wellFormed _ _ _ _ initial
      ((leading.next stepped).append reached) id job
    generalize taking.after.db = after at committed
    cases committed with
    | updated found guarded =>
        rcases JobUpdate.claims_guard claims guarded (wellFormed _ _ found) with
          ⟨now, claimedAt, free⟩
        rw [(JobUpdate.claims_spec claims).1] at found
        exact ⟨taking, inside, change, _, now, takes, claims, claimedAt, found, free⟩

/-- A worker claims the job of a message, whose visibility timeout then ends,
and long after another worker is about to take the job over. -/
def overtakeScript : List (SystemLabel DEFAULT_DEPLOYMENT) :=
  [.spawn (.create 1 "R1" "key-1")] ++
    perform 0 (createChoices 1000 1 100 ++ publishChoices 1000) ++
    [.spawn .worker] ++ perform 1 (claimChoices 2000 0 101) ++
    [.internal (.visibilityTimeout 0), .spawn .worker] ++
    perform 2 ((claimChoices 1000000 0 102).take 4)

/-- The other worker's claim returns, and the first worker is about to report
its progress. -/
def lateScript : List (SystemLabel DEFAULT_DEPLOYMENT) :=
  perform 2 [.answer 1000000] ++ perform 1 [foundChoice, .date 2000]

def overtakenState : SystemState DEFAULT_DEPLOYMENT :=
  (smallState DEFAULT_DEPLOYMENT).after overtakeScript

def takenState : SystemState DEFAULT_DEPLOYMENT :=
  overtakenState.after [.act 2 (.committed 1000000 0)]

def lateState : SystemState DEFAULT_DEPLOYMENT := takenState.after lateScript

/-- The lease token that the next command of a process expects. -/
def pendingFence {deployment : Deployment} (state : SystemState deployment) (index : Nat) :
    Option Uuid :=
  match state.pending index with
  | some (.command order) => order.fence
  | _ => none

/-- The report of the first worker changes nothing. -/
theorem leases_fence_late_progress :
    (lateState.after [.act 1 (.committed 2000 0)]).db = lateState.db := by
  rcases State.after_run (show ((smallState DEFAULT_DEPLOYMENT).play overtakeScript).isSome = true
    by decide +kernel) with ⟨steps, run⟩
  have taken : overtakenState.step (.act 2 (.committed 1000000 0)) = some takenState :=
    State.after_step (by decide +kernel)
  rcases State.after_run (show (takenState.play lateScript).isSome = true by decide +kernel) with
    ⟨middle, between⟩
  have written := State.after_step
    (show (lateState.play [.act 1 (.committed 2000 0)]).isSome = true by decide +kernel)
  have whole := ((Execution.next run taken).append between).next written
  have held : (overtakenState.db.findJob 1).bind AnalysisJob.leaseToken = some 101 := by
    decide +kernel
  have replaced : (takenState.db.findJob 1).bind AnalysisJob.leaseToken = some 102 := by
    decide +kernel
  have fence : pendingFence lateState 1 = some 101 := by decide +kernel
  rcases Option.bind_eq_some_iff.mp held with ⟨job, found, heldByJob⟩
  rcases Option.bind_eq_some_iff.mp replaced with ⟨row, foundRow, heldByRow⟩
  unfold pendingFence at fence
  split at fence
  · rename_i order pending
    refine (leases_fence (smallState_initial DEFAULT_DEPLOYMENT) whole).1 steps
      ⟨overtakenState, .act 2 (.committed 1000000 0), takenState⟩ middle
      ⟨lateState, .act 1 (.committed 2000 0), _⟩ [] ?_ 1 job 101 found heldByJob
      (fun later foundLater heldByLater => ?_) 1 (.committed 2000 0) order rfl pending fence
    · simp only [List.append_assoc, List.cons_append, List.nil_append]
      rfl
    · rw [foundRow] at foundLater
      cases foundLater
      rw [heldByRow] at heldByLater
      cases heldByLater
  · cases fence

end Claims

end Runs
end GitMate
