import GitMate.Statements.Writes
import GitMate.Service.Runs

namespace GitMate

open Relational Interleaving Dialect

/-!
# One active job per repository

A creation looks for an active job under the lock of the repository and
inserts its own in the same transaction, while workers and publishers change
the status of jobs without any lock.  What the creation found stays true until
it commits: only the holder of the lock inserts jobs of the repository, and
nobody makes a finished job active again.
-/

variable {digest : String -> Int}

/-- No two active jobs belong to one repository. -/
def SingleActive (db : Database) : Prop :=
  forall one other left right, db.findJob one = some left -> db.findJob other = some right ->
    left.isActive = true -> right.isActive = true -> left.repositoryId = right.repositoryId ->
    one = other

/-- What the search for an active job told stays true.  Every active job of
the repository that the transaction sees is its own. -/
structure ActiveFacts (entry : TransactionEntry) (committed : Database)
    (transaction : OpenTransaction Database LockId Instant) (id : Nat) (past : Past digest) :
    Prop extends JobWrites entry committed transaction id past where
  vacant : forall repositoryId, Answered past id (.findActiveJob repositoryId) none ->
    Acquired past id (.repository repositoryId) ∧ forall jobId row,
      (committed.overlay transaction.written).findJob jobId = some row -> row.isActive = true ->
      row.repositoryId = repositoryId -> committed.findJob jobId = none

namespace ActiveFacts

variable {entry : TransactionEntry} {committed : Database}
  {transaction : OpenTransaction Database LockId Instant} {id : Nat} {past : Past digest}

/-- An event that is not an answer changes nothing. -/
theorem more {event : Event (statements digest).interface}
    {next : OpenTransaction Database LockId Instant}
    (facts : ActiveFacts entry committed transaction id past)
    (writes : JobWrites entry committed next id (past ++ [event]))
    (same : next.written = transaction.written)
    (unanswered : forall asked reply, event ≠ ⟨.statement id asked, .ok reply⟩) :
    ActiveFacts entry committed next id (past ++ [event]) := by
  refine ⟨writes, fun repositoryId answered => ?_⟩
  rcases answered_append.mp answered with before | now
  · rw [same]
    exact (facts.vacant repositoryId before).imp_left
      fun acquired => acquired_append.mpr (Or.inl acquired)
  · exact absurd now (unanswered _ _)

/-- A statement makes no job of a committed row active. -/
theorem answered {asked : Statement} {reply : asked.Reply} {surroundings : StatementEnvironment}
    {after : Database} (facts : ActiveFacts entry committed transaction id past)
    (issues : entry.Issues past id asked)
    (ran : asked.run surroundings (committed.overlay transaction.written) = .ok (reply, after))
    {next : OpenTransaction Database LockId Instant}
    (writes : JobWrites entry committed next id (past ++ [⟨.statement id asked, .ok reply⟩]))
    (wrote : next.written = transaction.written.overlay
      ((committed.overlay transaction.written).changes after)) :
    ActiveFacts entry committed next id (past ++ [⟨.statement id asked, .ok reply⟩]) := by
  have written := fun jobId => (Statement.effect ran).written_findJob jobId
  rw [← wrote] at written
  refine ⟨writes, fun repositoryId answered => ?_⟩
  rcases answered_append.mp answered with before | now
  · rcases facts.vacant repositoryId before with ⟨acquired, alone⟩
    refine ⟨acquired_append.mpr (Or.inl acquired), fun jobId row found active named => ?_⟩
    rcases written jobId with same | ⟨old, later, there, rewritten, rewrites⟩ |
      ⟨input, _, absent, _⟩
    · rw [Database.findJob_overlay, same, ← Database.findJob_overlay] at found
      exact alone jobId row found active named
    · rw [Database.findJob_overlay, rewritten, Option.some_or] at found
      cases found
      have repository := congrArg JobIdentity.repositoryId rewrites.identity
      exact alone jobId old there rewrites.active (repository.symm.trans named)
    · rw [Database.findJob_overlay] at absent
      exact (Option.or_eq_none_iff.mp absent).2
  · cases now
    refine ⟨acquired_append.mpr (Or.inl issues.2.1), fun jobId row found active named => ?_⟩
    simp only [Statement.run, Except.ok.injEq, Prod.mk.injEq] at ran
    have seen : (committed.overlay transaction.written).findJob jobId = some row := by
      rcases written jobId with same | ⟨_, _, _, _, rewrites⟩ | ⟨_, inserts, _⟩
      · rwa [Database.findJob_overlay, same, ← Database.findJob_overlay] at found
      · cases rewrites with
        | updated writes => cases writes
      · cases inserts
    have missed := List.find?_eq_none.mp ran.1 row (Table.mem_of_find? seen)
    rw [active, named, beq_self_eq_true] at missed
    exact absurd rfl missed

/-- Others neither insert jobs of the repository nor revive finished ones. -/
theorem others {rival : OpenTransaction Database LockId Instant} {committing : TransactionEntry}
    {another : Nat} {seen : Past digest}
    (facts : ActiveFacts entry committed transaction id past)
    (theirs : ActiveFacts committing committed rival another seen)
    (locks : forall lock, lock ∈ transaction.locks -> lock ∉ rival.locks)
    (apart : transaction.written.separate rival.written = true) :
    ActiveFacts entry (committed.overlay rival.written) transaction id past := by
  refine ⟨facts.toJobWrites.others apart, fun repositoryId answered => ?_⟩
  rcases facts.vacant repositoryId answered with ⟨acquired, alone⟩
  refine ⟨acquired, fun jobId row found active named => ?_⟩
  cases own : transaction.written.findJob jobId with
  | some version =>
      rw [JobWrites.unmoved apart own]
      rw [Database.findJob_overlay, own, Option.some_or] at found
      cases found
      refine alone jobId row ?_ active named
      rw [Database.findJob_overlay, own, Option.some_or]
  | none =>
      -- The row is committed now, by the rival or before.
      rw [Database.findJob_overlay, own, Option.none_or] at found
      have unseen : forall old, committed.findJob jobId = some old -> old.isActive = true ->
          old.repositoryId ≠ repositoryId := by
        intro old there wasActive same
        have view : (committed.overlay transaction.written).findJob jobId = some old := by
          rw [Database.findJob_overlay, own, Option.none_or, there]
        cases (alone jobId old view wasActive same).symm.trans there
      cases version : rival.written.findJob jobId with
      | none =>
          rw [Database.findJob_overlay, version, Option.none_or] at found
          exact absurd named (unseen row found active)
      | some theirRow =>
          rw [Database.findJob_overlay, version, Option.some_or] at found
          cases found
          cases there : committed.findJob jobId with
          | some old =>
              have changes := theirs.kept jobId row old version there
              have repository := congrArg JobIdentity.repositoryId changes.identity
              exact absurd (repository.symm.trans named) (unseen old there changes.active)
          | none =>
              rcases theirs.created jobId row version there with ⟨input, creates⟩
              have locked := (theirs.vacant _ creates.vacant).1
              rw [← creates.repositoryId, named] at locked
              exact absurd (theirs.held _ locked) (locks _ (facts.held _ acquired))

/-- A commit adds at most one active job of a repository, and none beside
another. -/
theorem commits (facts : ActiveFacts entry committed transaction id past)
    (single : SingleActive committed) :
    SingleActive (committed.overlay transaction.written) := by
  -- An active row is a new one or continues an active one.
  have origin : forall {jobId : JobId} {row : AnalysisJob},
      (committed.overlay transaction.written).findJob jobId = some row -> row.isActive = true ->
      (Exists fun old => committed.findJob jobId = some old ∧ old.isActive = true ∧
        old.repositoryId = row.repositoryId) ∨
      committed.findJob jobId = none ∧ transaction.written.findJob jobId = some row := by
    intro jobId row found active
    cases there : committed.findJob jobId with
    | none =>
        rw [Database.findJob_overlay, there, Option.or_none] at found
        exact Or.inr ⟨rfl, found⟩
    | some old =>
        refine Or.inl ⟨old, rfl, ?_⟩
        rcases facts.view_kept found there with rfl | changes
        · exact ⟨active, rfl⟩
        · exact ⟨changes.active, (congrArg JobIdentity.repositoryId changes.identity).symm⟩
  have alone : forall {one other : JobId} {left right old : AnalysisJob},
      committed.findJob one = none -> transaction.written.findJob one = some left ->
      (committed.overlay transaction.written).findJob other = some right ->
      right.isActive = true -> right.repositoryId = left.repositoryId ->
      committed.findJob other ≠ some old := by
    intro one other left right old new found seen active same there
    rcases facts.created one left found new with ⟨input, creates⟩
    have vacant := (facts.vacant _ creates.vacant).2 other right seen active
      (same.trans creates.repositoryId)
    cases vacant.symm.trans there
  intro one other left right leftFound rightFound leftActive rightActive same
  rcases origin leftFound leftActive with ⟨leftOld, leftThere, leftWas, leftNamed⟩ |
    ⟨leftNew, leftWritten⟩
  · rcases origin rightFound rightActive with ⟨rightOld, rightThere, rightWas, rightNamed⟩ |
      ⟨rightNew, rightWritten⟩
    · exact single one other leftOld rightOld leftThere rightThere leftWas rightWas
        (leftNamed.trans (same.trans rightNamed.symm))
    · exact absurd leftThere (alone rightNew rightWritten leftFound leftActive same)
  · rcases origin rightFound rightActive with ⟨rightOld, rightThere, _, _⟩ |
      ⟨rightNew, rightWritten⟩
    · exact absurd rightThere (alone leftNew leftWritten rightFound rightActive same.symm)
    · exact facts.single one other left right leftWritten leftNew rightWritten rightNew

theorem rule : (statements digest).TransactionRule (TransactionEntry.conduct digest)
    SingleActive ActiveFacts where
  owning permitted concerns := Permits.owning permitted concerns
  begun _ unseen := by
    refine ⟨JobWrites.begun unseen, fun repositoryId answered => ?_⟩
    rcases answered_append.mp answered with before | same
    · exact absurd rfl (unseen _ before).1
    · cases same
  acquired _ facts permitted := facts.more (JobWrites.rule.acquired trivial facts.toJobWrites
    permitted) rfl fun _ _ same => by cases same
  answered _ facts permitted admitted ran := facts.answered permitted.2 ran
    (JobWrites.rule.answered trivial facts.toJobWrites permitted admitted ran) rfl
  idle facts permitted silent := by
    refine facts.more (JobWrites.rule.idle facts.toJobWrites permitted silent) rfl
      fun asked reply same => ?_
    subst same
    exact absurd rfl silent
  others _ facts theirs _ locks apart := facts.others theirs locks apart
  commits single facts _ := facts.commits single

end ActiveFacts

/-! ## Rows that go on -/

/-- Every job row of before is still there with its fixed columns, and a
finished one has not changed. -/
def JobsContinue (before after : Database) : Prop :=
  forall jobId old, before.findJob jobId = some old -> Exists fun row =>
    after.findJob jobId = some row ∧ row.identity = old.identity ∧
      (old.isActive = false -> row = old)

theorem JobsContinue.refl (db : Database) : JobsContinue db db :=
  fun _ old found => ⟨old, found, rfl, fun _ => rfl⟩

theorem JobsContinue.trans {one two three : Database} (first : JobsContinue one two)
    (second : JobsContinue two three) : JobsContinue one three := by
  intro jobId old found
  rcases first jobId old found with ⟨middle, there, named, final⟩
  rcases second jobId middle there with ⟨row, here, sameNamed, stillFinal⟩
  refine ⟨row, here, sameNamed.trans named, fun finished => ?_⟩
  have same := final finished
  subst same
  exact stillFinal finished

/-- A commit continues the rows that are committed. -/
theorem JobWrites.continues {entry : TransactionEntry} {committed : Database}
    {transaction : OpenTransaction Database LockId Instant} {id : Nat} {past : Past digest}
    (writes : JobWrites entry committed transaction id past) :
    JobsContinue committed (committed.overlay transaction.written) := by
  intro jobId old there
  cases version : transaction.written.findJob jobId with
  | none => exact ⟨old, by rw [Database.findJob_overlay, version, Option.none_or, there], rfl,
      fun _ => rfl⟩
  | some row =>
      have changes := writes.kept jobId row old version there
      refine ⟨row, by rw [Database.findJob_overlay, version, Option.some_or], changes.identity,
        fun finished => ?_⟩
      cases finished.symm.trans changes.active

/-! ## Every run -/

section Runs

variable {first last : (isolated digest).State} {steps : List (isolated digest).Transition}
  (run : Machine.Execution first steps last) (idle : first.processes = [])
  (closed : (storeOf first).transactions = [])

include run idle closed

/-- However creations, recoveries and the transactions of the workers
interleave, a repository never has two active jobs. -/
theorem one_active_job (initially : SingleActive (storeOf first).committed) :
    SingleActive (storeOf last).committed :=
  (Execution.sound ActiveFacts.rule run TransactionEntry.program_obeys (fun _ _ _ => trivial)
    idle closed initially).keeps

/-- A creation that changes a job of before fails it, and only when the row
that is committed at that very moment is stale by the clock that the creation
has read under the lock of the repository. -/
theorem recovery_spares_live_leases {step : (isolated digest).Transition} (member : step ∈ steps)
    {entry : TransactionEntry} (commits : committedEntry steps step = some entry)
    (creates : entry.creates = true) {jobId : JobId} {old row : AnalysisJob}
    (there : (storeOf step.before).committed.findJob jobId = some old)
    (changed : (storeOf step.after).committed.findJob jobId = some row) :
    row = old ∨ Exists fun index => Exists fun id => Exists fun completedAt =>
      committer step = some index ∧
      ReadUnder (step.before.historyAt index) id (.repository old.repositoryId) completedAt ∧
      recoverRow old.repositoryId completedAt old = row ∧ row.status = .failed ∧
      (old.status = .queued ∧ old.isSync = true ∨
        old.status = .running ∧ staleLease completedAt old = true) := by
  rcases Execution.commits_step JobWrites.rule run TransactionEntry.program_obeys
    (fun _ _ _ => trivial) idle closed trivial member with
    ⟨quiet, _⟩ | ⟨index, committing, transaction, id, committed, done⟩
  · rw [committedEntry_none quiet] at commits
    cases commits
  · cases (committedEntry_some committed (run.startedFor_eq done.spawned)).symm.trans commits
    rw [done.changed] at changed
    rcases done.fact.view_kept changed there with same | changes
    · exact Or.inl same
    · refine Or.inr ⟨index, id, ?_⟩
      cases changes with
      | recoveredUnreserved _ read stale =>
          refine ⟨_, committed, read, ?_, rfl, (isStaleUnreserved_spec stale).2.2.2⟩
          rw [recoverRow, if_pos stale]
      | @recoveredReserved completedAt _ read stale =>
          have spec := isStaleReserved_spec stale
          have reserved : isStaleUnreserved old.repositoryId completedAt old ≠ true := by
            intro unreserved
            have none := (isStaleUnreserved_spec unreserved).2.1
            have some := spec.2.2.1
            rw [none] at some
            cases some
          refine ⟨completedAt, committed, read, ?_, rfl, Or.inr ⟨spec.2.1, spec.2.2.2.2⟩⟩
          rw [recoverRow, if_neg reserved, if_pos stale]
      | updated settles => cases creates.symm.trans settles

/-- From any step of a run to its end, every job row keeps its fixed columns,
and a finished job never changes again. -/
theorem finished_jobs_final {step : (isolated digest).Transition} (member : step ∈ steps) :
    JobsContinue (storeOf step.before).committed (storeOf last).committed := by
  have each : forall step, step ∈ steps ->
      JobsContinue (storeOf step.before).committed (storeOf step.after).committed := by
    intro step member
    rcases Execution.commits_step JobWrites.rule run TransactionEntry.program_obeys
      (fun _ _ _ => trivial) idle closed trivial member with
      ⟨_, same⟩ | ⟨index, entry, transaction, id, _, done⟩
    · rw [same]
      exact .refl _
    · rw [done.changed]
      exact done.fact.continues
  rcases List.append_of_mem member with ⟨earlier, rest, rfl⟩
  refine (each step member).trans ?_
  exact run.around.2.2.related
    (fun before after : (isolated digest).State =>
      JobsContinue (storeOf before).committed (storeOf after).committed)
    (fun _ => .refl _) (fun first second => first.trans second)
    fun later there => each later (List.mem_append_right _ (List.mem_cons_of_mem _ there))

end Runs

/-! ## Two creations at once

The second creation of one repository is refused.  In a second run a creation
finds a job whose lease has run out. -/

def creationState (jobs : List AnalysisJob) (distinct : (jobs.map AnalysisJob.id).Nodup) :
    (isolated fun _ => 0).State :=
  ⟨⟨{ smallDatabase with analysisJobs := ⟨jobs, distinct⟩ }, []⟩, []⟩

/-- A statement that is answered one second after the epoch. -/
def repliedChoice (generated : Nat) : (statements fun _ => 0).Choice :=
  .answered ⟨⟨1000, 1000, generated⟩, []⟩

/-- A creation from its first lock up to the search for an active job. -/
def searchSteps (index : Nat) : List (isolated fun _ => 0).Label :=
  [.act index .granted, .act index (repliedChoice 0), .act index .granted,
    .act index (repliedChoice 0), .act index (repliedChoice 0), .act index .granted,
    .act index (.read 1000), .act index (repliedChoice 0), .act index (repliedChoice 0),
    .act index (repliedChoice 0)]

def racingCreations : List (isolated fun _ => 0).Label :=
  [.spawn (.create 1 "R1" "key-1"), .spawn (.create 1 "R1" "key-2"), .act 0 (.begun 1000),
    .act 1 (.begun 1000)] ++ searchSteps 0 ++
    [.act 0 (repliedChoice 1), .act 0 (repliedChoice 0), .act 0 .granted] ++ searchSteps 1 ++
    [.act 1 .granted]

theorem one_active_job_racing :
    SingleActive (storeOf ((creationState [] (by decide)).after racingCreations)).committed := by
  have run := @Machine.State.trace_execution _ _ (creationState [] (by decide)) racingCreations
    (by decide +kernel)
  refine one_active_job run rfl rfl ?_
  intro one other left right found
  cases found

/-- A job whose reservation was never settled and whose lease has run out. -/
def expiredJob : AnalysisJob :=
  { newJob ⟨2, 1, "key-0", .api 2 (.create "R1"), ⟨ANALYSIS_MODEL_VERSION, ANALYSIS_PROMPT_VERSION⟩,
      none, none⟩ ⟨0, 0, 7⟩ with
    status := .running
    leaseToken := some 101
    leaseExpiresAt := some 900
    startedAt := some 0
    reservedTokens := some 1000 }

def recoveringScript : List (isolated fun _ => 0).Label :=
  [.spawn (.create 1 "R1" "key-1"), .act 0 (.begun 1000)] ++ searchSteps 0 ++
    [.act 0 (repliedChoice 1), .act 0 (repliedChoice 0)]

/-- The state before the creation commits. -/
def recoveringState : (isolated fun _ => 0).State :=
  (creationState [expiredJob] (by decide)).after recoveringScript

/-- The commit of the creation. -/
def recoveringCommit : (isolated fun _ => 0).Transition :=
  ⟨recoveringState, .act 0 .granted, recoveringState.after [.act 0 .granted]⟩

theorem recovery_spares_live_leases_expired :
    Exists fun index => Exists fun id => Exists fun completedAt =>
      ReadUnder (recoveringState.historyAt index) id (.repository 1) completedAt ∧
      recoverRow 1 completedAt expiredJob = failStaleReserved 1000 expiredJob ∧
      staleLease completedAt expiredJob = true := by
  have through := @Machine.State.trace_execution _ _ (creationState [expiredJob] (by decide))
    recoveringScript (by decide +kernel)
  have committing : recoveringState.step (.act 0 .granted) =
      some (recoveringState.after [.act 0 .granted]) := Machine.State.after_step (by decide +kernel)
  have run := through.next committing
  have chosen : (committedEntry ((creationState [expiredJob] (by decide)).trace recoveringScript ++
      [recoveringCommit]) recoveringCommit).any TransactionEntry.creates = true := by
    decide +kernel
  rcases (Option.any_eq_true _ _).mp chosen with ⟨entry, commits, creates⟩
  have there : (storeOf recoveringCommit.before).committed.findJob 7 = some expiredJob := by
    decide +kernel
  have changed : (storeOf recoveringCommit.after).committed.findJob 7 =
      some (failStaleReserved 1000 expiredJob) := by decide +kernel
  rcases recovery_spares_live_leases run rfl rfl (List.mem_append_right _ List.mem_cons_self)
    commits creates there changed with same | ⟨index, id, completedAt, _, read, recovered, _, stale⟩
  · exact absurd same (by decide +kernel)
  · refine ⟨index, id, completedAt, read, recovered, ?_⟩
    rcases stale with ⟨queued, _⟩ | ⟨_, expired⟩
    · cases queued
    · exact expired

theorem finished_jobs_final_racing :
    JobsContinue (creationState [failStaleReserved 1000 expiredJob] (by decide)).world.committed
      (storeOf ((creationState [failStaleReserved 1000 expiredJob] (by decide)).after
        racingCreations)).committed := by
  have run := @Machine.State.trace_execution _ _
    (creationState [failStaleReserved 1000 expiredJob] (by decide)) racingCreations
    (by decide +kernel)
  exact finished_jobs_final run rfl rfl List.mem_cons_self

end GitMate
