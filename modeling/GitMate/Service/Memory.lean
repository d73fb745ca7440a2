import GitMate.Service.Runs

namespace GitMate

open Relational Interleaving Machine

/-!
# What processes remember

A reply shows its process rows as they were at one moment.  Other processes
change them from then on, but never the columns that a creation fixes, so what
a process knows of these columns stays true.
-/

/-! ## Rows that were read -/

theorem Database.findJob_of_mem {db : Database} {job : AnalysisJob}
    (member : job ∈ db.analysisJobs.rows) : db.findJob job.id = some job :=
  Table.find?_eq_some_iff.mpr ⟨member, rfl⟩

/-- The row that a lookup by id has found. -/
theorem Database.findJob_self {db : Database} {id : JobId} {job : AnalysisJob}
    (found : db.findJob id = some job) : db.findJob job.id = some job :=
  Database.findJob_of_mem (Table.mem_of_find? found)

/-- A query shows rows of the table. -/
theorem Query.run_shown {db : Database} {now : Instant} {question : Query} {job : AnalysisJob}
    (shown : job ∈ question.shown (question.run db now)) : db.findJob job.id = some job := by
  cases question with
  | findDue dueAt republishAfterSeconds maxAttempts batchSize =>
      have sorted := List.mem_of_mem_take shown
      rw [List.mem_insertionSort] at sorted
      exact Database.findJob_of_mem (List.mem_of_mem_filter sorted)
  | findRunningByLease jobId leaseToken =>
      have found : db.findRunningByLease jobId leaseToken = some job := Option.mem_toList.mp shown
      exact Database.findJob_self (Database.findRunningByLease_spec found).1
  | findWorkerJob jobId =>
      rcases List.mem_map.mp shown with ⟨found, member, rfl⟩
      rcases Option.map_eq_some_iff.mp (Option.mem_toList.mp member) with ⟨row, there, rfl⟩
      exact Database.findJob_self there
  | requireClaimedJob jobId leaseToken =>
      rcases List.mem_map.mp shown with ⟨found, member, rfl⟩
      rcases Option.map_eq_some_iff.mp (Option.mem_toList.mp member) with ⟨row, there, rfl⟩
      exact Database.findJob_self (Database.findRunningByLease_spec there).1
  | findOwnedById userId jobId =>
      rcases List.mem_map.mp shown with ⟨found, member, rfl⟩
      rcases Option.map_eq_some_iff.mp (Option.mem_toList.mp member) with ⟨row, there, rfl⟩
      exact Database.findJob_self (Option.filter_eq_some_iff.mp there).1
  | findByIdempotencyKey userId idempotencyKey =>
      rcases List.mem_map.mp shown with ⟨found, member, rfl⟩
      rcases Option.map_eq_some_iff.mp (Option.mem_toList.mp member) with ⟨row, there, rfl⟩
      exact Database.findJob_of_mem (List.mem_of_find?_eq_some there)
  | findUser | getCreationRateLimitStatus | findOwnedRepositoryByGithubId
  | findRepositoryWithOwner => cases shown

/-- An acknowledged creation has inserted its row. -/
theorem World.exec_created {input : CreateAnalysisJobRecordInput} {choice : Choice}
    {world later : World} {job : AnalysisJob}
    (executed : World.exec (.command (.createExclusive input)) choice world =
      some (.ok job, later)) :
    (Exists fun environment => job = newJob input environment) ∧
      later.db.findJob job.id = some job := by
  rcases World.exec_command executed with ⟨_, _, environment, idle | ⟨committed, took⟩⟩
  · exact (idle.2 job rfl).elim
  · have inserted : job = newJob input environment := took job rfl
    generalize later.db = after at committed ⊢
    cases committed with
    | created found exclusive unused fresh =>
        rw [inserted]
        exact ⟨⟨environment, rfl⟩,
          Table.find?_eq_some_iff.mpr
            ⟨(@Table.mem_insert _ _ _ _ _ fresh _).mpr (Or.inr rfl), rfl⟩⟩

/-- The rows an operation shows are those of the table after it. -/
theorem World.exec_shown {op : Op} {choice : Choice} {world later : World}
    {outcome : Except AppError op.Reply}
    (executed : World.exec op choice world = some (outcome, later)) {job : AnalysisJob}
    (shown : job ∈ op.shown outcome) : later.db.findJob job.id = some job := by
  cases op with
  | query question =>
      cases outcome with
      | error error => cases shown
      | ok reply =>
          rcases World.exec_query executed with ⟨rfl, answered⟩
          rcases answered reply rfl with ⟨now, rfl⟩
          exact Query.run_shown shown
  | command order =>
      cases outcome with
      | error error => cases order <;> cases shown
      | ok reply =>
          cases order with
          | createExclusive input =>
              have same : job = reply := List.mem_singleton.mp shown
              subst same
              exact (World.exec_created executed).2
          | update | reserveWorkerTokens | terminateWorkerJob | saveAnalysisResult | settleFailure
          | upsertRepository => cases shown
  | currentDate | randomUuid | random | collectAttempt | analyze | publishMessage
  | getAvailableRepos | receiveMessages | deleteMessages => cases outcome <;> cases shown

/-! ## Rows over a run -/

def KnowsRows (world : World) (past : History Services) : Prop :=
  forall job, Seen past job ->
    Exists fun row => world.db.findJob job.id = some row ∧ row.identity = job.identity

def KnowsCreations (past : History Services) : Prop :=
  forall input job, Did past (.createExclusive input) job ->
    Exists fun environment => job = newJob input environment

section Runs

variable {deployment : Deployment} {first last : SystemState deployment}
  {steps : List (Transition (gitMate deployment))}

/-- One step keeps every row with its fixed columns. -/
theorem step_row {state after : SystemState deployment} {label : SystemLabel deployment}
    (stepped : state.step label = some after) {id : JobId} {job : AnalysisJob}
    (found : state.db.findJob id = some job) :
    Exists fun later => after.db.findJob id = some later ∧ later.identity = job.identity :=
  row_identity (Execution.start.next stepped) found

/-- The answer to a query is what it finds in some earlier state of the run. -/
theorem learned_at (initial : first.Initial) (run : Execution first steps last) {index : Nat}
    {question : Query} {reply : question.Reply}
    (read : Learned (last.historyAt index) question reply) :
    Exists fun earlier => Exists fun state => Exists fun rest => Exists fun now =>
      Execution first earlier state ∧ Execution state rest last ∧
        reply = question.run state.db now := by
  rcases run.step_of_event initial.processes read with
    ⟨step, member, choice, resume, acts, here, executed⟩
  rcases List.append_of_mem member with ⟨earlier, rest, rfl⟩
  rcases run.around with ⟨leading, stepped, following⟩
  rcases (World.exec_query executed).2 reply rfl with ⟨now, answered⟩
  exact ⟨earlier, step.before, _, now, leading, (Execution.start.next stepped).append following,
    answered⟩

/-- The rows a process has seen still exist, with the same fixed columns. -/
theorem reachable_seen (initial : first.Initial) (run : Execution first steps last) :
    last.Remembers KnowsRows := by
  have initially : first.Remembers KnowsRows := by
    intro index job seen
    rw [State.historyAt, initial.processes] at seen
    rcases seen with ⟨event, member, _⟩
    cases member
  refine run.always (fun state => State.Remembers KnowsRows state) initially
    fun earlier state label after reached remembers stepped => ?_
  have lasts : forall past, KnowsRows state.world past -> KnowsRows after.world past := by
    intro past known job seen
    rcases known job seen with ⟨row, found, same⟩
    rcases step_row stepped found with ⟨later, there, kept⟩
    exact ⟨later, there, kept.trans same⟩
  refine remembers.step stepped
    (fun index choice op resume past outcome here executed known job seen => ?_) lasts
  rcases Seen.append_iff.mp seen with old | now
  · exact lasts past known job old
  · exact ⟨job, World.exec_shown executed now, rfl⟩

/-- A row that a process has seen before it succeeded was created in the run. -/
theorem seen_new (initial : first.Initial) (run : Execution first steps last) {index : Nat}
    {job : AnalysisJob} (seen : Seen (last.historyAt index) job)
    (unfinished : job.status ≠ .succeeded) : first.db.findJob job.id = none := by
  rcases seen with ⟨event, happened, shown⟩
  rcases run.step_of_event initial.processes happened with
    ⟨step, member, choice, resume, acts, here, executed⟩
  rcases List.append_of_mem member with ⟨earlier, rest, rfl⟩
  rcases run.around with ⟨leading, stepped, following⟩
  have found : step.after.db.findJob job.id = some job := World.exec_shown executed shown
  cases before : first.db.findJob job.id with
  | none => rfl
  | some old =>
      have succeeded := (initial.db.legacy old (Table.mem_of_find? before)).2.1
      have ended : old.isActive = false := by
        rw [AnalysisJob.isActive, succeeded]
        rfl
      have same := row_final (leading.next stepped) before ended
      rw [found] at same
      cases same
      exact absurd succeeded unfinished

/-- What a process has created is the row of its input. -/
theorem reachable_created (initial : first.Initial) (run : Execution first steps last) :
    last.Remembers fun _ => KnowsCreations := by
  have initially : first.Remembers fun _ => KnowsCreations := by
    intro index input job did
    rw [State.historyAt, initial.processes] at did
    cases did
  refine run.always (fun state => State.Remembers (fun _ => KnowsCreations) state) initially
    fun earlier state label after reached remembers stepped => ?_
  refine remembers.step stepped
    (fun index choice op resume past outcome here executed known input job did => ?_)
    (fun past known => known)
  rcases List.mem_append.mp did with old | now
  · exact known input job old
  · cases List.mem_singleton.mp now
    exact (World.exec_created executed).1

/-- Only a synchronous job is started without a claim. -/
theorem start_isSync (initial : first.Initial) (run : Execution first steps last) {index : Nat}
    {jobId : JobId} {leaseToken : Uuid} {leaseExpiresAt startedAt : Instant} {job : AnalysisJob}
    (permitted : JobUpdate.Permitted deployment (last.historyAt index)
      (.start jobId leaseToken leaseExpiresAt startedAt))
    (found : last.db.findJob jobId = some job) : job.isSync = true := by
  rcases permitted with ⟨_, input, created, did, named, sync⟩
  rcases reachable_created initial run index input created did with ⟨environment, inserted⟩
  rcases reachable_seen initial run index created (.inserted did) with ⟨row, there, same⟩
  rw [named] at there
  cases found.symm.trans there
  have columns : job.idempotencyKey = created.idempotencyKey :=
    congrArg JobIdentity.idempotencyKey same
  have key : job.idempotencyKey = input.idempotencyKey := by
    rw [columns, inserted]
    rfl
  unfold AnalysisJob.isSync
  rw [key]
  exact sync

/-- A job that was accepted over the API runs only under claims, each of which
it counts. -/
theorem reachable_attempted (initial : first.Initial) (run : Execution first steps last)
    {id : JobId} {job : AnalysisJob} (found : last.db.findJob id = some job)
    (queued : job.isSync = false) (running : job.status = .running) : 0 < job.attemptCount := by
  refine run.always
    (fun state => forall job, state.db.findJob id = some job -> job.isSync = false ->
      job.status = .running -> 0 < job.attemptCount)
    (fun job found _ running => ?_) (fun earlier state label after reached held stepped => ?_)
    job found queued running
  · rw [(initial.db.legacy job (Table.mem_of_find? found)).2.1] at running
    cases running
  · intro later found queued running
    cases ledgerStep initial reached stepped with
    | quiet same => exact held later (same ▸ found) queued running
    | @performed index _ _ order environment past _ _ pending _ _ _ permitted _ _ committed =>
        have fate := committed.evolves id
        rw [found] at fate
        generalize before : state.db.findJob id = old at fate
        cases fate with
        | inserted => cases running
        | @evolved job _ step =>
            have sameKey : later.isSync = job.isSync :=
              congrArg (fun columns : JobIdentity => startsWith columns.idempotencyKey "sync:") step.identity
            have was := held job before (sameKey ▸ queued)
            cases step with
            | idle => exact was running
            | @updated change _ named guarded =>
                cases change with
                | start jobId leaseToken leaseExpiresAt startedAt =>
                    have sameId : id = jobId := (Table.key_of_find? before).symm.trans named
                    subst sameId
                    have here : state.historyAt index = past := State.historyAt_of_getElem? pending
                    have allowed : JobUpdate.Permitted deployment (state.historyAt index)
                        (.start id leaseToken leaseExpiresAt startedAt) := here ▸ permitted
                    have isSync := start_isSync initial reached allowed before
                    rw [← sameKey, queued] at isSync
                    cases isSync
                | claimQueued | takeOverExpiredLease => exact Nat.succ_pos _
                | releaseForRetry => cases running
                | recordFailure input =>
                    simp only [JobUpdate.row, GitMate.recordFailure] at running ⊢
                    split at running
                    · cases running
                    · rename_i continues
                      rw [if_neg continues]
                      exact was running
                | recordProviderCharge | takeOverExpiredBilledLease | updateProgress
                | claimAttempt | markPublished => exact was running
            | reserved named valid guarded => exact was running
            | recoveredUnreserved | recoveredReserved | terminated | saved | settled =>
                cases running

end Runs
end GitMate
