import GitMate.Service.System
import GitMate.Service.WorkerObedience

namespace GitMate

open Relational Interleaving Machine

/-!
# Runs of the composed system

A run starts with a database as an administrator would find it before the job
ledger is used: its only job rows are those backfilled for old reports.  Every
process of every run keeps the discipline of the services, so each step that
changes the database is a sound and permitted command that took effect.
-/

/-! ## Starting points -/

/-- The rows and reports that a run may start with. -/
structure Database.Initial (db : Database) : Prop where
  legacy : forall job, job ∈ db.analysisJobs -> job.isLegacyReport = true ∧
    job.status = .succeeded ∧ job.reservedTokens = none ∧ job.leaseToken = none ∧
      job.leaseExpiresAt = none
  linked : forall report, report ∈ db.analysisReports -> forall jobId,
    report.jobId = some jobId -> Exists fun job => db.findJob jobId = some job

/-- A run starts without processes and with an empty queue. -/
structure SystemState.Initial {deployment : Deployment} (state : SystemState deployment) :
    Prop where
  processes : state.processes = []
  messages : state.queue.messages = []
  accepted : state.queue.accepted = []
  db : state.db.Initial

theorem Database.Initial.wellFormed {db : Database} (initial : db.Initial) {job : AnalysisJob}
    (member : job ∈ db.analysisJobs) : job.WellFormed := by
  rcases initial.legacy job member with ⟨legacy, succeeded, unreserved, token, expiry⟩
  exact {
    reserved := fun tokens reserved => by rw [unreserved] at reserved; cases reserved
    unleased := fun _ => ⟨token, expiry⟩
    leased := fun running => by rw [succeeded] at running; cases running
    unsettled := fun active => by
      rw [AnalysisJob.isActive_iff, succeeded] at active
      rcases active with queued | running <;> contradiction
    accounted := fun _ recorded => by rw [legacy] at recorded; cases recorded }

/-! ## A small world

Two users share one repository, which the first of them owns.  The scripts
below drive one process each through a whole procedure. -/

def smallDatabase : Database where
  users := ⟨[⟨1, "alice", 1000000⟩, ⟨2, "bob", 1000000⟩], by decide⟩
  repositories := ⟨[⟨1, "R1", "team/project", none, 1⟩], by decide⟩
  analysisJobs := Table.empty
  analysisReports := Table.empty
  userStats := Table.empty

/-- The small world before anything happens, under any deployment. -/
def smallState (deployment : Deployment) : SystemState deployment where
  world := ⟨smallDatabase, ⟨[], [], [], 0, 0⟩, []⟩
  processes := []

theorem smallState_initial (deployment : Deployment) : (smallState deployment).Initial where
  processes := rfl
  messages := rfl
  accepted := rfl
  db := {
    legacy := fun _ member => absurd member (Table.not_mem_empty _)
    linked := fun _ member => absurd member (Table.not_mem_empty _) }

/-- A transaction that commits undisturbed. -/
def Choice.committed (now : Instant) (generated : Nat) : Choice :=
  .commit ⟨⟨now, now, generated⟩, none, .acknowledged⟩

/-- Let one process perform its next operations. -/
def perform {deployment : Deployment} (index : Nat) (choices : List Choice) :
    List (SystemLabel deployment) :=
  choices.map fun choice => .act index choice

/-- `create` of the first user, which inserts the job with the given id, up to
its publish attempt. -/
def createChoices (now : Instant) (jobId : JobId) (traceId : Uuid) : List Choice :=
  [.answer now, .answer now, .answer now, .committed now jobId, .answer now, .date now,
    .uuid traceId]

/-- A publish attempt whose send is accepted. -/
def publishChoices (now : Instant) : List Choice :=
  [.committed now 0, .send .accepted, .committed now 0]

/-- A publish attempt whose send fails with the given result. -/
def failPublishChoices (now : Instant) (result : SendResult) : List Choice :=
  [.committed now 0, .send result, .random 0, .committed now 0]

/-- A worker's claim of the job of a message, up to its collection. -/
def claimChoices (now : Instant) (messageId : Nat) (leaseToken : Uuid) : List Choice :=
  [.received [messageId], .date now, .uuid leaseToken, .answer now, .committed now 0, .answer now,
    .answer now]

/-- A pull request as a collection may find it. -/
def somePullRequest : PullRequest :=
  ⟨1, "Title", "Body", "alice", "1970-01-01T00:00:00Z", "https://github.com/team/project/pull/1",
    []⟩

/-- A collection that finds one pull request on one page. -/
def foundChoice : Choice := .collection ⟨0, .ok [somePullRequest]⟩

def someResponse : LlmAnalysisResponse := ⟨"request-1", ⟨1, 1, 1, 1, 1, 1, 1, 1⟩, ⟨600, 400, 1000⟩⟩

/-- The analysis of collected data, up to the success transaction, which
inserts the report with the given id. -/
def analyzeChoices (now : Instant) (reportId : Nat) : List Choice :=
  [.answer now, .answer now, .committed now 0, .date now, .committed now 0,
    .response someResponse, .committed now 0, .date now, .committed now 0, .committed now reportId]

/-- The whole life of a job: it is created, published, claimed and analyzed. -/
def successScript {deployment : Deployment} : List (SystemLabel deployment) :=
  [.spawn (.create 1 "R1" "key-1")] ++ perform 0 (createChoices 1000 1 100 ++ publishChoices 1000) ++
    [.spawn .worker] ++ perform 1 (claimChoices 2000 0 101 ++
      [foundChoice, .date 2000, .committed 2000 0] ++ analyzeChoices 2000 1 ++ [.deleted])

/-! ## Every process keeps the discipline -/

theorem Entry.program_keeps (deployment : Deployment) (entry : Entry) :
    Keeps deployment (fun _ _ => True) [] (entry.program deployment) := by
  cases entry with
  | create userId githubRepoId idempotencyKey => exact create_keeps userId githubRepoId _
  | retry userId sourceJobId idempotencyKey => exact retry_keeps userId sourceJobId _
  | reconcile => exact runOnce_keeps.bind (fun _ _ _ _ => trivial) (fun _ _ _ _ => trivial)
  | worker => exact AnalysisWorkerService.handleBatch_keeps
  | sync githubRepoId userId => exact syncRepository_keeps githubRepoId userId
  | listRepositories userId => exact getRepositories_keeps userId

theorem Database.findWorkerJob_id {db : Database} {jobId : JobId} {found : Option AnalysisJob}
    (names : forall job, found = some job -> job.id = jobId) {job : AnalysisWorkerJob}
    (read : found.map db.workerJob = some job) : job.job.id = jobId := by
  rcases Option.map_eq_some_iff.mp read with ⟨row, same, rfl⟩
  exact names row same

theorem Database.findRunningByLease_spec {db : Database} {jobId : JobId} {leaseToken : Uuid}
    {job : AnalysisJob} (found : db.findRunningByLease jobId leaseToken = some job) :
    db.findJob jobId = some job ∧ job.status = .running ∧ job.leaseToken = some leaseToken := by
  rcases Option.filter_eq_some_iff.mp found with ⟨row, held⟩
  simp only [Bool.and_eq_true, beq_iff_eq] at held
  exact ⟨row, held⟩

theorem Query.run_credible (db : Database) (now : Instant) (question : Query) :
    question.Credible (question.run db now) := by
  cases question with
  | findWorkerJob jobId =>
      exact fun job read =>
        Database.findWorkerJob_id (fun row found => Table.key_of_find? found) read
  | requireClaimedJob jobId leaseToken =>
      exact fun job read => Database.findWorkerJob_id
        (fun row found => Table.key_of_find? (Database.findRunningByLease_spec found).1) read
  | findRunningByLease jobId leaseToken =>
      exact fun job found => Table.key_of_find? (Database.findRunningByLease_spec found).1
  | findUser | findDue | findOwnedById | findByIdempotencyKey
  | getCreationRateLimitStatus | findOwnedRepositoryByGithubId | findRepositoryWithOwner => trivial

/-- The world only produces credible outcomes. -/
theorem World.exec_credible {op : Op} {choice : Choice} {world later : World}
    {outcome : Except AppError op.Reply}
    (executed : World.exec op choice world = some (outcome, later)) : op.Credible outcome := by
  cases op with
  | query question =>
      intro reply answered
      rcases (World.exec_query executed).2 reply answered with ⟨now, rfl⟩
      exact Query.run_credible world.db now question
  | randomUuid =>
      rcases World.exec_randomUuid executed with ⟨uuid, _, same, _⟩
      exact ⟨uuid, same⟩
  | receiveMessages =>
      change world.receive choice = _ at executed
      cases choice with
      | received messageIds =>
          rcases Option.map_eq_some_iff.mp executed with ⟨delivery, _, same⟩
          cases same
          exact ⟨_, rfl⟩
      | _ => cases executed
  | currentDate =>
      rcases Option.map_eq_some_iff.mp executed with ⟨observed, seen, same⟩
      cases same
      cases choice with
      | date now => exact ⟨now, (Option.some.inj seen).symm⟩
      | _ => cases seen
  | random =>
      rcases Option.map_eq_some_iff.mp executed with ⟨observed, seen, same⟩
      cases same
      cases choice with
      | random value =>
          simp only [World.observe] at seen
          split at seen
          · rename_i range
            exact ⟨value, (Option.some.inj seen).symm, range.1⟩
          · cases seen
      | _ => cases seen
  | collectAttempt input =>
      rcases Option.map_eq_some_iff.mp executed with ⟨observed, seen, same⟩
      cases same
      cases choice with
      | collection attempt =>
          simp only [World.observe] at seen
          split at seen
          · exact ⟨attempt, (Option.some.inj seen).symm⟩
          · split at seen
            · exact ⟨attempt, (Option.some.inj seen).symm⟩
            · cases seen
      | _ => cases seen
  | command order =>
      intro reply answered
      rcases World.exec_command executed with ⟨_, _, environment, ⟨_, declined⟩ | ⟨_, applied⟩⟩
      · cases order <;> first | trivial | exact (declined reply answered).elim
      · cases order <;> first | trivial | exact ⟨environment, applied reply answered⟩
  | analyze | publishMessage | getAvailableRepos | deleteMessages => trivial

section Runs

variable {deployment : Deployment} {first last : SystemState deployment}
  {steps : List (Transition (gitMate deployment))}

theorem reachable_disciplined (initial : first.Initial) (run : Execution first steps last) :
    last.Disciplined (discipline deployment) := by
  refine Execution.disciplined (fun entry => Entry.program_keeps deployment entry)
    (fun op choice world outcome later executed => World.exec_credible executed) ?_ run
  intro process member
  rw [initial.processes] at member
  cases member

/-- A step of a run leaves the database alone, or a process performs a sound
and permitted command that takes effect. -/
inductive LedgerStep (state : SystemState deployment) :
    SystemLabel deployment -> SystemState deployment -> Prop where
  | quiet {label : SystemLabel deployment} {after : SystemState deployment}
      (same : after.db = state.db) : LedgerStep state label after
  | performed {index : Nat} {choice : Choice} {after : SystemState deployment} {order : Command}
      {environment : Environment} {past : History Services}
      {resume : Except AppError order.Reply -> Service Unit}
      {outcome : Except AppError order.Reply}
      (pending : state.processes[index]? = some ⟨.request (.command order) resume, past⟩)
      (resumed : after.processes =
        state.processes.set index ⟨resume outcome, past ++ [⟨.command order, outcome⟩]⟩)
      (queue : after.queue = state.queue) (issued : after.world.issued = state.world.issued)
      (permitted : order.Permitted deployment past) (sound : order.Sound)
      (took : forall reply, outcome = .ok reply -> order.tookEffect environment reply)
      (committed : Committed environment state.db order after.db) :
      LedgerStep state (.act index choice) after

theorem ledgerStep (initial : first.Initial) (run : Execution first steps last)
    {label : SystemLabel deployment} {after : SystemState deployment}
    (stepped : last.step label = some after) : LedgerStep last label after := by
  cases label with
  | spawn entry =>
      cases State.step_spawn stepped
      exact .quiet rfl
  | act index choice =>
      rcases State.step_act stepped with ⟨op, resume, past, outcome, world, here, executed, rfl⟩
      have permitted := (reachable_disciplined initial run).permits here
      change World.exec op choice last.world = _ at executed
      cases op with
      | command order =>
          rcases World.exec_command executed with
            ⟨queue, issued, environment, idle | ⟨committed, took⟩⟩
          · exact .quiet idle.1
          · exact .performed here rfl queue issued permitted.1 permitted.2 took committed
      | randomUuid =>
          rcases World.exec_randomUuid executed with ⟨uuid, _, _, rfl⟩
          exact .quiet rfl
      | query | currentDate | random | collectAttempt | analyze | publishMessage
      | getAvailableRepos | receiveMessages | deleteMessages =>
          exact .quiet (World.exec_outside rfl executed).1
  | crash index =>
      rcases State.step_crash stepped with ⟨stopped, here, rfl⟩
      exact .quiet rfl
  | internal event =>
      rcases State.step_internal stepped with ⟨world, moved, rfl⟩
      cases moved
      exact .quiet rfl

/-! ## Rows over a run -/

/-- A property of rows that holds of the initial and of the inserted ones and
is kept by every command that is permitted and sound holds of every row in
every run. -/
theorem reachable_rows_permitted {holds : AnalysisJob -> Prop} (initial : first.Initial)
    (initially : forall id job, first.db.findJob id = some job -> holds job)
    (inserted : forall past input environment, Accepts past input ->
      holds (newJob input environment))
    (kept : forall environment past command job later, JobStep environment command job later ->
      command.Permitted deployment past -> command.Sound -> holds job -> holds later)
    (run : Execution first steps last) {id : JobId} {job : AnalysisJob}
    (found : last.db.findJob id = some job) : holds job := by
  refine run.always
    (fun state => forall id job, state.db.findJob id = some job -> holds job)
    initially (fun earlier state label after reached held stepped => ?_) id job found
  intro id job found
  cases ledgerStep initial reached stepped with
  | quiet same => exact held id job (same ▸ found)
  | performed _ _ _ _ permitted sound _ committed =>
      have fate := committed.evolves id
      rw [found] at fate
      generalize before : state.db.findJob id = old at fate
      cases fate with
      | inserted creating =>
          subst creating
          exact inserted _ _ _ permitted
      | evolved step => exact kept _ _ _ _ _ step permitted sound (held id _ before)

/-- The case of a property that does not depend on what was permitted. -/
theorem reachable_rows {holds : AnalysisJob -> Prop} (initial : first.Initial)
    (initially : forall id job, first.db.findJob id = some job -> holds job)
    (inserted : forall input environment, holds (newJob input environment))
    (kept : forall environment command job later, JobStep environment command job later ->
      command.Sound -> holds job -> holds later)
    (run : Execution first steps last) {id : JobId} {job : AnalysisJob}
    (found : last.db.findJob id = some job) : holds job :=
  reachable_rows_permitted initial initially (fun _ input environment _ => inserted input environment)
    (fun environment _ command job later step _ sound => kept environment command job later step sound)
    run found

theorem reachable_wellFormed (initial : first.Initial) (run : Execution first steps last)
    {id : JobId} {job : AnalysisJob} (found : last.db.findJob id = some job) : job.WellFormed :=
  reachable_rows initial
    (fun _ _ there => initial.db.wellFormed (Table.mem_of_find? there)) newJob_wellFormed
    (fun _ _ _ _ step sound wellFormed => step.wellFormed sound wellFormed) run found

/-- A row is never removed, and a relation that every command keeps relates it
to what becomes of it. -/
theorem row_later {related : AnalysisJob -> AnalysisJob -> Prop} {job : AnalysisJob}
    (itself : related job job)
    (kept : forall environment command middle later, related job middle ->
      JobStep environment command middle later -> related job later)
    (run : Execution first steps last) {id : JobId} (found : first.db.findJob id = some job) :
    Exists fun later => last.db.findJob id = some later ∧ related job later := by
  refine run.always
    (fun state => Exists fun later =>
      state.db.findJob id = some later ∧ related job later)
    ⟨job, found, itself⟩ fun earlier state label after reached held stepped => ?_
  rcases held with ⟨middle, here, relatedMiddle⟩
  cases SystemState.databaseStep stepped with
  | quiet same => exact ⟨middle, same ▸ here, relatedMiddle⟩
  | performed pending committed =>
      have fate := committed.evolves id
      rw [here] at fate
      generalize there : after.db.findJob id = new at fate ⊢
      cases fate with
      | evolved step => exact ⟨_, rfl, kept _ _ _ _ relatedMiddle step⟩

/-- The columns of a job that are fixed at its creation stay as they are. -/
theorem row_identity (run : Execution first steps last) {id : JobId} {job : AnalysisJob}
    (found : first.db.findJob id = some job) :
    Exists fun later => last.db.findJob id = some later ∧ later.identity = job.identity :=
  @row_later _ _ _ _ (fun job later => later.identity = job.identity) _ rfl
    (fun _ _ _ _ same step => step.identity.trans same) run _ found

/-- A job that has ended is never written again. -/
theorem row_final (run : Execution first steps last) {id : JobId} {job : AnalysisJob}
    (found : first.db.findJob id = some job) (ended : job.isActive = false) :
    last.db.findJob id = some job := by
  have final : Exists fun later => last.db.findJob id = some later ∧ later = job :=
    @row_later _ _ _ _ (fun job later => later = job) _ rfl
      (fun _ _ middle later same step => by
        subst same
        rcases step.active_or_same with active | unchanged
        · rw [ended] at active
          cases active
        · exact unchanged) run _ found
  rcases final with ⟨later, there, rfl⟩
  exact there

/-- A job that was not there at first was inserted by an accepted creation. -/
theorem created_row (initial : first.Initial) (run : Execution first steps last) {id : JobId}
    {job : AnalysisJob} (new : first.db.findJob id = none)
    (found : last.db.findJob id = some job) :
    Exists fun past => Exists fun input => Exists fun environment =>
      Accepts past input ∧ job.identity = (newJob input environment).identity := by
  refine run.always
    (fun state => forall job, state.db.findJob id = some job ->
      Exists fun past => Exists fun input => Exists fun environment =>
        Accepts past input ∧ job.identity = (newJob input environment).identity)
    (fun job found => ?_) (fun earlier state label after reached held stepped => ?_) job found
  · rw [new] at found
    cases found
  · intro job found
    cases ledgerStep initial reached stepped with
    | quiet same => exact held job (same ▸ found)
    | @performed _ _ _ order environment past _ _ _ _ _ _ permitted _ _ committed =>
        have fate := committed.evolves id
        rw [found] at fate
        generalize before : state.db.findJob id = old at fate
        cases fate with
        | @inserted input creating =>
            subst creating
            exact ⟨past, input, environment, permitted, rfl⟩
        | @evolved old _ step =>
            rcases held old before with ⟨past, input, environment, accepts, same⟩
            exact ⟨past, input, environment, accepts, step.identity.trans same⟩

end Runs
end GitMate
