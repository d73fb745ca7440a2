import GitMate.Service.Api
import GitMate.Service.Worker

namespace GitMate

open Relational Interleaving

/-!
# The composed system

Any number of API requests, reconcilers, workers, synchronous requests and
listings run side by side over one database and one queue.  The queue itself
makes messages visible again, moves worn-out ones to its dead-letter queue and
may hold messages that no publisher has sent.
-/

/-! ## The queue on its own -/

namespace Queue

/-- The visibility timeout of a message ends. -/
def release (queue : Queue) (messageId : Nat) : Queue :=
  { queue with messages := queue.messages.map fun message =>
      if message.messageId = messageId then { message with inFlight := false } else message }

/-- A message that was received too often moves to the dead-letter queue. -/
def isWornOut (messageId : Nat) (message : QueueMessage) : Bool :=
  message.messageId == messageId && !message.inFlight &&
    decide (MAX_RECEIVE_COUNT ≤ message.receiveCount)

def deadLetter (queue : Queue) (messageId : Nat) : Queue :=
  { queue with
    messages := queue.messages.filter fun message => !isWornOut messageId message
    deadLetters := queue.deadLetters ++ queue.messages.filter (isWornOut messageId) }

/-- A message that no publisher has sent; its body does not parse. -/
def inject (queue : Queue) (jobId : Option JobId) (group : UserId × RepositoryId) : Queue :=
  { queue with
    messages := queue.messages ++ [⟨queue.nextMessageId, .invalid jobId, group, 0, false⟩]
    nextMessageId := queue.nextMessageId + 1 }

end Queue

inductive QueueEvent where
  | tick (milliseconds : Nat)
  | visibilityTimeout (messageId : Nat)
  | deadLetter (messageId : Nat)
  | inject (jobId : Option JobId) (group : UserId × RepositoryId)
  deriving DecidableEq, Repr

def Queue.handle (queue : Queue) : QueueEvent -> Queue
  | .tick milliseconds => { queue with clock := queue.clock + milliseconds }
  | .visibilityTimeout messageId => queue.release messageId
  | .deadLetter messageId => queue.deadLetter messageId
  | .inject jobId group => queue.inject jobId group

/-! ## The machine -/

inductive Entry where
  | create (userId : UserId) (githubRepoId : String) (idempotencyKey : String)
  | retry (userId : UserId) (sourceJobId : JobId) (idempotencyKey : String)
  | reconcile
  | worker
  | sync (githubRepoId : String) (userId : UserId)
  | listRepositories (userId : UserId)
  deriving DecidableEq, Repr

def Entry.program (deployment : Deployment) : Entry -> Service Unit
  | .create userId githubRepoId idempotencyKey =>
      AnalysisJobApiService.create deployment userId githubRepoId idempotencyKey
  | .retry userId sourceJobId idempotencyKey =>
      AnalysisJobApiService.retry deployment userId sourceJobId idempotencyKey
  | .reconcile => do
      let _ <- runOnce deployment
      pure ()
  | .worker => AnalysisWorkerService.handleBatch deployment
  | .sync githubRepoId userId => syncRepository deployment githubRepoId userId
  | .listRepositories userId => getRepositories userId

/-- The composed system. -/
def gitMate (deployment : Deployment) : Machine Services where
  World := World
  Choice := Choice
  exec := World.exec
  Entry := Entry
  start := Entry.program deployment
  Internal := QueueEvent
  internal event world := some { world with queue := world.queue.handle event }

/-- A state of the composed system. -/
abbrev SystemState (deployment : Deployment) : Type := (gitMate deployment).State

/-- A step label of the composed system. -/
abbrev SystemLabel (deployment : Deployment) : Type := (gitMate deployment).Label

end GitMate

namespace Interleaving.Machine.State

variable {deployment : GitMate.Deployment}

/-- The database of a state of the composed system. -/
def db (state : GitMate.SystemState deployment) : GitMate.Database := state.world.db

/-- The queue of a state of the composed system. -/
def queue (state : GitMate.SystemState deployment) : GitMate.Queue := state.world.queue

end Interleaving.Machine.State

namespace GitMate

open Relational Interleaving

/-! ## What one operation does to the world -/

theorem World.send_db {world later : World} {jobId : JobId} {group : UserId × RepositoryId}
    {result : SendResult} {outcome : Except AppError Unit}
    (sent : world.send jobId group result = some (outcome, later)) :
    later.db = world.db ∧ later.issued = world.issued := by
  unfold World.send at sent
  split at sent
  · cases sent; exact ⟨rfl, rfl⟩
  · split at sent
    · cases sent; exact ⟨rfl, rfl⟩
    · cases sent
  · cases sent; exact ⟨rfl, rfl⟩
  · split at sent
    · cases sent; exact ⟨rfl, rfl⟩
    · cases sent
  · split at sent
    · cases sent; exact ⟨rfl, rfl⟩
    · cases sent

/-- A command runs as one transaction and touches the database only. -/
theorem World.exec_command {order : Command} {choice : Choice} {world later : World}
    {outcome : Except AppError order.Reply}
    (executed : World.exec (.command order) choice world = some (outcome, later)) :
    later.queue = world.queue ∧ later.issued = world.issued ∧
    Exists fun environment =>
      later.db = world.db ∧
          (forall reply, outcome = .ok reply -> order.declined reply) ∨
        Committed environment world.db order later.db ∧
          (forall reply, outcome = .ok reply -> order.tookEffect environment reply) := by
  change world.perform order choice = _ at executed
  cases choice with
  | commit commit =>
      simp only [World.perform] at executed
      split at executed
      · simp only [Option.some.injEq, Prod.mk.injEq] at executed
        rcases executed with ⟨rfl, rfl⟩
        exact ⟨rfl, rfl, commit.environment, Database.transaction_committed⟩
      · cases executed
  | _ => cases executed

/-- A query only reads. -/
theorem World.exec_query {question : Query} {choice : Choice} {world later : World}
    {outcome : Except AppError question.Reply}
    (executed : World.exec (.query question) choice world = some (outcome, later)) :
    later = world ∧ forall reply, outcome = .ok reply ->
      Exists fun now => reply = question.run world.db now := by
  change world.answer question choice = _ at executed
  cases choice with
  | answer now =>
      simp only [World.answer, Option.some.injEq, Prod.mk.injEq] at executed
      rcases executed with ⟨rfl, rfl⟩
      exact ⟨rfl, fun reply answered => ⟨now, (Except.ok.inj answered).symm⟩⟩
  | fault error =>
      simp only [World.answer] at executed
      split at executed
      · simp only [Option.some.injEq, Prod.mk.injEq] at executed
        rcases executed with ⟨rfl, rfl⟩
        exact ⟨rfl, fun reply answered => by cases answered⟩
      · cases executed
  | _ => cases executed

/-- A generated identifier is new. -/
theorem World.exec_randomUuid {choice : Choice} {world later : World}
    {outcome : Except AppError Uuid}
    (executed : World.exec .randomUuid choice world = some (outcome, later)) :
    Exists fun uuid => uuid ∉ world.issued ∧ outcome = .ok uuid ∧
      later = { world with issued := uuid :: world.issued } := by
  change world.issue choice = _ at executed
  cases choice with
  | uuid uuid =>
      simp only [World.issue] at executed
      split at executed
      · cases executed
      · rename_i fresh
        simp only [Option.some.injEq, Prod.mk.injEq] at executed
        exact ⟨uuid, fresh, executed.1.symm, executed.2.symm⟩
  | _ => cases executed

/-- The operations that leave the ledger and the identifiers alone. -/
def Op.isOutside : Op -> Bool
  | .command _ | .randomUuid => false
  | _ => true

theorem World.exec_outside {op : Op} {choice : Choice} {world later : World}
    {outcome : Except AppError op.Reply} (outside : op.isOutside = true)
    (executed : World.exec op choice world = some (outcome, later)) :
    later.db = world.db ∧ later.issued = world.issued := by
  cases op with
  | command order => cases outside
  | randomUuid => cases outside
  | query question => exact (World.exec_query executed).1 ▸ ⟨rfl, rfl⟩
  | publishMessage jobId userId repositoryId traceId =>
      change world.publish jobId (userId, repositoryId) choice = _ at executed
      cases choice with
      | send result => exact World.send_db executed
      | _ => cases executed
  | deleteMessages records =>
      change world.delete records choice = _ at executed
      cases choice with
      | deleted =>
          cases executed
          exact ⟨rfl, rfl⟩
      | fault error =>
          simp only [World.delete] at executed
          split at executed
          · cases executed
            exact ⟨rfl, rfl⟩
          · cases executed
      | _ => cases executed
  | receiveMessages =>
      change world.receive choice = _ at executed
      cases choice with
      | received messageIds =>
          rcases Option.map_eq_some_iff.mp executed with ⟨delivery, _, same⟩
          cases same
          exact ⟨rfl, rfl⟩
      | _ => cases executed
  | currentDate | random | collectAttempt | analyze | getAvailableRepos =>
      rcases Option.map_eq_some_iff.mp executed with ⟨observed, _, same⟩
      cases same
      exact ⟨rfl, rfl⟩

/-- The database changes only when a command takes effect. -/
theorem World.exec_db {op : Op} {choice : Choice} {world later : World}
    {outcome : Except AppError op.Reply}
    (executed : World.exec op choice world = some (outcome, later)) :
    later.db = world.db ∨ Exists fun order => Exists fun environment =>
      op = .command order ∧ Committed environment world.db order later.db := by
  cases op with
  | command order =>
      rcases World.exec_command executed with ⟨_, _, environment, idle | effective⟩
      · exact Or.inl idle.1
      · exact Or.inr ⟨order, environment, rfl, effective.1⟩
  | randomUuid =>
      rcases World.exec_randomUuid executed with ⟨uuid, _, _, rfl⟩
      exact Or.inl rfl
  | query question => exact Or.inl (World.exec_outside rfl executed).1
  | currentDate | random | collectAttempt | analyze | publishMessage | getAvailableRepos
  | receiveMessages | deleteMessages => exact Or.inl (World.exec_outside rfl executed).1

/-! ## Steps of the system -/

/-- A step of the system leaves the database alone, or one process performs a
command that takes effect. -/
inductive DatabaseStep {deployment : Deployment} (state : SystemState deployment) :
    SystemLabel deployment -> SystemState deployment -> Prop where
  | quiet {label : SystemLabel deployment} {after : SystemState deployment}
      (same : after.db = state.db) : DatabaseStep state label after
  | performed {index : Nat} {choice : Choice} {after : SystemState deployment} {order : Command}
      {environment : Environment} (pending : state.pending index = some (.command order))
      (committed : Committed environment state.db order after.db) :
      DatabaseStep state (.act index choice) after

theorem SystemState.pending_of_getElem? {deployment : Deployment}
    {state : SystemState deployment} {index : Nat} {op : Op}
    {resume : Except AppError op.Reply -> Service Unit} {history : List (Event Services)}
    (found : state.processes[index]? = some ⟨.request op resume, history⟩) :
    state.pending index = some op := by
  simp only [Machine.State.pending, found]

theorem SystemState.databaseStep {deployment : Deployment} {state after : SystemState deployment}
    {label : SystemLabel deployment} (stepped : state.step label = some after) :
    DatabaseStep state label after := by
  cases label with
  | spawn entry =>
      cases Machine.State.step_spawn stepped
      exact .quiet rfl
  | act index choice =>
      rcases Machine.State.step_act stepped with
        ⟨op, resume, history, outcome, world, here, executed, rfl⟩
      rcases World.exec_db executed with same | ⟨order, environment, rfl, committed⟩
      · exact .quiet same
      · exact .performed (SystemState.pending_of_getElem? here) committed
  | crash index =>
      rcases Machine.State.step_crash stepped with ⟨stopped, here, rfl⟩
      exact .quiet rfl
  | internal event =>
      rcases Machine.State.step_internal stepped with ⟨world, moved, rfl⟩
      cases moved
      exact .quiet rfl

end GitMate
