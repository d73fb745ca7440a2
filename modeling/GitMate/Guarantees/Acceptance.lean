import GitMate.Guarantees.Holders
import GitMate.Service.Memory

namespace GitMate

open Relational Interleaving Machine

/-!
# Idempotent acceptance

Any number of calls of the API may carry the same idempotency key.  The unique
index lets one of them insert a job.  Every other call either finds that job
when it looks the key up, or loses the race for the insertion and looks again;
in both cases it compares the digest of its own request with the stored one.
The digest is collision free, so the stored request stands for it.
-/

/-! ## Calls and responses -/

/-- A call of the API that may create a job. -/
structure ApiCall where
  userId : UserId
  key : String
  request : JobRequest
  deriving DecidableEq, Repr

namespace ApiCall

def entry : ApiCall -> Entry
  | ⟨userId, key, .create githubRepoId⟩ => .create userId githubRepoId key
  | ⟨userId, key, .retry sourceJobId⟩ => .retry userId sourceJobId key

def requestHash (call : ApiCall) : RequestHash := .api call.userId call.request

/-- Accept and publish, and answer with what was accepted. -/
def acceptAndRespond (deployment : Deployment) (accept : Service AcceptedAnalysisJob) :
    Service AcceptedAnalysisJob := do
  let accepted <- accept
  let _ <- publishAcceptedJob deployment accepted.record.job
  pure accepted

/-- The procedure of the call with its response. -/
def respond (deployment : Deployment) : ApiCall -> Service AcceptedAnalysisJob
  | ⟨userId, key, .create githubRepoId⟩ => do
      let idempotencyKey <- IdempotencyKeyPipe.transform key
      acceptAndRespond deployment (acceptJob userId idempotencyKey (.create githubRepoId) none)
  | ⟨userId, key, .retry sourceJobId⟩ => do
      let idempotencyKey <- IdempotencyKeyPipe.transform key
      let sourceJob : Option AnalysisJobApiRecord <-
        Service.query (.findOwnedById userId sourceJobId)
      match sourceJob with
      | none => throw (notFound "JOB_NOT_FOUND" "Analysis job was not found.")
      | some source =>
          if source.job.status ≠ .failed ∨ source.job.errorRetryable ≠ some true then
            throw (conflict "JOB_NOT_RETRYABLE" "Analysis job cannot be retried.")
          else
            acceptAndRespond deployment
              (acceptJob userId idempotencyKey (.retry sourceJobId) (some source))

theorem acceptAndRespond_bind (deployment : Deployment) (accept : Service AcceptedAnalysisJob) :
    (acceptAndRespond deployment accept).bind (fun _ => .done ()) = (do
      let accepted <- accept
      let _ <- publishAcceptedJob deployment accepted.record.job
      pure ()) := by
  change Program.bind (Program.bind accept _) _ = Program.bind accept _
  rw [Program.bind_assoc]
  refine congrArg (Program.bind accept) (funext fun accepted => ?_)
  change Program.bind (Program.bind (publishAcceptedJob deployment accepted.record.job) _) _ = _
  rw [Program.bind_assoc]
  rfl

/-- A process that serves a call runs the procedure of the call and drops its
response. -/
theorem entry_program (deployment : Deployment) (call : ApiCall) :
    call.entry.program deployment = (call.respond deployment).bind fun _ => .done () := by
  rcases call with ⟨userId, key, githubRepoId | sourceJobId⟩
  · change Program.bind _ _ = Program.bind (Program.bind (IdempotencyKeyPipe.transform key) _) _
    rw [Program.bind_assoc]
    exact congrArg (Program.bind (IdempotencyKeyPipe.transform key))
      (funext fun idempotencyKey => (acceptAndRespond_bind deployment _).symm)
  · change Program.bind _ _ = Program.bind (Program.bind (IdempotencyKeyPipe.transform key) _) _
    rw [Program.bind_assoc]
    refine congrArg (Program.bind (IdempotencyKeyPipe.transform key))
      (funext fun idempotencyKey => ?_)
    change Program.bind _ _ = Program.bind (Program.bind _ _) _
    rw [Program.bind_assoc]
    refine congrArg (Program.bind _) (funext fun sourceJob => ?_)
    cases sourceJob with
    | none => rfl
    | some source =>
        simp only
        split
        · rfl
        · exact (acceptAndRespond_bind deployment _).symm

end ApiCall

/-! ## What a call may do -/

/-- The input of a creation is that of a call. -/
structure CreateAnalysisJobRecordInput.Serves (input : CreateAnalysisJobRecordInput)
    (call : ApiCall) : Prop where
  valid : IdempotencyKeyPipe.isValid call.key = true
  userId : input.userId = call.userId
  idempotencyKey : input.idempotencyKey = call.key
  requestHash : input.requestHash = call.requestHash

/-- The records that a call may be answered with: a job found under its key
with its own request, or the job it has created. -/
inductive Answers (past : History Services) (call : ApiCall) : AnalysisJobApiRecord -> Prop where
  | replayed {record : AnalysisJobApiRecord} (valid : IdempotencyKeyPipe.isValid call.key = true)
      (read : Learned past (.findByIdempotencyKey call.userId call.key) (some record))
      (same : record.job.requestHash = call.requestHash) : Answers past call record
  | created {input : CreateAnalysisJobRecordInput} {record : AnalysisJobApiRecord}
      (did : Did past (.createExclusive input) record.job) (serves : input.Serves call) :
      Answers past call record

theorem Answers.mono {past later : History Services} (extended : past <+: later) {call : ApiCall}
    {record : AnalysisJobApiRecord} (answers : Answers past call record) :
    Answers later call record := by
  cases answers with
  | replayed valid read same => exact .replayed valid (Learned.mono extended read) same
  | created did serves => exact .created (Did.mono extended did) serves

/-- The outcomes that the world can produce. -/
def Op.Producible (op : Op) (outcome : Except AppError op.Reply) : Prop :=
  Exists fun choice => Exists fun world => Exists fun later =>
    World.exec op choice world = some (outcome, later)

/-- A call creates a job of its own request only, and updates jobs only once it
has an answer. -/
def Op.PermittedFor (call : ApiCall) (past : History Services) : Op -> Prop
  | .command (.createExclusive input) => input.Serves call
  | .command (.update _) => Exists fun record => Answers past call record
  | .command _ => False
  | _ => True

def callDiscipline (call : ApiCall) : Discipline Services where
  Permits := Op.PermittedFor call
  Credible := Op.Producible

/-- The refusals for a reason that a replay must not meet: the rate limit and
the check for an active job. -/
def AppError.isAcceptanceRefusal : AppError -> Bool
  | .http _ code _ => code == "RATE_LIMITED" || code == "ACTIVE_JOB_EXISTS"
  | _ => false

/-- The call has looked its key up and never found a job under it. -/
def Unknown (past : History Services) (call : ApiCall) : Prop :=
  Learned past (.findByIdempotencyKey call.userId call.key) none ∧
    forall outcome, Happened past (.query (.findByIdempotencyKey call.userId call.key)) outcome ->
      outcome = .ok none

/-- How a call ends. -/
def CallEnds (call : ApiCall) : Services.Post AcceptedAnalysisJob
  | later, .ok accepted => Answers later call accepted.record
  | later, .error error => error.isAcceptanceRefusal = true -> Unknown later call

section Procedures

variable {deployment : Deployment} {past : History Services} {call : ApiCall}

/-- A procedure of a call keeps to what the call may do. -/
abbrev CallKeeps (call : ApiCall) {α : Type} (ends : Services.Post α) (past : History Services)
    (program : Service α) : Prop :=
  program.Obeys (callDiscipline call) ends past

theorem call_perform {op : Op} (permitted : op.PermittedFor call past) :
    CallKeeps call (fun later ending => later = past ++ [⟨op, ending⟩] ∧ op.Producible ending) past
      (Service.perform op) :=
  Program.obeys_perform permitted

theorem Op.Producible.credible {op : Op} {outcome : Except AppError op.Reply}
    (producible : op.Producible outcome) : op.Credible outcome := by
  rcases producible with ⟨choice, world, later, executed⟩
  exact World.exec_credible executed

/-- A query only fails with a fault of the database. -/
theorem Op.Producible.query_error {question : Query} {error : AppError}
    (producible : Op.Producible (.query question) (.error error)) :
    error.isDatabaseFault = true := by
  rcases producible with ⟨choice, world, later, executed⟩
  change world.answer question choice = _ at executed
  cases choice with
  | fault fault =>
      simp only [World.answer] at executed
      split at executed
      · cases executed
        assumption
      · cases executed
  | answer now => cases executed
  | _ => cases executed

theorem AppError.isAcceptanceRefusal_of_isDatabaseFault {error : AppError}
    (fault : error.isDatabaseFault = true) : error.isAcceptanceRefusal = false := by
  cases error with
  | prismaKnownRequest | prismaClient => rfl
  | _ => cases fault

theorem acceptanceError_of_isDatabaseFault {error : AppError}
    (fault : error.isDatabaseFault = true) :
    (acceptanceError error).isAcceptanceRefusal = false := by
  cases error with
  | prismaKnownRequest | prismaClient => rfl
  | _ => cases fault

/-! ## Publication -/

theorem sendClaimed_call {record : AnalysisJobApiRecord} {attempt : PublishAttempt}
    {traceId : Uuid} (answers : Answers past call record) :
    CallKeeps call (fun _ _ => True) past (sendClaimed attempt traceId) := by
  refine Program.Obeys.bind (Program.Obeys.attempt (call_perform trivial))
    (fun later sent extended _ => ?_) (fun _ _ _ _ => trivial)
  cases sent with
  | error error =>
      refine Program.Obeys.bind (call_perform trivial) (fun further random drawn _ => ?_)
        (fun _ _ _ _ => trivial)
      refine Program.Obeys.bind (call_perform ⟨record, answers.mono (extended.trans drawn)⟩)
        (fun _ recorded _ _ => ?_) (fun _ _ _ _ => trivial)
      split
      · trivial
      · split <;> trivial
  | ok _ =>
      refine Program.Obeys.bind (call_perform ⟨record, answers.mono extended⟩)
        (fun _ recorded _ _ => ?_) (fun _ _ _ _ => trivial)
      split <;> trivial

theorem publishDue_call {record : AnalysisJobApiRecord} {job : AnalysisJobPublishRecord}
    {allowRepublish : Bool} {now : Instant} {traceId : Uuid} (answers : Answers past call record) :
    CallKeeps call (fun _ _ => True) past
      (publishDue deployment job allowRepublish now traceId) := by
  refine Program.Obeys.bind (obeys_ofExcept _) (fun later settings _ read => ?_)
    (fun _ _ _ _ => trivial)
  rcases read with ⟨rfl, _⟩
  split
  · trivial
  split
  · trivial
  refine Program.Obeys.bind (obeys_ofExcept _) (fun later _ _ checked => ?_)
    (fun _ _ _ _ => trivial)
  rcases checked with ⟨rfl, _⟩
  refine Program.Obeys.bind (call_perform ⟨record, answers⟩) (fun later claimed extended _ => ?_)
    (fun _ _ _ _ => trivial)
  split
  · trivial
  · exact sendClaimed_call (answers.mono extended)

/-- The publication of an accepted job always returns. -/
theorem publishAcceptedJob_call {record : AnalysisJobApiRecord} {job : AnalysisJobPublishRecord}
    (answers : Answers past call record) :
    CallKeeps call (fun _ ending => Exists fun outcome => ending = .ok outcome) past
      (publishAcceptedJob deployment job) := by
  refine Program.Obeys.bind (call_perform trivial) (fun later now extended _ => ?_)
    (fun later error _ failed => ?_)
  · refine Program.Obeys.bind (call_perform trivial) (fun further traceId drawn _ => ?_)
      (fun later error _ failed => ?_)
    · exact (publishDue_call (answers.mono (extended.trans drawn))).tryCatch
        (fun _ outcome _ _ => ⟨outcome, rfl⟩) (fun _ _ _ _ => ⟨.deferred, rfl⟩)
    · rcases failed.2.credible with ⟨uuid, same⟩
      cases same
  · rcases failed.2.credible with ⟨now, same⟩
    cases same

/-! ## Acceptance -/

/-- How the acceptance transaction of a call ends; its error has not been
reported yet. -/
def TransactionEnds (call : ApiCall) : Services.Post AcceptedAnalysisJob
  | later, .ok accepted => Answers later call accepted.record
  | later, .error error => (acceptanceError error).isAcceptanceRefusal = true ->
      Unknown later call

/-- A replay answers with the job that was found, or fails for a reason of its
own. -/
theorem replayExisting_call {existing : AnalysisJobApiRecord}
    (valid : IdempotencyKeyPipe.isValid call.key = true)
    (read : Learned past (.findByIdempotencyKey call.userId call.key) (some existing)) :
    CallKeeps call (fun later ending =>
        CallEnds call later ending ∧ TransactionEnds call later ending) past
      (replayExisting call.userId existing call.requestHash) := by
  refine Program.Obeys.bind (obeys_ofExcept _) (fun later record _ resolved => ?_)
    (fun later error _ resolved => ?_)
  · rcases resolved with ⟨rfl, same⟩
    unfold resolveExisting at same
    split at same
    · cases same
    · rename_i matching
      cases same
      refine Program.Obeys.bind (call_perform trivial) (fun later rateLimit extended _ => ?_)
        (fun later error _ failed => ?_)
      · have answers : Answers _ call existing := .replayed valid read (not_not.mp matching)
        exact ⟨answers.mono extended, answers.mono extended⟩
      · have fault := failed.2.query_error
        constructor
        · intro refused
          rw [AppError.isAcceptanceRefusal_of_isDatabaseFault fault] at refused
          cases refused
        · intro refused
          rw [acceptanceError_of_isDatabaseFault fault] at refused
          cases refused
  · unfold resolveExisting at resolved
    have reused := resolved.2
    split at reused
    · cases reused
      exact ⟨fun refused => absurd refused (by decide +kernel),
        fun refused => absurd refused (by decide +kernel)⟩
    · cases reused

/-- Only a lookup of its key tells a call more about it. -/
theorem Unknown.append {op : Op} {outcome : Except AppError op.Reply} (unknown : Unknown past call)
    (other : op ≠ .query (.findByIdempotencyKey call.userId call.key)) :
    Unknown (past ++ [⟨op, outcome⟩]) call := by
  refine ⟨Learned.mono (List.prefix_append _ _) unknown.1, fun answer happened => ?_⟩
  rcases List.mem_append.mp happened with before | now
  · exact unknown.2 answer before
  · exact absurd (congrArg Event.op (List.mem_singleton.mp now)).symm other

theorem transactionEnds_unknown {error : AppError} (unknown : Unknown past call) :
    TransactionEnds call past (.error error) := fun _ => unknown

/-- A call that has not found its key creates a job, or fails. -/
theorem acceptNew_call {source : Option AnalysisJobApiRecord}
    (valid : IdempotencyKeyPipe.isValid call.key = true) (unknown : Unknown past call) :
    CallKeeps call (TransactionEnds call) past
      (acceptNew call.userId call.key call.request source) := by
  refine Program.Obeys.bind (call_perform trivial) (fun later rateLimit _ limited => ?_)
    (fun later error _ failed => ?_)
  swap
  · rw [failed.1]
    exact transactionEnds_unknown (unknown.append fun same => by cases same)
  have first : Unknown later call := by
    rw [limited.1]
    exact unknown.append fun same => by cases same
  split
  · exact transactionEnds_unknown first
  split
  · exact transactionEnds_unknown first
  refine Program.Obeys.bind (call_perform trivial) (fun later found _ read => ?_)
    (fun later error _ failed => ?_)
  swap
  · rw [failed.1]
    exact transactionEnds_unknown (first.append fun same => by cases same)
  have second : Unknown later call := by
    rw [read.1]
    exact first.append fun same => by cases same
  cases found with
  | none => exact transactionEnds_unknown second
  | some owned =>
      simp only
      split
      · exact transactionEnds_unknown second
      refine Program.Obeys.bind (obeys_ofExcept _) (fun later window _ computed => ?_)
        (fun later error _ computed => ?_)
      swap
      · rw [computed.1]
        exact transactionEnds_unknown second
      rw [computed.1]
      refine Program.Obeys.bind (call_perform ⟨valid, rfl, rfl, rfl⟩) (fun later job _ created => ?_)
        (fun later error _ failed => ?_)
      swap
      · rw [failed.1]
        exact transactionEnds_unknown (second.append fun same => by cases same)
      rw [created.1]
      refine Program.Obeys.bind (call_perform trivial) (fun later after extended _ => ?_)
        (fun later error _ failed => ?_)
      · exact Answers.mono extended (.created happened_append ⟨valid, rfl, rfl, rfl⟩)
      · rw [failed.1]
        exact transactionEnds_unknown
          ((second.append fun same => by cases same).append fun same => by cases same)

/-- The call has not looked its key up yet. -/
def Unasked (past : History Services) (call : ApiCall) : Prop :=
  forall outcome, ¬ Happened past (.query (.findByIdempotencyKey call.userId call.key)) outcome

theorem acceptInTransaction_call {source : Option AnalysisJobApiRecord}
    (valid : IdempotencyKeyPipe.isValid call.key = true) (unasked : Unasked past call) :
    CallKeeps call (TransactionEnds call) past
      (acceptInTransaction call.userId call.key call.request source) := by
  refine Program.Obeys.bind (call_perform trivial) (fun later existing _ read => ?_)
    (fun later error _ failed => ?_)
  · rw [read.1]
    cases existing with
    | some existing =>
        exact (replayExisting_call valid happened_append).mono fun _ _ _ ended => ended.2
    | none =>
        refine acceptNew_call valid ⟨happened_append, fun outcome happened => ?_⟩
        rcases List.mem_append.mp happened with before | now
        · exact absurd before (unasked outcome)
        · cases List.mem_singleton.mp now
          rfl
  · intro refused
    rw [acceptanceError_of_isDatabaseFault failed.2.query_error] at refused
    cases refused

/-- After a failed transaction a lost race on the key becomes a replay. -/
theorem recoverAcceptance_call {error : AppError}
    (valid : IdempotencyKeyPipe.isValid call.key = true)
    (ended : TransactionEnds call past (.error error)) :
    CallKeeps call (CallEnds call) past
      (recoverAcceptance call.userId call.key call.request error) := by
  unfold recoverAcceptance
  split
  · rename_i lost
    refine Program.Obeys.bind (call_perform trivial) (fun later existing _ read => ?_)
      (fun later fault _ failed => ?_)
    · rw [read.1]
      cases existing with
      | some existing =>
          exact (replayExisting_call valid happened_append).mono fun _ _ _ ended => ended.1
      | none =>
          intro refused
          cases error with
          | prismaKnownRequest | withCode => exact absurd refused Bool.false_ne_true
          | _ => cases lost
    · intro refused
      rw [AppError.isAcceptanceRefusal_of_isDatabaseFault failed.2.query_error] at refused
      cases refused
  · exact ended

theorem acceptJob_call {source : Option AnalysisJobApiRecord}
    (valid : IdempotencyKeyPipe.isValid call.key = true) (unasked : Unasked past call) :
    CallKeeps call (CallEnds call) past
      (acceptJob call.userId call.key call.request source) :=
  (acceptInTransaction_call valid unasked).tryCatch (fun _ _ _ answers => answers)
    (fun _ _ _ ended => recoverAcceptance_call valid ended)

theorem acceptAndRespond_call {accept : Service AcceptedAnalysisJob}
    (accepts : CallKeeps call (CallEnds call) past accept) :
    CallKeeps call (CallEnds call) past (ApiCall.acceptAndRespond deployment accept) := by
  refine accepts.bind (fun later accepted _ answers => ?_) (fun _ _ _ ended => ended)
  refine (publishAcceptedJob_call answers).bind (fun further _ extended _ => ?_)
    (fun _ _ _ returned => ?_)
  · exact answers.mono extended
  · rcases returned with ⟨outcome, same⟩
    cases same

/-- The key of a call, once it has passed the pipe. -/
theorem transform_call (key : String) :
    CallKeeps call (fun later ending => later = past ∧
      (forall value, ending = .ok value -> value = key ∧ IdempotencyKeyPipe.isValid key = true) ∧
      forall error, ending = .error error -> error.isAcceptanceRefusal = false) past
      (IdempotencyKeyPipe.transform key) := by
  unfold IdempotencyKeyPipe.transform
  split
  · rename_i valid
    exact ⟨rfl, fun value same => ⟨(Except.ok.inj same).symm, valid⟩,
      fun error same => (by cases same)⟩
  · refine ⟨rfl, fun value same => (by cases same), fun error same => ?_⟩
    cases same
    rfl

/-- Every call does only what it may, and ends as it may. -/
theorem respond_call (call : ApiCall) :
    CallKeeps call (CallEnds call) [] (call.respond deployment) := by
  have notRefused : forall {error : AppError} {later : History Services},
      error.isAcceptanceRefusal = false -> CallEnds call later (.error error) := by
    intro error later isNot refused
    rw [isNot] at refused
    cases refused
  rcases call with ⟨userId, key, githubRepoId | sourceJobId⟩
  · refine (transform_call key).bind (fun later idempotencyKey _ transformed => ?_)
      (fun later error _ transformed => notRefused (transformed.2.2 error rfl))
    rcases transformed with ⟨rfl, passed, _⟩
    rcases passed idempotencyKey rfl with ⟨rfl, valid⟩
    refine acceptAndRespond_call (acceptJob_call valid fun outcome happened => ?_)
    cases happened
  · refine (transform_call key).bind (fun later idempotencyKey _ transformed => ?_)
      (fun later error _ transformed => notRefused (transformed.2.2 error rfl))
    rcases transformed with ⟨rfl, passed, _⟩
    rcases passed idempotencyKey rfl with ⟨rfl, valid⟩
    refine Program.Obeys.bind (call_perform trivial) (fun later source _ read => ?_)
      (fun later error _ failed => notRefused
        (AppError.isAcceptanceRefusal_of_isDatabaseFault failed.2.query_error))
    rw [read.1]
    cases source with
    | none => exact notRefused (by decide +kernel)
    | some source =>
        simp only
        split
        · exact notRefused (by decide +kernel)
        · refine acceptAndRespond_call (acceptJob_call valid fun outcome happened => ?_)
          cases List.mem_singleton.mp happened

end Procedures

/-! ## The job of a key -/

section Runs

variable {deployment : Deployment} {first middle last : SystemState deployment}
  {steps rest : List (Transition (gitMate deployment))}

/-- A row that was created in a run under the key of a call. -/
structure CreatedFor (first last : SystemState deployment) (call : ApiCall) (row : AnalysisJob) :
    Prop where
  found : last.db.findJob row.id = some row
  new : first.db.findJob row.id = none
  userId : row.userId = call.userId
  idempotencyKey : row.idempotencyKey = call.key

/-- A process serves a call, which has been answered. -/
structure Returned (steps : List (Transition (gitMate deployment))) (last : SystemState deployment)
    (index : Nat) (call : ApiCall) (response : AcceptedAnalysisJob) : Prop where
  serves : Spawned steps index call.entry
  answered : (call.respond deployment).Run (last.historyAt index) (.done response)

/-- A process serves a call, which has failed. -/
structure Refused (steps : List (Transition (gitMate deployment))) (last : SystemState deployment)
    (index : Nat) (call : ApiCall) (error : AppError) : Prop where
  serves : Spawned steps index call.entry
  failed : (call.respond deployment).Run (last.historyAt index) (.fail error)

/-- A step in which a process looks up the key of its call. -/
def LooksUp (step : Transition (gitMate deployment)) (index : Nat) (call : ApiCall) : Prop :=
  (Exists fun choice => step.label = .act index choice) ∧
    step.before.pending index =
      some (.query (.findByIdempotencyKey call.userId call.key))

/-- The unique index: a creation finds its key unused. -/
theorem Committed.unused_key {environment : Environment} {db after : Database}
    {input : CreateAnalysisJobRecordInput}
    (committed : Committed environment db (.createExclusive input) after) {id : JobId}
    {job : AnalysisJob} (found : db.findJob id = some job) (sameUser : job.userId = input.userId) :
    job.idempotencyKey ≠ input.idempotencyKey := by
  cases committed with
  | created repositoryFound exclusive unused fresh =>
      have same := (recoverRow_step environment input job).identity
      have recovered : (recoverStaleTable input.repositoryId environment.application
          db.analysisJobs).find? id =
            some (recoverRow input.repositoryId environment.application job) := by
        rw [find?_recoverStaleTable]
        exact congrArg (Option.map _) found
      have other := unused _ (Table.mem_of_find? recovered)
        ((congrArg JobIdentity.userId same).trans sameUser)
      exact fun equal => other ((congrArg JobIdentity.idempotencyKey same).trans equal)

/-- No other row has the user and the key of a row that was created. -/
theorem created_unique (run : Execution first steps last) {left right : AnalysisJob}
    (new : first.db.findJob left.id = none) (leftFound : last.db.findJob left.id = some left)
    (rightFound : last.db.findJob right.id = some right) (sameUser : left.userId = right.userId)
    (sameKey : left.idempotencyKey = right.idempotencyKey) : left.id = right.id := by
  refine run.always
    (fun state => forall left right : AnalysisJob, first.db.findJob left.id = none ->
      state.db.findJob left.id = some left -> state.db.findJob right.id = some right ->
      left.userId = right.userId -> left.idempotencyKey = right.idempotencyKey ->
      left.id = right.id)
    (fun left _ new found => ?_) (fun earlier state label after reached held stepped => ?_)
    left right new leftFound rightFound sameUser sameKey
  · rw [new] at found
    cases found
  intro left right new leftFound rightFound sameUser sameKey
  cases SystemState.databaseStep stepped with
  | quiet same => exact held left right new (same ▸ leftFound) (same ▸ rightFound) sameUser sameKey
  | performed _ committed =>
      have leftFate := committed.evolves left.id
      have rightFate := committed.evolves right.id
      rw [leftFound] at leftFate
      rw [rightFound] at rightFate
      generalize leftBefore : state.db.findJob left.id = leftOld at leftFate
      generalize rightBefore : state.db.findJob right.id = rightOld at rightFate
      cases leftFate with
      | @inserted input creating =>
          subst creating
          cases rightFate with
          | inserted creating =>
              cases creating
              rfl
          | evolved step =>
              have same := step.identity
              exact absurd ((congrArg JobIdentity.idempotencyKey same).symm.trans sameKey.symm)
                (committed.unused_key rightBefore
                  ((congrArg JobIdentity.userId same).symm.trans sameUser.symm))
      | @evolved leftJob _ leftStep =>
          have leftSame := leftStep.identity
          cases rightFate with
          | @inserted input creating =>
              subst creating
              exact absurd ((congrArg JobIdentity.idempotencyKey leftSame).symm.trans sameKey)
                (committed.unused_key leftBefore
                  ((congrArg JobIdentity.userId leftSame).symm.trans sameUser))
          | @evolved rightJob _ rightStep =>
              have rightSame := rightStep.identity
              have leftId : left.id = leftJob.id := congrArg JobIdentity.id leftSame
              have rightId : right.id = rightJob.id := congrArg JobIdentity.id rightSame
              rw [leftId] at new leftBefore ⊢
              rw [rightId] at rightBefore ⊢
              exact held leftJob rightJob new leftBefore rightBefore
                ((congrArg JobIdentity.userId leftSame).symm.trans
                  (sameUser.trans (congrArg JobIdentity.userId rightSame)))
                ((congrArg JobIdentity.idempotencyKey leftSame).symm.trans
                  (sameKey.trans (congrArg JobIdentity.idempotencyKey rightSame)))

theorem CreatedFor.unique (run : Execution first steps last) {call : ApiCall}
    {left right : AnalysisJob} (leftCreated : CreatedFor first last call left)
    (rightCreated : CreatedFor first last call right) : left = right := by
  have sameId := created_unique run leftCreated.new leftCreated.found rightCreated.found
    (leftCreated.userId.trans rightCreated.userId.symm)
    (leftCreated.idempotencyKey.trans rightCreated.idempotencyKey.symm)
  have found := leftCreated.found
  rw [sameId, rightCreated.found] at found
  exact (Option.some.inj found).symm

/-- The job of a key stays the job of the key. -/
theorem CreatedFor.later (following : Execution middle rest last) {call : ApiCall}
    {row : AnalysisJob} (created : CreatedFor first middle call row) :
    Exists fun later => CreatedFor first last call later ∧ later.identity = row.identity := by
  rcases row_identity following created.found with ⟨later, found, same⟩
  have sameId : later.id = row.id := congrArg JobIdentity.id same
  exact ⟨later, ⟨sameId ▸ found, sameId ▸ created.new,
    (congrArg JobIdentity.userId same).trans created.userId,
    (congrArg JobIdentity.idempotencyKey same).trans created.idempotencyKey⟩, same⟩

theorem IdempotencyKeyPipe.not_legacy {key : String}
    (valid : IdempotencyKeyPipe.isValid key = true) : startsWith key "legacy-report:" = false := by
  simp only [IdempotencyKeyPipe.isValid, Bool.and_eq_true, Bool.not_eq_true'] at valid
  exact valid.1.1.2

/-- A row with a key that passes the pipe was created in the run. -/
theorem createdFor_of_valid (initial : first.Initial) (run : Execution first steps last)
    {call : ApiCall} {row : AnalysisJob} (valid : IdempotencyKeyPipe.isValid call.key = true)
    (found : last.db.findJob row.id = some row) (sameUser : row.userId = call.userId)
    (sameKey : row.idempotencyKey = call.key) : CreatedFor first last call row := by
  refine ⟨found, ?_, sameUser, sameKey⟩
  cases before : first.db.findJob row.id with
  | none => rfl
  | some old =>
      rcases row_identity run before with ⟨later, there, same⟩
      cases found.symm.trans there
      have legacy := (initial.db.legacy old (Table.mem_of_find? before)).1
      have oldKey : old.idempotencyKey = call.key :=
        (congrArg JobIdentity.idempotencyKey same).symm.trans sameKey
      unfold AnalysisJob.isLegacyReport at legacy
      rw [oldKey, IdempotencyKeyPipe.not_legacy valid] at legacy
      cases legacy

/-! ## Calls in a run -/

theorem Database.findByIdempotencyKey_spec {db : Database} {userId : UserId} {key : String}
    {job : AnalysisJob} (found : db.findByIdempotencyKey userId key = some job) :
    job.userId = userId ∧ job.idempotencyKey = key := by
  have checked := List.find?_some found
  simp only [Bool.and_eq_true, beq_iff_eq] at checked
  exact checked

/-- A lookup that was answered without a job was made when there was none. -/
theorem Database.findByIdempotencyKey_none {db : Database} {userId : UserId} {key : String}
    (missing : db.findByIdempotencyKey userId key = none) {job : AnalysisJob}
    (found : db.findJob job.id = some job) (sameUser : job.userId = userId) :
    job.idempotencyKey ≠ key := by
  intro sameKey
  have checked := List.find?_eq_none.mp missing job (Table.mem_of_find? found)
  rw [sameUser, sameKey, beq_self_eq_true, beq_self_eq_true] at checked
  exact checked rfl

/-- Every outcome that a process was told came from the world. -/
theorem reachable_producible (initial : first.Initial) (run : Execution first steps last)
    {index : Nat} {event : Event Services} (happened : event ∈ last.historyAt index) :
    event.op.Producible event.outcome := by
  rcases run.step_of_event initial.processes happened with
    ⟨step, _, choice, _, _, _, executed⟩
  exact ⟨choice, step.before.world, step.after.world, executed⟩

/-- A job that was found under a key has this key. -/
theorem learned_key (initial : first.Initial) (run : Execution first steps last) {index : Nat}
    {userId : UserId} {key : String} {record : AnalysisJobApiRecord}
    (read : Learned (last.historyAt index) (.findByIdempotencyKey userId key) (some record)) :
    record.job.userId = userId ∧ record.job.idempotencyKey = key := by
  rcases learned_at initial run read with ⟨_, state, _, now, _, _, answered⟩
  rcases Option.map_eq_some_iff.mp answered.symm with ⟨job, found, rfl⟩
  exact Database.findByIdempotencyKey_spec found

/-- The answer to a call is the job of its key, with its own request. -/
theorem Answers.row (initial : first.Initial) (run : Execution first steps last) {index : Nat}
    {call : ApiCall} {record : AnalysisJobApiRecord}
    (answers : Answers (last.historyAt index) call record) :
    Exists fun row => CreatedFor first last call row ∧ row.id = record.job.id ∧
      row.requestHash = call.requestHash := by
  have kept : forall row : AnalysisJob, last.db.findJob record.job.id = some row ->
      row.identity = record.job.identity -> IdempotencyKeyPipe.isValid call.key = true ->
      record.job.userId = call.userId -> record.job.idempotencyKey = call.key ->
      record.job.requestHash = call.requestHash ->
      Exists fun row => CreatedFor first last call row ∧ row.id = record.job.id ∧
        row.requestHash = call.requestHash := by
    intro row found same valid sameUser sameKey sameHash
    have sameId : row.id = record.job.id := congrArg JobIdentity.id same
    exact ⟨row, createdFor_of_valid initial run valid (sameId ▸ found)
      ((congrArg JobIdentity.userId same).trans sameUser)
      ((congrArg JobIdentity.idempotencyKey same).trans sameKey), sameId,
      (congrArg JobIdentity.requestHash same).trans sameHash⟩
  cases answers with
  | replayed valid read sameHash =>
      rcases reachable_seen initial run index record.job (.replayed read) with ⟨row, found, same⟩
      rcases learned_key initial run read with ⟨sameUser, sameKey⟩
      exact kept row found same valid sameUser sameKey sameHash
  | created did serves =>
      rcases reachable_seen initial run index record.job (.inserted did) with ⟨row, found, same⟩
      rcases reachable_created initial run index _ _ did with ⟨environment, inserted⟩
      refine kept row found same serves.valid ?_ ?_ ?_
      · rw [inserted]
        exact serves.userId
      · rw [inserted]
        exact serves.idempotencyKey
      · rw [inserted]
        exact serves.requestHash

/-- What a call has done so far, and what it still has to do, keep to what the
call may do. -/
theorem reachable_call (initial : first.Initial) (run : Execution first steps last) {index : Nat}
    {call : ApiCall} {left : Service AcceptedAnalysisJob}
    (through : (call.respond deployment).Run (last.historyAt index) left) :
    CallKeeps call (CallEnds call) (last.historyAt index) left :=
  (respond_call call).run through fun _ happened => reachable_producible initial run happened

/-- A process that serves a call performs only what the call may do. -/
theorem call_permitted (initial : first.Initial) (run : Execution first steps last) {index : Nat}
    {call : ApiCall} (serves : Spawned steps index call.entry) {op : Op}
    (pending : last.pending index = some op) : op.PermittedFor call (last.historyAt index) := by
  rcases run.follows serves with ⟨process, here, remaining, through, goes⟩
  have history : last.historyAt index = process.history := State.historyAt_of_getElem? here
  change (call.entry.program deployment).Run process.history remaining at through
  rw [ApiCall.entry_program] at through
  rcases through.of_bind with ⟨left, before, rfl⟩
  rw [← history] at before
  have keeps := reachable_call initial run before
  rcases State.getElem?_of_pending pending with ⟨resume, there⟩
  cases here.symm.trans there
  rcases goes with same | ⟨stopped, _⟩
  · cases left with
    | done | fail => cases same
    | request acting continues =>
        cases same
        exact keeps.1
  · cases stopped

/-- A call whose request is not the one of the job of its key changes
nothing. -/
theorem foreign_call_idle (initial : first.Initial) {earlier : List (Transition (gitMate deployment))}
    {step : Transition (gitMate deployment)}
    (run : Execution first (earlier ++ step :: rest) last) {index : Nat} {call : ApiCall}
    (serves : Spawned earlier index call.entry) {choice : Choice}
    (acts : step.label = .act index choice) {row : AnalysisJob}
    (created : CreatedFor first last call row) (foreign : row.requestHash ≠ call.requestHash) :
    step.after.db = step.before.db := by
  rcases run.around with ⟨leading, stepped, following⟩
  have through := leading.next stepped
  -- any row of the key with the request of the call contradicts uniqueness
  have excluded : forall {state : SystemState deployment}
      {remaining : List (Transition (gitMate deployment))} {own : AnalysisJob},
      Execution state remaining last -> CreatedFor first state call own ->
      own.requestHash ≠ call.requestHash := by
    intro state remaining own after ownCreated sameHash
    rcases ownCreated.later after with ⟨later, laterCreated, same⟩
    cases created.unique run laterCreated
    exact foreign ((congrArg JobIdentity.requestHash same).trans sameHash)
  rw [acts] at stepped
  rcases State.step_act stepped with ⟨op, resume, past, outcome, world, here, executed, grown⟩
  have permitted := call_permitted initial leading serves (SystemState.pending_of_getElem? here)
  have sameDb : step.after.db = world.db :=
    congrArg (fun state : SystemState deployment => state.world.db) grown
  rw [sameDb]
  rcases World.exec_db executed with same | ⟨order, environment, rfl, committed⟩
  · exact same
  cases order with
  | createExclusive input =>
      have serving : input.Serves call := permitted
      have inserted : world.db.findJob (newJob input environment).id =
          some (newJob input environment) := by
        generalize world.db = after at committed ⊢
        cases committed with
        | created found exclusive unused fresh =>
            exact Table.find?_eq_some_iff.mpr
              ⟨(@Table.mem_insert _ _ _ _ _ fresh _).mpr (Or.inr rfl), rfl⟩
      exact absurd serving.requestHash (excluded following
        (createdFor_of_valid initial through serving.valid (sameDb ▸ inserted) serving.userId
          serving.idempotencyKey))
  | update change =>
      rcases (permitted : Exists fun record => Answers _ call record) with ⟨record, answers⟩
      rcases answers.row initial leading with ⟨own, ownCreated, _, sameHash⟩
      rw [← acts] at stepped
      exact absurd sameHash (excluded (Execution.append (Execution.start.next stepped) following)
        ownCreated)
  | reserveWorkerTokens | terminateWorkerJob | saveAnalysisResult | settleFailure
  | upsertRepository => exact permitted.elim

/-- A call that looks its key up when the job of the key is there is not
refused for the rate limit or an active job. -/
theorem not_refused_of_lookup (initial : first.Initial) {earlier : List (Transition (gitMate deployment))}
    {step : Transition (gitMate deployment)}
    (run : Execution first (earlier ++ step :: rest) last) {index : Nat} {call : ApiCall}
    (lookup : LooksUp step index call) {row : AnalysisJob}
    (created : CreatedFor first step.before call row) {error : AppError}
    (failed : (call.respond deployment).Run (last.historyAt index) (.fail error)) :
    error.isAcceptanceRefusal = false := by
  cases refusal : error.isAcceptanceRefusal with
  | false => rfl
  | true =>
      have unknown : Unknown (last.historyAt index) call :=
        (reachable_call initial run failed : CallEnds call _ (.error error)) refusal
      rcases run.around with ⟨leading, stepped, following⟩
      rcases lookup with ⟨⟨choice, acts⟩, pending⟩
      rw [acts] at stepped
      rcases State.historyAt_act stepped pending with ⟨_, outcome, _, executed, grown⟩
      have told : outcome = .ok none := by
        refine unknown.2 outcome ((following.historyAt_grows index).subset ?_)
        rw [grown]
        exact List.mem_append_right _ List.mem_cons_self
      rcases (World.exec_query executed).2 none told with ⟨now, answered⟩
      have missing := Option.map_eq_none_iff.mp answered.symm
      exact absurd created.idempotencyKey
        (Database.findByIdempotencyKey_none missing created.found created.userId)

/-- A call that is refused for the rate limit or an active job has looked its
key up. -/
theorem lookup_of_refused (initial : first.Initial) (run : Execution first steps last)
    (following : Execution middle rest last) {index : Nat} {call : ApiCall} {error : AppError}
    (failed : (call.respond deployment).Run (last.historyAt index) (.fail error))
    (refusal : error.isAcceptanceRefusal = true) (serves : Spawned rest index call.entry) :
    Exists fun step => step ∈ rest ∧ LooksUp step index call := by
  have unknown : Unknown (last.historyAt index) call :=
    (reachable_call initial run failed : CallEnds call _ (.error error)) refusal
  rcases following.event_since unknown.1 with before | ⟨step, member, choice, resume, acts, here, _⟩
  · rw [following.historyAt_of_spawned serves] at before
    cases before
  · exact ⟨step, member, ⟨choice, acts⟩, SystemState.pending_of_getElem? here⟩

/-- A replay after the creation of the job is not refused for the rate limit or
an active job. -/
theorem replay_not_refused (initial : first.Initial) {earlier : List (Transition (gitMate deployment))}
    (run : Execution first earlier middle) (following : Execution middle rest last) {index : Nat}
    {call : ApiCall} {row : AnalysisJob} (created : CreatedFor first middle call row)
    (replays : Spawned rest index call.entry ∨
      Exists fun step => step ∈ rest ∧ LooksUp step index call)
    {error : AppError}
    (failed : (call.respond deployment).Run (last.historyAt index) (.fail error)) :
    error.isAcceptanceRefusal = false := by
  cases refusal : error.isAcceptanceRefusal with
  | false => rfl
  | true =>
      have whole := run.append following
      have lookup : Exists fun step => step ∈ rest ∧ LooksUp step index call := by
        rcases replays with serves | lookup
        · exact lookup_of_refused initial whole following failed refusal serves
        · exact lookup
      rcases lookup with ⟨step, member, looksUp⟩
      rcases List.append_of_mem member with ⟨front, back, rfl⟩
      rcases created.later following.around.1 with ⟨later, laterCreated, _⟩
      rw [← List.append_assoc] at whole
      rw [not_refused_of_lookup initial whole looksUp laterCreated failed] at refusal
      cases refusal

/-- Idempotent acceptance, over every run of any number of calls, replays,
publish outcomes and progress of the job.  At most one job is created under a
key of a user.  A call that returns returns this job, which carries its own
request.  A call with another request neither returns nor changes anything.  A
call that starts, or looks its key up, after the creation is not refused for
the rate limit or an active job.  Calls of other users or with other keys
return other jobs. -/
theorem acceptance_idempotent (initial : first.Initial) (run : Execution first steps last) :
    (forall call left right, CreatedFor first last call left -> CreatedFor first last call right ->
      left = right) ∧
    (forall index call response, Returned steps last index call response ->
      Exists fun row => CreatedFor first last call row ∧ row.id = response.record.job.id ∧
        row.requestHash = call.requestHash) ∧
    (forall index call row, CreatedFor first last call row ->
      row.requestHash ≠ call.requestHash ->
        (forall response, ¬ Returned steps last index call response) ∧
        forall earlier step rest choice, steps = earlier ++ step :: rest ->
          Spawned earlier index call.entry -> step.label = .act index choice ->
            step.after.db = step.before.db) ∧
    (forall earlier rest middle, steps = earlier ++ rest -> Execution first earlier middle ->
      Execution middle rest last -> forall index call row, CreatedFor first middle call row ->
        (Spawned rest index call.entry ∨ Exists fun step => step ∈ rest ∧ LooksUp step index call) ->
          forall error, Refused steps last index call error ->
            error.isAcceptanceRefusal = false) ∧
    (forall index other call otherCall response otherResponse,
      Returned steps last index call response ->
        Returned steps last other otherCall otherResponse ->
          call.userId ≠ otherCall.userId ∨ call.key ≠ otherCall.key ->
            response.record.job.id ≠ otherResponse.record.job.id) := by
  have returns : forall index call response, Returned steps last index call response ->
      Exists fun row => CreatedFor first last call row ∧ row.id = response.record.job.id ∧
        row.requestHash = call.requestHash := by
    intro index call response returned
    have answers : Answers (last.historyAt index) call response.record :=
      reachable_call initial run returned.answered
    exact answers.row initial run
  refine ⟨fun call left right leftCreated rightCreated => leftCreated.unique run rightCreated,
    returns, fun index call row created foreign => ⟨fun response returned => ?_, ?_⟩, ?_, ?_⟩
  · rcases returns index call response returned with ⟨own, ownCreated, _, sameHash⟩
    cases created.unique run ownCreated
    exact foreign sameHash
  · rintro earlier step rest choice rfl serves acts
    exact foreign_call_idle initial run serves acts created foreign
  · rintro earlier rest middle rfl leading following index call row created replays error refused
    exact replay_not_refused initial leading following created replays refused.failed
  · intro index other call otherCall response otherResponse returned otherReturned different same
    rcases returns _ _ _ returned with ⟨row, created, sameId, _⟩
    rcases returns _ _ _ otherReturned with ⟨otherRow, otherCreated, otherId, _⟩
    have equal : row.id = otherRow.id := sameId.trans (same.trans otherId.symm)
    have found := created.found
    rw [equal, otherCreated.found] at found
    cases Option.some.inj found
    rcases different with user | key
    · exact user (created.userId.symm.trans otherCreated.userId)
    · exact key (created.idempotencyKey.symm.trans otherCreated.idempotencyKey)

/-- A process that has finished without being stopped has answered its call. -/
theorem returned_of_finished (run : Execution first steps last) {index : Nat} {call : ApiCall}
    (serves : Spawned steps index call.entry) (unstopped : ¬ Crashed steps index)
    {past : History Services} (finished : last.processes[index]? = some ⟨.done (), past⟩) :
    Exists fun response => Returned steps last index call response := by
  rcases run.follows serves with ⟨process, here, remaining, through, goes⟩
  cases here.symm.trans finished
  have history : last.historyAt index = past := State.historyAt_of_getElem? here
  change (call.entry.program deployment).Run past remaining at through
  rw [ApiCall.entry_program, ← history] at through
  rcases through.of_bind with ⟨left, before, rfl⟩
  rcases goes with same | ⟨_, stopped⟩
  · cases left with
    | done response => exact ⟨response, serves, before⟩
    | fail | request => cases same
  · exact absurd stopped unstopped

end Runs

/-- The call of the small world. -/
def smallCall : ApiCall := ⟨1, "key-1", .create "R1"⟩

/-- The job of the small call is accepted and published. -/
def acceptedState : SystemState DEFAULT_DEPLOYMENT :=
  (smallState DEFAULT_DEPLOYMENT).after
    ([.spawn smallCall.entry] ++ perform 0 (createChoices 1000 1 100 ++ publishChoices 1000))

def replayingState : SystemState DEFAULT_DEPLOYMENT := acceptedState.after [.spawn smallCall.entry]

/-- The same call again, which finds the job. -/
def replayScript : List (SystemLabel DEFAULT_DEPLOYMENT) :=
  perform 1 [.answer 2000, .answer 2000, .date 2000, .uuid 200]

def replayedState : SystemState DEFAULT_DEPLOYMENT := replayingState.after replayScript

/-- No process is stopped in a step. -/
def uncrashed {deployment : Deployment} (step : Transition (gitMate deployment)) : Bool :=
  match step.label with
  | .crash _ => false
  | _ => true

theorem not_crashed {deployment : Deployment} {steps : List (Transition (gitMate deployment))}
    (checked : forall step, step ∈ steps -> uncrashed step = true) (index : Nat) :
    ¬ Crashed steps index := by
  rintro ⟨step, member, stopped⟩
  have passed := checked step member
  rw [uncrashed, stopped] at passed
  cases passed

/-- The replay in the small world returns the job that the first call has
created. -/
theorem acceptance_idempotent_replay :
    Exists fun steps => Exists fun response =>
      Returned steps replayedState 1 smallCall response ∧ Exists fun row =>
        CreatedFor (smallState DEFAULT_DEPLOYMENT) replayedState smallCall row ∧
          row.id = response.record.job.id ∧ row.requestHash = smallCall.requestHash := by
  rcases State.passes_run (show (smallState DEFAULT_DEPLOYMENT).passes uncrashed
    ([.spawn smallCall.entry] ++ perform 0 (createChoices 1000 1 100 ++ publishChoices 1000)) = true
    by decide +kernel) with ⟨earlier, leading, checkedLeading⟩
  have spawnStep : acceptedState.step (.spawn smallCall.entry) = some replayingState :=
    State.after_step (by decide +kernel)
  rcases State.passes_run (show replayingState.passes uncrashed replayScript = true
    by decide +kernel) with ⟨later, replaying, checkedReplaying⟩
  have run := (leading.next spawnStep).append replaying
  have serves : Spawned (earlier ++ [⟨acceptedState, .spawn smallCall.entry, replayingState⟩] ++
      later) 1 smallCall.entry :=
    ⟨_, List.mem_append_left _ (List.mem_append_right _ List.mem_cons_self), rfl,
      show acceptedState.processes.length = 1 by decide +kernel⟩
  have unstopped := not_crashed (fun step (member : step ∈ earlier ++
      [⟨acceptedState, .spawn smallCall.entry, replayingState⟩] ++ later) => (by
    rcases List.mem_append.mp member with before | after
    · rcases List.mem_append.mp before with first | now
      · exact checkedLeading step first
      · rw [List.mem_singleton] at now
        subst now
        rfl
    · exact checkedReplaying step after)) 1
  have finished : Exists fun past => replayedState.processes[1]? = some ⟨.done (), past⟩ :=
    ⟨_, rfl⟩
  rcases finished with ⟨past, finished⟩
  rcases returned_of_finished run serves unstopped finished with ⟨response, returned⟩
  exact ⟨_, response, returned,
    (acceptance_idempotent (smallState_initial DEFAULT_DEPLOYMENT) run).2.1 1 smallCall response
      returned⟩

end GitMate
