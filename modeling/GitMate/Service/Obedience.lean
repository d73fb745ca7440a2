import GitMate.Service.Discipline

namespace GitMate

open Interleaving

/-!
# The services keep the discipline

Every procedure is shown to keep the discipline from the facts that its caller
has established.  The proofs follow the code statement by statement: each
operation extends the history by one event, and the facts that later
operations need are read off that event.
-/

variable {deployment : Deployment} {past : History Services}

/-- An operation whose dependencies are met extends the history by itself. -/
theorem keeps_perform {op : Op} (permitted : op.Permitted deployment past) :
    Keeps deployment (fun later ending => later = past ++ [⟨op, ending⟩] ∧ op.Credible ending) past
      (Service.perform op) :=
  Program.obeys_perform permitted

theorem obeys_ofExcept {α : Type} {D : Discipline Services} (checked : Except AppError α) :
    Program.Obeys D (fun later ending => later = past ∧ ending = checked) past
      (Service.ofExcept checked) := by
  cases checked with
  | ok value => exact ⟨rfl, rfl⟩
  | error error => exact ⟨rfl, rfl⟩

theorem keeps_ofExcept {α : Type} (checked : Except AppError α) :
    Keeps deployment (fun later ending => later = past ∧ ending = checked) past
      (Service.ofExcept checked) := obeys_ofExcept checked

theorem happened_append {op : Op} {outcome : Except AppError op.Reply} :
    Happened (past ++ [⟨op, outcome⟩]) op outcome :=
  List.mem_append_right past List.mem_cons_self

/-- An acknowledged claim or start gives its process the lease. -/
theorem holds_append {change : JobUpdate} {jobId : JobId} {leaseToken : Uuid}
    (leases : change.leases = some (jobId, leaseToken)) :
    Holds (past ++ [⟨.command (.update change), .ok true⟩]) jobId leaseToken :=
  ⟨change, happened_append, leases⟩

/-- A procedure that keeps the discipline also keeps it with nothing to show
at its end. -/
theorem keeps_any {α : Type} {ends : Services.Post α} {program : Service α}
    (keeps : Keeps deployment ends past program) :
    Keeps deployment (fun _ _ => True) past program :=
  keeps.mono fun _ _ _ _ => trivial

/-! ## Publisher -/

theorem handlePublishFailure_keeps {attempt : PublishAttempt} {error : AppError} {random : Rat}
    (settings : deployment.publishSettings = .ok attempt.settings)
    (sent : openPublication past = some ⟨attempt.claim, some (.error error)⟩) :
    Keeps deployment (fun _ _ => True) past (handlePublishFailure attempt error random) := by
  have permitted : Op.Permitted deployment past
      (.command (.update (.recordFailure (attempt.failure error random)))) :=
    ⟨⟨attempt, settings, error, random, sent, rfl⟩, trivial⟩
  refine Program.Obeys.bind (keeps_perform permitted) (fun later recorded _ _ => ?_) (fun _ _ _ _ => trivial)
  split
  · trivial
  · split <;> trivial

theorem sendClaimed_keeps {attempt : PublishAttempt} {traceId : Uuid}
    (settings : deployment.publishSettings = .ok attempt.settings)
    (claimed : openPublication past = some ⟨attempt.claim, none⟩) :
    Keeps deployment (fun _ _ => True) past (sendClaimed attempt traceId) := by
  have permitted : Op.Permitted deployment past (.publishMessage attempt.job.id
      attempt.job.userId attempt.job.repositoryId traceId) := ⟨attempt, claimed, rfl, rfl, rfl⟩
  refine Program.Obeys.bind (Program.Obeys.attempt (keeps_perform permitted))
    (fun later sent _ performed => ?_) (fun _ _ _ _ => trivial)
  rcases performed with ⟨outcome, same, rfl, _⟩
  cases same
  cases sent with
  | error error =>
      refine Program.Obeys.bind (keeps_perform trivial) (fun later random _ drawn => ?_)
        (fun _ _ _ _ => trivial)
      rcases drawn with ⟨rfl, _⟩
      refine handlePublishFailure_keeps settings ?_
      simp only [openPublication_append, Op.publicationAfter, claimed, Option.map_some]
  | ok _ =>
      refine Program.Obeys.bind (keeps_perform ⟨⟨attempt, ?_, rfl⟩, trivial⟩)
        (fun later recorded _ _ => ?_) (fun _ _ _ _ => trivial)
      · simp only [openPublication_append, Op.publicationAfter, claimed, Option.map_some]
      · split <;> trivial

/-- A due job is not a synchronous one. -/
theorem isDue_not_isSync {job : AnalysisJobPublishRecord} {now : Instant}
    {republishAfterSeconds : Nat} {allowRepublish : Bool}
    (due : isDue job now republishAfterSeconds allowRepublish = true) : job.isSync = false := by
  unfold isDue at due
  split at due
  · cases due
  · rename_i excluded
    simp only [not_or, Bool.not_eq_true] at excluded
    exact excluded.2.1

theorem publishDue_keeps {job : AnalysisJobPublishRecord} {allowRepublish : Bool} {now : Instant}
    {traceId : Uuid} (seen : Seen past job) :
    Keeps deployment (fun _ _ => True) past
      (publishDue deployment job allowRepublish now traceId) := by
  refine Program.Obeys.bind (keeps_ofExcept _) (fun later settings _ read => ?_) (fun _ _ _ _ => trivial)
  rcases read with ⟨rfl, configured⟩
  split
  · trivial
  · rename_i due
    split
    · trivial
    · refine Program.Obeys.bind (keeps_ofExcept _) (fun later _ _ checked => ?_) (fun _ _ _ _ => trivial)
      rcases checked with ⟨rfl, _⟩
      have notSync := isDue_not_isSync (Bool.not_eq_false _ ▸ due)
      refine Program.Obeys.bind (keeps_perform ⟨⟨seen, notSync, rfl⟩, trivial⟩)
        (fun later claimed _ done => ?_) (fun _ _ _ _ => trivial)
      rcases done with ⟨rfl, _⟩
      cases claimed with
      | false => exact trivial
      | true => exact sendClaimed_keeps configured.symm (openPublication_append _ _ _)

theorem publish_keeps {job : AnalysisJobPublishRecord} {allowRepublish : Bool} {now : Instant}
    (seen : Seen past job) :
    Keeps deployment (fun _ _ => True) past (publish deployment job allowRepublish now) := by
  refine Program.Obeys.bind (keeps_perform trivial) (fun later traceId extended _ => ?_) (fun _ _ _ _ => trivial)
  exact (publishDue_keeps (seen.mono extended)).tryCatch (fun _ _ _ _ => trivial)
    (fun _ _ _ _ => trivial)

theorem publishAcceptedJob_keeps {job : AnalysisJobPublishRecord} (seen : Seen past job) :
    Keeps deployment (fun _ _ => True) past (publishAcceptedJob deployment job) := by
  refine Program.Obeys.bind (keeps_perform trivial) (fun later now extended _ => ?_) (fun _ _ _ _ => trivial)
  exact publish_keeps (seen.mono extended)

theorem reconcileJobs_keeps {now : Instant} {jobs : List AnalysisJobPublishRecord}
    {summary : AnalysisJobReconcileSummary} (seen : forall job, job ∈ jobs -> Seen past job) :
    Keeps deployment (fun _ _ => True) past (reconcileJobs deployment now jobs summary) := by
  induction jobs generalizing past summary with
  | nil => trivial
  | cons job rest inductionHypothesis =>
      refine (publish_keeps (seen job List.mem_cons_self)).attempt.bind
        (fun later outcome extended _ => ?_) (fun _ _ _ _ => trivial)
      exact inductionHypothesis fun other member =>
        (seen other (List.mem_cons_of_mem job member)).mono extended

theorem runOnce_keeps : Keeps deployment (fun _ _ => True) past (runOnce deployment) := by
  refine Program.Obeys.bind (keeps_perform trivial) (fun later now _ _ => ?_) (fun _ _ _ _ => trivial)
  refine Program.Obeys.bind (keeps_ofExcept _) (fun later settings _ _ => ?_) (fun _ _ _ _ => trivial)
  refine Program.Obeys.bind (keeps_perform trivial) (fun later jobs _ read => ?_) (fun _ _ _ _ => trivial)
  rcases read with ⟨rfl, _⟩
  exact reconcileJobs_keeps fun job member => .due happened_append member

/-! ## API -/

/-- An acceptance that returns has seen the job it returns. -/
def ReturnsSeen (later : History Services) (ending : Services.Ending AcceptedAnalysisJob) : Prop :=
  forall accepted, ending = .ok accepted -> Seen later accepted.record.job

theorem returnsSeen_error (later : History Services) (error : AppError) :
    ReturnsSeen later (.error error) := fun _ same => by cases same

theorem replayExisting_keeps {userId : UserId} {existing : AnalysisJobApiRecord}
    {requestHash : RequestHash} (seen : Seen past existing.job) :
    Keeps deployment ReturnsSeen past (replayExisting userId existing requestHash) := by
  refine Program.Obeys.bind (keeps_ofExcept _) (fun later record _ resolved => ?_)
    (fun later error _ _ => returnsSeen_error later error)
  rcases resolved with ⟨rfl, same⟩
  have unchanged : record = existing := by
    unfold resolveExisting at same
    split at same
    · cases same
    · exact Except.ok.inj same
  refine Program.Obeys.bind (keeps_perform trivial) (fun later rateLimit extended _ => ?_)
    (fun later error _ _ => returnsSeen_error later error)
  intro accepted returned
  cases returned
  exact unchanged ▸ seen.mono extended

theorem RetrySource.mono {later : History Services} (extended : past <+: later) {userId : UserId}
    {request : JobRequest} {source : Option AnalysisJobApiRecord}
    (retried : RetrySource past userId request source) :
    RetrySource later userId request source := by
  cases request with
  | create githubRepoId => trivial
  | retry sourceJobId =>
      rcases retried with ⟨record, same, read, retryable⟩
      exact ⟨record, same, Learned.mono extended read, retryable⟩

theorem acceptNew_keeps {userId : UserId} {idempotencyKey : String} {request : JobRequest}
    {source : Option AnalysisJobApiRecord}
    (valid : IdempotencyKeyPipe.isValid idempotencyKey = true)
    (retried : RetrySource past userId request source) :
    Keeps deployment ReturnsSeen past (acceptNew userId idempotencyKey request source) := by
  refine Program.Obeys.bind (keeps_perform trivial) (fun later rateLimit limited _ => ?_)
    (fun later error _ _ => returnsSeen_error later error)
  split
  · exact returnsSeen_error _ _
  split
  · exact returnsSeen_error _ _
  refine Program.Obeys.bind (keeps_perform trivial) (fun later found extended read => ?_)
    (fun later error _ _ => returnsSeen_error later error)
  rcases read with ⟨rfl, _⟩
  cases found with
  | none => exact returnsSeen_error _ _
  | some owned =>
      simp only
      split
      · exact returnsSeen_error _ _
      refine Program.Obeys.bind (keeps_ofExcept _) (fun later window _ computed => ?_)
        (fun later error _ _ => returnsSeen_error later error)
      rcases computed with ⟨rfl, windowed⟩
      have retriedLater := retried.mono (limited.trans extended)
      refine Program.Obeys.bind
        (keeps_perform ⟨.api valid happened_append retriedLater windowed.symm, trivial⟩)
        (fun later job _ created => ?_) (fun later error _ _ => returnsSeen_error later error)
      rcases created with ⟨rfl, _⟩
      refine Program.Obeys.bind (keeps_perform trivial) (fun later after extended _ => ?_)
        (fun later error _ _ => returnsSeen_error later error)
      intro accepted returned
      cases returned
      exact Seen.mono extended (.inserted happened_append)

theorem acceptInTransaction_keeps {userId : UserId} {idempotencyKey : String}
    {request : JobRequest} {source : Option AnalysisJobApiRecord}
    (valid : IdempotencyKeyPipe.isValid idempotencyKey = true)
    (retried : RetrySource past userId request source) :
    Keeps deployment ReturnsSeen past
      (acceptInTransaction userId idempotencyKey request source) := by
  refine Program.Obeys.bind (keeps_perform trivial) (fun later existing extended read => ?_)
    (fun later error _ _ => returnsSeen_error later error)
  rcases read with ⟨rfl, _⟩
  cases existing with
  | some existing => exact replayExisting_keeps (.replayed happened_append)
  | none => exact acceptNew_keeps valid (retried.mono extended)

theorem recoverAcceptance_keeps {userId : UserId} {idempotencyKey : String} {request : JobRequest}
    {error : AppError} :
    Keeps deployment ReturnsSeen past
      (recoverAcceptance userId idempotencyKey request error) := by
  unfold recoverAcceptance
  split
  · refine Program.Obeys.bind (keeps_perform trivial) (fun later existing _ read => ?_)
      (fun later error _ _ => returnsSeen_error later error)
    rcases read with ⟨rfl, _⟩
    cases existing with
    | some existing => exact replayExisting_keeps (.replayed happened_append)
    | none => exact returnsSeen_error _ _
  · exact returnsSeen_error _ _

theorem acceptJob_keeps {userId : UserId} {idempotencyKey : String} {request : JobRequest}
    {source : Option AnalysisJobApiRecord}
    (valid : IdempotencyKeyPipe.isValid idempotencyKey = true)
    (retried : RetrySource past userId request source) :
    Keeps deployment ReturnsSeen past (acceptJob userId idempotencyKey request source) :=
  (acceptInTransaction_keeps valid retried).tryCatch (fun _ _ _ accepted => accepted)
    (fun _ _ _ _ => recoverAcceptance_keeps)

theorem transform_keeps (value : String) :
    Keeps deployment (fun later ending => later = past ∧
      forall key, ending = .ok key -> IdempotencyKeyPipe.isValid key = true) past
      (IdempotencyKeyPipe.transform value) := by
  unfold IdempotencyKeyPipe.transform
  split
  · rename_i valid
    exact ⟨rfl, fun key same => by cases same; exact valid⟩
  · exact ⟨rfl, fun key same => by cases same⟩

/-- Publishing an accepted job is all that follows an acceptance. -/
theorem acceptAndPublish_keeps {accept : Service AcceptedAnalysisJob}
    (accepts : Keeps deployment ReturnsSeen past accept) :
    Keeps deployment (fun _ _ => True) past (do
      let accepted <- accept
      let _ <- publishAcceptedJob deployment accepted.record.job
      pure ()) := by
  refine Program.Obeys.bind accepts (fun later accepted _ seen => ?_) (fun _ _ _ _ => trivial)
  exact Program.Obeys.bind (publishAcceptedJob_keeps (seen accepted rfl)) (fun _ _ _ _ => trivial)
    (fun _ _ _ _ => trivial)

theorem create_keeps (userId : UserId) (githubRepoId key : String) :
    Keeps deployment (fun _ _ => True) past
      (AnalysisJobApiService.create deployment userId githubRepoId key) := by
  refine Program.Obeys.bind (transform_keeps key) (fun later idempotencyKey _ transformed => ?_)
    (fun _ _ _ _ => trivial)
  exact acceptAndPublish_keeps (acceptJob_keeps (transformed.2 idempotencyKey rfl) trivial)

theorem retry_keeps (userId : UserId) (sourceJobId : JobId) (key : String) :
    Keeps deployment (fun _ _ => True) past
      (AnalysisJobApiService.retry deployment userId sourceJobId key) := by
  refine Program.Obeys.bind (transform_keeps key) (fun later idempotencyKey _ transformed => ?_)
    (fun _ _ _ _ => trivial)
  refine Program.Obeys.bind (keeps_perform trivial) (fun later source _ read => ?_)
    (fun _ _ _ _ => trivial)
  rcases read with ⟨rfl, _⟩
  cases source with
  | none => trivial
  | some source =>
      simp only
      split
      · trivial
      · rename_i retryable
        simp only [not_or, ne_eq, not_not] at retryable
        exact acceptAndPublish_keeps (acceptJob_keeps (transformed.2 idempotencyKey rfl)
          ⟨source, rfl, happened_append, retryable⟩)

/-! ## Runner -/

/-- A procedure that returns has learned that the job is over. -/
def Concludes {α : Type} (jobId : JobId) (later : History Services)
    (ending : Services.Ending α) : Prop :=
  forall value, ending = .ok value -> Finished later jobId

theorem concludes_error {α : Type} (jobId : JobId) (later : History Services) (error : AppError) :
    Concludes (α := α) jobId later (.error error) := fun _ same => by cases same

/-- A termination without a charge refunds the whole reservation. -/
theorem Termination.unbilled_balanced {job : JobExecution} {errorCode : AnalysisJobFailureCode}
    {refundTokens : Int} {completionAction : Option CompletionAction} {completedAt : Instant}
    (whole : refundTokens = job.reservedTokens.getD 0) :
    ((Termination.unbilled errorCode refundTokens completionAction).input job
      completedAt).Balanced where
  unreserved unreserved := by
    have nothing : job.reservedTokens = none := unreserved
    rw [nothing, Option.getD_none] at whole
    exact ⟨whole.le, le_refl 0⟩
  unsettled unsettled := by cases unsettled
  settled := by
    intro _ usage reserved used held
    cases used
    have amount : job.reservedTokens = some reserved := held
    rw [amount, Option.getD_some] at whole
    refine Or.inl ⟨le_refl 0, ?_, fun nonneg => nonneg⟩
    change refundTokens = reserved - 0
    omega

/-- A reconciliation settles exactly the difference between the reservation
and the charge, or nothing. -/
theorem Termination.reconciliation_balanced {job : JobExecution} {reservedTokens : Option Int}
    {providerRequestId : Option String} {usage : Option AnalysisTokenUsage}
    {completedAt : Instant} (held : job.reservedTokens = reservedTokens) :
    ((Termination.reconciliation reservedTokens providerRequestId usage).input job
      completedAt).Balanced := by
  cases usage with
  | none =>
      exact ⟨fun _ => ⟨le_refl 0, le_refl 0⟩, fun _ => le_refl 0, (fun settled => by cases settled)⟩
  | some used =>
      cases reservedTokens with
      | none =>
          exact ⟨fun _ => ⟨le_refl 0, le_refl 0⟩, fun _ => le_refl 0,
            (fun settled => by cases settled)⟩
      | some reserved =>
          have held' : forall other, job.reservedTokens = some other -> other = reserved :=
            fun other same => Option.some.inj (same.symm.trans held)
          unfold Termination.reconciliation
          by_cases exceeded : reserved < used.totalTokens
          · simp only [exceeded, if_true]
            refine ⟨fun unreserved => ?_, (fun unsettled => by cases unsettled), ?_⟩
            · rw [show job.reservedTokens = none from unreserved] at held
              cases held
            · intro _ usage other sameUsage sameReserved
              cases sameUsage
              rw [held' other sameReserved]
              exact Or.inr ⟨le_refl 0, rfl, exceeded⟩
          · simp only [exceeded, if_false]
            refine ⟨fun unreserved => ?_, (fun unsettled => by cases unsettled), ?_⟩
            · rw [show job.reservedTokens = none from unreserved] at held
              cases held
            · intro _ usage other sameUsage sameReserved
              cases sameUsage
              rw [held' other sameReserved]
              refine Or.inl ⟨le_refl 0, ?_, fun _ => not_lt.mp exceeded⟩
              change max 0 (reserved - used.totalTokens) = reserved - used.totalTokens
              omega

theorem Termination.reconciliation_errorCode {reservedTokens : Option Int}
    {providerRequestId : Option String} {usage : Option AnalysisTokenUsage} :
    (Termination.reconciliation reservedTokens providerRequestId usage).errorCode ≠
      .publishFailed := by
  unfold Termination.reconciliation
  split
  · split
    · exact fun same => by cases same
    · exact fun same => by cases same
  · exact fun same => by cases same

/-- The process holds the lease under which it runs the job, and knows what
is recorded of a charge. -/
structure Running (past : History Services) (jobId : JobId) (leaseToken : Uuid)
    (charge : ProviderCharge) : Prop where
  holds : Holds past jobId leaseToken
  known : knownCharge past = some ⟨jobId, leaseToken, charge⟩

/-- An operation that concerns no charge. -/
theorem Running.append {jobId : JobId} {leaseToken : Uuid} {charge : ProviderCharge}
    (running : Running past jobId leaseToken charge) {op : Op} {outcome : Except AppError op.Reply}
    (silent : op.chargeAfter (knownCharge past) outcome = knownCharge past) :
    Running (past ++ [⟨op, outcome⟩]) jobId leaseToken charge where
  holds := running.holds.mono (List.prefix_append _ _)
  known := by
    rw [knownCharge_append, silent]
    exact running.known

/-- What a procedure that records no charge leaves known. -/
def SameCharge {α : Type} (past later : History Services) (_ : Services.Ending α) : Prop :=
  knownCharge later = knownCharge past

theorem Running.later {jobId : JobId} {leaseToken : Uuid} {charge : ProviderCharge}
    (running : Running past jobId leaseToken charge) {later : History Services}
    (extended : past <+: later) (same : knownCharge later = knownCharge past) :
    Running later jobId leaseToken charge :=
  ⟨running.holds.mono extended, same.trans running.known⟩

/-- A process that asked for a charge to be recorded knows of that charge or
of none. -/
structure Charging (past : History Services) (jobId : JobId) (leaseToken : Uuid)
    (charge : ProviderCharge) : Prop where
  holds : Holds past jobId leaseToken
  charges : Charges past jobId leaseToken charge

theorem Running.charging {jobId : JobId} {leaseToken : Uuid} {known charge : ProviderCharge}
    (running : Running past jobId leaseToken known)
    (agrees : known = .none ∨ charge = known ∨ charge = known.checkpoint) :
    Charging past jobId leaseToken charge :=
  ⟨running.holds, known, running.known, agrees⟩

theorem Charging.append {jobId : JobId} {leaseToken : Uuid} {charge : ProviderCharge}
    (charging : Charging past jobId leaseToken charge) {op : Op}
    {outcome : Except AppError op.Reply}
    (silent : op.chargeAfter (knownCharge past) outcome = knownCharge past) :
    Charging (past ++ [⟨op, outcome⟩]) jobId leaseToken charge := by
  rcases charging.charges with ⟨known, read, agrees⟩
  exact (Running.append ⟨charging.holds, read⟩ silent).charging agrees

theorem recordProviderCharge_keeps (input : RecordAnalysisJobProviderChargeInput)
    (running : Running past input.jobId input.expectedLeaseToken .none) :
    Keeps deployment (fun later ending =>
      Charging later input.jobId input.expectedLeaseToken input.charge ∧
      (ending = .ok () -> Running later input.jobId input.expectedLeaseToken input.charge)) past
      (recordProviderCharge input) := by
  refine Program.Obeys.bind (keeps_ofExcept _) (fun later _ _ checked => ?_)
    (fun later error _ checked => ?_)
  · rcases checked with ⟨rfl, valid⟩
    have permitted : Op.Permitted deployment later
        (.command (.update (.recordProviderCharge input))) :=
      ⟨⟨valid.symm, running.holds, running.known⟩, trivial⟩
    have recorded : forall outcome, Running (later ++
        [⟨.command (.update (.recordProviderCharge input)), outcome⟩]) input.jobId
        input.expectedLeaseToken input.charge := fun outcome =>
      ⟨running.holds.mono (List.prefix_append _ _), knownCharge_append _ _ _⟩
    refine Program.Obeys.bind (keeps_perform permitted) (fun last applied _ done => ?_)
      (fun last error _ done => ?_)
    · rcases done with ⟨rfl, _⟩
      have known := recorded (.ok applied)
      split
      · exact ⟨known.charging (Or.inr (Or.inl rfl)), fun _ => known⟩
      · exact ⟨known.charging (Or.inr (Or.inl rfl)), fun same => by cases same⟩
    · rcases done with ⟨rfl, _⟩
      exact ⟨(recorded (.error error)).charging (Or.inr (Or.inl rfl)), fun same => by cases same⟩
  · rcases checked with ⟨rfl, _⟩
    exact ⟨running.charging (Or.inl rfl), fun same => by cases same⟩

theorem Termination.reconciliation_charge {reservedTokens : Option Int}
    {providerRequestId : Option String} {usage : Option AnalysisTokenUsage} {job : JobExecution}
    {completedAt : Instant} :
    ((Termination.reconciliation reservedTokens providerRequestId usage).input job
      completedAt).charge = AnalysisTokenUsage.charge usage providerRequestId.toList := by
  unfold Termination.reconciliation
  split
  · split <;> rfl
  · rfl

theorem Termination.reconciliation_completionAction {reservedTokens : Option Int}
    {providerRequestId : Option String} {usage : Option AnalysisTokenUsage} :
    (Termination.reconciliation reservedTokens providerRequestId usage).completionAction =
      none := by
  unfold Termination.reconciliation
  split
  · split <;> rfl
  · rfl

/-- The callback of a caller, which runs under the lease of the job. -/
def Calls (deployment : Deployment) (jobId : JobId) (leaseToken : Uuid)
    (callback : Service Unit) : Prop :=
  forall past, Holds past jobId leaseToken -> Keeps deployment (SameCharge past) past callback

namespace JobExecution

variable {job : JobExecution}

theorem terminate_keeps {termination : Termination}
    (balanced : forall completedAt, (termination.input job completedAt).Balanced)
    (code : termination.errorCode ≠ .publishFailed)
    (charging : forall completedAt, Charging past job.jobId job.leaseToken
      (termination.input job completedAt).charge)
    (completes : forall completedAt, Completes past (termination.input job completedAt)) :
    Keeps deployment (Concludes job.jobId) past (job.terminate termination) := by
  refine Program.Obeys.bind (keeps_perform trivial) (fun later completedAt extended read => ?_)
    (fun later error _ _ => concludes_error _ later error)
  rcases read with ⟨rfl, _⟩
  have held : Charging (past ++ [⟨.currentDate, .ok completedAt⟩]) job.jobId job.leaseToken
      (termination.input job completedAt).charge := (charging completedAt).append rfl
  have permitted : Op.Permitted deployment (past ++ [⟨.currentDate, .ok completedAt⟩])
      (.command (.terminateWorkerJob (termination.input job completedAt))) :=
    ⟨⟨code, held.holds, held.charges, (completes completedAt).mono extended⟩,
      balanced completedAt⟩
  refine (keeps_perform permitted).mono fun last ending _ performed => ?_
  rcases performed with ⟨rfl, _⟩
  intro reply same
  cases same
  exact .terminated happened_append rfl

/-- A termination of a job without a charge that completes nothing. -/
theorem terminate_unbilled_keeps {errorCode : AnalysisJobFailureCode} {refundTokens : Int}
    (whole : refundTokens = job.reservedTokens.getD 0) (code : errorCode ≠ .publishFailed)
    (running : Running past job.jobId job.leaseToken .none) :
    Keeps deployment (Concludes job.jobId) past
      (job.terminate (.unbilled errorCode refundTokens none)) :=
  terminate_keeps (fun _ => Termination.unbilled_balanced whole) code
    (fun _ => running.charging (Or.inl rfl)) (fun _ => .nothing rfl)

theorem terminateProviderReconciliation_keeps {reservedTokens : Option Int}
    {providerRequestId : Option String} {usage : Option AnalysisTokenUsage}
    (held : job.reservedTokens = reservedTokens)
    (charging : Charging past job.jobId job.leaseToken
      (AnalysisTokenUsage.charge usage providerRequestId.toList)) :
    Keeps deployment (Concludes job.jobId) past
      (job.terminateProviderReconciliation reservedTokens providerRequestId usage) :=
  terminate_keeps (fun _ => Termination.reconciliation_balanced held)
    Termination.reconciliation_errorCode
    (fun _ => Termination.reconciliation_charge ▸ charging)
    (fun _ => .nothing Termination.reconciliation_completionAction)

theorem persistReconciliation_keeps {reservedTokens : Option Int}
    {providerRequestId : Option String} {usage : Option AnalysisTokenUsage}
    (held : job.reservedTokens = reservedTokens)
    (charging : Charging past job.jobId job.leaseToken
      (AnalysisTokenUsage.charge usage providerRequestId.toList)) :
    Keeps deployment (Concludes job.jobId) past
      (job.persistReconciliation reservedTokens providerRequestId usage) :=
  (terminateProviderReconciliation_keeps held charging).tryCatch (fun _ _ _ concluded => concluded)
    (fun later _ _ _ => concludes_error _ later _)

theorem checkpointAndTerminate_keeps {reservedTokens : Int} {providerRequestId : Option String}
    {reported : Option AnalysisTokenUsage} (held : job.reservedTokens = some reservedTokens)
    (running : Running past job.jobId job.leaseToken .none) :
    Keeps deployment (Concludes job.jobId) past
      (job.checkpointAndTerminate reservedTokens providerRequestId reported) := by
  cases providerRequestId with
  | none =>
      exact persistReconciliation_keeps held (running.charging (Or.inl rfl))
  | some requestId =>
      refine Program.Obeys.bind (Program.Obeys.attempt (recordProviderCharge_keeps
        (job.chargeInput reservedTokens (getValidTokenUsageOrNull reported) requestId) running))
        (fun later checkpoint _ attempted => ?_)
        (fun later error _ _ => concludes_error _ later error)
      rcases attempted with ⟨result, _, charging, _⟩
      exact persistReconciliation_keeps held charging

theorem ensureWorkerTokenReservation_keeps (reservation : TokenReservation)
    (holds : Holds past job.jobId job.leaseToken) :
    Keeps deployment (fun later ending => knownCharge later = knownCharge past ∧
      forall held, job.reservedTokens = some held ->
        (forall reserved, ending = .ok reserved -> reserved = held) ∧
          ending ≠ .error .insufficientAnalysisTokens) past
      (job.ensureWorkerTokenReservation reservation) := by
  refine Program.Obeys.bind (keeps_ofExcept _) (fun later _ _ checked => ?_)
    (fun later error _ checked => ?_)
  · rcases checked with ⟨rfl, _⟩
    cases known : job.reservedTokens with
    | some reserved =>
        simp only
        split
        · exact ⟨rfl, fun held _ =>
            ⟨(fun _ same => by cases same), (fun same => by cases same)⟩⟩
        · refine ⟨rfl, fun held same => ?_⟩
          cases same
          exact ⟨fun _ same => (Except.ok.inj same).symm, (fun same => by cases same)⟩
    | none =>
        refine Program.Obeys.bind (keeps_perform ⟨holds, trivial⟩) (fun _ _ _ done => ?_)
          (fun _ _ _ done => ?_)
        · rcases done with ⟨rfl, _⟩
          exact ⟨knownCharge_append _ _ _, fun held same => by cases same⟩
        · rcases done with ⟨rfl, _⟩
          exact ⟨knownCharge_append _ _ _, fun held same => by cases same⟩
  · refine ⟨congrArg knownCharge checked.1, fun held _ => ?_⟩
    refine ⟨(fun _ same => by cases same), fun same => ?_⟩
    cases same
    have assertion := checked.2
    unfold assertValidReservation at assertion
    split at assertion <;> cases assertion

variable {pipeline : Pipeline} {options : AnalysisJobRunOptions} {reservedTokens : Int}
  {collected : CollectedData}

theorem saveResult_keeps {response : LlmAnalysisResponse} {metrics : AnalysisMetrics}
    (saving : Calls deployment job.jobId job.leaseToken options.onSaving)
    (reportable : Reportable past job.jobId job.completionAction collected)
    (held : job.reservedTokens = some reservedTokens)
    (running : Running past job.jobId job.leaseToken
      (AnalysisTokenUsage.charge (some response.usage) [response.providerRequestId]))
    (enough : response.usage.totalTokens ≤ reservedTokens) :
    Keeps deployment (Concludes job.jobId) past
      (job.saveResult options reservedTokens response metrics collected) := by
  have saves : Keeps deployment (fun later ending => Concludes job.jobId later ending ∧
      Running later job.jobId job.leaseToken
        (AnalysisTokenUsage.charge (some response.usage) [response.providerRequestId])) past (do
      options.onSaving
      Service.command
        (.saveAnalysisResult (job.saveInput reservedTokens response metrics collected))) := by
    refine (saving past running.holds).bind (fun later _ extended same => ?_)
      (fun later error extended same =>
        ⟨concludes_error _ later error, running.later extended same⟩)
    have current := running.later extended same
    have permitted : Op.Permitted deployment later (.command
        (.saveAnalysisResult (job.saveInput reservedTokens response metrics collected))) :=
      ⟨⟨current.holds, current.known, reportable.mono extended⟩, enough⟩
    refine (keeps_perform permitted).mono fun last ending _ performed => ?_
    rcases performed with ⟨rfl, _⟩
    refine ⟨fun reply same => ?_, current.append rfl⟩
    cases same
    exact .saved happened_append rfl
  refine saves.attempt.bind (fun later saved _ attempted => ?_)
    (fun later error _ _ => concludes_error _ later error)
  rcases attempted with ⟨result, same, concluded, current⟩
  cases same
  cases saved with
  | ok reply => exact fun _ _ => concluded reply rfl
  | error error =>
      refine (persistReconciliation_keeps held (current.charging (Or.inr (Or.inl rfl)))).bind
        (fun last _ _ ended => ?_) (fun last error _ _ => concludes_error _ last error)
      exact fun _ _ => ended () rfl

/-- A result that is returned after a termination concludes the job. -/
theorem concludes_after {α : Type} {termination : Service Unit} {result : α}
    (concludes : Keeps deployment (Concludes job.jobId) past termination) :
    Keeps deployment (Concludes job.jobId) past (do
      termination
      pure result) :=
  concludes.bind (fun _ _ _ ended _ _ => ended () rfl)
    (fun later error _ _ => concludes_error _ later error)

theorem settleResponse_keeps {response : LlmAnalysisResponse}
    (saving : Calls deployment job.jobId job.leaseToken options.onSaving)
    (reportable : Reportable past job.jobId job.completionAction collected)
    (held : job.reservedTokens = some reservedTokens)
    (running : Running past job.jobId job.leaseToken
      (AnalysisTokenUsage.charge (some response.usage) [response.providerRequestId])) :
    Keeps deployment (Concludes job.jobId) past
      (settleResponse pipeline job options reservedTokens response collected) := by
  have reconciles : Keeps deployment (Concludes job.jobId) past
      (job.terminateProviderReconciliation (some reservedTokens)
        (some response.providerRequestId) (some response.usage)) :=
    terminateProviderReconciliation_keeps held (running.charging (Or.inr (Or.inl rfl)))
  unfold settleResponse
  split
  · exact concludes_after reconciles
  · rename_i enough
    cases pipeline.calculate response.result with
    | error error => exact concludes_after reconciles
    | ok metrics => exact saveResult_keeps saving reportable held running (not_lt.mp enough)

theorem chargeResponse_keeps {response : LlmAnalysisResponse}
    (saving : Calls deployment job.jobId job.leaseToken options.onSaving)
    (reportable : Reportable past job.jobId job.completionAction collected)
    (held : job.reservedTokens = some reservedTokens)
    (running : Running past job.jobId job.leaseToken .none) :
    Keeps deployment (Concludes job.jobId) past
      (chargeResponse pipeline job options reservedTokens response collected) := by
  unfold chargeResponse
  split
  · exact concludes_after
      (terminateProviderReconciliation_keeps held (running.charging (Or.inl rfl)))
  · refine Program.Obeys.bind (Program.Obeys.attempt (recordProviderCharge_keeps
      (job.chargeInput reservedTokens (some response.usage) response.providerRequestId) running))
      (fun later charged extended attempted => ?_)
      (fun later error _ _ => concludes_error _ later error)
    rcases attempted with ⟨result, same, charging, recorded⟩
    cases same
    cases charged with
    | error error => exact concludes_after (persistReconciliation_keeps held charging)
    | ok _ => exact settleResponse_keeps saving (reportable.mono extended) held (recorded rfl)

theorem handleProviderError_keeps {error : AppError}
    (held : job.reservedTokens = some reservedTokens)
    (running : Running past job.jobId job.leaseToken .none) :
    Keeps deployment (Concludes job.jobId) past
      (job.handleProviderError options reservedTokens error) := by
  unfold handleProviderError
  split
  · exact concludes_after (checkpointAndTerminate_keeps held running)
  · split
    · exact concludes_error _ _ _
    · exact concludes_after (terminate_unbilled_keeps (by rw [held, Option.getD_some])
        (fun same => by cases same) running)

theorem analyzeReserved_keeps {preprocessed : CollectedData}
    (reserving : Calls deployment job.jobId job.leaseToken options.onTokensReserved)
    (saving : Calls deployment job.jobId job.leaseToken options.onSaving)
    (reportable : Reportable past job.jobId job.completionAction collected)
    (held : job.reservedTokens = some reservedTokens)
    (running : Running past job.jobId job.leaseToken .none) :
    Keeps deployment (Concludes job.jobId) past
      (analyzeReserved pipeline job options reservedTokens collected preprocessed) := by
  refine (reserving past running.holds).bind (fun later _ reserved same => ?_)
    (fun later error _ _ => concludes_error _ later error)
  have current := running.later reserved same
  have permitted : Op.Permitted deployment later (.analyze preprocessed job.version) :=
    ⟨_, _, current.known⟩
  refine (keeps_perform permitted).attempt.bind (fun last analyzed extended attempted => ?_)
    (fun last error _ _ => concludes_error _ last error)
  rcases attempted with ⟨result, same, rfl, _⟩
  cases same
  cases analyzed with
  | error error => exact handleProviderError_keeps held (current.append rfl)
  | ok response =>
      exact chargeResponse_keeps saving (reportable.mono (reserved.trans extended)) held
        (current.append rfl)

theorem handleReservationError_keeps {error : AppError}
    (unreserved : error = .insufficientAnalysisTokens -> job.reservedTokens = none)
    (running : Running past job.jobId job.leaseToken .none) :
    Keeps deployment (Concludes job.jobId) past (job.handleReservationError error) := by
  unfold handleReservationError
  split
  · exact concludes_after (terminate_unbilled_keeps (by rw [unreserved rfl, Option.getD_none])
      (fun same => by cases same) running)
  · exact concludes_after (terminate_unbilled_keeps rfl (fun same => by cases same) running)
  · exact concludes_error _ _ _

theorem reserveAndAnalyze_keeps {preprocessed : CollectedData}
    (reserving : Calls deployment job.jobId job.leaseToken options.onTokensReserved)
    (saving : Calls deployment job.jobId job.leaseToken options.onSaving)
    (reportable : Reportable past job.jobId job.completionAction collected)
    (running : Running past job.jobId job.leaseToken .none) :
    Keeps deployment (Concludes job.jobId) past
      (reserveAndAnalyze pipeline job options collected preprocessed) := by
  unfold reserveAndAnalyze
  split
  · exact concludes_after (terminate_unbilled_keeps rfl (fun same => by cases same) running)
  · exact concludes_error _ _ _
  · rename_i reservation _
    refine (ensureWorkerTokenReservation_keeps reservation running.holds).attempt.bind
      (fun later ensured extended attempted => ?_)
      (fun later error _ _ => concludes_error _ later error)
    rcases attempted with ⟨result, same, sameCharge, sameReservation⟩
    cases same
    have current := running.later extended sameCharge
    cases ensured with
    | error error =>
        refine handleReservationError_keeps (fun insufficient => ?_) current
        cases known : job.reservedTokens with
        | none => rfl
        | some held =>
            subst insufficient
            exact absurd rfl (sameReservation held known).2
    | ok reserved =>
        have reportableLater :
            Reportable later (job.withReservation reserved).jobId
              (job.withReservation reserved).completionAction collected :=
          reportable.mono extended
        have reservingLater : Calls deployment (job.withReservation reserved).jobId
            (job.withReservation reserved).leaseToken options.onTokensReserved := reserving
        have savingLater : Calls deployment (job.withReservation reserved).jobId
            (job.withReservation reserved).leaseToken options.onSaving := saving
        exact analyzeReserved_keeps reservingLater savingLater reportableLater rfl current

theorem executeAnalysis_keeps
    (reserving : Calls deployment job.jobId job.leaseToken options.onTokensReserved)
    (saving : Calls deployment job.jobId job.leaseToken options.onSaving)
    (reportable : Reportable past job.jobId job.completionAction collected)
    (running : Running past job.jobId job.leaseToken .none) :
    Keeps deployment (Concludes job.jobId) past
      (job.executeAnalysis pipeline options collected) := by
  refine Program.Obeys.bind (keeps_perform trivial) (fun later user extended read => ?_)
    (fun later error _ _ => concludes_error _ later error)
  rcases read with ⟨rfl, _⟩
  have current : Running (past ++ [⟨.query (.findUser job.userId), .ok user⟩]) job.jobId
      job.leaseToken .none := running.append rfl
  cases user with
  | none => exact concludes_error _ _ _
  | some user =>
      simp only
      split
      · exact concludes_after (terminate_keeps (fun _ => Termination.unbilled_balanced rfl)
          (fun same => by cases same) (fun _ => current.charging (Or.inl rfl))
          (fun _ => .noData rfl rfl rfl (reportable.mono extended)))
      · exact reserveAndAnalyze_keeps reserving saving (reportable.mono extended) current

end JobExecution

/-! ## Entry points of the runner -/

/-- An execution is resolved by one query, and takes its columns from the row
in the answer. -/
structure Resolved (past : History Services) (context : AnalysisJobExecutionContext)
    (completionAction : Option CompletionAction) (resolved : AnalysisJob × JobExecution) :
    Prop where
  running : Running past resolved.2.jobId resolved.2.leaseToken resolved.1.providerCharge
  seen : Seen past resolved.1
  named : resolved.1.id = context.jobId
  jobId : resolved.2.jobId = context.jobId
  leaseToken : resolved.2.leaseToken = context.leaseToken
  reserved : resolved.2.reservedTokens = resolved.1.reservedTokens
  version : resolved.2.version = resolved.1.version
  completionAction : resolved.2.completionAction = completionAction

theorem resolveRunningExecution_keeps {context : AnalysisJobExecutionContext}
    {completionAction : Option CompletionAction}
    (holds : Holds past context.jobId context.leaseToken) :
    Keeps deployment (fun later ending =>
      lastClaim later = lastClaim past ∧ forall resolved, ending = .ok resolved ->
        Resolved later context completionAction resolved) past
      (resolveRunningExecution context completionAction) := by
  refine Program.Obeys.bind (keeps_perform holds) (fun later found extended read => ?_)
    (fun later error _ read => ?_)
  · rcases read with ⟨rfl, credible⟩
    cases found with
    | none => exact ⟨lastClaim_append _ _ _, fun _ same => by cases same⟩
    | some job =>
        refine ⟨lastClaim_append _ _ _, fun resolved same => ?_⟩
        cases same
        exact {
          running := ⟨holds.mono extended, knownCharge_append _ _ _⟩
          seen := ⟨_, happened_append, List.mem_singleton_self _⟩
          named := credible (some job) rfl job rfl
          jobId := rfl
          leaseToken := rfl
          reserved := rfl
          version := rfl
          completionAction := rfl }
  · rcases read with ⟨rfl, _⟩
    exact ⟨lastClaim_append _ _ _, fun _ same => by cases same⟩

/-- A step of the runner that may end the job: either it does, or it finds
that nothing is to be done and has done nothing. -/
def ConcludesOrSkips (jobId : JobId) (nothing : Prop) (past later : History Services)
    (ending : Services.Ending (Option AnalysisJobExecutionResult)) : Prop :=
  (ending = .ok none -> later = past ∧ nothing) ∧
    forall result, ending = .ok (some result) -> Finished later jobId

theorem concludesOrSkips_after {execution : JobExecution} {termination : Service Unit}
    {result : AnalysisJobExecutionResult} {nothing : Prop}
    (concludes : Keeps deployment (Concludes execution.jobId) past termination) :
    Keeps deployment (ConcludesOrSkips execution.jobId nothing past) past (do
      termination
      pure (some result)) :=
  concludes.bind (fun _ _ _ ended => ⟨(fun same => by cases same), fun _ _ => ended () rfl⟩)
    (fun _ _ _ _ => ⟨(fun same => by cases same), (fun _ same => by cases same)⟩)

theorem getProviderChargeCheckpoint_eq_none {job : AnalysisJob}
    (nothing : getProviderChargeCheckpoint job = none) : job.providerCharge = .none := by
  refine AnalysisJob.hasProviderBillingEvidence_eq_false.mp ?_
  unfold getProviderChargeCheckpoint at nothing
  split at nothing
  · assumption
  · split at nothing <;> split at nothing <;> cases nothing

theorem getProviderChargeCheckpoint_charge {job : AnalysisJob}
    {checkpoint : ProviderChargeCheckpoint}
    (found : getProviderChargeCheckpoint job = some checkpoint) :
    AnalysisTokenUsage.charge checkpoint.usage checkpoint.providerRequestId.toList =
      job.providerCharge.checkpoint := by
  unfold getProviderChargeCheckpoint at found
  unfold ProviderCharge.checkpoint AnalysisJob.providerCharge
  split at found
  · cases found
  · simp only at found ⊢
    split at found <;> split at found <;> cases found <;> simp only [*] <;> rfl

theorem reconcileProviderCheckpoint_keeps {job : AnalysisJob} {execution : JobExecution}
    (held : execution.reservedTokens = job.reservedTokens)
    (running : Running past execution.jobId execution.leaseToken job.providerCharge) :
    Keeps deployment (ConcludesOrSkips execution.jobId (job.providerCharge = .none) past) past
      (reconcileProviderCheckpoint job execution) := by
  unfold reconcileProviderCheckpoint
  split
  · rename_i nothing
    exact ⟨fun _ => ⟨rfl, getProviderChargeCheckpoint_eq_none nothing⟩, fun _ same => by cases same⟩
  · rename_i checkpoint found
    have recorded := getProviderChargeCheckpoint_charge found
    exact concludesOrSkips_after (JobExecution.terminateProviderReconciliation_keeps held
      (running.charging (Or.inr (Or.inr recorded))))

theorem retireLegacyExecution_keeps {execution : JobExecution}
    (running : Running past execution.jobId execution.leaseToken .none)
    (completes : isRetiredAnalysisExecutionVersion execution.version = true ->
      forall input : TerminateWorkerJobInput, input.jobId = execution.jobId ->
        input.completionAction = execution.completionAction -> Completes past input) :
    Keeps deployment (ConcludesOrSkips execution.jobId
        (isRetiredAnalysisExecutionVersion execution.version = false) past) past
      (retireLegacyExecution execution) := by
  unfold retireLegacyExecution
  split
  · rename_i current
    exact ⟨fun _ => ⟨rfl, current⟩, fun _ same => by cases same⟩
  · rename_i retired
    rw [Bool.not_eq_false] at retired
    exact concludesOrSkips_after (JobExecution.terminate_keeps
      (fun _ => Termination.unbilled_balanced rfl) (fun same => by cases same)
      (fun _ => running.charging (Or.inl rfl)) (fun _ => completes retired _ rfl rfl))

/-- A row of the job was seen whose version is not retired. -/
def SeenCurrent (past : History Services) (jobId : JobId) : Prop :=
  Exists fun job => Seen past job ∧ job.id = jobId ∧
    isRetiredAnalysisExecutionVersion job.version = false

theorem SeenCurrent.mono {later : History Services} (extended : past <+: later) {jobId : JobId}
    (seen : SeenCurrent past jobId) : SeenCurrent later jobId := by
  rcases seen with ⟨job, read, named, current⟩
  exact ⟨job, read.mono extended, named, current⟩

theorem recoverProviderCheckpoint_keeps {context : AnalysisJobExecutionContext}
    (holds : Holds past context.jobId context.leaseToken) :
    Keeps deployment (fun later ending =>
      (ending = .ok none -> lastClaim later = lastClaim past ∧ SeenCurrent later context.jobId) ∧
        forall result, ending = .ok (some result) -> Finished later context.jobId) past
      (recoverProviderCheckpoint context) := by
  refine (resolveRunningExecution_keeps holds).bind (fun later resolved _ found => ?_)
    (fun later error _ _ => ⟨(fun same => by cases same), (fun _ same => by cases same)⟩)
  have execution := found.2 resolved rfl
  refine (reconcileProviderCheckpoint_keeps execution.reserved execution.running).bind
    (fun last recovered _ reconciled => ?_)
    (fun last error _ _ => ⟨(fun same => by cases same), (fun _ same => by cases same)⟩)
  cases recovered with
  | some result =>
      refine ⟨(fun same => by cases same), fun _ _ => ?_⟩
      exact execution.jobId ▸ reconciled.2 result rfl
  | none =>
      rcases reconciled.1 rfl with ⟨rfl, uncharged⟩
      refine (retireLegacyExecution_keeps (uncharged ▸ execution.running)
        fun _ input _ action => .nothing (action.trans execution.completionAction)).mono
        fun final ending _ retired => ?_
      refine ⟨fun same => ?_, fun result same => execution.jobId ▸ retired.2 result same⟩
      rcases retired.1 same with ⟨rfl, current⟩
      exact ⟨found.1, resolved.1, execution.seen, execution.named, execution.version ▸ current⟩

/-- A run of the analysis that returns has ended the job. -/
theorem runAnalysisJob_keeps {pipeline : Pipeline} {data : CollectedData}
    {context : AnalysisJobExecutionContext} {completionAction : Option CompletionAction}
    {options : AnalysisJobRunOptions}
    (reserving : Calls deployment context.jobId context.leaseToken options.onTokensReserved)
    (saving : Calls deployment context.jobId context.leaseToken options.onSaving)
    (holds : Holds past context.jobId context.leaseToken)
    (current : SeenCurrent past context.jobId)
    (reportable : Reportable past context.jobId completionAction data) :
    Keeps deployment (Concludes context.jobId) past
      (runAnalysisJob pipeline data context completionAction options) := by
  refine (resolveRunningExecution_keeps holds).bind (fun later resolved extended found => ?_)
    (fun later error _ _ => concludes_error _ later error)
  have execution := found.2 resolved rfl
  have reportableLater : Reportable later resolved.2.jobId resolved.2.completionAction data := by
    rw [execution.jobId, execution.completionAction]
    exact reportable.mono extended
  rw [← execution.jobId]
  refine (reconcileProviderCheckpoint_keeps execution.reserved execution.running).bind
    (fun last recovered _ reconciled => ?_) (fun last error _ _ => concludes_error _ last error)
  cases recovered with
  | some result => exact fun _ _ => reconciled.2 result rfl
  | none =>
      rcases reconciled.1 rfl with ⟨rfl, uncharged⟩
      have running := uncharged ▸ execution.running
      have completes : isRetiredAnalysisExecutionVersion resolved.2.version = true ->
          forall input : TerminateWorkerJobInput, input.jobId = resolved.2.jobId ->
            input.completionAction = resolved.2.completionAction -> Completes last input := by
        intro retired input named _
        rcases current.mono extended with ⟨job, seen, same, unretired⟩
        have inputNamed := named.trans execution.jobId
        exact .retired seen (same.trans inputNamed.symm) unretired execution.seen
          (execution.named.trans inputNamed.symm) (execution.version ▸ retired)
      refine (retireLegacyExecution_keeps running completes).bind
        (fun final retired _ ended => ?_) (fun final error _ _ => concludes_error _ final error)
      cases retired with
      | some result => exact fun _ _ => ended.2 result rfl
      | none =>
          rcases ended.1 rfl with ⟨rfl, _⟩
          simp only
          split
          · exact concludes_error _ _ _
          · rw [← execution.jobId, ← execution.leaseToken] at reserving saving
            exact JobExecution.executeAnalysis_keeps reserving saving reportableLater running

/-! ## Collection and the synchronous path -/

/-- Collected data comes from a recorded collection of the input, after which
only the pages were reported. -/
theorem collect_keeps {input : CollectRepositoryInput} {onPages : Nat -> Service Unit}
    {reported : History Services -> History Services -> Prop} (collects : Collects past input)
    (pages : forall later count, past <+: later ->
      Keeps deployment (fun last _ => reported later last) later (onPages count)) :
    Keeps deployment (fun later ending => forall data, ending = .ok data ->
      Exists fun attempt : CollectionAttempt => Exists fun pullRequests =>
        Happened later (.collectAttempt input) (.ok attempt) ∧
          attempt.outcome = .ok pullRequests ∧ data = collectedData input pullRequests ∧
            reported (past ++ [⟨.collectAttempt input, .ok attempt⟩]) later) past
      (collect input onPages) := by
  unfold collect
  split
  · exact fun _ same => by cases same
  · refine Program.Obeys.bind (keeps_perform collects) (fun later attempt grown performed => ?_)
      (fun _ _ _ _ _ same => by cases same)
    rcases performed with ⟨rfl, _⟩
    refine (pages _ _ grown).bind (fun paged _ extended kept => ?_)
      (fun _ _ _ _ _ same => by cases same)
    refine Program.Obeys.bind (keeps_ofExcept _) (fun last pullRequests _ found => ?_)
      (fun _ _ _ _ _ same => by cases same)
    rcases found with ⟨rfl, outcome⟩
    intro data same
    cases same
    exact ⟨attempt, pullRequests, Happened.mono extended happened_append, outcome.symm, rfl, kept⟩

/-- A command that installs no lease token leaves the unused ones alone. -/
theorem unusedTokens_command {order : Command} {outcome : Except AppError order.Reply}
    (installs : order.installs = none) :
    unusedTokens (past ++ [⟨.command order, outcome⟩]) = unusedTokens past := by
  rw [unusedTokens_append]
  simp only [Op.unusedAfter, installs]
  exact List.filter_eq_self.mpr fun _ _ => rfl

theorem createSync_keeps {userId : UserId} {githubRepoId : String} {owned : OwnedRepository}
    {key : Uuid} {syncStartedAt startedAt : Instant}
    (owner : Learned past (.findRepositoryWithOwner githubRepoId) (some owned))
    (mine : owned.repository.ownerId = userId)
    (collected : collections past = [syncCollectInput userId githubRepoId owned syncStartedAt])
    (clocks : clockReadings past = [syncStartedAt, startedAt]) :
    Keeps deployment (fun later ending => forall job, ending = .ok job ->
      unusedTokens later = unusedTokens past ∧
        isRetiredAnalysisExecutionVersion job.version = false ∧
        Exists fun input => Did later (.createExclusive input) job ∧ input.userId = userId ∧
          input.repositoryId = owned.repository.id ∧ input.idempotencyKey = syncKey key) past
      (AnalysisJobService.create ⟨userId, owned.repository.id, syncKey key, none, none⟩) := by
  refine Program.Obeys.bind (keeps_ofExcept _) (fun later _ _ checked => ?_)
    (fun _ _ _ _ _ same => by cases same)
  rcases checked with ⟨rfl, _⟩
  refine Program.Obeys.bind (keeps_perform trivial) (fun dated now extended read => ?_)
    (fun _ _ _ _ _ same => by cases same)
  rcases read with ⟨rfl, _⟩
  have accepts : Accepts (later ++ [⟨.currentDate, .ok now⟩]) (CreateAnalysisJobInput.record
      ⟨userId, owned.repository.id, syncKey key, none, none⟩ now) :=
    .sync (Learned.mono extended owner) mine (by rw [collections_append, collected]; rfl)
      (by rw [clockReadings_append, clocks]; rfl)
  have permitted : Op.Permitted deployment _ (.command (.createExclusive
      (CreateAnalysisJobInput.record ⟨userId, owned.repository.id, syncKey key, none, none⟩ now))) :=
    ⟨accepts, trivial⟩
  refine (keeps_perform permitted).mono fun last ending _ performed => ?_
  rcases performed with ⟨rfl, credible⟩
  intro job same
  cases same
  rcases credible job rfl with ⟨environment, rfl⟩
  have current : isRetiredAnalysisExecutionVersion CURRENT_ANALYSIS_EXECUTION_VERSION = false := by
    decide
  exact ⟨(unusedTokens_command rfl).trans (unusedTokens_append _ _ _), current, _, happened_append,
    rfl, rfl, rfl⟩

theorem syncKey_startsWith (key : Uuid) : startsWith (syncKey key) "sync:" = true := by
  simp only [startsWith, syncKey, String.toList_append, List.isPrefixOf_iff_prefix]
  exact List.prefix_append _ _

/-- A caller that wants no report of the pages does nothing after them. -/
theorem unpaged_keeps (later : History Services) (_ : Nat) (_ : past <+: later) :
    Keeps deployment (fun last _ => last = later) later (pure () : Service Unit) := rfl

theorem none_calls {jobId : JobId} {leaseToken : Uuid} :
    Calls deployment jobId leaseToken (pure ()) := fun _ _ => rfl

theorem runAnalysis_keeps {userId : UserId} {githubRepoId : String} {owned : OwnedRepository}
    {syncStartedAt : Instant} {attempt : CollectionAttempt} {pullRequests : List PullRequest}
    (owner : Learned past (.findRepositoryWithOwner githubRepoId) (some owned))
    (mine : owned.repository.ownerId = userId)
    (collected : Happened past
      (.collectAttempt (syncCollectInput userId githubRepoId owned syncStartedAt)) (.ok attempt))
    (found : attempt.outcome = .ok pullRequests)
    (only : collections past = [syncCollectInput userId githubRepoId owned syncStartedAt])
    (clocks : clockReadings past = [syncStartedAt]) :
    Keeps deployment (fun _ _ => True) past (runAnalysis deployment userId owned.repository.id
      (collectedData (syncCollectInput userId githubRepoId owned syncStartedAt) pullRequests)
      (some (.advanceSyncCheckpoint githubRepoId syncStartedAt))) := by
  refine Program.Obeys.bind (keeps_perform trivial) (fun leased leaseToken first token => ?_)
    (fun _ _ _ _ => trivial)
  refine Program.Obeys.bind (keeps_perform trivial) (fun dated startedAt second date => ?_)
    (fun _ _ _ _ => trivial)
  refine Program.Obeys.bind (keeps_perform trivial) (fun keyed key third uuid => ?_)
    (fun _ _ _ _ => trivial)
  rcases token with ⟨rfl, _⟩
  rcases date with ⟨rfl, _⟩
  rcases uuid with ⟨rfl, _⟩
  have extended := (first.trans second).trans third
  have onlyLater : collections (((past ++ [⟨.randomUuid, .ok leaseToken⟩]) ++
      [⟨.currentDate, .ok startedAt⟩]) ++ [⟨.randomUuid, .ok key⟩]) =
        [syncCollectInput userId githubRepoId owned syncStartedAt] := by
    simp only [collections_append, only, Op.collections, List.append_nil]
  have clocksLater : clockReadings (((past ++ [⟨.randomUuid, .ok leaseToken⟩]) ++
      [⟨.currentDate, .ok startedAt⟩]) ++ [⟨.randomUuid, .ok key⟩]) =
        [syncStartedAt, startedAt] := by
    simp only [clockReadings_append, clocks, Op.readings, List.append_nil]
    rfl
  refine (createSync_keeps (Learned.mono extended owner) mine onlyLater clocksLater).bind
    (fun created job fourth creation => ?_) (fun _ _ _ _ => trivial)
  rcases creation job rfl with ⟨unused, current, input, did, user, repository, named⟩
  have unusedToken : leaseToken ∈ unusedTokens created := by
    rw [unused]
    simp only [unusedTokens_append, Op.unusedAfter]
    exact List.mem_cons_of_mem _ List.mem_cons_self
  have permitted : Op.Permitted deployment created (.command (.update
      (.start job.id leaseToken (startedAt + 15 * 60 * 1000) startedAt))) :=
    ⟨⟨unusedToken, input, job, did, rfl, named ▸ syncKey_startsWith key⟩, trivial⟩
  refine Program.Obeys.bind (keeps_perform permitted) (fun last started fifth performed => ?_)
    (fun _ _ _ _ => trivial)
  rcases performed with ⟨rfl, _⟩
  cases started with
  | false => trivial
  | true =>
      have grown := extended.trans (fourth.trans fifth)
      have reportable := Reportable.sync (Learned.mono grown owner) mine
        (Happened.mono grown collected) found (Did.mono fifth did) rfl user repository
      have seen : SeenCurrent _ job.id := ⟨job, Seen.mono fifth (.inserted did), rfl, current⟩
      refine (runAnalysisJob_keeps none_calls none_calls (holds_append rfl) seen reportable).bind
        (fun _ result _ _ => ?_) (fun _ _ _ _ => trivial)
      cases result <;> trivial

theorem syncRepository_keeps (githubRepoId : String) (userId : UserId) :
    Keeps deployment (fun _ _ => True) [] (syncRepository deployment githubRepoId userId) := by
  refine Program.Obeys.bind (keeps_perform trivial) (fun later found _ read => ?_)
    (fun _ _ _ _ => trivial)
  rcases read with ⟨rfl, _⟩
  cases found with
  | none => trivial
  | some owned =>
      simp only
      split
      · trivial
      · rename_i mine
        rw [ne_eq, not_not] at mine
        refine Program.Obeys.bind (keeps_perform trivial) (fun dated syncStartedAt first date => ?_)
          (fun _ _ _ _ => trivial)
        rcases date with ⟨rfl, _⟩
        have collects : Collects _ (syncCollectInput userId githubRepoId owned syncStartedAt) :=
          .sync rfl (Learned.mono first happened_append) mine rfl
        refine (collect_keeps collects unpaged_keeps).bind
          (fun later data second collected => ?_) (fun _ _ _ _ => trivial)
        rcases collected data rfl with ⟨attempt, pullRequests, happened, outcome, rfl, rfl⟩
        have owner := Learned.mono (first.trans second) happened_append
        exact (runAnalysis_keeps owner mine happened outcome rfl rfl).tryCatch
          (fun _ _ _ _ => trivial) (fun _ _ _ _ => trivial)

theorem getRepositories_keeps (userId : UserId) :
    Keeps deployment (fun _ _ => True) past (getRepositories userId) := by
  refine Program.Obeys.bind (keeps_perform trivial) (fun later user _ _ => ?_)
    (fun _ _ _ _ => trivial)
  cases user with
  | none => trivial
  | some user =>
      refine Program.Obeys.bind (keeps_perform trivial) (fun later repos _ _ => ?_)
        (fun _ _ _ _ => trivial)
      refine Program.obeys_forEach (fun repo _ past _ => ?_) trivial
      have permitted : Op.Permitted deployment past
          (.command (.upsertRepository repo.githubRepoId repo.fullName userId)) :=
        ⟨trivial, trivial⟩
      exact (keeps_perform permitted).attempt.bind (fun _ _ _ _ => trivial)
        (fun _ _ _ _ => trivial)

end GitMate
