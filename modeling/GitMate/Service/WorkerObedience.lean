import GitMate.Service.Obedience

namespace GitMate

open Interleaving

/-!
# The worker keeps the discipline

The worker generates a lease token for every record, uses it for one claim,
collects for the job of its last claim and acknowledges a record only after
it has learned that the job is over.
-/

variable {deployment : Deployment} {past : History Services}

/-- The classification of an error is never the publisher's verdict. -/
theorem classify_code (error : AppError) :
    (AnalysisWorkerErrorClassifier.classify error).code ≠ .publishFailed := by
  have status : forall status : Int,
      (AnalysisWorkerErrorClassifier.classifyStatus status).code ≠ .publishFailed := by
    intro status
    unfold AnalysisWorkerErrorClassifier.classifyStatus
    split
    · exact fun same => by cases same
    · split <;> exact fun same => by cases same
  have code : forall code : String,
      (AnalysisWorkerErrorClassifier.classifyCode code).code ≠ .publishFailed := by
    intro code
    unfold AnalysisWorkerErrorClassifier.classifyCode
    split <;> exact fun same => by cases same
  cases error with
  | http => exact status _
  | withStatus => exact status _
  | withCode => exact code _
  | prismaKnownRequest known =>
      change (if AnalysisWorkerErrorClassifier.RETRYABLE_PRISMA_CODES.contains known = true
        then AnalysisWorkerErrorClassifier.databaseTemporaryFailure
        else AnalysisWorkerErrorClassifier.classifyCode known).code ≠ _
      split
      · exact fun same => by cases same
      · exact code known
  | providerApi kind => cases kind <;> exact fun same => by cases same
  | _ => exact fun same => by cases same

/-- The message of a classification fits its column. -/
theorem classify_message (error : AppError) :
    (AnalysisWorkerErrorClassifier.classify error).message.length ≤ 256 := by
  have status : forall status : Int,
      (AnalysisWorkerErrorClassifier.classifyStatus status).message.length ≤ 256 := by
    intro status
    unfold AnalysisWorkerErrorClassifier.classifyStatus
    split
    · exact length_ofList_le (by decide)
    · split <;> exact length_ofList_le (by decide)
  have code : forall code : String,
      (AnalysisWorkerErrorClassifier.classifyCode code).message.length ≤ 256 := by
    intro code
    unfold AnalysisWorkerErrorClassifier.classifyCode
    split <;> exact length_ofList_le (by decide)
  cases error with
  | inputLimitExceeded exceeded => exact exceeded.length_message
  | http => exact status _
  | withStatus => exact status _
  | withCode => exact code _
  | prismaKnownRequest known =>
      change (if AnalysisWorkerErrorClassifier.RETRYABLE_PRISMA_CODES.contains known = true
        then AnalysisWorkerErrorClassifier.databaseTemporaryFailure
        else AnalysisWorkerErrorClassifier.classifyCode known).message.length ≤ _
      split
      · exact length_ofList_le (by decide)
      · exact code known
  | providerApi kind => cases kind <;> exact length_ofList_le (by decide)
  | _ => exact length_ofList_le (by decide)

/-- A delay of a second or more ends later, whatever its jitter. -/
theorem lt_add_jittered {now : Instant} {seconds random : Rat} (whole : 1 ≤ seconds)
    (drawn : 0 ≤ random) :
    now < now + ((seconds + seconds * JITTER_RATIO * random) * 1000).floor := by
  have ratio : 0 ≤ JITTER_RATIO := by
    unfold JITTER_RATIO
    norm_num
  have jitter : 0 ≤ seconds * JITTER_RATIO * random :=
    mul_nonneg (mul_nonneg (zero_le_one.trans whole) ratio) drawn
  have delay : 1 ≤ ((seconds + seconds * JITTER_RATIO * random) * 1000).floor := by
    refine Rat.le_floor_iff.mpr ?_
    push_cast
    linarith
  exact lt_add_of_pos_right now (Int.one_pos.trans_le delay)

/-- A retry is due later than the clock it was computed from. -/
theorem lt_nextBackoffAt {now : Instant} {attempt baseSeconds : Nat} {random : Rat}
    (base : 0 < baseSeconds) (drawn : 0 ≤ random) :
    now < nextBackoffAt now attempt baseSeconds random := by
  have exponential : 1 ≤ min (baseSeconds * 2 ^ (attempt - 1)) MAX_BACKOFF_SECONDS :=
    le_min (Nat.mul_pos base (Nat.two_pow_pos _)) (by decide)
  exact lt_add_jittered (by exact_mod_cast exponential) drawn

/-! ## Claims -/

/-- What a worker knows about the result of a claim. -/
def ClaimResultKnown (jobId : JobId) (later : History Services) :
    AnalysisWorkerClaimResult -> Prop
  | .claimed job leaseToken => lastClaim later = some job ∧ job.job.id = jobId ∧
      Learned later (.requireClaimedJob jobId leaseToken) (some job) ∧
      Holds later jobId leaseToken
  | .notFound | .terminal => Finished later jobId
  | .activeLease | .notDue | .maxAttempts _ => True

/-- A claim that returns knows what its result says. -/
def ClaimEnds (jobId : JobId) (later : History Services)
    (ending : Services.Ending AnalysisWorkerClaimResult) : Prop :=
  forall result, ending = .ok result -> ClaimResultKnown jobId later result

theorem claimEnds_error (jobId : JobId) (later : History Services) (error : AppError) :
    ClaimEnds jobId later (.error error) := fun _ same => by cases same

theorem claimEnds_ok {jobId : JobId} {later : History Services}
    {result : AnalysisWorkerClaimResult} (known : ClaimResultKnown jobId later result) :
    ClaimEnds jobId later (.ok result) := fun _ same => by cases same; exact known

namespace AnalysisWorkerRepository

theorem requireClaimedJob_keeps {earlier : History Services} {jobId : JobId} {leaseToken : Uuid}
    {change : JobUpdate} (claims : change.claims = some (jobId, leaseToken)) :
    Keeps deployment (ClaimEnds jobId) (earlier ++ [⟨.command (.update change), .ok true⟩])
      (requireClaimedJob jobId leaseToken) := by
  have permitted : Op.Permitted deployment (earlier ++ [⟨.command (.update change), .ok true⟩])
      (.query (.requireClaimedJob jobId leaseToken)) := ⟨change, earlier, rfl, claims⟩
  refine Program.Obeys.bind (keeps_perform permitted) (fun later found extended read => ?_)
    (fun later error _ _ => claimEnds_error jobId later error)
  rcases read with ⟨rfl, credible⟩
  cases found with
  | none => exact claimEnds_error _ _ _
  | some job =>
      have named : job.job.id = jobId := credible (some job) rfl job rfl
      have holds := (holds_append (JobUpdate.leases_of_claims claims)).mono extended
      exact claimEnds_ok ⟨lastClaim_append _ _ _, named, happened_append, holds⟩

theorem resolveClaimRace_keeps (jobId : JobId) (now : Instant) :
    Keeps deployment (ClaimEnds jobId) past (resolveClaimRace jobId now) := by
  refine Program.Obeys.bind (keeps_perform trivial) (fun later found _ read => ?_)
    (fun later error _ _ => claimEnds_error jobId later error)
  rcases read with ⟨rfl, _⟩
  cases found with
  | none => exact claimEnds_ok (.missing happened_append)
  | some current =>
      simp only
      split
      · rename_i terminal
        exact claimEnds_ok (.ended happened_append (Or.inl terminal))
      split
      · exact claimEnds_ok trivial
      split
      · exact claimEnds_ok trivial
      split <;> exact claimEnds_ok trivial

theorem claimBy_keeps {change : JobUpdate} {jobId : JobId} {leaseToken : Uuid} {now : Instant}
    (permitted : change.Permitted deployment past)
    (claims : change.claims = some (jobId, leaseToken)) :
    Keeps deployment (ClaimEnds jobId) past (claimBy change jobId leaseToken now) := by
  refine Program.Obeys.bind (keeps_perform ⟨permitted, trivial⟩) (fun later claimed _ done => ?_)
    (fun later error _ _ => claimEnds_error jobId later error)
  rcases done with ⟨rfl, _⟩
  cases claimed with
  | false => exact resolveClaimRace_keeps jobId now
  | true => exact requireClaimedJob_keeps claims

theorem claimQueuedJob_keeps {current : AnalysisWorkerJob} {leaseToken : Uuid}
    {now leaseExpiresAt : Instant}
    (read : Learned past (.findWorkerJob current.job.id) (some current))
    (claims : ClaimsAt past leaseToken now leaseExpiresAt) :
    Keeps deployment (ClaimEnds current.job.id) past
      (claimQueuedJob current leaseToken now leaseExpiresAt) := by
  unfold claimQueuedJob
  split
  · exact claimEnds_ok trivial
  split
  · rename_i ended
    exact claimEnds_ok (.ended read (Or.inr ended))
  split
  · exact claimEnds_ok trivial
  · have permitted : JobUpdate.Permitted deployment past
        (.claimQueued current.job.id leaseToken now leaseExpiresAt) := claims
    exact claimBy_keeps permitted rfl

theorem takeOverRunningJob_keeps {current : AnalysisWorkerJob} {leaseToken : Uuid}
    {now leaseExpiresAt : Instant} (claims : ClaimsAt past leaseToken now leaseExpiresAt) :
    Keeps deployment (ClaimEnds current.job.id) past
      (takeOverRunningJob current leaseToken now leaseExpiresAt) := by
  unfold takeOverRunningJob
  split
  · exact claimEnds_ok trivial
  split
  · exact claimEnds_ok trivial
  split
  · have permitted : JobUpdate.Permitted deployment past
        (.takeOverExpiredBilledLease current.job leaseToken now leaseExpiresAt) := claims
    exact claimBy_keeps permitted rfl
  split
  · exact claimEnds_ok trivial
  · have permitted : JobUpdate.Permitted deployment past
        (.takeOverExpiredLease current.job leaseToken now leaseExpiresAt) := claims
    exact claimBy_keeps permitted rfl

theorem claim_keeps {jobId : JobId} {leaseToken : Uuid} {now leaseExpiresAt : Instant}
    (claims : ClaimsAt past leaseToken now leaseExpiresAt) :
    Keeps deployment (ClaimEnds jobId) past (claim jobId leaseToken now leaseExpiresAt) := by
  refine Program.Obeys.bind (keeps_perform trivial) (fun later found _ read => ?_)
    (fun later error _ _ => claimEnds_error jobId later error)
  rcases read with ⟨rfl, credible⟩
  cases found with
  | none => exact claimEnds_ok (.missing happened_append)
  | some current =>
      have named : current.job.id = jobId := credible (some current) rfl current rfl
      subst named
      have claimsLater : ClaimsAt (past ++ [⟨.query (.findWorkerJob current.job.id),
          .ok (some current)⟩]) leaseToken now leaseExpiresAt := by
        rw [ClaimsAt, unusedTokens_append, latestClock_append]
        exact claims
      have terminal : current.job.status = .succeeded ∨ current.job.status = .failed ->
          Finished (past ++ [⟨.query (.findWorkerJob current.job.id), .ok (some current)⟩])
            current.job.id := fun ended =>
        .ended happened_append (Or.inl (AnalysisJob.isTerminal_iff.mpr ended))
      simp only
      split
      · rename_i status
        exact claimEnds_ok (terminal (Or.inl status))
      · rename_i status
        exact claimEnds_ok (terminal (Or.inr status))
      · exact claimQueuedJob_keeps happened_append claimsLater
      · exact takeOverRunningJob_keeps claimsLater

theorem updateProgress_keeps {input : UpdateProgressInput}
    (permitted : JobUpdate.Permitted deployment past (.updateProgress input)) :
    Keeps deployment (SameCharge past) past (updateProgress input) := by
  refine Program.Obeys.bind (keeps_perform ⟨permitted, trivial⟩) (fun later updated _ done => ?_)
    (fun later error _ done => ?_)
  · rcases done with ⟨rfl, _⟩
    split <;> exact knownCharge_append _ _ _
  · rcases done with ⟨rfl, _⟩
    exact knownCharge_append _ _ _

theorem releaseForRetry_keeps {input : ReleaseForRetryInput}
    (permitted : JobUpdate.Permitted deployment past (.releaseForRetry input)) :
    Keeps deployment (fun _ _ => True) past (releaseForRetry input) := by
  refine Program.Obeys.bind (keeps_perform ⟨permitted, trivial⟩) (fun later released _ _ => ?_)
    (fun _ _ _ _ => trivial)
  split
  · trivial
  · refine Program.Obeys.bind (keeps_perform trivial) (fun later current _ _ => ?_)
      (fun _ _ _ _ => trivial)
    unfold explainRelease
    split
    · trivial
    · split
      · trivial
      · split <;> trivial

/-- A settlement that applied has ended its job. -/
theorem settle_keeps {jobId : JobId} {expected : ExpectedState} {completedAt : Instant}
    {errorCode : ErrorCode} {errorMessage : String} {errorRetryable : Bool}
    (code : errorCode ≠ .publishFailed) (message : errorMessage.length ≤ 256) :
    Keeps deployment (fun later ending => ending = .ok true -> Finished later jobId) past
      (Service.command (.settleFailure
        ⟨jobId, expected, completedAt, errorCode, errorMessage, errorRetryable⟩)) := by
  have permitted : Op.Permitted deployment past (.command (.settleFailure
      ⟨jobId, expected, completedAt, errorCode, errorMessage, errorRetryable⟩)) :=
    ⟨⟨code, message⟩, trivial⟩
  refine (keeps_perform permitted).mono fun later ending _ performed => ?_
  rcases performed with ⟨rfl, _⟩
  intro same
  subst same
  exact .settled happened_append rfl

end AnalysisWorkerRepository

/-! ## Executing a claimed job -/

namespace AnalysisWorkerService

/-- A heartbeat extends the lease beyond the clock it reads. -/
theorem le_leaseExpiresAt (now : Instant) : now ≤ leaseExpiresAt deployment now := by
  exact le_add_of_nonneg_right (mul_nonneg (Int.natCast_nonneg _) (by decide))

theorem updateProgress_keeps {jobId : JobId} {leaseToken : Uuid} {stage : AnalysisJobStage}
    {progress : Nat} (bounded : progress ≤ 100) :
    Calls deployment jobId leaseToken
      (updateProgress deployment jobId leaseToken stage progress) := by
  intro past holds
  refine Program.Obeys.bind (keeps_perform trivial) (fun later heartbeatAt extended read => ?_)
    (fun later error _ read => ?_)
  · rcases read with ⟨rfl, _⟩
    refine (AnalysisWorkerRepository.updateProgress_keeps
      ⟨holds.mono extended, bounded, heartbeatAt, latestClock_append _ _ _,
        le_leaseExpiresAt heartbeatAt⟩).mono fun last ending _ same => ?_
    exact same.trans (knownCharge_append _ _ _)
  · rcases read with ⟨rfl, _⟩
    exact knownCharge_append _ _ _

theorem collectionHeartbeats_keeps {jobId : JobId} {leaseToken : Uuid} (pages : Nat)
    (lastHeartbeatAt : Instant) (holds : Holds past jobId leaseToken) :
    Keeps deployment (fun _ _ => True) past
      (collectionHeartbeats deployment jobId leaseToken pages lastHeartbeatAt) := by
  induction pages generalizing past lastHeartbeatAt with
  | zero => trivial
  | succ pages inductionHypothesis =>
      refine Program.Obeys.bind (keeps_perform trivial) (fun later now extended _ => ?_)
        (fun _ _ _ _ => trivial)
      split
      · exact inductionHypothesis _ (holds.mono extended)
      · exact (updateProgress_keeps (by decide) later (holds.mono extended)).bind
          (fun last _ grown _ => inductionHypothesis _ (holds.mono (extended.trans grown)))
          (fun _ _ _ _ => trivial)

/-- A record may be acknowledged only when its job is over. -/
def AcksFinished (jobId : JobId) (later : History Services)
    (ending : Services.Ending AnalysisWorkerRecordOutcome) : Prop :=
  ending = .ok .ack -> Finished later jobId

theorem acksFinished_retry (jobId : JobId) (later : History Services) :
    AcksFinished jobId later (.ok .retry) := fun same => by cases same

theorem acksFinished_error (jobId : JobId) (later : History Services) (error : AppError) :
    AcksFinished jobId later (.error error) := fun same => by cases same

theorem runClaimedJob_keeps {delivery : ClaimedDelivery} {leaseToken : Uuid}
    (latest : lastClaim past = some delivery.job)
    (claimed : Learned past (.requireClaimedJob delivery.job.job.id leaseToken)
      (some delivery.job))
    (holds : Holds past delivery.job.job.id delivery.leaseToken) :
    Keeps deployment (AcksFinished delivery.job.job.id) past
      (runClaimedJob deployment delivery) := by
  refine Program.Obeys.bind (recoverProviderCheckpoint_keeps holds)
    (fun later recovered first checked => ?_)
    (fun later error _ _ => acksFinished_error _ later error)
  cases recovered with
  | some result => exact fun _ => checked.2 result rfl
  | none =>
      rcases checked.1 rfl with ⟨unclaimed, current⟩
      have collects : Collects later (collectInput delivery.job) :=
        .worker (unclaimed.trans latest)
      refine (collect_keeps collects fun _ pages grown =>
        collectionHeartbeats_keeps pages 0 (holds.mono (first.trans grown))).bind
        (fun collectedAt data second collected => ?_)
        (fun later error _ _ => acksFinished_error _ later error)
      rcases collected data rfl with ⟨attempt, pullRequests, happened, found, rfl, _⟩
      refine (updateProgress_keeps (by decide) _ (holds.mono (first.trans second))).bind
        (fun last _ third _ => ?_) (fun later error _ _ => acksFinished_error _ later error)
      have reportable := Reportable.worker
        (Learned.mono (first.trans (second.trans third)) claimed) (Happened.mono third happened)
        found
      refine (runAnalysisJob_keeps (updateProgress_keeps (by decide))
        (updateProgress_keeps (by decide)) (holds.mono (first.trans (second.trans third)))
        (current.mono (second.trans third)) reportable).bind
        (fun _ result _ concluded _ => concluded result rfl)
        (fun later error _ _ => acksFinished_error _ later error)

theorem finalizeRunningAtLimit_keeps (jobId : JobId) (leaseToken : Uuid) :
    Keeps deployment (AcksFinished jobId) past (finalizeRunningAtLimit jobId leaseToken) := by
  refine Program.Obeys.bind (keeps_perform trivial) (fun later completedAt _ _ => ?_)
    (fun later error _ _ => acksFinished_error _ later error)
  have message : "The maximum number of attempts was exceeded.".length ≤ 256 :=
    length_ofList_le (by decide)
  refine Program.Obeys.bind (Program.Obeys.attempt
    (AnalysisWorkerRepository.settle_keeps (fun same => by cases same) message))
    (fun _ _ _ _ => acksFinished_retry _ _) (fun later error _ _ => acksFinished_error _ later error)

/-- A released job is due later than the clock of its release. -/
theorem lt_nextRetryAt {now : Instant} {attempt : Nat} {random : Rat}
    {providerRetryAt : Option Instant} (drawn : 0 ≤ random) :
    now < nextRetryAt deployment now attempt random providerRetryAt := by
  have backoff : now < nextBackoffAt now attempt deployment.retryBaseSeconds random :=
    lt_nextBackoffAt deployment.retryBaseSeconds_pos drawn
  unfold nextRetryAt
  cases providerRetryAt with
  | none => exact backoff
  | some retryAt =>
      simp only
      split
      · exact backoff.trans ‹_›
      · exact backoff

theorem releaseClaimedJob_keeps {delivery : ClaimedDelivery}
    {classification : AnalysisWorkerErrorClassification}
    (message : classification.message.length ≤ 256)
    (holds : Holds past delivery.job.job.id delivery.leaseToken) :
    Keeps deployment (AcksFinished delivery.job.job.id) past
      (releaseClaimedJob deployment delivery classification) := by
  refine Program.Obeys.bind (keeps_perform trivial) (fun later now first read => ?_)
    (fun later error _ _ => acksFinished_error _ later error)
  rcases read with ⟨rfl, _⟩
  refine Program.Obeys.bind (keeps_perform trivial) (fun later random second drawn => ?_)
    (fun later error _ _ => acksFinished_error _ later error)
  rcases drawn with ⟨rfl, value, same, nonneg⟩
  cases same
  have clock : latestClock (past ++ [⟨.currentDate, .ok now⟩] ++ [⟨.random, .ok random⟩]) =
      some now := by
    rw [latestClock_append, latestClock_append]
    rfl
  exact (AnalysisWorkerRepository.releaseForRetry_keeps ⟨holds.mono (first.trans second), message,
    now, clock, lt_nextRetryAt nonneg⟩).attempt.bind
    (fun _ _ _ _ => acksFinished_retry _ _) (fun later error _ _ => acksFinished_error _ later error)

theorem finalizeClaimedJob_keeps {delivery : ClaimedDelivery}
    {classification : AnalysisWorkerErrorClassification}
    (code : classification.code ≠ .publishFailed)
    (message : classification.message.length ≤ 256) :
    Keeps deployment (AcksFinished delivery.job.job.id) past
      (finalizeClaimedJob delivery classification) := by
  refine Program.Obeys.bind (keeps_perform trivial) (fun later completedAt _ _ => ?_)
    (fun later error _ _ => acksFinished_error _ later error)
  refine (AnalysisWorkerRepository.settle_keeps code message).attempt.bind
    (fun last finalized _ attempted => ?_) (fun later error _ _ => acksFinished_error _ later error)
  rcases attempted with ⟨result, same, settled⟩
  cases same
  cases finalized with
  | error error => exact acksFinished_retry _ _
  | ok applied =>
      cases applied with
      | false => exact acksFinished_retry _ _
      | true => exact fun _ => settled rfl

theorem handleClaimedFailure_keeps {delivery : ClaimedDelivery} (error : AppError)
    (holds : Holds past delivery.job.job.id delivery.leaseToken) :
    Keeps deployment (AcksFinished delivery.job.job.id) past
      (handleClaimedFailure deployment delivery error) := by
  unfold handleClaimedFailure
  simp only
  split
  · exact acksFinished_retry _ _
  split
  · split
    · exact finalizeRunningAtLimit_keeps _ _
    · exact releaseClaimedJob_keeps (classify_message error) holds
  · exact finalizeClaimedJob_keeps (classify_code error) (classify_message error)

theorem executeClaimedJob_keeps {delivery : ClaimedDelivery} {leaseToken : Uuid}
    (latest : lastClaim past = some delivery.job)
    (claimed : Learned past (.requireClaimedJob delivery.job.job.id leaseToken)
      (some delivery.job))
    (holds : Holds past delivery.job.job.id delivery.leaseToken) :
    Keeps deployment (AcksFinished delivery.job.job.id) past
      (executeClaimedJob deployment delivery) :=
  (runClaimedJob_keeps latest claimed holds).tryCatch (fun _ _ _ acks => acks)
    (fun _ error extended _ => handleClaimedFailure_keeps error (holds.mono extended))

theorem finalizeClaimLimit_keeps (job : AnalysisWorkerJob) (jobId : JobId) :
    Keeps deployment (AcksFinished jobId) past (finalizeClaimLimit job) := by
  have message : "The maximum number of attempts was exceeded.".length ≤ 256 :=
    length_ofList_le (by decide)
  have settles : forall expected, Keeps deployment (fun _ _ => True) past (do
      let completedAt <- Service.currentDate
      Service.command (.settleFailure ⟨job.job.id, expected, completedAt, .maxAttemptsExceeded,
        "The maximum number of attempts was exceeded.", true⟩)) := fun expected =>
    Program.Obeys.bind (keeps_perform trivial) (fun _ _ _ _ => keeps_any
      (AnalysisWorkerRepository.settle_keeps (fun same => by cases same) message))
      (fun _ _ _ _ => trivial)
  have retries : forall finalize : Service Bool,
      Keeps deployment (fun _ _ => True) past finalize ->
      Keeps deployment (AcksFinished jobId) past (do
        let _ <- Program.attempt finalize
        pure .retry) := fun finalize keeps =>
    keeps.attempt.bind (fun _ _ _ _ => acksFinished_retry _ _)
      (fun later error _ _ => acksFinished_error _ later error)
  unfold finalizeClaimLimit
  refine retries _ ?_
  split
  · exact settles .queued
  · trivial
  · exact settles (.running _)

/-! ## Batches -/

theorem processClaim_keeps {receiveCount : Nat} {jobId : JobId}
    {claim : AnalysisWorkerClaimResult} (known : ClaimResultKnown jobId past claim) :
    Keeps deployment (AcksFinished jobId) past (processClaim deployment receiveCount claim) := by
  cases claim with
  | notFound => exact fun _ => known
  | terminal => exact fun _ => known
  | activeLease => exact acksFinished_retry _ _
  | notDue => exact acksFinished_retry _ _
  | maxAttempts job => exact finalizeClaimLimit_keeps job jobId
  | claimed job leaseToken =>
      rcases known with ⟨latest, rfl, learned, holds⟩
      exact executeClaimedJob_keeps latest learned holds

/-- An acknowledged record names no job or a job that is over. -/
def AcksRecord (record : QueueMessage) (later : History Services)
    (ending : Services.Ending AnalysisWorkerRecordOutcome) : Prop :=
  ending = .ok .ack -> forall jobId, record.body = .valid jobId -> Finished later jobId

theorem processRecord_keeps (record : QueueMessage) :
    Keeps deployment (AcksRecord record) past (processRecord deployment record) := by
  unfold processRecord
  split
  · rename_i body
    exact fun _ jobId valid => by rw [body] at valid; cases valid
  · rename_i invalidId body
    have unparsed : forall later ending, AcksRecord record later ending :=
      fun later ending _ jobId valid => by rw [body] at valid; cases valid
    refine Program.Obeys.bind (keeps_perform trivial) (fun later completedAt _ _ => ?_)
      (fun later error _ _ => unparsed _ _)
    have message : "The analysis job message is invalid.".length ≤ 256 :=
      length_ofList_le (by decide)
    exact (AnalysisWorkerRepository.settle_keeps (fun same => by cases same) message).bind
      (fun _ _ _ _ => unparsed _ _) (fun _ _ _ _ => unparsed _ _)
  · rename_i jobId body
    have only : forall later ending, AcksFinished jobId later ending ->
        AcksRecord record later ending := by
      intro later ending acks acked other valid
      rw [body] at valid
      cases valid
      exact acks acked
    refine Program.Obeys.bind (keeps_perform trivial) (fun dated now _ date => ?_)
      (fun later error _ _ => only _ _ (acksFinished_error _ later error))
    rcases date with ⟨rfl, _⟩
    refine Program.Obeys.bind (keeps_perform trivial) (fun leased leaseToken _ token => ?_)
      (fun later error _ _ => only _ _ (acksFinished_error _ later error))
    rcases token with ⟨rfl, _⟩
    have claims : ClaimsAt (past ++ [⟨.currentDate, .ok now⟩] ++ [⟨.randomUuid, .ok leaseToken⟩])
        leaseToken now (leaseExpiresAt deployment now) := by
      rw [ClaimsAt, unusedTokens_append, latestClock_append, latestClock_append]
      exact ⟨List.mem_cons_self, rfl, le_leaseExpiresAt now⟩
    refine (AnalysisWorkerRepository.claim_keeps claims).bind (fun later claim _ known => ?_)
      (fun later error _ _ => only _ _ (acksFinished_error _ later error))
    exact (processClaim_keeps (known claim rfl)).mono fun later ending _ acks =>
      only later ending acks

/-- The records of a batch that are not reported as failures were
acknowledged. -/
theorem processBatch_keeps (records : List QueueMessage) :
    Keeps deployment (fun later ending => forall failures, ending = .ok failures ->
      forall record, record ∈ records ->
        (forall failure, failure ∈ failures -> failure.messageId ≠ record.messageId) ->
        forall jobId, record.body = .valid jobId -> Finished later jobId) past
      (processBatch deployment records) := by
  induction records generalizing past with
  | nil => exact fun _ _ _ member => by cases member
  | cons record rest inductionHypothesis =>
      have keptBack : forall later, forall failures : List QueueMessage,
          (.ok (record :: rest) : Services.Ending (List QueueMessage)) = .ok failures ->
          forall other, other ∈ record :: rest ->
            (forall failure, failure ∈ failures -> failure.messageId ≠ other.messageId) ->
            forall jobId, other.body = .valid jobId -> Finished later jobId := by
        intro later failures same other member absent
        cases same
        exact absurd rfl (absent other member)
      refine (processRecord_keeps record).attempt.bind (fun later outcome _ attempted => ?_)
        (fun later error _ attempted => ?_)
      · rcases attempted with ⟨result, same, acks⟩
        cases same
        cases outcome with
        | error error => exact keptBack later
        | ok outcome =>
            cases outcome with
            | retry => exact keptBack later
            | ack =>
                refine inductionHypothesis.mono fun last ending extended ended => ?_
                intro failures same other member absent jobId valid
                rcases List.mem_cons.mp member with here | there
                · subst here
                  exact (acks rfl jobId valid).mono extended
                · exact ended failures same other there absent jobId valid
      · rcases attempted with ⟨result, same, _⟩
        cases same

theorem handleBatch_keeps : Keeps deployment (fun _ _ => True) [] (handleBatch deployment) := by
  refine Program.Obeys.bind (keeps_perform rfl) (fun received records _ delivery => ?_)
    (fun _ _ _ _ => trivial)
  rcases delivery with ⟨rfl, _⟩
  refine (processBatch_keeps records).bind (fun later failures extended processed => ?_)
    (fun _ _ _ _ => trivial)
  refine keeps_any (keeps_perform fun record member => ?_)
  rcases List.mem_filter.mp member with ⟨original, kept⟩
  refine ⟨⟨records, Happened.mono extended happened_append, original⟩, ?_⟩
  refine processed failures rfl record original fun failure failed same => ?_
  simp only [Bool.not_eq_true', List.any_eq_false, beq_iff_eq] at kept
  exact kept failure failed same

end AnalysisWorkerService
end GitMate
