import GitMate.Service.Publisher
import GitMate.Library.Condition

namespace GitMate

open Interleaving Relational

/-!
# The due query and the due predicate

The reconciler asks the database for the jobs that are due and publishes them
one by one.  The database decides by the `where` of `findDue`, a tree of
conditions over nullable columns; the publisher decides again, by `isDue` and
by the gate at the attempt limit, before it claims an attempt.  The two agree
on every row: what is selected is claimed, and what would be claimed is
selected.
-/

/-- The `where` of `findDue`, as the tree of conditions that it is. -/
def findDueWhere (now : Instant) (republishAfterSeconds maxAttempts : Nat) (job : AnalysisJob) :
    Truth :=
  let republishCutoff := now - republishAfterSeconds * 1000
  .all
    [ .definite (job.status == .queued),
      .not (.definite (startsWith job.idempotencyKey "sync:")),
      .all
        [ .any
            [ .definite (decide (job.publishAttempts < maxAttempts)),
              .oneOf job.lastErrorCode [.publishInProgress, .publishDeliveryUncertain],
              .isNotNull job.reservedTokens ],
          .any
            [ .isNull job.nextPublishAt,
              .compare job.nextPublishAt fun nextPublishAt => decide (nextPublishAt ≤ now) ],
          .any
            [ .isNull job.messagePublishedAt,
              .compare job.messagePublishedAt fun messagePublishedAt =>
                decide (messagePublishedAt ≤ republishCutoff) ] ] ]

/-- A column that is null or at most a bound, once as two conditions and once
as a predicate. -/
theorem isNone_or_any (column : Option Instant) (bound : Instant) :
    (column.isNone || column.any fun instant => decide (instant ≤ bound)) =
      nullOrDue column bound := by
  cases column <;> rfl

theorem selects_uncertain (code : Option ErrorCode) :
    (Truth.oneOf code [.publishInProgress, .publishDeliveryUncertain]).selects =
      isUncertainPublishCode code := by
  cases code with
  | none => rfl
  | some error => cases error <;> rfl

/-- The query of the ledger selects what the tree of conditions selects. -/
theorem selects_findDueWhere (now : Instant) (republishAfterSeconds maxAttempts : Nat)
    (job : AnalysisJob) :
    (findDueWhere now republishAfterSeconds maxAttempts job).selects =
      isDueForPublish now republishAfterSeconds maxAttempts job := by
  simp only [findDueWhere, Truth.selects_all, Truth.selects_any, List.all_cons, List.all_nil,
    List.any_cons, List.any_nil, Truth.selects_definite, Truth.selects_not_definite,
    Truth.selects_isNull, Truth.selects_isNotNull, Truth.selects_compare, selects_uncertain,
    Bool.or_false, Bool.and_true, isNone_or_any]
  simp only [isDueForPublish, AnalysisJob.isSync, Bool.and_assoc, Bool.or_assoc]

/-! ## The publisher -/

/-- The gate at the attempt limit of `publish`. -/
def attemptsLeft (job : AnalysisJobPublishRecord) (maxAttempts : Nat) : Bool :=
  decide (job.publishAttempts < maxAttempts) || requiresPublishRecovery job

/-- `isDue` for the reconciler, which allows republication. -/
theorem isDue_eq (job : AnalysisJobPublishRecord) (now : Instant) (republishAfterSeconds : Nat) :
    isDue job now republishAfterSeconds true =
      (job.status == .queued && !job.isSync && nullOrDue job.nextPublishAt now &&
        nullOrDue job.messagePublishedAt (now - republishAfterSeconds * 1000)) := by
  cases queued : job.status == .queued with
  | false =>
      have refused : job.status ≠ .queued := by simpa using queued
      simp [isDue, refused]
  | true =>
      have queuedStatus : job.status = .queued := by simpa using queued
      cases sync : job.isSync with
      | true => simp [isDue, sync]
      | false =>
          cases next : nullOrDue job.nextPublishAt now with
          | false => simp [isDue, next]
          | true =>
              cases published : job.messagePublishedAt with
              | none => simp only [isDue, queuedStatus, sync, next, published]; rfl
              | some instant => simp only [isDue, queuedStatus, sync, next, published]; rfl

/-- A row is selected exactly if it is due and has an attempt left. -/
theorem isDueForPublish_eq (now : Instant) (republishAfterSeconds maxAttempts : Nat)
    (job : AnalysisJob) :
    isDueForPublish now republishAfterSeconds maxAttempts job =
      (isDue job now republishAfterSeconds true && attemptsLeft job maxAttempts) := by
  rw [isDue_eq]
  simp only [isDueForPublish, attemptsLeft, requiresPublishRecovery]
  cases job.status == .queued <;> cases job.isSync <;> cases nullOrDue job.nextPublishAt now <;>
    cases nullOrDue job.messagePublishedAt (now - republishAfterSeconds * 1000) <;>
    cases decide (job.publishAttempts < maxAttempts) <;> cases job.reservedTokens.isSome <;>
    cases isUncertainPublishCode job.lastErrorCode <;> rfl

/-- The attempt that `publish` claims for a snapshot. -/
def claimOperation (settings : AnalysisJobPublishSettings) (job : AnalysisJobPublishRecord)
    (now : Instant) : Op :=
  .command (.update (.claimAttempt (PublishAttempt.claim ⟨job, settings, now⟩)))

section Publish

variable {deployment : Deployment} {settings : AnalysisJobPublishSettings}
  {job : AnalysisJobPublishRecord} {now : Instant}

/-- With readable settings the guarded part of `publish` is its two gates and
what follows them. -/
theorem publishDue_eq (readable : deployment.publishSettings = .ok settings)
    (configured : deployment.sqsSettings = .ok ()) (traceId : Uuid) :
    Exists fun resume => publishDue deployment job true now traceId =
      if isDue job now settings.republishAfterSeconds true = false then .done .skipped
      else if settings.maxAttempts ≤ job.publishAttempts ∧ requiresPublishRecovery job = false then
        .done .skipped
      else .request (claimOperation settings job now) resume := by
  rw [publishDue, readable, configured]
  exact ⟨_, rfl⟩

/-- Past both gates the attempt is claimed first, and otherwise nothing is
done. -/
theorem publishDue_gates (readable : deployment.publishSettings = .ok settings)
    (configured : deployment.sqsSettings = .ok ()) (traceId : Uuid) :
    Exists fun resume => publishDue deployment job true now traceId =
      if isDue job now settings.republishAfterSeconds true &&
          attemptsLeft job settings.maxAttempts then
        .request (claimOperation settings job now) resume
      else .done .skipped := by
  rcases @publishDue_eq deployment settings job now readable configured traceId with ⟨resume, split⟩
  refine ⟨resume, split.trans ?_⟩
  cases due : isDue job now settings.republishAfterSeconds true with
  | false => rfl
  | true =>
      cases left : attemptsLeft job settings.maxAttempts with
      | false =>
          have closed : settings.maxAttempts ≤ job.publishAttempts ∧
              requiresPublishRecovery job = false := by
            simpa [attemptsLeft] using left
          rw [if_neg (by decide), if_pos closed]
          rfl
      | true =>
          have passed : ¬(settings.maxAttempts ≤ job.publishAttempts ∧
              requiresPublishRecovery job = false) := by
            simp only [attemptsLeft, Bool.or_eq_true, decide_eq_true_eq] at left
            rintro ⟨reached, none⟩
            rcases left with room | recovery
            · exact absurd room (Nat.not_lt_of_le reached)
            · exact absurd (none.symm.trans recovery) (by decide)
          rw [if_neg (by decide), if_neg passed]
          rfl

end Publish

/-- `publish` draws a trace id and does the guarded part. -/
theorem publish_run (deployment : Deployment) (job : AnalysisJobPublishRecord) (now : Instant)
    (traceId : Uuid) :
    Program.Run (publish deployment job true now) [⟨.randomUuid, .ok traceId⟩]
      (tryCatch (publishDue deployment job true now traceId) fun _ => pure .deferred) :=
  @Program.run_perform_bind Services _ .randomUuid traceId _

/-- The due query and the due predicate agree: with readable settings a row
satisfies the `where` of `findDue` exactly if `publish` of that row, with
republication allowed and at the same time, gets to claim the attempt. -/
theorem due_query_agrees (deployment : Deployment) (settings : AnalysisJobPublishSettings)
    (job : AnalysisJob) (now : Instant) (traceId : Uuid)
    (readable : deployment.publishSettings = .ok settings)
    (configured : deployment.sqsSettings = .ok ()) :
    (findDueWhere now settings.republishAfterSeconds settings.maxAttempts job).selects = true ↔
      Exists fun resume => Program.Run (publish deployment job true now)
        [⟨.randomUuid, .ok traceId⟩] (.request (claimOperation settings job now) resume) := by
  rw [selects_findDueWhere, isDueForPublish_eq]
  rcases @publishDue_gates deployment settings job now readable configured traceId with
    ⟨resume, gates⟩
  have run := publish_run deployment job now traceId
  rw [gates] at run
  constructor
  · intro selected
    rw [if_pos selected] at run
    exact ⟨_, run⟩
  · rintro ⟨claiming, claimed⟩
    cases decided : isDue job now settings.republishAfterSeconds true &&
        attemptsLeft job settings.maxAttempts with
    | true => rfl
    | false =>
        rw [decided] at run
        cases claimed.unique run

/-- A row at the attempt limit whose reservation must be recovered, sent a
minute ago and again due. -/
def republishedJob : AnalysisJob :=
  { newJob ⟨1, 1, "key-1", .api 1 (.create "R1"), ⟨ANALYSIS_MODEL_VERSION, ANALYSIS_PROMPT_VERSION⟩,
      none, none⟩ ⟨0, 0, 1⟩ with
    reservedTokens := some 1000
    publishAttempts := 5
    messagePublishedAt := some 0
    nextPublishAt := some 60000 }

theorem due_query_agrees_at_limit :
    Exists fun resume => Program.Run (publish DEFAULT_DEPLOYMENT republishedJob true 60000)
      [⟨.randomUuid, .ok 7⟩]
      (.request (claimOperation DEFAULT_PUBLISH_SETTINGS republishedJob 60000) resume) :=
  (due_query_agrees DEFAULT_DEPLOYMENT DEFAULT_PUBLISH_SETTINGS republishedJob 60000 7
    rfl rfl).mp (by decide +kernel)

end GitMate
