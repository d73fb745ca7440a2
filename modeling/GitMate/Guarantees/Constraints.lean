import GitMate.Guarantees.Billing

namespace GitMate

open Relational Interleaving Machine

/-!
# The CHECK constraints of the job table

The migration that adds the ledger puts fourteen `CHECK` constraints and two
more of several columns on `analysis_jobs`.  They are listed here by name and
evaluated on a row.  Each write of the application sets only some of the
columns, so that the row it makes passes every check depends on what earlier
writes have left.
-/

/-! ## Stored texts -/

/-- The text stored for an error code. -/
def ErrorCode.text : ErrorCode -> String
  | .analysisFailed => "ANALYSIS_FAILED"
  | .insufficientTokens => "INSUFFICIENT_TOKENS"
  | .inputLimitExceeded => "INPUT_LIMIT_EXCEEDED"
  | .maxAttemptsExceeded => "MAX_ATTEMPTS_EXCEEDED"
  | .noAnalyzableData => "NO_ANALYZABLE_DATA"
  | .publishFailed => "PUBLISH_FAILED"
  | .providerReconciliationRequired => "PROVIDER_RECONCILIATION_REQUIRED"
  | .repositoryUnavailable => "REPOSITORY_UNAVAILABLE"
  | .tokenBudgetExceeded => "TOKEN_BUDGET_EXCEEDED"
  | .unsupportedAnalysisVersion => "UNSUPPORTED_ANALYSIS_VERSION"
  | .databaseTemporaryFailure => "DATABASE_TEMPORARY_FAILURE"
  | .githubTemporaryFailure => "GITHUB_TEMPORARY_FAILURE"
  | .githubPaginationInvalid => "GITHUB_PAGINATION_INVALID"
  | .githubResponseInvalid => "GITHUB_RESPONSE_INVALID"
  | .invalidMessage => "INVALID_MESSAGE"
  | .providerConfigurationError => "PROVIDER_CONFIGURATION_ERROR"
  | .providerRequestInvalid => "PROVIDER_REQUEST_INVALID"
  | .providerTemporaryFailure => "PROVIDER_TEMPORARY_FAILURE"
  | .workerLeaseUnavailable => "WORKER_LEASE_UNAVAILABLE"
  | .publishInProgress => "PUBLISH_IN_PROGRESS"
  | .publishDeliveryUncertain => "PUBLISH_DELIVERY_UNCERTAIN"
  | .publishAttemptFailed => "PUBLISH_ATTEMPT_FAILED"

/-- The pattern `^[0-9a-f]{64}$`. -/
def isHexDigest (text : String) : Bool :=
  decide (text.toList.length = 64) &&
    text.toList.all fun character =>
      character.isDigit || decide ('a' ≤ character) && decide (character ≤ 'f')

/-- The pattern `^[A-Z0-9_]{1,64}$`. -/
def isErrorCodeText (text : String) : Bool :=
  decide (1 ≤ text.toList.length) && decide (text.toList.length ≤ 64) &&
    text.toList.all fun character =>
      character.isDigit || character == '_' || decide ('A' ≤ character) && decide (character ≤ 'Z')

theorem ErrorCode.isErrorCodeText_text (code : ErrorCode) : isErrorCodeText code.text = true := by
  cases code <;> decide +kernel

/-- The texts of the values that the ledger keeps abstract: the SHA-256 digest
of a request in lower-case hexadecimal digits, and a generated identifier. -/
structure ColumnTexts where
  requestHash : RequestHash -> String
  isHexDigest_requestHash : forall request, isHexDigest (requestHash request) = true
  leaseToken : Uuid -> String
  leaseToken_nonempty : forall uuid, 0 < (leaseToken uuid).length

/-! ## The constraints -/

/-- A value of an `INTEGER` column or expression. -/
def fitsInteger (value : Int) : Bool := decide (-2 ^ 31 ≤ value) && decide (value < 2 ^ 31)

/-- The token amounts of a row are in the range of their columns. -/
def AnalysisJob.amountsFit (job : AnalysisJob) : Bool :=
  [job.estimatedTokens, job.reservedTokens, job.promptTokens, job.completionTokens,
    job.totalTokens].all fun amount => amount.all fitsInteger

/-- The constraints, named after `analysis_jobs_…_check`. -/
inductive CheckConstraint where
  | progress | publishAttempts | attemptCount | maxAttempts | estimatedTokens | reservedTokens
  | promptTokens | completionTokens | totalTokens | requestHash | errorCode | errorMessage
  | runningLease | succeeded | failed | terminalTokenSettlement
  deriving DecidableEq, Repr

/-- `column IS NULL OR column >= 0`. -/
def nullOrNonnegative (column : Option Int) : Bool := column.all fun value => decide (0 ≤ value)

/-- The three usage columns are set and agree; their sum is computed in the
`INTEGER` range. -/
def AnalysisJob.hasTokenUsage (job : AnalysisJob) : Bool :=
  match job.promptTokens, job.completionTokens, job.totalTokens with
  | some promptTokens, some completionTokens, some totalTokens =>
      fitsInteger (promptTokens + completionTokens) &&
        decide (totalTokens = promptTokens + completionTokens)
  | _, _, _ => false

def AnalysisJob.isLegacyEntry (job : AnalysisJob) : Bool :=
  job.isLegacyReport && job.modelVersion == "legacy" && job.promptVersion == "legacy"

def AnalysisJob.awaitsReconciliation (job : AnalysisJob) : Bool :=
  job.status == .failed &&
    job.lastErrorCode.map ErrorCode.text == some "PROVIDER_RECONCILIATION_REQUIRED" &&
    job.tokensSettledAt.isNone && job.promptTokens.isNone && job.completionTokens.isNone &&
    job.totalTokens.isNone

/-- The condition of a constraint on a row. -/
def CheckConstraint.holds (texts : ColumnTexts) (job : AnalysisJob) : CheckConstraint -> Bool
  | .progress => decide (0 ≤ job.progress) && decide (job.progress ≤ 100)
  | .publishAttempts => decide (0 ≤ job.publishAttempts)
  | .attemptCount => decide (0 ≤ job.attemptCount)
  | .maxAttempts => decide (0 < job.maxAttempts)
  | .estimatedTokens => nullOrNonnegative job.estimatedTokens
  | .reservedTokens => nullOrNonnegative job.reservedTokens
  | .promptTokens => nullOrNonnegative job.promptTokens
  | .completionTokens => nullOrNonnegative job.completionTokens
  | .totalTokens => nullOrNonnegative job.totalTokens
  | .requestHash => isHexDigest (texts.requestHash job.requestHash)
  | .errorCode => job.lastErrorCode.all fun code => isErrorCodeText code.text
  | .errorMessage => job.lastErrorMessage.all fun message => decide (message.length ≤ 256)
  | .runningLease => job.status != .running ||
      (job.leaseToken.any fun leaseToken => decide (0 < (texts.leaseToken leaseToken).length)) &&
        job.leaseExpiresAt.isSome
  | .succeeded => job.status != .succeeded ||
      job.progress == 100 && job.completedAt.isSome && job.tokensSettledAt.isSome
  | .failed => job.status != .failed ||
      job.completedAt.isSome && job.lastErrorCode.isSome &&
        (job.tokensSettledAt.isSome ||
          job.lastErrorCode.map ErrorCode.text == some "PROVIDER_RECONCILIATION_REQUIRED")
  | .terminalTokenSettlement => !job.isTerminal || job.hasTokenUsage || job.isLegacyEntry ||
      job.awaitsReconciliation

/-- A row that the database accepts. -/
def AnalysisJob.Satisfies (job : AnalysisJob) (texts : ColumnTexts) : Prop :=
  forall constraint : CheckConstraint, constraint.holds texts job = true

/-! ## What a row carries -/

/-- The usage columns of a charge are all empty, or hold a usage. -/
def ProviderCharge.UsageSound (charge : ProviderCharge) : Prop :=
  (charge.promptTokens = .none ∧ charge.completionTokens = .none ∧ charge.totalTokens = .none) ∨
    Exists fun promptTokens => Exists fun completionTokens =>
      charge.promptTokens = some promptTokens ∧ charge.completionTokens = some completionTokens ∧
        charge.totalTokens = some (promptTokens + completionTokens) ∧ 0 ≤ promptTokens ∧
        0 ≤ completionTokens

theorem isValidAnalysisTokenUsage_nonneg {usage : AnalysisTokenUsage}
    (valid : isValidAnalysisTokenUsage usage = true) :
    0 ≤ usage.promptTokens ∧ 0 ≤ usage.completionTokens := by
  simp only [isValidAnalysisTokenUsage, Bool.and_eq_true, decide_eq_true_eq] at valid
  exact ⟨valid.1.1.1.1.1.2, valid.1.1.1.2⟩

theorem AnalysisTokenUsage.charge_usageSound {usage : Option AnalysisTokenUsage}
    (providerRequestIds : List String)
    (valid : forall used, usage = some used -> isValidAnalysisTokenUsage used = true) :
    (AnalysisTokenUsage.charge usage providerRequestIds).UsageSound := by
  cases usage with
  | none => exact Or.inl ⟨rfl, rfl, rfl⟩
  | some used =>
      have counts := isValidAnalysisTokenUsage_nonneg (valid used rfl)
      have total := (isValidAnalysisTokenUsage_spec (valid used rfl)).2
      exact Or.inr ⟨used.promptTokens, used.completionTokens, rfl, rfl, congrArg some total,
        counts.1, counts.2⟩

/-- The usage of a settled failure without a charge. -/
theorem ProviderCharge.zero_usageSound (providerRequestIds : List String) :
    (ProviderCharge.mk (some 0) (some 0) (some 0) providerRequestIds).UsageSound :=
  Or.inr ⟨0, 0, rfl, rfl, rfl, le_rfl, le_rfl⟩

/-- The columns that the checks read, beyond the lease and the settlement. -/
structure AnalysisJob.Checked (job : AnalysisJob) : Prop where
  progress : job.progress ≤ 100
  maxAttempts : 0 < job.maxAttempts
  estimatedTokens : forall tokens, job.estimatedTokens = some tokens -> 0 ≤ tokens
  usage : job.providerCharge.UsageSound
  errorMessage : forall message, job.lastErrorMessage = some message -> message.length ≤ 256
  succeeded : job.status = .succeeded -> job.progress = 100 ∧ job.completedAt.isSome = true ∧
    job.tokensSettledAt.isSome = true ∧
    (job.promptTokens.isSome = true ∨ job.isLegacyEntry = true)
  failed : job.status = .failed -> job.completedAt.isSome = true ∧
    job.lastErrorCode.isSome = true

theorem nullOrNonnegative_of {column : Option Int}
    (nonnegative : forall value, column = some value -> 0 ≤ value) :
    nullOrNonnegative column = true := by
  cases column with
  | none => rfl
  | some value => exact decide_eq_true (nonnegative value rfl)

theorem ProviderCharge.UsageSound.nonneg {charge : ProviderCharge} (sound : charge.UsageSound) :
    (forall tokens, charge.promptTokens = some tokens -> 0 ≤ tokens) ∧
    (forall tokens, charge.completionTokens = some tokens -> 0 ≤ tokens) ∧
    (forall tokens, charge.totalTokens = some tokens -> 0 ≤ tokens) := by
  rcases sound with ⟨prompt, completion, total⟩ |
    ⟨promptTokens, completionTokens, prompt, completion, total, promptSign, completionSign⟩
  · rw [prompt, completion, total]
    exact ⟨fun _ same => (by cases same), fun _ same => (by cases same),
      fun _ same => (by cases same)⟩
  · rw [prompt, completion, total]
    refine ⟨fun tokens same => ?_, fun tokens same => ?_, fun tokens same => ?_⟩
    · exact Option.some.inj same ▸ promptSign
    · exact Option.some.inj same ▸ completionSign
    · exact Option.some.inj same ▸ add_nonneg promptSign completionSign

/-- A known usage passes the settlement check when its amounts fit. -/
theorem AnalysisJob.hasTokenUsage_of_usageSound {job : AnalysisJob}
    (usage : job.providerCharge.UsageSound) (known : job.promptTokens.isSome = true)
    (fits : job.amountsFit = true) : job.hasTokenUsage = true := by
  rcases usage with ⟨prompt, _, _⟩ | ⟨promptTokens, completionTokens, prompt, completion, total, _, _⟩
  · have unknown : job.promptTokens = none := prompt
    rw [unknown] at known
    cases known
  · have promptColumn : job.promptTokens = some promptTokens := prompt
    have completionColumn : job.completionTokens = some completionTokens := completion
    have totalColumn : job.totalTokens = some (promptTokens + completionTokens) := total
    have totalFits : fitsInteger (promptTokens + completionTokens) = true := by
      simp only [amountsFit, totalColumn, List.all_cons, List.all_nil, Bool.and_true,
        Bool.and_eq_true, Option.all_some] at fits
      exact fits.2.2.2.2
    simp only [hasTokenUsage, promptColumn, completionColumn, totalColumn, totalFits,
      decide_true, Bool.and_self]

namespace AnalysisJob.Checked

variable {job later : AnalysisJob}

/-- A row that stays active. -/
theorem of_active (checked : job.Checked) (active : later.isActive = true)
    (progress : later.progress ≤ 100) (maxAttempts : later.maxAttempts = job.maxAttempts)
    (estimatedTokens : later.estimatedTokens = job.estimatedTokens)
    (usage : later.providerCharge.UsageSound)
    (errorMessage : forall message, later.lastErrorMessage = some message ->
      message.length ≤ 256) : later.Checked where
  progress := progress
  maxAttempts := maxAttempts ▸ checked.maxAttempts
  estimatedTokens := estimatedTokens ▸ checked.estimatedTokens
  usage := usage
  errorMessage := errorMessage
  succeeded status := by
    rcases AnalysisJob.isActive_iff.mp active with queued | running
    · rw [queued] at status; cases status
    · rw [running] at status; cases status
  failed status := by
    rcases AnalysisJob.isActive_iff.mp active with queued | running
    · rw [queued] at status; cases status
    · rw [running] at status; cases status

/-- A row that fails. -/
theorem of_failed (checked : job.Checked) (status : later.status = .failed)
    (progress : later.progress = job.progress) (maxAttempts : later.maxAttempts = job.maxAttempts)
    (estimatedTokens : later.estimatedTokens = job.estimatedTokens)
    (usage : later.providerCharge.UsageSound)
    (errorMessage : forall message, later.lastErrorMessage = some message ->
      message.length ≤ 256)
    (completedAt : later.completedAt.isSome = true)
    (lastErrorCode : later.lastErrorCode.isSome = true) : later.Checked where
  progress := progress ▸ checked.progress
  maxAttempts := maxAttempts ▸ checked.maxAttempts
  estimatedTokens := estimatedTokens ▸ checked.estimatedTokens
  usage := usage
  errorMessage := errorMessage
  succeeded same := by rw [status] at same; cases same
  failed _ := ⟨completedAt, lastErrorCode⟩

end AnalysisJob.Checked

/-- A message that is one of the fixed texts. -/
theorem message_le {text message : String} (short : text.length ≤ 256)
    (same : some text = some message) : message.length ≤ 256 :=
  Option.some.inj same ▸ short

theorem SAFE_ERROR_MESSAGES_le (code : AnalysisJobFailureCode) :
    (SAFE_ERROR_MESSAGES code).length ≤ 256 := by
  cases code <;> exact length_ofList_le (by decide)

/-- The guarded updates keep the checked columns in order. -/
theorem JobUpdate.checked {deployment : Deployment} {past : History Services} {change : JobUpdate}
    {now : Instant} {job : AnalysisJob} (checked : job.Checked)
    (permitted : change.Permitted deployment past) (guarded : change.row.guard job = true) :
    (change.row.data now job).Checked := by
  have status := JobUpdate.guard_status guarded
  cases change with
  | start => exact checked.of_active rfl checked.progress rfl rfl checked.usage checked.errorMessage
  | claimQueued =>
      exact checked.of_active rfl (show 10 ≤ 100 by decide) rfl rfl checked.usage
        (fun message same => by cases same)
  | takeOverExpiredLease =>
      exact checked.of_active (AnalysisJob.isActive_iff.mpr (Or.inr status))
        (show 10 ≤ 100 by decide) rfl rfl checked.usage (fun message same => by cases same)
  | takeOverExpiredBilledLease =>
      exact checked.of_active (AnalysisJob.isActive_iff.mpr (Or.inr status))
        (max_le checked.progress (by decide)) rfl rfl checked.usage checked.errorMessage
  | recordProviderCharge input =>
      rcases validateRecordProviderCharge_recorded permitted.1 with ⟨requestId, usage, same, valid⟩
      have sound : input.charge.UsageSound := same ▸ AnalysisTokenUsage.charge_usageSound _ valid
      exact checked.of_active (AnalysisJob.isActive_iff.mpr (Or.inr status)) checked.progress rfl rfl
        sound checked.errorMessage
  | updateProgress input =>
      exact checked.of_active (AnalysisJob.isActive_iff.mpr (Or.inr status)) permitted.2.1 rfl rfl
        checked.usage checked.errorMessage
  | releaseForRetry input =>
      exact checked.of_active rfl checked.progress rfl rfl checked.usage
        (fun message same => message_le permitted.2.1 same)
  | claimAttempt | markPublished =>
      exact checked.of_active (AnalysisJob.isActive_iff.mpr (Or.inl status)) checked.progress rfl rfl
        checked.usage (fun message same => by cases same)
  | recordFailure input =>
      simp only [JobUpdate.row, GitMate.recordFailure]
      by_cases terminating : input.terminate = true
      · rw [if_pos terminating]
        exact checked.of_failed rfl rfl rfl rfl (ProviderCharge.zero_usageSound _)
          (fun message same => message_le (length_ofList_le (by decide)) same) rfl rfl
      · rw [if_neg terminating]
        exact checked.of_active (AnalysisJob.isActive_iff.mpr (Or.inl status)) checked.progress rfl
          rfl checked.usage (fun message same => by cases same)

/-- A transition to failure carries a valid usage or none. -/
theorem TerminateWorkerJobInput.usage_valid {input : TerminateWorkerJobInput} {paid : Bool}
    (valid : validateTransitionInput (input.transition paid) = .ok ()) {used : AnalysisTokenUsage}
    (same : input.usage = some used) : isValidAnalysisTokenUsage used = true := by
  rcases checked_bind_ok valid with ⟨_, failure, _⟩
  have prompt : (input.failure paid).promptTokens = some used.promptTokens :=
    congrArg (Option.map AnalysisTokenUsage.promptTokens) same
  have completion : (input.failure paid).completionTokens = some used.completionTokens :=
    congrArg (Option.map AnalysisTokenUsage.completionTokens) same
  have total : (input.failure paid).totalTokens = some used.totalTokens :=
    congrArg (Option.map AnalysisTokenUsage.totalTokens) same
  unfold validateFailureInput at failure
  rw [prompt, completion, total] at failure
  cases settled : (input.failure paid).tokensSettledAt with
  | none =>
      rw [settled] at failure
      simp only at failure
      split at failure
      · cases failure
      · rcases checked_bind_ok failure with ⟨_, usage, _⟩
        exact assertValidTokenUsage_ok usage
  | some settledAt =>
      rw [settled] at failure
      rcases checked_bind_ok failure with ⟨_, usage, _⟩
      exact assertValidTokenUsage_ok usage

/-- Every permitted command keeps the checked columns in order. -/
theorem JobStep.checked {deployment : Deployment} {past : History Services}
    {environment : Environment} {order : Command} {job later : AnalysisJob}
    (step : JobStep environment order job later) (permitted : order.Permitted deployment past)
    (checked : job.Checked) : later.Checked := by
  cases step with
  | idle => exact checked
  | updated named guarded => exact JobUpdate.checked checked permitted guarded
  | recoveredUnreserved stale =>
      exact checked.of_failed rfl rfl rfl rfl (ProviderCharge.zero_usageSound _)
        (fun message same => message_le (length_ofList_le (by decide)) same) rfl rfl
  | recoveredReserved stale =>
      exact checked.of_failed rfl rfl rfl rfl checked.usage
        (fun message same => message_le (length_ofList_le (by decide)) same) rfl rfl
  | @reserved input _ named valid guarded =>
      have status := (reserveTokensRow_guard guarded).1
      exact {
        progress := checked.progress
        maxAttempts := checked.maxAttempts
        estimatedTokens := fun tokens same =>
          Option.some.inj same ▸ validateReserveTokens_estimated valid
        usage := checked.usage
        errorMessage := checked.errorMessage
        succeeded := fun same => by cases status.symm.trans same
        failed := fun same => by cases status.symm.trans same }
  | @terminated input paid linkedReport _ named valid guarded =>
      exact checked.of_failed rfl rfl rfl rfl
        (AnalysisTokenUsage.charge_usageSound input.providerRequestIds
          fun used same => TerminateWorkerJobInput.usage_valid valid same)
        (fun message same => message_le (SAFE_ERROR_MESSAGES_le _) same) rfl rfl
  | @saved input reportId linkedReport _ named valid guarded =>
      exact {
        progress := le_rfl
        maxAttempts := checked.maxAttempts
        estimatedTokens := checked.estimatedTokens
        usage := AnalysisTokenUsage.charge_usageSound [input.providerRequestId] fun used same =>
          Option.some.inj same ▸ SaveAnalysisResultInput.usage_valid valid
        errorMessage := checked.errorMessage
        succeeded := fun _ => ⟨rfl, rfl, rfl, Or.inl rfl⟩
        failed := fun same => by cases same }
  | settled named guarded unbilled =>
      exact checked.of_failed rfl rfl rfl rfl (ProviderCharge.zero_usageSound _)
        (fun message same => message_le permitted.2 same) rfl rfl

theorem newJob_checked (input : CreateAnalysisJobRecordInput) (environment : Environment) :
    (newJob input environment).Checked where
  progress := show 0 ≤ 100 by decide
  maxAttempts := show 0 < 5 by decide
  estimatedTokens _ same := by cases same
  usage := Or.inl ⟨rfl, rfl, rfl⟩
  errorMessage _ same := by cases same
  succeeded same := by cases same
  failed same := by cases same

theorem backfilledJob_checked (id : JobId) (report : AnalysisReport) (requestHash : RequestHash)
    (syncTime : Instant) : (backfilledJob id report requestHash syncTime).Checked where
  progress := show 100 ≤ 100 by decide
  maxAttempts := show 0 < 5 by decide
  estimatedTokens _ same := by cases same
  usage := Or.inl ⟨rfl, rfl, rfl⟩
  errorMessage _ same := by cases same
  succeeded _ := by
    refine ⟨rfl, rfl, rfl, Or.inr ?_⟩
    simp only [AnalysisJob.isLegacyEntry, AnalysisJob.isLegacyReport, backfilledJob, startsWith,
      String.toList_append, beq_self_eq_true, Bool.and_true]
    exact List.isPrefixOf_iff_prefix.mpr (List.prefix_append _ _)
  failed same := by cases same

/-! ## Rows that pass the checks -/

/-- A job that has ended has a known usage, is a backfilled entry, or waits for
its charge to be reconciled. -/
theorem AnalysisJob.Checked.settlement {job : AnalysisJob} (checked : job.Checked)
    (billing : job.Billing) (fits : job.amountsFit = true) :
    (!job.isTerminal || job.hasTokenUsage || job.isLegacyEntry || job.awaitsReconciliation) =
      true := by
  simp only [Bool.or_eq_true, Bool.not_eq_true']
  cases status : job.status with
  | queued | running =>
      refine Or.inl (Or.inl (Or.inl ?_))
      rw [AnalysisJob.isTerminal, status]
      rfl
  | succeeded =>
      rcases (checked.succeeded status).2.2.2 with known | legacy
      · exact Or.inl (Or.inl (Or.inr
          (AnalysisJob.hasTokenUsage_of_usageSound checked.usage known fits)))
      · exact Or.inl (Or.inr legacy)
  | failed =>
      cases known : job.promptTokens with
      | some promptTokens =>
          have usage := AnalysisJob.hasTokenUsage_of_usageSound checked.usage
            (by rw [known]; rfl) fits
          exact Or.inl (Or.inl (Or.inr usage))
      | none =>
          rcases billing.failed status with settled | ⟨unsettled, code⟩
          · rw [known] at settled
            cases settled.2.1
          · refine Or.inr ?_
            rcases checked.usage with ⟨_, completion, total⟩ | ⟨_, _, prompt, _⟩
            · have completionColumn : job.completionTokens = none := completion
              have totalColumn : job.totalTokens = none := total
              simp only [AnalysisJob.awaitsReconciliation, status, code, unsettled, known,
                completionColumn, totalColumn]
              rfl
            · have promptColumn : job.promptTokens = some _ := prompt
              cases known.symm.trans promptColumn

/-- A well-formed row with its billing and its other columns in order passes
every check, as long as its token amounts fit. -/
theorem AnalysisJob.Checked.satisfies {job : AnalysisJob} (checked : job.Checked)
    (wellFormed : job.WellFormed) (billing : job.Billing) (texts : ColumnTexts)
    (fits : job.amountsFit = true) : job.Satisfies texts := by
  intro constraint
  cases constraint with
  | progress => exact Bool.and_eq_true_iff.mpr ⟨decide_eq_true (Nat.zero_le job.progress),
      decide_eq_true checked.progress⟩
  | publishAttempts => exact decide_eq_true (Nat.zero_le job.publishAttempts)
  | attemptCount => exact decide_eq_true (Nat.zero_le job.attemptCount)
  | maxAttempts => exact decide_eq_true checked.maxAttempts
  | estimatedTokens => exact nullOrNonnegative_of checked.estimatedTokens
  | reservedTokens => exact nullOrNonnegative_of wellFormed.reserved
  | promptTokens => exact nullOrNonnegative_of (ProviderCharge.UsageSound.nonneg checked.usage).1
  | completionTokens =>
      exact nullOrNonnegative_of (ProviderCharge.UsageSound.nonneg checked.usage).2.1
  | totalTokens => exact nullOrNonnegative_of (ProviderCharge.UsageSound.nonneg checked.usage).2.2
  | requestHash => exact texts.isHexDigest_requestHash job.requestHash
  | errorCode =>
      simp only [CheckConstraint.holds]
      cases job.lastErrorCode with
      | none => rfl
      | some code => exact code.isErrorCodeText_text
  | errorMessage =>
      simp only [CheckConstraint.holds]
      cases written : job.lastErrorMessage with
      | none => rfl
      | some message => exact decide_eq_true (checked.errorMessage message written)
  | runningLease =>
      simp only [CheckConstraint.holds, Bool.or_eq_true, bne_iff_ne, Bool.and_eq_true]
      by_cases status : job.status = .running
      · rcases wellFormed.leased status with ⟨token, expiry⟩
        rcases Option.isSome_iff_exists.mp token with ⟨leaseToken, held⟩
        rw [held]
        exact Or.inr ⟨decide_eq_true (texts.leaseToken_nonempty leaseToken), expiry⟩
      · exact Or.inl status
  | succeeded =>
      simp only [CheckConstraint.holds, Bool.or_eq_true, bne_iff_ne, Bool.and_eq_true, beq_iff_eq]
      by_cases status : job.status = .succeeded
      · rcases checked.succeeded status with ⟨progress, completed, settled, _⟩
        exact Or.inr ⟨⟨progress, completed⟩, settled⟩
      · exact Or.inl status
  | failed =>
      simp only [CheckConstraint.holds, Bool.or_eq_true, bne_iff_ne, Bool.and_eq_true, beq_iff_eq]
      by_cases status : job.status = .failed
      · refine Or.inr ⟨checked.failed status, ?_⟩
        rcases billing.failed status with settled | unresolved
        · exact Or.inl settled.1
        · rw [unresolved.2]
          exact Or.inr rfl
      · exact Or.inl status
  | terminalTokenSettlement => exact checked.settlement billing fits

/-! ## Rows that are written -/

/-- The rows that a command writes to the job table: an update of a row that
passes its guard, or an insertion.  A transaction that fails later on has
written them all the same, so its constraints are checked too. -/
inductive Command.Writes (environment : Environment) (db : Database) :
    Command -> AnalysisJob -> Prop where
  | updates {order : Command} {jobId : JobId} {job later : AnalysisJob}
      (found : db.findJob jobId = some job) (step : JobStep environment order job later) :
      Writes environment db order later
  | inserts {input : CreateAnalysisJobRecordInput} :
      Writes environment db (.createExclusive input) (newJob input environment)

section Runs

variable {deployment : Deployment} {first last : SystemState deployment}
  {steps : List (Transition (gitMate deployment))}

theorem reachable_checked (initial : first.Initial) (backfilled : first.db.Backfilled)
    (run : Execution first steps last) {jobId : JobId} {job : AnalysisJob}
    (found : last.db.findJob jobId = some job) : job.Checked := by
  refine reachable_rows_permitted initial (fun _ job there => ?_)
    (fun _ input environment _ => newJob_checked input environment)
    (fun _ _ _ _ _ step permitted _ checked => step.checked permitted checked) run found
  rcases backfilled job (Table.mem_of_find? there) with ⟨id, report, requestHash, syncTime, rfl⟩
  exact backfilledJob_checked id report requestHash syncTime

/-- The constraints are inductive.  Every row of every reachable ledger passes
every check, and so does every row that a process is about to write, as long
as the token amounts of the row are in the range of their columns. -/
theorem checks_inductive (initial : first.Initial) (backfilled : first.db.Backfilled)
    (run : Execution first steps last) (texts : ColumnTexts) :
    (forall jobId job, last.db.findJob jobId = some job -> job.amountsFit = true ->
      job.Satisfies texts) ∧
    (forall index order environment row, last.pending index = some (.command order) ->
      order.Writes environment last.db row -> row.amountsFit = true -> row.Satisfies texts) := by
  constructor
  · intro jobId job found fits
    exact (reachable_checked initial backfilled run found).satisfies
      (reachable_wellFormed initial run found) (reachable_billing initial run found) texts fits
  · intro index order environment row pending writes fits
    rcases State.getElem?_of_pending pending with ⟨resume, here⟩
    have permitted := (reachable_disciplined initial run).permits here
    cases writes with
    | updates found step =>
        exact (step.checked permitted.1 (reachable_checked initial backfilled run found)).satisfies
          (step.wellFormed permitted.2 (reachable_wellFormed initial run found))
          (step.billing permitted.1 (reachable_billing initial run found)) texts fits
    | @inserts input =>
        exact (newJob_checked input environment).satisfies (newJob_wellFormed input environment)
          (newJob_billing input environment) texts fits

end Runs

/-- The texts of the small world: the digest of its one request and the shape
of every generated identifier. -/
def smallTexts : ColumnTexts where
  requestHash _ := "1299fe6a81cd7be87cbace30b21485bbc2f9e1b8a3180c7d692134c2de28169e"
  isHexDigest_requestHash _ := by decide +kernel
  leaseToken _ := "00000000-0000-4000-8000-000000000000"
  leaseToken_nonempty _ := by decide

/-- After the life of the job of the small world its row passes every
check. -/
theorem checks_inductive_after_success :
    Exists fun job =>
      ((smallState DEFAULT_DEPLOYMENT).after successScript).db.findJob 1 = some job ∧
        job.Satisfies smallTexts := by
  rcases State.after_run (show ((smallState DEFAULT_DEPLOYMENT).play successScript).isSome = true
    by decide +kernel) with ⟨steps, run⟩
  have present : (((smallState DEFAULT_DEPLOYMENT).after successScript).db.findJob 1).any
      AnalysisJob.amountsFit = true := by decide +kernel
  rcases (Option.any_eq_true _ _).mp present with ⟨job, found, fits⟩
  exact ⟨job, found, (checks_inductive (smallState_initial DEFAULT_DEPLOYMENT)
    smallDatabase_backfilled run smallTexts).1 1 job found fits⟩

end GitMate
