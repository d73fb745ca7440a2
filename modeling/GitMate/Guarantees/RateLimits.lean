import GitMate.Collection.GithubErrors
import GitMate.Service.Worker

namespace GitMate

open JavaScript Collection AnalysisWorkerService

/-!
# Rate limits and the time of the next try

Whatever the GitHub client throws, the wrapper throws on as it is or turns into
a rate-limit error.  The time that such an error carries lies at most a day
ahead, and the worker waits for it at least, whatever its own backoff says.

The day has to end within the range of dates.  For a clock that is closer to
the last representable millisecond the computed date is invalid.
-/

/-! ## The backoff of the worker -/

/-- The exponential part of the backoff, capped, in seconds. -/
def exponentialBackoff (attempt baseSeconds : Nat) : Nat :=
  min (baseSeconds * 2 ^ (attempt - 1)) MAX_BACKOFF_SECONDS

/-- Jitter adds a fifth at most. -/
theorem floor_jittered (seconds : Nat) {random : Rat} (drawn : 0 ≤ random) (bounded : random < 1) :
    (seconds * 1000 : Int) ≤ (((seconds : Rat) + seconds * JITTER_RATIO * random) * 1000).floor ∧
      (((seconds : Rat) + seconds * JITTER_RATIO * random) * 1000).floor ≤ seconds * 1200 := by
  have nonneg : (0 : Rat) ≤ seconds := Nat.cast_nonneg seconds
  have jitter : 0 ≤ (seconds : Rat) * random := mul_nonneg nonneg drawn
  have fifth : (seconds : Rat) * random ≤ seconds :=
    mul_le_of_le_one_right nonneg bounded.le
  have product : ((seconds : Rat) + seconds * JITTER_RATIO * random) * 1000 =
      seconds * 1000 + (seconds * random) * 200 := by
    unfold JITTER_RATIO
    ring
  rw [product]
  constructor
  · refine Rat.le_floor_iff.2 ?_
    push_cast
    linarith
  · have whole : (((seconds : Rat) * 1000 + seconds * random * 200).floor : Rat) ≤
        ((seconds * 1200 : Int) : Rat) := by
      refine (Rat.floor_le _).trans ?_
      push_cast
      linarith
    exact_mod_cast whole

theorem nextBackoffAt_between (now : Instant) (attempt baseSeconds : Nat) {random : Rat}
    (drawn : 0 ≤ random) (bounded : random < 1) :
    now + exponentialBackoff attempt baseSeconds * 1000 ≤
        nextBackoffAt now attempt baseSeconds random ∧
      nextBackoffAt now attempt baseSeconds random ≤
        now + exponentialBackoff attempt baseSeconds * 1200 := by
  have delay := floor_jittered (exponentialBackoff attempt baseSeconds) drawn bounded
  exact ⟨Int.add_le_add_left delay.1 now, Int.add_le_add_left delay.2 now⟩

/-- The worker does not try before the provider's time. -/
theorem le_nextRetryAt (deployment : Deployment) (now : Instant) (attempt : Nat) (random : Rat)
    (retryAt : Instant) :
    retryAt ≤ nextRetryAt deployment now attempt random (some retryAt) := by
  unfold nextRetryAt
  simp only
  split
  · exact le_rfl
  · rename_i later
    exact not_lt.1 later

/-! ## The claim -/

variable (toLowerCase toUpperCase : Text -> Text)

/-- A rate-limit error is a fixed point. -/
theorem normalize_of_isGithubRateLimitError {error : Value} (now : Date)
    (already : error.isGithubRateLimitError = true) :
    normalizeGithubRequestError toLowerCase toUpperCase error now = error := by
  unfold normalizeGithubRequestError
  rw [if_pos already]

/-- Whether a retry-after header counts does not depend on the clock. -/
theorem validRetryAfter_eq_none_iff (value : Option Text) (now later : Date) :
    validRetryAfter value now = none ↔ validRetryAfter value later = none := by
  unfold validRetryAfter
  split
  · exact Iff.rfl
  · split
    · exact Iff.rfl
    · split
      · split
        · exact Iff.rfl
        · split
          · split
            · exact Iff.rfl
            · exact iff_of_false nofun nofun
          · exact Iff.rfl
      · exact Iff.rfl

theorem reportsRateLimit_iff (error : Value) (now later : Date) :
    ReportsRateLimit toLowerCase toUpperCase error now ↔
      ReportsRateLimit toLowerCase toUpperCase error later := by
  unfold ReportsRateLimit
  simp only [ne_eq, validRetryAfter_eq_none_iff _ now later]

/-- Normalizing twice, even at two times, is normalizing once. -/
theorem normalize_normalize (error : Value) (now later : Date) :
    normalizeGithubRequestError toLowerCase toUpperCase
        (normalizeGithubRequestError toLowerCase toUpperCase error now) later =
      normalizeGithubRequestError toLowerCase toUpperCase error now := by
  cases already : error.isGithubRateLimitError with
  | true =>
      rw [normalize_of_isGithubRateLimitError toLowerCase toUpperCase now already]
      exact normalize_of_isGithubRateLimitError toLowerCase toUpperCase later already
  | false =>
      rcases normalize_cases toLowerCase toUpperCase error now already with
        ⟨_, rewritten⟩ | ⟨unreported, unchanged⟩
      · rw [rewritten]
        exact normalize_of_isGithubRateLimitError toLowerCase toUpperCase later rfl
      · rw [unchanged]
        rcases normalize_cases toLowerCase toUpperCase error later already with
          ⟨reported, _⟩ | ⟨_, same⟩
        · exact absurd ((reportsRateLimit_iff toLowerCase toUpperCase error now later).2 reported)
            unreported
        · exact same

/-- A value becomes a rate-limit error exactly if it reports a rate limit. -/
theorem isGithubRateLimitError_normalize_iff (error : Value) (now : Date) :
    ((normalizeGithubRequestError toLowerCase toUpperCase error now).isGithubRateLimitError = true ∧
        error.isGithubRateLimitError = false) ↔
      (error.isGithubRateLimitError = false ∧
        ReportsRateLimit toLowerCase toUpperCase error now) := by
  refine ⟨fun ⟨becomes, other⟩ => ⟨other, ?_⟩, fun ⟨other, reports⟩ => ⟨?_, other⟩⟩
  · rcases normalize_cases toLowerCase toUpperCase error now other with
      ⟨reported, _⟩ | ⟨_, unchanged⟩
    · exact reported
    · rw [unchanged, other] at becomes
      cases becomes
  · rcases normalize_cases toLowerCase toUpperCase error now other with
      ⟨_, rewritten⟩ | ⟨unreported, _⟩
    · rw [rewritten]
      rfl
    · exact absurd reports unreported

/-- The time of a rewritten error. -/
theorem normalize_withinDelay (error : Value) (now : Time)
    (range : now.milliseconds + MAX_RATE_LIMIT_DELAY_MS ≤ MAX_TIME) :
    normalizeGithubRequestError toLowerCase toUpperCase error (some now) = error ∨
      ∃ status retryAt cause,
        normalizeGithubRequestError toLowerCase toUpperCase error (some now) =
          .githubRateLimitError status (some retryAt) cause ∧
        now.milliseconds ≤ retryAt.milliseconds ∧
        retryAt.milliseconds ≤ now.milliseconds + MAX_RATE_LIMIT_DELAY_MS := by
  cases already : error.isGithubRateLimitError with
  | true =>
      exact .inl (normalize_of_isGithubRateLimitError toLowerCase toUpperCase _ already)
  | false =>
      rcases normalize_cases toLowerCase toUpperCase error (some now) already with
        ⟨_, rewritten⟩ | ⟨_, unchanged⟩
      · rcases rateLimitRetryAt_withinDelay (responseHeaders toLowerCase error) range with
          ⟨retryAt, found, bounds⟩
        rw [found] at rewritten
        exact .inr ⟨_, retryAt, _, rewritten, bounds⟩
      · exact .inl unchanged

/-- Normalization and the schedule of the worker together.  Only the first part
needs a day that ends within the range of dates. -/
theorem rate_limit_scheduled (error : Value) :
    (forall now : Time, now.milliseconds + MAX_RATE_LIMIT_DELAY_MS ≤ MAX_TIME ->
      normalizeGithubRequestError toLowerCase toUpperCase error (some now) = error ∨
        ∃ status retryAt cause,
          normalizeGithubRequestError toLowerCase toUpperCase error (some now) =
            .githubRateLimitError status (some retryAt) cause ∧
          now.milliseconds ≤ retryAt.milliseconds ∧
          retryAt.milliseconds ≤ now.milliseconds + MAX_RATE_LIMIT_DELAY_MS ∧
          forall (deployment : Deployment) (clock : Instant) (attempt : Nat) (random : Rat),
            retryAt.milliseconds ≤ nextRetryAt deployment clock attempt random
              (AnalysisWorkerErrorClassifier.classify
                (.githubRateLimit retryAt.milliseconds)).retryAt) ∧
    (forall now : Date,
      ((normalizeGithubRequestError toLowerCase toUpperCase error now).isGithubRateLimitError =
          true ∧ error.isGithubRateLimitError = false) ↔
        (error.isGithubRateLimitError = false ∧
          ReportsRateLimit toLowerCase toUpperCase error now)) ∧
    (forall now later : Date,
      normalizeGithubRequestError toLowerCase toUpperCase
          (normalizeGithubRequestError toLowerCase toUpperCase error now) later =
        normalizeGithubRequestError toLowerCase toUpperCase error now) ∧
    (forall (now : Instant) (attempt baseSeconds : Nat) (random : Rat), 0 ≤ random -> random < 1 ->
      now + exponentialBackoff attempt baseSeconds * 1000 ≤
          nextBackoffAt now attempt baseSeconds random ∧
        nextBackoffAt now attempt baseSeconds random ≤
          now + exponentialBackoff attempt baseSeconds * 1200) := by
  refine ⟨fun now range => ?_, isGithubRateLimitError_normalize_iff toLowerCase toUpperCase error,
    normalize_normalize toLowerCase toUpperCase error,
    fun now attempt baseSeconds _ drawn bounded =>
      nextBackoffAt_between now attempt baseSeconds drawn bounded⟩
  rcases normalize_withinDelay toLowerCase toUpperCase error now range with
    unchanged | ⟨status, retryAt, cause, rewritten, first, last⟩
  · exact .inl unchanged
  · exact .inr ⟨status, retryAt, cause, rewritten, first, last,
      fun deployment clock attempt random => le_nextRetryAt deployment clock attempt random _⟩

/-! ## Concrete errors -/

/-- An error with a numeric status and one header. -/
def headerError (status : Rat) (name value : String) : Value :=
  .object true none
    [ (text "status", .number (.finite status)),
      (text "response", .object false none
        [(text "headers", .object false none [(text name, .string (text value))] [])] []) ] []

/-- The time that a rate-limit error carries. -/
def retryTime : Value -> Option Int
  | .githubRateLimitError _ (some retryAt) _ => some retryAt.milliseconds
  | _ => none

def epoch : Time := ⟨0, by decide⟩

def lastTime : Time := ⟨MAX_TIME, le_rfl⟩

/-- All texts are in the case that is asked for, so the mappings may be
identities.  Two and a half minutes are worth waiting for when the worker would
come back after one. -/
theorem rate_limit_scheduled_example :
    retryTime (normalizeGithubRequestError id id (headerError 403 "retry-after" "150.0004")
        (some epoch)) = some 150001 ∧
      (∃ status retryAt cause,
        normalizeGithubRequestError id id (headerError 403 "retry-after" "150.0004")
            (some epoch) = .githubRateLimitError status (some retryAt) cause ∧
          0 ≤ retryAt.milliseconds ∧ retryAt.milliseconds ≤ 86400000) ∧
      60000 ≤ nextBackoffAt 0 2 30 (1 / 2) ∧ nextBackoffAt 0 2 30 (1 / 2) ≤ 72000 := by
  have found : retryTime (normalizeGithubRequestError id id
      (headerError 403 "retry-after" "150.0004") (some epoch)) = some 150001 := by decide +kernel
  have scheduled := rate_limit_scheduled id id (headerError 403 "retry-after" "150.0004")
  refine ⟨found, ?_, scheduled.2.2.2 0 2 30 (1 / 2) (by norm_num) (by norm_num)⟩
  rcases scheduled.1 epoch (by decide) with unchanged | ⟨status, retryAt, cause, rewritten, within⟩
  · rw [unchanged] at found
    cases found
  · exact ⟨status, retryAt, cause, rewritten, within.1, within.2.1⟩

/-- GraphQL reports a rate limit next to a status that is a string. -/
def oddStatusError : Value :=
  .object true none
    [ (text "status", .string (text "404")),
      (text "errors", .object false
        (some [.object false none [(text "type", .string (text "RATE_LIMITED"))] []]) [] []) ] []

/-- At the last representable millisecond there is no later date: the error for
a status of 429 is rewritten, and carries an invalid date.  A status that is a
string is present but does not count, so the rate limit next to it is
normalized as well. -/
theorem rate_limit_date_overflow :
    ¬ (normalizeGithubRequestError id id (headerError 429 "server" "github.com") (some lastTime) =
          headerError 429 "server" "github.com" ∨
        ∃ status retryAt cause,
          normalizeGithubRequestError id id (headerError 429 "server" "github.com")
              (some lastTime) = .githubRateLimitError status (some retryAt) cause ∧
            lastTime.milliseconds ≤ retryAt.milliseconds ∧
            retryAt.milliseconds ≤ lastTime.milliseconds + MAX_RATE_LIMIT_DELAY_MS) ∧
      (normalizeGithubRequestError id id oddStatusError (some epoch)).isGithubRateLimitError =
        true ∧ (oddStatusError.property "status").isSome = true := by
  have overflown : normalizeGithubRequestError id id (headerError 429 "server" "github.com")
      (some lastTime) = .githubRateLimitError (.finite 429) none
        (some (headerError 429 "server" "github.com")) := rfl
  refine ⟨fun claimed => ?_, by decide +kernel, by decide +kernel⟩
  rcases claimed with unchanged | ⟨_, _, _, rewritten, _⟩
  · rw [overflown] at unchanged
    cases unchanged
  · rw [overflown] at rewritten
    cases rewritten

end GitMate
