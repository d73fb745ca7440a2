import GitMate.Ledger.Schema

namespace GitMate

/-!
# Errors and billing metadata

`AppError` collects the error classes that the modelled code throws or
distinguishes by `instanceof`, with the data a handler reads from them.  The
errors of third-party libraries keep only the class or the code on which the
worker's classifier decides.
-/

structure AnalysisTokenUsage where
  promptTokens : Int
  completionTokens : Int
  totalTokens : Int
  deriving DecidableEq, Repr

def ZERO_TOKEN_USAGE : AnalysisTokenUsage := ⟨0, 0, 0⟩

/-- `Number.isSafeInteger`. -/
def isSafeInteger (value : Int) : Bool :=
  decide (-(2 ^ 53 - 1) ≤ value) && decide (value ≤ 2 ^ 53 - 1)

def isValidAnalysisTokenUsage (usage : AnalysisTokenUsage) : Bool :=
  isSafeInteger usage.promptTokens && decide (0 ≤ usage.promptTokens) &&
    isSafeInteger usage.completionTokens && decide (0 ≤ usage.completionTokens) &&
    isSafeInteger usage.totalTokens && decide (0 ≤ usage.totalTokens) &&
    decide (usage.promptTokens + usage.completionTokens = usage.totalTokens)

/-- What a valid usage guarantees. -/
theorem isValidAnalysisTokenUsage_spec {usage : AnalysisTokenUsage}
    (valid : isValidAnalysisTokenUsage usage = true) :
    0 ≤ usage.totalTokens ∧ usage.totalTokens = usage.promptTokens + usage.completionTokens := by
  simp only [isValidAnalysisTokenUsage, Bool.and_eq_true, decide_eq_true_eq] at valid
  exact ⟨valid.1.2, valid.2.symm⟩

/-- The character class of `PROVIDER_REQUEST_ID_PATTERN`. -/
def isProviderRequestIdCharacter (character : Char) : Bool :=
  character.isAlphanum || character == '.' || character == '_' || character == ':' ||
    character == '/' || character == '-'

/-- `PROVIDER_REQUEST_ID_PATTERN`: 1 to 128 characters of the class. -/
def isValidProviderRequestId (value : String) : Bool :=
  decide (1 ≤ value.length) && decide (value.length ≤ 128) &&
    value.toList.all isProviderRequestIdCharacter

structure AnalysisExecutionVersion where
  modelVersion : String
  promptVersion : String
  deriving DecidableEq, Repr

def ANALYSIS_MODEL_VERSION : String := "gpt-5-mini"
def ANALYSIS_PROMPT_VERSION : String := "analysis-v4-minimum-evidence-quote"
def PREVIOUS_ANALYSIS_PROMPT_VERSION : String := "analysis-v3-structured-evidence-rationale"
def LEGACY_ANALYSIS_PROMPT_VERSION : String := "analysis-v1"
def INITIAL_STRUCTURED_ANALYSIS_PROMPT_VERSION : String := "analysis-v2-structured-evidence"

def CURRENT_ANALYSIS_EXECUTION_VERSION : AnalysisExecutionVersion :=
  ⟨ANALYSIS_MODEL_VERSION, ANALYSIS_PROMPT_VERSION⟩

def isSupportedAnalysisExecutionVersion (version : AnalysisExecutionVersion) : Bool :=
  version.modelVersion == ANALYSIS_MODEL_VERSION &&
    version.promptVersion == ANALYSIS_PROMPT_VERSION

def isRetiredAnalysisExecutionVersion (version : AnalysisExecutionVersion) : Bool :=
  version.modelVersion == ANALYSIS_MODEL_VERSION &&
    (version.promptVersion == LEGACY_ANALYSIS_PROMPT_VERSION ||
      version.promptVersion == INITIAL_STRUCTURED_ANALYSIS_PROMPT_VERSION ||
      version.promptVersion == PREVIOUS_ANALYSIS_PROMPT_VERSION)

inductive CollectionLimitKind where
  | changedPullRequests | reviewAndCommentNodes | analysisInputTokens
  deriving DecidableEq, Repr

def CollectionLimitKind.text : CollectionLimitKind -> String
  | .changedPullRequests => "changed pull requests"
  | .reviewAndCommentNodes => "review and comment nodes"
  | .analysisInputTokens => "analysis input tokens"

/-- What an `InputLimitExceededError` reports; both counts are exact
JavaScript integers. -/
structure InputLimitExceeded where
  limitKind : CollectionLimitKind
  limit : Nat
  actual : Nat
  limit_safe : limit < 2 ^ 53
  actual_safe : actual < 2 ^ 53
  deriving DecidableEq, Repr

def InputLimitExceeded.message (exceeded : InputLimitExceeded) : String :=
  exceeded.limitKind.text ++ " limit exceeded: found " ++ toString exceeded.actual ++
    ", maximum " ++ toString exceeded.limit ++ "."

/-- A text is as long as the list of its characters, which is cheap to count. -/
theorem length_ofList_le {characters : List Char} {bound : Nat}
    (short : characters.length ≤ bound) : (String.ofList characters).length ≤ bound := by
  rw [String.length_ofList]
  exact short

/-- An exact integer has at most 16 decimal digits. -/
theorem length_toString_le {number : Nat} (safe : number < 2 ^ 53) :
    (toString number).length ≤ 16 := by
  have digits : number < 10 ^ 16 := by omega
  exact (Nat.length_repr_le_iff (by decide)).mpr digits

theorem InputLimitExceeded.length_message (exceeded : InputLimitExceeded) :
    exceeded.message.length ≤ 256 := by
  have kind : exceeded.limitKind.text.length ≤ 32 := by
    cases exceeded.limitKind <;> decide
  have actual := length_toString_le exceeded.actual_safe
  have limit := length_toString_le exceeded.limit_safe
  have texts : " limit exceeded: found ".length + ", maximum ".length + ".".length = 34 := by decide
  simp only [InputLimitExceeded.message, String.length_append]
  omega

/-- The error classes of the OpenAI client that the classifier names. -/
inductive ProviderApiError where
  | rateLimit | internalServer | connectionTimeout | connection
  | authentication | badRequest
  deriving DecidableEq, Repr

inductive AppError where
  | invalidAnalysisJobInput (message : String)
  | invalidAnalysisJobTransition (fromStatus toStatus : AnalysisJobStatus)
  | staleAnalysisJobTransition (jobId : JobId) (fromStatus : AnalysisJobStatus)
  | activeAnalysisJobExists (repositoryId : RepositoryId)
  | insufficientAnalysisTokens
  | invalidAnalysisTokenUsage
  | analysisTokenBudgetExceeded
  | postBillingAnalysisPersistence (jobId : JobId) (providerRequestId : Option String)
      (usage : Option AnalysisTokenUsage)
  | unsupportedAnalysisExecutionVersion (version : AnalysisExecutionVersion)
  | llmProviderReconciliation (providerRequestId : Option String)
      (usage : Option AnalysisTokenUsage)
  | llmProviderConfiguration
  | llmTokenEstimation
  | inputLimitExceeded (exceeded : InputLimitExceeded)
  | staleAnalysisWorkerLease (jobId : JobId)
  | billedAnalysisJobRequiresReconciliation (jobId : JobId)
  | invalidRepositoryCollectionInput
  | githubPagination
  | invalidGithubDate
  | githubRateLimit (retryAt : Instant)
  | analysisJobQueueRejected
  | analysisJobQueueConfiguration (message : String)
  /-- A NestJS `HttpException`: forbidden, not found, conflict and so on. -/
  | http (status : Nat) (code : String) (message : String)
  | providerApi (kind : ProviderApiError)
  /-- `PrismaClientKnownRequestError` with its code. -/
  | prismaKnownRequest (code : String)
  /-- The other Prisma client errors: initialization, unknown request, panic. -/
  | prismaClient
  /-- Any other thrown value with a numeric `status` property. -/
  | withStatus (status : Int)
  /-- Any other thrown value with a string `code` property. -/
  | withCode (code : String)
  /-- Any other error. -/
  | error (message : String)
  deriving DecidableEq, Repr

/-- The errors a database call raises on its own. -/
def AppError.isDatabaseFault : AppError -> Bool
  | .prismaKnownRequest _ => true
  | .prismaClient => true
  | _ => false

end GitMate
