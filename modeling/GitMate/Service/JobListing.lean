import GitMate.Ledger.Errors
import GitMate.Library.Base64
import GitMate.Library.IsoDate
import GitMate.Library.JsonValue
import GitMate.Library.Table
import GitMate.Service.Message

namespace GitMate.Listing

open JavaScript Relational

/-!
# Listing the jobs of a user

The API lists jobs page by page.  A page is one query, and the cursor that
leads to the next page is a text: the creation date and the id of the last job
shown, as JSON in base 64.

Elsewhere the ids of jobs are opaque; here they are the texts that travel in a
cursor.  Every id has the shape of a UUID, since Prisma generates it with
`uuid()` and the migration of the old reports casts it to `uuid`.  The order of
these texts is that of the database.
-/

/-! ## Jobs -/

/-- `/^[0-9a-f]{8}-[0-9a-f]{4}-[0-9a-f]{4}-[0-9a-f]{4}-[0-9a-f]{12}$/i`. -/
def CURSOR_ID_PATTERN : Pattern :=
  List.replicate 8 Wire.anyHex ++ Wire.isHyphen :: (List.replicate 4 Wire.anyHex ++
    Wire.isHyphen :: (List.replicate 4 Wire.anyHex ++ Wire.isHyphen ::
      (List.replicate 4 Wire.anyHex ++ Wire.isHyphen :: List.replicate 12 Wire.anyHex)))

structure JobUuid where
  text : Text
  shaped : CURSOR_ID_PATTERN.test text = true
  deriving DecidableEq

structure RepositoryColumns where
  id : RepositoryId
  githubRepoId : Text
  fullName : Text
  deriving DecidableEq

/-- A job with `analysisJobApiInclude`, as far as the listing reads it. -/
structure AnalysisJobApiRecord where
  id : JobUuid
  status : AnalysisJobStatus
  stage : Option AnalysisJobStage
  progress : Nat
  userId : UserId
  repositoryId : RepositoryId
  attemptCount : Nat
  estimatedTokens : Option Int
  reservedTokens : Option Int
  totalTokens : Option Int
  lastErrorCode : Option Text
  lastErrorMessage : Option Text
  errorRetryable : Option Bool
  createdAt : Time
  startedAt : Option Time
  completedAt : Option Time
  updatedAt : Time
  repository : RepositoryColumns
  report : Option Nat
  deriving DecidableEq

/-- The table of jobs. -/
abbrev Jobs : Type := Table AnalysisJobApiRecord.id

/-! ## Responses -/

structure AnalysisJobTokensDto where
  estimated : Option Int
  reserved : Option Int
  consumed : Option Int
  deriving DecidableEq

structure AnalysisJobResultDto where
  reportId : Nat
  href : Text
  deriving DecidableEq

structure AnalysisJobErrorDto where
  code : Text
  message : Text
  retryable : Bool
  deriving DecidableEq

structure AnalysisJobResponseDto where
  jobId : Text
  status : AnalysisJobStatus
  stage : Option AnalysisJobStage
  progress : Nat
  attempt : Nat
  repository : RepositoryColumns
  tokens : AnalysisJobTokensDto
  result : Option AnalysisJobResultDto
  error : Option AnalysisJobErrorDto
  createdAt : Text
  startedAt : Option Text
  completedAt : Option Text
  updatedAt : Text
  /-- `links.self`. -/
  self : Text
  deriving DecidableEq

structure AnalysisJobListResponseDto where
  items : List AnalysisJobResponseDto
  nextCursor : Option Text
  deriving DecidableEq

def PUBLIC_ERROR_MESSAGES : List (String × String) :=
  [ ("ANALYSIS_FAILED", "분석을 완료하지 못했습니다."),
    ("INSUFFICIENT_TOKENS", "분석에 필요한 토큰이 부족합니다."),
    ("INPUT_LIMIT_EXCEEDED", "LLM 입력 상한(80,000 tokens)을 초과했습니다."),
    ("MAX_ATTEMPTS_EXCEEDED", "최대 재시도 횟수를 초과했습니다."),
    ("NO_ANALYZABLE_DATA", "분석할 수 있는 저장소 활동이 없습니다."),
    ("PUBLISH_FAILED", "분석 작업을 처리 대기열에 등록하지 못했습니다."),
    ("PROVIDER_RECONCILIATION_REQUIRED",
      "분석 사용량을 확인 중입니다. 잠시 후 다시 확인해 주세요."),
    ("REPOSITORY_UNAVAILABLE", "저장소에 접근할 수 없습니다."),
    ("TOKEN_BUDGET_EXCEEDED", "분석 토큰 한도를 초과했습니다.") ]

def publicMessageOf (errorCode : Text) : Option Text :=
  (PUBLIC_ERROR_MESSAGES.find? fun entry => text entry.1 == errorCode).map fun entry => text entry.2

def publicErrorMessage (errorCode : Text) (storedMessage : Option Text) : Option Text :=
  let mentions := fun words : String => storedMessage.any fun message =>
    decide (text words <:+: message)
  if errorCode ≠ text "INPUT_LIMIT_EXCEEDED" then publicMessageOf errorCode
  else if mentions "changed pull requests" then some (text "변경 PR 상한(100개)을 초과했습니다.")
  else if mentions "review and comment nodes" then
    some (text "review/comment node 상한(2,000개)을 초과했습니다.")
  else publicMessageOf errorCode

def errorOf (job : AnalysisJobApiRecord) : Option AnalysisJobErrorDto :=
  match job.lastErrorCode with
  | none | some [] => none
  | some errorCode =>
      if job.status = .failed then
        match publicErrorMessage errorCode job.lastErrorMessage with
        | some message => some ⟨errorCode, message, job.errorRetryable == some true⟩
        | none => some ⟨text "ANALYSIS_FAILED", text "분석 작업을 완료하지 못했습니다.",
            job.errorRetryable == some true⟩
      else none

/-- `AnalysisJobResponseMapper.toDto`. -/
def toDto (job : AnalysisJobApiRecord) : AnalysisJobResponseDto where
  jobId := job.id.text
  status := job.status
  stage := job.stage
  progress := job.progress
  attempt := job.attemptCount
  repository := job.repository
  tokens := ⟨job.estimatedTokens, job.reservedTokens, job.totalTokens⟩
  result := job.report.map fun report =>
    ⟨report, text "/analysis/reports/" ++ text (toString report)⟩
  error := errorOf job
  createdAt := job.createdAt.toISOString
  startedAt := job.startedAt.map Time.toISOString
  completedAt := job.completedAt.map Time.toISOString
  updatedAt := job.updatedAt.toISOString
  self := text "/analysis/jobs/" ++ job.id.text

/-! ## The cursor -/

structure AnalysisJobCursor where
  createdAt : Time
  id : JobUuid
  deriving DecidableEq

def encodeCursor (cursor : AnalysisJobCursor) : Text :=
  characters (base64url (utf8 (JsonValue.stringify (.object
    [ (text "createdAt", .string cursor.createdAt.toISOString),
      (text "id", .string cursor.id.text) ]))))

/-- The two members of a payload that has no others. -/
def cursorPayload (value : JsonValue) : Option (Text × JobUuid) :=
  match value with
  | .array _ | .object _ =>
      if value.keys.length = 2 then
        match value.get (text "createdAt"), value.get (text "id") with
        | some (.string createdAt), some (.string id) =>
            if shaped : CURSOR_ID_PATTERN.test id = true then some (createdAt, ⟨id, shaped⟩)
            else none
        | _, _ => none
      else none
  | _ => none

/-- `other` reads the dates that are not in the format of `toISOString`. -/
def decodeCursor (other : Text -> Date) (cursor : Text) : Except AppError AnalysisJobCursor :=
  match (JsonValue.parse (decodeUtf8 (decodeBase64 cursor))).bind cursorPayload with
  | some payload =>
      match Date.parse other payload.1 with
      | some createdAt => .ok ⟨createdAt, payload.2⟩
      | none => .error (.http 400 "INVALID_REQUEST" "Cursor is invalid.")
  | none => .error (.http 400 "INVALID_REQUEST" "Cursor is invalid.")

/-- `query.cursor ? this.decodeCursor(query.cursor) : undefined`. -/
def readCursor (other : Text -> Date) :
    Option Text -> Except AppError (Option AnalysisJobCursor)
  | none | some [] => .ok none
  | some cursor => (decodeCursor other cursor).map some

/-! ## The query -/

structure ListOwnedAnalysisJobsInput where
  userId : UserId
  repositoryId : Option RepositoryId
  status : Option AnalysisJobStatus
  limit : Nat
  cursor : Option AnalysisJobCursor

/-- The filters of the query, apart from the cursor. -/
def isWanted (input : ListOwnedAnalysisJobsInput) (job : AnalysisJobApiRecord) : Bool :=
  decide (job.userId = input.userId) &&
    input.repositoryId.all (fun repositoryId => decide (job.repositoryId = repositoryId)) &&
    input.status.all (fun status => decide (job.status = status))

section Order

variable [LinearOrder JobUuid]

/-- `cursorBoundary`. -/
def isBehind (cursor : Option AnalysisJobCursor) (job : AnalysisJobApiRecord) : Bool :=
  cursor.all fun cursor =>
    decide (job.createdAt.milliseconds < cursor.createdAt.milliseconds) ||
      (decide (job.createdAt.milliseconds = cursor.createdAt.milliseconds) &&
        decide (job.id < cursor.id))

/-- `orderBy: [{ createdAt: 'desc' }, { id: 'desc' }]`. -/
def comesFirst (first second : AnalysisJobApiRecord) : Bool :=
  decide (second.createdAt.milliseconds < first.createdAt.milliseconds) ||
    (decide (second.createdAt.milliseconds = first.createdAt.milliseconds) &&
      decide (second.id ≤ first.id))

def listOwned (jobs : Jobs) (input : ListOwnedAnalysisJobsInput) : List AnalysisJobApiRecord :=
  ((jobs.rows.filter fun job => isWanted input job && isBehind input.cursor job).mergeSort
    comesFirst).take (input.limit + 1)

structure ListAnalysisJobsQueryDto where
  repositoryId : Option RepositoryId
  status : Option AnalysisJobStatus
  limit : Nat
  cursor : Option Text

/-- `AnalysisJobApiService.list`. -/
def list (other : Text -> Date) (jobs : Jobs) (userId : UserId)
    (query : ListAnalysisJobsQueryDto) : Except AppError AnalysisJobListResponseDto := do
  let cursor <- readCursor other query.cursor
  let found := listOwned jobs ⟨userId, query.repositoryId, query.status, query.limit, cursor⟩
  let hasNextPage := query.limit < found.length
  let page := if hasNextPage then found.take query.limit else found
  pure ⟨page.map toDto, if hasNextPage then page.getLast?.map fun lastJob =>
    encodeCursor ⟨lastJob.createdAt, lastJob.id⟩ else none⟩

end Order

end GitMate.Listing
