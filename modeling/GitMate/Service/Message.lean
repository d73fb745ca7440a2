import GitMate.Library.Json

namespace GitMate.Wire

open JavaScript

/-!
# The message of an analysis job

The publisher's queue adapter checks a message and renders the body that it
sends.  The worker parses the body of a delivered record and decides whether
it is a message of version one.  Each side has its own pattern of a job id;
that of the publisher ignores case.  Elsewhere a body counts as already parsed;
here it is the text that travels.
-/

/-! ## The encoder -/

/-- A value of type `number`; NaN and the infinities are `none`. -/
abbrev JsNumber : Type := Option Rat

/-- `Number.isInteger(value) && value > 0`. -/
def isPositiveInteger : JsNumber -> Bool
  | some value => decide (value.den = 1) && decide (0 < value)
  | none => false

structure AnalysisJobQueueMessage where
  jobId : Text
  userId : JsNumber
  repositoryId : JsNumber
  traceId : Text
  deriving DecidableEq, Repr

/-- The class `[0-9a-f]`. -/
def lowercaseHex (code : CodeUnit) : Bool := isDigit code || between 0x61 0x66 code

/-- The class `[0-9a-f]` under the flag `i`. -/
def anyHex (code : CodeUnit) : Bool := lowercaseHex code || between 0x41 0x46 code

/-- The class `[89ab]`. -/
def lowercaseVariant (code : CodeUnit) : Bool :=
  code == 0x38 || code == 0x39 || code == 0x61 || code == 0x62

/-- The class `[89ab]` under the flag `i`. -/
def anyVariant (code : CodeUnit) : Bool := lowercaseVariant code || code == 0x41 || code == 0x42

def isHyphen (code : CodeUnit) : Bool := code == HYPHEN_MINUS

/-- The shape of a UUID of version one to five, over the classes of a
hexadecimal digit and of the variant digit. -/
def uuidPattern (hex variant_ : CodeUnit -> Bool) : Pattern :=
  List.replicate 8 hex ++ [isHyphen] ++ List.replicate 4 hex ++ [isHyphen, between 0x31 0x35] ++
    List.replicate 3 hex ++ [isHyphen, variant_] ++ List.replicate 3 hex ++ [isHyphen] ++
    List.replicate 12 hex

/-- The pattern of the publisher, which has the flag `i`. -/
def JOB_ID_PATTERN : Pattern := uuidPattern anyHex anyVariant

/-- The class `[A-Za-z0-9]`. -/
def isAlphanumeric (code : CodeUnit) : Bool :=
  isUppercase code || isLowercase code || isDigit code

/-- The class `[A-Za-z0-9._:-]`. -/
def isTraceIdPart (code : CodeUnit) : Bool :=
  isAlphanumeric code || code == 0x2E || code == 0x5F || code == 0x3A || code == 0x2D

/-- `TRACE_ID_PATTERN.test(traceId)`. -/
def matchesTraceId : Text -> Bool
  | [] => false
  | first :: rest => isAlphanumeric first && rest.all isTraceIdPart && decide (rest.length ≤ 127)

def validateMessage (message : AnalysisJobQueueMessage) : Except String Unit := do
  if JOB_ID_PATTERN.test message.jobId = false then
    throw "Analysis job queue message has an invalid jobId."
  if isPositiveInteger message.userId = false then
    throw "Analysis job queue message has an invalid userId."
  if isPositiveInteger message.repositoryId = false then
    throw "Analysis job queue message has an invalid repositoryId."
  if matchesTraceId message.traceId = false then
    throw "Analysis job queue message has an invalid traceId."

/-- The input of `SendMessageCommand`. -/
structure SendMessageCommand where
  queueUrl : String
  messageBody : Text
  /-- The two numbers of `userId:repositoryId`. -/
  messageGroupId : JsNumber × JsNumber
  messageDeduplicationId : Text
  /-- The attributes by name; each is of type `String`. -/
  messageAttributes : List (String × Text)
  deriving DecidableEq, Repr

/-- The body of a message. -/
def messageBody (jobId : Text) : Text :=
  stringifyObject [(text "schemaVersion", text "1"), (text "jobId", quote jobId)]

/-- What `SqsAnalysisJobQueue.publish` sends, or the error it throws before
sending anything. -/
def sendMessageCommand (queueUrl : String) (message : AnalysisJobQueueMessage) :
    Except String SendMessageCommand := do
  validateMessage message
  pure
    { queueUrl := queueUrl
      messageBody := messageBody message.jobId
      messageGroupId := (message.userId, message.repositoryId)
      messageDeduplicationId := message.jobId
      messageAttributes := [("schemaVersion", text "1"), ("traceId", message.traceId)] }

/-! ## The decoder -/

/-- The pattern of the worker. -/
def NORMALIZED_UUID_PATTERN : Pattern := uuidPattern lowercaseHex lowercaseVariant

/-- A message of version one. -/
structure AnalysisWorkerMessage where
  jobId : Text
  deriving DecidableEq, Repr

inductive AnalysisWorkerMessageParseResult where
  | valid (message : AnalysisWorkerMessage)
  | invalid (jobId : Option Text)
  deriving DecidableEq, Repr

def extractNormalizedJobId : Json -> Option Text
  | .object members =>
      match property members (text "jobId") with
      | some (.string jobId) => if NORMALIZED_UUID_PATTERN.test jobId then some jobId else none
      | _ => none
  | _ => none

/-- The properties of an object are the two of the schema, and they have its
types: the literal one and a string of the pattern. -/
structure MatchesSchema (members : List (Text × Json)) (message : AnalysisWorkerMessage) :
    Prop where
  strict : forall member, member ∈ members ->
    member.1 = text "schemaVersion" ∨ member.1 = text "jobId"
  schemaVersion : Exists fun value => property members (text "schemaVersion") =
    some (.number value) ∧ value.isOne = true
  jobId : property members (text "jobId") = some (.string message.jobId)
  normalized : NORMALIZED_UUID_PATTERN.test message.jobId = true

/-- What the schema library is documented to do with the strict object schema
`analysisWorkerMessageSchema`: it accepts the objects with exactly the
properties of the schema, each of its type, and nothing else. -/
def SafeParseDocumented (safeParse : Json -> Option AnalysisWorkerMessage) : Prop :=
  forall input message, safeParse input = some message ↔
    Exists fun members => input = .object members ∧ MatchesSchema members message

section Worker

variable (safeParse : Json -> Option AnalysisWorkerMessage)

def parseAnalysisWorkerMessage (body : Text) : AnalysisWorkerMessageParseResult :=
  match Json.parse body with
  | none => .invalid none
  | some input =>
      match safeParse input with
      | some message => .valid message
      | none => .invalid (extractNormalizedJobId input)

end Worker

end GitMate.Wire
