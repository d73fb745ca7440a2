import GitMate.Library.Base64
import GitMate.Library.JsonValue
import GitMate.Library.Program

namespace GitMate.Scripts

open Interleaving JavaScript

/-!
# The emergency stop

The script reads the deployed stack and its template through the AWS command
line, turns five switches of the template off, and submits the result as an
update of the stack.  It is a program over two operations: to run the command
line, with any result, and to write a line of output.

The template is the value that `JSON.parse` builds, and the script mutates it in
place.  Here the mutation returns the changed value.
-/

/-! ## The command line -/

inductive AwsOperation where
  | describeStacks | getTemplate | updateStack | waitStackUpdateComplete
  deriving DecidableEq, Repr

/-- `operation.split(' ')`. -/
def AwsOperation.words : AwsOperation -> List String
  | .describeStacks => ["describe-stacks"]
  | .getTemplate => ["get-template"]
  | .updateStack => ["update-stack"]
  | .waitStackUpdateComplete => ["wait", "stack-update-complete"]

/-- The command `aws` with its arguments; the environment, the encoding and the
size of the buffer are the same for all calls. -/
structure AwsCall where
  operation : AwsOperation
  arguments : List Text
  input : Option Text
  timeout : Nat
  deriving DecidableEq, Repr

/-- What `spawnSync` returns; the status is absent if the command was killed. -/
structure CliResult where
  error : Bool
  status : Option Nat
  stdout : Text
  stderr : Text
  deriving DecidableEq, Repr

inductive ScriptError where
  | invalidStage
  | failed (operation : AwsOperation)
  | invalidJson (operation : AwsOperation)
  | mismatch
  | inlineLimit
  | typeError
  deriving DecidableEq, Repr

def ScriptError.message : ScriptError -> String
  | .invalidStage => "Invalid stage for emergency stop."
  | .failed operation =>
      "CloudFormation " ++ " ".intercalate operation.words ++
        " failed; inspect stack events in AWS."
  | .invalidJson operation =>
      "CloudFormation " ++ " ".intercalate operation.words ++ " returned invalid JSON."
  | .mismatch =>
      "Deployed stack does not match the expected async analysis template; no update submitted."
  | .inlineLimit =>
      "Deployed template exceeds the CloudFormation inline limit; no update submitted."
  | .typeError => "Cannot read properties of null or undefined"

inductive ScriptOp where
  | aws (call : AwsCall)
  | log (message : Text)

def ScriptOp.Reply : ScriptOp -> Type
  | .aws _ => CliResult
  | .log _ => Unit

abbrev Cli : Interface := ⟨ScriptOp, ScriptOp.Reply, ScriptError⟩

abbrev Script : Type -> Type := Program Cli

def Script.spawn (call : AwsCall) : Script CliResult := Program.perform (I := Cli) (.aws call)

def Script.log (message : Text) : Script Unit := Program.perform (I := Cli) (.log message)

def Script.ofExcept {α : Type} : Except ScriptError α -> Script α
  | .ok value => .done value
  | .error error => .fail error

/-- The call of `aws(operation, args, input)`; `region` is `AWS_REGION`. -/
def awsCall (region : Option Text) (operation : AwsOperation) (args : List Text)
    (input : Option Text) : AwsCall where
  operation := operation
  arguments := (match region with
      | none | some [] => []
      | some region => [text "--region", region]) ++
    text "cloudformation" :: operation.words.map text ++ args ++ [text "--no-cli-pager"]
  input := input
  timeout := if operation = .waitStackUpdateComplete then 35 * 60 * 1000 else 60 * 1000

/-- What `aws` makes of a result; `null` is `none`. -/
def readResult (operation : AwsOperation) (result : CliResult) :
    Except ScriptError (Option JsonValue) :=
  if result.error = true ∨ result.status ≠ some 0 then
    if operation = .updateStack ∧ result.error = false ∧
        text "No updates are to be performed" <:+: result.stderr then .ok none
    else .error (.failed operation)
  else if operation = .waitStackUpdateComplete then .ok none
  else
    match JsonValue.parse result.stdout with
    | some value => .ok (some value)
    | none => .error (.invalidJson operation)

def aws (region : Option Text) (operation : AwsOperation) (args : List Text)
    (input : Option Text) : Script (Option JsonValue) := do
  let result <- Script.spawn (awsCall region operation args input)
  Script.ofExcept (readResult operation result)

/-! ## Reading values -/

/-- `value?.[name]`. -/
def optional (value : Option JsonValue) (name : String) : Option JsonValue :=
  value.bind (JsonValue.get (text name))

/-- `value[name]`, which fails for `undefined` and `null`. -/
def required (value : Option JsonValue) (name : String) :
    Except ScriptError (Option JsonValue) :=
  match value with
  | none | some .null => .error .typeError
  | some value => .ok (value.get (text name))

/-- `value === literal` for a string. -/
def isText (value : Option JsonValue) (literal : Text) : Bool :=
  match value with
  | some (.string characters) => characters == literal
  | _ => false

/-- `list.includes(value)` for strings. -/
def isAnyOf (value : Option JsonValue) (list : List String) : Bool :=
  list.any fun literal => isText value (text literal)

/-- `value ?? fallback`. -/
def orElse (value : Option JsonValue) (fallback : JsonValue) : JsonValue :=
  match value with
  | none | some .null => fallback
  | some value => value

/-- `JSON.stringify(value)`, which is `undefined` for `undefined`. -/
def stringifyOptional (value : Option JsonValue) : Option Text := value.map JsonValue.stringify

/-- `JSON.stringify({ 'Fn::GetAtt': [id, 'Arn'] })`. -/
def getAttArn (id : Text) : Text :=
  JsonValue.stringify (.object [(text "Fn::GetAtt", .array [.string id, .string (text "Arn")])])

/-! ## Sorting -/

/-- The order of strings by code units. -/
def isBefore : Text -> Text -> Bool
  | [], _ => true
  | _ :: _, [] => false
  | code :: rest, other :: others =>
      if code < other then true else if other < code then false else isBefore rest others

mutual

/-- `String(value)`. -/
def toStringValue : JsonValue -> Text
  | .null => text "null"
  | .boolean value => text (if value then "true" else "false")
  | .number value => value.toText
  | .string value => value
  | .array elements => JsonValue.commaSeparated (joinedElements elements)
  | .object _ => text "[object Object]"

/-- The elements as `join` renders them. -/
def joinedElements : List JsonValue -> List Text
  | [] => []
  | .null :: rest => [] :: joinedElements rest
  | element :: rest => toStringValue element :: joinedElements rest

end

/-- `values.sort()`: by their strings, `undefined` last. -/
def sortValues (values : List (Option JsonValue)) : List (Option JsonValue) :=
  ((values.filterMap id).mergeSort fun first second =>
      isBefore (toStringValue first) (toStringValue second)).map some ++
    values.filter Option.isNone

/-! ## The checks -/

/-- `/^[a-z0-9][a-z0-9-]{0,19}$/.test(stage ?? '')`. -/
def isStage (stage : Text) : Bool :=
  let isFirst := fun code => isLowercase code || isDigit code
  match stage with
  | [] => false
  | first :: rest =>
      isFirst first && rest.all (fun code => isFirst code || code == HYPHEN_MINUS) &&
        decide (rest.length ≤ 19)

def stackNameOf (stage : Text) : Text := text "GitMateAsyncAnalysis-" ++ stage

def checkStack (stackName : Text) (described : Option JsonValue) :
    Except ScriptError JsonValue :=
  match optional described "Stacks" with
  | some (.array [deployed]) => do
      let name <- required (some deployed) "StackName"
      if isText name stackName = true ∧ isAnyOf (deployed.get (text "StackStatus"))
          ["CREATE_COMPLETE", "UPDATE_COMPLETE", "UPDATE_ROLLBACK_COMPLETE"] = true then
        pure deployed
      else .error .mismatch
  | _ => .error .mismatch

/-- The body of the template, which may be given as a text. -/
def templateBody (answered : Option JsonValue) : Except ScriptError (Option JsonValue) :=
  match optional answered "TemplateBody" with
  | some (.string source) =>
      match JsonValue.parse source with
      | some template => .ok (some template)
      | none => .error .mismatch
  | body => .ok body

/-- `typeof template === 'object'` for what is not `null`. -/
def isObjectOrArray : JsonValue -> Bool
  | .array _ | .object _ => true
  | _ => false

/-- `!value`. -/
def isFalsy (value : Option JsonValue) : Bool := !(value.any JsonValue.isTruthy)

def checkTemplate (template : Option JsonValue) : Except ScriptError JsonValue :=
  match template with
  | none => .error .mismatch
  | some template =>
      if isObjectOrArray template = true ∧ isFalsy (template.get (text "Transform")) = true ∧
          isFalsy (template.get (text "Resources")) = false then .ok template
      else .error .mismatch

def readTemplate (answered : Option JsonValue) : Except ScriptError JsonValue := do
  let template <- templateBody answered
  checkTemplate template

/-- A resource under its logical id. -/
abbrev Resource : Type := Text × JsonValue

/-- `Object.entries(template.Resources)`. -/
def resourcesOf (template : JsonValue) : List Resource :=
  ((template.get (text "Resources")).map JsonValue.entries).getD []

/-- `resource.Properties ?? {}`. -/
def propertiesOf (resource : JsonValue) : JsonValue :=
  orElse (resource.get (text "Properties")) (.object [])

/-- The resource has the type, and its properties satisfy the predicate. -/
def isMatch (type : String) (predicate : JsonValue -> Except ScriptError Bool)
    (resource : JsonValue) : Except ScriptError Bool := do
  let found <- required (some resource) "Type"
  if isText found (text type) = true then predicate (propertiesOf resource) else .ok false

/-- The resources of a type whose properties satisfy the predicate. -/
def matching (type : String) (predicate : JsonValue -> Except ScriptError Bool) :
    List Resource -> Except ScriptError (List Resource)
  | [] => .ok []
  | entry :: rest => do
      let matched <- isMatch type predicate entry.2
      let others <- matching type predicate rest
      pure (if matched then entry :: others else others)

/-- `find`: there has to be one. -/
def find (type : String) (predicate : JsonValue -> Except ScriptError Bool)
    (resources : List Resource) : Except ScriptError Resource := do
  let matches' <- matching type predicate resources
  match matches' with
  | [entry] => pure entry
  | _ => .error .mismatch

/-- There are as many resources of a type as expected. -/
def checkCount (type : String) (count : Nat) (resources : List Resource) :
    Except ScriptError Unit := do
  let all <- matching type (fun _ => .ok true) resources
  if all.length = count then pure () else .error .mismatch

def isFunction (name : Text) (properties : JsonValue) : Except ScriptError Bool :=
  .ok (isText (properties.get (text "FunctionName")) name)

def variablePath : List Text :=
  [text "Properties", text "Environment", text "Variables", text "ASYNC_ANALYSIS_ENABLED"]

def checkFunction (resource : JsonValue) : Except ScriptError Unit :=
  let properties := propertiesOf resource
  if isText (properties.get (text "PackageType")) (text "Image") = true ∧
      isFalsy (optional (properties.get (text "Code")) "ImageUri") = false ∧
      isAnyOf (optional (optional (properties.get (text "Environment")) "Variables")
        "ASYNC_ANALYSIS_ENABLED") ["true", "false"] = true then .ok ()
  else .error .mismatch

def isTrue (value : Option JsonValue) : Bool :=
  match value with
  | some (.boolean value) => value
  | _ => false

def isQueue (name : Text) (properties : JsonValue) : Except ScriptError Bool :=
  .ok (isText (properties.get (text "QueueName")) name &&
    isTrue (properties.get (text "FifoQueue")))

/-- The mapping joins the function to the queue. -/
def isMapping (functionId queueId : Text) (properties : JsonValue) : Except ScriptError Bool :=
  .ok (isText (optional (properties.get (text "FunctionName")) "Ref") functionId &&
    stringifyOptional (properties.get (text "EventSourceArn")) == some (getAttArn queueId))

def isBoolean (value : Option JsonValue) : Bool :=
  match value with
  | some (.boolean _) => true
  | _ => false

def isOne (value : Option JsonValue) : Bool :=
  match value with
  | some (.number number) => number == .finite 1
  | _ => false

/-- The rule runs the function every minute, as its only target. -/
def isSchedule (name functionId : Text) (properties : JsonValue) : Except ScriptError Bool :=
  if isText (properties.get (text "Name")) name = true ∧
      isText (properties.get (text "ScheduleExpression")) (text "rate(1 minute)") = true ∧
      isOne (optional (properties.get (text "Targets")) "length") = true then do
    let arn <- required (optional (properties.get (text "Targets")) "0") "Arn"
    pure (stringifyOptional arn == some (getAttArn functionId))
  else .ok false

/-- The logical ids of the resources that hold the switches. -/
structure Switches where
  api : Text
  worker : Text
  reconciler : Text
  mapping : Text
  schedule : Text
  deriving DecidableEq, Repr

def LAMBDA : String := "AWS::Lambda::Function"
def QUEUE : String := "AWS::SQS::Queue"
def MAPPING : String := "AWS::Lambda::EventSourceMapping"
def RULE : String := "AWS::Events::Rule"

/-- The name of a resource of the stage. -/
def resourceName (stage : Text) (suffix : String) : Text :=
  text "git-mate-" ++ stage ++ text ("-" ++ suffix)

/-- The structural search for the switches. -/
def identify (stage : Text) (resources : List Resource) : Except ScriptError Switches := do
  let api <- find LAMBDA (isFunction (resourceName stage "api")) resources
  let worker <- find LAMBDA (isFunction (resourceName stage "analysis-worker")) resources
  let reconciler <- find LAMBDA (isFunction (resourceName stage "analysis-reconciler")) resources
  checkCount LAMBDA 3 resources
  checkFunction api.2
  checkFunction worker.2
  checkFunction reconciler.2
  let queue <- find QUEUE (isQueue (resourceName stage "analysis.fifo")) resources
  let mapping <- find MAPPING (isMapping worker.1 queue.1) resources
  checkCount MAPPING 1 resources
  if isBoolean ((propertiesOf mapping.2).get (text "Enabled")) = false then .error .mismatch
  else do
    let schedule <- find RULE
      (isSchedule (resourceName stage "analysis-reconciler") reconciler.1) resources
    if isAnyOf ((propertiesOf schedule.2).get (text "State")) ["ENABLED", "DISABLED"] = true then
      pure ⟨api.1, worker.1, reconciler.1, mapping.1, schedule.1⟩
    else .error .mismatch

/-- `Object.keys(template.Parameters ?? {}).sort()`. -/
def parameterKeysOf (template : JsonValue) : List Text :=
  (orElse (template.get (text "Parameters")) (.object [])).keys.mergeSort isBefore

/-- The `ParameterKey` of every parameter of the stack. -/
def deployedKeys : List JsonValue -> Except ScriptError (List (Option JsonValue))
  | [] => .ok []
  | parameter :: rest => do
      let key <- required (some parameter) "ParameterKey"
      let keys <- deployedKeys rest
      pure (key :: keys)

def checkParameters (deployed template : JsonValue) : Except ScriptError Unit :=
  match deployed.get (text "Parameters") with
  | some (.array parameters) => do
      let keys <- deployedKeys parameters
      -- An array renders `undefined` as `null`.
      if ((JsonValue.array ((sortValues keys).map fun key => key.getD .null)).stringify =
          (JsonValue.array ((parameterKeysOf template).map .string)).stringify) then
        match orElse (deployed.get (text "Capabilities")) (.array []) with
        | .array capabilities =>
            if capabilities.all (fun capability => isAnyOf (some capability)
                ["CAPABILITY_IAM", "CAPABILITY_NAMED_IAM", "CAPABILITY_AUTO_EXPAND"]) = true then
              pure ()
            else .error .mismatch
        | _ => .error .mismatch
      else .error .mismatch
  | _ => .error .mismatch

/-! ## The update -/

/-- A node of a resource and the value it is to get. -/
structure Node where
  id : Text
  path : List Text
  value : JsonValue

/-- The five nodes, with their values when everything is off. -/
def Switches.off (switches : Switches) : List Node :=
  [ ⟨switches.api, variablePath, .string (text "false")⟩,
    ⟨switches.worker, variablePath, .string (text "false")⟩,
    ⟨switches.reconciler, variablePath, .string (text "false")⟩,
    ⟨switches.mapping, [text "Properties", text "Enabled"], .boolean false⟩,
    ⟨switches.schedule, [text "Properties", text "State"], .string (text "DISABLED")⟩ ]

/-- The place of a node in the template. -/
def Node.place (node : Node) : List Text := text "Resources" :: node.id :: node.path

/-- Give every node its value. -/
def assign (nodes : List Node) (template : JsonValue) : JsonValue :=
  nodes.foldl (fun template node => JsonValue.modifyPath node.place (fun _ => node.value) template)
    template

/-- The standard input of the update. -/
def updateInput (stackName body : Text) (parameterKeys : List Text)
    (deployed : JsonValue) : JsonValue :=
  .object ([ (text "StackName", .string stackName),
      (text "TemplateBody", .string body),
      (text "Parameters", .array (parameterKeys.map fun key =>
        .object [(text "ParameterKey", .string key),
          (text "UsePreviousValue", .boolean true)])) ] ++
    match deployed.get (text "Capabilities") with
    | some (.array (capability :: more)) =>
        [(text "Capabilities", .array (capability :: more))]
    | _ => [])

/-- What the checks have let through. -/
structure Plan where
  deployed : JsonValue
  template : JsonValue
  switches : Switches

def Plan.body (plan : Plan) : Text := (assign plan.switches.off plan.template).stringify

def MAXIMUM_BODY_BYTES : Nat := 51200

/-- Submit the plan, unless everything is off already. -/
def submit (region : Option Text) (stackName : Text) (plan : Plan) : Script Unit :=
  if plan.body = plan.template.stringify then
    Script.log (text "Async analysis is already disabled for " ++ stackName ++ text ".")
  else if MAXIMUM_BODY_BYTES < (utf8 plan.body).length then .fail .inlineLimit
  else do
    let update <- aws region .updateStack
      [text "--cli-input-json", text "file:///dev/stdin", text "--output", text "json"]
      (some (updateInput stackName plan.body (parameterKeysOf plan.template)
        plan.deployed).stringify)
    if update.any JsonValue.isTruthy then do
      let _ <- aws region .waitStackUpdateComplete [text "--stack-name", stackName] none
    Script.log (text "Async analysis disabled for " ++ stackName ++
      text "; deployed images and parameters preserved.")

def disable (region stage : Option Text) : Script Unit :=
  let stage := stage.getD []
  if isStage stage = false then .fail .invalidStage
  else do
    let stackName := stackNameOf stage
    let described <- aws region .describeStacks
      [text "--stack-name", stackName, text "--output", text "json"] none
    let deployed <- Script.ofExcept (checkStack stackName described)
    let answered <- aws region .getTemplate [text "--stack-name", stackName,
      text "--template-stage", text "Original", text "--output", text "json"] none
    let template <- Script.ofExcept (readTemplate answered)
    let switches <- Script.ofExcept (identify stage (resourcesOf template))
    Script.ofExcept (checkParameters deployed template)
    submit region stackName ⟨deployed, template, switches⟩

end GitMate.Scripts
