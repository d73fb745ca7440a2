import GitMate.Service.Message
import Mathlib.Data.List.Forall2

namespace GitMate.Wire

open JavaScript

/-!
# The encoder and the decoder of queue messages

The publisher accepts a job id in either case and sends it as it is; the
worker knows lowercase ids only.  A message that the publisher accepts is
therefore decoded to its job id exactly if the id has no uppercase letter, and
is dropped without a job id otherwise.  In the other direction nothing can go
wrong: a body that the worker accepts has a normalized id, so a message with
that id is sent as a body with the same meaning.
-/

/-! ## The two patterns -/

theorem between_iff {first last code : CodeUnit} : between first last code = true ↔
    first.toNat ≤ code.toNat ∧ code.toNat ≤ last.toNat := by
  simp only [between, Bool.and_eq_true, decide_eq_true_eq, UInt16.le_iff_toNat_le]

/-- A code unit is no uppercase letter. -/
def NotUppercase (code : CodeUnit) : Prop := isUppercase code = false

theorem notUppercase_iff {code : CodeUnit} :
    NotUppercase code ↔ code.toNat < 0x41 ∨ 0x5A < code.toNat := by
  have range := @between_iff 0x41 0x5A code
  change isUppercase code = true ↔ 0x41 ≤ code.toNat ∧ code.toNat ≤ 0x5A at range
  rw [NotUppercase, ← Bool.not_eq_true, range]
  omega

/-- Without the flag `i` a class accepts the lowercase part of what it accepts
with the flag. -/
def Narrows (narrow wide : CodeUnit -> Bool) : Prop :=
  forall code, narrow code = true ↔ wide code = true ∧ NotUppercase code

theorem lowercaseHex_narrows : Narrows lowercaseHex anyHex := by
  intro code
  have digits := @between_iff 0x30 0x39 code
  have letters := @between_iff 0x61 0x66 code
  have capitals := @between_iff 0x41 0x46 code
  change _ ↔ 0x30 ≤ code.toNat ∧ code.toNat ≤ 0x39 at digits
  change _ ↔ 0x61 ≤ code.toNat ∧ code.toNat ≤ 0x66 at letters
  change _ ↔ 0x41 ≤ code.toNat ∧ code.toNat ≤ 0x46 at capitals
  simp only [lowercaseHex, anyHex, isDigit, Bool.or_eq_true, digits, letters, capitals,
    notUppercase_iff]
  omega

theorem beq_iff_toNat {code other : CodeUnit} :
    (code == other) = true ↔ code.toNat = other.toNat := by
  rw [beq_iff_eq, UInt16.toNat_inj]

theorem lowercaseVariant_narrows : Narrows lowercaseVariant anyVariant := by
  intro code
  have capitalA := @beq_iff_toNat code 0x41
  have capitalB := @beq_iff_toNat code 0x42
  have others : lowercaseVariant code = true ↔ code.toNat = 0x38 ∨ code.toNat = 0x39 ∨
      code.toNat = 0x61 ∨ code.toNat = 0x62 := by
    simp only [lowercaseVariant, Bool.or_eq_true, beq_iff_toNat, or_assoc]
    rfl
  change _ ↔ code.toNat = 0x41 at capitalA
  change _ ↔ code.toNat = 0x42 at capitalB
  simp only [anyVariant, Bool.or_eq_true, others, capitalA, capitalB, notUppercase_iff]
  omega

/-- A class without letters is the same under either flag. -/
theorem narrows_of_no_uppercase {accepts : CodeUnit -> Bool}
    (caseless : forall code, accepts code = true -> NotUppercase code) :
    Narrows accepts accepts :=
  fun code => ⟨fun accepted => ⟨accepted, caseless code accepted⟩, fun both => both.1⟩

theorem isHyphen_narrows : Narrows isHyphen isHyphen := by
  refine narrows_of_no_uppercase fun code accepted => ?_
  have same : code = HYPHEN_MINUS := beq_iff_eq.1 accepted
  rw [same]
  rfl

theorem version_narrows : Narrows (between 0x31 0x35) (between 0x31 0x35) := by
  refine narrows_of_no_uppercase fun code accepted => ?_
  have range : 0x31 ≤ code.toNat ∧ code.toNat ≤ 0x35 := between_iff.1 accepted
  rw [notUppercase_iff]
  omega

/-- Two UUID patterns are related class by class as their classes are. -/
theorem forall₂_uuidPattern {related : (CodeUnit -> Bool) -> (CodeUnit -> Bool) -> Prop}
    {hex otherHex variant_ otherVariant : CodeUnit -> Bool} (hexes : related hex otherHex)
    (variants : related variant_ otherVariant) (hyphens : related isHyphen isHyphen)
    (versions : related (between 0x31 0x35) (between 0x31 0x35)) :
    List.Forall₂ related (uuidPattern hex variant_) (uuidPattern otherHex otherVariant) := by
  have repeated : forall count, List.Forall₂ related (List.replicate count hex)
      (List.replicate count otherHex) := by
    intro count
    induction count with
    | zero => exact .nil
    | succ count inductionHypothesis => exact .cons hexes inductionHypothesis
  have single : forall {one other : CodeUnit -> Bool}, related one other ->
      List.Forall₂ related [one] [other] := fun same => .cons same .nil
  exact List.rel_append (List.rel_append (List.rel_append (List.rel_append (List.rel_append
    (List.rel_append (List.rel_append (List.rel_append (repeated 8) (single hyphens))
      (repeated 4)) (.cons hyphens (single versions))) (repeated 3))
        (.cons hyphens (single variants))) (repeated 3)) (single hyphens)) (repeated 12)

/-- The worker's ids are the publisher's ids without an uppercase letter. -/
theorem normalized_iff (jobId : Text) : NORMALIZED_UUID_PATTERN.test jobId = true ↔
    JOB_ID_PATTERN.test jobId = true ∧ forall code, code ∈ jobId -> NotUppercase code :=
  Pattern.test_iff_of_class (forall₂_uuidPattern lowercaseHex_narrows lowercaseVariant_narrows
    isHyphen_narrows version_narrows)

/-- ASCII between the hyphen and `z`, apart from the backslash. -/
def InIdentifier (code : CodeUnit) : Prop :=
  0x2D ≤ code.toNat ∧ code.toNat ≤ 0x7A ∧ code.toNat ≠ 0x5C

instance : DecidablePred InIdentifier := fun code =>
  inferInstanceAs (Decidable (0x2D ≤ code.toNat ∧ code.toNat ≤ 0x7A ∧ code.toNat ≠ 0x5C))

theorem InIdentifier.isPlain {code : CodeUnit} (within : InIdentifier code) : IsPlain code := by
  rcases within with ⟨low, high, notSolidus⟩
  have surrogate : forall first last : CodeUnit, 0x7A < first.toNat ->
      between first last code = false := by
    intro first last far
    rw [← Bool.not_eq_true, between_iff]
    omega
  refine ⟨?_, ?_, ?_, surrogate _ _ (by decide), surrogate _ _ (by decide)⟩
  · rw [UInt16.lt_iff_toNat_lt]
    change ¬code.toNat < 0x20
    omega
  · intro same
    rw [same] at low
    exact absurd low (by decide)
  · intro same
    rw [same] at notSolidus
    exact notSolidus rfl

theorem mem_uuidPattern {hex variant_ accepts : CodeUnit -> Bool}
    (member : accepts ∈ uuidPattern hex variant_) :
    accepts = hex ∨ accepts = variant_ ∨ accepts = isHyphen ∨ accepts = between 0x31 0x35 := by
  simp only [uuidPattern, List.mem_append, List.mem_replicate, List.mem_cons, List.not_mem_nil,
    or_false] at member
  grind

theorem anyHex_inIdentifier {code : CodeUnit} (accepted : anyHex code = true) :
    InIdentifier code := by
  have digits := @between_iff 0x30 0x39 code
  have letters := @between_iff 0x61 0x66 code
  have capitals := @between_iff 0x41 0x46 code
  change _ ↔ 0x30 ≤ code.toNat ∧ code.toNat ≤ 0x39 at digits
  change _ ↔ 0x61 ≤ code.toNat ∧ code.toNat ≤ 0x66 at letters
  change _ ↔ 0x41 ≤ code.toNat ∧ code.toNat ≤ 0x46 at capitals
  simp only [anyHex, lowercaseHex, isDigit, Bool.or_eq_true, digits, letters, capitals] at accepted
  unfold InIdentifier
  omega

theorem anyVariant_inIdentifier {code : CodeUnit} (accepted : anyVariant code = true) :
    InIdentifier code := by
  simp only [anyVariant, lowercaseVariant, Bool.or_eq_true, beq_iff_eq] at accepted
  rcases accepted with ((((one | one) | one) | one) | one) | one <;> rw [one] <;> decide

theorem inIdentifier_of_pattern {accepts : CodeUnit -> Bool} (member : accepts ∈ JOB_ID_PATTERN)
    {code : CodeUnit} (accepted : accepts code = true) : InIdentifier code := by
  rcases mem_uuidPattern member with same | same | same | same
  · exact anyHex_inIdentifier (same ▸ accepted)
  · exact anyVariant_inIdentifier (same ▸ accepted)
  · have hyphen : code = HYPHEN_MINUS := beq_iff_eq.1 ((congrFun same code).symm.trans accepted)
    rw [hyphen]
    decide
  · have range : 0x31 ≤ code.toNat ∧ code.toNat ≤ 0x35 :=
      between_iff.1 ((congrFun same code).symm.trans accepted)
    unfold InIdentifier
    omega

/-- The code units of an accepted id need no escape. -/
theorem plain_of_accepted {jobId : Text} (accepted : JOB_ID_PATTERN.test jobId = true) :
    forall code, code ∈ jobId -> IsPlain code :=
  Pattern.forall_of_test (fun _ member _ matched => (inIdentifier_of_pattern member matched).isPlain)
    accepted

/-! ## The body -/

theorem isPlain_of_all {value : Text}
    (within : (value.all fun code => decide (InIdentifier code)) = true) :
    forall code, code ∈ value -> IsPlain code :=
  fun code member =>
    InIdentifier.isPlain (of_decide_eq_true (List.all_eq_true.mp within code member))

/-- The two members of a body. -/
def schemaVersionEntry : Entry where
  key := text "schemaVersion"
  value := .number ⟨1, 0⟩
  rendered := text "1"
  plain := isPlain_of_all (by decide)
  renders := renders_one

def jobIdEntry (jobId : Text) (plain : forall code, code ∈ jobId -> IsPlain code) : Entry where
  key := text "jobId"
  value := .string jobId
  rendered := quote jobId
  plain := isPlain_of_all (by decide)
  renders := renders_quote plain

/-- The members that a body is parsed to. -/
def bodyMembers (jobId : Text) : List (Text × Json) :=
  [(text "schemaVersion", .number ⟨1, 0⟩), (text "jobId", .string jobId)]

theorem parse_messageBody {jobId : Text} (plain : forall code, code ∈ jobId -> IsPlain code) :
    Json.parse (messageBody jobId) = some (.object (bodyMembers jobId)) :=
  parse_stringifyObject schemaVersionEntry [jobIdEntry jobId plain]

theorem property_jobId (jobId : Text) :
    property (bodyMembers jobId) (text "jobId") = some (.string jobId) := rfl

/-- The members of a body match the schema exactly if its id is normalized. -/
theorem matchesSchema_bodyMembers {jobId : Text} {message : AnalysisWorkerMessage} :
    MatchesSchema (bodyMembers jobId) message ↔
      message.jobId = jobId ∧ NORMALIZED_UUID_PATTERN.test jobId = true := by
  constructor
  · intro accepted
    have same : jobId = message.jobId := by
      have found := (property_jobId jobId).symm.trans accepted.jobId
      cases found
      rfl
    exact ⟨same.symm, same ▸ accepted.normalized⟩
  · rintro ⟨same, normalized⟩
    refine ⟨?_, ⟨⟨1, 0⟩, rfl, by decide +kernel⟩, same ▸ property_jobId jobId, same ▸ normalized⟩
    intro member among
    simp only [bodyMembers, List.mem_cons, List.not_mem_nil, or_false] at among
    rcases among with first | second
    · exact Or.inl (first ▸ rfl)
    · exact Or.inr (second ▸ rfl)

section Worker

variable {safeParse : Json -> Option AnalysisWorkerMessage}

/-- The worker's reading of a body with an id that needs no escape. -/
theorem parse_body (documented : SafeParseDocumented safeParse) {jobId : Text}
    (plain : forall code, code ∈ jobId -> IsPlain code) (message : AnalysisWorkerMessage) :
    parseAnalysisWorkerMessage safeParse (messageBody jobId) = .valid message ↔
      message.jobId = jobId ∧ NORMALIZED_UUID_PATTERN.test jobId = true := by
  rw [parseAnalysisWorkerMessage, parse_messageBody plain, ← matchesSchema_bodyMembers]
  simp only
  cases parsed : safeParse (.object (bodyMembers jobId)) with
  | none =>
      refine ⟨fun impossible => (by cases impossible), fun matched => ?_⟩
      have accepted := (documented _ message).2 ⟨_, rfl, matched⟩
      cases parsed.symm.trans accepted
  | some found =>
      rcases (documented _ _).1 parsed with ⟨members, same, matched⟩
      cases same
      constructor
      · intro valid
        cases valid
        exact matched
      · intro other
        have accepted := (documented _ message).2 ⟨_, rfl, other⟩
        cases parsed.symm.trans accepted
        rfl

/-- The worker accepts bodies with a normalized id only. -/
theorem normalized_of_valid (documented : SafeParseDocumented safeParse) {body : Text}
    {message : AnalysisWorkerMessage}
    (valid : parseAnalysisWorkerMessage safeParse body = .valid message) :
    NORMALIZED_UUID_PATTERN.test message.jobId = true := by
  unfold parseAnalysisWorkerMessage at valid
  cases parsed : Json.parse body with
  | none => rw [parsed] at valid; cases valid
  | some input =>
      rw [parsed] at valid
      simp only at valid
      cases accepted : safeParse input with
      | none => rw [accepted] at valid; cases valid
      | some found =>
          rw [accepted] at valid
          cases valid
          rcases (documented _ _).1 accepted with ⟨members, _, matched⟩
          exact matched.normalized

end Worker

/-! ## The agreement -/

theorem validateMessage_ok {message : AnalysisJobQueueMessage} :
    validateMessage message = .ok () ↔ JOB_ID_PATTERN.test message.jobId = true ∧
      isPositiveInteger message.userId = true ∧ isPositiveInteger message.repositoryId = true ∧
        matchesTraceId message.traceId = true := by
  unfold validateMessage
  cases JOB_ID_PATTERN.test message.jobId <;> cases isPositiveInteger message.userId <;>
    cases isPositiveInteger message.repositoryId <;> cases matchesTraceId message.traceId <;>
      decide

/-- What is sent for an accepted message. -/
theorem sendMessageCommand_ok {queueUrl : String} {message : AnalysisJobQueueMessage}
    {command : SendMessageCommand} (sent : sendMessageCommand queueUrl message = .ok command) :
    JOB_ID_PATTERN.test message.jobId = true ∧ command.messageBody = messageBody message.jobId := by
  unfold sendMessageCommand at sent
  cases validated : validateMessage message with
  | error message => rw [validated] at sent; cases sent
  | ok done =>
      rw [validated] at sent
      cases sent
      exact ⟨(validateMessage_ok.1 validated).1, rfl⟩

/-- The worker decodes an accepted message to its job id exactly if the id has
no uppercase letter, and every body that the worker accepts means the same as
the body of a message with its id. -/
theorem queue_messages_decoded (safeParse : Json -> Option AnalysisWorkerMessage)
    (documented : SafeParseDocumented safeParse) :
    (forall queueUrl message command, sendMessageCommand queueUrl message = .ok command ->
      (parseAnalysisWorkerMessage safeParse command.messageBody = .valid ⟨message.jobId⟩ ↔
        forall code, code ∈ message.jobId -> isUppercase code = false)) ∧
    forall body accepted, parseAnalysisWorkerMessage safeParse body = .valid accepted ->
      forall queueUrl message, message.jobId = accepted.jobId ->
        isPositiveInteger message.userId = true -> isPositiveInteger message.repositoryId = true ->
          matchesTraceId message.traceId = true ->
            Exists fun command => sendMessageCommand queueUrl message = .ok command ∧
              parseAnalysisWorkerMessage safeParse command.messageBody =
                parseAnalysisWorkerMessage safeParse body := by
  constructor
  · intro queueUrl message command sent
    rcases sendMessageCommand_ok sent with ⟨matched, body⟩
    rw [body, parse_body documented (plain_of_accepted matched), normalized_iff]
    exact ⟨fun both => both.2.2, fun lowercase => ⟨rfl, matched, lowercase⟩⟩
  · intro body accepted valid queueUrl message named user repository trace
    have normalized := normalized_of_valid documented valid
    have matched := ((normalized_iff _).1 normalized).1
    rw [← named] at normalized matched
    have validated := validateMessage_ok.2 ⟨matched, user, repository, trace⟩
    refine ⟨_, by rw [sendMessageCommand, validated]; rfl, ?_⟩
    rw [valid]
    exact (parse_body documented (plain_of_accepted matched) accepted).2 ⟨named.symm, normalized⟩

/-! ## A schema library -/

/-- A strict object schema as the schema library documents it. -/
def analysisWorkerMessageSchema : Json -> Option AnalysisWorkerMessage
  | .object members =>
      if members.all fun member => member.1 == text "schemaVersion" || member.1 == text "jobId" then
        match property members (text "schemaVersion"), property members (text "jobId") with
        | some (.number value), some (.string jobId) =>
            if value.isOne && NORMALIZED_UUID_PATTERN.test jobId then some ⟨jobId⟩ else none
        | _, _ => none
      else none
  | _ => none

theorem analysisWorkerMessageSchema_documented :
    SafeParseDocumented analysisWorkerMessageSchema := by
  have strict : forall members : List (Text × Json),
      (members.all fun member => member.1 == text "schemaVersion" || member.1 == text "jobId") =
        true ↔ forall member, member ∈ members ->
          member.1 = text "schemaVersion" ∨ member.1 = text "jobId" := by
    intro members
    simp only [List.all_eq_true, Bool.or_eq_true, beq_iff_eq]
  intro input message
  constructor
  · intro accepted
    unfold analysisWorkerMessageSchema at accepted
    split at accepted
    · rename_i members
      split at accepted
      · rename_i keys
        split at accepted
        · rename_i value jobId version named
          split at accepted
          · rename_i both
            rcases (Bool.and_eq_true _ _).mp both with ⟨one, normalized⟩
            cases accepted
            exact ⟨members, rfl, (strict members).1 keys, ⟨value, version, one⟩, named, normalized⟩
          · cases accepted
        · cases accepted
      · cases accepted
    · cases accepted
  · rintro ⟨members, rfl, matched⟩
    rcases matched.schemaVersion with ⟨value, version, one⟩
    simp only [analysisWorkerMessageSchema, (strict members).2 matched.strict, version,
      matched.jobId, one, matched.normalized, Bool.and_self, if_true]

/-- The id of the worker's tests, and the same in capitals. -/
def lowercaseJobId : Text := text "8fe6a55c-956a-4d8f-985f-fcf2bc72e34c"
def uppercaseJobId : Text := text "8FE6A55C-956A-4D8F-985F-FCF2BC72E34C"

def smallMessage (jobId : Text) : AnalysisJobQueueMessage := ⟨jobId, some 7, some 17, text "trace-1"⟩

/-- What is sent for a small message. -/
def smallCommand (jobId : Text) : SendMessageCommand where
  queueUrl := "https://queue/jobs.fifo"
  messageBody := messageBody jobId
  messageGroupId := (some 7, some 17)
  messageDeduplicationId := jobId
  messageAttributes := [("schemaVersion", text "1"), ("traceId", text "trace-1")]

theorem queue_messages_decoded_lowercase :
    parseAnalysisWorkerMessage analysisWorkerMessageSchema (smallCommand lowercaseJobId).messageBody =
      .valid ⟨lowercaseJobId⟩ := by
  have lowercase : (lowercaseJobId.all fun code => !isUppercase code) = true := by decide +kernel
  refine ((queue_messages_decoded analysisWorkerMessageSchema
    analysisWorkerMessageSchema_documented).1 "https://queue/jobs.fifo"
      (smallMessage lowercaseJobId) (smallCommand lowercaseJobId) (by decide +kernel)).2 ?_
  intro code member
  exact (Bool.not_eq_eq_eq_not.mp (List.all_eq_true.mp lowercase code member))

/-- An accepted message in capitals is dropped, and its job is never run. -/
theorem uppercase_job_id_dropped :
    sendMessageCommand "https://queue/jobs.fifo" (smallMessage uppercaseJobId) =
        .ok (smallCommand uppercaseJobId) ∧
      parseAnalysisWorkerMessage analysisWorkerMessageSchema
        (smallCommand uppercaseJobId).messageBody = .invalid none := by
  constructor <;> decide +kernel

end GitMate.Wire
