import GitMate.Library.Whitespace
import Mathlib.Data.Rat.Defs

namespace GitMate.Evidence

open JavaScript

/-!
# Evidence validation

The language model answers with eight evaluations, each of which may quote
what the target user wrote.  `validateAnalysisEvidence` compares the quotes
with the collected activity and lists everything that is wrong.  Folding case
and finding unstructured references in a narrative are parameters; the data
that the validator does not read is left out.
-/

/-! ## The payload -/

inductive AnalysisMetricKey where
  | mutual_respect | conflict_management | logical_problem_definition | review_guiding
  | documentation | knowledge_sharing | technical_influence | code_stability
  deriving DecidableEq, Repr

def ANALYSIS_METRIC_KEYS : List AnalysisMetricKey :=
  [.mutual_respect, .conflict_management, .logical_problem_definition, .review_guiding,
    .documentation, .knowledge_sharing, .technical_influence, .code_stability]

inductive AnalysisEvidenceSourceType where
  | pull_request | review | review_comment
  deriving DecidableEq, Repr

inductive AnalysisEvidenceRelation where
  | target_authored_pr | target_authored_review | target_authored_review_comment
  deriving DecidableEq, Repr

def RELATION_BY_SOURCE_TYPE : AnalysisEvidenceSourceType -> AnalysisEvidenceRelation
  | .pull_request => .target_authored_pr
  | .review => .target_authored_review
  | .review_comment => .target_authored_review_comment

def MIN_ANALYSIS_EVIDENCE_QUOTE_LENGTH : Nat := 20

structure AnalysisEvidence where
  prNumber : Int
  permalink : Text
  author : Text
  sourceType : AnalysisEvidenceSourceType
  targetRelation : AnalysisEvidenceRelation
  quote : Text
  scoreRationale : Text
  deriving DecidableEq, Repr

structure MetricEvaluation where
  score : Rat
  reason : Text
  improvement : Text
  example_ : Text
  evidence : List AnalysisEvidence
  deriving DecidableEq, Repr

structure LlmAnalysisPayload where
  metric : AnalysisMetricKey -> MetricEvaluation
  summary : Text

/-! ## The collected data -/

structure ReviewComment where
  author : Text
  body : Text
  deriving DecidableEq, Repr

structure Review where
  author : Text
  body : Text
  comments : List ReviewComment
  deriving DecidableEq, Repr

structure PullRequest where
  number : Int
  title : Text
  body : Text
  author : Text
  permalink : Text
  reviews : List Review
  deriving DecidableEq, Repr

structure CollectedData where
  targetUser : Text
  pullRequests : List PullRequest
  deriving DecidableEq, Repr

/-- `new Map(pullRequests.map((pr) => [pr.number, pr])).get(number)`: of
several entries with one key the last stays. -/
def pullRequestWithNumber (pullRequests : List PullRequest) (number : Int) : Option PullRequest :=
  pullRequests.reverse.find? fun pullRequest => pullRequest.number == number

/-! ## The issues -/

inductive EvidenceValidationIssueCode where
  | UNKNOWN_PR | PERMALINK_MISMATCH | AUTHOR_MISMATCH | SOURCE_RELATION_MISMATCH
  | QUOTE_TOO_SHORT | QUOTE_NOT_OWNED | UNSUPPORTED_SCORE_WITHOUT_EVIDENCE
  | UNSTRUCTURED_REFERENCE
  deriving DecidableEq, Repr

/-- An issue of a metric, or of the summary if there is none. -/
structure EvidenceValidationIssue where
  code : EvidenceValidationIssueCode
  metric : Option AnalysisMetricKey
  evidenceIndex : Option Nat
  deriving DecidableEq, Repr

structure OwnedActivity where
  sourceType : AnalysisEvidenceSourceType
  targetRelation : AnalysisEvidenceRelation
  text : Text
  deriving DecidableEq, Repr

def normalizeEvidenceText (value : Text) : Text := normalizeText value

/-- `text.includes(part)`. -/
def includes (text part : Text) : Bool := decide (part <:+: text)

/-- An issue that is raised under a condition. -/
def issueIf (condition : Bool) (issue : EvidenceValidationIssue) : List EvidenceValidationIssue :=
  if condition then [issue] else []

section Validation

variable (toLocaleLowerCase : Text -> Text) (isUnstructuredReference : Text -> Bool)

/-- The activities of a pull request by the target user, who is already in
lower case. -/
def collectOwnedActivities (pullRequest : PullRequest) (targetUser : Text) : List OwnedActivity :=
  (if toLocaleLowerCase pullRequest.author = targetUser then
    [ ⟨.pull_request, .target_authored_pr, pullRequest.title⟩,
      ⟨.pull_request, .target_authored_pr, pullRequest.body⟩ ]
  else []) ++
  pullRequest.reviews.flatMap fun review =>
    (if toLocaleLowerCase review.author = targetUser then
      [⟨.review, .target_authored_review, review.body⟩]
    else []) ++
    review.comments.flatMap fun comment =>
      if toLocaleLowerCase comment.author = targetUser then
        [⟨.review_comment, .target_authored_review_comment, comment.body⟩]
      else []

/-- The checks of a quote, once its pull request, author and relation are in
order. -/
def quoteIssues (pullRequest : PullRequest) (targetUser : Text) (metric : AnalysisMetricKey)
    (evidenceIndex : Nat) (evidence : AnalysisEvidence) : List EvidenceValidationIssue :=
  let ownedActivities := collectOwnedActivities toLocaleLowerCase pullRequest targetUser
  let normalizedQuote := normalizeEvidenceText evidence.quote
  issueIf (decide (normalizedQuote.length < MIN_ANALYSIS_EVIDENCE_QUOTE_LENGTH))
      ⟨.QUOTE_TOO_SHORT, metric, evidenceIndex⟩ ++
    issueIf (!ownedActivities.any fun activity =>
        activity.sourceType == evidence.sourceType &&
          activity.targetRelation == evidence.targetRelation &&
            includes (normalizeEvidenceText activity.text) normalizedQuote)
      ⟨.QUOTE_NOT_OWNED, metric, evidenceIndex⟩

/-- The body of the loop over the evidence of a metric. -/
def evidenceIssues (data : CollectedData) (metric : AnalysisMetricKey) (evidenceIndex : Nat)
    (evidence : AnalysisEvidence) : List EvidenceValidationIssue :=
  let targetUser := toLocaleLowerCase data.targetUser
  issueIf (isUnstructuredReference evidence.scoreRationale)
      ⟨.UNSTRUCTURED_REFERENCE, metric, evidenceIndex⟩ ++
    match pullRequestWithNumber data.pullRequests evidence.prNumber with
    | none => [⟨.UNKNOWN_PR, metric, evidenceIndex⟩]
    | some pullRequest =>
        issueIf (evidence.permalink != pullRequest.permalink)
            ⟨.PERMALINK_MISMATCH, metric, evidenceIndex⟩ ++
          if toLocaleLowerCase evidence.author ≠ targetUser then
            [⟨.AUTHOR_MISMATCH, metric, evidenceIndex⟩]
          else if evidence.targetRelation ≠ RELATION_BY_SOURCE_TYPE evidence.sourceType then
            [⟨.SOURCE_RELATION_MISMATCH, metric, evidenceIndex⟩]
          else quoteIssues toLocaleLowerCase pullRequest targetUser metric evidenceIndex evidence

/-- The body of the loop over the metrics.  Only the first narrative with an
unstructured reference is reported. -/
def metricIssues (result : LlmAnalysisPayload) (data : CollectedData)
    (metric : AnalysisMetricKey) : List EvidenceValidationIssue :=
  let evaluation := result.metric metric
  issueIf (evaluation.evidence.isEmpty && evaluation.score != 3 && evaluation.score != 7 / 2)
      ⟨.UNSUPPORTED_SCORE_WITHOUT_EVIDENCE, metric, none⟩ ++
    issueIf ([evaluation.reason, evaluation.improvement, evaluation.example_].any
        isUnstructuredReference) ⟨.UNSTRUCTURED_REFERENCE, metric, none⟩ ++
      (evaluation.evidence.mapIdx
        (evidenceIssues toLocaleLowerCase isUnstructuredReference data metric)).flatten

def validateAnalysisEvidence (result : LlmAnalysisPayload) (data : CollectedData) :
    List EvidenceValidationIssue :=
  ANALYSIS_METRIC_KEYS.flatMap
      (metricIssues toLocaleLowerCase isUnstructuredReference result data) ++
    issueIf (isUnstructuredReference result.summary) ⟨.UNSTRUCTURED_REFERENCE, none, none⟩

end Validation
end GitMate.Evidence
