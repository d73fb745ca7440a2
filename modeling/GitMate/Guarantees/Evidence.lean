import GitMate.Service.Evidence
import Mathlib.Data.List.Forall2
import Mathlib.Data.List.Nodup

namespace GitMate.Evidence

open JavaScript

/-!
# What an empty list of issues means

The validator is sound and complete: it finds nothing exactly if the payload
is substantiated by the collected data.  The independent statement below
mentions neither the order of the checks nor their early exits; it asks for
one pull request and one activity of the target user behind every quote.  The
verdict reads quotes and activities only through their normalization, and so
does not depend on their white space.
-/

section Specification

variable (toLocaleLowerCase : Text -> Text) (isUnstructuredReference : Text -> Bool)

/-- What a user wrote in a pull request, by the type of the source. -/
inductive Wrote (targetUser : Text) (pullRequest : PullRequest) :
    AnalysisEvidenceSourceType -> Text -> Prop where
  | title (own : toLocaleLowerCase pullRequest.author = toLocaleLowerCase targetUser) :
      Wrote targetUser pullRequest .pull_request pullRequest.title
  | body (own : toLocaleLowerCase pullRequest.author = toLocaleLowerCase targetUser) :
      Wrote targetUser pullRequest .pull_request pullRequest.body
  | review {review : Review} (member : review ∈ pullRequest.reviews)
      (own : toLocaleLowerCase review.author = toLocaleLowerCase targetUser) :
      Wrote targetUser pullRequest .review review.body
  | comment {review : Review} {comment : ReviewComment} (member : review ∈ pullRequest.reviews)
      (among : comment ∈ review.comments)
      (own : toLocaleLowerCase comment.author = toLocaleLowerCase targetUser) :
      Wrote targetUser pullRequest .review_comment comment.body

/-- The quote is long enough and comes from one activity of the target user
of the stated type. -/
structure Quotes (targetUser : Text) (pullRequest : PullRequest) (evidence : AnalysisEvidence) :
    Prop where
  long : MIN_ANALYSIS_EVIDENCE_QUOTE_LENGTH ≤ (normalizeEvidenceText evidence.quote).length
  owned : Exists fun activity =>
    Wrote toLocaleLowerCase targetUser pullRequest evidence.sourceType activity ∧
      normalizeEvidenceText evidence.quote <:+: normalizeEvidenceText activity

/-- An evidence item points to a collected pull request and quotes the target
user from it. -/
structure Substantiated (data : CollectedData) (evidence : AnalysisEvidence) : Prop where
  author : toLocaleLowerCase evidence.author = toLocaleLowerCase data.targetUser
  relation : evidence.targetRelation = RELATION_BY_SOURCE_TYPE evidence.sourceType
  source : Exists fun pullRequest => pullRequest ∈ data.pullRequests ∧
    pullRequest.number = evidence.prNumber ∧ evidence.permalink = pullRequest.permalink ∧
      Quotes toLocaleLowerCase data.targetUser pullRequest evidence

/-- The evaluation of one metric is in order. -/
structure Sound (data : CollectedData) (evaluation : MetricEvaluation) : Prop where
  supported : evaluation.evidence = [] -> evaluation.score = 3 ∨ evaluation.score = 7 / 2
  narratives : isUnstructuredReference evaluation.reason = false ∧
    isUnstructuredReference evaluation.improvement = false ∧
      isUnstructuredReference evaluation.example_ = false
  rationales : forall evidence, evidence ∈ evaluation.evidence ->
    isUnstructuredReference evidence.scoreRationale = false
  substantiated : forall evidence, evidence ∈ evaluation.evidence ->
    Substantiated toLocaleLowerCase data evidence

/-- The whole payload is in order. -/
structure SoundPayload (data : CollectedData) (result : LlmAnalysisPayload) : Prop where
  metrics : forall metric, Sound toLocaleLowerCase isUnstructuredReference data
    (result.metric metric)
  summary : isUnstructuredReference result.summary = false

end Specification

/-! ## One check at a time -/

@[simp] theorem issueIf_eq_nil {condition : Bool} {issue : EvidenceValidationIssue} :
    issueIf condition issue = [] ↔ condition = false := by
  cases condition <;> simp [issueIf]

section Validation

variable {toLocaleLowerCase : Text -> Text} {isUnstructuredReference : Text -> Bool}

theorem pullRequestWithNumber_spec {pullRequests : List PullRequest} {number : Int}
    {pullRequest : PullRequest} (found : pullRequestWithNumber pullRequests number = some pullRequest) :
    pullRequest ∈ pullRequests ∧ pullRequest.number = number := by
  unfold pullRequestWithNumber at found
  have matched := List.find?_some found
  exact ⟨List.mem_reverse.1 (List.mem_of_find?_eq_some found), beq_iff_eq.1 matched⟩

/-- With distinct numbers the map finds the pull request of a number. -/
theorem pullRequestWithNumber_iff {pullRequests : List PullRequest}
    (distinct : (pullRequests.map PullRequest.number).Nodup) {number : Int}
    {pullRequest : PullRequest} :
    pullRequestWithNumber pullRequests number = some pullRequest ↔
      pullRequest ∈ pullRequests ∧ pullRequest.number = number := by
  refine ⟨pullRequestWithNumber_spec, ?_⟩
  rintro ⟨member, numbered⟩
  cases found : pullRequestWithNumber pullRequests number with
  | none =>
      have missing := List.find?_eq_none.1 found pullRequest (List.mem_reverse.2 member)
      exact absurd (beq_iff_eq.2 numbered) missing
  | some other =>
      rcases pullRequestWithNumber_spec found with ⟨among, otherNumber⟩
      exact congrArg some (List.inj_on_of_nodup_map distinct among member
        (otherNumber.trans numbered.symm))

/-- The collected activities are what the user wrote, each with the relation
of its type. -/
theorem mem_collectOwnedActivities {pullRequest : PullRequest} {targetUser : Text}
    {activity : OwnedActivity} :
    activity ∈ collectOwnedActivities toLocaleLowerCase pullRequest
        (toLocaleLowerCase targetUser) ↔
      Wrote toLocaleLowerCase targetUser pullRequest activity.sourceType activity.text ∧
        activity.targetRelation = RELATION_BY_SOURCE_TYPE activity.sourceType := by
  constructor
  · intro member
    rcases List.mem_append.1 member with authored | reviewed
    · split at authored
      · rename_i own
        rcases List.mem_cons.1 authored with title | body
        · rw [title]
          exact ⟨.title own, rfl⟩
        · rw [List.mem_singleton.1 body]
          exact ⟨.body own, rfl⟩
      · exact absurd authored List.not_mem_nil
    · rcases List.mem_flatMap.1 reviewed with ⟨review, among, inReview⟩
      rcases List.mem_append.1 inReview with own | commented
      · split at own
        · rename_i authored
          rw [List.mem_singleton.1 own]
          exact ⟨.review among authored, rfl⟩
        · exact absurd own List.not_mem_nil
      · rcases List.mem_flatMap.1 commented with ⟨comment, inComments, own⟩
        split at own
        · rename_i authored
          rw [List.mem_singleton.1 own]
          exact ⟨.comment among inComments authored, rfl⟩
        · exact absurd own List.not_mem_nil
  · rcases activity with ⟨sourceType, targetRelation, written⟩
    rintro ⟨wrote, relation⟩
    simp only at wrote relation
    subst relation
    cases wrote with
    | title own =>
        refine List.mem_append_left _ ?_
        rw [if_pos own]
        exact List.mem_cons_self
    | body own =>
        refine List.mem_append_left _ ?_
        rw [if_pos own]
        exact List.mem_cons_of_mem _ List.mem_cons_self
    | review member own =>
        refine List.mem_append_right _ (List.mem_flatMap.2 ⟨_, member, List.mem_append_left _ ?_⟩)
        rw [if_pos own]
        exact List.mem_cons_self
    | comment member among own =>
        refine List.mem_append_right _ (List.mem_flatMap.2 ⟨_, member, List.mem_append_right _
          (List.mem_flatMap.2 ⟨_, among, ?_⟩)⟩)
        rw [if_pos own]
        exact List.mem_cons_self

/-- A quote with the relation of its type passes its checks exactly if it is
one of the target user's. -/
theorem quoteIssues_eq_nil {pullRequest : PullRequest} {targetUser : Text}
    {metric : AnalysisMetricKey} {evidenceIndex : Nat} {evidence : AnalysisEvidence}
    (relation : evidence.targetRelation = RELATION_BY_SOURCE_TYPE evidence.sourceType) :
    quoteIssues toLocaleLowerCase pullRequest (toLocaleLowerCase targetUser) metric evidenceIndex
        evidence = [] ↔ Quotes toLocaleLowerCase targetUser pullRequest evidence := by
  rw [quoteIssues, List.append_eq_nil_iff, issueIf_eq_nil, issueIf_eq_nil, decide_eq_false_iff_not,
    Nat.not_lt, Bool.not_eq_false', List.any_eq_true]
  simp only [Bool.and_eq_true, beq_iff_eq, includes, decide_eq_true_eq]
  constructor
  · rintro ⟨long, activity, member, ⟨sameType, _⟩, within⟩
    rcases mem_collectOwnedActivities.1 member with ⟨wrote, _⟩
    exact ⟨long, activity.text, sameType ▸ wrote, within⟩
  · rintro ⟨long, activity, wrote, within⟩
    exact ⟨long, ⟨evidence.sourceType, evidence.targetRelation, activity⟩,
      mem_collectOwnedActivities.2 ⟨wrote, relation⟩, ⟨rfl, rfl⟩, within⟩

/-- An evidence item has no issue exactly if its rationale has no reference
and the item is substantiated. -/
theorem evidenceIssues_eq_nil {data : CollectedData}
    (distinct : (data.pullRequests.map PullRequest.number).Nodup) {metric : AnalysisMetricKey}
    {evidenceIndex : Nat} {evidence : AnalysisEvidence} :
    evidenceIssues toLocaleLowerCase isUnstructuredReference data metric evidenceIndex evidence =
        [] ↔ isUnstructuredReference evidence.scoreRationale = false ∧
          Substantiated toLocaleLowerCase data evidence := by
  rw [evidenceIssues, List.append_eq_nil_iff, issueIf_eq_nil]
  refine and_congr_right fun _ => ?_
  cases found : pullRequestWithNumber data.pullRequests evidence.prNumber with
  | none =>
      refine ⟨fun impossible => absurd impossible (List.cons_ne_nil _ _), fun substantiated => ?_⟩
      rcases substantiated.source with ⟨pullRequest, member, numbered, _⟩
      cases found.symm.trans ((pullRequestWithNumber_iff distinct).2 ⟨member, numbered⟩)
  | some pullRequest =>
      simp only [List.append_eq_nil_iff, issueIf_eq_nil, bne_eq_false_iff_eq]
      constructor
      · rintro ⟨permalink, checks⟩
        split at checks
        · exact absurd checks (List.cons_ne_nil _ _)
        · rename_i author
          split at checks
          · exact absurd checks (List.cons_ne_nil _ _)
          · rename_i relation
            rcases pullRequestWithNumber_spec found with ⟨member, numbered⟩
            exact ⟨not_not.1 author, not_not.1 relation, pullRequest, member, numbered, permalink,
              (quoteIssues_eq_nil (not_not.1 relation)).1 checks⟩
      · rintro ⟨author, relation, other, member, numbered, permalink, quotes⟩
        have same : other = pullRequest := by
          have also := (pullRequestWithNumber_iff distinct).2 ⟨member, numbered⟩
          cases found.symm.trans also
          rfl
        rw [same] at permalink quotes
        rw [if_neg (not_not.2 author), if_neg (not_not.2 relation)]
        exact ⟨permalink, (quoteIssues_eq_nil relation).2 quotes⟩

/-- A metric has no issue exactly if its evaluation is in order. -/
theorem metricIssues_eq_nil {result : LlmAnalysisPayload} {data : CollectedData}
    (distinct : (data.pullRequests.map PullRequest.number).Nodup) {metric : AnalysisMetricKey} :
    metricIssues toLocaleLowerCase isUnstructuredReference result data metric = [] ↔
      Sound toLocaleLowerCase isUnstructuredReference data (result.metric metric) := by
  generalize evaluated : result.metric metric = evaluation
  have supported : (evaluation.evidence.isEmpty && evaluation.score != 3 &&
      evaluation.score != 7 / 2) = false ↔
        (evaluation.evidence = [] -> evaluation.score = 3 ∨ evaluation.score = 7 / 2) := by
    rw [← Bool.not_eq_true, Bool.and_eq_true, Bool.and_eq_true, List.isEmpty_iff, bne_iff_ne,
      bne_iff_ne]
    tauto
  have narratives : [evaluation.reason, evaluation.improvement, evaluation.example_].any
      isUnstructuredReference = false ↔ isUnstructuredReference evaluation.reason = false ∧
        isUnstructuredReference evaluation.improvement = false ∧
          isUnstructuredReference evaluation.example_ = false := by
    simp only [List.any_cons, List.any_nil, Bool.or_false, Bool.or_eq_false_iff]
  have evidence : (evaluation.evidence.mapIdx
        (evidenceIssues toLocaleLowerCase isUnstructuredReference data metric)).flatten = [] ↔
      forall item, item ∈ evaluation.evidence -> isUnstructuredReference item.scoreRationale = false ∧
        Substantiated toLocaleLowerCase data item := by
    rw [List.flatten_eq_nil_iff]
    constructor
    · intro none item member
      rcases List.getElem_of_mem member with ⟨index, bound, there⟩
      exact (evidenceIssues_eq_nil distinct).1 (none _ (List.mem_mapIdx.2
        ⟨index, bound, congrArg _ there⟩))
    · intro each issues member
      rcases List.mem_mapIdx.1 member with ⟨index, bound, same⟩
      rw [← same]
      exact (evidenceIssues_eq_nil distinct).2 (each _ (List.getElem_mem bound))
  rw [metricIssues, evaluated, List.append_eq_nil_iff, List.append_eq_nil_iff, issueIf_eq_nil,
    issueIf_eq_nil, supported, narratives, evidence]
  exact ⟨fun ⟨⟨supports, tells⟩, items⟩ => ⟨supports, tells, fun item member => (items item member).1,
      fun item member => (items item member).2⟩,
    fun sound => ⟨⟨sound.supported, sound.narratives⟩, fun item member =>
      ⟨sound.rationales item member, sound.substantiated item member⟩⟩⟩

theorem mem_metricKeys (metric : AnalysisMetricKey) : metric ∈ ANALYSIS_METRIC_KEYS := by
  cases metric <;> decide

/-- Nothing is found exactly if the payload is in order. -/
theorem validateAnalysisEvidence_eq_nil {result : LlmAnalysisPayload} {data : CollectedData}
    (distinct : (data.pullRequests.map PullRequest.number).Nodup) :
    validateAnalysisEvidence toLocaleLowerCase isUnstructuredReference result data = [] ↔
      SoundPayload toLocaleLowerCase isUnstructuredReference data result := by
  rw [validateAnalysisEvidence, List.append_eq_nil_iff, issueIf_eq_nil, List.flatMap_eq_nil_iff]
  constructor
  · rintro ⟨metrics, summary⟩
    exact ⟨fun metric => (metricIssues_eq_nil distinct).1 (metrics metric (mem_metricKeys metric)),
      summary⟩
  · rintro ⟨metrics, summary⟩
    exact ⟨fun metric _ => (metricIssues_eq_nil distinct).2 (metrics metric), summary⟩

end Validation

/-! ## White space

Quotes and activities may be respaced at will, each on its own. -/

theorem forall₂_mem {α : Type} {related : α -> α -> Prop} {left right : List α}
    (all : List.Forall₂ related left right) {item : α} (member : item ∈ left) :
    Exists fun other => other ∈ right ∧ related item other := by
  induction all with
  | nil => exact absurd member List.not_mem_nil
  | cons same _ inductionHypothesis =>
      rcases List.mem_cons.1 member with first | later
      · exact ⟨_, List.mem_cons_self, first ▸ same⟩
      · rcases inductionHypothesis later with ⟨other, among, relates⟩
        exact ⟨other, List.mem_cons_of_mem _ among, relates⟩

theorem forall₂_symm {α : Type} {related : α -> α -> Prop}
    (symmetric : forall left right, related left right -> related right left) {left right : List α}
    (all : List.Forall₂ related left right) : List.Forall₂ related right left :=
  List.Forall₂.flip (all.imp symmetric)

def RespacedEvidence (left right : AnalysisEvidence) : Prop :=
  Respaced left.quote right.quote ∧ right = { left with quote := right.quote }

def RespacedEvaluation (left right : MetricEvaluation) : Prop :=
  List.Forall₂ RespacedEvidence left.evidence right.evidence ∧
    right = { left with evidence := right.evidence }

/-- The payloads differ only in the white space of their quotes. -/
structure RespacedPayload (left right : LlmAnalysisPayload) : Prop where
  metrics : forall metric, RespacedEvaluation (left.metric metric) (right.metric metric)
  summary : right.summary = left.summary

def RespacedComment (left right : ReviewComment) : Prop :=
  Respaced left.body right.body ∧ right.author = left.author

structure RespacedReview (left right : Review) : Prop where
  body : Respaced left.body right.body
  comments : List.Forall₂ RespacedComment left.comments right.comments
  author : right.author = left.author

structure RespacedPullRequest (left right : PullRequest) : Prop where
  title : Respaced left.title right.title
  body : Respaced left.body right.body
  reviews : List.Forall₂ RespacedReview left.reviews right.reviews
  number : right.number = left.number
  author : right.author = left.author
  permalink : right.permalink = left.permalink

/-- The data differ only in the white space of what was written. -/
structure RespacedData (left right : CollectedData) : Prop where
  pullRequests : List.Forall₂ RespacedPullRequest left.pullRequests right.pullRequests
  targetUser : right.targetUser = left.targetUser

theorem RespacedEvidence.symm {left right : AnalysisEvidence}
    (respaced : RespacedEvidence left right) : RespacedEvidence right left := by
  rcases respaced with ⟨quotes, same⟩
  refine ⟨quotes.symm, ?_⟩
  rw [same]

theorem RespacedEvaluation.symm {left right : MetricEvaluation}
    (respaced : RespacedEvaluation left right) : RespacedEvaluation right left := by
  rcases respaced with ⟨evidence, same⟩
  refine ⟨forall₂_symm (fun _ _ => RespacedEvidence.symm) evidence, ?_⟩
  rw [same]

theorem RespacedPayload.symm {left right : LlmAnalysisPayload}
    (respaced : RespacedPayload left right) : RespacedPayload right left :=
  ⟨fun metric => (respaced.metrics metric).symm, respaced.summary.symm⟩

theorem RespacedReview.symm {left right : Review} (respaced : RespacedReview left right) :
    RespacedReview right left where
  body := respaced.body.symm
  comments := forall₂_symm (fun _ _ same => ⟨same.1.symm, same.2.symm⟩) respaced.comments
  author := respaced.author.symm

theorem RespacedPullRequest.symm {left right : PullRequest}
    (respaced : RespacedPullRequest left right) : RespacedPullRequest right left where
  title := respaced.title.symm
  body := respaced.body.symm
  reviews := forall₂_symm (fun _ _ => RespacedReview.symm) respaced.reviews
  number := respaced.number.symm
  author := respaced.author.symm
  permalink := respaced.permalink.symm

theorem RespacedData.symm {left right : CollectedData} (respaced : RespacedData left right) :
    RespacedData right left :=
  ⟨forall₂_symm (fun _ _ => RespacedPullRequest.symm) respaced.pullRequests,
    respaced.targetUser.symm⟩

/-- Respacing keeps the numbers of the pull requests. -/
theorem RespacedData.numbers {left right : CollectedData} (respaced : RespacedData left right) :
    right.pullRequests.map PullRequest.number = left.pullRequests.map PullRequest.number := by
  have all := respaced.pullRequests
  generalize left.pullRequests = before at all ⊢
  generalize right.pullRequests = after at all ⊢
  induction all with
  | nil => rfl
  | cons same _ inductionHypothesis =>
      rw [List.map_cons, List.map_cons, same.number, inductionHypothesis]

section Respacing

variable {toLocaleLowerCase : Text -> Text} {isUnstructuredReference : Text -> Bool}

/-- What a user wrote has its respaced counterpart. -/
theorem Wrote.respaced {targetUser : Text} {left right : PullRequest}
    (pullRequests : RespacedPullRequest left right) {sourceType : AnalysisEvidenceSourceType}
    {activity : Text} (wrote : Wrote toLocaleLowerCase targetUser left sourceType activity) :
    Exists fun counterpart => Wrote toLocaleLowerCase targetUser right sourceType counterpart ∧
      Respaced activity counterpart := by
  cases wrote with
  | title own => exact ⟨_, .title (pullRequests.author ▸ own), pullRequests.title⟩
  | body own => exact ⟨_, .body (pullRequests.author ▸ own), pullRequests.body⟩
  | review member own =>
      rcases forall₂_mem pullRequests.reviews member with ⟨review, among, same⟩
      exact ⟨_, .review among (same.author ▸ own), same.body⟩
  | comment member inComments own =>
      rcases forall₂_mem pullRequests.reviews member with ⟨review, among, same⟩
      rcases forall₂_mem same.comments inComments with ⟨comment, inOther, sameComment⟩
      exact ⟨_, .comment among inOther (sameComment.2 ▸ own), sameComment.1⟩

theorem Substantiated.respaced {data otherData : CollectedData} {evidence other : AnalysisEvidence}
    (sameData : RespacedData data otherData) (sameEvidence : RespacedEvidence evidence other)
    (substantiated : Substantiated toLocaleLowerCase data evidence) :
    Substantiated toLocaleLowerCase otherData other := by
  rcases sameEvidence with ⟨quotes, same⟩
  rcases substantiated.source with ⟨pullRequest, member, numbered, permalink, long, activity, wrote,
    within⟩
  rcases forall₂_mem sameData.pullRequests member with ⟨counterpart, among, samePullRequest⟩
  rcases wrote.respaced samePullRequest with ⟨written, alsoWrote, sameText⟩
  have normalized : normalizeEvidenceText other.quote = normalizeEvidenceText evidence.quote :=
    quotes.normalizeText_eq.symm
  have activities : normalizeEvidenceText written = normalizeEvidenceText activity :=
    sameText.normalizeText_eq.symm
  rw [same] at normalized ⊢
  refine ⟨?_, substantiated.relation, counterpart, among, ?_, ?_, ?_, written, ?_, ?_⟩
  · rw [sameData.targetUser]
    exact substantiated.author
  · exact samePullRequest.number.trans numbered
  · exact permalink.trans samePullRequest.permalink.symm
  · exact normalized ▸ long
  · rw [sameData.targetUser]
    exact alsoWrote
  · rw [activities]
    exact normalized ▸ within

theorem Sound.respaced {data otherData : CollectedData} {evaluation other : MetricEvaluation}
    (sameData : RespacedData data otherData) (same : RespacedEvaluation evaluation other)
    (sound : Sound toLocaleLowerCase isUnstructuredReference data evaluation) :
    Sound toLocaleLowerCase isUnstructuredReference otherData other := by
  rcases same with ⟨evidence, rest⟩
  have back := forall₂_symm (fun _ _ => RespacedEvidence.symm) evidence
  refine ⟨?_, ?_, ?_, ?_⟩
  · intro none
    rw [none] at evidence
    have score : other.score = evaluation.score := by rw [rest]
    rw [score]
    exact sound.supported (List.forall₂_nil_right_iff.1 evidence)
  · rw [rest]
    exact sound.narratives
  · intro item member
    rcases forall₂_mem back member with ⟨source, among, respaced⟩
    have rationale : item.scoreRationale = source.scoreRationale := by
      rw [respaced.symm.2]
    rw [rationale]
    exact sound.rationales source among
  · intro item member
    rcases forall₂_mem back member with ⟨source, among, respaced⟩
    exact (sound.substantiated source among).respaced sameData respaced.symm

theorem SoundPayload.respaced {data otherData : CollectedData} {result other : LlmAnalysisPayload}
    (sameData : RespacedData data otherData) (same : RespacedPayload result other)
    (sound : SoundPayload toLocaleLowerCase isUnstructuredReference data result) :
    SoundPayload toLocaleLowerCase isUnstructuredReference otherData other :=
  ⟨fun metric => (sound.metrics metric).respaced sameData (same.metrics metric),
    same.summary ▸ sound.summary⟩

end Respacing

/-- Evidence validation is sound and complete for data with distinct numbers,
and its verdict does not depend on white space in quotes and activities. -/
theorem evidence_validation_sound_complete (toLocaleLowerCase : Text -> Text)
    (isUnstructuredReference : Text -> Bool) (data : CollectedData)
    (distinct : (data.pullRequests.map PullRequest.number).Nodup) (result : LlmAnalysisPayload) :
    (validateAnalysisEvidence toLocaleLowerCase isUnstructuredReference result data = [] ↔
      SoundPayload toLocaleLowerCase isUnstructuredReference data result) ∧
    forall otherData other, RespacedData data otherData -> RespacedPayload result other ->
      (validateAnalysisEvidence toLocaleLowerCase isUnstructuredReference other otherData = [] ↔
        validateAnalysisEvidence toLocaleLowerCase isUnstructuredReference result data = []) := by
  refine ⟨validateAnalysisEvidence_eq_nil distinct, fun otherData other sameData same => ?_⟩
  have otherDistinct : (otherData.pullRequests.map PullRequest.number).Nodup :=
    sameData.numbers ▸ distinct
  rw [validateAnalysisEvidence_eq_nil distinct, validateAnalysisEvidence_eq_nil otherDistinct]
  exact ⟨fun sound => sound.respaced sameData.symm same.symm,
    fun sound => sound.respaced sameData same⟩

/-- Case folding of ASCII letters. -/
def asciiLowerCase (value : Text) : Text :=
  value.map fun code => if isUppercase code then code + 0x20 else code

/-- A pull request of somebody else on which the target user has commented. -/
def smallData : CollectedData where
  targetUser := text "TargetDev"
  pullRequests :=
    [ { number := 10
        title := text "Other title"
        body := text "Other body"
        author := text "otherdev"
        permalink := text "https://github.com/owner/repo/pull/10"
        reviews :=
          [⟨text "OtherDev", text "ok", [⟨text "TARGETDEV", text "Target  comment body here."⟩]⟩] } ]

def smallEvidence : AnalysisEvidence where
  prNumber := 10
  permalink := text "https://github.com/owner/repo/pull/10"
  author := text "targetdev"
  sourceType := .review_comment
  targetRelation := .target_authored_review_comment
  quote := text "Target comment   body here."
  scoreRationale := text "The comment explains the change."

def smallResult : LlmAnalysisPayload where
  metric
    | .review_guiding => ⟨4, text "Clear.", text "None.", text "See the quote.", [smallEvidence]⟩
    | _ => ⟨3, text "Neutral.", text "None.", text "None.", []⟩
  summary := text "A good reviewer."

/-- The validator finds nothing in the small result, so it is in order. -/
theorem evidence_validation_sound_complete_small :
    SoundPayload asciiLowerCase (fun narrative => includes narrative (text "#")) smallData
      smallResult :=
  (evidence_validation_sound_complete asciiLowerCase
    (fun narrative => includes narrative (text "#")) smallData (by decide) smallResult).1.1
      (by decide +kernel)

end GitMate.Evidence
