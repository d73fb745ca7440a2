import GitMate.Statements.Obedience
import GitMate.Statements.Effects
import GitMate.Service.Evidence
import GitMate.Service.Runs
import Mathlib.Tactic.Linarith

namespace GitMate

open Relational Interleaving Dialect Evidence

/-!
# Statistics under concurrency

`updateStats` reads the statistic of a user and writes it back, in a
transaction that may still fail afterwards.  The row may not exist yet, so
there is nothing to lock but the advisory lock of the user.  The lock is
enough: between a transaction's read and its commit nobody else changes the
committed statistic, so every commit adds its own metrics to what all commits
before it have made, and a transaction that fails leaves nothing behind.
-/

variable {digest : String -> Int}

/-- A statistic after one more analysis. -/
def UserStat.counted (userId : UserId) (metrics : AnalysisMetrics) : Option UserStat -> UserStat
  | none => ⟨userId, metrics, 1⟩
  | some stat => stat.updated metrics

/-! ## What a transaction knows of the statistics -/

/-- What the statements of a transaction do to the statistics. -/
inductive StatChange (db after : Database) : Statement -> Prop where
  | unchanged {statement : Statement}
      (uncreated : forall userId metrics, statement ≠ .createStat userId metrics)
      (kept : forall userId scores, statement ≠ .updateStat userId scores)
      (same : after.userStats = db.userStats) : StatChange db after statement
  | created {userId : UserId} {metrics : AnalysisMetrics}
      (absent : db.userStats.find? userId = none)
      (placed : forall wanted, after.userStats.find? wanted =
        if userId = wanted then some ⟨userId, metrics, 1⟩ else db.userStats.find? wanted) :
      StatChange db after (.createStat userId metrics)
  | rescored {userId : UserId} {scores : AnalysisMetrics} {stat : UserStat}
      (found : db.userStats.find? userId = some stat)
      (placed : forall wanted, after.userStats.find? wanted =
        if userId = wanted then some (stat.rescored scores) else db.userStats.find? wanted) :
      StatChange db after (.updateStat userId scores)

theorem Statement.statChange {statement : Statement} {surroundings : StatementEnvironment}
    {db after : Database} {reply : statement.Reply}
    (ran : statement.run surroundings db = .ok (reply, after)) : StatChange db after statement := by
  have effect := Statement.effect ran
  cases statement with
  | createStat userId metrics =>
      cases inserted : db.userStats.insert? ⟨userId, metrics, 1⟩ with
      | none => simp only [run, inserted, reduceCtorEq] at ran
      | some userStats =>
          simp only [run, inserted, Except.ok.injEq, Prod.mk.injEq, true_and] at ran
          subst ran
          rcases Table.find?_insert? inserted with ⟨absent, placed⟩
          exact .created absent placed
  | updateStat userId scores =>
      cases found : db.userStats.find? userId with
      | none => simp only [run, found, reduceCtorEq] at ran
      | some stat =>
          simp only [run, found, Except.ok.injEq, Prod.mk.injEq, true_and] at ran
          subst ran
          refine .rescored found fun wanted => ?_
          have names : Table.Names UserStat.userId (fun stat => decide (stat.userId = userId))
              userId := fun stat selected => of_decide_eq_true selected
          have changed : (db.userStats.updateMany (fun stat => decide (stat.userId = userId))
              (UserStat.rescored scores) (UserStat.rescored_userId scores)).find? userId =
                some (stat.rescored scores) :=
            Table.find?_compareAndSet found (decide_eq_true (Table.key_of_find? found))
          have others : forall other, other ≠ userId ->
              (db.userStats.updateMany (fun stat => decide (stat.userId = userId))
                (UserStat.rescored scores) (UserStat.rescored_userId scores)).find? other =
                  db.userStats.find? other :=
            fun other different => Table.find?_compareAndSet_ne names different
          by_cases same : userId = wanted
          · subst same
            rw [if_pos rfl]
            exact changed
          · rw [if_neg same]
            exact others wanted (Ne.symm same)
  | query | failStaleUnreserved | failStaleReserved | findActiveJob | createJob | updateJob
  | transitionJob | reserveJob | settleJob | findJob | debitTokens | incrementTokens
  | createReport | findStat | complete | upsertRepository =>
      refine .unchanged (fun _ _ same => (by cases same)) (fun _ _ same => (by cases same)) ?_
      cases effect <;> rfl

/-- What a transaction has written to the statistics after a statement. -/
theorem StatChange.written {committed written after : Database} {statement : Statement}
    (change : StatChange (committed.overlay written) after statement) (wanted : UserId) :
    (written.overlay ((committed.overlay written).changes after)).userStats.find? wanted =
      if (committed.overlay written).userStats.find? wanted = after.userStats.find? wanted then
        written.userStats.find? wanted
      else after.userStats.find? wanted := by
  refine Table.find?_rewritten (fun other missing => ?_) wanted
  change (committed.overlay written).userStats.find? other = none
  cases change with
  | unchanged uncreated kept same => rw [← same, missing]
  | created absent placed | rescored found placed =>
      rw [placed] at missing
      split at missing
      · cases missing
      · exact missing

/-- What a transaction knows of the statistics.  The lock of a user guards
whatever has been read or written of the user's statistic. -/
structure StatFacts (entry : TransactionEntry) (committed : Database)
    (transaction : OpenTransaction Database LockId Instant) (id : Nat) (past : Past digest) :
    Prop where
  held : forall scope, Acquired past id scope -> scope.id digest ∈ transaction.locks
  read : forall userId stat, Answered past id (.findStat userId) stat ->
    Acquired past id (.userStat userId) ∧ committed.userStats.find? userId = stat
  unwritten : ¬Scored past id -> forall userId,
    transaction.written.userStats.find? userId = none
  written : forall userId row, transaction.written.userStats.find? userId = some row ->
    Acquired past id (.userStat userId) ∧ Exists fun input => entry = .save input ∧
      input.userId = userId ∧
      row = UserStat.counted userId input.metrics (committed.userStats.find? userId)
  complete : forall input, entry = .save input -> Scored past id ->
    (transaction.written.userStats.find? input.userId).isSome = true

namespace StatFacts

variable {entry : TransactionEntry} {committed : Database}
  {transaction : OpenTransaction Database LockId Instant} {id : Nat} {past : Past digest}

theorem begun {time : Instant}
    (fresh : forall event : Event (statements digest).interface, event ∈ past ->
      event.op.transaction ≠ some id ∧ grants event ≠ some id) :
    StatFacts entry committed ⟨time, [], Database.empty⟩ id (past ++ [⟨.begin, .ok id⟩]) where
  held scope acquired := by
    rcases acquired_append.mp acquired with before | same
    · exact absurd rfl (fresh _ before).1
    · cases same
  read userId stat answered := by
    rcases answered_append.mp answered with before | same
    · exact absurd rfl (fresh _ before).1
    · cases same
  unwritten _ _ := rfl
  written _ _ found := by cases found
  complete input _ scored := by
    rcases scored_append.mp scored with before | ⟨_, _, same⟩ | ⟨_, _, same⟩
    · rcases before with ⟨_, _, before⟩ | ⟨_, _, before⟩
      · exact absurd rfl (fresh _ before).1
      · exact absurd rfl (fresh _ before).1
    · cases same
    · cases same

/-- An event that is neither a lock nor an answer changes nothing. -/
theorem more {event : Event (statements digest).interface}
    {next : OpenTransaction Database LockId Instant}
    (facts : StatFacts entry committed transaction id past)
    (same : next.written = transaction.written)
    (longer : forall lock, lock ∈ transaction.locks -> lock ∈ next.locks)
    (locked : forall scope, event = ⟨.acquire id scope, .ok ()⟩ -> scope.id digest ∈ next.locks)
    (unanswered : forall asked reply, event ≠ ⟨.statement id asked, .ok reply⟩) :
    StatFacts entry committed next id (past ++ [event]) where
  held scope acquired := by
    rcases acquired_append.mp acquired with before | now
    · exact longer _ (facts.held scope before)
    · exact locked scope now
  read userId stat answered := by
    rcases answered_append.mp answered with before | now
    · exact (facts.read userId stat before).imp_left
        fun acquired => acquired_append.mpr (Or.inl acquired)
    · exact absurd now (unanswered _ _)
  unwritten unscored userId := by
    rw [same]
    exact facts.unwritten (fun scored => unscored (scored_append.mpr (Or.inl scored))) userId
  written userId row found := by
    rw [same] at found
    exact (facts.written userId row found).imp_left
      fun acquired => acquired_append.mpr (Or.inl acquired)
  complete input is scored := by
    rw [same]
    refine facts.complete input is ?_
    rcases scored_append.mp scored with before | ⟨_, _, now⟩ | ⟨_, _, now⟩
    · exact before
    · exact absurd now (unanswered _ _)
    · exact absurd now (unanswered _ _)

/-- A statement is answered. -/
theorem answered {asked : Statement} {reply : asked.Reply} {surroundings : StatementEnvironment}
    {after : Database} (facts : StatFacts entry committed transaction id past)
    (issues : entry.Issues past id asked)
    (ran : asked.run surroundings (committed.overlay transaction.written) = .ok (reply, after)) :
    StatFacts entry committed { transaction with
      written := transaction.written.overlay
        ((committed.overlay transaction.written).changes after) } id
      (past ++ [⟨.statement id asked, .ok reply⟩]) := by
  have view : forall userId, (committed.overlay transaction.written).userStats.find? userId =
      (transaction.written.userStats.find? userId).or (committed.userStats.find? userId) :=
    fun userId => Table.find?_overlay userId
  have change := Statement.statChange ran
  have written := fun wanted => change.written wanted
  -- What the statistics were when the transaction has not written any yet.
  have fresh : ¬Scored past id -> forall userId,
      (committed.overlay transaction.written).userStats.find? userId =
        committed.userStats.find? userId := by
    intro unscored userId
    rw [view, facts.unwritten unscored, Option.none_or]
  have longer : forall {scope}, Acquired past id scope ->
      Acquired (past ++ [⟨.statement id asked, .ok reply⟩]) id scope :=
    fun acquired => acquired_append.mpr (Or.inl acquired)
  have held : forall scope, Acquired (past ++ [⟨.statement id asked, .ok reply⟩]) id scope ->
      scope.id digest ∈ transaction.locks := by
    intro scope acquired
    rcases acquired_append.mp acquired with before | now
    · exact facts.held scope before
    · cases now
  have read : forall userId stat,
      Answered (past ++ [⟨.statement id asked, .ok reply⟩]) id (.findStat userId) stat ->
      Acquired (past ++ [⟨.statement id asked, .ok reply⟩]) id (.userStat userId) ∧
        committed.userStats.find? userId = stat := by
    intro userId stat answered
    rcases answered_append.mp answered with before | now
    · exact (facts.read userId stat before).imp_left longer
    · cases now
      rcases issues with ⟨_, acquired, unscored⟩
      simp only [Statement.run, Except.ok.injEq, Prod.mk.injEq] at ran
      exact ⟨longer acquired, (fresh unscored userId).symm.trans ran.1⟩
  cases change with
  | unchanged uncreated kept same =>
      have unwritten : forall userId, (transaction.written.overlay
          ((committed.overlay transaction.written).changes after)).userStats.find? userId =
            transaction.written.userStats.find? userId := by
        intro userId
        rw [written, same, if_pos rfl]
      have unscored : Scored (past ++ [⟨.statement id asked, .ok reply⟩]) id -> Scored past id := by
        intro scored
        rcases scored_append.mp scored with before | ⟨_, _, now⟩ | ⟨_, _, now⟩
        · exact before
        · cases now
          exact absurd rfl (uncreated _ _)
        · cases now
          exact absurd rfl (kept _ _)
      refine ⟨held, read, fun absent userId => ?_, fun userId row found => ?_,
        fun input is scored => ?_⟩
      · rw [unwritten]
        exact facts.unwritten (fun scored => absent (scored_append.mpr (Or.inl scored))) userId
      · rw [unwritten] at found
        exact (facts.written userId row found).imp_left longer
      · rw [unwritten]
        exact facts.complete input is (unscored scored)
  | @created userId metrics absent placed =>
      rcases issues with ⟨unscored, ⟨input, is, owner, value⟩, looked⟩
      rcases facts.read userId none looked with ⟨acquired, missing⟩
      have now : (transaction.written.overlay
          ((committed.overlay transaction.written).changes after)).userStats.find? userId =
            some ⟨userId, metrics, 1⟩ := by
        rw [written, placed, if_pos rfl, absent, if_neg (fun same => by cases same)]
      refine ⟨held, read, fun absent => ?_, fun wanted row found => ?_, fun other same _ => ?_⟩
      · exact absurd (scored_append.mpr (Or.inr (Or.inl ⟨userId, metrics, rfl⟩))) absent
      · by_cases here : userId = wanted
        · subst here
          cases now.symm.trans found
          exact ⟨longer acquired, input, is, owner, by rw [missing, value]; rfl⟩
        · rw [written, placed, if_neg here, if_pos rfl, facts.unwritten unscored] at found
          cases found
      · cases is.symm.trans same
        rw [owner, now]
        rfl
  | @rescored userId scores stat found placed =>
      rcases issues with ⟨unscored, input, seen, is, owner, value, looked⟩
      rcases facts.read userId (some seen) looked with ⟨acquired, there⟩
      cases (found.symm.trans (fresh unscored userId)).trans there
      have now : (transaction.written.overlay
          ((committed.overlay transaction.written).changes after)).userStats.find? userId =
            some (stat.rescored scores) := by
        rw [written, placed, if_pos rfl, found, if_neg]
        intro same
        exact Nat.succ_ne_self _ (congrArg UserStat.analysisCount (Option.some.inj same)).symm
      refine ⟨held, read, fun absent => ?_, fun wanted row found => ?_, fun other same _ => ?_⟩
      · exact absurd (scored_append.mpr (Or.inr (Or.inr ⟨userId, scores, rfl⟩))) absent
      · by_cases here : userId = wanted
        · subst here
          cases now.symm.trans found
          exact ⟨longer acquired, input, is, owner, by rw [there, value]; rfl⟩
        · rw [written, placed, if_neg here, if_pos rfl, facts.unwritten unscored] at found
          cases found
      · cases is.symm.trans same
        rw [owner, now]
        rfl

/-- The commit of a transaction that holds other locks touches none of the
statistics that have been read or written. -/
theorem others {rival : OpenTransaction Database LockId Instant} {committing : TransactionEntry}
    {another : Nat} {seen : Past digest}
    (facts : StatFacts entry committed transaction id past)
    (theirs : StatFacts committing committed rival another seen)
    (apart : forall lock, lock ∈ transaction.locks -> lock ∉ rival.locks) :
    StatFacts entry (committed.overlay rival.written) transaction id past := by
  have same : forall userId, Acquired past id (.userStat userId) ->
      (committed.overlay rival.written).userStats.find? userId =
        committed.userStats.find? userId := by
    intro userId acquired
    have view : (committed.overlay rival.written).userStats.find? userId = _ :=
      Table.find?_overlay userId
    cases written : rival.written.userStats.find? userId with
    | none => rw [view, written, Option.none_or]
    | some row =>
        exact absurd (theirs.held _ (theirs.written userId row written).1)
          (apart _ (facts.held _ acquired))
  refine ⟨facts.held, fun userId stat answered => ?_, facts.unwritten, fun userId row found => ?_,
    facts.complete⟩
  · rcases facts.read userId stat answered with ⟨acquired, there⟩
    exact ⟨acquired, (same userId acquired).trans there⟩
  · rw [same userId (facts.written userId row found).1]
    exact facts.written userId row found

/-- The facts hold of every transaction at all times. -/
theorem rule : (statements digest).TransactionRule (TransactionEntry.conduct digest)
    (fun _ => True) StatFacts where
  owning permitted concerns := Permits.owning permitted concerns
  begun _ unseen := StatFacts.begun unseen
  acquired {entry committed transaction id past scope} _ facts permitted := by
    refine facts.more rfl (fun _ holds => List.mem_cons_of_mem _ holds) (fun other same => ?_)
      (fun _ _ same => by cases same)
    cases same
    exact List.mem_cons_self
  answered _ facts permitted _ ran := facts.answered permitted.2 ran
  idle {entry committed transaction id past event} facts permitted silent := by
    refine facts.more rfl (fun _ holds => holds) (fun scope same => ?_) (fun asked reply same => ?_)
    · subst same
      exact absurd rfl silent
    · subst same
      exact absurd rfl silent
  others _ facts theirs _ apart _ := facts.others theirs apart
  commits _ _ _ := trivial

end StatFacts

/-! ## The statistic is the fold of the commits -/

/-- The metrics of the successful analyses of a user among what processes were
started for. -/
def successes (userId : UserId) (entries : List TransactionEntry) : List AnalysisMetrics :=
  entries.filterMap fun entry =>
    match entry with
    | .save input => if input.userId = userId then some input.metrics else none
    | _ => none

/-- The statistic after some more analyses, one after the other. -/
def countAll (userId : UserId) (analyses : List AnalysisMetrics) (stat : Option UserStat) :
    Option UserStat :=
  analyses.foldl (fun stat metrics => some (UserStat.counted userId metrics stat)) stat

theorem countAll_append {userId : UserId} {analyses : List AnalysisMetrics}
    {metrics : AnalysisMetrics} {stat : Option UserStat} :
    countAll userId (analyses ++ [metrics]) stat =
      some (UserStat.counted userId metrics (countAll userId analyses stat)) := by
  rw [countAll, List.foldl_append]
  rfl

theorem successes_append_save {entries : List TransactionEntry} {input : SaveAnalysisResultInput} :
    successes input.userId (entries ++ [.save input]) =
      successes input.userId entries ++ [input.metrics] := by
  simp only [successes, List.filterMap_append, List.filterMap_cons, List.filterMap_nil, if_true]

theorem successes_append_ne {userId : UserId} {entries : List TransactionEntry}
    {entry : TransactionEntry} (other : forall input, entry = .save input -> input.userId ≠ userId) :
    successes userId (entries ++ [entry]) = successes userId entries := by
  have none : successes userId [entry] = [] := by
    cases entry with
    | save input =>
        simp only [successes, List.filterMap_cons, List.filterMap_nil, if_neg (other input rfl)]
    | create | retry | sync | update | reserve | terminate | settle | upsertRepository => rfl
  rw [successes, List.filterMap_append]
  exact (congrArg _ none).trans (List.append_nil _)

/-- A commit counts its own analysis, if it has one. -/
theorem StatFacts.commit {userId : UserId} {entries : List TransactionEntry}
    {entry : TransactionEntry} {committed : Database}
    {transaction : OpenTransaction Database LockId Instant} {id : Nat} {past : Past digest}
    {stat : Option UserStat} (facts : StatFacts entry committed transaction id past)
    (finishes : entry.Finishes past id)
    (folded : committed.userStats.find? userId = countAll userId (successes userId entries) stat) :
    (committed.overlay transaction.written).userStats.find? userId =
      countAll userId (successes userId (entries ++ [entry])) stat := by
  have view : (committed.overlay transaction.written).userStats.find? userId = _ :=
    Table.find?_overlay userId
  rw [view]
  cases written : transaction.written.userStats.find? userId with
  | some row =>
      rcases facts.written userId row written with ⟨_, input, rfl, rfl, rfl⟩
      rw [successes_append_save, countAll_append, ← folded, Option.some_or]
  | none =>
      rw [Option.none_or, folded, successes_append_ne]
      rintro input rfl rfl
      have complete := facts.complete input rfl (finishes input rfl).1
      rw [written] at complete
      cases complete

/-! ## Scores stay in range -/

def AnalysisMetrics.score (metrics : AnalysisMetrics) : AnalysisMetricKey -> Rat
  | .mutual_respect => metrics.mutualRespectScore
  | .conflict_management => metrics.conflictManagementScore
  | .logical_problem_definition => metrics.logicalProblemScore
  | .review_guiding => metrics.reviewGuidingScore
  | .documentation => metrics.documentationScore
  | .knowledge_sharing => metrics.knowledgeSharingScore
  | .technical_influence => metrics.technicalInfluenceScore
  | .code_stability => metrics.codeStabilityScore

def LlmAnalysisResult.score (result : LlmAnalysisResult) : AnalysisMetricKey -> Rat
  | .mutual_respect => result.mutualRespect
  | .conflict_management => result.conflictManagement
  | .logical_problem_definition => result.logicalProblemDefinition
  | .review_guiding => result.reviewGuiding
  | .documentation => result.documentation
  | .knowledge_sharing => result.knowledgeSharing
  | .technical_influence => result.technicalInfluence
  | .code_stability => result.codeStability

/-- The scores that `metricEvaluationSchema` lets through: from one to five, in
steps of a half. -/
def LlmAnalysisResult.admitted (result : LlmAnalysisResult) : Bool :=
  ANALYSIS_METRIC_KEYS.all fun key =>
    decide (1 ≤ result.score key) && decide (result.score key ≤ 5) && (result.score key * 2).isInt

theorem score_weighted (old new : AnalysisMetrics) (key : AnalysisMetricKey) :
    (old.weighted new).score key = old.score key * weightOld + new.score key * weightNew := by
  cases key <;> rfl

theorem score_calculateMetrics (result : LlmAnalysisResult) (key : AnalysisMetricKey) :
    (calculateMetrics result).score key = result.score key * 20 := by
  cases key <;> rfl

theorem mem_ANALYSIS_METRIC_KEYS (key : AnalysisMetricKey) : key ∈ ANALYSIS_METRIC_KEYS := by
  cases key <;> decide

/-- The scores of an admitted result lie between twenty and a hundred. -/
theorem score_of_admitted {result : LlmAnalysisResult} (admitted : result.admitted = true)
    (key : AnalysisMetricKey) : 20 ≤ (calculateMetrics result).score key ∧
      (calculateMetrics result).score key ≤ 100 := by
  have checked := List.all_eq_true.mp admitted key (mem_ANALYSIS_METRIC_KEYS key)
  simp only [Bool.and_eq_true, decide_eq_true_eq] at checked
  rw [score_calculateMetrics]
  constructor
  · linarith only [checked.1.1]
  · linarith only [checked.1.2]

/-- A score of a statistic lies in a range, if there is a statistic. -/
def ScoreWithin (key : AnalysisMetricKey) (low high : Rat) (stat : Option UserStat) : Prop :=
  forall row, stat = some row -> low ≤ row.scores.score key ∧ row.scores.score key ≤ high

theorem ScoreWithin.counted {key : AnalysisMetricKey} {low high : Rat} {stat : Option UserStat}
    {userId : UserId} {metrics : AnalysisMetrics} (within : ScoreWithin key low high stat)
    (new : low ≤ metrics.score key ∧ metrics.score key ≤ high) :
    ScoreWithin key low high (some (UserStat.counted userId metrics stat)) := by
  intro row same
  cases same
  cases stat with
  | none => exact new
  | some row =>
      rcases within row rfl with ⟨lower, upper⟩
      change low ≤ (row.scores.weighted metrics).score key ∧
        (row.scores.weighted metrics).score key ≤ high
      rw [score_weighted, weightOld, weightNew]
      constructor
      · linarith only [lower, new.1]
      · linarith only [upper, new.2]

theorem ScoreWithin.countAll {key : AnalysisMetricKey} {low high : Rat} {stat : Option UserStat}
    {userId : UserId} {analyses : List AnalysisMetrics} (within : ScoreWithin key low high stat)
    (each : forall metrics, metrics ∈ analyses ->
      low ≤ metrics.score key ∧ metrics.score key ≤ high) :
    ScoreWithin key low high (GitMate.countAll userId analyses stat) := by
  induction analyses generalizing stat with
  | nil => exact within
  | cons metrics rest inductionHypothesis =>
      exact inductionHypothesis (within.counted (each metrics List.mem_cons_self))
        fun other member => each other (List.mem_cons_of_mem _ member)

theorem analysisCount_countAll {userId : UserId} {analyses : List AnalysisMetrics}
    {stat : Option UserStat} :
    ((countAll userId analyses stat).map UserStat.analysisCount).getD 0 =
      (stat.map UserStat.analysisCount).getD 0 + analyses.length := by
  induction analyses generalizing stat with
  | nil => rfl
  | cons metrics rest inductionHypothesis =>
      have one : (UserStat.counted userId metrics stat).analysisCount =
          (stat.map UserStat.analysisCount).getD 0 + 1 := by
        cases stat <;> rfl
      change ((countAll userId rest (some _)).map UserStat.analysisCount).getD 0 = _
      rw [inductionHypothesis, Option.map_some, Option.getD_some, one, List.length_cons]
      omega

theorem mem_successes {userId : UserId} {entries : List TransactionEntry}
    {metrics : AnalysisMetrics} : metrics ∈ successes userId entries ↔
      Exists fun input : SaveAnalysisResultInput => .save input ∈ entries ∧
        input.userId = userId ∧ input.metrics = metrics := by
  simp only [successes, List.mem_filterMap]
  constructor
  · rintro ⟨entry, member, kept⟩
    split at kept
    · rename_i input
      split at kept
      · rename_i owner
        exact ⟨input, member, owner, Option.some.inj kept⟩
      · cases kept
    · cases kept
  · rintro ⟨input, member, owner, same⟩
    refine ⟨.save input, member, ?_⟩
    simp only [owner, same, if_true]

/-! ## Every run -/

/-- The committed statistic of a user. -/
def statistic (state : (isolated digest).State) (userId : UserId) : Option UserStat :=
  (storeOf state).committed.userStats.find? userId

section Runs

variable {first last : (isolated digest).State} {steps : List (isolated digest).Transition}
  (run : Machine.Execution first steps last) (idle : first.processes = [])
  (closed : (storeOf first).transactions = [])

include run idle closed

/-- After any run, the statistic of a user is what the committed analyses of
the user make of it, in the order of their commits. -/
theorem statistic_eq_countAll (userId : UserId) : statistic last userId =
    countAll userId (successes userId (committedEntries steps)) (statistic first userId) := by
  refine Execution.folds StatFacts.rule run TransactionEntry.program_obeys
    (fun _ _ _ => trivial) idle closed trivial
    (fun entries committed => committed.userStats.find? userId =
      countAll userId (successes userId entries) _) rfl ?_
  intro entries committed entry transaction id past _ facts permitted folded
  exact facts.commit permitted.2 folded

/-- The statistics lose no update and stay in range. -/
theorem statistics_lose_no_update (userId : UserId) :
    statistic last userId = countAll userId (successes userId (committedEntries steps))
      (statistic first userId) ∧
    ((statistic last userId).map UserStat.analysisCount).getD 0 =
      ((statistic first userId).map UserStat.analysisCount).getD 0 +
        (successes userId (committedEntries steps)).length ∧
    (forall key low high, ScoreWithin key low high (statistic first userId) ->
      (forall metrics, metrics ∈ successes userId (committedEntries steps) ->
        low ≤ metrics.score key ∧ metrics.score key ≤ high) ->
      ScoreWithin key low high (statistic last userId)) ∧
    ((forall key, ScoreWithin key 20 100 (statistic first userId)) ->
      (forall input : SaveAnalysisResultInput, .save input ∈ committedEntries steps ->
        input.userId = userId ->
        input.metrics = calculateMetrics input.result ∧ input.result.admitted = true) ->
      forall key, ScoreWithin key 20 100 (statistic last userId)) := by
  have folded := statistic_eq_countAll run idle closed userId
  refine ⟨folded, ?_, fun key low high within each => ?_, fun within each key => ?_⟩
  · rw [folded, analysisCount_countAll]
  · rw [folded]
    exact within.countAll each
  · rw [folded]
    refine (within key).countAll fun metrics member => ?_
    rcases mem_successes.mp member with ⟨input, committed, owner, rfl⟩
    rcases each input committed owner with ⟨value, admitted⟩
    rw [value]
    exact score_of_admitted admitted key

end Runs

/-! ## A race for the first row

Two analyses of one user overlap.  The second takes the lock first and commits
before the first may read. -/

def runningJob (jobId : JobId) (leaseToken : Uuid) : AnalysisJob :=
  { newJob ⟨1, 1, "key", .api 1 (.create "R1"), ⟨ANALYSIS_MODEL_VERSION, ANALYSIS_PROMPT_VERSION⟩,
      none, none⟩ ⟨0, 0, jobId⟩ with
    status := .running
    leaseToken := some leaseToken
    leaseExpiresAt := some 900000
    startedAt := some 0
    reservedTokens := some 1000 }

def busyDatabase : Database :=
  { smallDatabase with analysisJobs := ⟨[runningJob 1 101, runningJob 2 102], by decide +kernel⟩ }

/-- A result with the same score in all metrics. -/
def evenResult (score : Rat) : LlmAnalysisResult :=
  ⟨score, score, score, score, score, score, score, score⟩

def savedInput (jobId : JobId) (leaseToken : Uuid) (score : Rat) : SaveAnalysisResultInput where
  userId := 1
  repositoryId := 1
  jobId := jobId
  leaseToken := leaseToken
  reservedTokens := 1000
  usage := ⟨600, 400, 1000⟩
  providerRequestId := "request"
  result := evenResult score
  metrics := calculateMetrics (evenResult score)
  completionAction := none
  collected := ⟨"R1", "team", "project", "alice", [], ⟨none, 0⟩⟩

def busyState : (isolated fun _ => 0).State := ⟨⟨busyDatabase, []⟩, []⟩

def answeredChoice (generated : Nat) : (statements fun _ => 0).Choice :=
  .answered ⟨⟨1000, 1000, generated⟩, []⟩

/-- Take the lock, count the analysis, settle the job and commit. -/
def settleSteps (index : Nat) : List (isolated fun _ => 0).Label :=
  [.act index .granted, .act index (answeredChoice 0), .act index (answeredChoice 0),
    .act index (.read 1000), .act index (answeredChoice 0), .act index .granted]

def racingScript : List (isolated fun _ => 0).Label :=
  [.spawn (.save (savedInput 1 101 5)), .spawn (.save (savedInput 2 102 1)), .act 0 (.begun 1000),
    .act 1 (.begun 1000), .act 0 (answeredChoice 1), .act 1 (answeredChoice 2)] ++
    settleSteps 1 ++ settleSteps 0

theorem statistics_lose_no_update_racing :
    statistic (busyState.after racingScript) 1 = countAll 1
      [calculateMetrics (evenResult 1), calculateMetrics (evenResult 5)] none ∧
    ((statistic (busyState.after racingScript) 1).map UserStat.analysisCount).getD 0 = 2 ∧
    ScoreWithin .documentation 20 100 (statistic (busyState.after racingScript) 1) := by
  have run := @Machine.State.trace_execution _ _ busyState racingScript (by decide +kernel)
  have committed : successes 1 (committedEntries (busyState.trace racingScript)) =
      [calculateMetrics (evenResult 1), calculateMetrics (evenResult 5)] := by decide +kernel
  rcases statistics_lose_no_update run rfl rfl 1 with ⟨folded, counted, within, _⟩
  rw [committed] at folded counted within
  refine ⟨folded, counted, within .documentation 20 100 (fun row none => by cases none) ?_⟩
  decide +kernel

end GitMate
