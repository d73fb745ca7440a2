import GitMate.Guarantees.ActiveJobs

namespace GitMate

open Relational Interleaving Dialect

/-!
# The quota of new jobs

A creation over the API counts the jobs that its user has created in the last
minute and inserts its own in the same transaction, under the lock of the
user.  The count knows the start of the transaction as the present, however
long the transaction has waited since, so it may also see jobs that are
younger than this present.  They count as well, and the job that is inserted
is no older than the present.  Hence no minute ever holds more jobs than the
limit.
-/

variable {digest : String -> Int}

/-! ## Counting -/

/-- The rows that count against the rate limit of a user at the given
`CURRENT_TIMESTAMP`. -/
def countsAgainst (userId : UserId) (now : Instant) (job : AnalysisJob) : Bool :=
  job.userId == userId &&
    decide (now - ANALYSIS_JOB_CREATION_RATE_LIMIT_WINDOW_MS < job.createdAt) &&
    !job.isLegacyReport && !job.isSync

/-- The jobs that a user has created over the API in the minute from an
instant on. -/
def createdWithin (userId : UserId) (start : Instant) (job : AnalysisJob) : Bool :=
  job.userId == userId && decide (start ≤ job.createdAt) &&
    decide (job.createdAt < start + ANALYSIS_JOB_CREATION_RATE_LIMIT_WINDOW_MS) &&
    !job.isLegacyReport && !job.isSync

theorem countsAgainst_of_identity {userId : UserId} {now : Instant} {left right : AnalysisJob}
    (same : left.identity = right.identity) :
    countsAgainst userId now left = countsAgainst userId now right := by
  have owner : left.userId = right.userId := congrArg JobIdentity.userId same
  have keyed : left.idempotencyKey = right.idempotencyKey :=
    congrArg JobIdentity.idempotencyKey same
  have dated : left.createdAt = right.createdAt := congrArg JobIdentity.createdAt same
  simp only [countsAgainst, AnalysisJob.isLegacyReport, AnalysisJob.isSync, owner, keyed, dated]

theorem createdWithin_of_identity {userId : UserId} {start : Instant} {left right : AnalysisJob}
    (same : left.identity = right.identity) :
    createdWithin userId start left = createdWithin userId start right := by
  have owner : left.userId = right.userId := congrArg JobIdentity.userId same
  have keyed : left.idempotencyKey = right.idempotencyKey :=
    congrArg JobIdentity.idempotencyKey same
  have dated : left.createdAt = right.createdAt := congrArg JobIdentity.createdAt same
  simp only [createdWithin, AnalysisJob.isLegacyReport, AnalysisJob.isSync, owner, keyed, dated]

/-- A user is blocked exactly when the jobs that count reach the limit. -/
theorem isBlocked_iff {db : Database} {userId : UserId} {now : Instant} :
    (db.getCreationRateLimitStatus userId now).isBlocked = true ↔
      ANALYSIS_JOB_CREATION_RATE_LIMIT ≤ db.analysisJobs.countWhere (countsAgainst userId now) := by
  change decide (ANALYSIS_JOB_CREATION_RATE_LIMIT ≤ (db.recentJobs userId now).length) = true ↔ _
  rw [decide_eq_true_iff, Database.recentJobs, List.length_take, List.length_insertionSort,
    ← List.countP_eq_length_filter]
  exact Nat.le_min.trans (and_iff_right (Nat.le_refl _))

/-- No minute holds more new jobs of a user than the limit. -/
def WithinLimit (db : Database) : Prop :=
  forall userId start, db.analysisJobs.countWhere (createdWithin userId start) ≤
    ANALYSIS_JOB_CREATION_RATE_LIMIT

/-! ## What the count tells -/

/-- What was counted under the lock of the user stays true. -/
structure QuotaFacts (entry : TransactionEntry) (committed : Database)
    (transaction : OpenTransaction Database LockId Instant) (id : Nat) (past : Past digest) :
    Prop extends JobWrites entry committed transaction id past where
  counted : forall userId status, Acquired past id (.rateLimit userId) ->
    Answered past id (.query (.getCreationRateLimitStatus userId)) status ->
    status.isBlocked = false ->
    committed.analysisJobs.countWhere (countsAgainst userId transaction.begun) <
      ANALYSIS_JOB_CREATION_RATE_LIMIT

namespace JobWrites

variable {entry : TransactionEntry} {committed : Database}
  {transaction : OpenTransaction Database LockId Instant} {id : Nat} {past : Past digest}

/-- A test of the fixed columns counts the committed rows and the new ones. -/
theorem countWhere_overlay (writes : JobWrites entry committed transaction id past)
    (selects : AnalysisJob -> Bool)
    (fixed : forall {left right : AnalysisJob}, left.identity = right.identity ->
      selects left = selects right) :
    (committed.overlay transaction.written).analysisJobs.countWhere selects =
      committed.analysisJobs.countWhere selects +
        transaction.written.analysisJobs.countWhere fun row =>
          selects row && (committed.findJob row.id).isNone := by
  refine Table.countWhere_overlay fun row member old there => fixed ?_
  have found : transaction.written.findJob row.id = some row :=
    Table.find?_eq_some_iff.mpr ⟨member, rfl⟩
  exact (writes.kept row.id row old found there).identity

/-- A transaction inserts at most one row. -/
theorem countWhere_new_le_one (writes : JobWrites entry committed transaction id past)
    (selects : AnalysisJob -> Bool) :
    (transaction.written.analysisJobs.countWhere fun row =>
      selects row && (committed.findJob row.id).isNone) ≤ 1 := by
  rcases Nat.eq_zero_or_pos (transaction.written.analysisJobs.countWhere fun row =>
    selects row && (committed.findJob row.id).isNone) with none | new
  · rw [none]
    exact Nat.zero_le 1
  · rcases List.countP_pos_iff.mp new with ⟨first, member, counts⟩
    rw [Bool.and_eq_true, Option.isNone_iff_eq_none] at counts
    have names : Table.Names AnalysisJob.id
        (fun row => selects row && (committed.findJob row.id).isNone && row.id == first.id)
        first.id := by
      intro row selected
      exact eq_of_beq (Bool.and_eq_true_iff.mp selected).2
    have one : (transaction.written.analysisJobs.countWhere fun row =>
        selects row && (committed.findJob row.id).isNone && row.id == first.id) ≤ 1 :=
      Table.countWhere_le_one names
    refine Nat.le_trans (Nat.le_of_eq (List.countP_congr fun row rowMember => ?_)) one
    simp only [Bool.and_eq_true, Option.isNone_iff_eq_none, beq_iff_eq]
    refine ⟨fun counted => ⟨counted, ?_⟩, And.left⟩
    exact writes.single row.id first.id row first
      (Table.find?_eq_some_iff.mpr ⟨rowMember, rfl⟩) counted.2
      (Table.find?_eq_some_iff.mpr ⟨member, rfl⟩) counts.2

end JobWrites

/-- A new row that is not one of the synchronous path was inserted under the
lock of its user, whose quota was not exhausted. -/
theorem Creates.quota_of_api {past : Past digest} {id : Nat} {begun : Instant}
    {input : CreateAnalysisJobRecordInput} {row : AnalysisJob}
    (creates : Creates past id begun input row) (api : row.isSync = false) :
    Acquired past id (.rateLimit row.userId) ∧ Exists fun status =>
      Answered past id (.query (.getCreationRateLimitStatus row.userId)) status ∧
        status.isBlocked = false := by
  rw [creates.userId]
  refine creates.quota.resolve_left fun marked => ?_
  rw [AnalysisJob.isSync, creates.idempotencyKey, marked] at api
  cases api

namespace QuotaFacts

variable {entry : TransactionEntry} {committed : Database}
  {transaction : OpenTransaction Database LockId Instant} {id : Nat} {past : Past digest}

theorem begun {time : Instant}
    (fresh : forall event : Event (statements digest).interface, event ∈ past ->
      event.op.transaction ≠ some id ∧ grants event ≠ some id) :
    QuotaFacts entry committed ⟨time, [], Database.empty⟩ id (past ++ [⟨.begin, .ok id⟩]) := by
  refine ⟨JobWrites.begun fresh, fun userId status acquired => ?_⟩
  rcases acquired_append.mp acquired with before | same
  · exact absurd rfl (fresh _ before).1
  · cases same

/-- The lock of a user is taken before anything is counted. -/
theorem acquired {scope : LockScope} (facts : QuotaFacts entry committed transaction id past)
    (permitted : entry.Permits past (.acquire id scope)) :
    QuotaFacts entry committed
      { transaction with locks := scope.id digest :: transaction.locks } id
      (past ++ [⟨.acquire id scope, .ok ()⟩]) := by
  refine ⟨JobWrites.rule.acquired trivial facts.toJobWrites permitted,
    fun userId status acquired answered free => ?_⟩
  rcases answered_append.mp answered with asked | impossible
  · rcases acquired_append.mp acquired with before | now
    · exact facts.counted userId status before asked free
    · cases now
      exact absurd ⟨userId, status, asked⟩ (permitted.2.2 rfl)
  · cases impossible

theorem answered {asked : Statement} {reply : asked.Reply} {surroundings : StatementEnvironment}
    {after : Database} (facts : QuotaFacts entry committed transaction id past)
    (permitted : entry.Permits past (.statement id asked))
    (admitted : asked.admits transaction.begun surroundings = true)
    (ran : asked.run surroundings (committed.overlay transaction.written) = .ok (reply, after)) :
    QuotaFacts entry committed { transaction with
      written := transaction.written.overlay
        ((committed.overlay transaction.written).changes after) } id
      (past ++ [⟨.statement id asked, .ok reply⟩]) := by
  refine ⟨JobWrites.rule.answered trivial facts.toJobWrites permitted admitted ran,
    fun userId status acquired answered free => ?_⟩
  rcases acquired_append.mp acquired with held | impossible
  · rcases answered_append.mp answered with before | now
    · exact facts.counted userId status held before free
    · cases now
      simp only [Statement.run, Except.ok.injEq, Prod.mk.injEq] at ran
      have present : surroundings.environment.database = transaction.begun :=
        of_decide_eq_true admitted
      have counted : ((committed.overlay transaction.written).getCreationRateLimitStatus userId
          transaction.begun).isBlocked = false := by
        rw [← present]
        exact (congrArg AnalysisJobCreationRateLimitStatus.isBlocked ran.1).trans free
      have fewer := mt isBlocked_iff.mpr (Bool.eq_false_iff.mp counted)
      rw [facts.toJobWrites.countWhere_overlay _ countsAgainst_of_identity] at fewer
      exact Nat.lt_of_le_of_lt (Nat.le_add_right _ _) (Nat.lt_of_not_le fewer)
  · cases impossible

/-- Nobody else creates jobs of a user whose lock is held. -/
theorem others {rival : OpenTransaction Database LockId Instant} {committing : TransactionEntry}
    {another : Nat} {seen : Past digest}
    (facts : QuotaFacts entry committed transaction id past)
    (theirs : QuotaFacts committing committed rival another seen)
    (locks : forall lock, lock ∈ transaction.locks -> lock ∉ rival.locks)
    (apart : transaction.written.separate rival.written = true) :
    QuotaFacts entry (committed.overlay rival.written) transaction id past := by
  refine ⟨facts.toJobWrites.others apart, fun userId status acquired answered free => ?_⟩
  rw [theirs.toJobWrites.countWhere_overlay _ countsAgainst_of_identity]
  have none : (rival.written.analysisJobs.countWhere fun row =>
      countsAgainst userId transaction.begun row && (committed.findJob row.id).isNone) = 0 := by
    refine List.countP_eq_zero.mpr fun row member counts => ?_
    simp only [countsAgainst, Bool.and_eq_true, Option.isNone_iff_eq_none, beq_iff_eq,
      Bool.not_eq_true'] at counts
    rcases counts with ⟨⟨⟨⟨owner, _⟩, _⟩, api⟩, absent⟩
    have found : rival.written.findJob row.id = some row :=
      Table.find?_eq_some_iff.mpr ⟨member, rfl⟩
    rcases theirs.created row.id row found absent with ⟨input, creates⟩
    have locked := (creates.quota_of_api api).1
    rw [owner] at locked
    exact locks _ (facts.held _ acquired) (theirs.held _ locked)
  rw [none, Nat.add_zero]
  exact facts.counted userId status acquired answered free

/-- A commit fills no minute beyond the limit. -/
theorem commits (facts : QuotaFacts entry committed transaction id past)
    (within : WithinLimit committed) :
    WithinLimit (committed.overlay transaction.written) := by
  intro userId start
  rw [facts.toJobWrites.countWhere_overlay (createdWithin userId start)
    createdWithin_of_identity]
  have one := facts.toJobWrites.countWhere_new_le_one (createdWithin userId start)
  rcases Nat.eq_zero_or_pos (transaction.written.analysisJobs.countWhere fun row =>
    createdWithin userId start row && (committed.findJob row.id).isNone) with none | new
  · rw [none, Nat.add_zero]
    exact within userId start
  · rcases List.countP_pos_iff.mp new with ⟨row, member, counts⟩
    simp only [createdWithin, Bool.and_eq_true, Option.isNone_iff_eq_none, beq_iff_eq,
      decide_eq_true_eq, Bool.not_eq_true'] at counts
    rcases counts with ⟨⟨⟨⟨⟨owner, later⟩, earlier⟩, _⟩, api⟩, absent⟩
    have found : transaction.written.findJob row.id = some row :=
      Table.find?_eq_some_iff.mpr ⟨member, rfl⟩
    rcases facts.created row.id row found absent with ⟨input, creates⟩
    rcases creates.quota_of_api api with ⟨acquired, status, answered, free⟩
    rw [owner] at acquired answered
    have counted := facts.counted userId status acquired answered free
    -- Whatever shares a minute with the new job was counted.
    have fewer : committed.analysisJobs.countWhere (createdWithin userId start) ≤
        committed.analysisJobs.countWhere (countsAgainst userId transaction.begun) := by
      refine List.countP_mono_left fun other _ counts => ?_
      simp only [createdWithin, Bool.and_eq_true, decide_eq_true_eq] at counts
      simp only [countsAgainst, Bool.and_eq_true, decide_eq_true_eq]
      rcases counts with ⟨⟨⟨⟨owned, since⟩, _⟩, kept⟩, unsynced⟩
      have younger : transaction.begun - ANALYSIS_JOB_CREATION_RATE_LIMIT_WINDOW_MS < start :=
        Int.lt_of_le_of_lt (Int.sub_le_sub_right creates.recent _)
          (Int.sub_right_lt_of_lt_add earlier)
      exact ⟨⟨⟨owned, Int.lt_of_lt_of_le younger since⟩, kept⟩, unsynced⟩
    omega

theorem rule : (statements digest).TransactionRule (TransactionEntry.conduct digest)
    WithinLimit QuotaFacts where
  owning permitted concerns := Permits.owning permitted concerns
  begun _ unseen := QuotaFacts.begun unseen
  acquired _ facts permitted := facts.acquired permitted
  answered _ facts permitted admitted ran := facts.answered permitted admitted ran
  idle {entry committed transaction id past event} facts permitted silent := by
    refine ⟨JobWrites.rule.idle facts.toJobWrites permitted silent,
      fun userId status acquired answered free => ?_⟩
    rcases acquired_append.mp acquired with held | same
    · rcases answered_append.mp answered with before | now
      · exact facts.counted userId status held before free
      · subst now
        exact absurd rfl silent
    · subst same
      exact absurd rfl silent
  others _ facts theirs _ locks apart := facts.others theirs locks apart
  commits within facts _ := facts.commits within

end QuotaFacts

/-! ## Every run -/

/-- However creations interleave and wait for their locks, no minute ever
holds more jobs that a user has created over the API than the limit. -/
theorem quota_kept {first last : (isolated digest).State}
    {steps : List (isolated digest).Transition} (run : Machine.Execution first steps last)
    (idle : first.processes = []) (closed : (storeOf first).transactions = [])
    (initially : WithinLimit (storeOf first).committed) : WithinLimit (storeOf last).committed :=
  (Execution.sound QuotaFacts.rule run TransactionEntry.program_obeys (fun _ _ _ => trivial)
    idle closed initially).keeps

theorem quota_kept_racing :
    WithinLimit (storeOf ((creationState [] (by decide)).after racingCreations)).committed := by
  have run := @Machine.State.trace_execution _ _ (creationState [] (by decide)) racingCreations
    (by decide +kernel)
  exact quota_kept run rfl rfl fun userId start => Nat.zero_le _

end GitMate
