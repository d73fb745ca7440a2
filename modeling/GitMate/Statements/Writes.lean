import GitMate.Statements.Obedience
import GitMate.Statements.Effects

namespace GitMate

open Relational Interleaving Dialect

/-!
# What a transaction has written to the jobs

The versions of job rows that an open transaction holds, related to the rows
that are committed.  A version of a committed row continues an active row; a
new row was inserted after the checks of the creation, and there is at most
one.  All of this outlives the commits of the others, because nobody else
holds a version of the same row.
-/

variable {digest : String -> Int}

/-! ## Versions after a statement -/

/-- The version of a row that a transaction holds after a statement. -/
theorem Effect.written_findJob {surroundings : StatementEnvironment}
    {committed written after : Database} {asked : Statement}
    (effect : Effect surroundings (committed.overlay written) asked after) (jobId : JobId) :
    (written.overlay ((committed.overlay written).changes after)).findJob jobId =
      written.findJob jobId ∨
    (Exists fun old => Exists fun row => (committed.overlay written).findJob jobId = some old ∧
      (written.overlay ((committed.overlay written).changes after)).findJob jobId = some row ∧
      Rewrites surroundings (committed.overlay written) asked old row) ∨
    (Exists fun input => asked = .createJob input ∧
      (committed.overlay written).findJob jobId = none ∧
      (written.overlay ((committed.overlay written).changes after)).findJob jobId =
        some (newJob input surroundings.environment) ∧
      (newJob input surroundings.environment).id = jobId) := by
  have placed : (written.overlay ((committed.overlay written).changes after)).findJob jobId =
      if (committed.overlay written).findJob jobId = after.findJob jobId then
        written.findJob jobId
      else after.findJob jobId := by
    refine Table.find?_rewritten (fun other missing => ?_) jobId
    change (committed.overlay written).findJob other = none
    rcases effect.findJob other with same | ⟨_, row, _, found, _⟩ | ⟨_, _, absent, _⟩
    · exact same.symm.trans missing
    · cases found.symm.trans missing
    · exact absent
  rcases effect.findJob jobId with same | ⟨old, row, found, rewritten, rewrites⟩ |
    ⟨input, inserts, absent, inserted, named⟩
  · exact Or.inl (placed.trans (if_pos same.symm))
  · by_cases same : (committed.overlay written).findJob jobId = after.findJob jobId
    · exact Or.inl (placed.trans (if_pos same))
    · exact Or.inr (Or.inl ⟨old, row, found, (placed.trans (if_neg same)).trans rewritten, rewrites⟩)
  · have different : (committed.overlay written).findJob jobId ≠ after.findJob jobId := by
      rw [absent, inserted]
      exact fun same => by cases same
    exact Or.inr (Or.inr ⟨input, inserts, absent,
      (placed.trans (if_neg different)).trans inserted, named⟩)

theorem Database.findJob_overlay {committed written : Database} (jobId : JobId) :
    (committed.overlay written).findJob jobId =
      (written.findJob jobId).or (committed.findJob jobId) := Table.find?_overlay jobId

/-! ## Facts of an open transaction -/

/-- How a transaction may have changed a committed row. -/
inductive Changes (entry : TransactionEntry) (past : Past digest) (id : Nat) :
    AnalysisJob -> AnalysisJob -> Prop where
  | recoveredUnreserved {old : AnalysisJob} {completedAt : Instant} (creates : entry.creates = true)
      (read : ReadUnder past id (.repository old.repositoryId) completedAt)
      (stale : isStaleUnreserved old.repositoryId completedAt old = true) :
      Changes entry past id old (failStaleUnreserved completedAt old)
  | recoveredReserved {old : AnalysisJob} {completedAt : Instant} (creates : entry.creates = true)
      (read : ReadUnder past id (.repository old.repositoryId) completedAt)
      (stale : isStaleReserved old.repositoryId completedAt old = true) :
      Changes entry past id old (failStaleReserved completedAt old)
  | updated {old row : AnalysisJob} (settles : entry.creates = false)
      (active : old.isActive = true) (same : row.identity = old.identity) :
      Changes entry past id old row

/-- A row that a transaction has inserted. -/
structure Creates (past : Past digest) (id : Nat) (begun : Instant)
    (input : CreateAnalysisJobRecordInput) (row : AnalysisJob) : Prop where
  inserted : Inserted past id
  vacant : Answered past id (.findActiveJob input.repositoryId) none
  quota : TransactionEntry.WithinQuota past id input
  userId : row.userId = input.userId
  repositoryId : row.repositoryId = input.repositoryId
  idempotencyKey : row.idempotencyKey = input.idempotencyKey
  recent : begun ≤ row.createdAt

structure JobWrites (entry : TransactionEntry) (committed : Database)
    (transaction : OpenTransaction Database LockId Instant) (id : Nat) (past : Past digest) :
    Prop where
  held : forall scope, Acquired past id scope -> scope.id digest ∈ transaction.locks
  kept : forall jobId row old, transaction.written.findJob jobId = some row ->
    committed.findJob jobId = some old -> Changes entry past id old row
  created : forall jobId row, transaction.written.findJob jobId = some row ->
    committed.findJob jobId = none -> Exists fun input =>
      Creates past id transaction.begun input row
  single : forall one other left right, transaction.written.findJob one = some left ->
    committed.findJob one = none -> transaction.written.findJob other = some right ->
    committed.findJob other = none -> one = other

section Growth

variable {entry : TransactionEntry} {past : Past digest} {id : Nat}
  {event : Event (statements digest).interface}

theorem Changes.append {old row : AnalysisJob} (changes : Changes entry past id old row) :
    Changes entry (past ++ [event]) id old row := by
  cases changes with
  | recoveredUnreserved creates read stale =>
      exact .recoveredUnreserved creates (read.mono (List.prefix_append _ _)) stale
  | recoveredReserved creates read stale =>
      exact .recoveredReserved creates (read.mono (List.prefix_append _ _)) stale
  | updated settles active same => exact .updated settles active same

theorem Changes.active {old row : AnalysisJob} (changes : Changes entry past id old row) :
    old.isActive = true := by
  cases changes with
  | recoveredUnreserved creates read stale =>
      refine AnalysisJob.isActive_iff.mpr ?_
      exact (isStaleUnreserved_spec stale).2.2.2.imp And.left And.left
  | recoveredReserved creates read stale =>
      exact AnalysisJob.isActive_iff.mpr (Or.inr (isStaleReserved_spec stale).2.1)
  | updated settles active same => exact active

theorem Changes.identity {old row : AnalysisJob} (changes : Changes entry past id old row) :
    row.identity = old.identity := by
  cases changes with
  | recoveredUnreserved | recoveredReserved => rfl
  | updated settles active same => exact same

/-- A recovered row is no longer active. -/
theorem Changes.settles {old row : AnalysisJob} (changes : Changes entry past id old row)
    (active : row.isActive = true) : entry.creates = false := by
  cases changes with
  | recoveredUnreserved | recoveredReserved => cases active
  | updated settles active same => exact settles

theorem Creates.append {begun : Instant} {input : CreateAnalysisJobRecordInput}
    {row : AnalysisJob} (creates : Creates past id begun input row) :
    Creates (past ++ [event]) id begun input row where
  inserted := inserted_append.mpr (Or.inl creates.inserted)
  vacant := answered_append.mpr (Or.inl creates.vacant)
  quota := creates.quota.mono (List.prefix_append _ _)
  userId := creates.userId
  repositoryId := creates.repositoryId
  idempotencyKey := creates.idempotencyKey
  recent := creates.recent

theorem Creates.rewritten {begun : Instant} {input : CreateAnalysisJobRecordInput}
    {row later : AnalysisJob} (creates : Creates past id begun input row)
    (same : later.identity = row.identity) : Creates past id begun input later where
  inserted := creates.inserted
  vacant := creates.vacant
  quota := creates.quota
  userId := (congrArg JobIdentity.userId same).trans creates.userId
  repositoryId := (congrArg JobIdentity.repositoryId same).trans creates.repositoryId
  idempotencyKey := (congrArg JobIdentity.idempotencyKey same).trans creates.idempotencyKey
  recent := by
    have unmoved : later.createdAt = row.createdAt := congrArg JobIdentity.createdAt same
    rw [unmoved]
    exact creates.recent

end Growth

namespace JobWrites

variable {entry : TransactionEntry} {committed : Database}
  {transaction : OpenTransaction Database LockId Instant} {id : Nat} {past : Past digest}

theorem begun {time : Instant}
    (fresh : forall event : Event (statements digest).interface, event ∈ past ->
      event.op.transaction ≠ some id ∧ grants event ≠ some id) :
    JobWrites entry committed ⟨time, [], Database.empty⟩ id (past ++ [⟨.begin, .ok id⟩]) where
  held scope acquired := by
    rcases acquired_append.mp acquired with before | same
    · exact absurd rfl (fresh _ before).1
    · cases same
  kept jobId row old found := by cases found
  created jobId row found := by cases found
  single one other left right found := by cases found

/-- An event that is neither a lock nor an answer changes nothing. -/
theorem more {event : Event (statements digest).interface}
    {next : OpenTransaction Database LockId Instant}
    (writes : JobWrites entry committed transaction id past)
    (same : next.written = transaction.written) (since : next.begun = transaction.begun)
    (longer : forall lock, lock ∈ transaction.locks -> lock ∈ next.locks)
    (locked : forall scope, event = ⟨.acquire id scope, .ok ()⟩ -> scope.id digest ∈ next.locks) :
    JobWrites entry committed next id (past ++ [event]) where
  held scope acquired := by
    rcases acquired_append.mp acquired with before | now
    · exact longer _ (writes.held scope before)
    · exact locked scope now
  kept jobId row old found there := by
    rw [same] at found
    exact (writes.kept jobId row old found there).append
  created jobId row found absent := by
    rw [same] at found
    rw [since]
    exact (writes.created jobId row found absent).imp fun _ creates => creates.append
  single one other left right leftFound leftNew rightFound rightNew := by
    rw [same] at leftFound rightFound
    exact writes.single one other left right leftFound leftNew rightFound rightNew

/-- What a transaction sees of a row that is committed. -/
theorem view_kept {jobId : JobId} {row old : AnalysisJob}
    (writes : JobWrites entry committed transaction id past)
    (seen : (committed.overlay transaction.written).findJob jobId = some row)
    (there : committed.findJob jobId = some old) :
    row = old ∨ Changes entry past id old row := by
  rw [Database.findJob_overlay] at seen
  cases written : transaction.written.findJob jobId with
  | none =>
      rw [written, Option.none_or] at seen
      exact Or.inl (Option.some.inj (seen.symm.trans there))
  | some version =>
      rw [written, Option.some_or] at seen
      cases seen
      exact Or.inr (writes.kept jobId row old written there)

/-- A statement that rewrites a row continues what the transaction has made of
the row. -/
theorem rewrites {surroundings : StatementEnvironment} {asked : Statement} {jobId : JobId}
    {seen row old : AnalysisJob} (writes : JobWrites entry committed transaction id past)
    (issues : entry.Issues past id asked)
    (found : (committed.overlay transaction.written).findJob jobId = some seen)
    (rewrites : Rewrites surroundings (committed.overlay transaction.written) asked seen row)
    (there : committed.findJob jobId = some old) : Changes entry past id old row := by
  have origin := writes.view_kept found there
  have active : old.isActive = true := by
    rcases origin with rfl | changes
    · exact rewrites.active
    · exact changes.active
  have same : row.identity = old.identity := by
    rcases origin with rfl | changes
    · exact rewrites.identity
    · exact rewrites.identity.trans changes.identity
  cases entryCreates : entry.creates with
  | false => exact .updated entryCreates active same
  | true =>
      -- A recovered row is inactive and is not rewritten a second time.
      have untouched : seen = old := by
        rcases origin with rfl | changes
        · rfl
        · cases entryCreates.symm.trans (changes.settles rewrites.active)
      subst untouched
      cases rewrites with
      | recoveredUnreserved stale =>
          have named := (isStaleUnreserved_spec stale).1
          subst named
          exact .recoveredUnreserved issues.1 issues.2 stale
      | recoveredReserved stale =>
          have named := (isStaleReserved_spec stale).1
          subst named
          exact .recoveredReserved issues.1 issues.2 stale
      | updated written guarded =>
          cases asked with
          | updateJob | reserveJob | settleJob =>
              cases issues
              cases entryCreates
          | transitionJob input =>
              rcases issues with ⟨_, _, rfl, _⟩ | ⟨_, _, _, rfl, _⟩
              · cases entryCreates
              · cases entryCreates
          | query | failStaleUnreserved | failStaleReserved | findActiveJob | createJob | findJob
          | debitTokens | incrementTokens | createReport | findStat | createStat | updateStat
          | complete | upsertRepository => cases written

/-- A statement is answered. -/
theorem answered {asked : Statement} {reply : asked.Reply} {surroundings : StatementEnvironment}
    {after : Database} (writes : JobWrites entry committed transaction id past)
    (issues : entry.Issues past id asked)
    (admitted : asked.admits transaction.begun surroundings = true)
    (ran : asked.run surroundings (committed.overlay transaction.written) = .ok (reply, after)) :
    JobWrites entry committed { transaction with
      written := transaction.written.overlay
        ((committed.overlay transaction.written).changes after) } id
      (past ++ [⟨.statement id asked, .ok reply⟩]) := by
  have written := fun jobId => (Statement.effect ran).written_findJob jobId
  have seen : forall {jobId : JobId}, committed.findJob jobId = none ->
      (committed.overlay transaction.written).findJob jobId =
        transaction.written.findJob jobId := by
    intro jobId absent
    rw [Database.findJob_overlay, absent, Option.or_none]
  -- A new row is one of before or the row that is being inserted.
  have fresh : forall {jobId : JobId} {row : AnalysisJob}, committed.findJob jobId = none ->
      (transaction.written.overlay
        ((committed.overlay transaction.written).changes after)).findJob jobId = some row ->
      (Exists fun version => transaction.written.findJob jobId = some version) ∨
        Exists fun input => asked = .createJob input ∧
          (newJob input surroundings.environment).id = jobId := by
    intro jobId row absent found
    rcases written jobId with same | ⟨old, _, there, _⟩ | ⟨input, inserts, _, _, named⟩
    · exact Or.inl ⟨row, same.symm.trans found⟩
    · exact Or.inl ⟨old, (seen absent).symm.trans there⟩
    · exact Or.inr ⟨input, inserts, named⟩
  constructor
  · intro scope acquired
    rcases acquired_append.mp acquired with before | now
    · exact writes.held scope before
    · cases now
  · intro jobId row old found there
    rcases written jobId with same | ⟨version, later, here, rewritten, rewrites⟩ | ⟨_, _, none, _⟩
    · exact (writes.kept jobId row old (same.symm.trans found) there).append
    · cases rewritten.symm.trans found
      exact (writes.rewrites issues here rewrites there).append
    · rw [Database.findJob_overlay, there] at none
      cases version : transaction.written.findJob jobId with
      | none => rw [version] at none; cases none
      | some version' => rw [version] at none; cases none
  · intro jobId row found absent
    rcases written jobId with same | ⟨version, later, here, rewritten, rewrites⟩ |
      ⟨input, rfl, _, inserted, _⟩
    · exact (writes.created jobId row (same.symm.trans found) absent).imp
        fun _ creates => creates.append
    · cases rewritten.symm.trans found
      exact (writes.created jobId version ((seen absent).symm.trans here) absent).imp
        fun _ creates => (creates.rewritten rewrites.identity).append
    · cases inserted.symm.trans found
      rcases issues with ⟨_, _, vacant, quota⟩
      refine ⟨input, inserted_append.mpr (Or.inr ⟨input, reply, rfl⟩),
        answered_append.mpr (Or.inl vacant), quota.mono (List.prefix_append _ _), rfl, rfl, rfl, ?_⟩
      exact of_decide_eq_true admitted
  · intro one other left right leftFound leftNew rightFound rightNew
    have first : forall {jobId : JobId} {input : CreateAnalysisJobRecordInput},
        asked = .createJob input -> committed.findJob jobId = none ->
        transaction.written.findJob jobId = none := by
      rintro jobId input rfl absent
      cases version : transaction.written.findJob jobId with
      | none => rfl
      | some row =>
          rcases writes.created jobId row version absent with ⟨_, creates⟩
          exact absurd creates.inserted issues.2.1
    rcases fresh leftNew leftFound with ⟨_, leftOld⟩ | ⟨input, inserts, leftNamed⟩
    · rcases fresh rightNew rightFound with ⟨_, rightOld⟩ | ⟨input, inserts, _⟩
      · exact writes.single one other _ _ leftOld leftNew rightOld rightNew
      · cases (first inserts leftNew).symm.trans leftOld
    · rcases fresh rightNew rightFound with ⟨_, rightOld⟩ | ⟨input', inserts', rightNamed⟩
      · cases (first inserts rightNew).symm.trans rightOld
      · cases inserts.symm.trans inserts'
        exact leftNamed.symm.trans rightNamed

/-- The rows that a transaction has versions of are the same for it after the
commit of another. -/
theorem unmoved {rival : OpenTransaction Database LockId Instant} {jobId : JobId}
    {row : AnalysisJob} (apart : transaction.written.separate rival.written = true)
    (found : transaction.written.findJob jobId = some row) :
    (committed.overlay rival.written).findJob jobId = committed.findJob jobId := by
  simp only [Database.separate, Bool.and_eq_true] at apart
  have jobs := (Table.separate_iff.mp apart.1.1.1.2) jobId
  rcases jobs with none | none
  · cases none.symm.trans found
  · rw [Database.findJob_overlay]
    change (rival.written.analysisJobs.find? jobId).or _ = _
    rw [none, Option.none_or]

theorem others {rival : OpenTransaction Database LockId Instant}
    (writes : JobWrites entry committed transaction id past)
    (apart : transaction.written.separate rival.written = true) :
    JobWrites entry (committed.overlay rival.written) transaction id past where
  held := writes.held
  kept jobId row old found there :=
    writes.kept jobId row old found ((unmoved apart found).symm.trans there)
  created jobId row found absent :=
    writes.created jobId row found ((unmoved apart found).symm.trans absent)
  single one other left right leftFound leftNew rightFound rightNew :=
    writes.single one other left right leftFound ((unmoved apart leftFound).symm.trans leftNew)
      rightFound ((unmoved apart rightFound).symm.trans rightNew)

/-- The facts hold of every transaction at all times. -/
theorem rule : (statements digest).TransactionRule (TransactionEntry.conduct digest)
    (fun _ => True) JobWrites where
  owning permitted concerns := Permits.owning permitted concerns
  begun _ unseen := JobWrites.begun unseen
  acquired {entry committed transaction id past scope} _ writes permitted := by
    refine writes.more rfl rfl (fun _ holds => List.mem_cons_of_mem _ holds) fun other same => ?_
    cases same
    exact List.mem_cons_self
  answered _ writes permitted admitted ran := writes.answered permitted.2 admitted ran
  idle {entry committed transaction id past event} writes permitted silent := by
    refine writes.more rfl rfl (fun _ holds => holds) fun scope same => ?_
    subst same
    exact absurd rfl silent
  others _ writes _ _ _ apart := writes.others apart
  commits _ _ _ := trivial

end JobWrites
end GitMate
