import GitMate.Statements.Transactions

namespace GitMate

open Relational Interleaving Dialect

/-!
# What the transactions do

The programs of the transactions, summarized once: which statements a process
issues, given the entry it was started for and the replies it has had.  A job
is inserted only after the locks were taken, the stale jobs were recovered, no
active job was left and, over the API, the rate limit was not reached; a
statistic is written only with what was read of it under the lock of the user;
and locks are taken in one order.
-/

variable {digest : String -> Int}

/-- What a process has done and been told. -/
abbrev Past (digest : String -> Int) : Type := History (statements digest).interface

abbrev Act (digest : String -> Int) : Type := (statements digest).Op

/-! ## What a history tells -/

section Past

variable (past : Past digest) (id : Nat)

def Acquired (scope : LockScope) : Prop :=
  (⟨.acquire id scope, .ok ()⟩ : Event (statements digest).interface) ∈ past

def Answered (statement : Statement) (reply : statement.Reply) : Prop :=
  (⟨.statement id statement, .ok reply⟩ : Event (statements digest).interface) ∈ past

/-- The process has read its clock while the transaction held a lock. -/
def ReadUnder (scope : LockScope) (instant : Instant) : Prop :=
  Exists fun front => Exists fun back => past = front ++ back ∧ Acquired front id scope ∧
    (⟨.now, .ok instant⟩ : Event (statements digest).interface) ∈ back

/-- The transaction has inserted a job. -/
def Inserted : Prop :=
  Exists fun input => Exists fun job => Answered past id (.createJob input) job

/-- The transaction has counted the recent jobs of some user. -/
def Counted : Prop :=
  Exists fun userId => Exists fun status =>
    Answered past id (.query (.getCreationRateLimitStatus userId)) status

/-- The transaction has written a statistic. -/
def Scored : Prop :=
  (Exists fun userId => Exists fun metrics => Answered past id (.createStat userId metrics) ()) ∨
    Exists fun userId => Exists fun scores => Answered past id (.updateStat userId scores) ()

end Past

/-- The order in which locks are taken. -/
def LockScope.rank : LockScope -> Nat
  | .idempotency .. => 0
  | .rateLimit _ => 1
  | .repository _ => 2
  | .userStat _ => 3

/-! ## What an entry issues -/

namespace TransactionEntry

/-- The entries that create jobs. -/
def creates : TransactionEntry -> Bool
  | .create .. | .retry .. | .sync .. => true
  | .update _ | .reserve _ | .terminate _ | .save _ | .settle _ | .upsertRepository .. => false

/-- The quota was not exhausted when it was counted under the lock of the
user, or the job is a synchronous one. -/
def WithinQuota (past : Past digest) (id : Nat) (input : CreateAnalysisJobRecordInput) : Prop :=
  startsWith input.idempotencyKey "sync:" = true ∨
    Acquired past id (.rateLimit input.userId) ∧ Exists fun status =>
      Answered past id (.query (.getCreationRateLimitStatus input.userId)) status ∧
        status.isBlocked = false

def Transitions (entry : TransactionEntry) (past : Past digest) (id : Nat)
    (input : TransitionAnalysisJobInput) : Prop :=
  (Exists fun terminated => Exists fun paid => entry = .terminate terminated ∧
    input = terminated.transition paid) ∨
  Exists fun saved => Exists fun reportId => Exists fun completedAt => entry = .save saved ∧
    Answered past id (.createReport saved) reportId ∧
    input = saved.transition reportId completedAt

/-- The statements that a process issues in a transaction. -/
def Issues (entry : TransactionEntry) (past : Past digest) (id : Nat) : Statement -> Prop
  | .query _ => True
  | .findJob _ => True
  | .failStaleUnreserved repositoryId completedAt =>
      entry.creates = true ∧ ReadUnder past id (.repository repositoryId) completedAt
  | .failStaleReserved repositoryId completedAt =>
      entry.creates = true ∧ ReadUnder past id (.repository repositoryId) completedAt
  | .findActiveJob repositoryId =>
      entry.creates = true ∧ Acquired past id (.repository repositoryId) ∧ ¬Inserted past id
  | .createJob input => entry.creates = true ∧ ¬Inserted past id ∧
      Answered past id (.findActiveJob input.repositoryId) none ∧ WithinQuota past id input
  | .updateJob change => entry = .update change
  | .transitionJob input => entry.Transitions past id input
  | .reserveJob input => entry = .reserve input
  | .settleJob input => entry = .settle input
  | .debitTokens _ _ => True
  | .incrementTokens _ amount => 0 < amount
  | .createReport input => entry = .save input ∧
      forall reportId, ¬Answered past id (.createReport input) reportId
  | .findStat userId => (Exists fun input => entry = .save input ∧ input.userId = userId) ∧
      Acquired past id (.userStat userId) ∧ ¬Scored past id
  | .createStat userId metrics => ¬Scored past id ∧ (Exists fun input => entry = .save input ∧
      input.userId = userId ∧ input.metrics = metrics) ∧ Answered past id (.findStat userId) none
  | .updateStat userId scores => ¬Scored past id ∧ Exists fun input => Exists fun stat =>
      entry = .save input ∧ input.userId = userId ∧ scores = stat.scores.weighted input.metrics ∧
        Answered past id (.findStat userId) (some stat)
  | .complete _ => True
  | .upsertRepository .. => True

/-- What has been done before a commit. -/
def Finishes (entry : TransactionEntry) (past : Past digest) (id : Nat) : Prop :=
  forall input, entry = .save input -> Scored past id ∧ Exists fun reportId =>
    Exists fun completedAt => Answered past id (.createReport input) reportId ∧
      Answered past id (.transitionJob (input.transition reportId completedAt)) true

def Permits (entry : TransactionEntry) (past : Past digest) : Act digest -> Prop
  | .begin => True
  | .now => True
  | .acquire id scope => Owns past id ∧ (forall other (held : LockScope),
      Acquired past other held -> held.rank < scope.rank) ∧ (scope.rank = 1 -> ¬Counted past id)
  | .statement id asked => Owns past id ∧ entry.Issues past id asked
  | .commit id => Owns past id ∧ entry.Finishes past id
  | .rollback id => Owns past id

/-- The discipline of an entry; nothing is assumed of the replies. -/
def conduct (digest : String -> Int) (entry : TransactionEntry) :
    Discipline (statements digest).interface where
  Permits := entry.Permits
  Credible _ _ := True

end TransactionEntry

/-! ## Histories that grow -/

section Growth

variable {past later : Past digest} {event : Event (statements digest).interface} {id : Nat}

theorem acquired_append {scope : LockScope} : Acquired (past ++ [event]) id scope ↔
    Acquired past id scope ∨ event = ⟨.acquire id scope, .ok ()⟩ := by
  rw [Acquired, List.mem_append, List.mem_singleton]
  exact or_congr_right eq_comm

theorem answered_append {asked : Statement} {reply : asked.Reply} :
    Answered (past ++ [event]) id asked reply ↔
      Answered past id asked reply ∨ event = ⟨.statement id asked, .ok reply⟩ := by
  rw [Answered, List.mem_append, List.mem_singleton]
  exact or_congr_right eq_comm

/-- An event other than an answered insertion inserts nothing. -/
theorem inserted_append : Inserted (past ++ [event]) id ↔ Inserted past id ∨
    Exists fun input => Exists fun job : AnalysisJob =>
      event = ⟨.statement id (.createJob input), .ok job⟩ := by
  simp only [Inserted, answered_append, exists_or]

theorem not_inserted_append (absent : ¬Inserted past id)
    (other : forall input job, event ≠ ⟨.statement id (.createJob input), .ok job⟩) :
    ¬Inserted (past ++ [event]) id := by
  intro inserted
  rcases inserted_append.mp inserted with before | ⟨input, job, same⟩
  · exact absent before
  · exact other input job same

theorem counted_append : Counted (past ++ [event]) id ↔ Counted past id ∨
    Exists fun userId => Exists fun status : AnalysisJobCreationRateLimitStatus =>
      event = ⟨.statement id (.query (.getCreationRateLimitStatus userId)), .ok status⟩ := by
  simp only [Counted, answered_append, exists_or]

theorem scored_append : Scored (past ++ [event]) id ↔ Scored past id ∨
    ((Exists fun userId => Exists fun metrics =>
        event = ⟨.statement id (.createStat userId metrics), .ok ()⟩) ∨
      Exists fun userId => Exists fun scores =>
        event = ⟨.statement id (.updateStat userId scores), .ok ()⟩) := by
  simp only [Scored, answered_append, exists_or]
  exact or_or_or_comm

theorem Acquired.mono {scope : LockScope} (acquired : Acquired past id scope)
    (extended : past <+: later) : Acquired later id scope := extended.subset acquired

theorem Answered.mono {asked : Statement} {reply : asked.Reply}
    (answered : Answered past id asked reply) (extended : past <+: later) :
    Answered later id asked reply := extended.subset answered

theorem ReadUnder.mono {scope : LockScope} {instant : Instant}
    (read : ReadUnder past id scope instant) (extended : past <+: later) :
    ReadUnder later id scope instant := by
  rcases read with ⟨front, back, rfl, acquired, told⟩
  rcases extended with ⟨more, rfl⟩
  exact ⟨front, back ++ more, List.append_assoc _ _ _, acquired, List.mem_append_left _ told⟩

theorem ReadUnder.acquired {scope : LockScope} {instant : Instant}
    (read : ReadUnder past id scope instant) : Acquired past id scope := by
  rcases read with ⟨front, back, rfl, acquired, _⟩
  exact List.mem_append_left _ acquired

theorem owns_mono (owns : Owns past id) (extended : past <+: later) : Owns later id :=
  extended.subset owns

theorem TransactionEntry.WithinQuota.mono {input : CreateAnalysisJobRecordInput}
    (quota : WithinQuota past id input) (extended : past <+: later) :
    WithinQuota later id input :=
  quota.imp_right fun ⟨acquired, status, answered, free⟩ =>
    ⟨acquired.mono extended, status, answered.mono extended, free⟩

end Growth

/-! ## The programs keep to it -/

open TransactionEntry in
theorem Permits.owning {entry : TransactionEntry} {past : Past digest} {op : Act digest} {id : Nat}
    (permitted : entry.Permits past op) (concerns : op.transaction = some id) : Owns past id := by
  cases op with
  | begin | now => cases concerns
  | acquire of scope =>
      cases concerns
      exact permitted.1
  | statement of asked =>
      cases concerns
      exact permitted.1
  | commit of =>
      cases concerns
      exact permitted.1
  | rollback of =>
      cases concerns
      exact permitted

end GitMate
