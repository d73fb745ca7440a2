import GitMate.Guarantees.ActiveJobs
import Mathlib.Logic.Relation

namespace GitMate

open Relational Interleaving Dialect

/-!
# The order of the locks

Every process takes its advisory locks in one order: the idempotency key, the
quota of the user, the repository, the statistic of the user.  A process that
waits for a lock therefore waits for one that comes after all it holds, and
chains of waiting processes cannot close.  The argument needs that the numbers
of two locks of different kinds differ; row locks are not part of it.
-/

variable {digest : String -> Int}

/-- Every lock of a transaction was taken by its process. -/
structure LockFacts (entry : TransactionEntry) (committed : Database)
    (transaction : OpenTransaction Database LockId Instant) (id : Nat) (past : Past digest) :
    Prop where
  taken : forall lock, lock ∈ transaction.locks -> Exists fun scope : LockScope =>
    Acquired past id scope ∧ lock = scope.id digest

namespace LockFacts

variable {entry : TransactionEntry} {committed : Database}
  {transaction : OpenTransaction Database LockId Instant} {id : Nat} {past : Past digest}

theorem append {event : Event (statements digest).interface}
    {next : OpenTransaction Database LockId Instant}
    (facts : LockFacts entry committed transaction id past)
    (same : next.locks = transaction.locks) :
    LockFacts entry committed next id (past ++ [event]) := by
  refine ⟨fun lock holds => ?_⟩
  rw [same] at holds
  rcases facts.taken lock holds with ⟨scope, acquired, named⟩
  exact ⟨scope, acquired_append.mpr (Or.inl acquired), named⟩

theorem rule : (statements digest).TransactionRule (TransactionEntry.conduct digest)
    (fun _ => True) LockFacts where
  owning permitted concerns := Permits.owning permitted concerns
  begun _ _ := ⟨fun lock holds => by cases holds⟩
  acquired {entry committed transaction id past scope} _ facts permitted := by
    refine ⟨fun lock holds => ?_⟩
    rcases List.mem_cons.mp holds with new | old
    · exact ⟨scope, acquired_append.mpr (Or.inr rfl), new⟩
    · rcases facts.taken lock old with ⟨held, acquired, named⟩
      exact ⟨held, acquired_append.mpr (Or.inl acquired), named⟩
  answered _ facts _ _ _ := facts.append rfl
  idle facts _ _ := facts.append rfl
  others _ facts _ _ _ _ := ⟨facts.taken⟩
  commits _ _ _ := trivial

end LockFacts

/-! ## Waiting -/

/-- A process is about to take a lock. -/
def Awaits (state : (isolated digest).State) (index : Nat) (scope : LockScope) : Prop :=
  Exists fun id => state.pending index = some (.acquire id scope)

/-- A process waits for a lock that a transaction of another one holds. -/
def WaitsFor (state : (isolated digest).State) (waiting holding : Nat) : Prop :=
  Exists fun scope => Exists fun id => Exists fun rival =>
    Awaits state waiting scope ∧ Owns (state.historyAt holding) id ∧
      (storeOf state).find? id = some rival ∧ scope.id digest ∈ rival.locks

section Runs

variable {first last : (isolated digest).State} {steps : List (isolated digest).Transition}
  (ranked : forall one other : LockScope, one.id digest = other.id digest -> one.rank = other.rank)
  (run : Machine.Execution first steps last) (idle : first.processes = [])
  (closed : (storeOf first).transactions = [])

include ranked run idle closed

/-- Whoever is waited for waits for a later lock itself. -/
theorem WaitsFor.rank_lt {waiting holding : Nat} (waits : WaitsFor last waiting holding)
    {next : LockScope} (awaits : Awaits last holding next) :
    Exists fun scope => Awaits last waiting scope ∧ scope.rank < next.rank := by
  rcases waits with ⟨scope, id, rival, awaited, owns, found, holds⟩
  rcases awaits with ⟨another, pending⟩
  rcases Machine.State.getElem?_of_pending pending with ⟨resume, here⟩
  rcases run.spawned idle here with ⟨entry, spawned⟩
  have sound := Execution.sound LockFacts.rule run TransactionEntry.program_obeys
    (fun _ _ _ => trivial) idle closed trivial
  rcases (sound.facts spawned owns found).taken _ holds with ⟨held, acquired, named⟩
  have permitted := run.permits_next TransactionEntry.program_obeys
    (fun _ _ _ _ _ _ _ => trivial) idle spawned here
  refine ⟨scope, awaited, ?_⟩
  rw [ranked scope held named]
  exact permitted.2.1 id held acquired

theorem awaits_of_chain {waiting holding : Nat}
    (chain : Relation.TransGen (WaitsFor last) waiting holding) {next : LockScope}
    (awaits : Awaits last holding next) :
    Exists fun scope => Awaits last waiting scope ∧ scope.rank < next.rank := by
  induction chain generalizing next with
  | single waits => exact waits.rank_lt ranked run idle closed awaits
  | tail chain waits inductionHypothesis =>
      rcases waits.rank_lt ranked run idle closed awaits with ⟨middle, awaited, later⟩
      rcases inductionHypothesis awaited with ⟨scope, awaiting, earlier⟩
      exact ⟨scope, awaiting, Nat.lt_trans earlier later⟩

/-- In no state of any run do processes wait for each other's advisory locks in
a circle. -/
theorem no_circular_wait (index : Nat) : ¬Relation.TransGen (WaitsFor last) index index := by
  intro circle
  have waiting : Exists fun scope => Awaits last index scope := by
    rcases Relation.TransGen.head'_iff.mp circle with ⟨_, ⟨scope, _, _, awaits, _⟩, _⟩
    exact ⟨scope, awaits⟩
  rcases waiting with ⟨scope, awaits⟩
  rcases awaits_of_chain ranked run idle closed circle awaits with ⟨other, awaited, earlier⟩
  rcases awaits with ⟨id, pending⟩
  rcases awaited with ⟨another, alsoPending⟩
  cases pending.symm.trans alsoPending
  exact Nat.lt_irrefl _ earlier

end Runs

/-! ## A creation that waits -/

/-- A number for the text of a lock that tells the kinds of locks apart. -/
def kindDigest (text : String) : Int :=
  match text.toList[14]? with
  | some character => character.toNat
  | none => 0

theorem kindDigest_append {start rest : String} (long : 14 < start.toList.length) :
    kindDigest (start ++ rest) = kindDigest start := by
  rw [kindDigest, kindDigest, String.toList_append, List.getElem?_append_left long]

theorem rank_eq_of_kindDigest (one other : LockScope)
    (same : one.id kindDigest = other.id kindDigest) : one.rank = other.rank := by
  have idempotency : forall rest : String,
      kindDigest ("analysis-job-idempotency:" ++ rest) = 100 :=
    fun rest => (kindDigest_append (by decide)).trans (by decide)
  have rateLimit : forall rest : String, kindDigest ("analysis-job-rate-limit:" ++ rest) = 97 :=
    fun rest => (kindDigest_append (by decide)).trans (by decide)
  have repository : forall rest : String,
      kindDigest ("analysis-job-repository:" ++ rest) = 101 :=
    fun rest => (kindDigest_append (by decide)).trans (by decide)
  cases one <;> cases other <;>
    simp only [LockScope.id, String.append_assoc, idempotency, rateLimit, repository,
      LockId.one.injEq, reduceCtorEq] at same ⊢ <;> first | rfl | exact absurd same (by decide)

def idleState : (isolated kindDigest).State := ⟨⟨smallDatabase, []⟩, []⟩

/-- The second creation is about to take a lock that the first one holds. -/
def waitingScript : List (isolated kindDigest).Label :=
  [.spawn (.create 1 "R1" "key-1"), .spawn (.create 1 "R1" "key-1"), .act 0 (.begun 1000),
    .act 1 (.begun 1000), .act 0 .granted]

theorem no_circular_wait_creations :
    (idleState.after waitingScript).pending 1 = some (.acquire 1 (.idempotency 1 "key-1")) ∧
      ¬Relation.TransGen (WaitsFor (idleState.after waitingScript)) 1 1 := by
  have run := @Machine.State.trace_execution _ _ idleState waitingScript (by decide +kernel)
  exact ⟨rfl, no_circular_wait rank_eq_of_kindDigest run rfl rfl 1⟩

end GitMate
