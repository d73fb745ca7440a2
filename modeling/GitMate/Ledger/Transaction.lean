import GitMate.Ledger.Errors

namespace GitMate

open Relational

/-!
# Database transactions

A transaction is a sequence of statements that sees its own writes.  Any
statement may fail with a fault of the database, and so may the commit; an
error leaves the database as it was when the transaction began.  The lemmas
turn a transaction that succeeded into the facts that its statements
established, one statement at a time.
-/

/-- What a transaction reads from its surroundings: the clock of the process
(`new Date()`), the clock of the database (`CURRENT_TIMESTAMP`) and the next
generated key. -/
structure Environment where
  application : Instant
  database : Instant
  generated : Nat
  deriving DecidableEq, Repr

/-- A fault that strikes when a number of statements have succeeded. -/
structure Interruption where
  after : Nat
  fault : AppError
  deriving DecidableEq, Repr

structure Session where
  db : Database
  environment : Environment
  interruption : Option Interruption

/-- A transaction body. -/
def Tx (α : Type) : Type := Session -> Except AppError (α × Session)

namespace Tx

variable {α β : Type}

instance : Monad Tx where
  pure value := fun session => .ok (value, session)
  bind first next := fun session =>
    match first session with
    | .ok (value, later) => next value later
    | .error error => .error error

def reject (error : AppError) : Tx α := fun _ => .error error

/-- `new Date()`. -/
def currentDate : Tx Instant := fun session => .ok (session.environment.application, session)

/-- One statement, which the surroundings may interrupt. -/
def statement (run : Database -> Environment -> Except AppError (α × Database)) : Tx α :=
  fun session =>
    match session.interruption with
    | some ⟨0, fault⟩ => .error fault
    | some ⟨left + 1, fault⟩ =>
        (run session.db session.environment).map fun done =>
          (done.1, { session with db := done.2, interruption := some ⟨left, fault⟩ })
    | none =>
        (run session.db session.environment).map fun done =>
          (done.1, { session with db := done.2 })

/-! ## Reading a successful transaction backwards -/

variable {session later : Session}

theorem pure_ok {value result : α} (done : (pure value : Tx α) session = .ok (result, later)) :
    result = value ∧ later = session := by
  cases done
  exact ⟨rfl, rfl⟩

theorem bind_ok {first : Tx α} {next : α -> Tx β} {result : β}
    (done : (first >>= next) session = .ok (result, later)) :
    Exists fun value => Exists fun middle =>
      first session = .ok (value, middle) ∧ next value middle = .ok (result, later) := by
  change (match first session with
    | .ok (value, middle) => next value middle
    | .error error => .error error) = _ at done
  cases ran : first session with
  | error error => rw [ran] at done; cases done
  | ok pair =>
      rw [ran] at done
      exact ⟨pair.1, pair.2, rfl, done⟩

theorem currentDate_ok {result : Instant} (done : currentDate session = .ok (result, later)) :
    result = session.environment.application ∧ later = session := by
  cases done
  exact ⟨rfl, rfl⟩

/-- A statement that succeeded has run on the current database, and the
surroundings stay the same. -/
theorem statement_ok {run : Database -> Environment -> Except AppError (α × Database)}
    {result : α} (done : statement run session = .ok (result, later)) :
    run session.db session.environment = .ok (result, later.db) ∧
      later.environment = session.environment := by
  unfold statement at done
  have inspect : forall left : Option Interruption,
      ((run session.db session.environment).map fun done =>
        (done.1, ({ session with db := done.2, interruption := left } : Session))) =
          .ok (result, later) ->
      run session.db session.environment = .ok (result, later.db) ∧
        later.environment = session.environment := by
    intro left mapped
    cases ran : run session.db session.environment with
    | error error => rw [ran] at mapped; cases mapped
    | ok pair =>
        rw [ran] at mapped
        cases mapped
        exact ⟨rfl, rfl⟩
  split at done
  · cases done
  · exact inspect _ done
  · exact inspect session.interruption done

end Tx

/-! ## Statements on the tables -/

/-- A query of the current state of the transaction. -/
def select (query : Database -> α) : Tx α :=
  Tx.statement fun db _ => .ok (query db, db)

/-- Reject a failed check. -/
def ensure (condition : Bool) (error : AppError) : Tx Unit :=
  if condition then pure () else Tx.reject error

theorem select_ok {query : Database -> α} {result : α} {session later : Session}
    (done : select query session = .ok (result, later)) :
    result = query session.db ∧ later.db = session.db ∧
      later.environment = session.environment := by
  have ran := Tx.statement_ok done
  simp only [Except.ok.injEq, Prod.mk.injEq] at ran
  exact ⟨ran.1.1.symm, ran.1.2.symm, ran.2⟩

theorem ensure_ok {condition : Bool} {error : AppError} {session later : Session}
    {result : Unit} (done : ensure condition error session = .ok (result, later)) :
    condition = true ∧ later = session := by
  unfold ensure at done
  cases condition with
  | false =>
      rw [if_neg Bool.false_ne_true] at done
      cases done
  | true => exact ⟨rfl, (Tx.pure_ok done).2⟩

/-! ## Running a transaction -/

/-- How the surroundings treat a transaction that was issued to the database.
A commit may be refused, and the acknowledgement of a commit may be lost. -/
inductive CommitResult where
  | acknowledged
  | refused (fault : AppError)
  | unacknowledged (fault : AppError)
  deriving DecidableEq, Repr

structure Commit where
  environment : Environment
  interruption : Option Interruption
  result : CommitResult
  deriving DecidableEq, Repr

/-- The faults the surroundings may inject are faults of the database. -/
def Commit.isAdmissible (commit : Commit) : Bool :=
  (match commit.interruption with
    | some interruption => interruption.fault.isDatabaseFault
    | none => true) &&
  match commit.result with
  | .acknowledged => true
  | .refused fault => fault.isDatabaseFault
  | .unacknowledged fault => fault.isDatabaseFault

/-- What the caller learns from a transaction and what it leaves behind. -/
def Database.transaction (db : Database) (commit : Commit) (body : Tx α) :
    Except AppError α × Database :=
  match body ⟨db, commit.environment, commit.interruption⟩ with
  | .error error => (.error error, db)
  | .ok (value, session) =>
      match commit.result with
      | .acknowledged => (.ok value, session.db)
      | .refused fault => (.error fault, db)
      | .unacknowledged fault => (.error fault, session.db)

/-- A transaction leaves the database alone, or its body has succeeded and
the database is what the body made of it. -/
theorem Database.transaction_cases {db : Database} {commit : Commit} {body : Tx α} :
    (db.transaction commit body).2 = db ∧
        (forall value, (db.transaction commit body).1 ≠ .ok value) ∨
      Exists fun value => Exists fun session : Session =>
        body ⟨db, commit.environment, commit.interruption⟩ = .ok (value, session) ∧
        (db.transaction commit body).2 = session.db ∧
        (forall answer, (db.transaction commit body).1 = .ok answer -> answer = value) := by
  unfold Database.transaction
  cases ran : body ⟨db, commit.environment, commit.interruption⟩ with
  | error error => exact Or.inl ⟨rfl, fun value same => by cases same⟩
  | ok pair =>
      cases commit.result with
      | refused fault => exact Or.inl ⟨rfl, fun value same => by cases same⟩
      | acknowledged =>
          refine Or.inr ⟨pair.1, pair.2, rfl, rfl, fun answer same => ?_⟩
          cases same
          rfl
      | unacknowledged fault =>
          exact Or.inr ⟨pair.1, pair.2, rfl, rfl, fun answer same => by cases same⟩

/-- When any statement of a transaction fails, nothing is left of the
others. -/
theorem Database.transaction_error {db : Database} {commit : Commit} {body : Tx α}
    {error : AppError}
    (failed : body ⟨db, commit.environment, commit.interruption⟩ = .error error) :
    db.transaction commit body = (.error error, db) := by
  unfold Database.transaction
  rw [failed]

end GitMate
