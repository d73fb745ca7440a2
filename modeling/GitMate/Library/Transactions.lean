import GitMate.Library.System
import GitMate.Library.Isolation

namespace Relational

open Interleaving

/-!
# Interleaved transactions

A dialect fixes the statements of a database.  Its machine runs programs that
begin transactions, take advisory locks, issue statements one at a time and
commit; between any two of these the others may act.  A statement that fails,
or whose transaction has been ended by the server, ends its transaction.

An invariant of such a system speaks of the transactions that are open.
`TransactionRule` collects what has to be shown of a fact about one
transaction: that it holds when the transaction begins, that it survives the
transaction's own steps and the commits of the others, and that it makes a
commit keep an invariant of the committed data.  `Execution.sound` is the
induction over the run, done once.
-/

structure Dialect (Data Lock Time : Type) where
  Statement : Type
  Reply : Statement -> Type
  Fault : Type
  /-- The faults that the surroundings may raise. -/
  isFault : Fault -> Bool
  /-- How the surroundings resolve one statement. -/
  Environment : Type
  Scope : Type
  lockOf : Scope -> Lock
  versions : Versioning Data
  /-- What the surroundings may decide in a transaction begun at some time. -/
  admissible : Time -> Statement -> Environment -> Bool
  run : (statement : Statement) -> Environment -> Data -> Except Fault (Reply statement × Data)

namespace Dialect

variable {Data Lock Time : Type}

inductive Op (L : Dialect Data Lock Time) where
  | begin
  | acquire (id : Nat) (scope : L.Scope)
  | statement (id : Nat) (statement : L.Statement)
  | commit (id : Nat)
  | rollback (id : Nat)
  /-- Read the clock of the process. -/
  | now

variable {L : Dialect Data Lock Time}

@[reducible] def Op.Reply : L.Op -> Type
  | .begin => Nat
  | .acquire .. => Unit
  | .statement _ query => L.Reply query
  | .commit _ => Unit
  | .rollback _ => Unit
  | .now => Time

/-- The transaction to which an operation belongs. -/
def Op.transaction : L.Op -> Option Nat
  | .begin => none
  | .acquire id _ => some id
  | .statement id _ => some id
  | .commit id => some id
  | .rollback id => some id
  | .now => none

variable (L) in
@[reducible] def interface : Interface := ⟨L.Op, Op.Reply, L.Fault⟩

variable (L) in
inductive Choice where
  | begun (time : Time)
  | granted
  | answered (environment : L.Environment)
  | unacknowledged (fault : L.Fault)
  | read (time : Time)
  | fault (fault : L.Fault)

/-- Run a statement in an open transaction. -/
def answer (store : Store Data Lock Time) (id : Nat) (statement : L.Statement)
    (environment : L.Environment) :
    Option (L.interface.Outcome (.statement id statement) × Store Data Lock Time) :=
  (store.find? id).bind fun transaction =>
    if L.admissible transaction.begun statement environment then
      match L.run statement environment (store.view L.versions transaction) with
      | .error fault => some (.error fault, store.rollback id)
      | .ok (reply, after) =>
          (store.write L.versions id after).map fun later => (.ok reply, later)
    else none

/-- A fault ends the transaction of its operation. -/
def interrupt (store : Store Data Lock Time) (op : L.Op) : Store Data Lock Time :=
  match op.transaction with
  | some id => store.rollback id
  | none => store

def exec [DecidableEq Lock] : (op : L.Op) -> L.Choice -> Store Data Lock Time ->
    Option (L.interface.Outcome op × Store Data Lock Time)
  | .begin, .begun time, store =>
      some (.ok store.transactions.length, store.begin L.versions time)
  | .acquire id scope, .granted, store =>
      (store.acquire id (L.lockOf scope)).map fun later => (.ok (), later)
  | .statement id statement, .answered environment, store =>
      answer store id statement environment
  | .commit id, .granted, store => (store.commit L.versions id).map fun later => (.ok (), later)
  | .commit id, .unacknowledged fault, store =>
      if L.isFault fault then
        (store.commit L.versions id).map fun later => (.error fault, later)
      else none
  | .rollback id, .granted, store => some (.ok (), store.rollback id)
  | .now, .read time, store => some (.ok time, store)
  | op, .fault fault, store =>
      if L.isFault fault then some (.error fault, interrupt store op) else none
  | _, _, _ => none

variable (L) in
/-- The machine of a dialect.  On its own, the server may end a transaction. -/
def machine [DecidableEq Lock] (Entry : Type) (start : Entry -> Program L.interface Unit) : Machine L.interface where
  World := Store Data Lock Time
  Choice := L.Choice
  exec := exec
  Entry := Entry
  start := start
  Internal := Nat
  internal id store := some (store.rollback id)

/-- The transaction of which an event tells something: it was begun, a lock of
it was granted, or a statement of it was answered. -/
def grants (event : Event L.interface) : Option Nat :=
  match event with
  | ⟨.begin, .ok id⟩ => some id
  | ⟨.acquire id _, .ok _⟩ => some id
  | ⟨.statement id _, .ok _⟩ => some id
  | _ => none

/-- Everything that one operation can do to the store. -/
inductive Move (store : Store Data Lock Time) :
    (op : L.Op) -> L.interface.Outcome op -> Store Data Lock Time -> Prop where
  | begun (time : Time) :
      Move store .begin (.ok store.transactions.length) (store.begin L.versions time)
  | acquired {id : Nat} {scope : L.Scope} {transaction : OpenTransaction Data Lock Time}
      (found : store.find? id = some transaction)
      (free : forall other rival, other ≠ id -> store.find? other = some rival ->
        L.lockOf scope ∉ rival.locks) :
      Move store (.acquire id scope) (.ok ())
        (store.put id (some { transaction with locks := L.lockOf scope :: transaction.locks }))
  | answered {id : Nat} {statement : L.Statement} {environment : L.Environment}
      {transaction : OpenTransaction Data Lock Time} {reply : L.Reply statement} {after : Data}
      (found : store.find? id = some transaction)
      (admitted : L.admissible transaction.begun statement environment = true)
      (ran : L.run statement environment (store.view L.versions transaction) = .ok (reply, after))
      (alone : forall other rival, other ≠ id -> store.find? other = some rival ->
        L.versions.separate (store.rewritten L.versions transaction after) rival.written = true) :
      Move store (.statement id statement) (.ok reply)
        (store.put id
          (some { transaction with written := store.rewritten L.versions transaction after }))
  | committed {id : Nat} {transaction : OpenTransaction Data Lock Time}
      {outcome : L.interface.Outcome (.commit id)} (found : store.find? id = some transaction) :
      Move store (.commit id) outcome
        { (store.rollback id) with committed := store.view L.versions transaction }
  | ended {op : L.Op} {outcome : L.interface.Outcome op} {id : Nat}
      (concerns : op.transaction = some id) (silent : grants ⟨op, outcome⟩ = none) :
      Move store op outcome (store.rollback id)
  | untouched {op : L.Op} {outcome : L.interface.Outcome op}
      (outside : op.transaction = none) (silent : grants ⟨op, outcome⟩ = none) :
      Move store op outcome store

theorem move_of_interrupt {store : Store Data Lock Time} (op : L.Op) (fault : L.Fault) :
    Move store op (.error fault) (interrupt store op) := by
  unfold interrupt
  cases op with
  | begin | now => exact .untouched rfl rfl
  | acquire | statement | commit | rollback => exact .ended rfl rfl

theorem move_of_answer {store later : Store Data Lock Time} {id : Nat} {statement : L.Statement}
    {environment : L.Environment} {outcome : L.interface.Outcome (.statement id statement)}
    (answered : answer store id statement environment = some (outcome, later)) :
    Move store (.statement id statement) outcome later := by
  unfold answer at answered
  cases found : store.find? id with
  | none =>
      rw [found] at answered
      cases answered
  | some transaction =>
      rw [found, Option.bind_some] at answered
      split at answered
      · rename_i admitted
        cases ran : L.run statement environment (store.view L.versions transaction) with
        | error fault =>
            rw [ran] at answered
            cases answered
            exact .ended rfl rfl
        | ok result =>
            rcases result with ⟨reply, after⟩
            rw [ran] at answered
            cases wrote : store.write L.versions id after with
            | none =>
                simp only [wrote, Option.map_none, reduceCtorEq] at answered
            | some written =>
                simp only [wrote, Option.map_some, Option.some.injEq, Prod.mk.injEq] at answered
                rcases answered with ⟨rfl, rfl⟩
                rcases Store.write_some found wrote with ⟨alone, rfl⟩
                exact .answered found admitted ran alone
      · cases answered

theorem move_of_commit {store later : Store Data Lock Time} {id : Nat}
    {outcome : L.interface.Outcome (.commit id)}
    (committed : store.commit L.versions id = some later) :
    Move store (.commit id) outcome later := by
  unfold Store.commit at committed
  cases found : store.find? id with
  | none =>
      rw [found] at committed
      cases committed
  | some transaction =>
      rw [found] at committed
      cases committed
      exact .committed found

theorem move_of_exec [DecidableEq Lock] {store later : Store Data Lock Time} {op : L.Op} {choice : L.Choice}
    {outcome : L.interface.Outcome op} (executed : exec op choice store = some (outcome, later)) :
    Move store op outcome later := by
  have interrupted : forall fault : L.Fault,
      (if L.isFault fault then
        some ((.error fault : L.interface.Outcome op), interrupt store op) else none) =
        some (outcome, later) -> Move store op outcome later := by
    intro fault happened
    split at happened
    · cases happened
      exact move_of_interrupt op fault
    · cases happened
  cases choice with
  | fault fault =>
      cases op <;> exact interrupted fault executed
  | begun time =>
      cases op with
      | begin =>
          cases executed
          exact .begun time
      | acquire | statement | commit | rollback | now => cases executed
  | read time =>
      cases op with
      | now =>
          cases executed
          exact .untouched rfl rfl
      | begin | acquire | statement | commit | rollback => cases executed
  | answered environment =>
      cases op with
      | statement id statement => exact move_of_answer executed
      | begin | acquire | commit | rollback | now => cases executed
  | unacknowledged fault =>
      cases op with
      | commit id =>
          change (if L.isFault fault then (store.commit L.versions id).map
            fun later => ((.error fault : L.interface.Outcome (.commit id)), later) else none) =
              some (outcome, later) at executed
          split at executed
          · cases committed : store.commit L.versions id with
            | none => rw [committed] at executed; cases executed
            | some next =>
                rw [committed] at executed
                cases executed
                exact move_of_commit committed
          · cases executed
      | begin | acquire | statement | rollback | now => cases executed
  | granted =>
      cases op with
      | acquire id scope =>
          change (store.acquire id (L.lockOf scope)).map
            (fun later => ((.ok () : L.interface.Outcome (.acquire id scope)), later)) =
              some (outcome, later) at executed
          cases granted : store.acquire id (L.lockOf scope) with
          | none => rw [granted] at executed; cases executed
          | some next =>
              rw [granted] at executed
              cases executed
              rcases Store.acquire_some granted with ⟨transaction, found, free, rfl⟩
              exact .acquired found free
      | commit id =>
          change (store.commit L.versions id).map
            (fun later => ((.ok () : L.interface.Outcome (.commit id)), later)) =
              some (outcome, later) at executed
          cases committed : store.commit L.versions id with
          | none => rw [committed] at executed; cases executed
          | some next =>
              rw [committed] at executed
              cases executed
              exact move_of_commit committed
      | rollback id =>
          cases executed
          exact .ended rfl rfl
      | begin | statement | now => cases executed

/-- No operation makes a store inconsistent. -/
theorem Move.consistent {store later : Store Data Lock Time} {op : L.Op}
    {outcome : L.interface.Outcome op} (move : Move store op outcome later)
    (consistent : store.Consistent L.versions) : later.Consistent L.versions := by
  cases move with
  | begun time => exact consistent.begin time
  | acquired found free =>
      refine consistent.put found fun other rival different there => ?_
      have apart := consistent.separate _ other _ rival (Ne.symm different) found there
      refine ⟨fun lock holds => ?_, apart⟩
      rcases List.mem_cons.mp holds with rfl | older
      · exact free other rival different there
      · exact fun also => different
          (consistent.exclusive _ _ _ _ lock there found also older)
  | answered found admitted ran alone =>
      refine consistent.put found fun other rival different there => ⟨fun lock holds also => ?_,
        alone other rival different there⟩
      exact different (consistent.exclusive _ _ _ _ lock there found also holds)
  | committed found => exact consistent.rollback.recommitted _
  | ended concerns silent => exact consistent.rollback
  | untouched outside silent => exact consistent

/-! ## Programs -/

section Programs

variable {α : Type}

def begin : Program L.interface Nat := Program.perform (I := L.interface) .begin

def acquire (id : Nat) (scope : L.Scope) : Program L.interface Unit :=
  Program.perform (I := L.interface) (.acquire id scope)

def issue (id : Nat) (statement : L.Statement) : Program L.interface (L.Reply statement) :=
  Program.perform (I := L.interface) (.statement id statement)

def commit (id : Nat) : Program L.interface Unit := Program.perform (I := L.interface) (.commit id)

def rollback (id : Nat) : Program L.interface Unit :=
  Program.perform (I := L.interface) (.rollback id)

def now : Program L.interface Time := Program.perform (I := L.interface) .now

/-- Run a body in a transaction of its own, which an error rolls back. -/
def transaction (body : Nat -> Program L.interface α) : Program L.interface α := do
  let id <- begin
  let ending <- Program.attempt (body id)
  match ending with
  | .ok value => do
      commit id
      pure value
  | .error fault => do
      let _ <- Program.attempt (rollback id)
      throw fault

end Programs

/-! ## The rule of transactions -/

/-- The process has begun the transaction. -/
def Owns (past : History L.interface) (id : Nat) : Prop :=
  (⟨.begin, .ok id⟩ : Event L.interface) ∈ past

variable (L) in
/-- What has to be shown of a fact about an open transaction, the program that
issued it and what that program has seen. -/
structure TransactionRule {Entry : Type} (D : Entry -> Discipline L.interface)
    (Keeps : Data -> Prop)
    (Fact : Entry -> Data -> OpenTransaction Data Lock Time -> Nat -> History L.interface -> Prop) :
    Prop where
  owning : forall {entry past op id}, (D entry).Permits past op -> op.transaction = some id ->
    Owns past id
  begun : forall {entry committed time id past}, Keeps committed ->
    (forall event : Event L.interface, event ∈ past ->
      event.op.transaction ≠ some id ∧ grants event ≠ some id) ->
    Fact entry committed ⟨time, [], L.versions.nothing⟩ id (past ++ [⟨.begin, .ok id⟩])
  acquired : forall {entry committed transaction id past scope}, Keeps committed ->
    Fact entry committed transaction id past -> (D entry).Permits past (.acquire id scope) ->
    Fact entry committed { transaction with locks := L.lockOf scope :: transaction.locks } id
      (past ++ [⟨.acquire id scope, .ok ()⟩])
  answered : forall {entry committed transaction id past statement environment reply after},
    Keeps committed -> Fact entry committed transaction id past ->
    (D entry).Permits past (.statement id statement) ->
    L.admissible transaction.begun statement environment = true ->
    L.run statement environment (L.versions.overlay committed transaction.written) =
      .ok (reply, after) ->
    Fact entry committed { transaction with
      written := L.versions.overlay transaction.written
        (L.versions.changes (L.versions.overlay committed transaction.written) after) } id
      (past ++ [⟨.statement id statement, .ok reply⟩])
  idle : forall {entry committed transaction id past} {event : Event L.interface},
    Fact entry committed transaction id past -> (D entry).Permits past event.op ->
    grants event ≠ some id -> Fact entry committed transaction id (past ++ [event])
  others : forall {entry committed transaction id past rival} {committing : Entry}
      {another : Nat} {seen : History L.interface}, Keeps committed ->
    Fact entry committed transaction id past ->
    Fact committing committed rival another seen ->
    (D committing).Permits seen (.commit another) ->
    (forall lock, lock ∈ transaction.locks -> lock ∉ rival.locks) ->
    L.versions.separate transaction.written rival.written = true ->
    Fact entry (L.versions.overlay committed rival.written) transaction id past
  commits : forall {entry committed transaction id past}, Keeps committed ->
    Fact entry committed transaction id past -> (D entry).Permits past (.commit id) ->
    Keeps (L.versions.overlay committed transaction.written)

theorem owns_append {past : History L.interface} {event : Event L.interface} {id : Nat} :
    Owns (past ++ [event]) id ↔ Owns past id ∨ event = ⟨.begin, .ok id⟩ := by
  rw [Owns, List.mem_append, List.mem_singleton]
  exact or_congr_right eq_comm

theorem grants_of_begins {event : Event L.interface} {id : Nat} (begins : event = ⟨.begin, .ok id⟩) :
    grants event = some id := by
  subst begins
  rfl

/-- After an operation the transactions of the store are those of before,
except for the one that the operation concerns. -/
theorem Move.transactions {store later : Store Data Lock Time} {op : L.Op}
    {outcome : L.interface.Outcome op} (move : Move store op outcome later) :
    store.transactions.length ≤ later.transactions.length ∧
    (forall id transaction, later.find? id = some transaction ->
      grants ⟨op, outcome⟩ ≠ some id -> store.find? id = some transaction) := by
  cases move with
  | begun time =>
      refine ⟨by rw [Store.begin, List.length_append]; omega, fun id transaction found other => ?_⟩
      rw [Store.find?_begin] at found
      split at found
      · rename_i new
        exact absurd (congrArg some new.symm) other
      · exact found
  | acquired there free =>
      refine ⟨by rw [Store.put, List.length_set], fun id transaction found other => ?_⟩
      rwa [Store.find?_put_ne fun same => other (congrArg some same.symm)] at found
  | answered there admitted ran alone =>
      refine ⟨by rw [Store.put, List.length_set], fun id transaction found other => ?_⟩
      rwa [Store.find?_put_ne fun same => other (congrArg some same.symm)] at found
  | committed there =>
      exact ⟨by rw [Store.rollback, Store.put, List.length_set],
        fun id transaction found _ => (Store.find?_rollback found).2⟩
  | ended concerns silent =>
      exact ⟨by rw [Store.rollback, Store.put, List.length_set],
        fun id transaction found _ => (Store.find?_rollback found).2⟩
  | untouched outside silent => exact ⟨Nat.le_refl _, fun id transaction found _ => found⟩

/-- An operation tells of a new transaction or of its own. -/
theorem Move.granted_cases {store later : Store Data Lock Time} {op : L.Op}
    {outcome : L.interface.Outcome op} (move : Move store op outcome later) {id : Nat}
    (granted : grants ⟨op, outcome⟩ = some id) :
    id = store.transactions.length ∨ op.transaction = some id := by
  cases move with
  | begun time =>
      cases granted
      exact Or.inl rfl
  | acquired found free => exact Or.inr granted
  | answered found admitted ran alone => exact Or.inr granted
  | committed found => cases granted
  | ended concerns silent => cases silent.symm.trans granted
  | untouched outside silent => cases silent.symm.trans granted

/-- A transaction that is begun is a new one. -/
theorem Move.begins {store later : Store Data Lock Time} {op : L.Op}
    {outcome : L.interface.Outcome op} (move : Move store op outcome later) {id : Nat}
    (begins : (⟨op, outcome⟩ : Event L.interface) = ⟨.begin, .ok id⟩) :
    id = store.transactions.length ∧ Exists fun time => later = store.begin L.versions time := by
  cases begins
  generalize granted : (Except.ok id : L.interface.Outcome .begin) = outcome at move
  cases move with
  | begun time =>
      cases granted
      exact ⟨rfl, time, rfl⟩
  | ended concerns silent => cases concerns
  | untouched outside silent =>
      subst granted
      cases silent

/-- An operation commits its own transaction or leaves the committed data
alone. -/
theorem Move.committed_cases {store later : Store Data Lock Time} {op : L.Op}
    {outcome : L.interface.Outcome op} (move : Move store op outcome later) :
    later.committed = store.committed ∨
      Exists fun id => Exists fun transaction => op = .commit id ∧
        store.find? id = some transaction ∧ later.find? id = none ∧
        later.committed = store.view L.versions transaction := by
  cases move with
  | @committed id transaction outcome found =>
      refine Or.inr ⟨id, transaction, rfl, found, ?_, rfl⟩
      exact Store.find?_put (Store.lt_of_find? found) none
  | begun | acquired | answered | ended | untouched => exact Or.inl rfl

/-- A transaction obeys when its body does and may commit where it ends.  What
its body leaves behind outlives the end of the transaction. -/
theorem obeys_transaction {α : Type} {D : Discipline L.interface} {past : History L.interface}
    {body : Nat -> Program L.interface α} {ends : Nat -> L.interface.Post α}
    {final : History L.interface -> Prop} (begins : D.Permits past .begin)
    (commits : forall id later value, Owns later id -> ends id later (.ok value) ->
      D.Permits later (.commit id))
    (rolls : forall id later, Owns later id -> D.Permits later (.rollback id))
    (obeys : forall id, (body id).Obeys D (ends id) (past ++ [⟨.begin, .ok id⟩]))
    (unbegun : forall fault, final (past ++ [⟨.begin, .error fault⟩]))
    (ended : forall id later ending event, ends id later ending -> grants event = none ->
      final (later ++ [event])) :
    (transaction body).Obeys D (fun later _ => final later) past := by
  refine Program.obeys_perform_bind begins (fun id => ?_) unbegun
  have owned : (body id).Obeys D (fun later ending => ends id later ending ∧ Owns later id)
      (past ++ [⟨.begin, .ok id⟩]) :=
    (obeys id).mono fun later ending extended held =>
      ⟨held, extended.subset (List.mem_append_right _ List.mem_cons_self)⟩
  refine owned.attempt.bind (fun later ending _ held => ?_) (fun later fault _ held => ?_)
  · rcases held with ⟨result, same, held, owns⟩
    cases same
    cases ending with
    | ok value =>
        refine Program.obeys_perform_bind (commits id later value owns held) (fun _ => ?_)
          (fun fault => ended id later _ _ held rfl)
        exact ended id later _ _ held rfl
    | error fault =>
        have rolled : (Program.attempt (rollback (L := L) id)).Obeys D
            (fun afterwards _ => final afterwards) later := by
          refine (Program.obeys_perform (rolls id later owns)).attempt.mono ?_
          rintro afterwards ending _ ⟨result, rfl, rfl, _⟩
          cases result <;> exact ended id later _ _ held rfl
        exact rolled.bind (fun afterwards _ _ kept => kept) (fun afterwards _ _ kept => kept)
  · rcases held with ⟨result, same, _⟩
    cases same

/-! ## Commits in order -/

/-- The operation commits a transaction, whether or not its process learns of
it. -/
def commits : L.Op -> L.Choice -> Bool
  | .commit _, .granted => true
  | .commit _, .unacknowledged _ => true
  | _, _ => false

theorem exec_commits [DecidableEq Lock] {store later : Store Data Lock Time} {op : L.Op}
    {choice : L.Choice} {outcome : L.interface.Outcome op} (ends : commits op choice = true)
    (executed : exec op choice store = some (outcome, later)) :
    Exists fun id => Exists fun transaction => op = .commit id ∧
      store.find? id = some transaction ∧ later.committed = store.view L.versions transaction := by
  have opened : forall {id : Nat}, store.commit L.versions id = some later ->
      Exists fun transaction => store.find? id = some transaction ∧
        later.committed = store.view L.versions transaction := by
    intro id committed
    unfold Store.commit at committed
    rcases Option.map_eq_some_iff.mp committed with ⟨transaction, found, rfl⟩
    exact ⟨transaction, found, rfl⟩
  cases op with
  | commit id =>
      refine ⟨id, (?_ : Exists fun transaction => _ = _ ∧ _ ∧ _)⟩
      cases choice with
      | granted =>
          rcases Option.map_eq_some_iff.mp executed with ⟨next, committed, same⟩
          cases same
          exact (opened committed).imp fun _ held => ⟨rfl, held⟩
      | unacknowledged fault =>
          change (if L.isFault fault then (store.commit L.versions id).map
            fun later => ((.error fault : L.interface.Outcome (.commit id)), later) else none) =
              some (outcome, later) at executed
          split at executed
          · rcases Option.map_eq_some_iff.mp executed with ⟨next, committed, same⟩
            cases same
            exact (opened committed).imp fun _ held => ⟨rfl, held⟩
          · cases executed
      | begun | answered | read | fault => cases ends
  | begin | acquire | statement | rollback | now => cases choice <;> cases ends

theorem exec_quiet [DecidableEq Lock] {store later : Store Data Lock Time} {op : L.Op}
    {choice : L.Choice} {outcome : L.interface.Outcome op} (quiet : commits op choice = false)
    (executed : exec op choice store = some (outcome, later)) :
    later.committed = store.committed := by
  rcases (move_of_exec executed).committed_cases with same | ⟨id, transaction, rfl, _, _, changed⟩
  · exact same
  · cases choice with
    | granted | unacknowledged => cases quiet
    | begun | answered | read => cases executed
    | fault fault =>
        change (if L.isFault fault then
          some ((.error fault : L.interface.Outcome (.commit id)), store.rollback id) else none) =
            some (outcome, later) at executed
        split at executed
        · cases executed
          rfl
        · cases executed

section Commits

variable [DecidableEq Lock] {Entry : Type} {start : Entry -> Program L.interface Unit}

/-- The processes that a run has started. -/
theorem spawned_append {step : (L.machine Entry start).Transition} {index : Nat} {entry : Entry} :
    Machine.Spawned (steps ++ [step]) index entry ↔ Machine.Spawned steps index entry ∨
      step.label = .spawn entry ∧ step.before.processes.length = index := by
  constructor
  · rintro ⟨spawning, member, label, fresh⟩
    rcases List.mem_append.mp member with before | now
    · exact Or.inl ⟨spawning, before, label, fresh⟩
    · cases List.mem_singleton.mp now
      exact Or.inr ⟨label, fresh⟩
  · rintro (⟨spawning, member, label, fresh⟩ | ⟨label, fresh⟩)
    · exact ⟨spawning, List.mem_append_left _ member, label, fresh⟩
    · exact ⟨step, List.mem_append_right _ List.mem_cons_self, label, fresh⟩

/-- The process whose transaction a step commits. -/
def committer (step : (L.machine Entry start).Transition) : Option Nat :=
  match step.label with
  | .act index choice =>
      if (step.before.pending index).any (fun op => commits op choice) then some index else none
  | .spawn _ | .crash _ | .internal _ => none

/-- The transaction that a step commits, with what its process has seen. -/
def committedPast (step : (L.machine Entry start).Transition) :
    Option (Nat × History L.interface) :=
  match step.label with
  | .act index choice =>
      match step.before.pending index with
      | some (.commit id) =>
          if commits (L := L) (.commit id) choice then some (id, step.before.historyAt index)
          else none
      | _ => none
  | .spawn _ | .crash _ | .internal _ => none

theorem committedPast_none {step : (L.machine Entry start).Transition}
    (quiet : committer step = none) : committedPast step = none := by
  unfold committer at quiet
  unfold committedPast
  split
  · rename_i index choice label
    rw [label] at quiet
    simp only at quiet
    split
    · rename_i id pending
      rw [pending, Option.any_some] at quiet
      split at quiet
      · cases quiet
      · rename_i silent
        exact if_neg silent
    · rfl
  · rfl
  · rfl
  · rfl

theorem committedPast_some {step : (L.machine Entry start).Transition} {index id : Nat}
    (commits : committer step = some index)
    (pending : step.before.pending index = some (.commit id)) :
    committedPast step = some (id, step.before.historyAt index) := by
  unfold committer at commits
  unfold committedPast
  split at commits
  · rename_i acting choice label
    split at commits
    · rename_i ends
      cases commits
      rw [pending, Option.any_some] at ends
      simp only [pending, ends, if_true]
    · cases commits
  · cases commits
  · cases commits
  · cases commits

/-- What the process whose transaction a step commits was started for. -/
def committedEntry (steps : List (L.machine Entry start).Transition)
    (step : (L.machine Entry start).Transition) : Option Entry :=
  match committer step with
  | some index => Machine.startedFor steps index
  | none => none

theorem committedEntry_none {steps : List (L.machine Entry start).Transition}
    {step : (L.machine Entry start).Transition} (quiet : committer step = none) :
    committedEntry steps step = none := by
  rw [committedEntry, quiet]

theorem committedEntry_some {steps : List (L.machine Entry start).Transition}
    {step : (L.machine Entry start).Transition} {index : Nat}
    (commits : committer step = some index) {entry : Entry}
    (started : Machine.startedFor steps index = some entry) :
    committedEntry steps step = some entry := by
  rw [committedEntry, commits]
  exact started

/-- What the processes whose transactions have been committed were started
for, in the order of the commits. -/
def committedEntries (steps : List (L.machine Entry start).Transition) : List Entry :=
  steps.filterMap (committedEntry steps)

theorem present_of_committer {step : (L.machine Entry start).Transition} {index : Nat}
    (commits : committer step = some index) :
    Exists fun process => step.before.processes[index]? = some process := by
  unfold committer at commits
  split at commits
  · rename_i acting choice label
    split at commits
    · rename_i ends
      cases commits
      rcases (Option.any_eq_true _ _).mp ends with ⟨op, pending, _⟩
      rcases Machine.State.getElem?_of_pending pending with ⟨resume, here⟩
      exact ⟨_, here⟩
    · cases commits
  · cases commits
  · cases commits
  · cases commits

/-- A step adds the entry of the process whose transaction it commits. -/
theorem committedEntries_append {first state after : (L.machine Entry start).State}
    {steps : List (L.machine Entry start).Transition}
    {label : (L.machine Entry start).Label} (run : Machine.Execution first steps state)
    (stepped : state.step label = some after) (idle : first.processes = []) :
    committedEntries (steps ++ [⟨state, label, after⟩]) = committedEntries steps ++
      (committedEntry steps ⟨state, label, after⟩).toList := by
  have settled : forall step : (L.machine Entry start).Transition, forall index,
      committer step = some index -> (Exists fun entry => Machine.Spawned steps index entry) ->
      committedEntry (steps ++ [⟨state, label, after⟩]) step = committedEntry steps step := by
    rintro step index commits ⟨entry, spawned⟩
    have longer : Machine.Spawned (steps ++ [⟨state, label, after⟩]) index entry :=
      spawned_append.mpr (Or.inl spawned)
    rw [committedEntry_some commits (run.startedFor_eq spawned),
      committedEntry_some commits ((run.next stepped).startedFor_eq longer)]
  have same : forall step, step ∈ steps ++ [⟨state, label, after⟩] ->
      committedEntry (steps ++ [⟨state, label, after⟩]) step = committedEntry steps step := by
    intro step member
    cases commits : committer step with
    | none => rw [committedEntry_none commits, committedEntry_none commits]
    | some index =>
        refine settled step index commits ?_
        rcases present_of_committer commits with ⟨process, here⟩
        rcases List.mem_append.mp member with before | now
        · rcases List.append_of_mem before with ⟨earlier, rest, rfl⟩
          rcases run.around.1.spawned idle here with ⟨entry, spawning, there, label, fresh⟩
          exact ⟨entry, spawning, List.mem_append_left _ there, label, fresh⟩
        · cases List.mem_singleton.mp now
          exact run.spawned idle here
  unfold committedEntries
  rw [List.filterMap_congr same, List.filterMap_append]
  cases committed : committedEntry steps ⟨state, label, after⟩ with
  | none => rw [List.filterMap_cons_none committed, List.filterMap_nil, Option.toList_none]
  | some entry => rw [List.filterMap_cons_some committed, List.filterMap_nil, Option.toList_some]

end Commits

section Rule

variable [DecidableEq Lock] {Entry : Type} {start : Entry -> Program L.interface Unit}
  {D : Entry -> Discipline L.interface} {Keeps : Data -> Prop}
  {Fact : Entry -> Data -> OpenTransaction Data Lock Time -> Nat -> History L.interface -> Prop}

/-- The store of a state. -/
abbrev storeOf (state : (L.machine Entry start).State) : Store Data Lock Time := state.world

/-- What holds after a run. -/
structure Sound (Keeps : Data -> Prop)
    (Fact : Entry -> Data -> OpenTransaction Data Lock Time -> Nat -> History L.interface -> Prop)
    (steps : List (L.machine Entry start).Transition) (state : (L.machine Entry start).State) :
    Prop where
  consistent : (storeOf state).Consistent L.versions
  known : forall {index id}, Owns (state.historyAt index) id ->
    id < (storeOf state).transactions.length
  single : forall {left right id}, Owns (state.historyAt left) id ->
    Owns (state.historyAt right) id -> left = right
  facts : forall {index entry id transaction}, Machine.Spawned steps index entry ->
    Owns (state.historyAt index) id -> (storeOf state).find? id = some transaction ->
    Fact entry (storeOf state).committed transaction id (state.historyAt index)
  keeps : Keeps (storeOf state).committed

variable {steps : List (L.machine Entry start).Transition} {state after : (L.machine Entry start).State}
  (rule : L.TransactionRule D Keeps Fact)

include rule

/-- A fact about a transaction that an operation of some process leaves open
survives the operation. -/
theorem Sound.survives (sound : Sound Keeps Fact steps state) {acting index : Nat}
    {committing entry : Entry} {op : L.Op} {outcome : L.interface.Outcome op}
    {later : Store Data Lock Time} (move : Move (storeOf state) op outcome later)
    (spawned : Machine.Spawned steps acting committing)
    (permitted : (D committing).Permits (state.historyAt acting) op)
    (subject : Machine.Spawned steps index entry) {id : Nat}
    {transaction : OpenTransaction Data Lock Time} (owns : Owns (state.historyAt index) id)
    (before : (storeOf state).find? id = some transaction)
    (still : later.find? id = some transaction) :
    Fact entry later.committed transaction id (state.historyAt index) := by
  have fact := sound.facts subject owns before
  rcases move.committed_cases with same | ⟨another, rival, rfl, found, closed, changed⟩
  · rw [same]
    exact fact
  · have different : id ≠ another := by
      intro same
      subst same
      cases closed.symm.trans still
    rw [changed]
    refine rule.others sound.keeps fact
      (sound.facts spawned (rule.owning permitted rfl) found) permitted (fun lock holds also => ?_)
      (sound.consistent.separate _ _ _ _ different before found)
    exact different (sound.consistent.exclusive _ _ _ _ lock before found holds also)

/-- What a process knows of its own transactions after an operation. -/
theorem Sound.advances (sound : Sound Keeps Fact steps state) {acting : Nat} {committing : Entry}
    {op : L.Op} {outcome : L.interface.Outcome op} {later : Store Data Lock Time}
    (move : Move (storeOf state) op outcome later)
    (spawned : Machine.Spawned steps acting committing)
    (permitted : (D committing).Permits (state.historyAt acting) op)
    (unseen : forall event : Event L.interface, event ∈ state.historyAt acting -> forall id,
      (event.op.transaction = some id ∨ grants event = some id) -> Owns (state.historyAt acting) id)
    {id : Nat} {transaction : OpenTransaction Data Lock Time}
    (owns : Owns (state.historyAt acting ++ [⟨op, outcome⟩]) id)
    (still : later.find? id = some transaction) :
    Fact committing later.committed transaction id (state.historyAt acting ++ [⟨op, outcome⟩]) := by
  rcases owns_append.mp owns with old | begins
  · by_cases granted : grants ⟨op, outcome⟩ = some id
    · cases move with
      | begun time =>
          cases granted
          exact absurd (sound.known old) (Nat.lt_irrefl _)
      | acquired found free =>
          cases granted
          rw [Store.find?_put (Store.lt_of_find? found)] at still
          cases still
          exact rule.acquired sound.keeps (sound.facts spawned old found) permitted
      | answered found admitted ran alone =>
          cases granted
          rw [Store.find?_put (Store.lt_of_find? found)] at still
          cases still
          exact rule.answered sound.keeps (sound.facts spawned old found) permitted admitted ran
      | committed found => cases granted
      | ended concerns silent => cases silent.symm.trans granted
      | untouched outside silent => cases silent.symm.trans granted
    · have before := move.transactions.2 id transaction still granted
      exact rule.idle (sound.survives rule move spawned permitted spawned old before still)
        permitted granted
  · rcases move.begins begins with ⟨rfl, time, rfl⟩
    rw [Store.find?_begin, if_pos rfl] at still
    cases still
    cases begins
    refine rule.begun sound.keeps fun event member => ?_
    have fresh : forall concerned, Owns (state.historyAt acting) concerned ->
        concerned ≠ (storeOf state).transactions.length :=
      fun concerned owned => Nat.ne_of_lt (sound.known owned)
    exact ⟨fun same => fresh _ (unseen event member _ (Or.inl same)) rfl,
      fun same => fresh _ (unseen event member _ (Or.inr same)) rfl⟩

omit rule

/-- A step without an operation, which may close transactions, keeps what is
known. -/
theorem Sound.quiet (sound : Sound Keeps Fact steps state)
    {later : (L.machine Entry start).State} {more : List (L.machine Entry start).Transition}
    (same : forall index, later.historyAt index = state.historyAt index)
    (fewer : forall id transaction, (storeOf later).find? id = some transaction ->
      (storeOf state).find? id = some transaction)
    (length : (storeOf later).transactions.length = (storeOf state).transactions.length)
    (committed : (storeOf later).committed = (storeOf state).committed)
    (started : forall index entry id, Machine.Spawned more index entry ->
      Owns (state.historyAt index) id -> Machine.Spawned steps index entry) :
    Sound Keeps Fact more later where
  consistent := ⟨fun left right one two lock leftFound rightFound =>
      sound.consistent.exclusive left right one two lock (fewer _ _ leftFound) (fewer _ _ rightFound),
    fun left right one two different leftFound rightFound =>
      sound.consistent.separate left right one two different (fewer _ _ leftFound)
        (fewer _ _ rightFound)⟩
  known owns := by
    rw [length]
    exact sound.known (same _ ▸ owns)
  single leftOwns rightOwns := sound.single (same _ ▸ leftOwns) (same _ ▸ rightOwns)
  facts spawned owns found := by
    rw [same] at owns
    rw [same, committed]
    exact sound.facts (started _ _ _ spawned owns) owns (fewer _ _ found)
  keeps := committed ▸ sound.keeps

include rule

/-- The step in which a process performs an operation. -/
theorem Sound.act (sound : Sound Keeps Fact steps state) {acting : Nat} {committing : Entry}
    {op : L.Op} {outcome : L.interface.Outcome op} {later : (L.machine Entry start).State}
    (move : Move (storeOf state) op outcome (storeOf later))
    (own : later.historyAt acting = state.historyAt acting ++ [⟨op, outcome⟩])
    (others : forall index, index ≠ acting -> later.historyAt index = state.historyAt index)
    {more : List (L.machine Entry start).Transition}
    (same : forall index entry, Machine.Spawned more index entry ->
      Machine.Spawned steps index entry)
    (spawned : Machine.Spawned steps acting committing)
    (only : forall entry, Machine.Spawned steps acting entry -> entry = committing)
    (permitted : (D committing).Permits (state.historyAt acting) op)
    (unseen : forall event : Event L.interface, event ∈ state.historyAt acting -> forall id,
      (event.op.transaction = some id ∨ grants event = some id) -> Owns (state.historyAt acting) id) :
    Sound Keeps Fact more later := by
  -- A transaction of another process is not the one the operation is about.
  have apart : forall index id, index ≠ acting -> Owns (state.historyAt index) id ->
      grants ⟨op, outcome⟩ ≠ some id := by
    intro index id different owns granted
    rcases move.granted_cases granted with new | concerned
    · exact Nat.ne_of_lt (sound.known owns) new
    · exact different (sound.single owns (rule.owning permitted concerned))
  have since : forall index id, Owns (later.historyAt index) id ->
      Owns (state.historyAt index) id ∨ index = acting ∧ id = (storeOf state).transactions.length ∧
        (storeOf state).transactions.length < (storeOf later).transactions.length := by
    intro index id owns
    by_cases here : index = acting
    · subst here
      rw [own, owns_append] at owns
      refine owns.imp_right fun begins => ?_
      rcases move.begins begins with ⟨new, time, grown⟩
      refine ⟨rfl, new, ?_⟩
      rw [grown, Store.begin, List.length_append, List.length_singleton]
      exact Nat.lt_succ_self _
    · exact Or.inl (others index here ▸ owns)
  constructor
  · exact move.consistent sound.consistent
  · intro index id owns
    rcases since index id owns with old | ⟨_, new, longer⟩
    · exact Nat.lt_of_lt_of_le (sound.known old) move.transactions.1
    · rw [new]
      exact longer
  · intro left right id leftOwns rightOwns
    rcases since left id leftOwns with leftOld | ⟨leftHere, leftNew, _⟩
    · rcases since right id rightOwns with rightOld | ⟨_, rightNew, _⟩
      · exact sound.single leftOld rightOld
      · exact absurd rightNew (Nat.ne_of_lt (sound.known leftOld))
    · rcases since right id rightOwns with rightOld | ⟨rightHere, _, _⟩
      · exact absurd leftNew (Nat.ne_of_lt (sound.known rightOld))
      · exact leftHere.trans rightHere.symm
  · intro index entry id transaction started owns found
    by_cases here : index = acting
    · subst here
      cases only entry (same index entry started)
      rw [own] at owns ⊢
      exact sound.advances rule move spawned permitted unseen owns found
    · rw [others index here] at owns ⊢
      have before := move.transactions.2 id transaction found (apart index id here owns)
      exact sound.survives rule move spawned permitted (same index entry started) owns before found
  · rcases move.committed_cases with unchanged | ⟨id, transaction, rfl, found, _, changed⟩
    · rw [unchanged]
      exact sound.keeps
    · rw [changed]
      exact rule.commits sound.keeps (sound.facts spawned (rule.owning permitted rfl) found)
        permitted

/-- The invariants of transactions hold after every run. -/
theorem Execution.sound {first last : (L.machine Entry start).State}
    (run : Machine.Execution first steps last)
    (starts : forall entry, (start entry).Obeys (D entry) (fun _ _ => True) [])
    (credible : forall entry op outcome, (D entry).Credible op outcome)
    (idle : first.processes = []) (closed : (storeOf first).transactions = [])
    (initially : Keeps (storeOf first).committed) : Sound Keeps Fact steps last := by
  have believed : forall entry op choice world outcome later,
      (L.machine Entry start).exec op choice world = some (outcome, later) ->
        (D entry).Credible op outcome := fun entry op _ _ outcome _ _ => credible entry op outcome
  induction run with
  | start =>
      have none : forall index, first.historyAt index = [] := by
        intro index
        rw [Machine.State.historyAt, idle]
        rfl
      have shut : forall id transaction, (storeOf first).find? id ≠ some transaction := by
        intro id transaction found
        rw [Store.find?, closed] at found
        cases found
      refine ⟨⟨?_, ?_⟩, ?_, ?_, ?_, initially⟩
      · exact fun left right one two lock found => absurd found (shut _ _)
      · exact fun left right one two _ found => absurd found (shut _ _)
      · intro index id owns
        rw [none] at owns
        cases owns
      · intro left right id owns
        rw [none] at owns
        cases owns
      · exact fun _ _ found => absurd found (shut _ _)
  | @next steps state after label run stepped sound =>
      cases label with
      | spawn entry =>
          have length : (storeOf after).transactions.length =
              (storeOf state).transactions.length := by
            cases Machine.State.step_spawn stepped
            rfl
          refine sound.quiet (fun index => ?_) ?_ length ?_ fun index other id spawned owns => ?_
          · rcases Machine.State.historyAt_step stepped index with
              same | ⟨_, _, _, _, acts, _⟩
            · exact same
            · cases acts
          · cases Machine.State.step_spawn stepped
            exact fun id transaction found => found
          · cases Machine.State.step_spawn stepped
            rfl
          · rcases spawned_append.mp spawned with before | ⟨_, fresh⟩
            · exact before
            · exact absurd (Machine.State.present_of_history owns)
                (Nat.not_lt_of_le (Nat.le_of_eq fresh))
      | crash stopping =>
          rcases Machine.State.step_crash stepped with ⟨process, here, rfl⟩
          refine sound.quiet (fun index => ?_) (fun id transaction found => found) rfl rfl
            fun index other id spawned owns => ?_
          · rcases Machine.State.historyAt_step stepped index with
              same | ⟨_, _, _, _, acts, _⟩
            · exact same
            · cases acts
          · rcases spawned_append.mp spawned with before | ⟨spawning, _⟩
            · exact before
            · cases spawning
      | internal id =>
          rcases Machine.State.step_internal stepped with ⟨store, moved, rfl⟩
          cases moved
          refine sound.quiet (fun index => rfl) (fun other transaction found => ?_) ?_ rfl
            fun index other concerned spawned owns => ?_
          · exact (Store.find?_rollback found).2
          · exact List.length_set
          · rcases spawned_append.mp spawned with before | ⟨spawning, _⟩
            · exact before
            · cases spawning
      | act acting choice =>
          rcases Machine.State.step_act stepped with
            ⟨op, resume, past, outcome, store, here, executed, rfl⟩
          have before : state.historyAt acting = past := Machine.State.historyAt_of_getElem? here
          rcases run.spawned idle here with ⟨committing, spawned⟩
          have permitted := run.permits_next starts believed idle spawned here
          subst before
          have move : Move (storeOf state) op outcome store := move_of_exec executed
          refine sound.act rule move (Machine.State.historyAt_set here _ _)
            (fun index different => Machine.State.historyAt_set_ne different _ _) ?_ spawned
            (fun entry also => run.spawned_unique also spawned) permitted ?_
          · intro index entry started
            rcases spawned_append.mp started with old | ⟨spawning, _⟩
            · exact old
            · cases spawning
          · intro event member id concerned
            rcases List.append_of_mem member with ⟨front, back, split⟩
            have allowed := run.permits_event starts believed idle spawned split
            have grown : forall owned : Nat, Owns front owned ->
                Owns (state.historyAt acting) owned := by
              intro owned owns
              rw [split]
              exact List.mem_append_left _ owns
            rcases event with ⟨performed, answer⟩
            cases performed with
            | begin =>
                rcases concerned with impossible | granted
                · cases impossible
                · cases answer with
                  | error fault => cases granted
                  | ok begun =>
                      cases granted
                      exact member
            | acquire of scope | statement of asked =>
                refine grown id (rule.owning allowed ?_)
                rcases concerned with same | granted
                · exact same
                · cases answer with
                  | error fault => cases granted
                  | ok reply => exact granted
            | commit of | rollback of =>
                refine grown id (rule.owning allowed ?_)
                rcases concerned with same | granted
                · exact same
                · cases answer <;> cases granted
            | now =>
                rcases concerned with impossible | granted
                · cases impossible
                · cases answer <;> cases granted

/-- What a step that commits the transaction of a process does. -/
structure Commits (D : Entry -> Discipline L.interface) (Keeps : Data -> Prop)
    (Fact : Entry -> Data -> OpenTransaction Data Lock Time -> Nat -> History L.interface -> Prop)
    (steps : List (L.machine Entry start).Transition)
    (before after : (L.machine Entry start).State) (index : Nat) (entry : Entry)
    (transaction : OpenTransaction Data Lock Time) (id : Nat) : Prop where
  spawned : Machine.Spawned steps index entry
  pending : before.pending index = some (.commit id)
  fact : Fact entry (storeOf before).committed transaction id (before.historyAt index)
  permitted : (D entry).Permits (before.historyAt index) (.commit id)
  keeps : Keeps (storeOf before).committed
  changed : (storeOf after).committed =
    L.versions.overlay (storeOf before).committed transaction.written

/-- A step that follows a run commits a transaction or leaves the committed
data alone. -/
theorem Execution.commits_next {first after : (L.machine Entry start).State}
    {label : (L.machine Entry start).Label} (run : Machine.Execution first steps state)
    (stepped : state.step label = some after)
    (starts : forall entry, (start entry).Obeys (D entry) (fun _ _ => True) [])
    (credible : forall entry op outcome, (D entry).Credible op outcome)
    (idle : first.processes = []) (closed : (storeOf first).transactions = [])
    (initially : Keeps (storeOf first).committed) :
    (committer (⟨state, label, after⟩ : (L.machine Entry start).Transition) = none ∧
      (storeOf after).committed = (storeOf state).committed) ∨
    Exists fun index => Exists fun entry : Entry => Exists fun transaction => Exists fun id =>
      committer (⟨state, label, after⟩ : (L.machine Entry start).Transition) = some index ∧
      Commits D Keeps Fact steps state after index entry transaction id := by
  have believed : forall entry op choice world outcome later,
      (L.machine Entry start).exec op choice world = some (outcome, later) ->
        (D entry).Credible op outcome := fun entry op _ _ outcome _ _ => credible entry op outcome
  cases label with
  | spawn entry =>
      cases Machine.State.step_spawn stepped
      exact Or.inl ⟨rfl, rfl⟩
  | crash stopping =>
      rcases Machine.State.step_crash stepped with ⟨process, here, rfl⟩
      exact Or.inl ⟨rfl, rfl⟩
  | internal id =>
      rcases Machine.State.step_internal stepped with ⟨store, moved, rfl⟩
      cases moved
      exact Or.inl ⟨rfl, rfl⟩
  | act acting choice =>
      rcases Machine.State.step_act stepped with
        ⟨op, resume, past, outcome, store, here, executed, rfl⟩
      have pending : state.pending acting = some op := by
        rw [Machine.State.pending, here]
      cases ends : commits op choice with
      | false =>
          refine Or.inl ⟨?_, exec_quiet ends executed⟩
          simp only [committer, pending, Option.any_some, ends, Bool.false_eq_true, if_false]
      | true =>
          have started : Exists fun entry : Entry => Machine.Spawned steps acting entry :=
            run.spawned idle here
          rcases started with ⟨entry, spawned⟩
          have permitted := run.permits_next starts believed idle spawned here
          rcases exec_commits ends executed with ⟨id, transaction, rfl, found, changed⟩
          have sound := Execution.sound rule run starts credible idle closed initially
          have before : state.historyAt acting = past :=
            Machine.State.historyAt_of_getElem? here
          subst before
          refine Or.inr ⟨acting, entry, transaction, id, ?_, spawned, pending,
            sound.facts spawned (rule.owning permitted rfl) found, permitted, sound.keeps, changed⟩
          simp only [committer, pending, Option.any_some, ends, if_true]

/-- Every step of a run commits a transaction or leaves the committed data
alone. -/
theorem Execution.commits_step {first last : (L.machine Entry start).State}
    (run : Machine.Execution first steps last)
    (starts : forall entry, (start entry).Obeys (D entry) (fun _ _ => True) [])
    (credible : forall entry op outcome, (D entry).Credible op outcome)
    (idle : first.processes = []) (closed : (storeOf first).transactions = [])
    (initially : Keeps (storeOf first).committed) {step : (L.machine Entry start).Transition}
    (member : step ∈ steps) :
    (committer step = none ∧ (storeOf step.after).committed = (storeOf step.before).committed) ∨
    Exists fun index => Exists fun entry : Entry => Exists fun transaction => Exists fun id =>
      committer step = some index ∧
      Commits D Keeps Fact steps step.before step.after index entry transaction id := by
  rcases List.append_of_mem member with ⟨earlier, rest, rfl⟩
  rcases run.around with ⟨through, stepped, _⟩
  rcases Execution.commits_next rule through stepped starts credible idle closed initially with
    quiet | ⟨index, entry, transaction, id, commits, done⟩
  · exact Or.inl quiet
  · rcases done.spawned with ⟨spawning, there, label, fresh⟩
    exact Or.inr ⟨index, entry, transaction, id, commits,
      ⟨spawning, List.mem_append_left _ there, label, fresh⟩, done.pending, done.fact,
      done.permitted, done.keeps, done.changed⟩

/-- What every commit preserves holds of the commits of a run, in their order. -/
theorem Execution.folds {first last : (L.machine Entry start).State}
    (run : Machine.Execution first steps last)
    (starts : forall entry, (start entry).Obeys (D entry) (fun _ _ => True) [])
    (credible : forall entry op outcome, (D entry).Credible op outcome)
    (idle : first.processes = []) (closed : (storeOf first).transactions = [])
    (initially : Keeps (storeOf first).committed) (holds : List Entry -> Data -> Prop)
    (empty : holds [] (storeOf first).committed)
    (grows : forall {entries committed entry transaction id past}, Keeps committed ->
      Fact entry committed transaction id past -> (D entry).Permits past (.commit id) ->
      holds entries committed ->
      holds (entries ++ [entry]) (L.versions.overlay committed transaction.written)) :
    holds (committedEntries steps) (storeOf last).committed := by
  induction run with
  | start => exact empty
  | @next steps state after label run stepped held =>
      rw [committedEntries_append run stepped idle]
      rcases Execution.commits_next rule run stepped starts credible idle closed initially with
        ⟨quiet, same⟩ | ⟨index, entry, transaction, id, commits, done⟩
      · rw [committedEntry_none quiet, same, Option.toList_none, List.append_nil]
        exact held
      · rw [committedEntry_some commits (run.startedFor_eq done.spawned), Option.toList_some,
          done.changed]
        exact grows done.keeps done.fact done.permitted held

/-- When every commit adds to a quantity what its process has seen of it, the
quantity is the sum of what the committed transactions have added. -/
theorem Execution.sums {first last : (L.machine Entry start).State}
    (run : Machine.Execution first steps last)
    (starts : forall entry, (start entry).Obeys (D entry) (fun _ _ => True) [])
    (credible : forall entry op outcome, (D entry).Credible op outcome)
    (idle : first.processes = []) (closed : (storeOf first).transactions = [])
    (initially : Keeps (storeOf first).committed) {Quantity : Type} [AddMonoid Quantity]
    (value : Data -> Quantity) (weight : Nat -> History L.interface -> Quantity)
    (grows : forall {committed entry transaction id past}, Keeps committed ->
      Fact entry committed transaction id past -> (D entry).Permits past (.commit id) ->
      value (L.versions.overlay committed transaction.written) =
        value committed + weight id past) :
    value (storeOf last).committed = value (storeOf first).committed +
      ((steps.filterMap committedPast).map fun done => weight done.1 done.2).sum := by
  induction run with
  | start => exact (add_zero _).symm
  | @next steps state after label run stepped held =>
      rw [List.filterMap_append, List.map_append, List.sum_append, ← add_assoc, ← held]
      rcases Execution.commits_next rule run stepped starts credible idle closed initially with
        ⟨quiet, same⟩ | ⟨index, entry, transaction, id, commits, done⟩
      · rw [List.filterMap_cons_none (committedPast_none quiet), same]
        exact (add_zero _).symm
      · rw [List.filterMap_cons_some (committedPast_some commits done.pending), done.changed,
          grows done.keeps done.fact done.permitted]
        simp only [List.filterMap_nil, List.map_cons, List.map_nil, List.sum_cons, List.sum_nil,
          add_zero]

end Rule
end Dialect
end Relational
