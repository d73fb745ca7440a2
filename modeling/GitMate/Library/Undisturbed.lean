import GitMate.Library.Transactions

namespace Relational.Dialect

open Interleaving

/-!
# A transaction that nobody disturbs

A program of statements can also be read as sequential code on the data: run
one statement after the other and forget the locks.  When no other transaction
is open, the machine does exactly this.  The transaction commits what the
sequential code computes, and leaves the data alone when that code fails.
-/

variable {Data Lock Time : Type} {L : Dialect Data Lock Time} {α β : Type}

/-! ## One program after the other -/

/-- Perform the operations of a program with nobody else acting in between. -/
def alone [DecidableEq Lock] (choose : L.Op -> L.Choice) :
    Program L.interface α -> Store Data Lock Time ->
      Option (L.interface.Ending α × Store Data Lock Time)
  | .done value, store => some (.ok value, store)
  | .fail fault, store => some (.error fault, store)
  | .request op resume, store =>
      (exec op (choose op) store).bind fun done => alone choose (resume done.1) done.2

theorem alone_bind [DecidableEq Lock] {choose : L.Op -> L.Choice}
    {program : Program L.interface α} {next : α -> Program L.interface β}
    {store later : Store Data Lock Time} :
    (forall {value}, alone choose program store = some (.ok value, later) ->
      alone choose (program >>= next) store = alone choose (next value) later) ∧
    (forall {fault}, alone choose program store = some (.error fault, later) ->
      alone choose (program >>= next) store = some (.error fault, later)) := by
  induction program generalizing store with
  | done value =>
      refine ⟨fun ran => ?_, fun ran => ?_⟩
      · cases ran
        rfl
      · cases ran
  | fail fault =>
      refine ⟨fun ran => ?_, fun ran => ?_⟩
      · cases ran
      · cases ran
        rfl
  | request op resume inductionHypothesis =>
      have unfolded : forall {γ : Type} {rest : L.interface.Outcome op -> Program L.interface γ},
          alone choose (.request op rest) store =
            (exec op (choose op) store).bind fun done => alone choose (rest done.1) done.2 := rfl
      change (forall {value}, alone choose (.request op resume) store = some (.ok value, later) ->
          alone choose (.request op fun outcome => resume outcome >>= next) store = _) ∧ _
      cases executed : exec op (choose op) store with
      | none =>
          refine ⟨fun ran => ?_, fun ran => ?_⟩
          · rw [unfolded, executed] at ran
            cases ran
          · rw [unfolded, executed] at ran
            cases ran
      | some done =>
          refine ⟨fun ran => ?_, fun ran => ?_⟩
          · rw [unfolded, executed, Option.bind_some] at ran ⊢
            exact (inductionHypothesis done.1).1 ran
          · rw [unfolded, executed, Option.bind_some] at ran
            change alone choose (.request op fun outcome => resume outcome >>= next) store = _
            rw [unfolded, executed, Option.bind_some]
            exact (inductionHypothesis done.1).2 ran

theorem alone_attempt [DecidableEq Lock] {choose : L.Op -> L.Choice}
    {program : Program L.interface α} {store later : Store Data Lock Time}
    {ending : L.interface.Ending α} (ran : alone choose program store = some (ending, later)) :
    alone choose (Program.attempt program) store = some (.ok ending, later) := by
  induction program generalizing store with
  | done value =>
      cases ran
      rfl
  | fail fault =>
      cases ran
      rfl
  | request op resume inductionHypothesis =>
      change (exec op (choose op) store).bind _ = _ at ran
      change (exec op (choose op) store).bind
        (fun done => alone choose (Program.attempt (resume done.1)) done.2) = _
      cases executed : exec op (choose op) store with
      | none =>
          rw [executed] at ran
          cases ran
      | some done =>
          rw [executed, Option.bind_some] at ran
          rw [Option.bind_some]
          exact inductionHypothesis done.1 ran

/-- The program that has ended. -/
def endedProgram : L.interface.Ending α -> Program L.interface α
  | .ok value => .done value
  | .error fault => .fail fault

/-- The machine can run the program of a process alone. -/
theorem execution_of_alone [DecidableEq Lock] {Entry : Type}
    {start : Entry -> Program L.interface Unit} {choose : L.Op -> L.Choice}
    {program : Program L.interface Unit} {state : (L.machine Entry start).State} {index : Nat}
    {past : History L.interface} (here : state.processes[index]? = some ⟨program, past⟩)
    {ending : L.interface.Ending Unit} {later : Store Data Lock Time}
    (ran : alone choose program (storeOf state) = some (ending, later)) :
    Exists fun steps => Exists fun last : (L.machine Entry start).State =>
      Machine.Execution state steps last ∧
      (forall step : (L.machine Entry start).Transition, step ∈ steps ->
        step.actor = some index) ∧
      storeOf last = later ∧
      Exists fun events =>
        last.processes = state.processes.set index ⟨endedProgram ending, events⟩ := by
  have unmoved : forall {same : Process L.interface} {state : (L.machine Entry start).State},
      state.processes[index]? = some same ->
        state.processes = state.processes.set index same := by
    intro same state here
    rcases List.getElem?_eq_some_iff.mp here with ⟨inside, rfl⟩
    exact (List.set_getElem_self inside).symm
  induction program generalizing state past with
  | done value =>
      cases ran
      exact ⟨[], state, .start, fun _ none => absurd none List.not_mem_nil, rfl, past, unmoved here⟩
  | fail fault =>
      cases ran
      exact ⟨[], state, .start, fun _ none => absurd none List.not_mem_nil, rfl, past, unmoved here⟩
  | request op resume inductionHypothesis =>
      change (exec op (choose op) (storeOf state)).bind _ = _ at ran
      cases executed : exec op (choose op) (storeOf state) with
      | none =>
          rw [executed] at ran
          cases ran
      | some done =>
          rw [executed, Option.bind_some] at ran
          have stepped : state.step (.act index (choose op)) = some ⟨done.2,
              state.processes.set index ⟨resume done.1, past ++ [⟨op, done.1⟩]⟩⟩ := by
            have acts : (L.machine Entry start).exec op (choose op) state.world =
              some (done.1, done.2) := executed
            simp only [Machine.State.step, here]
            exact congrArg (Option.map _) acts
          have inside := (List.getElem?_eq_some_iff.mp here).1
          have there : (⟨done.2, state.processes.set index
              ⟨resume done.1, past ++ [⟨op, done.1⟩]⟩⟩ : (L.machine Entry start).State).processes[
                index]? = some ⟨resume done.1, past ++ [⟨op, done.1⟩]⟩ :=
            List.getElem?_set_self inside
          rcases inductionHypothesis done.1 there ran with
            ⟨steps, last, run, acting, stored, events, ended⟩
          refine ⟨_, last, (Machine.Execution.start.next stepped).append run, fun step member => ?_,
            stored, events, ?_⟩
          · rcases List.mem_append.mp member with first | rest
            · cases List.mem_singleton.mp first
              rfl
            · exact acting step rest
          · rw [ended, List.set_set]

/-! ## Sequential code -/

/-- The choices of surroundings in which nothing goes wrong. -/
def undisturbed (begun : Time) (environment : L.Environment) (clock : Time) : L.Op -> L.Choice
  | .begin => .begun begun
  | .acquire .. => .granted
  | .statement .. => .answered environment
  | .commit _ => .granted
  | .rollback _ => .granted
  | .now => .read clock

/-- Run the statements of a program one after the other; a statement that
fails ends the program. -/
def sequential (environment : L.Environment) (clock : Time) :
    Program L.interface α -> Data -> Except L.Fault (α × Data)
  | .done value, data => .ok (value, data)
  | .fail fault, _ => .error fault
  | .request (.statement _ statement) resume, data =>
      match L.run statement environment data with
      | .ok done => sequential environment clock (resume (.ok done.1)) done.2
      | .error fault => .error fault
  | .request (.acquire ..) resume, data => sequential environment clock (resume (.ok ())) data
  | .request .now resume, data => sequential environment clock (resume (.ok clock)) data
  | .request .begin resume, data => sequential environment clock (resume (.ok 0)) data
  | .request (.commit _) resume, data => sequential environment clock (resume (.ok ())) data
  | .request (.rollback _) resume, data => sequential environment clock (resume (.ok ())) data

theorem sequential_bind {environment : L.Environment} {clock : Time}
    {program : Program L.interface α} {next : α -> Program L.interface β} {data : Data} :
    sequential environment clock (program >>= next) data =
      (sequential environment clock program data).bind fun done =>
        sequential environment clock (next done.1) done.2 := by
  induction program generalizing data with
  | done value => rfl
  | fail fault => rfl
  | request op resume inductionHypothesis =>
      change sequential environment clock
        (.request op fun outcome => resume outcome >>= next) data = _
      cases op with
      | statement id statement =>
          simp only [sequential]
          cases L.run statement environment data with
          | error fault => rfl
          | ok done => exact inductionHypothesis (.ok done.1)
      | begin | acquire | now | commit | rollback => exact inductionHypothesis _

theorem sequential_issue {environment : L.Environment} {clock : Time} {id : Nat}
    {statement : L.Statement} {data : Data} :
    sequential environment clock (issue (L := L) id statement) data =
      L.run statement environment data := by
  simp only [issue, Program.perform, sequential]
  cases L.run statement environment data <;> rfl

/-- The program is the body of a transaction: it locks, issues statements of
the transaction and reads the clock, and passes every fault on. -/
def Plain (id : Nat) : Program L.interface α -> Prop
  | .done _ => True
  | .fail _ => True
  | .request (.statement other _) resume => other = id ∧
      (forall fault, resume (.error fault) = .fail fault) ∧
      forall reply, Plain id (resume (.ok reply))
  | .request (.acquire other _) resume => other = id ∧
      (forall fault, resume (.error fault) = .fail fault) ∧ Plain id (resume (.ok ()))
  | .request .now resume => (forall fault, resume (.error fault) = .fail fault) ∧
      forall time, Plain id (resume (.ok time))
  | .request .begin _ | .request (.commit _) _ | .request (.rollback _) _ => False

theorem Plain.bind {id : Nat} {program : Program L.interface α}
    {next : α -> Program L.interface β} (plain : Plain id program)
    (continues : forall value, Plain id (next value)) : Plain id (program >>= next) := by
  have passed : forall {op : L.Op} {resume : L.interface.Outcome op -> Program L.interface α}
      {fault : L.Fault}, resume (.error fault) = .fail fault ->
        resume (.error fault) >>= next = .fail fault := by
    intro op resume fault same
    rw [same]
    rfl
  induction program with
  | done value => exact continues value
  | fail fault => trivial
  | request op resume inductionHypothesis =>
      cases op with
      | statement other statement =>
          exact ⟨plain.1, fun fault => passed (plain.2.1 fault),
            fun reply => inductionHypothesis (.ok reply) (plain.2.2 reply)⟩
      | acquire other scope =>
          exact ⟨plain.1, fun fault => passed (plain.2.1 fault),
            inductionHypothesis (.ok ()) plain.2.2⟩
      | now =>
          exact ⟨fun fault => passed (plain.1 fault),
            fun time => inductionHypothesis (.ok time) (plain.2 time)⟩
      | begin | commit | rollback => exact plain.elim

theorem plain_issue {id : Nat} {statement : L.Statement} : Plain id (issue (L := L) id statement) :=
  ⟨rfl, fun _ => rfl, fun _ => trivial⟩

theorem plain_acquire {id : Nat} {scope : L.Scope} : Plain id (acquire (L := L) id scope) :=
  ⟨rfl, fun _ => rfl, trivial⟩

theorem plain_now {id : Nat} : Plain id (now (L := L)) := ⟨fun _ => rfl, fun _ => trivial⟩

/-! ## The machine agrees -/

variable (L) in
/-- Laying the versions of a transaction over the data is faithful. -/
structure Lawful : Prop where
  overlay_nothing : forall data, L.versions.overlay data L.versions.nothing = data
  overlay_changes : forall {committed written statement environment reply after},
    L.run statement environment (L.versions.overlay committed written) = .ok (reply, after) ->
    L.versions.overlay committed (L.versions.overlay written
      (L.versions.changes (L.versions.overlay committed written) after)) = after

/-- One transaction is open and no other. -/
structure Lone (store : Store Data Lock Time) (id : Nat)
    (transaction : OpenTransaction Data Lock Time) : Prop where
  found : store.find? id = some transaction
  only : forall other rival, other ≠ id -> store.find? other ≠ some rival

variable {store : Store Data Lock Time} {id : Nat}
  {transaction : OpenTransaction Data Lock Time}

theorem Lone.anyOther (lone : Lone store id transaction)
    (test : OpenTransaction Data Lock Time -> Bool) : store.anyOther id test = false :=
  Store.anyOther_eq_false_iff.mpr fun other rival different found =>
    absurd found (lone.only other rival different)

theorem Lone.put (lone : Lone store id transaction) (next : OpenTransaction Data Lock Time) :
    Lone (store.put id (some next)) id next := by
  refine ⟨Store.find?_put (Store.lt_of_find? lone.found) _, fun other rival different found => ?_⟩
  rw [Store.find?_put_ne different] at found
  exact lone.only other rival different found

/-- How an undisturbed body ends. -/
structure EndsWith (store : Store Data Lock Time) (id : Nat) (begun : Time) (after : Data)
    (later : Store Data Lock Time) : Prop where
  lone : Exists fun next => Lone later id next ∧ next.begun = begun ∧
    later.view L.versions next = after
  committed : later.committed = store.committed

/-- A statement of the only transaction goes through. -/
theorem Lone.answer (lone : Lone store id transaction) {statement : L.Statement}
    {environment : L.Environment}
    (admitted : L.admissible transaction.begun statement environment = true) :
    Dialect.answer store id statement environment =
      match L.run statement environment (store.view L.versions transaction) with
      | .error fault => some (.error fault, store.rollback id)
      | .ok (reply, after) => some (.ok reply, store.put id (some { transaction with
          written := store.rewritten L.versions transaction after })) := by
  unfold Dialect.answer
  rw [lone.found, Option.bind_some, if_pos admitted]
  cases L.run statement environment (store.view L.versions transaction) with
  | error fault => rfl
  | ok done =>
      change (store.write L.versions id done.2).map _ = _
      unfold Store.write
      rw [lone.found, Option.bind_some, if_neg, Option.map_some]
      rw [lone.anyOther]
      exact Bool.false_ne_true

theorem Lone.acquire [DecidableEq Lock] (lone : Lone store id transaction) (lock : Lock) :
    store.acquire id lock = some (store.put id
      (some { transaction with locks := lock :: transaction.locks })) := by
  unfold Store.acquire
  rw [lone.found, Option.bind_some, if_neg]
  rw [lone.anyOther]
  exact Bool.false_ne_true

variable [DecidableEq Lock]

theorem alone_plain (lawful : L.Lawful) {environment : L.Environment} {begun : Time} (clock : Time)
    (admitted : forall statement, L.admissible begun statement environment = true)
    {program : Program L.interface α} (plain : Plain id program)
    (lone : Lone store id transaction) (since : transaction.begun = begun) :
    (forall value after,
      sequential environment clock program (store.view L.versions transaction) =
        .ok (value, after) ->
      Exists fun later => alone (undisturbed begun environment clock) program store =
          some (.ok value, later) ∧ EndsWith (L := L) store id begun after later) ∧
    (forall fault,
      sequential environment clock program (store.view L.versions transaction) = .error fault ->
      Exists fun later => alone (undisturbed begun environment clock) program store =
          some (.error fault, later) ∧ later.committed = store.committed ∧
        forall other rival, other ≠ id -> later.find? other ≠ some rival) := by
  induction program generalizing store transaction with
  | done value =>
      refine ⟨fun result after ran => ?_, fun fault ran => ?_⟩
      · cases ran
        exact ⟨store, rfl, ⟨transaction, lone, since, rfl⟩, rfl⟩
      · cases ran
  | fail fault =>
      refine ⟨fun result after ran => ?_, fun other ran => ?_⟩
      · cases ran
      · cases ran
        exact ⟨store, rfl, rfl, lone.only⟩
  | request op resume inductionHypothesis =>
      -- What remains to be done after a step that leaves the transaction alone and open.
      have continues : forall {outcome : L.interface.Outcome op} {middle : Store Data Lock Time},
          exec op (undisturbed begun environment clock op) store = some (outcome, middle) ->
          alone (undisturbed begun environment clock) (.request op resume) store =
            alone (undisturbed begun environment clock) (resume outcome) middle := by
        intro outcome middle executed
        change (exec op (undisturbed begun environment clock op) store).bind _ = _
        rw [executed, Option.bind_some]
      cases op with
      | statement other statement =>
          rcases plain with ⟨rfl, passes, plain⟩
          have answered := lone.answer (since ▸ admitted statement)
          cases ran : L.run statement environment (store.view L.versions transaction) with
          | error fault =>
              rw [ran] at answered
              have failed := continues answered
              rw [passes] at failed
              simp only [sequential, ran]
              refine ⟨fun value after impossible => ?_, fun other same => ?_⟩
              · cases impossible
              · cases same
                refine ⟨_, failed, rfl, fun rival opened different found => ?_⟩
                exact lone.only rival opened different (Store.find?_rollback found).2
          | ok done =>
              rw [ran] at answered
              have led : (store.put other (some { transaction with
                  written := store.rewritten L.versions transaction done.2 })).view L.versions
                    { transaction with
                      written := store.rewritten L.versions transaction done.2 } = done.2 :=
                lawful.overlay_changes ran
              have rest := inductionHypothesis (.ok done.1) (plain done.1) (lone.put
                { transaction with
                  written := store.rewritten L.versions transaction done.2 }) since
              rw [led] at rest
              simp only [sequential, ran]
              rw [continues answered]
              exact ⟨fun value after same => (rest.1 value after same).imp
                fun _ ended => ⟨ended.1, ended.2.lone, ended.2.committed⟩, rest.2⟩
      | acquire other scope =>
          rcases plain with ⟨rfl, passes, plain⟩
          have granted : exec (.acquire other scope) (undisturbed begun environment clock
              (.acquire other scope)) store = some (.ok (), store.put other
                (some { transaction with locks := L.lockOf scope :: transaction.locks })) := by
            change (store.acquire other (L.lockOf scope)).map _ = _
            rw [lone.acquire, Option.map_some]
          have rest := inductionHypothesis (.ok ()) plain (lone.put
            { transaction with locks := L.lockOf scope :: transaction.locks }) since
          simp only [sequential]
          rw [continues granted]
          exact ⟨fun value after same => (rest.1 value after same).imp
            fun _ ended => ⟨ended.1, ended.2.lone, ended.2.committed⟩, rest.2⟩
      | now =>
          have read : exec .now (undisturbed begun environment clock .now) store =
            some (.ok clock, store) := rfl
          simp only [sequential]
          rw [continues read]
          exact inductionHypothesis (.ok clock) (plain.2 clock) lone since
      | begin | commit | rollback => exact plain.elim

/-- How a transaction ends after its body. -/
def finish (id : Nat) : L.interface.Ending α -> Program L.interface α
  | .ok value => commit id >>= fun _ => pure value
  | .error fault => Program.attempt (rollback id) >>= fun _ => throw fault

/-- A transaction that nobody disturbs commits what its body computes as
sequential code, and leaves the data alone when the body fails.  It is over
then. -/
theorem alone_transaction (lawful : L.Lawful) {environment : L.Environment} {begun : Time}
    (clock : Time) (admitted : forall statement, L.admissible begun statement environment = true)
    {body : Nat -> Program L.interface α} (plain : forall id, Plain id (body id))
    (closed : forall id rival, store.find? id ≠ some rival) :
    (forall value after,
      sequential environment clock (body store.transactions.length) store.committed =
        .ok (value, after) ->
      Exists fun later => alone (undisturbed begun environment clock)
          (Dialect.transaction body) store = some (.ok value, later) ∧ later.committed = after ∧
        forall id rival, later.find? id ≠ some rival) ∧
    (forall fault,
      sequential environment clock (body store.transactions.length) store.committed =
        .error fault ->
      Exists fun later => alone (undisturbed begun environment clock)
          (Dialect.transaction body) store = some (.error fault, later) ∧
        later.committed = store.committed ∧ forall id rival, later.find? id ≠ some rival) := by
  have lone : Lone (store.begin L.versions begun) store.transactions.length
      ⟨begun, [], L.versions.nothing⟩ := by
    refine ⟨by rw [Store.find?_begin, if_pos rfl], fun other rival different found => ?_⟩
    rw [Store.find?_begin, if_neg different] at found
    exact closed other rival found
  have view : (store.begin L.versions begun).view L.versions ⟨begun, [], L.versions.nothing⟩ =
    store.committed := lawful.overlay_nothing _
  have ends := alone_plain lawful clock admitted (plain store.transactions.length) lone rfl
  rw [view] at ends
  have started : forall {ending : L.interface.Ending α} {later : Store Data Lock Time},
      alone (undisturbed begun environment clock) (body store.transactions.length)
        (store.begin L.versions begun) = some (ending, later) ->
      alone (undisturbed begun environment clock) (Dialect.transaction body) store =
        alone (undisturbed begun environment clock)
          (finish store.transactions.length ending) later :=
    fun reached => alone_bind.1 (alone_attempt reached)
  have closes : forall {later : Store Data Lock Time},
      (forall other rival, other ≠ store.transactions.length -> later.find? other ≠ some rival) ->
      forall id rival, (later.rollback store.transactions.length).find? id ≠ some rival :=
    fun only id rival found =>
      only id rival (Store.find?_rollback found).1 (Store.find?_rollback found).2
  refine ⟨fun value after ran => ?_, fun fault ran => ?_⟩
  · rcases ends.1 value after ran with ⟨later, reached, ⟨next, opened, _, seen⟩, same⟩
    refine ⟨{ later.put store.transactions.length none with
      committed := later.view L.versions next }, ?_, seen, closes opened.only⟩
    rw [started reached]
    change ((later.commit L.versions _).map _).bind _ = _
    rw [Store.commit, opened.found]
    rfl
  · rcases ends.2 fault ran with ⟨later, reached, same, only⟩
    refine ⟨later.rollback store.transactions.length, ?_, same, closes only⟩
    rw [started reached]
    rfl

end Relational.Dialect
