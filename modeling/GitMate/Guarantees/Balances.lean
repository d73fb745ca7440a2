import GitMate.Statements.Obedience
import GitMate.Statements.Effects
import GitMate.Service.Runs

namespace GitMate

open Relational Interleaving Dialect

/-!
# Balances under concurrency

Debits and credits are single statements that compute the new balance from the
old one in the database.  No lock of the application orders them, and a
transaction may move tokens several times, for one user or for several, before
it commits or fails.  Nevertheless no movement is lost and none is counted
twice: a balance is what it was, plus what the committed transactions were
told to have moved.  A debit never takes more than there is.
-/

variable {digest : String -> Int}

/-! ## What a statement moves -/

/-- The tokens that an answered statement gives to a user. -/
def Statement.tokens (userId : UserId) : (statement : Statement) -> statement.Reply -> Int
  | .debitTokens payer amount, paid => if payer = userId ∧ paid = true then -amount else 0
  | .incrementTokens payee amount, _ => if payee = userId then amount else 0
  | _, _ => 0

def User.gain (amount : Int) (user : User) : User :=
  { user with availableTokens := user.availableTokens + amount }

theorem User.gain_zero (user : User) : user.gain 0 = user := by
  cases user
  simp only [gain, add_zero]

theorem User.gain_gain (one other : Int) (user : User) :
    (user.gain one).gain other = user.gain (one + other) := by
  simp only [gain, add_assoc]

/-- A statement that leaves the users alone moves nothing. -/
theorem map_gain_zero (found : Option User) : found.map (User.gain 0) = found := by
  cases found with
  | none => rfl
  | some user => rw [Option.map_some, User.gain_zero]

theorem find?_debitedUsers {users : Table User.id} {userId : UserId} {amount : Int}
    (paid : users.countWhere (canPay userId amount) = 1) (wanted : UserId) :
    (debitedUsers users userId amount).find? wanted =
      (users.find? wanted).map (User.gain (if userId = wanted then -amount else 0)) := by
  rcases (Table.countWhere_eq_one_iff (canPay_names userId amount)).mp paid with
    ⟨user, found, selected⟩
  by_cases same : userId = wanted
  · subst same
    have debited : (debitedUsers users userId amount).find? userId = _ :=
      Table.find?_compareAndSet found selected
    rw [debited, found, if_pos rfl, Option.map_some, User.gain, ← sub_eq_add_neg]
  · have untouched : (debitedUsers users userId amount).find? wanted = users.find? wanted :=
      Table.find?_compareAndSet_ne (canPay_names userId amount) fun reverse => same reverse.symm
    rw [untouched, if_neg same, map_gain_zero]

theorem find?_creditedUsers {users : Table User.id} {userId : UserId} {amount : Int}
    (wanted : UserId) : (creditedUsers users userId amount).find? wanted =
      (users.find? wanted).map (User.gain (if userId = wanted then amount else 0)) := by
  have credited : (creditedUsers users userId amount).find? wanted = _ :=
    Table.find?_updateMany wanted
  rw [credited]
  cases found : users.find? wanted with
  | none => rfl
  | some user =>
      have named : user.id = wanted := Table.key_of_find? found
      rw [Option.map_some, Option.map_some]
      by_cases same : userId = wanted
      · rw [if_pos (decide_eq_true (named.trans same.symm)), if_pos same]
        rfl
      · rw [if_neg fun chosen => same ((of_decide_eq_true chosen).symm.trans named), if_neg same,
          User.gain_zero]

/-- Each statement gives every user exactly what it is told to have moved. -/
theorem Statement.find?_users {statement : Statement} {surroundings : StatementEnvironment}
    {db after : Database} {reply : statement.Reply}
    (ran : statement.run surroundings db = .ok (reply, after)) (userId : UserId) :
    after.users.find? userId =
      (db.users.find? userId).map (User.gain (statement.tokens userId reply)) := by
  cases statement with
  | debitTokens payer amount =>
      rcases Tx.once_ok ran with ⟨session, done, rfl⟩
      rcases debitTokens_ok done with ⟨rfl, debitedDb, _⟩
      have users : session.db.users = debitedUsers db.users payer amount := debitedDb ▸ rfl
      rw [users]
      by_cases paid : db.users.countWhere (canPay payer amount) = 1
      · rw [find?_debitedUsers paid, Statement.tokens]
        simp only [paid, beq_self_eq_true, and_true]
      · rw [debitedUsers_of_refused paid, Statement.tokens, if_neg, map_gain_zero]
        exact fun both => paid (beq_iff_eq.mp both.2)
  | incrementTokens payee amount =>
      rcases Tx.once_ok ran with ⟨session, done, rfl⟩
      have users : session.db.users = creditedUsers db.users payee amount :=
        (incrementTokens_ok done).2.1 ▸ rfl
      rw [users, find?_creditedUsers]
      rfl
  | query | failStaleUnreserved | failStaleReserved | findActiveJob | createJob | updateJob
  | transitionJob | reserveJob | settleJob | findJob | createReport | findStat | createStat
  | updateStat | complete | upsertRepository =>
      have users : after.users = db.users := by
        cases Statement.effect ran <;> rfl
      rw [users]
      exact (map_gain_zero _).symm

/-- Nothing is moved for a user that does not exist. -/
theorem Statement.tokens_absent {statement : Statement} {surroundings : StatementEnvironment}
    {db after : Database} {reply : statement.Reply}
    (ran : statement.run surroundings db = .ok (reply, after)) {userId : UserId}
    (absent : db.users.find? userId = none) : statement.tokens userId reply = 0 := by
  cases statement with
  | debitTokens payer amount =>
      rcases Tx.once_ok ran with ⟨session, done, rfl⟩
      refine if_neg fun both => ?_
      have paid := beq_iff_eq.mp ((debitTokens_ok done).1.symm.trans both.2)
      rcases (Table.countWhere_eq_one_iff (canPay_names payer amount)).mp paid with ⟨user, found, _⟩
      rw [both.1] at found
      cases absent.symm.trans found
  | incrementTokens payee amount =>
      rcases Tx.once_ok ran with ⟨session, done, rfl⟩
      refine if_neg fun same => ?_
      rcases (incrementTokens_ok done).1 with ⟨user, found⟩
      rw [same] at found
      cases absent.symm.trans found
  | query | failStaleUnreserved | failStaleReserved | findActiveJob | createJob | updateJob
  | transitionJob | reserveJob | settleJob | findJob | createReport | findStat | createStat
  | updateStat | complete | upsertRepository => rfl

/-- Nobody owes tokens. -/
def Solvent (db : Database) : Prop :=
  forall userId user, db.users.find? userId = some user -> 0 ≤ user.availableTokens

/-- A statement takes no more than there is. -/
theorem Statement.solvent {statement : Statement} {surroundings : StatementEnvironment}
    {db after : Database} {reply : statement.Reply}
    (ran : statement.run surroundings db = .ok (reply, after))
    (credits : forall userId amount, statement = .incrementTokens userId amount -> 0 < amount)
    (solvent : Solvent db) : Solvent after := by
  intro userId user found
  have moved := Statement.find?_users ran userId
  rw [found] at moved
  rcases Option.map_eq_some_iff.mp moved.symm with ⟨old, there, rfl⟩
  have before := solvent userId old there
  have enough : -old.availableTokens ≤ statement.tokens userId reply := by
    cases statement with
    | debitTokens payer amount =>
        rcases Tx.once_ok ran with ⟨session, done, rfl⟩
        change _ ≤ if payer = userId ∧ reply = true then -amount else 0
        split
        · rename_i both
          have paid := (debitTokens_ok done).1.symm.trans both.2
          have payable := (balance_debitedUsers (beq_iff_eq.mp paid) userId).1
          rw [both.1, balance, there, Option.map_some, Option.getD_some] at payable
          exact Int.neg_le_neg payable
        · exact Int.neg_nonpos_of_nonneg before
    | incrementTokens payee amount =>
        have positive := credits payee amount rfl
        change _ ≤ if payee = userId then amount else 0
        split <;> omega
    | query | failStaleUnreserved | failStaleReserved | findActiveJob | createJob | updateJob
    | transitionJob | reserveJob | settleJob | findJob | createReport | findStat | createStat
    | updateStat | complete | upsertRepository => exact Int.neg_nonpos_of_nonneg before
  change 0 ≤ old.availableTokens + _
  omega

/-! ## What a transaction has moved -/

/-- The tokens that an event of a transaction gives to a user. -/
def movedBy (userId : UserId) (id : Nat) (event : Event (statements digest).interface) : Int :=
  match event with
  | ⟨.statement of asked, .ok reply⟩ => if of = id then asked.tokens userId reply else 0
  | _ => 0

/-- The tokens that a transaction was told to have given to a user. -/
def movedTokens (userId : UserId) (id : Nat) (past : Past digest) : Int :=
  (past.map (movedBy userId id)).sum

theorem movedTokens_append {userId : UserId} {id : Nat} {past : Past digest}
    {event : Event (statements digest).interface} :
    movedTokens userId id (past ++ [event]) =
      movedTokens userId id past + movedBy userId id event := by
  simp only [movedTokens, List.map_append, List.sum_append, List.map_cons, List.map_nil,
    List.sum_cons, List.sum_nil, add_zero]

/-- Nothing that is no answer of the transaction moves tokens. -/
theorem movedBy_silent {userId : UserId} {id : Nat}
    {event : Event (statements digest).interface} (silent : grants event ≠ some id) :
    movedBy userId id event = 0 := by
  unfold movedBy
  split
  · exact if_neg fun same => silent (congrArg some same)
  · rfl

/-- The transaction sees the committed balances, changed by what it has moved
itself; and if nobody owed tokens to begin with, nobody does. -/
structure BalanceFacts (initially : Prop) (_ : TransactionEntry) (committed : Database)
    (transaction : OpenTransaction Database LockId Instant) (id : Nat) (past : Past digest) :
    Prop where
  view : forall userId, (committed.overlay transaction.written).users.find? userId =
    (committed.users.find? userId).map (User.gain (movedTokens userId id past))
  known : forall userId, committed.users.find? userId = none -> movedTokens userId id past = 0
  solvent : initially -> Solvent (committed.overlay transaction.written)

namespace BalanceFacts

variable {initially : Prop} {entry committing : TransactionEntry} {committed : Database}
  {transaction rival : OpenTransaction Database LockId Instant} {id another : Nat}
  {past seen : Past digest}

theorem more {event : Event (statements digest).interface}
    {next : OpenTransaction Database LockId Instant}
    (facts : BalanceFacts initially entry committed transaction id past)
    (same : next.written = transaction.written) (still : forall userId,
      movedBy userId id event = 0) :
    BalanceFacts initially entry committed next id (past ++ [event]) where
  view userId := by
    rw [same, movedTokens_append, still, add_zero]
    exact facts.view userId
  known userId absent := by
    rw [movedTokens_append, still, add_zero]
    exact facts.known userId absent
  solvent := same ▸ facts.solvent

theorem answered {asked : Statement} {reply : asked.Reply} {surroundings : StatementEnvironment}
    {after : Database} (facts : BalanceFacts initially entry committed transaction id past)
    (issues : entry.Issues past id asked)
    (ran : asked.run surroundings (committed.overlay transaction.written) = .ok (reply, after)) :
    BalanceFacts initially entry committed { transaction with
      written := transaction.written.overlay
        ((committed.overlay transaction.written).changes after) } id
      (past ++ [⟨.statement id asked, .ok reply⟩]) := by
  have led : committed.overlay (transaction.written.overlay
      ((committed.overlay transaction.written).changes after)) = after :=
    (Statement.extends ran).overlay_changes
  have told : forall userId, movedBy userId id (⟨.statement id asked, .ok reply⟩ :
    Event (statements digest).interface) = asked.tokens userId reply := fun _ => if_pos rfl
  refine ⟨fun userId => ?_, fun userId absent => ?_, fun before => ?_⟩
  · rw [led, Statement.find?_users ran, facts.view, Option.map_map, movedTokens_append, told]
    exact congrArg (fun change => (committed.users.find? userId).map change)
      (funext fun user => User.gain_gain _ _ user)
  · have unseen := facts.view userId
    rw [absent, Option.map_none] at unseen
    rw [movedTokens_append, told, facts.known userId absent, Statement.tokens_absent ran unseen,
      add_zero]
  · rw [led]
    refine Statement.solvent ran (fun userId amount same => ?_) (facts.solvent before)
    subst same
    exact issues

/-- The commit of another changes the balances of users for whom the
transaction has done nothing. -/
theorem others (facts : BalanceFacts initially entry committed transaction id past)
    (theirs : BalanceFacts initially committing committed rival another seen)
    (apart : transaction.written.separate rival.written = true) :
    BalanceFacts initially entry (committed.overlay rival.written) transaction id past := by
  have laid : forall (under over_ : Database) (userId : UserId),
      (under.overlay over_).users.find? userId =
        (over_.users.find? userId).or (under.users.find? userId) :=
    fun _ _ userId => Table.find?_overlay userId
  have users := Table.separate_iff.mp (by
    simp only [Database.separate, Bool.and_eq_true] at apart
    exact apart.1.1.1.1.1)
  have same : forall userId, (committed.overlay rival.written).users.find? userId = none ->
      committed.users.find? userId = none :=
    fun userId absent => Option.map_eq_none_iff.mp ((theirs.view userId).symm.trans absent)
  refine ⟨fun userId => ?_, fun userId absent => facts.known userId (same userId absent),
    fun before userId user found => ?_⟩
  · have own := facts.view userId
    rw [laid] at own ⊢
    cases written : transaction.written.users.find? userId with
    | some row =>
        have untouched : rival.written.users.find? userId = none :=
          (users userId).resolve_left fun none => by cases none.symm.trans written
        rw [written, Option.some_or] at own
        rw [Option.some_or, laid, untouched, Option.none_or]
        exact own
    | none =>
        rw [written, Option.none_or] at own
        rw [Option.none_or]
        cases there : committed.users.find? userId with
        | none =>
            have absent := theirs.view userId
            rw [there, Option.map_none] at absent
            rw [absent, Option.map_none]
        | some user =>
            rw [there, Option.map_some] at own
            have nothing : movedTokens userId id past = 0 := by
              have tokens := congrArg User.availableTokens (Option.some.inj own)
              change user.availableTokens = user.availableTokens + _ at tokens
              omega
            rw [nothing, map_gain_zero]
  · rw [laid] at found
    cases written : transaction.written.users.find? userId with
    | some row =>
        rw [written, Option.some_or] at found
        refine facts.solvent before userId user ?_
        rw [laid, written, Option.some_or, found]
    | none =>
        rw [written, Option.none_or] at found
        exact theirs.solvent before userId user found

theorem rule (initially : Prop) :
    (statements digest).TransactionRule (TransactionEntry.conduct digest)
      (fun committed => initially -> Solvent committed) (BalanceFacts initially) where
  owning permitted concerns := Permits.owning permitted concerns
  begun {entry committed time id past} solvent unseen := by
    have nothing : forall userId, movedTokens userId id (past ++ [⟨.begin, .ok id⟩]) = 0 := by
      intro userId
      refine List.sum_eq_zero fun moved member => ?_
      rcases List.mem_map.mp member with ⟨event, told, rfl⟩
      rcases List.mem_append.mp told with before | now
      · exact movedBy_silent (unseen event before).2
      · cases List.mem_singleton.mp now
        rfl
    have empty : committed.overlay Database.empty = committed := Database.overlay_empty committed
    refine ⟨fun userId => ?_, fun userId _ => nothing userId, fun before => ?_⟩
    · change (committed.overlay Database.empty).users.find? userId = _
      rw [empty, nothing, map_gain_zero]
    · change Solvent (committed.overlay Database.empty)
      rw [empty]
      exact solvent before
  acquired _ facts _ := facts.more rfl fun _ => rfl
  answered _ facts permitted _ ran := facts.answered permitted.2 ran
  idle facts _ silent := facts.more rfl fun _ => movedBy_silent silent
  others _ facts theirs _ _ apart := facts.others theirs apart
  commits _ facts _ := facts.solvent

end BalanceFacts

/-! ## Every run -/

section Runs

variable {first last : (isolated digest).State} {steps : List (isolated digest).Transition}
  (run : Machine.Execution first steps last) (idle : first.processes = [])
  (closed : (storeOf first).transactions = [])

include run idle closed

/-- The balance of a user is what it was, plus what the transactions that were
committed have been told to have moved.  Nobody comes to owe tokens. -/
theorem balances_lose_no_update :
    (forall userId, balance (storeOf last).committed.users userId =
      balance (storeOf first).committed.users userId +
        ((steps.filterMap committedPast).map fun done => movedTokens userId done.1 done.2).sum) ∧
    (Solvent (storeOf first).committed -> Solvent (storeOf last).committed) := by
  constructor
  · intro userId
    refine Execution.sums (BalanceFacts.rule False) run TransactionEntry.program_obeys
      (fun _ _ _ => trivial) idle closed ?_ (fun committed => balance committed.users userId)
      (movedTokens userId) ?_
    · exact False.elim
    · intro committed entry transaction id past _ facts _
      change balance (committed.overlay transaction.written).users userId = _
      unfold balance
      rw [facts.view]
      cases found : committed.users.find? userId with
      | none => rw [facts.known userId found]; rfl
      | some user => rfl
  · exact fun solvent => (Execution.sound (BalanceFacts.rule (Solvent (storeOf first).committed))
      run TransactionEntry.program_obeys (fun _ _ _ => trivial) idle closed id).keeps solvent

end Runs

/-! ## A race for the same tokens

Two reservations of one user are open at once, and the tokens are enough for
one of them. -/

def unreservedJob (jobId : JobId) (leaseToken : Uuid) : AnalysisJob :=
  { newJob ⟨1, 1, "key", .api 1 (.create "R1"), ⟨ANALYSIS_MODEL_VERSION, ANALYSIS_PROMPT_VERSION⟩,
      none, none⟩ ⟨0, 0, jobId⟩ with
    status := .running
    leaseToken := some leaseToken
    leaseExpiresAt := some 900000
    startedAt := some 0 }

def unreservedState : (isolated fun _ => 0).State :=
  ⟨⟨{ smallDatabase with analysisJobs := ⟨[unreservedJob 1 101, unreservedJob 2 102],
    by decide +kernel⟩ }, []⟩, []⟩

def told : (statements fun _ => 0).Choice := .answered ⟨⟨1000, 1000, 0⟩, []⟩

/-- The second reservation begins before the first one commits, and is refused
afterwards. -/
def reservationScript : List (isolated fun _ => 0).Label :=
  [.spawn (.reserve ⟨1, 101, 1, 1, 500000, 600000⟩),
    .spawn (.reserve ⟨2, 102, 1, 1, 500000, 600000⟩), .act 0 (.begun 1000), .act 1 (.begun 1000),
    .act 0 told, .act 0 told, .act 0 .granted, .act 1 told, .act 1 .granted]

theorem balances_lose_no_update_racing :
    balance (storeOf (unreservedState.after reservationScript)).committed.users 1 = 400000 ∧
    Solvent (storeOf (unreservedState.after reservationScript)).committed := by
  have run := @Machine.State.trace_execution _ _ unreservedState reservationScript
    (by decide +kernel)
  rcases balances_lose_no_update run rfl rfl with ⟨moved, solvent⟩
  constructor
  · rw [moved 1]
    decide +kernel
  · refine solvent fun userId user found => ?_
    have listed := Table.mem_of_find? found
    have rows : user ∈ [(⟨1, "alice", 1000000⟩ : User), ⟨2, "bob", 1000000⟩] := listed
    simp only [List.mem_cons, List.not_mem_nil, or_false] at rows
    rcases rows with rfl | rfl <;> decide

end GitMate
