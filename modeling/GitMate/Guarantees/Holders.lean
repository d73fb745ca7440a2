import GitMate.Guarantees.Fencing
import GitMate.Guarantees.LifeCycle

namespace GitMate

open Relational Interleaving Machine

/-!
# Who holds a lease

An acknowledged claim puts a process in possession of a lease.  The token of
the lease was unused until then, so nobody else came to hold it, and from then
on the token is in the row of the job or is spent.
-/

variable {deployment : Deployment} {first last state after : SystemState deployment}
  {steps earlier : List (Transition (gitMate deployment))} {label : SystemLabel deployment}

/-! ## What a step does to one row -/

/-- A step in which a command of a process takes effect. -/
structure Performs (step : Transition (gitMate deployment)) (index : Nat) (order : Command) :
    Prop where
  acts : Exists fun choice => step.label = .act index choice
  pending : step.before.pending index = some (.command order)
  committed : Exists fun environment =>
    Committed environment step.before.db order step.after.db

/-- A command after which the database is not the same took effect. -/
theorem Performs.of_changed {index : Nat} {choice : Choice} {order : Command}
    (stepped : state.step (.act index choice) = some after)
    (pending : state.pending index = some (.command order)) (changed : after.db ≠ state.db) :
    Performs ⟨state, .act index choice, after⟩ index order := by
  refine ⟨⟨choice, rfl⟩, pending, ?_⟩
  cases SystemState.databaseStep stepped with
  | quiet same => exact absurd same changed
  | performed performing committed =>
      cases performing.symm.trans pending
      exact ⟨_, committed⟩

/-- A step leaves the row of a job alone, or it is what a sound and permitted
command of one process makes of it. -/
inductive RowStep (state after : SystemState deployment) (label : SystemLabel deployment)
    (job row : AnalysisJob) : Prop where
  | same (unchanged : row = job)
  | performed {index : Nat} {choice : Choice} {order : Command} {environment : Environment}
      {outcome : Except AppError order.Reply} (acts : label = .act index choice)
      (pending : state.pending index = some (.command order))
      (grown : after.historyAt index = state.historyAt index ++ [⟨.command order, outcome⟩])
      (permitted : order.Permitted deployment (state.historyAt index)) (sound : order.Sound)
      (committed : Committed environment state.db order after.db)
      (step : JobStep environment order job row)

theorem rowStep (initial : first.Initial) (reached : Execution first earlier state)
    (stepped : state.step label = some after) {jobId : JobId} {job row : AnalysisJob}
    (found : state.db.findJob jobId = some job) (later : after.db.findJob jobId = some row) :
    RowStep state after label job row := by
  cases ledgerStep initial reached stepped with
  | quiet same =>
      rw [same, found] at later
      exact .same (Option.some.inj later).symm
  | @performed index choice _ order environment past resume outcome pending resumed _ _ permitted
      sound _ committed =>
      have here : state.historyAt index = past := State.historyAt_of_getElem? pending
      have fate := committed.evolves jobId
      rw [found, later] at fate
      have grown : after.historyAt index = past ++ [⟨.command order, outcome⟩] := by
        rw [State.historyAt, resumed,
          List.getElem?_set_self (List.getElem?_eq_some_iff.mp pending).1]
        rfl
      subst here
      cases fate with
      | evolved step =>
          exact .performed rfl (SystemState.pending_of_getElem? pending) grown permitted sound
            committed step

/-- A row that was not there before a step was inserted by it. -/
theorem row_inserted (stepped : state.step label = some after) {jobId : JobId} {row : AnalysisJob}
    (missing : state.db.findJob jobId = none) (later : after.db.findJob jobId = some row) :
    Exists fun input => Exists fun environment => row = newJob input environment := by
  cases SystemState.databaseStep stepped with
  | quiet same =>
      rw [same, missing] at later
      cases later
  | performed pending committed =>
      have fate := committed.evolves jobId
      rw [missing, later] at fate
      cases fate with
      | inserted creating => exact ⟨_, _, rfl⟩

/-! ## Possession -/

theorem JobUpdate.leases_spec {change : JobUpdate} {jobId : JobId} {leaseToken : Uuid}
    (leases : change.leases = some (jobId, leaseToken)) :
    change.row.jobId = jobId ∧ change.installs = some leaseToken ∧
      forall now job, (change.row.data now job).leaseToken = some leaseToken := by
  cases change with
  | start | claimQueued | takeOverExpiredLease | takeOverExpiredBilledLease =>
      cases leases
      exact ⟨rfl, rfl, fun _ _ => rfl⟩
  | recordProviderCharge | updateProgress | releaseForRetry | claimAttempt | markPublished
  | recordFailure => cases leases

theorem holds_append_iff {past : History Services} {op : Op} {outcome : Except AppError op.Reply}
    {jobId : JobId} {leaseToken : Uuid} :
    Holds (past ++ [⟨op, outcome⟩]) jobId leaseToken ↔ Holds past jobId leaseToken ∨
      Exists fun change : JobUpdate => change.leases = some (jobId, leaseToken) ∧
        (⟨op, outcome⟩ : Event Services) = ⟨.command (.update change), .ok true⟩ := by
  constructor
  · rintro ⟨change, did, leases⟩
    rcases List.mem_append.mp did with before | now
    · exact Or.inl ⟨change, before, leases⟩
    · exact Or.inr ⟨change, leases, (List.mem_singleton.mp now).symm⟩
  · rintro (holds | ⟨change, leases, same⟩)
    · exact holds.mono (List.prefix_append _ _)
    · exact ⟨change, same ▸ List.mem_append_right _ List.mem_cons_self, leases⟩

/-- A lease that a process holds is in the row of its job, or its token is
spent. -/
theorem reachable_held (initial : first.Initial) (run : Execution first steps last) {index : Nat}
    {jobId : JobId} {leaseToken : Uuid} (holds : Holds (last.historyAt index) jobId leaseToken) :
    (Exists fun row => last.db.findJob jobId = some row ∧ row.leaseToken = some leaseToken) ∨
      Spent last leaseToken := by
  rcases holds with ⟨change, did, leases⟩
  rcases run.step_of_event initial.processes did with
    ⟨step, member, choice, resume, acts, here, executed⟩
  rcases List.append_of_mem member with ⟨front, rest, rfl⟩
  rcases run.around with ⟨leading, stepped, following⟩
  rcases JobUpdate.leases_spec leases with ⟨named, _, installed⟩
  rcases (World.exec_command executed).2.2 with ⟨environment, idle | ⟨committed, _⟩⟩
  · cases idle.2 true rfl
  · have holding : Exists fun job => step.after.db.findJob jobId = some job ∧
        job.leaseToken = some leaseToken := by
      change Committed environment step.before.world.db (.update change) step.after.db at committed
      generalize step.after.db = later at committed ⊢
      subst named
      cases committed with
      | updated found guarded =>
          exact ⟨_, RowUpdate.find?_apply found guarded, installed _ _⟩
    rcases holding with ⟨job, found, held⟩
    exact held_or_spent initial (leading.next stepped) found held following

/-- A lease that a process holds was used. -/
theorem Holds.used (initial : first.Initial) (run : Execution first steps last) {index : Nat}
    {jobId : JobId} {leaseToken : Uuid} (holds : Holds (last.historyAt index) jobId leaseToken)
    (other : Nat) : leaseToken ∉ unusedAt last other := by
  rcases reachable_held initial run holds with ⟨row, found, held⟩ | spent
  · exact ((reachable_leases initial run).held jobId row leaseToken found held).2 other
  · exact spent.used other

/-- A process comes to hold a lease only by a claim of its own, with a token
that it held unused. -/
theorem holds_step (initial : first.Initial) (reached : Execution first earlier state)
    (stepped : state.step label = some after) {index : Nat} {jobId : JobId} {leaseToken : Uuid}
    (holds : Holds (after.historyAt index) jobId leaseToken) :
    Holds (state.historyAt index) jobId leaseToken ∨
      leaseToken ∈ unusedAt state index ∧ Exists fun change : JobUpdate =>
        change.leases = some (jobId, leaseToken) ∧
          Performs ⟨state, label, after⟩ index (.update change) := by
  rcases State.historyAt_step stepped index with
    same | ⟨choice, op, resume, outcome, acts, here, executed, grown⟩
  · rw [same] at holds
    exact Or.inl holds
  · rw [grown] at holds
    rcases holds_append_iff.mp holds with before | ⟨change, leases, event⟩
    · exact Or.inl before
    · cases event
      have permitted := ((reachable_disciplined initial reached).permits here).1
      refine Or.inr ⟨permitted.unused (JobUpdate.leases_spec leases).2.1, change, leases, ⟨choice, acts⟩,
        SystemState.pending_of_getElem? here, ?_⟩
      rcases (World.exec_command executed).2.2 with ⟨environment, idle | ⟨committed, _⟩⟩
      · cases idle.2 true rfl
      · exact ⟨environment, committed⟩

end GitMate
