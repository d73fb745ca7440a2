import Mathlib.Data.List.Basic

namespace Interleaving

/-!
# Programs that perform one atomic operation at a time

A concurrent service is a collection of processes, each of which runs ordinary
sequential code between its calls to a shared database, a queue, a clock or a
remote service.  What other processes can observe is exactly the order of
those calls.  `Program` therefore keeps the sequential code as a tree: a node
is one atomic operation, and the branches are all replies it may receive,
including a fault in place of a reply.

A `Discipline` says which operations a process may perform, given what it has
performed before and the outcomes it has seen.  `Program.Obeys` says that a
program respects a discipline whatever replies it receives.  The rules below
follow the shape of the program, so a proof about a procedure is assembled
from the proofs of the procedures it calls; and since a history only grows,
what a procedure has seen stays known to everything that runs after it.
-/

/-- The atomic operations of a shared world, with the type of the reply to
each of them.  Every operation may raise a fault instead of replying. -/
structure Interface where
  Op : Type
  Reply : Op -> Type
  Fault : Type

/-- What a process learns from one operation. -/
abbrev Interface.Outcome (I : Interface) (op : I.Op) : Type :=
  Except I.Fault (I.Reply op)

/-- Sequential code over an interface.  It returns, raises a fault, or
performs an operation and continues with the outcome. -/
inductive Program (I : Interface) (α : Type) : Type where
  | done (value : α)
  | fail (fault : I.Fault)
  | request (op : I.Op) (resume : I.Outcome op -> Program I α)

namespace Program

variable {I : Interface} {α β : Type}

def bind : Program I α -> (α -> Program I β) -> Program I β
  | .done value, next => next value
  | .fail fault, _ => .fail fault
  | .request op resume, next => .request op (fun outcome => (resume outcome).bind next)

def handle : Program I α -> (I.Fault -> Program I α) -> Program I α
  | .done value, _ => .done value
  | .fail fault, handler => handler fault
  | .request op resume, handler => .request op (fun outcome => (resume outcome).handle handler)

instance : Monad (Program I) where
  pure := .done
  bind := bind

instance : MonadExceptOf I.Fault (Program I) where
  throw := .fail
  tryCatch := handle

/-- One operation, whose fault becomes a fault of the caller. -/
def perform (op : I.Op) : Program I (I.Reply op) :=
  .request op fun
    | .ok reply => .done reply
    | .error fault => .fail fault

/-- Run a procedure and hand its fault to the caller as a value. -/
def attempt (body : Program I α) : Program I (Except I.Fault α) :=
  tryCatch (body >>= fun value => pure (.ok value)) (fun fault => pure (.error fault))

/-- A process that still has an operation to perform. -/
def running : Program I α -> Bool
  | .request _ _ => true
  | _ => false

end Program

/-! ## Disciplines -/

/-- One performed operation and its outcome. -/
structure Event (I : Interface) where
  op : I.Op
  outcome : I.Outcome op

/-- What a process has done so far, the latest event last. -/
abbrev History (I : Interface) : Type := List (Event I)

/-- A restriction on the operations of one process.  `Permits` says what a
process may do next, and `Credible` which outcomes the world can produce. -/
structure Discipline (I : Interface) where
  Permits : History I -> I.Op -> Prop
  Credible : (op : I.Op) -> I.Outcome op -> Prop

/-- How a program ends: with a value or with a fault. -/
abbrev Interface.Ending (I : Interface) (α : Type) : Type := Except I.Fault α

/-- What is to hold when a program ends. -/
abbrev Interface.Post (I : Interface) (α : Type) : Type := History I -> I.Ending α -> Prop

namespace Program

variable {I : Interface} {α β : Type}

/-- After `past`, the program performs only permitted operations whatever it
is told, and `ends` relates its whole history to the way it ends. -/
def Obeys (D : Discipline I) (ends : I.Post α) : History I -> Program I α -> Prop
  | past, .done value => ends past (.ok value)
  | past, .fail fault => ends past (.error fault)
  | past, .request op resume =>
      D.Permits past op ∧
        forall outcome, D.Credible op outcome ->
          Obeys D ends (past ++ [⟨op, outcome⟩]) (resume outcome)

variable {D : Discipline I} {past : History I}

/-- A program that has obeyed ends in a history that extends the one it
started from, so its ending may be weakened with that knowledge. -/
theorem Obeys.mono {weaker stronger : I.Post α} {program : Program I α}
    (obeys : Obeys D stronger past program)
    (implies : forall later ending, past <+: later -> stronger later ending -> weaker later ending) :
    Obeys D weaker past program := by
  induction program generalizing past with
  | done value => exact implies _ _ List.prefix_rfl obeys
  | fail fault => exact implies _ _ List.prefix_rfl obeys
  | request op resume inductionHypothesis =>
      refine ⟨obeys.1, fun outcome credible => ?_⟩
      exact inductionHypothesis outcome (obeys.2 outcome credible) fun later ending extended ended =>
        implies later ending ((List.prefix_append _ _).trans extended) ended

theorem obeys_pure (ends : I.Post α) (value : α) (ended : ends past (.ok value)) :
    Obeys D ends past (pure value) := ended

theorem obeys_throw (ends : I.Post α) (fault : I.Fault) (ended : ends past (.error fault)) :
    Obeys D ends past (throw fault : Program I α) := ended

/-- A sequence obeys when its first part does and the rest obeys whatever the
first part returns.  A fault of the first part is a fault of the sequence. -/
theorem Obeys.bind {middle : I.Post α} {ends : I.Post β} {first : Program I α}
    {next : α -> Program I β} (obeys : Obeys D middle past first)
    (continues : forall later value, past <+: later -> middle later (.ok value) ->
      Obeys D ends later (next value))
    (faults : forall later fault, past <+: later -> middle later (.error fault) ->
      ends later (.error fault)) :
    Obeys D ends past (first >>= next) := by
  change Obeys D ends past (first.bind next)
  induction first generalizing past with
  | done value => exact continues past value List.prefix_rfl obeys
  | fail fault => exact faults past fault List.prefix_rfl obeys
  | request op resume inductionHypothesis =>
      refine ⟨obeys.1, fun outcome credible => ?_⟩
      exact inductionHypothesis outcome (obeys.2 outcome credible)
        (fun later value extended => continues later value ((List.prefix_append _ _).trans extended))
        (fun later fault extended => faults later fault ((List.prefix_append _ _).trans extended))

/-- A handler takes over exactly where the protected part raised its fault. -/
theorem Obeys.tryCatch {middle ends : I.Post α} {body : Program I α}
    {handler : I.Fault -> Program I α} (obeys : Obeys D middle past body)
    (returns : forall later value, past <+: later -> middle later (.ok value) ->
      ends later (.ok value))
    (handles : forall later fault, past <+: later -> middle later (.error fault) ->
      Obeys D ends later (handler fault)) :
    Obeys D ends past (tryCatch body handler) := by
  change Obeys D ends past (body.handle handler)
  induction body generalizing past with
  | done value => exact returns past value List.prefix_rfl obeys
  | fail fault => exact handles past fault List.prefix_rfl obeys
  | request op resume inductionHypothesis =>
      refine ⟨obeys.1, fun outcome credible => ?_⟩
      exact inductionHypothesis outcome (obeys.2 outcome credible)
        (fun later value extended => returns later value ((List.prefix_append _ _).trans extended))
        (fun later fault extended => handles later fault ((List.prefix_append _ _).trans extended))

/-- An attempt always returns, namely the ending of its body. -/
theorem Obeys.attempt {ends : I.Post α} {body : Program I α} (obeys : Obeys D ends past body) :
    Obeys D (fun later ending => Exists fun result => ending = .ok result ∧ ends later result) past
      (attempt body) := by
  have returned : Obeys D (fun later (ending : I.Ending (Except I.Fault α)) => match ending with
      | .ok result => ends later result
      | .error fault => ends later (.error fault)) past (body >>= fun value => pure (.ok value)) :=
    obeys.bind (fun later value _ ended => ended) (fun later fault _ ended => ended)
  exact returned.tryCatch (fun later value _ ended => ⟨value, rfl, ended⟩)
    (fun later fault _ ended => ⟨.error fault, rfl, ended⟩)

/-- A permitted operation ends with a credible outcome as its only event. -/
theorem obeys_perform {op : I.Op} (permitted : D.Permits past op) :
    Obeys D (fun later ending => later = past ++ [⟨op, ending⟩] ∧ D.Credible op ending) past
      (perform op) := by
  refine ⟨permitted, fun outcome credible => ?_⟩
  cases outcome with
  | ok reply => exact ⟨rfl, credible⟩
  | error fault => exact ⟨rfl, credible⟩

/-- An operation is followed by what obeys in view of its reply. -/
theorem obeys_perform_bind {ends : I.Post α} {op : I.Op} {next : I.Reply op -> Program I α}
    (permitted : D.Permits past op)
    (continues : forall reply, Obeys D ends (past ++ [⟨op, .ok reply⟩]) (next reply))
    (faults : forall fault, ends (past ++ [⟨op, .error fault⟩]) (.error fault)) :
    Obeys D ends past (perform op >>= next) := by
  refine ⟨permitted, fun outcome _ => ?_⟩
  cases outcome with
  | ok reply => exact continues reply
  | error fault => exact faults fault

/-- Repeat a procedure once for every element of a list. -/
def forEach (items : List β) (body : β -> Program I Unit) : Program I Unit :=
  match items with
  | [] => pure ()
  | item :: rest => do
      body item
      forEach rest body

/-- An invariant of the body is an invariant of the loop. -/
theorem obeys_forEach {items : List β} {body : β -> Program I Unit} {keeps : History I -> Prop}
    (each : forall item, item ∈ items -> forall past, keeps past ->
      Obeys D (fun later _ => keeps later) past (body item)) (holds : keeps past) :
    Obeys D (fun later _ => keeps later) past (forEach items body) := by
  induction items generalizing past with
  | nil => exact holds
  | cons item rest inductionHypothesis =>
      refine (each item List.mem_cons_self past holds).bind (fun later _ _ kept => ?_)
        (fun later fault _ kept => kept)
      exact inductionHypothesis
        (fun other member => each other (List.mem_cons_of_mem item member)) kept

/-! ## Partial runs -/

/-- What is left of a program after the events of a history. -/
inductive Run : Program I α -> History I -> Program I α -> Prop where
  | start {program : Program I α} : Run program [] program
  | next {program : Program I α} {past : History I} {op : I.Op}
      {resume : I.Outcome op -> Program I α} (run : Run program past (.request op resume))
      (outcome : I.Outcome op) : Run program (past ++ [⟨op, outcome⟩]) (resume outcome)

/-- After its first reply a sequence goes on with what follows it. -/
theorem run_perform_bind (op : I.Op) (reply : I.Reply op) (next : I.Reply op -> Program I β) :
    Run (perform op >>= next) [⟨op, .ok reply⟩] (next reply) :=
  @Run.next I β (perform op >>= next) [] op _ .start (.ok reply)

/-- The last event of a run is the operation that was due. -/
theorem Run.last {program rest : Program I α} {past : History I} {event : Event I}
    (run : Run program (past ++ [event]) rest) :
    Exists fun resume => Run program past (.request event.op resume) ∧
      rest = resume event.outcome := by
  generalize whole : past ++ [event] = events at run
  cases run with
  | start => simp at whole
  | @next before op resume run outcome =>
      rcases List.append_inj' whole rfl with ⟨same, single⟩
      cases List.singleton_inj.1 single
      cases same
      exact ⟨resume, run, rfl⟩

/-- The events determine what is left of a program. -/
theorem Run.unique {program first second : Program I α} {past : History I}
    (one : Run program past first) (other : Run program past second) : first = second := by
  induction one generalizing second with
  | start =>
      generalize none : ([] : History I) = events at other
      cases other with
      | start => rfl
      | next run outcome => simp at none
  | next run outcome inductionHypothesis =>
      rcases other.last with ⟨resume, before, same⟩
      cases inductionHypothesis before
      exact same.symm

/-- What is left of a program that obeys a discipline obeys it too, as long as
the world has given credible replies. -/
theorem Obeys.run {ends : I.Post α} {program rest : Program I α} {events : History I}
    (obeys : Obeys D ends past program) (run : Run program events rest)
    (credible : forall event, event ∈ events -> D.Credible event.op event.outcome) :
    Obeys D ends (past ++ events) rest := by
  induction run with
  | start =>
      rw [List.append_nil]
      exact obeys
  | next run outcome inductionHypothesis =>
      have before := inductionHypothesis fun event member =>
        credible event (List.mem_append_left _ member)
      rw [← List.append_assoc]
      exact before.2 outcome (credible _ (List.mem_append_right _ List.mem_cons_self))

/-- Every operation of a run was permitted when it was performed. -/
theorem Obeys.permits_event {ends : I.Post α} {program rest : Program I α} {events : History I}
    (obeys : Obeys D ends past program) (run : Run program events rest)
    (credible : forall event, event ∈ events -> D.Credible event.op event.outcome)
    {front back : History I} {event : Event I} (split : events = front ++ event :: back) :
    D.Permits (past ++ front) event.op := by
  induction run generalizing back with
  | start => simp at split
  | @next events op resume run outcome inductionHypothesis =>
      have before := fun event member => credible event (List.mem_append_left _ member)
      rcases List.eq_nil_or_concat back with none | ⟨shorter, final, same⟩
      · rw [none] at split
        rcases List.append_inj' split rfl with ⟨sameFront, sameEvent⟩
        cases List.singleton_inj.1 sameEvent
        exact sameFront ▸ (obeys.run run before).1
      · rw [same, List.concat_eq_append, ← List.cons_append, ← List.append_assoc] at split
        exact inductionHypothesis before (List.append_inj' split rfl).1

/-- What every permitted event with a credible outcome preserves holds
throughout a run. -/
theorem Obeys.maintains {ends : I.Post α} {program rest : Program I α} {events : History I}
    {keeps : History I -> Prop} (obeys : Obeys D ends past program) (run : Run program events rest)
    (credible : forall event, event ∈ events -> D.Credible event.op event.outcome)
    (holds : keeps past)
    (preserved : forall history event, keeps history -> D.Permits history event.op ->
      D.Credible event.op event.outcome -> keeps (history ++ [event])) :
    keeps (past ++ events) := by
  induction run with
  | start =>
      rw [List.append_nil]
      exact holds
  | @next events op resume run outcome inductionHypothesis =>
      have before := fun event member => credible event (List.mem_append_left _ member)
      rw [← List.append_assoc]
      exact preserved _ ⟨op, outcome⟩ (inductionHypothesis before) (obeys.run run before).1
        (credible _ (List.mem_append_right _ List.mem_cons_self))

/-! ## Runs against a fixed server -/

/-- The whole run against a server that answers every operation in one way. -/
def serve (server : (op : I.Op) -> I.Outcome op) : Program I α -> History I × I.Ending α
  | .done value => ([], .ok value)
  | .fail fault => ([], .error fault)
  | .request op resume =>
      let later := serve server (resume (server op))
      (⟨op, server op⟩ :: later.1, later.2)

/-- A program that has ended. -/
def ended : I.Ending α -> Program I α
  | .ok value => .done value
  | .error fault => .fail fault

theorem Run.cons {op : I.Op} {resume : I.Outcome op -> Program I α} {rest : Program I α}
    {events : History I} (outcome : I.Outcome op) (run : Run (resume outcome) events rest) :
    Run (.request op resume) (⟨op, outcome⟩ :: events) rest := by
  induction run with
  | start => exact @Run.next I α (.request op resume) [] op resume .start outcome
  | next _ later inductionHypothesis => exact inductionHypothesis.next later

theorem run_serve (server : (op : I.Op) -> I.Outcome op) (program : Program I α) :
    Run program (serve server program).1 (ended (serve server program).2) := by
  induction program with
  | done value => exact .start
  | fail fault => exact .start
  | request op resume inductionHypothesis => exact .cons (server op) (inductionHypothesis _)

theorem outcome_of_mem_serve {server : (op : I.Op) -> I.Outcome op} {program : Program I α}
    {event : Event I} (member : event ∈ (serve server program).1) :
    event.outcome = server event.op := by
  induction program with
  | done | fail => cases member
  | request op resume inductionHypothesis =>
      rcases List.mem_cons.1 member with rfl | later
      · rfl
      · exact inductionHypothesis _ later

/-- A sequence whose second part only computes is run by running its first
part. -/
theorem Run.of_bind {program : Program I α} {finish : α -> β} {past : History I}
    {rest : Program I β} (run : Run (program.bind fun value => .done (finish value)) past rest) :
    Exists fun left => Run program past left ∧
      rest = left.bind fun value => .done (finish value) := by
  induction run with
  | start => exact ⟨program, .start, rfl⟩
  | @next past op resume run outcome inductionHypothesis =>
      rcases inductionHypothesis with ⟨left, before, split⟩
      cases left with
      | done | fail => cases split
      | request acting continue_ =>
          cases split
          exact ⟨continue_ outcome, before.next outcome, rfl⟩

theorem bind_assoc {γ : Type} (program : Program I α) (next : α -> Program I β)
    (further : β -> Program I γ) :
    (program.bind next).bind further = program.bind fun value => (next value).bind further := by
  induction program with
  | done | fail => rfl
  | request op resume inductionHypothesis =>
      simp only [bind, Program.request.injEq, heq_eq_eq, true_and]
      exact funext fun outcome => inductionHypothesis outcome

/-! ## Calls -/

/-- Run a procedure and hand its ending, whichever it is, to what follows. -/
def followedBy : Program I α -> (I.Ending α -> Program I β) -> Program I β
  | .done value, next => next (.ok value)
  | .fail fault, next => next (.error fault)
  | .request op resume, next => .request op fun outcome => (resume outcome).followedBy next

theorem bind_eq_followedBy (body : Program I α) (next : α -> Program I β) :
    body.bind next = body.followedBy fun
      | .ok value => next value
      | .error fault => .fail fault := by
  induction body with
  | done | fail => rfl
  | request op resume inductionHypothesis =>
      simp only [bind, followedBy, Program.request.injEq, heq_eq_eq, true_and]
      exact funext fun outcome => inductionHypothesis outcome

theorem handle_eq_followedBy (body : Program I α) (handler : I.Fault -> Program I α) :
    body.handle handler = body.followedBy fun
      | .ok value => .done value
      | .error fault => handler fault := by
  induction body with
  | done | fail => rfl
  | request op resume inductionHypothesis =>
      simp only [handle, followedBy, Program.request.injEq, heq_eq_eq, true_and]
      exact funext fun outcome => inductionHypothesis outcome

theorem followedBy_followedBy {γ : Type} (body : Program I α) (next : I.Ending α -> Program I β)
    (further : I.Ending β -> Program I γ) :
    (body.followedBy next).followedBy further =
      body.followedBy fun ending => (next ending).followedBy further := by
  induction body with
  | done | fail => rfl
  | request op resume inductionHypothesis =>
      simp only [followedBy, Program.request.injEq, heq_eq_eq, true_and]
      exact funext fun outcome => inductionHypothesis outcome

/-- An attempt goes on with the ending itself. -/
theorem attempt_eq_followedBy (body : Program I α) : attempt body = body.followedBy .done := by
  change (body.bind fun value => .done (Except.ok value)).handle
    (fun fault => .done (Except.error fault)) = _
  rw [bind_eq_followedBy, handle_eq_followedBy, followedBy_followedBy]
  congr
  funext ending
  cases ending <;> rfl

/-- A program that has returned does nothing more. -/
theorem Run.of_done {value : α} {events : History I} {rest : Program I α}
    (run : Run (.done value) events rest) : events = [] ∧ rest = .done value := by
  induction run with
  | start => exact ⟨rfl, rfl⟩
  | next run outcome inductionHypothesis => cases inductionHypothesis.2

theorem Run.of_fail {fault : I.Fault} {events : History I} {rest : Program I α}
    (run : Run (.fail fault) events rest) : events = [] ∧ rest = .fail fault := by
  induction run with
  | start => exact ⟨rfl, rfl⟩
  | next run outcome inductionHypothesis => cases inductionHypothesis.2

/-- A program that is about to perform an operation has not performed it, or
goes on with its outcome. -/
theorem Run.of_request {op : I.Op} {resume : I.Outcome op -> Program I α} {events : History I}
    {rest : Program I α} (run : Run (.request op resume) events rest) :
    events = [] ∧ rest = .request op resume ∨ Exists fun outcome => Exists fun later =>
      events = ⟨op, outcome⟩ :: later ∧ Run (resume outcome) later rest := by
  induction run with
  | start => exact Or.inl ⟨rfl, rfl⟩
  | next run outcome inductionHypothesis =>
      rcases inductionHypothesis with ⟨none, same⟩ | ⟨first, later, split, onward⟩
      · subst none
        cases same
        exact Or.inr ⟨outcome, [], rfl, .start⟩
      · subst split
        exact Or.inr ⟨first, _, rfl, onward.next outcome⟩

/-- A run can be interrupted anywhere. -/
theorem Run.interrupted {program rest : Program I α} {events : History I}
    (run : Run program events rest) {front back : History I} (split : events = front ++ back) :
    Exists fun middle => Run program front middle ∧ Run middle back rest := by
  induction run generalizing back with
  | start =>
      rcases List.append_eq_nil_iff.mp split.symm with ⟨rfl, rfl⟩
      exact ⟨_, .start, .start⟩
  | @next past op resume run outcome inductionHypothesis =>
      rcases List.eq_nil_or_concat back with none | ⟨shorter, final, same⟩
      · subst none
        rw [List.append_nil] at split
        exact ⟨_, split ▸ run.next outcome, .start⟩
      · rw [same, List.concat_eq_append, ← List.append_assoc] at split
        rcases List.append_inj' split rfl with ⟨before, single⟩
        rcases inductionHypothesis before with ⟨middle, leading, onward⟩
        rw [same, List.concat_eq_append, ← List.singleton_inj.1 single]
        exact ⟨middle, leading, onward.next outcome⟩

/-- What a program was about to perform before it returned, it did perform on
the way. -/
theorem Run.performed {program : Program I α} {front events more : History I} {value : α}
    {event : Event I} {resume : I.Outcome event.op -> Program I α}
    (returned : Run program events (.done value))
    (pending : Run program front (.request event.op resume))
    (grown : front ++ [event] <+: events ++ more) : front ++ [event] <+: events := by
  rcases Nat.lt_or_ge front.length events.length with shorter | longer
  · refine List.prefix_of_prefix_length_le grown (List.prefix_append _ _) ?_
    rw [List.length_append, List.length_singleton]
    exact shorter
  · have beyond : events <+: front :=
      List.prefix_of_prefix_length_le (List.prefix_append _ more)
        ((List.prefix_append front [event]).trans grown) longer
    rcases beyond with ⟨back, split⟩
    rcases pending.interrupted split.symm with ⟨middle, leading, onward⟩
    cases leading.unique returned
    cases onward.of_done.2

/-! ## Procedures that catch nothing -/

/-- A procedure that fails with the first fault it meets. -/
def Unguarded : Program I α -> Prop
  | .done _ => True
  | .fail _ => True
  | .request _ resume => (forall fault, Exists fun last => resume (.error fault) = .fail last) ∧
      forall reply, (resume (.ok reply)).Unguarded

theorem unguarded_perform (op : I.Op) : (perform op).Unguarded :=
  ⟨fun fault => ⟨fault, rfl⟩, fun _ => trivial⟩

theorem Unguarded.bind {program : Program I α} {next : α -> Program I β}
    (unguarded : program.Unguarded) (onward : forall value, (next value).Unguarded) :
    (program.bind next).Unguarded := by
  induction program with
  | done value => exact onward value
  | fail => trivial
  | request op resume inductionHypothesis =>
      refine ⟨fun fault => ?_, fun reply => inductionHypothesis _ (unguarded.2 reply)⟩
      rcases unguarded.1 fault with ⟨last, failed⟩
      exact ⟨last, congrArg (fun rest : Program I α => rest.bind next) failed⟩

/-- When such a procedure has returned, it was never met by a fault. -/
theorem Unguarded.replied {program : Program I α} {events : History I} {value : α}
    (unguarded : program.Unguarded) (returned : Run program events (.done value)) {event : Event I}
    (member : event ∈ events) : Exists fun reply => event.outcome = .ok reply := by
  induction program generalizing events with
  | done =>
      rw [returned.of_done.1] at member
      cases member
  | fail => cases returned.of_fail.2
  | request op resume inductionHypothesis =>
      rcases returned.of_request with ⟨_, unfinished⟩ | ⟨outcome, later, rfl, onward⟩
      · cases unfinished
      · cases outcome with
        | error fault =>
            rcases unguarded.1 fault with ⟨last, failed⟩
            rw [failed] at onward
            cases onward.of_fail.2
        | ok reply =>
            rcases List.mem_cons.mp member with here | further
            · subst here
              exact ⟨reply, rfl⟩
            · exact inductionHypothesis _ (unguarded.2 reply) onward further

end Program
end Interleaving
