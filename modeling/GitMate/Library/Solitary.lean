import GitMate.Library.System

namespace Interleaving

/-!
# Processes that have a part of the world to themselves

As long as nobody else changes a part of the world, a process can be reasoned
about like a sequential program over that part: what it finds there is what it
left there.  `Program.Safe` is the condition under which a program over a view
of the world performs only operations that the view allows, whatever else the
operations reply, and ends as promised.  Its rules follow the program.

The run rule at the end says that a process of a machine that started with a
safe program performs only what the view allows, in every run in which the
steps of all others leave the view alone.
-/

/-- What an operation with an outcome may do to a view of the world. -/
abbrev Interface.Effect (I : Interface) (View : Type) : Type :=
  (op : I.Op) -> I.Outcome op -> View -> View -> Prop

namespace Program

variable {I : Interface} {View α β : Type}

/-- The program performs an operation only in a view that meets its
requirement, and it ends in a view that goes with the ending. -/
def Safe (effect : I.Effect View) (requires : I.Op -> View -> Prop)
    (ends : I.Ending α -> View -> Prop) : Program I α -> View -> Prop
  | .done value, view => ends (.ok value) view
  | .fail fault, view => ends (.error fault) view
  | .request op resume, view =>
      requires op view ∧ forall outcome after, effect op outcome view after ->
        Safe effect requires ends (resume outcome) after

variable {effect : I.Effect View} {requires : I.Op -> View -> Prop} {view : View}

theorem Safe.mono {weaker stronger : I.Ending α -> View -> Prop} {program : Program I α}
    (safe : program.Safe effect requires stronger view)
    (implies : forall ending after, stronger ending after -> weaker ending after) :
    program.Safe effect requires weaker view := by
  induction program generalizing view with
  | done value => exact implies _ _ safe
  | fail fault => exact implies _ _ safe
  | request op resume inductionHypothesis =>
      exact ⟨safe.1, fun outcome after moved => inductionHypothesis outcome (safe.2 outcome after moved)⟩

/-- A sequence, whose fault may be one of either part. -/
theorem Safe.bind {middle : I.Ending α -> View -> Prop} {ends : I.Ending β -> View -> Prop}
    {first : Program I α} {next : α -> Program I β}
    (safe : first.Safe effect requires middle view)
    (continues : forall value after, middle (.ok value) after ->
      (next value).Safe effect requires ends after)
    (faults : forall fault after, middle (.error fault) after -> ends (.error fault) after) :
    (first >>= next).Safe effect requires ends view := by
  change (first.bind next).Safe effect requires ends view
  induction first generalizing view with
  | done value => exact continues value view safe
  | fail fault => exact faults fault view safe
  | request op resume inductionHypothesis =>
      exact ⟨safe.1, fun outcome after moved => inductionHypothesis outcome (safe.2 outcome after moved)⟩

theorem safe_perform {op : I.Op} (allowed : requires op view) :
    (perform op).Safe effect requires (fun ending after => effect op ending view after) view := by
  refine ⟨allowed, fun outcome after moved => ?_⟩
  cases outcome with
  | ok reply => exact moved
  | error fault => exact moved

/-- An attempt always returns, namely the ending of its body. -/
theorem Safe.attempt {ends : I.Ending α -> View -> Prop} {body : Program I α}
    (safe : body.Safe effect requires ends view) :
    (attempt body).Safe effect requires
      (fun ending after => Exists fun result => ending = .ok result ∧ ends result after) view := by
  rw [attempt_eq_followedBy]
  induction body generalizing view with
  | done value => exact ⟨.ok value, rfl, safe⟩
  | fail fault => exact ⟨.error fault, rfl, safe⟩
  | request op resume inductionHypothesis =>
      exact ⟨safe.1, fun outcome after moved => inductionHypothesis outcome (safe.2 outcome after moved)⟩

end Program

namespace Machine

variable {I : Interface} {M : Machine I} {View α : Type}

/-- What the operations of a machine do to a view of its world. -/
def effectOn (M : Machine I) (observe : M.World -> View) : I.Effect View :=
  fun op outcome before after => Exists fun choice => Exists fun world => Exists fun later =>
    M.exec op choice world = some (outcome, later) ∧ observe world = before ∧ observe later = after

/-- A step of another process, or of the world itself, leaves the view alone. -/
def Transition.Quiet (observe : M.World -> View) (index : Nat) (step : M.Transition) : Prop :=
  step.actor ≠ some index -> observe step.after.world = observe step.before.world

/-- The steps of a script carry its labels. -/
theorem State.label_of_mem_trace {state : M.State} {script : List M.Label} {step : M.Transition}
    (member : step ∈ state.trace script) : step.label ∈ script := by
  induction script generalizing state with
  | nil => cases member
  | cons label rest inductionHypothesis =>
      rw [State.trace] at member
      cases stepped : state.step label with
      | none =>
          rw [stepped] at member
          cases member
      | some after =>
          rw [stepped] at member
          rcases List.mem_cons.1 member with rfl | later
          · exact List.mem_cons_self
          · exact List.mem_cons_of_mem label (inductionHypothesis later)

/-- While a process acts alone, nobody else changes anything. -/
theorem State.quiet_of_alone {observe : M.World -> View} {state : M.State} {index : Nat}
    {choices : List M.Choice} {step : M.Transition}
    (member : step ∈ state.trace (choices.map (.act index))) : step.Quiet observe index := by
  rcases List.mem_map.1 (State.label_of_mem_trace member) with ⟨choice, _, acts⟩
  refine fun other => absurd ?_ other
  rw [Transition.actor, ← acts]

/-- A process that started with a safe program and has the view to itself
performs only what the view allows. -/
theorem Execution.solitary {observe : M.World -> View} {requires : I.Op -> View -> Prop}
    {first last : M.State} {steps : List M.Transition} (run : Execution first steps last)
    {index : Nat} {program : Program I Unit} {past : History I}
    (starts : first.processes[index]? = some ⟨program, past⟩)
    (safe : program.Safe (M.effectOn observe) requires (fun _ _ => True) (observe first.world))
    (quiet : forall step, step ∈ steps -> step.Quiet observe index) {op : I.Op}
    (pending : last.pending index = some op) : requires op (observe last.world) := by
  have stays : Exists fun process => last.processes[index]? = some process ∧
      process.program.Safe (M.effectOn observe) requires (fun _ _ => True)
        (observe last.world) := by
    refine run.invariant (Transition.Quiet observe index)
      (fun state => Exists fun process => (State.processes state)[index]? = some process ∧
        process.program.Safe (M.effectOn observe) requires (fun _ _ => True)
          (observe (State.world state)))
      ⟨_, starts, safe⟩ (fun earlier state label after _ _ held isQuiet stepped => ?_) quiet
    rcases held with ⟨process, here, safe⟩
    have inside := (List.getElem?_eq_some_iff.mp here).1
    cases label with
    | spawn entry =>
        have same := isQuiet (fun acts => nomatch acts)
        cases State.step_spawn stepped
        exact ⟨process, (List.getElem?_append_left inside).trans here, safe⟩
    | act acting choice =>
        by_cases mine : acting = index
        · subst mine
          rcases State.step_act stepped with
            ⟨op, resume, past, outcome, world, there, executed, rfl⟩
          cases here.symm.trans there
          exact ⟨_, List.getElem?_set_self inside,
            safe.2 outcome _ ⟨choice, _, _, executed, rfl, rfl⟩⟩
        · have same := isQuiet fun acts => mine (Option.some.inj acts)
          rcases State.step_act stepped with
            ⟨op, resume, past, outcome, world, there, executed, rfl⟩
          simp only at same
          exact ⟨process, (List.getElem?_set_ne mine).trans here, same ▸ safe⟩
    | crash stopping =>
        rcases State.step_crash stepped with ⟨stopped, there, rfl⟩
        by_cases mine : stopping = index
        · subst mine
          exact ⟨_, List.getElem?_set_self inside, trivial⟩
        · exact ⟨process, (List.getElem?_set_ne mine).trans here, safe⟩
    | internal event =>
        have same := isQuiet (fun acts => nomatch acts)
        rcases State.step_internal stepped with ⟨world, moved, rfl⟩
        simp only at same
        exact ⟨process, here, same ▸ safe⟩
  rcases stays with ⟨process, here, safe⟩
  rcases State.getElem?_of_pending pending with ⟨resume, there⟩
  cases here.symm.trans there
  exact safe.1

end Machine
end Interleaving
