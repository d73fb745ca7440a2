import GitMate.Library.Program
import Mathlib.Data.List.Induction

namespace Interleaving

/-!
# Interleavings of programs over a shared world

A machine gives meaning to an interface.  It fixes the shared world, the
effect of one operation on that world, the programs that may be started and
the steps the world takes on its own.  Every nondeterminism of the environment
is resolved by a label, so one step of the whole system is a function, and a
run is determined by its list of labels.

A run is kept as the list of its transitions.  A property of every reachable
state is proved once, from an invariant of single steps; the rule also accepts
a condition on the steps of the run, for properties that hold only as long as
no step of some kind is taken.  Two invariants are proved for every machine: a
process obeys the discipline of its program, and what a process remembers
remains true as long as no step of another one falsifies it.
-/

/-- The meaning of an interface. -/
structure Machine (I : Interface) where
  World : Type
  /-- How the environment resolves one operation. -/
  Choice : Type
  exec : (op : I.Op) -> Choice -> World -> Option (I.Outcome op × World)
  Entry : Type
  start : Entry -> Program I Unit
  Internal : Type
  internal : Internal -> World -> Option World

/-- A process: the code it still has to run, and what it has done so far. -/
structure Process (I : Interface) where
  program : Program I Unit
  history : History I

namespace Machine

variable {I : Interface} (M : Machine I)

structure State where
  world : M.World
  processes : List (Process I)

inductive Label where
  /-- Start a new process. -/
  | spawn (entry : M.Entry)
  /-- Let a process perform its next operation. -/
  | act (index : Nat) (choice : M.Choice)
  /-- Stop a process for good. -/
  | crash (index : Nat)
  /-- Let the world take a step of its own. -/
  | internal (event : M.Internal)

variable {M}

/-- The operation that a label lets a process perform. -/
def State.pending (state : M.State) (index : Nat) : Option I.Op :=
  match state.processes[index]? with
  | some ⟨.request op _, _⟩ => some op
  | _ => none

def State.step (state : M.State) : M.Label -> Option M.State
  | .spawn entry => some ⟨state.world, state.processes ++ [⟨M.start entry, []⟩]⟩
  | .act index choice =>
      match state.processes[index]? with
      | some ⟨.request op resume, history⟩ =>
          (M.exec op choice state.world).map fun done =>
            ⟨done.2, state.processes.set index ⟨resume done.1, history ++ [⟨op, done.1⟩]⟩⟩
      | _ => none
  | .crash index =>
      (state.processes[index]?).map fun process =>
        ⟨state.world, state.processes.set index ⟨.done (), process.history⟩⟩
  | .internal event =>
      (M.internal event state.world).map fun world => ⟨world, state.processes⟩

/-- Everything an `act` step does. -/
theorem State.step_act {state after : M.State} {index : Nat} {choice : M.Choice}
    (stepped : state.step (.act index choice) = some after) :
    Exists fun op : I.Op => Exists fun resume => Exists fun history =>
      Exists fun outcome : I.Outcome op => Exists fun world =>
        state.processes[index]? = some ⟨.request op resume, history⟩ ∧
        M.exec op choice state.world = some (outcome, world) ∧
        after = ⟨world, state.processes.set index ⟨resume outcome, history ++ [⟨op, outcome⟩]⟩⟩ := by
  unfold State.step at stepped
  simp only at stepped
  split at stepped
  · rename_i op resume history found
    cases executed : M.exec op choice state.world with
    | none => simp only [executed, Option.map_none, reduceCtorEq] at stepped
    | some done =>
        simp only [executed, Option.map_some, Option.some.injEq] at stepped
        exact ⟨op, resume, history, done.1, done.2, found, executed, stepped.symm⟩
  · cases stepped

theorem State.step_spawn {state after : M.State} {entry : M.Entry}
    (stepped : state.step (.spawn entry) = some after) :
    after = ⟨state.world, state.processes ++ [⟨M.start entry, []⟩]⟩ :=
  (Option.some.inj stepped).symm

theorem State.step_crash {state after : M.State} {index : Nat}
    (stepped : state.step (.crash index) = some after) :
    Exists fun process => state.processes[index]? = some process ∧
      after = ⟨state.world, state.processes.set index ⟨.done (), process.history⟩⟩ := by
  unfold State.step at stepped
  simp only at stepped
  cases found : state.processes[index]? with
  | none => simp only [found, Option.map_none, reduceCtorEq] at stepped
  | some process =>
      simp only [found, Option.map_some, Option.some.injEq] at stepped
      exact ⟨process, rfl, stepped.symm⟩

theorem State.step_internal {state after : M.State} {event : M.Internal}
    (stepped : state.step (.internal event) = some after) :
    Exists fun world => M.internal event state.world = some world ∧
      after = ⟨world, state.processes⟩ := by
  unfold State.step at stepped
  simp only at stepped
  cases moved : M.internal event state.world with
  | none => simp only [moved, Option.map_none, reduceCtorEq] at stepped
  | some world =>
      simp only [moved, Option.map_some, Option.some.injEq] at stepped
      exact ⟨world, rfl, stepped.symm⟩

/-! ## Runs -/

variable (M) in
/-- One step of a run. -/
structure Transition where
  before : M.State
  label : M.Label
  after : M.State

/-- The run that starts in `first` and takes exactly the listed steps. -/
inductive Execution (first : M.State) : List M.Transition -> M.State -> Prop where
  | start : Execution first [] first
  | next {steps : List M.Transition} {state after : M.State} {label : M.Label}
      (run : Execution first steps state) (stepped : state.step label = some after) :
      Execution first (steps ++ [⟨state, label, after⟩]) after

namespace Execution

variable {first last : M.State} {steps : List M.Transition}

/-- An invariant of the steps that meet a condition holds at the end of every
run all of whose steps meet it.  Preservation may use that the state before
the step was reached by such a run. -/
theorem invariant (meets : M.Transition -> Prop) (holds : M.State -> Prop)
    (initially : holds first)
    (preserved : forall earlier state label after, Execution first earlier state ->
      (forall step, step ∈ earlier -> meets step) -> holds state -> meets ⟨state, label, after⟩ ->
      state.step label = some after -> holds after)
    (run : Execution first steps last) (all : forall step, step ∈ steps -> meets step) :
    holds last := by
  induction run with
  | start => exact initially
  | next run stepped inductionHypothesis =>
      have before := fun step member => all step (List.mem_append_left _ member)
      exact preserved _ _ _ _ run before (inductionHypothesis before)
        (all _ (List.mem_append_right _ List.mem_cons_self)) stepped

/-- The unconditional case. -/
theorem always (holds : M.State -> Prop) (initially : holds first)
    (preserved : forall earlier state label after, Execution first earlier state ->
      holds state -> state.step label = some after -> holds after)
    (run : Execution first steps last) : holds last :=
  invariant (fun _ => True) holds initially
    (fun earlier state label after reached _ held _ stepped =>
      preserved earlier state label after reached held stepped) run (fun _ _ => trivial)

/-- A preorder that every step keeps relates the ends of a run. -/
theorem related (precedes : M.State -> M.State -> Prop) (refl : forall state, precedes state state)
    (trans : forall {one two three}, precedes one two -> precedes two three -> precedes one three)
    (run : Execution first steps last)
    (each : forall step : M.Transition, step ∈ steps -> precedes step.before step.after) :
    precedes first last := by
  induction run with
  | start => exact refl _
  | next run stepped inductionHypothesis =>
      exact trans (inductionHypothesis fun step member => each step (List.mem_append_left _ member))
        (each _ (List.mem_append_right _ List.mem_cons_self))

/-- The states between which a listed step moves are reached by the part of
the run before it. -/
theorem reaches_step (run : Execution first steps last) {step : M.Transition}
    (member : step ∈ steps) :
    (Exists fun earlier => Execution first earlier step.before) ∧
      step.before.step step.label = some step.after := by
  induction run with
  | start => cases member
  | next run stepped inductionHypothesis =>
      rcases List.mem_append.mp member with before | here
      · exact inductionHypothesis before
      · rw [List.mem_singleton] at here
        subst here
        exact ⟨⟨_, run⟩, stepped⟩

/-- A run splits wherever its list of steps does. -/
theorem split {before rest : List M.Transition} (run : Execution first (before ++ rest) last) :
    Exists fun middle => Execution first before middle ∧ Execution middle rest last := by
  induction rest using List.reverseRecOn generalizing last with
  | nil =>
      rw [List.append_nil] at run
      exact ⟨last, run, .start⟩
  | append_singleton rest step inductionHypothesis =>
      rw [← List.append_assoc] at run
      generalize same : before ++ rest ++ [step] = steps at run
      cases run with
      | start => simp only [List.append_eq_nil_iff, List.cons_ne_nil, and_false] at same
      | next run stepped =>
          rcases List.append_inj' same rfl with ⟨rfl, sameStep⟩
          cases sameStep
          rcases inductionHypothesis run with ⟨middle, earlier, later⟩
          exact ⟨middle, earlier, later.next stepped⟩

/-- Around one of its steps, a run consists of the part that leads to the
step, the step and the part that follows it. -/
theorem around {earlier rest : List M.Transition} {step : M.Transition}
    (run : Execution first (earlier ++ step :: rest) last) :
    Execution first earlier step.before ∧ step.before.step step.label = some step.after ∧
      Execution step.after rest last := by
  have singled : earlier ++ step :: rest = earlier ++ [step] ++ rest := by
    rw [List.append_assoc, List.singleton_append]
  rw [singled] at run
  rcases split run with ⟨middle, through, following⟩
  generalize same : earlier ++ [step] = steps at through
  cases through with
  | start => simp only [List.append_eq_nil_iff, List.cons_ne_nil, and_false] at same
  | next leading stepped =>
      rcases List.append_inj' same rfl with ⟨rfl, sameStep⟩
      cases sameStep
      exact ⟨leading, stepped, following⟩

/-- Two runs compose when one starts where the other ends. -/
theorem append {middle : M.State} {more : List M.Transition}
    (run : Execution first steps middle) (rest : Execution middle more last) :
    Execution first (steps ++ more) last := by
  induction rest with
  | start => rw [List.append_nil]; exact run
  | next rest stepped inductionHypothesis =>
      rw [← List.append_assoc]
      exact inductionHypothesis.next stepped

end Execution

/-- Run a whole script of labels. -/
def State.play (state : M.State) : List M.Label -> Option M.State
  | [] => some state
  | label :: rest =>
      match state.step label with
      | some after => after.play rest
      | none => none

theorem State.play_execution {state last : M.State} {script : List M.Label}
    (played : state.play script = some last) :
    Exists fun steps => Execution state steps last := by
  induction script generalizing state with
  | nil =>
      cases played
      exact ⟨[], .start⟩
  | cons label rest inductionHypothesis =>
      rw [State.play] at played
      cases stepped : state.step label with
      | none => rw [stepped] at played; cases played
      | some after =>
          rw [stepped] at played
          rcases inductionHypothesis played with ⟨steps, run⟩
          exact ⟨_, (Execution.start.next stepped).append run⟩

/-- The state after a script, or the first state when some step of the script
is impossible. -/
def State.after (state : M.State) (script : List M.Label) : M.State :=
  (state.play script).getD state

theorem State.after_run {state : M.State} {script : List M.Label}
    (possible : (state.play script).isSome = true) :
    Exists fun steps => Execution state steps (state.after script) := by
  rcases Option.isSome_iff_exists.mp possible with ⟨last, played⟩
  rw [State.after, played]
  exact State.play_execution played

theorem State.after_step {state : M.State} {label : M.Label}
    (possible : (state.play [label]).isSome = true) :
    state.step label = some (state.after [label]) := by
  unfold State.after
  rw [State.play] at possible ⊢
  cases stepped : state.step label with
  | none => rw [stepped] at possible; cases possible
  | some later => rfl

/-- The steps of a script, up to the first impossible one. -/
def State.trace (state : M.State) : List M.Label -> List M.Transition
  | [] => []
  | label :: rest =>
      match state.step label with
      | some after => ⟨state, label, after⟩ :: after.trace rest
      | none => []

/-- A possible script is the run of its steps. -/
theorem State.trace_execution {state : M.State} {script : List M.Label}
    (possible : (state.play script).isSome = true) :
    Execution state (state.trace script) (state.after script) := by
  induction script generalizing state with
  | nil => exact .start
  | cons label rest inductionHypothesis =>
      rw [State.play] at possible
      cases stepped : state.step label with
      | none => rw [stepped] at possible; cases possible
      | some next =>
          rw [stepped] at possible
          have following := inductionHypothesis possible
          rcases Option.isSome_iff_exists.mp possible with ⟨last, played⟩
          have same : state.after (label :: rest) = next.after rest := by
            simp only [State.after, State.play, stepped, played, Option.getD_some]
          rw [same, State.trace, stepped]
          exact (Execution.start.next stepped).append following

/-- The process that a step lets act. -/
def Transition.actor (step : M.Transition) : Option Nat :=
  match step.label with
  | .act index _ => some index
  | .spawn _ | .crash _ | .internal _ => none

theorem Transition.act_of_actor {step : M.Transition} {index : Nat}
    (acts : step.actor = some index) : Exists fun choice => step.label = .act index choice := by
  unfold actor at acts
  split at acts
  · rename_i acting choice label
    cases acts
    exact ⟨choice, label⟩
  · cases acts
  · cases acts
  · cases acts

/-- Every step of a script is possible and passes a check. -/
def State.passes (check : M.Transition -> Bool) (state : M.State) : List M.Label -> Bool
  | [] => true
  | label :: rest =>
      match state.step label with
      | some after => check ⟨state, label, after⟩ && after.passes check rest
      | none => false

theorem State.play_of_passes {check : M.Transition -> Bool} {state : M.State}
    {script : List M.Label} (passed : state.passes check script = true) :
    Exists fun last => state.play script = some last := by
  induction script generalizing state with
  | nil => exact ⟨state, rfl⟩
  | cons label rest inductionHypothesis =>
      rw [State.passes] at passed
      rw [State.play]
      cases stepped : state.step label with
      | none => rw [stepped] at passed; cases passed
      | some after =>
          rw [stepped] at passed
          exact inductionHypothesis (Bool.and_eq_true_iff.mp passed).2

/-- A script that passes a check is a run all of whose steps pass it. -/
theorem State.passes_run {check : M.Transition -> Bool} {state : M.State}
    {script : List M.Label} (passed : state.passes check script = true) :
    Exists fun steps => Execution state steps (state.after script) ∧
      forall step, step ∈ steps -> check step = true := by
  induction script generalizing state with
  | nil => exact ⟨[], .start, fun step member => by cases member⟩
  | cons label rest inductionHypothesis =>
      rw [State.passes] at passed
      cases stepped : state.step label with
      | none => rw [stepped] at passed; cases passed
      | some after =>
          rw [stepped] at passed
          rcases Bool.and_eq_true_iff.mp passed with ⟨checked, following⟩
          rcases inductionHypothesis following with ⟨steps, run, all⟩
          have same : state.after (label :: rest) = after.after rest := by
            rcases State.play_of_passes following with ⟨last, played⟩
            simp only [State.after, State.play, stepped, played, Option.getD_some]
          rw [same]
          refine ⟨_, (Execution.start.next stepped).append run, fun step member => ?_⟩
          rcases List.mem_append.mp member with now | before
          · rw [List.nil_append, List.mem_singleton] at now
            subst now
            exact checked
          · exact all step before

/-- Where no mark occurs twice, elements with the same mark are the same. -/
theorem eq_of_mark {α β : Type} {mark : α -> Option β} {marked : List α}
    (once : (marked.filterMap mark).Nodup) {left right : α} {value : β}
    (leftMember : left ∈ marked) (rightMember : right ∈ marked)
    (leftMark : mark left = some value) (rightMark : mark right = some value) : left = right := by
  induction marked with
  | nil => cases leftMember
  | cons head rest inductionHypothesis =>
      have others : (rest.filterMap mark).Nodup :=
        once.sublist ((List.sublist_cons_self head rest).filterMap mark)
      have single : forall other, other ∈ rest -> mark other = some value ->
          mark head = some value -> False := by
        intro other member otherMark headMark
        rw [List.filterMap_cons_some headMark] at once
        exact (List.nodup_cons.mp once).1 (List.mem_filterMap.mpr ⟨other, member, otherMark⟩)
      rcases List.mem_cons.mp leftMember with rfl | leftRest
      · rcases List.mem_cons.mp rightMember with same | rightRest
        · exact same.symm
        · exact absurd leftMark (single right rightRest rightMark)
      · rcases List.mem_cons.mp rightMember with rfl | rightRest
        · exact absurd rightMark (single left leftRest leftMark)
        · exact inductionHypothesis others leftRest rightRest

/-! ## Histories -/

/-- What the process with an index has done; a process that is not there has
done nothing. -/
def State.historyAt (state : M.State) (index : Nat) : History I :=
  ((state.processes[index]?).map Process.history).getD []

theorem State.historyAt_of_getElem? {state : M.State} {index : Nat} {process : Process I}
    (found : state.processes[index]? = some process) :
    state.historyAt index = process.history := by
  rw [historyAt, found]
  rfl

/-- Only a process that is there has done something. -/
theorem State.present_of_history {state : M.State} {index : Nat} {event : Event I}
    (happened : event ∈ state.historyAt index) : index < state.processes.length := by
  refine Nat.lt_of_not_le fun beyond => ?_
  rw [historyAt, List.getElem?_eq_none beyond] at happened
  cases happened

/-- The history of a process that was replaced. -/
theorem State.historyAt_set {state : M.State} {index : Nat} {process : Process I}
    (found : state.processes[index]? = some process) (world : M.World) (next : Process I) :
    State.historyAt (⟨world, state.processes.set index next⟩ : M.State) index = next.history := by
  simp only [historyAt, List.getElem?_set_self (List.getElem?_eq_some_iff.mp found).1,
    Option.map_some, Option.getD_some]

theorem State.historyAt_set_ne {state : M.State} {index other : Nat} (different : other ≠ index)
    (world : M.World) (next : Process I) :
    State.historyAt (⟨world, state.processes.set index next⟩ : M.State) other =
      state.historyAt other := by
  unfold historyAt
  rw [List.getElem?_set_ne (Ne.symm different)]

/-- A step leaves a history alone or adds the event of an operation to it. -/
theorem State.historyAt_step {state after : M.State} {label : M.Label}
    (stepped : state.step label = some after) (index : Nat) :
    after.historyAt index = state.historyAt index ∨
      Exists fun choice => Exists fun op => Exists fun resume => Exists fun outcome =>
        label = .act index choice ∧
        state.processes[index]? = some ⟨.request op resume, state.historyAt index⟩ ∧
        M.exec op choice state.world = some (outcome, after.world) ∧
        after.historyAt index = state.historyAt index ++ [⟨op, outcome⟩] := by
  cases label with
  | spawn entry =>
      cases State.step_spawn stepped
      left
      unfold historyAt
      rw [List.getElem?_append]
      split
      · rfl
      · rename_i beyond
        rw [List.getElem?_eq_none (Nat.le_of_not_lt beyond)]
        cases index - state.processes.length with
        | zero => rfl
        | succ further => rfl
  | act acting choice =>
      rcases State.step_act stepped with ⟨op, resume, past, outcome, world, here, executed, rfl⟩
      by_cases same : acting = index
      · subst same
        have before : state.historyAt acting = past := historyAt_of_getElem? here
        right
        refine ⟨choice, op, resume, outcome, rfl, before ▸ here, executed, ?_⟩
        rw [before]
        exact historyAt_set here _ _
      · left
        exact historyAt_set_ne (Ne.symm same) _ _
  | crash stopping =>
      rcases State.step_crash stepped with ⟨stopped, here, rfl⟩
      left
      by_cases same : stopping = index
      · subst same
        rw [historyAt_of_getElem? here]
        exact historyAt_set here _ _
      · exact historyAt_set_ne (Ne.symm same) _ _
  | internal event =>
      rcases State.step_internal stepped with ⟨world, moved, rfl⟩
      exact Or.inl rfl

theorem State.getElem?_of_pending {state : M.State} {index : Nat} {op : I.Op}
    (pending : state.pending index = some op) :
    Exists fun resume => state.processes[index]? =
      some ⟨.request op resume, state.historyAt index⟩ := by
  cases here : state.processes[index]? with
  | none =>
      rw [State.pending, here] at pending
      cases pending
  | some process =>
      rcases process with ⟨program, past⟩
      have before : state.historyAt index = past := historyAt_of_getElem? here
      subst before
      cases program with
      | done | fail =>
          rw [State.pending, here] at pending
          cases pending
      | request acting resume =>
          rw [State.pending, here] at pending
          cases pending
          exact ⟨resume, rfl⟩

/-- A process that acts performs the operation it has pending. -/
theorem State.historyAt_act {state after : M.State} {index : Nat} {choice : M.Choice} {op : I.Op}
    (stepped : state.step (.act index choice) = some after)
    (pending : state.pending index = some op) :
    Exists fun resume => Exists fun outcome =>
      state.processes[index]? = some ⟨.request op resume, state.historyAt index⟩ ∧
      M.exec op choice state.world = some (outcome, after.world) ∧
      after.historyAt index = state.historyAt index ++ [⟨op, outcome⟩] := by
  rcases State.step_act stepped with ⟨acting, resume, past, outcome, world, here, executed, rfl⟩
  have before : state.historyAt index = past := historyAt_of_getElem? here
  subst before
  rw [State.pending, here] at pending
  cases pending
  exact ⟨resume, outcome, here, executed, historyAt_set here _ _⟩

/-! ## Disciplined runs -/

/-- Every process obeys the discipline from where it is. -/
def State.Disciplined (D : Discipline I) (state : M.State) : Prop :=
  forall process : Process I, process ∈ state.processes ->
    process.program.Obeys D (fun _ _ => True) process.history

/-- The operation a process performs next is permitted. -/
theorem State.Disciplined.permits {D : Discipline I} {state : M.State}
    (disciplined : state.Disciplined D) {index : Nat} {op : I.Op}
    {resume : I.Outcome op -> Program I Unit} {past : History I}
    (found : state.processes[index]? = some ⟨.request op resume, past⟩) :
    D.Permits past op :=
  (disciplined _ (List.mem_of_getElem? found)).1

/-- When every program that may be started obeys a discipline and the world
gives credible replies, every process of every run obeys it throughout. -/
theorem Execution.disciplined {D : Discipline I}
    (starts : forall entry, (M.start entry).Obeys D (fun _ _ => True) [])
    (credible : forall op choice world outcome later,
      M.exec op choice world = some (outcome, later) -> D.Credible op outcome)
    {first last : M.State} {steps : List M.Transition} (initially : first.Disciplined D)
    (run : Execution first steps last) : last.Disciplined D := by
  refine run.always (State.Disciplined D) initially
    fun earlier state label after _ held stepped => ?_
  cases label with
  | spawn entry =>
      cases State.step_spawn stepped
      intro process member
      rcases List.mem_append.mp member with old | new
      · exact held process old
      · rw [List.mem_singleton] at new
        subst new
        exact starts entry
  | act index choice =>
      rcases State.step_act stepped with ⟨op, resume, past, outcome, world, here, executed, rfl⟩
      intro process member
      rcases List.mem_or_eq_of_mem_set member with old | new
      · exact held process old
      · subst new
        exact (held _ (List.mem_of_getElem? here)).2 outcome (credible op choice _ _ _ executed)
  | crash index =>
      rcases State.step_crash stepped with ⟨stopped, here, rfl⟩
      intro process member
      rcases List.mem_or_eq_of_mem_set member with old | new
      · exact held process old
      · subst new
        trivial
  | internal event =>
      rcases State.step_internal stepped with ⟨world, moved, rfl⟩
      exact held

/-! ## What processes remember -/

/-- A relation between the world and a history holds for every process. -/
def State.Remembers (holds : M.World -> History I -> Prop) (state : M.State) : Prop :=
  forall index, holds state.world (state.historyAt index)

/-- What processes remember survives a step when the acting process learns
only what is true and nothing that is remembered becomes false. -/
theorem State.Remembers.step {holds : M.World -> History I -> Prop} {state after : M.State}
    {label : M.Label} (remembers : state.Remembers holds) (stepped : state.step label = some after)
    (learns : forall (index : Nat) (choice : M.Choice) (op : I.Op)
      (resume : I.Outcome op -> Program I Unit) (past : History I) (outcome : I.Outcome op),
      state.processes[index]? = some ⟨.request op resume, past⟩ ->
      M.exec op choice state.world = some (outcome, after.world) ->
      holds state.world past -> holds after.world (past ++ [⟨op, outcome⟩]))
    (lasts : forall past, holds state.world past -> holds after.world past) :
    after.Remembers holds := by
  intro index
  rcases State.historyAt_step stepped index with
    same | ⟨choice, op, resume, outcome, _, here, executed, grown⟩
  · rw [same]
    exact lasts _ (remembers index)
  · rw [grown]
    exact learns index choice op resume (state.historyAt index) outcome here executed
      (remembers index)

/-- The process with an index was started with an entry. -/
def Spawned (steps : List M.Transition) (index : Nat) (entry : M.Entry) : Prop :=
  Exists fun step : M.Transition => step ∈ steps ∧ step.label = .spawn entry ∧
    step.before.processes.length = index

/-- The process with an index was stopped. -/
def Crashed (steps : List M.Transition) (index : Nat) : Prop :=
  Exists fun step : M.Transition => step ∈ steps ∧ step.label = .crash index

/-- Every process has run a part of the program it was started with, and still
has the rest to run unless it has crashed. -/
theorem Execution.follows {first last : M.State} {steps : List M.Transition}
    (run : Execution first steps last) {index : Nat} {entry : M.Entry}
    (spawned : Spawned steps index entry) :
    Exists fun process => last.processes[index]? = some process ∧ Exists fun rest =>
      (M.start entry).Run process.history rest ∧
        (process.program = rest ∨ process.program = .done () ∧ Crashed steps index) := by
  induction run with
  | start =>
      rcases spawned with ⟨step, member, _⟩
      cases member
  | @next steps state after label run stepped inductionHypothesis =>
      have lasting : Crashed steps index -> Crashed (steps ++ [⟨state, label, after⟩]) index :=
        fun ⟨step, member, crashing⟩ => ⟨step, List.mem_append_left _ member, crashing⟩
      rcases spawned with ⟨step, member, spawning, fresh⟩
      rcases List.mem_append.mp member with before | now
      · rcases inductionHypothesis ⟨step, before, spawning, fresh⟩ with
          ⟨process, here, rest, through, goes⟩
        have inside := (List.getElem?_eq_some_iff.mp here).1
        have stays : process.program = rest ∨ process.program = .done () ∧
            Crashed (steps ++ [⟨state, label, after⟩]) index :=
          goes.imp_right fun crashed => ⟨crashed.1, lasting crashed.2⟩
        cases label with
        | spawn other =>
            cases State.step_spawn stepped
            exact ⟨process, (List.getElem?_append_left inside).trans here, rest, through, stays⟩
        | act acting choice =>
            rcases State.step_act stepped with
              ⟨op, resume, past, outcome, world, there, executed, rfl⟩
            by_cases same : acting = index
            · subst same
              cases here.symm.trans there
              rcases goes with same | crashed
              · cases same
                exact ⟨_, List.getElem?_set_self inside, _, through.next outcome, Or.inl rfl⟩
              · cases crashed.1
            · exact ⟨process, (List.getElem?_set_ne same).trans here, rest, through, stays⟩
        | crash stopping =>
            rcases State.step_crash stepped with ⟨stopped, there, rfl⟩
            by_cases same : stopping = index
            · subst same
              cases here.symm.trans there
              exact ⟨_, List.getElem?_set_self inside, rest, through, Or.inr ⟨rfl, _,
                List.mem_append_right _ List.mem_cons_self, rfl⟩⟩
            · exact ⟨process, (List.getElem?_set_ne same).trans here, rest, through, stays⟩
        | internal event =>
            rcases State.step_internal stepped with ⟨world, moved, rfl⟩
            exact ⟨process, here, rest, through, stays⟩
      · rw [List.mem_singleton] at now
        subst now
        cases spawning
        cases State.step_spawn stepped
        refine ⟨⟨M.start entry, []⟩, ?_, _, .start, Or.inl rfl⟩
        rw [← fresh, List.getElem?_append_right (Nat.le_refl _), Nat.sub_self]
        rfl

/-- Histories only grow. -/
theorem Execution.historyAt_grows {first last : M.State} {steps : List M.Transition}
    (run : Execution first steps last) (index : Nat) :
    first.historyAt index <+: last.historyAt index := by
  refine run.always (fun state => first.historyAt index <+: State.historyAt state index)
    List.prefix_rfl fun earlier state label after _ grown stepped => ?_
  rcases State.historyAt_step stepped index with
    same | ⟨choice, op, resume, outcome, _, _, _, added⟩
  · exact same ▸ grown
  · exact added ▸ grown.trans (List.prefix_append _ _)

/-- A process that has nothing left to do does nothing more. -/
theorem Execution.over {first last : M.State} {steps : List M.Transition}
    (run : Execution first steps last) {index : Nat} (present : index < first.processes.length)
    (idle : first.pending index = none) :
    last.historyAt index = first.historyAt index ∧ last.pending index = none := by
  have stays : index < last.processes.length ∧ last.historyAt index = first.historyAt index ∧
      last.pending index = none := by
    refine run.always (fun state => index < (State.processes state).length ∧
      State.historyAt state index = first.historyAt index ∧ State.pending state index = none)
      ⟨present, rfl, idle⟩ fun earlier state label after _ held stepped => ?_
    rcases held with ⟨inside, kept, waiting⟩
    cases label with
    | spawn entry =>
        cases State.step_spawn stepped
        refine ⟨by rw [List.length_append]; omega, ?_, ?_⟩
        · rw [← kept, State.historyAt, State.historyAt, List.getElem?_append_left inside]
        · rw [← waiting, State.pending, State.pending, List.getElem?_append_left inside]
    | act acting choice =>
        rcases State.step_act stepped with ⟨op, resume, past, outcome, world, here, _, rfl⟩
        have other : index ≠ acting := by
          intro same
          rw [same, State.pending, here] at waiting
          cases waiting
        refine ⟨by rw [List.length_set]; exact inside, ?_, ?_⟩
        · rw [← kept, State.historyAt_set_ne other]
        · rw [← waiting, State.pending, State.pending, List.getElem?_set_ne (Ne.symm other)]
    | crash stopping =>
        rcases State.step_crash stepped with ⟨stopped, here, rfl⟩
        refine ⟨by rw [List.length_set]; exact inside, ?_, ?_⟩
        · rw [← kept]
          by_cases same : index = stopping
          · subst same
            rw [State.historyAt_set here, State.historyAt_of_getElem? here]
          · rw [State.historyAt_set_ne same]
        · by_cases same : index = stopping
          · subst same
            rw [State.pending, List.getElem?_set_self inside]
          · rw [← waiting, State.pending, State.pending, List.getElem?_set_ne (Ne.symm same)]
    | internal event =>
        rcases State.step_internal stepped with ⟨world, moved, rfl⟩
        exact ⟨inside, kept, waiting⟩
  exact stays.2

/-- No process is ever forgotten. -/
theorem Execution.length_processes {first last : M.State} {steps : List M.Transition}
    (run : Execution first steps last) : first.processes.length ≤ last.processes.length := by
  refine run.always
    (fun state => first.processes.length ≤ (State.processes state).length)
    (Nat.le_refl _) fun earlier state label after _ held stepped => ?_
  refine Nat.le_trans held ?_
  cases label with
  | spawn entry =>
      cases State.step_spawn stepped
      rw [List.length_append]
      exact Nat.le_add_right _ _
  | act index choice =>
      rcases State.step_act stepped with ⟨op, resume, past, outcome, world, here, executed, rfl⟩
      exact Nat.le_of_eq List.length_set.symm
  | crash index =>
      rcases State.step_crash stepped with ⟨stopped, here, rfl⟩
      exact Nat.le_of_eq List.length_set.symm
  | internal event =>
      rcases State.step_internal stepped with ⟨world, moved, rfl⟩
      exact Nat.le_refl _

/-- A process that is started in a run has done nothing before it. -/
theorem Execution.historyAt_of_spawned {first last : M.State} {steps : List M.Transition}
    (run : Execution first steps last) {index : Nat} {entry : M.Entry}
    (spawned : Spawned steps index entry) : first.historyAt index = [] := by
  rcases spawned with ⟨step, member, _, fresh⟩
  rcases List.append_of_mem member with ⟨front, rest, rfl⟩
  rcases run.around with ⟨leading, _, _⟩
  have beyond : first.processes.length ≤ index := fresh ▸ leading.length_processes
  rw [State.historyAt, List.getElem?_eq_none beyond]
  rfl

/-- Whatever a process has done, it had done it before a run or it is a step of
the run. -/
theorem Execution.event_since {first last : M.State} {steps : List M.Transition}
    (run : Execution first steps last) {index : Nat} {event : Event I}
    (happened : event ∈ last.historyAt index) :
    event ∈ first.historyAt index ∨
    Exists fun step : M.Transition => step ∈ steps ∧ Exists fun choice => Exists fun resume =>
      step.label = .act index choice ∧
      step.before.processes[index]? =
        some ⟨.request event.op resume, step.before.historyAt index⟩ ∧
      M.exec event.op choice step.before.world = some (event.outcome, step.after.world) := by
  induction run with
  | start => exact Or.inl happened
  | @next steps state after label run stepped inductionHypothesis =>
      rcases State.historyAt_step stepped index with
        same | ⟨choice, op, resume, outcome, acts, here, executed, grown⟩
      · rcases inductionHypothesis (same ▸ happened) with before | ⟨step, member, found⟩
        · exact Or.inl before
        · exact Or.inr ⟨step, List.mem_append_left _ member, found⟩
      · rw [grown] at happened
        rcases List.mem_append.mp happened with before | now
        · rcases inductionHypothesis before with older | ⟨step, member, found⟩
          · exact Or.inl older
          · exact Or.inr ⟨step, List.mem_append_left _ member, found⟩
        · rw [List.mem_singleton] at now
          subst now
          exact Or.inr ⟨⟨state, label, after⟩, List.mem_append_right _ List.mem_cons_self, choice,
            resume, acts, here, executed⟩

/-- Everything a process has done since the start of a run is a step of the
run. -/
theorem Execution.step_of_event {first last : M.State} {steps : List M.Transition}
    (run : Execution first steps last) (initially : first.processes = []) {index : Nat}
    {event : Event I} (happened : event ∈ last.historyAt index) :
    Exists fun step : M.Transition => step ∈ steps ∧ Exists fun choice => Exists fun resume =>
      step.label = .act index choice ∧
      step.before.processes[index]? =
        some ⟨.request event.op resume, step.before.historyAt index⟩ ∧
      M.exec event.op choice step.before.world = some (event.outcome, step.after.world) := by
  rcases run.event_since happened with before | found
  · rw [State.historyAt, initially] at before
    cases before
  · exact found

/-- A history that has grown ends with the event of a step of the run. -/
theorem Execution.step_of_growth {first last : M.State} {steps : List M.Transition}
    (run : Execution first steps last) {index : Nat} {past : History I} {event : Event I}
    (ends : last.historyAt index = past ++ [event])
    (grown : first.historyAt index ≠ past ++ [event]) :
    Exists fun step : M.Transition => step ∈ steps ∧ Exists fun choice => Exists fun resume =>
      step.label = .act index choice ∧
      step.before.processes[index]? = some ⟨.request event.op resume, past⟩ ∧
      M.exec event.op choice step.before.world = some (event.outcome, step.after.world) := by
  induction run with
  | start => exact absurd ends grown
  | @next steps state after label run stepped inductionHypothesis =>
      rcases State.historyAt_step stepped index with
        same | ⟨choice, op, resume, outcome, acts, here, executed, added⟩
      · rcases inductionHypothesis (same ▸ ends) with ⟨step, member, found⟩
        exact ⟨step, List.mem_append_left _ member, found⟩
      · rcases List.append_inj' (added.symm.trans ends) rfl with ⟨rfl, sameEvent⟩
        cases sameEvent
        exact ⟨⟨state, label, after⟩, List.mem_append_right _ List.mem_cons_self, choice, resume,
          acts, here, executed⟩

/-! ## What its own entry permits a process -/

/-- Every process was started with some entry. -/
theorem Execution.spawned {first last : M.State} {steps : List M.Transition}
    (run : Execution first steps last) (initially : first.processes = []) {index : Nat}
    {process : Process I} (here : last.processes[index]? = some process) :
    Exists fun entry => Spawned steps index entry := by
  induction run generalizing process with
  | start =>
      rw [initially] at here
      cases here
  | @next steps state after label run stepped inductionHypothesis =>
      have longer : forall {entry}, Spawned steps index entry ->
          Spawned (steps ++ [⟨state, label, after⟩]) index entry :=
        fun ⟨step, member, spawning, fresh⟩ =>
          ⟨step, List.mem_append_left _ member, spawning, fresh⟩
      have kept : forall {other : Process I}, state.processes[index]? = some other ->
          Exists fun entry => Spawned (steps ++ [⟨state, label, after⟩]) index entry :=
        fun there => (inductionHypothesis there).imp fun _ => longer
      have changed : forall {world : M.World} {acting : Nat} {other : Process I},
          (⟨world, state.processes.set acting other⟩ : M.State).processes[index]? = some process ->
            Exists fun entry => Spawned (steps ++ [⟨state, label, after⟩]) index entry := by
        intro world acting other there
        have inside := (List.getElem?_eq_some_iff.mp there).1
        rw [List.length_set] at inside
        exact kept (List.getElem?_eq_getElem inside)
      cases label with
      | spawn entry =>
          cases State.step_spawn stepped
          by_cases old : index < state.processes.length
          · exact kept (List.getElem?_eq_getElem old)
          · have inside := (List.getElem?_eq_some_iff.mp here).1
            rw [List.length_append, List.length_singleton] at inside
            have fresh : state.processes.length = index := by omega
            exact ⟨entry, _, List.mem_append_right _ List.mem_cons_self, rfl, fresh⟩
      | act acting choice =>
          rcases State.step_act stepped with ⟨op, resume, past, outcome, world, there, executed, rfl⟩
          exact changed here
      | crash stopping =>
          rcases State.step_crash stepped with ⟨stopped, there, rfl⟩
          exact changed here
      | internal event =>
          rcases State.step_internal stepped with ⟨world, moved, rfl⟩
          exact kept here

/-- No two entries start the same process. -/
theorem Execution.spawned_unique {first last : M.State} {steps : List M.Transition}
    (run : Execution first steps last) {index : Nat} {left right : M.Entry}
    (one : Spawned steps index left) (other : Spawned steps index right) : left = right := by
  induction run with
  | start =>
      rcases one with ⟨step, member, _⟩
      cases member
  | @next steps state after label run stepped inductionHypothesis =>
      have absent : forall {entry}, Spawned steps index entry ->
          state.processes.length ≠ index := by
        intro entry spawned same
        rcases run.follows spawned with ⟨process, here, _⟩
        rw [List.getElem?_eq_none (Nat.le_of_eq same)] at here
        cases here
      rcases one with ⟨first, firstMember, spawns, firstFresh⟩
      rcases other with ⟨second, secondMember, alsoSpawns, secondFresh⟩
      rcases List.mem_append.mp firstMember with before | now
      · rcases List.mem_append.mp secondMember with alsoBefore | now
        · exact inductionHypothesis ⟨first, before, spawns, firstFresh⟩
            ⟨second, alsoBefore, alsoSpawns, secondFresh⟩
        · cases List.mem_singleton.mp now
          exact absurd secondFresh (absent ⟨first, before, spawns, firstFresh⟩)
      · cases List.mem_singleton.mp now
        rcases List.mem_append.mp secondMember with before | alsoNow
        · exact absurd firstFresh (absent ⟨second, before, alsoSpawns, secondFresh⟩)
        · cases List.mem_singleton.mp alsoNow
          cases spawns.symm.trans alsoSpawns
          rfl

/-- The entry that a process was started with. -/
def startedFor (steps : List M.Transition) (index : Nat) : Option M.Entry :=
  steps.findSome? fun step =>
    match step.label with
    | .spawn entry => if step.before.processes.length = index then some entry else none
    | .act .. | .crash _ | .internal _ => none

theorem spawned_of_startedFor {steps : List M.Transition} {index : Nat} {entry : M.Entry}
    (started : startedFor steps index = some entry) : Spawned steps index entry := by
  rcases List.exists_of_findSome?_eq_some started with ⟨step, member, starts⟩
  split at starts
  · rename_i spawned label
    split at starts
    · rename_i fresh
      cases starts
      exact ⟨step, member, label, fresh⟩
    · cases starts
  · cases starts
  · cases starts
  · cases starts

theorem Execution.startedFor_eq {first last : M.State} {steps : List M.Transition}
    (run : Execution first steps last) {index : Nat} {entry : M.Entry}
    (spawned : Spawned steps index entry) : startedFor steps index = some entry := by
  cases found : startedFor steps index with
  | some other => rw [run.spawned_unique (spawned_of_startedFor found) spawned]
  | none =>
      rcases spawned with ⟨step, member, label, fresh⟩
      have missed := List.findSome?_eq_none_iff.mp found step member
      simp only [label, fresh, if_true, reduceCtorEq] at missed

section Own

variable {first last : M.State} {steps : List M.Transition} {D : M.Entry -> Discipline I}
  (starts : forall entry, (M.start entry).Obeys (D entry) (fun _ _ => True) [])
  (credible : forall entry op choice world outcome later,
    M.exec op choice world = some (outcome, later) -> (D entry).Credible op outcome)
  (run : Execution first steps last) (initially : first.processes = []) {index : Nat}
  {entry : M.Entry} (spawned : Spawned steps index entry)

include starts credible run initially spawned

/-- A process performs next what the discipline of its own entry permits. -/
theorem Execution.permits_next {op : I.Op} {resume : I.Outcome op -> Program I Unit}
    {past : History I} (here : last.processes[index]? = some ⟨.request op resume, past⟩) :
    (D entry).Permits past op := by
  rcases run.follows spawned with ⟨process, there, rest, through, goes⟩
  cases here.symm.trans there
  have history : last.historyAt index = past := State.historyAt_of_getElem? here
  have seen : forall event, event ∈ past -> (D entry).Credible event.op event.outcome := by
    intro event member
    rw [← history] at member
    rcases run.step_of_event initially member with ⟨step, _, choice, _, _, _, executed⟩
    exact credible entry _ _ _ _ _ executed
  have obeyed := (starts entry).run through seen
  rcases goes with same | crashed
  · simp only at same
    rw [← same] at obeyed
    exact obeyed.1
  · cases crashed.1

/-- Whatever a process has done, the discipline of its own entry permitted. -/
theorem Execution.permits_event {front back : History I} {event : Event I}
    (split : last.historyAt index = front ++ event :: back) :
    (D entry).Permits front event.op := by
  rcases run.follows spawned with ⟨process, there, rest, through, _⟩
  have history := State.historyAt_of_getElem? there
  have seen : forall event, event ∈ process.history ->
      (D entry).Credible event.op event.outcome := by
    intro event member
    rw [← history] at member
    rcases run.step_of_event initially member with ⟨step, _, choice, _, _, _, executed⟩
    exact credible entry _ _ _ _ _ executed
  exact (starts entry).permits_event through seen (history.symm.trans split)

/-- Whatever a process does in a step, the discipline of its own entry permits
it. -/
theorem Execution.permits_step {step : M.Transition} (member : step ∈ steps) {choice : M.Choice}
    (acts : step.label = .act index choice) {op : I.Op}
    (pending : step.before.pending index = some op) :
    (D entry).Permits (step.before.historyAt index) op := by
  rcases List.append_of_mem member with ⟨earlier, rest, rfl⟩
  rcases run.around with ⟨_, stepped, following⟩
  rw [acts] at stepped
  rcases State.historyAt_act stepped pending with ⟨resume, outcome, _, _, grown⟩
  rcases following.historyAt_grows index with ⟨back, ends⟩
  have split : last.historyAt index =
      step.before.historyAt index ++ (⟨op, outcome⟩ : Event I) :: back := by
    rw [← ends, grown, List.append_assoc, List.singleton_append]
  exact run.permits_event starts credible initially spawned split

end Own

/-! ## Calls of procedures -/

/-- Whatever stands in the history of a process was the event of a step of the
run that started with what stands before it. -/
theorem Execution.step_of_split {first last : M.State} {steps : List M.Transition}
    (run : Execution first steps last) (initially : first.processes = []) {index : Nat}
    {front back : History I} {event : Event I}
    (split : last.historyAt index = front ++ event :: back) :
    Exists fun step : M.Transition => step ∈ steps ∧ Exists fun choice => Exists fun resume =>
      step.label = .act index choice ∧
      step.before.processes[index]? = some ⟨.request event.op resume, front⟩ ∧
      M.exec event.op choice step.before.world = some (event.outcome, step.after.world) := by
  induction run generalizing back with
  | start =>
      rw [State.historyAt, initially] at split
      exact absurd split.symm (List.append_ne_nil_of_right_ne_nil _ (List.cons_ne_nil _ _))
  | @next steps state after label run stepped inductionHypothesis =>
      rcases State.historyAt_step stepped index with
        same | ⟨choice, op, resume, outcome, acts, here, executed, grown⟩
      · rcases inductionHypothesis (same ▸ split) with ⟨step, member, found⟩
        exact ⟨step, List.mem_append_left _ member, found⟩
      · rw [grown] at split
        rcases List.eq_nil_or_concat back with none | ⟨shorter, final, same⟩
        · subst none
          rcases List.append_inj' split rfl with ⟨rfl, single⟩
          cases List.singleton_inj.1 single
          exact ⟨⟨state, label, after⟩, List.mem_append_right _ List.mem_cons_self, choice, resume,
            acts, here, executed⟩
        · rw [same, List.concat_eq_append, ← List.cons_append, ← List.append_assoc] at split
          rcases inductionHypothesis (List.append_inj' split rfl).1 with ⟨step, member, found⟩
          exact ⟨step, List.mem_append_left _ member, found⟩

/-- A call of a procedure by a process that has done certain things before. -/
structure Call (I : Interface) (α : Type) where
  index : Nat
  past : History I
  body : Program I α

namespace Call

variable {α : Type}

/-- The process runs the procedure next and goes on with its ending. -/
def Begins (call : Call I α) (state : M.State) : Prop :=
  Exists fun next => state.processes[call.index]? = some ⟨call.body.followedBy next, call.past⟩

/-- In a step the process performs an operation that is due in the call. -/
def Performs (call : Call I α) (step : M.Transition) (op : I.Op) : Prop :=
  Exists fun choice => Exists fun front => Exists fun resume =>
    step.label = .act call.index choice ∧ step.before.pending call.index = some op ∧
    step.before.historyAt call.index = call.past ++ front ∧
    call.body.Run front (.request op resume)

/-- The call has returned a value after the given events. -/
def Returned (call : Call I α) (state : M.State) (events : History I) (value : α) : Prop :=
  call.body.Run events (.done value) ∧ call.past ++ events <+: state.historyAt call.index

variable {call : Call I α} {first last : M.State} {steps : List M.Transition}
  {events : History I} {value : α}

/-- What a call performs is among its events once it has returned. -/
theorem Performs.event (run : Execution first steps last)
    (returned : call.Returned last events value) {step : M.Transition} (member : step ∈ steps)
    {op : I.Op} (performs : call.Performs step op) :
    Exists fun front => Exists fun outcome => Exists fun choice =>
      step.before.historyAt call.index = call.past ++ front ∧
      front ++ [(⟨op, outcome⟩ : Event I)] <+: events ∧
      M.exec op choice step.before.world = some (outcome, step.after.world) := by
  rcases performs with ⟨choice, front, resume, acts, pending, before, due⟩
  rcases List.append_of_mem member with ⟨earlier, rest, rfl⟩
  rcases run.around with ⟨_, stepped, following⟩
  rw [acts] at stepped
  rcases State.historyAt_act stepped pending with ⟨_, outcome, _, executed, grown⟩
  rcases returned.2 with ⟨more, whole⟩
  have extended := following.historyAt_grows call.index
  rw [grown, before, ← whole, List.append_assoc, List.append_assoc,
    List.prefix_append_right_inj] at extended
  exact ⟨front, outcome, choice, before, returned.1.performed due extended, executed⟩

/-- The events of a call that has returned were performed in steps of the run. -/
theorem Returned.step (run : Execution first steps last) (initially : first.processes = [])
    (returned : call.Returned last events value) {front back : History I} {event : Event I}
    (split : events = front ++ event :: back) :
    Exists fun step : M.Transition => step ∈ steps ∧ call.Performs step event.op ∧
      Exists fun choice =>
        M.exec event.op choice step.before.world = some (event.outcome, step.after.world) := by
  rcases returned with ⟨ran, more, whole⟩
  rw [split, ← List.append_assoc, List.append_assoc, List.cons_append] at whole
  rcases run.step_of_split initially whole.symm with
    ⟨step, member, choice, resume, acts, here, executed⟩
  rw [split, List.append_cons] at ran
  rcases ran.interrupted rfl with ⟨middle, leading, _⟩
  rcases leading.last with ⟨onward, due, _⟩
  refine ⟨step, member, ⟨choice, front, onward, acts, ?_, ?_, due⟩, choice, executed⟩
  · simp only [State.pending, here]
  · exact State.historyAt_of_getElem? here

end Call

end Machine
end Interleaving
