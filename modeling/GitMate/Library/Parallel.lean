import GitMate.Library.Program

namespace Interleaving

/-!
# Programs side by side within one process

A process may start several procedures at once and wait for all of them.  Their
operations then interleave in an order that the process does not determine, so
the composition asks the environment before every operation which side goes on.

A side that fails does not stop the other one.  The composition waits for both
and then raises a fault: of two faults it is the environment's choice which one
counts.  The waiting makes no difference to a caller that does nothing further
after the fault.

A discipline is lasting when more events never take a permission away.  Sides
that obey a lasting discipline alone also obey it together, whatever the other
side adds to the history in between.
-/

namespace Program

variable {I : Interface} {α β : Type}

/-! ## Composition -/

section Composition

variable (turn : I.Op) (goesLeft : I.Outcome turn -> Bool)

/-- Both sides have ended. -/
def settle : I.Ending α -> I.Ending β -> Program I (α × β)
  | .ok left, .ok right => .done (left, right)
  | .ok _, .error fault => .fail fault
  | .error fault, .ok _ => .fail fault
  | .error left, .error right =>
      .request turn fun outcome => if goesLeft outcome then .fail left else .fail right

/-- The left side is about to perform an operation, and `next` is the
composition after it. -/
def alternate (op : I.Op) (resume : I.Outcome op -> Program I α)
    (next : I.Outcome op -> Program I β -> Program I (α × β)) :
    Program I β -> Program I (α × β)
  | .done value =>
      (Program.request op resume).followedBy fun ending => settle turn goesLeft ending (.ok value)
  | .fail fault =>
      (Program.request op resume).followedBy fun ending => settle turn goesLeft ending (.error fault)
  | .request other onward =>
      .request turn fun outcome =>
        if goesLeft outcome then .request op fun reply => next reply (.request other onward)
        else .request other fun reply => alternate op resume next (onward reply)

/-- Two programs side by side. -/
def both : Program I α -> Program I β -> Program I (α × β)
  | .done value, right => right.followedBy (settle turn goesLeft (.ok value))
  | .fail fault, right => right.followedBy (settle turn goesLeft (.error fault))
  | .request op resume, right =>
      alternate turn goesLeft op resume (fun outcome rest => both (resume outcome) rest) right

/-- `Promise.all`. -/
def all : List (Program I α) -> Program I (List α)
  | [] => .done []
  | program :: rest =>
      (both turn goesLeft program (all rest)).bind fun values => .done (values.1 :: values.2)

end Composition

end Program

/-! ## Lasting disciplines -/

/-- A permission outlives whatever happens in between. -/
def Discipline.Lasting {I : Interface} (D : Discipline I) : Prop :=
  forall past later op, past.Sublist later -> D.Permits past op -> D.Permits later op

/-- What holds at an ending outlives whatever happens besides. -/
def Interface.Post.Lasting {I : Interface} {α : Type} (ends : I.Post α) : Prop :=
  forall past later ending, past.Sublist later -> ends past ending -> ends later ending

namespace Program

variable {I : Interface} {α β : Type} {D : Discipline I} {past : History I}

/-- A program that obeys a lasting discipline obeys it after a longer history
too. -/
theorem Obeys.after_more {ends : I.Post α} {program : Program I α} {later : History I}
    (lasting : D.Lasting) (endsLasting : ends.Lasting) (more : past.Sublist later)
    (obeys : Obeys D ends past program) : Obeys D ends later program := by
  induction program generalizing past later with
  | done value => exact endsLasting _ _ _ more obeys
  | fail fault => exact endsLasting _ _ _ more obeys
  | request op resume inductionHypothesis =>
      refine ⟨lasting _ _ _ more obeys.1, fun outcome credible => ?_⟩
      exact inductionHypothesis outcome (more.append (List.Sublist.refl _))
        (obeys.2 outcome credible)

/-- A program may be followed by anything that obeys in view of its ending. -/
theorem Obeys.followedBy {middle : I.Post α} {ends : I.Post β} {body : Program I α}
    {next : I.Ending α -> Program I β} (obeys : Obeys D middle past body)
    (continues : forall later ending, past <+: later -> middle later ending ->
      Obeys D ends later (next ending)) : Obeys D ends past (body.followedBy next) := by
  induction body generalizing past with
  | done value => exact continues past (.ok value) List.prefix_rfl obeys
  | fail fault => exact continues past (.error fault) List.prefix_rfl obeys
  | request op resume inductionHypothesis =>
      refine ⟨obeys.1, fun outcome credible => ?_⟩
      exact inductionHypothesis outcome (obeys.2 outcome credible) fun later ending extended =>
        continues later ending ((List.prefix_append _ _).trans extended)

/-- A program that obeys a discipline obeys one that permits more and believes
less. -/
theorem Obeys.weaken {E : Discipline I} {ends : I.Post α} {program : Program I α}
    (obeys : Obeys D ends past program)
    (permits : forall past op, D.Permits past op -> E.Permits past op)
    (credible : forall op outcome, E.Credible op outcome -> D.Credible op outcome) :
    Obeys E ends past program := by
  induction program generalizing past with
  | done value => exact obeys
  | fail fault => exact obeys
  | request op resume inductionHypothesis =>
      exact ⟨permits _ _ obeys.1, fun outcome believed =>
        inductionHypothesis outcome (obeys.2 outcome (credible op outcome believed))⟩

/-- What every permitted event preserves holds at the end, too. -/
theorem Obeys.and_keeps {keeps : History I -> Prop} {ends : I.Post α} {program : Program I α}
    (obeys : Obeys D ends past program) (holds : keeps past)
    (preserved : forall history event, keeps history -> D.Permits history event.op ->
      keeps (history ++ [event])) :
    Obeys D (fun later ending => ends later ending ∧ keeps later) past program := by
  induction program generalizing past with
  | done value => exact ⟨obeys, holds⟩
  | fail fault => exact ⟨obeys, holds⟩
  | request op resume inductionHypothesis =>
      exact ⟨obeys.1, fun outcome credible => inductionHypothesis outcome (obeys.2 outcome credible)
        (preserved past ⟨op, outcome⟩ holds obeys.1)⟩

section Sides

variable {turn : I.Op} {goesLeft : I.Outcome turn -> Bool}
  {holdsLeft : History I -> α -> Prop} {holdsRight : History I -> β -> Prop}

/-- What a value satisfies when its program has returned it. -/
def returning (holds : History I -> α -> Prop) : I.Post α :=
  fun later ending => forall value, ending = .ok value -> holds later value

theorem obeys_settle (free : forall past, D.Permits past turn) {left : I.Ending α}
    {right : I.Ending β} (leftHolds : returning holdsLeft past left)
    (rightHolds : returning holdsRight past right) :
    Obeys D (returning fun later values => holdsLeft later values.1 ∧ holdsRight later values.2)
      past (settle turn goesLeft left right) := by
  cases left with
  | ok left =>
      cases right with
      | ok right =>
          intro values same
          cases same
          exact ⟨leftHolds left rfl, rightHolds right rfl⟩
      | error fault => exact fun values same => nomatch same
  | error fault =>
      cases right with
      | ok right => exact fun values same => nomatch same
      | error other =>
          refine ⟨free past, fun outcome _ => ?_⟩
          beta_reduce
          split <;> exact fun values same => nomatch same

/-- Two sides that obey a lasting discipline alone obey it together. -/
theorem obeys_both (lasting : D.Lasting) (free : forall past, D.Permits past turn)
    (leftLasting : (returning holdsLeft).Lasting) (rightLasting : (returning holdsRight).Lasting)
    {left : Program I α} {right : Program I β}
    (leftObeys : Obeys D (returning holdsLeft) past left)
    (rightObeys : Obeys D (returning holdsRight) past right) :
    Obeys D (returning fun later values => holdsLeft later values.1 ∧ holdsRight later values.2)
      past (both turn goesLeft left right) := by
  induction left generalizing past right with
  | done value =>
      refine rightObeys.followedBy fun later ending extended ended => ?_
      exact obeys_settle free (leftLasting _ _ _ extended.sublist leftObeys) ended
  | fail fault =>
      refine rightObeys.followedBy fun later ending extended ended => ?_
      exact obeys_settle free (leftLasting _ _ _ extended.sublist leftObeys) ended
  | request op resume inductionHypothesis =>
      unfold both
      induction right generalizing past with
      | done value =>
          refine leftObeys.followedBy fun later ending extended ended => ?_
          exact obeys_settle free ended (rightLasting _ _ _ extended.sublist rightObeys)
      | fail fault =>
          refine leftObeys.followedBy fun later ending extended ended => ?_
          exact obeys_settle free ended (rightLasting _ _ _ extended.sublist rightObeys)
      | request other onward rightHypothesis =>
          refine ⟨free past, fun outcome _ => ?_⟩
          have leftLater := leftObeys.after_more lasting leftLasting
            (List.sublist_append_left past [(⟨turn, outcome⟩ : Event I)])
          have rightLater := rightObeys.after_more lasting rightLasting
            (List.sublist_append_left past [(⟨turn, outcome⟩ : Event I)])
          beta_reduce
          split
          · refine ⟨leftLater.1, fun reply credible => ?_⟩
            exact inductionHypothesis reply (leftLater.2 reply credible)
              (rightLater.after_more lasting rightLasting (List.sublist_append_left _ _))
          · refine ⟨rightLater.1, fun reply credible => ?_⟩
            exact rightHypothesis reply
              (leftLater.after_more lasting leftLasting (List.sublist_append_left _ _))
              (rightLater.2 reply credible)

/-- Any number of programs together, whose values all satisfy the same. -/
theorem obeys_all (lasting : D.Lasting) (free : forall past, D.Permits past turn)
    {holds : History I -> α -> Prop} (holdsLasting : (returning holds).Lasting)
    {programs : List (Program I α)}
    (each : forall program, program ∈ programs -> Obeys D (returning holds) past program) :
    Obeys D (returning fun later values => forall value, value ∈ values -> holds later value) past
      (all turn goesLeft programs) := by
  have listLasting : (returning fun later (values : List α) =>
      forall value, value ∈ values -> holds later value).Lasting := by
    intro before later ending more ended values same value member
    exact holdsLasting before later (.ok value) more
      (fun other equal => Except.ok.inj equal ▸ ended values same value member) value rfl
  induction programs with
  | nil =>
      intro values same value member
      cases same
      cases member
  | cons program rest inductionHypothesis =>
      have together := @obeys_both _ _ _ _ past turn goesLeft _ _ lasting free holdsLasting listLasting _ _
        (each program List.mem_cons_self)
        (inductionHypothesis fun other member => each other (List.mem_cons_of_mem program member))
      refine together.bind (fun later values _ ended => ?_)
        (fun later fault _ _ values same => nomatch same)
      intro whole same value member
      cases same
      rcases List.mem_cons.1 member with rfl | later
      · exact (ended values rfl).1
      · exact (ended values rfl).2 value later

end Sides

end Program
end Interleaving
