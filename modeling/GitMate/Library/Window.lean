import Mathlib.Order.Lattice

namespace Windows

/-!
# Half-open windows and a checkpoint that moves over them

A window starts after a bound and reaches up to and including its end.  A
missing bound lies before everything, which is also how options are ordered.
A checkpoint that only moves to the end of a window which starts no later than
the checkpoint leaves no gap behind it.
-/

variable {α : Type} [LinearOrder α]

/-- A point lies after a bound. -/
def After (bound : Option α) (point : α) : Prop :=
  forall start, bound = some start -> start < point

/-- A point lies in the window that starts after a bound. -/
structure Covers (bound : Option α) (finish point : α) : Prop where
  after : After bound point
  upTo : point ≤ finish

theorem after_none (point : α) : After none point := by
  intro start same
  cases same

theorem after_some {start point : α} : After (some start) point ↔ start < point := by
  constructor
  · intro after
    exact after start rfl
  · intro less other same
    cases same
    exact less

/-- What lies after a bound lies after every earlier bound. -/
theorem After.of_le {bound checkpoint : Option α} {point : α} (le : bound ≤ checkpoint)
    (after : After checkpoint point) : After bound point := by
  intro start same
  subst same
  cases checkpoint with
  | none => exact absurd le Option.not_some_le_none
  | some finish => exact lt_of_le_of_lt (Option.some_le_some.mp le) (after finish rfl)

/-- Whatever does not lie after a bound is no later than it. -/
theorem after_or_le (bound : Option α) (point : α) :
    After bound point ∨ Exists fun start => bound = some start ∧ point ≤ start := by
  cases bound with
  | none => exact Or.inl (after_none point)
  | some start =>
      rcases lt_or_ge start point with less | within
      · exact Or.inl (after_some.mpr less)
      · exact Or.inr ⟨start, rfl, within⟩

/-- A window that starts no later than the checkpoint covers everything from
the checkpoint up to its own end. -/
theorem covers_of_le {bound checkpoint : Option α} {finish point : α} (le : bound ≤ checkpoint)
    (after : After checkpoint point) (within : point ≤ finish) : Covers bound finish point where
  after := after.of_le le
  upTo := within

theorem bound_le_refl (bound : Option α) : bound ≤ bound := by
  cases bound with
  | none => exact Option.none_le
  | some start => exact Option.some_le_some.mpr (le_refl start)

theorem bound_le_trans {first middle last : Option α} (less : first ≤ middle)
    (more : middle ≤ last) : first ≤ last := by
  cases first with
  | none => exact Option.none_le
  | some start =>
      cases middle with
      | none => exact absurd less Option.not_some_le_none
      | some other =>
          cases last with
          | none => exact absurd more Option.not_some_le_none
          | some finish =>
              exact Option.some_le_some.mpr
                ((Option.some_le_some.mp less).trans (Option.some_le_some.mp more))

end Windows
