import Mathlib.Data.List.Basic

namespace Relational

/-!
# Conditions over nullable columns

A condition of a relational query is true, false or unknown.  A comparison
with a null column is unknown, the connectives propagate what is unknown as
far as the other operand does not decide the result, and a query selects a
row only if its condition is true.  Negation therefore does not exchange the
selected rows with the others.

The rules reduce the selection by a tree of conditions to the selection by
its leaves: a conjunction selects what all of its members select, and a
disjunction what one of them does.  Only below a negation does it matter that
a leaf may be unknown.
-/

/-- The value of a condition at a row; `none` is unknown. -/
abbrev Truth : Type := Option Bool

namespace Truth

def and : Truth -> Truth -> Truth
  | some false, _ => some false
  | _, some false => some false
  | some true, some true => some true
  | _, _ => none

def or : Truth -> Truth -> Truth
  | some true, _ => some true
  | _, some true => some true
  | some false, some false => some false
  | _, _ => none

def not : Truth -> Truth
  | some value => some !value
  | none => none

/-- `AND` of a list of conditions. -/
def all : List Truth -> Truth
  | [] => some true
  | condition :: rest => and condition (all rest)

/-- `OR` of a list of conditions. -/
def any : List Truth -> Truth
  | [] => some false
  | condition :: rest => or condition (any rest)

/-- A condition on columns that are never null. -/
def definite (value : Bool) : Truth := some value

/-- `IS NULL`, which is never unknown. -/
def isNull {α : Type} (column : Option α) : Truth := some column.isNone

/-- `IS NOT NULL`. -/
def isNotNull {α : Type} (column : Option α) : Truth := some column.isSome

/-- A comparison of a column with a value that is not null. -/
def compare {α : Type} (column : Option α) (relation : α -> Bool) : Truth := column.map relation

/-- `IN` a list of values that are not null. -/
def oneOf {α : Type} [BEq α] (column : Option α) (values : List α) : Truth :=
  compare column values.contains

/-- The query selects a row exactly if its condition is true. -/
def selects (condition : Truth) : Bool := condition == some true

/-! ## Selection by a tree of conditions -/

theorem selects_and (left right : Truth) :
    (and left right).selects = (left.selects && right.selects) := by
  cases left with
  | none => cases right with
      | none => rfl
      | some value => cases value <;> rfl
  | some first => cases first <;> cases right with
      | none => rfl
      | some value => cases value <;> rfl

theorem selects_or (left right : Truth) :
    (or left right).selects = (left.selects || right.selects) := by
  cases left with
  | none => cases right with
      | none => rfl
      | some value => cases value <;> rfl
  | some first => cases first <;> cases right with
      | none => rfl
      | some value => cases value <;> rfl

@[simp] theorem selects_all (conditions : List Truth) :
    (all conditions).selects = conditions.all selects := by
  induction conditions with
  | nil => rfl
  | cons condition rest inductionHypothesis =>
      rw [all, selects_and, inductionHypothesis, List.all_cons]

@[simp] theorem selects_any (conditions : List Truth) :
    (any conditions).selects = conditions.any selects := by
  induction conditions with
  | nil => rfl
  | cons condition rest inductionHypothesis =>
      rw [any, selects_or, inductionHypothesis, List.any_cons]

/-! ## Selection by one comparison -/

@[simp] theorem selects_definite (value : Bool) : (definite value).selects = value := by
  cases value <;> rfl

/-- Without nulls a negation selects what its condition does not. -/
@[simp] theorem selects_not_definite (value : Bool) : (not (definite value)).selects = !value := by
  cases value <;> rfl

@[simp] theorem selects_isNull {α : Type} (column : Option α) :
    (isNull column).selects = column.isNone :=
  selects_definite column.isNone

@[simp] theorem selects_isNotNull {α : Type} (column : Option α) :
    (isNotNull column).selects = column.isSome :=
  selects_definite column.isSome

/-- A comparison never selects a row in which the column is null. -/
@[simp] theorem selects_compare {α : Type} (column : Option α) (relation : α -> Bool) :
    (compare column relation).selects = column.any relation := by
  cases column with
  | none => rfl
  | some value => exact selects_definite (relation value)

end Truth
end Relational
