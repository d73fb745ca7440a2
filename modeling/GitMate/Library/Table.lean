import Mathlib.Data.List.Nodup
import Mathlib.Algebra.BigOperators.Group.List.Basic
import Mathlib.Algebra.Ring.Int.Defs

namespace Relational

/-!
# Keyed tables and guarded updates

A table is a list of rows with distinct primary keys.  The distinctness is a
field of the table, so every table that can be built satisfies it, and an
update must keep the key of each row it rewrites.

The central operation is the conditional update of a relational database: a
predicate selects rows, a function rewrites them, and the number of selected
rows is reported to the caller.  When the predicate names one key, the update
is a compare-and-set of one row; the lemmas below say exactly when it takes
place and what it does to a sum over the table.
-/

/-- Rows with distinct keys, in the order of their insertion. -/
structure Table {Row Key : Type} (key : Row -> Key) where
  rows : List Row
  distinct : (rows.map key).Nodup

namespace Table

variable {Row Key : Type} {key : Row -> Key}

instance : Membership Row (Table key) := ⟨fun table row => row ∈ table.rows⟩

theorem mem_rows {table : Table key} {row : Row} : row ∈ table ↔ row ∈ table.rows := Iff.rfl

@[ext] theorem ext {left right : Table key} (same : left.rows = right.rows) : left = right := by
  cases left
  cases right
  cases same
  rfl

def empty : Table key := ⟨[], List.nodup_nil⟩

@[simp] theorem not_mem_empty (row : Row) : row ∉ (empty : Table key) := List.not_mem_nil

/-- Two rows of a table with the same key are the same row. -/
theorem eq_of_key_eq {table : Table key} {left right : Row} (leftMember : left ∈ table)
    (rightMember : right ∈ table) (same : key left = key right) : left = right :=
  List.inj_on_of_nodup_map table.distinct leftMember rightMember same

/-! ## Looking up a row -/

section Lookup

variable [DecidableEq Key]

def find? (table : Table key) (wanted : Key) : Option Row :=
  table.rows.find? (fun row => decide (key row = wanted))

theorem find?_eq_some_iff {table : Table key} {wanted : Key} {row : Row} :
    table.find? wanted = some row ↔ row ∈ table ∧ key row = wanted := by
  constructor
  · intro found
    have same := List.find?_some (p := fun row => decide (key row = wanted)) found
    exact ⟨List.mem_of_find?_eq_some found, of_decide_eq_true same⟩
  · rintro ⟨member, rfl⟩
    cases found : table.find? (key row) with
    | none =>
        have absent := List.find?_eq_none.mp found row member
        simp only [decide_true, not_true_eq_false] at absent
    | some other =>
        have same := List.find?_some (p := fun other => decide (key other = key row)) found
        rw [eq_of_key_eq (List.mem_of_find?_eq_some found) member (of_decide_eq_true same)]

theorem find?_eq_none_iff {table : Table key} {wanted : Key} :
    table.find? wanted = none ↔ forall row, row ∈ table -> key row ≠ wanted := by
  simp only [find?, List.find?_eq_none, decide_eq_true_eq]
  exact Iff.rfl

theorem mem_of_find? {table : Table key} {wanted : Key} {row : Row}
    (found : table.find? wanted = some row) : row ∈ table :=
  (find?_eq_some_iff.mp found).1

theorem key_of_find? {table : Table key} {wanted : Key} {row : Row}
    (found : table.find? wanted = some row) : key row = wanted :=
  (find?_eq_some_iff.mp found).2

end Lookup

/-! ## Conditional updates -/

/-- Rewrite every selected row. -/
def updateMany (table : Table key) (selects : Row -> Bool) (change : Row -> Row)
    (keeps : forall row, key (change row) = key row) : Table key where
  rows := table.rows.map fun row => if selects row then change row else row
  distinct := by
    have sameKeys : (table.rows.map fun row => if selects row then change row else row).map key =
        table.rows.map key := by
      rw [List.map_map]
      refine List.map_congr_left fun row _ => ?_
      by_cases selected : selects row = true <;> simp [selected, keeps]
    rw [sameKeys]
    exact table.distinct

/-- The number of rows an update would rewrite. -/
def countWhere (table : Table key) (selects : Row -> Bool) : Nat := table.rows.countP selects

section Updates

variable {table : Table key} {selects : Row -> Bool} {change : Row -> Row}
  {keeps : forall row, key (change row) = key row}

theorem mem_updateMany {row : Row} :
    row ∈ table.updateMany selects change keeps ↔
      Exists fun old => old ∈ table ∧ (if selects old then change old else old) = row :=
  List.mem_map

/-- A property of every row survives an update that preserves it on the
selected rows. -/
theorem forall_updateMany {holds : Row -> Prop} (all : forall row, row ∈ table -> holds row)
    (preserved : forall row, row ∈ table -> selects row = true -> holds row -> holds (change row)) :
    forall row, row ∈ table.updateMany selects change keeps -> holds row := by
  intro row member
  rcases mem_updateMany.mp member with ⟨old, oldMember, rfl⟩
  by_cases selected : selects old = true
  · rw [if_pos selected]
    exact preserved old oldMember selected (all old oldMember)
  · rw [if_neg selected]
    exact all old oldMember

/-- An update that selects no row changes nothing. -/
theorem updateMany_of_none (none : forall row, row ∈ table -> selects row = false) :
    table.updateMany selects change keeps = table := by
  apply Table.ext
  change table.rows.map _ = table.rows
  conv_rhs => rw [← List.map_id table.rows]
  refine List.map_congr_left fun row member => ?_
  rw [none row member]
  rfl

theorem updateMany_of_countWhere_zero (zero : table.countWhere selects = 0) :
    table.updateMany selects change keeps = table := by
  refine updateMany_of_none fun row member => ?_
  exact Bool.eq_false_iff.mpr (List.countP_eq_zero.mp zero row member)

variable [DecidableEq Key]

theorem find?_updateMany (wanted : Key) :
    (table.updateMany selects change keeps).find? wanted =
      (table.find? wanted).map fun row => if selects row then change row else row := by
  cases found : table.find? wanted with
  | none =>
      rw [Option.map_none]
      refine find?_eq_none_iff.mpr fun row member => ?_
      rcases mem_updateMany.mp member with ⟨old, oldMember, rfl⟩
      have different := find?_eq_none_iff.mp found old oldMember
      by_cases selected : selects old = true <;> simpa [selected, keeps] using different
  | some old =>
      rw [Option.map_some]
      refine find?_eq_some_iff.mpr ⟨mem_updateMany.mpr ⟨old, mem_of_find? found, rfl⟩, ?_⟩
      have same := key_of_find? found
      by_cases selected : selects old = true <;> simpa [selected, keeps] using same

end Updates

/-! ## Compare-and-set of one row

`Names selects k` says that the predicate can only select the row with key
`k`; all updates of one identified row have this form. -/

/-- The predicate selects at most the row with this key. -/
def Names (key : Row -> Key) (selects : Row -> Bool) (wanted : Key) : Prop :=
  forall row, selects row = true -> key row = wanted

section CompareAndSet

variable {table : Table key} {selects : Row -> Bool} {change : Row -> Row}
  {keeps : forall row, key (change row) = key row} {wanted : Key}

private theorem countP_le_one (rows : List Row) (distinct : (rows.map key).Nodup)
    (names : Names key selects wanted) : rows.countP selects ≤ 1 := by
  induction rows with
  | nil => simp
  | cons row rest inductionHypothesis =>
      rw [List.map_cons, List.nodup_cons] at distinct
      rw [List.countP_cons]
      by_cases selected : selects row = true
      · have restZero : rest.countP selects = 0 := by
          refine List.countP_eq_zero.mpr fun other member otherSelected => distinct.1 ?_
          rw [names row selected, ← names other otherSelected]
          exact List.mem_map_of_mem member
        have one : rest.countP selects + (if selects row = true then 1 else 0) = 1 := by
          rw [restZero, if_pos selected]
        exact Nat.le_of_eq one
      · rw [if_neg selected]
        exact inductionHypothesis distinct.2

theorem countWhere_le_one (names : Names key selects wanted) : table.countWhere selects ≤ 1 :=
  countP_le_one table.rows table.distinct names

/-- A compare-and-set that reports another count has changed nothing. -/
theorem updateMany_of_countWhere_ne_one (names : Names key selects wanted)
    (refused : table.countWhere selects ≠ 1) :
    table.updateMany selects change keeps = table := by
  refine updateMany_of_countWhere_zero ?_
  have bounded : table.countWhere selects ≤ 1 := countWhere_le_one names
  omega

variable [DecidableEq Key]

/-- Exactly one row is updated when the named row exists and passes the
guard. -/
theorem countWhere_eq_one_iff (names : Names key selects wanted) :
    table.countWhere selects = 1 ↔
      Exists fun row => table.find? wanted = some row ∧ selects row = true := by
  constructor
  · intro one
    have positive : 0 < table.rows.countP selects := by
      change 0 < table.countWhere selects
      omega
    rcases List.countP_pos_iff.mp positive with ⟨row, member, selected⟩
    exact ⟨row, find?_eq_some_iff.mpr ⟨member, names row selected⟩, selected⟩
  · rintro ⟨row, found, selected⟩
    have positive : 0 < table.rows.countP selects :=
      List.countP_pos_iff.mpr ⟨row, mem_of_find? found, selected⟩
    have bounded : table.countWhere selects ≤ 1 := countWhere_le_one names
    change 0 < table.countWhere selects at positive
    omega

/-- After a compare-and-set the named row is the changed one. -/
theorem find?_compareAndSet {row : Row} (found : table.find? wanted = some row)
    (selected : selects row = true) :
    (table.updateMany selects change keeps).find? wanted = some (change row) := by
  rw [find?_updateMany, found, Option.map_some, if_pos selected]

/-- Every other row is untouched. -/
theorem find?_compareAndSet_ne (names : Names key selects wanted) {other : Key}
    (different : other ≠ wanted) :
    (table.updateMany selects change keeps).find? other = table.find? other := by
  rw [find?_updateMany]
  cases found : table.find? other with
  | none => rfl
  | some row =>
      have unselected : selects row ≠ true := by
        intro selected
        exact different ((key_of_find? found).symm.trans (names row selected))
      rw [Option.map_some, if_neg unselected]

end CompareAndSet

/-! ## Insertion -/

def insert (table : Table key) (row : Row) (fresh : key row ∉ table.rows.map key) : Table key where
  rows := table.rows ++ [row]
  distinct := by
    rw [List.map_append, List.map_singleton]
    exact List.nodup_append.mpr ⟨table.distinct, List.nodup_singleton _, by
      intro left leftMember right rightMember same
      rw [List.mem_singleton] at rightMember
      exact fresh (rightMember ▸ same ▸ leftMember)⟩

section Insert

variable {table : Table key} {row : Row} {fresh : key row ∉ table.rows.map key}

theorem mem_insert {other : Row} : other ∈ table.insert row fresh ↔ other ∈ table ∨ other = row := by
  change other ∈ table.rows ++ [row] ↔ _
  rw [List.mem_append, List.mem_singleton]
  exact Iff.rfl

variable [DecidableEq Key]

/-- A checked insertion, refused when the key is taken. -/
def insert? (table : Table key) (row : Row) : Option (Table key) :=
  if fresh : key row ∉ table.rows.map key then some (table.insert row fresh) else none

theorem find?_insert (wanted : Key) :
    (table.insert row fresh).find? wanted =
      if key row = wanted then some row else table.find? wanted := by
  by_cases same : key row = wanted
  · rw [if_pos same]
    exact find?_eq_some_iff.mpr ⟨mem_insert.mpr (Or.inr rfl), same⟩
  · rw [if_neg same]
    cases found : table.find? wanted with
    | none =>
        refine find?_eq_none_iff.mpr fun other member => ?_
        rcases mem_insert.mp member with old | new
        · exact find?_eq_none_iff.mp found other old
        · exact new ▸ same
    | some old =>
        exact find?_eq_some_iff.mpr
          ⟨mem_insert.mpr (Or.inl (mem_of_find? found)), key_of_find? found⟩

/-- A checked insertion that succeeds inserts under a fresh key. -/
theorem find?_insert? {later : Table key} (inserted : table.insert? row = some later) :
    table.find? (key row) = none ∧ forall wanted,
      later.find? wanted = if key row = wanted then some row else table.find? wanted := by
  unfold insert? at inserted
  split at inserted
  · rename_i fresh
    cases inserted
    refine ⟨find?_eq_none_iff.mpr fun other member same => fresh ?_, find?_insert⟩
    exact same ▸ List.mem_map_of_mem member
  · cases inserted

end Insert

/-! ## Upserts

An upsert changes the row with a key or, if there is none, inserts a row. -/

section Upsert

variable [DecidableEq Key]

def upsert (table : Table key) (row : Row) (change : Row -> Row)
    (keeps : forall old, key (change old) = key old) : Table key :=
  if fresh : key row ∉ table.rows.map key then table.insert row fresh
  else table.updateMany (fun old => decide (key old = key row)) change keeps

variable {table : Table key} {row : Row} {change : Row -> Row}
  {keeps : forall old, key (change old) = key old}

theorem find?_upsert_self : (table.upsert row change keeps).find? (key row) =
    some (((table.find? (key row)).map change).getD row) := by
  unfold upsert
  split
  · rename_i fresh
    have absent : table.find? (key row) = none := by
      refine find?_eq_none_iff.mpr fun other member same => fresh ?_
      exact same ▸ List.mem_map_of_mem member
    rw [find?_insert, if_pos rfl, absent]
    rfl
  · rename_i taken
    rcases List.mem_map.mp (not_not.mp taken) with ⟨old, member, same⟩
    have found : table.find? (key row) = some old := find?_eq_some_iff.mpr ⟨member, same⟩
    rw [find?_updateMany, found, Option.map_some, Option.map_some,
      if_pos (decide_eq_true same)]
    rfl

theorem find?_upsert_ne {wanted : Key} (different : wanted ≠ key row) :
    (table.upsert row change keeps).find? wanted = table.find? wanted := by
  unfold upsert
  split
  · rw [find?_insert, if_neg (Ne.symm different)]
  · exact find?_compareAndSet_ne (fun old selected => of_decide_eq_true selected) different

end Upsert

/-! ## Deletion -/

/-- Delete every selected row. -/
def deleteMany (table : Table key) (selects : Row -> Bool) : Table key where
  rows := table.rows.filter fun row => !selects row
  distinct := table.distinct.sublist ((List.filter_sublist).map key)

theorem mem_deleteMany {table : Table key} {selects : Row -> Bool} {row : Row} :
    row ∈ table.deleteMany selects ↔ row ∈ table ∧ selects row = false := by
  rw [← Bool.not_eq_true']
  exact List.mem_filter

/-! ## Sums over a table -/

/-- The sum of a quantity over all rows. -/
def total (table : Table key) (quantity : Row -> Int) : Int := (table.rows.map quantity).sum

section Total

variable {table : Table key} {quantity : Row -> Int}

@[simp] theorem total_empty : (empty : Table key).total quantity = 0 := rfl

theorem total_insert {row : Row} {fresh : key row ∉ table.rows.map key} :
    (table.insert row fresh).total quantity = table.total quantity + quantity row := by
  change ((table.rows ++ [row]).map quantity).sum = _
  rw [List.map_append, List.sum_append, List.map_singleton, List.sum_singleton]
  rfl

variable {selects : Row -> Bool} {change : Row -> Row}
  {keeps : forall row, key (change row) = key row}

/-- An update that leaves the quantity of every selected row alone leaves the
sum alone, however many rows it rewrites. -/
theorem total_updateMany_of_eq
    (same : forall row, row ∈ table -> selects row = true -> quantity (change row) = quantity row) :
    (table.updateMany selects change keeps).total quantity = table.total quantity := by
  change ((table.rows.map fun row => if selects row then change row else row).map quantity).sum = _
  rw [List.map_map]
  refine congrArg List.sum (List.map_congr_left fun row member => ?_)
  by_cases selected : selects row = true
  · simp [selected, same row member selected]
  · simp [selected]

private theorem sum_compareAndSet (rows : List Row) (distinct : (rows.map key).Nodup)
    {wanted : Key} (names : Names key selects wanted) {row : Row} (member : row ∈ rows)
    (selected : selects row = true) :
    ((rows.map fun other => if selects other then change other else other).map quantity).sum =
      (rows.map quantity).sum + (quantity (change row) - quantity row) := by
  induction rows with
  | nil => cases member
  | cons head rest inductionHypothesis =>
      rw [List.map_cons, List.nodup_cons] at distinct
      simp only [List.map_cons, List.sum_cons]
      rcases List.mem_cons.mp member with here | later
      · subst here
        have untouched : (rest.map fun other => if selects other then change other else other) =
            rest := by
          conv_rhs => rw [← List.map_id rest]
          refine List.map_congr_left fun other otherMember => ?_
          have unselected : selects other ≠ true := by
            intro otherSelected
            refine distinct.1 ?_
            rw [names _ selected, ← names other otherSelected]
            exact List.mem_map_of_mem otherMember
          rw [if_neg unselected]
          rfl
        rw [untouched, if_pos selected]
        omega
      · have unselected : selects head ≠ true := by
          intro headSelected
          refine distinct.1 ?_
          rw [names head headSelected, ← names row selected]
          exact List.mem_map_of_mem later
        rw [if_neg unselected, inductionHypothesis distinct.2 later]
        omega

/-- A compare-and-set changes the sum by the difference at the named row. -/
theorem total_compareAndSet [DecidableEq Key] {wanted : Key} (names : Names key selects wanted)
    {row : Row} (found : table.find? wanted = some row) (selected : selects row = true) :
    (table.updateMany selects change keeps).total quantity =
      table.total quantity + (quantity (change row) - quantity row) :=
  sum_compareAndSet table.rows table.distinct names (mem_of_find? found) selected

end Total

end Table
end Relational
