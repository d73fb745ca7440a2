import GitMate.Library.Table

namespace Relational

/-!
# Transactions under READ COMMITTED

A transaction writes new versions of rows, which nobody else sees until it
commits.  Under READ COMMITTED each of its statements reads what is committed
when the statement runs, with the transaction's own versions laid over it.
Two open transactions never hold versions of one row: the second writer waits
for the first to end.  An advisory lock is held until its transaction ends.

The first part lays row versions over a table.  The second part is the store:
the committed data and the open transactions, and what one step can do to
them.  It asks little of the data: how written versions are laid over it, how
they are found, and when two transactions may both hold theirs.
-/

namespace Table

variable {Row Key : Type} {key : Row -> Key} [DecidableEq Key]

/-- A table with the written versions of its rows in place of the old ones,
and with the rows that are new. -/
def overlay (table written : Table key) : Table key where
  rows := (table.rows.map fun row => (written.find? (key row)).getD row) ++
    written.rows.filter fun row => (table.find? (key row)).isNone
  distinct := by
    have sameKeys : (table.rows.map fun row => (written.find? (key row)).getD row).map key =
        table.rows.map key := by
      rw [List.map_map]
      refine List.map_congr_left fun row _ => ?_
      cases found : written.find? (key row) with
      | none => simp only [Function.comp_apply, found, Option.getD_none]
      | some version =>
          simp only [Function.comp_apply, found, Option.getD_some]
          exact key_of_find? found
    rw [List.map_append, sameKeys]
    refine List.nodup_append.mpr ⟨table.distinct,
      written.distinct.sublist ((List.filter_sublist).map key), ?_⟩
    intro left leftMember right rightMember same
    rcases List.mem_map.mp leftMember with ⟨row, rowMember, rfl⟩
    rcases List.mem_map.mp rightMember with ⟨version, versionMember, rfl⟩
    have absent := (List.mem_filter.mp versionMember).2
    rw [Option.isNone_iff_eq_none, find?_eq_none_iff] at absent
    exact absent row rowMember same

theorem mem_overlay {table written : Table key} {row : Row} :
    row ∈ table.overlay written ↔
      row ∈ written ∨ row ∈ table ∧ written.find? (key row) = none := by
  change row ∈ (table.rows.map fun row => (written.find? (key row)).getD row) ++
    written.rows.filter (fun row => (table.find? (key row)).isNone) ↔ _
  rw [List.mem_append, List.mem_map, List.mem_filter, Option.isNone_iff_eq_none]
  constructor
  · rintro (⟨old, member, same⟩ | ⟨member, _⟩)
    · cases found : written.find? (key old) with
      | none =>
          rw [found, Option.getD_none] at same
          subst same
          exact Or.inr ⟨member, found⟩
      | some version =>
          rw [found, Option.getD_some] at same
          subst same
          exact Or.inl (mem_of_find? found)
    · exact Or.inl member
  · rintro (member | ⟨member, absent⟩)
    · cases found : table.find? (key row) with
      | none => exact Or.inr ⟨member, rfl⟩
      | some old =>
          have version : written.find? (key old) = some row := by
            rw [key_of_find? found]
            exact find?_eq_some_iff.mpr ⟨member, rfl⟩
          exact Or.inl ⟨old, mem_of_find? found, by rw [version, Option.getD_some]⟩
    · exact Or.inl ⟨row, member, by rw [absent, Option.getD_none]⟩

theorem find?_overlay {table written : Table key} (wanted : Key) :
    (table.overlay written).find? wanted = (written.find? wanted).or (table.find? wanted) := by
  cases version : written.find? wanted with
  | some row =>
      rw [Option.some_or]
      exact find?_eq_some_iff.mpr
        ⟨mem_overlay.mpr (Or.inl (mem_of_find? version)), key_of_find? version⟩
  | none =>
      rw [Option.none_or]
      cases old : table.find? wanted with
      | some row =>
          have same := key_of_find? old
          exact find?_eq_some_iff.mpr
            ⟨mem_overlay.mpr (Or.inr ⟨mem_of_find? old, same.symm ▸ version⟩), same⟩
      | none =>
          refine find?_eq_none_iff.mpr fun row member => ?_
          rcases mem_overlay.mp member with written | ⟨here, _⟩
          · exact find?_eq_none_iff.mp version row written
          · exact find?_eq_none_iff.mp old row here

/-- The second table has the keys of the first, in their order, and maybe new
ones after them. -/
def Extends (before after : Table key) : Prop :=
  Exists fun new => after.rows.map key = before.rows.map key ++ new

omit [DecidableEq Key] in
theorem Extends.refl (table : Table key) : table.Extends table := ⟨[], (List.append_nil _).symm⟩

omit [DecidableEq Key] in
theorem Extends.updateMany {table : Table key} {selects : Row -> Bool} {change : Row -> Row}
    (keeps : forall row, key (change row) = key row) :
    table.Extends (table.updateMany selects change keeps) := by
  refine ⟨[], ?_⟩
  rw [List.append_nil]
  change (table.rows.map fun row => if selects row then change row else row).map key = _
  rw [List.map_map]
  refine List.map_congr_left fun row _ => ?_
  rw [Function.comp_apply, apply_ite key, keeps, ite_self]

omit [DecidableEq Key] in
theorem Extends.insert {table : Table key} {row : Row} (fresh : key row ∉ table.rows.map key) :
    table.Extends (table.insert row fresh) :=
  ⟨[key row], List.map_append⟩

theorem Extends.upsert {table : Table key} {row : Row} {change : Row -> Row}
    {keeps : forall old, key (change old) = key old} :
    table.Extends (table.upsert row change keeps) := by
  unfold Table.upsert
  split
  · exact .insert _
  · exact .updateMany keeps

theorem Extends.find?_none {before after : Table key} (longer : before.Extends after) {wanted : Key}
    (absent : after.find? wanted = none) : before.find? wanted = none := by
  rcases longer with ⟨new, keys⟩
  refine find?_eq_none_iff.mpr fun row member same => ?_
  have kept : wanted ∈ after.rows.map key := by
    rw [keys, ← same]
    exact List.mem_append_left _ (List.mem_map_of_mem member)
  rcases List.mem_map.mp kept with ⟨version, there, named⟩
  exact find?_eq_none_iff.mp absent version there named

theorem map_key_overlay (table written : Table key) : (table.overlay written).rows.map key =
    table.rows.map key ++
      (written.rows.filter fun row => (table.find? (key row)).isNone).map key := by
  change ((table.rows.map fun row => (written.find? (key row)).getD row) ++ _).map key = _
  rw [List.map_append, List.map_map]
  refine congrArg (· ++ _) (List.map_congr_left fun row _ => ?_)
  rw [Function.comp_apply]
  cases found : written.find? (key row) with
  | none => rfl
  | some version => exact key_of_find? found

/-- Two tables with the same keys in the same order and the same row under
each key are the same. -/
theorem ext_find? {left right : Table key} (keys : left.rows.map key = right.rows.map key)
    (same : forall wanted, left.find? wanted = right.find? wanted) : left = right := by
  refine Table.ext (List.ext_getElem? fun index => ?_)
  have named : (left.rows[index]?).map key = (right.rows[index]?).map key := by
    rw [← List.getElem?_map, ← List.getElem?_map, keys]
  cases first : left.rows[index]? with
  | none =>
      rw [first, Option.map_none] at named
      exact (Option.map_eq_none_iff.mp named.symm).symm
  | some row =>
      rw [first, Option.map_some] at named
      rcases Option.map_eq_some_iff.mp named.symm with ⟨other, second, sameKey⟩
      have one : left.find? (key row) = some row :=
        find?_eq_some_iff.mpr ⟨List.mem_of_getElem? first, rfl⟩
      have two : right.find? (key row) = some other :=
        find?_eq_some_iff.mpr ⟨List.mem_of_getElem? second, sameKey⟩
      rw [second]
      exact one.symm.trans ((same (key row)).trans two)

/-- When new versions of old rows pass a test as the old ones did, an overlay
adds the new rows to a count. -/
theorem countWhere_overlay {table written : Table key} {selects : Row -> Bool}
    (kept : forall row, row ∈ written -> forall old, table.find? (key row) = some old ->
      selects row = selects old) :
    (table.overlay written).countWhere selects = table.countWhere selects +
      written.countWhere (fun row => selects row && (table.find? (key row)).isNone) := by
  have same : forall row, row ∈ table.rows ->
      ((selects ∘ fun row => (written.find? (key row)).getD row) row = true ↔
        selects row = true) := by
    intro row member
    rw [Function.comp_apply]
    cases found : written.find? (key row) with
    | none => rw [Option.getD_none]
    | some version =>
        have old : table.find? (key version) = some row := by
          rw [key_of_find? found]
          exact find?_eq_some_iff.mpr ⟨member, rfl⟩
        rw [Option.getD_some, kept version (mem_of_find? found) row old]
  change ((table.rows.map fun row => (written.find? (key row)).getD row) ++
    written.rows.filter (fun row => (table.find? (key row)).isNone)).countP selects = _
  rw [List.countP_append, List.countP_map, List.countP_congr same, List.countP_filter]
  rfl

/-- The rows that differ from their old versions. -/
def changes [DecidableEq Row] (before after : Table key) : Table key where
  rows := after.rows.filter fun row => decide (before.find? (key row) ≠ some row)
  distinct := after.distinct.sublist ((List.filter_sublist).map key)

section Changes

variable [DecidableEq Row] {before after : Table key}

theorem mem_changes {row : Row} :
    row ∈ before.changes after ↔ row ∈ after ∧ before.find? (key row) ≠ some row := by
  rw [← decide_eq_true_iff (p := before.find? (key row) ≠ some row)]
  exact List.mem_filter

theorem find?_changes (wanted : Key) : (before.changes after).find? wanted =
    if before.find? wanted = after.find? wanted then none else after.find? wanted := by
  cases found : after.find? wanted with
  | none =>
      rw [ite_self]
      refine find?_eq_none_iff.mpr fun row member => ?_
      exact find?_eq_none_iff.mp found row (mem_changes.mp member).1
  | some row =>
      have same := key_of_find? found
      split
      · rename_i unchanged
        refine find?_eq_none_iff.mpr fun other member different => ?_
        rcases mem_changes.mp member with ⟨here, changed⟩
        have only := eq_of_key_eq here (mem_of_find? found) (different.trans same.symm)
        subst only
        exact changed (same.symm ▸ unchanged)
      · rename_i changed
        exact find?_eq_some_iff.mpr
          ⟨mem_changes.mpr ⟨mem_of_find? found, same.symm ▸ changed⟩, same⟩

/-- Laying the changes over the old table gives the new one, unless rows were
deleted. -/
theorem find?_overlay_changes {table written : Table key}
    (kept : forall wanted, after.find? wanted = none ->
      (table.overlay written).find? wanted = none) (wanted : Key) :
    (table.overlay (written.overlay ((table.overlay written).changes after))).find? wanted =
      after.find? wanted := by
  rw [find?_overlay, find?_overlay, find?_changes]
  split
  · rename_i same
    rw [Option.none_or, ← find?_overlay]
    exact same
  · rename_i different
    cases found : after.find? wanted with
    | some row => rw [Option.some_or, Option.some_or]
    | none => exact absurd ((kept wanted found).trans found.symm) different

/-- What a transaction has written once a statement has led it to `after`. -/
theorem find?_rewritten {table written : Table key}
    (kept : forall wanted, after.find? wanted = none ->
      (table.overlay written).find? wanted = none) (wanted : Key) :
    (written.overlay ((table.overlay written).changes after)).find? wanted =
      if (table.overlay written).find? wanted = after.find? wanted then written.find? wanted
      else after.find? wanted := by
  rw [find?_overlay, find?_changes]
  split
  · rw [Option.none_or]
  · rename_i different
    cases found : after.find? wanted with
    | some row => rw [Option.some_or]
    | none => exact absurd ((kept wanted found).trans found.symm) different

/-- What a transaction has written leads to the state its statements have led
it to. -/
theorem overlay_changes {table written : Table key}
    (longer : (table.overlay written).Extends after) :
    table.overlay (written.overlay ((table.overlay written).changes after)) = after := by
  refine ext_find? ?_ fun wanted => find?_overlay_changes (fun _ => longer.find?_none) wanted
  rcases longer with ⟨new, keys⟩
  rcases List.map_eq_append_iff.mp keys with ⟨front, back, rows, frontKeys, backKeys⟩
  have filtered : forall (rows : List Row) (other : Table key),
      (rows.filter fun row => (other.find? (key row)).isNone).map key =
        (rows.map key).filter fun wanted => (other.find? wanted).isNone := by
    intro rows other
    rw [List.filter_map]
    rfl
  -- A key that the view has is one of the table or of the written versions.
  have known : forall wanted, wanted ∈ (table.overlay written).rows.map key ↔
      ¬((table.find? wanted).isNone && (written.find? wanted).isNone) = true := by
    intro wanted
    have seen : (table.overlay written).find? wanted = _ := find?_overlay wanted
    rw [Bool.and_eq_true, Option.isNone_iff_eq_none, Option.isNone_iff_eq_none, and_comm,
      ← Option.or_eq_none_iff, ← seen, find?_eq_none_iff]
    simp only [List.mem_map, not_forall, not_not]
    exact ⟨fun ⟨row, member, same⟩ => ⟨row, member, same⟩,
      fun ⟨row, member, same⟩ => ⟨row, member, same⟩⟩
  have old : ((front.filter fun row => decide ((table.overlay written).find? (key row) ≠
      some row)).map key).filter (fun wanted =>
        (table.find? wanted).isNone && (written.find? wanted).isNone) = [] := by
    refine List.filter_eq_nil_iff.mpr fun wanted member => (known wanted).mp ?_
    rw [← frontKeys]
    rcases List.mem_map.mp member with ⟨row, there, rfl⟩
    exact List.mem_map_of_mem (List.mem_of_mem_filter there)
  have absent : forall row, row ∈ back -> key row ∉ (table.overlay written).rows.map key := by
    intro row member there
    have distinct := after.distinct
    rw [keys] at distinct
    refine (List.nodup_append.mp distinct).2.2 _ there _ ?_ rfl
    rw [← backKeys]
    exact List.mem_map_of_mem member
  have fresh : ((back.filter fun row => decide ((table.overlay written).find? (key row) ≠
      some row)).map key).filter (fun wanted =>
        (table.find? wanted).isNone && (written.find? wanted).isNone) = new := by
    have all : (back.filter fun row => decide ((table.overlay written).find? (key row) ≠
        some row)) = back := by
      refine List.filter_eq_self.mpr fun row member => decide_eq_true fun found => ?_
      exact absent row member (List.mem_map_of_mem (mem_of_find? found))
    rw [all, backKeys]
    refine List.filter_eq_self.mpr fun wanted member => ?_
    rw [← backKeys] at member
    rcases List.mem_map.mp member with ⟨row, there, rfl⟩
    exact not_not.mp (mt (known _).mpr (absent row there))
  rw [map_key_overlay, filtered, map_key_overlay, filtered, List.filter_append, List.filter_filter]
  change _ ++ (_ ++ ((after.rows.filter fun row =>
    decide ((table.overlay written).find? (key row) ≠ some row)).map key).filter _) = _
  rw [keys, rows, List.filter_append, List.map_append, List.filter_append, old, fresh,
    map_key_overlay, filtered, List.nil_append, List.append_assoc]

end Changes

/-- No row has a version in both tables. -/
def separate (left right : Table key) : Bool :=
  left.rows.all fun row => (right.find? (key row)).isNone

theorem separate_iff {left right : Table key} :
    left.separate right = true ↔
      forall wanted, left.find? wanted = none ∨ right.find? wanted = none := by
  simp only [separate, List.all_eq_true, Option.isNone_iff_eq_none]
  constructor
  · intro all wanted
    cases found : left.find? wanted with
    | none => exact Or.inl rfl
    | some row => exact Or.inr (key_of_find? found ▸ all row (mem_of_find? found))
  · intro all row member
    refine (all (key row)).resolve_left fun absent => ?_
    exact find?_eq_none_iff.mp absent row member rfl

theorem separate_comm (left right : Table key) : left.separate right = right.separate left := by
  rw [Bool.eq_iff_iff, separate_iff, separate_iff]
  exact forall_congr' fun wanted => or_comm

end Table

/-! ## Versioned data -/

/-- How a transaction's versions of rows relate to the data they belong to. -/
structure Versioning (Data : Type) where
  nothing : Data
  overlay : Data -> Data -> Data
  /-- The versions that lead from one state of the data to another. -/
  changes : Data -> Data -> Data
  /-- Two transactions may hold these versions at the same time. -/
  separate : Data -> Data -> Bool
  separate_comm : forall left right, separate left right = separate right left
  separate_nothing : forall versions, separate nothing versions = true

structure OpenTransaction (Data Lock Time : Type) where
  /-- `CURRENT_TIMESTAMP`. -/
  begun : Time
  locks : List Lock
  written : Data

/-- The committed data and the transactions begun so far; a transaction that
has ended leaves an empty place. -/
structure Store (Data Lock Time : Type) where
  committed : Data
  transactions : List (Option (OpenTransaction Data Lock Time))

namespace Store

variable {Data Lock Time : Type} {V : Versioning Data}

def find? (store : Store Data Lock Time) (id : Nat) : Option (OpenTransaction Data Lock Time) :=
  store.transactions[id]?.join

/-- Some other open transaction passes a test. -/
def anyOther (store : Store Data Lock Time) (id : Nat)
    (test : OpenTransaction Data Lock Time -> Bool) : Bool :=
  (List.range store.transactions.length).any fun other =>
    other != id && (store.find? other).any test

def put (store : Store Data Lock Time) (id : Nat)
    (transaction : Option (OpenTransaction Data Lock Time)) : Store Data Lock Time :=
  { store with transactions := store.transactions.set id transaction }

def begin (V : Versioning Data) (store : Store Data Lock Time) (time : Time) :
    Store Data Lock Time :=
  { store with transactions := store.transactions ++ [some ⟨time, [], V.nothing⟩] }

/-- What the statements of a transaction read. -/
def view (V : Versioning Data) (store : Store Data Lock Time)
    (transaction : OpenTransaction Data Lock Time) : Data :=
  V.overlay store.committed transaction.written

/-- Take a lock, unless another transaction holds it. -/
def acquire [DecidableEq Lock] (store : Store Data Lock Time) (id : Nat) (lock : Lock) :
    Option (Store Data Lock Time) :=
  (store.find? id).bind fun transaction =>
    if store.anyOther id fun other => other.locks.contains lock then none
    else some (store.put id (some { transaction with locks := lock :: transaction.locks }))

/-- The versions of a transaction after a statement that leads to `after`. -/
def rewritten (V : Versioning Data) (store : Store Data Lock Time)
    (transaction : OpenTransaction Data Lock Time) (after : Data) : Data :=
  V.overlay transaction.written (V.changes (store.view V transaction) after)

/-- Keep the result of a statement, unless another transaction holds versions
that stand in its way. -/
def write (V : Versioning Data) (store : Store Data Lock Time) (id : Nat) (after : Data) :
    Option (Store Data Lock Time) :=
  (store.find? id).bind fun transaction =>
    if store.anyOther id fun other =>
        !V.separate (store.rewritten V transaction after) other.written then none
    else some (store.put id
      (some { transaction with written := store.rewritten V transaction after }))

def commit (V : Versioning Data) (store : Store Data Lock Time) (id : Nat) :
    Option (Store Data Lock Time) :=
  (store.find? id).map fun transaction =>
    { (store.put id none) with committed := store.view V transaction }

/-- End a transaction and forget what it wrote. -/
def rollback (store : Store Data Lock Time) (id : Nat) : Store Data Lock Time :=
  store.put id none

variable {store : Store Data Lock Time} {id other : Nat}
  {transaction : OpenTransaction Data Lock Time}

theorem lt_of_find? (found : store.find? id = some transaction) :
    id < store.transactions.length := by
  refine Nat.lt_of_not_le fun beyond => ?_
  rw [find?, List.getElem?_eq_none beyond] at found
  cases found

theorem find?_put (inside : id < store.transactions.length)
    (next : Option (OpenTransaction Data Lock Time)) : (store.put id next).find? id = next := by
  rw [find?, put, List.getElem?_set_self inside]
  rfl

theorem find?_put_ne (different : other ≠ id)
    (next : Option (OpenTransaction Data Lock Time)) :
    (store.put id next).find? other = store.find? other := by
  rw [find?, put, List.getElem?_set_ne (Ne.symm different)]
  rfl

/-- Ending a transaction opens none. -/
theorem find?_rollback (found : (store.rollback id).find? other = some transaction) :
    other ≠ id ∧ store.find? other = some transaction := by
  by_cases same : other = id
  · subst same
    have inside := lt_of_find? found
    rw [rollback, put, List.length_set] at inside
    rw [rollback, find?_put inside] at found
    cases found
  · exact ⟨same, (find?_put_ne same none).symm.trans found⟩

theorem find?_begin (time : Time) (wanted : Nat) : (store.begin V time).find? wanted =
    if wanted = store.transactions.length then some ⟨time, [], V.nothing⟩
    else store.find? wanted := by
  unfold find? begin
  split
  · rename_i last
    rw [last, List.getElem?_concat_length]
    rfl
  · rename_i different
    rcases Nat.lt_or_ge wanted store.transactions.length with inside | beyond
    · rw [List.getElem?_append_left inside]
    · rw [List.getElem?_eq_none beyond, List.getElem?_eq_none]
      rw [List.length_append, List.length_singleton]
      omega

theorem anyOther_eq_false_iff {test : OpenTransaction Data Lock Time -> Bool} :
    store.anyOther id test = false ↔
      forall other transaction, other ≠ id -> store.find? other = some transaction ->
        test transaction = false := by
  simp only [anyOther, List.any_eq_false, List.mem_range, Bool.and_eq_true, bne_iff_ne, ne_eq,
    not_and, Bool.not_eq_true]
  constructor
  · intro none other transaction different found
    have refused := none other (lt_of_find? found) different
    rw [found] at refused
    exact refused
  · intro none other inside different
    cases found : store.find? other with
    | none => rfl
    | some transaction => exact none other transaction different found

/-! ## What open transactions never share -/

/-- No lock is held twice, and no two open transactions hold versions that
stand in each other's way. -/
structure Consistent (V : Versioning Data) (store : Store Data Lock Time) : Prop where
  exclusive : forall left right one two lock, store.find? left = some one ->
    store.find? right = some two -> lock ∈ one.locks -> lock ∈ two.locks -> left = right
  separate : forall left right one two, left ≠ right -> store.find? left = some one ->
    store.find? right = some two -> V.separate one.written two.written = true

/-- Replacing one transaction keeps a store consistent when the replacement
shares nothing with the others. -/
theorem Consistent.put (consistent : store.Consistent V) (found : store.find? id = some transaction)
    {next : OpenTransaction Data Lock Time}
    (alone : forall other rival, other ≠ id -> store.find? other = some rival ->
      (forall lock, lock ∈ next.locks -> lock ∉ rival.locks) ∧
        V.separate next.written rival.written = true) :
    (store.put id (some next)).Consistent V := by
  have inside := lt_of_find? found
  have here : (store.put id (some next)).find? id = some next := find?_put inside _
  constructor
  · intro left right one two lock leftFound rightFound leftHolds rightHolds
    by_cases leftHere : left = id
    · subst leftHere
      by_cases rightHere : right = left
      · exact rightHere.symm
      · cases here.symm.trans leftFound
        rw [find?_put_ne rightHere] at rightFound
        exact absurd rightHolds ((alone right two rightHere rightFound).1 lock leftHolds)
    · rw [find?_put_ne leftHere] at leftFound
      by_cases rightHere : right = id
      · subst rightHere
        cases here.symm.trans rightFound
        exact absurd leftHolds ((alone left one leftHere leftFound).1 lock rightHolds)
      · rw [find?_put_ne rightHere] at rightFound
        exact consistent.exclusive left right one two lock leftFound rightFound leftHolds rightHolds
  · intro left right one two different leftFound rightFound
    by_cases leftHere : left = id
    · subst leftHere
      cases here.symm.trans leftFound
      rw [find?_put_ne (Ne.symm different)] at rightFound
      exact (alone right two (Ne.symm different) rightFound).2
    · rw [find?_put_ne leftHere] at leftFound
      by_cases rightHere : right = id
      · subst rightHere
        cases here.symm.trans rightFound
        rw [V.separate_comm]
        exact (alone left one leftHere leftFound).2
      · rw [find?_put_ne rightHere] at rightFound
        exact consistent.separate left right one two different leftFound rightFound

theorem Consistent.rollback (consistent : store.Consistent V) :
    (store.rollback id).Consistent V where
  exclusive left right one two lock leftFound rightFound :=
    consistent.exclusive left right one two lock (find?_rollback leftFound).2
      (find?_rollback rightFound).2
  separate left right one two different leftFound rightFound :=
    consistent.separate left right one two different (find?_rollback leftFound).2
      (find?_rollback rightFound).2

theorem Consistent.begin (consistent : store.Consistent V) (time : Time) :
    (store.begin V time).Consistent V := by
  constructor
  · intro left right one two lock leftFound rightFound leftHolds rightHolds
    rw [find?_begin] at leftFound rightFound
    by_cases leftNew : left = store.transactions.length
    · rw [if_pos leftNew] at leftFound
      cases leftFound
      cases leftHolds
    · rw [if_neg leftNew] at leftFound
      by_cases rightNew : right = store.transactions.length
      · rw [if_pos rightNew] at rightFound
        cases rightFound
        cases rightHolds
      · rw [if_neg rightNew] at rightFound
        exact consistent.exclusive left right one two lock leftFound rightFound leftHolds rightHolds
  · intro left right one two different leftFound rightFound
    rw [find?_begin] at leftFound rightFound
    by_cases leftNew : left = store.transactions.length
    · rw [if_pos leftNew] at leftFound
      cases leftFound
      exact V.separate_nothing two.written
    · rw [if_neg leftNew] at leftFound
      by_cases rightNew : right = store.transactions.length
      · rw [if_pos rightNew] at rightFound
        cases rightFound
        rw [V.separate_comm]
        exact V.separate_nothing one.written
      · rw [if_neg rightNew] at rightFound
        exact consistent.separate left right one two different leftFound rightFound

theorem Consistent.recommitted (consistent : store.Consistent V) (committed : Data) :
    ({ store with committed := committed } : Store Data Lock Time).Consistent V :=
  ⟨consistent.exclusive, consistent.separate⟩

/-- What a lock that was granted tells. -/
theorem acquire_some [DecidableEq Lock] {lock : Lock} {after : Store Data Lock Time}
    (granted : store.acquire id lock = some after) :
    Exists fun transaction => store.find? id = some transaction ∧
      (forall other rival, other ≠ id -> store.find? other = some rival -> lock ∉ rival.locks) ∧
      after = store.put id (some { transaction with locks := lock :: transaction.locks }) := by
  unfold acquire at granted
  cases found : store.find? id with
  | none =>
      rw [found] at granted
      cases granted
  | some transaction =>
      rw [found, Option.bind_some] at granted
      split at granted
      · cases granted
      · rename_i free
        rw [Bool.not_eq_true, anyOther_eq_false_iff] at free
        refine ⟨transaction, rfl, fun other rival different there holds => ?_,
          (Option.some.inj granted).symm⟩
        have released := free other rival different there
        rw [List.contains_iff_mem.mpr holds] at released
        cases released

/-- What a statement that went through tells. -/
theorem write_some {after : Data} {later : Store Data Lock Time}
    (found : store.find? id = some transaction) (wrote : store.write V id after = some later) :
    (forall other rival, other ≠ id -> store.find? other = some rival ->
      V.separate (store.rewritten V transaction after) rival.written = true) ∧
    later = store.put id
      (some { transaction with written := store.rewritten V transaction after }) := by
  unfold write at wrote
  rw [found, Option.bind_some] at wrote
  split at wrote
  · cases wrote
  · rename_i free
    rw [Bool.not_eq_true, anyOther_eq_false_iff] at free
    refine ⟨fun other rival different there => ?_, (Option.some.inj wrote).symm⟩
    have clear := free other rival different there
    rwa [Bool.not_eq_false'] at clear

end Store
end Relational
