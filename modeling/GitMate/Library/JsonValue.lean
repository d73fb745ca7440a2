import GitMate.Library.Number
import Mathlib.Data.List.Nodup

namespace JavaScript

/-!
# JSON values in memory

`JSON.parse` builds a value from a text: numbers become doubles, and an object
keeps one property for every key, first those whose keys are array indices, in
numeric order, and then the others in the order of their first appearance.
`JSON.stringify` renders such a value.

A property of an object is found under its key, an element of an array or a
code unit of a string under its index.  Changing what is found under a key
leaves everything else as it is, and changes under different keys commute.
-/

inductive JsonValue where
  | null
  | boolean (value : Bool)
  | number (value : Number)
  | string (value : Text)
  | array (elements : List JsonValue)
  | object (members : List (Text × JsonValue))

/-! ## Properties in order -/

/-- The index that a key denotes as it is written. -/
def arrayIndex (key : Text) : Option Nat :=
  if key ≠ [] ∧ key.all isDigit = true ∧ (key.head? = some 0x30 -> key.length = 1) ∧
      digitsValue key < 2 ^ 32 - 1 then some (digitsValue key)
  else none

/-- The key of an index. -/
def indexKey (index : Nat) : Text := text (toString index)

section Properties

variable {α : Type}

/-- Define a property: a new one comes last, an old one keeps its place. -/
def defineProperty (members : List (Text × α)) (member : Text × α) : List (Text × α) :=
  if member.1 ∈ members.map Prod.fst then
    members.map fun other => if other.1 = member.1 then member else other
  else members ++ [member]

/-- The properties of an object whose members are defined one after another. -/
def ownProperties (members : List (Text × α)) : List (Text × α) :=
  let defined := members.foldl defineProperty []
  (defined.filter fun member => (arrayIndex member.1).isSome).mergeSort
      (fun first second => decide ((arrayIndex first.1).getD 0 ≤ (arrayIndex second.1).getD 0)) ++
    defined.filter fun member => (arrayIndex member.1).isNone

theorem map_fst_defineProperty (members : List (Text × α)) (member : Text × α) :
    (defineProperty members member).map Prod.fst =
      if member.1 ∈ members.map Prod.fst then members.map Prod.fst
      else members.map Prod.fst ++ [member.1] := by
  unfold defineProperty
  split
  · rw [List.map_map]
    refine List.map_congr_left fun other _ => ?_
    change (if other.1 = member.1 then member else other).1 = other.1
    split
    · rename_i same
      exact same.symm
    · rfl
  · rw [List.map_append]
    rfl

theorem nodup_defineProperty {members : List (Text × α)} (member : Text × α)
    (nodup : (members.map Prod.fst).Nodup) :
    ((defineProperty members member).map Prod.fst).Nodup := by
  rw [map_fst_defineProperty]
  split
  · exact nodup
  · rename_i absent
    exact List.nodup_append.2 ⟨nodup, List.nodup_singleton _, fun key among other single =>
      List.mem_singleton.1 single ▸ fun same => absent (same ▸ among)⟩

/-- No key appears twice. -/
theorem nodup_ownProperties (members : List (Text × α)) :
    ((ownProperties members).map Prod.fst).Nodup := by
  have grow : forall (defined rest : List (Text × α)), (defined.map Prod.fst).Nodup ->
      ((rest.foldl defineProperty defined).map Prod.fst).Nodup := by
    intro defined rest nodup
    induction rest generalizing defined with
    | nil => exact nodup
    | cons member rest inductionHypothesis =>
        exact inductionHypothesis _ (nodup_defineProperty member nodup)
  have defined := grow [] members List.nodup_nil
  unfold ownProperties
  simp only
  have sorted := ((List.mergeSort_perm ((members.foldl defineProperty []).filter fun member =>
    (arrayIndex member.1).isSome) (fun first second =>
      decide ((arrayIndex first.1).getD 0 ≤ (arrayIndex second.1).getD 0))).append_right
        ((members.foldl defineProperty []).filter fun member => (arrayIndex member.1).isNone))
  have apart := List.filter_append_perm (fun member : Text × α => (arrayIndex member.1).isSome)
    (members.foldl defineProperty [])
  simp only [Option.not_isSome] at apart
  exact ((sorted.trans apart).map Prod.fst).nodup_iff.2 defined

end Properties

/-! ## Reading and rendering -/

mutual

/-- The value that `JSON.parse` builds. -/
def Json.load : Json -> JsonValue
  | .null => .null
  | .boolean value => .boolean value
  | .number value => .number (Number.nearest value.value)
  | .string value => .string value
  | .array elements => .array (loadElements elements)
  | .object members => .object (ownProperties (loadMembers members))

def loadElements : List Json -> List JsonValue
  | [] => []
  | element :: rest => element.load :: loadElements rest

def loadMembers : List (Text × Json) -> List (Text × JsonValue)
  | [] => []
  | (key, value) :: rest => (key, value.load) :: loadMembers rest

end

namespace JsonValue

/-- `JSON.parse(input)`; a `SyntaxError` is `none`. -/
def parse (input : Text) : Option JsonValue := (Json.parse input).map Json.load

def commaSeparated : List Text -> Text
  | [] => []
  | [last] => last
  | first :: rest => first ++ COMMA :: commaSeparated rest

mutual

/-- `JSON.stringify(value)`. -/
def stringify : JsonValue -> Text
  | .null => text "null"
  | .boolean value => text (if value then "true" else "false")
  | .number (.finite value) => (Number.finite value).toText
  | .number _ => text "null"
  | .string value => quote value
  | .array elements =>
      LEFT_SQUARE_BRACKET :: commaSeparated (renderElements elements) ++ [RIGHT_SQUARE_BRACKET]
  | .object members => stringifyObject (renderMembers members)

def renderElements : List JsonValue -> List Text
  | [] => []
  | element :: rest => element.stringify :: renderElements rest

def renderMembers : List (Text × JsonValue) -> List (Text × Text)
  | [] => []
  | (key, value) :: rest => (key, value.stringify) :: renderMembers rest

end

/-! ## Access -/

/-- `Object.entries(value)`. -/
def entries : JsonValue -> List (Text × JsonValue)
  | .object members => members
  | .array elements => elements.mapIdx fun index element => (indexKey index, element)
  | .string value => value.mapIdx fun index code => (indexKey index, .string [code])
  | _ => []

/-- `Object.keys(value)`. -/
def keys (value : JsonValue) : List Text := value.entries.map Prod.fst

/-- `value.length` of an array or a string. -/
def length : JsonValue -> Option Nat
  | .array elements => some elements.length
  | .string value => some value.length
  | _ => none

/-- `value[key]`; `undefined` is `none`. -/
def get (key : Text) (value : JsonValue) : Option JsonValue :=
  match value.entries.find? fun entry => entry.1 == key with
  | some entry => some entry.2
  | none =>
      if key = text "length" then value.length.map fun (length : Nat) => .number (.finite length)
      else none

/-- Whether the value counts as true. -/
def isTruthy : JsonValue -> Bool
  | .null => false
  | .boolean value => value
  | .number (.finite value) => value != 0
  | .number .nan => false
  | .number (.infinite _) => true
  | .string value => value != []
  | .array _ | .object _ => true

/-- Change what is found under a key, if anything is. -/
def modify (key : Text) (change : JsonValue -> JsonValue) : JsonValue -> JsonValue
  | .object members =>
      .object (members.map fun member =>
        (member.1, if member.1 = key then change member.2 else member.2))
  | .array elements =>
      .array (elements.mapIdx fun index element =>
        if indexKey index = key then change element else element)
  | value => value

/-- Change the node at the end of a path, if there is one. -/
def modifyPath (path : List Text) (change : JsonValue -> JsonValue) : JsonValue -> JsonValue :=
  match path with
  | [] => change
  | key :: rest => modify key (modifyPath rest change)

def getPath (path : List Text) (value : JsonValue) : Option JsonValue :=
  match path with
  | [] => some value
  | key :: rest => (value.get key).bind (getPath rest)

theorem modify_modify (key : Text) (first second : JsonValue -> JsonValue) (value : JsonValue) :
    (value.modify key first).modify key second =
      value.modify key fun nested => second (first nested) := by
  cases value with
  | object members =>
      simp only [modify, List.map_map]
      congr 1
      refine List.map_congr_left fun member _ => ?_
      simp only [Function.comp, Prod.mk.injEq, true_and]
      split <;> rfl
  | array elements =>
      simp only [modify, List.mapIdx_mapIdx]
      congr 1
      refine congrArg (fun change => elements.mapIdx change) (funext₂ fun index element => ?_)
      simp only [Function.comp]
      split <;> rfl
  | null | boolean | number | string => rfl

theorem modify_comm {key other : Text} (different : key ≠ other)
    (first second : JsonValue -> JsonValue) (value : JsonValue) :
    (value.modify key first).modify other second =
      (value.modify other second).modify key first := by
  have apart : forall (found : Text) (nested : JsonValue),
      (if found = other then second (if found = key then first nested else nested)
        else if found = key then first nested else nested) =
      if found = key then first (if found = other then second nested else nested)
        else if found = other then second nested else nested := by
    intro found nested
    by_cases here : found = key
    · rw [if_pos here, if_neg (here ▸ different), if_pos here, if_neg (here ▸ different)]
    · rw [if_neg here, if_neg here]
  cases value with
  | object members =>
      simp only [modify, List.map_map]
      congr 1
      refine List.map_congr_left fun member _ => ?_
      simp only [Function.comp, Prod.mk.injEq, true_and]
      exact apart member.1 member.2
  | array elements =>
      simp only [modify, List.mapIdx_mapIdx]
      congr 1
      exact congrArg (fun change => elements.mapIdx change)
        (funext₂ fun index element => apart (indexKey index) element)
  | null | boolean | number | string => rfl

theorem modify_congr {first second : JsonValue -> JsonValue}
    (same : forall value, first value = second value) (key : Text) (value : JsonValue) : value.modify key first = value.modify key second :=
  congrArg (fun change => modify key change value) (funext same)

/-- Changing everything found into one value makes an earlier change there
invisible. -/
theorem modifyPath_const (path : List Text) (change : JsonValue -> JsonValue)
    (final value : JsonValue) :
    modifyPath path (fun _ => final) (modifyPath path change value) =
      modifyPath path (fun _ => final) value := by
  induction path generalizing value with
  | nil => rfl
  | cons key rest inductionHypothesis =>
      simp only [modifyPath]
      rw [modify_modify]
      exact modify_congr inductionHypothesis key value


/-! ## What a change does to the properties -/

/-- The value is not a string, whose code units cannot be changed. -/
def IsMutable (value : JsonValue) : Prop := forall characters, value ≠ .string characters

theorem isMutable_object (members : List (Text × JsonValue)) : IsMutable (.object members) :=
  fun _ => nofun

theorem entries_modify {value : JsonValue} (isMutable : value.IsMutable) (key : Text)
    (change : JsonValue -> JsonValue) :
    (value.modify key change).entries =
      value.entries.map fun entry =>
        (entry.1, if entry.1 = key then change entry.2 else entry.2) := by
  cases value with
  | object members => rfl
  | array elements =>
      refine List.ext_getElem? fun index => ?_
      simp only [entries, modify, List.getElem?_map, List.getElem?_mapIdx, Option.map_map]
      rfl
  | string characters => exact absurd rfl (isMutable characters)
  | null | boolean | number => rfl

theorem isMutable_modify {value : JsonValue} (isMutable : value.IsMutable) (key : Text)
    (change : JsonValue -> JsonValue) : (value.modify key change).IsMutable := by
  cases value with
  | string characters => exact absurd rfl (isMutable characters)
  | null | boolean | number | array | object => exact nofun

theorem length_modify (key : Text) (change : JsonValue -> JsonValue) (value : JsonValue) :
    (value.modify key change).length = value.length := by
  cases value with
  | array elements => exact congrArg some List.length_mapIdx
  | null | boolean | number | string | object => rfl

/-- The first entry under a key, in changed entries. -/
theorem find_map_entries {α : Type} (entries : List (Text × α)) (change : Text -> α -> α)
    (key : Text) :
    ((entries.map fun entry => (entry.1, change entry.1 entry.2)).find? fun entry =>
        entry.1 == key) =
      (entries.find? fun entry => entry.1 == key).map fun entry =>
        (entry.1, change entry.1 entry.2) := by
  induction entries with
  | nil => rfl
  | cons entry rest inductionHypothesis =>
      simp only [List.map_cons, List.find?_cons]
      split
      · rfl
      · exact inductionHypothesis

theorem get_modify_other {key other : Text} (different : key ≠ other)
    (change : JsonValue -> JsonValue) (value : JsonValue) :
    (value.modify other change).get key = value.get key := by
  by_cases isMutable : value.IsMutable
  · unfold get
    rw [entries_modify isMutable, length_modify,
      find_map_entries value.entries (fun found nested =>
        if found = other then change nested else nested)]
    cases found : value.entries.find? fun entry => entry.1 == key with
    | none => rfl
    | some entry =>
        have here : entry.1 = key := by simpa using List.find?_some found
        simp only [Option.map_some]
        rw [if_neg (here ▸ different)]
  · unfold IsMutable at isMutable
    push Not at isMutable
    rcases isMutable with ⟨characters, rfl⟩
    rfl

/-- An entry is found under its key when no key appears twice. -/
theorem find_of_mem {α : Type} {entries : List (Text × α)} {key : Text} {value : α}
    (nodup : (entries.map Prod.fst).Nodup) (member : (key, value) ∈ entries) :
    (entries.find? fun entry => entry.1 == key) = some (key, value) := by
  induction entries with
  | nil => cases member
  | cons entry rest inductionHypothesis =>
      rw [List.map_cons, List.nodup_cons] at nodup
      rcases List.mem_cons.1 member with rfl | later
      · exact List.find?_cons_of_pos (beq_self_eq_true key)
      · rw [List.find?_cons_of_neg]
        · exact inductionHypothesis nodup.2 later
        · intro same
          exact nodup.1 (List.mem_map.2 ⟨_, later, (beq_iff_eq.1 same).symm⟩)

/-! ## Named properties -/

/-- A key that is neither an index nor the length of an array. -/
def IsName (key : Text) : Prop := key ≠ text "length" ∧ (key.head?).any isDigit = false

instance (key : Text) : Decidable (IsName key) := inferInstanceAs (Decidable (_ ∧ _))

theorem head_indexKey (index : Nat) : ((indexKey index).head?).any isDigit = true := by
  have digits : (toString index).toList = Nat.toDigits 10 index := by
    rw [Nat.toString_eq_ofList_toDigits, String.toList_ofList]
  unfold indexKey text
  rw [digits]
  cases shown : Nat.toDigits 10 index with
  | nil => exact absurd shown Nat.toDigits_ne_nil
  | cons first rest =>
      have digit : first.isDigit = true :=
        Nat.isDigit_of_mem_toDigits (by decide) (by decide) (shown ▸ List.mem_cons_self)
      have bounds : 48 ≤ first.toNat ∧ first.toNat ≤ 57 := Char.isDigit_iff_toNat.1 digit
      simp only [List.map_cons, List.head?_cons, Option.any_some, isDigit, between,
        Bool.and_eq_true, decide_eq_true_eq, UInt16.le_iff_toNat_le]
      rw [UInt16.toNat_ofNat', Nat.mod_eq_of_lt (by omega)]
      exact bounds

theorem indexKey_injective : Function.Injective indexKey := by
  intro first second same
  have digits : forall index : Nat, indexKey index =
      (Nat.toDigits 10 index).map fun digit => UInt16.ofNat digit.toNat := by
    intro index
    unfold indexKey text
    rw [Nat.toString_eq_ofList_toDigits, String.toList_ofList]
  have back : forall index : Nat,
      (indexKey index).map (fun code => Char.ofNat code.toNat) = Nat.toDigits 10 index := by
    intro index
    rw [digits, List.map_map]
    refine (List.map_congr_left fun digit member => ?_).trans (List.map_id _)
    have bounds : 48 ≤ digit.toNat ∧ digit.toNat ≤ 57 := Char.isDigit_iff_toNat.1
      (Nat.isDigit_of_mem_toDigits (by decide) (by decide) member)
    change Char.ofNat (UInt16.ofNat digit.toNat).toNat = digit
    rw [UInt16.toNat_ofNat', Nat.mod_eq_of_lt (by omega), Char.ofNat_toNat]
  have apart : Nat.toDigits 10 first = Nat.toDigits 10 second := by
    rw [← back, ← back, same]
  rw [← @Nat.ofDigitChars_toDigits 10 first (by decide) (by decide), apart,
    Nat.ofDigitChars_toDigits (by decide) (by decide)]

/-- Only an object has a property under a name. -/
theorem object_of_get {key : Text} {value nested : JsonValue} (isName : IsName key)
    (found : value.get key = some nested) : Exists fun members => value = .object members ∧
      Exists fun entry => (members.find? fun entry => entry.1 == key) = some entry ∧
        entry.2 = nested := by
  unfold get at found
  rw [if_neg isName.1] at found
  cases here : value.entries.find? fun entry => entry.1 == key with
  | none =>
      rw [here] at found
      cases found
  | some entry =>
      rw [here] at found
      have same : entry.1 = key := by simpa using List.find?_some here
      have member := List.mem_of_find?_eq_some here
      have noIndex : forall index, indexKey index ≠ key := by
        intro index equal
        have digit := head_indexKey index
        rw [equal, isName.2] at digit
        cases digit
      cases value with
      | object members => exact ⟨members, rfl, entry, here, Option.some.inj found⟩
      | array elements =>
          rcases List.mem_mapIdx.1 member with ⟨index, _, at'⟩
          exact absurd ((congrArg Prod.fst at').trans same) (noIndex index)
      | string characters =>
          rcases List.mem_mapIdx.1 member with ⟨index, _, at'⟩
          exact absurd ((congrArg Prod.fst at').trans same) (noIndex index)
      | null | boolean | number => cases member

/-- A named property that exists is changed where it stands. -/
theorem get_modify {key : Text} {value nested : JsonValue} (isName : IsName key)
    (found : value.get key = some nested) (change : JsonValue -> JsonValue) :
    (value.modify key change).get key = some (change nested) := by
  rcases object_of_get isName found with ⟨members, rfl, entry, here, rfl⟩
  have same : entry.1 = key := by simpa using List.find?_some here
  unfold get
  rw [entries_modify (isMutable_object members), find_map_entries (object members).entries
    (fun found nested => if found = key then change nested else nested),
    show ((object members).entries.find? fun entry => entry.1 == key) = some entry from here]
  exact congrArg some (if_pos same)

/-- A named property that does not exist stays away. -/
theorem get_modify_map {key : Text} (isName : IsName key) (change : JsonValue -> JsonValue)
    (value : JsonValue) : (value.modify key change).get key = (value.get key).map change := by
  cases found : value.get key with
  | some nested => exact get_modify isName found change
  | none =>
      by_cases isMutable : value.IsMutable
      · unfold get at found ⊢
        rw [if_neg isName.1] at found ⊢
        rw [entries_modify isMutable, find_map_entries value.entries
          (fun found nested => if found = key then change nested else nested)]
        cases here : value.entries.find? fun entry => entry.1 == key with
        | none => rfl
        | some entry =>
            rw [here] at found
            cases found
      · unfold IsMutable at isMutable
        push Not at isMutable
        rcases isMutable with ⟨characters, rfl⟩
        exact found

theorem getPath_modifyPath {path : List Text} {value nested : JsonValue}
    (names : forall key, key ∈ path -> IsName key) (found : value.getPath path = some nested)
    (change : JsonValue -> JsonValue) :
    (modifyPath path change value).getPath path = some (change nested) := by
  induction path generalizing value with
  | nil =>
      cases found
      rfl
  | cons key rest inductionHypothesis =>
      rcases Option.bind_eq_some_iff.1 found with ⟨child, here, below⟩
      refine Option.bind_eq_some_iff.2 ⟨_, get_modify (names key List.mem_cons_self) here _, ?_⟩
      exact inductionHypothesis (fun other member => names other (List.mem_cons_of_mem key member))
        below

/-! ## Unique keys

No object that was read has two properties under one key, at any depth. -/

inductive HasUniqueKeys : JsonValue -> Prop where
  | null : HasUniqueKeys .null
  | boolean (value : Bool) : HasUniqueKeys (.boolean value)
  | number (value : Number) : HasUniqueKeys (.number value)
  | string (value : Text) : HasUniqueKeys (.string value)
  | array {elements : List JsonValue}
      (each : forall element, element ∈ elements -> HasUniqueKeys element) :
      HasUniqueKeys (.array elements)
  | object {members : List (Text × JsonValue)} (nodup : (members.map Prod.fst).Nodup)
      (each : forall member, member ∈ members -> HasUniqueKeys member.2) :
      HasUniqueKeys (.object members)

theorem mem_of_mem_defineProperty {α : Type} {members : List (Text × α)} {member found : Text × α}
    (among : found ∈ defineProperty members member) : found ∈ members ∨ found = member := by
  unfold defineProperty at among
  split at among
  · rcases List.mem_map.1 among with ⟨other, before, rfl⟩
    split
    · exact .inr rfl
    · exact .inl before
  · exact (List.mem_append.1 among).imp_right List.mem_singleton.1

/-- Defining properties makes no new ones up. -/
theorem mem_of_mem_ownProperties {α : Type} {members : List (Text × α)} {found : Text × α}
    (among : found ∈ ownProperties members) : found ∈ members := by
  have defined : forall (rest done : List (Text × α)), found ∈ rest.foldl defineProperty done ->
      found ∈ done ∨ found ∈ rest := by
    intro rest
    induction rest with
    | nil => exact fun done member => .inl member
    | cons member rest inductionHypothesis =>
        intro done member'
        rcases inductionHypothesis _ member' with early | late
        · rcases mem_of_mem_defineProperty early with before | rfl
          · exact .inl before
          · exact .inr List.mem_cons_self
        · exact .inr (List.mem_cons_of_mem _ late)
  have either : found ∈ members.foldl defineProperty [] := by
    rcases List.mem_append.1 among with index | name
    · exact (List.mem_filter.1 (List.mem_mergeSort.1 index)).1
    · exact (List.mem_filter.1 name).1
  exact (defined members [] either).resolve_left List.not_mem_nil

mutual

theorem hasUniqueKeys_load : (value : Json) -> HasUniqueKeys value.load
  | .null => .null
  | .boolean value => .boolean value
  | .number _ => .number _
  | .string value => .string value
  | .array elements => .array (hasUniqueKeys_loadElements elements)
  | .object members => .object (nodup_ownProperties _) fun member among =>
      hasUniqueKeys_loadMembers members member (mem_of_mem_ownProperties among)

theorem hasUniqueKeys_loadElements : (elements : List Json) ->
    forall element, element ∈ loadElements elements -> HasUniqueKeys element
  | [], _, member => absurd member List.not_mem_nil
  | first :: rest, element, member => (List.mem_cons.1 member).elim
      (fun here => here ▸ hasUniqueKeys_load first)
      (fun later => hasUniqueKeys_loadElements rest element later)

theorem hasUniqueKeys_loadMembers : (members : List (Text × Json)) ->
    forall member, member ∈ loadMembers members -> HasUniqueKeys member.2
  | [], _, member => absurd member List.not_mem_nil
  | (_, value) :: rest, found, member => (List.mem_cons.1 member).elim
      (fun here => here ▸ hasUniqueKeys_load value)
      (fun later => hasUniqueKeys_loadMembers rest found later)

end

theorem hasUniqueKeys_parse {input : Text} {value : JsonValue} (parsed : parse input = some value) :
    HasUniqueKeys value := by
  rcases Option.map_eq_some_iff.1 parsed with ⟨tree, _, rfl⟩
  exact hasUniqueKeys_load tree

/-- The entries of a value, and the keys of these entries. -/
theorem HasUniqueKeys.entries {value : JsonValue} (unique : HasUniqueKeys value) :
    value.keys.Nodup ∧ forall entry, entry ∈ value.entries -> HasUniqueKeys entry.2 := by
  have indices : forall {α : Type} (elements : List α) (render : α -> JsonValue),
      ((elements.mapIdx fun index element => (indexKey index, render element)).map
        Prod.fst).Nodup := by
    intro α elements render
    have keys : (elements.mapIdx fun index element => (indexKey index, render element)).map
        Prod.fst = (List.range elements.length).map indexKey := by
      refine List.ext_getElem (by simp) fun index first second => ?_
      simp
    rw [keys]
    exact List.nodup_range.map indexKey_injective
  cases unique with
  | null | boolean | number => exact ⟨List.nodup_nil, nofun⟩
  | string characters =>
      refine ⟨indices characters _, fun entry member => ?_⟩
      rcases List.mem_mapIdx.1 member with ⟨_, _, rfl⟩
      exact .string _
  | @array elements each =>
      refine ⟨indices elements _, fun entry member => ?_⟩
      rcases List.mem_mapIdx.1 member with ⟨index, inside, rfl⟩
      exact each _ (List.getElem_mem inside)
  | object nodup each => exact ⟨nodup, each⟩

theorem HasUniqueKeys.get {value nested : JsonValue} {key : Text} (unique : HasUniqueKeys value)
    (found : value.get key = some nested) : HasUniqueKeys nested := by
  unfold JsonValue.get at found
  split at found
  · rename_i entry here
    cases found
    exact unique.entries.2 _ (List.mem_of_find?_eq_some here)
  · split at found
    · rcases Option.map_eq_some_iff.1 found with ⟨_, _, rfl⟩
      exact .number _
    · cases found

/-! ## Rendered strings

No other value is rendered like a string, so a rendered list of strings
determines the list. -/

theorem head_digits {index : Nat} {code : CodeUnit} {rest : Text}
    (shown : text (toString index) = code :: rest) : isDigit code = true := by
  have digit := head_indexKey index
  unfold indexKey at digit
  rw [shown] at digit
  simpa using digit

/-- The first character is a digit. -/
def StartsWithDigit (rendered : Text) : Prop :=
  Exists fun code => Exists fun rest => rendered = code :: rest ∧ isDigit code = true

theorem startsWithDigit_toString (number : Nat) : StartsWithDigit (text (toString number)) := by
  cases shown : text (toString number) with
  | nil =>
      have digit := head_indexKey number
      unfold indexKey at digit
      rw [shown] at digit
      cases digit
  | cons code rest => exact ⟨code, rest, rfl, head_digits shown⟩

theorem StartsWithDigit.append {front : Text} (starts : StartsWithDigit front) (back : Text) :
    StartsWithDigit (front ++ back) := by
  rcases starts with ⟨code, rest, rfl, digit⟩
  exact ⟨code, rest ++ back, rfl, digit⟩

theorem startsWithDigit_shortestDigits (value : Rat) :
    StartsWithDigit (Number.shortestDigits value).1 := by
  unfold Number.shortestDigits
  simp only
  split
  · exact ⟨0x30, [], rfl, by decide⟩
  · split
    · exact ⟨0x31, [], rfl, by decide⟩
    · exact startsWithDigit_toString _

theorem startsWithDigit_positiveText (value : Rat) :
    StartsWithDigit (Number.positiveText value) := by
  unfold Number.positiveText
  simp only
  rcases startsWithDigit_shortestDigits value with ⟨code, rest, shown, digit⟩
  have starts : StartsWithDigit (Number.shortestDigits value).1 := ⟨code, rest, shown, digit⟩
  split
  · exact starts.append _
  · split
    · rename_i within
      rw [shown]
      refine StartsWithDigit.append ?_ _
      cases places : (Number.shortestDigits value).2.toNat with
      | zero => omega
      | succ more => exact ⟨code, rest.take more, rfl, digit⟩
    · split
      · exact ⟨0x30, _, rfl, by decide⟩
      · refine StartsWithDigit.append ?_ _
        rw [shown]
        cases rest with
        | nil => exact ⟨code, [], rfl, digit⟩
        | cons second rest => exact ⟨code, _, rfl, digit⟩

/-- The first character tells a string from other values, and every value from
the end of an array. -/
theorem stringify_head (value : JsonValue) : Exists fun code => Exists fun rest =>
    value.stringify = code :: rest ∧ code ≠ RIGHT_SQUARE_BRACKET ∧
      (code = QUOTATION_MARK -> Exists fun characters => value = .string characters) := by
  have digits : forall {rendered : Text}, StartsWithDigit rendered ->
      Exists fun code => Exists fun rest => rendered = code :: rest ∧
        code ≠ RIGHT_SQUARE_BRACKET ∧ code ≠ QUOTATION_MARK := by
    rintro rendered ⟨code, rest, rfl, digit⟩
    refine ⟨code, rest, rfl, ?_, ?_⟩
    · rintro rfl
      exact absurd digit (by decide)
    · rintro rfl
      exact absurd digit (by decide)
  cases value with
  | string characters => exact ⟨_, _, rfl, by decide, fun _ => ⟨characters, rfl⟩⟩
  | number number =>
      cases number with
      | nan => exact ⟨_, _, rfl, by decide, nofun⟩
      | infinite => exact ⟨_, _, rfl, by decide, nofun⟩
      | finite value =>
          simp only [stringify, Number.toText]
          split
          · exact ⟨_, _, rfl, by decide, nofun⟩
          · split
            · exact ⟨_, _, rfl, by decide, nofun⟩
            · rcases digits (startsWithDigit_positiveText value) with
                ⟨code, rest, shown, inside, plain⟩
              exact ⟨code, rest, shown, inside, fun quoted => absurd quoted plain⟩
  | boolean value => cases value <;> exact ⟨_, _, rfl, by decide, nofun⟩
  | null => exact ⟨_, _, rfl, by decide, nofun⟩
  | array elements => exact ⟨_, _, rfl, by decide, nofun⟩
  | object members => exact ⟨_, _, rfl, by decide, nofun⟩

/-- The rendering of a string determines it, whatever follows. -/
theorem stringify_append_quote {value : JsonValue} {characters rest other : Text}
    (same : value.stringify ++ rest = quote characters ++ other) :
    value = .string characters ∧ rest = other := by
  rcases stringify_head value with ⟨code, more, rendered, _, quoted⟩
  have opens : code = QUOTATION_MARK := by
    rw [rendered] at same
    exact (List.cons.inj same).1
  rcases quoted opens with ⟨found, rfl⟩
  have texts := quote_append_inj same
  exact ⟨congrArg JsonValue.string texts.1, texts.2⟩

theorem commaSeparated_cons (first : Text) (rest : List Text) :
    commaSeparated (first :: rest) = first ++ rest.flatMap (COMMA :: ·) := by
  induction rest generalizing first with
  | nil => exact (List.append_nil first).symm
  | cons second rest inductionHypothesis =>
      rw [commaSeparated, inductionHypothesis, List.flatMap_cons, List.cons_append]
      exact nofun

theorem renderElements_eq_map (elements : List JsonValue) :
    renderElements elements = elements.map stringify := by
  induction elements with
  | nil => rfl
  | cons element rest inductionHypothesis => rw [renderElements, inductionHypothesis, List.map_cons]

/-- A rendered list of strings determines the list. -/
theorem eq_strings_of_stringify_eq {values : List JsonValue} {strings : List Text}
    (same : (array values).stringify = (array (strings.map .string)).stringify) :
    values = strings.map .string := by
  have further : forall (values : List JsonValue) (strings : List Text),
      (values.map stringify).flatMap (COMMA :: ·) ++ [RIGHT_SQUARE_BRACKET] =
        (strings.map quote).flatMap (COMMA :: ·) ++ [RIGHT_SQUARE_BRACKET] ->
      values = strings.map .string := by
    intro values
    induction values with
    | nil =>
        intro strings tails
        cases strings with
        | nil => rfl
        | cons => cases tails
    | cons value values inductionHypothesis =>
        intro strings tails
        cases strings with
        | nil => cases tails
        | cons first strings =>
            simp only [List.map_cons, List.flatMap_cons, List.cons_append, List.append_assoc,
              List.cons.injEq, true_and] at tails
            rcases stringify_append_quote tails with ⟨rfl, onward⟩
            rw [inductionHypothesis strings onward, List.map_cons]
  have quotes : forall strings : List Text,
      (strings.map JsonValue.string).map stringify = strings.map quote := by
    intro strings
    rw [List.map_map]
    exact List.map_congr_left fun _ _ => rfl
  simp only [stringify, renderElements_eq_map, quotes, List.cons_append, List.cons.injEq,
    true_and] at same
  cases values with
  | nil =>
      cases strings with
      | nil => rfl
      | cons first strings =>
          rw [List.map_cons, commaSeparated_cons] at same
          cases (List.cons.inj same).1
  | cons value values =>
      rw [List.map_cons, commaSeparated_cons, List.append_assoc] at same
      cases strings with
      | nil =>
          rcases stringify_head value with ⟨code, more, rendered, inside, _⟩
          rw [rendered] at same
          exact absurd (List.cons.inj same).1 inside
      | cons first strings =>
          rw [List.map_cons, commaSeparated_cons, List.append_assoc] at same
          rcases stringify_append_quote same with ⟨rfl, onward⟩
          rw [further values strings onward, List.map_cons]

end JsonValue

end JavaScript
