import Mathlib.Data.List.Infix

namespace JavaScript

/-!
# Strings of code units

A JavaScript string is a sequence of 16-bit code units, which need not be
well-formed UTF-16.  Lengths, comparisons and regular expressions without the
`u` flag all count and compare code units.
-/

abbrev CodeUnit : Type := UInt16

abbrev Text : Type := List CodeUnit

instance : LawfulBEq Text := inferInstance

/-- A string literal of ASCII characters. -/
def text (literal : String) : Text :=
  literal.toList.map fun character => UInt16.ofNat character.toNat

/-- A character range of a regular expression. -/
def between (first last code : CodeUnit) : Bool := decide (first ≤ code) && decide (code ≤ last)

def isDigit : CodeUnit -> Bool := between 0x30 0x39

/-- The class `[a-z]`. -/
def isLowercase : CodeUnit -> Bool := between 0x61 0x7A

/-- The class `[A-Z]`. -/
def isUppercase : CodeUnit -> Bool := between 0x41 0x5A

/-! ## Patterns of a fixed length

A regular expression between `^` and `$` whose parts are classes with fixed
counts is a list of classes, one for each code unit. -/

abbrev Pattern : Type := List (CodeUnit -> Bool)

/-- `pattern.test(text)`. -/
def Pattern.test : Pattern -> Text -> Bool
  | [], [] => true
  | accepts :: pattern, code :: rest => accepts code && Pattern.test pattern rest
  | _, _ => false

/-- What a text in which every code unit is accepted by its class has in
common with another pattern, class by class. -/
theorem Pattern.test_iff_of_class {strict lenient : Pattern} {text : Text}
    {also : CodeUnit -> Prop}
    (classes : List.Forall₂ (fun narrow wide => forall code,
      narrow code = true ↔ wide code = true ∧ also code) strict lenient) :
    strict.test text = true ↔ lenient.test text = true ∧ forall code, code ∈ text -> also code := by
  induction classes generalizing text with
  | nil =>
      cases text with
      | nil => simp [Pattern.test]
      | cons => simp [Pattern.test]
  | cons sameClass _ inductionHypothesis =>
      cases text with
      | nil => simp [Pattern.test]
      | cons code rest =>
          simp only [Pattern.test, Bool.and_eq_true, sameClass, inductionHypothesis,
            List.mem_cons, forall_eq_or_imp]
          exact ⟨fun ⟨⟨first, here⟩, others, there⟩ => ⟨⟨first, others⟩, here, there⟩,
            fun ⟨⟨first, others⟩, here, there⟩ => ⟨⟨first, here⟩, others, there⟩⟩

/-- Every code unit of a matching text satisfies what all classes imply. -/
theorem Pattern.forall_of_test {pattern : Pattern} {text : Text} {holds : CodeUnit -> Prop}
    (implied : forall accepts, accepts ∈ pattern -> forall code, accepts code = true -> holds code)
    (matched : pattern.test text = true) : forall code, code ∈ text -> holds code := by
  induction pattern generalizing text with
  | nil =>
      cases text with
      | nil => exact fun code member => absurd member List.not_mem_nil
      | cons => cases matched
  | cons accepts pattern inductionHypothesis =>
      cases text with
      | nil => cases matched
      | cons first rest =>
          rcases (Bool.and_eq_true _ _).mp matched with ⟨here, there⟩
          intro code member
          rcases List.mem_cons.1 member with same | later
          · exact same ▸ implied accepts List.mem_cons_self first here
          · exact inductionHypothesis
              (fun other among => implied other (List.mem_cons_of_mem _ among)) there code later

end JavaScript
