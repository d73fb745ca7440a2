import GitMate.Library.Text
import Mathlib.Data.List.TakeDrop
import Mathlib.Data.Rat.Defs
import Mathlib.Algebra.Order.Ring.Rat

namespace JavaScript

/-!
# JSON texts

`JSON.parse` and the part of `JSON.stringify` that renders flat objects.  The
parser follows the grammar of the standard: white space around the six
structural characters, no trailing commas, no control characters inside a
string.  An object keeps its members in the order of the text; of several
members with one key a lookup finds the last, as the property that is defined
last stays.

The functions of the parser call each other, so they count down a fuel.  Of
two calls in a row at least one has read a code unit, and a fuel above twice
the length of the text is therefore as good as any other; `parse` takes that
fuel.
-/

/-- A number as it is written, `significand * 10 ^ exponent`. -/
structure Decimal where
  significand : Int
  exponent : Int
  deriving DecidableEq, Repr

/-- The exact value of a decimal. -/
def Decimal.value (decimal : Decimal) : Rat :=
  match decimal.exponent with
  | .ofNat places => decimal.significand * 10 ^ places
  | .negSucc places => decimal.significand / 10 ^ (places + 1)

/-- The number is rounded to the double 1: its neighbours are `1 - 2 ^ -53`
and `1 + 2 ^ -52`, and a tie goes to the even significand, which is that
of 1. -/
def Decimal.isOne (decimal : Decimal) : Bool :=
  decide (1 - 1 / 2 ^ 54 ≤ decimal.value) && decide (decimal.value ≤ 1 + 1 / 2 ^ 53)

inductive Json where
  | null
  | boolean (value : Bool)
  | number (value : Decimal)
  | string (value : Text)
  | array (elements : List Json)
  | object (members : List (Text × Json))

/-- The value of a property, which is that of the last member with its key. -/
def property (members : List (Text × Json)) (key : Text) : Option Json :=
  (members.reverse.find? fun member => member.1 == key).map Prod.snd

/-! ## Lexical grammar -/

def QUOTATION_MARK : CodeUnit := 0x22
def REVERSE_SOLIDUS : CodeUnit := 0x5C
def COLON : CodeUnit := 0x3A
def COMMA : CodeUnit := 0x2C
def LEFT_SQUARE_BRACKET : CodeUnit := 0x5B
def RIGHT_SQUARE_BRACKET : CodeUnit := 0x5D
def LEFT_CURLY_BRACKET : CodeUnit := 0x7B
def RIGHT_CURLY_BRACKET : CodeUnit := 0x7D
def HYPHEN_MINUS : CodeUnit := 0x2D
def PLUS_SIGN : CodeUnit := 0x2B
def FULL_STOP : CodeUnit := 0x2E

def isJsonWhitespace (code : CodeUnit) : Bool :=
  code == 0x20 || code == 0x09 || code == 0x0A || code == 0x0D

def skip (input : Text) : Text := input.dropWhile isJsonWhitespace

/-- One structural character, after white space. -/
def expect (character : CodeUnit) (input : Text) : Option Text :=
  match skip input with
  | [] => none
  | code :: rest => if code = character then some rest else none

def hexDigit (code : CodeUnit) : Option Nat :=
  if isDigit code then some (code.toNat - 0x30)
  else if between 0x61 0x66 code then some (code.toNat - 0x61 + 10)
  else if between 0x41 0x46 code then some (code.toNat - 0x41 + 10)
  else none

/-- The code unit that `\` and a letter stand for. -/
def escaped (code : CodeUnit) : Option CodeUnit :=
  if code = QUOTATION_MARK ∨ code = REVERSE_SOLIDUS ∨ code = 0x2F then some code
  else if code = 0x62 then some 0x08
  else if code = 0x66 then some 0x0C
  else if code = 0x6E then some 0x0A
  else if code = 0x72 then some 0x0D
  else if code = 0x74 then some 0x09
  else none

/-- Where the parser is inside a string literal: between two characters, after
`\`, or after `\u` and some of its four digits. -/
inductive LiteralState where
  | between
  | solidus
  | unicode (digits value : Nat)

/-- The rest of a string literal up to its closing quotation mark. -/
def parseLiteral : LiteralState -> Text -> Option (Text × Text)
  | _, [] => none
  | .between, code :: rest =>
      if code = QUOTATION_MARK then some ([], rest)
      else if code = REVERSE_SOLIDUS then parseLiteral .solidus rest
      else if code < 0x20 then none
      else (parseLiteral .between rest).map fun parsed => (code :: parsed.1, parsed.2)
  | .solidus, code :: rest =>
      if code = 0x75 then parseLiteral (.unicode 0 0) rest
      else (escaped code).bind fun unit =>
        (parseLiteral .between rest).map fun parsed => (unit :: parsed.1, parsed.2)
  | .unicode digits value, code :: rest =>
      (hexDigit code).bind fun digit =>
        if digits = 3 then
          (parseLiteral .between rest).map fun parsed =>
            (UInt16.ofNat (value * 16 + digit) :: parsed.1, parsed.2)
        else parseLiteral (.unicode (digits + 1) (value * 16 + digit)) rest

/-- The rest of a string literal, after its opening quotation mark. -/
def parseString (input : Text) : Option (Text × Text) := parseLiteral .between input

/-- The natural number that a list of decimal digits denotes. -/
def digitsValue (digits : Text) : Nat :=
  digits.foldl (fun value digit => value * 10 + (digit.toNat - 0x30)) 0

/-- The digits after a decimal point, if there is one. -/
def parseFraction : Text -> Option (Text × Text)
  | [] => some ([], [])
  | code :: rest =>
      if code = FULL_STOP then
        let (digits, rest) := rest.span isDigit
        if digits = [] then none else some (digits, rest)
      else some ([], code :: rest)

/-- The exponent, if there is one. -/
def parseExponent : Text -> Option (Int × Text)
  | [] => some (0, [])
  | code :: rest =>
      if code = 0x65 ∨ code = 0x45 then
        let signed := match rest with
          | sign :: after =>
              if sign = HYPHEN_MINUS then (true, after)
              else if sign = PLUS_SIGN then (false, after)
              else (false, rest)
          | [] => (false, [])
        let (digits, rest) := signed.2.span isDigit
        if digits = [] then none
        else some (if signed.1 then -(digitsValue digits : Int) else digitsValue digits, rest)
      else some (0, code :: rest)

/-- A number without its sign.  A leading zero is the only digit before the
fraction. -/
def parseUnsigned (input : Text) : Option (Decimal × Text) := do
  let (digits, rest) := input.span isDigit
  if digits = [] ∨ (digits.head? = some 0x30 ∧ 1 < digits.length) then none
  else
    let fraction <- parseFraction rest
    let exponent <- parseExponent fraction.2
    pure (⟨digitsValue (digits ++ fraction.1), exponent.1 - fraction.1.length⟩, exponent.2)

def parseNumber : Text -> Option (Decimal × Text)
  | [] => none
  | code :: rest =>
      if code = HYPHEN_MINUS then
        (parseUnsigned rest).map fun parsed =>
          (⟨-parsed.1.significand, parsed.1.exponent⟩, parsed.2)
      else parseUnsigned (code :: rest)

/-- `null`, a boolean or a number. -/
def parseScalar (input : Text) : Option (Json × Text) :=
  if (text "null").isPrefixOf input then some (.null, input.drop 4)
  else if (text "true").isPrefixOf input then some (.boolean true, input.drop 4)
  else if (text "false").isPrefixOf input then some (.boolean false, input.drop 5)
  else (parseNumber input).map fun parsed => (.number parsed.1, parsed.2)

/-! ## Values -/

/-- What follows an item of a list: a comma and more items, or the closing
bracket. -/
def parseFollowing {α : Type} (bracket : CodeUnit) (first : α)
    (more : Text -> Option (List α × Text)) (input : Text) : Option (List α × Text) :=
  match expect COMMA input with
  | some rest => (more rest).map fun parsed => (first :: parsed.1, parsed.2)
  | none => (expect bracket input).map fun rest => ([first], rest)

mutual

/-- One value, after white space. -/
def parseValue : Nat -> Text -> Option (Json × Text)
  | 0, _ => none
  | fuel + 1, input =>
      match skip input with
      | [] => none
      | code :: rest =>
          if code = QUOTATION_MARK then
            (parseString rest).map fun parsed => (.string parsed.1, parsed.2)
          else if code = LEFT_CURLY_BRACKET then
            match expect RIGHT_CURLY_BRACKET rest with
            | some after => some (.object [], after)
            | none => (parseMembers fuel rest).map fun parsed => (.object parsed.1, parsed.2)
          else if code = LEFT_SQUARE_BRACKET then
            match expect RIGHT_SQUARE_BRACKET rest with
            | some after => some (.array [], after)
            | none => (parseElements fuel rest).map fun parsed => (.array parsed.1, parsed.2)
          else parseScalar (code :: rest)

/-- The members of an object and its closing bracket. -/
def parseMembers : Nat -> Text -> Option (List (Text × Json) × Text)
  | 0, _ => none
  | fuel + 1, input => do
      let rest <- expect QUOTATION_MARK input
      let key <- parseString rest
      let rest <- expect COLON key.2
      let value <- parseValue fuel rest
      parseFollowing RIGHT_CURLY_BRACKET (key.1, value.1) (parseMembers fuel) value.2

/-- The elements of an array and its closing bracket. -/
def parseElements : Nat -> Text -> Option (List Json × Text)
  | 0, _ => none
  | fuel + 1, input => do
      let value <- parseValue fuel input
      parseFollowing RIGHT_SQUARE_BRACKET value.1 (parseElements fuel) value.2

end

/-- `JSON.parse`; a `SyntaxError` is `none`. -/
def Json.parse (input : Text) : Option Json := do
  let parsed <- parseValue (2 * input.length + 1) input
  if skip parsed.2 = [] then pure parsed.1 else none

/-! ## Rendering -/

def isLeadingSurrogate : CodeUnit -> Bool := between 0xD800 0xDBFF

def isTrailingSurrogate : CodeUnit -> Bool := between 0xDC00 0xDFFF

def hexCharacter (digit : Nat) : CodeUnit :=
  UInt16.ofNat (if digit < 10 then 0x30 + digit else 0x61 + (digit - 10))

/-- `\u` and four lowercase digits. -/
def unicodeEscape (code : CodeUnit) : Text :=
  [ REVERSE_SOLIDUS, 0x75, hexCharacter (code.toNat / 4096), hexCharacter (code.toNat / 256 % 16),
    hexCharacter (code.toNat / 16 % 16), hexCharacter (code.toNat % 16) ]

/-- A code unit that is not part of a surrogate pair, inside a literal. -/
def escape (code : CodeUnit) : Text :=
  if code = QUOTATION_MARK ∨ code = REVERSE_SOLIDUS then [REVERSE_SOLIDUS, code]
  else if code = 0x08 then [REVERSE_SOLIDUS, 0x62]
  else if code = 0x0C then [REVERSE_SOLIDUS, 0x66]
  else if code = 0x0A then [REVERSE_SOLIDUS, 0x6E]
  else if code = 0x0D then [REVERSE_SOLIDUS, 0x72]
  else if code = 0x09 then [REVERSE_SOLIDUS, 0x74]
  else if code < 0x20 ∨ isLeadingSurrogate code ∨ isTrailingSurrogate code then unicodeEscape code
  else [code]

/-- The inside of the literal of a string; surrogate pairs stay as they are. -/
def escapeAll : Text -> Text
  | [] => []
  | [code] => escape code
  | code :: trailing :: after =>
      if isLeadingSurrogate code && isTrailingSurrogate trailing then
        code :: trailing :: escapeAll after
      else escape code ++ escapeAll (trailing :: after)

/-- `JSON.stringify` of a string. -/
def quote (value : Text) : Text := QUOTATION_MARK :: escapeAll value ++ [QUOTATION_MARK]

/-- `JSON.stringify` of an object whose values are already rendered. -/
def stringifyMembers : List (Text × Text) -> Text
  | [] => []
  | [(key, value)] => quote key ++ COLON :: value
  | (key, value) :: rest => quote key ++ COLON :: value ++ COMMA :: stringifyMembers rest

def stringifyObject (members : List (Text × Text)) : Text :=
  LEFT_CURLY_BRACKET :: stringifyMembers members ++ [RIGHT_CURLY_BRACKET]

/-! ## The fuel

Whatever a function of the parser returns is a shorter text than the one it
was given.  Along every chain of calls the text gets shorter with the fuel, so
a fuel that exceeds the length of the text never runs out. -/

theorem length_skip (input : Text) : (skip input).length ≤ input.length :=
  (List.dropWhile_suffix isJsonWhitespace).length_le

theorem expect_shorter {character : CodeUnit} {input rest : Text}
    (found : expect character input = some rest) : rest.length < input.length := by
  unfold expect at found
  have skipped := length_skip input
  cases remaining : skip input with
  | nil => rw [remaining] at found; cases found
  | cons code after =>
      rw [remaining] at found skipped
      simp only at found
      split at found
      · cases found
        exact skipped
      · cases found

theorem parseLiteral_shorter {state : LiteralState} {input : Text} {parsed : Text × Text}
    (found : parseLiteral state input = some parsed) : parsed.2.length < input.length := by
  have grow : forall {rest : Text} {inner : LiteralState} {unit : CodeUnit} {result : Text × Text},
      (forall {parsed : Text × Text}, parseLiteral inner rest = some parsed ->
        parsed.2.length < rest.length) ->
      ((parseLiteral inner rest).map fun parsed => (unit :: parsed.1, parsed.2)) = some result ->
        result.2.length < rest.length + 1 := by
    intro rest inner unit result shorter mapped
    rcases Option.map_eq_some_iff.1 mapped with ⟨before, here, same⟩
    have less := shorter here
    cases same
    exact Nat.lt_succ_of_lt less
  induction input generalizing state parsed with
  | nil => cases state <;> cases found
  | cons code rest inductionHypothesis =>
      rw [List.length_cons]
      cases state with
      | between =>
          rw [parseLiteral] at found
          split at found
          · cases found
            exact Nat.lt_succ_self _
          · split at found
            · exact Nat.lt_succ_of_lt (inductionHypothesis found)
            · split at found
              · cases found
              · exact grow inductionHypothesis found
      | solidus =>
          rw [parseLiteral] at found
          split at found
          · exact Nat.lt_succ_of_lt (inductionHypothesis found)
          · rcases Option.bind_eq_some_iff.1 found with ⟨unit, _, after⟩
            exact grow inductionHypothesis after
      | unicode digits value =>
          rw [parseLiteral] at found
          rcases Option.bind_eq_some_iff.1 found with ⟨digit, _, after⟩
          split at after
          · exact grow inductionHypothesis after
          · exact Nat.lt_succ_of_lt (inductionHypothesis after)

theorem length_span (accepts : CodeUnit -> Bool) (input : Text) :
    (input.span accepts).1.length + (input.span accepts).2.length = input.length := by
  rw [← List.length_append, List.span_eq_takeWhile_dropWhile, List.takeWhile_append_dropWhile]

theorem parseFraction_length {input : Text} {parsed : Text × Text}
    (found : parseFraction input = some parsed) : parsed.2.length ≤ input.length := by
  unfold parseFraction at found
  cases input with
  | nil => cases found; exact Nat.le_refl 0
  | cons code rest =>
      have spanned := length_span isDigit rest
      simp only at found
      split at found
      · split at found
        · cases found
        · cases found
          simp only [List.length_cons]
          omega
      · cases found
        exact Nat.le_refl _

theorem parseExponent_length {input : Text} {parsed : Int × Text}
    (found : parseExponent input = some parsed) : parsed.2.length ≤ input.length := by
  unfold parseExponent at found
  cases input with
  | nil => cases found; exact Nat.le_refl 0
  | cons code rest =>
      simp only at found
      split at found
      · generalize signed : (match rest with
          | sign :: after =>
              if sign = HYPHEN_MINUS then (true, after)
              else if sign = PLUS_SIGN then (false, after)
              else (false, rest)
          | [] => (false, [])) = after at found
        have short : after.2.length ≤ rest.length := by
          subst signed
          cases rest with
          | nil => exact Nat.le_refl 0
          | cons sign rest =>
              simp only
              split
              · exact Nat.le_succ _
              · split
                · exact Nat.le_succ _
                · exact Nat.le_refl _
        have spanned := length_span isDigit after.2
        split at found
        · cases found
        · cases found
          simp only [List.length_cons]
          omega
      · cases found
        exact Nat.le_refl _

theorem parseNumber_shorter {input : Text} {parsed : Decimal × Text}
    (found : parseNumber input = some parsed) : parsed.2.length < input.length := by
  have unsigned : forall {input : Text} {parsed : Decimal × Text},
      parseUnsigned input = some parsed -> parsed.2.length < input.length := by
    intro input parsed found
    have spanned := length_span isDigit input
    unfold parseUnsigned at found
    simp only at found
    split at found
    · cases found
    · rename_i digits
      rcases Option.bind_eq_some_iff.1 found with ⟨fraction, read, after⟩
      rcases Option.bind_eq_some_iff.1 after with ⟨exponent, readExponent, same⟩
      cases same
      have fractionLength := parseFraction_length read
      have exponentLength := parseExponent_length readExponent
      have some_ : 0 < (input.span isDigit).1.length :=
        List.length_pos_of_ne_nil fun none => digits (Or.inl none)
      change exponent.2.length < input.length
      omega
  unfold parseNumber at found
  cases input with
  | nil => cases found
  | cons code rest =>
      simp only at found
      split at found
      · rcases Option.map_eq_some_iff.1 found with ⟨inner, read, same⟩
        have less := unsigned read
        cases same
        exact Nat.lt_succ_of_lt less
      · exact unsigned found

theorem drop_shorter {word input : Text} (starts : word.isPrefixOf input = true)
    (nonempty : 0 < word.length) : (input.drop word.length).length < input.length := by
  have long := (List.isPrefixOf_iff_prefix.1 starts).length_le
  rw [List.length_drop]
  omega

theorem parseScalar_shorter {input : Text} {parsed : Json × Text}
    (found : parseScalar input = some parsed) : parsed.2.length < input.length := by
  unfold parseScalar at found
  split at found
  · rename_i starts
    cases found
    exact drop_shorter starts (by decide)
  · split at found
    · rename_i starts
      cases found
      exact drop_shorter starts (by decide)
    · split at found
      · rename_i starts
        cases found
        exact drop_shorter starts (by decide)
      · rcases Option.map_eq_some_iff.1 found with ⟨inner, read, same⟩
        have less := parseNumber_shorter read
        cases same
        exact less

/-- A function of the parser consumes something. -/
def Consumes {α : Type} (parser : Text -> Option (α × Text)) : Prop :=
  forall input parsed, parser input = some parsed -> parsed.2.length < input.length

theorem parseValue_consumes {fuel : Nat} (members : Consumes (parseMembers fuel))
    (elements : Consumes (parseElements fuel)) : Consumes (parseValue (fuel + 1)) := by
  intro input parsed found
  rw [parseValue] at found
  have skipped := length_skip input
  cases remaining : skip input with
  | nil => rw [remaining] at found; cases found
  | cons code rest =>
      rw [remaining] at found skipped
      rw [List.length_cons] at skipped
      simp only at found
      split at found
      · rcases Option.map_eq_some_iff.1 found with ⟨literal, read, same⟩
        have less := parseLiteral_shorter read
        cases same
        change literal.2.length < input.length
        omega
      · split at found
        · cases closed : expect RIGHT_CURLY_BRACKET rest with
          | some after =>
              have less := expect_shorter closed
              rw [closed] at found
              cases found
              change after.length < input.length
              omega
          | none =>
              rw [closed] at found
              rcases Option.map_eq_some_iff.1 found with ⟨inner, read, same⟩
              have less := members _ _ read
              cases same
              change inner.2.length < input.length
              omega
        · split at found
          · cases closed : expect RIGHT_SQUARE_BRACKET rest with
            | some after =>
                have less := expect_shorter closed
                rw [closed] at found
                cases found
                change after.length < input.length
                omega
            | none =>
                rw [closed] at found
                rcases Option.map_eq_some_iff.1 found with ⟨inner, read, same⟩
                have less := elements _ _ read
                cases same
                change inner.2.length < input.length
                omega
          · have less := parseScalar_shorter found
            rw [List.length_cons] at less
            omega

theorem parseFollowing_consumes {α : Type} {bracket : CodeUnit} {first : α}
    {more : Text -> Option (List α × Text)} (consumes : Consumes more) :
    Consumes (parseFollowing bracket first more) := by
  intro input parsed found
  unfold parseFollowing at found
  cases comma : expect COMMA input with
  | some rest =>
      rw [comma] at found
      rcases Option.map_eq_some_iff.1 found with ⟨result, read, same⟩
      have less := expect_shorter comma
      have lesser := consumes _ _ read
      cases same
      exact lesser.trans less
  | none =>
      rw [comma] at found
      rcases Option.map_eq_some_iff.1 found with ⟨rest, closed, same⟩
      have less := expect_shorter closed
      cases same
      exact less

theorem parseMembers_consumes {fuel : Nat} (values : Consumes (parseValue fuel))
    (members : Consumes (parseMembers fuel)) : Consumes (parseMembers (fuel + 1)) := by
  intro input parsed found
  rw [parseMembers] at found
  rcases Option.bind_eq_some_iff.1 found with ⟨literal, opened, afterQuote⟩
  rcases Option.bind_eq_some_iff.1 afterQuote with ⟨key, readKey, afterKey⟩
  rcases Option.bind_eq_some_iff.1 afterKey with ⟨rest, colon, afterColon⟩
  rcases Option.bind_eq_some_iff.1 afterColon with ⟨value, readValue, afterValue⟩
  have first := expect_shorter opened
  have second := parseLiteral_shorter readKey
  have third := expect_shorter colon
  have fourth := values _ _ readValue
  have fifth := parseFollowing_consumes members _ _ afterValue
  omega

theorem parseElements_consumes {fuel : Nat} (values : Consumes (parseValue fuel))
    (elements : Consumes (parseElements fuel)) : Consumes (parseElements (fuel + 1)) := by
  intro input parsed found
  rw [parseElements] at found
  rcases Option.bind_eq_some_iff.1 found with ⟨value, readValue, afterValue⟩
  have first := values _ _ readValue
  have second := parseFollowing_consumes elements _ _ afterValue
  omega

theorem parser_consumes (fuel : Nat) : Consumes (parseValue fuel) ∧
    Consumes (parseMembers fuel) ∧ Consumes (parseElements fuel) := by
  induction fuel with
  | zero =>
      refine ⟨fun input parsed found => ?_, fun input parsed found => ?_,
        fun input parsed found => ?_⟩
      · rw [parseValue] at found; cases found
      · rw [parseMembers] at found; cases found
      · rw [parseElements] at found; cases found
  | succ fuel inductionHypothesis =>
      rcases inductionHypothesis with ⟨values, members, elements⟩
      exact ⟨parseValue_consumes members elements, parseMembers_consumes values members,
        parseElements_consumes values elements⟩

/-- More fuel makes no difference to a parser, as long as the fuel exceeds
twice the length of the text and what the parser itself needs. -/
def Settled {α : Type} (parser : Nat -> Text -> Option α) (own fuel : Nat) : Prop :=
  forall input : Text, 2 * input.length + own < fuel -> parser (fuel + 1) input = parser fuel input

theorem parseFollowing_congr {α : Type} {bracket : CodeUnit} {first : α}
    {more fewer : Text -> Option (List α × Text)} {input : Text}
    (same : forall rest : Text, rest.length < input.length -> more rest = fewer rest) :
    parseFollowing bracket first more input = parseFollowing bracket first fewer input := by
  unfold parseFollowing
  cases comma : expect COMMA input with
  | some rest =>
      simp only
      rw [same rest (expect_shorter comma)]
  | none => rfl

theorem parseValue_settled {fuel : Nat} (members : Settled parseMembers 0 fuel)
    (elements : Settled parseElements 1 fuel) : Settled parseValue 0 (fuel + 1) := by
  intro input short
  rw [parseValue, parseValue]
  have skipped := length_skip input
  cases remaining : skip input with
  | nil => rfl
  | cons code rest =>
      rw [remaining, List.length_cons] at skipped
      simp only
      rw [members rest (by omega), elements rest (by omega)]

theorem parseMembers_settled {fuel : Nat} (values : Settled parseValue 0 fuel)
    (members : Settled parseMembers 0 fuel) : Settled parseMembers 0 (fuel + 1) := by
  intro input short
  rw [parseMembers, parseMembers]
  refine Option.bind_congr fun literal opened => Option.bind_congr fun key readKey =>
    Option.bind_congr fun rest colon => ?_
  have first := expect_shorter opened
  have second := parseLiteral_shorter readKey
  have third := expect_shorter colon
  rw [values rest (by omega)]
  refine Option.bind_congr fun value readValue => parseFollowing_congr fun after shorter => ?_
  have fourth := (parser_consumes fuel).1 _ _ readValue
  exact members after (by omega)

theorem parseElements_settled {fuel : Nat} (values : Settled parseValue 0 fuel)
    (elements : Settled parseElements 1 fuel) : Settled parseElements 1 (fuel + 1) := by
  intro input short
  rw [parseElements, parseElements, values input (by omega)]
  refine Option.bind_congr fun value readValue => parseFollowing_congr fun after shorter => ?_
  have first := (parser_consumes fuel).1 _ _ readValue
  exact elements after (by omega)

theorem parser_settled (fuel : Nat) : Settled parseValue 0 fuel ∧ Settled parseMembers 0 fuel ∧
    Settled parseElements 1 fuel := by
  induction fuel with
  | zero =>
      exact ⟨fun input short => absurd short (Nat.not_lt_zero _),
        fun input short => absurd short (Nat.not_lt_zero _),
        fun input short => absurd short (Nat.not_lt_zero _)⟩
  | succ fuel inductionHypothesis =>
      rcases inductionHypothesis with ⟨values, members, elements⟩
      exact ⟨parseValue_settled members elements, parseMembers_settled values members,
        parseElements_settled values elements⟩

/-- Whatever fuel exceeds that of `parse` gives the same value. -/
theorem parseValue_fuel {input : Text} {fuel : Nat} (enough : 2 * input.length < fuel) :
    parseValue fuel input = parseValue (2 * input.length + 1) input := by
  induction fuel with
  | zero => exact absurd enough (Nat.not_lt_zero _)
  | succ fuel inductionHypothesis =>
      rcases Nat.lt_or_ge (2 * input.length) fuel with more | last
      · rw [(parser_settled fuel).1 input more, inductionHypothesis more]
      · rw [Nat.le_antisymm last (Nat.le_of_lt_succ enough)]

/-! ## String literals

Every code unit is read back from what stands for it, so a literal is read back
up to its closing quotation mark. -/

theorem parseLiteral_unescaped {code : CodeUnit} (printable : ¬ code < 0x20)
    (notQuotation : code ≠ QUOTATION_MARK) (notSolidus : code ≠ REVERSE_SOLIDUS) (rest : Text) :
    parseLiteral .between (code :: rest) =
      (parseLiteral .between rest).map fun parsed => (code :: parsed.1, parsed.2) := by
  rw [parseLiteral, if_neg notQuotation, if_neg notSolidus, if_neg printable]

theorem hexDigit_hexCharacter {digit : Nat} (small : digit < 16) :
    hexDigit (hexCharacter digit) = some digit := by
  have each : forall digit : Fin 16, hexDigit (hexCharacter digit) = some digit.val := by decide
  exact each ⟨digit, small⟩

theorem parseLiteral_unicodeEscape (code : CodeUnit) (rest : Text) :
    parseLiteral .between (unicodeEscape code ++ rest) =
      (parseLiteral .between rest).map fun parsed => (code :: parsed.1, parsed.2) := by
  have bound := code.toNat_lt
  have whole : UInt16.ofNat ((((0 * 16 + code.toNat / 4096) * 16 + code.toNat / 256 % 16) * 16 +
      code.toNat / 16 % 16) * 16 + code.toNat % 16) = code := by
    rw [show (((0 * 16 + code.toNat / 4096) * 16 + code.toNat / 256 % 16) * 16 +
      code.toNat / 16 % 16) * 16 + code.toNat % 16 = code.toNat by omega]
    exact UInt16.ofNat_toNat
  simp only [unicodeEscape, List.cons_append, List.nil_append]
  rw [parseLiteral, if_neg (by decide), if_pos rfl, parseLiteral, if_pos rfl]
  rw [parseLiteral, hexDigit_hexCharacter (by omega), Option.bind_some, if_neg (by decide)]
  rw [parseLiteral, hexDigit_hexCharacter (by omega), Option.bind_some, if_neg (by decide)]
  rw [parseLiteral, hexDigit_hexCharacter (by omega), Option.bind_some, if_neg (by decide)]
  rw [parseLiteral, hexDigit_hexCharacter (by omega), Option.bind_some, if_pos rfl, whole]

theorem parseLiteral_solidus {code unit : CodeUnit} (letter : code ≠ 0x75)
    (stands : escaped code = some unit) (rest : Text) :
    parseLiteral .between (REVERSE_SOLIDUS :: code :: rest) =
      (parseLiteral .between rest).map fun parsed => (unit :: parsed.1, parsed.2) := by
  rw [parseLiteral, if_neg (by decide), if_pos rfl, parseLiteral, if_neg letter, stands,
    Option.bind_some]

/-- What stands for a code unit is read as this code unit. -/
theorem parseLiteral_escape (code : CodeUnit) (rest : Text) :
    parseLiteral .between (escape code ++ rest) =
      (parseLiteral .between rest).map fun parsed => (code :: parsed.1, parsed.2) := by
  unfold escape
  split
  · rename_i special
    refine parseLiteral_solidus ?_ ?_ rest
    · rcases special with rfl | rfl <;> decide
    · exact if_pos (special.imp_right .inl)
  · rename_i ordinary
    split
    · rename_i same
      exact same ▸ parseLiteral_solidus (by decide) (by decide) rest
    · split
      · rename_i same
        exact same ▸ parseLiteral_solidus (by decide) (by decide) rest
      · split
        · rename_i same
          exact same ▸ parseLiteral_solidus (by decide) (by decide) rest
        · split
          · rename_i same
            exact same ▸ parseLiteral_solidus (by decide) (by decide) rest
          · split
            · rename_i same
              exact same ▸ parseLiteral_solidus (by decide) (by decide) rest
            · split
              · exact parseLiteral_unicodeEscape code rest
              · rename_i plain
                exact parseLiteral_unescaped (fun small => plain (.inl small))
                  (fun same => ordinary (.inl same)) (fun same => ordinary (.inr same)) rest

/-- A code unit of a surrogate pair. -/
theorem parseLiteral_surrogate {code : CodeUnit}
    (surrogate : isLeadingSurrogate code = true ∨ isTrailingSurrogate code = true) (rest : Text) :
    parseLiteral .between (code :: rest) =
      (parseLiteral .between rest).map fun parsed => (code :: parsed.1, parsed.2) := by
  have high : 0xD800 ≤ code.toNat := by
    simp only [isLeadingSurrogate, isTrailingSurrogate, between, Bool.and_eq_true,
      decide_eq_true_eq, UInt16.le_iff_toNat_le] at surrogate
    rcases surrogate with ⟨leading, _⟩ | ⟨trailing, _⟩
    · exact leading
    · exact le_trans (by decide) trailing
  refine parseLiteral_unescaped (fun small => ?_) ?_ ?_ rest
  · exact absurd (UInt16.lt_iff_toNat_lt.1 small) (not_lt.2 (le_trans (by decide) high))
  · rintro rfl
    exact absurd high (by decide)
  · rintro rfl
    exact absurd high (by decide)

/-- A literal is read back up to its closing quotation mark. -/
theorem parseString_escapeAll (value rest : Text) :
    parseString (escapeAll value ++ QUOTATION_MARK :: rest) = some (value, rest) := by
  unfold parseString
  fun_induction escapeAll value with
  | case1 =>
      rw [List.nil_append, parseLiteral, if_pos rfl]
  | case2 code =>
      rw [parseLiteral_escape, parseLiteral, if_pos rfl]
      rfl
  | case3 code trailing after paired inductionHypothesis =>
      have both := (Bool.and_eq_true _ _).mp paired
      rw [List.cons_append, List.cons_append, parseLiteral_surrogate (.inl both.1),
        parseLiteral_surrogate (.inr both.2), inductionHypothesis]
      rfl
  | case4 code trailing after unpaired inductionHypothesis =>
      rw [List.append_assoc, parseLiteral_escape, inductionHypothesis]
      rfl

/-- Nothing follows a literal before its closing quotation mark. -/
theorem quote_append_inj {first second rest other : Text}
    (same : quote first ++ rest = quote second ++ other) : first = second ∧ rest = other := by
  have one := parseString_escapeAll first rest
  have two := parseString_escapeAll second other
  have tails : escapeAll first ++ QUOTATION_MARK :: rest =
      escapeAll second ++ QUOTATION_MARK :: other := by
    simp only [quote, List.cons_append, List.append_assoc, List.nil_append, List.cons.injEq,
      true_and] at same
    exact same
  rw [tails, two] at one
  exact ⟨(congrArg Prod.fst (Option.some.inj one)).symm, (congrArg Prod.snd (Option.some.inj one)).symm⟩

/-! ## What is rendered is parsed

Texts that need no escape are their own literals.  A value renders as a text
when the parser reads the value back from it in front of a comma or of the
bracket that closes an object; the members of an object render as soon as
their values do. -/

/-- A code unit that stands for itself inside a literal. -/
structure IsPlain (code : CodeUnit) : Prop where
  printable : ¬code < 0x20
  notQuotation : code ≠ QUOTATION_MARK
  notSolidus : code ≠ REVERSE_SOLIDUS
  notLeading : isLeadingSurrogate code = false
  notTrailing : isTrailingSurrogate code = false

theorem escape_plain {code : CodeUnit} (plain : IsPlain code) : escape code = [code] := by
  have control : forall character : CodeUnit, character < 0x20 -> code ≠ character :=
    fun character small same => plain.printable (same ▸ small)
  simp [escape, plain.notQuotation, plain.notSolidus, plain.printable, plain.notLeading,
    plain.notTrailing, control 0x08 (by decide), control 0x0C (by decide),
    control 0x0A (by decide), control 0x0D (by decide), control 0x09 (by decide)]

theorem escapeAll_plain {value : Text} (plain : forall code, code ∈ value -> IsPlain code) :
    escapeAll value = value := by
  induction value with
  | nil => rfl
  | cons code rest inductionHypothesis =>
      have first := plain code List.mem_cons_self
      have others := inductionHypothesis fun other member =>
        plain other (List.mem_cons_of_mem code member)
      cases rest with
      | nil => rw [escapeAll, escape_plain first]
      | cons trailing after =>
          rw [escapeAll, first.notLeading, Bool.false_and, if_neg (by decide), escape_plain first,
            others]
          rfl

theorem parseString_cons {code : CodeUnit} (plain : IsPlain code) (rest : Text) :
    parseString (code :: rest) =
      (parseString rest).map fun parsed => (code :: parsed.1, parsed.2) := by
  rw [parseString, parseLiteral, if_neg plain.notQuotation, if_neg plain.notSolidus,
    if_neg plain.printable]
  rfl

theorem parseString_plain {value : Text} (plain : forall code, code ∈ value -> IsPlain code)
    (rest : Text) : parseString (value ++ QUOTATION_MARK :: rest) = some (value, rest) := by
  induction value with
  | nil => rfl
  | cons code after inductionHypothesis =>
      have others := inductionHypothesis fun other member =>
        plain other (List.mem_cons_of_mem code member)
      rw [List.cons_append, parseString_cons (plain code List.mem_cons_self), others]
      rfl

theorem skip_cons {code : CodeUnit} (visible : isJsonWhitespace code = false) (rest : Text) :
    skip (code :: rest) = code :: rest := by
  rw [skip, List.dropWhile_cons, visible]
  rfl

theorem expect_cons {code : CodeUnit} (visible : isJsonWhitespace code = false) (rest : Text) :
    expect code (code :: rest) = some rest := by
  rw [expect, skip_cons visible]
  exact if_pos rfl

theorem expect_other {code other : CodeUnit} (visible : isJsonWhitespace other = false)
    (different : other ≠ code) (rest : Text) : expect code (other :: rest) = none := by
  rw [expect, skip_cons visible]
  exact if_neg different

/-- The parser reads `value` back from `rendered` inside an object. -/
def Renders (value : Json) (rendered : Text) : Prop :=
  forall fuel rest, parseValue (fuel + 1) (rendered ++ COMMA :: rest) =
      some (value, COMMA :: rest) ∧
    parseValue (fuel + 1) (rendered ++ RIGHT_CURLY_BRACKET :: rest) =
      some (value, RIGHT_CURLY_BRACKET :: rest)

theorem renders_quote {value : Text} (plain : forall code, code ∈ value -> IsPlain code) :
    Renders (.string value) (quote value) := by
  have parsed : forall fuel rest, parseValue (fuel + 1) (quote value ++ rest) =
      some (.string value, rest) := by
    intro fuel rest
    have literal : quote value ++ rest = QUOTATION_MARK :: (value ++ QUOTATION_MARK :: rest) := by
      simp only [quote, escapeAll_plain plain, List.cons_append, List.append_assoc,
        List.nil_append]
    rw [literal, parseValue, skip_cons (by decide)]
    simp only [if_true, parseString_plain plain rest, Option.map_some]
  exact fun fuel rest => ⟨parsed fuel _, parsed fuel _⟩

theorem renders_one : Renders (.number ⟨1, 0⟩) (text "1") := by
  intro fuel rest
  constructor <;> rfl

/-- A member of a rendered object. -/
structure Entry where
  key : Text
  value : Json
  rendered : Text
  plain : forall code, code ∈ key -> IsPlain code
  renders : Renders value rendered

def Entry.member (entry : Entry) : Text × Json := (entry.key, entry.value)

def Entry.source (entry : Entry) : Text × Text := (entry.key, entry.rendered)

theorem Entry.quote_append (entry : Entry) (rest : Text) :
    quote entry.key ++ COLON :: entry.rendered ++ rest =
      QUOTATION_MARK :: (entry.key ++ QUOTATION_MARK :: (COLON :: (entry.rendered ++ rest))) := by
  simp only [quote, escapeAll_plain entry.plain, List.cons_append, List.append_assoc,
    List.nil_append]

theorem parseMembers_last (entry : Entry) (fuel : Nat) (rest : Text) :
    parseMembers (fuel + 2)
        (quote entry.key ++ COLON :: entry.rendered ++ RIGHT_CURLY_BRACKET :: rest) =
      some ([entry.member], rest) := by
  rw [entry.quote_append, parseMembers, expect_cons (by decide)]
  simp only [Option.bind_eq_bind, Option.bind_some, parseString_plain entry.plain,
    expect_cons (show isJsonWhitespace COLON = false by decide), (entry.renders fuel rest).2,
    parseFollowing, expect_other (show isJsonWhitespace RIGHT_CURLY_BRACKET = false by decide)
      (show RIGHT_CURLY_BRACKET ≠ COMMA by decide),
    expect_cons (show isJsonWhitespace RIGHT_CURLY_BRACKET = false by decide)]
  rfl

theorem parseMembers_next (entry : Entry) (fuel : Nat) (rest : Text) :
    parseMembers (fuel + 2) (quote entry.key ++ COLON :: entry.rendered ++ COMMA :: rest) =
      (parseMembers (fuel + 1) rest).map fun more => (entry.member :: more.1, more.2) := by
  rw [entry.quote_append, parseMembers, expect_cons (by decide)]
  simp only [Option.bind_eq_bind, Option.bind_some, parseString_plain entry.plain,
    expect_cons (show isJsonWhitespace COLON = false by decide), (entry.renders fuel rest).1,
    parseFollowing, expect_cons (show isJsonWhitespace COMMA = false by decide)]
  rfl

/-- The members of an object are read back in their order. -/
theorem parseMembers_stringify (entry : Entry) (entries : List Entry) (fuel : Nat) (rest : Text) :
    parseMembers (fuel + entries.length + 2)
        (stringifyMembers ((entry :: entries).map Entry.source) ++ RIGHT_CURLY_BRACKET :: rest) =
      some ((entry :: entries).map Entry.member, rest) := by
  induction entries generalizing entry with
  | nil => exact parseMembers_last entry fuel rest
  | cons next entries inductionHypothesis =>
      have split : stringifyMembers ((entry :: next :: entries).map Entry.source) ++
          RIGHT_CURLY_BRACKET :: rest = quote entry.key ++ COLON :: entry.rendered ++
            COMMA :: (stringifyMembers ((next :: entries).map Entry.source) ++
              RIGHT_CURLY_BRACKET :: rest) := by
        simp only [List.map_cons, stringifyMembers, Entry.source, List.append_assoc,
          List.cons_append]
      rw [split]
      have later := inductionHypothesis next
      rw [List.length_cons, show fuel + (entries.length + 1) + 2 = fuel + entries.length + 1 + 2 by
        omega, parseMembers_next, show fuel + entries.length + 1 + 1 = fuel + entries.length + 2 by
        omega, later]
      rfl

theorem length_stringifyMembers (members : List (Text × Text)) :
    members.length ≤ (stringifyMembers members).length := by
  induction members with
  | nil => exact Nat.le_refl 0
  | cons member rest inductionHypothesis =>
      cases rest with
      | nil =>
          simp only [stringifyMembers, List.length_append, List.length_cons, List.length_nil]
          omega
      | cons next rest =>
          simp only [stringifyMembers, List.length_append, List.length_cons] at *
          omega

/-- A rendered object parses to its members. -/
theorem parse_stringifyObject (entry : Entry) (entries : List Entry) :
    Json.parse (stringifyObject ((entry :: entries).map Entry.source)) =
      some (.object ((entry :: entries).map Entry.member)) := by
  have long := length_stringifyMembers ((entry :: entries).map Entry.source)
  have enough : entries.length + 2 ≤
      2 * (stringifyObject ((entry :: entries).map Entry.source)).length := by
    simp only [stringifyObject, List.length_append, List.length_cons, List.length_nil,
      List.length_map] at long ⊢
    omega
  rcases Nat.exists_eq_add_of_le' enough with ⟨spare, fuel⟩
  have members := parseMembers_stringify entry entries spare []
  have opens : Exists fun rest =>
      stringifyMembers ((entry :: entries).map Entry.source) ++ [RIGHT_CURLY_BRACKET] =
        QUOTATION_MARK :: rest := by
    cases entries with
    | nil => exact ⟨_, entry.quote_append [RIGHT_CURLY_BRACKET]⟩
    | cons next entries =>
        simp only [List.map_cons, stringifyMembers, quote, List.cons_append, Entry.source]
        exact ⟨_, rfl⟩
  have nonempty : expect RIGHT_CURLY_BRACKET
      (stringifyMembers ((entry :: entries).map Entry.source) ++ [RIGHT_CURLY_BRACKET]) = none := by
    rcases opens with ⟨rest, starts⟩
    rw [starts]
    exact expect_other (by decide) (by decide) rest
  rw [Json.parse, fuel, ← Nat.add_assoc, stringifyObject, List.cons_append, parseValue, skip_cons (by decide)]
  simp only [if_true, show LEFT_CURLY_BRACKET ≠ QUOTATION_MARK by decide, if_false, nonempty,
    members, Option.map_some]
  rfl

end JavaScript
