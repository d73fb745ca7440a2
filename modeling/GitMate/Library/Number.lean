import GitMate.Library.Json
import GitMate.Library.Whitespace
import Mathlib.Data.Nat.Log
import Mathlib.Data.Rat.Floor
import Mathlib.Tactic.Linarith

namespace JavaScript

/-!
# Numbers and dates

A number is not a number, an infinity or a rational; of the rationals the
doubles are those that `Number.nearest` returns unchanged.  The two zeros are
one value here, which every comparison of the language agrees with.

A date holds a whole number of milliseconds of at most eight and a half
quadrillion in magnitude, or nothing: the constructor turns every number beyond
that range into an invalid date.
-/

inductive Number where
  | nan
  | infinite (negative : Bool)
  | finite (value : Rat)
  deriving DecidableEq

namespace Number

def negate : Number -> Number
  | .nan => .nan
  | .infinite negative => .infinite !negative
  | .finite value => .finite (-value)

/-! ## Rounding to doubles -/

def power (base : Nat) : Int -> Rat
  | .ofNat places => (base : Rat) ^ places
  | .negSucc places => 1 / (base : Rat) ^ (places + 1)

/-- The natural number nearest to a nonnegative rational, the even one of
two. -/
def roundHalfEven (value : Rat) : Nat :=
  let down := value.floor.toNat
  let part := value - down
  if part < 1 / 2 ∨ (part = 1 / 2 ∧ down % 2 = 0) then down else down + 1

/-- The exponent of the last power of two up to a positive rational. -/
def binaryExponent (value : Rat) : Int :=
  let guess := (value.num.natAbs.log2 : Int) - (value.den.log2 : Int)
  if power 2 guess ≤ value then guess else guess - 1

/-- The double nearest to a positive rational: 53 significant bits, fewer below
the smallest normal number. -/
def nearestPositive (value : Rat) : Number :=
  let unit := power 2 (max (binaryExponent value) (-1022) - 52)
  let rounded := roundHalfEven (value / unit) * unit
  if power 2 1024 ≤ rounded then .infinite false else .finite rounded

/-- The double nearest to a rational. -/
def nearest (value : Rat) : Number :=
  if value = 0 then .finite 0
  else if value < 0 then (nearestPositive (-value)).negate
  else nearestPositive value

theorem power_nonneg (base : Nat) (exponent : Int) : 0 ≤ power base exponent := by
  cases exponent with
  | ofNat places => exact pow_nonneg (Nat.cast_nonneg base) places
  | negSucc places =>
      exact div_nonneg zero_le_one (pow_nonneg (Nat.cast_nonneg base) (places + 1))

/-- Rounding does not cross zero. -/
theorem nearest_nonneg {value rounded : Rat} (nonneg : 0 ≤ value)
    (found : nearest value = .finite rounded) : 0 ≤ rounded := by
  unfold nearest at found
  split at found
  · exact (Number.finite.inj found) ▸ le_rfl
  · rw [if_neg (not_lt.2 nonneg)] at found
    unfold nearestPositive at found
    simp only at found
    split at found
    · cases found
    · rw [← Number.finite.inj found]
      exact mul_nonneg (Nat.cast_nonneg _) (power_nonneg _ _)

/-! ## Numbers from texts -/

/-- The digits after `0b`, `0o` or `0x`. -/
def parseRadix (radix : Nat) (digits : Text) : Number :=
  if digits = [] then .nan
  else
    let value := digits.foldlM (fun value code => (hexDigit code).bind fun digit =>
      if digit < radix then some (value * radix + digit) else none) 0
    match value with
    | some value => nearest (value : Nat)
    | none => .nan

/-- A decimal literal without a sign: digits around an optional point, at least
one of them, and an optional exponent. -/
def parseUnsignedDecimal (input : Text) : Number :=
  if input = text "Infinity" then .infinite false
  else
    let whole := input.span isDigit
    let fraction := match whole.2 with
      | [] => ([], [])
      | code :: rest => if code = FULL_STOP then rest.span isDigit else ([], code :: rest)
    if whole.1 = [] ∧ fraction.1 = [] then .nan
    else
      match parseExponent fraction.2 with
      | some (exponent, []) =>
          nearest (Decimal.value
            ⟨digitsValue (whole.1 ++ fraction.1), exponent - fraction.1.length⟩)
      | _ => .nan

/-- `Number(input)`. -/
def parse (input : Text) : Number :=
  match trim input with
  | [] => .finite 0
  | sign :: rest =>
      if sign = HYPHEN_MINUS then (parseUnsignedDecimal rest).negate
      else if sign = PLUS_SIGN then parseUnsignedDecimal rest
      else
        match sign :: rest with
        | 0x30 :: mark :: digits =>
            if mark = 0x62 ∨ mark = 0x42 then parseRadix 2 digits
            else if mark = 0x6F ∨ mark = 0x4F then parseRadix 8 digits
            else if mark = 0x78 ∨ mark = 0x58 then parseRadix 16 digits
            else parseUnsignedDecimal (sign :: rest)
        | literal => parseUnsignedDecimal literal

/-! ## Texts of numbers -/

/-- The least power of ten above a positive rational. -/
def decimalExponent (value : Rat) : Int :=
  if 1 ≤ value then (Nat.log 10 value.floor.toNat : Int) + 1
  else -(Nat.log 10 ((1 / value).ceil.toNat - 1) : Int)

/-- The fewest significant digits that are rounded to the double, and the power
of ten above the number they denote. -/
def shortestDigits (value : Rat) : Text × Int :=
  let exponent := decimalExponent value
  let candidates := (List.range 17).filterMap fun fewer =>
    let unit := power 10 (exponent - (fewer + 1 : Nat))
    let significand := roundHalfEven (value / unit)
    if nearest (significand * unit) = .finite value then some (significand, fewer + 1) else none
  match candidates with
  | [] => (text "0", 1)
  | (significand, count) :: _ =>
      if significand = 10 ^ count then (text "1", exponent + 1)
      else (text (toString significand), exponent)

/-- The text of a positive double: plain digits for up to 21 of them before the
point and up to six zeros behind it, an exponent otherwise. -/
def positiveText (value : Rat) : Text :=
  let (digits, exponent) := shortestDigits value
  let count : Int := digits.length
  if count ≤ exponent ∧ exponent ≤ 21 then
    digits ++ List.replicate (exponent - count).toNat 0x30
  else if 0 < exponent ∧ exponent ≤ 21 then
    digits.take exponent.toNat ++ FULL_STOP :: digits.drop exponent.toNat
  else if -6 < exponent ∧ exponent ≤ 0 then
    text "0." ++ List.replicate (-exponent).toNat 0x30 ++ digits
  else
    let sign := if exponent - 1 < 0 then HYPHEN_MINUS else PLUS_SIGN
    let mantissa := match digits with
      | first :: second :: rest => first :: FULL_STOP :: second :: rest
      | single => single
    mantissa ++ 0x65 :: sign :: text (toString (exponent - 1).natAbs)

/-- `String(number)`. -/
def toText : Number -> Text
  | .nan => text "NaN"
  | .infinite negative => text (if negative then "-Infinity" else "Infinity")
  | .finite value =>
      if value = 0 then text "0"
      else if value < 0 then HYPHEN_MINUS :: positiveText (-value)
      else positiveText value

end Number

/-! ## Dates -/

/-- The last millisecond of the range of dates. -/
def MAX_TIME : Nat := 8640000000000000

/-- The time value of a valid date. -/
structure Time where
  milliseconds : Int
  inRange : milliseconds.natAbs ≤ MAX_TIME
  deriving DecidableEq

/-- A date; `none` is the invalid one. -/
abbrev Date : Type := Option Time

namespace Date

/-- The date of a whole number of milliseconds. -/
def ofMilliseconds (milliseconds : Int) : Date :=
  if inRange : milliseconds.natAbs ≤ MAX_TIME then some ⟨milliseconds, inRange⟩ else none

/-- `new Date(number)`: a fraction of a millisecond is cut off. -/
def ofNumber : Number -> Date
  | .finite value =>
      ofMilliseconds (if value < 0 then -(-value).floor else value.floor)
  | _ => none

/-- `new Date(date.getTime() + milliseconds)` for a whole number that is small
enough for the sum to be exact. -/
def later (date : Date) (milliseconds : Int) : Date :=
  date.bind fun time => ofMilliseconds (time.milliseconds + milliseconds)

theorem ofMilliseconds_of_inRange {milliseconds : Int}
    (inRange : milliseconds.natAbs ≤ MAX_TIME) :
    ofMilliseconds milliseconds = some ⟨milliseconds, inRange⟩ :=
  dif_pos inRange

/-- A date moved ahead within the range. -/
theorem later_some {time : Time} {milliseconds : Int} (ahead : 0 ≤ milliseconds)
    (last : time.milliseconds + milliseconds ≤ MAX_TIME) :
    ∃ moved : Time, later (some time) milliseconds = some moved ∧
      moved.milliseconds = time.milliseconds + milliseconds := by
  have first := time.inRange
  have inRange : (time.milliseconds + milliseconds).natAbs ≤ MAX_TIME := by omega
  exact ⟨⟨_, inRange⟩, ofMilliseconds_of_inRange inRange, rfl⟩

end Date

end JavaScript
