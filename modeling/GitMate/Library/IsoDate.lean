import GitMate.Library.Number

namespace JavaScript

/-!
# Dates as texts

`date.toISOString()` writes the fields of a date in the proleptic Gregorian
calendar, and `new Date(text)` reads them back.  Days are counted from the
first of January of the year 1, where the cycle of four hundred years starts
that ends with its leap day; the last day of such a cycle, and of a century or
of four years in it, falls into the year before, hence the minima.

Only the format that is written is read here; what else the constructor
accepts is left to a parameter.
-/

/-! ## The order of dates -/

theorem Time.milliseconds_injective : Function.Injective Time.milliseconds := by
  intro first second same
  cases first
  cases second
  cases same
  rfl

instance : LinearOrder Time := LinearOrder.lift' Time.milliseconds Time.milliseconds_injective

/-! ## The calendar -/

def isLeapYear (year : Int) : Bool :=
  decide (year % 4 = 0) && (decide (year % 100 ≠ 0) || decide (year % 400 = 0))

/-- The days from the beginning of year 1 to the beginning of the year. -/
def daysBeforeYear (year : Int) : Int :=
  365 * (year - 1) + (year - 1) / 4 - (year - 1) / 100 + (year - 1) / 400

/-- The years of a century, of four years in it and of a single year. -/
structure YearParts where
  cycles : Int
  century : Nat
  four : Nat
  single : Nat
  century_le : century ≤ 3
  four_le : four ≤ 24
  single_le : single ≤ 3

namespace YearParts

def year (parts : YearParts) : Int :=
  parts.cycles * 400 + parts.century * 100 + parts.four * 4 + parts.single + 1

theorem daysBeforeYear_year (parts : YearParts) : daysBeforeYear parts.year =
    146097 * parts.cycles + 36524 * parts.century + 1461 * parts.four + 365 * parts.single := by
  rcases parts with ⟨cycles, century, four, single, centuryLe, fourLe, singleLe⟩
  have quarters : (cycles * 400 + century * 100 + four * 4 + single + 1 - 1) / 4 =
      100 * cycles + 25 * century + four := by omega
  have centuries : (cycles * 400 + century * 100 + four * 4 + single + 1 - 1) / 100 =
      4 * cycles + century := by omega
  have whole : (cycles * 400 + century * 100 + four * 4 + single + 1 - 1) / 400 = cycles := by
    omega
  unfold daysBeforeYear year
  simp only
  rw [quarters, centuries, whole]
  omega

/-- The last year of four is a leap year, but not at the end of a century,
except for the fourth. -/
theorem isLeapYear_year {parts : YearParts} (last : parts.single = 3)
    (full : parts.four ≠ 24 ∨ parts.century = 3) : isLeapYear parts.year = true := by
  rcases parts with ⟨cycles, century, four, single, centuryLe, fourLe, singleLe⟩
  simp only at last full
  unfold isLeapYear year
  simp only [Bool.and_eq_true, Bool.or_eq_true, decide_eq_true_eq]
  omega

end YearParts

/-- The year of a day, and the days before it in this year. -/
def splitYear (day : Int) : YearParts × Nat :=
  let inCycle := (day % 146097).toNat
  let century := min 3 (inCycle / 36524)
  let inCentury := inCycle - 36524 * century
  let inFour := inCentury % 1461
  let single := min 3 (inFour / 365)
  (⟨day / 146097, century, inCentury / 1461, single, Nat.min_le_left _ _, by omega,
    Nat.min_le_left _ _⟩, inFour - 365 * single)

theorem daysBeforeYear_splitYear (day : Int) :
    daysBeforeYear (splitYear day).1.year + (splitYear day).2 = day := by
  rw [YearParts.daysBeforeYear_year]
  unfold splitYear
  simp only
  omega

theorem splitYear_inside (day : Int) :
    (splitYear day).2 < 365 ∨
      (splitYear day).2 = 365 ∧ isLeapYear (splitYear day).1.year = true := by
  by_cases short : (splitYear day).2 < 365
  · exact .inl short
  · have parts : (splitYear day).2 = 365 ∧ (splitYear day).1.single = 3 ∧
        ((splitYear day).1.four ≠ 24 ∨ (splitYear day).1.century = 3) := by
      unfold splitYear at short ⊢
      simp only at short ⊢
      omega
    exact .inr ⟨parts.1, YearParts.isLeapYear_year parts.2.1 parts.2.2⟩

def monthLengths (year : Int) : List Nat :=
  [31, if isLeapYear year then 29 else 28, 31, 30, 31, 30, 31, 31, 30, 31, 30, 31]

/-- The first of the lengths that the day falls into, and the days before it
there. -/
def splitMonth : List Nat -> Nat -> Nat × Nat
  | [], day => (0, day)
  | length :: rest, day =>
      if day < length then (0, day)
      else ((splitMonth rest (day - length)).1 + 1, (splitMonth rest (day - length)).2)

theorem splitMonth_spec {lengths : List Nat} {day : Nat} (inside : day < lengths.sum) :
    (lengths.take (splitMonth lengths day).1).sum + (splitMonth lengths day).2 = day ∧
      Exists fun length => lengths[(splitMonth lengths day).1]? = some length ∧
        (splitMonth lengths day).2 < length := by
  induction lengths generalizing day with
  | nil => exact absurd inside (Nat.not_lt_zero day)
  | cons length rest inductionHypothesis =>
      unfold splitMonth
      split
      · rename_i here
        exact ⟨Nat.zero_add day, length, rfl, here⟩
      · rename_i beyond
        rw [List.sum_cons] at inside
        rcases @inductionHypothesis (day - length) (by omega) with ⟨whole, found⟩
        refine ⟨?_, found⟩
        simp only [List.take_succ_cons, List.sum_cons]
        omega

/-! ## The fields of a date -/

structure DateFields where
  year : Int
  /-- From 0 for January. -/
  month : Nat
  /-- From 0 for the first of the month. -/
  day : Nat
  hours : Nat
  minutes : Nat
  seconds : Nat
  milliseconds : Nat
  deriving DecidableEq

/-- The day of the epoch, 1 January 1970. -/
def EPOCH_DAY : Int := 719162

namespace DateFields

def ofMilliseconds (time : Int) : DateFields :=
  let date := splitYear (time / 86400000 + EPOCH_DAY)
  let inYear := splitMonth (monthLengths date.1.year) date.2
  let inDay := (time % 86400000).toNat
  ⟨date.1.year, inYear.1, inYear.2, inDay / 3600000, inDay / 60000 % 60, inDay / 1000 % 60,
    inDay % 1000⟩

def toMilliseconds (fields : DateFields) : Int :=
  (daysBeforeYear fields.year + ((monthLengths fields.year).take fields.month).sum + fields.day -
      EPOCH_DAY) * 86400000 +
    fields.hours * 3600000 + fields.minutes * 60000 + fields.seconds * 1000 + fields.milliseconds

/-- The fields of an existing date. -/
def IsValid (fields : DateFields) : Prop :=
  fields.day < ((monthLengths fields.year)[fields.month]?).getD 0 ∧ fields.hours < 24 ∧
    fields.minutes < 60 ∧ fields.seconds < 60 ∧ fields.milliseconds < 1000

instance (fields : DateFields) : Decidable fields.IsValid := inferInstanceAs (Decidable (_ ∧ _))

theorem splitMonth_year (day : Int) :
    (splitYear day).2 < (monthLengths (splitYear day).1.year).sum := by
  have inside := splitYear_inside day
  unfold monthLengths
  cases leap : isLeapYear (splitYear day).1.year with
  | true =>
      change _ < 366
      omega
  | false =>
      change _ < 365
      rw [leap] at inside
      exact inside.resolve_right fun both => Bool.noConfusion both.2

theorem isValid_ofMilliseconds (time : Int) : (ofMilliseconds time).IsValid := by
  refine ⟨?_, ?_, ?_, ?_, ?_⟩
  · rcases (splitMonth_spec (splitMonth_year (time / 86400000 + EPOCH_DAY))).2 with
      ⟨length, found, inside⟩
    exact lt_of_lt_of_eq inside (congrArg (Option.getD · 0) found).symm
  · change (time % 86400000).toNat / 3600000 < 24
    omega
  · exact Nat.mod_lt _ (by decide)
  · exact Nat.mod_lt _ (by decide)
  · exact Nat.mod_lt _ (by decide)

/-- The fields determine the time. -/
theorem toMilliseconds_ofMilliseconds (time : Int) :
    (ofMilliseconds time).toMilliseconds = time := by
  have year := daysBeforeYear_splitYear (time / 86400000 + EPOCH_DAY)
  have month := (splitMonth_spec (splitMonth_year (time / 86400000 + EPOCH_DAY))).1
  unfold toMilliseconds ofMilliseconds
  simp only
  generalize splitYear (time / 86400000 + EPOCH_DAY) = date at year month
  generalize splitMonth (monthLengths date.1.year) date.2 = inYear at month
  omega

end DateFields

/-! ## Writing -/

/-- A number with leading zeros. -/
def padded : Nat -> Nat -> Text
  | 0, _ => []
  | width + 1, number => padded width (number / 10) ++ [UInt16.ofNat (0x30 + number % 10)]

def LATIN_CAPITAL_T : CodeUnit := 0x54
def LATIN_CAPITAL_Z : CodeUnit := 0x5A

/-- Four digits, or a sign and six. -/
def yearText (year : Int) : Text :=
  if 0 ≤ year ∧ year ≤ 9999 then padded 4 year.toNat
  else (if year < 0 then HYPHEN_MINUS else PLUS_SIGN) :: padded 6 year.natAbs

def DateFields.toText (fields : DateFields) : Text :=
  yearText fields.year ++ HYPHEN_MINUS :: (padded 2 (fields.month + 1) ++ HYPHEN_MINUS ::
    (padded 2 (fields.day + 1) ++ LATIN_CAPITAL_T :: (padded 2 fields.hours ++ COLON ::
      (padded 2 fields.minutes ++ COLON :: (padded 2 fields.seconds ++ FULL_STOP ::
        (padded 3 fields.milliseconds ++ [LATIN_CAPITAL_Z]))))))

/-- `date.toISOString()`. -/
def Time.toISOString (time : Time) : Text :=
  (DateFields.ofMilliseconds time.milliseconds).toText

/-! ## Reading -/

def readDigits (width : Nat) (input : Text) : Option (Nat × Text) :=
  if (input.take width).length = width ∧ (input.take width).all isDigit = true then
    some (digitsValue (input.take width), input.drop width)
  else none

def readMark (mark : CodeUnit) : Text -> Option Text
  | code :: rest => if code = mark then some rest else none
  | [] => none

def readYear : Text -> Option (Int × Text)
  | [] => none
  | sign :: rest =>
      if sign = PLUS_SIGN then (readDigits 6 rest).map fun found => ((found.1 : Int), found.2)
      else if sign = HYPHEN_MINUS then
        (readDigits 6 rest).map fun found => (-(found.1 : Int), found.2)
      else (readDigits 4 (sign :: rest)).map fun found => ((found.1 : Int), found.2)

/-- The fields that a text in the format denotes. -/
def readFields (input : Text) : Option DateFields := do
  let (year, rest) <- readYear input
  let (month, rest) <- (readMark HYPHEN_MINUS rest).bind (readDigits 2)
  let (day, rest) <- (readMark HYPHEN_MINUS rest).bind (readDigits 2)
  let (hours, rest) <- (readMark LATIN_CAPITAL_T rest).bind (readDigits 2)
  let (minutes, rest) <- (readMark COLON rest).bind (readDigits 2)
  let (seconds, rest) <- (readMark COLON rest).bind (readDigits 2)
  let (milliseconds, rest) <- (readMark FULL_STOP rest).bind (readDigits 3)
  let fields : DateFields := ⟨year, month - 1, day - 1, hours, minutes, seconds, milliseconds⟩
  if rest = [LATIN_CAPITAL_Z] ∧ 0 < month ∧ 0 < day ∧ fields.IsValid then some fields else none

/-- `new Date(input)`; what is not in the format is left to `other`. -/
def Date.parse (other : Text -> Date) (input : Text) : Date :=
  match readFields input with
  | some fields => Date.ofMilliseconds fields.toMilliseconds
  | none => other input

/-! ## What is written is read -/

theorem length_padded (width number : Nat) : (padded width number).length = width := by
  induction width generalizing number with
  | zero => rfl
  | succ width inductionHypothesis => rw [padded, List.length_append, inductionHypothesis]; rfl

theorem toNat_digit {digit : Nat} (small : digit < 10) :
    (UInt16.ofNat (0x30 + digit)).toNat = 0x30 + digit := by
  rw [UInt16.toNat_ofNat', Nat.mod_eq_of_lt (by omega)]

theorem isDigit_of_mem_padded {width number : Nat} {code : CodeUnit}
    (member : code ∈ padded width number) : isDigit code = true := by
  induction width generalizing number with
  | zero => cases member
  | succ width inductionHypothesis =>
      rcases List.mem_append.1 member with before | last
      · exact inductionHypothesis before
      · have value := toNat_digit (Nat.mod_lt number (by decide : 0 < 10))
        have small := Nat.mod_lt number (by decide : 0 < 10)
        rw [List.mem_singleton.1 last]
        simp only [isDigit, between, Bool.and_eq_true, decide_eq_true_eq, UInt16.le_iff_toNat_le,
          value]
        change 48 ≤ 48 + number % 10 ∧ 48 + number % 10 ≤ 57
        omega

theorem digitsValue_padded {width number : Nat} (small : number < 10 ^ width) :
    digitsValue (padded width number) = number := by
  induction width generalizing number with
  | zero =>
      rw [pow_zero, Nat.lt_one_iff] at small
      rw [small]
      rfl
  | succ width inductionHypothesis =>
      have fewer : number / 10 < 10 ^ width := by
        rw [pow_succ] at small
        omega
      have shorter := inductionHypothesis fewer
      unfold digitsValue at shorter ⊢
      rw [padded, List.foldl_append, shorter, List.foldl_cons, List.foldl_nil,
        toNat_digit (Nat.mod_lt number (by decide))]
      omega

theorem readDigits_padded {width number : Nat} (small : number < 10 ^ width) (rest : Text) :
    readDigits width (padded width number ++ rest) = some (number, rest) := by
  unfold readDigits
  rw [List.take_left' (length_padded width number), List.drop_left' (length_padded width number),
    digitsValue_padded small]
  exact if_pos ⟨length_padded width number,
    List.all_eq_true.2 fun code member => isDigit_of_mem_padded member⟩

theorem readMark_cons (mark : CodeUnit) (rest : Text) : readMark mark (mark :: rest) = some rest :=
  if_pos rfl

theorem readYear_cons (sign : CodeUnit) (rest : Text) : readYear (sign :: rest) =
    if sign = PLUS_SIGN then (readDigits 6 rest).map fun found => ((found.1 : Int), found.2)
    else if sign = HYPHEN_MINUS then
      (readDigits 6 rest).map fun found => (-(found.1 : Int), found.2)
    else (readDigits 4 (sign :: rest)).map fun found => ((found.1 : Int), found.2) := rfl

theorem readYear_yearText {year : Int} (small : year.natAbs < 10 ^ 6) (rest : Text) :
    readYear (yearText year ++ rest) = some (year, rest) := by
  unfold yearText
  split
  · rename_i usual
    have digits : year.toNat < 10 ^ 4 := by omega
    have read := readDigits_padded digits rest
    have value : ((year.toNat : Nat) : Int) = year := Int.toNat_of_nonneg usual.1
    cases shown : padded 4 year.toNat ++ rest with
    | nil => simp [padded] at shown
    | cons first others =>
        have digit : isDigit first = true := by
          refine @isDigit_of_mem_padded 4 year.toNat first ?_
          cases first' : padded 4 year.toNat with
          | nil => simp [padded] at first'
          | cons code codes =>
              rw [first', List.cons_append] at shown
              rw [(List.cons.inj shown).1]
              exact List.mem_cons_self
        have apart : first ≠ PLUS_SIGN ∧ first ≠ HYPHEN_MINUS := by
          constructor <;> (intro same; rw [same] at digit; revert digit; decide)
        rw [readYear_cons, if_neg apart.1, if_neg apart.2, ← shown, read]
        exact congrArg (fun value => some (value, rest)) value
  · split
    · rename_i negative
      have sign : HYPHEN_MINUS ≠ PLUS_SIGN := by decide
      rw [List.cons_append, readYear_cons, if_neg sign, if_pos rfl, readDigits_padded small]
      refine congrArg (fun value => some (value, rest)) ?_
      omega
    · rename_i unusual positive
      rw [List.cons_append, readYear_cons, if_pos rfl, readDigits_padded small]
      refine congrArg (fun value => some (value, rest)) ?_
      omega

theorem readFields_toText {fields : DateFields} (valid : fields.IsValid)
    (year : fields.year.natAbs < 10 ^ 6) (month : fields.month < 12) (day : fields.day < 31) :
    readFields fields.toText = some fields := by
  have two : forall {number : Nat}, number < 100 -> number < 10 ^ 2 := fun small => small
  unfold readFields DateFields.toText
  rw [readYear_yearText year]
  simp only [Option.bind_eq_bind, Option.bind_some, readMark_cons]
  rw [readDigits_padded (two (by omega))]
  simp only [Option.bind_some, readMark_cons]
  rw [readDigits_padded (two (by omega))]
  simp only [Option.bind_some, readMark_cons]
  rw [readDigits_padded (two (by have := valid.2.1; omega))]
  simp only [Option.bind_some, readMark_cons]
  rw [readDigits_padded (two (by have := valid.2.2.1; omega))]
  simp only [Option.bind_some, readMark_cons]
  rw [readDigits_padded (two (by have := valid.2.2.2.1; omega))]
  simp only [Option.bind_some, readMark_cons]
  rw [readDigits_padded (by have := valid.2.2.2.2; omega)]
  simp only [Option.bind_some, Nat.add_sub_cancel]
  exact if_pos ⟨trivial, Nat.succ_pos _, Nat.succ_pos _, valid⟩

/-- The years of the range of dates have six digits at most. -/
theorem natAbs_year {time : Time} :
    (DateFields.ofMilliseconds time.milliseconds).year.natAbs < 10 ^ 6 := by
  have inRange := time.inRange
  unfold MAX_TIME at inRange
  change ((splitYear (time.milliseconds / 86400000 + EPOCH_DAY)).1.year).natAbs < 10 ^ 6
  have whole := daysBeforeYear_splitYear (time.milliseconds / 86400000 + EPOCH_DAY)
  have rest := splitYear_inside (time.milliseconds / 86400000 + EPOCH_DAY)
  unfold daysBeforeYear at whole
  unfold EPOCH_DAY at whole rest ⊢
  omega

theorem month_lt_twelve {fields : DateFields} (valid : fields.IsValid) :
    fields.month < 12 ∧ fields.day < 31 := by
  have here := valid.1
  cases found : (monthLengths fields.year)[fields.month]? with
  | none =>
      rw [found] at here
      exact absurd here (Nat.not_lt_zero _)
  | some length =>
      rw [found, Option.getD_some] at here
      have member : length ∈ monthLengths fields.year := List.mem_of_getElem? found
      have bound : length ≤ 31 := by
        unfold monthLengths at member
        simp only [List.mem_cons, List.not_mem_nil, or_false] at member
        split at member <;> omega
      rcases List.getElem?_eq_some_iff.1 found with ⟨inside, _⟩
      exact ⟨inside, lt_of_lt_of_le here bound⟩

/-- Every date is read back from its text. -/
theorem Date.parse_toISOString (other : Text -> Date) (time : Time) :
    Date.parse other time.toISOString = some time := by
  have valid := DateFields.isValid_ofMilliseconds time.milliseconds
  have bounds := month_lt_twelve valid
  unfold Date.parse Time.toISOString
  rw [readFields_toText valid natAbs_year bounds.1 bounds.2]
  change Date.ofMilliseconds (DateFields.ofMilliseconds time.milliseconds).toMilliseconds = _
  rw [DateFields.toMilliseconds_ofMilliseconds, Date.ofMilliseconds_of_inRange time.inRange]

/-- The text of a date has ASCII characters that need no escape. -/
theorem plain_toISOString (time : Time) {code : CodeUnit} (member : code ∈ time.toISOString) :
    isDigit code = true ∨ code ∈ [HYPHEN_MINUS, PLUS_SIGN, LATIN_CAPITAL_T, COLON, FULL_STOP,
      LATIN_CAPITAL_Z] := by
  unfold Time.toISOString DateFields.toText yearText at member
  have digit := @isDigit_of_mem_padded
  split at member
  · simp only [List.mem_append, List.mem_cons, List.not_mem_nil, or_false] at member ⊢
    grind
  · simp only [List.mem_append, List.mem_cons, List.not_mem_nil, or_false] at member ⊢
    grind

end JavaScript
