import GitMate.Library.Json

namespace JavaScript

/-!
# Texts as bytes

UTF-8 of a string of code units, and the URL variant of base 64 without
padding.  Three bytes become four characters, so a prefix of the encoded text
depends on a prefix of the bytes only.
-/

abbrev Byte : Type := UInt8

abbrev Bytes : Type := List Byte

/-! ## UTF-8 -/

/-- The encoding of a code point; one that is not a scalar value does not
occur in what `utf8` encodes. -/
def encodeCodePoint (point : Nat) : Bytes :=
  if point < 0x80 then [UInt8.ofNat point]
  else if point < 0x800 then
    [UInt8.ofNat (0xC0 + point / 64), UInt8.ofNat (0x80 + point % 64)]
  else if point < 0x10000 then
    [UInt8.ofNat (0xE0 + point / 4096), UInt8.ofNat (0x80 + point / 64 % 64),
      UInt8.ofNat (0x80 + point % 64)]
  else
    [UInt8.ofNat (0xF0 + point / 262144), UInt8.ofNat (0x80 + point / 4096 % 64),
      UInt8.ofNat (0x80 + point / 64 % 64), UInt8.ofNat (0x80 + point % 64)]

/-- A surrogate without its partner becomes the replacement character. -/
def encodeUnit (code : CodeUnit) : Bytes :=
  if isLeadingSurrogate code || isTrailingSurrogate code then encodeCodePoint 0xFFFD
  else encodeCodePoint code.toNat

/-- `Buffer.from(text, 'utf8')`. -/
def utf8 : Text -> Bytes
  | [] => []
  | [code] => encodeUnit code
  | code :: trailing :: after =>
      if isLeadingSurrogate code && isTrailingSurrogate trailing then
        encodeCodePoint
          (0x10000 + (code.toNat - 0xD800) * 1024 + (trailing.toNat - 0xDC00)) ++ utf8 after
      else encodeUnit code ++ utf8 (trailing :: after)

theorem encodeCodePoint_length_pos (point : Nat) : 0 < (encodeCodePoint point).length := by
  unfold encodeCodePoint
  split
  · exact Nat.zero_lt_one
  · split
    · exact Nat.zero_lt_two
    · split
      · exact Nat.zero_lt_succ 2
      · exact Nat.zero_lt_succ 3

theorem encodeUnit_length_pos (code : CodeUnit) : 0 < (encodeUnit code).length := by
  unfold encodeUnit
  split <;> exact encodeCodePoint_length_pos _

/-- A code point beyond the first plane takes four bytes. -/
theorem encodeCodePoint_length_pair {point : Nat} (beyond : 0x10000 ≤ point) :
    (encodeCodePoint point).length = 4 := by
  unfold encodeCodePoint
  rw [if_neg (by omega), if_neg (by omega), if_neg (by omega)]
  rfl

/-- Every code unit takes at least one byte. -/
theorem length_le_utf8 (text : Text) : text.length ≤ (utf8 text).length := by
  fun_induction utf8 text with
  | case1 => exact Nat.le_refl 0
  | case2 code => exact encodeUnit_length_pos code
  | case3 code trailing after paired inductionHypothesis =>
      rw [List.length_append, encodeCodePoint_length_pair (by omega)]
      simp only [List.length_cons]
      omega
  | case4 code trailing after separate inductionHypothesis =>
      have first := encodeUnit_length_pos code
      rw [List.length_append]
      simp only [List.length_cons] at inductionHypothesis ⊢
      omega

/-- After a code unit that starts no surrogate pair, the encoding starts
afresh. -/
theorem utf8_append (front : Text) {code : CodeUnit} (rest : Text)
    (complete : isLeadingSurrogate code = false) :
    utf8 (front ++ code :: rest) = utf8 (front ++ [code]) ++ utf8 rest := by
  fun_induction utf8 front with
  | case1 =>
      cases rest with
      | nil => simp only [List.nil_append, utf8, List.append_nil]
      | cons next after =>
          simp only [List.nil_append, utf8, complete, Bool.false_and, Bool.false_eq_true, if_false]
  | case2 first =>
      have alone : utf8 (code :: rest) = encodeUnit code ++ utf8 rest := by
        cases rest with
        | nil => simp only [utf8, List.append_nil]
        | cons next after =>
            simp only [utf8, complete, Bool.false_and, Bool.false_eq_true, if_false]
      by_cases paired : (isLeadingSurrogate first && isTrailingSurrogate code) = true
      · simp only [List.cons_append, List.nil_append, utf8, paired, if_true, List.append_nil]
      · simp only [List.cons_append, List.nil_append, utf8, paired, Bool.false_eq_true, if_false,
          alone, List.append_assoc]
  | case3 first trailing after paired inductionHypothesis =>
      simp only [List.cons_append, utf8, paired, if_true, inductionHypothesis, List.append_assoc]
  | case4 first trailing after separate inductionHypothesis =>
      simp only [List.cons_append] at inductionHypothesis
      simp only [List.cons_append, utf8, separate, Bool.false_eq_true, if_false,
        inductionHypothesis, List.append_assoc]

/-! ## Base 64 -/

/-- The alphabet `A-Z a-z 0-9 - _`, as bytes. -/
def base64urlCharacter (digit : Nat) : Byte :=
  if digit < 26 then UInt8.ofNat (0x41 + digit)
  else if digit < 52 then UInt8.ofNat (0x61 + (digit - 26))
  else if digit < 62 then UInt8.ofNat (0x30 + (digit - 52))
  else if digit = 62 then 0x2D
  else 0x5F

/-- The characters of three bytes. -/
def base64urlGroup (first second third : Byte) : Bytes :=
  [ base64urlCharacter (first.toNat / 4),
    base64urlCharacter (first.toNat % 4 * 16 + second.toNat / 16),
    base64urlCharacter (second.toNat % 16 * 4 + third.toNat / 64),
    base64urlCharacter (third.toNat % 64) ]

/-- `buffer.toString('base64url')`; a last group of one or two bytes is
filled up with zero bits. -/
def base64url : Bytes -> Bytes
  | [] => []
  | [first] => (base64urlGroup first 0 0).take 2
  | [first, second] => (base64urlGroup first second 0).take 3
  | first :: second :: third :: rest => base64urlGroup first second third ++ base64url rest

/-- The first `4 * groups` characters depend on the first `3 * groups` bytes
only. -/
theorem take_base64url (groups : Nat) (front rest : Bytes) (length : front.length = 3 * groups) :
    base64url (front ++ rest) = base64url front ++ base64url rest ∧
      (base64url front).length = 4 * groups := by
  induction groups generalizing front with
  | zero =>
      cases List.eq_nil_of_length_eq_zero length
      exact ⟨rfl, rfl⟩
  | succ groups inductionHypothesis =>
      match front, length with
      | first :: second :: third :: front, length =>
          have shorter : front.length = 3 * groups := by
            simp only [List.length_cons] at length
            omega
          rcases inductionHypothesis front shorter with ⟨split, measured⟩
          refine ⟨?_, ?_⟩
          · simp only [List.cons_append, base64url, split, List.append_assoc]
          · simp only [base64url, List.length_append, measured]
            change 4 + 4 * groups = 4 * (groups + 1)
            omega
      | [], length | [first], length | [first, second], length =>
          simp only [List.length_cons, List.length_nil] at length
          omega

/-- Texts of bytes that agree on `3 * groups` bytes are encoded with the same
first `4 * groups` characters. -/
theorem take_base64url_congr {groups : Nat} {left right : Bytes}
    (leftLong : 3 * groups ≤ left.length) (rightLong : 3 * groups ≤ right.length)
    (agree : left.take (3 * groups) = right.take (3 * groups)) :
    (base64url left).take (4 * groups) = (base64url right).take (4 * groups) := by
  have one := take_base64url groups (left.take (3 * groups)) (left.drop (3 * groups))
    (List.length_take_of_le leftLong)
  have other := take_base64url groups (right.take (3 * groups)) (right.drop (3 * groups))
    (List.length_take_of_le rightLong)
  rw [List.take_append_drop] at one other
  rw [one.1, other.1, List.take_left' one.2, List.take_left' other.2, agree]

/-! ## Reading UTF-8 -/

def REPLACEMENT_CHARACTER : CodeUnit := 0xFFFD

/-- The code units of a code point. -/
def unitsOf (point : Nat) : Text :=
  if point < 0x10000 then [UInt16.ofNat point]
  else [UInt16.ofNat (0xD800 + (point - 0x10000) / 1024),
    UInt16.ofNat (0xDC00 + (point - 0x10000) % 1024)]

/-- Between two characters, or in the middle of one: how many bytes are still
to come, what has been read, and the range of the next byte. -/
inductive Utf8State where
  | between
  | inside (needed point : Nat) (lower upper : Byte)

/-- A byte at the beginning of a character. -/
def startCharacter (byte : Byte) : Text × Utf8State :=
  if byte < 0x80 then ([UInt16.ofNat byte.toNat], .between)
  else if byte < 0xC2 then ([REPLACEMENT_CHARACTER], .between)
  else if byte < 0xE0 then ([], .inside 1 (byte.toNat - 0xC0) 0x80 0xBF)
  else if byte < 0xF0 then
    ([], .inside 2 (byte.toNat - 0xE0) (if byte = 0xE0 then 0xA0 else 0x80)
      (if byte = 0xED then 0x9F else 0xBF))
  else if byte < 0xF5 then
    ([], .inside 3 (byte.toNat - 0xF0) (if byte = 0xF0 then 0x90 else 0x80)
      (if byte = 0xF4 then 0x8F else 0xBF))
  else ([REPLACEMENT_CHARACTER], .between)

/-- Every maximal part of a character that is not continued becomes one
replacement character. -/
def decodeFrom : Utf8State -> Bytes -> Text
  | .between, [] => []
  | .inside _ _ _ _, [] => [REPLACEMENT_CHARACTER]
  | .between, byte :: rest =>
      (startCharacter byte).1 ++ decodeFrom (startCharacter byte).2 rest
  | .inside needed point lower upper, byte :: rest =>
      if lower ≤ byte ∧ byte ≤ upper then
        if needed = 1 then unitsOf (point * 64 + byte.toNat % 64) ++ decodeFrom .between rest
        else decodeFrom (.inside (needed - 1) (point * 64 + byte.toNat % 64) 0x80 0xBF) rest
      else
        REPLACEMENT_CHARACTER :: (startCharacter byte).1 ++ decodeFrom (startCharacter byte).2 rest

/-- `buffer.toString('utf8')`. -/
def decodeUtf8 (bytes : Bytes) : Text := decodeFrom .between bytes

/-- A text of ASCII characters is read back. -/
theorem decodeUtf8_utf8 {text : Text} (ascii : forall code, code ∈ text -> code < 0x80) :
    decodeUtf8 (utf8 text) = text := by
  have unit : forall code : CodeUnit, code < 0x80 ->
      encodeUnit code = [UInt8.ofNat code.toNat] ∧ isLeadingSurrogate code = false := by
    intro code small
    have bound : code.toNat < 128 := UInt16.lt_iff_toNat_lt.1 small
    have apart : forall first last : CodeUnit, 128 ≤ first.toNat ->
        between first last code = false := by
      intro first last above
      have less : ¬ first ≤ code := fun least => by
        have := UInt16.le_iff_toNat_le.1 least
        omega
      rw [between, decide_eq_false less, Bool.false_and]
    refine ⟨?_, apart _ _ (by decide)⟩
    rw [encodeUnit, isLeadingSurrogate, isTrailingSurrogate, apart _ _ (by decide),
      apart _ _ (by decide), Bool.or_self, if_neg Bool.false_ne_true]
    exact if_pos bound
  have split : forall (code : CodeUnit) (rest : Text), code < 0x80 ->
      utf8 (code :: rest) = UInt8.ofNat code.toNat :: utf8 rest := by
    intro code rest small
    cases rest with
    | nil => exact (unit code small).1
    | cons next after =>
        rw [utf8, (unit code small).2, Bool.false_and, if_neg Bool.false_ne_true,
          (unit code small).1]
        rfl
  induction text with
  | nil => rfl
  | cons code rest inductionHypothesis =>
      have small := ascii code List.mem_cons_self
      have bound : code.toNat < 128 := UInt16.lt_iff_toNat_lt.1 small
      have back : (UInt8.ofNat code.toNat).toNat = code.toNat :=
        UInt8.toNat_ofNat_of_lt' (bound.trans (by decide))
      have start : startCharacter (UInt8.ofNat code.toNat) = ([code], .between) := by
        have less : UInt8.ofNat code.toNat < 0x80 :=
          UInt8.lt_iff_toNat_lt.2 (by rw [back]; exact bound)
        rw [startCharacter, if_pos less, back, UInt16.ofNat_toNat]
      have onward := inductionHypothesis fun other member =>
        ascii other (List.mem_cons_of_mem code member)
      rw [split code rest small, decodeUtf8, decodeFrom, start]
      exact congrArg (code :: ·) onward

/-! ## Reading base 64 -/

/-- The characters of encoded bytes. -/
def characters (encoded : Bytes) : Text := encoded.map fun byte => UInt16.ofNat byte.toNat

/-- The digit of a character of either alphabet; other characters are passed
over. -/
def base64Digit (code : CodeUnit) : Option Nat :=
  if isUppercase code then some (code.toNat - 0x41)
  else if isLowercase code then some (code.toNat - 0x61 + 26)
  else if isDigit code then some (code.toNat - 0x30 + 52)
  else if code = 0x2D ∨ code = 0x2B then some 62
  else if code = 0x5F ∨ code = 0x2F then some 63
  else none

def fromDigits : List Nat -> Bytes
  | first :: second :: third :: fourth :: rest =>
      UInt8.ofNat (first * 4 + second / 16) :: UInt8.ofNat (second % 16 * 16 + third / 4) ::
        UInt8.ofNat (third % 4 * 64 + fourth) :: fromDigits rest
  | [first, second, third] =>
      [UInt8.ofNat (first * 4 + second / 16), UInt8.ofNat (second % 16 * 16 + third / 4)]
  | [first, second] => [UInt8.ofNat (first * 4 + second / 16)]
  | _ => []

/-- `Buffer.from(input, 'base64url')`. -/
def decodeBase64 (input : Text) : Bytes := fromDigits (input.filterMap base64Digit)

theorem base64Digit_character {digit : Nat} (small : digit < 64) :
    base64Digit (UInt16.ofNat (base64urlCharacter digit).toNat) = some digit := by
  have all : forall digit : Fin 64,
      base64Digit (UInt16.ofNat (base64urlCharacter digit).toNat) = some digit.val := by decide
  exact all ⟨digit, small⟩

/-- Every byte sequence is read back. -/
theorem decodeBase64_base64url (bytes : Bytes) :
    decodeBase64 (characters (base64url bytes)) = bytes := by
  unfold decodeBase64 characters
  rw [List.filterMap_map]
  have digit : forall digit, digit < 64 -> (base64Digit ∘ fun byte : Byte =>
      UInt16.ofNat byte.toNat) (base64urlCharacter digit) = some digit :=
    fun digit small => base64Digit_character small
  have byte : forall (byte : Byte) {value : Nat}, value = byte.toNat -> UInt8.ofNat value = byte :=
    fun byte value same => by rw [same, UInt8.ofNat_toNat]
  fun_induction base64url bytes with
  | case1 => rfl
  | case2 first =>
      have one := first.toNat_lt
      simp only [base64urlGroup, List.take_succ_cons, List.take_zero, List.filterMap_cons,
        List.filterMap_nil, UInt8.toNat_zero]
      rw [digit _ (by omega), digit _ (by omega)]
      exact congrArg (fun byte => [byte]) (byte first (by omega))
  | case3 first second =>
      have one := first.toNat_lt
      have two := second.toNat_lt
      simp only [base64urlGroup, List.take_succ_cons, List.take_zero, List.filterMap_cons,
        List.filterMap_nil, UInt8.toNat_zero]
      rw [digit _ (by omega), digit _ (by omega), digit _ (by omega)]
      exact congrArg₂ (fun left right => [left, right]) (byte first (by omega))
        (byte second (by omega))
  | case4 first second third rest inductionHypothesis =>
      have one := first.toNat_lt
      have two := second.toNat_lt
      have three := third.toNat_lt
      simp only [base64urlGroup, List.cons_append, List.nil_append, List.filterMap_cons]
      rw [digit _ (by omega), digit _ (by omega), digit _ (by omega), digit _ (by omega)]
      simp only [fromDigits]
      rw [byte first (by omega), byte second (by omega), byte third (by omega),
        inductionHypothesis]

end JavaScript
