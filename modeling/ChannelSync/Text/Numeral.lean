import ChannelSync.Fault
import ChannelSync.Text.Blank
import ChannelSync.Text.Digit

/-
  Whole numbers in text.

  `Numeral.read` takes blanks around the number, one sign,
  decimal digits of any script, and single underscores
  between digits.  A number may have at most 4300 digits,
  leading zeros included.  `Numeral.write` writes a number
  in ASCII digits, under the same limit.

  Key definitions include:
    * `Numeral.digitLimit` and `Numeral.numberLimit`
    * `Numeral.scan`
    * `Numeral.value`
    * `Numeral.read`
    * `Numeral.write`

  Key theorems include:
    * `Numeral.length_toDigits_le_iff`
-/

namespace ChannelSync

namespace Numeral

------------------------------------------------------------
-- Digits
------------------------------------------------------------

/- The greatest number of digits that are read or written. -/
def digitLimit : Nat :=
  4300

/- The least number with more digits than are written. -/
def numberLimit : Nat :=
  Nat.pow 10 digitLimit

/- The fault of a numeral with too many digits. -/
def tooLong
    (digits : Nat) :
    Fault :=
  .badValue
    (s!"Exceeds the limit ({digitLimit} digits) for " ++
      "integer string conversion: value has " ++
      s!"{digits} digits; use " ++
      "sys.set_int_max_str_digits() to increase the limit")

/- The number that a list of digits stands for. -/
def value
    (base : Nat)
    (digits : List Nat) :
    Nat :=
  digits.foldl (fun n d => n * base + d) 0

/-
  The longest run of digits at the front of a list, with
  what follows it.  An underscore must stand between two
  digits.  The flag says whether the last character was a
  digit.
-/
def scan :
    Bool → List Char → Option (List Nat × List Char)
  | afterDigit, [] =>
      if afterDigit then some ([], []) else none
  | afterDigit, c :: rest =>
      if c == '_' then
        if afterDigit then scan false rest else none
      else
        match digitValue? c with
        | some digit =>
            (scan true rest).map fun found =>
              (digit :: found.1, found.2)
        | none =>
            if afterDigit then some ([], c :: rest)
            else none

------------------------------------------------------------
-- Signs
------------------------------------------------------------

/- Whether a minus sign comes first, and what follows. -/
def signed : List Char → Bool × List Char
  | '-' :: rest => (true, rest)
  | '+' :: rest => (false, rest)
  | cs => (false, cs)

/- A natural number with its sign. -/
def withSign
    (negative : Bool)
    (n : Nat) :
    Int :=
  if negative then -(n : Int) else n

------------------------------------------------------------
-- Reading
------------------------------------------------------------

/-
  The fault of a text that is no number.  It shows the text
  in quotes, cut off after two hundred characters.
-/
def notANumber
    (text : String) :
    Fault :=
  .badValue
    ("invalid literal for int() with base 10: " ++
      String.ofList ((quote text).toList.take 200))

/- Read a whole number. -/
def read
    (text : String) :
    Except Fault Int :=
  let (negative, body) :=
    signed (text.toList.dropWhile isBlank)
  match scan false body with
  | none => .error (notANumber text)
  | some (digits, rest) =>
      if digitLimit < digits.length then
        .error (tooLong digits.length)
      else if rest.all isBlank then
        .ok (withSign negative (value 10 digits))
      else
        .error (notANumber text)

------------------------------------------------------------
-- Writing
------------------------------------------------------------

/- The fault of a number with too many digits to be written. -/
def tooLongToWrite : Fault :=
  .badValue
    (s!"Exceeds the limit ({digitLimit} digits) for " ++
      "integer string conversion; use " ++
      "sys.set_int_max_str_digits() to increase the limit")

/- Write a whole number. -/
def write
    (n : Int) :
    Except Fault String :=
  if (Nat.toDigits 10 n.natAbs).length ≤ digitLimit then
    .ok n.repr
  else
    .error tooLongToWrite

/- There are numbers other than zero below the limit. -/
theorem one_lt_numberLimit :
    1 < numberLimit := by
  have hLimit : digitLimit ≠ 0 := by decide
  unfold numberLimit
  generalize digitLimit = limit at hLimit
  exact Nat.one_lt_pow hLimit (by decide)

/- There are numbers below the limit. -/
theorem numberLimit_pos :
    0 < numberLimit :=
  Nat.zero_lt_of_lt one_lt_numberLimit

/- The numbers below the limit have few enough digits. -/
theorem length_toDigits_le_iff
    {n : Nat} :
    (Nat.toDigits 10 n).length ≤ digitLimit ↔
      n < numberLimit := by
  have hLimit : 0 < digitLimit := by decide
  unfold numberLimit
  generalize digitLimit = limit at hLimit
  exact Nat.length_toDigits_le_iff (by decide) hLimit

end Numeral

end ChannelSync
