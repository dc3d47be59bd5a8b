import ChannelSync.Text.Blank
import ChannelSync.Text.Numeral

/-
  Whole numbers in settings.

  A whole number is written in ASCII digits, without zeros
  in front, and with a minus sign if it is negative.  It may
  be dressed up: with blanks around it, a plus sign or zeros
  in front, a fraction of zeros behind, and underscores that
  stand alone between two characters.  `tidied` takes all of
  this away and `strict?` reads what is left.

  A minus sign is set aside while the rest is tidied.  Zeros
  in front may have underscores among them, and a minus sign
  may stand behind them as well.

  A text that starts with more digits than a number has at
  most is said to be too long.  Other texts with too many
  digits, which show them only when tidied, are malformed.

  Key definitions include:
    * `WholeNumber.Defect`
    * `WholeNumber.strict?`
    * `WholeNumber.overlong`
    * `WholeNumber.tidied`
    * `WholeNumber.read`
-/

------------------------------------------------------------
-- Strict Numbers
------------------------------------------------------------

namespace ChannelSync

namespace WholeNumber

/- Why a text is no whole number. -/
inductive Defect where
  | malformed
  | tooLong
deriving DecidableEq

/- Whether a minus sign comes first, and what follows. -/
def signed : List Char → Bool × List Char
  | '-' :: rest => (true, rest)
  | cs => (false, cs)

/- Read a number that is not dressed up. -/
def strict?
    (cs : List Char) :
    Option Int :=
  let (negative, body) := signed cs
  let digits := Digit.leading Digit.decimal? body
  if body.isEmpty || digits.length < body.length then
    none
  else if body.head? == some '0' && 1 < body.length then
    none
  else if Numeral.digitLimit < digits.length then
    none
  else
    some (Numeral.withSign negative (Numeral.value 10 digits))

/-
  Whether a text starts with too many digits, whatever comes
  after them.  A minus sign may stand before them, and the
  first of them is not a zero.
-/
def overlong
    (cs : List Char) :
    Bool :=
  let body := (signed cs).2
  body.head? != some '0' &&
    Numeral.digitLimit <
      (Digit.leading Digit.decimal? body).length

end WholeNumber

end ChannelSync

------------------------------------------------------------
-- Signs and Zeros
------------------------------------------------------------

namespace ChannelSync

namespace WholeNumber

/-
  The sign of a number that is dressed up, and what follows.
  No minus sign may follow a plus sign.
-/
def dressedSign? : List Char → Option (Bool × List Char)
  | '+' :: '-' :: _ => none
  | '+' :: rest => some (false, rest)
  | cs => some (signed cs)

/-
  What comes after a run of zeros and underscores, of which
  the last character is given.  That one stays where nothing
  else is left of the whole part.
-/
def pastZeros
    (last : Char) :
    List Char → Option (List Char)
  | [] => some [last]
  | c :: rest =>
      if c == '0' || c == '_' then pastZeros c rest
      else if c == '.' then some (last :: c :: rest)
      else if c == '-' || (Digit.decimal? c).isSome then
        some (c :: rest)
      else none

/- A number without zeros in front. -/
def withoutZeros : List Char → Option (List Char)
  | '0' :: rest => pastZeros '0' rest
  | cs => some cs

end WholeNumber

end ChannelSync

------------------------------------------------------------
-- Fractions and Underscores
------------------------------------------------------------

namespace ChannelSync

namespace WholeNumber

/- A number without a fraction of one zero or more. -/
def withoutFraction
    (cs : List Char) :
    List Char :=
  let whole := cs.takeWhile fun c => c != '.'
  let fraction := cs.drop (whole.length + 1)
  if !fraction.isEmpty && fraction.all (fun c => c == '0')
  then whole
  else cs

/-
  Whether every underscore of a list stands alone between
  two other characters.  The flag says whether such another
  character came before.
-/
def spaced :
    Bool → List Char → Bool
  | after, [] => after
  | after, c :: rest =>
      if c == '_' then after && spaced false rest
      else spaced true rest

/- A number without underscores, where all stand alone. -/
def withoutUnderscores
    (cs : List Char) :
    List Char :=
  if spaced false cs then cs.filter fun c => c != '_'
  else cs

end WholeNumber

end ChannelSync

------------------------------------------------------------
-- Reading
------------------------------------------------------------

namespace ChannelSync

namespace WholeNumber

/- A number that is not dressed up any more. -/
def tidied
    (cs : List Char) :
    Option (List Char) := do
  let (negative, body) ← dressedSign? (trimmed isBlank cs)
  let started ← withoutZeros body
  let plain := withoutUnderscores (withoutFraction started)
  return if negative then '-' :: plain else plain

/- Read a whole number. -/
def read
    (text : String) :
    Except Defect Int :=
  let cs := text.toList
  if overlong cs then .error .tooLong
  else
    match (tidied cs).bind strict? with
    | some n => .ok n
    | none => .error .malformed

end WholeNumber

end ChannelSync
