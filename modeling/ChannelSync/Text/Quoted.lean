import ChannelSync.Text.Printable

/-
  Quoted text.

  A text is quoted with apostrophes, or with double quotes
  when it holds an apostrophe and no double quote.  The quote
  in use and the backslash are escaped, a line feed, carriage
  return and tab have short escapes, and a character that is
  not printable is written as its code in lower-case hex.

  Key definitions include:
    * `Quoted.escaped`
    * `quote`
-/

namespace ChannelSync

namespace Quoted

------------------------------------------------------------
-- Hexadecimal Codes
------------------------------------------------------------

/- The hexadecimal digit of a number below sixteen. -/
def hexDigit
    (n : Nat) :
    Char :=
  Char.ofNat (if n < 10 then 0x30 + n else 0x57 + n)

/- The last digits of a number, as many as asked for. -/
def hexDigits :
    Nat → Nat → List Char
  | 0, _ => []
  | width + 1, n =>
      hexDigits width (n / 16) ++ [hexDigit (n % 16)]

------------------------------------------------------------
-- Escaping
------------------------------------------------------------

/- The apostrophe. -/
def apostrophe : Char :=
  '\x27'

/- The double quote. -/
def doubleQuote : Char :=
  '\x22'

/-
  The quote for a text: the apostrophe, unless the text has
  apostrophes only.
-/
def mark
    (cs : List Char) :
    Char :=
  if cs.contains apostrophe && !cs.contains doubleQuote then
    doubleQuote
  else
    apostrophe

/- One character between quotes of the given kind. -/
def escaped
    (quoteMark c : Char) :
    List Char :=
  if c == quoteMark || c == '\\' then ['\\', c]
  else if c == '\n' then ['\\', 'n']
  else if c == '\r' then ['\\', 'r']
  else if c == '\t' then ['\\', 't']
  else if isPrintable c then [c]
  else if c.toNat < 0x100 then
    '\\' :: 'x' :: hexDigits 2 c.toNat
  else if c.toNat < 0x10000 then
    '\\' :: 'u' :: hexDigits 4 c.toNat
  else
    '\\' :: 'U' :: hexDigits 8 c.toNat

end Quoted

/- A text between quotes, with its escapes. -/
def quote
    (text : String) :
    String :=
  let cs := text.toList
  let quoteMark := Quoted.mark cs
  String.ofList
    (quoteMark ::
      cs.flatMap (Quoted.escaped quoteMark) ++
      [quoteMark])

end ChannelSync
