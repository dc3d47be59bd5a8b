import ChannelSync.Text.Numeral
import ChannelSync.Text.Reference.Names

/-
  Character references in text.

  The platform stores text with its ampersands and angle
  brackets written as references.  `escape` writes them and
  touches nothing else.  `unescape` reads every reference of
  the HTML standard: numbers in decimal and hexadecimal, and
  names, where a name without a semicolon may be the start
  of a longer word.

  Key definitions include:
    * `Reference.escapeChars`
    * `Reference.match?`
    * `Reference.unescapeChars`
    * `escape`
    * `unescape`
-/

namespace ChannelSync

namespace Reference

------------------------------------------------------------
-- Writing References
------------------------------------------------------------

/- The stored form of one character. -/
def escapeChar : Char → List Char
  | '&' => ['&', 'a', 'm', 'p', ';']
  | '<' => ['&', 'l', 't', ';']
  | '>' => ['&', 'g', 't', ';']
  | c => [c]

/- The stored form of a text. -/
def escapeChars
    (cs : List Char) :
    List Char :=
  cs.flatMap escapeChar

------------------------------------------------------------
-- Numbers
------------------------------------------------------------

/- What stands for a number that is no character. -/
def replacement : Char :=
  Char.ofNat 0xFFFD

/-
  The characters that the numbers from 0x80 to 0x9F stand
  for: those of the Windows code page 1252, where it has
  one.
-/
def windows : List Nat :=
  [0x20AC, 0x81, 0x201A, 0x0192, 0x201E, 0x2026, 0x2020,
    0x2021, 0x02C6, 0x2030, 0x0160, 0x2039, 0x0152, 0x8D,
    0x017D, 0x8F, 0x90, 0x2018, 0x2019, 0x201C, 0x201D,
    0x2022, 0x2013, 0x2014, 0x02DC, 0x2122, 0x0161, 0x203A,
    0x0153, 0x9D, 0x017E, 0x0178]

/- Whether a number stands for no text at all. -/
def isDropped
    (code : Nat) :
    Bool :=
  (1 ≤ code && code ≤ 8) || code == 0xB ||
    (0xE ≤ code && code ≤ 0x1F) || code == 0x7F ||
    (0xFDD0 ≤ code && code ≤ 0xFDEF) ||
    0xFFFE ≤ code % 0x10000

/- The text that a number stands for. -/
def ofCode
    (code : Nat) :
    List Char :=
  if code == 0 then [replacement]
  else if 0x80 ≤ code && code ≤ 0x9F then
    [Char.ofNat (windows.getD (code - 0x80) 0xFFFD)]
  else if (0xD800 ≤ code && code ≤ 0xDFFF) ||
      0x10FFFF < code then
    [replacement]
  else if isDropped code then []
  else [Char.ofNat code]

------------------------------------------------------------
-- Ends of References
------------------------------------------------------------

/- One, if a semicolon comes first, and zero otherwise. -/
def semicolon : List Char → Nat
  | ';' :: _ => 1
  | _ => 0

------------------------------------------------------------
-- Names
------------------------------------------------------------

/- Whether a character can be part of a name. -/
def isNameChar
    (c : Char) :
    Bool :=
  c != '\t' && c != '\n' && c != '\x0c' && c != ' ' &&
    c != '<' && c != '&' && c != '#' && c != ';'

/- The greatest number of characters in a name. -/
def nameLimit : Nat :=
  32

/-
  A name with what follows it in a word: the text of the
  longest known name with at most as many characters as
  asked for, and at least two, and then the rest.
-/
def longest? :
    Nat → List Char → Option (List Char)
  | 0, _ => none
  | 1, _ => none
  | size + 2, word =>
      match Names.codesOf? (word.take (size + 2)) with
      | some codes =>
          some (codes.map Char.ofNat ++
            word.drop (size + 2))
      | none => longest? (size + 1) word

/-
  The text of a word that follows an ampersand: a known
  name, or the longest known name that it begins with, or
  the ampersand and the word unchanged.
-/
def ofWord
    (word : List Char) :
    List Char :=
  match Names.codesOf? word with
  | some codes => codes.map Char.ofNat
  | none =>
      match longest? (word.length - 1) word with
      | some text => text
      | none => '&' :: word

------------------------------------------------------------
-- Reading One Reference
------------------------------------------------------------

/-
  A reference at the front of a text: the number of its
  characters after the ampersand, and what it stands for.
-/
structure Found where
  size : Nat
  text : List Char

/- A number in decimal, after the number sign. -/
def decimal?
    (cs : List Char) :
    Except Fault (Option Found) :=
  match Digit.leading Digit.decimal? cs with
  | [] => .ok none
  | digits =>
      if Numeral.digitLimit < digits.length then
        .error (Numeral.tooLong digits.length)
      else
        .ok (some
          { size := 1 + digits.length +
              semicolon (cs.drop digits.length)
            text := ofCode (Numeral.value 10 digits) })

/- A number in hexadecimal, after the letter x. -/
def hexadecimal?
    (cs : List Char) :
    Option Found :=
  match Digit.leading Digit.hex? cs with
  | [] => none
  | digits =>
      some
        { size := 2 + digits.length +
            semicolon (cs.drop digits.length)
          text := ofCode (Numeral.value 16 digits) }

/- A name, with its semicolon if there is one. -/
def name?
    (cs : List Char) :
    Option Found :=
  match (cs.takeWhile isNameChar).take nameLimit with
  | [] => none
  | name =>
      let size :=
        name.length + semicolon (cs.drop name.length)
      some
        { size := size
          text := ofWord (cs.take size) }

/- The reference that follows an ampersand, if any. -/
def match? :
    List Char → Except Fault (Option Found)
  | '#' :: 'x' :: cs => .ok (hexadecimal? cs)
  | '#' :: 'X' :: cs => .ok (hexadecimal? cs)
  | '#' :: cs => decimal? cs
  | cs => .ok (name? cs)

------------------------------------------------------------
-- Reading All References
------------------------------------------------------------

/-
  Replace every reference.  The number counts characters of
  a reference that has been read and are still to be passed
  over.
-/
def unescapeFrom :
    Nat → List Char → Except Fault (List Char)
  | _, [] => .ok []
  | passed + 1, _ :: rest => unescapeFrom passed rest
  | 0, c :: rest =>
      if c == '&' then
        match match? rest with
        | .error fault => .error fault
        | .ok none => (unescapeFrom 0 rest).map (c :: ·)
        | .ok (some found) =>
            (unescapeFrom found.size rest).map
              (found.text ++ ·)
      else
        (unescapeFrom 0 rest).map (c :: ·)

/- A text with its references replaced. -/
def unescapeChars
    (cs : List Char) :
    Except Fault (List Char) :=
  unescapeFrom 0 cs

end Reference

------------------------------------------------------------
-- Texts
------------------------------------------------------------

/- The stored form of a text. -/
def escape
    (text : String) :
    String :=
  String.ofList (Reference.escapeChars text.toList)

/- The text that a stored form shows. -/
def unescape
    (text : String) :
    Except Fault String :=
  (Reference.unescapeChars text.toList).map String.ofList

end ChannelSync
