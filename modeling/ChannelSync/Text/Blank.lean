/-
  Blank characters.

  `isBlank` is the white space that may surround a number.
  `isTrimmed` also takes in the four information separators,
  which are white space at the ends of other texts.

  Key definitions include:
    * `isBlank`
    * `isTrimmed`
    * `trimmed`
-/

namespace ChannelSync

------------------------------------------------------------
-- Classes of Blank Characters
------------------------------------------------------------

/- The characters with the Unicode property White_Space. -/
def isBlank
    (c : Char) :
    Bool :=
  let code := c.toNat
  (9 ≤ code && code ≤ 13) || code == 0x20 ||
    code == 0x85 || code == 0xA0 || code == 0x1680 ||
    (0x2000 ≤ code && code ≤ 0x200A) ||
    code == 0x2028 || code == 0x2029 || code == 0x202F ||
    code == 0x205F || code == 0x3000

/- Blank characters and the separators U+001C to U+001F. -/
def isTrimmed
    (c : Char) :
    Bool :=
  isBlank c || (0x1C ≤ c.toNat && c.toNat ≤ 0x1F)

------------------------------------------------------------
-- Trimming
------------------------------------------------------------

/- A list of characters without those of a class at its ends. -/
def trimmed
    (inClass : Char → Bool)
    (cs : List Char) :
    List Char :=
  ((cs.dropWhile inClass).reverse.dropWhile
    inClass).reverse

end ChannelSync
