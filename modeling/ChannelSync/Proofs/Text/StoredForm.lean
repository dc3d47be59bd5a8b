import ChannelSync.Datum.Display
import ChannelSync.Datum.Sets

/-
  Stored forms of texts.

  Writing the references of a text and reading them again
  gives the text back, whatever references it seems to hold
  already: a stored form has no ampersand besides those of
  the references that were written, and each of these ends
  with its own semicolon.

  A text as it is declared need not be readable like that:
  a reference to a number with too many digits is a fault.

  Key definitions include:
    * `Datum.storedForm`

  Key theorems include:
    * `unescape_escape`
    * `unescape_tooLong`
    * `Datum.unescaped_storedForm`
-/

------------------------------------------------------------
-- Reading What Was Written
------------------------------------------------------------

namespace ChannelSync

namespace Reference

/- What starts like a name is read as a name. -/
theorem match?_of_ne
    {c : Char}
    (h : c ≠ '#')
    (rest : List Char) :
    match? (c :: rest) = .ok (name? (c :: rest)) := by
  unfold match?
  split
  case h_1 hChars => exact absurd (List.cons.inj hChars).1 h
  case h_2 hChars => exact absurd (List.cons.inj hChars).1 h
  case h_3 hChars => exact absurd (List.cons.inj hChars).1 h
  case h_4 => rfl

/-
  A character is stored as itself, or as a reference that is
  read as the character.
-/
theorem escapeChar_cases
    (c : Char) :
    (escapeChar c = [c] ∧ c ≠ '&') ∨
      ∃ name, escapeChar c = '&' :: name ∧
        ∀ rest, match? (name ++ rest) =
          .ok (some ⟨name.length, [c]⟩) := by
  unfold escapeChar
  split
  case h_1 =>
      refine Or.inr ⟨_, rfl, fun rest => ?_⟩
      have hWord : ofWord ['a', 'm', 'p', ';'] = ['&'] := by
        decide +kernel
      rw [← hWord]
      exact match?_of_ne (by decide) _
  case h_2 =>
      refine Or.inr ⟨_, rfl, fun rest => ?_⟩
      have hWord : ofWord ['l', 't', ';'] = ['<'] := by
        decide +kernel
      rw [← hWord]
      exact match?_of_ne (by decide) _
  case h_3 =>
      refine Or.inr ⟨_, rfl, fun rest => ?_⟩
      have hWord : ofWord ['g', 't', ';'] = ['>'] := by
        decide +kernel
      rw [← hWord]
      exact match?_of_ne (by decide) _
  case h_4 hAmp _ _ =>
      exact Or.inl ⟨rfl, fun h => hAmp h⟩

/- Characters that are passed over do not show. -/
theorem unescapeFrom_append
    (passed rest : List Char) :
    unescapeFrom passed.length (passed ++ rest) =
      unescapeFrom 0 rest := by
  induction passed with
  | nil => rfl
  | cons c passed ih => exact ih

/- The stored form of a character is read as the character. -/
theorem unescapeFrom_escapeChar
    (c : Char)
    (rest : List Char) :
    unescapeFrom 0 (escapeChar c ++ rest) =
      (unescapeFrom 0 rest).map (c :: ·) := by
  rcases escapeChar_cases c with
    ⟨hForm, hAmp⟩ | ⟨name, hForm, hMatch⟩
  · rw [hForm]
    simp [unescapeFrom, hAmp]
  · rw [hForm]
    simp [unescapeFrom, hMatch, unescapeFrom_append]

/- The stored form of a text is read as the text. -/
theorem unescapeChars_escapeChars
    (cs : List Char) :
    unescapeChars (escapeChars cs) = .ok cs := by
  unfold unescapeChars escapeChars
  induction cs with
  | nil => rfl
  | cons c rest ih =>
      rw [List.flatMap_cons, unescapeFrom_escapeChar, ih]
      rfl

end Reference

/- A stored text shows the text that was stored. -/
theorem unescape_escape
    (text : String) :
    unescape (escape text) = .ok text := by
  simp [unescape, escape,
    Reference.unescapeChars_escapeChars, Except.map]

end ChannelSync

------------------------------------------------------------
-- Numbers That Are Too Long
------------------------------------------------------------

namespace ChannelSync

/- Where there are only digits, all of them are taken. -/
theorem Digit.length_leading
    {digit? : Char → Option Nat}
    {cs : List Char}
    (h : ∀ c ∈ cs, (digit? c).isSome = true) :
    (leading digit? cs).length = cs.length := by
  induction cs with
  | nil => rfl
  | cons c rest ih =>
      rw [List.forall_mem_cons] at h
      rcases Option.isSome_iff_exists.mp h.1 with
        ⟨digit, hDigit⟩
      unfold leading
      simp only [hDigit, List.length_cons, ih h.2]

/- Too many decimal digits are not read as a number. -/
theorem Reference.decimal?_tooLong
    {cs : List Char}
    (hDigits : ∀ c ∈ cs, (Digit.decimal? c).isSome = true)
    (hLong : Numeral.digitLimit < cs.length) :
    decimal? cs = .error (Numeral.tooLong cs.length) := by
  have hLength := Digit.length_leading hDigits
  unfold decimal?
  split
  case h_1 hNone =>
      rw [hNone, List.length_nil] at hLength
      rw [← hLength] at hLong
      exact absurd hLong (Nat.not_lt_zero _)
  case h_2 => rw [hLength, if_pos hLong]

/- A reference to such a number cannot be read. -/
theorem unescape_tooLong
    {cs : List Char}
    (hDigits : ∀ c ∈ cs, (Digit.decimal? c).isSome = true)
    (hLong : Numeral.digitLimit < cs.length) :
    unescape (String.ofList ('&' :: '#' :: cs)) =
      .error (Numeral.tooLong cs.length) := by
  have hMatch :
      Reference.match? ('#' :: cs) =
        .error (Numeral.tooLong cs.length) := by
    cases cs with
    | nil => exact absurd hLong (Nat.not_lt_zero _)
    | cons c rest =>
        have hFirst := hDigits c List.mem_cons_self
        unfold Reference.match?
        split
        case h_1 hChars =>
            cases hChars
            cases hFirst
        case h_2 hChars =>
            cases hChars
            cases hFirst
        case h_3 hChars =>
            cases hChars
            exact Reference.decimal?_tooLong hDigits hLong
        case h_4 hChars => exact absurd rfl (hChars _)
  simp only [unescape, String.toList_ofList,
    Reference.unescapeChars, Reference.unescapeFrom, hMatch]
  rfl

end ChannelSync

------------------------------------------------------------
-- Stored Data
------------------------------------------------------------

namespace ChannelSync

namespace Datum

/- What is stored of a datum that has a stored form. -/
def storedForm : Datum → Datum
  | text s => text (escape s)
  | d => d

/- A text is stored in its stored form. -/
theorem escaped_of_isText
    {d : Datum}
    (h : d.isText = true) :
    d.escaped = .ok d.storedForm := by
  cases d <;> simp_all [isText, storedForm]

/- The stored form of a text is a text. -/
theorem isText_storedForm
    {d : Datum}
    (h : d.isText = true) :
    d.storedForm.isText = true := by
  cases d <;> simp_all [isText, storedForm]

/- The stored form of a text shows the text. -/
theorem unescaped_storedForm
    {d : Datum}
    (h : d.isText = true) :
    d.storedForm.unescaped = .ok d := by
  cases d with
  | text s => simp [storedForm, unescape_escape, Except.map]
  | _ => simp [isText] at h

end Datum

end ChannelSync
