import ChannelSync.Text.Numeral

/-
  Reading what was written.

  A number that is written in decimal digits is read back as
  the same number, as long as it has few enough digits to be
  written at all.  The digits are followed from the last one
  to the first, as the writing makes them.

  Key theorems include:
    * `Numeral.exists_digits`
    * `Numeral.scan_digits`
    * `Numeral.digits_injective`
    * `Numeral.read_repr`
    * `Numeral.repr_injective`
-/

------------------------------------------------------------
-- Single Digits
------------------------------------------------------------

namespace ChannelSync

namespace Numeral

/- A written digit is read as the digit. -/
theorem digitValue?_digitChar
    {d : Nat}
    (h : d < 10) :
    digitValue? d.digitChar = some d := by
  have hAll :
      ∀ e : Fin 10,
        digitValue? e.val.digitChar = some e.val := by
    decide +kernel
  exact hAll ⟨d, h⟩

/- A written digit is neither blank, sign nor underscore. -/
theorem digitChar_plain
    {d : Nat}
    (h : d < 10) :
    isBlank d.digitChar = false ∧
      d.digitChar ≠ '-' ∧ d.digitChar ≠ '+' ∧
      d.digitChar ≠ '_' := by
  have hAll :
      ∀ e : Fin 10,
        isBlank e.val.digitChar = false ∧
          e.val.digitChar ≠ '-' ∧
          e.val.digitChar ≠ '+' ∧
          e.val.digitChar ≠ '_' := by
    decide
  exact hAll ⟨d, h⟩

/- No sign is taken from a text that starts with none. -/
theorem signed_of_ne
    {c : Char}
    (hMinus : c ≠ '-')
    (hPlus : c ≠ '+')
    (rest : List Char) :
    signed (c :: rest) = (false, c :: rest) := by
  unfold signed
  split
  case h_1 h => exact absurd (List.cons.inj h).1 hMinus
  case h_2 h => exact absurd (List.cons.inj h).1 hPlus
  case h_3 => rfl

end Numeral

end ChannelSync

------------------------------------------------------------
-- Runs of Digits
------------------------------------------------------------

namespace ChannelSync

namespace Numeral

/- One more digit makes a number ten times as large. -/
theorem value_append
    (digits : List Nat)
    (d : Nat) :
    value 10 (digits ++ [d]) = value 10 digits * 10 + d := by
  simp [value, List.foldl_append]

/- A number is written with the digits that stand for it. -/
theorem exists_digits
    (n : Nat) :
    ∃ digits : List Nat,
      Nat.toDigits 10 n = digits.map Nat.digitChar ∧
        value 10 digits = n ∧
        (∀ d ∈ digits, d < 10) ∧
        digits ≠ [] := by
  induction n using Nat.strongRecOn with
  | ind n ih =>
      by_cases h : n < 10
      · exact ⟨[n], by simp [Nat.toDigits_of_lt_base h],
          by simp [value], by simpa using h, by simp⟩
      · have hBase : 10 ≤ n := by omega
        rcases ih (n / 10) (by omega) with
          ⟨digits, hDigits, hValue, hSmall, -⟩
        refine ⟨digits ++ [n % 10], ?_, ?_, ?_, by simp⟩
        · rw [Nat.toDigits_of_base_le (by decide) hBase,
            hDigits]
          simp
        · rw [value_append, hValue]
          omega
        · intro d hd
          rcases List.mem_append.mp hd with hOld | hNew
          · exact hSmall d hOld
          · rw [List.mem_singleton] at hNew
            omega

/- A run of written digits is found as it is. -/
theorem scan_digits
    {digits : List Nat}
    (h : ∀ d ∈ digits, d < 10)
    {afterDigit : Bool}
    (hStart : afterDigit = true ∨ digits ≠ []) :
    scan afterDigit (digits.map Nat.digitChar) =
      some (digits, []) := by
  induction digits generalizing afterDigit with
  | nil =>
      rcases hStart with rfl | hNe
      · rfl
      · exact absurd rfl hNe
  | cons d rest ih =>
      have hd := h d (by simp)
      have hRest :=
        @ih (fun e he => h e (by simp [he])) true
          (Or.inl rfl)
      simp [scan, (digitChar_plain hd).2.2.2,
        digitValue?_digitChar hd, hRest]

/- Digits can be told from the way they are written. -/
theorem digits_injective
    {ds es : List Nat}
    (hDs : ∀ d ∈ ds, d < 10)
    (hEs : ∀ d ∈ es, d < 10)
    (h : ds.map Nat.digitChar = es.map Nat.digitChar) :
    ds = es := by
  have hScan := scan_digits hDs (Or.inl rfl)
  rw [h, scan_digits hEs (Or.inl rfl)] at hScan
  exact (Prod.mk.inj (Option.some.inj hScan)).1.symm

end Numeral

end ChannelSync

------------------------------------------------------------
-- Whole Numbers
------------------------------------------------------------

namespace ChannelSync

namespace Numeral

/- A number that can be written is read as the number. -/
theorem read_repr
    {n : Nat}
    (h : n < numberLimit) :
    read n.repr = .ok n := by
  have hLength := length_toDigits_le_iff.mpr h
  rcases exists_digits n with
    ⟨digits, hDigits, hValue, hSmall, hNe⟩
  cases digits with
  | nil => exact absurd rfl hNe
  | cons d rest =>
      have hScan :=
        @scan_digits (d :: rest) hSmall false (Or.inr hNe)
      have hPlain := digitChar_plain (hSmall d (by simp))
      rw [hDigits, List.length_map] at hLength
      rw [List.map_cons] at hDigits hScan
      have hBody :
          signed (n.repr.toList.dropWhile isBlank) =
            (false,
              d.digitChar :: rest.map Nat.digitChar) := by
        rw [Nat.toList_repr, hDigits,
          List.dropWhile_cons_of_neg (by simp [hPlain.1])]
        exact signed_of_ne hPlain.2.1 hPlain.2.2.1 _
      simp only [read, hBody, hScan, List.all_nil, if_true,
        hValue, withSign]
      rw [if_neg (by omega)]
      rfl

/- Different numbers are written differently. -/
theorem repr_injective :
    Function.Injective Nat.repr := by
  intro n n' hSame
  rcases exists_digits n with
    ⟨digits, hDigits, hValue, hSmall, -⟩
  rcases exists_digits n' with
    ⟨digits', hDigits', hValue', hSmall', -⟩
  have hWritten := congrArg String.toList hSame
  rw [Nat.toList_repr, Nat.toList_repr, hDigits, hDigits']
    at hWritten
  rw [← hValue, ← hValue',
    digits_injective hSmall hSmall' hWritten]

end Numeral

end ChannelSync
