import ChannelSync.Convergence
import ChannelSync.Proofs.Text.Decimal
import ChannelSync.Workspace.Paging

/-
  Pages of a positive size.

  A listing that goes from page to page meets the cursors of
  the positions 0, size, 2 * size and so on.  Each of them is
  read back as its position, and the pages between them cut
  the list into pieces.  The one thing that can go wrong is a
  cursor with too many digits.

  Key definitions include:
    * `Limits.Positive`
    * `Paging.cursorAt`
    * `Paging.Writable`

  Key theorems include:
    * `Paging.position_cursorAt`
    * `Paging.page_cursorAt` and `Paging.page_cases`
    * `Paging.Writable.mono`
    * `Paging.page_sound`
-/

------------------------------------------------------------
-- Sizes
------------------------------------------------------------

namespace ChannelSync

/- Pages have a positive number of items. -/
structure Limits.Positive
    (limits : Limits) :
    Prop where
  channels :
    ∃ size : Nat, 0 < size ∧ limits.channels = .number size
  members :
    ∃ size : Nat, 0 < size ∧ limits.members = .number size

end ChannelSync

------------------------------------------------------------
-- Cursors
------------------------------------------------------------

namespace ChannelSync

namespace Paging

/- The cursor of a position. -/
def cursorAt
    (position : Nat) :
    Datum :=
  if position = 0 then .text "" else .text position.repr

/- Cursors are texts. -/
theorem isText_cursorAt
    (position : Nat) :
    (cursorAt position).isText = true := by
  unfold cursorAt
  split <;> rfl

/- A cursor of a page after the first one is not empty. -/
theorem truthy_cursorAt
    {position : Nat}
    (h : position ≠ 0) :
    (cursorAt position).truthy = true := by
  rcases Numeral.exists_digits position with
    ⟨digits, hDigits, -, -, hNe⟩
  have hText : position.repr ≠ "" := by
    intro hEmpty
    have hList : position.repr.toList = [] := by
      rw [hEmpty]
      rfl
    rw [Nat.toList_repr, hDigits, List.map_eq_nil_iff]
      at hList
    exact hNe hList
  simp [cursorAt, h, hText]

/- A cursor that can be written stands for its position. -/
theorem position_cursorAt
    {position : Nat}
    (h : position < Numeral.numberLimit) :
    (cursorAt position).position = .ok position := by
  by_cases hZero : position = 0
  · subst hZero
    rfl
  · have hTruthy := truthy_cursorAt hZero
    unfold Datum.position
    simp only [hTruthy, if_true]
    unfold cursorAt
    simp only [hZero, if_false]
    exact Numeral.read_repr h

/- The next page has a cursor if it has an item. -/
theorem next_natCast
    (length position : Nat) :
    next length (position : Int) =
      if position < length then
        if position < Numeral.numberLimit then
          .ok (.text position.repr)
        else
          .error Numeral.tooLongToWrite
      else
        .ok (.text "") := by
  unfold next
  simp only [Int.ofNat_lt]
  split
  · unfold Numeral.write
    simp only [Int.natAbs_natCast,
      Numeral.length_toDigits_le_iff]
    split <;> rfl
  · rfl

end Paging

end ChannelSync

------------------------------------------------------------
-- Pages
------------------------------------------------------------

namespace ChannelSync

namespace Paging

/-
  The pages of a list, from some position on, have cursors
  that can be written.
-/
def Writable
    (size start length : Nat) :
    Prop :=
  ∀ n, start + n * size < length →
    start + n * size < Numeral.numberLimit

/- Shorter lists have fewer pages. -/
theorem Writable.mono
    {size start length length' : Nat}
    (h : Writable size start length)
    (hLength : length' ≤ length) :
    Writable size start length' :=
  fun n hn => h n (Nat.lt_of_lt_of_le hn hLength)

/- Later pages are pages. -/
theorem Writable.tail
    {size start length : Nat}
    (h : Writable size start length) :
    Writable size (start + size) length := by
  intro n hn
  have hNext := h (n + 1)
  rw [Nat.succ_mul] at hNext
  have hSum :
      start + (n * size + size) = start + size + n * size := by
    omega
  rw [hSum] at hNext
  exact hNext hn

/- One page more can be written. -/
theorem Writable.cons
    {size start length : Nat}
    (hStart : start < Numeral.numberLimit)
    (h : Writable size (start + size) length) :
    Writable size start length := by
  intro n hn
  cases n with
  | zero => simpa using hStart
  | succ n =>
      rw [Nat.succ_mul] at hn ⊢
      have hNext := h n
      have hSum :
          start + (n * size + size) =
            start + size + n * size := by
        omega
      rw [hSum] at hn ⊢
      exact hNext hn

/- Nothing has to be written behind the end of a list. -/
theorem writable_of_le
    {size start length : Nat}
    (h : length ≤ start) :
    Writable size start length := by
  intro n hn
  omega

/- Short lists have short cursors. -/
theorem writable_of_length_le
    {size length : Nat}
    (h : length ≤ Numeral.numberLimit)
    (start : Nat) :
    Writable size start length :=
  fun _ hn => Nat.lt_of_lt_of_le hn h

/-
  The page at a position has the next items of the list.
  Its cursor is that of the items after them, if any.
-/
theorem page_cursorAt
    {items : List α}
    {start size : Nat}
    (hSize : 0 < size)
    (hStart : start < Numeral.numberLimit) :
    page items (cursorAt start) (.number size) =
      if start + size < items.length then
        if start + size < Numeral.numberLimit then
          .ok ⟨(items.drop start).take size,
            cursorAt (start + size)⟩
        else
          .error Numeral.tooLongToWrite
      else
        .ok ⟨items.drop start, .text ""⟩ := by
  have hStop :
      stop (start : Int) (.number size) =
        .ok ((start + size : Nat) : Int) := by
    simp [stop, Datum.amount?]
  have hSlice :
      slice items (start : Int) ((start + size : Nat) : Int) =
        (items.drop start).take size := by
    rw [slice_eq, List.drop_take, Nat.add_sub_cancel_left]
  simp only [page, position_cursorAt hStart, bind,
    Except.bind, hStop, next_natCast, hSlice]
  by_cases hMore : start + size < items.length
  · have hCursor :
        cursorAt (start + size) =
          .text (start + size).repr := by
      simp only [cursorAt]
      rw [if_neg (by omega)]
    by_cases hShort :
        start + size < Numeral.numberLimit
    · simp [hMore, hShort, hCursor, pure, Except.pure]
    · simp [hMore, hShort]
  · have hAll : (items.drop start).length ≤ size := by
      rw [List.length_drop]
      omega
    simp [hMore, List.take_of_length_le hAll, pure,
      Except.pure]

/-
  A page in the middle leads on to the next one, and the
  last page leads nowhere.
-/
theorem page_cases
    {items : List α}
    {start size : Nat}
    {found : Page α}
    (hSize : 0 < size)
    (hStart : start < Numeral.numberLimit)
    (h : page items (cursorAt start) (.number size) =
      .ok found) :
    (start + size < items.length ∧
        start + size < Numeral.numberLimit ∧
        found = ⟨(items.drop start).take size,
          cursorAt (start + size)⟩) ∨
      (items.length ≤ start + size ∧
        found = ⟨items.drop start, .text ""⟩) := by
  rw [page_cursorAt hSize hStart] at h
  by_cases hMore : start + size < items.length
  · by_cases hShort :
        start + size < Numeral.numberLimit
    · rw [if_pos hMore, if_pos hShort] at h
      exact Or.inl
        ⟨hMore, hShort, (Except.ok.inj h).symm⟩
    · rw [if_pos hMore, if_neg hShort] at h
      cases h
  · rw [if_neg hMore] at h
    exact Or.inr
      ⟨Nat.le_of_not_lt hMore, (Except.ok.inj h).symm⟩

end Paging

end ChannelSync

------------------------------------------------------------
-- What Is on a Page
------------------------------------------------------------

namespace ChannelSync

namespace Paging

variable {items : List α}
variable {cursor limit : Datum}
variable {found : Page α}

/- The cursor of the next page is a text. -/
theorem isText_of_next
    {length : Nat}
    {position : Int}
    {d : Datum}
    (h : next length position = .ok d) :
    d.isText = true := by
  unfold next at h
  split at h
  case isTrue =>
      cases hWritten : Numeral.write position with
      | error fault =>
          rw [hWritten] at h
          cases h
      | ok text =>
          rw [hWritten] at h
          cases h
          rfl
  case isFalse =>
      cases h
      rfl

/- A page has items of the list, and a text as cursor. -/
theorem page_sound
    (h : page items cursor limit = .ok found) :
    (∀ item ∈ found.items, item ∈ items) ∧
      found.next.isText = true := by
  simp only [page, bind, Except.bind] at h
  split at h
  case h_1 => cases h
  case h_2 start hStart =>
      split at h
      case h_1 => cases h
      case h_2 stop hStop =>
          split at h
          case h_1 => cases h
          case h_2 next hNext =>
              cases h
              refine ⟨?_, isText_of_next hNext⟩
              intro item hItem
              exact List.mem_of_mem_take
                (List.mem_of_mem_drop hItem)

end Paging

end ChannelSync
