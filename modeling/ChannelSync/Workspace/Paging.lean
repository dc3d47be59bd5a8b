import ChannelSync.Datum.Basic
import ChannelSync.Request
import ChannelSync.Text.Numeral

/-
  Pages of a list.

  A cursor is the position of the first item of a page, as
  a number in text.  The empty cursor stands for the start
  of the list; as the cursor of the next page it says that
  there is none.  A negative position counts from the end.

  Neither cursors nor limits need be sensible: what is no
  number is a fault, and so is a position that is too long
  to be written.

  Key definitions include:
    * `Datum.position`
    * `Paging.slice`
    * `Paging.page` and `Paging.pageOf`

  Key theorems include:
    * `Paging.slice_eq`
-/

------------------------------------------------------------
-- Positions
------------------------------------------------------------

namespace ChannelSync

/-
  The position that a cursor stands for.  A cursor that is
  not truthy stands for the start.
-/
def Datum.position
    (cursor : Datum) :
    Except Fault Int :=
  if cursor.truthy then
    match cursor with
    | .text s => Numeral.read s
    | d =>
        match d.amount? with
        | some n => .ok n
        | none => .error .wrongType
  else
    .ok 0

namespace Paging

/-
  The number of items before a position in a list of some
  length.
-/
def before
    (length : Nat)
    (position : Int) :
    Nat :=
  if position < 0 then (position + length).toNat
  else min position.toNat length

/- The items from one position up to another. -/
def slice
    (items : List α)
    (start stop : Int) :
    List α :=
  (items.take (before items.length stop)).drop
    (before items.length start)

/- Positions inside the list need no clipping. -/
theorem slice_eq
    (items : List α)
    (start stop : Nat) :
    slice items start stop =
      (items.take stop).drop start := by
  have hStart : ¬ ((start : Int) < 0) := by omega
  have hStop : ¬ ((stop : Int) < 0) := by omega
  simp only [slice, before, hStart, hStop, if_false,
    Int.toNat_natCast]
  have hTake :
      items.take (min stop items.length) =
        items.take stop := by
    rw [List.take_eq_take_iff]
    omega
  rw [hTake]
  by_cases h : start ≤ items.length
  · rw [Nat.min_eq_left h]
  · rw [List.drop_of_length_le (by simp; omega),
      List.drop_of_length_le (by simp; omega)]

end Paging

end ChannelSync

------------------------------------------------------------
-- Pages
------------------------------------------------------------

namespace ChannelSync

namespace Paging

/- The position of the page after one that starts somewhere. -/
def stop
    (start : Int)
    (limit : Datum) :
    Except Fault Int :=
  match limit.amount? with
  | some n => .ok (start + n)
  | none => .error .wrongType

/-
  The cursor of the page at a position, which is empty when
  no item of the list comes there.
-/
def next
    (length : Nat)
    (position : Int) :
    Except Fault Datum :=
  if position < length then
    (Numeral.write position).map .text
  else
    .ok (.text "")

/-
  The page of a list at a cursor.  The limit is the number of
  its items.
-/
def page
    (items : List α)
    (cursor limit : Datum) :
    Except Fault (Page α) := do
  let start ← cursor.position
  let stop ← stop start limit
  let next ← next items.length stop
  return ⟨slice items start stop, next⟩

/-
  The page of any datum at a cursor.  A list is cut into
  pages, and so is a text, of single characters.
-/
def pageOf
    (d cursor limit : Datum) :
    Except Fault (Page Datum) :=
  match d with
  | .object fields =>
      (page fields cursor limit).bind
        fun _ => .error .wrongType
  | _ => do
      let _ ← cursor.position
      page (← d.elements) cursor limit

end Paging

end ChannelSync
