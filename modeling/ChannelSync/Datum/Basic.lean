import ChannelSync.Fault

/-
  Loosely typed values.

  Names, texts, identifiers, cursors and error codes come
  from outside and may be any value of a JSON document.  A
  `Datum` is such a value.  A record lists its fields in the
  order of their names.

  There are two equalities.  `a = b` says that two data are
  built alike.  `a == b` says that they are interchangeable
  as names, keys and elements: there a flag counts as a
  number, true as one and false as zero, at every depth.  For
  texts the two are the same.

  The operations below take the kinds that they are made for
  and answer every other kind with a fault.

  Key definitions include:
    * `Datum`
    * `Datum.counted`
    * `Datum.truthy`
    * `Datum.isAtom`
    * `Datum.amount?`
    * `Datum.item` and `Datum.field`
    * `Datum.elements`

  Key theorems include:
    * `Datum.beq_iff`
    * `Datum.text_beq` and `Datum.beq_text`
-/

------------------------------------------------------------
-- Data
------------------------------------------------------------

namespace ChannelSync

inductive Datum where
  | null
  | flag (value : Bool)
  | number (value : Int)
  | text (value : String)
  | list (items : List Datum)
  | object (fields : List (String × Datum))
deriving Inhabited, Repr

------------------------------------------------------------
-- Equality
------------------------------------------------------------

namespace Datum

mutual

/- Whether two data are equal. -/
def decEq
    (a b : Datum) :
    Decidable (a = b) :=
  match a, b with
  | null, null => isTrue rfl
  | flag x, flag y =>
      decidable_of_iff (x = y) (by simp)
  | number x, number y =>
      decidable_of_iff (x = y) (by simp)
  | text x, text y =>
      decidable_of_iff (x = y) (by simp)
  | list xs, list ys =>
      have := decEqItems xs ys
      decidable_of_iff (xs = ys) (by simp)
  | object xs, object ys =>
      have := decEqFields xs ys
      decidable_of_iff (xs = ys) (by simp)
  | null, flag _ => isFalse (by simp)
  | null, number _ => isFalse (by simp)
  | null, text _ => isFalse (by simp)
  | null, list _ => isFalse (by simp)
  | null, object _ => isFalse (by simp)
  | flag _, null => isFalse (by simp)
  | flag _, number _ => isFalse (by simp)
  | flag _, text _ => isFalse (by simp)
  | flag _, list _ => isFalse (by simp)
  | flag _, object _ => isFalse (by simp)
  | number _, null => isFalse (by simp)
  | number _, flag _ => isFalse (by simp)
  | number _, text _ => isFalse (by simp)
  | number _, list _ => isFalse (by simp)
  | number _, object _ => isFalse (by simp)
  | text _, null => isFalse (by simp)
  | text _, flag _ => isFalse (by simp)
  | text _, number _ => isFalse (by simp)
  | text _, list _ => isFalse (by simp)
  | text _, object _ => isFalse (by simp)
  | list _, null => isFalse (by simp)
  | list _, flag _ => isFalse (by simp)
  | list _, number _ => isFalse (by simp)
  | list _, text _ => isFalse (by simp)
  | list _, object _ => isFalse (by simp)
  | object _, null => isFalse (by simp)
  | object _, flag _ => isFalse (by simp)
  | object _, number _ => isFalse (by simp)
  | object _, text _ => isFalse (by simp)
  | object _, list _ => isFalse (by simp)

/- Whether two lists hold equal data in the same places. -/
def decEqItems
    (xs ys : List Datum) :
    Decidable (xs = ys) :=
  match xs, ys with
  | [], [] => isTrue rfl
  | [], _ :: _ => isFalse (by simp)
  | _ :: _, [] => isFalse (by simp)
  | x :: xs, y :: ys =>
      have := decEq x y
      have := decEqItems xs ys
      decidable_of_iff (x = y ∧ xs = ys) (by simp)

/- Whether two records have equal fields in one order. -/
def decEqFields
    (xs ys : List (String × Datum)) :
    Decidable (xs = ys) :=
  match xs, ys with
  | [], [] => isTrue rfl
  | [], _ :: _ => isFalse (by simp)
  | _ :: _, [] => isFalse (by simp)
  | (k, x) :: xs, (l, y) :: ys =>
      have := decEq x y
      have := decEqFields xs ys
      decidable_of_iff
        ((k = l ∧ x = y) ∧ xs = ys) (by simp)

end

instance : DecidableEq Datum :=
  decEq

instance
    (d : Datum)
    (ds : List Datum) :
    Decidable (d ∈ ds) :=
  decidable_of_iff (∃ x ∈ ds, x = d) (by simp)

end Datum

------------------------------------------------------------
-- Interchangeable Data
------------------------------------------------------------

namespace Datum

mutual

/- A datum with every flag in it turned into a number. -/
def counted : Datum → Datum
  | null => null
  | flag b => number b.toInt
  | number n => number n
  | text s => text s
  | list items => list (countedItems items)
  | object fields => object (countedFields fields)

/- The data of a list with their flags turned into numbers. -/
def countedItems : List Datum → List Datum
  | [] => []
  | d :: rest => d.counted :: countedItems rest

/- The fields of a record, with their flags as numbers. -/
def countedFields :
    List (String × Datum) → List (String × Datum)
  | [] => []
  | (key, d) :: rest =>
      (key, d.counted) :: countedFields rest

end

/- Data are interchangeable when they count as the same. -/
instance : BEq Datum where
  beq a b := decide (a.counted = b.counted)

/- Data are interchangeable when they count as the same. -/
theorem beq_iff
    {a b : Datum} :
    (a == b) = true ↔ a.counted = b.counted := by
  exact decide_eq_true_iff

instance : EquivBEq Datum where
  rfl := beq_iff.mpr rfl
  symm h := beq_iff.mpr (beq_iff.mp h).symm
  trans h h' :=
    beq_iff.mpr ((beq_iff.mp h).trans (beq_iff.mp h'))

/- Only a text counts as a text. -/
theorem counted_eq_text
    {d : Datum}
    {s : String} :
    d.counted = text s ↔ d = text s := by
  cases d <;> simp [counted]

/- A text is interchangeable with itself only. -/
@[simp]
theorem beq_text
    (d : Datum)
    (s : String) :
    (d == text s) = decide (d = text s) := by
  rw [Bool.eq_iff_iff, beq_iff, decide_eq_true_iff]
  exact counted_eq_text

/- A text is interchangeable with itself only. -/
@[simp]
theorem text_beq
    (s : String)
    (d : Datum) :
    (text s == d) = decide (text s = d) := by
  rw [BEq.comm, beq_text]
  simp only [eq_comm]

end Datum

------------------------------------------------------------
-- Kinds of Data
------------------------------------------------------------

namespace Datum

/- Null, false, zero and everything empty are not truthy. -/
def truthy : Datum → Bool
  | null => false
  | flag b => b
  | number n => n != 0
  | text s => s != ""
  | list items => !items.isEmpty
  | object fields => !fields.isEmpty

/-
  Atoms have no parts.  Only they can be elements of a set
  or keys of a table.
-/
def isAtom : Datum → Bool
  | list _ => false
  | object _ => false
  | _ => true

/- Every text is an atom. -/
@[simp]
theorem isAtom_text
    (s : String) :
    (text s).isAtom = true := by
  rfl

/- Exactly the empty text is not truthy. -/
@[simp]
theorem truthy_text
    (s : String) :
    (text s).truthy = (s != "") := by
  rfl

/- The value of a number, or of a flag as a number. -/
def amount? : Datum → Option Int
  | number n => some n
  | flag b => some b.toInt
  | _ => none

/- The datum, or another one where it is not truthy. -/
def orElse
    (d other : Datum) :
    Datum :=
  if d.truthy then d else other

/- The null datum is how a caller leaves a value out. -/
def toOption : Datum → Option Datum
  | null => none
  | d => some d

end Datum

------------------------------------------------------------
-- Parts of Data
------------------------------------------------------------

namespace Datum

/- The value of a field that a record must have. -/
def item
    (d : Datum)
    (key : String) :
    Except Fault Datum :=
  match d with
  | object fields =>
      match fields.lookup key with
      | some value => .ok value
      | none => .error (.missingKey key)
  | _ => .error .wrongType

/- The value of a field that a record may have. -/
def field
    (d : Datum)
    (key : String)
    (default : Datum) :
    Except Fault Datum :=
  match d with
  | object fields => .ok ((fields.lookup key).getD default)
  | _ => .error .unsupported

/-
  The elements of a list, the characters of a text or the
  keys of a record, in their order.
-/
def elements : Datum → Except Fault (List Datum)
  | list items => .ok items
  | text s =>
      .ok (s.toList.map fun c => text (String.singleton c))
  | object fields =>
      .ok (fields.map fun entry => text entry.1)
  | _ => .error .wrongType

end Datum

end ChannelSync
