import ChannelSync.Datum.Basic

/-
  Sets of data, and their order.

  A set is a list of atoms no two of which are
  interchangeable, in the order in which they first came.
  `sorted` puts texts in order by code point and numbers by
  value; data of mixed kinds have no order.

  Key definitions include:
    * `Datum.addNew` and `Datum.distinct`
    * `Datum.isIn`
    * `Datum.sorted`

  Key theorems include:
    * `Datum.isIn_text`
    * `Datum.sorted_texts`
-/

namespace ChannelSync

namespace Datum

------------------------------------------------------------
-- Building Sets
------------------------------------------------------------

/- Add data to a set, each where it is not there yet. -/
def addNew
    (seen : List Datum) :
    List Datum → Except Fault (List Datum)
  | [] => .ok seen
  | d :: rest =>
      if d.isAtom then
        if seen.contains d then addNew seen rest
        else addNew (seen ++ [d]) rest
      else
        .error .wrongType

/- The set of the data in a list. -/
def distinct
    (ds : List Datum) :
    Except Fault (List Datum) :=
  addNew [] ds

/- The set of the elements of a datum. -/
def elementSet
    (d : Datum) :
    Except Fault (List Datum) :=
  d.elements.bind distinct

------------------------------------------------------------
-- Membership
------------------------------------------------------------

/- Whether a set has an element, which must be an atom. -/
def isIn
    (d : Datum)
    (set : List Datum) :
    Except Fault Bool :=
  if d.isAtom then .ok (set.contains d)
  else .error .wrongType

/- A text is in a list when it is one of its elements. -/
@[simp]
theorem contains_text
    (ds : List Datum)
    (s : String) :
    ds.contains (text s) = decide (text s ∈ ds) := by
  induction ds with
  | nil => simp
  | cons d rest ih =>
      rw [List.contains_cons, ih, text_beq, Bool.eq_iff_iff]
      simp

/- A text can always be asked for. -/
@[simp]
theorem isIn_text
    (s : String)
    (set : List Datum) :
    (text s).isIn set = .ok (decide (text s ∈ set)) := by
  simp [isIn]

/- Whether each element of a list is in another one. -/
def subset
    (xs ys : List Datum) :
    Bool :=
  xs.all fun d => ys.contains d

/- Whether two sets have the same elements. -/
def sameSet
    (xs ys : List Datum) :
    Bool :=
  subset xs ys && subset ys xs

/- What is in the first of two lists is in the second. -/
theorem subset_iff
    (xs ys : List Datum) :
    subset xs ys = true ↔
      ∀ d : Datum, xs.contains d = true →
        ys.contains d = true := by
  simp only [subset, List.all_eq_true]
  constructor
  · intro h d hd
    obtain ⟨x, hMem, hEq⟩ :=
      List.contains_iff_exists_mem_beq.mp hd
    obtain ⟨y, hMem', hEq'⟩ :=
      List.contains_iff_exists_mem_beq.mp (h x hMem)
    exact List.contains_iff_exists_mem_beq.mpr
      ⟨y, hMem', BEq.trans hEq hEq'⟩
  · intro h d hd
    exact h d (List.contains_iff_exists_mem_beq.mpr
      ⟨d, hd, BEq.rfl⟩)

/- Sets are the same when they have the same elements. -/
theorem sameSet_iff
    (xs ys : List Datum) :
    sameSet xs ys = true ↔
      ∀ d : Datum, xs.contains d = ys.contains d := by
  simp only [sameSet, Bool.and_eq_true, subset_iff]
  exact ⟨fun h d => Bool.eq_iff_iff.mpr ⟨h.1 d, h.2 d⟩,
    fun h => ⟨fun d hd => h d ▸ hd, fun d hd => h d ▸ hd⟩⟩

------------------------------------------------------------
-- Order
------------------------------------------------------------

/- Whether a datum is a text. -/
def isText : Datum → Bool
  | text _ => true
  | _ => false

/- Whether a datum counts as a number. -/
def isNumeric
    (d : Datum) :
    Bool :=
  d.amount?.isSome

/- The characters of a text. -/
def spelling : Datum → String
  | text s => s
  | _ => ""

/- The value of a datum that counts as a number. -/
def magnitude
    (d : Datum) :
    Int :=
  d.amount?.getD 0

/- Texts in order by code point. -/
def textLE
    (a b : Datum) :
    Bool :=
  decide (a.spelling ≤ b.spelling)

/- Numbers in order by value. -/
def numberLE
    (a b : Datum) :
    Bool :=
  decide (a.magnitude ≤ b.magnitude)

/- Put data in order, where they have one. -/
def sorted
    (ds : List Datum) :
    Except Fault (List Datum) :=
  if ds.length ≤ 1 then .ok ds
  else if ds.all isText then .ok (ds.mergeSort textLE)
  else if ds.all isNumeric then .ok (ds.mergeSort numberLE)
  else .error .wrongType

/- Texts always have an order. -/
theorem sorted_texts
    {ds : List Datum}
    (h : ∀ d ∈ ds, d.isText = true) :
    sorted ds = .ok (ds.mergeSort textLE) := by
  unfold sorted
  split
  case isTrue hLength =>
      match ds, hLength with
      | [], _ => simp
      | [d], _ => simp
  case isFalse =>
      simp [List.all_eq_true.mpr h]

/- What is put in order is what was given. -/
theorem perm_of_sorted
    {ds ordered : List Datum}
    (h : sorted ds = .ok ordered) :
    ordered.Perm ds := by
  unfold sorted at h
  split at h
  · cases h
    exact List.Perm.refl ds
  · split at h
    · cases h
      exact List.mergeSort_perm ds textLE
    · split at h
      · cases h
        exact List.mergeSort_perm ds numberLE
      · cases h

end Datum

end ChannelSync
