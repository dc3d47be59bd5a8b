/-
  Tables in order of insertion.

  A table holds at most one value for a key, where keys that
  are interchangeable (`==`) count as one key.  A new key
  goes to the end; a new value for a known key takes the
  place of the old one, and the key there stays as it is.

  Key definitions include:
    * `Table`
    * `Table.get?`, `Table.insert` and `Table.erase`

  Key theorems include:
    * `Table.get?_congr`
    * `Table.get?_insert_self`
    * `Table.get?_insert_of_ne`
    * `Table.keys_insert_of_contains`
    * `Table.keys_insert_of_not_contains`
    * `Table.get?_erase_self`
    * `Table.get?_erase_of_ne`
-/

------------------------------------------------------------
-- Tables
------------------------------------------------------------

namespace ChannelSync

structure Table (κ ν : Type) where
  entries : List (κ × ν) := []
deriving Inhabited

namespace Table

variable {κ ν : Type} [BEq κ]

/- The keys of a table, in order. -/
def keys
    (t : Table κ ν) :
    List κ :=
  t.entries.map fun entry => entry.1

/- The values of a table, in the order of their keys. -/
def values
    (t : Table κ ν) :
    List ν :=
  t.entries.map fun entry => entry.2

/- The value of a key. -/
def get?
    (t : Table κ ν)
    (key : κ) :
    Option ν :=
  t.entries.lookup key

/- Put a value at the place of a key, or at the end. -/
def insertIn
    (key : κ)
    (value : ν) :
    List (κ × ν) → List (κ × ν)
  | [] => [(key, value)]
  | (k, v) :: rest =>
      if k == key then (k, value) :: rest
      else (k, v) :: insertIn key value rest

/- The table with a value for a key. -/
def insert
    (t : Table κ ν)
    (key : κ)
    (value : ν) :
    Table κ ν :=
  ⟨insertIn key value t.entries⟩

/- The table without a key. -/
def erase
    (t : Table κ ν)
    (key : κ) :
    Table κ ν :=
  ⟨t.entries.filter fun entry => !(entry.1 == key)⟩

end Table

end ChannelSync

------------------------------------------------------------
-- Interchangeable Keys
------------------------------------------------------------

namespace ChannelSync

namespace Table

variable {κ ν : Type} [BEq κ] [EquivBEq κ]

/- Interchangeable keys have the same value. -/
theorem get?_congr
    (t : Table κ ν)
    {key other : κ}
    (h : (key == other) = true) :
    t.get? key = t.get? other := by
  simp only [get?]
  induction t.entries with
  | nil => rfl
  | cons entry rest ih =>
      obtain ⟨k, v⟩ := entry
      simp only [List.lookup_cons, BEq.congr_left h, ih]

end Table

end ChannelSync

------------------------------------------------------------
-- Look-Ups after Insertions
------------------------------------------------------------

namespace ChannelSync

namespace Table

variable {κ ν : Type} [BEq κ] [EquivBEq κ]

/- A key has the value that was put there last. -/
@[simp]
theorem get?_insert_self
    (t : Table κ ν)
    (key : κ)
    (value : ν) :
    (t.insert key value).get? key = some value := by
  simp only [get?, insert]
  induction t.entries with
  | nil => simp [insertIn]
  | cons entry rest ih =>
      obtain ⟨k, v⟩ := entry
      cases h : k == key with
      | true =>
          simp [insertIn, h, List.lookup_cons, BEq.symm h]
      | false =>
          simp [insertIn, h, List.lookup_cons,
            BEq.symm_false h, ih]

/- The other keys keep their values. -/
theorem get?_insert_of_ne
    (t : Table κ ν)
    {key other : κ}
    (h : (other == key) = false)
    (value : ν) :
    (t.insert key value).get? other = t.get? other := by
  simp only [get?, insert]
  induction t.entries with
  | nil => simp [insertIn, List.lookup_cons, h]
  | cons entry rest ih =>
      obtain ⟨k, v⟩ := entry
      cases hKey : k == key with
      | true =>
          have hne : (other == k) = false := by
            rw [BEq.congr_right hKey, h]
          simp [insertIn, hKey, List.lookup_cons, hne]
      | false =>
          simp [insertIn, hKey, List.lookup_cons, ih]

/- A known key keeps its place. -/
theorem keys_insert_of_contains
    (t : Table κ ν)
    {key : κ}
    (h : t.keys.contains key = true)
    (value : ν) :
    (t.insert key value).keys = t.keys := by
  obtain ⟨entries⟩ := t
  simp only [keys, insert] at h ⊢
  induction entries with
  | nil => simp at h
  | cons entry rest ih =>
      obtain ⟨k, v⟩ := entry
      cases hKey : k == key with
      | true => simp [insertIn, hKey]
      | false =>
          have hRest :
              (rest.map fun entry => entry.1).contains key =
                true := by
            simpa [BEq.symm_false hKey] using h
          simp [insertIn, hKey, ih hRest]

/- A new key goes to the end. -/
theorem keys_insert_of_not_contains
    (t : Table κ ν)
    {key : κ}
    (h : t.keys.contains key = false)
    (value : ν) :
    (t.insert key value).keys = t.keys ++ [key] := by
  obtain ⟨entries⟩ := t
  simp only [keys, insert] at h ⊢
  induction entries with
  | nil => simp [insertIn]
  | cons entry rest ih =>
      obtain ⟨k, v⟩ := entry
      simp only [List.map_cons, List.contains_cons,
        Bool.or_eq_false_iff] at h
      simp [insertIn, BEq.symm_false h.1, ih h.2]

end Table

end ChannelSync

------------------------------------------------------------
-- Look-Ups after Erasures
------------------------------------------------------------

namespace ChannelSync

namespace Table

variable {κ ν : Type} [BEq κ] [EquivBEq κ]

/- An erased key has no value. -/
@[simp]
theorem get?_erase_self
    (t : Table κ ν)
    (key : κ) :
    (t.erase key).get? key = none := by
  simp only [get?, erase]
  induction t.entries with
  | nil => rfl
  | cons entry rest ih =>
      obtain ⟨k, v⟩ := entry
      cases h : k == key with
      | true => simpa [List.filter_cons, h] using ih
      | false =>
          simpa [List.filter_cons, h, List.lookup_cons,
            BEq.symm_false h] using ih

/- The other keys keep their values. -/
theorem get?_erase_of_ne
    (t : Table κ ν)
    {key other : κ}
    (h : (other == key) = false) :
    (t.erase key).get? other = t.get? other := by
  simp only [get?, erase]
  induction t.entries with
  | nil => rfl
  | cons entry rest ih =>
      obtain ⟨k, v⟩ := entry
      cases hKey : k == key with
      | true =>
          have hne : (other == k) = false := by
            rw [BEq.congr_right hKey, h]
          simpa [List.filter_cons, hKey, List.lookup_cons,
            hne] using ih
      | false =>
          simp only [List.filter_cons, hKey, Bool.not_false,
            if_true, List.lookup_cons, ih]

end Table

end ChannelSync
