import ChannelSync.Proofs.Datum.Texts
import ChannelSync.Table

/-
  Entries of tables.

  For a key that is a text, a look-up finds an entry of that
  very key, and an insertion puts the entry in the place of
  the old one.  The last insertion for a key is the only one
  that counts.  For other keys the same holds up to keys that
  are interchangeable.

  Key theorems include:
    * `Table.mem_of_get?`
    * `Table.get?_of_mem`
    * `Table.mem_of_mem_insert`
    * `Table.nodup_keys_insert`
    * `Table.insert_of_get?`
    * `Table.insert_insert`
    * `Table.insert_comm`
    * `Table.exists_mem_of_get?`
    * `Table.mem_insert_cases`
    * `Table.pairwise_insert`
-/

------------------------------------------------------------
-- Look-Ups and Entries
------------------------------------------------------------

namespace ChannelSync

namespace Table

variable {ν : Type}

/- What a look-up finds is an entry. -/
theorem mem_of_get?
    {t : Table Datum ν}
    {key : Datum}
    {value : ν}
    (hText : key.isText = true)
    (h : t.get? key = some value) :
    (key, value) ∈ t.entries := by
  rcases t with ⟨entries⟩
  simp only [get?] at h ⊢
  induction entries with
  | nil => simp at h
  | cons entry rest ih =>
      rcases entry with ⟨k, v⟩
      rw [List.lookup_cons, Datum.beq_eq_decide hText] at h
      by_cases hKey : key = k
      · simp only [hKey, decide_true] at h
        cases h
        simp [hKey]
      · simp only [hKey, decide_false] at h
        exact List.mem_cons_of_mem _ (ih h)

/- An entry is found, where no key has two of them. -/
theorem get?_of_mem
    {t : Table Datum ν}
    {key : Datum}
    {value : ν}
    (hText : key.isText = true)
    (hNodup : t.keys.Nodup)
    (h : (key, value) ∈ t.entries) :
    t.get? key = some value := by
  rcases t with ⟨entries⟩
  simp only [get?, keys] at hNodup h ⊢
  induction entries with
  | nil => simp at h
  | cons entry rest ih =>
      rcases entry with ⟨k, v⟩
      rw [List.map_cons, List.nodup_cons] at hNodup
      rw [List.lookup_cons, Datum.beq_eq_decide hText]
      rcases List.mem_cons.mp h with hHead | hTail
      · cases hHead
        simp
      · have hNe : key ≠ k := by
          intro hSame
          subst hSame
          exact hNodup.1
            (List.mem_map.mpr ⟨(key, value), hTail, rfl⟩)
        simpa [hNe] using ih hNodup.2 hTail

end Table

end ChannelSync

------------------------------------------------------------
-- Insertions and Entries
------------------------------------------------------------

namespace ChannelSync

namespace Table

variable {ν : Type}

/- Every entry after an insertion is the new one or old. -/
theorem mem_of_mem_insert
    {t : Table Datum ν}
    {key : Datum}
    {value : ν}
    (hText : key.isText = true)
    {entry : Datum × ν}
    (h : entry ∈ (t.insert key value).entries) :
    entry = (key, value) ∨ entry ∈ t.entries := by
  rcases t with ⟨entries⟩
  simp only [insert] at h ⊢
  induction entries with
  | nil => simpa [insertIn] using h
  | cons first rest ih =>
      rcases first with ⟨k, v⟩
      rw [insertIn, Datum.beq_eq_decide' hText] at h
      by_cases hKey : k = key
      · subst hKey
        simp only [decide_true, if_true] at h
        rcases List.mem_cons.mp h with hHead | hTail
        · exact Or.inl hHead
        · exact Or.inr (List.mem_cons_of_mem _ hTail)
      · simp only [hKey, decide_false] at h
        rcases List.mem_cons.mp h with hHead | hTail
        · exact Or.inr (hHead ▸ List.mem_cons_self)
        · exact (ih hTail).imp_right
            (List.mem_cons_of_mem _)

/- Keys stay apart from each other. -/
theorem nodup_keys_insert
    {t : Table Datum ν}
    {key : Datum}
    (hText : key.isText = true)
    (hNodup : t.keys.Nodup)
    (value : ν) :
    (t.insert key value).keys.Nodup := by
  cases hKnown : t.keys.contains key with
  | true =>
      rw [keys_insert_of_contains t hKnown]
      exact hNodup
  | false =>
      rw [keys_insert_of_not_contains t hKnown]
      rw [Datum.contains_eq_decide hText,
        decide_eq_false_iff_not] at hKnown
      rw [List.nodup_append]
      refine ⟨hNodup, by simp, ?_⟩
      intro k hk l hl hSame
      subst hSame
      rw [List.mem_singleton] at hl
      exact hKnown (hl ▸ hk)

/- Which keys there are does not depend on the value. -/
theorem keys_insert_congr
    (t : Table Datum ν)
    (key : Datum)
    (value value' : ν) :
    (t.insert key value).keys =
      (t.insert key value').keys := by
  cases hKnown : t.keys.contains key with
  | true =>
      rw [keys_insert_of_contains t hKnown,
        keys_insert_of_contains t hKnown]
  | false =>
      rw [keys_insert_of_not_contains t hKnown,
        keys_insert_of_not_contains t hKnown]

/- Inserting the value that is there changes nothing. -/
theorem insert_of_get?
    {t : Table Datum ν}
    {key : Datum}
    {value : ν}
    (h : t.get? key = some value) :
    t.insert key value = t := by
  rcases t with ⟨entries⟩
  simp only [get?, insert, mk.injEq] at h ⊢
  induction entries with
  | nil => simp at h
  | cons entry rest ih =>
      rcases entry with ⟨k, v⟩
      rw [List.lookup_cons] at h
      cases hKey : key == k with
      | true =>
          simp only [hKey] at h
          cases h
          simp [insertIn, BEq.symm hKey]
      | false =>
          simp only [hKey] at h
          simp [insertIn, BEq.symm_false hKey, ih h]

/- Only the last insertion for a key counts. -/
theorem insert_insert
    (t : Table Datum ν)
    (key : Datum)
    (value value' : ν) :
    (t.insert key value).insert key value' =
      t.insert key value' := by
  rcases t with ⟨entries⟩
  unfold insert
  simp only [mk.injEq]
  induction entries with
  | nil => simp [insertIn]
  | cons entry rest ih =>
      rcases entry with ⟨k, v⟩
      cases hKey : k == key with
      | true => simp [insertIn, hKey]
      | false => simp [insertIn, hKey, ih]

/-
  Insertions for two keys can be made in either order, if
  one of the keys is there already.
-/
theorem insert_comm
    {t : Table Datum ν}
    {key other : Datum}
    {old : ν}
    (hKnown : t.get? key = some old)
    (hNe : (key == other) = false)
    (value value' : ν) :
    (t.insert key value).insert other value' =
      (t.insert other value').insert key value := by
  rcases t with ⟨entries⟩
  simp only [get?, insert, mk.injEq] at hKnown ⊢
  induction entries with
  | nil => simp at hKnown
  | cons entry rest ih =>
      rcases entry with ⟨k, v⟩
      rw [List.lookup_cons] at hKnown
      cases hKey : k == key with
      | true =>
          have hOther : (k == other) = false := by
            rw [BEq.congr_left hKey, hNe]
          simp [insertIn, hKey, hOther]
      | false =>
          rw [BEq.symm_false hKey] at hKnown
          cases hOther : k == other with
          | true => simp [insertIn, hKey, hOther]
          | false => simp [insertIn, hKey, hOther, ih hKnown]

end Table

end ChannelSync

------------------------------------------------------------
-- Entries up to Interchangeable Keys
------------------------------------------------------------

namespace ChannelSync

namespace Table

variable {κ ν : Type} [BEq κ]

/- No two entries of a table have one key. -/
def KeysDistinct
    (t : Table κ ν) :
    Prop :=
  t.entries.Pairwise fun a b => (a.1 == b.1) = false

instance
    (t : Table κ ν) :
    Decidable t.KeysDistinct :=
  inferInstanceAs (Decidable (List.Pairwise _ t.entries))

/- A key that is not there has no value. -/
theorem get?_eq_none_iff
    {t : Table κ ν}
    {key : κ} :
    t.get? key = none ↔ t.keys.contains key = false := by
  rcases t with ⟨entries⟩
  simp only [get?, keys]
  induction entries with
  | nil => simp
  | cons entry rest ih =>
      rcases entry with ⟨k, v⟩
      cases hKey : key == k with
      | true => simp [List.lookup_cons, hKey]
      | false => simp [List.lookup_cons, hKey, ih]

/- A new key goes to the end of the entries. -/
theorem insertIn_of_ne
    {entries : List (κ × ν)}
    {key : κ}
    (h : ∀ entry ∈ entries, (entry.1 == key) = false)
    (value : ν) :
    insertIn key value entries =
      entries ++ [(key, value)] := by
  induction entries with
  | nil => rfl
  | cons entry rest ih =>
      rw [List.forall_mem_cons] at h
      unfold insertIn
      simp only [h.1, Bool.false_eq_true, if_false, ih h.2,
        List.cons_append]

variable [EquivBEq κ]

/- What a look-up finds is an entry of such a key. -/
theorem exists_mem_of_get?
    {t : Table κ ν}
    {key : κ}
    {value : ν}
    (h : t.get? key = some value) :
    ∃ k, (k == key) = true ∧ (k, value) ∈ t.entries := by
  rcases t with ⟨entries⟩
  simp only [get?] at h ⊢
  induction entries with
  | nil => simp at h
  | cons entry rest ih =>
      rcases entry with ⟨k, v⟩
      rw [List.lookup_cons] at h
      cases hKey : key == k with
      | true =>
          rw [hKey] at h
          cases h
          exact ⟨k, BEq.symm hKey, List.mem_cons_self⟩
      | false =>
          rw [hKey] at h
          rcases ih h with ⟨k', hSame, hMem⟩
          exact ⟨k', hSame, List.mem_cons_of_mem _ hMem⟩

/- A key that is not there goes to the end. -/
theorem entries_insert_of_not_contains
    {t : Table κ ν}
    {key : κ}
    (h : t.keys.contains key = false)
    (value : ν) :
    (t.insert key value).entries =
      t.entries ++ [(key, value)] := by
  apply insertIn_of_ne
  intro entry hEntry
  rw [List.contains_eq_any_beq, List.any_eq_false] at h
  have hKey : entry.1 ∈ t.keys :=
    List.mem_map.mpr ⟨entry, hEntry, rfl⟩
  exact BEq.symm_false (Bool.eq_false_iff.mpr (h _ hKey))

/-
  Every entry after an insertion is the new one, or an old
  one of another key.
-/
theorem mem_insert_cases
    {t : Table κ ν}
    (hKeys : t.KeysDistinct)
    {key : κ}
    {value : ν}
    {entry : κ × ν}
    (h : entry ∈ (t.insert key value).entries) :
    (entry.1 == key) = true ∧ entry.2 = value ∨
      (entry.1 == key) = false ∧ entry ∈ t.entries := by
  rcases t with ⟨entries⟩
  simp only [insert, KeysDistinct] at h hKeys ⊢
  induction entries with
  | nil =>
      rw [insertIn, List.mem_singleton] at h
      subst h
      exact Or.inl ⟨BEq.rfl, rfl⟩
  | cons first rest ih =>
      rcases first with ⟨k, v⟩
      rw [List.pairwise_cons] at hKeys
      unfold insertIn at h
      cases hKey : k == key with
      | true =>
          simp only [hKey, if_true, List.mem_cons] at h
          rcases h with rfl | hRest
          · exact Or.inl ⟨hKey, rfl⟩
          · refine Or.inr
              ⟨?_, List.mem_cons_of_mem _ hRest⟩
            rw [← BEq.congr_right hKey]
            exact BEq.symm_false (hKeys.1 entry hRest)
      | false =>
          simp only [hKey, Bool.false_eq_true, if_false,
            List.mem_cons] at h
          rcases h with rfl | hRest
          · exact Or.inr ⟨hKey, List.mem_cons_self⟩
          · exact (ih hKeys.2 hRest).imp_right
              fun hOld =>
                ⟨hOld.1, List.mem_cons_of_mem _ hOld.2⟩

/-
  Entries that are in some relation pairwise stay so, if the
  new one is in it with the old ones of other keys.
-/
theorem pairwise_insert
    {R : κ × ν → κ × ν → Prop}
    {t : Table κ ν}
    (hKeys : t.KeysDistinct)
    (hEntries : t.entries.Pairwise R)
    {key : κ}
    {value : ν}
    (hNew :
      ∀ k entry, (k == key) = true → entry ∈ t.entries →
        (entry.1 == key) = false →
          R entry (k, value) ∧ R (k, value) entry) :
    (t.insert key value).entries.Pairwise R := by
  rcases t with ⟨entries⟩
  simp only [insert, KeysDistinct] at hKeys hEntries hNew ⊢
  induction entries with
  | nil => simp [insertIn]
  | cons first rest ih =>
      rcases first with ⟨k, v⟩
      have hInserted :
          ∀ entry ∈ insertIn key value rest,
            (entry.1 == key) = true ∧ entry.2 = value ∨
              (entry.1 == key) = false ∧ entry ∈ rest :=
        fun entry hMem =>
          @mem_insert_cases _ _ _ _ ⟨rest⟩
            (List.pairwise_cons.mp hKeys).2 _ _ _ hMem
      rw [List.pairwise_cons] at hKeys hEntries
      unfold insertIn
      cases hKey : k == key with
      | true =>
          simp only [if_true, List.pairwise_cons]
          refine ⟨?_, hEntries.2⟩
          intro entry hMem
          have hOther : (entry.1 == key) = false := by
            rw [← BEq.congr_right hKey]
            exact BEq.symm_false (hKeys.1 entry hMem)
          exact (hNew k entry hKey
            (List.mem_cons_of_mem _ hMem) hOther).2
      | false =>
          simp only [Bool.false_eq_true, if_false,
            List.pairwise_cons]
          refine ⟨?_, ih hKeys.2 hEntries.2 ?_⟩
          · intro entry hMem
            rcases hInserted entry hMem with
              ⟨hNewKey, hValue⟩ | ⟨-, hOld⟩
            · rcases entry with ⟨k', v'⟩
              cases hValue
              exact (hNew k' (k, v) hNewKey
                List.mem_cons_self hKey).1
            · exact hEntries.1 entry hOld
          · intro k' entry hSame hMem hOther
            exact hNew k' entry hSame
              (List.mem_cons_of_mem _ hMem) hOther

/- Keys stay distinct. -/
theorem KeysDistinct.insert
    {t : Table κ ν}
    (h : t.KeysDistinct)
    (key : κ)
    (value : ν) :
    (t.insert key value).KeysDistinct := by
  apply pairwise_insert h h
  intro k entry hKey _ hOther
  have hNe : (entry.1 == k) = false := by
    rw [BEq.congr_right hKey, hOther]
  exact ⟨hNe, BEq.symm_false hNe⟩

end Table

end ChannelSync
