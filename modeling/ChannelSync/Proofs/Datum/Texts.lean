import ChannelSync.Datum.Sets

/-
  Sets of texts.

  Among texts the loose operations on data are exact: what
  is interchangeable is equal, everything can be an element
  of a set, and every set can be put in order.

  Key definitions include:
    * `Datum.isFlag`

  Key theorems include:
    * `Datum.addNew_append`
    * `Datum.addNew_texts`
    * `Datum.mem_of_distinct`
    * `Datum.mem_erase_of_ne` and `Datum.not_mem_erase`
    * `Datum.textLE_antisymm` and `Datum.pairwise_mergeSort`
-/

------------------------------------------------------------
-- Single Texts
------------------------------------------------------------

namespace ChannelSync

namespace Datum

/- Whether a datum is a flag. -/
def isFlag : Datum → Bool
  | flag _ => true
  | _ => false

/- A datum that is a text is one. -/
theorem exists_text
    {d : Datum}
    (h : d.isText = true) :
    ∃ s, d = text s := by
  cases d with
  | text s => exact ⟨s, rfl⟩
  | _ => simp [isText] at h

/- A datum that is a flag is one. -/
theorem exists_flag
    {d : Datum}
    (h : d.isFlag = true) :
    ∃ b, d = flag b := by
  cases d with
  | flag b => exact ⟨b, rfl⟩
  | _ => simp [isFlag] at h

/- Every text is an atom. -/
theorem isAtom_of_isText
    {d : Datum}
    (h : d.isText = true) :
    d.isAtom = true := by
  rcases exists_text h with ⟨s, rfl⟩
  rfl

/- A text is interchangeable with itself only. -/
theorem beq_eq_decide
    {d : Datum}
    (h : d.isText = true)
    (e : Datum) :
    (d == e) = decide (d = e) := by
  rcases exists_text h with ⟨s, rfl⟩
  exact text_beq s e

/- A text is interchangeable with itself only. -/
theorem beq_eq_decide'
    {e : Datum}
    (h : e.isText = true)
    (d : Datum) :
    (d == e) = decide (d = e) := by
  rcases exists_text h with ⟨s, rfl⟩
  exact beq_text d s

/- A list contains a text when it has it. -/
theorem contains_eq_decide
    {d : Datum}
    (h : d.isText = true)
    (ds : List Datum) :
    ds.contains d = decide (d ∈ ds) := by
  rcases exists_text h with ⟨s, rfl⟩
  exact contains_text ds s

/- A text can always be asked for. -/
theorem isIn_eq_ok
    {d : Datum}
    (h : d.isText = true)
    (ds : List Datum) :
    d.isIn ds = .ok (decide (d ∈ ds)) := by
  rcases exists_text h with ⟨s, rfl⟩
  exact isIn_text s ds

end Datum

end ChannelSync

------------------------------------------------------------
-- Building Sets of Texts
------------------------------------------------------------

namespace ChannelSync

namespace Datum

/- Data can be added in two goes. -/
theorem addNew_append
    (seen ds es : List Datum) :
    addNew seen (ds ++ es) =
      (addNew seen ds).bind fun found => addNew found es := by
  induction ds generalizing seen with
  | nil => rfl
  | cons d rest ih =>
      simp only [List.cons_append, addNew]
      split
      · split
        · exact ih seen
        · exact ih (seen ++ [d])
      · rfl

/- Texts can be added, and the set then has them. -/
theorem addNew_texts
    {ds : List Datum}
    (h : ∀ d ∈ ds, d.isText = true)
    (seen : List Datum) :
    ∃ found, addNew seen ds = .ok found ∧
      (∀ d, d ∈ found ↔ d ∈ seen ∨ d ∈ ds) ∧
      (seen.Nodup → found.Nodup) := by
  induction ds generalizing seen with
  | nil => exact ⟨seen, rfl, by simp, id⟩
  | cons d rest ih =>
      have hText := h d (by simp)
      have hRest : ∀ e ∈ rest, e.isText = true :=
        fun e he => h e (by simp [he])
      unfold addNew
      simp only [isAtom_of_isText hText, if_true,
        contains_eq_decide hText, decide_eq_true_eq]
      by_cases hMem : d ∈ seen
      · rcases ih hRest seen with
          ⟨found, hFound, hIff, hNodup⟩
        refine ⟨found, by rw [if_pos hMem, hFound], ?_,
          hNodup⟩
        intro e
        rw [hIff, List.mem_cons]
        constructor
        · intro h
          rcases h with he | he
          · exact Or.inl he
          · exact Or.inr (Or.inr he)
        · intro h
          rcases h with he | rfl | he
          · exact Or.inl he
          · exact Or.inl hMem
          · exact Or.inr he
      · rcases ih hRest (seen ++ [d]) with
          ⟨found, hFound, hIff, hNodup⟩
        refine ⟨found, by rw [if_neg hMem, hFound], ?_, ?_⟩
        · intro e
          rw [hIff]
          simp [or_assoc]
        · intro hSeen
          apply hNodup
          rw [List.nodup_append]
          refine ⟨hSeen, by simp, ?_⟩
          intro e he f hf hSame
          subst hSame
          rw [List.mem_singleton] at hf
          exact hMem (hf ▸ he)

/- The set of some texts has the same elements. -/
theorem mem_of_distinct
    {ds set : List Datum}
    (h : ∀ d ∈ ds, d.isText = true)
    (hSet : distinct ds = .ok set)
    (d : Datum) :
    d ∈ set ↔ d ∈ ds := by
  rcases addNew_texts h [] with ⟨found, hFound, hIff, -⟩
  cases hSet.symm.trans hFound
  simpa using hIff d

/- The set of some texts has no repetitions. -/
theorem nodup_of_distinct
    {ds set : List Datum}
    (h : ∀ d ∈ ds, d.isText = true)
    (hSet : distinct ds = .ok set) :
    set.Nodup := by
  rcases addNew_texts h [] with ⟨found, hFound, -, hNodup⟩
  cases hSet.symm.trans hFound
  exact hNodup List.nodup_nil

/- What is only in front is taken out there. -/
theorem erase_append_of_not_mem
    {userId : Datum}
    {ds es : List Datum}
    (h : userId.isText = true)
    (hAbsent : userId ∉ es) :
    (ds ++ es).erase userId = ds.erase userId ++ es := by
  induction ds with
  | nil =>
      rw [List.erase_nil, List.nil_append,
        List.erase_eq_eraseP', List.eraseP_of_forall_not]
      intro d hMem hSame
      rw [beq_eq_decide' h, decide_eq_true_eq] at hSame
      exact hAbsent (hSame ▸ hMem)
  | cons d rest ih =>
      rw [List.cons_append, List.erase_cons,
        List.erase_cons, ih]
      split
      · rfl
      · exact (List.cons_append).symm

/- What is not in front is taken out behind. -/
theorem erase_append_cons
    {userId : Datum}
    {ds es : List Datum}
    (h : userId.isText = true)
    (hAbsent : userId ∉ ds) :
    (ds ++ userId :: es).erase userId = ds ++ es := by
  induction ds with
  | nil => simp [List.erase_cons]
  | cons d rest ih =>
      rw [List.mem_cons, not_or] at hAbsent
      rw [List.cons_append, List.erase_cons,
        beq_eq_decide' h, ih hAbsent.2]
      simp [Ne.symm hAbsent.1]

/- Without something that was there a list is shorter. -/
theorem length_erase_of_mem
    {d : Datum}
    {ds : List Datum}
    (hMem : d ∈ ds) :
    (ds.erase d).length + 1 = ds.length := by
  have hPositive := List.length_pos_of_mem hMem
  have hRemoved :
      (ds.eraseP fun e => e == d).length = ds.length - 1 :=
    List.length_eraseP_of_mem hMem BEq.rfl
  rw [List.erase_eq_eraseP', hRemoved]
  omega

/- What is not taken out stays. -/
theorem mem_erase_of_ne
    {userId d : Datum}
    {ds : List Datum}
    (h : userId.isText = true)
    (hNe : d ≠ userId)
    (hMem : d ∈ ds) :
    d ∈ ds.erase userId := by
  induction ds with
  | nil => cases hMem
  | cons e rest ih =>
      rw [List.erase_cons, beq_eq_decide' h]
      by_cases hEq : e = userId
      · subst hEq
        simp only [decide_true, if_true]
        exact (List.mem_cons.mp hMem).resolve_left hNe
      · simp only [hEq, decide_false, Bool.false_eq_true,
          if_false, List.mem_cons]
        exact (List.mem_cons.mp hMem).imp_right ih

/- A text that is taken out once is gone. -/
theorem not_mem_erase
    {userId : Datum}
    {ds : List Datum}
    (h : userId.isText = true)
    (hNodup : ds.Nodup) :
    userId ∉ ds.erase userId := by
  induction ds with
  | nil => simp
  | cons e rest ih =>
      rw [List.nodup_cons] at hNodup
      rw [List.erase_cons, beq_eq_decide' h]
      by_cases hEq : e = userId
      · subst hEq
        simpa using hNodup.1
      · simp only [hEq, decide_false, Bool.false_eq_true,
          if_false, List.mem_cons, not_or]
        exact ⟨fun hSame => hEq hSame.symm, ih hNodup.2⟩

end Datum

end ChannelSync

------------------------------------------------------------
-- Texts in Order
------------------------------------------------------------

namespace ChannelSync

namespace Datum

/- Every text comes with itself. -/
theorem textLE_refl
    (d : Datum) :
    d.textLE d = true :=
  decide_eq_true (String.le_refl d.spelling)

/- Two texts that come before each other are the same. -/
theorem textLE_antisymm
    {d e : Datum}
    (hd : d.isText = true)
    (he : e.isText = true)
    (h : d.textLE e = true)
    (h' : e.textLE d = true) :
    d = e := by
  rcases exists_text hd with ⟨s, rfl⟩
  rcases exists_text he with ⟨t, rfl⟩
  exact congrArg text
    (String.le_antisymm (of_decide_eq_true h)
      (of_decide_eq_true h'))

/- Texts are texts in whatever order. -/
theorem isText_mergeSort
    {ds : List Datum}
    (h : ∀ d ∈ ds, d.isText = true) :
    ∀ d ∈ ds.mergeSort textLE, d.isText = true :=
  fun d hMem => h d (List.mem_mergeSort.mp hMem)

/- What is put in order is in order. -/
theorem pairwise_mergeSort
    (ds : List Datum) :
    (ds.mergeSort textLE).Pairwise
      fun d e => d.textLE e = true := by
  apply List.pairwise_mergeSort
  · intro a b c hab hbc
    exact decide_eq_true
      (String.le_trans (of_decide_eq_true hab)
        (of_decide_eq_true hbc))
  · intro a b
    simp only [textLE, Bool.or_eq_true, decide_eq_true_eq]
    exact String.le_total a.spelling b.spelling

end Datum

end ChannelSync
