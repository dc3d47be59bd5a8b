import ChannelSync.Proofs.Datum.Texts

/-
  Sets of any data.

  What is added to a set comes after what was there, and
  only if nothing in the set is interchangeable with it.  So
  no two elements of a set are interchangeable.  A set of
  texts holds each of them where it came first.

  Key theorems include:
    * `Datum.addNew_extends`
    * `Datum.pairwise_of_distinct`
    * `Datum.distinct_texts`
-/

------------------------------------------------------------
-- Elements of a Set
------------------------------------------------------------

namespace ChannelSync

namespace Datum

variable {seen ds found : List Datum}

/- What is added comes after what was there. -/
theorem addNew_extends
    (h : addNew seen ds = .ok found) :
    ∃ extra, found = seen ++ extra ∧
      ∀ d ∈ extra, d ∈ ds := by
  induction ds generalizing seen with
  | nil =>
      cases h
      exact ⟨[], by simp, by simp⟩
  | cons d rest ih =>
      unfold addNew at h
      split at h
      case isFalse => cases h
      split at h
      · rcases ih h with ⟨extra, hFound, hExtra⟩
        refine ⟨extra, hFound, fun e he => ?_⟩
        exact List.mem_cons_of_mem d (hExtra e he)
      · rcases ih h with ⟨extra, hFound, hExtra⟩
        refine ⟨d :: extra, by simp [hFound], ?_⟩
        rw [List.forall_mem_cons]
        refine ⟨List.mem_cons_self, fun e he => ?_⟩
        exact List.mem_cons_of_mem d (hExtra e he)

/- The elements of a set are among the data of the list. -/
theorem mem_of_mem_distinct
    {d : Datum}
    (h : distinct ds = .ok found)
    (hMem : d ∈ found) :
    d ∈ ds := by
  rcases addNew_extends h with ⟨extra, hFound, hExtra⟩
  rw [List.nil_append] at hFound
  subst hFound
  exact hExtra d hMem

/- Elements stay different from each other. -/
theorem pairwise_addNew
    (h : addNew seen ds = .ok found)
    (hSeen : seen.Pairwise fun a b => (a == b) = false) :
    found.Pairwise fun a b => (a == b) = false := by
  induction ds generalizing seen with
  | nil =>
      cases h
      exact hSeen
  | cons d rest ih =>
      unfold addNew at h
      split at h
      case isFalse => cases h
      by_cases hContains : seen.contains d = true
      · rw [if_pos hContains] at h
        exact ih h hSeen
      · rw [if_neg hContains] at h
        apply ih h
        have hNew : ∀ a ∈ seen, (a == d) = false := by
          intro a hMem
          rw [← Bool.not_eq_true]
          intro hSame
          apply hContains
          exact List.contains_iff_exists_mem_beq.mpr
            ⟨a, hMem, BEq.symm hSame⟩
        simpa [List.pairwise_append] using ⟨hSeen, hNew⟩

/- No two elements of a set are interchangeable. -/
theorem pairwise_of_distinct
    (h : distinct ds = .ok found) :
    found.Pairwise fun a b => (a == b) = false :=
  pairwise_addNew h List.Pairwise.nil

end Datum

end ChannelSync

------------------------------------------------------------
-- Sets of Texts
------------------------------------------------------------

namespace ChannelSync

namespace Datum

/- Each text is added where it came first. -/
theorem addNew_eq_loop
    {ds : List Datum}
    (h : ∀ d ∈ ds, d.isText = true)
    (seen : List Datum) :
    addNew seen.reverse ds =
      .ok (List.eraseDupsBy.loop
        (fun a b => a == b) ds seen) := by
  induction ds generalizing seen with
  | nil => simp [addNew, List.eraseDupsBy.loop]
  | cons d rest ih =>
      rw [List.forall_mem_cons] at h
      have hSeen :
          seen.reverse.contains d =
            seen.any fun e => d == e := by
        rw [List.contains_reverse, List.contains_eq_any_beq]
      unfold addNew List.eraseDupsBy.loop
      rw [if_pos (isAtom_of_isText h.1), hSeen]
      cases hAny : seen.any fun e => d == e with
      | true =>
          rw [if_pos rfl]
          exact ih h.2 seen
      | false =>
          rw [if_neg Bool.false_ne_true, ← List.reverse_cons]
          exact ih h.2 (d :: seen)

/- The set of some texts drops the later repetitions. -/
theorem distinct_texts
    {ds : List Datum}
    (h : ∀ d ∈ ds, d.isText = true) :
    distinct ds = .ok ds.eraseDups :=
  addNew_eq_loop h []

/- The set of some texts has the same elements. -/
theorem mem_eraseDups
    {ds : List Datum}
    (h : ∀ d ∈ ds, d.isText = true)
    (d : Datum) :
    d ∈ ds.eraseDups ↔ d ∈ ds :=
  mem_of_distinct h (distinct_texts h) d

/- So its elements are texts. -/
theorem isText_eraseDups
    {ds : List Datum}
    (h : ∀ d ∈ ds, d.isText = true) :
    ∀ d ∈ ds.eraseDups, d.isText = true :=
  fun d hMem => h d ((mem_eraseDups h d).mp hMem)

/- It has no repetitions. -/
theorem nodup_eraseDups
    {ds : List Datum}
    (h : ∀ d ∈ ds, d.isText = true) :
    ds.eraseDups.Nodup :=
  nodup_of_distinct h (distinct_texts h)

/- Without repetitions nothing is dropped. -/
theorem eraseDups_of_nodup
    {ds : List Datum}
    (h : ∀ d ∈ ds, d.isText = true)
    (hNodup : ds.Nodup) :
    ds.eraseDups = ds := by
  induction ds with
  | nil => rfl
  | cons d rest ih =>
      rcases List.forall_mem_cons.mp h with ⟨hText, hRest⟩
      rcases List.nodup_cons.mp hNodup with ⟨hNew, hOthers⟩
      have hAll : rest.filter (fun e => !e == d) = rest := by
        apply List.filter_eq_self.mpr
        intro e hMem
        rw [beq_eq_decide' hText]
        have hNe : e ≠ d := fun hSame => hNew (hSame ▸ hMem)
        simp [hNe]
      rw [List.eraseDups_cons, hAll, ih hRest hOthers]

/- The same texts make the same set, in their order. -/
theorem mergeSort_eraseDups_congr
    {ds es : List Datum}
    (hDs : ∀ d ∈ ds, d.isText = true)
    (hEs : ∀ d ∈ es, d.isText = true)
    (hSame : ∀ d, d ∈ ds ↔ d ∈ es) :
    ds.eraseDups.mergeSort textLE =
      es.eraseDups.mergeSort textLE := by
  have hSets : ds.eraseDups.Perm es.eraseDups := by
    refine (List.perm_ext_iff_of_nodup
      (nodup_eraseDups hDs) (nodup_eraseDups hEs)).mpr ?_
    intro d
    rw [mem_eraseDups hDs, mem_eraseDups hEs]
    exact hSame d
  have hTexts := isText_mergeSort (isText_eraseDups hDs)
  have hTexts' := isText_mergeSort (isText_eraseDups hEs)
  refine List.Perm.eq_of_pairwise ?_
    (pairwise_mergeSort _) (pairwise_mergeSort _) ?_
  · intro d e hd he
    exact textLE_antisymm (hTexts d hd) (hTexts' e he)
  · exact ((List.mergeSort_perm _ _).trans hSets).trans
      (List.mergeSort_perm _ _).symm

/- More texts come after the set of some texts. -/
theorem distinct_append_texts
    {ds more found : List Datum}
    (h : ∀ d ∈ ds, d.isText = true)
    (hFound : distinct (ds ++ more) = .ok found) :
    ∃ extra, found = ds.eraseDups ++ extra ∧
      ∀ d ∈ extra, d ∈ more := by
  have hFirst : addNew [] ds = .ok ds.eraseDups :=
    distinct_texts h
  rw [distinct, addNew_append, hFirst] at hFound
  exact addNew_extends hFound

end Datum

end ChannelSync
