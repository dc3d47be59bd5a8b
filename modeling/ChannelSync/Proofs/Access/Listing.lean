import ChannelSync.Access
import ChannelSync.Proofs.Datum.Distinct
import ChannelSync.Proofs.Run.Shape

/-
  Listings of members, on any platform.

  A listing that returns has asked for one page after the
  other: the first one with the empty cursor, and each other
  one with the cursor that came with the page before it.  The
  last page has a cursor that is not truthy.  What is listed
  are the items of the pages, each of them once.

  Nothing is assumed about the platform.  Its pages may
  contradict each other and repeat their items.

  Key definitions include:
    * `Access.Listed`

  Key theorems include:
    * `Access.listed_memberIds`
-/

------------------------------------------------------------
-- Pages of a Listing
------------------------------------------------------------

namespace ChannelSync

namespace Access

open Program

/- Exchanges for all pages of a listing from a cursor on. -/
inductive Listed
    (limit id : Datum) :
    Datum → List Datum → List Exchange → Prop where
  | last
      {cursor : Datum}
      {page : Page Datum}
      (hLast : page.next.truthy = false) :
      Listed limit id cursor page.items
        [⟨.memberPage id cursor limit, .ok page⟩]
  | more
      {cursor : Datum}
      {page : Page Datum}
      {items : List Datum}
      {rest : List Exchange}
      (hMore : page.next.truthy = true)
      (hRest : Listed limit id page.next items rest) :
      Listed limit id cursor (page.items ++ items)
        (⟨.memberPage id cursor limit, .ok page⟩ :: rest)

variable {σ : Type}
variable {remote : Remote σ}
variable {s after : σ}
variable {limit id cursor : Datum}
variable {seen ids : List Datum}
variable {exchanges : List Exchange}

/- A page that is returned is one exchange. -/
theorem ends_memberPage
    {page : Page Datum}
    (h : (memberPage limit id cursor).Ends remote s
      (.ok page) after exchanges) :
    exchanges = [⟨.memberPage id cursor limit, .ok page⟩] := by
  rcases ends_send.mp (ends_reporting.mp h) with
    ⟨hAnswer, -, hExchanges⟩
  rw [← hAnswer] at hExchanges
  exact hExchanges

/- The pages from a cursor on add their items to a set. -/
theorem listed_membersFrom
    {bound : Nat}
    (h : (membersFrom limit id bound cursor seen).Ends remote
      s (.ok ids) after exchanges) :
    ∃ items, Listed limit id cursor items exchanges ∧
      Datum.addNew seen items = .ok ids := by
  induction bound generalizing s cursor seen exchanges with
  | zero => exact absurd h.returns not_returns_abort
  | succ bound ih =>
      unfold membersFrom at h
      rcases ends_bind_ok.mp h with
        ⟨page, _, first, _, hPage, hRest, rfl⟩
      rcases ends_bind_ok.mp hRest with
        ⟨found, _, _, last, hFound, hLast, rfl⟩
      rcases ends_lift.mp hFound with ⟨-, -, rfl⟩
      have hSeen := (returns_lift.mp hFound.returns).1
      rw [ends_memberPage hPage]
      cases hMore : page.next.truthy with
      | true =>
          rw [hMore, if_pos rfl] at hLast
          rcases ih hLast with ⟨items, hListed, hItems⟩
          refine ⟨page.items ++ items,
            Listed.more hMore hListed, ?_⟩
          rw [Datum.addNew_append, hSeen]
          exact hItems
      | false =>
          rw [hMore, if_neg Bool.false_ne_true] at hLast
          rcases ends_pure.mp hLast with ⟨hIds, -, rfl⟩
          cases hIds
          exact ⟨page.items, Listed.last hMore, hSeen⟩

/- A listing holds the items of its pages, each once. -/
theorem listed_memberIds
    (h : (memberIds limit id).Ends remote s (.ok ids) after
      exchanges) :
    ∃ items, Listed limit id (.text "") items exchanges ∧
      Datum.distinct items = .ok ids := by
  unfold memberIds at h
  rcases ends_bind_ok.mp h with
    ⟨bound, _, _, _, hBound, hRest, rfl⟩
  rcases ends_pageBound.mp hBound with ⟨-, -, rfl⟩
  exact listed_membersFrom hRest

end Access

end ChannelSync
