import ChannelSync.Access
import ChannelSync.Proofs.Datum.Distinct
import ChannelSync.Proofs.Run.Ending
import ChannelSync.Proofs.Workspace.Tours
import ChannelSync.Search

/-
  Listings and searches on a tour.

  A listing of members and a search for a channel follow the
  cursors of a platform, whatever it is.  Page by page they do
  what the walk does: a listing goes on to the last page and
  adds up what the pages show, a search stops at the first
  page that shows the name.  Where a page is refused, both of
  them stop.

  A walk is cut where something happens: the loops are first
  carried over the pages before, and then over one page more.

  Key definitions include:
    * `Access.memberSource` and `Access.memberExchange`
    * `Search.channelSource` and `Search.channelExchange`

  Key theorems include:
    * `Access.ends_memberIds_of_tours`
    * `Access.ends_memberIds_of_refused`
    * `Search.exists_page`
    * `Search.ends_findByName_of_found`
    * `Search.ends_findByName_of_tours`
    * `Search.ends_findByName_of_refused`
-/

------------------------------------------------------------
-- Listing Members
------------------------------------------------------------

namespace ChannelSync

namespace Access

open Paging Program

variable {σ : Type}

/- The members of a channel, page by page. -/
def memberSource
    (remote : Remote σ)
    (limit id : Datum) :
    Source σ Problem Datum :=
  fun s cursor =>
    remote.answer s (.memberPage id cursor limit)

/- The exchange for a page of members. -/
def memberExchange
    (limit id : Datum)
    (visit : Visit Datum) :
    Exchange :=
  ⟨.memberPage id visit.cursor limit, .ok visit.page⟩

variable {remote : Remote σ}
variable {s middle after : σ}
variable {limit id cursor next : Datum}
variable {page : Page Datum}
variable {visits : List (Visit Datum)}
variable {seen found : List Datum}
variable {exchanges : List Exchange}

/- A listing adds the items of a page and may go on. -/
theorem ends_membersFrom_page
    {bound : Nat}
    {result : Except Problem (List Datum)}
    (hPage :
      memberSource remote limit id s cursor =
        (.ok page, middle))
    (hFound : Datum.addNew seen page.items = .ok found)
    (hRest :
      (if page.next.truthy then
          membersFrom limit id bound page.next found
        else
          pure found).Ends remote middle result after
        exchanges) :
    (membersFrom limit id (bound + 1) cursor seen).Ends remote
      s result after
      (memberExchange limit id ⟨cursor, page⟩ ::
        exchanges) := by
  have hSent :
      (memberPage limit id cursor).Ends remote s (.ok page)
        middle [memberExchange limit id ⟨cursor, page⟩] :=
    ends_reporting.mpr (ends_send_of_answer hPage)
  have hLifted :
      (lift (Datum.addNew seen page.items)).Ends remote middle
        (.ok found) middle [] :=
    ends_lift.mpr ⟨by rw [hFound]; rfl, rfl, rfl⟩
  exact hSent.bind (hLifted.bind hRest)

/- A listing stops at a page that is refused. -/
theorem ends_membersFrom_refused
    {problem : Problem}
    (hPage :
      memberSource remote limit id s cursor =
        (.error problem, after))
    (bound : Nat)
    (seen : List Datum) :
    (membersFrom limit id (bound + 1) cursor seen).Ends remote
      s (.error problem) after
      [⟨.memberPage id cursor limit, .error problem⟩] := by
  have hSent :
      (memberPage limit id cursor).Ends remote s
        (.error problem) after
        [⟨.memberPage id cursor limit, .error problem⟩] :=
    ends_reporting.mpr (ends_send_of_answer hPage)
  exact hSent.bind_error _

/- A listing follows a walk and goes on behind it. -/
theorem ends_membersFrom_of_leads
    {bound : Nat}
    {result : Except Problem (List Datum)}
    (hLeads :
      Leads (memberSource remote limit id) s cursor visits
        middle next)
    (hFound : Datum.addNew seen (shown visits) = .ok found)
    (hRest :
      (membersFrom limit id bound next found).Ends remote
        middle result after exchanges) :
    (membersFrom limit id (visits.length + bound) cursor
        seen).Ends remote s result after
      (visits.map (memberExchange limit id) ++
        exchanges) := by
  induction hLeads generalizing seen with
  | here s cursor =>
      cases hFound
      rw [List.length_nil, Nat.zero_add]
      exact hRest
  | @onward s _ _ cursor _ page visits hPage hMore _ ih =>
      rw [shown_cons, Datum.addNew_append] at hFound
      cases hSeen : Datum.addNew seen page.items with
      | error fault =>
          rw [hSeen] at hFound
          cases hFound
      | ok seen' =>
          rw [hSeen] at hFound
          rw [List.length_cons, Nat.succ_add]
          apply ends_membersFrom_page hPage hSeen
          rw [if_pos hMore]
          exact ih hFound hRest

/-
  A listing of members that follows a walk.  The bound must
  leave room for one page more.
-/
theorem ends_memberIds_of_leads
    {result : Except Problem (List Datum)}
    (hLeads :
      Leads (memberSource remote limit id) s (.text "") visits
        middle next)
    (hTexts : ∀ d ∈ shown visits, d.isText = true)
    (hBound :
      visits.length < remote.pageBound s (.members id) limit)
    (hRest :
      ∀ bound,
        (membersFrom limit id (bound + 1) next
            (shown visits).eraseDups).Ends remote middle
          result after exchanges) :
    (memberIds limit id).Ends remote s result after
      (visits.map (memberExchange limit id) ++
        exchanges) := by
  rcases Nat.exists_eq_add_of_lt hBound with ⟨more, hMore⟩
  unfold memberIds
  apply (ends_bind_of_ok
    (ends_pageBound.mpr ⟨rfl, rfl, rfl⟩)).mpr
  refine ⟨_, ?_, rfl⟩
  rw [hMore]
  exact ends_membersFrom_of_leads hLeads
    (Datum.distinct_texts hTexts) (hRest more)

/- On a whole tour, each member is listed once. -/
theorem ends_memberIds_of_tours
    (hTours :
      Tours (memberSource remote limit id) s visits after)
    (hTexts : ∀ d ∈ shown visits, d.isText = true)
    (hBound :
      visits.length ≤
        remote.pageBound s (.members id) limit) :
    (memberIds limit id).Ends remote s
      (.ok (shown visits).eraseDups) after
      (visits.map (memberExchange limit id)) := by
  cases hTours with
  | @ended middle _ cursor page visits hLeads hPage hLast =>
      rw [shown_snoc] at hTexts ⊢
      rw [List.length_append] at hBound
      rw [List.map_append]
      have hBefore : ∀ d ∈ shown visits, d.isText = true :=
        fun d hd => hTexts d (List.mem_append_left _ hd)
      have hAll :
          Datum.addNew (shown visits).eraseDups page.items =
            .ok (shown visits ++ page.items).eraseDups := by
        have hDistinct := Datum.distinct_texts hTexts
        rw [Datum.distinct, Datum.addNew_append] at hDistinct
        rw [← hDistinct]
        have hFirst := Datum.distinct_texts hBefore
        rw [Datum.distinct] at hFirst
        rw [hFirst]
        rfl
      apply ends_memberIds_of_leads hLeads hBefore hBound
      intro bound
      apply ends_membersFrom_page hPage hAll
      rw [if_neg (Bool.eq_false_iff.mp hLast)]
      exact ends_pure_self

/- Where a page is refused, the listing stops. -/
theorem ends_memberIds_of_refused
    {problem : Problem}
    (hLeads :
      Leads (memberSource remote limit id) s (.text "") visits
        middle next)
    (hPage :
      memberSource remote limit id middle next =
        (.error problem, after))
    (hTexts : ∀ d ∈ shown visits, d.isText = true)
    (hBound :
      visits.length <
        remote.pageBound s (.members id) limit) :
    (memberIds limit id).Ends remote s (.error problem) after
      (visits.map (memberExchange limit id) ++
        [⟨.memberPage id next limit, .error problem⟩]) :=
  ends_memberIds_of_leads hLeads hTexts hBound
    fun bound => ends_membersFrom_refused hPage bound _

end Access

end ChannelSync

------------------------------------------------------------
-- Searching Channels
------------------------------------------------------------

namespace ChannelSync

namespace Search

open Paging Program

variable {σ : Type}

/- The channels of a platform, page by page. -/
def channelSource
    (remote : Remote σ)
    (limit : Datum) :
    Source σ Problem Observed :=
  fun s cursor =>
    remote.answer s (.channelPage cursor limit)

/- The exchange for a page of channels. -/
def channelExchange
    (limit : Datum)
    (visit : Visit Observed) :
    Exchange :=
  ⟨.channelPage visit.cursor limit, .ok visit.page⟩

/- The first channel of a name among some channels. -/
def firstOf
    (name : Datum)
    (channels : List Observed) :
    Option Observed :=
  channels.find? fun channel => channel.name == name

variable {remote : Remote σ}
variable {s middle after : σ}
variable {limit name cursor next : Datum}
variable {page : Page Observed}
variable {visits : List (Visit Observed)}
variable {channel : Observed}
variable {exchanges : List Exchange}

/- What is found is on a first page that shows the name. -/
theorem exists_page
    {visits : List (Visit Observed)}
    (h : firstOf name (shown visits) = some channel) :
    ∃ before visit later,
      visits = before ++ visit :: later ∧
        firstOf name (shown before) = none ∧
        firstOf name visit.page.items = some channel := by
  induction visits with
  | nil => cases h
  | cons visit visits ih =>
      rw [shown_cons, firstOf, List.find?_append] at h
      cases hFirst : firstOf name visit.page.items with
      | some found =>
          unfold firstOf at hFirst
          rw [hFirst] at h
          cases h
          exact ⟨[], visit, visits, rfl, rfl, hFirst⟩
      | none =>
          unfold firstOf at hFirst
          rw [hFirst, Option.none_or] at h
          rcases ih h with
            ⟨before, found, later, rfl, hBefore, hFound⟩
          refine ⟨visit :: before, found, later, rfl, ?_,
            hFound⟩
          rw [shown_cons, firstOf, List.find?_append, hFirst]
          exact hBefore

/- A search stops at a page that shows the name. -/
theorem ends_findFrom_found
    (hPage :
      channelSource remote limit s cursor =
        (.ok page, after))
    (hFound : firstOf name page.items = some channel)
    (bound before : Nat) :
    (findFrom limit name (bound + 1) before cursor).Ends
      remote s (.ok channel) after
      [channelExchange limit ⟨cursor, page⟩] := by
  apply (ends_bind_of_ok (ends_send_of_answer hPage)).mpr
  refine ⟨[], ?_, rfl⟩
  unfold firstOf at hFound
  simp only [hFound, ends_record_bind]
  exact ends_pure_self

/- It goes on behind a page that does not. -/
theorem ends_findFrom_page
    {bound before : Nat}
    {result : Except Problem Observed}
    (hPage :
      channelSource remote limit s cursor =
        (.ok page, middle))
    (hNone : firstOf name page.items = none)
    (hRest :
      (if page.next.truthy then
          findFrom limit name bound (before + 1) page.next
        else
          fail (noneNamed name)).Ends remote middle result
        after exchanges) :
    (findFrom limit name (bound + 1) before cursor).Ends
      remote s result after
      (channelExchange limit ⟨cursor, page⟩ ::
        exchanges) := by
  apply (ends_bind_of_ok (ends_send_of_answer hPage)).mpr
  refine ⟨exchanges, ?_, rfl⟩
  unfold firstOf at hNone
  simp only [hNone]
  exact hRest

/- It stops at a page that is refused. -/
theorem ends_findFrom_refused
    {problem : Problem}
    (hPage :
      channelSource remote limit s cursor =
        (.error problem, after))
    (bound before : Nat) :
    (findFrom limit name (bound + 1) before cursor).Ends
      remote s (.error problem) after
      [⟨.channelPage cursor limit, .error problem⟩] :=
  (ends_send_of_answer hPage).bind_error _

/- A search follows a walk without the name. -/
theorem ends_findFrom_of_leads
    {bound before : Nat}
    {result : Except Problem Observed}
    (hLeads :
      Leads (channelSource remote limit) s cursor visits
        middle next)
    (hNone : firstOf name (shown visits) = none)
    (hRest :
      (findFrom limit name bound (before + visits.length)
          next).Ends remote middle result after exchanges) :
    (findFrom limit name (visits.length + bound) before
        cursor).Ends remote s result after
      (visits.map (channelExchange limit) ++ exchanges) := by
  induction hLeads generalizing before with
  | here s cursor =>
      rw [List.length_nil, Nat.zero_add]
      exact hRest
  | @onward s _ _ cursor _ page visits hPage hMore _ ih =>
      rw [shown_cons, firstOf, List.find?_append,
        Option.or_eq_none_iff] at hNone
      rw [List.length_cons, Nat.succ_add]
      apply ends_findFrom_page hPage hNone.1
      rw [if_pos hMore]
      apply ih hNone.2
      rw [Nat.add_assoc, Nat.add_comm 1]
      exact hRest

/- So does a search from the first page on. -/
theorem ends_findByName_of_leads
    {result : Except Problem Observed}
    (hLeads :
      Leads (channelSource remote limit) s (.text "") visits
        middle next)
    (hNone : firstOf name (shown visits) = none)
    (hBound :
      visits.length < remote.pageBound s .channels limit)
    (hRest :
      ∀ bound before,
        (findFrom limit name (bound + 1) before next).Ends
          remote middle result after exchanges) :
    (findByName limit name).Ends remote s result after
      (visits.map (channelExchange limit) ++ exchanges) := by
  rcases Nat.exists_eq_add_of_lt hBound with ⟨more, hMore⟩
  unfold findByName
  apply (ends_bind_of_ok
    (ends_pageBound.mpr ⟨rfl, rfl, rfl⟩)).mpr
  refine ⟨_, ?_, rfl⟩
  rw [hMore]
  exact ends_findFrom_of_leads hLeads hNone (hRest more _)

/- The first channel of the name is found on its page. -/
theorem ends_findByName_of_found
    (hLeads :
      Leads (channelSource remote limit) s (.text "") visits
        middle next)
    (hNone : firstOf name (shown visits) = none)
    (hPage :
      channelSource remote limit middle next =
        (.ok page, after))
    (hFound : firstOf name page.items = some channel)
    (hBound :
      visits.length < remote.pageBound s .channels limit) :
    (findByName limit name).Ends remote s (.ok channel) after
      (visits.map (channelExchange limit) ++
        [channelExchange limit ⟨next, page⟩]) :=
  ends_findByName_of_leads hLeads hNone hBound
    fun bound before =>
      ends_findFrom_found hPage hFound bound before

/- A whole tour without the name has no result. -/
theorem ends_findByName_of_tours
    (hTours :
      Tours (channelSource remote limit) s visits after)
    (hNone : firstOf name (shown visits) = none)
    (hBound :
      visits.length ≤ remote.pageBound s .channels limit) :
    (findByName limit name).Ends remote s
      (.error (.failure (noneNamed name))) after
      (visits.map (channelExchange limit)) := by
  cases hTours with
  | @ended middle _ cursor page visits hLeads hPage hLast =>
      rw [shown_snoc, firstOf, List.find?_append,
        Option.or_eq_none_iff] at hNone
      rw [List.length_append] at hBound
      rw [List.map_append]
      apply ends_findByName_of_leads hLeads hNone.1 hBound
      intro bound before
      apply ends_findFrom_page hPage hNone.2
      rw [if_neg (Bool.eq_false_iff.mp hLast)]
      exact ends_fail.mpr ⟨rfl, rfl, rfl⟩

/- Where a page is refused, the search stops. -/
theorem ends_findByName_of_refused
    {problem : Problem}
    (hLeads :
      Leads (channelSource remote limit) s (.text "") visits
        middle next)
    (hNone : firstOf name (shown visits) = none)
    (hPage :
      channelSource remote limit middle next =
        (.error problem, after))
    (hBound :
      visits.length < remote.pageBound s .channels limit) :
    (findByName limit name).Ends remote s (.error problem)
      after
      (visits.map (channelExchange limit) ++
        [⟨.channelPage next limit, .error problem⟩]) :=
  ends_findByName_of_leads hLeads hNone hBound
    fun bound before =>
      ends_findFrom_refused hPage bound before

end Search

end ChannelSync
