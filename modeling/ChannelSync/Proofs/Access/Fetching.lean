import ChannelSync.Proofs.Access.Requests
import ChannelSync.Proofs.Access.Walking

/-
  Listing the members of a channel.

  The pages of a listing, taken together, are the members of
  the room.  A listing returns if nothing is laid in for it
  and every cursor can be written, and only then.  So a
  channel that is fetched is reported as its room is.

  Key definitions include:
    * `Room.ShownAs`

  Key theorems include:
    * `Access.memberIds_returned`
    * `Access.mem_of_listed`
    * `Access.ends_memberIds` and `Access.memberIds_returns`
    * `Access.fetch_returned`
    * `Access.ends_fetch` and `Access.fetch_returns`
-/

------------------------------------------------------------
-- Shapes of Reading Programs
------------------------------------------------------------

namespace ChannelSync

namespace Access

open Program

variable {allowed : Request → Prop}
variable {listed : Listing → Prop}

/- Pages of members are all that is asked for. -/
theorem asks_membersFrom
    (limit id : Datum)
    (hPages : ∀ cursor, allowed (.memberPage id cursor limit))
    (bound : Nat)
    (cursor : Datum)
    (seen : List Datum) :
    (membersFrom limit id bound cursor seen).Asks allowed
      listed := by
  induction bound generalizing cursor seen with
  | zero => trivial
  | succ bound ih =>
      have hPage :
          (memberPage limit id cursor).Asks allowed listed :=
        (asks_send (hPages cursor)).reporting
      apply hPage.bind
      intro page
      apply (asks_lift _).bind
      intro found
      split
      · exact ih page.next found
      · trivial

/- They are asked for with the length of the listing. -/
theorem asks_memberIds
    (limit id : Datum)
    (hPages : ∀ cursor, allowed (.memberPage id cursor limit))
    (hListing : listed (.members id)) :
    (memberIds limit id).Asks allowed listed :=
  ⟨hListing, fun _ => asks_membersFrom limit id hPages _ _ _⟩

/- Members are only read. -/
theorem reads_memberIds
    (limit id : Datum) :
    (memberIds limit id).Reads := by
  have hAsks :
      (memberIds limit id).Asks
        (fun request => request.isWrite = false)
        (fun _ => True) :=
    asks_memberIds limit id (fun _ => rfl) trivial
  exact hAsks.sends

/- A channel is only read when it is fetched. -/
theorem reads_fetch
    (limit id : Datum) :
    (fetch limit id).Reads := by
  apply (reads_info id).bind
  intro channel
  exact (reads_memberIds limit id).bind fun _ => trivial

/- A listing gives up when a page is refused. -/
theorem strict_membersFrom
    (limit id : Datum)
    (bound : Nat)
    (cursor : Datum)
    (seen : List Datum) :
    (membersFrom limit id bound cursor seen).Strict := by
  induction bound generalizing cursor seen with
  | zero => trivial
  | succ bound ih =>
      apply (strict_reporting_send _ _).bind
      intro page
      apply (strict_lift _).bind
      intro found
      split
      · exact ih page.next found
      · trivial

/- A listing of all members gives up at a refusal. -/
theorem strict_memberIds
    (limit id : Datum) :
    (memberIds limit id).Strict :=
  fun _ => strict_membersFrom limit id _ _ _

/- Fetching a channel gives up at a refusal. -/
theorem strict_fetch
    (limit id : Datum) :
    (fetch limit id).Strict := by
  apply (strict_reporting_send _ _).bind
  intro channel
  exact (strict_memberIds limit id).bind fun _ => trivial

end Access

end ChannelSync

------------------------------------------------------------
-- What a Listing Returns
------------------------------------------------------------

namespace ChannelSync

namespace Access

open Program

variable {w after : Workspace}
variable {id : Datum}
variable {room : Room}
variable {size : Nat}
variable {ids : List Datum}

/- A page of members that is answered is one of the room. -/
theorem page_of_answer
    (hId : id.isText = true)
    (hFound : w.channels.get? id = some room)
    {cursor limit : Datum}
    {page : Page Datum}
    (h : (w.answer (.memberPage id cursor limit)).1 =
      .ok page) :
    Paging.page room.members cursor limit = .ok page := by
  rw [Workspace.answer_memberPage hId hFound] at h
  cases hRefusal :
      w.refusal (.memberPage id cursor limit) with
  | error problem =>
      rw [hRefusal] at h
      cases h
  | ok _ =>
      rw [hRefusal] at h
      cases hPage : Paging.page room.members cursor limit with
      | ok found =>
          rw [hPage] at h
          cases h
          rfl
      | error fault =>
          rw [hPage] at h
          cases h

/-
  The pages from a cursor on hold the members from that
  position on.  They are found only if the cursors between
  them can be written.
-/
theorem membersFrom_returned
    (hId : id.isText = true)
    (hSize : 0 < size)
    (hFound : w.channels.get? id = some room)
    {bound start : Nat}
    {seen : List Datum}
    (hStart : start < Numeral.numberLimit)
    (h : (membersFrom (.number size) id bound
        (Paging.cursorAt start) seen).Returns
      Workspace.remote w ids after) :
    Datum.addNew seen (room.members.drop start) = .ok ids ∧
      Paging.Writable size start room.members.length := by
  induction bound generalizing start seen with
  | zero => exact absurd h not_returns_abort
  | succ bound ih =>
      unfold membersFrom at h
      simp only [returns_bind, returns_memberPage,
        returns_lift] at h
      rcases h with
        ⟨page, _, ⟨hPage, rfl⟩, found, _, ⟨hSeen, rfl⟩, h⟩
      rcases Paging.page_cases hSize hStart
        (page_of_answer hId hFound hPage) with
        ⟨hMore, hShort, rfl⟩ | ⟨hLast, rfl⟩
      · rw [if_pos (Paging.truthy_cursorAt (by omega))] at h
        have hRest := ih hShort h
        refine ⟨?_, hRest.2.cons hStart⟩
        rw [← List.take_append_drop size
            (room.members.drop start),
          Datum.addNew_append, hSeen, List.drop_drop]
        exact hRest.1
      · simp only [Datum.truthy_text, bne_self_eq_false,
          Bool.false_eq_true, if_false, returns_pure] at h
        cases h.1
        exact ⟨hSeen,
          Paging.Writable.cons hStart
            (Paging.writable_of_le hLast)⟩

/- A listing holds each member of the room once. -/
theorem memberIds_returned
    (hId : id.isText = true)
    (hSize : 0 < size)
    (hFound : w.channels.get? id = some room)
    (h : (memberIds (.number size) id).Returns
      Workspace.remote w ids after) :
    Datum.distinct room.members = .ok ids ∧
      Paging.Writable size 0 room.members.length := by
  unfold memberIds at h
  simp only [returns_bind, returns_pageBound] at h
  rcases h with ⟨bound, _, ⟨-, rfl⟩, h⟩
  exact membersFrom_returned hId hSize hFound
    Numeral.numberLimit_pos h

/- Whoever is listed is a member, and the other way round. -/
theorem mem_of_listed
    {limits : Limits}
    (hLimits : limits.Positive)
    (hId : id.isText = true)
    (hTexts : ∀ userId ∈ room.members, userId.isText = true)
    (hFound : w.channels.get? id = some room)
    (h : (memberIds limits.members id).Returns
      Workspace.remote w ids after) :
    ∀ userId, userId ∈ ids ↔ userId ∈ room.members := by
  rcases hLimits.members with ⟨size, hSize, hLimit⟩
  rw [hLimit] at h
  exact Datum.mem_of_distinct hTexts
    (memberIds_returned hId hSize hFound h).1

end Access

end ChannelSync

------------------------------------------------------------
-- When a Listing Returns
------------------------------------------------------------

namespace ChannelSync

namespace Workspace

open Paging

variable {w : Workspace}
variable {id : Datum}
variable {room : Room}
variable {size : Nat}

/- Where nothing is laid in, members are shown in tiles. -/
theorem showsTiles_members
    (hOpen : w.failures.entries = [])
    (hId : id.isText = true)
    (hFound : w.channels.get? id = some room)
    (hSize : 0 < size)
    (hWritable : Writable size 0 room.members.length) :
    ShowsTiles
      (Access.memberSource remote (.number size) id) w
      room.members size := by
  intro n hn
  have hTyped :
      (Request.memberPage id
        (tile room.members size n).cursor
        (.number size)).WellTyped :=
    ⟨hId, isText_cursorAt _, rfl⟩
  have hAnswer :=
    answer_memberPage hId hFound
      (tile room.members size n).cursor (.number size)
  rw [refusal_of_no_failures hOpen hTyped,
    page_tile hSize hWritable hn] at hAnswer
  exact Prod.ext hAnswer (answer_read w rfl)

/- The bound on pages of members leaves room for all tiles. -/
theorem tiles_le_memberBound
    (hFound : w.channels.get? id = some room)
    (hSize : 0 < size) :
    (tiles room.members size).length ≤
      w.pageBound (.members id) (.number size) := by
  have hBound :
      w.pageBound (.members id) (.number size) =
        room.members.length + 1 := by
    simp [pageBound, Datum.amount?, hSize, listingLength,
      hFound]
  rw [hBound, tiles, List.length_map, List.length_range]
  exact tileCount_le hSize _

end Workspace

namespace Access

open Program

variable {w : Workspace}
variable {id : Datum}
variable {room : Room}
variable {size : Nat}

/-
  A listing of all members asks for the pages of the room one
  after the other, if no page is refused and every cursor can
  be written.
-/
theorem ends_memberIds
    (hId : id.isText = true)
    (hSize : 0 < size)
    (hFound : w.channels.get? id = some room)
    (hTexts : ∀ u ∈ room.members, u.isText = true)
    (hOpen : w.failures.entries = [])
    (hWritable :
      Paging.Writable size 0 room.members.length) :
    (memberIds (.number size) id).Ends Workspace.remote w
      (.ok room.members.eraseDups) w
      ((Paging.tiles room.members size).map
        (memberExchange (.number size) id)) := by
  have hWhole :=
    (Paging.tiled_tiles hSize room.members).whole
  have hTours :=
    Paging.tours_tiles hSize
      (Workspace.showsTiles_members hOpen hId hFound hSize
        hWritable)
  rw [← hWhole] at hTexts
  have hListed :=
    ends_memberIds_of_tours hTours hTexts
      (Workspace.tiles_le_memberBound hFound hSize)
  rw [hWhole] at hListed
  exact hListed

/- So a listing of all members returns. -/
theorem memberIds_returns
    (hId : id.isText = true)
    (hSize : 0 < size)
    (hFound : w.channels.get? id = some room)
    (hTexts : ∀ u ∈ room.members, u.isText = true)
    (hOpen : w.failures.entries = [])
    (hWritable :
      Paging.Writable size 0 room.members.length) :
    ∃ ids,
      (memberIds (.number size) id).Returns Workspace.remote
        w ids w :=
  ⟨_, (ends_memberIds hId hSize hFound hTexts hOpen
    hWritable).returns⟩

end Access

end ChannelSync

------------------------------------------------------------
-- Fetching
------------------------------------------------------------

namespace ChannelSync

/-
  A report has the attributes of a room, and its members as
  a set.
-/
structure Room.ShownAs
    (room : Room)
    (observed : Observed) :
    Prop where
  attributes : { observed with memberIds := [] } = room.state
  members :
    ∀ u, u ∈ observed.memberIds ↔ u ∈ room.members

namespace Access

open Program

variable {w after : Workspace}
variable {id : Datum}
variable {room : Room}
variable {size : Nat}

/- A channel that is fetched is reported as its room is. -/
theorem fetch_returned
    (hId : id.isText = true)
    (hSize : 0 < size)
    (hRoom : room.WellTyped)
    (hFound : w.channels.get? id = some room)
    {observed : Observed}
    (h : (fetch (.number size) id).Returns Workspace.remote
      w observed after) :
    room.ShownAs observed ∧ observed.memberIds.Nodup ∧
      Paging.Writable size 0 room.members.length := by
  unfold fetch at h
  simp only [returns_bind, returns_info, returns_pure] at h
  rcases h with
    ⟨channel, _, ⟨hInfo, rfl⟩, ids, _, hIds, rfl, rfl⟩
  rw [Workspace.answer_channelInfo hId hFound] at hInfo
  have hChannel : channel = room.state := by
    cases hRefusal : Workspace.refusal _ (.channelInfo id) with
    | error problem =>
        rw [hRefusal] at hInfo
        cases hInfo
    | ok _ =>
        rw [hRefusal] at hInfo
        cases hInfo
        rfl
  rcases memberIds_returned hId hSize hFound hIds with
    ⟨hDistinct, hWritable⟩
  refine ⟨⟨?_, ?_⟩, ?_, hWritable⟩
  · subst hChannel
    rw [← hRoom.memberIds]
  · exact Datum.mem_of_distinct hRoom.members hDistinct
  · exact Datum.nodup_of_distinct hRoom.members hDistinct

/- The channel that is fetched is the one asked for. -/
theorem id_of_fetch
    (hw : w.WellTyped)
    (hId : id.isText = true)
    {limit : Datum}
    {observed : Observed}
    (h : (fetch limit id).Returns Workspace.remote w observed
      after) :
    observed.id = id := by
  unfold fetch at h
  simp only [returns_bind, returns_info, returns_pure] at h
  rcases h with
    ⟨channel, _, ⟨hInfo, -⟩, ids, _, -, rfl, -⟩
  rcases room_of_info hId hInfo with ⟨room, hFound, rfl⟩
  exact hw.roomId_of_get? hId hFound

/-
  A channel is fetched where nothing is laid in and the
  cursors of its listing can be written.
-/
theorem ends_fetch
    (hId : id.isText = true)
    (hSize : 0 < size)
    (hRoom : room.WellTyped)
    (hFound : w.channels.get? id = some room)
    (hOpen : w.failures.entries = [])
    (hWritable :
      Paging.Writable size 0 room.members.length) :
    (fetch (.number size) id).Ends Workspace.remote w
      (.ok
        { room.state with
          memberIds := room.members.eraseDups }) w
      (⟨.channelInfo id, .ok room.state⟩ ::
        (Paging.tiles room.members size).map
          (memberExchange (.number size) id)) := by
  have hTyped : (Request.channelInfo id).WellTyped := hId
  have hAnswer : (w.answer (.channelInfo id)).1 =
      .ok room.state := by
    rw [Workspace.answer_channelInfo hId hFound,
      Workspace.refusal_of_no_failures hOpen hTyped]
    rfl
  have hInfo :
      (info id).Ends Workspace.remote w (.ok room.state) w
        [⟨.channelInfo id, .ok room.state⟩] := by
    rw [ends_info, hAnswer]
    exact ⟨rfl, rfl, rfl⟩
  have hListed :=
    ends_memberIds hId hSize hFound hRoom.members hOpen
      hWritable
  refine hInfo.bind ?_
  exact hListed.map fun ids =>
    { room.state with memberIds := ids }

/- So fetching it returns. -/
theorem fetch_returns
    (hId : id.isText = true)
    (hSize : 0 < size)
    (hRoom : room.WellTyped)
    (hFound : w.channels.get? id = some room)
    (hOpen : w.failures.entries = [])
    (hWritable :
      Paging.Writable size 0 room.members.length) :
    ∃ observed,
      (fetch (.number size) id).Returns Workspace.remote w
        observed w :=
  ⟨_, (ends_fetch hId hSize hRoom hFound hOpen
    hWritable).returns⟩

end Access

end ChannelSync
