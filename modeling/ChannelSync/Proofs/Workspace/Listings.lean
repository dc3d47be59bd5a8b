import ChannelSync.Proofs.Access.Fetching
import ChannelSync.Proofs.Reconciliation.Target

/-
  Plain reading of a workspace.

  Reading page by page comes to the same as reading at once.
  Where nothing is laid in, a workspace shows the tiles of its
  lists, whatever the size of a page.  So the members of a
  channel are listed as they are stored, each of them once,
  and a search finds the first channel of a name in the order
  of the workspace.  The pages behind that channel are not
  asked for.

  The one bound is that of positions that can be written: no
  list in memory comes near it.

  Key definitions include:
    * `Workspace.ListsMembers`
    * `Workspace.FindsFirst`

  Key theorems include:
    * `Workspace.WellTyped.listsMembers`
    * `Workspace.findsFirst`
    * `paged_reading_plain`
-/

------------------------------------------------------------
-- Members as They Are Stored
------------------------------------------------------------

namespace ChannelSync

open Paging Program

/-
  The members of every channel are listed as they are
  stored, each of them once, and a channel is fetched with
  the set of them.
-/
def Workspace.ListsMembers
    (w : Workspace)
    (size : Nat) :
    Prop :=
  ∀ id room,
    id.isText = true →
    w.channels.get? id = some room →
    room.members.length ≤ Numeral.numberLimit →
    (Access.memberIds (.number size) id).Ends
        Workspace.remote w (.ok room.members.eraseDups) w
        ((tiles room.members size).map
          (Access.memberExchange (.number size) id)) ∧
      (Access.fetch (.number size) id).Ends Workspace.remote w
        (.ok
          { room.state with
            memberIds := room.members.eraseDups }) w
        (⟨.channelInfo id, .ok room.state⟩ ::
          (tiles room.members size).map
            (Access.memberExchange (.number size) id))

variable {w : Workspace}
variable {size : Nat}

/- Where nothing is laid in, members are listed so. -/
theorem Workspace.WellTyped.listsMembers
    (hw : w.WellTyped)
    (hOpen : w.failures.entries = [])
    (hSize : 0 < size) :
    w.ListsMembers size := by
  intro id room hId hFound hLength
  have hRoom := hw.room_of_get? hId hFound
  have hWritable : Writable size 0 room.members.length :=
    writable_of_length_le hLength 0
  exact
    ⟨Access.ends_memberIds hId hSize hFound hRoom.members
      hOpen hWritable,
    Access.ends_fetch hId hSize hRoom hFound hOpen hWritable⟩

end ChannelSync

------------------------------------------------------------
-- The First Channel of a Name
------------------------------------------------------------

namespace ChannelSync

open Paging Program

/-
  A search finds the first channel of the name.  Without a
  channel of the name it asks for all pages, and says that
  none was found.
-/
structure Workspace.FindsFirst
    (w : Workspace)
    (size : Nat)
    (name : Datum) :
    Prop where
  found :
    ∀ channel,
      w.firstNamed name = some channel →
      w.FoundOnPage size name channel
  missing :
    w.firstNamed name = none →
      (findByName (.number size) name).Ends Workspace.remote
        w
        (.error (.failure
          (.single .notFound
            ("No channel named " ++ name.written)
            (.text "") none)))
        w
        ((tiles w.states size).map
          (Search.channelExchange (.number size)))
  fails_iff :
    ((findByName (.number size) name).run Workspace.remote
        w).result =
      .error (.failure
        (.single .notFound
          ("No channel named " ++ name.written)
          (.text "") none)) ↔
    w.firstNamed name = none

variable {w : Workspace}
variable {size : Nat}

/- Where nothing is laid in, channels are found so. -/
theorem Workspace.findsFirst
    (hOpen : w.failures.entries = [])
    (hSize : 0 < size)
    (hWritable : Writable size 0 w.states.length)
    (name : Datum) :
    w.FindsFirst size name := by
  have hMissing :
      w.firstNamed name = none →
        (findByName (.number size) name).Ends remote w
          (.error (.failure (Search.noneNamed name))) w
          ((tiles w.states size).map
            (Search.channelExchange (.number size))) := by
    intro hNone
    apply Search.ends_findByName_of_tours
      (tours_tiles hSize
        (showsTiles_channels hOpen hSize hWritable))
      _ (w.tiles_le_channelBound hSize)
    rw [(tiled_tiles hSize w.states).whole]
    exact hNone
  refine
    { found := fun _ => foundOnPage hOpen hSize hWritable
      missing := hMissing
      fails_iff :=
        ⟨?_, fun hNone => (hMissing hNone).result_eq⟩ }
  intro hFails
  cases hFirst : w.firstNamed name with
  | none => rfl
  | some channel =>
      rcases foundOnPage hOpen hSize hWritable hFirst with
        ⟨before, visit, later, -, -, -, hEnds⟩
      cases hFails.symm.trans hEnds.result_eq

end ChannelSync

------------------------------------------------------------
-- Reading Page by Page
------------------------------------------------------------

namespace ChannelSync

open Paging

/-
  Reading page by page is plain reading, for every size of a
  page: there is one tour through the pages of a list, and it
  shows the list in tiles.  So a workspace where nothing is
  laid in lists and finds what it stores.
-/
theorem paged_reading_plain :
    (∀ {α : Type} (items : List α) (size : Nat),
      0 < size →
      items.length ≤ Numeral.numberLimit →
      Tiled items size (tiles items size) ∧
        ∀ visits,
          Tours (ofList items (.number size)) () visits () ↔
            visits = tiles items size) ∧
    (∀ (w : Workspace) (channelSize memberSize : Nat),
      w.Reachable →
      w.failures.entries = [] →
      0 < channelSize →
      0 < memberSize →
      w.ListsMembers memberSize ∧
        (w.channels.entries.length ≤ Numeral.numberLimit →
          ∀ name, w.FindsFirst channelSize name)) := by
  constructor
  · intro α items size hSize hLength
    have hTours :=
      tours_tiles hSize
        (showsTiles_ofList hSize
          (writable_of_length_le hLength 0))
    refine ⟨tiled_tiles hSize items, fun visits => ?_⟩
    constructor
    · intro h
      exact (tours_unique h hTours).1
    · rintro rfl
      exact hTours
  · intro w channelSize memberSize hReach hOpen hChannels
      hMembers
    refine ⟨hReach.wellTyped.listsMembers hOpen hMembers, ?_⟩
    intro hLength
    rw [← Workspace.length_states] at hLength
    exact Workspace.findsFirst hOpen hChannels
      (writable_of_length_le hLength 0)

/- A channel with a member who was added twice. -/
def Room.gallery : Room where
  state := { id := .text "C1", name := .text "tea" }
  members := [.text "U1", .text "U2", .text "U1"]

/- It comes before two channels with one name. -/
def Workspace.gallery : Workspace :=
  { Workspace.staff with
    channels := ⟨[
      (.text "C1", Room.gallery),
      (.text "C2",
        ⟨{ id := .text "C2", name := .text "talk" }, []⟩),
      (.text "C3",
        ⟨{ id := .text "C3", name := .text "talk" }, []⟩)]⟩ }

/- The channels are added one by one. -/
theorem Workspace.reachable_gallery :
    Workspace.gallery.Reachable := by
  have hTyped :
      ∀ id name members : Datum,
        id.isText = true →
        name.isText = true →
        (members = .null ∨
          ∃ ids, members = .list ids ∧
            ∀ userId ∈ ids, userId.isText = true) →
        Seed.WellTyped
          { id := id, name := name, members := members } := by
    intro id name members hId hName hMembers
    exact
      { name := hName
        id := Or.inr hId
        description := rfl
        topic := rfl
        isPrivate := rfl
        archived := rfl
        members := hMembers }
  have hFirst :=
    reachable_staff.addChannel
      (hTyped (.text "C1") (.text "tea")
        (.list [.text "U1", .text "U2", .text "U1"]) rfl rfl
        (Or.inr ⟨_, rfl, by simp [Datum.isText]⟩))
  have hSecond :=
    hFirst.addChannel
      (hTyped (.text "C2") (.text "talk") .null rfl rfl
        (Or.inl rfl))
  exact
    hSecond.addChannel
      (hTyped (.text "C3") (.text "talk") .null rfl rfl
        (Or.inl rfl))

/-
  In the gallery both users are listed once each, and the
  first of the two channels is found on the second page.  A
  third name is not found, on any of the three pages.
-/
theorem paged_reading_sample :
    (Tiled [1, 2, 3] 2 (tiles [1, 2, 3] 2) ∧
      ∀ visits,
        Tours (ofList [1, 2, 3] (.number 2)) () visits () ↔
          visits = tiles [1, 2, 3] 2) ∧
      (Access.memberIds (.number 2) (.text "C1")).Ends
        Workspace.remote Workspace.gallery
        (.ok [.text "U1", .text "U2"]) Workspace.gallery
        [⟨.memberPage (.text "C1") (.text "") (.number 2),
            .ok ⟨[.text "U1", .text "U2"], .text "2"⟩⟩,
          ⟨.memberPage (.text "C1") (.text "2") (.number 2),
            .ok ⟨[.text "U1"], .text ""⟩⟩] ∧
      Workspace.gallery.FoundOnPage 1 (.text "talk")
        { id := .text "C2", name := .text "talk" } ∧
      (findByName (.number 1) (.text "nap")).Ends
        Workspace.remote Workspace.gallery
        (.error (.failure
          (.single .notFound "No channel named 'nap'"
            (.text "") none)))
        Workspace.gallery
        ((tiles Workspace.gallery.states 1).map
          (Search.channelExchange (.number 1))) := by
  have hThree : 3 ≤ Numeral.numberLimit :=
    Nat.le_of_lt (Numeral.length_toDigits_le_iff.mp
      (by decide))
  have hTours :=
    paged_reading_plain.1 [1, 2, 3] 2 (by decide) hThree
  have hPlain :=
    paged_reading_plain.2 Workspace.gallery 1 2
      Workspace.reachable_gallery rfl (by decide) (by decide)
  have hListed :=
    (hPlain.1 (.text "C1") Room.gallery rfl rfl hThree).1
  have hText :
      "No channel named " ++ (Datum.text "nap").written =
        "No channel named 'nap'" := by
    decide +kernel
  have hMissing :=
    (hPlain.2 hThree (.text "nap")).missing rfl
  rw [hText] at hMissing
  exact ⟨hTours, hListed,
    (hPlain.2 hThree (.text "talk")).found _ rfl, hMissing⟩

end ChannelSync
