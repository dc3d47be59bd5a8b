import ChannelSync.Proofs.Workspace.Answers
import ChannelSync.Proofs.Workspace.Pages

/-
  What holds of a workspace at all times.

  A workspace does not check what it is asked.  Still it
  stays in shape, whatever data come as arguments and
  whatever failures are laid in: a channel stands under its
  own identifier, no two channels have one name, members are
  known users, and no user is a member twice.  A reported
  channel never has members; those are in the listing only.

  Data count as equal here when they are interchangeable.

  Key definitions include:
    * `Room.WellFormed`
    * `Workspace.WellFormed`
    * `Workspace.serve`
    * `Exchange.Bare`

  Key theorems include:
    * `Workspace.WellFormed.putRoom`
    * `Workspace.WellFormed.answer`
    * `Workspace.serve_wellFormed`
-/

------------------------------------------------------------
-- Well-Formed Workspaces
------------------------------------------------------------

namespace ChannelSync

/- Members who are known users, each of them once. -/
structure Enrolled
    (users : Table Datum User)
    (members : List Datum) :
    Prop where
  distinct : members.Pairwise fun a b => (a == b) = false
  known :
    ∀ userId ∈ members, (users.get? userId).isSome = true

/- A channel in shape, in the place of an identifier. -/
structure Room.WellFormed
    (users : Table Datum User)
    (key : Datum)
    (room : Room) :
    Prop where
  id : (room.state.id == key) = true
  memberIds : room.state.memberIds = []
  members : Enrolled users room.members

namespace Workspace

/- A workspace in shape. -/
structure WellFormed
    (w : Workspace) :
    Prop where
  rooms :
    ∀ entry ∈ w.channels.entries,
      entry.2.WellFormed w.users entry.1
  roomKeys : w.channels.KeysDistinct
  names :
    w.channels.entries.Pairwise fun a b =>
      (a.2.state.name == b.2.state.name) = false
  userId :
    ∀ entry ∈ w.users.entries,
      (entry.2.id == entry.1) = true
  userKeys : w.users.KeysDistinct
  bot : (w.users.get? w.botId).isSome = true

end Workspace

end ChannelSync

------------------------------------------------------------
-- Sequences of Requests
------------------------------------------------------------

namespace ChannelSync

/- The channels that are reported in an answer. -/
def Request.reported :
    (request : Request) → request.Answer → List Observed
  | .channelInfo _, channel => [channel]
  | .createChannel _ _, channel => [channel]
  | .setPurpose _ _, channel => [channel]
  | .setTopic _ _, channel => [channel]
  | .renameChannel _ _, channel => [channel]
  | .channelPage _ _, page => page.items
  | .archiveChannel _, _ => []
  | .unarchiveChannel _, _ => []
  | .memberPage _ _ _, _ => []
  | .inviteMembers _ _, _ => []
  | .removeMember _ _, _ => []
  | .userByEmail _, _ => []
  | .userById _, _ => []

/- An exchange that reports no channel with members. -/
def Exchange.Bare
    (x : Exchange) :
    Prop :=
  ∀ answer, x.answer = .ok answer →
    ∀ channel ∈ x.request.reported answer,
      channel.memberIds = []

namespace Workspace

/-
  Answer one request after the other, each of them with the
  failures that are laid in by then.  Whatever comes out of a
  request, the next one is answered.
-/
def serve
    (w : Workspace) :
    List (Table Trigger Failure × Request) →
      List Exchange × Workspace
  | [] => ([], w)
  | (failures, request) :: rest =>
      let answered := (w.withFailures failures).answer request
      let served := answered.2.serve rest
      (⟨request, answered.1⟩ :: served.1, served.2)

end Workspace

end ChannelSync

------------------------------------------------------------
-- Rooms of Well-Formed Workspaces
------------------------------------------------------------

namespace ChannelSync

/- A room is in shape in any place of its identifier. -/
theorem Room.WellFormed.congr
    {users : Table Datum User}
    {key other : Datum}
    {room : Room}
    (h : room.WellFormed users key)
    (hSame : (other == key) = true) :
    room.WellFormed users other where
  id := BEq.trans h.id (BEq.symm hSame)
  memberIds := h.memberIds
  members := h.members

namespace Workspace

variable {w : Workspace}
variable {id : Datum}
variable {room : Room}

/- A room that is found is in shape. -/
theorem WellFormed.room_of_ok
    (hw : w.WellFormed)
    (h : w.room id = .ok room) :
    room.WellFormed w.users id := by
  rcases Table.exists_mem_of_get? (get?_of_room h) with
    ⟨key, hKey, hMem⟩
  exact (hw.rooms _ hMem).congr (BEq.symm hKey)

/- No other channel has the name of a room that is found. -/
theorem WellFormed.name_ne
    (hw : w.WellFormed)
    (h : w.room id = .ok room)
    {entry : Datum × Room}
    (hEntry : entry ∈ w.channels.entries)
    (hOther : (entry.1 == id) = false) :
    (entry.2.state.name == room.state.name) = false := by
  rcases Table.exists_mem_of_get? (get?_of_room h) with
    ⟨key, hKey, hMem⟩
  have hNames := hw.names
  rcases List.append_of_mem hMem with ⟨front, back, hSplit⟩
  rw [hSplit] at hNames hEntry
  rw [List.pairwise_append, List.pairwise_cons] at hNames
  rcases hNames with ⟨-, ⟨hBack, -⟩, hFront⟩
  rw [List.mem_append, List.mem_cons] at hEntry
  rcases hEntry with hBefore | rfl | hAfter
  · exact hFront entry hBefore _ List.mem_cons_self
  · rw [hKey] at hOther
    cases hOther
  · exact BEq.symm_false (hBack entry hAfter)

/-
  A room in shape may be put in its place, if no other
  channel has its name.
-/
theorem WellFormed.putRoom
    (hw : w.WellFormed)
    (hRoom : room.WellFormed w.users id)
    (hName :
      ∀ entry ∈ w.channels.entries,
        (entry.1 == id) = false →
          (entry.2.state.name == room.state.name) = false) :
    (w.putRoom id room).WellFormed where
  rooms := by
    intro entry hEntry
    rcases Table.mem_insert_cases hw.roomKeys hEntry with
      ⟨hKey, hSame⟩ | ⟨-, hOld⟩
    · rw [hSame]
      exact hRoom.congr hKey
    · exact hw.rooms entry hOld
  roomKeys := hw.roomKeys.insert id room
  names := by
    apply Table.pairwise_insert hw.roomKeys hw.names
    intro _ entry _ hEntry hOther
    have hNe := hName entry hEntry hOther
    exact ⟨hNe, BEq.symm_false hNe⟩
  userId := hw.userId
  userKeys := hw.userKeys
  bot := hw.bot

/- A room that keeps its name may always be put back. -/
theorem WellFormed.putRoom_of_name
    (hw : w.WellFormed)
    {old : Room}
    (hOld : w.room id = .ok old)
    (hRoom : room.WellFormed w.users id)
    (hName : room.state.name = old.state.name) :
    (w.putRoom id room).WellFormed := by
  apply hw.putRoom hRoom
  intro entry hEntry hOther
  rw [hName]
  exact hw.name_ne hOld hEntry hOther

/- Failures do not matter for the shape of a workspace. -/
theorem WellFormed.withFailures
    (hw : w.WellFormed)
    (failures : Table Trigger Failure) :
    (w.withFailures failures).WellFormed :=
  ⟨hw.rooms, hw.roomKeys, hw.names, hw.userId, hw.userKeys,
    hw.bot⟩

end Workspace

end ChannelSync

------------------------------------------------------------
-- Members of Well-Formed Workspaces
------------------------------------------------------------

namespace ChannelSync

/- A known user who is no member yet may become one. -/
theorem Enrolled.add
    {users : Table Datum User}
    {members : List Datum}
    {userId : Datum}
    (h : Enrolled users members)
    (hUser : (users.get? userId).isSome = true)
    (hNew : members.contains userId = false) :
    Enrolled users (members ++ [userId]) where
  distinct := by
    rw [List.pairwise_append]
    refine ⟨h.distinct, by simp, ?_⟩
    intro member hMember other hOther
    rw [List.mem_singleton] at hOther
    subst hOther
    rw [List.contains_eq_any_beq, List.any_eq_false] at hNew
    exact BEq.symm_false
      (Bool.eq_false_iff.mpr (hNew member hMember))
  known := by
    intro other hOther
    rw [List.mem_append, List.mem_singleton] at hOther
    rcases hOther with hOld | rfl
    · exact h.known other hOld
    · exact hUser

/- Members may always leave. -/
theorem Enrolled.erase
    {users : Table Datum User}
    {members : List Datum}
    (h : Enrolled users members)
    (userId : Datum) :
    Enrolled users (members.erase userId) where
  distinct := h.distinct.sublist List.erase_sublist
  known := fun other hOther =>
    h.known other (List.mem_of_mem_erase hOther)

/-
  Invitations add known users who are no members yet, up to
  the one that is refused.
-/
theorem Enrolled.enrol
    {w : Workspace}
    {members userIds : List Datum}
    (h : Enrolled w.users members) :
    Enrolled w.users (w.enrol members userIds).2 := by
  induction userIds generalizing members with
  | nil => exact h
  | cons userId rest ih =>
      unfold Workspace.enrol
      split
      · exact h
      · split
        · exact h
        · split
          · exact h
          · split
            · exact h
            · rename_i hUser hNew
              apply ih
              apply h.add
              · rwa [Option.isNone_iff_eq_none,
                  ← ne_eq, ← Option.isSome_iff_ne_none]
                  at hUser
              · exact Bool.eq_false_iff.mpr hNew

end ChannelSync

------------------------------------------------------------
-- Requests Keep Workspaces in Shape
------------------------------------------------------------

namespace ChannelSync

namespace Workspace

variable {w : Workspace}
variable {id name : Datum}

/- What an update does to a workspace in shape. -/
theorem WellFormed.update
    (hw : w.WellFormed)
    {change : Observed → Observed}
    (hId : ∀ state, (change state).id = state.id)
    (hMembers :
      ∀ state, (change state).memberIds = state.memberIds)
    (hName :
      ∀ room, w.room id = .ok room →
        ∀ entry ∈ w.channels.entries,
          (entry.1 == id) = false →
            (entry.2.state.name ==
              (change room.state).name) = false) :
    (w.update id change).2.WellFormed := by
  unfold Workspace.update
  cases hFound : w.room id with
  | error problem => exact hw
  | ok room =>
      have hRoom := hw.room_of_ok hFound
      apply hw.putRoom
      · exact
          { id := (hId room.state).symm ▸ hRoom.id
            memberIds :=
              (hMembers room.state).trans hRoom.memberIds
            members := hRoom.members }
      · exact hName room hFound

/- A change of attributes that keeps the name is harmless. -/
theorem WellFormed.update_of_name
    (hw : w.WellFormed)
    {change : Observed → Observed}
    (hId : ∀ state, (change state).id = state.id)
    (hMembers :
      ∀ state, (change state).memberIds = state.memberIds)
    (hName : ∀ state, (change state).name = state.name) :
    (w.update id change).2.WellFormed := by
  apply hw.update hId hMembers
  intro room hFound entry hEntry hOther
  rw [hName]
  exact hw.name_ne hFound hEntry hOther

/- So is a move to the archive or out of it. -/
theorem WellFormed.setArchived
    (hw : w.WellFormed)
    (archived : Bool) :
    (w.setArchived id archived).2.WellFormed := by
  unfold Workspace.setArchived
  cases w.room id with
  | error problem => exact hw
  | ok room =>
      simp only
      split
      · exact hw
      · exact hw.update_of_name (fun _ => rfl)
          (fun _ => rfl) fun _ => rfl

/- A name that is free for a channel is no other one's. -/
theorem name_ne_of_nameUsed
    (h : w.nameUsed name (some id) = false)
    {entry : Datum × Room}
    (hEntry : entry ∈ w.channels.entries)
    (hOther : (entry.1 == id) = false) :
    (entry.2.state.name == name) = false := by
  have hNone := List.any_eq_false.mp h entry hEntry
  simpa [bne, hOther] using hNone

/- A new channel has a name of its own and one member. -/
theorem WellFormed.createChannel
    (hw : w.WellFormed)
    (isPrivate : Datum) :
    (w.createChannel name isPrivate).2.WellFormed := by
  unfold Workspace.createChannel
  split
  case isTrue => exact hw
  case isFalse hUnused =>
      have hNumbered :
          { w with
            numbered := w.numbered + 1 }.WellFormed :=
        ⟨hw.rooms, hw.roomKeys, hw.names, hw.userId,
          hw.userKeys, hw.bot⟩
      apply hNumbered.putRoom
      · exact
          { id := BEq.rfl
            memberIds := rfl
            members :=
              { distinct := by simp
                known := by simpa using hw.bot } }
      · intro entry hEntry _
        have hNone :=
          List.any_eq_false.mp
            (Bool.eq_false_iff.mpr hUnused) entry hEntry
        simpa using hNone

/- Every request leaves a workspace in shape. -/
theorem WellFormed.answer
    (hw : w.WellFormed)
    (request : Request) :
    (w.answer request).2.WellFormed := by
  unfold Workspace.answer
  cases w.refusal request with
  | error problem => exact hw
  | ok _ =>
      cases request with
      | channelInfo id => exact hw
      | memberPage id cursor limit => exact hw
      | channelPage cursor limit => exact hw
      | userByEmail email => exact hw
      | userById id => exact hw
      | createChannel name isPrivate =>
          exact hw.createChannel isPrivate
      | setPurpose id purpose =>
          simp only [grant, setPurpose]
          cases purpose.escaped with
          | error fault => exact hw
          | ok stored =>
              exact hw.update_of_name (fun _ => rfl)
                (fun _ => rfl) fun _ => rfl
      | setTopic id topic =>
          simp only [grant, setTopic]
          cases topic.escaped with
          | error fault => exact hw
          | ok stored =>
              exact hw.update_of_name (fun _ => rfl)
                (fun _ => rfl) fun _ => rfl
      | renameChannel id name =>
          simp only [grant, renameChannel]
          split
          case isTrue => exact hw
          case isFalse hUnused =>
              refine hw.update (fun _ => rfl)
                (fun _ => rfl) ?_
              intro _ _ entry hEntry hOther
              exact name_ne_of_nameUsed
                (Bool.eq_false_iff.mpr hUnused) hEntry hOther
      | archiveChannel id => exact hw.setArchived true
      | unarchiveChannel id => exact hw.setArchived false
      | inviteMembers id userIds =>
          simp only [grant, inviteMembers]
          cases hFound : w.room id with
          | error problem => exact hw
          | ok room =>
              have hRoom := hw.room_of_ok hFound
              exact hw.putRoom_of_name hFound
                ⟨hRoom.id, hRoom.memberIds,
                  hRoom.members.enrol⟩ rfl
      | removeMember id userId =>
          simp only [grant, removeMember]
          cases hFound : w.room id with
          | error problem => exact hw
          | ok room =>
              have hRoom := hw.room_of_ok hFound
              simp only
              split
              · exact hw.putRoom_of_name hFound
                  ⟨hRoom.id, hRoom.memberIds,
                    hRoom.members.erase userId⟩ rfl
              · exact hw

end Workspace

end ChannelSync

------------------------------------------------------------
-- Reported Channels Are Bare
------------------------------------------------------------

namespace ChannelSync

namespace Workspace

variable {w : Workspace}
variable {id : Datum}

/- A channel that is shown after an update has no members. -/
theorem WellFormed.bare_update
    (hw : w.WellFormed)
    {change : Observed → Observed}
    {channel : Observed}
    (h : (w.update id change).1 = .ok channel)
    (hMembers :
      ∀ state, (change state).memberIds = state.memberIds) :
    channel.memberIds = [] := by
  unfold Workspace.update at h
  cases hFound : w.room id with
  | error problem =>
      rw [hFound] at h
      cases h
  | ok room =>
      rw [hFound] at h
      cases h
      exact (hMembers room.state).trans
        (hw.room_of_ok hFound).memberIds

/- Nor has any channel on a page of the listing. -/
theorem WellFormed.bare_channelPage
    (hw : w.WellFormed)
    {cursor limit : Datum}
    {page : Page Observed}
    (h : w.channelPage cursor limit = .ok page) :
    ∀ channel ∈ page.items, channel.memberIds = [] := by
  intro channel hChannel
  have hMem :=
    (Paging.page_sound (mapError_eq_ok.mp h)).1 channel
      hChannel
  simp only [Table.values, List.map_map, List.mem_map,
    Function.comp] at hMem
  rcases hMem with ⟨entry, hEntry, rfl⟩
  exact (hw.rooms entry hEntry).memberIds

/- No answer reports a channel with members. -/
theorem WellFormed.bare_answer
    (hw : w.WellFormed)
    (request : Request) :
    Exchange.Bare ⟨request, (w.answer request).1⟩ := by
  intro answer hAnswer channel hChannel
  have hGrant := grant_of_answer hAnswer
  cases request with
  | channelInfo id =>
      rw [List.mem_singleton.mp hChannel]
      cases hFound : w.room id with
      | error problem =>
          simp only [grant, hFound] at hGrant
          cases hGrant
      | ok room =>
          simp only [grant, hFound] at hGrant
          cases hGrant
          exact (hw.room_of_ok hFound).memberIds
  | createChannel name isPrivate =>
      rw [List.mem_singleton.mp hChannel]
      simp only [grant, Workspace.createChannel] at hGrant
      split at hGrant
      case isTrue => cases hGrant
      case isFalse =>
          cases hGrant
          rfl
  | setPurpose id purpose =>
      rw [List.mem_singleton.mp hChannel]
      simp only [grant, setPurpose] at hGrant
      split at hGrant
      case h_1 => cases hGrant
      case h_2 => exact hw.bare_update hGrant fun _ => rfl
  | setTopic id topic =>
      rw [List.mem_singleton.mp hChannel]
      simp only [grant, setTopic] at hGrant
      split at hGrant
      case h_1 => cases hGrant
      case h_2 => exact hw.bare_update hGrant fun _ => rfl
  | renameChannel id name =>
      rw [List.mem_singleton.mp hChannel]
      simp only [grant, renameChannel] at hGrant
      split at hGrant
      case isTrue => cases hGrant
      case isFalse =>
          exact hw.bare_update hGrant fun _ => rfl
  | channelPage cursor limit =>
      exact hw.bare_channelPage hGrant channel hChannel
  | archiveChannel id => cases hChannel
  | unarchiveChannel id => cases hChannel
  | memberPage id cursor limit => cases hChannel
  | inviteMembers id userIds => cases hChannel
  | removeMember id userId => cases hChannel
  | userByEmail email => cases hChannel
  | userById id => cases hChannel

end Workspace

end ChannelSync

------------------------------------------------------------
-- Whole Sequences
------------------------------------------------------------

namespace ChannelSync

namespace Workspace

/-
  A workspace in shape stays so over any sequence of requests
  and laid-in failures, and never reports a channel with
  members.
-/
theorem serve_wellFormed
    {w : Workspace}
    (hw : w.WellFormed)
    (steps : List (Table Trigger Failure × Request)) :
    (w.serve steps).2.WellFormed ∧
      ∀ x ∈ (w.serve steps).1, x.Bare := by
  induction steps generalizing w with
  | nil => exact ⟨hw, by simp [Workspace.serve]⟩
  | cons step rest ih =>
      rcases step with ⟨failures, request⟩
      have hLaid := hw.withFailures failures
      rcases ih (hLaid.answer request) with ⟨hAfter, hBare⟩
      refine ⟨hAfter, ?_⟩
      exact List.forall_mem_cons.mpr
        ⟨hLaid.bare_answer request, hBare⟩

end Workspace

end ChannelSync

------------------------------------------------------------
-- First Workspaces
------------------------------------------------------------

namespace ChannelSync

namespace Workspace

/- A workspace is in shape at the start. -/
theorem wellFormed_empty
    {botId : Datum}
    {w : Workspace}
    (h : Workspace.empty botId = .ok w) :
    w.WellFormed := by
  unfold Workspace.empty Workspace.addUser at h
  split at h
  case isFalse => cases h
  case isTrue =>
      cases h
      exact
        { rooms := by simp
          roomKeys := .nil
          names := .nil
          userId := by simp [Table.insert, Table.insertIn]
          userKeys := by
            simp [Table.KeysDistinct, Table.insert,
              Table.insertIn]
          bot := by simp }

/- Two users and a channel that one of them is in. -/
def office : Workspace where
  botId := .text "U0"
  users := ⟨[
    (.text "U0",
      { id := .text "U0", isBot := .flag true }),
    (.text "U1",
      { id := .text "U1", email := .text "a@x" }),
    (.text "U2",
      { id := .text "U2", email := .text "b@x" })]⟩
  channels := ⟨[
    (.text "C1",
      ⟨{ id := .text "C1", name := .text "lunch" },
        [.text "U2"]⟩)]⟩

theorem wellFormed_office :
    office.WellFormed where
  rooms := by
    intro entry hEntry
    rw [List.mem_singleton.mp hEntry]
    exact
      { id := by decide
        memberIds := rfl
        members := ⟨by simp, by decide⟩ }
  roomKeys := by decide
  names := by decide
  userId := by decide
  userKeys := by decide
  bot := by decide

/- Requests that are refused half-way, or make no sense. -/
def officeSteps :
    List (Table Trigger Failure × Request) :=
  [({}, .inviteMembers (.text "C1")
      [.text "U1", .text "U9", .text "U0"]),
    (⟨[(⟨.text "set_topic", .text "C1"⟩,
        .single .remote "no" (.text "restricted") none)]⟩,
      .setTopic (.text "C1") (.text "soup")),
    ({}, .createChannel (.text "lunch") (.flag true)),
    ({}, .createChannel (.number 1) .null),
    ({}, .renameChannel (.text "C1") (.flag true)),
    ({}, .channelPage (.text "x") (.number (-1)))]

/- The workspace survives them. -/
theorem serve_office :
    (office.serve officeSteps).2.WellFormed ∧
      ∀ x ∈ (office.serve officeSteps).1, x.Bare :=
  serve_wellFormed wellFormed_office officeSteps

/- The first of several users is invited before an error. -/
example :
    ((office.serve officeSteps).2.channels.get?
        (.text "C1")).map (fun room => room.members) =
      some [.text "U2", .text "U1"] := by
  decide +kernel

end Workspace

end ChannelSync
