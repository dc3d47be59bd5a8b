import ChannelSync.Proofs.Workspace.Answers

/-
  Channels that do not get in each other's way.

  Bringing a channel in line takes requests about that
  channel, and look-ups of users.  Their answers depend on
  the room of the channel, on what no request changes, and
  on one thing more: a channel can only be renamed while no
  other one has the name.  So two workspaces that differ in
  the rooms of other channels answer alike, if the name is as
  free in the one as in the other.

  Key definitions include:
    * `Request.Confined`
    * `Workspace.Backs`
    * `Workspace.GoesAlike`

  Key theorems include:
    * `Workspace.putRoom_comm`
    * `Workspace.nameUsed_putRoom_of_ne`
    * `Workspace.Backs.goesAlike_answer`
-/

------------------------------------------------------------
-- Requests That Keep to One Channel
------------------------------------------------------------

namespace ChannelSync

/-
  A request that reads or changes a channel or looks a user
  up, and gives the channel no name but one.
-/
inductive Request.Confined
    (id name : Datum) :
    Request → Prop where
  | channelInfo :
      Confined id name (.channelInfo id)
  | setPurpose (purpose : Datum) :
      Confined id name (.setPurpose id purpose)
  | setTopic (topic : Datum) :
      Confined id name (.setTopic id topic)
  | renameChannel :
      Confined id name (.renameChannel id name)
  | unarchiveChannel :
      Confined id name (.unarchiveChannel id)
  | memberPage (cursor limit : Datum) :
      Confined id name (.memberPage id cursor limit)
  | inviteMembers (userIds : List Datum) :
      Confined id name (.inviteMembers id userIds)
  | removeMember (userId : Datum) :
      Confined id name (.removeMember id userId)
  | userByEmail (email : Datum) :
      Confined id name (.userByEmail email)
  | userById (userId : Datum) :
      Confined id name (.userById userId)

end ChannelSync

------------------------------------------------------------
-- Rooms Side by Side
------------------------------------------------------------

namespace ChannelSync

namespace Workspace

variable {w : Workspace}
variable {id other name : Datum}
variable {room room' old : Room}

/- Two rooms can be put in either order. -/
theorem putRoom_comm
    (hKnown : w.channels.get? id = some old)
    (hNe : (id == other) = false)
    (room room' : Room) :
    (w.putRoom id room).putRoom other room' =
      (w.putRoom other room').putRoom id room := by
  simp only [putRoom, Table.insert_comm hKnown hNe]

/- The other channels are found as before. -/
theorem get?_putRoom_of_ne
    (h : (other == id) = false)
    (w : Workspace)
    (room : Room) :
    (w.putRoom id room).channels.get? other =
      w.channels.get? other :=
  Table.get?_insert_of_ne w.channels h room

/- A channel that is there keeps its place. -/
theorem keys_putRoom
    (hKnown : w.channels.get? id = some old)
    (room : Room) :
    (w.putRoom id room).channels.keys = w.channels.keys := by
  have hKeys := Table.keys_insert_congr w.channels id room old
  rwa [Table.insert_of_get? hKnown] at hKeys

/-
  A room that takes the place of another one leaves a name
  as free as it was, if neither of the two has it.
-/
theorem nameUsed_putRoom_of_ne
    (hKnown : w.channels.get? id = some old)
    (hOld : (old.state.name == name) = false)
    (hNew : (room.state.name == name) = false)
    (except? : Option Datum) :
    (w.putRoom id room).nameUsed name except? =
      w.nameUsed name except? := by
  rcases w with ⟨botId, ⟨entries⟩, users, failures, numbered⟩
  simp only [nameUsed, putRoom, Table.insert, Table.get?]
    at hKnown ⊢
  induction entries with
  | nil => simp at hKnown
  | cons entry rest ih =>
      rcases entry with ⟨k, r⟩
      rw [List.lookup_cons] at hKnown
      cases hKey : k == id with
      | true =>
          rw [BEq.symm hKey] at hKnown
          cases hKnown
          simp [Table.insertIn, hKey, hOld, hNew]
      | false =>
          rw [BEq.symm_false hKey] at hKnown
          unfold Table.insertIn
          simp only [hKey, Bool.false_eq_true, if_false,
            List.any_cons, ih hKnown]

end Workspace

end ChannelSync

------------------------------------------------------------
-- Answers in Front of Two Workspaces
------------------------------------------------------------

namespace ChannelSync

namespace Workspace

/-
  A workspace that can stand behind the room of a channel in
  place of another one: the channel cannot tell them apart.
-/
structure Backs
    (u w : Workspace)
    (id name : Datum) :
    Prop extends w.Alike u where
  botId : u.botId = w.botId
  nameUsed :
    u.nameUsed name (some id) = w.nameUsed name (some id)

variable {u w : Workspace}
variable {id name : Datum}

/- A room that was put is found, if it can be asked for. -/
theorem room_putRoom_eq
    (w : Workspace)
    (id : Datum)
    (room : Room) :
    (w.putRoom id room).room id =
      if id.isAtom then .ok room
      else .error (.fault .wrongType) := by
  simp [Workspace.room]

/- A workspace may have any room of the channel in it. -/
theorem backs_putRoom
    (w : Workspace)
    (id name : Datum)
    (room : Room) :
    (w.putRoom id room).Backs w id name where
  users := rfl
  failures := rfl
  botId := rfl
  nameUsed := nameUsed_putRoom w id room name

/- Users are enrolled alike. -/
theorem Backs.enrol
    (h : u.Backs w id name)
    (members userIds : List Datum) :
    u.enrol members userIds = w.enrol members userIds := by
  induction userIds generalizing members with
  | nil => rfl
  | cons userId rest ih =>
      simp only [Workspace.enrol, h.botId, h.users, ih]

/- What is laid in is the same. -/
theorem Backs.refusal
    (h : u.Backs w id name)
    (request : Request) :
    u.refusal request = w.refusal request :=
  laidIn_congr w u h.failures _ _

end Workspace

end ChannelSync

------------------------------------------------------------
-- Going Alike
------------------------------------------------------------

namespace ChannelSync

namespace Workspace

/-
  An operation on the room of a channel goes alike in front
  of two workspaces: they give one answer and have one room
  afterwards, with the old name or the one it may get.
-/
def GoesAlike
    (u w : Workspace)
    (id name : Datum)
    (room : Room)
    (operation : Workspace → Except Problem α × Workspace) :
    Prop :=
  ∃ answer room',
    operation (w.putRoom id room) =
        (answer, w.putRoom id room') ∧
      operation (u.putRoom id room) =
        (answer, u.putRoom id room') ∧
      (room'.state.name = room.state.name ∨
        room'.state.name = name)

variable {u w : Workspace}
variable {id name : Datum}
variable {room : Room}

/- What changes nothing goes alike if it answers alike. -/
theorem goesAlike_of_same
    {operation : Workspace → Except Problem α}
    (h :
      operation (u.putRoom id room) =
        operation (w.putRoom id room)) :
    GoesAlike u w id name room fun v => (operation v, v) :=
  ⟨_, room, rfl, congrArg (·, _) h, Or.inl rfl⟩

/- A change of attributes goes alike. -/
theorem goesAlike_update
    {change : Observed → Observed}
    (hChange :
      (change room.state).name = room.state.name ∨
        (change room.state).name = name) :
    GoesAlike u w id name room fun v =>
      v.update id change := by
  unfold GoesAlike Workspace.update
  simp only [room_putRoom_eq]
  cases id.isAtom with
  | false => exact ⟨_, room, rfl, rfl, Or.inl rfl⟩
  | true =>
      simp only [if_true, putRoom_putRoom]
      exact ⟨_, _, rfl, rfl, hChange⟩

/- So does a renaming, while the name is as free. -/
theorem goesAlike_renameChannel
    (h :
      u.nameUsed name (some id) =
        w.nameUsed name (some id)) :
    GoesAlike u w id name room fun v =>
      v.renameChannel id name := by
  unfold GoesAlike Workspace.renameChannel
  simp only [nameUsed_putRoom, h]
  split
  · exact ⟨_, room, rfl, rfl, Or.inl rfl⟩
  · exact goesAlike_update (Or.inr rfl)

/- So does a move to the archive or out of it. -/
theorem goesAlike_setArchived
    (archived : Bool) :
    GoesAlike u w id name room fun v =>
      v.setArchived id archived := by
  unfold GoesAlike Workspace.setArchived Workspace.update
  simp only [room_putRoom_eq]
  cases id.isAtom with
  | false => exact ⟨_, room, rfl, rfl, Or.inl rfl⟩
  | true =>
      simp only [if_true, putRoom_putRoom]
      split
      · exact ⟨_, room, rfl, rfl, Or.inl rfl⟩
      · exact ⟨_, _, rfl, rfl, Or.inl rfl⟩

/- So do invitations, where the users are the same. -/
theorem Backs.goesAlike_inviteMembers
    (h : u.Backs w id name)
    (userIds : List Datum) :
    GoesAlike u w id name room fun v =>
      v.inviteMembers id userIds := by
  have hEnrol :
      ∀ v : Workspace,
        (v.putRoom id room).enrol room.members userIds =
          v.enrol room.members userIds :=
    fun v => (backs_putRoom v id name room).enrol _ _
  unfold GoesAlike Workspace.inviteMembers
  simp only [room_putRoom_eq]
  cases id.isAtom with
  | false => exact ⟨_, room, rfl, rfl, Or.inl rfl⟩
  | true =>
      simp only [if_true, hEnrol, h.enrol, putRoom_putRoom]
      exact ⟨_, _, rfl, rfl, Or.inl rfl⟩

/- So do removals. -/
theorem goesAlike_removeMember
    (userId : Datum) :
    GoesAlike u w id name room fun v =>
      v.removeMember id userId := by
  unfold GoesAlike Workspace.removeMember
  simp only [room_putRoom_eq]
  cases id.isAtom with
  | false => exact ⟨_, room, rfl, rfl, Or.inl rfl⟩
  | true =>
      simp only [if_true, putRoom_putRoom]
      split
      · exact ⟨_, _, rfl, rfl, Or.inl rfl⟩
      · exact ⟨_, room, rfl, rfl, Or.inl rfl⟩

/- A request is granted alike in front of both. -/
theorem Backs.goesAlike_grant
    (h : u.Backs w id name)
    {request : Request}
    (hRequest : request.Confined id name) :
    GoesAlike u w id name room fun v => v.grant request := by
  cases hRequest with
  | channelInfo =>
      exact goesAlike_of_same
        (by simp only [room_putRoom_eq])
  | memberPage cursor limit =>
      exact goesAlike_of_same
        (by simp only [memberPage, room_putRoom_eq])
  | userByEmail email =>
      exact goesAlike_of_same
        (by simp [userByEmail, putRoom, h.users])
  | userById userId =>
      exact goesAlike_of_same
        (by simp [userById, putRoom, h.users])
  | setPurpose purpose =>
      simp only [Workspace.grant, Workspace.setPurpose]
      cases purpose.escaped with
      | error fault => exact goesAlike_of_same rfl
      | ok stored => exact goesAlike_update (Or.inl rfl)
  | setTopic topic =>
      simp only [Workspace.grant, Workspace.setTopic]
      cases topic.escaped with
      | error fault => exact goesAlike_of_same rfl
      | ok stored => exact goesAlike_update (Or.inl rfl)
  | renameChannel => exact goesAlike_renameChannel h.nameUsed
  | unarchiveChannel => exact goesAlike_setArchived false
  | inviteMembers userIds =>
      exact h.goesAlike_inviteMembers userIds
  | removeMember userId => exact goesAlike_removeMember userId

/-
  A request that keeps to the channel is answered alike in
  front of both.
-/
theorem Backs.goesAlike_answer
    (h : u.Backs w id name)
    {request : Request}
    (hRequest : request.Confined id name)
    (room : Room) :
    GoesAlike u w id name room fun v =>
      v.answer request := by
  unfold GoesAlike Workspace.answer
  simp only [refusal_putRoom, h.refusal]
  cases w.refusal request with
  | error problem => exact ⟨_, room, rfl, rfl, Or.inl rfl⟩
  | ok _ => exact h.goesAlike_grant hRequest

/- The listing of its members is as long in both. -/
theorem pageBound_in_front
    (u w : Workspace)
    (id : Datum)
    (room : Room)
    (limit : Datum) :
    (u.putRoom id room).pageBound (.members id) limit =
      (w.putRoom id room).pageBound (.members id) limit := by
  simp [pageBound, listingLength]

end Workspace

end ChannelSync
