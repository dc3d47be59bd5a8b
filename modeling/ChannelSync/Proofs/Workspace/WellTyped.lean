import ChannelSync.Proofs.Table.Entries
import ChannelSync.Proofs.Text.StoredForm
import ChannelSync.Workspace.Operations

/-
  Well-typed values and workspaces.

  Identifiers, names, texts and addresses are texts, and
  flags are flags: this is what the callers of a workspace
  promise about everything that they pass to it.  Then a
  workspace holds nothing else, and every channel and user
  stands in it under its own identifier.

  Key definitions include:
    * `Desired.WellTyped` and `Request.WellTyped`
    * `Workspace.WellTyped`
    * `Workspace.Reachable`

  Key theorems include:
    * `Workspace.WellTyped.answer`
    * `Workspace.Reachable.wellTyped`
-/

------------------------------------------------------------
-- Values
------------------------------------------------------------

namespace ChannelSync

/- A declaration as its owner may write it. -/
structure Desired.WellTyped
    (desired : Desired) :
    Prop where
  name : desired.name.isText = true
  description : desired.description.isText = true
  topic : desired.topic.isText = true
  isPrivate : desired.isPrivate.isFlag = true
  members : ∀ email ∈ desired.members, email.isText = true
  distinct : desired.members.Nodup

/- The attributes of a channel, as a platform keeps them. -/
structure Observed.WellTyped
    (observed : Observed) :
    Prop where
  id : observed.id.isText = true
  name : observed.name.isText = true
  description : observed.description.isText = true
  topic : observed.topic.isText = true
  isPrivate : observed.isPrivate.isFlag = true
  archived : observed.archived.isFlag = true

/- A user as a platform knows it. -/
structure User.WellTyped
    (user : User) :
    Prop where
  id : user.id.isText = true
  email : user.email.isText = true
  isBot : user.isBot.isFlag = true

/- A channel that may be added to a workspace. -/
structure Seed.WellTyped
    (seed : Seed) :
    Prop where
  name : seed.name.isText = true
  id : seed.id = .null ∨ seed.id.isText = true
  description : seed.description.isText = true
  topic : seed.topic.isText = true
  isPrivate : seed.isPrivate.isFlag = true
  archived : seed.archived.isFlag = true
  members :
    seed.members = .null ∨
      ∃ ids, seed.members = .list ids ∧
        ∀ id ∈ ids, id.isText = true

/- A request as a platform may get it. -/
def Request.WellTyped : Request → Prop
  | channelInfo id => id.isText = true
  | createChannel name isPrivate =>
      name.isText = true ∧ isPrivate.isFlag = true
  | setPurpose id purpose =>
      id.isText = true ∧ purpose.isText = true
  | setTopic id topic =>
      id.isText = true ∧ topic.isText = true
  | renameChannel id name =>
      id.isText = true ∧ name.isText = true
  | archiveChannel id => id.isText = true
  | unarchiveChannel id => id.isText = true
  | memberPage id cursor limit =>
      id.isText = true ∧ cursor.isText = true ∧
        limit.isNumeric = true
  | inviteMembers id userIds =>
      id.isText = true ∧
        ∀ userId ∈ userIds, userId.isText = true
  | removeMember id userId =>
      id.isText = true ∧ userId.isText = true
  | channelPage cursor limit =>
      cursor.isText = true ∧ limit.isNumeric = true
  | userByEmail email => email.isText = true
  | userById id => id.isText = true

end ChannelSync

------------------------------------------------------------
-- Workspaces
------------------------------------------------------------

namespace ChannelSync

/- A channel of a workspace with its members. -/
structure Room.WellTyped
    (room : Room) :
    Prop where
  state : room.state.WellTyped
  memberIds : room.state.memberIds = []
  members : ∀ userId ∈ room.members, userId.isText = true

namespace Workspace

/-
  A workspace that holds well-typed values only, each under
  its own identifier, and no identifier twice.
-/
structure WellTyped
    (w : Workspace) :
    Prop where
  botId : w.botId.isText = true
  room :
    ∀ entry ∈ w.channels.entries, entry.2.WellTyped
  roomId :
    ∀ entry ∈ w.channels.entries, entry.2.state.id = entry.1
  roomKeys : w.channels.keys.Nodup
  user :
    ∀ entry ∈ w.users.entries, entry.2.WellTyped
  userId :
    ∀ entry ∈ w.users.entries, entry.2.id = entry.1
  userKeys : w.users.keys.Nodup

/- The same workspace with other failures laid in. -/
def withFailures
    (w : Workspace)
    (failures : Table Trigger Failure) :
    Workspace :=
  { w with failures := failures }

/-
  A workspace that can come about: it starts with no user
  but its own, users and channels are added, failures are
  laid in and taken back at will, and requests are answered.
-/
inductive Reachable : Workspace → Prop where
  | empty
      {botId : Datum}
      {w : Workspace}
      (hBot : botId.isText = true)
      (h : Workspace.empty botId = .ok w) :
      Reachable w
  | addUser
      {w w' : Workspace}
      {user : User}
      (hReach : Reachable w)
      (hUser : user.WellTyped)
      (h : w.addUser user = .ok w') :
      Reachable w'
  | addChannel
      {w : Workspace}
      {seed : Seed}
      (hReach : Reachable w)
      (hSeed : seed.WellTyped) :
      Reachable (w.addChannel seed).2
  | failing
      {w : Workspace}
      (hReach : Reachable w)
      (failures : Table Trigger Failure) :
      Reachable (w.withFailures failures)
  | answer
      {w : Workspace}
      {request : Request}
      (hReach : Reachable w)
      (hRequest : request.WellTyped) :
      Reachable (w.answer request).2

end Workspace

end ChannelSync

------------------------------------------------------------
-- Rooms of Well-Typed Workspaces
------------------------------------------------------------

namespace ChannelSync

namespace Workspace

variable {w : Workspace}
variable {id : Datum}
variable {room : Room}

/- The room of a text is looked up in the table. -/
theorem room_eq_ok
    (hId : id.isText = true) :
    w.room id = .ok room ↔ w.channels.get? id = some room := by
  unfold Workspace.room
  simp only [Datum.isAtom_of_isText hId, if_true]
  cases w.channels.get? id <;> simp

/- A room that is found is well typed. -/
theorem WellTyped.room_of_get?
    (hw : w.WellTyped)
    (hId : id.isText = true)
    (h : w.channels.get? id = some room) :
    room.WellTyped :=
  hw.room _ (Table.mem_of_get? hId h)

/- A room that is found has the identifier asked for. -/
theorem WellTyped.roomId_of_get?
    (hw : w.WellTyped)
    (hId : id.isText = true)
    (h : w.channels.get? id = some room) :
    room.state.id = id :=
  hw.roomId _ (Table.mem_of_get? hId h)

/- A well-typed room may be put under its identifier. -/
theorem WellTyped.putRoom
    (hw : w.WellTyped)
    (hId : id.isText = true)
    (hRoom : room.WellTyped)
    (hRoomId : room.state.id = id) :
    (w.putRoom id room).WellTyped where
  botId := hw.botId
  room := by
    intro entry hEntry
    rcases Table.mem_of_mem_insert hId hEntry with
      rfl | hOld
    · exact hRoom
    · exact hw.room entry hOld
  roomId := by
    intro entry hEntry
    rcases Table.mem_of_mem_insert hId hEntry with
      rfl | hOld
    · exact hRoomId
    · exact hw.roomId entry hOld
  roomKeys := Table.nodup_keys_insert hId hw.roomKeys room
  user := hw.user
  userId := hw.userId
  userKeys := hw.userKeys

/- A change of attributes keeps a workspace well typed. -/
theorem WellTyped.update
    (hw : w.WellTyped)
    (hId : id.isText = true)
    {change : Observed → Observed}
    (hChange :
      ∀ state : Observed,
        state.WellTyped → (change state).WellTyped)
    (hSameId : ∀ state, (change state).id = state.id)
    (hSameMembers :
      ∀ state, (change state).memberIds = state.memberIds) :
    (w.update id change).2.WellTyped := by
  unfold Workspace.update
  cases hFound : w.room id with
  | error problem => exact hw
  | ok room =>
      rw [room_eq_ok hId] at hFound
      have hRoom := hw.room_of_get? hId hFound
      refine hw.putRoom hId
        ⟨hChange _ hRoom.state, ?_, hRoom.members⟩ ?_
      · exact (hSameMembers _).trans hRoom.memberIds
      · exact (hSameId _).trans
          (hw.roomId_of_get? hId hFound)

end Workspace

end ChannelSync

------------------------------------------------------------
-- Requests Keep Workspaces Well Typed
------------------------------------------------------------

namespace ChannelSync

namespace Workspace

variable {w : Workspace}

/- The identifier that is made up next is a text. -/
theorem isText_nextId
    (w : Workspace) :
    w.nextId.isText = true := by
  rfl

/- A channel that is added is well typed. -/
theorem WellTyped.addChannel
    (hw : w.WellTyped)
    {seed : Seed}
    (hSeed : seed.WellTyped) :
    (w.addChannel seed).2.WellTyped := by
  have hNumbered :
      (if seed.id.truthy then w
        else
          { w with
            numbered := w.numbered + 1 }).WellTyped := by
    split
    · exact hw
    · exact ⟨hw.botId, hw.room, hw.roomId, hw.roomKeys,
        hw.user, hw.userId, hw.userKeys⟩
  have hId : (seed.id.orElse w.nextId).isText = true := by
    unfold Datum.orElse
    rcases hSeed.id with hNull | hText
    · simp [hNull, Datum.truthy, isText_nextId]
    · split
      · exact hText
      · exact isText_nextId w
  have hMembers :
      ∃ members,
        (seed.members.orElse (.list [])).elements =
            .ok members ∧
          ∀ id ∈ members, id.isText = true := by
    rcases hSeed.members with hNull | ⟨ids, hIds, hTexts⟩
    · exact ⟨[], by simp [hNull, Datum.orElse, Datum.truthy,
        Datum.elements], by simp⟩
    · refine ⟨ids, ?_, hTexts⟩
      cases ids <;>
        simp [hIds, Datum.orElse, Datum.truthy,
          Datum.elements]
  rcases hMembers with ⟨members, hElements, hTexts⟩
  unfold Workspace.addChannel
  simp only [hElements, Datum.isAtom_of_isText hId, if_true]
  exact hNumbered.putRoom hId
    ⟨⟨hId, hSeed.name, hSeed.description, hSeed.topic,
      hSeed.isPrivate, hSeed.archived⟩, rfl, hTexts⟩ rfl

/- Members that are enrolled are members or were invited. -/
theorem mem_of_mem_enrol
    {members userIds : List Datum}
    {userId : Datum}
    (h : userId ∈ (w.enrol members userIds).2) :
    userId ∈ members ∨ userId ∈ userIds := by
  induction userIds generalizing members with
  | nil => exact Or.inl h
  | cons first rest ih =>
      simp only [enrol] at h
      split at h
      · exact Or.inl h
      · split at h
        · exact Or.inl h
        · split at h
          · exact Or.inl h
          · split at h
            · exact Or.inl h
            · rcases ih h with hOld | hNew
              · rw [List.mem_append, List.mem_singleton]
                  at hOld
                rcases hOld with hOld | rfl
                · exact Or.inl hOld
                · exact Or.inr List.mem_cons_self
              · exact Or.inr (List.mem_cons_of_mem _ hNew)

/- Archiving keeps a workspace well typed. -/
theorem WellTyped.setArchived
    (hw : w.WellTyped)
    {id : Datum}
    (hId : id.isText = true)
    (archived : Bool) :
    (w.setArchived id archived).2.WellTyped := by
  unfold Workspace.setArchived
  cases w.room id with
  | error problem => exact hw
  | ok room =>
      simp only
      split
      · exact hw
      · exact hw.update hId
          (fun _ h => ⟨h.id, h.name, h.description, h.topic,
            h.isPrivate, rfl⟩)
          (fun _ => rfl) fun _ => rfl

/- Every request keeps a workspace well typed. -/
theorem WellTyped.answer
    (hw : w.WellTyped)
    {request : Request}
    (hRequest : request.WellTyped) :
    (w.answer request).2.WellTyped := by
  unfold Workspace.answer
  cases w.refusal request with
  | error problem => exact hw
  | ok _ =>
      cases request with
      | channelInfo id => exact hw
      | memberPage id cursor limit => exact hw
      | channelPage cursor limit => exact hw
      | userByEmail email => exact hw
      | userById id => exact hw
      | createChannel name isPrivate =>
          simp only [grant, createChannel]
          split
          · exact hw
          · refine hw.addChannel
              ⟨hRequest.1, Or.inl rfl, rfl, rfl, hRequest.2,
                rfl, Or.inr ⟨[w.botId], rfl, ?_⟩⟩
            simpa using hw.botId
      | setPurpose id purpose =>
          simp only [grant, setPurpose,
            Datum.escaped_of_isText hRequest.2]
          exact hw.update hRequest.1
            (fun _ h => ⟨h.id, h.name,
              Datum.isText_storedForm hRequest.2, h.topic,
              h.isPrivate, h.archived⟩)
            (fun _ => rfl) fun _ => rfl
      | setTopic id topic =>
          simp only [grant, setTopic,
            Datum.escaped_of_isText hRequest.2]
          exact hw.update hRequest.1
            (fun _ h => ⟨h.id, h.name, h.description,
              Datum.isText_storedForm hRequest.2,
              h.isPrivate, h.archived⟩)
            (fun _ => rfl) fun _ => rfl
      | renameChannel id name =>
          simp only [grant, renameChannel]
          split
          · exact hw
          · exact hw.update hRequest.1
              (fun _ h => ⟨h.id, hRequest.2, h.description,
                h.topic, h.isPrivate, h.archived⟩)
              (fun _ => rfl) fun _ => rfl
      | archiveChannel id => exact hw.setArchived hRequest true
      | unarchiveChannel id =>
          exact hw.setArchived hRequest false
      | inviteMembers id userIds =>
          simp only [grant, inviteMembers]
          cases hFound : w.room id with
          | error problem => exact hw
          | ok room =>
              rw [room_eq_ok hRequest.1] at hFound
              have hRoom :=
                hw.room_of_get? hRequest.1 hFound
              have hRoomId :=
                hw.roomId_of_get? hRequest.1 hFound
              refine hw.putRoom hRequest.1
                ⟨hRoom.state, hRoom.memberIds, ?_⟩ hRoomId
              intro userId hMem
              rcases mem_of_mem_enrol hMem with hOld | hNew
              · exact hRoom.members userId hOld
              · exact hRequest.2 userId hNew
      | removeMember id userId =>
          simp only [grant, removeMember]
          cases hFound : w.room id with
          | error problem => exact hw
          | ok room =>
              rw [room_eq_ok hRequest.1] at hFound
              have hRoom :=
                hw.room_of_get? hRequest.1 hFound
              have hRoomId :=
                hw.roomId_of_get? hRequest.1 hFound
              simp only
              split
              · exact hw.putRoom hRequest.1
                  ⟨hRoom.state, hRoom.memberIds,
                    fun other hMem =>
                      hRoom.members other
                        (List.mem_of_mem_erase hMem)⟩
                  hRoomId
              · exact hw

end Workspace

end ChannelSync

------------------------------------------------------------
-- Reachable Workspaces
------------------------------------------------------------

namespace ChannelSync

namespace Workspace

/- A user that is added keeps a workspace well typed. -/
theorem WellTyped.addUser
    {w w' : Workspace}
    {user : User}
    (hw : w.WellTyped)
    (hUser : user.WellTyped)
    (h : w.addUser user = .ok w') :
    w'.WellTyped := by
  unfold Workspace.addUser at h
  simp only [Datum.isAtom_of_isText hUser.id, if_true] at h
  cases h
  refine ⟨hw.botId, hw.room, hw.roomId, hw.roomKeys, ?_, ?_,
    Table.nodup_keys_insert hUser.id hw.userKeys user⟩
  · intro entry hEntry
    rcases Table.mem_of_mem_insert hUser.id hEntry with
      rfl | hOld
    · exact hUser
    · exact hw.user entry hOld
  · intro entry hEntry
    rcases Table.mem_of_mem_insert hUser.id hEntry with
      rfl | hOld
    · rfl
    · exact hw.userId entry hOld

/- Failures do not matter for the types in a workspace. -/
theorem WellTyped.withFailures
    {w : Workspace}
    (hw : w.WellTyped)
    (failures : Table Trigger Failure) :
    (w.withFailures failures).WellTyped :=
  ⟨hw.botId, hw.room, hw.roomId, hw.roomKeys, hw.user,
    hw.userId, hw.userKeys⟩

/- Every workspace that can come about is well typed. -/
theorem Reachable.wellTyped
    {w : Workspace}
    (h : w.Reachable) :
    w.WellTyped := by
  induction h with
  | @empty botId w hBot h =>
      have hNone :
          ({ botId := botId } : Workspace).WellTyped :=
        ⟨hBot, by simp, by simp, by simp [Table.keys],
          by simp, by simp, by simp [Table.keys]⟩
      exact hNone.addUser ⟨hBot, rfl, rfl⟩ h
  | addUser _ hUser h ih => exact ih.addUser hUser h
  | addChannel _ hSeed ih => exact ih.addChannel hSeed
  | failing _ failures ih => exact ih.withFailures failures
  | answer _ hRequest ih => exact ih.answer hRequest

end Workspace

end ChannelSync
