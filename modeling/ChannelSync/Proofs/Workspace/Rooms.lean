import ChannelSync.Proofs.Run.Shape
import ChannelSync.Proofs.Workspace.WellTyped

/-
  One room of a workspace.

  Everything that a reconciliation changes is the room of
  one channel.  So the states of a workspace during it are
  all of the form `w.putRoom id room`, with the same `w`.
  The lemmas here say how such a workspace answers: look-ups
  of users and failures do not see the room, and a request
  that changes the channel puts another room in its place.

  Key definitions include:
    * `Room.edit` and `Room.withMembers`
    * `Workspace.edited`
    * `Workspace.barred`

  Key theorems include:
    * `Workspace.putRoom_putRoom`
    * `Workspace.refusal_putRoom`
    * `Workspace.nameUsed_putRoom`
    * `Workspace.answer_channelInfo`
    * `Workspace.answer_renameChannel`
    * `Workspace.answer_inviteMember`
    * `Workspace.answer_removeMember`
-/

------------------------------------------------------------
-- Putting Rooms
------------------------------------------------------------

namespace ChannelSync

/- A room with its attributes changed. -/
def Room.edit
    (room : Room)
    (change : Observed → Observed) :
    Room :=
  { room with state := change room.state }

/- A room with other members. -/
def Room.withMembers
    (room : Room)
    (members : List Datum) :
    Room :=
  { room with members := members }

namespace Workspace

variable {w : Workspace}
variable {id : Datum}
variable {room : Room}

/- The room that was put is found. -/
@[simp]
theorem get?_putRoom
    (w : Workspace)
    (id : Datum)
    (room : Room) :
    (w.putRoom id room).channels.get? id = some room :=
  Table.get?_insert_self w.channels id room

/- A workspace tells which room was put. -/
theorem putRoom_injective
    {room' : Room}
    (h : w.putRoom id room = w.putRoom id room') :
    room' = room := by
  have hGet := get?_putRoom w id room
  rw [h, get?_putRoom] at hGet
  exact Option.some.inj hGet

/- The room that was put answers for its identifier. -/
theorem room_putRoom
    (hId : id.isText = true)
    (w : Workspace)
    (room : Room) :
    (w.putRoom id room).room id = .ok room :=
  (room_eq_ok hId).mpr (get?_putRoom w id room)

/- A room that is found stands in the table. -/
theorem get?_of_room
    (h : w.room id = .ok room) :
    w.channels.get? id = some room := by
  unfold Workspace.room at h
  split at h
  · split at h
    case h_1 found hFound =>
        cases h
        exact hFound
    case h_2 => cases h
  · cases h

/- Only the room that was put last counts. -/
@[simp]
theorem putRoom_putRoom
    (w : Workspace)
    (id : Datum)
    (room room' : Room) :
    (w.putRoom id room).putRoom id room' =
      w.putRoom id room' := by
  simp [putRoom, Table.insert_insert]

/- Putting the room that is there changes nothing. -/
theorem putRoom_of_get?
    (h : w.channels.get? id = some room) :
    w.putRoom id room = w := by
  simp [putRoom, Table.insert_of_get? h]

/- Laid-in failures do not depend on the rooms. -/
theorem laidIn_congr
    (w w' : Workspace)
    (h : w'.failures = w.failures)
    (operation : String)
    (keys : List Datum) :
    w'.laidIn operation keys = w.laidIn operation keys := by
  induction keys with
  | nil => rfl
  | cons key rest ih => simp only [laidIn, h, ih]

/- What refuses a request does not depend on the rooms. -/
@[simp]
theorem refusal_putRoom
    (w : Workspace)
    (id : Datum)
    (room : Room)
    (request : Request) :
    (w.putRoom id room).refusal request =
      w.refusal request :=
  laidIn_congr w (w.putRoom id room) rfl _ _

/- Without laid-in failures, texts are never refused. -/
theorem laidIn_of_no_failures
    (h : w.failures.entries = [])
    (operation : String)
    {keys : List Datum}
    (hKeys : ∀ key ∈ keys, key.isText = true) :
    w.laidIn operation keys = .ok () := by
  induction keys with
  | nil => rfl
  | cons key rest ih =>
      have hAtom :=
        Datum.isAtom_of_isText (hKeys key (by simp))
      have hRest :=
        ih fun other hOther => hKeys other (by simp [hOther])
      simp [laidIn, hAtom, Table.get?, h, hRest]

/- The keys that a request may be refused for are texts. -/
theorem isText_of_mem_keys
    {request : Request}
    (hRequest : request.WellTyped) :
    ∀ key ∈ keys request, key.isText = true := by
  cases request with
  | inviteMembers id userIds =>
      simp only [keys, Request.arguments]
      intro key hKey
      simp only [List.flatMap_cons, List.flatMap_nil,
        List.append_nil, List.singleton_append,
        List.mem_cons] at hKey
      rcases hKey with rfl | hKey
      · rfl
      · exact hRequest.2 key hKey
  | _ =>
      intro key hKey
      simp only [keys, Request.arguments, List.flatMap_cons,
        List.flatMap_nil, List.append_nil,
        List.singleton_append, List.mem_cons,
        List.not_mem_nil, or_false] at hKey
      rcases hKey with rfl | rfl <;> rfl

/- Without laid-in failures, no request is refused. -/
theorem refusal_of_no_failures
    (h : w.failures.entries = [])
    {request : Request}
    (hRequest : request.WellTyped) :
    w.refusal request = .ok () :=
  laidIn_of_no_failures h _ (isText_of_mem_keys hRequest)

/- The other channels have the names that they had. -/
@[simp]
theorem nameUsed_putRoom
    (w : Workspace)
    (id : Datum)
    (room : Room)
    (name : Datum) :
    (w.putRoom id room).nameUsed name (some id) =
      w.nameUsed name (some id) := by
  rcases w with ⟨botId, ⟨entries⟩, users, failures, numbered⟩
  simp only [nameUsed, putRoom, Table.insert]
  induction entries with
  | nil => simp [Table.insertIn, bne]
  | cons entry rest ih =>
      rcases entry with ⟨k, r⟩
      cases hKey : k == id with
      | true => simp [Table.insertIn, hKey, bne]
      | false =>
          unfold Table.insertIn
          simp only [hKey, Bool.false_eq_true, if_false,
            List.any_cons, ih]

end Workspace

end ChannelSync

------------------------------------------------------------
-- Reading
------------------------------------------------------------

namespace ChannelSync

namespace Workspace

variable {w : Workspace}
variable {id : Datum}
variable {room : Room}

/- A request that asks for no change makes none. -/
theorem answer_read
    (w : Workspace)
    {request : Request}
    (h : request.isWrite = false) :
    (w.answer request).2 = w := by
  unfold answer
  cases w.refusal request with
  | error problem => rfl
  | ok _ =>
      cases request <;> first | rfl | cases h

/- An address is looked up without regard to rooms. -/
@[simp]
theorem answer_userByEmail_putRoom
    (w : Workspace)
    (id : Datum)
    (room : Room)
    (email : Datum) :
    (w.putRoom id room).answer (.userByEmail email) =
      ((w.answer (.userByEmail email)).1,
        w.putRoom id room) := by
  unfold answer
  simp only [refusal_putRoom]
  cases w.refusal (.userByEmail email) <;> rfl

/- An identifier is looked up without regard to rooms. -/
@[simp]
theorem answer_userById_putRoom
    (w : Workspace)
    (id : Datum)
    (room : Room)
    (userId : Datum) :
    (w.putRoom id room).answer (.userById userId) =
      ((w.answer (.userById userId)).1,
        w.putRoom id room) := by
  unfold answer
  simp only [refusal_putRoom]
  cases w.refusal (.userById userId) <;> rfl

/- The attributes of a channel are those of its room. -/
theorem answer_channelInfo
    (hId : id.isText = true)
    (h : w.channels.get? id = some room) :
    (w.answer (.channelInfo id)).1 =
      (w.refusal (.channelInfo id)).map
        fun _ => room.state := by
  simp only [answer]
  cases w.refusal (.channelInfo id) with
  | error problem => rfl
  | ok _ => simp only [grant, (room_eq_ok hId).mpr h]; rfl

/- A page of members is one of the room's members. -/
theorem answer_memberPage
    (hId : id.isText = true)
    (h : w.channels.get? id = some room)
    (cursor limit : Datum) :
    (w.answer (.memberPage id cursor limit)).1 =
      (w.refusal (.memberPage id cursor limit)).bind
        fun _ =>
          (Paging.page room.members cursor limit).mapError
            .fault := by
  simp only [answer]
  cases w.refusal (.memberPage id cursor limit) with
  | error problem => rfl
  | ok _ =>
      simp only [grant, memberPage, (room_eq_ok hId).mpr h]
      rfl

/- A program that only reads leaves a workspace alone. -/
theorem state_of_reads
    {p : Program α}
    (h : p.Reads)
    (w : Workspace) :
    (p.run remote w).state = w := by
  induction p with
  | done result => rfl
  | note event rest ih => exact ih h
  | pages listing limit resume ih => exact ih _ (h _)
  | call request resume ih =>
      have hState := answer_read w h.1
      simp only [Program.run, remote]
      split
      case h_1 answer s' hAnswer =>
          rw [hAnswer] at hState
          cases hState
          exact ih _ (h.2 _)
      case h_2 failure s' hAnswer =>
          rw [hAnswer] at hState
          cases hState
          exact ih _ (h.2 _)
      case h_3 fault s' hAnswer =>
          rw [hAnswer] at hState
          exact hState

/- It returns where it was started. -/
theorem state_of_returned
    {p : Program α}
    {a : α}
    {w after : Workspace}
    (hReads : p.Reads)
    (h : p.Returns remote w a after) :
    after = w :=
  h.state_eq.symm.trans (state_of_reads hReads w)

end Workspace

end ChannelSync

------------------------------------------------------------
-- Changing the Room
------------------------------------------------------------

namespace ChannelSync

namespace Workspace

variable {w : Workspace}
variable {id : Datum}
variable {room : Room}

/- A change of attributes is one of the room. -/
theorem update_putRoom
    (hId : id.isText = true)
    (w : Workspace)
    (room : Room)
    (change : Observed → Observed) :
    (w.putRoom id room).update id change =
      (.ok (change room.state),
        w.putRoom id (room.edit change)) := by
  simp [update, room_putRoom hId, Room.edit]

/-
  A request that is refused or granted with an answer, and
  then leaves another room behind.
-/
def edited
    (w : Workspace)
    (id : Datum)
    (room room' : Room)
    (refusal : Except Problem Unit)
    (answer : α) :
    Except Problem α × Workspace :=
  match refusal with
  | .error problem => (.error problem, w.putRoom id room)
  | .ok () => (.ok answer, w.putRoom id room')

/- A topic is stored with its special characters escaped. -/
theorem answer_setTopic
    (hId : id.isText = true)
    (w : Workspace)
    (room : Room)
    {topic : Datum}
    (hTopic : topic.isText = true) :
    (w.putRoom id room).answer (.setTopic id topic) =
      edited w id room
        (room.edit fun state =>
          { state with topic := topic.storedForm })
        (w.refusal (.setTopic id topic))
        { room.state with topic := topic.storedForm } := by
  simp only [answer, refusal_putRoom, edited]
  cases w.refusal (.setTopic id topic) with
  | error problem => rfl
  | ok _ =>
      simp only [grant, setTopic,
        Datum.escaped_of_isText hTopic, update_putRoom hId]

/- A purpose is stored with its special characters escaped. -/
theorem answer_setPurpose
    (hId : id.isText = true)
    (w : Workspace)
    (room : Room)
    {purpose : Datum}
    (hPurpose : purpose.isText = true) :
    (w.putRoom id room).answer (.setPurpose id purpose) =
      edited w id room
        (room.edit fun state =>
          { state with description := purpose.storedForm })
        (w.refusal (.setPurpose id purpose))
        { room.state with
          description := purpose.storedForm } := by
  simp only [answer, refusal_putRoom, edited]
  cases w.refusal (.setPurpose id purpose) with
  | error problem => rfl
  | ok _ =>
      simp only [grant, setPurpose,
        Datum.escaped_of_isText hPurpose,
        update_putRoom hId]

/- A name is stored as it is, unless it is in use. -/
theorem answer_renameChannel
    (hId : id.isText = true)
    (w : Workspace)
    (room : Room)
    (name : Datum) :
    (w.putRoom id room).answer (.renameChannel id name) =
      edited w id room
        (room.edit fun state => { state with name := name })
        (w.refusal (.renameChannel id name) |>.bind fun _ =>
          if w.nameUsed name (some id) then
            .error (.failure (Refusal.nameTaken name))
          else .ok ())
        { room.state with name := name } := by
  simp only [answer, refusal_putRoom, edited]
  cases w.refusal (.renameChannel id name) with
  | error problem => rfl
  | ok _ =>
      simp only [grant, renameChannel, nameUsed_putRoom,
        Except.bind]
      split <;> simp_all [update_putRoom hId]

/- A channel is taken out of the archive if it is there. -/
theorem answer_unarchiveChannel
    (hId : id.isText = true)
    (w : Workspace)
    (room : Room) :
    (w.putRoom id room).answer (.unarchiveChannel id) =
      edited w id room
        (room.edit fun state =>
          { state with archived := .flag false })
        (w.refusal (.unarchiveChannel id) |>.bind fun _ =>
          if room.state.archived.truthy then .ok ()
          else .error (.failure Refusal.notArchived))
        () := by
  simp only [answer, refusal_putRoom, edited]
  cases w.refusal (.unarchiveChannel id) with
  | error problem => rfl
  | ok _ =>
      simp only [grant, setArchived, room_putRoom hId,
        Except.bind]
      cases room.state.archived.truthy <;>
        simp [update_putRoom hId, Except.map]

end Workspace

end ChannelSync

------------------------------------------------------------
-- Changing the Members
------------------------------------------------------------

namespace ChannelSync

namespace Workspace

/- What keeps a user from being invited, if anything. -/
def barred
    (w : Workspace)
    (room : Room)
    (userId : Datum) :
    Except Problem Unit :=
  if userId = w.botId then
    .error (.failure Refusal.selfInvited)
  else if (w.users.get? userId).isNone then
    .error (.failure (Refusal.userMissing userId))
  else if userId ∈ room.members then
    .error (.failure Refusal.alreadyMember)
  else
    .ok ()

variable {id : Datum}
variable {userId : Datum}

/- An invited user comes after the members. -/
theorem answer_inviteMember
    (hId : id.isText = true)
    (hUserId : userId.isText = true)
    (w : Workspace)
    (room : Room) :
    (w.putRoom id room).answer
        (.inviteMembers id [userId]) =
      edited w id room
        (room.withMembers (room.members ++ [userId]))
        (w.refusal (.inviteMembers id [userId]) |>.bind
          fun _ => w.barred room userId)
        () := by
  simp only [answer, refusal_putRoom, edited]
  cases w.refusal (.inviteMembers id [userId]) with
  | error problem => rfl
  | ok _ =>
      simp only [grant, inviteMembers, room_putRoom hId,
        enrol, Datum.beq_eq_decide hUserId,
        Datum.isAtom_of_isText hUserId,
        Datum.contains_eq_decide hUserId, decide_eq_true_eq,
        Except.bind, barred, Bool.not_true,
        Bool.false_eq_true, if_false, putRoom_putRoom]
      by_cases hBot : userId = w.botId
      · simp [putRoom, hBot]
      · by_cases hUser : (w.users.get? userId).isNone = true
        · simp [putRoom, hBot, hUser]
        · by_cases hMem : userId ∈ room.members <;>
            simp [putRoom, hBot, hUser, hMem,
              Room.withMembers]

/- A removed user is taken from the members. -/
theorem answer_removeMember
    (hId : id.isText = true)
    (hUserId : userId.isText = true)
    (w : Workspace)
    (room : Room) :
    (w.putRoom id room).answer (.removeMember id userId) =
      edited w id room
        (room.withMembers (room.members.erase userId))
        (w.refusal (.removeMember id userId) |>.bind fun _ =>
          if userId ∈ room.members then .ok ()
          else .error (.failure Refusal.notMember))
        () := by
  simp only [answer, refusal_putRoom, edited]
  cases w.refusal (.removeMember id userId) with
  | error problem => rfl
  | ok _ =>
      simp only [grant, removeMember, room_putRoom hId,
        Datum.contains_eq_decide hUserId, decide_eq_true_eq,
        Except.bind, putRoom_putRoom]
      by_cases hMem : userId ∈ room.members <;>
        simp [hMem, Room.withMembers]

/- A member can be removed if nothing is laid in for it. -/
theorem answer_removeMember_of_mem
    (hId : id.isText = true)
    (hUserId : userId.isText = true)
    (w : Workspace)
    {room : Room}
    (hMem : userId ∈ room.members) :
    (w.putRoom id room).answer (.removeMember id userId) =
      edited w id room
        (room.withMembers (room.members.erase userId))
        (w.refusal (.removeMember id userId)) () := by
  rw [answer_removeMember hId hUserId, if_pos hMem]
  cases w.refusal (.removeMember id userId) <;> rfl

end Workspace

end ChannelSync
