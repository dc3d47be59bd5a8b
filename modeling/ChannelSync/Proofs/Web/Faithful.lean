import ChannelSync.Proofs.Web.Calls
import ChannelSync.Proofs.Workspace.Answers
import ChannelSync.Proofs.Workspace.Pages

/-
  Workspaces that answer like the web API.

  A failure of the web API has a code, and its kind follows
  from the code.  The failures that a workspace makes up are
  of this sort; those that are laid in need not be.  Where
  they are, a workspace is faithful: every failure of its
  answers is one that the web API has as well.

  What a well-typed workspace answers to a well-typed request
  can be put into a response: texts, flags, and channels
  without members.

  Key definitions include:
    * `Failure.Mapped`
    * `Request.Shows`
    * `Workspace.Faithful`

  Key theorems include:
    * `Workspace.WellTyped.shows`
    * `Workspace.Faithful.answer`
    * `Workspace.Faithful.mapped_answer`
-/

------------------------------------------------------------
-- Failures with a Code
------------------------------------------------------------

namespace ChannelSync

/- A failure of the kind that its code stands for. -/
inductive Failure.Mapped : Failure → Prop where
  | single
      {kind : FailureKind}
      {code : String}
      (message : String)
      (origin : Option Origin)
      (hKind : ClientError.kindOf (.text code) = .ok kind) :
      Mapped (.single kind message (.text code) origin)

/- The failures that a workspace makes up have a code. -/
theorem Refusal.Own.mapped
    {failure : Failure}
    (h : Own failure) :
    failure.Mapped := by
  cases h <;> exact .single _ _ rfl

end ChannelSync

------------------------------------------------------------
-- Answers That Can Be Shown
------------------------------------------------------------

namespace ChannelSync

/- A channel as an answer shows it, without its members. -/
structure Observed.Reported
    (observed : Observed) :
    Prop where
  typed : observed.WellTyped
  memberIds : observed.memberIds = []

/- What the answers to a request look like. -/
def Request.Shows :
    (request : Request) → request.Answer → Prop
  | channelInfo _, channel => Observed.Reported channel
  | createChannel _ _, channel => Observed.Reported channel
  | setPurpose _ _, channel => Observed.Reported channel
  | setTopic _ _, channel => Observed.Reported channel
  | renameChannel _ _, channel => Observed.Reported channel
  | archiveChannel _, _ => True
  | unarchiveChannel _, _ => True
  | memberPage _ _ _, page =>
      (∀ userId ∈ Page.items page, userId.isText = true) ∧
        (Page.next page).isText = true
  | inviteMembers _ _, _ => True
  | removeMember _ _, _ => True
  | channelPage _ _, page =>
      (∀ channel ∈ Page.items page,
          Observed.Reported channel) ∧
        (Page.next page).isText = true
  | userByEmail _, user => User.WellTyped user
  | userById _, user => User.WellTyped user

/- The state of a room can be shown. -/
theorem Room.WellTyped.reported
    {room : Room}
    (h : room.WellTyped) :
    room.state.Reported :=
  ⟨h.state, h.memberIds⟩

end ChannelSync

------------------------------------------------------------
-- Answers of a Well-Typed Workspace
------------------------------------------------------------

namespace ChannelSync

namespace Workspace

variable {w : Workspace}

/- A room that a well-typed workspace has is well typed. -/
theorem WellTyped.of_room
    (hw : w.WellTyped)
    {id : Datum}
    (hId : id.isText = true)
    {room : Room}
    (h : w.room id = .ok room) :
    room.WellTyped :=
  hw.room_of_get? hId ((room_eq_ok hId).mp h)

/- A changed channel can be shown if the change is sound. -/
theorem WellTyped.reported_of_update
    (hw : w.WellTyped)
    {id : Datum}
    (hId : id.isText = true)
    {change : Observed → Observed}
    (hChange :
      ∀ state : Observed,
        state.Reported → (change state).Reported)
    {channel : Observed}
    (h : (w.update id change).1 = .ok channel) :
    channel.Reported := by
  unfold Workspace.update at h
  split at h
  case h_1 => cases h
  case h_2 room hRoom =>
      cases h
      exact hChange _ (hw.of_room hId hRoom).reported

/- A page of members that is answered is one of a room. -/
theorem room_of_memberPage
    {id cursor limit : Datum}
    {page : Page Datum}
    (h : (w.answer (.memberPage id cursor limit)).1 =
      .ok page) :
    ∃ room, w.room id = .ok room ∧
      Paging.page room.members cursor limit = .ok page := by
  have hGrant :
      w.memberPage id cursor limit = .ok page :=
    grant_of_answer h
  unfold memberPage at hGrant
  cases hRoom : w.room id with
  | error problem =>
      rw [hRoom] at hGrant
      cases hGrant
  | ok room =>
      rw [hRoom] at hGrant
      exact ⟨room, rfl, mapError_eq_ok.mp hGrant⟩

/- What is answered to a well-typed request can be shown. -/
theorem WellTyped.shows
    (hw : w.WellTyped)
    {request : Request}
    (hRequest : request.WellTyped)
    {a : request.Answer}
    (h : (w.answer request).1 = .ok a) :
    request.Shows a := by
  have hGrant := grant_of_answer h
  cases request with
  | channelInfo id =>
      simp only [grant] at hGrant
      cases hRoom : w.room id with
      | error problem =>
          rw [hRoom] at hGrant
          cases hGrant
      | ok room =>
          rw [hRoom] at hGrant
          cases hGrant
          exact (hw.of_room hRequest hRoom).reported
  | createChannel name isPrivate =>
      simp only [grant, createChannel] at hGrant
      split at hGrant
      case isTrue => cases hGrant
      case isFalse =>
          cases hGrant
          exact ⟨⟨isText_nextId w, hRequest.1, rfl,
            rfl, hRequest.2, rfl⟩, rfl⟩
  | setPurpose id purpose =>
      simp only [grant, setPurpose,
        Datum.escaped_of_isText hRequest.2] at hGrant
      refine hw.reported_of_update hRequest.1 ?_ hGrant
      intro state hState
      exact ⟨⟨hState.typed.id, hState.typed.name,
        Datum.isText_storedForm hRequest.2,
        hState.typed.topic, hState.typed.isPrivate,
        hState.typed.archived⟩, hState.memberIds⟩
  | setTopic id topic =>
      simp only [grant, setTopic,
        Datum.escaped_of_isText hRequest.2] at hGrant
      refine hw.reported_of_update hRequest.1 ?_ hGrant
      intro state hState
      exact ⟨⟨hState.typed.id, hState.typed.name,
        hState.typed.description,
        Datum.isText_storedForm hRequest.2,
        hState.typed.isPrivate, hState.typed.archived⟩,
        hState.memberIds⟩
  | renameChannel id name =>
      simp only [grant, renameChannel] at hGrant
      split at hGrant
      case isTrue => cases hGrant
      case isFalse =>
          refine hw.reported_of_update hRequest.1 ?_ hGrant
          intro state hState
          exact ⟨⟨hState.typed.id, hRequest.2,
            hState.typed.description, hState.typed.topic,
            hState.typed.isPrivate, hState.typed.archived⟩,
            hState.memberIds⟩
  | archiveChannel id => trivial
  | unarchiveChannel id => trivial
  | memberPage id cursor limit =>
      rcases room_of_memberPage h with
        ⟨room, hRoom, hPage⟩
      rcases Paging.page_sound hPage with ⟨hItems, hNext⟩
      have hMembers := (hw.of_room hRequest.1 hRoom).members
      exact ⟨fun userId hMem =>
        hMembers userId (hItems userId hMem), hNext⟩
  | inviteMembers id userIds => trivial
  | removeMember id userId => trivial
  | channelPage cursor limit =>
      rcases Paging.page_sound (mapError_eq_ok.mp hGrant) with
        ⟨hItems, hNext⟩
      refine ⟨fun channel hMem => ?_, hNext⟩
      rcases List.mem_map.mp (hItems channel hMem) with
        ⟨room, hRoom, rfl⟩
      rcases List.mem_map.mp hRoom with
        ⟨entry, hEntry, rfl⟩
      exact (hw.room entry hEntry).reported
  | userByEmail email =>
      have hFound := userByEmail_of_answer h
      exact (hw.get?_of_userByEmail hRequest hFound).1
  | userById id =>
      have hFound := get?_of_answer hRequest h
      exact (hw.user_of_get? hRequest hFound).1

end Workspace

end ChannelSync

------------------------------------------------------------
-- Faithful Workspaces
------------------------------------------------------------

namespace ChannelSync

namespace Workspace

/-
  A well-typed workspace with nothing laid in but failures
  that the web API has as well.
-/
structure Faithful
    (w : Workspace) :
    Prop where
  typed : w.WellTyped
  mapped :
    ∀ trigger failure,
      w.failures.get? trigger = some failure →
        failure.Mapped

variable {w : Workspace}
variable {request : Request}

/- A faithful workspace stays so when it answers. -/
theorem Faithful.answer
    (hw : w.Faithful)
    (hRequest : request.WellTyped) :
    (w.answer request).2.Faithful := by
  refine ⟨hw.typed.answer hRequest, ?_⟩
  rw [((alike_self w).answer request).failures]
  exact hw.mapped

/- All its failures are failures of the web API. -/
theorem Faithful.mapped_answer
    (hw : w.Faithful)
    (request : Request) :
    Fails Failure.Mapped (w.answer request).1 :=
  fails_answer hw.mapped (fun _ h => h.mapped) request

end Workspace

end ChannelSync
