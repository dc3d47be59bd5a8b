import ChannelSync.Access
import ChannelSync.Proofs.Run.Invariant
import ChannelSync.Proofs.Workspace.Rooms

/-
  Programs of a single request, run on a workspace.

  A request that reads ends with the answer of the workspace
  and leaves the workspace alone.  A request that changes a
  channel ends with a problem and leaves it alone, too, or
  is granted and leaves another room behind.

  Key definitions include:
    * `Workspace.Edits`
    * `Workspace.Holding`

  Key theorems include:
    * `Access.ends_read`
    * `Access.edits_invite` and `Access.edits_remove`
    * `Access.edits_unarchive`
-/

------------------------------------------------------------
-- Reading
------------------------------------------------------------

namespace ChannelSync

namespace Access

open Program

variable {w after : Workspace}
variable {exchanges : List Exchange}

/- A request that reads ends with its answer. -/
theorem ends_read
    {request : Request}
    (hRead : request.isWrite = false)
    {result : Except Problem request.Answer} :
    (send request).Ends Workspace.remote w result after
        exchanges ↔
      result = (w.answer request).1 ∧ after = w ∧
        exchanges = [⟨request, (w.answer request).1⟩] := by
  rw [ends_send]
  have hState : (w.answer request).2 = w :=
    Workspace.answer_read w hRead
  unfold Workspace.remote
  simp only [hState]

/- So does one whose failure is put on record. -/
theorem ends_of_answer
    {request : Request}
    (hRead : request.isWrite = false)
    {event : Failure → Event}
    {result : Except Problem request.Answer}
    (h : (w.answer request).1 = result) :
    ((send request).reporting event).Ends Workspace.remote w
      result w [⟨request, result⟩] := by
  subst h
  exact ends_reporting.mpr
    ((ends_read hRead).mpr ⟨rfl, rfl, rfl⟩)

/- A request that reads returns what is answered. -/
theorem returns_read
    {request : Request}
    (hRead : request.isWrite = false)
    {answer : request.Answer} :
    (send request).Returns Workspace.remote w answer after ↔
      (w.answer request).1 = .ok answer ∧ after = w := by
  constructor
  · intro h
    have hEnds := (ends_read hRead).mp h.ends
    exact ⟨hEnds.1.symm, hEnds.2.1⟩
  · intro h
    rcases h with ⟨h, rfl⟩
    exact ((ends_read hRead).mpr ⟨h.symm, rfl, rfl⟩).returns

/- The attributes of a channel are only read. -/
theorem reads_info
    (id : Datum) :
    (info id).Reads :=
  (sends_send (by rfl)).reporting

/- A user is only looked up by an address. -/
theorem reads_userByEmail
    (email : Datum) :
    (userByEmail email).Reads :=
  (sends_send (by rfl)).reporting

/- A user is only looked up by an identifier. -/
theorem reads_userById
    (userId : Datum) :
    (userById userId).Reads :=
  (sends_send (by rfl)).reporting

/- The attributes of a channel are read. -/
theorem ends_info
    {id : Datum}
    {result : Except Problem Observed} :
    (info id).Ends Workspace.remote w result after
        exchanges ↔
      result = (w.answer (.channelInfo id)).1 ∧ after = w ∧
        exchanges =
          [⟨.channelInfo id,
            (w.answer (.channelInfo id)).1⟩] :=
  ends_reporting.trans (ends_read rfl)

/- A user is looked up by an address. -/
theorem ends_userByEmail
    {email : Datum}
    {result : Except Problem User}
    (h : (w.answer (.userByEmail email)).1 = result) :
    (userByEmail email).Ends Workspace.remote w result w
      [⟨.userByEmail email, result⟩] :=
  ends_of_answer rfl h

/- A user is looked up by an identifier. -/
theorem ends_userById
    {userId : Datum}
    {result : Except Problem User}
    (h : (w.answer (.userById userId)).1 = result) :
    (userById userId).Ends Workspace.remote w result w
      [⟨.userById userId, result⟩] :=
  ends_of_answer rfl h

/- The attributes of a channel are returned. -/
@[simp]
theorem returns_info
    {id : Datum}
    {observed : Observed} :
    (info id).Returns Workspace.remote w observed after ↔
      (w.answer (.channelInfo id)).1 = .ok observed ∧
        after = w :=
  returns_reporting.trans (returns_read rfl)

/- A channel that is answered is one that there is. -/
theorem room_of_info
    {id : Datum}
    {observed : Observed}
    (hId : id.isText = true)
    (h : (w.answer (.channelInfo id)).1 = .ok observed) :
    ∃ room, w.channels.get? id = some room ∧
      room.state = observed := by
  simp only [Workspace.answer] at h
  split at h
  case h_1 => cases h
  case h_2 =>
      cases hRoom : w.room id with
      | error problem =>
          simp only [Workspace.grant, hRoom] at h
          cases h
      | ok room =>
          simp only [Workspace.grant, hRoom] at h
          cases h
          exact
            ⟨room, (Workspace.room_eq_ok hId).mp hRoom, rfl⟩

/- A page of members is read. -/
@[simp]
theorem returns_memberPage
    {limit id cursor : Datum}
    {page : Page Datum} :
    (memberPage limit id cursor).Returns Workspace.remote w
        page after ↔
      (w.answer (.memberPage id cursor limit)).1 =
          .ok page ∧
        after = w :=
  returns_reporting.trans (returns_read rfl)

/- A page of channels is read. -/
theorem returns_channelPage
    {cursor limit : Datum}
    {page : Page Observed} :
    (send (.channelPage cursor limit)).Returns
        Workspace.remote w page after ↔
      (w.answer (.channelPage cursor limit)).1 = .ok page ∧
        after = w :=
  returns_read rfl

/- The user with an address is returned. -/
@[simp]
theorem returns_userByEmail
    {email : Datum}
    {user : User} :
    (userByEmail email).Returns Workspace.remote w user
        after ↔
      (w.answer (.userByEmail email)).1 = .ok user ∧
        after = w :=
  returns_reporting.trans (returns_read rfl)

/- The user with an identifier is returned. -/
@[simp]
theorem returns_userById
    {userId : Datum}
    {user : User} :
    (userById userId).Returns Workspace.remote w user
        after ↔
      (w.answer (.userById userId)).1 = .ok user ∧
        after = w :=
  returns_reporting.trans (returns_read rfl)

end Access

end ChannelSync

------------------------------------------------------------
-- Changing
------------------------------------------------------------

namespace ChannelSync

namespace Workspace

open Program

variable {w : Workspace}
variable {id : Datum}
variable {room room' : Room}
variable {refusal : Except Problem Unit}

/-
  A program that puts another room in the place of a room.
  It leaves the room as it is exactly when it is refused.
-/
def Edits
    (w : Workspace)
    (id : Datum)
    (room room' : Room)
    (refusal : Except Problem Unit)
    (p : Program α) :
    Prop :=
  ∃ answer,
    ((p.run remote (w.putRoom id room)).result,
        (p.run remote (w.putRoom id room)).state) =
      edited w id room room' refusal answer

/- A program edits if it ends in one of the two ways. -/
theorem Edits.of_ends
    {p : Program α}
    (answer : α)
    {result : Except Problem α}
    {after : Workspace}
    {exchanges : List Exchange}
    (hEnds :
      p.Ends remote (w.putRoom id room) result after
        exchanges)
    (h :
      (result, after) =
        edited w id room room' refusal answer) :
    w.Edits id room room' refusal p := by
  rw [← hEnds.result_eq, ← hEnds.state_eq] at h
  exact ⟨answer, h⟩

/- When it returns, it was not refused. -/
theorem Edits.returned
    {p : Program α}
    {a : α}
    {after : Workspace}
    (h : w.Edits id room room' refusal p)
    (hReturns :
      p.Returns remote (w.putRoom id room) a after) :
    refusal = .ok () ∧ after = w.putRoom id room' := by
  rcases h with ⟨answer, h⟩
  rcases hReturns with ⟨hResult, rfl⟩
  rw [hResult] at h
  cases refusal with
  | error problem => cases (Prod.ext_iff.mp h).1
  | ok _ => exact ⟨rfl, (Prod.ext_iff.mp h).2⟩

/- When it has a problem, that is why it was refused. -/
theorem Edits.refused
    {p : Program α}
    {problem : Problem}
    {after : Workspace}
    {exchanges : List Exchange}
    (h : w.Edits id room room' refusal p)
    (hEnds :
      p.Ends remote (w.putRoom id room) (.error problem)
        after exchanges) :
    refusal = .error problem ∧ after = w.putRoom id room := by
  rcases h with ⟨answer, h⟩
  rcases hEnds with ⟨hResult, rfl, -⟩
  rw [hResult] at h
  cases refusal with
  | error problem' =>
      rcases Prod.ext_iff.mp h with ⟨hProblem, hState⟩
      cases hProblem
      exact ⟨rfl, hState⟩
  | ok _ => cases (Prod.ext_iff.mp h).1

/- When it is refused, it has that problem. -/
theorem Edits.ends_of_refused
    {p : Program α}
    {problem : Problem}
    (h : w.Edits id room room' refusal p)
    (hRefusal : refusal = .error problem) :
    p.Ends remote (w.putRoom id room) (.error problem)
      (w.putRoom id room)
      (p.run remote (w.putRoom id room)).exchanges := by
  rcases h with ⟨answer, h⟩
  subst hRefusal
  rw [edited, Prod.ext_iff] at h
  exact ⟨h.1, h.2, rfl⟩

/- When it is not refused, it returns. -/
theorem Edits.returns
    {p : Program α}
    (h : w.Edits id room room' refusal p)
    (hRefusal : refusal = .ok ()) :
    ∃ a, p.Returns remote (w.putRoom id room) a
      (w.putRoom id room') := by
  rcases h with ⟨answer, h⟩
  subst hRefusal
  rw [edited, Prod.ext_iff] at h
  exact ⟨answer, h.1, h.2⟩

/- Either way one of the two rooms is there. -/
theorem Edits.state_cases
    {p : Program α}
    (h : w.Edits id room room' refusal p) :
    (p.run remote (w.putRoom id room)).state =
        w.putRoom id room ∨
      (refusal = .ok () ∧
        (p.run remote (w.putRoom id room)).state =
          w.putRoom id room') := by
  rcases h with ⟨answer, h⟩
  cases refusal with
  | error problem => exact Or.inl (Prod.ext_iff.mp h).2
  | ok _ => exact Or.inr ⟨rfl, (Prod.ext_iff.mp h).2⟩

/- A request that edits the room is a program that does. -/
theorem edits_send
    {request : Request}
    {answer : request.Answer}
    (h : (w.putRoom id room).answer request =
      edited w id room room' refusal answer) :
    w.Edits id room room' refusal (send request) :=
  ⟨answer, by rw [run_send]; exact h⟩

/- Reporting a failure does not matter for the room. -/
theorem Edits.reporting
    {p : Program α}
    {event : Failure → Event}
    (h : w.Edits id room room' refusal p) :
    w.Edits id room room' refusal (p.reporting event) := by
  have hEnds :=
    ends_reporting.mp
      (ends_run remote (p.reporting event)
        (w.putRoom id room))
  rcases h with ⟨answer, h⟩
  rw [hEnds.result_eq, hEnds.state_eq] at h
  exact ⟨answer, h⟩

/- An event does not matter for the room. -/
theorem Edits.record
    {p : Program α}
    {event : Event}
    (h : w.Edits id room room' refusal p) :
    w.Edits id room room' refusal
      (record event >>= fun _ => p) :=
  h

end Workspace

namespace Access

open Program Workspace

variable {id userId : Datum}

/- An invitation ends as it is answered. -/
theorem ends_invite
    {w after : Workspace}
    {result : Except Problem Unit}
    (h : w.answer (.inviteMembers id [userId]) =
      (result, after)) :
    (invite id userId).Ends remote w result after
      [⟨.inviteMembers id [userId], result⟩] :=
  ends_send_of_answer h

/- So does a removal. -/
theorem ends_remove
    {w after : Workspace}
    {result : Except Problem Unit}
    (h : w.answer (.removeMember id userId) =
      (result, after)) :
    (remove id userId).Ends remote w result after
      [⟨.removeMember id userId, result⟩] :=
  ends_send_of_answer h

/- An invitation adds a member. -/
theorem edits_invite
    (hId : id.isText = true)
    (hUserId : userId.isText = true)
    (w : Workspace)
    (room : Room) :
    w.Edits id room
      (room.withMembers (room.members ++ [userId]))
      (w.refusal (.inviteMembers id [userId]) |>.bind
        fun _ => w.barred room userId)
      (invite id userId) :=
  edits_send (answer_inviteMember hId hUserId w room)

/- A removal takes a member away. -/
theorem edits_remove
    (hId : id.isText = true)
    (hUserId : userId.isText = true)
    (w : Workspace)
    (room : Room) :
    w.Edits id room
      (room.withMembers (room.members.erase userId))
      (w.refusal (.removeMember id userId) |>.bind fun _ =>
        if userId ∈ room.members then .ok ()
        else .error (.failure Refusal.notMember))
      (remove id userId) :=
  edits_send (answer_removeMember hId hUserId w room)

/- A removal that gets through takes a member away. -/
theorem remove_returned
    {w after : Workspace}
    {room : Room}
    (hId : id.isText = true)
    (hUserId : userId.isText = true)
    (h : (remove id userId).Returns remote
      (w.putRoom id room) () after) :
    userId ∈ room.members ∧
      after = w.putRoom id
        (room.withMembers (room.members.erase userId)) := by
  rcases (edits_remove hId hUserId w room).returned h with
    ⟨hRefusal, hAfter⟩
  refine ⟨?_, hAfter⟩
  by_cases hMember : userId ∈ room.members
  · exact hMember
  · rw [if_neg hMember] at hRefusal
    cases hFirst : w.refusal (.removeMember id userId) with
    | error problem =>
        rw [hFirst] at hRefusal
        cases hRefusal
    | ok _ =>
        rw [hFirst] at hRefusal
        cases hRefusal

/- A channel is taken out of the archive. -/
theorem edits_unarchive
    (hId : id.isText = true)
    (w : Workspace)
    (room : Room) :
    w.Edits id room
      (room.edit fun state =>
        { state with archived := .flag false })
      (w.refusal (.unarchiveChannel id) |>.bind fun _ =>
        if room.state.archived.truthy then .ok ()
        else .error (.failure Refusal.notArchived))
      (unarchive id) :=
  (edits_send
    (answer_unarchiveChannel hId w room)).reporting.record

end Access

end ChannelSync

------------------------------------------------------------
-- What Holds of the Room
------------------------------------------------------------

namespace ChannelSync

namespace Workspace

open Program

variable {w : Workspace}
variable {id : Datum}
variable {P : Room → Prop}

/-
  A workspace in which one room has a property, and which is
  the same as another one otherwise.
-/
def Holding
    (w : Workspace)
    (id : Datum)
    (P : Room → Prop)
    (s : Workspace) :
    Prop :=
  ∃ room, s = w.putRoom id room ∧ P room

/- A program that only reads preserves everything. -/
theorem preserves_of_reads
    {p : Program α}
    {inv : Workspace → Prop}
    (h : p.Reads) :
    p.Preserves remote inv :=
  preserves_of_state_eq (state_of_reads h)

/- An edit preserves what the other room has as well. -/
theorem preserves_of_edits
    {p : Program α}
    {change : Room → Room}
    {refusal : Room → Except Problem Unit}
    (hEdits :
      ∀ room, w.Edits id room (change room) (refusal room) p)
    (hChange :
      ∀ room, refusal room = .ok () →
        P room → P (change room)) :
    p.Preserves remote (w.Holding id P) := by
  intro _ h
  rcases h with ⟨room, rfl, hRoom⟩
  rcases (hEdits room).state_cases with
    hSame | ⟨hRefusal, hOther⟩
  · exact ⟨room, hSame, hRoom⟩
  · exact ⟨change room, hOther,
      hChange room hRefusal hRoom⟩

/- A room that is put has what holds of it. -/
theorem holding_putRoom
    {room : Room} :
    w.Holding id P (w.putRoom id room) ↔ P room := by
  constructor
  · intro h
    rcases h with ⟨room', hRoom, hP⟩
    exact putRoom_injective hRoom ▸ hP
  · intro h
    exact ⟨room, rfl, h⟩

end Workspace

end ChannelSync
