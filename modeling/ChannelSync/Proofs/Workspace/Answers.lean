import ChannelSync.Proofs.Run.Invariant
import ChannelSync.Proofs.Workspace.Directory

/-
  What the answers of a workspace have in common.

  No request changes the users of a workspace or the failures
  that are laid in, so that a user is looked up with the same
  answer before and after a run.

  A request that fails does so with a failure that is laid
  in, or with one that the workspace makes up.  These are all
  single failures.

  Key definitions include:
    * `Workspace.Alike`
    * `Fails`
    * `Refusal.Own`
    * `Failure.IsSingle`
    * `Plain`
    * `Workspace.RefusesSingly`

  Key theorems include:
    * `Workspace.Alike.run`
    * `Workspace.fails_answer`
    * `Workspace.plain_answer`
-/

------------------------------------------------------------
-- What Every Answer Keeps
------------------------------------------------------------

namespace ChannelSync

namespace Workspace

/- A workspace with the same users and laid-in failures. -/
structure Alike
    (w s : Workspace) :
    Prop where
  users : s.users = w.users
  failures : s.failures = w.failures

variable {w s : Workspace}

/- A workspace is like itself. -/
theorem alike_self
    (w : Workspace) :
    w.Alike w :=
  ⟨rfl, rfl⟩

/- What is granted changes neither users nor failures. -/
theorem alike_grant
    (w : Workspace)
    (request : Request) :
    w.Alike (w.grant request).2 := by
  constructor <;>
    cases request <;>
    simp only [grant, createChannel, setPurpose, setTopic,
      renameChannel, setArchived, inviteMembers,
      removeMember, update, addChannel, putRoom] <;>
    (repeat' split) <;> rfl

/- No answer changes users or failures. -/
theorem Alike.answer
    (h : w.Alike s)
    (request : Request) :
    w.Alike (s.answer request).2 := by
  unfold Workspace.answer
  split
  case h_1 => exact h
  case h_2 =>
      have hGrant := s.alike_grant request
      exact ⟨hGrant.users.trans h.users,
        hGrant.failures.trans h.failures⟩

/- No run changes users or failures. -/
theorem Alike.run
    {p : Program α}
    (h : w.Alike s) :
    w.Alike (p.run remote s).state := by
  apply Program.preserves_of_answers _ p s h
  intro s request hs
  exact hs.answer request

/- So a run that returns leaves both as they were. -/
theorem Alike.of_returns
    {p : Program α}
    {a : α}
    {after : Workspace}
    (h : w.Alike s)
    (hReturns : p.Returns remote s a after) :
    w.Alike after := by
  rw [← hReturns.state_eq]
  exact h.run

/- Users are found by address as before. -/
theorem Alike.userByEmail
    (h : w.Alike s)
    (email : Datum) :
    (s.answer (.userByEmail email)).1 =
      (w.answer (.userByEmail email)).1 :=
  answer_userByEmail_congr h.failures h.users email

end Workspace

end ChannelSync

------------------------------------------------------------
-- What Is Granted
------------------------------------------------------------

namespace ChannelSync

namespace Workspace

variable {w : Workspace}

/- What is answered was granted. -/
theorem grant_of_answer
    {request : Request}
    {a : request.Answer}
    (h : (w.answer request).1 = .ok a) :
    (w.grant request).1 = .ok a := by
  unfold answer at h
  split at h
  case h_1 => cases h
  case h_2 => exact h

end Workspace

end ChannelSync

------------------------------------------------------------
-- Failures of Results
------------------------------------------------------------

namespace ChannelSync

/- A result that fails only with failures of some kind. -/
def Fails
    (P : Failure → Prop)
    (result : Except Problem α) :
    Prop :=
  ∀ failure, result = .error (.failure failure) → P failure

variable {α β : Type}
variable {P Q : Failure → Prop}

/- A value does not fail. -/
theorem fails_ok
    (a : α) :
    Fails P (.ok a) := by
  intro failure h
  cases h

/- A fault is no failure. -/
theorem fails_fault
    (fault : Fault) :
    Fails P (.error (.fault fault) : Except Problem α) := by
  intro failure h
  cases h

/- A failure is what the result fails with. -/
theorem fails_failure
    {failure : Failure}
    (h : P failure) :
    Fails P
      (.error (.failure failure) : Except Problem α) := by
  intro failure' hFailure
  cases hFailure
  exact h

/- A computation does not fail. -/
theorem fails_mapError
    (value : Except Fault α) :
    Fails P (value.mapError Problem.fault) := by
  cases value with
  | ok a => exact fails_ok a
  | error fault => exact fails_fault fault

/- Going on from a result keeps its failures. -/
theorem Fails.bind
    {result : Except Problem α}
    {next : α → Except Problem β}
    (h : Fails P result)
    (hNext : ∀ a, Fails P (next a)) :
    Fails P (result.bind next) := by
  cases result with
  | ok a => exact hNext a
  | error problem =>
      intro failure hFailure
      cases hFailure
      exact h _ rfl

/- What is made of the value does not matter. -/
theorem Fails.map
    {result : Except Problem α}
    (h : Fails P result)
    (f : α → β) :
    Fails P (result.map f) := by
  cases result with
  | ok a => exact fails_ok _
  | error problem =>
      intro failure hFailure
      cases hFailure
      exact h _ rfl

/- Failures of a kind are failures of a wider kind. -/
theorem Fails.mono
    {result : Except Problem α}
    (h : Fails P result)
    (hWider : ∀ failure, P failure → Q failure) :
    Fails Q result :=
  fun failure hFailure => hWider failure (h failure hFailure)

end ChannelSync

------------------------------------------------------------
-- Operations
------------------------------------------------------------

namespace ChannelSync

/- The failures that a workspace makes up. -/
inductive Refusal.Own : Failure → Prop where
  | channelMissing (id : Datum) :
      Own (Refusal.channelMissing id)
  | nameTaken (name : Datum) : Own (Refusal.nameTaken name)
  | alreadyArchived : Own Refusal.alreadyArchived
  | notArchived : Own Refusal.notArchived
  | selfInvited : Own Refusal.selfInvited
  | alreadyMember : Own Refusal.alreadyMember
  | notMember : Own Refusal.notMember
  | userMissing (id : Datum) : Own (Refusal.userMissing id)
  | emailUnknown (email : Datum) :
      Own (Refusal.emailUnknown email)

namespace Workspace

open Refusal

/- A channel is there, or it is missing. -/
theorem own_room
    (w : Workspace)
    (id : Datum) :
    Fails Own (w.room id) := by
  unfold room
  split
  case isFalse => exact fails_fault _
  case isTrue =>
      split
      case h_1 => exact fails_ok _
      case h_2 => exact fails_failure (.channelMissing id)

/- Changing a channel fails like looking for it. -/
theorem own_update
    (w : Workspace)
    (id : Datum)
    (change : Observed → Observed) :
    Fails Own (w.update id change).1 := by
  have hRoom := w.own_room id
  unfold update
  split
  case h_1 problem h =>
      rw [h] at hRoom
      exact hRoom.bind fun room => fails_ok (change room.state)
  case h_2 => exact fails_ok _

/- So does moving it into the archive or out of it. -/
theorem own_setArchived
    (w : Workspace)
    (id : Datum)
    (archived : Bool) :
    Fails Own (w.setArchived id archived).1 := by
  have hRoom := w.own_room id
  unfold setArchived
  split
  case h_1 problem h =>
      rw [h] at hRoom
      exact hRoom.bind fun _ => fails_ok ()
  case h_2 =>
      split
      case isTrue =>
          apply fails_failure
          split
          · exact .alreadyArchived
          · exact .notArchived
      case isFalse => exact (w.own_update id _).map _

/- There are three reasons not to add a user. -/
theorem own_enrol
    (w : Workspace)
    (members userIds : List Datum) :
    Fails Own (w.enrol members userIds).1 := by
  induction userIds generalizing members with
  | nil => exact fails_ok ()
  | cons userId rest ih =>
      unfold enrol
      split
      case isTrue => exact fails_failure .selfInvited
      case isFalse =>
          split
          case isTrue => exact fails_fault _
          case isFalse =>
              split
              case isTrue =>
                  exact fails_failure (.userMissing userId)
              case isFalse =>
                  split
                  case isTrue =>
                      exact fails_failure .alreadyMember
                  case isFalse => exact ih _

/- A channel is created, or its name is taken. -/
theorem own_createChannel
    (w : Workspace)
    (name isPrivate : Datum) :
    Fails Own (w.createChannel name isPrivate).1 := by
  unfold createChannel
  split
  case isTrue => exact fails_failure (.nameTaken name)
  case isFalse =>
      dsimp only
      exact fails_mapError _

/- What is not granted is refused by the workspace itself. -/
theorem own_grant
    (w : Workspace)
    (request : Request) :
    Fails Own (w.grant request).1 := by
  cases request with
  | channelInfo id => exact (w.own_room id).map _
  | createChannel name isPrivate =>
      exact w.own_createChannel name isPrivate
  | setPurpose id purpose =>
      simp only [grant, setPurpose]
      split
      case h_1 => exact fails_fault _
      case h_2 => exact w.own_update id _
  | setTopic id topic =>
      simp only [grant, setTopic]
      split
      case h_1 => exact fails_fault _
      case h_2 => exact w.own_update id _
  | renameChannel id name =>
      simp only [grant, renameChannel]
      split
      case isTrue => exact fails_failure (.nameTaken name)
      case isFalse => exact w.own_update id _
  | archiveChannel id => exact w.own_setArchived id true
  | unarchiveChannel id => exact w.own_setArchived id false
  | memberPage id cursor limit =>
      exact (w.own_room id).bind fun _ => fails_mapError _
  | inviteMembers id userIds =>
      have hRoom := w.own_room id
      simp only [grant, inviteMembers]
      split
      case h_1 problem h =>
          rw [h] at hRoom
          exact hRoom.bind fun _ => fails_ok ()
      case h_2 => exact w.own_enrol _ _
  | removeMember id userId =>
      have hRoom := w.own_room id
      simp only [grant, removeMember]
      split
      case h_1 problem h =>
          rw [h] at hRoom
          exact hRoom.bind fun _ => fails_ok ()
      case h_2 =>
          split
          case isTrue => exact fails_ok _
          case isFalse => exact fails_failure .notMember
  | channelPage cursor limit => exact fails_mapError _
  | userByEmail email =>
      simp only [grant, userByEmail]
      split
      case h_1 => exact fails_ok _
      case h_2 => exact fails_failure (.emailUnknown email)
  | userById id =>
      simp only [grant, userById]
      split
      case isFalse => exact fails_fault _
      case isTrue =>
          split
          case h_1 => exact fails_ok _
          case h_2 => exact fails_failure (.userMissing id)

end Workspace

end ChannelSync

------------------------------------------------------------
-- Answers
------------------------------------------------------------

namespace ChannelSync

namespace Workspace

variable {w : Workspace}
variable {P : Failure → Prop}

/- What refuses a request was laid in. -/
theorem fails_laidIn
    (h : ∀ trigger failure,
      w.failures.get? trigger = some failure → P failure)
    (operation : String)
    (keys : List Datum) :
    Fails P (w.laidIn operation keys) := by
  induction keys with
  | nil => exact fails_ok ()
  | cons key rest ih =>
      unfold laidIn
      split
      case isFalse => exact fails_fault _
      case isTrue =>
          split
          case h_1 failure hLaid =>
              exact fails_failure (h _ _ hLaid)
          case h_2 => exact ih

/-
  Every failure of an answer was laid in, or was made up by
  the workspace.
-/
theorem fails_answer
    (hLaid : ∀ trigger failure,
      w.failures.get? trigger = some failure → P failure)
    (hOwn : ∀ failure, Refusal.Own failure → P failure)
    (request : Request) :
    Fails P (w.answer request).1 := by
  have hRefused :=
    fails_laidIn hLaid request.name (keys request)
  unfold answer refusal
  split
  case h_1 problem hRefusal =>
      rw [hRefusal] at hRefused
      intro failure hFailure
      cases hFailure
      exact hRefused _ rfl
  case h_2 => exact (w.own_grant request).mono hOwn

end Workspace

end ChannelSync

------------------------------------------------------------
-- Single Failures
------------------------------------------------------------

namespace ChannelSync

/- A failure that does not collect other failures. -/
def Failure.IsSingle : Failure → Prop
  | .single _ _ _ _ => True
  | .partialMembership _ => False

/- A result that is no collection of failures. -/
def Plain
    (result : Except Problem α) :
    Prop :=
  ∀ failure, result = .error (.failure failure) →
    failure.IsSingle

namespace Workspace

variable {w : Workspace}

/- Every failure that is laid in is a single one. -/
def RefusesSingly
    (w : Workspace) :
    Prop :=
  ∀ trigger failure,
    w.failures.get? trigger = some failure →
      failure.IsSingle

/- With nothing laid in there is no collection. -/
theorem refusesSingly_of_no_failures
    (hOpen : w.failures.entries = []) :
    w.RefusesSingly := by
  intro trigger failure h
  simp [Table.get?, hOpen] at h

/- Only what is laid in matters. -/
theorem RefusesSingly.congr
    {s : Workspace}
    (h : w.RefusesSingly)
    (hAlike : w.Alike s) :
    s.RefusesSingly := by
  unfold RefusesSingly
  rw [hAlike.failures]
  exact h

/- Then no answer is a collection of failures. -/
theorem plain_answer
    (h : w.RefusesSingly)
    (request : Request) :
    Plain (w.answer request).1 := by
  apply fails_answer h
  intro failure hOwn
  cases hOwn <;> trivial

end Workspace

end ChannelSync
