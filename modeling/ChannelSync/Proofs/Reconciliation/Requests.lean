import ChannelSync.Proofs.Reconciliation.Course
import ChannelSync.Proofs.Reconciliation.Target

/-
  Requests of the parts of a reconciliation.

  Each part may send every request that reads, and one or
  two kinds of requests that write.  This is read off the
  programs and holds on any platform.

  Key theorems include:
    * `sends_createOrFind` and `sends_fetchActive`
    * `sends_alignAttributes`
    * `Roster.sends_inviteAll`
-/

------------------------------------------------------------
-- Allowed Requests
------------------------------------------------------------

namespace ChannelSync

open Program

variable {allowed : Request → Prop}
variable {limits : Limits}
variable {desired : Desired}
variable {id : Datum}

/- A program that only reads sends what may be read. -/
theorem Program.Reads.sends
    {p : Program α}
    (h : p.Reads)
    (hRead : ∀ request, request.isWrite = false →
      allowed request) :
    p.Sends allowed :=
  h.mono hRead

/- A declaration is looked at without any request. -/
theorem asks_validate
    {listed : Listing → Prop}
    (desired : Desired) :
    (validate desired).Asks allowed listed := by
  unfold validate
  split <;> trivial

/- So nothing is sent. -/
theorem sends_validate
    (desired : Desired) :
    (validate desired).Sends allowed :=
  sends_iff.mpr (asks_validate desired)

/- A channel is read, and created if there is none. -/
theorem sends_createOrFind
    (hRead : ∀ request, request.isWrite = false →
      allowed request)
    (hCreate : allowed
      (.createChannel desired.name desired.isPrivate)) :
    (createOrFind limits desired).Sends allowed := by
  have hCreated :
      (Access.create desired.name
        desired.isPrivate).Sends allowed :=
    (sends_send hCreate).bind fun _ => trivial
  apply hCreated.attempt.bind
  intro created
  cases created with
  | ok id => trivial
  | error failure =>
      dsimp only
      split
      · exact ((reads_findByName _ _).sends hRead).bind
          fun _ => trivial
      · trivial

/- A channel is read, and may be taken out of the archive. -/
theorem sends_fetchActive
    (hRead : ∀ request, request.isWrite = false →
      allowed request)
    (hUnarchive : allowed (.unarchiveChannel id)) :
    (fetchActive limits id).Sends allowed := by
  have hFetch :=
    (Access.reads_fetch limits.members id).sends hRead
  apply hFetch.bind
  intro observed
  split
  · have hActive : (Access.unarchive id).Sends allowed :=
      (sends_send hUnarchive).reporting
    exact hActive.bind fun _ => hFetch
  · trivial

/- Privacy is noted without any request. -/
theorem asks_notePrivacy
    {listed : Listing → Prop}
    (desired : Desired)
    (observed : Observed)
    (id : Datum) :
    (notePrivacy desired observed id).Asks allowed
      listed := by
  unfold notePrivacy
  split <;> trivial

/- So nothing is sent. -/
theorem sends_notePrivacy
    (desired : Desired)
    (observed : Observed)
    (id : Datum) :
    (notePrivacy desired observed id).Sends allowed :=
  sends_iff.mpr (asks_notePrivacy desired observed id)

/- A channel is read, and three attributes may be set. -/
theorem sends_alignAttributes
    (hRead : ∀ request, request.isWrite = false →
      allowed request)
    (hName : allowed (.renameChannel id desired.name))
    (hTopic : allowed (.setTopic id desired.topic))
    (hDescription :
      allowed (.setPurpose id desired.description)) :
    (alignAttributes desired id).Sends allowed := by
  have hInfo : allowed (.channelInfo id) := by
    apply hRead
    rfl
  apply Sends.bind
    (Access.sends_ensure hInfo (sends_send hName).reporting)
  intro _
  apply Sends.bind
    (Access.sends_ensure hInfo (sends_send hTopic).reporting)
  intro _
  apply Sends.bind
    (Access.sends_ensure hInfo
      (sends_send hDescription).reporting)
  intro _
  trivial

namespace Roster

/- A user is looked up, and may be invited. -/
theorem sends_inviteOne
    (hRead : ∀ request, request.isWrite = false →
      allowed request)
    (hInvite : ∀ userId, allowed (.inviteMembers id [userId]))
    (email : Datum) :
    (inviteOne id email).Sends allowed := by
  have hLookup : allowed (.userByEmail email) := by
    apply hRead
    rfl
  apply (sends_send hLookup).reporting.attempt.bind
  intro found
  cases found with
  | error failure => trivial
  | ok user =>
      have hInvited : (Access.invite id user.id).Sends
          allowed :=
        sends_send (hInvite user.id)
      refine Sends.bind (p := record _) trivial fun _ => ?_
      apply hInvited.attempt.bind
      intro invited
      cases invited with
      | ok _ => trivial
      | error failure =>
          apply (sends_lift _).bind
          intro settled
          split <;> trivial

/- Users are looked up, and may be invited. -/
theorem sends_inviteAll
    (hRead : ∀ request, request.isWrite = false →
      allowed request)
    (hInvite : ∀ userId, allowed (.inviteMembers id [userId]))
    (emails : List Datum) :
    (inviteAll id emails).Sends allowed := by
  apply (sends_lift _).bind
  intro ordered
  induction ordered with
  | nil => trivial
  | cons email rest ih =>
      apply (sends_inviteOne hRead hInvite email).bind
      intro failure?
      exact ih.bind fun _ => trivial

end Roster

end ChannelSync
