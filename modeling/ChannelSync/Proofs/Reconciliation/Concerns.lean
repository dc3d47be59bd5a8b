import ChannelSync.Proofs.Reconciliation.Creations
import ChannelSync.Proofs.Reconciliation.Prediction
import ChannelSync.Proofs.Reconciliation.Requests
import ChannelSync.Proofs.Workspace.Neighbours

/-
  Which channel a reconciliation is concerned with.

  Bringing a channel in line sends requests about that
  channel and looks users up, and nothing else.  It asks
  about no listing but that of the channel's members, and
  gives the channel no name but the declared one.  Before
  that a channel is created or found by its name, which
  names no channel by its identifier.  This is read off the
  programs and holds on any platform.

  Key definitions include:
    * `Request.Concerns`
    * `Program.Confined`

  Key theorems include:
    * `confined_converge` and `concerns_converge`
    * `sends_findByName`
-/

------------------------------------------------------------
-- Requests About One Channel
------------------------------------------------------------

namespace ChannelSync

/- A request that is about a channel, or looks a user up. -/
def Request.Concerns
    (id : Datum)
    (request : Request) :
    Prop :=
  request.channelId? = some id ∨
    ∃ d, request = .userByEmail d ∨ request = .userById d

/- Looking a user up by an address concerns any channel. -/
theorem Request.concerns_userByEmail
    (id email : Datum) :
    (Request.userByEmail email).Concerns id :=
  Or.inr ⟨email, Or.inl rfl⟩

/- So does looking a user up by an identifier. -/
theorem Request.concerns_userById
    (id userId : Datum) :
    (Request.userById userId).Concerns id :=
  Or.inr ⟨userId, Or.inr rfl⟩

/- If such a request names a channel, it is that one. -/
theorem Request.Concerns.eq
    {id other : Datum}
    {request : Request}
    (h : request.Concerns id)
    (hOther : request.channelId? = some other) :
    other = id := by
  rcases h with hId | ⟨d, rfl | rfl⟩
  · exact Option.some.inj (hOther.symm.trans hId)
  · cases hOther
  · cases hOther

/- Such a request never asks for another channel. -/
theorem Request.Concerns.not_creates
    {id : Datum}
    {x : Exchange}
    (h : x.request.Concerns id) :
    x.creates = false := by
  rcases x with ⟨request, answer⟩
  rcases h with hId | ⟨d, rfl | rfl⟩
  · cases request <;> first | rfl | cases hId
  · rfl
  · rfl

/- What keeps to a channel concerns it. -/
theorem Request.Confined.concerns
    {id name : Datum}
    {request : Request}
    (h : request.Confined id name) :
    request.Concerns id := by
  cases h with
  | userByEmail email =>
      exact Request.concerns_userByEmail id email
  | userById userId =>
      exact Request.concerns_userById id userId
  | _ => exact Or.inl rfl

/-
  A program that keeps to one channel and the listing of its
  members, and gives the channel no name but one.
-/
abbrev Program.Confined
    (id name : Datum)
    (p : Program α) :
    Prop :=
  p.Asks (Request.Confined id name)
    fun listing => listing = .members id

end ChannelSync

------------------------------------------------------------
-- Access to the Channel
------------------------------------------------------------

namespace ChannelSync

namespace Access

open Program

variable {limit id name : Datum}

/- Attributes are asked for about the channel. -/
theorem confined_info :
    (info id).Confined id name :=
  (asks_send .channelInfo).reporting

/- So are its members. -/
theorem confined_memberIds :
    (memberIds limit id).Confined id name :=
  asks_memberIds limit id
    (fun cursor => .memberPage cursor limit) rfl

/- A channel is fetched by requests about it. -/
theorem confined_fetch :
    (fetch limit id).Confined id name := by
  apply confined_info.bind
  intro channel
  exact confined_memberIds.bind fun _ => trivial

/- A user is looked up without regard to channels. -/
theorem confined_userByEmail
    (email : Datum) :
    (userByEmail email).Confined id name :=
  (asks_send (.userByEmail email)).reporting

/- By an identifier too. -/
theorem confined_userById
    (userId : Datum) :
    (userById userId).Confined id name :=
  (asks_send (.userById userId)).reporting

end Access

end ChannelSync

------------------------------------------------------------
-- Looking for Drift
------------------------------------------------------------

namespace ChannelSync

namespace Drift

open Program

variable {desired : Desired}
variable {observed : Observed}
variable {id name : Datum}

/- Whether somebody is missing is asked about users. -/
theorem confined_anyMissing
    (emails : List Datum) :
    (anyMissing observed emails).Confined id name := by
  induction emails with
  | nil => trivial
  | cons email rest ih =>
      apply (Access.confined_userByEmail email).bind
      intro user
      apply (asks_lift _).bind
      intro listed
      split
      · exact ih
      · trivial

/- So is whether somebody should not be there. -/
theorem confined_anySurplus
    (userIds : List Datum) :
    (anySurplus desired observed userIds).Confined id
      name := by
  induction userIds with
  | nil => trivial
  | cons userId rest ih =>
      apply (Access.confined_userById userId).bind
      intro user
      apply (asks_lift _).bind
      intro allowed
      split
      · exact ih
      · trivial

/- Members are compared by asking about users. -/
theorem confined_membershipDiffers :
    (membershipDiffers desired observed).Confined id
      name := by
  apply (asks_lift _).bind
  intro emails
  apply (confined_anyMissing emails).bind
  intro missing
  split
  · trivial
  · apply (asks_lift _).bind
    intro userIds
    exact confined_anySurplus userIds

/- For drift nothing else is asked for. -/
theorem confined_detected :
    (detected desired observed).Confined id name := by
  apply (asks_lift _).bind
  intro name
  split
  · trivial
  · apply (asks_lift _).bind
    intro topic
    split
    · trivial
    · apply (asks_lift _).bind
      intro description
      split
      · trivial
      · exact confined_membershipDiffers

end Drift

end ChannelSync

------------------------------------------------------------
-- Bringing the Channel in Line
------------------------------------------------------------

namespace ChannelSync

open Program

variable {limits : Limits}
variable {desired : Desired}
variable {observed : Observed}
variable {id name : Datum}

/- A channel is taken out of the archive by itself. -/
theorem confined_fetchActive :
    (fetchActive limits id).Confined id name := by
  apply Access.confined_fetch.bind
  intro observed
  split
  · have hActive :
        (Access.unarchive id).Confined id name :=
      (asks_send .unarchiveChannel).reporting
    exact hActive.bind fun _ => Access.confined_fetch
  · trivial

/- Its attributes are set by requests about it. -/
theorem confined_alignAttributes :
    (alignAttributes desired id).Confined id
      desired.name := by
  have hSetter :
      ∀ declared field event (set : Program Observed),
        set.Confined id desired.name →
          (Access.ensure id declared field event
            set).Confined id desired.name :=
    fun _ _ _ _ hSet =>
      Access.asks_ensure .channelInfo hSet
  apply (hSetter _ _ _ _
    (asks_send .renameChannel).reporting).bind
  intro _
  apply (hSetter _ _ _ _
    (asks_send (.setTopic _)).reporting).bind
  intro _
  apply (hSetter _ _ _ _
    (asks_send (.setPurpose _)).reporting).bind
  intro _
  trivial

/- Users are invited to it. -/
theorem Roster.confined_inviteEach
    (emails : List Datum) :
    (inviteEach id emails).Confined id name := by
  induction emails with
  | nil => trivial
  | cons email rest ih =>
      have hOne :
          (inviteOne id email).Confined id name := by
        apply (Access.confined_userByEmail email).attempt.bind
        intro found
        cases found with
        | error failure => trivial
        | ok user =>
            have hInvite :
                (Access.invite id user.id).Confined id
                  name :=
              asks_send (.inviteMembers [user.id])
            apply Asks.bind (p := record _) trivial
            intro _
            apply hInvite.attempt.bind
            intro invited
            cases invited with
            | ok _ => trivial
            | error failure =>
                apply (asks_lift _).bind
                intro settled
                split <;> trivial
      apply hOne.bind
      intro failure?
      exact ih.bind fun _ => trivial

/- Members are removed from it. -/
theorem Roster.confined_removeEach
    (emails userIds : List Datum) :
    (removeEach id emails userIds).Confined id name := by
  induction userIds with
  | nil => trivial
  | cons userId rest ih =>
      apply (Access.confined_userById userId).bind
      intro user
      apply (asks_lift _).bind
      intro allowed
      split
      · exact ih
      · have hRemove :
            (Access.remove id userId).Confined id name :=
          asks_send (.removeMember userId)
        apply Asks.bind (p := record _) trivial
        intro _
        exact hRemove.reporting.bind fun _ => ih

/- Its members are brought in line by such requests. -/
theorem confined_alignMembers :
    (alignMembers limits desired id).Confined id name := by
  have hInvite :
      (Roster.inviteAll id desired.members).Confined id
        name :=
    (asks_lift _).bind fun ordered =>
      Roster.confined_inviteEach ordered
  have hRemove :
      (Roster.removeOthers limits.members id
        desired.members).Confined id name :=
    Access.confined_memberIds.bind fun userIds =>
      Roster.confined_removeEach desired.members userIds
  apply hInvite.bind
  intro failures
  apply hRemove.bind
  intro _
  split <;> trivial

/- All of it keeps to the one channel. -/
theorem confined_converge :
    (converge limits desired id).Confined id
      desired.name := by
  apply confined_fetchActive.bind
  intro observed
  apply (asks_notePrivacy desired observed id).bind
  intro _
  apply Drift.confined_detected.bind
  intro drift
  split
  · apply Asks.bind (p := record _) trivial
    intro _
    apply confined_alignAttributes.bind
    intro _
    have hMayDiffer :
        (membershipMayDiffer desired observed).Confined id
          desired.name := by
      apply Drift.confined_membershipDiffers.attempt.bind
      intro verdict
      cases verdict <;> trivial
    apply hMayDiffer.bind
    intro mayDiffer
    split
    · exact confined_alignMembers.bind fun _ =>
        Access.confined_fetch
    · exact Access.confined_fetch
  · trivial

/- So does a reconciliation that is given the channel. -/
theorem confined_reconcile :
    (reconcile limits desired (some id)).Confined id
      desired.name :=
  (asks_validate desired).bind fun _ => confined_converge

/- All that is sent is about the one channel. -/
theorem concerns_converge :
    (converge limits desired id).Sends
      (Request.Concerns id) :=
  confined_converge.sends.mono fun _ h => h.concerns

end ChannelSync

------------------------------------------------------------
-- Searching for the Channel
------------------------------------------------------------

namespace ChannelSync

open Program

/- A request for a page of the channel listing. -/
def Request.ListsChannels
    (request : Request) :
    Prop :=
  ∃ cursor limit, request = .channelPage cursor limit

/- A search asks for pages of channels only. -/
theorem sends_findByName
    (limit name : Datum) :
    (findByName limit name).Sends Request.ListsChannels := by
  have hFrom :
      ∀ bound before cursor,
        (Search.findFrom limit name bound before
          cursor).Sends Request.ListsChannels := by
    intro bound
    induction bound with
    | zero => exact fun _ _ => trivial
    | succ bound ih =>
        intro before cursor
        refine Sends.bind
          (sends_send ⟨cursor, limit, rfl⟩) fun page => ?_
        split
        · trivial
        · split
          · exact ih _ _
          · trivial
  intro _
  exact hFrom _ _ _

end ChannelSync
