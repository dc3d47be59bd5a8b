import ChannelSync.Session
import ChannelSync.Proofs.Datum.Distinct
import ChannelSync.Proofs.Reconciliation.BestEffort

/-
  Invitations are independent of each other.

  The users that invitations add to a channel come after its
  members, and nothing else changes.  Whether a user can be
  invited depends on the members, but only on whether the
  user is one of them already; and different addresses stand
  for different users.  So each invitation goes as if it were
  the only one, whatever becomes of the others, and who is
  added in the end is known from these single invitations.

  The addresses are taken as a set and in their own order, so
  that it does not matter how they are listed.

  Key definitions include:
    * `Workspace.addMembers`
    * `Exchange.joined` and `Roster.Invitation.joined`
    * `Roster.Invitation.Stands`

  Key theorems include:
    * `Workspace.answer_invite_addMembers`
    * `Roster.inviteOne_stands`
    * `Roster.inviteEach_stands`
    * `Roster.inviteAll_independent`
-/

------------------------------------------------------------
-- Admitting Users
------------------------------------------------------------

namespace ChannelSync

/- The users that join a channel by an exchange. -/
def Exchange.joined : Exchange → List Datum
  | ⟨.inviteMembers _ userIds, .ok _⟩ => userIds
  | _ => []

namespace Workspace

/- More members in one channel, if it is there. -/
def addMembers
    (w : Workspace)
    (id : Datum)
    (userIds : List Datum) :
    Workspace :=
  match w.channels.get? id with
  | some room =>
      w.putRoom id
        (room.withMembers (room.members ++ userIds))
  | none => w

variable {w : Workspace}
variable {id userId : Datum}
variable {room : Room}
variable {added : List Datum}

/- A channel that is there gets more members. -/
theorem addMembers_of_some
    (h : w.channels.get? id = some room)
    (userIds : List Datum) :
    w.addMembers id userIds =
      w.putRoom id
        (room.withMembers (room.members ++ userIds)) := by
  unfold addMembers
  rw [h]

/- A channel that is not there gets none. -/
theorem addMembers_of_none
    (h : w.channels.get? id = none)
    (userIds : List Datum) :
    w.addMembers id userIds = w := by
  unfold addMembers
  rw [h]

/- Admitting nobody changes nothing. -/
@[simp]
theorem addMembers_nil
    (w : Workspace)
    (id : Datum) :
    w.addMembers id [] = w := by
  cases h : w.channels.get? id with
  | none => exact addMembers_of_none h []
  | some room =>
      rw [addMembers_of_some h, List.append_nil]
      exact putRoom_of_get? h

/- An address is looked up without regard to members. -/
theorem answer_userByEmail_addMembers
    (w : Workspace)
    (id : Datum)
    (added : List Datum)
    (email : Datum) :
    ((w.addMembers id added).answer (.userByEmail email)).1 =
      (w.answer (.userByEmail email)).1 := by
  cases h : w.channels.get? id with
  | none => rw [addMembers_of_none h]
  | some room =>
      rw [addMembers_of_some h, answer_userByEmail_putRoom]

/- Nobody is invited to a channel that is not there. -/
theorem answer_invite_of_none
    (hId : id.isText = true)
    (h : w.channels.get? id = none)
    (userIds : List Datum) :
    w.answer (.inviteMembers id userIds) =
      ((w.refusal (.inviteMembers id userIds)).bind fun _ =>
          .error (.failure (Refusal.channelMissing id)),
        w) := by
  have hRoom :
      w.room id =
        .error (.failure (Refusal.channelMissing id)) := by
    unfold Workspace.room
    rw [if_pos (Datum.isAtom_of_isText hId), h]
  unfold answer
  cases w.refusal (.inviteMembers id userIds) with
  | error problem => rfl
  | ok _ =>
      simp only [grant, inviteMembers, hRoom]
      rfl

/- Who is invited to a channel that is there may be barred. -/
theorem answer_invite_of_some
    (hId : id.isText = true)
    (hUserId : userId.isText = true)
    (h : w.channels.get? id = some room) :
    (w.answer (.inviteMembers id [userId])).1 =
      (w.refusal (.inviteMembers id [userId])).bind
        fun _ => w.barred room userId := by
  have hAnswer := answer_inviteMember hId hUserId w room
  rw [putRoom_of_get? h] at hAnswer
  rw [hAnswer]
  cases (w.refusal (.inviteMembers id [userId])).bind
      fun _ => w.barred room userId with
  | error problem => rfl
  | ok _ => rfl

/-
  Whoever has not been admitted is invited with the same
  answer as before, and is admitted if it is granted.
-/
theorem answer_invite_addMembers
    (w : Workspace)
    (hId : id.isText = true)
    (hUserId : userId.isText = true)
    (hNew : userId ∉ added) :
    (w.addMembers id added).answer
        (.inviteMembers id [userId]) =
      ((w.answer (.inviteMembers id [userId])).1,
        w.addMembers id
          (added ++ Exchange.joined
            ⟨.inviteMembers id [userId],
              (w.answer (.inviteMembers id [userId])).1⟩)) := by
  cases h : w.channels.get? id with
  | none =>
      simp only [addMembers_of_none h]
      rw [answer_invite_of_none hId h]
  | some room =>
      have hBarred :
          w.barred (room.withMembers (room.members ++ added))
              userId =
            w.barred room userId := by
        simp [barred, Room.withMembers, hNew]
      rw [addMembers_of_some h, addMembers_of_some h,
        answer_inviteMember hId hUserId, hBarred,
        answer_invite_of_some hId hUserId h]
      cases (w.refusal (.inviteMembers id [userId])).bind
          fun _ => w.barred room userId with
      | error problem => simp [edited, Exchange.joined]
      | ok _ =>
          simp [edited, Exchange.joined, Room.withMembers]

end Workspace

end ChannelSync

------------------------------------------------------------
-- Answers Without Faults
------------------------------------------------------------

namespace ChannelSync

/- A result that is no fault. -/
def Faultless
    (result : Except Problem α) :
    Prop :=
  ∀ fault, result ≠ .error (.fault fault)

/- A value is no fault. -/
theorem faultless_ok
    (a : α) :
    Faultless (.ok a) := by
  intro fault h
  cases h

/- A failure is no fault. -/
theorem faultless_failure
    (failure : Failure) :
    Faultless (.error (.failure failure) :
      Except Problem α) := by
  intro fault h
  cases h

/- Going on without a fault leads to none. -/
theorem Faultless.bind
    {result : Except Problem α}
    {next : α → Except Problem β}
    (h : Faultless result)
    (hNext : ∀ a, Faultless (next a)) :
    Faultless (result.bind next) := by
  cases result with
  | ok a => exact hNext a
  | error problem =>
      intro fault hFault
      cases hFault
      exact h fault rfl

namespace Workspace

variable {w : Workspace}
variable {id userId email : Datum}

/- Every failure that is laid in has a text as its code. -/
def RefusesInText
    (w : Workspace) :
    Prop :=
  ∀ trigger failure,
    w.failures.get? trigger = some failure →
      failure.code.isText = true

/- Every refusal has one then. -/
theorem RefusesInText.code
    (h : w.RefusesInText)
    {request : Request}
    {failure : Failure}
    (hRefused :
      (w.answer request).1 = .error (.failure failure)) :
    failure.code.isText = true := by
  refine fails_answer h ?_ request failure hRefused
  intro own hOwn
  cases hOwn <;> rfl

/- Whatever is laid in, a well-typed request meets no fault. -/
theorem faultless_refusal
    (w : Workspace)
    {request : Request}
    (hRequest : request.WellTyped) :
    Faultless (w.refusal request) := by
  have hKeys := isText_of_mem_keys hRequest
  unfold refusal
  generalize keys request = requestKeys at hKeys
  induction requestKeys with
  | nil => exact faultless_ok ()
  | cons key rest ih =>
      rcases List.forall_mem_cons.mp hKeys with ⟨hKey, hRest⟩
      unfold laidIn
      rw [if_pos (Datum.isAtom_of_isText hKey)]
      split
      · exact faultless_failure _
      · exact ih hRest

/- Looking an address up leads to no fault. -/
theorem faultless_userByEmail
    (w : Workspace)
    (hEmail : email.isText = true) :
    Faultless (w.answer (.userByEmail email)).1 := by
  have hTyped : (Request.userByEmail email).WellTyped :=
    hEmail
  have hRefusal := w.faultless_refusal hTyped
  unfold answer
  cases hRefused : w.refusal (.userByEmail email) with
  | error problem =>
      rw [hRefused] at hRefusal
      intro fault hFault
      cases hFault
      exact hRefusal fault rfl
  | ok _ =>
      simp only [grant, userByEmail]
      split
      · exact faultless_ok _
      · exact faultless_failure _

/- Being barred is no fault. -/
theorem faultless_barred
    (w : Workspace)
    (room : Room)
    (userId : Datum) :
    Faultless (w.barred room userId) := by
  unfold barred
  split
  · exact faultless_failure _
  · split
    · exact faultless_failure _
    · split
      · exact faultless_failure _
      · exact faultless_ok ()

/- Inviting a user leads to no fault. -/
theorem faultless_invite
    (w : Workspace)
    (hId : id.isText = true)
    (hUserId : userId.isText = true) :
    Faultless
      (w.answer (.inviteMembers id [userId])).1 := by
  have hTyped :
      (Request.inviteMembers id [userId]).WellTyped :=
    ⟨hId, by simpa using hUserId⟩
  have hRefusal := w.faultless_refusal hTyped
  cases h : w.channels.get? id with
  | none =>
      rw [answer_invite_of_none hId h]
      exact hRefusal.bind fun _ => faultless_failure _
  | some room =>
      rw [answer_invite_of_some hId hUserId h]
      exact hRefusal.bind fun _ =>
        w.faultless_barred room userId

end Workspace

end ChannelSync

------------------------------------------------------------
-- One Invitation
------------------------------------------------------------

namespace ChannelSync

namespace Roster

open Program Workspace

/- The users that join a channel by an invitation. -/
def Invitation.joined
    (invitation : Invitation) :
    List Datum :=
  invitation.exchanges.flatMap Exchange.joined

/-
  How an invitation to a channel goes, alone or after others
  that have added some users, if it is not for one of them.
-/
structure Invitation.Stands
    (w : Workspace)
    (id : Datum)
    (invitation : Invitation) :
    Prop where
  joined :
    ∀ userId ∈ invitation.joined, ∃ user,
      w.userByEmail invitation.email = .ok user ∧
        user.id = userId
  ends :
    ∀ added,
      (∀ user, w.userByEmail invitation.email = .ok user →
        user.id ∉ added) →
      (inviteOne id invitation.email).Ends remote
        (w.addMembers id added) (.ok invitation.failure?)
        (w.addMembers id (added ++ invitation.joined))
        invitation.exchanges

variable {w s after : Workspace}
variable {id email : Datum}
variable {user : User}
variable {failure : Failure}

/- An address that cannot be looked up is reported. -/
theorem inviteOne_of_unanswered
    (h : (s.answer (.userByEmail email)).1 =
      .error (.failure failure)) :
    (inviteOne id email).Ends remote s (.ok (some failure))
      s [⟨.userByEmail email, .error (.failure failure)⟩] := by
  have hAsked :=
    ends_attempt_failure.mpr (Access.ends_userByEmail h)
  exact hAsked.bind ends_pure_self

/- Then comes the invitation of the user who is found. -/
theorem inviteOne_of_found
    (h : (s.answer (.userByEmail email)).1 = .ok user)
    {result : Except Problem (Option Failure)}
    {exchanges : List Exchange}
    (hRest :
      ((Access.invite id user.id).attempt >>= fun invited =>
        match invited with
        | .ok () => return none
        | .error failure => do
            if ← lift failure.isSettled then
              return none
            else
              record (.failed (.invite user.id id) failure)
              return some failure).Ends remote s result
        after exchanges) :
    (inviteOne id email).Ends remote s result after
      (⟨.userByEmail email, .ok user⟩ :: exchanges) := by
  have hAsked :=
    ends_attempt_ok.mpr (Access.ends_userByEmail h)
  exact hAsked.bind (ends_record_bind.mpr hRest)

/- An invitation that is granted leaves nothing to report. -/
theorem inviteOne_of_granted
    (h : (s.answer (.userByEmail email)).1 = .ok user)
    (hInvited :
      s.answer (.inviteMembers id [user.id]) =
        (.ok (), after)) :
    (inviteOne id email).Ends remote s (.ok none) after
      [⟨.userByEmail email, .ok user⟩,
        ⟨.inviteMembers id [user.id], .ok ()⟩] := by
  have hSent :=
    ends_attempt_ok.mpr (Access.ends_invite hInvited)
  exact inviteOne_of_found h (hSent.bind ends_pure_self)

/- One that is refused is reported unless it is settled. -/
theorem inviteOne_of_refused
    (h : (s.answer (.userByEmail email)).1 = .ok user)
    (hInvited :
      s.answer (.inviteMembers id [user.id]) =
        (.error (.failure failure), after))
    (hCode : failure.code.isText = true) :
    (inviteOne id email).Ends remote s
      (.ok (if failure.code ∈ settledCodes then none
        else some failure)) after
      [⟨.userByEmail email, .ok user⟩,
        ⟨.inviteMembers id [user.id],
          .error (.failure failure)⟩] := by
  have hSent :=
    ends_attempt_failure.mpr (Access.ends_invite hInvited)
  refine inviteOne_of_found h (hSent.bind ?_)
  simp only [Failure.isSettled, Datum.isIn_eq_ok hCode]
  by_cases hSettled : failure.code ∈ settledCodes
  · rw [decide_eq_true hSettled, if_pos hSettled]
    exact ends_pure_self
  · rw [decide_eq_false hSettled, if_neg hSettled]
    exact ends_record_bind.mpr ends_pure_self

/- An address that cannot be looked up leads to nobody. -/
theorem stands_of_unanswered
    (h : (w.answer (.userByEmail email)).1 =
      .error (.failure failure)) :
    Invitation.Stands w id
      { email := email
        exchanges :=
          [⟨.userByEmail email, .error (.failure failure)⟩]
        failure? := some failure } where
  joined := by
    intro userId hJoined
    cases hJoined
  ends := by
    intro added _
    rw [← answer_userByEmail_addMembers w id added] at h
    change (inviteOne id email).Ends remote _ _
      (w.addMembers id (added ++ [])) _
    rw [List.append_nil]
    exact inviteOne_of_unanswered h

/- A user whose invitation is granted joins. -/
theorem stands_of_granted
    (hw : w.WellTyped)
    (hId : id.isText = true)
    (hEmail : email.isText = true)
    (h : (w.answer (.userByEmail email)).1 = .ok user)
    (hInvited :
      (w.answer (.inviteMembers id [user.id])).1 =
        .ok ()) :
    Invitation.Stands w id
      { email := email
        exchanges :=
          [⟨.userByEmail email, .ok user⟩,
            ⟨.inviteMembers id [user.id], .ok ()⟩]
        failure? := none } where
  joined := by
    intro userId hJoined
    rw [List.mem_singleton.mp hJoined]
    exact ⟨user, userByEmail_of_answer h, rfl⟩
  ends := by
    have hFound := userByEmail_of_answer h
    have hUserId :=
      (hw.get?_of_userByEmail hEmail hFound).1.id
    intro added hFresh
    have hAnswer :=
      w.answer_invite_addMembers hId hUserId
        (hFresh user hFound)
    rw [hInvited] at hAnswer
    rw [← answer_userByEmail_addMembers w id added] at h
    exact inviteOne_of_granted h hAnswer

/- A user whose invitation is refused does not. -/
theorem stands_of_refused
    (hw : w.WellTyped)
    (hId : id.isText = true)
    (hEmail : email.isText = true)
    (h : (w.answer (.userByEmail email)).1 = .ok user)
    (hInvited :
      (w.answer (.inviteMembers id [user.id])).1 =
        .error (.failure failure))
    (hCode : failure.code.isText = true) :
    Invitation.Stands w id
      { email := email
        exchanges :=
          [⟨.userByEmail email, .ok user⟩,
            ⟨.inviteMembers id [user.id],
              .error (.failure failure)⟩]
        failure? :=
          if failure.code ∈ settledCodes then none
          else some failure } where
  joined := by
    intro userId hJoined
    cases hJoined
  ends := by
    have hFound := userByEmail_of_answer h
    have hUserId :=
      (hw.get?_of_userByEmail hEmail hFound).1.id
    intro added hFresh
    have hAnswer :=
      w.answer_invite_addMembers hId hUserId
        (hFresh user hFound)
    rw [hInvited] at hAnswer
    rw [← answer_userByEmail_addMembers w id added] at h
    exact inviteOne_of_refused h hAnswer hCode

/- Every invitation of a text goes in some such way. -/
theorem inviteOne_stands
    (hw : w.WellTyped)
    (hCodes : w.RefusesInText)
    (hId : id.isText = true)
    (hEmail : email.isText = true) :
    ∃ invitation : Invitation,
      invitation.email = email ∧
        invitation.Stands w id := by
  cases hUser : (w.answer (.userByEmail email)).1 with
  | error problem =>
      cases problem with
      | fault fault =>
          exact absurd hUser
            (w.faultless_userByEmail hEmail fault)
      | failure failure =>
          exact ⟨_, rfl, stands_of_unanswered hUser⟩
  | ok user =>
      have hUserId :=
        (hw.get?_of_userByEmail hEmail
          (userByEmail_of_answer hUser)).1.id
      cases hInvited :
          (w.answer (.inviteMembers id [user.id])).1 with
      | ok _ =>
          exact ⟨_, rfl, stands_of_granted hw hId hEmail
            hUser hInvited⟩
      | error problem =>
          cases problem with
          | fault fault =>
              exact absurd hInvited
                (w.faultless_invite hId hUserId fault)
          | failure failure =>
              exact ⟨_, rfl, stands_of_refused hw hId hEmail
                hUser hInvited
                (hCodes.code hInvited)⟩

end Roster

end ChannelSync

------------------------------------------------------------
-- Invitations in a Row
------------------------------------------------------------

namespace ChannelSync

namespace Roster

open Program Workspace

variable {w : Workspace}
variable {id email : Datum}
variable {emails added : List Datum}
variable {invitation : Invitation}

/- An invitation that stands was made, whatever came of it. -/
theorem Invitation.Stands.made
    (h : invitation.Stands w id) :
    invitation.Made id :=
  inviteOne_made (h.ends [] fun _ _ => List.not_mem_nil)

/- Nobody joins at one address and is found by another. -/
theorem Invitation.Stands.not_joined
    (hw : w.WellTyped)
    (h : invitation.Stands w id)
    (hFirst : invitation.email.isText = true)
    (hEmail : email.isText = true)
    (hOther : invitation.email ≠ email)
    {user : User}
    (hUser : w.userByEmail email = .ok user) :
    user.id ∉ invitation.joined := by
  intro hJoined
  rcases h.joined user.id hJoined with
    ⟨joined, hFound, hSame⟩
  rcases hw.get?_of_userByEmail hFirst hFound with
    ⟨-, hAddress, hKnown⟩
  rcases hw.get?_of_userByEmail hEmail hUser with
    ⟨-, hAddress', hKnown'⟩
  rw [hSame, hKnown'] at hKnown
  cases hKnown
  exact hOther (hAddress.symm.trans hAddress')

/-
  Invitations at different addresses go as each of them does
  alone, if nobody whom they are for has been added before.
-/
theorem inviteEach_stands
    (hw : w.WellTyped)
    (hCodes : w.RefusesInText)
    (hId : id.isText = true)
    (hEmails : ∀ email ∈ emails, email.isText = true)
    (hNodup : emails.Nodup)
    (hFresh :
      ∀ email ∈ emails, ∀ user,
        w.userByEmail email = .ok user → user.id ∉ added) :
    ∃ invitations exchanges failures,
      Round id emails invitations exchanges failures ∧
        (∀ invitation ∈ invitations,
          invitation.Stands w id) ∧
        (inviteEach id emails).Ends remote
          (w.addMembers id added) (.ok failures)
          (w.addMembers id
            (added ++ invitations.flatMap
              Invitation.joined))
          exchanges := by
  induction emails generalizing added with
  | nil =>
      refine ⟨[], [], [], ⟨rfl, by simp, rfl, rfl⟩,
        by simp, ?_⟩
      rw [List.flatMap_nil, List.append_nil]
      exact ends_pure_self
  | cons email rest ih =>
      rcases List.forall_mem_cons.mp hEmails with
        ⟨hEmail, hTexts⟩
      rcases List.nodup_cons.mp hNodup with
        ⟨hNew, hOthers⟩
      rcases List.forall_mem_cons.mp hFresh with
        ⟨hFirst, hRest⟩
      rcases inviteOne_stands hw hCodes hId hEmail with
        ⟨invitation, rfl, hStands⟩
      -- Other addresses lead to other users: who joins here
      -- is nobody whom the rest is for.
      have hStill :
          ∀ other ∈ rest, ∀ user,
            w.userByEmail other = .ok user →
              user.id ∉ added ++ invitation.joined := by
        intro other hMem user hUser hAdded
        rcases List.mem_append.mp hAdded with
          hBefore | hJoined
        · exact hRest other hMem user hUser hBefore
        · exact hStands.not_joined hw hEmail
            (hTexts other hMem)
            (fun hSame => hNew (hSame ▸ hMem)) hUser hJoined
      rcases ih hTexts hOthers hStill with
        ⟨invitations, exchanges, failures, hRound, hAll,
          hEnds⟩
      refine ⟨invitation :: invitations, _, _,
        hRound.cons hStands.made,
        List.forall_mem_cons.mpr ⟨hStands, hAll⟩, ?_⟩
      rw [List.flatMap_cons, ← List.append_assoc]
      refine (hStands.ends added hFirst).bind ?_
      rw [← List.append_nil exchanges]
      exact hEnds.bind ends_pure_self

end Roster

end ChannelSync

------------------------------------------------------------
-- Sets of Addresses
------------------------------------------------------------

namespace ChannelSync

open Program Workspace

variable {w : Workspace}
variable {limits : Limits}
variable {id : Datum}
variable {emails : List Datum}

/- Some addresses are invited as a set, in their own order. -/
theorem Action.program_inviteAll
    (limits : Limits)
    (id : Datum)
    (hEmails : ∀ email ∈ emails, email.isText = true) :
    (Action.inviteAll id (.list emails)).program limits =
      .failures <$> Roster.inviteEach id
        (emails.eraseDups.mergeSort Datum.textLE) := by
  have hSet :
      (Datum.list emails).elementSet =
        .ok emails.eraseDups :=
    Datum.distinct_texts hEmails
  have hTexts :
      ∀ email ∈ emails.eraseDups, email.isText = true :=
    fun email hMem => hEmails email
      ((Datum.mem_eraseDups hEmails email).mp hMem)
  simp only [program, hSet]
  change Reply.failures <$> Roster.inviteAll id _ = _
  rw [Roster.inviteAll_eq hTexts]

/- How the addresses are listed does not matter. -/
theorem Action.program_inviteAll_congr
    (hEmails : ∀ email ∈ emails, email.isText = true)
    {emails' : List Datum}
    (hSame : ∀ email, email ∈ emails' ↔ email ∈ emails) :
    (Action.inviteAll id (.list emails')).program limits =
      (Action.inviteAll id (.list emails)).program
        limits := by
  have hEmails' :
      ∀ email ∈ emails', email.isText = true :=
    fun email hMem => hEmails email ((hSame email).mp hMem)
  rw [program_inviteAll limits id hEmails,
    program_inviteAll limits id hEmails',
    Datum.mergeSort_eraseDups_congr hEmails' hEmails hSame]

/- An invitation that stands is the one that is made alone. -/
theorem Roster.Invitation.Stands.alone
    {invitation : Invitation}
    (h : invitation.Stands w id)
    (limits : Limits)
    (hEmail : invitation.email.isText = true) :
    ((Action.inviteAll id
        (.list [invitation.email])).program limits).Ends
      remote w (.ok (.failures invitation.failure?.toList))
      (w.addMembers id invitation.joined)
      invitation.exchanges := by
  have hFirst := h.ends [] fun _ _ => List.not_mem_nil
  rw [addMembers_nil, List.nil_append] at hFirst
  have hEach :
      (Roster.inviteEach id [invitation.email]).Ends remote
        w (.ok invitation.failure?.toList)
        (w.addMembers id invitation.joined)
        invitation.exchanges := by
    rw [← List.append_nil invitation.exchanges,
      ← List.append_nil invitation.failure?.toList]
    exact hFirst.bind (ends_pure_self.bind ends_pure_self)
  have hTexts :
      ∀ email ∈ [invitation.email], email.isText = true := by
    simpa using hEmail
  have hSet :
      [invitation.email].eraseDups = [invitation.email] :=
    rfl
  rw [Action.program_inviteAll limits id hTexts, hSet,
    List.mergeSort_singleton]
  exact hEach.map Reply.failures

/-
  Inviting users never fails.  Each invitation goes as it
  goes alone, the failures are those of the invitations in
  their order, and the users whose invitations were granted
  come after the members, also in this order.  It does not
  matter how the addresses are listed.
-/
theorem Roster.inviteAll_independent
    (hReachable : w.Reachable)
    (hCodes : w.RefusesInText)
    (hId : id.isText = true)
    (hEmails : ∀ email ∈ emails, email.isText = true) :
    let run := fun emails =>
      ((Action.inviteAll id (.list emails)).program
        limits).run remote w
    (∀ emails', (∀ email, email ∈ emails' ↔ email ∈ emails) →
      run emails' = run emails) ∧
    ∃ invitations failures,
      (run emails).result = .ok (.failures failures) ∧
        Round id (emails.eraseDups.mergeSort Datum.textLE)
          invitations (run emails).exchanges failures ∧
        (∀ invitation ∈ invitations,
          (run [invitation.email]).result =
              .ok (.failures invitation.failure?.toList) ∧
            (run [invitation.email]).exchanges =
              invitation.exchanges) ∧
        (run emails).state =
          w.addMembers id
            (invitations.flatMap Invitation.joined) := by
  intro run
  have hw := hReachable.wellTyped
  have hMem :=
    Datum.isText_mergeSort (Datum.isText_eraseDups hEmails)
  have hNodup :
      (emails.eraseDups.mergeSort Datum.textLE).Nodup :=
    (List.mergeSort_perm _ _).symm.nodup
      (Datum.nodup_eraseDups hEmails)
  refine ⟨fun emails' hSame => ?_, ?_⟩
  · exact congrArg (fun p => p.run remote w)
      (Action.program_inviteAll_congr hEmails hSame)
  rcases @inviteEach_stands w id _ [] hw hCodes hId hMem
      hNodup fun _ _ _ _ => List.not_mem_nil with
    ⟨invitations, exchanges, failures, hRound, hAll, hEnds⟩
  rw [addMembers_nil, List.nil_append] at hEnds
  have hRun := hEnds.map Reply.failures
  rw [← Action.program_inviteAll limits id hEmails] at hRun
  rcases hRun with ⟨hResult, hState, hExchanges⟩
  refine ⟨invitations, failures, hResult,
    hExchanges ▸ hRound, ?_, hState⟩
  intro invitation hInvitation
  have hText : invitation.email.isText = true := by
    apply hMem
    rw [← hRound.emails]
    exact List.mem_map_of_mem hInvitation
  have hAlone :=
    (hAll invitation hInvitation).alone limits hText
  exact ⟨hAlone.result_eq, hAlone.exchanges_eq⟩

/- The member of the small workspace cannot be looked up. -/
def Workspace.unlisted : Workspace :=
  Workspace.sample.withFailures
    ⟨[(⟨.text "lookup_user_by_email", .text "b@x"⟩,
      .single .remote "no" (.text "restricted") none)]⟩

/- One of two addresses is reported, the other user joins. -/
theorem Roster.inviteAll_independent_sample :
    let w := Workspace.unlisted
    let run := fun emails =>
      ((Action.inviteAll (.text "C1") (.list emails)).program
        Limits.sample).run remote w
    let emails := [.text "a@x", .text "b@x", .text "a@x"]
    (run emails).state =
        w.addMembers (.text "C1") [.text "U1"] ∧
      (∀ emails',
        (∀ email, email ∈ emails' ↔ email ∈ emails) →
          run emails' = run emails) ∧
      ∃ invitations failures,
        (run emails).result = .ok (.failures failures) ∧
          Round (.text "C1")
            (emails.eraseDups.mergeSort Datum.textLE)
            invitations (run emails).exchanges failures ∧
          (∀ invitation ∈ invitations,
            (run [invitation.email]).result =
                .ok (.failures
                  invitation.failure?.toList) ∧
              (run [invitation.email]).exchanges =
                invitation.exchanges) ∧
          (run emails).state =
            w.addMembers (.text "C1")
              (invitations.flatMap Invitation.joined) := by
  intro w run emails
  have hEmails : ∀ email ∈ emails, email.isText = true := by
    decide
  have hSet :
      emails.eraseDups = [.text "a@x", .text "b@x"] := by
    decide
  have hSorted :
      emails.eraseDups.mergeSort Datum.textLE =
        [.text "a@x", .text "b@x"] := by
    rw [hSet]
    exact List.mergeSort_of_pairwise (by decide)
  constructor
  · unfold run
    rw [Action.program_inviteAll _ _ hEmails, hSorted]
    rfl
  refine inviteAll_independent
    (reachable_sample.failing _) ?_ rfl hEmails
  intro trigger failure h
  simp only [w, Workspace.unlisted, withFailures,
    Table.get?, List.lookup_cons, List.lookup_nil] at h
  split at h
  · cases h
    rfl
  · cases h

end ChannelSync
