import ChannelSync.Convergence
import ChannelSync.Proofs.Access.Requests
import ChannelSync.Proofs.Workspace.Directory

/-
  What the invitations do.

  An invitation adds a user whom an address stands for, and
  nobody else, and it adds nobody twice.  When no failure is
  reported, every address was looked up, and everyone who was
  found is a member now, or is the user acted as.

  The last part needs that nobody pretends: no failure is
  laid in that says that a user is a member already.

  Key definitions include:
    * `Workspace.InvitesOpenly`
    * `Workspace.invitation`

  Key theorems include:
    * `Roster.preserves_inviteEach`
    * `Roster.inviteEach_returned`
    * `Roster.inviteEach_returns`
    * `Roster.inviteAll_appends`
-/

------------------------------------------------------------
-- Single Invitations
------------------------------------------------------------

namespace ChannelSync

/- A failure is settled when its code is one of the codes. -/
theorem Failure.isSettled_iff
    {failure : Failure} :
    failure.isSettled = .ok true ↔
      failure.code ∈ settledCodes := by
  have hTexts :
      ∀ code ∈ settledCodes, code.isText = true := by
    decide
  unfold isSettled Datum.isIn
  constructor
  · intro h
    split at h
    · rw [Except.ok.injEq,
        List.contains_iff_exists_mem_beq] at h
      rcases h with ⟨code, hMem, hSame⟩
      rw [Datum.beq_eq_decide' (hTexts code hMem),
        decide_eq_true_eq] at hSame
      exact hSame ▸ hMem
    · cases h
  · intro hMem
    have hText := hTexts _ hMem
    rw [if_pos (Datum.isAtom_of_isText hText),
      Datum.contains_eq_decide hText]
    simp [hMem]

namespace Workspace

/-
  No failure is laid in for invitations that makes them look
  settled.
-/
def InvitesOpenly
    (w : Workspace) :
    Prop :=
  ∀ argument failure,
    w.failures.get? ⟨.text "invite_members", argument⟩ =
        some failure →
      failure.code ∉ settledCodes

/- What keeps a user from being invited, laid in or not. -/
def invitation
    (w : Workspace)
    (id : Datum)
    (room : Room)
    (userId : Datum) :
    Except Problem Unit :=
  (w.refusal (.inviteMembers id [userId])).bind
    fun _ => w.barred room userId

variable {w : Workspace}
variable {id userId : Datum}
variable {room : Room}

/- A refusal with a failure is one that was laid in. -/
theorem laidIn_failure
    {operation : String}
    {keys : List Datum}
    {failure : Failure}
    (h : w.laidIn operation keys =
      .error (.failure failure)) :
    ∃ key, w.failures.get? ⟨.text operation, key⟩ =
      some failure := by
  induction keys with
  | nil => cases h
  | cons key rest ih =>
      simp only [laidIn] at h
      split at h
      · split at h
        case h_1 found hFound =>
            cases h
            exact ⟨key, hFound⟩
        case h_2 => exact ih h
      · cases h

/-
  A settled failure of an open invitation says the truth:
  the user is the one acted as, or a member.
-/
theorem InvitesOpenly.settled
    (hOpen : w.InvitesOpenly)
    {failure : Failure}
    (h : w.invitation id room userId =
      .error (.failure failure))
    (hSettled : failure.code ∈ settledCodes) :
    userId = w.botId ∨ userId ∈ room.members := by
  unfold invitation at h
  cases hRefusal :
      w.refusal (.inviteMembers id [userId]) with
  | error problem =>
      rw [hRefusal] at h
      cases h
      rcases laidIn_failure hRefusal with ⟨key, hLaid⟩
      exact absurd hSettled (hOpen key failure hLaid)
  | ok _ =>
      rw [hRefusal] at h
      simp only [Except.bind, barred] at h
      split at h
      case isTrue hBot => exact Or.inl hBot
      case isFalse =>
          split at h
          case isTrue =>
              cases h
              simp [Refusal.userMissing, Failure.code,
                settledCodes] at hSettled
          case isFalse =>
              split at h
              case isTrue hMember => exact Or.inr hMember
              case isFalse => cases h

/- Where no failure is laid in, invitations are open. -/
theorem invitesOpenly_of_no_failures
    (hOpen : w.failures.entries = []) :
    w.InvitesOpenly := by
  intro argument failure hLaid
  simp [Table.get?, hOpen] at hLaid

/- Who is invited is a user, but no member and not oneself. -/
theorem invitation_ok
    (h : w.invitation id room userId = .ok ()) :
    userId ≠ w.botId ∧ userId ∉ room.members := by
  unfold invitation at h
  cases hRefusal :
      w.refusal (.inviteMembers id [userId]) with
  | error problem =>
      rw [hRefusal] at h
      cases h
  | ok _ =>
      rw [hRefusal] at h
      simp only [Except.bind, barred] at h
      split at h
      · cases h
      · split at h
        · cases h
        · split at h
          case isTrue => cases h
          case isFalse hBot _ hMember =>
              exact ⟨hBot, hMember⟩

/-
  Where nothing is laid in, a known user is invited, or need
  not be.
-/
theorem invitation_of_no_failures
    (hOpen : w.failures.entries = [])
    (hId : id.isText = true)
    (hUserId : userId.isText = true)
    {user : User}
    (hUser : w.users.get? userId = some user)
    (room : Room) :
    w.invitation id room userId = .ok () ∨
      ∃ failure,
        w.invitation id room userId =
            .error (.failure failure) ∧
          failure.isSettled = .ok true := by
  have hTyped :
      (Request.inviteMembers id [userId]).WellTyped :=
    ⟨hId, by simpa using hUserId⟩
  unfold invitation barred
  rw [refusal_of_no_failures hOpen hTyped, hUser]
  unfold Except.bind
  simp only [Option.isNone_some, Bool.false_eq_true,
    if_false]
  split
  · exact Or.inr ⟨_, rfl, rfl⟩
  · split
    · exact Or.inr ⟨_, rfl, rfl⟩
    · exact Or.inl rfl

end Workspace

end ChannelSync

------------------------------------------------------------
-- Inviting One User
------------------------------------------------------------

namespace ChannelSync

namespace Roster

open Program Workspace

variable {w after : Workspace}
variable {id email : Datum}
variable {room : Room}

/-
  No failure is reported if the user was found and invited,
  or if the invitation was settled.
-/
theorem inviteOne_returned
    (hw : w.WellTyped)
    (hId : id.isText = true)
    (hEmail : email.isText = true)
    (h : (inviteOne id email).Returns remote
      (w.putRoom id room) none after) :
    ∃ user : User,
      (w.answer (.userByEmail email)).1 = .ok user ∧
        ((w.invitation id room user.id = .ok () ∧
            after = w.putRoom id
              (room.withMembers
                (room.members ++ [user.id]))) ∨
          (∃ failure,
            w.invitation id room user.id =
                .error (.failure failure) ∧
              failure.code ∈ settledCodes) ∧
            after = w.putRoom id room) := by
  unfold inviteOne at h
  simp only [returns_bind] at h
  rcases h with ⟨found, _, hFound, h⟩
  cases found with
  | error failure =>
      cases (returns_pure.mp h).1
  | ok user =>
      rcases Access.returns_userByEmail.mp
          (returns_attempt_ok.mp hFound) with
        ⟨hUser, rfl⟩
      rw [answer_userByEmail_putRoom] at hUser
      have hUserId :=
        (hw.get?_of_userByEmail hEmail
          (userByEmail_of_answer hUser)).1.id
      have hEdits :=
        Access.edits_invite hId hUserId w room
      refine ⟨user, hUser, ?_⟩
      simp only [returns_bind, returns_record] at h
      rcases h with ⟨_, _, rfl, invited, _, hInvited, h⟩
      cases invited with
      | ok _ =>
          rcases returns_pure.mp h with ⟨-, rfl⟩
          rcases hEdits.returned
              (returns_attempt_ok.mp hInvited) with
            ⟨hOpen, rfl⟩
          exact Or.inl ⟨hOpen, rfl⟩
      | error failure =>
          rcases returns_attempt_failure.mp hInvited with
            ⟨_, hFailed⟩
          rcases hEdits.refused hFailed with ⟨hRefusal, rfl⟩
          simp only [returns_bind, returns_lift] at h
          rcases h with ⟨settled, _, ⟨hSettled, rfl⟩, h⟩
          cases settled with
          | true =>
              rcases returns_pure.mp h with ⟨-, rfl⟩
              exact Or.inr
                ⟨⟨failure, hRefusal,
                  Failure.isSettled_iff.mp hSettled⟩, rfl⟩
          | false =>
              simp only [Bool.false_eq_true, if_false,
                returns_bind, returns_pure] at h
              rcases h with ⟨_, _, -, hReported, -⟩
              cases hReported

/- Someone who is found is invited, or need not be. -/
theorem inviteOne_returns
    (hOpen : w.failures.entries = [])
    (hw : w.WellTyped)
    (hId : id.isText = true)
    (hEmail : email.isText = true)
    {user : User}
    (hUser : w.userByEmail email = .ok user)
    (room : Room) :
    ∃ room',
      (inviteOne id email).Returns remote
        (w.putRoom id room) none (w.putRoom id room') := by
  have hAnswer :=
    answer_userByEmail_of_no_failures hOpen hEmail hUser
  rcases hw.get?_of_userByEmail hEmail hUser with
    ⟨hTyped, -, hKnown⟩
  have hEdits :=
    Access.edits_invite hId hTyped.id w room
  have hFound :
      (Access.userByEmail email).attempt.Returns remote
        (w.putRoom id room) (.ok user)
        (w.putRoom id room) := by
    refine returns_attempt_ok.mpr
      (Access.returns_userByEmail.mpr ⟨?_, rfl⟩)
    rw [answer_userByEmail_putRoom]
    exact hAnswer
  unfold inviteOne
  simp only [returns_bind]
  rcases invitation_of_no_failures hOpen hId hTyped.id
    hKnown room with hOk | ⟨failure, hRefusal, hSettled⟩
  · rcases hEdits.returns hOk with ⟨_, hInvited⟩
    refine ⟨room.withMembers (room.members ++ [user.id]),
      _, _, hFound, ?_⟩
    simp only [returns_bind, returns_record]
    exact ⟨(), _, rfl, _, _,
      returns_attempt_ok.mpr hInvited,
      returns_pure_self⟩
  · have hFailed := hEdits.ends_of_refused hRefusal
    refine ⟨room, _, _, hFound, ?_⟩
    simp only [returns_bind, returns_record]
    refine ⟨(), _, rfl, _, _,
      returns_attempt_failure.mpr ⟨_, hFailed⟩, ?_⟩
    simp only [hSettled, returns_bind, returns_lift]
    exact ⟨true, _, ⟨rfl, rfl⟩,
      returns_pure_self⟩

/- An invitation keeps what everyone invited leaves true. -/
theorem preserves_inviteOne
    {P : Room → Prop}
    {emails : List Datum}
    (hw : w.WellTyped)
    (hId : id.isText = true)
    (hEmail : email.isText = true)
    (hMem : email ∈ emails)
    (hAdd :
      ∀ room userId, P room → w.Invites emails userId →
        userId ∉ room.members →
          P (room.withMembers (room.members ++ [userId]))) :
    (inviteOne id email).Preserves remote
      (w.Holding id P) := by
  have hReads := (Access.reads_userByEmail email).attempt
  refine (preserves_of_reads hReads).bind
    fun s found hHolding hFound => ?_
  cases found with
  | error failure => exact preserves_done _
  | ok user =>
      rcases hHolding with ⟨room, rfl, -⟩
      rcases Access.returns_userByEmail.mp
          (returns_attempt_ok.mp ⟨hFound, rfl⟩) with
        ⟨hUser, -⟩
      rw [answer_userByEmail_putRoom] at hUser
      have hFoundUser := userByEmail_of_answer hUser
      have hUserId :=
        (hw.get?_of_userByEmail hEmail hFoundUser).1.id
      have hInvite :
          (Access.invite id user.id).Preserves remote
            (w.Holding id P) :=
        preserves_of_edits
          (fun room => Access.edits_invite hId hUserId w room)
          fun room hOk hRoom => by
            rcases invitation_ok hOk with ⟨hBot, hNew⟩
            exact hAdd room user.id hRoom
              ⟨hBot, email, hMem, user, hFoundUser, rfl⟩
              hNew
      refine (preserves_record _).bind fun _ _ _ _ => ?_
      apply hInvite.attempt.bind
      intro _ invited _ _
      cases invited with
      | ok _ => exact preserves_done _
      | error failure =>
          refine (preserves_lift _).bind
            fun _ settled _ _ => ?_
          split
          · exact preserves_done _
          · exact (preserves_record _).bind
              fun _ _ _ _ => preserves_done _

end Roster

end ChannelSync

------------------------------------------------------------
-- Inviting Many Users
------------------------------------------------------------

namespace ChannelSync

namespace Roster

open Program Workspace

variable {w after : Workspace}
variable {id : Datum}
variable {room : Room}
variable {emails : List Datum}

/- The addresses of a set are invited in their order. -/
theorem inviteAll_eq
    (hEmails : ∀ email ∈ emails, email.isText = true) :
    inviteAll id emails =
      inviteEach id (emails.mergeSort Datum.textLE) := by
  unfold inviteAll
  rw [Datum.sorted_texts hEmails]
  rfl

/- Invitations keep what everyone invited leaves true. -/
theorem preserves_inviteEach
    {P : Room → Prop}
    {some : List Datum}
    (hw : w.WellTyped)
    (hId : id.isText = true)
    (hEmails : ∀ email ∈ some, email.isText = true)
    (hSome : ∀ email ∈ some, email ∈ emails)
    (hAdd :
      ∀ room userId, P room → w.Invites emails userId →
        userId ∉ room.members →
          P (room.withMembers (room.members ++ [userId]))) :
    (inviteEach id some).Preserves remote
      (w.Holding id P) := by
  induction some with
  | nil => exact preserves_done _
  | cons email rest ih =>
      refine (preserves_inviteOne hw hId
        (hEmails email (by simp)) (hSome email (by simp))
        hAdd).bind fun _ _ _ _ => ?_
      refine Preserves.bind
        (ih (fun e he => hEmails e (by simp [he]))
          fun e he => hSome e (by simp [he]))
        fun _ _ _ _ => ?_
      exact preserves_done _

/- Members stay when others are invited. -/
theorem preserves_member_inviteEach
    (hw : w.WellTyped)
    (hId : id.isText = true)
    (hEmails : ∀ email ∈ emails, email.isText = true)
    (userId : Datum) :
    (inviteEach id emails).Preserves remote
      (w.Holding id fun room => userId ∈ room.members) :=
  preserves_inviteEach hw hId hEmails (fun _ h => h)
    fun _ _ h _ _ => List.mem_append_left _ h

/-
  When no failure is reported, everyone was looked up, and
  is a member now if invitations are open.
-/
theorem inviteEach_returned
    (hw : w.WellTyped)
    (hId : id.isText = true)
    (hEmails : ∀ email ∈ emails, email.isText = true)
    (h : (inviteEach id emails).Returns remote
      (w.putRoom id room) [] after) :
    ∀ email ∈ emails, ∃ user : User,
      (w.answer (.userByEmail email)).1 = .ok user ∧
        (w.InvitesOpenly →
          user.id = w.botId ∨
            w.Holding id (fun room =>
              user.id ∈ room.members) after) := by
  induction emails generalizing room with
  | nil => simp
  | cons email rest ih =>
      unfold inviteEach at h
      simp only [returns_bind, returns_pure] at h
      rcases h with
        ⟨failure?, middle, hFirst, failures, _, hRest, hNone,
          rfl⟩
      rcases List.append_eq_nil_iff.mp hNone.symm with
        ⟨hNoFirst, rfl⟩
      rw [Option.toList_eq_nil_iff] at hNoFirst
      subst hNoFirst
      have hEmail := hEmails email (by simp)
      have hOthers : ∀ e ∈ rest, e.isText = true :=
        fun e he => hEmails e (by simp [he])
      rcases inviteOne_returned hw hId hEmail hFirst with
        ⟨user, hUser, hInvited⟩
      have hMiddle :
          ∃ room', middle = w.putRoom id room' ∧
            (w.InvitesOpenly →
              user.id = w.botId ∨
                user.id ∈ room'.members) := by
        rcases hInvited with
          ⟨-, rfl⟩ | ⟨⟨failure, hRefusal, hSettled⟩, rfl⟩
        · exact ⟨_, rfl, fun _ =>
            Or.inr (List.mem_append_right _ (by simp))⟩
        · exact ⟨_, rfl, fun hOpen =>
            hOpen.settled hRefusal hSettled⟩
      rcases hMiddle with ⟨room', rfl, hMember⟩
      refine List.forall_mem_cons.mpr
        ⟨⟨user, hUser, fun hOpen => ?_⟩, ih hOthers hRest⟩
      apply (hMember hOpen).imp_right
      intro hIn
      exact (preserves_member_inviteEach hw hId hOthers
        user.id).holds hRest.ends
          (holding_putRoom.mpr hIn)

/- Everyone who is found can be invited. -/
theorem inviteEach_returns
    (hOpen : w.failures.entries = [])
    (hw : w.WellTyped)
    (hId : id.isText = true)
    (hEmails : ∀ email ∈ emails, email.isText = true)
    (hFound :
      ∀ email ∈ emails, ∃ user,
        w.userByEmail email = .ok user)
    (room : Room) :
    ∃ room',
      (inviteEach id emails).Returns remote
        (w.putRoom id room) [] (w.putRoom id room') := by
  induction emails generalizing room with
  | nil => exact ⟨room, returns_pure_self⟩
  | cons email rest ih =>
      rcases hFound email (by simp) with ⟨user, hUser⟩
      rcases inviteOne_returns hOpen hw hId
          (hEmails email (by simp)) hUser room with
        ⟨middle, hFirst⟩
      rcases ih (fun e he => hEmails e (by simp [he]))
          (fun e he => hFound e (by simp [he])) middle with
        ⟨room', hRest⟩
      refine ⟨room', ?_⟩
      unfold inviteEach
      simp only [returns_bind]
      exact ⟨none, _, hFirst, [], _, hRest,
        returns_pure_self⟩

end Roster

end ChannelSync

------------------------------------------------------------
-- Inviting a Set of Users
------------------------------------------------------------

namespace ChannelSync

namespace Roster

open Program Workspace

variable {w after : Workspace}
variable {id : Datum}
variable {room : Room}
variable {emails : List Datum}

/- So do the invitations of a set of users. -/
theorem preserves_inviteAll
    {P : Room → Prop}
    (hw : w.WellTyped)
    (hId : id.isText = true)
    (hEmails : ∀ email ∈ emails, email.isText = true)
    (hAdd :
      ∀ room userId, P room → w.Invites emails userId →
        userId ∉ room.members →
          P (room.withMembers (room.members ++ [userId]))) :
    (inviteAll id emails).Preserves remote
      (w.Holding id P) := by
  rw [inviteAll_eq hEmails]
  exact preserves_inviteEach hw hId
    (Datum.isText_mergeSort hEmails)
    (fun _ hEmail => List.mem_mergeSort.mp hEmail) hAdd

/- Invitations add users at the end who were no members. -/
theorem inviteAll_appends
    (hw : w.WellTyped)
    (hId : id.isText = true)
    (hEmails : ∀ email ∈ emails, email.isText = true)
    {failures : List Failure}
    (h : (inviteAll id emails).Returns remote
      (w.putRoom id room) failures after) :
    ∃ added,
      after = w.putRoom id
          (room.withMembers (room.members ++ added)) ∧
        ∀ userId ∈ added,
          w.Invites emails userId ∧
            userId ∉ room.members := by
  have hKept :
      (inviteAll id emails).Preserves remote
        (w.Holding id fun room' => ∃ added,
          room' = room.withMembers (room.members ++ added) ∧
            ∀ userId ∈ added,
              w.Invites emails userId ∧
                userId ∉ room.members) := by
    apply preserves_inviteAll hw hId hEmails
    intro room' userId hRoom hInvited hNew
    rcases hRoom with
      ⟨added, rfl, hAdded⟩
    have hFresh : userId ∉ room.members :=
      fun hMember => hNew (List.mem_append_left _ hMember)
    refine ⟨added ++ [userId], ?_, ?_⟩
    · simp only [Room.withMembers, List.append_assoc]
    · rw [List.forall_mem_append]
      exact ⟨hAdded, by simpa using ⟨hInvited, hFresh⟩⟩
  have hStart :
      w.Holding id (fun room' => ∃ added,
        room' = room.withMembers (room.members ++ added) ∧
          ∀ userId ∈ added,
            w.Invites emails userId ∧
              userId ∉ room.members)
        (w.putRoom id room) := by
    refine ⟨room, rfl, [], ?_, by simp⟩
    simp only [Room.withMembers, List.append_nil]
  rcases hKept.holds h.ends hStart with
    ⟨_, hAfter, added, rfl, hAdded⟩
  exact ⟨added, hAfter, hAdded⟩

/- Without a failure everyone was looked up and invited. -/
theorem inviteAll_returned
    (hw : w.WellTyped)
    (hId : id.isText = true)
    (hEmails : ∀ email ∈ emails, email.isText = true)
    (h : (inviteAll id emails).Returns remote
      (w.putRoom id room) [] after) :
    ∀ email ∈ emails, ∃ user : User,
      (w.answer (.userByEmail email)).1 = .ok user ∧
        (w.InvitesOpenly →
          user.id = w.botId ∨
            w.Holding id (fun room =>
              user.id ∈ room.members) after) := by
  rw [inviteAll_eq hEmails] at h
  intro email hEmail
  exact inviteEach_returned hw hId
    (Datum.isText_mergeSort hEmails) h email
    (List.mem_mergeSort.mpr hEmail)

/- Everyone who is found can be invited. -/
theorem inviteAll_returns
    (hOpen : w.failures.entries = [])
    (hw : w.WellTyped)
    (hId : id.isText = true)
    (hEmails : ∀ email ∈ emails, email.isText = true)
    (hFound :
      ∀ email ∈ emails, ∃ user,
        w.userByEmail email = .ok user)
    (room : Room) :
    ∃ room',
      (inviteAll id emails).Returns remote
        (w.putRoom id room) [] (w.putRoom id room') := by
  rw [inviteAll_eq hEmails]
  exact inviteEach_returns hOpen hw hId
    (Datum.isText_mergeSort hEmails)
    (fun email hEmail =>
      hFound email (List.mem_mergeSort.mp hEmail)) room

end Roster

end ChannelSync
