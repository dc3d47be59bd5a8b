import ChannelSync.Proofs.Reconciliation.Course
import ChannelSync.Proofs.Reconciliation.Target

/-
  The check of the members, and the passes that correct them.

  The check only looks users up.  The passes invite everyone
  and remove the surplus members, whatever there is to do.
  Where nothing is laid in, both come to the same: the check
  finds no difference exactly if the passes get through and
  leave the members as they were.

  One way, users who are members already are not added, and
  nobody who is welcome is removed.  The other way, whoever
  was added is welcome and would still be there, so that
  nobody was; and a removal would have made the list of the
  members shorter.  A user may be on that list repeatedly.

  Key theorems include:
    * `Roster.inviteAll_of_agrees`
    * `Roster.removeOthers_of_agrees`
    * `Roster.removeEach_shrinks`
    * `Drift.membershipDiffers_false_iff_unchanged`
-/

------------------------------------------------------------
-- Passes That Do Nothing
------------------------------------------------------------

namespace ChannelSync

open Program Workspace

variable {w : Workspace}
variable {limits : Limits}
variable {id : Datum}
variable {room : Room}
variable {observed : Observed}
variable {emails userIds members : List Datum}

/- If members agree, whoever is invited is one of them. -/
theorem Workspace.Agrees.mem_of_invites
    {userId : Datum}
    (h : w.Agrees emails members)
    (hInvited : w.Invites emails userId) :
    userId ∈ members := by
  rcases hInvited with ⟨-, email, hEmail, user, hUser, rfl⟩
  rcases h.addressed email hEmail with
    ⟨found, hFound, hMember⟩
  cases hUser.symm.trans (userByEmail_of_answer hFound)
  exact hMember

namespace Roster

/- If members agree, the invitations add nobody. -/
theorem inviteAll_of_agrees
    (hOpen : w.failures.entries = [])
    (hw : w.WellTyped)
    (hId : id.isText = true)
    (hEmails : ∀ email ∈ emails, email.isText = true)
    (hFound : w.channels.get? id = some room)
    (h : w.Agrees emails room.members) :
    (inviteAll id emails).Returns remote w [] w := by
  have hKnown :
      ∀ email ∈ emails, ∃ user,
        w.userByEmail email = .ok user := by
    intro email hEmail
    rcases h.addressed email hEmail with ⟨user, hUser, -⟩
    exact ⟨user, userByEmail_of_answer hUser⟩
  rcases inviteAll_returns hOpen hw hId hEmails hKnown room
    with ⟨room', hRun⟩
  rcases inviteAll_appends hw hId hEmails hRun with
    ⟨added, hAfter, hAdded⟩
  have hNobody : added = [] := by
    apply List.eq_nil_iff_forall_not_mem.mpr
    intro userId hMem
    rcases hAdded userId hMem with ⟨hInvited, hNew⟩
    exact hNew (h.mem_of_invites hInvited)
  have hSame :
      room.withMembers (room.members ++ added) = room := by
    rw [hNobody, List.append_nil]
    rfl
  rw [hAfter, hSame, putRoom_of_get? hFound] at hRun
  exact hRun

/- If everyone is welcome, the removals remove nobody. -/
theorem removeEach_of_welcome
    (hw : w.WellTyped)
    (hUserIds : ∀ userId ∈ userIds, userId.isText = true)
    (hWelcome :
      ∀ userId ∈ userIds, ∃ user,
        (w.answer (.userById userId)).1 = .ok user ∧
          user.Welcome emails)
    (room : Room) :
    (removeEach id emails userIds).Returns remote
      (w.putRoom id room) () (w.putRoom id room) := by
  induction userIds with
  | nil => exact returns_pure_self
  | cons userId rest ih =>
      rw [List.forall_mem_cons] at hUserIds hWelcome
      rcases hWelcome.1 with ⟨user, hUser, hStays⟩
      exact (removeEach_cons hw hUserIds.1 rest).mpr
        ⟨user, hUser,
          Or.inl ⟨hStays, ih hUserIds.2 hWelcome.2⟩⟩

/- So they do if the members agree and can be listed. -/
theorem removeOthers_of_agrees
    (hLimits : limits.Positive)
    (hw : w.WellTyped)
    (hId : id.isText = true)
    (hFound : w.channels.get? id = some room)
    (hFetched :
      (Access.fetch limits.members id).Returns remote w
        observed w)
    (h : w.Agrees emails room.members) :
    (removeOthers limits.members id emails).Returns remote w
      () w := by
  have hRoom := hw.room_of_get? hId hFound
  unfold Access.fetch at hFetched
  rcases returns_bind.mp hFetched with
    ⟨channel, middle, hInfo, hRest⟩
  rcases returns_bind.mp hRest with
    ⟨ids, last, hListed, hDone⟩
  cases (Access.returns_info.mp hInfo).2
  cases state_of_returned (Access.reads_memberIds _ _) hListed
  have hMem :=
    Access.mem_of_listed hLimits hId hRoom.members hFound
      hListed
  have hTexts : ∀ userId ∈ ids, userId.isText = true :=
    fun userId hIn =>
      hRoom.members userId ((hMem userId).mp hIn)
  have hPass :=
    @removeEach_of_welcome _ id emails ids hw hTexts
      (fun userId hIn =>
        h.welcome userId ((hMem userId).mp hIn)) room
  rw [putRoom_of_get? hFound] at hPass
  exact hListed.bind hPass

end Roster

end ChannelSync

------------------------------------------------------------
-- Passes That Change Nothing
------------------------------------------------------------

namespace ChannelSync

open Program Workspace

variable {w middle after : Workspace}
variable {limits : Limits}
variable {id : Datum}
variable {room room' : Room}
variable {emails userIds added : List Datum}

namespace Roster

/-
  Removals never make a room larger.  If it stays as large as
  it was, everyone on their list is welcome.
-/
theorem removeEach_shrinks
    (hw : w.WellTyped)
    (hId : id.isText = true)
    (hUserIds : ∀ userId ∈ userIds, userId.isText = true)
    (h : (removeEach id emails userIds).Returns remote
      (w.putRoom id room) () after) :
    ∃ room', after = w.putRoom id room' ∧
      room'.members.length ≤ room.members.length ∧
        (room'.members.length = room.members.length →
          ∀ userId ∈ userIds, ∃ user,
            (w.answer (.userById userId)).1 = .ok user ∧
              user.Welcome emails) := by
  induction userIds generalizing room with
  | nil =>
      rcases returns_pure.mp h with ⟨-, rfl⟩
      exact ⟨room, rfl, Nat.le_refl _, by simp⟩
  | cons userId rest ih =>
      rw [List.forall_mem_cons] at hUserIds
      rcases (removeEach_cons hw hUserIds.1 rest).mp h with
        ⟨user, hUser, ⟨hStays, hRest⟩ | ⟨-, middle, hGone,
          hRest⟩⟩
      · rcases ih hUserIds.2 hRest with
          ⟨room', hAfter, hLength, hOthers⟩
        refine ⟨room', hAfter, hLength, fun hSame => ?_⟩
        exact List.forall_mem_cons.mpr
          ⟨⟨user, hUser, hStays⟩, hOthers hSame⟩
      · -- The member who was removed is missed in the end.
        rcases Access.remove_returned hId hUserIds.1 hGone
          with ⟨hMember, rfl⟩
        rcases ih hUserIds.2 hRest with
          ⟨room', hAfter, hLength, -⟩
        have hShorter :
            (room.members.erase userId).length + 1 =
              room.members.length :=
          Datum.length_erase_of_mem hMember
        have hLess :
            room'.members.length < room.members.length :=
          calc
            _ ≤ (room.members.erase userId).length := hLength
            _ < room.members.length := by omega
        exact ⟨room', hAfter, Nat.le_of_lt hLess,
          fun hSame => absurd hSame (Nat.ne_of_lt hLess)⟩

/-
  If the members are the same after the removals, nobody was
  added before: whoever was is welcome and would be there.
-/
theorem nobody_added
    (hw : w.WellTyped)
    (hId : id.isText = true)
    (hEmails : ∀ email ∈ emails, email.isText = true)
    (hAdded :
      ∀ userId ∈ added,
        w.Invites emails userId ∧ userId ∉ room.members)
    (hUserIds : ∀ userId ∈ userIds, userId.isText = true)
    (hRemoved :
      (removeEach id emails userIds).Returns remote
        (w.putRoom id
          (room.withMembers (room.members ++ added))) ()
        (w.putRoom id room'))
    (hSame : room'.members = room.members) :
    added = [] := by
  apply List.eq_nil_iff_forall_not_mem.mpr
  intro userId hMem
  rcases hAdded userId hMem with ⟨hInvited, hNew⟩
  have hKept :=
    preserves_member_removeEach hw hId hUserIds
      (hw.welcomes_of_invites hEmails hInvited)
  have hLeft :=
    hKept.holds hRemoved.ends
      (holding_putRoom.mpr
        (List.mem_append_right room.members hMem))
  rw [holding_putRoom, hSame] at hLeft
  exact hNew hLeft

/-
  If both passes get through and the members are the same
  then, they agree.
-/
theorem agrees_of_unchanged
    (hOpen : w.failures.entries = [])
    (hLimits : limits.Positive)
    (hw : w.WellTyped)
    (hId : id.isText = true)
    (hEmails : ∀ email ∈ emails, email.isText = true)
    (hFound : w.channels.get? id = some room)
    (hSelf :
      ∀ email ∈ emails, ∀ user,
        w.userByEmail email = .ok user →
          user.id = w.botId → w.botId ∈ room.members)
    (hInvited :
      (inviteAll id emails).Returns remote w [] middle)
    (hRemoved :
      (removeOthers limits.members id emails).Returns remote
        middle () after)
    (hAfter : after.channels.get? id = some room')
    (hSame : room'.members = room.members) :
    w.Agrees emails room.members := by
  have hRoom := hw.room_of_get? hId hFound
  have hStart : w.putRoom id room = w := putRoom_of_get? hFound
  rw [← hStart] at hInvited
  rcases inviteAll_appends hw hId hEmails hInvited with
    ⟨added, rfl, hAdded⟩
  have hTexts :
      ∀ userId ∈ room.members ++ added,
        userId.isText = true :=
    List.forall_mem_append.mpr
      ⟨hRoom.members, fun userId hMem =>
        hw.isText_of_invites hEmails (hAdded userId hMem).1⟩
  rcases removeOthers_listed hLimits hId hTexts
      (get?_putRoom w id _) hRemoved with
    ⟨ids, hMem, hIds, hPass⟩
  rcases removeEach_shrinks hw hId hIds hPass with
    ⟨left, rfl, -, hWelcome⟩
  rw [get?_putRoom] at hAfter
  cases hAfter
  -- So the removals ran on the members as they were, and
  -- took nobody away.
  have hNobody :=
    nobody_added hw hId hEmails hAdded hIds hPass hSame
  subst hNobody
  constructor
  · intro email hEmail
    rcases inviteAll_returned hw hId hEmails hInvited email
        hEmail with
      ⟨user, hUser, hMember⟩
    refine ⟨user, hUser, ?_⟩
    rcases hMember (invitesOpenly_of_no_failures hOpen) with
      hBot | hIn
    · rw [hBot]
      exact hSelf email hEmail user
        (userByEmail_of_answer hUser) hBot
    · rw [holding_putRoom, List.append_nil] at hIn
      exact hIn
  · intro userId hMember
    have hLength :
        room'.members.length =
          (room.members ++ []).length := by
      rw [hSame, List.append_nil]
    exact hWelcome hLength userId ((hMem userId).mpr
      (List.mem_append_left [] hMember))

end Roster

end ChannelSync

------------------------------------------------------------
-- The Check and the Passes
------------------------------------------------------------

namespace ChannelSync

open Program Workspace

variable {w : Workspace}
variable {limits : Limits}
variable {desired : Desired}
variable {id : Datum}
variable {room : Room}
variable {observed : Observed}

/-
  Nothing is laid in, and no address stands for the user
  acted as unless that user is a member.  Then the check of a
  fetched channel finds no difference exactly if the
  invitations report no failure, the removals that follow get
  through, and the members are the same before and after.
-/
theorem Drift.membershipDiffers_false_iff_unchanged
    (hReachable : w.Reachable)
    (hOpen : w.failures.entries = [])
    (hLimits : limits.Positive)
    (hDesired : desired.WellTyped)
    (hId : id.isText = true)
    (hFound : w.channels.get? id = some room)
    (hFetched :
      (Access.fetch limits.members id).Returns remote w
        observed w)
    (hSelf :
      ∀ email ∈ desired.members, ∀ user,
        w.userByEmail email = .ok user →
          user.id = w.botId → w.botId ∈ room.members) :
    let inviting :=
      (Roster.inviteAll id desired.members).run remote w
    let removing :=
      (Roster.removeOthers limits.members id
        desired.members).run remote inviting.state
    ((membershipDiffers desired observed).run
        remote w).result = .ok false ↔
      inviting.result = .ok [] ∧
        removing.result = .ok () ∧
        ∃ room', removing.state.channels.get? id =
            some room' ∧
          room'.members = room.members := by
  intro inviting removing
  have hw := hReachable.wellTyped
  have hRoom := hw.room_of_get? hId hFound
  have hShown : room.ShownAs observed := by
    rw [← putRoom_of_get? hFound] at hFetched
    exact shownAs_of_fetched hLimits hId hRoom hFetched
  constructor
  · intro hVerdict
    have hAgrees : w.Agrees desired.members room.members :=
      agrees_of_same_members hw hDesired hRoom hShown
        ⟨hVerdict, rfl⟩
    have hInvited :=
      Roster.inviteAll_of_agrees hOpen hw hId
        hDesired.members hFound hAgrees
    have hRemoved :=
      Roster.removeOthers_of_agrees hLimits hw hId hFound
        hFetched hAgrees
    have hPass :
        removing =
          (Roster.removeOthers limits.members id
            desired.members).run remote w :=
      congrArg (fun s => Program.run remote _ s)
        hInvited.state_eq
    rw [hPass]
    refine ⟨hInvited.result_eq, hRemoved.result_eq, room, ?_,
      rfl⟩
    rw [hRemoved.state_eq]
    exact hFound
  · intro h
    rcases h with
      ⟨hInvited, hRemoved, room', hAfter, hSame⟩
    have hAgrees : w.Agrees desired.members room.members :=
      Roster.agrees_of_unchanged hOpen hLimits hw hId
        hDesired.members hFound hSelf ⟨hInvited, rfl⟩
        ⟨hRemoved, rfl⟩ hAfter hSame
    have hSame :=
      (Drift.membershipDiffers_false_iff hw hDesired
        (hShown.isText hRoom)).mpr
        ⟨rfl, hAgrees.congr fun userId =>
          (hShown.members userId).symm⟩
    exact hSame.result_eq

/- A declaration that the channel of the sample meets. -/
def Desired.met : Desired where
  name := .text "lunch"
  members := [.text "b@x"]

/- The channel of the sample as it is fetched. -/
def Observed.lunch : Observed :=
  { Room.sample.state with memberIds := [.text "U2"] }

/- The passes change nothing there, as the check says. -/
theorem Drift.membershipDiffers_false_iff_unchanged_sample :
    let w := Workspace.sample
    let inviting :=
      (Roster.inviteAll (.text "C1")
        Desired.met.members).run remote w
    let removing :=
      (Roster.removeOthers Limits.sample.members (.text "C1")
        Desired.met.members).run remote inviting.state
    inviting.result = .ok [] ∧
      removing.result = .ok () ∧
      ∃ room', removing.state.channels.get? (.text "C1") =
          some room' ∧
        room'.members = Room.sample.members := by
  have hDesired : Desired.met.WellTyped :=
    { name := rfl
      description := rfl
      topic := rfl
      isPrivate := rfl
      members := by simp [Desired.met, Datum.isText]
      distinct := by simp [Desired.met] }
  have hFetched :
      (Access.fetch Limits.sample.members
          (.text "C1")).Returns remote Workspace.sample
        Observed.lunch Workspace.sample :=
    ⟨rfl, rfl⟩
  have hSelf :
      ∀ email ∈ Desired.met.members, ∀ user,
        Workspace.sample.userByEmail email = .ok user →
          user.id = Workspace.sample.botId →
            Workspace.sample.botId ∈ Room.sample.members := by
    intro email hEmail user hUser hBot
    cases List.mem_singleton.mp hEmail
    cases hUser
    exact absurd hBot (by decide)
  exact (membershipDiffers_false_iff_unchanged
    reachable_sample no_failures_sample
    Limits.positive_sample hDesired rfl rfl hFetched
    hSelf).mp rfl

end ChannelSync
