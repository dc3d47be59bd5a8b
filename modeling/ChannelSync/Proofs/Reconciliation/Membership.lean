import ChannelSync.Proofs.Access.Fetching
import ChannelSync.Proofs.Reconciliation.Drift
import ChannelSync.Proofs.Reconciliation.Invitations
import ChannelSync.Proofs.Reconciliation.Removals

/-
  Bringing the members of a channel in line.

  Invitations come first and removals follow, over a listing
  that is made in between.  Nobody who is invited is removed
  again, because everyone who is invited is welcome.  So what
  is left are the welcome members together with everyone who
  was invited.

  Key definitions include:
    * `Workspace.Shifts`
    * `Workspace.Staffed`

  Key theorems include:
    * `Roster.removeOthers_listed`
    * `preserves_alignMembers`
    * `alignMembers_consulted`
    * `alignMembers_returned`
    * `alignMembers_returns`
-/

------------------------------------------------------------
-- Shifts
------------------------------------------------------------

namespace ChannelSync

namespace Workspace

variable {w : Workspace}
variable {emails members members' : List Datum}
variable {userId : Datum}

/-
  Members change by invitations and removals only: welcome
  members stay, and only invited users come.
-/
structure Shifts
    (w : Workspace)
    (emails members members' : List Datum) :
    Prop where
  kept :
    ∀ userId ∈ members, w.Welcomes emails userId →
      userId ∈ members'
  bounded :
    ∀ userId ∈ members',
      userId ∈ members ∨ w.Invites emails userId
  nodup : members'.Nodup

/- Nothing has changed yet. -/
theorem shifts_self
    (h : members.Nodup) :
    w.Shifts emails members members :=
  ⟨fun _ hMem _ => hMem, fun _ hMem => Or.inl hMem, h⟩

/- An invitation is a change of the members like that. -/
theorem Shifts.add
    (h : w.Shifts emails members members')
    (hInvited : w.Invites emails userId)
    (hNew : userId ∉ members') :
    w.Shifts emails members (members' ++ [userId]) where
  kept := fun other hMem hWelcome =>
    List.mem_append_left _ (h.kept other hMem hWelcome)
  bounded := by
    intro other hMem
    rcases List.mem_append.mp hMem with hOld | hAdded
    · exact h.bounded other hOld
    · rw [List.mem_singleton] at hAdded
      exact Or.inr (hAdded ▸ hInvited)
  nodup := by
    rw [List.nodup_append]
    refine ⟨h.nodup, by simp, ?_⟩
    intro other hOther added hAdded hSame
    subst hSame
    rw [List.mem_singleton] at hAdded
    exact hNew (hAdded ▸ hOther)

/- A removal is a change of the members like that. -/
theorem Shifts.erase
    (h : w.Shifts emails members members')
    (hUserId : userId.isText = true)
    (hUnwelcome : ¬ w.Welcomes emails userId) :
    w.Shifts emails members (members'.erase userId) where
  kept := by
    intro other hMem hWelcome
    refine Datum.mem_erase_of_ne hUserId ?_
      (h.kept other hMem hWelcome)
    intro hSame
    subst hSame
    exact hUnwelcome hWelcome
  bounded := fun other hMem =>
    h.bounded other (List.mem_of_mem_erase hMem)
  nodup := h.nodup.sublist List.erase_sublist

end Workspace

/- The addresses in order are the same addresses. -/
theorem Desired.WellTyped.mergeSort
    {desired : Desired}
    (hDesired : desired.WellTyped) :
    ∀ email ∈ desired.members.mergeSort Datum.textLE,
      email.isText = true :=
  Datum.isText_mergeSort hDesired.members

/- A room stays well typed when a text is added. -/
theorem Room.WellTyped.add_member
    {room : Room}
    {userId : Datum}
    (h : room.WellTyped)
    (hUserId : userId.isText = true) :
    (room.withMembers
      (room.members ++ [userId])).WellTyped where
  state := h.state
  memberIds := h.memberIds
  members := by
    intro other hMem
    rcases List.mem_append.mp hMem with hOld | hAdded
    · exact h.members other hOld
    · rw [List.mem_singleton] at hAdded
      exact hAdded ▸ hUserId

/- A room stays well typed when a member is removed. -/
theorem Room.WellTyped.erase_member
    {room : Room}
    (h : room.WellTyped)
    (userId : Datum) :
    (room.withMembers
      (room.members.erase userId)).WellTyped where
  state := h.state
  memberIds := h.memberIds
  members := fun other hMem =>
    h.members other (List.mem_of_mem_erase hMem)

end ChannelSync

------------------------------------------------------------
-- What Holds However It Ends
------------------------------------------------------------

namespace ChannelSync

open Program Workspace

variable {w after : Workspace}
variable {limits : Limits}
variable {desired : Desired}
variable {id : Datum}
variable {room : Room}

/- Removals that get through go through the members. -/
theorem Roster.removeOthers_listed
    {emails : List Datum}
    (hLimits : limits.Positive)
    (hId : id.isText = true)
    (hTexts : ∀ userId ∈ room.members, userId.isText = true)
    (hFound : w.channels.get? id = some room)
    (h : (removeOthers limits.members id emails).Returns
      remote w () after) :
    ∃ ids : List Datum,
      (∀ userId, userId ∈ ids ↔ userId ∈ room.members) ∧
        (∀ userId ∈ ids, userId.isText = true) ∧
        (removeEach id emails ids).Returns remote w ()
          after := by
  rcases returns_bind.mp h with
    ⟨ids, middle, hListed, hRemoved⟩
  cases state_of_returned (Access.reads_memberIds _ _) hListed
  have hMem :=
    Access.mem_of_listed hLimits hId hTexts hFound hListed
  exact ⟨ids, hMem, fun userId hIn =>
    hTexts userId ((hMem userId).mp hIn), hRemoved⟩

/- Removals keep what removing someone unwelcome does. -/
theorem preserves_removeOthers
    {P : Room → Prop}
    {emails : List Datum}
    (hLimits : limits.Positive)
    (hw : w.WellTyped)
    (hId : id.isText = true)
    (hTyped : ∀ room, P room → room.WellTyped)
    (hErase :
      ∀ room userId, P room → userId.isText = true →
        ¬ w.Welcomes emails userId →
          P (room.withMembers (room.members.erase userId))) :
    (Roster.removeOthers limits.members id
      emails).Preserves remote (w.Holding id P) := by
  refine (preserves_of_reads
    (Access.reads_memberIds _ _)).bind
      fun s ids hHolding hListed => ?_
  rcases hHolding with ⟨room, rfl, hRoom⟩
  have hTexts := (hTyped room hRoom).members
  have hMem :=
    Access.mem_of_listed hLimits hId hTexts
      (get?_putRoom w id room) ⟨hListed, rfl⟩
  have hIds : ∀ u ∈ ids, u.isText = true :=
    fun u hu => hTexts u ((hMem u).mp hu)
  exact Roster.preserves_removeEach hw hId hIds
    fun room u hu hRoom hUnwelcome =>
      hErase room u hRoom (hIds u hu) hUnwelcome

/-
  Bringing members in line keeps what is left true by
  inviting someone and by removing someone unwelcome.
-/
theorem preserves_alignMembers
    {P : Room → Prop}
    (hLimits : limits.Positive)
    (hw : w.WellTyped)
    (hId : id.isText = true)
    (hDesired : desired.WellTyped)
    (hTyped : ∀ room, P room → room.WellTyped)
    (hAdd :
      ∀ room userId, P room →
        w.Invites desired.members userId →
        userId ∉ room.members →
          P (room.withMembers (room.members ++ [userId])))
    (hErase :
      ∀ room userId, P room → userId.isText = true →
        ¬ w.Welcomes desired.members userId →
          P (room.withMembers (room.members.erase userId))) :
    (alignMembers limits desired id).Preserves remote
      (w.Holding id P) := by
  have hInvite :
      (Roster.inviteAll id desired.members).Preserves remote
        (w.Holding id P) :=
    Roster.preserves_inviteAll hw hId hDesired.members hAdd
  apply hInvite.bind
  intro _ failures _ _
  apply (preserves_removeOthers hLimits hw hId hTyped
    hErase).bind
  intro _ _ _ _
  split
  · exact preserves_done _
  · exact preserves_done _

end ChannelSync

------------------------------------------------------------
-- What Holds When It Returns
------------------------------------------------------------

namespace ChannelSync

open Program Workspace

variable {w after : Workspace}
variable {limits : Limits}
variable {desired : Desired}
variable {id : Datum}
variable {room : Room}

/-
  Bringing members in line returns when the invitations
  report no failure, the members can be listed then, and the
  removals are through.
-/
theorem returns_alignMembers
    (hDesired : desired.WellTyped)
    {s : Workspace} :
    (alignMembers limits desired id).Returns remote s ()
        after ↔
      ∃ middle ids,
        (Roster.inviteEach id
            (desired.members.mergeSort
              Datum.textLE)).Returns
          remote s [] middle ∧
        (Access.memberIds limits.members id).Returns remote
          middle ids middle ∧
        (Roster.removeEach id desired.members ids).Returns
          remote middle () after := by
  simp only [alignMembers, Roster.inviteAll,
    Roster.removeOthers,
    Datum.sorted_texts hDesired.members, returns_bind,
    returns_lift]
  constructor
  · intro h
    rcases h with
      ⟨failures, middle, ⟨_, _, ⟨hSorted, rfl⟩, hInvited⟩,
        _, _, ⟨ids, _, hListed, hRemoved⟩, h⟩
    cases hSorted
    have hListing :=
      state_of_returned (Access.reads_memberIds _ _) hListed
    subst hListing
    cases failures with
    | nil =>
        rcases returns_pure.mp h with ⟨-, rfl⟩
        exact ⟨_, ids, hInvited, hListed, hRemoved⟩
    | cons failure rest =>
        exact absurd h not_returns_fail
  · intro h
    rcases h with ⟨middle, ids, hInvited, hListed, hRemoved⟩
    exact ⟨[], middle, ⟨_, s, ⟨rfl, rfl⟩, hInvited⟩, (),
      after, ⟨ids, middle, hListed, hRemoved⟩,
      returns_pure_self⟩

/- The room after the invitations, and before the removals. -/
structure Workspace.Enlarges
    (w : Workspace)
    (emails : List Datum)
    (room room' : Room) :
    Prop where
  typed : room'.WellTyped
  state : room'.state = room.state
  kept : ∀ userId ∈ room.members, userId ∈ room'.members
  bounded :
    ∀ userId ∈ room'.members,
      userId ∈ room.members ∨ w.Invites emails userId
  nodup : room.members.Nodup → room'.members.Nodup

/- Invitations only enlarge a room. -/
theorem inviteEach_enlarges
    (hw : w.WellTyped)
    (hId : id.isText = true)
    (hDesired : desired.WellTyped)
    (hRoom : room.WellTyped)
    {failures : List Failure}
    (h : (Roster.inviteEach id
        (desired.members.mergeSort Datum.textLE)).Returns
      remote (w.putRoom id room) failures after) :
    ∃ room', after = w.putRoom id room' ∧
      w.Enlarges desired.members room room' := by
  have hPreserves :
      (Roster.inviteEach id
          (desired.members.mergeSort
            Datum.textLE)).Preserves remote
        (w.Holding id (w.Enlarges desired.members room)) :=
    Roster.preserves_inviteEach hw hId hDesired.mergeSort
      (fun _ hMem => List.mem_mergeSort.mp hMem)
      fun room' userId hGrown hInvited hNew =>
        { typed := hGrown.typed.add_member
            (hw.isText_of_invites hDesired.members hInvited)
          state := hGrown.state
          kept := fun other hMem =>
            List.mem_append_left _ (hGrown.kept other hMem)
          bounded := by
            intro other hMem
            rcases List.mem_append.mp hMem with hOld | hAdded
            · exact hGrown.bounded other hOld
            · rw [List.mem_singleton] at hAdded
              exact Or.inr (hAdded ▸ hInvited)
          nodup := fun hNodup =>
            ((shifts_self (hGrown.nodup hNodup)).add
              hInvited hNew).nodup }
  exact hPreserves.holds h.ends
    (holding_putRoom.mpr
      ⟨hRoom, rfl, fun _ hMem => hMem,
        fun _ hMem => Or.inl hMem, fun hNodup => hNodup⟩)

/-
  The course of a run that brings members in line: the room
  in between, and the listing of its members.
-/
theorem alignMembers_course
    (hLimits : limits.Positive)
    (hw : w.WellTyped)
    (hId : id.isText = true)
    (hDesired : desired.WellTyped)
    (hRoom : room.WellTyped)
    (h : (alignMembers limits desired id).Returns remote
      (w.putRoom id room) () after) :
    ∃ larger ids,
      w.Enlarges desired.members room larger ∧
        (Roster.inviteEach id
            (desired.members.mergeSort
              Datum.textLE)).Returns
          remote (w.putRoom id room) []
          (w.putRoom id larger) ∧
        (∀ userId, userId ∈ ids ↔ userId ∈ larger.members) ∧
        (∃ size : Nat, limits.members = .number size ∧
          Paging.Writable size 0 larger.members.length) ∧
        (Roster.removeEach id desired.members ids).Returns
          remote (w.putRoom id larger) () after := by
  rcases (returns_alignMembers hDesired).mp h with
    ⟨middle, ids, hInvited, hListed, hRemoved⟩
  rcases inviteEach_enlarges hw hId hDesired hRoom hInvited
      with
    ⟨larger, rfl, hGrown⟩
  rcases hLimits.members with ⟨size, hSize, hLimit⟩
  have hNumbered := hListed
  rw [hLimit] at hNumbered
  rcases Access.memberIds_returned hId hSize
      (get?_putRoom w id larger) hNumbered with
    ⟨hDistinct, hWritable⟩
  exact ⟨larger, ids, hGrown, hInvited,
    Datum.mem_of_distinct hGrown.typed.members hDistinct,
    ⟨size, hLimit, hWritable⟩, hRemoved⟩

/- Everyone concerned was looked up. -/
theorem alignMembers_consulted
    (hLimits : limits.Positive)
    (hw : w.WellTyped)
    (hId : id.isText = true)
    (hDesired : desired.WellTyped)
    (hRoom : room.WellTyped)
    (h : (alignMembers limits desired id).Returns remote
      (w.putRoom id room) () after) :
    w.Consulted desired.members room.members := by
  rcases alignMembers_course hLimits hw hId hDesired hRoom h
      with
    ⟨larger, ids, hGrown, hInvited, hListed, -, hRemoved⟩
  have hIds : ∀ userId ∈ ids, userId.isText = true :=
    fun u hu => hGrown.typed.members u ((hListed u).mp hu)
  constructor
  · intro email hEmail
    rcases Roster.inviteEach_returned hw hId
        hDesired.mergeSort hInvited email
        (List.mem_mergeSort.mpr hEmail) with
      ⟨user, hUser, -⟩
    exact ⟨user, hUser⟩
  · intro userId hMember
    rcases Roster.removeEach_returned hw hId hIds hRemoved
        userId
        ((hListed userId).mpr (hGrown.kept userId hMember))
        with
      ⟨user, hUser, -⟩
    exact ⟨user, hUser⟩

/-
  The members of a channel are in line: they come from the
  earlier ones by invitations and removals, everyone whom an
  address stands for is one of them or the user acted as, and
  everyone of them is welcome.
-/
structure Workspace.Staffed
    (w : Workspace)
    (emails members members' : List Datum) :
    Prop where
  shifts : w.Shifts emails members members'
  addressed :
    ∀ email ∈ emails, ∃ user : User,
      (w.answer (.userByEmail email)).1 = .ok user ∧
        (user.id ∈ members' ∨ user.id = w.botId)
  welcome :
    ∀ userId ∈ members', ∃ user : User,
      (w.answer (.userById userId)).1 = .ok user ∧
        user.Welcome emails

/- Members that agree are in line already. -/
theorem Workspace.Agrees.staffed
    {emails members : List Datum}
    (h : w.Agrees emails members)
    (hNodup : members.Nodup) :
    w.Staffed emails members members where
  shifts := shifts_self hNodup
  addressed := fun email hEmail =>
    (h.addressed email hEmail).imp fun _ hUser =>
      ⟨hUser.1, Or.inl hUser.2⟩
  welcome := h.welcome

/- Who is invited is a member after the invitations. -/
theorem mem_of_invites
    (hw : w.WellTyped)
    (hId : id.isText = true)
    (hDesired : desired.WellTyped)
    (hOpen : w.InvitesOpenly)
    {larger : Room}
    (h : (Roster.inviteEach id
        (desired.members.mergeSort Datum.textLE)).Returns
      remote (w.putRoom id room) [] (w.putRoom id larger))
    {userId : Datum}
    (hInvited : w.Invites desired.members userId) :
    userId ∈ larger.members := by
  rcases hInvited with
    ⟨hBot, email, hEmail, user, hUser, rfl⟩
  rcases Roster.inviteEach_returned hw hId
      hDesired.mergeSort h email
      (List.mem_mergeSort.mpr hEmail) with
    ⟨user', hUser', hMember⟩
  have hSame :=
    hUser.symm.trans (userByEmail_of_answer hUser')
  cases hSame
  exact holding_putRoom.mp
    ((hMember hOpen).resolve_left hBot)

/-
  Bringing members in line shifts them, and leaves the
  attributes alone.
-/
theorem preserves_shifts
    (hLimits : limits.Positive)
    (hw : w.WellTyped)
    (hId : id.isText = true)
    (hDesired : desired.WellTyped)
    (state : Observed)
    (members : List Datum) :
    (alignMembers limits desired id).Preserves remote
      (w.Holding id fun room' =>
        room'.WellTyped ∧ room'.state = state ∧
          w.Shifts desired.members members
            room'.members) := by
  apply preserves_alignMembers hLimits hw hId hDesired
  · intro room' hOne
    exact hOne.1
  · intro room' userId hOne hUser hNew
    have hText := hw.isText_of_invites hDesired.members hUser
    exact ⟨hOne.1.add_member hText, hOne.2.1,
      hOne.2.2.add hUser hNew⟩
  · intro room' userId hOne hText hUnwelcome
    exact ⟨hOne.1.erase_member userId, hOne.2.1,
      hOne.2.2.erase hText hUnwelcome⟩

/- When it returns, the members are in line. -/
theorem alignMembers_returned
    (hLimits : limits.Positive)
    (hw : w.WellTyped)
    (hId : id.isText = true)
    (hDesired : desired.WellTyped)
    (hRoom : room.WellTyped)
    (hNodup : room.members.Nodup)
    (hOpen : w.InvitesOpenly)
    (h : (alignMembers limits desired id).Returns remote
      (w.putRoom id room) () after) :
    ∃ room', after = w.putRoom id room' ∧
      room'.WellTyped ∧ room'.state = room.state ∧
      w.Staffed desired.members room.members
        room'.members := by
  rcases alignMembers_course hLimits hw hId hDesired hRoom h
      with
    ⟨larger, ids, hGrown, hInvited, hListed, -, hRemoved⟩
  have hIds : ∀ userId ∈ ids, userId.isText = true :=
    fun u hu => hGrown.typed.members u ((hListed u).mp hu)
  have hPreserves :=
    preserves_shifts hLimits hw hId hDesired room.state
      room.members
  rcases hPreserves.holds h.ends
      (holding_putRoom.mpr ⟨hRoom, rfl, shifts_self hNodup⟩)
      with
    ⟨room', rfl, hTyped, hState, hShifts⟩
  refine ⟨room', rfl, hTyped, hState, hShifts, ?_, ?_⟩
  · intro email hEmail
    rcases Roster.inviteEach_returned hw hId
        hDesired.mergeSort hInvited email
        (List.mem_mergeSort.mpr hEmail) with
      ⟨user, hUser, -⟩
    refine ⟨user, hUser, ?_⟩
    by_cases hBot : user.id = w.botId
    · exact Or.inr hBot
    · have hOne : w.Invites desired.members user.id :=
        ⟨hBot, email, hEmail, user,
          userByEmail_of_answer hUser, rfl⟩
      have hIn :=
        mem_of_invites hw hId hDesired hOpen hInvited hOne
      have hKept :=
        Roster.preserves_member_removeEach hw hId hIds
          (hw.welcomes_of_invites hDesired.members hOne)
      exact Or.inl (holding_putRoom.mp
        (hKept.holds hRemoved.ends
          (holding_putRoom.mpr hIn)))
  · intro userId hMem
    have hIn : userId ∈ larger.members := by
      by_cases hIn : userId ∈ larger.members
      · exact hIn
      · have hAbsent :
            w.Holding id (fun room' =>
              userId ∉ room'.members) (w.putRoom id room') :=
          (Roster.preserves_absent_removeEach hw hId hIds
            userId).holds hRemoved.ends
              (holding_putRoom.mpr hIn)
        exact absurd hMem (holding_putRoom.mp hAbsent)
    rcases Roster.removeEach_returned hw hId hIds hRemoved
        userId ((hListed userId).mpr hIn) with
      ⟨user, hUser, hGone⟩
    refine ⟨user, hUser, ?_⟩
    rcases hGone (hGrown.nodup hNodup) with
      hWelcome | hAbsent
    · exact hWelcome
    · exact absurd hMem (holding_putRoom.mp hAbsent)

end ChannelSync

------------------------------------------------------------
-- When It Returns
------------------------------------------------------------

namespace ChannelSync

open Program Workspace

variable {w : Workspace}
variable {limits : Limits}
variable {desired : Desired}
variable {id : Datum}
variable {room : Room}

/-
  The members of a room can be brought in line: everyone
  concerned is known, and there is some list of all of them
  whose cursors can be written.
-/
structure Workspace.Staffable
    (w : Workspace)
    (size : Nat)
    (emails members : List Datum) :
    Prop where
  found :
    ∀ email ∈ emails, ∃ user, w.userByEmail email = .ok user
  known :
    ∀ userId ∈ members, ∃ user,
      w.users.get? userId = some user
  listed :
    ∃ everyone : List Datum,
      Paging.Writable size 0 everyone.length ∧
        (∀ userId ∈ members, userId ∈ everyone) ∧
        ∀ userId, w.Invites emails userId →
          userId ∈ everyone

/- Members without repetitions can be listed, then. -/
theorem Workspace.Staffable.writable
    {size : Nat}
    {emails members members' : List Datum}
    (h : w.Staffable size emails members)
    (hNodup : members'.Nodup)
    (hBounded :
      ∀ userId ∈ members',
        userId ∈ members ∨ w.Invites emails userId) :
    Paging.Writable size 0 members'.length := by
  rcases h.listed with
    ⟨everyone, hWritable, hMembers, hInvited⟩
  refine hWritable.mono
    (hNodup.length_le_of_subset fun userId hMem => ?_)
  rcases hBounded userId hMem with hOld | hNew
  · exact hMembers userId hOld
  · exact hInvited userId hNew

/-
  Where nothing is laid in, members can be brought in line.
-/
theorem alignMembers_returns
    (hOpen : w.failures.entries = [])
    {size : Nat}
    (hSize : 0 < size)
    (hLimit : limits.members = .number size)
    (hw : w.WellTyped)
    (hId : id.isText = true)
    (hDesired : desired.WellTyped)
    (hRoom : room.WellTyped)
    (hNodup : room.members.Nodup)
    (h : w.Staffable size desired.members room.members) :
    ∃ room',
      (alignMembers limits desired id).Returns remote
        (w.putRoom id room) () (w.putRoom id room') := by
  rcases Roster.inviteEach_returns hOpen hw hId
      hDesired.mergeSort
      (fun e he => h.found e (List.mem_mergeSort.mp he))
      room with
    ⟨larger, hInvited⟩
  rcases inviteEach_enlarges hw hId hDesired hRoom hInvited
      with
    ⟨larger', hSame, hGrown⟩
  cases putRoom_injective hSame
  have hLargerNodup := hGrown.nodup hNodup
  rcases Access.memberIds_returns hId hSize
      (get?_putRoom w id larger) hGrown.typed.members hOpen
      (h.writable hLargerNodup hGrown.bounded) with
    ⟨ids, hListed⟩
  rcases Access.memberIds_returned hId hSize
      (get?_putRoom w id larger) hListed with
    ⟨hDistinct, -⟩
  have hMem :=
    Datum.mem_of_distinct hGrown.typed.members hDistinct
  have hKnown :
      ∀ userId ∈ ids, ∃ user,
        w.users.get? userId = some user := by
    intro userId hIn
    rcases hGrown.bounded userId ((hMem userId).mp hIn) with
      hOld | hNew
    · exact h.known userId hOld
    · rcases hw.welcomes_of_invites hDesired.members hNew
          with
        ⟨user, hUser, -⟩
      exact ⟨user, hUser⟩
  rcases @Roster.removeEach_returns w id larger
      desired.members ids hOpen hw hId
      (fun u hu => hGrown.typed.members u ((hMem u).mp hu))
      hKnown
      (Datum.nodup_of_distinct hGrown.typed.members hDistinct)
      hLargerNodup (fun u hu => (hMem u).mp hu) with
    ⟨room', hRemoved⟩
  refine ⟨room', (returns_alignMembers hDesired).mpr
    ⟨_, ids, hInvited, ?_, hRemoved⟩⟩
  rw [hLimit]
  exact hListed

end ChannelSync
