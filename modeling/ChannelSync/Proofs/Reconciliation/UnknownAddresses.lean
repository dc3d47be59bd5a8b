import ChannelSync.Proofs.Reconciliation.Membership

/-
  Addresses that no user has.

  The check for drift and the invitations take such an
  address differently.  The check gives up at it and there
  is no verdict; the invitations put it on their list of
  failures and go on.  So the check gets past it only if it
  finds somebody missing before, in the order of the
  addresses, and the invitations always get past it.

  Key definitions include:
    * `Workspace.Unknown` and `Workspace.FirstUnknown`
    * `Workspace.FindsMissing`

  Key theorems include:
    * `Drift.anyMissing_ends`
    * `Drift.membershipDiffers_ends`
    * `Roster.inviteEach_admits`
    * `alignMembers_admits`
-/

------------------------------------------------------------
-- Unknown Addresses
------------------------------------------------------------

namespace ChannelSync

namespace Workspace

/- No user has an address. -/
def Unknown
    (w : Workspace)
    (email : Datum) :
    Prop :=
  ∀ user, w.userByEmail email ≠ .ok user

/- The first of the unknown addresses, in their order. -/
structure FirstUnknown
    (w : Workspace)
    (emails : List Datum)
    (email : Datum) :
    Prop where
  mem : email ∈ emails
  unknown : w.Unknown email
  first :
    ∀ other ∈ emails, w.Unknown other →
      email.textLE other = true

/-
  One of the addresses is that of a user who is no member,
  and it comes before every unknown one.
-/
def FindsMissing
    (w : Workspace)
    (emails memberIds : List Datum) :
    Prop :=
  ∃ email ∈ emails,
    (∃ user, w.userByEmail email = .ok user ∧
      user.id ∉ memberIds) ∧
    ∀ other ∈ emails, w.Unknown other →
      email.textLE other = true

variable {w : Workspace}
variable {email : Datum}
variable {emails rest memberIds : List Datum}

/- An address that is not unknown is that of a user. -/
theorem not_unknown_iff :
    ¬ w.Unknown email ↔
      ∃ user, w.userByEmail email = .ok user := by
  simp only [Unknown, ne_eq, Classical.not_forall,
    Classical.not_not]

/- Asked for an unknown address, a workspace says so. -/
theorem Unknown.userByEmail
    (h : w.Unknown email) :
    w.userByEmail email =
      .error (.failure (Refusal.emailUnknown email)) := by
  unfold Workspace.Unknown Workspace.userByEmail at h
  unfold Workspace.userByEmail
  split
  case h_1 user hFound =>
      rw [hFound] at h
      exact absurd rfl (h user)
  case h_2 => rfl

/- Only which addresses and members there are matters. -/
theorem FindsMissing.congr
    {emails' memberIds' : List Datum}
    (h : w.FindsMissing emails memberIds)
    (hEmails : ∀ e, e ∈ emails ↔ e ∈ emails')
    (hMembers : ∀ u, u ∈ memberIds ↔ u ∈ memberIds') :
    w.FindsMissing emails' memberIds' := by
  rcases h with ⟨email, hMem, ⟨user, hUser, hNew⟩, hFirst⟩
  exact ⟨email, (hEmails email).mp hMem,
    ⟨user, hUser, fun hMember =>
      hNew ((hMembers user.id).mpr hMember)⟩,
    fun other hOther =>
      hFirst other ((hEmails other).mpr hOther)⟩

/- The address of a member is passed over. -/
theorem findsMissing_cons_of_mem
    {user : User}
    (hUser : w.userByEmail email = .ok user)
    (hMember : user.id ∈ memberIds) :
    w.FindsMissing (email :: rest) memberIds ↔
      w.FindsMissing rest memberIds := by
  constructor
  · intro h
    rcases h with
      ⟨found, hMem, ⟨other, hOther, hNew⟩, hFirst⟩
    rcases List.mem_cons.mp hMem with rfl | hRest
    · rw [hUser] at hOther
      cases hOther
      exact absurd hMember hNew
    · exact ⟨found, hRest, ⟨other, hOther, hNew⟩,
        fun e he => hFirst e (List.mem_cons_of_mem _ he)⟩
  · intro h
    rcases h with ⟨found, hMem, hMissing, hFirst⟩
    refine ⟨found, List.mem_cons_of_mem _ hMem, hMissing,
      List.forall_mem_cons.mpr ⟨?_, hFirst⟩⟩
    intro hUnknown
    exact absurd hUser (hUnknown user)

/- The address of a member is not the first unknown one. -/
theorem FirstUnknown.cons
    {user : User}
    {unknown : Datum}
    (hUser : w.userByEmail email = .ok user)
    (h : w.FirstUnknown rest unknown) :
    w.FirstUnknown (email :: rest) unknown where
  mem := List.mem_cons_of_mem _ h.mem
  unknown := h.unknown
  first := List.forall_mem_cons.mpr
    ⟨fun hUnknown => absurd hUser (hUnknown user), h.first⟩

/- An unknown address that comes first hides the others. -/
theorem not_findsMissing_of_unknown
    (hTexts : ∀ e ∈ email :: rest, e.isText = true)
    (hOrdered :
      ∀ other ∈ rest, email.textLE other = true)
    (hUnknown : w.Unknown email) :
    ¬ w.FindsMissing (email :: rest) memberIds := by
  intro h
  rcases h with ⟨found, hMem, ⟨user, hUser, -⟩, hFirst⟩
  have hBefore := hFirst email (by simp) hUnknown
  have hSame : found = email := by
    rcases List.mem_cons.mp hMem with hSame | hRest
    · exact hSame
    · exact Datum.textLE_antisymm (hTexts found hMem)
        (hTexts email (by simp)) hBefore
        (hOrdered found hRest)
  exact hUnknown user (hSame ▸ hUser)

end Workspace

end ChannelSync

------------------------------------------------------------
-- The Check of the Members
------------------------------------------------------------

namespace ChannelSync

open Program Workspace

variable {w : Workspace}
variable {email : Datum}
variable {desired : Desired}
variable {observed : Observed}

/- Looking for an unknown address stops. -/
theorem Access.stops_userByEmail
    (hOpen : w.failures.entries = [])
    (hEmail : email.isText = true)
    (hUnknown : w.Unknown email) :
    (Access.userByEmail email).Stops remote w
      (.failure (Refusal.emailUnknown email)) w := by
  have hTyped : (Request.userByEmail email).WellTyped :=
    hEmail
  have hAnswer :
      (w.answer (.userByEmail email)).1 =
        .error (.failure (Refusal.emailUnknown email)) := by
    unfold answer
    simp only [refusal_of_no_failures hOpen hTyped]
    exact hUnknown.userByEmail
  exact (ends_userByEmail hAnswer).stops

namespace Drift

variable {user : User}
variable {rest : List Datum}

/- The address of a user is tested for membership. -/
theorem returns_testEmail_of_found
    (hw : w.WellTyped)
    (hOpen : w.failures.entries = [])
    (hEmail : email.isText = true)
    (hUser : w.userByEmail email = .ok user)
    {passed : Bool}
    (hPassed :
      passed = decide (user.id ∈ observed.memberIds)) :
    (testEmail observed email).Returns remote w passed w :=
  (returns_testEmail hw hEmail).mpr
    ⟨rfl, user,
      answer_userByEmail_of_no_failures hOpen hEmail hUser,
      hPassed⟩

/- An unknown address stops the search. -/
theorem anyMissing_of_unknown
    (hOpen : w.failures.entries = [])
    (hEmail : email.isText = true)
    (hUnknown : w.Unknown email) :
    (anyMissing observed (email :: rest)).Stops remote w
      (.failure (Refusal.emailUnknown email)) w :=
  (Access.stops_userByEmail hOpen hEmail hUnknown).bind _

/- The address of a user who is no member ends the search. -/
theorem anyMissing_of_not_mem
    (hTest :
      (testEmail observed email).Returns remote w false w) :
    (anyMissing observed (email :: rest)).Returns remote w
      true w := by
  rw [anyMissing_eq]
  refine returns_bind.mpr ⟨false, w, hTest, ?_⟩
  exact returns_record_pure

/- After the address of a member the search goes on. -/
theorem anyMissing_of_mem
    (hTest :
      (testEmail observed email).Returns remote w true w)
    {result : Except Problem Bool}
    {after : Workspace}
    {exchanges : List Exchange}
    (h : (anyMissing observed rest).Ends remote w result
      after exchanges) :
    ∃ exchanges',
      (anyMissing observed (email :: rest)).Ends remote w
        result after exchanges' := by
  rw [anyMissing_eq] at h ⊢
  exact ⟨_, hTest.ends.bind h⟩

/-
  If there are unknown addresses, the search for members who
  are missing finds one before them, or stops at the first
  of them.
-/
theorem anyMissing_ends
    (hw : w.WellTyped)
    (hOpen : w.failures.entries = [])
    {emails : List Datum}
    (hTexts : ∀ email ∈ emails, email.isText = true)
    (hOrdered :
      emails.Pairwise fun a b => a.textLE b = true)
    (hUnknown : ∃ email ∈ emails, w.Unknown email) :
    (w.FindsMissing emails observed.memberIds ∧
        (anyMissing observed emails).Returns remote w
          true w) ∨
      (¬ w.FindsMissing emails observed.memberIds ∧
        ∃ email, w.FirstUnknown emails email ∧
          (anyMissing observed emails).Stops remote w
            (.failure (Refusal.emailUnknown email)) w) := by
  induction emails with
  | nil =>
      rcases hUnknown with ⟨email, hMem, -⟩
      cases hMem
  | cons email rest ih =>
      have hEmail := hTexts email (by simp)
      rcases List.pairwise_cons.mp hOrdered with
        ⟨hFirst, hRest⟩
      by_cases hKnown : w.Unknown email
      · refine Or.inr
          ⟨not_findsMissing_of_unknown hTexts hFirst hKnown,
            email, ⟨by simp, hKnown, ?_⟩,
            anyMissing_of_unknown hOpen hEmail hKnown⟩
        exact List.forall_mem_cons.mpr
          ⟨fun _ => Datum.textLE_refl email,
            fun other hOther _ => hFirst other hOther⟩
      · rcases not_unknown_iff.mp hKnown with ⟨user, hUser⟩
        by_cases hMember : user.id ∈ observed.memberIds
        · have hTest :=
            @returns_testEmail_of_found w email observed user
              hw hOpen hEmail hUser true (by simp [hMember])
          have hOthers : ∃ e ∈ rest, w.Unknown e := by
            rcases hUnknown with ⟨e, hMem, hNone⟩
            rcases List.mem_cons.mp hMem with rfl | hMem
            · exact absurd hNone hKnown
            · exact ⟨e, hMem, hNone⟩
          rw [findsMissing_cons_of_mem hUser hMember]
          rcases ih (fun e he => hTexts e (by simp [he]))
              hRest hOthers with
            ⟨hFinds, hReturns⟩ |
              ⟨hFinds, first, hUnknownFirst, hStops⟩
          · rcases anyMissing_of_mem hTest hReturns.ends with
              ⟨_, hEnds⟩
            exact Or.inl ⟨hFinds, hEnds.returns⟩
          · rcases anyMissing_of_mem hTest hStops.ends with
              ⟨_, hEnds⟩
            exact Or.inr
              ⟨hFinds, first, hUnknownFirst.cons hUser,
                hEnds.stops⟩
        · have hTest :=
            @returns_testEmail_of_found w email observed user
              hw hOpen hEmail hUser false (by simp [hMember])
          refine Or.inl ⟨?_, anyMissing_of_not_mem hTest⟩
          refine ⟨email, by simp, ⟨user, hUser, hMember⟩, ?_⟩
          exact List.forall_mem_cons.mpr
            ⟨fun hNone => absurd hNone hKnown,
              fun other hOther _ => hFirst other hOther⟩

/-
  If there are unknown addresses, the check of the members
  finds a difference before them, or stops at the first of
  them.
-/
theorem membershipDiffers_ends
    (hw : w.WellTyped)
    (hOpen : w.failures.entries = [])
    (hDesired : desired.WellTyped)
    (hUnknown : ∃ email ∈ desired.members, w.Unknown email) :
    (w.FindsMissing desired.members observed.memberIds ∧
        (membershipDiffers desired observed).Returns remote
          w true w) ∨
      (¬ w.FindsMissing desired.members
          observed.memberIds ∧
        ∃ email, w.FirstUnknown desired.members email ∧
          (membershipDiffers desired observed).Stops remote
            w (.failure (Refusal.emailUnknown email)) w) := by
  have hSorted :
      (lift (Datum.sorted desired.members)).Returns remote w
        (desired.members.mergeSort Datum.textLE) w :=
    returns_lift.mpr
      ⟨Datum.sorted_texts hDesired.members, rfl⟩
  have hMem :
      ∀ e, e ∈ desired.members.mergeSort Datum.textLE ↔
        e ∈ desired.members :=
    fun e => List.mem_mergeSort
  have hSome :
      ∃ e ∈ desired.members.mergeSort Datum.textLE,
        w.Unknown e := by
    rcases hUnknown with ⟨e, he, hNone⟩
    exact ⟨e, (hMem e).mpr he, hNone⟩
  rcases @anyMissing_ends w observed hw hOpen _
      hDesired.mergeSort (Datum.pairwise_mergeSort _)
      hSome with
    ⟨hFinds, hReturns⟩ | ⟨hFinds, email, hFirst, hStops⟩
  · refine Or.inl
      ⟨hFinds.congr hMem fun _ => Iff.rfl, ?_⟩
    refine returns_bind.mpr ⟨_, w, hSorted, ?_⟩
    exact returns_bind.mpr ⟨true, w, hReturns,
      returns_pure_self⟩
  · refine Or.inr ⟨fun h => hFinds (h.congr
      (fun e => (hMem e).symm) fun _ => Iff.rfl),
        email, ?_, hSorted.bind_stops (hStops.bind _)⟩
    exact
      { mem := (hMem email).mp hFirst.mem
        unknown := hFirst.unknown
        first := fun other hOther =>
          hFirst.first other ((hMem other).mpr hOther) }

end Drift

/- With unknown addresses, members may always differ. -/
theorem membershipMayDiffer_of_unknown
    (hw : w.WellTyped)
    (hOpen : w.failures.entries = [])
    (hDesired : desired.WellTyped)
    (hUnknown : ∃ email ∈ desired.members, w.Unknown email) :
    (membershipMayDiffer desired observed).Returns remote w
      true w := by
  unfold membershipMayDiffer
  rcases @Drift.membershipDiffers_ends w desired observed hw
      hOpen hDesired hUnknown with
    ⟨-, hReturns⟩ | ⟨-, email, -, hStops⟩
  · exact returns_bind.mpr
      ⟨.ok true, w, returns_attempt_ok.mpr hReturns,
        returns_pure_self⟩
  · refine returns_bind.mpr
      ⟨.error (Refusal.emailUnknown email), w,
        returns_attempt_failure.mpr ⟨_, hStops.ends⟩, ?_⟩
    exact returns_record_pure

end ChannelSync

------------------------------------------------------------
-- Invitations
------------------------------------------------------------

namespace ChannelSync

open Program Workspace

variable {w : Workspace}
variable {limits : Limits}
variable {desired : Desired}
variable {id email userId : Datum}
variable {emails : List Datum}
variable {room : Room}

namespace Roster

/- Inviting at an unknown address is reported, no more. -/
theorem inviteOne_of_unknown
    (hOpen : w.failures.entries = [])
    (hEmail : email.isText = true)
    (hUnknown : w.Unknown email) :
    (inviteOne id email).Returns remote w
      (some (Refusal.emailUnknown email)) w := by
  have hStops :=
    Access.stops_userByEmail hOpen hEmail hUnknown
  exact returns_bind.mpr
    ⟨.error (Refusal.emailUnknown email), w,
      returns_attempt_failure.mpr ⟨_, hStops.ends⟩,
      returns_pure_self⟩

/-
  Where nothing is laid in, inviting someone returns, and
  whoever is found is a member then, or is the one acted as.
-/
theorem inviteOne_admits
    (hOpen : w.failures.entries = [])
    (hw : w.WellTyped)
    (hId : id.isText = true)
    (hEmail : email.isText = true)
    (room : Room) :
    ∃ failure? room',
      (inviteOne id email).Returns remote
          (w.putRoom id room) failure? (w.putRoom id room') ∧
        ∀ user, w.userByEmail email = .ok user →
          user.id ≠ w.botId → user.id ∈ room'.members := by
  by_cases hKnown : w.Unknown email
  · have hPut : (w.putRoom id room).failures.entries = [] :=
      hOpen
    exact ⟨_, room, inviteOne_of_unknown hPut hEmail hKnown,
      fun user hUser => absurd hUser (hKnown user)⟩
  · rcases not_unknown_iff.mp hKnown with ⟨user, hUser⟩
    rcases inviteOne_returns hOpen hw hId hEmail hUser room
        with
      ⟨room', hReturns⟩
    refine ⟨none, room', hReturns, ?_⟩
    intro found hFound hOther
    rcases inviteOne_returned hw hId hEmail hReturns with
      ⟨invited, hAnswer, hCases⟩
    have hInvited := userByEmail_of_answer hAnswer
    rw [hFound] at hInvited
    cases hInvited
    rcases hCases with
      ⟨-, hAfter⟩ |
        ⟨⟨failure, hRefusal, hSettled⟩, hAfter⟩
    · rw [putRoom_injective hAfter.symm]
      exact List.mem_append_right _ (by simp)
    · rw [putRoom_injective hAfter.symm]
      exact ((invitesOpenly_of_no_failures hOpen).settled
        hRefusal hSettled).resolve_left hOther

/-
  Where nothing is laid in, the invitations are all made,
  and whoever is found is a member then, or is the one acted
  as, whatever addresses are unknown.
-/
theorem inviteEach_admits
    (hOpen : w.failures.entries = [])
    (hw : w.WellTyped)
    (hId : id.isText = true)
    (hEmails : ∀ email ∈ emails, email.isText = true)
    (room : Room) :
    ∃ failures room',
      (inviteEach id emails).Returns remote
          (w.putRoom id room) failures (w.putRoom id room') ∧
        ∀ userId, w.Invites emails userId →
          userId ∈ room'.members := by
  induction emails generalizing room with
  | nil =>
      refine ⟨[], room, returns_pure_self, ?_⟩
      intro userId h
      rcases h with ⟨-, email, hMem, -⟩
      cases hMem
  | cons email rest ih =>
      have hOthers : ∀ e ∈ rest, e.isText = true :=
        fun e he => hEmails e (by simp [he])
      rcases inviteOne_admits hOpen hw hId
          (hEmails email (by simp)) room with
        ⟨failure?, middle, hFirst, hAdmitted⟩
      rcases ih hOthers middle with
        ⟨failures, room', hRest, hAdmits⟩
      refine ⟨failure?.toList ++ failures, room', ?_, ?_⟩
      · exact returns_bind.mpr ⟨failure?, _, hFirst,
          returns_bind.mpr ⟨failures, _, hRest,
            returns_pure_self⟩⟩
      · intro userId h
        rcases h with ⟨hOther, e, hMem, user, hUser, rfl⟩
        rcases List.mem_cons.mp hMem with rfl | hMem
        · have hIn := hAdmitted user hUser hOther
          exact holding_putRoom.mp
            ((preserves_member_inviteEach hw hId hOthers
              user.id).holds hRest.ends
                (holding_putRoom.mpr hIn))
        · exact hAdmits user.id
            ⟨hOther, e, hMem, user, hUser, rfl⟩

end Roster

/-
  Where nothing is laid in, everyone who is invited is a
  member when the members have been brought in line, even if
  this stops at a problem.
-/
theorem alignMembers_admits
    (hOpen : w.failures.entries = [])
    (hLimits : limits.Positive)
    (hw : w.WellTyped)
    (hId : id.isText = true)
    (hDesired : desired.WellTyped)
    (hRoom : room.WellTyped)
    (hInvited : w.Invites desired.members userId) :
    w.Holding id (fun room => userId ∈ room.members)
      ((alignMembers limits desired id).run remote
        (w.putRoom id room)).state := by
  rcases Roster.inviteEach_admits hOpen hw hId
      hDesired.mergeSort room with
    ⟨failures, room', hEach, hAdmits⟩
  rcases inviteEach_enlarges hw hId hDesired hRoom hEach with
    ⟨larger, hLarger, hGrown⟩
  cases putRoom_injective hLarger
  have hAll :
      (Roster.inviteAll id desired.members).Returns remote
        (w.putRoom id room) failures
        (w.putRoom id room') := by
    rw [Roster.inviteAll_eq hDesired.members]
    exact hEach
  have hMember : userId ∈ room'.members := by
    rcases hInvited with ⟨hOther, email, hMem, hUser⟩
    exact hAdmits userId
      ⟨hOther, email, List.mem_mergeSort.mpr hMem, hUser⟩
  have hRemovals :
      (Roster.removeOthers limits.members id
          desired.members).Preserves remote
        (w.Holding id fun room =>
          room.WellTyped ∧ userId ∈ room.members) :=
    preserves_removeOthers hLimits hw hId
      (fun _ h => h.1) fun room other h hOther hUnwelcome =>
        ⟨h.1.erase_member other,
          Datum.mem_erase_of_ne hOther (fun hSame =>
            hUnwelcome (hSame ▸ hw.welcomes_of_invites
              hDesired.members hInvited)) h.2⟩
  have hHolds :
      w.Holding id
        (fun room => room.WellTyped ∧ userId ∈ room.members)
        ((alignMembers limits desired id).run remote
          (w.putRoom id room)).state := by
    unfold alignMembers
    rw [hAll.state_bind]
    refine hRemovals.bind (fun _ _ _ _ => ?_) _
      (holding_putRoom.mpr ⟨hGrown.typed, hMember⟩)
    split
    · exact preserves_done _
    · exact preserves_done _
  rcases hHolds with ⟨last, hLast, -, hIn⟩
  exact ⟨last, hLast, hIn⟩

end ChannelSync
