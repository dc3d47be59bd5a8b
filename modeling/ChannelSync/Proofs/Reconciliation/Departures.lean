import ChannelSync.Session
import ChannelSync.Proofs.Access.Fetching
import ChannelSync.Proofs.Datum.Distinct
import ChannelSync.Proofs.Reconciliation.Removals
import ChannelSync.Proofs.Reconciliation.Target
import ChannelSync.Proofs.Workspace.Answers

/-
  How far a pass of removals gets.

  The members of a channel are listed first and then gone
  through in the order of the listing, while the channel
  shrinks.  A pass either gets through, or it stops at one of
  the members: up to there everyone who is not welcome is
  gone, and from there on nobody has been touched.  If the
  listing does not come about, nobody is looked at.

  Key definitions include:
    * `Workspace.visit`
    * `Workspace.Halts`
    * `Roster.Pass`

  Key theorems include:
    * `Roster.removeEach_pass`
    * `Roster.removeOthers_pass`
    * `Roster.removeOthers_exact`
-/

------------------------------------------------------------
-- Passes over Members
------------------------------------------------------------

namespace ChannelSync

namespace Workspace

/- The exchanges about a member who is dealt with. -/
def visit
    (w : Workspace)
    (id : Datum)
    (emails : List Datum)
    (userId : Datum) :
    List Exchange :=
  ⟨.userById userId, (w.answer (.userById userId)).1⟩ ::
    if w.Welcomes emails userId then []
    else [⟨.removeMember id userId, .ok ()⟩]

/-
  A member cannot be dealt with, since it cannot be looked
  up or cannot be removed.
-/
inductive Halts
    (w : Workspace)
    (id : Datum)
    (emails : List Datum)
    (userId : Datum)
    (problem : Problem) :
    List Exchange → Prop where
  | unanswered
      (hProblem :
        (w.answer (.userById userId)).1 = .error problem) :
      Halts w id emails userId problem
        [⟨.userById userId, .error problem⟩]
  | refused
      {user : User}
      (hUser : (w.answer (.userById userId)).1 = .ok user)
      (hUnwelcome : ¬ user.Welcome emails)
      (hProblem :
        (w.answer (.removeMember id userId)).1 =
          .error problem) :
      Halts w id emails userId problem
        [⟨.userById userId, .ok user⟩,
          ⟨.removeMember id userId, .error problem⟩]

variable {w : Workspace}
variable {id userId : Datum}
variable {room : Room}
variable {emails kept rest : List Datum}

/- A member who is welcome is only looked up. -/
theorem visit_of_welcomes
    (h : w.Welcomes emails userId) :
    w.visit id emails userId =
      [⟨.userById userId,
        (w.answer (.userById userId)).1⟩] := by
  unfold visit
  rw [if_pos h]

/- A member who is not is looked up and removed. -/
theorem visit_of_not_welcomes
    (h : ¬ w.Welcomes emails userId) :
    w.visit id emails userId =
      [⟨.userById userId, (w.answer (.userById userId)).1⟩,
        ⟨.removeMember id userId, .ok ()⟩] := by
  unfold visit
  rw [if_neg h]

/- A member is removed from between the others. -/
theorem answer_removeMember_between
    (hId : id.isText = true)
    (hUserId : userId.isText = true)
    (w : Workspace)
    (room : Room)
    (hAbsent : userId ∉ kept) :
    (w.putRoom id
        (room.withMembers (kept ++ userId :: rest))).answer
          (.removeMember id userId) =
      edited w id
        (room.withMembers (kept ++ userId :: rest))
        (room.withMembers (kept ++ rest))
        (w.refusal (.removeMember id userId)) () := by
  have hMember :
      userId ∈
        (room.withMembers (kept ++ userId :: rest)).members :=
    List.mem_append_right kept List.mem_cons_self
  have hErased :
      (room.withMembers (kept ++ userId :: rest)).members.erase
          userId =
        kept ++ rest :=
    Datum.erase_append_cons hUserId hAbsent
  rw [answer_removeMember_of_mem hId hUserId w hMember,
    hErased]
  rfl

end Workspace

namespace Roster

/-
  How a pass over some members ends: with a result, with
  those who are left of them, and with its exchanges.
-/
inductive Pass
    (w : Workspace)
    (id : Datum)
    (emails : List Datum) :
    List Datum → Except Problem Unit → List Datum →
      List Exchange → Prop where
  | through
      {userIds : List Datum}
      (hKnown :
        ∀ userId ∈ userIds, ∃ user,
          (w.answer (.userById userId)).1 = .ok user) :
      Pass w id emails userIds (.ok ())
        (userIds.filter fun userId =>
          w.Welcomes emails userId)
        (userIds.flatMap (w.visit id emails))
  | stopped
      {before later : List Datum}
      {userId : Datum}
      {problem : Problem}
      {last : List Exchange}
      (hKnown :
        ∀ other ∈ before, ∃ user,
          (w.answer (.userById other)).1 = .ok user)
      (hHalts : w.Halts id emails userId problem last) :
      Pass w id emails (before ++ userId :: later)
        (.error problem)
        ((before.filter fun other =>
            w.Welcomes emails other) ++ userId :: later)
        (before.flatMap (w.visit id emails) ++ last)

variable {w : Workspace}
variable {id userId : Datum}
variable {emails userIds left : List Datum}
variable {result : Except Problem Unit}
variable {exchanges : List Exchange}

/- A pass goes on after a member who is dealt with. -/
theorem Pass.cons
    {user : User}
    (hUser : (w.answer (.userById userId)).1 = .ok user)
    (h : Pass w id emails userIds result left exchanges) :
    Pass w id emails (userId :: userIds) result
      ([userId].filter (fun other =>
          w.Welcomes emails other) ++ left)
      (w.visit id emails userId ++ exchanges) := by
  cases h with
  | through hKnown =>
      rw [← List.filter_append, ← List.flatMap_cons]
      exact .through (List.forall_mem_cons.mpr
        ⟨⟨user, hUser⟩, hKnown⟩)
  | stopped hKnown hHalts =>
      rw [← List.append_assoc, ← List.append_assoc,
        ← List.filter_append, ← List.flatMap_cons,
        ← List.cons_append]
      exact .stopped (List.forall_mem_cons.mpr
        ⟨⟨user, hUser⟩, hKnown⟩) hHalts

end Roster

end ChannelSync

------------------------------------------------------------
-- One Member
------------------------------------------------------------

namespace ChannelSync

namespace Roster

open Program Workspace

variable {s after : Workspace}
variable {id userId : Datum}
variable {emails rest : List Datum}
variable {user : User}
variable {problem : Problem}
variable {result : Except Problem Unit}
variable {exchanges : List Exchange}

/- A member who cannot be looked up stops a pass. -/
theorem removeEach_of_unanswered
    (h : (s.answer (.userById userId)).1 =
      .error problem) :
    (removeEach id emails (userId :: rest)).Ends remote s
      (.error problem) s
      [⟨.userById userId, .error problem⟩] :=
  (Access.ends_userById h).bind_error _

/- A member who may stay is passed over. -/
theorem removeEach_of_allowed
    (h : (s.answer (.userById userId)).1 = .ok user)
    (hStays : Drift.allowed emails user = .ok true)
    (hRest : (removeEach id emails rest).Ends remote s
      result after exchanges) :
    (removeEach id emails (userId :: rest)).Ends remote s
      result after
      (⟨.userById userId, .ok user⟩ :: exchanges) := by
  refine (Access.ends_userById h).bind ?_
  rw [hStays]
  exact hRest

/- A member who may not stay is removed. -/
theorem removeEach_of_removed
    (h : (s.answer (.userById userId)).1 = .ok user)
    (hLeaves : Drift.allowed emails user = .ok false)
    {middle : Workspace}
    (hRemoved :
      s.answer (.removeMember id userId) = (.ok (), middle))
    (hRest : (removeEach id emails rest).Ends remote middle
      result after exchanges) :
    (removeEach id emails (userId :: rest)).Ends remote s
      result after
      (⟨.userById userId, .ok user⟩ ::
        ⟨.removeMember id userId, .ok ()⟩ :: exchanges) := by
  have hGone := Access.ends_remove hRemoved
  refine (Access.ends_userById h).bind ?_
  rw [hLeaves]
  exact ends_record_bind.mpr
    ((ends_reporting.mpr hGone).bind hRest)

/- A member who cannot be removed stops a pass. -/
theorem removeEach_of_refused
    (h : (s.answer (.userById userId)).1 = .ok user)
    (hLeaves : Drift.allowed emails user = .ok false)
    (hRefused :
      s.answer (.removeMember id userId) =
        (.error problem, after)) :
    (removeEach id emails (userId :: rest)).Ends remote s
      (.error problem) after
      [⟨.userById userId, .ok user⟩,
        ⟨.removeMember id userId, .error problem⟩] := by
  have hFailed := Access.ends_remove hRefused
  refine (Access.ends_userById h).bind ?_
  rw [hLeaves]
  exact ends_record_bind.mpr
    ((ends_reporting.mpr hFailed).bind_error _)

end Roster

end ChannelSync

------------------------------------------------------------
-- All Members
------------------------------------------------------------

namespace ChannelSync

namespace Roster

open Program Workspace

variable {w : Workspace}
variable {id userId : Datum}
variable {room : Room}
variable {emails userIds kept : List Datum}

/-
  A member either stops a pass, or is dealt with: then the
  pass goes on with the others, and the member is still there
  if it is welcome.
-/
theorem removeEach_step
    (hw : w.WellTyped)
    (hId : id.isText = true)
    (hFound : w.channels.get? id = some room)
    (hUserId : userId.isText = true)
    (hMember : userId ∈ room.members)
    (hAbsent : userId ∉ kept)
    (rest : List Datum) :
    (∃ problem last,
      w.Halts id emails userId problem last ∧
        (removeEach id emails (userId :: rest)).Ends remote
          (w.putRoom id
            (room.withMembers (kept ++ userId :: rest)))
          (.error problem)
          (w.putRoom id
            (room.withMembers (kept ++ userId :: rest)))
          last) ∨
      ∃ user,
        (w.answer (.userById userId)).1 = .ok user ∧
          ∀ {result after exchanges},
            (removeEach id emails rest).Ends remote
              (w.putRoom id (room.withMembers
                (kept ++ [userId].filter (fun other =>
                  w.Welcomes emails other) ++ rest)))
              result after exchanges →
            (removeEach id emails (userId :: rest)).Ends
              remote
              (w.putRoom id
                (room.withMembers (kept ++ userId :: rest)))
              result after
              (w.visit id emails userId ++ exchanges) := by
  have hLookUp :
      ((w.putRoom id (room.withMembers
          (kept ++ userId :: rest))).answer
        (.userById userId)).1 =
        (w.answer (.userById userId)).1 := by
    rw [answer_userById_putRoom]
  cases hUser : (w.answer (.userById userId)).1 with
  | error problem =>
      rw [hUser] at hLookUp
      exact Or.inl ⟨_, _, .unanswered hUser,
        removeEach_of_unanswered hLookUp⟩
  | ok user =>
      rw [hUser] at hLookUp
      have hKnown := get?_of_answer hUserId hUser
      have hAllowed :=
        Drift.allowed_eq
          (hw.user_of_get? hUserId hKnown).1 emails
      by_cases hWelcome : user.Welcome emails
      · have hStays : w.Welcomes emails userId :=
          ⟨user, hKnown, hWelcome⟩
        rw [decide_eq_true hWelcome] at hAllowed
        refine Or.inr ⟨user, rfl, fun hRest => ?_⟩
        rw [visit_of_welcomes hStays, hUser]
        apply removeEach_of_allowed hLookUp hAllowed
        simpa [hStays] using hRest
      · have hLeaves : ¬ w.Welcomes emails userId :=
          fun h => hWelcome ((welcomes_iff hKnown).mp h)
        have hAnswer :=
          @answer_removeMember_between id userId kept rest
            hId hUserId w room hAbsent
        rw [decide_eq_false hWelcome] at hAllowed
        -- Since the member is there, only what is laid in can
        -- refuse the removal, whoever else is left.
        cases hRefusal :
            w.refusal (.removeMember id userId) with
        | error problem =>
            have hAsked :=
              answer_removeMember_of_mem hId hUserId w hMember
            rw [putRoom_of_get? hFound, hRefusal] at hAsked
            rw [hRefusal] at hAnswer
            exact Or.inl ⟨_, _,
              .refused hUser hWelcome
                (congrArg Prod.fst hAsked),
              removeEach_of_refused hLookUp hAllowed hAnswer⟩
        | ok _ =>
            rw [hRefusal] at hAnswer
            refine Or.inr ⟨user, rfl, fun hRest => ?_⟩
            rw [visit_of_not_welcomes hLeaves, hUser]
            apply removeEach_of_removed hLookUp hAllowed
              hAnswer
            simpa [hLeaves] using hRest

/-
  Members who come last in a channel are gone through.  Those
  before them stay, and so does whoever is left of them.
-/
theorem removeEach_pass
    (hw : w.WellTyped)
    (hId : id.isText = true)
    (hFound : w.channels.get? id = some room)
    (hUserIds : ∀ userId ∈ userIds, userId.isText = true)
    (hMembers : ∀ userId ∈ userIds, userId ∈ room.members)
    (hNodup : (kept ++ userIds).Nodup) :
    ∃ result left exchanges,
      Pass w id emails userIds result left exchanges ∧
        (removeEach id emails userIds).Ends remote
          (w.putRoom id (room.withMembers (kept ++ userIds)))
          result
          (w.putRoom id (room.withMembers (kept ++ left)))
          exchanges := by
  induction userIds generalizing kept with
  | nil =>
      exact ⟨.ok (), [], [], .through (by simp),
        ends_pure_self⟩
  | cons userId rest ih =>
      rcases List.forall_mem_cons.mp hUserIds with
        ⟨hUserId, hTexts⟩
      rcases List.forall_mem_cons.mp hMembers with
        ⟨hMember, hOthers⟩
      have hAbsent : userId ∉ kept := by
        intro hKept
        exact (List.nodup_append.mp hNodup).2.2 userId hKept
          userId List.mem_cons_self rfl
      rcases @removeEach_step w id userId room emails kept hw
          hId hFound hUserId hMember hAbsent rest with
        ⟨problem, last, hHalts, hEnds⟩ |
          ⟨user, hUser, hGoesOn⟩
      · exact ⟨_, _, _,
          .stopped (List.forall_mem_nil _) hHalts, hEnds⟩
      · have hFewer :
            (kept ++ [userId].filter (fun other =>
              w.Welcomes emails other) ++ rest).Nodup := by
          rw [List.append_assoc]
          exact hNodup.sublist
            ((List.filter_sublist.append_right
              rest).append_left kept)
        rcases ih hTexts hOthers hFewer with
          ⟨result, left, exchanges, hPass, hEnds⟩
        refine ⟨result, _, _, hPass.cons hUser, ?_⟩
        rw [← List.append_assoc]
        exact hGoesOn hEnds

end Roster

end ChannelSync

------------------------------------------------------------
-- Listing and Removing
------------------------------------------------------------

namespace ChannelSync

open Program Workspace

/- A channel whose members are listed is there. -/
theorem Access.room_of_listed
    {w after : Workspace}
    {limit id : Datum}
    {ids : List Datum}
    (h : (memberIds limit id).Returns remote w ids after) :
    ∃ room, w.channels.get? id = some room := by
  unfold memberIds at h
  rcases returns_bind.mp h with
    ⟨bound, middle, hBound, hPages⟩
  rw [(returns_pageBound.mp hBound).2] at hPages
  cases bound with
  | zero => exact absurd hPages not_returns_abort
  | succ bound =>
      unfold membersFrom at hPages
      rcases returns_bind.mp hPages with ⟨page, _, hPage, -⟩
      have hGranted :=
        grant_of_answer (returns_memberPage.mp hPage).1
      simp only [grant, Workspace.memberPage] at hGranted
      cases hRoom : w.room id with
      | error problem =>
          rw [hRoom] at hGranted
          cases hGranted
      | ok room => exact ⟨room, get?_of_room hRoom⟩

namespace Roster

variable {w after : Workspace}
variable {id : Datum}
variable {room : Room}
variable {emails ids : List Datum}
variable {listing : List Exchange}
variable {size : Nat}

/- The members who are listed are gone through. -/
theorem removeOthers_pass
    (hw : w.WellTyped)
    (hSize : 0 < size)
    (hId : id.isText = true)
    (hFound : w.channels.get? id = some room)
    (hNodup : room.members.Nodup)
    (hListed :
      (Access.memberIds (.number size) id).Ends remote w
        (.ok ids) after listing) :
    ids = room.members ∧
      ∃ result left exchanges,
        Pass w id emails room.members result left
            exchanges ∧
          (removeOthers (.number size) id emails).Ends remote
            w result (w.putRoom id (room.withMembers left))
            (listing ++ exchanges) := by
  have hTexts := (hw.room_of_get? hId hFound).members
  rcases Access.memberIds_returned hId hSize hFound
      hListed.returns with
    ⟨hDistinct, -⟩
  rw [Datum.distinct_texts hTexts,
    Datum.eraseDups_of_nodup hTexts hNodup] at hDistinct
  cases hDistinct
  have hSame :=
    state_of_returned (Access.reads_memberIds _ _)
      hListed.returns
  subst hSame
  rcases @removeEach_pass _ id room emails room.members [] hw
      hId hFound hTexts (fun _ h => h) hNodup with
    ⟨result, left, exchanges, hPass, hEnds⟩
  have hStart :
      after.putRoom id (room.withMembers room.members) =
        after :=
    putRoom_of_get? hFound
  rw [List.nil_append, List.nil_append, hStart] at hEnds
  exact ⟨rfl, result, left, exchanges, hPass,
    hListed.bind hEnds⟩

/- The addresses that are declared matter as a set. -/
theorem removeEach_congr
    {emails' : List Datum}
    (id : Datum)
    (hSame : ∀ email, email ∈ emails' ↔ email ∈ emails)
    (userIds : List Datum) :
    removeEach id emails' userIds =
      removeEach id emails userIds := by
  have hAllowed :
      Drift.allowed emails' = Drift.allowed emails := by
    funext user
    have hContains :
        emails'.contains user.email =
          emails.contains user.email := by
      rw [Bool.eq_iff_iff,
        List.contains_iff_exists_mem_beq,
        List.contains_iff_exists_mem_beq]
      simp only [hSame]
    simp only [Drift.allowed, Datum.isIn, hContains]
  induction userIds with
  | nil => rfl
  | cons userId rest ih =>
      simp only [removeEach, hAllowed, ih]

end Roster

/- Those without one of some addresses are removed. -/
theorem Action.program_removeOthers
    {emails : List Datum}
    (limits : Limits)
    (id : Datum)
    (hEmails : ∀ email ∈ emails, email.isText = true) :
    (Action.removeOthers id (.list emails)).program limits =
      (fun _ => Reply.nothing) <$>
        Roster.removeOthers limits.members id emails := by
  have hSet :
      (Datum.list emails).elementSet =
        .ok emails.eraseDups :=
    Datum.distinct_texts hEmails
  have hPass :
      Roster.removeEach id emails.eraseDups =
        Roster.removeEach id emails :=
    funext (Roster.removeEach_congr id
      (Datum.mem_eraseDups hEmails))
  simp only [program, hSet]
  change (fun _ => Reply.nothing) <$>
    Roster.removeOthers limits.members id _ = _
  unfold Roster.removeOthers
  rw [hPass]

end ChannelSync

------------------------------------------------------------
-- Where Removals Leave Off
------------------------------------------------------------

namespace ChannelSync

/- The users that a request is about, by their identifiers. -/
def Request.userIds : Request → List Datum
  | userById userId => [userId]
  | inviteMembers _ userIds => userIds
  | removeMember _ userId => [userId]
  | _ => []

open Program Workspace

variable {w : Workspace}
variable {id userId : Datum}
variable {emails : List Datum}

namespace Workspace

/- Who is dealt with is the only one concerned. -/
theorem userIds_of_visit
    {x : Exchange}
    (h : x ∈ w.visit id emails userId) :
    x.request.userIds = [userId] := by
  by_cases hStays : w.Welcomes emails userId
  · rw [visit_of_welcomes hStays] at h
    rw [List.mem_singleton.mp h]
    rfl
  · rw [visit_of_not_welcomes hStays] at h
    rcases List.mem_cons.mp h with rfl | hRemoval
    · rfl
    · rw [List.mem_singleton.mp hRemoval]
      rfl

/- So is who stops a pass. -/
theorem Halts.userIds
    {problem : Problem}
    {last : List Exchange}
    (h : w.Halts id emails userId problem last) :
    ∀ x ∈ last, x.request.userIds = [userId] := by
  cases h with
  | unanswered hProblem => simp [Request.userIds]
  | refused hUser hUnwelcome hProblem =>
      simp [Request.userIds]

end Workspace

namespace Roster

variable {limits : Limits}
variable {size : Nat}

/- Only pages are asked for when members are listed. -/
theorem pages_of_memberIds
    (limit id : Datum)
    (w : Workspace) :
    ∀ x ∈ ((Access.memberIds limit id).run
        remote w).exchanges,
      ∃ cursor, x.request = .memberPage id cursor limit := by
  have hAsks :
      (Access.memberIds limit id).Asks
        (fun request => ∃ cursor,
          request = .memberPage id cursor limit)
        (fun _ => True) :=
    Access.asks_memberIds limit id
      (fun cursor => ⟨cursor, rfl⟩) trivial
  exact hAsks.sends.requests w

/- So nobody is asked about there. -/
theorem userIds_of_memberIds
    (limit id : Datum)
    (w : Workspace) :
    ∀ x ∈ ((Access.memberIds limit id).run
        remote w).exchanges,
      x.request.userIds = [] := by
  intro x hx
  rcases pages_of_memberIds limit id w x hx with
    ⟨cursor, hPage⟩
  rw [hPage]
  rfl

/- A pass that stops asks nothing about those behind. -/
theorem later_not_asked
    {before later : List Datum}
    {problem : Problem}
    {listing last : List Exchange}
    (hNodup : (before ++ userId :: later).Nodup)
    (hListing : ∀ x ∈ listing, x.request.userIds = [])
    (hHalts : w.Halts id emails userId problem last) :
    ∀ x ∈ listing ++ before.flatMap (w.visit id emails) ++
        last,
      ∀ other ∈ later, other ∉ x.request.userIds := by
  rcases List.nodup_append.mp hNodup with
    ⟨-, hBehind, hApart⟩
  rcases List.nodup_cons.mp hBehind with ⟨hNew, -⟩
  intro x hx other hOther
  rcases List.mem_append.mp hx with hx | hLast
  · rcases List.mem_append.mp hx with hListed | hVisits
    · rw [hListing x hListed]
      exact List.not_mem_nil
    · rcases List.mem_flatMap.mp hVisits with
        ⟨member, hMember, hVisit⟩
      rw [userIds_of_visit hVisit, List.mem_singleton]
      exact fun hSame => hApart member hMember other
        (List.mem_cons_of_mem userId hOther) hSame.symm
  · rw [hHalts.userIds x hLast, List.mem_singleton]
    exact fun hSame => hNew (hSame ▸ hOther)

/- Without a listing nobody is removed. -/
theorem ends_removeOthers_of_unlisted
    (hEmails : ∀ email ∈ emails, email.isText = true)
    {problem : Problem}
    (h : ((Access.memberIds limits.members id).run
      remote w).result = .error problem) :
    ((Action.removeOthers id (.list emails)).program
        limits).Ends remote w (.error problem) w
      ((Access.memberIds limits.members id).run
        remote w).exchanges := by
  have hListing := ends_of_result h
  rw [state_of_reads (Access.reads_memberIds _ id) w]
    at hListing
  have hRemoval :
      (removeOthers limits.members id emails).Ends remote w
        (.error problem) w _ :=
    hListing.bind_error _
  rw [Action.program_removeOthers limits id hEmails]
  exact hRemoval.map fun _ => Reply.nothing

/- With one, the members on it are gone through. -/
theorem ends_removeOthers_of_listed
    (hw : w.WellTyped)
    (hDistinct : w.MembersDistinct)
    (hSize : 0 < size)
    (hLimit : limits.members = .number size)
    (hId : id.isText = true)
    (hEmails : ∀ email ∈ emails, email.isText = true)
    {ids : List Datum}
    (h : ((Access.memberIds limits.members id).run
      remote w).result = .ok ids) :
    ∃ room result left exchanges,
      w.channels.get? id = some room ∧
        room.members = ids ∧
        Pass w id emails ids result left exchanges ∧
        ((Action.removeOthers id (.list emails)).program
            limits).Ends remote w
          (result.map fun _ => .nothing)
          (w.putRoom id (room.withMembers left))
          (((Access.memberIds limits.members id).run
              remote w).exchanges ++ exchanges) := by
  have hListing := ends_of_result h
  rcases Access.room_of_listed hListing.returns with
    ⟨room, hFound⟩
  rw [Action.program_removeOthers limits id hEmails]
  rw [hLimit] at hListing ⊢
  rcases @removeOthers_pass _ _ id room emails ids _ _ hw
      hSize hId hFound (hDistinct.of_get? hId hFound)
      hListing with
    ⟨rfl, result, left, exchanges, hPass, hRemoval⟩
  exact ⟨room, result, left, exchanges, hFound, rfl, hPass,
    hRemoval.map fun _ => Reply.nothing⟩

/-
  The removals that get through leave those who are welcome.
  Those that stop at a member leave whoever is welcome before
  it, the member itself and everyone behind it, and ask
  nothing about the latter.  Where the members cannot be
  listed, nothing else is asked and nobody is removed.
-/
theorem removeOthers_exact
    (hReachable : w.Reachable)
    (hDistinct : w.MembersDistinct)
    (hSize : 0 < size)
    (hLimit : limits.members = .number size)
    (hId : id.isText = true)
    (hEmails : ∀ email ∈ emails, email.isText = true) :
    let listing :=
      (Access.memberIds limits.members id).run remote w
    let run :=
      ((Action.removeOthers id (.list emails)).program
        limits).run remote w
    (∀ reply, run.result = .ok reply →
      ∃ room, w.channels.get? id = some room ∧
        run.state = w.putRoom id
          (room.withMembers
            (room.members.filter fun userId =>
              w.Welcomes emails userId))) ∧
    (∀ ids problem, listing.result = .ok ids →
      run.result = .error problem →
        ∃ room before userId later last,
          w.channels.get? id = some room ∧
            room.members = ids ∧
            ids = before ++ userId :: later ∧
            run.state = w.putRoom id
              (room.withMembers
                ((before.filter fun other =>
                    w.Welcomes emails other) ++
                  userId :: later)) ∧
            w.Halts id emails userId problem last ∧
            run.exchanges = listing.exchanges ++
              before.flatMap (w.visit id emails) ++ last ∧
            ∀ x ∈ run.exchanges, ∀ other ∈ later,
              other ∉ x.request.userIds) ∧
    (∀ problem, listing.result = .error problem →
      run.result = .error problem ∧ run.state = w ∧
        ∀ x ∈ run.exchanges, ∃ cursor,
          x.request =
            .memberPage id cursor limits.members) := by
  intro listing run
  have hw := hReachable.wellTyped
  cases hResult : listing.result with
  | error problem =>
      have hEnds :=
        ends_removeOthers_of_unlisted hEmails hResult
      refine ⟨?_, ?_, ?_⟩
      · intro reply hReply
        cases hEnds.result_eq.symm.trans hReply
      · intro ids _ hIds
        cases hIds
      · intro problem' hProblem
        cases hProblem
        refine ⟨hEnds.result_eq, hEnds.state_eq, ?_⟩
        rw [hEnds.exchanges_eq]
        exact pages_of_memberIds limits.members id w
  | ok ids =>
      rcases ends_removeOthers_of_listed hw hDistinct hSize
          hLimit hId hEmails hResult with
        ⟨room, result, left, exchanges, hFound, hMembers,
          hPass, hEnds⟩
      cases hPass with
      | through hKnown =>
          refine ⟨fun _ _ => ⟨room, hFound, ?_⟩, ?_, ?_⟩
          · rw [hMembers]
            exact hEnds.state_eq
          · intro _ problem _ hProblem
            cases hEnds.result_eq.symm.trans hProblem
          · intro problem hProblem
            cases hProblem
      | @stopped before later userId stopping last hKnown
          hHalts =>
          have hNodup := hDistinct.of_get? hId hFound
          have hTrace := hEnds.exchanges_eq
          rw [hMembers] at hNodup
          rw [← List.append_assoc] at hTrace
          refine ⟨?_, ?_, ?_⟩
          · intro reply hReply
            cases hEnds.result_eq.symm.trans hReply
          · intro ids problem hIds hProblem
            cases hIds
            cases hEnds.result_eq.symm.trans hProblem
            refine ⟨room, before, userId, later, last, hFound,
              hMembers, rfl, hEnds.state_eq, hHalts, hTrace,
              ?_⟩
            rw [hTrace]
            exact later_not_asked hNodup
              (userIds_of_memberIds limits.members id w)
              hHalts
          · intro problem hProblem
            cases hProblem

end Roster

/- A channel with two members. -/
def Seed.pair : Seed :=
  { Seed.sample with
    members := .list [.text "U1", .text "U2"] }

/- The second of the two cannot be looked up. -/
def Workspace.halting : Workspace :=
  (Workspace.staff.addChannel Seed.pair).2.withFailures
    ⟨[(⟨.text "get_user_info", .text "U2"⟩,
      .single .remote "no" (.text "restricted") none)]⟩

theorem Workspace.reachable_halting :
    Workspace.halting.Reachable := by
  have hSeed : Seed.pair.WellTyped :=
    { name := rfl
      id := Or.inr rfl
      description := rfl
      topic := rfl
      isPrivate := rfl
      archived := rfl
      members := Or.inr ⟨_, rfl, by simp [Datum.isText]⟩ }
  exact (Reachable.addChannel reachable_staff hSeed).failing _

/- One member is removed, and the other one is still there. -/
theorem Roster.removeOthers_exact_sample :
    let w := Workspace.halting
    let listing :=
      (Access.memberIds Limits.sample.members
        (.text "C1")).run remote w
    let run :=
      ((Action.removeOthers (.text "C1") (.list [])).program
        Limits.sample).run remote w
    ∃ problem room before userId later last,
      w.channels.get? (.text "C1") = some room ∧
        room.members = [.text "U1", .text "U2"] ∧
        [.text "U1", .text "U2"] =
          before ++ userId :: later ∧
        run.state = w.putRoom (.text "C1")
          (room.withMembers
            ((before.filter fun other =>
                w.Welcomes [] other) ++
              userId :: later)) ∧
        w.Halts (.text "C1") [] userId problem last ∧
        run.exchanges = listing.exchanges ++
          before.flatMap (w.visit (.text "C1") []) ++
            last ∧
        ∀ x ∈ run.exchanges, ∀ other ∈ later,
          other ∉ x.request.userIds := by
  have hDistinct : Workspace.halting.MembersDistinct := by
    unfold Workspace.MembersDistinct
    decide
  have hSize : 0 < 1 := by decide
  exact ⟨_, (removeOthers_exact reachable_halting hDistinct
    hSize rfl rfl (by simp)).2.1 _
      (.failure
        (.single .remote "no" (.text "restricted") none))
      rfl rfl⟩

end ChannelSync
