import ChannelSync.Convergence
import ChannelSync.Proofs.Access.Requests
import ChannelSync.Proofs.Workspace.Directory

/-
  What the removals do.

  A removal takes away a member who is not welcome, and
  nobody else.  When the removals are through, everyone on
  their list was looked up, and whoever was not welcome is
  no member any more.

  The last part needs that no member is listed twice in the
  room, since a removal takes one entry only.

  Key theorems include:
    * `Roster.preserves_removeEach`
    * `Roster.removeEach_returned`
    * `Roster.removeEach_returns`
-/

namespace ChannelSync

namespace Roster

open Program Workspace

variable {w after : Workspace}
variable {id : Datum}
variable {room : Room}
variable {emails userIds : List Datum}

/- A listed member is looked up and removed, or is welcome. -/
theorem removeEach_cons
    (hw : w.WellTyped)
    {userId : Datum}
    (hUserId : userId.isText = true)
    (rest : List Datum) :
    (removeEach id emails (userId :: rest)).Returns remote
        (w.putRoom id room) () after ↔
      ∃ user : User,
        (w.answer (.userById userId)).1 = .ok user ∧
          ((user.Welcome emails ∧
              (removeEach id emails rest).Returns remote
                (w.putRoom id room) () after) ∨
            (¬ user.Welcome emails ∧
              ∃ middle,
                (Access.remove id userId).Returns remote
                    (w.putRoom id room) () middle ∧
                  (removeEach id emails rest).Returns remote
                    middle () after)) := by
  have hAllowed :
      ∀ user : User,
        (w.answer (.userById userId)).1 = .ok user →
          Drift.allowed emails user =
            .ok (decide (user.Welcome emails)) :=
    fun user h => Drift.allowed_eq (hw.user_of_get? hUserId
      (get?_of_answer hUserId h)).1 _
  simp only [removeEach, returns_bind,
    Access.returns_userById, returns_lift,
    answer_userById_putRoom]
  constructor
  · intro h
    rcases h with
      ⟨user, _, ⟨hUser, rfl⟩, verdict, _, ⟨hVerdict, rfl⟩, h⟩
    rw [hAllowed user hUser] at hVerdict
    cases hVerdict
    refine ⟨user, hUser, ?_⟩
    by_cases hWelcome : user.Welcome emails
    · simp only [hWelcome, decide_true, if_true] at h
      exact Or.inl ⟨hWelcome, h⟩
    · simp only [hWelcome, decide_false,
        Bool.false_eq_true, if_false, returns_bind,
        returns_record, returns_reporting] at h
      rcases h with ⟨_, _, rfl, _, middle, hRemoved, hRest⟩
      exact Or.inr ⟨hWelcome, middle, hRemoved, hRest⟩
  · intro h
    rcases h with
      ⟨user, hUser, ⟨hWelcome, h⟩ | ⟨hWelcome, middle,
        hRemoved, hRest⟩⟩
    · refine ⟨user, _, ⟨hUser, rfl⟩, true, _, ⟨?_, rfl⟩, h⟩
      rw [hAllowed user hUser]
      simp [hWelcome]
    · refine ⟨user, _, ⟨hUser, rfl⟩, false, _, ⟨?_, rfl⟩, ?_⟩
      · rw [hAllowed user hUser]
        simp [hWelcome]
      · simp only [Bool.false_eq_true, if_false,
          returns_bind, returns_record, returns_reporting]
        exact ⟨(), _, rfl, (), middle, hRemoved, hRest⟩

/- Removals keep what everyone removed leaves true. -/
theorem preserves_removeEach
    {P : Room → Prop}
    (hw : w.WellTyped)
    (hId : id.isText = true)
    (hUserIds : ∀ userId ∈ userIds, userId.isText = true)
    (hErase :
      ∀ room, ∀ userId ∈ userIds, P room →
        ¬ w.Welcomes emails userId →
          P (room.withMembers (room.members.erase userId))) :
    (removeEach id emails userIds).Preserves remote
      (w.Holding id P) := by
  induction userIds with
  | nil => exact preserves_done _
  | cons userId rest ih =>
      have hUserId := hUserIds userId (by simp)
      have hRest :=
        ih (fun u hu => hUserIds u (by simp [hu]))
          fun room u hu => hErase room u (by simp [hu])
      have hReads := Access.reads_userById userId
      refine (preserves_of_reads hReads).bind
        fun s user hHolding hFound => ?_
      rcases hHolding with ⟨room, rfl, -⟩
      rcases Access.returns_userById.mp ⟨hFound, rfl⟩ with
        ⟨hUser, -⟩
      rw [answer_userById_putRoom] at hUser
      have hKnown := get?_of_answer hUserId hUser
      have hTyped := (hw.user_of_get? hUserId hKnown).1
      rw [Drift.allowed_eq hTyped]
      by_cases hWelcome : user.Welcome emails
      · simp only [hWelcome, decide_true]
        refine (preserves_lift _).bind
          fun _ verdict _ hTrue => ?_
        cases hTrue
        exact hRest
      · have hUnwelcome : ¬ w.Welcomes emails userId := by
          intro h
          rcases h with ⟨user', hKnown', hWelcome'⟩
          rw [hKnown] at hKnown'
          cases hKnown'
          exact hWelcome hWelcome'
        have hRemove :
            (Access.remove id userId).Preserves remote
              (w.Holding id P) :=
          preserves_of_edits
            (fun room =>
              Access.edits_remove hId hUserId w room)
            fun room _ hRoom =>
              hErase room userId (by simp) hRoom hUnwelcome
        simp only [hWelcome, decide_false]
        refine (preserves_lift _).bind
          fun _ verdict _ hFalse => ?_
        cases hFalse
        exact (preserves_record _).bind fun _ _ _ _ =>
          hRemove.reporting.bind fun _ _ _ _ => hRest

/- Whoever is no member is none after the removals. -/
theorem preserves_absent_removeEach
    (hw : w.WellTyped)
    (hId : id.isText = true)
    (hUserIds : ∀ userId ∈ userIds, userId.isText = true)
    (userId : Datum) :
    (removeEach id emails userIds).Preserves remote
      (w.Holding id fun room => userId ∉ room.members) :=
  preserves_removeEach hw hId hUserIds
    fun _ _ _ hAbsent _ hMem =>
      hAbsent (List.mem_of_mem_erase hMem)

/- A welcome member is still one after the removals. -/
theorem preserves_member_removeEach
    (hw : w.WellTyped)
    (hId : id.isText = true)
    (hUserIds : ∀ userId ∈ userIds, userId.isText = true)
    {userId : Datum}
    (hWelcome : w.Welcomes emails userId) :
    (removeEach id emails userIds).Preserves remote
      (w.Holding id fun room => userId ∈ room.members) := by
  apply preserves_removeEach hw hId hUserIds
  intro room other hOther hMember hUnwelcome
  apply Datum.mem_erase_of_ne (hUserIds other hOther) _
    hMember
  intro hSame
  exact hUnwelcome (hSame ▸ hWelcome)

/-
  When the removals are through, everyone on their list was
  looked up, and is welcome or no member any more.
-/
theorem removeEach_returned
    (hw : w.WellTyped)
    (hId : id.isText = true)
    (hUserIds : ∀ userId ∈ userIds, userId.isText = true)
    (h : (removeEach id emails userIds).Returns remote
      (w.putRoom id room) () after) :
    ∀ userId ∈ userIds, ∃ user : User,
      (w.answer (.userById userId)).1 = .ok user ∧
        (room.members.Nodup →
          user.Welcome emails ∨
            w.Holding id (fun room =>
              userId ∉ room.members) after) := by
  induction userIds generalizing room with
  | nil => simp
  | cons userId rest ih =>
      have hUserId := hUserIds userId (by simp)
      have hOthers : ∀ u ∈ rest, u.isText = true :=
        fun u hu => hUserIds u (by simp [hu])
      rcases (removeEach_cons hw hUserId rest).mp h with
        ⟨user, hUser, ⟨hWelcome, hRest⟩ | ⟨-, middle,
          hRemoved, hRest⟩⟩
      · exact List.forall_mem_cons.mpr
          ⟨⟨user, hUser, fun _ => Or.inl hWelcome⟩,
            ih hOthers hRest⟩
      · rcases Access.remove_returned hId hUserId hRemoved
          with ⟨-, rfl⟩
        have hFirst :
            room.members.Nodup →
              w.Holding id (fun room =>
                userId ∉ room.members) after := by
          intro hNodup
          refine (preserves_absent_removeEach hw hId hOthers
            userId).holds hRest.ends
              (holding_putRoom.mpr ?_)
          exact Datum.not_mem_erase hUserId hNodup
        refine List.forall_mem_cons.mpr
          ⟨⟨user, hUser, fun hNodup => Or.inr (hFirst hNodup)⟩,
            fun other hOther => ?_⟩
        rcases ih hOthers hRest other hOther with
          ⟨user', hUser', hGone⟩
        exact ⟨user', hUser', fun hNodup =>
          hGone (hNodup.sublist List.erase_sublist)⟩

/- Known members without repetitions can be gone through. -/
theorem removeEach_returns
    (hOpen : w.failures.entries = [])
    (hw : w.WellTyped)
    (hId : id.isText = true)
    (hUserIds : ∀ userId ∈ userIds, userId.isText = true)
    (hKnown :
      ∀ userId ∈ userIds, ∃ user,
        w.users.get? userId = some user)
    (hDistinct : userIds.Nodup)
    (hNodup : room.members.Nodup)
    (hMembers : ∀ userId ∈ userIds, userId ∈ room.members) :
    ∃ room',
      (removeEach id emails userIds).Returns remote
        (w.putRoom id room) () (w.putRoom id room') := by
  induction userIds generalizing room with
  | nil => exact ⟨room, returns_pure_self⟩
  | cons userId rest ih =>
      have hUserId := hUserIds userId (by simp)
      have hOthers : ∀ u ∈ rest, u.isText = true :=
        fun u hu => hUserIds u (by simp [hu])
      have hOthersKnown :
          ∀ u ∈ rest, ∃ user, w.users.get? u = some user :=
        fun u hu => hKnown u (by simp [hu])
      rw [List.nodup_cons] at hDistinct
      rcases hKnown userId (by simp) with ⟨user, hUser⟩
      have hAnswer :=
        answer_userById_of_no_failures hOpen hUserId hUser
      by_cases hWelcome : user.Welcome emails
      · rcases ih hOthers hOthersKnown hDistinct.2 hNodup
            fun u hu => hMembers u (by simp [hu]) with
          ⟨room', hRest⟩
        exact ⟨room', (removeEach_cons hw hUserId rest).mpr
          ⟨user, hAnswer, Or.inl ⟨hWelcome, hRest⟩⟩⟩
      · have hTyped :
            (Request.removeMember id userId).WellTyped :=
          ⟨hId, hUserId⟩
        have hRefusal :
            (w.refusal (.removeMember id userId)).bind
                (fun _ =>
                  if userId ∈ room.members then .ok ()
                  else .error (.failure Refusal.notMember)) =
              .ok () := by
          rw [refusal_of_no_failures hOpen hTyped]
          simp [Except.bind, hMembers]
        have hEdits := Access.edits_remove hId hUserId w room
        rcases hEdits.returns hRefusal with ⟨_, hRemoved⟩
        have hRemaining :
            ∀ u ∈ rest, u ∈ room.members.erase userId := by
          intro u hu
          refine Datum.mem_erase_of_ne hUserId ?_
            (hMembers u (by simp [hu]))
          intro hSame
          subst hSame
          exact hDistinct.1 hu
        rcases @ih
            (room.withMembers (room.members.erase userId))
            hOthers hOthersKnown hDistinct.2
            (hNodup.sublist List.erase_sublist)
            hRemaining with
          ⟨room', hRest⟩
        exact ⟨room', (removeEach_cons hw hUserId rest).mpr
          ⟨user, hAnswer,
            Or.inr ⟨hWelcome, _, hRemoved, hRest⟩⟩⟩

end Roster

end ChannelSync
