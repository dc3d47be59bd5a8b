import ChannelSync.Proofs.Reconciliation.Retry

/-
  What a reconciliation leaves alone.

  A run changes the room of its channel and nothing else,
  wherever it is cut off.  In that room the identifier and
  the privacy stay.  Of the members some may have left, none
  of them welcome; the others keep their order, and whoever
  is new comes after them.

  The operations that only look leave everything alone.

  Key definitions include:
    * `Workspace.Turnover`
    * `Workspace.Adapts`
    * `Workspace.Framed`

  Key theorems include:
    * `converge_adapts`
    * `reconcile_framed`
-/

------------------------------------------------------------
-- Operations That Only Look
------------------------------------------------------------

namespace ChannelSync

open Program

/- Checking a channel sends no request for a change. -/
theorem reads_check
    (limits : Limits)
    (desired : Desired)
    (id : Datum) :
    (check limits desired id).Reads :=
  (Access.reads_fetch limits.members id).bind
    fun observed => Drift.reads_detected desired observed

/- Neither does adopting one. -/
theorem reads_adopt
    (limits : Limits)
    (name : Datum) :
    (adopt limits name).Reads := by
  refine (reads_findByName limits.channels name).bind
    fun channel => ?_
  refine (Access.reads_fetch limits.members channel.id).bind
    fun observed => ?_
  cases project observed <;> trivial

end ChannelSync

------------------------------------------------------------
-- Members Old and New
------------------------------------------------------------

namespace ChannelSync

namespace Workspace

/-
  Members of a channel that were kept, and members that were
  added: none of the welcome ones has left, the kept ones
  are in their old order, and those who are new are users
  whom an address stands for.
-/
structure Turnover
    (w : Workspace)
    (emails members kept added : List Datum) :
    Prop where
  order : kept.Sublist members
  welcome :
    ∀ userId ∈ members, w.Welcomes emails userId →
      userId ∈ kept
  fresh : ∀ userId ∈ added, userId ∉ members
  invited : ∀ userId ∈ added, w.Invites emails userId
  distinct : added.Nodup

variable {w : Workspace}
variable {emails members kept added : List Datum}
variable {userId : Datum}

/- At first all members are kept. -/
theorem turnover_self
    (w : Workspace)
    (emails members : List Datum) :
    w.Turnover emails members members [] where
  order := List.Sublist.refl members
  welcome := fun _ hMember _ => hMember
  fresh := by simp
  invited := by simp
  distinct := List.nodup_nil

/- Somebody who is invited comes last. -/
theorem Turnover.add
    (h : w.Turnover emails members kept added)
    (hWelcome : w.Welcomes emails userId)
    (hInvited : w.Invites emails userId)
    (hNew : userId ∉ kept ++ added) :
    w.Turnover emails members kept (added ++ [userId]) where
  order := h.order
  welcome := h.welcome
  fresh := by
    intro other hOther
    rcases List.mem_append.mp hOther with hOld | hAdded
    · exact h.fresh other hOld
    · rw [List.mem_singleton] at hAdded
      subst hAdded
      -- A welcome member would have been kept.
      exact fun hMember =>
        hNew (List.mem_append_left _
          (h.welcome other hMember hWelcome))
  invited := by
    intro other hOther
    rcases List.mem_append.mp hOther with hOld | hAdded
    · exact h.invited other hOld
    · rw [List.mem_singleton] at hAdded
      exact hAdded ▸ hInvited
  distinct := by
    rw [List.nodup_append]
    refine ⟨h.distinct, by simp, ?_⟩
    intro other hOther last hLast hSame
    rw [List.mem_singleton] at hLast
    subst hSame
    subst hLast
    exact hNew (List.mem_append_right _ hOther)

/-
  Somebody who is removed is not one of those that were
  added, because they are welcome.
-/
theorem Turnover.erase
    (h : w.Turnover emails members kept added)
    (hAdded : ∀ other ∈ added, w.Welcomes emails other)
    (hUserId : userId.isText = true)
    (hUnwelcome : ¬ w.Welcomes emails userId) :
    (kept ++ added).erase userId =
        kept.erase userId ++ added ∧
      w.Turnover emails members (kept.erase userId) added := by
  have hAbsent : userId ∉ added :=
    fun hMember => hUnwelcome (hAdded userId hMember)
  refine ⟨Datum.erase_append_of_not_mem hUserId hAbsent, ?_⟩
  exact
    { order := List.erase_sublist.trans h.order
      welcome := by
        intro other hMember hWelcome
        refine Datum.mem_erase_of_ne hUserId ?_
          (h.welcome other hMember hWelcome)
        intro hSame
        subst hSame
        exact hUnwelcome hWelcome
      fresh := h.fresh
      invited := h.invited
      distinct := h.distinct }

end Workspace

end ChannelSync

------------------------------------------------------------
-- The Room of the Channel
------------------------------------------------------------

namespace ChannelSync

namespace Workspace

/- What a channel becomes that is being brought in line. -/
structure Adapts
    (w : Workspace)
    (emails : List Datum)
    (room room' : Room) :
    Prop where
  id : room'.state.id = room.state.id
  isPrivate : room'.state.isPrivate = room.state.isPrivate
  members :
    ∃ kept added, room'.members = kept ++ added ∧
      w.Turnover emails room.members kept added

variable {w : Workspace}
variable {emails : List Datum}
variable {room room' : Room}
variable {userId : Datum}

/- Nothing has changed yet. -/
theorem adapts_self
    (w : Workspace)
    (emails : List Datum)
    (room : Room) :
    w.Adapts emails room room where
  id := rfl
  isPrivate := rfl
  members :=
    ⟨room.members, [], (List.append_nil _).symm,
      turnover_self w emails room.members⟩

/- Other attributes may change. -/
theorem Adapts.edit
    (h : w.Adapts emails room room')
    {change : Observed → Observed}
    (hId : (change room'.state).id = room'.state.id)
    (hPrivate :
      (change room'.state).isPrivate =
        room'.state.isPrivate) :
    w.Adapts emails room (room'.edit change) where
  id := hId.trans h.id
  isPrivate := hPrivate.trans h.isPrivate
  members := h.members

/- Somebody may be invited. -/
theorem Adapts.add_member
    (h : w.Adapts emails room room')
    (hWelcome : w.Welcomes emails userId)
    (hInvited : w.Invites emails userId)
    (hNew : userId ∉ room'.members) :
    w.Adapts emails room
      (room'.withMembers (room'.members ++ [userId])) where
  id := h.id
  isPrivate := h.isPrivate
  members := by
    rcases h.members with ⟨kept, added, hMembers, hTurnover⟩
    rw [hMembers] at hNew
    refine ⟨kept, added ++ [userId], ?_,
      hTurnover.add hWelcome hInvited hNew⟩
    simp [Room.withMembers, hMembers]

/- Somebody who is not welcome may be removed. -/
theorem Adapts.erase_member
    (h : w.Adapts emails room room')
    (hw : w.WellTyped)
    (hEmails : ∀ email ∈ emails, email.isText = true)
    (hUserId : userId.isText = true)
    (hUnwelcome : ¬ w.Welcomes emails userId) :
    w.Adapts emails room
      (room'.withMembers (room'.members.erase userId)) where
  id := h.id
  isPrivate := h.isPrivate
  members := by
    rcases h.members with ⟨kept, added, hMembers, hTurnover⟩
    have hAdded :
        ∀ other ∈ added, w.Welcomes emails other :=
      fun other hOther =>
        hw.welcomes_of_invites hEmails
          (hTurnover.invited other hOther)
    rcases hTurnover.erase hAdded hUserId hUnwelcome with
      ⟨hErased, hKept⟩
    refine ⟨kept.erase userId, added, ?_, hKept⟩
    exact (congrArg (List.erase · userId) hMembers).trans
      hErased

end Workspace

open Program Workspace

variable {w : Workspace}
variable {limits : Limits}
variable {desired : Desired}
variable {id : Datum}
variable {room : Room}

/- Wherever a run ends, only the room has been adapted. -/
theorem converge_adapts
    (hLimits : limits.Positive)
    (hw : w.WellTyped)
    (hId : id.isText = true)
    (hDesired : desired.WellTyped)
    (hRoom : room.WellTyped) :
    w.Holding id (w.Adapts desired.members room)
      ((converge limits desired id).run remote
        (w.putRoom id room)).state := by
  have hPreserves :
      (converge limits desired id).Preserves remote
        (w.Holding id fun room' =>
          room'.WellTyped ∧
            w.Adapts desired.members room room') := by
    apply preserves_converge hLimits hw hId hDesired
    · intro room' h
      exact h.1
    · intro room' h
      exact ⟨h.1.active, h.2.edit rfl rfl⟩
    · intro room' h
      exact ⟨h.1.edit
        (h.1.state.showName hDesired.name) rfl,
        h.2.edit rfl rfl⟩
    · intro room' h
      exact ⟨h.1.edit
        (h.1.state.showTopic hDesired.topic) rfl,
        h.2.edit rfl rfl⟩
    · intro room' h
      exact ⟨h.1.edit
        (h.1.state.showDescription hDesired.description) rfl,
        h.2.edit rfl rfl⟩
    · intro room' userId h hInvited hNew
      have hText :=
        hw.isText_of_invites hDesired.members hInvited
      have hWelcome :=
        hw.welcomes_of_invites hDesired.members hInvited
      exact ⟨h.1.add_member hText,
        h.2.add_member hWelcome hInvited hNew⟩
    · intro room' userId h hText hUnwelcome
      exact ⟨h.1.erase_member userId,
        h.2.erase_member hw hDesired.members hText
          hUnwelcome⟩
  rcases hPreserves _
      (holding_putRoom.mpr
        ⟨hRoom, adapts_self w desired.members room⟩) with
    ⟨room', hState, -, hAdapts⟩
  exact ⟨room', hState, hAdapts⟩

end ChannelSync

------------------------------------------------------------
-- The Frame
------------------------------------------------------------

namespace ChannelSync

/-
  A workspace after something that was to bring one channel
  in line: everything else is as it was, and the channel, if
  there is one, has been adapted.
-/
structure Workspace.Framed
    (w : Workspace)
    (emails : List Datum)
    (id : Datum)
    (after : Workspace) :
    Prop where
  botId : after.botId = w.botId
  users : after.users = w.users
  failures : after.failures = w.failures
  numbered : after.numbered = w.numbered
  keys : after.channels.keys = w.channels.keys
  others :
    ∀ other, other ≠ id →
      after.channels.get? other = w.channels.get? other
  missing : w.channels.get? id = none → after = w
  target :
    ∀ room, w.channels.get? id = some room →
      ∃ room', after.channels.get? id = some room' ∧
        w.Adapts emails room room'

open Program Workspace

variable {w : Workspace}
variable {limits : Limits}
variable {desired : Desired}
variable {id : Datum}
variable {room : Room}

/- A workspace that was left alone is framed. -/
theorem Workspace.framed_self
    (w : Workspace)
    (emails : List Datum)
    (id : Datum) :
    w.Framed emails id w where
  botId := rfl
  users := rfl
  failures := rfl
  numbered := rfl
  keys := rfl
  others := fun _ _ => rfl
  missing := fun _ => rfl
  target := fun room hRoom =>
    ⟨room, hRoom, adapts_self w emails room⟩

/- So is one in which only the room has been adapted. -/
theorem Workspace.framed_putRoom
    (hId : id.isText = true)
    (hFound : w.channels.get? id = some room)
    {emails : List Datum}
    {room' : Room}
    (h : w.Adapts emails room room') :
    w.Framed emails id (w.putRoom id room') where
  botId := rfl
  users := rfl
  failures := rfl
  numbered := rfl
  keys := by
    calc
      (w.channels.insert id room').keys =
          (w.channels.insert id room).keys :=
        Table.keys_insert_congr w.channels id room' room
      _ = w.channels.keys := by
        rw [Table.insert_of_get? hFound]
  others := by
    intro other hOther
    apply Table.get?_insert_of_ne
    rw [Datum.beq_eq_decide' hId]
    simp [hOther]
  missing := by
    intro hNone
    rw [hFound] at hNone
    cases hNone
  target := by
    intro found hRoom
    rw [hFound] at hRoom
    cases hRoom
    exact ⟨room', get?_putRoom w id room', h⟩

/- A channel that is missing cannot be fetched. -/
theorem not_returns_fetch
    (hId : id.isText = true)
    (hMissing : w.channels.get? id = none)
    {limit : Datum}
    {observed : Observed}
    {after : Workspace} :
    ¬ (Access.fetch limit id).Returns remote w observed
      after := by
  intro h
  rcases returns_bind.mp h with ⟨info, _, hInfo, -⟩
  have hAnswer := (Access.returns_info.mp hInfo).1
  simp only [answer] at hAnswer
  split at hAnswer
  · cases hAnswer
  · simp [grant, Workspace.room, hMissing,
      Datum.isAtom_of_isText hId, Except.map] at hAnswer

/- Without the channel nothing is changed. -/
theorem converge_of_missing
    (hId : id.isText = true)
    (hMissing : w.channels.get? id = none) :
    ((converge limits desired id).run remote w).state =
      w := by
  have hEnds :=
    ends_run remote (converge limits desired id) w
  rcases ends_bind.mp hEnds with
    ⟨problem, hFailed, -⟩ | ⟨_, _, _, _, hFetched, -⟩
  · rcases ends_bind.mp hFailed with
      ⟨problem', hRefused, -⟩ | ⟨_, _, _, _, hFirst, -⟩
    · exact hRefused.state_eq.symm.trans
        (state_of_reads
          (Access.reads_fetch limits.members id) w)
    · exact absurd hFirst.returns
        (not_returns_fetch hId hMissing)
  · rcases returns_bind.mp hFetched.returns with
      ⟨_, _, hFirst, -⟩
    exact absurd hFirst (not_returns_fetch hId hMissing)

/-
  A reconciliation of a given channel changes that channel
  only, however it ends; and the operations that look at
  channels change nothing.
-/
theorem reconcile_framed
    (hReachable : w.Reachable)
    (hLimits : limits.Positive)
    (hDesired : desired.WellTyped)
    (hId : id.isText = true) :
    w.Framed desired.members id
        ((reconcile limits desired (some id)).run remote
          w).state ∧
      (∀ limits desired id,
        ((check limits desired id).run remote w).state =
          w) ∧
      (∀ limits name,
        ((adopt limits name).run remote w).state = w) ∧
      (∀ limit name,
        ((findByName limit name).run remote w).state = w) ∧
      (∀ limit id,
        ((Access.fetch limit id).run remote w).state = w) ∧
      (∀ desired observed,
        ((Drift.detected desired observed).run remote
          w).state = w) ∧
      (∀ desired observed,
        ((Drift.membershipDiffers desired observed).run
          remote w).state = w) := by
  have hw := hReachable.wellTyped
  refine ⟨?_,
    fun limits desired id =>
      state_of_reads (reads_check limits desired id) w,
    fun limits name =>
      state_of_reads (reads_adopt limits name) w,
    fun limit name =>
      state_of_reads (reads_findByName limit name) w,
    fun limit id =>
      state_of_reads (Access.reads_fetch limit id) w,
    fun desired observed =>
      state_of_reads (Drift.reads_detected desired observed)
        w,
    fun desired observed =>
      state_of_reads
        (Drift.reads_membershipDiffers desired observed) w⟩
  cases hInvalid : desired.invalid? with
  | some failure =>
      have hState :
          ((reconcile limits desired (some id)).run remote
            w).state = w := by
        simp only [reconcile, validate, hInvalid]
        rfl
      rw [hState]
      exact framed_self w desired.members id
  | none =>
      have hState :
          ((reconcile limits desired (some id)).run remote
              w).state =
            ((converge limits desired id).run remote
              w).state := by
        simp only [reconcile, validate, hInvalid]
        rfl
      rw [hState]
      cases hFound : w.channels.get? id with
      | none =>
          rw [converge_of_missing hId hFound]
          exact framed_self w desired.members id
      | some room =>
          have hRoom := hw.room_of_get? hId hFound
          have hHolding :=
            converge_adapts hLimits hw hId hDesired hRoom
          rw [putRoom_of_get? hFound] at hHolding
          rcases hHolding with ⟨room', hAfter, hAdapts⟩
          rw [hAfter]
          exact framed_putRoom hId hFound hAdapts

/- One user cannot be invited, and the other has to leave. -/
theorem reconcile_framed_sample :
    (Workspace.sample.withFailures
        Workspace.sampleFailures).Framed
      Desired.sample.members (.text "C1")
      ((reconcile Limits.sample Desired.sample
        (some (.text "C1"))).run remote
          (Workspace.sample.withFailures
            Workspace.sampleFailures)).state :=
  (reconcile_framed
    (reachable_sample.failing Workspace.sampleFailures)
    Limits.positive_sample Desired.wellTyped_sample rfl).1

end ChannelSync
