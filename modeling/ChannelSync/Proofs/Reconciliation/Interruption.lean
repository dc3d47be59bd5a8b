import ChannelSync.Proofs.Reconciliation.Course

/-
  What a reconciliation leaves behind that is cut off.

  Wherever a run ends, the channel is on the way from where
  it started to where it was to go: each attribute is as it
  was or as it will be, everyone who is welcome is still a
  member, and only invited users are new.  From any place on
  that way a run that is not cut off goes to the same end.

  Key definitions include:
    * `Workspace.Between`
    * `Observed.Matches`

  Key theorems include:
    * `converge_between`
    * `Workspace.Between.ready`
    * `Workspace.Between.same_members`
    * `converge_again`
-/

------------------------------------------------------------
-- Attributes on the Way
------------------------------------------------------------

namespace ChannelSync

namespace Desired

variable {desired : Desired}

/- Showing the name first makes no difference in the end. -/
theorem settle_showName
    (state : Observed) :
    desired.settle (state.showName desired.name) =
      desired.settle state := by
  simp only [settle, Observed.showName,
    Datum.aligned_aligned]

/- Showing the topic first makes no difference in the end. -/
theorem settle_showTopic
    (state : Observed) :
    desired.settle (state.showTopic desired.topic) =
      desired.settle state := by
  simp only [settle, Observed.showName, Observed.showTopic,
    Datum.aligned_aligned]

/-
  Showing the description first makes no difference in the
  end.
-/
theorem settle_showDescription
    (state : Observed) :
    desired.settle
        (state.showDescription desired.description) =
      desired.settle state := by
  simp only [settle, Observed.showName, Observed.showTopic,
    Observed.showDescription, Datum.aligned_aligned]

end Desired

/- An aligned text is readable if both its sources are. -/
theorem Datum.readable_aligned
    {stored declared replacement : Datum}
    (hStored : ∃ shown, stored.unescaped = .ok shown)
    (hReplacement :
      ∃ shown, replacement.unescaped = .ok shown) :
    ∃ shown,
      (stored.aligned declared replacement).unescaped =
        .ok shown := by
  unfold aligned
  split
  · exact hStored
  · exact hReplacement

namespace Workspace

variable {w : Workspace}
variable {desired : Desired}
variable {id : Datum}
variable {state : Observed}

/- A name that is aligned may still be aligned. -/
theorem Settleable.showName
    (h : w.Settleable desired id state)
    (hName : ∃ shown, desired.name.unescaped = .ok shown) :
    w.Settleable desired id
      (state.showName desired.name) where
  name := Datum.readable_aligned h.name hName
  topic := h.topic
  description := h.description
  free := by
    rcases Datum.aligned_cases state.name desired.name
      desired.name with ⟨hShows, hSame⟩ | ⟨hHidden, -⟩
    · apply Or.inl
      simpa only [Observed.showName, hSame] using hShows
    · refine Or.inr (h.free.resolve_left ?_)
      simp [hHidden]

/- So it is with the topic. -/
theorem Settleable.showTopic
    (h : w.Settleable desired id state)
    (hTopic : desired.topic.isText = true) :
    w.Settleable desired id
      (state.showTopic desired.topic) where
  name := h.name
  topic := Datum.readable_aligned h.topic
    ⟨_, Datum.unescaped_storedForm hTopic⟩
  description := h.description
  free := h.free

/- So it is with the description. -/
theorem Settleable.showDescription
    (h : w.Settleable desired id state)
    (hDescription : desired.description.isText = true) :
    w.Settleable desired id
      (state.showDescription desired.description) where
  name := h.name
  topic := h.topic
  description := Datum.readable_aligned h.description
    ⟨_, Datum.unescaped_storedForm hDescription⟩
  free := h.free

end Workspace

end ChannelSync

------------------------------------------------------------
-- Channels on the Way
------------------------------------------------------------

namespace ChannelSync

/-
  A channel on the way from where it was to where it is to
  go.
-/
structure Workspace.Between
    (w : Workspace)
    (desired : Desired)
    (id : Datum)
    (room room' : Room) :
    Prop where
  typed : room'.WellTyped
  /- The attributes are going to be the same. -/
  settled :
    desired.settle room'.active.state =
      desired.settle room.active.state
  /- A name that is the declared one stays. -/
  named :
    room.state.name = desired.name →
      room'.state.name = desired.name
  settleable : w.Settleable desired id room'.state
  shifts :
    w.Shifts desired.members room.members room'.members

namespace Workspace

variable {w : Workspace}
variable {desired : Desired}
variable {id userId : Datum}
variable {room room' : Room}

/- The way starts where the channel is. -/
theorem between_self
    (hRoom : room.WellTyped)
    (hNodup : room.members.Nodup)
    (h : w.Settleable desired id room.state) :
    w.Between desired id room room where
  typed := hRoom
  settled := rfl
  named := fun hName => hName
  settleable := h
  shifts := shifts_self hNodup

/- Taking the channel out of the archive keeps it on it. -/
theorem Between.active
    (h : w.Between desired id room room') :
    w.Between desired id room room'.active where
  typed := h.typed.active
  settled := h.settled
  named := h.named
  settleable := settleable_active.mpr h.settleable
  shifts := h.shifts

/- Setting the name keeps it on the way. -/
theorem Between.showName
    (h : w.Between desired id room room')
    (hDesired : desired.WellTyped)
    (hName : ∃ shown, desired.name.unescaped = .ok shown) :
    w.Between desired id room
      (room'.edit (Observed.showName desired.name)) where
  typed := h.typed.edit
    (h.typed.state.showName hDesired.name) rfl
  settled :=
    (Desired.settle_showName room'.active.state).trans
      h.settled
  named := by
    intro hSame
    have hOld := h.named hSame
    rcases Datum.aligned_cases room'.state.name desired.name
      desired.name with ⟨-, hKept⟩ | ⟨-, hSet⟩
    · exact hKept.trans hOld
    · exact hSet
  settleable := h.settleable.showName hName
  shifts := h.shifts

/- Setting the topic keeps it on the way. -/
theorem Between.showTopic
    (h : w.Between desired id room room')
    (hDesired : desired.WellTyped) :
    w.Between desired id room
      (room'.edit (Observed.showTopic desired.topic)) where
  typed := h.typed.edit
    (h.typed.state.showTopic hDesired.topic) rfl
  settled :=
    (Desired.settle_showTopic room'.active.state).trans
      h.settled
  named := h.named
  settleable := h.settleable.showTopic hDesired.topic
  shifts := h.shifts

/- Setting the description keeps it on the way. -/
theorem Between.showDescription
    (h : w.Between desired id room room')
    (hDesired : desired.WellTyped) :
    w.Between desired id room
      (room'.edit
        (Observed.showDescription
          desired.description)) where
  typed := h.typed.edit
    (h.typed.state.showDescription hDesired.description) rfl
  settled :=
    (Desired.settle_showDescription
      room'.active.state).trans h.settled
  named := h.named
  settleable :=
    h.settleable.showDescription hDesired.description
  shifts := h.shifts

/- Inviting a declared member keeps it on the way. -/
theorem Between.add_member
    (h : w.Between desired id room room')
    (hw : w.WellTyped)
    (hDesired : desired.WellTyped)
    (hInvited : w.Invites desired.members userId)
    (hNew : userId ∉ room'.members) :
    w.Between desired id room
      (room'.withMembers (room'.members ++ [userId])) where
  typed := h.typed.add_member
    (hw.isText_of_invites hDesired.members hInvited)
  settled := h.settled
  named := h.named
  settleable := h.settleable
  shifts := h.shifts.add hInvited hNew

/- Removing somebody unwelcome keeps it on the way. -/
theorem Between.erase_member
    (h : w.Between desired id room room')
    (hUserId : userId.isText = true)
    (hUnwelcome : ¬ w.Welcomes desired.members userId) :
    w.Between desired id room
      (room'.withMembers (room'.members.erase userId)) where
  typed := h.typed.erase_member userId
  settled := h.settled
  named := h.named
  settleable := h.settleable
  shifts := h.shifts.erase hUserId hUnwelcome

end Workspace

open Program Workspace

variable {w : Workspace}
variable {limits : Limits}
variable {desired : Desired}
variable {id : Datum}
variable {room : Room}

/- Wherever a run ends, the channel is on its way. -/
theorem converge_between
    (hLimits : limits.Positive)
    (hw : w.WellTyped)
    (hId : id.isText = true)
    (hDesired : desired.WellTyped)
    (hName : ∃ shown, desired.name.unescaped = .ok shown)
    (hRoom : room.WellTyped)
    (hNodup : room.members.Nodup)
    (h : w.Settleable desired id room.state) :
    w.Holding id (w.Between desired id room)
      ((converge limits desired id).run remote
        (w.putRoom id room)).state := by
  have hPreserves :
      (converge limits desired id).Preserves remote
        (w.Holding id (w.Between desired id room)) :=
    preserves_converge hLimits hw hId hDesired
      (fun _ h => h.typed)
      (fun _ h => h.active)
      (fun _ h => h.showName hDesired hName)
      (fun _ h => h.showTopic hDesired)
      (fun _ h => h.showDescription hDesired)
      (fun _ _ h => h.add_member hw hDesired)
      (fun _ _ h => h.erase_member)
  exact hPreserves _
    (holding_putRoom.mpr (between_self hRoom hNodup h))

end ChannelSync

------------------------------------------------------------
-- Going On from the Way
------------------------------------------------------------

namespace ChannelSync

namespace Workspace

variable {w : Workspace}
variable {desired : Desired}
variable {id : Datum}
variable {room room' : Room}

/- The way does not depend on the failures laid in. -/
theorem Between.of_withFailures
    {failures : Table Trigger Failure}
    (h : (w.withFailures failures).Between desired id room
      room') :
    w.Between desired id room room' where
  typed := h.typed
  settled := h.settled
  named := h.named
  settleable :=
    ⟨h.settleable.name, h.settleable.topic,
      h.settleable.description, h.settleable.free⟩
  shifts :=
    ⟨h.shifts.kept, h.shifts.bounded, h.shifts.nodup⟩

/- A channel on the way can be brought in line, too. -/
theorem Between.ready
    {size : Nat}
    (h : w.Between desired id room room')
    (hw : w.WellTyped)
    (hDesired : desired.WellTyped)
    (hReady : w.Ready size desired id room) :
    w.Ready size desired id room' where
  settleable := h.settleable
  staffable := by
    rcases hReady.staffable.listed with
      ⟨everyone, hWritable, hMembers, hInvites⟩
    refine ⟨hReady.staffable.found, ?_,
      everyone, hWritable, ?_, hInvites⟩
    · intro userId hMember
      rcases h.shifts.bounded userId hMember with
        hOld | hInvited
      · exact hReady.staffable.known userId hOld
      · rcases hw.welcomes_of_invites hDesired.members
            hInvited with
          ⟨user, hUser, -⟩
        exact ⟨user, hUser⟩
    · intro userId hMember
      rcases h.shifts.bounded userId hMember with
        hOld | hInvited
      · exact hMembers userId hOld
      · exact hInvites userId hInvited

/-
  Members that are brought in line are the welcome ones of
  before, and everyone who was invited.
-/
theorem Staffed.mem_iff
    {emails members members' : List Datum}
    (h : w.Staffed emails members members')
    (hTexts : ∀ userId ∈ members', userId.isText = true)
    (userId : Datum) :
    userId ∈ members' ↔
      (userId ∈ members ∧ w.Welcomes emails userId) ∨
        w.Invites emails userId := by
  constructor
  · intro hMember
    apply (h.shifts.bounded userId hMember).imp_left
    intro hOld
    rcases h.welcome userId hMember with
      ⟨user, hUser, hWelcome⟩
    exact ⟨hOld, user,
      get?_of_answer (hTexts userId hMember) hUser, hWelcome⟩
  · intro h
    rcases h with
      ⟨hOld, hWelcome⟩ |
        ⟨hOther, email, hEmail, user, hUser, rfl⟩
    · exact h.shifts.kept userId hOld hWelcome
    · rcases h.addressed email hEmail with
        ⟨found, hFound, hMember⟩
      have hSame := userByEmail_of_answer hFound
      rw [hUser] at hSame
      cases hSame
      exact hMember.resolve_right hOther

/- From anywhere on the way the same members come out. -/
theorem Between.same_members
    {members members' : List Datum}
    (h : w.Between desired id room room')
    (hFirst :
      w.Staffed desired.members room.members members)
    (hTexts : ∀ userId ∈ members, userId.isText = true)
    (hSecond :
      w.Staffed desired.members room'.members members')
    (hTexts' : ∀ userId ∈ members', userId.isText = true)
    (userId : Datum) :
    userId ∈ members' ↔ userId ∈ members := by
  rw [hFirst.mem_iff hTexts, hSecond.mem_iff hTexts']
  constructor
  · intro h
    rcases h with ⟨hMember, hWelcome⟩ | hInvited
    · exact (h.shifts.bounded userId hMember).imp_left
        fun hOld => ⟨hOld, hWelcome⟩
    · exact Or.inr hInvited
  · intro h
    rcases h with ⟨hMember, hWelcome⟩ | hInvited
    · exact Or.inl
        ⟨h.shifts.kept userId hMember hWelcome, hWelcome⟩
    · exact Or.inr hInvited

end Workspace

/-
  Two reports that say the same: equal attributes, and the
  same members in whatever order.
-/
structure Observed.Matches
    (a b : Observed) :
    Prop where
  attributes :
    { a with memberIds := [] } = { b with memberIds := [] }
  members :
    ∀ userId, userId ∈ a.memberIds ↔ userId ∈ b.memberIds

open Program Workspace

variable {w after : Workspace}
variable {limits : Limits}
variable {desired : Desired}
variable {id : Datum}
variable {room room' : Room}
variable {observed : Observed}

/-
  If a channel can be brought in line, it can be from
  anywhere on the way, and the report is the same.
-/
theorem converge_again
    (hOpen : w.failures.entries = [])
    (hLimits : limits.Positive)
    (hw : w.WellTyped)
    (hId : id.isText = true)
    (hDesired : desired.WellTyped)
    (hRoom : room.WellTyped)
    (hRoomId : room.state.id = id)
    (hNodup : room.members.Nodup)
    (h : (converge limits desired id).Returns remote
      (w.putRoom id room) observed after)
    (hBetween : w.Between desired id room room') :
    ∃ again last last',
      (converge limits desired id).Returns remote
          (w.putRoom id room') again (w.putRoom id last') ∧
        after = w.putRoom id last ∧
        again.Matches observed := by
  rcases hLimits.members with ⟨size, hSize, hLimit⟩
  have hInvites := invitesOpenly_of_no_failures hOpen
  have hRoomId' : room'.state.id = id :=
    (congrArg Observed.id hBetween.settled).trans hRoomId
  have hReady :=
    hBetween.ready hw hDesired
      (converge_ready hSize hLimit hLimits hw hId hDesired
        hRoom hRoomId hInvites h)
  rcases converge_returns hSize hLimit hLimits hOpen hw hId
      hDesired hBetween.typed hRoomId'
      hBetween.shifts.nodup hReady with
    ⟨again, after', hAgain⟩
  rcases converge_returned hLimits hw hId hDesired hRoom
      hRoomId hNodup hInvites h with
    ⟨last, rfl, hTyped, hState, hStaffed, hFetched⟩
  rcases converge_returned hLimits hw hId hDesired
      hBetween.typed hRoomId' hBetween.shifts.nodup hInvites
      hAgain with
    ⟨last', rfl, hTyped', hState', hStaffed', hFetched'⟩
  have hShown :=
    shownAs_of_fetched hLimits hId hTyped hFetched
  have hShown' :=
    shownAs_of_fetched hLimits hId hTyped' hFetched'
  refine ⟨again, last, last', hAgain, rfl, ?_, ?_⟩
  · rw [hShown'.attributes, hShown.attributes, hState,
      hState']
    exact hBetween.settled
  · intro userId
    rw [hShown'.members, hShown.members]
    exact hBetween.same_members hStaffed hTyped.members
      hStaffed' hTyped'.members userId

end ChannelSync
