import ChannelSync.Proofs.Reconciliation.Course
import ChannelSync.Proofs.Reconciliation.Target

/-
  The failures that a reconciliation survives.

  Failures are caught in three places: where a channel is to
  be created, where a member is invited, and where the
  members are checked.  Only two kinds of them are let pass:
  the name of the new channel is in use, or an invitation is
  not needed.

  A failure of the check only looks as if it were let pass.
  Every address and every member that the check looks up is
  looked up again when the members are brought in line, and
  that ends with the failure.

  Key definitions include:
    * `Exchange.Settled` and `Exchange.Tolerated`

  Key theorems include:
    * `exchanges_alignMembers`
    * `exchanges_membershipMayDiffer`
    * `vouches_converge`
    * `reconcile_tolerates`
-/

------------------------------------------------------------
-- Failures Let Pass
------------------------------------------------------------

namespace ChannelSync

namespace Exchange

/- A refused invitation that was not needed. -/
def Settled : Exchange → Prop
  | ⟨.inviteMembers _ _, .error (.failure failure)⟩ =>
      failure.code ∈ settledCodes
  | _ => False

/- A refused creation of a channel whose name is in use. -/
def Taken : Exchange → Prop
  | ⟨.createChannel _ _, .error (.failure failure)⟩ =>
      failure.isConflict = true
  | _ => False

/-
  An exchange that failed, but does not keep a
  reconciliation from returning.
-/
def Tolerated
    (id? : Option Datum)
    (x : Exchange) :
    Prop :=
  (id? = none ∧ x.Taken) ∨ x.Settled

end Exchange

end ChannelSync

------------------------------------------------------------
-- Exchanges of the Membership Loops
------------------------------------------------------------

namespace ChannelSync

open Program

variable {σ : Type}
variable {remote : Remote σ}
variable {s after : σ}
variable {limits : Limits}
variable {desired : Desired}
variable {id : Datum}
variable {exchanges : List Exchange}

/-
  If an invitation leaves nothing to be done, the user was
  found, and invited or need not be.
-/
theorem exchanges_inviteOne
    {email : Datum}
    (h : (Roster.inviteOne id email).Ends remote s (.ok none)
      after exchanges) :
    ∀ x ∈ exchanges, x.Succeeded ∨ x.Settled := by
  rcases ends_bind_ok.mp h with
    ⟨found, _, first, rest, hFound, hRest, rfl⟩
  cases found with
  | error failure =>
      cases (ends_pure.mp hRest).1
  | ok user =>
      have hFirst :=
        (strict_reporting_send _ _).succeeded
          (ends_attempt_ok.mp hFound)
      rcases ends_bind_ok.mp (ends_record_bind.mp hRest)
          with
        ⟨invited, _, middle, last, hInvited, hLast, rfl⟩
      have hMiddle :
          last = [] ∧
            ∀ x ∈ middle, x.Succeeded ∨ x.Settled := by
        cases invited with
        | ok _ =>
            refine ⟨(ends_pure.mp hLast).2.2,
              fun x hx => Or.inl ?_⟩
            exact (strict_send _).succeeded
              (ends_attempt_ok.mp hInvited) x hx
        | error failure =>
            rcases ends_send.mp
                (ends_attempt_failure.mp hInvited) with
              ⟨hAnswer, -, rfl⟩
            rcases ends_bind_ok.mp hLast with
              ⟨settled, _, _, _, hSettled, hLast, rfl⟩
            have hCode := (returns_lift.mp hSettled.returns).1
            rcases ends_lift.mp hSettled with ⟨-, -, rfl⟩
            cases settled with
            | false =>
                have hFailed := ends_record_bind.mp hLast
                cases (ends_pure.mp hFailed).1
            | true =>
                refine ⟨(ends_pure.mp hLast).2.2, ?_⟩
                simp only [List.mem_singleton, forall_eq,
                  ← hAnswer]
                exact Or.inr (Failure.isSettled_iff.mp hCode)
      rcases hMiddle with ⟨rfl, hMiddle⟩
      simp only [List.append_nil, List.mem_append]
      intro x h
      rcases h with hx | hx
      · exact Or.inl (hFirst x hx)
      · exact hMiddle x hx

/- The same for invitations that are made one by one. -/
theorem exchanges_inviteEach
    {emails : List Datum}
    (h : (Roster.inviteEach id emails).Ends remote s (.ok [])
      after exchanges) :
    ∀ x ∈ exchanges, x.Succeeded ∨ x.Settled := by
  induction emails generalizing s after exchanges with
  | nil =>
      rcases ends_pure.mp h with ⟨-, -, rfl⟩
      simp
  | cons email rest ih =>
      rcases ends_bind_ok.mp h with
        ⟨failure?, _, first, _, hFirst, hRest, rfl⟩
      rcases ends_bind_ok.mp hRest with
        ⟨failures, _, second, _, hSecond, hLast, rfl⟩
      rcases ends_pure.mp hLast with ⟨hNone, -, rfl⟩
      have hBoth := List.append_eq_nil_iff.mp
        (Except.ok.inj hNone).symm
      have hFailure : failure? = none :=
        Option.toList_eq_nil_iff.mp hBoth.1
      rw [hFailure] at hFirst
      rw [hBoth.2] at hSecond
      simp only [List.append_nil, List.mem_append]
      intro x h
      rcases h with hx | hx
      · exact exchanges_inviteOne hFirst x hx
      · exact ih hSecond x hx

/- Nothing fails while members are removed. -/
theorem strict_removeEach
    (id : Datum)
    (emails userIds : List Datum) :
    (Roster.removeEach id emails userIds).Strict := by
  induction userIds with
  | nil => trivial
  | cons userId rest ih =>
      apply (strict_reporting_send _ _).bind
      intro user
      apply (strict_lift _).bind
      intro allowed
      split
      · exact ih
      · exact (strict_reporting_send _ _).bind fun _ => ih

/-
  If the members are brought in line, every request was
  granted, but for invitations that were not needed.
-/
theorem exchanges_alignMembers
    (h : (alignMembers limits desired id).Ends remote s
      (.ok ()) after exchanges) :
    ∀ x ∈ exchanges, x.Succeeded ∨ x.Settled := by
  rcases ends_bind_ok.mp h with
    ⟨failures, _, first, _, hInvited, hRest, rfl⟩
  rcases ends_bind_ok.mp hRest with
    ⟨_, _, second, _, hRemoved, hLast, rfl⟩
  have hNone : failures = [] := by
    cases failures with
    | nil => rfl
    | cons _ _ => exact absurd hLast.returns not_returns_fail
  subst hNone
  rcases ends_pure.mp hLast with ⟨-, -, rfl⟩
  rcases ends_bind_ok.mp hInvited with
    ⟨ordered, _, _, _, hSorted, hEach, rfl⟩
  rcases ends_lift.mp hSorted with ⟨-, -, rfl⟩
  have hStrict :
      (Roster.removeOthers limits.members id
        desired.members).Strict :=
    (Access.strict_memberIds _ _).bind fun _ =>
      strict_removeEach _ _ _
  simp only [List.nil_append, List.append_nil,
    List.mem_append]
  intro x h
  rcases h with hx | hx
  · exact exchanges_inviteEach hEach x hx
  · exact Or.inl (hStrict.succeeded hRemoved x hx)

end ChannelSync

------------------------------------------------------------
-- The Check That Fails Unnoticed
------------------------------------------------------------

namespace ChannelSync

open Program Workspace

variable {w after : Workspace}
variable {limits : Limits}
variable {desired : Desired}
variable {id : Datum}
variable {room : Room}
variable {observed : Observed}
variable {exchanges : List Exchange}

/-
  A check finds every address and member, if they are found
  whenever it answers that the members may differ.
-/
theorem exchanges_membershipMayDiffer
    (hw : w.WellTyped)
    (hDesired : desired.WellTyped)
    (hMembers :
      ∀ userId ∈ observed.memberIds, userId.isText = true)
    {mayDiffer : Bool}
    (hConsulted :
      mayDiffer = true →
        w.Consulted desired.members observed.memberIds)
    (h : (membershipMayDiffer desired observed).Ends remote w
      (.ok mayDiffer) after exchanges) :
    ∀ x ∈ exchanges, x.Succeeded := by
  rcases ends_bind_ok.mp h with
    ⟨verdict, _, first, _, hVerdict, hRest, rfl⟩
  cases verdict with
  | ok verdict =>
      rcases ends_pure.mp hRest with ⟨-, -, rfl⟩
      rw [List.append_nil]
      exact (Drift.strict_membershipDiffers _ _).succeeded
        (ends_attempt_ok.mp hVerdict)
  | error failure =>
      have hAnswered := ends_record_bind.mp hRest
      rcases ends_pure.mp hAnswered with ⟨hDiffer, -, -⟩
      rcases Drift.membershipDiffers_returns hw hDesired
          hMembers (hConsulted (Except.ok.inj hDiffer)) with
        ⟨verdict, hReturns⟩
      have hSame :=
        (ends_attempt_failure.mp hVerdict).unique
          hReturns.ends
      cases hSame.1

/-
  Bringing the members in line, if they may differ, takes
  requests that are granted, but for invitations that were
  not needed.  Where the check failed, the run that follows
  does not return.
-/
theorem vouches_members
    (hLimits : limits.Positive)
    (hw : w.WellTyped)
    (hId : id.isText = true)
    (hDesired : desired.WellTyped)
    (hRoom : room.WellTyped)
    (hRoomId : room.state.id = id)
    (hMembers :
      ∀ userId,
        userId ∈ observed.memberIds ↔
          userId ∈ room.members) :
    (membershipMayDiffer desired observed >>=
        fun mayDiffer =>
          if mayDiffer then
            alignMembers limits desired id >>= fun _ =>
              Access.fetch limits.members id
          else
            Access.fetch limits.members id).Vouches remote
      (fun x => x.Succeeded ∨ x.Settled)
      (w.putRoom id room) := by
  have hTyped := hw.putRoom hId hRoom hRoomId
  have hTexts :
      ∀ userId ∈ observed.memberIds, userId.isText = true :=
    fun userId hMember =>
      hRoom.members userId ((hMembers userId).mp hMember)
  intro _ after exchanges hEnds
  rcases ends_bind_ok.mp hEnds with
    ⟨mayDiffer, _, _, _, hLooked, hRest, rfl⟩
  have hRead :=
    state_of_returned (reads_membershipMayDiffer _ _)
      hLooked.returns
  subst hRead
  cases mayDiffer with
  | false =>
      have hLookups :=
        exchanges_membershipMayDiffer hTyped hDesired hTexts
          (by simp) hLooked
      have hLast :=
        (Access.strict_fetch _ _).succeeded hRest
      rw [List.forall_mem_append]
      exact ⟨fun x hx => Or.inl (hLookups x hx),
        fun x hx => Or.inl (hLast x hx)⟩
  | true =>
      rcases ends_bind_ok.mp hRest with
        ⟨_, _, _, _, hAligned, hFetch, rfl⟩
      have hConsulted :=
        alignMembers_consulted hLimits hw hId hDesired hRoom
          hAligned.returns
      have hObserved :
          w.Consulted desired.members observed.memberIds :=
        ⟨hConsulted.emails, fun userId hMember =>
          hConsulted.members userId
            ((hMembers userId).mp hMember)⟩
      have hLookups :=
        exchanges_membershipMayDiffer hTyped hDesired hTexts
          (fun _ => consulted_putRoom.mpr hObserved) hLooked
      have hLast :=
        (Access.strict_fetch _ _).succeeded hFetch
      simp only [List.forall_mem_append]
      exact ⟨fun x hx => Or.inl (hLookups x hx),
        exchanges_alignMembers hAligned,
        fun x hx => Or.inl (hLast x hx)⟩

/-
  Bringing a channel in line and returning takes requests
  that are granted, but for invitations that were not
  needed.
-/
theorem vouches_converge
    (hLimits : limits.Positive)
    (hw : w.WellTyped)
    (hId : id.isText = true)
    (hDesired : desired.WellTyped)
    (hRoom : room.WellTyped)
    (hRoomId : room.state.id = id) :
    (converge limits desired id).Vouches remote
      (fun x => x.Succeeded ∨ x.Settled)
      (w.putRoom id room) := by
  have hSettled := hRoom.settled hDesired
  refine ((strict_fetchActive limits id).vouches
    fun _ => Or.inl).bind fun first _ hFirst => ?_
  rcases fetchActive_returned hLimits hId hRoom hFirst with
    ⟨rfl, hFetched⟩
  have hShown :=
    shownAs_of_fetched hLimits hId hRoom.active hFetched
  refine ((strict_notePrivacy _ _ _).vouches
    fun _ => Or.inl).bind fun _ _ hNoted => ?_
  cases notePrivacy_returns.mp hNoted
  refine ((Drift.strict_detected _ _).vouches
    fun _ => Or.inl).bind fun drift _ hDrift => ?_
  have hRead :=
    state_of_returned (Drift.reads_detected _ _) hDrift
  subst hRead
  split
  case isFalse => exact Strict.vouches trivial fun _ => Or.inl
  refine (Strict.vouches (p := record _) trivial
    fun _ => Or.inl).bind fun _ _ hRecord => ?_
  cases returns_record.mp hRecord
  refine ((strict_alignAttributes _ _).vouches
    fun _ => Or.inl).bind fun _ _ hAligned => ?_
  rcases alignAttributes_returned hId hDesired hAligned with
    ⟨-, rfl⟩
  exact vouches_members hLimits hw hId hDesired hSettled
    hRoomId hShown.members

end ChannelSync

------------------------------------------------------------
-- Failures That a Reconciliation Survives
------------------------------------------------------------

namespace ChannelSync

open Program Workspace

variable {w : Workspace}
variable {limits : Limits}
variable {desired : Desired}
variable {id? : Option Datum}
variable {observed : Observed}

/-
  Getting a channel takes requests that are granted, but for
  the creation of one whose name is in use.
-/
theorem vouches_createOrFind
    (limits : Limits)
    (desired : Desired)
    (w : Workspace) :
    (createOrFind limits desired).Vouches remote
      (fun x => x.Succeeded ∨ x.Taken) w := by
  intro id after exchanges h
  rcases ends_bind_ok.mp h with
    ⟨_, _, _, _, hCreated, hRest, rfl⟩
  rcases ends_attempt_create hCreated with ⟨rfl, hCases⟩
  simp only [List.forall_mem_append, List.mem_singleton,
    forall_eq]
  rcases hCases with
    ⟨channel, hGranted, rfl, -⟩ | ⟨failure, hFailed, rfl, -⟩
  · rcases ends_pure.mp hRest with ⟨-, -, rfl⟩
    exact ⟨Or.inl ⟨channel, hGranted⟩, by simp⟩
  · dsimp only at hRest
    split at hRest
    case isFalse =>
        exact absurd hRest.returns not_returns_fail
    case isTrue hConflict =>
        rcases ends_bind_ok.mp (ends_record_bind.mp hRest)
            with
          ⟨channel, _, _, _, hFound, hLast, rfl⟩
        rcases ends_pure.mp hLast with ⟨-, -, rfl⟩
        have hSearch :=
          (strict_findByName _ _).succeeded hFound
        rw [hFailed, List.append_nil]
        exact ⟨Or.inr hConflict,
          fun x hx => Or.inl (hSearch x hx)⟩

/-
  When a reconciliation returns, every one of its requests
  was granted, but for two kinds: the creation of a channel
  whose name is in use, if none was given, and invitations
  that were not needed.
-/
theorem reconcile_tolerates
    (hReachable : w.Reachable)
    (hLimits : limits.Positive)
    (hDesired : desired.WellTyped)
    (hId : ∀ id ∈ id?, id.isText = true)
    (hResult :
      ((reconcile limits desired id?).run remote w).result =
        .ok observed) :
    ∀ x ∈ ((reconcile limits desired id?).run
        remote w).exchanges,
      x.Succeeded ∨ x.Tolerated id? := by
  rcases reconcile_starts hReachable.wellTyped hLimits
      hDesired hId (ends_of_result hResult) with
    ⟨base, id, room, first, rest, hStarts, hConverge,
      hExchanges, hFirst⟩
  rcases hStarts.room_typed with ⟨hRoom, hRoomId⟩
  rw [← hStarts.putRoom] at hConverge
  have hRest :=
    vouches_converge hLimits hStarts.typed hStarts.isText
      hDesired hRoom hRoomId _ _ _ hConverge
  rw [hExchanges, List.forall_mem_append]
  refine ⟨?_, fun x hx => (hRest x hx).imp_right Or.inr⟩
  rcases hFirst with rfl | ⟨hNone, hTarget⟩
  · simp
  · intro x hx
    exact (vouches_createOrFind limits desired w _ _ _
      hTarget x hx).imp_right
        fun hTaken => Or.inl ⟨hNone, hTaken⟩

/- A channel is adopted as its name is in use. -/
theorem reconcile_tolerates_sample :
    (∃ x ∈ ((reconcile Limits.sample
        { Desired.sample with name := .text "lunch" }
        none).run remote Workspace.sample).exchanges,
      x.Taken) ∧
    ∀ x ∈ ((reconcile Limits.sample
        { Desired.sample with name := .text "lunch" }
        none).run remote Workspace.sample).exchanges,
      x.Succeeded ∨ x.Tolerated none := by
  refine ⟨⟨_, List.mem_cons_self, rfl⟩, ?_⟩
  exact reconcile_tolerates reachable_sample
    Limits.positive_sample
    { Desired.wellTyped_sample with name := rfl }
    (by simp)
    (rfl : _ = Except.ok (Observed.mk (.text "C1")
      (.text "lunch") (.text "") (.text "") (.flag false)
      [.text "U1"] (.flag false)))

end ChannelSync
