import ChannelSync.Proofs.Reconciliation.Frame
import ChannelSync.Proofs.Reconciliation.Raising
import ChannelSync.Proofs.Reconciliation.Safeguards

/-
  A reconciliation that reports failed invitations.

  Invitations are made for all addresses in a row, and the
  failures are only collected.  They are reported when the
  removals are through, as the one failure that is no single
  one.  So this report says exactly whose invitations went
  wrong; everything else has been done as it was declared.

  Key definitions include:
    * `Roster.Invitation` and `Roster.Invitation.Made`
    * `Roster.Round`
    * `Workspace.BestEffort`

  Key theorems include:
    * `Roster.inviteEach_round`
    * `alignMembers_partial`
    * `converge_partial`
    * `reconcile_best_effort`
-/

------------------------------------------------------------
-- Invitations as They Were Made
------------------------------------------------------------

namespace ChannelSync

namespace Roster

/-
  What came of inviting the user with an address: what was
  exchanged, and the failure that is reported, if any.
-/
structure Invitation where
  email : Datum
  exchanges : List Exchange
  failure? : Option Failure

/-
  The ways that inviting a user to a channel can go.  It
  leaves a failure to report if nobody was found, or if the
  invitation failed with a code that is not settled.
-/
inductive Invitation.Made
    (id : Datum) :
    Invitation → Prop where
  | unknown
      {email : Datum}
      {failure : Failure} :
      Made id
        { email := email
          exchanges :=
            [⟨.userByEmail email,
              .error (.failure failure)⟩]
          failure? := some failure }
  | invited
      {email : Datum}
      {user : User} :
      Made id
        { email := email
          exchanges :=
            [⟨.userByEmail email, .ok user⟩,
              ⟨.inviteMembers id [user.id], .ok ()⟩]
          failure? := none }
  | settled
      {email : Datum}
      {user : User}
      {failure : Failure}
      (hSettled : failure.code ∈ settledCodes) :
      Made id
        { email := email
          exchanges :=
            [⟨.userByEmail email, .ok user⟩,
              ⟨.inviteMembers id [user.id],
                .error (.failure failure)⟩]
          failure? := none }
  | refused
      {email : Datum}
      {user : User}
      {failure : Failure}
      (hOpen : failure.code ∉ settledCodes) :
      Made id
        { email := email
          exchanges :=
            [⟨.userByEmail email, .ok user⟩,
              ⟨.inviteMembers id [user.id],
                .error (.failure failure)⟩]
          failure? := some failure }

/-
  A round of invitations, one for each of some addresses in
  their order, and the failures that it reports.
-/
structure Round
    (id : Datum)
    (emails : List Datum)
    (invitations : List Invitation)
    (exchanges : List Exchange)
    (failures : List Failure) :
    Prop where
  emails :
    (invitations.map fun invitation => invitation.email) =
      emails
  made : ∀ invitation ∈ invitations, invitation.Made id
  exchanges :
    exchanges =
      invitations.flatMap fun invitation =>
        invitation.exchanges
  failures :
    failures =
      invitations.filterMap fun invitation =>
        invitation.failure?

variable {id email : Datum}
variable {emails : List Datum}

/- A round goes on after a first invitation. -/
theorem Round.cons
    {invitations : List Invitation}
    {invitation : Invitation}
    {rest : List Exchange}
    {failures : List Failure}
    (hFirst : invitation.Made id)
    (h : Round id emails invitations rest failures) :
    Round id (invitation.email :: emails)
      (invitation :: invitations)
      (invitation.exchanges ++ rest)
      (invitation.failure?.toList ++ failures) where
  emails := by
    rw [List.map_cons, h.emails]
  made := List.forall_mem_cons.mpr ⟨hFirst, h.made⟩
  exchanges := by
    rw [List.flatMap_cons, h.exchanges]
  failures := by
    rw [h.failures, List.filterMap_cons]
    cases invitation.failure? <;> rfl

open Program

variable {σ : Type}
variable {remote : Remote σ}
variable {s after : σ}
variable {failure? : Option Failure}
variable {exchanges : List Exchange}

/- On any platform an invitation goes one of these ways. -/
theorem inviteOne_made
    (h : (inviteOne id email).Ends remote s (.ok failure?)
      after exchanges) :
    Invitation.Made id ⟨email, exchanges, failure?⟩ := by
  rcases ends_bind_ok.mp h with
    ⟨found, middle, first, rest, hFound, hRest, rfl⟩
  cases found with
  | error failure =>
      have hLookup :=
        ends_reporting.mp (ends_attempt_failure.mp hFound)
      rcases ends_send.mp hLookup with ⟨hAnswer, -, rfl⟩
      rcases ends_pure.mp hRest with ⟨hReported, -, rfl⟩
      cases hReported
      rw [← hAnswer]
      exact .unknown
  | ok user =>
      have hLookup :=
        ends_reporting.mp (ends_attempt_ok.mp hFound)
      rcases ends_send.mp hLookup with ⟨hAnswer, -, rfl⟩
      rw [← hAnswer]
      rcases ends_bind_ok.mp (ends_record_bind.mp hRest) with
        ⟨invited, _, second, third, hInvited, hLast, rfl⟩
      cases invited with
      | ok _ =>
          rcases ends_send.mp (ends_attempt_ok.mp hInvited)
              with
            ⟨hGranted, -, rfl⟩
          rcases ends_pure.mp hLast with ⟨hReported, -, rfl⟩
          cases hReported
          rw [← hGranted]
          exact .invited
      | error failure =>
          rcases ends_send.mp
              (ends_attempt_failure.mp hInvited) with
            ⟨hRefused, -, rfl⟩
          rw [← hRefused]
          rcases ends_bind_ok.mp hLast with
            ⟨settled, _, fourth, fifth, hSettled, hEnd, rfl⟩
          rcases ends_lift.mp hSettled with
            ⟨hVerdict, -, rfl⟩
          have hCode := @Failure.isSettled_iff failure
          cases hJudged : failure.isSettled with
          | error fault =>
              rw [hJudged] at hVerdict
              cases hVerdict
          | ok verdict =>
              rw [hJudged] at hVerdict hCode
              cases hVerdict
              cases settled with
              | true =>
                  rcases ends_pure.mp hEnd with
                    ⟨hReported, -, rfl⟩
                  cases hReported
                  exact .settled (hCode.mp rfl)
              | false =>
                  simp only [Bool.false_eq_true, if_false]
                    at hEnd
                  have hLast := ends_record_bind.mp hEnd
                  rcases ends_pure.mp hLast with
                    ⟨hReported, -, rfl⟩
                  cases hReported
                  apply Invitation.Made.refused
                  intro hMem
                  cases hCode.mpr hMem

end Roster

end ChannelSync

------------------------------------------------------------
-- A Round in a Workspace
------------------------------------------------------------

namespace ChannelSync

namespace Roster

open Program Workspace

variable {w after : Workspace}
variable {id : Datum}
variable {room : Room}
variable {emails : List Datum}
variable {failures : List Failure}
variable {exchanges : List Exchange}

/-
  After a round, whoever could be invited without a failure
  to report is a member, or is the user acted as.
-/
theorem inviteEach_round
    (hw : w.WellTyped)
    (hId : id.isText = true)
    (hEmails : ∀ email ∈ emails, email.isText = true)
    (hOpen : w.InvitesOpenly)
    (h : (inviteEach id emails).Ends remote
      (w.putRoom id room) (.ok failures) after exchanges) :
    ∃ invitations,
      Round id emails invitations exchanges failures ∧
        ∀ invitation ∈ invitations,
          invitation.failure? = none →
            ∃ user : User,
              (w.answer
                  (.userByEmail invitation.email)).1 =
                .ok user ∧
              (user.id = w.botId ∨
                w.Holding id (fun room' =>
                  user.id ∈ room'.members) after) := by
  induction emails generalizing room failures exchanges with
  | nil =>
      rcases ends_pure.mp h with ⟨hNone, -, rfl⟩
      cases hNone
      exact ⟨[], ⟨rfl, by simp, rfl, rfl⟩, by simp⟩
  | cons email rest ih =>
      have hEmail := hEmails email (by simp)
      have hOthers : ∀ e ∈ rest, e.isText = true :=
        fun e he => hEmails e (by simp [he])
      rcases ends_bind_ok.mp h with
        ⟨failure?, middle, first, _, hFirst, hNext, rfl⟩
      rcases ends_bind_ok.mp hNext with
        ⟨others, _, second, _, hRest, hLast, rfl⟩
      rcases ends_pure.mp hLast with ⟨hCollected, rfl, rfl⟩
      cases hCollected
      have hHolding :
          w.Holding id (fun _ => True) middle :=
        (preserves_inviteOne hw hId hEmail
          (List.mem_singleton_self email)
          fun _ _ _ _ _ => trivial).holds
            hFirst (holding_putRoom.mpr trivial)
      rcases hHolding with ⟨room', rfl, -⟩
      rcases ih hOthers hRest with
        ⟨invitations, hRound, hMembers⟩
      refine ⟨⟨email, first, failure?⟩ :: invitations, ?_,
        List.forall_mem_cons.mpr ⟨?_, hMembers⟩⟩
      · rw [List.append_nil]
        exact hRound.cons (inviteOne_made hFirst)
      · intro hNone
        cases hNone
        rcases inviteOne_returned hw hId hEmail
            hFirst.returns with
          ⟨user, hUser, hInvited⟩
        refine ⟨user, hUser, ?_⟩
        have hMember :
            user.id = w.botId ∨ user.id ∈ room'.members := by
          rcases hInvited with
            ⟨-, hAdded⟩ |
              ⟨⟨failure, hRefusal, hSettled⟩, hSame⟩
          · cases putRoom_injective hAdded
            exact Or.inr (List.mem_append_right _ (by simp))
          · cases putRoom_injective hSame
            exact hOpen.settled hRefusal hSettled
        apply hMember.imp_right
        intro hIn
        exact (preserves_member_inviteEach hw hId hOthers
          user.id).holds hRest (holding_putRoom.mpr hIn)

/-
  After the removals everyone is welcome, and of those who
  are nobody has left.
-/
theorem removeOthers_returned
    {limits : Limits}
    (hLimits : limits.Positive)
    (hw : w.WellTyped)
    (hId : id.isText = true)
    (hRoom : room.WellTyped)
    (hNodup : room.members.Nodup)
    (h : (removeOthers limits.members id emails).Returns
      remote (w.putRoom id room) () after) :
    ∃ room',
      after = w.putRoom id room' ∧
        room'.state = room.state ∧
        (∀ userId ∈ room.members,
          w.Welcomes emails userId →
            userId ∈ room'.members) ∧
        ∀ userId ∈ room'.members,
          w.Welcomes emails userId := by
  rcases removeOthers_listed hLimits hId hRoom.members
      (get?_putRoom w id room) h with
    ⟨ids, hIds, hTexts, hRemoved⟩
  have hShrinks :
      w.Holding id (fun room' =>
        room'.state = room.state ∧
          ∀ userId ∈ room'.members,
            userId ∈ room.members) after := by
    refine (preserves_removeEach hw hId hTexts ?_).holds
      hRemoved.ends (holding_putRoom.mpr ⟨rfl, by simp⟩)
    intro room' userId _ hSmaller _
    exact ⟨hSmaller.1, fun other hMem =>
      hSmaller.2 other (List.mem_of_mem_erase hMem)⟩
  rcases hShrinks with ⟨room', rfl, hState, hSmaller⟩
  refine ⟨room', rfl, hState, ?_, ?_⟩
  · intro userId hMember hWelcome
    exact holding_putRoom.mp
      ((preserves_member_removeEach hw hId hTexts
        hWelcome).holds hRemoved.ends
          (holding_putRoom.mpr hMember))
  · intro userId hMember
    have hListedId :=
      (hIds userId).mpr (hSmaller userId hMember)
    rcases removeEach_returned hw hId hTexts hRemoved userId
        hListedId with
      ⟨user, hUser, hGone⟩
    rcases hGone hNodup with hWelcome | hAbsent
    · exact ⟨user,
        get?_of_answer (hTexts userId hListedId) hUser,
        hWelcome⟩
    · exact absurd hMember (holding_putRoom.mp hAbsent)

end Roster

end ChannelSync

------------------------------------------------------------
-- Ending with Failed Invitations
------------------------------------------------------------

namespace ChannelSync

open Program Workspace

variable {α β : Type}
variable {w after : Workspace}
variable {failures : List Failure}
variable {exchanges : List Exchange}

/- What passes failures on does not end with several. -/
theorem not_ends_partial
    {p : Program α}
    (hSingly : w.RefusesSingly)
    (hRaises : p.Raises Failure.IsSingle) :
    ¬ p.Ends remote w
      (.error (.failure (.partialMembership failures)))
      after exchanges := by
  intro h
  exact isSingle_of_raises hSingly hRaises h.result_eq

/- So a first part like that returns if it ends so. -/
theorem ends_bind_partial
    {p : Program α}
    {next : α → Program β}
    (hSingly : w.RefusesSingly)
    (hRaises : p.Raises Failure.IsSingle)
    (h : (p >>= next).Ends remote w
      (.error (.failure (.partialMembership failures)))
      after exchanges) :
    ∃ a middle first rest,
      p.Ends remote w (.ok a) middle first ∧
        middle.RefusesSingly ∧
        (next a).Ends remote middle
          (.error (.failure (.partialMembership failures)))
          after rest ∧
        exchanges = first ++ rest := by
  rcases ends_bind.mp h with
    ⟨problem, hFailed, hSame⟩ |
      ⟨a, middle, first, rest, hFirst, hRest, hTrace⟩
  · cases hSame
    exact absurd hFailed (not_ends_partial hSingly hRaises)
  · exact ⟨a, middle, first, rest, hFirst,
      hSingly.congr
        (w.alike_self.of_returns hFirst.returns),
      hRest, hTrace⟩

variable {limits : Limits}
variable {desired : Desired}
variable {id : Datum}
variable {room : Room}

/-
  Members that were brought in line as far as invitations
  allowed: everyone is welcome, and whoever was invited is
  among them unless there is a failure.
-/
structure Workspace.Attended
    (w : Workspace)
    (emails members : List Datum)
    (invitations : List Roster.Invitation) :
    Prop where
  addressed :
    ∀ invitation ∈ invitations,
      invitation.failure? = none →
        ∃ user : User,
          (w.answer (.userByEmail invitation.email)).1 =
              .ok user ∧
            (user.id ∈ members ∨ user.id = w.botId)
  welcome :
    ∀ userId ∈ members, w.Welcomes emails userId

/-
  When failed invitations are reported, there are some, and
  the members have been brought in line otherwise.
-/
theorem alignMembers_partial
    (hSingly : w.RefusesSingly)
    (hOpen : w.InvitesOpenly)
    (hLimits : limits.Positive)
    (hw : w.WellTyped)
    (hId : id.isText = true)
    (hDesired : desired.WellTyped)
    (hRoom : room.WellTyped)
    (hNodup : room.members.Nodup)
    (h : (alignMembers limits desired id).Ends remote
      (w.putRoom id room)
      (.error (.failure (.partialMembership failures)))
      after exchanges) :
    failures ≠ [] ∧
      ∃ room' invitations round later,
        after = w.putRoom id room' ∧
          room'.state = room.state ∧
          exchanges = round ++ later ∧
          Roster.Round id
            (desired.members.mergeSort Datum.textLE)
            invitations round failures ∧
          w.Attended desired.members room'.members
            invitations := by
  have hPut : (w.putRoom id room).RefusesSingly := hSingly
  rcases ends_bind_partial hPut
      ((Conduct.raising _).inviteAll id desired.members) h with
    ⟨reported, middle, round, later, hInvited, hMiddle,
      hRest, hTrace⟩
  rcases ends_bind_partial hMiddle
      ((Conduct.raising _).removeOthers _ _ _) hRest with
    ⟨_, last, removals, _, hRemoved, -, hEnd, hLater⟩
  have hReported : reported = failures ∧ failures ≠ [] ∧
      after = last := by
    cases reported with
    | nil => cases hEnd.result_eq
    | cons failure rest =>
        rcases ends_fail.mp hEnd with ⟨hSame, rfl, -⟩
        cases hSame
        exact ⟨rfl, by simp, rfl⟩
  rcases hReported with ⟨rfl, hSome, rfl⟩
  -- The order of the addresses is settled without a request.
  have hEach :
      (Roster.inviteEach id
          (desired.members.mergeSort Datum.textLE)).Ends
        remote (w.putRoom id room) (.ok reported) middle
        round := by
    have hSorted := hInvited
    unfold Roster.inviteAll at hSorted
    rw [Datum.sorted_texts hDesired.members] at hSorted
    exact hSorted
  rcases Roster.inviteEach_round hw hId hDesired.mergeSort
      hOpen hEach with
    ⟨invitations, hRound, hMembers⟩
  rcases inviteEach_enlarges hw hId hDesired hRoom
      hEach.returns with
    ⟨larger, rfl, hGrown⟩
  rcases Roster.removeOthers_returned hLimits hw hId
      hGrown.typed (hGrown.nodup hNodup) hRemoved.returns
      with
    ⟨room', rfl, hState, hKept, hWelcome⟩
  refine ⟨hSome, room', invitations, round, later, rfl,
    hState.trans hGrown.state, hTrace, hRound, ?_, hWelcome⟩
  intro invitation hInvitation hNone
  rcases hMembers invitation hInvitation hNone with
    ⟨user, hUser, hBot | hMember⟩
  · exact ⟨user, hUser, Or.inr hBot⟩
  · have hIn := holding_putRoom.mp hMember
    have hDeclared : invitation.email ∈ desired.members := by
      apply List.mem_mergeSort.mp
      rw [← hRound.emails]
      exact List.mem_map_of_mem hInvitation
    have hFound :=
      hw.get?_of_userByEmail
        (hDesired.members _ hDeclared)
        (userByEmail_of_answer hUser)
    refine ⟨user, hUser, Or.inl (hKept user.id hIn ?_)⟩
    exact ⟨user, hFound.2.2,
      Or.inr (hFound.2.1 ▸ hDeclared)⟩

/- By then the attributes have been brought in line. -/
theorem converge_partial
    (hSingly : w.RefusesSingly)
    (hOpen : w.InvitesOpenly)
    (hLimits : limits.Positive)
    (hw : w.WellTyped)
    (hId : id.isText = true)
    (hDesired : desired.WellTyped)
    (hRoom : room.WellTyped)
    (hNodup : room.members.Nodup)
    (h : (converge limits desired id).Ends remote
      (w.putRoom id room)
      (.error (.failure (.partialMembership failures)))
      after exchanges) :
    failures ≠ [] ∧
      ∃ room' invitations before round later,
        after = w.putRoom id room' ∧
          room'.state = desired.settle room.active.state ∧
          exchanges = before ++ round ++ later ∧
          Roster.Round id
            (desired.members.mergeSort Datum.textLE)
            invitations round failures ∧
          w.Attended desired.members room'.members
            invitations := by
  have hPut : (w.putRoom id room).RefusesSingly := hSingly
  rcases ends_bind_partial hPut
      ((Conduct.raising _).fetchActive limits id) h with
    ⟨observed, _, first, _, hFetched, hPut, hRest, rfl⟩
  rcases fetchActive_returned hLimits hId hRoom
      hFetched.returns with
    ⟨rfl, -⟩
  rcases ends_bind_partial hPut
      ((Conduct.raising _).notePrivacy desired observed id)
      hRest with
    ⟨_, _, second, _, hNoted, hPut, hRest, rfl⟩
  cases notePrivacy_returns.mp hNoted.returns
  rcases ends_bind_partial hPut
      ((Conduct.raising _).detected desired observed) hRest with
    ⟨drift, _, third, _, hDrift, hPut, hRest, rfl⟩
  cases state_of_returned (Drift.reads_detected _ _)
    hDrift.returns
  cases drift with
  | false => cases hRest.result_eq
  | true =>
      simp only [if_true] at hRest
      rcases ends_bind_partial hPut
          ((Conduct.raising _).alignAttributes desired id)
          (ends_record_bind.mp hRest) with
        ⟨_, _, fourth, _, hAligned, hPut, hRest, rfl⟩
      rcases alignAttributes_returned hId hDesired
          hAligned.returns with
        ⟨-, rfl⟩
      rcases ends_bind_partial hPut
          ((Conduct.raising _).membershipMayDiffer desired
            observed) hRest with
        ⟨mayDiffer, _, fifth, _, hLooked, hPut, hRest, rfl⟩
      cases state_of_returned (reads_membershipMayDiffer _ _)
        hLooked.returns
      have hFetch :
          ∀ s : Workspace, s.RefusesSingly → ∀ exchanges,
            ¬ (Access.fetch limits.members id).Ends remote s
              (.error (.failure
                (.partialMembership failures)))
              after exchanges :=
        fun s hs _ => not_ends_partial hs
          ((Conduct.raising _).fetch limits.members id)
      cases mayDiffer with
      | false =>
          exact absurd hRest (hFetch _ hPut _)
      | true =>
          simp only [if_true] at hRest
          rcases ends_bind.mp hRest with
            ⟨problem, hMembers, hSame⟩ |
              ⟨_, s, _, _, hMembers, hLast, -⟩
          · cases hSame
            rcases alignMembers_partial hSingly hOpen hLimits
                hw hId hDesired (hRoom.settled hDesired)
                hNodup hMembers with
              ⟨hSome, room', invitations, round, later, rfl,
                hState, rfl, hRound, hAttended⟩
            refine ⟨hSome, room', invitations,
              first ++ (second ++ (third ++
                (fourth ++ fifth))), round, later, rfl,
              hState, ?_, hRound, hAttended⟩
            simp only [List.append_assoc]
          · exact absurd hLast
              (hFetch s (hPut.congr (alike_self _ |>.of_returns
                hMembers.returns)) _)

end ChannelSync

------------------------------------------------------------
-- Best Effort
------------------------------------------------------------

namespace ChannelSync

/-
  A channel that has been brought in line with a declaration
  as far as some invitations allowed.
-/
structure Workspace.BestEffort
    (w : Workspace)
    (desired : Desired)
    (id : Datum)
    (invitations : List Roster.Invitation)
    (room : Room) :
    Prop where
  found : w.channels.get? id = some room
  active : room.state.archived = .flag false
  topic : room.state.topic.unescaped = .ok desired.topic
  description :
    room.state.description.unescaped =
      .ok desired.description
  name :
    room.state.name = desired.name ∨
      room.state.name.unescaped = .ok desired.name
  attended :
    w.Attended desired.members room.members invitations

open Program Workspace

variable {w : Workspace}
variable {limits : Limits}
variable {desired : Desired}
variable {id? : Option Datum}
variable {failures : List Failure}

/- What is attended does not depend on the room. -/
theorem Workspace.Attended.putRoom
    {emails members : List Datum}
    {invitations : List Roster.Invitation}
    (h : w.Attended emails members invitations)
    (id : Datum)
    (room : Room) :
    (w.putRoom id room).Attended emails members
      invitations where
  addressed := by
    intro invitation hInvitation hNone
    rw [answer_userByEmail_putRoom]
    exact h.addressed invitation hInvitation hNone
  welcome := h.welcome

/-
  A reconciliation that goes wrong with several failures has
  a channel from which it went on.
-/
theorem reconcile_starts_partial
    (hSingly : w.RefusesSingly)
    (hw : w.WellTyped)
    (hLimits : limits.Positive)
    (hDesired : desired.WellTyped)
    (hId : ∀ id ∈ id?, id.isText = true)
    {after : Workspace}
    {exchanges : List Exchange}
    (h : (reconcile limits desired id?).Ends remote w
      (.error (.failure (.partialMembership failures)))
      after exchanges) :
    ∃ base id room first rest,
      w.Starts desired id? base id room ∧
        Targets remote w limits desired id? id ∧
        (converge limits desired id).Ends remote base
          (.error (.failure (.partialMembership failures)))
          after rest ∧
        exchanges = first ++ rest := by
  rcases ends_bind_partial hSingly
      (raises_validate desired) h with
    ⟨_, start, _, rest, hValid, -, hRest, rfl⟩
  rcases ends_validate_ok hValid with ⟨rfl, rfl⟩
  cases id? with
  | some id =>
      have hText := hId id rfl
      cases hFound : start.channels.get? id with
      | some room =>
          exact ⟨start, id, room, [], rest,
            starts_given hw hText hFound, Or.inl rfl,
            hRest, rfl⟩
      | none =>
          rcases ends_bind_partial hSingly
              ((Conduct.raising _).fetchActive limits id)
              hRest with
            ⟨_, _, _, _, hFetched, -⟩
          rcases returns_bind.mp hFetched.returns with
            ⟨_, _, hFirst, -⟩
          exact absurd hFirst
            (not_returns_fetch hText hFound)
  | none =>
      rcases ends_bind_partial hSingly
          (raises_createOrFind limits desired) hRest with
        ⟨id, base, first, rest, hTarget, -, hConverge, rfl⟩
      have hTargets :
          Targets remote start limits desired none id :=
        Or.inr ⟨rfl, hTarget.result_eq⟩
      rcases starts_of_createOrFind hw hLimits hDesired
          hTarget.returns with
        ⟨room, hStarts⟩
      exact ⟨_, _, room, first, rest, hStarts, hTargets,
        hConverge, rfl⟩

/-
  If a reconciliation reports failed invitations, these are
  the failures of one round over the declared addresses, and
  everything else has been brought in line.
-/
theorem reconcile_best_effort
    (hReachable : w.Reachable)
    (hDistinct : w.MembersDistinct)
    (hOpen : w.InvitesOpenly)
    (hSingly : w.RefusesSingly)
    (hLimits : limits.Positive)
    (hDesired : desired.WellTyped)
    (hId : ∀ id ∈ id?, id.isText = true)
    (hResult :
      ((reconcile limits desired id?).run remote w).result =
        .error (.failure (.partialMembership failures))) :
    failures ≠ [] ∧
      ∃ id room invitations before round later,
        Targets remote w limits desired id? id ∧
          ((reconcile limits desired id?).run remote
              w).exchanges = before ++ round ++ later ∧
          Roster.Round id
            (desired.members.mergeSort Datum.textLE)
            invitations round failures ∧
          ((reconcile limits desired id?).run remote
              w).state.BestEffort desired id invitations
            room := by
  rcases reconcile_starts_partial hSingly
      hReachable.wellTyped hLimits hDesired hId
      (ends_of_result hResult) with
    ⟨base, id, room, first, rest, hStarts, hTargets,
      hConverge, hTrace⟩
  rcases hStarts.room_typed with ⟨hRoom, -⟩
  have hBaseOpen : base.InvitesOpenly := by
    intro argument failure hLaid
    rw [hStarts.failures] at hLaid
    exact hOpen argument failure hLaid
  have hBaseSingly : base.RefusesSingly :=
    hSingly.congr ⟨hStarts.users, hStarts.failures⟩
  rw [← hStarts.putRoom] at hConverge
  rcases converge_partial hBaseSingly hBaseOpen hLimits
      hStarts.typed hStarts.isText hDesired hRoom
      (hStarts.nodup hDistinct) hConverge with
    ⟨hSome, room', invitations, before, round, later, hAfter,
      hState, rfl, hRound, hAttended⟩
  rcases Desired.unescaped_settle hDesired room.active.state
      with
    ⟨hTopic, hDescription, hName⟩
  rw [← hState] at hTopic hDescription hName
  refine ⟨hSome, id, room', invitations, first ++ before,
    round, later, hTargets, ?_, hRound, ?_⟩
  · rw [hTrace]
    simp only [List.append_assoc]
  · rw [hAfter]
    exact
      { found := get?_putRoom base id room'
        active := congrArg Observed.archived hState
        topic := hTopic
        description := hDescription
        name := hName
        attended := hAttended.putRoom id room' }

/- The only failure that is laid in for the sample. -/
theorem Workspace.get?_sampleFailures
    {trigger : Trigger}
    {failure : Failure}
    (h : sampleFailures.get? trigger = some failure) :
    failure =
      .single .remote "no" (.text "restricted") none := by
  simp only [sampleFailures, Table.get?,
    List.lookup_cons, List.lookup_nil] at h
  split at h
  · exact (Option.some.inj h).symm
  · cases h

/- One user cannot be invited to the channel of the sample. -/
theorem reconcile_best_effort_sample :
    let w :=
      Workspace.sample.withFailures Workspace.sampleFailures
    let run :=
      (reconcile Limits.sample Desired.sample
        (some (.text "C1"))).run remote w
    ∃ id room invitations before round later,
      Targets remote w Limits.sample Desired.sample
          (some (.text "C1")) id ∧
        run.exchanges = before ++ round ++ later ∧
        Roster.Round id
          (Desired.sample.members.mergeSort Datum.textLE)
          invitations round
          [.single .remote "no" (.text "restricted") none] ∧
        run.state.BestEffort Desired.sample id invitations
          room := by
  refine (reconcile_best_effort
    (reachable_sample.failing Workspace.sampleFailures)
    membersDistinct_sample ?_ ?_ Limits.positive_sample
    Desired.wellTyped_sample (by simp [Datum.isText]) rfl).2
  · intro argument failure h
    rw [get?_sampleFailures h]
    decide
  · intro trigger failure h
    rw [get?_sampleFailures h]
    trivial

end ChannelSync
