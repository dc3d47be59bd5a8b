import ChannelSync.Proofs.Reconciliation.Convergence

/-
  Nothing is left to do after a reconciliation.

  A channel that was brought in line shows no drift, so that
  reconciling it again only reads: the same report comes
  back, and the workspace stays as it is.  The lookups that
  the second run makes are ones that the first run made and
  survived.

  This needs a name that shows itself.  A name is stored as
  it is declared, and one that shows another text would be
  set again and again.

  Key definitions include:
    * `Workspace.Quiet`

  Key theorems include:
    * `converge_silent`
    * `Workspace.Leaves.undetected`
    * `reconcile_quiet`
-/

------------------------------------------------------------
-- Channels in Line
------------------------------------------------------------

namespace ChannelSync

open Program Workspace

variable {w : Workspace}
variable {limits : Limits}
variable {desired : Desired}
variable {id : Datum}
variable {observed : Observed}

/-
  Bringing a channel in line that shows no drift only reads
  it.
-/
theorem converge_silent
    (hFetched :
      (Access.fetch limits.members id).Returns remote w
        observed w)
    (hActive : observed.archived = .flag false)
    (hSame :
      (Drift.detected desired observed).Returns remote w
        false w) :
    (converge limits desired id).Silent remote w
      observed := by
  have hTruthy : observed.archived.truthy = false := by
    rw [hActive]
    rfl
  have hFirst := fetchActive_silent hFetched hTruthy
  refine hFirst.bind ((notePrivacy_silent w).bind ?_)
  refine (silent_of_reads
    (Drift.reads_detected desired observed) hSame).bind ?_
  exact (silent_record _).bind (silent_pure observed)

end ChannelSync

------------------------------------------------------------
-- The Verdict of the Detector
------------------------------------------------------------

namespace ChannelSync

open Program Workspace

variable {w base : Workspace}
variable {limits : Limits}
variable {desired : Desired}
variable {id? : Option Datum}
variable {observed : Observed}
variable {room room' : Room}

/-
  The members of the channel are the declared ones, if the
  user acted as is none of these.
-/
theorem Workspace.Leaves.agrees
    (hLeaves :
      w.Leaves limits desired id? base room room' observed)
    (hOthers :
      ∀ email ∈ desired.members, ∀ user : User,
        (w.answer (.userByEmail email)).1 = .ok user →
          user.id ≠ w.botId) :
    base.Agrees desired.members observed.memberIds where
  addressed := by
    intro email hEmail
    rcases hLeaves.staffed.addressed email hEmail with
      ⟨user, hUser, hMember⟩
    have hSame :=
      answer_userByEmail_congr hLeaves.starts.failures
        hLeaves.starts.users email
    refine ⟨user, hUser, (hLeaves.shown.members _).mpr ?_⟩
    apply hMember.resolve_right
    rw [hLeaves.starts.botId]
    exact hOthers email hEmail user (hSame ▸ hUser)
  welcome := by
    intro userId hMember
    exact hLeaves.staffed.welcome userId
      ((hLeaves.shown.members userId).mp hMember)

/- No drift is detected in a channel as it was left. -/
theorem Workspace.Leaves.undetected
    (hLeaves :
      w.Leaves limits desired id? base room room' observed)
    (hDesired : desired.WellTyped)
    (hPlain : desired.name.unescaped = .ok desired.name)
    (hOthers :
      ∀ email ∈ desired.members, ∀ user : User,
        (w.answer (.userByEmail email)).1 = .ok user →
          user.id ≠ w.botId) :
    (Drift.detected desired observed).Returns remote
      (base.putRoom observed.id room') false
      (base.putRoom observed.id room') := by
  have hRoomId : room'.state.id = observed.id :=
    (congrArg Observed.id hLeaves.shown.attributes).symm
  have hTyped :
      (base.putRoom observed.id room').WellTyped :=
    hLeaves.starts.typed.putRoom hLeaves.starts.isText
      hLeaves.typed hRoomId
  rcases Desired.unescaped_settle hDesired room.active.state
      with
    ⟨hTopic, hDescription, hName⟩
  rw [← hLeaves.attributes] at hTopic hDescription hName
  have hShown :
      observed.name.unescaped = .ok desired.name := by
    rcases hName with hSame | hShown
    · exact (congrArg Datum.unescaped hSame).trans hPlain
    · exact hShown
  exact (Drift.detected_false_iff hTyped hDesired
    (hLeaves.shown.isText hLeaves.typed)).mpr
      ⟨hShown, hTopic, hDescription, rfl,
        agrees_putRoom.mpr (hLeaves.agrees hOthers)⟩

end ChannelSync

------------------------------------------------------------
-- Quiescence
------------------------------------------------------------

namespace ChannelSync

open Program

/-
  Nothing is left to do for a channel: no drift is found,
  and reconciling it reports the same and writes nothing.
-/
structure Workspace.Quiet
    (w : Workspace)
    (limits : Limits)
    (desired : Desired)
    (observed : Observed) :
    Prop where
  undetected :
    (check limits desired observed.id).Returns remote w
      false w
  unchanged :
    (reconcile limits desired (some observed.id)).Returns
      remote w observed w
  unwritten :
    ((reconcile limits desired (some observed.id)).run
      remote w).writes = []

open Workspace

variable {w : Workspace}
variable {limits : Limits}
variable {desired : Desired}
variable {id? : Option Datum}
variable {observed : Observed}

/-
  A reconciliation that returns leaves nothing to do, with
  the same failures laid in.
-/
theorem reconcile_quiet
    (hReachable : w.Reachable)
    (hDistinct : w.MembersDistinct)
    (hOpen : w.InvitesOpenly)
    (hLimits : limits.Positive)
    (hDesired : desired.WellTyped)
    (hId : ∀ id ∈ id?, id.isText = true)
    (hPlain : desired.name.unescaped = .ok desired.name)
    (hOthers :
      ∀ email ∈ desired.members, ∀ user : User,
        (w.answer (.userByEmail email)).1 = .ok user →
          user.id ≠ w.botId)
    (hResult :
      ((reconcile limits desired id?).run remote w).result =
        .ok observed) :
    Workspace.Quiet
      ((reconcile limits desired id?).run remote w).state
      limits desired observed := by
  have hReturns :
      (reconcile limits desired id?).Returns remote w
        observed _ :=
    ⟨hResult, rfl⟩
  rcases reconcile_leaves hReachable hDistinct hOpen hLimits
      hDesired hId hReturns with
    ⟨base, room, room', hFinal, hLeaves⟩
  have hSame :=
    hLeaves.undetected hDesired hPlain hOthers
  rcases returns_bind.mp hReturns with ⟨_, _, hValid, -⟩
  have hActive : observed.archived = .flag false :=
    congrArg Observed.archived hLeaves.attributes
  have hAgain :
      (reconcile limits desired (some observed.id)).Silent
        remote (base.putRoom observed.id room') observed :=
    (silent_validate hValid _).bind
      (converge_silent hLeaves.fetched hActive hSame)
  rw [hFinal]
  exact
    { undetected :=
        hLeaves.fetched.bind hSame
      unchanged := hAgain.returns
      unwritten := hAgain.writes }

/- The small workspace is left alone the second time. -/
theorem reconcile_quiet_sample :
    Workspace.Quiet
      ((reconcile Limits.sample Desired.sample
        (some (.text "C1"))).run remote
          Workspace.sample).state
      Limits.sample Desired.sample
      { id := .text "C1"
        name := .text "dinner"
        memberIds := [.text "U1"] } :=
  reconcile_quiet reachable_sample membersDistinct_sample
    (invitesOpenly_of_no_failures no_failures_sample)
    Limits.positive_sample Desired.wellTyped_sample
    (by simp [Datum.isText]) rfl
    (by
      intro email hEmail user hUser
      have hOnly : email = .text "a@x" := by
        simpa [Desired.sample] using hEmail
      subst hOnly
      cases hUser
      decide)
    rfl

end ChannelSync
