import ChannelSync.Proofs.Reconciliation.Target
import ChannelSync.Proofs.Reconciliation.Writes

/-
  What the check says about the reconciliation.

  Both fetch the channel first, and both look for drift in
  it.  So a reconciliation of an active channel ends where
  the check does, unless the check finds drift: it returns
  what it fetched, or it has the problem of the check, and it
  writes nothing.

  Drift has one of four causes, since the check stops at the
  first difference that it finds.  The setters before that
  one have nothing to do, and leave the workspace as the
  check saw it.  So the setter of the differing attribute
  finds the difference again, and writes.  Where only the
  members differ, the comparison before the invitations finds
  that again, and the first address, which the check could
  look up, leads to an invitation.

  None of this depends on what the workspace holds or on
  which failures are laid in.

  Key definitions include:
    * `Request.channelId?`
    * `Workspace.Predicts`
    * `Workspace.Deviates`

  Key theorems include:
    * `Drift.deviates_of_detected`
    * `Workspace.Deviates.corrected`
    * `check_predicts`
-/

------------------------------------------------------------
-- Predictions
------------------------------------------------------------

namespace ChannelSync

/- The channel that a request names, if it names one. -/
def Request.channelId? : Request → Option Datum
  | channelInfo id => some id
  | createChannel _ _ => none
  | setPurpose id _ => some id
  | setTopic id _ => some id
  | renameChannel id _ => some id
  | archiveChannel id => some id
  | unarchiveChannel id => some id
  | memberPage id _ _ => some id
  | inviteMembers id _ => some id
  | removeMember id _ => some id
  | channelPage _ _ => none
  | userByEmail _ => none
  | userById _ => none

/- A channel is not in the archive, if there is one. -/
def Workspace.Unarchived
    (w : Workspace)
    (id : Datum) :
    Prop :=
  ∀ room, w.channels.get? id = some room →
    room.state.archived.truthy = false

open Program Workspace

/-
  What the check of a channel says about its reconciliation
  in the same workspace.  Without drift the channel is only
  fetched, and with drift something is written.  An archived
  channel is taken out of the archive first, whatever the
  check says.
-/
structure Workspace.Predicts
    (w : Workspace)
    (limits : Limits)
    (desired : Desired)
    (id : Datum) :
    Prop where
  upToDate :
    w.Unarchived id →
    ((check limits desired id).run remote w).result =
      .ok false →
    ∃ observed,
      ((Access.fetch limits.members id).run remote
          w).result = .ok observed ∧
        ((reconcile limits desired (some id)).run remote
          w).result = .ok observed ∧
        ((reconcile limits desired (some id)).run remote
          w).writes = []
  failed :
    w.Unarchived id →
    ∀ problem,
      ((check limits desired id).run remote w).result =
        .error problem →
      ((reconcile limits desired (some id)).run remote
          w).result = .error problem ∧
        ((reconcile limits desired (some id)).run remote
          w).writes = []
  drifted :
    ((check limits desired id).run remote w).result =
      .ok true →
    ∃ request ∈
        ((reconcile limits desired (some id)).run remote
          w).writes,
      request.channelId? = some id
  archived :
    ∀ room observed,
      w.channels.get? id = some room →
      room.state.archived.truthy = true →
      ((Access.fetch limits.members id).run remote
        w).result = .ok observed →
      ((reconcile limits desired (some id)).run remote
        w).writes.head? = some (.unarchiveChannel id)

end ChannelSync

------------------------------------------------------------
-- Causes of Drift
------------------------------------------------------------

namespace ChannelSync

/- A stored text shows another text than the declared one. -/
def Datum.Differs
    (stored declared : Datum) :
    Prop :=
  ∃ shown, stored.unescaped = .ok shown ∧
    (shown == declared) = false

open Program Workspace

/-
  The first difference between a channel and its declaration:
  what comes before it shows what is declared.
-/
inductive Workspace.Deviates
    (w : Workspace)
    (desired : Desired)
    (observed : Observed) :
    Prop where
  | name
      (hDiffers : observed.name.Differs desired.name)
  | topic
      (hName : observed.name.shows desired.name = true)
      (hDiffers : observed.topic.Differs desired.topic)
  | description
      (hName : observed.name.shows desired.name = true)
      (hTopic : observed.topic.shows desired.topic = true)
      (hDiffers :
        observed.description.Differs desired.description)
  | members
      (hName : observed.name.shows desired.name = true)
      (hTopic : observed.topic.shows desired.topic = true)
      (hDescription :
        observed.description.shows desired.description =
          true)
      (hDiffer :
        (Drift.membershipDiffers desired observed).Returns
          remote w true w)

namespace Drift

variable {w after : Workspace}
variable {desired : Desired}
variable {observed : Observed}

/-
  A text that can be read shows what is declared, or it
  differs.
-/
theorem shows_or_differs
    {stored declared shown : Datum}
    (h : stored.unescaped = .ok shown) :
    (¬ (shown != declared) = true ∧
        stored.shows declared = true) ∨
      stored.Differs declared := by
  cases hEqual : shown == declared with
  | true =>
      apply Or.inl
      simp [bne, Datum.shows, h, hEqual]
  | false => exact Or.inr ⟨shown, h, hEqual⟩

/- Where drift is found there is a first difference. -/
theorem deviates_of_detected
    (h : (detected desired observed).Returns remote w true
      w) :
    w.Deviates desired observed := by
  unfold detected at h
  rcases returns_bind.mp h with
    ⟨name, _, hLift, hRest⟩
  rcases returns_lift.mp hLift with
    ⟨hShown, rfl⟩
  rcases shows_or_differs hShown with
    ⟨hSame, hName⟩ | hDiffers
  · rw [if_neg hSame] at hRest
    rcases returns_bind.mp hRest with
      ⟨topic, _, hLift, hRest⟩
    rcases returns_lift.mp hLift with
      ⟨hShown, rfl⟩
    rcases shows_or_differs hShown with
      ⟨hSame, hTopic⟩ | hDiffers
    · rw [if_neg hSame] at hRest
      rcases returns_bind.mp hRest with
        ⟨description, _, hLift, hRest⟩
      rcases returns_lift.mp hLift with
        ⟨hShown, rfl⟩
      rcases shows_or_differs hShown with
        ⟨hSame, hDescription⟩ | hDiffers
      · rw [if_neg hSame] at hRest
        exact .members hName hTopic hDescription hRest
      · exact .description hName hTopic hDiffers
    · exact .topic hName hDiffers
  · exact .name hDiffers

/-
  When the members were compared, the first address was
  looked up.
-/
theorem first_found
    (hMembers : desired.members ≠ [])
    {verdict : Bool}
    (h : (membershipDiffers desired observed).Returns remote
      w verdict after) :
    ∃ email rest user,
      Datum.sorted desired.members = .ok (email :: rest) ∧
        (w.answer (.userByEmail email)).1 = .ok user := by
  unfold membershipDiffers at h
  rcases returns_bind.mp h with
    ⟨emails, _, hLift, hRest⟩
  rcases returns_lift.mp hLift with
    ⟨hSorted, rfl⟩
  rcases returns_bind.mp hRest with
    ⟨_, _, hMissing, -⟩
  cases emails with
  | nil =>
      have hNone :=
        (Datum.perm_of_sorted hSorted).symm.eq_nil
      exact absurd hNone hMembers
  | cons email rest =>
      unfold anyMissing at hMissing
      rcases returns_bind.mp hMissing with
        ⟨user, _, hUser, -⟩
      exact ⟨email, rest, user, hSorted,
        (Access.returns_userByEmail.mp hUser).1⟩

end Drift

end ChannelSync

------------------------------------------------------------
-- Corrections of Drift
------------------------------------------------------------

namespace ChannelSync

open Program Workspace

variable {w after : Workspace}
variable {limits : Limits}
variable {desired : Desired}
variable {id : Datum}
variable {channel observed : Observed}

namespace Access

variable {declared : Datum}
variable {event : Event}
variable {set : Program Observed}

/- A setter has nothing to do where the text is shown. -/
theorem ensure_silent
    (field : Observed → Datum)
    (hInfo : (info id).Returns remote w channel w)
    (hShows : (field channel).shows declared = true) :
    (ensure id declared field event set).Silent remote w
      channel := by
  unfold Datum.shows at hShows
  unfold ensure
  apply (silent_of_reads (reads_info id) hInfo).bind
  split at hShows
  case h_1 shown hShown =>
      have hLift :
          (lift (field channel).unescaped).Silent remote w
            shown :=
        silent_of_reads (sends_lift _)
          (returns_lift.mpr ⟨hShown, rfl⟩)
      apply hLift.bind
      rw [if_pos hShows]
      exact silent_pure channel
  case h_2 => cases hShows

/- A setter that finds another text sends its request. -/
theorem mem_writes_ensure
    (field : Observed → Datum)
    (hInfo : (info id).Returns remote w channel w)
    (hDiffers : (field channel).Differs declared)
    {request : Request}
    (hSet : (set.run remote w).writes = [request]) :
    request ∈
      ((ensure id declared field event set).run remote
        w).writes := by
  rcases hDiffers with
    ⟨shown, hShown, hOther⟩
  rw [writes_ensure hInfo hShown, hOther, hSet]
  exact List.mem_singleton_self request

/- A channel that was fetched is there. -/
theorem fetch_found
    {limit : Datum}
    (h : (fetch limit id).Returns remote w observed
      after) :
    ∃ room memberIds,
      w.channels.get? id = some room ∧
        (info id).Returns remote w room.state w ∧
        observed =
          { room.state with memberIds := memberIds } := by
  unfold fetch at h
  rcases returns_bind.mp h with
    ⟨channel, _, hInfo, hRest⟩
  rcases returns_bind.mp hRest with
    ⟨memberIds, _, -, hPure⟩
  rcases returns_info.mp hInfo with
    ⟨hAnswer, rfl⟩
  rcases returns_pure.mp hPure with
    ⟨rfl, -⟩
  have hFound := hAnswer
  simp only [answer] at hFound
  split at hFound
  · cases hFound
  · simp only [grant, Workspace.room] at hFound
    split at hFound
    · split at hFound
      case h_1 room hRoom =>
          cases hFound
          exact ⟨room, memberIds, hRoom, hInfo, rfl⟩
      case h_2 => cases hFound
    · cases hFound

end Access

/- Inviting everyone begins with the first address. -/
theorem Roster.mem_writes_inviteAll
    {email : Datum}
    {rest : List Datum}
    {user : User}
    (hSorted :
      Datum.sorted desired.members = .ok (email :: rest))
    (hFound :
      (w.answer (.userByEmail email)).1 = .ok user) :
    .inviteMembers id [user.id] ∈
      ((inviteAll id desired.members).run remote
        w).writes := by
  have hOrdered :
      (lift (Datum.sorted desired.members)).Silent remote w
        (email :: rest) :=
    silent_of_reads (sends_lift _)
      (returns_lift.mpr ⟨hSorted, rfl⟩)
  unfold inviteAll
  rw [hOrdered.writes_bind]
  unfold inviteEach
  apply mem_writes_bind
  rw [writes_inviteOne]
  change _ ∈ (invitation? id
    (w.answer (.userByEmail email)).1).toList
  rw [hFound]
  exact List.mem_singleton_self _

/- Where the name is shown, the name is not set. -/
theorem Access.rename_silent
    (hInfo : (info id).Returns remote w channel w)
    (hName : channel.name.shows desired.name = true) :
    (rename id desired.name).Silent remote w channel :=
  ensure_silent (·.name) hInfo hName

/- Where the topic is shown, the topic is not set. -/
theorem Access.setTopic_silent
    (hInfo : (info id).Returns remote w channel w)
    (hTopic : channel.topic.shows desired.topic = true) :
    (setTopic id desired.topic).Silent remote w channel :=
  ensure_silent (·.topic) hInfo hTopic

/- Where every attribute is shown, none is set. -/
theorem alignAttributes_silent
    (hInfo : (Access.info id).Returns remote w channel w)
    (hName : channel.name.shows desired.name = true)
    (hTopic : channel.topic.shows desired.topic = true)
    (hDescription :
      channel.description.shows desired.description =
        true) :
    (alignAttributes desired id).Silent remote w () := by
  have hLast :
      (Access.setDescription id desired.description).Silent
        remote w channel :=
    Access.ensure_silent (·.description) hInfo hDescription
  apply (Access.rename_silent hInfo hName).bind
  apply (Access.setTopic_silent hInfo hTopic).bind
  exact hLast.bind (silent_pure ())

/-
  The first difference is corrected by a request about the
  channel.  The setters before it are silent, so that it is
  still there when its turn comes.
-/
theorem Workspace.Deviates.corrected
    (hMembers : desired.members ≠ [])
    (hInfo : (Access.info id).Returns remote w channel w)
    {memberIds : List Datum}
    (hFetched :
      observed = { channel with memberIds := memberIds })
    (h : w.Deviates desired observed) :
    ∃ request ∈
        ((correct limits desired id observed).run remote
          w).writes,
      request.channelId? = some id := by
  unfold correct
  subst hFetched
  cases h with
  | name hDiffers =>
      refine ⟨.renameChannel id desired.name, ?_, rfl⟩
      apply mem_writes_bind
      apply mem_writes_bind
      exact Access.mem_writes_ensure (·.name) hInfo hDiffers
        (writes_change (.renameChannel id desired.name)
          rfl _ w)
  | topic hName hDiffers =>
      refine ⟨.setTopic id desired.topic, ?_, rfl⟩
      apply mem_writes_bind
      unfold alignAttributes
      rw [(Access.rename_silent hInfo hName).writes_bind]
      apply mem_writes_bind
      exact Access.mem_writes_ensure (·.topic) hInfo hDiffers
        (writes_change (.setTopic id desired.topic)
          rfl _ w)
  | description hName hTopic hDiffers =>
      refine
        ⟨.setPurpose id desired.description, ?_, rfl⟩
      apply mem_writes_bind
      unfold alignAttributes
      rw [(Access.rename_silent hInfo hName).writes_bind,
        (Access.setTopic_silent hInfo hTopic).writes_bind]
      apply mem_writes_bind
      exact Access.mem_writes_ensure (·.description) hInfo
        hDiffers
        (writes_change (.setPurpose id desired.description)
          rfl _ w)
  | members hName hTopic hDescription hDiffer =>
      rcases Drift.first_found hMembers hDiffer with
        ⟨email, rest, user, hSorted, hFound⟩
      have hAttributes :=
        alignAttributes_silent hInfo hName hTopic
          hDescription
      have hMayDiffer :
          (membershipMayDiffer desired
            { channel with memberIds := memberIds }).Silent
              remote w true := by
        apply silent_of_reads (reads_membershipMayDiffer _ _)
        unfold membershipMayDiffer
        exact returns_bind.mpr ⟨.ok true, w,
          returns_attempt_ok.mpr hDiffer,
          returns_pure_self⟩
      refine ⟨.inviteMembers id [user.id], ?_, rfl⟩
      rw [hAttributes.writes_bind, hMayDiffer.writes_bind,
        if_pos rfl]
      apply mem_writes_bind
      apply mem_writes_bind
      exact Roster.mem_writes_inviteAll hSorted hFound

end ChannelSync

------------------------------------------------------------
-- Reconciliations Foretold
------------------------------------------------------------

namespace ChannelSync

open Program Workspace

variable {w : Workspace}
variable {limits : Limits}
variable {desired : Desired}
variable {id : Datum}
variable {observed : Observed}

/- With members, a channel is just brought in line. -/
theorem reconcile_eq_converge
    (hMembers : desired.members ≠ []) :
    reconcile limits desired (some id) =
      converge limits desired id := by
  have hValid : desired.invalid? = none := by
    unfold Desired.invalid?
    rw [if_neg (by simpa using hMembers)]
  unfold reconcile validate
  rw [hValid]
  rfl

/- A channel that cannot be fetched is left alone. -/
theorem converge_of_unfetched
    {problem : Problem}
    (hFetch :
      ((Access.fetch limits.members id).run remote
        w).result = .error problem) :
    ((converge limits desired id).run remote w).result =
        .error problem ∧
      ((converge limits desired id).run remote w).writes =
        [] := by
  have hActive :
      ((fetchActive limits id).run remote w).result =
        .error problem :=
    result_bind_of_error hFetch
  have hNothing :
      ((fetchActive limits id).run remote w).writes = [] := by
    unfold fetchActive
    rw [writes_bind_of_error hFetch]
    exact writes_of_reads (Access.reads_fetch _ _) w
  rw [converge_eq]
  exact ⟨result_bind_of_error hActive,
    (writes_bind_of_error hActive).trans hNothing⟩

/- An active channel is corrected if drift is found. -/
theorem converge_of_fetched
    (hFetched :
      (Access.fetch limits.members id).Returns remote w
        observed w)
    (hActive : observed.archived.truthy = false) :
    ((converge limits desired id).run remote w).result =
        ((correctDrift limits desired id observed).run remote
          w).result ∧
      ((converge limits desired id).run remote w).writes =
        ((correctDrift limits desired id observed).run remote
          w).writes := by
  have hFirst := fetchActive_silent hFetched hActive
  have hPrivacy :
      (notePrivacy desired observed id).Silent remote w () :=
    notePrivacy_silent w
  rw [converge_eq]
  constructor
  · rw [hFirst.result_bind, hPrivacy.result_bind]
  · rw [hFirst.writes_bind, hPrivacy.writes_bind]

/- A channel without drift is returned as it is. -/
theorem correctDrift_silent
    (hSame :
      (Drift.detected desired observed).Returns remote w
        false w) :
    (correctDrift limits desired id observed).Silent remote w
      observed := by
  have hDetected :=
    silent_of_reads (Drift.reads_detected _ _) hSame
  apply hDetected.bind
  exact (silent_record _).bind (silent_pure observed)

/- Without a verdict nothing is corrected. -/
theorem correctDrift_of_error
    {problem : Problem}
    (h :
      ((Drift.detected desired observed).run remote
        w).result = .error problem) :
    ((correctDrift limits desired id observed).run remote
        w).result = .error problem ∧
      ((correctDrift limits desired id observed).run remote
        w).writes = [] := by
  have hNothing :
      ((Drift.detected desired observed).run remote
        w).writes = [] :=
    writes_of_reads (Drift.reads_detected _ _) w
  exact ⟨result_bind_of_error h,
    (writes_bind_of_error h).trans hNothing⟩

/- Where drift is found, something is written. -/
theorem correctDrift_of_detected
    (hMembers : desired.members ≠ [])
    (hFetched :
      (Access.fetch limits.members id).Returns remote w
        observed w)
    (hDrift :
      (Drift.detected desired observed).Returns remote w true
        w) :
    ∃ request ∈
        ((correctDrift limits desired id observed).run remote
          w).writes,
      request.channelId? = some id := by
  rcases Access.fetch_found hFetched with
    ⟨room, memberIds, -, hInfo, hSame⟩
  have hDetected :=
    silent_of_reads (Drift.reads_detected _ _) hDrift
  have hDeviates := Drift.deviates_of_detected hDrift
  unfold correctDrift
  rw [hDetected.writes_bind, if_pos rfl,
    writes_record_bind]
  exact hDeviates.corrected hMembers hInfo hSame

/- An archived channel is first taken out of the archive. -/
theorem converge_of_archived
    (hFetched :
      (Access.fetch limits.members id).Returns remote w
        observed w)
    (hArchived : observed.archived.truthy = true) :
    ((converge limits desired id).run remote
      w).writes.head? = some (.unarchiveChannel id) := by
  rw [converge_eq]
  apply writes_bind_head
  rw [writes_fetchActive hFetched, if_pos hArchived]
  rfl

/- The prediction for a channel that cannot be fetched. -/
theorem predicts_of_unfetched
    (hMembers : desired.members ≠ [])
    {problem : Problem}
    (hFetch :
      ((Access.fetch limits.members id).run remote
        w).result = .error problem) :
    w.Predicts limits desired id := by
  have hCheck :
      ((check limits desired id).run remote w).result =
        .error problem :=
    result_bind_of_error hFetch
  constructor
  case upToDate =>
      intro _ hSame
      cases hCheck.symm.trans hSame
  case failed =>
      intro _ _ hFailed
      cases hCheck.symm.trans hFailed
      rw [reconcile_eq_converge hMembers]
      exact converge_of_unfetched hFetch
  case drifted =>
      intro hDrift
      cases hCheck.symm.trans hDrift
  case archived =>
      intro _ _ _ _ hFetched
      cases hFetch.symm.trans hFetched

/- The prediction for a channel that was fetched. -/
theorem predicts_of_fetched
    (hMembers : desired.members ≠ [])
    (hFetched :
      (Access.fetch limits.members id).Returns remote w
        observed w) :
    w.Predicts limits desired id := by
  have hCheck :
      ((check limits desired id).run remote w).result =
        ((Drift.detected desired observed).run remote
          w).result :=
    hFetched.result_bind
  have hVerdict :
      ∀ verdict,
        ((check limits desired id).run remote w).result =
            .ok verdict →
          (Drift.detected desired observed).Returns remote w
            verdict w := by
    intro verdict h
    exact ⟨hCheck.symm.trans h,
      state_of_reads (Drift.reads_detected _ _) w⟩
  rcases Access.fetch_found hFetched with
    ⟨room, memberIds, hRoom, -, hState⟩
  have hArchived :
      observed.archived = room.state.archived := by
    rw [hState]
  have hActive :
      w.Unarchived id → observed.archived.truthy = false := by
    intro hUnarchived
    rw [hArchived]
    exact hUnarchived room hRoom
  constructor <;> rw [reconcile_eq_converge hMembers]
  case upToDate =>
      intro hUnarchived hSame
      rcases converge_of_fetched hFetched
          (hActive hUnarchived) with
        ⟨hResult, hWrites⟩
      have hSilent :
          (correctDrift limits desired id observed).Silent
            remote w observed :=
        correctDrift_silent (hVerdict false hSame)
      exact ⟨observed, hFetched.result_eq,
        hResult.trans hSilent.returns.result_eq,
        hWrites.trans hSilent.writes⟩
  case failed =>
      intro hUnarchived problem hFailed
      rcases converge_of_fetched hFetched
          (hActive hUnarchived) with
        ⟨hResult, hWrites⟩
      rcases correctDrift_of_error
          (hCheck.symm.trans hFailed) with
        ⟨hProblem, hNothing⟩
      exact ⟨hResult.trans hProblem,
        hWrites.trans hNothing⟩
  case drifted =>
      intro hDrift
      by_cases hTruthy : observed.archived.truthy = true
      · refine ⟨.unarchiveChannel id, ?_, rfl⟩
        apply List.mem_of_head?
        exact converge_of_archived hFetched hTruthy
      · rw [Bool.not_eq_true] at hTruthy
        rw [(converge_of_fetched hFetched hTruthy).2]
        exact correctDrift_of_detected hMembers hFetched
          (hVerdict true hDrift)
  case archived =>
      intro other again hOther hTruthy hAgain
      cases hRoom.symm.trans hOther
      apply converge_of_archived hFetched
      rw [hArchived]
      exact hTruthy

/-
  In every workspace, whatever failures are laid in, the
  check of a channel predicts its reconciliation.
-/
theorem check_predicts
    (w : Workspace)
    (limits : Limits)
    (desired : Desired)
    (id : Datum)
    (hMembers : desired.members ≠ []) :
    w.Predicts limits desired id := by
  have hReads := Access.reads_fetch limits.members id
  cases hFetch :
      ((Access.fetch limits.members id).run remote
        w).result with
  | error problem =>
      exact predicts_of_unfetched hMembers hFetch
  | ok observed =>
      exact predicts_of_fetched hMembers
        ⟨hFetch, state_of_reads hReads w⟩

/-
  In the sample the check finds drift, and the channel is
  renamed.
-/
theorem check_predicts_sample :
    Workspace.sample.Predicts Limits.sample Desired.sample
        (.text "C1") ∧
      ((check Limits.sample Desired.sample
        (.text "C1")).run remote
          Workspace.sample).result = .ok true := by
  have hPredicts :=
    check_predicts Workspace.sample Limits.sample
      Desired.sample (.text "C1") (by decide)
  exact ⟨hPredicts, rfl⟩

end ChannelSync
