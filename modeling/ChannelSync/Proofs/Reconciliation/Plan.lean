import ChannelSync.Proofs.Datum.Distinct
import ChannelSync.Proofs.Reconciliation.Raising
import ChannelSync.Proofs.Reconciliation.Writes

/-
  The writes of a reconciliation, planned in advance.

  In a workspace where nothing is laid in, the writes can be
  told from the channel before the run.  An archived channel
  is taken out of the archive.  If the check then finds a
  difference, each attribute that does not show what is
  declared is set; and unless the members are found to be the
  declared ones, a user is invited for each address that
  leads to one, and each surplus member is removed.

  A run that returns makes exactly these writes, in this
  order, and so does a run that ends with the failures of
  some invitations.  The members are listed again after the
  invitations; but who was invited is welcome, so that the
  surplus members are those of the channel as it was.

  Key definitions include:
    * `Desired.attributeWrites`
    * `Workspace.memberWrites`
    * `compareMembers`
    * `Workspace.plannedWrites`

  Key theorems include:
    * `writes_alignAttributes`
    * `writes_alignMembers`
    * `settles_bind`
    * `reconcile_writes`
-/

------------------------------------------------------------
-- Planned Writes
------------------------------------------------------------

namespace ChannelSync

/- The requests that set what does not show as declared. -/
def Desired.attributeWrites
    (desired : Desired)
    (id : Datum)
    (state : Observed) :
    List Request :=
  (if state.name.shows desired.name then []
    else [.renameChannel id desired.name]) ++
  (if state.topic.shows desired.topic then []
    else [.setTopic id desired.topic]) ++
  (if state.description.shows desired.description then []
    else [.setPurpose id desired.description])

/-
  The requests that invite a user for each address that leads
  to one, and then remove each surplus member.
-/
def Workspace.memberWrites
    (w : Workspace)
    (desired : Desired)
    (id : Datum)
    (members : List Datum) :
    List Request :=
  ((desired.members.mergeSort Datum.textLE).map
    w.userByEmail).filterMap (Roster.invitation? id) ++
  (members.eraseDups.filter
    (w.isSurplus desired.members)).map (.removeMember id)

open Program

/- Compare the members of a channel with its declaration. -/
def compareMembers
    (limits : Limits)
    (desired : Desired)
    (id : Datum) :
    Program Bool := do
  let observed ← Access.fetch limits.members id
  Drift.membershipDiffers desired observed

/- The writes that correct a channel in which drift is found. -/
def Workspace.corrections
    (w : Workspace)
    (limits : Limits)
    (desired : Desired)
    (id : Datum)
    (room : Room) :
    List Request :=
  desired.attributeWrites id room.state ++
    match ((compareMembers limits desired id).run remote
        (w.putRoom id room)).result with
    | .ok false => []
    | _ => w.memberWrites desired id room.members

/- The writes of a reconciliation of a channel. -/
def Workspace.plannedWrites
    (w : Workspace)
    (limits : Limits)
    (desired : Desired)
    (id : Datum)
    (room : Room) :
    List Request :=
  (if room.state.archived.truthy then [.unarchiveChannel id]
    else []) ++
    match ((check limits desired id).run remote
        (w.putRoom id room.active)).result with
    | .ok true => w.corrections limits desired id room.active
    | _ => []

end ChannelSync

------------------------------------------------------------
-- Attributes
------------------------------------------------------------

namespace ChannelSync

open Program Workspace

variable {w after : Workspace}
variable {desired : Desired}
variable {id : Datum}
variable {room : Room}

/- A setter that returns wrote unless there was no need. -/
theorem Access.writes_of_ensured
    (hId : id.isText = true)
    {declared : Datum}
    {field : Observed → Datum}
    {event : Event}
    {set : Program Observed}
    {request : Request}
    (hSet :
      ∀ s : Workspace, (set.run remote s).writes = [request])
    {observed : Observed}
    (h : (ensure id declared field event set).Returns remote
      (w.putRoom id room) observed after) :
    ((ensure id declared field event set).run remote
        (w.putRoom id room)).writes =
      if (field room.state).shows declared then []
      else [request] := by
  have hEnsured := h
  unfold ensure at hEnsured
  rcases returns_bind.mp hEnsured with
    ⟨channel, middle, hInfo, hNext⟩
  rcases returns_bind.mp hNext with
    ⟨current, _, hCurrent, -⟩
  have hAnswer := (returns_info.mp hInfo).1
  rw [answer_channelInfo hId (get?_putRoom w id room)]
    at hAnswer
  have hState : room.state = channel := by
    cases hRefusal :
        (w.putRoom id room).refusal (.channelInfo id) with
    | error problem =>
        rw [hRefusal] at hAnswer
        cases hAnswer
    | ok _ =>
        rw [hRefusal] at hAnswer
        exact Except.ok.inj hAnswer
  have hShown := (returns_lift.mp hCurrent).1
  rw [writes_ensure hInfo hShown, hSet, hState]
  simp only [Datum.shows, hShown]

/- A run over the attributes sets those that differ. -/
theorem writes_alignAttributes
    (hId : id.isText = true)
    (hDesired : desired.WellTyped)
    (h : (alignAttributes desired id).Returns remote
      (w.putRoom id room) () after) :
    ((alignAttributes desired id).run remote
        (w.putRoom id room)).writes =
      desired.attributeWrites id room.state := by
  unfold alignAttributes at h ⊢
  rcases returns_bind.mp h with
    ⟨_, _, hName, hRest⟩
  rcases ((Access.edits_rename hId w room
      desired.name).returned hName) with
    ⟨-, rfl⟩
  rcases returns_bind.mp hRest with
    ⟨_, _, hTopic, hLast⟩
  rcases ((Access.edits_setTopic hId w _
      hDesired.topic).returned hTopic) with
    ⟨-, rfl⟩
  rcases returns_bind.mp hLast with
    ⟨_, _, hDescription, -⟩
  rw [writes_bind_of_returns hName,
    writes_bind_of_returns hTopic, writes_bind_of_reads]
  · rw [Access.rename_eq] at hName ⊢
    rw [Access.setTopic_eq] at hTopic ⊢
    rw [Access.setDescription_eq] at hDescription ⊢
    rw [Access.writes_of_ensured hId
        (writes_change (.renameChannel id desired.name)
          rfl _) hName,
      Access.writes_of_ensured hId
        (writes_change (.setTopic id desired.topic) rfl _)
        hTopic,
      Access.writes_of_ensured hId
        (writes_change (.setPurpose id desired.description)
          rfl _) hDescription,
      ← List.append_assoc]
    rfl
  · exact fun _ => trivial

end ChannelSync

------------------------------------------------------------
-- Members
------------------------------------------------------------

namespace ChannelSync

open Program Workspace

variable {w middle after : Workspace}
variable {limits : Limits}
variable {desired : Desired}
variable {id : Datum}
variable {room : Room}
variable {emails added : List Datum}
variable {failures : List Failure}

/- Nobody who is invited is surplus. -/
theorem not_isSurplus_of_invites
    (hw : w.WellTyped)
    (hEmails : ∀ email ∈ emails, email.isText = true)
    {userId : Datum}
    (h : w.Invites emails userId) :
    w.isSurplus emails userId = false := by
  rcases hw.welcomes_of_invites hEmails h with
    ⟨user, hUser, hWelcome⟩
  simp [isSurplus, hUser, hWelcome]

/- Where nothing is laid in, addresses are just looked up. -/
theorem Workspace.answer_userByEmail_eq
    (hOpen : w.failures.entries = [])
    {email : Datum}
    (hEmail : email.isText = true) :
    (w.answer (.userByEmail email)).1 =
      w.userByEmail email := by
  have hTyped : (Request.userByEmail email).WellTyped :=
    hEmail
  simp only [answer, refusal_of_no_failures hOpen hTyped,
    grant]

namespace Roster

/- All are invited in the order of their addresses. -/
theorem returns_inviteAll
    (hDesired : desired.WellTyped) :
    (inviteAll id desired.members).Returns remote w failures
        after ↔
      (inviteEach id
        (desired.members.mergeSort Datum.textLE)).Returns
          remote w failures after := by
  rw [inviteAll_eq hDesired.members]

/- The users that addresses lead to are invited. -/
theorem writes_inviteAll
    (hOpen : w.failures.entries = [])
    (hDesired : desired.WellTyped)
    (h : (inviteAll id desired.members).Returns remote w
      failures after) :
    ((inviteAll id desired.members).run remote w).writes =
      ((desired.members.mergeSort Datum.textLE).map
        w.userByEmail).filterMap (invitation? id) := by
  have hInvited := (returns_inviteAll hDesired).mp h
  unfold inviteAll
  rw [Datum.sorted_texts hDesired.members]
  change ((inviteEach id _).run remote w).writes = _
  rw [writes_inviteEach w.alike_self hInvited]
  apply congrArg (List.filterMap (invitation? id))
  apply List.map_congr_left
  intro email hEmail
  exact answer_userByEmail_eq hOpen
    (hDesired.mergeSort email hEmail)

/-
  The surplus members are removed.  Users added before who
  are not surplus make no difference.
-/
theorem writes_removeOthers
    (hLimits : limits.Positive)
    (hw : w.WellTyped)
    (hId : id.isText = true)
    (hRoom : room.WellTyped)
    (hTexts : ∀ userId ∈ added, userId.isText = true)
    (hAdded :
      ∀ userId ∈ added, w.isSurplus emails userId = false)
    (h : (removeOthers limits.members id emails).Returns
      remote
      (w.putRoom id
        (room.withMembers (room.members ++ added))) ()
      after) :
    ((removeOthers limits.members id emails).run remote
        (w.putRoom id
          (room.withMembers (room.members ++ added)))).writes =
      (room.members.eraseDups.filter
        (w.isSurplus emails)).map (.removeMember id) := by
  rcases hLimits.members with
    ⟨size, hSize, hLimit⟩
  unfold removeOthers at h ⊢
  rcases returns_bind.mp h with
    ⟨ids, middle, hListed, hRemoved⟩
  have hListing := hListed
  rw [hLimit] at hListing
  have hDistinct :
      Datum.distinct (room.members ++ added) = .ok ids :=
    (Access.memberIds_returned hId hSize
      (get?_putRoom _ _ _) hListing).1
  have hIds : ∀ userId ∈ ids, userId.isText = true := by
    intro userId hMem
    rcases List.mem_append.mp
        (Datum.mem_of_mem_distinct hDistinct hMem) with
      hMember | hNew
    · exact hRoom.members userId hMember
    · exact hTexts userId hNew
  rcases Datum.distinct_append_texts hRoom.members hDistinct
      with
    ⟨extra, hSplit, hExtra⟩
  have hNone : extra.filter (w.isSurplus emails) = [] := by
    apply List.filter_eq_nil_iff.mpr
    intro userId hMem
    simp [hAdded userId (hExtra userId hMem)]
  have hAlike : w.Alike middle := by
    apply Alike.of_returns _ hListed
    exact ⟨rfl, rfl⟩
  rw [writes_bind_of_returns hListed,
    writes_of_reads (Access.reads_memberIds _ _),
    List.nil_append,
    writes_removeEach hw hIds hAlike hRemoved, hSplit,
    List.filter_append, hNone, List.append_nil]

end Roster

end ChannelSync

------------------------------------------------------------
-- Runs That Come to an End
------------------------------------------------------------

namespace ChannelSync

open Program Workspace

/-
  A run returns, or it ends with the failures of some
  invitations.
-/
def Program.Settles
    (p : Program α)
    (w : Workspace) :
    Prop :=
  (∃ a, (p.run remote w).result = .ok a) ∨
    ∃ failures, (p.run remote w).result =
      .error (.failure (.partialMembership failures))

variable {α β : Type}
variable {w after : Workspace}

/-
  If both parts come to such an end together, a first part
  that only passes failures on returns.
-/
theorem settles_bind
    {p : Program α}
    {next : α → Program β}
    (hSingly : w.RefusesSingly)
    (hRaises : p.Raises Failure.IsSingle)
    (h : (p >>= next).Settles w) :
    ∃ a middle, p.Returns remote w a middle ∧
      middle.RefusesSingly ∧ (next a).Settles middle := by
  cases hFirst : (p.run remote w).result with
  | ok a =>
      have hReturns :
          p.Returns remote w a (p.run remote w).state :=
        ⟨hFirst, rfl⟩
      refine ⟨a, _, hReturns,
        hSingly.congr (w.alike_self.of_returns hReturns), ?_⟩
      unfold Settles at h ⊢
      rw [hReturns.result_bind] at h
      exact h
  | error problem =>
      have hResult :
          ((p >>= next).run remote w).result =
            .error problem :=
        result_bind_of_error hFirst
      rcases h with ⟨b, hValue⟩ | ⟨failures, hPartial⟩
      · rw [hResult] at hValue
        cases hValue
      · rw [hResult] at hPartial
        cases hPartial
        exact (isSingle_of_raises hSingly hRaises hFirst).elim

variable {limits : Limits}
variable {desired : Desired}
variable {id : Datum}
variable {room : Room}

/- The members are brought in line by the planned writes. -/
theorem writes_alignMembers
    (hOpen : w.failures.entries = [])
    (hLimits : limits.Positive)
    (hw : w.WellTyped)
    (hId : id.isText = true)
    (hDesired : desired.WellTyped)
    (hRoom : room.WellTyped)
    {next : Unit → Program β}
    (hNext : ∀ u, (next u).Reads)
    (h : (alignMembers limits desired id >>= next).Settles
      (w.putRoom id room)) :
    ((alignMembers limits desired id >>= next).run remote
        (w.putRoom id room)).writes =
      w.memberWrites desired id room.members := by
  have hPut : (w.putRoom id room).failures.entries = [] :=
    hOpen
  unfold alignMembers at h ⊢
  simp only [LawfulMonad.bind_assoc] at h ⊢
  rcases settles_bind (refusesSingly_of_no_failures hPut)
      ((Conduct.raising _).inviteAll id desired.members) h with
    ⟨failures, middle, hInvited, hSingly, hRest⟩
  rcases settles_bind hSingly
      ((Conduct.raising _).removeOthers _ _ _) hRest with
    ⟨_, last, hRemoved, -, -⟩
  rcases Roster.inviteAll_appends hw hId hDesired.members
      hInvited with
    ⟨added, rfl, hAdded⟩
  have hInvites :
      ∀ userId ∈ added, w.Invites desired.members userId :=
    fun userId hMem => (hAdded userId hMem).1
  have hTexts : ∀ userId ∈ added, userId.isText = true :=
    fun userId hMem => hw.isText_of_invites hDesired.members
      (hInvites userId hMem)
  have hKept :
      ∀ userId ∈ added,
        w.isSurplus desired.members userId = false :=
    fun userId hMem => not_isSurplus_of_invites hw
      hDesired.members (hInvites userId hMem)
  have hEnd :
      ((if failures.isEmpty = true then pure ()
        else fail (.partialMembership failures)) >>=
          next).Reads := by
    apply Sends.bind _ hNext
    split <;> trivial
  rw [writes_bind_of_returns hInvited,
    writes_bind_of_returns hRemoved, writes_of_reads hEnd,
    List.append_nil,
    Roster.writes_inviteAll hPut hDesired hInvited,
    Roster.writes_removeOthers hLimits hw hId hRoom hTexts
      hKept hRemoved]
  rfl

end ChannelSync

------------------------------------------------------------
-- The Whole Run
------------------------------------------------------------

namespace ChannelSync

open Program Workspace

variable {w : Workspace}
variable {limits : Limits}
variable {desired : Desired}
variable {id : Datum}
variable {room : Room}
variable {observed : Observed}

/- The members do not differ exactly if they agree. -/
theorem mayDiffer_false_iff
    (hw : w.WellTyped)
    (hDesired : desired.WellTyped)
    (hMembers :
      ∀ userId ∈ observed.memberIds, userId.isText = true) :
    ((membershipMayDiffer desired observed).run remote
        w).result = .ok false ↔
      w.Agrees desired.members observed.memberIds := by
  have hSame :
      ∀ after,
        (membershipMayDiffer desired observed).Returns remote
            w false after ↔
          after = w ∧
            w.Agrees desired.members observed.memberIds :=
    fun _ => membershipMayDiffer_false_iff.trans
      (Drift.membershipDiffers_false_iff hw hDesired
        hMembers)
  constructor
  · intro h
    exact ((hSame _).mp ⟨h, rfl⟩).2
  · intro h
    exact ((hSame w).mpr ⟨rfl, h⟩).result_eq

/- The same can be told from the fetched channel. -/
theorem compareMembers_false_iff
    (hw : w.WellTyped)
    (hDesired : desired.WellTyped)
    (hMembers :
      ∀ userId ∈ observed.memberIds, userId.isText = true)
    (hFetched :
      (Access.fetch limits.members id).Returns remote w
        observed w) :
    ((compareMembers limits desired id).run remote
        w).result = .ok false ↔
      w.Agrees desired.members observed.memberIds := by
  have hSame :
      ∀ after,
        (Drift.membershipDiffers desired observed).Returns
            remote w false after ↔
          after = w ∧
            w.Agrees desired.members observed.memberIds :=
    fun _ => Drift.membershipDiffers_false_iff hw hDesired
      hMembers
  constructor
  · intro h
    have hReturns :
        (compareMembers limits desired id).Returns remote w
          false _ :=
      ⟨h, rfl⟩
    rcases returns_bind.mp hReturns with
      ⟨again, middle, hAgain, hDiffers⟩
    rcases hFetched.unique hAgain with
      ⟨rfl, rfl⟩
    exact ((hSame _).mp hDiffers).2
  · intro h
    have hDiffers := (hSame w).mpr ⟨rfl, h⟩
    exact (hFetched.bind hDiffers).result_eq

/-
  A channel in which drift is found is corrected by the
  planned writes.
-/
theorem writes_corrections
    (hOpen : w.failures.entries = [])
    (hLimits : limits.Positive)
    (hw : w.WellTyped)
    (hId : id.isText = true)
    (hDesired : desired.WellTyped)
    (hRoom : room.WellTyped)
    (hRoomId : room.state.id = id)
    (hFetched :
      (Access.fetch limits.members id).Returns remote
        (w.putRoom id room) observed (w.putRoom id room))
    (h : (correct limits desired id observed).Settles
      (w.putRoom id room)) :
    ((correct limits desired id observed).run remote
        (w.putRoom id room)).writes =
      w.corrections limits desired id room := by
  have hPut : (w.putRoom id room).failures.entries = [] :=
    hOpen
  have hTyped := hw.putRoom hId hRoom hRoomId
  have hTexts :=
    (shownAs_of_fetched hLimits hId hRoom hFetched).isText
      hRoom
  unfold correct at h ⊢
  rcases settles_bind (refusesSingly_of_no_failures hPut)
      ((Conduct.raising _).alignAttributes desired id) h with
    ⟨_, middle, hAligned, hSingly, hRest⟩
  rcases alignAttributes_returned hId hDesired hAligned with
    ⟨-, rfl⟩
  have hSettled : (room.edit desired.settle).WellTyped :=
    hRoom.edit (hRoom.state.settle hDesired) rfl
  have hSettledTyped := hw.putRoom hId hSettled hRoomId
  rcases settles_bind hSingly
      ((Conduct.raising _).membershipMayDiffer desired
        observed) hRest with
    ⟨mayDiffer, middle, hCompared, -, hLast⟩
  have hSame :=
    state_of_returned (reads_membershipMayDiffer _ _)
      hCompared
  subst hSame
  -- The comparison before the changes decides the one after.
  have hBefore :=
    compareMembers_false_iff hTyped hDesired hTexts hFetched
  have hAfter :=
    mayDiffer_false_iff hSettledTyped hDesired hTexts
  rw [hCompared.result_eq] at hAfter
  rw [agrees_putRoom] at hBefore hAfter
  rw [writes_bind_of_returns hAligned,
    writes_alignAttributes hId hDesired hAligned,
    writes_bind_of_returns hCompared,
    writes_of_reads (reads_membershipMayDiffer _ _),
    List.nil_append]
  unfold corrections
  rw [List.append_cancel_left_eq]
  cases mayDiffer with
  | false =>
      rw [hBefore.mpr (hAfter.mp rfl),
        if_neg Bool.false_ne_true]
      exact writes_of_reads (Access.reads_fetch _ _) _
  | true =>
      have hDiffer :
          ((compareMembers limits desired id).run remote
            (w.putRoom id room)).result ≠ .ok false := by
        intro hFalse
        have hTrue := hAfter.mpr (hBefore.mp hFalse)
        cases hTrue
      rw [if_pos rfl] at hLast ⊢
      have hWrites :=
        writes_alignMembers hOpen hLimits hw hId hDesired
          hSettled (fun _ => Access.reads_fetch _ _) hLast
      rw [hWrites]
      split
      case h_1 hFalse => exact absurd hFalse hDiffer
      case h_2 => rfl

/- An existing channel is brought in line by these writes. -/
theorem writes_converge
    (hOpen : w.failures.entries = [])
    (hLimits : limits.Positive)
    (hw : w.WellTyped)
    (hId : id.isText = true)
    (hDesired : desired.WellTyped)
    (hRoom : room.WellTyped)
    (hRoomId : room.state.id = id)
    (h : (converge limits desired id).Settles
      (w.putRoom id room)) :
    ((converge limits desired id).run remote
        (w.putRoom id room)).writes =
      w.plannedWrites limits desired id room := by
  have hPut : (w.putRoom id room).failures.entries = [] :=
    hOpen
  rw [converge_eq] at h ⊢
  rcases settles_bind (refusesSingly_of_no_failures hPut)
      ((Conduct.raising _).fetchActive limits id) h with
    ⟨observed, middle, hActive, hSingly, hRest⟩
  rcases fetchActive_returned hLimits hId hRoom hActive with
    ⟨rfl, hFetched⟩
  have hFirst := hActive
  unfold fetchActive at hFirst
  rcases returns_bind.mp hFirst with
    ⟨first, _, hFirst, -⟩
  have hArchived : first.archived = room.state.archived :=
    (shownAs_of_fetched hLimits hId hRoom hFirst).archived
  rcases settles_bind hSingly
      ((Conduct.raising _).notePrivacy _ _ _) hRest with
    ⟨_, middle, hNoted, hSingly, hRest⟩
  cases notePrivacy_returns.mp hNoted
  unfold correctDrift at hRest ⊢
  rcases settles_bind hSingly
      ((Conduct.raising _).detected desired observed) hRest with
    ⟨drift, middle, hDrift, hSingly, hLast⟩
  have hSame :=
    state_of_returned (Drift.reads_detected _ _) hDrift
  subst hSame
  have hCheck :
      ((check limits desired id).run remote
        (w.putRoom id room.active)).result = .ok drift :=
    (hFetched.bind hDrift).result_eq
  rw [writes_bind_of_returns hActive,
    writes_fetchActive hFirst, hArchived,
    writes_bind_of_returns hNoted,
    writes_of_reads (sends_notePrivacy _ _ _),
    List.nil_append, writes_bind_of_returns hDrift,
    writes_of_reads (Drift.reads_detected _ _),
    List.nil_append]
  unfold plannedWrites
  rw [hCheck, List.append_cancel_left_eq]
  cases drift with
  | false => exact writes_record_bind
  | true =>
      rcases settles_bind (p := record _) hSingly trivial hLast
          with
        ⟨_, _, hNoted, -, hCorrect⟩
      cases returns_record.mp hNoted
      rw [if_pos rfl, writes_record_bind]
      exact writes_corrections hOpen hLimits hw hId hDesired
        hRoom.active hRoomId hFetched hCorrect

/-
  In a workspace where nothing is laid in, a reconciliation
  of a channel that returns, or that ends with the failures
  of some invitations, makes exactly the planned writes.
-/
theorem reconcile_writes
    (hReachable : w.Reachable)
    (hOpen : w.failures.entries = [])
    (hLimits : limits.Positive)
    (hDesired : desired.WellTyped)
    (hId : id.isText = true)
    (hFound : w.channels.get? id = some room)
    (h : (reconcile limits desired (some id)).Settles w) :
    ((reconcile limits desired (some id)).run remote
        w).writes =
      w.plannedWrites limits desired id room := by
  have hw := hReachable.wellTyped
  have hPut := putRoom_of_get? hFound
  have hRoom := hw.room_of_get? hId hFound
  have hRoomId := hw.roomId_of_get? hId hFound
  rcases settles_bind (refusesSingly_of_no_failures hOpen)
      (raises_validate desired) h with
    ⟨_, middle, hValid, -, hConverge⟩
  rcases ends_validate_ok hValid.ends with
    ⟨rfl, -⟩
  rw [← hPut] at hConverge
  have hWrites := writes_converge hOpen hLimits hw hId
    hDesired hRoom hRoomId hConverge
  rw [hPut] at hWrites
  unfold reconcile
  rw [writes_bind_of_returns hValid,
    writes_of_reads (sends_validate desired),
    List.nil_append]
  exact hWrites

/-
  In the sample the channel is renamed, one user is invited
  and one is removed.
-/
theorem reconcile_writes_sample :
    ((reconcile Limits.sample Desired.sample
        (some (.text "C1"))).run remote
          Workspace.sample).writes =
      Workspace.sample.plannedWrites Limits.sample
        Desired.sample (.text "C1") Room.sample ∧
    Workspace.sample.plannedWrites Limits.sample
        Desired.sample (.text "C1") Room.sample =
      [.renameChannel (.text "C1") (.text "dinner"),
        .inviteMembers (.text "C1") [.text "U1"],
        .removeMember (.text "C1") (.text "U2")] := by
  have hSettles :
      (reconcile Limits.sample Desired.sample
        (some (.text "C1"))).Settles Workspace.sample :=
    Or.inl ⟨_, rfl⟩
  have hWrites :=
    reconcile_writes reachable_sample no_failures_sample
      Limits.positive_sample Desired.wellTyped_sample rfl rfl
      hSettles
  refine ⟨hWrites, hWrites.symm.trans ?_⟩
  rfl

end ChannelSync
