import ChannelSync.Proofs.Reconciliation.Membership

/-
  The course of a reconciliation of one channel.

  The channel is fetched and taken out of the archive.  If
  something differs, its attributes are aligned, then its
  members unless they agree, and it is fetched again.  Each
  of these stages leaves alone what the earlier ones did.

  So a run that returns leaves settled attributes behind and
  members that are in line, whichever way it took, and what
  it reports is a fetch of what it left behind.

  Key definitions include:
    * `Room.active`
    * `Workspace.Ready`

  Key theorems include:
    * `preserves_converge`
    * `converge_returned`
    * `converge_ready`
    * `converge_returns`
-/

------------------------------------------------------------
-- Out of the Archive
------------------------------------------------------------

namespace ChannelSync

/- A room out of the archive. -/
def Room.active
    (room : Room) :
    Room :=
  room.edit fun state =>
    { state with archived := .flag false }

/- A room out of the archive is well typed. -/
theorem Room.WellTyped.active
    {room : Room}
    (h : room.WellTyped) :
    room.active.WellTyped where
  state :=
    { id := h.state.id
      name := h.state.name
      description := h.state.description
      topic := h.state.topic
      isPrivate := h.state.isPrivate
      archived := rfl }
  memberIds := h.memberIds
  members := h.members

/- A room with settled attributes is well typed. -/
theorem Room.WellTyped.settled
    {room : Room}
    {desired : Desired}
    (h : room.WellTyped)
    (hDesired : desired.WellTyped) :
    (room.active.edit desired.settle).WellTyped :=
  h.active.edit (h.active.state.settle hDesired) rfl

/- Nothing changes for a room that is not archived. -/
theorem Room.WellTyped.active_eq
    {room : Room}
    (h : room.WellTyped)
    (hArchived : room.state.archived.truthy = false) :
    room.active = room := by
  rcases Datum.exists_flag
    h.state.archived with
    ⟨archived, hFlag⟩
  have hFalse : archived = false := by
    rw [hFlag] at hArchived
    exact hArchived
  rcases room with ⟨⟨_, _, _, _, _, _, _⟩, _⟩
  simp only [hFalse] at hFlag
  simp only [Room.active, Room.edit, hFlag]

open Program Workspace

variable {w after : Workspace}
variable {limits : Limits}
variable {id : Datum}
variable {room : Room}
variable {observed : Observed}

/- What is fetched is archived if the room is. -/
theorem Room.ShownAs.archived
    (h : room.ShownAs observed) :
    observed.archived = room.state.archived := by
  rw [← h.attributes]

/- Fetching leaves a workspace as it is. -/
theorem fetch_state
    {limit : Datum}
    {s : Workspace}
    (h : (Access.fetch limit id).Returns remote s observed
      after) :
    after = s :=
  state_of_returned (Access.reads_fetch limit id) h

/- The channel is out of the archive when it is fetched. -/
theorem fetchActive_returned
    (hLimits : limits.Positive)
    (hId : id.isText = true)
    (hRoom : room.WellTyped)
    (h : (fetchActive limits id).Returns remote
      (w.putRoom id room) observed after) :
    after = w.putRoom id room.active ∧
      (Access.fetch limits.members id).Returns remote
        after observed after := by
  rcases hLimits.members with ⟨size, hSize, hLimit⟩
  unfold fetchActive at h
  simp only [returns_bind] at h
  rcases h with ⟨first, middle, hFirst, h⟩
  cases fetch_state hFirst
  have hShown := hFirst
  rw [hLimit] at hShown
  have hArchived :=
    (Access.fetch_returned hId hSize hRoom
      (get?_putRoom w id room) hShown).1.archived
  cases hTruthy : first.archived.truthy with
  | true =>
      simp only [hTruthy, if_true, returns_bind,
        returns_record] at h
      rcases h with ⟨_, _, rfl, _, _, hUnarchived, hSecond⟩
      rcases (Access.edits_unarchive hId w room).returned
          hUnarchived with
        ⟨-, rfl⟩
      cases fetch_state hSecond
      exact ⟨rfl, hSecond⟩
  | false =>
      simp only [hTruthy, Bool.false_eq_true, if_false,
        returns_pure] at h
      rcases h with ⟨rfl, rfl⟩
      rw [hArchived] at hTruthy
      exact ⟨by rw [hRoom.active_eq hTruthy], hFirst⟩

/- Where nothing is laid in, an active channel is fetched. -/
theorem fetchActive_returns
    (hOpen : w.failures.entries = [])
    {size : Nat}
    (hSize : 0 < size)
    (hLimit : limits.members = .number size)
    (hId : id.isText = true)
    (hRoom : room.WellTyped)
    (hWritable :
      Paging.Writable size 0 room.members.length) :
    ∃ observed,
      (fetchActive limits id).Returns remote
        (w.putRoom id room) observed
        (w.putRoom id room.active) := by
  rcases Access.fetch_returns hId hSize hRoom
      (get?_putRoom w id room) hOpen hWritable with
    ⟨first, hFirst⟩
  have hArchived :=
    (Access.fetch_returned hId hSize hRoom
      (get?_putRoom w id room) hFirst).1.archived
  unfold fetchActive
  simp only [returns_bind, hLimit]
  cases hTruthy : first.archived.truthy with
  | false =>
      rw [hArchived] at hTruthy
      rw [hRoom.active_eq hTruthy]
      refine ⟨first, first, _, hFirst, ?_⟩
      rw [hArchived, hTruthy, if_neg Bool.false_ne_true]
      exact returns_pure_self
  | true =>
      have hTyped :
          (Request.unarchiveChannel id).WellTyped := hId
      have hRefusal :
          (w.refusal (.unarchiveChannel id)).bind
              (fun _ =>
                if room.state.archived.truthy then .ok ()
                else .error (.failure Refusal.notArchived)) =
            .ok () := by
        rw [refusal_of_no_failures hOpen hTyped,
          ← hArchived, hTruthy]
        rfl
      rcases (Access.edits_unarchive hId w room).returns
          hRefusal with
        ⟨_, hUnarchived⟩
      rcases Access.fetch_returns hId hSize hRoom.active
          (get?_putRoom w id room.active) hOpen hWritable with
        ⟨second, hSecond⟩
      refine ⟨second, first, _, hFirst, ?_⟩
      rw [hTruthy, if_pos rfl]
      simp only [returns_bind, returns_record]
      exact ⟨(), _, rfl, (), _, hUnarchived, hSecond⟩

/- Fetching keeps what being active leaves true. -/
theorem preserves_fetchActive
    {P : Room → Prop}
    (hId : id.isText = true)
    (hActive : ∀ room, P room → P room.active) :
    (fetchActive limits id).Preserves remote
      (w.Holding id P) := by
  have hUnarchive :
      (Access.unarchive id).Preserves remote
        (w.Holding id P) :=
    preserves_of_edits
      (fun room => Access.edits_unarchive hId w room)
      fun room _ => hActive room
  refine (preserves_of_reads
    (Access.reads_fetch _ _)).bind fun _ first _ _ => ?_
  split
  · refine (preserves_record _).bind fun _ _ _ _ => ?_
    apply hUnarchive.bind
    intro _ _ _ _
    exact preserves_of_reads (Access.reads_fetch _ _)
  · exact preserves_done _

/- A channel that is not archived is only fetched. -/
theorem fetchActive_silent
    (hFetched :
      (Access.fetch limits.members id).Returns remote w
        observed w)
    (hActive : observed.archived.truthy = false) :
    (fetchActive limits id).Silent remote w observed := by
  have hFetch :=
    silent_of_reads (Access.reads_fetch _ _) hFetched
  apply hFetch.bind
  simp only [hActive, Bool.false_eq_true, if_false]
  exact silent_pure observed

/- Fetching an active channel gives up at a refusal. -/
theorem strict_fetchActive
    (limits : Limits)
    (id : Datum) :
    (fetchActive limits id).Strict := by
  apply (Access.strict_fetch _ _).bind
  intro first
  split
  · exact (strict_reporting_send _ _).bind fun _ =>
      Access.strict_fetch _ _
  · trivial

end ChannelSync

------------------------------------------------------------
-- Stages
------------------------------------------------------------

namespace ChannelSync

open Program Workspace

variable {w after : Workspace}
variable {limits : Limits}
variable {desired : Desired}
variable {id : Datum}
variable {room : Room}
variable {observed : Observed}

/- Looking whether members may differ only reads. -/
theorem reads_membershipMayDiffer
    (desired : Desired)
    (observed : Observed) :
    (membershipMayDiffer desired observed).Reads := by
  apply Sends.bind
    (Drift.reads_membershipDiffers desired observed).attempt
  intro verdict
  cases verdict <;> trivial

/- Members may differ unless the check says otherwise. -/
theorem membershipMayDiffer_false_iff
    {s : Workspace} :
    (membershipMayDiffer desired observed).Returns remote s
        false after ↔
      (Drift.membershipDiffers desired observed).Returns
        remote s false after := by
  unfold membershipMayDiffer
  simp only [returns_bind]
  constructor
  · intro h
    rcases h with ⟨verdict, middle, hVerdict, h⟩
    cases verdict with
    | ok differs =>
        rcases returns_pure.mp h with ⟨rfl, rfl⟩
        exact returns_attempt_ok.mp hVerdict
    | error failure =>
        simp only [returns_bind, returns_pure] at h
        rcases h with ⟨_, _, -, hFound, -⟩
        cases hFound
  · intro h
    exact ⟨.ok false, after, returns_attempt_ok.mpr h,
      returns_pure_self⟩

/- There is an answer if everyone can be looked up. -/
theorem membershipMayDiffer_returns
    (hw : w.WellTyped)
    (hDesired : desired.WellTyped)
    (hMembers :
      ∀ userId ∈ observed.memberIds, userId.isText = true)
    (h : w.Consulted desired.members observed.memberIds) :
    ∃ answer,
      (membershipMayDiffer desired observed).Returns remote w
        answer w := by
  rcases Drift.membershipDiffers_returns hw hDesired
      hMembers h with
    ⟨verdict, hVerdict⟩
  unfold membershipMayDiffer
  simp only [returns_bind]
  exact ⟨verdict, .ok verdict, w,
    returns_attempt_ok.mpr hVerdict,
    returns_pure_self⟩

/- Noting the privacy changes nothing. -/
theorem notePrivacy_returns
    {u : Unit}
    {s : Workspace} :
    (notePrivacy desired observed id).Returns remote s u
        after ↔
      after = s := by
  unfold notePrivacy
  split
  · exact ⟨fun h => (returns_pure.mp h).2,
      fun h => returns_pure.mpr ⟨rfl, h⟩⟩
  · exact returns_record

/- Noting the privacy is silent. -/
theorem notePrivacy_silent
    (s : Workspace) :
    (notePrivacy desired observed id).Silent remote s
      () := by
  unfold notePrivacy
  split
  · exact silent_pure ()
  · exact silent_record _

/- Noting the privacy preserves everything. -/
theorem preserves_notePrivacy
    {inv : Workspace → Prop} :
    (notePrivacy desired observed id).Preserves remote
      inv := by
  unfold notePrivacy
  split
  · exact preserves_done _
  · exact preserves_record _

/- Nothing fails while the privacy is noted. -/
theorem strict_notePrivacy
    (desired : Desired)
    (observed : Observed)
    (id : Datum) :
    (notePrivacy desired observed id).Strict := by
  unfold notePrivacy
  split <;> trivial

/-
  The ways of a reconciliation that returns: there was
  nothing to do, only the attributes were aligned, or the
  members were, too.
-/
inductive Workspace.Course
    (w : Workspace)
    (limits : Limits)
    (desired : Desired)
    (id : Datum)
    (room : Room)
    (observed : Observed) :
    Workspace → Prop where
  | upToDate
      (hFetched :
        (Access.fetch limits.members id).Returns remote
          (w.putRoom id room.active) observed
          (w.putRoom id room.active))
      (hSame :
        (Drift.detected desired observed).Returns remote
          (w.putRoom id room.active) false
          (w.putRoom id room.active)) :
      Course w limits desired id room observed
        (w.putRoom id room.active)
  | attributes
      {first : Observed}
      {after : Workspace}
      (hFetched :
        (Access.fetch limits.members id).Returns remote
          (w.putRoom id room.active) first
          (w.putRoom id room.active))
      (hAligned :
        (alignAttributes desired id).Returns remote
          (w.putRoom id room.active) () after)
      (hSame :
        (Drift.membershipDiffers desired first).Returns
          remote after false after)
      (hLast :
        (Access.fetch limits.members id).Returns remote
          after observed after) :
      Course w limits desired id room observed after
  | members
      {middle after : Workspace}
      (hAligned :
        (alignAttributes desired id).Returns remote
          (w.putRoom id room.active) () middle)
      (hMembers :
        (alignMembers limits desired id).Returns remote
          middle () after)
      (hLast :
        (Access.fetch limits.members id).Returns remote
          after observed after) :
      Course w limits desired id room observed after

/- Whichever way it took, it ends with what is fetched. -/
theorem Workspace.Course.fetched
    (h : w.Course limits desired id room observed after) :
    (Access.fetch limits.members id).Returns remote after
      observed after := by
  cases h with
  | upToDate hFetched hSame => exact hFetched
  | attributes hFetched hAligned hSame hLast => exact hLast
  | members hAligned hMembers hLast => exact hLast

/- A reconciliation that returns took one of these ways. -/
theorem converge_course
    (hLimits : limits.Positive)
    (hId : id.isText = true)
    (hRoom : room.WellTyped)
    (h : (converge limits desired id).Returns remote
      (w.putRoom id room) observed after) :
    w.Course limits desired id room observed after := by
  unfold converge at h
  simp only [returns_bind] at h
  rcases h with
    ⟨first, active, hActive, _, _, hNoted, drift, _, hDrift,
      h⟩
  cases notePrivacy_returns.mp hNoted
  rcases fetchActive_returned hLimits hId hRoom hActive with
    ⟨rfl, hFetched⟩
  have hState :=
    state_of_returned (Drift.reads_detected _ _) hDrift
  subst hState
  cases drift with
  | false =>
      simp only [Bool.false_eq_true, if_false, returns_bind,
        returns_record, returns_pure] at h
      rcases h with ⟨_, _, rfl, rfl, rfl⟩
      exact .upToDate hFetched hDrift
  | true =>
      simp only [if_true, returns_bind, returns_record] at h
      rcases h with
        ⟨_, _, rfl, _, settled, hAligned, mayDiffer, looked,
          hLooked, h⟩
      have hState :=
        state_of_returned (reads_membershipMayDiffer _ _)
          hLooked
      subst hState
      cases mayDiffer with
      | false =>
          have hLast :
              (Access.fetch limits.members id).Returns
                remote looked observed after :=
            h
          cases fetch_state hLast
          exact .attributes hFetched hAligned
            (membershipMayDiffer_false_iff.mp hLooked) hLast
      | true =>
          simp only [if_true, returns_bind] at h
          rcases h with ⟨_, _, hMembers, hLast⟩
          cases fetch_state hLast
          exact .members hAligned hMembers hLast

end ChannelSync

------------------------------------------------------------
-- What Holds When It Returns
------------------------------------------------------------

namespace ChannelSync

open Program Workspace

variable {w after : Workspace}
variable {limits : Limits}
variable {desired : Desired}
variable {id : Datum}
variable {room : Room}
variable {observed : Observed}

/- A report of a well-typed room has texts as members. -/
theorem Room.ShownAs.isText
    (h : room.ShownAs observed)
    (hRoom : room.WellTyped) :
    ∀ userId ∈ observed.memberIds, userId.isText = true :=
  fun userId hMem =>
    hRoom.members userId ((h.members userId).mp hMem)

/- What is fetched is shown as the room is. -/
theorem shownAs_of_fetched
    (hLimits : limits.Positive)
    (hId : id.isText = true)
    (hRoom : room.WellTyped)
    (hFetched :
      (Access.fetch limits.members id).Returns remote
        (w.putRoom id room) observed after) :
    room.ShownAs observed := by
  rcases hLimits.members with ⟨size, hSize, hLimit⟩
  rw [hLimit] at hFetched
  exact (Access.fetch_returned hId hSize hRoom
    (get?_putRoom w id room) hFetched).1

/- If the members of a report do not differ, they agree. -/
theorem agrees_of_same_members
    (hw : w.WellTyped)
    (hDesired : desired.WellTyped)
    (hRoom : room.WellTyped)
    (hShown : room.ShownAs observed)
    (hSame :
      (Drift.membershipDiffers desired observed).Returns
        remote w false after) :
    w.Agrees desired.members room.members := by
  rcases (Drift.membershipDiffers_false_iff hw hDesired
      (hShown.isText hRoom)).mp hSame with
    ⟨-, hAgrees⟩
  exact hAgrees.congr hShown.members

/- If nothing differs, the room is as it is declared. -/
theorem shows_of_same
    (hw : w.WellTyped)
    (hDesired : desired.WellTyped)
    (hRoom : room.WellTyped)
    (hShown : room.ShownAs observed)
    (hSame :
      (Drift.detected desired observed).Returns remote w
        false after) :
    room.state.name.unescaped = .ok desired.name ∧
      room.state.topic.unescaped = .ok desired.topic ∧
      room.state.description.unescaped =
        .ok desired.description ∧
      w.Agrees desired.members room.members := by
  rcases (Drift.detected_false_iff hw hDesired
      (hShown.isText hRoom)).mp hSame with
    ⟨hName, hTopic, hDescription, -, hAgrees⟩
  rw [← hShown.attributes]
  exact ⟨hName, hTopic, hDescription,
    hAgrees.congr hShown.members⟩

/-
  Whichever way it took, a reconciliation leaves settled
  attributes behind, members that are in line, and a report
  that is a fetch of the channel.
-/
theorem converge_returned
    (hLimits : limits.Positive)
    (hw : w.WellTyped)
    (hId : id.isText = true)
    (hDesired : desired.WellTyped)
    (hRoom : room.WellTyped)
    (hRoomId : room.state.id = id)
    (hNodup : room.members.Nodup)
    (hOpen : w.InvitesOpenly)
    (h : (converge limits desired id).Returns remote
      (w.putRoom id room) observed after) :
    ∃ room', after = w.putRoom id room' ∧
      room'.WellTyped ∧
      room'.state = desired.settle room.active.state ∧
      w.Staffed desired.members room.members
        room'.members ∧
      (Access.fetch limits.members id).Returns remote after
        observed after := by
  have hActive : (w.putRoom id room.active).WellTyped :=
    hw.putRoom hId hRoom.active hRoomId
  have hSettled := hRoom.settled hDesired
  cases converge_course hLimits hId hRoom h with
  | upToDate hFetched hSame =>
      have hShown :=
        shownAs_of_fetched hLimits hId hRoom.active hFetched
      rcases shows_of_same hActive hDesired hRoom.active
          hShown hSame with
        ⟨hName, hTopic, hDescription, hAgrees⟩
      refine ⟨room.active, rfl, hRoom.active, ?_,
        (agrees_putRoom.mp hAgrees).staffed hNodup, hFetched⟩
      exact (Desired.settle_of_shows
        ((Datum.shows_iff hDesired.name).mpr hName)
        ((Datum.shows_iff hDesired.topic).mpr hTopic)
        ((Datum.shows_iff hDesired.description).mpr
          hDescription)).symm
  | attributes hFetched hAligned hSame hLast =>
      have hShown :=
        shownAs_of_fetched hLimits hId hRoom.active hFetched
      rcases alignAttributes_returned hId hDesired hAligned
          with
        ⟨-, rfl⟩
      have hAgrees :=
        agrees_of_same_members
          (hw.putRoom hId hSettled hRoomId) hDesired
          hRoom.active hShown hSame
      exact ⟨_, rfl, hSettled, rfl,
        (agrees_putRoom.mp hAgrees).staffed hNodup, hLast⟩
  | members hAligned hMembers hLast =>
      rcases alignAttributes_returned hId hDesired hAligned
          with
        ⟨-, rfl⟩
      rcases alignMembers_returned hLimits hw hId hDesired
          hSettled hNodup hOpen hMembers with
        ⟨room', rfl, hTyped, hState, hStaffed⟩
      exact ⟨room', rfl, hTyped, hState, hStaffed, hLast⟩

end ChannelSync

------------------------------------------------------------
-- When It Returns
------------------------------------------------------------

namespace ChannelSync

open Program Workspace

variable {w after : Workspace}
variable {limits : Limits}
variable {desired : Desired}
variable {id : Datum}
variable {room : Room}
variable {observed : Observed}

/- A channel that can be brought in line altogether. -/
structure Workspace.Ready
    (w : Workspace)
    (size : Nat)
    (desired : Desired)
    (id : Datum)
    (room : Room) :
    Prop where
  settleable : w.Settleable desired id room.state
  staffable : w.Staffable size desired.members room.members

/- Being archived does not matter for the attributes. -/
theorem settleable_active :
    w.Settleable desired id room.active.state ↔
      w.Settleable desired id room.state :=
  ⟨fun h => ⟨h.name, h.topic, h.description, h.free⟩,
    fun h => ⟨h.name, h.topic, h.description, h.free⟩⟩

/- What can be settled can be settled as it is shown. -/
theorem Room.ShownAs.settleable
    (hShown : room.ShownAs observed)
    (h : w.Settleable desired id room.state) :
    w.Settleable desired id observed := by
  rw [← hShown.attributes] at h
  exact ⟨h.name, h.topic, h.description, h.free⟩

/- Members that agree can be brought in line. -/
theorem Workspace.Agrees.staffable
    (hRoom : room.WellTyped)
    (h : w.Agrees desired.members room.members)
    {size : Nat}
    (hWritable :
      Paging.Writable size 0 room.members.length) :
    w.Staffable size desired.members room.members where
  found := fun email hEmail =>
    (h.addressed email hEmail).imp fun _ hUser =>
      userByEmail_of_answer hUser.1
  known := fun userId hMember =>
    (h.welcome userId hMember).imp fun _ hUser =>
      get?_of_answer (hRoom.members userId hMember) hUser.1
  listed := by
    refine ⟨room.members, hWritable, fun _ hMem => hMem, ?_⟩
    intro userId h
    rcases h with ⟨-, email, hEmail, user, hUser, rfl⟩
    rcases h.addressed email hEmail with
      ⟨user', hUser', hMember⟩
    cases hUser.symm.trans (userByEmail_of_answer hUser')
    exact hMember

/- Members that were brought in line could be. -/
theorem staffable_of_aligned
    {size : Nat}
    (hSize : 0 < size)
    (hLimit : limits.members = .number size)
    (hLimits : limits.Positive)
    (hw : w.WellTyped)
    (hId : id.isText = true)
    (hDesired : desired.WellTyped)
    (hRoom : room.WellTyped)
    (hOpen : w.InvitesOpenly)
    (h : (alignMembers limits desired id).Returns remote
      (w.putRoom id room) () after) :
    w.Staffable size desired.members room.members := by
  have hConsulted :=
    alignMembers_consulted hLimits hw hId hDesired hRoom h
  rcases alignMembers_course hLimits hw hId hDesired hRoom h
      with
    ⟨larger, ids, hGrown, hInvited, -, ⟨size', hLimit',
      hWritable⟩, -⟩
  have hSame : size' = size :=
    Int.ofNat.inj
      (Datum.number.inj (hLimit'.symm.trans hLimit))
  subst hSame
  refine ⟨?_, ?_, larger.members, hWritable, hGrown.kept, ?_⟩
  · intro email hEmail
    rcases hConsulted.emails email hEmail with ⟨user, hUser⟩
    exact ⟨user, userByEmail_of_answer hUser⟩
  · intro userId hMember
    rcases hConsulted.members userId hMember with
      ⟨user, hUser⟩
    have hText := hRoom.members userId hMember
    exact ⟨user, get?_of_answer hText hUser⟩
  · intro userId hUser
    exact mem_of_invites hw hId hDesired hOpen hInvited
      hUser

/- A reconciliation that returns could be made. -/
theorem converge_ready
    {size : Nat}
    (hSize : 0 < size)
    (hLimit : limits.members = .number size)
    (hLimits : limits.Positive)
    (hw : w.WellTyped)
    (hId : id.isText = true)
    (hDesired : desired.WellTyped)
    (hRoom : room.WellTyped)
    (hRoomId : room.state.id = id)
    (hOpen : w.InvitesOpenly)
    (h : (converge limits desired id).Returns remote
      (w.putRoom id room) observed after) :
    w.Ready size desired id room := by
  have hActive : (w.putRoom id room.active).WellTyped :=
    hw.putRoom hId hRoom.active hRoomId
  have hSettled := hRoom.settled hDesired
  cases converge_course hLimits hId hRoom h with
  | upToDate hFetched hSame =>
      have hNumbered := hFetched
      rw [hLimit] at hNumbered
      rcases Access.fetch_returned hId hSize hRoom.active
          (get?_putRoom w id room.active) hNumbered with
        ⟨hShown, -, hWritable⟩
      rcases shows_of_same hActive hDesired hRoom.active
          hShown hSame with
        ⟨hName, hTopic, hDescription, hAgrees⟩
      exact
        { settleable :=
            { name := ⟨_, hName⟩
              topic := ⟨_, hTopic⟩
              description := ⟨_, hDescription⟩
              free := Or.inl
                ((Datum.shows_iff hDesired.name).mpr hName) }
          staffable :=
            (agrees_putRoom.mp hAgrees).staffable hRoom.active
              hWritable }
  | attributes hFetched hAligned hSame hLast =>
      have hNumbered := hFetched
      rw [hLimit] at hNumbered
      rcases Access.fetch_returned hId hSize hRoom.active
          (get?_putRoom w id room.active) hNumbered with
        ⟨hShown, -, hWritable⟩
      rcases alignAttributes_returned hId hDesired hAligned
          with
        ⟨hSettleable, rfl⟩
      have hAgrees :=
        agrees_of_same_members
          (hw.putRoom hId hSettled hRoomId) hDesired
          hRoom.active hShown hSame
      exact
        { settleable := settleable_active.mp hSettleable
          staffable :=
            (agrees_putRoom.mp hAgrees).staffable hRoom.active
              hWritable }
  | members hAligned hMembers hLast =>
      rcases alignAttributes_returned hId hDesired hAligned
          with
        ⟨hSettleable, rfl⟩
      have hStaffable :=
        staffable_of_aligned hSize hLimit hLimits hw hId
          hDesired hSettled hOpen hMembers
      exact
        { settleable := settleable_active.mp hSettleable
          staffable := hStaffable }

/- A known user can be looked up where nothing is laid in. -/
theorem Workspace.Staffable.consulted
    {size : Nat}
    (hOpen : w.failures.entries = [])
    (hDesired : desired.WellTyped)
    (hRoom : room.WellTyped)
    (h : w.Staffable size desired.members room.members) :
    w.Consulted desired.members room.members where
  emails := fun email hEmail =>
    (h.found email hEmail).imp fun _ hUser =>
      answer_userByEmail_of_no_failures hOpen
        (hDesired.members email hEmail) hUser
  members := fun userId hMember =>
    (h.known userId hMember).imp fun _ hUser =>
      answer_userById_of_no_failures hOpen
        (hRoom.members userId hMember) hUser

/-
  Where nothing is laid in, the members are brought in line,
  if they may differ, and the channel is fetched again.
-/
theorem refetch_returns
    {size : Nat}
    (hSize : 0 < size)
    (hLimit : limits.members = .number size)
    (hLimits : limits.Positive)
    (hOpen : w.failures.entries = [])
    (hw : w.WellTyped)
    (hId : id.isText = true)
    (hDesired : desired.WellTyped)
    (hRoom : room.WellTyped)
    (hNodup : room.members.Nodup)
    (h : w.Staffable size desired.members room.members)
    (mayDiffer : Bool) :
    ∃ observed after,
      (if mayDiffer then
          alignMembers limits desired id >>= fun _ =>
            Access.fetch limits.members id
        else
          Access.fetch limits.members id).Returns remote
        (w.putRoom id room) observed after := by
  cases mayDiffer with
  | false =>
      have hWritable :=
        h.writable hNodup fun _ hMem => Or.inl hMem
      rcases Access.fetch_returns hId hSize hRoom
          (get?_putRoom w id room) hOpen hWritable with
        ⟨last, hLast⟩
      rw [← hLimit] at hLast
      exact ⟨last, _, hLast⟩
  | true =>
      rcases alignMembers_returns hOpen hSize hLimit hw hId
          hDesired hRoom hNodup h with
        ⟨aligned, hMembers⟩
      rcases alignMembers_returned hLimits hw hId hDesired
          hRoom hNodup (invitesOpenly_of_no_failures hOpen)
          hMembers with
        ⟨aligned', hSame, hTyped, -, hStaffed⟩
      cases putRoom_injective hSame
      have hWritable :=
        h.writable hStaffed.shifts.nodup
          hStaffed.shifts.bounded
      rcases Access.fetch_returns hId hSize hTyped
          (get?_putRoom w id aligned) hOpen hWritable with
        ⟨last, hLast⟩
      rw [← hLimit] at hLast
      exact
        ⟨last, _, hMembers.bind hLast⟩

/-
  Where nothing is laid in, a channel that can be brought in
  line is.
-/
theorem converge_returns
    {size : Nat}
    (hSize : 0 < size)
    (hLimit : limits.members = .number size)
    (hLimits : limits.Positive)
    (hOpen : w.failures.entries = [])
    (hw : w.WellTyped)
    (hId : id.isText = true)
    (hDesired : desired.WellTyped)
    (hRoom : room.WellTyped)
    (hRoomId : room.state.id = id)
    (hNodup : room.members.Nodup)
    (h : w.Ready size desired id room) :
    ∃ observed after,
      (converge limits desired id).Returns remote
        (w.putRoom id room) observed after := by
  have hActive : (w.putRoom id room.active).WellTyped :=
    hw.putRoom hId hRoom.active hRoomId
  have hSettled := hRoom.settled hDesired
  have hWritable :=
    h.staffable.writable hNodup fun _ hMem => Or.inl hMem
  have hConsulted :=
    h.staffable.consulted hOpen hDesired hRoom
  rcases fetchActive_returns hOpen hSize hLimit hId hRoom
      hWritable with
    ⟨first, hFetched⟩
  rcases fetchActive_returned hLimits hId hRoom hFetched
      with
    ⟨-, hFirst⟩
  have hShown :=
    shownAs_of_fetched hLimits hId hRoom.active hFirst
  have hObserved : w.Consulted desired.members
      first.memberIds :=
    { emails := hConsulted.emails
      members := fun userId hMember =>
        hConsulted.members userId
          ((hShown.members userId).mp hMember) }
  have hTexts := hShown.isText hRoom.active
  have hSettleable :=
    settleable_active.mpr h.settleable
  have hReadable := hShown.settleable hSettleable
  rcases Drift.detected_returns hActive hDesired hTexts
      hReadable.name hReadable.topic hReadable.description
      (consulted_putRoom.mpr hObserved) with
    ⟨drift, hDrift⟩
  unfold converge
  simp only [returns_bind, notePrivacy_returns]
  cases drift with
  | false =>
      refine ⟨first, w.putRoom id room.active, first, _,
        hFetched, (), _, rfl, false, _, hDrift, ?_⟩
      simp only [Bool.false_eq_true, if_false, returns_bind,
        returns_record]
      exact ⟨(), _, rfl, returns_pure_self⟩
  | true =>
      have hAligned :=
        alignAttributes_returns hOpen hId hDesired
          hSettleable
      rcases membershipMayDiffer_returns
          (hw.putRoom hId hSettled hRoomId) hDesired hTexts
          (consulted_putRoom.mpr hObserved) with
        ⟨mayDiffer, hLooked⟩
      rcases refetch_returns hSize hLimit hLimits hOpen hw hId
          hDesired hSettled hNodup h.staffable mayDiffer with
        ⟨observed, after, hRest⟩
      refine ⟨observed, after, first, _, hFetched, (), _,
        rfl, true, _, hDrift, ?_⟩
      simp only [if_true, returns_bind, returns_record]
      exact ⟨(), _, rfl, (), _, hAligned, mayDiffer, _,
        hLooked, hRest⟩

end ChannelSync

------------------------------------------------------------
-- What Holds However It Ends
------------------------------------------------------------

namespace ChannelSync

open Program Workspace

variable {w : Workspace}
variable {limits : Limits}
variable {desired : Desired}
variable {id : Datum}

/-
  A reconciliation keeps what each of its changes leaves
  true, wherever it is cut off.
-/
theorem preserves_converge
    {P : Room → Prop}
    (hLimits : limits.Positive)
    (hw : w.WellTyped)
    (hId : id.isText = true)
    (hDesired : desired.WellTyped)
    (hTyped : ∀ room, P room → room.WellTyped)
    (hActive : ∀ room, P room → P room.active)
    (hName :
      ∀ room, P room →
        P (room.edit (Observed.showName desired.name)))
    (hTopic :
      ∀ room, P room →
        P (room.edit (Observed.showTopic desired.topic)))
    (hDescription :
      ∀ room, P room →
        P (room.edit
          (Observed.showDescription desired.description)))
    (hAdd :
      ∀ room userId, P room →
        w.Invites desired.members userId →
        userId ∉ room.members →
          P (room.withMembers (room.members ++ [userId])))
    (hErase :
      ∀ room userId, P room → userId.isText = true →
        ¬ w.Welcomes desired.members userId →
          P (room.withMembers (room.members.erase userId))) :
    (converge limits desired id).Preserves remote
      (w.Holding id P) := by
  apply (preserves_fetchActive hId hActive).bind
  intro _ first _ _
  refine preserves_notePrivacy.bind fun _ _ _ _ => ?_
  refine (preserves_of_reads
    (Drift.reads_detected desired first)).bind
      fun _ drift _ _ => ?_
  split
  · refine (preserves_record _).bind fun _ _ _ _ => ?_
    refine (preserves_alignAttributes hId hDesired hName
      hTopic hDescription).bind fun _ _ _ _ => ?_
    refine (preserves_of_reads
      (reads_membershipMayDiffer desired first)).bind
        fun _ mayDiffer _ _ => ?_
    split
    · refine (preserves_alignMembers hLimits hw hId hDesired
        hTyped hAdd hErase).bind fun _ _ _ _ => ?_
      exact preserves_of_reads (Access.reads_fetch _ _)
    · exact preserves_of_reads (Access.reads_fetch _ _)
  · refine (preserves_record _).bind fun _ _ _ _ => ?_
    exact preserves_done _

end ChannelSync
