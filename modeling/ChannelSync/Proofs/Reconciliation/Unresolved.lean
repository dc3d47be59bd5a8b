import ChannelSync.Proofs.Reconciliation.Obstacles
import ChannelSync.Proofs.Reconciliation.UnknownAddresses

/-
  Reconciliations with addresses that no user has.

  The check for drift comes first, and it stops at the first
  difference.  So an unknown address keeps the others from
  being invited exactly if the check gets to it: if every
  attribute shows what is declared, and nobody who is missing
  comes before it in the order of the addresses.  Otherwise
  the members are brought in line, and the comparison before
  that, which gets to the address again, does not stand in
  the way: when it fails, the members may differ.

  Key definitions include:
    * `Room.Legible`
    * `Workspace.Notices`
    * `Workspace.Unresolved`

  Key theorems include:
    * `converge_admits`
    * `converge_aborts`
    * `reconcile_unresolved`
    * `reconcile_leaves_out`
-/

------------------------------------------------------------
-- What Is Fetched
------------------------------------------------------------

namespace ChannelSync

open Program Workspace

variable {w after : Workspace}
variable {limits : Limits}
variable {desired : Desired}
variable {id userId : Datum}
variable {room : Room}
variable {observed : Observed}

/-
  Everything that the check looks at can be read back: the
  attributes can, and the members can be listed.
-/
structure Room.Legible
    (room : Room) :
    Prop where
  readable : room.state.Readable
  listed : room.members.length ≤ Numeral.numberLimit

/-
  The check comes upon a difference: in the attributes, or
  else in the members, before every unknown address.
-/
def Workspace.Notices
    (w : Workspace)
    (desired : Desired)
    (room : Room) :
    Prop :=
  room.state.Shows desired →
    w.FindsMissing desired.members room.members

/- A legible channel is fetched as it is shown. -/
theorem fetchActive_shown
    (hOpen : w.failures.entries = [])
    (hLimits : limits.Positive)
    (hId : id.isText = true)
    (hRoom : room.WellTyped)
    (hListed : room.members.length ≤ Numeral.numberLimit) :
    ∃ observed,
      (fetchActive limits id).Returns remote
          (w.putRoom id room) observed
          (w.putRoom id room.active) ∧
        room.active.ShownAs observed := by
  rcases hLimits.members with ⟨size, hSize, hLimit⟩
  rcases fetchActive_returns hOpen hSize hLimit hId hRoom
      (Paging.writable_of_length_le hListed 0) with
    ⟨observed, hFetched⟩
  rcases fetchActive_returned hLimits hId hRoom hFetched with
    ⟨-, hFirst⟩
  exact ⟨observed, hFetched,
    shownAs_of_fetched hLimits hId hRoom.active hFirst⟩

/- Being archived does not matter for what is shown. -/
theorem shows_active :
    room.active.state.Shows desired ↔
      room.state.Shows desired :=
  ⟨fun h => ⟨h.name, h.topic, h.description⟩,
    fun h => ⟨h.name, h.topic, h.description⟩⟩

/- Being archived does not matter for what can be read. -/
theorem readable_active :
    room.active.state.Readable ↔ room.state.Readable :=
  ⟨fun h => ⟨h.name, h.topic, h.description⟩,
    fun h => ⟨h.name, h.topic, h.description⟩⟩

/- A report shows what the room does. -/
theorem Room.ShownAs.shows_iff
    (h : room.ShownAs observed) :
    observed.Shows desired ↔ room.state.Shows desired := by
  rw [← h.attributes]
  exact
    ⟨fun hShows => ⟨hShows.name, hShows.topic,
        hShows.description⟩,
      fun hShows => ⟨hShows.name, hShows.topic,
        hShows.description⟩⟩

/- A report of what can be read can be read. -/
theorem Room.ShownAs.readable
    (h : room.ShownAs observed)
    (hReadable : room.state.Readable) :
    observed.Readable := by
  rw [← h.attributes] at hReadable
  exact ⟨hReadable.name, hReadable.topic,
    hReadable.description⟩

end ChannelSync

------------------------------------------------------------
-- How It Ends
------------------------------------------------------------

namespace ChannelSync

open Program Workspace

variable {w after : Workspace}
variable {limits : Limits}
variable {desired : Desired}
variable {id userId : Datum}
variable {room : Room}
variable {observed : Observed}

/- A check that stops ends the whole reconciliation. -/
theorem converge_stops
    {s middle : Workspace}
    {problem : Problem}
    (hFetched :
      (fetchActive limits id).Returns remote s observed
        middle)
    (hStops :
      (Drift.detected desired observed).Stops remote middle
        problem after) :
    (converge limits desired id).Stops remote s problem
      after := by
  have hNoted :
      (notePrivacy desired observed id).Returns remote
        middle () middle :=
    notePrivacy_returns.mpr rfl
  unfold converge
  exact hFetched.bind_stops
    (hNoted.bind_stops (hStops.bind _))

/- A reconciliation that returns knows every address. -/
theorem converge_known
    (hOpen : w.failures.entries = [])
    (hLimits : limits.Positive)
    (hw : w.WellTyped)
    (hId : id.isText = true)
    (hDesired : desired.WellTyped)
    (hRoom : room.WellTyped)
    (hRoomId : room.state.id = id)
    (h : (converge limits desired id).Returns remote
      (w.putRoom id room) observed after) :
    ∀ email ∈ desired.members, ¬ w.Unknown email := by
  rcases hLimits.members with ⟨size, hSize, hLimit⟩
  have hReady :=
    converge_ready hSize hLimit hLimits hw hId hDesired hRoom
      hRoomId (invitesOpenly_of_no_failures hOpen) h
  exact fun email hMem =>
    not_unknown_iff.mpr (hReady.staffable.found email hMem)

/-
  If the check comes upon a difference, everyone who is
  invited is a member in the end, unknown addresses or not.
-/
theorem converge_admits
    (hOpen : w.failures.entries = [])
    (hLimits : limits.Positive)
    (hw : w.WellTyped)
    (hId : id.isText = true)
    (hDesired : desired.WellTyped)
    (hRoom : room.WellTyped)
    (hRoomId : room.state.id = id)
    (hFree : w.nameUsed desired.name (some id) = false)
    (hUnknown : ∃ email ∈ desired.members, w.Unknown email)
    (hLegible : room.Legible)
    (hNotices : w.Notices desired room)
    (hInvited : w.Invites desired.members userId) :
    w.Holding id (fun room => userId ∈ room.members)
      ((converge limits desired id).run remote
        (w.putRoom id room)).state := by
  have hActive : (w.putRoom id room.active).WellTyped :=
    hw.putRoom hId hRoom.active hRoomId
  have hSettled := hRoom.settled hDesired
  have hAfter := hw.putRoom hId hSettled hRoomId
  rcases fetchActive_shown hOpen hLimits hId hRoom
      hLegible.listed with
    ⟨observed, hFetched, hShown⟩
  have hDetected :
      (Drift.detected desired observed).Returns remote
        (w.putRoom id room.active) true
        (w.putRoom id room.active) := by
    apply Drift.detected_of_differs hDesired
      (hShown.readable
        (readable_active.mpr hLegible.readable))
    intro hShows
    have hFinds :
        (w.putRoom id room.active).FindsMissing
          desired.members observed.memberIds :=
      (hNotices
        (shows_active.mp (hShown.shows_iff.mp hShows))).congr
          (fun _ => Iff.rfl)
          fun u => (hShown.members u).symm
    rcases @Drift.membershipDiffers_ends _ desired observed
        hActive hOpen hDesired hUnknown with
      ⟨-, hReturns⟩ | ⟨hNone, -⟩
    · exact hReturns
    · exact absurd hFinds hNone
  have hAligned :=
    alignAttributes_returns hOpen hId hDesired
      (settleable_active.mpr
        { name := hLegible.readable.name
          topic := hLegible.readable.topic
          description := hLegible.readable.description
          free := Or.inr hFree })
  have hLooked :=
    @membershipMayDiffer_of_unknown _ desired observed
      hAfter hOpen hDesired hUnknown
  have hNoted :
      (notePrivacy desired observed id).Returns remote
        (w.putRoom id room.active) ()
        (w.putRoom id room.active) :=
    notePrivacy_returns.mpr rfl
  have hRecorded :
      (record (.reconciling id desired.name)).Returns remote
        (w.putRoom id room.active) ()
        (w.putRoom id room.active) :=
    returns_record.mpr rfl
  unfold converge
  rw [hFetched.state_bind, hNoted.state_bind,
    hDetected.state_bind, if_pos rfl, hRecorded.state_bind,
    hAligned.state_bind, hLooked.state_bind, if_pos rfl]
  exact holds_bind
    (alignMembers_admits hOpen hLimits hw hId hDesired
      hSettled hInvited)
    fun _ => preserves_of_reads (Access.reads_fetch _ _)

/-
  If the check gets to an unknown address, it gives up there,
  and the channel is left as it is.
-/
theorem converge_aborts
    (hOpen : w.failures.entries = [])
    (hLimits : limits.Positive)
    (hw : w.WellTyped)
    (hId : id.isText = true)
    (hDesired : desired.WellTyped)
    (hRoom : room.WellTyped)
    (hRoomId : room.state.id = id)
    (hArchived : room.state.archived.truthy = false)
    (hUnknown : ∃ email ∈ desired.members, w.Unknown email)
    (hListed : room.members.length ≤ Numeral.numberLimit)
    (hUnnoticed : ¬ w.Notices desired room) :
    ∃ email, w.FirstUnknown desired.members email ∧
      (converge limits desired id).Stops remote
        (w.putRoom id room)
        (.failure (Refusal.emailUnknown email))
        (w.putRoom id room) := by
  have hWell := hw.putRoom hId hRoom hRoomId
  rcases Classical.not_imp.mp hUnnoticed with
    ⟨hShows, hMissed⟩
  rcases fetchActive_shown hOpen hLimits hId hRoom hListed
      with
    ⟨observed, hFetched, hShown⟩
  rw [hRoom.active_eq hArchived] at hFetched hShown
  have hSame := hShown.shows_iff.mpr hShows
  rcases @Drift.membershipDiffers_ends _ desired observed
      hWell hOpen hDesired hUnknown with
    ⟨hFinds, -⟩ | ⟨-, email, hFirst, hStops⟩
  · exact absurd
      (hFinds.congr (fun _ => Iff.rfl) hShown.members)
      hMissed
  · refine ⟨email, ⟨hFirst.mem, hFirst.unknown,
      hFirst.first⟩, ?_⟩
    rw [← Drift.detected_of_shows hSame] at hStops
    exact converge_stops hFetched hStops

/- A name that cannot be read leaves a channel as it is. -/
theorem converge_unreadable
    (hOpen : w.failures.entries = [])
    (hLimits : limits.Positive)
    (hId : id.isText = true)
    (hRoom : room.WellTyped)
    (hArchived : room.state.archived.truthy = false)
    (hListed : room.members.length ≤ Numeral.numberLimit)
    {fault : Fault}
    (hName : room.state.name.unescaped = .error fault) :
    (converge limits desired id).Stops remote
      (w.putRoom id room) (.fault fault)
      (w.putRoom id room) := by
  rcases fetchActive_shown hOpen hLimits hId hRoom hListed
      with
    ⟨observed, hFetched, hShown⟩
  rw [hRoom.active_eq hArchived] at hFetched hShown
  rw [← hShown.attributes] at hName
  exact converge_stops hFetched (Drift.detected_stops hName)

/- With members declared, an existing channel is converged. -/
theorem reconcile_of_members
    {email : Datum}
    (h : email ∈ desired.members) :
    reconcile limits desired (some id) =
      converge limits desired id := by
  have hSome : desired.members.isEmpty = false := by
    cases hMembers : desired.members with
    | nil =>
        rw [hMembers] at h
        cases h
    | cons first rest => rfl
  unfold reconcile validate Desired.invalid?
  rw [hSome]
  rfl

end ChannelSync

------------------------------------------------------------
-- Reconciliations with Unknown Addresses
------------------------------------------------------------

namespace ChannelSync

open Program Workspace

variable {w : Workspace}
variable {limits : Limits}
variable {desired : Desired}
variable {id : Datum}
variable {room : Room}

/-
  How a reconciliation with unknown addresses ends: with a
  problem, and everyone who can be invited is a member then
  if the check came upon a difference.  If it did not, it
  says that the first unknown address is not found, and the
  workspace is left as it was.
-/
structure Workspace.Unresolved
    (w : Workspace)
    (desired : Desired)
    (id : Datum)
    (room : Room)
    (run : Run Workspace Observed) :
    Prop where
  stops : ∃ problem, run.result = .error problem
  admits :
    room.Legible → w.Notices desired room →
      ∀ userId, w.Invites desired.members userId →
        ∃ room', run.state.channels.get? id = some room' ∧
          userId ∈ room'.members
  aborts :
    room.Legible → ¬ w.Notices desired room →
      run.state = w ∧
        ∃ email, w.FirstUnknown desired.members email ∧
          run.result =
            .error (.failure
              (.single .notFound ("user " ++ email.shown)
                (.text "users_not_found") none))

/-
  With an unknown address, a reconciliation of an existing
  channel that is not archived ends with a problem; it still
  invites everybody else if the check comes upon a difference
  before the address, and changes nothing if it does not.
-/
theorem reconcile_unresolved
    (hReachable : w.Reachable)
    (hOpen : w.failures.entries = [])
    (hLimits : limits.Positive)
    (hDesired : desired.WellTyped)
    (hId : id.isText = true)
    (hFound : w.channels.get? id = some room)
    (hArchived : room.state.archived.truthy = false)
    (hFree : w.nameUsed desired.name (some id) = false)
    (hUnknown :
      ∃ email ∈ desired.members, w.Unknown email) :
    w.Unresolved desired id room
      ((reconcile limits desired (some id)).run remote
        w) := by
  have hw := hReachable.wellTyped
  have hRoom := hw.room_of_get? hId hFound
  have hRoomId := hw.roomId_of_get? hId hFound
  have hPut := putRoom_of_get? hFound
  rcases hUnknown with ⟨email, hMem, hNone⟩
  rw [reconcile_of_members hMem]
  constructor
  · cases hResult :
        ((converge limits desired id).run remote
          w).result with
    | error problem => exact ⟨problem, rfl⟩
    | ok observed =>
        have hReturns :
            (converge limits desired id).Returns remote
              (w.putRoom id room) observed _ :=
          ⟨by rw [hPut]; exact hResult, rfl⟩
        exact absurd hNone
          (converge_known hOpen hLimits hw hId hDesired hRoom
            hRoomId hReturns email hMem)
  · intro hLegible hNotices userId hInvited
    have hHolds :=
      @converge_admits w limits desired id userId room hOpen
        hLimits hw hId hDesired hRoom hRoomId hFree
        ⟨email, hMem, hNone⟩ hLegible hNotices hInvited
    rw [hPut] at hHolds
    rcases hHolds with ⟨last, hLast, hIn⟩
    exact ⟨last, by rw [hLast]; exact get?_putRoom w id last,
      hIn⟩
  · intro hLegible hUnnoticed
    rcases @converge_aborts w limits desired id room hOpen
        hLimits hw hId hDesired hRoom hRoomId hArchived
        ⟨email, hMem, hNone⟩ hLegible.listed hUnnoticed with
      ⟨first, hFirst, hStops⟩
    rw [hPut] at hStops
    exact ⟨hStops.state_eq, first, hFirst, hStops.result_eq⟩

/- A declaration with an unknown address that comes first. -/
def Desired.partlyKnown
    (name : Datum) :
    Desired where
  name := name
  members := [.text "Z@x", .text "a@x"]

theorem Desired.wellTyped_partlyKnown
    {name : Datum}
    (hName : name.isText = true) :
    (Desired.partlyKnown name).WellTyped where
  name := hName
  description := rfl
  topic := rfl
  isPrivate := rfl
  members := by
    simp [Desired.partlyKnown, Datum.isText]
  distinct := by simp [Desired.partlyKnown]

/- Nobody of the staff has the first address. -/
theorem Workspace.unknown_staff
    (h : w.users = Workspace.staff.users) :
    w.Unknown (.text "Z@x") := by
  intro user hUser
  rw [userByEmail, h] at hUser
  cases hUser

/- The second address is that of one of the staff. -/
theorem Workspace.invites_staff
    (h : w.users = Workspace.staff.users)
    (hBot : w.botId = .text "U0")
    (name : Datum) :
    w.Invites (Desired.partlyKnown name).members
      (.text "U1") := by
  refine ⟨by rw [hBot]; decide, .text "a@x",
    List.mem_cons_of_mem _ List.mem_cons_self,
    { id := .text "U1", email := .text "a@x" }, ?_, rfl⟩
  rw [userByEmail, h]
  rfl

/- The check of the small workspace stops at once. -/
theorem Workspace.unnoticed_sample :
    ¬ Workspace.sample.Notices
      (Desired.partlyKnown (.text "lunch")) Room.sample := by
  intro hNotices
  have hFinds := hNotices ⟨rfl, rfl, rfl⟩
  refine not_findsMissing_of_unknown ?_ ?_
    (unknown_staff rfl) hFinds
  · simp [Datum.isText]
  · decide

/-
  Where the channel of the small workspace gets another name,
  the user with the second address is invited.  Where it
  keeps its name, the first address ends it all.
-/
theorem reconcile_unresolved_sample :
    let run := fun name =>
      (reconcile Limits.sample (Desired.partlyKnown name)
        (some (.text "C1"))).run remote Workspace.sample
    (∃ problem,
        (run (.text "dinner")).result = .error problem) ∧
      (∃ room,
        (run (.text "dinner")).state.channels.get?
              (.text "C1") =
            some room ∧
          .text "U1" ∈ room.members) ∧
      (run (.text "lunch")).state = Workspace.sample ∧
      (run (.text "lunch")).result =
        .error (.failure
          (.single .notFound "user Z@x"
            (.text "users_not_found") none)) := by
  have hUnresolved :
      ∀ name,
        name.isText = true →
        Workspace.sample.nameUsed name (some (.text "C1")) =
          false →
        Workspace.sample.Unresolved
          (Desired.partlyKnown name) (.text "C1") Room.sample
          _ :=
    fun _ hName hFree =>
      reconcile_unresolved reachable_sample
        no_failures_sample Limits.positive_sample
        (Desired.wellTyped_partlyKnown hName) rfl rfl rfl
        hFree ⟨_, List.mem_cons_self, unknown_staff rfl⟩
  have hLegible : Room.sample.Legible :=
    { readable := ⟨⟨_, rfl⟩, ⟨_, rfl⟩, ⟨_, rfl⟩⟩
      listed := Nat.le_of_lt Numeral.one_lt_numberLimit }
  have hNoticed :
      Workspace.sample.Notices
        (Desired.partlyKnown (.text "dinner"))
        Room.sample := by
    intro hShows
    have hSame :
        (Except.ok (.text "lunch") : Except Fault Datum) =
          .ok (.text "dinner") :=
      hShows.name
    exact absurd (Except.ok.inj hSame) (by decide)
  have hRenamed :=
    hUnresolved (.text "dinner") rfl (by decide)
  have hKept := hUnresolved (.text "lunch") rfl (by decide)
  rcases hKept.aborts hLegible unnoticed_sample with
    ⟨hState, email, hFirst, hResult⟩
  have hEmail : email = .text "Z@x" := by
    rcases List.mem_cons.mp hFirst.mem with hSame | hOther
    · exact hSame
    · rw [List.mem_singleton.mp hOther] at hFirst
      exact absurd rfl (hFirst.unknown _)
  rw [hEmail] at hResult
  exact ⟨hRenamed.stops,
    hRenamed.admits hLegible hNoticed _
      (invites_staff rfl rfl _),
    hState, hResult⟩

end ChannelSync

------------------------------------------------------------
-- Who Is Left Out
------------------------------------------------------------

namespace ChannelSync

open Program Workspace

variable {w : Workspace}
variable {limits : Limits}
variable {desired : Desired}
variable {id userId : Datum}
variable {room : Room}

/-
  A reconciliation with unknown addresses of an existing
  channel leaves out somebody who is to be invited.
-/
structure Workspace.LeavesOut
    (w : Workspace)
    (limits : Limits)
    (desired : Desired)
    (id userId : Datum) :
    Prop where
  reachable : w.Reachable
  unfailing : w.failures.entries = []
  positive : limits.Positive
  typed : desired.WellTyped
  room :
    ∃ room, w.channels.get? id = some room ∧
      room.state.archived.truthy = false ∧
      ∀ member ∈ room.members, ∃ user,
        w.users.get? member = some user
  free : w.nameUsed desired.name (some id) = false
  unknown : ∃ email ∈ desired.members, w.Unknown email
  invited : w.Invites desired.members userId
  absent :
    ∀ room',
      ((reconcile limits desired (some id)).run remote
          w).state.channels.get? id = some room' →
        userId ∉ room'.members

/- A channel of the staff with any name, and nobody in it. -/
def Room.named
    (name : Datum) :
    Room where
  state := { id := .text "C1", name := name }
  members := []

/- The staff and this channel. -/
def Workspace.named
    (name : Datum) :
    Workspace :=
  { Workspace.staff with
    channels := ⟨[(.text "C1", Room.named name)]⟩ }

/- A channel can be added with any name. -/
theorem Workspace.reachable_named
    {name : Datum}
    (hName : name.isText = true) :
    (Workspace.named name).Reachable := by
  have hSeed :
      ({ name := name, id := .text "C1" } :
        Seed).WellTyped :=
    { name := hName
      id := Or.inr rfl
      description := rfl
      topic := rfl
      isPrivate := rfl
      archived := rfl
      members := Or.inl rfl }
  exact Reachable.addChannel reachable_staff hSeed

/- Who is no member stays out if the channel stays as it is. -/
theorem absent_of_stops
    {problem : Problem}
    {email : Datum}
    (hMem : email ∈ desired.members)
    (hFound : w.channels.get? id = some room)
    (hStops :
      (converge limits desired id).Stops remote
        (w.putRoom id room) problem (w.putRoom id room))
    (hAbsent : userId ∉ room.members) :
    ∀ room',
      ((reconcile limits desired (some id)).run remote
          w).state.channels.get? id = some room' →
        userId ∉ room'.members := by
  intro room' hRoom'
  rw [putRoom_of_get? hFound] at hStops
  rw [reconcile_of_members hMem, hStops.state_eq, hFound]
    at hRoom'
  cases hRoom'
  exact hAbsent

/- The check of the small workspace stops at the address. -/
theorem Workspace.leavesOut_sample :
    Workspace.sample.LeavesOut Limits.sample
      (Desired.partlyKnown (.text "lunch")) (.text "C1")
      (.text "U1") where
  reachable := reachable_sample
  unfailing := no_failures_sample
  positive := Limits.positive_sample
  typed := Desired.wellTyped_partlyKnown rfl
  room := by
    refine ⟨Room.sample, rfl, rfl, ?_⟩
    intro member hMember
    rw [List.mem_singleton.mp hMember]
    exact ⟨_, rfl⟩
  free := by decide
  unknown := ⟨_, List.mem_cons_self, unknown_staff rfl⟩
  invited := invites_staff rfl rfl _
  absent := by
    have hw := reachable_sample.wellTyped
    have hRoom : Room.sample.WellTyped :=
      hw.room _ List.mem_cons_self
    rcases @converge_aborts Workspace.sample Limits.sample
        (Desired.partlyKnown (.text "lunch")) (.text "C1")
        Room.sample no_failures_sample
        Limits.positive_sample hw rfl
        (Desired.wellTyped_partlyKnown rfl) hRoom rfl rfl
        ⟨_, List.mem_cons_self, unknown_staff rfl⟩
        (Nat.le_of_lt Numeral.one_lt_numberLimit)
        unnoticed_sample with
      ⟨email, -, hStops⟩
    exact absent_of_stops List.mem_cons_self rfl hStops
      (by decide)

/- A name that cannot be read stops every reconciliation. -/
theorem Workspace.leavesOut_named
    {name : Datum}
    {fault : Fault}
    (hText : name.isText = true)
    (hName : name.unescaped = .error fault) :
    (Workspace.named name).LeavesOut Limits.sample
      (Desired.partlyKnown (.text "lunch")) (.text "C1")
      (.text "U1") where
  reachable := reachable_named hText
  unfailing := rfl
  positive := Limits.positive_sample
  typed := Desired.wellTyped_partlyKnown rfl
  room := by
    refine ⟨Room.named name, rfl, rfl, ?_⟩
    intro member hMember
    cases hMember
  free := by
    simp [nameUsed, Workspace.named, Room.named, bne]
  unknown := ⟨_, List.mem_cons_self, unknown_staff rfl⟩
  invited := invites_staff rfl rfl _
  absent := by
    have hRoom : (Room.named name).WellTyped :=
      (reachable_named hText).wellTyped.room _
        List.mem_cons_self
    have hOpen :
        (Workspace.named name).failures.entries = [] :=
      rfl
    have hStops :=
      @converge_unreadable _ Limits.sample
        (Desired.partlyKnown (.text "lunch")) (.text "C1")
        (Room.named name) hOpen Limits.positive_sample rfl
        hRoom rfl (Nat.zero_le _) fault hName
    exact absent_of_stops List.mem_cons_self rfl hStops
      List.not_mem_nil

/-
  Not every unknown address is just left aside: the check
  may get to it, and a stored name may be unreadable.
-/
theorem reconcile_leaves_out :
    Workspace.sample.LeavesOut Limits.sample
        (Desired.partlyKnown (.text "lunch")) (.text "C1")
        (.text "U1") ∧
      (Workspace.named Desired.unreadable.name).LeavesOut
        Limits.sample
        (Desired.partlyKnown (.text "lunch")) (.text "C1")
        (.text "U1") :=
  ⟨leavesOut_sample,
    leavesOut_named Desired.wellTyped_unreadable.name
      Desired.unescaped_unreadable⟩

end ChannelSync
