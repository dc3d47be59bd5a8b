import ChannelSync.Proofs.Reconciliation.Course
import ChannelSync.Proofs.Run.Writes
import ChannelSync.Proofs.Workspace.Answers

/-
  The writes of the parts of a reconciliation.

  Each part reads before it writes, and what it read decides
  what it writes: a channel is taken out of the archive when
  it was fetched from there, an attribute is set when it did
  not show what is declared, a user is invited when an
  address led to one, and a member is removed who is surplus.

  Key definitions include:
    * `correct` and `correctDrift`
    * `Workspace.isSurplus`

  Key theorems include:
    * `converge_eq`
    * `writes_fetchActive`
    * `Access.writes_ensure`
    * `Roster.writes_inviteOne`
    * `Roster.writes_inviteEach`
    * `Roster.writes_removeEach`
-/

------------------------------------------------------------
-- Parts of a Reconciliation
------------------------------------------------------------

namespace ChannelSync

open Program

/-
  Bring a fetched channel in line in which drift was found,
  and fetch it again.
-/
def correct
    (limits : Limits)
    (desired : Desired)
    (id : Datum)
    (observed : Observed) :
    Program Observed :=
  alignAttributes desired id >>= fun _ =>
    membershipMayDiffer desired observed >>= fun mayDiffer =>
      if mayDiffer then
        alignMembers limits desired id >>= fun _ =>
          Access.fetch limits.members id
      else
        Access.fetch limits.members id

/- Correct a fetched channel if drift is found in it. -/
def correctDrift
    (limits : Limits)
    (desired : Desired)
    (id : Datum)
    (observed : Observed) :
    Program Observed :=
  Drift.detected desired observed >>= fun drift =>
    if drift then
      record (.reconciling id desired.name) >>= fun _ =>
        correct limits desired id observed
    else
      record (.upToDate id) >>= fun _ => pure observed

/- An existing channel is fetched, checked and corrected. -/
theorem converge_eq
    (limits : Limits)
    (desired : Desired)
    (id : Datum) :
    converge limits desired id =
      fetchActive limits id >>= fun observed =>
        notePrivacy desired observed id >>= fun _ =>
          correctDrift limits desired id observed := by
  rfl

end ChannelSync

------------------------------------------------------------
-- Attributes
------------------------------------------------------------

namespace ChannelSync

open Program

variable {σ : Type}
variable {remote : Remote σ}
variable {s after : σ}
variable {id : Datum}

/- A channel that is fetched from the archive leaves it. -/
theorem writes_fetchActive
    {limits : Limits}
    {observed : Observed}
    (h : (Access.fetch limits.members id).Returns remote s
      observed after) :
    ((fetchActive limits id).run remote s).writes =
      if observed.archived.truthy then [.unarchiveChannel id]
      else [] := by
  have hFetch := Access.reads_fetch limits.members id
  unfold fetchActive
  rw [writes_bind_of_returns h, writes_of_reads hFetch,
    List.nil_append]
  split
  · rw [writes_record_bind, writes_bind_of_reads]
    · unfold Access.unarchive
      rw [writes_record_bind, writes_reporting, writes_send]
      rfl
    · exact fun _ => hFetch
  · rfl

/- An attribute is set unless it shows what is declared. -/
theorem Access.writes_ensure
    {declared current : Datum}
    {field : Observed → Datum}
    {event : Event}
    {set : Program Observed}
    {channel : Observed}
    (hInfo : (info id).Returns remote s channel after)
    (hCurrent : (field channel).unescaped = .ok current) :
    ((ensure id declared field event set).run remote
        s).writes =
      if current == declared then []
      else (set.run remote after).writes := by
  unfold ensure
  rw [writes_bind_of_returns hInfo,
    writes_of_reads (reads_info id), List.nil_append,
    hCurrent]
  rw [writes_bind_of_returns
    (returns_lift.mpr ⟨rfl, rfl⟩)]
  split
  · rfl
  · exact writes_record_bind

end ChannelSync

------------------------------------------------------------
-- Members
------------------------------------------------------------

namespace ChannelSync

/- A user who is no bot and has none of some addresses. -/
def Workspace.isSurplus
    (w : Workspace)
    (emails : List Datum)
    (userId : Datum) :
    Bool :=
  match w.users.get? userId with
  | some user => !decide (user.Welcome emails)
  | none => false

namespace Roster

/- The invitation of a user who was found. -/
def invitation?
    (id : Datum)
    (found : Except Problem User) :
    Option Request :=
  found.toOption.map fun user => .inviteMembers id [user.id]

open Program Workspace

variable {σ : Type}
variable {remote : Remote σ}
variable {s after : σ}
variable {id email : Datum}

/- A user is invited when the address leads to one. -/
theorem writes_inviteOne :
    ((inviteOne id email).run remote s).writes =
      (invitation? id
        (remote.answer s (.userByEmail email)).1).toList := by
  have hReads := Access.reads_userByEmail email
  have hLookup :
      (Access.userByEmail email).Ends remote s
        (remote.answer s (.userByEmail email)).1
        (remote.answer s (.userByEmail email)).2 _ :=
    ends_reporting.mpr
      (ends_send.mpr ⟨rfl, rfl, rfl⟩)
  unfold inviteOne
  match hAnswer : (remote.answer s (.userByEmail email)).1
    with
  | .ok user =>
      rw [hAnswer] at hLookup
      rw [writes_bind_of_returns
          (ends_attempt_ok.mpr hLookup).returns,
        writes_of_reads hReads.attempt, List.nil_append,
        writes_record_bind, writes_bind_of_reads]
      · rw [writes_attempt]
        exact writes_send _ _
      · intro invited
        cases invited with
        | ok _ => trivial
        | error failure =>
            apply (sends_lift _).bind
            intro settled
            split <;> trivial
  | .error (.failure failure) =>
      rw [hAnswer] at hLookup
      rw [writes_bind_of_returns
          (ends_attempt_failure.mpr hLookup).returns,
        writes_of_reads hReads.attempt]
      rfl
  | .error (.fault fault) =>
      rw [hAnswer] at hLookup
      rw [writes_bind_of_error
          (ends_attempt_fault.mpr hLookup).result_eq,
        writes_of_reads hReads.attempt]
      rfl

variable {w : Workspace}
variable {emails userIds : List Datum}

/- Users are invited in the order of the addresses. -/
theorem writes_inviteEach
    {s after : Workspace}
    {failures : List Failure}
    (hAlike : w.Alike s)
    (h : (inviteEach id emails).Returns Workspace.remote s
      failures after) :
    ((inviteEach id emails).run Workspace.remote s).writes =
      (emails.map fun email =>
        (w.answer (.userByEmail email)).1).filterMap
          (invitation? id) := by
  induction emails generalizing s after failures with
  | nil => rfl
  | cons email rest ih =>
      unfold inviteEach at h ⊢
      rcases returns_bind.mp h with
        ⟨failure?, middle, hOne, hNext⟩
      rcases returns_bind.mp hNext with
        ⟨others, last, hRest, -⟩
      have hMiddle := hAlike.of_returns hOne
      rw [writes_bind_of_returns hOne, writes_bind_of_reads,
        ih hMiddle hRest, writes_inviteOne, List.map_cons,
        List.filterMap_cons, ← hAlike.userByEmail email]
      · change (invitation? id
          (s.answer (.userByEmail email)).1).toList ++ _ = _
        cases invitation? id (s.answer (.userByEmail email)).1
          <;> rfl
      · exact fun _ => trivial

/- Surplus members are removed in the order of the listing. -/
theorem writes_removeEach
    {s after : Workspace}
    (hw : w.WellTyped)
    (hUserIds : ∀ userId ∈ userIds, userId.isText = true)
    (hAlike : w.Alike s)
    (h : (removeEach id emails userIds).Returns
      Workspace.remote s () after) :
    ((removeEach id emails userIds).run Workspace.remote
        s).writes =
      (userIds.filter (w.isSurplus emails)).map
        (.removeMember id) := by
  induction userIds generalizing s with
  | nil => rfl
  | cons userId rest ih =>
      rw [List.forall_mem_cons] at hUserIds
      unfold removeEach at h ⊢
      rcases returns_bind.mp h with
        ⟨user, middle, hUser, hNext⟩
      rcases returns_bind.mp hNext with
        ⟨stays, middle', hStays, hLast⟩
      rcases returns_lift.mp hStays with
        ⟨hAllowed, rfl⟩
      have hMiddle := hAlike.of_returns hUser
      have hFound :=
        get?_of_answer hUserIds.1
          (Access.returns_userById.mp hUser).1
      rw [hAlike.users] at hFound
      rw [Drift.allowed_eq
        (hw.user_of_get? hUserIds.1 hFound).1] at hAllowed
      cases hAllowed
      have hSurplus :
          w.isSurplus emails userId =
            !decide (user.Welcome emails) := by
        simp only [isSurplus, hFound]
      rw [writes_bind_of_returns hUser,
        writes_of_reads (Access.reads_userById userId),
        List.nil_append,
        writes_bind_of_returns hStays,
        writes_of_reads (sends_lift _), List.nil_append]
      by_cases hWelcome : user.Welcome emails
      · rw [List.filter_cons_of_neg
          (by simp [hSurplus, hWelcome])]
        simp only [hWelcome, decide_true, if_true]
          at hLast ⊢
        exact ih hUserIds.2 hMiddle hLast
      · rw [List.filter_cons_of_pos
          (by simp [hSurplus, hWelcome])]
        simp only [hWelcome, decide_false,
          Bool.false_eq_true, if_false, returns_bind,
          returns_record] at hLast ⊢
        rcases hLast with
          ⟨_, _, rfl, _, last, hRemoved, hRest⟩
        rw [writes_record_bind,
          writes_bind_of_returns hRemoved, writes_reporting,
          ih hUserIds.2 (hMiddle.of_returns hRemoved) hRest]
        exact congrArg (· ++ _) (writes_send _ _)

end Roster

end ChannelSync
