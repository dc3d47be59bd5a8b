import ChannelSync.Proofs.Access.Fetching
import ChannelSync.Proofs.Access.Setting
import ChannelSync.Proofs.Reconciliation.Target
import ChannelSync.Session

/-
  Operations that fail.

  A request that fails leaves the workspace as it was, for
  whatever reason it fails.  So does each operation on a
  channel or a user: what it does before its one change only
  reads, and nothing after the change can fail.

  An invitation of several users is the exception.  It adds
  them one by one, and those before the first one who cannot
  be added stay members.

  Key definitions include:
    * `Workspace.Spares`
    * `Workspace.Excluded`
    * `Workspace.LeftByInvitation`
    * `Program.Atomic`
    * `Action.isOperation`

  Key theorems include:
    * `Workspace.spares_answer`
    * `Workspace.enrol_stopped`
    * `Program.Atomic.bind_after`
    * `Action.atomic_program`
    * `failed_operations_traceless`
-/

------------------------------------------------------------
-- Failures That Change Nothing
------------------------------------------------------------

namespace ChannelSync

namespace Workspace

/- If a request fails, the workspace is left as it was. -/
def Spares
    (w : Workspace)
    (outcome : Except Problem α × Workspace) :
    Prop :=
  ∀ problem, outcome.1 = .error problem → outcome.2 = w

variable {w : Workspace}

/- Nothing is changed where the workspace is the same. -/
theorem spares_same
    (result : Except Problem α) :
    w.Spares (result, w) :=
  fun _ _ => rfl

/- Nothing fails where there is an answer. -/
theorem spares_ok
    (a : α)
    (after : Workspace) :
    w.Spares (.ok a, after) :=
  fun _ h => nomatch h

/- What is made of the answer does not matter. -/
theorem Spares.map
    {outcome : Except Problem α × Workspace}
    (h : w.Spares outcome)
    (f : α → β) :
    w.Spares (outcome.1.map f, outcome.2) := by
  rcases outcome with ⟨result, after⟩
  intro problem hProblem
  cases result with
  | ok a => cases hProblem
  | error problem' => exact h problem' rfl

/- A channel that is missing is not changed. -/
theorem spares_update
    (w : Workspace)
    (id : Datum)
    (change : Observed → Observed) :
    w.Spares (w.update id change) := by
  unfold update
  split
  · exact spares_same _
  · exact spares_ok _ _

/- Nor is one that is archived already, or not archived. -/
theorem spares_setArchived
    (w : Workspace)
    (id : Datum)
    (archived : Bool) :
    w.Spares (w.setArchived id archived) := by
  unfold setArchived
  split
  · exact spares_same _
  · split
    · exact spares_same _
    · exact (w.spares_update id _).map _

/- Nor is one without the member that is to be removed. -/
theorem spares_removeMember
    (w : Workspace)
    (id userId : Datum) :
    w.Spares (w.removeMember id userId) := by
  unfold removeMember
  split
  · exact spares_same _
  · split
    · exact spares_ok _ _
    · exact spares_same _

end Workspace

/- A request to add a list of users to a channel. -/
def Request.isInvitation : Request → Bool
  | inviteMembers _ _ => true
  | channelInfo _ => false
  | createChannel _ _ => false
  | setPurpose _ _ => false
  | setTopic _ _ => false
  | renameChannel _ _ => false
  | archiveChannel _ => false
  | unarchiveChannel _ => false
  | memberPage _ _ _ => false
  | removeMember _ _ => false
  | channelPage _ _ => false
  | userByEmail _ => false
  | userById _ => false

namespace Workspace

variable {w : Workspace}
variable {request : Request}

/- What is not granted changes nothing. -/
theorem spares_grant
    (w : Workspace)
    (h : request.isInvitation = false) :
    w.Spares (w.grant request) := by
  cases request with
  | channelInfo id => exact spares_same _
  | createChannel name isPrivate =>
      simp only [grant, createChannel_eq]
      split
      · exact spares_same _
      · exact spares_ok _ _
  | setPurpose id purpose =>
      simp only [grant, setPurpose]
      split
      · exact spares_same _
      · exact w.spares_update id _
  | setTopic id topic =>
      simp only [grant, setTopic]
      split
      · exact spares_same _
      · exact w.spares_update id _
  | renameChannel id name =>
      simp only [grant, renameChannel]
      split
      · exact spares_same _
      · exact w.spares_update id _
  | archiveChannel id => exact w.spares_setArchived id true
  | unarchiveChannel id =>
      exact w.spares_setArchived id false
  | memberPage id cursor limit => exact spares_same _
  | inviteMembers id userIds => cases h
  | removeMember id userId =>
      exact w.spares_removeMember id userId
  | channelPage cursor limit => exact spares_same _
  | userByEmail email => exact spares_same _
  | userById id => exact spares_same _

/- So a request that fails changes nothing. -/
theorem spares_answer
    (w : Workspace)
    (h : request.isInvitation = false) :
    w.Spares (w.answer request) := by
  unfold answer
  split
  · exact spares_same _
  · exact w.spares_grant h

end Workspace

end ChannelSync

------------------------------------------------------------
-- Invitations of Several Users
------------------------------------------------------------

namespace ChannelSync

namespace Workspace

/-
  Why a user cannot be added to some members, after others
  of the same list have been added.
-/
inductive Excluded
    (w : Workspace)
    (members earlier : List Datum)
    (userId : Datum) :
    Prop where
  | inviting
      (h : (userId == w.botId) = true)
  | unknown
      (h : w.users.get? userId = none)
  | member
      (h : members.contains userId = true)
  | repeated
      (h : earlier.contains userId = true)

/-
  What a failed invitation leaves behind: the workspace as
  it was, if the request was refused or the channel is
  missing, or else the members with those users of the list
  who come before the first one who cannot be added.
-/
inductive LeftByInvitation
    (w : Workspace)
    (id : Datum)
    (userIds : List Datum) :
    Workspace → Prop where
  | refused
      {problem : Problem}
      (hRefusal :
        w.refusal (.inviteMembers id userIds) =
          .error problem) :
      LeftByInvitation w id userIds w
  | missing
      {problem : Problem}
      (hMissing : w.room id = .error problem) :
      LeftByInvitation w id userIds w
  | excluded
      {room : Room}
      {before later : List Datum}
      {userId : Datum}
      (hHeard :
        w.refusal (.inviteMembers id userIds) = .ok ())
      (hRoom : w.room id = .ok room)
      (hSplit : userIds = before ++ userId :: later)
      (hAdded :
        ∀ earlier added others,
          before = earlier ++ added :: others →
          ¬ w.Excluded room.members earlier added)
      (hExcluded : w.Excluded room.members before userId) :
      LeftByInvitation w id userIds
        (w.putRoom id
          { room with members := room.members ++ before })

variable {w : Workspace}
variable {id userId : Datum}
variable {members earlier userIds : List Datum}

/- What is looked up in the table of failures is an atom. -/
theorem isAtom_of_laidIn
    {operation : String}
    {keys : List Datum}
    (h : w.laidIn operation keys = .ok ()) :
    ∀ key ∈ keys, key.isAtom = true := by
  induction keys with
  | nil => simp
  | cons key rest ih =>
      unfold laidIn at h
      split at h
      case isFalse => cases h
      case isTrue hAtom =>
          split at h
          case h_1 => cases h
          case h_2 =>
              exact List.forall_mem_cons.mpr ⟨hAtom, ih h⟩

/- The first user is excluded, or is added before the rest. -/
theorem enrol_cons
    (hAtom : userId.isAtom = true) :
    (w.Excluded members earlier userId ∧
        (w.enrol (members ++ earlier)
            (userId :: userIds)).2 = members ++ earlier) ∨
      (¬ w.Excluded members earlier userId ∧
        w.enrol (members ++ earlier) (userId :: userIds) =
          w.enrol (members ++ (earlier ++ [userId]))
            userIds) := by
  simp only [enrol, hAtom, List.contains_append,
    ← List.append_assoc, Bool.not_true, Bool.false_eq_true,
    if_false]
  split
  case isTrue hBot => exact Or.inl ⟨.inviting hBot, rfl⟩
  case isFalse hBot =>
      split
      case isTrue hNone =>
          exact Or.inl
            ⟨.unknown (Option.isNone_iff_eq_none.mp hNone),
              rfl⟩
      case isFalse hKnown =>
          split
          case isTrue hListed =>
              refine Or.inl ⟨?_, rfl⟩
              rcases Bool.or_eq_true_iff.mp hListed with
                hMember | hEarlier
              · exact .member hMember
              · exact .repeated hEarlier
          case isFalse hFree =>
              refine Or.inr ⟨fun hExcluded => ?_, rfl⟩
              cases hExcluded with
              | inviting h => exact hBot h
              | unknown h =>
                  exact hKnown (Option.isNone_iff_eq_none.mpr h)
              | member h => exact hFree (by rw [h]; rfl)
              | repeated h =>
                  exact hFree (by rw [h, Bool.or_true])

/-
  Users are added up to the first one who is excluded.  The
  induction is on those who are still to be added.
-/
theorem enrol_stopped
    {problem : Problem}
    (hAtoms : ∀ userId ∈ userIds, userId.isAtom = true)
    (h : (w.enrol (members ++ earlier) userIds).1 =
      .error problem) :
    ∃ before userId later,
      userIds = before ++ userId :: later ∧
        (w.enrol (members ++ earlier) userIds).2 =
          members ++ (earlier ++ before) ∧
        (∀ first added others,
          before = first ++ added :: others →
          ¬ w.Excluded members (earlier ++ first) added) ∧
        w.Excluded members (earlier ++ before) userId := by
  induction userIds generalizing earlier with
  | nil => cases h
  | cons userId rest ih =>
      rcases List.forall_mem_cons.mp hAtoms with
        ⟨hAtom, hRest⟩
      rcases enrol_cons hAtom with
        ⟨hExcluded, hMembers⟩ | ⟨hFree, hEnrol⟩
      · refine ⟨[], userId, rest, rfl, ?_, ?_, ?_⟩
        · rw [hMembers, List.append_nil]
        · intro first added others hNone
          simp at hNone
        · rw [List.append_nil]
          exact hExcluded
      · rw [hEnrol] at h ⊢
        rcases ih hRest h with
          ⟨before, stopped, later, rfl, hMembers, hAdded,
            hStopped⟩
        refine ⟨userId :: before, stopped, later, rfl, ?_, ?_,
          ?_⟩
        · rw [hMembers, List.append_assoc]
          rfl
        · intro first added others hSplit
          -- the one just added, or one of those after it
          cases first with
          | nil =>
              cases hSplit
              rw [List.append_nil]
              exact hFree
          | cons head first =>
              rw [List.cons_append, List.cons.injEq]
                at hSplit
              rcases hSplit with ⟨rfl, hSplit⟩
              have hLater := hAdded first added others hSplit
              rw [List.append_assoc] at hLater
              exact hLater
        · rw [List.append_assoc] at hStopped
          exact hStopped

/- So much for the members that an invitation leaves behind. -/
theorem leftByInvitation
    {problem : Problem}
    (h : (w.answer (.inviteMembers id userIds)).1 =
      .error problem) :
    w.LeftByInvitation id userIds
      (w.answer (.inviteMembers id userIds)).2 := by
  simp only [answer] at h ⊢
  cases hRefusal : w.refusal (.inviteMembers id userIds) with
  | error problem => exact .refused hRefusal
  | ok _ =>
      rw [hRefusal] at h
      simp only [grant, inviteMembers] at h ⊢
      cases hRoom : w.room id with
      | error problem => exact .missing hRoom
      | ok room =>
          rw [hRoom] at h
          have hAtoms :
              ∀ userId ∈ userIds, userId.isAtom = true := by
            intro userId hMem
            exact isAtom_of_laidIn hRefusal userId
              (by simp [keys, Request.arguments, hMem])
          simp only at h ⊢
          rw [← List.append_nil room.members] at h
          rcases enrol_stopped hAtoms h with
            ⟨before, userId, later, hSplit, hMembers, hAdded,
              hExcluded⟩
          rw [List.append_nil] at hMembers
          rw [hMembers]
          exact
            .excluded hRefusal hRoom hSplit hAdded hExcluded

/- A refused invitation leaves nothing behind. -/
theorem LeftByInvitation.eq_of_refused
    {after : Workspace}
    {problem : Problem}
    (h : w.LeftByInvitation id userIds after)
    (hRefusal :
      w.refusal (.inviteMembers id userIds) =
        .error problem) :
    after = w := by
  cases h with
  | refused => rfl
  | missing => rfl
  | excluded hHeard => cases hRefusal.symm.trans hHeard

/- An invitation of one user that fails changes nothing. -/
theorem spares_answer_invite
    (w : Workspace)
    (id userId : Datum) :
    w.Spares (w.answer (.inviteMembers id [userId])) := by
  intro problem h
  have hLeft := leftByInvitation h
  generalize (w.answer (.inviteMembers id [userId])).2 =
    after at hLeft ⊢
  cases hLeft with
  | refused => rfl
  | missing => rfl
  | @excluded room before later stopped hHeard hRoom hSplit =>
      have hNone : before = [] := by
        cases before with
        | nil => rfl
        | cons first rest => simp at hSplit
      rw [hNone, List.append_nil]
      exact putRoom_of_get? (get?_of_room hRoom)

end Workspace

end ChannelSync

------------------------------------------------------------
-- Atomic Programs
------------------------------------------------------------

namespace ChannelSync

namespace Program

open Workspace

variable {α β : Type}

/- If a run stops, it leaves the workspace as it was. -/
def Atomic
    (p : Program α) :
    Prop :=
  ∀ w problem after,
    p.Stops remote w problem after → after = w

/- A program that only reads is atomic. -/
theorem atomic_of_reads
    {p : Program α}
    (h : p.Reads) :
    p.Atomic :=
  fun w _ _ hStops =>
    hStops.state_eq.symm.trans (state_of_reads h w)

/- A request is atomic if its failures change nothing. -/
theorem atomic_send
    {request : Request}
    (h : ∀ w : Workspace, w.Spares (w.answer request)) :
    (send request).Atomic := by
  intro w problem after hStops
  rcases ends_send.mp hStops.ends with ⟨hResult, hAfter, -⟩
  exact hAfter.trans (h w problem hResult.symm)

/- Reporting a failure changes nothing. -/
theorem Atomic.reporting
    {p : Program α}
    {event : Failure → Event}
    (h : p.Atomic) :
    (p.reporting event).Atomic :=
  fun w problem after hStops =>
    h w problem after (ends_reporting.mp hStops.ends).stops

/- One may read before something atomic. -/
theorem Atomic.bind_after
    {p : Program α}
    {next : α → Program β}
    (hFirst : p.Reads)
    (hNext : ∀ a, (next a).Atomic) :
    (p >>= next).Atomic := by
  intro w problem after hStops
  rcases ends_bind.mp hStops.ends with
    ⟨problem', hProblem, -⟩ |
      ⟨a, middle, _, _, hA, hB, -⟩
  · exact atomic_of_reads hFirst w _ _ hProblem.stops
  · obtain rfl : w = middle :=
      (state_of_returned hFirst hA.returns).symm
    exact hNext a w problem after hB.stops

/- What always returns may come after something atomic. -/
theorem Atomic.bind_before
    {p : Program α}
    {next : α → Program β}
    (hFirst : p.Atomic)
    (hNext :
      ∀ a w problem after,
        ¬ (next a).Stops remote w problem after) :
    (p >>= next).Atomic := by
  intro w problem after hStops
  rcases ends_bind.mp hStops.ends with
    ⟨problem', hProblem, -⟩ |
      ⟨a, middle, _, _, hA, hB, -⟩
  · exact hFirst w _ _ hProblem.stops
  · exact absurd hB.stops (hNext a middle problem after)

/- What is made of the value does not matter. -/
theorem Atomic.map
    {p : Program α}
    (h : p.Atomic)
    (f : α → β) :
    (f <$> p).Atomic := by
  rw [map_eq_pure_bind]
  refine h.bind_before fun a w problem after hStops => ?_
  cases hStops.result_eq

end Program

namespace Access

open Program Workspace

variable {id declared : Datum}

/- A setter is atomic if its request is. -/
theorem atomic_ensure
    {field : Observed → Datum}
    {event : Event}
    {set : Program Observed}
    (h : set.Atomic) :
    (ensure id declared field event set).Atomic := by
  refine Atomic.bind_after (reads_info id) fun channel => ?_
  refine Atomic.bind_after (sends_lift _) fun current => ?_
  split
  · exact atomic_of_reads trivial
  · exact Atomic.bind_after (p := record _) trivial
      fun _ => h

/- Creating a channel is atomic. -/
theorem atomic_create
    (name isPrivate : Datum) :
    (create name isPrivate).Atomic := by
  have hSend :
      (send (.createChannel name isPrivate)).Atomic :=
    atomic_send fun w => w.spares_answer rfl
  refine Atomic.bind_after (p := record _) trivial
    fun _ => ?_
  refine hSend.bind_before
    fun channel w problem after hStops => ?_
  cases hStops.result_eq

/- A request whose failure is reported is atomic. -/
theorem atomic_reported
    {request : Request}
    {event : Failure → Event}
    (h : request.isInvitation = false) :
    ((send request).reporting event).Atomic :=
  (atomic_send fun w => w.spares_answer h).reporting

end Access

end ChannelSync

------------------------------------------------------------
-- Operations on Channels and Users
------------------------------------------------------------

namespace ChannelSync

namespace Action

open Program Workspace

/-
  Whether an action is one operation on a channel or a user:
  a single request, or one that reads before it writes.  The
  invitation of a list of users is not among them.
-/
def isOperation : Action → Bool
  | fetch _ => true
  | create _ _ => true
  | setDescription _ _ => true
  | setTopic _ _ => true
  | rename _ _ => true
  | archive _ => true
  | unarchive _ => true
  | memberSet _ => true
  | memberIds _ => true
  | invite _ _ => true
  | kick _ _ => true
  | userByEmail _ => true
  | userById _ => true
  | request r => !r.isInvitation
  | inviteRequest _ _ => false
  | reconcile _ _ => false
  | check _ _ => false
  | finalize _ => false
  | adopt _ => false
  | findByName _ => false
  | detectDrift _ _ => false
  | compareMembers _ _ => false
  | inviteAll _ _ => false
  | removeOthers _ _ => false

/- Every operation is atomic. -/
theorem atomic_program
    (limits : Limits)
    {action : Action}
    (h : action.isOperation = true) :
    (action.program limits).Atomic := by
  cases action with
  | fetch id =>
      exact (atomic_of_reads
        (Access.reads_fetch limits.members id)).map _
  | create name isPrivate =>
      exact (Access.atomic_create name isPrivate).map _
  | setDescription id description =>
      exact (Access.atomic_ensure
        (Access.atomic_reported rfl)).map _
  | setTopic id topic =>
      exact (Access.atomic_ensure
        (Access.atomic_reported rfl)).map _
  | rename id name =>
      exact (Access.atomic_ensure
        (Access.atomic_reported rfl)).map _
  | archive id =>
      exact (Atomic.bind_after (p := record _) trivial
        fun _ => Access.atomic_reported rfl).map _
  | unarchive id =>
      exact (Atomic.bind_after (p := record _) trivial
        fun _ => Access.atomic_reported rfl).map _
  | memberSet id =>
      exact Atomic.bind_after
        (Access.reads_memberIds limits.members id)
        fun ids => (atomic_of_reads (sends_lift _)).map _
  | memberIds id =>
      exact (atomic_of_reads
        (Access.reads_memberIds limits.members id)).map _
  | invite id userId =>
      exact (atomic_send fun w =>
        w.spares_answer_invite id userId).map _
  | kick id userId =>
      exact (atomic_send fun w => w.spares_answer rfl).map _
  | userByEmail email =>
      exact (Access.atomic_reported rfl).map _
  | userById id =>
      exact (Access.atomic_reported rfl).map _
  | request r =>
      have hOther : r.isInvitation = false := by
        simpa [isOperation] using h
      exact (atomic_send fun w => w.spares_answer hOther).map _
  | _ => cases h

end Action

end ChannelSync

------------------------------------------------------------
-- Sessions
------------------------------------------------------------

namespace ChannelSync

open Program Workspace

/- An action that invites a list of users to a channel. -/
inductive Action.Invites
    (id : Datum)
    (userIds : List Datum) :
    Action → Prop where
  | request :
      Invites id userIds
        (.request (.inviteMembers id userIds))
  | given
      {users : Datum}
      (h : users.elements = .ok userIds) :
      Invites id userIds (.inviteRequest id users)

variable {id : Datum}
variable {userIds : List Datum}
variable {action : Action}

/- Such an action is the invitation and nothing else. -/
theorem Action.Invites.program
    (h : action.Invites id userIds)
    (limits : Limits) :
    ∃ reply : Unit → Reply,
      action.program limits =
        reply <$> send (.inviteMembers id userIds) := by
  cases h with
  | request => exact ⟨_, rfl⟩
  | given hUsers =>
      refine ⟨fun _ => .nothing, ?_⟩
      simp only [Action.program, hUsers]
      rfl

/- So its run goes as the invitation is answered. -/
theorem Action.Invites.ends
    (h : action.Invites id userIds)
    (limits : Limits)
    (w : Workspace) :
    ∃ reply : Unit → Reply,
      (action.program limits).Ends remote w
        ((w.answer (.inviteMembers id userIds)).1.map reply)
        (w.answer (.inviteMembers id userIds)).2
        [⟨.inviteMembers id userIds,
          (w.answer (.inviteMembers id userIds)).1⟩] := by
  rcases h.program limits with ⟨reply, hProgram⟩
  rw [hProgram]
  exact ⟨reply,
    (ends_send.mpr ⟨rfl, rfl, rfl⟩ :
      (send (.inviteMembers id userIds)).Ends remote w
        _ _ _).map reply⟩

/-
  An operation that fails leaves no trace in the workspace of
  a session, only in the history of its requests.  After a
  failed invitation of several users, those are members who
  come before the first one who is excluded.
-/
theorem failed_operations_traceless
    (limits : Limits)
    (session : WorkspaceSession)
    (action : Action)
    (problem : Problem)
    (h : (session.step limits (.act action)).result =
      .error problem) :
    (action.isOperation = true →
      (session.step limits (.act action)).state =
        { session with
          history :=
            session.history ++
              (session.step limits
                (.act action)).requests }) ∧
    (∀ id userIds,
      action.Invites id userIds →
      ∃ after,
        session.workspace.LeftByInvitation id userIds
            after ∧
          (session.step limits (.act action)).state =
            ⟨after,
              session.history ++
                [.inviteMembers id userIds]⟩) := by
  constructor
  · intro hOperation
    have hKept :=
      Action.atomic_program limits hOperation
        session.workspace problem _ ⟨h, rfl⟩
    simp only [WorkspaceSession.step, hKept]
  · intro id userIds hInvites
    rcases hInvites.ends limits session.workspace with
      ⟨reply, hEnds⟩
    have hFailed := hEnds.result_eq.symm.trans h
    cases hAnswer :
        (session.workspace.answer
          (.inviteMembers id userIds)).1 with
    | ok answer =>
        rw [hAnswer] at hFailed
        cases hFailed
    | error problem' =>
        refine ⟨_, leftByInvitation hAnswer, ?_⟩
        simp only [WorkspaceSession.step, hEnds.state_eq,
          Run.requests, hEnds.exchanges_eq, List.map_cons,
          List.map_nil]

/- A session on the sample workspace. -/
def WorkspaceSession.sample : WorkspaceSession :=
  ⟨Workspace.sample, [.channelInfo (.text "C1")]⟩

/- An invitation that gets to a member after somebody else. -/
def Action.partlyExcluded : Action :=
  .inviteRequest (.text "C1")
    (.list [.text "U1", .text "U2", .text "U0"])

/- The creation of a channel under a name that is in use. -/
def Action.nameTaken : Action :=
  .create (.text "lunch") (.flag false)

/- The same session where one user cannot be invited. -/
def WorkspaceSession.guarded : WorkspaceSession :=
  ⟨Workspace.sample.withFailures Workspace.sampleFailures,
    []⟩

/-
  A channel of the name is not created again.  The first user
  of the list joins, and the second is a member already.
  Where the first one cannot be invited, nobody joins.
-/
theorem failed_operations_traceless_sample :
    (WorkspaceSession.sample.step Limits.sample
        (.act .nameTaken)).state =
      ⟨Workspace.sample,
        [.channelInfo (.text "C1"),
          .createChannel (.text "lunch") (.flag false)]⟩ ∧
    (WorkspaceSession.sample.step Limits.sample
        (.act .partlyExcluded)).result =
      .error (.failure Refusal.alreadyMember) ∧
    (∃ after,
      Workspace.sample.LeftByInvitation (.text "C1")
          [.text "U1", .text "U2", .text "U0"] after ∧
        (WorkspaceSession.sample.step Limits.sample
            (.act .partlyExcluded)).state =
          ⟨after,
            [.channelInfo (.text "C1"),
              .inviteMembers (.text "C1")
                [.text "U1", .text "U2", .text "U0"]]⟩) ∧
    (WorkspaceSession.guarded.step Limits.sample
        (.act .partlyExcluded)).result =
      .error
        (.failure
          (.single .remote "no" (.text "restricted")
            none)) ∧
    (WorkspaceSession.guarded.step Limits.sample
        (.act .partlyExcluded)).state =
      ⟨WorkspaceSession.guarded.workspace,
        [.inviteMembers (.text "C1")
          [.text "U1", .text "U2", .text "U0"]]⟩ := by
  have hTaken :
      (WorkspaceSession.sample.step Limits.sample
          (.act .nameTaken)).result =
        .error
          (.failure (Refusal.nameTaken (.text "lunch"))) := by
    rfl
  have hFailed :
      (WorkspaceSession.sample.step Limits.sample
          (.act .partlyExcluded)).result =
        .error (.failure Refusal.alreadyMember) := by
    rfl
  have hRefused :
      (WorkspaceSession.guarded.step Limits.sample
          (.act .partlyExcluded)).result =
        .error
          (.failure
            (.single .remote "no" (.text "restricted")
              none)) := by
    rfl
  rcases (failed_operations_traceless Limits.sample .guarded
      .partlyExcluded _ hRefused).2 _ _ (.given rfl) with
    ⟨after, hLeft, hState⟩
  have hSame := hLeft.eq_of_refused rfl
  subst hSame
  exact ⟨(failed_operations_traceless Limits.sample .sample
      .nameTaken _ hTaken).1 rfl,
    hFailed,
    (failed_operations_traceless Limits.sample .sample
      .partlyExcluded _ hFailed).2 _ _ (.given rfl),
    hRefused, hState⟩

example :
    ((Workspace.sample.answer
        (.inviteMembers (.text "C1")
          [.text "U1", .text "U2", .text "U0"])).2.channels.get?
        (.text "C1")).map (fun room => room.members) =
      some [.text "U2", .text "U1"] := by
  decide +kernel

end ChannelSync
