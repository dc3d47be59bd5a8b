import ChannelSync.Proofs.Reconciliation.Course
import ChannelSync.Proofs.Reconciliation.Target

/-
  What a reconciliation converges to.

  When a reconciliation returns, the channel is as it is
  declared, and the report says how it is: out of the
  archive, with the declared texts, everyone who is declared
  is a member, and everyone who is a member is a bot or is
  declared.  It does not matter where the run started or
  which way it took.

  The user acted as need not be a member, as nobody can
  invite oneself.  A failed invitation must not look as if it
  were settled.

  Key definitions include:
    * `Workspace.Converged`

  Key theorems include:
    * `Desired.unescaped_settle`
    * `reconcile_converges`
-/

------------------------------------------------------------
-- Settled Attributes
------------------------------------------------------------

namespace ChannelSync

/- An aligned text shows what is declared. -/
theorem Datum.unescaped_aligned
    {stored declared : Datum}
    (h : declared.isText = true) :
    (stored.aligned declared
        declared.storedForm).unescaped =
      .ok declared := by
  rcases Datum.aligned_cases stored declared
    declared.storedForm with ⟨hShows, hSame⟩ | ⟨-, hSet⟩
  · rw [hSame]
    exact (Datum.shows_iff h).mp hShows
  · rw [hSet]
    exact Datum.unescaped_storedForm h

/- Settled attributes show what is declared. -/
theorem Desired.unescaped_settle
    {desired : Desired}
    (hDesired : desired.WellTyped)
    (state : Observed) :
    (desired.settle state).topic.unescaped =
        .ok desired.topic ∧
      (desired.settle state).description.unescaped =
        .ok desired.description ∧
      ((desired.settle state).name = desired.name ∨
        (desired.settle state).name.unescaped =
          .ok desired.name) := by
  refine ⟨Datum.unescaped_aligned hDesired.topic,
    Datum.unescaped_aligned hDesired.description, ?_⟩
  rw [Desired.settle_name]
  rcases Datum.aligned_cases state.name desired.name
    desired.name with ⟨hShows, hSame⟩ | ⟨-, hSet⟩
  · rw [hSame]
    exact Or.inr ((Datum.shows_iff hDesired.name).mp hShows)
  · exact Or.inl hSet

end ChannelSync

------------------------------------------------------------
-- The Channel After a Reconciliation
------------------------------------------------------------

namespace ChannelSync

open Program Workspace

variable {w after : Workspace}
variable {limits : Limits}
variable {desired : Desired}
variable {id? : Option Datum}
variable {observed : Observed}

/-
  How a reconciliation that returns leaves a channel: where
  it started, the room then and now, and the report.
-/
structure Workspace.Leaves
    (w : Workspace)
    (limits : Limits)
    (desired : Desired)
    (id? : Option Datum)
    (base : Workspace)
    (room room' : Room)
    (observed : Observed) :
    Prop where
  starts : w.Starts desired id? base observed.id room
  converged :
    (converge limits desired observed.id).Returns remote base
      observed (base.putRoom observed.id room')
  typed : room'.WellTyped
  shown : room'.ShownAs observed
  attributes :
    { observed with memberIds := [] } =
      desired.settle room.active.state
  staffed :
    base.Staffed desired.members room.members room'.members
  fetched :
    (Access.fetch limits.members observed.id).Returns remote
      (base.putRoom observed.id room') observed
      (base.putRoom observed.id room')

/- A reconciliation that returns leaves a channel so. -/
theorem reconcile_leaves
    (hReachable : w.Reachable)
    (hDistinct : w.MembersDistinct)
    (hOpen : w.InvitesOpenly)
    (hLimits : limits.Positive)
    (hDesired : desired.WellTyped)
    (hId : ∀ id ∈ id?, id.isText = true)
    (h : (reconcile limits desired id?).Returns remote w
      observed after) :
    ∃ base room room',
      after = base.putRoom observed.id room' ∧
        w.Leaves limits desired id? base room room'
          observed := by
  rcases reconcile_starts hReachable.wellTyped hLimits
      hDesired hId h.ends with
    ⟨base, id, room, _, _, hStarts, hRest, -, -⟩
  have hConverge := hRest.returns
  rcases hStarts.room_typed with ⟨hRoom, hRoomId⟩
  have hBaseOpen : base.InvitesOpenly := by
    intro argument failure hLaid
    rw [hStarts.failures] at hLaid
    exact hOpen argument failure hLaid
  rw [← hStarts.putRoom] at hConverge
  rcases converge_returned hLimits hStarts.typed
      hStarts.isText hDesired hRoom hRoomId
      (hStarts.nodup hDistinct) hBaseOpen hConverge with
    ⟨room', rfl, hTyped, hState, hStaffed, hFetched⟩
  have hShown :=
    shownAs_of_fetched hLimits hStarts.isText hTyped hFetched
  have hAttributes :
      { observed with memberIds := [] } =
        desired.settle room.active.state :=
    hShown.attributes.trans hState
  have hSameId : observed.id = id :=
    (congrArg Observed.id hAttributes).trans hRoomId
  subst hSameId
  exact ⟨base, room, room', rfl,
    { starts := hStarts
      converged := hRest.returns
      typed := hTyped
      shown := hShown
      attributes := hAttributes
      staffed := hStaffed
      fetched := hFetched }⟩

end ChannelSync

------------------------------------------------------------
-- Convergence
------------------------------------------------------------

namespace ChannelSync

/-
  A report says how a channel is in a workspace, and the
  channel is as it is declared.
-/
structure Workspace.Converged
    (w : Workspace)
    (limits : Limits)
    (desired : Desired)
    (observed : Observed) :
    Prop where
  /- The report is what is there. -/
  room :
    ∃ room, w.channels.get? observed.id = some room ∧
      room.ShownAs observed
  /- Fetching the channel once more gives the report. -/
  fetched :
    (Access.fetch limits.members observed.id).Returns
      Workspace.remote w observed w
  active : observed.archived = .flag false
  topic : observed.topic.unescaped = .ok desired.topic
  description :
    observed.description.unescaped = .ok desired.description
  name :
    observed.name = desired.name ∨
      observed.name.unescaped = .ok desired.name
  addressed :
    ∀ email ∈ desired.members, ∃ user : User,
      (w.answer (.userByEmail email)).1 = .ok user ∧
        (user.id ∈ observed.memberIds ∨ user.id = w.botId)
  welcome :
    ∀ userId ∈ observed.memberIds, ∃ user : User,
      w.users.get? userId = some user ∧
        user.Welcome desired.members

open Program Workspace

variable {w : Workspace}
variable {limits : Limits}
variable {desired : Desired}
variable {id? : Option Datum}
variable {observed : Observed}

/-
  A reconciliation that returns has brought the channel in
  line, and reports it as it is.
-/
theorem reconcile_converges
    (hReachable : w.Reachable)
    (hDistinct : w.MembersDistinct)
    (hOpen : w.InvitesOpenly)
    (hLimits : limits.Positive)
    (hDesired : desired.WellTyped)
    (hId : ∀ id ∈ id?, id.isText = true)
    (hResult :
      ((reconcile limits desired id?).run remote w).result =
        .ok observed) :
    Workspace.Converged
      ((reconcile limits desired id?).run remote w).state
      limits desired observed := by
  rcases reconcile_leaves hReachable hDistinct hOpen hLimits
      hDesired hId ⟨hResult, rfl⟩ with
    ⟨base, room, room', hFinal, hLeaves⟩
  rcases Desired.unescaped_settle hDesired room.active.state
      with
    ⟨hTopic, hDescription, hName⟩
  have hAttributes := hLeaves.attributes
  rw [← hAttributes] at hTopic hDescription hName
  rw [hFinal]
  exact
    { room := ⟨room', get?_putRoom base observed.id room',
        hLeaves.shown⟩
      fetched := hLeaves.fetched
      active := congrArg Observed.archived hAttributes
      topic := hTopic
      description := hDescription
      name := hName
      addressed := by
        intro email hEmail
        rcases hLeaves.staffed.addressed email hEmail with
          ⟨user, hUser, hMember⟩
        refine ⟨user, ?_, ?_⟩
        · rw [answer_userByEmail_putRoom]
          exact hUser
        · exact hMember.imp_left
            (hLeaves.shown.members _).mpr
      welcome := by
        intro userId hMember
        have hMem := (hLeaves.shown.members userId).mp hMember
        rcases hLeaves.staffed.welcome userId hMem with
          ⟨user, hUser, hWelcome⟩
        refine ⟨user, get?_of_answer
          (hLeaves.typed.members userId hMem) ?_, hWelcome⟩
        rw [answer_userById_putRoom]
        exact hUser }

/- The small workspace is brought in line. -/
theorem reconcile_converges_sample :
    Workspace.Converged
      ((reconcile Limits.sample Desired.sample
        (some (.text "C1"))).run remote
          Workspace.sample).state
      Limits.sample Desired.sample
      { id := .text "C1"
        name := .text "dinner"
        memberIds := [.text "U1"] } :=
  reconcile_converges reachable_sample
    membersDistinct_sample
    (invitesOpenly_of_no_failures no_failures_sample)
    Limits.positive_sample Desired.wellTyped_sample
    (by simp [Datum.isText]) rfl

end ChannelSync
