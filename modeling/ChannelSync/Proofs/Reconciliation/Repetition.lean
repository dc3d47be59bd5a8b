import ChannelSync.Proofs.Reconciliation.Concerns
import ChannelSync.Proofs.Reconciliation.Retry

/-
  Reconciling by name again and again.

  A name stands for one channel: the first one that bears
  it, or the one that is to be created.  A run by name,
  however it ends, leaves it at that.  It creates a channel
  only if the name is free, then the name is no longer free,
  and the channel never loses it.

  So a whole sequence of runs, whatever failures are laid in
  for each of them, is about a single channel.  Where nothing
  is laid in, a run does get to the channel.

  Key definitions include:
    * `Workspace.Bears`
    * `Exchange.SticksTo`
    * `Program.BeginsWith`
    * `reconcileAll`

  Key theorems include:
    * `fails_createOrFind`
    * `beginsWith_converge`
    * `converge_named`
    * `sticks_reconcile`
    * `reconcile_unforked`
-/

------------------------------------------------------------
-- The Channel of a Name
------------------------------------------------------------

namespace ChannelSync

namespace Workspace

/-
  The channel that a name stands for: the first one that
  bears it, or the next one to be created.
-/
inductive Bears
    (w : Workspace)
    (name target : Datum) :
    Prop where
  | found
      {channel : Observed}
      (hFirst : w.firstNamed name = some channel)
      (hTarget : channel.id = target)
  | free
      (hFree : w.nameUsed name none = false)
      (hTarget : w.nextId = target)

/- How many channels of a name can still be created. -/
def vacancy
    (w : Workspace)
    (name : Datum) :
    Nat :=
  if w.nameUsed name none then 0 else 1

variable {w : Workspace}
variable {name : Datum}

/- A name that is in use has a first channel. -/
theorem firstNamed_of_nameUsed
    (hName : name.isText = true)
    (h : w.nameUsed name none = true) :
    ∃ channel, w.firstNamed name = some channel := by
  rcases (nameUsed_iff hName).mp h with
    ⟨channel, hChannel, hSame⟩
  apply Option.isSome_iff_exists.mp
  rw [firstNamed, List.find?_isSome]
  exact ⟨channel, hChannel, by simp [hSame]⟩

/- Every name stands for some channel. -/
theorem exists_bears
    (hName : name.isText = true)
    (w : Workspace) :
    ∃ target, w.Bears name target := by
  cases hUsed : w.nameUsed name none with
  | true =>
      rcases firstNamed_of_nameUsed hName hUsed with
        ⟨channel, hFirst⟩
      exact ⟨channel.id, .found hFirst rfl⟩
  | false => exact ⟨w.nextId, .free hUsed rfl⟩

/- None can be created of a name in use. -/
theorem vacancy_of_firstNamed
    (hName : name.isText = true)
    {channel : Observed}
    (h : w.firstNamed name = some channel) :
    w.vacancy name = 0 := by
  simp [vacancy, (named_of_firstNamed hName h).2]

/- At most one can be created. -/
theorem vacancy_le_one
    (w : Workspace)
    (name : Datum) :
    w.vacancy name ≤ 1 := by
  unfold vacancy
  split <;> omega

end Workspace

end ChannelSync

------------------------------------------------------------
-- Creating or Finding It
------------------------------------------------------------

namespace ChannelSync

/-
  An exchange that is about no other channel: it names no
  other one, and if it creates a channel, it is this one.
-/
structure Exchange.SticksTo
    (x : Exchange)
    (target : Datum) :
    Prop where
  addressed :
    ∀ id, x.request.channelId? = some id → id = target
  created :
    ∀ name isPrivate channel,
      x = ⟨.createChannel name isPrivate, .ok channel⟩ →
        channel.id = target

/- What concerns a channel sticks to it. -/
theorem Request.Concerns.sticks
    {x : Exchange}
    {id : Datum}
    (h : x.request.Concerns id) :
    x.SticksTo id where
  addressed := fun _ hOther => h.eq hOther
  created := by
    intro name isPrivate channel hSame
    have hNone := h.not_creates
    rw [hSame] at hNone
    cases hNone

/- A page of the channel listing names no channel. -/
theorem Request.ListsChannels.sticks
    {x : Exchange}
    (h : x.request.ListsChannels)
    (target : Datum) :
    x.SticksTo target := by
  rcases x with ⟨request, answer⟩
  rcases h with ⟨cursor, limit, rfl⟩
  constructor
  · intro id hId
    cases hId
  · intro name isPrivate channel hSame
    cases hSame

open Program Workspace

variable {w after : Workspace}
variable {limits : Limits}
variable {desired : Desired}
variable {target : Datum}

/- A channel that is created is the one of its name. -/
theorem Workspace.Bears.sticks_create
    (h : w.Bears desired.name target)
    (hName : desired.name.isText = true)
    (isPrivate : Datum) :
    Exchange.SticksTo
      ⟨.createChannel desired.name isPrivate,
        (w.answer
          (.createChannel desired.name isPrivate)).1⟩
      target := by
  constructor
  · intro id hId
    cases hId
  · intro name isPrivate' channel hSame
    cases hAnswer :
        (w.answer
          (.createChannel desired.name isPrivate)).1 with
    | error problem =>
        rw [hAnswer] at hSame
        cases hSame
    | ok created =>
        rw [hAnswer] at hSame
        cases hSame
        rcases answer_createChannel_ok hAnswer with
          ⟨hUnused, rfl, -⟩
        cases h with
        | free hFree hTarget => exact hTarget
        | found hFirst hTarget =>
            rw [(named_of_firstNamed hName hFirst).2]
              at hUnused
            cases hUnused

/- Creating or finding a channel names no other one. -/
theorem Workspace.Bears.sticks_createOrFind
    (h : w.Bears desired.name target)
    (hName : desired.name.isText = true)
    {result : Except Problem Datum}
    {exchanges : List Exchange}
    (hEnds : (createOrFind limits desired).Ends remote w
      result after exchanges) :
    ∀ x ∈ exchanges, x.SticksTo target := by
  have hCreate := h.sticks_create hName desired.isPrivate
  rcases ends_bind.mp hEnds with
    ⟨problem, hFailed, -⟩ |
      ⟨created, middle, first, rest, hCreated, hRest, rfl⟩
  · match problem with
    | .failure failure =>
        -- An attempt never fails.
        have hAttempt := hFailed.result_eq
        rw [run_attempt] at hAttempt
        revert hAttempt
        dsimp only
        split <;> simp
    | .fault fault =>
        rcases ends_create.mp
            (ends_attempt_fault.mp hFailed) with
          ⟨-, -, rfl⟩
        simpa using hCreate
  · rcases ends_attempt_create hCreated with ⟨rfl, -⟩
    intro x hx
    rcases List.mem_append.mp hx with hFirst | hLater
    · rw [List.mem_singleton] at hFirst
      exact hFirst ▸ hCreate
    · have hLists : x.request.ListsChannels := by
        rw [← hRest.exchanges_eq] at hLater
        refine Sends.requests ?_ middle x hLater
        cases created with
        | ok id => trivial
        | error failure =>
            dsimp only
            split
            · exact (sends_findByName _ _).bind
                fun _ => trivial
            · trivial
      exact hLists.sticks target

/-
  Where nothing is laid in a search does not fail, if some
  channel of the name is still to come.
-/
theorem fails_findFrom
    (hOpen : w.failures.entries = [])
    {size : Nat}
    (hSize : 0 < size)
    {bound before start : Nat}
    {name : Datum}
    (hStart : start < Numeral.numberLimit)
    (hNamed :
      (w.states.drop start).find?
          (fun c => c.name == name) ≠ none)
    {result : Except Problem Observed}
    {exchanges : List Exchange}
    (h :
      (Search.findFrom (.number size) name bound before
          (Paging.cursorAt start)).Ends remote w result
        after exchanges) :
    Fails (fun _ => False) result := by
  induction bound generalizing before start exchanges with
  | zero =>
      rcases ends_abort.mp h with ⟨rfl, -, -⟩
      exact fails_fault _
  | succ bound ih =>
      unfold Search.findFrom at h
      rcases ends_bind.mp h with
        ⟨problem, hPage, rfl⟩ |
          ⟨page, middle, first, later, hPage, hLater, rfl⟩
      · have hTyped :
            (Request.channelPage (Paging.cursorAt start)
              (.number size)).WellTyped :=
          ⟨Paging.isText_cursorAt start, rfl⟩
        have hAnswer :
            Fails (fun _ => False)
              (w.answer (.channelPage (Paging.cursorAt start)
                (.number size))).1 := by
          unfold answer
          rw [refusal_of_no_failures hOpen hTyped]
          exact fails_mapError _
        intro failure hFailure
        cases hFailure
        exact hAnswer failure (ends_send.mp hPage).1.symm
      · rcases Access.returns_channelPage.mp hPage.returns
          with ⟨hAnswer, rfl⟩
        have hCases :=
          Paging.page_cases hSize hStart
            (page_of_channelPage hAnswer)
        cases hFound :
            page.items.find? (fun c => c.name == name) with
        | some channel =>
            rw [hFound] at hLater
            simp only [ends_record_bind, ends_pure] at hLater
            rcases hLater with ⟨rfl, -, -⟩
            exact fails_ok _
        | none =>
            rw [hFound] at hLater
            rcases hCases with
              ⟨hMore, hShort, rfl⟩ | ⟨hLast, rfl⟩
            · simp only [Paging.truthy_cursorAt
                (show start + size ≠ 0 by omega),
                if_true] at hLater
              refine ih hShort ?_ hLater
              rw [← List.take_append_drop size
                (List.drop start _), List.find?_append,
                hFound, List.drop_drop] at hNamed
              exact hNamed
            · exact absurd hFound hNamed

/- Nor does a search for the first channel of a name. -/
theorem fails_findByName
    (hOpen : w.failures.entries = [])
    (hLimits : limits.Positive)
    {name : Datum}
    (hNamed : w.firstNamed name ≠ none)
    {result : Except Problem Observed}
    {exchanges : List Exchange}
    (h : (findByName limits.channels name).Ends remote w
      result after exchanges) :
    Fails (fun _ => False) result := by
  rcases hLimits.channels with ⟨size, hSize, hLimit⟩
  rw [hLimit] at h
  rcases (ends_bind_of_ok
      (ends_pageBound.mpr ⟨rfl, rfl, rfl⟩)).mp h with
    ⟨_, hPages, -⟩
  exact fails_findFrom hOpen hSize Numeral.numberLimit_pos
    hNamed hPages

/-
  Where nothing is laid in, creating or finding a channel
  does not fail.
-/
theorem fails_createOrFind
    (hOpen : w.failures.entries = [])
    (hLimits : limits.Positive)
    (hDesired : desired.WellTyped) :
    Fails (fun _ => False)
      ((createOrFind limits desired).run remote w).result := by
  have hRun :=
    ends_run remote (createOrFind limits desired) w
  cases hUsed : w.nameUsed desired.name none with
  | false =>
      rw [(createOrFind_creates hOpen hDesired
        hUsed).result_eq]
      exact fails_ok _
  | true =>
      have hAnswer :=
        answer_createChannel_of_used hOpen hDesired.name
          hDesired.isPrivate hUsed
      have hCreate :
          (Access.create desired.name
            desired.isPrivate).Ends remote w _ _ _ :=
        ends_create.mpr ⟨rfl, rfl, rfl⟩
      rw [hAnswer] at hCreate
      rcases (ends_bind_of_ok
          (ends_attempt_failure.mpr hCreate)).mp hRun with
        ⟨_, hRest, -⟩
      have hConflict :
          (Refusal.nameTaken desired.name).isConflict =
            true :=
        rfl
      simp only [hConflict, if_true, ends_record_bind]
        at hRest
      rcases ends_bind.mp hRest with
        ⟨problem, hSearch, hResult⟩ |
          ⟨channel, middle, first, later, -, hLater, -⟩
      · rcases firstNamed_of_nameUsed hDesired.name hUsed
          with ⟨channel, hFirst⟩
        have hNamed : w.firstNamed desired.name ≠ none := by
          rw [hFirst]
          exact Option.some_ne_none channel
        have hFound :=
          fails_findByName hOpen hLimits hNamed hSearch
        rw [hResult]
        intro failure hFailure
        cases hFailure
        exact hFound failure rfl
      · rw [(ends_pure.mp hLater).1]
        exact fails_ok _

/-
  Where nothing is laid in, a channel is created or found,
  unless its place in the listing is too long to be written.
-/
theorem createOrFind_succeeds
    (hOpen : w.failures.entries = [])
    (hLength :
      w.channels.entries.length ≤ Numeral.numberLimit)
    (hLimits : limits.Positive)
    (hDesired : desired.WellTyped) :
    ∃ id,
      ((createOrFind limits desired).run remote w).result =
        .ok id := by
  cases hUsed : w.nameUsed desired.name none with
  | false =>
      exact ⟨_, (createOrFind_creates hOpen hDesired
        hUsed).result_eq⟩
  | true =>
      rcases firstNamed_of_nameUsed hDesired.name hUsed with
        ⟨channel, hFirst⟩
      rcases hLimits.channels with ⟨size, hSize, hLimit⟩
      rw [← length_states] at hLength
      exact ⟨_, (createOrFind_finds hOpen hDesired hSize
        hLimit (Paging.writable_of_length_le hLength 0)
        hFirst).result_eq⟩

end ChannelSync

------------------------------------------------------------
-- The First Request
------------------------------------------------------------

namespace ChannelSync

namespace Program

/- Whatever comes back, the first exchange is of a request. -/
def BeginsWith
    (p : Program α)
    (request : Request) :
    Prop :=
  ∀ (σ : Type) (remote : Remote σ) (s : σ),
    ∃ answer rest,
      (p.run remote s).exchanges =
        ⟨request, answer⟩ :: rest

variable {p : Program α}
variable {request : Request}

/- A request begins with itself. -/
theorem beginsWith_send
    (request : Request) :
    (send request).BeginsWith request := by
  intro σ remote s
  have hEnds := ends_run remote (send request) s
  exact ⟨_, [], (ends_send.mp hEnds).2.2⟩

/- Reporting on failures adds no exchange. -/
theorem BeginsWith.reporting
    (h : p.BeginsWith request)
    (event : Failure → Event) :
    (p.reporting event).BeginsWith request := by
  intro σ remote s
  have hEnds := ends_run remote (p.reporting event) s
  rw [← (ends_reporting.mp hEnds).exchanges_eq]
  exact h σ remote s

/- What comes later does not matter. -/
theorem BeginsWith.bind
    (h : p.BeginsWith request)
    (next : α → Program β) :
    (p >>= next).BeginsWith request := by
  intro σ remote s
  have hEnds := ends_run remote (p >>= next) s
  rcases h σ remote s with ⟨answer, rest, hFirst⟩
  rcases ends_bind.mp hEnds with
    ⟨problem, hFailed, -⟩ |
      ⟨a, middle, first, later, hDone, -, hTrace⟩
  · rw [← hFailed.exchanges_eq]
    exact ⟨answer, rest, hFirst⟩
  · rw [hTrace, ← hDone.exchanges_eq, hFirst]
    exact ⟨answer, rest ++ later, rfl⟩

end Program

open Program

/- A channel is brought in line after it is asked for. -/
theorem beginsWith_converge
    (limits : Limits)
    (desired : Desired)
    (id : Datum) :
    (converge limits desired id).BeginsWith
      (.channelInfo id) := by
  have hInfo :
      (Access.info id).BeginsWith (.channelInfo id) :=
    (beginsWith_send _).reporting _
  have hFetch :
      (Access.fetch limits.members id).BeginsWith
        (.channelInfo id) :=
    hInfo.bind _
  have hActive :
      (fetchActive limits id).BeginsWith (.channelInfo id) :=
    hFetch.bind _
  exact hActive.bind _

end ChannelSync

------------------------------------------------------------
-- One Run
------------------------------------------------------------

namespace ChannelSync

open Program Workspace

variable {w base after : Workspace}
variable {limits : Limits}
variable {desired : Desired}
variable {id target : Datum}
variable {room : Room}

/-
  A channel that bears the declared name does not lose it,
  wherever a run is cut off.
-/
theorem converge_named
    (hLimits : limits.Positive)
    (hw : w.WellTyped)
    (hId : id.isText = true)
    (hDesired : desired.WellTyped)
    (hRoom : room.WellTyped)
    (hRoomId : room.state.id = id)
    (hNamed : room.state.name = desired.name) :
    w.Holding id
      (fun room' =>
        room'.WellTyped ∧ room'.state.id = id ∧
          room'.state.name = desired.name)
      ((converge limits desired id).run remote
        (w.putRoom id room)).state := by
  refine preserves_converge hLimits hw hId hDesired
    ?_ ?_ ?_ ?_ ?_ ?_ ?_ _
    (holding_putRoom.mpr ⟨hRoom, hRoomId, hNamed⟩)
  · intro room' h
    exact h.1
  · intro room' h
    exact ⟨h.1.active, h.2⟩
  · intro room' h
    rcases h with ⟨hTyped, hSameId, hSame⟩
    refine ⟨hTyped.edit
      (hTyped.state.showName hDesired.name) rfl, hSameId, ?_⟩
    rcases Datum.aligned_cases room'.state.name desired.name
      desired.name with ⟨-, hKept⟩ | ⟨-, hSet⟩
    · exact hKept.trans hSame
    · exact hSet
  · intro room' h
    exact ⟨h.1.edit
      (h.1.state.showTopic hDesired.topic) rfl, h.2⟩
  · intro room' h
    exact ⟨h.1.edit
      (h.1.state.showDescription hDesired.description) rfl,
      h.2⟩
  · intro room' userId h hInvited _
    exact ⟨h.1.add_member
      (hw.isText_of_invites hDesired.members hInvited), h.2⟩
  · intro room' userId h _ _
    exact ⟨h.1.erase_member userId, h.2⟩

/- With members, the channel is got and brought in line. -/
theorem reconcile_eq_bind
    (hMembers : desired.members ≠ []) :
    reconcile limits desired none =
      createOrFind limits desired >>=
        converge limits desired := by
  have hValid : desired.invalid? = none := by
    unfold Desired.invalid?
    rw [if_neg (by simpa using hMembers)]
  unfold reconcile validate
  rw [hValid]
  rfl

/- Behind its first part a run brings the channel in line. -/
theorem reconcile_past
    (hMembers : desired.members ≠ [])
    (hTarget : (createOrFind limits desired).Returns remote w
      id base) :
    ∃ rest,
      (converge limits desired id).Ends remote base
          ((reconcile limits desired none).run remote
            w).result
          ((reconcile limits desired none).run remote
            w).state
          rest ∧
        ((reconcile limits desired none).run remote
            w).exchanges =
          ((createOrFind limits desired).run remote
              w).exchanges ++
            rest := by
  have hEnds :=
    ends_run remote (reconcile limits desired none) w
  rw [reconcile_eq_bind hMembers] at hEnds ⊢
  exact (ends_bind_of_ok hTarget.ends).mp hEnds

/- What a run by name leaves, seen from its channel. -/
structure Workspace.Remains
    (w : Workspace)
    (name target : Datum)
    (run : Run Workspace Observed) :
    Prop where
  typed : run.state.WellTyped
  bears : run.state.Bears name target
  vacancy :
    run.creations + run.state.vacancy name = w.vacancy name
  sticks : ∀ x ∈ run.exchanges, x.SticksTo target

/- Where a channel is brought in line, it is returned. -/
theorem id_of_converge
    (hLimits : limits.Positive)
    (hStarts : w.Starts desired none base id room)
    (hAfter : after.WellTyped)
    {observed : Observed}
    (h : (converge limits desired id).Returns remote base
      observed after) :
    observed.id = id := by
  rw [← hStarts.putRoom] at h
  have hCourse :=
    converge_course hLimits hStarts.isText
      hStarts.room_typed.1 h
  exact Access.id_of_fetch hAfter hStarts.isText
    hCourse.fetched

/-
  A run that goes on to a channel goes on to the one of the
  name, and that is found by the name in the end.
-/
theorem Workspace.Bears.adopts
    (h : w.Bears desired.name target)
    (hw : w.WellTyped)
    (hLimits : limits.Positive)
    (hDesired : desired.WellTyped)
    (hTarget : (createOrFind limits desired).Returns remote w
      id base) :
    id = target ∧
      ∃ room',
        ((converge limits desired id).run remote
            base).state = base.putRoom id room' ∧
          (base.putRoom id room').WellTyped ∧
          (base.putRoom id room').firstNamed desired.name =
            some room'.state ∧
          room'.state.id = target ∧
          base.numbered =
            w.numbered + w.vacancy desired.name := by
  rcases starts_of_createOrFind hw hLimits hDesired hTarget
      with
    ⟨room, hStarts⟩
  rcases hStarts.room_typed with ⟨hRoom, hRoomId⟩
  have hHolding :=
    converge_named hLimits hStarts.typed hStarts.isText
      hDesired hRoom hRoomId (hStarts.named hDesired)
  rw [hStarts.putRoom] at hHolding
  rcases hHolding with
    ⟨room', hState, hTyped, hSameId, hNamed⟩
  have hSame :
      id = target ∧
        base.numbered =
          w.numbered + w.vacancy desired.name := by
    cases hStarts.source with
    | found hFirst =>
        rw [vacancy_of_firstNamed hDesired.name hFirst]
        cases h with
        | found hFirst' hTarget' =>
            rw [hFirst] at hFirst'
            cases hFirst'
            exact ⟨hTarget', rfl⟩
        | free hFree hTarget' =>
            rw [(named_of_firstNamed hDesired.name hFirst).2]
              at hFree
            cases hFree
    | created hUnused =>
        cases h with
        | found hFirst' hTarget' =>
            rw [(named_of_firstNamed hDesired.name
              hFirst').2] at hUnused
            cases hUnused
        | free hFree hTarget' =>
            exact ⟨hTarget', by simp [vacancy, hFree]; rfl⟩
  exact ⟨hSame.1, room', hState,
    hStarts.typed.putRoom hStarts.isText hTyped hSameId,
    (hStarts.firstNamed hw hDesired hNamed).1,
    hSameId.trans hSame.1, hSame.2⟩

/- However a run by name ends, it is about one channel. -/
theorem sticks_reconcile
    (h : w.Bears desired.name target)
    (hw : w.WellTyped)
    (hLimits : limits.Positive)
    (hDesired : desired.WellTyped)
    (hMembers : desired.members ≠ []) :
    w.Remains desired.name target
      ((reconcile limits desired none).run remote w) := by
  have hNumbered :=
    numbered_run (reconcile limits desired none) w
  have hEnds :=
    ends_run remote (reconcile limits desired none) w
  rw [reconcile_eq_bind hMembers] at hEnds hNumbered ⊢
  rcases ends_bind.mp hEnds with
    ⟨problem, hFailed, -⟩ |
      ⟨id, base, first, rest, hTarget, hConverge, hTrace⟩
  · have hSame := hFailed.state_eq
    rcases createOrFind_state limits desired w with
      hKept | ⟨-, hOk, -⟩
    · rw [hKept] at hSame
      rw [← hSame] at hNumbered
      exact
        { typed := hSame ▸ hw
          bears := hSame ▸ h
          vacancy := by
            rw [← hSame]
            omega
          sticks := h.sticks_createOrFind hDesired.name
            hFailed }
    · rw [hFailed.result_eq] at hOk
      cases hOk
  · rcases h.adopts hw hLimits hDesired hTarget.returns with
      ⟨rfl, room', hState, hTyped, hFirst, hRoomId,
        hCounted⟩
    have hSame := hConverge.state_eq.symm.trans hState
    have hKept :
        (base.putRoom id room').numbered = base.numbered :=
      rfl
    rw [hSame, hKept] at hNumbered
    refine
      { typed := hSame ▸ hTyped
        bears := hSame ▸ .found hFirst hRoomId
        vacancy := ?_
        sticks := ?_ }
    · rw [hSame, vacancy_of_firstNamed hDesired.name hFirst]
      omega
    · intro x hx
      rw [hTrace] at hx
      rcases List.mem_append.mp hx with hBefore | hAfter
      · exact h.sticks_createOrFind hDesired.name hTarget x
          hBefore
      · rw [← hConverge.exchanges_eq] at hAfter
        exact (concerns_converge.requests base x
          hAfter).sticks

end ChannelSync

------------------------------------------------------------
-- A Sequence of Runs
------------------------------------------------------------

namespace ChannelSync

/-
  Reconcile by name again and again, each time with failures
  of its own laid in.  Each run comes with the workspace
  that it started from.
-/
def reconcileAll
    (limits : Limits)
    (desired : Desired) :
    List (Table Trigger Failure) → Workspace →
      List (Workspace × Run Workspace Observed)
  | [], _ => []
  | failures :: rest, w =>
      let run := reconcileUnder limits desired none failures w
      (w.withFailures failures, run) ::
        reconcileAll limits desired rest run.state

/- How many channels are created in a sequence of runs. -/
def creationsOf :
    List (Workspace × Run Workspace Observed) → Nat
  | [] => 0
  | entry :: rest => entry.2.creations + creationsOf rest

open Program Workspace

/-
  A run of the sequence is about one channel.  If it goes on
  to a channel at all, it is this one: it asks for it next,
  and the name stands for it in the end.  What it returns is
  this channel, too.

  Where nothing is laid in, it does not fail before that.  It
  goes on to the channel, unless there are so many channels
  that the cursors of their listing have too many digits.
-/
structure Workspace.Addresses
    (start : Workspace)
    (limits : Limits)
    (desired : Desired)
    (target : Datum)
    (run : Run Workspace Observed) :
    Prop where
  sticks : ∀ x ∈ run.exchanges, x.SticksTo target
  adopts :
    ∀ id,
      ((createOrFind limits desired).run remote
          start).result = .ok id →
        id = target ∧
          ∃ channel,
            run.state.firstNamed desired.name =
                some channel ∧
              channel.id = target
  goesOn :
    ∀ id,
      ((createOrFind limits desired).run remote
          start).result = .ok id →
        ∃ answer rest,
          run.exchanges =
            ((createOrFind limits desired).run remote
                start).exchanges ++
              ⟨.channelInfo target, answer⟩ :: rest
  returned :
    ∀ observed,
      run.result = .ok observed → observed.id = target
  unfailing :
    start.failures.entries = [] →
      ∀ failure,
        ((createOrFind limits desired).run remote
            start).result ≠
          .error (.failure failure)
  succeeds :
    start.failures.entries = [] →
      start.channels.entries.length ≤
          Numeral.numberLimit →
        ∃ id,
          ((createOrFind limits desired).run remote
            start).result = .ok id

variable {w : Workspace}
variable {limits : Limits}
variable {desired : Desired}
variable {target : Datum}

/- Every single run is like that. -/
theorem Workspace.Bears.addresses
    (h : w.Bears desired.name target)
    (hw : w.WellTyped)
    (hLimits : limits.Positive)
    (hDesired : desired.WellTyped)
    (hMembers : desired.members ≠ []) :
    w.Addresses limits desired target
      ((reconcile limits desired none).run remote w) where
  sticks :=
    (sticks_reconcile h hw hLimits hDesired hMembers).sticks
  adopts := by
    intro id hResult
    have hTarget :
        (createOrFind limits desired).Returns remote w id _ :=
      ⟨hResult, rfl⟩
    rcases h.adopts hw hLimits hDesired hTarget with
      ⟨hSame, room', hState, -, hFirst, hRoomId, -⟩
    rcases reconcile_past hMembers hTarget with
      ⟨rest, hConverge, -⟩
    refine ⟨hSame, room'.state, ?_, hRoomId⟩
    rw [← hConverge.state_eq, hState]
    exact hFirst
  goesOn := by
    intro id hResult
    have hTarget :
        (createOrFind limits desired).Returns remote w id _ :=
      ⟨hResult, rfl⟩
    rcases reconcile_past hMembers hTarget with
      ⟨later, hConverge, hTrace⟩
    rcases beginsWith_converge limits desired id _ remote _
        with
      ⟨answer, rest, hFirst⟩
    rw [← hConverge.exchanges_eq, hFirst,
      (h.adopts hw hLimits hDesired hTarget).1] at hTrace
    exact ⟨answer, rest, hTrace⟩
  returned := by
    intro observed hResult
    have hTyped :=
      (sticks_reconcile h hw hLimits hDesired hMembers).typed
    have hEnds :=
      ends_run remote (reconcile limits desired none) w
    rw [hResult, reconcile_eq_bind hMembers] at hEnds
    rw [reconcile_eq_bind hMembers] at hTyped
    rcases ends_bind_ok.mp hEnds with
      ⟨id, base, first, rest, hTarget, hConverge, -⟩
    rcases starts_of_createOrFind hw hLimits hDesired
        hTarget.returns with
      ⟨room, hStarts⟩
    rw [← (h.adopts hw hLimits hDesired hTarget.returns).1]
    exact id_of_converge hLimits hStarts hTyped
      hConverge.returns
  unfailing := fun hOpen =>
    fails_createOrFind hOpen hLimits hDesired
  succeeds := fun hOpen hLength =>
    createOrFind_succeeds hOpen hLength hLimits hDesired

/-
  Over a sequence of runs no more channels are created than
  the name is free for, and every run is about the channel
  of the name.
-/
theorem Workspace.Bears.sequence
    (h : w.Bears desired.name target)
    (hw : w.WellTyped)
    (hLimits : limits.Positive)
    (hDesired : desired.WellTyped)
    (hMembers : desired.members ≠ [])
    (failures : List (Table Trigger Failure)) :
    creationsOf (reconcileAll limits desired failures w) ≤
        w.vacancy desired.name ∧
      ∀ entry ∈ reconcileAll limits desired failures w,
        entry.1.Addresses limits desired target entry.2 := by
  induction failures generalizing w with
  | nil => simp [reconcileAll, creationsOf]
  | cons laid rest ih =>
      have hLaid :
          (w.withFailures laid).Bears desired.name target := by
        cases h with
        | found hFirst hTarget => exact .found hFirst hTarget
        | free hFree hTarget => exact .free hFree hTarget
      have hRun :=
        sticks_reconcile hLaid (hw.withFailures laid) hLimits
          hDesired hMembers
      rcases ih hRun.bears hRun.typed with
        ⟨hCreated, hAddresses⟩
      have hVacancy :
          (reconcileUnder limits desired none laid
              w).creations +
            (reconcileUnder limits desired none laid
              w).state.vacancy desired.name =
            w.vacancy desired.name :=
        hRun.vacancy
      constructor
      · exact Nat.le_trans
          (Nat.add_le_add_left hCreated _)
          (Nat.le_of_eq hVacancy)
      · simp only [reconcileAll, List.forall_mem_cons]
        exact ⟨hLaid.addresses (hw.withFailures laid) hLimits
          hDesired hMembers, hAddresses⟩

/-
  A sequence of runs by name that does not fork the channel
  of the name.
-/
structure Workspace.Unforked
    (w : Workspace)
    (limits : Limits)
    (desired : Desired)
    (target : Datum)
    (runs : List (Workspace × Run Workspace Observed)) :
    Prop where
  bears : w.Bears desired.name target
  once : creationsOf runs ≤ 1
  existing :
    ∀ entry ∈ w.channels.entries,
      entry.2.state.name = desired.name →
        creationsOf runs = 0
  addresses :
    ∀ entry ∈ runs,
      entry.1.Addresses limits desired target entry.2

/-
  Reconciling by name never forks a channel, however often
  it is done and whatever fails.
-/
theorem reconcile_unforked
    (hReachable : w.Reachable)
    (hLimits : limits.Positive)
    (hDesired : desired.WellTyped)
    (hMembers : desired.members ≠ [])
    (failures : List (Table Trigger Failure)) :
    ∃ target,
      w.Unforked limits desired target
        (reconcileAll limits desired failures w) := by
  rcases exists_bears hDesired.name w with ⟨target, hBears⟩
  rcases hBears.sequence hReachable.wellTyped hLimits
      hDesired hMembers failures with
    ⟨hCreated, hAddresses⟩
  refine ⟨target, hBears,
    Nat.le_trans hCreated (vacancy_le_one w _), ?_,
    hAddresses⟩
  intro entry hEntry hNamed
  have hUsed : w.nameUsed desired.name none = true := by
    apply (nameUsed_iff hDesired.name).mpr
    refine ⟨entry.2.state, ?_, hNamed⟩
    simp only [states, Table.values, List.map_map,
      List.mem_map, Function.comp]
    exact ⟨entry, hEntry, rfl⟩
  have hNone : w.vacancy desired.name = 0 := by
    simp [vacancy, hUsed]
  omega

/-
  The first of two runs fails, after it has created the first
  numbered channel.  The next one creates none, and returns
  this channel.
-/
theorem reconcile_unforked_sample :
    let runs :=
      reconcileAll Limits.sample Desired.sample
        [Workspace.sampleFailures, {}] Workspace.sample
    Workspace.sample.Unforked Limits.sample Desired.sample
        (.text "C0001") runs ∧
      runs.map (fun entry => entry.2.creations) = [1, 0] ∧
      runs.map (fun entry =>
          entry.2.result.toOption.map Observed.id) =
        [none, some (.text "C0001")] := by
  rcases reconcile_unforked reachable_sample
      Limits.positive_sample Desired.wellTyped_sample
      (by simp [Desired.sample])
      [Workspace.sampleFailures, {}] with
    ⟨target, hUnforked⟩
  have hTarget : .text "C0001" = target := by
    cases hUnforked.bears with
    | found hFirst hTarget => cases hFirst
    | free hFree hTarget => exact hTarget
  rw [← hTarget] at hUnforked
  exact ⟨hUnforked, rfl, rfl⟩

end ChannelSync
