import ChannelSync.Convergence
import ChannelSync.Proofs.Access.Requests
import ChannelSync.Proofs.Access.Walking

/-
  The channel that a reconciliation is about.

  Without an identifier a channel is created.  If its name is
  taken, the first channel of that name is searched for, page
  by page, and the search finds it wherever it stands.  A
  channel is created only if no other one has the name, so
  the two cases exclude each other.

  Key definitions include:
    * `Workspace.states` and `Workspace.firstNamed`
    * `Workspace.FoundOnPage`
    * `Workspace.created`
    * `Workspace.Starts`

  Key theorems include:
    * `findByName_returned`
    * `Workspace.foundOnPage` and `findByName_returns`
    * `Workspace.answer_createChannel_ok`
    * `createOrFind_returned`
    * `createOrFind_state`
    * `reconcile_starts`
-/

------------------------------------------------------------
-- Searching
------------------------------------------------------------

namespace ChannelSync

namespace Workspace

/- The attributes of all channels, in order. -/
def states
    (w : Workspace) :
    List Observed :=
  w.channels.values.map fun room => room.state

/- The first channel of a name. -/
def firstNamed
    (w : Workspace)
    (name : Datum) :
    Option Observed :=
  w.states.find? fun channel => channel.name == name

/- There is one entry for each channel. -/
theorem length_states
    (w : Workspace) :
    w.states.length = w.channels.entries.length := by
  simp [states, Table.values]

variable {w : Workspace}
variable {size : Nat}

/- A page of channels that is answered is one of them. -/
theorem page_of_channelPage
    {cursor limit : Datum}
    {page : Page Observed}
    (h : (w.answer (.channelPage cursor limit)).1 =
      .ok page) :
    Paging.page w.states cursor limit = .ok page := by
  simp only [answer] at h
  split at h
  case h_1 => cases h
  case h_2 =>
      have hPage :
          (Paging.page w.states cursor limit).mapError
            Problem.fault = .ok page :=
        h
      cases hFound : Paging.page w.states cursor limit with
      | ok found =>
          rw [hFound] at hPage
          cases hPage
          rfl
      | error fault =>
          rw [hFound] at hPage
          cases hPage

/- Where nothing is laid in, a page that there is comes. -/
theorem answer_channelPage_of_no_failures
    (hOpen : w.failures.entries = [])
    {cursor limit : Datum}
    (hCursor : cursor.isText = true)
    (hLimit : limit.isNumeric = true)
    {page : Page Observed}
    (h : Paging.page w.states cursor limit = .ok page) :
    (w.answer (.channelPage cursor limit)).1 = .ok page := by
  have hTyped :
      (Request.channelPage cursor limit).WellTyped :=
    ⟨hCursor, hLimit⟩
  have hGrant :
      (w.grant (.channelPage cursor limit)).1 =
        (Paging.page w.states cursor limit).mapError
          Problem.fault :=
    rfl
  unfold answer
  simp only [refusal_of_no_failures hOpen hTyped]
  rw [hGrant, h]
  rfl

/- Where nothing is laid in, channels are shown in tiles. -/
theorem showsTiles_channels
    (hOpen : w.failures.entries = [])
    (hSize : 0 < size)
    (hWritable : Paging.Writable size 0 w.states.length) :
    Paging.ShowsTiles
      (Search.channelSource remote (.number size)) w w.states
      size := by
  intro n hn
  have hAnswer :=
    answer_channelPage_of_no_failures hOpen
      (Paging.isText_cursorAt _) rfl
      (Paging.page_tile hSize hWritable hn)
  exact Prod.ext hAnswer (answer_read w rfl)

/- The bound on pages of channels covers all tiles. -/
theorem tiles_le_channelBound
    (w : Workspace)
    (hSize : 0 < size) :
    (Paging.tiles w.states size).length ≤
      w.pageBound .channels (.number size) := by
  have hBound :
      w.pageBound .channels (.number size) =
        w.states.length + 1 := by
    simp [pageBound, Datum.amount?, hSize, listingLength,
      length_states]
  rw [hBound, Paging.tiles, List.length_map,
    List.length_range]
  exact Paging.tileCount_le hSize _

end Workspace

open Program Workspace

/-
  A search asks for the pages up to the one that shows the
  name first, and returns the channel that is found there.
-/
def Workspace.FoundOnPage
    (w : Workspace)
    (size : Nat)
    (name : Datum)
    (channel : Observed) :
    Prop :=
  ∃ before visit later,
    Paging.tiles w.states size =
        before ++ visit :: later ∧
      Search.firstOf name (Paging.shown before) = none ∧
      Search.firstOf name visit.page.items = some channel ∧
      (findByName (.number size) name).Ends remote w
        (.ok channel) w
        ((before ++ [visit]).map
          (Search.channelExchange (.number size)))

variable {w after : Workspace}
variable {limits : Limits}
variable {size : Nat}
variable {name : Datum}
variable {channel : Observed}

/- A search from a cursor on finds the first of the name. -/
theorem findFrom_returned
    (hSize : 0 < size)
    {bound before start : Nat}
    (hStart : start < Numeral.numberLimit)
    (h : (Search.findFrom (.number size) name bound before
        (Paging.cursorAt start)).Returns remote w channel
      after) :
    after = w ∧
      (w.states.drop start).find? (fun c => c.name == name) =
        some channel := by
  induction bound generalizing start before with
  | zero => exact absurd h not_returns_abort
  | succ bound ih =>
      unfold Search.findFrom at h
      simp only [returns_bind] at h
      rcases h with ⟨page, _, hSent, h⟩
      rcases Access.returns_channelPage.mp hSent with
        ⟨hPage, rfl⟩
      have hCases :=
        Paging.page_cases hSize hStart
          (page_of_channelPage hPage)
      cases hFirst :
          page.items.find? (fun c => c.name == name) with
      | some found =>
          rw [hFirst] at h
          simp only [returns_bind, returns_record,
            returns_pure] at h
          rcases h with ⟨_, _, rfl, rfl, rfl⟩
          refine ⟨rfl, ?_⟩
          rcases hCases with ⟨-, -, rfl⟩ | ⟨-, rfl⟩
          · rw [← List.take_append_drop size
              (List.drop start _), List.find?_append, hFirst]
            rfl
          · exact hFirst
      | none =>
          rw [hFirst] at h
          rcases hCases with
            ⟨hMore, hShort, rfl⟩ | ⟨hLast, rfl⟩
          · simp only [Paging.truthy_cursorAt
              (show start + size ≠ 0 by omega),
              if_true] at h
            rcases ih hShort h with ⟨rfl, hRest⟩
            refine ⟨rfl, ?_⟩
            rw [← List.take_append_drop size
              (List.drop start _), List.find?_append, hFirst,
              List.drop_drop]
            exact hRest
          · exact absurd h not_returns_fail

/- The channel that is found is the first of its name. -/
theorem findByName_returned
    (hSize : 0 < size)
    (h : (findByName (.number size) name).Returns remote w
      channel after) :
    after = w ∧ w.firstNamed name = some channel := by
  unfold findByName at h
  simp only [returns_bind, returns_pageBound] at h
  rcases h with ⟨bound, _, ⟨-, rfl⟩, h⟩
  exact findFrom_returned hSize Numeral.numberLimit_pos h

/-
  Where nothing is laid in, the page that shows the name
  first is enough.
-/
theorem Workspace.foundOnPage
    (hOpen : w.failures.entries = [])
    (hSize : 0 < size)
    (hWritable : Paging.Writable size 0 w.states.length)
    (hFirst : w.firstNamed name = some channel) :
    w.FoundOnPage size name channel := by
  have hTours :=
    Paging.tours_tiles hSize
      (showsTiles_channels hOpen hSize hWritable)
  have hBound := w.tiles_le_channelBound hSize
  have hShown :
      Search.firstOf name
          (Paging.shown (Paging.tiles w.states size)) =
        some channel := by
    rw [(Paging.tiled_tiles hSize w.states).whole]
    exact hFirst
  rcases Search.exists_page hShown with
    ⟨before, visit, later, hSplit, hBefore, hVisit⟩
  rw [hSplit] at hTours hBound
  rcases hTours.split with ⟨middle, after, hLeads, hPage⟩
  rw [List.length_append, List.length_cons] at hBound
  have hKept :
      ∀ s cursor,
        (Search.channelSource remote (.number size) s
          cursor).2 = s :=
    fun s _ => answer_read s rfl
  have hMiddle : middle = w := hLeads.state_eq hKept
  have hAfter : after = middle := by
    have hState := hKept middle visit.cursor
    rw [hPage] at hState
    exact hState
  subst hAfter hMiddle
  have hEnds :=
    Search.ends_findByName_of_found hLeads hBefore hPage
      hVisit (Nat.lt_of_lt_of_le (by omega) hBound)
  refine ⟨before, visit, later, hSplit, hBefore, hVisit, ?_⟩
  rw [List.map_append]
  exact hEnds

/- So a whole search finds the first channel of a name. -/
theorem findByName_returns
    (hOpen : w.failures.entries = [])
    (hSize : 0 < size)
    (hWritable : Paging.Writable size 0 w.states.length)
    (hFound : w.firstNamed name = some channel) :
    (findByName (.number size) name).Returns remote w channel
      w := by
  rcases foundOnPage hOpen hSize hWritable hFound with
    ⟨before, visit, later, -, -, -, hEnds⟩
  exact hEnds.returns

end ChannelSync

------------------------------------------------------------
-- Creating
------------------------------------------------------------

namespace ChannelSync

namespace Workspace

/- The room of a channel that is created. -/
def newRoom
    (w : Workspace)
    (name isPrivate : Datum) :
    Room where
  state :=
    { id := w.nextId
      name := name
      isPrivate := isPrivate }
  members := [w.botId]

/- A workspace that has made up one more identifier. -/
def advanced
    (w : Workspace) :
    Workspace :=
  { w with numbered := w.numbered + 1 }

/- The workspace with a channel that is created. -/
def created
    (w : Workspace)
    (name isPrivate : Datum) :
    Workspace :=
  w.advanced.putRoom w.nextId (w.newRoom name isPrivate)

variable {w : Workspace}
variable {name isPrivate : Datum}

/- A channel is created unless its name is taken. -/
theorem createChannel_eq
    (w : Workspace)
    (name isPrivate : Datum) :
    w.createChannel name isPrivate =
      if w.nameUsed name none then
        (.error (.failure (Refusal.nameTaken name)), w)
      else
        (.ok (w.newRoom name isPrivate).state,
          w.created name isPrivate) := by
  rfl

/- What is not refused and has a new name is created. -/
theorem answer_createChannel_ok
    {channel : Observed}
    (h : (w.answer (.createChannel name isPrivate)).1 =
      .ok channel) :
    w.nameUsed name none = false ∧
      channel = (w.newRoom name isPrivate).state ∧
      (w.answer (.createChannel name isPrivate)).2 =
        w.created name isPrivate := by
  simp only [answer] at h ⊢
  cases hRefusal :
      w.refusal (.createChannel name isPrivate) with
  | error problem =>
      rw [hRefusal] at h
      cases h
  | ok _ =>
      rw [hRefusal] at h
      simp only [grant, createChannel_eq] at h ⊢
      cases hUsed : w.nameUsed name none with
      | true =>
          rw [hUsed] at h
          cases h
      | false =>
          rw [hUsed] at h
          exact ⟨rfl, (Except.ok.inj h).symm, rfl⟩

/- A creation that has a problem changes nothing. -/
theorem answer_createChannel_error
    {problem : Problem}
    (h : (w.answer (.createChannel name isPrivate)).1 =
      .error problem) :
    (w.answer (.createChannel name isPrivate)).2 = w := by
  simp only [answer] at h ⊢
  cases hRefusal :
      w.refusal (.createChannel name isPrivate) with
  | error problem => rfl
  | ok _ =>
      rw [hRefusal] at h
      simp only [grant, createChannel_eq] at h ⊢
      cases hUsed : w.nameUsed name none with
      | true => rfl
      | false =>
          rw [hUsed] at h
          cases h

/- Where nothing is laid in, a new name is created. -/
theorem answer_createChannel_of_unused
    (hOpen : w.failures.entries = [])
    (hName : name.isText = true)
    (hPrivate : isPrivate.isFlag = true)
    (h : w.nameUsed name none = false) :
    w.answer (.createChannel name isPrivate) =
      (.ok (w.newRoom name isPrivate).state,
        w.created name isPrivate) := by
  have hTyped :
      (Request.createChannel name isPrivate).WellTyped :=
    ⟨hName, hPrivate⟩
  simp only [answer, refusal_of_no_failures hOpen hTyped,
    grant, createChannel_eq, h]
  rfl

/- Where nothing is laid in, a taken name is a conflict. -/
theorem answer_createChannel_of_used
    (hOpen : w.failures.entries = [])
    (hName : name.isText = true)
    (hPrivate : isPrivate.isFlag = true)
    (h : w.nameUsed name none = true) :
    w.answer (.createChannel name isPrivate) =
      (.error (.failure (Refusal.nameTaken name)), w) := by
  have hTyped :
      (Request.createChannel name isPrivate).WellTyped :=
    ⟨hName, hPrivate⟩
  simp only [answer, refusal_of_no_failures hOpen hTyped,
    grant, createChannel_eq, h, if_true]

/- A name is in use when some channel has it. -/
theorem nameUsed_iff
    (hName : name.isText = true) :
    w.nameUsed name none = true ↔
      ∃ channel ∈ w.states, channel.name = name := by
  simp only [nameUsed, Option.all_none, Bool.and_true,
    List.any_eq_true, Datum.beq_eq_decide' hName,
    decide_eq_true_eq, states, Table.values, List.map_map,
    List.mem_map, Function.comp]
  constructor
  · intro h
    rcases h with ⟨entry, hEntry, hSame⟩
    exact ⟨_, ⟨entry, hEntry, rfl⟩, hSame⟩
  · intro h
    rcases h with ⟨_, ⟨entry, hEntry, rfl⟩, hSame⟩
    exact ⟨entry, hEntry, hSame⟩

/- The first channel of a name has it, so it is in use. -/
theorem named_of_firstNamed
    (hName : name.isText = true)
    {channel : Observed}
    (h : w.firstNamed name = some channel) :
    channel.name = name ∧ w.nameUsed name none = true := by
  have hSame := List.find?_some h
  rw [Datum.beq_eq_decide' hName, decide_eq_true_eq] at hSame
  exact ⟨hSame, (nameUsed_iff hName).mpr
    ⟨channel, List.mem_of_find?_eq_some h, hSame⟩⟩

/- The first channel of a name has a room, under its key. -/
theorem WellTyped.room_of_firstNamed
    (hw : w.WellTyped)
    {channel : Observed}
    (h : w.firstNamed name = some channel) :
    ∃ room, w.channels.get? channel.id = some room ∧
      room.state = channel := by
  have hMem := List.mem_of_find?_eq_some h
  simp only [states, Table.values, List.map_map,
    List.mem_map, Function.comp] at hMem
  rcases hMem with ⟨⟨key, room⟩, hEntry, rfl⟩
  have hId := hw.roomId _ hEntry
  have hRoom := hw.room _ hEntry
  refine ⟨room, ?_, rfl⟩
  simp only at hId
  rw [hId]
  exact Table.get?_of_mem (hId ▸ hRoom.state.id) hw.roomKeys
    hEntry

/- A channel that is created is well typed. -/
theorem WellTyped.created
    (hw : w.WellTyped)
    (hName : name.isText = true)
    (hPrivate : isPrivate.isFlag = true) :
    (w.newRoom name isPrivate).WellTyped ∧
      w.advanced.WellTyped := by
  constructor
  · exact
      { state := ⟨isText_nextId w, hName, rfl, rfl, hPrivate,
          rfl⟩
        memberIds := rfl
        members := by
          intro userId hMem
          rw [newRoom, List.mem_singleton] at hMem
          exact hMem ▸ hw.botId }
  · exact ⟨hw.botId, hw.room, hw.roomId, hw.roomKeys,
      hw.user, hw.userId, hw.userKeys⟩

end Workspace

end ChannelSync

------------------------------------------------------------
-- Creating or Finding
------------------------------------------------------------

namespace ChannelSync

open Program Workspace

variable {w after : Workspace}
variable {limits : Limits}
variable {desired : Desired}
variable {id : Datum}

/- Creating ends as the request does. -/
theorem ends_create
    {name isPrivate : Datum}
    {result : Except Problem Datum}
    {exchanges : List Exchange} :
    (Access.create name isPrivate).Ends remote w result
        after exchanges ↔
      result =
          (w.answer (.createChannel name isPrivate)).1.map
            (fun channel => channel.id) ∧
        after =
          (w.answer (.createChannel name isPrivate)).2 ∧
        exchanges =
          [⟨.createChannel name isPrivate,
            (w.answer (.createChannel name isPrivate)).1⟩] := by
  have hSend :
      (send (.createChannel name isPrivate)).Ends remote w
        _ _ _ :=
    ends_send.mpr ⟨rfl, rfl, rfl⟩
  apply ends_record_bind.trans
  simp only [remote] at hSend
  cases hAnswer :
      (w.answer (.createChannel name isPrivate)).1 with
  | error problem =>
      rw [hAnswer] at hSend
      exact ends_bind_of_error hSend
  | ok channel =>
      rw [hAnswer] at hSend
      apply (ends_bind_of_ok hSend).trans
      simp only [ends_record_bind, ends_pure]
      constructor
      · intro h
        rcases h with ⟨_, ⟨rfl, rfl, rfl⟩, rfl⟩
        exact ⟨rfl, rfl, rfl⟩
      · intro h
        rcases h with ⟨rfl, rfl, rfl⟩
        exact ⟨[], ⟨rfl, rfl, rfl⟩, rfl⟩

/- An attempt to create ends as the request does, too. -/
theorem ends_attempt_create
    {name isPrivate : Datum}
    {created : Except Failure Datum}
    {exchanges : List Exchange}
    (h : (Access.create name isPrivate).attempt.Ends
      remote w (.ok created) after exchanges) :
    exchanges =
        [⟨.createChannel name isPrivate,
          (w.answer (.createChannel name isPrivate)).1⟩] ∧
      ((∃ channel,
          (w.answer (.createChannel name isPrivate)).1 =
              .ok channel ∧
            created = .ok channel.id ∧
            after =
              (w.answer
                (.createChannel name isPrivate)).2) ∨
        ∃ failure,
          (w.answer (.createChannel name isPrivate)).1 =
              .error (.failure failure) ∧
            created = .error failure ∧ after = w) := by
  cases created with
  | ok id =>
      rcases ends_create.mp (ends_attempt_ok.mp h) with
        ⟨hResult, rfl, hExchanges⟩
      refine ⟨hExchanges, Or.inl ?_⟩
      cases hAnswer :
          (w.answer (.createChannel name isPrivate)).1 with
      | error problem =>
          rw [hAnswer] at hResult
          cases hResult
      | ok channel =>
          rw [hAnswer] at hResult
          cases hResult
          exact ⟨channel, rfl, rfl, rfl⟩
  | error failure =>
      rcases ends_create.mp (ends_attempt_failure.mp h) with
        ⟨hResult, rfl, hExchanges⟩
      refine ⟨hExchanges, Or.inr ?_⟩
      cases hAnswer :
          (w.answer (.createChannel name isPrivate)).1 with
      | error problem =>
          rw [hAnswer] at hResult
          cases hResult
          exact ⟨failure, rfl, rfl,
            answer_createChannel_error hAnswer⟩
      | ok channel =>
          rw [hAnswer] at hResult
          cases hResult

/-
  The identifier is that of a channel created just now, or
  of the first one of the name.
-/
theorem createOrFind_returned
    (hLimits : limits.Positive)
    (h : (createOrFind limits desired).Returns remote w id
      after) :
    (w.nameUsed desired.name none = false ∧
        id = w.nextId ∧
        after = w.created desired.name desired.isPrivate) ∨
      (after = w ∧ ∃ channel,
        w.firstNamed desired.name = some channel ∧
          id = channel.id) := by
  rcases hLimits.channels with ⟨size, hSize, hLimit⟩
  unfold createOrFind at h
  simp only [returns_bind] at h
  rcases h with ⟨created, middle, hCreated, h⟩
  rcases (ends_attempt_create hCreated.ends).2 with
    ⟨channel, hAnswer, rfl, rfl⟩ |
      ⟨failure, hAnswer, rfl, rfl⟩
  · rcases answer_createChannel_ok hAnswer with
      ⟨hUnused, rfl, hState⟩
    rcases returns_pure.mp h with ⟨rfl, rfl⟩
    exact Or.inl ⟨hUnused, rfl, hState⟩
  · cases hConflict : failure.isConflict with
    | false =>
        simp only [hConflict, Bool.false_eq_true,
          if_false] at h
        exact absurd h not_returns_fail
    | true =>
        simp only [hConflict, if_true, returns_bind,
          returns_record, returns_pure] at h
        rcases h with
          ⟨_, _, rfl, channel, _, hFound, rfl, rfl⟩
        rw [hLimit] at hFound
        rcases findByName_returned hSize hFound with
          ⟨rfl, hFirst⟩
        exact Or.inr ⟨rfl, channel, hFirst, rfl⟩

/- The search only reads. -/
theorem reads_findByName
    (limit name : Datum) :
    (findByName limit name).Reads := by
  have hFrom :
      ∀ bound before cursor,
        (Search.findFrom limit name bound before
          cursor).Reads := by
    intro bound
    induction bound with
    | zero => exact fun _ _ => trivial
    | succ bound ih =>
        intro before cursor
        refine Sends.bind (sends_send rfl) fun page => ?_
        split
        · trivial
        · split
          · exact ih _ _
          · trivial
  intro _
  exact hFrom _ _ _

/- The search gives up at a refusal. -/
theorem strict_findByName
    (limit name : Datum) :
    (findByName limit name).Strict := by
  have hFrom :
      ∀ bound before cursor,
        (Search.findFrom limit name bound before
          cursor).Strict := by
    intro bound
    induction bound with
    | zero => exact fun _ _ => trivial
    | succ bound ih =>
        intro before cursor
        apply Strict.bind (strict_send _)
        intro page
        split
        · trivial
        · split
          · exact ih _ _
          · trivial
  intro _
  exact hFrom _ _ _

/-
  However it ends, nothing has changed, or exactly the new
  channel has been added.
-/
theorem createOrFind_state
    (limits : Limits)
    (desired : Desired)
    (w : Workspace) :
    ((createOrFind limits desired).run remote w).state = w ∨
      (w.nameUsed desired.name none = false ∧
        ((createOrFind limits desired).run remote w).result =
          .ok w.nextId ∧
        ((createOrFind limits desired).run remote w).state =
          w.created desired.name desired.isPrivate) := by
  have hCreate :
      (Access.create desired.name desired.isPrivate).Ends
        remote w _ _ _ :=
    ends_create.mpr ⟨rfl, rfl, rfl⟩
  have hRun :=
    ends_run remote (createOrFind limits desired) w
  match hAnswer :
      (w.answer (.createChannel desired.name
        desired.isPrivate)).1 with
  | .ok channel =>
      rw [hAnswer] at hCreate
      rcases answer_createChannel_ok hAnswer with
        ⟨hUnused, rfl, hState⟩
      rw [hState] at hCreate
      have hAttempt := ends_attempt_ok.mpr hCreate
      rcases (ends_bind_of_ok hAttempt).mp hRun with
        ⟨_, hRest, -⟩
      rcases ends_pure.mp hRest with ⟨hResult, hAfter, -⟩
      exact Or.inr ⟨hUnused, hResult, hAfter⟩
  | .error (.failure failure) =>
      rw [hAnswer, answer_createChannel_error hAnswer]
        at hCreate
      rcases (ends_bind_of_ok
          (ends_attempt_failure.mpr hCreate)).mp hRun with
        ⟨_, hRest, -⟩
      have hReads :
          (if failure.isConflict then
            record (.adopting desired.name) >>= fun _ =>
              findByName limits.channels desired.name >>=
                fun channel => pure channel.id
          else fail failure).Reads := by
        split
        · exact (reads_findByName _ _).bind fun _ => trivial
        · trivial
      have hState := state_of_reads hReads w
      rw [hRest.state_eq] at hState
      exact Or.inl hState
  | .error (.fault fault) =>
      rw [hAnswer, answer_createChannel_error hAnswer]
        at hCreate
      rcases (ends_bind_of_error
          (ends_attempt_fault.mpr hCreate)).mp hRun with
        ⟨-, hState, -⟩
      exact Or.inl hState

/- A new name is created where nothing is laid in. -/
theorem createOrFind_creates
    (hOpen : w.failures.entries = [])
    (hDesired : desired.WellTyped)
    (h : w.nameUsed desired.name none = false) :
    (createOrFind limits desired).Returns remote w w.nextId
      (w.created desired.name desired.isPrivate) := by
  have hAnswer :=
    answer_createChannel_of_unused hOpen hDesired.name
      hDesired.isPrivate h
  have hCreate :
      (Access.create desired.name desired.isPrivate).Ends
        remote w _ _ _ :=
    ends_create.mpr ⟨rfl, rfl, rfl⟩
  rw [hAnswer] at hCreate
  unfold createOrFind
  simp only [returns_bind]
  exact ⟨.ok w.nextId, _,
    returns_attempt_ok.mpr hCreate.returns,
    returns_pure_self⟩

/- A taken name is found where nothing is laid in. -/
theorem createOrFind_finds
    (hOpen : w.failures.entries = [])
    (hDesired : desired.WellTyped)
    {size : Nat}
    (hSize : 0 < size)
    (hLimit : limits.channels = .number size)
    (hWritable : Paging.Writable size 0 w.states.length)
    {channel : Observed}
    (h : w.firstNamed desired.name = some channel) :
    (createOrFind limits desired).Returns remote w channel.id
      w := by
  have hUsed := (named_of_firstNamed hDesired.name h).2
  have hAnswer :=
    answer_createChannel_of_used hOpen hDesired.name
      hDesired.isPrivate hUsed
  have hCreate :
      (Access.create desired.name desired.isPrivate).Ends
        remote w _ _ _ :=
    ends_create.mpr ⟨rfl, rfl, rfl⟩
  rw [hAnswer] at hCreate
  have hSearch :=
    findByName_returns hOpen hSize hWritable h
  rw [← hLimit] at hSearch
  unfold createOrFind
  simp only [returns_bind]
  refine ⟨.error (Refusal.nameTaken desired.name), w,
    returns_attempt_failure.mpr ⟨_, hCreate⟩, ?_⟩
  have hConflict :
      (Refusal.nameTaken desired.name).isConflict = true :=
    rfl
  simp only [hConflict, if_true, returns_bind,
    returns_record]
  exact ⟨(), w, rfl, channel, w, hSearch,
    returns_pure_self⟩

end ChannelSync

------------------------------------------------------------
-- Where a Reconciliation Starts
------------------------------------------------------------

namespace ChannelSync

open Program Workspace

/- No channel has a member listed twice. -/
def Workspace.MembersDistinct
    (w : Workspace) :
    Prop :=
  ∀ entry ∈ w.channels.entries, entry.2.members.Nodup

/-
  Where the channel of a reconciliation comes from, and the
  workspace with the channel: it was given, it was found by
  its name, or it was created.
-/
inductive Workspace.Source
    (w : Workspace)
    (desired : Desired) :
    Option Datum → Workspace → Datum → Room → Prop where
  | given
      {id : Datum}
      {room : Room} :
      Source w desired (some id) w id room
  | found
      {room : Room}
      (hFirst :
        w.firstNamed desired.name = some room.state) :
      Source w desired none w room.state.id room
  | created
      (hUnused : w.nameUsed desired.name none = false) :
      Source w desired none
        (w.created desired.name desired.isPrivate) w.nextId
        (w.newRoom desired.name desired.isPrivate)

/-
  A channel from which a reconciliation of a workspace goes
  on, in the workspace with the channel if it is new.
-/
structure Workspace.Starts
    (w : Workspace)
    (desired : Desired)
    (id? : Option Datum)
    (base : Workspace)
    (id : Datum)
    (room : Room) :
    Prop where
  isText : id.isText = true
  typed : base.WellTyped
  failures : base.failures = w.failures
  users : base.users = w.users
  botId : base.botId = w.botId
  found : base.channels.get? id = some room
  nodup : w.MembersDistinct → room.members.Nodup
  source : w.Source desired id? base id room

variable {w base after : Workspace}
variable {limits : Limits}
variable {desired : Desired}
variable {id : Datum}
variable {id? : Option Datum}
variable {room : Room}
variable {observed : Observed}

/- The room from which a reconciliation goes on. -/
theorem Workspace.Starts.putRoom
    (h : w.Starts desired id? base id room) :
    base.putRoom id room = base :=
  putRoom_of_get? h.found

/- A room of a workspace is well typed, under its key. -/
theorem Workspace.Starts.room_typed
    (h : w.Starts desired id? base id room) :
    room.WellTyped ∧ room.state.id = id :=
  ⟨h.typed.room_of_get? h.isText h.found,
    h.typed.roomId_of_get? h.isText h.found⟩

/- Rooms of a workspace without repetitions have none. -/
theorem Workspace.MembersDistinct.of_get?
    (h : w.MembersDistinct)
    (hId : id.isText = true)
    (hFound : w.channels.get? id = some room) :
    room.members.Nodup :=
  h _ (Table.mem_of_get? hId hFound)

/- A channel can be brought in line only if there is one. -/
theorem room_of_converge
    (hId : id.isText = true)
    (h : (converge limits desired id).Returns remote w
      observed after) :
    ∃ room, w.channels.get? id = some room := by
  simp only [converge, fetchActive, Access.fetch,
    returns_bind, Access.returns_info] at h
  rcases h with
    ⟨_, _, ⟨_, _, ⟨info, _, ⟨hInfo, -⟩, -⟩, -⟩, -⟩
  rcases Access.room_of_info hId hInfo with ⟨room, hRoom, -⟩
  exact ⟨room, hRoom⟩

/-
  A declaration that passes once passes always, and without
  a request.
-/
theorem silent_validate
    (h : (validate desired).Returns remote w () after)
    (s : Workspace) :
    (validate desired).Silent remote s () := by
  unfold validate at h ⊢
  cases hInvalid : desired.invalid? with
  | none => exact silent_pure ()
  | some failure =>
      rw [hInvalid] at h
      exact absurd h not_returns_fail

/- A declaration that passes is passed in silence. -/
theorem ends_validate_ok
    {exchanges : List Exchange}
    (h : (validate desired).Ends remote w (.ok ()) after
      exchanges) :
    after = w ∧ exchanges = [] := by
  unfold validate at h
  split at h
  · exact absurd h.returns not_returns_fail
  · exact (ends_pure.mp h).2

/- A reconciliation goes on from the channel it was given. -/
theorem Workspace.starts_given
    (hw : w.WellTyped)
    (hId : id.isText = true)
    (hRoom : w.channels.get? id = some room) :
    w.Starts desired (some id) w id room where
  isText := hId
  typed := hw
  failures := rfl
  users := rfl
  botId := rfl
  found := hRoom
  nodup := fun hDistinct => hDistinct.of_get? hId hRoom
  source := .given

/- A reconciliation goes on from the channel it created. -/
theorem Workspace.starts_created
    (hw : w.WellTyped)
    (hDesired : desired.WellTyped)
    (hUnused : w.nameUsed desired.name none = false) :
    w.Starts desired none
      (w.created desired.name desired.isPrivate) w.nextId
      (w.newRoom desired.name desired.isPrivate) := by
  rcases hw.created hDesired.name hDesired.isPrivate with
    ⟨hRoom, hAdvanced⟩
  exact
    { isText := rfl
      typed := hAdvanced.putRoom rfl hRoom rfl
      failures := rfl
      users := rfl
      botId := rfl
      found := get?_putRoom _ _ _
      nodup := fun _ => by simp [newRoom]
      source := .created hUnused }

/- A reconciliation goes on from the channel it found. -/
theorem Workspace.starts_found
    (hw : w.WellTyped)
    {channel : Observed}
    (hFirst : w.firstNamed desired.name = some channel) :
    ∃ room, w.Starts desired none w channel.id room := by
  rcases hw.room_of_firstNamed hFirst with
    ⟨room, hFound, rfl⟩
  have hText : room.state.id.isText = true := by
    have hMem := List.mem_of_find?_eq_some hFirst
    simp only [states, Table.values, List.map_map,
      List.mem_map, Function.comp] at hMem
    rcases hMem with ⟨entry, hEntry, hState⟩
    exact hState ▸ (hw.room _ hEntry).state.id
  exact ⟨room,
    { isText := hText
      typed := hw
      failures := rfl
      users := rfl
      botId := rfl
      found := hFound
      nodup := fun hDistinct =>
        hDistinct.of_get? hText hFound
      source := .found hFirst }⟩

/- So it does from the one that it created or found. -/
theorem starts_of_createOrFind
    (hw : w.WellTyped)
    (hLimits : limits.Positive)
    (hDesired : desired.WellTyped)
    (h : (createOrFind limits desired).Returns remote w id
      base) :
    ∃ room, w.Starts desired none base id room := by
  rcases createOrFind_returned hLimits h with
    ⟨hUnused, rfl, rfl⟩ | ⟨rfl, channel, hFirst, rfl⟩
  · exact ⟨_, starts_created hw hDesired hUnused⟩
  · exact starts_found hw hFirst

/-
  A reconciliation that returns has a channel from which it
  goes on.  If it was given none, it got it first.
-/
theorem reconcile_starts
    (hw : w.WellTyped)
    (hLimits : limits.Positive)
    (hDesired : desired.WellTyped)
    (hId : ∀ id ∈ id?, id.isText = true)
    {exchanges : List Exchange}
    (h : (reconcile limits desired id?).Ends remote w
      (.ok observed) after exchanges) :
    ∃ base id room first rest,
      w.Starts desired id? base id room ∧
        (converge limits desired id).Ends remote base
          (.ok observed) after rest ∧
        exchanges = first ++ rest ∧
        (first = [] ∨
          id? = none ∧
            (createOrFind limits desired).Ends remote w
              (.ok id) base first) := by
  rcases ends_bind_ok.mp h with
    ⟨_, start, _, _, hValid, hRest, rfl⟩
  rcases ends_validate_ok hValid with ⟨hStart, rfl⟩
  rw [hStart] at hRest
  cases id? with
  | some id =>
      have hText := hId id rfl
      rcases room_of_converge hText hRest.returns with
        ⟨room, hRoom⟩
      exact ⟨_, id, room, [], _,
        starts_given hw hText hRoom, hRest, rfl, Or.inl rfl⟩
  | none =>
      rcases ends_bind_ok.mp hRest with
        ⟨id, base, first, rest, hTarget, hConverge, rfl⟩
      rcases starts_of_createOrFind hw hLimits hDesired
          hTarget.returns with
        ⟨room, hStarts⟩
      exact ⟨_, _, room, first, rest, hStarts, hConverge,
        rfl, Or.inr ⟨rfl, hTarget⟩⟩

end ChannelSync

------------------------------------------------------------
-- A Small Workspace
------------------------------------------------------------

namespace ChannelSync

/- A channel with one member, who will have to leave. -/
def Seed.sample : Seed where
  name := .text "lunch"
  id := .text "C1"
  members := .list [.text "U2"]

/- The channel as it is kept. -/
def Room.sample : Room where
  state := { id := .text "C1", name := .text "lunch" }
  members := [.text "U2"]

/- Two users besides the one acted as. -/
def Workspace.staff : Workspace where
  botId := .text "U0"
  users := ⟨[
    (.text "U0",
      { id := .text "U0", isBot := .flag true }),
    (.text "U1",
      { id := .text "U1", email := .text "a@x" }),
    (.text "U2",
      { id := .text "U2", email := .text "b@x" })]⟩

/- The two users and the channel. -/
def Workspace.sample : Workspace :=
  { Workspace.staff with
    channels := ⟨[(.text "C1", Room.sample)]⟩ }

/- The only failure: one user cannot be invited. -/
def Workspace.sampleFailures : Table Trigger Failure :=
  ⟨[(⟨.text "invite_members", .text "U1"⟩,
    .single .remote "no" (.text "restricted") none)]⟩

/- A channel for the other user. -/
def Desired.sample : Desired where
  name := .text "dinner"
  members := [.text "a@x"]

/- Pages of a few items. -/
def Limits.sample : Limits :=
  ⟨.number 2, .number 1⟩

/- The users are added one by one. -/
theorem Workspace.reachable_staff :
    Workspace.staff.Reachable := by
  have hEmpty :=
    Reachable.empty rfl
      (rfl : Workspace.empty (.text "U0") = .ok _)
  have hFirst :=
    Reachable.addUser hEmpty
      (⟨rfl, rfl, rfl⟩ : User.WellTyped
        { id := .text "U1", email := .text "a@x" }) rfl
  exact
    Reachable.addUser hFirst
      (⟨rfl, rfl, rfl⟩ : User.WellTyped
        { id := .text "U2", email := .text "b@x" }) rfl

/- Then the channel is added. -/
theorem Workspace.reachable_sample :
    Workspace.sample.Reachable := by
  have hSeed : Seed.sample.WellTyped :=
    { name := rfl
      id := Or.inr rfl
      description := rfl
      topic := rfl
      isPrivate := rfl
      archived := rfl
      members := Or.inr ⟨_, rfl, by simp [Datum.isText]⟩ }
  exact Reachable.addChannel reachable_staff hSeed

/- Nobody is in the channel twice. -/
theorem Workspace.membersDistinct_sample :
    Workspace.sample.MembersDistinct := by
  simp [MembersDistinct, Workspace.sample, Room.sample]

/- Nothing is laid in for the small workspace. -/
theorem Workspace.no_failures_sample :
    Workspace.sample.failures.entries = [] :=
  rfl

theorem Limits.positive_sample :
    Limits.sample.Positive :=
  ⟨⟨2, by decide, rfl⟩, ⟨1, by decide, rfl⟩⟩

theorem Desired.wellTyped_sample :
    Desired.sample.WellTyped where
  name := rfl
  description := rfl
  topic := rfl
  isPrivate := rfl
  members := by simp [Desired.sample, Datum.isText]
  distinct := by simp [Desired.sample]

end ChannelSync
