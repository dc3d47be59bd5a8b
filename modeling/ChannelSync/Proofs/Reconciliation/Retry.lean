import ChannelSync.Proofs.Reconciliation.Convergence
import ChannelSync.Proofs.Reconciliation.Creations
import ChannelSync.Proofs.Reconciliation.Interruption

/-
  Reconciling once more after a run that was cut off.

  A run that fails is not rolled back, and nothing is tried
  again within it: the caller reconciles again.  If nothing
  fails this time, the second run ends as a first one would
  have.  A channel that the first run created is found by its
  name, and no second one is created.

  Key definitions include:
    * `reconcileUnder`
    * `Recovers`

  Key theorems include:
    * `Workspace.WellTyped.firstNamed_putRoom`
    * `reconcile_cut`
    * `Workspace.Starts.again`
    * `reconcile_recovers`
-/

------------------------------------------------------------
-- Finding the Channel Again
------------------------------------------------------------

namespace ChannelSync

namespace Table

variable {ν : Type}

/- A table grows by one entry at most. -/
theorem length_insert_le
    (t : Table Datum ν)
    (key : Datum)
    (value : ν) :
    (t.insert key value).entries.length ≤
      t.entries.length + 1 := by
  rcases t with ⟨entries⟩
  simp only [insert]
  induction entries with
  | nil => simp [insertIn]
  | cons entry rest ih =>
      unfold insertIn
      split
      · simp
      · simpa using ih

end Table

namespace Workspace

variable {w : Workspace}
variable {id name : Datum}
variable {room : Room}

/- A search finds a room that is put, if none was before. -/
theorem find?_insertIn
    {entries : List (Datum × Room)}
    (hId : id.isText = true)
    (hKeys :
      ∀ entry ∈ entries, entry.2.state.id = entry.1)
    (hNamed : room.state.name = name)
    (hFirst :
      ∀ channel,
        (entries.map fun entry => entry.2.state).find?
            (fun c => c.name == name) = some channel →
          channel.id = id) :
    ((Table.insertIn id room entries).map
        fun entry => entry.2.state).find?
          (fun c => c.name == name) =
      some room.state := by
  induction entries with
  | nil => simp [Table.insertIn, hNamed]
  | cons entry rest ih =>
      rcases entry with ⟨key, other⟩
      rw [List.forall_mem_cons] at hKeys
      unfold Table.insertIn
      cases hKey : key == id with
      | true => simp [hNamed]
      | false =>
          have hOther :
              (other.state.name == name) = false := by
            apply Bool.eq_false_iff.mpr
            intro hSame
            have hHead := hFirst other.state (by simp [hSame])
            rw [Datum.beq_eq_decide' hId,
              decide_eq_false_iff_not] at hKey
            exact hKey (hKeys.1.symm.trans hHead)
          simp only [List.map_cons, List.find?_cons, hOther,
            Bool.false_eq_true, if_false] at hFirst ⊢
          exact ih hKeys.2 hFirst

/-
  A channel is the first one of its name, if no other one
  was before.
-/
theorem WellTyped.firstNamed_putRoom
    (hw : w.WellTyped)
    (hId : id.isText = true)
    (hNamed : room.state.name = name)
    (hFirst :
      ∀ channel, w.firstNamed name = some channel →
        channel.id = id) :
    (w.putRoom id room).firstNamed name =
      some room.state := by
  simp only [firstNamed, states, Table.values,
    List.map_map] at hFirst ⊢
  exact find?_insertIn hId hw.roomId hNamed hFirst

end Workspace

end ChannelSync

------------------------------------------------------------
-- Where a Run Is Cut Off
------------------------------------------------------------

namespace ChannelSync

open Program Workspace

variable {w base after : Workspace}
variable {limits : Limits}
variable {desired : Desired}
variable {id : Datum}
variable {id? : Option Datum}
variable {room : Room}
variable {result : Except Problem Observed}
variable {exchanges : List Exchange}

/-
  With whatever failures, the channel is on its way when
  bringing it in line ends.
-/
theorem Workspace.Starts.cut
    (hStarts : w.Starts desired id? base id room)
    (hLimits : limits.Positive)
    (hDesired : desired.WellTyped)
    (hName : ∃ shown, desired.name.unescaped = .ok shown)
    (hNodup : room.members.Nodup)
    (hSettleable : base.Settleable desired id room.state)
    {failures : Table Trigger Failure}
    (h : (converge limits desired id).Ends remote
      (base.withFailures failures) result after exchanges) :
    ∃ room',
      after = (base.putRoom id room').withFailures failures ∧
        base.Between desired id room room' := by
  rcases hStarts.room_typed with ⟨hRoom, -⟩
  have hSame :
      (base.withFailures failures).putRoom id room =
        base.withFailures failures :=
    putRoom_of_get? hStarts.found
  rcases converge_between hLimits
      (hStarts.typed.withFailures failures) hStarts.isText
      hDesired hName hRoom hNodup
      ⟨hSettleable.name, hSettleable.topic,
        hSettleable.description, hSettleable.free⟩ with
    ⟨room', hState, hBetween⟩
  rw [hSame, h.state_eq] at hState
  exact ⟨room', hState, hBetween.of_withFailures⟩

/-
  A run with failures that goes on to a channel goes on to
  the one that a run without them goes on to.
-/
theorem Workspace.Starts.target
    (hStarts : w.Starts desired none base id room)
    (hLimits : limits.Positive)
    (hDesired : desired.WellTyped)
    {failures : Table Trigger Failure}
    {id' : Datum}
    (h : (createOrFind limits desired).Returns remote
      (w.withFailures failures) id' after) :
    id' = id ∧ after = base.withFailures failures := by
  have hUsed :
      ∀ {channel},
        w.firstNamed desired.name = some channel →
          w.nameUsed desired.name none = true :=
    fun hFirst => (named_of_firstNamed hDesired.name hFirst).2
  rcases createOrFind_returned hLimits h with
    ⟨hUnused, rfl, rfl⟩ | ⟨rfl, channel, hFirst, rfl⟩
  · change w.nameUsed desired.name none = false at hUnused
    cases hStarts.source with
    | found hFirst =>
        rw [hUsed hFirst] at hUnused
        cases hUnused
    | created hUnused => exact ⟨rfl, rfl⟩
  · change w.firstNamed desired.name = some channel at hFirst
    cases hStarts.source with
    | found hFound =>
        rw [hFound] at hFirst
        cases hFirst
        exact ⟨rfl, rfl⟩
    | created hUnused =>
        rw [hUsed hFirst] at hUnused
        cases hUnused

/-
  Wherever a run is cut off, nothing has changed but the
  channel, and that is on its way.
-/
theorem reconcile_cut
    (hStarts : w.Starts desired id? base id room)
    (hLimits : limits.Positive)
    (hDesired : desired.WellTyped)
    (hName : ∃ shown, desired.name.unescaped = .ok shown)
    (hNodup : room.members.Nodup)
    (hSettleable : base.Settleable desired id room.state)
    {failures : Table Trigger Failure}
    (h : (reconcile limits desired id?).Ends remote
      (w.withFailures failures) result after exchanges) :
    after = w.withFailures failures ∨
      ∃ room',
        after =
            (base.putRoom id room').withFailures failures ∧
          base.Between desired id room room' := by
  have hReads : (validate desired).Reads := by
    unfold validate
    split <;> trivial
  have hKept :=
    state_of_reads hReads (w.withFailures failures)
  rcases ends_bind.mp h with
    ⟨problem, hInvalid, -⟩ |
      ⟨_, start, _, _, hValid, hRest, -⟩
  · exact Or.inl (hInvalid.state_eq.symm.trans hKept)
  · rw [hValid.state_eq] at hKept
    subst hKept
    cases id? with
    | some given =>
        cases hStarts.source
        exact Or.inr (hStarts.cut hLimits hDesired hName
          hNodup hSettleable hRest)
    | none =>
        rcases ends_bind.mp hRest with
          ⟨problem, hFailed, -⟩ |
            ⟨id', base', _, _, hTarget, hConverge, -⟩
        · rcases createOrFind_state limits desired
            (w.withFailures failures) with
              hSame | ⟨-, hOk, -⟩
          · exact Or.inl (hFailed.state_eq.symm.trans hSame)
          · rw [hFailed.result_eq] at hOk
            cases hOk
        · rcases hStarts.target hLimits hDesired
              hTarget.returns with
            ⟨rfl, rfl⟩
          exact Or.inr (hStarts.cut hLimits hDesired hName
            hNodup hSettleable hConverge)

end ChannelSync

------------------------------------------------------------
-- The Second Run
------------------------------------------------------------

namespace ChannelSync

open Program Workspace

variable {w base after : Workspace}
variable {limits : Limits}
variable {desired : Desired}
variable {id : Datum}
variable {id? : Option Datum}
variable {room room' : Room}
variable {observed : Observed}

/- The channel bears the declared name when it is found. -/
theorem Workspace.Starts.named
    (hStarts : w.Starts desired none base id room)
    (hDesired : desired.WellTyped) :
    room.state.name = desired.name := by
  cases hStarts.source with
  | found hFirst =>
      exact (named_of_firstNamed hDesired.name hFirst).1
  | created hUnused => rfl

/- As long as it bears the name it is found by it. -/
theorem Workspace.Starts.firstNamed
    (hStarts : w.Starts desired none base id room)
    (hw : w.WellTyped)
    (hDesired : desired.WellTyped)
    (hNamed : room'.state.name = desired.name) :
    (base.putRoom id room').firstNamed desired.name =
        some room'.state ∧
      (base.putRoom id room').states.length ≤
        w.channels.entries.length + 1 := by
  have hId := hStarts.isText
  cases hStarts.source with
  | found hFirst =>
      refine ⟨hw.firstNamed_putRoom hId hNamed ?_, ?_⟩
      · intro channel hChannel
        rw [hFirst] at hChannel
        cases hChannel
        rfl
      · rw [length_states]
        exact Table.length_insert_le w.channels _ room'
  | created hUnused =>
      have hAdvanced :=
        (hw.created hDesired.name hDesired.isPrivate).2
      rw [created, putRoom_putRoom]
      refine ⟨hAdvanced.firstNamed_putRoom hId hNamed ?_, ?_⟩
      · intro channel hChannel
        have hUsed :=
          (named_of_firstNamed hDesired.name hChannel).2
        change w.nameUsed desired.name none = true at hUsed
        rw [hUnused] at hUsed
        cases hUsed
      · rw [length_states]
        exact Table.length_insert_le w.channels _ room'

/-
  From where the first run was cut off, a second one without
  failures brings the channel in line.
-/
theorem Workspace.Starts.again
    (hStarts : w.Starts desired id? base id room)
    (hOpen : w.failures.entries = [])
    (hw : w.WellTyped)
    (hLimits : limits.Positive)
    (hDesired : desired.WellTyped)
    (hListed :
      id? = none →
        w.channels.entries.length < Numeral.numberLimit)
    (hNodup : room.members.Nodup)
    {start : Workspace}
    (hValid : (validate desired).Returns remote w () start)
    (h : (converge limits desired id).Returns remote base
      observed after)
    (hBetween : base.Between desired id room room') :
    ∃ again last last',
      (reconcile limits desired id?).Returns remote
          (base.putRoom id room') again
          (base.putRoom id last') ∧
        after = base.putRoom id last ∧
        again.Matches observed := by
  rcases hStarts.room_typed with ⟨hRoom, hRoomId⟩
  have hBaseOpen : base.failures.entries = [] := by
    rw [hStarts.failures]
    exact hOpen
  rw [← hStarts.putRoom] at h
  rcases converge_again hBaseOpen hLimits hStarts.typed
      hStarts.isText hDesired hRoom hRoomId hNodup h
      hBetween with
    ⟨again, last, last', hAgain, hLast, hMatches⟩
  refine ⟨again, last, last', ?_, hLast, hMatches⟩
  refine returns_bind.mpr
    ⟨(), _, (silent_validate hValid _).returns, ?_⟩
  cases id? with
  | some given =>
      cases hStarts.source
      exact hAgain
  | none =>
      rcases hLimits.channels with ⟨size, hSize, hLimit⟩
      have hNamed :=
        hBetween.named (hStarts.named hDesired)
      rcases hStarts.firstNamed hw hDesired hNamed with
        ⟨hFirst, hLength⟩
      have hStillOpen :
          (base.putRoom id room').failures.entries = [] :=
        hBaseOpen
      have hFound :=
        createOrFind_finds hStillOpen hDesired hSize hLimit
          (Paging.writable_of_length_le
            (Nat.le_trans hLength (hListed rfl)) 0) hFirst
      have hSameId : room'.state.id = id :=
        (congrArg Observed.id hBetween.settled).trans hRoomId
      rw [hSameId] at hFound
      exact hFound.bind hAgain

end ChannelSync

------------------------------------------------------------
-- Recovery
------------------------------------------------------------

namespace ChannelSync

open Program

/- Reconcile with these failures laid in, and no others. -/
def reconcileUnder
    (limits : Limits)
    (desired : Desired)
    (id? : Option Datum)
    (failures : Table Trigger Failure)
    (w : Workspace) :
    Run Workspace Observed :=
  (reconcile limits desired id?).run Workspace.remote
    (w.withFailures failures)

/-
  A run that was cut off and a second run come to the same
  as a single run without failures.
-/
structure Recovers
    (single cut second : Run Workspace Observed)
    (observed : Observed) :
    Prop where
  returns :
    ∃ again, second.result = .ok again ∧
      again.Matches observed
  /- There are the same channels in the end. -/
  channels :
    second.state.channels.keys = single.state.channels.keys
  /- No channel is created twice. -/
  creations :
    cut.creations + second.creations = single.creations
  once : single.creations ≤ 1
  /- The second run adopts what the first one created. -/
  adopted :
    0 < cut.creations →
      ∃ room, cut.state.channels.get? observed.id = some room

open Workspace

/- The failures may be laid in once more. -/
theorem Workspace.withFailures_of_eq
    {w : Workspace}
    {failures : Table Trigger Failure}
    (h : w.failures = failures) :
    w.withFailures failures = w := by
  subst h
  rfl

variable {w : Workspace}
variable {limits : Limits}
variable {desired : Desired}
variable {id? : Option Datum}
variable {observed : Observed}

/- A reconciliation creates one channel at most. -/
theorem Workspace.Starts.numbered_le
    {base : Workspace}
    {id : Datum}
    {room : Room}
    (h : w.Starts desired id? base id room) :
    base.numbered ≤ w.numbered + 1 := by
  cases h.source with
  | given => exact Nat.le_succ _
  | found => exact Nat.le_succ _
  | created => exact Nat.le_refl _

/- A channel that was brought in line could be settled. -/
theorem Workspace.Starts.settleable
    {base after : Workspace}
    {id : Datum}
    {room : Room}
    (hStarts : w.Starts desired id? base id room)
    (hOpen : w.failures.entries = [])
    (hLimits : limits.Positive)
    (hDesired : desired.WellTyped)
    (h : (converge limits desired id).Returns remote base
      observed after) :
    base.Settleable desired id room.state := by
  rcases hLimits.members with ⟨size, hSize, hLimit⟩
  rcases hStarts.room_typed with ⟨hRoom, hRoomId⟩
  have hBaseOpen : base.failures.entries = [] := by
    rw [hStarts.failures]
    exact hOpen
  rw [← hStarts.putRoom] at h
  exact (converge_ready hSize hLimit hLimits hStarts.typed
    hStarts.isText hDesired hRoom hRoomId
    (invitesOpenly_of_no_failures hBaseOpen) h).settleable

/- What a reconciliation creates, the workspace counts. -/
theorem numbered_reconcileUnder
    (limits : Limits)
    (desired : Desired)
    (id? : Option Datum)
    (failures : Table Trigger Failure)
    (w : Workspace) :
    (reconcileUnder limits desired id? failures
        w).state.numbered =
      w.numbered +
        (reconcileUnder limits desired id? failures
          w).creations :=
  numbered_run _ (w.withFailures failures)

/-
  A second run is a single run if the first one came to
  nothing.
-/
theorem recovers_of_unchanged
    {failures : Table Trigger Failure}
    (hResult :
      (reconcileUnder limits desired id? {} w).result =
        .ok observed)
    (hOnce :
      (reconcileUnder limits desired id? {} w).creations ≤ 1)
    (hSame :
      (reconcileUnder limits desired id? failures w).state =
        w.withFailures failures) :
    Recovers
      (reconcileUnder limits desired id? {} w)
      (reconcileUnder limits desired id? failures w)
      (reconcileUnder limits desired id? {}
        (reconcileUnder limits desired id? failures w).state)
      observed := by
  have hSecond :
      reconcileUnder limits desired id? {}
          (reconcileUnder limits desired id? failures
            w).state =
        reconcileUnder limits desired id? {} w := by
    rw [hSame]
    rfl
  have hNone :
      (reconcileUnder limits desired id? failures
        w).creations = 0 := by
    have hCount :=
      numbered_reconcileUnder limits desired id? failures w
    rw [hSame] at hCount
    exact Nat.left_eq_add.mp hCount
  rw [hSecond]
  exact
    { returns :=
        ⟨observed, hResult, rfl, fun _ => Iff.rfl⟩
      channels := rfl
      creations := by rw [hNone, Nat.zero_add]
      once := hOnce
      adopted := fun hSome => by
        rw [hNone] at hSome
        cases hSome }

/-
  A second run comes to the same if it goes on from where
  the first one was cut off.
-/
theorem recovers_of_moved
    {base : Workspace}
    {room' last last' : Room}
    {failures : Table Trigger Failure}
    {again : Observed}
    (hBase : base.failures = {})
    (hOnce :
      (reconcileUnder limits desired id? {} w).creations ≤ 1)
    (hSingle :
      (reconcileUnder limits desired id? {} w).state =
        base.putRoom observed.id last)
    (hCut :
      (reconcileUnder limits desired id? failures w).state =
        (base.putRoom observed.id room').withFailures
          failures)
    (hAgain :
      (reconcile limits desired id?).Returns remote
        (base.putRoom observed.id room') again
        (base.putRoom observed.id last'))
    (hMatches : again.Matches observed) :
    Recovers
      (reconcileUnder limits desired id? {} w)
      (reconcileUnder limits desired id? failures w)
      (reconcileUnder limits desired id? {}
        (reconcileUnder limits desired id? failures w).state)
      observed := by
  have hRoomBase :
      (base.putRoom observed.id room').failures = {} :=
    hBase
  have hStart :
      ((base.putRoom observed.id room').withFailures
          failures).withFailures {} =
        base.putRoom observed.id room' :=
    withFailures_of_eq hRoomBase
  have hSecond :
      reconcileUnder limits desired id? {}
          (reconcileUnder limits desired id? failures
            w).state =
        (reconcile limits desired id?).run remote
          (base.putRoom observed.id room') := by
    rw [hCut, reconcileUnder, hStart]
  have hSingleCount :=
    numbered_reconcileUnder limits desired id? {} w
  have hCutCount :=
    numbered_reconcileUnder limits desired id? failures w
  have hSecondCount :=
    numbered_reconcileUnder limits desired id? {}
      (reconcileUnder limits desired id? failures w).state
  have hSame :
      (base.putRoom observed.id last).numbered =
        (base.putRoom observed.id last').numbered :=
    rfl
  rw [hSingle] at hSingleCount
  rw [hSecond, hAgain.state_eq] at hSecondCount
  exact
    { returns :=
        ⟨again, hSecond ▸ hAgain.result_eq, hMatches⟩
      channels := by
        rw [hSecond, hAgain.state_eq, hSingle]
        exact Table.keys_insert_congr _ _ _ _
      creations := by
        rw [hSecond]
        omega
      once := hOnce
      adopted := fun _ => by
        rw [hCut]
        exact ⟨room', get?_putRoom base observed.id room'⟩ }

/-
  If a reconciliation returns when nothing fails, it returns
  the same after a first run that was cut off by whatever
  failures.  The declared name has to be readable, as the
  second run reads it back.

  The bound on the channels only says that the cursors of
  their listing can be written.  It is so large that no table
  that fits into a memory gets near it.
-/
theorem reconcile_recovers
    (hReachable : w.Reachable)
    (hDistinct : w.MembersDistinct)
    (hLimits : limits.Positive)
    (hDesired : desired.WellTyped)
    (hId : ∀ id ∈ id?, id.isText = true)
    (hName : ∃ shown, desired.name.unescaped = .ok shown)
    (hListed :
      id? = none →
        w.channels.entries.length < Numeral.numberLimit)
    (hResult :
      (reconcileUnder limits desired id? {} w).result =
        .ok observed)
    (failures : Table Trigger Failure) :
    Recovers
      (reconcileUnder limits desired id? {} w)
      (reconcileUnder limits desired id? failures w)
      (reconcileUnder limits desired id? {}
        (reconcileUnder limits desired id? failures w).state)
      observed := by
  have hOpen : (w.withFailures {}).failures.entries = [] :=
    rfl
  have hInvites := invitesOpenly_of_no_failures hOpen
  have hw := hReachable.wellTyped.withFailures {}
  have hReturns :
      (reconcile limits desired id?).Returns remote
        (w.withFailures {}) observed _ :=
    ⟨hResult, rfl⟩
  rcases reconcile_leaves (hReachable.failing {}) hDistinct
      hInvites hLimits hDesired hId hReturns with
    ⟨base, room, last, hSingle, hLeaves⟩
  have hStarts := hLeaves.starts
  have hNodup := hStarts.nodup hDistinct
  have hOnce :
      (reconcileUnder limits desired id? {} w).creations ≤
        1 := by
    have hCount :=
      numbered_reconcileUnder limits desired id? {} w
    have hBase : base.numbered ≤ w.numbered + 1 :=
      hStarts.numbered_le
    change (reconcileUnder limits desired id? {} w).state =
      _ at hSingle
    rw [hSingle] at hCount
    change base.numbered = _ at hCount
    omega
  rcases returns_bind.mp hReturns with ⟨_, start, hValid, -⟩
  have hSettleable :
      base.Settleable desired observed.id room.state :=
    hStarts.settleable hOpen hLimits hDesired hLeaves.converged
  rcases reconcile_cut hStarts hLimits hDesired hName hNodup
    hSettleable
    (ends_run remote (reconcile limits desired id?)
      (w.withFailures failures)) with
    hSame | ⟨room', hCut, hBetween⟩
  · exact recovers_of_unchanged hResult hOnce hSame
  · rcases hStarts.again hOpen hw hLimits hDesired hListed
        hNodup hValid hLeaves.converged hBetween with
      ⟨again, _, last', hAgain, -, hMatches⟩
    exact recovers_of_moved hStarts.failures hOnce hSingle
      hCut hAgain hMatches

/- A new channel is kept though an invitation failed. -/
theorem reconcile_recovers_sample :
    Recovers
      (reconcileUnder Limits.sample Desired.sample none {}
        Workspace.sample)
      (reconcileUnder Limits.sample Desired.sample none
        Workspace.sampleFailures Workspace.sample)
      (reconcileUnder Limits.sample Desired.sample none {}
        (reconcileUnder Limits.sample Desired.sample none
          Workspace.sampleFailures Workspace.sample).state)
      { id := .text "C0001"
        name := .text "dinner"
        memberIds := [.text "U0", .text "U1"] } :=
  reconcile_recovers reachable_sample membersDistinct_sample
    Limits.positive_sample Desired.wellTyped_sample (by simp)
    ⟨_, rfl⟩
    (fun _ => Numeral.one_lt_numberLimit) rfl
    Workspace.sampleFailures

end ChannelSync
