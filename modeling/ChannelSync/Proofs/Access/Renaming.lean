import ChannelSync.Proofs.Access.TextFields
import ChannelSync.Proofs.Reconciliation.Writes
import ChannelSync.Proofs.Run.Records

/-
  Renaming a channel again.

  A name is stored as it is given, and compared by what it
  shows.  So renaming a channel for a second time is free of
  writes where the name shows itself, or where the channel
  showed it in the first place.

  A name that shows another text, such as one that holds the
  reference of an ampersand, is never settled: it is written
  at every repetition, and every check finds that the name
  differs.  A name that cannot be read stops both.

  Key definitions include:
    * `Workspace.NameSettled`
    * `Workspace.NameUnsettled`
    * `Workspace.RenameRepeats`

  Key theorems include:
    * `Access.rename_returned`
    * `Drift.notes_membershipDiffers`
    * `Workspace.rename_repeated`
-/

------------------------------------------------------------
-- Repetitions
------------------------------------------------------------

namespace ChannelSync

namespace Workspace

open Program

/-
  A rename that has nothing left to do: the channel is only
  read, and a check of it finds no other name.
-/
structure NameSettled
    (w : Workspace)
    (id name : Datum)
    (state : Observed) :
    Prop where
  returns :
    (Access.rename id name).Returns remote w state w
  requests :
    ((Access.rename id name).run remote w).requests =
      [.channelInfo id]
  unnoticed :
    ∀ desired observed s,
      desired.name = name →
      observed.name = state.name →
      .nameDiffers observed.id ∉
        ((Drift.detected desired observed).run remote
          s).events

/-
  A rename that writes the name that is there already, and
  leaves everything as it is, so that it does so again.  A
  check of the channel finds drift each time.
-/
structure NameUnsettled
    (w : Workspace)
    (id name : Datum)
    (state : Observed) :
    Prop where
  returns :
    (Access.rename id name).Returns remote w state w
  requests :
    ((Access.rename id name).run remote w).requests =
      [.channelInfo id, .renameChannel id name]
  noticed :
    ∀ desired observed s,
      desired.name = name →
      observed.name = state.name →
      (Drift.detected desired observed).Returns remote s
          true s ∧
        .nameDiffers observed.id ∈
          ((Drift.detected desired observed).run remote
            s).events

/-
  How a rename goes that is repeated, after a first one with
  some writes has returned.
-/
structure RenameRepeats
    (w : Workspace)
    (id name : Datum)
    (state : Observed)
    (written : List Request) :
    Prop where
  settled :
    name.unescaped = .ok name ∨ written = [] →
      w.NameSettled id name state
  unsettled :
    ∀ shown,
      name.unescaped = .ok shown →
      shown ≠ name →
      written ≠ [] →
      w.NameUnsettled id name state
  unreadable :
    ∀ fault,
      name.unescaped = .error fault →
      written ≠ [] →
      (Access.rename id name).Stops remote w
          (.fault fault) w ∧
        ∀ desired observed s,
          observed.name = state.name →
          (Drift.detected desired observed).Stops remote s
            (.fault fault) s

end Workspace

end ChannelSync

------------------------------------------------------------
-- The First Rename
------------------------------------------------------------

namespace ChannelSync

open Program Workspace

variable {w after : Workspace}
variable {id name : Datum}
variable {state : Observed}
variable {room : Room}

/- A name that was stored can be stored again. -/
theorem Workspace.answer_renameChannel_again
    (hId : id.isText = true)
    (h : (w.putRoom id room).answer
      (.renameChannel id name) = (.ok state, after)) :
    after =
        w.putRoom id
          (room.edit fun state =>
            { state with name := name }) ∧
      state = { room.state with name := name } ∧
      after.answer (.renameChannel id name) =
        (.ok state, after) := by
  rw [answer_renameChannel hId] at h
  unfold edited at h
  split at h
  case h_1 => cases h
  case h_2 hRefusal =>
      cases h
      refine ⟨rfl, rfl, ?_⟩
      rw [answer_renameChannel hId, hRefusal]
      rfl

namespace Access

/- A channel that is read is read with any other room. -/
theorem info_returns_putRoom
    (hId : id.isText = true)
    (h : (info id).Returns remote w state after)
    (room : Room) :
    (info id).Returns remote (w.putRoom id room) room.state
      (w.putRoom id room) := by
  rw [returns_info,
    answer_channelInfo hId (get?_putRoom w id room),
    refusal_putRoom]
  cases hRefusal : w.refusal (.channelInfo id) with
  | error problem =>
      have hRead := (returns_info.mp h).1
      simp only [answer, hRefusal] at hRead
      cases hRead
  | ok _ => exact ⟨rfl, rfl⟩

/-
  After a rename that returns, the channel is read as it was
  returned.  It showed the name before, or the name was
  stored as it is.
-/
theorem rename_returned
    (hId : id.isText = true)
    (hName : name.isText = true)
    (h : (rename id name).Returns remote w state after) :
    (info id).Returns remote after state after ∧
      ((state.name.unescaped = .ok name ∧
          ((rename id name).run remote w).writes = []) ∨
        (state.name = name ∧
          ((rename id name).run remote w).writes ≠ [] ∧
          after.answer (.renameChannel id name) =
            (.ok state, after))) := by
  rw [rename_eq] at h ⊢
  unfold ensure at h
  rcases returns_bind.mp h with ⟨channel, s, hInfo, hRead⟩
  obtain rfl : w = s := (returns_info.mp hInfo).2.symm
  rcases returns_bind.mp hRead with ⟨current, s, hLift, hSet⟩
  obtain rfl : w = s := (returns_lift.mp hLift).2.symm
  have hShown := (returns_lift.mp hLift).1
  have hWrites :
      ((ensure id name (fun state => state.name)
            (.settingName id name)
            ((send (.renameChannel id name)).reporting
              fun failure =>
                .failed (.rename id) failure)).run
          remote w).writes =
        if current == name then []
        else
          (((send (.renameChannel id name)).reporting
            fun failure =>
              .failed (.rename id) failure).run
            remote w).writes :=
    writes_ensure hInfo hShown
  cases hSame : current == name with
  | true =>
      rw [hSame, if_pos rfl] at hSet hWrites
      rcases returns_pure.mp hSet with ⟨rfl, rfl⟩
      refine ⟨hInfo, Or.inl ⟨?_, hWrites⟩⟩
      rw [Datum.beq_eq_decide' hName, decide_eq_true_iff]
        at hSame
      rw [← hSame]
      exact hShown
  | false =>
      rw [hSame, if_neg Bool.false_ne_true] at hSet hWrites
      rw [writes_change _ rfl] at hWrites
      rcases returns_bind.mp hSet with ⟨_, s, hRecord, hSet⟩
      obtain rfl : w = s := (returns_record.mp hRecord).symm
      rcases ends_send.mp
          (returns_reporting.mp hSet).ends with
        ⟨hResult, hAfter, -⟩
      rcases Access.room_of_info hId
          (returns_info.mp hInfo).1 with
        ⟨room, hRoom, -⟩
      have hAnswer :
          (w.putRoom id room).answer
              (.renameChannel id name) =
            (.ok state, after) := by
        rw [putRoom_of_get? hRoom]
        exact Prod.ext hResult.symm hAfter.symm
      rcases answer_renameChannel_again hId hAnswer with
        ⟨rfl, rfl, hAgain⟩
      refine ⟨info_returns_putRoom hId hInfo _,
        Or.inr ⟨rfl, ?_, hAgain⟩⟩
      rw [hWrites]
      exact List.cons_ne_nil _ _

end Access

end ChannelSync

------------------------------------------------------------
-- Checks of the Name
------------------------------------------------------------

namespace ChannelSync

namespace Drift

open Program Workspace

variable {desired : Desired}
variable {observed : Observed}
variable {allowed : Event → Prop}

/- A search puts on record what its tests do, or its find. -/
theorem notes_anyFails
    {test : Datum → Program Bool}
    {event : Datum → Event}
    (hTest : ∀ d, (test d).Notes allowed)
    (hEvent : ∀ d, allowed (event d))
    (ds : List Datum) :
    (anyFails test event ds).Notes allowed := by
  induction ds with
  | nil => trivial
  | cons d rest ih =>
      apply (hTest d).bind
      intro passed
      split
      · exact ih
      · exact ⟨hEvent d, trivial⟩

/- The check of the members records nothing about names. -/
theorem notes_membershipDiffers
    (desired : Desired)
    (observed : Observed) :
    (membershipDiffers desired observed).Notes
      fun event => event ≠ .nameDiffers observed.id := by
  have hEmail :
      ∀ email, (testEmail observed email).Notes
        fun event => event ≠ .nameDiffers observed.id :=
    fun email =>
      ((notes_send _).reporting fun _ => nofun).bind
        fun _ => notes_lift _
  have hMember :
      ∀ userId, (testMember desired userId).Notes
        fun event => event ≠ .nameDiffers observed.id :=
    fun userId =>
      ((notes_send _).reporting fun _ => nofun).bind
        fun _ => notes_lift _
  have hMissing :
      ∀ email,
        Event.memberMissing observed.id email ≠
          .nameDiffers observed.id :=
    fun _ => nofun
  have hSurplus :
      ∀ userId,
        Event.memberSurplus observed.id userId ≠
          .nameDiffers observed.id :=
    fun _ => nofun
  unfold membershipDiffers
  simp only [anyMissing_eq, anySurplus_eq]
  apply (notes_lift _).bind
  intro emails
  apply (notes_anyFails hEmail hMissing emails).bind
  intro missing
  split
  · trivial
  · exact (notes_lift _).bind fun userIds =>
      notes_anyFails hMember hSurplus userIds

/- Where the name is shown, no other name is reported. -/
theorem notes_detected_of_shown
    (h : observed.name.unescaped = .ok desired.name) :
    (detected desired observed).Notes
      fun event => event ≠ .nameDiffers observed.id := by
  unfold detected
  rw [compare_of_shown h]
  apply (notes_lift _).bind
  intro topic
  split
  · exact ⟨nofun, trivial⟩
  · apply (notes_lift _).bind
    intro description
    split
    · exact ⟨nofun, trivial⟩
    · exact notes_membershipDiffers desired observed

/- Where another name is shown, that is all that is found. -/
theorem detected_of_other_name
    {shown : Datum}
    (hDesired : desired.name.isText = true)
    (hShown : observed.name.unescaped = .ok shown)
    (hOther : shown ≠ desired.name) :
    detected desired observed =
      (record (.nameDiffers observed.id) >>= fun _ =>
        pure true) := by
  unfold detected
  exact compare_of_differs hDesired hShown hOther _ _

end Drift

end ChannelSync

------------------------------------------------------------
-- The Second Rename
------------------------------------------------------------

namespace ChannelSync

open Program Workspace

variable {w after : Workspace}
variable {id name shown : Datum}
variable {state : Observed}

/- A name that is shown is settled. -/
theorem Workspace.nameSettled_of_shown
    (hName : name.isText = true)
    (hInfo : (Access.info id).Returns remote w state w)
    (hShown : state.name.unescaped = .ok name) :
    w.NameSettled id name state := by
  have hEnds :
      (Access.rename id name).Ends remote w (.ok state) w
        [⟨.channelInfo id, .ok state⟩] :=
    Access.ends_ensure_shown (Access.returns_info.mp hInfo).1
      hShown BEq.rfl
  refine ⟨hEnds.returns, ?_, ?_⟩
  · simp only [Run.requests, hEnds.exchanges_eq,
      List.map_cons, List.map_nil]
  · intro desired observed s hDesired hObserved hMem
    subst hDesired
    rw [← hObserved] at hShown
    exact (Drift.notes_detected_of_shown hShown).events s _
      hMem rfl

/- A name that was stored and shows another one is not. -/
theorem Workspace.nameUnsettled_of_stored
    (hName : name.isText = true)
    (hInfo : (Access.info id).Returns remote w state w)
    (hStored : state.name = name)
    (hShown : name.unescaped = .ok shown)
    (hOther : shown ≠ name)
    (hAgain :
      w.answer (.renameChannel id name) = (.ok state, w)) :
    w.NameUnsettled id name state := by
  have hDiffers : (shown == name) = false := by
    rw [Datum.beq_eq_decide' hName]
    exact decide_eq_false hOther
  have hSet :
      ((send (.renameChannel id name)).reporting
          fun failure => .failed (.rename id) failure).Ends
        remote w (.ok state) w
        [⟨.renameChannel id name, .ok state⟩] :=
    ends_reporting.mpr (ends_send_of_answer hAgain)
  have hEnds :
      (Access.rename id name).Ends remote w (.ok state) w
        [⟨.channelInfo id, .ok state⟩,
          ⟨.renameChannel id name, .ok state⟩] :=
    Access.ends_ensure_other (Access.returns_info.mp hInfo).1
      (hStored ▸ hShown) hDiffers _ hSet
  refine ⟨hEnds.returns, ?_, ?_⟩
  · simp only [Run.requests, hEnds.exchanges_eq,
      List.map_cons, List.map_nil]
  · intro desired observed s hDesired hObserved
    subst hDesired
    rw [Drift.detected_of_other_name hName
      (hObserved.trans hStored ▸ hShown) hOther]
    exact ⟨returns_record_pure, List.mem_cons_self⟩

/-
  A rename that returned is settled if the name shows itself,
  or if nothing had to be written.
-/
theorem Workspace.rename_repeated
    (hId : id.isText = true)
    (hName : name.isText = true)
    (h : (Access.rename id name).Returns remote w state
      after) :
    after.RenameRepeats id name state
      ((Access.rename id name).run remote w).writes := by
  rcases Access.rename_returned hId hName h with
    ⟨hInfo, ⟨hShown, hNone⟩ | ⟨hStored, hSome, hAgain⟩⟩
  · exact
      { settled := fun _ =>
          nameSettled_of_shown hName hInfo hShown
        unsettled := fun _ _ _ hSome =>
          absurd hNone hSome
        unreadable := fun _ _ hSome => absurd hNone hSome }
  · refine
      { settled := fun hSettled => ?_
        unsettled := fun shown hShown hOther _ =>
          nameUnsettled_of_stored hName hInfo hStored hShown
            hOther hAgain
        unreadable := fun fault hFault _ => ⟨?_, ?_⟩ }
    · have hShown := hSettled.resolve_right hSome
      exact nameSettled_of_shown hName hInfo
        (hStored ▸ hShown)
    · exact (Access.ends_ensure_unreadable
        (Access.returns_info.mp hInfo).1
        (hStored ▸ hFault)).stops
    · intro desired observed s hObserved
      exact Drift.detected_stops
        (hObserved.trans hStored ▸ hFault)

/- A name with the reference of an ampersand. -/
def Datum.referring : Datum :=
  .text "a&amp;b"

/- The sample channel under that name. -/
def Observed.referring : Observed :=
  { Room.sample.state with name := .referring }

/- The sample workspace, with the channel under that name. -/
def Workspace.referring : Workspace :=
  Workspace.sample.putRoom (.text "C1")
    ⟨.referring, Room.sample.members⟩

/- A name that shows another one is not settled. -/
theorem Workspace.rename_repeated_sample :
    (Access.rename (.text "C1") .referring).Returns remote
        Workspace.sample .referring .referring ∧
      Workspace.referring.RenameRepeats (.text "C1")
        .referring .referring
        ((Access.rename (.text "C1") .referring).run remote
          Workspace.sample).writes := by
  have hReturns :
      (Access.rename (.text "C1") .referring).Returns remote
        Workspace.sample .referring .referring :=
    ⟨by rfl, rfl⟩
  exact ⟨hReturns, rename_repeated rfl rfl hReturns⟩

/-
  The rename returns, and yet it is written once more, and
  the check finds another name.
-/
theorem Workspace.rename_recurs :
    ∃ w after : Workspace, ∃ id name state,
      w.Reachable ∧
        (Access.rename id name).Returns remote w state
          after ∧
        ¬ after.NameSettled id name state ∧
        ((Access.rename id name).run remote
          after).writes = [.renameChannel id name] ∧
        ∃ desired observed,
          desired.name = name ∧
            observed.name = state.name ∧
            .nameDiffers observed.id ∈
              ((Drift.detected desired observed).run remote
                after).events := by
  refine ⟨.sample, .referring, .text "C1", .referring,
    .referring, reachable_sample, ⟨by rfl, rfl⟩,
    ?_, by decide +kernel,
    { name := .referring, members := [.text "b@x"] },
    .referring, rfl, rfl, by decide +kernel⟩
  intro hSettled
  have hRequests := hSettled.requests
  revert hRequests
  decide +kernel

end ChannelSync
