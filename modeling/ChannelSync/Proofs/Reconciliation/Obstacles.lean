import ChannelSync.Proofs.Reconciliation.Retry

/-
  What keeps a later run from coming to the same.

  A run can leave something behind that no later run gets
  past.  A name is stored as it is declared, and a stored
  name is read before anything else is done: if it cannot be
  read, no run returns again.

  Key definitions include:
    * `Unrecovered`

  Key theorems include:
    * `not_reconcile_of_unreadable`
    * `reconcile_not_recovers`
-/

------------------------------------------------------------
-- Runs That Are Not Recovered From
------------------------------------------------------------

namespace ChannelSync

/- A run returns, and the same run after it does not. -/
def Unrecovered
    (limits : Limits)
    (desired : Desired)
    (id? : Option Datum)
    (w : Workspace) :
    Prop :=
  ∃ observed : Observed,
    (reconcileUnder limits desired id? {} w).result =
        .ok observed ∧
      ∀ again : Observed,
        (reconcileUnder limits desired id? {}
            (reconcileUnder limits desired id? {}
              w).state).result ≠
          .ok again

end ChannelSync

------------------------------------------------------------
-- Names That Cannot Be Read Back
------------------------------------------------------------

namespace ChannelSync

open Program Workspace

variable {w after : Workspace}
variable {limits : Limits}
variable {desired : Desired}
variable {id : Datum}
variable {room : Room}
variable {observed : Observed}

/-
  A channel is never brought in line once it has a name that
  cannot be read.
-/
theorem not_reconcile_of_unreadable
    (hLimits : limits.Positive)
    (hw : w.WellTyped)
    (hOpen : w.InvitesOpenly)
    (hId : id.isText = true)
    (hDesired : desired.WellTyped)
    (hFound : w.channels.get? id = some room)
    {fault : Fault}
    (hName : room.state.name.unescaped = .error fault) :
    ¬ (reconcile limits desired (some id)).Returns remote w
      observed after := by
  intro h
  rcases returns_bind.mp h with ⟨_, start, hValid, hConverge⟩
  rcases ends_validate_ok hValid.ends with ⟨rfl, -⟩
  have hReturns :
      (converge limits desired id).Returns remote
        (start.putRoom id room) observed after := by
    rw [putRoom_of_get? hFound]
    exact hConverge
  rcases hLimits.members with ⟨size, hSize, hLimit⟩
  have hReady :=
    converge_ready hSize hLimit hLimits hw hId hDesired
      (hw.room_of_get? hId hFound)
      (hw.roomId_of_get? hId hFound) hOpen hReturns
  rcases hReady.settleable.name with ⟨shown, hShown⟩
  rw [hName] at hShown
  cases hShown

/- A declared name that is stored, but cannot be read. -/
def Desired.unreadable : Desired :=
  { Desired.sample with
    name := .text
      (String.ofList
        ('&' :: '#' :: List.replicate 4301 '1')) }

theorem Desired.wellTyped_unreadable :
    Desired.unreadable.WellTyped :=
  { Desired.wellTyped_sample with name := rfl }

/- The name is a reference with too many digits. -/
theorem Desired.unescaped_unreadable :
    Desired.unreadable.name.unescaped =
      .error (Numeral.tooLong 4301) := by
  have hDigits :
      ∀ c ∈ List.replicate 4301 '1',
        (Digit.decimal? c).isSome = true := by
    intro c hc
    rw [List.eq_of_mem_replicate hc]
    rfl
  have hLong :
      Numeral.digitLimit <
        (List.replicate 4301 '1').length := by
    rw [List.length_replicate]
    decide
  unfold Desired.unreadable
  simp only [Datum.unescaped_text,
    unescape_tooLong hDigits hLong, List.length_replicate]
  rfl

/- The one declared user can join the other one. -/
theorem staffable_sample :
    Workspace.sample.Staffable 1 Desired.sample.members
      [.text "U2"] := by
  have hUser :
      Workspace.sample.userByEmail (.text "a@x") =
        .ok { id := .text "U1", email := .text "a@x" } :=
    rfl
  have hOnly :
      ∀ email ∈ Desired.sample.members,
        email = .text "a@x" :=
    fun _ hEmail => List.mem_singleton.mp hEmail
  refine
    ⟨?_, ?_, [.text "U2", .text "U1"], ?_, ?_, ?_⟩
  · intro email hEmail
    rw [hOnly email hEmail]
    exact ⟨_, hUser⟩
  · intro other hMember
    rw [List.mem_singleton.mp hMember]
    exact ⟨_, rfl⟩
  · refine Paging.writable_of_length_le ?_ 0
    exact Numeral.one_lt_numberLimit
  · intro other hMember
    rw [List.mem_singleton.mp hMember]
    exact List.mem_cons_self
  · intro other h
    rcases h with ⟨-, email, hEmail, user, hFound, rfl⟩
    rw [hOnly email hEmail, hUser] at hFound
    cases hFound
    exact List.mem_cons_of_mem _ List.mem_cons_self

/- The small workspace is ready for the name to be set. -/
theorem ready_unreadable :
    Workspace.sample.Ready 1 Desired.unreadable
      (.text "C1") Room.sample where
  settleable :=
    { name := ⟨_, rfl⟩
      topic := ⟨_, rfl⟩
      description := ⟨_, rfl⟩
      free := Or.inr (by
        simp [nameUsed, Workspace.sample, bne]) }
  staffable := staffable_sample

/- Once the name is set, it cannot be read. -/
theorem unescaped_set_unreadable :
    (Desired.unreadable.settle
        Room.sample.active.state).name.unescaped =
      .error (Numeral.tooLong 4301) := by
  rw [Desired.settle_name]
  rcases Datum.aligned_cases Room.sample.state.name
      Desired.unreadable.name Desired.unreadable.name with
    ⟨hShows, -⟩ | ⟨-, hAligned⟩
  · have hShown := (Datum.shows_iff rfl).mp hShows
    have hLunch :
        Room.sample.state.name.unescaped =
          .ok Room.sample.state.name :=
      rfl
    have hSame := Except.ok.inj (hLunch.symm.trans hShown)
    rw [hSame, Desired.unescaped_unreadable] at hShown
    cases hShown
  · apply (congrArg Datum.unescaped hAligned).trans
    exact Desired.unescaped_unreadable

/-
  The name is set by the first run, and keeps every later
  run from returning.
-/
theorem unrecovered_unreadable :
    Unrecovered Limits.sample Desired.unreadable
      (some (.text "C1")) Workspace.sample := by
  have hw := reachable_sample.wellTyped
  have hOpen := no_failures_sample
  have hInvites := invitesOpenly_of_no_failures hOpen
  have hLimits := Limits.positive_sample
  have hDesired := Desired.wellTyped_unreadable
  have hRoom : Room.sample.WellTyped :=
    hw.room _ List.mem_cons_self
  rcases converge_returns (by decide) rfl hLimits hOpen hw rfl
      hDesired hRoom rfl (by simp [Room.sample])
      ready_unreadable with
    ⟨observed, after, hConverge⟩
  rcases converge_returned hLimits hw rfl hDesired hRoom rfl
      (by simp [Room.sample]) hInvites hConverge with
    ⟨last, rfl, hTyped, hState, -⟩
  have hReturns :
      (reconcile Limits.sample Desired.unreadable
          (some (.text "C1"))).Returns remote
        Workspace.sample observed
        (Workspace.sample.putRoom (.text "C1") last) :=
    returns_bind.mpr ⟨(), _, returns_pure_self,
      hConverge⟩
  have hName :
      last.state.name.unescaped =
        .error (Numeral.tooLong 4301) := by
    rw [hState]
    exact unescaped_set_unreadable
  have hRoomId : last.state.id = .text "C1" :=
    congrArg Observed.id hState
  have hTypedAfter :=
    (hw.putRoom rfl hTyped hRoomId).withFailures {}
  have hFound :=
    get?_putRoom Workspace.sample (.text "C1") last
  have hFirst :
      (reconcileUnder Limits.sample Desired.unreadable
          (some (.text "C1")) {} Workspace.sample).state =
        Workspace.sample.putRoom (.text "C1") last :=
    hReturns.state_eq
  refine ⟨observed, hReturns.result_eq, ?_⟩
  rw [hFirst]
  intro again hAgain
  exact not_reconcile_of_unreadable hLimits hTypedAfter
    (invitesOpenly_of_no_failures rfl) rfl hDesired hFound
    hName ⟨hAgain, rfl⟩

/-
  Not every reconciliation is recovered from: a name that
  cannot be read stays, though nothing is laid in.
-/
theorem reconcile_not_recovers :
    Workspace.sample.Reachable ∧
      Workspace.sample.MembersDistinct ∧
      Limits.sample.Positive ∧
      Desired.unreadable.WellTyped ∧
      Unrecovered Limits.sample Desired.unreadable
        (some (.text "C1")) Workspace.sample :=
  ⟨reachable_sample, membersDistinct_sample,
    Limits.positive_sample, Desired.wellTyped_unreadable,
    unrecovered_unreadable⟩

end ChannelSync
