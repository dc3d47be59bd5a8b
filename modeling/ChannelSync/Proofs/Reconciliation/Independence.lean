import ChannelSync.Proofs.Reconciliation.Concerns
import ChannelSync.Proofs.Run.Interleaving

/-
  Reconciliations of two channels at the same time.

  A channel must not be reconciled twice at a time, but two
  channels may be reconciled side by side.  Each of the two
  runs only changes the room of its own channel, and of the
  other room it can see no more than the name.  As long as no
  run gives its channel a name that the other channel has or
  is to get, each of them makes the requests and gets the
  answers that it would alone, in whatever order they come.

  Key definitions include:
    * `Workspace.sideBySide`
    * `Workspace.Undisturbed`
    * `Workspace.Independent`
    * `Workspace.Coexist`
    * `Workspace.Apart`

  Key theorems include:
    * `Workspace.Coexist.isolates`
    * `reconcile_independent`
-/

------------------------------------------------------------
-- Runs Side by Side
------------------------------------------------------------

namespace ChannelSync

namespace Workspace

/- Two programs that take turns in a workspace. -/
def sideBySide
    (w : Workspace)
    (p q : Program Observed)
    (schedule : List Side) :
    Pair Workspace Observed Observed :=
  Pair.interleave remote schedule ⟨p.start, q.start, w⟩

/-
  A process that goes its way in a shared workspace as if it
  were alone in the workspace of the start.  It keeps to the
  run that it would have there, comes to its end if it gets
  enough turns, and then its channel is as that run leaves
  it.
-/
structure Undisturbed
    (w : Workspace)
    (p : Program Observed)
    (id : Datum)
    (turns : Nat)
    (process : Process Observed)
    (shared : Workspace) :
    Prop where
  follows : process.Follows (p.run remote w)
  ends :
    p.steps remote w ≤ turns → process.result?.isSome = true
  room :
    process.result?.isSome = true →
      shared.channels.get? id =
        (p.run remote w).state.channels.get? id

/-
  Two programs that do not get in each other's way when they
  take turns.  Neither of them is disturbed, no channel but
  theirs is ever touched, and nothing else changes.
-/
structure Independent
    (w : Workspace)
    (p q : Program Observed)
    (id other : Datum)
    (schedule : List Side) :
    Prop where
  first :
    w.Undisturbed p id (schedule.count .first)
      (w.sideBySide p q schedule).first
      (w.sideBySide p q schedule).state
  second :
    w.Undisturbed q other (schedule.count .second)
      (w.sideBySide p q schedule).second
      (w.sideBySide p q schedule).state
  otherRooms :
    ∀ key, (key == id) = false → (key == other) = false →
      (w.sideBySide p q schedule).state.channels.get? key =
        w.channels.get? key
  keys :
    (w.sideBySide p q schedule).state.channels.keys =
      w.channels.keys
  surroundings :
    ∃ channels,
      (w.sideBySide p q schedule).state =
        { w with channels := channels }

end Workspace

end ChannelSync

------------------------------------------------------------
-- Two Channels Apart
------------------------------------------------------------

namespace ChannelSync

namespace Workspace

/-
  Two channels that can be reconciled side by side: neither
  of them has the name that is declared for the other one,
  and the declared names differ.
-/
structure Coexist
    (w : Workspace)
    (id other name name' : Datum) :
    Prop where
  ids : (id == other) = false
  names : (name == name') = false
  room :
    ∃ room, w.channels.get? id = some room ∧
      (room.state.name == name') = false
  room' :
    ∃ room', w.channels.get? other = some room' ∧
      (room'.state.name == name) = false

/-
  The workspace that two runs have made together, and those
  that each of them would have made alone.  Neither has given
  its channel the name that is declared for the other one.
-/
inductive Apart
    (w : Workspace)
    (id other name name' : Datum) :
    Workspace → Workspace → Workspace → Prop where
  | rooms
      {room room' : Room}
      (h : (room.state.name == name') = false)
      (h' : (room'.state.name == name) = false) :
      Apart w id other name name'
        ((w.putRoom id room).putRoom other room')
        (w.putRoom id room)
        (w.putRoom other room')

variable {w s t t' : Workspace}
variable {id other name name' : Datum}

/- It does not matter which of the two comes first. -/
theorem Coexist.symm
    (h : w.Coexist id other name name') :
    w.Coexist other id name' name where
  ids := BEq.symm_false h.ids
  names := BEq.symm_false h.names
  room := h.room'
  room' := h.room

/- Nor does it matter for what they have made. -/
theorem Coexist.apart_symm
    (h : w.Coexist id other name name')
    (hApart : w.Apart id other name name' s t t') :
    w.Apart other id name' name s t' t := by
  rcases hApart with ⟨hRoom, hRoom'⟩
  rcases h.room with ⟨old, hKnown, -⟩
  rw [putRoom_comm hKnown h.ids]
  exact .rooms hRoom' hRoom

/- At first there is one workspace. -/
theorem Coexist.apart
    (h : w.Coexist id other name name') :
    w.Apart id other name name' w w w := by
  rcases h.room with ⟨room, hRoom, hName⟩
  rcases h.room' with ⟨room', hRoom', hName'⟩
  have hApart :
      w.Apart id other name name' _ _ _ :=
    .rooms hName hName'
  rwa [putRoom_of_get? hRoom, putRoom_of_get? hRoom']
    at hApart

/-
  The requests of the second run are answered as if it were
  alone, and leave the channels apart.
-/
theorem Coexist.isolates
    (h : w.Coexist id other name name')
    (t : Workspace) :
    remote.Isolates (Request.Confined other name')
      (fun listing => listing = .members other)
      (fun s t' => w.Apart id other name name' s t t') where
  answer := by
    intro s t' request hApart hRequest
    rcases hApart with @⟨room, room', hRoom, hRoom'⟩
    rcases h.room with ⟨old, hKnown, hOld⟩
    have hBacks :
        (w.putRoom id room).Backs w other name' :=
      { users := rfl
        failures := rfl
        botId := rfl
        nameUsed :=
          nameUsed_putRoom_of_ne hKnown hOld hRoom _ }
    rcases hBacks.goesAlike_answer hRequest room' with
      ⟨answer, next, hAlone, hShared, hNamed⟩
    have hNext : (next.state.name == name) = false := by
      rcases hNamed with hSame | hNew
      · rw [hSame, hRoom']
      · rw [hNew, BEq.symm_false h.names]
    simp only [remote] at hAlone hShared ⊢
    rw [hAlone, hShared]
    exact ⟨rfl, .rooms hRoom hNext⟩
  pageBound := by
    intro s t' listing limit hApart hListing
    rcases hApart with @⟨room, room', -, -⟩
    subst hListing
    exact pageBound_in_front _ _ other room' limit

/- So are those of the first one. -/
theorem Coexist.isolates_first
    (h : w.Coexist id other name name')
    (t' : Workspace) :
    remote.Isolates (Request.Confined id name)
      (fun listing => listing = .members id)
      (fun s t => w.Apart id other name name' s t t') where
  answer := by
    intro s t request hApart hRequest
    rcases (h.symm.isolates t').answer s t request
      (h.apart_symm hApart) hRequest with
      ⟨hAnswer, hNext⟩
    exact ⟨hAnswer, h.symm.apart_symm hNext⟩
  pageBound := fun s t listing limit hApart hListing =>
    (h.symm.isolates t').pageBound s t listing limit
      (h.apart_symm hApart) hListing

end Workspace

end ChannelSync

------------------------------------------------------------
-- Independence
------------------------------------------------------------

namespace ChannelSync

namespace Workspace

variable {w s t t' : Workspace}
variable {id other name name' : Datum}

/- Two runs leave the channels as each of them has them. -/
theorem Coexist.rooms
    (h : w.Coexist id other name name')
    (hApart : w.Apart id other name name' s t t') :
    s.channels.get? id = t.channels.get? id ∧
      s.channels.get? other = t'.channels.get? other := by
  rcases hApart with ⟨-, -⟩
  simp [get?_putRoom_of_ne h.ids]

/- They leave the other channels as they were. -/
theorem Apart.otherRooms
    (h : w.Apart id other name name' s t t')
    {key : Datum}
    (hKey : (key == id) = false)
    (hOther : (key == other) = false) :
    s.channels.get? key = w.channels.get? key := by
  rcases h with ⟨-, -⟩
  rw [get?_putRoom_of_ne hOther, get?_putRoom_of_ne hKey]

/- They leave all but the channels as it was. -/
theorem Apart.surroundings
    (h : w.Apart id other name name' s t t') :
    ∃ channels, s = { w with channels := channels } := by
  rcases h with ⟨-, -⟩
  exact ⟨_, rfl⟩

/- Neither brings a new channel. -/
theorem Coexist.keys
    (h : w.Coexist id other name name')
    (hApart : w.Apart id other name name' s t t') :
    s.channels.keys = w.channels.keys := by
  rcases hApart with @⟨room, room', -, -⟩
  rcases h.room with ⟨old, hRoom, -⟩
  rcases h.room' with ⟨old', hRoom', -⟩
  have hFound :
      (w.putRoom id room).channels.get? other = some old' := by
    rw [get?_putRoom_of_ne (BEq.symm_false h.ids), hRoom']
  rw [keys_putRoom hFound, keys_putRoom hRoom]

/- Programs that keep to such channels are independent. -/
theorem Coexist.independent
    (h : w.Coexist id other name name')
    {p q : Program Observed}
    (hFirst : p.Confined id name)
    (hSecond : q.Confined other name')
    (schedule : List Side) :
    w.Independent p q id other schedule := by
  have hTurns :=
    @Pair.interleave_isolated _ _ _ remote _ _ _ _ _
      h.isolates_first h.isolates schedule
      ⟨p.start, q.start, w⟩ w w hFirst hSecond h.apart
  rcases hTurns with ⟨hP, hQ, hApart⟩
  rcases h.rooms hApart with ⟨hRoom, hRoom'⟩
  refine
    { first := ⟨?_, ?_, ?_⟩
      second := ⟨?_, ?_, ?_⟩
      otherRooms := fun _ hKey hOther =>
        hApart.otherRooms hKey hOther
      keys := h.keys hApart
      surroundings := ?_ }
  · exact hP ▸ Process.follows_advance _ p w
  · exact fun hTurns => hP ▸ Process.ended_advance hTurns
  · intro hEnded
    rw [← Process.state_advance (hP ▸ hEnded)]
    exact hRoom
  · exact hQ ▸ Process.follows_advance _ q w
  · exact fun hTurns => hQ ▸ Process.ended_advance hTurns
  · intro hEnded
    rw [← Process.state_advance (hQ ▸ hEnded)]
    exact hRoom'
  · exact hApart.surroundings

end Workspace

open Workspace

variable {w : Workspace}
variable {limits limits' : Limits}
variable {desired desired' : Desired}
variable {id other : Datum}
variable {room room' : Room}

/-
  Reconciliations of two channels do not interfere, however
  they take turns.  The names have to be different: those
  that are declared, and each of them from the name that the
  other channel has at first.
-/
theorem reconcile_independent
    (hRoom : w.channels.get? id = some room)
    (hRoom' : w.channels.get? other = some room')
    (hIds : (id == other) = false)
    (hNames : (desired.name == desired'.name) = false)
    (hName : (room'.state.name == desired.name) = false)
    (hName' : (room.state.name == desired'.name) = false)
    (schedule : List Side) :
    w.Independent
      (reconcile limits desired (some id))
      (reconcile limits' desired' (some other))
      id other schedule := by
  have hCoexist :
      w.Coexist id other desired.name desired'.name :=
    { ids := hIds
      names := hNames
      room := ⟨room, hRoom, hName'⟩
      room' := ⟨room', hRoom', hName⟩ }
  exact hCoexist.independent confined_reconcile
    confined_reconcile schedule

end ChannelSync

------------------------------------------------------------
-- Two Channels of a Small Workspace
------------------------------------------------------------

namespace ChannelSync

open Workspace

/- A second channel, with the other user in it. -/
def Seed.neighbour : Seed where
  name := .text "tea"
  id := .text "C2"
  members := .list [.text "U1"]

/- What is declared for it. -/
def Desired.neighbour : Desired where
  name := .text "supper"
  topic := .text "soup & bread"
  members := [.text "b@x"]

/- The small workspace with both channels. -/
def Workspace.neighbours : Workspace :=
  (Workspace.sample.addChannel Seed.neighbour).2

/- Turn by turn. -/
def Side.alternating (n : Nat) : List Side :=
  (List.replicate n [Side.first, Side.second]).flatten

/- Fifty turns are more than either run needs. -/
example :
    (reconcile Limits.sample Desired.sample
        (some (.text "C1"))).steps remote neighbours ≤ 50 ∧
      (reconcile Limits.sample Desired.neighbour
        (some (.text "C2"))).steps remote neighbours ≤
          50 := by
  decide +kernel

/- Both channels are renamed and swap their members. -/
theorem reconcile_independent_sample :
    neighbours.Independent
      (reconcile Limits.sample Desired.sample
        (some (.text "C1")))
      (reconcile Limits.sample Desired.neighbour
        (some (.text "C2")))
      (.text "C1") (.text "C2") (Side.alternating 50) :=
  reconcile_independent rfl rfl (by decide) (by decide)
    (by decide) (by decide) _

end ChannelSync
