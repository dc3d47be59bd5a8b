import ChannelSync.Proofs.Access.Setting
import ChannelSync.Proofs.Reconciliation.Target
import ChannelSync.Proofs.Workspace.Neighbours

/-
  Topics and descriptions.

  The topic and the description of a channel are set alike:
  the channel is read, and the text is stored only if the
  field shows another one.  A call of a setter can go in five
  ways, and only in one of them the workspace changes.

  What is stored is read back as the text that was set.  So a
  second call finds it there, and in a sequence of calls with
  one text for each field, each field is written once at
  most, whatever failures are laid in on the way.

  Key definitions include:
    * `TextField`
    * `TextField.Goes`
    * `TextField.SetsMinimally`
    * `Workspace.setEach`

  Key theorems include:
    * `TextField.store_cases`
    * `TextField.goes_set`
    * `TextField.Goes.shows`
    * `Workspace.setEach_shown`
    * `Workspace.setters_minimal`
-/

------------------------------------------------------------
-- Fields
------------------------------------------------------------

namespace ChannelSync

/- An attribute of a channel that is stored as a text. -/
inductive TextField where
  | topic
  | description
deriving DecidableEq

namespace TextField

/- What is stored in a field. -/
def of : TextField → Observed → Datum
  | topic, state => state.topic
  | description, state => state.description

/- Store something in a field. -/
def put : TextField → Datum → Observed → Observed
  | topic, stored, state =>
      { state with topic := stored }
  | description, stored, state =>
      { state with description := stored }

/- The request that sets a field. -/
def request : TextField → Datum → Datum → Request
  | topic, id, text => .setTopic id text
  | description, id, text => .setPurpose id text

/- The answer of a workspace to that request. -/
def store :
    TextField → Workspace → Datum → Datum →
      Except Problem Observed × Workspace
  | topic, w, id, text => w.answer (.setTopic id text)
  | description, w, id, text => w.answer (.setPurpose id text)

/- The request with an answer. -/
def exchange :
    TextField → Datum → Datum → Except Problem Observed →
      Exchange
  | topic, id, text, answer => ⟨.setTopic id text, answer⟩
  | description, id, text, answer =>
      ⟨.setPurpose id text, answer⟩

/- The setter of a field. -/
def set : TextField → Datum → Datum → Program Observed
  | topic => Access.setTopic
  | description => Access.setDescription

/- An exchange has changed a field. -/
def changed : TextField → Exchange → Bool
  | topic, ⟨.setTopic _ _, .ok _⟩ => true
  | description, ⟨.setPurpose _ _, .ok _⟩ => true
  | _, _ => false

variable {field other : TextField}

/- What was stored is in the field. -/
@[simp]
theorem of_put
    (field : TextField)
    (stored : Datum)
    (state : Observed) :
    field.of (field.put stored state) = stored := by
  cases field <;> rfl

/- The other field is left alone. -/
theorem of_put_of_ne
    (h : other ≠ field)
    (stored : Datum)
    (state : Observed) :
    other.of (field.put stored state) = other.of state := by
  cases field <;> cases other <;>
    first | rfl | exact absurd rfl h

/- Nothing but the field changes. -/
@[simp]
theorem put_of
    (field : TextField)
    (stored : Datum)
    (state : Observed) :
    field.put (field.of state) (field.put stored state) =
      state := by
  cases field <;> rfl

/- An exchange is about its request. -/
@[simp]
theorem request_exchange
    (field : TextField)
    (id text : Datum)
    (answer : Except Problem Observed) :
    (field.exchange id text answer).request =
      field.request id text := by
  cases field <;> rfl

/- A request that is refused changes no field. -/
@[simp]
theorem changed_error
    (other field : TextField)
    (id text : Datum)
    (problem : Problem) :
    other.changed (field.exchange id text (.error problem)) =
      false := by
  cases other <;> cases field <;> rfl

/- One that is answered changes its own field. -/
@[simp]
theorem changed_ok
    (other field : TextField)
    (id text : Datum)
    (state : Observed) :
    other.changed (field.exchange id text (.ok state)) =
      decide (other = field) := by
  cases other <;> cases field <;> rfl

/- Reading a channel changes none. -/
@[simp]
theorem changed_info
    (field : TextField)
    (id : Datum)
    (answer : Except Problem Observed) :
    field.changed ⟨.channelInfo id, answer⟩ = false := by
  cases field <;> rfl

end TextField

end ChannelSync

------------------------------------------------------------
-- Storing a Text
------------------------------------------------------------

namespace ChannelSync

namespace TextField

open Workspace

variable {field : TextField}
variable {w after : Workspace}
variable {id text : Datum}
variable {room : Room}
variable {state : Observed}

/- A text is stored in its stored form, if not refused. -/
theorem store_putRoom
    (hId : id.isText = true)
    (hText : text.isText = true)
    (field : TextField)
    (w : Workspace)
    (room : Room) :
    field.store (w.putRoom id room) id text =
      w.edited id room
        (room.edit (field.put text.storedForm))
        (w.refusal (field.request id text))
        (field.put text.storedForm room.state) := by
  cases field with
  | topic => exact answer_setTopic hId w room hText
  | description => exact answer_setPurpose hId w room hText

/- So a text is stored, or nothing is changed. -/
theorem store_cases
    (hId : id.isText = true)
    (hText : text.isText = true)
    (hRoom : w.channels.get? id = some room) :
    (∃ problem, field.store w id text = (.error problem, w)) ∨
      field.store w id text =
        (.ok (field.put text.storedForm room.state),
          w.putRoom id
            (room.edit (field.put text.storedForm))) := by
  have hStore := field.store_putRoom hId hText w room
  rw [putRoom_of_get? hRoom] at hStore
  rw [hStore]
  unfold edited
  cases w.refusal (field.request id text) with
  | error problem =>
      rw [putRoom_of_get? hRoom]
      exact Or.inl ⟨problem, rfl⟩
  | ok _ => exact Or.inr rfl

end TextField

end ChannelSync

------------------------------------------------------------
-- How a Call Goes
------------------------------------------------------------

namespace ChannelSync

namespace TextField

open Program Workspace

/-
  The ways in which a call of a setter goes: the channel is
  not read, the field cannot be read, the field shows the
  text, the text is refused, or it is stored.
-/
inductive Goes
    (field : TextField)
    (w : Workspace)
    (id text : Datum) :
    Except Problem Observed → Workspace → List Exchange →
      Prop where
  | unread
      {problem : Problem}
      (hRead :
        (w.answer (.channelInfo id)).1 = .error problem) :
      Goes field w id text (.error problem) w
        [⟨.channelInfo id, .error problem⟩]
  | unreadable
      {room : Room}
      {fault : Fault}
      (hRead :
        (w.answer (.channelInfo id)).1 = .ok room.state)
      (hShown :
        (field.of room.state).unescaped = .error fault) :
      Goes field w id text (.error (.fault fault)) w
        [⟨.channelInfo id, .ok room.state⟩]
  | shown
      {room : Room}
      (hRoom : w.channels.get? id = some room)
      (hRead :
        (w.answer (.channelInfo id)).1 = .ok room.state)
      (hShown :
        (field.of room.state).unescaped = .ok text) :
      Goes field w id text (.ok room.state) w
        [⟨.channelInfo id, .ok room.state⟩]
  | refused
      {room : Room}
      {current : Datum}
      {problem : Problem}
      (hRead :
        (w.answer (.channelInfo id)).1 = .ok room.state)
      (hShown :
        (field.of room.state).unescaped = .ok current)
      (hOther : current ≠ text) :
      Goes field w id text (.error problem) w
        [⟨.channelInfo id, .ok room.state⟩,
          field.exchange id text (.error problem)]
  | stored
      {room : Room}
      {current : Datum}
      (hRoom : w.channels.get? id = some room)
      (hRead :
        (w.answer (.channelInfo id)).1 = .ok room.state)
      (hShown :
        (field.of room.state).unescaped = .ok current)
      (hOther : current ≠ text) :
      Goes field w id text
        (.ok (field.put text.storedForm room.state))
        (w.putRoom id
          (room.edit (field.put text.storedForm)))
        [⟨.channelInfo id, .ok room.state⟩,
          field.exchange id text
            (.ok (field.put text.storedForm room.state))]

variable {field : TextField}
variable {w after : Workspace}
variable {id text : Datum}
variable {room : Room}

/- A setter reads first, and then may send its request. -/
theorem exists_set_eq
    (field : TextField)
    (id text : Datum) :
    ∃ event send,
      field.set id text =
          Access.ensure id text field.of event send ∧
        ∀ w : Workspace,
          send.Ends remote w (field.store w id text).1
            (field.store w id text).2
            [field.exchange id text
              (field.store w id text).1] := by
  cases field with
  | topic =>
      refine ⟨_, _, Access.setTopic_eq id text, ?_⟩
      intro w
      exact ends_reporting.mpr (ends_send_of_answer rfl)
  | description =>
      refine ⟨_, _, Access.setDescription_eq id text, ?_⟩
      intro w
      exact ends_reporting.mpr (ends_send_of_answer rfl)

/- Every call goes in one of these ways. -/
theorem goes_set
    (hId : id.isText = true)
    (hText : text.isText = true)
    (field : TextField)
    (w : Workspace) :
    ∃ result after exchanges,
      (field.set id text).Ends remote w result after
          exchanges ∧
        field.Goes w id text result after exchanges := by
  rcases field.exists_set_eq id text with
    ⟨event, send, hSet, hSend⟩
  rw [hSet]
  cases hRead : (w.answer (.channelInfo id)).1 with
  | error problem =>
      exact ⟨_, _, _, Access.ends_ensure_unread hRead,
        .unread hRead⟩
  | ok state =>
      rcases Access.room_of_info hId hRead with
        ⟨room, hRoom, rfl⟩
      cases hShown : (field.of room.state).unescaped with
      | error fault =>
          exact ⟨_, _, _,
            Access.ends_ensure_unreadable hRead hShown,
            .unreadable hRead hShown⟩
      | ok current =>
          by_cases hSame : current = text
          · subst hSame
            exact ⟨_, _, _,
              Access.ends_ensure_shown hRead hShown BEq.rfl,
              .shown hRoom hRead hShown⟩
          · have hDiffers : (current == text) = false := by
              rw [Datum.beq_eq_decide' hText]
              exact decide_eq_false hSame
            have hEnds :=
              Access.ends_ensure_other hRead hShown hDiffers
                event (hSend w)
            rcases store_cases hId hText hRoom with
              ⟨problem, hStore⟩ | hStore
            · rw [hStore] at hEnds
              exact ⟨.error problem, w, _, hEnds,
                .refused hRead hShown hSame⟩
            · rw [hStore] at hEnds
              exact ⟨_, _, _, hEnds,
                .stored hRoom hRead hShown hSame⟩

end TextField

end ChannelSync

------------------------------------------------------------
-- One Call
------------------------------------------------------------

namespace ChannelSync

namespace TextField

open Program Workspace

/- The channel is read, and the field shows another text. -/
def Differs
    (field : TextField)
    (w : Workspace)
    (id text : Datum) :
    Prop :=
  ∃ state current,
    (w.answer (.channelInfo id)).1 = .ok state ∧
      (field.of state).unescaped = .ok current ∧
      current ≠ text

/-
  A room is left with a state whose field shows the text.
  Nothing but the field may have changed, neither in the
  room nor in the rest of the workspace.
-/
structure LeavesShown
    (field : TextField)
    (w after : Workspace)
    (id text : Datum)
    (room : Room)
    (state : Observed) :
    Prop where
  before : w.channels.get? id = some room
  putRoom : after = w.putRoom id ⟨state, room.members⟩
  stored :
    after.channels.get? id = some ⟨state, room.members⟩
  others :
    ∀ other, (other == id) = false →
      after.channels.get? other = w.channels.get? other
  fields : field.put (field.of room.state) state = room.state
  shown : (field.of state).unescaped = .ok text

/-
  A call of a setter reads the channel, and writes exactly if
  the field shows another text.  It returns what is stored
  then, or changes nothing.
-/
structure SetsMinimally
    (field : TextField)
    (w : Workspace)
    (id text : Datum)
    (run : Run Workspace Observed) :
    Prop where
  writes :
    field.Differs w id text →
      run.requests = [.channelInfo id, field.request id text]
  silent :
    ¬ field.Differs w id text →
      run.requests = [.channelInfo id]
  returned :
    ∀ state, run.result = .ok state →
      ∃ room,
        field.LeavesShown w run.state id text room state
  raised :
    ∀ problem, run.result = .error problem → run.state = w

variable {field : TextField}
variable {w after : Workspace}
variable {id text : Datum}
variable {room : Room}
variable {result : Except Problem Observed}
variable {exchanges : List Exchange}

/- What shows the text does not differ from it. -/
theorem not_differs_of_shown
    {state : Observed}
    (hRead : (w.answer (.channelInfo id)).1 = .ok state)
    (hShown : (field.of state).unescaped = .ok text) :
    ¬ field.Differs w id text := by
  intro hDiffers
  rcases hDiffers with
    ⟨state', current, hRead', hShown', hOther⟩
  cases hRead.symm.trans hRead'
  cases hShown.symm.trans hShown'
  exact hOther rfl

/- A write is sent exactly if the field differs. -/
theorem Goes.requests
    (h : field.Goes w id text result after exchanges) :
    (field.Differs w id text ∧
        exchanges.map (fun x => x.request) =
          [.channelInfo id, field.request id text]) ∨
      (¬ field.Differs w id text ∧
        exchanges.map (fun x => x.request) =
          [.channelInfo id]) := by
  cases h with
  | unread hRead =>
      refine Or.inr ⟨?_, rfl⟩
      rintro ⟨state, current, hRead', -⟩
      cases hRead.symm.trans hRead'
  | unreadable hRead hShown =>
      refine Or.inr ⟨?_, rfl⟩
      rintro ⟨state, current, hRead', hShown', -⟩
      cases hRead.symm.trans hRead'
      cases hShown.symm.trans hShown'
  | shown hRoom hRead hShown =>
      exact Or.inr ⟨not_differs_of_shown hRead hShown, rfl⟩
  | refused hRead hShown hOther =>
      exact Or.inl ⟨⟨_, _, hRead, hShown, hOther⟩, by simp⟩
  | stored hRoom hRead hShown hOther =>
      exact Or.inl ⟨⟨_, _, hRead, hShown, hOther⟩, by simp⟩

/- A room that is put shows its new field, and only that. -/
theorem leavesShown_putRoom
    (field : TextField)
    (hRoom : w.channels.get? id = some room)
    {state : Observed}
    (hFields :
      field.put (field.of room.state) state = room.state)
    (hShown : (field.of state).unescaped = .ok text) :
    field.LeavesShown w (w.putRoom id ⟨state, room.members⟩)
      id text room state where
  before := hRoom
  putRoom := rfl
  stored := get?_putRoom w id _
  others := fun _ hOther => get?_putRoom_of_ne hOther w _
  fields := hFields
  shown := hShown

/- What is returned is stored, and shows the text. -/
theorem Goes.returned
    (hText : text.isText = true)
    {state : Observed}
    (h : field.Goes w id text (.ok state) after exchanges) :
    ∃ room, field.LeavesShown w after id text room state := by
  cases h with
  | @shown room hRoom hRead hShown =>
      have hLeaves :=
        field.leavesShown_putRoom hRoom
          (by cases field <;> rfl) hShown
      rw [putRoom_of_get? hRoom] at hLeaves
      exact ⟨room, hLeaves⟩
  | @stored room current hRoom hRead hShown hOther =>
      refine ⟨room, field.leavesShown_putRoom hRoom
        (put_of field _ _) ?_⟩
      rw [of_put]
      exact Datum.unescaped_storedForm hText

/- A call that has a problem changes nothing. -/
theorem Goes.raised
    {problem : Problem}
    (h : field.Goes w id text (.error problem) after
      exchanges) :
    after = w := by
  cases h <;> rfl

/- A call of a setter is minimal. -/
theorem setsMinimally
    (hId : id.isText = true)
    (hText : text.isText = true)
    (field : TextField)
    (w : Workspace) :
    field.SetsMinimally w id text
      ((field.set id text).run remote w) := by
  rcases goes_set hId hText field w with
    ⟨result, after, exchanges, hEnds, hGoes⟩
  have hRequests :
      ((field.set id text).run remote w).requests =
        exchanges.map fun x => x.request :=
    congrArg _ hEnds.exchanges_eq
  refine
    { writes := fun hDiffers => ?_
      silent := fun hSame => ?_
      returned := fun state hState => ?_
      raised := fun problem hProblem => ?_ }
  · rcases hGoes.requests with ⟨-, hSent⟩ | ⟨hSame, -⟩
    · exact hRequests.trans hSent
    · exact absurd hDiffers hSame
  · rcases hGoes.requests with ⟨hDiffers, -⟩ | ⟨-, hSent⟩
    · exact absurd hDiffers hSame
    · exact hRequests.trans hSent
  · cases hEnds.result_eq.symm.trans hState
    rw [hEnds.state_eq]
    exact hGoes.returned hText
  · cases hEnds.result_eq.symm.trans hProblem
    rw [hEnds.state_eq]
    exact hGoes.raised

end TextField

end ChannelSync

------------------------------------------------------------
-- Sequences of Calls
------------------------------------------------------------

namespace ChannelSync

open Program Workspace

/-
  Call setters for a channel one after the other, each of
  them with the failures that are laid in by then.  There is
  one text for each field.  Whatever comes out of a call, the
  next one is made.
-/
def Workspace.setEach
    (w : Workspace)
    (id : Datum)
    (texts : TextField → Datum) :
    List (Table Trigger Failure × TextField) →
      List Exchange × Workspace
  | [] => ([], w)
  | (failures, field) :: rest =>
      let run :=
        (field.set id (texts field)).run remote
          (w.withFailures failures)
      let later := run.state.setEach id texts rest
      (run.exchanges ++ later.1, later.2)

namespace TextField

/- A field of a channel shows a text. -/
def Shows
    (field : TextField)
    (w : Workspace)
    (id text : Datum) :
    Prop :=
  ∃ room, w.channels.get? id = some room ∧
    (field.of room.state).unescaped = .ok text

variable {field other : TextField}
variable {w after : Workspace}
variable {id : Datum}
variable {texts : TextField → Datum}
variable {result : Except Problem Observed}
variable {exchanges : List Exchange}

/- A field that shows its text is not written again. -/
theorem Goes.shows
    (h : field.Goes w id (texts field) result after exchanges)
    (hShows : other.Shows w id (texts other)) :
    other.Shows after id (texts other) ∧
      exchanges.countP other.changed = 0 := by
  cases h with
  | unread hRead => exact ⟨hShows, by simp⟩
  | unreadable hRead hShown => exact ⟨hShows, by simp⟩
  | shown hRoom hRead hShown => exact ⟨hShows, by simp⟩
  | refused hRead hShown hOther => exact ⟨hShows, by simp⟩
  | stored hRoom hRead hShown hOther =>
      rcases hShows with ⟨room, hRoom', hShows⟩
      cases hRoom.symm.trans hRoom'
      by_cases hSame : other = field
      · subst hSame
        cases hShown.symm.trans hShows
        exact absurd rfl hOther
      · refine ⟨⟨_, get?_putRoom w id _, ?_⟩, by simp [hSame]⟩
        rw [← hShows]
        exact congrArg _ (of_put_of_ne hSame _ _)

/- A field is written once, if at all, and is shown then. -/
theorem Goes.changes
    (hTexts : ∀ field, (texts field).isText = true)
    (h :
      field.Goes w id (texts field) result after
        exchanges) :
    exchanges.countP other.changed = 0 ∨
      exchanges.countP other.changed = 1 ∧
        other.Shows after id (texts other) := by
  cases h with
  | unread hRead => exact Or.inl (by simp)
  | unreadable hRead hShown => exact Or.inl (by simp)
  | shown hRoom hRead hShown => exact Or.inl (by simp)
  | refused hRead hShown hOther => exact Or.inl (by simp)
  | stored hRoom hRead hShown hOther =>
      by_cases hSame : other = field
      · subst hSame
        refine Or.inr ⟨by simp, _, get?_putRoom w id _, ?_⟩
        have hField :=
          Datum.unescaped_storedForm (hTexts other)
        rw [← of_put other (texts other).storedForm] at hField
        exact hField
      · exact Or.inl (by simp [hSame])

end TextField

namespace Workspace

variable {w : Workspace}
variable {id : Datum}
variable {texts : TextField → Datum}
variable {field : TextField}

/- A field that shows its text is not written any more. -/
theorem setEach_shown
    (hId : id.isText = true)
    (hTexts : ∀ field, (texts field).isText = true)
    (calls : List (Table Trigger Failure × TextField))
    (hShows : field.Shows w id (texts field)) :
    (w.setEach id texts calls).1.countP field.changed =
      0 := by
  induction calls generalizing w with
  | nil => rfl
  | cons call rest ih =>
      rcases call with ⟨failures, called⟩
      rcases TextField.goes_set hId (hTexts called) called
          (w.withFailures failures) with
        ⟨result, after, exchanges, hEnds, hGoes⟩
      rcases hGoes.shows hShows with ⟨hAfter, hNone⟩
      unfold setEach
      rw [List.countP_append, hEnds.exchanges_eq,
        hEnds.state_eq, hNone, ih hAfter]

/- In any sequence, a field is written once at most. -/
theorem setEach_once
    (hId : id.isText = true)
    (hTexts : ∀ field, (texts field).isText = true)
    (calls : List (Table Trigger Failure × TextField))
    (w : Workspace)
    (field : TextField) :
    (w.setEach id texts calls).1.countP field.changed ≤
      1 := by
  induction calls generalizing w with
  | nil => exact Nat.zero_le 1
  | cons call rest ih =>
      rcases call with ⟨failures, called⟩
      rcases TextField.goes_set hId (hTexts called) called
          (w.withFailures failures) with
        ⟨result, after, exchanges, hEnds, hGoes⟩
      unfold setEach
      rw [List.countP_append, hEnds.exchanges_eq,
        hEnds.state_eq]
      rcases hGoes.changes hTexts with
        hNone | ⟨hOnce, hShows⟩
      · rw [hNone, Nat.zero_add]
        exact ih after
      · have hNoMore := setEach_shown hId hTexts rest hShows
        omega

/-
  Setters are minimal: a call writes only a text that is not
  shown yet, and changes nothing else.  In a sequence of
  calls with one text for each field, each field is written
  once at most.
-/
theorem setters_minimal :
    (∀ (field : TextField) (w : Workspace) (id text : Datum),
      id.isText = true →
      text.isText = true →
      field.SetsMinimally w id text
        ((field.set id text).run remote w)) ∧
    (∀ (w : Workspace) (id : Datum)
      (texts : TextField → Datum)
      (calls : List (Table Trigger Failure × TextField)),
      id.isText = true →
      (∀ field, (texts field).isText = true) →
      ∀ field : TextField,
        (w.setEach id texts calls).1.countP field.changed ≤
          1) := by
  constructor
  · intro field w id text hId hText
    exact field.setsMinimally hId hText w
  · intro w id texts calls hId hTexts field
    exact setEach_once hId hTexts calls w field

end Workspace

/- Texts that look like references. -/
def TextField.sample : TextField → Datum
  | topic => .text "&amp;lt"
  | description => .text "a < b &#38; &notit;"

/- No topic can be set. -/
def Workspace.untopical : Table Trigger Failure :=
  ⟨[(⟨.text "set_topic", .text "C1"⟩,
    .single .remote "no" (.text "restricted") none)]⟩

/- In this sequence the first call is refused. -/
theorem Workspace.setters_minimal_sample :
    TextField.topic.SetsMinimally Workspace.sample
        (.text "C1") (.text "&amp;lt")
        ((TextField.topic.set (.text "C1")
          (.text "&amp;lt")).run remote Workspace.sample) ∧
      (Workspace.sample.setEach (.text "C1") TextField.sample
          [(untopical, .topic), ({}, .topic),
            ({}, .description), ({}, .topic),
            (untopical, .topic)]).1.countP
          TextField.topic.changed ≤ 1 :=
  ⟨setters_minimal.1 .topic Workspace.sample (.text "C1")
      (.text "&amp;lt") rfl rfl,
    setters_minimal.2 Workspace.sample (.text "C1")
      TextField.sample _ rfl
      (fun field => by cases field <;> rfl) .topic⟩

example :
    (Workspace.sample.setEach (.text "C1") TextField.sample
        [(untopical, .topic), ({}, .topic),
          ({}, .description), ({}, .topic),
          (untopical, .topic)]).1.countP
        TextField.topic.changed = 1 := by
  decide +kernel

end ChannelSync
