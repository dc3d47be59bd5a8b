import ChannelSync.Convergence
import ChannelSync.Proofs.Access.Requests

/-
  Setting the attributes of a channel.

  The three setters are one program with parameters: read
  the channel, compare what the attribute shows with what is
  declared, and write only if they differ.  So a setter
  always leaves the aligned attribute behind, unless it has a
  problem, and then it leaves everything as it is.

  Key definitions include:
    * `Datum.shows` and `Datum.aligned`
    * `Access.ensure`
    * `Desired.settle`
    * `Workspace.Settleable`

  Key theorems include:
    * `Datum.aligned_aligned`
    * `Access.ends_ensure_shown`
    * `Access.ends_ensure_other`
    * `Access.edits_ensure`
    * `alignAttributes_returned`
    * `alignAttributes_returns`
-/

------------------------------------------------------------
-- Shown and Declared Texts
------------------------------------------------------------

namespace ChannelSync

namespace Datum

/- Whether a stored text shows the declared one. -/
def shows
    (stored declared : Datum) :
    Bool :=
  match stored.unescaped with
  | .ok shown => shown == declared
  | .error _ => false

/-
  The stored text, or another one if it shows the wrong
  text.
-/
def aligned
    (stored declared replacement : Datum) :
    Datum :=
  if stored.shows declared then stored else replacement

/-
  A text is shown when it is what the stored one stands for.
-/
theorem shows_iff
    {stored declared : Datum}
    (h : declared.isText = true) :
    stored.shows declared = true ↔
      stored.unescaped = .ok declared := by
  unfold shows
  cases stored.unescaped with
  | ok shown => simp [beq_eq_decide' h]
  | error fault => simp

/- Aligning a text again changes nothing. -/
theorem aligned_aligned
    (stored declared replacement : Datum) :
    (stored.aligned declared replacement).aligned declared
        replacement =
      stored.aligned declared replacement := by
  unfold aligned
  cases h : stored.shows declared <;> simp [h]

/- An aligned text is the stored one or the replacement. -/
theorem aligned_cases
    (stored declared replacement : Datum) :
    (stored.shows declared = true ∧
        stored.aligned declared replacement = stored) ∨
      (stored.shows declared = false ∧
        stored.aligned declared replacement =
          replacement) := by
  unfold aligned
  cases stored.shows declared <;> simp

/- An aligned text is a text. -/
theorem isText_aligned
    {stored replacement : Datum}
    (hStored : stored.isText = true)
    (hReplacement : replacement.isText = true)
    (declared : Datum) :
    (stored.aligned declared replacement).isText = true := by
  unfold aligned
  split
  · exact hStored
  · exact hReplacement

end Datum

end ChannelSync

------------------------------------------------------------
-- Setters
------------------------------------------------------------

namespace ChannelSync

namespace Access

open Program

/-
  Make an attribute of a channel show a text: read what it
  shows, and set it if that is something else.
-/
def ensure
    (id declared : Datum)
    (field : Observed → Datum)
    (event : Event)
    (set : Program Observed) :
    Program Observed := do
  let channel ← info id
  let current ← lift (field channel).unescaped
  if current == declared then
    return channel
  else
    record event
    set

/- Renaming makes the name show a text. -/
theorem rename_eq
    (id name : Datum) :
    rename id name =
      ensure id name (fun state => state.name)
        (.settingName id name)
        ((send (.renameChannel id name)).reporting
          fun failure => .failed (.rename id) failure) := by
  rfl

/- Setting the topic makes it show a text. -/
theorem setTopic_eq
    (id topic : Datum) :
    setTopic id topic =
      ensure id topic (fun state => state.topic)
        (.settingTopic id)
        ((send (.setTopic id topic)).reporting
          fun failure => .failed (.setTopic id) failure) := by
  rfl

/- Setting the description makes it show a text. -/
theorem setDescription_eq
    (id description : Datum) :
    setDescription id description =
      ensure id description (fun state => state.description)
        (.settingDescription id)
        ((send (.setPurpose id description)).reporting
          fun failure =>
            .failed (.setDescription id) failure) := by
  rfl

/- A setter reads the channel and may send its request. -/
theorem asks_ensure
    {id declared : Datum}
    {field : Observed → Datum}
    {event : Event}
    {set : Program Observed}
    {allowed : Request → Prop}
    {listed : Listing → Prop}
    (hInfo : allowed (.channelInfo id))
    (hSet : set.Asks allowed listed) :
    (ensure id declared field event set).Asks allowed
      listed := by
  apply (asks_send hInfo).reporting.bind
  intro channel
  apply (asks_lift _).bind
  intro current
  split
  · trivial
  · exact hSet

/- So much for what it sends. -/
theorem sends_ensure
    {id declared : Datum}
    {field : Observed → Datum}
    {event : Event}
    {set : Program Observed}
    {allowed : Request → Prop}
    (hInfo : allowed (.channelInfo id))
    (hSet : set.Sends allowed) :
    (ensure id declared field event set).Sends allowed :=
  sends_iff.mpr (asks_ensure hInfo (sends_iff.mp hSet))

/- A setter gives up at a refusal. -/
theorem strict_ensure
    {id declared : Datum}
    {field : Observed → Datum}
    {event : Event}
    {set : Program Observed}
    (h : set.Strict) :
    (ensure id declared field event set).Strict := by
  apply (strict_reporting_send _ _).bind
  intro channel
  apply (strict_lift _).bind
  intro current
  split
  · trivial
  · exact h

end Access

namespace Workspace

/- What keeps an attribute from being set, if anything. -/
def ensureRefusal
    (w : Workspace)
    (id stored declared : Datum)
    (refusal : Except Problem Unit) :
    Except Problem Unit := do
  w.refusal (.channelInfo id)
  let _ ← stored.unescaped.mapError .fault
  if stored.shows declared then .ok () else refusal

end Workspace

namespace Access

open Program Workspace

variable {w after : Workspace}
variable {id declared current : Datum}
variable {state : Observed}
variable {room : Room}
variable {field : Observed → Datum}
variable {event : Event}
variable {set : Program Observed}

/- A program goes on with a channel that is answered. -/
theorem ends_info_bind
    {next : Observed → Program α}
    {result : Except Problem α}
    {exchanges : List Exchange}
    (hRead : (w.answer (.channelInfo id)).1 = .ok state)
    (hRest :
      (next state).Ends remote w result after exchanges) :
    (info id >>= next).Ends remote w result after
      (⟨.channelInfo id, .ok state⟩ :: exchanges) := by
  have hInfo :
      (info id).Ends remote w (.ok state) w
        [⟨.channelInfo id, .ok state⟩] := by
    rw [ends_info, hRead]
    exact ⟨rfl, rfl, rfl⟩
  exact hInfo.bind hRest

/- A channel that is not read stops the setter. -/
theorem ends_ensure_unread
    {problem : Problem}
    (hRead :
      (w.answer (.channelInfo id)).1 = .error problem) :
    (ensure id declared field event set).Ends remote w
      (.error problem) w
      [⟨.channelInfo id, .error problem⟩] := by
  have hInfo :
      (info id).Ends remote w (.error problem) w
        [⟨.channelInfo id, .error problem⟩] := by
    rw [ends_info, hRead]
    exact ⟨rfl, rfl, rfl⟩
  exact hInfo.bind_error _

/- So does a field that cannot be read. -/
theorem ends_ensure_unreadable
    {fault : Fault}
    (hRead : (w.answer (.channelInfo id)).1 = .ok state)
    (hShown : (field state).unescaped = .error fault) :
    (ensure id declared field event set).Ends remote w
      (.error (.fault fault)) w
      [⟨.channelInfo id, .ok state⟩] := by
  apply ends_info_bind hRead
  rw [hShown]
  exact ends_abort.mpr ⟨rfl, rfl, rfl⟩

/- Where the text is shown, nothing is left to do. -/
theorem ends_ensure_shown
    (hRead : (w.answer (.channelInfo id)).1 = .ok state)
    (hShown : (field state).unescaped = .ok current)
    (hSame : (current == declared) = true) :
    (ensure id declared field event set).Ends remote w
      (.ok state) w [⟨.channelInfo id, .ok state⟩] := by
  apply ends_info_bind hRead
  rw [hShown]
  change (if current == declared then pure state
    else record event >>= fun _ => set).Ends _ _ _ _ _
  rw [if_pos hSame]
  exact ends_pure_self

/- Where another text is shown, the field is set. -/
theorem ends_ensure_other
    {result : Except Problem Observed}
    {exchanges : List Exchange}
    (hRead : (w.answer (.channelInfo id)).1 = .ok state)
    (hShown : (field state).unescaped = .ok current)
    (hOther : (current == declared) = false)
    (event : Event)
    (hSet : set.Ends remote w result after exchanges) :
    (ensure id declared field event set).Ends remote w
      result after
      (⟨.channelInfo id, .ok state⟩ :: exchanges) := by
  apply ends_info_bind hRead
  rw [hShown]
  change (if current == declared then pure state
    else record event >>= fun _ => set).Ends _ _ _ _ _
  rw [hOther, if_neg Bool.false_ne_true, ends_record_bind]
  exact hSet

/- A setter aligns the attribute, or it has a problem. -/
theorem edits_ensure
    (hId : id.isText = true)
    {change : Observed → Observed}
    {refusal : Except Problem Unit}
    (hSet : w.Edits id room (room.edit change) refusal set) :
    w.Edits id room
      (if (field room.state).shows declared then room
        else room.edit change)
      (w.ensureRefusal id (field room.state) declared
        refusal)
      (ensure id declared field event set) := by
  have hRead :=
    answer_channelInfo hId (get?_putRoom w id room)
  rw [refusal_putRoom] at hRead
  unfold ensureRefusal
  cases hRefusal : w.refusal (.channelInfo id) with
  | error problem =>
      rw [hRefusal] at hRead
      exact Edits.of_ends room.state
        (ends_ensure_unread hRead) rfl
  | ok _ =>
      rw [hRefusal] at hRead
      cases hShown : (field room.state).unescaped with
      | error fault =>
          exact Edits.of_ends room.state
            (ends_ensure_unreadable hRead hShown) rfl
      | ok current =>
          have hShows :
              (field room.state).shows declared =
                (current == declared) := by
            simp [Datum.shows, hShown]
          rw [hShows]
          cases hEqual : current == declared with
          | true =>
              exact Edits.of_ends room.state
                (ends_ensure_shown hRead hShown hEqual) rfl
          | false =>
              rcases hSet with ⟨answer, hSet⟩
              exact Edits.of_ends answer
                (ends_ensure_other hRead hShown hEqual event
                  (ends_run _ _ _)) hSet

end Access

end ChannelSync

------------------------------------------------------------
-- The Three Attributes
------------------------------------------------------------

namespace ChannelSync

namespace Observed

/- The attributes with a name that shows the declared one. -/
def showName
    (name : Datum)
    (state : Observed) :
    Observed :=
  { state with name := state.name.aligned name name }

/- The attributes with a topic that shows the declared one. -/
def showTopic
    (topic : Datum)
    (state : Observed) :
    Observed :=
  { state with
    topic := state.topic.aligned topic topic.storedForm }

/- The same for the description. -/
def showDescription
    (description : Datum)
    (state : Observed) :
    Observed :=
  { state with
    description :=
      state.description.aligned description
        description.storedForm }

variable {state : Observed}

/- A name that is aligned keeps attributes well typed. -/
theorem WellTyped.showName
    (h : state.WellTyped)
    {name : Datum}
    (hName : name.isText = true) :
    (state.showName name).WellTyped :=
  ⟨h.id, Datum.isText_aligned h.name hName name,
    h.description, h.topic, h.isPrivate, h.archived⟩

/- A topic that is aligned keeps attributes well typed. -/
theorem WellTyped.showTopic
    (h : state.WellTyped)
    {topic : Datum}
    (hTopic : topic.isText = true) :
    (state.showTopic topic).WellTyped :=
  ⟨h.id, h.name, h.description,
    Datum.isText_aligned h.topic
      (Datum.isText_storedForm hTopic) topic,
    h.isPrivate, h.archived⟩

/- A description that is aligned does so, too. -/
theorem WellTyped.showDescription
    (h : state.WellTyped)
    {description : Datum}
    (hDescription : description.isText = true) :
    (state.showDescription description).WellTyped :=
  ⟨h.id, h.name,
    Datum.isText_aligned h.description
      (Datum.isText_storedForm hDescription) description,
    h.topic, h.isPrivate, h.archived⟩

end Observed

/- The attributes that a reconciliation leaves behind. -/
def Desired.settle
    (desired : Desired)
    (state : Observed) :
    Observed :=
  ((state.showName desired.name).showTopic
    desired.topic).showDescription desired.description

/- The name is settled by itself. -/
theorem Desired.settle_name
    (desired : Desired)
    (state : Observed) :
    (desired.settle state).name =
      state.name.aligned desired.name desired.name :=
  rfl

/- Settled attributes are well typed. -/
theorem Observed.WellTyped.settle
    {desired : Desired}
    {state : Observed}
    (h : state.WellTyped)
    (hDesired : desired.WellTyped) :
    (desired.settle state).WellTyped :=
  ((h.showName hDesired.name).showTopic
    hDesired.topic).showDescription hDesired.description

/- Attributes that show what is declared are settled. -/
theorem Desired.settle_of_shows
    {desired : Desired}
    {state : Observed}
    (hName : state.name.shows desired.name = true)
    (hTopic : state.topic.shows desired.topic = true)
    (hDescription :
      state.description.shows desired.description = true) :
    desired.settle state = state := by
  simp only [settle, Observed.showName, Observed.showTopic,
    Observed.showDescription, Datum.aligned, hName, hTopic,
    hDescription, if_true]

/- A room with other attributes is well typed if they are. -/
theorem Room.WellTyped.edit
    {room : Room}
    (h : room.WellTyped)
    {change : Observed → Observed}
    (hState : (change room.state).WellTyped)
    (hMembers :
      (change room.state).memberIds =
        room.state.memberIds) :
    (room.edit change).WellTyped :=
  ⟨hState, hMembers.trans h.memberIds, h.members⟩

namespace Access

open Program Workspace

variable {id : Datum}

/- Renaming lets the name show the declared one. -/
theorem edits_rename
    (hId : id.isText = true)
    (w : Workspace)
    (room : Room)
    (name : Datum) :
    w.Edits id room (room.edit (Observed.showName name))
      (w.ensureRefusal id room.state.name name
        (w.refusal (.renameChannel id name) |>.bind fun _ =>
          if w.nameUsed name (some id) then
            .error (.failure (Refusal.nameTaken name))
          else .ok ()))
      (rename id name) := by
  have hRoom :
      room.edit (Observed.showName name) =
        if room.state.name.shows name then room
        else room.edit fun state =>
          { state with name := name } := by
    simp only [Room.edit, Observed.showName, Datum.aligned]
    split <;> rfl
  rw [hRoom, rename_eq]
  exact edits_ensure hId
    (edits_send
      (answer_renameChannel hId w room name)).reporting

/- Setting the topic lets it show the declared one. -/
theorem edits_setTopic
    (hId : id.isText = true)
    (w : Workspace)
    (room : Room)
    {topic : Datum}
    (hTopic : topic.isText = true) :
    w.Edits id room (room.edit (Observed.showTopic topic))
      (w.ensureRefusal id room.state.topic topic
        (w.refusal (.setTopic id topic)))
      (setTopic id topic) := by
  have hRoom :
      room.edit (Observed.showTopic topic) =
        if room.state.topic.shows topic then room
        else room.edit fun state =>
          { state with topic := topic.storedForm } := by
    simp only [Room.edit, Observed.showTopic, Datum.aligned]
    split <;> rfl
  rw [hRoom, setTopic_eq]
  exact edits_ensure hId
    (edits_send (answer_setTopic hId w room hTopic)).reporting

/- Setting the description lets it show the declared one. -/
theorem edits_setDescription
    (hId : id.isText = true)
    (w : Workspace)
    (room : Room)
    {description : Datum}
    (hDescription : description.isText = true) :
    w.Edits id room
      (room.edit (Observed.showDescription description))
      (w.ensureRefusal id room.state.description description
        (w.refusal (.setPurpose id description)))
      (setDescription id description) := by
  have hRoom :
      room.edit (Observed.showDescription description) =
        if room.state.description.shows description then room
        else room.edit fun state =>
          { state with
            description := description.storedForm } := by
    simp only [Room.edit, Observed.showDescription,
      Datum.aligned]
    split <;> rfl
  rw [hRoom, setDescription_eq]
  exact edits_ensure hId
    (edits_send
      (answer_setPurpose hId w room hDescription)).reporting

end Access

end ChannelSync

------------------------------------------------------------
-- All Attributes
------------------------------------------------------------

namespace ChannelSync

/-
  The attributes of a channel can be settled: what they show
  can be read, and a new name is not in use.
-/
structure Workspace.Settleable
    (w : Workspace)
    (desired : Desired)
    (id : Datum)
    (state : Observed) :
    Prop where
  name : ∃ shown, state.name.unescaped = .ok shown
  topic : ∃ shown, state.topic.unescaped = .ok shown
  description :
    ∃ shown, state.description.unescaped = .ok shown
  free :
    state.name.shows desired.name = true ∨
      w.nameUsed desired.name (some id) = false

open Program Workspace

variable {w after : Workspace}
variable {desired : Desired}
variable {id : Datum}
variable {room : Room}

/- A setter that is not refused can read its attribute. -/
theorem Workspace.ensureRefusal_eq_ok
    {stored declared : Datum}
    {refusal : Except Problem Unit}
    (h : w.ensureRefusal id stored declared refusal =
      .ok ()) :
    (∃ shown, stored.unescaped = .ok shown) ∧
      (stored.shows declared = true ∨ refusal = .ok ()) := by
  unfold ensureRefusal at h
  cases hRefusal : w.refusal (.channelInfo id) with
  | error problem =>
      rw [hRefusal] at h
      cases h
  | ok _ =>
      cases hShown : stored.unescaped with
      | error fault =>
          rw [hRefusal, hShown] at h
          cases h
      | ok shown =>
          rw [hRefusal, hShown] at h
          refine ⟨⟨shown, rfl⟩, ?_⟩
          cases hShows : stored.shows declared with
          | true => exact Or.inl rfl
          | false =>
              rw [hShows] at h
              exact Or.inr h

/- Once its attributes are aligned, a channel is settled. -/
theorem alignAttributes_returned
    (hId : id.isText = true)
    (hDesired : desired.WellTyped)
    (h : (alignAttributes desired id).Returns remote
      (w.putRoom id room) () after) :
    w.Settleable desired id room.state ∧
      after = w.putRoom id (room.edit desired.settle) := by
  unfold alignAttributes at h
  simp only [returns_bind] at h
  rcases h with
    ⟨_, _, hName, _, _, hTopic, _, _, hDescription, h⟩
  have hRename :=
    Access.edits_rename hId w room desired.name
  rcases hRename.returned hName with ⟨hNameOpen, rfl⟩
  have hSetTopic :=
    Access.edits_setTopic hId w
      (room.edit (Observed.showName desired.name))
      hDesired.topic
  rcases hSetTopic.returned hTopic with ⟨hTopicOpen, rfl⟩
  have hSetDescription :=
    Access.edits_setDescription hId w
      ((room.edit (Observed.showName desired.name)).edit
        (Observed.showTopic desired.topic))
      hDesired.description
  rcases hSetDescription.returned hDescription with
    ⟨hDescriptionOpen, rfl⟩
  rcases returns_pure.mp h with ⟨-, rfl⟩
  rcases ensureRefusal_eq_ok hNameOpen with
    ⟨hShownName, hFree⟩
  refine ⟨⟨hShownName,
    (ensureRefusal_eq_ok hTopicOpen).1,
    (ensureRefusal_eq_ok hDescriptionOpen).1, ?_⟩, rfl⟩
  apply hFree.imp_right
  intro hRename
  cases hUsed : w.nameUsed desired.name (some id) with
  | false => rfl
  | true =>
      cases hRefusal :
          w.refusal (.renameChannel id desired.name) with
      | error problem =>
          rw [hRefusal] at hRename
          cases hRename
      | ok _ =>
          rw [hRefusal, hUsed] at hRename
          cases hRename

/- Where nothing is laid in, a readable attribute is set. -/
theorem Workspace.ensureRefusal_of_no_failures
    (hOpen : w.failures.entries = [])
    (hId : id.isText = true)
    {stored declared : Datum}
    {refusal : Except Problem Unit}
    (hShown : ∃ shown, stored.unescaped = .ok shown)
    (hSet :
      stored.shows declared = true ∨ refusal = .ok ()) :
    w.ensureRefusal id stored declared refusal = .ok () := by
  have hTyped : (Request.channelInfo id).WellTyped := hId
  rcases hShown with ⟨shown, hShown⟩
  unfold ensureRefusal
  rw [refusal_of_no_failures hOpen hTyped, hShown]
  rcases hSet with hShows | rfl
  · rw [hShows]
    rfl
  · cases stored.shows declared <;> rfl

/- Where nothing is laid in, attributes can be aligned. -/
theorem alignAttributes_returns
    (hOpen : w.failures.entries = [])
    (hId : id.isText = true)
    (hDesired : desired.WellTyped)
    (h : w.Settleable desired id room.state) :
    (alignAttributes desired id).Returns remote
      (w.putRoom id room) ()
      (w.putRoom id (room.edit desired.settle)) := by
  have hRename :
      (Request.renameChannel id desired.name).WellTyped :=
    ⟨hId, hDesired.name⟩
  have hSetTopic :
      (Request.setTopic id desired.topic).WellTyped :=
    ⟨hId, hDesired.topic⟩
  have hSetPurpose :
      (Request.setPurpose id
        desired.description).WellTyped :=
    ⟨hId, hDesired.description⟩
  have hFree := h.free.imp_right fun hUnused =>
    show (w.refusal (.renameChannel id desired.name)).bind
        (fun _ =>
          if w.nameUsed desired.name (some id) then
            .error (.failure
              (Refusal.nameTaken desired.name))
          else .ok ()) = .ok () by
      rw [refusal_of_no_failures hOpen hRename, hUnused]
      rfl
  have hNameOpen :=
    ensureRefusal_of_no_failures hOpen hId h.name hFree
  have hTopicOpen :
      w.ensureRefusal id room.state.topic desired.topic
        (w.refusal (.setTopic id desired.topic)) = .ok () :=
    ensureRefusal_of_no_failures hOpen hId h.topic
      (Or.inr (refusal_of_no_failures hOpen hSetTopic))
  have hDescriptionOpen :
      w.ensureRefusal id room.state.description
        desired.description
        (w.refusal
          (.setPurpose id desired.description)) = .ok () :=
    ensureRefusal_of_no_failures hOpen hId h.description
      (Or.inr (refusal_of_no_failures hOpen hSetPurpose))
  rcases (Access.edits_rename hId w room
      desired.name).returns hNameOpen with
    ⟨_, hName⟩
  rcases (Access.edits_setTopic hId w
      (room.edit (Observed.showName desired.name))
      hDesired.topic).returns hTopicOpen with
    ⟨_, hTopic⟩
  rcases (Access.edits_setDescription hId w
      ((room.edit (Observed.showName desired.name)).edit
        (Observed.showTopic desired.topic))
      hDesired.description).returns hDescriptionOpen with
    ⟨_, hDescription⟩
  unfold alignAttributes
  simp only [returns_bind]
  exact ⟨_, _, hName, _, _, hTopic, _, _, hDescription,
    returns_pure_self⟩

/- What each aligned attribute leaves true stays true. -/
theorem preserves_alignAttributes
    {P : Room → Prop}
    (hId : id.isText = true)
    (hDesired : desired.WellTyped)
    (hName :
      ∀ room, P room →
        P (room.edit (Observed.showName desired.name)))
    (hTopic :
      ∀ room, P room →
        P (room.edit (Observed.showTopic desired.topic)))
    (hDescription :
      ∀ room, P room →
        P (room.edit
          (Observed.showDescription desired.description))) :
    (alignAttributes desired id).Preserves remote
      (w.Holding id P) := by
  have hRename :=
    preserves_of_edits
      (fun room =>
        Access.edits_rename hId w room desired.name)
      fun room _ => hName room
  have hSetTopic :=
    preserves_of_edits
      (fun room =>
        Access.edits_setTopic hId w room hDesired.topic)
      fun room _ => hTopic room
  have hSetDescription :=
    preserves_of_edits
      (fun room =>
        Access.edits_setDescription hId w room
          hDesired.description)
      fun room _ => hDescription room
  apply hRename.bind
  intro _ _ _ _
  apply hSetTopic.bind
  intro _ _ _ _
  exact hSetDescription.bind fun _ _ _ _ => preserves_done _

/- Aligning attributes gives up at a refusal. -/
theorem strict_alignAttributes
    (desired : Desired)
    (id : Datum) :
    (alignAttributes desired id).Strict := by
  apply Strict.bind
    (Access.strict_ensure (strict_reporting_send _ _))
  intro _
  apply Strict.bind
    (Access.strict_ensure (strict_reporting_send _ _))
  intro _
  apply Strict.bind
    (Access.strict_ensure (strict_reporting_send _ _))
  intro _
  trivial

end ChannelSync
