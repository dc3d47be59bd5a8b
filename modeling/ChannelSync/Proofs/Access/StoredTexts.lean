import ChannelSync.Proofs.Access.TextFields
import ChannelSync.Proofs.Reconciliation.Drift
import ChannelSync.Proofs.Workspace.Answers

/-
  Stored texts and the texts they show.

  What a workspace stores of a topic or a description is read
  back as the text that was set, even if this looks like a
  stored form itself.  So no two texts have one stored form,
  and wherever a stored field is compared, it equals the text
  that was set and no other one: for a setter, which leaves
  exactly this text alone, and for the check for drift, which
  passes over it and reports any other one.

  Key definitions include:
    * `TextField.Reached` and `TextField.OthersShown`
    * `TextField.StandsFor`

  Key theorems include:
    * `escape_injective`
    * `TextField.stored_of_store`
    * `TextField.standsFor`
    * `stored_texts_faithful`
-/

------------------------------------------------------------
-- Stored Forms
------------------------------------------------------------

namespace ChannelSync

/- Different texts have different stored forms. -/
theorem escape_injective :
    Function.Injective escape := by
  intro text text' hSame
  have hShown := unescape_escape text
  rw [hSame, unescape_escape text'] at hShown
  exact (Except.ok.inj hShown).symm

/- A stored form shows its own text, and no other. -/
theorem Datum.shows_storedForm_iff
    {text other : Datum}
    (hText : text.isText = true)
    (hOther : other.isText = true) :
    text.storedForm.shows other = true ↔ other = text := by
  rw [shows_iff hOther, unescaped_storedForm hText]
  constructor
  · intro hSame
    exact (Except.ok.inj hSame).symm
  · intro hSame
    rw [hSame]

end ChannelSync

------------------------------------------------------------
-- Fields That Were Stored
------------------------------------------------------------

namespace ChannelSync

namespace TextField

open Program Workspace

variable {field : TextField}
variable {w after : Workspace}
variable {id text : Datum}
variable {state : Observed}

/- A text can only be stored in a channel that there is. -/
theorem room_of_store
    (hText : text.isText = true)
    (h : field.store w id text = (.ok state, after)) :
    ∃ room, w.channels.get? id = some room := by
  have hUpdated :
      ∃ change,
        (w.update id change).1 = .ok state := by
    cases field with
    | topic =>
        have hGrant := grant_of_answer (congrArg Prod.fst h)
        simp only [grant, setTopic,
          Datum.escaped_of_isText hText] at hGrant
        exact ⟨_, hGrant⟩
    | description =>
        have hGrant := grant_of_answer (congrArg Prod.fst h)
        simp only [grant, setPurpose,
          Datum.escaped_of_isText hText] at hGrant
        exact ⟨_, hGrant⟩
  rcases hUpdated with ⟨change, hUpdate⟩
  unfold update at hUpdate
  split at hUpdate
  case h_1 => cases hUpdate
  case h_2 room hRoom => exact ⟨room, get?_of_room hRoom⟩

/- A text that is answered as stored is in the room. -/
theorem stored_of_store
    (hId : id.isText = true)
    (hText : text.isText = true)
    (h : field.store w id text = (.ok state, after)) :
    field.of state = text.storedForm ∧
      ∃ members,
        after.channels.get? id = some ⟨state, members⟩ := by
  rcases room_of_store hText h with ⟨room, hRoom⟩
  rcases store_cases hId hText hRoom with
    ⟨problem, hStore⟩ | hStore
  · cases h.symm.trans hStore
  · cases h.symm.trans hStore
    exact ⟨field.of_put _ _, room.members,
      get?_putRoom w id _⟩

end TextField

end ChannelSync

------------------------------------------------------------
-- Comparing a Stored Field
------------------------------------------------------------

namespace ChannelSync

namespace TextField

open Program Workspace

/- What is declared for a field. -/
def declared : TextField → Desired → Datum
  | topic, desired => desired.topic
  | description, desired => desired.description

/- The event that a field of a channel differs. -/
def difference : TextField → Datum → Event
  | topic, id => .topicDiffers id
  | description, id => .descriptionDiffers id

/- The check for drift comes to a field. -/
def Reached :
    TextField → Desired → Observed → Prop
  | topic, desired, observed =>
      observed.name.unescaped = .ok desired.name
  | description, desired, observed =>
      observed.name.unescaped = .ok desired.name ∧
        observed.topic.unescaped = .ok desired.topic

/- All attributes but a field show what is declared. -/
def OthersShown :
    TextField → Desired → Observed → Prop
  | topic, desired, observed =>
      observed.name.unescaped = .ok desired.name ∧
        observed.description.unescaped =
          .ok desired.description
  | description, desired, observed =>
      observed.name.unescaped = .ok desired.name ∧
        observed.topic.unescaped = .ok desired.topic

/-
  A stored field stands for one text.  A setter with this
  text writes nothing, whatever is laid in, and a setter with
  another text does.  The check for drift passes over the
  field if the text is declared, and else reports it.
-/
structure StandsFor
    (field : TextField)
    (w : Workspace)
    (id : Datum)
    (state : Observed)
    (text : String) :
    Prop where
  stored :
    ∃ members, w.channels.get? id = some ⟨state, members⟩
  shown :
    ∀ other : String,
      (field.of state).shows (.text other) = true ↔
        other = text
  untouched :
    ∀ (other : String) (failures : Table Trigger Failure),
      ((w.withFailures failures).answer
        (.channelInfo id)).1 = .ok state →
      (((field.set id (.text other)).run remote
          (w.withFailures failures)).requests =
            [.channelInfo id] ↔
        other = text)
  agreed :
    ∀ (desired : Desired) (observed : Observed),
      field.of observed = field.of state →
      field.OthersShown desired observed →
      field.declared desired = .text text →
      Drift.detected desired observed =
        Drift.membershipDiffers desired observed
  reported :
    ∀ (desired : Desired) (observed : Observed)
      (other : String),
      field.of observed = field.of state →
      field.Reached desired observed →
      field.declared desired = .text other →
      other ≠ text →
      Drift.detected desired observed =
        (record (field.difference observed.id) >>=
          fun _ => pure true)

variable {field : TextField}
variable {desired : Desired}
variable {observed : Observed}

/- With the other attributes, a field completes the check. -/
theorem shows_of_othersShown
    (hOthers : field.OthersShown desired observed)
    (hField :
      (field.of observed).unescaped =
        .ok (field.declared desired)) :
    observed.Shows desired := by
  cases field with
  | topic => exact ⟨hOthers.1, hField, hOthers.2⟩
  | description => exact ⟨hOthers.1, hOthers.2, hField⟩

/- Where the check comes to a field, a difference ends it. -/
theorem detected_of_reached
    {shown : Datum}
    (hReached : field.Reached desired observed)
    (hDeclared : (field.declared desired).isText = true)
    (hShown : (field.of observed).unescaped = .ok shown)
    (hOther : shown ≠ field.declared desired) :
    Drift.detected desired observed =
      (record (field.difference observed.id) >>=
        fun _ => pure true) := by
  unfold Drift.detected
  cases field with
  | topic =>
      rw [Drift.compare_of_shown hReached]
      exact Drift.compare_of_differs hDeclared hShown hOther
        _ _
  | description =>
      rw [Drift.compare_of_shown hReached.1,
        Drift.compare_of_shown hReached.2]
      exact Drift.compare_of_differs hDeclared hShown hOther
        _ _

variable {w after : Workspace}
variable {id : Datum}
variable {state : Observed}
variable {text : String}

/- What was stored stands for the text that was set. -/
theorem standsFor
    (hId : id.isText = true)
    (h : field.store w id (.text text) = (.ok state, after)) :
    field.StandsFor after id state text := by
  rcases stored_of_store hId rfl h with
    ⟨hField, members, hStored⟩
  have hText : (Datum.text text).isText = true := rfl
  have hShown :
      (field.of state).unescaped = .ok (.text text) := by
    rw [hField]
    exact Datum.unescaped_storedForm hText
  refine
    { stored := ⟨members, hStored⟩
      shown := ?shown
      untouched := ?untouched
      agreed := ?agreed
      reported := ?reported }
  case shown =>
      intro other
      rw [hField, Datum.shows_storedForm_iff hText rfl,
        Datum.text.injEq]
  case untouched =>
      intro other failures hRead
      have hSets :
          field.SetsMinimally (after.withFailures failures) id
            (.text other) _ :=
        field.setsMinimally hId rfl _
      constructor
      · intro hSilent
        by_cases hOther : other = text
        · exact hOther
        · have hDiffers :
              field.Differs (after.withFailures failures) id
                (.text other) :=
            ⟨state, .text text, hRead, hShown,
              fun hSame =>
                hOther (Datum.text.inj hSame).symm⟩
          rw [hSets.writes hDiffers] at hSilent
          cases hSilent
      · rintro rfl
        exact hSets.silent (not_differs_of_shown hRead hShown)
  case agreed =>
      intro desired observed hSame hOthers hDeclared
      apply Drift.detected_of_shows
      apply shows_of_othersShown hOthers
      rw [hSame, hDeclared]
      exact hShown
  case reported =>
      intro desired observed other hSame hReached hDeclared
        hOther
      have hIsText :
          (field.declared desired).isText = true := by
        rw [hDeclared]
        rfl
      rw [← hSame] at hShown
      apply detected_of_reached hReached hIsText hShown
      rw [hDeclared]
      intro hTexts
      exact hOther (Datum.text.inj hTexts).symm

end TextField

end ChannelSync

------------------------------------------------------------
-- Any Text
------------------------------------------------------------

namespace ChannelSync

/-
  Every text can be stored and is read back, and no two texts
  are stored alike.  So a topic or a description that was
  stored stands for the text that was set, and for no other.
-/
theorem stored_texts_faithful :
    (∀ text : String,
      unescape (escape text) = .ok text) ∧
    Function.Injective escape ∧
    ∀ (field : TextField) (w after : Workspace) (id : Datum)
      (text : String) (state : Observed),
      id.isText = true →
      field.store w id (.text text) = (.ok state, after) →
      field.StandsFor after id state text :=
  ⟨unescape_escape, escape_injective,
    fun _ _ _ _ _ _ hId hStore =>
      TextField.standsFor hId hStore⟩

/- A text that is a stored form itself is stored once more. -/
theorem stored_texts_faithful_sample :
    unescape (escape "&notit; &#38; <&lt") =
        .ok "&notit; &#38; <&lt" ∧
      TextField.topic.StandsFor
        (Workspace.sample.answer
          (.setTopic (.text "C1") (.text "&amp;lt;"))).2
        (.text "C1")
        { id := .text "C1"
          name := .text "lunch"
          topic := .text "&amp;amp;lt;" }
        "&amp;lt;" :=
  ⟨stored_texts_faithful.1 "&notit; &#38; <&lt",
    stored_texts_faithful.2.2 .topic Workspace.sample _
      (.text "C1") "&amp;lt;" _ rfl rfl⟩

end ChannelSync
