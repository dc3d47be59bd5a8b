import ChannelSync.Proofs.Access.Renaming
import ChannelSync.Proofs.Reconciliation.Frame
import ChannelSync.Proofs.Reconciliation.Prediction
import ChannelSync.Proofs.Reconciliation.Requests

/-
  Declarations that were made from channels.

  The declaration of a channel as it is has the texts that
  the topic and the description show, and the name that is
  stored.  So it finds no other texts in its own channel, if
  the name shows itself, and reconciling it sets none of the
  three, whoever its members are.

  A stored name that shows another text is found to differ
  from the declaration that was made from it.

  Key definitions include:
    * `Desired.SameTexts`
    * `Request.setsText`
    * `Program.Within`
    * `Drift.JudgesProjected`
    * `Workspace.Adopted`

  Key theorems include:
    * `Program.Within.bind`
    * `alignAttributes_unneeded`
    * `within_converge`
    * `reconcile_sets_no_text`
    * `projected_texts_settled`
-/

------------------------------------------------------------
-- Texts of Declarations
------------------------------------------------------------

namespace ChannelSync

/- The three texts of a declaration are those of another. -/
structure Desired.SameTexts
    (desired projected : Desired) :
    Prop where
  name : desired.name = projected.name
  topic : desired.topic = projected.topic
  description : desired.description = projected.description

/- A request that sets one of the three texts. -/
def Request.setsText : Request → Bool
  | setPurpose _ _ => true
  | setTopic _ _ => true
  | renameChannel _ _ => true
  | channelInfo _ => false
  | createChannel _ _ => false
  | archiveChannel _ => false
  | unarchiveChannel _ => false
  | memberPage _ _ _ => false
  | inviteMembers _ _ => false
  | removeMember _ _ => false
  | channelPage _ _ => false
  | userByEmail _ => false
  | userById _ => false

/- A request that reads sets no text. -/
theorem Request.not_setsText
    (request : Request)
    (h : request.isWrite = false) :
    request.setsText = false := by
  cases request <;> first | rfl | cases h

variable {observed : Observed}
variable {desired projected : Desired}

/- What is declared of a channel is what its texts show. -/
theorem texts_of_project
    (h : project observed = .ok projected) :
    projected.name = observed.name ∧
      observed.topic.unescaped = .ok projected.topic ∧
      observed.description.unescaped =
        .ok projected.description := by
  unfold project at h
  cases hDescription : observed.description.unescaped with
  | error fault =>
      rw [hDescription] at h
      cases h
  | ok description =>
      cases hTopic : observed.topic.unescaped with
      | error fault =>
          rw [hDescription, hTopic] at h
          cases h
      | ok topic =>
          rw [hDescription, hTopic] at h
          cases h
          exact ⟨rfl, rfl, rfl⟩

/-
  A channel shows what was declared from it, if its name
  shows itself.
-/
theorem shows_of_projected
    (hProject : project observed = .ok projected)
    (hSame : desired.SameTexts projected)
    (hName : observed.name.unescaped = .ok observed.name) :
    observed.Shows desired := by
  rcases texts_of_project hProject with
    ⟨hStored, hTopic, hDescription⟩
  refine ⟨?_, ?_, ?_⟩
  · rw [hSame.name, hStored, hName]
  · rw [hSame.topic, hTopic]
  · rw [hSame.description, hDescription]

end ChannelSync

------------------------------------------------------------
-- Drift from What Was Projected
------------------------------------------------------------

namespace ChannelSync

namespace Drift

open Program Workspace

/-
  What drift a declaration finds that has the texts of the
  channel: it depends on whether the name shows itself.
-/
structure JudgesProjected
    (desired : Desired)
    (observed : Observed) :
    Prop where
  settled :
    observed.name.unescaped = .ok observed.name →
      detected desired observed =
        membershipDiffers desired observed
  differs :
    ∀ shown,
      observed.name.unescaped = .ok shown →
      shown ≠ observed.name →
      detected desired observed =
        (record (.nameDiffers observed.id) >>= fun _ =>
          pure true)
  unreadable :
    ∀ fault w,
      observed.name.unescaped = .error fault →
      (detected desired observed).Stops remote w
        (.fault fault) w

variable {observed : Observed}
variable {desired projected : Desired}

/- Of the three texts only the name can be found to differ. -/
theorem judgesProjected
    (hText : observed.name.isText = true)
    (hProject : project observed = .ok projected)
    (hSame : desired.SameTexts projected) :
    JudgesProjected desired observed where
  settled := fun hName =>
    detected_of_shows
      (shows_of_projected hProject hSame hName)
  differs := fun shown hShown hOther => by
    have hName : desired.name = observed.name :=
      hSame.name.trans (texts_of_project hProject).1
    rw [← hName] at hText hOther
    exact detected_of_other_name hText hShown hOther
  unreadable := fun _ _ hFault => detected_stops hFault

end Drift

end ChannelSync

------------------------------------------------------------
-- Exchanges under an Invariant
------------------------------------------------------------

namespace ChannelSync

namespace Program

variable {σ α β : Type}
variable {remote : Remote σ}
variable {inv : σ → Prop}
variable {allowed : Request → Prop}

/-
  Every run from a state with a property sends only what is
  allowed.
-/
def Within
    (remote : Remote σ)
    (inv : σ → Prop)
    (allowed : Request → Prop)
    (p : Program α) :
    Prop :=
  ∀ s, inv s →
    ∀ x ∈ (p.run remote s).exchanges, allowed x.request

/- What can send only that does so from every state. -/
theorem Sends.within
    {p : Program α}
    (h : p.Sends allowed) :
    p.Within remote inv allowed :=
  fun s _ => h.requests s

/-
  The second part runs from a state that is preserved, with a
  value that the first one can return.
-/
theorem Within.bind
    {p : Program α}
    {next : α → Program β}
    (hFirst : p.Within remote inv allowed)
    (hPreserves : p.Preserves remote inv)
    (hRest :
      ∀ s a, inv s → (p.run remote s).result = .ok a →
        (next a).Within remote inv allowed) :
    (p >>= next).Within remote inv allowed := by
  intro s hInv
  rcases ends_bind.mp (ends_run remote (p >>= next) s) with
    ⟨problem, hProblem, -⟩ |
      ⟨a, middle, first, rest, hA, hB, hExchanges⟩
  · rw [← hProblem.exchanges_eq]
    exact hFirst s hInv
  · have hMiddle := hPreserves.holds hA hInv
    rw [hExchanges, List.forall_mem_append,
      ← hA.exchanges_eq, ← hB.exchanges_eq]
    exact ⟨hFirst s hInv,
      hRest s a hInv hA.result_eq middle hMiddle⟩

end Program

end ChannelSync

------------------------------------------------------------
-- Texts That Are Shown Already
------------------------------------------------------------

namespace ChannelSync

open Program Workspace

variable {w : Workspace}
variable {limits : Limits}
variable {desired : Desired}
variable {id : Datum}
variable {room : Room}
variable {allowed : Request → Prop}

/- What a text stands for is what it shows. -/
theorem Datum.shows_of_unescaped
    {stored declared : Datum}
    (h : stored.unescaped = .ok declared) :
    stored.shows declared = true := by
  simp [shows, h]

/-
  Where the texts are shown already, aligning them only
  reads, also where the reading is refused.
-/
theorem alignAttributes_unneeded
    (hId : id.isText = true)
    (hShows : room.state.Shows desired) :
    ((alignAttributes desired id).run remote
          (w.putRoom id room)).state =
        w.putRoom id room ∧
      ∀ x ∈ ((alignAttributes desired id).run remote
            (w.putRoom id room)).exchanges,
        x.request.isWrite = false := by
  have hAnswer :=
    answer_channelInfo hId (get?_putRoom w id room)
  cases hRefusal :
      (w.putRoom id room).refusal (.channelInfo id) with
  | error problem =>
      rw [hRefusal] at hAnswer
      have hEnds :
          (alignAttributes desired id).Ends remote
            (w.putRoom id room) (.error problem)
            (w.putRoom id room)
            [⟨.channelInfo id, .error problem⟩] :=
        (Access.ends_ensure_unread hAnswer).bind_error _
      refine ⟨hEnds.state_eq, ?_⟩
      rw [hEnds.exchanges_eq]
      simp [Request.isWrite]
  | ok _ =>
      rw [hRefusal] at hAnswer
      have hSilent :=
        alignAttributes_silent
          (Access.returns_info.mpr ⟨hAnswer, rfl⟩)
          (Datum.shows_of_unescaped hShows.name)
          (Datum.shows_of_unescaped hShows.topic)
          (Datum.shows_of_unescaped hShows.description)
      exact ⟨hSilent.returns.state_eq, hSilent.reads⟩

/- Aligning texts that are shown already changes nothing. -/
theorem preserves_alignAttributes_unneeded
    (hId : id.isText = true) :
    (alignAttributes desired id).Preserves remote
      (w.Holding id fun room => room.state.Shows desired) := by
  rintro _ ⟨room, rfl, hShows⟩
  rw [(alignAttributes_unneeded hId hShows).1]
  exact ⟨room, rfl, hShows⟩

/- Members are brought in line without touching the texts. -/
theorem sends_alignMembers
    (hRead : ∀ request, request.isWrite = false →
      allowed request)
    (hInvite : ∀ userId, allowed (.inviteMembers id [userId]))
    (hRemove : ∀ userId, allowed (.removeMember id userId)) :
    (alignMembers limits desired id).Sends allowed := by
  have hEach :
      ∀ userIds,
        (Roster.removeEach id desired.members userIds).Sends
          allowed := by
    intro userIds
    induction userIds with
    | nil => trivial
    | cons userId rest ih =>
        apply ((Access.reads_userById userId).sends hRead).bind
        intro user
        apply (sends_lift _).bind
        intro allowed
        split
        · exact ih
        · refine Sends.bind (p := record _) trivial fun _ => ?_
          exact (sends_send
            (hRemove userId)).reporting.bind fun _ => ih
  apply (Roster.sends_inviteAll hRead hInvite _).bind
  intro failures
  have hListing :=
    (Access.reads_memberIds limits.members id).sends hRead
  apply (hListing.bind hEach).bind
  intro _
  split <;> trivial

/-
  Correcting a channel that shows the declared texts sets
  none of them.
-/
theorem within_correct
    (hId : id.isText = true)
    (observed : Observed) :
    (correct limits desired id observed).Within remote
      (w.Holding id fun room => room.state.Shows desired)
      fun request => request.setsText = false := by
  have hRead := Request.not_setsText
  have hFetch :
      (Access.fetch limits.members id).Sends
        fun request => request.setsText = false :=
    (Access.reads_fetch limits.members id).sends hRead
  have hMembers :
      (alignMembers limits desired id).Sends
        fun request => request.setsText = false :=
    sends_alignMembers hRead (fun _ => rfl) fun _ => rfl
  refine Within.bind ?_
    (preserves_alignAttributes_unneeded hId)
    fun _ _ _ _ => ?_
  · rintro _ ⟨room, rfl, hShows⟩ x hMem
    exact hRead _ ((alignAttributes_unneeded hId hShows).2
      x hMem)
  · apply Sends.within
    apply ((reads_membershipMayDiffer _ _).sends hRead).bind
    intro mayDiffer
    split
    · exact hMembers.bind fun _ => hFetch
    · exact hFetch

/- So does all of its reconciliation. -/
theorem within_converge
    (hId : id.isText = true) :
    (converge limits desired id).Within remote
      (w.Holding id fun room => room.state.Shows desired)
      fun request => request.setsText = false := by
  have hRead := Request.not_setsText
  have hActive :
      (fetchActive limits id).Preserves remote
        (w.Holding id fun room => room.state.Shows desired) :=
    preserves_fetchActive hId fun room hShows =>
      ⟨hShows.name, hShows.topic, hShows.description⟩
  rw [converge_eq]
  refine (sends_fetchActive hRead rfl).within.bind hActive
    fun _ observed _ _ => ?_
  refine (sends_notePrivacy _ _ _).within.bind
    preserves_notePrivacy fun _ _ _ _ => ?_
  have hDetected := Drift.reads_detected desired observed
  refine (hDetected.sends hRead).within.bind
    (preserves_of_reads hDetected) fun _ drift _ _ => ?_
  split
  · refine Within.bind (p := record _)
      (Sends.within trivial) (preserves_record _)
      fun _ _ _ _ => ?_
    exact within_correct hId observed
  · exact Sends.within trivial

end ChannelSync

------------------------------------------------------------
-- Reconciling What Was Adopted
------------------------------------------------------------

namespace ChannelSync

open Program Workspace

variable {w after : Workspace}
variable {limits : Limits}
variable {desired adopted : Desired}
variable {name : Datum}
variable {room : Room}
variable {id? : Option Datum}

/-
  A declaration that was adopted by a name is that of the
  first channel of the name.
-/
structure Workspace.Adopted
    (w : Workspace)
    (name : Datum)
    (adopted : Desired)
    (room : Room) :
    Prop where
  first : w.firstNamed name = some room.state
  found : w.channels.get? room.state.id = some room
  isText : room.state.id.isText = true
  named : room.state.name = name
  name : adopted.name = name
  topic : room.state.topic.unescaped = .ok adopted.topic
  description :
    room.state.description.unescaped =
      .ok adopted.description

/- What is adopted is what the channel shows. -/
theorem adopt_returned
    (hw : w.WellTyped)
    (hLimits : limits.Positive)
    (hName : name.isText = true)
    (h : (adopt limits name).Returns remote w adopted
      after) :
    after = w ∧ ∃ room, w.Adopted name adopted room := by
  refine ⟨state_of_returned (reads_adopt limits name) h, ?_⟩
  rcases hLimits.channels with ⟨size, hSize, hLimit⟩
  unfold adopt at h
  rcases returns_bind.mp h with ⟨channel, s, hFound, hRest⟩
  rw [hLimit] at hFound
  rcases findByName_returned hSize hFound with
    ⟨hSame, hFirst⟩
  obtain rfl : w = s := hSame.symm
  rcases returns_bind.mp hRest with
    ⟨observed, s, hFetch, hLift⟩
  rcases Access.fetch_found hFetch with
    ⟨room, memberIds, hRoom, -, rfl⟩
  rcases hw.room_of_firstNamed hFirst with
    ⟨room', hRoom', rfl⟩
  cases hRoom.symm.trans hRoom'
  rcases texts_of_project (returns_lift.mp hLift).1 with
    ⟨hStored, hTopic, hDescription⟩
  have hNamed := (named_of_firstNamed hName hFirst).1
  have hStart :
      ∃ found,
        w.Starts { name := name } none w room.state.id
          found :=
    starts_found hw hFirst
  rcases hStart with ⟨_, hStarts⟩
  exact ⟨room,
    { first := hFirst
      found := hRoom
      isText := hStarts.isText
      named := hNamed
      name := hStored.trans hNamed
      topic := hTopic
      description := hDescription }⟩

/- A channel that shows the declared texts keeps them. -/
theorem within_converge_of_shows
    (hFound : w.channels.get? room.state.id = some room)
    (hId : room.state.id.isText = true)
    (hShows : room.state.Shows desired) :
    (converge limits desired room.state.id).Within remote
      (fun s => s = w)
      fun request => request.setsText = false := by
  rintro _ rfl
  exact within_converge hId _
    ⟨room, (putRoom_of_get? hFound).symm, hShows⟩

/- A name that is in use leads to the first channel of it. -/
theorem within_createOrFind
    (hLimits : limits.Positive)
    (hName : desired.name.isText = true)
    (hFirst : w.firstNamed desired.name = some room.state)
    {next : Datum → Program Observed}
    (hNext :
      (next room.state.id).Within remote (fun s => s = w)
        fun request => request.setsText = false) :
    (createOrFind limits desired >>= next).Within remote
      (fun s => s = w)
      fun request => request.setsText = false := by
  have hUsed := (named_of_firstNamed hName hFirst).2
  have hKept :
      (createOrFind limits desired).Preserves remote
        fun s => s = w := by
    intro s hs
    subst hs
    rcases createOrFind_state limits desired s with
      hSame | ⟨hUnused, -⟩
    · exact hSame
    · cases hUsed.symm.trans hUnused
  refine (sends_createOrFind Request.not_setsText
    rfl).within.bind hKept fun s id hs hReturned => ?_
  subst hs
  rcases createOrFind_returned hLimits ⟨hReturned, rfl⟩ with
    ⟨hUnused, -⟩ | ⟨-, channel, hFirst', rfl⟩
  · cases hUsed.symm.trans hUnused
  · cases hFirst.symm.trans hFirst'
    exact hNext

/-
  A channel that shows the declared texts, and is given or
  found by the declared name, is reconciled without setting
  one of them.
-/
theorem reconcile_sets_no_text
    (hLimits : limits.Positive)
    (hName : desired.name.isText = true)
    (hFirst : w.firstNamed desired.name = some room.state)
    (hFound : w.channels.get? room.state.id = some room)
    (hId : room.state.id.isText = true)
    (hShows : room.state.Shows desired)
    (hGiven : id? = none ∨ id? = some room.state.id) :
    ∀ request ∈
        ((reconcile limits desired id?).run remote
          w).requests,
      request.setsText = false := by
  have hConverge :
      (converge limits desired room.state.id).Within remote
        (fun s => s = w)
        fun request => request.setsText = false :=
    within_converge_of_shows hFound hId hShows
  have hAll :
      (reconcile limits desired id?).Within remote
        (fun s => s = w)
        fun request => request.setsText = false := by
    refine (sends_validate desired).within.bind
      (preserves_of_reads (sends_validate desired))
      fun _ _ _ _ => ?_
    rcases hGiven with rfl | rfl
    · exact within_createOrFind hLimits hName hFirst
        hConverge
    · exact hConverge
  intro request hMem
  rcases List.mem_map.mp hMem with ⟨x, hx, rfl⟩
  exact hAll w rfl x hx

/-
  A declaration that was made from a channel finds no other
  texts there, if the name shows itself.  Then one that was
  adopted sets none of its texts when it is reconciled, with
  any members and under any failures.
-/
theorem projected_texts_settled
    (w after : Workspace)
    (limits : Limits)
    (name : Datum)
    (adopted : Desired) :
    (∀ observed projected desired,
      observed.name.isText = true →
      project observed = .ok projected →
      desired.SameTexts projected →
      Drift.JudgesProjected desired observed) ∧
    (w.Reachable →
      limits.Positive →
      name.isText = true →
      (adopt limits name).Returns remote w adopted after →
      after = w ∧ ∃ room, w.Adopted name adopted room ∧
        (name.unescaped = .ok name →
          ∀ (limits' : Limits) (desired : Desired)
            (failures : Table Trigger Failure)
            (id? : Option Datum),
            limits'.Positive →
            desired.SameTexts adopted →
            id? = none ∨ id? = some room.state.id →
            ∀ request ∈
                ((reconcile limits' desired id?).run remote
                  (w.withFailures failures)).requests,
              request.setsText = false)) := by
  refine ⟨fun observed projected desired hText hProject hSame =>
    Drift.judgesProjected hText hProject hSame, ?_⟩
  intro hReach hLimits hName h
  rcases adopt_returned hReach.wellTyped hLimits hName h with
    ⟨hAfter, room, hAdopted⟩
  refine ⟨hAfter, room, hAdopted, ?_⟩
  intro hShown limits' desired failures id? hLimits' hSame
    hGiven
  have hDesired := hSame.name.trans hAdopted.name
  have hShows : room.state.Shows desired :=
    { name := by rw [hAdopted.named, hDesired, hShown]
      topic := by rw [hSame.topic, hAdopted.topic]
      description := by
        rw [hSame.description, hAdopted.description] }
  have hFirst :
      (w.withFailures failures).firstNamed desired.name =
        some room.state := by
    rw [hDesired]
    exact hAdopted.first
  exact reconcile_sets_no_text hLimits' (hDesired ▸ hName)
    hFirst hAdopted.found hAdopted.isText hShows hGiven

/- The sample workspace, with a topic that is stored escaped. -/
def Workspace.topical : Workspace :=
  (Workspace.sample.answer
    (.setTopic (.text "C1") (.text "R&D"))).2

/- What is adopted there has the topic as it is shown. -/
def Desired.topical : Desired where
  name := .text "lunch"
  topic := .text "R&D"
  members := [.text "U2"]

/- The same declaration with the address of the member. -/
def Desired.resolved : Desired :=
  { Desired.topical with members := [.text "b@x"] }

/- The sample channel there, as it is fetched. -/
def Observed.topical : Observed :=
  { Room.sample.state with
    topic := .text "R&amp;D"
    memberIds := [.text "U2"] }

/- The workspace with the topic can come about. -/
theorem Workspace.reachable_topical :
    Workspace.topical.Reachable :=
  Reachable.answer reachable_sample
    (show Request.WellTyped
        (.setTopic (.text "C1") (.text "R&D"))
      from ⟨rfl, rfl⟩)

/- The topic shows what was adopted, and is not set. -/
theorem projected_texts_settled_sample :
    Drift.JudgesProjected Desired.resolved
        Observed.topical ∧
      (adopt Limits.sample (.text "lunch")).Returns remote
        Workspace.topical Desired.topical
        Workspace.topical ∧
      ∀ request ∈
          ((reconcile Limits.sample Desired.resolved
            none).run remote
            (Workspace.topical.withFailures {})).requests,
        request.setsText = false := by
  have hReturns :
      (adopt Limits.sample (.text "lunch")).Returns remote
        Workspace.topical Desired.topical
        Workspace.topical :=
    ⟨by rfl, rfl⟩
  have hSame : Desired.resolved.SameTexts Desired.topical :=
    ⟨rfl, rfl, rfl⟩
  have hTopical :=
    projected_texts_settled Workspace.topical
      Workspace.topical Limits.sample (.text "lunch")
      Desired.topical
  rcases hTopical.2 reachable_topical Limits.positive_sample
      rfl hReturns with
    ⟨-, room, hAdopted, hSettled⟩
  exact ⟨hTopical.1 Observed.topical Desired.topical
      Desired.resolved rfl rfl hSame,
    hReturns,
    hSettled rfl Limits.sample Desired.resolved {} none
      Limits.positive_sample hSame (Or.inl rfl)⟩

/- The workspace whose name shows another can come about. -/
theorem Workspace.reachable_referring :
    Workspace.referring.Reachable :=
  Reachable.answer reachable_sample
    (show Request.WellTyped
        (.renameChannel (.text "C1") .referring)
      from ⟨rfl, rfl⟩)

/- The sample channel under that name, as it is fetched. -/
def Observed.fetched : Observed :=
  { Observed.referring with memberIds := [.text "U2"] }

/- What is adopted there. -/
def Desired.taken : Desired where
  name := .referring
  members := [.text "U2"]

/- The same declaration with the address of the member. -/
def Desired.referring : Desired :=
  { Desired.taken with members := [.text "b@x"] }

/-
  A declaration that was adopted finds another name in its
  own channel, although its members are the ones of the
  channel, and renames it.
-/
theorem adopted_name_differs :
    ∃ (w : Workspace) (adopted desired : Desired)
      (observed : Observed),
      w.Reachable ∧
        (adopt Limits.sample .referring).Returns remote w
          adopted w ∧
        project observed = .ok adopted ∧
        desired.SameTexts adopted ∧
        (Drift.detected desired observed).Returns remote w
          true w ∧
        (Drift.membershipDiffers desired observed).Returns
          remote w false w ∧
        .renameChannel observed.id desired.name ∈
          ((reconcile Limits.sample desired
            (some observed.id)).run remote w).writes := by
  have hShown :
      Observed.fetched.name.unescaped =
        .ok (.text "a&b") := by
    rfl
  have hDetected :
      Drift.detected .referring .fetched =
        (record (.nameDiffers (.text "C1")) >>= fun _ =>
          pure true) :=
    Drift.detected_of_other_name rfl hShown (by decide)
  refine ⟨.referring, .taken, .referring, .fetched,
    reachable_referring, ⟨by rfl, rfl⟩, by rfl,
    ⟨rfl, rfl, rfl⟩, ?_, ⟨by rfl, rfl⟩, by decide +kernel⟩
  rw [hDetected]
  exact ⟨rfl, rfl⟩

end ChannelSync
