import ChannelSync.Proofs.Reconciliation.Reports
import ChannelSync.Proofs.Run.Records

/-
  What is reported of the failures of the operations.

  The failures of the creation of a channel and of the
  listing of the channels are not reported: a run that ends
  with one of them ends with the failed request, and there is
  no event of the highest level before it.  All other
  failures are accounted for.

  Key definitions include:
    * `Search.Halted` and `Uncreated`
    * `Quiet`

  Key theorems include:
    * `uncreated_createOrFind`
    * `reported_reconcile` and `reported_adopt`
    * `failures_reported`
-/

------------------------------------------------------------
-- Finding and Creating
------------------------------------------------------------

namespace ChannelSync

open Program

variable {σ : Type}
variable {remote : Remote σ}
variable {limits : Limits}
variable {desired : Desired}
variable {limit name : Datum}
variable {s : σ}
variable {trace : List Mark}
variable {failure : Failure}

/-
  How a search ends without a channel: the listing failed, or
  the last page came, and nothing on it has the name.
-/
inductive Search.Halted
    (limit name : Datum) :
    List Mark → Failure → Prop where
  | unlisted
      (before : List Mark)
      {cursor : Datum}
      {failure : Failure} :
      Halted limit name
        (before ++
          [.exchanged ⟨.channelPage cursor limit,
            .error (.failure failure)⟩])
        failure
  | unfound
      (before : List Mark)
      {cursor : Datum}
      {page : Page Observed}
      (hAbsent :
        page.items.find? (fun c => c.name == name) = none)
      (hLast : page.next.truthy = false) :
      Halted limit name
        (before ++
          [.exchanged ⟨.channelPage cursor limit, .ok page⟩])
        (Search.noneNamed name)

/-
  How an attempt to get a channel without an identifier ends:
  it could not be created, or it is there and the search for
  it did not find it.
-/
inductive Uncreated
    (limits : Limits)
    (desired : Desired) :
    List Mark → Failure → Prop where
  | refused
      (before : List Mark)
      {failure : Failure} :
      Uncreated limits desired
        (before ++
          [.exchanged
            ⟨.createChannel desired.name desired.isPrivate,
              .error (.failure failure)⟩])
        failure
  | halted
      {trace : List Mark}
      {failure : Failure}
      (h :
        Search.Halted limits.channels desired.name trace
          failure) :
      Uncreated limits desired trace failure

/- No event of a trace has the highest level. -/
def Quiet
    (trace : List Mark) :
    Prop :=
  ∀ event, .noted event ∈ trace → event.level ≠ .error

namespace Search

/- What comes before a search does not matter. -/
theorem Halted.prepend
    (h : Halted limit name trace failure)
    (front : List Mark) :
    Halted limit name (front ++ trace) failure := by
  cases h with
  | unlisted =>
      rw [← List.append_assoc]
      exact .unlisted _
  | unfound before hAbsent hLast =>
      rw [← List.append_assoc]
      exact .unfound _ hAbsent hLast

/- The pages of the listing are searched one by one. -/
theorem halted_findFrom
    {bound before : Nat}
    {cursor : Datum}
    (h :
      ((findFrom limit name bound before cursor).run remote
        s).result = .error (.failure failure)) :
    Halted limit name
      ((findFrom limit name bound before cursor).run remote
        s).trace
      failure := by
  -- a page with a successor leaves it to the pages after it,
  -- and what happened before only goes in front of the trace
  induction bound generalizing before cursor s with
  | zero => cases h
  | succ bound ih =>
      unfold findFrom at h ⊢
      rcases failed_of_bind h with
        ⟨hFailed, hTrace⟩ | ⟨page, hPage, hRest, hTrace⟩
      · rw [hTrace]
        rw [run_send] at hFailed ⊢
        dsimp only at hFailed ⊢
        rw [hFailed]
        exact .unlisted []
      · rw [hTrace]
        revert hRest
        split
        case h_1 =>
            intro hRest
            cases hRest
        case h_2 hAbsent =>
            split
            case isTrue =>
                intro hRest
                exact (ih hRest).prepend _
            case isFalse hLast =>
                intro hRest
                cases hRest
                rw [run_send] at hPage ⊢
                dsimp only at hPage ⊢
                rw [hPage]
                exact .unfound [] hAbsent
                  (Bool.eq_false_iff.mpr hLast)

end Search

/- The whole listing is searched. -/
theorem halted_findByName
    (h :
      ((findByName limit name).run remote s).result =
        .error (.failure failure)) :
    Search.Halted limit name
      ((findByName limit name).run remote s).trace
      failure := by
  unfold findByName at h ⊢
  rcases failed_of_bind h with
    ⟨hFailed, -⟩ | ⟨bound, -, hFrom, hTrace⟩
  · cases hFailed
  · rw [hTrace]
    exact (Search.halted_findFrom hFrom).prepend _

/- A channel that could not be created was refused. -/
theorem refused_create
    (limits : Limits)
    (h :
      ((Access.create desired.name desired.isPrivate).run
        remote s).result = .error (.failure failure)) :
    Uncreated limits desired
      ((Access.create desired.name desired.isPrivate).run
        remote s).trace
      failure := by
  unfold Access.create at h ⊢
  rcases failed_of_bind h with
    ⟨hFailed, -⟩ | ⟨-, -, hSent, hTrace⟩
  · cases hFailed
  · rw [hTrace]
    rcases failed_of_bind hSent with
      ⟨hFailed, hTrace⟩ | ⟨channel, -, hLast, -⟩
    · rw [hTrace]
      rw [run_send] at hFailed ⊢
      dsimp only at hFailed ⊢
      rw [hFailed]
      exact .refused [_]
    · cases hLast

/- A channel is neither created nor found. -/
theorem uncreated_createOrFind
    (h :
      ((createOrFind limits desired).run remote s).result =
        .error (.failure failure)) :
    Uncreated limits desired
      ((createOrFind limits desired).run remote s).trace
      failure := by
  unfold createOrFind at h ⊢
  rcases failed_of_bind h with
    ⟨hFailed, -⟩ | ⟨reply, hReply, hRest, hTrace⟩
  · exact absurd hFailed (attempt_not_failed _ s failure)
  · rw [hTrace]
    cases reply with
    | ok id => cases hRest
    | error refusal =>
        rcases failed_of_attempt hReply with
          ⟨hRefused, hCreate⟩
        -- a conflict leads to a search, all else is passed on
        revert hRest
        dsimp only
        split
        · intro hRest
          rcases failed_of_bind hRest with
            ⟨hFailed, -⟩ | ⟨-, -, hSearch, hTrace⟩
          · cases hFailed
          · rw [hTrace]
            rcases failed_of_bind hSearch with
              ⟨hFailed, hTrace⟩ | ⟨channel, -, hLast, -⟩
            · rw [hTrace]
              exact .halted
                (((halted_findByName hFailed).prepend
                  _).prepend _)
            · cases hLast
        · intro hRest
          cases hRest
          rw [hCreate]
          have hTrace := refused_create limits hRefused
          exact (List.append_nil _).symm ▸ hTrace

/- A search has no failure on record. -/
theorem notes_findByName
    (limit name : Datum) :
    (findByName limit name).Notes fun event =>
      event.level ≠ .error := by
  have hFrom :
      ∀ bound before cursor,
        (Search.findFrom limit name bound before
          cursor).Notes fun event =>
            event.level ≠ .error := by
    intro bound
    induction bound with
    | zero => exact fun _ _ => trivial
    | succ bound ih =>
        intro before cursor
        apply (notes_send _).bind
        intro page
        split
        · exact ⟨nofun, trivial⟩
        · split
          · exact ih _ _
          · trivial
  intro bound
  exact hFrom bound _ _

/- Nor has creating a channel or finding it. -/
theorem notes_createOrFind
    (limits : Limits)
    (desired : Desired) :
    (createOrFind limits desired).Notes fun event =>
      event.level ≠ .error := by
  have hCreate :
      (Access.create desired.name desired.isPrivate).Notes
        fun event => event.level ≠ .error := by
    refine ⟨nofun, ?_⟩
    exact (notes_send _).bind fun _ => ⟨nofun, trivial⟩
  apply hCreate.attempt.bind
  rintro (failure | id)
  · dsimp only
    split
    · refine ⟨nofun, ?_⟩
      exact (notes_findByName _ _).bind fun _ => trivial
    · trivial
  · trivial

/- A program without such events leaves a quiet trace. -/
theorem quiet_of_notes
    {p : Program α}
    (h : p.Notes fun event => event.level ≠ .error)
    (s : σ) :
    Quiet (p.run remote s).trace := by
  intro event hEvent
  have hMem : event ∈ (p.run remote s).events :=
    List.mem_filterMap.mpr ⟨_, hEvent, rfl⟩
  exact h.events s event hMem

end ChannelSync

------------------------------------------------------------
-- Failures of Operations
------------------------------------------------------------

namespace ChannelSync

open Program

variable {σ : Type}
variable {remote : Remote σ}
variable {limits : Limits}
variable {desired : Desired}
variable {s : σ}
variable {failure : Failure}

/- A declaration is judged before anything is sent. -/
theorem trace_validate
    (desired : Desired)
    (s : σ) :
    ((validate desired).run remote s).trace = [] := by
  unfold validate
  split <;> rfl

/- One that is refused is not valid. -/
theorem invalid_of_validate
    (h :
      ((validate desired).run remote s).result =
        .error (.failure failure)) :
    desired.invalid? = some failure := by
  unfold validate at h
  split at h
  case h_1 refusal hInvalid =>
      cases h
      exact hInvalid
  case h_2 => cases h

/-
  A reconciliation that fails accounts for the failure, or it
  failed before there was a channel to bring in line.
-/
theorem reported_reconcile
    {id? : Option Datum}
    (h :
      ((reconcile limits desired id?).run remote s).result =
        .error (.failure failure)) :
    Accounted
        ((reconcile limits desired id?).run remote s).trace
        failure ∨
      desired.invalid? = some failure ∧
        ((reconcile limits desired id?).run remote
          s).trace = [] ∨
      id? = none ∧
        Uncreated limits desired
          ((reconcile limits desired id?).run remote s).trace
          failure ∧
        Quiet
          ((reconcile limits desired id?).run remote
            s).trace := by
  unfold reconcile at h ⊢
  rcases failed_of_bind h with
    ⟨hFailed, hTrace⟩ | ⟨-, hValid, hRest, hTrace⟩
  · rw [hTrace]
    exact Or.inr (Or.inl
      ⟨invalid_of_validate hFailed, trace_validate desired s⟩)
  · rw [hTrace, trace_validate, List.nil_append]
    cases id? with
    | some id =>
        exact Or.inl
          (reports_converge limits desired id _ failure hRest)
    | none =>
        rcases failed_of_bind hRest with
          ⟨hFailed, hTrace⟩ | ⟨id, -, hConverge, hTrace⟩
        · refine Or.inr (Or.inr ⟨rfl, ?_⟩)
          dsimp only
          rw [hTrace]
          exact ⟨uncreated_createOrFind hFailed,
            quiet_of_notes (notes_createOrFind _ _) _⟩
        · left
          dsimp only
          rw [hTrace]
          exact (reports_converge limits desired id _ failure
            hConverge).prepend _

/- So does an adoption, or the search for the channel failed. -/
theorem reported_adopt
    {name : Datum}
    (h :
      ((adopt limits name).run remote s).result =
        .error (.failure failure)) :
    Accounted ((adopt limits name).run remote s).trace
        failure ∨
      Search.Halted limits.channels name
          ((adopt limits name).run remote s).trace failure ∧
        Quiet ((adopt limits name).run remote s).trace := by
  unfold adopt at h ⊢
  rcases failed_of_bind h with
    ⟨hFailed, hTrace⟩ | ⟨channel, -, hRest, hTrace⟩
  · rw [hTrace]
    exact Or.inr ⟨halted_findByName hFailed,
      quiet_of_notes (notes_findByName _ _) _⟩
  · rw [hTrace]
    have hReports :
        (Access.fetch limits.members channel.id >>=
          fun observed => lift (project observed)).Reports
          remote :=
      Reports.bind ((Conduct.reporting remote).fetch _ _)
        fun _ => reports_lift _
    exact Or.inl ((hReports _ failure hRest).prepend _)

/-
  Reconciling, checking, archiving and adopting account for
  the failures that they end with.  There is no report of a
  channel that could not be created, nor of a search that
  failed: these are the two gaps.
-/
theorem failures_reported
    (remote : Remote σ)
    (limits : Limits)
    (s : σ)
    (failure : Failure) :
    (∀ desired id?,
      ((reconcile limits desired id?).run remote s).result =
          .error (.failure failure) →
        Accounted
            ((reconcile limits desired id?).run remote
              s).trace
            failure ∨
          desired.invalid? = some failure ∧
            ((reconcile limits desired id?).run remote
              s).trace = [] ∨
          id? = none ∧
            Uncreated limits desired
              ((reconcile limits desired id?).run remote
                s).trace
              failure ∧
            Quiet
              ((reconcile limits desired id?).run remote
                s).trace) ∧
    (∀ desired id,
      ((check limits desired id).run remote s).result =
          .error (.failure failure) →
        Accounted
          ((check limits desired id).run remote s).trace
          failure) ∧
    (∀ id,
      ((finalize id).run remote s).result =
          .error (.failure failure) →
        Accounted ((finalize id).run remote s).trace
          failure) ∧
    (∀ name,
      ((adopt limits name).run remote s).result =
          .error (.failure failure) →
        Accounted ((adopt limits name).run remote s).trace
            failure ∨
          Search.Halted limits.channels name
              ((adopt limits name).run remote s).trace
              failure ∧
            Quiet ((adopt limits name).run remote s).trace) :=
  ⟨fun _ _ => reported_reconcile,
    fun desired id =>
      (Conduct.reporting remote).check limits desired id s
        failure,
    fun id => reports_finalize id s failure,
    fun _ => reported_adopt⟩

/- The platform is out of order. -/
def Failure.outOfOrder : Failure :=
  .single .remote "no" (.text "") none

/-
  The sample workspace, where dinner cannot be created and the
  members of the channel cannot be listed.
-/
def Workspace.outOfOrder : Workspace :=
  Workspace.sample.withFailures ⟨[
    (⟨.text "create_channel", .text "dinner"⟩,
      Failure.outOfOrder),
    (⟨.text "list_channel_members", .text "C1"⟩,
      Failure.outOfOrder),
    (⟨.text "archive_channel", .text "C1"⟩,
      Failure.outOfOrder)]⟩

/- A channel with a topic, for somebody who is not known. -/
def Desired.forStranger : Desired where
  name := .text "lunch"
  topic := .text "soup"
  members := [.text "z@x"]

/-
  A user who is not known is reported, and so are failures of
  the other operations where something is out of order.
-/
theorem failures_reported_sample :
    Accounted
        ((reconcile Limits.sample .forStranger
          (some (.text "C1"))).run Workspace.remote
            .sample).trace
        (.partialMembership
          [Refusal.emailUnknown (.text "z@x")]) ∧
      Accounted
        ((check Limits.sample .sample (.text "C1")).run
          Workspace.remote .outOfOrder).trace
        .outOfOrder ∧
      Accounted
        ((finalize (.text "C1")).run Workspace.remote
          .outOfOrder).trace
        .outOfOrder ∧
      (Accounted
          ((adopt Limits.sample (.text "lunch")).run
            Workspace.remote .outOfOrder).trace
          .outOfOrder ∨
        Search.Halted Limits.sample.channels (.text "lunch")
            ((adopt Limits.sample (.text "lunch")).run
              Workspace.remote .outOfOrder).trace
            .outOfOrder ∧
          Quiet
            ((adopt Limits.sample (.text "lunch")).run
              Workspace.remote .outOfOrder).trace) := by
  have hReconcile :
      ((reconcile Limits.sample .forStranger
          (some (.text "C1"))).run Workspace.remote
            .sample).result =
        .error (.failure (.partialMembership
          [Refusal.emailUnknown (.text "z@x")])) := by
    rfl
  have hCheck :
      ((check Limits.sample .sample (.text "C1")).run
          Workspace.remote .outOfOrder).result =
        .error (.failure .outOfOrder) := by
    rfl
  have hFinalize :
      ((finalize (.text "C1")).run Workspace.remote
          .outOfOrder).result =
        .error (.failure .outOfOrder) := by
    rfl
  have hAdopt :
      ((adopt Limits.sample (.text "lunch")).run
          Workspace.remote .outOfOrder).result =
        .error (.failure .outOfOrder) := by
    rfl
  refine ⟨?_, ?_, ?_, ?_⟩
  · rcases (failures_reported Workspace.remote Limits.sample
        .sample _).1 _ _ hReconcile with
      h | ⟨hInvalid, -⟩ | ⟨hNone, -⟩
    · exact h
    · cases hInvalid
    · cases hNone
  · exact (failures_reported Workspace.remote Limits.sample
      .outOfOrder _).2.1 _ _ hCheck
  · exact (failures_reported Workspace.remote Limits.sample
      .outOfOrder _).2.2.1 _ hFinalize
  · exact (failures_reported Workspace.remote Limits.sample
      .outOfOrder _).2.2.2 _ hAdopt

/-
  The failure to create a channel is the failure of a request,
  and the only event is that the channel is being created.
-/
theorem creation_unreported :
    Workspace.outOfOrder.Reachable ∧
      Limits.sample.Positive ∧
      Desired.sample.WellTyped ∧
      ((reconcile Limits.sample .sample none).run
          Workspace.remote .outOfOrder).result =
        .error (.failure .outOfOrder) ∧
      ((reconcile Limits.sample .sample none).run
          Workspace.remote .outOfOrder).exchanges =
        [⟨.createChannel (.text "dinner") (.flag false),
          .error (.failure .outOfOrder)⟩] ∧
      ∀ event ∈
          ((reconcile Limits.sample .sample none).run
            Workspace.remote .outOfOrder).events,
        event.level ≠ .error := by
  refine ⟨Workspace.reachable_sample.failing _,
    Limits.positive_sample, Desired.wellTyped_sample,
    by rfl, by rfl, ?_⟩
  decide +kernel

end ChannelSync
