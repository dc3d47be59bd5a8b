import ChannelSync.Proofs.Access.Following
import ChannelSync.Proofs.Reconciliation.BestEffort

/-
  Reconciling over the web API as in a workspace.

  Whatever an operation does on a workspace, it does on the
  platform behind the web API as well, given a script with
  the answers of the workspace.  Value, kind of failure and
  code are the same, the calls are those of the requests one
  for one, and the script is used up.

  This holds where the failures that are laid in are such as
  the web API has, with a code that decides the kind.  It is
  shown for each part of a reconciliation from the programs
  that it is made of.

  Key definitions include:
    * `Workspace.scriptFor`
    * `Workspace.Simulates`

  Key theorems include:
    * `follows_findByName`
    * `follows_converge`
    * `operations_simulated`
-/

------------------------------------------------------------
-- Looking for Drift
------------------------------------------------------------

namespace ChannelSync

namespace Drift

open Program

variable {desired : Desired}
variable {observed : Observed}

/- Data are tested one by one. -/
theorem follows_anyFails
    {test : Datum → Program Bool}
    {event : Datum → Event}
    {ds : List Datum}
    (h : ∀ d ∈ ds, Follows Eq (test d) (test d)) :
    Follows Eq (anyFails test event ds)
      (anyFails test event ds) := by
  induction ds with
  | nil => exact follows_pure rfl
  | cons d rest ih =>
      rw [List.forall_mem_cons] at h
      apply h.1.bind
      rintro passed _ rfl
      split
      · exact ih h.2
      · apply (follows_record _ _).bind
        rintro _ _ rfl
        exact follows_pure rfl

/- The members are compared. -/
theorem follows_membershipDiffers
    (hDesired : desired.WellTyped)
    (hMembers :
      ∀ userId ∈ observed.memberIds,
        userId.isText = true) :
    Follows Eq (membershipDiffers desired observed)
      (membershipDiffers desired observed) := by
  have hEmail :
      ∀ email, email.isText = true →
        Follows Eq (testEmail observed email)
          (testEmail observed email) := by
    intro email hText
    apply (Access.follows_userByEmail hText).bind
    rintro user _ ⟨rfl, -⟩
    exact (follows_lift _).same
  have hMember :
      ∀ userId, userId.isText = true →
        Follows Eq (testMember desired userId)
          (testMember desired userId) := by
    intro userId hText
    apply (Access.follows_userById hText).bind
    rintro user _ rfl
    exact (follows_lift _).same
  apply (follows_lift _).bind
  rintro emails _ ⟨rfl, hEmails⟩
  replace hEmails := Datum.perm_of_sorted hEmails
  rw [anyMissing_eq]
  apply Follows.bind (follows_anyFails fun email hMem =>
    hEmail email
      (hDesired.members email (hEmails.subset hMem)))
  rintro missing _ rfl
  split
  · exact follows_pure rfl
  · apply (follows_lift _).bind
    rintro userIds _ ⟨rfl, hIds⟩
    replace hIds := Datum.perm_of_sorted hIds
    rw [anySurplus_eq]
    exact follows_anyFails fun userId hMem =>
      hMember userId (hMembers userId (hIds.subset hMem))

/- A channel is compared with its declaration. -/
theorem follows_detected
    (hDesired : desired.WellTyped)
    (hMembers :
      ∀ userId ∈ observed.memberIds,
        userId.isText = true) :
    Follows Eq (detected desired observed)
      (detected desired observed) := by
  apply (follows_lift _).bind
  rintro name _ ⟨rfl, -⟩
  split
  · apply (follows_record _ _).bind
    rintro _ _ rfl
    exact follows_pure rfl
  · apply (follows_lift _).bind
    rintro topic _ ⟨rfl, -⟩
    split
    · apply (follows_record _ _).bind
      rintro _ _ rfl
      exact follows_pure rfl
    · apply (follows_lift _).bind
      rintro description _ ⟨rfl, -⟩
      split
      · apply (follows_record _ _).bind
        rintro _ _ rfl
        exact follows_pure rfl
      · exact follows_membershipDiffers hDesired hMembers

end Drift

/- A failed check of the members is no failure. -/
theorem follows_membershipMayDiffer
    {desired : Desired}
    {observed : Observed}
    (hDesired : desired.WellTyped)
    (hMembers :
      ∀ userId ∈ observed.memberIds,
        userId.isText = true) :
    Program.Follows Eq (membershipMayDiffer desired observed)
      (membershipMayDiffer desired observed) := by
  have hCheck :=
    Drift.follows_membershipDiffers hDesired hMembers
  apply hCheck.attempt.bind
  rintro _ _ (hSame | hSame)
  · exact Program.follows_pure hSame
  · apply (Program.follows_record _ _).bind
    rintro _ _ rfl
    exact Program.follows_pure rfl

end ChannelSync

------------------------------------------------------------
-- Members
------------------------------------------------------------

namespace ChannelSync

namespace Roster

open Program

/- One invitation fails alike, if it fails. -/
theorem follows_inviteOne
    {id email : Datum}
    (hId : id.isText = true)
    (hEmail : email.isText = true) :
    Follows
      (fun a b =>
        List.Forall₂ Failure.Same a.toList b.toList)
      (inviteOne id email) (inviteOne id email) := by
  apply (Access.follows_userByEmail hEmail).attempt.bind
  rintro _ _ (⟨rfl, hUser⟩ | hSame)
  case ok user =>
      apply (follows_record _ _).bind
      rintro _ _ rfl
      have hInvite := Access.follows_invite hId hUser.id
      apply hInvite.attempt.bind
      rintro _ _ (hUnit | hSame)
      case ok => exact follows_pure .nil
      case error failure failure' =>
          simp only [Failure.isSettled, hSame.code_eq]
          apply (follows_lift _).bind
          rintro settled _ ⟨rfl, -⟩
          split
          · exact follows_pure .nil
          · apply (follows_record _ _).bind
            rintro _ _ rfl
            exact follows_pure (.cons hSame .nil)
  case error => exact follows_pure (.cons hSame .nil)

/- All invitations are made in turn. -/
theorem follows_inviteAll
    {id : Datum}
    {emails : List Datum}
    (hId : id.isText = true)
    (hEmails : ∀ email ∈ emails, email.isText = true) :
    Follows (List.Forall₂ Failure.Same)
      (inviteAll id emails) (inviteAll id emails) := by
  apply (follows_lift _).bind
  rintro ordered _ ⟨rfl, hOrdered⟩
  replace hOrdered := Datum.perm_of_sorted hOrdered
  replace hEmails :
      ∀ email ∈ ordered, email.isText = true :=
    fun email hMem =>
      hEmails email (hOrdered.subset hMem)
  clear hOrdered
  induction ordered with
  | nil => exact follows_pure .nil
  | cons email rest ih =>
      rw [List.forall_mem_cons] at hEmails
      apply (follows_inviteOne hId hEmails.1).bind
      intro failure failure' hSame
      apply (ih hEmails.2).bind
      intro failures failures' hRest
      exact follows_pure (List.rel_append hSame hRest)

/- Members are looked up, and may be removed. -/
theorem follows_removeEach
    {id : Datum}
    {emails userIds : List Datum}
    (hId : id.isText = true)
    (hUserIds :
      ∀ userId ∈ userIds, userId.isText = true) :
    Follows Eq (removeEach id emails userIds)
      (removeEach id emails userIds) := by
  induction userIds with
  | nil => exact follows_pure rfl
  | cons userId rest ih =>
      rw [List.forall_mem_cons] at hUserIds
      apply (Access.follows_userById hUserIds.1).bind
      rintro user _ rfl
      apply (follows_lift _).bind
      rintro stays _ ⟨rfl, -⟩
      split
      · exact ih hUserIds.2
      · apply (follows_record _ _).bind
        rintro _ _ rfl
        have hRemove :=
          Access.follows_remove hId hUserIds.1
        apply (hRemove.reporting _ _).bind
        rintro _ _ rfl
        exact ih hUserIds.2

/- Members are listed, and may be removed. -/
theorem follows_removeOthers
    {size : Nat}
    {id : Datum}
    {emails : List Datum}
    (hSize : 0 < size)
    (hId : id.isText = true) :
    Follows Eq (removeOthers (.number size) id emails)
      (removeOthers (.number size) id emails) := by
  apply (Access.follows_memberIds hId hSize).bind
  rintro userIds _ ⟨rfl, hUserIds⟩
  exact follows_removeEach hId hUserIds

end Roster

end ChannelSync

------------------------------------------------------------
-- Searching
------------------------------------------------------------

namespace ChannelSync

open Program

variable {w after : Workspace}
variable {name : Datum}
variable {size : Nat}

/-
  A search from a cursor on is replayed, if both bounds are
  large enough: one for the channels from there on, the other
  for the entries of the script.
-/
theorem replays_findFrom
    (hw : w.Faithful)
    (hSize : 0 < size)
    {bound bound' start before : Nat}
    (hStart : start < Numeral.numberLimit)
    (hBound : 0 < bound)
    (hChannels : w.states.length < start + bound)
    {result : Except Problem Observed}
    {exchanges : List Exchange}
    (h :
      (Search.findFrom (.number size) name bound before
          (Paging.cursorAt start)).Ends
        Workspace.remote w result after exchanges)
    {rest : List (Except ClientError Datum)}
    {sent : List ClientCall}
    (hBound' :
      (exchanges.flatMap Web.scripted ++ rest).length <
        bound') :
    (Search.findFrom (.number size) name bound' before
        (Paging.cursorAt start)).Replays
      (Shared fun channel => channel.id.isText = true)
      exchanges result rest sent := by
  induction bound generalizing bound' start before exchanges
      sent with
  | zero => omega
  | succ bound ih =>
      cases bound' with
      | zero => omega
      | succ bound' =>
          have hTyped :
              (Request.channelPage (Paging.cursorAt start)
                (.number size)).WellTyped :=
            ⟨Paging.isText_cursorAt start, rfl⟩
          unfold Search.findFrom at h ⊢
          apply replays_read_bind hw (follows_send hTyped)
            rfl id h hBound'
          intro page later sent hAnswer hShows hLater hFewer
          have hItems :=
            Workspace.page_of_channelPage hAnswer
          cases hFound :
              page.items.find? (fun c => c.name == name) with
          | some channel =>
              rw [hFound] at hLater
              have hMem := List.mem_of_find?_eq_some hFound
              have hText := (hShows.1 channel hMem).typed.id
              refine (Follows.bind (follows_record _ _) ?_ _
                hw _ _ _ hLater).2 rest _
              rintro _ _ rfl
              exact follows_pure ⟨rfl, hText⟩
          | none =>
              rw [hFound] at hLater
              rcases Paging.page_cases hSize hStart hItems
                  with
                ⟨hMore, hShort, rfl⟩ | ⟨hLast, rfl⟩
              · have hTruthy :=
                  Paging.truthy_cursorAt
                    (show start + size ≠ 0 by omega)
                simp only [hTruthy, if_true] at hLater ⊢
                exact ih hShort (by omega) (by omega) hLater
                  hFewer
              · have hNone :
                    (Search.noneNamed name).Same
                      (Search.noneNamed name) :=
                  .single _ _ _ _ _ _
                exact (follows_fail hNone _ hw _ _ _
                  hLater).2 rest _

/- The first channel of a name is found, or none is. -/
theorem follows_findByName
    (hSize : 0 < size) :
    Follows
      (Shared fun channel => channel.id.isText = true)
      (findByName (.number size) name)
      (findByName (.number size) name) := by
  apply follows_pages hSize (reads_findByName _ name)
  intro w hw result exchanges h rest sent bound hBound
  refine replays_findFrom hw hSize Numeral.numberLimit_pos
    (Nat.succ_pos _) ?_ h hBound
  rw [Workspace.length_states, Nat.zero_add]
  exact Nat.lt_succ_self _

end ChannelSync

------------------------------------------------------------
-- Steps of a Reconciliation
------------------------------------------------------------

namespace ChannelSync

open Program

variable {limits : Limits}
variable {desired : Desired}
variable {observed : Observed}
variable {id : Datum}

/- A declaration is refused alike. -/
theorem follows_validate
    (desired : Desired) :
    Follows Eq (validate desired) (validate desired) := by
  unfold validate Desired.invalid?
  split
  case h_1 failure hInvalid =>
      split at hInvalid
      · cases hInvalid
        exact follows_fail (.single _ _ _ _ _ _)
      · cases hInvalid
  case h_2 => exact follows_pure rfl

/- A channel is created, or found by its name. -/
theorem follows_createOrFind
    (hLimits : limits.Positive)
    (hDesired : desired.WellTyped) :
    Follows (Shared fun id => id.isText = true)
      (createOrFind limits desired)
      (createOrFind limits desired) := by
  rcases hLimits.channels with ⟨size, hSize, hLimit⟩
  have hCreate :=
    Access.follows_create hDesired.name hDesired.isPrivate
  apply hCreate.attempt.bind
  rintro _ _ (hId | hSame)
  case ok => exact follows_pure hId
  case error failure failure' =>
      simp only [hSame.isConflict_eq]
      split
      · apply (follows_record _ _).bind
        rintro _ _ rfl
        rw [hLimit]
        apply (follows_findByName hSize).bind
        rintro channel _ ⟨rfl, hText⟩
        exact follows_pure ⟨rfl, hText⟩
      · exact follows_fail hSame

/- The channel is taken out of the archive. -/
theorem follows_fetchActive
    (hLimits : limits.Positive)
    (hId : id.isText = true) :
    Follows
      (Shared fun observed =>
        ∀ userId ∈ observed.memberIds, userId.isText = true)
      (fetchActive limits id) (fetchActive limits id) := by
  rcases hLimits.members with ⟨size, hSize, hLimit⟩
  have hFetch := Access.follows_fetch hId hSize
  rw [← hLimit] at hFetch
  apply hFetch.bind
  rintro observed _ ⟨rfl, hMembers⟩
  split
  · apply (follows_record _ _).bind
    rintro _ _ rfl
    apply (Access.follows_unarchive hId).bind
    rintro _ _ rfl
    exact hFetch
  · exact follows_pure ⟨rfl, hMembers⟩

/- Nothing is sent about the privacy. -/
theorem follows_notePrivacy :
    Follows Eq (notePrivacy desired observed id)
      (notePrivacy desired observed id) := by
  unfold notePrivacy
  split
  · exact follows_pure rfl
  · exact follows_record _ _

/- The members are brought in line. -/
theorem follows_alignMembers
    (hLimits : limits.Positive)
    (hDesired : desired.WellTyped)
    (hId : id.isText = true) :
    Follows Eq (alignMembers limits desired id)
      (alignMembers limits desired id) := by
  rcases hLimits.members with ⟨size, hSize, hLimit⟩
  apply (Roster.follows_inviteAll hId
    hDesired.members).bind
  intro failures failures' hSame
  rw [hLimit]
  apply (Roster.follows_removeOthers hSize hId).bind
  rintro _ _ rfl
  cases hSame with
  | nil => exact follows_pure rfl
  | cons hFirst hRest =>
      exact follows_fail
        (.partialMembership (.cons hFirst hRest))

/- A channel is brought in line, and fetched again. -/
theorem follows_converge
    (hLimits : limits.Positive)
    (hDesired : desired.WellTyped)
    (hId : id.isText = true) :
    Follows Eq (converge limits desired id)
      (converge limits desired id) := by
  rcases hLimits.members with ⟨size, hSize, hLimit⟩
  have hFetch := (Access.follows_fetch hId hSize).same
  rw [← hLimit] at hFetch
  apply (follows_fetchActive hLimits hId).bind
  rintro observed _ ⟨rfl, hMembers⟩
  apply follows_notePrivacy.bind
  rintro _ _ rfl
  apply (Drift.follows_detected hDesired hMembers).bind
  rintro drift _ rfl
  split
  · apply (follows_record _ _).bind
    rintro _ _ rfl
    apply (Access.follows_alignAttributes hDesired hId).bind
    rintro _ _ rfl
    apply (follows_membershipMayDiffer hDesired
      hMembers).bind
    rintro mayDiffer _ rfl
    split
    · apply (follows_alignMembers hLimits hDesired hId).bind
      rintro _ _ rfl
      exact hFetch
    · exact hFetch
  · apply (follows_record _ _).bind
    rintro _ _ rfl
    exact follows_pure rfl

end ChannelSync

------------------------------------------------------------
-- Operations
------------------------------------------------------------

namespace ChannelSync

open Program

variable {limits : Limits}
variable {desired : Desired}
variable {id : Datum}

/- A reconciliation follows itself. -/
theorem follows_reconcile
    (hLimits : limits.Positive)
    (hDesired : desired.WellTyped)
    {id? : Option Datum}
    (hId : ∀ id, id? = some id → id.isText = true) :
    Follows Eq (reconcile limits desired id?)
      (reconcile limits desired id?) := by
  apply (follows_validate desired).bind
  rintro _ _ rfl
  cases id? with
  | some id =>
      exact follows_converge hLimits hDesired (hId id rfl)
  | none =>
      apply (follows_createOrFind hLimits hDesired).bind
      rintro id _ ⟨rfl, hText⟩
      exact follows_converge hLimits hDesired hText

/- So does a check. -/
theorem follows_check
    (hLimits : limits.Positive)
    (hDesired : desired.WellTyped)
    (hId : id.isText = true) :
    Follows Eq (check limits desired id)
      (check limits desired id) := by
  rcases hLimits.members with ⟨size, hSize, hLimit⟩
  unfold check
  rw [hLimit]
  apply (Access.follows_fetch hId hSize).bind
  rintro observed _ ⟨rfl, hMembers⟩
  exact Drift.follows_detected hDesired hMembers

/- So does an adoption. -/
theorem follows_adopt
    (hLimits : limits.Positive)
    (name : Datum) :
    Follows Eq (adopt limits name) (adopt limits name) := by
  rcases hLimits.channels with ⟨_, hChannels, hChannelLimit⟩
  rcases hLimits.members with ⟨_, hMembers, hMemberLimit⟩
  unfold adopt
  rw [hChannelLimit, hMemberLimit]
  apply (follows_findByName hChannels).bind
  rintro channel _ ⟨rfl, hText⟩
  apply (Access.follows_fetch hText hMembers).bind
  rintro observed _ ⟨rfl, -⟩
  exact (follows_lift _).same

/- So does putting a channel away. -/
theorem follows_finalize
    (hId : id.isText = true) :
    Follows Eq (finalize id) (finalize id) := by
  apply (Access.follows_archive hId).attempt.bind
  rintro _ _ (hSame | hSame)
  case ok => exact follows_pure rfl
  case error failure failure' =>
      simp only [hSame.isNotFound_eq]
      split
      · exact follows_record _ _
      · exact follows_fail hSame

end ChannelSync

------------------------------------------------------------
-- Simulation
------------------------------------------------------------

namespace ChannelSync

open Program

/-
  The script that answers like a workspace, one request of a
  program after the other.
-/
def Workspace.scriptFor
    (w : Workspace)
    (p : Program α) :
    Script where
  entries :=
    (p.run remote w).exchanges.flatMap Web.scripted

/-
  With the script that answers like a workspace, a program
  comes to the same result over the web API.  It makes the
  calls of its requests one for one and uses the script up.
-/
structure Workspace.Simulates
    (w : Workspace)
    (p : Program α) :
    Prop where
  result :
    Matches Eq (p.run remote w).result
      (p.run (Web.remote Script.client)
        (w.scriptFor p)).result
  sent :
    (p.run (Web.remote Script.client)
        (w.scriptFor p)).state.sent =
      (p.run remote w).exchanges.flatMap Web.callsOf
  entries :
    (p.run (Web.remote Script.client)
        (w.scriptFor p)).state.entries =
      []

/- What follows itself is simulated. -/
theorem Workspace.Faithful.simulates
    {w : Workspace}
    {p : Program α}
    (hw : w.Faithful)
    (h : Follows Eq p p) :
    w.Simulates p := by
  rcases (h w hw _ _ _ (ends_run _ p w)).2 [] [] with
    ⟨result', exchanges', hEnds, hMatch⟩
  rw [List.append_nil, List.nil_append] at hEnds
  have hResult :
      (p.run (Web.remote Script.client)
        (w.scriptFor p)).result = result' :=
    hEnds.result_eq
  have hState :
      (p.run (Web.remote Script.client)
          (w.scriptFor p)).state =
        ⟨[], (p.run remote w).exchanges.flatMap
          Web.callsOf⟩ :=
    hEnds.state_eq
  exact
    { result := hResult ▸ hMatch
      sent := by rw [hState]
      entries := by rw [hState] }

/-
  Over the web API every operation does what it does in a
  workspace, where the failures that are laid in have a code
  that decides their kind: the result says the same, and the
  calls are those of the requests one for one.
-/
theorem operations_simulated
    {w : Workspace}
    {limits : Limits}
    (hReachable : w.Reachable)
    (hMapped :
      ∀ trigger failure,
        w.failures.get? trigger = some failure →
          failure.Mapped)
    (hLimits : limits.Positive) :
    (∀ desired id?,
        desired.WellTyped →
        (∀ id, id? = some id → id.isText = true) →
          w.Simulates (reconcile limits desired id?)) ∧
      (∀ desired id,
        desired.WellTyped → id.isText = true →
          w.Simulates (check limits desired id)) ∧
      (∀ name, w.Simulates (adopt limits name)) ∧
      (∀ id, id.isText = true →
          w.Simulates (finalize id)) := by
  have hw : w.Faithful := ⟨hReachable.wellTyped, hMapped⟩
  refine ⟨fun desired id? hDesired hId => ?_,
    fun desired id hDesired hId => ?_, fun name => ?_,
    fun id hId => ?_⟩
  · exact hw.simulates
      (follows_reconcile hLimits hDesired hId)
  · exact hw.simulates (follows_check hLimits hDesired hId)
  · exact hw.simulates (follows_adopt hLimits name)
  · exact hw.simulates (follows_finalize hId)

/-
  In the sample one user cannot be invited, in either case.
  The check asks for the channel and for one page of members.
-/
theorem operations_simulated_sample :
    let w :=
      Workspace.sample.withFailures Workspace.sampleFailures
    w.Simulates
        (reconcile Limits.sample Desired.sample
          (some (.text "C1"))) ∧
      w.Simulates
        (check Limits.sample Desired.sample (.text "C1")) ∧
      w.Simulates
        (adopt Limits.sample Desired.sample.name) ∧
      w.Simulates (finalize (.text "C1")) ∧
      ((check Limits.sample Desired.sample (.text "C1")).run
          (Web.remote Script.client)
          (w.scriptFor
            (check Limits.sample Desired.sample
              (.text "C1")))).state.sent =
        [⟨"conversations_info", [("channel", .text "C1")]⟩,
          ⟨"conversations_members",
            [("channel", .text "C1"), ("cursor", .null),
              ("limit", .number 1)]⟩] := by
  have hAll :=
    operations_simulated
      (Workspace.reachable_sample.failing
        Workspace.sampleFailures)
      (by
        intro trigger failure h
        rw [Workspace.get?_sampleFailures h]
        exact .single _ _ rfl)
      Limits.positive_sample
  rcases hAll with
    ⟨hReconcile, hCheck, hAdopt, hFinalize⟩
  have hChecked :=
    hCheck _ (.text "C1") Desired.wellTyped_sample rfl
  refine ⟨hReconcile _ _ Desired.wellTyped_sample ?_,
    hChecked, hAdopt _, hFinalize _ rfl,
    hChecked.sent.trans rfl⟩
  intro id hId
  cases hId
  rfl

end ChannelSync
