import ChannelSync.Proofs.Reconciliation.Drift
import ChannelSync.Proofs.Reconciliation.Target

/-
  The verdict of the check for drift.

  The check looks users up one after the other: first the
  declared addresses, then the reported members, either in
  the order of their texts.  It goes on as long as a look-up
  bears the reported channel out.  The first one that does
  not is the verdict, and the first one that is refused is
  the problem; nothing is looked up after it.

  So there is no drift only if everything was looked up and
  agrees, and no refusal is taken for a verdict.

  Key definitions include:
    * `Drift.lookUps`
    * `Workspace.Says`
    * `Workspace.Search`
    * `Workspace.Judges`

  Key theorems include:
    * `Drift.anyFails_search`
    * `Drift.membershipDiffers_search`
    * `Drift.detected_judges`
-/

------------------------------------------------------------
-- Look-Ups of a Check
------------------------------------------------------------

namespace ChannelSync

namespace Drift

/- What the check of the members asks, in its order. -/
def lookUps
    (desired : Desired)
    (observed : Observed) :
    List Request :=
  (desired.members.mergeSort Datum.textLE).map
      .userByEmail ++
    (observed.memberIds.mergeSort Datum.textLE).map
      .userById

end Drift

namespace Workspace

/-
  What a look-up says about a reported channel: whether the
  user of an address is a member, whether a member is
  welcome, or that there is a problem.
-/
inductive Says
    (w : Workspace)
    (desired : Desired)
    (observed : Observed) :
    Request → Except Problem Bool → Prop where
  | address
      {email : Datum}
      {user : User}
      (hUser :
        (w.answer (.userByEmail email)).1 = .ok user) :
      Says w desired observed (.userByEmail email)
        (.ok (decide (user.id ∈ observed.memberIds)))
  | member
      {userId : Datum}
      {user : User}
      (hUser :
        (w.answer (.userById userId)).1 = .ok user) :
      Says w desired observed (.userById userId)
        (.ok (decide (user.Welcome desired.members)))
  | refused
      {request : Request}
      {problem : Problem}
      (hProblem :
        (w.answer request).1 = .error problem) :
      Says w desired observed request (.error problem)

/-
  How going through some look-ups ends: what comes out, and
  which of them have been made by then.
-/
inductive Search
    (w : Workspace)
    (desired : Desired)
    (observed : Observed) :
    List Request → Except Problem Bool → List Request →
      Prop where
  | agreed
      {requests : List Request}
      (hAll :
        ∀ request ∈ requests,
          w.Says desired observed request (.ok true)) :
      Search w desired observed requests (.ok false)
        requests
  | differs
      {before later : List Request}
      {request : Request}
      (hBefore :
        ∀ other ∈ before,
          w.Says desired observed other (.ok true))
      (hDiffers :
        w.Says desired observed request (.ok false)) :
      Search w desired observed
        (before ++ request :: later) (.ok true)
        (before ++ [request])
  | refused
      {before later : List Request}
      {request : Request}
      {problem : Problem}
      (hBefore :
        ∀ other ∈ before,
          w.Says desired observed other (.ok true))
      (hRefused :
        w.Says desired observed request
          (.error problem)) :
      Search w desired observed
        (before ++ request :: later) (.error problem)
        (before ++ [request])

variable {w : Workspace}
variable {desired : Desired}
variable {observed : Observed}
variable {requests others made : List Request}
variable {request : Request}
variable {verdict : Except Problem Bool}
variable {problem : Problem}

/- A look-up that has a problem was refused. -/
theorem Says.refusal
    (h : w.Says desired observed request
      (.error problem)) :
    (w.answer request).1 = .error problem := by
  cases h with
  | refused hProblem => exact hProblem

/- Where the first look-up bears out, the rest decides. -/
theorem Search.cons
    (hFirst : w.Says desired observed request (.ok true))
    (h : w.Search desired observed requests verdict made) :
    w.Search desired observed (request :: requests)
      verdict (request :: made) := by
  cases h with
  | agreed hAll =>
      exact .agreed (List.forall_mem_cons.mpr ⟨hFirst, hAll⟩)
  | differs hBefore hDiffers =>
      rw [← List.cons_append, ← List.cons_append]
      exact .differs
        (List.forall_mem_cons.mpr ⟨hFirst, hBefore⟩) hDiffers
  | refused hBefore hRefused =>
      rw [← List.cons_append, ← List.cons_append]
      exact .refused
        (List.forall_mem_cons.mpr ⟨hFirst, hBefore⟩) hRefused

/- Where some look-ups bear out, the others decide. -/
theorem Search.append
    (h : w.Search desired observed others verdict made)
    (hFirst :
      ∀ request ∈ requests,
        w.Says desired observed request (.ok true)) :
    w.Search desired observed (requests ++ others) verdict
      (requests ++ made) := by
  induction requests with
  | nil => exact h
  | cons request rest ih =>
      rcases List.forall_mem_cons.mp hFirst with
        ⟨hHead, hRest⟩
      exact (ih hRest).cons hHead

/- A search that agrees has been through everything. -/
theorem Search.through
    (h : w.Search desired observed requests (.ok false)
      made) :
    made = requests ∧
      ∀ request ∈ requests,
        w.Says desired observed request (.ok true) := by
  cases h with
  | agreed hAll => exact ⟨rfl, hAll⟩

/- A search that finds a difference finds it somewhere. -/
theorem Search.found
    (h : w.Search desired observed requests (.ok true)
      made) :
    ∃ before request later,
      requests = before ++ request :: later ∧
        (∀ other ∈ before,
          w.Says desired observed other (.ok true)) ∧
        w.Says desired observed request (.ok false) ∧
        made = before ++ [request] := by
  cases h with
  | differs hBefore hDiffers =>
      exact ⟨_, _, _, rfl, hBefore, hDiffers, rfl⟩

/- A search that has a problem has it somewhere. -/
theorem Search.failed
    (h : w.Search desired observed requests
      (.error problem) made) :
    ∃ before request later,
      requests = before ++ request :: later ∧
        (∀ other ∈ before,
          w.Says desired observed other (.ok true)) ∧
        (w.answer request).1 = .error problem ∧
        made = before ++ [request] := by
  cases h with
  | refused hBefore hRefused =>
      exact ⟨_, _, _, rfl, hBefore, hRefused.refusal, rfl⟩

/- A verdict that does not go on leaves the others out. -/
theorem Search.stop
    (h : w.Search desired observed requests verdict made)
    (hStops : verdict ≠ .ok false)
    (others : List Request) :
    w.Search desired observed (requests ++ others) verdict
      made := by
  cases h with
  | agreed _ => exact absurd rfl hStops
  | differs hBefore hDiffers =>
      rw [List.append_assoc]
      exact .differs hBefore hDiffers
  | refused hBefore hRefused =>
      rw [List.append_assoc]
      exact .refused hBefore hRefused

end Workspace

end ChannelSync

------------------------------------------------------------
-- One Look-Up
------------------------------------------------------------

namespace ChannelSync

namespace Drift

open Program Workspace

variable {w : Workspace}
variable {desired : Desired}
variable {observed : Observed}

/- A test of an answer ends as the answer says. -/
theorem ends_test
    {request : Request}
    (hRead : request.isWrite = false)
    {event : Failure → Event}
    {judge : request.Answer → Except Fault Bool}
    (said : request.Answer → Bool)
    (hJudge :
      ∀ answer, (w.answer request).1 = .ok answer →
        judge answer = .ok (said answer)) :
    ((send request).reporting event >>=
        fun answer => lift (judge answer)).Ends remote w
      ((w.answer request).1.map said) w
      [⟨request, (w.answer request).1⟩] := by
  cases hAnswer : (w.answer request).1 with
  | error problem =>
      exact (Access.ends_of_answer hRead
        hAnswer).bind_error _
  | ok answer =>
      refine (Access.ends_of_answer hRead hAnswer).bind
        (ends_lift.mpr ⟨?_, rfl, rfl⟩)
      rw [hJudge answer hAnswer]
      rfl

/- An address is tested by looking it up. -/
theorem testEmail_ends
    (hw : w.WellTyped)
    {email : Datum}
    (hEmail : email.isText = true) :
    ∃ finding,
      w.Says desired observed (.userByEmail email)
          finding ∧
        (testEmail observed email).Ends remote w finding w
          [⟨.userByEmail email,
            (w.answer (.userByEmail email)).1⟩] := by
  refine ⟨_, ?_, ends_test rfl
    (fun user : User =>
      decide (user.id ∈ observed.memberIds)) ?_⟩
  · cases hUser : (w.answer (.userByEmail email)).1 with
    | error problem => exact .refused hUser
    | ok user => exact .address hUser
  · intro user hUser
    have hUserId :=
      (hw.get?_of_userByEmail hEmail
        (userByEmail_of_answer hUser)).1.id
    exact Datum.isIn_eq_ok hUserId _

/- A member is tested by looking it up. -/
theorem testMember_ends
    (hw : w.WellTyped)
    {userId : Datum}
    (hUserId : userId.isText = true) :
    ∃ finding,
      w.Says desired observed (.userById userId) finding ∧
        (testMember desired userId).Ends remote w finding w
          [⟨.userById userId,
            (w.answer (.userById userId)).1⟩] := by
  refine ⟨_, ?_, ends_test rfl
    (fun user : User =>
      decide (user.Welcome desired.members)) ?_⟩
  · cases hUser : (w.answer (.userById userId)).1 with
    | error problem => exact .refused hUser
    | ok user => exact .member hUser
  · intro user hUser
    exact allowed_eq (hw.user_of_get? hUserId
      (get?_of_answer hUserId hUser)).1 _

end Drift

end ChannelSync

------------------------------------------------------------
-- Many Look-Ups
------------------------------------------------------------

namespace ChannelSync

namespace Drift

open Program Workspace

variable {w : Workspace}
variable {desired : Desired}
variable {observed : Observed}

/-
  A search whose tests look users up goes through these
  look-ups.
-/
theorem anyFails_search
    {test : Datum → Program Bool}
    {event : Datum → Event}
    {ask : Datum → Request}
    {ds : List Datum}
    (hTest :
      ∀ d ∈ ds, ∃ finding,
        w.Says desired observed (ask d) finding ∧
          (test d).Ends remote w finding w
            [⟨ask d, (w.answer (ask d)).1⟩]) :
    ∃ verdict exchanges,
      (anyFails test event ds).Ends remote w verdict w
          exchanges ∧
        w.Search desired observed (ds.map ask) verdict
          (exchanges.map fun x => x.request) := by
  induction ds with
  | nil =>
      exact ⟨.ok false, [], ends_pure_self,
        .agreed (by simp)⟩
  | cons d rest ih =>
      rcases hTest d (by simp) with
        ⟨finding, hSays, hFirst⟩
      rcases ih fun other hOther => hTest other
          (by simp [hOther]) with
        ⟨verdict, exchanges, hRest, hSearch⟩
      rw [List.map_cons]
      cases finding with
      | error problem =>
          exact ⟨_, _, hFirst.bind_error _,
            Search.refused (List.forall_mem_nil _) hSays⟩
      | ok passed =>
          cases passed with
          | true =>
              exact ⟨verdict, _, hFirst.bind hRest,
                hSearch.cons hSays⟩
          | false =>
              exact ⟨.ok true, _,
                hFirst.bind
                  (ends_record_bind.mpr ends_pure_self),
                Search.differs (List.forall_mem_nil _) hSays⟩

/- The check of the members goes through its look-ups. -/
theorem membershipDiffers_search
    (hw : w.WellTyped)
    (hDesired : desired.WellTyped)
    (hMembers :
      ∀ userId ∈ observed.memberIds, userId.isText = true) :
    ∃ verdict exchanges,
      (membershipDiffers desired observed).Ends remote w
          verdict w exchanges ∧
        w.Search desired observed (lookUps desired observed)
          verdict (exchanges.map fun x => x.request) := by
  have hEmails :=
    @anyFails_search w desired observed
      (testEmail observed) (.memberMissing observed.id)
      .userByEmail
      (desired.members.mergeSort Datum.textLE)
      fun email hMem => testEmail_ends hw
        (hDesired.members email (List.mem_mergeSort.mp hMem))
  have hUserIds :=
    @anyFails_search w desired observed
      (testMember desired) (.memberSurplus observed.id)
      .userById
      (observed.memberIds.mergeSort Datum.textLE)
      fun userId hMem => testMember_ends hw
        (hMembers userId (List.mem_mergeSort.mp hMem))
  rcases hEmails with
    ⟨missing, first, hMissing, hFirst⟩
  rcases hUserIds with
    ⟨surplus, second, hSurplus, hSecond⟩
  unfold membershipDiffers lookUps
  simp only [anyMissing_eq, anySurplus_eq,
    Datum.sorted_texts hDesired.members,
    Datum.sorted_texts hMembers, lift, ← pure_eq, pure_bind]
  cases missing with
  | error problem =>
      exact ⟨.error problem, first, hMissing.bind_error _,
        hFirst.stop (by simp) _⟩
  | ok found =>
      cases found with
      | true =>
          exact ⟨.ok true, _, hMissing.bind ends_pure_self,
            by simpa using hFirst.stop (by simp) _⟩
      | false =>
          -- All addresses bear out: the members decide.
          rcases hFirst.through with ⟨hMade, hAll⟩
          refine ⟨surplus, _, hMissing.bind hSurplus, ?_⟩
          rw [List.map_append, hMade]
          exact hSecond.append hAll

end Drift

end ChannelSync

------------------------------------------------------------
-- The Verdict
------------------------------------------------------------

namespace ChannelSync

open Program Workspace

/-
  What a run of the check for drift comes to: no drift if
  everything agrees, drift if something really differs, and
  a problem if a look-up was refused before anything was
  found to differ.  An attribute that differs is drift at
  once.
-/
structure Workspace.Judges
    (w : Workspace)
    (desired : Desired)
    (observed : Observed)
    (run : Run Workspace Bool) :
    Prop where
  agreed :
    run.result = .ok false ↔
      observed.Shows desired ∧
        w.Agrees desired.members observed.memberIds
  differs :
    run.result = .ok true →
      ¬ observed.Shows desired ∨
        ∃ before request later,
          Drift.lookUps desired observed =
              before ++ request :: later ∧
            (∀ other ∈ before,
              w.Says desired observed other (.ok true)) ∧
            w.Says desired observed request (.ok false) ∧
            run.requests = before ++ [request]
  refused :
    ∀ problem, run.result = .error problem →
      observed.Shows desired ∧
        ∃ before request later,
          Drift.lookUps desired observed =
              before ++ request :: later ∧
            (∀ other ∈ before,
              w.Says desired observed other (.ok true)) ∧
            (w.answer request).1 = .error problem ∧
            run.requests = before ++ [request]
  silent :
    ¬ observed.Shows desired →
      run.result = .ok true ∧ run.exchanges = []

namespace Drift

variable {w : Workspace}
variable {desired : Desired}
variable {observed : Observed}

/- An attribute that differs is drift at once. -/
theorem ends_compare
    {stored declared : Datum}
    (hDeclared : declared.isText = true)
    (hReadable : ∃ shown, stored.unescaped = .ok shown)
    {event : Event}
    {rest : Program Bool}
    (hRest :
      stored.unescaped = .ok declared →
        rest.Ends remote w (.ok true) w []) :
    (lift stored.unescaped >>= fun shown =>
        if shown != declared then
          record event >>= fun _ => pure true
        else rest).Ends remote w (.ok true) w [] := by
  rcases hReadable with ⟨shown, hShown⟩
  by_cases hSame : shown = declared
  · subst hSame
    rw [compare_of_shown hShown]
    exact hRest hShown
  · rw [compare_of_differs hDeclared hShown hSame]
    exact ends_record_bind.mpr
      ends_pure_self

/- Where an attribute differs, nobody is looked up. -/
theorem detected_of_not_shown
    (hDesired : desired.WellTyped)
    (hReadable : observed.Readable)
    (h : ¬ observed.Shows desired) :
    (detected desired observed).Ends remote w (.ok true) w
      [] :=
  ends_compare hDesired.name hReadable.name fun hName =>
    ends_compare hDesired.topic hReadable.topic fun hTopic =>
      ends_compare hDesired.description
        hReadable.description fun hDescription =>
          absurd ⟨hName, hTopic, hDescription⟩ h

/- No drift is detected exactly if everything agrees. -/
theorem detected_result_false_iff
    (hw : w.WellTyped)
    (hDesired : desired.WellTyped)
    (hMembers :
      ∀ userId ∈ observed.memberIds, userId.isText = true) :
    ((detected desired observed).run remote w).result =
        .ok false ↔
      observed.Shows desired ∧
        w.Agrees desired.members observed.memberIds := by
  constructor
  · intro hResult
    rcases (detected_false_iff hw hDesired hMembers).mp
        ⟨hResult, rfl⟩ with
      ⟨hName, hTopic, hDescription, -, hAgrees⟩
    exact ⟨⟨hName, hTopic, hDescription⟩, hAgrees⟩
  · intro h
    rcases h with ⟨hShows, hAgrees⟩
    exact ((detected_false_iff hw hDesired hMembers).mpr
      ⟨hShows.name, hShows.topic, hShows.description, rfl,
        hAgrees⟩).result_eq

/-
  The check says that there is no drift only if there is
  none, and that there is some only if there is; and a
  look-up that is refused leaves it without a verdict.
-/
theorem detected_judges
    (hReachable : w.Reachable)
    (hDesired : desired.WellTyped)
    (hMembers :
      ∀ userId ∈ observed.memberIds, userId.isText = true)
    (hReadable : observed.Readable) :
    w.Judges desired observed
      ((detected desired observed).run remote w) := by
  have hw := hReachable.wellTyped
  have hAgreed :=
    detected_result_false_iff hw hDesired hMembers
  by_cases hShows : observed.Shows desired
  · rcases membershipDiffers_search hw hDesired hMembers
      with ⟨verdict, exchanges, hEnds, hSearch⟩
    rw [← detected_of_shows hShows] at hEnds
    rcases hEnds with ⟨hResult, -, rfl⟩
    refine ⟨hAgreed, ?_, ?_, fun h => absurd hShows h⟩
    · intro hTrue
      cases hResult.symm.trans hTrue
      exact Or.inr hSearch.found
    · intro problem hProblem
      cases hResult.symm.trans hProblem
      exact ⟨hShows, hSearch.failed⟩
  · have hEnds := @detected_of_not_shown w desired observed
      hDesired hReadable hShows
    refine ⟨hAgreed, fun _ => Or.inl hShows, ?_,
      fun _ => ⟨hEnds.result_eq, hEnds.exchanges_eq⟩⟩
    intro problem hProblem
    cases hEnds.result_eq.symm.trans hProblem

end Drift

/- A member of the small workspace cannot be looked up. -/
def Workspace.unanswering : Workspace :=
  Workspace.sample.withFailures
    ⟨[(⟨.text "get_user_info", .text "U2"⟩,
      .single .remote "no" (.text "restricted") none)]⟩

/- The channel with two members, of whom one is declared. -/
def Observed.attended : Observed where
  id := .text "C1"
  name := .text "dinner"
  memberIds := [.text "U1", .text "U2"]

/- The declared user and one member are fine, one is not. -/
theorem Drift.detected_judges_sample :
    ((detected Desired.sample Observed.attended).run remote
        Workspace.unanswering).result =
      .error (.failure
        (.single .remote "no" (.text "restricted") none)) ∧
    Workspace.unanswering.Judges Desired.sample
      Observed.attended
      ((detected Desired.sample Observed.attended).run
        remote Workspace.unanswering) := by
  have hMembers :
      ∀ userId ∈ Observed.attended.memberIds,
        userId.isText = true := by
    decide
  have hSorted :
      Datum.sorted Observed.attended.memberIds =
        .ok Observed.attended.memberIds := by
    rw [Datum.sorted_texts hMembers]
    exact congrArg Except.ok
      (List.mergeSort_of_pairwise (by decide))
  constructor
  · unfold detected membershipDiffers
    rw [hSorted]
    rfl
  · exact detected_judges (reachable_sample.failing _)
      Desired.wellTyped_sample hMembers
      ⟨⟨_, rfl⟩, ⟨_, rfl⟩, ⟨_, rfl⟩⟩

end ChannelSync
