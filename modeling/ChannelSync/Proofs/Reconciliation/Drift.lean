import ChannelSync.Proofs.Access.Requests
import ChannelSync.Proofs.Access.Setting
import ChannelSync.Proofs.Workspace.Directory

/-
  What the checks for drift find.

  The checks only read.  They find no difference exactly if
  every attribute shows what is declared and the members
  agree: every declared address stands for a member, and
  every member is welcome.  They come to a verdict whenever
  everyone concerned can be looked up.

  Key definitions include:
    * `Workspace.Agrees`
    * `Workspace.Consulted`
    * `Drift.anyFails`
    * `Observed.Shows` and `Observed.Readable`

  Key theorems include:
    * `Drift.membershipDiffers_false_iff`
    * `Drift.membershipDiffers_returns`
    * `Drift.detected_false_iff`
    * `Drift.detected_returns`
-/

------------------------------------------------------------
-- Agreement
------------------------------------------------------------

namespace ChannelSync

namespace Workspace

/- Some members are what the addresses of a channel say. -/
structure Agrees
    (w : Workspace)
    (emails memberIds : List Datum) :
    Prop where
  addressed :
    ∀ email ∈ emails, ∃ user,
      (w.answer (.userByEmail email)).1 = .ok user ∧
        user.id ∈ memberIds
  welcome :
    ∀ userId ∈ memberIds, ∃ user,
      (w.answer (.userById userId)).1 = .ok user ∧
        user.Welcome emails

/- All addresses and all members can be looked up. -/
structure Consulted
    (w : Workspace)
    (emails memberIds : List Datum) :
    Prop where
  emails :
    ∀ email ∈ emails, ∃ user,
      (w.answer (.userByEmail email)).1 = .ok user
  members :
    ∀ userId ∈ memberIds, ∃ user,
      (w.answer (.userById userId)).1 = .ok user

/- Whether members agree does not depend on the rooms. -/
@[simp]
theorem agrees_putRoom
    {w : Workspace}
    {id : Datum}
    {room : Room}
    {emails memberIds : List Datum} :
    (w.putRoom id room).Agrees emails memberIds ↔
      w.Agrees emails memberIds := by
  constructor
  · intro h
    constructor
    · simpa using h.addressed
    · simpa using h.welcome
  · intro h
    constructor
    · simpa using h.addressed
    · simpa using h.welcome

/- Who can be looked up does not depend on the rooms. -/
@[simp]
theorem consulted_putRoom
    {w : Workspace}
    {id : Datum}
    {room : Room}
    {emails memberIds : List Datum} :
    (w.putRoom id room).Consulted emails memberIds ↔
      w.Consulted emails memberIds := by
  constructor
  · intro h
    constructor
    · simpa using h.emails
    · simpa using h.members
  · intro h
    constructor
    · simpa using h.emails
    · simpa using h.members

/- Only who is a member matters, not the order. -/
theorem Agrees.congr
    {w : Workspace}
    {emails memberIds memberIds' : List Datum}
    (h : w.Agrees emails memberIds)
    (hSame :
      ∀ userId, userId ∈ memberIds ↔ userId ∈ memberIds') :
    w.Agrees emails memberIds' where
  addressed := fun email hEmail =>
    (h.addressed email hEmail).imp fun _ hUser =>
      ⟨hUser.1, (hSame _).mp hUser.2⟩
  welcome := fun userId hMember =>
    h.welcome userId ((hSame userId).mpr hMember)

/- Who agrees has been looked up. -/
theorem Agrees.consulted
    {w : Workspace}
    {emails memberIds : List Datum}
    (h : w.Agrees emails memberIds) :
    w.Consulted emails memberIds where
  emails := fun email hEmail =>
    (h.addressed email hEmail).imp fun _ hUser => hUser.1
  members := fun userId hMember =>
    (h.welcome userId hMember).imp fun _ hUser => hUser.1

end Workspace

end ChannelSync

------------------------------------------------------------
-- Searches
------------------------------------------------------------

namespace ChannelSync

namespace Drift

open Program

/-
  Whether some of a list of data fails a test.  The first one
  to fail ends the search.
-/
def anyFails
    (test : Datum → Program Bool)
    (event : Datum → Event) :
    List Datum → Program Bool
  | [] => return false
  | d :: rest => do
      if ← test d then
        anyFails test event rest
      else
        record (event d)
        return true

/- An address passes when it stands for a member. -/
def testEmail
    (observed : Observed)
    (email : Datum) :
    Program Bool := do
  let user ← Access.userByEmail email
  lift (user.id.isIn observed.memberIds)

/- A member passes when it is allowed. -/
def testMember
    (desired : Desired)
    (userId : Datum) :
    Program Bool := do
  let user ← Access.userById userId
  lift (allowed desired.members user)

/- Members are missing when an address fails. -/
theorem anyMissing_eq
    (observed : Observed)
    (emails : List Datum) :
    anyMissing observed emails =
      anyFails (testEmail observed)
        (.memberMissing observed.id) emails := by
  induction emails with
  | nil => rfl
  | cons email rest ih =>
      simp only [anyMissing, anyFails, testEmail, ih,
        LawfulMonad.bind_assoc]

/- Members are surplus when one of them fails. -/
theorem anySurplus_eq
    (desired : Desired)
    (observed : Observed)
    (userIds : List Datum) :
    anySurplus desired observed userIds =
      anyFails (testMember desired)
        (.memberSurplus observed.id) userIds := by
  induction userIds with
  | nil => rfl
  | cons userId rest ih =>
      simp only [anySurplus, anyFails, testMember, ih,
        LawfulMonad.bind_assoc]

variable {σ : Type}
variable {remote : Remote σ}
variable {s after : σ}
variable {test : Datum → Program Bool}
variable {event : Datum → Event}
variable {ds : List Datum}

/- A search only reads if its test does. -/
theorem reads_anyFails
    (h : ∀ d, (test d).Reads) :
    (anyFails test event ds).Reads := by
  induction ds with
  | nil => trivial
  | cons d rest ih =>
      apply (h d).bind
      intro passed
      split
      · exact ih
      · trivial

/- A search gives up at a refusal if its test does. -/
theorem strict_anyFails
    (h : ∀ d, (test d).Strict) :
    (anyFails test event ds).Strict := by
  induction ds with
  | nil => trivial
  | cons d rest ih =>
      apply (h d).bind
      intro passed
      split
      · exact ih
      · trivial

/- A search finds nothing exactly if everything passes. -/
theorem anyFails_false_iff
    {passes : Datum → Prop}
    (hTest :
      ∀ d ∈ ds, ∀ after,
        (test d).Returns remote s true after ↔
          after = s ∧ passes d) :
    (anyFails test event ds).Returns remote s false after ↔
      after = s ∧ ∀ d ∈ ds, passes d := by
  induction ds with
  | nil => simp [anyFails]
  | cons d rest ih =>
      have hFirst := hTest d (by simp)
      have hRest :=
        ih fun other hOther => hTest other (by simp [hOther])
      unfold anyFails
      simp only [returns_bind, List.forall_mem_cons]
      constructor
      · intro h
        rcases h with ⟨passed, middle, hPassed, h⟩
        cases passed with
        | true =>
            rcases (hFirst _).mp hPassed with ⟨rfl, hPasses⟩
            rcases hRest.mp h with ⟨rfl, hAll⟩
            exact ⟨rfl, hPasses, hAll⟩
        | false =>
            simp only [Bool.false_eq_true, if_false,
              returns_bind, returns_pure] at h
            rcases h with ⟨_, _, -, hFound, -⟩
            cases hFound
      · intro h
        rcases h with ⟨rfl, hPasses, hAll⟩
        exact ⟨true, _, (hFirst _).mpr ⟨rfl, hPasses⟩,
          hRest.mpr ⟨rfl, hAll⟩⟩

/- A search comes to a verdict if its tests do. -/
theorem anyFails_returns
    (hTest :
      ∀ d ∈ ds, ∃ passed,
        (test d).Returns remote s passed s) :
    ∃ verdict,
      (anyFails test event ds).Returns remote s verdict
        s := by
  induction ds with
  | nil => exact ⟨false, by simp [anyFails]⟩
  | cons d rest ih =>
      rcases hTest d (by simp) with ⟨passed, hFirst⟩
      rcases ih fun other hOther => hTest other
          (by simp [hOther]) with
        ⟨verdict, hRest⟩
      unfold anyFails
      simp only [returns_bind]
      cases passed with
      | true => exact ⟨verdict, true, s, hFirst, hRest⟩
      | false =>
          refine ⟨true, false, s, hFirst, ?_⟩
          exact returns_record_pure

end Drift

end ChannelSync

------------------------------------------------------------
-- Members
------------------------------------------------------------

namespace ChannelSync

namespace Drift

open Program Workspace

/- The check of the members only reads. -/
theorem reads_membershipDiffers
    (desired : Desired)
    (observed : Observed) :
    (membershipDiffers desired observed).Reads := by
  have hEmail :
      ∀ email, (testEmail observed email).Reads :=
    fun email => (Access.reads_userByEmail email).bind
      fun _ => sends_lift _
  have hMember :
      ∀ userId, (testMember desired userId).Reads :=
    fun userId => (Access.reads_userById userId).bind
      fun _ => sends_lift _
  unfold membershipDiffers
  simp only [anyMissing_eq, anySurplus_eq]
  apply Sends.bind (sends_lift _)
  intro emails
  apply Sends.bind (reads_anyFails hEmail)
  intro missing
  split
  · trivial
  · exact Sends.bind (sends_lift _) fun userIds =>
      reads_anyFails hMember

/- The check of the members gives up at a refusal. -/
theorem strict_membershipDiffers
    (desired : Desired)
    (observed : Observed) :
    (membershipDiffers desired observed).Strict := by
  have hEmail :
      ∀ email, (testEmail observed email).Strict :=
    fun _ => Strict.bind (strict_reporting_send _ _)
      fun _ => strict_lift _
  have hMember :
      ∀ userId, (testMember desired userId).Strict :=
    fun _ => Strict.bind (strict_reporting_send _ _)
      fun _ => strict_lift _
  unfold membershipDiffers
  simp only [anyMissing_eq, anySurplus_eq]
  apply Strict.bind (strict_lift _)
  intro emails
  apply Strict.bind (strict_anyFails hEmail)
  intro missing
  split
  · trivial
  · exact Strict.bind (strict_lift _) fun userIds =>
      strict_anyFails hMember

variable {w after : Workspace}
variable {desired : Desired}
variable {observed : Observed}

/- An address can be tested when its user is answered. -/
theorem returns_testEmail
    (hw : w.WellTyped)
    {email : Datum}
    (hEmail : email.isText = true)
    {passed : Bool} :
    (testEmail observed email).Returns remote w passed
        after ↔
      after = w ∧ ∃ user,
        (w.answer (.userByEmail email)).1 = .ok user ∧
          passed = decide (user.id ∈ observed.memberIds) := by
  have hText :
      ∀ user : User,
        (w.answer (.userByEmail email)).1 = .ok user →
          user.id.isText = true :=
    fun user h => (hw.get?_of_userByEmail hEmail
      (userByEmail_of_answer h)).1.id
  unfold testEmail
  simp only [returns_bind, Access.returns_userByEmail,
    returns_lift]
  constructor
  · intro h
    rcases h with ⟨user, _, ⟨hUser, rfl⟩, hFound, rfl⟩
    rw [Datum.isIn_eq_ok (hText user hUser)] at hFound
    exact ⟨rfl, user, hUser, (Except.ok.inj hFound).symm⟩
  · intro h
    rcases h with ⟨rfl, user, hUser, rfl⟩
    refine ⟨user, _, ⟨hUser, rfl⟩, ?_, rfl⟩
    exact Datum.isIn_eq_ok (hText user hUser) _

/- A member can be tested when the user is answered. -/
theorem returns_testMember
    (hw : w.WellTyped)
    {userId : Datum}
    (hUserId : userId.isText = true)
    {passed : Bool} :
    (testMember desired userId).Returns remote w passed
        after ↔
      after = w ∧ ∃ user,
        (w.answer (.userById userId)).1 = .ok user ∧
          passed =
            decide (user.Welcome desired.members) := by
  have hAllowed :
      ∀ user : User,
        (w.answer (.userById userId)).1 = .ok user →
          allowed desired.members user =
            .ok (decide (user.Welcome desired.members)) :=
    fun user h => allowed_eq (hw.user_of_get? hUserId
      (get?_of_answer hUserId h)).1 _
  unfold testMember
  simp only [returns_bind, Access.returns_userById,
    returns_lift]
  constructor
  · intro h
    rcases h with ⟨user, _, ⟨hUser, rfl⟩, hFound, rfl⟩
    rw [hAllowed user hUser] at hFound
    exact ⟨rfl, user, hUser, (Except.ok.inj hFound).symm⟩
  · intro h
    rcases h with ⟨rfl, user, hUser, rfl⟩
    exact ⟨user, _, ⟨hUser, rfl⟩, hAllowed user hUser, rfl⟩

/- The members do not differ exactly if they agree. -/
theorem membershipDiffers_false_iff
    (hw : w.WellTyped)
    (hDesired : desired.WellTyped)
    (hMembers :
      ∀ userId ∈ observed.memberIds, userId.isText = true) :
    (membershipDiffers desired observed).Returns remote w
        false after ↔
      after = w ∧
        w.Agrees desired.members observed.memberIds := by
  have hEmails :
      ∀ email ∈ desired.members.mergeSort Datum.textLE,
        ∀ after,
          (testEmail observed email).Returns remote w true
              after ↔
            after = w ∧ ∃ user,
              (w.answer (.userByEmail email)).1 = .ok user ∧
                user.id ∈ observed.memberIds := by
    intro email hEmail after
    rw [returns_testEmail hw
      (hDesired.members email (List.mem_mergeSort.mp hEmail))]
    simp
  have hUserIds :
      ∀ userId ∈ observed.memberIds.mergeSort Datum.textLE,
        ∀ after,
          (testMember desired userId).Returns remote w true
              after ↔
            after = w ∧ ∃ user,
              (w.answer (.userById userId)).1 = .ok user ∧
                user.Welcome desired.members := by
    intro userId hUserId after
    rw [returns_testMember hw
      (hMembers userId (List.mem_mergeSort.mp hUserId))]
    simp
  unfold membershipDiffers
  simp only [anyMissing_eq, anySurplus_eq,
    Datum.sorted_texts hDesired.members,
    Datum.sorted_texts hMembers, returns_bind, returns_lift]
  constructor
  · intro h
    rcases h with
      ⟨_, _, ⟨hEmailsOk, rfl⟩, missing, _, hMissing, h⟩
    cases hEmailsOk
    cases missing with
    | true =>
        cases (returns_pure.mp h).1
    | false =>
        rcases (anyFails_false_iff hEmails).mp hMissing with
          ⟨rfl, hAddressed⟩
        simp only [Bool.false_eq_true, if_false,
          returns_bind, returns_lift] at h
        rcases h with ⟨_, _, ⟨hIdsOk, rfl⟩, hSurplus⟩
        cases hIdsOk
        rcases (anyFails_false_iff hUserIds).mp hSurplus
            with
          ⟨rfl, hWelcome⟩
        exact ⟨rfl,
          fun email hEmail =>
            hAddressed email (List.mem_mergeSort.mpr hEmail),
          fun userId hUserId =>
            hWelcome userId (List.mem_mergeSort.mpr hUserId)⟩
  · intro h
    rcases h with ⟨rfl, hAgrees⟩
    refine ⟨_, _, ⟨rfl, rfl⟩, false, _,
      (anyFails_false_iff hEmails).mpr ⟨rfl, ?_⟩, ?_⟩
    · intro email hEmail
      exact hAgrees.addressed email
        (List.mem_mergeSort.mp hEmail)
    · simp only [Bool.false_eq_true, if_false, returns_bind,
        returns_lift]
      refine ⟨_, _, ⟨rfl, rfl⟩,
        (anyFails_false_iff hUserIds).mpr ⟨rfl, ?_⟩⟩
      intro userId hUserId
      exact hAgrees.welcome userId
        (List.mem_mergeSort.mp hUserId)

/- There is a verdict if everyone can be looked up. -/
theorem membershipDiffers_returns
    (hw : w.WellTyped)
    (hDesired : desired.WellTyped)
    (hMembers :
      ∀ userId ∈ observed.memberIds, userId.isText = true)
    (h : w.Consulted desired.members observed.memberIds) :
    ∃ verdict,
      (membershipDiffers desired observed).Returns remote w
        verdict w := by
  have hEmails :
      ∀ email ∈ desired.members.mergeSort Datum.textLE,
        ∃ passed,
          (testEmail observed email).Returns remote w passed
            w := by
    intro email hEmail
    have hMem := List.mem_mergeSort.mp hEmail
    rcases h.emails email hMem with ⟨user, hUser⟩
    exact ⟨_, (returns_testEmail hw
      (hDesired.members email hMem)).mpr
        ⟨rfl, user, hUser, rfl⟩⟩
  have hUserIds :
      ∀ userId ∈ observed.memberIds.mergeSort Datum.textLE,
        ∃ passed,
          (testMember desired userId).Returns remote w passed
            w := by
    intro userId hUserId
    have hMem := List.mem_mergeSort.mp hUserId
    rcases h.members userId hMem with ⟨user, hUser⟩
    exact ⟨_, (returns_testMember hw
      (hMembers userId hMem)).mpr ⟨rfl, user, hUser, rfl⟩⟩
  rcases @anyFails_returns _ remote w (testEmail observed)
      (.memberMissing observed.id) _ hEmails with
    ⟨missing, hMissing⟩
  rcases @anyFails_returns _ remote w (testMember desired)
      (.memberSurplus observed.id) _ hUserIds with
    ⟨surplus, hSurplus⟩
  unfold membershipDiffers
  simp only [anyMissing_eq, anySurplus_eq,
    Datum.sorted_texts hDesired.members,
    Datum.sorted_texts hMembers, returns_bind, returns_lift]
  cases missing with
  | true =>
      exact ⟨true, _, w, ⟨rfl, rfl⟩, true, w, hMissing,
        returns_pure_self⟩
  | false =>
      refine ⟨surplus, _, w, ⟨rfl, rfl⟩, false, w, hMissing,
        ?_⟩
      exact returns_bind.mpr
        ⟨_, w, returns_lift.mpr ⟨rfl, rfl⟩, hSurplus⟩

end Drift

end ChannelSync

------------------------------------------------------------
-- Attributes and Members
------------------------------------------------------------

namespace ChannelSync

/- The attributes that can change show what is declared. -/
structure Observed.Shows
    (state : Observed)
    (desired : Desired) :
    Prop where
  name : state.name.unescaped = .ok desired.name
  topic : state.topic.unescaped = .ok desired.topic
  description :
    state.description.unescaped = .ok desired.description

/- The attributes that can change can be read. -/
structure Observed.Readable
    (state : Observed) :
    Prop where
  name : ∃ shown, state.name.unescaped = .ok shown
  topic : ∃ shown, state.topic.unescaped = .ok shown
  description :
    ∃ shown, state.description.unescaped = .ok shown

namespace Drift

open Program Workspace

/- The check of a channel only reads. -/
theorem reads_detected
    (desired : Desired)
    (observed : Observed) :
    (detected desired observed).Reads := by
  apply Sends.bind (sends_lift _)
  intro name
  split
  · trivial
  · apply Sends.bind (sends_lift _)
    intro topic
    split
    · trivial
    · apply Sends.bind (sends_lift _)
      intro description
      split
      · trivial
      · exact reads_membershipDiffers desired observed

/- The check of a channel gives up at a refusal. -/
theorem strict_detected
    (desired : Desired)
    (observed : Observed) :
    (detected desired observed).Strict := by
  apply Strict.bind (strict_lift _)
  intro name
  split
  · trivial
  · apply Strict.bind (strict_lift _)
    intro topic
    split
    · trivial
    · apply Strict.bind (strict_lift _)
      intro description
      split
      · trivial
      · exact strict_membershipDiffers desired observed

variable {w after : Workspace}
variable {desired : Desired}
variable {observed : Observed}

/- An attribute that shows what is declared is passed over. -/
theorem compare_of_shown
    {stored declared : Datum}
    (hShown : stored.unescaped = .ok declared)
    (event : Event)
    (rest : Program Bool) :
    (lift stored.unescaped >>= fun shown =>
        if shown != declared then
          record event >>= fun _ => pure true
        else rest) =
      rest := by
  rw [hShown]
  change (if declared != declared then _ else rest) = rest
  rw [bne, BEq.rfl]
  rfl

/- An attribute that shows something else is drift. -/
theorem compare_of_differs
    {stored declared shown : Datum}
    (hDeclared : declared.isText = true)
    (hShown : stored.unescaped = .ok shown)
    (hDiffers : shown ≠ declared)
    (event : Event)
    (rest : Program Bool) :
    (lift stored.unescaped >>= fun shown =>
        if shown != declared then
          record event >>= fun _ => pure true
        else rest) =
      (record event >>= fun _ => pure true) := by
  have hOther : (shown != declared) = true := by
    rw [bne, Datum.beq_eq_decide' hDeclared]
    simp [hDiffers]
  rw [hShown]
  change (if shown != declared then _ else rest) = _
  rw [if_pos hOther]

/- Drift is found, here or later. -/
theorem compare_true
    {stored declared : Datum}
    (hDeclared : declared.isText = true)
    (hReadable : ∃ shown, stored.unescaped = .ok shown)
    {event : Event}
    {rest : Program Bool}
    (hRest :
      stored.unescaped = .ok declared →
        rest.Returns remote w true w) :
    (lift stored.unescaped >>= fun shown =>
        if shown != declared then
          record event >>= fun _ => pure true
        else rest).Returns remote w true w := by
  rcases hReadable with ⟨shown, hShown⟩
  by_cases hSame : shown = declared
  · subst hSame
    rw [compare_of_shown hShown]
    exact hRest hShown
  · rw [compare_of_differs hDeclared hShown hSame]
    exact returns_record_pure

/- One attribute shows what is declared, or drift is found. -/
theorem compare_false_iff
    {stored declared : Datum}
    (hDeclared : declared.isText = true)
    {event : Event}
    {rest : Program Bool} :
    (lift stored.unescaped >>= fun shown =>
        if shown != declared then
          record event >>= fun _ => pure true
        else rest).Returns remote w false after ↔
      stored.unescaped = .ok declared ∧
        rest.Returns remote w false after := by
  constructor
  · intro h
    rcases returns_bind.mp h with ⟨shown, _, hRead, -⟩
    rcases returns_lift.mp hRead with ⟨hShown, -⟩
    by_cases hSame : shown = declared
    · subst hSame
      rw [compare_of_shown hShown] at h
      exact ⟨hShown, h⟩
    · rw [compare_of_differs hDeclared hShown hSame] at h
      rcases returns_bind.mp h with ⟨_, _, -, hFound⟩
      cases (returns_pure.mp hFound).1
  · intro h
    rcases h with ⟨hShown, h⟩
    rw [compare_of_shown hShown]
    exact h

/- There is a verdict if an attribute can be read. -/
theorem compare_returns
    {stored declared : Datum}
    (hShown : ∃ shown, stored.unescaped = .ok shown)
    {event : Event}
    {rest : Program Bool}
    (hRest :
      ∃ verdict, rest.Returns remote w verdict w) :
    ∃ verdict,
      (lift stored.unescaped >>= fun shown =>
          if shown != declared then
            record event >>= fun _ => pure true
          else rest).Returns remote w verdict w := by
  rcases hShown with ⟨shown, hShown⟩
  rcases hRest with ⟨verdict, hRest⟩
  simp only [returns_bind, returns_lift]
  cases hDiffers : shown != declared with
  | true =>
      refine ⟨true, shown, w, ⟨hShown, rfl⟩, ?_⟩
      rw [hDiffers, if_pos rfl]
      exact returns_record_pure
  | false =>
      refine ⟨verdict, shown, w, ⟨hShown, rfl⟩, ?_⟩
      rw [hDiffers, if_neg Bool.false_ne_true]
      exact hRest

/- No drift is detected exactly if nothing differs. -/
theorem detected_false_iff
    (hw : w.WellTyped)
    (hDesired : desired.WellTyped)
    (hMembers :
      ∀ userId ∈ observed.memberIds, userId.isText = true) :
    (detected desired observed).Returns remote w false
        after ↔
      observed.name.unescaped = .ok desired.name ∧
        observed.topic.unescaped = .ok desired.topic ∧
        observed.description.unescaped =
          .ok desired.description ∧
        after = w ∧
        w.Agrees desired.members observed.memberIds :=
  (compare_false_iff hDesired.name).trans
    (and_congr_right fun _ =>
      (compare_false_iff hDesired.topic).trans
        (and_congr_right fun _ =>
          (compare_false_iff hDesired.description).trans
            (and_congr_right fun _ =>
              membershipDiffers_false_iff hw hDesired
                hMembers)))

/- There is a verdict if everything can be read. -/
theorem detected_returns
    (hw : w.WellTyped)
    (hDesired : desired.WellTyped)
    (hMembers :
      ∀ userId ∈ observed.memberIds, userId.isText = true)
    (hName : ∃ shown, observed.name.unescaped = .ok shown)
    (hTopic : ∃ shown, observed.topic.unescaped = .ok shown)
    (hDescription :
      ∃ shown, observed.description.unescaped = .ok shown)
    (h : w.Consulted desired.members observed.memberIds) :
    ∃ verdict,
      (detected desired observed).Returns remote w verdict
        w :=
  compare_returns hName
    (compare_returns hTopic
      (compare_returns hDescription
        (membershipDiffers_returns hw hDesired hMembers h)))

/- Where all attributes agree, the members are left. -/
theorem detected_of_shows
    (h : observed.Shows desired) :
    detected desired observed =
      membershipDiffers desired observed := by
  unfold detected
  rw [compare_of_shown h.name, compare_of_shown h.topic,
    compare_of_shown h.description]

/- Drift is found in the attributes or in the members. -/
theorem detected_of_differs
    (hDesired : desired.WellTyped)
    (hReadable : observed.Readable)
    (h :
      observed.Shows desired →
        (membershipDiffers desired observed).Returns remote
          w true w) :
    (detected desired observed).Returns remote w true w :=
  compare_true hDesired.name hReadable.name fun hName =>
    compare_true hDesired.topic hReadable.topic fun hTopic =>
      compare_true hDesired.description hReadable.description
        fun hDescription => h ⟨hName, hTopic, hDescription⟩

/- A name that cannot be read stops the check. -/
theorem detected_stops
    {fault : Fault}
    (h : observed.name.unescaped = .error fault) :
    (detected desired observed).Stops remote w
      (.fault fault) w :=
  (stops_lift h w).bind _

end Drift

end ChannelSync
