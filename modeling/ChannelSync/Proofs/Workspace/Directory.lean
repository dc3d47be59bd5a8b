import ChannelSync.Drift
import ChannelSync.Proofs.Workspace.Rooms

/-
  The users of a workspace.

  An address stands for the first user who has it, and an
  identifier for one user at most.  Who is found by an
  address has that address, and is found by its identifier.
  Neither depends on the channels.

  Given some addresses, a user is welcome in a channel as a
  bot or by having one of them.  Invited are the users that
  the addresses stand for, except the one acted as.

  Key definitions include:
    * `User.Welcome`
    * `Workspace.Welcomes` and `Workspace.Invites`

  Key theorems include:
    * `Drift.allowed_eq`
    * `Workspace.WellTyped.get?_of_userByEmail`
    * `Workspace.WellTyped.welcomes_of_invites`
-/

------------------------------------------------------------
-- Welcome Users
------------------------------------------------------------

namespace ChannelSync

/- A user may be in a channel with these members. -/
def User.Welcome
    (user : User)
    (emails : List Datum) :
    Prop :=
  user.isBot = .flag true ∨ user.email ∈ emails

instance
    (user : User)
    (emails : List Datum) :
    Decidable (user.Welcome emails) :=
  inferInstanceAs (Decidable (_ ∨ _))

/- Exactly the welcome users are allowed. -/
theorem Drift.allowed_eq
    {user : User}
    (hUser : user.WellTyped)
    (emails : List Datum) :
    allowed emails user =
      .ok (decide (user.Welcome emails)) := by
  rcases Datum.exists_flag hUser.isBot with ⟨bot, hBot⟩
  simp only [allowed, User.Welcome, hBot]
  cases bot with
  | true => simp [Datum.truthy]
  | false =>
      simp [Datum.truthy, Datum.isIn_eq_ok hUser.email]

end ChannelSync

------------------------------------------------------------
-- Look-Ups
------------------------------------------------------------

namespace ChannelSync

namespace Workspace

variable {w : Workspace}
variable {user : User}
variable {email userId : Datum}

/- A user who is answered for an address has it. -/
theorem userByEmail_of_answer
    (h : (w.answer (.userByEmail email)).1 = .ok user) :
    w.userByEmail email = .ok user := by
  simp only [answer] at h
  split at h
  · cases h
  · exact h

/- A user who is answered for an identifier has it. -/
theorem get?_of_answer
    (hUserId : userId.isText = true)
    (h : (w.answer (.userById userId)).1 = .ok user) :
    w.users.get? userId = some user := by
  simp only [answer] at h
  split at h
  · cases h
  · simp only [grant, userById,
      Datum.isAtom_of_isText hUserId, if_true] at h
    split at h
    case h_1 found hFound =>
        cases h
        exact hFound
    case h_2 => cases h

/- Only users and failures matter for an address. -/
theorem answer_userByEmail_congr
    {w' : Workspace}
    (hFailures : w'.failures = w.failures)
    (hUsers : w'.users = w.users)
    (email : Datum) :
    (w'.answer (.userByEmail email)).1 =
      (w.answer (.userByEmail email)).1 := by
  have hRefusal :
      w'.refusal (.userByEmail email) =
        w.refusal (.userByEmail email) :=
    laidIn_congr w w' hFailures _ _
  unfold answer
  simp only [hRefusal]
  split
  · rfl
  · simp only [grant, userByEmail, hUsers]

/- Where nothing is laid in, an address is answered. -/
theorem answer_userByEmail_of_no_failures
    (hOpen : w.failures.entries = [])
    (hEmail : email.isText = true)
    (h : w.userByEmail email = .ok user) :
    (w.answer (.userByEmail email)).1 = .ok user := by
  have hTyped : (Request.userByEmail email).WellTyped :=
    hEmail
  unfold answer
  simp only [refusal_of_no_failures hOpen hTyped]
  exact h

/- Where nothing is laid in, an identifier is answered. -/
theorem answer_userById_of_no_failures
    (hOpen : w.failures.entries = [])
    (hUserId : userId.isText = true)
    (h : w.users.get? userId = some user) :
    (w.answer (.userById userId)).1 = .ok user := by
  have hTyped : (Request.userById userId).WellTyped :=
    hUserId
  simp only [answer, refusal_of_no_failures hOpen hTyped,
    grant, userById, Datum.isAtom_of_isText hUserId,
    if_true, h]

/- A user who is found is well typed. -/
theorem WellTyped.user_of_get?
    (hw : w.WellTyped)
    (hUserId : userId.isText = true)
    (h : w.users.get? userId = some user) :
    user.WellTyped ∧ user.id = userId := by
  have hMem := Table.mem_of_get? hUserId h
  exact ⟨hw.user _ hMem, hw.userId _ hMem⟩

/- A user who has an address is found by its identifier. -/
theorem WellTyped.get?_of_userByEmail
    (hw : w.WellTyped)
    (hEmail : email.isText = true)
    (h : w.userByEmail email = .ok user) :
    user.WellTyped ∧ user.email = email ∧
      w.users.get? user.id = some user := by
  unfold userByEmail at h
  split at h
  case h_2 => cases h
  case h_1 found hFound =>
      cases h
      have hMem := List.mem_of_find?_eq_some hFound
      rcases List.mem_map.mp hMem with
        ⟨⟨key, value⟩, hEntry, rfl⟩
      have hUser := hw.user _ hEntry
      have hId := hw.userId _ hEntry
      have hMatch := List.find?_some hFound
      rw [Bool.and_eq_true, Datum.beq_eq_decide' hEmail,
        decide_eq_true_eq] at hMatch
      refine ⟨hUser, hMatch.2, ?_⟩
      simp only at hId
      subst hId
      exact Table.get?_of_mem hUser.id hw.userKeys hEntry

end Workspace

end ChannelSync

------------------------------------------------------------
-- Members to Be
------------------------------------------------------------

namespace ChannelSync

namespace Workspace

variable {w : Workspace}
variable {emails : List Datum}
variable {userId : Datum}

/- An identifier is that of a welcome user. -/
def Welcomes
    (w : Workspace)
    (emails : List Datum)
    (userId : Datum) :
    Prop :=
  ∃ user, w.users.get? userId = some user ∧
    user.Welcome emails

/- It is that of one user at most. -/
theorem welcomes_iff
    {user : User}
    (h : w.users.get? userId = some user) :
    w.Welcomes emails userId ↔ user.Welcome emails := by
  constructor
  · intro hWelcomes
    rcases hWelcomes with ⟨found, hFound, hWelcome⟩
    cases h.symm.trans hFound
    exact hWelcome
  · intro hWelcome
    exact ⟨user, h, hWelcome⟩

/- Nobody unknown is welcome. -/
theorem not_welcomes_of_none
    (h : w.users.get? userId = none) :
    ¬ w.Welcomes emails userId := by
  intro hWelcomes
  rcases hWelcomes with ⟨found, hFound, -⟩
  cases h.symm.trans hFound

instance
    (w : Workspace)
    (emails : List Datum)
    (userId : Datum) :
    Decidable (w.Welcomes emails userId) :=
  match h : w.users.get? userId with
  | some user =>
      decidable_of_iff (user.Welcome emails)
        (welcomes_iff h).symm
  | none =>
      isFalse (not_welcomes_of_none h)

/-
  An identifier is that of a user whom one of the addresses
  stands for, and who is not the one acted as.
-/
def Invites
    (w : Workspace)
    (emails : List Datum)
    (userId : Datum) :
    Prop :=
  userId ≠ w.botId ∧
    ∃ email ∈ emails, ∃ user,
      w.userByEmail email = .ok user ∧ user.id = userId

/- Whoever is invited is welcome. -/
theorem WellTyped.welcomes_of_invites
    (hw : w.WellTyped)
    (hEmails : ∀ email ∈ emails, email.isText = true)
    (h : w.Invites emails userId) :
    w.Welcomes emails userId := by
  rcases h with ⟨-, email, hMem, user, hFound, rfl⟩
  rcases hw.get?_of_userByEmail (hEmails email hMem) hFound
      with
    ⟨-, hEmail, hUser⟩
  exact ⟨user, hUser, Or.inr (hEmail ▸ hMem)⟩

/- Whoever is invited has a text as identifier. -/
theorem WellTyped.isText_of_invites
    (hw : w.WellTyped)
    (hEmails : ∀ email ∈ emails, email.isText = true)
    (h : w.Invites emails userId) :
    userId.isText = true := by
  rcases h with ⟨-, email, hMem, user, hFound, rfl⟩
  exact (hw.get?_of_userByEmail
    (hEmails email hMem) hFound).1.id

end Workspace

end ChannelSync
