import ChannelSync.Convergence
import ChannelSync.Proofs.Access.Listing
import ChannelSync.Proofs.Reconciliation.Requests

/-
  Who is removed, on any platform.

  Before a user is removed the channel has been listed, the
  user was on the list, and the request just before was to
  look the user up.  The answer was a user who is no bot and
  has none of the declared addresses.  Nobody is removed
  twice, and after a removal that failed there is no other.

  Nothing is assumed about the platform, which may contradict
  itself or fail at any time.  The removals of a run are all
  made by one pass over a listing, and the exchanges of a
  pass follow a pattern that each step of it keeps up.

  Key definitions include:
    * `User.Surplus`
    * `Roster.Visited`
    * `Roster.Warranted`
    * `Roster.Careful`
    * `Run.RemovesDuly`

  Key theorems include:
    * `Roster.visited_removeEach`
    * `Roster.Careful.warranted`
    * `careful_reconcile`
    * `removals_warranted`
-/

------------------------------------------------------------
-- Patterns of Removals
------------------------------------------------------------

namespace ChannelSync

/- A user who is no bot and has none of some addresses. -/
structure User.Surplus
    (user : User)
    (emails : List Datum) :
    Prop where
  notBot : user.isBot.truthy = false
  undeclared : emails.contains user.email = false

/- Whether a request removes a user. -/
def Request.isRemoval : Request → Bool
  | removeMember _ _ => true
  | _ => false

/- A request that asks for no change removes nobody. -/
theorem Request.not_isRemoval
    (request : Request)
    (h : request.isWrite = false) :
    request.isRemoval = false := by
  cases request with
  | removeMember id userId => cases h
  | _ => rfl

/- An exchange that removes nobody. -/
def Exchange.Harmless
    (x : Exchange) :
    Prop :=
  x.request.isRemoval = false

/-
  A granted step of a pass over the members of a channel: a
  member was looked up, or removed.
-/
structure Exchange.IsVisit
    (id : Datum)
    (x : Exchange) :
    Prop where
  request :
    ∃ userId, x.request = .userById userId ∨
      x.request = .removeMember id userId
  granted : x.Succeeded

namespace Roster

/-
  Exchanges of a pass over some members, as far as it came.
  Each member is looked up, and removed if it is surplus.
  The pass ends with the first request that is not granted.
-/
inductive Visited
    (id : Datum)
    (emails : List Datum) :
    List Datum → List Exchange → Prop where
  | stopped
      {userIds : List Datum} :
      Visited id emails userIds []
  | unanswered
      {userId : Datum}
      {rest : List Datum}
      {problem : Problem} :
      Visited id emails (userId :: rest)
        [⟨.userById userId, .error problem⟩]
  | kept
      {userId : Datum}
      {rest : List Datum}
      {user : User}
      {exchanges : List Exchange}
      (hRest : Visited id emails rest exchanges) :
      Visited id emails (userId :: rest)
        (⟨.userById userId, .ok user⟩ :: exchanges)
  | refused
      {userId : Datum}
      {rest : List Datum}
      {user : User}
      {problem : Problem}
      (hSurplus : user.Surplus emails) :
      Visited id emails (userId :: rest)
        [⟨.userById userId, .ok user⟩,
          ⟨.removeMember id userId, .error problem⟩]
  | removed
      {userId : Datum}
      {rest : List Datum}
      {user : User}
      {exchanges : List Exchange}
      (hSurplus : user.Surplus emails)
      (hRest : Visited id emails rest exchanges) :
      Visited id emails (userId :: rest)
        (⟨.userById userId, .ok user⟩ ::
          ⟨.removeMember id userId, .ok ()⟩ :: exchanges)

/-
  The exchanges before a removal give cause for it: a
  listing of the channel that shows the user, since then only
  granted steps of a pass over the channel, and at the end
  the user itself, who is surplus.  Earlier removals were
  granted, and of other users.
-/
structure Warranted
    (limit id : Datum)
    (emails : List Datum)
    (userId : Datum)
    (past : List Exchange) :
    Prop where
  pass :
    ∃ before listing items visits user,
      past = before ++ listing ++ visits ++
          [⟨.userById userId, .ok user⟩] ∧
        Access.Listed limit id (.text "") items listing ∧
        userId ∈ items ∧
        (∀ x ∈ visits, x.IsVisit id) ∧
        user.Surplus emails
  earlier :
    ∀ x ∈ past, ∀ id' other,
      x.request = .removeMember id' other →
        x.Succeeded ∧ (other == userId) = false

end Roster

end ChannelSync

------------------------------------------------------------
-- A Pass over Members
------------------------------------------------------------

namespace ChannelSync

/- A user who may not stay is surplus. -/
theorem User.surplus_of_not_allowed
    {user : User}
    {emails : List Datum}
    (h : Drift.allowed emails user = .ok false) :
    user.Surplus emails := by
  unfold Drift.allowed at h
  split at h
  case isTrue => cases h
  case isFalse hBot =>
      unfold Datum.isIn at h
      split at h
      case isFalse => cases h
      case isTrue =>
          exact ⟨Bool.eq_false_iff.mpr hBot,
            Except.ok.inj h⟩

namespace Roster

open Program

variable {σ : Type}
variable {remote : Remote σ}
variable {s after : σ}
variable {id : Datum}
variable {emails userIds : List Datum}
variable {exchanges : List Exchange}

/- A user that is looked up is one exchange. -/
theorem ends_userById
    {userId : Datum}
    {result : Except Problem User}
    (h : (Access.userById userId).Ends remote s result after
      exchanges) :
    exchanges = [⟨.userById userId, result⟩] := by
  rcases ends_send.mp (ends_reporting.mp h) with
    ⟨hAnswer, -, hExchanges⟩
  rw [hExchanges, hAnswer]

/- A removal is one exchange, too. -/
theorem ends_remove
    {userId : Datum}
    {event : Failure → Event}
    {result : Except Problem Unit}
    (h : ((Access.remove id userId).reporting event).Ends
      remote s result after exchanges) :
    exchanges = [⟨.removeMember id userId, result⟩] := by
  rcases ends_send.mp (ends_reporting.mp h) with
    ⟨hAnswer, -, hExchanges⟩
  rw [hExchanges, hAnswer]

/- However a pass over members ends, it keeps the pattern. -/
theorem visited_removeEach
    {result : Except Problem Unit}
    (h : (removeEach id emails userIds).Ends remote s result
      after exchanges) :
    Visited id emails userIds exchanges := by
  induction userIds generalizing s exchanges with
  | nil =>
      rcases ends_pure.mp h with ⟨-, -, rfl⟩
      exact Visited.stopped
  | cons userId rest ih =>
      unfold removeEach at h
      rcases ends_bind.mp h with
        ⟨problem, hFailed, -⟩ |
          ⟨user, _, _, _, hUser, hNext, rfl⟩
      · rw [ends_userById hFailed]
        exact Visited.unanswered
      rw [ends_userById hUser]
      rcases ends_bind.mp hNext with
        ⟨problem, hFault, -⟩ |
          ⟨stays, _, _, _, hStays, hLast, rfl⟩
      · rcases ends_lift.mp hFault with ⟨-, -, rfl⟩
        exact Visited.kept Visited.stopped
      rcases ends_lift.mp hStays with ⟨-, -, rfl⟩
      have hAllowed := (returns_lift.mp hStays.returns).1
      cases stays with
      | true =>
          rw [if_pos rfl] at hLast
          exact Visited.kept (ih hLast)
      | false =>
          rw [if_neg Bool.false_ne_true,
            ends_record_bind] at hLast
          have hSurplus :=
            User.surplus_of_not_allowed hAllowed
          rcases ends_bind.mp hLast with
            ⟨problem, hFailed, -⟩ |
              ⟨_, _, _, _, hRemoved, hRest, rfl⟩
          · rw [ends_remove hFailed]
            exact Visited.refused hSurplus
          · rw [ends_remove hRemoved]
            exact Visited.removed hSurplus (ih hRest)

/-
  The steps of a pass up to a removal: its user was just
  found to be surplus, and the other steps were granted and
  about other users.
-/
structure Prepared
    (id : Datum)
    (emails : List Datum)
    (userId : Datum)
    (past : List Exchange) :
    Prop where
  steps :
    ∃ visits user,
      past = visits ++ [⟨.userById userId, .ok user⟩] ∧
        (∀ x ∈ visits, x.IsVisit id) ∧
        user.Surplus emails
  others :
    ∀ x ∈ past, ∀ id' other,
      x.request = .removeMember id' other →
        (other == userId) = false

/- A surplus user can be removed at once. -/
theorem prepared_lookup
    {userId : Datum}
    {user : User}
    (h : user.Surplus emails) :
    Prepared id emails userId
      [⟨.userById userId, .ok user⟩] where
  steps := ⟨[], user, List.nil_append _, by simp, h⟩
  others := by simp

/- Another step may come before. -/
theorem Prepared.cons
    {userId : Datum}
    {x : Exchange}
    {past : List Exchange}
    (h : Prepared id emails userId past)
    (hVisit : x.IsVisit id)
    (hOther :
      ∀ id' other, x.request = .removeMember id' other →
        (other == userId) = false) :
    Prepared id emails userId (x :: past) := by
  rcases h.steps with
    ⟨visits, user, hPast, hVisits, hSurplus⟩
  refine ⟨⟨x :: visits, user, ?_, ?_, hSurplus⟩, ?_⟩
  · rw [hPast, List.cons_append]
  · exact List.forall_mem_cons.mpr ⟨hVisit, hVisits⟩
  · exact List.forall_mem_cons.mpr ⟨hOther, h.others⟩

/- In a pass over different members each removal is prepared. -/
theorem Visited.prepared
    (h : Visited id emails userIds exchanges)
    (hDistinct :
      userIds.Pairwise fun a b => (a == b) = false)
    {past later : List Exchange}
    {id' userId : Datum}
    {answer : Except Problem Unit}
    (hSplit : exchanges =
      past ++ ⟨.removeMember id' userId, answer⟩ :: later) :
    id' = id ∧ userId ∈ userIds ∧
      Prepared id emails userId past := by
  induction h generalizing past with
  | stopped => simp at hSplit
  | unanswered =>
      cases past with
      | nil => cases hSplit
      | cons x rest => simp at hSplit
  | @kept visited rest user exchanges hRest ih =>
      rw [List.pairwise_cons] at hDistinct
      cases past with
      | nil => cases hSplit
      | cons x past =>
          rw [List.cons_append, List.cons.injEq] at hSplit
          rcases hSplit with ⟨rfl, hSplit⟩
          rcases ih hDistinct.2 hSplit with
            ⟨hId, hMem, hPrepared⟩
          refine ⟨hId, List.mem_cons_of_mem _ hMem, ?_⟩
          apply hPrepared.cons
          · exact ⟨⟨visited, Or.inl rfl⟩, ⟨user, rfl⟩⟩
          · simp
  | @refused visited rest user problem hSurplus =>
      match past, hSplit with
      | [], hSplit => cases hSplit
      | [x], hSplit =>
          cases hSplit
          exact ⟨rfl, List.mem_cons_self,
            prepared_lookup hSurplus⟩
      | x :: y :: past, hSplit => simp at hSplit
  | @removed visited rest user exchanges hSurplus hRest ih =>
      rw [List.pairwise_cons] at hDistinct
      match past, hSplit with
      | [], hSplit => cases hSplit
      | [x], hSplit =>
          cases hSplit
          exact ⟨rfl, List.mem_cons_self,
            prepared_lookup hSurplus⟩
      | x :: y :: past, hSplit =>
          simp only [List.cons_append, List.cons.injEq]
            at hSplit
          rcases hSplit with ⟨rfl, rfl, hSplit⟩
          rcases ih hDistinct.2 hSplit with
            ⟨hId, hMem, hPrepared⟩
          have hNew : (visited == userId) = false :=
            hDistinct.1 userId hMem
          refine ⟨hId, List.mem_cons_of_mem _ hMem, ?_⟩
          apply Prepared.cons
          · apply hPrepared.cons
            · exact ⟨⟨visited, Or.inr rfl⟩, ⟨(), rfl⟩⟩
            · intro id' other hOther
              cases hOther
              exact hNew
          · exact ⟨⟨visited, Or.inl rfl⟩, ⟨user, rfl⟩⟩
          · simp

end Roster

end ChannelSync

------------------------------------------------------------
-- One Pass in a Run
------------------------------------------------------------

namespace ChannelSync

/-
  An element that only the middle of three lists can have
  splits the middle where it splits all of them.
-/
theorem split_middle
    {α : Type}
    {P : α → Prop}
    {x : α}
    {front middle rest past later : List α}
    (hFront : ∀ y ∈ front, P y)
    (hRest : ∀ y ∈ rest, P y)
    (hNot : ¬ P x)
    (h : front ++ (middle ++ rest) = past ++ x :: later) :
    ∃ inner outer, middle = inner ++ x :: outer ∧
      past = front ++ inner := by
  have hMiddle :
      ∀ inner, middle ++ rest = inner ++ x :: later →
        ∃ outer, middle = inner ++ x :: outer := by
    intro inner hSplit
    rcases List.append_eq_append_iff.mp hSplit with
      ⟨tail, -, hTail⟩ | ⟨tail, hInner, hTail⟩
    · exact absurd (hRest x (by simp [hTail])) hNot
    · cases tail with
      | nil =>
          rw [List.nil_append] at hTail
          exact absurd (hRest x (by simp [← hTail])) hNot
      | cons y tail =>
          rw [List.cons_append, List.cons.injEq] at hTail
          rcases hTail with ⟨rfl, -⟩
          exact ⟨tail, hInner⟩
  rcases List.append_eq_append_iff.mp h with
    ⟨inner, hPast, hSplit⟩ | ⟨tail, hEarly, hTail⟩
  · rcases hMiddle inner hSplit with ⟨outer, hOuter⟩
    exact ⟨inner, outer, hOuter, hPast⟩
  · cases tail with
    | nil =>
        rw [List.nil_append] at hTail
        rcases hMiddle [] hTail.symm with ⟨outer, hOuter⟩
        refine ⟨[], outer, hOuter, ?_⟩
        simpa using hEarly.symm
    | cons y tail =>
        rw [List.cons_append, List.cons.injEq] at hTail
        rcases hTail with ⟨rfl, -⟩
        exact absurd (hFront x (by simp [hEarly])) hNot

namespace Roster

variable {limit id : Datum}
variable {emails : List Datum}
variable {exchanges : List Exchange}

/-
  Exchanges with one pass at most: nobody is removed before
  it and after it, and it goes over a listing just made.
-/
inductive Careful
    (limit id : Datum)
    (emails : List Datum) :
    List Exchange → Prop where
  | harmless
      {exchanges : List Exchange}
      (hNone : ∀ x ∈ exchanges, x.Harmless) :
      Careful limit id emails exchanges
  | pass
      {before listing visits rest : List Exchange}
      {items ids : List Datum}
      (hBefore : ∀ x ∈ before, x.Harmless)
      (hListed :
        Access.Listed limit id (.text "") items listing)
      (hDistinct : Datum.distinct items = .ok ids)
      (hVisited : Visited id emails ids visits)
      (hRest : ∀ x ∈ rest, x.Harmless) :
      Careful limit id emails
        (before ++ listing ++ (visits ++ rest))

/- A removal is a removal. -/
theorem not_harmless
    {userId : Datum}
    {answer : Except Problem Unit} :
    ¬ Exchange.Harmless
      ⟨.removeMember id userId, answer⟩ := by
  simp [Exchange.Harmless, Request.isRemoval]

/- Listing a channel removes nobody. -/
theorem harmless_of_listed
    {cursor : Datum}
    {items : List Datum}
    {listing : List Exchange}
    (h : Access.Listed limit id cursor items listing) :
    ∀ x ∈ listing, x.Harmless := by
  induction h with
  | last hLast => simp [Exchange.Harmless, Request.isRemoval]
  | more hMore hRest ih =>
      rw [List.forall_mem_cons]
      exact ⟨by simp [Exchange.Harmless, Request.isRemoval],
        ih⟩

/- With one pass at most every removal has its cause. -/
theorem Careful.warranted
    (h : Careful limit id emails exchanges)
    {past later : List Exchange}
    {id' userId : Datum}
    {answer : Except Problem Unit}
    (hSplit : exchanges =
      past ++ ⟨.removeMember id' userId, answer⟩ :: later) :
    id' = id ∧ Warranted limit id emails userId past := by
  cases h with
  | harmless hNone =>
      have hMem :
          ⟨.removeMember id' userId, answer⟩ ∈ exchanges := by
        simp [hSplit]
      exact absurd (hNone _ hMem) not_harmless
  | @pass before listing visits rest items ids hBefore
      hListed hDistinct hVisited hRest =>
      have hFront :
          ∀ x ∈ before ++ listing, x.Harmless :=
        List.forall_mem_append.mpr
          ⟨hBefore, harmless_of_listed hListed⟩
      rcases split_middle hFront hRest not_harmless hSplit
          with
        ⟨inner, outer, hInner, hPast⟩
      rcases hVisited.prepared
          (Datum.pairwise_of_distinct hDistinct) hInner with
        ⟨hId, hMem, hPrepared⟩
      rcases hPrepared.steps with
        ⟨visits, user, rfl, hVisits, hSurplus⟩
      refine ⟨hId, ⟨before, listing, items, visits, user, ?_,
        hListed, Datum.mem_of_mem_distinct hDistinct hMem,
        hVisits, hSurplus⟩, ?_⟩
      · rw [hPast, List.append_assoc (before ++ listing)]
      · rw [hPast, List.forall_mem_append]
        constructor
        · intro x hx id' other hOther
          have hHarmless := hFront x hx
          rw [Exchange.Harmless, hOther] at hHarmless
          cases hHarmless
        · intro x hx id' other hOther
          refine ⟨?_, hPrepared.others x hx id' other hOther⟩
          rcases List.mem_append.mp hx with hVisit | hLast
          · exact (hVisits x hVisit).granted
          · rw [List.mem_singleton] at hLast
            subst hLast
            exact ⟨user, rfl⟩

/- Something harmless may come before. -/
theorem Careful.after
    {before : List Exchange}
    (h : Careful limit id emails exchanges)
    (hBefore : ∀ x ∈ before, x.Harmless) :
    Careful limit id emails (before ++ exchanges) := by
  cases h with
  | harmless hNone =>
      exact Careful.harmless
        (List.forall_mem_append.mpr ⟨hBefore, hNone⟩)
  | pass hFront hListed hDistinct hVisited hRest =>
      have hEarly := List.forall_mem_append.mpr
        ⟨hBefore, hFront⟩
      simpa only [List.append_assoc] using
        Careful.pass hEarly hListed hDistinct hVisited hRest

/- Something harmless may come after. -/
theorem Careful.before
    {rest : List Exchange}
    (h : Careful limit id emails exchanges)
    (hRest : ∀ x ∈ rest, x.Harmless) :
    Careful limit id emails (exchanges ++ rest) := by
  cases h with
  | harmless hNone =>
      exact Careful.harmless
        (List.forall_mem_append.mpr ⟨hNone, hRest⟩)
  | pass hFront hListed hDistinct hVisited hBack =>
      have hLate := List.forall_mem_append.mpr
        ⟨hBack, hRest⟩
      simpa only [List.append_assoc] using
        Careful.pass hFront hListed hDistinct hVisited hLate

end Roster

end ChannelSync

------------------------------------------------------------
-- Careful Programs
------------------------------------------------------------

namespace ChannelSync

namespace Program

variable {σ α β : Type}
variable {remote : Remote σ}
variable {limit id : Datum}
variable {emails : List Datum}

/- A program that removes nobody. -/
def Harmless
    (p : Program α) :
    Prop :=
  p.Sends fun request => request.isRemoval = false

/- However a run of a program ends, it is careful. -/
def Careful
    (remote : Remote σ)
    (limit id : Datum)
    (emails : List Datum)
    (p : Program α) :
    Prop :=
  ∀ s, Roster.Careful limit id emails
    (p.run remote s).exchanges

/- What is careful in every run is so in one that ends. -/
theorem Careful.holds
    {p : Program α}
    {s after : σ}
    {result : Except Problem α}
    {exchanges : List Exchange}
    (h : p.Careful remote limit id emails)
    (hEnds : p.Ends remote s result after exchanges) :
    Roster.Careful limit id emails exchanges :=
  hEnds.exchanges_eq ▸ h s

/- What removes nobody does so in a run that ends. -/
theorem Harmless.holds
    {p : Program α}
    {s after : σ}
    {result : Except Problem α}
    {exchanges : List Exchange}
    (h : p.Harmless)
    (hEnds : p.Ends remote s result after exchanges) :
    ∀ x ∈ exchanges, x.Harmless :=
  hEnds.exchanges_eq ▸ Sends.requests h s

/- A program that only reads removes nobody. -/
theorem harmless_of_reads
    {p : Program α}
    (h : p.Reads) :
    p.Harmless :=
  h.mono Request.not_isRemoval

/- A program that removes nobody is careful. -/
theorem careful_of_harmless
    {p : Program α}
    (h : p.Harmless) :
    p.Careful remote limit id emails :=
  fun s => Roster.Careful.harmless (Sends.requests h s)

/- Something harmless may be done first. -/
theorem Careful.bind_after
    {p : Program α}
    {next : α → Program β}
    (hFirst : p.Harmless)
    (hRest : ∀ a, (next a).Careful remote limit id emails) :
    (p >>= next).Careful remote limit id emails := by
  intro s
  rcases ends_bind.mp (ends_run remote (p >>= next) s) with
    ⟨problem, hProblem, -⟩ |
      ⟨a, middle, first, rest, hA, hB, hExchanges⟩
  · exact Roster.Careful.harmless (hFirst.holds hProblem)
  · rw [hExchanges]
    exact ((hRest a).holds hB).after (hFirst.holds hA)

/- Something harmless may be done at the end. -/
theorem Careful.bind_before
    {p : Program α}
    {next : α → Program β}
    (hFirst : p.Careful remote limit id emails)
    (hRest : ∀ a, (next a).Harmless) :
    (p >>= next).Careful remote limit id emails := by
  intro s
  rcases ends_bind.mp (ends_run remote (p >>= next) s) with
    ⟨problem, hProblem, -⟩ |
      ⟨a, middle, first, rest, hA, hB, hExchanges⟩
  · exact hFirst.holds hProblem
  · rw [hExchanges]
    exact (hFirst.holds hA).before ((hRest a).holds hB)

end Program

open Program

variable {σ : Type}
variable {remote : Remote σ}

/- Removing members is careful. -/
theorem careful_removeOthers
    (limit id : Datum)
    (emails : List Datum) :
    (Roster.removeOthers limit id emails).Careful remote
      limit id emails := by
  intro s
  have hListing :=
    harmless_of_reads (Access.reads_memberIds limit id)
  have hEnds := ends_run remote
    (Roster.removeOthers limit id emails) s
  rcases ends_bind.mp hEnds with
    ⟨problem, hProblem, -⟩ |
      ⟨ids, middle, listing, visits, hIds, hPass, hExchanges⟩
  · exact Roster.Careful.harmless (hListing.holds hProblem)
  · rw [hExchanges]
    rcases Access.listed_memberIds hIds with
      ⟨items, hListed, hDistinct⟩
    have hVisited := Roster.visited_removeEach hPass
    have hNone : ∀ x ∈ ([] : List Exchange), x.Harmless := by
      simp
    simpa using Roster.Careful.pass hNone hListed hDistinct
      hVisited hNone

/- Bringing members in line is careful. -/
theorem careful_alignMembers
    (limits : Limits)
    (desired : Desired)
    (id : Datum) :
    (alignMembers limits desired id).Careful remote
      limits.members id desired.members := by
  have hInvite :
      (Roster.inviteAll id desired.members).Harmless :=
    Roster.sends_inviteAll Request.not_isRemoval
      (fun _ => rfl) desired.members
  apply Careful.bind_after hInvite
  intro failures
  apply (careful_removeOthers _ _ _).bind_before
  intro _
  split <;> trivial

/- Bringing a channel in line is careful. -/
theorem careful_converge
    (limits : Limits)
    (desired : Desired)
    (id : Datum) :
    (converge limits desired id).Careful remote
      limits.members id desired.members := by
  have hRead := Request.not_isRemoval
  have hFetch :=
    harmless_of_reads (Access.reads_fetch limits.members id)
  apply Careful.bind_after
    (sends_fetchActive hRead rfl)
  intro observed
  apply Careful.bind_after (sends_notePrivacy _ _ _)
  intro _
  apply Careful.bind_after
    (harmless_of_reads (Drift.reads_detected _ _))
  intro drift
  split
  · refine Careful.bind_after (p := record _) trivial
      fun _ => ?_
    apply Careful.bind_after
      (sends_alignAttributes hRead rfl
        rfl rfl)
    intro _
    apply Careful.bind_after
      (harmless_of_reads (reads_membershipMayDiffer _ _))
    intro mayDiffer
    split
    · exact (careful_alignMembers _ _ _).bind_before
        fun _ => hFetch
    · exact careful_of_harmless hFetch
  · exact careful_of_harmless trivial

end ChannelSync

------------------------------------------------------------
-- Removals with a Cause
------------------------------------------------------------

namespace ChannelSync

open Program

variable {σ : Type}
variable {remote : Remote σ}
variable {s : σ}

/-
  The channel that a reconciliation is about: the given one,
  or the one that it created or found.
-/
def Targets
    (remote : Remote σ)
    (s : σ)
    (limits : Limits)
    (desired : Desired)
    (id? : Option Datum)
    (id : Datum) :
    Prop :=
  id? = some id ∨
    id? = none ∧
      ((createOrFind limits desired).run remote s).result =
        .ok id

/-
  Wherever a run removes a user, it is from the right channel
  and the exchanges before give cause for it.
-/
def Run.RemovesDuly
    (run : Run σ α)
    (limit : Datum)
    (emails : List Datum)
    (target : Datum → Prop) :
    Prop :=
  ∀ past id userId answer later,
    run.exchanges =
        past ++ ⟨.removeMember id userId, answer⟩ :: later →
      target id ∧
        Roster.Warranted limit id emails userId past

/- A run that removes nobody does so duly. -/
theorem Run.removesDuly_of_harmless
    {run : Run σ α}
    {limit : Datum}
    {emails : List Datum}
    {target : Datum → Prop}
    (h : ∀ x ∈ run.exchanges, x.Harmless) :
    run.RemovesDuly limit emails target := by
  intro past id userId answer later hSplit
  have hMem :
      ⟨.removeMember id userId, answer⟩ ∈ run.exchanges := by
    simp [hSplit]
  exact absurd (h _ hMem) Roster.not_harmless

/- A run with a single careful pass removes duly. -/
theorem Run.removesDuly_of_careful
    {run : Run σ α}
    {limit id : Datum}
    {emails : List Datum}
    {target : Datum → Prop}
    (h : Roster.Careful limit id emails run.exchanges)
    (hTarget : target id) :
    run.RemovesDuly limit emails target := by
  intro past id' userId answer later hSplit
  rcases h.warranted hSplit with ⟨rfl, hWarranted⟩
  exact ⟨hTarget, hWarranted⟩

/-
  A reconciliation removes nobody, or it is careful about the
  channel that it is about.
-/
theorem careful_reconcile
    {limits : Limits}
    {desired : Desired}
    {id? : Option Datum}
    {result : Except Problem Observed}
    {after : σ}
    {exchanges : List Exchange}
    (hEnds :
      (reconcile limits desired id?).Ends remote s result after
        exchanges) :
    (∀ x ∈ exchanges, x.Harmless) ∨
      ∃ id, Targets remote s limits desired id? id ∧
        Roster.Careful limits.members id desired.members
          exchanges := by
  unfold reconcile validate at hEnds
  cases hInvalid : desired.invalid? with
  | some failure =>
      rw [hInvalid] at hEnds
      have hNone :=
        (ends_bind_of_error
          (ends_fail.mpr ⟨rfl, rfl, rfl⟩)).mp hEnds
      apply Or.inl
      simp [hNone.2.2]
  | none =>
      rw [hInvalid] at hEnds
      have hRest :=
        (ends_bind_of_ok
          ends_pure_self).mp hEnds
      rcases hRest with
        ⟨rest, hRest, rfl⟩
      cases id? with
      | some id =>
          exact Or.inr ⟨id, Or.inl rfl,
            (careful_converge _ _ _).holds hRest⟩
      | none =>
          have hHarmless :
              (createOrFind limits desired).Harmless :=
            sends_createOrFind Request.not_isRemoval
              rfl
          rcases ends_bind.mp hRest with
            ⟨problem, hProblem, -⟩ |
              ⟨id, middle, first, last, hId, hLast, rfl⟩
          · exact Or.inl (hHarmless.holds hProblem)
          · have hLast :=
              (careful_converge _ _ _).holds hLast
            exact Or.inr ⟨id, Or.inr ⟨rfl, hId.result_eq⟩,
              hLast.after (hHarmless.holds hId)⟩

/- A reconciliation removes duly. -/
theorem removesDuly_reconcile
    (limits : Limits)
    (desired : Desired)
    (id? : Option Datum) :
    ((reconcile limits desired id?).run remote
        s).RemovesDuly limits.members desired.members
      (Targets remote s limits desired id?) := by
  rcases careful_reconcile (ends_run remote _ s) with
    hHarmless | ⟨id, hTarget, hCareful⟩
  · exact Run.removesDuly_of_harmless hHarmless
  · exact Run.removesDuly_of_careful hCareful hTarget

/-
  Whatever a platform answers: where a reconciliation removes
  a user, or a pass over the members of a channel by itself,
  it is from its own channel and there is a cause.
-/
theorem removals_warranted
    (remote : Remote σ)
    (s : σ) :
    (∀ limits desired id?,
      ((reconcile limits desired id?).run remote
          s).RemovesDuly limits.members desired.members
        (Targets remote s limits desired id?)) ∧
    ∀ limit id emails,
      ((Roster.removeOthers limit id emails).run remote
          s).RemovesDuly limit emails
        (fun target => target = id) := by
  constructor
  · intro limits desired id?
    exact removesDuly_reconcile limits desired id?
  · intro limit id emails
    exact Run.removesDuly_of_careful
      (careful_removeOthers limit id emails s) rfl

/- In the sample there is a removal, and it has a cause. -/
theorem removals_warranted_sample :
    ∃ past answer later,
      ((reconcile Limits.sample Desired.sample
          (some (.text "C1"))).run Workspace.remote
            Workspace.sample).exchanges =
        past ++ ⟨.removeMember (.text "C1") (.text "U2"),
          answer⟩ :: later ∧
      Roster.Warranted Limits.sample.members (.text "C1")
        Desired.sample.members (.text "U2") past := by
  have hSplit :
      ((reconcile Limits.sample Desired.sample
          (some (.text "C1"))).run Workspace.remote
            Workspace.sample).exchanges =
        (((reconcile Limits.sample Desired.sample
          (some (.text "C1"))).run Workspace.remote
            Workspace.sample).exchanges.take 12) ++
          ⟨.removeMember (.text "C1") (.text "U2"),
            .ok ()⟩ ::
          (((reconcile Limits.sample Desired.sample
            (some (.text "C1"))).run Workspace.remote
              Workspace.sample).exchanges.drop 13) := by
    rfl
  exact ⟨_, _, _, hSplit,
    ((removals_warranted Workspace.remote
      Workspace.sample).1 _ _ _ _ _ _ _ _ hSplit).2⟩

end ChannelSync
