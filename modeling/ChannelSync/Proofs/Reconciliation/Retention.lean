import ChannelSync.Proofs.Reconciliation.Safeguards
import ChannelSync.Proofs.Web.Calls

/-
  Users who were invited stay, on the web API.

  A reconciliation finds the users to invite by their declared
  addresses, and the users to remove by their own addresses.
  A platform may find a user by an address that is spelled in
  another way.  Such a user is invited and then removed.

  Otherwise, where look-ups by address and by identifier do
  not contradict each other, nobody is removed whom a declared
  address was found to belong to.  What the calls of a run say
  is taken from its record; a removal on the record is a
  removal among the exchanges, and it has a cause there.

  Key definitions include:
    * `Web.record`
    * `Web.Resolves`, `Web.Describes` and `Web.Kicks`
    * `Web.Consistent`

  Key theorems include:
    * `Web.describes_of_answer`
    * `Web.removed_of_kicks`
    * `resolved_members_kept`
    * `resolved_member_removed`
-/

------------------------------------------------------------
-- What a Record Says
------------------------------------------------------------

namespace ChannelSync

/- The user that the answer to a call shows, if any. -/
def ClientExchange.user?
    (c : ClientExchange) :
    Option User :=
  match c.answer with
  | .error _ => none
  | .ok response => (Response.ofUser response).toOption

namespace Web

/- The call that looks a user up by an e-mail address. -/
def lookupCall
    (email : Datum) :
    ClientCall :=
  ⟨"users_lookupByEmail", [("email", email)]⟩

/- The call that looks a user up by the identifier. -/
def userCall
    (id : Datum) :
    ClientCall :=
  ⟨"users_info", [("user", id)]⟩

/- The call that removes a user from a channel. -/
def kickCall
    (id userId : Datum) :
    ClientCall :=
  ⟨"conversations_kick",
    [("channel", id), ("user", userId)]⟩

/- The calls of a run of a program, with what came back. -/
def record
    {σ α : Type}
    (client : Client σ)
    (p : Program α)
    (s : σ) :
    List ClientExchange :=
  (p.run (remote client.recorded) (s, [])).state.2

/- An address was looked up, and it led to a user. -/
def Resolves
    (calls : List ClientExchange)
    (email : Datum)
    (user : User) :
    Prop :=
  ∃ response, ⟨lookupCall email, .ok response⟩ ∈ calls ∧
    Response.ofUser response = .ok user

/- An identifier was looked up, and it led to a user. -/
def Describes
    (calls : List ClientExchange)
    (userId : Datum)
    (user : User) :
    Prop :=
  ∃ response, ⟨userCall userId, .ok response⟩ ∈ calls ∧
    Response.ofUser response = .ok user

/- Somebody was asked to be removed from some channel. -/
def Kicks
    (calls : List ClientExchange)
    (userId : Datum) :
    Prop :=
  ∃ id answer, ⟨kickCall id userId, answer⟩ ∈ calls

/-
  A user who was found by an address is the same user when
  looked up by the identifier.  The address of the user need
  not be the one that was looked up.
-/
def Consistent
    (calls : List ClientExchange) :
    Prop :=
  ∀ email user user',
    Resolves calls email user →
      Describes calls user.id user' →
        user' = user

/- Calls that show one user at most are consistent. -/
theorem consistent_of_one
    {calls : List ClientExchange}
    (user : User)
    (h :
      ∀ c ∈ calls, c.user? = none ∨ c.user? = some user) :
    Consistent calls := by
  have hShown :
      ∀ call response found,
        ⟨call, .ok response⟩ ∈ calls →
          Response.ofUser response = .ok found →
            found = user := by
    intro call response found hMem hFound
    have hOne := h _ hMem
    simpa [ClientExchange.user?, hFound, Except.toOption]
      using hOne
  intro email found found' hResolves hDescribes
  rcases hResolves with
    ⟨response, hMem, hFound⟩
  rcases hDescribes with
    ⟨response', hMem', hFound'⟩
  rw [hShown _ _ _ hMem hFound, hShown _ _ _ hMem' hFound']

end Web

end ChannelSync

------------------------------------------------------------
-- Exchanges behind a Record
------------------------------------------------------------

namespace ChannelSync

namespace Web

variable {σ α : Type}
variable {calls : List ClientExchange}
variable {exchanges : List Exchange}

/- The record of a run is made by the exchanges of the run. -/
theorem made_record
    (client : Client σ)
    (p : Program α)
    (s : σ) :
    Made (record client p s)
      (p.run (remote client) s).exchanges := by
  rcases run_recorded client p s [] with
    ⟨calls, hRun, hMade⟩
  simpa only [record, hRun, List.nil_append] using hMade

/- A user who was looked up is described on the record. -/
theorem describes_of_answer
    (hMade : Made calls exchanges)
    {userId : Datum}
    {user : User}
    (hMem : ⟨.userById userId, .ok user⟩ ∈ exchanges) :
    Describes calls userId user := by
  rcases hMade.of_mem_exchanges hMem with
    ⟨own, hOwn, hSub⟩
  have hCalls :=
    (makes_perform fun _ => rfl).mp hOwn
  rcases hCalls with
    ⟨raw, rfl, hRead⟩
  rcases ClientExchange.reading_eq_ok.mp hRead.symm with
    ⟨response, hResponse, hUser⟩
  refine ⟨response, ?_, hUser⟩
  apply hSub
  rw [List.mem_singleton, ← hResponse]
  rfl

/- A removal on the record is one among the exchanges. -/
theorem removed_of_kicks
    (hMade : Made calls exchanges)
    {userId : Datum}
    (h : Kicks calls userId) :
    ∃ id answer,
      ⟨.removeMember id userId, answer⟩ ∈ exchanges := by
  rcases h with
    ⟨id, raw, hMem⟩
  rcases hMade.of_mem_calls hMem with
    ⟨⟨request, answer⟩, hx, own, hOwn, hIn⟩
  have hMethod := hOwn.methods hIn
  cases request with
  | removeMember id' userId' =>
      have hCalls :=
        (makes_perform fun _ => rfl).mp hOwn
      rcases hCalls with
        ⟨raw', rfl, -⟩
      have hSame := List.mem_singleton.mp hIn
      simp only [kickCall, ClientExchange.mk.injEq,
        ClientCall.mk.injEq, List.cons.injEq,
        Prod.mk.injEq] at hSame
      rcases hSame with
        ⟨⟨-, ⟨-, rfl⟩, ⟨-, rfl⟩, -⟩, -⟩
      exact ⟨_, _, hx⟩
  | _ => simp [kickCall, methods] at hMethod

end Web

end ChannelSync

------------------------------------------------------------
-- Retention
------------------------------------------------------------

namespace ChannelSync

variable {σ : Type}

/-
  A reconciliation over calls that do not contradict each
  other removes nobody whom an address led to, if the user is
  a bot or has a declared address.
-/
theorem resolved_members_kept
    (client : Client σ)
    (s : σ)
    (limits : Limits)
    (desired : Desired)
    (id? : Option Datum)
    (hConsistent :
      Web.Consistent
        (Web.record client (reconcile limits desired id?) s))
    (email : Datum)
    (user : User)
    (hResolved :
      Web.Resolves
        (Web.record client (reconcile limits desired id?) s)
        email user)
    (hStays :
      user.isBot.truthy = true ∨
        desired.members.contains user.email = true) :
    ¬ Web.Kicks
      (Web.record client (reconcile limits desired id?) s)
      user.id := by
  intro hKicks
  have hMade :=
    Web.made_record client (reconcile limits desired id?) s
  rcases Web.removed_of_kicks hMade hKicks with
    ⟨id, answer, hMem⟩
  rcases List.append_of_mem hMem with
    ⟨past, later, hSplit⟩
  rcases removesDuly_reconcile limits desired id? past id
      user.id answer later hSplit with
    ⟨-, hWarranted⟩
  rcases hWarranted.pass with
    ⟨before, listing, items, visits, found, rfl, -, -, -,
      hSurplus⟩
  have hDescribed :
      Web.Describes
        (Web.record client (reconcile limits desired id?) s)
        user.id found := by
    apply Web.describes_of_answer hMade
    simp [hSplit]
  have hSame := hConsistent email user found hResolved
    hDescribed
  rw [hSame] at hSurplus
  rcases hStays with hBot | hDeclared
  · rw [hSurplus.notBot] at hBot
    cases hBot
  · rw [hSurplus.undeclared] at hDeclared
    cases hDeclared

end ChannelSync

------------------------------------------------------------
-- Addresses in Another Spelling
------------------------------------------------------------

namespace ChannelSync

/- A channel with one member, declared by an address. -/
def Desired.enrolment : Desired where
  name := .text "lunch"
  members := [.text "A@x"]

namespace Script

/- A response that shows the channel, and some members. -/
def channelShown
    (userIds : List Datum) :
    Except ClientError Datum :=
  .ok (.object
    [("channel", .object
        [("id", .text "C1"), ("name", .text "lunch")]),
      ("members", .list userIds)])

/- A response that shows the user, with an address. -/
def userShown
    (email : Datum) :
    Except ClientError Datum :=
  .ok (.object [("user", .object
    [("id", .text "U1"),
      ("profile", .object [("email", email)])])])

/-
  The user is found by the declared address and invited, and
  then is a member.
-/
def enrolment
    (email : Datum) :
    Script where
  entries :=
    [channelShown [], channelShown [], userShown email,
      channelShown [], channelShown [], channelShown [],
      userShown email, userShown email, channelShown [],
      channelShown [.text "U1"], userShown email,
      channelShown [], channelShown [], channelShown []]

/- The user has the declared address. -/
def kept : Script :=
  enrolment (.text "A@x")

/- The user has the declared address in another spelling. -/
def undone : Script :=
  enrolment (.text "a@x")

/- The calls of the reconciliation, up to the last look-up. -/
def enrolmentCalls : List ClientCall :=
  [Web.infoCall (.text "C1"),
    Web.memberPageCall (.text "C1") (.text "") (.number 1),
    Web.lookupCall (.text "A@x"),
    Web.infoCall (.text "C1"), Web.infoCall (.text "C1"),
    Web.infoCall (.text "C1"),
    Web.lookupCall (.text "A@x"),
    Web.lookupCall (.text "A@x"),
    ⟨"conversations_invite",
      [("channel", .text "C1"), ("users", .text "U1")]⟩,
    Web.memberPageCall (.text "C1") (.text "") (.number 1),
    Web.userCall (.text "U1")]

/- The calls of the reconciliation after the last look-up. -/
def closingCalls : List ClientCall :=
  [Web.infoCall (.text "C1"),
    Web.memberPageCall (.text "C1") (.text "") (.number 1)]

/- The record of the reconciliation that keeps the user. -/
theorem record_kept :
    Web.record client
        (reconcile Limits.sample Desired.enrolment
          (some (.text "C1"))) kept =
      List.zipWith ClientExchange.mk
        (enrolmentCalls ++ closingCalls) kept.entries :=
  rfl

/- The record of the reconciliation that does not. -/
theorem record_undone :
    Web.record client
        (reconcile Limits.sample Desired.enrolment
          (some (.text "C1"))) undone =
      List.zipWith ClientExchange.mk
        (enrolmentCalls ++
          Web.kickCall (.text "C1") (.text "U1") ::
            closingCalls) undone.entries :=
  rfl

end Script

open Script

/- The user with the declared address is found and kept. -/
theorem resolved_members_kept_sample :
    Web.Resolves
        (Web.record client
          (reconcile Limits.sample Desired.enrolment
            (some (.text "C1"))) kept)
        (.text "A@x") ⟨.text "U1", .text "A@x", .flag false⟩ ∧
      ¬ Web.Kicks
        (Web.record client
          (reconcile Limits.sample Desired.enrolment
            (some (.text "C1"))) kept)
        (.text "U1") := by
  have hConsistent :
      Web.Consistent
        (Web.record client
          (reconcile Limits.sample Desired.enrolment
            (some (.text "C1"))) kept) := by
    rw [record_kept]
    apply Web.consistent_of_one
      ⟨.text "U1", .text "A@x", .flag false⟩
    decide
  have hResolved :
      Web.Resolves
        (Web.record client
          (reconcile Limits.sample Desired.enrolment
            (some (.text "C1"))) kept)
        (.text "A@x")
        ⟨.text "U1", .text "A@x", .flag false⟩ := by
    rw [record_kept]
    exact ⟨_, List.mem_of_getElem? (i := 2) rfl, rfl⟩
  exact ⟨hResolved,
    resolved_members_kept _ _ _ _ _ hConsistent _ _
      hResolved (Or.inr rfl)⟩

/-
  The user with the declared address in another spelling is
  found, invited and removed, though no call contradicts
  another.
-/
theorem resolved_member_removed :
    Web.Consistent
        (Web.record client
          (reconcile Limits.sample Desired.enrolment
            (some (.text "C1"))) undone) ∧
      .text "A@x" ∈ Desired.enrolment.members ∧
      Web.Resolves
        (Web.record client
          (reconcile Limits.sample Desired.enrolment
            (some (.text "C1"))) undone)
        (.text "A@x") ⟨.text "U1", .text "a@x", .flag false⟩ ∧
      Web.Kicks
        (Web.record client
          (reconcile Limits.sample Desired.enrolment
            (some (.text "C1"))) undone)
        (.text "U1") := by
  rw [record_undone]
  refine ⟨?_, List.mem_singleton_self _, ?_, ?_⟩
  · apply Web.consistent_of_one
      ⟨.text "U1", .text "a@x", .flag false⟩
    decide
  · exact ⟨_, List.mem_of_getElem? (i := 2) rfl, rfl⟩
  · exact ⟨.text "C1", _, List.mem_of_getElem? (i := 11) rfl⟩

end ChannelSync
