import ChannelSync.Proofs.Web.Rendering

/-
  Runs that correspond to each other.

  A program is run on a faithful workspace.  The exchanges of
  the run are turned into a script, and another program is
  run on the platform behind the web API with that script.
  The second program follows the first one if it uses up the
  entries, makes the calls behind the exchanges, and comes to
  a result that says the same.

  Two programs are compared, since a program goes on with the
  failures that come back, and their texts differ between the
  platforms.  What follows is built up from parts: a request
  follows itself, and sequences and attempts of programs that
  follow each other do so too.

  Key definitions include:
    * `Program.Replays`
    * `Program.Follows`
    * `Shared` and `Attempted`

  Key theorems include:
    * `Program.follows_send`
    * `Program.Follows.bind`
    * `Program.Follows.attempt`
    * `Program.replays_read_bind`
    * `Program.follows_pages`
-/

------------------------------------------------------------
-- Replayed Runs
------------------------------------------------------------

namespace ChannelSync

/- Both values are the same one, which has a property. -/
def Shared
    (P : α → Prop)
    (a b : α) :
    Prop :=
  a = b ∧ P a

/- Attempts with related values, or with the same failure. -/
inductive Attempted
    (R : α → α → Prop) :
    Except Failure α → Except Failure α → Prop where
  | ok
      {a b : α}
      (h : R a b) :
      Attempted R (.ok a) (.ok b)
  | error
      {failure failure' : Failure}
      (h : failure.Same failure') :
      Attempted R (.error failure) (.error failure')

/- Where the values are equal, they share what one has. -/
theorem Matches.shared
    {P : α → Prop}
    {result result' : Except Problem α}
    (h : Matches Eq result result')
    (hValue : ∀ a, result = .ok a → P a) :
    Matches (Shared P) result result' := by
  cases h with
  | ok hSame => exact .ok ⟨hSame, hValue _ rfl⟩
  | error hSame => exact .error hSame

/- Attempts match like what was attempted. -/
theorem Matches.attempted
    {R : α → α → Prop}
    {result result' : Except Problem α}
    (h : Matches R result result') :
    Matches (Attempted R) (Program.attempted result)
      (Program.attempted result') := by
  cases h with
  | ok hRelated => exact .ok (.ok hRelated)
  | error hSame =>
      cases hSame with
      | failure hFailure => exact .ok (.error hFailure)
      | fault cause => exact .error (.fault cause)

namespace Program

variable {α β : Type}
variable {R : α → α → Prop}
variable {S : β → β → Prop}

/-
  On the platform behind the web API, with a script of some
  exchanges, a program comes to a result that says the same
  as a given one.  It uses up the entries for the exchanges
  and makes their calls.
-/
def Replays
    (R : α → α → Prop)
    (q : Program α)
    (exchanges : List Exchange)
    (result : Except Problem α)
    (rest : List (Except ClientError Datum))
    (sent : List ClientCall) :
    Prop :=
  ∃ result' exchanges',
    q.Ends (Web.remote Script.client)
        ⟨exchanges.flatMap Web.scripted ++ rest, sent⟩
        result'
        ⟨rest, sent ++ exchanges.flatMap Web.callsOf⟩
        exchanges' ∧
      Matches R result result'

variable {rest : List (Except ClientError Datum)}
variable {sent : List ClientCall}
variable {exchanges more : List Exchange}

/- What is done without a request replays nothing. -/
theorem replays_done
    {result result' : Except Problem α}
    (h : Matches R result result') :
    (done result').Replays R [] result rest sent := by
  refine ⟨result', [], ends_done.mpr ⟨rfl, ?_, rfl⟩, h⟩
  simp

/- Going on replays what comes after the first part. -/
theorem Replays.bind_ok
    {q : Program α}
    {next : α → Program β}
    {a : α}
    {result : Except Problem β}
    (h :
      q.Replays R exchanges (.ok a)
        (more.flatMap Web.scripted ++ rest) sent)
    (hNext :
      ∀ b, R a b →
        (next b).Replays S more result rest
          (sent ++ exchanges.flatMap Web.callsOf)) :
    (q >>= next).Replays S (exchanges ++ more) result rest
      sent := by
  rcases h with ⟨_, first, hFirst, hMatch⟩
  cases hMatch with
  | ok hRelated =>
      rcases hNext _ hRelated with
        ⟨result', later, hLater, hMatch'⟩
      refine ⟨result', first ++ later, ?_, hMatch'⟩
      rw [List.flatMap_append, List.flatMap_append,
        List.append_assoc, ← List.append_assoc sent]
      exact hFirst.bind hLater

/- A problem of the first part ends the replay. -/
theorem Replays.bind_error
    {q : Program α}
    {next : α → Program β}
    {problem : Problem}
    (h :
      q.Replays R exchanges (.error problem) rest sent) :
    (q >>= next).Replays S exchanges (.error problem) rest
      sent := by
  rcases h with ⟨_, first, hFirst, hMatch⟩
  cases hMatch with
  | error hSame =>
      exact ⟨_, first, hFirst.bind_error _, .error hSame⟩

/- The greatest number of pages comes from the script. -/
theorem replays_pageBound_bind
    {listing : Listing}
    {limit : Datum}
    {next : Nat → Program β}
    {result : Except Problem β}
    (h :
      (next
          ((exchanges.flatMap Web.scripted ++ rest).length +
            1)).Replays S exchanges result rest sent) :
    (pageBound listing limit >>= next).Replays S exchanges
      result rest sent := by
  rcases h with ⟨result', exchanges', hEnds, hMatch⟩
  refine ⟨result', exchanges', ?_, hMatch⟩
  exact (ends_pageBound.mpr ⟨rfl, rfl, rfl⟩).bind hEnds

end Program

end ChannelSync

------------------------------------------------------------
-- Programs That Follow Each Other
------------------------------------------------------------

namespace ChannelSync

namespace Program

variable {α β : Type}

/-
  On every faithful workspace a program leaves a faithful one
  behind, and another program replays its exchanges to the
  same result.
-/
def Follows
    (R : α → α → Prop)
    (p q : Program α) :
    Prop :=
  ∀ (w : Workspace), w.Faithful →
    ∀ result after exchanges,
      p.Ends Workspace.remote w result after exchanges →
        after.Faithful ∧
          ∀ rest sent,
            q.Replays R exchanges result rest sent

variable {R R' : α → α → Prop}
variable {S : β → β → Prop}
variable {p q : Program α}

/- Programs that are done follow each other. -/
theorem follows_done
    {result result' : Except Problem α}
    (h : Matches R result result') :
    Follows R (done result) (done result') := by
  intro w hw result after exchanges hEnds
  rcases ends_done.mp hEnds with ⟨rfl, rfl, rfl⟩
  exact ⟨hw, fun _ _ => replays_done h⟩

/- Related values follow each other. -/
theorem follows_pure
    {a b : α}
    (h : R a b) :
    Follows R (pure a) (pure b) :=
  follows_done (.ok h)

/- Failures that say the same follow each other. -/
theorem follows_fail
    {failure failure' : Failure}
    (h : failure.Same failure') :
    Follows R (fail failure) (fail failure') :=
  follows_done (.error (.failure h))

/- A computation follows itself. -/
theorem follows_lift
    (value : Except Fault α) :
    Follows (Shared fun a => value = .ok a) (lift value)
      (lift value) := by
  cases value with
  | ok a => exact follows_done (.ok ⟨rfl, rfl⟩)
  | error fault => exact follows_done (.error (.fault fault))

/- One event follows another, whatever they are about. -/
theorem follows_record
    (event event' : Event) :
    Follows Eq (record event) (record event') := by
  intro w hw result after exchanges hEnds
  rcases ends_record.mp hEnds with ⟨rfl, rfl, rfl⟩
  refine ⟨hw, fun rest sent => ?_⟩
  exact ⟨_, [],
    ends_record.mpr ⟨rfl, by simp, rfl⟩, .ok rfl⟩

/- A well-typed request follows itself. -/
theorem follows_send
    {request : Request}
    (hTyped : request.WellTyped) :
    Follows (Shared request.Shows) (send request)
      (send request) := by
  intro w hw result after exchanges hEnds
  rcases ends_send.mp hEnds with ⟨rfl, rfl, rfl⟩
  refine ⟨hw.answer hTyped, fun rest sent => ?_⟩
  have hShows :
      ∀ a, (w.answer request).1 = .ok a →
        request.Shows a :=
    fun a h => hw.typed.shows hTyped h
  rcases Web.answer_scripted rest sent hTyped hShows
      (hw.mapped_answer request) with
    ⟨result', hAnswer, hMatch⟩
  have hSame :
      (Web.remote Script.client).answer
          ⟨Web.scripted
              ⟨request,
                (Workspace.remote.answer w request).1⟩ ++
              rest, sent⟩
          request =
        (result',
          ⟨rest, sent ++
            Web.callsOf
              ⟨request,
                (Workspace.remote.answer w request).1⟩⟩) :=
    hAnswer
  refine ⟨result', [⟨request, result'⟩], ?_, ?_⟩
  · simp only [List.flatMap_singleton]
    apply ends_send.mpr
    rw [hSame]
    exact ⟨rfl, rfl, rfl⟩
  · exact hMatch.shared hShows

/- What follows can be said in a weaker way. -/
theorem Follows.mono
    (h : Follows R p q)
    (hWider : ∀ a b, R a b → R' a b) :
    Follows R' p q := by
  intro w hw result after exchanges hEnds
  rcases h w hw result after exchanges hEnds with
    ⟨hAfter, hReplays⟩
  refine ⟨hAfter, fun rest sent => ?_⟩
  rcases hReplays rest sent with
    ⟨result', exchanges', hEnds', hMatch⟩
  refine ⟨result', exchanges', hEnds', ?_⟩
  cases hMatch with
  | ok hRelated => exact .ok (hWider _ _ hRelated)
  | error hSame => exact .error hSame

/- Sequences follow each other part by part. -/
theorem Follows.bind
    (h : Follows R p q)
    {next next' : α → Program β}
    (hNext :
      ∀ a b, R a b → Follows S (next a) (next' b)) :
    Follows S (p >>= next) (q >>= next') := by
  intro w hw result after exchanges hEnds
  rcases ends_bind.mp hEnds with
    ⟨problem, hFirst, rfl⟩ |
      ⟨a, middle, first, later, hFirst, hLater, rfl⟩
  · rcases h w hw _ _ _ hFirst with ⟨hAfter, hReplays⟩
    exact ⟨hAfter, fun rest sent =>
      (hReplays rest sent).bind_error⟩
  · rcases h w hw _ _ _ hFirst with ⟨hMiddle, hReplays⟩
    have hLast :
        ∀ b, R a b →
          after.Faithful ∧
            ∀ rest sent,
              (next' b).Replays S later result rest sent :=
      fun b hRelated =>
        hNext a b hRelated middle hMiddle _ _ _ hLater
    constructor
    · rcases hReplays [] [] with ⟨_, _, _, hMatch⟩
      cases hMatch with
      | ok hRelated => exact (hLast _ hRelated).1
    · intro rest sent
      exact (hReplays _ sent).bind_ok fun b hRelated =>
        (hLast b hRelated).2 rest _

/- Attempts follow each other like what they attempt. -/
theorem Follows.attempt
    (h : Follows R p q) :
    Follows (Attempted R) p.attempt q.attempt := by
  intro w hw result after exchanges hEnds
  have hFirst := ends_run Workspace.remote p w
  rcases hEnds.unique ((ends_attempt _).mpr hFirst) with
    ⟨rfl, rfl, rfl⟩
  rcases h w hw _ _ _ hFirst with ⟨hAfter, hReplays⟩
  refine ⟨hAfter, fun rest sent => ?_⟩
  rcases hReplays rest sent with
    ⟨result', exchanges', hEnds', hMatch⟩
  exact ⟨attempted result', exchanges',
    (ends_attempt result').mpr hEnds', hMatch.attempted⟩

/- Reports of failures do not matter. -/
theorem Follows.reporting
    (h : Follows R p q)
    (event event' : Failure → Event) :
    Follows R (p.reporting event) (q.reporting event') := by
  intro w hw result after exchanges hEnds
  rcases h w hw _ _ _ (ends_reporting.mp hEnds) with
    ⟨hAfter, hReplays⟩
  refine ⟨hAfter, fun rest sent => ?_⟩
  rcases hReplays rest sent with
    ⟨result', exchanges', hEnds', hMatch⟩
  exact ⟨result', exchanges', ends_reporting.mpr hEnds',
    hMatch⟩

/- Of what is shared, both values are the same. -/
theorem Follows.same
    {P : α → Prop}
    (h : Follows (Shared P) p q) :
    Follows Eq p q :=
  h.mono fun _ _ hShared => hShared.1

/- A well-typed request follows itself when reported on. -/
theorem follows_reported
    {request : Request}
    (hTyped : request.WellTyped)
    (event : Failure → Event) :
    Follows Eq ((send request).reporting event)
      ((send request).reporting event) :=
  ((follows_send hTyped).reporting event event).same

end Program

end ChannelSync

------------------------------------------------------------
-- Listings
------------------------------------------------------------

namespace ChannelSync

namespace Program

variable {α : Type}
variable {R : α → α → Prop}

variable {β : Type}
variable {S : β → β → Prop}

/-
  After a request that only reads, a program is replayed if
  what comes next is, with fewer entries left in the script.
-/
theorem replays_read_bind
    {w after : Workspace}
    {request : Request}
    {p : Program request.Answer}
    {next next' : request.Answer → Program β}
    {result : Except Problem β}
    {exchanges : List Exchange}
    {rest : List (Except ClientError Datum)}
    {sent : List ClientCall}
    {bound : Nat}
    (hw : w.Faithful)
    (hFollows : Follows (Shared request.Shows) p p)
    (hRead : request.isWrite = false)
    (hSend :
      ∀ {result after exchanges},
        p.Ends Workspace.remote w result after exchanges →
          (send request).Ends Workspace.remote w result after
            exchanges)
    (h :
      (p >>= next).Ends Workspace.remote w result after
        exchanges)
    (hBound :
      (exchanges.flatMap Web.scripted ++ rest).length <
        bound + 1)
    (hNext :
      ∀ a later sent,
        (w.answer request).1 = .ok a →
        request.Shows a →
        (next a).Ends Workspace.remote w result after
          later →
        (later.flatMap Web.scripted ++ rest).length <
          bound →
          (next' a).Replays S later result rest sent) :
    (p >>= next').Replays S exchanges result rest sent := by
  rcases ends_bind.mp h with
    ⟨problem, hFirst, rfl⟩ |
      ⟨a, middle, first, later, hFirst, hLater, rfl⟩
  · exact ((hFollows w hw _ _ _ hFirst).2 rest
      sent).bind_error
  · rcases ends_send.mp (hSend hFirst) with
      ⟨hAnswer, hMiddle, rfl⟩
    have hSame : middle = w :=
      hMiddle.trans (Workspace.answer_read w hRead)
    subst hSame
    apply ((hFollows _ hw _ _ _ hFirst).2 _ sent).bind_ok
    rintro _ ⟨rfl, hShows⟩
    apply hNext _ _ _ hAnswer.symm hShows hLater
    -- The request itself took an entry.
    have hEntry := Web.length_scripted_pos
      ⟨request, (Workspace.remote.answer middle request).1⟩
    rw [List.singleton_append, List.flatMap_cons,
      List.append_assoc, List.length_append] at hBound
    omega

/-
  A listing follows itself if its pages are replayed with any
  bound above the number of entries in the script.  On the
  workspace the bound is above the number of items.
-/
theorem follows_pages
    {listing : Listing}
    {size : Nat}
    {next : Nat → Program α}
    (hSize : 0 < size)
    (hReads :
      (pageBound listing (.number size) >>= next).Reads)
    (hPages :
      ∀ (w : Workspace), w.Faithful →
        ∀ result exchanges,
          (next (w.listingLength listing + 1)).Ends
              Workspace.remote w result w exchanges →
            ∀ rest sent bound,
              (exchanges.flatMap Web.scripted ++
                  rest).length < bound →
                (next bound).Replays R exchanges result rest
                  sent) :
    Follows R (pageBound listing (.number size) >>= next)
      (pageBound listing (.number size) >>= next) := by
  intro w hw result after exchanges h
  have hState := Workspace.state_of_reads hReads w
  rw [h.state_eq] at hState
  subst hState
  refine ⟨hw, fun rest sent => ?_⟩
  have hPositive : (0 : Int) < size := by omega
  have hBound :
      Workspace.remote.pageBound after listing
          (.number size) =
        after.listingLength listing + 1 :=
    if_pos hPositive
  rcases (ends_bind_of_ok
      (ends_pageBound.mpr ⟨rfl, rfl, rfl⟩)).mp h with
    ⟨_, hListing, rfl⟩
  rw [hBound] at hListing
  apply replays_pageBound_bind
  exact hPages after hw result _ hListing rest sent _
    (Nat.lt_succ_self _)

end Program

end ChannelSync
