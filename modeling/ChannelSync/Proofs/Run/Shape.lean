import ChannelSync.Proofs.Run.Ending

/-
  What the shape of a program says about its runs.

  Some facts about runs can be read off the program alone,
  whatever answers its requests: which requests it sends at
  all and which listings it asks about, and whether it gives
  up when a request fails.  All this is kept by going on
  with another program of that shape.

  Key definitions include:
    * `Program.Asks`
    * `Program.Sends` and `Program.Reads`
    * `Program.Strict`
    * `Exchange.Succeeded`
    * `Program.Vouches`
    * `Program.Silent`

  Key theorems include:
    * `Program.Sends.requests`
    * `Program.Strict.succeeded`
    * `Program.Vouches.bind` and `Program.Silent.bind`
-/

------------------------------------------------------------
-- All That a Program Asks
------------------------------------------------------------

namespace ChannelSync

namespace Program

variable {α β : Type}

/-
  Every request that a program can send is allowed, and so
  is every listing that it can ask about.
-/
def Asks
    (allowed : Request → Prop)
    (listed : Listing → Prop) :
    Program α → Prop
  | done _ => True
  | note _ rest => rest.Asks allowed listed
  | pages listing _ resume =>
      listed listing ∧
        ∀ n, (resume n).Asks allowed listed
  | call request resume =>
      allowed request ∧
        ∀ answer, (resume answer).Asks allowed listed

variable {allowed : Request → Prop}
variable {listed : Listing → Prop}

/- A program that sends one request asks nothing else. -/
theorem asks_send
    {request : Request}
    (h : allowed request) :
    (send request).Asks allowed listed := by
  refine ⟨h, ?_⟩
  rintro (failure | answer) <;> trivial

/- A computation asks nothing. -/
theorem asks_lift
    (value : Except Fault α) :
    (lift value).Asks allowed listed := by
  cases value <;> trivial

/- Going on asks what the two parts ask. -/
theorem Asks.bind
    {p : Program α}
    {next : α → Program β}
    (hFirst : p.Asks allowed listed)
    (hRest : ∀ a, (next a).Asks allowed listed) :
    (p >>= next).Asks allowed listed := by
  rw [bind_eq]
  induction p with
  | done result =>
      cases result with
      | ok a => exact hRest a
      | error problem => trivial
  | note event rest ih => exact ih hFirst
  | pages listing limit resume ih =>
      exact ⟨hFirst.1, fun n => ih n (hFirst.2 n)⟩
  | call request resume ih =>
      exact ⟨hFirst.1,
        fun answer => ih answer (hFirst.2 answer)⟩

/- An attempt asks what the program asks. -/
theorem Asks.attempt
    {p : Program α}
    (h : p.Asks allowed listed) :
    p.attempt.Asks allowed listed := by
  induction p with
  | done result =>
      match result with
      | .ok _ => trivial
      | .error (.failure _) => trivial
      | .error (.fault _) => trivial
  | note event rest ih => exact ih h
  | pages listing limit resume ih =>
      exact ⟨h.1, fun n => ih n (h.2 n)⟩
  | call request resume ih =>
      exact ⟨h.1, fun answer => ih answer (h.2 answer)⟩

/- What asks something asks some of more. -/
theorem Asks.mono
    {allowed' : Request → Prop}
    {listed' : Listing → Prop}
    {p : Program α}
    (h : p.Asks allowed listed)
    (hRequest :
      ∀ request, allowed request → allowed' request)
    (hListing :
      ∀ listing, listed listing → listed' listing) :
    p.Asks allowed' listed' := by
  induction p with
  | done result => trivial
  | note event rest ih => exact ih h
  | pages listing limit resume ih =>
      exact ⟨hListing listing h.1, fun n => ih n (h.2 n)⟩
  | call request resume ih =>
      exact ⟨hRequest request h.1,
        fun answer => ih answer (h.2 answer)⟩

/- Reporting a failure asks nothing more. -/
theorem Asks.reporting
    {p : Program α}
    {event : Failure → Event}
    (h : p.Asks allowed listed) :
    (p.reporting event).Asks allowed listed := by
  apply h.attempt.bind
  rintro (failure | a) <;> trivial

end Program

end ChannelSync

------------------------------------------------------------
-- Requests That a Program Sends
------------------------------------------------------------

namespace ChannelSync

namespace Program

variable {σ α β : Type}

/- Every request that a program can send is allowed. -/
def Sends
    (allowed : Request → Prop) :
    Program α → Prop
  | done _ => True
  | note _ rest => rest.Sends allowed
  | pages _ _ resume => ∀ n, (resume n).Sends allowed
  | call request resume =>
      allowed request ∧
        ∀ answer, (resume answer).Sends allowed

/- A program that asks for no change. -/
def Reads
    (p : Program α) :
    Prop :=
  p.Sends fun request => request.isWrite = false

variable {allowed : Request → Prop}

/- Sending is asking, whatever listings are asked about. -/
theorem sends_iff
    {p : Program α} :
    p.Sends allowed ↔ p.Asks allowed fun _ => True := by
  induction p with
  | done result => rfl
  | note event rest ih => exact ih
  | pages listing limit resume ih =>
      simp only [Sends, Asks, ih, true_and]
  | call request resume ih =>
      simp only [Sends, Asks, ih]

/- What a program asks includes what it sends. -/
theorem Asks.sends
    {listed : Listing → Prop}
    {p : Program α}
    (h : p.Asks allowed listed) :
    p.Sends allowed :=
  sends_iff.mpr (h.mono (fun _ => id) fun _ _ => trivial)

/- A program that sends one request sends that one only. -/
theorem sends_send
    {request : Request}
    (h : allowed request) :
    (send request).Sends allowed :=
  sends_iff.mpr (asks_send h)

/- A computation sends nothing. -/
theorem sends_lift
    (value : Except Fault α) :
    (lift value).Sends allowed :=
  sends_iff.mpr (asks_lift value)

/- Going on sends what the two parts send. -/
theorem Sends.bind
    {p : Program α}
    {next : α → Program β}
    (hFirst : p.Sends allowed)
    (hRest : ∀ a, (next a).Sends allowed) :
    (p >>= next).Sends allowed :=
  sends_iff.mpr
    ((sends_iff.mp hFirst).bind fun a =>
      sends_iff.mp (hRest a))

/- An attempt sends what the program sends. -/
theorem Sends.attempt
    {p : Program α}
    (h : p.Sends allowed) :
    p.attempt.Sends allowed :=
  sends_iff.mpr (sends_iff.mp h).attempt

/- Reporting a failure sends nothing more. -/
theorem Sends.reporting
    {p : Program α}
    {event : Failure → Event}
    (h : p.Sends allowed) :
    (p.reporting event).Sends allowed :=
  sends_iff.mpr (sends_iff.mp h).reporting

/- What sends some requests sends some of more requests. -/
theorem Sends.mono
    {allowed' : Request → Prop}
    {p : Program α}
    (h : p.Sends allowed)
    (hMore : ∀ request, allowed request → allowed' request) :
    p.Sends allowed' :=
  sends_iff.mpr ((sends_iff.mp h).mono hMore fun _ => id)

/- Every exchange of a run is about an allowed request. -/
theorem Sends.requests
    {remote : Remote σ}
    {p : Program α}
    (hSends : p.Sends allowed)
    (s : σ) :
    ∀ x ∈ (p.run remote s).exchanges, allowed x.request := by
  induction p generalizing s with
  | done result => simp [run, Run.exchanges]
  | note event rest ih =>
      simpa only [run, exchanges_after_noted] using
        ih hSends s
  | pages listing limit resume ih =>
      exact ih _ (hSends _) s
  | call request resume ih =>
      simp only [run]
      split
      case h_1 answer s' _ =>
          rw [exchanges_after_exchanged]
          exact List.forall_mem_cons.mpr
            ⟨hSends.1, ih _ (hSends.2 _) s'⟩
      case h_2 failure s' _ =>
          rw [exchanges_after_exchanged]
          exact List.forall_mem_cons.mpr
            ⟨hSends.1, ih _ (hSends.2 _) s'⟩
      case h_3 fault s' _ =>
          simpa [Run.exchanges] using hSends.1

end Program

end ChannelSync

------------------------------------------------------------
-- Giving Up at the First Failure
------------------------------------------------------------

namespace ChannelSync

/- The request of an exchange was granted. -/
def Exchange.Succeeded
    (x : Exchange) :
    Prop :=
  ∃ answer, x.answer = .ok answer

namespace Program

variable {σ α β : Type}

/- A program that returns nothing, whatever the answers. -/
def Hopeless : Program α → Prop
  | done (.ok _) => False
  | done (.error _) => True
  | note _ rest => rest.Hopeless
  | pages _ _ resume => ∀ n, (resume n).Hopeless
  | call _ resume => ∀ answer, (resume answer).Hopeless

/- A program that returns nothing once a request failed. -/
def Strict : Program α → Prop
  | done _ => True
  | note _ rest => rest.Strict
  | pages _ _ resume => ∀ n, (resume n).Strict
  | call _ resume =>
      (∀ answer, (resume (.ok answer)).Strict) ∧
        ∀ failure, (resume (.error failure)).Hopeless

/- There is no going on from a hopeless program. -/
theorem Hopeless.bind
    {p : Program α}
    {next : α → Program β}
    (h : p.Hopeless) :
    (p.bind next).Hopeless := by
  induction p with
  | done result =>
      cases result with
      | ok a => exact h.elim
      | error problem => trivial
  | note event rest ih => exact ih h
  | pages listing limit resume ih =>
      intro n
      exact ih n (h n)
  | call request resume ih =>
      intro answer
      exact ih answer (h answer)

/- A hopeless program does not return. -/
theorem Hopeless.result_ne_ok
    {remote : Remote σ}
    {p : Program α}
    (h : p.Hopeless)
    (s : σ)
    (a : α) :
    (p.run remote s).result ≠ .ok a := by
  induction p generalizing s with
  | done result =>
      cases result with
      | ok a => exact h.elim
      | error problem => simp [run]
  | note event rest ih => exact ih h s
  | pages listing limit resume ih => exact ih _ (h _) s
  | call request resume ih =>
      simp only [run]
      split
      case h_1 answer s' _ => exact ih _ (h _) s'
      case h_2 failure s' _ => exact ih _ (h _) s'
      case h_3 fault s' _ => simp

/- A single request is strict. -/
theorem strict_send
    (request : Request) :
    (send request).Strict :=
  ⟨fun _ => trivial, fun _ => trivial⟩

/- A reported request is strict. -/
theorem strict_reporting_send
    (request : Request)
    (event : Failure → Event) :
    ((send request).reporting event).Strict :=
  ⟨fun _ => trivial, fun _ => trivial⟩

/- A computation is strict. -/
theorem strict_lift
    (value : Except Fault α) :
    (lift value).Strict := by
  cases value <;> trivial

/- Strict programs make up a strict program. -/
theorem Strict.bind
    {p : Program α}
    {next : α → Program β}
    (hFirst : p.Strict)
    (hRest : ∀ a, (next a).Strict) :
    (p >>= next).Strict := by
  rw [bind_eq]
  induction p with
  | done result =>
      cases result with
      | ok a => exact hRest a
      | error problem => trivial
  | note event rest ih => exact ih hFirst
  | pages listing limit resume ih =>
      intro n
      exact ih n (hFirst n)
  | call request resume ih =>
      exact ⟨fun answer => ih _ (hFirst.1 answer),
        fun failure => (hFirst.2 failure).bind⟩

/-
  When a strict program returns, every one of its requests
  was granted.
-/
theorem Strict.succeeded
    {remote : Remote σ}
    {p : Program α}
    {s after : σ}
    {a : α}
    {exchanges : List Exchange}
    (hStrict : p.Strict)
    (hEnds : p.Ends remote s (.ok a) after exchanges) :
    ∀ x ∈ exchanges, x.Succeeded := by
  rcases hEnds with ⟨hResult, -, rfl⟩
  induction p generalizing s with
  | done result => simp [run, Run.exchanges]
  | note event rest ih =>
      simpa only [run, exchanges_after_noted] using
        ih hStrict hResult
  | pages listing limit resume ih =>
      exact ih _ (hStrict _) hResult
  | call request resume ih =>
      simp only [run] at hResult ⊢
      split at hResult
      case h_1 answer s' _ =>
          rw [exchanges_after_exchanged]
          exact List.forall_mem_cons.mpr
            ⟨⟨answer, rfl⟩,
              ih _ (hStrict.1 answer) hResult⟩
      case h_2 failure s' _ =>
          exact absurd hResult
            ((hStrict.2 failure).result_ne_ok s' a)
      case h_3 fault s' _ => simp at hResult

end Program

end ChannelSync

------------------------------------------------------------
-- Runs That Vouch for Their Exchanges
------------------------------------------------------------

namespace ChannelSync

namespace Program

variable {σ α β : Type}

/-
  A program that returns from a state only after exchanges
  that are good.
-/
def Vouches
    (remote : Remote σ)
    (good : Exchange → Prop)
    (p : Program α)
    (s : σ) :
    Prop :=
  ∀ a after exchanges,
    p.Ends remote s (.ok a) after exchanges →
      ∀ x ∈ exchanges, good x

variable {remote : Remote σ}
variable {good : Exchange → Prop}
variable {s : σ}

/- A strict program vouches for success. -/
theorem Strict.vouches
    {p : Program α}
    (hStrict : p.Strict)
    (hGood : ∀ x, x.Succeeded → good x) :
    p.Vouches remote good s :=
  fun _ _ _ hEnds x hx =>
    hGood x (hStrict.succeeded hEnds x hx)

/- Going on is vouched for where the first part returns. -/
theorem Vouches.bind
    {p : Program α}
    {next : α → Program β}
    (hFirst : p.Vouches remote good s)
    (hRest :
      ∀ a middle, p.Returns remote s a middle →
        (next a).Vouches remote good middle) :
    (p >>= next).Vouches remote good s := by
  intro b after exchanges hEnds
  rcases ends_bind_ok.mp hEnds with
    ⟨a, middle, first, rest, hA, hB, rfl⟩
  rw [List.forall_mem_append]
  exact ⟨hFirst _ _ _ hA,
    hRest a middle hA.returns _ _ _ hB⟩

end Program

end ChannelSync

------------------------------------------------------------
-- Silent Runs
------------------------------------------------------------

namespace ChannelSync

/- Where no exchange asks for a change there are no writes. -/
theorem Run.writes_eq_nil
    {σ α : Type}
    {run : Run σ α}
    (h :
      ∀ x ∈ run.exchanges, x.request.isWrite = false) :
    run.writes = [] := by
  simp only [Run.writes, Run.requests,
    List.filter_eq_nil_iff, List.mem_map]
  intro _ hMem
  rcases hMem with ⟨x, hx, rfl⟩
  simp [h x hx]

namespace Program

variable {σ α β : Type}

/-
  A run returns a value, asks for no change, and leaves its
  state as it is.
-/
structure Silent
    (remote : Remote σ)
    (p : Program α)
    (s : σ)
    (a : α) :
    Prop where
  returns : p.Returns remote s a s
  reads :
    ∀ x ∈ (p.run remote s).exchanges,
      x.request.isWrite = false

variable {remote : Remote σ}
variable {s : σ}

/- A silent run has no writes. -/
theorem Silent.writes
    {p : Program α}
    {a : α}
    (h : p.Silent remote s a) :
    (p.run remote s).writes = [] :=
  Run.writes_eq_nil h.reads

/- What follows a silent run has its result. -/
theorem Silent.result_bind
    {p : Program α}
    {next : α → Program β}
    {a : α}
    (h : p.Silent remote s a) :
    ((p >>= next).run remote s).result =
      ((next a).run remote s).result :=
  h.returns.result_bind

/- A program that only reads is silent where it stays. -/
theorem silent_of_reads
    {p : Program α}
    {a : α}
    (hReads : p.Reads)
    (h : p.Returns remote s a s) :
    p.Silent remote s a :=
  ⟨h, hReads.requests s⟩

/- A block that only answers is silent. -/
theorem silent_pure
    (a : α) :
    (pure a : Program α).Silent remote s a :=
  silent_of_reads trivial returns_pure_self

/- An event is silent. -/
theorem silent_record
    (event : Event) :
    (record event).Silent remote s () :=
  silent_of_reads trivial (returns_record.mpr rfl)

/- Silent parts make up a silent run. -/
theorem Silent.bind
    {p : Program α}
    {next : α → Program β}
    {a : α}
    {b : β}
    (hFirst : p.Silent remote s a)
    (hRest : (next a).Silent remote s b) :
    (p >>= next).Silent remote s b := by
  have hEnds :=
    hFirst.returns.ends.bind hRest.returns.ends
  refine ⟨hEnds.returns, ?_⟩
  rw [hEnds.exchanges_eq]
  intro x hMem
  rcases List.mem_append.mp hMem with hFront | hBack
  · exact hFirst.reads x hFront
  · exact hRest.reads x hBack

end Program

end ChannelSync
