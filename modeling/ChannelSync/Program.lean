import ChannelSync.Event
import ChannelSync.Request

/-
  Programs over a platform.

  A program is a tree of requests.  It may put events on
  record, ask how many pages a listing can have at most, and
  send requests; it goes on with the answer or the failure
  that comes back.  A fault does not come back: it ends the
  run.

  A program is data.  `Program.run` runs one on a `Remote`,
  which is any way to answer requests, and keeps a trace of
  the requests, their answers and the events.

  Key definitions include:
    * `Program`
    * `Program.attempt` and `Program.reporting`
    * `Remote`
    * `Run`
    * `Program.run`

  Key theorems include:
    * `Program.bind_assoc`
    * `Program.run_bind`
    * `Program.run_attempt`
-/

------------------------------------------------------------
-- Programs
------------------------------------------------------------

namespace ChannelSync

inductive Program (α : Type) : Type where
  | done (result : Except Problem α)
  | note (event : Event) (next : Program α)
  | pages
      (listing : Listing)
      (limit : Datum)
      (resume : Nat → Program α)
  | call
      (request : Request)
      (resume : Except Failure request.Answer → Program α)

namespace Program

/- Go on with the result of a program, if it has one. -/
def bind
    (p : Program α)
    (next : α → Program β) :
    Program β :=
  match p with
  | done (.ok a) => next a
  | done (.error problem) => done (.error problem)
  | note event rest => note event (rest.bind next)
  | pages listing limit resume =>
      pages listing limit fun n => (resume n).bind next
  | call request resume =>
      call request fun answer => (resume answer).bind next

instance : Monad Program where
  pure a := done (.ok a)
  bind := bind

end Program

end ChannelSync

------------------------------------------------------------
-- Building Programs
------------------------------------------------------------

namespace ChannelSync

namespace Program

/- End with a failure. -/
def fail
    (failure : Failure) :
    Program α :=
  done (.error (.failure failure))

/- End with a fault. -/
def abort
    (fault : Fault) :
    Program α :=
  done (.error (.fault fault))

/- The value of a computation that may have a fault. -/
def lift : Except Fault α → Program α
  | .ok a => done (.ok a)
  | .error fault => abort fault

/- Put an event on record. -/
def record
    (event : Event) :
    Program Unit :=
  note event (done (.ok ()))

/- Send a request. -/
def send
    (request : Request) :
    Program request.Answer :=
  call request fun
    | .ok answer => done (.ok answer)
    | .error failure => fail failure

/-
  The greatest number of pages that a listing can have, with
  a limit to the items of a page.
-/
def pageBound
    (listing : Listing)
    (limit : Datum) :
    Program Nat :=
  pages listing limit fun n => done (.ok n)

end Program

end ChannelSync

------------------------------------------------------------
-- Dealing with Failures
------------------------------------------------------------

namespace ChannelSync

namespace Program

/- Take a failure of a program as its result. -/
def attempt : Program α → Program (Except Failure α)
  | done (.ok a) => done (.ok (.ok a))
  | done (.error (.failure failure)) =>
      done (.ok (.error failure))
  | done (.error (.fault fault)) => abort fault
  | note event rest => note event rest.attempt
  | pages listing limit resume =>
      pages listing limit fun n => (resume n).attempt
  | call request resume =>
      call request fun answer => (resume answer).attempt

/- Put an event on record when a program fails. -/
def reporting
    (p : Program α)
    (event : Failure → Event) :
    Program α := do
  match ← p.attempt with
  | .ok a => return a
  | .error failure =>
      record (event failure)
      fail failure

end Program

end ChannelSync

------------------------------------------------------------
-- Laws of Programs
------------------------------------------------------------

namespace ChannelSync

namespace Program

/- Nothing to go on with changes nothing. -/
theorem bind_pure
    (p : Program α) :
    p.bind (fun a => done (.ok a)) = p := by
  induction p with
  | done result => cases result <;> rfl
  | note event rest ih => simp [bind, ih]
  | pages listing limit resume ih => simp [bind, ih]
  | call request resume ih => simp [bind, ih]

/- Going on in steps can be grouped either way. -/
theorem bind_assoc
    (p : Program α)
    (next : α → Program β)
    (last : β → Program γ) :
    (p.bind next).bind last =
      p.bind fun a => (next a).bind last := by
  induction p with
  | done result => cases result <;> rfl
  | note event rest ih => simp [bind, ih]
  | pages listing limit resume ih => simp [bind, ih]
  | call request resume ih => simp [bind, ih]

instance : LawfulMonad Program :=
  LawfulMonad.mk'
    Program
    (fun p => bind_pure p)
    (fun _ _ => rfl)
    (fun p next last => bind_assoc p next last)

/- Going on in a block is going on. -/
theorem bind_eq
    (p : Program α)
    (next : α → Program β) :
    p >>= next = p.bind next := by
  rfl

/- A block that only answers is done. -/
theorem pure_eq
    (a : α) :
    (pure a : Program α) = done (.ok a) := by
  rfl

end Program

end ChannelSync

------------------------------------------------------------
-- Running Programs
------------------------------------------------------------

namespace ChannelSync

/- A way to answer requests, with a state of its own. -/
structure Remote (σ : Type) where
  /- Answer a request. -/
  answer :
    σ → (request : Request) →
      Except Problem request.Answer × σ
  /- The greatest number of pages that a listing can have. -/
  pageBound : σ → Listing → Datum → Nat

/- A request with its answer. -/
structure Exchange where
  request : Request
  answer : Except Problem request.Answer

/- An entry of a trace. -/
inductive Mark where
  | exchanged (exchange : Exchange)
  | noted (event : Event)

/- A run: its result, the state after it, and its trace. -/
structure Run (σ α : Type) where
  result : Except Problem α
  state : σ
  trace : List Mark

namespace Run

/- A run with more trace before it. -/
def after
    (trace : List Mark)
    (run : Run σ α) :
    Run σ α :=
  { run with trace := trace ++ run.trace }

/- The exchanges of a run. -/
def exchanges
    (run : Run σ α) :
    List Exchange :=
  run.trace.filterMap fun
    | .exchanged exchange => some exchange
    | .noted _ => none

/- The requests of a run. -/
def requests
    (run : Run σ α) :
    List Request :=
  run.exchanges.map fun exchange => exchange.request

/- The requests of a run that ask for a change. -/
def writes
    (run : Run σ α) :
    List Request :=
  run.requests.filter Request.isWrite

/- The events of a run. -/
def events
    (run : Run σ α) :
    List Event :=
  run.trace.filterMap fun
    | .exchanged _ => none
    | .noted event => some event

end Run

namespace Program

/- Run a program on a remote, from a state of it. -/
def run
    (remote : Remote σ) :
    Program α → σ → Run σ α
  | done result, s => ⟨result, s, []⟩
  | note event rest, s =>
      (run remote rest s).after [.noted event]
  | pages listing limit resume, s =>
      run remote
        (resume (remote.pageBound s listing limit)) s
  | call request resume, s =>
      match remote.answer s request with
      | (.ok answer, s') =>
          (run remote (resume (.ok answer)) s').after
            [.exchanged ⟨request, .ok answer⟩]
      | (.error (.failure failure), s') =>
          (run remote (resume (.error failure)) s').after
            [.exchanged
              ⟨request, .error (.failure failure)⟩]
      | (.error (.fault fault), s') =>
          ⟨.error (.fault fault), s',
            [.exchanged ⟨request, .error (.fault fault)⟩]⟩

/- A run goes on where the first part of the program ended. -/
theorem run_bind
    (remote : Remote σ)
    (p : Program α)
    (next : α → Program β)
    (s : σ) :
    (p.bind next).run remote s =
      match (p.run remote s).result with
      | .ok a =>
          ((next a).run remote (p.run remote s).state).after
            (p.run remote s).trace
      | .error problem =>
          ⟨.error problem, (p.run remote s).state,
            (p.run remote s).trace⟩ := by
  induction p generalizing s with
  | done result => cases result <;> simp [bind, run, Run.after]
  | note event rest ih =>
      simp only [bind, run, Run.after, ih]
      cases (rest.run remote s).result <;> simp
  | pages listing limit resume ih =>
      simp only [bind, run, ih]
  | call request resume ih =>
      simp only [bind, run]
      split
      case h_1 answer s' _ =>
          simp only [Run.after, ih]
          cases ((resume (.ok answer)).run remote s').result
            <;> simp
      case h_2 failure s' _ =>
          simp only [Run.after, ih]
          cases
            ((resume (.error failure)).run remote s').result
            <;> simp
      case h_3 => simp

/- An attempt runs like the program, failures apart. -/
theorem run_attempt
    (remote : Remote σ)
    (p : Program α)
    (s : σ) :
    p.attempt.run remote s =
      { result :=
          match (p.run remote s).result with
          | .ok a => .ok (.ok a)
          | .error (.failure failure) => .ok (.error failure)
          | .error (.fault fault) => .error (.fault fault)
        state := (p.run remote s).state
        trace := (p.run remote s).trace } := by
  induction p generalizing s with
  | done result =>
      match result with
      | .ok a => rfl
      | .error (.failure failure) => rfl
      | .error (.fault fault) => rfl
  | note event rest ih =>
      simp only [attempt, run, Run.after, ih]
  | pages listing limit resume ih =>
      simp only [attempt, run, ih]
  | call request resume ih =>
      simp only [attempt, run]
      split <;> simp only [Run.after, ih]

end Program

end ChannelSync
