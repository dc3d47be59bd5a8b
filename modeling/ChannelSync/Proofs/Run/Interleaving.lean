import ChannelSync.Proofs.Run.Shape

/-
  Two programs that take turns on one remote.

  A process is a program in the middle of its run.  It can
  be stopped after every request, every event and every
  question about a listing.  A schedule says whose turn it
  is, step by step, so that every way to mix the requests of
  two runs is some schedule.

  When each program asks only for what the changes of the
  other one do not touch, each of them goes through the run
  that it would have alone, whatever the schedule.

  Key definitions include:
    * `Process` and `Process.step`
    * `Program.steps`
    * `Pair` and `Pair.interleave`
    * `Process.Follows`
    * `Remote.Isolates`

  Key theorems include:
    * `Process.finish_step`
    * `Process.follows_advance`
    * `Process.ended_advance`
    * `Pair.interleave_isolated`
-/

------------------------------------------------------------
-- Processes
------------------------------------------------------------

namespace ChannelSync

/- A program in the middle of a run, with the trace so far. -/
structure Process (α : Type) where
  rest : Program α
  trace : List Mark := []

/- What a program goes on with after an answer. -/
def Program.resumed
    {request : Request}
    (resume : Except Failure request.Answer → Program α) :
    Except Problem request.Answer → Program α
  | .ok answer => resume (.ok answer)
  | .error (.failure failure) => resume (.error failure)
  | .error (.fault fault) => abort fault

namespace Process

variable {σ α : Type}

/- The result of a process that has come to its end. -/
def result?
    (process : Process α) :
    Option (Except Problem α) :=
  match process.rest with
  | .done result => some result
  | _ => none

/- One step of a process, which sends one request at most. -/
def step
    (remote : Remote σ)
    (process : Process α)
    (s : σ) :
    Process α × σ :=
  match process.rest with
  | .done _ => (process, s)
  | .note event rest =>
      (⟨rest, process.trace ++ [.noted event]⟩, s)
  | .pages listing limit resume =>
      (⟨resume (remote.pageBound s listing limit),
        process.trace⟩, s)
  | .call request resume =>
      let answered := remote.answer s request
      (⟨.resumed resume answered.1,
        process.trace ++
          [.exchanged ⟨request, answered.1⟩]⟩,
        answered.2)

/- Some steps of a process that is alone with the remote. -/
def advance
    (remote : Remote σ) :
    Nat → Process α → σ → Process α × σ
  | 0, process, s => (process, s)
  | n + 1, process, s =>
      let next := process.step remote s
      advance remote n next.1 next.2

/- The run of a process that is left alone from now on. -/
def finish
    (remote : Remote σ)
    (process : Process α)
    (s : σ) :
    Run σ α :=
  (process.rest.run remote s).after process.trace

end Process

/- How many steps a program takes when it is alone. -/
def Program.steps
    (remote : Remote σ) :
    Program α → σ → Nat
  | done _, _ => 0
  | note _ rest, s => rest.steps remote s + 1
  | pages listing limit resume, s =>
      (resume (remote.pageBound s listing limit)).steps
        remote s + 1
  | call request resume, s =>
      match remote.answer s request with
      | (.ok answer, s') =>
          (resume (.ok answer)).steps remote s' + 1
      | (.error (.failure failure), s') =>
          (resume (.error failure)).steps remote s' + 1
      | (.error (.fault _), _) => 1

end ChannelSync

------------------------------------------------------------
-- Processes Alone
------------------------------------------------------------

namespace ChannelSync

namespace Process

variable {σ α : Type}
variable {remote : Remote σ}

/- A step does not change how the run goes. -/
theorem finish_step
    (process : Process α)
    (s : σ) :
    (process.step remote s).1.finish remote
        (process.step remote s).2 =
      process.finish remote s := by
  rcases process with ⟨rest, trace⟩
  cases rest with
  | done result => rfl
  | note event rest =>
      simp [step, finish, Program.run, Run.after]
  | pages listing limit resume => rfl
  | call request resume =>
      simp only [step, finish, Program.run]
      rcases hAnswer : remote.answer s request with
        ⟨(failure | fault) | answer, s'⟩ <;>
        simp [Program.resumed, Program.abort, Program.run,
          Run.after]

/- Neither do several steps. -/
theorem finish_advance
    (n : Nat)
    (process : Process α)
    (s : σ) :
    (process.advance remote n s).1.finish remote
        (process.advance remote n s).2 =
      process.finish remote s := by
  induction n generalizing process s with
  | zero => rfl
  | succ n ih => exact (ih _ _).trans (finish_step process s)

/- Every step brings a process nearer to its end. -/
theorem steps_step
    (process : Process α)
    (s : σ) :
    (process.step remote s).1.rest.steps remote
        (process.step remote s).2 =
      process.rest.steps remote s - 1 := by
  rcases process with ⟨rest, trace⟩
  cases rest with
  | done result => rfl
  | note event rest => rfl
  | pages listing limit resume => rfl
  | call request resume =>
      simp only [step, Program.steps]
      rcases hAnswer : remote.answer s request with
        ⟨(failure | fault) | answer, s'⟩ <;>
        simp [Program.resumed, Program.abort, Program.steps]

/- It is there when no more steps are to be taken. -/
theorem ended_of_steps
    {process : Process α}
    {s : σ}
    (h : process.rest.steps remote s = 0) :
    process.result?.isSome = true := by
  rcases process with ⟨rest, trace⟩
  cases rest with
  | done result => rfl
  | note event rest => simp [Program.steps] at h
  | pages listing limit resume =>
      simp [Program.steps] at h
  | call request resume =>
      simp only [Program.steps] at h
      split at h <;> simp at h

/- With enough steps a process comes to its end. -/
theorem ended_advance
    {n : Nat}
    {process : Process α}
    {s : σ}
    (h : process.rest.steps remote s ≤ n) :
    (process.advance remote n s).1.result?.isSome =
      true := by
  induction n generalizing process s with
  | zero => exact ended_of_steps (Nat.le_zero.mp h)
  | succ n ih =>
      apply ih
      rw [steps_step]
      omega

end Process

end ChannelSync

------------------------------------------------------------
-- Following a Run
------------------------------------------------------------

namespace ChannelSync

/- The process of a program that is about to run. -/
def Program.start
    (p : Program α) :
    Process α :=
  ⟨p, []⟩

namespace Process

variable {σ α : Type}
variable {remote : Remote σ}

/-
  A process that keeps to a run: it has a part of the trace,
  and at its end all of it, with the result.
-/
structure Follows
    (process : Process α)
    (run : Run σ α) :
    Prop where
  onCourse : process.trace <+: run.trace
  ended :
    ∀ result, process.result? = some result →
      process.trace = run.trace ∧ result = run.result

/- A process at its end has run. -/
theorem finish_of_result?
    {process : Process α}
    {result : Except Problem α}
    (h : process.result? = some result)
    (s : σ) :
    process.finish remote s =
      ⟨result, s, process.trace⟩ := by
  rcases process with ⟨rest, trace⟩
  cases rest with
  | done found =>
      cases h
      simp [finish, Program.run, Run.after]
  | note event rest => cases h
  | pages listing limit resume => cases h
  | call request resume => cases h

/- A process keeps to the run that it would finish. -/
theorem follows_finish
    (process : Process α)
    (s : σ) :
    process.Follows (process.finish remote s) where
  onCourse := List.prefix_append _ _
  ended := by
    intro result h
    rw [finish_of_result? h]
    exact ⟨rfl, rfl⟩

/- A program that is alone keeps to its run. -/
theorem follows_advance
    (n : Nat)
    (p : Program α)
    (s : σ) :
    (p.start.advance remote n s).1.Follows
      (p.run remote s) := by
  have h :=
    @follows_finish σ α remote
      (p.start.advance remote n s).1
      (p.start.advance remote n s).2
  rwa [finish_advance] at h

/- At its end it leaves what its run leaves. -/
theorem state_advance
    {n : Nat}
    {p : Program α}
    {s : σ}
    (h : (p.start.advance remote n s).1.result?.isSome =
      true) :
    (p.start.advance remote n s).2 =
      (p.run remote s).state := by
  rcases Option.isSome_iff_exists.mp h with
    ⟨result, hResult⟩
  have hFinish :=
    @finish_advance σ α remote n p.start s
  rw [finish_of_result? hResult] at hFinish
  exact congrArg Run.state hFinish

end Process

end ChannelSync

------------------------------------------------------------
-- Taking Turns
------------------------------------------------------------

namespace ChannelSync

/- One of two processes. -/
inductive Side where
  | first
  | second
deriving DecidableEq

/- Two processes on one remote. -/
structure Pair (σ α β : Type) where
  first : Process α
  second : Process β
  state : σ

namespace Pair

variable {σ α β : Type}

/- One of the processes takes a step. -/
def turn
    (remote : Remote σ)
    (pair : Pair σ α β) :
    Side → Pair σ α β
  | .first =>
      let next := pair.first.step remote pair.state
      { pair with first := next.1, state := next.2 }
  | .second =>
      let next := pair.second.step remote pair.state
      { pair with second := next.1, state := next.2 }

/- The processes take steps as a schedule says. -/
def interleave
    (remote : Remote σ) :
    List Side → Pair σ α β → Pair σ α β
  | [], pair => pair
  | side :: rest, pair =>
      interleave remote rest (pair.turn remote side)

end Pair

end ChannelSync

------------------------------------------------------------
-- Isolation
------------------------------------------------------------

namespace ChannelSync

/-
  States that are related answer some requests in the same
  way and stay related, and so they do for some listings.
-/
structure Remote.Isolates
    (remote : Remote σ)
    (allowed : Request → Prop)
    (listed : Listing → Prop)
    (related : σ → σ → Prop) :
    Prop where
  answer :
    ∀ s t request, related s t → allowed request →
      (remote.answer s request).1 =
          (remote.answer t request).1 ∧
        related (remote.answer s request).2
          (remote.answer t request).2
  pageBound :
    ∀ s t listing limit, related s t → listed listing →
      remote.pageBound s listing limit =
        remote.pageBound t listing limit

variable {σ α β : Type}
variable {remote : Remote σ}

namespace Process

variable {allowed : Request → Prop}
variable {listed : Listing → Prop}
variable {related : σ → σ → Prop}
variable {s t : σ}

/- A step leaves a program that asks for no more. -/
theorem asks_step
    {process : Process α}
    (h : process.rest.Asks allowed listed)
    (s : σ) :
    (process.step remote s).1.rest.Asks allowed listed := by
  rcases process with ⟨rest, trace⟩
  cases rest with
  | done result => exact h
  | note event rest => exact h
  | pages listing limit resume => exact h.2 _
  | call request resume =>
      simp only [step]
      rcases remote.answer s request with
        ⟨(failure | fault) | answer, s'⟩
      · exact h.2 _
      · trivial
      · exact h.2 _

/- From related states a process takes the same step. -/
theorem step_isolated
    {process : Process α}
    (hIsolates : remote.Isolates allowed listed related)
    (hAsks : process.rest.Asks allowed listed)
    (hRelated : related s t) :
    (process.step remote s).1 = (process.step remote t).1 ∧
      related (process.step remote s).2
        (process.step remote t).2 := by
  rcases process with ⟨rest, trace⟩
  cases rest with
  | done result => exact ⟨rfl, hRelated⟩
  | note event rest => exact ⟨rfl, hRelated⟩
  | pages listing limit resume =>
      have hBound :=
        hIsolates.pageBound s t listing limit hRelated
          hAsks.1
      simp only [step, hBound]
      exact ⟨trivial, hRelated⟩
  | call request resume =>
      rcases hIsolates.answer s t request hRelated
        hAsks.1 with ⟨hAnswer, hNext⟩
      simp only [step, hAnswer]
      exact ⟨trivial, hNext⟩

end Process

namespace Pair

variable {allowed allowed' : Request → Prop}
variable {listed listed' : Listing → Prop}
variable {shared : σ → σ → σ → Prop}

/-
  Two processes that share a state without touching each
  other's part: whatever the schedule, each of them is where
  it would be alone after as many steps.  The relation says
  how the shared state is made up of the two that the
  processes alone would have.
-/
theorem interleave_isolated
    (hFirst :
      ∀ t', remote.Isolates allowed listed
        fun s t => shared s t t')
    (hSecond :
      ∀ t, remote.Isolates allowed' listed'
        fun s t' => shared s t t')
    (schedule : List Side)
    {pair : Pair σ α β}
    {t t' : σ}
    (hAsks : pair.first.rest.Asks allowed listed)
    (hAsks' : pair.second.rest.Asks allowed' listed')
    (hShared : shared pair.state t t') :
    (pair.interleave remote schedule).first =
        (pair.first.advance remote
          (schedule.count .first) t).1 ∧
      (pair.interleave remote schedule).second =
        (pair.second.advance remote
          (schedule.count .second) t').1 ∧
      shared (pair.interleave remote schedule).state
        (pair.first.advance remote
          (schedule.count .first) t).2
        (pair.second.advance remote
          (schedule.count .second) t').2 := by
  induction schedule generalizing pair t t' with
  | nil => exact ⟨rfl, rfl, hShared⟩
  | cons side rest ih =>
      cases side with
      | first =>
          rcases Process.step_isolated (hFirst t') hAsks
            hShared with ⟨hStep, hNext⟩
          have hRest :=
            @ih (pair.turn remote .first) _ _
              (Process.asks_step hAsks _) hAsks' hNext
          simp only [turn, hStep] at hRest
          simpa [interleave, turn, hStep,
            Process.advance] using hRest
      | second =>
          rcases Process.step_isolated (hSecond t) hAsks'
            hShared with ⟨hStep, hNext⟩
          have hRest :=
            @ih (pair.turn remote .second) _ _
              hAsks (Process.asks_step hAsks' _) hNext
          simp only [turn, hStep] at hRest
          simpa [interleave, turn, hStep,
            Process.advance] using hRest

end Pair

end ChannelSync
