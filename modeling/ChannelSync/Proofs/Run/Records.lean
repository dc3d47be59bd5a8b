import ChannelSync.Proofs.Run.Shape

/-
  The events that runs put on record.

  Which events a program can put on record at all is read off
  the program: it holds for every remote, and however the run
  ends.

  Key definitions include:
    * `Program.Notes`

  Key theorems include:
    * `Program.Notes.bind` and `Program.Notes.reporting`
    * `Program.Notes.events`
-/

------------------------------------------------------------
-- Events of Traces
------------------------------------------------------------

namespace ChannelSync

namespace Program

variable {σ α : Type}

/- An event before a run comes first. -/
@[simp]
theorem events_after_noted
    (event : Event)
    (run : Run σ α) :
    (run.after [.noted event]).events =
      event :: run.events := by
  simp [Run.events, Run.after]

/- An exchange before a run is no event. -/
@[simp]
theorem events_after_exchanged
    (x : Exchange)
    (run : Run σ α) :
    (run.after [.exchanged x]).events = run.events := by
  simp [Run.events, Run.after]

end Program

end ChannelSync

------------------------------------------------------------
-- Events That a Program Puts on Record
------------------------------------------------------------

namespace ChannelSync

namespace Program

variable {σ α β : Type}
variable {allowed : Event → Prop}

/- Every event that a program can put on record is allowed. -/
def Notes
    (allowed : Event → Prop) :
    Program α → Prop
  | done _ => True
  | note event rest => allowed event ∧ rest.Notes allowed
  | pages _ _ resume => ∀ n, (resume n).Notes allowed
  | call _ resume => ∀ answer, (resume answer).Notes allowed

/- A request puts nothing on record. -/
theorem notes_send
    (request : Request) :
    (send request).Notes allowed := by
  rintro (failure | answer) <;> trivial

/- Nor does a computation. -/
theorem notes_lift
    (value : Except Fault α) :
    (lift value).Notes allowed := by
  cases value <;> trivial

/- Going on puts on record what the two parts do. -/
theorem Notes.bind
    {p : Program α}
    {next : α → Program β}
    (hFirst : p.Notes allowed)
    (hRest : ∀ a, (next a).Notes allowed) :
    (p >>= next).Notes allowed := by
  rw [bind_eq]
  induction p with
  | done result =>
      cases result with
      | ok a => exact hRest a
      | error problem => trivial
  | note event rest ih => exact ⟨hFirst.1, ih hFirst.2⟩
  | pages listing limit resume ih =>
      intro n
      exact ih n (hFirst n)
  | call request resume ih =>
      intro answer
      exact ih answer (hFirst answer)

/- An attempt puts on record what the program does. -/
theorem Notes.attempt
    {p : Program α}
    (h : p.Notes allowed) :
    p.attempt.Notes allowed := by
  induction p with
  | done result =>
      match result with
      | .ok _ => trivial
      | .error (.failure _) => trivial
      | .error (.fault _) => trivial
  | note event rest ih => exact ⟨h.1, ih h.2⟩
  | pages listing limit resume ih =>
      intro n
      exact ih n (h n)
  | call request resume ih =>
      intro answer
      exact ih answer (h answer)

/- Reporting a failure adds the report of it. -/
theorem Notes.reporting
    {p : Program α}
    {event : Failure → Event}
    (h : p.Notes allowed)
    (hEvent : ∀ failure, allowed (event failure)) :
    (p.reporting event).Notes allowed := by
  apply h.attempt.bind
  rintro (failure | a)
  · exact ⟨hEvent failure, trivial⟩
  · trivial

/- Every event of a run is an allowed one. -/
theorem Notes.events
    {remote : Remote σ}
    {p : Program α}
    (hNotes : p.Notes allowed)
    (s : σ) :
    ∀ event ∈ (p.run remote s).events, allowed event := by
  induction p generalizing s with
  | done result => simp [run, Run.events]
  | note event rest ih =>
      simp only [run, events_after_noted]
      exact List.forall_mem_cons.mpr
        ⟨hNotes.1, ih hNotes.2 s⟩
  | pages listing limit resume ih =>
      exact ih _ (hNotes _) s
  | call request resume ih =>
      simp only [run]
      split
      case h_1 answer s' _ =>
          rw [events_after_exchanged]
          exact ih _ (hNotes _) s'
      case h_2 failure s' _ =>
          rw [events_after_exchanged]
          exact ih _ (hNotes _) s'
      case h_3 fault s' _ => simp [Run.events]

end Program

end ChannelSync
