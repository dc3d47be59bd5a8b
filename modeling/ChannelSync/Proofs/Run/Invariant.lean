import ChannelSync.Proofs.Run.Ending

/-
  Invariants of runs.

  A program preserves a property of the remote's state when
  the property holds after every run of it from a state with
  the property, however the run ends.  What is preserved
  holds wherever a run is cut off.

  Key definitions include:
    * `Program.Preserves`

  Key theorems include:
    * `Program.Preserves.holds`
    * `Program.preserves_of_answers`
    * `Program.Preserves.bind`
    * `Program.holds_bind`
-/

------------------------------------------------------------
-- Invariants
------------------------------------------------------------

namespace ChannelSync

namespace Program

variable {σ α β : Type}
variable {remote : Remote σ}
variable {inv : σ → Prop}

/- However a run of a program ends, it keeps a property. -/
def Preserves
    (remote : Remote σ)
    (inv : σ → Prop)
    (p : Program α) :
    Prop :=
  ∀ s, inv s → inv (p.run remote s).state

/- The state at the end of a run has what is preserved. -/
theorem Preserves.holds
    {p : Program α}
    {s after : σ}
    {result : Except Problem α}
    {exchanges : List Exchange}
    (hPreserves : p.Preserves remote inv)
    (hEnds : p.Ends remote s result after exchanges)
    (h : inv s) :
    inv after :=
  hEnds.state_eq ▸ hPreserves s h

/- A program that leaves its state alone preserves all. -/
theorem preserves_of_state_eq
    {p : Program α}
    (h : ∀ s, (p.run remote s).state = s) :
    p.Preserves remote inv := by
  intro s hInv
  rw [h]
  exact hInv

/- What every answer keeps is kept by every program. -/
theorem preserves_of_answers
    (h :
      ∀ s request, inv s → inv (remote.answer s request).2)
    (p : Program α) :
    p.Preserves remote inv := by
  induction p with
  | done result => exact fun s hInv => hInv
  | note event rest ih => exact fun s hInv => ih s hInv
  | pages listing limit resume ih =>
      exact fun s hInv => ih _ s hInv
  | call request resume ih =>
      intro s hInv
      have hNext := h s request hInv
      simp only [run]
      split
      case h_1 answer s' hSent =>
          rw [hSent] at hNext
          exact ih _ s' hNext
      case h_2 failure s' hSent =>
          rw [hSent] at hNext
          exact ih _ s' hNext
      case h_3 fault s' hSent =>
          rw [hSent] at hNext
          exact hNext

/- A program that is done preserves everything. -/
theorem preserves_done
    (result : Except Problem α) :
    (done result).Preserves remote inv :=
  preserves_of_state_eq fun _ => rfl

/- A computation preserves everything. -/
theorem preserves_lift
    (value : Except Fault α) :
    (lift value).Preserves remote inv := by
  cases value <;> exact preserves_done _

/- An event preserves everything. -/
theorem preserves_record
    (event : Event) :
    (record event).Preserves remote inv :=
  preserves_of_state_eq fun _ => rfl

/-
  Going on preserves what both parts do.  The second part is
  asked only about what the first one can return.
-/
theorem Preserves.bind
    {p : Program α}
    {next : α → Program β}
    (hFirst : p.Preserves remote inv)
    (hRest :
      ∀ s a, inv s → (p.run remote s).result = .ok a →
        (next a).Preserves remote inv) :
    (p >>= next).Preserves remote inv := by
  intro s hInv
  rw [bind_eq, run_bind]
  cases hResult : (p.run remote s).result with
  | ok a => exact hRest s a hInv hResult _ (hFirst s hInv)
  | error problem => exact hFirst s hInv

/- What holds after the first part is kept by the second. -/
theorem holds_bind
    {p : Program α}
    {next : α → Program β}
    {s : σ}
    (h : inv (p.run remote s).state)
    (hRest : ∀ a, (next a).Preserves remote inv) :
    inv ((p >>= next).run remote s).state := by
  rw [bind_eq, run_bind]
  cases (p.run remote s).result with
  | ok a => exact hRest a _ h
  | error problem => exact h

/- An attempt preserves what the program does. -/
theorem Preserves.attempt
    {p : Program α}
    (h : p.Preserves remote inv) :
    p.attempt.Preserves remote inv := by
  intro s hInv
  rw [run_attempt]
  exact h s hInv

/- Reporting a failure preserves what the program does. -/
theorem Preserves.reporting
    {p : Program α}
    {event : Failure → Event}
    (h : p.Preserves remote inv) :
    (p.reporting event).Preserves remote inv := by
  intro s hInv
  have hEnds :=
    ends_reporting.mp
      (ends_run remote (p.reporting event) s)
  exact h.holds hEnds hInv

end Program

end ChannelSync
