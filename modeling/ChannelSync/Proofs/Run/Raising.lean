import ChannelSync.Proofs.Run.Conduct
import ChannelSync.Proofs.Run.Shape

/-
  The failures that programs end with.

  Most programs make up no failure of their own: they end
  with a failure of a request, or with a fault.  So a property
  of all failures of requests is one of their failures too.

  Key definitions include:
    * `Program.Raises`
    * `Program.Conduct.raising`

  Key theorems include:
    * `Program.Raises.bind`
    * `Program.Raises.attempt`
    * `Program.Raises.failure`
-/

------------------------------------------------------------
-- Raising Failures
------------------------------------------------------------

namespace ChannelSync

namespace Program

variable {σ α β : Type}
variable {P : Failure → Prop}

/-
  A program that ends with failures with a property, if the
  failures of its requests have it.
-/
def Raises
    (P : Failure → Prop) :
    Program α → Prop
  | done (.ok _) => True
  | done (.error (.failure failure)) => P failure
  | done (.error (.fault _)) => True
  | note _ rest => rest.Raises P
  | pages _ _ resume => ∀ n, (resume n).Raises P
  | call _ resume =>
      (∀ answer, (resume (.ok answer)).Raises P) ∧
        ∀ failure, P failure →
          (resume (.error failure)).Raises P

/- A request raises its own failures. -/
theorem raises_send
    (request : Request) :
    (send request).Raises P :=
  ⟨fun _ => trivial, fun _ h => h⟩

/- A computation raises no failures. -/
theorem raises_lift
    (value : Except Fault α) :
    (lift value).Raises P := by
  cases value <;> trivial

/- Going on raises what the parts raise. -/
theorem Raises.bind
    {p : Program α}
    {next : α → Program β}
    (h : p.Raises P)
    (hNext : ∀ a, (next a).Raises P) :
    (p >>= next).Raises P := by
  rw [bind_eq]
  induction p with
  | done result =>
      match result, h with
      | .ok a, _ => exact hNext a
      | .error (.failure failure), h => exact h
      | .error (.fault fault), _ => trivial
  | note event rest ih => exact ih h
  | pages listing limit resume ih =>
      intro n
      exact ih n (h n)
  | call request resume ih =>
      constructor
      · intro answer
        exact ih _ (h.1 answer)
      · intro failure hFailure
        exact ih _ (h.2 failure hFailure)

/-
  After an attempt comes what follows a value, or what
  follows a failure with the property.
-/
theorem Raises.attempt
    {p : Program α}
    {next : Except Failure α → Program β}
    (h : p.Raises P)
    (hValue : ∀ a, (next (.ok a)).Raises P)
    (hFailure :
      ∀ failure, P failure →
        (next (.error failure)).Raises P) :
    (p.attempt >>= next).Raises P := by
  rw [bind_eq]
  induction p with
  | done result =>
      match result, h with
      | .ok a, _ => exact hValue a
      | .error (.failure failure), h =>
          exact hFailure failure h
      | .error (.fault fault), _ => trivial
  | note event rest ih => exact ih h
  | pages listing limit resume ih =>
      intro n
      exact ih n (h n)
  | call request resume ih =>
      constructor
      · intro answer
        exact ih _ (h.1 answer)
      · intro failure hOne
        exact ih _ (h.2 failure hOne)

/- Reporting a failure passes it on. -/
theorem Raises.reporting
    {p : Program α}
    {event : Failure → Event}
    (h : p.Raises P) :
    (p.reporting event).Raises P :=
  h.attempt (fun _ => trivial) fun _ hFailure => hFailure

/- An attempt raises nothing. -/
theorem raises_attempt
    (p : Program α) :
    p.attempt.Raises P := by
  induction p with
  | done result =>
      match result with
      | .ok _ => trivial
      | .error (.failure _) => trivial
      | .error (.fault _) => trivial
  | note event rest ih => exact ih
  | pages listing limit resume ih => exact ih
  | call request resume ih =>
      exact ⟨fun answer => ih _, fun failure _ => ih _⟩

/- Raising only such failures is a conduct. -/
def Conduct.raising
    (P : Failure → Prop) :
    Conduct where
  Holds p := p.Raises P
  done _ := trivial
  lift := raises_lift
  record _ := trivial
  pageBound _ _ := fun _ => trivial
  reported _ := (raises_send _).reporting
  attempt := raises_attempt
  bind := Raises.bind

/-
  A run ends with a failure with the property, where the
  answers keep an invariant and fail only that way.
-/
theorem Raises.failure
    {remote : Remote σ}
    {inv : σ → Prop}
    {p : Program α}
    (h : p.Raises P)
    (hKept :
      ∀ s request, inv s →
        inv (remote.answer s request).2)
    (hAnswer :
      ∀ s request failure, inv s →
        (remote.answer s request).1 =
            .error (.failure failure) →
          P failure)
    {s : σ}
    (hs : inv s)
    {failure : Failure}
    (hResult :
      (p.run remote s).result = .error (.failure failure)) :
    P failure := by
  induction p generalizing s with
  | done result =>
      simp only [run] at hResult
      subst hResult
      exact h
  | note event rest ih => exact ih h hs hResult
  | pages listing limit resume ih =>
      exact ih _ (h _) hs hResult
  | call request resume ih =>
      have hNext := hKept s request hs
      simp only [run] at hResult
      split at hResult
      case h_1 answer s' hSent =>
          rw [hSent] at hNext
          exact ih _ (h.1 answer) hNext hResult
      case h_2 failure' s' hSent =>
          rw [hSent] at hNext
          have hFailure :=
            hAnswer s request failure' hs (by rw [hSent])
          exact ih _ (h.2 failure' hFailure) hNext hResult
      case h_3 => cases hResult

end Program

end ChannelSync
