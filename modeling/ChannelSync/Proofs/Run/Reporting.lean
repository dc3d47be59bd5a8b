import ChannelSync.Proofs.Run.Conduct
import ChannelSync.Proofs.Run.Shape

/-
  Failures that are put on record before they are passed on.

  A run accounts for the failure that it ends with in one of
  two ways: its last request failed like that, and the report
  of it is the last event, or it ends with a collection of
  failures of earlier requests, each of which was reported.
  A report is an event of the highest level that names what
  was attempted.

  Programs account for their failures if their parts do.

  Key definitions include:
    * `Reported`
    * `Accounted`
    * `Program.Reports`
    * `Program.Conduct.reporting`

  Key theorems include:
    * `Program.reports_send`
    * `Program.Reports.bind`
    * `Program.Reports.attempt_bind`
-/

------------------------------------------------------------
-- Reports
------------------------------------------------------------

namespace ChannelSync

/- A request that failed, and the report of it. -/
structure Exchange.IsReported
    (x : Exchange)
    (event : Event)
    (failure : Failure) :
    Prop where
  failed : x.answer = .error (.failure failure)
  report :
    ∃ attempt,
      x.request.attempt? = some attempt ∧
        event = .failed attempt failure
  level : event.level = .error

/-
  Requests of a trace failed with these failures, in this
  order, and each of them was reported at once.
-/
inductive Reported : List Mark → List Failure → Prop where
  | nil : Reported [] []
  | skip
      {mark : Mark}
      {trace : List Mark}
      {failures : List Failure}
      (h : Reported trace failures) :
      Reported (mark :: trace) failures
  | report
      {x : Exchange}
      {event : Event}
      {failure : Failure}
      {trace : List Mark}
      {failures : List Failure}
      (hReport : x.IsReported event failure)
      (h : Reported trace failures) :
      Reported (.exchanged x :: .noted event :: trace)
        (failure :: failures)

/-
  A trace accounts for a failure that is passed on after it:
  it ends with the report of it, or the failure collects some
  that have been reported.
-/
inductive Accounted : List Mark → Failure → Prop where
  | reported
      (before : List Mark)
      {x : Exchange}
      {event : Event}
      {failure : Failure}
      (h : x.IsReported event failure) :
      Accounted (before ++ [.exchanged x, .noted event])
        failure
  | collected
      {trace : List Mark}
      {failures : List Failure}
      (h : Reported trace failures) :
      Accounted trace (.partialMembership failures)

variable {trace later : List Mark}
variable {failures others : List Failure}
variable {failure : Failure}

/- Nothing need be reported of any trace. -/
theorem reported_none
    (trace : List Mark) :
    Reported trace [] := by
  induction trace with
  | nil => exact .nil
  | cons mark rest ih => exact ih.skip

/- What is reported in two traces is reported in both. -/
theorem Reported.append
    (h : Reported trace failures)
    (hLater : Reported later others) :
    Reported (trace ++ later) (failures ++ others) := by
  induction h with
  | nil => exact hLater
  | skip _ ih => exact ih.skip
  | report hReport _ ih => exact ih.report hReport

/- What is reported in a trace stays so in a longer one. -/
theorem Reported.extend
    (h : Reported trace failures)
    (later : List Mark) :
    Reported (trace ++ later) failures := by
  have hBoth := h.append (reported_none later)
  rwa [List.append_nil] at hBoth

/- A longer trace accounts for the failure, too. -/
theorem Accounted.prepend
    (h : Accounted trace failure)
    (front : List Mark) :
    Accounted (front ++ trace) failure := by
  cases h with
  | reported before hReport =>
      rw [← List.append_assoc]
      exact .reported _ hReport
  | collected hReported =>
      exact .collected ((reported_none front).append hReported)

end ChannelSync

------------------------------------------------------------
-- Programs That Report
------------------------------------------------------------

namespace ChannelSync

namespace Program

variable {σ α β : Type}
variable {remote : Remote σ}

/-
  Whatever failure a run of a program ends with, its trace
  accounts for it.
-/
def Reports
    (remote : Remote σ)
    (p : Program α) :
    Prop :=
  ∀ s failure,
    (p.run remote s).result = .error (.failure failure) →
    Accounted (p.run remote s).trace failure

/- A program that never fails has nothing to report. -/
theorem reports_done
    (a : α) :
    (done (.ok a)).Reports remote :=
  fun _ _ h => nomatch h

/- An event is no failure. -/
theorem reports_record
    (event : Event) :
    (record event).Reports remote :=
  fun _ _ h => nomatch h

/- A computation does not fail. -/
theorem reports_lift
    (value : Except Fault α) :
    (lift value).Reports remote := by
  cases value <;> exact fun _ _ h => nomatch h

/- The number of pages is no failure. -/
theorem reports_pageBound
    (listing : Listing)
    (limit : Datum) :
    (pageBound listing limit).Reports remote :=
  fun _ _ h => nomatch h

/- An attempt does not fail. -/
theorem attempt_not_failed
    (p : Program α)
    (s : σ)
    (failure : Failure) :
    (p.attempt.run remote s).result ≠
      .error (.failure failure) := by
  intro h
  rw [run_attempt] at h
  dsimp only at h
  split at h <;> cases h

/- So it has nothing to report. -/
theorem reports_attempt
    (p : Program α) :
    p.attempt.Reports remote :=
  fun s failure h => absurd h (attempt_not_failed p s failure)

/- A failed request is followed by its report. -/
theorem run_reporting_send
    {request : Request}
    {event : Failure → Event}
    {s : σ}
    {failure : Failure}
    (h :
      (((send request).reporting event).run remote
        s).result = .error (.failure failure)) :
    (((send request).reporting event).run remote s).trace =
      [.exchanged ⟨request, .error (.failure failure)⟩,
        .noted (event failure)] := by
  unfold reporting at h ⊢
  rw [bind_eq, run_bind, run_attempt, run_send] at h ⊢
  match hAnswer : (remote.answer s request).1 with
  | .ok answer =>
      simp only [hAnswer] at h
      cases h
  | .error (.fault fault) =>
      simp only [hAnswer] at h
      cases h
  | .error (.failure failure') =>
      simp only [hAnswer] at h ⊢
      cases h
      rfl

/- So it is accounted for. -/
theorem reports_send
    {request : Request}
    {attempt : Attempt}
    (h : request.attempt? = some attempt) :
    ((send request).reporting fun failure =>
      .failed attempt failure).Reports remote := by
  intro s failure hResult
  rw [run_reporting_send hResult]
  exact .reported []
    ⟨rfl, ⟨attempt, h, rfl⟩, rfl⟩

/-
  If a composed program fails, then its first part did, or the
  rest did after it.
-/
theorem failed_of_bind
    {p : Program α}
    {next : α → Program β}
    {s : σ}
    {problem : Problem}
    (h :
      ((p >>= next).run remote s).result =
        .error problem) :
    ((p.run remote s).result = .error problem ∧
        ((p >>= next).run remote s).trace =
          (p.run remote s).trace) ∨
      ∃ a,
        (p.run remote s).result = .ok a ∧
          ((next a).run remote
              (p.run remote s).state).result =
            .error problem ∧
          ((p >>= next).run remote s).trace =
            (p.run remote s).trace ++
              ((next a).run remote
                (p.run remote s).state).trace := by
  rw [bind_eq, run_bind] at h ⊢
  cases hResult : (p.run remote s).result with
  | ok a =>
      simp only [hResult] at h ⊢
      exact Or.inr ⟨a, rfl, h, rfl⟩
  | error problem' =>
      simp only [hResult] at h
      cases h
      exact Or.inl ⟨rfl, rfl⟩

/- If it returns, then both parts did. -/
theorem returned_of_bind
    {p : Program α}
    {next : α → Program β}
    {s : σ}
    {b : β}
    (h : ((p >>= next).run remote s).result = .ok b) :
    ∃ a,
      (p.run remote s).result = .ok a ∧
        ((next a).run remote
            (p.run remote s).state).result =
          .ok b ∧
        ((p >>= next).run remote s).trace =
          (p.run remote s).trace ++
            ((next a).run remote
              (p.run remote s).state).trace := by
  rw [bind_eq, run_bind] at h ⊢
  cases hResult : (p.run remote s).result with
  | ok a =>
      simp only [hResult] at h ⊢
      exact ⟨a, rfl, h, rfl⟩
  | error problem =>
      simp only [hResult] at h
      cases h

/- If an attempt comes to a failure, then the program failed. -/
theorem failed_of_attempt
    {p : Program α}
    {s : σ}
    {failure : Failure}
    (h :
      (p.attempt.run remote s).result =
        .ok (.error failure)) :
    (p.run remote s).result = .error (.failure failure) ∧
      (p.attempt.run remote s).trace =
        (p.run remote s).trace := by
  rw [run_attempt] at h ⊢
  dsimp only at h
  split at h
  case h_1 => cases h
  case h_2 failure' hFailed =>
      cases h
      exact ⟨hFailed, rfl⟩
  case h_3 => cases h

/- A computation leaves no trace. -/
theorem trace_lift
    (value : Except Fault α)
    (s : σ) :
    ((lift value).run remote s).trace = [] := by
  cases value <;> rfl

/- Going on reports if both parts do. -/
theorem Reports.bind
    {p : Program α}
    {next : α → Program β}
    (hFirst : p.Reports remote)
    (hRest : ∀ a, (next a).Reports remote) :
    (p >>= next).Reports remote := by
  intro s failure h
  rcases failed_of_bind h with
    ⟨hFailed, hTrace⟩ | ⟨a, -, hFailed, hTrace⟩
  · rw [hTrace]
    exact hFirst s failure hFailed
  · rw [hTrace]
    exact (hRest a _ failure hFailed).prepend _

/-
  After an attempt, the failure may be passed on as it is, or
  the program goes on with something that reports.
-/
theorem Reports.attempt_bind
    {p : Program α}
    {next : Except Failure α → Program β}
    (hFirst : p.Reports remote)
    (hValue : ∀ a, (next (.ok a)).Reports remote)
    (hFailure :
      ∀ failure,
        next (.error failure) = fail failure ∨
          (next (.error failure)).Reports remote) :
    (p.attempt >>= next).Reports remote := by
  intro s failure h
  rcases failed_of_bind h with
    ⟨hFailed, -⟩ | ⟨reply, hReply, hRest, hTrace⟩
  · exact absurd hFailed (attempt_not_failed p s failure)
  · rw [hTrace]
    cases reply with
    | ok a => exact (hValue a _ failure hRest).prepend _
    | error refusal =>
        rcases hFailure refusal with hFail | hReports
        · rw [hFail] at hRest ⊢
          cases hRest
          rcases failed_of_attempt hReply with
            ⟨hFailed, hAttempt⟩
          have hAccounted := hFirst s failure hFailed
          rw [hAttempt]
          exact (List.append_nil _).symm ▸ hAccounted
        · exact (hReports _ failure hRest).prepend _

/- Reporting is a conduct. -/
def Conduct.reporting
    (remote : Remote σ) :
    Conduct where
  Holds p := p.Reports remote
  done := reports_done
  lift := reports_lift
  record := reports_record
  pageBound := reports_pageBound
  reported := reports_send
  attempt := reports_attempt
  bind := Reports.bind

end Program

end ChannelSync
