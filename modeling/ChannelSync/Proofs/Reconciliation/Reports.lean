import ChannelSync.Proofs.Reconciliation.Conduct
import ChannelSync.Proofs.Run.Reporting

/-
  The reports of failed requests.

  Bringing a channel in line and archiving it account for
  every failure that they end with, on any remote.  Failed
  invitations are only collected, and the collection is what
  is passed on: each of them is reported where it came up.

  Key theorems include:
    * `Roster.reported_inviteAll`
    * `reports_converge` and `reports_finalize`
-/

------------------------------------------------------------
-- Collected Failures
------------------------------------------------------------

namespace ChannelSync

namespace Roster

open Program

variable {σ : Type}
variable {remote : Remote σ}
variable {s : σ}
variable {id email : Datum}

/-
  The failure that an invitation leaves to be dealt with is
  reported, be it one of the lookup or of the invitation.
-/
theorem reported_inviteOne
    {failure? : Option Failure}
    (h :
      ((inviteOne id email).run remote s).result =
        .ok failure?) :
    Reported ((inviteOne id email).run remote s).trace
      failure?.toList := by
  unfold inviteOne at h ⊢
  rcases returned_of_bind h with
    ⟨looked, hLooked, hRest, hTrace⟩
  rw [hTrace]
  cases looked with
  | error failure =>
      rcases failed_of_attempt hLooked with
        ⟨hFailed, hLookup⟩
      cases hRest
      rw [hLookup, Access.userByEmail,
        run_reporting_send hFailed]
      exact .report ⟨rfl, ⟨_, rfl, rfl⟩, rfl⟩ .nil
  | ok user =>
      -- the lookup has left nothing to report
      refine (reported_none _).append ?_
      rcases returned_of_bind hRest with
        ⟨-, -, hInvited, hTrace⟩
      rw [hTrace]
      refine (reported_none _).append ?_
      rcases returned_of_bind hInvited with
        ⟨reply, hReply, hLast, hTrace⟩
      rw [hTrace]
      cases reply with
      | ok _ =>
          cases hLast
          exact reported_none _
      | error failure =>
          rcases failed_of_attempt hReply with
            ⟨hFailed, hInvite⟩
          rcases returned_of_bind hLast with
            ⟨settled, -, hEnd, hTrace⟩
          rw [hInvite, hTrace, trace_lift]
          cases settled with
          | true =>
              cases hEnd
              exact reported_none _
          | false =>
              cases hEnd
              rw [Access.invite, run_send] at hFailed ⊢
              exact .report ⟨hFailed, ⟨_, rfl, rfl⟩, rfl⟩ .nil

/- So are the failures that invitations in turn leave. -/
theorem reported_inviteEach
    {emails : List Datum}
    {failures : List Failure}
    (h :
      ((inviteEach id emails).run remote s).result =
        .ok failures) :
    Reported ((inviteEach id emails).run remote s).trace
      failures := by
  induction emails generalizing s failures with
  | nil =>
      cases h
      exact .nil
  | cons email rest ih =>
      unfold inviteEach at h ⊢
      rcases returned_of_bind h with
        ⟨failure?, hFirst, hRest, hTrace⟩
      rw [hTrace]
      rcases returned_of_bind hRest with
        ⟨later, hLater, hLast, hTrace⟩
      rw [hTrace]
      cases hLast
      exact (reported_inviteOne hFirst).append
        ((ih hLater).extend _)

/- The order of the addresses does not matter for that. -/
theorem reported_inviteAll
    {emails : List Datum}
    {failures : List Failure}
    (h :
      ((inviteAll id emails).run remote s).result =
        .ok failures) :
    Reported ((inviteAll id emails).run remote s).trace
      failures := by
  rcases returned_of_bind h with ⟨ordered, -, hEach, hTrace⟩
  unfold inviteAll
  rw [hTrace, trace_lift]
  exact reported_inviteEach hEach

end Roster

end ChannelSync

------------------------------------------------------------
-- Bringing in Line
------------------------------------------------------------

namespace ChannelSync

open Program

variable {σ : Type}
variable {remote : Remote σ}

/- Collected failures are passed on when the rest is done. -/
theorem reports_alignMembers
    (limits : Limits)
    (desired : Desired)
    (id : Datum) :
    (alignMembers limits desired id).Reports remote := by
  intro s failure h
  unfold alignMembers at h ⊢
  rcases failed_of_bind h with
    ⟨hFailed, hTrace⟩ | ⟨failures, hInvited, hRest, hTrace⟩
  · rw [hTrace]
    exact (Conduct.reporting remote).inviteAll id _ s failure
      hFailed
  · rw [hTrace]
    have hReported := Roster.reported_inviteAll hInvited
    rcases failed_of_bind hRest with
      ⟨hFailed, hTrace⟩ | ⟨-, -, hLast, hTrace⟩
    · rw [hTrace]
      exact ((Conduct.reporting remote).removeOthers _ id _ _
        failure hFailed).prepend _
    · rw [hTrace]
      split at hLast
      · cases hLast
      · cases hLast
        exact .collected (hReported.extend _)

/- So an existing channel is brought in line. -/
theorem reports_converge
    (limits : Limits)
    (desired : Desired)
    (id : Datum) :
    (converge limits desired id).Reports remote :=
  (Conduct.reporting remote).converge
    (reports_alignMembers limits desired id)

/- A channel is archived, if it is there. -/
theorem reports_finalize
    (id : Datum) :
    (finalize id).Reports remote := by
  have hArchive : (Access.archive id).Reports remote :=
    (reports_record _).bind fun _ => reports_send rfl
  apply hArchive.attempt_bind
  · exact fun _ => reports_done ()
  · intro failure
    dsimp only
    split
    · exact Or.inr (reports_record _)
    · exact Or.inl rfl

end ChannelSync
