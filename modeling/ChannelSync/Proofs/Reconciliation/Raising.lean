import ChannelSync.Proofs.Reconciliation.Conduct
import ChannelSync.Proofs.Run.Raising
import ChannelSync.Proofs.Workspace.Answers

/-
  The failures that the parts of a reconciliation end with.

  Each part ends with a failure of one of its requests, if it
  ends with a failure at all; that is a matter of its conduct,
  but for those parts that make up a failure or send a request
  without a report.  Failed invitations are only collected
  when the members are brought in line, so that in a workspace
  every other part ends with a single failure.

  Key theorems include:
    * `raises_validate` and `raises_createOrFind`
    * `Workspace.isSingle_of_raises`
-/

------------------------------------------------------------
-- Validating and Finding
------------------------------------------------------------

namespace ChannelSync

open Program

/- A declaration is refused with a single failure. -/
theorem raises_validate
    (desired : Desired) :
    (validate desired).Raises Failure.IsSingle := by
  unfold validate Desired.invalid?
  split
  case h_1 failure hInvalid =>
      split at hInvalid
      · cases hInvalid
        trivial
      · cases hInvalid
  case h_2 => trivial

/- A search ends with a single failure, if it fails. -/
theorem raises_findByName
    (limit name : Datum) :
    (findByName limit name).Raises Failure.IsSingle := by
  have hFrom :
      ∀ bound before cursor,
        (Search.findFrom limit name bound before
          cursor).Raises Failure.IsSingle := by
    intro bound
    induction bound with
    | zero => exact fun _ _ => trivial
    | succ bound ih =>
        intro before cursor
        apply (raises_send _).bind
        intro page
        split
        · trivial
        · split
          · exact ih _ _
          · trivial
  intro _
  exact hFrom _ _ _

/- So does creating a channel or finding it. -/
theorem raises_createOrFind
    (limits : Limits)
    (desired : Desired) :
    (createOrFind limits desired).Raises
      Failure.IsSingle := by
  have hCreate :
      (Access.create desired.name
        desired.isPrivate).Raises Failure.IsSingle := by
    refine Raises.bind (p := record _) trivial fun _ => ?_
    exact (raises_send _).bind fun _ => trivial
  apply hCreate.attempt
  · exact fun _ => trivial
  · intro failure hSingle
    dsimp only
    split
    · refine Raises.bind (p := record _) trivial fun _ => ?_
      exact (raises_findByName _ _).bind fun _ => trivial
    · exact hSingle

end ChannelSync

------------------------------------------------------------
-- In a Workspace
------------------------------------------------------------

namespace ChannelSync

namespace Workspace

open Program

/-
  Where only single failures are laid in, what passes the
  failures of its requests on ends with a single one.
-/
theorem isSingle_of_raises
    {w : Workspace}
    {p : Program α}
    (hSingly : w.RefusesSingly)
    (h : p.Raises Failure.IsSingle)
    {failure : Failure}
    (hResult :
      (p.run remote w).result = .error (.failure failure)) :
    failure.IsSingle := by
  have hKept :
      ∀ (s : Workspace) request, s.RefusesSingly →
        (remote.answer s request).2.RefusesSingly := by
    intro s request hs
    exact hs.congr (s.alike_self.answer request)
  have hAnswer :
      ∀ (s : Workspace) request failure, s.RefusesSingly →
        (remote.answer s request).1 =
            .error (.failure failure) →
          failure.IsSingle :=
    fun s request failure hs =>
      plain_answer hs request failure
  exact h.failure hKept hAnswer hSingly hResult

end Workspace

end ChannelSync
