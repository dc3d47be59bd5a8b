import ChannelSync.Proofs.Reconciliation.Target

/-
  How many channels a run creates.

  A workspace counts the identifiers that it makes up, and it
  makes one up for each channel that is created on request.
  So the count before and after a run says how many channels
  the run created, whatever else it did.

  Key definitions include:
    * `Run.creations`

  Key theorems include:
    * `Workspace.numbered_answer`
    * `Workspace.numbered_run`
-/

------------------------------------------------------------
-- Channels Created in a Run
------------------------------------------------------------

namespace ChannelSync

/- Whether an exchange created a channel. -/
def Exchange.creates : Exchange → Bool
  | ⟨.createChannel _ _, .ok _⟩ => true
  | _ => false

/- How many channels a run created. -/
def Run.creations
    (run : Run σ α) :
    Nat :=
  run.exchanges.countP Exchange.creates

namespace Workspace

variable {w : Workspace}

/- An update makes no identifier up. -/
theorem numbered_update
    (w : Workspace)
    (id : Datum)
    (change : Observed → Observed) :
    (w.update id change).2.numbered = w.numbered := by
  unfold update
  split <;> rfl

/- Neither does the archive. -/
theorem numbered_setArchived
    (w : Workspace)
    (id : Datum)
    (archived : Bool) :
    (w.setArchived id archived).2.numbered = w.numbered := by
  unfold setArchived
  split
  · rfl
  · split
    · rfl
    · exact numbered_update w id _

/- Only for a new channel an identifier is made up. -/
theorem numbered_grant
    {request : Request}
    (hOther :
      ∀ name isPrivate,
        request ≠ .createChannel name isPrivate) :
    (w.grant request).2.numbered = w.numbered := by
  cases request with
  | createChannel name isPrivate =>
      exact absurd rfl (hOther name isPrivate)
  | setPurpose id purpose =>
      simp only [grant, setPurpose]
      split
      · rfl
      · exact numbered_update w id _
  | setTopic id topic =>
      simp only [grant, setTopic]
      split
      · rfl
      · exact numbered_update w id _
  | renameChannel id name =>
      simp only [grant, renameChannel]
      split
      · rfl
      · exact numbered_update w id _
  | archiveChannel id => exact numbered_setArchived w id true
  | unarchiveChannel id =>
      exact numbered_setArchived w id false
  | inviteMembers id userIds =>
      simp only [grant, inviteMembers]
      split <;> rfl
  | removeMember id userId =>
      simp only [grant, removeMember]
      split
      · rfl
      · split <;> rfl
  | _ => rfl

/- One identifier is made up for each channel created. -/
theorem numbered_answer
    (w : Workspace)
    (request : Request) :
    (w.answer request).2.numbered =
      w.numbered +
        [⟨request, (w.answer request).1⟩].countP
          Exchange.creates := by
  have hOther :
      (∀ name isPrivate,
        request ≠ .createChannel name isPrivate) →
          (w.answer request).2.numbered = w.numbered := by
    intro hOther
    unfold answer
    split
    · rfl
    · exact numbered_grant hOther
  cases request with
  | createChannel name isPrivate =>
      cases hAnswer :
          (w.answer (.createChannel name isPrivate)).1 with
      | ok channel =>
          rcases answer_createChannel_ok hAnswer with
            ⟨-, -, hState⟩
          rw [hState]
          rfl
      | error problem =>
          rw [answer_createChannel_error hAnswer]
          rfl
  | _ => exact hOther (by simp)

open Program

/- One more exchange creates what it creates. -/
theorem creations_after_exchanged
    (x : Exchange)
    (run : Run Workspace α) :
    (run.after [.exchanged x]).creations =
      [x].countP Exchange.creates + run.creations := by
  rw [Run.creations, exchanges_after_exchanged,
    ← List.singleton_append, List.countP_append]
  rfl

/-
  The identifiers that a run makes up count the channels
  that it creates.
-/
theorem numbered_run
    (p : Program α)
    (w : Workspace) :
    (p.run remote w).state.numbered =
      w.numbered + (p.run remote w).creations := by
  induction p generalizing w with
  | done result => rfl
  | note event rest ih =>
      simp only [run, Run.creations, exchanges_after_noted]
      exact ih w
  | pages listing limit resume ih => exact ih _ w
  | call request resume ih =>
      have hStep := numbered_answer w request
      simp only [run]
      split
      case h_1 answer w' h =>
          change w.answer request = _ at h
          rw [h] at hStep
          rw [creations_after_exchanged, ← Nat.add_assoc,
            ← hStep]
          exact ih (.ok answer) w'
      case h_2 failure w' h =>
          change w.answer request = _ at h
          rw [h] at hStep
          rw [creations_after_exchanged, ← Nat.add_assoc,
            ← hStep]
          exact ih (.error failure) w'
      case h_3 fault w' h =>
          change w.answer request = _ at h
          rw [h] at hStep
          exact hStep

end Workspace

end ChannelSync
