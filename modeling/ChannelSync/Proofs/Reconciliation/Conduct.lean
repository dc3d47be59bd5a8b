import ChannelSync.Proofs.Reconciliation.Requests
import ChannelSync.Proofs.Run.Conduct

/-
  The conduct of the parts of a reconciliation.

  Whatever is kept by going on holds of the parts, as long as
  reported requests have it.  Two requests come without a
  report of their own: an invitation is only attempted, and
  the report of a removal is added where it is asked for.

  Key theorems include:
    * `Program.Conduct.fetch` and `Program.Conduct.ensure`
    * `Program.Conduct.detected`
    * `Program.Conduct.inviteAll` and
      `Program.Conduct.removeOthers`
    * `Program.Conduct.converge` and `Program.Conduct.check`
-/

------------------------------------------------------------
-- Access
------------------------------------------------------------

namespace ChannelSync

namespace Program

namespace Conduct

variable (c : Conduct)

/- The attributes of a channel are read. -/
theorem info
    (id : Datum) :
    c.Holds (Access.info id) :=
  c.reported rfl

/- A user is looked up by address. -/
theorem userByEmail
    (email : Datum) :
    c.Holds (Access.userByEmail email) :=
  c.reported rfl

/- A user is looked up by identifier. -/
theorem userById
    (userId : Datum) :
    c.Holds (Access.userById userId) :=
  c.reported rfl

/- Members are listed page by page. -/
theorem membersFrom
    (limit id : Datum)
    (bound : Nat)
    (cursor : Datum)
    (seen : List Datum) :
    c.Holds
      (Access.membersFrom limit id bound cursor seen) := by
  induction bound generalizing cursor seen with
  | zero => exact c.lift (.error .endlessListing)
  | succ bound ih =>
      have hPage :
          c.Holds (Access.memberPage limit id cursor) :=
        c.reported rfl
      apply c.bind hPage
      intro page
      apply c.bind (c.lift _)
      intro found
      split
      · exact ih page.next found
      · exact c.done found

/- All members are listed. -/
theorem memberIds
    (limit id : Datum) :
    c.Holds (Access.memberIds limit id) :=
  c.bind (c.pageBound _ _) fun bound =>
    c.membersFrom limit id bound _ _

/- A channel is fetched. -/
theorem fetch
    (limit id : Datum) :
    c.Holds (Access.fetch limit id) := by
  apply c.bind (c.info id)
  intro channel
  exact c.bind (c.memberIds limit id) fun _ => c.done _

/- An attribute is read, and may be set. -/
theorem ensure
    {id declared : Datum}
    {field : Observed → Datum}
    {event : Event}
    {set : Program Observed}
    (h : c.Holds set) :
    c.Holds
      (Access.ensure id declared field event set) := by
  apply c.bind (c.info id)
  intro channel
  apply c.bind (c.lift _)
  intro current
  split
  · exact c.done channel
  · exact c.bind (c.record event) fun _ => h

/- Privacy is noted. -/
theorem notePrivacy
    (desired : Desired)
    (observed : Observed)
    (id : Datum) :
    c.Holds (notePrivacy desired observed id) := by
  unfold ChannelSync.notePrivacy
  split
  · exact c.done ()
  · exact c.record _

/- A channel is fetched, and may be unarchived before. -/
theorem fetchActive
    (limits : Limits)
    (id : Datum) :
    c.Holds (fetchActive limits id) := by
  apply c.bind (c.fetch limits.members id)
  intro observed
  split
  · have hActive : c.Holds (Access.unarchive id) :=
      c.bind (c.record _) fun _ => c.reported rfl
    apply c.bind (c.record _)
    intro _
    exact c.bind hActive fun _ => c.fetch limits.members id
  · exact c.done observed

/- Three attributes are read, and may be set. -/
theorem alignAttributes
    (desired : Desired)
    (id : Datum) :
    c.Holds (alignAttributes desired id) := by
  apply c.bind (c.ensure (c.reported rfl))
  intro _
  apply c.bind (c.ensure (c.reported rfl))
  intro _
  apply c.bind (c.ensure (c.reported rfl))
  intro _
  exact c.done ()

end Conduct

end Program

end ChannelSync

------------------------------------------------------------
-- Checks
------------------------------------------------------------

namespace ChannelSync

namespace Program

namespace Conduct

variable (c : Conduct)

/- Data are tested one by one. -/
theorem anyFails
    {test : Datum → Program Bool}
    {event : Datum → Event}
    (h : ∀ d, c.Holds (test d))
    (ds : List Datum) :
    c.Holds (Drift.anyFails test event ds) := by
  induction ds with
  | nil => exact c.done false
  | cons d rest ih =>
      apply c.bind (h d)
      intro passed
      split
      · exact ih
      · exact c.bind (c.record _) fun _ => c.done true

/- The members are compared. -/
theorem membershipDiffers
    (desired : Desired)
    (observed : Observed) :
    c.Holds (Drift.membershipDiffers desired observed) := by
  have hEmail :
      ∀ email, c.Holds (Drift.testEmail observed email) :=
    fun email =>
      c.bind (c.userByEmail email) fun _ => c.lift _
  have hMember :
      ∀ userId, c.Holds (Drift.testMember desired userId) :=
    fun userId =>
      c.bind (c.userById userId) fun _ => c.lift _
  apply c.bind (c.lift _)
  intro emails
  rw [Drift.anyMissing_eq]
  apply c.bind (c.anyFails hEmail emails)
  intro missing
  split
  · exact c.done true
  · apply c.bind (c.lift _)
    intro userIds
    rw [Drift.anySurplus_eq]
    exact c.anyFails hMember userIds

/- A channel is compared with its declaration. -/
theorem detected
    (desired : Desired)
    (observed : Observed) :
    c.Holds (Drift.detected desired observed) := by
  have hDiffers :
      ∀ event,
        c.Holds (Program.record event >>= fun _ =>
          (pure true : Program Bool)) :=
    fun event => c.bind (c.record event) fun _ =>
      c.done true
  apply c.bind (c.lift _)
  intro name
  split
  · exact hDiffers _
  · apply c.bind (c.lift _)
    intro topic
    split
    · exact hDiffers _
    · apply c.bind (c.lift _)
      intro description
      split
      · exact hDiffers _
      · exact c.membershipDiffers desired observed

/- The check of the members is only attempted. -/
theorem membershipMayDiffer
    (desired : Desired)
    (observed : Observed) :
    c.Holds (membershipMayDiffer desired observed) := by
  apply c.bind (c.attempt _)
  rintro (failure | verdict)
  · exact c.bind (c.record _) fun _ => c.done true
  · exact c.done verdict

end Conduct

end Program

end ChannelSync

------------------------------------------------------------
-- Members
------------------------------------------------------------

namespace ChannelSync

namespace Program

namespace Conduct

variable (c : Conduct)

/- A lookup and an invitation are only attempted. -/
theorem inviteOne
    (id email : Datum) :
    c.Holds (Roster.inviteOne id email) := by
  apply c.bind (c.attempt _)
  rintro (failure | user)
  · exact c.done (some failure)
  · apply c.bind (c.record _)
    intro _
    apply c.bind (c.attempt _)
    rintro (failure | -)
    · apply c.bind (c.lift _)
      intro settled
      split
      · exact c.done none
      · exact c.bind (c.record _) fun _ =>
          c.done (some failure)
    · exact c.done none

/- Users are invited in turn. -/
theorem inviteAll
    (id : Datum)
    (emails : List Datum) :
    c.Holds (Roster.inviteAll id emails) := by
  apply c.bind (c.lift _)
  intro ordered
  induction ordered with
  | nil => exact c.done []
  | cons email rest ih =>
      apply c.bind (c.inviteOne id email)
      intro failure?
      exact c.bind ih fun failures => c.done _

/- Members are looked up, and may be removed. -/
theorem removeEach
    (id : Datum)
    (emails userIds : List Datum) :
    c.Holds (Roster.removeEach id emails userIds) := by
  induction userIds with
  | nil => exact c.done ()
  | cons userId rest ih =>
      apply c.bind (c.userById userId)
      intro user
      apply c.bind (c.lift _)
      intro stays
      split
      · exact ih
      · have hRemoved :
            c.Holds
              ((Access.remove id userId).reporting
                fun failure =>
                  .failed (.remove userId id) failure) :=
          c.reported rfl
        apply c.bind (c.record _)
        intro _
        exact c.bind hRemoved fun _ => ih

/- Members are listed, and may be removed. -/
theorem removeOthers
    (limit id : Datum)
    (emails : List Datum) :
    c.Holds (Roster.removeOthers limit id emails) :=
  c.bind (c.memberIds limit id) fun userIds =>
    c.removeEach id emails userIds

end Conduct

end Program

end ChannelSync

------------------------------------------------------------
-- Bringing in Line
------------------------------------------------------------

namespace ChannelSync

namespace Program

namespace Conduct

variable (c : Conduct)

/-
  An existing channel is brought in line.  The failures that
  are collected on the way are no matter of conduct.
-/
theorem converge
    {limits : Limits}
    {desired : Desired}
    {id : Datum}
    (h : c.Holds (alignMembers limits desired id)) :
    c.Holds (converge limits desired id) := by
  have hFetch : c.Holds (Access.fetch limits.members id) :=
    c.fetch limits.members id
  apply c.bind (c.fetchActive limits id)
  intro observed
  apply c.bind (c.notePrivacy desired observed id)
  intro _
  apply c.bind (c.detected desired observed)
  intro differs
  split
  · apply c.bind (c.record _)
    intro _
    apply c.bind (c.alignAttributes desired id)
    intro _
    apply c.bind (c.membershipMayDiffer desired observed)
    intro mayDiffer
    dsimp only
    split
    · exact c.bind h fun _ => hFetch
    · exact hFetch
  · exact c.bind (c.record _) fun _ => c.done observed

/- A channel is checked. -/
theorem check
    (limits : Limits)
    (desired : Desired)
    (id : Datum) :
    c.Holds (check limits desired id) :=
  c.bind (c.fetch limits.members id) (c.detected desired)

end Conduct

end Program

end ChannelSync
