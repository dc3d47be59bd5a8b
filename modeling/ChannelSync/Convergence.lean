import ChannelSync.Roster
import ChannelSync.Search

/-
  Bringing a channel in line with its declaration.

  `reconcile` finds or creates the channel, takes it out of
  the archive, and changes what differs.  It never tries a
  failed request again: the caller reconciles again later.
  `check` only says whether something differs, `finalize`
  archives the channel, and `adopt` makes a declaration from
  a channel.

  Key definitions include:
    * `Desired.invalid?`
    * `project`
    * `Limits`
    * `reconcile`
    * `check`, `finalize` and `adopt`
-/

------------------------------------------------------------
-- Declarations
------------------------------------------------------------

namespace ChannelSync

/- Why a declaration cannot be reconciled: it has no members. -/
def Desired.invalid?
    (desired : Desired) :
    Option Failure :=
  if desired.members.isEmpty then
    some (.single .validation
      "Users can not be empty" (.text "") none)
  else
    none

/-
  The declaration of a channel as it is.  Its texts are what
  the channel shows; its members are identifiers.
-/
def project
    (observed : Observed) :
    Except Fault Desired := do
  let description ← observed.description.unescaped
  let topic ← observed.topic.unescaped
  return {
    name := observed.name
    description := description
    topic := topic
    isPrivate := observed.isPrivate
    members := observed.memberIds }

/- The sizes of the pages of the two listings. -/
structure Limits where
  channels : Datum
  members : Datum
deriving DecidableEq, Inhabited

end ChannelSync

------------------------------------------------------------
-- Steps of a Reconciliation
------------------------------------------------------------

namespace ChannelSync

open Program

/- Refuse a declaration that cannot be reconciled. -/
def validate
    (desired : Desired) :
    Program Unit :=
  match desired.invalid? with
  | some failure => fail failure
  | none => return ()

/-
  The identifier of a new channel, or of the channel that
  has the name already.
-/
def createOrFind
    (limits : Limits)
    (desired : Desired) :
    Program Datum := do
  match ←
      (Access.create desired.name desired.isPrivate).attempt
    with
  | .ok id => return id
  | .error failure =>
      if failure.isConflict then
        record (.adopting desired.name)
        let channel ← findByName limits.channels desired.name
        return channel.id
      else
        fail failure

/- The channel, taken out of the archive if it was there. -/
def fetchActive
    (limits : Limits)
    (id : Datum) :
    Program Observed := do
  let observed ← Access.fetch limits.members id
  if observed.archived.truthy then
    record (.archivedFound id)
    Access.unarchive id
    Access.fetch limits.members id
  else
    return observed

/- Put on record that a channel keeps its privacy. -/
def notePrivacy
    (desired : Desired)
    (observed : Observed)
    (id : Datum) :
    Program Unit :=
  if observed.isPrivate == desired.isPrivate then
    return ()
  else
    record (.privacyFixed id
      observed.isPrivate desired.isPrivate)

/-
  Whether the members may differ.  A failed check does not
  rule it out.
-/
def membershipMayDiffer
    (desired : Desired)
    (observed : Observed) :
    Program Bool := do
  match ←
      (Drift.membershipDiffers desired observed).attempt
    with
  | .ok verdict => return verdict
  | .error failure =>
      record (.membershipUnknown observed.id failure)
      return true

/- Bring the attributes of a channel in line. -/
def alignAttributes
    (desired : Desired)
    (id : Datum) :
    Program Unit := do
  let _ ← Access.rename id desired.name
  let _ ← Access.setTopic id desired.topic
  let _ ← Access.setDescription id desired.description

/- Bring the members of a channel in line. -/
def alignMembers
    (limits : Limits)
    (desired : Desired)
    (id : Datum) :
    Program Unit := do
  let failures ← Roster.inviteAll id desired.members
  Roster.removeOthers limits.members id desired.members
  if failures.isEmpty then
    return ()
  else
    fail (.partialMembership failures)

end ChannelSync

------------------------------------------------------------
-- Reconciliation
------------------------------------------------------------

namespace ChannelSync

open Program

/- Bring an existing channel in line, and fetch it again. -/
def converge
    (limits : Limits)
    (desired : Desired)
    (id : Datum) :
    Program Observed := do
  let observed ← fetchActive limits id
  notePrivacy desired observed id
  if ← Drift.detected desired observed then
    record (.reconciling id desired.name)
    alignAttributes desired id
    if ← membershipMayDiffer desired observed then
      alignMembers limits desired id
    Access.fetch limits.members id
  else
    record (.upToDate id)
    return observed

/-
  Bring a channel in line with its declaration.  Without an
  identifier the channel is created, or found by its name.
-/
def reconcile
    (limits : Limits)
    (desired : Desired)
    (id? : Option Datum) :
    Program Observed := do
  validate desired
  match id? with
  | some id => converge limits desired id
  | none =>
      let id ← createOrFind limits desired
      converge limits desired id

/- Whether a channel differs from its declaration. -/
def check
    (limits : Limits)
    (desired : Desired)
    (id : Datum) :
    Program Bool := do
  let observed ← Access.fetch limits.members id
  Drift.detected desired observed

/- Archive the channel of a declaration that is gone. -/
def finalize
    (id : Datum) :
    Program Unit := do
  match ← (Access.archive id).attempt with
  | .ok () => return ()
  | .error failure =>
      if failure.isNotFound then
        record (.nothingToArchive id)
      else
        fail failure

/- The declaration of the channel of a name. -/
def adopt
    (limits : Limits)
    (name : Datum) :
    Program Desired := do
  let channel ← findByName limits.channels name
  let observed ← Access.fetch limits.members channel.id
  lift (project observed)

end ChannelSync
