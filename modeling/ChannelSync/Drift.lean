import ChannelSync.Access

/-
  Drift between a declared and a reported channel.

  The checks run in a fixed order and stop at the first
  difference: name, topic, description, members.  Only the
  last one sends requests, one for each member, and its
  failures are passed on: then there is no verdict.

  Key definitions include:
    * `Drift.membershipDiffers`
    * `Drift.detected`
-/

------------------------------------------------------------
-- Members
------------------------------------------------------------

namespace ChannelSync

namespace Drift

open Program

/-
  Whether one of some declared members is missing in the
  reported channel.
-/
def anyMissing
    (observed : Observed) :
    List Datum → Program Bool
  | [] => return false
  | email :: rest => do
      let user ← Access.userByEmail email
      if ← lift (user.id.isIn observed.memberIds) then
        anyMissing observed rest
      else
        record (.memberMissing observed.id email)
        return true

/-
  Whether a user may be in a channel with these declared
  members.  A bot always may.
-/
def allowed
    (members : List Datum)
    (user : User) :
    Except Fault Bool :=
  if user.isBot.truthy then .ok true
  else user.email.isIn members

/-
  Whether one of some reported members is neither a bot nor
  declared.
-/
def anySurplus
    (desired : Desired)
    (observed : Observed) :
    List Datum → Program Bool
  | [] => return false
  | userId :: rest => do
      let user ← Access.userById userId
      if ← lift (allowed desired.members user) then
        anySurplus desired observed rest
      else
        record (.memberSurplus observed.id userId)
        return true

/- Whether the members differ from the declared ones. -/
def membershipDiffers
    (desired : Desired)
    (observed : Observed) :
    Program Bool := do
  let emails ← lift (Datum.sorted desired.members)
  if ← anyMissing observed emails then
    return true
  else
    let userIds ← lift (Datum.sorted observed.memberIds)
    anySurplus desired observed userIds

end Drift

end ChannelSync

------------------------------------------------------------
-- Attributes
------------------------------------------------------------

namespace ChannelSync

namespace Drift

open Program

/-
  Whether a channel differs from its declaration in its
  name, topic, description or members.
-/
def detected
    (desired : Desired)
    (observed : Observed) :
    Program Bool := do
  let name ← lift observed.name.unescaped
  if name != desired.name then
    record (.nameDiffers observed.id)
    return true
  else
    let topic ← lift observed.topic.unescaped
    if topic != desired.topic then
      record (.topicDiffers observed.id)
      return true
    else
      let description ← lift observed.description.unescaped
      if description != desired.description then
        record (.descriptionDiffers observed.id)
        return true
      else
        membershipDiffers desired observed

end Drift

end ChannelSync
