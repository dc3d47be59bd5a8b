import ChannelSync.Channel
import ChannelSync.Failure
import ChannelSync.Table

/-
  The state of a workspace.

  A workspace is a platform that lives in memory.  It holds
  channels and users, each in the order in which they came,
  and knows which user it acts as.  Some requests can be made
  to fail: a failure is laid in for the name of an operation
  and one of its arguments.

  Key definitions include:
    * `Room`, `Trigger` and `Workspace`
    * `Workspace.empty`
    * `Workspace.addUser` and `Workspace.addChannel`
    * `Workspace.layFailure` and `Workspace.liftFailure`
-/

------------------------------------------------------------
-- Types
------------------------------------------------------------

namespace ChannelSync

/- A channel of a workspace with its members. -/
structure Room where
  state : Observed
  members : List Datum
deriving DecidableEq, Inhabited

/- What a failure is laid in for. -/
structure Trigger where
  operation : Datum
  argument : Datum
deriving DecidableEq

instance : BEq Trigger where
  beq a b :=
    a.operation == b.operation && a.argument == b.argument

instance : EquivBEq Trigger where
  rfl := Bool.and_eq_true_iff.mpr ⟨BEq.rfl, BEq.rfl⟩
  symm h :=
    have h := Bool.and_eq_true_iff.mp h
    Bool.and_eq_true_iff.mpr ⟨BEq.symm h.1, BEq.symm h.2⟩
  trans h h' :=
    have h := Bool.and_eq_true_iff.mp h
    have h' := Bool.and_eq_true_iff.mp h'
    Bool.and_eq_true_iff.mpr
      ⟨BEq.trans h.1 h'.1, BEq.trans h.2 h'.2⟩

/- Whether a failure can be laid in for a trigger. -/
def Trigger.isAtom
    (trigger : Trigger) :
    Bool :=
  trigger.operation.isAtom && trigger.argument.isAtom

structure Workspace where
  /- The user that requests are made as. -/
  botId : Datum
  channels : Table Datum Room := {}
  users : Table Datum User := {}
  failures : Table Trigger Failure := {}
  /- How many identifiers have been made up. -/
  numbered : Nat := 0

/- What is given of a channel that is added to a workspace. -/
structure Seed where
  name : Datum
  id : Datum := .null
  description : Datum := .text ""
  topic : Datum := .text ""
  isPrivate : Datum := .flag false
  archived : Datum := .flag false
  members : Datum := .null

end ChannelSync

------------------------------------------------------------
-- Users
------------------------------------------------------------

namespace ChannelSync

namespace Workspace

/- Add a user, or replace the user with that identifier. -/
def addUser
    (w : Workspace)
    (user : User) :
    Except Fault Workspace :=
  if user.id.isAtom then
    .ok { w with users := w.users.insert user.id user }
  else
    .error .wrongType

/- A workspace with no channels, and no user but its own. -/
def empty
    (botId : Datum) :
    Except Fault Workspace :=
  addUser { botId := botId }
    { id := botId, isBot := .flag true }

end Workspace

end ChannelSync

------------------------------------------------------------
-- Channels
------------------------------------------------------------

namespace ChannelSync

namespace Workspace

/- A number with at least four digits. -/
def padded
    (n : Nat) :
    String :=
  let digits := n.repr
  "".pushn '0' (4 - digits.length) ++ digits

/- The identifier that is made up next. -/
def nextId
    (w : Workspace) :
    Datum :=
  .text ("C" ++ padded (w.numbered + 1))

/- Put a channel at the place of its identifier. -/
def putRoom
    (w : Workspace)
    (id : Datum)
    (room : Room) :
    Workspace :=
  { w with channels := w.channels.insert id room }

/-
  Add a channel.  Without an identifier that is truthy one
  is made up.  The texts are stored as they are given.
-/
def addChannel
    (w : Workspace)
    (seed : Seed) :
    Except Fault Observed × Workspace :=
  let id := seed.id.orElse w.nextId
  let w :=
    if seed.id.truthy then w
    else { w with numbered := w.numbered + 1 }
  let state : Observed :=
    { id := id
      name := seed.name
      description := seed.description
      topic := seed.topic
      isPrivate := seed.isPrivate
      archived := seed.archived }
  match (seed.members.orElse (.list [])).elements with
  | .error fault => (.error fault, w)
  | .ok members =>
      if id.isAtom then
        (.ok state, w.putRoom id ⟨state, members⟩)
      else
        (.error .wrongType, w)

end Workspace

end ChannelSync

namespace ChannelSync

/- Read what is given of a channel. -/
def Seed.ofDatum?
    (d : Datum) :
    Except Fault Seed := do
  let fields ← d.record? ["name"]
    ["name", "remote_id", "description", "topic", "private",
      "archived", "members"]
  let value (key : String) (default : Datum) : Datum :=
    (fields.lookup key).getD default
  return {
    name := value "name" .null
    id := value "remote_id" .null
    description := value "description" (.text "")
    topic := value "topic" (.text "")
    isPrivate := value "private" (.flag false)
    archived := value "archived" (.flag false)
    members := value "members" .null }

end ChannelSync

------------------------------------------------------------
-- Laid-In Failures
------------------------------------------------------------

namespace ChannelSync

namespace Workspace

/-
  Make an operation fail whenever the argument of the
  trigger is one of its arguments.
-/
def layFailure
    (w : Workspace)
    (trigger : Trigger)
    (failure : Failure) :
    Except Fault Workspace :=
  if trigger.isAtom then
    .ok { w with
      failures := w.failures.insert trigger failure }
  else
    .error .wrongType

/-
  Take a failure back, and answer whether there was one.
  Where none is laid in, any trigger may be given.
-/
def liftFailure
    (w : Workspace)
    (trigger : Trigger) :
    Except Fault (Bool × Workspace) :=
  if w.failures.entries.isEmpty then
    .ok (false, w)
  else if trigger.isAtom then
    .ok ((w.failures.get? trigger).isSome,
      { w with failures := w.failures.erase trigger })
  else
    .error .wrongType

end Workspace

end ChannelSync
