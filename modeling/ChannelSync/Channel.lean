import ChannelSync.Datum.Sets

/-
  Channels and users.

  A `Desired` channel is what its owner declares, with the
  e-mail addresses of its members.  An `Observed` channel is
  what the platform reports, with the identifiers of its
  members; its topic and description are in stored form, and
  its member set is empty unless the channel was fetched
  with its members.

  Members form sets: lists of atoms no two of which are
  interchangeable, whose order says nothing.  The flags of a
  channel or user are data like its texts: what is truthy
  counts as set.

  Key definitions include:
    * `Desired`, `Observed` and `User`
    * `Desired.same` and `Observed.same`
    * `Desired.ofDatum?`, `Observed.ofDatum?` and
      `User.ofDatum?`
-/

------------------------------------------------------------
-- Types
------------------------------------------------------------

namespace ChannelSync

/- The declared state of a channel. -/
structure Desired where
  name : Datum
  description : Datum := .text ""
  topic : Datum := .text ""
  isPrivate : Datum := .flag false
  members : List Datum := []
deriving DecidableEq, Inhabited

/- The reported state of a channel. -/
structure Observed where
  id : Datum
  name : Datum
  description : Datum := .text ""
  topic : Datum := .text ""
  isPrivate : Datum := .flag false
  memberIds : List Datum := []
  archived : Datum := .flag false
deriving DecidableEq, Inhabited

/- A user of the platform. -/
structure User where
  id : Datum
  email : Datum := .text ""
  isBot : Datum := .flag false
deriving DecidableEq, Inhabited

end ChannelSync

------------------------------------------------------------
-- Sameness
------------------------------------------------------------

namespace ChannelSync

/- Whether two declarations say the same. -/
def Desired.same
    (a b : Desired) :
    Bool :=
  a.name == b.name &&
    a.description == b.description &&
    a.topic == b.topic &&
    a.isPrivate == b.isPrivate &&
    Datum.sameSet a.members b.members

/- Whether two reports say the same. -/
def Observed.same
    (a b : Observed) :
    Bool :=
  a.id == b.id &&
    a.name == b.name &&
    a.description == b.description &&
    a.topic == b.topic &&
    a.isPrivate == b.isPrivate &&
    Datum.sameSet a.memberIds b.memberIds &&
    a.archived == b.archived

end ChannelSync

------------------------------------------------------------
-- Reading Records
------------------------------------------------------------

namespace ChannelSync

/-
  The fields of a record that has every required field and
  no field besides the known ones.
-/
def Datum.record?
    (required known : List String) :
    Datum → Except Fault (List (String × Datum))
  | .object fields =>
      if required.all (fun key =>
            (fields.lookup key).isSome) &&
          fields.all (fun entry => known.contains entry.1)
      then .ok fields
      else .error .wrongType
  | _ => .error .wrongType

/- Read a declared channel. -/
def Desired.ofDatum?
    (d : Datum) :
    Except Fault Desired := do
  let fields ← d.record? ["name"]
    ["name", "description", "topic", "private", "members"]
  let value (key : String) (default : Datum) : Datum :=
    (fields.lookup key).getD default
  let members ← (value "members" (.list [])).elementSet
  return {
    name := value "name" .null
    description := value "description" (.text "")
    topic := value "topic" (.text "")
    isPrivate := value "private" (.flag false)
    members := members }

/- Read a reported channel. -/
def Observed.ofDatum?
    (d : Datum) :
    Except Fault Observed := do
  let fields ← d.record? ["remote_id", "name"]
    ["remote_id", "name", "description", "topic", "private",
      "member_ids", "archived"]
  let value (key : String) (default : Datum) : Datum :=
    (fields.lookup key).getD default
  let members ← (value "member_ids" (.list [])).elementSet
  return {
    id := value "remote_id" .null
    name := value "name" .null
    description := value "description" (.text "")
    topic := value "topic" (.text "")
    isPrivate := value "private" (.flag false)
    memberIds := members
    archived := value "archived" (.flag false) }

/- Read a user. -/
def User.ofDatum?
    (d : Datum) :
    Except Fault User := do
  let fields ← d.record? ["id"] ["id", "email", "is_bot"]
  let value (key : String) (default : Datum) : Datum :=
    (fields.lookup key).getD default
  return {
    id := value "id" .null
    email := value "email" (.text "")
    isBot := value "is_bot" (.flag false) }

end ChannelSync
