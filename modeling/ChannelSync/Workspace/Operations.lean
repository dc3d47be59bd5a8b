import ChannelSync.Program
import ChannelSync.Workspace.Paging
import ChannelSync.Workspace.Refusal
import ChannelSync.Workspace.State

/-
  The operations of a workspace.

  A workspace answers every request.  Topics and purposes
  are stored with their special characters escaped, and no
  two channels get one name.  A request that fails changes
  nothing, except that an invitation of several users keeps
  those who came before the refused one.

  Key definitions include:
    * `Workspace.refusal`
    * `Workspace.grant`
    * `Workspace.remote`
-/

------------------------------------------------------------
-- Laid-In Failures of Requests
------------------------------------------------------------

namespace ChannelSync

namespace Workspace

/-
  The keys that a request is looked up by: its arguments, a
  single one as it is shown.
-/
def keys
    (request : Request) :
    List Datum :=
  request.arguments.flatMap fun
    | .one d => [.text d.shown]
    | .several ds => ds

/- The first failure that is laid in for one of some keys. -/
def laidIn
    (w : Workspace)
    (operation : String) :
    List Datum → Except Problem Unit
  | [] => .ok ()
  | key :: rest =>
      if key.isAtom then
        match w.failures.get? ⟨.text operation, key⟩ with
        | some failure => .error (.failure failure)
        | none => w.laidIn operation rest
      else
        .error (.fault .wrongType)

/- What keeps a request from being looked at, if anything. -/
def refusal
    (w : Workspace)
    (request : Request) :
    Except Problem Unit :=
  w.laidIn request.name (keys request)

end Workspace

end ChannelSync

------------------------------------------------------------
-- Channels
------------------------------------------------------------

namespace ChannelSync

namespace Workspace

/- The channel with an identifier. -/
def room
    (w : Workspace)
    (id : Datum) :
    Except Problem Room :=
  if id.isAtom then
    match w.channels.get? id with
    | some room => .ok room
    | none => .error (.failure (Refusal.channelMissing id))
  else
    .error (.fault .wrongType)

/- Change the attributes of a channel. -/
def update
    (w : Workspace)
    (id : Datum)
    (change : Observed → Observed) :
    Except Problem Observed × Workspace :=
  match w.room id with
  | .error problem => (.error problem, w)
  | .ok room =>
      (.ok (change room.state),
        w.putRoom id { room with state := change room.state })

/- Whether a channel has a name, other than the given one. -/
def nameUsed
    (w : Workspace)
    (name : Datum)
    (except? : Option Datum) :
    Bool :=
  w.channels.entries.any fun entry =>
    entry.2.state.name == name &&
      except?.all fun id => entry.1 != id

/- Create a channel with one member, the user acted as. -/
def createChannel
    (w : Workspace)
    (name isPrivate : Datum) :
    Except Problem Observed × Workspace :=
  if w.nameUsed name none then
    (.error (.failure (Refusal.nameTaken name)), w)
  else
    let added :=
      w.addChannel
        { name := name
          isPrivate := isPrivate
          members := .list [w.botId] }
    (added.1.mapError .fault, added.2)

/- Store what a channel is for. -/
def setPurpose
    (w : Workspace)
    (id purpose : Datum) :
    Except Problem Observed × Workspace :=
  match purpose.escaped with
  | .error fault => (.error (.fault fault), w)
  | .ok stored =>
      w.update id fun state =>
        { state with description := stored }

/- Store the topic of a channel. -/
def setTopic
    (w : Workspace)
    (id topic : Datum) :
    Except Problem Observed × Workspace :=
  match topic.escaped with
  | .error fault => (.error (.fault fault), w)
  | .ok stored =>
      w.update id fun state =>
        { state with topic := stored }

/- Rename a channel. -/
def renameChannel
    (w : Workspace)
    (id name : Datum) :
    Except Problem Observed × Workspace :=
  if w.nameUsed name (some id) then
    (.error (.failure (Refusal.nameTaken name)), w)
  else
    w.update id fun state => { state with name := name }

/- Put a channel into the archive or take it out. -/
def setArchived
    (w : Workspace)
    (id : Datum)
    (archived : Bool) :
    Except Problem Unit × Workspace :=
  match w.room id with
  | .error problem => (.error problem, w)
  | .ok room =>
      if room.state.archived.truthy = archived then
        (.error (.failure
          (if archived then Refusal.alreadyArchived
            else Refusal.notArchived)), w)
      else
        let updated :=
          w.update id fun state =>
            { state with archived := .flag archived }
        (updated.1.map fun _ => (), updated.2)

end Workspace

end ChannelSync

------------------------------------------------------------
-- Members
------------------------------------------------------------

namespace ChannelSync

namespace Workspace

/-
  Add users to the members of a channel one by one, up to
  the first who cannot be added.
-/
def enrol
    (w : Workspace)
    (members : List Datum) :
    List Datum → Except Problem Unit × List Datum
  | [] => (.ok (), members)
  | userId :: rest =>
      if userId == w.botId then
        (.error (.failure Refusal.selfInvited), members)
      else if !userId.isAtom then
        (.error (.fault .wrongType), members)
      else if (w.users.get? userId).isNone then
        (.error (.failure (Refusal.userMissing userId)),
          members)
      else if members.contains userId then
        (.error (.failure Refusal.alreadyMember), members)
      else
        w.enrol (members ++ [userId]) rest

/- Invite users to a channel. -/
def inviteMembers
    (w : Workspace)
    (id : Datum)
    (userIds : List Datum) :
    Except Problem Unit × Workspace :=
  match w.room id with
  | .error problem => (.error problem, w)
  | .ok room =>
      let enrolled := w.enrol room.members userIds
      (enrolled.1,
        w.putRoom id { room with members := enrolled.2 })

/- Remove a user from a channel. -/
def removeMember
    (w : Workspace)
    (id userId : Datum) :
    Except Problem Unit × Workspace :=
  match w.room id with
  | .error problem => (.error problem, w)
  | .ok room =>
      if room.members.contains userId then
        (.ok (),
          w.putRoom id
            { room with members := room.members.erase userId })
      else
        (.error (.failure Refusal.notMember), w)

end Workspace

end ChannelSync

------------------------------------------------------------
-- Look-Ups
------------------------------------------------------------

namespace ChannelSync

namespace Workspace

/- The first user with an e-mail address that is truthy. -/
def userByEmail
    (w : Workspace)
    (email : Datum) :
    Except Problem User :=
  match w.users.values.find? fun user =>
      user.email.truthy && user.email == email with
  | some user => .ok user
  | none => .error (.failure (Refusal.emailUnknown email))

/- The user with an identifier. -/
def userById
    (w : Workspace)
    (id : Datum) :
    Except Problem User :=
  if id.isAtom then
    match w.users.get? id with
    | some user => .ok user
    | none => .error (.failure (Refusal.userMissing id))
  else
    .error (.fault .wrongType)

/- A page of the members of a channel. -/
def memberPage
    (w : Workspace)
    (id cursor limit : Datum) :
    Except Problem (Page Datum) := do
  let room ← w.room id
  (Paging.page room.members cursor limit).mapError .fault

/- A page of all channels. -/
def channelPage
    (w : Workspace)
    (cursor limit : Datum) :
    Except Problem (Page Observed) :=
  (Paging.page (w.channels.values.map fun room => room.state)
    cursor limit).mapError .fault

end Workspace

end ChannelSync

------------------------------------------------------------
-- Answering Requests
------------------------------------------------------------

namespace ChannelSync

namespace Workspace

/- Answer a request that nothing is laid in for. -/
def grant
    (w : Workspace) :
    (request : Request) →
      Except Problem request.Answer × Workspace
  | .channelInfo id =>
      ((w.room id).map fun room => room.state, w)
  | .createChannel name isPrivate =>
      w.createChannel name isPrivate
  | .setPurpose id purpose => w.setPurpose id purpose
  | .setTopic id topic => w.setTopic id topic
  | .renameChannel id name => w.renameChannel id name
  | .archiveChannel id => w.setArchived id true
  | .unarchiveChannel id => w.setArchived id false
  | .memberPage id cursor limit =>
      (w.memberPage id cursor limit, w)
  | .inviteMembers id userIds => w.inviteMembers id userIds
  | .removeMember id userId => w.removeMember id userId
  | .channelPage cursor limit =>
      (w.channelPage cursor limit, w)
  | .userByEmail email => (w.userByEmail email, w)
  | .userById id => (w.userById id, w)

/- Answer a request. -/
def answer
    (w : Workspace)
    (request : Request) :
    Except Problem request.Answer × Workspace :=
  match w.refusal request with
  | .error problem => (.error problem, w)
  | .ok () => w.grant request

/- How many items a listing has. -/
def listingLength
    (w : Workspace) :
    Listing → Nat
  | .channels => w.channels.entries.length
  | .members id =>
      match w.channels.get? id with
      | some room => room.members.length
      | none => 0

/-
  The greatest number of pages of a listing.  With a positive
  limit there is one page for each item at most, and one for
  an empty listing.  With a negative limit the positions go
  down from zero, until one of them has too many digits.
-/
def pageBound
    (w : Workspace)
    (listing : Listing)
    (limit : Datum) :
    Nat :=
  match limit.amount? with
  | some n =>
      if 0 < n then w.listingLength listing + 1
      else Numeral.numberLimit
  | none => 1

/- A workspace as a way to answer requests. -/
def remote : Remote Workspace where
  answer := answer
  pageBound := pageBound

end Workspace

end ChannelSync
