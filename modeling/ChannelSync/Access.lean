import ChannelSync.Program

/-
  Access to one channel.

  These programs read and change a channel by its
  identifier, and look users up.  A failed request is put on
  record before it is passed on.

  A setter reads the current value first and writes only
  when it shows another text, so that setting a value twice
  writes at most once.

  Key definitions include:
    * `Access.memberIds`
    * `Access.fetch`
    * `Access.setTopic`, `Access.setDescription` and
      `Access.rename`
    * `Access.userByEmail` and `Access.userById`
-/

------------------------------------------------------------
-- Reading a Channel
------------------------------------------------------------

namespace ChannelSync

namespace Access

open Program

/- The attributes of a channel. -/
def info
    (id : Datum) :
    Program Observed :=
  (send (.channelInfo id)).reporting
    fun failure => .failed (.fetchChannel id) failure

/- One page of the members of a channel. -/
def memberPage
    (limit id cursor : Datum) :
    Program (Page Datum) :=
  (send (.memberPage id cursor limit)).reporting
    fun failure => .failed (.listMembers id) failure

/-
  The members on the pages from a cursor on, after those
  already seen.  Each page sends on to the next one.
-/
def membersFrom
    (limit id : Datum) :
    Nat → Datum → List Datum → Program (List Datum)
  | 0, _, _ => abort .endlessListing
  | bound + 1, cursor, seen => do
      let page ← memberPage limit id cursor
      let found ← lift (Datum.addNew seen page.items)
      if page.next.truthy then
        membersFrom limit id bound page.next found
      else
        return found

/-
  The members of a channel in the order of the listing, each
  of them once.
-/
def memberIds
    (limit id : Datum) :
    Program (List Datum) := do
  let bound ← pageBound (.members id) limit
  membersFrom limit id bound (.text "") []

/- The attributes of a channel together with its members. -/
def fetch
    (limit id : Datum) :
    Program Observed := do
  let channel ← info id
  let members ← memberIds limit id
  return { channel with memberIds := members }

end Access

end ChannelSync

------------------------------------------------------------
-- Changing a Channel
------------------------------------------------------------

namespace ChannelSync

namespace Access

open Program

/- Create a channel and answer its identifier. -/
def create
    (name isPrivate : Datum) :
    Program Datum := do
  record (.creating name isPrivate)
  let channel ← send (.createChannel name isPrivate)
  record (.created name channel.id)
  return channel.id

/- Set what a channel is for, unless it shows that already. -/
def setDescription
    (id description : Datum) :
    Program Observed := do
  let channel ← info id
  let current ← lift channel.description.unescaped
  if current == description then
    return channel
  else
    record (.settingDescription id)
    (send (.setPurpose id description)).reporting
      fun failure => .failed (.setDescription id) failure

/- Set the topic of a channel, unless it shows that already. -/
def setTopic
    (id topic : Datum) :
    Program Observed := do
  let channel ← info id
  let current ← lift channel.topic.unescaped
  if current == topic then
    return channel
  else
    record (.settingTopic id)
    (send (.setTopic id topic)).reporting
      fun failure => .failed (.setTopic id) failure

/- Rename a channel, unless it shows that name already. -/
def rename
    (id name : Datum) :
    Program Observed := do
  let channel ← info id
  let current ← lift channel.name.unescaped
  if current == name then
    return channel
  else
    record (.settingName id name)
    (send (.renameChannel id name)).reporting
      fun failure => .failed (.rename id) failure

/- Put a channel into the archive. -/
def archive
    (id : Datum) :
    Program Unit := do
  record (.archiving id)
  (send (.archiveChannel id)).reporting
    fun failure => .failed (.archive id) failure

/- Take a channel out of the archive. -/
def unarchive
    (id : Datum) :
    Program Unit := do
  record (.unarchiving id)
  (send (.unarchiveChannel id)).reporting
    fun failure => .failed (.unarchive id) failure

/- Invite one user to a channel. -/
def invite
    (id userId : Datum) :
    Program Unit :=
  send (.inviteMembers id [userId])

/- Remove one user from a channel. -/
def remove
    (id userId : Datum) :
    Program Unit :=
  send (.removeMember id userId)

end Access

end ChannelSync

------------------------------------------------------------
-- Looking Users Up
------------------------------------------------------------

namespace ChannelSync

namespace Access

open Program

/- The user with an e-mail address. -/
def userByEmail
    (email : Datum) :
    Program User :=
  (send (.userByEmail email)).reporting
    fun failure => .failed (.findUserByEmail email) failure

/- The user with an identifier. -/
def userById
    (id : Datum) :
    Program User :=
  (send (.userById id)).reporting
    fun failure => .failed (.findUserById id) failure

end Access

end ChannelSync
