import ChannelSync.Program
import ChannelSync.Web.Client
import ChannelSync.Web.Response

/-
  A platform behind the web API.

  Every request becomes one call of a client, except that
  setting a purpose becomes two: the response to the first
  does not show the channel, so the channel is asked for.

  Key definitions include:
    * `Web.infoCall` and `Web.purposeCall`
    * `Web.answer`
    * `Web.remote`
-/

------------------------------------------------------------
-- Calls
------------------------------------------------------------

namespace ChannelSync

namespace Web

/- The cursor of a call: null asks for the first page. -/
def cursorArgument
    (cursor : Datum) :
    Datum :=
  cursor.orElse .null

/- The call that asks for a channel. -/
def infoCall
    (id : Datum) :
    ClientCall :=
  ⟨"conversations_info", [("channel", id)]⟩

/- The call that sets the purpose of a channel. -/
def purposeCall
    (id purpose : Datum) :
    ClientCall :=
  ⟨"conversations_setPurpose",
    [("channel", id), ("purpose", purpose)]⟩

/- The call that asks for a page of channels of every kind. -/
def channelPageCall
    (cursor limit : Datum) :
    ClientCall :=
  ⟨"conversations_list",
    [("types", .text "private_channel,public_channel"),
      ("exclude_archived", .flag false),
      ("cursor", cursorArgument cursor),
      ("limit", limit)]⟩

/- The call that asks for a page of members. -/
def memberPageCall
    (id cursor limit : Datum) :
    ClientCall :=
  ⟨"conversations_members",
    [("channel", id),
      ("cursor", cursorArgument cursor),
      ("limit", limit)]⟩

/- Identifiers with commas between them; all must be texts. -/
def joined
    (ids : List Datum) :
    Except Fault Datum :=
  if ids.all Datum.isText then
    .ok (.text (",".intercalate (ids.map Datum.spelling)))
  else
    .error .wrongType

end Web

end ChannelSync

------------------------------------------------------------
-- Answering Requests
------------------------------------------------------------

namespace ChannelSync

namespace Web

variable {σ : Type}

/- Ask for a channel. -/
def channelInfo
    (client : Client σ)
    (s : σ)
    (id : Datum) :
    Except Problem Observed × σ :=
  client.perform s (infoCall id) Response.ofChannel

/- Set the purpose of a channel, then ask for the channel. -/
def setPurpose
    (client : Client σ)
    (s : σ)
    (id purpose : Datum) :
    Except Problem Observed × σ :=
  match client.perform s (purposeCall id purpose)
      Response.ofNothing with
  | (.error problem, s') => (.error problem, s')
  | (.ok (), s') => channelInfo client s' id

/- Invite users to a channel, all in one call. -/
def inviteMembers
    (client : Client σ)
    (s : σ)
    (id : Datum)
    (userIds : List Datum) :
    Except Problem Unit × σ :=
  match joined userIds with
  | .error fault => (.error (.fault fault), s)
  | .ok users =>
      client.perform s
        ⟨"conversations_invite",
          [("channel", id), ("users", users)]⟩
        Response.ofNothing

/- Answer a request by calls of a client. -/
def answer
    (client : Client σ)
    (s : σ) :
    (request : Request) →
      Except Problem request.Answer × σ
  | .channelInfo id => channelInfo client s id
  | .createChannel name isPrivate =>
      client.perform s
        ⟨"conversations_create",
          [("name", name), ("is_private", isPrivate)]⟩
        Response.ofChannel
  | .setPurpose id purpose => setPurpose client s id purpose
  | .setTopic id topic =>
      client.perform s
        ⟨"conversations_setTopic",
          [("channel", id), ("topic", topic)]⟩
        Response.ofChannel
  | .renameChannel id name =>
      client.perform s
        ⟨"conversations_rename",
          [("channel", id), ("name", name)]⟩
        Response.ofChannel
  | .archiveChannel id =>
      client.perform s
        ⟨"conversations_archive", [("channel", id)]⟩
        Response.ofNothing
  | .unarchiveChannel id =>
      client.perform s
        ⟨"conversations_unarchive", [("channel", id)]⟩
        Response.ofNothing
  | .memberPage id cursor limit =>
      client.perform s (memberPageCall id cursor limit)
        Response.memberPage
  | .inviteMembers id userIds =>
      inviteMembers client s id userIds
  | .removeMember id userId =>
      client.perform s
        ⟨"conversations_kick",
          [("channel", id), ("user", userId)]⟩
        Response.ofNothing
  | .channelPage cursor limit =>
      client.perform s (channelPageCall cursor limit)
        Response.channelPage
  | .userByEmail email =>
      client.perform s
        ⟨"users_lookupByEmail", [("email", email)]⟩
        Response.ofUser
  | .userById id =>
      client.perform s
        ⟨"users_info", [("user", id)]⟩
        Response.ofUser

/- A client of the web API as a way to answer requests. -/
def remote
    (client : Client σ) :
    Remote σ where
  answer := answer client
  pageBound := fun s _ _ => client.callBound s + 1

end Web

end ChannelSync
