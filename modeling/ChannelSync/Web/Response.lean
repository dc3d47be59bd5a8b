import ChannelSync.Channel
import ChannelSync.Request

/-
  Responses of the web API.

  A response is a record with the thing that was asked for
  in one of its fields.  A missing or null part of a channel
  or user counts as empty; only the identifier must be there.

  Key definitions include:
    * `Response.channel` and `Response.user`
    * `Response.nextCursor`
    * `Response.channelPage` and `Response.memberPage`
-/

------------------------------------------------------------
-- Channels and Users
------------------------------------------------------------

namespace ChannelSync

namespace Response

/- A part of a record that is a record itself, or empty. -/
def part
    (d : Datum)
    (key : String) :
    Except Fault Datum :=
  (d.field key .null).map fun value =>
    value.orElse (.object [])

/- A channel in a response. -/
def channel
    (d : Datum) :
    Except Fault Observed := do
  let id ← d.item "id"
  let name ← d.field "name" (.text "")
  let purpose ← part d "purpose"
  let description ← purpose.field "value" (.text "")
  let topicPart ← part d "topic"
  let topic ← topicPart.field "value" (.text "")
  let isPrivate ← d.field "is_private" (.flag false)
  let archived ← d.field "is_archived" (.flag false)
  return {
    id := id
    name := name
    description := description
    topic := topic
    isPrivate := .flag isPrivate.truthy
    archived := .flag archived.truthy }

/- A user in a response. -/
def user
    (d : Datum) :
    Except Fault User := do
  let id ← d.item "id"
  let profile ← part d "profile"
  let email ← profile.field "email" (.text "")
  let isBot ← d.field "is_bot" (.flag false)
  return {
    id := id
    email := email.orElse (.text "")
    isBot := .flag isBot.truthy }

end Response

end ChannelSync

------------------------------------------------------------
-- Whole Responses
------------------------------------------------------------

namespace ChannelSync

namespace Response

/- The cursor of the next page, empty on the last one. -/
def nextCursor
    (response : Datum) :
    Except Fault Datum := do
  let metadata ← part response "response_metadata"
  let cursor ← metadata.field "next_cursor" (.text "")
  return cursor.orElse (.text "")

/- The channel that a response is about. -/
def ofChannel
    (response : Datum) :
    Except Fault Observed := do
  channel (← response.item "channel")

/- The user that a response is about. -/
def ofUser
    (response : Datum) :
    Except Fault User := do
  user (← response.item "user")

/- A response that says nothing. -/
def ofNothing
    (_ : Datum) :
    Except Fault Unit :=
  .ok ()

/- A page of channels. -/
def channelPage
    (response : Datum) :
    Except Fault (Page Observed) := do
  let listed ← response.field "channels" (.list [])
  let channels ← (← listed.elements).mapM channel
  let next ← nextCursor response
  return ⟨channels, next⟩

/- A page of members. -/
def memberPage
    (response : Datum) :
    Except Fault (Page Datum) := do
  let listed ← response.field "members" (.list [])
  let members ← listed.elements
  let next ← nextCursor response
  return ⟨members, next⟩

end Response

end ChannelSync
