import ChannelSync.Channel

/-
  Requests to a platform.

  These are the operations that reconciliation asks of a
  platform, each with the type of its answer.  A reported
  channel in an answer has no members; those come from the
  member listing.  A listing comes in pages: an answer holds
  one page and the cursor of the next, and a cursor that is
  not truthy says that there is no next page.

  Key definitions include:
    * `Request`
    * `Request.Answer`
    * `Request.isWrite`
    * `Listing`
-/

------------------------------------------------------------
-- Requests and Answers
------------------------------------------------------------

namespace ChannelSync

inductive Request where
  | channelInfo (id : Datum)
  | createChannel (name isPrivate : Datum)
  | setPurpose (id purpose : Datum)
  | setTopic (id topic : Datum)
  | renameChannel (id name : Datum)
  | archiveChannel (id : Datum)
  | unarchiveChannel (id : Datum)
  | memberPage (id cursor limit : Datum)
  | inviteMembers (id : Datum) (userIds : List Datum)
  | removeMember (id userId : Datum)
  | channelPage (cursor limit : Datum)
  | userByEmail (email : Datum)
  | userById (id : Datum)
deriving DecidableEq

/- One page of a listing, with the cursor of the next page. -/
structure Page (α : Type) where
  items : List α
  next : Datum
deriving DecidableEq

/- What the platform answers to a request. -/
abbrev Request.Answer : Request → Type
  | channelInfo _ => Observed
  | createChannel _ _ => Observed
  | setPurpose _ _ => Observed
  | setTopic _ _ => Observed
  | renameChannel _ _ => Observed
  | archiveChannel _ => Unit
  | unarchiveChannel _ => Unit
  | memberPage _ _ _ => Page Datum
  | inviteMembers _ _ => Unit
  | removeMember _ _ => Unit
  | channelPage _ _ => Page Observed
  | userByEmail _ => User
  | userById _ => User

/- A listing that comes in pages. -/
inductive Listing where
  | channels
  | members (id : Datum)
deriving DecidableEq

end ChannelSync

------------------------------------------------------------
-- Names and Arguments
------------------------------------------------------------

namespace ChannelSync

namespace Request

/- The name of the operation that a request asks for. -/
def name : Request → String
  | channelInfo _ => "get_channel_info"
  | createChannel _ _ => "create_channel"
  | setPurpose _ _ => "set_purpose"
  | setTopic _ _ => "set_topic"
  | renameChannel _ _ => "rename_channel"
  | archiveChannel _ => "archive_channel"
  | unarchiveChannel _ => "unarchive_channel"
  | memberPage _ _ _ => "list_channel_members"
  | inviteMembers _ _ => "invite_members"
  | removeMember _ _ => "remove_member"
  | channelPage _ _ => "list_channels"
  | userByEmail _ => "lookup_user_by_email"
  | userById _ => "get_user_info"

/- An argument of a request: one datum, or several. -/
inductive Argument where
  | one (d : Datum)
  | several (ds : List Datum)
deriving DecidableEq

/-
  The arguments of a request, as a platform keeps them on
  record.  The size of a page is not among them.
-/
def arguments : Request → List Argument
  | channelInfo id => [.one id]
  | createChannel name isPrivate =>
      [.one name, .one isPrivate]
  | setPurpose id purpose => [.one id, .one purpose]
  | setTopic id topic => [.one id, .one topic]
  | renameChannel id name => [.one id, .one name]
  | archiveChannel id => [.one id]
  | unarchiveChannel id => [.one id]
  | memberPage id cursor _ => [.one id, .one cursor]
  | inviteMembers id userIds => [.one id, .several userIds]
  | removeMember id userId => [.one id, .one userId]
  | channelPage cursor _ => [.one cursor]
  | userByEmail email => [.one email]
  | userById id => [.one id]

/- Whether a request asks for a change. -/
def isWrite : Request → Bool
  | createChannel _ _ => true
  | setPurpose _ _ => true
  | setTopic _ _ => true
  | renameChannel _ _ => true
  | archiveChannel _ => true
  | unarchiveChannel _ => true
  | inviteMembers _ _ => true
  | removeMember _ _ => true
  | channelInfo _ => false
  | memberPage _ _ _ => false
  | channelPage _ _ => false
  | userByEmail _ => false
  | userById _ => false

end Request

end ChannelSync
