import ChannelSync.Datum.Display
import ChannelSync.Failure

/-
  Refusals of a workspace.

  These are the failures of requests that a workspace cannot
  grant, with their texts and the platform's codes.

  Key definitions include:
    * `Refusal.channelMissing` and `Refusal.nameTaken`
    * `Refusal.userMissing` and `Refusal.emailUnknown`
-/

------------------------------------------------------------
-- Refused Requests
------------------------------------------------------------

namespace ChannelSync

namespace Refusal

/- No channel has the identifier. -/
def channelMissing
    (id : Datum) :
    Failure :=
  .single .notFound ("channel " ++ id.shown)
    (.text "channel_not_found") none

/- Another channel has the name. -/
def nameTaken
    (name : Datum) :
    Failure :=
  .single .conflict ("channel " ++ name.shown ++ " exists")
    (.text "name_taken") none

/- The channel is in the archive. -/
def alreadyArchived : Failure :=
  .single .remote "already archived"
    (.text "already_archived") none

/- The channel is not in the archive. -/
def notArchived : Failure :=
  .single .remote "not archived"
    (.text "not_archived") none

/- The inviting user is the invited one. -/
def selfInvited : Failure :=
  .single .remote "cannot invite self"
    (.text "cant_invite_self") none

/- The invited user is a member. -/
def alreadyMember : Failure :=
  .single .remote "already in channel"
    (.text "already_in_channel") none

/- The user to be removed is no member. -/
def notMember : Failure :=
  .single .remote "not in channel"
    (.text "not_in_channel") none

/- No user has the identifier. -/
def userMissing
    (id : Datum) :
    Failure :=
  .single .notFound ("user " ++ id.shown)
    (.text "user_not_found") none

/- No user has the e-mail address. -/
def emailUnknown
    (email : Datum) :
    Failure :=
  .single .notFound ("user " ++ email.shown)
    (.text "users_not_found") none

end Refusal

end ChannelSync
