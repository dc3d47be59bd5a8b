import ChannelSync.Datum.Display
import ChannelSync.Failure

/-
  Events.

  An event is something that a run puts on record while it
  goes on.  Every event has a level, the part of the library
  that it comes from, and a text.

  Key definitions include:
    * `Attempt`
    * `Event`
    * `Event.level`, `Event.part` and `Event.text`
-/

------------------------------------------------------------
-- Events
------------------------------------------------------------

namespace ChannelSync

/- How much an event matters. -/
inductive Level where
  | debug
  | info
  | warning
  | error
deriving DecidableEq, Repr

/- The part of the library that an event comes from. -/
inductive Part where
  | access
  | search
  | drift
  | membership
  | reconciliation
  | assembly
deriving DecidableEq, Repr

/- A request that went wrong, as the record describes it. -/
inductive Attempt where
  | fetchChannel (id : Datum)
  | setDescription (id : Datum)
  | setTopic (id : Datum)
  | rename (id : Datum)
  | archive (id : Datum)
  | unarchive (id : Datum)
  | listMembers (id : Datum)
  | findUserByEmail (email : Datum)
  | findUserById (id : Datum)
  | invite (userId : Datum) (id : Datum)
  | remove (userId : Datum) (id : Datum)
deriving DecidableEq

inductive Event where
  | failed (attempt : Attempt) (failure : Failure)
  | creating (name isPrivate : Datum)
  | created (name : Datum) (id : Datum)
  | settingDescription (id : Datum)
  | settingTopic (id : Datum)
  | settingName (id : Datum) (name : Datum)
  | archiving (id : Datum)
  | unarchiving (id : Datum)
  | found (name : Datum) (id : Datum) (pages : Nat)
  | nameDiffers (id : Datum)
  | topicDiffers (id : Datum)
  | descriptionDiffers (id : Datum)
  | memberMissing (id : Datum) (email : Datum)
  | memberSurplus (id : Datum) (userId : Datum)
  | inviting (userId : Datum) (id : Datum)
  | removing (userId : Datum) (id : Datum)
  | archivedFound (id : Datum)
  | privacyFixed (id : Datum) (observed desired : Datum)
  | upToDate (id : Datum)
  | reconciling (id : Datum) (name : Datum)
  | nothingToArchive (id : Datum)
  | adopting (name : Datum)
  | membershipUnknown (id : Datum) (failure : Failure)
  | ready
deriving DecidableEq

end ChannelSync

------------------------------------------------------------
-- Levels and Parts
------------------------------------------------------------

namespace ChannelSync

namespace Event

/- How much an event matters. -/
def level : Event → Level
  | failed _ _ => .error
  | privacyFixed _ _ _ => .warning
  | creating _ _ => .info
  | removing _ _ => .info
  | archivedFound _ => .info
  | reconciling _ _ => .info
  | nothingToArchive _ => .info
  | adopting _ => .info
  | membershipUnknown _ _ => .info
  | ready => .info
  | _ => .debug

/- The part of the library that an event comes from. -/
def part : Event → Part
  | failed (.invite _ _) _ => .membership
  | failed (.remove _ _) _ => .membership
  | failed _ _ => .access
  | creating _ _ => .access
  | created _ _ => .access
  | settingDescription _ => .access
  | settingTopic _ => .access
  | settingName _ _ => .access
  | archiving _ => .access
  | unarchiving _ => .access
  | found _ _ _ => .search
  | nameDiffers _ => .drift
  | topicDiffers _ => .drift
  | descriptionDiffers _ => .drift
  | memberMissing _ _ => .drift
  | memberSurplus _ _ => .drift
  | inviting _ _ => .membership
  | removing _ _ => .membership
  | archivedFound _ => .reconciliation
  | privacyFixed _ _ _ => .reconciliation
  | upToDate _ => .reconciliation
  | reconciling _ _ => .reconciliation
  | nothingToArchive _ => .reconciliation
  | adopting _ => .reconciliation
  | membershipUnknown _ _ => .reconciliation
  | ready => .assembly

end Event

end ChannelSync

------------------------------------------------------------
-- Texts
------------------------------------------------------------

namespace ChannelSync

/- What was attempted. -/
def Attempt.text : Attempt → String
  | fetchChannel id => "fetching channel " ++ id.shown
  | setDescription id =>
      "setting description of channel " ++ id.shown
  | setTopic id => "setting topic of channel " ++ id.shown
  | rename id => "renaming channel " ++ id.shown
  | archive id => "archiving channel " ++ id.shown
  | unarchive id => "unarchiving channel " ++ id.shown
  | listMembers id =>
      "getting users in channel " ++ id.shown
  | findUserByEmail email =>
      "fetching user by email " ++ email.shown
  | findUserById id => "fetching user info " ++ id.shown
  | invite userId id =>
      "inviting user " ++ userId.shown ++
        " to channel " ++ id.shown
  | remove userId id =>
      "removing user " ++ userId.shown ++
        " from channel " ++ id.shown

/- The text of an event. -/
def Event.text : Event → String
  | failed attempt failure =>
      "Error " ++ attempt.text ++ ": " ++ failure.message
  | creating name isPrivate =>
      "Creating Slack channel " ++ name.shown ++
        " (private=" ++ isPrivate.shown ++ ")"
  | created name id =>
      "Created Slack channel " ++ name.shown ++
        " as " ++ id.shown
  | settingDescription id =>
      "Setting description of channel " ++ id.shown
  | settingTopic id =>
      "Setting topic of channel " ++ id.shown
  | settingName id name =>
      "Renaming channel " ++ id.shown ++ " to " ++ name.shown
  | archiving id => "Archiving channel " ++ id.shown
  | unarchiving id => "Unarchiving channel " ++ id.shown
  | found name id pages =>
      "Found channel " ++ name.shown ++ " as " ++ id.shown ++
        " after " ++ pages.repr ++ " page(s)"
  | nameDiffers id =>
      "Channel " ++ id.shown ++ ": name differs"
  | topicDiffers id =>
      "Channel " ++ id.shown ++ ": topic differs"
  | descriptionDiffers id =>
      "Channel " ++ id.shown ++ ": description differs"
  | memberMissing id email =>
      "Channel " ++ id.shown ++ ": " ++ email.shown ++
        " is not a member"
  | memberSurplus id userId =>
      "Channel " ++ id.shown ++ ": " ++ userId.shown ++
        " should be removed"
  | inviting userId id =>
      "Inviting user " ++ userId.shown ++
        " to channel " ++ id.shown
  | removing userId id =>
      "Removing user " ++ userId.shown ++
        " from channel " ++ id.shown
  | archivedFound id =>
      "Channel " ++ id.shown ++ " is archived, unarchiving"
  | privacyFixed id observed desired =>
      "Channel " ++ id.shown ++
        " privacy cannot change after creation (private=" ++
        observed.shown ++ ", desired " ++
        desired.shown ++ ")"
  | upToDate id => "Channel " ++ id.shown ++ " is up to date"
  | reconciling id name =>
      "Reconciling channel " ++ id.shown ++
        " (" ++ name.shown ++ ")"
  | nothingToArchive id =>
      "Channel " ++ id.shown ++
        " no longer exists, nothing to archive"
  | adopting name =>
      "Channel " ++ name.shown ++
        " already exists, adopting it"
  | membershipUnknown id failure =>
      "Channel " ++ id.shown ++
        ": membership check failed (" ++ failure.message ++
        "), converging membership"
  | ready => "Slack channel reconciler ready"

end ChannelSync
