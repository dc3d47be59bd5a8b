import ChannelSync.Drift

/-
  Bringing the members of a channel in line.

  Invitations are made one by one for every declared member,
  and their failures are collected.  Removals are made one by
  one for every member that should not be there, and the
  first failure ends them.

  Key definitions include:
    * `Roster.inviteAll`
    * `Roster.removeOthers`
-/

------------------------------------------------------------
-- Invitations
------------------------------------------------------------

namespace ChannelSync

namespace Roster

open Program

/-
  Invite the user with an e-mail address, and answer the
  failure if this leaves something to be done.
-/
def inviteOne
    (id email : Datum) :
    Program (Option Failure) := do
  match ← (Access.userByEmail email).attempt with
  | .error failure => return some failure
  | .ok user =>
      record (.inviting user.id id)
      match ← (Access.invite id user.id).attempt with
      | .ok () => return none
      | .error failure =>
          if ← lift failure.isSettled then
            return none
          else
            record (.failed (.invite user.id id) failure)
            return some failure

/- Invite the users with some e-mail addresses in turn. -/
def inviteEach
    (id : Datum) :
    List Datum → Program (List Failure)
  | [] => return []
  | email :: rest => do
      let failure? ← inviteOne id email
      let failures ← inviteEach id rest
      return failure?.toList ++ failures

/-
  Invite the users with the e-mail addresses of a set, in
  the order of the addresses.
-/
def inviteAll
    (id : Datum)
    (emails : List Datum) :
    Program (List Failure) := do
  let ordered ← lift (Datum.sorted emails)
  inviteEach id ordered

end Roster

end ChannelSync

------------------------------------------------------------
-- Removals
------------------------------------------------------------

namespace ChannelSync

namespace Roster

open Program

/- Remove those of some members that should not be there. -/
def removeEach
    (id : Datum)
    (emails : List Datum) :
    List Datum → Program Unit
  | [] => return ()
  | userId :: rest => do
      let user ← Access.userById userId
      if ← lift (Drift.allowed emails user) then
        removeEach id emails rest
      else
        record (.removing userId id)
        (Access.remove id userId).reporting
          fun failure => .failed (.remove userId id) failure
        removeEach id emails rest

/-
  Remove every member of a channel that is neither a bot nor
  has an e-mail address of the set, in the order of the
  listing.
-/
def removeOthers
    (limit id : Datum)
    (emails : List Datum) :
    Program Unit := do
  let userIds ← Access.memberIds limit id
  removeEach id emails userIds

end Roster

end ChannelSync
