import ChannelSync.Program

/-
  Properties that programs have because their parts do.

  A conduct is a property of programs that going on keeps,
  and that the parts have of which a program is put together:
  events, computations, attempts, and requests with a report
  of their failure.  What holds of every such program is
  proved once, for all conducts.

  Key definitions include:
    * `Request.attempt?`
    * `Program.Conduct`
-/

------------------------------------------------------------
-- Conducts
------------------------------------------------------------

namespace ChannelSync

/-
  How the record describes that a request went wrong.  There
  is no description for the creation of a channel, for the
  listing of the channels, and for the invitation of several
  users.
-/
def Request.attempt? : Request → Option Attempt
  | channelInfo id => some (.fetchChannel id)
  | createChannel _ _ => none
  | setPurpose id _ => some (.setDescription id)
  | setTopic id _ => some (.setTopic id)
  | renameChannel id _ => some (.rename id)
  | archiveChannel id => some (.archive id)
  | unarchiveChannel id => some (.unarchive id)
  | memberPage id _ _ => some (.listMembers id)
  | inviteMembers id [userId] => some (.invite userId id)
  | inviteMembers _ _ => none
  | removeMember id userId => some (.remove userId id)
  | channelPage _ _ => none
  | userByEmail email => some (.findUserByEmail email)
  | userById id => some (.findUserById id)

namespace Program

structure Conduct where
  Holds : {α : Type} → Program α → Prop
  done :
    ∀ {α : Type} (a : α),
      Holds (done (.ok a))
  lift :
    ∀ {α : Type} (value : Except Fault α),
      Holds (lift value)
  record :
    ∀ event,
      Holds (record event)
  pageBound :
    ∀ listing limit,
      Holds (pageBound listing limit)
  /- A request is sent, and its failure is reported. -/
  reported :
    ∀ {request attempt},
      request.attempt? = some attempt →
      Holds
        ((send request).reporting fun failure =>
          .failed attempt failure)
  /- Whatever is attempted, no failure comes of it. -/
  attempt :
    ∀ {α : Type} (p : Program α),
      Holds p.attempt
  bind :
    ∀ {α β : Type} {p : Program α} {next : α → Program β},
      Holds p →
      (∀ a, Holds (next a)) →
      Holds (p >>= next)

end Program

end ChannelSync
