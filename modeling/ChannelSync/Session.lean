import ChannelSync.Settings
import ChannelSync.Web.Remote
import ChannelSync.Web.Script
import ChannelSync.Workspace.Operations

/-
  Sessions.

  A session runs one action after the other.  An action is a
  program of this library or a single request.  On a
  workspace a session also adds users and channels, lays in
  failures, and looks at the requests made so far; a problem
  of one step does not end it.

  Key definitions include:
    * `Reply` and `Action`
    * `Action.program`
    * `WorkspaceSession.step`
    * `Script.step`
-/

------------------------------------------------------------
-- Actions
------------------------------------------------------------

namespace ChannelSync

/- What an action answers. -/
inductive Reply where
  | nothing
  | datum (d : Datum)
  | verdict (b : Bool)
  | desired (d : Desired)
  | observed (o : Observed)
  | user (u : User)
  | ids (ids : List Datum)
  | failures (failures : List Failure)
  | channelPage (page : Page Observed)
  | memberPage (page : Page Datum)
  | requests (requests : List Request)

inductive Action where
  | reconcile (desired : Desired) (id? : Option Datum)
  | check (desired : Desired) (id : Datum)
  | finalize (id : Datum)
  | adopt (name : Datum)
  | fetch (id : Datum)
  | create (name isPrivate : Datum)
  | setDescription (id description : Datum)
  | setTopic (id topic : Datum)
  | rename (id name : Datum)
  | archive (id : Datum)
  | unarchive (id : Datum)
  | memberSet (id : Datum)
  | memberIds (id : Datum)
  | invite (id userId : Datum)
  | kick (id userId : Datum)
  | userByEmail (email : Datum)
  | userById (id : Datum)
  | findByName (name : Datum)
  | detectDrift (desired : Desired) (observed : Observed)
  | compareMembers (desired : Desired) (observed : Observed)
  | inviteAll (id emails : Datum)
  | removeOthers (id emails : Datum)
  | request (request : Request)
  | inviteRequest (id userIds : Datum)

namespace Reply

/- The answer to a request as a reply. -/
def ofAnswer :
    (request : Request) → request.Answer → Reply
  | .channelInfo _, answer => observed answer
  | .createChannel _ _, answer => observed answer
  | .setPurpose _ _, answer => observed answer
  | .setTopic _ _, answer => observed answer
  | .renameChannel _ _, answer => observed answer
  | .archiveChannel _, _ => nothing
  | .unarchiveChannel _, _ => nothing
  | .memberPage _ _ _, answer => memberPage answer
  | .inviteMembers _ _, _ => nothing
  | .removeMember _ _, _ => nothing
  | .channelPage _ _, answer => channelPage answer
  | .userByEmail _, answer => user answer
  | .userById _, answer => user answer

end Reply

namespace Action

open Program

/- The program of an action. -/
def program
    (limits : Limits) :
    Action → Program Reply
  | reconcile desired id? =>
      .observed <$> ChannelSync.reconcile limits desired id?
  | check desired id =>
      .verdict <$> ChannelSync.check limits desired id
  | finalize id =>
      (fun _ => .nothing) <$> ChannelSync.finalize id
  | adopt name =>
      .desired <$> ChannelSync.adopt limits name
  | fetch id =>
      .observed <$> Access.fetch limits.members id
  | create name isPrivate =>
      .datum <$> Access.create name isPrivate
  | setDescription id description =>
      .observed <$> Access.setDescription id description
  | setTopic id topic =>
      .observed <$> Access.setTopic id topic
  | rename id name => .observed <$> Access.rename id name
  | archive id => (fun _ => .nothing) <$> Access.archive id
  | unarchive id =>
      (fun _ => .nothing) <$> Access.unarchive id
  | memberSet id => do
      let ids ← Access.memberIds limits.members id
      .ids <$> lift (Datum.sorted ids)
  | memberIds id =>
      .ids <$> Access.memberIds limits.members id
  | invite id userId =>
      (fun _ => .nothing) <$> Access.invite id userId
  | kick id userId =>
      (fun _ => .nothing) <$> Access.remove id userId
  | userByEmail email => .user <$> Access.userByEmail email
  | userById id => .user <$> Access.userById id
  | findByName name =>
      .observed <$>
        ChannelSync.findByName limits.channels name
  | detectDrift desired observed =>
      .verdict <$> Drift.detected desired observed
  | compareMembers desired observed =>
      .verdict <$> Drift.membershipDiffers desired observed
  | inviteAll id emails => do
      let emailSet ← lift emails.elementSet
      .failures <$> Roster.inviteAll id emailSet
  | removeOthers id emails => do
      let emailSet ← lift emails.elementSet
      (fun _ => .nothing) <$>
        Roster.removeOthers limits.members id emailSet
  | request r => Reply.ofAnswer r <$> send r
  | inviteRequest id userIds => do
      let users ← lift userIds.elements
      (fun _ => .nothing) <$> send (.inviteMembers id users)

end Action

end ChannelSync

------------------------------------------------------------
-- Sessions on a Workspace
------------------------------------------------------------

namespace ChannelSync

/- A workspace with the requests that were made of it. -/
structure WorkspaceSession where
  workspace : Workspace
  history : List Request := []

/- A step of a session on a workspace. -/
inductive WorkspaceStep where
  | act (action : Action)
  | addUser (user : User)
  | addChannel (seed : Seed)
  | layFailure (trigger : Trigger) (failure : Failure)
  | liftFailure (trigger : Trigger)
  | called (operation : Datum)
  | writes

/- What a step brings about. -/
structure Outcome (σ : Type) where
  result : Except Problem Reply
  state : σ
  requests : List Request := []
  events : List Event := []

namespace WorkspaceSession

/- Take a step that makes no requests. -/
def prepare
    (session : WorkspaceSession)
    (result : Except Problem Reply)
    (workspace : Workspace) :
    Outcome WorkspaceSession where
  result := result
  state := { session with workspace := workspace }

/- Take a step of a session. -/
def step
    (limits : Limits)
    (session : WorkspaceSession) :
    WorkspaceStep → Outcome WorkspaceSession
  | .act action =>
      let run :=
        (action.program limits).run
          Workspace.remote session.workspace
      { result := run.result
        state :=
          ⟨run.state, session.history ++ run.requests⟩
        requests := run.requests
        events := run.events }
  | .addUser user =>
      match session.workspace.addUser user with
      | .ok w => session.prepare (.ok (.user user)) w
      | .error fault =>
          session.prepare (.error (.fault fault))
            session.workspace
  | .addChannel seed =>
      let added := session.workspace.addChannel seed
      session.prepare
        ((added.1.map .observed).mapError .fault) added.2
  | .layFailure trigger failure =>
      match session.workspace.layFailure trigger failure with
      | .ok w => session.prepare (.ok .nothing) w
      | .error fault =>
          session.prepare (.error (.fault fault))
            session.workspace
  | .liftFailure trigger =>
      match session.workspace.liftFailure trigger with
      | .ok (known, w) =>
          session.prepare (.ok (.verdict known)) w
      | .error fault =>
          session.prepare (.error (.fault fault))
            session.workspace
  | .called operation =>
      session.prepare
        (.ok (.requests (session.history.filter
          fun request => .text request.name == operation)))
        session.workspace
  | .writes =>
      session.prepare
        (.ok (.requests
          (session.history.filter Request.isWrite)))
        session.workspace

end WorkspaceSession

end ChannelSync

------------------------------------------------------------
-- Sessions on a Script
------------------------------------------------------------

namespace ChannelSync

namespace Script

/- Run an action on the client that follows a script. -/
def step
    (limits : Limits)
    (script : Script)
    (action : Action) :
    Run Script Reply :=
  (action.program limits).run (Web.remote client) script

end Script

end ChannelSync
