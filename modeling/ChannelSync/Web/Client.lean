import ChannelSync.Datum.Display
import ChannelSync.Failure

/-
  Clients of the web API.

  A client sends calls, each a method with named arguments,
  and brings back a response, which is any datum, or an
  error.  An error is a response that rejects the call, or
  an error of the client itself, or a fault.

  `ClientError.toProblem` says what an error means for the
  request behind the call: the error code of a rejection
  decides between a missing thing, a conflict, and any other
  failure.

  Key definitions include:
    * `ClientCall`, `ClientError` and `Client`
    * `ClientError.toProblem`
    * `Client.perform`
-/

------------------------------------------------------------
-- Types
------------------------------------------------------------

namespace ChannelSync

/- A call of a method of the web API. -/
structure ClientCall where
  method : String
  arguments : List (String × Datum)
deriving DecidableEq

inductive ClientError where
  /- A response that rejects the call. -/
  | rejected (message : Datum) (response : Datum)
  /- An error of the client itself. -/
  | broken (kind : ClientErrorKind) (message : Datum)
  | fault (fault : Fault)

/- A way to send calls, with a state of its own. -/
structure Client (σ : Type) where
  /- Send a call. -/
  send : σ → ClientCall → Except ClientError Datum × σ
  /- The greatest number of calls that can be answered. -/
  callBound : σ → Nat

end ChannelSync

------------------------------------------------------------
-- Meaning of Errors
------------------------------------------------------------

namespace ChannelSync

namespace ClientError

/- The codes that say that something is missing. -/
def notFoundCodes : List Datum :=
  [.text "channel_not_found", .text "user_not_found",
    .text "users_not_found"]

/- The codes that say that a name is in use. -/
def conflictCodes : List Datum :=
  [.text "name_taken"]

/- The text of a rejection. -/
def rejectionText
    (message response : Datum) :
    String :=
  message.shown ++ "\nThe server responded with: " ++
    response.shown

/-
  The error code of a response, empty where there is none.
-/
def errorCode
    (response : Datum) :
    Except Fault Datum :=
  match response with
  | .null => .ok (.text "")
  | _ =>
      (response.field "error" (.text "")).map fun code =>
        code.orElse (.text "")

/- The kind of failure that a code stands for. -/
def kindOf
    (code : Datum) :
    Except Fault FailureKind := do
  if ← code.isIn notFoundCodes then
    return .notFound
  else if ← code.isIn conflictCodes then
    return .conflict
  else
    return .remote

/-
  The failure that a rejected call means.  It shows the code,
  or the whole rejection where there is no code.
-/
def rejection
    (method : String)
    (message response : Datum) :
    Except Fault Failure := do
  let code ← errorCode response
  let kind ← kindOf code
  let details :=
    if code.truthy then code.shown
    else rejectionText message response
  return .single kind (method ++ ": " ++ details) code
    (some (.clientError .api))

/- What an error means for the request behind a call. -/
def toProblem
    (method : String) :
    ClientError → Problem
  | rejected message response =>
      match rejection method message response with
      | .ok failure => .failure failure
      | .error cause => .fault cause
  | broken kind message =>
      .failure
        (.single .remote (method ++ ": " ++ message.shown)
          (.text "") (some (.clientError kind)))
  | fault cause => .fault cause

end ClientError

end ChannelSync

------------------------------------------------------------
-- Calls
------------------------------------------------------------

namespace ChannelSync

namespace Client

/- Send a call and read its response. -/
def perform
    (client : Client σ)
    (s : σ)
    (call : ClientCall)
    (read : Datum → Except Fault α) :
    Except Problem α × σ :=
  match client.send s call with
  | (.error error, s') =>
      (.error (error.toProblem call.method), s')
  | (.ok response, s') =>
      ((read response).mapError .fault, s')

end Client

end ChannelSync
