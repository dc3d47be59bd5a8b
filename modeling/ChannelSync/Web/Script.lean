import ChannelSync.Web.Client

/-
  Scripted clients.

  A script is a list of entries, each a response or an
  error.  A call takes the next entry, whatever the call is,
  and is kept on record.  Without an entry left, a call is a
  fault.

  Key definitions include:
    * `Script`
    * `Script.client`
-/

------------------------------------------------------------
-- Scripts
------------------------------------------------------------

namespace ChannelSync

structure Script where
  /- The entries for the calls to come. -/
  entries : List (Except ClientError Datum)
  /- The calls that were sent, the first one first. -/
  sent : List ClientCall := []

namespace Script

/- Send a call, which takes the next entry. -/
def send
    (script : Script)
    (call : ClientCall) :
    Except ClientError Datum × Script :=
  let sent := script.sent ++ [call]
  match script.entries with
  | [] =>
      (.error (.fault (.scriptExhausted call.method)),
        { entries := [], sent := sent })
  | entry :: rest =>
      (entry, { entries := rest, sent := sent })

/- The client that follows a script. -/
def client : Client Script where
  send := send
  callBound := fun script => script.entries.length

end Script

end ChannelSync
