import ChannelSync.Text.Quoted

/-
  Faults.

  A fault ends a run: nothing in this library recovers from
  one.  It arises when a value of the wrong kind reaches an
  operation, when a text is no number, when the connection
  itself breaks, or when a scripted answer is missing.

  Key definitions include:
    * `Fault`
    * `Fault.message?`
-/

namespace ChannelSync

------------------------------------------------------------
-- Causes
------------------------------------------------------------

inductive Fault where
  /- A value of a kind that the operation does not take. -/
  | wrongType
  /- A value of a kind that has no such operation. -/
  | unsupported
  /- A record without a field that must be there. -/
  | missingKey (key : String)
  /- A text that does not stand for a value. -/
  | badValue (message : String)
  /- The connection took too long. -/
  | timeout (message : String)
  /- The connection broke. -/
  | connection (message : String)
  /- A scripted client has no answer left for a call. -/
  | scriptExhausted (method : String)
  /- A listing went on past its greatest number of pages. -/
  | endlessListing
deriving DecidableEq, Repr

------------------------------------------------------------
-- Wording
------------------------------------------------------------

namespace Fault

/- The text of a fault, for those that have one. -/
def message? : Fault → Option String
  | wrongType => none
  | unsupported => none
  | missingKey key => some (quote key)
  | badValue message => some message
  | timeout message => some message
  | connection message => some message
  | scriptExhausted method => some method
  | endlessListing => none

end Fault

end ChannelSync
