import ChannelSync.Datum.Sets

/-
  Failures.

  A failure is an error that the reconciliation knows how to
  deal with: the platform refused a request, or the declared
  channel cannot be reconciled.  Every failure has a text, a
  code of the platform (empty for a local one), and perhaps
  the value or client error behind it.

  A `Problem` is a failure or a fault.

  Key definitions include:
    * `Failure`
    * `Failure.message` and `Failure.code`
    * `Failure.isSettled`
    * `Problem`
-/

------------------------------------------------------------
-- Kinds of Failures
------------------------------------------------------------

namespace ChannelSync

/- What kind of thing went wrong. -/
inductive FailureKind where
  | general
  | notFound
  | conflict
  | remote
  | validation
deriving DecidableEq, Repr

/- The kinds of errors that a client of the platform has. -/
inductive ClientErrorKind where
  | api
  | client
  | request
  | notConnected
  | objectFormation
  | botAccess
deriving DecidableEq, Repr

/- What a failure was made from. -/
inductive Origin where
  | value (d : Datum)
  | clientError (kind : ClientErrorKind)
deriving DecidableEq, Repr

/-
  A single failure, or the failures to invite some members
  of a channel.
-/
inductive Failure where
  | single
      (kind : FailureKind)
      (message : String)
      (code : Datum)
      (origin : Option Origin)
  | partialMembership (failures : List Failure)
deriving Inhabited, Repr

/- What can end a run. -/
inductive Problem where
  | failure (failure : Failure)
  | fault (fault : Fault)
deriving Repr

end ChannelSync

------------------------------------------------------------
-- Text and Code
------------------------------------------------------------

namespace ChannelSync

namespace Failure

mutual

/- The text of a failure. -/
def message : Failure → String
  | single _ text _ _ => text
  | partialMembership failures =>
      failures.length.repr ++ " member invite(s) failed: " ++
        "; ".intercalate (messages failures)

/- The texts of the failures in a list. -/
def messages : List Failure → List String
  | [] => []
  | failure :: rest =>
      failure.message :: messages rest

end

/- The platform's code for a failure. -/
def code : Failure → Datum
  | single _ _ code _ => code
  | partialMembership _ => .text ""

/- Whether a channel or user is missing on the platform. -/
def isNotFound : Failure → Bool
  | single .notFound _ _ _ => true
  | _ => false

/- Whether a channel of the same name exists. -/
def isConflict : Failure → Bool
  | single .conflict _ _ _ => true
  | _ => false

end Failure

end ChannelSync

------------------------------------------------------------
-- Settled Invitations
------------------------------------------------------------

namespace ChannelSync

/-
  The codes of a failed invitation of somebody who need not
  be invited: a member, or the inviting user itself.
-/
def settledCodes : List Datum :=
  [.text "already_in_channel", .text "cant_invite_self"]

/- Whether a failed invitation leaves nothing to be done. -/
def Failure.isSettled
    (failure : Failure) :
    Except Fault Bool :=
  failure.code.isIn settledCodes

end ChannelSync

------------------------------------------------------------
-- Equality of Failures
------------------------------------------------------------

namespace ChannelSync

namespace Failure

mutual

/- Whether two failures are equal. -/
def decEq
    (a b : Failure) :
    Decidable (a = b) :=
  match a, b with
  | single k m c o, single k' m' c' o' =>
      decidable_of_iff
        (k = k' ∧ m = m' ∧ c = c' ∧ o = o') (by simp)
  | partialMembership fs, partialMembership gs =>
      have := decEqAll fs gs
      decidable_of_iff (fs = gs) (by simp)
  | single .., partialMembership _ => isFalse (by simp)
  | partialMembership _, single .. => isFalse (by simp)

/- Whether two lists hold equal failures. -/
def decEqAll
    (fs gs : List Failure) :
    Decidable (fs = gs) :=
  match fs, gs with
  | [], [] => isTrue rfl
  | [], _ :: _ => isFalse (by simp)
  | _ :: _, [] => isFalse (by simp)
  | f :: fs, g :: gs =>
      have := decEq f g
      have := decEqAll fs gs
      decidable_of_iff (f = g ∧ fs = gs) (by simp)

end

instance : DecidableEq Failure :=
  decEq

end Failure

deriving instance DecidableEq for Problem

end ChannelSync
