import ChannelSync.Datum.Basic
import ChannelSync.Text.Reference

/-
  Data as text.

  Messages show a text as it stands and every other datum in
  its written form: `None`, `True`, `False`, numbers in
  decimal, lists in square brackets and records in braces,
  with the texts inside them quoted.

  Key definitions include:
    * `Datum.written`
    * `Datum.shown`
    * `Datum.escaped`
    * `Datum.unescaped`
-/

------------------------------------------------------------
-- Written Forms
------------------------------------------------------------

namespace ChannelSync

namespace Datum

mutual

/- The written form of a datum. -/
def written : Datum → String
  | null => "None"
  | flag true => "True"
  | flag false => "False"
  | number n => n.repr
  | text s => quote s
  | list items =>
      "[" ++ ", ".intercalate (writtenItems items) ++ "]"
  | object fields =>
      "\x7b" ++
        ", ".intercalate (writtenFields fields) ++ "\x7d"

/- The written forms of the data in a list. -/
def writtenItems : List Datum → List String
  | [] => []
  | d :: rest => d.written :: writtenItems rest

/- The written forms of the fields of a record. -/
def writtenFields : List (String × Datum) → List String
  | [] => []
  | (key, d) :: rest =>
      (quote key ++ ": " ++ d.written) ::
        writtenFields rest

end

/- How a message shows a datum. -/
def shown : Datum → String
  | text s => s
  | d => d.written

/- A text is shown as it stands. -/
@[simp]
theorem shown_text
    (s : String) :
    (text s).shown = s := by
  rfl

end Datum

------------------------------------------------------------
-- References in Data
------------------------------------------------------------

namespace Datum

/- The stored form of a text; nothing else has one. -/
def escaped : Datum → Except Fault Datum
  | text s => .ok (text (escape s))
  | _ => .error .unsupported

/-
  What a stored datum shows.  A list or record shows itself,
  unless an ampersand is one of its elements or keys.
-/
def unescaped : Datum → Except Fault Datum
  | text s => (unescape s).map text
  | list items =>
      if items.contains (text "&") then .error .wrongType
      else .ok (list items)
  | object fields =>
      if (fields.lookup "&").isSome then .error .wrongType
      else .ok (object fields)
  | _ => .error .wrongType

/- A text shows its references replaced. -/
@[simp]
theorem unescaped_text
    (s : String) :
    (text s).unescaped = (unescape s).map text := by
  rfl

/- A text is stored with its special characters replaced. -/
@[simp]
theorem escaped_text
    (s : String) :
    (text s).escaped = .ok (text (escape s)) := by
  rfl

end Datum

end ChannelSync
