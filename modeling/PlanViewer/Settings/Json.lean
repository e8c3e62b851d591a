import PlanViewer.Json.Record
import PlanViewer.Json.Writer
import PlanViewer.Settings

/-!
# Settings as JSON

The fields of the settings are `expiry_days` and `match_mode`; one that is not there has its
standard value. A match mode is written as its name in a string, or as an object whose only member
has that name and the value `null`.
-/

namespace PlanViewer

open Json

namespace MatchMode

/-- The mode of a name that has been read. -/
def ofRead (r : String × List Char) : Except Problem (MatchMode × List Char) :=
  match ofName? r.1 with
  | some mode => .ok (mode, r.2)
  | none => .error .mismatch

/-- The name that the member of an object has to have. Anything but a string is no object. -/
def memberName (cs : List Char) : Except Problem (String × List Char) :=
  match skipSpace cs with
  | [] => .error .truncated
  | '"' :: rest => readString rest
  | _ => .error .malformed

/-- The mode of an object, after its opening bracket. -/
def readObject (cs : List Char) : Except Problem (MatchMode × List Char) := do
  let (mode, cs) ← (memberName cs).bind ofRead
  let cs ← colon cs
  let cs ← nullValue cs
  match skipSpace cs with
  | [] => throw .truncated
  | '\x7d' :: rest => return (mode, rest)
  | _ => throw .malformed

/-- A match mode. -/
def jsonValue (cs : List Char) : Except Problem (MatchMode × List Char) :=
  match skipSpace cs with
  | [] => .error .truncated
  | '"' :: rest => (readString rest).bind ofRead
  | '\x7b' :: rest => readObject rest
  | _ => .error .malformed

/-- The match mode that a text holds. -/
def ofJson (text : String) : Except Problem MatchMode :=
  document jsonValue text

/-- The text of a match mode. -/
def toJson (mode : MatchMode) : String :=
  String.ofList (writeString mode.name)

end MatchMode

namespace Settings

/-- The fields that have been read so far. -/
structure Fields where
  expiryDays : Option Int64
  matchMode : Option MatchMode

/-- Reads the value of one member. -/
def Fields.step (f : Fields) (member : String) (cs : List Char) :
    Except Problem (Fields × List Char) :=
  if member = "expiry_days" then
    (fieldValue f.expiryDays int64Value cs).map fun (v, rest) => (⟨some v, f.matchMode⟩, rest)
  else if member = "match_mode" then
    (fieldValue f.matchMode MatchMode.jsonValue cs).map fun (v, rest) =>
      (⟨f.expiryDays, some v⟩, rest)
  else (otherValue cs).map fun rest => (f, rest)

/-- The settings of their fields. -/
def Fields.finish (f : Fields) : Except Problem Settings :=
  .ok ⟨f.expiryDays.getD standard.expiryDays, f.matchMode.getD standard.matchMode⟩

/-- The settings of a list of their fields. -/
def readElements (cs : List Char) : Except Problem (Settings × List Char) := do
  let (days, cs) ← optionalElement true standard.expiryDays int64Value cs
  let (mode, cs) ← optionalElement false standard.matchMode MatchMode.jsonValue cs
  return (⟨days, mode⟩, cs)

/-- Settings. -/
def jsonValue (cs : List Char) : Except Problem (Settings × List Char) :=
  recordValue ⟨none, none⟩ Fields.step Fields.finish readElements cs

/-- The settings that a text holds. -/
def ofJson (text : String) : Except Problem Settings :=
  document jsonValue text

/-- The text of settings, laid out. -/
def toJson (s : Settings) : String :=
  String.ofList (writeLaidOut 0
    [("expiry_days", Text.Decimal.integer s.expiryDays.toInt),
     ("match_mode", writeString s.matchMode.name)])

end Settings

end PlanViewer
