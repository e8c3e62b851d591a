import PlanViewer.Json.Record
import PlanViewer.Json.Writer
import PlanViewer.Preference
import PlanViewer.Time.Timestamp

/-!
# Preferences as JSON

The fields of a preference are `name`, `value` and `expires_at`, the last one a timestamp.
-/

namespace PlanViewer

open Json

/-- A timestamp in a string. A string that shows no instant is a mismatch. -/
def instantValue (cs : List Char) : Except Problem (Instant × List Char) :=
  (stringValue cs).bind fun (text, rest) =>
    match Timestamp.read? text.toList with
    | some t => .ok (t, rest)
    | none => .error .mismatch

/-- An instant as a string. -/
def writeInstant (t : Instant) : List Char :=
  writeString (Timestamp.text t)

namespace Preference

/-- The fields that have been read so far. -/
structure Fields where
  name : Option String
  value : Option String
  expires : Option Instant

/-- Reads the value of one member. -/
def Fields.step (f : Fields) (member : String) (cs : List Char) :
    Except Problem (Fields × List Char) :=
  if member = "name" then
    (fieldValue f.name stringValue cs).map fun (v, rest) => (⟨some v, f.value, f.expires⟩, rest)
  else if member = "value" then
    (fieldValue f.value stringValue cs).map fun (v, rest) => (⟨f.name, some v, f.expires⟩, rest)
  else if member = "expires_at" then
    (fieldValue f.expires instantValue cs).map fun (v, rest) => (⟨f.name, f.value, some v⟩, rest)
  else (otherValue cs).map fun rest => (f, rest)

/-- The preference of its fields, all of which have to be there. -/
def Fields.finish (f : Fields) : Except Problem Preference := do
  return ⟨← required f.name, ← required f.value, ← required f.expires⟩

/-- The preference of a list of its fields. -/
def readElements (cs : List Char) : Except Problem (Preference × List Char) := do
  let (name, cs) ← requiredElement true stringValue cs
  let (value, cs) ← requiredElement false stringValue cs
  let (expires, cs) ← requiredElement false instantValue cs
  return (⟨name, value, expires⟩, cs)

/-- A preference. -/
def jsonValue (cs : List Char) : Except Problem (Preference × List Char) :=
  recordValue ⟨none, none, none⟩ Fields.step Fields.finish readElements cs

/-- The preference that a text holds. -/
def ofJson (text : String) : Except Problem Preference :=
  document jsonValue text

/-- The text of a preference, on one line. -/
def toJson (p : Preference) : String :=
  String.ofList (writeCompact
    [("name", writeString p.name), ("value", writeString p.value),
     ("expires_at", writeInstant p.expires)])

end Preference

end PlanViewer
