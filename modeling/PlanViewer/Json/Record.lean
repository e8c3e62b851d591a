import PlanViewer.Json.Value

/-!
# Records

A record is written as an object of its fields, in any order, or as the list of their values in
the order of the fields. In an object every field stands at most once, and members that are no
field are passed over; in a list nothing may follow the last field.
-/

namespace PlanViewer.Json

/-! ## Members of an object -/

/-- What comes next in an object. -/
inductive Member where
  /-- The closing bracket, and the text after it. -/
  | done (rest : List Char)
  /-- The name of another member, and the text after it. -/
  | named (name : String) (rest : List Char)

/-- What comes next in an object whose opening bracket or last member has been read. -/
def readMember (first : Bool) (cs : List Char) : Except Problem Member :=
  match skipSpace cs with
  | [] => .error .truncated
  | c :: rest =>
    if c = '\x7d' then .ok (.done rest)
    else if first then
      if c = '"' then (readString rest).map fun (name, rest) => .named name rest
      else .error .malformed
    else if c = ',' then
      match skipSpace rest with
      | [] => .error .truncated
      | '"' :: rest => (readString rest).map fun (name, rest) => .named name rest
      | _ => .error .malformed
    else .error .malformed

/-- The members of an object, each handed to `step` with its name and the text after the name.
Every member takes up a character at least, so the length of the text is fuel enough. -/
def readMembers {σ : Type} (step : σ → String → List Char → Except Problem (σ × List Char)) :
    (fuel : Nat) → (first : Bool) → σ → List Char → Except Problem (σ × List Char)
  | 0, _, _, _ => .error .truncated
  | fuel + 1, first, s, cs =>
    (readMember first cs).bind fun
      | .done rest => .ok (s, rest)
      | .named name rest =>
        (step s name rest).bind fun (s, rest) => readMembers step fuel false s rest

/-- The value of a field, after its name. A field that has a value already may not stand again. -/
def fieldValue {α : Type} (slot : Option α)
    (read : List Char → Except Problem (α × List Char)) (cs : List Char) :
    Except Problem (α × List Char) :=
  if slot.isSome then .error .mismatch else (colon cs).bind read

/-- The value of a member that is no field, after its name. -/
def otherValue (cs : List Char) : Except Problem (List Char) :=
  (colon cs).bind skipValue

/-- The value of a field that has to be there. -/
def required {α : Type} : Option α → Except Problem α
  | some a => .ok a
  | none => .error .mismatch

/-! ## Elements of a list -/

/-- The text of the next element of a list whose opening bracket or last element has been read,
or none before the closing bracket. -/
def nextElement (first : Bool) (cs : List Char) : Except Problem (Option (List Char)) :=
  match skipSpace cs with
  | [] => .error .truncated
  | c :: rest =>
    if c = ']' then .ok none
    else if first then .ok (some (c :: rest))
    else if c = ',' then
      match skipSpace rest with
      | [] => .error .truncated
      | d :: rest => if d = ']' then .error .malformed else .ok (some (d :: rest))
    else .error .malformed

/-- An element that has to be there. -/
def requiredElement {α : Type} (first : Bool)
    (read : List Char → Except Problem (α × List Char)) (cs : List Char) :
    Except Problem (α × List Char) :=
  (nextElement first cs).bind fun
    | some cs => read cs
    | none => .error .mismatch

/-- An element that stands for `standard` when it is not there. -/
def optionalElement {α : Type} (first : Bool) (standard : α)
    (read : List Char → Except Problem (α × List Char)) (cs : List Char) :
    Except Problem (α × List Char) :=
  (nextElement first cs).bind fun
    | some cs => read cs
    | none => .ok (standard, cs)

/-- The closing bracket of a list whose last field has been read. -/
def endList (cs : List Char) : Except Problem (List Char) :=
  match skipSpace cs with
  | [] => .error .truncated
  | ']' :: rest => .ok rest
  | _ => .error .malformed

/-! ## Whole values -/

/-- A record: `step` and `finish` read it from an object, `elements` from a list. -/
def recordValue {σ α : Type} (start : σ)
    (step : σ → String → List Char → Except Problem (σ × List Char))
    (finish : σ → Except Problem α)
    (elements : List Char → Except Problem (α × List Char)) (cs : List Char) :
    Except Problem (α × List Char) :=
  match skipSpace cs with
  | [] => .error .truncated
  | '[' :: rest =>
    (elements rest).bind fun (a, rest) => (endList rest).map fun rest => (a, rest)
  | '\x7b' :: rest =>
    (readMembers step (rest.length + 1) true start rest).bind fun (s, rest) =>
      (finish s).map fun a => (a, rest)
  | cs => .error (mismatchAt cs)

/-- An object whose members all have values of one type, gathered from `start` by `insert`. -/
def mapValue {σ α : Type} (start : σ) (insert : σ → String → α → σ)
    (read : List Char → Except Problem (α × List Char)) (cs : List Char) :
    Except Problem (σ × List Char) :=
  match skipSpace cs with
  | [] => .error .truncated
  | '\x7b' :: rest =>
    readMembers (fun s name cs => ((colon cs).bind read).map fun (a, rest) => (insert s name a, rest))
      (rest.length + 1) true start rest
  | cs => .error (mismatchAt cs)

/-- A whole text that holds one value and nothing else. -/
def document {α : Type} (read : List Char → Except Problem (α × List Char)) (text : String) :
    Except Problem α :=
  (read text.toList).bind fun (a, rest) =>
    if skipSpace rest = [] then .ok a else .error .malformed

end PlanViewer.Json
