import PlanViewer.CommandLine.Argument

/-!
# Reading arguments

Texts are read one after the other. An argument collects its values until something else comes up,
and only then it is checked: how many values there are, whether it was given before, and what each
value is. So the first text that cannot be read counts even before a wrong value of the argument
that is still open.

After a lone `--` every text is a value. Before it, a text with two dashes introduces an argument
by its word, perhaps with a value after `=`; a text with one dash is a row of letters, each of which
introduces an argument; and a single dash is a value.
-/

namespace PlanViewer.CommandLine

/-- Why reading ends before the last text. -/
inductive Stop where
  | usage (e : UsageError)
  /-- Help was asked for. -/
  | help
  /-- The version was asked for. -/
  | version
  deriving DecidableEq, Repr

/-- An argument that is still collecting values, in the order they came. -/
structure Pending where
  argument : Argument
  texts : List String
  /-- Whether the next text that may be a value belongs to it. -/
  awaits : Bool
  deriving DecidableEq, Repr

/-- How far reading has come. -/
structure Reader where
  /-- The arguments that have been checked, with their values. -/
  found : List (Argument × List Value)
  pending : Option Pending
  /-- Whether every text is a value from here on. -/
  plain : Bool
  /-- The arguments whose places have not been passed. -/
  places : List Argument
  /-- The arguments that a word or a letter may introduce. -/
  options : List Argument
  /-- Whether a command can still be named. -/
  commands : Bool
  deriving DecidableEq

namespace Reader

/-- A reader before the first text. -/
def start : Reader :=
  ⟨[], none, false, [], [.folder, .verbose, .help, .version], true⟩

/-- A reader after a verb. -/
def ofVerb (verb : Verb) : Reader :=
  ⟨[], none, false, verb.places, verb.options, false⟩

/-- Whether an argument has been found. -/
def has (r : Reader) (a : Argument) : Bool :=
  r.found.any fun entry => decide (entry.1 = a)

/-- The values of an argument, of all the places where it was given. -/
def values (r : Reader) (a : Argument) : List Value :=
  (r.found.filter fun entry => decide (entry.1 = a)).flatMap Prod.snd

/-- Refuses an argument that was given before. -/
def refuseRepeat (r : Reader) (a : Argument) : Except UsageError Unit :=
  if r.has a && !a.isRepeatable then .error (.repeated a.label) else .ok ()

/-- Notes an argument with its values. -/
def note (r : Reader) (a : Argument) (values : List Value) : Reader :=
  { r with found := r.found ++ [(a, values)] }

/-- Checks an argument with the texts of its values, and notes it. -/
def check (r : Reader) (a : Argument) (texts : List String) : Except UsageError Reader :=
  match texts.getLast? with
  | none => .error (.valueRequired a.label)
  | some last =>
    if a.mostValues < texts.length then .error (.surplusValue last a.label)
    else do
      r.refuseRepeat a
      return r.note a (← texts.mapM a.read)

/-- Checks and notes the argument that is still collecting values. -/
def settle (r : Reader) : Except UsageError Reader :=
  match r.pending with
  | none => .ok r
  | some p => check { r with pending := none } p.argument p.texts

/-- Whether the next text that may be a value belongs to an argument that has none yet. -/
def awaits (r : Reader) : Bool :=
  match r.pending with
  | some p => p.awaits
  | none => false

/-! ## Arguments by word or letter -/

/-- Takes a flag. -/
def takeFlag (r : Reader) (a : Argument) : Except Stop Reader :=
  match r.settle with
  | .error e => .error (.usage e)
  | .ok r =>
    match a with
    | .help => .error .help
    | .version => .error .version
    | _ => ((r.refuseRepeat a).map fun _ => r.note a []).mapError Stop.usage

/-- The word of a text after two dashes, and the value after `=` if there is one. -/
def splitWord (cs : List Char) : String × Option String :=
  let word := cs.takeWhile fun c => decide (c ≠ '=')
  match cs.drop word.length with
  | [] => (String.ofList word, none)
  | _ :: attached => (String.ofList word, some (String.ofList attached))

/-- Takes what stands after two dashes. -/
def takeWord (r : Reader) (cs : List Char) : Except Stop Reader :=
  let (word, attached) := splitWord cs
  match r.options.find? fun a => decide (a.word? = some word) with
  | none => .error (.usage (.unexpected ("--" ++ word)))
  | some a =>
    if a.isFlag then
      match attached with
      | some text => .error (.usage (.surplusValue text a.label))
      | none => r.takeFlag a
    else Except.mapError Stop.usage do
      let r ← r.settle
      match attached with
      | some text => r.check a [text]
      | none => return { r with pending := some ⟨a, [], true⟩ }

/-- Takes a row of letters after one dash. -/
def takeLetters (r : Reader) : List Char → Except Stop Reader
  | [] => .ok r
  | c :: rest =>
    match r.options.find? fun a => decide (a.letter? = some c) with
    | none => .error (.usage (.unexpected (String.ofList ['-', c])))
    | some a => do takeLetters (← r.takeFlag a) rest

/-! ## Values -/

/-- Whether a text looks like a number without a sign: digits, with at most one point, not in
front, and an exponent after it, neither in front nor without digits. -/
def looksNumeric (cs : List Char) : Bool :=
  let isExponent := fun c => decide (c = 'e') || decide (c = 'E')
  let mantissa := cs.takeWhile fun c => !isExponent c
  let exponent := cs.drop mantissa.length
  let whole := mantissa.takeWhile Text.Decimal.isDigit
  let rest := mantissa.drop whole.length
  (rest.isEmpty || (!whole.isEmpty && decide (rest.head? = some '.') &&
    (rest.drop 1).all Text.Decimal.isDigit)) &&
  (exponent.isEmpty || (!mantissa.isEmpty && decide (2 ≤ exponent.length) &&
    (exponent.drop 1).all Text.Decimal.isDigit))

/-- Whether the next place takes a text after one dash as a negative number. -/
def takesAsNegative (r : Reader) (cs : List Char) : Bool :=
  match r.places with
  | [] => false
  | a :: _ => a.takesNegative && looksNumeric cs

/-- What is wrong with a value that has no place. Where a command can still be named it is taken
for one, unless it comes too late to name the command that it spells. -/
def misplaced (r : Reader) (text : String) : UsageError :=
  if r.commands && !(r.plain && Verb.isCommand text) then .unknownCommand text
  else .unexpected text

/-- Takes a text as the value of the argument whose place it is. -/
def takeAtPlace (r : Reader) (text : String) : Except UsageError Reader :=
  match r.places with
  | [] => .error (r.misplaced text)
  | a :: later =>
    match r.pending.filter fun p => a.isRepeatable && decide (p.argument = a) with
    | some p => .ok { r with pending := some ⟨a, p.texts ++ [text], false⟩ }
    | none => do
      let r ← r.settle
      return { r with
        pending := some ⟨a, [text], false⟩
        places := if a.isRepeatable then r.places else later }

/-- Takes a text as a value. -/
def takeValue (r : Reader) (text : String) : Except UsageError Reader :=
  match r.pending.filter fun p => p.awaits && !r.plain with
  | some p => .ok { r with pending := some ⟨p.argument, p.texts ++ [text], false⟩ }
  | none => r.takeAtPlace text

/-- Takes the next text. -/
def take (r : Reader) (text : String) : Except Stop Reader :=
  let asValue := (r.takeValue text).mapError Stop.usage
  if r.plain then asValue
  else
    match text.toList with
    | ['-', '-'] => .ok { r with plain := true }
    | '-' :: '-' :: cs => r.takeWord cs
    | '-' :: c :: cs =>
      if r.takesAsNegative (c :: cs) then asValue else r.takeLetters (c :: cs)
    | _ => asValue

/-- Takes all texts, and settles what is left open. -/
def takeAll (r : Reader) : List String → Except Stop Reader
  | [] => r.settle.mapError Stop.usage
  | text :: rest => do takeAll (← r.take text) rest

end Reader

end PlanViewer.CommandLine
