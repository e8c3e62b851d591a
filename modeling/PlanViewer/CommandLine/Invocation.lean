import PlanViewer.CommandLine.Reader
import PlanViewer.Session

/-!
# Invocations

What a command line asks for. A folder may be named before the verb and after it, and the later
one counts. Without a verb the display preferences are shown.
-/

namespace PlanViewer.CommandLine

/-- What is to be done. -/
inductive Request where
  | get (key : String)
  | set (key value : String) (days : Option Int64)
  | delete (key : String)
  | list
  | display
  | layout (pixels height scale : Int64)
  | matchNode (candidates : Candidates) (mode : Option MatchMode)
  | patterns
  | controls (banner : String)
  | settings (request : SettingsRequest)
  deriving DecidableEq

/-- What is to be done, and in which folder if one is named. -/
structure Invocation where
  folder : Option String
  request : Request
  deriving DecidableEq

namespace Reader

/-- The texts among the values of an argument. -/
def texts (r : Reader) (a : Argument) : List String :=
  (r.values a).filterMap fun
    | .text s => some s
    | _ => none

/-- The text that was given for an argument. -/
def text? (r : Reader) (a : Argument) : Option String :=
  (r.texts a).head?

/-- The number that was given for an argument. -/
def number? (r : Reader) (a : Argument) : Option Int64 :=
  ((r.values a).filterMap fun
    | .number n => some n
    | _ => none).head?

/-- The match mode that was given for an argument. -/
def mode? (r : Reader) (a : Argument) : Option MatchMode :=
  ((r.values a).filterMap fun
    | .mode m => some m
    | _ => none).head?

/-- The request of a verb with the arguments that have been found, unless one is missing. -/
def request? (r : Reader) : Verb → Option Request
  | .get => return .get (← r.text? .key)
  | .set => return .set (← r.text? .key) (← r.text? .value) (r.number? .days)
  | .delete => return .delete (← r.text? .key)
  | .list => some .list
  | .display => some .display
  | .layout => return .layout (← r.number? .pixels) (← r.number? .height) (← r.number? .scale)
  | .matchNode =>
    if r.has .candidates then
      some (.matchNode (Candidates.ofList (r.texts .candidates)) (r.mode? .mode))
    else none
  | .patterns => some .patterns
  | .controls => some (.controls ((r.text? .banner).getD ""))
  | .settings =>
    match r.text? .settingKey, r.text? .settingValue with
    | none, _ => some (.settings .showAll)
    | some key, none => some (.settings (.showKey key))
    | some key, some value => some (.settings (.change key value))

/-- The request of a verb with the arguments that have been found. -/
def request (r : Reader) (verb : Verb) : Except Stop Request :=
  match r.request? verb with
  | some request => .ok request
  | none =>
    .error (.usage (.missing ((verb.required.filter fun a => !r.has a).map Argument.label)))

end Reader

/-- Asking for help on commands: each name has to be a command of what is named before it, and
commands have no commands of their own. -/
def readHelp : List String → Stop
  | [] => .help
  | word :: rest =>
    if Verb.isCommand word then
      match rest with
      | [] => .help
      | surplus :: _ => .usage (.unknownCommand surplus)
    else .usage (.unknownCommand word)

namespace Invocation

/-- Reads the arguments of a verb, and then settles what came before it. -/
def readVerb (before : Reader) (verb : Verb) (texts : List String) : Except Stop Invocation := do
  let after ← (Reader.ofVerb verb).takeAll texts
  let request ← after.request verb
  let before ← before.settle.mapError Stop.usage
  return ⟨after.text? .folder <|> before.text? .folder, request⟩

/-- Reads on from a reader that has not come to a verb. -/
def readFrom (r : Reader) : List String → Except Stop Invocation
  | [] => do
    let r ← r.settle.mapError Stop.usage
    return ⟨r.text? .folder, .display⟩
  | text :: rest =>
    match if r.plain || r.awaits then none else Verb.ofWord? text with
    | some verb => readVerb r verb rest
    | none =>
      if !r.plain && !r.awaits && decide (text = Verb.helpWord) then .error (readHelp rest)
      else do readFrom (← r.take text) rest

/-- What the arguments of a command line ask for. -/
def read (texts : List String) : Except Stop Invocation :=
  readFrom .start texts

end Invocation

end PlanViewer.CommandLine
