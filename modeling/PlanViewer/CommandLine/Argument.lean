import PlanViewer.CommandLine.Usage
import PlanViewer.Matching.Mode
import PlanViewer.Text.Decimal

/-!
# Arguments and verbs

The vocabulary of the command line: the arguments, what values they take and how they are called,
and the verbs with the arguments that each of them takes.
-/

namespace PlanViewer.CommandLine

/-- An argument. -/
inductive Argument where
  /-- The folder of the preferences. -/
  | folder
  | verbose
  | help
  | version
  /-- The key of a preference. -/
  | key
  /-- The value of a preference. -/
  | value
  | days
  | pixels
  | height
  | scale
  /-- What is matched: up to three strings. -/
  | candidates
  | mode
  | banner
  /-- The key of a setting. -/
  | settingKey
  /-- The value of a setting. -/
  | settingValue
  deriving DecidableEq, Repr

/-- A value of an argument. -/
inductive Value where
  | text (s : String)
  | number (n : Int64)
  | mode (m : MatchMode)
  deriving DecidableEq

namespace Argument

/-- How an argument is called in messages. -/
def label : Argument → String
  | .folder => "--dir <DIR>"
  | .verbose => "--verbose"
  | .help => "--help"
  | .version => "--version"
  | .key => "<KEY>"
  | .value => "<VALUE>"
  | .days => "--days <DAYS>"
  | .pixels => "<PIXELS>"
  | .height => "<HEIGHT>"
  | .scale => "<SCALE>"
  | .candidates => "<CANDIDATES>..."
  | .mode => "--mode <MODE>"
  | .banner => "--banner <BANNER>"
  | .settingKey => "[KEY]"
  | .settingValue => "[VALUE]"

/-- The word that introduces an argument, after two dashes. -/
def word? : Argument → Option String
  | .folder => some "dir"
  | .verbose => some "verbose"
  | .help => some "help"
  | .version => some "version"
  | .days => some "days"
  | .mode => some "mode"
  | .banner => some "banner"
  | _ => none

/-- The letter that introduces an argument, after one dash. -/
def letter? : Argument → Option Char
  | .verbose => some 'v'
  | .help => some 'h'
  | .version => some 'V'
  | _ => none

/-- Whether an argument takes no value. -/
def isFlag (a : Argument) : Bool :=
  a.letter?.isSome

/-- How many values an argument takes at most, each time it is given. -/
def mostValues : Argument → Nat
  | .candidates => 3
  | _ => 1

/-- Whether an argument may be given in several places. -/
def isRepeatable (a : Argument) : Bool :=
  decide (a = .candidates)

/-- Whether a value that looks like a negative number may stand for an argument. -/
def takesNegative : Argument → Bool
  | .pixels | .height | .scale => true
  | _ => false

/-- The value that a text is for an argument. A folder cannot be named by the empty text. -/
def read (a : Argument) (text : String) : Except UsageError Value :=
  match a with
  | .folder => if text = "" then .error (.valueRequired a.label) else .ok (.text text)
  | .days | .pixels | .height | .scale =>
    match Text.Decimal.readInt64 text with
    | .ok n => .ok (.number n)
    | .error fault => .error (.invalidValue text a.label fault.message)
  | .mode =>
    match MatchMode.read text with
    | .ok m => .ok (.mode m)
    | .error name => .error (.invalidValue text a.label (MatchMode.unknownMessage name))
  | _ => .ok (.text text)

end Argument

/-- What the program can be told to do. -/
inductive Verb where
  | get
  | set
  | delete
  | list
  | display
  | layout
  | matchNode
  | patterns
  | controls
  | settings
  deriving DecidableEq, Repr

namespace Verb

/-- All verbs. -/
def all : List Verb :=
  [.get, .set, .delete, .list, .display, .layout, .matchNode, .patterns, .controls, .settings]

/-- The words for a verb. -/
def words : Verb → List String
  | .get => ["get"]
  | .set => ["set"]
  | .delete => ["delete", "rm"]
  | .list => ["list", "ls"]
  | .display => ["show"]
  | .layout => ["layout"]
  | .matchNode => ["match", "m"]
  | .patterns => ["patterns"]
  | .controls => ["controls"]
  | .settings => ["config"]

/-- The verb of a word. -/
def ofWord? (word : String) : Option Verb :=
  all.find? fun verb => verb.words.contains word

/-- The command that shows help. -/
def helpWord : String := "help"

/-- Whether a word names a command. -/
def isCommand (word : String) : Bool :=
  (ofWord? word).isSome || decide (word = helpWord)

/-- The arguments that stand by their place, in order. -/
def places : Verb → List Argument
  | .get | .delete => [.key]
  | .set => [.key, .value]
  | .layout => [.pixels, .height, .scale]
  | .matchNode => [.candidates]
  | .settings => [.settingKey, .settingValue]
  | .list | .display | .patterns | .controls => []

/-- The arguments that have to be given. -/
def required (verb : Verb) : List Argument :=
  if verb = .settings then [] else verb.places

/-- The arguments that are introduced by a word or a letter. -/
def options (verb : Verb) : List Argument :=
  let own : List Argument :=
    match verb with
    | .set => [.days]
    | .matchNode => [.mode]
    | .controls => [.banner]
    | _ => []
  own ++ [.folder, .verbose, .help]

end Verb

end PlanViewer.CommandLine
