import Contention.CommandLine.Number
import Contention.Mode
import Contention.Text.Visible

namespace Contention.CommandLine

inductive Phases where
  | both
  | only (mode : Mode)
deriving DecidableEq, Repr, Inhabited

def Phases.modes : Phases → List Mode
  | .both => Mode.all
  | .only mode => [mode]

inductive Name where
  | resources | workers | stallTimeout | duration | mode | pairing | seed | json | help | version
deriving DecidableEq, Repr

structure Choice where
  text : String
  meaning : String
  phases : Phases

structure Entry where
  name : Name
  short : Option Char
  long : String
  placeholder : Option String
  summary : String
  longSummary : Option String := none
  initial : Option String
  choices : List Choice := []

def phaseChoices : List Choice := [
  { text := "both", meaning := "Unordered, then total order", phases := .both },
  { text := "unordered"
    meaning := "Parity-dependent lock order; may deadlock"
    phases := .only .unordered },
  { text := "total-order"
    meaning := "Ascending lock order; cannot deadlock"
    phases := .only .totalOrder }]

def entries : List Entry := [
  { name := .resources
    short := some 'r'
    long := "resources"
    placeholder := some "RESOURCES"
    summary := "Number of resources (minimum 2)"
    initial := some "5" },
  { name := .workers
    short := some 'w'
    long := "workers"
    placeholder := some "WORKERS"
    summary := "Number of workers (minimum 2)"
    initial := some "5" },
  { name := .stallTimeout
    short := some 't'
    long := "stall-timeout"
    placeholder := some "STALL_TIMEOUT"
    summary := "Seconds without progress before a stall is declared (minimum 1)"
    initial := some "3" },
  { name := .duration
    short := some 'd'
    long := "duration"
    placeholder := some "DURATION"
    summary := "Seconds each phase runs (minimum 3)"
    initial := some "12" },
  { name := .mode
    short := none
    long := "mode"
    placeholder := some "MODE"
    summary := "Which phases to run"
    initial := some "both"
    choices := phaseChoices },
  { name := .pairing
    short := none
    long := "pairing"
    placeholder := some "PAIRING"
    summary := "Resource pairing rule (paired, adjacent)"
    initial := some "paired" },
  { name := .seed
    short := none
    long := "seed"
    placeholder := some "SEED"
    summary := "Seed for worker delays"
    initial := some "12345" },
  { name := .json
    short := none
    long := "json"
    placeholder := none
    summary := "Print each summary as a JSON line instead of text"
    initial := none },
  { name := .help
    short := some 'h'
    long := "help"
    placeholder := none
    summary := "Print help (see more with '--help')"
    longSummary := some "Print help (see a summary with '-h')"
    initial := none },
  { name := .version
    short := some 'V'
    long := "version"
    placeholder := none
    summary := "Print version"
    initial := none }]

def Entry.ofShort? (letter : Char) : Option Entry :=
  entries.find? fun entry => entry.short == some letter

def Entry.ofLong? (long : String) : Option Entry := entries.find? fun entry => entry.long == long

def Entry.usage (entry : Entry) : String :=
  match entry.placeholder with
  | some placeholder => "--" ++ entry.long ++ " <" ++ placeholder ++ ">"
  | none => "--" ++ entry.long

inductive UsageError where
  | valueMissing (option : String)
  | valueNotWanted (option value : String)
  | repeated (option : String)
  | unexpected (argument : String)
  /-- The reason is left out where the possible values speak for themselves. -/
  | badValue (option value : String) (reason : Option String)
deriving DecidableEq, Repr

/-- The message.  What was given and how an option is written are set apart; the
reason for a bad value is not, though it may quote the value. -/
def UsageError.message : UsageError → List Text.Piece
  | .valueMissing option => [
      .plain "a value is required for '", .apart option, .plain "' but none was supplied"]
  | .valueNotWanted option value => [
      .plain "unexpected value '", .apart value, .plain "' for '", .apart option,
      .plain "' found; no more were expected"]
  | .repeated option => [
      .plain "the argument '", .apart option, .plain "' cannot be used multiple times"]
  | .unexpected argument => [
      .plain "unexpected argument '", .apart argument, .plain "' found"]
  | .badValue option value reason => [
      .plain "invalid value '", .apart value, .plain "' for '", .apart option,
      .plain ("'" ++ ((reason.map fun reason => ": " ++ reason).getD ""))]

/-- The usage line follows where the arguments do not fit the options, not where
only a value is at fault. -/
def UsageError.showsUsage : UsageError → Bool
  | .valueMissing _ => false
  | .valueNotWanted _ _ => true
  | .repeated _ => true
  | .unexpected _ => true
  | .badValue _ _ _ => false

structure Given where
  resources : Option Nat := none
  workers : Option Nat := none
  stallTimeout : Option Nat := none
  duration : Option Nat := none
  mode : Option Phases := none
  pairing : Option Pairing := none
  seed : Option Nat := none
  json : Bool := false
deriving DecidableEq, Repr, Inhabited

/-- Why reading stops before the last argument has been understood. -/
inductive Stop where
  | error (error : UsageError)
  | help (long : Bool)
  | version
deriving DecidableEq, Repr

namespace Given

def has (given : Given) : Name → Bool
  | .resources => given.resources.isSome
  | .workers => given.workers.isSome
  | .stallTimeout => given.stallTimeout.isSome
  | .duration => given.duration.isSome
  | .mode => given.mode.isSome
  | .pairing => given.pairing.isSome
  | .seed => given.seed.isSome
  | .json => given.json
  | .help => false
  | .version => false

def number (entry : Entry) (value : String) : Except Stop Nat :=
  match readNumber value with
  | .ok number => .ok number
  | .error error => .error (.error (.badValue entry.usage value (some error.message)))

def phases (entry : Entry) (value : String) : Except Stop Phases :=
  match entry.choices.find? fun choice => choice.text == value with
  | some choice => .ok choice.phases
  | none =>
      .error (.error
        (if value.isEmpty then .valueMissing entry.usage
          else .badValue entry.usage value none))

def pairingRule (entry : Entry) (value : String) : Except Stop Pairing :=
  match Pairing.parse value with
  | .ok pairing => .ok pairing
  | .error error => .error (.error (.badValue entry.usage value (some error.message)))

def enter (given : Given) (entry : Entry) (value : String) : Except Stop Given :=
  match entry.name with
  | .resources => (number entry value).map fun number => { given with resources := some number }
  | .workers => (number entry value).map fun number => { given with workers := some number }
  | .stallTimeout =>
      (number entry value).map fun number => { given with stallTimeout := some number }
  | .duration => (number entry value).map fun number => { given with duration := some number }
  | .mode => (phases entry value).map fun phases => { given with mode := some phases }
  | .pairing => (pairingRule entry value).map fun rule => { given with pairing := some rule }
  | .seed => (number entry value).map fun number => { given with seed := some number }
  | .json => .ok { given with json := true }
  | .help => .ok given
  | .version => .ok given

end Given

structure Reading where
  given : Given := {}
  /-- An option whose value stands in an argument of its own, with that value
  once it has come.  It is entered when the next option comes or at the end. -/
  pending : Option (Entry × Option String) := none
  /-- A lone double dash has come, after which nothing is an option. -/
  closed : Bool := false

namespace Reading

def enterOnce (given : Given) (entry : Entry) (value : String) : Except Stop Given :=
  if given.has entry.name then .error (.error (.repeated entry.usage))
  else given.enter entry value

def settle (reading : Reading) : Except Stop Reading :=
  match reading.pending with
  | none => .ok reading
  | some (entry, none) => .error (.error (.valueMissing entry.usage))
  | some (entry, some value) =>
      (enterOnce reading.given entry value).map fun given => { reading with given, pending := none }

def withValue (reading : Reading) (entry : Entry) (value : String) : Except Stop Reading := do
  let settled ← reading.settle
  let given ← enterOnce settled.given entry value
  return { settled with given }

def awaitValue (reading : Reading) (entry : Entry) : Except Stop Reading := do
  let settled ← reading.settle
  return { settled with pending := some (entry, none) }

def flag (reading : Reading) (entry : Entry) (long : Bool) : Except Stop Reading := do
  let settled ← reading.settle
  match entry.name with
  | .help => throw (.help long)
  | .version => throw .version
  | _ =>
      let given ← enterOnce settled.given entry ""
      return { settled with given }

def longArgument (reading : Reading) (text : List Char) : Except Stop Reading :=
  let name := String.ofList (text.takeWhile (· != '='))
  let value :=
    match text.dropWhile (· != '=') with
    | [] => none
    | _ :: value => some (String.ofList value)
  match Entry.ofLong? name with
  | none => .error (.error (.unexpected ("--" ++ name)))
  | some entry =>
      match entry.placeholder, value with
      | some _, some value => reading.withValue entry value
      | some _, none => reading.awaitValue entry
      | none, some value => .error (.error (.valueNotWanted entry.usage value))
      | none, none => reading.flag entry true

/-- Short options in one argument, without the dash.  The first that takes a
value takes all that follows, less an equals sign. -/
def shortArgument (reading : Reading) : List Char → Except Stop Reading
  | [] => .ok reading
  | letter :: rest =>
      match Entry.ofShort? letter with
      | none => .error (.error (.unexpected ("-" ++ String.singleton letter)))
      | some entry =>
          match entry.placeholder, rest with
          | some _, [] => reading.awaitValue entry
          | some _, '=' :: value => reading.withValue entry (String.ofList value)
          | some _, value => reading.withValue entry (String.ofList value)
          | none, _ => do
              let next ← reading.flag entry false
              shortArgument next rest

def plainArgument (reading : Reading) (argument : String) : Except Stop Reading :=
  match reading.closed, reading.pending with
  | false, some (entry, none) => .ok { reading with pending := some (entry, some argument) }
  | _, _ => .error (.error (.unexpected argument))

def argument (reading : Reading) (argument : String) : Except Stop Reading :=
  if reading.closed then reading.plainArgument argument
  else
    match argument.toList with
    | ['-', '-'] => .ok { reading with closed := true }
    | '-' :: '-' :: text => reading.longArgument text
    | ['-'] => reading.plainArgument argument
    | '-' :: text => reading.shortArgument text
    | _ => reading.plainArgument argument

end Reading

def read (arguments : List String) : Except Stop Given := do
  let reading ← arguments.foldlM Reading.argument {}
  let settled ← reading.settle
  return settled.given

end Contention.CommandLine
