import Telemetry.Text.Numeral

/-! The command line: one of four subcommands with its options. Reading stops at the first
argument that does not fit; what is only wrong as a whole, such as an option that is missing, is
found at the end. The value of an option is looked at when the next option is met, so that an
unknown argument right behind it comes first. -/
namespace Telemetry.Command

inductive UsageFault
  | helpAsked
  | versionAsked
  | nothingGiven
  | missingSubcommand
  | unknownSubcommand
  | unknownArgument
  | missingArgument
  | missingValue
  | surplusValue
  | unreadableValue
  | conflict
  deriving DecidableEq, Repr

/-- Only a question that is answered is no error. -/
def UsageFault.exitCode : UsageFault → Nat
  | .helpAsked => 0
  | .versionAsked => 0
  | _ => 2

inductive OptionValue
  | present
  | text (s : String)
  | natural (n : Nat)
  | real (x : Binary64)
  deriving DecidableEq, Repr

inductive OptionKind
  | toggle
  | text
  | natural
  | real
  deriving DecidableEq, Repr

structure OptionSpec where
  name : String
  kind : OptionKind
  deriving DecidableEq, Repr

def OptionSpec.parse (spec : OptionSpec) (text : String) : Except UsageFault OptionValue :=
  let parsed :=
    match spec.kind with
    | .toggle => none
    | .text => some (.text text)
    | .natural => (Numeral.natural? text).map .natural
    | .real => (Numeral.real? text).map .real
  match parsed with
  | some value => .ok value
  | none => .error .unreadableValue

structure Options where
  values : List (String × OptionValue) := []
  verbosity : Nat := 0
  /-- The last option that takes a value, with the text of it if there was one. -/
  waiting : Option (OptionSpec × Option String) := none
  deriving DecidableEq, Repr

namespace Options

def find? (options : Options) (name : String) : Option OptionValue :=
  (options.values.find? (·.1 = name)).map (·.2)

def has (options : Options) (name : String) : Bool := (options.find? name).isSome

def text? (options : Options) (name : String) : Option String :=
  match options.find? name with
  | some (.text s) => some s
  | _ => none

def natural? (options : Options) (name : String) : Option Nat :=
  match options.find? name with
  | some (.natural n) => some n
  | _ => none

def real? (options : Options) (name : String) : Option Binary64 :=
  match options.find? name with
  | some (.real x) => some x
  | _ => none

def add (options : Options) (name : String) (value : Except UsageFault OptionValue) :
    Except UsageFault Options := do
  if options.has name then throw .conflict
  return { options with values := (name, ← value) :: options.values }

def settle (options : Options) : Except UsageFault Options :=
  match options.waiting with
  | none => .ok options
  | some (_, none) => .error .missingValue
  | some (spec, some text) =>
    { options with waiting := none }.add spec.name (spec.parse text)

/-- Counts one more request for a verbose log, of which eight bits are kept. -/
def louder (options : Options) : Options :=
  { options with verbosity := min (options.verbosity + 1) 255 }

/-- Options of one letter, which can be written together. -/
def readLetters (letters : List Char) (versioned : Bool) (options : Options) :
    Except UsageFault Options :=
  match letters with
  | [] => .ok options
  | 'v' :: rest => do readLetters rest versioned (← options.settle).louder
  | 'h' :: _ => do
    let _ ← options.settle
    throw .helpAsked
  | 'V' :: _ =>
    if versioned then do
      let _ ← options.settle
      throw .versionAsked
    else .error .unknownArgument
  | _ => .error .unknownArgument

def readCommon (name : String) (versioned : Bool) (options : Options) : Except UsageFault Options :=
  if name = "verbose" then do return (← options.settle).louder
  else if name = "help" then do
    let _ ← options.settle
    throw .helpAsked
  else if name = "version" ∧ versioned then do
    let _ ← options.settle
    throw .versionAsked
  else .error .unknownArgument

def isCommon (name : String) (versioned : Bool) : Bool :=
  name = "verbose" || name = "help" || (name = "version" && versioned)

/-- The option of a name, with the value that is attached to it by an equals sign. -/
def readLong (specs : List OptionSpec) (versioned : Bool) (name : String) (attached : Option String)
    (options : Options) : Except UsageFault Options :=
  match specs.find? (·.name = name) with
  | some spec =>
    if spec.kind = .toggle then
      if attached.isSome then .error .surplusValue
      else do (← options.settle).add name (.ok .present)
    else
      match attached with
      | some text => do (← options.settle).add name (spec.parse text)
      | none => do return { ← options.settle with waiting := some (spec, none) }
  | none =>
    if attached.isSome && isCommon name versioned then .error .surplusValue
    else readCommon name versioned options

end Options

inductive Shape
  | terminator
  | long (name : String) (attached : Option String)
  | letters (letters : List Char)
  | plain

def shape (argument : String) : Shape :=
  match argument.toList with
  | ['-', '-'] => .terminator
  | '-' :: '-' :: rest =>
    let name := String.ofList (rest.takeWhile (· ≠ '='))
    match rest.dropWhile (· ≠ '=') with
    | [] => .long name none
    | _ :: value => .long name (some (String.ofList value))
  | '-' :: c :: rest => .letters (c :: rest)
  | _ => .plain

/-- Reads the options of a subcommand. -/
def readOptions (specs : List OptionSpec) : List String → Options → Except UsageFault Options
  | [], options => options.settle
  | argument :: rest, options =>
    match shape argument with
    | .terminator => if rest.isEmpty then options.settle else .error .unknownArgument
    | .long name attached => do
      readOptions specs rest (← options.readLong specs false name attached)
    | .letters letters => do readOptions specs rest (← options.readLetters letters false)
    | .plain =>
      match options.waiting with
      | some (spec, none) =>
        readOptions specs rest { options with waiting := some (spec, some argument) }
      | _ => .error .unknownArgument

inductive CheckTarget
  | producer (path : String)
  | consumer (path : String)
  deriving DecidableEq, Repr

structure MonitorArguments where
  config : String
  duration : Option Binary64
  statsOut : Option String
  deriving DecidableEq, Repr

structure SyntheticArguments where
  config : String
  ticks : Option Nat
  seed : Option Nat
  eventProbability : Binary64
  pacing : Bool
  statsOut : Option String
  deriving DecidableEq, Repr

inductive Invocation
  | check (target : CheckTarget) (json : Bool)
  | codecs (json : Bool)
  | monitor (arguments : MonitorArguments)
  | synthetic (arguments : SyntheticArguments)
  deriving DecidableEq, Repr

inductive Subcommand
  | check
  | codecs
  | monitor
  | synthetic
  deriving DecidableEq, Repr

namespace Subcommand

def all : List Subcommand := [.check, .codecs, .monitor, .synthetic]

def name : Subcommand → String
  | .check => "check"
  | .codecs => "codecs"
  | .monitor => "monitor"
  | .synthetic => "synthetic"

def ofName? (name : String) : Option Subcommand := all.find? (·.name = name)

def specs : Subcommand → List OptionSpec
  | .check => [⟨"producer", .text⟩, ⟨"consumer", .text⟩, ⟨"json", .toggle⟩]
  | .codecs => [⟨"json", .toggle⟩]
  | .monitor => [⟨"config", .text⟩, ⟨"duration", .real⟩, ⟨"stats-out", .text⟩]
  | .synthetic =>
    [⟨"config", .text⟩, ⟨"ticks", .natural⟩, ⟨"seed", .natural⟩, ⟨"event-probability", .real⟩,
      ⟨"no-pacing", .toggle⟩, ⟨"stats-out", .text⟩]

def configVariable : Subcommand → Option String
  | .monitor => some "SIMTEL_CONSUMER_CONFIG"
  | .synthetic => some "SIMTEL_PRODUCER_CONFIG"
  | _ => none

def configPath (subcommand : Subcommand) (environment : String → Option String)
    (options : Options) : Except UsageFault String :=
  match options.text? "config", subcommand.configVariable.bind environment with
  | some path, _ => .ok path
  | none, some path => .ok path
  | none, none => .error .missingArgument

def usualProbability : Binary64 := Binary64.ofDecimal false 5 (-2)

def invocation (subcommand : Subcommand) (environment : String → Option String)
    (options : Options) : Except UsageFault Invocation :=
  match subcommand with
  | .check =>
    match options.text? "producer", options.text? "consumer" with
    | some path, none => .ok (.check (.producer path) (options.has "json"))
    | none, some path => .ok (.check (.consumer path) (options.has "json"))
    | some _, some _ => .error .conflict
    | none, none => .error .missingArgument
  | .codecs => .ok (.codecs (options.has "json"))
  | .monitor => do
    return .monitor
      { config := ← subcommand.configPath environment options
        duration := options.real? "duration"
        statsOut := options.text? "stats-out" }
  | .synthetic => do
    return .synthetic
      { config := ← subcommand.configPath environment options
        ticks := options.natural? "ticks"
        seed := options.natural? "seed"
        eventProbability := (options.real? "event-probability").getD usualProbability
        pacing := !options.has "no-pacing"
        statsOut := options.text? "stats-out" }

end Subcommand

structure CommandLine where
  verbosity : Nat
  invocation : Invocation
  deriving DecidableEq, Repr

def readHelp : List String → UsageFault
  | [] => .helpAsked
  | [name] =>
    if name = "help" ∨ (Subcommand.ofName? name).isSome then .helpAsked else .unknownSubcommand
  | _ => .unknownSubcommand

/-- Behind two dashes a subcommand is out of place, and all else is not one. -/
def readTrailing (name : String) : UsageFault :=
  if name = "help" ∨ (Subcommand.ofName? name).isSome then .unknownArgument else .unknownSubcommand

/-- Reads the arguments up to the subcommand, and then those of the subcommand. Its own count of
verbosity wins over the one before it. -/
def readCommand (environment : String → Option String) :
    List String → Options → Except UsageFault CommandLine
  | [], options => .error (if options.verbosity = 0 then .nothingGiven else .missingSubcommand)
  | argument :: rest, options =>
    if argument = "help" then .error (readHelp rest)
    else
      match Subcommand.ofName? argument with
      | some subcommand => do
        let inner ← readOptions subcommand.specs rest {}
        return { verbosity := if inner.verbosity = 0 then options.verbosity else inner.verbosity
                 invocation := ← subcommand.invocation environment inner }
      | none =>
        match shape argument with
        | .terminator =>
          match rest with
          | [] => readCommand environment rest options
          | name :: _ => .error (readTrailing name)
        | .long name attached => do
          readCommand environment rest (← options.readLong [] true name attached)
        | .letters letters => do readCommand environment rest (← options.readLetters letters true)
        | .plain => .error .unknownSubcommand

def parse (environment : String → Option String) (arguments : List String) :
    Except UsageFault CommandLine := readCommand environment arguments {}

end Telemetry.Command
