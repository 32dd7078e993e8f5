import Telemetry.Codec
import Telemetry.Config.Schema
import Telemetry.History.Summary
import Telemetry.Synthetic

/-! What commands find around them and what they leave behind: printed lines, written files, and
an exit code. -/
namespace Telemetry.Command

/-- The machine that a command runs on. -/
structure Host where
  fileContent : String → FileContent
  fileWrite : String → Except String Unit
  bind : String → Except String Unit
  reach : String → Except String Unit
  /-- Random draws for a seed and a probability of events, tick by tick. -/
  draws : Option Nat → Binary64 → Nat → Draws
  /-- Readings of the clock until a monitor of the given duration is stopped. -/
  readings : Option Duration → List Nat
  /-- The tick before which an endless run is interrupted. -/
  patience : Nat

structure Terminal where
  output : List String := []
  errors : List String := []
  files : List (String × String) := []
  deriving DecidableEq, Repr

def successCode : Nat := 0
def executionErrorCode : Nat := 1
def inputErrorCode : Nat := 2

/-- Bad configuration files are errors of the input; all else went wrong while running. -/
def exitCode : Fault → Nat
  | .io _ => inputErrorCode
  | .json _ => inputErrorCode
  | fault => if fault.isConfig then inputErrorCode else executionErrorCode

namespace Terminal

def print (line : String) : Action Terminal Unit :=
  Action.change fun terminal => { terminal with output := terminal.output ++ [line] }

def printAll (lines : List String) : Action Terminal Unit :=
  Action.change fun terminal => { terminal with output := terminal.output ++ lines }

def printError (text : String) : Action Terminal Unit :=
  Action.change fun terminal => { terminal with errors := terminal.errors ++ ["Error: " ++ text] }

def report (fault : Fault) : Action Terminal Nat := do
  printError fault.message
  return exitCode fault

def pretty (value : Json.Value) : String := value.pretty .json ""

def writeStats (host : Host) (path : Option String) (value : Json.Value) (code : Nat) :
    Action Terminal Nat := do
  match path with
  | none => return code
  | some path =>
    match host.fileWrite path with
    | .ok () =>
      Action.change fun terminal => { terminal with files := terminal.files ++ [(path, pretty value)] }
      return code
    | .error text =>
      printError s!"Failed to write output file '{path}': {text}"
      return executionErrorCode

/-- Runs an operation on a state of its own; a fault becomes a value. -/
def inside {σ α : Type} (action : Action σ α) (state : σ) :
    Action Terminal (σ × Except Fault α) := do
  let outcome := action state
  Action.logAll outcome.log
  match outcome.result with
  | .ok a => return (outcome.state, .ok a)
  | .error (.fault fault) => return (outcome.state, .error fault)
  | .error (.breach breach) => Action.breach breach

end Terminal
end Telemetry.Command
