import Telemetry.Command.Check
import Telemetry.Command.Monitor
import Telemetry.Command.Synthetic

/-! One run of the program, and the `codecs` command, which lists the wire codecs. -/
namespace Telemetry.Command

def version : String := "0.1.0"

def versionText : String := s!"simtel {version}"

def codecToJson (codec : Codec) : Json.Value :=
  .object [("name", .text codec.name), ("binary", .bool codec.isBinary),
    ("default", .bool (codec = .standard))]

def codecsToJson : Json.Value :=
  .object [("cli_version", .text version), ("codecs", .array (Codec.all.map codecToJson))]

def codecLine (codec : Codec) : String :=
  "  " ++ Column.left 10 codec.name ++ " " ++ (if codec.isBinary then "binary" else "text") ++
    if codec = .standard then " (default)" else ""

def codecs (json : Bool) : Action Terminal Nat := do
  if json then Terminal.print (Terminal.pretty codecsToJson)
  else Terminal.printAll ([s!"simtel v{version}", ""] ++ Codec.all.map codecLine)
  return successCode

def run (host : Host) : Invocation → Action Terminal Nat
  | .check target json => check host target json
  | .codecs json => codecs json
  | .monitor arguments => monitor host arguments
  | .synthetic arguments => synthetic host arguments

end Telemetry.Command
