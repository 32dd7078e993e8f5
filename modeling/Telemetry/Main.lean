import Telemetry.Command.Run

/-! The program. Files, variables and streams are those of the system. There are no sockets
here: a publisher is one that nobody listens to, whose messages are dropped, and there is no
publisher to connect to. -/
namespace Telemetry.Command

/-- What reading a file meets in the words of the system. -/
def describe : IO.Error → String
  | .noFileOrDirectory .. => "No such file or directory (os error 2)"
  | .permissionDenied .. => "Permission denied (os error 13)"
  | .inappropriateType .. => "Is a directory (os error 21)"
  | error => toString error

def readContent (path : String) : IO FileContent := do
  try
    return .ok (← IO.FS.readBinFile path).toList
  catch error => return .error (describe error)

def writeContent (file : String × String) : IO (Option String) := do
  try
    IO.FS.writeFile file.1 file.2
    return none
  catch error => return some (describe error)

def Invocation.configPath : Invocation → Option String
  | .check target _ => some target.path
  | .codecs _ => none
  | .monitor arguments => some arguments.config
  | .synthetic arguments => some arguments.config

def drawsFrom (seed : Nat) (probability : Binary64) (number : Nat) : Draws :=
  let unit (salt : Nat) : Binary64 :=
    let state := mkStdGen (seed + 1000003 * number + salt)
    let (n, _) := stdNext (stdNext state).2
    Binary64.ofNat n / Binary64.ofNat 2147483563
  { walk := fun port index =>
      let x := unit (2 * index + 7919 * port.length)
      x + x - Binary64.one
    event := fun port index =>
      let salt := 104729 + 3 * index + 7907 * port.length
      if unit salt < probability then some (unit (salt + 1)) else none }

def systemHost (content : FileContent) (seed : Nat) : Host where
  fileContent := fun _ => content
  fileWrite := fun _ => .ok ()
  bind := fun endpoint =>
    if endpoint.startsWith "tcp://" || endpoint.startsWith "ipc://" then .ok ()
    else .error "ZMQ PUB bind error: unknown transport"
  reach := fun _ => .error "ZMQ SUB connect error: no publisher"
  draws := fun given probability => drawsFrom (given.getD seed) probability
  readings := fun _ => [0]
  patience := 1000

def levelRank : Level → Nat
  | .error => 0
  | .warn => 0
  | .info => 1
  | .debug => 2

/-- Prints what a command left behind; answers the exit code. -/
def present (verbosity : Nat) (outcome : Outcome Terminal Nat) : IO Nat := do
  let output ← IO.getStdout
  let errors ← IO.getStderr
  for record in outcome.log do
    if levelRank record.level ≤ verbosity then
      errors.putStrLn s!"[{record.level.name}] {record.text}"
  outcome.state.output.forM output.putStrLn
  outcome.state.errors.forM errors.putStrLn
  let mut code ←
    match outcome.result with
    | .ok code => pure code
    | .error (.fault fault) => do
      errors.putStrLn s!"Error: {fault.message}"
      pure (exitCode fault)
    | .error (.breach breach) => do
      errors.putStrLn breach.message
      pure 101
  for file in outcome.state.files do
    if let some text ← writeContent file then
      errors.putStrLn s!"Error: Failed to write output file '{file.1}': {text}"
      code := executionErrorCode
  return code

def usageText : UsageFault → String
  | .versionAsked => versionText
  | _ => "Usage: simtel [-v] <check|codecs|monitor|synthetic> [options]"

end Telemetry.Command

open Telemetry Telemetry.Command

def main (arguments : List String) : IO UInt32 := do
  let consumer ← IO.getEnv "SIMTEL_CONSUMER_CONFIG"
  let producer ← IO.getEnv "SIMTEL_PRODUCER_CONFIG"
  let environment : String → Option String := fun name =>
    if name = "SIMTEL_CONSUMER_CONFIG" then consumer
    else if name = "SIMTEL_PRODUCER_CONFIG" then producer
    else none
  match parse environment arguments with
  | .error fault =>
    let stream ← if fault.exitCode = 0 then IO.getStdout else IO.getStderr
    stream.putStrLn (usageText fault)
    return fault.exitCode.toUInt32
  | .ok line =>
    let content : FileContent ←
      match line.invocation.configPath with
      | some path => readContent path
      | none => pure (.ok [])
    let seed ← IO.rand 0 1000000
    let outcome := Command.run (systemHost content seed) line.invocation {}
    return (← present line.verbosity outcome).toUInt32
