import Telemetry.Action
import Telemetry.Text.Utf8

/-! A channel inside one process: a queue with a sink at one end and a source at the other. -/
namespace Telemetry

structure Channel where
  address : String
  queue : List Bytes := []
  sinkOpen : Bool := true
  sourceOpen : Bool := true
  deriving DecidableEq, Repr

namespace Channel

/-- Both ends must be open. -/
def send (payload : Bytes) : Action Channel Unit := do
  let channel ← Action.read
  if channel.sinkOpen && channel.sourceOpen then
    Action.write { channel with queue := channel.queue ++ [payload] }
  else Action.fail .channelClosed

/-- Takes the oldest payload. What is queued can still be taken from a closed channel. -/
def poll : Action Channel (Option Bytes) := do
  let channel ← Action.read
  match channel.queue with
  | [] => return none
  | payload :: queue =>
    Action.write { channel with queue }
    return some payload

def closeSink : Action Channel Unit :=
  Action.change fun channel => { channel with sinkOpen := false }

def closeSource : Action Channel Unit :=
  Action.change fun channel => { channel with sourceOpen := false }

end Channel
end Telemetry
