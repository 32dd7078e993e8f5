import Telemetry.Decimal.Text
import Telemetry.Delta
import Telemetry.Text.Quoted
import Telemetry.Text.Utf8

/-! The counted form of structured data: a flat list of nodes in which an array announces how
many elements follow it. Every wire format is read into this form and deltas are read from it.
A broken node stands where a payload stops being well formed, and says how. -/
namespace Telemetry.Wire

inductive Node
  | null
  | bool (b : Bool)
  | integer (n : Int)
  | real (x : Binary64)
  | text (s : String)
  | bytes (b : Bytes)
  /-- A value that is complete but fits no other node, and why. -/
  | other (flaw : String)
  /-- An enclosed value of a type that only its writer knows. -/
  | extension
  | array (length : Nat)
  | object (length : Nat)
  | broken (flaw : String)
  deriving DecidableEq, Repr, Inhabited

inductive Expectation
  | real
  | index
  | text
  | list
  | pair
  | delta
  deriving DecidableEq, Repr

def Expectation.name : Expectation → String
  | real => "f64"
  | index => "usize"
  | text => "a string"
  | list => "a sequence"
  | pair => "a tuple of size 2"
  | delta => "a sequence of [sim_time, continuous] or [sim_time, continuous, events]"

inductive DecodeFault
  | length (found : Nat) (expected : Expectation)
  | nonFiniteTime (tick time : Binary64)
  | kind (found : String) (expected : Expectation)
  | range (found : String) (expected : Expectation)
  | malformed (text : String)
  /-- A fault with the line and the column up to which the text was read. -/
  | located (fault : DecodeFault) (line column : Nat)
  /-- A fault with the character where it was found. -/
  | pinned (fault : DecodeFault) (index : Nat)
  deriving DecidableEq, Repr

def DecodeFault.cause : DecodeFault → DecodeFault
  | located fault _ _ => fault.cause
  | pinned fault _ => fault.cause
  | fault => fault

/-- What a wire format bears beside the delta itself. -/
structure Allowance where
  /-- Arrays may be longer than the pairs they stand for. -/
  surplus : Bool := false
  depth : Option Nat := none

namespace Node

/-- A number that can be told from an integer. -/
def pointed (x : Binary64) : String :=
  let text := toString x
  if x.isFinite && !text.toList.contains '.' then text ++ ".0" else text

def described : Node → String
  | null => "unit value"
  | bool b => s!"boolean `{b}`"
  | integer n => s!"integer `{n}`"
  | real x => "floating point `" ++ pointed x ++ "`"
  | text s => "string " ++ Text.quoted s
  | bytes _ => "byte array"
  | extension => "newtype struct"
  | array _ => "sequence"
  | object _ => "map"
  | other flaw => flaw
  | broken flaw => flaw

end Node

abbrev Reader (α : Type) := List Node → Except DecodeFault (α × List Node)

namespace Reader

def exhausted : DecodeFault := .malformed "no value left"

/-- The fault of nodes that do not begin with what is wanted. -/
def unlike (expected : Expectation) : List Node → DecodeFault
  | [] => exhausted
  | .other flaw :: _ => .malformed flaw
  | .broken flaw :: _ => .malformed flaw
  | node :: _ => .kind node.described expected

def number : Reader Binary64
  | .real x :: nodes => .ok (x, nodes)
  | .integer n :: nodes => .ok (.ofInt n, nodes)
  | nodes => .error (unlike .real nodes)

def index : Reader Nat
  | .integer n :: nodes =>
    if 0 ≤ n ∧ n < UInt64.size then .ok (n.toNat, nodes)
    else .error (.range (Node.integer n).described .index)
  | nodes => .error (unlike .index nodes)

def text : Reader String
  | .text s :: nodes => .ok (s, nodes)
  | .bytes b :: nodes =>
    match b.toText? with
    | some s => .ok (s, nodes)
    | none => .error (.range (Node.bytes b).described .text)
  | nodes => .error (unlike .text nodes)

/-- Bytes in place of an array are an array of small integers. -/
def ofBytes (bytes : Bytes) : List Node := bytes.map fun b => .integer b.toNat

def times {α : Type} (element : Reader α) : Nat → Reader (List α)
  | 0, nodes => .ok ([], nodes)
  | n + 1, nodes => do
    let (a, nodes) ← element nodes
    let (rest, nodes) ← times element n nodes
    return (a :: rest, nodes)

def list {α : Type} (element : Reader α) : Reader (List α)
  | .array n :: nodes => times element n nodes
  | .bytes b :: nodes => do
    let (items, _) ← times element b.length (ofBytes b)
    return (items, nodes)
  | nodes => .error (unlike .list nodes)

/-- The elements of a pair behind an array of `n`. With `surplus` the array may be longer, and
what it holds besides is left for whatever is read next. -/
def pairOf {α β : Type} (surplus : Bool) (first : Reader α) (second : Reader β) (n : Nat) :
    Reader (α × β) := fun nodes => do
  if n = 0 then throw (.length 0 .pair)
  let (a, nodes) ← first nodes
  if n = 1 then throw (.length 1 .pair)
  let (b, nodes) ← second nodes
  if 2 < n && !surplus then throw (.malformed "array had incorrect length, expected 2")
  return ((a, b), nodes)

def pair {α β : Type} (surplus : Bool) (first : Reader α) (second : Reader β) : Reader (α × β)
  | .array n :: nodes => pairOf surplus first second n nodes
  | .bytes b :: nodes => do
    let (ab, _) ← pairOf true first second b.length (ofBytes b)
    return (ab, nodes)
  | nodes => .error (unlike .pair nodes)

def enclosed : Node → Option Nat
  | .array n => some n
  | .object n => some (2 * n)
  | .extension => some 0
  | _ => none

/-- Passes over values. The list holds, from the inside out, how many values every open container
still lacks. -/
def skip (depth : Option Nat) : List Nat → Reader Unit
  | [], nodes => .ok ((), nodes)
  | _ :: _, [] => .error exhausted
  | lacking :: outer, node :: nodes =>
    let around := (lacking - 1) :: outer
    match enclosed node with
    | some n =>
      if depth.any (· ≤ around.length + 1) then .error (.malformed "depth limit exceeded")
      else skip depth ((n :: around).dropWhile (· = 0)) nodes
    | none =>
      match node with
      | .broken flaw => .error (.malformed flaw)
      | _ => skip depth (around.dropWhile (· = 0)) nodes

def sample (surplus : Bool) : Reader Sample := fun nodes => do
  let ((time, value), nodes) ← pair surplus number number nodes
  return (⟨time, value⟩, nodes)

def continuousSection (surplus : Bool) : Reader (List (String × List Sample)) :=
  list (pair surplus text (list (sample surplus)))

def eventSection (surplus : Bool) : Reader (List (String × List (Nat × List Binary64))) :=
  list (pair surplus text (list (pair surplus index (list number))))

def deltaOf (allowance : Allowance) (n : Nat) : Reader Delta := fun nodes => do
  if n = 0 then throw (.length 0 .delta)
  let (time, nodes) ← number nodes
  if n = 1 then throw (.length 1 .delta)
  let (continuous, nodes) ← continuousSection allowance.surplus nodes
  if n = 2 then return (⟨time, continuous, none⟩, nodes)
  let (events, nodes) ← eventSection allowance.surplus nodes
  if n = 3 then return (⟨time, continuous, some events⟩, nodes)
  let _ ← skip allowance.depth [1] nodes
  throw (.length 4 .delta)

end Reader

/-- The delta at the front of the nodes; what follows it is not looked at. Its times must be
finite, and its values may be anything. -/
def readDelta (allowance : Allowance) (nodes : List Node) : Except DecodeFault Delta := do
  let (delta, _) ←
    match nodes with
    | .array n :: nodes => Reader.deltaOf allowance n nodes
    | .bytes b :: _ => Reader.deltaOf allowance b.length (Reader.ofBytes b)
    | nodes => throw (Reader.unlike .delta nodes)
  match delta.nonFiniteTime? with
  | some time => throw (.nonFiniteTime delta.time time)
  | none => return delta

def Node.ofList {α : Type} (element : α → List Node) (items : List α) : List Node :=
  .array items.length :: items.flatMap element

def Node.ofSample (sample : Sample) : List Node :=
  [.array 2, .real sample.time, .real sample.value]

def Node.ofContinuous : String × List Sample → List Node
  | (key, samples) => .array 2 :: .text key :: Node.ofList Node.ofSample samples

def Node.ofTrain : Nat × List Binary64 → List Node
  | (index, times) => .array 2 :: .integer index :: Node.ofList (fun t => [.real t]) times

def Node.ofEvents : String × List (Nat × List Binary64) → List Node
  | (channel, trains) => .array 2 :: .text channel :: Node.ofList Node.ofTrain trains

/-- Nodes of a delta, with the event section left out when there is none. -/
def Node.ofDelta (delta : Delta) : List Node :=
  match delta.events with
  | none => .array 2 :: .real delta.time :: Node.ofList Node.ofContinuous delta.continuous
  | some events =>
    .array 3 :: .real delta.time :: Node.ofList Node.ofContinuous delta.continuous ++
      Node.ofList Node.ofEvents events

end Telemetry.Wire
