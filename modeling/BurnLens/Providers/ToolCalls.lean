import BurnLens.Library.Lines
import BurnLens.Library.Json
import Mathlib.Algebra.Order.Ring.Nat
import Mathlib.Data.Finset.Card

/-! # Tool calls

`count_tool_calls` counts the calls in the body of an answer, `count_tool_calls_in_stream` those in
the buffer of a streamed one.  A shape that is not expected counts for nothing in a body, and ends
the reading of a line in a stream.
-/

namespace BurnLens.Providers

open Library

/-- `fields.get(name)`. -/
def fieldOf (fields : Fields) (name : Str) : Json := fields.getD name .null

/-- `for item in value`. -/
def iterate : Json → Except PyError (List Json)
  | .arr items => .ok items
  | .str s => .ok (s.map fun c => .str [c])
  | .obj fields => .ok (fields.map fun field => .str field.1)
  | _ => .error .typeError

/-- `(value or {}).get`. -/
def objectOrEmpty (value : Json) : Except PyError Fields := (value.orElse (.obj [])).dict

def sumOver (value : Json) (count : Json → Except PyError Nat) : Except PyError Nat := do
  let items ← iterate (value.orElse (.arr []))
  return (← items.mapM count).sum

def messageCalls (choice : Json) : Except PyError Nat := do
  let message ← ((← objectOrEmpty choice).getD "message" (.obj [])).dict
  match fieldOf message "tool_calls" with
  | .arr calls => return calls.length
  | _ => return 0

def isToolUse : Json → Bool
  | .obj block => (fieldOf block "type").isText "tool_use"
  | _ => false

def isFunctionCall : Json → Bool
  | .obj part => (fieldOf part "functionCall").truthy
  | _ => false

def candidateCalls (candidate : Json) : Except PyError Nat := do
  let content ← ((← objectOrEmpty candidate).getD "content" (.obj [])).dict
  sumOver (fieldOf content "parts") fun part => .ok (isFunctionCall part).toNat

def countToolCalls (response : Json) : Nat :=
  match response with
  | .obj body =>
    let counted : Except PyError Nat := do
      let choices ← sumOver (fieldOf body "choices") messageCalls
      let blocks ← sumOver (fieldOf body "content") fun block => .ok (isToolUse block).toNat
      let candidates ← sumOver (fieldOf body "candidates") candidateCalls
      return choices + blocks + candidates
    match counted with
    | .ok count => count
    | .error _ => 0
  | _ => 0

/-! ## A stream -/

abbrev SetKey := Str ⊕ Flt

/-- `set.add` of a value that is not None. -/
def setKey : Json → Except PyError (Option SetKey)
  | .null => .ok none
  | .str s => .ok (some (.inl s))
  | .bool b => .ok (some (.inr (.fin b.toInt)))
  | .int n => .ok (some (.inr (.fin n)))
  | .float x => .ok (some (.inr x))
  | .arr _ | .obj _ => .error .typeError

/-- What a line adds: a key of an OpenAI call, or one to the count. -/
inductive Tick where
  | call (key : SetKey)
  | one

/-- What a loop over a value adds, up to the first exception. -/
def ticksOver (value : Json) (ticks : Json → List (Except PyError Tick)) : List (Except PyError Tick) :=
  match iterate (value.orElse (.arr [])) with
  | .ok items => items.flatMap ticks
  | .error error => [.error error]

def entryTicks : Json → List (Except PyError Tick)
  | .obj entry =>
    match setKey (Fields.getD entry "index" (fieldOf entry "id")) with
    | .ok (some key) => [.ok (.call key)]
    | .ok none => []
    | .error error => [.error error]
  | _ => []

def choiceTicks (choice : Json) : List (Except PyError Tick) :=
  match objectOrEmpty choice with
  | .error error => [.error error]
  | .ok choice =>
    match objectOrEmpty (fieldOf choice "delta") with
    | .error error => [.error error]
    | .ok delta => ticksOver (fieldOf delta "tool_calls") entryTicks

def blockTicks (data : Fields) : List (Except PyError Tick) :=
  if (fieldOf data "type").isText "content_block_start" &&
      isToolUse ((fieldOf data "content_block").orElse (.obj [])) then [.ok .one]
  else []

def partTicks (part : Json) : List (Except PyError Tick) :=
  if isFunctionCall part then [.ok .one] else []

def candidateTicks (candidate : Json) : List (Except PyError Tick) :=
  match objectOrEmpty candidate with
  | .error error => [.error error]
  | .ok candidate =>
    match objectOrEmpty (fieldOf candidate "content") with
    | .error error => [.error error]
    | .ok content => ticksOver (fieldOf content "parts") partTicks

def eventTicks (data : Fields) : List (Except PyError Tick) :=
  ticksOver (fieldOf data "choices") choiceTicks ++ blockTicks data ++
    ticksOver (fieldOf data "candidates") candidateTicks

/-- An exception ends a line; what it has added stays. -/
def untilError : List (Except PyError Tick) → List Tick
  | .ok tick :: ticks => tick :: untilError ticks
  | _ => []

def streamToolMarkers : List Str := ["\"tool_calls\"", "\"tool_use\"", "\"functionCall\""]

def marked (text : Str) : Bool := streamToolMarkers.any fun marker => contains marker text

/-- The payload of a stripped line, which may be Google's raw NDJSON. -/
def toolPayload (line : Str) : Option Str :=
  if startsWith "data:" line then some (strip (line.drop 5))
  else if startsWith "\x7b" line then some line
  else none

def lineTicks (loads : Str → Option Json) (line : Str) : List Tick :=
  match toolPayload (strip line) with
  | none => []
  | some text =>
    if !marked text then []
    else match loads text with
    | some (.obj data) => untilError (eventTicks data)
    | _ => []

def Tick.key : Tick → Option SetKey
  | call key => some key
  | one => none

/-- The keys are a set, and the others are counted. -/
def tally (ticks : List Tick) : Nat :=
  (ticks.filterMap Tick.key).toFinset.card + ticks.countP fun tick => tick.key.isNone

def countToolCallsInStream (loads : Str → Option Json) (rawBuffer : Str) : Nat :=
  if !marked rawBuffer then 0
  else tally ((splitlines rawBuffer).flatMap (lineTicks loads))

end BurnLens.Providers
