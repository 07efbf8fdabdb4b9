import Quadstack.Text.Numeral
import Quadstack.Word.Width

/-!
Debug output. Two families of instructions emit something: a text that stands in the program, or a
value taken off a stack. Each is one event, handed to a sink of the caller's choice. A sink may
refuse an event with a reason; the run takes no notice beyond a warning in the journal, so
what a sink does never shows in the machine's state.
-/

namespace Quadstack

/-- One piece of debug output. -/
inductive DebugEvent where
  | text (bytes : List UInt8)
  | value (width : Width) (value : UInt32)
deriving DecidableEq

/-- The bytes of an event where output is a stream of bytes: a text as it is, a value in unsigned
decimal on a line of its own. -/
def DebugEvent.toBytes : DebugEvent → List UInt8
  | .text bytes => bytes
  | .value _ number => (Numeral.decimal number.toNat ++ "\n").toUTF8.data.toList

/-- A receiver of debug output with state `σ`, which takes one event after another and may refuse
with a reason. -/
class OutputSink (σ : Type) where
  receive : DebugEvent → EStateM String σ Unit

/-! ### A sink that keeps every byte -/

/-- A growing string of bytes. -/
structure ByteLog where
  bytes : Array UInt8
deriving DecidableEq

def ByteLog.empty : ByteLog where
  bytes := #[]

def ByteLog.append (log : ByteLog) (bytes : List UInt8) : ByteLog where
  bytes := log.bytes ++ bytes

instance : OutputSink ByteLog where
  receive event := fun log => .ok () (log.append event.toBytes)

/-! ### A sink with limited room -/

/-- What a writer does with a write when it has no room left: it fails, or it writes nothing. -/
inductive FullWriter where
  | fails
  | stalls
deriving DecidableEq

/-- The reason given for a write that could not be completed. -/
def FullWriter.reason : FullWriter → String
  | .fails => "sink full"
  | .stalls => "failed to write whole buffer"

/-- A writer that takes `limit` bytes in all. -/
structure BoundedWriter where
  limit : Nat
  whenFull : FullWriter
  accepted : Array UInt8 := #[]
deriving DecidableEq

/-- Writes as much as there is room for, and reports whether that was everything. Nothing is
needed to write no bytes. -/
def BoundedWriter.write (bytes : List UInt8) : EStateM String BoundedWriter Unit :=
  fun writer =>
    let room := writer.limit - writer.accepted.size
    let after := { writer with accepted := writer.accepted ++ bytes.take room }
    if bytes.length ≤ room then .ok () after else .error writer.whenFull.reason after

instance : OutputSink BoundedWriter where
  receive event := BoundedWriter.write event.toBytes

/-! ### A sink that keeps the events apart -/

/-- The events received, oldest first. -/
structure EventLog where
  events : Array DebugEvent := #[]
deriving DecidableEq

instance : OutputSink EventLog where
  receive event := fun log => .ok () { events := log.events.push event }

end Quadstack
