import Quadstack.Machine.Outcome
import Quadstack.Stack.TracedBank

/-!
The journal: what the machine reports while it works, in the order in which it happens. Messages are
kept as data and put into words only when somebody reads them at a level; a level shows the
messages of its own importance and of every greater one.
-/

namespace Quadstack

/-- The importance of a message, greatest first. -/
inductive Level where
  | warn
  | debug
  | trace
deriving DecidableEq

namespace Level

/-- How much a level shows: one more kind of message than the level before it. -/
def verbosity : Level → Nat
  | .warn => 0
  | .debug => 1
  | .trace => 2

def name : Level → String
  | .warn => "WARN"
  | .debug => "DEBUG"
  | .trace => "TRACE"

end Level

/-- One report. -/
inductive Message where
  /-- A value went onto a stack or came off it. -/
  | moved (move : StackMove)
  /-- An instruction's word was read and its execution begins. -/
  | began (offset : Nat) (instruction : Instruction)
  /-- The state went back to the start of a run. -/
  | reset
  | halted (halt : Halt) (steps : Nat)
  | faulted (fault : Fault) (steps : Nat)
  /-- An instruction goes to the peripheral. -/
  | delegated (offset : Nat) (code : UInt16)
  /-- The output sink refused a piece of debug output; the run goes on. -/
  | outputFailed (offset : Nat) (reason : String)
deriving DecidableEq

namespace Message

def level : Message → Level
  | .moved _ => .trace
  | .began _ _ => .trace
  | .reset => .debug
  | .halted _ _ => .debug
  | .faulted _ _ => .debug
  | .delegated _ _ => .debug
  | .outputFailed _ _ => .warn

def text : Message → String
  | .moved move => move.text
  | .began offset instruction =>
    Numeral.offset offset ++ ": " ++ instruction.operation.inspect ++
      " s" ++ Numeral.decimal instruction.source.toNat ++
      " d" ++ Numeral.decimal instruction.destination.toNat ++
      " (code " ++ Numeral.code instruction.code ++ ")"
  | .reset => "engine reset"
  | .halted halt steps =>
    "halt at " ++ Numeral.offset halt.offset ++ " (" ++ halt.reason.inspect ++ ") after " ++
      Numeral.decimal steps ++ " steps"
  | .faulted fault steps =>
    "fault after " ++ Numeral.decimal steps ++ " steps: " ++ fault.message
  | .delegated offset code =>
    "reserved opcode " ++ Numeral.code code ++ " at " ++ Numeral.offset offset ++ " delegated"
  | .outputFailed offset reason =>
    "debug output failed at " ++ Numeral.offset offset ++ ": " ++ reason

/-- The message with its level in front. -/
def line (message : Message) : String :=
  message.level.name ++ " " ++ message.text

end Message

/-- The messages so far, oldest first. -/
abbrev Journal := Array Message

/-- The lines that a reader at the given level sees. -/
def Journal.linesAt (journal : Journal) (level : Level) : List String :=
  (journal.toList.filter fun message => message.level.verbosity ≤ level.verbosity).map
    Message.line

end Quadstack
