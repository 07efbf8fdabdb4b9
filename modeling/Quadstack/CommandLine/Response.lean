import Quadstack.CommandLine.Request
import Quadstack.Image.Listing
import Quadstack.Machine.Run

/-!
What the command line answers. The debug output of a run, or a listing, goes to standard output,
and everything said about it to standard error: after a run, the bytes left on the four
stacks and one line that sums up how it ended. The exit code is 0 for success, 1 for a
complaint and 3 for a fault.
-/

namespace Quadstack

/-- An answer: an exit code and what goes to the two standard streams. -/
structure Response where
  exitCode : UInt8
  output : List UInt8
  report : String
deriving DecidableEq

/-- The engine that the command line runs programs on. -/
abbrev PlainEngine := Engine ByteLog NoPeripheral

namespace Response

/-- A stack's line: its live bytes in hexadecimal, bottom first. -/
def stackLine (bank : StackBank) (id : StackId) : String :=
  "s" ++ Numeral.decimal id ++ ": [" ++
    String.intercalate " " ((bank.contents id).map Numeral.byte) ++ "]\n"

/-- The lines of the four stacks. -/
def stackLines (bank : StackBank) : String :=
  String.join (StackBank.ids.map (stackLine bank))

/-- The reason for a halt in the summary, where it does not matter which condition held. -/
def haltReason : HaltReason → String
  | .ended _ => "end"
  | .landed => "landed at end of program"

/-- The line that sums up a run. -/
def summary (outcome : Outcome) (steps : Nat) : String :=
  match outcome with
  | .ok halt =>
    "halted at " ++ Numeral.offset halt.offset ++ " (" ++ haltReason halt.reason ++ ") after " ++
      Numeral.decimal steps ++ " steps\n"
  | .error fault => "fault: " ++ fault.message ++ "\n"

def exitCodeOf : Outcome → UInt8
  | .ok _ => 0
  | .error _ => 3

/-- The answer to a command line that was not understood or names a file that cannot be read. -/
def ofComplaint (complaint : Complaint) : Response where
  exitCode := 1
  output := []
  report := complaint.message

def ofHelp : Response where
  exitCode := 0
  output := []
  report := Complaint.usage

def ofListing (image : Image) : Response where
  exitCode := 0
  output := image.listing.toUTF8.data.toList
  report := ""

/-- The answer after a run. -/
def ofRun (outcome : Outcome) (engine : PlainEngine) : Response where
  exitCode := exitCodeOf outcome
  output := engine.output.bytes.toList
  report := stackLines engine.bank ++ summary outcome engine.steps

end Response

/-- A new engine for a run from the command line. -/
def PlainEngine.start (stepLimit : Option Nat) : PlainEngine :=
  (Engine.new ByteLog.empty {}).withStepLimit stepLimit

/-- Answers a command line, given what reading a file yields. There is no answer when a run does not
end on the fuel given. -/
def Response.respond? (read : String → Except String Image) (fuel : Nat)
    (arguments : List String) : Option Response :=
  match Request.parse arguments with
  | .error complaint => some (ofComplaint complaint)
  | .ok .help => some ofHelp
  | .ok (.dump path) =>
    match read path with
    | .error reason => some (ofComplaint (.unreadable path reason))
    | .ok image => some (ofListing image)
  | .ok (.run path stepLimit) =>
    match read path with
    | .error reason => some (ofComplaint (.unreadable path reason))
    | .ok program =>
      ((PlainEngine.start stepLimit).run? program fuel).map fun (outcome, engine) =>
        ofRun outcome engine

end Quadstack
