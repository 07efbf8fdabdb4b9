import Quadstack.Text.Numeral

/-!
What the command line asks for. Arguments are read before any file is: a command line that is not
understood is answered with one complaint, about the first thing that is wrong with it, and
nothing is read or executed.
-/

namespace Quadstack

/-- A command line that was understood. -/
inductive Request where
  /-- Execute the program in a file. -/
  | run (path : String) (stepLimit : Option Nat)
  /-- Show the listing of the program in a file. -/
  | dump (path : String)
  | help
deriving DecidableEq

/-- Why a command line is answered with a complaint. -/
inductive Complaint where
  | noCommand
  | unknownCommand (name : String)
  | runWithoutFile
  | dumpWithoutFile
  /-- The last argument announces a step count. -/
  | missingStepCount
  | invalidStepCount (text : String)
  | unexpectedArgument (text : String)
  /-- The file could not be read, with the reason that the system gives. -/
  | unreadable (path reason : String)
deriving DecidableEq

/-- The general help. -/
def Complaint.usage : String :=
  "Usage: claw <command> [args]\n" ++
  "\n" ++
  "Commands:\n" ++
  "  run <program.bin> [--max-steps N]   Execute a program\n" ++
  "  dump <program.bin>                  Print a decoded listing\n" ++
  "  help                                Show this message\n" ++
  "\n" ++
  "Set CLAW_LOG=debug or CLAW_LOG=trace for execution logs.\n"

def Complaint.message : Complaint → String
  | .noCommand => usage
  | .unknownCommand name => "error: unknown command '" ++ name ++ "'\n\n" ++ usage
  | .runWithoutFile =>
    "error: run requires an input file\nUsage: claw run <program.bin> [--max-steps N]\n"
  | .dumpWithoutFile =>
    "error: dump requires an input file\nUsage: claw dump <program.bin>\n"
  | .missingStepCount => "error: --max-steps requires a value\n"
  | .invalidStepCount text => "error: invalid step count '" ++ text ++ "'\n"
  | .unexpectedArgument text => "error: unexpected argument '" ++ text ++ "'\n"
  | .unreadable path reason => "error: cannot read '" ++ path ++ "': " ++ reason ++ "\n"

namespace Request

/-- One past the largest step count. -/
def stepCountBound : Nat := 0x10000000000000000

/-- The digits of a step count: what follows an optional plus sign. -/
def stepCountDigits : List Char → List Char
  | '+' :: digits => digits
  | digits => digits

/-- Reads a step count: one decimal digit or more, with at most one plus sign in front, and a value
that fits in 64 bits. -/
def parseStepCount? (text : String) : Option Nat :=
  let digits := stepCountDigits text.toList
  let value := Nat.ofDigitChars 10 digits 0
  if digits ≠ [] ∧ digits.all Char.isDigit ∧ value < stepCountBound then some value else none

/-- Reads the arguments after the file of a run. A later step count replaces an earlier one. -/
def parseFlags (stepLimit : Option Nat) : List String → Except Complaint (Option Nat)
  | [] => .ok stepLimit
  | flag :: rest =>
    if flag = "--max-steps" then
      match rest with
      | [] => .error .missingStepCount
      | text :: rest =>
        match parseStepCount? text with
        | some count => parseFlags (some count) rest
        | none => .error (.invalidStepCount text)
    else .error (.unexpectedArgument flag)

/-- Reads a command line. A listing takes its file and looks at nothing after it. -/
def parse : List String → Except Complaint Request
  | [] => .error .noCommand
  | command :: arguments =>
    if command = "run" then
      match arguments with
      | [] => .error .runWithoutFile
      | path :: flags => (parseFlags none flags).map (.run path)
    else if command = "dump" then
      match arguments with
      | [] => .error .dumpWithoutFile
      | path :: _ => .ok (.dump path)
    else if command = "help" ∨ command = "--help" ∨ command = "-h" then .ok .help
    else .error (.unknownCommand command)

end Request

end Quadstack
