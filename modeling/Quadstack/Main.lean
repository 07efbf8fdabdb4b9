import Quadstack.CommandLine.Response

/-!
The command line program. It reads files, lets the library decide, and prints. A program that is
executed may run for ever, so its debug output is passed on after every instruction instead
of being kept until the end.
-/

namespace Quadstack.Main

/-- The contents of a file, or the reason why there are none. -/
def readImage (path : String) : IO (Except String Image) := do
  try
    let bytes ← IO.FS.readBinFile path
    return .ok bytes.data
  catch error =>
    match error with
    | .noFileOrDirectory .. => return .error "No such file or directory (os error 2)"
    | other => return .error other.toString

/-- Writes bytes to standard output at once. -/
def writeOutput (bytes : Array UInt8) : IO Unit := do
  unless bytes.isEmpty do
    let stdout ← IO.getStdout
    stdout.write ⟨bytes⟩
    stdout.flush

/-- Passes on the debug output so far. Output that cannot be written is lost and the run goes on,
as with any sink that refuses. Nobody reads the journal here, so it is dropped. -/
def passOn (engine : PlainEngine) : IO PlainEngine := do
  try writeOutput engine.output.bytes catch _ => pure ()
  return { engine with output := ByteLog.empty }.clearJournal

/-- Executes instructions until one halts or faults. -/
partial def drive (program : Image) (engine : PlainEngine) : IO (Outcome × PlainEngine) := do
  match Engine.step program engine with
  | .ok none after => drive program (← passOn after)
  | .ok (some halt) after => return (.ok halt, ← passOn (after.conclude halt))
  | .error fault after => return (.error (after.latchedFault fault), ← passOn (after.latch fault))

/-- Prints an answer and gives its exit code. -/
def answer (response : Response) : IO UInt32 := do
  writeOutput response.output.toArray
  IO.eprint response.report
  return response.exitCode.toUInt32

/-- Reads a file and answers with what becomes of it. -/
def withImage (path : String) (respond : Image → IO Response) : IO UInt32 := do
  match ← readImage path with
  | .error reason => answer (.ofComplaint (.unreadable path reason))
  | .ok image => answer (← respond image)

end Quadstack.Main

open Quadstack Quadstack.Main in
def main (arguments : List String) : IO UInt32 := do
  match Request.parse arguments with
  | .error complaint => answer (.ofComplaint complaint)
  | .ok .help => answer .ofHelp
  | .ok (.dump path) => withImage path fun image => return .ofListing image
  | .ok (.run path stepLimit) =>
    withImage path fun program => do
      let (outcome, engine) ← drive program (PlainEngine.start stepLimit).reset
      return .ofRun outcome engine
