import Quadstack.Machine.Run
import Quadstack.Machine.ScriptedPeripheral

/-!
Sessions: one engine, with its output in memory and a scripted peripheral, used for one thing after
another. A session shows what outlives a run and what does not.
-/

namespace Quadstack

/-- The engine of a session. -/
abbrev Session := Engine ByteLog ScriptedPeripheral

/-- Something to do in a session. -/
inductive SessionAction where
  | run (program : Image)
  | reset
  | setStepLimit (limit : Option Nat)
  /-- A new peripheral with this script, which has seen nothing yet. -/
  | setScript (rules : List ScriptRule)
  | clearOutput
  | writeOutput (bytes : List UInt8)

namespace Session

/-- A session before its first action. -/
def start : Session := Engine.new ByteLog.empty {}

/-- The session after an action, and the outcome if the action was a run. There is none when a run
does not end on the fuel given. -/
def perform? (session : Session) (fuel : Nat) :
    SessionAction → Option (Option Outcome × Session)
  | .run program => (session.run? program fuel).map fun (outcome, after) => (some outcome, after)
  | .reset => some (none, Engine.reset session)
  | .setStepLimit limit => some (none, session.withStepLimit limit)
  | .setScript rules => some (none, session.withPeripheral { rules })
  | .clearOutput => some (none, { session with output := ByteLog.empty })
  | .writeOutput bytes => some (none, { session with output := session.output.append bytes })

end Session

end Quadstack
