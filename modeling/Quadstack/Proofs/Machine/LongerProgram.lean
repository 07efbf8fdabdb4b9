import Mathlib
import Quadstack.Proofs.Machine.Emissions

/-!
A program with more bytes behind it. How long a program is shows in two places: a read may find that
bytes are missing, and a transfer of control may lead exactly to the end. Either ends the run, and
in a way that can be told from all others. A run that ends otherwise has found every byte it
asked for and was never at the end, so on a longer program it reads the same bytes and comes to
the same end, state and all.
-/

namespace Quadstack

/-! ### Reading a longer image -/

namespace Image

variable {image : Image} {start : Nat}

/-- Bytes that end inside an image are cut from it alone. -/
theorem extract_append_of_le {stop : Nat} (inside : stop ≤ image.size) (extra : Image) :
    (image ++ extra).extract start stop = image.extract start stop := by
  rw [Array.extract_append, Nat.sub_eq_zero_of_le inside, Array.extract_zero, Array.append_empty]

theorem slice?_append {count : Nat} {bytes : List UInt8}
    (read : image.slice? start count = some bytes) (extra : Image) :
    (image ++ extra).slice? start count = some bytes := by
  have inside := le_size_of_slice? read
  have insideToo : start + count ≤ (image ++ extra).size := by
    rw [Array.size_append]
    exact Nat.le_add_right_of_le inside
  rw [← read, slice?, slice?, if_pos inside, if_pos insideToo, extract_append_of_le inside]

theorem zeroFrom?_append {stop : Nat} (found : image.zeroFrom? start = some stop)
    (extra : Image) : stop < image.size ∧ (image ++ extra).zeroFrom? start = some stop := by
  rw [zeroFrom?_eq] at found ⊢
  obtain ⟨length, place, rfl⟩ := Option.map_eq_some_iff.mp found
  have before := (List.findIdx?_eq_some_iff_getElem.mp place).1
  rw [List.length_drop, Array.length_toList] at before
  refine ⟨by omega, ?_⟩
  rw [Array.toList_append, List.drop_append, List.findIdx?_append, place, Option.some_or,
    Option.map_some]

/-- An operand that is all there stays what it is when bytes follow. -/
theorem operandAt?_append {kind : Option InlineOperand} {operand : Listing.Operand}
    (found : image.operandAt? start kind = some operand) (extra : Image) :
    (image ++ extra).operandAt? start kind = some operand := by
  cases kind with
  | none => exact found
  | some kind =>
    cases kind with
    | literal width | offset =>
      obtain ⟨bytes, read, rfl⟩ := Option.map_eq_some_iff.mp found
      exact Option.map_eq_some_iff.mpr ⟨bytes, slice?_append read extra, rfl⟩
    | text =>
      obtain ⟨stop, ended, rfl⟩ := Option.map_eq_some_iff.mp found
      obtain ⟨inside, endedToo⟩ := zeroFrom?_append ended extra
      refine Option.map_eq_some_iff.mpr ⟨stop, endedToo, ?_⟩
      rw [extract_append_of_le (Nat.le_of_lt inside)]

end Image

/-! ### Ends that have nothing to do with the length -/

/-- A fault of the instruction at hand: no byte was missing, no place out of reach and no budget
used up. -/
def Fault.isOwn : Fault → Bool
  | .stackOverflow _ _ | .stackUnderflow _ _ | .divisionByZero _ => true
  | .insufficientPermissions _ _ => true
  | .targetOutOfBounds _ | .stepLimitExceeded _ _ => false

/-- A normal end by a halting instruction. -/
def Halt.isOwn (halt : Halt) : Bool :=
  match halt.reason with
  | .ended _ => true
  | .landed => false

/-- An end that an instruction of the program brought about by itself. -/
def Outcome.isOwn : Outcome → Bool
  | .ok halt => halt.isOwn
  | .error fault => fault.isOwn

/-- Whether a step has gone on or has come to such an end. -/
def StaysInside {S : Type} : EStateM.Result Fault S (Option Halt) → Bool
  | .ok none _ => true
  | .ok (some halt) _ => halt.isOwn
  | .error fault _ => fault.isOwn

namespace Engine

variable {σ π : Type} {program : Image} {engine : Engine σ π} {instruction : Instruction}

/-- An instruction that is executed is also executed when bytes follow the program. Its word ends
inside the program, so the end of the longer one is not where the counter stands. -/
theorem Executes.append (executes : engine.Executes program instruction) (extra : Image) :
    engine.Executes (program ++ extra) instruction := by
  obtain ⟨_, unspent, bytes, read, spelled⟩ := executes
  refine ⟨?_, unspent, bytes, Image.slice?_append read extra, spelled⟩
  rintro ⟨_, atEnd⟩
  have inside := Image.le_size_of_slice? read
  rw [atEnd, Array.size_append, Instruction.wordBytes] at inside
  omega

variable [OutputSink σ] [Peripheral π]

/-- A step that stays inside has executed an instruction and found its operand. -/
theorem executes_of_staysInside (stays : StaysInside (step program engine) = true) :
    ∃ instruction operand, engine.Executes program instruction ∧
      program.operandAt? (engine.pc + Instruction.wordBytes)
        instruction.operation.inlineOperand? = some operand := by
  have shape := step_shape program engine
  generalize stepped : step program engine = result at shape stays
  cases shape with
  | landed _ => cases stays
  | spent _ _ _ => cases stays
  | wordless _ _ _ => cases stays
  | executed bytes flying unspent read =>
    have executes : engine.Executes program (instructionAt bytes) :=
      ⟨flying, unspent, bytes, read, rfl⟩
    cases found : program.operandAt? (engine.pc + Instruction.wordBytes)
        (instructionAt bytes).operation.inlineOperand? with
    | some operand => exact ⟨_, operand, executes, found⟩
    | none =>
      rw [← stepped, executes.step_of_missing found] at stays
      cases stays

/-- Such a step is the same when bytes follow the program. -/
theorem step_append (stays : StaysInside (step program engine) = true) (extra : Image) :
    step (program ++ extra) engine = step program engine ∧
      engine.executing? (program ++ extra) = engine.executing? program := by
  obtain ⟨instruction, operand, executes, found⟩ := executes_of_staysInside stays
  constructor
  · rw [executes.step_of_found found,
      (executes.append extra).step_of_found (Image.operandAt?_append found extra)]
  · rw [executing?_eq_some_iff.mpr executes, executing?_eq_some_iff.mpr (executes.append extra)]

/-- A run that has come to no other end stands where it stands when bytes follow the program, and
has handed the same instructions to the peripheral. -/
theorem standing_append (program extra : Image) (count : Nat) (engine : Engine σ π)
    (clear : engine.fault = none)
    (own : ∀ outcome, (standing program count engine).1 = some outcome → outcome.isOwn = true) :
    standing (program ++ extra) count engine = standing program count engine ∧
      engine.dispatched (program ++ extra) count = engine.dispatched program count := by
  induction count generalizing engine with
  | zero => exact ⟨rfl, rfl⟩
  | succ count inductionHypothesis =>
    have latch := (ledger_leftBy_step program engine).2.2
    have stays : StaysInside (step program engine) = true := by
      rw [standing] at own
      cases stepped : step program engine with
      | ok halt? after =>
        rw [stepped] at own
        cases halt? with
        | none => rfl
        | some halt => exact own _ rfl
      | error fault after =>
        rw [stepped] at own latch
        have first : after.latchedFault fault = fault := by
          rw [latchedFault, show after.fault = none from latch.trans clear, Option.getD_none]
        have ends := own _ rfl
        rwa [first] at ends
    obtain ⟨same, sameToo⟩ := step_append stays extra
    have looks : engine.dispatch? (program ++ extra) = engine.dispatch? program := by
      rw [dispatch?, dispatch?, sameToo]
    rw [standing] at own ⊢
    rw [standing, dispatched, dispatched, seenAlong, seenAlong, same, looks]
    cases stepped : step program engine with
    | ok halt? after =>
      rw [stepped] at own latch
      cases halt? with
      | none =>
        obtain ⟨stands, hands⟩ := inductionHypothesis after (latch.trans clear) own
        exact ⟨stands, congrArg _ hands⟩
      | some halt => exact ⟨rfl, rfl⟩
    | error fault after => exact ⟨rfl, rfl⟩

end Engine

/-- Bytes behind a program that ends on its own change nothing. If a run ends by a halting
instruction, or by a fault of the stacks, of arithmetic or of the peripheral, then the run of the
program followed by any bytes, on the same engine, ends after as many steps with the same outcome
and in the same state, and hands the same instructions to the peripheral. -/
theorem appended_bytes_change_nothing {σ π : Type} [OutputSink σ] [Peripheral π]
    (program extra : Image) (fuel : Nat) (engine final : Engine σ π) (outcome : Outcome)
    (ended : engine.run? program fuel = some (outcome, final)) (own : outcome.isOwn = true) :
    engine.run? (program ++ extra) fuel = some (outcome, final) ∧
      engine.reset.dispatched (program ++ extra) fuel = engine.reset.dispatched program fuel := by
  have stands := Engine.continue?_eq_some_iff.mp ended
  have ends (other : Outcome)
      (reached : (engine.reset.standing program fuel).1 = some other) : other.isOwn = true := by
    rw [stands] at reached
    cases reached
    exact own
  obtain ⟨same, hands⟩ := Engine.standing_append program extra fuel engine.reset rfl ends
  exact ⟨Engine.continue?_eq_some_iff.mpr (same.trans stands), hands⟩

/-- An addition that finds one byte where it needs two is the end of its program and of every longer
one, also of one that would halt at the next word. -/
theorem appended_bytes_change_nothing_add :
    ∃ final : Engine ByteLog NoPeripheral,
      Engine.run? #[0x40, 0x00, 0x05, 0x00, 0x03] 2 (Engine.new ByteLog.empty NoPeripheral.mk) =
        some (.error (.stackUnderflow 3 0), final) ∧
      Engine.run? (#[0x40, 0x00, 0x05, 0x00, 0x03] ++ #[0x80, 0x12]) 2
        (Engine.new ByteLog.empty NoPeripheral.mk) =
        some (.error (.stackUnderflow 3 0), final) := by
  let program : Image := #[0x40, 0x00, 0x05, 0x00, 0x03]
  let engine : Engine ByteLog NoPeripheral := Engine.new ByteLog.empty NoPeripheral.mk
  have faults : (engine.run? program 2).map Prod.fst = some (.error (.stackUnderflow 3 0)) := by
    decide +kernel
  obtain ⟨⟨outcome, final⟩, ended, rfl⟩ := Option.map_eq_some_iff.mp faults
  obtain ⟨same, _⟩ := appended_bytes_change_nothing program #[0x80, 0x12] 2 engine final _ ended rfl
  exact ⟨final, ended, same⟩

end Quadstack
