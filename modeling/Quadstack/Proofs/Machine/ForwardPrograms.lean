import Mathlib
import Quadstack.Proofs.Machine.Landing
import Quadstack.Proofs.Machine.Transcript

/-!
Programs that only go forward. A run has no bound of its own: it is the budget that keeps a program
which goes in circles from running forever. A program without jumps, calls and returns whose
branches all lead ahead needs no budget, for whatever its instructions do, each of them leaves at
least two bytes behind, the two of its own word. So the instructions of a run stand at offsets that
grow, and there are at most half as many of them as the program has bytes.

The words are looked at from every offset and not only along a listing, since a branch may lead into
the middle of an operand.
-/

namespace Quadstack

/-! ### Programs without a way back -/

namespace Image

/-- An operation, met at an offset, goes on to a later place: it is no transfer to an address from
the stacks, and if it is a branch with a distance, the distance is not negative. -/
def GoesForward (program : Image) (start : Nat) : Operation → Prop
  | .jump _ | .call | .ret => False
  | .branch _ => ∀ bytes ∈ program.slice? (start + Instruction.wordBytes) Width.w16.bytes,
      0 ≤ (Instruction.wordOfBytes bytes).toInt16.toInt
  | _ => True

instance (program : Image) (start : Nat) :
    (operation : Operation) → Decidable (program.GoesForward start operation)
  | .jump _ | .call | .ret => inferInstanceAs (Decidable False)
  | .branch _ => inferInstanceAs (Decidable (∀ bytes ∈ program.slice? _ _, _))
  | .nop | .literal _ | .copy _ | .move _ | .swap _ | .peekDeep _ | .stackPointer | .delete _
  | .arith _ _ | .shift _ _ | .logic _ _ | .unary _ _ | .halt _ | .debugText | .debugValue _
  | .reserved => inferInstanceAs (Decidable True)

/-- Wherever in the program a word is read, its operation goes forward. -/
def ForwardOnly (program : Image) : Prop :=
  ∀ start, ∀ bytes ∈ program.slice? start Instruction.wordBytes,
    program.GoesForward start (Engine.instructionAt bytes).operation

theorem forwardOnly_iff {program : Image} :
    program.ForwardOnly ↔
      ∀ start < program.size, ∀ bytes ∈ program.slice? start Instruction.wordBytes,
        program.GoesForward start (Engine.instructionAt bytes).operation := by
  refine ⟨fun forward start _ => forward start, fun forward start bytes read => ?_⟩
  have inside : start + Instruction.wordBytes ≤ program.size := le_size_of_slice? read
  exact forward start (by rw [Instruction.wordBytes] at inside; omega) bytes read

instance (program : Image) : Decidable program.ForwardOnly :=
  decidable_of_iff _ forwardOnly_iff.symm

end Image

/-! ### Steps and runs forward -/

namespace Engine

variable {σ π : Type} {program : Image} {engine after : Engine σ π} {instruction : Instruction}

theorem Executes.goesForward (executes : engine.Executes program instruction)
    (forward : program.ForwardOnly) :
    program.GoesForward engine.pc instruction.operation := by
  obtain ⟨_, _, bytes, read, rfl⟩ := executes
  exact forward engine.pc bytes read

variable [OutputSink σ] [Peripheral π]

/-- An instruction that is no transfer ends behind its operand. -/
theorem Executes.pc_of_still (executes : engine.Executes program instruction)
    (still : instruction.operation.isTransfer = false)
    (stepped : step program engine = .ok none after) : engine.pc + 2 ≤ after.pc := by
  cases found : program.operandAt? (engine.pc + Instruction.wordBytes)
      instruction.operation.inlineOperand? with
  | none =>
    rw [executes.step_of_missing found] at stepped
    cases stepped
  | some operand =>
    have place := executes.place_of_still still found
    rw [stepped] at place
    exact (Nat.le_add_right _ operand.size).trans (congrArg Prod.fst place).ge

/-- A step of a program that only goes forward leaves a word behind. -/
theorem pc_of_forward (forward : program.ForwardOnly)
    (stepped : step program engine = .ok none after) : engine.pc + 2 ≤ after.pc := by
  obtain ⟨instruction, executes⟩ := executes_of_going stepped
  have ahead := executes.goesForward forward
  cases operation : instruction.operation with
  | jump _ | call | ret =>
    rw [operation] at ahead
    exact absurd ahead id
  | branch condition =>
    rw [operation] at ahead
    rcases executes.branch_cases operation with ⟨distance, read, done⟩ | ⟨_, failed⟩
    · obtain ⟨bytes, found, rfl⟩ := Option.map_eq_some_iff.mp read
      have far := ahead bytes found
      rw [stepped] at done
      split at done
      · split at done
        · cases done
        · cases done
          dsimp only
          rw [branchEnd, Instruction.wordBytes, Width.bytes]
          omega
      · cases done
        exact Nat.le_add_right _ 2
    · rw [stepped] at failed
      cases failed
  | _ => exact executes.pc_of_still (by rw [operation]; rfl) stepped

/-- The counter counts the instructions that are executed. -/
theorem steps_standing (program : Image) (count : Nat) (engine : Engine σ π) :
    (engine.standing program count).2.steps =
      engine.steps + (engine.executed program count).length := by
  induction count generalizing engine with
  | zero => rfl
  | succ count inductionHypothesis =>
    have counted : (leftBy (step program engine)).steps =
        engine.steps + ((engine.executing? program).map (engine.pc, ·)).toList.length := by
      cases executing : engine.executing? program with
      | none =>
        rcases leftBy_step_of_idle executing with same | begun
        · rw [same]
          rfl
        · rw [begun]
          rfl
      | some instruction => exact (executing?_eq_some_iff.mp executing).steps
    rw [executed, seenAlong, List.length_append, ← Nat.add_assoc, ← counted, standing]
    cases step program engine with
    | ok halt? after =>
      cases halt? with
      | none => exact inductionHypothesis after
      | some halt => rfl
    | error fault after => rfl

/-- The offsets of a run forward start at the counter, grow, and leave no room for more instructions
than there are words up to the end of the program. -/
structure Advances (program : Image) (start : Nat) (offsets : List Nat) : Prop where
  start_le : ∀ offset ∈ offsets, start ≤ offset
  increasing : offsets.Pairwise (· < ·)
  words : 2 * offsets.length ≤ program.size - start

theorem Advances.nil (program : Image) (start : Nat) : Advances program start [] :=
  ⟨nofun, .nil, Nat.zero_le _⟩

theorem Advances.cons {start next : Nat} {offsets : List Nat} (behind : start + 2 ≤ next)
    (inside : start + 2 ≤ program.size) (rest : Advances program next offsets) :
    Advances program start (start :: offsets) where
  start_le := by
    rintro offset (_ | ⟨_, later⟩)
    · exact le_rfl
    · exact le_trans (by omega) (rest.start_le offset later)
  increasing := by
    refine .cons (fun offset later => ?_) rest.increasing
    exact lt_of_lt_of_le (by omega) (rest.start_le offset later)
  words := by
    have words := rest.words
    rw [List.length_cons]
    omega

/-- A run of a program that only goes forward advances. -/
theorem advances_of_forward (forward : program.ForwardOnly) (count : Nat) (engine : Engine σ π) :
    Advances program engine.pc ((engine.executed program count).map Prod.fst) := by
  induction count generalizing engine with
  | zero => exact .nil program _
  | succ count inductionHypothesis =>
    rw [executed, seenAlong]
    cases executing : engine.executing? program with
    | none =>
      cases stepped : step program engine with
      | ok halt? after =>
        cases halt? with
        | none =>
          obtain ⟨instruction, executes⟩ := executes_of_going stepped
          rw [executing?_eq_some_iff.mpr executes] at executing
          cases executing
        | some halt => exact .nil program _
      | error fault after => exact .nil program _
    | some instruction =>
      have inside := (executing?_eq_some_iff.mp executing).le_size
      cases stepped : step program engine with
      | ok halt? after =>
        cases halt? with
        | none => exact .cons (pc_of_forward forward stepped) inside (inductionHypothesis after)
        | some halt => exact .cons le_rfl inside (.nil program _)
      | error fault after => exact .cons le_rfl inside (.nil program _)

theorem steps_of_forward (forward : program.ForwardOnly) (count : Nat) (engine : Engine σ π) :
    (engine.reset.standing program count).2.steps ≤ program.size / 2 := by
  have words := (advances_of_forward forward count engine.reset).words
  rw [List.length_map] at words
  have counted := steps_standing program count engine.reset
  rw [show engine.reset.steps = 0 from rfl, Nat.zero_add] at counted
  omega

/-- A run of a program that only goes forward ends, whatever the step limit, the sink and the
peripheral. It executes at most one instruction for every two bytes of the program, and these stand
at offsets that increase from one to the next. -/
theorem forward_program_ends (program : Image) (forward : program.ForwardOnly)
    (engine : Engine σ π) :
    ∃ outcome final, final.steps ≤ program.size / 2 ∧
      ∀ fuel, program.size / 2 < fuel →
        run? program fuel engine = some (outcome, final) ∧
        (engine.reset.executed program fuel).length = final.steps ∧
        ((engine.reset.executed program fuel).map Prod.fst).Pairwise (· < ·) := by
  -- A run that went on would have executed an instruction for each step.
  have ends : ∃ outcome final,
      engine.reset.standing program (program.size / 2 + 1) = (some outcome, final) := by
    rcases stands : engine.reset.standing program (program.size / 2 + 1) with ⟨_ | outcome, final⟩
    · have counted : final.steps = 0 + (program.size / 2 + 1) :=
        congrArg Prod.fst (ledger_of_going stands)
      have few := steps_of_forward forward (program.size / 2 + 1) engine
      rw [stands] at few
      exact absurd few (by dsimp only; omega)
    · exact ⟨outcome, final, rfl⟩
  obtain ⟨outcome, final, ended⟩ := ends
  refine ⟨outcome, final, ?_, fun fuel enough => ?_⟩
  · have few := steps_of_forward forward (program.size / 2 + 1) engine
    rwa [ended] at few
  · have stands := standing_of_ended ended enough
    have counted := steps_standing program fuel engine.reset
    rw [stands, show engine.reset.steps = 0 from rfl, Nat.zero_add] at counted
    exact ⟨continue?_eq_some_iff.mpr stands, counted.symm,
      (advances_of_forward forward fuel engine.reset).increasing⟩

/-- A branch leads into the operand of a literal, and the run goes on from there to the end. -/
theorem forward_program_ends_branch :
    ∃ program : Image, program.toList = [0x80, 0x11, 2, 0, 0x61, 0, 0, 0, 0, 0] ∧
      program.ForwardOnly ∧
      ∃ outcome final, final.steps ≤ 5 ∧
        run? program 6 (Engine.new ByteLog.empty NoPeripheral.mk) = some (outcome, final) := by
  let program : Image := #[0x80, 0x11, 2, 0, 0x61, 0, 0, 0, 0, 0]
  have forward : program.ForwardOnly := by decide +kernel
  obtain ⟨outcome, final, few, ends⟩ :=
    forward_program_ends program forward (Engine.new ByteLog.empty NoPeripheral.mk)
  have half : program.size / 2 = 5 := by decide
  exact ⟨program, rfl, forward, outcome, final, half ▸ few, (ends 6 (by decide)).1⟩

end Engine

end Quadstack
