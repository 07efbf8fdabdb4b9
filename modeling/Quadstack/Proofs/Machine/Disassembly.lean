import Mathlib
import Quadstack.Proofs.Image.ListingText
import Quadstack.Proofs.Machine.Operands

/-!
A listing and the machine. The two read an image independently: a listing learns from the operation
alone how long an operand is, and sweeps on behind it; the machine reads what each instruction
asks for while it executes it. They agree everywhere. A step begun where a line starts finds the
line's instruction and the line's operand and goes on from the line's end, whatever the stacks and
flags are, and a step begun where the end of the image cuts a line off faults at the byte from which
the listing could not read on.
-/

namespace Quadstack

variable {σ π : Type}

/-! ### Steps begun at a line -/

namespace Engine

variable {program : Image} {engine : Engine σ π}

/-- A word that is there is executed, as the end of the program is then still ahead. -/
theorem executes_of_word {bytes : List UInt8} (unspent : engine.spentLimit? = none)
    (read : program.slice? engine.pc Instruction.wordBytes = some bytes) :
    engine.Executes program (instructionAt bytes) where
  flying landing := by
    have inside := Image.le_size_of_slice? read
    rw [landing.2, Instruction.wordBytes] at inside
    omega
  unspent := unspent
  word := ⟨bytes, read, rfl⟩

end Engine

/-! ### Lines and steps -/

section

variable {image : Image} {engine : Engine σ π} {instruction : Instruction}

/-- At a whole line the machine finds the line's instruction and operand. -/
theorem executes_of_whole {operand : Listing.Operand} (unspent : engine.spentLimit? = none)
    (member : .whole engine.pc instruction operand ∈ Listing.sweep image) :
    engine.Executes image instruction ∧
      image.operandAt? (engine.pc + Instruction.wordBytes)
        instruction.operation.inlineOperand? = some operand := by
  rcases Listing.standsIn_of_mem_sweep member with ⟨read, found⟩
  exact ⟨Engine.executes_of_word unspent read, found⟩

theorem executes_of_cutOperand (unspent : engine.spentLimit? = none)
    (member : .cutOperand engine.pc instruction ∈ Listing.sweep image) :
    engine.Executes image instruction ∧
      image.operandAt? (engine.pc + Instruction.wordBytes)
        instruction.operation.inlineOperand? = none := by
  rcases Listing.standsIn_of_mem_sweep member with _ | ⟨read, missing⟩
  exact ⟨Engine.executes_of_word unspent read, missing⟩

variable [OutputSink σ] [Peripheral π]

/-- What a step completed at a whole line has done with the line's operand. -/
theorem operand_used {operand : Listing.Operand} {halt? : Option Halt} {after : Engine σ π}
    (completed : Exec.carryOut instruction operand (engine.fetched instruction operand) =
      .ok halt? after) :
    (∀ width value, operand = .literal width value →
      after.bank.contents instruction.destinationStack =
        engine.bank.contents instruction.destinationStack ++ width.toBytes value) ∧
    (∀ distance, operand = .offset distance →
      engine.flags.satisfies instruction.operation.condition = true →
      (after.pc : Int) = engine.pc + Instruction.wordBytes + operand.size + distance.toInt) ∧
    ∀ bytes, operand = .text bytes →
      after.output = leftBy (OutputSink.receive (.text bytes) engine.output) := by
  refine ⟨?_, ?_, ?_⟩
  · rintro width value rfl
    have pushed := Exec.contents_of_literal completed
    exact pushed
  · rintro distance rfl taken
    have gone := Exec.pc_of_offset (by exact taken) completed
    rw [gone, Engine.fetched]
    push_cast
    rfl
  · rintro bytes rfl
    have emitted := Exec.output_of_text completed
    exact emitted

/-- A listing and the machine agree on every image. The lines of the listing lie end to end from the
first byte on, up to the last or to the one line that the end cuts off; cut at its line breaks, the
text of the listing gives one piece for each line, which begins with the line's offset. A step
begun at a whole line executes the line's instruction, and has read the line's operand and
stands at the line's end before it does anything else: a literal that it pushes, a distance that
it goes and a text that it emits are the line's. A step begun at a line that is cut off faults, at
the line's start if half the word is missing and behind the word if the operand is. -/
theorem listing_agrees_with_steps (image : Image) :
    Listing.Contiguous image.size 0 (Listing.sweep image) ∧
    image.listing.toList.splitOn '\n' =
      (Listing.sweep image).map (fun line => line.text.toList) ++ [[]] ∧
    (∀ line ∈ Listing.sweep image, line.render = line.text ++ "\n" ∧
      (Numeral.hex 4 line.start ++ "  ").toList <+: line.text.toList) ∧
    ∀ engine : Engine σ π, engine.spentLimit? = none →
      (∀ instruction operand, .whole engine.pc instruction operand ∈ Listing.sweep image →
        engine.Executes image instruction ∧
        operand.kind = instruction.operation.inlineOperand? ∧
        engine.step image =
          Exec.carryOut instruction operand (engine.fetched instruction operand) ∧
        ∀ halt? after, engine.step image = .ok halt? after →
          (∀ width value, operand = .literal width value →
            after.bank.contents instruction.destinationStack =
              engine.bank.contents instruction.destinationStack ++ width.toBytes value) ∧
          (∀ distance, operand = .offset distance →
            engine.flags.satisfies instruction.operation.condition = true →
            (after.pc : Int) = engine.pc + Instruction.wordBytes + operand.size + distance.toInt) ∧
          ∀ bytes, operand = .text bytes →
            after.output = leftBy (OutputSink.receive (.text bytes) engine.output)) ∧
      (∀ instruction, .cutOperand engine.pc instruction ∈ Listing.sweep image →
        engine.Executes image instruction ∧
        engine.step image =
          .error (.targetOutOfBounds (engine.pc + Instruction.wordBytes))
            (engine.enter instruction)) ∧
      (.cutWord engine.pc ∈ Listing.sweep image →
        engine.step image = .error (.targetOutOfBounds engine.pc) engine.beginInstruction) := by
  refine ⟨Listing.sweep_contiguous image, Listing.splitOn_render _, fun line _ => ?_, ?_⟩
  · exact ⟨line.render_eq, line.text_begins⟩
  intro engine unspent
  refine ⟨fun instruction operand member => ?_, fun instruction member => ?_, fun member => ?_⟩
  · obtain ⟨executes, found⟩ := executes_of_whole unspent member
    have stepped := executes.step_of_found found
    refine ⟨executes, Image.kind_of_operandAt? found, stepped, fun halt? after completed => ?_⟩
    exact operand_used (stepped.symm.trans completed)
  · obtain ⟨executes, missing⟩ := executes_of_cutOperand unspent member
    exact ⟨executes, executes.step_of_missing missing⟩
  · rcases Listing.standsIn_of_mem_sweep member with _ | _ | ⟨last⟩
    refine Engine.step_of_wordless unspent (fun landing => ?_) ?_
    · have atEnd := landing.2
      omega
    · rw [← last]
      exact Nat.lt_succ_self _

end

/-- A text that is a line break, and a literal of which one byte is missing: two lines, and the step
begun at the second faults behind its word. -/
theorem listing_agrees_with_steps_cut :
    ∃ (image : Image) (engine : Engine ByteLog NoPeripheral),
      Listing.sweep image = [.whole 0 ⟨0x008, 0, 0⟩ (.text [0x0a]), .cutOperand 4 ⟨0x005, 0, 0⟩] ∧
      (image.listing.toList.splitOn '\n').length = 3 ∧ engine.pc = 4 ∧
      engine.step image = .error (.targetOutOfBounds 6) (engine.enter ⟨0x005, 0, 0⟩) := by
  let image : Image := #[0x80, 0x00, 0x0a, 0x00, 0x50, 0x00, 0x01]
  let engine : Engine ByteLog NoPeripheral :=
    { Engine.new ByteLog.empty NoPeripheral.mk with pc := 4 }
  have lines : Listing.sweep image =
      [.whole 0 ⟨0x008, 0, 0⟩ (.text [0x0a]), .cutOperand 4 ⟨0x005, 0, 0⟩] := by decide +kernel
  obtain ⟨_, pieces, _, account⟩ :=
    listing_agrees_with_steps (σ := ByteLog) (π := NoPeripheral) image
  obtain ⟨_, cutOperands, _⟩ := account engine rfl
  rw [lines] at pieces cutOperands
  refine ⟨image, engine, lines, ?_, rfl, ?_⟩
  · rw [pieces]
    rfl
  · exact (cutOperands ⟨0x005, 0, 0⟩ (by decide)).2

end Quadstack
