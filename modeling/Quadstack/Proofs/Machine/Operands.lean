import Mathlib
import Quadstack.Proofs.Image.Reading
import Quadstack.Proofs.Machine.Execution

/-!
An instruction in two phases. First its inline operand is read, which moves the program counter and
nothing else; then it is carried out, and from there on the program is not looked at any more. That
every instruction falls apart in this way is what a reader of the program relies on who knows of an
operation only what kind of operand follows its word.

In the second phase only a transfer of control moves the program counter, and only a transfer
sets the mark that control was transferred. So whatever looks at these two alone finds them as
they were after every other instruction, be it the peripheral that carries it out.
-/

namespace Quadstack

variable {σ π : Type}

/-! ### Reading and carrying out -/

/-- The condition under which an operation takes effect. -/
def Operation.condition : Operation → Condition
  | .jump condition | .branch condition | .halt condition => condition
  | _ => .always

namespace Exec

/-- Reads an inline operand of the given kind and moves past it. -/
def fetchOperand (program : Image) : Option InlineOperand → Exec σ π Listing.Operand
  | none => pure .absent
  | some (.literal width) => do
    let value ← fetchLiteral program width
    pure (.literal width value)
  | some .offset => do
    let distance ← fetchDistance program
    pure (.offset distance)
  | some .text => do
    let bytes ← fetchText program
    pure (.text bytes)

/-- Goes a distance if the flags satisfy the condition. -/
def branchBy (condition : Condition) (distance : Int16) : Exec σ π Unit := do
  let engine ← get
  if engine.flags.satisfies condition then
    let target ← require (branchTarget? engine.pc distance) .targetOutOfBounds
    jumpTo target
  else
    pure ()

variable [OutputSink σ] [Peripheral π]

/-- What an instruction does with the operand that was read for it. One that has no operand is
carried out the same whatever the program, so also on the empty one. -/
def carryOut (instruction : Instruction) : Listing.Operand → Exec σ π (Option Halt)
  | .absent => Acts.execute #[] instruction
  | .literal width value => do
    push instruction.destinationStack width value
    Acts.proceed
  | .offset distance => do
    branchBy instruction.operation.condition distance
    Acts.proceed
  | .text bytes => do
    emit (.text bytes)
    Acts.proceed

end Exec

namespace Exec

variable {program : Image} {engine : Engine σ π} {count : Nat} {kind : Option InlineOperand}

theorem take_of_read {bytes : List UInt8} (read : program.slice? engine.pc count = some bytes) :
    take program count engine = .ok bytes { engine with pc := engine.pc + count } := by
  rw [take, read]

theorem take_of_missing (missing : program.slice? engine.pc count = none) :
    take program count engine = .error (.targetOutOfBounds engine.pc) engine := by
  rw [take, missing]

/-- The operand read is the one that stands at the program counter, which moves past it. -/
theorem fetchOperand_of_found {operand : Listing.Operand}
    (found : program.operandAt? engine.pc kind = some operand) :
    fetchOperand program kind engine =
      .ok operand { engine with pc := engine.pc + operand.size } := by
  cases kind with
  | none =>
    cases found
    rfl
  | some kind =>
    cases kind with
    | literal width | offset =>
      obtain ⟨bytes, read, rfl⟩ := Option.map_eq_some_iff.mp found
      exact bind_of_ok (bind_of_ok (take_of_read read))
    | text =>
      obtain ⟨stop, ended, rfl⟩ := Option.map_eq_some_iff.mp found
      have past : stop + 1 = engine.pc + ((program.extract engine.pc stop).toList.length + 1) := by
        obtain ⟨length, place, rfl⟩ := Option.map_eq_some_iff.mp (program.zeroFrom?_eq _ ▸ ended)
        have before := (List.findIdx?_eq_some_iff_getElem.mp place).1
        rw [List.length_drop, Array.length_toList] at before
        rw [Array.length_toList, Array.size_extract]
        omega
      have taken : fetchText program engine =
          .ok (program.extract engine.pc stop).toList { engine with pc := stop + 1 } := by
        rw [fetchText, ended]
      rw [past] at taken
      exact bind_of_ok taken

/-- An operand of which bytes are missing is a fault at the place where it was to begin. -/
theorem fetchOperand_of_missing (missing : program.operandAt? engine.pc kind = none) :
    fetchOperand program kind engine = .error (.targetOutOfBounds engine.pc) engine := by
  cases kind with
  | none => cases missing
  | some kind =>
    cases kind with
    | literal width | offset =>
      exact bind_of_error (bind_of_error (take_of_missing (Option.map_eq_none_iff.mp missing)))
    | text =>
      have taken : fetchText program engine = .error (.targetOutOfBounds engine.pc) engine := by
        rw [fetchText, Option.map_eq_none_iff.mp missing]
      exact bind_of_error taken

end Exec

section

variable [OutputSink σ] [Peripheral π]

/-- Executing an instruction is reading its operand and carrying it out. -/
theorem execute_eq_carryOut (program : Image) (instruction : Instruction) :
    (Acts.execute program instruction : Exec σ π (Option Halt)) =
      Exec.fetchOperand program instruction.operation.inlineOperand? >>=
        Exec.carryOut instruction := by
  cases operation : instruction.operation with
  | literal width =>
    simp only [Acts.execute, operation, Operation.inlineOperand?, Exec.fetchOperand, bind_assoc,
      pure_bind]
    rfl
  | branch condition =>
    simp only [Acts.execute, operation, Operation.inlineOperand?, Exec.fetchOperand, bind_assoc,
      pure_bind, Exec.carryOut, Operation.condition]
    show (Exec.branch program condition >>= fun _ => Acts.proceed) = _
    unfold Exec.branch
    rw [bind_assoc]
    rfl
  | debugText =>
    simp only [Acts.execute, operation, Operation.inlineOperand?, Exec.fetchOperand, bind_assoc,
      pure_bind]
    rfl
  | _ =>
    simp only [Operation.inlineOperand?, Exec.fetchOperand, pure_bind, Exec.carryOut]
    simp only [Acts.execute, operation]

namespace Engine

variable {program : Image} {engine : Engine σ π} {instruction : Instruction}

/-- The state in which an instruction is carried out: its word and its operand were read. -/
def fetched (engine : Engine σ π) (instruction : Instruction) (operand : Listing.Operand) :
    Engine σ π :=
  { engine.enter instruction with pc := engine.pc + Instruction.wordBytes + operand.size }

/-- A step reads the operand that stands behind the word and carries the instruction out with it. -/
theorem Executes.step_of_found {operand : Listing.Operand}
    (executes : engine.Executes program instruction)
    (found : program.operandAt? (engine.pc + Instruction.wordBytes)
      instruction.operation.inlineOperand? = some operand) :
    step program engine =
      Exec.carryOut instruction operand (engine.fetched instruction operand) := by
  rw [executes.step_eq, execute_eq_carryOut]
  exact Exec.bind_of_ok (Exec.fetchOperand_of_found found)

/-- A step whose operand is cut off faults where the operand was to begin. -/
theorem Executes.step_of_missing (executes : engine.Executes program instruction)
    (missing : program.operandAt? (engine.pc + Instruction.wordBytes)
      instruction.operation.inlineOperand? = none) :
    step program engine =
      .error (.targetOutOfBounds (engine.pc + Instruction.wordBytes))
        (engine.enter instruction) := by
  rw [executes.step_eq, execute_eq_carryOut]
  exact Exec.bind_of_error (Exec.fetchOperand_of_missing missing)

end Engine

end

/-! ### Operands in use -/

namespace Exec

variable {engine : Engine σ π}

/-- A branch that is taken goes its distance, counted from the program counter, unless that leads
before the program. -/
theorem branchBy_eq (condition : Condition) (distance : Int16) (engine : Engine σ π) :
    branchBy condition distance engine =
      if engine.flags.satisfies condition then
        if (engine.pc : Int) + distance.toInt < 0 then
          .error (.targetOutOfBounds engine.current) engine
        else
          .ok () { engine with pc := ((engine.pc : Int) + distance.toInt).toNat, landed := true }
      else .ok () engine := by
  show (if engine.flags.satisfies condition then do
      let target ← require (branchTarget? engine.pc distance) .targetOutOfBounds
      jumpTo target
    else pure () : Exec σ π Unit) engine = _
  split
  · unfold branchTarget?
    dsimp only
    split <;> rfl
  · rfl

variable [OutputSink σ] [Peripheral π] {instruction : Instruction} {after : Engine σ π}
variable {halt? : Option Halt}

/-- A literal goes onto the destination. -/
theorem contents_of_literal {width : Width} {value : UInt32}
    (done : carryOut instruction (.literal width value) engine = .ok halt? after) :
    after.bank.contents instruction.destinationStack =
      engine.bank.contents instruction.destinationStack ++ width.toBytes value := by
  obtain ⟨_, between, pushed, proceeded⟩ := bind_eq_ok_iff.mp done
  cases proceeded
  obtain ⟨grown, live, rfl⟩ := push_eq_ok pushed
  rw [StackBank.contents, Engine.stack_pushed_self, live]

/-- A distance is added to the program counter if the branch is taken. -/
theorem pc_of_offset {distance : Int16}
    (taken : engine.flags.satisfies instruction.operation.condition = true)
    (done : carryOut instruction (.offset distance) engine = .ok halt? after) :
    (after.pc : Int) = engine.pc + distance.toInt := by
  obtain ⟨_, gone, branched, proceeded⟩ := bind_eq_ok_iff.mp done
  cases proceeded
  rw [branchBy_eq, if_pos taken] at branched
  split at branched
  · cases branched
  · cases branched
    exact Int.toNat_of_nonneg (by omega)

/-- A text goes to the sink. -/
theorem output_of_text {bytes : List UInt8}
    (done : carryOut instruction (.text bytes) engine = .ok halt? after) :
    after.output = leftBy (OutputSink.receive (.text bytes) engine.output) := by
  obtain ⟨_, told, emitted, proceeded⟩ := bind_eq_ok_iff.mp done
  cases proceeded
  unfold emit at emitted
  cases received : OutputSink.receive (.text bytes) engine.output with
  | ok value output =>
    rw [received] at emitted
    cases emitted
    rfl
  | error reason output =>
    rw [received] at emitted
    cases emitted
    rfl

end Exec

/-! ### Transfers of control -/

/-- Whether such an instruction transfers control when it takes effect. -/
def Operation.isTransfer : Operation → Bool
  | .jump _ | .branch _ | .call | .ret => true
  | _ => false

namespace Engine

/-- The part of the state that only a transfer of control changes once an operand is read. -/
def place (engine : Engine σ π) : Nat × Bool :=
  (engine.pc, engine.landed)

theorem place_overlooks : Overlooks (place (σ := σ) (π := π)) where
  adopt _ _ := rfl
  setOutput _ _ := rfl
  setPeripheral _ _ := rfl
  record _ _ := rfl

end Engine

namespace KeepsPlace

open Keeps (bind require)

theorem onBank {α : Type} (work : BankM StackError α) :
    Keeps Engine.place (Exec.onBank (σ := σ) (π := π) work) :=
  Keeps.onBank Engine.place_overlooks work

theorem proceed : Keeps Engine.place (Acts.proceed (m := Exec σ π)) := fun _ => rfl

variable [OutputSink σ] [Peripheral π]

theorem popOperands (selector : UInt8) (width : Width) :
    Keeps Engine.place (Acts.popOperands (m := Exec σ π) selector width) :=
  bind (onBank _) fun _ => bind (onBank _) fun _ _ => rfl

theorem commit (selector : UInt8) (width : Width) (result : UInt32) :
    Keeps Engine.place (Acts.commit (m := Exec σ π) selector width result) :=
  bind (onBank _) fun _ _ => rfl

theorem haltIf (condition : Condition) :
    Keeps Engine.place (Acts.haltIf (m := Exec σ π) condition) := by
  intro engine
  rw [Acts.haltIf_eq]
  rfl

/-- Nothing but a transfer moves the program counter once the operand is read. -/
theorem carryOut {instruction : Instruction} {operand : Listing.Operand}
    (fitting : operand.kind = instruction.operation.inlineOperand?)
    (still : instruction.operation.isTransfer = false) :
    Keeps Engine.place (Exec.carryOut (σ := σ) (π := π) instruction operand) := by
  cases operand with
  | literal width value => exact bind (onBank _) fun _ => proceed
  | offset distance =>
    cases operation : instruction.operation with
    | branch condition =>
      rw [operation] at still
      cases still
    | _ =>
      rw [operation] at fitting
      cases fitting
  | text bytes => exact bind (Keeps.emit Engine.place_overlooks _) fun _ => proceed
  | absent =>
    show Keeps Engine.place (Acts.execute (m := Exec σ π) #[] instruction)
    unfold Acts.execute
    generalize instruction.operation = operation at fitting still ⊢
    cases operation with
    | jump _ | branch _ | call | ret => cases still
    | literal _ | debugText => cases fitting
    | nop => exact proceed
    | copy width => exact bind (onBank _) fun _ => bind (onBank _) fun _ => proceed
    | move width => exact bind (onBank _) fun _ => bind (onBank _) fun _ => proceed
    | swap width =>
      refine bind (onBank _) fun _ => bind (onBank _) fun _ => ?_
      exact bind (onBank _) fun _ => bind (onBank _) fun _ => proceed
    | peekDeep width =>
      exact bind (onBank _) fun _ => bind (onBank _) fun _ => bind (onBank _) fun _ => proceed
    | stackPointer => exact bind (fun _ => rfl) fun _ => bind (onBank _) fun _ => proceed
    | delete width => exact bind (onBank _) fun _ => proceed
    | arith op width =>
      refine bind (popOperands _ _) fun _ => bind (require _ _) fun _ => ?_
      exact bind (commit _ _ _) fun _ => proceed
    | shift op width =>
      refine bind (onBank _) fun _ => bind (onBank _) fun _ => bind (fun _ => rfl) fun _ => ?_
      exact bind (commit _ _ _) fun _ => proceed
    | logic op width =>
      exact bind (popOperands _ _) fun _ => bind (commit _ _ _) fun _ => proceed
    | unary op width => exact bind (onBank _) fun _ => bind (commit _ _ _) fun _ => proceed
    | halt condition => exact haltIf condition
    | debugValue width =>
      refine bind (onBank _) fun _ => ?_
      exact bind (Keeps.emit Engine.place_overlooks _) fun _ => proceed
    | reserved => exact bind (Keeps.delegate Engine.place_overlooks _) fun _ => proceed

end KeepsPlace

namespace Engine.Executes

variable {program : Image} {engine : Engine σ π} {instruction : Instruction}

theorem le_size (executes : engine.Executes program instruction) :
    engine.pc + 2 ≤ program.size := by
  obtain ⟨_, _, bytes, read, _⟩ := executes
  exact Image.le_size_of_slice? read

/-- An instruction that is no transfer leaves the program counter behind its operand, however it
ends, and no mark. -/
theorem place_of_still [OutputSink σ] [Peripheral π]
    (executes : engine.Executes program instruction)
    (still : instruction.operation.isTransfer = false) {operand : Listing.Operand}
    (found : program.operandAt? (engine.pc + Instruction.wordBytes)
      instruction.operation.inlineOperand? = some operand) :
    (leftBy (step program engine)).place = (engine.pc + 2 + operand.size, false) := by
  rw [executes.step_of_found found]
  exact KeepsPlace.carryOut (Image.kind_of_operandAt? found) still
    (engine.fetched instruction operand)

end Engine.Executes

end Quadstack
