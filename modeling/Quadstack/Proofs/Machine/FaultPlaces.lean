import Mathlib
import Quadstack.Proofs.Image.Codec
import Quadstack.Proofs.Machine.Delegation
import Quadstack.Proofs.Machine.Landing
import Quadstack.Proofs.Machine.PartialState

/-!
Where a run says that it ended. A fault carries an offset, and the engine is left with its program
counter somewhere; someone who looks for the cause has these two numbers and the program. There are
four places at which a run can give up, and each has its own relation between the two: before an
instruction for want of budget, at its word, at its operand, and inside it. Only in the last case
is the offset the start of an instruction. The program counter then stands behind the operand,
also when a transfer of control has failed, as a transfer moves it last and does not fail any more
after that.
-/

namespace Quadstack

variable {σ π : Type}

/-! ### Places -/

/-- Where a run that faults gives up. -/
inductive FaultSite where
  /-- Before an instruction, when the budget is used up. -/
  | budget
  /-- At the word of an instruction, of which bytes are missing. -/
  | word
  /-- At the inline operand of an instruction, of which bytes are missing. -/
  | operand
  /-- Inside an instruction that was read together with its operand. -/
  | inside
deriving DecidableEq

/-- The site at which a step gives up, if it faults. -/
def Engine.faultSite (program : Image) (engine : Engine σ π) : FaultSite :=
  if engine.spentLimit?.isSome then .budget
  else
    match program.slice? engine.pc Instruction.wordBytes with
    | none => .word
    | some bytes =>
      if (program.operandAt? (engine.pc + Instruction.wordBytes)
          (instructionAt bytes).operation.inlineOperand?).isSome then .inside
      else .operand

/-- The bytes of the inline operand that an instruction has read when it faults. Texts are not among
them, since an instruction that has read its text goes on. -/
def Operation.operandBytes : Operation → Nat
  | .literal width => width.bytes
  | .branch _ => 2
  | _ => 0

/-- What a run reports that gave up at a site: the offset of its fault and the program counter that
it leaves behind, next to the last instruction whose word it has read. -/
def FaultSite.Reports (program : Image) (read? : Option (Nat × Instruction)) (fault : Fault)
    (pc : Nat) : FaultSite → Prop
  | .budget => ∃ limit, fault = .stepLimitExceeded pc limit
  | .word => fault = .targetOutOfBounds pc ∧ program.size < pc + 2
  | .operand => ∃ start instruction, read? = some (start, instruction) ∧
      fault = .targetOutOfBounds (start + 2) ∧ pc = start + 2
  | .inside => ∃ start instruction, read? = some (start, instruction) ∧
      fault.offset = start ∧ pc = start + 2 + instruction.operation.operandBytes

/-! ### Faults inside an instruction -/

/-- The engine is about to take a branch that leads before the program. -/
def Engine.BranchesBefore (program : Image) (engine : Engine σ π) (instruction : Instruction) :
    Prop :=
  ∃ condition distance, instruction.operation = .branch condition ∧
    engine.flags.satisfies condition = true ∧ engine.distance? program = some distance ∧
    engine.branchEnd distance < 0

/-- An instruction that was read with its operand has faulted: the fault names the instruction, the
program counter stands behind the operand, and a target is out of bounds only if a branch leads
before the program or the program is too long for return addresses. -/
structure Engine.FaultsInside (program : Image) (engine : Engine σ π) (instruction : Instruction)
    (fault : Fault) (after : Engine σ π) : Prop where
  offset : fault.offset = engine.pc
  pc : after.pc = engine.pc + 2 + instruction.operation.operandBytes
  flags : after.flags = engine.flags
  target (place : Nat) : fault = .targetOutOfBounds place →
    engine.BranchesBefore program instruction ∨ 2 ^ 32 ≤ engine.pc + 2

theorem StackError.offset_toFault (error : StackError) (offset : Nat) :
    (error.toFault offset).offset = offset := by
  cases error <;> rfl

theorem Refusal.offset_toFault (refusal : Refusal) (offset : Nat) (code : UInt16) :
    (refusal.toFault offset code).offset = offset := by
  cases refusal with
  | denied => rfl
  | stack error => exact error.offset_toFault offset

theorem Refusal.toFault_ne_target (refusal : Refusal) (offset : Nat) (code : UInt16) (place : Nat) :
    refusal.toFault offset code ≠ .targetOutOfBounds place := by
  cases refusal with
  | denied => exact Fault.noConfusion
  | stack error => cases error <;> exact Fault.noConfusion

theorem Exec.push_eq_error {stack : StackId} {width : Width} {value : UInt32} {fault : Fault}
    {engine after : Engine σ π} (failed : push stack width value engine = .error fault after) :
    fault = .stackOverflow engine.current stack ∧ after = engine := by
  rcases push_cases stack width value engine with ⟨_, _, _, _, pushed⟩ | ⟨_, full⟩
  · rw [pushed] at failed
    cases failed
  · rw [full] at failed
    cases failed
    exact ⟨rfl, rfl⟩

/-- Every part of an instruction but the reading of its operand fails at the instruction at hand. -/
theorem Part.Fails.offset {part : Part} {fault : Fault} {engine : Engine σ π}
    (fails : part.Fails fault engine) (read : part ≠ .operand) :
    fault.offset = engine.current := by
  cases part with
  | operand => exact absurd rfl read
  | pop _ _ | push _ _ =>
    rw [fails.2]
    rfl
  | peek _ _ | divide | locate =>
    rw [fails]
    rfl

/-- Only an operand and the place that a transfer leads to can be out of bounds. -/
theorem Part.Fails.ne_target {part : Part} {fault : Fault} {engine : Engine σ π}
    (fails : part.Fails fault engine) (read : part ≠ .operand) (found : part ≠ .locate)
    (place : Nat) : fault ≠ .targetOutOfBounds place := by
  cases part with
  | operand => exact absurd rfl read
  | locate => exact absurd rfl found
  | pop _ _ | push _ _ =>
    rw [fails.2]
    exact Fault.noConfusion
  | peek _ _ | divide =>
    rw [fails]
    exact Fault.noConfusion

/-- An operation without an operand that is no transfer has neither of these two. -/
theorem Operation.mem_parts_of_still {operation : Operation} {source destination : StackId}
    (bare : operation.inlineOperand? = none) (still : operation.isTransfer = false) {part : Part}
    (member : part ∈ operation.parts source destination) :
    part ≠ .operand ∧ part ≠ .locate := by
  cases operation with
  | literal _ | branch _ | debugText => cases bare
  | jump _ | call | ret => cases still
  | _ =>
    constructor
    · rintro rfl
      simp [Operation.parts] at member
    · rintro rfl
      simp [Operation.parts] at member

namespace Engine

theorem current_kept (offset : Nat) : KeptByActs fun engine : Engine σ π => engine.current = offset
    where
  setPc _ holds := holds
  transfer _ holds := holds
  setFlags _ holds := holds
  adopt _ holds := holds
  setOutput _ holds := holds
  setPeripheral _ holds := holds
  record _ holds := holds

variable {program : Image} {engine after : Engine σ π} {instruction : Instruction} {fault : Fault}

/-- The pop of an address is the first thing that a jump, a call or a return does. -/
theorem faultsInside_of_pop (bare : instruction.operation.operandBytes = 0)
    (short : Exec.pop instruction.sourceStack .address (engine.enter instruction) =
      .error fault after) : engine.FaultsInside program instruction fault after := by
  obtain ⟨rfl, _, rfl⟩ := FaultsAmong.pop_fails _ _ _ fault after short
  refine ⟨rfl, ?_, rfl, fun _ => Fault.noConfusion⟩
  rw [bare]
  rfl

variable [OutputSink σ] [Peripheral π]

/-- No part of an instruction changes which one is at hand. -/
theorem Executes.current (executes : engine.Executes program instruction) :
    (leftBy (step program engine)).current = engine.pc := by
  rw [executes.step_eq]
  obtain ⟨_, _, bytes, _, rfl⟩ := executes
  exact (current_kept engine.pc).execute program _ (Instruction.source_decode_lt _)
    (Instruction.destination_decode_lt _) _ rfl

theorem Executes.literal_faults (executes : engine.Executes program instruction) {width : Width}
    (operation : instruction.operation = .literal width) {operand : Listing.Operand}
    (found : program.operandAt? (engine.pc + 2) instruction.operation.inlineOperand? = some operand)
    (failed : step program engine = .error fault after) :
    engine.FaultsInside program instruction fault after := by
  rw [executes.step_of_found found] at failed
  rw [operation] at found
  obtain ⟨bytes, _, rfl⟩ := Option.map_eq_some_iff.mp found
  rcases Exec.bind_eq_error_iff.mp failed with full | ⟨_, _, _, proceeded⟩
  · obtain ⟨rfl, rfl⟩ := Exec.push_eq_error full
    refine ⟨rfl, ?_, rfl, fun _ => Fault.noConfusion⟩
    rw [operation]
    rfl
  · cases proceeded

theorem Executes.branch_faults (executes : engine.Executes program instruction)
    {condition : Condition} (operation : instruction.operation = .branch condition)
    {operand : Listing.Operand}
    (found : program.operandAt? (engine.pc + 2) instruction.operation.inlineOperand? = some operand)
    (failed : step program engine = .error fault after) :
    engine.FaultsInside program instruction fault after := by
  rcases executes.branch_cases operation with ⟨distance, read, done⟩ | ⟨cut, _⟩
  · rw [failed] at done
    split at done
    · rename_i taken
      split at done
      · rename_i before
        cases done
        have leads : engine.BranchesBefore program instruction :=
          ⟨condition, distance, operation, taken, read, before⟩
        refine ⟨rfl, ?_, rfl, fun _ _ => Or.inl leads⟩
        rw [operation]
        rfl
      · cases done
    · cases done
  · rw [operation] at found
    obtain ⟨bytes, read, _⟩ := Option.map_eq_some_iff.mp found
    cases (Option.map_eq_none_iff.mp cut).symm.trans read

/-- A call goes to its target after everything in it that can fail. -/
theorem Executes.call_faults (executes : engine.Executes program instruction)
    (operation : instruction.operation = .call)
    (failed : step program engine = .error fault after) :
    engine.FaultsInside program instruction fault after := by
  have bare : instruction.operation.operandBytes = 0 := by rw [operation]; rfl
  rw [executes.step_eq, Acts.execute, operation] at failed
  rcases Exec.bind_eq_error_iff.mp failed with short | ⟨target, popped, took, rest⟩
  · exact faultsInside_of_pop bare short
  obtain ⟨_, _, rfl⟩ := Exec.pop_eq_ok took
  have behind : engine.pc + 2 = engine.pc + 2 + instruction.operation.operandBytes := by rw [bare]
  rcases Exec.bind_eq_error_iff.mp rest with far | ⟨address, between, located, rest⟩
  · change Exec.require (Exec.returnAddress? (engine.pc + 2)) .targetOutOfBounds _ = _ at far
    unfold Exec.returnAddress? at far
    split at far
    · cases far
    · rename_i tooFar
      cases far
      exact ⟨rfl, behind, rfl, fun _ _ => Or.inr (Nat.le_of_not_lt tooFar)⟩
  · obtain ⟨_, rfl⟩ := Exec.require_eq_ok located
    rcases Exec.bind_eq_error_iff.mp rest with full | ⟨_, _, _, gone⟩
    · obtain ⟨rfl, rfl⟩ := Exec.push_eq_error full
      exact ⟨rfl, behind, rfl, fun _ => Fault.noConfusion⟩
    · cases gone

theorem Executes.reserved_faults (executes : engine.Executes program instruction)
    (reserved : instruction.operation = .reserved)
    (failed : step program engine = .error fault after) :
    engine.FaultsInside program instruction fault after := by
  rw [executes.step_of_reserved reserved] at failed
  generalize Peripheral.dispatch (π := π) instruction _ = answer at failed
  cases answer with
  | ok value left => cases failed
  | error refusal left =>
    cases failed
    refine ⟨refusal.offset_toFault _ _, ?_, rfl, fun place outside => ?_⟩
    · rw [reserved]
      rfl
    · exact absurd outside (refusal.toFault_ne_target _ _ place)

/-- Instructions that have no operand and transfer no control. -/
theorem Executes.still_faults (executes : engine.Executes program instruction)
    (bare : instruction.operation.inlineOperand? = none)
    (still : instruction.operation.isTransfer = false)
    (own : instruction.operation ≠ .reserved)
    (failed : step program engine = .error fault after) :
    engine.FaultsInside program instruction fault after := by
  have found : program.operandAt? (engine.pc + Instruction.wordBytes)
      instruction.operation.inlineOperand? = some .absent := by
    rw [bare]
    rfl
  have place := executes.place_of_still still found
  rw [failed] at place
  have current := executes.current
  rw [failed] at current
  rw [executes.step_eq] at failed
  obtain ⟨done, part, rest, parts, popped, fails⟩ :=
    execute_faultsAmong program instruction _ own fault after failed
  obtain ⟨read, found⟩ := Operation.mem_parts_of_still bare still
    (parts ▸ List.mem_append_right done List.mem_cons_self)
  refine ⟨(fails.offset read).trans current, ?_, popped.flags, fun place outside => ?_⟩
  · have none : instruction.operation.operandBytes = 0 := by
      cases operation : instruction.operation with
      | literal _ | branch _ =>
        rw [operation] at bare
        cases bare
      | _ => rfl
    rw [none]
    exact congrArg Prod.fst place
  · exact absurd outside (fails.ne_target read found place)

/-- A text that was read is handed to the sink, and the run goes on. -/
theorem Executes.text_going (executes : engine.Executes program instruction)
    (operation : instruction.operation = .debugText) {operand : Listing.Operand}
    (found : program.operandAt? (engine.pc + 2) instruction.operation.inlineOperand? =
      some operand) : ∃ after, step program engine = .ok none after := by
  rw [executes.step_of_found found]
  rw [operation] at found
  obtain ⟨stop, _, rfl⟩ := Option.map_eq_some_iff.mp found
  obtain ⟨after, emitted⟩ := Exec.emit_ok (.text (program.extract (engine.pc + 2) stop).toList)
    (engine.fetched instruction (.text (program.extract (engine.pc + 2) stop).toList))
  exact ⟨after, Exec.bind_of_ok emitted⟩

/-- Every fault of an instruction that was read with its operand is raised inside it. -/
theorem Executes.faultsInside (executes : engine.Executes program instruction)
    {operand : Listing.Operand}
    (found : program.operandAt? (engine.pc + 2) instruction.operation.inlineOperand? = some operand)
    (failed : step program engine = .error fault after) :
    engine.FaultsInside program instruction fault after := by
  cases operation : instruction.operation with
  | literal width => exact executes.literal_faults operation found failed
  | branch condition => exact executes.branch_faults operation found failed
  | debugText =>
    obtain ⟨_, going⟩ := executes.text_going operation found
    rw [failed] at going
    cases going
  | jump condition =>
    have bare : instruction.operation.operandBytes = 0 := by rw [operation]; rfl
    rw [executes.step_eq, Acts.execute, operation] at failed
    rcases Exec.bind_eq_error_iff.mp failed with short | ⟨target, popped, _, rest⟩
    · exact faultsInside_of_pop bare short
    · rcases Exec.bind_eq_error_iff.mp rest with raised | ⟨_, _, _, proceeded⟩
      · cases raised.symm.trans (Acts.jumpIf_eq condition target popped)
      · cases proceeded
  | ret =>
    have bare : instruction.operation.operandBytes = 0 := by rw [operation]; rfl
    rw [executes.step_eq, Acts.execute, operation] at failed
    rcases Exec.bind_eq_error_iff.mp failed with short | ⟨target, popped, _, rest⟩
    · exact faultsInside_of_pop bare short
    · cases rest
  | call => exact executes.call_faults operation failed
  | reserved => exact executes.reserved_faults operation failed
  | _ =>
    refine executes.still_faults ?_ ?_ ?_ failed
    · rw [operation]
      rfl
    · rw [operation]
      rfl
    · rw [operation]
      exact Operation.noConfusion

/-! ### Steps and runs that give up -/

omit [OutputSink σ] [Peripheral π] in
theorem Executes.faultSite_eq (executes : engine.Executes program instruction) :
    engine.faultSite program =
      if (program.operandAt? (engine.pc + Instruction.wordBytes)
          instruction.operation.inlineOperand?).isSome then .inside
      else .operand := by
  obtain ⟨bytes, word, rfl⟩ := executes.word
  rw [faultSite, executes.unspent, word]
  rfl

/-- A step that faults reports what fits its site. -/
theorem reports_of_fault {read? : Option (Nat × Instruction)}
    (failed : step program engine = .error fault after)
    (read : ∀ instruction, engine.Executes program instruction →
      read? = some (engine.pc, instruction)) :
    (engine.faultSite program).Reports program read? fault after.pc := by
  rcases fault_cases failed with
    ⟨limit, used, rfl, rfl⟩ | ⟨unspent, missing, rfl, rfl⟩ | ⟨instruction, executes⟩
  · rw [faultSite, used]
    exact ⟨limit, rfl⟩
  · rcases program.slice?_cases engine.pc Instruction.wordBytes with ⟨_, _, found, _⟩ | ⟨short, _⟩
    · cases missing.symm.trans found
    · rw [faultSite, unspent, missing]
      exact ⟨rfl, short⟩
  · rw [executes.faultSite_eq]
    cases found : program.operandAt? (engine.pc + Instruction.wordBytes)
        instruction.operation.inlineOperand? with
    | none =>
      rw [executes.step_of_missing found] at failed
      cases failed
      exact ⟨engine.pc, instruction, read instruction executes, rfl, rfl⟩
    | some operand =>
      have inside := executes.faultsInside found failed
      exact ⟨engine.pc, instruction, read instruction executes, inside.offset, inside.pc⟩

/-- Inside an instruction of a program that is not too long for return addresses, only a branch that
leads before the program puts its target out of bounds. -/
theorem branchesBefore_of_target (short : program.size < 2 ^ 32) {place : Nat}
    (failed : step program engine = .error (.targetOutOfBounds place) after)
    (inside : engine.faultSite program = .inside) :
    ∃ instruction, engine.Executes program instruction ∧
      engine.BranchesBefore program instruction ∧ after.flags = engine.flags := by
  rcases fault_cases failed with
    ⟨limit, used, _, _⟩ | ⟨unspent, missing, _, _⟩ | ⟨instruction, executes⟩
  · rw [faultSite, used] at inside
    cases inside
  · rw [faultSite, unspent, missing] at inside
    cases inside
  · rw [executes.faultSite_eq] at inside
    cases found : program.operandAt? (engine.pc + Instruction.wordBytes)
        instruction.operation.inlineOperand? with
    | none =>
      rw [found] at inside
      cases inside
    | some operand =>
      have faults := executes.faultsInside found failed
      refine ⟨instruction, executes, (faults.target place rfl).resolve_right fun far => ?_,
        faults.flags⟩
      have behind := executes.le_size
      omega

/-- The last instruction that a run executes is the one from whose state it does not go on. -/
theorem getLast?_executed {fuel count : Nat} {start final last : Engine σ π} {outcome : Outcome}
    (ended : standing program fuel start = (some outcome, final))
    (going : standing program count start = (none, last))
    (stops : ∀ after, step program last ≠ .ok none after)
    (executes : last.Executes program instruction) :
    (start.executed program fuel).getLast? = some (last.pc, instruction) := by
  have earlier : count < fuel := by
    by_contra later
    cases going.symm.trans (standing_of_ended ended (Nat.le_of_not_lt later))
  obtain ⟨rest, rfl⟩ := Nat.exists_eq_add_of_lt earlier
  have seen : last.executed program (rest + 1) = [(last.pc, instruction)] := by
    rw [executed, seenAlong, executing?_eq_some_iff.mpr executes]
    cases stepped : step program last with
    | ok halt? after =>
      cases halt? with
      | none => exact absurd stepped (stops after)
      | some halt => rfl
    | error fault after => rfl
  rw [executed, Nat.add_assoc, seenAlong_add, going]
  show (_ ++ last.executed program (rest + 1)).getLast? = _
  rw [seen, List.getLast?_concat]

/-- A run that faults does so at its last step, and the fault of this step is the one it reports. -/
theorem faulted_cases {fuel : Nat} {start final : Engine σ π}
    (ended : run? program fuel start = some (.error fault, final)) :
    ∃ count last after, standing program count start.reset = (none, last) ∧
      step program last = .error fault after ∧ final = after.latch fault := by
  obtain ⟨count, last, going, ⟨halt, _, _, same, _⟩ | ⟨raised, after, failed, same, latched⟩⟩ :=
    ended_cases (continue?_eq_some_iff.mp ended)
  · cases same
  · have before : last.fault = none := congrArg (fun entries => entries.2.2) (ledger_of_going going)
    obtain ⟨_, _, kept⟩ := ledger_leftBy_step program last
    rw [failed, before] at kept
    have first : after.latchedFault raised = raised := by
      rw [latchedFault, show after.fault = none from kept, Option.getD_none]
    rw [first] at same
    cases same
    exact ⟨count, last, after, going, failed, latched⟩

end Engine

/-! ### Runs that halt -/

/-- The opcodes that halt, each with its condition. -/
def Opcode.halting : List (Opcode × Condition) :=
  [(.endAlways, .always), (.endZ, .zero), (.endN, .negative)]

theorem Instruction.opcode_of_halt {instruction : Instruction} {condition : Condition}
    (operation : instruction.operation = .halt condition) :
    ∃ opcode, instruction.opcode = .ok opcode ∧ (opcode, condition) ∈ Opcode.halting := by
  have everyRow : ∀ opcode ∈ Opcode.all,
      ∀ condition ∈ [.always, .zero, .notZero, .negative, .notNegative],
        opcode.operation = .halt condition → (opcode, condition) ∈ Opcode.halting := by
    decide +kernel
  unfold Instruction.operation Operation.ofCode at operation
  cases found : Opcode.ofCode? instruction.code with
  | none =>
    rw [found] at operation
    cases operation
  | some opcode =>
    rw [found] at operation
    have listed : condition ∈ [.always, .zero, .notZero, .negative, .notNegative] := by
      cases condition <;> decide
    have same : opcode.code = instruction.code := by
      unfold Opcode.ofCode? at found
      exact beq_iff_eq.mp (List.find?_some found :)
    refine ⟨opcode, ?_, everyRow opcode opcode.mem_all condition listed operation⟩
    rw [Instruction.opcode, Opcode.resolve, if_neg, found]
    rw [← same]
    exact UInt16.not_le.mpr (toNat_code_lt opcode)

namespace Engine

variable [OutputSink σ] [Peripheral π]
variable {program : Image} {engine after : Engine σ π}

/-- A step that ends the run at a halting instruction has done nothing but read its word. -/
theorem executes_of_ended {offset : Nat} {condition : Condition}
    (halted : step program engine = .ok (some ⟨offset, .ended condition⟩) after) :
    ∃ instruction, engine.Executes program instruction ∧
      instruction.operation = .halt condition ∧ offset = engine.pc ∧
      after = engine.enter instruction ∧ engine.flags.satisfies condition = true := by
  have shape := step_shape program engine
  generalize stepped : step program engine = result at shape halted
  cases shape with
  | landed landing => cases halted
  | spent limit flying used => cases halted
  | wordless flying unspent short => cases halted
  | executed bytes flying unspent read =>
    have executes : engine.Executes program (instructionAt bytes) :=
      ⟨flying, unspent, bytes, read, rfl⟩
    obtain ⟨own, operation, reason⟩ := Acts.execute_eq_halt halted
    cases reason
    rw [Acts.execute, operation] at halted
    have ended := halted.symm.trans (Acts.haltIf_eq condition _)
    split at ended
    · rename_i satisfied
      cases ended
      exact ⟨_, executes, operation, rfl, rfl, satisfied⟩
    · cases ended

/-- Where a run that ended says it did. A run that faults gives up at exactly one of four sites and
reports what fits it. One that halts at an instruction is left with its program counter just past
the word of this instruction, which is one of the three that halt, with a condition that the flags
satisfy. A target that is out of bounds inside an instruction of a program with fewer than `2 ^ 32`
bytes is that of a branch which is taken and leads before the program. -/
theorem reported_places (program : Image) (engine final : Engine σ π) (fuel : Nat) :
    (∀ fault, run? program fuel engine = some (.error fault, final) →
      ∃ count last, standing program count engine.reset = (none, last) ∧
        raisedBy (step program last) = some fault ∧
        (∃! site, last.faultSite program = site ∧
          site.Reports program (engine.reset.executed program fuel).getLast? fault final.pc) ∧
        (program.size < 2 ^ 32 → last.faultSite program = .inside →
          ∀ place, fault = .targetOutOfBounds place →
          ∃ instruction condition distance,
            (engine.reset.executed program fuel).getLast? = some (last.pc, instruction) ∧
            instruction.operation = .branch condition ∧
            final.flags.satisfies condition = true ∧
            last.distance? program = some distance ∧ last.branchEnd distance < 0)) ∧
    ∀ offset condition,
      run? program fuel engine = some (.ok ⟨offset, .ended condition⟩, final) →
      final.pc = offset + 2 ∧ final.flags.satisfies condition = true ∧
      ∃ bytes opcode, program.slice? offset 2 = some bytes ∧
        (engine.reset.executed program fuel).getLast? = some (offset, instructionAt bytes) ∧
        (instructionAt bytes).opcode = .ok opcode ∧ (opcode, condition) ∈ Opcode.halting := by
  constructor
  · intro fault ended
    obtain ⟨count, last, after, going, failed, rfl⟩ := faulted_cases ended
    have stands := continue?_eq_some_iff.mp ended
    have read (instruction : Instruction) (executes : last.Executes program instruction) :
        (engine.reset.executed program fuel).getLast? = some (last.pc, instruction) := by
      refine getLast?_executed stands going (fun next stepped => ?_) executes
      cases failed.symm.trans stepped
    have reports := reports_of_fault failed read
    refine ⟨count, last, going, by rw [failed]; rfl, ?_, fun short inside place outside => ?_⟩
    · exact ⟨_, ⟨rfl, reports⟩, fun site fits => fits.1.symm⟩
    · subst outside
      obtain ⟨instruction, executes, ⟨condition, distance, operation, taken, far, before⟩, flags⟩ :=
        branchesBefore_of_target short failed inside
      rw [← flags] at taken
      have word := read instruction executes
      exact ⟨instruction, condition, distance, word, operation, taken, far, before⟩
  · intro offset condition ended
    have stands := continue?_eq_some_iff.mp ended
    obtain ⟨count, last, going, ⟨halt, after, halted, same, rfl⟩ | ⟨_, _, _, same, _⟩⟩ :=
      ended_cases stands
    · cases same
      obtain ⟨instruction, executes, operation, rfl, rfl, satisfied⟩ := executes_of_ended halted
      obtain ⟨opcode, resolved, halting⟩ := Instruction.opcode_of_halt operation
      obtain ⟨bytes, word, rfl⟩ := executes.word
      have read := getLast?_executed stands going
        (fun next stepped => by cases halted.symm.trans stepped) executes
      exact ⟨rfl, satisfied, bytes, opcode, word, read, resolved, halting⟩
    · cases same

/-- A branch that leads twelve bytes before the program: the fault names the branch, and the program
counter stands behind its distance. -/
theorem reported_places_branch :
    ∃ (program : Image) (engine final : Engine ByteLog NoPeripheral) (distance : Int16),
      program.toList = [0x80, 0x11, 0xf0, 0xff] ∧
      run? program 1 engine = some (.error (.targetOutOfBounds 0), final) ∧ final.pc = 4 ∧
      engine.reset.distance? program = some distance ∧
      engine.reset.branchEnd distance < 0 := by
  let program : Image := #[0x80, 0x11, 0xf0, 0xff]
  let engine := Engine.new ByteLog.empty NoPeripheral.mk
  let final := (engine.reset.standing program 1).2
  have ended : engine.reset.standing program 1 = (some (.error (.targetOutOfBounds 0)), final) :=
    Prod.ext (by decide +kernel) rfl
  have run := continue?_eq_some_iff.mpr ended
  obtain ⟨count, last, going, _, _, target⟩ := (reported_places program engine final 1).1 _ run
  cases count with
  | succ count => cases going.symm.trans (standing_of_ended ended (Nat.le_add_left 1 count))
  | zero =>
    cases going
    have inside : engine.reset.faultSite program = .inside := by decide +kernel
    obtain ⟨_, _, distance, _, _, _, far, before⟩ := target (by decide) inside 0 rfl
    exact ⟨program, engine, final, distance, rfl, run, by decide +kernel, far, before⟩

end Engine

end Quadstack
