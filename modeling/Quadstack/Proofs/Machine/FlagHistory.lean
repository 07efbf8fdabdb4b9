import Mathlib
import Quadstack.Proofs.Machine.PartialState
import Quadstack.Proofs.Word.Readings

/-!
What the flags say. They are set in one place only, when an instruction of arithmetic or logic has
pushed its result, and nothing can fail after that; so they describe the last such result of the
run, or are both clear if there was none yet. Everything else leaves them alone: instructions of
other kinds, those handed to a peripheral among them, and every fault, wherever in an instruction it
is raised.

A result is stated here apart from its execution, as a function of what the source stack holds when
the instruction begins. Which instruction was the last to have one is then a matter of the
run alone, followed step by step.
-/

namespace Quadstack

/-! ### Flags of a result -/

namespace Flags

theorem zero_ofResult (width : Width) (value : UInt32) :
    (ofResult width value).zero = true ↔
      ∀ bit < width.bits, value.toNat.testBit bit = false := by
  rw [ofResult, beq_iff_eq, Width.truncate_eq_zero_iff]

theorem negative_ofResult (width : Width) (value : UInt32) :
    (ofResult width value).negative = true ↔ width.signExtend value < 0 :=
  width.isNegative_iff value

/-- A value whose low bits are all clear has its sign bit clear. -/
theorem not_zero_and_negative (width : Width) (value : UInt32) :
    ¬ ((ofResult width value).zero = true ∧ (ofResult width value).negative = true) := by
  rintro ⟨zero, negative⟩
  have positive : width.bits - 1 < width.bits := by cases width <;> decide
  have clear := (zero_ofResult width value).mp zero _ positive
  rw [ofResult, Width.isNegative_eq_testBit, clear] at negative
  cases negative

end Flags

/-! ### Results -/

/-- The value that ends a number of bytes below the top of the instruction's source. -/
def Instruction.operand? (instruction : Instruction) (bank : StackBank) (width : Width)
    (depth : Nat) : Option UInt32 :=
  (bank.peekAt instruction.sourceStack width depth).toOption

/-- The result of an instruction of arithmetic or logic on what its source holds, with its width.
There is none for other instructions, and none if operands are missing or the divisor is zero. -/
def Instruction.result? (instruction : Instruction) (bank : StackBank) :
    Option (Width × UInt32) :=
  match instruction.operation with
  | .arith op width => do
    let rhs ← instruction.operand? bank width 0
    let lhs ← instruction.operand? bank width width.bytes
    let result ← op.compute? width lhs rhs
    pure (width, result)
  | .shift op width => do
    let count ← instruction.operand? bank .w8 0
    let value ← instruction.operand? bank width Width.w8.bytes
    pure (width, op.compute width value count)
  | .logic op width => do
    let rhs ← instruction.operand? bank width 0
    let lhs ← instruction.operand? bank width width.bytes
    pure (width, op.compute width lhs rhs)
  | .unary op width => do
    let value ← instruction.operand? bank width 0
    pure (width, op.compute width value)
  | _ => none

theorem ByteStack.read?_lower (stack : ByteStack) (count depth taken : Nat)
    (enough : taken ≤ stack.pointer) :
    (stack.lower taken).read? count depth = stack.read? count (taken + depth) := by
  unfold read? lower
  dsimp only
  by_cases inside : depth + count ≤ stack.pointer - taken
  · have same : stack.pointer - taken - (depth + count) =
        stack.pointer - (taken + depth + count) := by omega
    rw [if_pos inside, if_pos (by omega), same]
  · rw [if_neg inside, if_neg (by omega)]

variable {σ π : Type}

/-- What stands below a value that was popped is what stood below it before. -/
theorem Engine.peekAt_popped (engine : Engine σ π) (stack : StackId) (width other : Width)
    (value : UInt32) (depth : Nat) (enough : width.bytes ≤ engine.bank.pointer stack) :
    (engine.popped stack width value).bank.peekAt stack other depth =
      engine.bank.peekAt stack other (width.bytes + depth) := by
  unfold StackBank.peekAt
  rw [engine.stack_popped_self, ByteStack.read?_lower _ _ _ _ enough]

section

variable [OutputSink σ] [Peripheral π] {instruction : Instruction} {program : Image}
variable {engine after : Engine σ π}

/-- The first operand popped stands on top of the source, the second one below it. -/
theorem Acts.popOperands_eq_ok {width : Width} {lhs rhs : UInt32}
    (done : Acts.popOperands (m := Exec σ π) instruction.source width engine =
      .ok (lhs, rhs) after) :
    instruction.operand? engine.bank width 0 = some rhs ∧
      instruction.operand? engine.bank width width.bytes = some lhs := by
  obtain ⟨first, between, popped, rest⟩ := Exec.bind_eq_ok_iff.mp done
  obtain ⟨second, last, poppedToo, paired⟩ := Exec.bind_eq_ok_iff.mp rest
  obtain ⟨enough, top, rfl⟩ := Exec.pop_eq_ok popped
  obtain ⟨_, below, _⟩ := Exec.pop_eq_ok poppedToo
  cases paired
  rw [StackBank.peek, Engine.peekAt_popped _ _ _ _ _ _ enough] at below
  exact ⟨congrArg Except.toOption top, congrArg Except.toOption below⟩

/-- Committing a result leaves it on top of the destination and in the flags. -/
theorem Acts.commit_eq_ok {width : Width} {result : UInt32}
    (done : Acts.commit (m := Exec σ π) instruction.destination width result engine =
      .ok () after) :
    after.flags = Flags.ofResult width result ∧
      width.toBytes result <:+ after.bank.contents instruction.destinationStack := by
  obtain ⟨_, between, pushed, set⟩ := Exec.bind_eq_ok_iff.mp done
  obtain ⟨grown, live, rfl⟩ := Exec.push_eq_ok pushed
  cases set
  refine ⟨rfl, ?_⟩
  show _ <:+ (engine.pushed instruction.destinationStack grown width result).bank.contents _
  rw [StackBank.contents, Engine.stack_pushed_self, live]
  exact List.suffix_append _ _

/-- An instruction of arithmetic or logic that is completed has a result, and leaves it on top of
the destination and in the flags. -/
theorem Acts.result_of_execute {halt? : Option Halt}
    (affects : instruction.operation.affectsFlags = true)
    (done : Acts.execute (m := Exec σ π) program instruction engine = .ok halt? after) :
    ∃ width result, instruction.result? engine.bank = some (width, result) ∧
      after.flags = Flags.ofResult width result ∧
      width.toBytes result <:+ after.bank.contents instruction.destinationStack := by
  cases operation : instruction.operation with
  | arith op width =>
    rw [Acts.execute, operation] at done
    obtain ⟨⟨lhs, rhs⟩, _, popped, rest⟩ := Exec.bind_eq_ok_iff.mp done
    obtain ⟨result, _, computed, rest⟩ := Exec.bind_eq_ok_iff.mp rest
    obtain ⟨_, _, committed, proceeded⟩ := Exec.bind_eq_ok_iff.mp rest
    obtain ⟨right, left⟩ := Acts.popOperands_eq_ok popped
    obtain ⟨found, rfl⟩ := Exec.require_eq_ok computed
    cases proceeded
    refine ⟨width, result, ?_, Acts.commit_eq_ok committed⟩
    rw [Instruction.result?, operation]
    simp only [right, left, Option.bind_eq_bind, Option.bind_some, found]
    rfl
  | shift op width =>
    rw [Acts.execute, operation] at done
    obtain ⟨count, _, popped, rest⟩ := Exec.bind_eq_ok_iff.mp done
    obtain ⟨value, _, poppedToo, rest⟩ := Exec.bind_eq_ok_iff.mp rest
    obtain ⟨_, _, computed, rest⟩ := Exec.bind_eq_ok_iff.mp rest
    obtain ⟨_, _, committed, proceeded⟩ := Exec.bind_eq_ok_iff.mp rest
    obtain ⟨enough, top, rfl⟩ := Exec.pop_eq_ok popped
    obtain ⟨_, below, _⟩ := Exec.pop_eq_ok poppedToo
    rw [StackBank.peek, Engine.peekAt_popped _ _ _ _ _ _ enough] at below
    cases computed
    cases proceeded
    refine ⟨width, op.compute width value count, ?_, Acts.commit_eq_ok committed⟩
    have counted : instruction.operand? engine.bank .w8 0 = some count :=
      congrArg Except.toOption top
    have shifted : instruction.operand? engine.bank width Width.w8.bytes = some value :=
      congrArg Except.toOption below
    rw [Instruction.result?, operation]
    simp only [counted, shifted]
    rfl
  | logic op width =>
    rw [Acts.execute, operation] at done
    obtain ⟨⟨lhs, rhs⟩, _, popped, rest⟩ := Exec.bind_eq_ok_iff.mp done
    obtain ⟨_, _, committed, proceeded⟩ := Exec.bind_eq_ok_iff.mp rest
    obtain ⟨right, left⟩ := Acts.popOperands_eq_ok popped
    cases proceeded
    refine ⟨width, op.compute width lhs rhs, ?_, Acts.commit_eq_ok committed⟩
    rw [Instruction.result?, operation]
    simp only [right, left]
    rfl
  | unary op width =>
    rw [Acts.execute, operation] at done
    obtain ⟨value, _, popped, rest⟩ := Exec.bind_eq_ok_iff.mp done
    obtain ⟨_, _, committed, proceeded⟩ := Exec.bind_eq_ok_iff.mp rest
    obtain ⟨_, top, _⟩ := Exec.pop_eq_ok popped
    cases proceeded
    refine ⟨width, op.compute width value, ?_, Acts.commit_eq_ok committed⟩
    have only : instruction.operand? engine.bank width 0 = some value :=
      congrArg Except.toOption top
    rw [Instruction.result?, operation]
    simp only [only]
    rfl
  | _ =>
    rw [operation] at affects
    cases affects

end

/-! ### Flags step by step -/

section

variable [OutputSink σ] [Peripheral π] {program : Image} {engine after : Engine σ π}

namespace Engine

/-- The next step completes an instruction of arithmetic or logic with this result. -/
def Completes (program : Image) (engine : Engine σ π) (width : Width) (result : UInt32) : Prop :=
  ∃ instruction after, engine.Executes program instruction ∧
    instruction.result? engine.bank = some (width, result) ∧ step program engine = .ok none after

/-- Only an instruction of arithmetic or logic has a result. -/
theorem affectsFlags_of_result? {instruction : Instruction} {bank : StackBank}
    {outcome : Width × UInt32} (computed : instruction.result? bank = some outcome) :
    instruction.operation.affectsFlags = true := by
  cases operation : instruction.operation with
  | arith _ _ | shift _ _ | logic _ _ | unary _ _ => rfl
  | _ =>
    rw [Instruction.result?, operation] at computed
    cases computed

/-- An instruction of another kind leaves the flags as they are, however it ends. -/
theorem Executes.flags_of_quiet {instruction : Instruction}
    (executes : engine.Executes program instruction)
    (quiet : instruction.operation.affectsFlags = false) :
    (leftBy (step program engine)).flags = engine.flags := by
  rw [executes.step_eq]
  obtain ⟨_, _, bytes, _, rfl⟩ := executes
  exact flags_execute program bytes _ quiet

/-- A fault leaves the flags as they are, wherever it is raised. -/
theorem flags_of_fault {fault : Fault} (failed : step program engine = .error fault after) :
    after.flags = engine.flags := by
  rcases fault_cases failed with ⟨_, _, _, rfl⟩ | ⟨_, _, _, rfl⟩ | ⟨instruction, executes⟩
  · rfl
  · rfl
  · by_cases reserved : instruction.operation = .reserved
    · have kept := executes.flags_of_quiet (by rw [reserved]; rfl)
      rw [failed] at kept
      exact kept
    · rw [executes.step_eq] at failed
      obtain ⟨_, _, _, _, popped, _⟩ :=
        execute_faultsAmong program instruction _ reserved fault after failed
      exact popped.flags

/-- A step that ends the run normally leaves the flags as they are. -/
theorem flags_of_halt {halt : Halt} (halted : step program engine = .ok (some halt) after) :
    after.flags = engine.flags := by
  have shape := step_shape program engine
  generalize step program engine = result at shape halted
  cases shape with
  | landed _ =>
    cases halted
    rfl
  | spent _ _ _ => cases halted
  | wordless _ _ _ => cases halted
  | executed bytes flying unspent read =>
    obtain ⟨condition, operation, _⟩ := Acts.execute_eq_halt halted
    have kept := flags_execute program bytes (engine.enter (instructionAt bytes))
      (by rw [operation]; rfl)
    rw [halted] at kept
    exact kept

/-- A step that goes on completes a result, which the flags then describe, or leaves them alone. -/
theorem flags_of_going (stepped : step program engine = .ok none after) :
    (∃ width result, engine.Completes program width result ∧
        after.flags = Flags.ofResult width result) ∨
      ((∀ width result, ¬ engine.Completes program width result) ∧
        after.flags = engine.flags) := by
  obtain ⟨instruction, executes⟩ := executes_of_going stepped
  cases affects : instruction.operation.affectsFlags with
  | true =>
    obtain ⟨width, result, computed, described, _⟩ :=
      Acts.result_of_execute affects (executes.step_eq.symm.trans stepped)
    exact Or.inl ⟨width, result, ⟨instruction, after, executes, computed, stepped⟩, described⟩
  | false =>
    refine Or.inr ⟨?_, ?_⟩
    · rintro width result ⟨other, _, executesToo, computed, _⟩
      obtain rfl := executes.unique executesToo
      rw [affectsFlags_of_result? computed] at affects
      cases affects
    · have kept := executes.flags_of_quiet affects
      rw [stepped] at kept
      exact kept

/-! ### Flags along a run -/

/-- The instruction that a run executes at a step, counted from zero, completes with this result. -/
def ResultAt (program : Image) (engine : Engine σ π) (index : Nat) (width : Width)
    (result : UInt32) : Prop :=
  ∃ before, standing program index engine = (none, before) ∧ before.Completes program width result

/-- One more step of a run completes a result, which the flags then describe, or leaves them
alone. -/
theorem flags_standing_succ (program : Image) (count : Nat) (engine : Engine σ π) :
    (∃ width result, engine.ResultAt program count width result ∧
        (standing program (count + 1) engine).2.flags = Flags.ofResult width result) ∨
      ((∀ width result, ¬ engine.ResultAt program count width result) ∧
        (standing program (count + 1) engine).2.flags =
          (standing program count engine).2.flags) := by
  rcases stands : standing program count engine with ⟨_ | outcome, state⟩
  · have next : standing program (count + 1) engine = standing program 1 state := by
      rw [standing_add, stands]
    have only {width : Width} {result : UInt32}
        (happened : engine.ResultAt program count width result) :
        state.Completes program width result := by
      obtain ⟨before, reached, completes⟩ := happened
      cases stands.symm.trans reached
      exact completes
    rw [next, standing]
    cases stepped : step program state with
    | ok halt? after =>
      cases halt? with
      | none =>
        rcases flags_of_going stepped with ⟨width, result, completes, described⟩ | ⟨nothing, kept⟩
        · exact Or.inl ⟨width, result, ⟨state, stands, completes⟩, described⟩
        · exact Or.inr ⟨fun width result happened => nothing width result (only happened), kept⟩
      | some halt =>
        have kept := flags_of_halt stepped
        refine Or.inr ⟨fun width result happened => ?_, kept⟩
        obtain ⟨_, _, _, _, going⟩ := only happened
        cases stepped.symm.trans going
    | error fault after =>
      have kept := flags_of_fault stepped
      refine Or.inr ⟨fun width result happened => ?_, kept⟩
      obtain ⟨_, _, _, _, going⟩ := only happened
      cases stepped.symm.trans going
  · refine Or.inr ⟨fun width result happened => ?_, ?_⟩
    · obtain ⟨before, reached, _⟩ := happened
      cases stands.symm.trans reached
    · rw [standing_of_ended stands (Nat.le_succ count)]

/-- In every state of a run the flags describe the last result completed so far; they are as they
were at the start if there is none. -/
theorem flags_standing (program : Image) (count : Nat) (engine : Engine σ π) :
    (∃ last < count, ∃ width result, engine.ResultAt program last width result ∧
        (∀ later < count, last < later → ∀ width result,
          ¬ engine.ResultAt program later width result) ∧
        (standing program count engine).2.flags = Flags.ofResult width result) ∨
      ((∀ index < count, ∀ width result, ¬ engine.ResultAt program index width result) ∧
        (standing program count engine).2.flags = engine.flags) := by
  induction count with
  | zero => exact Or.inr ⟨fun _ impossible => absurd impossible (Nat.not_lt_zero _), rfl⟩
  | succ count inductionHypothesis =>
    rcases flags_standing_succ program count engine with
      ⟨width, result, happened, described⟩ | ⟨nothing, kept⟩
    · refine Or.inl ⟨count, Nat.lt_succ_self count, width, result, happened, ?_, described⟩
      exact fun later before after => absurd before (Nat.not_lt_of_le after)
    · rw [kept]
      rcases inductionHypothesis with
        ⟨last, earlier, width, result, happened, final, described⟩ | ⟨none, unchanged⟩
      · refine Or.inl ⟨last, Nat.lt_succ_of_lt earlier, width, result, happened, ?_, described⟩
        intro later before after
        rcases Nat.lt_succ_iff_lt_or_eq.mp before with sooner | rfl
        · exact final later sooner after
        · exact nothing
      · refine Or.inr ⟨fun index before => ?_, unchanged⟩
        rcases Nat.lt_succ_iff_lt_or_eq.mp before with sooner | rfl
        · exact none index sooner
        · exact nothing

end Engine

/-- The flags always describe the last result. In every state of every run they are the flags of the
result of the last instruction of arithmetic or logic that was completed in this run, which was
pushed onto its destination, or both clear if there was none. The zero flag of a result says that
its bits at the width are all clear, the negative flag that it is below zero in two's complement,
and they are never both set. Neither a fault, wherever it is raised, nor an instruction of another
kind changes them, be it carried out by a peripheral. -/
theorem flags_describe_last_result (program : Image) (engine : Engine σ π) :
    (∀ count,
      (∃ last < count, ∃ width result, engine.reset.ResultAt program last width result ∧
        (∀ later < count, last < later → ∀ width result,
          ¬ engine.reset.ResultAt program later width result) ∧
        (engine.reset.standing program count).2.flags = Flags.ofResult width result) ∨
      ((∀ index < count, ∀ width result, ¬ engine.reset.ResultAt program index width result) ∧
        (engine.reset.standing program count).2.flags = { zero := false, negative := false })) ∧
    (∀ width result,
      ((Flags.ofResult width result).zero = true ↔
        ∀ bit < width.bits, result.toNat.testBit bit = false) ∧
      ((Flags.ofResult width result).negative = true ↔ width.signExtend result < 0) ∧
      ¬ ((Flags.ofResult width result).zero = true ∧
        (Flags.ofResult width result).negative = true)) ∧
    ∀ state : Engine σ π,
      (∀ instruction after, state.Executes program instruction →
        instruction.operation.affectsFlags = true → state.step program = .ok none after →
        ∃ width result, state.Completes program width result ∧
          instruction.result? state.bank = some (width, result) ∧
          width.toBytes result <:+ after.bank.contents instruction.destinationStack) ∧
      (∀ fault after, state.step program = .error fault after → after.flags = state.flags) ∧
      ∀ instruction, state.Executes program instruction →
        instruction.operation.affectsFlags = false →
        (leftBy (state.step program)).flags = state.flags := by
  refine ⟨fun count => engine.reset.flags_standing program count, fun width result => ?_, ?_⟩
  · exact ⟨Flags.zero_ofResult width result, Flags.negative_ofResult width result,
      Flags.not_zero_and_negative width result⟩
  · intro state
    refine ⟨?_, fun _ _ => Engine.flags_of_fault, fun _ executes => executes.flags_of_quiet⟩
    intro instruction after executes affects stepped
    obtain ⟨width, result, computed, _, pushed⟩ :=
      Acts.result_of_execute affects (executes.step_eq.symm.trans stepped)
    exact ⟨width, result, ⟨instruction, after, executes, computed, stepped⟩, computed, pushed⟩

end

end Quadstack
