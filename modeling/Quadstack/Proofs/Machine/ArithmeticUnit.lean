import Mathlib
import Quadstack.Proofs.Machine.LiveActs
import Quadstack.Proofs.Word.ExactArithmetic

/-!
The instructions that compute. Arithmetic, shifts, logic and the operations on one operand differ in
how many bytes their operands take and in what they make of them, and in nothing else: each takes
its operands off one stack, the one on top first, and puts a result on another. So there is one
program for all of them, and what it does to the live bytes is said once.

Three things can go wrong, and they are found in a fixed order: bytes are missing, a divisor is
zero, there is no room for the result. When both stacks are the same there is always room, because
the operands leave at least as many bytes free as the result takes.
-/

namespace Quadstack

/-! ### What is computed -/

/-- A result and the lower operand have one width. Above that operand lies another of a width of its
own, unless there is only one. The result is computed from the lower and the upper operand, in this
order, and may be missing. -/
structure Calculation where
  width : Width
  top? : Option Width
  result? : UInt32 → UInt32 → Option UInt32

/-- What an operation computes, if it is one of those that do. A shift has a count of one byte. -/
def Operation.calculation? : Operation → Option Calculation
  | .arith op width => some ⟨width, some width, op.compute? width⟩
  | .logic op width => some ⟨width, some width, fun lhs rhs => some (op.compute width lhs rhs)⟩
  | .shift op width =>
    some ⟨width, some .w8, fun value count => some (op.compute width value count)⟩
  | .unary op width => some ⟨width, none, fun value _ => some (op.compute width value)⟩
  | _ => none

/-- The operation divides, and its divisor, which the bytes hold on top, is zero. -/
def Operation.DividesByZero (operation : Operation) (held : List UInt8) : Prop :=
  ∃ op width, operation = .arith op width ∧ op.divides = true ∧
    ByteLists.spelled (held.rtake width.bytes) = 0

namespace Calculation

variable (calculation : Calculation)

def topBytes : Nat := (calculation.top?.map Width.bytes).getD 0

/-- How many bytes the operands take together. -/
def operandBytes : Nat := calculation.topBytes + calculation.width.bytes

/-- The upper operand on a stack that holds the given bytes. -/
def topOf (held : List UInt8) : UInt32 := Width.ofBytes (held.rtake calculation.topBytes)

/-- The lower operand, which ends where the upper one begins. -/
def lowerOf (held : List UInt8) : UInt32 :=
  Width.ofBytes ((held.rdrop calculation.topBytes).rtake calculation.width.bytes)

/-- The result on the operands that lie on such a stack. -/
def resultOf (held : List UInt8) : Option UInt32 :=
  calculation.result? (calculation.lowerOf held) (calculation.topOf held)

/-- The live bytes when the operands are off their stack. -/
def withoutOperands (contents : StackId → List UInt8) (source : StackId) : StackId → List UInt8 :=
  Function.update contents source ((contents source).rdrop calculation.operandBytes)

/-- The live bytes when the result is on its stack, too. -/
def withResult (contents : StackId → List UInt8) (source destination : StackId)
    (result : UInt32) : StackId → List UInt8 :=
  Function.update (calculation.withoutOperands contents source) destination
    (calculation.withoutOperands contents source destination ++ calculation.width.toBytes result)

/-- Whether the result finds room: it takes no more bytes than the operands have left. -/
def HasRoom (contents : StackId → List UInt8) (source destination : StackId) : Prop :=
  source = destination ∨ (contents destination).length + calculation.width.bytes ≤ 1024

end Calculation

theorem Width.unsigned_ofBytes (width : Width) (bytes : List UInt8)
    (short : bytes.length ≤ width.bytes) :
    width.unsigned (ofBytes bytes) = ByteLists.spelled bytes := by
  have small : ByteLists.spelled bytes < 2 ^ width.bits :=
    calc ByteLists.spelled bytes
      _ = LittleEndian.decode bytes := (LittleEndian.decode_eq_spelled bytes).symm
      _ < 256 ^ bytes.length := LittleEndian.decode_lt bytes
      _ ≤ 256 ^ width.bytes := Nat.pow_le_pow_right (by decide) short
      _ = 2 ^ width.bits := by rw [bits, pow_mul]; norm_num
  rw [unsigned, toNat_ofBytes bytes (short.trans width.bytes_le_four), Nat.mod_eq_of_lt small]

/-- The one reason for which a result is missing. -/
theorem Operation.resultOf_eq_none_iff {operation : Operation} {calculation : Calculation}
    (asked : operation.calculation? = some calculation) (held : List UInt8) :
    calculation.resultOf held = none ↔ operation.DividesByZero held := by
  cases operation with
  | arith op width =>
    cases asked
    have divisor : width.unsigned (Width.ofBytes (held.rtake width.bytes)) =
        ByteLists.spelled (held.rtake width.bytes) :=
      width.unsigned_ofBytes _ (by rw [List.rtake, List.length_drop]; omega)
    refine (ArithOp.compute?_eq_none_iff op width _ _).trans ?_
    show op.divides = true ∧ width.unsigned (Width.ofBytes (held.rtake width.bytes)) = 0 ↔ _
    rw [divisor]
    constructor
    · rintro ⟨partially, zero⟩
      exact ⟨op, width, rfl, partially, zero⟩
    · rintro ⟨_, _, same, partially, zero⟩
      cases same
      exact ⟨partially, zero⟩
  | logic op width | shift op width | unary op width =>
    cases asked
    constructor
    · intro missing
      cases missing
    · rintro ⟨_, _, same, _⟩
      cases same
  | _ => cases asked

/-! ### How it is computed -/

namespace Calculation

variable {σ π : Type} (calculation : Calculation) (stack : StackId)

/-- Takes off the operand on top, if there are two. -/
def takeTop : Exec σ π UInt32 :=
  match calculation.top? with
  | some width => Exec.pop stack width
  | none => pure 0

/-- Takes off the operands and gives the lower one first. -/
def takeOperands : Exec σ π (UInt32 × UInt32) := do
  let top ← calculation.takeTop stack
  let lower ← Exec.pop stack calculation.width
  pure (lower, top)

/-- Puts the result on a stack. -/
def leave (result : UInt32) : Exec σ π (Option Halt) := do
  Exec.push stack calculation.width result
  Exec.setFlags calculation.width result
  pure none

/-- The program of every instruction that computes. -/
def perform (source destination : StackId) : Exec σ π (Option Halt) := do
  let (lower, top) ← calculation.takeOperands source
  let result ← Exec.require (calculation.result? lower top) .divisionByZero
  calculation.leave destination result

end Calculation

/-- An instruction that computes follows that program. -/
theorem Acts.execute_eq_perform {σ π : Type} [OutputSink σ] [Peripheral π] {program : Image}
    {instruction : Instruction} {calculation : Calculation}
    (asked : instruction.operation.calculation? = some calculation) :
    Acts.execute (m := Exec σ π) program instruction =
      calculation.perform instruction.sourceStack instruction.destinationStack := by
  unfold Acts.execute
  cases operation : instruction.operation with
  | arith op width | shift op width | logic op width | unary op width =>
    rw [operation] at asked
    cases asked
    simp only [Calculation.perform, Calculation.takeOperands, Calculation.leave, Acts.popOperands,
      Acts.commit, bind_assoc, pure_bind]
    rfl
  | _ =>
    rw [operation] at asked
    cases asked

/-! ### What it does to the live bytes -/

/-- What work leaves when it has changed the live bytes to the given ones and has not moved on in
the program. -/
structure Engine.ChangedTo {σ π : Type} (engine after : Engine σ π)
    (contents : StackId → List UInt8) : Prop where
  current : after.current = engine.current
  pc : after.pc = engine.pc
  contents : after.bank.contents = contents

namespace Calculation

variable {σ π : Type} {calculation : Calculation} {stack : StackId} {engine : Engine σ π}

theorem takeTop_of_enough
    (enough : calculation.topBytes ≤ (engine.bank.contents stack).length) :
    ∃ after,
      calculation.takeTop stack engine =
        .ok (Width.ofBytes ((engine.bank.contents stack).rtake calculation.topBytes)) after ∧
      engine.ChangedTo after (Function.update engine.bank.contents stack
        ((engine.bank.contents stack).rdrop calculation.topBytes)) := by
  unfold topBytes at enough ⊢
  unfold takeTop
  cases top : calculation.top? with
  | none =>
    refine ⟨engine, ?_, rfl, rfl, ?_⟩
    · rw [Option.map_none, Option.getD_none, List.rtake_zero]
      rfl
    · rw [Option.map_none, Option.getD_none, List.rdrop_zero, Function.update_eq_self]
  | some width =>
    rw [top] at enough
    exact ⟨_, Exec.pop_of_enough enough, rfl, rfl, engine.contents_popped stack width _⟩

theorem takeTop_of_short
    (short : (engine.bank.contents stack).length < calculation.topBytes) :
    calculation.takeTop stack engine = .error (.stackUnderflow engine.current stack) engine := by
  unfold topBytes at short
  unfold takeTop
  cases top : calculation.top? with
  | none =>
    rw [top] at short
    exact absurd short (Nat.not_lt_zero _)
  | some width =>
    rw [top] at short
    exact Exec.pop_of_short short

theorem takeOperands_of_enough
    (enough : calculation.operandBytes ≤ (engine.bank.contents stack).length) :
    ∃ after,
      calculation.takeOperands stack engine =
        .ok (calculation.lowerOf (engine.bank.contents stack),
          calculation.topOf (engine.bank.contents stack)) after ∧
      engine.ChangedTo after (calculation.withoutOperands engine.bank.contents stack) := by
  unfold operandBytes at enough
  have topThere : calculation.topBytes ≤ (engine.bank.contents stack).length :=
    Nat.le_of_add_right_le enough
  obtain ⟨between, tookTop, current, pc, contents⟩ := takeTop_of_enough topThere
  have below : between.bank.contents stack =
      (engine.bank.contents stack).rdrop calculation.topBytes := by
    rw [contents, Function.update_self]
  have lowerThere : calculation.width.bytes ≤ (between.bank.contents stack).length := by
    rw [below, List.rdrop, List.length_take]
    omega
  have popped := Exec.pop_of_enough lowerThere
  rw [below] at popped
  refine ⟨between.popped stack calculation.width
    (calculation.lowerOf (engine.bank.contents stack)), ?_, current, pc, ?_⟩
  · rw [takeOperands, Exec.bind_of_ok tookTop, Exec.bind_of_ok popped]
    rfl
  · rw [Engine.contents_popped, below, contents, Function.update_idem, List.rdrop_add]
    rfl

theorem takeOperands_of_short
    (short : (engine.bank.contents stack).length < calculation.operandBytes) :
    ∃ after, calculation.takeOperands stack engine =
      .error (.stackUnderflow engine.current stack) after := by
  unfold operandBytes at short
  rcases Nat.lt_or_ge (engine.bank.contents stack).length calculation.topBytes with
    none | topThere
  · exact ⟨_, Exec.bind_of_error (takeTop_of_short none)⟩
  · obtain ⟨between, tookTop, current, _, contents⟩ := takeTop_of_enough topThere
    have lowerShort : (between.bank.contents stack).length < calculation.width.bytes := by
      rw [contents, Function.update_self, List.rdrop, List.length_take]
      omega
    refine ⟨between, (Exec.bind_of_ok tookTop).trans ?_⟩
    rw [← current]
    exact Exec.bind_of_error (Exec.pop_of_short lowerShort)

theorem leave_of_room (result : UInt32)
    (room : (engine.bank.contents stack).length + calculation.width.bytes ≤ 1024) :
    ∃ after, calculation.leave stack result engine = .ok none after ∧
      engine.ChangedTo after (Function.update engine.bank.contents stack
        (engine.bank.contents stack ++ calculation.width.toBytes result)) := by
  obtain ⟨grown, pushed, contents⟩ := Exec.push_of_room result room
  exact ⟨_, Exec.bind_of_ok pushed, rfl, rfl, contents⟩

theorem leave_of_full (result : UInt32)
    (full : 1024 < (engine.bank.contents stack).length + calculation.width.bytes) :
    calculation.leave stack result engine =
      .error (.stackOverflow engine.current stack) engine :=
  Exec.bind_of_error (Exec.push_of_full result full)

variable {source destination : StackId}

/-- There is room when the operands are off exactly if there was before or they left it. -/
theorem room_iff (calculation : Calculation) (engine : Engine σ π) (source destination : StackId) :
    (calculation.withoutOperands engine.bank.contents source destination).length +
        calculation.width.bytes ≤ 1024 ↔
      calculation.HasRoom engine.bank.contents source destination := by
  have most := engine.pointer_le source
  have few := calculation.width.bytes_le_four
  rw [StackBank.pointer_eq_length] at most
  unfold HasRoom withoutOperands operandBytes
  by_cases same : source = destination
  · subst same
    rw [Function.update_self, List.rdrop, List.length_take]
    refine iff_of_true ?_ (Or.inl rfl)
    omega
  · rw [Function.update_of_ne (Ne.symm same), or_iff_right same]

/-- The ways to end, in the order in which they are ruled out. -/
inductive Ending (calculation : Calculation) (engine : Engine σ π) (source destination : StackId) :
    EStateM.Result Fault (Engine σ π) (Option Halt) → Prop
  | underflow (after : Engine σ π)
      (short : (engine.bank.contents source).length < calculation.operandBytes) :
      Ending calculation engine source destination
        (.error (.stackUnderflow engine.current source) after)
  | undefined (after : Engine σ π)
      (enough : calculation.operandBytes ≤ (engine.bank.contents source).length)
      (missing : calculation.resultOf (engine.bank.contents source) = none) :
      Ending calculation engine source destination (.error (.divisionByZero engine.current) after)
  | overflow (after : Engine σ π) (result : UInt32)
      (enough : calculation.operandBytes ≤ (engine.bank.contents source).length)
      (computed : calculation.resultOf (engine.bank.contents source) = some result)
      (full : ¬ calculation.HasRoom engine.bank.contents source destination) :
      Ending calculation engine source destination
        (.error (.stackOverflow engine.current destination) after)
  | success (after : Engine σ π) (result : UInt32)
      (enough : calculation.operandBytes ≤ (engine.bank.contents source).length)
      (computed : calculation.resultOf (engine.bank.contents source) = some result)
      (room : calculation.HasRoom engine.bank.contents source destination)
      (changed : engine.ChangedTo after
        (calculation.withResult engine.bank.contents source destination result)) :
      Ending calculation engine source destination (.ok none after)

theorem perform_ending (calculation : Calculation) (engine : Engine σ π)
    (source destination : StackId) :
    calculation.Ending engine source destination
      (calculation.perform source destination engine) := by
  rcases Nat.lt_or_ge (engine.bank.contents source).length calculation.operandBytes with
    short | enough
  · obtain ⟨after, failed⟩ := takeOperands_of_short short
    rw [perform, Exec.bind_of_error failed]
    exact .underflow after short
  obtain ⟨between, took, changed⟩ := takeOperands_of_enough enough
  rw [perform, Exec.bind_of_ok took]
  show calculation.Ending engine source destination
    ((Exec.require (calculation.resultOf (engine.bank.contents source)) .divisionByZero >>=
      calculation.leave destination) between)
  cases computed : calculation.resultOf (engine.bank.contents source) with
  | none =>
    have failed : (Exec.require none .divisionByZero >>= calculation.leave destination) between =
        .error (.divisionByZero engine.current) between := by
      rw [← changed.current]
      rfl
    rw [failed]
    exact .undefined between enough computed
  | some result =>
    have required : Exec.require (some result) .divisionByZero between = .ok result between := rfl
    rw [Exec.bind_of_ok required]
    by_cases room : calculation.HasRoom engine.bank.contents source destination
    · obtain ⟨after, left, grown⟩ := leave_of_room result
        (changed.contents ▸ (calculation.room_iff engine source destination).mpr room)
      rw [left]
      refine .success after result enough computed room ⟨?_, ?_, ?_⟩
      · exact grown.current.trans changed.current
      · exact grown.pc.trans changed.pc
      · rw [grown.contents, changed.contents]
        rfl
    · have full := (calculation.room_iff engine source destination).not.mpr room
      rw [← changed.contents] at full
      rw [leave_of_full result (Nat.lt_of_not_le full), changed.current]
      exact .overflow between result enough computed room

end Calculation

/-- An instruction that computes, seen on the live bytes of the stacks. It succeeds exactly if the
source holds its operands, it does not divide by zero, and the destination is the source or has room
for the result. Then the operands are gone from the source, the bytes of the result are on top of
the destination, no other stack has changed, and the counter stands behind the instruction.
Otherwise it faults where it starts, for the first of these three conditions that is not met. -/
theorem calculation_on_live_bytes {σ π : Type} [OutputSink σ] [Peripheral π] {program : Image}
    {engine : Engine σ π} {instruction : Instruction} {calculation : Calculation}
    (executes : engine.Executes program instruction)
    (asked : instruction.operation.calculation? = some calculation) :
    let source := instruction.sourceStack
    let destination := instruction.destinationStack
    let contents := engine.bank.contents
    let enough := calculation.operandBytes ≤ (contents source).length
    let dividesByZero := instruction.operation.DividesByZero (contents source)
    let room := source = destination ∨
      (contents destination).length + calculation.width.bytes ≤ 1024
    ((∃ halt? after, engine.step program = .ok halt? after) ↔
      enough ∧ ¬ dividesByZero ∧ room) ∧
    (∀ halt? after, engine.step program = .ok halt? after →
      halt? = none ∧ after.pc = engine.pc + 2 ∧
      ∃ result, calculation.resultOf (contents source) = some result ∧
        after.bank.contents =
          Function.update (calculation.withoutOperands contents source) destination
            (calculation.withoutOperands contents source destination ++
              calculation.width.toBytes result)) ∧
    (¬ enough → raisedBy (engine.step program) = some (.stackUnderflow engine.pc source)) ∧
    (enough → dividesByZero →
      raisedBy (engine.step program) = some (.divisionByZero engine.pc)) ∧
    (enough → ¬ dividesByZero → ¬ room →
      raisedBy (engine.step program) = some (.stackOverflow engine.pc destination)) := by
  intro source destination contents enough dividesByZero room
  have undefined_iff : calculation.resultOf (contents source) = none ↔ dividesByZero :=
    Operation.resultOf_eq_none_iff asked (contents source)
  have nonzero_of {result : UInt32} (computed : calculation.resultOf (contents source) = result) :
      ¬ dividesByZero :=
    fun zero => Option.some_ne_none result (computed.symm.trans (undefined_iff.mpr zero))
  -- The state in which the instruction executes differs from the one before it in its place only.
  have ending := calculation.perform_ending (engine.enter instruction) source destination
  rw [executes.step_eq, Acts.execute_eq_perform asked]
  generalize calculation.perform _ _ (engine.enter instruction) = ended at ending ⊢
  cases ending with
  | underflow after short =>
    have scarce : ¬ enough := Nat.not_le_of_lt short
    exact ⟨by simp [scarce], by simp, fun _ => rfl, fun there => absurd there scarce,
      fun there => absurd there scarce⟩
  | undefined after there missing =>
    have zero : dividesByZero := undefined_iff.mp missing
    exact ⟨by simp [zero], by simp, fun scarce => absurd there scarce, fun _ _ => rfl,
      fun _ nonzero => absurd zero nonzero⟩
  | overflow after result there computed full =>
    have full : ¬ room := full
    have nonzero := nonzero_of computed
    exact ⟨by simp [full], by simp, fun scarce => absurd there scarce,
      fun _ zero => absurd zero nonzero, fun _ _ _ => rfl⟩
  | success after result there computed fits changed =>
    have nonzero := nonzero_of computed
    refine ⟨iff_of_true ⟨none, after, rfl⟩ ⟨there, nonzero, fits⟩, ?_,
      fun scarce => absurd there scarce, fun _ zero => absurd zero nonzero,
      fun _ _ full => absurd fits full⟩
    intro halt? last done
    cases done
    exact ⟨rfl, changed.pc, result, computed, changed.contents⟩

/-- A signed shift by four, from one stack to another: the count lies on top of the value, both are
gone afterwards, and the sign was repeated. -/
theorem calculation_on_live_bytes_shift :
    ∃ engine after : Engine ByteLog NoPeripheral,
      engine.bank.contents 1 = [0x01, 0x80, 0x04] ∧
      engine.step #[0x51, 0x00, 0x01, 0x80, 0x41, 0x00, 0x04, 0x16, 0x05] = .ok none after ∧
      after.pc = 9 ∧ after.bank.contents 1 = [] ∧ after.bank.contents 2 = [0x00, 0xf8] := by
  let program : Image := #[0x51, 0x00, 0x01, 0x80, 0x41, 0x00, 0x04, 0x16, 0x05]
  let engine := (Engine.standing program 2 (Engine.new ByteLog.empty NoPeripheral.mk)).2
  have held : engine.bank.contents 1 = [0x01, 0x80, 0x04] := by decide +kernel
  have empty : engine.bank.contents 2 = [] := by decide +kernel
  have executes : engine.Executes program ⟨0x051, 1, 2⟩ :=
    ⟨by decide +kernel, by decide +kernel, [0x16, 0x05], by decide +kernel, by decide +kernel⟩
  obtain ⟨succeeds, leaves, _⟩ := calculation_on_live_bytes executes rfl
  have nonzero : ¬ Operation.DividesByZero (.shift .rightSigned .w16) (engine.bank.contents 1) := by
    rintro ⟨_, _, same, _⟩
    cases same
  have enough : 3 ≤ (engine.bank.contents 1).length := by rw [held]; decide
  have room : (engine.bank.contents 2).length + 2 ≤ 1024 := by rw [empty]; decide
  obtain ⟨_, after, stepped⟩ := succeeds.mpr ⟨enough, nonzero, Or.inr room⟩
  obtain ⟨rfl, counter, result, computed, contents⟩ := leaves _ _ stepped
  have shifted : result = 0xf800 := by
    change Calculation.resultOf _ (engine.bank.contents 1) = _ at computed
    rw [held] at computed
    exact Option.some_inj.mp (computed.symm.trans (by decide))
  change after.bank.contents =
    Function.update (Function.update engine.bank.contents 1 ((engine.bank.contents 1).rdrop 3)) 2
      (Function.update engine.bank.contents 1 ((engine.bank.contents 1).rdrop 3) 2 ++
        Width.w16.toBytes result) at contents
  rw [held, Function.update_of_ne (by decide), empty, shifted] at contents
  refine ⟨engine, after, held, stepped, counter.trans (by decide +kernel), ?_, ?_⟩
  · rw [contents, Function.update_of_ne (by decide), Function.update_self]
    decide
  · rw [contents, Function.update_self]
    decide

end Quadstack
