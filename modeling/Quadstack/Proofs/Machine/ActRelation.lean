import Mathlib
import Quadstack.Machine.Semantics

/-!
Two machines that run the same instructions. The semantics is written over the acts a machine
offers, so it can tell nothing else about the machine. A relation between the work of two machines
that holds of every act, of doing nothing and of doing one thing after another therefore holds of
every instruction. This is the only place where the instructions are gone through for a comparison
of two machines; everything that compares two runs supplies a relation and checks its acts.

Setting the flags stands apart from the other acts, because only arithmetic and logic do it. A
relation that holds of the other acts still holds of every other instruction.

The selectors of an instruction that was read from a word are below four. Acts need only be related
at such selectors.
-/

namespace Quadstack

/-! ### Selectors of a decoded instruction -/

theorem Instruction.source_decode_lt (word : UInt16) : (decode word).source < 4 := by
  rw [UInt8.lt_iff_toNat_lt]
  simp only [decode, UInt16.toNat_toUInt8, UInt16.toNat_and]
  have low : (word >>> 2).toNat &&& (3 : UInt16).toNat ≤ 3 := Nat.and_le_right
  have small : (4 : UInt8).toNat = 4 := rfl
  omega

theorem Instruction.destination_decode_lt (word : UInt16) : (decode word).destination < 4 := by
  rw [UInt8.lt_iff_toNat_lt]
  simp only [decode, UInt16.toNat_toUInt8, UInt16.toNat_and]
  have low : word.toNat &&& (3 : UInt16).toNat ≤ 3 := Nat.and_le_right
  have small : (4 : UInt8).toNat = 4 := rfl
  omega

namespace Acts

variable {m n : Type → Type} [Monad m] [Acts m] [Monad n] [Acts n]

/-- A relation between the work of two machines on their programs that every act respects, the
setting of flags left aside. -/
structure RespectsQuiet (Rel : ∀ α : Type, m α → n α → Prop) (program other : Image) : Prop where
  pure {α : Type} (value : α) : Rel α (pure value) (pure value)
  bind {α β : Type} {first : m α} {second : n α} {next : α → m β} {following : α → n β} :
    Rel α first second → (∀ value, Rel β (next value) (following value)) →
      Rel β (first >>= next) (second >>= following)
  push (selector : UInt8) (width : Width) (value : UInt32) : selector < 4 →
    Rel Unit (push selector width value) (push selector width value)
  pop (selector : UInt8) (width : Width) : selector < 4 →
    Rel UInt32 (pop selector width) (pop selector width)
  peekAt (selector : UInt8) (width : Width) (depth : UInt32) : selector < 4 →
    Rel UInt32 (peekAt selector width depth) (peekAt selector width depth)
  pointer (selector : UInt8) : selector < 4 → Rel UInt32 (pointer selector) (pointer selector)
  fetchLiteral (width : Width) :
    Rel UInt32 (fetchLiteral program width) (fetchLiteral other width)
  fetchText : Rel (List UInt8) (fetchText program) (fetchText other)
  arith (op : ArithOp) (width : Width) (lhs rhs : UInt32) :
    Rel UInt32 (arith op width lhs rhs) (arith op width lhs rhs)
  shift (op : ShiftOp) (width : Width) (value count : UInt32) :
    Rel UInt32 (shift op width value count) (shift op width value count)
  satisfies (condition : Condition) : Rel Bool (satisfies condition) (satisfies condition)
  jumpTo (target : UInt32) : Rel Unit (jumpTo target) (jumpTo target)
  branch (condition : Condition) : Rel Unit (branch program condition) (branch other condition)
  returnAddress : Rel UInt32 returnAddress returnAddress
  halt (reason : HaltReason) : Rel Halt (halt reason) (halt reason)
  emit (event : DebugEvent) : Rel Unit (emit event) (emit event)
  delegate (instruction : Instruction) : Rel Unit (delegate instruction) (delegate instruction)

/-- A relation that every act respects. -/
structure Respects (Rel : ∀ α : Type, m α → n α → Prop) (program other : Image) : Prop
    extends RespectsQuiet Rel program other where
  setFlags (width : Width) (value : UInt32) :
    Rel Unit (setFlags width value) (setFlags width value)

variable {Rel : ∀ α : Type, m α → n α → Prop} {program other : Image}

namespace RespectsQuiet

theorem proceed (respects : RespectsQuiet Rel program other) :
    Rel (Option Halt) proceed proceed :=
  respects.pure none

theorem popOperands (respects : RespectsQuiet Rel program other) (selector : UInt8)
    (width : Width) (small : selector < 4) :
    Rel (UInt32 × UInt32) (popOperands selector width) (popOperands selector width) :=
  respects.bind (respects.pop selector width small) fun rhs =>
    respects.bind (respects.pop selector width small) fun lhs => respects.pure (lhs, rhs)

theorem jumpIf (respects : RespectsQuiet Rel program other) (condition : Condition)
    (target : UInt32) : Rel Unit (jumpIf condition target) (jumpIf condition target) := by
  refine respects.bind (respects.satisfies condition) fun holds => ?_
  cases holds with
  | true => exact respects.jumpTo target
  | false => exact respects.pure ()

theorem haltIf (respects : RespectsQuiet Rel program other) (condition : Condition) :
    Rel (Option Halt) (haltIf condition) (haltIf condition) := by
  refine respects.bind (respects.satisfies condition) fun holds => ?_
  cases holds with
  | true => exact respects.bind (respects.halt _) fun halt => respects.pure (some halt)
  | false => exact respects.pure none

/-- An instruction that does not set the flags. -/
theorem execute (respects : RespectsQuiet Rel program other) (instruction : Instruction)
    (source : instruction.source < 4) (destination : instruction.destination < 4)
    (quiet : instruction.operation.affectsFlags = false) :
    Rel (Option Halt) (execute program instruction) (execute other instruction) := by
  unfold Acts.execute
  generalize instruction.operation = operation at quiet ⊢
  cases operation with
  | nop => exact respects.proceed
  | literal width =>
    refine respects.bind (respects.fetchLiteral width) fun value => ?_
    exact respects.bind (respects.push _ width value destination) fun _ => respects.proceed
  | copy width =>
    refine respects.bind (respects.peekAt _ width 0 source) fun value => ?_
    exact respects.bind (respects.push _ width value destination) fun _ => respects.proceed
  | move width =>
    refine respects.bind (respects.pop _ width source) fun value => ?_
    exact respects.bind (respects.push _ width value destination) fun _ => respects.proceed
  | swap width =>
    refine respects.bind (respects.pop _ width source) fun first => ?_
    refine respects.bind (respects.pop _ width destination) fun second => ?_
    refine respects.bind (respects.push _ width first destination) fun _ => ?_
    exact respects.bind (respects.push _ width second source) fun _ => respects.proceed
  | peekDeep width =>
    refine respects.bind (respects.pop _ .w32 source) fun depth => ?_
    refine respects.bind (respects.peekAt _ width depth source) fun value => ?_
    exact respects.bind (respects.push _ width value destination) fun _ => respects.proceed
  | stackPointer =>
    refine respects.bind (respects.pointer _ source) fun bytes => ?_
    exact respects.bind (respects.push _ .w32 bytes destination) fun _ => respects.proceed
  | delete width => exact respects.bind (respects.pop _ width source) fun _ => respects.proceed
  | arith op width => cases quiet
  | shift op width => cases quiet
  | logic op width => cases quiet
  | unary op width => cases quiet
  | jump condition =>
    refine respects.bind (respects.pop _ .address source) fun target => ?_
    exact respects.bind (respects.jumpIf condition target) fun _ => respects.proceed
  | branch condition => exact respects.bind (respects.branch condition) fun _ => respects.proceed
  | call =>
    refine respects.bind (respects.pop _ .address source) fun target => ?_
    refine respects.bind respects.returnAddress fun address => ?_
    refine respects.bind (respects.push _ .address address destination) fun _ => ?_
    exact respects.bind (respects.jumpTo target) fun _ => respects.proceed
  | ret =>
    refine respects.bind (respects.pop _ .address source) fun target => ?_
    exact respects.bind (respects.jumpTo target) fun _ => respects.proceed
  | halt condition => exact respects.haltIf condition
  | debugText =>
    refine respects.bind respects.fetchText fun bytes => ?_
    exact respects.bind (respects.emit (.text bytes)) fun _ => respects.proceed
  | debugValue width =>
    refine respects.bind (respects.pop _ width source) fun value => ?_
    exact respects.bind (respects.emit (.value width value)) fun _ => respects.proceed
  | reserved =>
    exact respects.bind (respects.delegate instruction) fun _ => respects.proceed

end RespectsQuiet

namespace Respects

theorem commit (respects : Respects Rel program other) (selector : UInt8) (width : Width)
    (result : UInt32) (small : selector < 4) :
    Rel Unit (commit selector width result) (commit selector width result) :=
  respects.bind (respects.push selector width result small) fun _ =>
    respects.setFlags width result

/-- A relation that every act respects is respected by every instruction. -/
theorem execute (respects : Respects Rel program other) (instruction : Instruction)
    (source : instruction.source < 4) (destination : instruction.destination < 4) :
    Rel (Option Halt) (execute program instruction) (execute other instruction) := by
  by_cases quiet : instruction.operation.affectsFlags = false
  · exact respects.toRespectsQuiet.execute instruction source destination quiet
  · unfold Acts.execute
    generalize instruction.operation = operation at quiet ⊢
    cases operation with
    | arith op width =>
      refine respects.bind (respects.popOperands _ width source) fun operands => ?_
      refine respects.bind (respects.arith op width operands.1 operands.2) fun result => ?_
      exact respects.bind (respects.commit _ width result destination) fun _ => respects.proceed
    | shift op width =>
      refine respects.bind (respects.pop _ .w8 source) fun count => ?_
      refine respects.bind (respects.pop _ width source) fun value => ?_
      refine respects.bind (respects.shift op width value count) fun result => ?_
      exact respects.bind (respects.commit _ width result destination) fun _ => respects.proceed
    | logic op width =>
      refine respects.bind (respects.popOperands _ width source) fun operands => ?_
      exact respects.bind (respects.commit _ width _ destination) fun _ => respects.proceed
    | unary op width =>
      refine respects.bind (respects.pop _ width source) fun value => ?_
      exact respects.bind (respects.commit _ width _ destination) fun _ => respects.proceed
    | _ => exact absurd rfl quiet

end Respects

end Acts

end Quadstack
