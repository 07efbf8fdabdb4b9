import Mathlib
import Quadstack.Machine.ScriptedPeripheral
import Quadstack.Proofs.Stack.Live

/-!
Peripherals that use the bank through its operations. A peripheral is handed the bank and may do
anything with it that the bank lets it do. What it does is then a tree: at each node it asks for one
operation, and the reply decides where it goes on. Such a tree can be carried out on any bank
that has the operations, in whatever form it keeps its numbers.
-/

namespace Quadstack

/-- Work on a bank, one operation after another, up to a result. A depth is a 64-bit number. -/
inductive BankProgram (α : Type) where
  | done (result : α)
  | push (stack : StackId) (width : Width) (value : UInt32)
      (next : Except StackError Unit → BankProgram α)
  | pop (stack : StackId) (width : Width) (next : Except StackError UInt32 → BankProgram α)
  | peekAt (stack : StackId) (width : Width) (depth : UInt64)
      (next : Except StackError UInt32 → BankProgram α)
  | contents (stack : StackId) (next : List UInt8 → BankProgram α)
  | reset (next : BankProgram α)

namespace BankProgram

/-- The reply to an operation, and the bank after it. -/
def reply {α : Type} :
    EStateM.Result StackError TracedBank α → Except StackError α × TracedBank
  | .ok value after => (.ok value, after)
  | .error error after => (.error error, after)

/-- Carries the work out. -/
def perform {α : Type} : BankProgram α → TracedBank → α × TracedBank
  | .done result, traced => (result, traced)
  | .push stack width value next, traced =>
    let (answer, after) := reply (TracedBank.push stack width value traced)
    perform (next answer) after
  | .pop stack width next, traced =>
    let (answer, after) := reply (TracedBank.pop stack width traced)
    perform (next answer) after
  | .peekAt stack width depth next, traced =>
    let (answer, after) := reply (TracedBank.peekAt stack width depth.toNat traced)
    perform (next answer) after
  | .contents stack next, traced => perform (next (traced.bank.contents stack)) traced
  | .reset next, traced => perform next { traced with bank := traced.bank.reset }

end BankProgram

/-- A peripheral that touches the bank only through its operations. -/
class BankClient (π : Type) [Peripheral π] where
  /-- What it does for an instruction, up to its own next state and its verdict. -/
  conduct : Instruction → π → BankProgram (π × Except Refusal Unit)
  dispatch_eq (instruction : Instruction) (peripheral : π) (traced : TracedBank) :
    Peripheral.dispatch instruction (peripheral, traced) =
      match (conduct instruction peripheral).perform traced with
      | ((after, .ok ()), worked) => .ok () (after, worked)
      | ((after, .error refusal), worked) => .error refusal (after, worked)

instance : BankClient NoPeripheral where
  conduct _ peripheral := .done (peripheral, .ok ())
  dispatch_eq _ _ _ := rfl

/-! ### Scripts -/

/-- A depth in 64 bits. A stack is never that deep, so the largest number does for all beyond. -/
def clampedDepth (depth : Nat) : UInt64 := UInt64.ofNat (min depth (2 ^ 64 - 1))

theorem TracedBank.peekAt_clampedDepth (stack : StackId) (width : Width) (depth : Nat) :
    peekAt stack width (clampedDepth depth).toNat = peekAt stack width depth := by
  have exact : (clampedDepth depth).toNat = min depth (2 ^ 64 - 1) :=
    UInt64.toNat_ofNat_of_lt' (lt_of_le_of_lt (Nat.min_le_right _ _) (by decide))
  funext traced
  have short : (traced.bank.contents stack).length ≤ 1024 := by
    rw [← StackBank.pointer_eq_length]
    exact (traced.bank.stack stack).pointer_le
  have same : traced.bank.peekAt stack width (min depth (2 ^ 64 - 1)) =
      traced.bank.peekAt stack width depth := by
    by_cases small : depth ≤ 2 ^ 64 - 1
    · rw [Nat.min_eq_left small]
    · rw [Nat.min_eq_right (Nat.le_of_not_le small), StackBank.peekAt_eq, StackBank.peekAt_eq,
        if_neg (by omega), if_neg (by omega)]
  unfold peekAt
  rw [exact, same]

/-- The acts of a script as work on a bank. -/
def ScriptAction.conduct (after : ScriptedPeripheral) (instruction : Instruction)
    (accumulator : UInt32) :
    List ScriptAction → BankProgram (ScriptedPeripheral × Except Refusal Unit)
  | [] => .done (after, .ok ())
  | action :: rest =>
    let proceed (accumulator : UInt32) := conduct after instruction accumulator rest
    let fail (error : StackError) := BankProgram.done (after, Except.error (Refusal.stack error))
    match action with
    | .deny => .done (after, .error .denied)
    | .push stack width value =>
      .push (stack.resolve instruction) width value fun
        | .ok () => proceed accumulator
        | .error error => fail error
    | .pushAccumulator stack width =>
      .push (stack.resolve instruction) width accumulator fun
        | .ok () => proceed accumulator
        | .error error => fail error
    | .pop stack width =>
      .pop (stack.resolve instruction) width fun
        | .ok value => proceed value
        | .error error => fail error
    | .peekAt stack width depth =>
      .peekAt (stack.resolve instruction) width (clampedDepth depth) fun
        | .ok value => proceed value
        | .error error => fail error
    | .reset => .reset (proceed accumulator)

/-- The verdict of a script and the bank after it. -/
def ScriptAction.verdict (after : ScriptedPeripheral) :
    EStateM.Result Refusal TracedBank Unit →
      (ScriptedPeripheral × Except Refusal Unit) × TracedBank
  | .ok () worked => ((after, .ok ()), worked)
  | .error refusal worked => ((after, .error refusal), worked)

theorem ScriptAction.perform_conduct (after : ScriptedPeripheral) (instruction : Instruction)
    (accumulator : UInt32) (actions : List ScriptAction) (traced : TracedBank) :
    (conduct after instruction accumulator actions).perform traced =
      verdict after (performAll instruction accumulator actions traced) := by
  induction actions generalizing accumulator traced with
  | nil => rfl
  | cons action rest inductionHypothesis =>
    cases action with
    | deny => rfl
    | push stack width value =>
      simp only [conduct, BankProgram.perform, performAll, perform, bind, EStateM.bind,
        EStateM.adaptExcept, pure, EStateM.pure]
      cases TracedBank.push (stack.resolve instruction) width value traced with
      | ok _ worked => exact inductionHypothesis _ _
      | error error worked => rfl
    | pushAccumulator stack width =>
      simp only [conduct, BankProgram.perform, performAll, perform, bind, EStateM.bind,
        EStateM.adaptExcept, pure, EStateM.pure]
      cases TracedBank.push (stack.resolve instruction) width accumulator traced with
      | ok _ worked => exact inductionHypothesis _ _
      | error error worked => rfl
    | pop stack width =>
      simp only [conduct, BankProgram.perform, performAll, perform, bind, EStateM.bind,
        EStateM.adaptExcept]
      cases TracedBank.pop (stack.resolve instruction) width traced with
      | ok value worked => exact inductionHypothesis _ _
      | error error worked => rfl
    | peekAt stack width depth =>
      simp only [conduct, BankProgram.perform, performAll, perform, bind, EStateM.bind,
        EStateM.adaptExcept, TracedBank.peekAt_clampedDepth]
      cases TracedBank.peekAt (stack.resolve instruction) width depth traced with
      | ok value worked => exact inductionHypothesis _ _
      | error error worked => rfl
    | reset => exact inductionHypothesis _ _

instance : BankClient ScriptedPeripheral where
  conduct instruction peripheral :=
    ScriptAction.conduct { peripheral with seen := peripheral.seen.push instruction } instruction 0
      (ScriptedPeripheral.actionsFor peripheral.rules instruction)
  dispatch_eq instruction peripheral traced := by
    rw [ScriptAction.perform_conduct]
    unfold Peripheral.dispatch instPeripheralScriptedPeripheral
    dsimp only
    cases ScriptAction.performAll instruction 0
      (ScriptedPeripheral.actionsFor peripheral.rules instruction) traced with
    | ok value worked => rfl
    | error refusal worked => rfl

end Quadstack
