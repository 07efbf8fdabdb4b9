import Mathlib
import Quadstack.Machine.ScriptedPeripheral
import Quadstack.Proofs.Machine.SameCourse

/-!
Peripherals that follow a script. What such a peripheral does for an instruction is laid down in a
part of it that it never changes, and it works on the stacks through their operations alone. So
whatever relation between two banks these operations respect is respected by the peripheral, however
often it was called before and whatever it has seen since.
-/

namespace Quadstack

/-- A relation between banks that every operation on them respects, also that of emptying them. -/
structure ClientRelation (B : StackBank → StackBank → Prop) : Prop extends BankRelation B where
  reset {first second : StackBank} : B first second → B first.reset second.reset

theorem ClientRelation.eq : ClientRelation Eq where
  toBankRelation := .eq
  reset same := congrArg StackBank.reset same

/-! ### Scripts in lock step -/

namespace ScriptAction

variable {B : StackBank → StackBank → Prop}

/-- One act of a script on related banks. -/
theorem perform_alike (banks : ClientRelation B) (instruction : Instruction)
    (accumulator : UInt32) (action : ScriptAction) :
    Lockstep (TracedBank.Alike B) UInt32 (action.perform instruction accumulator)
      (action.perform instruction accumulator) := by
  cases action with
  | deny => exact .throw _
  | push stack width value =>
    exact .bind (.adaptExcept _ (banks.push _ width value)) fun _ => .pure _
  | pushAccumulator stack width =>
    exact .bind (.adaptExcept _ (banks.push _ width accumulator)) fun _ => .pure _
  | pop stack width => exact .adaptExcept _ (banks.pop _ width)
  | peekAt stack width depth => exact .adaptExcept _ (banks.peekAt _ width depth)
  | reset =>
    refine .bind ?_ fun _ => .pure _
    rintro ⟨first, moves⟩ ⟨second, _⟩ ⟨related, rfl⟩
    exact .ok () ⟨banks.reset related, rfl⟩

theorem performAll_alike (banks : ClientRelation B) (instruction : Instruction)
    (accumulator : UInt32) (actions : List ScriptAction) :
    Lockstep (TracedBank.Alike B) Unit (performAll instruction accumulator actions)
      (performAll instruction accumulator actions) := by
  induction actions generalizing accumulator with
  | nil => exact .pure ()
  | cons action rest inductionHypothesis =>
    exact .bind (action.perform_alike banks instruction accumulator) inductionHypothesis

end ScriptAction

/-! ### Peripherals with a script -/

/-- A peripheral whose work is laid down in a part of it that it never changes. -/
class FollowsScript (π : Type) [Peripheral π] where
  Script : Type
  script : π → Script
  dispatch {B : StackBank → StackBank → Prop} (banks : ClientRelation B) (rules : Script)
    (instruction : Instruction) :
    Lockstep
      (HandedAlike B fun first second : π => script first = rules ∧ script second = rules)
      Unit (Peripheral.dispatch instruction) (Peripheral.dispatch instruction)

instance : FollowsScript NoPeripheral where
  Script := Unit
  script _ := ()
  dispatch _ _ _ := .pure ()

instance : FollowsScript ScriptedPeripheral where
  Script := List ScriptRule
  script := ScriptedPeripheral.rules
  dispatch banks rules instruction := by
    rintro ⟨first, traced⟩ ⟨second, other⟩ ⟨⟨rfl, sameRules⟩, alike⟩
    have same := ScriptAction.performAll_alike banks instruction 0
      (ScriptedPeripheral.actionsFor first.rules instruction) traced other alike
    have rulesToo : second.rules = first.rules := sameRules
    unfold Peripheral.dispatch instPeripheralScriptedPeripheral
    dsimp only
    rw [rulesToo]
    generalize ScriptAction.performAll instruction 0
      (ScriptedPeripheral.actionsFor first.rules instruction) traced = result at same ⊢
    generalize ScriptAction.performAll instruction 0
      (ScriptedPeripheral.actionsFor first.rules instruction) other = otherResult at same ⊢
    cases same with
    | ok value worked => exact .ok () ⟨⟨rfl, rfl⟩, worked⟩
    | error refusal worked => exact .error refusal ⟨⟨rfl, rfl⟩, worked⟩

end Quadstack
