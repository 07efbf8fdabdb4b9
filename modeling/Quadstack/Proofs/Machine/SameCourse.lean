import Mathlib
import Quadstack.Proofs.Machine.Runs

/-!
Engines on the same course. What an engine has emitted and what stands in its journal are records:
an act writes them and none reads them. Two engines that agree in everything else are
therefore in lock step from the first step of a run to its end, even if their sinks are of
different kinds and one of them refuses what the other takes.

How close the stacks and the peripherals of the two have to be is left open. All that is asked is
that work on the stacks keeps them close, and that the peripherals do the same on stacks that are.
-/

namespace Quadstack

section

variable {σ τ π ρ : Type}

/-- Two engines that may differ in output and journal. Their banks are related by `B`, their
peripherals by `P`, and everything else is the same. -/
structure SameCourse (B : StackBank → StackBank → Prop) (P : π → ρ → Prop) (first : Engine σ π)
    (second : Engine τ ρ) : Prop where
  bank : B first.bank second.bank
  flags : first.flags = second.flags
  pc : first.pc = second.pc
  current : first.current = second.current
  landed : first.landed = second.landed
  fault : first.fault = second.fault
  steps : first.steps = second.steps
  stepLimit : first.stepLimit = second.stepLimit
  peripheral : P first.peripheral second.peripheral

/-- What two related peripherals are handed: themselves, and related banks with the same moves. -/
structure HandedAlike (B : StackBank → StackBank → Prop) (P : π → ρ → Prop)
    (first : π × TracedBank) (second : ρ × TracedBank) : Prop where
  peripheral : P first.1 second.1
  traced : TracedBank.Alike B first.2 second.2

namespace SameCourse

variable {B : StackBank → StackBank → Prop} {P : π → ρ → Prop}
variable {first : Engine σ π} {second : Engine τ ρ}

theorem adopt (same : SameCourse B P first second) {traced other : TracedBank}
    (alike : TracedBank.Alike B traced other) :
    SameCourse B P (first.adopt traced) (second.adopt other) :=
  { same with bank := alike.bank }

theorem latch (same : SameCourse B P first second) (fault : Fault) :
    SameCourse B P (first.latch fault) (second.latch fault) := by
  have held : first.latchedFault fault = second.latchedFault fault := by
    rw [Engine.latchedFault, Engine.latchedFault, same.fault]
  exact { same with fault := congrArg some held }

/-- A sink that takes an event and one that refuses it leave their engines on the same course. -/
theorem emit [OutputSink σ] [OutputSink τ] (event : DebugEvent) :
    Lockstep (SameCourse (σ := σ) (τ := τ) B P) Unit (Exec.emit event) (Exec.emit event) := by
  intro first second same
  unfold Exec.emit
  cases OutputSink.receive event first.output with
  | ok _ output | error _ output =>
    cases OutputSink.receive event second.output with
    | ok _ other | error _ other => exact .ok () { same with }

variable [Peripheral π] [Peripheral ρ]

theorem delegate (instruction : Instruction)
    (dispatch : Lockstep (HandedAlike B P) Unit (Peripheral.dispatch instruction)
      (Peripheral.dispatch instruction)) :
    Lockstep (SameCourse (σ := σ) (τ := τ) B P) Unit (Exec.delegate instruction)
      (Exec.delegate instruction) := by
  refine .delegate instruction SameCourse.current ?_ dispatch ?_
  · intro first second same
    exact ⟨same.peripheral, same.bank, rfl⟩
  · intro first second left other message same worked
    exact { same with bank := worked.traced.bank, peripheral := worked.peripheral }

variable [OutputSink σ] [OutputSink τ]

/-- Whole runs go in lock step, whatever the two sinks do. -/
theorem runsAlike (banks : BankRelation B)
    (dispatch : ∀ instruction, Lockstep (HandedAlike B P) Unit (Peripheral.dispatch instruction)
      (Peripheral.dispatch instruction)) :
    RunsAlike (σ := σ) (τ := τ) B (SameCourse B P) where
  banks := banks
  bank := SameCourse.bank
  flags := SameCourse.flags
  pc := SameCourse.pc
  current := SameCourse.current
  landed := SameCourse.landed
  setPc pc same := { same with pc := rfl }
  transfer target same := { same with pc := rfl, landed := rfl }
  setFlags flags same := { same with flags := rfl }
  adopt same alike := same.adopt alike
  emit := emit
  delegate instruction := delegate instruction (dispatch instruction)
  begin same := { same with current := same.pc, landed := rfl }
  count instruction same := { same with steps := congrArg (· + 1) same.steps }
  spent same := by
    rw [Engine.spentLimit?, Engine.spentLimit?, same.stepLimit, same.steps]
  conclude halt same := { same with }
  latched := SameCourse.fault
  latch fault same := same.latch fault

end SameCourse

end

end Quadstack
