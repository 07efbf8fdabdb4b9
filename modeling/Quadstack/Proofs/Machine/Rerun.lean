import Mathlib
import Quadstack.Proofs.Machine.History

/-!
Running a program a second time. Two runs of one program have the same live bytes, because live
bytes are all that a run can see. That they also leave the same bytes above the pointers takes
another argument, as the second run begins on cells that the first one has left behind.

It is an argument about single cells. At every moment of the two runs a cell holds the same byte in
both, or neither run has written to it yet and it still holds what it held when its run began. A
cell of the second kind that lasts to the end holds, in the second run, what the first run left
there, and that is also what the first run has there. So once both runs are over there is no
difference left.
-/

namespace Quadstack

/-! ### Cells that are the same or untouched -/

/-- Two stores of cells, one begun on the cells `before` and the other on the cells `left`: every
cell is the same in both or untouched in both. -/
def SameOrUntouched (before left first second : Array UInt8) : Prop :=
  ∀ place : Nat, first[place]? = second[place]? ∨
    first[place]? = before[place]? ∧ second[place]? = left[place]?

namespace SameOrUntouched

variable {before left first second : Array UInt8}

/-- Writing one byte at the same place makes that cell the same. -/
theorem set (related : SameOrUntouched before left first second) (sizes : first.size = second.size)
    (start : Nat) (byte : UInt8) :
    SameOrUntouched before left (first.setIfInBounds start byte)
      (second.setIfInBounds start byte) := by
  intro place
  by_cases here : start = place
  · subst here
    rw [Array.getElem?_setIfInBounds_self, Array.getElem?_setIfInBounds_self, sizes]
    exact Or.inl rfl
  · rw [Array.getElem?_setIfInBounds_ne here, Array.getElem?_setIfInBounds_ne here]
    exact related place

/-- So does writing a run of bytes from the same place on. -/
theorem overwrite (related : SameOrUntouched before left first second)
    (sizes : first.size = second.size) (start : Nat) (run : List UInt8) :
    SameOrUntouched before left (overwrite first start run) (overwrite second start run) := by
  induction run generalizing first second start with
  | nil => exact related
  | cons byte rest inductionHypothesis =>
    have sizesToo : (first.setIfInBounds start byte).size =
        (second.setIfInBounds start byte).size := by
      rw [Array.size_setIfInBounds, Array.size_setIfInBounds, sizes]
    exact inductionHypothesis (related.set sizes start byte) sizesToo (start + 1)

/-- When the first store is what the second was begun on, the two are the same. -/
theorem eq_of_left (related : SameOrUntouched before left left second) : left = second := by
  refine Array.ext_getElem? fun place => ?_
  rcases related place with same | ⟨_, untouched⟩
  · exact same
  · exact untouched.symm

end SameOrUntouched

/-! ### Stacks and banks in two runs -/

/-- A stack in two runs of a program: the same live bytes, and every cell the same or untouched. -/
structure ByteStack.Retraces (before left first second : ByteStack) : Prop where
  live : first.live = second.live
  cells : SameOrUntouched before.cells.toArray left.cells.toArray first.cells.toArray
    second.cells.toArray

namespace ByteStack

variable {before left first second : ByteStack}

theorem Retraces.pointer (related : Retraces before left first second) :
    first.pointer = second.pointer := by
  rw [← length_live, related.live, length_live]

/-- Two emptied stacks are at the start of their runs. -/
theorem Retraces.start (before left : ByteStack) :
    Retraces before left before.clear left.clear where
  live := by rw [live_clear, live_clear]
  cells _ := Or.inr ⟨rfl, rfl⟩

theorem Retraces.clear (related : Retraces before left first second) :
    Retraces before left first.clear second.clear where
  live := by rw [live_clear, live_clear]
  cells := related.cells

theorem Retraces.lower (related : Retraces before left first second) (count : Nat) :
    Retraces before left (first.lower count) (second.lower count) where
  live := by rw [live_lower, live_lower, related.live]
  cells := related.cells

/-- Bytes fit in both runs or in neither, and are written to the same cells. -/
theorem Retraces.append? (related : Retraces before left first second) (bytes : List UInt8) :
    Option.Rel (Retraces before left) (first.append? bytes) (second.append? bytes) := by
  have grown {stack : ByteStack} (fits : stack.pointer + bytes.length ≤ capacity) :
      stack.append? bytes = some {
        cells := ⟨overwrite stack.cells.toArray stack.pointer bytes, by simp⟩
        pointer := stack.pointer + bytes.length
        pointer_le := fits } := dif_pos fits
  by_cases fits : first.pointer + bytes.length ≤ capacity
  · have fitsToo : second.pointer + bytes.length ≤ capacity := by
      rwa [← related.pointer]
    have live := live_of_append? (grown fits)
    have liveToo := live_of_append? (grown fitsToo)
    rw [grown fits, grown fitsToo]
    refine .some ⟨?_, ?_⟩
    · rw [live, liveToo, related.live]
    · show SameOrUntouched _ _ (overwrite first.cells.toArray first.pointer bytes)
        (overwrite second.cells.toArray second.pointer bytes)
      rw [related.pointer]
      exact related.cells.overwrite (by simp) _ bytes
  · have full (stack : ByteStack) (same : stack.pointer = first.pointer) :
        stack.append? bytes = none := dif_neg (by rwa [same])
    rw [full first rfl, full second related.pointer.symm]
    exact .none

theorem Retraces.eq_of_left (related : Retraces before left left second) : left = second := by
  have pointers := related.pointer
  have cells := related.cells.eq_of_left
  obtain ⟨⟨leftCells, _⟩, leftPointer, _⟩ := left
  obtain ⟨⟨secondCells, _⟩, secondPointer, _⟩ := second
  obtain rfl : leftCells = secondCells := cells
  obtain rfl : leftPointer = secondPointer := pointers
  rfl

end ByteStack

namespace StackBank

theorem eq_of_stacks {first second : StackBank}
    (same : ∀ stack, first.stack stack = second.stack stack) : first = second := by
  obtain ⟨firstStacks⟩ := first
  obtain ⟨secondStacks⟩ := second
  refine congrArg StackBank.mk (Vector.ext fun index inside => ?_)
  exact same ⟨index, inside⟩

/-- A bank in two runs of a program, of which the first began on the cells of `before` and the
second on those of `left`. -/
def Retraces (before left first second : StackBank) : Prop :=
  ∀ stack, ByteStack.Retraces (before.stack stack) (left.stack stack) (first.stack stack)
    (second.stack stack)

namespace Retraces

variable {before left first second : StackBank}

theorem stack_reset (bank : StackBank) (stack : StackId) :
    bank.reset.stack stack = (bank.stack stack).clear := by
  simp [StackBank.stack, reset]

theorem start (before left : StackBank) : Retraces before left before.reset left.reset := by
  intro stack
  rw [stack_reset, stack_reset]
  exact .start _ _

theorem sameContents (related : Retraces before left first second) : SameContents first second :=
  funext fun stack => (related stack).live

theorem update (related : Retraces before left first second) (id : StackId)
    {stack other : ByteStack}
    (changed : ByteStack.Retraces (before.stack id) (left.stack id) stack other) :
    Retraces before left (first.update id stack) (second.update id other) := by
  intro place
  by_cases here : place = id
  · subst here
    rw [stack_update_self, stack_update_self]
    exact changed
  · rw [stack_update_other _ _ _ _ here, stack_update_other _ _ _ _ here]
    exact related place

theorem eq_of_left (related : Retraces before left left second) : left = second :=
  eq_of_stacks fun stack => (related stack).eq_of_left

/-- All work on the stacks keeps their cells the same or untouched. -/
theorem clientRelation (before left : StackBank) : ClientRelation (Retraces before left) where
  pointer related stack := related.sameContents.pointer stack
  push stack width value := by
    rintro ⟨first, moves⟩ ⟨second, _⟩ ⟨related, rfl⟩
    have grown := (related stack).append? (width.toBytes value)
    unfold TracedBank.push StackBank.push
    dsimp only
    generalize (first.stack stack).append? (width.toBytes value) = result at grown ⊢
    generalize (second.stack stack).append? (width.toBytes value) = other at grown ⊢
    cases grown with
    | none => exact .error _ ⟨related, rfl⟩
    | some changed =>
      have after := related.update stack changed
      dsimp only
      rw [after.sameContents.pointer stack]
      exact .ok () ⟨after, rfl⟩
  pop stack width := by
    rintro ⟨first, moves⟩ ⟨second, _⟩ ⟨related, rfl⟩
    have after := related.update stack ((related stack).lower width.bytes)
    unfold TracedBank.pop
    dsimp only
    rw [pop_eq, pop_eq, related.sameContents.peekAt]
    cases second.peekAt stack width 0 with
    | ok value =>
      dsimp only [Except.map]
      rw [after.sameContents.pointer stack]
      exact .ok value ⟨after, rfl⟩
    | error error => exact .error error ⟨related, rfl⟩
  peekAt stack width depth := by
    rintro ⟨first, moves⟩ ⟨second, _⟩ ⟨related, rfl⟩
    unfold TracedBank.peekAt
    dsimp only
    rw [related.sameContents.peekAt]
    cases second.peekAt stack width depth with
    | ok value => exact .ok value ⟨related, rfl⟩
    | error error => exact .error error ⟨related, rfl⟩
  reset related stack := by
    rw [stack_reset, stack_reset]
    exact (related stack).clear

end Retraces

end StackBank

/-! ### Two runs of one program -/

section

variable {σ π : Type} [OutputSink σ] [Peripheral π] [FollowsScript π]

/-- Two peripherals with a given script. -/
def ShareScript (rules : FollowsScript.Script π) (first second : π) : Prop :=
  FollowsScript.script first = rules ∧ FollowsScript.script second = rules

theorem SameCourse.scripted {B : StackBank → StackBank → Prop} (banks : ClientRelation B)
    (rules : FollowsScript.Script π) :
    RunsAlike (σ := σ) (τ := σ) B (SameCourse B (ShareScript rules)) :=
  SameCourse.runsAlike banks.toBankRelation (FollowsScript.dispatch banks rules)

/-- A run does not change the script of the peripheral. -/
theorem Engine.script_standing (program : Image) (count : Nat) (engine : Engine σ π) :
    FollowsScript.script (engine.standing program count).2.peripheral =
      FollowsScript.script engine.peripheral := by
  have itself :
      SameCourse Eq (ShareScript (FollowsScript.script engine.peripheral)) engine engine :=
    ⟨rfl, rfl, rfl, rfl, rfl, rfl, rfl, rfl, rfl, rfl⟩
  exact ((SameCourse.scripted .eq _).standing program count itself).2.peripheral.1

/-- A run that has ended ends the same when it is made again, and leaves the same bank. -/
theorem Engine.run?_again {program : Image} {fuel : Nat} {engine once : Engine σ π}
    {outcome : Outcome} (ended : engine.run? program fuel = some (outcome, once)) :
    ∃ twice, once.run? program fuel = some (outcome, twice) ∧
      SameCourse Eq (ShareScript (FollowsScript.script engine.peripheral)) once twice := by
  have stands := continue?_eq_some_iff.mp ended
  have rules := engine.reset.script_standing program fuel
  rw [stands] at rules
  have begun : SameCourse (StackBank.Retraces engine.bank once.bank)
      (ShareScript (FollowsScript.script engine.peripheral)) engine.reset once.reset := by
    refine ⟨.start _ _, rfl, rfl, rfl, rfl, rfl, rfl, ?_, rfl, rules⟩
    have kept := stepLimit_standing program fuel engine.reset
    rw [stands] at kept
    exact kept.symm
  obtain ⟨outcomes, course⟩ :=
    (SameCourse.scripted (StackBank.Retraces.clientRelation _ _) _).standing program fuel begun
  rw [stands] at outcomes course
  refine ⟨(once.reset.standing program fuel).2, ?_, { course with bank := course.bank.eq_of_left }⟩
  exact continue?_eq_some_iff.mpr (Prod.ext outcomes.symm rfl)

/-- The second of two states shows what the first shows of the machine: the bank with all its cells,
the flags, the counters and the latch. -/
structure Engine.Reproduces (once twice : Engine σ π) : Prop where
  bank : twice.bank = once.bank
  flags : twice.flags = once.flags
  pc : twice.pc = once.pc
  steps : twice.steps = once.steps
  fault : twice.fault = once.fault

theorem Engine.run?_reproduces {program : Image} {fuel : Nat} {engine once : Engine σ π}
    {outcome : Outcome} (ended : engine.run? program fuel = some (outcome, once)) :
    ∃ twice, once.run? program fuel = some (outcome, twice) ∧ once.Reproduces twice := by
  obtain ⟨twice, endedToo, course⟩ := run?_again ended
  refine ⟨twice, endedToo, ?_⟩
  exact ⟨course.bank.symm, course.flags.symm, course.pc.symm, course.steps.symm,
    course.fault.symm⟩

end

/-- Running a program again reproduces the bank bit for bit. In whatever state an engine with a
scripted peripheral, or with none, is found, and whatever its sink and its step limit: if a run on
it ends, then the same run made right after it ends too, with the same outcome, and the two banks
are equal in all cells, also in those above the pointers, as are pointers, flags and counters. -/
theorem rerun_reproduces_bank {σ : Type} [OutputSink σ] (program : Image) (fuel : Nat)
    (outcome : Outcome) :
    (∀ engine once : Engine σ ScriptedPeripheral,
      engine.run? program fuel = some (outcome, once) →
        ∃ twice, once.run? program fuel = some (outcome, twice) ∧ once.Reproduces twice) ∧
    ∀ engine once : Engine σ NoPeripheral,
      engine.run? program fuel = some (outcome, once) →
        ∃ twice, once.run? program fuel = some (outcome, twice) ∧ once.Reproduces twice :=
  ⟨fun _ _ ended => Engine.run?_reproduces ended, fun _ _ ended => Engine.run?_reproduces ended⟩

/-- A literal that is pushed and deleted again leaves its stack empty and its byte in a cell. The
second run ends with that cell as the first has left it. -/
theorem rerun_reproduces_bank_stale :
    ∃ (program : Image) (once twice : Engine ByteLog NoPeripheral),
      Engine.run? program 3 (Engine.new ByteLog.empty NoPeripheral.mk) =
        some (.ok ⟨5, .ended .always⟩, once) ∧
      once.bank.contents 0 = [] ∧ (once.bank.stack 0).cells.toArray[0]? = some 7 ∧
      once.run? program 3 = some (.ok ⟨5, .ended .always⟩, twice) ∧ once.Reproduces twice := by
  let program : Image := #[0x40, 0x00, 0x07, 0xd0, 0x01, 0x80, 0x12]
  let engine : Engine ByteLog NoPeripheral := Engine.new ByteLog.empty NoPeripheral.mk
  have facts : (engine.run? program 3).map (fun result =>
      decide (result.1 = .ok ⟨5, .ended .always⟩ ∧ result.2.bank.contents 0 = [] ∧
        (result.2.bank.stack 0).cells.toArray[0]? = some 7)) = some true := by decide +kernel
  obtain ⟨⟨outcome, once⟩, ended, holds⟩ := Option.map_eq_some_iff.mp facts
  obtain ⟨rfl, empty, stale⟩ := of_decide_eq_true holds
  obtain ⟨twice, endedToo, reproduces⟩ :=
    (rerun_reproduces_bank program 3 _).2 engine once ended
  exact ⟨program, once, twice, ended, empty, stale, endedToo, reproduces⟩

end Quadstack
