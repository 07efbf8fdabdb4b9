import Mathlib
import Quadstack.Machine.ScriptedPeripheral
import Quadstack.Proofs.Machine.Emissions
import Quadstack.Proofs.Machine.StepBudget

/-!
The boundary to the peripheral. Some codes the machine executes itself, and all others it hands over
together with its stacks. What the peripheral may do is whatever it likes, so what is shown here
is about the machine: which instructions it hands over and in what order, what it takes back, and
how a refusal ends the run.

Calls are counted by a peripheral that stands in front of the real one, writes down what it is asked
for and passes everything on. It cannot be told from the one behind it, so what it has written down
at the end is what the one behind it was asked for in the same run.
-/

namespace Quadstack

/-! ### The codes of the machine -/

/-- The codes that the machine executes itself: movement of data and debug output, then integer
arithmetic and logic without the slots for floats, then jumps, branches, calls and halts. -/
def Operation.ownCodes : List Nat :=
  [0x000] ++ List.range' 0x004 8 ++ List.range' 0x00d 19 ++
    List.range' 0x030 3 ++ List.range' 0x034 3 ++ List.range' 0x038 3 ++ List.range' 0x03c 3 ++
    List.range' 0x040 6 ++ List.range' 0x047 33 ++
    List.range' 0x110 5 ++ List.range' 0x118 5 ++ [0x120, 0x121] ++ List.range' 0x128 3

/-- Every other code is reserved, be it in the table or not. -/
theorem Operation.ofCode_eq_reserved_iff (code : UInt16) :
    ofCode code = .reserved ↔ code.toNat ∉ ownCodes := by
  have handled : ∀ number ∈ ownCodes, ofCode (UInt16.ofNat number) ≠ .reserved := by
    decide +kernel
  have listed : ∀ opcode ∈ Opcode.all, opcode.operation ≠ .reserved →
      opcode.code.toNat ∈ ownCodes := by
    decide +kernel
  constructor
  · intro reserved own
    refine handled code.toNat own ?_
    rwa [UInt16.ofNat_toNat]
  · intro foreign
    unfold ofCode
    cases found : Opcode.ofCode? code with
    | none => rfl
    | some opcode =>
      by_contra handledToo
      unfold Opcode.ofCode? at found
      have matched := List.find?_some found
      have same : opcode.code = code := beq_iff_eq.mp matched
      exact foreign (same ▸ listed opcode opcode.mem_all handledToo)

/-! ### Handing an instruction over -/

/-- The fault that a refusal raises at an offset. -/
def Refusal.toFault (offset : Nat) (code : UInt16) : Refusal → Fault
  | .denied => .insufficientPermissions offset code
  | .stack error => error.toFault offset

variable {σ π : Type}

/-- A state after an instruction was handed over and the peripheral has left itself and the stacks
behind. The stacks are the peripheral's, the counters have gone past one word, no transfer is
marked, the journal tells what was done, and everything else is as before. -/
structure Engine.HandedOver (before : Engine σ π) (instruction : Instruction)
    (left : π × TracedBank) (after : Engine σ π) : Prop where
  bank : after.bank = left.2.bank
  peripheral : after.peripheral = left.1
  flags : after.flags = before.flags
  output : after.output = before.output
  fault : after.fault = before.fault
  stepLimit : after.stepLimit = before.stepLimit
  pc : after.pc = before.pc + 2
  current : after.current = before.pc
  landed : after.landed = false
  steps : after.steps = before.steps + 1
  journal : after.journal.toList = before.journal.toList ++
    .began before.pc instruction :: .delegated before.pc instruction.code ::
      left.2.moves.toList.map .moved

variable {program : Image} {engine : Engine σ π} {instruction : Instruction}

namespace Engine

/-- The state in which the machine has taken back what the peripheral left. -/
def takeBack (engine : Engine σ π) (instruction : Instruction) (left : π × TracedBank) :
    Engine σ π :=
  { (engine.enter instruction).record (.delegated engine.pc instruction.code) with
    peripheral := left.1 }.adopt left.2

theorem handedOver_takeBack (engine : Engine σ π) (instruction : Instruction)
    (left : π × TracedBank) : engine.HandedOver instruction left (engine.takeBack instruction left)
    where
  bank := rfl
  peripheral := rfl
  flags := rfl
  output := rfl
  fault := rfl
  stepLimit := rfl
  pc := rfl
  current := rfl
  landed := rfl
  steps := rfl
  journal := by
    simp [takeBack, adopt, enter, countInstruction, record, beginInstruction]

/-- What a step comes to when the peripheral has answered. -/
def answered (engine : Engine σ π) (instruction : Instruction) :
    EStateM.Result Refusal (π × TracedBank) Unit →
      EStateM.Result Fault (Engine σ π) (Option Halt)
  | .ok () left => .ok none (engine.takeBack instruction left)
  | .error refusal left =>
    .error (refusal.toFault engine.pc instruction.code) (engine.takeBack instruction left)

theorem peripheral_answered (engine : Engine σ π) (instruction : Instruction)
    (answer : EStateM.Result Refusal (π × TracedBank) Unit) :
    (leftBy (engine.answered instruction answer)).peripheral = (leftBy answer).1 := by
  cases answer with
  | ok value left => rfl
  | error refusal left => rfl

/-- A step that comes to a reserved instruction asks the peripheral, once, and does as it says. -/
theorem Executes.step_of_reserved [OutputSink σ] [Peripheral π]
    (executes : engine.Executes program instruction)
    (reserved : instruction.operation = .reserved) :
    step program engine = engine.answered instruction
      (Peripheral.dispatch instruction (engine.peripheral, { bank := engine.bank })) := by
  have asks : Exec.delegate instruction (engine.enter instruction) =
      Exec.settle ((engine.enter instruction).record (.delegated engine.pc instruction.code))
        instruction
        (Peripheral.dispatch instruction (engine.peripheral, { bank := engine.bank })) := rfl
  rw [executes.step_eq, Acts.execute, reserved]
  cases answer : Peripheral.dispatch instruction (engine.peripheral, { bank := engine.bank }) with
  | ok value left =>
    rw [answer] at asks
    exact Exec.bind_of_ok asks
  | error refusal left =>
    rw [answer] at asks
    cases refusal with
    | denied => exact Exec.bind_of_error asks
    | stack error => exact Exec.bind_of_error asks

end Engine

/-! ### Instructions of the machine's own -/

section

variable [OutputSink σ]

/-- A peripheral that does nothing, whatever it is asked for. -/
@[reducible]
def Peripheral.idle (π : Type) : Peripheral π where
  dispatch _ := pure ()

/-- What an instruction does when reserved ones are handled in the given way. -/
def Acts.executeUnder (handler : Peripheral π) (program : Image) (instruction : Instruction) :
    Exec σ π (Option Halt) :=
  execute program instruction

/-- An instruction of the machine's own does the same however reserved ones are handled. -/
theorem Acts.executeUnder_of_own (handler other : Peripheral π) (program : Image)
    (own : instruction.operation ≠ .reserved) :
    (executeUnder handler program instruction : Exec σ π (Option Halt)) =
      executeUnder other program instruction := by
  unfold executeUnder execute
  generalize instruction.operation = operation at own ⊢
  cases operation with
  | reserved => exact absurd rfl own
  | _ => rfl

/-- With an idle peripheral an engine is in lock step with itself and keeps its peripheral. -/
theorem idle_mirrors (peripheral : π) :
    letI := Peripheral.idle π
    Mirrors Eq (fun first second : Engine σ π =>
      first = second ∧ first.peripheral = peripheral) := by
  let idle := Peripheral.idle π
  have inside : KeptInside fun engine : Engine σ π => engine.peripheral = peripheral :=
    ⟨fun _ kept => kept, fun _ kept => kept, fun _ kept => kept, fun _ kept => kept⟩
  refine inside.mirrors ?_ ?_
  · rintro event engine _ ⟨rfl, kept⟩
    unfold Exec.emit
    cases OutputSink.receive event engine.output with
    | ok value output => exact .ok () ⟨rfl, kept⟩
    | error reason output => exact .ok () ⟨rfl, kept⟩
  · rintro instruction engine _ ⟨rfl, kept⟩
    exact .ok () ⟨rfl, kept⟩

/-- An instruction of the machine's own leaves the peripheral as it is, however it ends. -/
theorem Engine.Executes.peripheral_of_own [Peripheral π]
    (executes : engine.Executes program instruction) (own : instruction.operation ≠ .reserved) :
    (leftBy (step program engine)).peripheral = engine.peripheral := by
  rw [executes.step_eq]
  show (leftBy (Acts.executeUnder _ program instruction _)).peripheral = _
  rw [Acts.executeUnder_of_own _ (Peripheral.idle π) program own, Acts.executeUnder]
  obtain ⟨_, _, bytes, _, rfl⟩ := executes
  let idle := Peripheral.idle π
  have inStep := ((idle_mirrors (σ := σ) engine.peripheral).respects program).execute
    (instructionAt bytes) (Instruction.source_decode_lt _) (Instruction.destination_decode_lt _)
  exact inStep.kept (engine.enter (instructionAt bytes)) rfl

end

/-! ### Calls along a run -/

/-- A peripheral with a record of the instructions that it was asked for, oldest first. -/
structure Observed (π : Type) where
  inner : π
  calls : List Instruction := []

/-- What the peripheral behind has answered, with the record put in front of it again. -/
def Observed.passOn (calls : List Instruction) :
    EStateM.Result Refusal (π × TracedBank) Unit →
      EStateM.Result Refusal (Observed π × TracedBank) Unit
  | .ok () (inner, traced) => .ok () ({ inner, calls }, traced)
  | .error refusal (inner, traced) => .error refusal ({ inner, calls }, traced)

theorem Observed.calls_passOn (calls : List Instruction)
    (answer : EStateM.Result Refusal (π × TracedBank) Unit) :
    (leftBy (passOn calls answer)).1.calls = calls := by
  cases answer with
  | ok value left => rfl
  | error refusal left => rfl

instance [Peripheral π] : Peripheral (Observed π) where
  dispatch instruction := fun (observed, traced) =>
    Observed.passOn (observed.calls ++ [instruction])
      (Peripheral.dispatch instruction (observed.inner, traced))

namespace Engine

/-- The engine with an observer in front of its peripheral. -/
def observed (engine : Engine σ π) : Engine σ (Observed π) :=
  engine.withPeripheral { inner := engine.peripheral }

/-- The engine without the observer. -/
def unobserved (engine : Engine σ (Observed π)) : Engine σ π :=
  engine.withPeripheral engine.peripheral.inner

theorem dispatch?_of_own (executes : engine.Executes program instruction)
    (own : instruction.operation ≠ .reserved) : engine.dispatch? program = none := by
  rw [dispatch?, executing?_eq_some_iff.mpr executes, Option.filter_some, decide_eq_false own]
  rfl

theorem dispatch?_of_reserved (executes : engine.Executes program instruction)
    (reserved : instruction.operation = .reserved) :
    engine.dispatch? program = some instruction := by
  rw [dispatch?, executing?_eq_some_iff.mpr executes, Option.filter_some, decide_eq_true reserved]
  rfl

end Engine

section

variable [OutputSink σ] [Peripheral π]

/-- The observer makes no difference to a run. -/
theorem Observed.runsAlike :
    RunsAlike Eq fun (watched : Engine σ (Observed π)) (plain : Engine σ π) =>
      plain = watched.unobserved where
  banks := .eq
  bank related := by rw [related]; rfl
  flags related := by rw [related]; rfl
  pc related := by rw [related]; rfl
  current related := by rw [related]; rfl
  landed related := by rw [related]; rfl
  setPc pc related := by rw [related]; rfl
  transfer target related := by rw [related]; rfl
  setFlags flags related := by rw [related]; rfl
  adopt := by
    rintro first _ ⟨bank, moves⟩ ⟨_, _⟩ rfl ⟨rfl, rfl⟩
    rfl
  emit event := by
    rintro engine _ rfl
    unfold Exec.emit
    rw [show engine.unobserved.output = engine.output from rfl]
    cases OutputSink.receive event engine.output with
    | ok value output => exact .ok () rfl
    | error reason output => exact .ok () rfl
  delegate instruction := by
    refine Lockstep.delegate
      (D := fun (watched : Observed π × TracedBank) plain =>
        plain = (watched.1.inner, watched.2)) instruction ?_ ?_ ?_ ?_
    · rintro engine _ rfl
      rfl
    · rintro engine _ rfl
      rfl
    · rintro ⟨watched, traced⟩ _ rfl
      show SameResult _
        (Observed.passOn _ (Peripheral.dispatch instruction (watched.inner, traced)))
        (Peripheral.dispatch instruction (watched.inner, traced))
      cases Peripheral.dispatch instruction (watched.inner, traced) with
      | ok value left => exact .ok () rfl
      | error refusal left => exact .error refusal rfl
    · rintro engine _ left _ message rfl rfl
      rfl
  begin related := by rw [related]; rfl
  count instruction related := by rw [related]; rfl
  spent related := by rw [related]; rfl
  conclude halt related := by rw [related]; rfl
  latched related := by rw [related]; rfl
  latch fault related := by rw [related]; rfl

namespace Engine

/-- A step makes the one call that is due, or none. -/
theorem calls_leftBy_step (program : Image) (engine : Engine σ (Observed π)) :
    (leftBy (step program engine)).peripheral.calls =
      engine.peripheral.calls ++ (engine.dispatch? program).toList := by
  cases executing : engine.executing? program with
  | none =>
    rw [dispatch?, executing, Option.filter_none, Option.toList_none, List.append_nil]
    rcases leftBy_step_of_idle executing with same | begun
    · rw [same]
    · rw [begun]
      rfl
  | some instruction =>
    have executes := executing?_eq_some_iff.mp executing
    by_cases reserved : instruction.operation = .reserved
    · rw [dispatch?_of_reserved executes reserved, executes.step_of_reserved reserved,
        peripheral_answered]
      exact Observed.calls_passOn _ _
    · rw [dispatch?_of_own executes reserved, executes.peripheral_of_own reserved,
        Option.toList_none, List.append_nil]

/-- Along a run exactly the reserved instructions are asked for. -/
theorem calls_standing (program : Image) (count : Nat) (engine : Engine σ (Observed π)) :
    (engine.standing program count).2.peripheral.calls =
      engine.peripheral.calls ++ engine.dispatched program count := by
  induction count generalizing engine with
  | zero => exact (List.append_nil _).symm
  | succ count inductionHypothesis =>
    have asked := calls_leftBy_step program engine
    rw [standing, dispatched, seenAlong, ← List.append_assoc, ← asked]
    cases step program engine with
    | ok halt? after =>
      cases halt? with
      | none => exact inductionHypothesis after
      | some halt => exact (List.append_nil _).symm
    | error fault after => exact (List.append_nil _).symm

/-- The instructions handed over are the reserved ones among those executed. -/
theorem dispatched_eq (program : Image) (count : Nat) (engine : Engine σ π) :
    engine.dispatched program count =
      ((engine.executed program count).map Prod.snd).filter (·.operation = .reserved) := by
  rw [executed, ← seenAlong_map, ← seenAlong_filter]
  simp only [Option.map_map, Function.comp_def, Option.map_id']
  rfl

/-- Without the observer a run is the same, and it hands over what the observer has written down. -/
theorem standing_observed (program : Image) (count : Nat) (engine : Engine σ π) :
    engine.reset.standing program count =
        ((engine.observed.reset.standing program count).1,
          (engine.observed.reset.standing program count).2.unobserved) ∧
      (engine.observed.reset.standing program count).2.peripheral.calls =
        engine.reset.dispatched program count := by
  have start : engine.reset = engine.observed.reset.unobserved := rfl
  obtain ⟨outcome, state⟩ := Observed.runsAlike.standing program count start
  refine ⟨Prod.ext outcome.symm state, ?_⟩
  have same : engine.observed.reset.dispatched program count =
      engine.reset.dispatched program count :=
    Observed.runsAlike.seenAlong (fun related => by rw [related]; rfl) program count start
  rw [calls_standing, same]
  rfl

/-! ### Refusals -/

variable {program : Image} {engine state : Engine σ π} {instruction : Instruction} {count : Nat}
variable {refusal : Refusal} {left : π × TracedBank}

/-- A refusal ends the run, at the instruction that was refused. -/
theorem run?_of_refused (going : engine.reset.standing program count = (none, state))
    (executes : state.Executes program instruction)
    (reserved : instruction.operation = .reserved)
    (refused : Peripheral.dispatch instruction (state.peripheral, { bank := state.bank }) =
      .error refusal left) :
    engine.run? program (count + 1) =
      some (.error (refusal.toFault state.pc instruction.code),
        (state.takeBack instruction left).latch (refusal.toFault state.pc instruction.code)) := by
  have clear : (state.takeBack instruction left).fault = none :=
    congrArg (fun entries => entries.2.2) (ledger_of_going going)
  refine continue?_eq_some_iff.mpr ?_
  rw [standing_succ_of_going going, standing, executes.step_of_reserved reserved, refused]
  show (some (Except.error ((state.takeBack instruction left).latchedFault _)), _) = _
  rw [latchedFault, clear, Option.getD_none]

/-- The instruction that was refused is the last one handed over. -/
theorem dispatched_of_refused (going : engine.reset.standing program count = (none, state))
    (executes : state.Executes program instruction)
    (reserved : instruction.operation = .reserved)
    (refused : Peripheral.dispatch instruction (state.peripheral, { bank := state.bank }) =
      .error refusal left) {later : Nat} (past : count < later) :
    engine.reset.dispatched program later =
      engine.reset.dispatched program count ++ [instruction] := by
  obtain ⟨rest, rfl⟩ := Nat.exists_eq_add_of_lt past
  rw [dispatched, Nat.add_assoc, seenAlong_add, going]
  show _ ++ state.seenAlong (dispatch? program) program (rest + 1) = _
  rw [seenAlong, dispatch?_of_reserved executes reserved, executes.step_of_reserved reserved,
    refused]
  rfl

end Engine

end

/-- The boundary to the peripheral. In every run, whatever the sink and the peripheral, the calls
made to the peripheral are the reserved instructions among those executed, each asked for once, in
order and with the fields that its word spells; a code is reserved exactly if it is none of the
machine's own. A call that succeeds changes nothing in the machine but the stacks, which are as the
peripheral left them, and the counters, which go past the word. A call that is refused ends
the run at the start of its instruction, for want of permission or with the fault of the stack
access that failed, with the stacks as the peripheral left them, and is the last call of the run.
Without a peripheral a reserved instruction does nothing but move the counters. -/
theorem peripheral_boundary [OutputSink σ] [Peripheral π] (program : Image) (engine : Engine σ π) :
    (∀ count,
      (engine.observed.reset.standing program count).2.peripheral.calls =
        ((engine.reset.executed program count).map Prod.snd).filter (·.operation = .reserved) ∧
      engine.reset.standing program count =
        ((engine.observed.reset.standing program count).1,
          (engine.observed.reset.standing program count).2.unobserved)) ∧
    (∀ code, Operation.ofCode code = .reserved ↔ code.toNat ∉ Operation.ownCodes) ∧
    (∀ (state : Engine σ π) instruction left, state.Executes program instruction →
      instruction.operation = .reserved →
      Peripheral.dispatch instruction (state.peripheral, { bank := state.bank }) = .ok () left →
      ∃ after, state.step program = .ok none after ∧ state.HandedOver instruction left after) ∧
    (∀ count state instruction refusal left,
      engine.reset.standing program count = (none, state) → state.Executes program instruction →
      instruction.operation = .reserved →
      Peripheral.dispatch instruction (state.peripheral, { bank := state.bank }) =
        .error refusal left →
      (∃ after, state.HandedOver instruction left after ∧
        engine.run? program (count + 1) =
          some (.error (refusal.toFault state.pc instruction.code),
            after.latch (refusal.toFault state.pc instruction.code))) ∧
      ∀ later, count < later →
        engine.reset.dispatched program later =
          engine.reset.dispatched program count ++ [instruction]) ∧
    ∀ (state : Engine σ NoPeripheral) instruction, state.Executes program instruction →
      instruction.operation = .reserved →
      state.step program = .ok none { state with
        pc := state.pc + 2
        steps := state.steps + 1
        current := state.pc
        landed := false
        journal := (state.journal.push (.began state.pc instruction)).push
          (.delegated state.pc instruction.code) } := by
  refine ⟨fun count => ?_, Operation.ofCode_eq_reserved_iff, ?_, ?_, ?_⟩
  · obtain ⟨same, calls⟩ := engine.standing_observed program count
    exact ⟨calls.trans (engine.reset.dispatched_eq program count), same⟩
  · intro state instruction left executes reserved accepted
    refine ⟨state.takeBack instruction left, ?_, state.handedOver_takeBack instruction left⟩
    rw [executes.step_of_reserved reserved, accepted]
    rfl
  · intro count state instruction refusal left going executes reserved refused
    refine ⟨⟨state.takeBack instruction left, state.handedOver_takeBack instruction left, ?_⟩, ?_⟩
    · exact Engine.run?_of_refused going executes reserved refused
    · exact fun later past => Engine.dispatched_of_refused going executes reserved refused past
  · intro state instruction executes reserved
    have untouched := Engine.adopt_untouched
      ((state.enter instruction).record (.delegated state.pc instruction.code))
    rw [executes.step_of_reserved reserved]
    exact congrArg (EStateM.Result.ok none) untouched

/-- A script that answers every instruction with a byte on its destination, but denies one. The
first instruction is served, the second denied, and the one behind it is never asked for. -/
theorem peripheral_boundary_denied :
    ∃ (program : Image) (engine final : Engine ByteLog ScriptedPeripheral),
      (∀ count, 2 ≤ count → (engine.observed.reset.standing program count).2.peripheral.calls =
        [⟨0x13a, 1, 2⟩, ⟨0x1ab, 0, 0⟩]) ∧
      engine.run? program 2 = some (.error (.insufficientPermissions 2 0x1ab), final) ∧
      final.bank.contents 2 = [7] := by
  let program : Image := #[0xa6, 0x13, 0xb0, 0x1a, 0xa6, 0x13]
  let rules : List ScriptRule :=
    [⟨some 0x1ab, [.deny]⟩, ⟨none, [.push .destination .w8 7]⟩]
  let engine : Engine ByteLog ScriptedPeripheral := Engine.new ByteLog.empty { rules }
  let state := (engine.reset.standing program 1).2
  let refused : Instruction := ⟨0x1ab, 0, 0⟩
  let left : ScriptedPeripheral × TracedBank :=
    ({ state.peripheral with seen := state.peripheral.seen.push refused }, { bank := state.bank })
  have going : engine.reset.standing program 1 = (none, state) :=
    Prod.ext (by decide +kernel) rfl
  have executes : state.Executes program refused :=
    Engine.executing?_eq_some_iff.mp (by decide +kernel)
  have denies : ScriptedPeripheral.actionsFor state.peripheral.rules refused = [.deny] := by
    decide +kernel
  have answer : Peripheral.dispatch refused (state.peripheral, { bank := state.bank }) =
      .error .denied left := by
    simp only [Peripheral.dispatch, denies]
    rfl
  obtain ⟨calls, -, -, refusals, -⟩ := peripheral_boundary program engine
  obtain ⟨⟨after, handed, ran⟩, last⟩ :=
    refusals 1 state refused .denied left going executes (by decide +kernel) answer
  have first : engine.reset.dispatched program 1 = [⟨0x13a, 1, 2⟩] := by decide +kernel
  have place : state.pc = 2 := by decide +kernel
  have pushed : state.bank.contents 2 = [7] := by decide +kernel
  rw [place] at ran
  refine ⟨program, engine, _, fun count enough => ?_, ran, ?_⟩
  · rw [(calls count).1, ← Engine.dispatched_eq, last count enough, first]
    rfl
  · exact (congrArg (·.contents 2) handed.bank).trans pushed

end Quadstack
