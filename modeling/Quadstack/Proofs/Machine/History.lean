import Mathlib
import Quadstack.Machine.Session
import Quadstack.Proofs.Machine.Scripts
import Quadstack.Proofs.Stack.Live

/-!
Runs forget what came before them. A reset takes the stacks down to nothing but leaves their cells
as they are, and it keeps output, peripheral, step limit and journal, so an engine that has been
used differs from a new one in many places. None of the differences can be seen by a run: it goes in
lock step with the same run on a new engine, and what it adds to output, journal and the
peripheral's memory is what that run puts there.

Two banks count as the same here when their live bytes are. That is enough for all work on banks,
so the bytes that earlier runs left above the pointers never show.
-/

namespace Quadstack

/-! ### Banks with the same live bytes -/

/-- Two banks that hold the same bytes; above the pointers their cells may differ. -/
def StackBank.SameContents (first second : StackBank) : Prop :=
  first.contents = second.contents

namespace StackBank.SameContents

variable {first second : StackBank}

theorem peekAt (same : SameContents first second) (stack : StackId) (width : Width)
    (depth : Nat) : first.peekAt stack width depth = second.peekAt stack width depth := by
  rw [peekAt_eq, peekAt_eq, show first.contents = second.contents from same]

theorem pointer (same : SameContents first second) (stack : StackId) :
    first.pointer stack = second.pointer stack := by
  rw [pointer_eq_length, pointer_eq_length, show first.contents = second.contents from same]

/-- Giving one stack the same live bytes in both banks. -/
theorem update (same : SameContents first second) (id : StackId) {stack other : ByteStack}
    (live : stack.live = other.live) :
    SameContents (first.update id stack) (second.update id other) := by
  unfold SameContents at same ⊢
  rw [contents_update, contents_update, same, live]

theorem reset (first second : StackBank) : SameContents first.reset second.reset := by
  funext stack
  rw [contents_reset, contents_reset]

/-- All work on banks sees live bytes only. -/
theorem bankRelation : BankRelation SameContents where
  pointer := pointer
  push stack width value := by
    rintro ⟨first, moves⟩ ⟨second, _⟩ ⟨same, rfl⟩
    have bytes : first.contents = second.contents := same
    have fits := first.push_cases stack width value
    rw [bytes] at fits
    unfold TracedBank.push
    dsimp only
    rcases fits with ⟨full, failed⟩ | ⟨room, grown, live, pushed⟩
    · rcases second.push_cases stack width value with ⟨_, failedToo⟩ | ⟨roomToo, _⟩
      · rw [failed, failedToo]
        exact .error _ ⟨same, rfl⟩
      · omega
    · rcases second.push_cases stack width value with
        ⟨fullToo, _⟩ | ⟨_, grownToo, liveToo, pushedToo⟩
      · omega
      · have after := update same stack (live.trans liveToo.symm)
        rw [pushed, pushedToo]
        dsimp only
        rw [after.pointer stack]
        exact .ok () ⟨after, rfl⟩
  pop stack width := by
    rintro ⟨first, moves⟩ ⟨second, _⟩ ⟨same, rfl⟩
    unfold TracedBank.pop
    dsimp only
    rw [pop_eq, pop_eq, peekAt same]
    cases second.peekAt stack width 0 with
    | ok value =>
      have bytes : first.contents stack = second.contents stack := congrFun same stack
      have shorter : ((first.stack stack).lower width.bytes).live =
          ((second.stack stack).lower width.bytes).live := by
        rw [ByteStack.live_lower, ByteStack.live_lower]
        show (first.contents stack).take ((first.contents stack).length - _) =
          (second.contents stack).take ((second.contents stack).length - _)
        rw [bytes]
      have after := update same stack shorter
      dsimp only [Except.map]
      rw [after.pointer stack]
      exact .ok value ⟨after, rfl⟩
    | error error => exact .error error ⟨same, rfl⟩
  peekAt stack width depth := by
    rintro ⟨first, moves⟩ ⟨second, _⟩ ⟨same, rfl⟩
    unfold TracedBank.peekAt
    dsimp only
    rw [peekAt same]
    cases second.peekAt stack width depth with
    | ok value => exact .ok value ⟨same, rfl⟩
    | error error => exact .error error ⟨same, rfl⟩

theorem clientRelation : ClientRelation SameContents where
  toBankRelation := bankRelation
  reset _ := reset _ _

end StackBank.SameContents

/-! ### Peripherals without a past -/

/-- A peripheral that acts on live bytes and not on what it remembers. -/
class HistoryBlind (π : Type) [Peripheral π] where
  /-- The same peripheral before its first instruction. -/
  renewed : π → π
  /-- What a peripheral remembers, when it began with a past: the past, and after it what a
  renewed one remembers. -/
  Extends (past later fresh : π) : Prop
  extends_renewed (past : π) : Extends past past (renewed past)
  dispatch (past : π) (instruction : Instruction) :
    Lockstep
      (fun later fresh : π × TracedBank => Extends past later.1 fresh.1 ∧
        TracedBank.Alike StackBank.SameContents later.2 fresh.2)
      Unit (Peripheral.dispatch instruction) (Peripheral.dispatch instruction)

instance : HistoryBlind NoPeripheral where
  renewed peripheral := peripheral
  Extends _ _ _ := True
  extends_renewed _ := trivial
  dispatch _ _ := .pure ()

/-- A script is chosen by the instruction, and what the peripheral has seen is only added to. -/
instance : HistoryBlind ScriptedPeripheral where
  renewed peripheral := { rules := peripheral.rules }
  Extends past later fresh := later.rules = fresh.rules ∧ later.seen = past.seen ++ fresh.seen
  extends_renewed past := ⟨rfl, (Array.append_empty).symm⟩
  dispatch past instruction := by
    rintro ⟨later, traced⟩ ⟨fresh, other⟩ ⟨⟨rules, seen⟩, alike⟩
    have grown : later.seen.push instruction = past.seen ++ fresh.seen.push instruction := by
      rw [seen, Array.append_push]
    have same := ScriptAction.performAll_alike StackBank.SameContents.clientRelation instruction 0
      (ScriptedPeripheral.actionsFor fresh.rules instruction) traced other alike
    unfold Peripheral.dispatch instPeripheralScriptedPeripheral
    dsimp only
    rw [rules]
    generalize ScriptAction.performAll instruction 0
      (ScriptedPeripheral.actionsFor fresh.rules instruction) traced = result at same ⊢
    generalize ScriptAction.performAll instruction 0
      (ScriptedPeripheral.actionsFor fresh.rules instruction) other = otherResult at same ⊢
    cases same with
    | ok value worked => exact .ok () ⟨⟨rfl, grown⟩, worked⟩
    | error refusal worked => exact .error refusal ⟨⟨rfl, grown⟩, worked⟩

/-! ### Engines with a past -/

/-- An engine that goes on from a past, against one that began new. Everything that a run sets up
for itself is the same; what outlives runs is the past and then what the new one has. -/
structure Continues {π : Type} [Peripheral π] [HistoryBlind π]
    (past later fresh : Engine ByteLog π) : Prop where
  contents : ∀ stack, later.bank.contents stack = fresh.bank.contents stack
  flags : later.flags = fresh.flags
  pc : later.pc = fresh.pc
  current : later.current = fresh.current
  landed : later.landed = fresh.landed
  fault : later.fault = fresh.fault
  steps : later.steps = fresh.steps
  stepLimit : later.stepLimit = fresh.stepLimit
  output : later.output.bytes = past.output.bytes ++ fresh.output.bytes
  peripheral : HistoryBlind.Extends past.peripheral later.peripheral fresh.peripheral
  journal : later.journal = past.journal ++ fresh.journal

namespace Continues

variable {π : Type} [Peripheral π] [HistoryBlind π] {past later fresh : Engine ByteLog π}

theorem record (continues : Continues past later fresh) (message : Message) :
    Continues past (later.record message) (fresh.record message) where
  __ := continues
  journal := by
    show later.journal.push message = past.journal ++ fresh.journal.push message
    rw [continues.journal, Array.append_push]

theorem adopt (continues : Continues past later fresh) {traced other : TracedBank}
    (alike : TracedBank.Alike StackBank.SameContents traced other) :
    Continues past (later.adopt traced) (fresh.adopt other) where
  __ := continues
  contents := congrFun alike.bank
  journal := by
    show later.journal ++ traced.moves.map Message.moved =
      past.journal ++ (fresh.journal ++ other.moves.map Message.moved)
    rw [continues.journal, alike.moves, Array.append_assoc]

theorem emit (past : Engine ByteLog π) (event : DebugEvent) :
    Lockstep (Continues past) Unit (Exec.emit event) (Exec.emit event) := by
  intro later fresh continues
  refine .ok () { continues with output := ?_ }
  show later.output.bytes ++ event.toBytes =
    past.output.bytes ++ (fresh.output.bytes ++ event.toBytes)
  refine Array.ext' ?_
  simp only [continues.output, Array.toList_appendList, Array.toList_append, List.append_assoc]

theorem delegate (past : Engine ByteLog π) (instruction : Instruction) :
    Lockstep (Continues past) Unit (Exec.delegate instruction) (Exec.delegate instruction) := by
  refine .delegate instruction Continues.current ?_
    (HistoryBlind.dispatch past.peripheral instruction) ?_
  · intro later fresh continues
    exact ⟨continues.peripheral, funext continues.contents, rfl⟩
  · intro later fresh left other message continues worked
    have handedOver : Continues past { later.record message with peripheral := left.1 }
        { fresh.record message with peripheral := other.1 } :=
      { continues.record message with peripheral := worked.1 }
    exact handedOver.adopt worked.2

theorem count (continues : Continues past later fresh) (instruction : Instruction) :
    Continues past (later.countInstruction instruction) (fresh.countInstruction instruction) := by
  unfold Engine.countInstruction
  rw [continues.current]
  exact { continues.record _ with steps := congrArg (· + 1) continues.steps }

theorem conclude (continues : Continues past later fresh) (halt : Halt) :
    Continues past (later.conclude halt) (fresh.conclude halt) := by
  unfold Engine.conclude
  rw [continues.steps]
  exact continues.record _

theorem latch (continues : Continues past later fresh) (fault : Fault) :
    Continues past (later.latch fault) (fresh.latch fault) := by
  have same : later.latchedFault fault = fresh.latchedFault fault := by
    rw [Engine.latchedFault, Engine.latchedFault, continues.fault]
  have message : Message.faulted (later.latchedFault fault) later.steps =
      .faulted (fresh.latchedFault fault) fresh.steps := by
    rw [same, continues.steps]
  have latched : Continues past { later with fault := some (later.latchedFault fault) }
      { fresh with fault := some (fresh.latchedFault fault) } :=
    { continues with fault := congrArg some same }
  unfold Engine.latch
  rw [message]
  exact latched.record _

/-- Whole runs go in lock step, whatever the past. -/
theorem runsAlike (past : Engine ByteLog π) :
    RunsAlike StackBank.SameContents (Continues past) where
  banks := StackBank.SameContents.bankRelation
  bank continues := funext continues.contents
  flags := Continues.flags
  pc := Continues.pc
  current := Continues.current
  landed := Continues.landed
  setPc pc continues := { continues with pc := rfl }
  transfer target continues := { continues with pc := rfl, landed := rfl }
  setFlags flags continues := { continues with flags := rfl }
  adopt continues alike := continues.adopt alike
  emit := emit past
  delegate := delegate past
  begin continues := { continues with current := continues.pc, landed := rfl }
  count instruction continues := continues.count instruction
  spent continues := by
    rw [Engine.spentLimit?, Engine.spentLimit?, continues.stepLimit, continues.steps]
  conclude halt continues := continues.conclude halt
  latched := Continues.fault
  latch fault continues := continues.latch fault

end Continues

/-! ### Runs with a past -/

section

variable {π : Type} [Peripheral π] [HistoryBlind π]

/-- A new engine with the same step limit and the same peripheral, before its first instruction. -/
def Engine.renewed (engine : Engine ByteLog π) : Engine ByteLog π :=
  (Engine.new ByteLog.empty (HistoryBlind.renewed engine.peripheral)).withStepLimit engine.stepLimit

/-- After a reset nothing of the past is left but what outlives runs. -/
theorem Continues.reset (engine : Engine ByteLog π) :
    Continues engine engine.reset engine.renewed.reset where
  contents stack := by
    show engine.bank.reset.contents stack = StackBank.empty.reset.contents stack
    rw [StackBank.contents_reset, StackBank.contents_reset]
  flags := rfl
  pc := rfl
  current := rfl
  landed := rfl
  fault := rfl
  steps := rfl
  stepLimit := rfl
  output := Array.append_empty.symm
  peripheral := HistoryBlind.extends_renewed engine.peripheral
  journal := rfl

/-- What a run on a used engine comes to, against the run on a renewed one. -/
structure RunsAsNew (past : Engine ByteLog π) (later fresh : Outcome × Engine ByteLog π) :
    Prop where
  outcome : later.1 = fresh.1
  continues : Continues past later.2 fresh.2
  /-- The latch holds the fault of this run and no other. -/
  fault : ∀ fault, later.2.fault = some fault ↔ later.1 = .error fault

theorem Engine.run?_runsAsNew (engine : Engine ByteLog π) (program : Image) (fuel : Nat) :
    Option.Rel (RunsAsNew engine) (engine.run? program fuel)
      (engine.renewed.run? program fuel) := by
  obtain ⟨outcome, continues⟩ :=
    (Continues.runsAlike engine).standing program fuel (Continues.reset engine)
  unfold Engine.run?
  rw [Engine.continue?_eq_standing, Engine.continue?_eq_standing, ← outcome]
  cases reached : engine.reset.standing program fuel with
  | mk ended? state =>
    rw [reached] at continues
    cases ended? with
    | none => exact .none
    | some ended =>
      have clear : engine.reset.fault = none := rfl
      exact .some ⟨rfl, continues, Engine.fault_of_ended clear reached⟩

end

/-- A run does not depend on what its engine was used for before. In whatever state an engine with a
scripted peripheral, or with none, is found, a run on it ends if and when the run on a new engine
with the same step limit and the same script does. The result, the program counter, the flags, the
counter and the live bytes are the same, the latch holds the fault of this run or nothing,
and output, journal and the script's memory have grown by what the new engine has in them. -/
theorem run_forgets_history (program : Image) (fuel : Nat) :
    (∀ session : Session,
      Option.Rel (RunsAsNew session) (session.run? program fuel)
        (Engine.run? program fuel
          ((Engine.new ByteLog.empty { rules := session.peripheral.rules }).withStepLimit
            session.stepLimit))) ∧
    (∀ engine : Engine ByteLog NoPeripheral,
      Option.Rel (RunsAsNew engine) (engine.run? program fuel)
        (Engine.run? program fuel
          ((Engine.new ByteLog.empty {}).withStepLimit engine.stepLimit))) :=
  ⟨fun session => Engine.run?_runsAsNew session program fuel,
    fun engine => Engine.run?_runsAsNew engine program fuel⟩

end Quadstack
