import Mathlib
import Quadstack.Proofs.Machine.Lockstep

/-!
Steps and runs of one engine. A step has four shapes: it finds the run landed, it finds the budget
spent, it finds no word to read, or it enters an instruction and executes it. What an
instruction can never change is found by going through its acts once: the step counter, the
step limit and the fault latch are such things. The flags are such a thing too for every
instruction but those of arithmetic and logic.

A run is followed step by step through `standing`, which says where it stands after a number of
steps, whether it has ended by then or not.
-/

namespace Quadstack

/-! ### What acts keep -/

/-- The state that a result leaves behind, be it a value or an error. -/
def leftBy {ε S α : Type} : EStateM.Result ε S α → S
  | .ok _ state => state
  | .error _ state => state

/-- A property of an engine that the changes acts make to its state keep. -/
structure KeptByActs {σ π : Type} (P : Engine σ π → Prop) : Prop where
  setPc {engine : Engine σ π} (pc : Nat) : P engine → P { engine with pc := pc }
  transfer {engine : Engine σ π} (target : Nat) :
    P engine → P { engine with pc := target, landed := true }
  setFlags {engine : Engine σ π} (flags : Flags) : P engine → P { engine with flags := flags }
  adopt {engine : Engine σ π} (traced : TracedBank) : P engine → P (engine.adopt traced)
  setOutput {engine : Engine σ π} (output : σ) : P engine → P { engine with output := output }
  setPeripheral {engine : Engine σ π} (peripheral : π) :
    P engine → P { engine with peripheral := peripheral }
  record {engine : Engine σ π} (message : Message) : P engine → P (engine.record message)

/-- The part of the state that no act touches: the counter, the limit and the latch. -/
def Engine.ledger {σ π : Type} (engine : Engine σ π) : Nat × Option Nat × Option Fault :=
  (engine.steps, engine.stepLimit, engine.fault)

theorem Engine.ledger_kept {σ π : Type} (entries : Nat × Option Nat × Option Fault) :
    KeptByActs fun engine : Engine σ π => engine.ledger = entries where
  setPc _ holds := holds
  transfer _ holds := holds
  setFlags _ holds := holds
  adopt _ holds := holds
  setOutput _ holds := holds
  setPeripheral _ holds := holds
  record _ holds := holds

/-- Work that leaves what a view shows as it was, however it ends. -/
def Keeps {σ π α γ : Type} (view : Engine σ π → γ) (work : Exec σ π α) : Prop :=
  ∀ engine, view (leftBy (work engine)) = view engine

/-- A view that shows nothing of the stacks, the outside and the journal. -/
structure Overlooks {σ π γ : Type} (view : Engine σ π → γ) : Prop where
  adopt (engine : Engine σ π) (traced : TracedBank) : view (engine.adopt traced) = view engine
  setOutput (engine : Engine σ π) (output : σ) :
    view { engine with output := output } = view engine
  setPeripheral (engine : Engine σ π) (peripheral : π) :
    view { engine with peripheral := peripheral } = view engine
  record (engine : Engine σ π) (message : Message) : view (engine.record message) = view engine

namespace Keeps

variable {σ π α β γ : Type} {view : Engine σ π → γ}

theorem bind {work : Exec σ π α} {next : α → Exec σ π β} (first : Keeps view work)
    (rest : ∀ value, Keeps view (next value)) : Keeps view (work >>= next) := by
  intro engine
  have head := first engine
  show view (leftBy (EStateM.bind work next engine)) = view engine
  unfold EStateM.bind
  cases reached : work engine with
  | ok value after =>
    rw [reached] at head
    exact (rest value after).trans head
  | error fault after =>
    rw [reached] at head
    exact head

theorem require (value? : Option α) (fault : Nat → Fault) :
    Keeps view (Exec.require value? fault) := by
  intro engine
  cases value? <;> rfl

theorem onBank (overlooks : Overlooks view) (work : BankM StackError α) :
    Keeps view (Exec.onBank work) := by
  intro engine
  unfold Exec.onBank
  cases work { bank := engine.bank } with
  | ok value traced => exact overlooks.adopt engine traced
  | error error traced => exact overlooks.adopt engine traced

theorem emit [OutputSink σ] (overlooks : Overlooks view) (event : DebugEvent) :
    Keeps view (Exec.emit event) := by
  intro engine
  unfold Exec.emit
  cases OutputSink.receive event engine.output with
  | ok value output => exact overlooks.setOutput engine output
  | error reason output =>
    exact (overlooks.record _ _).trans (overlooks.setOutput engine output)

theorem delegate [Peripheral π] (overlooks : Overlooks view) (instruction : Instruction) :
    Keeps view (Exec.delegate instruction) := by
  intro engine
  have settled (peripheral : π) (traced : TracedBank) (message : Message) :
      view (({ engine.record message with peripheral := peripheral }).adopt traced) =
        view engine :=
    (overlooks.adopt _ _).trans ((overlooks.setPeripheral _ _).trans (overlooks.record _ _))
  unfold Exec.delegate
  generalize Peripheral.dispatch (π := π) instruction _ = result
  rcases result with ⟨⟨⟩, peripheral, traced⟩ | ⟨refusal, peripheral, traced⟩
  · exact settled peripheral traced _
  · cases refusal <;> exact settled peripheral traced _

end Keeps

/-- Work that leaves the flags as they were, however it ends. -/
def KeepsFlags {σ π α : Type} (work : Exec σ π α) : Prop :=
  ∀ engine, (leftBy (work engine)).flags = engine.flags

theorem Engine.flags_overlooks {σ π : Type} : Overlooks (Engine.flags (σ := σ) (π := π)) where
  adopt _ _ := rfl
  setOutput _ _ := rfl
  setPeripheral _ _ := rfl
  record _ _ := rfl

namespace KeepsFlags

variable {σ π α β : Type}

theorem bind {work : Exec σ π α} {next : α → Exec σ π β} (first : KeepsFlags work)
    (rest : ∀ value, KeepsFlags (next value)) : KeepsFlags (work >>= next) :=
  Keeps.bind first rest

theorem onBank (work : BankM StackError α) : KeepsFlags (Exec.onBank (σ := σ) (π := π) work) :=
  Keeps.onBank Engine.flags_overlooks work

theorem take (program : Image) (count : Nat) :
    KeepsFlags (Exec.take (σ := σ) (π := π) program count) := by
  intro engine
  unfold Exec.take
  cases program.slice? engine.pc count <;> rfl

theorem require (value? : Option α) (fault : Nat → Fault) :
    KeepsFlags (Exec.require (σ := σ) (π := π) value? fault) :=
  Keeps.require value? fault

theorem fetchText (program : Image) : KeepsFlags (Exec.fetchText (σ := σ) (π := π) program) := by
  intro engine
  unfold Exec.fetchText
  cases program.zeroFrom? engine.pc <;> rfl

theorem branch (program : Image) (condition : Condition) :
    KeepsFlags (Exec.branch (σ := σ) (π := π) program condition) := by
  refine bind (bind (take program _) fun bytes _ => rfl) fun distance => ?_
  refine bind (fun _ => rfl) fun engine => ?_
  split
  · exact bind (require _ _) fun target _ => rfl
  · exact fun _ => rfl

theorem returnAddress : KeepsFlags (Exec.returnAddress (σ := σ) (π := π)) := by
  unfold Exec.returnAddress
  exact bind (fun _ => rfl) fun engine => require _ _

/-- Every act but the setting of flags keeps them. -/
theorem respectsQuiet [OutputSink σ] [Peripheral π] (program : Image) :
    Acts.RespectsQuiet (m := Exec σ π) (n := Exec σ π) (fun _ work _ => KeepsFlags work)
      program program where
  pure _ _ := rfl
  bind := bind
  push _ _ _ _ := onBank _
  pop _ _ _ := onBank _
  peekAt _ _ _ _ := onBank _
  pointer _ _ _ := rfl
  fetchLiteral _ := bind (take program _) fun _ _ => rfl
  fetchText := fetchText program
  arith _ _ _ _ := require _ _
  shift _ _ _ _ _ := rfl
  satisfies _ _ := rfl
  jumpTo _ _ := rfl
  branch condition := branch program condition
  returnAddress := returnAddress
  halt _ _ := rfl
  emit := Keeps.emit Engine.flags_overlooks
  delegate := Keeps.delegate Engine.flags_overlooks

end KeepsFlags

/-- A property that steering and work on the stacks keep. What the outside does to it is left
open. -/
structure KeptInside {σ π : Type} (P : Engine σ π → Prop) : Prop where
  setPc {engine : Engine σ π} (pc : Nat) : P engine → P { engine with pc := pc }
  transfer {engine : Engine σ π} (target : Nat) :
    P engine → P { engine with pc := target, landed := true }
  setFlags {engine : Engine σ π} (flags : Flags) : P engine → P { engine with flags := flags }
  adopt {engine : Engine σ π} (traced : TracedBank) : P engine → P (engine.adopt traced)

theorem KeptByActs.inside {σ π : Type} {P : Engine σ π → Prop} (kept : KeptByActs P) :
    KeptInside P where
  setPc := kept.setPc
  transfer := kept.transfer
  setFlags := kept.setFlags
  adopt := kept.adopt

/-- What work in lock step with itself keeps, it leaves behind. -/
theorem Lockstep.kept {ε S α : Type} {P : S → Prop} {work : EStateM ε S α}
    (inStep : Lockstep (fun first second => first = second ∧ P first) α work work) (state : S)
    (holds : P state) : P (leftBy (work state)) := by
  have same := inStep state state ⟨rfl, holds⟩
  generalize work state = result at same ⊢
  cases same with
  | ok value related => exact related.2
  | error reason related => exact related.2

section

variable {σ π : Type} [OutputSink σ] [Peripheral π]

/-- An engine is in lock step with itself while it has a property that is kept inside, if the
outside keeps it too. -/
theorem KeptInside.mirrors {P : Engine σ π → Prop} (kept : KeptInside P)
    (emit : ∀ event, Lockstep (fun first second : Engine σ π => first = second ∧ P first) Unit
      (Exec.emit event) (Exec.emit event))
    (delegate : ∀ instruction,
      Lockstep (fun first second : Engine σ π => first = second ∧ P first) Unit
        (Exec.delegate instruction) (Exec.delegate instruction)) :
    Mirrors Eq (fun first second : Engine σ π => first = second ∧ P first) where
  banks := .eq
  bank related := by rw [related.1]
  flags related := by rw [related.1]
  pc related := by rw [related.1]
  current related := by rw [related.1]
  landed related := by rw [related.1]
  setPc pc := by
    rintro ⟨rfl, holds⟩
    exact ⟨rfl, kept.setPc pc holds⟩
  transfer target := by
    rintro ⟨rfl, holds⟩
    exact ⟨rfl, kept.transfer target holds⟩
  setFlags flags := by
    rintro ⟨rfl, holds⟩
    exact ⟨rfl, kept.setFlags flags holds⟩
  adopt := by
    rintro first _ ⟨bank, moves⟩ ⟨_, _⟩ ⟨rfl, holds⟩ ⟨rfl, rfl⟩
    exact ⟨rfl, kept.adopt _ holds⟩
  emit := emit
  delegate := delegate

namespace KeptByActs

variable {P : Engine σ π → Prop}

/-- An engine is in lock step with itself while it has the property. -/
theorem mirrors (kept : KeptByActs P) :
    Mirrors Eq (fun first second : Engine σ π => first = second ∧ P first) := by
  refine kept.inside.mirrors ?_ ?_
  · rintro event engine _ ⟨rfl, holds⟩
    unfold Exec.emit
    cases OutputSink.receive event engine.output with
    | ok value output => exact .ok () ⟨rfl, kept.setOutput output holds⟩
    | error reason output => exact .ok () ⟨rfl, kept.record _ (kept.setOutput output holds)⟩
  · intro instruction
    refine Lockstep.delegate (D := Eq) instruction ?_ ?_ (.refl _) ?_
    · rintro engine _ ⟨rfl, _⟩
      rfl
    · rintro engine _ ⟨rfl, _⟩
      rfl
    · rintro engine _ left _ message ⟨rfl, holds⟩ rfl
      exact ⟨rfl, kept.adopt left.2 (kept.setPeripheral left.1 (kept.record message holds))⟩

/-- Executing an instruction keeps what its acts keep. -/
theorem execute (kept : KeptByActs P) (program : Image) (instruction : Instruction)
    (source : instruction.source < 4) (destination : instruction.destination < 4)
    (engine : Engine σ π) (holds : P engine) :
    P (leftBy (Acts.execute (m := Exec σ π) program instruction engine)) :=
  ((kept.mirrors.respects program).execute instruction source destination).kept engine holds

end KeptByActs

/-! ### The shapes of a step -/

namespace Engine

/-- The instruction that two bytes of a program spell. -/
def instructionAt (bytes : List UInt8) : Instruction :=
  Instruction.decode (Instruction.wordOfBytes bytes)

/-- The state in which an instruction executes: its word was read and it was counted. -/
def enter (engine : Engine σ π) (instruction : Instruction) : Engine σ π :=
  countInstruction { engine.beginInstruction with pc := engine.pc + Instruction.wordBytes }
    instruction

/-- Whether a transfer of control has led to the end of the program. -/
def AtLanding (engine : Engine σ π) (program : Image) : Prop :=
  engine.landed ∧ engine.pc = program.size

instance (engine : Engine σ π) (program : Image) : Decidable (engine.AtLanding program) :=
  inferInstanceAs (Decidable (_ ∧ _))

/-- What a step comes to. -/
inductive StepShape (program : Image) (engine : Engine σ π) :
    EStateM.Result Fault (Engine σ π) (Option Halt) → Prop where
  | landed (landing : engine.AtLanding program) :
    StepShape program engine (.ok (some { offset := engine.pc, reason := .landed }) engine)
  | spent (limit : Nat) (flying : ¬ engine.AtLanding program)
      (used : engine.spentLimit? = some limit) :
    StepShape program engine (.error (.stepLimitExceeded engine.pc limit) engine)
  | wordless (flying : ¬ engine.AtLanding program) (unspent : engine.spentLimit? = none)
      (short : program.size < engine.pc + Instruction.wordBytes) :
    StepShape program engine (.error (.targetOutOfBounds engine.pc) engine.beginInstruction)
  | executed (bytes : List UInt8) (flying : ¬ engine.AtLanding program)
      (unspent : engine.spentLimit? = none)
      (read : program.slice? engine.pc Instruction.wordBytes = some bytes) :
    StepShape program engine
      (Acts.execute (m := Exec σ π) program (instructionAt bytes)
        (engine.enter (instructionAt bytes)))

/-- Reads a word, counts the instruction and executes it. -/
def executeNext (program : Image) : Exec σ π (Option Halt) := do
  let bytes ← Exec.take program Instruction.wordBytes
  modify (countInstruction · (instructionAt bytes))
  Acts.execute program (instructionAt bytes)

theorem step_eq (program : Image) (engine : Engine σ π) :
    step program engine =
      if engine.AtLanding program then
        .ok (some { offset := engine.pc, reason := .landed }) engine
      else
        match engine.spentLimit? with
        | some limit => .error (.stepLimitExceeded engine.pc limit) engine
        | none => executeNext program engine.beginInstruction := by
  by_cases landing : engine.AtLanding program
  · have atEnd : engine.landed = true ∧ engine.pc = program.size := landing
    refine Eq.trans ?_ (if_pos landing).symm
    unfold step
    simp only [bind, EStateM.bind, get, getThe, MonadStateOf.get, EStateM.get]
    rw [if_pos atEnd]
    rfl
  · have notAtEnd : ¬ (engine.landed = true ∧ engine.pc = program.size) := landing
    refine Eq.trans ?_ (if_neg landing).symm
    unfold step
    simp only [bind, EStateM.bind, get, getThe, MonadStateOf.get, EStateM.get]
    rw [if_neg notAtEnd]
    cases engine.spentLimit? with
    | some limit => rfl
    | none =>
      show EStateM.bind (Exec.fetchInstruction program) _ engine.beginInstruction =
        EStateM.bind (Exec.take program Instruction.wordBytes) _ engine.beginInstruction
      unfold Exec.fetchInstruction
      simp only [bind, EStateM.bind]
      cases Exec.take program Instruction.wordBytes engine.beginInstruction <;> rfl

/-- A step has one of four shapes. -/
theorem step_shape (program : Image) (engine : Engine σ π) :
    StepShape program engine (step program engine) := by
  rw [step_eq]
  by_cases landing : engine.AtLanding program
  · rw [if_pos landing]
    exact .landed landing
  · rw [if_neg landing]
    cases unspent : engine.spentLimit? with
    | some limit => exact .spent limit landing unspent
    | none =>
      show StepShape program engine
        (EStateM.bind (Exec.take program Instruction.wordBytes) _ engine.beginInstruction)
      unfold EStateM.bind Exec.take
      cases read : program.slice? engine.pc Instruction.wordBytes with
      | some bytes =>
        rw [show program.slice? engine.beginInstruction.pc Instruction.wordBytes = some bytes
          from read]
        exact .executed bytes landing unspent read
      | none =>
        rw [show program.slice? engine.beginInstruction.pc Instruction.wordBytes = none
          from read]
        refine .wordless landing unspent ?_
        unfold Image.slice? at read
        split at read
        · cases read
        · omega

/-! ### Counter, limit, latch and flags -/

/-- An instruction that was read has its selectors below four, so acts are compared on it. -/
theorem ledger_execute (program : Image) (bytes : List UInt8) (engine : Engine σ π) :
    (leftBy (Acts.execute (m := Exec σ π) program (instructionAt bytes) engine)).ledger =
      engine.ledger :=
  (ledger_kept engine.ledger).execute program _ (Instruction.source_decode_lt _)
    (Instruction.destination_decode_lt _) engine rfl

/-- Only arithmetic and logic change the flags. -/
theorem flags_execute (program : Image) (bytes : List UInt8) (engine : Engine σ π)
    (quiet : (instructionAt bytes).operation.affectsFlags = false) :
    (leftBy (Acts.execute (m := Exec σ π) program (instructionAt bytes) engine)).flags =
      engine.flags :=
  (KeepsFlags.respectsQuiet program).execute _ (Instruction.source_decode_lt _)
    (Instruction.destination_decode_lt _) quiet engine

/-- A step that goes on has counted one instruction and kept limit and latch. -/
theorem ledger_of_step {program : Image} {engine after : Engine σ π}
    (stepped : step program engine = .ok none after) :
    after.ledger = (engine.steps + 1, engine.stepLimit, engine.fault) := by
  have shape := step_shape program engine
  generalize step program engine = result at shape stepped
  cases shape with
  | landed landing => cases stepped
  | spent limit flying used => cases stepped
  | wordless flying unspent short => cases stepped
  | executed bytes flying unspent read =>
    have kept := ledger_execute program bytes (engine.enter (instructionAt bytes))
    rw [stepped] at kept
    exact kept

/-- A step counts at most one instruction and keeps limit and latch, however it ends. -/
theorem ledger_leftBy_step (program : Image) (engine : Engine σ π) :
    engine.steps ≤ (leftBy (step program engine)).steps ∧
      (leftBy (step program engine)).steps ≤ engine.steps + 1 ∧
      (leftBy (step program engine)).fault = engine.fault := by
  have shape := step_shape program engine
  generalize step program engine = result at shape ⊢
  cases shape with
  | landed landing => exact ⟨le_rfl, Nat.le_succ _, rfl⟩
  | spent limit flying used => exact ⟨le_rfl, Nat.le_succ _, rfl⟩
  | wordless flying unspent short => exact ⟨le_rfl, Nat.le_succ _, rfl⟩
  | executed bytes flying unspent read =>
    have kept := ledger_execute program bytes (engine.enter (instructionAt bytes))
    have counted := congrArg Prod.fst kept
    have latched := congrArg (fun entries => entries.2.2) kept
    exact ⟨le_of_le_of_eq (Nat.le_succ _) counted.symm, le_of_eq counted, latched⟩

/-! ### Where a run stands -/

/-- Where a run stands after `count` steps: how it ended, if it did, and the state it is in. -/
def standing (program : Image) : Nat → Engine σ π → Option Outcome × Engine σ π
  | 0, engine => (none, engine)
  | count + 1, engine =>
    match step program engine with
    | .ok none after => standing program count after
    | .ok (some halt) after => (some (.ok halt), after.conclude halt)
    | .error fault after => (some (.error (after.latchedFault fault)), after.latch fault)

/-- A run with fuel has a result exactly when it has ended by then. -/
theorem continue?_eq_standing (program : Image) (fuel : Nat) (engine : Engine σ π) :
    continue? program fuel engine =
      (standing program fuel engine).1.map fun outcome =>
        (outcome, (standing program fuel engine).2) := by
  induction fuel generalizing engine with
  | zero => rfl
  | succ fuel inductionHypothesis =>
    rw [continue?, standing]
    cases step program engine with
    | ok halt? after =>
      cases halt? with
      | none => exact inductionHypothesis after
      | some halt => rfl
    | error fault after => rfl

theorem continue?_eq_some_iff {program : Image} {fuel : Nat} {engine final : Engine σ π}
    {outcome : Outcome} :
    continue? program fuel engine = some (outcome, final) ↔
      standing program fuel engine = (some outcome, final) := by
  rw [continue?_eq_standing]
  rcases standing program fuel engine with ⟨_ | ended, state⟩
  · simp
  · simp

/-- A run that has ended stays as it is; one that has not goes on from where it stands. -/
theorem standing_add (program : Image) (first second : Nat) (engine : Engine σ π) :
    standing program (first + second) engine =
      match standing program first engine with
      | (none, state) => standing program second state
      | (some outcome, final) => (some outcome, final) := by
  induction first generalizing engine with
  | zero => rw [Nat.zero_add, standing]
  | succ first inductionHypothesis =>
    rw [Nat.succ_add, standing, standing]
    cases step program engine with
    | ok halt? after =>
      cases halt? with
      | none => exact inductionHypothesis after
      | some halt => rfl
    | error fault after => rfl

theorem standing_of_ended {program : Image} {first second : Nat} {engine final : Engine σ π}
    {outcome : Outcome} (ended : standing program first engine = (some outcome, final))
    (later : first ≤ second) : standing program second engine = (some outcome, final) := by
  rw [← Nat.add_sub_cancel' later, standing_add, ended]

/-- A run ends in one way, however much fuel there is. -/
theorem run?_unique {program : Image} {first second : Nat} {engine final last : Engine σ π}
    {outcome other : Outcome} (ended : run? program first engine = some (outcome, final))
    (endedToo : run? program second engine = some (other, last)) :
    outcome = other ∧ final = last := by
  have early := standing_of_ended (continue?_eq_some_iff.mp ended) (Nat.le_max_left first second)
  have late := standing_of_ended (continue?_eq_some_iff.mp endedToo) (Nat.le_max_right first second)
  cases early.symm.trans late
  exact ⟨rfl, rfl⟩

theorem standing_of_going {program : Image} {first second : Nat} {engine state : Engine σ π}
    (going : standing program first engine = (none, state)) (later : first ≤ second) :
    standing program second engine = standing program (second - first) state := by
  rw [← Nat.add_sub_cancel' later, standing_add, going, Nat.add_sub_cancel_left]

/-- A run that goes on for one more step has gone on until then. -/
theorem going_succ_iff {program : Image} {count : Nat} {engine state : Engine σ π} :
    standing program (count + 1) engine = (none, state) ↔
      ∃ before, standing program count engine = (none, before) ∧
        step program before = .ok none state := by
  rw [standing_add]
  rcases standing program count engine with ⟨_ | outcome, before⟩
  · show standing program 1 before = (none, state) ↔ _
    rw [standing]
    cases stepped : step program before with
    | ok halt? after => cases halt? <;> simp [standing, stepped]
    | error fault after => simp [stepped]
  · simp

/-- A run that has ended did so at a step from the last state in which it still went on. -/
theorem ended_cases {program : Image} {fuel : Nat} {engine final : Engine σ π} {outcome : Outcome}
    (ended : standing program fuel engine = (some outcome, final)) :
    ∃ count last, standing program count engine = (none, last) ∧
      ((∃ halt after, step program last = .ok (some halt) after ∧ outcome = .ok halt ∧
          final = after.conclude halt) ∨
        ∃ fault after, step program last = .error fault after ∧
          outcome = .error (after.latchedFault fault) ∧ final = after.latch fault) := by
  induction fuel generalizing engine with
  | zero => cases ended
  | succ fuel inductionHypothesis =>
    rw [standing] at ended
    cases stepped : step program engine with
    | ok halt? after =>
      rw [stepped] at ended
      cases halt? with
      | none =>
        obtain ⟨count, last, going, ending⟩ := inductionHypothesis ended
        refine ⟨count + 1, last, ?_, ending⟩
        rw [standing, stepped]
        exact going
      | some halt =>
        cases ended
        exact ⟨0, engine, rfl, Or.inl ⟨halt, after, stepped, rfl, rfl⟩⟩
    | error fault after =>
      rw [stepped] at ended
      cases ended
      exact ⟨0, engine, rfl, Or.inr ⟨fault, after, stepped, rfl, rfl⟩⟩

/-- As long as a run goes on, every step counts one instruction. -/
theorem ledger_of_going {program : Image} {count : Nat} {engine state : Engine σ π}
    (going : standing program count engine = (none, state)) :
    state.ledger = (engine.steps + count, engine.stepLimit, engine.fault) := by
  induction count generalizing engine with
  | zero =>
    cases going
    rfl
  | succ count inductionHypothesis =>
    rw [standing] at going
    cases stepped : step program engine with
    | ok halt? after =>
      rw [stepped] at going
      cases halt? with
      | none =>
        have counted := ledger_of_step stepped
        have rest := inductionHypothesis going
        simp only [ledger, Prod.mk.injEq] at counted rest ⊢
        exact ⟨by omega, rest.2.1.trans counted.2.1, rest.2.2.trans counted.2.2⟩
      | some halt => cases going
    | error fault after =>
      rw [stepped] at going
      cases going

/-- A run counts at most one instruction for each step. -/
theorem steps_standing_bounds (program : Image) (count : Nat) (engine : Engine σ π) :
    engine.steps ≤ (standing program count engine).2.steps ∧
      (standing program count engine).2.steps ≤ engine.steps + count := by
  induction count generalizing engine with
  | zero => exact ⟨le_rfl, le_rfl⟩
  | succ count inductionHypothesis =>
    obtain ⟨atLeast, atMost, _⟩ := ledger_leftBy_step program engine
    rw [standing]
    cases stepped : step program engine with
    | ok halt? after =>
      rw [stepped] at atLeast atMost
      simp only [leftBy] at atLeast atMost
      cases halt? with
      | none =>
        obtain ⟨restAtLeast, restAtMost⟩ := inductionHypothesis after
        exact ⟨le_trans atLeast restAtLeast, le_trans restAtMost (by omega)⟩
      | some halt => exact ⟨atLeast, le_trans atMost (by omega)⟩
    | error fault after =>
      rw [stepped] at atLeast atMost
      exact ⟨atLeast, le_trans atMost (by omega)⟩

/-- No step changes the step limit, however it ends. -/
theorem stepLimit_leftBy_step (program : Image) (engine : Engine σ π) :
    (leftBy (step program engine)).stepLimit = engine.stepLimit := by
  have shape := step_shape program engine
  generalize step program engine = result at shape ⊢
  cases shape with
  | landed _ => rfl
  | spent _ _ _ => rfl
  | wordless _ _ _ => rfl
  | executed bytes _ _ _ =>
    have kept := ledger_execute program bytes (engine.enter (instructionAt bytes))
    exact congrArg (fun entries => entries.2.1) kept

/-- A run keeps the step limit from its first step to its end. -/
theorem stepLimit_standing (program : Image) (count : Nat) (engine : Engine σ π) :
    (standing program count engine).2.stepLimit = engine.stepLimit := by
  induction count generalizing engine with
  | zero => rfl
  | succ count inductionHypothesis =>
    have kept := stepLimit_leftBy_step program engine
    rw [standing]
    cases stepped : step program engine with
    | ok halt? after =>
      rw [stepped] at kept
      cases halt? with
      | none => exact (inductionHypothesis after).trans kept
      | some halt => exact kept
    | error fault after =>
      rw [stepped] at kept
      exact kept

/-- A run that starts with an empty latch ends with its own fault latched, or with none. -/
theorem fault_of_ended {program : Image} {count : Nat} {engine final : Engine σ π}
    {outcome : Outcome} (clear : engine.fault = none)
    (ended : standing program count engine = (some outcome, final)) (fault : Fault) :
    final.fault = some fault ↔ outcome = .error fault := by
  induction count generalizing engine with
  | zero => cases ended
  | succ count inductionHypothesis =>
    obtain ⟨_, _, latched⟩ := ledger_leftBy_step program engine
    rw [clear] at latched
    rw [standing] at ended
    cases stepped : step program engine with
    | ok halt? after =>
      rw [stepped] at ended latched
      cases halt? with
      | none => exact inductionHypothesis latched ended
      | some halt =>
        cases ended
        refine ⟨fun raised => ?_, fun raised => by cases raised⟩
        exact absurd (latched.symm.trans raised) (by simp)
    | error raised after =>
      rw [stepped] at ended latched
      have first : after.latchedFault raised = raised := by
        rw [latchedFault, show after.fault = none from latched, Option.getD_none]
      cases ended
      show some (after.latchedFault raised) = some fault ↔ Except.error _ = Except.error fault
      simp only [Option.some.injEq, Except.error.injEq]

end Engine

/-! ### Two runs in lock step -/

section TwoRuns

variable {τ ρ : Type} [OutputSink τ] [Peripheral ρ]
variable {B : StackBank → StackBank → Prop} {R : Engine σ π → Engine τ ρ → Prop}

/-- Reading a word and executing it, for two engines that count alike. -/
theorem Mirrors.executeNext (mirrors : Mirrors B R) (program : Image)
    (count : ∀ {first : Engine σ π} {second : Engine τ ρ} (instruction : Instruction),
      R first second →
        R (first.countInstruction instruction) (second.countInstruction instruction)) :
    Lockstep R (Option Halt) (Engine.executeNext program) (Engine.executeNext program) := by
  refine .bind (mirrors.steers.take program _) fun bytes => .bind ?_ fun _ => ?_
  · exact fun _ _ related => .ok () (count _ related)
  · exact (mirrors.respects program).execute _ (Instruction.source_decode_lt _)
      (Instruction.destination_decode_lt _)

/-- A relation between engines that whole runs respect, from the first step to the report of how
they ended. -/
structure RunsAlike (B : StackBank → StackBank → Prop) (R : Engine σ π → Engine τ ρ → Prop) :
    Prop extends Mirrors B R where
  begin {first : Engine σ π} {second : Engine τ ρ} :
    R first second → R first.beginInstruction second.beginInstruction
  count {first : Engine σ π} {second : Engine τ ρ} (instruction : Instruction) :
    R first second →
      R (first.countInstruction instruction) (second.countInstruction instruction)
  spent {first : Engine σ π} {second : Engine τ ρ} :
    R first second → first.spentLimit? = second.spentLimit?
  conclude {first : Engine σ π} {second : Engine τ ρ} (halt : Halt) :
    R first second → R (first.conclude halt) (second.conclude halt)
  latched {first : Engine σ π} {second : Engine τ ρ} : R first second → first.fault = second.fault
  latch {first : Engine σ π} {second : Engine τ ρ} (fault : Fault) :
    R first second → R (first.latch fault) (second.latch fault)

namespace RunsAlike

theorem step (alike : RunsAlike B R) (program : Image) :
    Lockstep R (Option Halt) (Engine.step program) (Engine.step program) := by
  intro first second related
  have samePlace : first.AtLanding program ↔ second.AtLanding program := by
    rw [Engine.AtLanding, Engine.AtLanding, alike.landed related, alike.pc related]
  rw [Engine.step_eq, Engine.step_eq, alike.spent related, alike.pc related]
  by_cases landing : second.AtLanding program
  · rw [if_pos landing, if_pos (samePlace.mpr landing)]
    exact .ok _ related
  · rw [if_neg landing, if_neg fun other => landing (samePlace.mp other)]
    cases second.spentLimit? with
    | some limit => exact .error _ related
    | none => exact alike.toMirrors.executeNext program alike.count _ _ (alike.begin related)

/-- Two runs from related states end alike and at the same step, or both go on. -/
theorem standing (alike : RunsAlike B R) (program : Image) (count : Nat) {first : Engine σ π}
    {second : Engine τ ρ} (related : R first second) :
    (first.standing program count).1 = (second.standing program count).1 ∧
      R (first.standing program count).2 (second.standing program count).2 := by
  induction count generalizing first second with
  | zero => exact ⟨rfl, related⟩
  | succ count inductionHypothesis =>
    have same := alike.step program first second related
    rw [Engine.standing, Engine.standing]
    generalize Engine.step program first = result at same ⊢
    generalize Engine.step program second = other at same ⊢
    cases same with
    | ok halt? related =>
      cases halt? with
      | none => exact inductionHypothesis related
      | some halt => exact ⟨rfl, alike.conclude halt related⟩
    | error fault related =>
      refine ⟨?_, alike.latch fault related⟩
      simp only [Engine.latchedFault, alike.latched related]

end RunsAlike

end TwoRuns

end

end Quadstack
