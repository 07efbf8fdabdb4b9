import Mathlib
import Quadstack.Proofs.Machine.Operands
import Quadstack.Proofs.Machine.SameCourse
import Quadstack.Proofs.Machine.Sinks

/-!
The output of a run. The machine talks to its sink in two places only, and goes on in the same way
whatever the sink answers. So the events of a run are settled by the program, the stacks and
the peripheral, and can be told without a sink: they are the texts and the values of the debug
instructions that the run completes. Every sink is handed exactly these, one after another,
and what a sink has at the end is what comes of feeding it with them.
-/

namespace Quadstack

variable {σ τ π : Type}

/-! ### What can be seen along a run -/

namespace Engine

/-- The instruction that the next step executes, if it executes one. -/
def executing? (program : Image) (engine : Engine σ π) : Option Instruction :=
  if engine.AtLanding program ∨ engine.spentLimit?.isSome then none
  else (program.slice? engine.pc Instruction.wordBytes).map instructionAt

theorem executing?_eq_some_iff {program : Image} {engine : Engine σ π}
    {instruction : Instruction} :
    engine.executing? program = some instruction ↔ engine.Executes program instruction := by
  unfold executing?
  split
  · rename_i hindered
    refine ⟨fun none => (by cases none), fun executes => absurd hindered ?_⟩
    rw [executes.unspent]
    exact not_or.mpr ⟨executes.flying, Bool.false_ne_true⟩
  · rename_i free
    obtain ⟨flying, unspent⟩ := not_or.mp free
    rw [Option.map_eq_some_iff]
    refine ⟨fun word => ⟨flying, Option.not_isSome_iff_eq_none.mp unspent, word⟩, ?_⟩
    exact fun executes => executes.word

variable [OutputSink σ] [Peripheral π]

/-- A step that executes nothing at most marks the place where it would have begun. -/
theorem leftBy_step_of_idle {program : Image} {engine : Engine σ π}
    (idle : engine.executing? program = none) :
    leftBy (step program engine) = engine ∨
      leftBy (step program engine) = engine.beginInstruction := by
  have shape := step_shape program engine
  generalize step program engine = result at shape ⊢
  cases shape with
  | landed _ => exact Or.inl rfl
  | spent _ _ _ => exact Or.inl rfl
  | wordless _ _ _ => exact Or.inr rfl
  | executed bytes flying unspent read =>
    rw [executing?_eq_some_iff.mpr ⟨flying, unspent, bytes, read, rfl⟩] at idle
    cases idle

/-- What is seen along a run of `count` steps by someone who looks at each state from which a step
is made. -/
def seenAlong {α : Type} (look : Engine σ π → Option α) (program : Image) :
    Nat → Engine σ π → List α
  | 0, _ => []
  | count + 1, engine =>
    (look engine).toList ++
      match step program engine with
      | .ok none after => seenAlong look program count after
      | _ => []

/-- What is seen along a run is what is seen along its first part, and then what is seen from where
that part leads. -/
theorem seenAlong_add {α : Type} (look : Engine σ π → Option α) (program : Image)
    (first second : Nat) (engine : Engine σ π) :
    engine.seenAlong look program (first + second) =
      engine.seenAlong look program first ++
        match engine.standing program first with
        | (none, state) => state.seenAlong look program second
        | (some _, _) => [] := by
  induction first generalizing engine with
  | zero => rw [Nat.zero_add, seenAlong, standing, List.nil_append]
  | succ first inductionHypothesis =>
    rw [Nat.succ_add, seenAlong, seenAlong, standing, List.append_assoc]
    cases step program engine with
    | ok halt? after =>
      cases halt? with
      | none => rw [← inductionHypothesis after]
      | some halt => rfl
    | error fault after => rfl

/-- Who takes note of a part of what is seen has noted that part of everything seen. -/
theorem seenAlong_map {α β : Type} (look : Engine σ π → Option α) (part : α → β)
    (program : Image) (count : Nat) (engine : Engine σ π) :
    engine.seenAlong (fun state => (look state).map part) program count =
      (engine.seenAlong look program count).map part := by
  induction count generalizing engine with
  | zero => rfl
  | succ count inductionHypothesis =>
    rw [seenAlong, seenAlong, List.map_append, Option.toList_map]
    cases step program engine with
    | ok halt? after =>
      cases halt? with
      | none => exact congrArg _ (inductionHypothesis after)
      | some halt => rfl
    | error fault after => rfl

/-- Who looks for less sees those of the things seen that he looks for. -/
theorem seenAlong_filter {α : Type} (look : Engine σ π → Option α) (wanted : α → Bool)
    (program : Image) (count : Nat) (engine : Engine σ π) :
    engine.seenAlong (fun state => (look state).filter wanted) program count =
      (engine.seenAlong look program count).filter wanted := by
  induction count generalizing engine with
  | zero => rfl
  | succ count inductionHypothesis =>
    rw [seenAlong, seenAlong, List.filter_append, Option.toList_filter]
    cases step program engine with
    | ok halt? after =>
      cases halt? with
      | none => exact congrArg _ (inductionHypothesis after)
      | some halt => rfl
    | error fault after => rfl

end Engine

/-- Along two runs in lock step the same is seen, if the same is seen in related states. -/
theorem RunsAlike.seenAlong {ρ α : Type} [OutputSink σ] [Peripheral π] [OutputSink τ]
    [Peripheral ρ] {B : StackBank → StackBank → Prop} {R : Engine σ π → Engine τ ρ → Prop}
    (alike : RunsAlike B R) {look : Engine σ π → Option α} {other : Engine τ ρ → Option α}
    (same : ∀ {first second}, R first second → look first = other second) (program : Image)
    (count : Nat) {first : Engine σ π} {second : Engine τ ρ} (related : R first second) :
    first.seenAlong look program count = second.seenAlong other program count := by
  induction count generalizing first second with
  | zero => rfl
  | succ count inductionHypothesis =>
    have stepped := alike.step program first second related
    rw [Engine.seenAlong, Engine.seenAlong, same related]
    generalize Engine.step program first = result at stepped ⊢
    generalize Engine.step program second = otherResult at stepped ⊢
    cases stepped with
    | ok halt? after =>
      cases halt? with
      | none => exact congrArg _ (inductionHypothesis after)
      | some halt => rfl
    | error fault after => rfl

/-! ### Events -/

/-- The text that stands at an offset: the bytes up to the first zero byte, if there is one. -/
def Image.textAt? (image : Image) (start : Nat) : Option (List UInt8) :=
  if 0 ∈ image.toList.drop start then some ((image.toList.drop start).takeWhile (· != 0)) else none

theorem Image.operandAt?_text (image : Image) (start : Nat) :
    image.operandAt? start (some .text) = (image.textAt? start).map .text := by
  have read := image.readOperand?_drop start (some .text)
  unfold Listing.readOperand? at read
  unfold textAt?
  cases found : (image.toList.drop start).findIdx? (· == 0) with
  | none =>
    have absent : 0 ∉ image.toList.drop start := fun member => by
      have differs := List.findIdx?_eq_none_iff.mp found 0 member
      cases differs
    rw [found] at read
    rw [if_neg absent]
    exact Option.map_eq_none_iff.mp read.symm
  | some length =>
    obtain ⟨before, place⟩ := List.findIdx?_eq_some_iff_findIdx_eq.mp found
    have present : 0 ∈ image.toList.drop start := by
      obtain ⟨byte, member, zero⟩ := List.findIdx_lt_length.mp (place ▸ before)
      rwa [← beq_iff_eq.mp zero]
    have taken : (image.toList.drop start).takeWhile (· != 0) =
        (image.toList.drop start).take length := by
      rw [List.takeWhile_eq_take_findIdx_not, ← place]
      simp only [bne, Bool.not_not]
    rw [found] at read
    obtain ⟨operand, isThere, same⟩ := Option.map_eq_some_iff.mp read.symm
    rw [isThere, if_pos present, taken]
    exact congrArg some (Prod.mk.inj same).1

/-- Whether such an instruction emits something when it is completed. -/
def Operation.isDebug : Operation → Bool
  | .debugText | .debugValue _ => true
  | _ => false

/-- The event of an instruction whose word stands at `pc`: the text behind the word, or the value on
top of the source. There is none if the text does not end or the stack holds too little, and none
for any other instruction. -/
def Instruction.event? (instruction : Instruction) (program : Image) (pc : Nat)
    (bank : StackBank) : Option DebugEvent :=
  match instruction.operation with
  | .debugText => (program.textAt? (pc + Instruction.wordBytes)).map .text
  | .debugValue width => (bank.peek instruction.sourceStack width).toOption.map (.value width)
  | _ => none

/-- The event that the next step of an engine emits, if it emits one. -/
def Engine.event? (program : Image) (engine : Engine σ π) : Option DebugEvent :=
  (engine.executing? program).bind fun instruction =>
    instruction.event? program engine.pc engine.bank

theorem Engine.event?_of_executes {program : Image} {engine : Engine σ π}
    {instruction : Instruction} (executes : engine.Executes program instruction) :
    engine.event? program = instruction.event? program engine.pc engine.bank := by
  rw [event?, executing?_eq_some_iff.mpr executes, Option.bind_some]

/-- The instruction that the next step of an engine hands to the peripheral, if it hands one. -/
def Engine.dispatch? (program : Image) (engine : Engine σ π) : Option Instruction :=
  (engine.executing? program).filter fun instruction => instruction.operation = .reserved

/-- Whatever the sink answers, it has received the event and the run goes on. -/
theorem Exec.output_emit [OutputSink σ] (event : DebugEvent) (engine : Engine σ π) :
    ∃ after, emit event engine = .ok () after ∧
      after.output = leftBy (OutputSink.receive event engine.output) := by
  unfold emit
  cases OutputSink.receive event engine.output with
  | ok value output => exact ⟨_, rfl, rfl⟩
  | error reason output => exact ⟨_, rfl, rfl⟩

/-! ### Instructions that emit nothing -/

/-- A sink that takes no notice of what it is handed. -/
@[reducible]
def OutputSink.deaf (σ : Type) : OutputSink σ where
  receive _ := pure ()

section

variable [Peripheral π]

/-- What an instruction does with a sink of the given kind. -/
def Acts.executeWith (sink : OutputSink σ) (program : Image) (instruction : Instruction) :
    Exec σ π (Option Halt) :=
  execute program instruction

/-- An instruction that is not for debugging does the same with any kind of sink. -/
theorem Acts.executeWith_of_silent (sink other : OutputSink σ) (program : Image)
    {instruction : Instruction} (silent : instruction.operation.isDebug = false) :
    (executeWith sink program instruction : Exec σ π (Option Halt)) =
      executeWith other program instruction := by
  unfold executeWith execute
  generalize instruction.operation = operation at silent ⊢
  cases operation with
  | debugText | debugValue _ => cases silent
  | _ => rfl

/-- With a deaf sink an engine is in lock step with itself and keeps its output. -/
theorem deaf_mirrors (output : σ) :
    letI := OutputSink.deaf σ
    Mirrors Eq (fun first second : Engine σ π => first = second ∧ first.output = output) := by
  let deaf := OutputSink.deaf σ
  have inside : KeptInside fun engine : Engine σ π => engine.output = output :=
    ⟨fun _ kept => kept, fun _ kept => kept, fun _ kept => kept, fun _ kept => kept⟩
  refine inside.mirrors ?_ fun instruction => ?_
  · rintro event engine _ ⟨rfl, kept⟩
    exact .ok () ⟨rfl, kept⟩
  · refine Lockstep.delegate (D := Eq) instruction ?_ ?_ (.refl _) ?_
    · rintro engine _ ⟨rfl, _⟩
      rfl
    · rintro engine _ ⟨rfl, _⟩
      rfl
    · rintro engine _ left _ message ⟨rfl, kept⟩ rfl
      exact ⟨rfl, kept⟩

variable [OutputSink σ] {program : Image} {engine : Engine σ π} {instruction : Instruction}

/-- An instruction that is not for debugging leaves the sink as it is, however it ends. -/
theorem Engine.Executes.output_of_silent (executes : engine.Executes program instruction)
    (silent : instruction.operation.isDebug = false) :
    (leftBy (step program engine)).output = engine.output := by
  rw [executes.step_eq]
  show (leftBy (Acts.executeWith _ program instruction _)).output = _
  rw [Acts.executeWith_of_silent _ (OutputSink.deaf σ) program silent, Acts.executeWith]
  obtain ⟨_, _, bytes, _, rfl⟩ := executes
  let deaf := OutputSink.deaf σ
  have inStep := ((deaf_mirrors (π := π) engine.output).respects program).execute
    (instructionAt bytes) (Instruction.source_decode_lt _) (Instruction.destination_decode_lt _)
  exact inStep.kept (engine.enter (instructionAt bytes)) rfl

/-! ### Instructions that emit an event -/

/-- A debug instruction either has an event, which the sink receives, and is completed, or it has
none and faults before it comes to the sink. -/
theorem Engine.Executes.debug_cases (executes : engine.Executes program instruction)
    (debug : instruction.operation.isDebug = true) :
    (∃ event after, instruction.event? program engine.pc engine.bank = some event ∧
        step program engine = .ok none after ∧
        after.output = leftBy (OutputSink.receive event engine.output)) ∨
      ∃ fault after, instruction.event? program engine.pc engine.bank = none ∧
        step program engine = .error fault after ∧ after.output = engine.output := by
  cases operation : instruction.operation with
  | debugText =>
    have operand := program.operandAt?_text (engine.pc + Instruction.wordBytes)
    rw [Instruction.event?, operation]
    dsimp only
    cases text : program.textAt? (engine.pc + Instruction.wordBytes) with
    | some bytes =>
      have found : program.operandAt? (engine.pc + Instruction.wordBytes)
          instruction.operation.inlineOperand? = some (.text bytes) := by
        rw [operation, Operation.inlineOperand?, operand, text]
        rfl
      have stepped := executes.step_of_found found
      obtain ⟨after, emitted, received⟩ :=
        Exec.output_emit (.text bytes) (engine.fetched instruction (.text bytes))
      exact Or.inl ⟨_, after, rfl, stepped.trans (Exec.bind_of_ok emitted), received⟩
    | none =>
      have stepped := executes.step_of_missing (by
        rw [operation, Operation.inlineOperand?, operand, text]
        rfl)
      exact Or.inr ⟨_, _, rfl, stepped, rfl⟩
  | debugValue width =>
    have stepped := executes.step_eq
    rw [Acts.execute, operation] at stepped
    rw [Instruction.event?, operation]
    dsimp only
    rcases Exec.pop_cases instruction.sourceStack width (engine.enter instruction) with
      ⟨_, value, top, popped⟩ | ⟨few, failed⟩
    · have found : engine.bank.peek instruction.sourceStack width = .ok value := top
      obtain ⟨after, emitted, received⟩ := Exec.output_emit (.value width value)
        ((engine.enter instruction).popped instruction.sourceStack width value)
      rw [found]
      refine Or.inl ⟨_, after, rfl, stepped.trans ?_, received⟩
      exact (Exec.bind_of_ok popped).trans (Exec.bind_of_ok emitted)
    · have missing : engine.bank.peek instruction.sourceStack width =
          .error (.underflow instruction.sourceStack) := by
        rw [StackBank.peek, StackBank.peekAt_eq, if_neg]
        rw [← StackBank.pointer_eq_length, Nat.zero_add]
        exact Nat.not_le_of_lt few
      rw [missing]
      exact Or.inr ⟨_, _, rfl, stepped.trans (Exec.bind_of_error failed), rfl⟩
  | _ =>
    rw [operation] at debug
    cases debug

theorem Instruction.event?_of_silent (silent : instruction.operation.isDebug = false) (pc : Nat)
    (bank : StackBank) : instruction.event? program pc bank = none := by
  cases operation : instruction.operation with
  | debugText | debugValue _ =>
    rw [operation] at silent
    cases silent
  | _ => rw [Instruction.event?, operation]

namespace Engine

/-- A step emits an event exactly if it completes a debug instruction. -/
theorem event?_isSome_iff :
    (engine.event? program).isSome ↔ ∃ instruction after, engine.Executes program instruction ∧
      instruction.operation.isDebug = true ∧ step program engine = .ok none after := by
  constructor
  · intro some
    obtain ⟨event, found⟩ := Option.isSome_iff_exists.mp some
    obtain ⟨instruction, executing, emits⟩ := Option.bind_eq_some_iff.mp found
    have executes := executing?_eq_some_iff.mp executing
    cases debug : instruction.operation.isDebug with
    | false =>
      rw [Instruction.event?_of_silent debug] at emits
      cases emits
    | true =>
      rcases executes.debug_cases debug with ⟨_, after, _, stepped, _⟩ | ⟨_, _, none, _⟩
      · exact ⟨instruction, after, executes, debug, stepped⟩
      · rw [none] at emits
        cases emits
  · rintro ⟨instruction, after, executes, debug, completed⟩
    rw [event?_of_executes executes]
    rcases executes.debug_cases debug with ⟨event, _, found, _⟩ | ⟨_, _, _, failed, _⟩
    · rw [found, Option.isSome_some]
    · rw [failed] at completed
      cases completed

/-- A step hands the sink its event and nothing else. -/
theorem output_leftBy_step (program : Image) (engine : Engine σ π) :
    (leftBy (step program engine)).output =
      OutputSink.feed engine.output (engine.event? program).toList := by
  cases executing : engine.executing? program with
  | none =>
    have quiet : engine.event? program = none := by rw [event?, executing, Option.bind_none]
    rw [quiet]
    rcases leftBy_step_of_idle executing with same | begun
    · rw [same]
      rfl
    · rw [begun]
      rfl
  | some instruction =>
    have executes := executing?_eq_some_iff.mp executing
    rw [event?_of_executes executes]
    cases debug : instruction.operation.isDebug with
    | false =>
      rw [Instruction.event?_of_silent debug, executes.output_of_silent debug]
      rfl
    | true =>
      rcases executes.debug_cases debug with
        ⟨event, after, found, stepped, received⟩ | ⟨fault, after, none, failed, kept⟩
      · rw [found, stepped]
        exact received
      · rw [none, failed]
        exact kept

/-! ### The events of a run -/

/-- The events that a run emits in its first `count` steps. -/
def emitted (program : Image) (count : Nat) (engine : Engine σ π) : List DebugEvent :=
  engine.seenAlong (event? program) program count

/-- The instructions that a run executes in its first `count` steps, each with the offset at which
it stands. -/
def executed (program : Image) (count : Nat) (engine : Engine σ π) : List (Nat × Instruction) :=
  engine.seenAlong (fun state => (state.executing? program).map (state.pc, ·)) program count

/-- The instructions that a run hands to the peripheral in its first `count` steps. -/
def dispatched (program : Image) (count : Nat) (engine : Engine σ π) : List Instruction :=
  engine.seenAlong (dispatch? program) program count

/-- Along a run the sink is fed with the events of the run. -/
theorem output_standing (program : Image) (count : Nat) (engine : Engine σ π) :
    (engine.standing program count).2.output =
      OutputSink.feed engine.output (engine.emitted program count) := by
  induction count generalizing engine with
  | zero => rfl
  | succ count inductionHypothesis =>
    have received := output_leftBy_step program engine
    rw [standing, emitted, seenAlong, OutputSink.feed_append, ← received]
    cases step program engine with
    | ok halt? after =>
      cases halt? with
      | none => exact inductionHypothesis after
      | some halt => rfl
    | error fault after => rfl

end Engine

end

/-! ### Two sinks -/

/-- The engine with another sink; everything else is kept. -/
def Engine.withOutput (engine : Engine σ π) (output : τ) : Engine τ π :=
  { engine with output := output }

theorem SameCourse.withOutput (engine : Engine σ π) (other : τ) :
    SameCourse Eq Eq engine.reset (engine.withOutput other).reset :=
  ⟨rfl, rfl, rfl, rfl, rfl, rfl, rfl, rfl, rfl⟩

/-- What the next step executes is settled by the course. -/
theorem SameCourse.executing? {ρ : Type} {B : StackBank → StackBank → Prop} {P : π → ρ → Prop}
    {first : Engine σ π} {second : Engine τ ρ} (same : SameCourse B P first second)
    (program : Image) :
    first.executing? program = second.executing? program := by
  have place : first.AtLanding program ↔ second.AtLanding program := by
    rw [Engine.AtLanding, Engine.AtLanding, same.landed, same.pc]
  have budget : first.spentLimit? = second.spentLimit? := by
    rw [Engine.spentLimit?, Engine.spentLimit?, same.stepLimit, same.steps]
  simp only [Engine.executing?, place, budget, same.pc]

section

variable [OutputSink σ] [OutputSink τ] [Peripheral π]

/-- Two engines with equal stacks and equal peripherals make the same run. -/
theorem SameCourse.equalRuns : RunsAlike (σ := σ) (τ := τ) (π := π) Eq (SameCourse Eq Eq) := by
  refine SameCourse.runsAlike .eq fun instruction => ?_
  rintro ⟨peripheral, bank, moves⟩ ⟨_, _, _⟩ ⟨rfl, rfl, rfl⟩
  cases Peripheral.dispatch instruction (peripheral, TracedBank.mk bank moves) with
  | ok value after => exact .ok value ⟨rfl, rfl, rfl⟩
  | error refusal after => exact .error refusal ⟨rfl, rfl, rfl⟩

theorem SameCourse.emitted (engine : Engine σ π) (other : τ) (program : Image) (count : Nat) :
    engine.reset.emitted program count = (engine.withOutput other).reset.emitted program count := by
  refine SameCourse.equalRuns.seenAlong (fun same => ?_) program count (.withOutput engine other)
  rw [Engine.event?, Engine.event?, same.executing?, same.pc, same.bank]

theorem SameCourse.dispatched (engine : Engine σ π) (other : τ) (program : Image) (count : Nat) :
    engine.reset.dispatched program count =
      (engine.withOutput other).reset.dispatched program count := by
  refine SameCourse.equalRuns.seenAlong (fun same => ?_) program count (.withOutput engine other)
  rw [Engine.dispatch?, Engine.dispatch?, same.executing?]

theorem SameCourse.run? (engine : Engine σ π) (other : τ) (program : Image) (fuel : Nat) :
    Option.Rel (fun first second => first.1 = second.1 ∧ SameCourse Eq Eq first.2 second.2)
      (engine.run? program fuel) ((engine.withOutput other).run? program fuel) := by
  obtain ⟨outcome, course⟩ :=
    SameCourse.equalRuns.standing program fuel (.withOutput engine other)
  unfold Engine.run?
  rw [Engine.continue?_eq_standing, Engine.continue?_eq_standing, ← outcome]
  cases (engine.reset.standing program fuel).1 with
  | none => exact .none
  | some ended => exact .some ⟨rfl, course⟩

/-- The output channel has no influence on a run, and nothing is lost in it or comes out of order.
With two sinks of any kind, whatever they answer, a run comes to the same end with the same state of
everything but output and journal, and it hands the same instructions to the peripheral. It has one
list of events, whatever the sink: there is an event for each debug instruction that is completed
and for nothing else, and after any number of steps a sink has received exactly the events so far,
each once and in order. So a log of events has grown by these, a log of bytes by what is shown of
them, and a writer that has room for a number of bytes in all, in whatever portions it takes them,
has as many of the first of these bytes. What is shown of a text are its bytes, and of a value the
digits that stand for it in decimal, with a line break behind them. -/
theorem output_never_interferes (program : Image) (engine : Engine σ π) (count : Nat) :
    (∀ other : τ,
      Option.Rel (fun first second => first.1 = second.1 ∧ SameCourse Eq Eq first.2 second.2)
        (engine.run? program count) ((engine.withOutput other).run? program count) ∧
      engine.reset.dispatched program count =
        (engine.withOutput other).reset.dispatched program count ∧
      ((engine.withOutput other).reset.standing program count).2.output =
        OutputSink.feed other (engine.reset.emitted program count)) ∧
    (∀ state : Engine σ π, (state.event? program).isSome ↔
      ∃ instruction after, state.Executes program instruction ∧
        instruction.operation.isDebug = true ∧ state.step program = .ok none after) ∧
    (∀ log : EventLog,
      ((engine.withOutput log).reset.standing program count).2.output.events.toList =
        log.events.toList ++ engine.reset.emitted program count) ∧
    (∀ bytes, DebugEvent.shown (.text bytes) = bytes) ∧
    (∀ width value, ∃ digits, Numeral.IsDecimal digits value.toNat ∧
      DebugEvent.shown (.value width value) = digits ++ [0x0a]) ∧
    (∀ log : ByteLog,
      ((engine.withOutput log).reset.standing program count).2.output.bytes.toList =
        log.bytes.toList ++ DebugEvent.stream (engine.reset.emitted program count)) ∧
    (∀ writer : BoundedWriter,
      ((engine.withOutput writer).reset.standing program count).2.output.accepted.toList =
        writer.accepted.toList ++
          (DebugEvent.stream (engine.reset.emitted program count)).take writer.room) ∧
    ∀ (ω : Type) [ByteWriter ω] (accepted : ω → List UInt8) (room : ω → Nat),
      TakesInAll accepted room → ∀ sink : WriterSink ω,
        accepted ((engine.withOutput sink).reset.standing program count).2.output.writer =
          accepted sink.writer ++
            (DebugEvent.stream (engine.reset.emitted program count)).take (room sink.writer) := by
  have received {ρ : Type} [OutputSink ρ] (other : ρ) :
      ((engine.withOutput other).reset.standing program count).2.output =
        OutputSink.feed other (engine.reset.emitted program count) := by
    rw [SameCourse.emitted engine other]
    exact Engine.output_standing program count _
  refine ⟨fun other => ⟨?_, ?_, received other⟩, fun state => Engine.event?_isSome_iff, ?_,
    fun bytes => rfl, ?_, ?_, ?_, ?_⟩
  · exact SameCourse.run? engine other program count
  · exact SameCourse.dispatched engine other program count
  · intro log
    rw [received, EventLog.events_feed]
  · intro width value
    exact ⟨_, Numeral.isDecimal_decimalBytes value.toNat, rfl⟩
  · intro log
    rw [received, ByteLog.bytes_feed]
  · intro writer
    rw [received, BoundedWriter.accepted_feed]
  · intro ω _ accepted room takes sink
    rw [received, takes.accepted_feed]

end

/-- A text, a value and another text, written to a log and to something that has room for seven
bytes. The line break behind the value is taken, and then the first byte of the second text. -/
theorem output_never_interferes_cut :
    ∃ (program : Image) (engine : Engine EventLog NoPeripheral),
      TakesInAll (fun writer : BoundedWriter => writer.accepted.toList) BoundedWriter.room ∧
      engine.reset.emitted program 5 = [.text [0x68, 0x69], .value .w8 207, .text [0x79, 0x6f]] ∧
      ((engine.withOutput ByteLog.empty).reset.standing program 5).2.output.bytes.toList =
        [0x68, 0x69, 0x32, 0x30, 0x37, 0x0a, 0x79, 0x6f] ∧
      ((engine.withOutput (WriterSink.mk (BoundedWriter.mk 7 .stalls #[]))).reset.standing program
        5).2.output.writer.accepted.toList = [0x68, 0x69, 0x32, 0x30, 0x37, 0x0a, 0x79] := by
  let program : Image := #[0x80, 0x00, 0x68, 0x69, 0x00, 0x40, 0x00, 0xcf, 0x90, 0x00,
    0x80, 0x00, 0x79, 0x6f, 0x00, 0x80, 0x12]
  let engine : Engine EventLog NoPeripheral := Engine.new {} NoPeripheral.mk
  have events : engine.reset.emitted program 5 =
      [.text [0x68, 0x69], .value .w8 207, .text [0x79, 0x6f]] := by
    decide +kernel
  obtain ⟨_, _, _, _, _, logged, _, written⟩ :=
    output_never_interferes (τ := EventLog) program engine 5
  have whole := logged ByteLog.empty
  have taken := written BoundedWriter _ _ BoundedWriter.takesInAll
    (WriterSink.mk (BoundedWriter.mk 7 .stalls #[]))
  rw [events] at whole taken
  exact ⟨program, engine, BoundedWriter.takesInAll, events, whole.trans (by decide +kernel),
    taken.trans (by decide +kernel)⟩

end Quadstack
