import Mathlib
import Quadstack.Proofs.Image.Reading
import Quadstack.Proofs.Machine.Runs
import Quadstack.Proofs.RegisterMachine.Machine

/-!
The engine's acts in registers. An engine whose numbers fit can be written into registers, and every
act of the machine on it then does what the engine's act does, with the result written into
registers again.

What has to be kept for that is that the numbers fit. The pointers of the stacks always do. The
program counter moves in three ways: reading bytes leaves it inside the program, a transfer to an
address leaves it below `2 ^ 32`, and a branch starts from inside the program and goes at most
32767 bytes on. For the branch that is only true because it reads its distance first, so acts
are compared in the states that the acts before them can lead to.
-/

namespace Quadstack

/-! ### Engines in registers -/

section

variable {σ π : Type}

/-- The engine with its numbers in registers. The machine keeps no journal. -/
def Engine.toWords (engine : Engine σ π) : WordEngine σ π where
  bank := engine.bank.toWords
  flags := engine.flags
  pc := UInt64.ofNat engine.pc
  current := UInt64.ofNat engine.current
  landed := engine.landed
  fault := engine.fault
  steps := UInt64.ofNat engine.steps
  stepLimit := engine.stepLimit.map UInt64.ofNat
  output := engine.output
  peripheral := engine.peripheral

section

variable (engine : Engine σ π)

@[simp]
theorem Engine.toWords_bank : engine.toWords.bank = engine.bank.toWords := rfl

@[simp]
theorem Engine.toWords_flags : engine.toWords.flags = engine.flags := rfl

@[simp]
theorem Engine.toWords_pc : engine.toWords.pc = UInt64.ofNat engine.pc := rfl

@[simp]
theorem Engine.toWords_steps : engine.toWords.steps = UInt64.ofNat engine.steps := rfl

@[simp]
theorem Engine.toWords_stepLimit :
    engine.toWords.stepLimit = engine.stepLimit.map UInt64.ofNat := rfl

@[simp]
theorem Engine.toWords_output : engine.toWords.output = engine.output := rfl

@[simp]
theorem Engine.toWords_peripheral : engine.toWords.peripheral = engine.peripheral := rfl

end

/-- The numbers of an engine fit registers, and its program counter is where a program of this size
can take it. -/
structure Engine.Fits (program : Image) (engine : Engine σ π) : Prop where
  pc_le : engine.pc ≤ max (2 ^ 32 - 1) (program.size + 32767)
  current_le : engine.current ≤ max (2 ^ 32 - 1) (program.size + 32767)
  steps_lt : engine.steps < 2 ^ 64
  limit_lt : ∀ limit, engine.stepLimit = some limit → limit < 2 ^ 64

theorem Engine.Fits.keep {program : Image} {engine after : Engine σ π} (fits : engine.Fits program)
    (same : (after.pc, after.current, after.steps, after.stepLimit) =
      (engine.pc, engine.current, engine.steps, engine.stepLimit)) : after.Fits program := by
  simp only [Prod.mk.injEq] at same
  obtain ⟨pc, current, steps, stepLimit⟩ := same
  exact ⟨pc ▸ fits.pc_le, current ▸ fits.current_le, steps ▸ fits.steps_lt,
    stepLimit ▸ fits.limit_lt⟩

/-- A result with its state in registers. -/
def inWords {α : Type} :
    EStateM.Result Fault (Engine σ π) α → Checked (Except Fault α × WordEngine σ π)
  | .ok value after => .ok (.ok value, after.toWords)
  | .error fault after => .ok (.error fault, after.toWords)

/-- In one state, work of the machine does what work of the engine does and leaves numbers that
fit. -/
def Agrees (program : Image) {α : Type} (engine : Engine σ π) (work : Exec σ π α)
    (inRegisters : WordExec σ π α) : Prop :=
  inRegisters engine.toWords = inWords (work engine) ∧ (leftBy (work engine)).Fits program

/-- In every state whose numbers fit, work of the machine does what work of the engine does. -/
def Simulates (program : Image) (α : Type) (work : Exec σ π α) (inRegisters : WordExec σ π α) :
    Prop :=
  ∀ engine, engine.Fits program → Agrees program engine work inRegisters

/-- One piece of work after another. The second need only agree where the first can lead. -/
theorem Agrees.bind {program : Image} {α β : Type} {engine : Engine σ π} {work : Exec σ π α}
    {inRegisters : WordExec σ π α} {next : α → Exec σ π β} {following : α → WordExec σ π β}
    (start : Agrees program engine work inRegisters)
    (rest : ∀ value after, work engine = .ok value after → after.Fits program →
      Agrees program after (next value) (following value)) :
    Agrees program engine (work >>= next) (inRegisters >>= following) := by
  obtain ⟨same, kept⟩ := start
  have opened : (work >>= next) engine = EStateM.bind work next engine := rfl
  have openedToo : (inRegisters >>= following) engine.toWords =
      (inRegisters engine.toWords >>= fun reached =>
        ExceptT.bindCont following reached.1 reached.2) := rfl
  unfold EStateM.bind at opened
  cases reached : work engine with
  | ok value after =>
    rw [reached] at same kept opened
    obtain ⟨sameNext, keptNext⟩ := rest value after reached kept
    exact ⟨by rw [openedToo, same, opened]; exact sameNext, by rw [opened]; exact keptNext⟩
  | error fault after =>
    rw [reached] at same kept opened
    exact ⟨by rw [openedToo, same, opened]; rfl, by rw [opened]; exact kept⟩

namespace Simulates

variable {program : Image} {α β : Type}

theorem pure (value : α) :
    Simulates (σ := σ) (π := π) program α (Pure.pure value) (Pure.pure value) :=
  fun _ fits => ⟨rfl, fits⟩

theorem bind {work : Exec σ π α} {inRegisters : WordExec σ π α} {next : α → Exec σ π β}
    {following : α → WordExec σ π β} (start : Simulates program α work inRegisters)
    (rest : ∀ value, Simulates program β (next value) (following value)) :
    Simulates program β (work >>= next) (inRegisters >>= following) :=
  fun engine fits => (start engine fits).bind fun value after _ kept => rest value after kept

/-- Work that looks at the engine, changes nothing and always has a value. -/
theorem look {value : Engine σ π → α} {work : WordEngine σ π → Checked α}
    (same : ∀ engine, engine.Fits program → work engine.toWords = .ok (value engine)) :
    Simulates program α (fun engine => .ok (value engine) engine) (WordExec.checked work) := by
  intro engine fits
  refine ⟨?_, fits⟩
  unfold WordExec.checked
  rw [same engine fits]
  rfl

/-! ### Stacks -/

/-- The numbers that faults carry are the same. -/
theorem toNat_current (short : program.size < 2 ^ 63) {engine : Engine σ π}
    (fits : engine.Fits program) : engine.toWords.current.toNat = engine.current := by
  have bound := fits.current_le
  exact Checked.toNat_ofNat (by omega)

theorem toNat_pc (short : program.size < 2 ^ 63) {engine : Engine σ π}
    (fits : engine.Fits program) : engine.toWords.pc.toNat = engine.pc := by
  have bound := fits.pc_le
  exact Checked.toNat_ofNat (by omega)

theorem require (short : program.size < 2 ^ 63) (value? : Option α) (fault : Nat → Fault) :
    Simulates (σ := σ) (π := π) program α (Exec.require value? fault)
      (WordExec.require value? fault) := by
  intro engine fits
  cases value? with
  | some value => exact ⟨rfl, fits⟩
  | none =>
    refine ⟨?_, fits⟩
    show Except.ok (Except.error (fault engine.toWords.current.toNat), engine.toWords) =
      Except.ok (Except.error (fault engine.current), engine.toWords)
    rw [toNat_current short fits]

/-- Work on a bank that the bank in registers does too. -/
theorem onBank (short : program.size < 2 ^ 63) {work : BankM StackError α}
    {inRegisters : WordBank → Checked (Except StackError α × WordBank)}
    (same : ∀ bank : StackBank, inRegisters bank.toWords =
      .ok (match work { bank := bank } with
        | .ok value traced => (.ok value, traced.bank.toWords)
        | .error error traced => (.error error, traced.bank.toWords))) :
    Simulates (σ := σ) (π := π) program α (Exec.onBank work) (WordExec.onBank inRegisters) := by
  intro engine fits
  unfold Agrees WordExec.onBank Exec.onBank
  rw [Engine.toWords_bank, same engine.bank, toNat_current short fits]
  cases work { bank := engine.bank } with
  | ok value traced => exact ⟨rfl, fits.keep rfl⟩
  | error error traced => exact ⟨rfl, fits.keep rfl⟩

/-- A small selector is the number of its stack. -/
theorem selector_names {selector : UInt8} (small : selector < 4) :
    selector.toUInt64.toNat = (StackId.ofSelector selector).val := by
  rw [UInt8.lt_iff_toNat_lt] at small
  rw [UInt8.toNat_toUInt64]
  exact (Nat.mod_eq_of_lt small).symm

theorem push (short : program.size < 2 ^ 63) {selector : UInt8} (small : selector < 4)
    (width : Width) (value : UInt32) :
    Simulates (σ := σ) (π := π) program Unit (Exec.push (.ofSelector selector) width value)
      (WordExec.onBank fun bank => bank.push selector.toUInt64 width value) := by
  refine onBank short fun bank => ?_
  rw [bank.push_toWords (selector_names small), TracedBank.push]
  dsimp only
  cases bank.push (.ofSelector selector) width value <;> rfl

theorem pop (short : program.size < 2 ^ 63) {selector : UInt8} (small : selector < 4)
    (width : Width) :
    Simulates (σ := σ) (π := π) program UInt32 (Exec.pop (.ofSelector selector) width)
      (WordExec.onBank fun bank => bank.pop selector.toUInt64 width) := by
  refine onBank short fun bank => ?_
  rw [bank.pop_toWords (selector_names small), TracedBank.pop]
  dsimp only
  cases bank.pop (.ofSelector selector) width <;> rfl

theorem peekAt (short : program.size < 2 ^ 63) {selector : UInt8} (small : selector < 4)
    (width : Width) (depth : UInt32) :
    Simulates (σ := σ) (π := π) program UInt32
      (Exec.peekAt (.ofSelector selector) width depth.toNat)
      (WordExec.peekAt selector.toUInt64 width depth.toUInt64) := by
  refine onBank short fun bank => ?_
  rw [bank.peekAt_toWords (selector_names small), UInt32.toNat_toUInt64, TracedBank.peekAt]
  dsimp only
  cases bank.peekAt (.ofSelector selector) width depth.toNat <;> rfl

theorem pointer {selector : UInt8} (small : selector < 4) :
    Simulates (σ := σ) (π := π) program UInt32 (Exec.pointer (.ofSelector selector))
      (WordExec.checked fun words => do
        let bytes ← words.bank.pointer selector.toUInt64
        Pure.pure bytes.toUInt32) := by
  refine look fun engine fits => ?_
  rw [Engine.toWords_bank, engine.bank.pointer_toWords (selector_names small), Checked.ok_bind,
    Checked.pure_eq_ok, UInt64.toUInt32_ofNat']

/-! ### Reading the program -/

/-- The tests made in registers are the ones made on numbers. -/
theorem rest?_bind_first? (program : Image) {start count : Nat} (startSmall : start < 2 ^ 64)
    (countSmall : count < 2 ^ 64) :
    (WordExec.rest? program (UInt64.ofNat start)).bind
      (WordExec.first? · (UInt64.ofNat count)) = program.slice? start count := by
  unfold WordExec.rest? WordExec.first?
  rw [Checked.toNat_ofNat startSmall, Checked.toNat_ofNat countSmall]
  rcases Image.slice?_cases program start count with ⟨inside, bytes, read, rfl, _⟩ | ⟨outside, read⟩
  · rw [read, if_pos (by omega), Option.bind_some, List.length_drop, Array.length_toList,
      if_pos (by omega)]
  · rw [read]
    by_cases begun : start ≤ program.size
    · rw [if_pos begun, Option.bind_some, List.length_drop, Array.length_toList,
        if_neg (by omega)]
    · rw [if_neg begun, Option.bind_none]

theorem take (short : program.size < 2 ^ 63) (count : Nat) (few : count < 2 ^ 64) :
    Simulates (σ := σ) (π := π) program (List UInt8) (Exec.take program count)
      (WordExec.take program (UInt64.ofNat count)) := by
  intro engine fits
  have bound := fits.pc_le
  unfold Agrees WordExec.take Exec.take
  rw [toNat_pc short fits, Engine.toWords_pc, rest?_bind_first? program (by omega) few]
  rcases Image.slice?_cases program engine.pc count with ⟨inside, bytes, read, _, _⟩ | ⟨_, read⟩
  · rw [read]
    dsimp only
    rw [Checked.add_ofNat (by omega), Checked.ok_bind]
    refine ⟨rfl, ?_, fits.current_le, fits.steps_lt, fits.limit_lt⟩
    show engine.pc + count ≤ max (2 ^ 32 - 1) (program.size + 32767)
    omega
  · rw [read]
    exact ⟨rfl, fits⟩

/-- Bytes that were read are as many as were asked for. -/
theorem length_of_take {count : Nat} {engine after : Engine σ π} {bytes : List UInt8}
    (taken : Exec.take program count engine = .ok bytes after) :
    bytes.length = count ∧ after.pc ≤ program.size := by
  unfold Exec.take at taken
  rcases Image.slice?_cases program engine.pc count with
    ⟨inside, found, read, _, measured⟩ | ⟨_, read⟩
  · rw [read] at taken
    cases taken
    exact ⟨measured, inside⟩
  · rw [read] at taken
    cases taken

theorem fetchLiteral (short : program.size < 2 ^ 63) (width : Width) :
    Simulates (σ := σ) (π := π) program UInt32 (Exec.fetchLiteral program width)
      (WordExec.fetchLiteral program width) := by
  have few := width.bytes_le_four
  intro engine fits
  refine (take short _ (by omega) engine fits).bind fun bytes after taken kept => ?_
  obtain ⟨measured, _⟩ := length_of_take taken
  refine look (fun _ _ => ?_) after kept
  exact Checked.assemble_bytes bytes rfl (by omega)

/-- A distance is read as a word of two bytes, of which the low half is kept. -/
theorem fetchDistance (short : program.size < 2 ^ 63) :
    Simulates (σ := σ) (π := π) program Int16 (Exec.fetchDistance program)
      (WordExec.fetchDistance program) := by
  intro engine fits
  have regrouped : Exec.fetchDistance program engine =
      (Exec.fetchLiteral program .w16 >>= fun raw =>
        (Pure.pure raw.toUInt16.toInt16 : Exec σ π Int16)) engine := by
    show EStateM.bind (Exec.take program Width.w16.bytes) _ engine =
      EStateM.bind (EStateM.bind (Exec.take program Width.w16.bytes) _) _ engine
    unfold EStateM.bind
    cases Exec.take program Width.w16.bytes engine with
    | ok bytes after =>
      show EStateM.Result.ok (UInt16.ofNat (LittleEndian.decode bytes)).toInt16 after =
        EStateM.Result.ok (UInt32.ofNat (LittleEndian.decode bytes)).toUInt16.toInt16 after
      rw [UInt32.toUInt16_ofNat']
    | error fault after => rfl
  have agreed := (fetchLiteral (σ := σ) (π := π) short .w16).bind
    (fun raw => pure raw.toUInt16.toInt16) engine fits
  unfold Agrees at agreed ⊢
  rw [regrouped]
  exact agreed

/-- After a distance was read the program counter is inside the program. -/
theorem pc_of_fetchDistance {engine after : Engine σ π} {distance : Int16}
    (fetched : Exec.fetchDistance program engine = .ok distance after) :
    after.pc ≤ program.size := by
  have opened : Exec.fetchDistance program engine =
      EStateM.bind (Exec.take program Width.w16.bytes) _ engine := rfl
  rw [opened] at fetched
  unfold EStateM.bind at fetched
  cases taken : Exec.take program Width.w16.bytes engine with
  | ok bytes reached =>
    rw [taken] at fetched
    cases fetched
    exact (length_of_take taken).2
  | error fault reached =>
    rw [taken] at fetched
    cases fetched

/-- The search in registers is the search in the bytes from the program counter on. -/
theorem rest?_bind_findIdx? (program : Image) {start : Nat} (small : start < 2 ^ 64) :
    ((WordExec.rest? program (UInt64.ofNat start)).bind (·.findIdx? (· == 0))) =
      (program.toList.drop start).findIdx? (· == 0) := by
  unfold WordExec.rest?
  rw [Checked.toNat_ofNat small]
  by_cases begun : start ≤ program.size
  · rw [if_pos begun, Option.bind_some]
  · rw [if_neg begun, List.drop_eq_nil_of_le (by simpa using Nat.le_of_not_le begun)]
    rfl

theorem fetchText (short : program.size < 2 ^ 63) :
    Simulates (σ := σ) (π := π) program (List UInt8) (Exec.fetchText program)
      (WordExec.fetchText program) := by
  intro engine fits
  have bound := fits.pc_le
  unfold Agrees WordExec.fetchText Exec.fetchText
  rw [toNat_pc short fits, Engine.toWords_pc,
    rest?_bind_findIdx? program (by omega), Image.zeroFrom?_eq]
  cases found : (program.toList.drop engine.pc).findIdx? (· == 0) with
  | none => exact ⟨rfl, fits⟩
  | some length =>
    have within : length < program.size - engine.pc := by
      have before := (List.findIdx?_eq_some_iff_getElem.mp found).1
      rwa [List.length_drop, Array.length_toList] at before
    obtain ⟨same, kept⟩ := take (σ := σ) (π := π) short (length + 1) (by omega) engine fits
    have read : program.slice? engine.pc (length + 1) =
        some ((program.toList.drop engine.pc).take (length + 1)) := by
      rcases Image.slice?_cases program engine.pc (length + 1) with
        ⟨_, bytes, read, spelled, _⟩ | ⟨outside, _⟩
      · rw [read, spelled]
      · omega
    have taken : Exec.take program (length + 1) engine =
        .ok ((program.toList.drop engine.pc).take (length + 1))
          { engine with pc := engine.pc + (length + 1) } := by
      unfold Exec.take
      rw [read]
    have cut : Checked.slice ((program.toList.drop engine.pc).take (length + 1)).toArray 0
        (UInt64.ofNat length) = .ok (program.extract engine.pc (engine.pc + length)).toList := by
      have size : ((program.toList.drop engine.pc).take (length + 1)).toArray.size =
          length + 1 := by
        rw [List.size_toArray, List.length_take, List.length_drop, Array.length_toList]
        omega
      rw [show (0 : UInt64) = UInt64.ofNat 0 from rfl,
        Checked.slice_ofNat _ (Nat.zero_le length) (by omega) (by omega), Array.toList_extract,
        Array.toList_extract, List.extract_eq_take_drop, List.extract_eq_take_drop,
        List.drop_zero, List.take_take, Nat.add_sub_cancel_left]
      congr 2
      omega
    rw [taken] at same kept
    dsimp only [Option.map_some]
    rw [show (1 : UInt64) = UInt64.ofNat 1 from rfl, Checked.add_ofNat (by omega),
      Checked.ok_bind, same]
    refine ⟨?_, kept⟩
    show (Checked.slice _ 0 (UInt64.ofNat length) >>= fun text =>
      Pure.pure (Except.ok text, Engine.toWords { engine with pc := engine.pc + (length + 1) })) = _
    rw [cut]
    rfl

theorem fetchInstruction (short : program.size < 2 ^ 63) :
    Simulates (σ := σ) (π := π) program Instruction (Exec.fetchInstruction program)
      (WordExec.fetchInstruction program) := by
  intro engine fits
  refine (take short _ (by decide) engine fits).bind fun bytes after taken kept => ?_
  obtain ⟨measured, _⟩ := length_of_take taken
  obtain ⟨low, high, rfl⟩ : ∃ low high, bytes = [low, high] := List.length_eq_two.mp measured
  exact ⟨rfl, kept⟩

/-! ### Control -/

/-- A target that a branch can have is at most 32767 bytes past the end of the program. -/
theorem branchTarget?_cases (pc : Nat) (inside : pc < 2 ^ 63) (distance : Int16) :
    (∃ target, Exec.branchTarget? pc distance = some target ∧ target ≤ pc + 32767 ∧
        WordExec.addSigned? (UInt64.ofNat pc) distance = some (UInt64.ofNat target)) ∨
      (Exec.branchTarget? pc distance = none ∧
        WordExec.addSigned? (UInt64.ofNat pc) distance = none) := by
  have far : distance.toInt < 2 ^ 15 := distance.toInt_lt
  unfold Exec.branchTarget? WordExec.addSigned?
  rw [Checked.toNat_ofNat (by omega)]
  dsimp only
  by_cases negative : (pc : Int) + distance.toInt < 0
  · rw [if_pos negative, if_neg (by omega)]
    exact Or.inr ⟨rfl, rfl⟩
  · rw [if_neg negative, if_pos (by omega)]
    exact Or.inl ⟨_, rfl, by omega, rfl⟩

theorem jumpTo {target : Nat} (near : target ≤ max (2 ^ 32 - 1) (program.size + 32767)) :
    Simulates (σ := σ) (π := π) program Unit (Exec.jumpTo target)
      (WordExec.jumpTo (UInt64.ofNat target)) :=
  fun _ fits => ⟨rfl, near, fits.current_le, fits.steps_lt, fits.limit_lt⟩

theorem branch (short : program.size < 2 ^ 63) (condition : Condition) :
    Simulates (σ := σ) (π := π) program Unit (Exec.branch program condition)
      (WordExec.branch program condition) := by
  intro engine fits
  refine (fetchDistance short engine fits).bind fun distance moved fetched kept => ?_
  -- The branch is taken from inside the program, which is what bounds its target.
  have inside := pc_of_fetchDistance fetched
  show Agrees program moved
    (fun engine => (if engine.flags.satisfies condition then do
        let target ← Exec.require (Exec.branchTarget? engine.pc distance) .targetOutOfBounds
        Exec.jumpTo target
      else Pure.pure () : Exec σ π Unit) engine)
    (fun words => (if words.flags.satisfies condition then do
        let target ← WordExec.require (WordExec.addSigned? words.pc distance) .targetOutOfBounds
        WordExec.jumpTo target
      else Pure.pure () : WordExec σ π Unit) words)
  unfold Agrees
  dsimp only
  rw [Engine.toWords_flags]
  by_cases taken : moved.flags.satisfies condition = true
  · rw [if_pos taken, if_pos taken, Engine.toWords_pc]
    rcases branchTarget?_cases moved.pc (by omega) distance with
      ⟨target, found, near, added⟩ | ⟨found, added⟩
    · rw [found, added]
      exact jumpTo (by omega) moved kept
    · rw [found, added]
      refine ⟨?_, kept⟩
      show Except.ok (Except.error (Fault.targetOutOfBounds moved.toWords.current.toNat), _) =
        Except.ok (Except.error (Fault.targetOutOfBounds moved.current), moved.toWords)
      rw [toNat_current short kept]
  · rw [if_neg taken, if_neg taken]
    exact ⟨rfl, kept⟩

theorem returnAddress (short : program.size < 2 ^ 63) :
    Simulates (σ := σ) (π := π) program UInt32 Exec.returnAddress (do
      let words ← WordExec.checked Pure.pure
      WordExec.require (WordExec.returnAddress? words.pc) .targetOutOfBounds) := by
  intro engine fits
  have small : WordExec.returnAddress? engine.toWords.pc = Exec.returnAddress? engine.pc := by
    unfold WordExec.returnAddress? Exec.returnAddress?
    rw [toNat_pc short fits, Engine.toWords_pc, UInt64.toUInt32_ofNat']
    rfl
  have agreed := require (σ := σ) (π := π) short (Exec.returnAddress? engine.pc) .targetOutOfBounds
    engine fits
  unfold Agrees at agreed ⊢
  show WordExec.require (WordExec.returnAddress? engine.toWords.pc) .targetOutOfBounds
    engine.toWords = _ ∧ _
  rw [small]
  exact agreed

/-! ### The outside -/

theorem emit [OutputSink σ] (event : DebugEvent) :
    Simulates (σ := σ) (π := π) program Unit (Exec.emit event) (WordExec.emit event) := by
  intro engine fits
  unfold Agrees WordExec.emit Exec.emit
  rw [Engine.toWords_output]
  cases OutputSink.receive event engine.output with
  | ok value output => exact ⟨rfl, fits.keep rfl⟩
  | error reason output => exact ⟨rfl, fits.keep rfl⟩

/-- Work on a bank comes to the same in registers, whatever it asks for. -/
theorem performInWords_eq (work : BankProgram α) (traced : TracedBank) :
    work.performInWords traced.bank.toWords =
      .ok ((work.perform traced).1, (work.perform traced).2.bank.toWords) := by
  have names (stack : StackId) : (UInt64.ofNat stack.val).toNat = stack.val :=
    Checked.toNat_ofNat (by omega)
  induction work generalizing traced with
  | done result => rfl
  | push stack width value next inductionHypothesis =>
    rw [BankProgram.performInWords, traced.bank.push_toWords (names stack), Checked.ok_bind,
      BankProgram.perform, TracedBank.push]
    cases traced.bank.push stack width value with
    | ok after =>
      exact inductionHypothesis (.ok ())
        { bank := after
          moves := traced.moves.push (.push stack width value (after.pointer stack)) }
    | error error => exact inductionHypothesis _ traced
  | pop stack width next inductionHypothesis =>
    rw [BankProgram.performInWords, traced.bank.pop_toWords (names stack), Checked.ok_bind,
      BankProgram.perform, TracedBank.pop]
    cases traced.bank.pop stack width with
    | ok result =>
      exact inductionHypothesis (.ok result.1)
        { bank := result.2
          moves := traced.moves.push (.pop stack width result.1 (result.2.pointer stack)) }
    | error error => exact inductionHypothesis _ traced
  | peekAt stack width depth next inductionHypothesis =>
    rw [BankProgram.performInWords, traced.bank.peekAt_toWords (names stack), Checked.ok_bind,
      BankProgram.perform, TracedBank.peekAt]
    cases traced.bank.peekAt stack width depth.toNat with
    | ok value => exact inductionHypothesis _ traced
    | error error => exact inductionHypothesis _ traced
  | contents stack next inductionHypothesis =>
    rw [BankProgram.performInWords, traced.bank.contents_toWords (names stack), Checked.ok_bind,
      BankProgram.perform]
    exact inductionHypothesis _ traced
  | reset next inductionHypothesis =>
    rw [BankProgram.performInWords, ← StackBank.reset_toWords, BankProgram.perform]
    exact inductionHypothesis { traced with bank := traced.bank.reset }

theorem delegate [Peripheral π] [BankClient π] (short : program.size < 2 ^ 63)
    (instruction : Instruction) :
    Simulates (σ := σ) (π := π) program Unit (Exec.delegate instruction)
      (WordExec.delegate instruction) := by
  intro engine fits
  have worked := performInWords_eq (BankClient.conduct instruction engine.peripheral)
    { bank := engine.bank }
  have dispatched := BankClient.dispatch_eq instruction engine.peripheral { bank := engine.bank }
  unfold Agrees WordExec.delegate Exec.delegate
  rw [Engine.toWords_peripheral, Engine.toWords_bank, worked, Checked.ok_bind, dispatched]
  generalize (BankClient.conduct instruction engine.peripheral).perform { bank := engine.bank } =
    result
  obtain ⟨⟨peripheral, verdict⟩, traced⟩ := result
  cases verdict with
  | ok accepted => exact ⟨rfl, fits.keep rfl⟩
  | error refusal =>
    refine ⟨?_, ?_⟩
    · cases refusal with
      | denied =>
        show Except.ok (Except.error (Fault.insufficientPermissions engine.toWords.current.toNat _),
          _) = _
        rw [toNat_current short fits]
        rfl
      | stack error =>
        show Except.ok (Except.error (error.toFault engine.toWords.current.toNat), _) = _
        rw [toNat_current short fits]
        rfl
    · cases refusal <;> exact fits.keep rfl

end Simulates

end

end Quadstack
