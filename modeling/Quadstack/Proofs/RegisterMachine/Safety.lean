import Mathlib
import Quadstack.Proofs.RegisterMachine.Simulation

/-!
The machine in registers never breaks down. It goes in lock step with the engine, instruction by
instruction and step by step, and the engine knows no traps. The counter of steps fits its register
as long as fewer than `2 ^ 64` instructions are executed, and the look at the flags after an
instruction finds them as they were, because only arithmetic and logic set them.
-/

namespace Quadstack

section

variable {σ π : Type}

namespace Simulates

variable {program : Image}

/-! ### Instructions -/

/-- The flags are as before where they have to be, so looking at them does no harm. -/
theorem guardFlags {operation : Operation} {before : Flags} {engine : Engine σ π}
    (fits : engine.Fits program)
    (quiet : operation.affectsFlags = false → engine.flags = before) :
    Agrees program engine (Pure.pure ()) (WordEngine.guardFlags operation before) := by
  refine ⟨?_, fits⟩
  have allowed : operation.affectsFlags = true ∨ engine.toWords.flags = before := by
    cases affects : operation.affectsFlags with
    | true => exact Or.inl rfl
    | false => exact Or.inr (quiet affects)
  unfold WordEngine.guardFlags
  split
  · rfl
  · rw [if_pos allowed]
    rfl

theorem countInstruction (instruction : Instruction) {engine : Engine σ π}
    (fits : engine.Fits program) (room : engine.steps + 1 < 2 ^ 64) :
    Agrees program engine (modify (Engine.countInstruction · instruction))
      WordEngine.countInstruction := by
  have added : Checked.add engine.toWords.steps 1 = .ok (UInt64.ofNat (engine.steps + 1)) :=
    Checked.add_ofNat room
  refine ⟨?_, fits.pc_le, fits.current_le, room, fits.limit_lt⟩
  unfold WordEngine.countInstruction
  rw [added]
  rfl

/-- A limit is used up in registers when it is used up. -/
theorem spentLimit?_eq {engine : Engine σ π} (fits : engine.Fits program) :
    engine.toWords.spentLimit? = engine.spentLimit?.map UInt64.ofNat := by
  unfold WordEngine.spentLimit? Engine.spentLimit?
  rw [Engine.toWords_stepLimit, Engine.toWords_steps]
  cases limited : engine.stepLimit with
  | none => rfl
  | some limit =>
    have compared : UInt64.ofNat limit ≤ UInt64.ofNat engine.steps ↔ limit ≤ engine.steps :=
      UInt64.ofNat_le_iff_le (fits.limit_lt limit limited) fits.steps_lt
    by_cases spent : limit ≤ engine.steps
    · simp [compared, spent]
    · simp [compared, spent]

/-- A limit that is used up is the one that was set. -/
theorem stepLimit_of_spentLimit? {engine : Engine σ π} {limit : Nat}
    (spent : engine.spentLimit? = some limit) : engine.stepLimit = some limit := by
  unfold Engine.spentLimit? at spent
  cases limited : engine.stepLimit with
  | none => simp [limited] at spent
  | some value =>
    simp only [limited, Option.ite_none_right_eq_some] at spent
    exact spent.2

theorem atLanding_iff (short : program.size < 2 ^ 63) {engine : Engine σ π}
    (fits : engine.Fits program) :
    (engine.toWords.landed = true ∧ engine.toWords.pc = UInt64.ofNat program.size) ↔
      engine.AtLanding program := by
  have place : engine.toWords.pc = UInt64.ofNat program.size ↔ engine.pc = program.size := by
    rw [← UInt64.toNat_inj, toNat_pc short fits, Checked.toNat_ofNat (by omega)]
  rw [place]
  rfl

variable [OutputSink σ] [Peripheral π]

/-- An instruction that was read is executed in the state that its reading leaves, once counted. -/
theorem executeNext_of_fetched {engine read : Engine σ π} {instruction : Instruction}
    (fetched : Exec.fetchInstruction program engine = .ok instruction read) :
    ∃ bytes, instruction = Engine.instructionAt bytes ∧
      Engine.executeNext program engine =
        Acts.execute (m := Exec σ π) program (Engine.instructionAt bytes)
          (read.countInstruction (Engine.instructionAt bytes)) := by
  have opened : Exec.fetchInstruction program engine =
      EStateM.bind (Exec.take program Instruction.wordBytes) _ engine := rfl
  have openedToo : Engine.executeNext program engine =
      EStateM.bind (Exec.take program Instruction.wordBytes) _ engine := rfl
  rw [opened] at fetched
  rw [openedToo]
  unfold EStateM.bind at fetched ⊢
  cases taken : Exec.take program Instruction.wordBytes engine with
  | ok bytes after =>
    rw [taken] at fetched
    cases fetched
    exact ⟨bytes, rfl, rfl⟩
  | error fault after =>
    rw [taken] at fetched
    cases fetched

/-- The engine's work on an instruction, with a part for each part of the machine's. -/
theorem executeNext_regrouped (program : Image) (engine : Engine σ π) :
    Engine.executeNext program engine =
      (Exec.fetchInstruction program >>= fun instruction =>
        modify (Engine.countInstruction · instruction) >>= fun _ =>
        (fun engine => .ok engine.flags engine : Exec σ π Flags) >>= fun _ =>
        Acts.execute (m := Exec σ π) program instruction >>= fun halt? =>
        (Pure.pure () : Exec σ π Unit) >>= fun _ =>
        (Pure.pure halt? : Exec σ π (Option Halt))) engine := by
  show EStateM.bind (Exec.take program Instruction.wordBytes) _ engine =
    EStateM.bind (EStateM.bind (Exec.take program Instruction.wordBytes) _) _ engine
  unfold EStateM.bind
  cases Exec.take program Instruction.wordBytes engine with
  | ok bytes after =>
    show Acts.execute (m := Exec σ π) program (Engine.instructionAt bytes)
        (after.countInstruction (Engine.instructionAt bytes)) =
      EStateM.bind (Acts.execute (m := Exec σ π) program (Engine.instructionAt bytes)) _
        (after.countInstruction (Engine.instructionAt bytes))
    unfold EStateM.bind
    cases Acts.execute (m := Exec σ π) program (Engine.instructionAt bytes)
      (after.countInstruction (Engine.instructionAt bytes)) <;> rfl
  | error fault after => rfl

variable [BankClient π]

/-- Every act of the machine does what the engine's act does. -/
theorem respects (short : program.size < 2 ^ 63) :
    Acts.Respects (m := Exec σ π) (n := WordExec σ π) (Simulates program) program program where
  pure := pure
  bind := bind
  push _ width value small := push short small width value
  pop _ width small := pop short small width
  peekAt _ width depth small := peekAt short small width depth
  pointer _ small := pointer small
  fetchLiteral width := fetchLiteral short width
  fetchText := fetchText short
  arith op width lhs rhs := by
    have looked : Simulates (σ := σ) (π := π) program (Option UInt32)
        (fun engine => .ok (op.compute? width lhs rhs) engine)
        (WordExec.checked fun _ => Checked.arith op width lhs rhs) :=
      look fun _ _ => Checked.arith_eq op width lhs rhs
    exact looked.bind fun result? => require short result? .divisionByZero
  shift op width value count := look fun _ _ => Checked.shift_eq op width value count
  satisfies condition := look fun _ _ => rfl
  setFlags width value := by
    intro engine fits
    show (Checked.flagsOf width value >>= fun flags =>
      Except.ok (Except.ok (), { engine.toWords with flags := flags })) = _ ∧ _
    rw [Checked.flagsOf_eq]
    exact ⟨rfl, fits.keep rfl⟩
  jumpTo target := by
    have near : target.toNat ≤ max (2 ^ 32 - 1) (program.size + 32767) := by
      have bound := target.toNat_lt
      omega
    have jumped := jumpTo (σ := σ) (π := π) near
    rw [UInt64.ofNat_uInt32ToNat] at jumped
    exact jumped
  branch condition := branch short condition
  returnAddress := returnAddress short
  halt reason := look fun engine fits => by
    rw [toNat_current short fits]
    rfl
  emit := emit
  delegate := delegate short

/-- Reading a word, counting the instruction and executing it, as long as the count fits. -/
theorem executeNext (short : program.size < 2 ^ 63) {engine : Engine σ π}
    (fits : engine.Fits program)
    (room : (leftBy (Engine.executeNext program engine)).steps < 2 ^ 64) :
    Agrees program engine (Engine.executeNext program) (WordEngine.executeNext program) := by
  have looking : Simulates (σ := σ) (π := π) program Flags
      (fun engine => .ok engine.flags engine)
      (WordExec.checked fun words => Pure.pure words.flags) :=
    look fun _ _ => rfl
  unfold Agrees
  rw [executeNext_regrouped]
  refine (fetchInstruction short engine fits).bind fun instruction read fetched readFits => ?_
  obtain ⟨bytes, rfl, executes⟩ := executeNext_of_fetched fetched
  have readRoom : read.steps + 1 < 2 ^ 64 := by
    have counted := congrArg Prod.fst (Engine.ledger_execute program bytes
      (read.countInstruction (Engine.instructionAt bytes)))
    rw [executes] at room
    exact lt_of_eq_of_lt counted.symm room
  refine (countInstruction _ readFits readRoom).bind fun _ counted _ countedFits => ?_
  refine (looking counted countedFits).bind fun before same looked _ => ?_
  cases looked
  have executed := (respects (σ := σ) (π := π) short).execute (Engine.instructionAt bytes)
    (Instruction.source_decode_lt _) (Instruction.destination_decode_lt _)
  refine (executed counted countedFits).bind fun halt? after ended afterFits => ?_
  refine Agrees.bind (guardFlags afterFits fun quiet => ?_) fun _ last unchanged lastFits => ?_
  · have kept := Engine.flags_execute program bytes counted quiet
    rw [ended] at kept
    exact kept
  · exact pure halt? last lastFits

/-! ### Steps and runs -/

theorem step (short : program.size < 2 ^ 63) {engine : Engine σ π} (fits : engine.Fits program)
    (room : (leftBy (Engine.step program engine)).steps < 2 ^ 64) :
    Agrees program engine (Engine.step program) (WordEngine.step program) := by
  unfold Agrees WordEngine.step
  rw [Engine.step_eq] at room ⊢
  rw [toNat_pc short fits, spentLimit?_eq fits]
  by_cases landing : engine.AtLanding program
  · rw [if_pos landing, if_pos ((atLanding_iff short fits).mpr landing)]
    exact ⟨rfl, fits⟩
  · rw [if_neg landing] at room ⊢
    rw [if_neg fun other => landing ((atLanding_iff short fits).mp other)]
    cases spent : engine.spentLimit? with
    | some limit =>
      have small : limit < 2 ^ 64 := fits.limit_lt limit (stepLimit_of_spentLimit? spent)
      refine ⟨?_, fits⟩
      show Except.ok (Except.error (Fault.stepLimitExceeded _ (UInt64.ofNat limit).toNat), _) = _
      rw [Checked.toNat_ofNat small]
      rfl
    | none =>
      rw [spent] at room
      have begun : engine.beginInstruction.Fits program :=
        ⟨fits.pc_le, fits.pc_le, fits.steps_lt, fits.limit_lt⟩
      exact executeNext short begun room

/-- The machine stands where the engine stands, as long as the count of instructions fits. -/
theorem standing (short : program.size < 2 ^ 63) (count : Nat) {engine : Engine σ π}
    (fits : engine.Fits program) (few : (engine.standing program count).2.steps < 2 ^ 64) :
    engine.toWords.standing program count =
        .ok ((engine.standing program count).1, (engine.standing program count).2.toWords) ∧
      (engine.standing program count).2.Fits program := by
  induction count generalizing engine with
  | zero => exact ⟨rfl, fits⟩
  | succ count inductionHypothesis =>
    have agreed := step (σ := σ) (π := π) short fits
    rw [Engine.standing] at few ⊢
    rw [WordEngine.standing]
    unfold Agrees at agreed
    cases stepped : Engine.step program engine with
    | ok halt? after =>
      rw [stepped] at few agreed
      cases halt? with
      | none =>
        have rest : (after.standing program count).2.steps < 2 ^ 64 := few
        have fewer := (Engine.steps_standing_bounds program count after).1
        obtain ⟨same, kept⟩ := agreed (lt_of_le_of_lt fewer rest)
        rw [same]
        exact inductionHypothesis kept rest
      | some halt =>
        obtain ⟨same, kept⟩ := agreed few
        rw [same]
        exact ⟨rfl, Engine.Fits.keep kept rfl⟩
    | error fault after =>
      rw [stepped] at few agreed
      obtain ⟨same, kept⟩ := agreed few
      rw [same]
      exact ⟨rfl, Engine.Fits.keep kept rfl⟩

end Simulates

/-- An engine that starts a run where the machine does. -/
def WordEngine.unbounded (machine : WordEngine σ π) : Engine σ π where
  bank := { byteStacks := machine.bank.cells.map fun cells => ⟨cells, 0, Nat.zero_le _⟩ }
  stepLimit := machine.stepLimit.map UInt64.toNat
  output := machine.output
  peripheral := machine.peripheral

/-- The cells of a bank in registers are the cells of some bank, whatever its pointers hold. -/
theorem WordBank.reset_eq (bank : WordBank) :
    bank.reset = (StackBank.mk
      (bank.cells.map fun cells => ⟨cells, 0, Nat.zero_le _⟩)).reset.toWords := by
  rw [StackBank.reset_toWords]
  unfold WordBank.reset StackBank.toWords
  simp only [Vector.map_map, WordBank.mk.injEq, and_true]
  exact (Vector.map_id' bank.cells).symm

theorem WordEngine.reset_eq (machine : WordEngine σ π) :
    machine.reset = machine.unbounded.reset.toWords := by
  have limits : (machine.stepLimit.map UInt64.toNat).map UInt64.ofNat = machine.stepLimit := by
    cases machine.stepLimit with
    | none => rfl
    | some limit => exact congrArg some UInt64.ofNat_toNat
  unfold WordEngine.reset Engine.toWords
  rw [machine.bank.reset_eq]
  show _ = WordEngine.mk _ _ _ _ _ _ _ ((machine.stepLimit.map UInt64.toNat).map UInt64.ofNat) _ _
  rw [limits]
  rfl

/-- At the start of a run every number fits. -/
theorem WordEngine.unbounded_fits (program : Image) (machine : WordEngine σ π) :
    machine.unbounded.reset.Fits program where
  pc_le := Nat.zero_le _
  current_le := Nat.zero_le _
  steps_lt := Nat.two_pow_pos 64
  limit_lt limit limited := by
    have mapped : machine.stepLimit.map UInt64.toNat = some limit := limited
    obtain ⟨word, _, rfl⟩ := Option.map_eq_some_iff.mp mapped
    exact word.toNat_lt

end

/-- The machine in registers never breaks down. Take any program of fewer than `2 ^ 63` bytes, any
machine in whatever state it is found, any sink, any peripheral that uses the bank through its
operations, and look at a run after any number of steps in which fewer than `2 ^ 64` instructions
are executed. No trap was met, and the machine stands where the engine stands. Each of the four
pointers is at most 1024, the live bytes of each stack can be cut out, and the program
counter is at most the larger of `2 ^ 32 - 1` and 32767 past the end of the program. The selectors
of an instruction are below four whatever word it is read from. -/
theorem registers_never_trap {σ π : Type} [OutputSink σ] [Peripheral π] [BankClient π]
    (program : Image) (short : program.size < 2 ^ 63) (machine : WordEngine σ π) (count : Nat)
    (few : (machine.unbounded.reset.standing program count).2.steps < 2 ^ 64) :
    (∃ outcome? state,
      machine.reset.standing program count = .ok (outcome?, state) ∧
      (∀ stack : StackId, state.bank.pointers.get stack ≤ 1024) ∧
      (∀ stack : StackId, ∃ bytes, state.bank.contents (UInt64.ofNat stack.val) = .ok bytes) ∧
      state.pc.toNat ≤ max (2 ^ 32 - 1) (program.size + 32767) ∧
      outcome? = (machine.unbounded.reset.standing program count).1 ∧
      state = (machine.unbounded.reset.standing program count).2.toWords) ∧
    ∀ word, (Instruction.decode word).source < 4 ∧ (Instruction.decode word).destination < 4 := by
  obtain ⟨stands, fits⟩ := Simulates.standing short count (machine.unbounded_fits program) few
  rw [← machine.reset_eq] at stands
  refine ⟨⟨_, _, stands, ?_, ?_, ?_, rfl, rfl⟩, fun word =>
    ⟨Instruction.source_decode_lt word, Instruction.destination_decode_lt word⟩⟩
  · intro stack
    exact StackBank.pointers_toWords_le _ stack
  · intro stack
    exact ⟨_, StackBank.contents_toWords _ (Checked.toNat_ofNat (by omega))⟩
  · rw [Simulates.toNat_pc short fits]
    exact fits.pc_le

/-- A million steps of a branch to itself. -/
theorem registers_never_trap_loop :
    Array.size (#[0x80, 0x11, 0xfc, 0xff] : Image) < 2 ^ 63 ∧
      ∃ outcome? state,
        (Engine.new ByteLog.empty NoPeripheral.mk).toWords.reset.standing
            #[0x80, 0x11, 0xfc, 0xff] 1000000 = .ok (outcome?, state) ∧
          ∀ stack : StackId, state.bank.pointers.get stack ≤ 1024 := by
  have short : Array.size (#[0x80, 0x11, 0xfc, 0xff] : Image) < 2 ^ 63 := by decide
  have counted := (Engine.steps_standing_bounds #[0x80, 0x11, 0xfc, 0xff] 1000000
    (Engine.new ByteLog.empty NoPeripheral.mk).toWords.unbounded.reset).2
  have few := lt_of_le_of_lt counted (by decide : 0 + 1000000 < 2 ^ 64)
  obtain ⟨⟨outcome?, state, stands, pointers, _⟩, _⟩ := registers_never_trap
    #[0x80, 0x11, 0xfc, 0xff] short (Engine.new ByteLog.empty NoPeripheral.mk).toWords 1000000 few
  exact ⟨short, outcome?, state, stands, pointers⟩

end Quadstack
