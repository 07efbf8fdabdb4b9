import Mathlib
import Quadstack.Proofs.Machine.Runs

/-!
The step budget. A limit is looked at in one place only, between the test for a landing and the
reading of the next word, so a run with a limit goes in lock step with the run without one until
that many instructions are counted. At that moment three things can be: the run has already ended,
or it has just landed at the end of the program and ends as it would without a limit, or it is
stopped. The last happens also where the run without a limit would end at its next step for
want of a word, because the budget is looked at first.
-/

namespace Quadstack.Engine

variable {σ π : Type}

/-! ### A limit is invisible to acts -/

theorem spentLimit?_of_free {engine : Engine σ π} (free : engine.stepLimit = none) :
    engine.spentLimit? = none := by
  rw [spentLimit?, free]

theorem spentLimit?_withStepLimit (engine : Engine σ π) (limit : Nat) :
    (engine.withStepLimit (some limit)).spentLimit? =
      if limit ≤ engine.steps then some limit else none := rfl

variable [OutputSink σ] [Peripheral π]

theorem withStepLimit_mirrors (limit? : Option Nat) :
    Mirrors Eq fun first second : Engine σ π => second = first.withStepLimit limit? where
  banks := .eq
  bank related := by rw [related]; rfl
  flags related := by rw [related]; rfl
  pc related := by rw [related]; rfl
  current related := by rw [related]; rfl
  landed related := by rw [related]; rfl
  setPc pc related := by rw [related]; rfl
  transfer target related := by rw [related]; rfl
  setFlags flags related := by rw [related]; rfl
  adopt := by
    rintro first _ ⟨bank, moves⟩ ⟨_, _⟩ rfl ⟨rfl, rfl⟩
    rfl
  emit event := by
    rintro engine _ rfl
    unfold Exec.emit
    rw [show (engine.withStepLimit limit?).output = engine.output from rfl]
    cases OutputSink.receive event engine.output with
    | ok value output => exact .ok () rfl
    | error reason output => exact .ok () rfl
  delegate instruction := by
    refine Lockstep.delegate (D := Eq) instruction ?_ ?_ (.refl _) ?_
    · rintro engine _ rfl
      rfl
    · rintro engine _ rfl
      rfl
    · rintro engine _ left _ message rfl rfl
      rfl

/-- While the budget lasts, a step with a limit is the step without one. -/
theorem step_withStepLimit (program : Image) (engine : Engine σ π) (limit : Nat)
    (free : engine.stepLimit = none) (lasting : engine.steps < limit) :
    SameResult (fun first second => second = first.withStepLimit (some limit))
      (step program engine) (step program (engine.withStepLimit (some limit))) := by
  rw [step_eq, step_eq, spentLimit?_of_free free, spentLimit?_withStepLimit,
    if_neg (Nat.not_le_of_lt lasting)]
  by_cases landing : engine.AtLanding program
  · have landingToo : (engine.withStepLimit (some limit)).AtLanding program := landing
    rw [if_pos landing, if_pos landingToo]
    exact .ok _ rfl
  · have flyingToo : ¬ (engine.withStepLimit (some limit)).AtLanding program := landing
    rw [if_neg landing, if_neg flyingToo]
    exact (withStepLimit_mirrors (some limit)).executeNext program
      (fun instruction related => by rw [related]; rfl) _ _ rfl

/-- As long as the budget covers the steps, a run with a limit stands where the run without one
does. -/
theorem standing_withStepLimit (program : Image) (count : Nat) (engine : Engine σ π) (limit : Nat)
    (free : engine.stepLimit = none) (covered : engine.steps + count ≤ limit) :
    standing program count (engine.withStepLimit (some limit)) =
      ((standing program count engine).1,
        (standing program count engine).2.withStepLimit (some limit)) := by
  induction count generalizing engine with
  | zero => rfl
  | succ count inductionHypothesis =>
    have same := step_withStepLimit program engine limit free (by omega)
    rw [standing, standing]
    cases stepped : step program engine with
    | ok halt? after =>
      rw [stepped] at same
      generalize step program (engine.withStepLimit (some limit)) = result at same ⊢
      cases same with
      | ok _ related =>
        subst related
        cases halt? with
        | none =>
          have counted := ledger_of_step stepped
          simp only [ledger, Prod.mk.injEq] at counted
          exact inductionHypothesis after (counted.2.1.trans free) (by omega)
        | some halt => rfl
    | error fault after =>
      rw [stepped] at same
      generalize step program (engine.withStepLimit (some limit)) = result at same ⊢
      cases same with
      | error _ related =>
        subst related
        rfl

/-! ### Steps at the threshold -/

/-- A run without a limit comes to a place where the next word is missing. Its next step then ends
it, and that step counts no instruction. -/
def EndsWordless (program : Image) (engine : Engine σ π) : Prop :=
  ∃ count state, standing program count engine.reset = (none, state) ∧
    ¬ state.AtLanding program ∧ program.size < state.pc + Instruction.wordBytes

/-- One more step from where a run stands. -/
theorem standing_succ_of_going {program : Image} {count : Nat} {engine state : Engine σ π}
    (going : standing program count engine = (none, state)) :
    standing program (count + 1) engine = standing program 1 state := by
  rw [standing_add, going]

theorem standing_one_of_landing {program : Image} {state : Engine σ π}
    (landing : state.AtLanding program) :
    standing program 1 state =
      (some (.ok { offset := state.pc, reason := .landed }),
        state.conclude { offset := state.pc, reason := .landed }) := by
  rw [standing, step_eq, if_pos landing]

theorem standing_one_of_spent {program : Image} {state : Engine σ π} {limit : Nat}
    (clear : state.fault = none) (flying : ¬ state.AtLanding program)
    (used : state.spentLimit? = some limit) :
    standing program 1 state =
      (some (.error (.stepLimitExceeded state.pc limit)),
        state.latch (.stepLimitExceeded state.pc limit)) := by
  rw [standing, step_eq, if_neg flying, used]
  show (some (Except.error (state.latchedFault _)), _) = _
  rw [latchedFault, clear, Option.getD_none]

/-- A step that finds no word ends the run and counts nothing. -/
theorem standing_one_of_wordless {program : Image} {state : Engine σ π}
    (free : state.stepLimit = none) (flying : ¬ state.AtLanding program)
    (short : program.size < state.pc + Instruction.wordBytes) :
    ∃ outcome final, standing program 1 state = (some outcome, final) ∧
      final.steps = state.steps := by
  have missing : program.slice? state.pc Instruction.wordBytes = none :=
    if_neg (Nat.not_le_of_lt short)
  have shape := step_shape program state
  rw [standing]
  generalize step program state = result at shape ⊢
  cases shape with
  | landed landing => exact absurd landing flying
  | spent limit _ used =>
    rw [spentLimit?_of_free free] at used
    cases used
  | wordless _ _ _ => exact ⟨_, _, rfl, rfl⟩
  | executed bytes _ _ read =>
    rw [missing] at read
    cases read

/-- A step that finds a word counts its instruction, and later steps take nothing off. -/
theorem steps_lt_of_read {program : Image} {state : Engine σ π} (rest : Nat)
    (free : state.stepLimit = none) (flying : ¬ state.AtLanding program)
    (enough : ¬ program.size < state.pc + Instruction.wordBytes) :
    state.steps < (standing program (rest + 1) state).2.steps := by
  have shape := step_shape program state
  rw [standing]
  generalize step program state = result at shape ⊢
  cases shape with
  | landed landing => exact absurd landing flying
  | spent limit _ used =>
    rw [spentLimit?_of_free free] at used
    cases used
  | wordless _ _ short => exact absurd short enough
  | executed bytes _ _ _ =>
    have kept := congrArg Prod.fst
      (ledger_execute program bytes (state.enter (instructionAt bytes)))
    have counted : state.steps < (leftBy (Acts.execute (m := Exec σ π) program
        (instructionAt bytes) (state.enter (instructionAt bytes)))).steps :=
      lt_of_lt_of_eq (Nat.lt_succ_self state.steps) kept.symm
    generalize Acts.execute (m := Exec σ π) program (instructionAt bytes)
      (state.enter (instructionAt bytes)) = result at counted ⊢
    rcases result with ⟨halt?, after⟩ | ⟨fault, after⟩
    · cases halt? with
      | none => exact lt_of_lt_of_le counted (steps_standing_bounds program rest after).1
      | some halt => exact counted
    · exact counted

/-! ### Runs with and without a limit -/

section Threshold

variable {program : Image} {engine state : Engine σ π} {limit : Nat}

/-- The run with a limit stands where the run without one does, for as many steps as the limit. -/
theorem standing_limited (program : Image) (engine : Engine σ π) {limit count : Nat}
    (covered : count ≤ limit) :
    standing program count (engine.withStepLimit (some limit)).reset =
      ((standing program count (engine.withStepLimit none).reset).1,
        (standing program count (engine.withStepLimit none).reset).2.withStepLimit
          (some limit)) := by
  have start : (engine.withStepLimit (some limit)).reset =
      (engine.withStepLimit none).reset.withStepLimit (some limit) := rfl
  rw [start]
  refine standing_withStepLimit program count _ limit rfl ?_
  rw [show (engine.withStepLimit none).reset.steps = 0 from rfl, Nat.zero_add]
  exact covered

/-- What is known of the run without a limit when it has made as many steps as the limit allows and
goes on. -/
theorem ledger_at_limit
    (going : standing program limit (engine.withStepLimit none).reset = (none, state)) :
    state.steps = limit ∧ state.stepLimit = none ∧ state.fault = none := by
  have entries := ledger_of_going going
  simp only [ledger, Prod.mk.injEq] at entries
  exact ⟨entries.1.trans (Nat.zero_add limit), entries.2⟩

/-- At the threshold a run that has landed ends as it would without a limit. -/
theorem standing_limited_of_landing
    (going : standing program limit (engine.withStepLimit none).reset = (none, state))
    (landing : state.AtLanding program) :
    standing program (limit + 1) (engine.withStepLimit (some limit)).reset =
      (some (.ok { offset := program.size, reason := .landed }),
        (state.conclude { offset := program.size, reason := .landed }).withStepLimit
          (some limit)) := by
  have limited := standing_limited program engine (Nat.le_refl limit)
  rw [going] at limited
  have landingToo : (state.withStepLimit (some limit)).AtLanding program := landing
  rw [standing_succ_of_going limited, standing_one_of_landing landingToo]
  show (some (Except.ok (Halt.mk state.pc _)),
    (state.conclude (Halt.mk state.pc _)).withStepLimit (some limit)) = _
  rw [landing.2]

/-- At the threshold a run that has not landed is stopped. -/
theorem standing_limited_of_flying
    (going : standing program limit (engine.withStepLimit none).reset = (none, state))
    (flying : ¬ state.AtLanding program) :
    standing program (limit + 1) (engine.withStepLimit (some limit)).reset =
      (some (.error (.stepLimitExceeded state.pc limit)),
        (state.withStepLimit (some limit)).latch (.stepLimitExceeded state.pc limit)) := by
  obtain ⟨counted, _, clear⟩ := ledger_at_limit going
  have limited := standing_limited program engine (Nat.le_refl limit)
  rw [going] at limited
  have flyingToo : ¬ (state.withStepLimit (some limit)).AtLanding program := flying
  have used : (state.withStepLimit (some limit)).spentLimit? = some limit := by
    rw [spentLimit?_withStepLimit, if_pos (Nat.le_of_eq counted.symm)]
  rw [standing_succ_of_going limited]
  exact standing_one_of_spent clear flyingToo used

/-- The end of a run without a limit that is still going at the threshold: it has landed, or it
finds no word, or it counts another instruction. -/
theorem ended_after_threshold {fuel : Nat} {outcome : Outcome} {final : Engine σ π}
    (going : standing program limit (engine.withStepLimit none).reset = (none, state))
    (ended : standing program fuel (engine.withStepLimit none).reset = (some outcome, final)) :
    limit < fuel ∧
      (state.AtLanding program ∧
          outcome = .ok { offset := program.size, reason := .landed } ∧
          final = state.conclude { offset := program.size, reason := .landed } ∨
        (engine.withStepLimit none).EndsWordless program ∧ final.steps = limit ∨
        limit < final.steps) := by
  obtain ⟨counted, free, _⟩ := ledger_at_limit going
  have later : limit < fuel := by
    by_contra early
    have still := standing_of_ended ended (Nat.le_of_not_lt early)
    rw [going] at still
    cases still
  refine ⟨later, ?_⟩
  rw [standing_of_going going (Nat.le_of_lt later)] at ended
  obtain ⟨rest, restEq⟩ : ∃ rest, fuel - limit = rest + 1 := ⟨fuel - limit - 1, by omega⟩
  rw [restEq] at ended
  by_cases landing : state.AtLanding program
  · rw [standing_of_ended (standing_one_of_landing landing) (Nat.le_add_left 1 rest)] at ended
    cases ended
    rw [landing.2]
    exact Or.inl ⟨landing, rfl, rfl⟩
  · refine Or.inr ?_
    by_cases short : program.size < state.pc + Instruction.wordBytes
    · obtain ⟨_, last, finished, kept⟩ := standing_one_of_wordless free landing short
      rw [standing_of_ended finished (Nat.le_add_left 1 rest)] at ended
      cases ended
      exact Or.inl ⟨⟨limit, state, going, landing, short⟩, kept.trans counted⟩
    · have more := steps_lt_of_read rest free landing short
      rw [ended, counted] at more
      exact Or.inr more

/-- A run without a limit that ends within the threshold for want of a word counts fewer
instructions than it makes steps. -/
theorem steps_lt_of_wordless {final : Engine σ π} {outcome : Outcome}
    (wordless : (engine.withStepLimit none).EndsWordless program)
    (ended : standing program limit (engine.withStepLimit none).reset = (some outcome, final)) :
    final.steps < limit := by
  obtain ⟨count, other, going, flying, short⟩ := wordless
  obtain ⟨counted, free, _⟩ := ledger_at_limit going
  obtain ⟨_, last, finished, kept⟩ := standing_one_of_wordless free flying short
  have early : count < limit := (ended_after_threshold going ended).1
  rw [← standing_succ_of_going going] at finished
  rw [standing_of_ended finished early] at ended
  cases ended
  rw [kept, counted]
  exact early

/-- A run that has landed at the threshold does not end for want of a word. -/
theorem not_wordless_of_landing
    (going : standing program limit (engine.withStepLimit none).reset = (none, state))
    (landing : state.AtLanding program) :
    ¬ (engine.withStepLimit none).EndsWordless program := by
  rintro ⟨count, other, goingToo, flying, short⟩
  have ended := (standing_succ_of_going going).trans (standing_one_of_landing landing)
  have within : count < limit + 1 := (ended_after_threshold goingToo ended).1
  rcases Nat.lt_succ_iff_lt_or_eq.mp within with early | rfl
  · obtain ⟨_, free, _⟩ := ledger_at_limit goingToo
    obtain ⟨_, _, finished, _⟩ := standing_one_of_wordless free flying short
    rw [← standing_succ_of_going goingToo] at finished
    rw [standing_of_ended finished early] at going
    cases going
  · rw [going] at goingToo
    cases goingToo
    exact flying landing

/-- A run without a limit that ends below the threshold, or at it with its last word read, ends the
same with the limit. -/
theorem run?_limited_of_ended {fuel : Nat} {outcome : Outcome} {final : Engine σ π}
    (ended : (engine.withStepLimit none).run? program fuel = some (outcome, final))
    (within : final.steps < limit ∨
      final.steps = limit ∧ ¬ (engine.withStepLimit none).EndsWordless program) :
    (engine.withStepLimit (some limit)).run? program fuel =
      some (outcome, final.withStepLimit (some limit)) := by
  unfold run? at ended ⊢
  rw [continue?_eq_some_iff] at ended ⊢
  by_cases covered : fuel ≤ limit
  · rw [standing_limited program engine covered, ended]
  · have past : limit ≤ fuel := Nat.le_of_not_le covered
    cases reached : standing program limit (engine.withStepLimit none).reset with
    | mk ended? state =>
      cases ended? with
      | some first =>
        have limited := standing_limited program engine (Nat.le_refl limit)
        rw [reached] at limited
        rw [standing_of_ended reached past] at ended
        cases ended
        exact standing_of_ended limited past
      | none =>
        obtain ⟨later, landed | wordless | more⟩ := ended_after_threshold reached ended
        · obtain ⟨landing, rfl, rfl⟩ := landed
          exact standing_of_ended (standing_limited_of_landing reached landing) later
        · obtain ⟨wordless, exact⟩ := wordless
          rcases within with fewer | ⟨_, worded⟩
          · omega
          · exact absurd wordless worded
        · omega

/-- Where the run without a limit does not end below the threshold, nor at it with its last word
read, the run with the limit is stopped there. -/
theorem run?_limited_of_stopped
    (beyond : ∀ (fuel : Nat) (outcome : Outcome) (final : Engine σ π),
      (engine.withStepLimit none).run? program fuel = some (outcome, final) →
        limit < final.steps ∨
          final.steps = limit ∧ (engine.withStepLimit none).EndsWordless program) :
    ∃ state, standing program limit (engine.withStepLimit none).reset = (none, state) ∧
      state.steps = limit ∧
      ∀ fuel, limit < fuel →
        (engine.withStepLimit (some limit)).run? program fuel =
          some (.error (.stepLimitExceeded state.pc limit),
            (state.withStepLimit (some limit)).latch (.stepLimitExceeded state.pc limit)) := by
  cases reached : standing program limit (engine.withStepLimit none).reset with
  | mk ended? state =>
    cases ended? with
    | some outcome =>
      have bound := (steps_standing_bounds program limit (engine.withStepLimit none).reset).2
      rw [reached, show (engine.withStepLimit none).reset.steps = 0 from rfl, Nat.zero_add] at bound
      have few : state.steps ≤ limit := bound
      rcases beyond limit outcome state (continue?_eq_some_iff.mpr reached) with
        more | ⟨exact, wordless⟩
      · omega
      · have fewer := steps_lt_of_wordless wordless reached
        omega
    | none =>
      obtain ⟨counted, _, _⟩ := ledger_at_limit reached
      have flying : ¬ state.AtLanding program := by
        intro landing
        have landed := (standing_succ_of_going reached).trans (standing_one_of_landing landing)
        rcases beyond (limit + 1) _ _ (continue?_eq_some_iff.mpr landed) with
          more | ⟨_, wordless⟩
        · exact absurd counted (Nat.ne_of_gt more)
        · exact not_wordless_of_landing reached landing wordless
      refine ⟨state, rfl, counted, fun fuel ample => continue?_eq_some_iff.mpr ?_⟩
      exact standing_of_ended (standing_limited_of_flying reached flying) ample

/-- Every run with a limit ends, one step after the limit at the latest. -/
theorem run?_limited_isSome (program : Image) (engine : Engine σ π) (limit : Nat) :
    ((engine.withStepLimit (some limit)).run? program (limit + 1)).isSome := by
  unfold run?
  cases reached : standing program limit (engine.withStepLimit none).reset with
  | mk ended? state =>
    have limited := standing_limited program engine (Nat.le_refl limit)
    rw [reached] at limited
    cases ended? with
    | some outcome =>
      rw [continue?_eq_some_iff.mpr (standing_of_ended limited (Nat.le_succ limit)),
        Option.isSome_some]
    | none =>
      by_cases landing : state.AtLanding program
      · rw [continue?_eq_some_iff.mpr (standing_limited_of_landing reached landing),
          Option.isSome_some]
      · rw [continue?_eq_some_iff.mpr (standing_limited_of_flying reached landing),
          Option.isSome_some]

end Threshold

/-- A step limit is invisible up to an exact threshold. A run that without a limit ends after fewer
instructions, or after as many without having missed a word, ends the same with it, state and all.
In every other case the run with the limit is stopped, in the state that the run without one is in
after that many instructions. So every run with a limit ends, and one whose last permitted
instruction leads to the end of the program has landed. -/
theorem stepLimit_transparent (program : Image) (engine : Engine σ π) (limit : Nat) :
    (∀ (fuel : Nat) (outcome : Outcome) (final : Engine σ π),
      (engine.withStepLimit none).run? program fuel = some (outcome, final) →
      (final.steps < limit ∨
        final.steps = limit ∧ ¬ (engine.withStepLimit none).EndsWordless program) →
      (engine.withStepLimit (some limit)).run? program fuel =
        some (outcome, final.withStepLimit (some limit))) ∧
    ((∀ (fuel : Nat) (outcome : Outcome) (final : Engine σ π),
        (engine.withStepLimit none).run? program fuel = some (outcome, final) →
          limit < final.steps ∨
            final.steps = limit ∧ (engine.withStepLimit none).EndsWordless program) →
      ∃ state, standing program limit (engine.withStepLimit none).reset = (none, state) ∧
        state.steps = limit ∧
        ∀ fuel, limit < fuel →
          (engine.withStepLimit (some limit)).run? program fuel =
            some (.error (.stepLimitExceeded state.pc limit),
              (state.withStepLimit (some limit)).latch (.stepLimitExceeded state.pc limit))) ∧
    ((engine.withStepLimit (some limit)).run? program (limit + 1)).isSome ∧
    (∀ state, standing program limit (engine.withStepLimit none).reset = (none, state) →
      state.AtLanding program →
      (engine.withStepLimit (some limit)).run? program (limit + 1) =
        some (.ok { offset := program.size, reason := .landed },
          (state.conclude { offset := program.size, reason := .landed }).withStepLimit
            (some limit))) := by
  refine ⟨fun fuel outcome final => run?_limited_of_ended, run?_limited_of_stopped,
    run?_limited_isSome program engine limit, ?_⟩
  intro state reached landing
  exact continue?_eq_some_iff.mpr (standing_limited_of_landing reached landing)

/-- A literal and an end are two instructions. With a limit of three they run as without one; with a
limit of one they are stopped between the two, with the literal on its stack. The empty program has
no first word. Without a limit that is the fault; with a limit of no instructions at all the limit
comes first. -/
theorem stepLimit_transparent_examples :
    ∃ (program : Image) (engine final stopped : Engine ByteLog NoPeripheral),
      program = #[0x40, 0x00, 0x05, 0x80, 0x12] ∧
      (engine.withStepLimit none).run? program 2 = some (.ok ⟨3, .ended .always⟩, final) ∧
      final.steps = 2 ∧
      (engine.withStepLimit (some 3)).run? program 2 =
        some (.ok ⟨3, .ended .always⟩, final.withStepLimit (some 3)) ∧
      (∀ fuel, 1 < fuel → (engine.withStepLimit (some 1)).run? program fuel =
        some (.error (.stepLimitExceeded 3 1), stopped)) ∧
      stopped.steps = 1 ∧ stopped.bank.contents (StackId.ofSelector 0) = [5] ∧
      ((engine.withStepLimit none).run? #[] 1).map Prod.fst =
        some (.error (.targetOutOfBounds 0)) ∧
      ((engine.withStepLimit (some 0)).run? #[] 1).map Prod.fst =
        some (.error (.stepLimitExceeded 0 0)) := by
  let program : Image := #[0x40, 0x00, 0x05, 0x80, 0x12]
  let engine : Engine ByteLog NoPeripheral := new ByteLog.empty NoPeripheral.mk
  have runs : ((engine.withStepLimit none).run? program 2).map
      (fun run => (run.1, run.2.steps)) = some (.ok ⟨3, .ended .always⟩, 2) := by
    decide +kernel
  obtain ⟨⟨_, final⟩, ended, told⟩ := Option.map_eq_some_iff.mp runs
  obtain ⟨rfl, counted : final.steps = 2⟩ := Prod.mk.inj told
  have below : final.steps < 3 := counted ▸ by decide
  have beyond : ∀ (fuel : Nat) (outcome : Outcome) (last : Engine ByteLog NoPeripheral),
      (engine.withStepLimit none).run? program fuel = some (outcome, last) →
        1 < last.steps ∨ last.steps = 1 ∧ (engine.withStepLimit none).EndsWordless program := by
    intro fuel outcome last endedToo
    obtain ⟨_, rfl⟩ := run?_unique ended endedToo
    exact Or.inl (counted ▸ by decide)
  obtain ⟨state, reached, stepsReached, limited⟩ :=
    (stepLimit_transparent program engine 1).2.1 beyond
  have place : (standing program 1 (engine.withStepLimit none).reset).2.pc = 3 := by decide +kernel
  have literal : (standing program 1 (engine.withStepLimit none).reset).2.bank.contents
      (StackId.ofSelector 0) = [5] := by decide +kernel
  rw [reached] at place literal
  have placed : state.pc = 3 := place
  rw [placed] at limited
  have wordless : EndsWordless #[] (engine.withStepLimit none) :=
    ⟨0, _, rfl, by decide, by decide⟩
  obtain ⟨start, atStart, _, atOnce⟩ := (stepLimit_transparent #[] engine 0).2.1
    fun fuel outcome last endedToo => by
      cases fuel with
      | zero => cases endedToo
      | succ fuel =>
        cases endedToo
        exact Or.inr ⟨rfl, wordless⟩
  cases atStart
  refine ⟨program, engine, final, _, rfl, ended, counted, ?_, limited, stepsReached, literal, rfl,
    ?_⟩
  · exact (stepLimit_transparent program engine 3).1 2 _ final ended (Or.inl below)
  · rw [atOnce 1 Nat.one_pos]
    rfl

end Quadstack.Engine
