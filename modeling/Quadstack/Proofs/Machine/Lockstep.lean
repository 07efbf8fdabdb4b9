import Mathlib
import Quadstack.Machine.Run
import Quadstack.Proofs.Machine.ActRelation

/-!
Two engines in lock step. Two computations are in lock step for a relation between their states if
from related states they give the same value or the same error and leave related states. A relation
between engines that the small changes an act makes to a state respect is respected by every act,
hence by every instruction.

The stacks of the two engines need not be equal: they are related by a relation of their own, so
that engines whose banks agree only in part can be compared.
-/

namespace Quadstack

/-! ### Computations in lock step -/

/-- Two results with the same value or the same error and related states. -/
inductive SameResult {ε S T α : Type} (R : S → T → Prop) :
    EStateM.Result ε S α → EStateM.Result ε T α → Prop where
  | ok (value : α) {first : S} {second : T} (related : R first second) :
    SameResult R (.ok value first) (.ok value second)
  | error (reason : ε) {first : S} {second : T} (related : R first second) :
    SameResult R (.error reason first) (.error reason second)

/-- From related states two computations give the same result and leave related states. -/
def Lockstep {ε S T : Type} (R : S → T → Prop) (α : Type) (first : EStateM ε S α)
    (second : EStateM ε T α) : Prop :=
  ∀ start other, R start other → SameResult R (first start) (second other)

namespace Lockstep

variable {ε δ S T α β : Type} {R : S → T → Prop}

theorem pure (value : α) :
    Lockstep R α (pure value : EStateM ε S α) (pure value : EStateM ε T α) :=
  fun _ _ related => .ok value related

theorem throw (reason : ε) :
    Lockstep R α (throw reason : EStateM ε S α) (throw reason : EStateM ε T α) :=
  fun _ _ related => .error reason related

theorem bind {first : EStateM ε S α} {second : EStateM ε T α} {next : α → EStateM ε S β}
    {following : α → EStateM ε T β} (start : Lockstep R α first second)
    (rest : ∀ value, Lockstep R β (next value) (following value)) :
    Lockstep R β (first >>= next) (second >>= following) := by
  intro before other related
  have head := start before other related
  show SameResult R (EStateM.bind first next before) (EStateM.bind second following other)
  unfold EStateM.bind
  generalize first before = result at head ⊢
  generalize second other = otherResult at head ⊢
  cases head with
  | ok value related => exact rest value _ _ related
  | error reason related => exact .error reason related

/-- Renaming the errors keeps two computations in lock step. -/
theorem adaptExcept (rename : ε → δ) {first : EStateM ε S α} {second : EStateM ε T α}
    (start : Lockstep R α first second) :
    Lockstep R α (EStateM.adaptExcept rename first) (EStateM.adaptExcept rename second) := by
  intro before other related
  have same := start before other related
  unfold EStateM.adaptExcept
  generalize first before = result at same ⊢
  generalize second other = otherResult at same ⊢
  cases same with
  | ok value related => exact .ok value related
  | error reason related => exact .error (rename reason) related

/-- Every computation is in lock step with itself. -/
theorem refl (work : EStateM ε S α) : Lockstep Eq α work work := by
  rintro start _ rfl
  cases work start with
  | ok value after => exact .ok value rfl
  | error reason after => exact .error reason rfl

end Lockstep

/-! ### Banks in lock step -/

/-- Two banks that are related, with the same moves made on them. -/
structure TracedBank.Alike (B : StackBank → StackBank → Prop) (first second : TracedBank) :
    Prop where
  bank : B first.bank second.bank
  moves : first.moves = second.moves

/-- A relation between banks that every operation on them respects. -/
structure BankRelation (B : StackBank → StackBank → Prop) : Prop where
  pointer {first second : StackBank} (related : B first second) (stack : StackId) :
    first.pointer stack = second.pointer stack
  push (stack : StackId) (width : Width) (value : UInt32) :
    Lockstep (TracedBank.Alike B) Unit (TracedBank.push stack width value)
      (TracedBank.push stack width value)
  pop (stack : StackId) (width : Width) :
    Lockstep (TracedBank.Alike B) UInt32 (TracedBank.pop stack width)
      (TracedBank.pop stack width)
  peekAt (stack : StackId) (width : Width) (depth : Nat) :
    Lockstep (TracedBank.Alike B) UInt32 (TracedBank.peekAt stack width depth)
      (TracedBank.peekAt stack width depth)

/-- A computation is in lock step with itself on equal banks. -/
theorem Lockstep.of_eq {ε α : Type} (work : BankM ε α) :
    Lockstep (TracedBank.Alike Eq) α work work := by
  rintro ⟨bank, moves⟩ ⟨_, _⟩ ⟨rfl, rfl⟩
  cases work ⟨bank, moves⟩ with
  | ok value after => exact .ok value ⟨rfl, rfl⟩
  | error reason after => exact .error reason ⟨rfl, rfl⟩

theorem BankRelation.eq : BankRelation Eq where
  pointer related stack := by rw [related]
  push stack width value := .of_eq _
  pop stack width := .of_eq _
  peekAt stack width depth := .of_eq _

/-! ### Control in lock step -/

section Control

variable {σ π τ ρ : Type}

/-- A relation between engines that fixes what control depends on, the flags and the counter among
it, and that the changes control makes respect. Nothing is said of the stacks. -/
structure Steers (R : Engine σ π → Engine τ ρ → Prop) : Prop where
  flags {first : Engine σ π} {second : Engine τ ρ} : R first second → first.flags = second.flags
  pc {first : Engine σ π} {second : Engine τ ρ} : R first second → first.pc = second.pc
  current {first : Engine σ π} {second : Engine τ ρ} :
    R first second → first.current = second.current
  setPc {first : Engine σ π} {second : Engine τ ρ} (pc : Nat) :
    R first second → R { first with pc := pc } { second with pc := pc }
  transfer {first : Engine σ π} {second : Engine τ ρ} (target : Nat) :
    R first second →
      R { first with pc := target, landed := true } { second with pc := target, landed := true }
  setFlags {first : Engine σ π} {second : Engine τ ρ} (flags : Flags) :
    R first second → R { first with flags := flags } { second with flags := flags }

namespace Steers

variable {R : Engine σ π → Engine τ ρ → Prop}

theorem jumpTo (steers : Steers R) (target : Nat) :
    Lockstep R Unit (Exec.jumpTo target) (Exec.jumpTo target) :=
  fun _ _ related => .ok () (steers.transfer target related)

theorem take (steers : Steers R) (program : Image) (count : Nat) :
    Lockstep R (List UInt8) (Exec.take program count) (Exec.take program count) := by
  intro first second related
  unfold Exec.take
  rw [steers.pc related]
  cases program.slice? second.pc count with
  | some bytes => exact .ok bytes (steers.setPc _ related)
  | none => exact .error _ related

theorem require {α : Type} (steers : Steers R) (value? : Option α) (fault : Nat → Fault) :
    Lockstep R α (Exec.require value? fault) (Exec.require value? fault) := by
  cases value? with
  | some value => exact .pure value
  | none =>
    intro first second related
    show SameResult R (.error (fault first.current) first) (.error (fault second.current) second)
    rw [steers.current related]
    exact .error _ related

theorem fetchText (steers : Steers R) (program : Image) :
    Lockstep R (List UInt8) (Exec.fetchText program) (Exec.fetchText program) := by
  intro first second related
  unfold Exec.fetchText
  rw [steers.pc related]
  cases program.zeroFrom? second.pc with
  | some stop => exact .ok _ (steers.setPc _ related)
  | none => exact .error _ related

theorem branch (steers : Steers R) (program : Image) (condition : Condition) :
    Lockstep R Unit (Exec.branch program condition) (Exec.branch program condition) := by
  refine .bind (.bind (steers.take program _) fun bytes => .pure _) fun distance => ?_
  intro first second related
  show SameResult R
    ((if first.flags.satisfies condition then do
        let target ← Exec.require (Exec.branchTarget? first.pc distance) .targetOutOfBounds
        Exec.jumpTo target
      else Pure.pure () : Exec σ π Unit) first)
    ((if second.flags.satisfies condition then do
        let target ← Exec.require (Exec.branchTarget? second.pc distance) .targetOutOfBounds
        Exec.jumpTo target
      else Pure.pure () : Exec τ ρ Unit) second)
  rw [steers.flags related, steers.pc related]
  split
  · exact Lockstep.bind (steers.require _ _) steers.jumpTo _ _ related
  · exact .ok () related

theorem satisfies (steers : Steers R) (condition : Condition) :
    Lockstep R Bool (Exec.satisfies condition) (Exec.satisfies condition) := by
  intro first second related
  unfold Exec.satisfies
  rw [steers.flags related]
  exact .ok _ related

theorem returnAddress (steers : Steers R) :
    Lockstep R UInt32 Exec.returnAddress Exec.returnAddress := by
  intro first second related
  show SameResult R (Exec.require (Exec.returnAddress? first.pc) .targetOutOfBounds first)
    (Exec.require (Exec.returnAddress? second.pc) .targetOutOfBounds second)
  rw [steers.pc related]
  exact steers.require _ _ _ _ related

theorem halt (steers : Steers R) (reason : HaltReason) :
    Lockstep R Halt (Exec.halt reason) (Exec.halt reason) := by
  intro first second related
  unfold Exec.halt
  rw [steers.current related]
  exact .ok _ related

end Steers

end Control

/-! ### Engines in lock step -/

section Engines

variable {σ π τ ρ : Type} [Peripheral π] [Peripheral ρ]

/-- Handing an instruction to two peripherals. `D` relates what they are handed, and has to be kept
while they work; the two engines take over what they leave. -/
theorem Lockstep.delegate {R : Engine σ π → Engine τ ρ → Prop}
    {D : π × TracedBank → ρ × TracedBank → Prop} (instruction : Instruction)
    (current : ∀ {first : Engine σ π} {second : Engine τ ρ},
      R first second → first.current = second.current)
    (handed : ∀ {first : Engine σ π} {second : Engine τ ρ}, R first second →
      D (first.peripheral, { bank := first.bank }) (second.peripheral, { bank := second.bank }))
    (dispatch : Lockstep D Unit (Peripheral.dispatch instruction)
      (Peripheral.dispatch instruction))
    (taken : ∀ {first : Engine σ π} {second : Engine τ ρ} {left : π × TracedBank}
      {other : ρ × TracedBank} (message : Message), R first second → D left other →
      R ({ first.record message with peripheral := left.1 }.adopt left.2)
        ({ second.record message with peripheral := other.1 }.adopt other.2)) :
    Lockstep R Unit (Exec.delegate instruction) (Exec.delegate instruction) := by
  intro first second related
  have same := dispatch _ _ (handed related)
  unfold Exec.delegate
  generalize Peripheral.dispatch instruction (first.peripheral, ({ bank := first.bank })) =
    result at same ⊢
  generalize Peripheral.dispatch instruction (second.peripheral, ({ bank := second.bank })) =
    otherResult at same ⊢
  cases same with
  | ok value worked =>
    rw [current related]
    exact .ok () (taken _ related worked)
  | error refusal worked =>
    cases refusal with
    | denied =>
      show SameResult R (.error (Fault.insufficientPermissions first.current instruction.code) _) _
      rw [current related]
      exact .error _ (taken _ related worked)
    | stack error =>
      show SameResult R (.error (error.toFault first.current) _) _
      rw [current related]
      exact .error _ (taken _ related worked)

variable [OutputSink σ] [OutputSink τ]

/-- A relation between engines that determines what acts look at and that the changes acts make
respect. `B` relates the banks of related engines. -/
structure Mirrors (B : StackBank → StackBank → Prop)
    (R : Engine σ π → Engine τ ρ → Prop) : Prop where
  banks : BankRelation B
  bank {first : Engine σ π} {second : Engine τ ρ} : R first second → B first.bank second.bank
  flags {first : Engine σ π} {second : Engine τ ρ} : R first second → first.flags = second.flags
  pc {first : Engine σ π} {second : Engine τ ρ} : R first second → first.pc = second.pc
  current {first : Engine σ π} {second : Engine τ ρ} :
    R first second → first.current = second.current
  landed {first : Engine σ π} {second : Engine τ ρ} :
    R first second → first.landed = second.landed
  setPc {first : Engine σ π} {second : Engine τ ρ} (pc : Nat) :
    R first second → R { first with pc := pc } { second with pc := pc }
  transfer {first : Engine σ π} {second : Engine τ ρ} (target : Nat) :
    R first second →
      R { first with pc := target, landed := true } { second with pc := target, landed := true }
  setFlags {first : Engine σ π} {second : Engine τ ρ} (flags : Flags) :
    R first second → R { first with flags := flags } { second with flags := flags }
  adopt {first : Engine σ π} {second : Engine τ ρ} {traced other : TracedBank} :
    R first second → TracedBank.Alike B traced other → R (first.adopt traced) (second.adopt other)
  emit (event : DebugEvent) : Lockstep R Unit (Exec.emit event) (Exec.emit event)
  delegate (instruction : Instruction) :
    Lockstep R Unit (Exec.delegate instruction) (Exec.delegate instruction)

namespace Mirrors

variable {B : StackBank → StackBank → Prop} {R : Engine σ π → Engine τ ρ → Prop}

theorem steers (mirrors : Mirrors B R) : Steers R where
  flags := mirrors.flags
  pc := mirrors.pc
  current := mirrors.current
  setPc := mirrors.setPc
  transfer := mirrors.transfer
  setFlags := mirrors.setFlags

/-- Work on the banks that is in lock step for them is in lock step for the engines. -/
theorem onBank {α : Type} (mirrors : Mirrors B R) {work other : BankM StackError α}
    (inStep : Lockstep (TracedBank.Alike B) α work other) :
    Lockstep R α (Exec.onBank work) (Exec.onBank other) := by
  intro first second related
  have same := inStep { bank := first.bank } { bank := second.bank } ⟨mirrors.bank related, rfl⟩
  unfold Exec.onBank
  generalize work { bank := first.bank } = result at same ⊢
  generalize other { bank := second.bank } = otherResult at same ⊢
  cases same with
  | ok value alike => exact .ok value (mirrors.adopt related alike)
  | error reason alike =>
    rw [mirrors.current related]
    exact .error _ (mirrors.adopt related alike)

/-- Engines in lock step in every act are in lock step in every instruction. -/
theorem respects (mirrors : Mirrors B R) (program : Image) :
    Acts.Respects (m := Exec σ π) (n := Exec τ ρ) (Lockstep R) program program where
  pure := .pure
  bind := .bind
  push _ width value _ := mirrors.onBank (mirrors.banks.push _ width value)
  pop _ width _ := mirrors.onBank (mirrors.banks.pop _ width)
  peekAt _ width depth _ := mirrors.onBank (mirrors.banks.peekAt _ width depth.toNat)
  pointer selector _ := by
    intro first second related
    show SameResult R (Exec.pointer (.ofSelector selector) first)
      (Exec.pointer (.ofSelector selector) second)
    unfold Exec.pointer
    rw [mirrors.banks.pointer (mirrors.bank related)]
    exact .ok _ related
  fetchLiteral width := .bind (mirrors.steers.take program _) fun _ => .pure _
  fetchText := mirrors.steers.fetchText program
  arith op width lhs rhs := mirrors.steers.require _ _
  shift op width value count := .pure _
  satisfies := mirrors.steers.satisfies
  setFlags width value := fun _ _ related => .ok () (mirrors.setFlags _ related)
  jumpTo target := mirrors.steers.jumpTo target.toNat
  branch := mirrors.steers.branch program
  returnAddress := mirrors.steers.returnAddress
  halt := mirrors.steers.halt
  emit := mirrors.emit
  delegate := mirrors.delegate

end Mirrors

end Engines

end Quadstack
