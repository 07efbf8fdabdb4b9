import Mathlib
import Quadstack.Proofs.Image.Codec
import Quadstack.Proofs.Machine.DataMovement
import Quadstack.Proofs.Machine.Emissions
import Quadstack.Proofs.Machine.Landing
import Quadstack.Proofs.Machine.Replay

/-!
Return addresses. A call leaves four bytes on a stack that every later instruction may read, move
and overwrite, and nothing guards them. That a return finds them again rests on the pointer alone:
bytes below the lowest place to which the pointer of their stack ever came are as they were. The
condition is on every single operation on the bank and not on the states between instructions,
since an exchange may go far below what it leaves.

So the bank is watched. A machine that works like the engine and notes the bank after each operation
gets its instructions from the same semantics, and a peripheral that uses the bank through its
operations is watched inside as well. Whatever is noted, a front of the live bytes that is never
longer than the stack stays its front. This is shown act by act and holds for whole runs, and from
it come the return from one call and the returns from calls inside calls.
-/

namespace Quadstack

variable {σ π α β : Type}

/-! ### Fronts of live bytes -/

namespace ByteLists

theorem prefix_extend (lists : ByteLists) (stack other : StackId) (bytes : List UInt8) :
    lists other <+: lists.extend stack bytes other := by
  unfold extend
  by_cases same : other = stack
  · subst same
    rw [Function.update_self]
    exact List.prefix_append _ _
  · rw [Function.update_of_ne same]

theorem shorten_prefix (lists : ByteLists) (stack other : StackId) (count : Nat) :
    lists.shorten stack count other <+: lists other := by
  unfold shorten
  by_cases same : other = stack
  · subst same
    rw [Function.update_self]
    exact List.take_prefix _ _
  · rw [Function.update_of_ne same]

end ByteLists

/-- From one bank to another by way of the banks passed: on every stack, what stood at the bottom
still stands there, provided no bank passed was too short for it. -/
def StackBank.KeepsFronts (before : StackBank) (passed : List StackBank) (after : StackBank) :
    Prop :=
  ∀ stack front, (∀ bank ∈ passed, front.length ≤ bank.pointer stack) →
    front <+: before.contents stack → front <+: after.contents stack

namespace StackBank.KeepsFronts

variable {before between after : StackBank} {first second : List StackBank}

theorem refl (bank : StackBank) : bank.KeepsFronts [] bank :=
  fun _ _ _ stands => stands

theorem trans (start : before.KeepsFronts first between)
    (rest : between.KeepsFronts second after) : before.KeepsFronts (first ++ second) after := by
  intro stack front long stands
  obtain ⟨longFirst, longRest⟩ := List.forall_mem_append.mp long
  exact rest stack front longRest (start stack front longFirst stands)

/-- One operation makes each stack longer or shorter at its top. -/
theorem single (atTop : ∀ stack, before.contents stack <+: after.contents stack ∨
    after.contents stack <+: before.contents stack) : before.KeepsFronts [after] after := by
  intro stack front long stands
  rcases atTop stack with longer | shorter
  · exact stands.trans longer
  · refine List.prefix_of_prefix_length_le stands shorter ?_
    rw [← StackBank.pointer_eq_length]
    exact long after List.mem_cons_self

end StackBank.KeepsFronts

/-! ### Operations on the bank -/

namespace TracedBank

theorem push_keepsFronts (stack : StackId) (width : Width) (value : UInt32) (traced : TracedBank) :
    traced.bank.KeepsFronts [(leftBy (push stack width value traced)).bank]
      (leftBy (push stack width value traced)).bank := by
  refine .single fun other => ?_
  unfold push
  rcases traced.bank.push_cases stack width value with ⟨_, failed⟩ | ⟨_, grown, live, pushed⟩
  · rw [failed]
    exact Or.inl (List.prefix_refl _)
  · rw [pushed]
    refine Or.inl ?_
    show _ <+: (traced.bank.update stack grown).contents other
    rw [StackBank.contents_update, live]
    exact ByteLists.prefix_extend _ _ _ _

theorem pop_keepsFronts (stack : StackId) (width : Width) (traced : TracedBank) :
    traced.bank.KeepsFronts [(leftBy (pop stack width traced)).bank]
      (leftBy (pop stack width traced)).bank := by
  refine .single fun other => ?_
  unfold pop
  rcases traced.bank.pop_cases stack width with ⟨_, value, shorter, popped, live, _⟩ | ⟨_, failed⟩
  · rw [popped]
    refine Or.inr ?_
    show (traced.bank.update stack shorter).contents other <+: _
    rw [StackBank.contents_update, live]
    exact ByteLists.shorten_prefix _ _ _ _
  · rw [failed]
    exact Or.inl (List.prefix_refl _)

theorem bank_peekAt (stack : StackId) (width : Width) (depth : Nat) (traced : TracedBank) :
    leftBy (peekAt stack width depth traced) = traced := by
  unfold peekAt
  cases traced.bank.peekAt stack width depth <;> rfl

theorem peekAt_keepsFronts (stack : StackId) (width : Width) (depth : Nat) (traced : TracedBank) :
    traced.bank.KeepsFronts [(leftBy (peekAt stack width depth traced)).bank]
      (leftBy (peekAt stack width depth traced)).bank := by
  rw [bank_peekAt]
  exact .single fun _ => Or.inl (List.prefix_refl _)

end TracedBank

theorem StackBank.reset_keepsFronts (bank : StackBank) :
    bank.KeepsFronts [bank.reset] bank.reset := by
  refine .single fun stack => Or.inr ?_
  rw [contents_reset]
  exact List.nil_prefix

namespace BankProgram

/-- The banks that work passes: the one after each operation, in order. -/
def passed : BankProgram α → TracedBank → List StackBank
  | .done _, _ => []
  | .push stack width value next, traced =>
    let (answer, after) := reply (TracedBank.push stack width value traced)
    after.bank :: passed (next answer) after
  | .pop stack width next, traced =>
    let (answer, after) := reply (TracedBank.pop stack width traced)
    after.bank :: passed (next answer) after
  | .peekAt stack width depth next, traced =>
    let (answer, after) := reply (TracedBank.peekAt stack width depth.toNat traced)
    after.bank :: passed (next answer) after
  | .contents stack next, traced => passed (next (traced.bank.contents stack)) traced
  | .reset next, traced =>
    traced.bank.reset :: passed next { traced with bank := traced.bank.reset }

/-- Work through the operations of the bank keeps what it never digs up. -/
theorem perform_keepsFronts (work : BankProgram α) (traced : TracedBank) :
    traced.bank.KeepsFronts (work.passed traced) (work.perform traced).2.bank := by
  induction work generalizing traced with
  | done result => exact .refl _
  | push stack width value next inductionHypothesis =>
    have one := TracedBank.push_keepsFronts stack width value traced
    rw [← reply_snd] at one
    exact one.trans (inductionHypothesis _ _)
  | pop stack width next inductionHypothesis =>
    have one := TracedBank.pop_keepsFronts stack width traced
    rw [← reply_snd] at one
    exact one.trans (inductionHypothesis _ _)
  | peekAt stack width depth next inductionHypothesis =>
    have one := TracedBank.peekAt_keepsFronts stack width depth.toNat traced
    rw [← reply_snd] at one
    exact one.trans (inductionHypothesis _ _)
  | contents stack next inductionHypothesis => exact inductionHypothesis _ _
  | reset next inductionHypothesis =>
    exact traced.bank.reset_keepsFronts.trans (inductionHypothesis _)

end BankProgram

/-! ### The watched machine -/

/-- An engine and the banks that it has passed, oldest first. -/
structure Watched (σ π : Type) where
  engine : Engine σ π
  passed : List StackBank := []

/-- A part of an instruction of the watched machine. -/
abbrev WatchedExec (σ π : Type) := EStateM Fault (Watched σ π)

namespace WatchedExec

/-- A result of the engine, with the banks passed up to then. -/
def noted (passed : List StackBank) :
    EStateM.Result Fault (Engine σ π) α → EStateM.Result Fault (Watched σ π) α
  | .ok value engine => .ok value { engine, passed }
  | .error fault engine => .error fault { engine, passed }

/-- Work of the engine that passes the given banks on its way. -/
def passing (banks : Engine σ π → List StackBank) (work : Exec σ π α) : WatchedExec σ π α :=
  fun watched => noted (watched.passed ++ banks watched.engine) (work watched.engine)

/-- Work that does not touch the bank. -/
def apart (work : Exec σ π α) : WatchedExec σ π α :=
  passing (fun _ => []) work

/-- One operation on the bank. -/
def onBank (work : Exec σ π α) : WatchedExec σ π α :=
  passing (fun engine => [(leftBy (work engine)).bank]) work

/-- The watched machine does what the engine does, and what the engine keeps at the bottom of its
stacks can be told from the banks noted on the way. -/
def Follows (work : WatchedExec σ π α) (plain : Exec σ π α) : Prop :=
  ∀ engine passed, ∃ added, work { engine, passed } = noted (passed ++ added) (plain engine) ∧
    engine.bank.KeepsFronts added (leftBy (plain engine)).bank

variable [OutputSink σ] [Peripheral π] [BankClient π]

/-- The engine's own acts, watched. -/
instance : Acts (WatchedExec σ π) where
  push selector width value := onBank (Acts.push selector width value)
  pop selector width := onBank (Acts.pop selector width)
  peekAt selector width depth := onBank (Acts.peekAt selector width depth)
  pointer selector := apart (Acts.pointer selector)
  fetchLiteral program width := apart (Acts.fetchLiteral program width)
  fetchText program := apart (Acts.fetchText program)
  arith op width lhs rhs := apart (Acts.arith op width lhs rhs)
  shift op width value count := apart (Acts.shift op width value count)
  satisfies condition := apart (Acts.satisfies condition)
  setFlags width value := apart (Acts.setFlags width value)
  jumpTo target := apart (Acts.jumpTo target)
  branch program condition := apart (Acts.branch program condition)
  returnAddress := apart Acts.returnAddress
  halt reason := apart (Acts.halt reason)
  emit event := apart (Acts.emit event)
  delegate instruction :=
    passing (fun engine =>
        (BankClient.conduct instruction engine.peripheral).passed { bank := engine.bank })
      (Acts.delegate instruction)

end WatchedExec

/-! ### The watched machine follows the engine -/

namespace WatchedExec.Follows

theorem passing {banks : Engine σ π → List StackBank} {work : Exec σ π α}
    (keeps : ∀ engine : Engine σ π,
      engine.bank.KeepsFronts (banks engine) (leftBy (work engine)).bank) :
    Follows (WatchedExec.passing banks work) work :=
  fun engine _ => ⟨banks engine, rfl, keeps engine⟩

theorem apart {work : Exec σ π α} (keeps : Keeps Engine.bank work) :
    Follows (WatchedExec.apart work) work := by
  refine passing fun engine => ?_
  rw [keeps engine]
  exact .refl _

theorem pure (value : α) : Follows (pure value : WatchedExec σ π α) (pure value) :=
  fun engine passed => ⟨[], by rw [List.append_nil]; rfl, .refl _⟩

theorem bind {work : WatchedExec σ π α} {plain : Exec σ π α} {next : α → WatchedExec σ π β}
    {following : α → Exec σ π β} (first : Follows work plain)
    (rest : ∀ value, Follows (next value) (following value)) :
    Follows (work >>= next) (plain >>= following) := by
  intro engine passed
  obtain ⟨added, same, keeps⟩ := first engine passed
  cases reached : plain engine with
  | ok value after =>
    rw [reached] at same keeps
    obtain ⟨more, sameToo, keepsToo⟩ := rest value after (passed ++ added)
    refine ⟨added ++ more, ?_, ?_⟩
    · rw [Exec.bind_of_ok reached, ← List.append_assoc, ← sameToo]
      show EStateM.bind work next _ = _
      rw [EStateM.bind, same]
      rfl
    · rw [Exec.bind_of_ok reached]
      exact keeps.trans keepsToo
  | error fault after =>
    rw [reached] at same keeps
    refine ⟨added, ?_, ?_⟩
    · rw [Exec.bind_of_error reached]
      show EStateM.bind work next _ = _
      rw [EStateM.bind, same]
      rfl
    · rw [Exec.bind_of_error reached]
      exact keeps

theorem onBank {work : BankM StackError α}
    (keeps : ∀ traced : TracedBank, traced.bank.KeepsFronts [(leftBy (work traced)).bank]
      (leftBy (work traced)).bank) :
    Follows (WatchedExec.onBank (Exec.onBank (σ := σ) (π := π) work)) (Exec.onBank work) := by
  refine passing fun engine => ?_
  have kept := keeps { bank := engine.bank }
  unfold Exec.onBank
  generalize work { bank := engine.bank } = result at kept ⊢
  cases result with
  | ok value traced => exact kept
  | error error traced => exact kept

/-- The bank after a first act is among those passed, whatever comes next. -/
theorem mem_passed_of_bind {work : Exec σ π α} {next : α → WatchedExec σ π β}
    (rest : ∀ value, ∃ plain, Follows (next value) plain) {engine between : Engine σ π} {value : α}
    (done : work engine = .ok value between) :
    between.bank ∈ (leftBy ((WatchedExec.onBank work >>= next) { engine })).passed := by
  obtain ⟨plain, follows⟩ := rest value
  obtain ⟨added, same, _⟩ := follows between [between.bank]
  have reached : (WatchedExec.onBank work >>= next) { engine } =
      next value { engine := between, passed := [between.bank] } := by
    show EStateM.bind (WatchedExec.onBank work) next _ = _
    rw [EStateM.bind, WatchedExec.onBank, WatchedExec.passing, done]
    rfl
  rw [reached, same]
  cases plain between <;> exact List.mem_cons_self

end WatchedExec.Follows

namespace KeepsBank

open Keeps (bind require)

theorem take (program : Image) (count : Nat) :
    Keeps Engine.bank (Exec.take (σ := σ) (π := π) program count) := by
  intro engine
  unfold Exec.take
  cases program.slice? engine.pc count <;> rfl

theorem fetchText (program : Image) :
    Keeps Engine.bank (Exec.fetchText (σ := σ) (π := π) program) := by
  intro engine
  unfold Exec.fetchText
  cases program.zeroFrom? engine.pc <;> rfl

theorem branch (program : Image) (condition : Condition) :
    Keeps Engine.bank (Exec.branch (σ := σ) (π := π) program condition) := by
  refine bind (bind (take program _) fun bytes _ => rfl) fun distance => ?_
  refine bind (fun _ => rfl) fun engine => ?_
  split
  · exact bind (require _ _) fun target _ => rfl
  · exact fun _ => rfl

theorem returnAddress : Keeps Engine.bank (Exec.returnAddress (σ := σ) (π := π)) := by
  unfold Exec.returnAddress
  exact bind (fun _ => rfl) fun engine => require _ _

theorem emit [OutputSink σ] (event : DebugEvent) :
    Keeps Engine.bank (Exec.emit (σ := σ) (π := π) event) := by
  intro engine
  unfold Exec.emit
  cases OutputSink.receive event engine.output <;> rfl

end KeepsBank

section

variable [OutputSink σ] [Peripheral π] [BankClient π]

/-- What a peripheral never digs up is still there when the engine takes its bank back. -/
theorem WatchedExec.Follows.delegate (instruction : Instruction) :
    Follows (Acts.delegate instruction) (Exec.delegate instruction : Exec σ π Unit) := by
  refine passing fun engine => ?_
  have kept := (BankClient.conduct instruction engine.peripheral).perform_keepsFronts
    { bank := engine.bank }
  show engine.bank.KeepsFronts _ (leftBy (Exec.delegate instruction engine)).bank
  unfold Exec.delegate
  rw [BankClient.dispatch_eq]
  generalize (BankClient.conduct instruction engine.peripheral).perform _ = left at kept ⊢
  obtain ⟨⟨peripheral, refusal | value⟩, traced⟩ := left
  · cases refusal <;> exact kept
  · exact kept

theorem WatchedExec.Follows.respects (program : Image) :
    Acts.Respects (m := WatchedExec σ π) (n := Exec σ π) (fun _ work plain => Follows work plain)
      program program where
  pure := pure
  bind := bind
  push _ _ _ _ := onBank (TracedBank.push_keepsFronts _ _ _)
  pop _ _ _ := onBank (TracedBank.pop_keepsFronts _ _)
  peekAt _ _ _ _ := onBank (TracedBank.peekAt_keepsFronts _ _ _)
  pointer _ _ := apart fun _ => rfl
  fetchLiteral _ := apart (Keeps.bind (KeepsBank.take program _) fun _ _ => rfl)
  fetchText := apart (KeepsBank.fetchText program)
  arith _ _ _ _ := apart (Keeps.require _ _)
  shift _ _ _ _ := apart fun _ => rfl
  satisfies _ := apart fun _ => rfl
  setFlags _ _ := apart fun _ => rfl
  jumpTo _ := apart fun _ => rfl
  branch condition := apart (KeepsBank.branch program condition)
  returnAddress := apart KeepsBank.returnAddress
  halt _ := apart fun _ => rfl
  emit event := apart (KeepsBank.emit event)
  delegate := delegate

namespace Engine

/-- The banks that the next step passes: the one after each operation on the bank that its
instruction makes, or the peripheral in its place. -/
def banksPassed (program : Image) (engine : Engine σ π) : List StackBank :=
  match engine.executing? program with
  | some instruction =>
    (leftBy (Acts.execute (m := WatchedExec σ π) program instruction
      { engine := engine.enter instruction })).passed
  | none => []

/-- The banks that a run passes in its first `count` steps. -/
def banksAlong (program : Image) (count : Nat) (engine : Engine σ π) : List StackBank :=
  (engine.seenAlong (fun state => some (state.banksPassed program)) program count).flatten

variable {program : Image} {engine after : Engine σ π}

theorem Executes.banksPassed_eq {instruction : Instruction}
    (executes : engine.Executes program instruction) :
    engine.banksPassed program =
      (leftBy (Acts.execute (m := WatchedExec σ π) program instruction
        { engine := engine.enter instruction })).passed := by
  rw [banksPassed, executing?_eq_some_iff.mpr executes]

/-- The watched machine executes the instruction as the engine does. -/
theorem Executes.follows {instruction : Instruction}
    (executes : engine.Executes program instruction) :
    Acts.execute (m := WatchedExec σ π) program instruction { engine := engine.enter instruction } =
        WatchedExec.noted (engine.banksPassed program) (step program engine) ∧
      engine.bank.KeepsFronts (engine.banksPassed program) (leftBy (step program engine)).bank := by
  rw [executes.step_eq, executes.banksPassed_eq]
  obtain ⟨_, _, bytes, _, rfl⟩ := executes
  obtain ⟨added, same, keeps⟩ :=
    (WatchedExec.Follows.respects (σ := σ) (π := π) program).execute (instructionAt bytes)
      (Instruction.source_decode_lt _) (Instruction.destination_decode_lt _)
      (engine.enter (instructionAt bytes)) []
  have noted : (leftBy (Acts.execute (m := WatchedExec σ π) program (instructionAt bytes)
      { engine := engine.enter (instructionAt bytes) })).passed = added := by
    rw [same]
    cases Acts.execute (m := Exec σ π) program (instructionAt bytes) _ <;> rfl
  rw [noted]
  exact ⟨same, keeps⟩

/-- A step keeps what it never digs up. -/
theorem keepsFronts_of_going (stepped : step program engine = .ok none after) :
    engine.bank.KeepsFronts (engine.banksPassed program) after.bank := by
  obtain ⟨instruction, executes⟩ := executes_of_going stepped
  have keeps := executes.follows.2
  rw [stepped] at keeps
  exact keeps

/-- A run keeps what it never digs up. -/
theorem keepsFronts_standing {count : Nat} {last : Engine σ π}
    (going : standing program count engine = (none, last)) :
    engine.bank.KeepsFronts (engine.banksAlong program count) last.bank := by
  induction count generalizing engine with
  | zero =>
    cases going
    exact .refl _
  | succ count inductionHypothesis =>
    rw [standing] at going
    rw [banksAlong, seenAlong]
    cases stepped : step program engine with
    | ok halt? after =>
      rw [stepped] at going
      cases halt? with
      | none => exact (keepsFronts_of_going stepped).trans (inductionHypothesis going)
      | some halt => cases going
    | error fault after =>
      rw [stepped] at going
      cases going

end Engine

end

/-! ### One call and its return -/

/-- The bytes of the address to which a call at an offset returns. -/
def returnBytes (call : Nat) : List UInt8 :=
  Width.address.toBytes (UInt32.ofNat (call + 2))

theorem length_returnBytes (call : Nat) : (returnBytes call).length = 4 :=
  Width.length_toBytes _ _

theorem toNat_returnBytes {call : Nat} (near : call + 2 < 2 ^ 32) :
    (Width.ofBytes (returnBytes call)).toNat = call + 2 := by
  have value : (UInt32.ofNat (call + 2)).toNat = call + 2 := UInt32.toNat_ofNat_of_lt' near
  rw [returnBytes, Width.ofBytes_toBytes, value]
  rw [value]
  exact near

namespace Engine

variable [OutputSink σ] [Peripheral π]
variable {program : Image} {engine after called : Engine σ π} {instruction : Instruction}

/-- A call takes its target off the source, puts the return address on the destination and goes to
its target. Between the two the bank is passed that has neither. -/
theorem Executes.call_leaves [BankClient π] (executes : engine.Executes program instruction)
    (operation : instruction.operation = .call)
    (stepped : step program engine = .ok none called) :
    ∃ between ∈ engine.banksPassed program,
      between.contents = ByteLists.shorten engine.bank.contents instruction.sourceStack 4 ∧
      called.bank.contents = ByteLists.extend between.contents instruction.destinationStack
        (returnBytes engine.pc) ∧
      engine.pc + 2 < 2 ^ 32 := by
  have respects := WatchedExec.Follows.respects (σ := σ) (π := π) program
  have small : instruction.destination < 4 := by
    obtain ⟨_, _, bytes, _, rfl⟩ := executes
    exact Instruction.destination_decode_lt _
  rw [executes.step_eq, Acts.execute, operation] at stepped
  obtain ⟨target, popped, took, rest⟩ := Exec.bind_eq_ok_iff.mp stepped
  obtain ⟨address, _, located, rest⟩ := Exec.bind_eq_ok_iff.mp rest
  obtain ⟨_, pushed, put, jumped⟩ := Exec.bind_eq_ok_iff.mp rest
  refine ⟨popped.bank, ?_, ?_⟩
  · rw [executes.banksPassed_eq, Acts.execute, operation]
    refine WatchedExec.Follows.mem_passed_of_bind (fun value => ?_) took
    exact ⟨_, respects.bind respects.returnAddress fun address =>
      respects.bind (respects.push _ .address address small) fun _ =>
        respects.bind (respects.jumpTo value) fun _ => respects.proceed⟩
  · obtain ⟨_, _, rfl⟩ := Exec.pop_eq_ok took
    obtain ⟨found, rfl⟩ := Exec.require_eq_ok located
    obtain ⟨grown, live, rfl⟩ := Exec.push_eq_ok put
    cases jumped
    change Exec.returnAddress? (engine.pc + 2) = some address at found
    unfold Exec.returnAddress? at found
    split at found
    · rename_i near
      cases found
      refine ⟨contents_popped _ _ .address _, ?_, near⟩
      have contents := contents_pushed
        ((engine.enter instruction).popped instruction.sourceStack .address target)
        instruction.destinationStack grown .address (UInt32.ofNat (engine.pc + 2))
      exact contents.trans (congrArg _ live)
    · cases found

theorem Executes.ret_returns (executes : engine.Executes program instruction)
    (operation : instruction.operation = .ret) {call : Nat} (near : call + 2 < 2 ^ 32)
    {below : List UInt8}
    (held : engine.bank.contents instruction.sourceStack = below ++ returnBytes call) :
    ∃ after, step program engine = .ok none after ∧ after.pc = call + 2 ∧
      after.bank.contents instruction.sourceStack = below := by
  have length : (engine.bank.contents instruction.sourceStack).length = below.length + 4 := by
    rw [held, List.length_append, length_returnBytes]
  have top : (engine.bank.contents instruction.sourceStack).rtake 4 = returnBytes call := by
    rw [List.rtake, length, Nat.add_sub_cancel, held, List.drop_left]
  have rest : (engine.bank.contents instruction.sourceStack).rdrop 4 = below := by
    rw [List.rdrop, length, Nat.add_sub_cancel, held, List.take_left]
  have enough : Width.address.bytes ≤
      ((engine.enter instruction).bank.contents instruction.sourceStack).length :=
    length.symm ▸ Nat.le_add_left 4 below.length
  have popped := Exec.pop_of_enough enough
  rw [executes.step_eq, Acts.execute, operation]
  refine ⟨_, Exec.bind_of_ok popped, ?_, ?_⟩
  · show (Width.ofBytes ((engine.bank.contents instruction.sourceStack).rtake 4)).toNat = _
    rw [top, toNat_returnBytes near]
  · have contents := contents_popped (engine.enter instruction) instruction.sourceStack .address
      (Width.ofBytes ((engine.bank.contents instruction.sourceStack).rtake 4))
    exact (congrFun contents _).trans ((Function.update_self ..).trans rest)

end Engine

/-! ### Calls inside calls -/

/-- A call that has not returned: where it stands, and what lay on the return stack when it was
about to push its return address. -/
structure Activation where
  call : Nat
  below : List UInt8

namespace Activation

/-- What a call leaves on the return stack. -/
def frame (activation : Activation) : List UInt8 :=
  activation.below ++ returnBytes activation.call

/-- How far the pointer may come down as long as calls are pending, the innermost first. -/
def floor : List Activation → Nat
  | [] => 0
  | activation :: _ => activation.frame.length

/-- The frames of the pending calls lie on the stack, each one at the bottom of the next. -/
def Intact : List Activation → List UInt8 → Prop
  | [], _ => True
  | activation :: pending, held =>
    activation.call + 2 < 2 ^ 32 ∧ activation.frame <+: held ∧ Intact pending activation.below

/-- Only the innermost frame has to be looked after. -/
theorem Intact.of_fronts {pending : List Activation} {held after : List UInt8}
    (intact : Intact pending held)
    (fronts : ∀ front : List UInt8,
      front.length ≤ floor pending → front <+: held → front <+: after) :
    Intact pending after := by
  cases pending with
  | nil => trivial
  | cons activation pending =>
    obtain ⟨near, stands, rest⟩ := intact
    exact ⟨near, fronts activation.frame le_rfl stands, rest⟩

end Activation

open Activation (floor Intact)

namespace Engine

variable [OutputSink σ] [Peripheral π] {program : Image} {stack : StackId}
variable {start engine after : Engine σ π} {instruction : Instruction}
variable {pending : List Activation} {activation : Activation}

/-- A return at the level of a call goes behind this call and leaves what lay below it. -/
theorem returns_of_frame (executes : engine.Executes program instruction)
    (operation : instruction.operation = .ret) (off : instruction.sourceStack = stack)
    (near : activation.call + 2 < 2 ^ 32)
    (stands : activation.frame <+: engine.bank.contents stack)
    (level : engine.bank.pointer stack = activation.frame.length) :
    ∃ after, Engine.step program engine = .ok none after ∧ after.pc = activation.call + 2 ∧
      after.bank.contents stack = activation.below := by
  rw [StackBank.pointer_eq_length] at level
  have held := (stands.eq_of_length level.symm).symm
  subst off
  exact executes.ret_returns operation near held

variable [BankClient π]

/-- A run from a start in which calls on one return stack are well nested, with the calls pending.
A call is made and is pending from then on; a return at the level at which the innermost call has
left the stack brings it back; any other step may do as it likes. No operation on the bank comes
below the level of the innermost call, that return apart. -/
inductive Nests (program : Image) (stack : StackId) (start : Engine σ π) :
    List Activation → Engine σ π → Prop
  | start : Nests program stack start [] start
  | call {pending : List Activation} {engine called : Engine σ π} {instruction : Instruction}
      (nests : Nests program stack start pending engine)
      (executes : engine.Executes program instruction) (operation : instruction.operation = .call)
      (onto : instruction.destinationStack = stack)
      (stepped : step program engine = .ok none called)
      (above : ∀ bank ∈ engine.banksPassed program, floor pending ≤ bank.pointer stack) :
      Nests program stack start
        ({ call := engine.pc
           below := ByteLists.shorten engine.bank.contents instruction.sourceStack 4 stack } ::
          pending) called
  | step {pending : List Activation} {engine after : Engine σ π}
      (nests : Nests program stack start pending engine)
      (stepped : step program engine = .ok none after)
      (above : ∀ bank ∈ engine.banksPassed program, floor pending ≤ bank.pointer stack) :
      Nests program stack start pending after
  | ret {activation : Activation} {pending : List Activation} {engine after : Engine σ π}
      {instruction : Instruction}
      (nests : Nests program stack start (activation :: pending) engine)
      (executes : engine.Executes program instruction) (operation : instruction.operation = .ret)
      (off : instruction.sourceStack = stack)
      (level : engine.bank.pointer stack = activation.frame.length)
      (stepped : step program engine = .ok none after) : Nests program stack start pending after

/-- What a call finds below its return address has all of the frames that were there before. -/
theorem intact_of_call {called : Engine σ π} (executes : engine.Executes program instruction)
    (operation : instruction.operation = .call) (onto : instruction.destinationStack = stack)
    (stepped : Engine.step program engine = .ok none called)
    (above : ∀ bank ∈ engine.banksPassed program, floor pending ≤ bank.pointer stack)
    (intact : Intact pending (engine.bank.contents stack)) :
    Intact
      ({ call := engine.pc
         below := ByteLists.shorten engine.bank.contents instruction.sourceStack 4 stack } ::
        pending)
      (called.bank.contents stack) := by
  obtain ⟨between, passed, shortened, extended, near⟩ := executes.call_leaves operation stepped
  refine ⟨near, ?_, intact.of_fronts fun front long stands => ?_⟩
  · rw [extended, onto, ByteLists.extend, Function.update_self, shortened]
    exact List.prefix_refl _
  · have shorter : between.contents stack <+: engine.bank.contents stack :=
      shortened ▸ ByteLists.shorten_prefix _ _ _ _
    rw [← shortened]
    refine List.prefix_of_prefix_length_le stands shorter (long.trans ?_)
    rw [← StackBank.pointer_eq_length]
    exact above between passed

theorem Nests.intact (nests : Nests program stack start pending engine) :
    Intact pending (engine.bank.contents stack) := by
  induction nests with
  | start => trivial
  | call _ executes operation onto stepped above inductionHypothesis =>
    exact intact_of_call executes operation onto stepped above inductionHypothesis
  | step _ stepped above inductionHypothesis =>
    refine inductionHypothesis.of_fronts fun front long stands => ?_
    exact keepsFronts_of_going stepped stack front
      (fun bank passed => long.trans (above bank passed)) stands
  | ret _ executes operation off level stepped inductionHypothesis =>
    obtain ⟨near, stands, rest⟩ := inductionHypothesis
    obtain ⟨_, returned, _, below⟩ := returns_of_frame executes operation off near stands level
    cases stepped.symm.trans returned
    rw [below]
    exact rest

/-- Return addresses hold. However a run goes on after a call, as long as no operation on the bank
takes the pointer of the return stack below where the call left it, a return from there with the
pointer back at this place succeeds, goes to the instruction behind the call and leaves on the
return stack what the call found there when it pushed. So in a run whose calls are well nested the
innermost pending call is the one that the next such return leads back to, and then the one around
it is the innermost. -/
theorem return_address_integrity (program : Image) :
    (∀ (engine called : Engine σ π) (calling : Instruction),
      engine.Executes program calling → calling.operation = .call →
      Engine.step program engine = .ok none called →
      (∃ target, engine.bank.peek calling.sourceStack .address = .ok target ∧
        called.pc = target.toNat) ∧
      ∀ count last returning, standing program count called = (none, last) →
        (∀ bank ∈ called.banksAlong program count,
          called.bank.pointer calling.destinationStack ≤ bank.pointer calling.destinationStack) →
        last.Executes program returning → returning.operation = .ret →
        returning.sourceStack = calling.destinationStack →
        last.bank.pointer calling.destinationStack =
          called.bank.pointer calling.destinationStack →
        ∃ after, Engine.step program last = .ok none after ∧ after.pc = engine.pc + 2 ∧
          after.bank.contents calling.destinationStack =
            ByteLists.shorten engine.bank.contents calling.sourceStack 4
              calling.destinationStack) ∧
    ∀ (stack : StackId) (start engine : Engine σ π) (activation : Activation)
      (pending : List Activation) (returning : Instruction),
      Nests program stack start (activation :: pending) engine →
      engine.Executes program returning → returning.operation = .ret →
      returning.sourceStack = stack →
      engine.bank.pointer stack = activation.frame.length →
      ∃ after, Engine.step program engine = .ok none after ∧ after.pc = activation.call + 2 ∧
        after.bank.contents stack = activation.below ∧
        Nests program stack start pending after := by
  constructor
  · intro engine called calling executes operation stepped
    obtain ⟨target, top, place⟩ := executes.place_of_call operation stepped
    refine ⟨⟨target, top, congrArg Prod.fst place⟩, ?_⟩
    intro count last returning going above executesReturn returns off level
    obtain ⟨between, _, shortened, extended, near⟩ := executes.call_leaves operation stepped
    let activation : Activation :=
      ⟨engine.pc, ByteLists.shorten engine.bank.contents calling.sourceStack 4
        calling.destinationStack⟩
    have left : called.bank.contents calling.destinationStack = activation.frame := by
      rw [extended, ByteLists.extend, Function.update_self, shortened]
      rfl
    have length : called.bank.pointer calling.destinationStack = activation.frame.length := by
      rw [StackBank.pointer_eq_length, left]
    have stands : activation.frame <+: last.bank.contents calling.destinationStack := by
      refine keepsFronts_standing going _ _ (fun bank passed => ?_) (left ▸ List.prefix_refl _)
      exact length ▸ above bank passed
    exact returns_of_frame executesReturn returns off near stands (level.trans length)
  · intro stack start engine activation pending returning nests executes operation off level
    obtain ⟨near, stands, _⟩ := nests.intact
    obtain ⟨after, returned, place, below⟩ :=
      returns_of_frame executes operation off near stands level
    exact ⟨after, returned, place, below, .ret nests executes operation off level returned⟩

/-- A call inside a call, whose target lies on the return stack itself. After some work on that
stack the inner call returns to what follows it, and the outer call after it. -/
theorem return_address_integrity_nested :
    ∃ (program : Image) (outer inner deep returned last : Engine ByteLog NoPeripheral),
      program.toList =
        [0x60, 0, 10, 0, 0, 0, 0x01, 0x12, 0x80, 0x12, 0x61, 0, 20, 0, 0, 0, 0x05, 0x12,
          0x14, 0x12, 0x41, 0, 7, 0xd4, 0x01, 0x14, 0x12] ∧
      outer.pc = 6 ∧ inner.pc = 16 ∧ inner.bank.contents 1 = [8, 0, 0, 0, 20, 0, 0, 0] ∧
      Engine.step program deep = .ok none returned ∧
      returned.pc = 18 ∧ returned.bank.contents 1 = [8, 0, 0, 0] ∧
      Engine.step program returned = .ok none last ∧
      last.pc = 8 ∧ last.bank.contents 1 = [] := by
  let program : Image :=
    #[0x60, 0, 10, 0, 0, 0, 0x01, 0x12, 0x80, 0x12, 0x61, 0, 20, 0, 0, 0, 0x05, 0x12,
      0x14, 0x12, 0x41, 0, 7, 0xd4, 0x01, 0x14, 0x12]
  let first := Engine.new ByteLog.empty NoPeripheral.mk
  let state (count : Nat) := (standing program count first).2
  have going : ∀ count < 8, (standing program count first).1 = none := by decide +kernel
  have steps (count : Nat) (few : count < 7) :
      Engine.step program (state count) = .ok none (state (count + 1)) := by
    have reached : standing program count first = (none, state count) :=
      Prod.ext (going count (by omega)) rfl
    have further : standing program (count + 1) first = (none, state (count + 1)) :=
      Prod.ext (going (count + 1) (by omega)) rfl
    obtain ⟨before, same, stepped⟩ := going_succ_iff.mp further
    cases reached.symm.trans same
    exact stepped
  have outerCall : (state 1).Executes program ⟨0x120, 0, 1⟩ :=
    executing?_eq_some_iff.mp (by decide +kernel)
  have innerCall : (state 3).Executes program ⟨0x120, 1, 1⟩ :=
    executing?_eq_some_iff.mp (by decide +kernel)
  have innerReturn : (state 6).Executes program ⟨0x121, 1, 0⟩ :=
    executing?_eq_some_iff.mp (by decide +kernel)
  have outerReturn : (state 7).Executes program ⟨0x121, 1, 0⟩ :=
    executing?_eq_some_iff.mp (by decide +kernel)
  have calls : Instruction.operation ⟨0x120, 1, 1⟩ = .call := by decide +kernel
  have callsToo : Instruction.operation ⟨0x120, 0, 1⟩ = .call := by decide +kernel
  have returns : Instruction.operation ⟨0x121, 1, 0⟩ = .ret := by decide +kernel
  obtain ⟨single, nested⟩ := return_address_integrity (σ := ByteLog) (π := NoPeripheral) program
  obtain ⟨_, back⟩ := single (state 3) (state 4) _ innerCall calls (steps 3 (by decide))
  have work : standing program 2 (state 4) = (none, state 6) :=
    going_succ_iff.mpr ⟨state 5, going_succ_iff.mpr ⟨state 4, rfl, steps 4 (by decide)⟩,
      steps 5 (by decide)⟩
  obtain ⟨returned, stepped, place, below⟩ :=
    back 2 (state 6) _ work (by decide +kernel) innerReturn returns rfl (by decide +kernel)
  cases (steps 6 (by decide)).symm.trans stepped
  have outer := Nests.call .start outerCall callsToo rfl (steps 1 (by decide)) (by decide +kernel)
  have between := outer.step (steps 2 (by decide)) (by decide +kernel)
  have inner := between.call innerCall calls rfl (steps 3 (by decide)) (by decide +kernel)
  have deep := (inner.step (steps 4 (by decide)) (by decide +kernel)).step (steps 5 (by decide))
    (by decide +kernel)
  have pending := deep.ret innerReturn returns rfl (by decide +kernel) stepped
  obtain ⟨last, final, home, empty, _⟩ :=
    nested 1 (state 1) (state 7) _ [] _ pending outerReturn returns rfl (by decide +kernel)
  refine ⟨program, state 1, state 3, state 6, state 7, last, rfl, by decide +kernel,
    by decide +kernel, by decide +kernel, stepped, ?_, ?_, final, ?_, ?_⟩
  · exact place.trans (by decide +kernel)
  · exact below.trans (by decide +kernel)
  · exact home.trans (by decide +kernel)
  · exact empty.trans (by decide +kernel)

end Engine

end Quadstack
