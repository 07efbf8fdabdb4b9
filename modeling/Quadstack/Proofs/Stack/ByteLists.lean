import Mathlib
import Quadstack.Proofs.Stack.Live

/-!
The bank as four lists of bytes. A client of the bank cannot tell it from four independent lists,
each with its top at the end: a push appends the low bytes of a value, a pop takes bytes off the end
and reads them as a number, and the only limit is the capacity. The lists are described here
without any of the bank's own functions, by places in base 256 and by cutting lists from
the right, and the bank answers every sequence of commands as they do.

The cells above a pointer do not enter the lists at all, so the bank's side of the comparison keeps
more than the lists show. The main theorem therefore also says what happens to the cells: a
command that fails leaves all of them alone, and so does a command on another stack.
-/

namespace Quadstack

/-! ### Commands and replies -/

/-- Something to ask of a bank. A depth is any number of bytes. -/
inductive BankCommand where
  | push (stack : StackId) (width : Width) (value : UInt32)
  | pop (stack : StackId) (width : Width)
  | peek (stack : StackId) (width : Width)
  | peekAt (stack : StackId) (width : Width) (depth : Nat)
  | contents (stack : StackId)
  | pointer (stack : StackId)
  | isEmpty (stack : StackId)
  | reset
deriving DecidableEq

/-- What comes back. -/
inductive BankReply where
  | done
  | number (value : Nat)
  | bytes (bytes : List UInt8)
  | truth (value : Bool)
  | failed (error : StackError)
deriving DecidableEq

namespace BankCommand

/-- The stack that a command names; a reset names none. -/
def target? : BankCommand → Option StackId
  | .push stack _ _ | .pop stack _ | .peek stack _ | .peekAt stack _ _ => some stack
  | .contents stack | .pointer stack | .isEmpty stack => some stack
  | .reset => none

/-- The reply to work on a bank, and the bank after it. -/
def replyTo {α : Type} (encode : α → BankReply) :
    EStateM.Result StackError TracedBank α → BankReply × TracedBank
  | .ok value after => (encode value, after)
  | .error error after => (.failed error, after)

/-- The bank's answer to a command. -/
def perform (traced : TracedBank) : BankCommand → BankReply × TracedBank
  | .push stack width value =>
    replyTo (fun () => .done) (TracedBank.push stack width value traced)
  | .pop stack width =>
    replyTo (fun value => .number value.toNat) (TracedBank.pop stack width traced)
  | .peek stack width =>
    match traced.bank.peek stack width with
    | .ok value => (.number value.toNat, traced)
    | .error error => (.failed error, traced)
  | .peekAt stack width depth =>
    replyTo (fun value => .number value.toNat) (TracedBank.peekAt stack width depth traced)
  | .contents stack => (.bytes (traced.bank.contents stack), traced)
  | .pointer stack => (.number (traced.bank.pointer stack), traced)
  | .isEmpty stack => (.truth (traced.bank.isEmpty stack), traced)
  | .reset => replyTo (fun () => .done) (TracedBank.reset traced)

end BankCommand

/-! ### The lists -/

/-- Four lists of bytes, each with its top at the end. -/
abbrev ByteLists := StackId → List UInt8

namespace ByteLists

/-- The `count` low bytes of a number, least significant first: its places in base 256. -/
def lowBytes (count value : Nat) : List UInt8 :=
  (List.range count).map fun place => UInt8.ofNat (value / 256 ^ place)

/-- The number whose places in base 256 are the bytes, least significant first. -/
def spelled (bytes : List UInt8) : Nat :=
  Nat.ofDigits 256 (bytes.map UInt8.toNat)

/-- The answer of the lists to a command. -/
def answer (lists : ByteLists) : BankCommand → BankReply × ByteLists
  | .push stack width value =>
    if (lists stack).length + width.bytes ≤ 1024 then
      (.done, Function.update lists stack (lists stack ++ lowBytes width.bytes value.toNat))
    else (.failed (.overflow stack), lists)
  | .pop stack width =>
    if width.bytes ≤ (lists stack).length then
      (.number (spelled ((lists stack).rtake width.bytes)),
        Function.update lists stack ((lists stack).rdrop width.bytes))
    else (.failed (.underflow stack), lists)
  | .peek stack width =>
    if width.bytes ≤ (lists stack).length then
      (.number (spelled ((lists stack).rtake width.bytes)), lists)
    else (.failed (.underflow stack), lists)
  | .peekAt stack width depth =>
    if depth + width.bytes ≤ (lists stack).length then
      (.number (spelled (((lists stack).rdrop depth).rtake width.bytes)), lists)
    else (.failed (.underflow stack), lists)
  | .contents stack => (.bytes (lists stack), lists)
  | .pointer stack => (.number (lists stack).length, lists)
  | .isEmpty stack => (.truth (lists stack).isEmpty, lists)
  | .reset => (.done, fun _ => [])

end ByteLists

/-- The replies to a sequence of commands, and the state after the last one. -/
def BankCommand.replies {α : Type} (answer : α → BankCommand → BankReply × α) :
    α → List BankCommand → List BankReply × α
  | state, [] => ([], state)
  | state, command :: rest =>
    let (reply, next) := answer state command
    let (others, last) := replies answer next rest
    (reply :: others, last)

/-! ### Bytes and places -/

theorem LittleEndian.encode_eq_lowBytes (count value : Nat) :
    encode count value = ByteLists.lowBytes count value := by
  induction count generalizing value with
  | zero => rfl
  | succ count inductionHypothesis =>
    rw [encode, inductionHypothesis, ByteLists.lowBytes, ByteLists.lowBytes,
      List.range_succ_eq_map, List.map_cons, List.map_map, pow_zero, Nat.div_one]
    congr 1
    refine List.map_congr_left fun place _ => ?_
    rw [Function.comp_apply, Nat.div_div_eq_div_mul, ← Nat.pow_succ']

theorem LittleEndian.decode_eq_spelled (bytes : List UInt8) :
    decode bytes = ByteLists.spelled bytes := by
  induction bytes with
  | nil => rfl
  | cons byte rest inductionHypothesis =>
    rw [decode, inductionHypothesis]
    exact Nat.ofDigits_cons.symm

theorem LittleEndian.decode_lt (bytes : List UInt8) : decode bytes < 256 ^ bytes.length := by
  rw [decode_eq_spelled, ByteLists.spelled]
  have digits : ∀ digit ∈ bytes.map UInt8.toNat, digit < 256 := by
    intro digit member
    obtain ⟨byte, _, rfl⟩ := List.mem_map.mp member
    exact byte.toNat_lt
  have bound := Nat.ofDigits_lt_base_pow_length (by decide : 1 < 256) digits
  rwa [List.length_map] at bound

namespace Width

theorem bytes_le_four (width : Width) : width.bytes ≤ 4 := by
  cases width <;> decide

theorem toBytes_eq_lowBytes (width : Width) (value : UInt32) :
    width.toBytes value = ByteLists.lowBytes width.bytes value.toNat :=
  LittleEndian.encode_eq_lowBytes _ _

/-- A value of at most four bytes is the number they spell: nothing is cut off. -/
theorem toNat_ofBytes (bytes : List UInt8) (short : bytes.length ≤ 4) :
    (ofBytes bytes).toNat = ByteLists.spelled bytes := by
  have small : LittleEndian.decode bytes < 2 ^ 32 :=
    calc LittleEndian.decode bytes
      _ < 256 ^ bytes.length := LittleEndian.decode_lt bytes
      _ ≤ 256 ^ 4 := Nat.pow_le_pow_right (by decide) short
      _ = 2 ^ 32 := by norm_num
  rw [ofBytes, UInt32.toNat_ofNat_of_lt' small, LittleEndian.decode_eq_spelled]

end Width

/-! ### The bank against the lists -/

/-- The bytes that a peek reads, cut from the right. -/
theorem take_drop_eq_rtake_rdrop (bytes : List UInt8) (count depth : Nat)
    (enough : depth + count ≤ bytes.length) :
    (bytes.drop (bytes.length - (depth + count))).take count = (bytes.rdrop depth).rtake count := by
  rw [List.rtake, List.rdrop, List.length_take, List.drop_take]
  have start : min (bytes.length - depth) bytes.length - count =
      bytes.length - (depth + count) := by omega
  have size : bytes.length - depth - (bytes.length - (depth + count)) = count := by omega
  rw [start, size]

/-- A peek either reads the bytes at its depth as a number, or fails because there are too few. -/
theorem StackBank.peekAt_cases (bank : StackBank) (stack : StackId) (width : Width)
    (depth : Nat) :
    (depth + width.bytes ≤ (bank.contents stack).length ∧
        ∃ value : UInt32, bank.peekAt stack width depth = .ok value ∧
          value.toNat =
            ByteLists.spelled (((bank.contents stack).rdrop depth).rtake width.bytes)) ∨
      (¬ depth + width.bytes ≤ (bank.contents stack).length ∧
        bank.peekAt stack width depth = .error (.underflow stack)) := by
  rw [peekAt_eq]
  by_cases enough : depth + width.bytes ≤ (bank.contents stack).length
  · refine Or.inl ⟨enough, _, if_pos enough, ?_⟩
    have short : (((bank.contents stack).drop
        ((bank.contents stack).length - (depth + width.bytes))).take width.bytes).length ≤ 4 :=
      le_trans (List.length_take_le _ _) width.bytes_le_four
    rw [Width.toNat_ofBytes _ short, take_drop_eq_rtake_rdrop _ _ _ enough]
  · exact Or.inr ⟨enough, if_neg enough⟩

/-- A pop either reads the top bytes as a number and takes them off its stack, or fails because
there are too few. -/
theorem StackBank.pop_cases (bank : StackBank) (stack : StackId) (width : Width) :
    (width.bytes ≤ (bank.contents stack).length ∧
        ∃ (value : UInt32) (shorter : ByteStack),
          bank.pop stack width = .ok (value, bank.update stack shorter) ∧
          shorter.live = (bank.contents stack).rdrop width.bytes ∧
          value.toNat = ByteLists.spelled ((bank.contents stack).rtake width.bytes)) ∨
      (¬ width.bytes ≤ (bank.contents stack).length ∧
        bank.pop stack width = .error (.underflow stack)) := by
  rw [pop_eq]
  rcases bank.peekAt_cases stack width 0 with ⟨enough, value, found, spelled⟩ | ⟨short, found⟩
  · rw [Nat.zero_add] at enough
    rw [List.rdrop_zero] at spelled
    refine Or.inl ⟨enough, value, (bank.stack stack).lower width.bytes, ?_, ?_, spelled⟩
    · rw [found]
      rfl
    · rw [ByteStack.live_lower]
      rfl
  · rw [Nat.zero_add] at short
    refine Or.inr ⟨short, ?_⟩
    rw [found]
    rfl

namespace BankCommand

/-- One command: the bank replies as its live bytes do, and they become what the lists become. -/
theorem perform_refines (traced : TracedBank) (command : BankCommand) :
    (command.perform traced).1 = (ByteLists.answer traced.bank.contents command).1 ∧
      (command.perform traced).2.bank.contents =
        (ByteLists.answer traced.bank.contents command).2 := by
  cases command with
  | push stack width value =>
    simp only [perform, ByteLists.answer, TracedBank.push]
    rcases traced.bank.push_cases stack width value with
      ⟨full, failed⟩ | ⟨room, grown, live, pushed⟩
    · have tooMuch : ¬ (traced.bank.contents stack).length + width.bytes ≤ 1024 :=
        Nat.not_le_of_lt full
      rw [failed, if_neg tooMuch]
      exact ⟨rfl, rfl⟩
    · have fits : (traced.bank.contents stack).length + width.bytes ≤ 1024 := room
      rw [pushed, if_pos fits]
      refine ⟨rfl, ?_⟩
      show (traced.bank.update stack grown).contents = _
      rw [StackBank.contents_update, live, Width.toBytes_eq_lowBytes]
  | pop stack width =>
    simp only [perform, ByteLists.answer, TracedBank.pop]
    rcases traced.bank.pop_cases stack width with
      ⟨enough, value, shorter, popped, live, spelled⟩ | ⟨short, failed⟩
    · rw [popped, if_pos enough, ← spelled]
      refine ⟨rfl, ?_⟩
      show (traced.bank.update stack shorter).contents = _
      rw [StackBank.contents_update, live]
    · rw [failed, if_neg short]
      exact ⟨rfl, rfl⟩
  | peek stack width =>
    simp only [perform, ByteLists.answer, StackBank.peek]
    rcases traced.bank.peekAt_cases stack width 0 with
      ⟨enough, value, found, spelled⟩ | ⟨short, failed⟩
    · rw [Nat.zero_add] at enough
      rw [List.rdrop_zero] at spelled
      rw [found, if_pos enough, ← spelled]
      exact ⟨rfl, rfl⟩
    · rw [Nat.zero_add] at short
      rw [failed, if_neg short]
      exact ⟨rfl, rfl⟩
  | peekAt stack width depth =>
    simp only [perform, ByteLists.answer, TracedBank.peekAt]
    rcases traced.bank.peekAt_cases stack width depth with
      ⟨enough, value, found, spelled⟩ | ⟨short, failed⟩
    · rw [found, if_pos enough, ← spelled]
      exact ⟨rfl, rfl⟩
    · rw [failed, if_neg short]
      exact ⟨rfl, rfl⟩
  | contents stack => exact ⟨rfl, rfl⟩
  | pointer stack =>
    refine ⟨?_, rfl⟩
    simp only [perform, ByteLists.answer]
    rw [StackBank.pointer_eq_length]
  | isEmpty stack =>
    refine ⟨?_, rfl⟩
    simp only [perform, ByteLists.answer, StackBank.isEmpty]
    rw [StackBank.pointer_eq_length]
    cases traced.bank.contents stack <;> rfl
  | reset =>
    refine ⟨rfl, ?_⟩
    funext stack
    exact StackBank.contents_reset traced.bank stack

/-- A whole sequence of commands, from a bank whose live bytes are given by the lists. -/
theorem replies_refine (traced : TracedBank) (commands : List BankCommand) :
    (replies perform traced commands).1 =
        (replies ByteLists.answer traced.bank.contents commands).1 ∧
      (replies perform traced commands).2.bank.contents =
        (replies ByteLists.answer traced.bank.contents commands).2 := by
  induction commands generalizing traced with
  | nil => exact ⟨rfl, rfl⟩
  | cons command rest inductionHypothesis =>
    obtain ⟨reply, next⟩ := perform_refines traced command
    obtain ⟨others, last⟩ := inductionHypothesis (command.perform traced).2
    rw [next] at others last
    exact ⟨congrArg₂ List.cons reply others, last⟩

/-! ### What a command leaves alone -/

/-- A command that fails changes nothing, neither a cell nor a pointer. -/
theorem perform_of_failed (traced : TracedBank) (command : BankCommand) (error : StackError)
    (failed : (command.perform traced).1 = .failed error) :
    (command.perform traced).2 = traced := by
  cases command with
  | push stack width value =>
    simp only [perform, TracedBank.push] at failed ⊢
    cases pushed : traced.bank.push stack width value with
    | ok bank => simp [pushed, replyTo] at failed
    | error error => rfl
  | pop stack width =>
    simp only [perform, TracedBank.pop] at failed ⊢
    cases popped : traced.bank.pop stack width with
    | ok result => simp [popped, replyTo] at failed
    | error error => rfl
  | peek stack width =>
    simp only [perform]
    cases traced.bank.peek stack width <;> rfl
  | peekAt stack width depth =>
    simp only [perform, TracedBank.peekAt]
    cases traced.bank.peekAt stack width depth <;> rfl
  | contents stack => rfl
  | pointer stack => rfl
  | isEmpty stack => rfl
  | reset => simp [perform, TracedBank.reset, replyTo] at failed

/-- A command on one stack keeps the cells and the pointer of every other. -/
theorem perform_other (traced : TracedBank) (command : BankCommand) (stack other : StackId)
    (target : command.target? = some stack) (different : other ≠ stack) :
    (command.perform traced).2.bank.stack other = traced.bank.stack other := by
  cases command with
  | push id width value =>
    cases target
    simp only [perform, TracedBank.push]
    rcases traced.bank.push_cases stack width value with ⟨_, failed⟩ | ⟨_, grown, _, pushed⟩
    · rw [failed]
      rfl
    · rw [pushed]
      exact StackBank.stack_update_other _ _ _ _ different
  | pop id width =>
    cases target
    simp only [perform, TracedBank.pop]
    rcases traced.bank.pop_cases stack width with ⟨_, value, shorter, popped, _⟩ | ⟨_, failed⟩
    · rw [popped]
      exact StackBank.stack_update_other _ _ _ _ different
    · rw [failed]
      rfl
  | peek id width =>
    simp only [perform]
    cases traced.bank.peek id width <;> rfl
  | peekAt id width depth =>
    simp only [perform, TracedBank.peekAt]
    cases traced.bank.peekAt id width depth <;> rfl
  | contents id => rfl
  | pointer id => rfl
  | isEmpty id => rfl
  | reset => cases target

end BankCommand

/-- The bank is four independent lists of bytes. Starting empty, it gives the same replies as the
lists to every sequence of commands and afterwards holds what they hold. A command that fails
leaves every cell and every pointer as they were, and a command on one stack leaves the cells and
the pointer of the others alone. -/
theorem bank_refines_byteLists (commands : List BankCommand) :
    ((BankCommand.replies BankCommand.perform { bank := .empty } commands).1 =
        (BankCommand.replies ByteLists.answer (fun _ => []) commands).1 ∧
      ∀ stack,
        (BankCommand.replies BankCommand.perform { bank := .empty } commands).2.bank.contents
            stack =
          (BankCommand.replies ByteLists.answer (fun _ => []) commands).2 stack) ∧
    (∀ (traced : TracedBank) (command : BankCommand) (error : StackError),
      (command.perform traced).1 = .failed error → (command.perform traced).2 = traced) ∧
    (∀ (traced : TracedBank) (command : BankCommand) (stack other : StackId),
      command.target? = some stack → other ≠ stack →
        (command.perform traced).2.bank.stack other = traced.bank.stack other) := by
  have start : StackBank.empty.contents = fun _ => [] := funext StackBank.contents_empty
  obtain ⟨same, last⟩ := BankCommand.replies_refine { bank := .empty } commands
  rw [start] at same last
  exact ⟨⟨same, congrFun last⟩, BankCommand.perform_of_failed, BankCommand.perform_other⟩

end Quadstack
