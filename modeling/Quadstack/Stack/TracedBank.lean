import Quadstack.Stack.Bank

/-!
A stack bank that remembers its pushes and pops. The machine reports every completed push and
pop, made by its own instructions or by a peripheral. Whoever works on the bank therefore
works on a bank together with the list of its moves so far; the moves say enough to replay
them on an empty bank. Peeks, failed accesses and resets leave no move.
-/

namespace Quadstack

/-- A completed push or pop, with the value moved and the stack's pointer after it. The value of a
push is the one passed, before it was cut to the width. -/
inductive StackMove where
  | push (stack : StackId) (width : Width) (value : UInt32) (pointer : Nat)
  | pop (stack : StackId) (width : Width) (value : UInt32) (pointer : Nat)
deriving DecidableEq

namespace StackMove

private def describe (verb : String) (stack : StackId) (width : Width) (value : UInt32)
    (pointer : Nat) : String :=
  verb ++ " s" ++ Numeral.decimal stack ++ " w" ++ Numeral.decimal width.bits ++ " " ++
    Numeral.marked 1 value.toNat ++ " (sp " ++ Numeral.decimal pointer ++ ")"

def text : StackMove → String
  | .push stack width value pointer => describe "push" stack width value pointer
  | .pop stack width value pointer => describe "pop" stack width value pointer

end StackMove

/-- A bank and the moves made on it, oldest first. -/
structure TracedBank where
  bank : StackBank
  moves : Array StackMove := #[]

/-- Work on a bank that may fail with an `ε`. What was done before a failure stays done. -/
abbrev BankM (ε : Type) := EStateM ε TracedBank

namespace TracedBank

def push (stack : StackId) (width : Width) (value : UInt32) : BankM StackError Unit :=
  fun traced =>
    match traced.bank.push stack width value with
    | .ok bank =>
      .ok () { bank, moves := traced.moves.push (.push stack width value (bank.pointer stack)) }
    | .error error => .error error traced

def pop (stack : StackId) (width : Width) : BankM StackError UInt32 :=
  fun traced =>
    match traced.bank.pop stack width with
    | .ok (value, bank) =>
      .ok value { bank, moves := traced.moves.push (.pop stack width value (bank.pointer stack)) }
    | .error error => .error error traced

def peekAt (stack : StackId) (width : Width) (depth : Nat) : BankM StackError UInt32 :=
  fun traced =>
    match traced.bank.peekAt stack width depth with
    | .ok value => .ok value traced
    | .error error => .error error traced

def reset {ε : Type} : BankM ε Unit :=
  fun traced => .ok () { traced with bank := traced.bank.reset }

end TracedBank

end Quadstack
