import Mathlib
import Quadstack.Proofs.Machine.Execution
import Quadstack.Proofs.Stack.ByteLists

/-!
Acts on the live bytes. Whether a pop, a peek or a push succeeds depends on how many bytes are live,
and what it gives or leaves is a list cut or extended at its end. With these equations an
instruction is followed act by act without a look at cells and pointers: after each act the
four lists of live bytes are known, and everything else an act could have changed is not looked at
by the acts that follow.
-/

namespace Quadstack

/-- A peek that finds enough bytes gives the value of those at its depth. -/
theorem StackBank.peekAt_of_enough (bank : StackBank) {id : StackId} {width : Width} {depth : Nat}
    (enough : depth + width.bytes ≤ (bank.contents id).length) :
    bank.peekAt id width depth =
      .ok (Width.ofBytes (((bank.contents id).rdrop depth).rtake width.bytes)) := by
  rw [peekAt_eq, if_pos enough, take_drop_eq_rtake_rdrop _ _ _ enough]

variable {σ π : Type}

theorem Engine.contents_pushed (engine : Engine σ π) (stack : StackId) (grown : ByteStack)
    (width : Width) (value : UInt32) :
    (engine.pushed stack grown width value).bank.contents =
      Function.update engine.bank.contents stack grown.live :=
  engine.bank.contents_update stack grown

namespace Exec

variable {engine : Engine σ π} {stack : StackId} {width : Width}

/-- A pop that finds enough bytes gives the value of those on top. -/
theorem pop_of_enough (enough : width.bytes ≤ (engine.bank.contents stack).length) :
    pop stack width engine =
      .ok (Width.ofBytes ((engine.bank.contents stack).rtake width.bytes))
        (engine.popped stack width
          (Width.ofBytes ((engine.bank.contents stack).rtake width.bytes))) := by
  have found := engine.bank.peekAt_of_enough (by rw [Nat.zero_add]; exact enough)
  rw [List.rdrop_zero] at found
  rcases pop_cases stack width engine with ⟨_, value, top, popped⟩ | ⟨short, _⟩
  · cases found.symm.trans top
    exact popped
  · rw [StackBank.pointer_eq_length] at short
    exact absurd enough (Nat.not_le_of_lt short)

theorem pop_of_short (short : (engine.bank.contents stack).length < width.bytes) :
    pop stack width engine = .error (.stackUnderflow engine.current stack) engine := by
  rw [← StackBank.pointer_eq_length] at short
  rcases pop_cases stack width engine with ⟨enough, _⟩ | ⟨_, failed⟩
  · exact absurd enough (Nat.not_le_of_lt short)
  · exact failed

/-- A push that finds room puts the bytes of its value on top and changes nothing else that an
instruction looks at. -/
theorem push_of_room (value : UInt32)
    (room : (engine.bank.contents stack).length + width.bytes ≤ 1024) :
    ∃ grown : ByteStack,
      push stack width value engine = .ok () (engine.pushed stack grown width value) ∧
      (engine.pushed stack grown width value).bank.contents =
        Function.update engine.bank.contents stack
          (engine.bank.contents stack ++ width.toBytes value) := by
  rw [← StackBank.pointer_eq_length] at room
  rcases push_cases stack width value engine with ⟨_, grown, live, _, pushed⟩ | ⟨full, _⟩
  · exact ⟨grown, pushed, by rw [Engine.contents_pushed, live]⟩
  · exact absurd room (Nat.not_le_of_lt full)

theorem push_of_full (value : UInt32)
    (full : 1024 < (engine.bank.contents stack).length + width.bytes) :
    push stack width value engine = .error (.stackOverflow engine.current stack) engine := by
  rw [← StackBank.pointer_eq_length] at full
  rcases push_cases stack width value engine with ⟨room, _⟩ | ⟨_, failed⟩
  · exact absurd room (Nat.not_le_of_lt full)
  · exact failed

end Exec

end Quadstack
