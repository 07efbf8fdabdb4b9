/-!
Numbers as bytes, least significant byte first. Every multi-byte quantity of the
machine (a stack value, an inline literal, an instruction word) is stored this way, so
the two directions are stated once, over natural numbers, and every other module reaches
bytes through them. Encoding keeps the low bytes only, and on exactly as many bytes the
two directions are inverse.
-/

namespace Quadstack.LittleEndian

/-- The `count` low bytes of `value`, least significant first. -/
def encode : Nat → Nat → List UInt8
  | 0, _ => []
  | count + 1, value => UInt8.ofNat value :: encode count (value / 256)

/-- The number that `bytes` spell, least significant first. -/
def decode : List UInt8 → Nat
  | [] => 0
  | byte :: rest => byte.toNat + 256 * decode rest

@[simp]
theorem length_encode (count value : Nat) : (encode count value).length = count := by
  induction count generalizing value with
  | zero => rfl
  | succ count inductionHypothesis => simp [encode, inductionHypothesis]

/-- Nothing is lost when the number is written back on as many bytes. -/
theorem encode_decode (bytes : List UInt8) : encode bytes.length (decode bytes) = bytes := by
  induction bytes with
  | nil => rfl
  | cons byte rest inductionHypothesis =>
    have byteBound : byte.toNat < 256 := byte.toNat_lt
    have quotient : (byte.toNat + 256 * decode rest) / 256 = decode rest := by omega
    have low : UInt8.ofNat (byte.toNat + 256 * decode rest) = byte := by
      apply UInt8.toNat_inj.mp
      rw [UInt8.toNat_ofNat']
      omega
    simp only [List.length_cons, encode, decode, quotient, low, inductionHypothesis]

end Quadstack.LittleEndian
