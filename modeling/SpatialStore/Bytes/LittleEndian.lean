/-! Numbers as bytes, the least significant first. Writing and reading are inverse to each other on the
numbers that fit. -/

namespace SpatialStore

abbrev Bytes := List UInt8

namespace LittleEndian

def encode : (width : Nat) → Nat → Bytes
  | 0, _ => []
  | width + 1, number => UInt8.ofNat (number % 256) :: encode width (number / 256)

def decode : Bytes → Nat
  | [] => 0
  | byte :: rest => byte.toNat + 256 * decode rest

def numbers : (width : Nat) → Nat
  | 0 => 1
  | width + 1 => 256 * numbers width

@[simp] theorem length_encode (width number : Nat) : (encode width number).length = width := by
  induction width generalizing number with
  | zero => rfl
  | succ width ih => simp [encode, ih]

theorem decode_encode (width number : Nat) :
    decode (encode width number) = number % numbers width := by
  induction width generalizing number with
  | zero => simp [encode, decode, numbers, Nat.mod_one]
  | succ width ih =>
    have low : (UInt8.ofNat (number % 256)).toNat = number % 256 := by
      simp
    rw [encode, decode, ih, low, numbers, Nat.mod_mul]

theorem decode_encode_of_lt (width : Nat) {number : Nat} (fits : number < numbers width) :
    decode (encode width number) = number := by
  rw [decode_encode, Nat.mod_eq_of_lt fits]

theorem decode_lt (bytes : Bytes) : decode bytes < numbers bytes.length := by
  induction bytes with
  | nil => simp [decode, numbers]
  | cons byte rest ih =>
    have small := byte.toNat_lt
    rw [decode, List.length_cons, numbers]
    omega

theorem encode_decode (bytes : Bytes) : encode bytes.length (decode bytes) = bytes := by
  induction bytes with
  | nil => rfl
  | cons byte rest ih =>
    have small := byte.toNat_lt
    have low : (byte.toNat + 256 * decode rest) % 256 = byte.toNat := by omega
    have high : (byte.toNat + 256 * decode rest) / 256 = decode rest := by omega
    rw [List.length_cons, decode, encode, low, high, ih]
    simp

end LittleEndian

end SpatialStore
