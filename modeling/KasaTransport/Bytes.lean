import Mathlib

/-!
Byte strings as both transports handle them. A Python `bytes` value is a list of `UInt8`;
the fixed-width integers on the wire are read and written by `struct.pack(">I")`,
`struct.unpack(">I")`, `int.to_bytes(4, "big", signed=True)` and
`int.from_bytes(.., "big", signed=True)`, each modelled with the failure Python raises.
-/

namespace KasaTransport

abbrev Bytes := List UInt8

def beBytes : Nat → Nat → Bytes
  | 0, _ => []
  | width + 1, n => beBytes width (n / 256) ++ [UInt8.ofNat (n % 256)]

def beValue (bytes : Bytes) : Nat :=
  bytes.foldl (fun acc b => acc * 256 + b.toNat) 0

/-- `struct.pack(">I", n)`: four big-endian bytes, `struct.error` when `n` does not fit. -/
def structPackU32 (n : Nat) : Option Bytes :=
  if n < 2 ^ 32 then some (beBytes 4 n) else none

/-- `struct.unpack(">I", bytes)[0]`; the callers pass exactly four bytes. -/
def structUnpackU32 (bytes : Bytes) : Nat := beValue bytes

/-- `v.to_bytes(4, "big", signed=True)`: the two's-complement form, or `OverflowError`
(`none`) when `v` lies outside the signed 32-bit range. -/
def toBytesSigned (v : Int) : Option Bytes :=
  if -2 ^ 31 ≤ v ∧ v < 2 ^ 31 then some (beBytes 4 (v % 2 ^ 32).toNat) else none

/-- `int.from_bytes(bytes, "big", signed=True)`. -/
def fromBytesSigned (bytes : Bytes) : Int :=
  if 0 < bytes.length ∧ 2 ^ (8 * bytes.length - 1) ≤ beValue bytes then
    (beValue bytes : Int) - 2 ^ (8 * bytes.length)
  else beValue bytes

/-- Byte-wise exclusive or, truncated to the shorter argument as `zip` is. -/
def xorBytes (a b : Bytes) : Bytes := List.zipWith (· ^^^ ·) a b

theorem uint8_xor_cancel_left (a b : UInt8) : a ^^^ (a ^^^ b) = b :=
  UInt8.eq_of_toBitVec_eq (by
    show a.toBitVec ^^^ (a.toBitVec ^^^ b.toBitVec) = b.toBitVec
    rw [← BitVec.xor_assoc, BitVec.xor_self, BitVec.zero_xor])

@[simp] theorem uint8_toNat_ofNat (n : Nat) : (UInt8.ofNat n).toNat = n % 256 := rfl

@[simp] theorem beBytes_length (width n : Nat) : (beBytes width n).length = width := by
  induction width generalizing n with
  | zero => rfl
  | succ width ih => simp [beBytes, ih]

theorem beValue_append_singleton (bytes : Bytes) (b : UInt8) :
    beValue (bytes ++ [b]) = beValue bytes * 256 + b.toNat := by
  simp [beValue, List.foldl_append]

theorem beValue_beBytes (width n : Nat) : beValue (beBytes width n) = n % 256 ^ width := by
  induction width generalizing n with
  | zero => simp [beBytes, beValue, Nat.mod_one]
  | succ width ih =>
      rw [beBytes, beValue_append_singleton, ih, uint8_toNat_ofNat, Nat.pow_succ',
        Nat.mod_mul]
      omega

theorem structPackU32_of_lt {n : Nat} (h : n < 2 ^ 32) : structPackU32 n = some (beBytes 4 n) :=
  if_pos h

theorem structUnpackU32_beBytes {n : Nat} (h : n < 2 ^ 32) : structUnpackU32 (beBytes 4 n) = n := by
  rw [structUnpackU32, beValue_beBytes]
  exact Nat.mod_eq_of_lt h

theorem toBytesSigned_eq_some {v : Int} (h : -2 ^ 31 ≤ v ∧ v < 2 ^ 31) :
    toBytesSigned v = some (beBytes 4 (v % 2 ^ 32).toNat) := if_pos h

theorem toBytesSigned_eq_none {v : Int} (h : ¬(-2 ^ 31 ≤ v ∧ v < 2 ^ 31)) :
    toBytesSigned v = none := if_neg h

theorem toBytesSigned_length {v : Int} {bytes : Bytes} (h : toBytesSigned v = some bytes) :
    bytes.length = 4 := by
  unfold toBytesSigned at h
  split at h
  · cases h; exact beBytes_length 4 _
  · cases h

/-- Reading back what `to_bytes` wrote gives the same signed value. -/
theorem fromBytesSigned_toBytesSigned {v : Int} {bytes : Bytes}
    (h : toBytesSigned v = some bytes) : fromBytesSigned bytes = v := by
  unfold toBytesSigned at h
  split at h
  · cases h
    rename_i hv
    have hlt : (v % 2 ^ 32).toNat < 256 ^ 4 := by omega
    simp only [fromBytesSigned, beBytes_length, beValue_beBytes, Nat.mod_eq_of_lt hlt]
    split <;> omega
  · cases h

end KasaTransport
