import Mathlib

/-
  Little-endian byte encoding of unsigned integers: how a C struct lays out a `u64` or a
  `u16` field in memory, and how Go's `binary.Read(_, binary.LittleEndian, _)` reads it back.

  `encode n x` is the `n` bytes of `x mod 256 ^ n`, least significant first; `decode` reads a
  byte list back. `decode_encode` is the round trip.
-/

namespace LittleEndian

/-- The `n` bytes of `x`, least significant first. -/
def encode : Nat → Nat → List UInt8
  | 0, _ => []
  | n + 1, x => UInt8.ofNat x :: encode n (x / 256)

/-- The number a little-endian byte list stands for. -/
def decode : List UInt8 → Nat
  | [] => 0
  | b :: bs => b.toNat + 256 * decode bs

@[simp] theorem length_encode (n x : Nat) : (encode n x).length = n := by
  induction n generalizing x with
  | zero => rfl
  | succ n ih => simp [encode, ih]

theorem decode_encode (n x : Nat) : decode (encode n x) = x % 256 ^ n := by
  induction n generalizing x with
  | zero => simp [encode, decode, Nat.mod_one]
  | succ n ih =>
    have byte : (UInt8.ofNat x).toNat = x % 256 := by simp
    rw [encode, decode, ih, byte, Nat.pow_succ, Nat.mul_comm (256 ^ n) 256, Nat.mod_mul]

end LittleEndian
