import CapServer.Handle

/-!
# Words as bytes

A machine word as the eight bytes it takes in memory, the least significant first. Any number of
bytes is treated alike: `Bytes.ofNat width n` lists the lowest `width` bytes of `n`, and
`Bytes.toNat` reads a list back. `Word.ofBytes_toBytes` and `Word.toBytes_ofBytes` are the two
inverse laws.
-/

namespace CapServer

namespace Bytes

/-- The lowest `width` bytes of a number, the least significant first. -/
def ofNat : Nat → Nat → List UInt8
  | 0, _ => []
  | width + 1, n => UInt8.ofNat n :: ofNat width (n / 256)

/-- The number a list of bytes stands for, the least significant byte first. -/
def toNat : List UInt8 → Nat
  | [] => 0
  | b :: rest => b.toNat + 256 * toNat rest

/-- How many numbers so many bytes can tell apart. -/
def span : Nat → Nat
  | 0 => 1
  | width + 1 => 256 * span width

@[simp] theorem length_ofNat (width n : Nat) : (ofNat width n).length = width := by
  induction width generalizing n with
  | zero => rfl
  | succ width ih => simp [ofNat, ih]

theorem toNat_lt (l : List UInt8) : toNat l < span l.length := by
  induction l with
  | nil => exact Nat.zero_lt_one
  | cons b rest ih =>
    have := b.toNat_lt
    rw [toNat, List.length_cons, span]
    omega

theorem toNat_ofNat (width n : Nat) : toNat (ofNat width n) = n % span width := by
  induction width generalizing n with
  | zero => simp [ofNat, toNat, span, Nat.mod_one]
  | succ width ih =>
    rw [ofNat, toNat, ih, span, Nat.mod_mul]
    simp

theorem ofNat_toNat (l : List UInt8) : ofNat l.length (toNat l) = l := by
  induction l with
  | nil => rfl
  | cons b rest ih =>
    have hb := b.toNat_lt
    rw [List.length_cons, ofNat, toNat,
      show (b.toNat + 256 * toNat rest) / 256 = toNat rest by omega, ih, List.cons.injEq]
    refine ⟨UInt8.toNat_inj.1 ?_, rfl⟩
    rw [UInt8.toNat_ofNat']
    omega

end Bytes

namespace Word

/-- How many bytes a word takes. -/
def width : Nat := 8

/-- The bytes of a word. -/
def toBytes (w : Word) : List UInt8 := Bytes.ofNat width w.toNat

/-- The word made of the first eight bytes of a list. -/
def ofBytes (l : List UInt8) : Word := UInt64.ofNat (Bytes.toNat (l.take width))

@[simp] theorem length_toBytes (w : Word) : (toBytes w).length = width := Bytes.length_ofNat _ _

theorem ofBytes_toBytes (w : Word) : ofBytes (toBytes w) = w := by
  rw [ofBytes, List.take_of_length_le (by simp), toBytes, Bytes.toNat_ofNat,
    Nat.mod_eq_of_lt (show w.toNat < Bytes.span width from w.toNat_lt), UInt64.ofNat_toNat]

theorem toBytes_ofBytes {l : List UInt8} (h : l.length = width) : toBytes (ofBytes l) = l := by
  have hl := Bytes.toNat_lt l
  rw [h] at hl
  rw [ofBytes, List.take_of_length_le (by omega), toBytes, UInt64.toNat_ofNat_of_lt' hl, ← h,
    Bytes.ofNat_toNat]

end Word

end CapServer
