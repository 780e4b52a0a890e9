import Workflow.ByteReader

/-!
# Numbers in a fixed count of bytes

The most significant byte comes first. `value_bytes`: what is written is read back, if it fits.
-/

namespace Workflow.BigEndian

/-- How many numbers fit into `width` bytes. -/
def size (width : Nat) : Nat := Nat.pow 256 width

/-- The lowest `width` bytes of a number. -/
def bytes : Nat → Nat → Bytes
  | 0, _ => []
  | width + 1, n => UInt8.ofNat (n / size width) :: bytes width n

/-- The number of a run of bytes behind the number of those before it. -/
def valueFrom (n : Nat) : Bytes → Nat
  | [] => n
  | b :: rest => valueFrom (n * 256 + b.toNat) rest

/-- The number of a run of bytes. -/
def value (input : Bytes) : Nat := valueFrom 0 input

/-- Reads a number of `width` bytes. -/
def read (width : Nat) : ByteReader Nat := fun input =>
  (ByteReader.take width input).map fun (front, rest) => (value front, rest)

theorem length_bytes (width n : Nat) : (bytes width n).length = width := by
  induction width with
  | zero => rfl
  | succ width ih => simp [bytes, ih]

theorem size_succ (width : Nat) : size (width + 1) = size width * 256 := rfl

theorem valueFrom_bytes (width n m : Nat) :
    valueFrom m (bytes width n) = m * size width + n % size width := by
  induction width generalizing m with
  | zero => simp [bytes, valueFrom, size, Nat.mod_one]
  | succ width ih =>
    have step : n % size (width + 1) = n / size width % 256 * size width + n % size width := by
      rw [size_succ, Nat.mod_mul, Nat.mul_comm (size width)]
      omega
    simp only [bytes, valueFrom, ih, UInt8.toNat_ofNat', Nat.reducePow]
    rw [step, size_succ, Nat.add_mul, Nat.mul_assoc, Nat.mul_comm 256]
    omega

theorem value_bytes {width n : Nat} (h : n < size width) : value (bytes width n) = n := by
  simp [value, valueFrom_bytes, Nat.mod_eq_of_lt h]

theorem read_bytes {width n : Nat} (h : n < size width) (rest : Bytes) :
    read width (bytes width n ++ rest) = some (n, rest) := by
  have := ByteReader.take_append (bytes width n) rest
  rw [length_bytes] at this
  simp [read, this, value_bytes h]

end Workflow.BigEndian
