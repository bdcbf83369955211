import CliMetadata.Error

namespace CliMetadata

abbrev Bytes := Array UInt8

/-- The number whose least significant byte comes first. -/
def littleEndian : List UInt8 → Nat
  | [] => 0
  | b :: rest => b.toNat + 256 * littleEndian rest

def toLittleEndian : Nat → Nat → List UInt8
  | 0, _ => []
  | width + 1, n => UInt8.ofNat n :: toLittleEndian width (n / 256)

def bigEndian (bytes : List UInt8) : Nat := littleEndian bytes.reverse

def signedWord (width n : Nat) : Int := Int.bmod n (1 <<< (8 * width))

namespace Bytes

/-- `length` bytes from `offset` on. -/
def slice (data : Bytes) (offset length : Nat) : Except Error Bytes :=
  if offset + length ≤ data.size then .ok (data.extract offset (offset + length))
  else .error .outOfBounds

def after (data : Bytes) (offset : Nat) : Bytes := data.extract offset data.size

/-- The word of `width` bytes at `offset`. -/
def word (data : Bytes) (offset width : Nat) : Except Error Nat :=
  (data.slice offset width).map fun bytes ↦ littleEndian bytes.toList

/-- The word of `width` bytes at `offset`, most significant byte first. -/
def wordReversed (data : Bytes) (offset width : Nat) : Except Error Nat :=
  (data.slice offset width).map fun bytes ↦ bigEndian bytes.toList

end Bytes

theorem length_toLittleEndian (width n : Nat) : (toLittleEndian width n).length = width := by
  induction width generalizing n with
  | zero => rfl
  | succ width ih => simp [toLittleEndian, ih]

theorem one_shiftLeft_succ (width : Nat) : 1 <<< (8 * (width + 1)) = 256 * 1 <<< (8 * width) := by
  rw [Nat.mul_succ, Nat.shiftLeft_add, Nat.shiftLeft_eq _ 8, Nat.mul_comm]

theorem littleEndian_toLittleEndian (width n : Nat) :
    littleEndian (toLittleEndian width n) = n % 1 <<< (8 * width) := by
  induction width generalizing n with
  | zero => simp [toLittleEndian, littleEndian, Nat.mod_one]
  | succ width ih =>
    have hb : (UInt8.ofNat n).toNat = n % 256 := UInt8.toNat_ofNat'
    rw [toLittleEndian, littleEndian, ih, hb, one_shiftLeft_succ, Nat.mod_mul]

theorem littleEndian_lt (bytes : List UInt8) : littleEndian bytes < 1 <<< (8 * bytes.length) := by
  induction bytes with
  | nil => simp [littleEndian]
  | cons b rest ih =>
    have hb := b.toNat_lt
    rw [littleEndian, List.length_cons, one_shiftLeft_succ]
    omega

theorem toLittleEndian_littleEndian (bytes : List UInt8) :
    toLittleEndian bytes.length (littleEndian bytes) = bytes := by
  induction bytes with
  | nil => rfl
  | cons b rest ih =>
    have hb := b.toNat_lt
    have hdiv : (b.toNat + 256 * littleEndian rest) / 256 = littleEndian rest := by omega
    simp only [littleEndian, List.length_cons, toLittleEndian, hdiv, ih]
    congr 1
    have hm : (UInt8.ofNat (b.toNat + 256 * littleEndian rest)).toNat
        = (b.toNat + 256 * littleEndian rest) % 256 := UInt8.toNat_ofNat'
    apply UInt8.toNat_inj.1
    omega

end CliMetadata
