/-!
# Bytes of numbers — little-endian words

Fixed-width little-endian bytes of a natural number, the number they came from,
and the sixty-four bit words built on them.
-/

namespace LispData

/-- The `width` lowest bytes of `n`, lowest first. -/
def littleEndian : Nat → Nat → List UInt8
  | 0, _ => []
  | width + 1, n => UInt8.ofNat (n % 256) :: littleEndian width (n / 256)

/-- The number whose bytes, lowest first, are given. -/
def ofLittleEndian : List UInt8 → Nat
  | [] => 0
  | b :: rest => b.toNat + 256 * ofLittleEndian rest

@[simp] theorem length_littleEndian (width n : Nat) : (littleEndian width n).length = width := by
  induction width generalizing n with
  | zero => rfl
  | succ width ih => simp [littleEndian, ih]

/-- **A number that fits is read back from its bytes.** -/
theorem ofLittleEndian_littleEndian {width n : Nat} (h : n < Nat.pow 256 width) :
    ofLittleEndian (littleEndian width n) = n := by
  induction width generalizing n with
  | zero =>
    have hn : n = 0 := Nat.lt_one_iff.mp h
    rw [littleEndian, ofLittleEndian, hn]
  | succ width ih =>
    have hpow : n < Nat.pow 256 width * 256 := h
    have hdiv : n / 256 < Nat.pow 256 width := Nat.div_lt_of_lt_mul (by omega)
    have hmod : (UInt8.ofNat (n % 256)).toNat = n % 256 := by
      rw [UInt8.toNat_ofNat']
      exact Nat.mod_eq_of_lt (Nat.mod_lt n (by decide))
    rw [littleEndian, ofLittleEndian, ih hdiv, hmod]
    exact Nat.mod_add_div n 256

/-- A small natural number as an eight-byte word. -/
def wordBytes (n : Nat) : List UInt8 :=
  littleEndian 8 n

/-- A sixty-four bit integer as an eight-byte word, negative numbers in two's
complement. -/
def intBytes (n : Int64) : List UInt8 :=
  littleEndian 8 n.toUInt64.toNat

end LispData
