import Mathlib.Tactic.Linarith

/-!
# Doubles

A proto `double` is kept as its IEEE 754 binary64 encoding. The server never computes with bids
or scores; it only compares them (`>` in the ranking, `> 0` for the winner), so this module gives
C++'s `<` on doubles: it is false as soon as one side is NaN, `-0` and `+0` are equal, and every
other pair is ordered as the numbers it encodes. On the encoding this is the order of `rank`,
the magnitude with the sign applied.
-/

namespace Aviary

/-- An IEEE 754 binary64 value, as its 64-bit encoding. -/
structure Double where
  bits : BitVec 64
  deriving DecidableEq, Repr

namespace Double

/-- `+0.0`, the proto default. -/
def zero : Double := ⟨0#64⟩

/-- The sign bit. -/
def negative (x : Double) : Bool := decide (2 ^ 63 ≤ x.bits.toNat)

/-- The encoding without its sign bit. -/
def magnitude (x : Double) : Nat := x.bits.toNat % 2 ^ 63

/-- All exponent bits set and a nonzero mantissa. -/
def isNaN (x : Double) : Bool := decide (0x7FF0000000000000 < x.magnitude)

/-- The place of a non-NaN value on the number line, `-0` and `+0` both at `0`. -/
def rank (x : Double) : Int := if x.negative then -(x.magnitude : Int) else x.magnitude

/-- C++ `x < y` on doubles. -/
def lt (x y : Double) : Bool := !x.isNaN && !y.isNaN && decide (x.rank < y.rank)

/-- C++ `x == y` on doubles. -/
def eq (x y : Double) : Bool := !x.isNaN && !y.isNaN && decide (x.rank = y.rank)

/-- `1.0`. -/
def one : Double := ⟨0x3FF0000000000000#64⟩

/-- `2.0`. -/
def two : Double := ⟨0x4000000000000000#64⟩

/-- The quiet NaN, which `JsonStringToMessage` makes of the JSON string `"NaN"`. -/
def nan : Double := ⟨0x7FF8000000000000#64⟩

/-- The number of binary digits of a number below `2 ^ 64`. -/
def bitLength (n : Nat) : Nat :=
  (List.range 64).foldl (fun length i => if 2 ^ i ≤ n then i + 1 else length) 0

/-- The double of a natural number below `2 ^ 53`, which holds it exactly: the exponent of its
leading bit, and the bits after that bit as the top of the mantissa. -/
def ofNat (n : Nat) : Double :=
  if n = 0 then zero
  else ⟨BitVec.ofNat 64 ((1022 + bitLength n) * 2 ^ 52 + (n - 2 ^ (bitLength n - 1)) * 2 ^ (53 - bitLength n))⟩

example : ofNat 1 = one ∧ ofNat 2 = two := by decide

theorem lt_eq_true {x y : Double} :
    lt x y = true ↔ x.isNaN = false ∧ y.isNaN = false ∧ x.rank < y.rank := by
  simp [lt, and_assoc]

@[simp] theorem lt_nan_left {x y : Double} (h : x.isNaN = true) : lt x y = false := by
  simp [lt, h]

@[simp] theorem lt_nan_right {x y : Double} (h : y.isNaN = true) : lt x y = false := by
  simp [lt, h]

theorem lt_irrefl (x : Double) : lt x x = false := by
  simp [lt]

theorem lt_asymm {x y : Double} (h : lt x y = true) : lt y x = false := by
  rw [lt_eq_true] at h
  simp only [lt, h.1, h.2.1, Bool.not_false, Bool.true_and, decide_eq_false_iff_not, not_lt]
  exact h.2.2.le

theorem lt_trans {x y z : Double} (hxy : lt x y = true) (hyz : lt y z = true) :
    lt x z = true := by
  rw [lt_eq_true] at *
  exact ⟨hxy.1, hyz.2.1, hxy.2.2.trans hyz.2.2⟩

/-- Between values that are not NaN, `<` is the order of the ranks. -/
theorem lt_eq_false_of_not_nan {x y : Double} (hx : x.isNaN = false) (hy : y.isNaN = false) :
    lt x y = false ↔ y.rank ≤ x.rank := by
  simp [lt, hx, hy]

/-- Equal values are ordered alike against every value. -/
theorem lt_congr_of_eq {x y : Double} (h : eq x y = true) (z : Double) :
    lt x z = lt y z ∧ lt z x = lt z y := by
  simp only [eq, Bool.and_eq_true, Bool.not_eq_true', decide_eq_true_eq] at h
  simp [lt, h.1.1, h.1.2, h.2]

theorem lt_eq_false_of_eq {x y : Double} (h : eq x y = true) : lt x y = false := by
  rw [(lt_congr_of_eq h y).1, lt_irrefl]

/-- If `x` is above `z` and `y` is not, then `y` is not above `x`. -/
theorem lt_eq_false_of_lt_of_lt_eq_false {x y z : Double} (hzx : lt z x = true)
    (hzy : lt z y = false) : lt x y = false := by
  rw [lt_eq_true] at hzx
  cases hy : y.isNaN
  · rw [lt_eq_false_of_not_nan hzx.2.1 hy]
    rw [lt_eq_false_of_not_nan hzx.1 hy] at hzy
    exact (hzy.trans hzx.2.2.le)
  · exact lt_nan_right hy

end Double

end Aviary
