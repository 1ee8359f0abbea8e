namespace WasmBoogie

/-- A finite binary64 value: the sign, the biased exponent (0 for zero and the subnormals, at
most 2046) and the 52 fraction bits.

A value is a sign, a biased exponent and 52 fraction bits, as IEEE 754 lays them out; only
finite values are represented, so every value of the type stands for the real number
`± significand * 2 ^ exponent`. The narrow-gap flag records the one place where the neighbour
below is closer than the neighbour above: just above a power of two. -/
structure Binary64 where
  negative : Bool
  biasedExponent : Nat
  fraction : Nat
  biasedExponent_lt : biasedExponent < 2047
  fraction_lt : fraction < Nat.pow 2 52
  deriving DecidableEq

namespace Binary64

/-- The integer that the value is a multiple of a power of two of; the hidden bit is set for
normal values. -/
def significand (x : Binary64) : Nat :=
  if x.biasedExponent = 0 then x.fraction else Nat.pow 2 52 + x.fraction

/-- The power of two that the significand is scaled by. -/
def exponent (x : Binary64) : Int :=
  if x.biasedExponent = 0 then -1074 else (x.biasedExponent : Int) - 1075

/-- The gap to the value below is half the gap to the value above: the significand is a power
of two and the exponent is not the least one. -/
def narrowBelow (x : Binary64) : Bool :=
  x.fraction == 0 && x.biasedExponent > 1

/-- Zero of either sign. -/
def zero (negative : Bool) : Binary64 :=
  ⟨negative, 0, 0, by decide, by decide⟩

/-- One, with the sign bit clear. -/
def one : Binary64 :=
  ⟨false, 1023, 0, by decide, by decide⟩

/-- The value with the other sign. -/
def neg (x : Binary64) : Binary64 :=
  { x with negative := !x.negative }

/-- A value with a non-negative sign bit; zero with the sign bit clear counts. -/
def isSignPositive (x : Binary64) : Bool :=
  !x.negative

/-- The value of a significand and exponent that already fit the format: a significand below
2^53, at or above 2^52 for a normal value, with the exponent between -1074 and 971. Anything
else gives none. -/
def ofSignificand (negative : Bool) (m : Nat) (e : Int) : Option Binary64 :=
  if hm : m < Nat.pow 2 52 then
    if e = -1074 then some ⟨negative, 0, m, by decide, hm⟩ else none
  else if hm2 : m < Nat.pow 2 53 then
    if he : -1074 ≤ e ∧ e ≤ 971 then
      have double : Nat.pow 2 53 = 2 * Nat.pow 2 52 := by decide
      some ⟨negative, (e + 1075).toNat, m - Nat.pow 2 52, by omega, by omega⟩
    else none
  else none

@[simp] theorem neg_neg (x : Binary64) : x.neg.neg = x := by
  cases x; simp [neg]

end Binary64

end WasmBoogie
