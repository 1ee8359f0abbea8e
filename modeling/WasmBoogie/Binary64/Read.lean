import WasmBoogie.Binary64.Basic

namespace WasmBoogie

/-- What decimal text reads as. -/
inductive FloatReading where
  /-- A finite value, rounded to nearest. -/
  | finite (x : Binary64)
  /-- Infinity of the given sign: the word, or a number beyond the largest finite value. -/
  | infinite (negative : Bool)
  /-- The word for NaN. -/
  | nan
  deriving DecidableEq

namespace Binary64

/-- The value of a digit string in base ten; an empty string is zero. -/
def digitsValue (ds : List Char) : Nat :=
  ds.foldl (fun acc c => 10 * acc + (c.toNat - '0'.toNat)) 0

/-- How many decimal digits a positive number has; zero has none. -/
def decimalLength (n : Nat) : Nat :=
  if n = 0 then 0 else (Nat.toDigits 10 n).length

/-- The binary64 value nearest to the positive fraction p / q, ties to an even significand, or
none when it is at least the first power of two past the largest finite value. The binary
order of p / q is the difference l of the orders of p and q, or l - 1. -/
def roundFraction (negative : Bool) (p q : Nat) : Option Binary64 :=
  let l : Int := (p.log2 : Int) - (q.log2 : Int)
  let floorLog : Int :=
    if p * Nat.pow 2 (-l).toNat ≥ q * Nat.pow 2 l.toNat then l else l - 1
  let e0 : Int := max (floorLog - 52) (-1074)
  let num := p * Nat.pow 2 (-e0).toNat
  let den := q * Nat.pow 2 e0.toNat
  let quot := num / den
  let rem := num % den
  let m := if 2 * rem > den ∨ (2 * rem = den ∧ quot % 2 = 1) then quot + 1 else quot
  let (m, e) := if m = Nat.pow 2 53 then (Nat.pow 2 52, e0 + 1) else (m, e0)
  ofSignificand negative m e

/-- The binary64 reading of `± n * 10 ^ exp`. Numbers of more than 310 decimal places before
the point are past the largest finite value; numbers below 10^-330 are below half the least
subnormal and round to zero, so no huge power of ten is ever formed. -/
def ofScaledDecimal (negative : Bool) (n : Nat) (exp : Int) : FloatReading :=
  if n = 0 then .finite (zero negative)
  else
    let order := (decimalLength n : Int) + exp
    if order > 310 then .infinite negative
    else if order < -330 then .finite (zero negative)
    else
      match roundFraction negative (n * Nat.pow 10 exp.toNat) (Nat.pow 10 (-exp).toNat) with
      | some x => .finite x
      | none => .infinite negative

/-- The exponent part after the mark: an optional sign and at least one digit. -/
def readExponent : List Char → Option Int
  | '+' :: ds => if ds ≠ [] ∧ ds.all Char.isDigit then some (digitsValue ds) else none
  | '-' :: ds => if ds ≠ [] ∧ ds.all Char.isDigit then some (-(digitsValue ds : Int)) else none
  | ds => if ds ≠ [] ∧ ds.all Char.isDigit then some (digitsValue ds) else none

/-- The number part of a reading, after the sign: digits, an optional point and fraction, an
optional exponent; at least one digit before or after the point. -/
def readUnsigned (negative : Bool) (cs : List Char) : Option FloatReading :=
  let word := String.ofList (cs.map Char.toLower)
  if word = "inf" ∨ word = "infinity" then some (.infinite negative)
  else if word = "nan" then some .nan
  else
    let whole := cs.takeWhile Char.isDigit
    let afterWhole := cs.dropWhile Char.isDigit
    let (frac, afterFrac) :=
      match afterWhole with
      | '.' :: rest => (rest.takeWhile Char.isDigit, rest.dropWhile Char.isDigit)
      | rest => ([], rest)
    if whole.isEmpty ∧ frac.isEmpty then none
    else
      let exp? : Option Int :=
        match afterFrac with
        | [] => some 0
        | c :: rest => if c = 'e' ∨ c = 'E' then readExponent rest else none
      exp?.map fun exp =>
        ofScaledDecimal negative (digitsValue (whole ++ frac)) (exp - frac.length)

/-- Decimal text as a binary64 reading, or none if the text is not a number.

The accepted text is an optional sign, then either a word for infinity or NaN (any case), or
digits with an optional point and fraction and an optional exponent: `1`, `1.`, `.5`,
`2.5e-3`, `7E+2`. At least one digit stands before or after the point. The number is rounded
to the nearest binary64 value, a tie going to the even significand; a number too large for the
format reads as infinity. The rounding is done in exact natural-number arithmetic. -/
def read? (s : String) : Option FloatReading :=
  match s.toList with
  | '+' :: cs => readUnsigned false cs
  | '-' :: cs => readUnsigned true cs
  | cs => readUnsigned false cs

end Binary64

end WasmBoogie
