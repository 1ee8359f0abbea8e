import WasmBoogie.Binary64.Basic

namespace WasmBoogie

/-- A non-negative decimal number `digits * 10 ^ exp`. -/
structure Decimal where
  digits : Nat
  exp : Int
  deriving Repr, DecidableEq

namespace Decimal

/-- A decimal without trailing zeros in its digits. -/
def normalize (d : Decimal) : Decimal :=
  go d.digits d.exp d.digits
where
  go (digits : Nat) (exp : Int) : Nat → Decimal
    | 0 => ⟨digits, exp⟩
    | fuel + 1 =>
      if digits ≠ 0 ∧ digits % 10 = 0 then go (digits / 10) (exp + 1) fuel else ⟨digits, exp⟩

/-- The digits of a decimal written out in positional notation, never with an exponent: zeros
are appended for a positive exponent, and a point is placed, with a leading `0.` and zeros as
needed, for a negative one. -/
def positional (d : Decimal) : String :=
  let ds := Nat.toDigits 10 d.digits
  if d.exp ≥ 0 then
    String.ofList (ds ++ List.replicate d.exp.toNat '0')
  else
    let places := (-d.exp).toNat
    if ds.length > places then
      String.ofList (ds.take (ds.length - places) ++ '.' :: ds.drop (ds.length - places))
    else
      String.ofList ('0' :: '.' :: List.replicate (places - ds.length) '0' ++ ds)

end Decimal

namespace Binary64

/-- How many decimal digits the integer part of `m * 2 ^ e * 10 ^ 400` has, less 400: the least
k with `m * 2 ^ e < 10 ^ k`, for a positive value that is at least 10^-400. -/
def decimalOrder (m : Nat) (e : Int) : Int :=
  let scaled := m * Nat.pow 2 e.toNat * Nat.pow 10 400 / Nat.pow 2 (-e).toNat
  ((Nat.toDigits 10 scaled).length : Int) - 400

/-- The neighbours of the value on the grid of step 10^t that lie in its rounding interval,
nearer one chosen and a tie going up; none if neither lies in it. Every quantity is scaled by
4 * 2^(-e) * 10^(-t), which makes it a natural number. -/
def gridPick (x : Binary64) (t : Int) : Option Decimal :=
  let m := x.significand
  let e := x.exponent
  let unit := Nat.pow 2 e.toNat * Nat.pow 10 (-t).toNat
  let value := 4 * m * unit
  let high := (4 * m + 2) * unit
  let low := (if x.narrowBelow then 4 * m - 1 else 4 * m - 2) * unit
  let step := 4 * Nat.pow 2 (-e).toNat * Nat.pow 10 t.toNat
  let inclusive := m % 2 == 0
  let inside (y : Nat) : Bool :=
    if inclusive then low ≤ y && y ≤ high else low < y && y < high
  let below := value / step
  if value % step = 0 then some ⟨below, t⟩
  else
    let above := below + 1
    match inside (below * step), inside (above * step) with
    | true, true =>
      if value - below * step < above * step - value then some ⟨below, t⟩ else some ⟨above, t⟩
    | true, false => some ⟨below, t⟩
    | false, true => some ⟨above, t⟩
    | false, false => none

/-- The first grid, from step 10^t down through fuel more steps, that has a neighbour of the
value inside its interval. Seventeen significant digits always suffice; past the fuel the
exact value itself is given. -/
def searchGrids (x : Binary64) (t : Int) : Nat → Decimal
  | 0 => ⟨x.significand * Nat.pow 2 x.exponent.toNat * Nat.pow 5 (-x.exponent).toNat,
      if x.exponent < 0 then x.exponent else 0⟩
  | fuel + 1 =>
    match gridPick x t with
    | some d => d
    | none => searchGrids x (t - 1) fuel

/-- The shortest decimal that reads back as the magnitude of the value, nearest among the
shortest; zero for zero.

The reals that round to a value form an interval around it, from halfway to the neighbour
below to halfway to the neighbour above, both ends included exactly when the significand is
even. The chosen decimal has the fewest significant digits of all decimals in that interval;
among those of that length the one nearest to the value, and of two equally near the larger.
It is found by trying the grids of one, two, ... significant digits: on each grid only the two
neighbours of the value can be in the interval, and all comparisons are exact products of
natural numbers. -/
def shortest (x : Binary64) : Decimal :=
  let m := x.significand
  if m = 0 then ⟨0, 0⟩
  else
    let k := decimalOrder m x.exponent
    (searchGrids x (k - 1) 20).normalize

end Binary64

end WasmBoogie
