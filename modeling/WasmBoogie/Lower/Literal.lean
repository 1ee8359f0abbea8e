import WasmBoogie.Boogie.Syntax
import WasmBoogie.Binary64.Read
import WasmBoogie.Instr.Basic

namespace WasmBoogie.Lower

open WasmBoogie.Boogie

/-- The value of a digit in a base up to sixteen, if the character is one. -/
def digitValue (base : Nat) (c : Char) : Option Nat :=
  let v :=
    if '0' ≤ c ∧ c ≤ '9' then some (c.toNat - '0'.toNat)
    else if 'a' ≤ c ∧ c ≤ 'f' then some (c.toNat - 'a'.toNat + 10)
    else if 'A' ≤ c ∧ c ≤ 'F' then some (c.toNat - 'A'.toNat + 10)
    else none
  v.filter (· < base)

/-- An unsigned 128-bit number in a base: an optional plus sign and at least one digit, with a
value below 2^128. -/
def readU128 (base : Nat) (s : String) : Option Nat :=
  let ds := match s.toList with
    | '+' :: rest => rest
    | cs => cs
  if ds.isEmpty then none
  else do
    let v ← ds.foldlM (fun acc c => (digitValue base c).map (acc * base + ·)) 0
    if v < Nat.pow 2 128 then some v else none

/-- The exact decimal real of an integer, with a minus sign unless it is zero: `-16.0`. -/
def integerReal (negative : Bool) (magnitude : Nat) : Expr :=
  .decimal ((if negative && magnitude != 0 then "-" else "") ++ toString magnitude ++ ".0")

/-- The real value of a literal of a number type, or none if it has none.

Integer literals stay exact: the value is written as a decimal real of any size, so no 64-bit
word is rounded. A literal may have underscores between digits, a sign, and a `0x` prefix for
hexadecimal digits. The magnitude must fit in 128 bits. Decimal literals of the float types are
read as binary64 values, rounded to nearest; infinities, NaNs and hexadecimal floats have no
real value. -/
def literalValue (ty : NumType) (literal : String) : Option Expr :=
  let cleaned := literal.toList.filter (· != '_')
  let (negative, digits) := match cleaned with
    | '-' :: rest => (true, rest)
    | '+' :: rest => (false, rest)
    | cs => (false, cs)
  match digits with
  | '0' :: 'x' :: hex =>
    if ty.isFloat && hex.any (fun c => c == '.' || c == 'p' || c == 'P') then none
    else (readU128 16 (String.ofList hex)).map (integerReal negative)
  | _ =>
    if !ty.isFloat then (readU128 10 (String.ofList digits)).map (integerReal negative)
    else
      match Binary64.read? (String.ofList digits) with
      | some (.finite x) => some (.real (if negative then x.neg else x))
      | _ => none

end WasmBoogie.Lower
