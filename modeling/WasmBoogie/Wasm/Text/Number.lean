namespace WasmBoogie.Wasm.Text

/-- The value of a decimal digit. -/
def decDigit (c : Char) : Option Nat :=
  if '0' ≤ c ∧ c ≤ '9' then some (c.toNat - '0'.toNat) else none

/-- The value of a hexadecimal digit. -/
def hexDigit (c : Char) : Option Nat :=
  if '0' ≤ c ∧ c ≤ '9' then some (c.toNat - '0'.toNat)
  else if 'a' ≤ c ∧ c ≤ 'f' then some (c.toNat - 'a'.toNat + 10)
  else if 'A' ≤ c ∧ c ≤ 'F' then some (c.toNat - 'A'.toNat + 10)
  else none

/-- Continues a run of digits: the value so far, the digit count so far, and the rest after the
run. An underscore must be followed by a digit. -/
def digitRun (base : Nat) (digit : Char → Option Nat) (acc count : Nat) :
    List Char → Option (Nat × Nat × List Char)
  | [] => some (acc, count, [])
  | '_' :: c :: rest =>
    match digit c with
    | some d => digitRun base digit (acc * base + d) (count + 1) rest
    | none => none
  | ['_'] => none
  | c :: rest =>
    match digit c with
    | some d => digitRun base digit (acc * base + d) (count + 1) rest
    | none => some (acc, count, c :: rest)

/-- A run of at least one digit: its value, its length and the rest. -/
def digitsOf (base : Nat) (digit : Char → Option Nat) : List Char → Option (Nat × Nat × List Char)
  | c :: rest =>
    match digit c with
    | some d => digitRun base digit d 1 rest
    | none => none
  | [] => none

/-- The magnitude of a finite float literal: `mantissa` times a power of ten or of two. -/
structure Magnitude where
  mantissa : Nat
  /-- Whether the power is of two (a hexadecimal literal) rather than of ten. -/
  binary : Bool
  exponent : Int
  /-- The exponent as written after `e` or `p`, zero when there is none. -/
  written : Int
  deriving Repr, DecidableEq, Inhabited

/-- The value a float literal denotes. -/
inductive FloatValue where
  | inf
  | nan
  | nanPayload (payload : Nat)
  | finite (m : Magnitude)
  deriving Repr, DecidableEq, Inhabited

/-- A number literal: an integer with its sign and magnitude, or a float. -/
inductive NumberLit where
  | int (negative : Bool) (hex : Bool) (magnitude : Nat)
  | float (negative : Bool) (value : FloatValue)
  deriving Repr, DecidableEq, Inhabited

/-- Reads an optional exponent sign and the exponent's decimal digits. -/
def exponentOf : List Char → Option Int
  | '-' :: rest => match digitsOf 10 decDigit rest with
    | some (v, _, []) => some (-(v : Int))
    | _ => none
  | '+' :: rest => match digitsOf 10 decDigit rest with
    | some (v, _, []) => some v
    | _ => none
  | rest => match digitsOf 10 decDigit rest with
    | some (v, _, []) => some v
    | _ => none

/-- Reads an unsigned number: `inf`, `nan`, `nan:0x` and a payload, or digits with an optional
fraction and exponent. -/
def unsignedOf (negative : Bool) (cs : List Char) : Option NumberLit :=
  if cs = "inf".toList then some (.float negative .inf)
  else if cs = "nan".toList then some (.float negative .nan)
  else if "nan:0x".toList.isPrefixOf cs then
    match digitsOf 16 hexDigit (cs.drop 6) with
    | some (v, _, []) => some (.float negative (.nanPayload v))
    | _ => none
  else
    let hex := "0x".toList.isPrefixOf cs
    let base := if hex then 16 else 10
    let digit := if hex then hexDigit else decDigit
    let expMarks := if hex then ['p', 'P'] else ['e', 'E']
    match digitsOf base digit (if hex then cs.drop 2 else cs) with
    | none => none
    | some (whole, _, []) => some (.int negative hex whole)
    | some (whole, _, rest) =>
      let (mantissa, fracDigits, rest) := match rest with
        | '.' :: more => match digitsOf base digit more with
          | some (f, n, after) => (whole * Nat.pow base n + f, n, after)
          | none => (whole, 0, more)
        | _ => (whole, 0, rest)
      let scale : Int := if hex then 4 * fracDigits else fracDigits
      let finish (e : Int) : NumberLit :=
        .float negative (.finite ⟨mantissa, hex, e - scale, e⟩)
      match rest with
      | [] => some (finish 0)
      | m :: more =>
        if expMarks.contains m then (exponentOf more).map finish else none

/-- Reads a number literal, or gives `none` for a word that is not one.

An integer is an optional sign and decimal digits, or `0x` and hexadecimal digits; single
underscores may stand between digits. A float adds a fraction after a point and an exponent
(`e` for decimal, `p` for hexadecimal, whose exponent is decimal), or is `inf`, `nan` or
`nan:0x` with a payload. An integer literal also stands for a float. -/
def NumberLit.ofString? (s : String) : Option NumberLit :=
  match s.toList with
  | '+' :: rest => unsignedOf false rest
  | '-' :: rest => unsignedOf true rest
  | cs => unsignedOf false cs

/-- The number of binary digits of a natural number. -/
def bitLength (n : Nat) : Nat := Nat.log2 n + 1

/-- The number of decimal digits of a natural number. -/
def decimalLength (n : Nat) : Nat := (Nat.repr n).length

/-- Whether a nonzero finite magnitude is at least a threshold `t`, a positive number below
`2 ^ 1100`. Exponents far outside that range are decided without computing the power. -/
def Magnitude.atLeast (m : Magnitude) (t : Nat) : Bool :=
  if m.binary then
    if (bitLength m.mantissa : Int) + m.exponent > 1101 then true
    else if (bitLength m.mantissa : Int) + m.exponent < -2 then false
    else if m.exponent ≥ 0 then m.mantissa * Nat.pow 2 m.exponent.toNat ≥ t
    else m.mantissa ≥ t * Nat.pow 2 (-m.exponent).toNat
  else
    if (decimalLength m.mantissa : Int) + m.exponent > 333 then true
    else if (decimalLength m.mantissa : Int) + m.exponent < -2 then false
    else if m.exponent ≥ 0 then m.mantissa * Nat.pow 10 m.exponent.toNat ≥ t
    else m.mantissa ≥ t * Nat.pow 10 (-m.exponent).toNat

/-- A binary floating-point format: significand bits (the hidden bit included) and the largest
exponent. -/
structure FloatFormat where
  precision : Nat
  maxExponent : Nat

/-- Single precision. -/
def FloatFormat.single : FloatFormat := ⟨24, 127⟩

/-- Double precision. -/
def FloatFormat.double : FloatFormat := ⟨53, 1023⟩

/-- The least magnitude that rounds to infinity: halfway between the largest finite value and
the next power of two. -/
def FloatFormat.overflowBound (f : FloatFormat) : Nat :=
  Nat.pow 2 (f.maxExponent + 1) - Nat.pow 2 (f.maxExponent - f.precision)

/-- Whether an integer is a signed 32-bit value. -/
def isInt32 (n : Int) : Bool := -Int.pow 2 31 ≤ n && n < Int.pow 2 31

/-- Whether the exponents of a nonzero hexadecimal literal are signed 32-bit values: the one
written, and that of its leading one bit, the power of two that the literal's value lies
between and the next. A zero or decimal literal has no such limit. -/
def Magnitude.exponentsFit (m : Magnitude) : Bool :=
  !m.binary || m.mantissa == 0 ||
    (isInt32 m.written && isInt32 (m.exponent + ((bitLength m.mantissa : Int) - 1)))

/-- Whether a float value is a constant of the format: finite values must not round to infinity,
nor have exponents out of range, and a NaN payload must be nonzero and fit the stored
significand.

A float constant must not round to infinity: rounding to nearest with ties to even, a
magnitude rounds to infinity exactly when it is at least the midpoint between the largest
finite value and the next power of two. A NaN payload must be nonzero and fit the significand. -/
def FloatValue.fits (f : FloatFormat) : FloatValue → Bool
  | .inf | .nan => true
  | .nanPayload p => 0 < p && p < Nat.pow 2 (f.precision - 1)
  | .finite m => m.exponentsFit && (m.mantissa == 0 || !m.atLeast f.overflowBound)

/-- The float value a number literal stands for. -/
def NumberLit.floatValue : NumberLit → FloatValue
  | .int _ hex n => .finite ⟨n, hex, 0, 0⟩
  | .float _ v => v

/-- Whether an integer literal is a constant of a width: a negative one down to `-2 ^ (w - 1)`,
any other below `2 ^ w`. -/
def NumberLit.fitsInt (w : Nat) : NumberLit → Bool
  | .int true _ n => n ≤ Nat.pow 2 (w - 1)
  | .int false _ n => n < Nat.pow 2 w
  | .float _ _ => false

/-- The value of an integer literal as an unsigned integer of a width: one below `2 ^ w`, with
no sign or a plus sign. A minus sign is out of range, even on zero. -/
def NumberLit.unsigned? (w : Nat) : NumberLit → Option Nat
  | .int false _ n => if n < Nat.pow 2 w then some n else none
  | _ => none

end WasmBoogie.Wasm.Text
