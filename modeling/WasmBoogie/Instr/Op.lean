import WasmBoogie.Instr.Basic

namespace WasmBoogie

/-- What a one-operand operator does in the real-number model. -/
inductive UnaryKind where
  | drop | eqz | neg | abs
  /-- A change of number type, the identity on reals. -/
  | conversion
  /-- An operator the model does not cover. -/
  | unsupported
  deriving Repr, DecidableEq, Inhabited

/-- What a two-operand operator does in the real-number model. -/
inductive BinaryKind where
  | add | sub | mul | div | eq | ne | lt | le | gt | ge | min | max
  /-- An operator the model does not cover. -/
  | unsupported
  deriving Repr, DecidableEq, Inhabited

/-- The class of a numeric operator: how many operands it takes and what it does. -/
inductive OpClass where
  | unary (kind : UnaryKind)
  | binary (kind : BinaryKind)
  deriving Repr, DecidableEq, Inhabited

namespace OpClass

/-- The suffixes of conversions start with one of these words. -/
def conversionFamilies : List String :=
  ["wrap_", "extend", "trunc_", "convert_", "demote_", "promote_", "reinterpret_"]

/-- The one-operand class of a suffix, if it has one. -/
def unaryOfSuffix? (suffix : String) : Option UnaryKind :=
  match suffix with
  | "eqz" => some .eqz
  | "neg" => some .neg
  | "abs" => some .abs
  | "clz" | "ctz" | "popcnt" | "sqrt" | "ceil" | "floor" | "nearest" | "trunc" =>
    some .unsupported
  | s => if conversionFamilies.any (s.startsWith ·) then some .conversion else none

/-- The two-operand class of a suffix, if it has one. -/
def binaryOfSuffix? : String → Option BinaryKind
  | "add" => some .add
  | "sub" => some .sub
  | "mul" => some .mul
  | "div" | "div_s" | "div_u" => some .div
  | "eq" => some .eq
  | "ne" => some .ne
  | "lt" | "lt_s" | "lt_u" => some .lt
  | "le" | "le_s" | "le_u" => some .le
  | "gt" | "gt_s" | "gt_u" => some .gt
  | "ge" | "ge_s" | "ge_u" => some .ge
  | "min" => some .min
  | "max" => some .max
  | "rem_s" | "rem_u" | "and" | "or" | "xor" | "shl" | "shr_s" | "shr_u" | "rotl" | "rotr"
  | "copysign" => some .unsupported
  | _ => none

/-- A name split at its first dot. -/
def splitAtDot (name : String) : Option (String × String) :=
  let cs := name.toList
  match cs.findIdx? (· == '.') with
  | some i => some (String.ofList (cs.take i), String.ofList (cs.drop (i + 1)))
  | none => none

/-- The class of an operator name: `drop`, or a number type prefix with a known suffix; a
one-operand reading of the suffix wins over a two-operand one.

An operator name is a number type prefix, a dot and a suffix, or the word `drop`. The suffix
decides the class: one operand (test for zero, negation, absolute value, the conversions, and
the bit-level and rounding operators that the real-number model does not cover), or two
operands (arithmetic, comparisons, minimum and maximum, and the integer-only operators it does
not cover). Names outside these families are no numeric operator. -/
def classify (name : String) : Option OpClass :=
  if name = "drop" then some (.unary .drop)
  else
    match splitAtDot name with
    | none => none
    | some (pre, suffix) =>
      match NumType.ofPrefix? pre with
      | none => none
      | some _ =>
        match unaryOfSuffix? suffix with
        | some k => some (.unary k)
        | none => (binaryOfSuffix? suffix).map .binary

end OpClass

/-- The kind of a name read as a one-operand operator; any other name is unsupported. -/
def UnaryKind.ofName (name : String) : UnaryKind :=
  match OpClass.classify name with
  | some (.unary k) => k
  | _ => .unsupported

/-- The kind of a name read as a two-operand operator; any other name is unsupported. -/
def BinaryKind.ofName (name : String) : BinaryKind :=
  match OpClass.classify name with
  | some (.binary k) => k
  | _ => .unsupported

end WasmBoogie
