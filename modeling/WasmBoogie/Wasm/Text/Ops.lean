import WasmBoogie.Wasm.Instr

namespace WasmBoogie.Wasm

/-- The number types by name. -/
def numType? : String → Option ValType
  | "i32" => some .i32
  | "i64" => some .i64
  | "f32" => some .f32
  | "f64" => some .f64
  | _ => none

/-- Whether a type is an integer type. -/
def ValType.isInt (t : ValType) : Bool :=
  t == .i32 || t == .i64

/-- Whether a type is a float type. -/
def ValType.isFloat (t : ValType) : Bool :=
  t == .f32 || t == .f64

/-- Integer operations of one operand. -/
def intUnaryOps : List String := ["clz", "ctz", "popcnt", "extend8_s", "extend16_s"]

/-- Integer operations of two operands. -/
def intBinaryOps : List String :=
  ["div_s", "div_u", "rem_s", "rem_u", "and", "or", "xor", "shl", "shr_s", "shr_u", "rotl",
    "rotr"]

/-- Integer comparisons. -/
def intCompareOps : List String :=
  ["eq", "ne", "lt_s", "lt_u", "gt_s", "gt_u", "le_s", "le_u", "ge_s", "ge_u"]

/-- Float operations of one operand. -/
def floatUnaryOps : List String := ["abs", "neg", "ceil", "floor", "trunc", "nearest", "sqrt"]

/-- Float operations of two operands. -/
def floatBinaryOps : List String := ["add", "sub", "mul", "div", "min", "max", "copysign"]

/-- Float comparisons. -/
def floatCompareOps : List String := ["eq", "ne", "lt", "gt", "le", "ge"]

/-- The operand type of a conversion named `op_src` or `op_src_s`/`op_src_u`, with whether it
carries a sign suffix. -/
def conversionParts (name : String) : Option (String × ValType × Bool) :=
  let cs := name.toList
  let (body, signed) :=
    if cs.length > 3 && (cs.drop (cs.length - 2) == ['_', 's'] || cs.drop (cs.length - 2) == ['_', 'u'])
    then (cs.take (cs.length - 2), true) else (cs, false)
  if body.length < 5 then none
  else
    let src := String.ofList (body.drop (body.length - 3))
    let op := String.ofList (body.take (body.length - 4))
    if body[body.length - 4]? != some '_' then none
    else (numType? src).map fun t => (op, t, signed)

/-- The conversion a name stands for at a result type. -/
def conversion? (t : ValType) (name : String) : Option Op := do
  let (op, src, signed) ← conversionParts name
  let ok : Bool := match op with
    | "wrap" => t == .i32 && src == .i64 && !signed
    | "extend" => t == .i64 && src == .i32 && signed
    | "trunc" | "trunc_sat" => t.isInt && src.isFloat && signed
    | "convert" => t.isFloat && src.isInt && signed
    | "demote" => t == .f32 && src == .f64 && !signed
    | "promote" => t == .f64 && src == .f32 && !signed
    | "reinterpret" =>
      !signed && ((t == .i32 && src == .f32) || (t == .i64 && src == .f64) ||
        (t == .f32 && src == .i32) || (t == .f64 && src == .i64))
    | _ => false
  if ok then some (.numeric [src] [t]) else none

/-- The numeric instruction a name stands for.

A numeric instruction is named `t.op` for its value type `t`. Integer types have the bit
counts, arithmetic, bitwise, shift and rotate operations, `eqz`, comparisons and the sign
extensions; float types have the rounding and sign operations, `sqrt`, arithmetic, `min`, `max`,
`copysign` and comparisons. A conversion is named for its result type, its operation and its
operand type, with `_s` or `_u` where the sign of an integer matters. A memory access is named
for its value type and the width it reads or writes, and its natural alignment is that width. -/
def numericOp? (name : String) : Option Op :=
  match name.splitOn "." with
  | [ty, op] => do
    let t ← numType? ty
    if t.isInt then
      if op == "add" || op == "sub" || op == "mul" then some (.intArith t)
      else if intUnaryOps.contains op || (t == .i64 && op == "extend32_s") then
        some (.numeric [t] [t])
      else if op == "eqz" then some (.numeric [t] [.i32])
      else if intBinaryOps.contains op then some (.numeric [t, t] [t])
      else if intCompareOps.contains op then some (.numeric [t, t] [.i32])
      else conversion? t op
    else
      if floatUnaryOps.contains op then some (.numeric [t] [t])
      else if floatBinaryOps.contains op then some (.numeric [t, t] [t])
      else if floatCompareOps.contains op then some (.numeric [t, t] [.i32])
      else conversion? t op
  | _ => none

/-- The value type and natural alignment, as a power of two, of a load by name. -/
def loadOp? : String → Option (ValType × Nat)
  | "i32.load" => some (.i32, 2)
  | "i64.load" => some (.i64, 3)
  | "f32.load" => some (.f32, 2)
  | "f64.load" => some (.f64, 3)
  | "i32.load8_s" | "i32.load8_u" => some (.i32, 0)
  | "i32.load16_s" | "i32.load16_u" => some (.i32, 1)
  | "i64.load8_s" | "i64.load8_u" => some (.i64, 0)
  | "i64.load16_s" | "i64.load16_u" => some (.i64, 1)
  | "i64.load32_s" | "i64.load32_u" => some (.i64, 2)
  | _ => none

/-- The value type and natural alignment, as a power of two, of a store by name. -/
def storeOp? : String → Option (ValType × Nat)
  | "i32.store" => some (.i32, 2)
  | "i64.store" => some (.i64, 3)
  | "f32.store" => some (.f32, 2)
  | "f64.store" => some (.f64, 3)
  | "i32.store8" => some (.i32, 0)
  | "i32.store16" => some (.i32, 1)
  | "i64.store8" => some (.i64, 0)
  | "i64.store16" => some (.i64, 1)
  | "i64.store32" => some (.i64, 2)
  | _ => none

end WasmBoogie.Wasm
