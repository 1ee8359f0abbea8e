import WasmBoogie.Instr.Error

namespace WasmBoogie

/-- Why lowering a module failed.

A function body whose scopes repeat a label cannot be lowered, and two functions whose
procedure names coincide cannot both be declared. -/
inductive LowerError where
  /-- A function's body failed the label check; the procedure name says which function. -/
  | parse (function : String) (source : ParseError)
  /-- Two functions, by index, map to the same procedure name. -/
  | duplicateFunctionName (name : String) (first second : Nat)
  deriving Repr, Inhabited

namespace LowerError

/-- The message of an error, with the message of its cause after a colon. -/
def message : LowerError → String
  | .parse f e => s!"failed to parse function `{f}`: " ++ e.message
  | .duplicateFunctionName n a b => s!"functions {a} and {b} both map to procedure name `{n}`"

end LowerError

end WasmBoogie
