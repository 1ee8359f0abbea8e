import WasmBoogie.Instr.Basic

namespace WasmBoogie

/-- A scope label as the outline shows it: `$label`, or `-` for none. -/
def labelText : Option String → String
  | some l => "$" ++ l
  | none => "-"

namespace Instr

/-- The outline line of an instruction, without indentation. -/
def headline : Instr → String
  | .const ty lit => "Const(" ++ ty.name ++ ", " ++ lit ++ ")"
  | .localGet s => s!"LocalGet({s})"
  | .localSet s _ => s!"LocalSet({s})"
  | .localTee s _ => s!"LocalTee({s})"
  | .call t _ => "Call(" ++ t ++ ")"
  | .unary op _ => "UnaryOp(" ++ op ++ ")"
  | .binary op _ _ => "BinaryOp(" ++ op ++ ")"
  | .select _ => "Select"
  | .block l _ => "Block(" ++ labelText l ++ ")"
  | .loop l _ => "Loop(" ++ labelText l ++ ")"
  | .structural h _ => "Structural(" ++ h.name ++ ")"
  | .ite l _ _ _ => "If(" ++ labelText l ++ ")"
  | .br t _ => "Br(" ++ t.render ++ ")"
  | .brIf t _ => "BrIf(" ++ t.render ++ ")"
  | .brTable _ ts d =>
    "BrTable([" ++ ", ".intercalate (ts.map LabelRef.render) ++ "], default " ++ d.render ++ ")"
  | .ret _ => "Return"
  | .nop => "Nop"
  | .unreachable => "Unreachable"
  | .raw n => "Raw(" ++ n ++ ")"

/-- Two spaces per level. -/
def pad (depth : Nat) : String :=
  String.join (List.replicate depth "  ")

mutual

/-- The outline of an instruction at a depth, each line ending in a line feed. -/
def outline (depth : Nat) : Instr → String
  | i@(.localSet _ v) | i@(.localTee _ v) | i@(.unary _ v) =>
    pad depth ++ i.headline ++ "\n" ++ outlineOpt (depth + 1) v
  | i@(.binary _ l r) =>
    pad depth ++ i.headline ++ "\n" ++ outlineOpt (depth + 1) l ++ outlineOpt (depth + 1) r
  | i@(.call _ cs) | i@(.select cs) | i@(.block _ cs) | i@(.loop _ cs) | i@(.structural _ cs)
  | i@(.br _ cs) | i@(.brIf _ cs) | i@(.brTable cs _ _) | i@(.ret cs) =>
    pad depth ++ i.headline ++ "\n" ++ outlineList (depth + 1) cs
  | i@(.ite _ cond thenBody elseBody) =>
    pad depth ++ i.headline ++ "\n" ++ outlineList (depth + 1) cond ++
      pad depth ++ "  Then\n" ++ outlineList (depth + 2) thenBody ++
      (match elseBody with
       | some e => pad depth ++ "  Else\n" ++ outlineList (depth + 2) e
       | none => "")
  | i => pad depth ++ i.headline ++ "\n"

/-- The outline of an optional child. -/
def outlineOpt (depth : Nat) : Option Instr → String
  | some i => outline depth i
  | none => ""

/-- The outlines of instructions in order. -/
def outlineList (depth : Nat) : List Instr → String
  | [] => ""
  | i :: rest => outline depth i ++ outlineList depth rest

end

end Instr

namespace Module

/-- The outline of a module: a line per import, then per function its header line and the
outline of its body.

Each instruction is one line, indented two spaces per level, followed by its children one
level deeper. The arms of an `if` are introduced by `Then` and `Else` lines and indented two
levels. -/
def dump (m : Module) : String :=
  String.join (m.imports.map fun i =>
      s!"Import #{i.index} " ++ i.module ++ "." ++ i.field ++
        s!" (params: {i.paramCount}, results: {i.resultCount})\n") ++
    String.join (m.functions.map fun f =>
      "Function " ++ f.displayName ++
        s!" (params: {f.paramCount}, locals: {f.localCount}, results: {f.resultCount})\n" ++
        Instr.outlineList 1 f.body)

end Module

end WasmBoogie
