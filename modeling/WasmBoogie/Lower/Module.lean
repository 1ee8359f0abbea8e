import WasmBoogie.Lower.Function
import WasmBoogie.Instr.Labels
import WasmBoogie.Boogie.Print
import WasmBoogie.Boogie.Layout

namespace WasmBoogie

open WasmBoogie.Boogie

/-- A lowered module: the program and the approximations made, in order. -/
structure LoweredModule where
  program : Program
  diagnostics : List Diagnostic

namespace LoweredModule

/-- The program's text, indented if asked. -/
def text (t : LoweredModule) (pretty : Bool) : String :=
  let flat := t.program.render
  if pretty then indent flat else flat

end LoweredModule

namespace Lower

/-- Lowers the functions in order, each after its label check if that is on. -/
def lowerFunctions (options : LowerOptions) (callees : CalleeTable) :
    List Function → State → Except LowerError (List Decl × State)
  | [], s => .ok ([], s)
  | f :: rest, s => do
    let name := Ident.procedureName f.name f.index
    if options.verifyLabels then
      match verifyLabels f.body with
      | .error e => throw (.parse name e)
      | .ok () => pure ()
    let ((proc, impl), s) := (lowerFunction options callees name f).run s
    let (decls, s) ← lowerFunctions options callees rest s
    pure (.procedure proc :: .implementation impl :: decls, s)

/-- Inserts a number into an increasing list of distinct numbers. -/
def insertSorted (n : Nat) : List Nat → List Nat
  | [] => [n]
  | m :: rest => if n < m then n :: m :: rest else if n = m then m :: rest else m :: insertSorted n rest

end Lower

/-- Lowers a module to a program.

The procedure names of all functions are fixed first, and a clash stops the lowering. With the
label check on, the first function whose scopes repeat a label stops it too. Otherwise every
function is lowered in order, and the program is assembled: a header comment, the contract name
if there is one, the prelude, the argument-popping helpers in use by increasing arity, a
procedure for every import, and the procedure and implementation of every function. -/
def lowerModule (m : Module) (options : LowerOptions) : Except LowerError LoweredModule := do
  let callees ← CalleeTable.build m
  let (functions, s) ← Lower.lowerFunctions options callees m.functions {}
  let arities := s.helpers.foldl (fun acc n => Lower.insertSorted n acc) []
  let header : List Decl := .comment "generated by wasm2bpl" ::
    (match options.contractName with
     | some c => [.comment ("contract: " ++ c)]
     | none => [])
  let helpers := arities.flatMap fun n =>
    let (p, i) := Lower.popArgsHelper n
    [p, i]
  let imports := m.imports.map fun i => Lower.importProcedure (Ident.importName i) i.paramCount i.resultCount
  pure {
    program := ⟨header ++ Lower.prelude ++ helpers ++ imports ++ functions⟩
    diagnostics := s.diagnostics.toList }

end WasmBoogie
