import WasmBoogie.Boogie.Syntax
import WasmBoogie.Lower.Ident

namespace WasmBoogie.Lower

open WasmBoogie.Boogie

/-- The stack, its pointer and the scratch registers, by name. -/
def stackVar : String := "$stack"
def spVar : String := "$sp"
def tmpVar (n : Nat) : String := s!"$tmp{n}"

/-- The procedure that pops into a scratch register. -/
def popToTmp (n : Nat) : String := s!"popToTmp{n}"

/-- The stack pointer as an expression. -/
def sp : Expr := .ident spVar

/-- The value on top of the stack, at the pointer. -/
def stackTop : Expr := .select (.ident stackVar) sp

/-- `$sp := $sp - 1;` -/
def decrementSp : Stmt := .assign sp (.binary .sub sp (.int 1))

/-- The globals that every lowered function may change: the scratch registers and the
stack. -/
def functionModifies : List String :=
  [tmpVar 1, tmpVar 2, tmpVar 3, spVar, stackVar]

/-- The procedure attribute that asks for inlining. -/
def inlineAttr : Attribute := ⟨"inline", some (.int 1)⟩

/-- The stack pointer after a call, from its value before: moved by the results less the
parameters. -/
def stackEffect (base : Expr) (params results : Nat) : Expr :=
  .binary .eq sp (Expr.offset base ((results : Int) - (params : Int)))

/-- The declarations of the prelude, in order.

The WebAssembly operand stack is a global map from positions to reals with a stack pointer,
and three scratch registers hold popped operands. The prelude declares them, the conversions
between reals, booleans and integers, and the procedures that push a value, pop into a scratch
register and drop a value. Functions take their arguments from the stack through helpers that
pop a fixed number of values into their results, the last argument first. An imported
function is a procedure without a body whose contract moves the stack pointer by its results
less its parameters. -/
def prelude : List Decl :=
  [.global ⟨stackVar, .map .int .real⟩, .global ⟨spVar, .int⟩,
   .global ⟨tmpVar 1, .real⟩, .global ⟨tmpVar 2, .real⟩, .global ⟨tmpVar 3, .real⟩,
   .function "bool_to_real" [⟨"b", .bool⟩] .real (some (.ite (.ident "b") Expr.realOne Expr.realZero)),
   .function "real_to_bool" [⟨"r", .real⟩] .bool
     (some (.ite (.binary .eq (.ident "r") Expr.realZero) (.bool false) (.bool true))),
   .function "real_to_int" [⟨"r", .real⟩] .int (some (.call "int" [.ident "r"])),
   .procedure { name := "push", attributes := [inlineAttr], params := [⟨"val", .real⟩],
                modifies := [spVar, stackVar] },
   .implementation { name := "push", params := [⟨"val", .real⟩],
                     body := [.assign stackTop (.ident "val"),
                              .assign sp (.binary .add sp (.int 1))] }] ++
  ([1, 2, 3].flatMap fun n =>
    [.procedure { name := popToTmp n, attributes := [inlineAttr],
                  modifies := [spVar, tmpVar n] },
     .implementation { name := popToTmp n,
                       body := [.assume (.binary .gt sp (.int 0)), decrementSp,
                                .assign (.ident (tmpVar n)) stackTop] }]) ++
  [.procedure { name := "pop", attributes := [inlineAttr], modifies := [spVar] },
   .implementation { name := "pop",
                     body := [.assume (.binary .gt sp (.int 0)), decrementSp] }]

/-- The result variable of an argument-popping helper for argument i, counted from one. -/
def argResult (i : Nat) : Var := ⟨s!"a{i}", .real⟩

/-- The helper that pops `arity` values: it assumes that many are on the stack and pops them
into its results, the last argument first. -/
def popArgsHelper (arity : Nat) : Decl × Decl :=
  let returns := (List.range arity).map fun i => argResult (i + 1)
  let pops := ((List.range arity).reverse).flatMap fun i =>
    [decrementSp, Stmt.assign (.ident s!"a{i + 1}") stackTop]
  (.procedure { name := Ident.popArgsName arity, attributes := [inlineAttr], returns,
                modifies := [spVar] },
   .implementation { name := Ident.popArgsName arity, returns,
                     body := .assume (.binary .ge sp (.int arity)) :: pops })

/-- The body-less procedure of an imported function. -/
def importProcedure (name : String) (params results : Nat) : Decl :=
  .procedure { name, modifies := functionModifies,
               ensures := [stackEffect (.old sp) params results] }

end WasmBoogie.Lower
