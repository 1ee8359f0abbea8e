import WasmBoogie.Binary64.Basic

namespace WasmBoogie.Boogie

/-- The types of variables and functions. -/
inductive Ty where
  | int
  | real
  | bool
  /-- Maps from the first type to the second. -/
  | map (dom range : Ty)
  deriving Repr, DecidableEq, Inhabited

/-- The binary operators of expressions. -/
inductive BinOp where
  | add | sub | mul | div
  | eq | neq | lt | le | gt | ge
  | and | or
  deriving Repr, DecidableEq, Inhabited

/-- Expressions. -/
inductive Expr where
  | ident (name : String)
  | int (value : Int)
  /-- A real literal that is a binary64 value. -/
  | real (value : Binary64)
  /-- A real literal given by its exact decimal text, such as `-16.0`. -/
  | decimal (text : String)
  | bool (value : Bool)
  | neg (operand : Expr)
  | binary (op : BinOp) (lhs rhs : Expr)
  | call (fn : String) (args : List Expr)
  | select (map index : Expr)
  | ite (cond thenValue elseValue : Expr)
  | old (operand : Expr)
  deriving Inhabited

/-- Statements of a procedure body. -/
inductive Stmt where
  | assign (lhs rhs : Expr)
  /-- A procedure call; the outputs are assigned the procedure's results. -/
  | call (callee : String) (args : List Expr) (outs : List String)
  | havoc (names : List String)
  | assume (cond : Expr)
  | assert (cond : Expr)
  | goto (labels : List String)
  | label (name : String)
  | ite (cond : Expr) (thenBranch : List Stmt) (elseBranch : Option (List Stmt))
  | comment (text : String)
  deriving Inhabited

/-- A typed name: a parameter, result, local or global variable. -/
structure Var where
  name : String
  ty : Ty
  deriving Repr, DecidableEq, Inhabited

/-- A procedure attribute `{:key value}`. -/
structure Attribute where
  key : String
  value : Option Expr

/-- A procedure declaration: its signature and contract. -/
structure Procedure where
  name : String
  attributes : List Attribute := []
  params : List Var := []
  returns : List Var := []
  modifies : List String := []
  ensures : List Expr := []

/-- A procedure body with its local variables. -/
structure Implementation where
  name : String
  params : List Var := []
  returns : List Var := []
  locals : List Var := []
  body : List Stmt := []

/-- Top-level declarations. -/
inductive Decl where
  | comment (text : String)
  | global (var : Var)
  | function (name : String) (params : List Var) (ret : Ty) (body : Option Expr)
  | procedure (proc : Procedure)
  | implementation (impl : Implementation)

/-- A program is its declarations in order.

Only the part of the language the lowering writes is here: scalar and map types, arithmetic
and comparison expressions, the statements of an unstructured procedure body with labels and
gotos (plus a structured conditional), and the declarations of a program. Real literals come in
two forms: a binary64 value, written with its shortest decimal digits, and an exact decimal
text, used for integer literals of any size. -/
structure Program where
  decls : List Decl := []

namespace Expr

/-- The real literal 0.0. -/
def realZero : Expr := .real (Binary64.zero false)

/-- The real literal 1.0. -/
def realOne : Expr := .real Binary64.one

/-- A base moved by a constant: the base itself for 0, else an addition or subtraction of the
magnitude. -/
def offset (base : Expr) (delta : Int) : Expr :=
  if delta = 0 then base
  else if delta > 0 then .binary .add base (.int delta)
  else .binary .sub base (.int (-delta))

end Expr

namespace Stmt

/-- A call with no outputs. -/
def callProc (callee : String) (args : List Expr) : Stmt :=
  .call callee args []

/-- A jump to one label. -/
def gotoLabel (label : String) : Stmt :=
  .goto [label]

end Stmt

end WasmBoogie.Boogie
