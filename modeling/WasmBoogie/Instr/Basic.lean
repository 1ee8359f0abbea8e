namespace WasmBoogie

/-- The four number types of WebAssembly 1.0. -/
inductive NumType where
  | i32 | i64 | f32 | f64
  deriving Repr, DecidableEq, Inhabited

namespace NumType

/-- The number type a prefix such as `i32` names. -/
def ofPrefix? : String → Option NumType
  | "i32" => some .i32
  | "i64" => some .i64
  | "f32" => some .f32
  | "f64" => some .f64
  | _ => none

/-- The prefix that names the type. -/
def name : NumType → String
  | .i32 => "i32" | .i64 => "i64" | .f32 => "f32" | .f64 => "f64"

/-- The two floating-point types. -/
def isFloat : NumType → Bool
  | .f32 | .f64 => true
  | .i32 | .i64 => false

end NumType

/-- A character that is an ASCII decimal digit. -/
def isAsciiDigit (c : Char) : Bool :=
  '0' ≤ c && c ≤ '9'

/-- A non-empty run of ASCII decimal digits. -/
def isDigits (s : String) : Bool :=
  !s.isEmpty && s.toList.all isAsciiDigit

/-- The value of a run of decimal digits. -/
def digitsValue (s : String) : Nat :=
  s.toList.foldl (fun acc c => 10 * acc + (c.toNat - '0'.toNat)) 0

/-- The rest of a word after its leading dollar sign, if it has one. -/
def dropDollar? (s : String) : Option String :=
  match s.toList with
  | '$' :: rest => some (String.ofList rest)
  | _ => none

/-- The largest 32-bit unsigned word. -/
def u32Max : Nat := Nat.pow 2 32 - 1

/-- Where a branch goes: a number of enclosing scopes to leave, or a scope's label. -/
inductive LabelRef where
  | depth (n : Nat)
  | name (label : String)
  deriving Repr, DecidableEq, Inhabited

namespace LabelRef

/-- A branch target as a token gives it: a run of digits with a value that fits in 32 bits is
a depth; anything else is a name, without a leading dollar sign. -/
def ofToken (token : String) : LabelRef :=
  if isDigits token ∧ digitsValue token ≤ u32Max then .depth (digitsValue token)
  else .name ((dropDollar? token).getD token)

/-- The target as it is written back: the depth, or the name after a dollar sign. -/
def render : LabelRef → String
  | .depth n => toString n
  | .name s => "$" ++ s

end LabelRef

/-- Heads of forms that only group their contents. -/
inductive StructuralHead where
  | module | type | func
  deriving Repr, DecidableEq, Inhabited

namespace StructuralHead

/-- The form a keyword opens, if it is one of the grouping forms. -/
def ofKeyword? : String → Option StructuralHead
  | "module" => some .module
  | "type" => some .type
  | "func" => some .func
  | _ => none

/-- The keyword of the form. -/
def name : StructuralHead → String
  | .module => "module" | .type => "type" | .func => "func"

end StructuralHead

/-- An instruction tree. Operands written inside a folded instruction are its children; a flat
instruction has none.

A body is read from text into a list of instruction trees. Folded syntax nests the operands of
an instruction inside its parentheses; flat syntax writes them as earlier instructions. Both
forms become the same kind of tree, and an instruction written flat simply has no operands in
its tree. Branch targets stay as written, a relative depth or a label name, and are resolved
only when the body is lowered. -/
inductive Instr where
  /-- A constant of a number type, its literal kept as written. -/
  | const (ty : NumType) (literal : String)
  | localGet (slot : Nat)
  | localSet (slot : Nat) (value : Option Instr)
  | localTee (slot : Nat) (value : Option Instr)
  /-- A call, its target kept as written (`$f` or an index). -/
  | call (target : String) (args : List Instr)
  | unary (op : String) (operand : Option Instr)
  /-- A binary operator; a single folded operand is the right one. -/
  | binary (op : String) (left right : Option Instr)
  | select (operands : List Instr)
  | block (label : Option String) (body : List Instr)
  | loop (label : Option String) (body : List Instr)
  /-- A grouping form such as a nested module or function. -/
  | structural (head : StructuralHead) (body : List Instr)
  /-- A conditional: the condition operands, the then arm, and the else arm if written. -/
  | ite (label : Option String) (cond thenBody : List Instr) (elseBody : Option (List Instr))
  | br (target : LabelRef) (operands : List Instr)
  | brIf (target : LabelRef) (operands : List Instr)
  /-- A table branch: operands, the targets by index, and the default. -/
  | brTable (operands : List Instr) (targets : List LabelRef) (default : LabelRef)
  | ret (operands : List Instr)
  | nop
  | unreachable
  /-- Any other instruction, known by its name only. -/
  | raw (name : String)
  deriving Repr, Inhabited

/-- The counts that a module's binary gives a function: parameters, results and locals. -/
structure Signature where
  params : Nat
  results : Nat
  locals : Nat
  deriving Repr, DecidableEq, Inhabited

/-- A function read from its text: its name without the dollar sign, its index in the module's
function space, its body, its slot counts and the slots of its named parameters and locals. -/
structure Function where
  name : Option String
  index : Nat
  body : List Instr
  paramCount : Nat
  localCount : Nat
  resultCount : Nat
  aliases : List (String × Nat)
  deriving Repr, Inhabited

namespace Function

/-- How a function is named in messages: `$name`, or `#index` without a name. -/
def displayName (f : Function) : String :=
  match f.name with
  | some n => "$" ++ n
  | none => "#" ++ toString f.index

end Function

/-- A function that the module imports from its host. -/
structure Import where
  index : Nat
  module : String
  field : String
  name : Option String
  paramCount : Nat
  resultCount : Nat
  deriving Repr, DecidableEq, Inhabited

/-- A module: its imported functions and its defined functions, in index order. -/
structure Module where
  imports : List Import := []
  functions : List Function := []
  deriving Repr, Inhabited

end WasmBoogie
