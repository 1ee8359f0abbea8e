import Mathlib.Algebra.Order.Archimedean.Real.Basic
import WasmBoogie.Boogie.Syntax
import WasmBoogie.Binary64.Shortest
import WasmBoogie.Instr.Basic

namespace WasmBoogie

/-- The real that a binary64 literal denotes: the value of the shortest decimal digits that its
text is written with. -/
noncomputable def Binary64.toReal (x : Binary64) : ℝ :=
  (if x.negative then -1 else 1) * (x.shortest.digits : ℝ) * (10 : ℝ) ^ x.shortest.exp

namespace Boogie

/-- Whether a numeral starts with a minus sign, and the characters after the sign. -/
def splitSign : List Char → Bool × List Char
  | '-' :: cs => (true, cs)
  | cs => (false, cs)

/-- The value of a decimal literal: an optional minus sign, digits, a point and digits. -/
def readDecimal (text : String) : Option ℚ :=
  let (negative, cs) := splitSign text.toList
  match cs.span (· != '.') with
  | (whole, '.' :: frac) =>
    if !whole.isEmpty && !frac.isEmpty && (whole ++ frac).all isAsciiDigit then
      let v : ℚ := Nat.ofDigitChars 10 whole 0 + (Nat.ofDigitChars 10 frac 0 : ℚ) / 10 ^ frac.length
      some (if negative then -v else v)
    else none
  | _ => none

/-- The values of the types that programs declare. -/
inductive Val where
  | int (i : ℤ)
  | real (r : ℝ)
  | bool (b : Bool)
  | map (m : ℤ → ℝ)

instance : Inhabited Val := ⟨.bool false⟩

namespace Val

/-- The type of a value. -/
def ty : Val → Ty
  | .int _ => .int
  | .real _ => .real
  | .bool _ => .bool
  | .map _ => .map .int .real

end Val

open Classical in
/-- A binary operator on values of matching types; anything else has no value. Division is the
division of reals. -/
noncomputable def BinOp.apply : BinOp → Val → Val → Option Val
  | .add, .int a, .int b => some (.int (a + b))
  | .add, .real a, .real b => some (.real (a + b))
  | .sub, .int a, .int b => some (.int (a - b))
  | .sub, .real a, .real b => some (.real (a - b))
  | .mul, .int a, .int b => some (.int (a * b))
  | .mul, .real a, .real b => some (.real (a * b))
  | .div, .real a, .real b => some (.real (a / b))
  | .eq, .int a, .int b => some (.bool (decide (a = b)))
  | .eq, .real a, .real b => some (.bool (decide (a = b)))
  | .eq, .bool a, .bool b => some (.bool (a == b))
  | .neq, .int a, .int b => some (.bool (decide (a ≠ b)))
  | .neq, .real a, .real b => some (.bool (decide (a ≠ b)))
  | .neq, .bool a, .bool b => some (.bool (a != b))
  | .lt, .int a, .int b => some (.bool (decide (a < b)))
  | .lt, .real a, .real b => some (.bool (decide (a < b)))
  | .le, .int a, .int b => some (.bool (decide (a ≤ b)))
  | .le, .real a, .real b => some (.bool (decide (a ≤ b)))
  | .gt, .int a, .int b => some (.bool (decide (a > b)))
  | .gt, .real a, .real b => some (.bool (decide (a > b)))
  | .ge, .int a, .int b => some (.bool (decide (a ≥ b)))
  | .ge, .real a, .real b => some (.bool (decide (a ≥ b)))
  | .and, .bool a, .bool b => some (.bool (a && b))
  | .or, .bool a, .bool b => some (.bool (a || b))
  | _, _, _ => none

/-- The variables of a running procedure and the globals, with the globals as they were when the
procedure was entered, which `old` reads. -/
structure Store where
  globals : String → Val
  locals : String → Option Val
  old : String → Val

/-- A procedure frame: names bound to values in order, the first binding of a name winning. -/
def frame : List String → List Val → String → Option Val
  | x :: xs, v :: vs, y => if y = x then some v else frame xs vs y
  | _, _, _ => none

namespace Store

/-- A name is looked up among the procedure's variables first. -/
def get (s : Store) (x : String) : Val :=
  (s.locals x).getD (s.globals x)

/-- An assignment changes the procedure's variable of that name if there is one, else the
global. -/
def set (s : Store) (x : String) (v : Val) : Store :=
  match s.locals x with
  | some _ => { s with locals := Function.update s.locals x (some v) }
  | none => { s with globals := Function.update s.globals x v }

/-- Assignments to names in order. -/
def setAll (s : Store) : List String → List Val → Store
  | x :: xs, v :: vs => (s.set x v).setAll xs vs
  | _, _ => s

end Store

/-- Functions by name, applied to argument values. -/
abbrev Funs := String → List Val → Option Val

mutual

/-- The value of an expression, if it is well typed. -/
noncomputable def Expr.eval (fs : Funs) (s : Store) : Expr → Option Val
  | .ident x => some (s.get x)
  | .int i => some (.int i)
  | .real x => some (.real x.toReal)
  | .decimal t => (readDecimal t).map fun q => .real q
  | .bool b => some (.bool b)
  | .neg e =>
    match e.eval fs s with
    | some (.int i) => some (.int (-i))
    | some (.real r) => some (.real (-r))
    | _ => none
  | .binary op l r =>
    match l.eval fs s, r.eval fs s with
    | some a, some b => op.apply a b
    | _, _ => none
  | .call f args => (Expr.evalList fs s args).bind (fs f)
  | .select m i =>
    match m.eval fs s, i.eval fs s with
    | some (.map g), some (.int k) => some (.real (g k))
    | _, _ => none
  | .ite c a b =>
    match c.eval fs s with
    | some (.bool true) => a.eval fs s
    | some (.bool false) => b.eval fs s
    | _ => none
  | .old e => e.eval fs { s with globals := s.old }

/-- The values of expressions in order. -/
noncomputable def Expr.evalList (fs : Funs) (s : Store) : List Expr → Option (List Val)
  | [] => some []
  | e :: es =>
    match e.eval fs s, Expr.evalList fs s es with
    | some v, some vs => some (v :: vs)
    | _, _ => none

end

/-- The built-in conversion `int`, which rounds a real down. -/
noncomputable def builtin : Funs
  | "int", [.real r] => some (.int ⌊r⌋)
  | _, _ => none

/-- Whether a procedure is to be inlined at its calls. -/
def Procedure.isInline (q : Procedure) : Bool :=
  q.attributes.any (·.key == "inline")

/-- The names of variables. -/
def Var.names (vs : List Var) : List String :=
  vs.map (·.name)

/-- Values of the declared types, one for each variable. -/
def Var.Typed (vs : List Var) (vals : List Val) : Prop :=
  List.Forall₂ (fun (v : Var) (x : Val) => x.ty = v.ty) vs vals

namespace Program

/-- The first procedure declared with the name. -/
def procedure? (p : Program) (name : String) : Option Procedure :=
  p.decls.findSome? fun
    | .procedure q => if q.name = name then some q else none
    | _ => none

/-- The first implementation of the procedure with the name. -/
def implementation? (p : Program) (name : String) : Option Implementation :=
  p.decls.findSome? fun
    | .implementation i => if i.name = name then some i else none
    | _ => none

/-- The parameters and body of the first function defined with the name. -/
def function? (p : Program) (name : String) : Option (List Var × Expr) :=
  p.decls.findSome? fun
    | .function n params _ (some body) => if n = name then some (params, body) else none
    | _ => none

/-- The functions that a program's expressions call: its own, whose bodies see nothing but
their parameters, and the built-in ones. -/
noncomputable def funs (p : Program) : Funs := fun f args =>
  match p.function? f with
  | some (params, body) =>
    if params.length = args.length then
      body.eval builtin ⟨fun _ => default, frame (Var.names params) args, fun _ => default⟩
    else none
  | none => builtin f args

end Program

/-- How a statement or a run of statements ends. -/
inductive Outcome where
  /-- It falls through to what follows. -/
  | next
  /-- It jumps to a label. -/
  | goto (label : String)
  /-- An assertion failed. -/
  | wrong
  deriving DecidableEq

/-- The statements after the first label with the name, among the statements of a list (not
inside its conditionals). -/
def afterLabel (l : String) : List Stmt → Option (List Stmt)
  | [] => none
  | .label m :: rest => if m = l then some rest else afterLabel l rest
  | _ :: rest => afterLabel l rest

mutual

/-- `StmtExec p s st s' o`: in program `p`, the statement `st` run from `s` can end in `s'`
with outcome `o`. -/
inductive StmtExec (p : Program) : Store → Stmt → Store → Outcome → Prop
  | assign {s x e v} : e.eval p.funs s = some v →
      StmtExec p s (.assign (.ident x) e) (s.set x v) .next
  | assignAt {s m i e g k r} : i.eval p.funs s = some (.int k) → s.get m = .map g →
      e.eval p.funs s = some (.real r) →
      StmtExec p s (.assign (.select (.ident m) i) e) (s.set m (.map (Function.update g k r))) .next
  | havoc {s xs vs} : List.Forall₂ (fun x (v : Val) => v.ty = (s.get x).ty) xs vs →
      StmtExec p s (.havoc xs) (s.setAll xs vs) .next
  | assume {s c} : c.eval p.funs s = some (.bool true) → StmtExec p s (.assume c) s .next
  | assertHolds {s c} : c.eval p.funs s = some (.bool true) → StmtExec p s (.assert c) s .next
  | assertFails {s c} : c.eval p.funs s = some (.bool false) → StmtExec p s (.assert c) s .wrong
  | goto {s l ls} : l ∈ ls → StmtExec p s (.goto ls) s (.goto l)
  | label {s l} : StmtExec p s (.label l) s .next
  | comment {s t} : StmtExec p s (.comment t) s .next
  | iteTrue {s c t e s' o} : c.eval p.funs s = some (.bool true) → Exec p t t s s' o →
      StmtExec p s (.ite c t e) s' o
  | iteFalse {s c t e s' o} : c.eval p.funs s = some (.bool false) → Exec p e e s s' o →
      StmtExec p s (.ite c t (some e)) s' o
  | iteSkip {s c t} : c.eval p.funs s = some (.bool false) → StmtExec p s (.ite c t none) s .next
  /-- An inlined procedure: its parameters bound to the arguments, its results and locals to
  values of their types, its body run to the end; then the outputs take the results. -/
  | callInline {s f args outs q impl vs rs ls s'} : p.procedure? f = some q → q.isInline →
      p.implementation? f = some impl → Expr.evalList p.funs s args = some vs →
      impl.params.length = vs.length → Var.Typed impl.returns rs → Var.Typed impl.locals ls →
      Exec p impl.body impl.body
        ⟨s.globals, frame (Var.names (impl.params ++ impl.returns ++ impl.locals)) (vs ++ rs ++ ls),
          s.globals⟩ s' .next →
      outs.length = impl.returns.length →
      StmtExec p s (.call f args outs)
        (Store.setAll ⟨s'.globals, s.locals, s.old⟩ outs (impl.returns.map fun v => s'.get v.name)) .next
  | callInlineWrong {s f args outs q impl vs rs ls s'} : p.procedure? f = some q → q.isInline →
      p.implementation? f = some impl → Expr.evalList p.funs s args = some vs →
      impl.params.length = vs.length → Var.Typed impl.returns rs → Var.Typed impl.locals ls →
      Exec p impl.body impl.body
        ⟨s.globals, frame (Var.names (impl.params ++ impl.returns ++ impl.locals)) (vs ++ rs ++ ls),
          s.globals⟩ s' .wrong →
      StmtExec p s (.call f args outs) ⟨s'.globals, s.locals, s.old⟩ .wrong
  /-- Any other procedure by its contract: the globals it modifies take values of their types,
  the others keep theirs, and every postcondition holds of the results. -/
  | callContract {s f args outs q vs g rs} : p.procedure? f = some q → q.isInline = false →
      Expr.evalList p.funs s args = some vs → q.params.length = vs.length →
      (∀ x, x ∉ q.modifies → g x = s.globals x) → (∀ x ∈ q.modifies, (g x).ty = (s.globals x).ty) →
      Var.Typed q.returns rs →
      (∀ e ∈ q.ensures, e.eval p.funs
        ⟨g, frame (Var.names (q.params ++ q.returns)) (vs ++ rs), s.globals⟩ = some (.bool true)) →
      outs.length = q.returns.length →
      StmtExec p s (.call f args outs) (Store.setAll ⟨g, s.locals, s.old⟩ outs rs) .next

/-- `Exec p body ss s s' o`: the statements `ss`, the rest of the list `body`, run from `s` can end
in `s'` with outcome `o`. A jump to a label of `body` continues after the label; a jump to any
other label leaves the list. -/
inductive Exec (p : Program) : List Stmt → List Stmt → Store → Store → Outcome → Prop
  | nil {body s} : Exec p body [] s s .next
  | next {body st rest s s₁ s' o} : StmtExec p s st s₁ .next → Exec p body rest s₁ s' o →
      Exec p body (st :: rest) s s' o
  | jump {body st rest s s₁ s' o l k} : StmtExec p s st s₁ (.goto l) → afterLabel l body = some k →
      Exec p body k s₁ s' o → Exec p body (st :: rest) s s' o
  | escape {body st rest s s₁ l} : StmtExec p s st s₁ (.goto l) → afterLabel l body = none →
      Exec p body (st :: rest) s s₁ (.goto l)
  | wrong {body st rest s s₁} : StmtExec p s st s₁ .wrong → Exec p body (st :: rest) s s₁ .wrong

end

end Boogie

end WasmBoogie
