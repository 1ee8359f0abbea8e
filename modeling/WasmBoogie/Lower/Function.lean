import WasmBoogie.Lower.Prelude
import WasmBoogie.Lower.Callee
import WasmBoogie.Lower.Literal
import WasmBoogie.Lower.Options
import WasmBoogie.Instr.Op
import WasmBoogie.Instr.Scan

namespace WasmBoogie

open WasmBoogie.Boogie

/-- The kind of a scope. -/
inductive ScopeKind where
  | block | loop | ite
  deriving Repr, DecidableEq, Inhabited

/-- What a lowering approximates. -/
inductive DiagnosticKind where
  | unsupportedConst
  | unsupportedUnaryOp
  | unsupportedBinaryOp
  | unhandledInstruction
  | unresolvedBranch
  deriving Repr, DecidableEq, Inhabited

/-- An approximation, reported with the procedure it happened in. -/
structure Diagnostic where
  function : String
  kind : DiagnosticKind
  message : String
  deriving Repr, Inhabited

namespace Lower

/-- An open scope during lowering. -/
structure Scope where
  label : Option String
  ordinal : Nat
  startLabel : Option String
  endLabel : String
  kind : ScopeKind
  referenced : Bool
  deriving Repr, Inhabited

namespace Scope

/-- Where a branch to the scope goes: the start of a loop, the end of anything else. -/
def branchTarget (s : Scope) : String :=
  match s.kind, s.startLabel with
  | .loop, some start => start
  | _, _ => s.endLabel

end Scope

/-- What lowering a function reads: the options, the procedure names of call targets, its own
procedure name, the labels its branches need, and its parameter count. -/
structure Env where
  options : LowerOptions
  callees : CalleeTable
  function : String
  needs : LabelNeeds
  paramCount : Nat

/-- What lowering changes: the open scopes (innermost first), the label and scope counters and
the exit label of the current function, and, across functions, the arities of the
argument-popping helpers in use and the diagnostics in order. -/
structure State where
  scopes : List Scope := []
  nextLabel : Nat := 0
  nextOrdinal : Nat := 0
  exitLabel : Option String := none
  helpers : List Nat := []
  diagnostics : Array Diagnostic := #[]
  deriving Inhabited

/-- The lowering monad. -/
abbrev LowerM := StateM State

/-- The variable of a local slot: parameters first, as `arg1`, `arg2`, ..., then locals as
`loc1`, `loc2`, .... -/
def localName (paramCount slot : Nat) : String :=
  if slot < paramCount then s!"arg{slot + 1}" else s!"loc{slot - paramCount + 1}"

/-- `call push(v);` -/
def push (v : Expr) : Stmt := .callProc "push" [v]

/-- `call popToTmpN();` -/
def popTo (n : Nat) : Stmt := .callProc (popToTmp n) []

/-- A scratch register as an expression. -/
def tmp (n : Nat) : Expr := .ident (tmpVar n)

/-- A boolean as a real. -/
def toReal (cond : Expr) : Expr := .call "bool_to_real" [cond]

/-- The first scratch register read as a boolean. -/
def tmp1IsTrue : Expr := .call "real_to_bool" [tmp 1]

/-- A conditional jump. -/
def gotoIf (cond : Expr) (label : String) : Stmt :=
  .ite cond [.gotoLabel label] none

/-- An unknown value where a result would be. -/
def pushUnknown : List Stmt :=
  [.havoc [tmpVar 1], push (tmp 1)]

/-- Raw fragments that carry no instruction: names, type annotations and declaration heads. -/
def isStructuralFragment (name : String) : Bool :=
  name.startsWith "$" || (name.splitOn "=>").length > 1 || (StructuralHead.ofKeyword? name).isSome ||
    ["param", "result", "local", "export", "import", "i32", "i64", "f32", "f64"].contains name

/-- The jump of a table branch: out-of-range indices go to the default, index i to the i-th
target. -/
def tableDispatch (targets : List String) (default : String) : Stmt :=
  match targets with
  | [] => .gotoLabel default
  | _ =>
    let idx : Expr := .ident "idx"
    let outOfRange := Expr.binary .or (.binary .lt idx (.int 0))
      (.binary .ge idx (.int targets.length))
    let chain := (targets.zipIdx.map fun (l, i) => gotoIf (.binary .eq idx (.int i)) l) ++
      [.gotoLabel default]
    .ite outOfRange [.gotoLabel default] (some chain)

/-- A fresh label: the base and the next number of the function's sequence. -/
def freshLabel (base : String) : LowerM String :=
  modifyGet fun s => (s!"{base}_{s.nextLabel + 1}", { s with nextLabel := s.nextLabel + 1 })

/-- Records an approximation. -/
def note (env : Env) (kind : DiagnosticKind) (message : String) : LowerM Unit :=
  modify fun s => { s with diagnostics := s.diagnostics.push ⟨env.function, kind, message⟩ }

/-- The helper that pops `arity` arguments, recorded as used. -/
def ensurePopArgs (arity : Nat) : LowerM String := do
  modify fun s => { s with helpers := if s.helpers.contains arity then s.helpers else s.helpers ++ [arity] }
  pure (Ident.popArgsName arity)

/-- Opens a scope with fresh labels, a start label first for a loop; gives the start label if
it is to be placed. -/
def enterScope (env : Env) (label : Option String) (kind : ScopeKind) :
    LowerM (Option String) := do
  let ordinal := (← get).nextOrdinal
  modify fun s => { s with nextOrdinal := s.nextOrdinal + 1 }
  let stem := label.map Ident.sanitize
  let base (suffix fallback : String) : String :=
    match stem with
    | some st => st ++ "_" ++ suffix
    | none => fallback
  let startLabel ← match kind with
    | .loop => some <$> freshLabel (base "start" "loop_start")
    | _ => pure none
  let endBase := match kind with
    | .block => base "end" "block_end"
    | .loop => base "end" "loop_end"
    | .ite => base "end" "if_end"
  let endLabel ← freshLabel endBase
  let prune := env.options.pruneUnusedLabels
  let place := startLabel.filter fun _ => !prune || env.needs.loopStarts.contains ordinal
  modify fun s => { s with scopes := ⟨label, ordinal, startLabel, endLabel, kind, false⟩ :: s.scopes }
  pure place

/-- Closes the innermost scope; its end label is placed if pruning is off, or for a block or
if that a branch needs. -/
def leaveScope (env : Env) : LowerM (List Stmt) := do
  match (← get).scopes with
  | [] => pure []
  | s :: rest =>
    modify fun st => { st with scopes := rest }
    let prune := env.options.pruneUnusedLabels
    let needed := match s.kind with
      | .loop => !prune
      | _ => !prune || s.referenced || env.needs.blockEnds.contains s.ordinal
    pure (if needed then [.label s.endLabel] else [])

/-- The function's exit label, made when first needed. -/
def exitLabel : LowerM String := do
  match (← get).exitLabel with
  | some l => pure l
  | none =>
    let l ← freshLabel "func_exit"
    modify fun s => { s with exitLabel := some l }
    pure l

/-- Marks the scope at a position of the open scopes (innermost first) as a branch target and
gives where the branch goes. -/
def markReferenced (i : Nat) : LowerM (Option String) := do
  let scopes := (← get).scopes
  match scopes[i]? with
  | some s =>
    modify fun st => { st with scopes := scopes.set i { s with referenced := true } }
    pure (some s.branchTarget)
  | none => pure none

/-- Where a branch goes. A depth counts open scopes from the innermost; a depth of exactly the
number of open scopes leaves the function, a larger one leaves it with a diagnostic. A name
picks the innermost scope with that label, and leaves the function with a diagnostic if there
is none. -/
def resolveBranch (env : Env) (target : LabelRef) : LowerM String := do
  let scopes := (← get).scopes
  let opened := scopes.length
  let found ← match target with
    | .depth d =>
      if d > opened then
        note env .unresolvedBranch
          s!"branch depth {d} exceeds {opened} open scopes, using function exit"
      pure (if d < opened then some d else none)
    | .name n =>
      match scopes.findIdx? (·.label == some n) with
      | some i => pure (some i)
      | none =>
        note env .unresolvedBranch s!"no enclosing scope labeled ${n}, using function exit"
        pure none
  match found with
  | some i => do
    match ← markReferenced i with
    | some l => pure l
    | none => exitLabel
  | none => exitLabel

/-- The statements of a one-operand operator, after its operand. -/
def lowerUnary (env : Env) (op : String) : LowerM (List Stmt) := do
  let kind := UnaryKind.ofName op
  match kind with
  | .drop => pure [.callProc "pop" []]
  | .conversion => pure [.comment (op ++ ": no-op under real semantics")]
  | .unsupported =>
    let message := "unsupported unary op: " ++ op
    note env .unsupportedUnaryOp message
    pure ([.comment message, popTo 1] ++ pushUnknown)
  | .eqz => pure [popTo 1, push (toReal (.binary .eq (tmp 1) Expr.realZero))]
  | .neg => pure [popTo 1, push (.neg (tmp 1))]
  | .abs => pure [popTo 1, push (.ite (.binary .lt (tmp 1) Expr.realZero) (.neg (tmp 1)) (tmp 1))]

/-- The statements of a two-operand operator, after its operands: the right operand is popped
first. -/
def lowerBinary (env : Env) (op : String) : LowerM (List Stmt) := do
  let kind := BinaryKind.ofName op
  let header ← if kind = .unsupported then do
      let message := "unsupported binary op: " ++ op
      note env .unsupportedBinaryOp message
      pure [Stmt.comment message]
    else pure []
  let lhs := tmp 2
  let rhs := tmp 1
  let arith (o : BinOp) : List Stmt := [push (.binary o lhs rhs)]
  let compare (o : BinOp) : List Stmt := [push (toReal (.binary o lhs rhs))]
  let result := match kind with
    | .add => arith .add
    | .sub => arith .sub
    | .mul => arith .mul
    | .div => arith .div
    | .eq => compare .eq
    | .ne => compare .neq
    | .lt => compare .lt
    | .le => compare .le
    | .gt => compare .gt
    | .ge => compare .ge
    | .min => [push (.ite (.binary .le lhs rhs) lhs rhs)]
    | .max => [push (.ite (.binary .ge lhs rhs) lhs rhs)]
    | .unsupported => pushUnknown
  pure (header ++ [popTo 1, popTo 2] ++ result)

mutual

/-- The statements of one instruction. -/
def lowerInstr (env : Env) : Instr → LowerM (List Stmt)
  | .const ty lit => do
    match literalValue ty lit with
    | some v => pure [push v]
    | none =>
      let message := "unsupported const value: " ++ ty.name ++ ".const " ++ lit
      note env .unsupportedConst message
      pure (.comment message :: pushUnknown)
  | .localGet slot => pure [push (.ident (localName env.paramCount slot))]
  | .localSet slot value => do
    let pre ← lowerOpt env value
    let helper ← ensurePopArgs 1
    pure (pre ++ [.call helper [] [localName env.paramCount slot]])
  | .localTee slot value => do
    let pre ← lowerOpt env value
    let helper ← ensurePopArgs 1
    let name := localName env.paramCount slot
    pure (pre ++ [.call helper [] [name], push (.ident name)])
  | .call target args => do
    let pre ← lowerList env args
    pure (pre ++ [.callProc (env.callees.resolve target) []])
  | .unary op operand => do
    let pre ← lowerOpt env operand
    let post ← lowerUnary env op
    pure (pre ++ post)
  | .binary op left right => do
    let l ← lowerOpt env left
    let r ← lowerOpt env right
    let post ← lowerBinary env op
    pure (l ++ r ++ post)
  | .select ops => do
    let pre ← lowerList env ops
    pure (pre ++ [popTo 1, popTo 2, popTo 3, .ite tmp1IsTrue [push (tmp 3)] (some [push (tmp 2)])])
  | .block label body => do
    let _ ← enterScope env label .block
    let inner ← lowerList env body
    let close ← leaveScope env
    pure (inner ++ close)
  | .loop label body => do
    let start ← enterScope env label .loop
    let inner ← lowerList env body
    let close ← leaveScope env
    pure ((match start with
      | some l => [Stmt.label l]
      | none => []) ++ inner ++ close)
  | .structural _ body => lowerList env body
  | .ite label cond thenBody elseBody => do
    let pre ← lowerList env cond
    let _ ← enterScope env label .ite
    let t ← lowerList env thenBody
    let e ← match elseBody with
      | some b => some <$> lowerList env b
      | none => pure none
    let close ← leaveScope env
    pure (pre ++ [popTo 1, .ite tmp1IsTrue t e] ++ close)
  | .br target ops => do
    let pre ← lowerList env ops
    let l ← resolveBranch env target
    pure (pre ++ [.gotoLabel l])
  | .brIf target ops => do
    let pre ← lowerList env ops
    let l ← resolveBranch env target
    pure (pre ++ [popTo 1, gotoIf tmp1IsTrue l])
  | .brTable ops targets default => do
    let pre ← lowerList env ops
    let labels ← targets.mapM (resolveBranch env)
    let d ← resolveBranch env default
    pure (pre ++ [popTo 1, .assign (.ident "idx") (.call "real_to_int" [tmp 1]),
      tableDispatch labels d])
  | .ret ops => do
    let pre ← lowerList env ops
    let l ← exitLabel
    pure (pre ++ [.gotoLabel l])
  | .nop => pure []
  | .unreachable => pure [.assume (.bool false)]
  | .raw name => do
    if isStructuralFragment name then pure []
    else
      let message := "unhandled raw instruction: " ++ name
      note env .unhandledInstruction message
      pure [.comment message]

/-- The statements of an optional operand. -/
def lowerOpt (env : Env) : Option Instr → LowerM (List Stmt)
  | some i => lowerInstr env i
  | none => pure []

/-- The statements of instructions in order. -/
def lowerList (env : Env) : List Instr → LowerM (List Stmt)
  | [] => pure []
  | i :: rest => do
    let a ← lowerInstr env i
    let b ← lowerList env rest
    pure (a ++ b)

end

/-- The variables of a function's parameters and locals, in slot order. -/
def slotNames (paramCount localCount : Nat) : List String :=
  (List.range paramCount).map (fun i => s!"arg{i + 1}") ++
    (List.range localCount).map (fun i => s!"loc{i + 1}")

/-- Lowers a function under a procedure name: the procedure with its contract and the
implementation with its prologue, body, exit label and final stack check.

The body runs on the modeled operand stack. Every instruction first lowers its operands, each
of which pushes its value; it then pops what it consumes into the scratch registers and pushes
its result. Parameters are popped into `arg` variables on entry, locals are `loc` variables set
to zero, and the stack pointer on entry is kept in `entry_sp` so that the final assertion can
check the stack's balance.

Structured control becomes labels and gotos. Every block, loop and if gets fresh labels when it
opens, numbered in one sequence per function: a loop a start label and every scope an end
label. A branch goes to the start of a loop and to the end of a block or if. A branch that
leaves every scope, a `return`, or a branch whose target cannot be resolved goes to the
function's exit label. Labels that no branch needs are left out unless pruning is off.

Constructs outside the real-number model do not stop the lowering: each leaves a comment and a
diagnostic, and unknown results are havocked. -/
def lowerFunction (options : LowerOptions) (callees : CalleeTable) (name : String)
    (f : Function) : LowerM (Procedure × Implementation) := do
  let env : Env := ⟨options, callees, name, scanLabels f.body, f.paramCount⟩
  modify fun s => { s with scopes := [], nextLabel := 0, nextOrdinal := 0, exitLabel := none }
  let params := f.paramCount
  let names := slotNames params f.localCount
  let entry : List Stmt :=
    [.assign (.ident "entry_sp") sp, .assign (.ident (tmpVar 1)) Expr.realZero,
     .assign (.ident (tmpVar 2)) Expr.realZero, .assign (.ident (tmpVar 3)) Expr.realZero]
  let popArgs ← if params > 0 then do
      let helper ← ensurePopArgs params
      pure [Stmt.assume (.binary .ge sp (.int params)), .call helper [] (names.take params)]
    else pure []
  let zeroLocals := (names.drop params).map fun n => Stmt.assign (.ident n) Expr.realZero
  let body ← lowerList env f.body
  let exit := match (← get).exitLabel with
    | some l => [Stmt.label l]
    | none => []
  let footer := if options.stackAssert then
      Stmt.assert (stackEffect (.ident "entry_sp") params f.resultCount)
    else .comment "footer stack assert disabled"
  let proc : Procedure := {
    name, modifies := functionModifies
    ensures := if options.stackAssert then [stackEffect (.old sp) params f.resultCount] else [] }
  let impl : Implementation := {
    name
    locals := names.map (fun n => ⟨n, .real⟩) ++ [⟨"idx", .int⟩, ⟨"entry_sp", .int⟩]
    body := entry ++ popArgs ++ zeroLocals ++ body ++ exit ++ [footer] }
  pure (proc, impl)

end Lower

end WasmBoogie
