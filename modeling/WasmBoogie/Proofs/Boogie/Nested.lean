import WasmBoogie.Boogie.Syntax

namespace WasmBoogie.Boogie

namespace Stmt

mutual

/-- The procedures a statement calls, at any depth. -/
def calls : Stmt → List String
  | .call callee _ _ => [callee]
  | .ite _ thenBranch elseBranch => callees thenBranch ++ calleesOpt elseBranch
  | .assign .. | .havoc _ | .assume _ | .assert _ | .goto _ | .label _ | .comment _ => []

/-- The procedures an optional arm calls. -/
def calleesOpt : Option (List Stmt) → List String
  | some ss => callees ss
  | none => []

/-- The procedures a statement list calls, at any depth, in written order. -/
def callees : List Stmt → List String
  | [] => []
  | st :: rest => calls st ++ callees rest

end

mutual

/-- The comments of a statement, at any depth. -/
def remarks : Stmt → List String
  | .comment text => [text]
  | .ite _ thenBranch elseBranch => comments thenBranch ++ commentsOpt elseBranch
  | .assign .. | .call .. | .havoc _ | .assume _ | .assert _ | .goto _ | .label _ => []

/-- The comments of an optional arm. -/
def commentsOpt : Option (List Stmt) → List String
  | some ss => comments ss
  | none => []

/-- The comments of a statement list, at any depth, in written order. -/
def comments : List Stmt → List String
  | [] => []
  | st :: rest => remarks st ++ comments rest

end

@[simp] theorem callees_append (xs ys : List Stmt) : callees (xs ++ ys) = callees xs ++ callees ys := by
  induction xs with
  | nil => rfl
  | cons st rest ih => simp [callees, ih]

/-- Statements that call nothing themselves make a list that calls nothing. -/
theorem callees_eq_nil {ss : List Stmt} (none : ∀ st ∈ ss, calls st = []) : callees ss = [] := by
  induction ss with
  | nil => rfl
  | cons st rest ih =>
    rw [callees, none st List.mem_cons_self, ih fun st' mem => none st' (List.mem_cons_of_mem st mem)]
    rfl

@[simp] theorem comments_append (xs ys : List Stmt) : comments (xs ++ ys) = comments xs ++ comments ys := by
  induction xs with
  | nil => rfl
  | cons st rest ih => simp [comments, ih]

/-- Statements that carry no comment themselves make a list that carries none. -/
theorem comments_eq_nil {ss : List Stmt} (none : ∀ st ∈ ss, remarks st = []) : comments ss = [] := by
  induction ss with
  | nil => rfl
  | cons st rest ih =>
    rw [comments, none st List.mem_cons_self, ih fun st' mem => none st' (List.mem_cons_of_mem st mem)]
    rfl

/-- A list of statements stands in a body when it is written there consecutively: in the body's
own list, or at any depth in an arm of one of its conditionals. -/
inductive StandsIn : List Stmt → List Stmt → Prop
  | run {ss body : List Stmt} : ss <:+: body → StandsIn ss body
  | thenArm {ss body thenBranch : List Stmt} {cond : Expr} {elseBranch : Option (List Stmt)} :
      .ite cond thenBranch elseBranch ∈ body → StandsIn ss thenBranch → StandsIn ss body
  | elseArm {ss body thenBranch elseBranch : List Stmt} {cond : Expr} :
      .ite cond thenBranch (some elseBranch) ∈ body → StandsIn ss elseBranch → StandsIn ss body

/-- What stands in a run of a body's statements stands in the body. -/
theorem StandsIn.widen {ss xs ys : List Stmt} (inner : StandsIn ss xs) (within : xs <:+: ys) : StandsIn ss ys := by
  cases inner with
  | run here => exact .run (here.trans within)
  | thenArm arm inArm => exact .thenArm (within.subset arm) inArm
  | elseArm arm inArm => exact .elseArm (within.subset arm) inArm

end Stmt

/-- The procedures a declaration calls: those its body calls, for an implementation. -/
def Decl.callees : Decl → List String
  | .implementation impl => Stmt.callees impl.body
  | .comment _ | .global _ | .function .. | .procedure _ => []

/-- The procedures that the implementations of a program call, in order. -/
def Program.callees (p : Program) : List String :=
  p.decls.flatMap Decl.callees

end WasmBoogie.Boogie
