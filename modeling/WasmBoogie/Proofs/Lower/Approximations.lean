import WasmBoogie.Proofs.Lower.Helpers

namespace WasmBoogie

open Boogie
open scoped List

namespace Instr

/-- The report of a branch target that no open scope answers, the labels of the open scopes
given innermost first: a depth past the number of open scopes, or a name that no open scope
carries. -/
def branchReports (function : String) (opened : List (Option String)) : LabelRef → List Diagnostic
  | .depth d =>
    if d > opened.length then
      [⟨function, .unresolvedBranch, s!"branch depth {d} exceeds {opened.length} open scopes, using function exit"⟩]
    else []
  | .name n =>
    if some n ∈ opened then []
    else [⟨function, .unresolvedBranch, s!"no enclosing scope labeled ${n}, using function exit"⟩]

mutual

/-- The approximations of an instruction in a function, in the order the lowering visits them,
under the labels of the scopes open around it, innermost first. -/
def approximations (function : String) (opened : List (Option String)) : Instr → List Diagnostic
  | .const ty literal =>
    if (Lower.literalValue ty literal).isNone then
      [⟨function, .unsupportedConst, "unsupported const value: " ++ ty.name ++ ".const " ++ literal⟩]
    else []
  | .localGet _ | .nop | .unreachable => []
  | .localSet _ v | .localTee _ v => approximationsOpt function opened v
  | .call _ ops | .select ops | .structural _ ops | .ret ops => approximationsList function opened ops
  | .unary op v => approximationsOpt function opened v ++
    if UnaryKind.ofName op = .unsupported then
      [⟨function, .unsupportedUnaryOp, "unsupported unary op: " ++ op⟩]
    else []
  | .binary op l r => approximationsOpt function opened l ++ approximationsOpt function opened r ++
    if BinaryKind.ofName op = .unsupported then
      [⟨function, .unsupportedBinaryOp, "unsupported binary op: " ++ op⟩]
    else []
  | .block scope body | .loop scope body => approximationsList function (scope :: opened) body
  | .ite scope cond thenBody (some elseBody) => approximationsList function opened cond ++
    approximationsList function (scope :: opened) thenBody ++ approximationsList function (scope :: opened) elseBody
  | .ite scope cond thenBody none => approximationsList function opened cond ++
    approximationsList function (scope :: opened) thenBody
  | .br target ops | .brIf target ops => approximationsList function opened ops ++
    branchReports function opened target
  | .brTable ops targets default => approximationsList function opened ops ++
    targets.flatMap (branchReports function opened) ++ branchReports function opened default
  | .raw name =>
    if Lower.isStructuralFragment name then []
    else [⟨function, .unhandledInstruction, "unhandled raw instruction: " ++ name⟩]

def approximationsOpt (function : String) (opened : List (Option String)) : Option Instr → List Diagnostic
  | some i => approximations function opened i
  | none => []

def approximationsList (function : String) (opened : List (Option String)) : List Instr → List Diagnostic
  | [] => []
  | i :: rest => approximations function opened i ++ approximationsList function opened rest

end

/-- The messages of the reports that the lowered statements also carry as comments: all but the
unresolved branches. -/
def commentedMessages (reports : List Diagnostic) : List String :=
  (reports.filter fun d => d.kind != .unresolvedBranch).map Diagnostic.message

@[simp] theorem commentedMessages_append (xs ys : List Diagnostic) :
    commentedMessages (xs ++ ys) = commentedMessages xs ++ commentedMessages ys := by
  simp [commentedMessages]

@[simp] theorem commentedMessages_branchReports (function : String) (opened : List (Option String))
    (target : LabelRef) : commentedMessages (branchReports function opened target) = [] := by
  cases target <;> simp only [branchReports] <;> split <;> rfl

@[simp] theorem commentedMessages_flatMap_branchReports (function : String) (opened : List (Option String))
    (targets : List LabelRef) : commentedMessages (targets.flatMap (branchReports function opened)) = [] := by
  induction targets with
  | nil => rfl
  | cons t rest ih => rw [List.flatMap_cons, commentedMessages_append, ih, commentedMessages_branchReports]; rfl

end Instr

namespace Lower

theorem diagnostics_exitLabel (σ : State) : (exitLabel.run σ).2.diagnostics = σ.diagnostics := by
  rw [exitLabel_run]
  split <;> rfl

theorem diagnostics_enterScope (env : Env) (label : Option String) (kind : ScopeKind) (σ : State) :
    ((enterScope env label kind).run σ).2.diagnostics = σ.diagnostics := by
  rw [enterScope_run]

theorem diagnostics_leaveScope (env : Env) (σ : State) :
    ((leaveScope env).run σ).2.diagnostics = σ.diagnostics := by
  obtain ⟨_ | ⟨s, rest⟩, _, _, _, _, _⟩ := σ <;> rfl

theorem labels_enterScope (env : Env) (label : Option String) (kind : ScopeKind) (σ : State) :
    ((enterScope env label kind).run σ).2.scopes.map Scope.label = label :: σ.scopes.map Scope.label := by
  rw [enterScope_scopes, List.map_cons]
  cases kind <;> rfl

theorem lowerOpt_scopeLabels (env : Env) (i : Option Instr) (σ : State) :
    ((lowerOpt env i).run σ).2.scopes.map Scope.label = σ.scopes.map Scope.label :=
  scopeLabels_of_shapes (lowerOpt_shapes env i σ)

/-- No open scope carries a name exactly when the search for it finds none. -/
theorem findIdx?_label_eq_none_iff (scopes : List Scope) (n : String) :
    scopes.findIdx? (·.label == some n) = none ↔ some n ∉ scopes.map Scope.label := by
  simp [List.findIdx?_eq_none_iff]

/-- Resolving a branch reports the target when no open scope answers it. -/
theorem diagnostics_resolveBranch (env : Env) (target : LabelRef) (σ : State) :
    ((resolveBranch env target).run σ).2.diagnostics.toList =
      σ.diagnostics.toList ++ Instr.branchReports env.function (σ.scopes.map Scope.label) target := by
  cases target with
  | depth d =>
    by_cases inside : d < σ.scopes.length
    · have within : ¬ d > σ.scopes.length := by omega
      cases atD : σ.scopes[d]? <;>
        simp only [resolveBranch, run_bind, run_get, run_pure, within, inside, if_true, if_false,
          markReferenced_run, atD] <;>
        simp [diagnostics_exitLabel, Instr.branchReports, within]
    · by_cases beyond : d > σ.scopes.length
      · simp only [resolveBranch, run_bind, run_get, run_pure, beyond, inside, if_true, if_false, note_run]
        simp [diagnostics_exitLabel, Instr.branchReports, beyond]
      · simp only [resolveBranch, run_bind, run_get, run_pure, beyond, inside, if_false]
        simp [diagnostics_exitLabel, Instr.branchReports, beyond]
  | name n =>
    cases found : σ.scopes.findIdx? (·.label == some n) with
    | some i =>
      have carried : some n ∈ σ.scopes.map Scope.label := by
        by_contra absent
        rw [← findIdx?_label_eq_none_iff, found] at absent
        cases absent
      cases atI : σ.scopes[i]? <;>
        simp only [resolveBranch, run_bind, run_get, run_pure, found, markReferenced_run, atI] <;>
        simp [diagnostics_exitLabel, Instr.branchReports, carried]
    | none =>
      simp only [resolveBranch, run_bind, run_get, run_pure, found, note_run]
      simp [diagnostics_exitLabel, Instr.branchReports, (findIdx?_label_eq_none_iff σ.scopes n).1 found]

theorem diagnostics_resolveAll (env : Env) (targets : List LabelRef) (σ : State) :
    ((targets.mapM (resolveBranch env)).run σ).2.diagnostics.toList =
      σ.diagnostics.toList ++ targets.flatMap (Instr.branchReports env.function (σ.scopes.map Scope.label)) := by
  induction targets generalizing σ with
  | nil => simp only [List.mapM_nil, run_pure, List.flatMap_nil, List.append_nil]
  | cons t rest ih =>
    have labels := scopeLabels_of_shapes (resolveBranch_shapes env t σ)
    simp only [List.mapM_cons, run_bind, run_pure, ih, diagnostics_resolveBranch, labels, List.flatMap_cons,
      List.append_assoc]

theorem diagnostics_lowerUnary (env : Env) (op : String) (σ : State) :
    ((lowerUnary env op).run σ).2.diagnostics.toList = σ.diagnostics.toList ++
      if UnaryKind.ofName op = .unsupported then
        [⟨env.function, .unsupportedUnaryOp, "unsupported unary op: " ++ op⟩]
      else [] := by
  simp only [lowerUnary]
  cases UnaryKind.ofName op <;> simp only [run_bind, run_pure, note_run] <;> simp

theorem diagnostics_lowerBinary (env : Env) (op : String) (σ : State) :
    ((lowerBinary env op).run σ).2.diagnostics.toList = σ.diagnostics.toList ++
      if BinaryKind.ofName op = .unsupported then
        [⟨env.function, .unsupportedBinaryOp, "unsupported binary op: " ++ op⟩]
      else [] := by
  simp only [lowerBinary]
  split <;> simp only [run_bind, run_pure, note_run] <;> simp_all

mutual

/-- Lowering an instruction records the approximations of the instruction, under the labels of
the open scopes, after the reports already made. -/
theorem lowerInstr_diagnostics (env : Env) : ∀ (i : Instr) (σ : State),
    ((lowerInstr env i).run σ).2.diagnostics.toList =
      σ.diagnostics.toList ++ Instr.approximations env.function (σ.scopes.map Scope.label) i
  | .const ty literal, σ => by
    simp only [lowerInstr, Instr.approximations]
    cases literalValue ty literal <;> simp only [run_bind, run_pure, note_run] <;> simp
  | .raw name, σ => by
    simp only [lowerInstr, Instr.approximations]
    split <;> simp only [run_bind, run_pure, note_run] <;> simp
  | .localGet _, σ | .nop, σ | .unreachable, σ => by
    simp only [lowerInstr, run_pure, Instr.approximations, List.append_nil]
  | .localSet _ value, σ | .localTee _ value, σ => by
    simp only [lowerInstr, run_bind, run_pure, ensurePopArgs_run, lowerOpt_diagnostics, Instr.approximations]
  | .unary op operand, σ => by
    simp only [lowerInstr, run_bind, run_pure, diagnostics_lowerUnary, lowerOpt_diagnostics,
      Instr.approximations, List.append_assoc]
  | .binary op left right, σ => by
    simp only [lowerInstr, run_bind, run_pure, diagnostics_lowerBinary, lowerOpt_diagnostics, lowerOpt_scopeLabels,
      Instr.approximations, List.append_assoc]
  | .call _ ops, σ | .select ops, σ => by
    simp only [lowerInstr, run_bind, run_pure, lowerList_diagnostics, Instr.approximations]
  | .structural _ body, σ => by
    simp only [lowerInstr, lowerList_diagnostics, Instr.approximations]
  | .ret ops, σ => by
    simp only [lowerInstr, run_bind, run_pure, diagnostics_exitLabel, lowerList_diagnostics, Instr.approximations]
  | .block _ body, σ | .loop _ body, σ => by
    simp only [lowerInstr, run_bind, run_pure, diagnostics_leaveScope, lowerList_diagnostics,
      diagnostics_enterScope, labels_enterScope, Instr.approximations]
  | .ite _ cond thenBody (some elseBody), σ => by
    simp only [lowerInstr, run_bind, run_pure, run_map, diagnostics_leaveScope, lowerList_diagnostics,
      lowerList_scopeLabels, diagnostics_enterScope, labels_enterScope, Instr.approximations, List.append_assoc]
  | .ite _ cond thenBody none, σ => by
    simp only [lowerInstr, run_bind, run_pure, diagnostics_leaveScope, lowerList_diagnostics,
      diagnostics_enterScope, labels_enterScope, lowerList_scopeLabels, Instr.approximations, List.append_assoc]
  | .br target ops, σ | .brIf target ops, σ => by
    simp only [lowerInstr, run_bind, run_pure, diagnostics_resolveBranch, lowerList_diagnostics,
      lowerList_scopeLabels, Instr.approximations, List.append_assoc]
  | .brTable ops targets default, σ => by
    have labels := fun σ' => scopeLabels_of_shapes (resolveAll_shapes env targets σ')
    simp only [lowerInstr, run_bind, run_pure, diagnostics_resolveBranch, diagnostics_resolveAll, labels,
      lowerList_diagnostics, lowerList_scopeLabels, Instr.approximations, List.append_assoc]

theorem lowerOpt_diagnostics (env : Env) : ∀ (i : Option Instr) (σ : State),
    ((lowerOpt env i).run σ).2.diagnostics.toList =
      σ.diagnostics.toList ++ Instr.approximationsOpt env.function (σ.scopes.map Scope.label) i
  | some i, σ => lowerInstr_diagnostics env i σ
  | none, σ => by simp only [lowerOpt, run_pure, Instr.approximationsOpt, List.append_nil]

theorem lowerList_diagnostics (env : Env) : ∀ (is : List Instr) (σ : State),
    ((lowerList env is).run σ).2.diagnostics.toList =
      σ.diagnostics.toList ++ Instr.approximationsList env.function (σ.scopes.map Scope.label) is
  | [], σ => by simp only [lowerList, run_pure, Instr.approximationsList, List.append_nil]
  | i :: rest, σ => by
    simp only [lowerList, run_bind, run_pure, lowerList_diagnostics env rest, lowerInstr_diagnostics env i,
      lowerInstr_scopeLabels, Instr.approximationsList, List.append_assoc]

end

theorem comments_leaveScope (env : Env) (σ : State) : Stmt.comments ((leaveScope env).run σ).1 = [] := by
  obtain ⟨_ | ⟨s, rest⟩, _, _, _, _, _⟩ := σ
  · rfl
  · rw [leaveScope_run rfl]
    split <;> rfl

theorem comments_tableDispatch (labels : List String) (default : String) :
    Stmt.comments [tableDispatch labels default] = [] := by
  unfold tableDispatch
  split
  · rfl
  · simp only [Stmt.comments, Stmt.remarks, Stmt.commentsOpt, Stmt.comments_append, Stmt.gotoLabel,
      List.append_nil]
    induction labels.zipIdx with
    | nil => rfl
    | cons x rest ih => simpa [Stmt.comments, Stmt.remarks, Stmt.commentsOpt, gotoIf, Stmt.gotoLabel] using ih

theorem comments_lowerUnary (env : Env) (function op : String) (σ : State) :
    Instr.commentedMessages (if UnaryKind.ofName op = .unsupported then
        [⟨function, .unsupportedUnaryOp, "unsupported unary op: " ++ op⟩] else []) <+
      Stmt.comments ((lowerUnary env op).run σ).1 := by
  simp only [lowerUnary]
  cases UnaryKind.ofName op <;> simp only [run_bind, run_pure, note_run] <;>
    simp [Instr.commentedMessages, Stmt.comments, Stmt.remarks, push, popTo, pushUnknown, Stmt.callProc]

theorem comments_lowerBinary (env : Env) (function op : String) (σ : State) :
    Instr.commentedMessages (if BinaryKind.ofName op = .unsupported then
        [⟨function, .unsupportedBinaryOp, "unsupported binary op: " ++ op⟩] else []) <+
      Stmt.comments ((lowerBinary env op).run σ).1 := by
  simp only [lowerBinary]
  split <;> simp only [run_bind, run_pure, note_run] <;>
    simp_all [Instr.commentedMessages, Stmt.comments, Stmt.remarks, push, popTo, pushUnknown, Stmt.callProc]

mutual

/-- The statements of a lowered instruction carry, as comments and in order, the message of each
of its approximations but the unresolved branches. -/
theorem lowerInstr_comments (env : Env) (function : String) : ∀ (i : Instr) (opened : List (Option String))
    (σ : State),
    Instr.commentedMessages (Instr.approximations function opened i) <+ Stmt.comments ((lowerInstr env i).run σ).1
  | .const ty literal, opened, σ => by
    simp only [lowerInstr, Instr.approximations]
    cases literalValue ty literal <;> simp only [run_bind, run_pure, note_run] <;>
      simp [Instr.commentedMessages, Stmt.comments, Stmt.remarks, push, pushUnknown, Stmt.callProc]
  | .raw name, opened, σ => by
    simp only [lowerInstr, Instr.approximations]
    split <;> simp only [run_bind, run_pure, note_run] <;>
      simp [Instr.commentedMessages, Stmt.comments, Stmt.remarks]
  | .localGet _, opened, σ | .nop, opened, σ | .unreachable, opened, σ => by
    simp only [lowerInstr, Instr.approximations]
    exact List.nil_sublist _
  | .localSet _ value, opened, σ | .localTee _ value, opened, σ => by
    simp only [lowerInstr, run_bind, run_pure, ensurePopArgs_run, Instr.approximations]
    simpa [Stmt.comments, Stmt.remarks, push, Stmt.callProc] using lowerOpt_comments env function value opened σ
  | .unary op operand, opened, σ => by
    simp only [lowerInstr, run_bind, run_pure, Instr.approximations, Instr.commentedMessages_append,
      Stmt.comments_append]
    exact (lowerOpt_comments env function operand opened σ).append (comments_lowerUnary _ _ _ _)
  | .binary op left right, opened, σ => by
    simp only [lowerInstr, run_bind, run_pure, Instr.approximations, Instr.commentedMessages_append,
      Stmt.comments_append]
    exact ((lowerOpt_comments env function left opened σ).append (lowerOpt_comments env function right opened _)).append
      (comments_lowerBinary _ _ _ _)
  | .call _ ops, opened, σ => by
    simp only [lowerInstr, run_bind, run_pure, Instr.approximations]
    simpa [Stmt.comments, Stmt.remarks, Stmt.callProc] using lowerList_comments env function ops opened σ
  | .select ops, opened, σ => by
    simp only [lowerInstr, run_bind, run_pure, Instr.approximations]
    simpa [Stmt.comments, Stmt.remarks, Stmt.commentsOpt, Stmt.callProc, push, popTo] using
      lowerList_comments env function ops opened σ
  | .structural _ body, opened, σ => by
    simp only [lowerInstr, Instr.approximations]
    exact lowerList_comments env function body opened σ
  | .ret ops, opened, σ => by
    simp only [lowerInstr, run_bind, run_pure, Instr.approximations]
    simpa [Stmt.comments, Stmt.remarks, Stmt.gotoLabel] using lowerList_comments env function ops opened σ
  | .block scope body, opened, σ => by
    simp only [lowerInstr, run_bind, run_pure, Instr.approximations]
    simpa [comments_leaveScope] using lowerList_comments env function body (scope :: opened) _
  | .loop scope body, opened, σ => by
    simp only [lowerInstr, run_bind, run_pure, Instr.approximations]
    split <;> simpa [comments_leaveScope, Stmt.comments, Stmt.remarks] using
      lowerList_comments env function body (scope :: opened) _
  | .ite scope cond thenBody (some elseBody), opened, σ => by
    simp only [lowerInstr, run_bind, run_pure, run_map, Instr.approximations, Instr.commentedMessages_append]
    simp only [Stmt.comments_append, comments_leaveScope, Stmt.comments, Stmt.remarks, Stmt.commentsOpt, popTo,
      Stmt.callProc, List.nil_append, List.append_nil, List.append_assoc]
    exact (lowerList_comments env function cond opened σ).append
      ((lowerList_comments env function thenBody (scope :: opened) _).append
        (lowerList_comments env function elseBody (scope :: opened) _))
  | .ite scope cond thenBody none, opened, σ => by
    simp only [lowerInstr, run_bind, run_pure, Instr.approximations, Instr.commentedMessages_append]
    simp only [Stmt.comments_append, comments_leaveScope, Stmt.comments, Stmt.remarks, Stmt.commentsOpt, popTo,
      Stmt.callProc, List.nil_append, List.append_nil]
    exact (lowerList_comments env function cond opened σ).append
      (lowerList_comments env function thenBody (scope :: opened) _)
  | .br target ops, opened, σ => by
    simp only [lowerInstr, run_bind, run_pure, Instr.approximations]
    simpa [Stmt.comments, Stmt.remarks, Stmt.gotoLabel] using lowerList_comments env function ops opened σ
  | .brIf target ops, opened, σ => by
    simp only [lowerInstr, run_bind, run_pure, Instr.approximations]
    simpa [Stmt.comments, Stmt.remarks, Stmt.commentsOpt, Stmt.gotoLabel, gotoIf, popTo, Stmt.callProc] using
      lowerList_comments env function ops opened σ
  | .brTable ops targets default, opened, σ => by
    simp only [lowerInstr, run_bind, run_pure, Instr.approximations]
    have dispatch := comments_tableDispatch
    simp only [Stmt.comments] at dispatch
    simpa [Stmt.comments, Stmt.remarks, dispatch, popTo, Stmt.callProc] using
      lowerList_comments env function ops opened σ

theorem lowerOpt_comments (env : Env) (function : String) : ∀ (i : Option Instr) (opened : List (Option String))
    (σ : State),
    Instr.commentedMessages (Instr.approximationsOpt function opened i) <+ Stmt.comments ((lowerOpt env i).run σ).1
  | some i, opened, σ => lowerInstr_comments env function i opened σ
  | none, opened, σ => by
    simp only [lowerOpt, Instr.approximationsOpt]
    exact List.nil_sublist _

theorem lowerList_comments (env : Env) (function : String) : ∀ (is : List Instr) (opened : List (Option String))
    (σ : State),
    Instr.commentedMessages (Instr.approximationsList function opened is) <+ Stmt.comments ((lowerList env is).run σ).1
  | [], opened, σ => by
    simp only [lowerList, Instr.approximationsList]
    exact List.nil_sublist _
  | i :: rest, opened, σ => by
    simp only [lowerList, run_bind, run_pure, Instr.approximationsList, Instr.commentedMessages_append,
      Stmt.comments_append]
    exact (lowerInstr_comments env function i opened σ).append (lowerList_comments env function rest opened _)

end

section Functions

variable (options : LowerOptions) (callees : CalleeTable) (name : String) (f : Function)

/-- A lowered function records the approximations of its body, with no scope open, after the
reports already made. -/
theorem lowerFunction_diagnostics (σ : State) :
    ((lowerFunction options callees name f).run σ).2.diagnostics.toList =
      σ.diagnostics.toList ++ Instr.approximationsList name [] f.body := by
  unfold lowerFunction
  by_cases params : f.paramCount > 0 <;>
    simp only [params, if_true, if_false, run_bind, run_pure, run_get, run_modify, ensurePopArgs_run,
      lowerList_diagnostics, List.map_nil]

/-- The implementation of a lowered function carries the message of each approximation of its
body but the unresolved branches as a comment, in order. -/
theorem lowerFunction_comments (σ : State) :
    Instr.commentedMessages (Instr.approximationsList name [] f.body) <+
      Stmt.comments ((lowerFunction options callees name f).run σ).1.2.body := by
  have zeroLocals : ∀ names : List String,
      Stmt.comments (names.map fun n => Stmt.assign (.ident n) Expr.realZero) = [] := by
    intro names
    refine Stmt.comments_eq_nil fun st mem => ?_
    obtain ⟨_, -, rfl⟩ := List.mem_map.1 mem
    rfl
  unfold lowerFunction
  by_cases params : f.paramCount > 0 <;>
    simp only [params, if_true, if_false, run_bind, run_pure, run_get, run_modify, ensurePopArgs_run,
      Stmt.comments_append, zeroLocals, Stmt.comments, Stmt.remarks, List.nil_append, List.append_assoc]
  all_goals exact List.sublist_append_of_sublist_left (lowerList_comments _ name f.body [] _)

end Functions

/-- A depth of exactly the number of open scopes goes to the function's exit and reports
nothing. -/
theorem resolveBranch_depth_opened (env : Env) (σ : State) :
    (resolveBranch env (.depth σ.scopes.length)).run σ = exitLabel.run σ := by
  simp only [resolveBranch, run_bind, run_get, gt_iff_lt, Nat.lt_irrefl, if_false, run_pure]

end Lower

/-- Every approximation is reported. A lowered module's diagnostics are the approximations of each
function's body in turn, in the order the lowering visits it, tagged with the function's procedure
name: constants whose literal has no value, operators outside the model, raw instructions that
are no structural fragment, and branch targets that no open scope answers. The implementation
of each function carries the messages of all but the unresolved branches as comments, in the
same order. A depth of exactly the number of open scopes goes to the function's exit and reports
nothing. -/
theorem approximations_reported {m : Module} {options : LowerOptions} {r : LoweredModule}
    (lowered : lowerModule m options = .ok r) :
    r.diagnostics = m.functions.flatMap (fun f =>
      Instr.approximationsList (Ident.procedureName f.name f.index) [] f.body) ∧
    (∀ f ∈ m.functions, ∃ impl, .implementation impl ∈ r.program.decls ∧
      impl.name = Ident.procedureName f.name f.index ∧
      Instr.commentedMessages (Instr.approximationsList (Ident.procedureName f.name f.index) [] f.body) <+
        Stmt.comments impl.body) ∧
    ∀ (env : Lower.Env) (σ : Lower.State),
      (Lower.resolveBranch env (.depth σ.scopes.length)).run σ = Lower.exitLabel.run σ := by
  obtain ⟨callees, helpers, -, -, -, decls, diagnostics⟩ := Lower.lowerModule_ok lowered
  refine ⟨?_, fun f mem => ⟨(Lower.lowerAlone options callees f).1.2, ?_,
    Lower.lowerFunction_implementationName options callees _ f {}, Lower.lowerFunction_comments options callees _ f {}⟩,
    Lower.resolveBranch_depth_opened⟩
  · rw [diagnostics]
    simp [Lower.lowerAlone, Lower.lowerFunction_diagnostics]
  · rw [decls]
    exact List.mem_append_right _ (List.mem_flatMap.2 ⟨f, mem, by simp [Lower.aloneDecls, Lower.lowerAlone]⟩)

/-- A function with an operator outside the model, a branch past its scopes and a raw
instruction reports all three. -/
theorem three_approximations_reported :
    let m : Module := { functions := [⟨some "f", 0,
      [.binary "i32.rotl" (some (.const .i32 "1")) (some (.const .i32 "2")), .br (.depth 1) [], .raw "memory.grow"],
      0, 0, 0, []⟩] }
    ∃ r, lowerModule m {} = .ok r ∧
      r.diagnostics = m.functions.flatMap (fun f =>
        Instr.approximationsList (Ident.procedureName f.name f.index) [] f.body) ∧
      (∀ f ∈ m.functions, ∃ impl, .implementation impl ∈ r.program.decls ∧
        impl.name = Ident.procedureName f.name f.index ∧
        Instr.commentedMessages (Instr.approximationsList (Ident.procedureName f.name f.index) [] f.body) <+
          Stmt.comments impl.body) ∧
      ∀ (env : Lower.Env) (σ : Lower.State),
        (Lower.resolveBranch env (.depth σ.scopes.length)).run σ = Lower.exitLabel.run σ := by
  intro m
  have labelled : ∀ f ∈ m.functions, Lower.LabelsPass {} f := by
    intro f mem _
    rw [List.mem_singleton.1 mem]
    rfl
  obtain ⟨r, lowered⟩ := Lower.lowerModule_succeeds_iff.2 ⟨⟨_, rfl⟩, labelled⟩
  exact ⟨r, lowered, approximations_reported lowered⟩

end WasmBoogie
