import Mathlib.Data.List.Count
import WasmBoogie.Proofs.Lower.Naming
import WasmBoogie.Proofs.Boogie.Nested

namespace WasmBoogie

open Boogie Boogie.Stmt

namespace Instr

mutual

/-- Whether an instruction writes a local slot, at any depth of its operands and bodies. -/
def writesLocal : Instr → Bool
  | .localSet _ _ | .localTee _ _ => true
  | .unary _ v => writesLocalOpt v
  | .binary _ l r => writesLocalOpt l || writesLocalOpt r
  | .call _ ops | .select ops | .structural _ ops | .ret ops | .br _ ops | .brIf _ ops
  | .brTable ops _ _ | .block _ ops | .loop _ ops => writesLocalList ops
  | .ite _ cond thenBody (some elseBody) => writesLocalList cond || writesLocalList thenBody || writesLocalList elseBody
  | .ite _ cond thenBody none => writesLocalList cond || writesLocalList thenBody
  | .const .. | .localGet _ | .nop | .unreachable | .raw _ => false

def writesLocalOpt : Option Instr → Bool
  | some i => writesLocal i
  | none => false

def writesLocalList : List Instr → Bool
  | [] => false
  | i :: rest => writesLocal i || writesLocalList rest

end

end Instr

namespace Function

/-- The helpers a function needs: the one of its parameter count if it has parameters, and
`popArgs1` if its body writes a local. -/
def NeedsHelper (f : Function) (n : Nat) : Prop :=
  (0 < f.paramCount ∧ n = f.paramCount) ∨ (n = 1 ∧ Instr.writesLocalList f.body = true)

end Function

/-- The name of the implementation a declaration gives, if it gives one. -/
def Boogie.Decl.implementationName? : Decl → Option String
  | .implementation impl => some impl.name
  | .comment _ | .global _ | .function .. | .procedure _ => none

/-- The names of the implementations a program gives, in order. -/
def Boogie.Program.implementationNames (p : Program) : List String :=
  p.decls.filterMap Decl.implementationName?

namespace CalleeTable

/-- A built table resolves every call target to a name that is not reserved: the name of a
function of the module, or a name made by sanitizing. -/
theorem resolve_unreserved {m : Module} {t : CalleeTable} (built : CalleeTable.build m = .ok t) (target : String) :
    Ident.isReserved (t.resolve target) = false := by
  have indexed : ∀ p ∈ t.byIndex, Ident.isReserved p.2 = false := by
    intro p mem
    rw [(CalleeTable.addEntries_tables built).1, List.append_nil, List.mem_reverse] at mem
    obtain ⟨e, e_mem, rfl⟩ := List.mem_map.1 mem
    exact CalleeTable.isReserved_entries _ (List.mem_map_of_mem e_mem)
  simp only [CalleeTable.resolve]
  split
  · split
    · cases found : t.byIndex.find? (·.1 == digitsValue target) with
      | none => exact Ident.isReserved_func _
      | some p => exact indexed p (List.mem_of_find?_eq_some found)
    · exact Ident.isReserved_func _
  · cases found : t.byName.find? (·.1 == (dropDollar? target).getD target) with
    | none => exact Ident.isReserved_sanitize _
    | some p =>
      rw [Option.map_some, Option.getD_some, CalleeTable.byName_sanitized built p (List.mem_of_find?_eq_some found)]
      exact Ident.isReserved_sanitize _

end CalleeTable

namespace Lower

theorem popArgsName_ne_popToTmp (n k : Nat) : Ident.popArgsName n ≠ popToTmp k := by
  simp [Ident.popArgsName, popToTmp, ← String.toList_inj]

theorem popArgsName_ne_push (n : Nat) : Ident.popArgsName n ≠ "push" := by
  simp [Ident.popArgsName, ← String.toList_inj]

theorem popArgsName_ne_pop (n : Nat) : Ident.popArgsName n ≠ "pop" := by
  simp [Ident.popArgsName, ← String.toList_inj]

/-- A callee that is not reserved is no helper. -/
theorem popArgsName_ne_of_unreserved {callee : String} (unreserved : Ident.isReserved callee = false)
    (n : Nat) : Ident.popArgsName n ≠ callee := by
  rintro rfl
  rw [Ident.isReserved_popArgsName] at unreserved
  cases unreserved

theorem helpers_exitLabel (σ : State) : (exitLabel.run σ).2.helpers = σ.helpers := by
  rw [exitLabel_run]
  split <;> rfl

theorem helpers_enterScope (env : Env) (label : Option String) (kind : ScopeKind) (σ : State) :
    ((enterScope env label kind).run σ).2.helpers = σ.helpers := by
  rw [enterScope_run]

theorem helpers_leaveScope (env : Env) (σ : State) : ((leaveScope env).run σ).2.helpers = σ.helpers := by
  obtain ⟨_ | ⟨s, rest⟩, _, _, _, _, _⟩ := σ <;> rfl

theorem helpers_resolveBranch (env : Env) (target : LabelRef) (σ : State) :
    ((resolveBranch env target).run σ).2.helpers = σ.helpers := by
  obtain ⟨diagnostics, run⟩ := resolveBranch_run env target σ
  rw [run]
  split
  · split
    · rfl
    · exact helpers_exitLabel _
  · exact helpers_exitLabel _

theorem helpers_resolveAll (env : Env) (targets : List LabelRef) (σ : State) :
    ((targets.mapM (resolveBranch env)).run σ).2.helpers = σ.helpers := by
  induction targets generalizing σ with
  | nil => rfl
  | cons t rest ih => simp only [List.mapM_cons, run_bind, run_pure, ih, helpers_resolveBranch]

theorem helpers_lowerUnary (env : Env) (op : String) (σ : State) :
    ((lowerUnary env op).run σ).2.helpers = σ.helpers := by
  simp only [lowerUnary]
  cases UnaryKind.ofName op <;> rfl

theorem helpers_lowerBinary (env : Env) (op : String) (σ : State) :
    ((lowerBinary env op).run σ).2.helpers = σ.helpers := by
  simp only [lowerBinary]
  split <;> rfl

theorem helpers_lowerConst (env : Env) (ty : NumType) (literal : String) (σ : State) :
    ((lowerInstr env (.const ty literal)).run σ).2.helpers = σ.helpers := by
  simp only [lowerInstr]
  split <;> rfl

theorem helpers_lowerRaw (env : Env) (name : String) (σ : State) :
    ((lowerInstr env (.raw name)).run σ).2.helpers = σ.helpers := by
  simp only [lowerInstr]
  split <;> rfl

theorem mem_helpers_ensurePopArgs (arity : Nat) (σ : State) (n : Nat) :
    n ∈ ((ensurePopArgs arity).run σ).2.helpers ↔ n ∈ σ.helpers ∨ n = arity := by
  rw [ensurePopArgs_run]
  split
  · rename_i used
    constructor
    · exact .inl
    · rintro (mem | rfl)
      · exact mem
      · exact List.contains_iff_mem.1 used
  · simp

mutual

/-- Lowering an instruction asks for `popArgs1` when the instruction writes a local, and for no
other helper. -/
theorem lowerInstr_helpers (env : Env) : ∀ (i : Instr) (σ : State) (n : Nat),
    n ∈ ((lowerInstr env i).run σ).2.helpers ↔ n ∈ σ.helpers ∨ n = 1 ∧ i.writesLocal = true
  | .const ty literal, σ, n => by simp [helpers_lowerConst, Instr.writesLocal]
  | .raw name, σ, n => by simp [helpers_lowerRaw, Instr.writesLocal]
  | .localGet _, _, _ | .nop, _, _ | .unreachable, _, _ => by
    simp only [lowerInstr, run_pure, Instr.writesLocal, Bool.false_eq_true, and_false, or_false]
  | .localSet _ value, σ, n | .localTee _ value, σ, n => by
    simp only [lowerInstr, run_bind, run_pure, mem_helpers_ensurePopArgs, lowerOpt_helpers, Instr.writesLocal]
    tauto
  | .unary op operand, σ, n => by
    simp only [lowerInstr, run_bind, run_pure, helpers_lowerUnary, lowerOpt_helpers, Instr.writesLocal]
  | .binary op left right, σ, n => by
    simp only [lowerInstr, run_bind, run_pure, helpers_lowerBinary, lowerOpt_helpers, Instr.writesLocal,
      Bool.or_eq_true]
    tauto
  | .call _ ops, σ, n | .select ops, σ, n | .structural _ ops, σ, n => by
    simp only [lowerInstr, run_bind, run_pure, lowerList_helpers, Instr.writesLocal]
  | .block _ body, σ, n | .loop _ body, σ, n => by
    simp only [lowerInstr, run_bind, run_pure, helpers_leaveScope, lowerList_helpers, helpers_enterScope,
      Instr.writesLocal]
  | .ite _ cond thenBody (some elseBody), σ, n => by
    simp only [lowerInstr, run_bind, run_pure, run_map, helpers_leaveScope, lowerList_helpers,
      helpers_enterScope, Instr.writesLocal, Bool.or_eq_true]
    tauto
  | .ite _ cond thenBody none, σ, n => by
    simp only [lowerInstr, run_bind, run_pure, helpers_leaveScope, lowerList_helpers, helpers_enterScope,
      Instr.writesLocal, Bool.or_eq_true]
    tauto
  | .br target ops, σ, n | .brIf target ops, σ, n => by
    simp only [lowerInstr, run_bind, run_pure, helpers_resolveBranch, lowerList_helpers, Instr.writesLocal]
  | .brTable ops targets default, σ, n => by
    simp only [lowerInstr, run_bind, run_pure, helpers_resolveBranch, helpers_resolveAll, lowerList_helpers,
      Instr.writesLocal]
  | .ret ops, σ, n => by
    simp only [lowerInstr, run_bind, run_pure, helpers_exitLabel, lowerList_helpers, Instr.writesLocal]

theorem lowerOpt_helpers (env : Env) : ∀ (i : Option Instr) (σ : State) (n : Nat),
    n ∈ ((lowerOpt env i).run σ).2.helpers ↔ n ∈ σ.helpers ∨ n = 1 ∧ Instr.writesLocalOpt i = true
  | some i, σ, n => lowerInstr_helpers env i σ n
  | none, σ, n => by
    simp only [lowerOpt, run_pure, Instr.writesLocalOpt, Bool.false_eq_true, and_false, or_false]

theorem lowerList_helpers (env : Env) : ∀ (is : List Instr) (σ : State) (n : Nat),
    n ∈ ((lowerList env is).run σ).2.helpers ↔ n ∈ σ.helpers ∨ n = 1 ∧ Instr.writesLocalList is = true
  | [], σ, n => by
    simp only [lowerList, run_pure, Instr.writesLocalList, Bool.false_eq_true, and_false, or_false]
  | i :: rest, σ, n => by
    simp only [lowerList, run_bind, run_pure, lowerList_helpers env rest, lowerInstr_helpers env i,
      Instr.writesLocalList, Bool.or_eq_true]
    tauto

end

theorem helper_not_mem_lowerUnary (env : Env) (op : String) (σ : State) (n : Nat) :
    Ident.popArgsName n ∉ callees ((lowerUnary env op).run σ).1 := by
  simp only [lowerUnary]
  cases UnaryKind.ofName op <;> simp only [run_bind, run_pure, note_run] <;>
    simp [callees, calls, push, popTo, pushUnknown, Stmt.callProc, popArgsName_ne_push, popArgsName_ne_pop,
      popArgsName_ne_popToTmp]

theorem helper_not_mem_lowerBinary (env : Env) (op : String) (σ : State) (n : Nat) :
    Ident.popArgsName n ∉ callees ((lowerBinary env op).run σ).1 := by
  simp only [lowerBinary]
  split <;> simp only [run_bind, run_pure, note_run] <;> split <;>
    simp [callees, calls, push, popTo, pushUnknown, Stmt.callProc, popArgsName_ne_push, popArgsName_ne_popToTmp]

theorem callees_leaveScope (env : Env) (σ : State) : callees ((leaveScope env).run σ).1 = [] := by
  obtain ⟨_ | ⟨s, rest⟩, _, _, _, _, _⟩ := σ
  · rfl
  · rw [leaveScope_run rfl]
    split <;> rfl

theorem callees_tableDispatch (labels : List String) (default : String) :
    callees [tableDispatch labels default] = [] := by
  unfold tableDispatch
  split
  · rfl
  · simp only [callees, calls, calleesOpt, callees_append, Stmt.gotoLabel, List.append_nil]
    induction labels.zipIdx with
    | nil => rfl
    | cons x rest ih => simpa [callees, calls, calleesOpt, gotoIf, Stmt.gotoLabel] using ih

section Calls

variable (env : Env)

mutual

/-- A lowered instruction calls `popArgs1` when the instruction writes a local, and no other
helper, when no call target resolves to a reserved name. -/
theorem lowerInstr_callsHelper (unreserved : ∀ target, Ident.isReserved (env.callees.resolve target) = false) :
    ∀ (i : Instr) (σ : State) (n : Nat),
      Ident.popArgsName n ∈ callees ((lowerInstr env i).run σ).1 ↔ n = 1 ∧ i.writesLocal = true
  | .const ty literal, σ, n | .raw literal, σ, n => by
    simp only [lowerInstr]
    split <;> simp only [run_bind, run_pure, note_run] <;>
      simp [callees, calls, push, pushUnknown, Stmt.callProc, popArgsName_ne_push, Instr.writesLocal]
  | .localGet _, σ, n => by
    simp only [lowerInstr, run_pure]
    simp [callees, calls, push, Stmt.callProc, popArgsName_ne_push, Instr.writesLocal]
  | .nop, σ, n | .unreachable, σ, n => by
    simp only [lowerInstr, run_pure]
    simp [callees, calls, Instr.writesLocal]
  | .localSet _ value, σ, n | .localTee _ value, σ, n => by
    simp only [lowerInstr, run_bind, run_pure, ensurePopArgs_run]
    simp only [callees_append, List.mem_append, lowerOpt_callsHelper unreserved]
    simp [callees, calls, push, Stmt.callProc, popArgsName_ne_push, Instr.writesLocal]
    exact fun same _ => same
  | .call target ops, σ, n => by
    simp only [lowerInstr, run_bind, run_pure]
    simp [lowerList_callsHelper unreserved, callees, calls, Stmt.callProc,
      popArgsName_ne_of_unreserved (unreserved target), Instr.writesLocal]
  | .unary op operand, σ, n => by
    simp only [lowerInstr, run_bind, run_pure]
    simp [lowerOpt_callsHelper unreserved, helper_not_mem_lowerUnary, Instr.writesLocal]
  | .binary op left right, σ, n => by
    simp only [lowerInstr, run_bind, run_pure]
    simp [lowerOpt_callsHelper unreserved, helper_not_mem_lowerBinary, Instr.writesLocal, and_or_left]
  | .select ops, σ, n => by
    simp only [lowerInstr, run_bind, run_pure]
    simp [lowerList_callsHelper unreserved, callees, calls, calleesOpt, push, popTo, Stmt.callProc,
      popArgsName_ne_push, popArgsName_ne_popToTmp, Instr.writesLocal]
  | .structural _ body, σ, n => by
    simp only [lowerInstr]
    simp [lowerList_callsHelper unreserved, Instr.writesLocal]
  | .block _ body, σ, n => by
    simp only [lowerInstr, run_bind, run_pure]
    simp [lowerList_callsHelper unreserved, callees_leaveScope, Instr.writesLocal]
  | .loop _ body, σ, n => by
    simp only [lowerInstr, run_bind, run_pure]
    split <;> simp [lowerList_callsHelper unreserved, callees_leaveScope, callees, calls, Instr.writesLocal]
  | .ite _ cond thenBody (some elseBody), σ, n => by
    simp only [lowerInstr, run_bind, run_pure, run_map]
    simp [lowerList_callsHelper unreserved, callees_leaveScope, callees, calls, calleesOpt, popTo,
      Stmt.callProc, popArgsName_ne_popToTmp, Instr.writesLocal, and_or_left, or_assoc]
  | .ite _ cond thenBody none, σ, n => by
    simp only [lowerInstr, run_bind, run_pure]
    simp [lowerList_callsHelper unreserved, callees_leaveScope, callees, calls, calleesOpt, popTo,
      Stmt.callProc, popArgsName_ne_popToTmp, Instr.writesLocal, and_or_left]
  | .br target ops, σ, n | .ret ops, σ, n => by
    simp only [lowerInstr, run_bind, run_pure]
    simp [lowerList_callsHelper unreserved, callees, calls, Stmt.gotoLabel, Instr.writesLocal]
  | .brIf target ops, σ, n => by
    simp only [lowerInstr, run_bind, run_pure]
    simp [lowerList_callsHelper unreserved, callees, calls, calleesOpt, popTo, gotoIf, Stmt.callProc,
      Stmt.gotoLabel, popArgsName_ne_popToTmp, Instr.writesLocal]
  | .brTable ops targets default, σ, n => by
    simp only [lowerInstr, run_bind, run_pure]
    have dispatch := callees_tableDispatch
    simp only [callees] at dispatch
    simp [lowerList_callsHelper unreserved, callees, calls, dispatch, popTo, Stmt.callProc,
      popArgsName_ne_popToTmp, Instr.writesLocal]

theorem lowerOpt_callsHelper (unreserved : ∀ target, Ident.isReserved (env.callees.resolve target) = false) :
    ∀ (i : Option Instr) (σ : State) (n : Nat),
      Ident.popArgsName n ∈ callees ((lowerOpt env i).run σ).1 ↔ n = 1 ∧ Instr.writesLocalOpt i = true
  | some i, σ, n => lowerInstr_callsHelper unreserved i σ n
  | none, σ, n => by
    simp only [lowerOpt, run_pure]
    simp [callees, Instr.writesLocalOpt]

theorem lowerList_callsHelper (unreserved : ∀ target, Ident.isReserved (env.callees.resolve target) = false) :
    ∀ (is : List Instr) (σ : State) (n : Nat),
      Ident.popArgsName n ∈ callees ((lowerList env is).run σ).1 ↔ n = 1 ∧ Instr.writesLocalList is = true
  | [], σ, n => by
    simp only [lowerList, run_pure]
    simp [callees, Instr.writesLocalList]
  | i :: rest, σ, n => by
    simp only [lowerList, run_bind, run_pure]
    simp [lowerList_callsHelper unreserved rest, lowerInstr_callsHelper unreserved i, Instr.writesLocalList,
      and_or_left]

end

end Calls

section Functions

variable (options : LowerOptions) (callees : CalleeTable) (name : String) (f : Function)

theorem run_modify (g : State → State) (σ : State) : (modify g : LowerM Unit).run σ = ((), g σ) := rfl

/-- Lowering a function asks for the helpers it needs and for no other. -/
theorem lowerFunction_helpers (σ : State) (n : Nat) :
    n ∈ ((lowerFunction options callees name f).run σ).2.helpers ↔ n ∈ σ.helpers ∨ f.NeedsHelper n := by
  unfold lowerFunction
  by_cases params : f.paramCount > 0 <;>
    simp only [params, if_true, if_false, run_bind, run_pure, run_get, run_modify]
  · rw [lowerList_helpers, mem_helpers_ensurePopArgs]
    simp [Function.NeedsHelper, params, or_assoc]
  · rw [lowerList_helpers]
    simp [Function.NeedsHelper, params]

/-- The implementation of a lowered function calls exactly the helpers the function needs. -/
theorem lowerFunction_callsHelper (unreserved : ∀ target, Ident.isReserved (callees.resolve target) = false)
    (σ : State) (n : Nat) :
    Ident.popArgsName n ∈ Stmt.callees ((lowerFunction options callees name f).run σ).1.2.body ↔
      f.NeedsHelper n := by
  have zeroLocals : ∀ names : List String,
      Stmt.callees (names.map fun n => Stmt.assign (.ident n) Expr.realZero) = [] := by
    intro names
    refine callees_eq_nil fun st mem => ?_
    obtain ⟨_, -, rfl⟩ := List.mem_map.1 mem
    rfl
  have footer : Stmt.callees [if options.stackAssert then
      Stmt.assert (stackEffect (.ident "entry_sp") f.paramCount f.resultCount)
      else .comment "footer stack assert disabled"] = [] := by
    split <;> rfl
  unfold lowerFunction
  by_cases params : f.paramCount > 0 <;>
    simp only [params, if_true, if_false, run_bind, run_pure, run_get, run_modify, ensurePopArgs_run,
      callees_append, List.mem_append, zeroLocals, footer,
      lowerList_callsHelper ⟨options, callees, name, scanLabels f.body, f.paramCount⟩ unreserved]
  all_goals split
  all_goals simp [Stmt.callees, Stmt.calls, Function.NeedsHelper, params]

theorem lowerFunction_implementationName (σ : State) :
    ((lowerFunction options callees name f).run σ).1.2.name = name := by
  unfold lowerFunction
  dsimp only
  split <;> rfl

end Functions

theorem popArgsName_not_mem_runtime (n : Nat) : Ident.popArgsName n ∉ runtimeProcedureNames := by
  have fresh : ∀ w ∈ runtimeProcedureNames, ¬ "popArgs".toList <+: w.toList := by decide
  exact Ident.not_mem_of_prefix fresh (toString n)

/-- Among the runtime's procedures, the helpers of distinct arities and unreserved names, the name
of a helper occurs once if its arity is among those and not at all otherwise. -/
theorem count_popArgsName {arities : List Nat} (distinct : arities.Nodup) {names : List String}
    (unreserved : ∀ x ∈ names, Ident.isReserved x = false) (n : Nat) :
    (runtimeProcedureNames ++ arities.map Ident.popArgsName ++ names).count (Ident.popArgsName n) =
      if n ∈ arities then 1 else 0 := by
  have runtime : runtimeProcedureNames.count (Ident.popArgsName n) = 0 :=
    List.count_eq_zero.2 (popArgsName_not_mem_runtime n)
  have module : names.count (Ident.popArgsName n) = 0 :=
    List.count_eq_zero.2 fun mem => popArgsName_ne_of_unreserved (unreserved _ mem) n rfl
  have helpers : (arities.map Ident.popArgsName).count (Ident.popArgsName n) = arities.count n :=
    List.count_map_of_injective _ _ (fun _ _ same => popArgsName_inj.1 same) n
  rw [List.count_append, List.count_append, runtime, module, helpers, Nat.zero_add, Nat.add_zero]
  split
  · rename_i mem
    exact List.count_eq_one_of_mem distinct mem
  · rename_i absent
    exact List.count_eq_zero_of_not_mem absent

/-- The head of a lowered program gives the implementations of the runtime's procedures and of the
helpers, in that order. -/
theorem implementationNames_programHead (options : LowerOptions) (imports : List Import) (arities : List Nat) :
    (programHead options imports arities).filterMap Decl.implementationName? =
      runtimeProcedureNames ++ arities.map Ident.popArgsName := by
  have runtime : prelude.filterMap Decl.implementationName? = runtimeProcedureNames := by decide
  have helpers : (helperDecls arities).filterMap Decl.implementationName? = arities.map Ident.popArgsName := by
    induction arities with
    | nil => rfl
    | cons n rest ih =>
      simp only [helperDecls, List.flatMap_cons, List.filterMap_append, List.map_cons] at ih ⊢
      rw [ih]
      rfl
  have imported : (imports.map fun i => importProcedure (Ident.importName i) i.paramCount i.resultCount).filterMap
      Decl.implementationName? = [] := by
    rw [List.filterMap_map]
    exact List.filterMap_eq_nil_iff.2 fun _ _ => rfl
  cases contract : options.contractName <;>
    simp only [programHead, contract, List.filterMap_append, List.filterMap_cons, Decl.implementationName?,
      List.filterMap_nil, runtime, helpers, imported, List.nil_append, List.append_nil]

theorem implementationNames_aloneDecls (options : LowerOptions) (callees : CalleeTable) (fs : List Function) :
    (fs.flatMap (aloneDecls options callees)).filterMap Decl.implementationName? =
      fs.map fun f => Ident.procedureName f.name f.index := by
  induction fs with
  | nil => rfl
  | cons f rest ih =>
    rw [List.flatMap_cons, List.filterMap_append, ih, List.map_cons]
    simp [aloneDecls, List.filterMap_cons, Decl.implementationName?, lowerAlone, lowerFunction_implementationName]

/-- The head of a lowered program calls nothing: the runtime's procedures and the helpers only
assume, assign and move the stack pointer. -/
theorem callees_programHead (options : LowerOptions) (imports : List Import) (arities : List Nat) :
    (programHead options imports arities).flatMap Decl.callees = [] := by
  have runtime : prelude.flatMap Decl.callees = [] := rfl
  have helpers : (helperDecls arities).flatMap Decl.callees = [] := by
    refine List.flatMap_eq_nil_iff.2 fun d mem => ?_
    obtain ⟨n, -, mem⟩ := List.mem_flatMap.1 mem
    simp only [List.mem_cons, List.not_mem_nil, or_false] at mem
    rcases mem with rfl | rfl
    · rfl
    · refine callees_eq_nil fun st mem => ?_
      simp only [List.mem_cons, List.mem_flatMap, List.not_mem_nil, or_false] at mem
      rcases mem with rfl | ⟨_, -, rfl | rfl⟩ <;> rfl
  have imported : (imports.map fun i => importProcedure (Ident.importName i) i.paramCount i.resultCount).flatMap
      Decl.callees = [] :=
    List.flatMap_eq_nil_iff.2 fun d mem => by
      obtain ⟨_, -, rfl⟩ := List.mem_map.1 mem
      rfl
  cases contract : options.contractName <;>
    simp only [programHead, contract, List.flatMap_append, List.flatMap_cons, List.flatMap_nil, Decl.callees,
      runtime, helpers, imported, List.append_nil]

theorem callees_aloneDecls (options : LowerOptions) (callees : CalleeTable) (fs : List Function) :
    (fs.flatMap (aloneDecls options callees)).flatMap Decl.callees =
      fs.flatMap fun f => Stmt.callees (lowerAlone options callees f).1.2.body := by
  induction fs with
  | nil => rfl
  | cons f rest ih =>
    rw [List.flatMap_cons, List.flatMap_append, ih, List.flatMap_cons]
    simp [aloneDecls, Decl.callees]

/-- A program head holds only comments before the prelude. -/
theorem programHead_split (options : LowerOptions) (imports : List Import) (arities : List Nat) :
    ∃ header, programHead options imports arities = header ++ prelude ++ helperDecls arities ++
        imports.map (fun i => importProcedure (Ident.importName i) i.paramCount i.resultCount) ∧
      ∀ d ∈ header, ∃ t, d = .comment t := by
  refine ⟨_, rfl, fun d mem => ?_⟩
  rcases List.mem_cons.1 mem with rfl | mem
  · exact ⟨_, rfl⟩
  · split at mem
    · exact ⟨_, List.mem_singleton.1 mem⟩
    · cases mem

section Assembled

variable {p : Program} {options : LowerOptions} {imports : List Import} {arities : List Nat}
  {callees : CalleeTable} {fs : List Function}

theorem count_procedureNames_popArgs
    (assembled : p.decls = programHead options imports arities ++ fs.flatMap (aloneDecls options callees))
    (distinct : arities.Nodup) (n : Nat) :
    p.procedureNames.count (Ident.popArgsName n) = if n ∈ arities then 1 else 0 := by
  have unreserved : ∀ x ∈ imports.map Ident.importName ++ fs.map (fun f => Ident.procedureName f.name f.index),
      Ident.isReserved x = false := by
    intro x mem
    rcases List.mem_append.1 mem with imported | defined
    · obtain ⟨i, -, rfl⟩ := List.mem_map.1 imported
      exact Ident.isReserved_importName i
    · obtain ⟨f, -, rfl⟩ := List.mem_map.1 defined
      exact Ident.isReserved_procedureName f.name f.index
  rw [Program.procedureNames, assembled, List.filterMap_append, procedureNames_programHead,
    procedureNames_aloneDecls, List.append_assoc _ (imports.map Ident.importName)]
  exact count_popArgsName distinct unreserved n

theorem count_implementationNames_popArgs
    (assembled : p.decls = programHead options imports arities ++ fs.flatMap (aloneDecls options callees))
    (distinct : arities.Nodup) (n : Nat) :
    p.implementationNames.count (Ident.popArgsName n) = if n ∈ arities then 1 else 0 := by
  have unreserved : ∀ x ∈ fs.map (fun f => Ident.procedureName f.name f.index), Ident.isReserved x = false := by
    intro x mem
    obtain ⟨f, -, rfl⟩ := List.mem_map.1 mem
    exact Ident.isReserved_procedureName f.name f.index
  rw [Program.implementationNames, assembled, List.filterMap_append, implementationNames_programHead,
    implementationNames_aloneDecls]
  exact count_popArgsName distinct unreserved n

/-- Only the functions' implementations call helpers, each those its function needs. -/
theorem mem_callees_popArgs
    (assembled : p.decls = programHead options imports arities ++ fs.flatMap (aloneDecls options callees))
    (unreserved : ∀ target, Ident.isReserved (callees.resolve target) = false) (n : Nat) :
    Ident.popArgsName n ∈ p.callees ↔ ∃ f ∈ fs, f.NeedsHelper n := by
  simp [Program.callees, assembled, callees_programHead, callees_aloneDecls, lowerAlone,
    lowerFunction_callsHelper _ _ _ _ unreserved]

end Assembled

end Lower

/-- Some function needs a helper exactly when the helper's arity is the positive parameter count
of a function, or it is 1 and a function's body writes a local. -/
theorem Function.exists_needsHelper_iff {fs : List Function} {n : Nat} :
    (∃ f ∈ fs, f.NeedsHelper n) ↔ (∃ f ∈ fs, 0 < f.paramCount ∧ f.paramCount = n) ∨
      (n = 1 ∧ ∃ f ∈ fs, Instr.writesLocalList f.body = true) := by
  constructor
  · rintro ⟨f, mem, ⟨positive, rfl⟩ | ⟨rfl, writes⟩⟩
    · exact .inl ⟨f, mem, positive, rfl⟩
    · exact .inr ⟨rfl, f, mem, writes⟩
  · rintro (⟨f, mem, positive, rfl⟩ | ⟨rfl, f, mem, writes⟩)
    · exact ⟨f, mem, .inl ⟨positive, rfl⟩⟩
    · exact ⟨f, mem, .inr ⟨rfl, writes⟩⟩

/-- The argument-popping helpers of a lowered program are exactly those it calls. The program
declares the procedure and the implementation of each helper of some arities, once each and by
increasing arity, right after the prelude and before the procedures of the imports, with only
comments before the prelude. An arity is among them exactly when some implementation of the
program calls its helper, and exactly when it is the positive parameter count of a function or
it is 1 and some function's body writes a local. -/
theorem popArgs_helpers_exactly_called {m : Module} {options : LowerOptions} {r : LoweredModule}
    (lowered : lowerModule m options = .ok r) :
    ∃ arities : List Nat, arities.Pairwise (· < ·) ∧
      (∃ header rest, r.program.decls = header ++ Lower.prelude ++ Lower.helperDecls arities ++
          m.imports.map (fun i => Lower.importProcedure (Ident.importName i) i.paramCount i.resultCount) ++ rest ∧
        ∀ d ∈ header, ∃ t, d = .comment t) ∧
      (∀ n, n ∈ arities ↔ Ident.popArgsName n ∈ r.program.callees) ∧
      (∀ n, n ∈ arities ↔ (∃ f ∈ m.functions, 0 < f.paramCount ∧ f.paramCount = n) ∨
        (n = 1 ∧ ∃ f ∈ m.functions, Instr.writesLocalList f.body = true)) ∧
      ∀ n, r.program.procedureNames.count (Ident.popArgsName n) = (if n ∈ arities then 1 else 0) ∧
        r.program.implementationNames.count (Ident.popArgsName n) = (if n ∈ arities then 1 else 0) := by
  obtain ⟨callees, helpers, built, -, used, decls, -⟩ := Lower.lowerModule_ok lowered
  obtain ⟨sorted, sortedMem⟩ := Lower.foldl_insertSorted helpers [] List.Pairwise.nil
  have needed : ∀ n, n ∈ helpers.foldl (fun acc n => Lower.insertSorted n acc) [] ↔
      ∃ f ∈ m.functions, f.NeedsHelper n := by
    intro n
    simp [sortedMem, used, Lower.lowerAlone, Lower.lowerFunction_helpers]
  obtain ⟨header, head, comments⟩ := Lower.programHead_split options m.imports
    (helpers.foldl (fun acc n => Lower.insertSorted n acc) [])
  refine ⟨_, sorted, ⟨header, _, by rw [decls, head], comments⟩, fun n => ?_, fun n => ?_, fun n =>
    ⟨Lower.count_procedureNames_popArgs decls sorted.nodup n, Lower.count_implementationNames_popArgs decls sorted.nodup n⟩⟩
  · rw [needed, Lower.mem_callees_popArgs decls (CalleeTable.resolve_unreserved built)]
  · rw [needed, Function.exists_needsHelper_iff]

/-- A function of two parameters whose body writes a local lowers to a program with the helpers
of the arities it needs. -/
theorem helpers_of_a_function_writing_a_local :
    let m : Module := { functions := [⟨none, 0, [.localSet 2 (some (.localGet 0))], 2, 1, 0, []⟩] }
    ∃ r, lowerModule m {} = .ok r ∧
      ∃ arities : List Nat, arities.Pairwise (· < ·) ∧
        (∃ header rest, r.program.decls = header ++ Lower.prelude ++ Lower.helperDecls arities ++
            m.imports.map (fun i => Lower.importProcedure (Ident.importName i) i.paramCount i.resultCount) ++ rest ∧
          ∀ d ∈ header, ∃ t, d = .comment t) ∧
        (∀ n, n ∈ arities ↔ Ident.popArgsName n ∈ r.program.callees) ∧
        (∀ n, n ∈ arities ↔ (∃ f ∈ m.functions, 0 < f.paramCount ∧ f.paramCount = n) ∨
          (n = 1 ∧ ∃ f ∈ m.functions, Instr.writesLocalList f.body = true)) ∧
        ∀ n, r.program.procedureNames.count (Ident.popArgsName n) = (if n ∈ arities then 1 else 0) ∧
          r.program.implementationNames.count (Ident.popArgsName n) = (if n ∈ arities then 1 else 0) := by
  intro m
  have labelled : ∀ f ∈ m.functions, Lower.LabelsPass {} f := by
    intro f mem _
    rw [List.mem_singleton.1 mem]
    rfl
  obtain ⟨r, lowered⟩ := Lower.lowerModule_succeeds_iff.2 ⟨⟨_, rfl⟩, labelled⟩
  exact ⟨r, lowered, popArgs_helpers_exactly_called lowered⟩

end WasmBoogie
