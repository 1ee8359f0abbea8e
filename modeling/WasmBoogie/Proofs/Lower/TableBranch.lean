import WasmBoogie.Proofs.Lower.StraightLine
import WasmBoogie.Proofs.Lower.Branches

namespace WasmBoogie.Lower

open WasmBoogie.Boogie

/-- The entry of a table that an index selects: the entry at that position when the index is in
range, the default otherwise. -/
def tableTarget {α : Type} (targets : List α) (default : α) (idx : ℤ) : α :=
  if 0 ≤ idx then targets[idx.toNat]?.getD default else default

theorem tableTarget_map {α β : Type} (f : α → β) (targets : List α) (default : α) (idx : ℤ) :
    tableTarget (targets.map f) (f default) idx = f (tableTarget targets default idx) := by
  unfold tableTarget
  split
  · rw [List.getElem?_map]
    cases targets[idx.toNat]? <;> rfl
  · rfl

theorem tableTarget_cons {α : Type} (first : α) (rest : List α) (default : α) {idx : ℤ} (past : idx ≠ 0) :
    tableTarget (first :: rest) default idx = tableTarget rest default (idx - 1) := by
  unfold tableTarget
  by_cases inRange : 0 ≤ idx
  · have positive : 0 ≤ idx - 1 := by omega
    have index : idx.toNat = (idx - 1).toNat + 1 := by omega
    rw [if_pos inRange, if_pos positive, index, List.getElem?_cons_succ]
  · have negative : ¬ 0 ≤ idx - 1 := by omega
    rw [if_neg inRange, if_neg negative]

theorem tableTarget_out_of_range {α : Type} (targets : List α) (default : α) {idx : ℤ}
    (out : idx < 0 ∨ targets.length ≤ idx) : tableTarget targets default idx = default := by
  unfold tableTarget
  split
  · rw [List.getElem?_eq_none (by omega), Option.getD_none]
  · rfl

section Dispatch

variable {p : Program} {s s' : Store} {o : Outcome}

/-- A conditional jump whose condition is known jumps or falls through. -/
theorem StmtExec.gotoIf_iff {c : Expr} {b : Bool} {l : String} (cond : c.eval p.funs s = some (.bool b)) :
    StmtExec p s (gotoIf c l) s' o ↔ s' = s ∧ o = if b then .goto l else .next := by
  have unplaced : afterLabel l [Stmt.gotoLabel l] = none := rfl
  constructor
  · intro step
    cases step with
    | iteTrue isTrue run =>
      rw [cond] at isTrue
      cases isTrue
      simpa using (Exec.goto_cons_iff unplaced).1 run
    | iteSkip isFalse =>
      rw [cond] at isFalse
      cases isFalse
      simp
  · rintro ⟨rfl, rfl⟩
    cases b with
    | true => exact .iteTrue cond ((Exec.goto_cons_iff unplaced).2 ⟨rfl, rfl⟩)
    | false => exact .iteSkip cond

/-- The tests of the chain from position `k` on: index `k + i` jumps to the `i`-th label. -/
def chainJumps : List String → Nat → List Stmt
  | [], _ => []
  | l :: rest, k => gotoIf (.binary .eq (.ident "idx") (.int k)) l :: chainJumps rest (k + 1)

theorem chainJumps_eq : ∀ (labels : List String) (k : Nat),
    chainJumps labels k = (labels.zipIdx k).map fun x => gotoIf (.binary .eq (.ident "idx") (.int x.2)) x.1
  | [], _ => rfl
  | l :: rest, k => by
    rw [chainJumps, chainJumps_eq rest (k + 1), List.zipIdx_cons, List.map_cons]

theorem afterLabel_chain (l default : String) :
    ∀ (labels : List String) (k : Nat), afterLabel l (chainJumps labels k ++ [.gotoLabel default]) = none
  | [], _ => rfl
  | _ :: rest, k => afterLabel_chain l default rest (k + 1)

/-- With `idx` at `m`, the chain from position `k` jumps to the label at position `m - k`, or to
the default when there is none. -/
theorem exec_chain {m : ℤ} (atIdx : s.get "idx" = .int m) (whole : List Stmt)
    (unplaced : ∀ l, afterLabel l whole = none) (default : String) :
    ∀ (labels : List String) (k : Nat),
      Exec p whole (chainJumps labels k ++ [.gotoLabel default]) s s' o ↔
        s' = s ∧ o = .goto (tableTarget labels default (m - k))
  | [], k => by
    rw [chainJumps, List.nil_append, Exec.goto_cons_iff (unplaced default)]
    simp [tableTarget]
  | first :: rest, k => by
    have test : (Expr.binary .eq (.ident "idx") (.int k)).eval p.funs s = some (.bool (decide (m = k))) := by
      simp [Expr.eval, atIdx, BinOp.apply]
    rw [chainJumps, List.cons_append]
    by_cases hit : m = k
    · have jumps : ∀ s₁ o₁, StmtExec p s (gotoIf (.binary .eq (.ident "idx") (.int k)) first) s₁ o₁ ↔
          StmtExec p s (.gotoLabel first) s₁ o₁ := by
        intro s₁ o₁
        rw [StmtExec.gotoIf_iff test]
        simp [hit, Stmt.gotoLabel, StmtExec.goto_iff]
      rw [Exec.cons_congr jumps, Exec.goto_cons_iff (unplaced first)]
      simp [hit, tableTarget]
    · have skips : ∀ s₁ o₁, StmtExec p s (gotoIf (.binary .eq (.ident "idx") (.int k)) first) s₁ o₁ ↔
          s₁ = s ∧ o₁ = .next := by
        intro s₁ o₁
        rw [StmtExec.gotoIf_iff test]
        simp [hit]
      have shifted : m - k - 1 = m - ↑(k + 1) := by omega
      rw [Exec.cons_of_next skips, exec_chain atIdx whole unplaced default rest (k + 1),
        tableTarget_cons first rest default (sub_ne_zero.2 hit), shifted]

/-- With `idx` at `m`, the dispatch of a table jumps to the label at position `m`, or to the
default when `m` is out of range; it changes nothing. -/
theorem tableDispatch_iff {m : ℤ} (atIdx : s.get "idx" = .int m) (labels : List String) (default : String) :
    StmtExec p s (tableDispatch labels default) s' o ↔ s' = s ∧ o = .goto (tableTarget labels default m) := by
  cases labels with
  | nil =>
    simp [tableDispatch, tableTarget, Stmt.gotoLabel, StmtExec.goto_iff]
  | cons first more =>
    have bounds : (Expr.binary .or (.binary .lt (.ident "idx") (.int 0))
        (.binary .ge (.ident "idx") (.int (first :: more).length))).eval p.funs s =
          some (.bool (decide (m < 0) || decide (m ≥ (first :: more).length))) := by
      simp [Expr.eval, atIdx, BinOp.apply]
    simp only [tableDispatch]
    rw [StmtExec.ite_iff bounds, ← chainJumps_eq]
    split
    · rename_i out
      have pick : tableTarget (first :: more) default m = default :=
        tableTarget_out_of_range (first :: more) default (by simpa using out)
      rw [Exec.goto_cons_iff rfl, pick]
    · rw [exec_chain atIdx _ (afterLabel_chain · default _ 0) default (first :: more) 0, Nat.cast_zero,
        Int.sub_zero]

end Dispatch

section Selector

variable {p : Program} {arities : List Nat} {body rest : List Stmt} {st st' : Store} {o : Outcome}

theorem funs_real_to_int (runtime : Runtime p arities) (r : ℝ) :
    p.funs "real_to_int" [.real r] = some (.int ⌊r⌋) := by
  have lookup : p.function? "real_to_int" = some ([⟨"r", .real⟩], .call "int" [.ident "r"]) :=
    runtime.function_eq rfl
  simp [Program.funs, lookup, Expr.eval, Expr.evalList, Var.names, frame, Store.get, builtin]

/-- The store after the selector `g (n - 1)` is popped into the first scratch register and `idx`
is set to it rounded down. -/
noncomputable def selectedStore (st : Store) (n : ℤ) (g : ℤ → ℝ) : Store :=
  ((st.setGlobal spVar (.int (n - 1))).setGlobal (tmpVar 1) (.real (g (n - 1)))).set "idx" (.int ⌊g (n - 1)⌋)

@[simp] theorem selectedStore_idx (st : Store) (n : ℤ) (g : ℤ → ℝ) :
    (selectedStore st n g).get "idx" = .int ⌊g (n - 1)⌋ :=
  Store.get_set_self ..

/-- Popping the selector and rounding it into `idx` runs the rest from the selected store. -/
theorem exec_select (runtime : Runtime p arities) {n : ℤ} {g : ℤ → ℝ} (atSp : st.globals spVar = .int n)
    (nonempty : 0 < n) (atStack : st.globals stackVar = .map g) (visible : st.locals (tmpVar 1) = none) :
    Exec p body (popTo 1 :: .assign (.ident "idx") (.call "real_to_int" [tmp 1]) :: rest) st st' o ↔
      Exec p body rest (selectedStore st n g) st' o := by
  have popped : ∀ s₁ o₁, StmtExec p st (popTo 1) s₁ o₁ ↔
      s₁ = (st.setGlobal spVar (.int (n - 1))).setGlobal (tmpVar 1) (.real (g (n - 1))) ∧ o₁ = .next := by
    intro s₁ o₁
    rw [popTo_iff runtime (by simp)]
    simp only [atSp, Val.int.injEq, atStack, Val.map.injEq, exists_and_left, exists_eq_left', nonempty,
      true_and]
    exact ⟨fun ⟨next, same⟩ => ⟨same, next⟩, fun ⟨same, next⟩ => ⟨next, same⟩⟩
  have selector : (Expr.call "real_to_int" [tmp 1]).eval p.funs
      ((st.setGlobal spVar (.int (n - 1))).setGlobal (tmpVar 1) (.real (g (n - 1)))) =
        some (.int ⌊g (n - 1)⌋) := by
    simp [tmp, Expr.eval, Expr.evalList, Store.get, Store.setGlobal, visible, funs_real_to_int runtime]
  rw [Exec.cons_of_next popped, Exec.assign_cons_iff, selector]
  simp [selectedStore]

end Selector

/-- Where a branch goes from a state: the target of the open scope it selects, or the exit
label. -/
def branchLabel (σ : State) (target : LabelRef) : String :=
  ((scopeIndex σ.scopes target).bind (σ.scopes[·]?)).elim (exitLabel.run σ).1 Scope.branchTarget

/-- Two states from which every branch goes to the same label: the same open scopes up to their
referenced flags, and the same exit label. -/
structure SameTargets (σ σ' : State) : Prop where
  shapes : σ'.scopes.map Scope.shape = σ.scopes.map Scope.shape
  exit : (exitLabel.run σ').1 = (exitLabel.run σ).1

namespace SameTargets

theorem refl (σ : State) : SameTargets σ σ := ⟨rfl, rfl⟩

theorem trans {σ σ' σ'' : State} (first : SameTargets σ σ') (second : SameTargets σ' σ'') :
    SameTargets σ σ'' :=
  ⟨second.shapes.trans first.shapes, second.exit.trans first.exit⟩

end SameTargets

theorem scopeIndex_of_shapes {xs ys : List Scope} (shapes : xs.map Scope.shape = ys.map Scope.shape)
    (target : LabelRef) : scopeIndex xs target = scopeIndex ys target := by
  have lengths : xs.length = ys.length := by simpa using congrArg List.length shapes
  cases target with
  | depth d => simp only [scopeIndex, lengths]
  | name n =>
    have labels := congrArg (List.map Scope.label) shapes
    simp only [List.map_map, Function.comp_def, Scope.shape_label] at labels
    have found : ∀ zs : List Scope, zs.findIdx? (·.label == some n) =
        (zs.map Scope.label).findIdx? (· == some n) := fun zs => by
      rw [List.findIdx?_map]
      rfl
    simp only [scopeIndex, found xs, found ys, labels]

theorem branchLabel_of_same {σ σ' : State} (same : SameTargets σ σ') (target : LabelRef) :
    branchLabel σ' target = branchLabel σ target := by
  unfold branchLabel
  rw [scopeIndex_of_shapes same.shapes, same.exit]
  rcases scopeIndex σ.scopes target with _ | i
  · rfl
  · have atI := congrArg (·[i]?) same.shapes
    simp only [List.getElem?_map] at atI
    rcases left : σ'.scopes[i]? with _ | s' <;> rcases right : σ.scopes[i]? with _ | s <;>
      simp only [left, right, Option.map_none, Option.map_some, reduceCtorEq, Option.some.injEq] at atI <;>
      simp only [Option.bind_some, left, right, Option.elim_none, Option.elim_some]
    exact Scope.branchTarget_of_shape atI

/-- The exit label is the one made already, or else the next label of the sequence. -/
theorem exitLabel_result (σ : State) :
    (exitLabel.run σ).1 = σ.exitLabel.getD (numberedLabel "func_exit" (σ.nextLabel + 1)) := by
  obtain ⟨_, _, _, _ | _, _, _⟩ := σ <;> rfl

/-- Once made, the exit label stays. -/
theorem exitLabel_made (σ : State) : (exitLabel.run (exitLabel.run σ).2).1 = (exitLabel.run σ).1 := by
  obtain ⟨_, _, _, _ | _, _, _⟩ := σ <;> rfl

/-- Resolving a branch goes where the branch goes from the state. -/
theorem resolveBranch_result (env : Env) (target : LabelRef) (σ : State) :
    ((resolveBranch env target).run σ).1 = branchLabel σ target := by
  obtain ⟨diagnostics, run⟩ := resolveBranch_run env target σ
  rw [run]
  unfold branchLabel
  rcases scopeIndex σ.scopes target with _ | i
  · simp only [Option.bind_none, Option.elim_none, exitLabel_result]
  · rcases atI : σ.scopes[i]? with _ | s
    · simp only [Option.bind_some, atI, Option.elim_none, exitLabel_result]
    · simp only [Option.bind_some, atI, Option.elim_some]

/-- Resolving a branch keeps where every branch goes. -/
theorem resolveBranch_same (env : Env) (target : LabelRef) (σ : State) :
    SameTargets σ ((resolveBranch env target).run σ).2 := by
  refine ⟨resolveBranch_shapes env target σ, ?_⟩
  obtain ⟨diagnostics, run⟩ := resolveBranch_run env target σ
  rw [run]
  rcases scopeIndex σ.scopes target with _ | i
  · rw [exitLabel_made, exitLabel_result, exitLabel_result]
  · rcases atI : σ.scopes[i]? with _ | s
    · simp only [atI]
      rw [exitLabel_made, exitLabel_result, exitLabel_result]
    · simp only [atI, exitLabel_result]

/-- The targets of a table are resolved in turn, each as from the state before the first. -/
theorem resolveAll_run (env : Env) : ∀ (targets : List LabelRef) (σ : State),
    ((targets.mapM (resolveBranch env)).run σ).1 = targets.map (branchLabel σ) ∧
      SameTargets σ ((targets.mapM (resolveBranch env)).run σ).2
  | [], σ => ⟨rfl, SameTargets.refl σ⟩
  | t :: rest, σ => by
    have first := resolveBranch_same env t σ
    obtain ⟨labels, same⟩ := resolveAll_run env rest ((resolveBranch env t).run σ).2
    simp only [List.mapM_cons, run_bind, run_pure, List.map_cons, resolveBranch_result]
    refine ⟨?_, first.trans same⟩
    rw [labels, List.map_inj_left.2 fun t' _ => branchLabel_of_same first t']

/-- A table branch lowers to its operands' statements, the pop of its selector into `idx`, and a
dispatch over the labels its targets resolve to after the operands. -/
theorem lowerInstr_brTable (env : Env) (σ : State) (ops : List Instr) (targets : List LabelRef)
    (default : LabelRef) :
    ((lowerInstr env (.brTable ops targets default)).run σ).1 = ((lowerList env ops).run σ).1 ++
      [popTo 1, .assign (.ident "idx") (.call "real_to_int" [tmp 1]),
        tableDispatch (targets.map (branchLabel ((lowerList env ops).run σ).2))
          (branchLabel ((lowerList env ops).run σ).2 default)] := by
  obtain ⟨labels, same⟩ := resolveAll_run env targets ((lowerList env ops).run σ).2
  simp only [lowerInstr, run_bind, run_pure, resolveBranch_result, labels, branchLabel_of_same same]

/-- Table branches dispatch within their bounds. Lowered in any state, a table branch is the
statements of its operands followed by a dispatch. Run from a store whose stack holds `v` on top,
in a program with the runtime, the dispatch pops `v`, sets `idx` to `⌊v⌋`, and then does exactly
what a `goto` does to the label that resolving the selected target gives after the operands:
target `k` when `0 ≤ ⌊v⌋ = k` is below the number of targets, and the default otherwise. -/
theorem tableBranch_dispatches_within_bounds {p : Program} {arities : List Nat} (runtime : Runtime p arities)
    (env : Env) (σ : State) (ops : List Instr) (targets : List LabelRef) (default : LabelRef) :
    ∃ dispatch : List Stmt,
      ((lowerInstr env (.brTable ops targets default)).run σ).1 = ((lowerList env ops).run σ).1 ++ dispatch ∧
      ∀ (st : Store) (n : ℤ) (g : ℤ → ℝ), st.globals spVar = .int n → 0 < n →
        st.globals stackVar = .map g → st.locals (tmpVar 1) = none →
        ∀ body rest st' o, Exec p body (dispatch ++ rest) st st' o ↔
          Exec p body (.gotoLabel ((resolveBranch env (tableTarget targets default ⌊g (n - 1)⌋)).run
            ((lowerList env ops).run σ).2).1 :: rest) (selectedStore st n g) st' o := by
  refine ⟨_, lowerInstr_brTable env σ ops targets default,
    fun st n g atSp nonempty atStack visible body rest st' o => ?_⟩
  have jumps : ∀ s₁ o₁, StmtExec p (selectedStore st n g)
      (tableDispatch (targets.map (branchLabel ((lowerList env ops).run σ).2))
        (branchLabel ((lowerList env ops).run σ).2 default)) s₁ o₁ ↔
      StmtExec p (selectedStore st n g) (.gotoLabel ((resolveBranch env (tableTarget targets default
        ⌊g (n - 1)⌋)).run ((lowerList env ops).run σ).2).1) s₁ o₁ := by
    intro s₁ o₁
    rw [tableDispatch_iff (selectedStore_idx st n g), tableTarget_map, resolveBranch_result]
    simp [Stmt.gotoLabel, StmtExec.goto_iff]
  rw [List.cons_append, List.cons_append, exec_select runtime atSp nonempty atStack visible, List.cons_append,
    Exec.cons_congr jumps, List.nil_append]

/-- A store whose stack holds `3/2` on top, at height one. -/
noncomputable def threeHalvesOnTop : Store :=
  ⟨Function.update (Function.update (fun _ => .real 0) spVar (.int 1)) stackVar (.map fun _ => 3 / 2),
    fun _ => none, fun _ => .real 0⟩

/-- Inside one block, a table of depths 0 and 1 with a selector of `3/2` takes target 1, which
leaves the function. -/
theorem table_branch_on_three_halves :
    ∃ dispatch : List Stmt,
      ((lowerInstr ⟨{}, {}, "f", scanLabels [], 1⟩ (.brTable [.localGet 0] [.depth 0, .depth 1] (.depth 0))).run
        ((enterScope ⟨{}, {}, "f", scanLabels [], 1⟩ none .block).run {}).2).1 =
        ((lowerList ⟨{}, {}, "f", scanLabels [], 1⟩ [.localGet 0]).run
          ((enterScope ⟨{}, {}, "f", scanLabels [], 1⟩ none .block).run {}).2).1 ++ dispatch ∧
      ∀ body rest st' o, Exec ⟨prelude⟩ body (dispatch ++ rest) threeHalvesOnTop st' o ↔
        Exec ⟨prelude⟩ body (.gotoLabel "func_exit_2" :: rest) (selectedStore threeHalvesOnTop 1 fun _ => 3 / 2) st' o := by
  have runtime : Runtime ⟨prelude⟩ [] := ⟨[], [], by simp [helperDecls], by simp⟩
  obtain ⟨dispatch, lowered, run⟩ := tableBranch_dispatches_within_bounds runtime ⟨{}, {}, "f", scanLabels [], 1⟩
    ((enterScope ⟨{}, {}, "f", scanLabels [], 1⟩ none .block).run {}).2 [.localGet 0] [.depth 0, .depth 1] (.depth 0)
  have floor : ⌊((3 : ℝ) / 2)⌋ = 1 := Int.floor_eq_iff.2 ⟨by norm_num, by norm_num⟩
  have exit : ((resolveBranch ⟨{}, {}, "f", scanLabels [], 1⟩ (tableTarget [.depth 0, .depth 1] (.depth 0) 1)).run
      ((lowerList ⟨{}, {}, "f", scanLabels [], 1⟩ [.localGet 0]).run
        ((enterScope ⟨{}, {}, "f", scanLabels [], 1⟩ none .block).run {}).2).2).1 = "func_exit_2" := by
    decide
  refine ⟨dispatch, lowered, fun body rest st' o => ?_⟩
  rw [run threeHalvesOnTop 1 (fun _ => 3 / 2) rfl Int.one_pos rfl rfl, floor, exit]

end WasmBoogie.Lower
