import WasmBoogie.Proofs.Lower.Runtime

namespace WasmBoogie.Lower

open WasmBoogie.Boogie

/-- The statements of each instruction of a list, lowered one after another. -/
def lowerEach (env : Env) : List Instr → LowerM (List (List Stmt))
  | [] => pure []
  | i :: rest => do
    let a ← lowerInstr env i
    let b ← lowerEach env rest
    pure (a :: b)

theorem lowerList_eq_flatten (env : Env) (instrs : List Instr) :
    lowerList env instrs = List.flatten <$> lowerEach env instrs := by
  induction instrs with
  | nil => simp [lowerList, lowerEach]
  | cons i rest ih => simp [lowerList, lowerEach, ih]

theorem lowerEach_length (env : Env) (instrs : List Instr) (σ : State) :
    ((lowerEach env instrs).run σ).1.length = instrs.length := by
  induction instrs generalizing σ with
  | nil => rfl
  | cons i rest ih => exact congrArg (· + 1) (ih _)

/-- A call pushes its arguments left to right: its statements are those of each argument in
order, then the call. -/
theorem lowerInstr_call (env : Env) (target : String) (args : List Instr) (σ : State) :
    ((lowerInstr env (.call target args)).run σ).1 =
      ((lowerEach env args).run σ).1.flatten ++ [.callProc (env.callees.resolve target) []] := by
  simp only [lowerInstr, lowerList_eq_flatten]
  rfl

/-- The variable of the i-th parameter, counted from zero. -/
theorem localName_param {params i : Nat} (h : i < params) : localName params i = s!"arg{i + 1}" := by
  simp [localName, h]

theorem slotNames_take (params localCount : Nat) :
    (slotNames params localCount).take params = (List.range params).map fun i => s!"arg{i + 1}" := by
  simp [slotNames]

theorem paramNames_nodup (params : Nat) : ((List.range params).map fun i => s!"arg{i + 1}").Nodup := by
  refine List.Pairwise.map _ (fun a b hne h => hne ?_) List.nodup_range
  simpa using h

/-- The prologue's own variables and the slots are not globals of the runtime. -/
theorem runtimeGlobal_not_mem_locals {params localCount : Nat} {x : String} (hx : x ∈ runtimeGlobals) :
    x ∉ slotNames params localCount ++ ["idx", "entry_sp"] := by
  simp only [runtimeGlobals, List.mem_cons, List.not_mem_nil, or_false] at hx
  rcases hx with rfl | rfl | rfl | rfl | rfl <;>
    simp [slotNames, stackVar, spVar, tmpVar, ← String.toList_inj]

/-- The entry assignments: the pointer is kept in `entry_sp` and the scratch registers cleared. -/
def entryStmts : List Stmt :=
  [.assign (.ident "entry_sp") sp, .assign (.ident (tmpVar 1)) Expr.realZero,
   .assign (.ident (tmpVar 2)) Expr.realZero, .assign (.ident (tmpVar 3)) Expr.realZero]

/-- The statements that a function's body starts with: it keeps the stack pointer, clears the
scratch registers and pops its arguments into its parameters. -/
def prologue (params localCount : Nat) : List Stmt :=
  entryStmts ++ if params > 0 then
    [.assume (.binary .ge sp (.int params)),
     .call (Ident.popArgsName params) [] ((slotNames params localCount).take params)]
  else []

/-- A frame of a function with `params` parameters: it hides no global of the runtime and has
a variable for each parameter. -/
structure CalleeFrame (t : Store) (params : Nat) : Prop where
  sees : ∀ x ∈ runtimeGlobals, t.locals x = none
  args : ∀ i < params, (t.locals s!"arg{i + 1}").isSome

theorem CalleeFrame.set {t : Store} {params : Nat} (hf : CalleeFrame t params) (x : String) (v : Val) :
    CalleeFrame (t.set x v) params where
  sees y hy := Store.set_locals_none v (hf.sees y hy)
  args i hi := Store.set_locals_isSome v (hf.args i hi)

section Prologue

variable {p : Program} {arities : List Nat} {params localCount : Nat} {body rest : List Stmt}
  {t₀ t : Store} {o : Outcome} {n : ℤ} {g : ℤ → ℝ}

/-- The store after the entry assignments: the pointer kept in `entry_sp` and the scratch
registers cleared. -/
def entryStore (t : Store) (n : ℤ) : Store :=
  (((t.set "entry_sp" (.int n)).set (tmpVar 1) (.real 0)).set (tmpVar 2) (.real 0)).set (tmpVar 3) (.real 0)

theorem entryStmts_run (frame : CalleeFrame t₀ params) (atSp : t₀.globals spVar = .int n) :
    Exec p body (entryStmts ++ rest) t₀ t o ↔ Exec p body rest (entryStore t₀ n) t o := by
  have evalSp : sp.eval p.funs t₀ = some (.int n) := by
    simp [sp, Expr.eval, Store.get_of_locals_none (frame.sees spVar (by simp [runtimeGlobals])), atSp]
  simp only [entryStmts, List.cons_append, List.nil_append, Exec.assign_cons_iff, evalSp,
    Expr.eval_realZero, Option.some.injEq, exists_eq_left']
  rfl

theorem entryStore_frame (frame : CalleeFrame t₀ params) (n : ℤ) : CalleeFrame (entryStore t₀ n) params :=
  (((frame.set _ _).set _ _).set _ _).set _ _

theorem entryStore_globals (n : ℤ) {y : String} (hy : y ∈ [spVar, stackVar]) :
    (entryStore t₀ n).globals y = t₀.globals y := by
  simp only [List.mem_cons, List.not_mem_nil, or_false] at hy
  rcases hy with rfl | rfl <;>
    simp [entryStore, Store.set_globals_of_ne, spVar, stackVar, tmpVar, ← String.toList_inj]

/-- The prologue moves the stack pointer down past the arguments and leaves the i-th parameter
holding the i-th argument, which sits i places above the new pointer; the stack is unchanged. -/
theorem prologue_sound (runtime : Runtime p arities)
    (helper : 0 < params → params ∈ arities) (frame : CalleeFrame t₀ params)
    (atSp : t₀.globals spVar = .int n) (atStack : t₀.globals stackVar = .map g)
    (run : Exec p body (prologue params localCount) t₀ t .next) :
    (List.range params).map (fun i => t.get (localName params i)) =
        (List.range params).map (fun i : Nat => .real (g (n - params + i))) ∧
      t.globals spVar = .int (n - params) ∧ t.globals stackVar = .map g := by
  rw [prologue, entryStmts_run frame atSp] at run
  set t₁ := entryStore t₀ n
  have frame₁ : CalleeFrame t₁ params := entryStore_frame frame n
  have sp₁ : t₁.globals spVar = .int n := (entryStore_globals n (by simp)).trans atSp
  have stack₁ : t₁.globals stackVar = .map g := (entryStore_globals n (by simp)).trans atStack
  by_cases hpos : 0 < params
  · have hmem := helper hpos
    rw [if_pos hpos, Exec.assume_cons_iff, Exec.cons_iff_of_falls (popArgs_falls runtime hmem)] at run
    obtain ⟨-, t₂, call, rest⟩ := run
    obtain ⟨rfl, -⟩ := Exec.nil_iff.1 rest
    obtain ⟨-, hout, m, hm, -, rfl⟩ := (popArgs_iff runtime hmem stack₁).1 call
    obtain rfl : m = n := by simpa [sp₁] using hm.symm
    have outs := slotNames_take params localCount
    have locals : ∀ x ∈ (slotNames params localCount).take params,
        ((t₁.setGlobal spVar (.int (m - params))).locals x).isSome := by
      rw [outs]
      intro x hx
      obtain ⟨i, hi, rfl⟩ := List.mem_map.1 hx
      exact frame₁.args i (List.mem_range.1 hi)
    refine ⟨?_, ?_, ?_⟩
    · calc (List.range params).map (fun i => (Store.setAll _ _ _).get (localName params i))
          _ = ((slotNames params localCount).take params).map
                (Store.setAll (t₁.setGlobal spVar (.int (m - params))) _
                  ((List.range params).map fun i : Nat => .real (g (m - params + i)))).get := by
            rw [outs, List.map_map]
            exact List.map_congr_left fun i hi => by
              rw [Function.comp_apply, localName_param (List.mem_range.1 hi)]
          _ = _ := Store.map_get_setAll (by rw [outs]; exact paramNames_nodup params)
                (by simp [hout]) locals
    · rw [Store.setAll_globals locals]
      simp [Store.setGlobal]
    · rw [Store.setAll_globals locals]
      simp [Store.setGlobal, stackVar_ne_spVar, stack₁]
  · rw [if_neg hpos] at run
    obtain ⟨rfl, -⟩ := Exec.nil_iff.1 run
    obtain rfl : params = 0 := by omega
    simp [sp₁, stack₁]

/-- The prologue runs to its end when the pointer is at least the number of parameters. -/
theorem prologue_complete (runtime : Runtime p arities)
    (helper : 0 < params → params ∈ arities) (frame : CalleeFrame t₀ params)
    (atSp : t₀.globals spVar = .int n) (atStack : t₀.globals stackVar = .map g)
    (enough : (params : ℤ) ≤ n) : ∃ t, Exec p body (prologue params localCount) t₀ t .next := by
  simp only [prologue, entryStmts_run frame atSp]
  set t₁ := entryStore t₀ n
  have frame₁ : CalleeFrame t₁ params := entryStore_frame frame n
  have sp₁ : t₁.globals spVar = .int n := (entryStore_globals n (by simp)).trans atSp
  have stack₁ : t₁.globals stackVar = .map g := (entryStore_globals n (by simp)).trans atStack
  by_cases hpos : 0 < params
  · have hmem := helper hpos
    rw [if_pos hpos]
    refine ⟨_, Exec.assume_cons_iff.2 ⟨?_, .next ((popArgs_iff runtime hmem stack₁).2
      ⟨rfl, by simp [slotNames], n, sp₁, enough, rfl⟩) .nil⟩⟩
    simp [Expr.eval, sp, Store.get_of_locals_none (frame₁.sees spVar (by simp [runtimeGlobals])),
      sp₁, BinOp.apply, enough]
  · rw [if_neg hpos]
    exact ⟨t₁, .nil⟩

end Prologue

/-- The implementation of a lowered function starts with the prologue. -/
theorem lowerFunction_body (options : LowerOptions) (callees : CalleeTable) (name : String)
    (f : Function) (σ : State) :
    ∃ rest, ((lowerFunction options callees name f).run σ).1.2.body =
      prologue f.paramCount f.localCount ++ rest := by
  unfold lowerFunction
  by_cases h : f.paramCount > 0 <;> simp [h, prologue, entryStmts, ensurePopArgs] <;> exact ⟨_, rfl⟩

/-- The variables of a lowered implementation: the slots, `idx` and `entry_sp`. -/
theorem lowerFunction_locals (options : LowerOptions) (callees : CalleeTable) (name : String)
    (f : Function) (σ : State) :
    ((lowerFunction options callees name f).run σ).1.2.locals =
      (slotNames f.paramCount f.localCount).map (fun n => ⟨n, .real⟩) ++
        [⟨"idx", .int⟩, ⟨"entry_sp", .int⟩] := by
  unfold lowerFunction
  by_cases h : f.paramCount > 0 <;> simp [h, ensurePopArgs] <;> rfl

/-- The frame of a lowered implementation, with its variables bound to values of their types,
hides no global of the runtime and has its parameters. -/
theorem lowerFunction_frame {options : LowerOptions} {callees : CalleeTable} {name : String}
    {f : Function} {σ : State} {impl : Implementation}
    (callee : ((lowerFunction options callees name f).run σ).1.2 = impl) {vals : List Val}
    (typed : Var.Typed impl.locals vals) (gl old : String → Val) :
    CalleeFrame ⟨gl, frame (Var.names impl.locals) vals, old⟩ f.paramCount := by
  have names : Var.names impl.locals = slotNames f.paramCount f.localCount ++ ["idx", "entry_sp"] := by
    rw [← callee, lowerFunction_locals]
    simp [Var.names, Function.comp_def]
  refine ⟨fun x hx => frame_eq_none ?_, fun i hi => frame_isSome ?_ ?_⟩
  · rw [names]
    exact runtimeGlobal_not_mem_locals hx
  · rw [names, slotNames]
    exact List.mem_append_left _ (List.mem_append_left _ (List.mem_map.2 ⟨i, List.mem_range.2 hi, rfl⟩))
  · rw [typed.length_eq, Var.names, List.length_map]

/-- Statements that, run to their end, leave exactly one more value on the stack and the
values below it as they were. -/
def PushesOne (p : Program) (ss : List Stmt) : Prop :=
  ∀ s s' n g, Exec p ss ss s s' .next → s.globals spVar = .int n → s.globals stackVar = .map g →
    ∃ g', s'.globals spVar = .int (n + 1) ∧ s'.globals stackVar = .map g' ∧ ∀ j < n, g' j = g j

/-- A single push pushes one value. -/
theorem pushesOne_push {p : Program} {arities : List Nat} (runtime : Runtime p arities) (e : Expr) :
    PushesOne p [push e] := by
  intro s s' n g run atSp atStack
  obtain ⟨s₁, call, rest⟩ := (Exec.cons_iff_of_falls (push_falls runtime)).1 run
  obtain ⟨rfl, -⟩ := Exec.nil_iff.1 rest
  obtain ⟨-, m, g₁, r, hm, -, hg, rfl⟩ := (push_iff runtime).1 call
  obtain rfl : m = n := by simpa [atSp] using hm.symm
  obtain rfl : g₁ = g := by simpa [atStack] using hg.symm
  exact ⟨Function.update g₁ m r, by simp [Store.setGlobal], by simp [Store.setGlobal, stackVar_ne_spVar],
    fun j hj => Function.update_of_ne (by omega) _ _⟩

/-- Statement lists run one after another, each to its end, each leaving the value on top that
is recorded for it. -/
inductive ArgRuns (p : Program) : List (List Stmt) → Store → List ℝ → Store → Prop
  | nil {s} : ArgRuns p [] s [] s
  | cons {ss parts s s₁ s₂ n g vs} : Exec p ss ss s s₁ .next → s₁.globals spVar = .int n →
      s₁.globals stackVar = .map g → ArgRuns p parts s₁ vs s₂ →
      ArgRuns p (ss :: parts) s (g (n - 1) :: vs) s₂

/-- Arguments that each push one value leave them in order above the old pointer, and the
stack below it as it was. -/
theorem ArgRuns.stack {p : Program} {parts : List (List Stmt)} {s s' : Store} {vs : List ℝ}
    (runs : ArgRuns p parts s vs s') (pushes : ∀ ss ∈ parts, PushesOne p ss) {n : ℤ} {g : ℤ → ℝ}
    (atSp : s.globals spVar = .int n) (atStack : s.globals stackVar = .map g) :
    ∃ g', s'.globals spVar = .int (n + parts.length) ∧ s'.globals stackVar = .map g' ∧
      (∀ j < n, g' j = g j) ∧ (List.range parts.length).map (fun i : Nat => g' (n + i)) = vs := by
  induction runs generalizing n g with
  | nil => exact ⟨g, by simpa using atSp, atStack, fun _ _ => rfl, rfl⟩
  | @cons ss parts s s₁ s₂ n₁ g₁ vs run sp₁ stack₁ rest ih =>
    obtain ⟨g₂, sp₂, stack₂, below₂⟩ := pushes ss (by simp) s s₁ n g run atSp atStack
    obtain rfl : n₁ = n + 1 := by simpa [sp₂] using sp₁.symm
    obtain rfl : g₁ = g₂ := by simpa [stack₂] using stack₁.symm
    obtain ⟨g', sp', stack', below', values⟩ :=
      ih (fun ss' h => pushes ss' (List.mem_cons_of_mem _ h)) sp₂ stack₂
    refine ⟨g', by rw [sp']; simp; ring, stack', fun j hj => ?_, ?_⟩
    · rw [below' j (by omega), below₂ j hj]
    · rw [List.length_cons, List.range_succ_eq_map, List.map_cons, List.map_map, ← values]
      congr 1
      · simp only [Nat.cast_zero, add_zero, add_sub_cancel_right]
        exact below' n (by omega)
      · exact List.map_congr_left fun i _ => by simp; ring_nf

/-- The callee pops its arguments: after the arguments of a call have each pushed one value and
the callee's prologue has run on the globals they leave, the i-th parameter holds the value
the i-th argument pushed, the stack pointer is back where it was before the first argument, and
the stack below it is unchanged. -/
theorem callee_pops_arguments {p : Program} {arities : List Nat} (runtime : Runtime p arities)
    {f : Function} (helper : 0 < f.paramCount → f.paramCount ∈ arities)
    {env : Env} {args : List Instr} {σ : State} {parts : List (List Stmt)}
    (lowered : ((lowerEach env args).run σ).1 = parts) (arity : args.length = f.paramCount)
    (pushes : ∀ ss ∈ parts, PushesOne p ss)
    {options : LowerOptions} {callees : CalleeTable} {name : String} {σf : State}
    {impl : Implementation} (callee : ((lowerFunction options callees name f).run σf).1.2 = impl)
    {s₀ s₁ t : Store} {n₀ : ℤ} {g₀ : ℤ → ℝ} {vs : List ℝ} {vals : List Val}
    (atSp : s₀.globals spVar = .int n₀) (atStack : s₀.globals stackVar = .map g₀)
    (caller : ArgRuns p parts s₀ vs s₁) (typed : Var.Typed impl.locals vals)
    (run : Exec p impl.body (prologue f.paramCount f.localCount)
      ⟨s₁.globals, frame (Var.names impl.locals) vals, s₁.globals⟩ t .next) :
    (List.range f.paramCount).map (fun i => t.get (localName f.paramCount i)) = vs.map .real ∧
      t.globals spVar = .int n₀ ∧ ∃ g, t.globals stackVar = .map g ∧ ∀ j < n₀, g j = g₀ j := by
  obtain ⟨g₁, sp₁, stack₁, below, values⟩ := caller.stack pushes atSp atStack
  have count : parts.length = f.paramCount := by rw [← lowered, lowerEach_length, arity]
  rw [count] at sp₁ values
  obtain ⟨params, sp, stack⟩ :=
    prologue_sound runtime helper (lowerFunction_frame callee typed _ _) sp₁ stack₁ run
  refine ⟨?_, by rw [sp]; simp, g₁, stack, below⟩
  rw [params, ← values, List.map_map]
  exact List.map_congr_left fun i _ => by simp

theorem callee_pops_one_argument :
    ∃ s₀ s₁ t : Store, s₀.globals spVar = .int 0 ∧ s₀.get "arg1" = .real 5 ∧
      ArgRuns ⟨prelude ++ helperDecls [1]⟩ [[push (.ident "arg1")]] s₀ [5] s₁ ∧
      Exec ⟨prelude ++ helperDecls [1]⟩
        ((lowerFunction {} {} "f" ⟨none, 0, [], 1, 0, 0, []⟩).run {}).1.2.body (prologue 1 0)
        ⟨s₁.globals, frame ["arg1", "idx", "entry_sp"] [.real 0, .int 0, .int 0], s₁.globals⟩ t .next ∧
      t.get "arg1" = .real 5 ∧ t.globals spVar = .int 0 := by
  have runtime : Runtime ⟨prelude ++ helperDecls [1]⟩ [1] := ⟨[], [], by simp, by simp⟩
  let g₀ : ℤ → ℝ := fun _ => 0
  let s₀ : Store := ⟨Function.update (Function.update (fun _ => .real 0) spVar (.int 0)) stackVar (.map g₀),
    fun x => if x = "arg1" then some (.real 5) else none, fun _ => .real 0⟩
  have sp₀ : s₀.globals spVar = .int 0 := by simp [s₀, stackVar_ne_spVar.symm]
  have stack₀ : s₀.globals stackVar = .map g₀ := by simp [s₀]
  have arg₀ : s₀.get "arg1" = .real 5 := by simp [s₀, Store.get]
  let s₁ := (s₀.setGlobal stackVar (.map (Function.update g₀ 0 5))).setGlobal spVar (.int (0 + 1))
  have push₀ : Exec ⟨prelude ++ helperDecls [1]⟩ [push (.ident "arg1")] [push (.ident "arg1")] s₀ s₁ .next :=
    .next ((push_iff runtime).2 ⟨rfl, 0, g₀, 5, sp₀, by simp [Expr.eval, arg₀], stack₀, rfl⟩) .nil
  have sp₁ : s₁.globals spVar = .int 1 := by simp [s₁, Store.setGlobal]
  have stack₁ : s₁.globals stackVar = .map (Function.update g₀ 0 5) := by
    simp [s₁, Store.setGlobal, stackVar_ne_spVar]
  have caller : ArgRuns ⟨prelude ++ helperDecls [1]⟩ [[push (.ident "arg1")]] s₀ [5] s₁ := by
    simpa using ArgRuns.cons push₀ sp₁ stack₁ .nil
  have typed : Var.Typed ((lowerFunction {} {} "f" ⟨none, 0, [], 1, 0, 0, []⟩).run {}).1.2.locals
      [.real 0, .int 0, .int 0] := by
    simp [lowerFunction_locals, slotNames, Var.Typed, Val.ty]
  obtain ⟨t, run⟩ := prologue_complete runtime (fun _ => by simp)
    (lowerFunction_frame rfl typed s₁.globals s₁.globals) sp₁ stack₁ (by norm_num)
  have lowered : ((lowerEach ⟨{}, {}, "caller", scanLabels [], 1⟩ [.localGet 0]).run {}).1 =
      [[push (.ident "arg1")]] := rfl
  obtain ⟨params, sp, -⟩ := callee_pops_arguments runtime (fun _ => by simp) lowered rfl
    (fun ss h => by simp at h; subst h; exact pushesOne_push runtime _) rfl sp₀ stack₀ caller typed run
  exact ⟨s₀, s₁, t, sp₀, arg₀, caller, run, by simpa [localName, show "arg" ++ Nat.repr 1 = "arg1" from rfl] using params, sp⟩

end WasmBoogie.Lower
