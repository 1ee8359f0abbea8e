import WasmBoogie.Proofs.Lower.StackBalance
import WasmBoogie.Proofs.Instr.RealStack

namespace WasmBoogie.Lower

open Boogie Boogie.Stmt

theorem spare_slotNames {params localCount : Nat} {x : String} (mem : x ∈ slotNames params localCount) :
    Spare x := by
  rcases List.mem_append.1 mem with arg | loc
  · obtain ⟨i, within, rfl⟩ := List.mem_map.1 arg
    simpa [localName, List.mem_range.1 within] using spare_localName params i
  · obtain ⟨i, -, rfl⟩ := List.mem_map.1 loc
    simpa [localName] using spare_localName params (params + i)

/-- The entry assignments hold no label, so a jump finds its label in what follows them. -/
theorem afterLabel_entryStmts (l : String) (ss : List Stmt) : afterLabel l (entryStmts ++ ss) = afterLabel l ss :=
  rfl

/-- The body of a lowered implementation: the prologue, the clearing of the declared locals, the
statements of the function's instructions lowered from a state with no open scope, no exit label
and the label count at zero, the exit label if a jump made it, and the footer. -/
theorem lowerFunction_body_parts (options : LowerOptions) (callees : CalleeTable) (name : String)
    (f : Function) (σ : State) :
    ∃ σ₀, ((lowerFunction options callees name f).run σ).1.2.body =
        prologue f.paramCount f.localCount ++
          ((slotNames f.paramCount f.localCount).drop f.paramCount).map
            (fun x => Stmt.assign (.ident x) Expr.realZero) ++
          ((lowerList (functionEnv options callees name f) f.body).run σ₀).1 ++
          ((lowerList (functionEnv options callees name f) f.body).run σ₀).2.exitLabel.toList.map Stmt.label ++
          [functionFooter options f] ∧
      σ₀.scopes = [] ∧ σ₀.nextLabel = 0 ∧ σ₀.exitLabel = none := by
  unfold lowerFunction
  by_cases h : f.paramCount > 0 <;>
    simp only [h, if_true, if_false, run_bind, run_pure, run_get, ensurePopArgs, prologue, entryStmts]
  all_goals exact ⟨_, append_exitStmts _ _ _ _, rfl, rfl, rfl⟩

section Prologue

variable {p : Program} {arities : List Nat} {entry : Int} {H : String → Int}

/-- After its entry assignments, the prologue moves the pointer down past the arguments. -/
theorem prologue_heights (runtime : Runtime p arities) {params : Nat} (helper : 0 < params → params ∈ arities)
    (localCount : Nat) (n : Int) :
    ∃ tail, prologue params localCount = entryStmts ++ tail ∧ Heights p (Framed entry) H tail n (n - params) := by
  refine ⟨_, rfl, ?_⟩
  split
  · next positive =>
    have spare : ∀ x ∈ (slotNames params localCount).take params, Spare x :=
      fun x mem => spare_slotNames (List.mem_of_mem_take mem)
    exact .cons (.step (moves_assume _) rfl)
      (.singleton (.step (moves_popArgs runtime (helper positive) spare rfl) rfl))
  · next empty =>
    obtain rfl : params = 0 := by omega
    simpa using (Heights.nil : Heights p (Framed entry) H [] n n)

/-- Clearing spare variables leaves the pointer alone. -/
theorem clear_heights {names : List String} (spare : ∀ x ∈ names, Spare x) (n : Int) :
    Heights p (Framed entry) H (names.map fun x => Stmt.assign (.ident x) Expr.realZero) n n := by
  induction names with
  | nil => exact .nil
  | cons x rest ih =>
    exact .cons (.step (moves_assign (spare x List.mem_cons_self) _) rfl)
      (ih fun y mem => spare y (List.mem_cons_of_mem _ mem))

end Prologue

/-- The footer passes when the pointer stands at the entry pointer moved by the results less the
parameters: its assertion reads `entry_sp`, which the frame keeps. -/
theorem moves_functionFooter {p : Program} (options : LowerOptions) (f : Function) {entry : Int} :
    Moves p (Framed entry) (functionFooter options f) (entry - f.paramCount + f.resultCount)
      (entry - f.paramCount + f.resultCount) := by
  unfold functionFooter
  split
  · intro s s' o frame at_ run
    have base : (Expr.ident "entry_sp").eval p.funs s = some (.int entry) := by
      simp [Expr.eval, Store.get, frame.2]
    have holds := (eval_stackEffect base f.paramCount f.resultCount).2 (by
      rw [Store.get_of_locals_none frame.1, at_.1]
      congr 1
      ring)
    cases run with
    | assertHolds _ => exact ⟨rfl, frame, at_⟩
    | assertFails fails => simp [holds] at fails
  · exact moves_comment _

/-- The entry assignments set up the frame: `entry_sp` holds the pointer, which stays where it
was, and the stack stays a map. -/
theorem entryStore_framed {t : Store} {params : Nat} {n : Int} (frame : CalleeFrame t params)
    (slot : (t.locals "entry_sp").isSome) (atSp : t.globals spVar = .int n) (stack : ∃ g, t.globals stackVar = .map g) :
    Framed n (entryStore t n) ∧ StackAt (entryStore t n) n := by
  have kept : ∀ k, "entry_sp" ≠ tmpVar k := fun k => Ne.symm (spare_tmpVar k).2.2
  obtain ⟨g, atStack⟩ := stack
  refine ⟨⟨(entryStore_frame frame n).sees spVar (by simp [runtimeGlobals]), ?_⟩,
    (entryStore_globals n (by simp)).trans atSp, g, (entryStore_globals n (by simp)).trans atStack⟩
  simp only [entryStore, Store.set_locals_of_ne _ _ (kept _), Store.set_of_isSome _ slot, Function.update_self]

theorem functionFooter_labelName (options : LowerOptions) (f : Function) :
    (functionFooter options f).labelName? = none := by
  unfold functionFooter
  split <;> rfl

section Function

variable {p : Program} {arities : List Nat} {options : LowerOptions} {callees : CalleeTable} {name : String}
  {f : Function} {calls : String → Option (Nat × Nat)} (runtime : Runtime p arities) (one : 1 ∈ arities)
  (helper : 0 < f.paramCount → f.paramCount ∈ arities)
  (balanced : ∀ t params returns, calls t = some (params, returns) → Balances p (callees.resolve t) params returns)
  (typed : Instr.CountTypedList calls f.resultCount [] 0 f.body f.resultCount)
include runtime one helper balanced typed

/-- After its entry assignments, the body of a lowered implementation whose instructions are typed
by operand counts is typed by the pointer: entered at `n`, it falls through at `n` moved by the
results less the parameters, and its labels stand at the heights its lowering gives them. -/
theorem lowerFunction_heights (σ : State) (n : Int) :
    ∃ H rest, ((lowerFunction options callees name f).run σ).1.2.body = entryStmts ++ rest ∧
      Heights p (Framed n) H rest n (n - f.paramCount + f.resultCount) := by
  obtain ⟨σ₀, body, scopes, -, noExit⟩ := lowerFunction_body_parts options callees name f σ
  have lowerBody : Lowered p n (n - f.paramCount) f.resultCount [] σ₀ _ _ 0 f.resultCount :=
    lowerList_lowered runtime one (functionEnv options callees name f) balanced typed σ₀
  obtain ⟨part, typedBody⟩ := lowerBody.typed
  obtain ⟨bodyTyped, exitAt⟩ := typedBody part (fun _ _ _ => rfl) (by rw [scopes]; exact .nil)
    (fun l found => by rw [noExit] at found; cases found)
  rw [Nat.cast_zero, add_zero] at bodyTyped
  have exitTyped : Heights p (Framed n) (byNumber part)
      (((lowerList (functionEnv options callees name f) f.body).run σ₀).2.exitLabel.toList.map Stmt.label)
      (n - f.paramCount + f.resultCount) (n - f.paramCount + f.resultCount) := by
    cases exit : ((lowerList (functionEnv options callees name f) f.body).run σ₀).2.exitLabel with
    | none => exact .nil
    | some l => exact .singleton (.label (exitAt l exit))
  obtain ⟨tail, prologueSplit, tailTyped⟩ : ∃ tail, prologue f.paramCount f.localCount = entryStmts ++ tail ∧
      Heights p (Framed n) (byNumber part) tail n (n - f.paramCount) :=
    prologue_heights runtime helper f.localCount n
  have cleared : ∀ x ∈ (slotNames f.paramCount f.localCount).drop f.paramCount, Spare x :=
    fun x mem => spare_slotNames (List.mem_of_mem_drop mem)
  refine ⟨byNumber part, _, by rw [body, prologueSplit]; simp only [List.append_assoc], tailTyped.append
    ((clear_heights cleared _).append (bodyTyped.append (exitTyped.append
      (.singleton (.step (moves_functionFooter options f) (functionFooter_labelName options f))))))⟩

/-- Every run of a lowered implementation whose instructions are typed by operand counts, from the
result count of the function under no enclosing scope, falls through with the pointer at the one
it was entered with, moved by the results less the parameters: the footer holds and no jump
leaves the body. A run in which the pointer is below the parameter count stops at the prologue's
assumption. Calls run by their contracts, which move the pointer as the count typing says, and
the runtime's procedures and helpers are those of the program. -/
theorem lowerFunction_balances {σ : State} {impl : Implementation}
    (lowered : ((lowerFunction options callees name f).run σ).1.2 = impl) {vals : List Val}
    (slots : Var.Typed impl.locals vals) {gl old : String → Val} {n : Int} {g : Int → ℝ}
    (atSp : gl spVar = .int n) (atStack : gl stackVar = .map g) :
    ∀ t o, Exec p impl.body impl.body ⟨gl, frame (Var.names impl.locals) vals, old⟩ t o →
      o = .next ∧ t.get "entry_sp" = .int n ∧ t.globals spVar = .int (n - f.paramCount + f.resultCount) := by
  intro t o run
  have stays := Exec.never_escapes run (lowered ▸ (lowerFunction_body_wellJumped options callees name f σ).within)
  have frame₀ := lowerFunction_frame lowered slots gl old
  have slot : (frame (Var.names impl.locals) vals "entry_sp").isSome := by
    refine frame_isSome ?_ (slots.length_eq.trans (by simp [Var.names])).symm
    rw [← lowered, lowerFunction_locals]
    simp [Var.names]
  obtain ⟨framed, atEntry⟩ := entryStore_framed frame₀ slot atSp ⟨g, atStack⟩
  obtain ⟨H, rest, split, restTyped⟩ := lowerFunction_heights runtime one helper balanced typed σ n
  rw [lowered] at split
  rw [split] at run
  have landed := Heights.sound ((entryStmts_run frame₀ atSp).1 run) restTyped
    (fun l k found => restTyped.after_label (by rwa [afterLabel_entryStmts] at found)) framed atEntry
  cases o with
  | next =>
    obtain ⟨framedEnd, atEnd⟩ := landed
    exact ⟨rfl, by simp [Store.get, framedEnd.2], atEnd.1⟩
  | goto l => exact absurd rfl (stays l)
  | wrong => exact landed.elim

end Function

theorem block_branch_balances :
    Instr.CountTypedList (fun _ => none) 1 [] 0 [.block none [.localGet 0, .br (.depth 0) []]] 1 ∧
      Var.Typed ((lowerFunction {} {} "f" ⟨none, 0, [.block none [.localGet 0, .br (.depth 0) []]], 1, 0, 1, []⟩).run
        {}).1.2.locals [.real 0, .int 0, .int 0] ∧
      ∀ t o, Exec ⟨prelude ++ helperDecls [1]⟩
        ((lowerFunction {} {} "f" ⟨none, 0, [.block none [.localGet 0, .br (.depth 0) []]], 1, 0, 1, []⟩).run
          {}).1.2.body
        ((lowerFunction {} {} "f" ⟨none, 0, [.block none [.localGet 0, .br (.depth 0) []]], 1, 0, 1, []⟩).run
          {}).1.2.body
        ⟨Function.update (Function.update (fun _ => .real 0) spVar (.int 1)) stackVar (.map fun _ => 0),
          frame ["arg1", "idx", "entry_sp"] [.real 0, .int 0, .int 0],
          Function.update (Function.update (fun _ => .real 0) spVar (.int 1)) stackVar (.map fun _ => 0)⟩ t o →
        o = .next ∧ t.get "entry_sp" = .int 1 ∧ t.globals spVar = .int 1 := by
  have runtime : Runtime ⟨prelude ++ helperDecls [1]⟩ [1] := ⟨[], [], by simp, by simp⟩
  have typed : Instr.CountTypedList (fun _ => none) 1 [] 0 [.block none [.localGet 0, .br (.depth 0) []]] 1 :=
    .cons (.block (.cons .localGet (.cons (.br .nil) .nil))) .nil
  have slots : Var.Typed ((lowerFunction {} {} "f"
      ⟨none, 0, [.block none [.localGet 0, .br (.depth 0) []]], 1, 0, 1, []⟩).run {}).1.2.locals
      [.real 0, .int 0, .int 0] := by
    simp [lowerFunction_locals, slotNames, Var.Typed, Val.ty]
  refine ⟨typed, slots, ?_⟩
  exact lowerFunction_balances runtime (List.mem_singleton_self 1) (fun _ => List.mem_singleton_self 1)
    (fun _ _ _ found => by simp at found) typed rfl slots (by simp [stackVar_ne_spVar.symm])
    (Function.update_self _ _ _)

/-- A function with no parameters and no results whose body pushes a constant and branches out of
the function. WebAssembly drops the constant when it branches, but the lowered body jumps to the
exit label with it on the stack, so the footer's assertion fails with the pointer one above the
pointer the function was entered with. -/
theorem branch_with_spare_operand_fails_footer :
    ∃ t, Exec ⟨prelude ++ helperDecls []⟩
      ((lowerFunction {} {} "f" ⟨none, 0, [.const .i32 "1", .br (.depth 0) []], 0, 0, 0, []⟩).run {}).1.2.body
      ((lowerFunction {} {} "f" ⟨none, 0, [.const .i32 "1", .br (.depth 0) []], 0, 0, 0, []⟩).run {}).1.2.body
      ⟨Function.update (Function.update (fun _ => .real 0) spVar (.int 0)) stackVar (.map fun _ => 0),
        frame ["idx", "entry_sp"] [.int 0, .int 0],
        Function.update (Function.update (fun _ => .real 0) spVar (.int 0)) stackVar (.map fun _ => 0)⟩
      t .wrong ∧ t.get "entry_sp" = .int 0 ∧ t.globals spVar = .int 1 := by
  have runtime : Runtime ⟨prelude ++ helperDecls []⟩ [] := ⟨[], [], by simp, by simp⟩
  have body :
      ((lowerFunction {} {} "f" ⟨none, 0, [.const .i32 "1", .br (.depth 0) []], 0, 0, 0, []⟩).run {}).1.2.body =
        entryStmts ++ [push (integerReal false 1), .goto ["func_exit_1"], .label "func_exit_1",
        .assert (stackEffect (.ident "entry_sp") 0 0)] := rfl
  rw [body]
  set gl : String → Val :=
    Function.update (Function.update (fun _ => .real 0) spVar (.int 0)) stackVar (.map fun _ => 0)
  have atSp : gl spVar = .int 0 := by simp [gl, stackVar_ne_spVar.symm]
  have atStack : gl stackVar = .map fun _ => 0 := by simp [gl]
  have frame₀ : CalleeFrame ⟨gl, frame ["idx", "entry_sp"] [.int 0, .int 0], gl⟩ 0 :=
    ⟨fun x mem => frame_eq_none (by revert x; decide), fun _ below => absurd below (Nat.not_lt_zero _)⟩
  obtain ⟨framed, eSp, g, eStack⟩ := entryStore_framed frame₀ rfl atSp ⟨_, atStack⟩
  set e := entryStore ⟨gl, frame ["idx", "entry_sp"] [.int 0, .int 0], gl⟩ 0
  let t := (e.setGlobal stackVar (.map (Function.update g 0 1))).setGlobal spVar (.int (0 + 1))
  have value : (integerReal false 1).eval (Program.funs ⟨prelude ++ helperDecls []⟩) e = some (.real 1) := by
    simpa using Expr.eval_of_realValue (realValue_integerReal false 1)
  have pushed : StmtExec ⟨prelude ++ helperDecls []⟩ e (push (integerReal false 1)) t .next :=
    (push_iff runtime).2 ⟨rfl, 0, g, 1, eSp, value, eStack, rfl⟩
  have tEntry : t.get "entry_sp" = .int 0 := by simp [t, Store.get, Store.setGlobal, framed.2]
  have tSp : t.globals spVar = .int 1 := by simp [t, Store.setGlobal]
  have fails : (stackEffect (.ident "entry_sp") 0 0).eval (Program.funs ⟨prelude ++ helperDecls []⟩) t =
      some (.bool false) := by
    have unshadowed : t.locals spVar = none := framed.1
    simp [stackEffect, Expr.offset, Expr.eval, sp, Store.get_of_locals_none unshadowed, tSp, tEntry, BinOp.apply]
  exact ⟨t, (entryStmts_run frame₀ atSp).2 (.next pushed (.jump (.goto (List.mem_singleton_self _)) rfl
    (.wrong (.assertFails fails)))), tEntry, tSp⟩

end WasmBoogie.Lower
