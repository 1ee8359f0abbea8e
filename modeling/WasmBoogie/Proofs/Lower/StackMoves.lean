import WasmBoogie.Proofs.Lower.StackHeights
import WasmBoogie.Proofs.Instr.CountTyping
import WasmBoogie.Proofs.Lower.Scopes
import WasmBoogie.Proofs.Lower.StraightLine

namespace WasmBoogie.Lower

open Boogie Boogie.Stmt

/-- The frame of a lowered implementation that its final check reads: no variable hides the
stack pointer, and `entry_sp` holds the pointer the implementation was entered with. -/
def Framed (entry : Int) (s : Store) : Prop :=
  s.locals spVar = none ∧ s.locals "entry_sp" = some (.int entry)

/-- A name that a lowered body may assign freely: neither the stack, nor its pointer, nor
`entry_sp`. -/
def Spare (x : String) : Prop :=
  x ≠ spVar ∧ x ≠ stackVar ∧ x ≠ "entry_sp"

/-- A procedure that calls run by its contract, which moves the pointer by its results less its
parameters: it is not inlined, has no parameters or results of its own, and has the stack effect
among its postconditions. -/
def Balances (p : Program) (name : String) (params results : Nat) : Prop :=
  ∃ q, p.procedure? name = some q ∧ q.isInline = false ∧ q.params = [] ∧ q.returns = [] ∧
    stackEffect (.old sp) params results ∈ q.ensures

theorem Store.set_locals_of_ne (s : Store) {x y : String} (v : Val) (h : y ≠ x) :
    (s.set x v).locals y = s.locals y := by
  unfold Store.set
  split
  · exact Function.update_of_ne h _ _
  · rfl

theorem Store.setAll_globals_of_not_mem {s : Store} {xs : List String} {vs : List Val} {y : String}
    (h : y ∉ xs) : (s.setAll xs vs).globals y = s.globals y := by
  induction xs generalizing s vs with
  | nil => rfl
  | cons x xs ih =>
    cases vs with
    | nil => rfl
    | cons v vs =>
      have hne : y ≠ x := fun hyx => h (hyx ▸ List.mem_cons_self)
      rw [Store.setAll, ih (fun hy => h (List.mem_cons_of_mem _ hy)), Store.set_globals_of_ne _ _ hne]

theorem Store.setAll_locals_of_not_mem {s : Store} {xs : List String} {vs : List Val} {y : String}
    (h : y ∉ xs) : (s.setAll xs vs).locals y = s.locals y := by
  induction xs generalizing s vs with
  | nil => rfl
  | cons x xs ih =>
    cases vs with
    | nil => rfl
    | cons v vs =>
      have hne : y ≠ x := fun hyx => h (hyx ▸ List.mem_cons_self)
      rw [Store.setAll, ih (fun hy => h (List.mem_cons_of_mem _ hy)), Store.set_locals_of_ne _ _ hne]

/-- A change of store that leaves the pointer, the stack and `entry_sp` alone keeps the frame and
the pointer. -/
theorem framed_of_same {entry k : Int} {s s' : Store} (frame : Framed entry s) (at_ : StackAt s k)
    (sp : s'.globals spVar = s.globals spVar) (stack : s'.globals stackVar = s.globals stackVar)
    (spLocal : s'.locals spVar = s.locals spVar) (entryLocal : s'.locals "entry_sp" = s.locals "entry_sp") :
    Framed entry s' ∧ StackAt s' k :=
  ⟨⟨spLocal.trans frame.1, entryLocal.trans frame.2⟩, sp.trans at_.1, stack ▸ at_.2⟩

theorem framed_set {entry k : Int} {s : Store} {x : String} (spare : Spare x) (v : Val)
    (frame : Framed entry s) (at_ : StackAt s k) : Framed entry (s.set x v) ∧ StackAt (s.set x v) k :=
  framed_of_same frame at_ (Store.set_globals_of_ne _ _ (Ne.symm spare.1))
    (Store.set_globals_of_ne _ _ (Ne.symm spare.2.1)) (Store.set_locals_of_ne _ _ (Ne.symm spare.1))
    (Store.set_locals_of_ne _ _ (Ne.symm spare.2.2))

theorem framed_setAll {entry k : Int} {s : Store} {xs : List String} (spare : ∀ x ∈ xs, Spare x)
    (vs : List Val) (frame : Framed entry s) (at_ : StackAt s k) :
    Framed entry (s.setAll xs vs) ∧ StackAt (s.setAll xs vs) k :=
  framed_of_same frame at_ (Store.setAll_globals_of_not_mem fun mem => (spare _ mem).1 rfl)
    (Store.setAll_globals_of_not_mem fun mem => (spare _ mem).2.1 rfl)
    (Store.setAll_locals_of_not_mem fun mem => (spare _ mem).1 rfl)
    (Store.setAll_locals_of_not_mem fun mem => (spare _ mem).2.2 rfl)

theorem eval_offset {fs : Funs} {s : Store} {e : Expr} {k : Int} (he : e.eval fs s = some (.int k)) (d : Int) :
    (Expr.offset e d).eval fs s = some (.int (k + d)) := by
  unfold Expr.offset
  split
  · rename_i zero
    simp [he, zero]
  · split
    · simp [Expr.eval, he, BinOp.apply]
    · simp [Expr.eval, he, BinOp.apply]

/-- The stack effect holds exactly when the pointer is the base moved by the results less the
parameters. -/
theorem eval_stackEffect {fs : Funs} {s : Store} {base : Expr} {k : Int} (hb : base.eval fs s = some (.int k))
    (params results : Nat) :
    (stackEffect base params results).eval fs s = some (.bool true) ↔
      s.get spVar = .int (k + ((results : Int) - params)) := by
  simp only [stackEffect, Expr.eval, sp, eval_offset hb]
  cases s.get spVar <;> simp [BinOp.apply]

section Moves

variable {p : Program} {arities : List Nat} {entry h h' : Int}

theorem moves_assign {x : String} (spare : Spare x) (e : Expr) : Moves p (Framed entry) (.assign (.ident x) e) h h := by
  intro s s' o frame at_ run
  obtain ⟨rfl, v, -, rfl⟩ := StmtExec.assign_iff.1 run
  exact ⟨rfl, framed_set spare v frame at_⟩

theorem moves_havoc {xs : List String} (spare : ∀ x ∈ xs, Spare x) : Moves p (Framed entry) (.havoc xs) h h := by
  intro s s' o frame at_ run
  obtain ⟨rfl, vs, -, rfl⟩ := StmtExec.havoc_iff.1 run
  exact ⟨rfl, framed_setAll spare vs frame at_⟩

theorem moves_comment (t : String) : Moves p (Framed entry) (.comment t) h h := by
  intro s s' o frame at_ run
  obtain ⟨rfl, rfl⟩ := StmtExec.comment_iff.1 run
  exact ⟨rfl, frame, at_⟩

theorem moves_assume (c : Expr) : Moves p (Framed entry) (.assume c) h h := by
  intro s s' o frame at_ run
  obtain ⟨rfl, rfl, -⟩ := StmtExec.assume_iff.1 run
  exact ⟨rfl, frame, at_⟩

/-- A false assumption has no run, so it moves the pointer anywhere. -/
theorem moves_assume_false : Moves p (Framed entry) (.assume (.bool false)) h h' := by
  intro s s' o _ _ run
  have holds := (StmtExec.assume_iff.1 run).2
  simp [Expr.eval] at holds

variable (runtime : Runtime p arities)
include runtime

theorem moves_push (e : Expr) (up : h' = h + 1) : Moves p (Framed entry) (push e) h h' := by
  intro s s' o frame at_ run
  obtain ⟨rfl, n, g, r, atSp, -, atStack, rfl⟩ := (push_iff runtime).1 run
  have same : n = h := by simpa [at_.1] using atSp.symm
  subst same up
  refine ⟨rfl, frame, ?_, ?_⟩
  · simp [Store.setGlobal]
  · exact ⟨Function.update g n r, by simp [Store.setGlobal, stackVar_ne_spVar]⟩

theorem moves_popTo {k : Nat} (hk : k ∈ [1, 2, 3]) (down : h' = h - 1) : Moves p (Framed entry) (popTo k) h h' := by
  intro s s' o frame at_ run
  obtain ⟨rfl, n, g, atSp, -, atStack, rfl⟩ := (popTo_iff runtime hk).1 run
  have same : n = h := by simpa [at_.1] using atSp.symm
  subst same down
  refine ⟨rfl, frame, ?_, g, ?_⟩
  · simp [Store.setGlobal, Function.update_of_ne (tmpVar_ne_spVar k).symm]
  · simp [Store.setGlobal, Function.update_of_ne (tmpVar_ne_stackVar k).symm, stackVar_ne_spVar, atStack]

theorem moves_pop (down : h' = h - 1) : Moves p (Framed entry) (.callProc "pop" []) h h' := by
  intro s s' o frame at_ run
  obtain ⟨rfl, n, atSp, -, rfl⟩ := (pop_iff runtime).1 run
  have same : n = h := by simpa [at_.1] using atSp.symm
  subst same down
  obtain ⟨g, atStack⟩ := at_.2
  exact ⟨rfl, frame, by simp [Store.setGlobal], g, by simp [Store.setGlobal, stackVar_ne_spVar, atStack]⟩

/-- The helper of arity `N`, popping into spare variables, moves the pointer down by `N`. -/
theorem moves_popArgs {N : Nat} (hN : N ∈ arities) {outs : List String} (spare : ∀ x ∈ outs, Spare x)
    (down : h' = h - N) : Moves p (Framed entry) (.call (Ident.popArgsName N) [] outs) h h' := by
  intro s s' o frame at_ run
  obtain ⟨g, atStack⟩ := at_.2
  obtain ⟨rfl, -, n, atSp, -, rfl⟩ := (popArgs_iff runtime hN atStack).1 run
  have same : n = h := by simpa [at_.1] using atSp.symm
  subst same down
  have moved : Framed entry (s.setGlobal spVar (.int (n - N))) ∧ StackAt (s.setGlobal spVar (.int (n - N))) (n - N) :=
    ⟨frame, by simp [Store.setGlobal], g, by simp [Store.setGlobal, stackVar_ne_spVar, atStack]⟩
  exact ⟨rfl, framed_setAll spare _ moved.1 moved.2⟩

omit runtime in
/-- A call by contract moves the pointer by the callee's results less its parameters. -/
theorem moves_contract {name : String} {params results : Nat} (balances : Balances p name params results)
    (moved : h' = h - params + results) : Moves p (Framed entry) (.callProc name []) h h' := by
  obtain ⟨q, found, notInline, noParams, noReturns, effect⟩ := balances
  intro s s' o framed at_ run
  cases run with
  | callInline found' inline =>
    obtain rfl := Option.some.inj (found.symm.trans found')
    simp [notInline] at inline
  | callInlineWrong found' inline =>
    obtain rfl := Option.some.inj (found.symm.trans found')
    simp [notInline] at inline
  | @callContract _ _ _ _ _ vs g rs found' _ _ _ kept typed returnsTyped ensures _ =>
    obtain rfl := Option.some.inj (found.symm.trans found')
    obtain rfl : rs = [] := by simpa [noReturns] using returnsTyped
    have before : (Expr.old sp).eval p.funs ⟨g, frame (Var.names (q.params ++ q.returns)) (vs ++ []), s.globals⟩ =
        some (.int h) := by
      simp [Expr.eval, sp, Store.get, noParams, noReturns, Var.names, frame, at_.1]
    have after := (eval_stackEffect before params results).1 (ensures _ effect)
    simp only [Store.get, noParams, noReturns, Var.names, List.map_nil, List.append_nil, frame,
      Option.getD_none] at after
    refine ⟨rfl, framed, ?_, ?_⟩
    · simp only [Store.setAll]
      rw [after, moved]
      congr 1
      omega
    · obtain ⟨g₀, atStack⟩ := at_.2
      simp only [Store.setAll]
      by_cases modified : stackVar ∈ q.modifies
      · have typedStack := typed stackVar modified
        rw [atStack] at typedStack
        cases stackValue : g stackVar <;> simp_all [Val.ty]
      · exact ⟨g₀, (kept stackVar modified).trans atStack⟩

end Moves

theorem spare_localName (P j : Nat) : Spare (localName P j) := by
  unfold Spare localName
  split <;> simp [spVar, stackVar, ← String.toList_inj]

theorem spare_tmpVar (k : Nat) : Spare (tmpVar k) := by
  simp [Spare, tmpVar, spVar, stackVar, ← String.toList_inj]

theorem spare_idx : Spare "idx" := by
  simp [Spare, spVar, stackVar]

section Lowered

variable {p : Program} {arities : List Nat} {entry : Int} {H : String → Int}

/-- A conditional jump falls through at the height its label has. -/
theorem gotoIf_heights {c : Expr} {l : String} {h : Int} (at_ : H l = h) :
    StmtHeights p (Framed entry) H (gotoIf c l) h h :=
  .iteNoElse (.singleton (.goto fun _ named => by simp_all))

/-- A table dispatch jumps from the height that all its labels have. -/
theorem tableDispatch_heights {labels : List String} {default : String} {h h' : Int}
    (targets : ∀ l ∈ labels, H l = h) (dflt : H default = h) :
    StmtHeights p (Framed entry) H (tableDispatch labels default) h h' := by
  have toDefault : ∀ h'', Heights p (Framed entry) H [.gotoLabel default] h h'' :=
    fun _ => .singleton (.goto fun _ named => by simp_all)
  unfold tableDispatch
  split
  · exact .goto fun _ named => by simp_all [gotoLabel]
  · refine .ite (toDefault h') ?_
    have chain : ∀ tests : List Stmt, (∀ st ∈ tests, StmtHeights p (Framed entry) H st h h) →
        Heights p (Framed entry) H tests h h := by
      intro tests each
      induction tests with
      | nil => exact .nil
      | cons st rest ih => exact .cons (each st List.mem_cons_self) (ih fun st' mem => each st' (List.mem_cons_of_mem _ mem))
    refine (chain _ fun st mem => ?_).append (toDefault h')
    obtain ⟨⟨l, i⟩, pair, rfl⟩ := List.mem_map.1 mem
    have first := List.mem_map_of_mem (f := Prod.fst) pair
    rw [List.zipIdx_map_fst] at first
    exact gotoIf_heights (targets l first)

variable (runtime : Runtime p arities)
include runtime

theorem push_heights (e : Expr) {h h' : Int} (up : h' = h + 1) : StmtHeights p (Framed entry) H (push e) h h' :=
  .step (moves_push runtime e up) rfl

theorem popTo_heights {k : Nat} (hk : k ∈ [1, 2, 3]) {h h' : Int} (down : h' = h - 1) :
    StmtHeights p (Framed entry) H (popTo k) h h' :=
  .step (moves_popTo runtime hk down) rfl

/-- An unknown result: a fresh value in the first register, pushed. -/
theorem pushUnknown_heights {h h' : Int} (up : h' = h + 1) : Heights p (Framed entry) H pushUnknown h h' :=
  .cons (.step (moves_havoc (by simpa using spare_tmpVar 1)) rfl) (.singleton (push_heights runtime _ up))

/-- A one-operand operator pops its operand and pushes its results. -/
theorem lowerUnary_heights (env : Env) (op : String) (σ : State) (k : Int) :
    Heights p (Framed entry) H ((lowerUnary env op).run σ).1 (k + 1) (k + (UnaryKind.ofName op).results) := by
  cases kind : UnaryKind.ofName op <;> simp only [lowerUnary, kind, UnaryKind.results]
  case drop => exact .singleton (.step (moves_pop runtime (by omega)) rfl)
  case conversion => exact .singleton (.step (moves_comment _) rfl)
  case unsupported =>
    exact .cons (.step (moves_comment _) rfl)
      (.cons (popTo_heights runtime (by simp) rfl) (pushUnknown_heights runtime (by omega)))
  all_goals exact .cons (popTo_heights runtime (by simp) rfl) (.singleton (push_heights runtime _ (by omega)))

/-- A two-operand operator pops both operands and pushes its result. -/
theorem lowerBinary_heights (env : Env) (op : String) (σ : State) (k : Int) :
    Heights p (Framed entry) H ((lowerBinary env op).run σ).1 (k + 2) (k + 1) := by
  have pops : ∀ rest : List Stmt, Heights p (Framed entry) H rest k (k + 1) →
      Heights p (Framed entry) H ([popTo 1, popTo 2] ++ rest) (k + 2) (k + 1) := fun _ rest =>
    .cons (popTo_heights runtime (by simp) (show k + 1 = k + 2 - 1 by omega))
      (.cons (popTo_heights runtime (by simp) (show k = k + 1 - 1 by omega)) rest)
  cases kind : BinaryKind.ofName op <;> simp only [lowerBinary, kind, run_bind, run_pure, if_true, reduceCtorEq,
    if_false, note_run]
  case unsupported => exact .cons (.step (moves_comment _) rfl) (pops _ (pushUnknown_heights runtime rfl))
  all_goals exact pops _ (.singleton (push_heights runtime _ rfl))

/-- A constant pushes one value, known or not. -/
theorem lowerConst_heights (env : Env) (ty : NumType) (literal : String) (σ : State) (k : Int) :
    Heights p (Framed entry) H ((lowerInstr env (.const ty literal)).run σ).1 k (k + 1) := by
  simp only [lowerInstr]
  split
  · exact .singleton (push_heights runtime _ rfl)
  · exact .cons (.step (moves_comment _) rfl) (pushUnknown_heights runtime rfl)

/-- `select` pops its condition and two values and pushes one of the values. -/
theorem select_heights (k : Int) :
    Heights p (Framed entry) H [popTo 1, popTo 2, popTo 3, .ite tmp1IsTrue [push (tmp 3)] (some [push (tmp 2)])]
      (k + 3) (k + 1) :=
  .cons (popTo_heights runtime (by simp) (show k + 2 = k + 3 - 1 by omega))
    (.cons (popTo_heights runtime (by simp) (show k + 1 = k + 2 - 1 by omega))
      (.cons (popTo_heights runtime (by simp) (show k = k + 1 - 1 by omega))
        (.singleton (.ite (.singleton (push_heights runtime _ rfl)) (.singleton (push_heights runtime _ rfl))))))

end Lowered

end WasmBoogie.Lower
