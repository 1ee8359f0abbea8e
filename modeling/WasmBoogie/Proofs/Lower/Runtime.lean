import WasmBoogie.Proofs.Boogie.Steps
import WasmBoogie.Lower.Function

namespace WasmBoogie.Lower

open WasmBoogie.Boogie

/-- The declarations of the argument-popping helpers of some arities, in order. -/
def helperDecls (arities : List Nat) : List Decl :=
  arities.flatMap fun n => [(popArgsHelper n).1, (popArgsHelper n).2]

/-- The program declares the prelude and the helpers of the given arities before anything but
comments. -/
def Runtime (p : Program) (arities : List Nat) : Prop :=
  ∃ header rest, p.decls = header ++ prelude ++ helperDecls arities ++ rest ∧
    ∀ d ∈ header, ∃ t, d = .comment t

/-- The runtime's globals, which no variable of a running procedure may hide. -/
def runtimeGlobals : List String :=
  [stackVar, spVar, tmpVar 1, tmpVar 2, tmpVar 3]

/-- A lookup that no comment answers reads a program with the runtime from its prelude on. -/
theorem Runtime.findSome_from_prelude {p : Program} {arities : List Nat} {α : Type}
    {f : Decl → Option α} (hp : Runtime p arities) (hc : ∀ t, f (.comment t) = none) :
    ∃ rest, p.decls.findSome? f = (prelude ++ helperDecls arities ++ rest).findSome? f := by
  obtain ⟨header, rest, hdecls, hheader⟩ := hp
  have hnone : header.findSome? f = none := by
    rw [List.findSome?_eq_none_iff]
    intro d hd
    obtain ⟨t, rfl⟩ := hheader d hd
    exact hc t
  exact ⟨rest, by simp [hdecls, List.findSome?_append, hnone]⟩

/-- A lookup that no comment answers finds, in a program with the runtime, what it finds in the
prelude, when the prelude has an answer. -/
theorem Runtime.findSome_prelude {p : Program} {arities : List Nat} {α : Type}
    {f : Decl → Option α} {x : α} (hp : Runtime p arities) (hc : ∀ t, f (.comment t) = none)
    (hx : prelude.findSome? f = some x) : p.decls.findSome? f = some x := by
  obtain ⟨rest, hfind⟩ := hp.findSome_from_prelude hc
  simp [hfind, List.findSome?_append, hx]

/-- A lookup that no comment and no declaration of the prelude answers finds what it finds in the
helpers, when the helpers have an answer. -/
theorem Runtime.findSome_helpers {p : Program} {arities : List Nat} {α : Type}
    {f : Decl → Option α} {x : α} (hp : Runtime p arities) (hc : ∀ t, f (.comment t) = none)
    (hpre : prelude.findSome? f = none) (hx : (helperDecls arities).findSome? f = some x) :
    p.decls.findSome? f = some x := by
  obtain ⟨rest, hfind⟩ := hp.findSome_from_prelude hc
  simp [hfind, List.findSome?_append, hpre, hx]

theorem Runtime.procedure_eq {p : Program} {arities : List Nat} (hp : Runtime p arities)
    {name : String} {q : Procedure} (h : (⟨prelude⟩ : Program).procedure? name = some q) :
    p.procedure? name = some q :=
  hp.findSome_prelude (fun _ => rfl) h

theorem Runtime.implementation_eq {p : Program} {arities : List Nat} (hp : Runtime p arities)
    {name : String} {impl : Implementation}
    (h : (⟨prelude⟩ : Program).implementation? name = some impl) :
    p.implementation? name = some impl :=
  hp.findSome_prelude (fun _ => rfl) h

@[simp] theorem toString_of_string (s : String) : toString s = s := rfl

theorem natRepr_injective : Function.Injective Nat.repr := by
  intro a b h
  have hd : Nat.toDigits 10 a = Nat.toDigits 10 b := by
    rw [← Nat.toList_repr, ← Nat.toList_repr, h]
  rw [← Nat.ofDigitChars_ten_toDigits (n := a), hd, Nat.ofDigitChars_ten_toDigits]

@[simp] theorem natRepr_inj {a b : Nat} : a.repr = b.repr ↔ a = b :=
  natRepr_injective.eq_iff

@[simp] theorem spVar_ne_result (i : Nat) : spVar ≠ "a" ++ i.repr := by
  simp [spVar, ← String.toList_inj]

@[simp] theorem stackVar_ne_result (i : Nat) : stackVar ≠ "a" ++ i.repr := by
  simp [stackVar, ← String.toList_inj]

@[simp] theorem result_ne_spVar (i : Nat) : "a" ++ i.repr ≠ spVar :=
  (spVar_ne_result i).symm

@[simp] theorem result_ne_stackVar (i : Nat) : "a" ++ i.repr ≠ stackVar :=
  (stackVar_ne_result i).symm

theorem stackVar_ne_spVar : stackVar ≠ spVar := by decide

@[simp] theorem popArgsName_inj {n m : Nat} : Ident.popArgsName n = Ident.popArgsName m ↔ n = m := by
  simp [Ident.popArgsName]

/-- The pops of the helper of arity `k`, the last argument first. -/
def popArgsSteps (k : Nat) : List Stmt :=
  ((List.range k).reverse).flatMap fun i => [decrementSp, Stmt.assign (.ident s!"a{i + 1}") stackTop]

theorem popArgsSteps_succ (k : Nat) :
    popArgsSteps (k + 1) =
      decrementSp :: Stmt.assign (.ident s!"a{k + 1}") stackTop :: popArgsSteps k := by
  simp [popArgsSteps, List.range_succ]

/-- A lookup that the helper of arity `n` answers, and no helper of another arity, finds that
answer among the helpers of any arities that include `n`. -/
theorem helperDecls_findSome {α : Type} {f : Decl → Option α} {x : α} {arities : List Nat} {n : Nat}
    (hn : n ∈ arities) (hself : [(popArgsHelper n).1, (popArgsHelper n).2].findSome? f = some x)
    (hother : ∀ a, a ≠ n → [(popArgsHelper a).1, (popArgsHelper a).2].findSome? f = none) :
    (helperDecls arities).findSome? f = some x := by
  induction arities with
  | nil => simp at hn
  | cons a as ih =>
    rw [helperDecls, List.flatMap_cons, List.findSome?_append]
    by_cases ha : a = n
    · subst ha
      simp [hself]
    · have hn' : n ∈ as := by simpa [Ne.symm ha] using hn
      rw [hother a ha, Option.none_or]
      exact ih hn'

theorem helperDecls_procedure {arities : List Nat} {n : Nat} (hn : n ∈ arities) :
    (⟨helperDecls arities⟩ : Program).procedure? (Ident.popArgsName n) =
      some { name := Ident.popArgsName n, attributes := [inlineAttr],
             returns := (List.range n).map fun i => argResult (i + 1), modifies := [spVar] } :=
  helperDecls_findSome hn (by simp [popArgsHelper]) (fun a ha => by simp [popArgsHelper, ha])

theorem helperDecls_implementation {arities : List Nat} {n : Nat} (hn : n ∈ arities) :
    (⟨helperDecls arities⟩ : Program).implementation? (Ident.popArgsName n) =
      some { name := Ident.popArgsName n, returns := (List.range n).map fun i => argResult (i + 1),
             body := .assume (.binary .ge sp (.int n)) :: popArgsSteps n } :=
  helperDecls_findSome hn (by simp [popArgsHelper, popArgsSteps]) (fun a ha => by simp [popArgsHelper, ha])

theorem prelude_procedure_popArgs (n : Nat) :
    (⟨prelude⟩ : Program).procedure? (Ident.popArgsName n) = none := by
  simp [Program.procedure?, prelude, Ident.popArgsName, popToTmp, ← String.toList_inj]

theorem prelude_implementation_popArgs (n : Nat) :
    (⟨prelude⟩ : Program).implementation? (Ident.popArgsName n) = none := by
  simp [Program.implementation?, prelude, Ident.popArgsName, popToTmp, ← String.toList_inj]

theorem popArgsSteps_falls {p : Program} (k : Nat) : Falls p (popArgsSteps k) := by
  intro st hst
  simp only [popArgsSteps, List.mem_flatMap, List.mem_reverse, List.mem_range, List.mem_cons,
    List.not_mem_nil, or_false] at hst
  obtain ⟨i, -, rfl | rfl⟩ := hst
  · exact StmtFalls.assign
  · exact StmtFalls.assign

/-- The names of the results of the helper of arity `k`. -/
theorem resultNames (k : Nat) :
    Var.names ((List.range k).map fun i => argResult (i + 1)) = (List.range k).map fun i => s!"a{i + 1}" := by
  simp [Var.names, argResult]

theorem Runtime.popArgs_procedure {p : Program} {arities : List Nat} (hp : Runtime p arities)
    {n : Nat} (hn : n ∈ arities) :
    p.procedure? (Ident.popArgsName n) =
      some { name := Ident.popArgsName n, attributes := [inlineAttr],
             returns := (List.range n).map fun i => argResult (i + 1), modifies := [spVar] } :=
  hp.findSome_helpers (fun _ => rfl) (prelude_procedure_popArgs n) (helperDecls_procedure hn)

theorem Runtime.popArgs_implementation {p : Program} {arities : List Nat} (hp : Runtime p arities)
    {n : Nat} (hn : n ∈ arities) :
    p.implementation? (Ident.popArgsName n) =
      some { name := Ident.popArgsName n, returns := (List.range n).map fun i => argResult (i + 1),
             body := .assume (.binary .ge sp (.int n)) :: popArgsSteps n } :=
  hp.findSome_helpers (fun _ => rfl) (prelude_implementation_popArgs n) (helperDecls_implementation hn)

section Specs

variable {p : Program} {arities : List Nat} {body rest : List Stmt} {s s' t t' : Store} {o : Outcome}
  {g : ℤ → ℝ} {n : ℤ}

/-- The stack procedures move the pointer by one and compare it with zero, which is defined on an
integer pointer only. -/
theorem add_one_eq_some {v w : Val} :
    BinOp.add.apply v (.int 1) = some w ↔ ∃ n, v = .int n ∧ w = .int (n + 1) := by
  cases v <;> simp [BinOp.apply, eq_comm]

theorem sub_one_eq_some {v w : Val} :
    BinOp.sub.apply v (.int 1) = some w ↔ ∃ n, v = .int n ∧ w = .int (n - 1) := by
  cases v <;> simp [BinOp.apply, eq_comm]

theorem gt_zero_eq_true {v : Val} :
    BinOp.gt.apply v (.int 0) = some (.bool true) ↔ ∃ n, v = .int n ∧ 0 < n := by
  cases v <;> simp [BinOp.apply]

theorem push_iff (hp : Runtime p arities) {e : Expr} :
    StmtExec p s (push e) s' o ↔
      o = .next ∧ ∃ n g r, s.globals spVar = .int n ∧ e.eval p.funs s = some (.real r) ∧
        s.globals stackVar = .map g ∧
        s' = (s.setGlobal stackVar (.map (Function.update g n r))).setGlobal spVar (.int (n + 1)) := by
  rw [push, Stmt.callProc, StmtExec.callInline_iff (hp.procedure_eq rfl) rfl (hp.implementation_eq rfl)
    (Falls.cons StmtFalls.assignAt (Falls.cons StmtFalls.assign Falls.nil))]
  simp only [stackTop, sp, stackVar, spVar, Expr.evalList_singleton, Option.map_eq_some_iff, List.length_cons,
    List.length_nil, zero_add, Var.typed_nil, Var.names, List.append_nil, List.map_cons, List.map_nil,
    List.append_assoc, Exec.assignAt_cons_iff, Exec.assign_cons_iff, Exec.nil_iff, Expr.eval, Store.get, Store.set,
    Store.setAll, Store.setGlobal, frame, Option.some.injEq, Option.getD_none, Option.getD_some,
    Function.update_of_ne, String.reduceEq, reduceIte, ne_eq, not_false_eq_true, true_and, and_true,
    exists_and_left, existsAndEq, exists_exists_and_eq_and, add_one_eq_some]
  constructor
  · rintro ⟨rfl, g, n, r, eval, m, ⟨spInt, stackMap, spInt'⟩, rfl⟩
    obtain rfl : m = n := Val.int.inj (spInt'.symm.trans spInt)
    exact ⟨rfl, m, spInt, g, r, eval, stackMap, rfl⟩
  · rintro ⟨rfl, n, spInt, g, r, eval, stackMap, rfl⟩
    exact ⟨rfl, g, n, r, eval, n, ⟨spInt, stackMap, spInt⟩, rfl⟩

theorem popTo_iff (hp : Runtime p arities) {k : Nat} (hk : k ∈ [1, 2, 3]) :
    StmtExec p s (popTo k) s' o ↔
      o = .next ∧ ∃ n g, s.globals spVar = .int n ∧ 0 < n ∧ s.globals stackVar = .map g ∧
        s' = (s.setGlobal spVar (.int (n - 1))).setGlobal (tmpVar k) (.real (g (n - 1))) := by
  simp only [List.mem_cons, List.not_mem_nil, or_false] at hk
  rcases hk with rfl | rfl | rfl <;>
  · rw [popTo, Stmt.callProc, StmtExec.callInline_iff (hp.procedure_eq rfl) rfl
      (hp.implementation_eq rfl)
      (Falls.cons StmtFalls.assume (Falls.cons StmtFalls.assign (Falls.cons StmtFalls.assign Falls.nil)))]
    simp only [decrementSp, stackTop, sp, stackVar, spVar, tmpVar, Expr.evalList, List.length_nil,
      Var.typed_nil, Var.names, List.append_nil, List.map_nil, List.append_assoc, Exec.assume_cons_iff,
      Exec.assign_cons_iff, Exec.nil_iff, Expr.eval, Store.get, Store.set, Store.setAll, Store.setGlobal, frame,
      Option.some.injEq, Option.getD_none, Function.update_of_ne, String.reduceEq, ne_eq, not_false_eq_true,
      true_and, and_true, exists_and_left, existsAndEq, Function.update_self, gt_zero_eq_true, sub_one_eq_some]
    constructor
    · rintro ⟨rfl, n, v, ⟨⟨m, spInt', positive⟩, spInt, read⟩, rfl⟩
      obtain rfl : m = n := Val.int.inj (spInt'.symm.trans spInt)
      cases stack : s.globals "$stack" <;> rw [stack] at read <;> cases read
      exact ⟨rfl, m, spInt, positive, _, rfl, rfl⟩
    · rintro ⟨rfl, n, spInt, positive, g, stack, rfl⟩
      exact ⟨rfl, n, _, ⟨⟨n, spInt, positive⟩, spInt, by rw [stack]⟩, rfl⟩

theorem pop_iff (hp : Runtime p arities) :
    StmtExec p s (.callProc "pop" []) s' o ↔
      o = .next ∧ ∃ n, s.globals spVar = .int n ∧ 0 < n ∧ s' = s.setGlobal spVar (.int (n - 1)) := by
  rw [Stmt.callProc, StmtExec.callInline_iff (hp.procedure_eq rfl) rfl (hp.implementation_eq rfl)
    (Falls.cons StmtFalls.assume (Falls.cons StmtFalls.assign Falls.nil))]
  simp only [decrementSp, sp, spVar, Expr.evalList, List.length_nil, Var.typed_nil, Var.names, List.append_nil,
    List.map_nil, List.append_assoc, Exec.assume_cons_iff, Exec.assign_cons_iff, Exec.nil_iff, Expr.eval,
    Store.get, Store.set, Store.setAll, Store.setGlobal, frame, Option.some.injEq, Option.getD_none, true_and,
    and_true, exists_and_left, existsAndEq, gt_zero_eq_true, sub_one_eq_some]
  constructor
  · rintro ⟨rfl, n, ⟨⟨m, spInt', positive⟩, spInt⟩, rfl⟩
    obtain rfl : m = n := Val.int.inj (spInt'.symm.trans spInt)
    exact ⟨rfl, m, spInt, positive, rfl⟩
  · rintro ⟨rfl, n, spInt, positive, rfl⟩
    exact ⟨rfl, n, ⟨⟨n, spInt, positive⟩, spInt⟩, rfl⟩

/-- One pop into a variable of the frame: the pointer goes down by one and the variable takes
the value there. -/
theorem pop_into_iff {x : String} (hsp : t.locals spVar = none) (hst : t.locals stackVar = none)
    (hx : (t.locals x).isSome) (hn : t.globals spVar = .int n) (hg : t.globals stackVar = .map g) :
    Exec p body (decrementSp :: .assign (.ident x) stackTop :: rest) t t' o ↔
      Exec p body rest ⟨Function.update t.globals spVar (.int (n - 1)),
        Function.update t.locals x (some (.real (g (n - 1)))), t.old⟩ t' o := by
  have hx' : x ≠ spVar := by rintro rfl; simp [hsp] at hx
  have hdec : (Expr.binary .sub sp (.int 1)).eval p.funs t = some (.int (n - 1)) := by
    simp [sp, Expr.eval, Store.get_of_locals_none hsp, hn, BinOp.apply]
  have hset : t.set spVar (.int (n - 1)) = t.setGlobal spVar (.int (n - 1)) :=
    Store.set_of_locals_none _ hsp
  have htop : stackTop.eval p.funs (t.setGlobal spVar (.int (n - 1))) = some (.real (g (n - 1))) := by
    simp [stackTop, sp, Expr.eval, Store.get, Store.setGlobal, hsp, hst, hg, stackVar_ne_spVar]
  have hx'' : ((t.setGlobal spVar (.int (n - 1))).locals x).isSome := hx
  simp only [decrementSp, sp] at hdec ⊢
  simp only [Exec.assign_cons_iff, hdec, Option.some.injEq, exists_eq_left', hset, htop,
    Store.set_of_isSome _ hx'']
  rfl

/-- The runtime's globals are not hidden in a frame, and the results of the first `k` pops are
variables of it. -/
structure PopFrame (t : Store) (k : Nat) : Prop where
  sp : t.locals spVar = none
  stack : t.locals stackVar = none
  results : ∀ i < k, (t.locals s!"a{i + 1}").isSome

theorem PopFrame.pop {k : Nat} {v : Val} (hf : PopFrame t (k + 1)) (m : ℤ) :
    PopFrame ⟨Function.update t.globals spVar (.int m),
      Function.update t.locals s!"a{k + 1}" (some v), t.old⟩ k where
  sp := by simp [hf.sp]
  stack := by simp [hf.stack]
  results i hi := by
    by_cases h : i = k
    · simp [h]
    · simpa [Function.update_apply, h] using hf.results i (by omega)

/-- The pops of the helper of arity `k` run from a pointer `n` to `n - k`, and the result of
argument `i + 1` takes the value at `n - k + i`; no other variable of the frame changes. -/
theorem popArgsSteps_sound {k : Nat} (hf : PopFrame t k) (hn : t.globals spVar = .int n)
    (hg : t.globals stackVar = .map g) (hrun : Exec p body (popArgsSteps k) t t' o) :
    o = .next ∧ t'.globals = Function.update t.globals spVar (.int (n - k)) ∧
      (∀ i < k, t'.get s!"a{i + 1}" = .real (g (n - k + i))) ∧
      (∀ y, (∀ i < k, y ≠ s!"a{i + 1}") → t'.locals y = t.locals y) := by
  induction k generalizing t n with
  | zero =>
    obtain ⟨rfl, rfl⟩ := Exec.nil_iff.1 hrun
    simp [← hn]
  | succ k ih =>
    rw [popArgsSteps_succ, pop_into_iff hf.sp hf.stack (hf.results k (by omega)) hn hg] at hrun
    obtain ⟨ho, hglob, hres, hkeep⟩ :=
      ih (n := n - 1) (hf.pop (n - 1)) (by simp) (by simp [stackVar_ne_spVar, hg]) hrun
    refine ⟨ho, ?_, ?_, ?_⟩
    · rw [hglob, Function.update_idem]
      congr 2
      push_cast
      ring
    · intro i hi
      by_cases hik : i = k
      · subst hik
        have hlast : t'.locals s!"a{i + 1}" = some (.real (g (n - 1))) := by
          rw [hkeep _ (fun j hj => by simp; omega)]
          simp
        simp only [Store.get, hlast, Option.getD_some]
        congr 2
        push_cast
        ring
      · rw [hres i (by omega)]
        congr 2
        push_cast
        ring
    · intro y hy
      rw [hkeep y (fun i hi => hy i (by omega))]
      exact Function.update_of_ne (hy k (by omega)) _ _

theorem popArgsSteps_complete {k : Nat} (hf : PopFrame t k) (hn : t.globals spVar = .int n)
    (hg : t.globals stackVar = .map g) : ∃ t', Exec p body (popArgsSteps k) t t' .next := by
  induction k generalizing t n with
  | zero => exact ⟨t, .nil⟩
  | succ k ih =>
    obtain ⟨t', hrun⟩ := ih (n := n - 1) (hf.pop (n - 1)) (by simp) (by simp [stackVar_ne_spVar, hg])
    exact ⟨t', (popArgsSteps_succ k ▸ (pop_into_iff hf.sp hf.stack (hf.results k (by omega)) hn hg).2 hrun)⟩

theorem popArgs_results {N : Nat}
    (hres : ∀ i < N, t'.get s!"a{i + 1}" = .real (g (n - N + i))) :
    ((List.range N).map fun i => argResult (i + 1)).map (fun v => t'.get v.name) =
      (List.range N).map fun i : Nat => .real (g (n - N + i)) := by
  simp only [List.map_map]
  apply List.map_congr_left
  intro i hi
  exact hres i (List.mem_range.1 hi)

/-- The frame in which the helper of arity `k` runs: its results bound to values. -/
theorem popFrame_helper {k : Nat} (rs : List Val) (hlen : rs.length = k) (gl : String → Val) :
    PopFrame ⟨gl, frame ((List.range k).map fun i => s!"a{i + 1}") rs, gl⟩ k where
  sp := frame_eq_none (by simp)
  stack := frame_eq_none (by simp)
  results i hi := frame_isSome (List.mem_map.2 ⟨i, List.mem_range.2 hi, rfl⟩) (by simp [hlen])

theorem popArgs_iff (hp : Runtime p arities) {N : Nat} (hN : N ∈ arities) {outs : List String}
    (hg : s.globals stackVar = .map g) :
    StmtExec p s (.call (Ident.popArgsName N) [] outs) s' o ↔
      o = .next ∧ outs.length = N ∧ ∃ n, s.globals spVar = .int n ∧ (N : ℤ) ≤ n ∧
        s' = Store.setAll (s.setGlobal spVar (.int (n - N))) outs
          ((List.range N).map fun i : Nat => .real (g (n - N + i))) := by
  rw [StmtExec.callInline_iff (hp.popArgs_procedure hN) rfl (hp.popArgs_implementation hN)
    (Falls.cons StmtFalls.assume (popArgsSteps_falls N))]
  simp only [List.nil_append, List.append_nil, resultNames, Var.typed_nil, Expr.evalList_nil,
    Option.some.injEq]
  have hge : ∀ {rs : List Val},
      (Expr.binary .ge sp (.int N)).eval p.funs
          ⟨s.globals, frame ((List.range N).map fun i => s!"a{i + 1}") rs, s.globals⟩ = some (.bool true) ↔
        ∃ n, s.globals spVar = .int n ∧ (N : ℤ) ≤ n := by
    intro rs
    cases hsp : s.globals spVar <;>
      simp [Expr.eval, sp, Store.get, frame_eq_none, hsp, BinOp.apply]
  constructor
  · rintro ⟨rfl, vs, rs, ls, t', rfl, -, hrs, rfl, hrun, hout, rfl⟩
    simp only [List.nil_append, List.append_nil] at hrun
    obtain ⟨hpos, hrun⟩ := Exec.assume_cons_iff.1 hrun
    obtain ⟨n, hn, hle⟩ := hge.1 hpos
    obtain ⟨-, hglob, hres, -⟩ :=
      popArgsSteps_sound (popFrame_helper rs (by simpa using hrs.length_eq) s.globals) hn hg hrun
    refine ⟨rfl, by simpa using hout, n, hn, hle, ?_⟩
    rw [hglob, popArgs_results hres]
    rfl
  · rintro ⟨rfl, hout, n, hn, hle, rfl⟩
    let rs : List Val := ((List.range N).map fun i => argResult (i + 1)).map fun _ => .real 0
    have hrs : Var.Typed ((List.range N).map fun i => argResult (i + 1)) rs := by
      simp [rs, Var.Typed, List.forall₂_map_right_iff, List.forall₂_same, argResult, Val.ty]
    have hf := popFrame_helper (k := N) rs (by simp [rs]) s.globals
    obtain ⟨t', hrun⟩ := popArgsSteps_complete hf hn hg
    obtain ⟨-, hglob, hres, -⟩ := popArgsSteps_sound hf hn hg hrun
    refine ⟨rfl, [], rs, [], t', rfl, rfl, hrs, rfl, ?_, by simpa using hout, ?_⟩
    · simp only [List.nil_append, List.append_nil]
      exact Exec.assume_cons_iff.2 ⟨hge.2 ⟨n, hn, hle⟩, hrun⟩
    · rw [hglob, popArgs_results hres]
      rfl

theorem push_falls (hp : Runtime p arities) {e : Expr} : StmtFalls p (push e) :=
  fun _ _ _ h => ((push_iff hp).1 h).1

theorem popTo_falls (hp : Runtime p arities) {k : Nat} (hk : k ∈ [1, 2, 3]) : StmtFalls p (popTo k) :=
  fun _ _ _ h => ((popTo_iff hp hk).1 h).1

theorem pop_falls (hp : Runtime p arities) : StmtFalls p (.callProc "pop" []) :=
  fun _ _ _ h => ((pop_iff hp).1 h).1

theorem popArgs_falls (hp : Runtime p arities) {N : Nat} (hN : N ∈ arities) {outs : List String} :
    StmtFalls p (.call (Ident.popArgsName N) [] outs) :=
  StmtFalls.callInline (hp.popArgs_procedure hN) rfl (hp.popArgs_implementation hN)
    (Falls.cons StmtFalls.assume (popArgsSteps_falls N))

end Specs

end WasmBoogie.Lower
