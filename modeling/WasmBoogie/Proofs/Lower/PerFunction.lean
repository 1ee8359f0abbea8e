import Mathlib.Data.List.Sort
import WasmBoogie.Proofs.Lower.Scopes
import WasmBoogie.Proofs.Lower.Runtime

namespace WasmBoogie

open Boogie

namespace Lower

/-- The state of the function being lowered alone: its own part, with no helper in use and no
diagnostic. -/
def State.own (σ : State) : State := { σ with helpers := [], diagnostics := #[] }

/-- A step of the lowering that reads only the function's own part of the state and adds to the
shared part without reading it: run from any state, it gives what it gives from that state's
own part, leaves the same own part, puts its diagnostics after those already there, and adds
its helpers to those already in use. -/
structure Local {α : Type} (x : LowerM α) : Prop where
  result : ∀ σ, (x.run σ).1 = (x.run σ.own).1
  own : ∀ σ, (x.run σ).2.own = (x.run σ.own).2.own
  diagnostics : ∀ σ, (x.run σ).2.diagnostics = σ.diagnostics ++ (x.run σ.own).2.diagnostics
  helpers : ∀ σ n, n ∈ (x.run σ).2.helpers ↔ n ∈ σ.helpers ∨ n ∈ (x.run σ.own).2.helpers

namespace Local

variable {α β : Type}

theorem pure (a : α) : Local (Pure.pure a : LowerM α) where
  result _ := rfl
  own _ := rfl
  diagnostics _ := Array.append_empty.symm
  helpers _ _ := (or_iff_left List.not_mem_nil).symm

theorem bind {x : LowerM α} {f : α → LowerM β} (hx : Local x) (hf : ∀ a, Local (f a)) :
    Local (x >>= f) := by
  have step : ∀ σ, (x >>= f).run σ.own = (f (x.run σ).1).run (x.run σ.own).2 := by
    intro σ
    rw [run_bind, hx.result σ]
  refine ⟨fun σ => ?_, fun σ => ?_, fun σ => ?_, fun σ n => ?_⟩
  · rw [step, run_bind, (hf _).result (x.run σ).2, (hf _).result (x.run σ.own).2, hx.own σ]
  · rw [step, run_bind, (hf _).own (x.run σ).2, (hf _).own (x.run σ.own).2, hx.own σ]
  · rw [step, run_bind, (hf _).diagnostics (x.run σ).2, (hf _).diagnostics (x.run σ.own).2, hx.own σ,
      hx.diagnostics σ, Array.append_assoc]
  · rw [step, run_bind, (hf _).helpers (x.run σ).2, (hf _).helpers (x.run σ.own).2, hx.own σ,
      hx.helpers σ, or_assoc]

theorem map {x : LowerM α} (f : α → β) (hx : Local x) : Local (f <$> x) where
  result σ := by rw [run_map, run_map, hx.result σ]
  own σ := by rw [run_map, run_map, hx.own σ]
  diagnostics σ := by rw [run_map, run_map, hx.diagnostics σ]
  helpers σ n := by rw [run_map, run_map, hx.helpers σ]

theorem mapM {f : α → LowerM β} (hf : ∀ a, Local (f a)) : ∀ xs : List α, Local (xs.mapM f)
  | [] => pure _
  | a :: rest => by
    rw [List.mapM_cons]
    exact (hf a).bind fun _ => (mapM hf rest).bind fun _ => pure _

/-- A step that reads and writes only the function's own part of the state. -/
theorem of_own {x : LowerM α}
    (run : ∀ σ, x.run σ = ((x.run σ.own).1,
      { (x.run σ.own).2 with helpers := σ.helpers, diagnostics := σ.diagnostics })) : Local x := by
  have quiet : ∀ σ : State, (x.run σ.own).2.helpers = [] ∧ (x.run σ.own).2.diagnostics = #[] := by
    intro σ
    rw [run σ.own]
    exact ⟨rfl, rfl⟩
  refine ⟨fun σ => ?_, fun σ => ?_, fun σ => ?_, fun σ n => ?_⟩
  · rw [run σ]
  · rw [run σ]
    rfl
  · rw [run σ, (quiet σ).2, Array.append_empty]
  · rw [run σ, (quiet σ).1]
    simp

/-- A step chosen by an optional value is local when every choice is. -/
theorem option_cases {γ : Type} {k : Option γ → LowerM β} (chosen : ∀ a, Local (k (some a)))
    (absent : Local (k none)) (o : Option γ) : Local (k o) := by
  cases o with
  | some a => exact chosen a
  | none => exact absent

/-- Reading the state to pick the next step is local when the choice reads only the own part. -/
theorem get_bind {k : State → LowerM β} (reads : ∀ σ, k σ.own = k σ) (hk : ∀ σ, Local (k σ)) :
    Local (get >>= k) := by
  have run : ∀ σ, (get >>= k).run σ = (k σ).run σ := fun _ => rfl
  have runOwn : ∀ σ, (get >>= k).run σ.own = (k σ).run σ.own := fun σ => by rw [run, reads]
  exact ⟨fun σ => by rw [run, runOwn, (hk σ).result],
    fun σ => by rw [run, runOwn, (hk σ).own],
    fun σ => by rw [run, runOwn, (hk σ).diagnostics],
    fun σ n => by rw [run, runOwn, (hk σ).helpers]⟩

end Local

theorem ensurePopArgs_run (arity : Nat) (σ : State) :
    (ensurePopArgs arity).run σ = (Ident.popArgsName arity,
      { σ with helpers := if σ.helpers.contains arity then σ.helpers else σ.helpers ++ [arity] }) :=
  rfl

theorem local_note (env : Env) (kind : DiagnosticKind) (message : String) : Local (note env kind message) where
  result _ := rfl
  own _ := rfl
  diagnostics σ := by simp [note_run, State.own]
  helpers σ n := by simp [note_run, State.own]

theorem local_ensurePopArgs (arity : Nat) : Local (ensurePopArgs arity) where
  result _ := rfl
  own _ := rfl
  diagnostics σ := by simp [ensurePopArgs_run, State.own]
  helpers σ n := by
    simp only [ensurePopArgs_run, State.own]
    split <;> simp_all

theorem local_enterScope (env : Env) (label : Option String) (kind : ScopeKind) :
    Local (enterScope env label kind) :=
  Local.of_own fun σ => by
    rw [enterScope_run, enterScope_run]
    rfl

theorem local_leaveScope (env : Env) : Local (leaveScope env) :=
  Local.of_own fun σ => by
    obtain ⟨_ | ⟨s, rest⟩, _, _, _, _, _⟩ := σ <;> rfl

theorem local_exitLabel : Local exitLabel :=
  Local.of_own fun σ => by
    obtain ⟨_, _, _, _ | _, _, _⟩ := σ <;> rfl

theorem local_markReferenced (i : Nat) : Local (markReferenced i) :=
  Local.of_own fun σ => by
    rw [markReferenced_run, markReferenced_run]
    dsimp only [State.own]
    cases σ.scopes[i]? <;> rfl

theorem local_resolveBranch (env : Env) (target : LabelRef) : Local (resolveBranch env target) := by
  unfold resolveBranch
  refine Local.get_bind (fun _ => rfl) fun σ => ?_
  extract_lets scopes opened toExit
  have found : ∀ found, Local (toExit found) := Local.option_cases (fun i => (local_markReferenced i).bind
    (Local.option_cases (fun _ => Local.pure _) local_exitLabel)) local_exitLabel
  cases target with
  | depth d =>
    dsimp -zeta only
    extract_lets afterNote
    have resumed : ∀ r, Local (afterNote r) := fun _ => (Local.pure _).bind found
    split
    · exact (local_note ..).bind resumed
    · exact resumed ()
  | name n =>
    dsimp only
    cases scopes.findIdx? (·.label == some n) with
    | some i => exact (Local.pure _).bind found
    | none => exact (local_note ..).bind fun _ => (Local.pure _).bind found

theorem local_lowerUnary (env : Env) (op : String) : Local (lowerUnary env op) := by
  unfold lowerUnary
  dsimp only
  split
  case h_3 => exact (local_note ..).bind fun _ => Local.pure _
  all_goals exact Local.pure _

theorem local_lowerBinary (env : Env) (op : String) : Local (lowerBinary env op) := by
  unfold lowerBinary
  dsimp only
  split
  · exact (local_note ..).bind fun _ => (Local.pure _).bind fun _ => Local.pure _
  · exact (Local.pure _).bind fun _ => Local.pure _

mutual

/-- Lowering an instruction reads only the function's own part of the state. -/
theorem lowerInstr_local (env : Env) : ∀ i : Instr, Local (lowerInstr env i)
  | .const ty literal => by
    simp only [lowerInstr]
    split
    · exact Local.pure _
    · exact (local_note ..).bind fun _ => Local.pure _
  | .raw name => by
    simp only [lowerInstr]
    split
    · exact Local.pure _
    · exact (local_note ..).bind fun _ => Local.pure _
  | .localGet _ | .nop | .unreachable => Local.pure _
  | .localSet _ value | .localTee _ value => by
    simp only [lowerInstr]
    exact (lowerOpt_local env value).bind fun _ => (local_ensurePopArgs 1).bind fun _ => Local.pure _
  | .unary op operand => by
    simp only [lowerInstr]
    exact (lowerOpt_local env operand).bind fun _ => (local_lowerUnary env op).bind fun _ => Local.pure _
  | .binary op left right => by
    simp only [lowerInstr]
    exact (lowerOpt_local env left).bind fun _ => (lowerOpt_local env right).bind fun _ =>
      (local_lowerBinary env op).bind fun _ => Local.pure _
  | .call _ ops | .select ops => by
    simp only [lowerInstr]
    exact (lowerList_local env ops).bind fun _ => Local.pure _
  | .ret ops => by
    simp only [lowerInstr]
    exact (lowerList_local env ops).bind fun _ => local_exitLabel.bind fun _ => Local.pure _
  | .structural _ ops => lowerList_local env ops
  | .block label body | .loop label body => by
    simp only [lowerInstr]
    exact (local_enterScope env label _).bind fun _ => (lowerList_local env body).bind fun _ =>
      (local_leaveScope env).bind fun _ => Local.pure _
  | .ite label cond thenBody (some elseBody) => by
    simp only [lowerInstr]
    exact (lowerList_local env cond).bind fun _ => (local_enterScope env label _).bind fun _ =>
      (lowerList_local env thenBody).bind fun _ => ((lowerList_local env elseBody).map _).bind fun _ =>
        (local_leaveScope env).bind fun _ => Local.pure _
  | .ite label cond thenBody none => by
    simp only [lowerInstr]
    exact (lowerList_local env cond).bind fun _ => (local_enterScope env label _).bind fun _ =>
      (lowerList_local env thenBody).bind fun _ => (Local.pure _).bind fun _ =>
        (local_leaveScope env).bind fun _ => Local.pure _
  | .br target ops | .brIf target ops => by
    simp only [lowerInstr]
    exact (lowerList_local env ops).bind fun _ => (local_resolveBranch env target).bind fun _ => Local.pure _
  | .brTable ops targets default => by
    simp only [lowerInstr]
    exact (lowerList_local env ops).bind fun _ => (Local.mapM (local_resolveBranch env) targets).bind fun _ =>
      (local_resolveBranch env default).bind fun _ => Local.pure _

theorem lowerOpt_local (env : Env) : ∀ i : Option Instr, Local (lowerOpt env i)
  | some i => lowerInstr_local env i
  | none => Local.pure _

theorem lowerList_local (env : Env) : ∀ is : List Instr, Local (lowerList env is)
  | [] => Local.pure _
  | i :: rest => by
    simp only [lowerList]
    exact (lowerInstr_local env i).bind fun _ => (lowerList_local env rest).bind fun _ => Local.pure _

end

theorem lowerFunction_local (options : LowerOptions) (callees : CalleeTable) (name : String) (f : Function) :
    Local (lowerFunction options callees name f) := by
  unfold lowerFunction
  dsimp only
  refine (Local.of_own fun σ => rfl).bind fun _ => ?_
  split
  · exact (local_ensurePopArgs _).bind fun _ => (Local.pure _).bind fun _ =>
      (lowerList_local _ f.body).bind fun _ => Local.get_bind (fun _ => rfl) fun _ => Local.pure _
  · exact (Local.pure _).bind fun _ => (lowerList_local _ f.body).bind fun _ =>
      Local.get_bind (fun _ => rfl) fun _ => Local.pure _

/-- A function's lowering starts by resetting its own part of the state, so from any own part
it runs as from the start state. -/
theorem lowerFunction_run_own (options : LowerOptions) (callees : CalleeTable) (name : String)
    (f : Function) (σ : State) :
    (lowerFunction options callees name f).run σ.own = (lowerFunction options callees name f).run {} :=
  rfl

/-- A function lowered after others gives what it gives alone, puts its diagnostics after
theirs and adds its helpers to theirs. -/
theorem lowerFunction_run (options : LowerOptions) (callees : CalleeTable) (name : String) (f : Function)
    (σ : State) :
    ((lowerFunction options callees name f).run σ).1 = ((lowerFunction options callees name f).run {}).1 ∧
      ((lowerFunction options callees name f).run σ).2.diagnostics =
        σ.diagnostics ++ ((lowerFunction options callees name f).run {}).2.diagnostics ∧
      ∀ n, n ∈ ((lowerFunction options callees name f).run σ).2.helpers ↔
        n ∈ σ.helpers ∨ n ∈ ((lowerFunction options callees name f).run {}).2.helpers := by
  have alone := lowerFunction_local options callees name f
  rw [← lowerFunction_run_own options callees name f σ]
  exact ⟨alone.result σ, alone.diagnostics σ, alone.helpers σ⟩

/-- The procedure and implementation of a function lowered alone, from the start state, with
the helpers it asks for and the diagnostics it makes. -/
def lowerAlone (options : LowerOptions) (callees : CalleeTable) (f : Function) :
    (Procedure × Implementation) × State :=
  (lowerFunction options callees (Ident.procedureName f.name f.index) f).run {}

/-- The declarations of a function lowered alone: its procedure, then its implementation. -/
def aloneDecls (options : LowerOptions) (callees : CalleeTable) (f : Function) : List Decl :=
  [.procedure (lowerAlone options callees f).1.1, .implementation (lowerAlone options callees f).1.2]

/-- A function passes the label check that the options ask for: the check is off, or its body
has no scope that repeats the label of a scope around it. -/
def LabelsPass (options : LowerOptions) (f : Function) : Prop :=
  options.verifyLabels = true → verifyLabels f.body = .ok ()

section Functions

variable {options : LowerOptions} {callees : CalleeTable}

theorem lowerFunctions_cons_of_pass {f : Function} {rest : List Function} {σ : State}
    (pass : LabelsPass options f) :
    lowerFunctions options callees (f :: rest) σ =
      (lowerFunctions options callees rest ((lowerFunction options callees (Ident.procedureName f.name f.index) f).run σ).2).map
        fun r => (.procedure ((lowerFunction options callees (Ident.procedureName f.name f.index) f).run σ).1.1 ::
          .implementation ((lowerFunction options callees (Ident.procedureName f.name f.index) f).run σ).1.2 :: r.1, r.2) := by
  cases on : options.verifyLabels
  · simp only [lowerFunctions, on, Bool.false_eq_true, if_false]
    rfl
  · simp only [lowerFunctions, on, if_true, pass on]
    rfl

theorem lowerFunctions_cons_of_fail {f : Function} {rest : List Function} {σ : State} {err : ParseError}
    (on : options.verifyLabels = true) (fails : verifyLabels f.body = .error err) :
    lowerFunctions options callees (f :: rest) σ = .error (.parse (Ident.procedureName f.name f.index) err) := by
  simp only [lowerFunctions, on, if_true, fails]
  rfl

theorem labelsPass_of_not_fail {f : Function} (passes : ∀ err, ¬ (options.verifyLabels = true ∧
    verifyLabels f.body = .error err)) : LabelsPass options f := by
  intro on
  cases checked : verifyLabels f.body with
  | error err => exact absurd ⟨on, checked⟩ (passes err)
  | ok u => rfl

/-- Lowering functions in order gives each function's declarations as it gives them alone, the
diagnostics of each after the earlier ones, and the helpers of all of them. -/
theorem lowerFunctions_ok : ∀ {fs : List Function} {σ σ' : State} {decls : List Decl},
    lowerFunctions options callees fs σ = .ok (decls, σ') →
      (∀ f ∈ fs, LabelsPass options f) ∧ decls = fs.flatMap (aloneDecls options callees) ∧
      σ'.diagnostics.toList =
        σ.diagnostics.toList ++ fs.flatMap (fun f => (lowerAlone options callees f).2.diagnostics.toList) ∧
      ∀ n, n ∈ σ'.helpers ↔ n ∈ σ.helpers ∨ ∃ f ∈ fs, n ∈ (lowerAlone options callees f).2.helpers
  | [], σ, σ', decls, h => by
    obtain ⟨rfl, rfl⟩ := Prod.mk.inj (Except.ok.inj h)
    simp
  | f :: rest, σ, σ', decls, h => by
    have pass : LabelsPass options f := labelsPass_of_not_fail fun err ⟨on, fails⟩ => by
      rw [lowerFunctions_cons_of_fail on fails] at h
      cases h
    rw [lowerFunctions_cons_of_pass pass] at h
    cases restRun : lowerFunctions options callees rest
        ((lowerFunction options callees (Ident.procedureName f.name f.index) f).run σ).2 with
    | error e =>
      rw [restRun] at h
      cases h
    | ok r =>
      rw [restRun] at h
      obtain ⟨rfl, rfl⟩ := Prod.mk.inj (Except.ok.inj h)
      obtain ⟨passes, decls, diagnostics, helpers⟩ := lowerFunctions_ok restRun
      obtain ⟨same, noted, used⟩ := lowerFunction_run options callees (Ident.procedureName f.name f.index) f σ
      refine ⟨List.forall_mem_cons.2 ⟨pass, passes⟩, ?_, ?_, fun n => ?_⟩
      · rw [decls, List.flatMap_cons, same]
        rfl
      · rw [diagnostics, noted, Array.toList_append, List.flatMap_cons, List.append_assoc]
        rfl
      · rw [helpers, used]
        simp only [lowerAlone, List.mem_cons, or_and_right, exists_or, exists_eq_left, or_assoc]

/-- The first function of a list, in order, whose labels fail a check that is on, with the
error of the check. -/
def FirstLabelFailure (options : LowerOptions) (fs : List Function) (f : Function) (err : ParseError) : Prop :=
  options.verifyLabels = true ∧ ∃ pre post, fs = pre ++ f :: post ∧ (∀ g ∈ pre, LabelsPass options g) ∧
    verifyLabels f.body = .error err

namespace FirstLabelFailure

variable {f g : Function} {rest : List Function} {err : ParseError}

theorem not_nil : ¬ FirstLabelFailure options [] g err := by
  rintro ⟨-, pre, post, split, -⟩
  exact List.cons_ne_nil _ _ (List.append_eq_nil_iff.1 split.symm).2

/-- Past a function that passes, the first failure is the first failure of the rest. -/
theorem cons_of_pass (pass : LabelsPass options f) :
    FirstLabelFailure options (f :: rest) g err ↔ FirstLabelFailure options rest g err := by
  constructor
  · rintro ⟨on, pre, post, split, earlier, fails⟩
    cases pre with
    | nil =>
      obtain ⟨rfl, -⟩ := List.cons.inj split
      rw [pass on] at fails
      cases fails
    | cons h pre =>
      obtain ⟨-, split⟩ := List.cons.inj split
      exact ⟨on, pre, post, split, fun g' mem => earlier g' (List.mem_cons_of_mem _ mem), fails⟩
  · rintro ⟨on, pre, post, split, earlier, fails⟩
    exact ⟨on, f :: pre, post, by rw [split, List.cons_append], List.forall_mem_cons.2 ⟨pass, earlier⟩, fails⟩

/-- A function that fails is the first failure. -/
theorem cons_of_fail (on : options.verifyLabels = true) {failure : ParseError}
    (fails : verifyLabels f.body = .error failure) :
    FirstLabelFailure options (f :: rest) g err ↔ g = f ∧ err = failure := by
  constructor
  · rintro ⟨-, pre, post, split, earlier, failsToo⟩
    cases pre with
    | nil =>
      obtain ⟨rfl, -⟩ := List.cons.inj split
      rw [fails] at failsToo
      exact ⟨rfl, (Except.error.inj failsToo).symm⟩
    | cons h pre =>
      have passes := earlier h List.mem_cons_self
      rw [← (List.cons.inj split).1] at passes
      rw [passes on] at fails
      cases fails
  · rintro ⟨rfl, rfl⟩
    exact ⟨on, [], rest, rfl, fun _ mem => absurd mem List.not_mem_nil, fails⟩

end FirstLabelFailure

/-- Lowering functions in order fails exactly at the first function whose labels fail a check
that is on, with that function's procedure name and the check's error. -/
theorem lowerFunctions_error_iff {fs : List Function} {σ : State} {e : LowerError} :
    lowerFunctions options callees fs σ = .error e ↔
      ∃ f err, FirstLabelFailure options fs f err ∧ e = .parse (Ident.procedureName f.name f.index) err := by
  induction fs generalizing σ with
  | nil =>
    simp only [lowerFunctions, reduceCtorEq, false_iff]
    rintro ⟨_, _, failed, -⟩
    exact FirstLabelFailure.not_nil failed
  | cons f rest ih =>
    by_cases pass : LabelsPass options f
    · rw [lowerFunctions_cons_of_pass pass]
      simp only [FirstLabelFailure.cons_of_pass pass]
      generalize (lowerFunction options callees (Ident.procedureName f.name f.index) f).run σ = run
      rw [← ih]
      cases lowerFunctions options callees rest run.2 with
      | error e' => exact Iff.rfl
      | ok r => simp only [Except.map, reduceCtorEq]
    · obtain ⟨on, failure, fails⟩ : options.verifyLabels = true ∧ ∃ err, verifyLabels f.body = .error err := by
        refine Classical.byContradiction fun passes => pass (labelsPass_of_not_fail fun err failed => ?_)
        exact passes ⟨failed.1, err, failed.2⟩
      rw [lowerFunctions_cons_of_fail on fails]
      simp only [FirstLabelFailure.cons_of_fail on fails]
      constructor
      · intro h
        exact ⟨f, failure, ⟨rfl, rfl⟩, (Except.error.inj h).symm⟩
      · rintro ⟨_, _, ⟨rfl, rfl⟩, rfl⟩
        rfl

end Functions

/-- What a lowered program starts with, before the functions: the header comments, the prelude,
the helpers of the given arities and the procedures of the imports. -/
def programHead (options : LowerOptions) (imports : List Import) (arities : List Nat) : List Decl :=
  (.comment "generated by wasm2bpl" ::
    (match options.contractName with
     | some c => [.comment ("contract: " ++ c)]
     | none => [])) ++ prelude ++ helperDecls arities ++
    imports.map fun i => importProcedure (Ident.importName i) i.paramCount i.resultCount

theorem mem_insertSorted {n k : Nat} : ∀ {l : List Nat}, k ∈ insertSorted n l ↔ k = n ∨ k ∈ l
  | [] => by simp [insertSorted]
  | m :: rest => by
    unfold insertSorted
    split
    · exact List.mem_cons
    · split
      · rename_i same
        subst same
        simp only [List.mem_cons]
        constructor
        · exact .inr
        · rintro (rfl | mem)
          · exact .inl rfl
          · exact mem
      · simp only [List.mem_cons, mem_insertSorted]
        constructor
        · rintro (rfl | rfl | mem)
          · exact .inr (.inl rfl)
          · exact .inl rfl
          · exact .inr (.inr mem)
        · rintro (rfl | rfl | mem)
          · exact .inr (.inl rfl)
          · exact .inl rfl
          · exact .inr (.inr mem)

theorem pairwise_insertSorted {n : Nat} : ∀ {l : List Nat}, l.Pairwise (· < ·) → (insertSorted n l).Pairwise (· < ·)
  | [], _ => List.pairwise_singleton _ _
  | m :: rest, sorted => by
    obtain ⟨above, restSorted⟩ := List.pairwise_cons.1 sorted
    unfold insertSorted
    split
    · rename_i below
      refine List.pairwise_cons.2 ⟨fun k mem => ?_, sorted⟩
      rcases List.mem_cons.1 mem with rfl | mem
      · exact below
      · exact Nat.lt_trans below (above k mem)
    · split
      · exact sorted
      · rename_i notBelow notSame
        refine List.pairwise_cons.2 ⟨fun k mem => ?_, pairwise_insertSorted restSorted⟩
        rcases mem_insertSorted.1 mem with rfl | mem
        · omega
        · exact above k mem

/-- Inserting numbers one by one keeps the list increasing and adds exactly those numbers. -/
theorem foldl_insertSorted : ∀ (helpers acc : List Nat), acc.Pairwise (· < ·) →
    (helpers.foldl (fun acc n => insertSorted n acc) acc).Pairwise (· < ·) ∧
      ∀ k, k ∈ helpers.foldl (fun acc n => insertSorted n acc) acc ↔ k ∈ acc ∨ k ∈ helpers
  | [], acc, sorted => ⟨sorted, fun k => by simp⟩
  | n :: rest, acc, sorted => by
    obtain ⟨restSorted, restMem⟩ := foldl_insertSorted rest (insertSorted n acc) (pairwise_insertSorted sorted)
    refine ⟨restSorted, fun k => ?_⟩
    rw [List.foldl_cons, restMem, mem_insertSorted, List.mem_cons]
    constructor
    · rintro ((rfl | mem) | mem)
      · exact .inr (.inl rfl)
      · exact .inl mem
      · exact .inr (.inr mem)
    · rintro (mem | rfl | mem)
      · exact .inl (.inr mem)
      · exact .inl (.inl rfl)
      · exact .inr mem

/-- The program lists the helpers in use by increasing arity, so it depends only on which
helpers are in use, not on the order in which they were first asked for. -/
theorem sortedArities_eq {helpers helpers' : List Nat} (same : ∀ n, n ∈ helpers ↔ n ∈ helpers') :
    helpers.foldl (fun acc n => insertSorted n acc) [] = helpers'.foldl (fun acc n => insertSorted n acc) [] := by
  obtain ⟨sorted, mem⟩ := foldl_insertSorted helpers [] List.Pairwise.nil
  obtain ⟨sorted', mem'⟩ := foldl_insertSorted helpers' [] List.Pairwise.nil
  refine sorted.eq_of_mem_iff sorted' fun n => ?_
  simp only [mem, mem', List.not_mem_nil, false_or, same]

/-- A lowered module: the callee table built, every function past the label check, and the
program the functions' declarations in order after the head, with the helpers that the functions
ask for by increasing arity; the diagnostics are the functions' in order. -/
theorem lowerModule_ok {m : Module} {options : LowerOptions} {r : LoweredModule}
    (lowered : lowerModule m options = .ok r) :
    ∃ callees, ∃ helpers : List Nat, CalleeTable.build m = .ok callees ∧ (∀ f ∈ m.functions, LabelsPass options f) ∧
      (∀ n, n ∈ helpers ↔ ∃ f ∈ m.functions, n ∈ (lowerAlone options callees f).2.helpers) ∧
      r.program.decls = programHead options m.imports (helpers.foldl (fun acc n => insertSorted n acc) []) ++
        m.functions.flatMap (aloneDecls options callees) ∧
      r.diagnostics = m.functions.flatMap fun f => (lowerAlone options callees f).2.diagnostics.toList := by
  cases built : CalleeTable.build m with
  | error e =>
    simp only [lowerModule, built, bind, Except.bind] at lowered
    cases lowered
  | ok callees =>
    cases run : lowerFunctions options callees m.functions {} with
    | error e =>
      simp only [lowerModule, built, run, bind, Except.bind] at lowered
      cases lowered
    | ok result =>
      obtain ⟨decls, s⟩ := result
      obtain ⟨passes, rfl, diagnostics, helpers⟩ := lowerFunctions_ok run
      simp only [lowerModule, built, run, bind, Except.bind, pure, Except.pure] at lowered
      cases lowered
      refine ⟨callees, s.helpers, rfl, passes, fun n => by simpa using helpers n, rfl, ?_⟩
      simpa using diagnostics

/-- A module fails to lower exactly when its callee table fails, with that error, or, with the
table built, at the first function whose labels fail a check that is on. -/
theorem lowerModule_error_iff {m : Module} {options : LowerOptions} {e : LowerError} :
    lowerModule m options = .error e ↔
      CalleeTable.build m = .error e ∨ (∃ callees, CalleeTable.build m = .ok callees) ∧
        ∃ f err, FirstLabelFailure options m.functions f err ∧ e = .parse (Ident.procedureName f.name f.index) err := by
  cases built : CalleeTable.build m with
  | error e' =>
    simp only [lowerModule, built, bind, Except.bind, reduceCtorEq, exists_false, false_and, or_false,
      Except.error.injEq]
  | ok callees =>
    simp only [lowerModule, built, bind, Except.bind, reduceCtorEq, false_or, Except.ok.injEq, exists_eq',
      true_and]
    rw [← lowerFunctions_error_iff]
    cases lowerFunctions options callees m.functions {} with
    | error e' => simp only [Except.error.injEq]
    | ok r => exact ⟨nofun, nofun⟩

theorem not_firstLabelFailure {options : LowerOptions} {fs : List Function}
    (passes : ∀ f ∈ fs, LabelsPass options f) (f : Function) (err : ParseError) :
    ¬ FirstLabelFailure options fs f err := by
  rintro ⟨on, pre, post, rfl, -, fails⟩
  rw [passes f (List.mem_append_right _ List.mem_cons_self) on] at fails
  cases fails

/-- A module lowers exactly when its callee table builds and every function passes the label
check that the options ask for. -/
theorem lowerModule_succeeds_iff {m : Module} {options : LowerOptions} :
    (∃ r, lowerModule m options = .ok r) ↔
      (∃ callees, CalleeTable.build m = .ok callees) ∧ ∀ f ∈ m.functions, LabelsPass options f := by
  constructor
  · rintro ⟨r, lowered⟩
    obtain ⟨callees, _, built, passes, -⟩ := lowerModule_ok lowered
    exact ⟨⟨callees, built⟩, passes⟩
  · rintro ⟨⟨callees, built⟩, passes⟩
    cases lowered : lowerModule m options with
    | ok r => exact ⟨r, rfl⟩
    | error e =>
      rcases lowerModule_error_iff.1 lowered with failed | ⟨-, f, err, first, -⟩
      · rw [built] at failed
        cases failed
      · exact absurd first (not_firstLabelFailure passes f err)

end Lower

end WasmBoogie
