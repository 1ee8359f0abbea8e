import Mathlib.Data.List.Forall2
import WasmBoogie.Proofs.Boogie.Nested
import WasmBoogie.Proofs.Instr.BranchDestinations
import WasmBoogie.Proofs.Lower.ScanAgreement
import WasmBoogie.Proofs.Lower.TableBranch
import WasmBoogie.Proofs.Lower.ControlFlow

namespace WasmBoogie

open Boogie

namespace Lower

/-- A scope as the lowering meets it: the record it opens for the scope, and the statements of
what the scope holds, the body of a block or a loop or the conditional holding both arms of an
`if`. -/
structure ScopeRun where
  scope : Scope
  body : List Stmt

/-- Where a branch to the scope continues, with the label that marks the place: the label and
then the statements of a loop's body, or the statements of a block or an `if` and then the
label. -/
def ScopeRun.landing (r : ScopeRun) : List Stmt :=
  match r.scope.kind with
  | .loop => .label r.scope.branchTarget :: r.body
  | _ => r.body ++ [.label r.scope.branchTarget]

mutual

/-- The scopes of an instruction lowered from a state, in the order they open. -/
def scopeRuns (env : Env) : Instr → State → List ScopeRun
  | .block name body, σ =>
    let inner := ((enterScope env name .block).run σ).2
    ⟨openedScope σ name .block, ((lowerList env body).run inner).1⟩ :: scopeRunsList env body inner
  | .loop name body, σ =>
    let inner := ((enterScope env name .loop).run σ).2
    ⟨openedScope σ name .loop, ((lowerList env body).run inner).1⟩ :: scopeRunsList env body inner
  | .ite name cond thenBody elseBody, σ =>
    let afterCond := ((lowerList env cond).run σ).2
    let inner := ((enterScope env name .ite).run afterCond).2
    let afterThen := ((lowerList env thenBody).run inner).2
    scopeRunsList env cond σ ++
      ⟨openedScope afterCond name .ite, [.ite tmp1IsTrue ((lowerList env thenBody).run inner).1
          (elseBody.map fun b => ((lowerList env b).run afterThen).1)]⟩ ::
        (scopeRunsList env thenBody inner ++
          match elseBody with
          | some b => scopeRunsList env b afterThen
          | none => [])
  | .localSet _ value, σ | .localTee _ value, σ | .unary _ value, σ => scopeRunsOpt env value σ
  | .binary _ left right, σ => scopeRunsOpt env left σ ++ scopeRunsOpt env right ((lowerOpt env left).run σ).2
  | .call _ ops, σ | .select ops, σ | .structural _ ops, σ | .ret ops, σ | .br _ ops, σ | .brIf _ ops, σ
  | .brTable ops _ _, σ => scopeRunsList env ops σ
  | .const .., _ | .localGet _, _ | .nop, _ | .unreachable, _ | .raw _, _ => []

def scopeRunsOpt (env : Env) : Option Instr → State → List ScopeRun
  | some i, σ => scopeRuns env i σ
  | none, _ => []

def scopeRunsList (env : Env) : List Instr → State → List ScopeRun
  | [], _ => []
  | i :: rest, σ => scopeRuns env i σ ++ scopeRunsList env rest ((lowerInstr env i).run σ).2

end

theorem openedScope_toOpen (σ : State) (name : Option String) (kind : ScopeKind) :
    (openedScope σ name kind).toOpen = ⟨σ.nextOrdinal, name, kind == .loop⟩ := by
  cases kind <;> rfl

mutual

/-- The records of the scopes met are the scopes the lowering opens, in order. -/
theorem scopeRuns_toOpen (env : Env) : ∀ (i : Instr) (σ : State),
    (scopeRuns env i σ).map (·.scope.toOpen) = (scopeEvents env i σ).filterMap ScopeEvent.opening
  | .block name body, σ | .loop name body, σ => by
    simp only [scopeRuns, scopeEvents, openingEvents_eq, List.map_cons, List.singleton_append,
      List.filterMap_cons, ScopeEvent.opening, openedScope_toOpen, scopeRunsList_toOpen]
  | .ite name cond thenBody elseBody, σ => by
    cases elseBody with
    | none =>
      simp only [scopeRuns, scopeEvents, openingEvents_eq, List.map_append, List.map_cons, List.map_nil,
        List.filterMap_append, List.singleton_append, List.filterMap_cons, List.filterMap_nil,
        ScopeEvent.opening, openedScope_toOpen, scopeRunsList_toOpen]
    | some b =>
      simp only [scopeRuns, scopeEvents, openingEvents_eq, List.map_append, List.map_cons,
        List.filterMap_append, List.singleton_append, List.filterMap_cons, ScopeEvent.opening,
        openedScope_toOpen, scopeRunsList_toOpen]
  | .localSet _ value, σ | .localTee _ value, σ | .unary _ value, σ => scopeRunsOpt_toOpen env value σ
  | .binary _ left right, σ => by
    simp only [scopeRuns, scopeEvents, List.map_append, List.filterMap_append, scopeRunsOpt_toOpen]
  | .call _ ops, σ | .select ops, σ | .structural _ ops, σ | .ret ops, σ => scopeRunsList_toOpen env ops σ
  | .br _ ops, σ | .brIf _ ops, σ | .brTable ops _ _, σ => by
    simp only [scopeRuns, scopeEvents, List.filterMap_append, resolvingEvents_eq, ScopeEvent.opening_resolving,
      List.append_nil, scopeRunsList_toOpen]
  | .const .., _ | .localGet _, _ | .nop, _ | .unreachable, _ | .raw _, _ => rfl

theorem scopeRunsOpt_toOpen (env : Env) : ∀ (i : Option Instr) (σ : State),
    (scopeRunsOpt env i σ).map (·.scope.toOpen) = (scopeEventsOpt env i σ).filterMap ScopeEvent.opening
  | some i, σ => scopeRuns_toOpen env i σ
  | none, _ => rfl

theorem scopeRunsList_toOpen (env : Env) : ∀ (is : List Instr) (σ : State),
    (scopeRunsList env is σ).map (·.scope.toOpen) = (scopeEventsList env is σ).filterMap ScopeEvent.opening
  | [], _ => rfl
  | i :: rest, σ => by
    simp only [scopeRunsList, scopeEventsList, List.map_append, List.filterMap_append, scopeRuns_toOpen,
      scopeRunsList_toOpen]

end

/-- A block or an `if` whose end the pre-scan needs places its branch label when it closes. -/
theorem leaveScope_needed (env : Env) {σ σ₁ σ₂ : State} {opened : Scope}
    (entered : σ₁.scopes = opened :: σ.scopes) (shapes : σ₂.scopes.map Scope.shape = σ₁.scopes.map Scope.shape)
    (notLoop : opened.kind ≠ .loop) (needed : opened.ordinal ∈ env.needs.blockEnds) :
    ((leaveScope env).run σ₂).1 = [.label opened.branchTarget] := by
  obtain ⟨s, rest, closing, shape, -⟩ := scopes_cons_of_entered entered shapes
  have ordinal : s.ordinal = opened.ordinal := by
    have same := congrArg Scope.ordinal shape
    exact same
  have placed : endPlaced env s = true := by
    unfold endPlaced
    rw [Scope.kind_of_shape shape]
    split
    · contradiction
    · simp [ordinal, needed]
  rw [leaveScope_run closing, if_pos placed, Scope.endLabel_of_shape shape, Scope.branchTarget_of_notLoop notLoop]

/-- A loop whose start the pre-scan needs places its branch label when it opens. -/
theorem enterScope_needed (env : Env) (name : Option String) (σ : State)
    (needed : σ.nextOrdinal ∈ env.needs.loopStarts) :
    ((enterScope env name .loop).run σ).1 = some (openedScope σ name .loop).branchTarget := by
  rw [enterScope_run]
  simp [openedScope, Scope.branchTarget, Option.filter, needed]

/-- The scope opened in a state is numbered by the state's count of scopes. -/
@[simp] theorem openedScope_ordinal (σ : State) (name : Option String) (kind : ScopeKind) :
    (openedScope σ name kind).ordinal = σ.nextOrdinal := by
  cases kind <;> rfl

@[simp] theorem openedScope_kind (σ : State) (name : Option String) (kind : ScopeKind) :
    (openedScope σ name kind).kind = kind := by
  cases kind <;> rfl

/-- The conditional of a lowered `if` stands between its condition and its closing label. -/
theorem ite_mem_lowered {pre close : List Stmt} {c : Expr} {t : List Stmt} {e : Option (List Stmt)} :
    Stmt.ite c t e ∈ pre ++ [popTo 1, .ite c t e] ++ close := by
  simp

mutual

/-- Every scope met while lowering an instruction whose label the pre-scan needs has the label
placed where a branch to it continues. -/
theorem lowerInstr_landings (env : Env) : ∀ (i : Instr) (σ : State), ∀ r ∈ scopeRuns env i σ,
    r.scope.ordinal ∈ env.needs.of (r.scope.kind == .loop) → Stmt.StandsIn r.landing ((lowerInstr env i).run σ).1
  | .block name body, σ, r, mem, needed => by
    simp only [lowerInstr, run_bind, run_pure]
    rcases List.mem_cons.1 mem with rfl | inner
    · simp only [openedScope_ordinal, openedScope_kind, LabelNeeds.of] at needed
      rw [leaveScope_needed env (enterScope_scopes env name .block σ) (lowerList_shapes env body _)
        (by simp) (by simpa using needed)]
      exact .run (List.infix_refl _)
    · exact (lowerList_landings env body _ r inner needed).widen (List.prefix_append _ _).isInfix
  | .loop name body, σ, r, mem, needed => by
    simp only [lowerInstr, run_bind, run_pure]
    rcases List.mem_cons.1 mem with rfl | inner
    · simp only [openedScope_ordinal, openedScope_kind, LabelNeeds.of] at needed
      rw [enterScope_needed env name σ (by simpa using needed)]
      exact .run ⟨[], _, rfl⟩
    · exact (lowerList_landings env body _ r inner needed).widen (List.infix_append _ _ _)
  | .ite name cond thenBody elseBody, σ, r, mem, needed => by
    have shapesThen := lowerList_shapes env thenBody ((enterScope env name .ite).run ((lowerList env cond).run σ).2).2
    cases elseBody with
    | none =>
      simp only [scopeRuns, List.mem_append, List.mem_cons, List.not_mem_nil, or_false] at mem
      simp only [lowerInstr, run_bind, run_pure]
      rcases mem with inCond | rfl | inThen
      · exact (lowerList_landings env cond σ r inCond needed).widen
          ((List.prefix_append _ _).trans (List.prefix_append _ _)).isInfix
      · simp only [openedScope_ordinal, openedScope_kind, LabelNeeds.of] at needed
        rw [leaveScope_needed env (enterScope_scopes env name .ite _) shapesThen (by simp) (by simpa using needed)]
        exact .run ⟨((lowerList env cond).run σ).1 ++ [popTo 1], [], by simp [ScopeRun.landing]⟩
      · exact .thenArm ite_mem_lowered (lowerList_landings env thenBody _ r inThen needed)
    | some b =>
      simp only [scopeRuns, List.mem_append, List.mem_cons] at mem
      simp only [lowerInstr, run_bind, run_pure, run_map]
      rcases mem with inCond | rfl | inThen | inElse
      · exact (lowerList_landings env cond σ r inCond needed).widen
          ((List.prefix_append _ _).trans (List.prefix_append _ _)).isInfix
      · simp only [openedScope_ordinal, openedScope_kind, LabelNeeds.of] at needed
        rw [leaveScope_needed env (enterScope_scopes env name .ite _)
          ((lowerList_shapes env b _).trans shapesThen) (by simp) (by simpa using needed)]
        exact .run ⟨((lowerList env cond).run σ).1 ++ [popTo 1], [], by simp [ScopeRun.landing]⟩
      · exact .thenArm ite_mem_lowered (lowerList_landings env thenBody _ r inThen needed)
      · exact .elseArm ite_mem_lowered (lowerList_landings env b _ r inElse needed)
  | .localSet _ value, σ, r, mem, needed | .localTee _ value, σ, r, mem, needed
  | .unary _ value, σ, r, mem, needed => by
    simp only [lowerInstr, run_bind, run_pure]
    exact (lowerOpt_landings env value σ r mem needed).widen (List.prefix_append _ _).isInfix
  | .binary _ left right, σ, r, mem, needed => by
    simp only [lowerInstr, run_bind, run_pure]
    rcases List.mem_append.1 mem with inLeft | inRight
    · exact (lowerOpt_landings env left σ r inLeft needed).widen
        ((List.prefix_append _ _).trans (List.prefix_append _ _)).isInfix
    · exact (lowerOpt_landings env right _ r inRight needed).widen (List.infix_append _ _ _)
  | .call _ ops, σ, r, mem, needed | .select ops, σ, r, mem, needed | .ret ops, σ, r, mem, needed
  | .br _ ops, σ, r, mem, needed | .brIf _ ops, σ, r, mem, needed => by
    simp only [lowerInstr, run_bind, run_pure]
    exact (lowerList_landings env ops σ r mem needed).widen (List.prefix_append _ _).isInfix
  | .brTable ops targets default, σ, r, mem, needed => by
    rw [lowerInstr_brTable]
    exact (lowerList_landings env ops σ r mem needed).widen (List.prefix_append _ _).isInfix
  | .structural _ ops, σ, r, mem, needed => lowerList_landings env ops σ r mem needed
  | .const .., _, _, mem, _ | .localGet _, _, _, mem, _ | .nop, _, _, mem, _ | .unreachable, _, _, mem, _
  | .raw _, _, _, mem, _ => nomatch mem

theorem lowerOpt_landings (env : Env) : ∀ (i : Option Instr) (σ : State), ∀ r ∈ scopeRunsOpt env i σ,
    r.scope.ordinal ∈ env.needs.of (r.scope.kind == .loop) → Stmt.StandsIn r.landing ((lowerOpt env i).run σ).1
  | some i, σ, r, mem, needed => lowerInstr_landings env i σ r mem needed
  | none, _, _, mem, _ => nomatch mem

theorem lowerList_landings (env : Env) : ∀ (is : List Instr) (σ : State), ∀ r ∈ scopeRunsList env is σ,
    r.scope.ordinal ∈ env.needs.of (r.scope.kind == .loop) → Stmt.StandsIn r.landing ((lowerList env is).run σ).1
  | i :: rest, σ, r, mem, needed => by
    simp only [lowerList, run_bind, run_pure]
    rcases List.mem_append.1 mem with first | later
    · exact (lowerInstr_landings env i σ r first needed).widen (List.prefix_append _ _).isInfix
    · exact (lowerList_landings env rest _ r later needed).widen (List.suffix_append _ _).isInfix
  | [], _, _, mem, _ => nomatch mem

end

/-- Where the lowering sends a jump to a destination: to the branch label of the scope's record
among `runs`, or to the function's exit label `exit`. -/
def Resolves (runs : List ScopeRun) (exit : Option String) : JumpDest → String → Prop
  | .scope s, l => ∃ r ∈ runs, r.scope.toOpen = s ∧ r.scope.branchTarget = l
  | .exit, l => exit = some l

/-- A state's exit label, once it has one, is the function's: `exit`. -/
def ExitKept (exit : Option String) (σ : State) : Prop :=
  ∀ l, σ.exitLabel = some l → exit = some l

theorem ExitKept.back {exit : Option String} {σ σ' : State} (kept : ExitKept exit σ')
    (keeps : ∀ l, σ.exitLabel = some l → σ'.exitLabel = some l) : ExitKept exit σ :=
  fun l made => kept l (keeps l made)

section Jumps

variable {runs : List ScopeRun} {exit : Option String} {ds ds' : List JumpDest} {xs ys : List Stmt}

theorem resolves_append (first : List.Forall₂ (Resolves runs exit) ds (Stmt.labelRefsList xs))
    (second : List.Forall₂ (Resolves runs exit) ds' (Stmt.labelRefsList ys)) :
    List.Forall₂ (Resolves runs exit) (ds ++ ds') (Stmt.labelRefsList (xs ++ ys)) := by
  rw [Stmt.labelRefsList_append]
  exact List.rel_append first second

/-- Statements that jump nowhere add no jump. -/
theorem resolves_plain (first : List.Forall₂ (Resolves runs exit) ds (Stmt.labelRefsList xs))
    (noRefs : Stmt.labelRefsList ys = []) :
    List.Forall₂ (Resolves runs exit) ds (Stmt.labelRefsList (xs ++ ys)) := by
  rw [Stmt.labelRefsList_append, noRefs, List.append_nil]
  exact first

theorem forall₂_tableOrder {α β : Type} {R : α → β → Prop} {targets : List α} {labels : List β} {d : α} {l : β}
    (each : List.Forall₂ R targets labels) (default : R d l) :
    List.Forall₂ R (tableOrder targets d) (tableOrder labels l) := by
  cases each with
  | nil => exact .cons default .nil
  | cons first rest => exact .cons default (List.rel_append (.cons first rest) (.cons default .nil))

end Jumps

/-- A table dispatch jumps in the order of `tableOrder`. -/
theorem labelRefs_tableDispatch (labels : List String) (default : String) :
    Stmt.labelRefs (tableDispatch labels default) = tableOrder labels default := by
  cases labels with
  | nil => rfl
  | cons first more =>
    simp only [tableDispatch, tableOrder, Stmt.gotoLabel, Stmt.labelRefs, Stmt.labelRefsList, Stmt.labelRefsOpt,
      Stmt.labelRefsList_append, labelRefsList_map_gotoIf (fun i => .binary .eq (.ident "idx") (.int i)),
      List.zipIdx_map_fst, List.append_nil, List.singleton_append]

/-- The jumps of an `if`'s conditional are those of its arms. -/
theorem labelRefsList_conditional (c : Expr) (t : List Stmt) (e : Option (List Stmt)) :
    Stmt.labelRefsList [popTo 1, .ite c t e] = Stmt.labelRefsList t ++ Stmt.labelRefsOpt e := by
  simp [Stmt.labelRefsList, Stmt.labelRefs, popTo, Stmt.callProc]

/-- Asking for the exit label leaves a state that has it. -/
theorem exitLabel_made_some (σ : State) : (exitLabel.run σ).2.exitLabel = some (exitLabel.run σ).1 := by
  rw [exitLabel_run]
  cases made : σ.exitLabel with
  | none => rfl
  | some l => exact made

/-- A branch that selects no open scope goes to the exit label, which it makes if need be. -/
theorem resolveBranch_exit (env : Env) {target : LabelRef} {σ : State} (unselected : selectedScope σ target = none) :
    ((resolveBranch env target).run σ).2.exitLabel = some (exitLabel.run σ).1 := by
  obtain ⟨diagnostics, run⟩ := resolveBranch_run env target σ
  have viaExit : (exitLabel.run { σ with diagnostics }).2.exitLabel = some (exitLabel.run σ).1 := by
    rw [exitLabel_made_some, exitLabel_result, exitLabel_result]
  rw [run]
  cases index : scopeIndex σ.scopes target with
  | none => exact viaExit
  | some i =>
    have absent : σ.scopes[i]? = none := by simpa [selectedScope, index] using unselected
    simp only [absent]
    exact viaExit

theorem selectedScope_none_of_same {σ σ' : State} (same : SameTargets σ σ') {target : LabelRef}
    (unselected : selectedScope σ target = none) : selectedScope σ' target = none := by
  have lengths : σ'.scopes.length = σ.scopes.length := by simpa using congrArg List.length same.shapes
  unfold selectedScope at *
  rw [scopeIndex_of_shapes same.shapes]
  cases index : scopeIndex σ.scopes target with
  | none => rfl
  | some i =>
    rw [index, Option.bind_some, List.getElem?_eq_none_iff] at unselected
    rw [Option.bind_some, List.getElem?_eq_none_iff, lengths]
    exact unselected

/-- Among the targets of a table, one that selects no open scope makes the exit label. -/
theorem resolveAll_exit (env : Env) : ∀ (targets : List LabelRef) (σ : State), ∀ t ∈ targets,
    selectedScope σ t = none →
      ((targets.mapM (resolveBranch env)).run σ).2.exitLabel = some (exitLabel.run σ).1
  | [], _, _, mem, _ => nomatch mem
  | first :: rest, σ, t, mem, unselected => by
    have same := resolveBranch_same env first σ
    simp only [List.mapM_cons, run_bind, run_pure]
    rcases List.mem_cons.1 mem with rfl | later
    · exact (resolveAll_reach env rest _).2.exit _ (resolveBranch_exit env unselected)
    · rw [resolveAll_exit env rest _ t later (selectedScope_none_of_same same unselected), same.exit]

/-- A target resolves where the source sends it: to the label of the selected scope's record, or
to the exit label. -/
theorem resolves_branchLabel {runs : List ScopeRun} {exit : Option String} {σ : State} (target : LabelRef)
    (recorded : σ.scopes.map Scope.shape ⊆ runs.map (·.scope.shape))
    (made : selectedScope σ target = none → exit = some (exitLabel.run σ).1) :
    Resolves runs exit (JumpDest.ofTarget (σ.scopes.map Scope.toOpen) target) (branchLabel σ target) := by
  have selects := selectedScope_toOpen σ target
  have label : branchLabel σ target = (selectedScope σ target).elim (exitLabel.run σ).1 Scope.branchTarget := rfl
  cases found : selectedScope σ target with
  | none =>
    rw [found] at selects label
    simp only [JumpDest.ofTarget, ← selects, Option.map_none, Option.getD_none, label, Option.elim_none, Resolves]
    exact made found
  | some sc =>
    rw [found] at selects label
    obtain ⟨i, -, atI⟩ := Option.bind_eq_some_iff.1 found
    obtain ⟨r, mem, shape⟩ := List.mem_map.1 (recorded (List.mem_map_of_mem (List.mem_of_getElem? atI)))
    simp only [JumpDest.ofTarget, ← selects, Option.map_some, Option.getD_some, label, Option.elim_some, Resolves]
    refine ⟨r, mem, ?_, Scope.branchTarget_of_shape shape⟩
    rw [← Scope.toOpen_shape, shape, Scope.toOpen_shape]

/-- The runs of a scope that opens record the scope, so the open scopes inside it are recorded. -/
theorem recorded_enter (env : Env) {runs : List ScopeRun} {σ : State} {name : Option String} {kind : ScopeKind}
    {body : List Stmt} (recorded : σ.scopes.map Scope.shape ⊆ runs.map (·.scope.shape))
    (own : ⟨openedScope σ name kind, body⟩ ∈ runs) :
    ((enterScope env name kind).run σ).2.scopes.map Scope.shape ⊆ runs.map (·.scope.shape) := by
  rw [enterScope_scopes, List.map_cons]
  exact List.cons_subset.2 ⟨List.mem_map_of_mem own, recorded⟩

mutual

/-- The jumps of a lowered instruction go, in order, where the structure of the source sends its
branches: each to the label of the selected scope's record, or to the function's exit label.
The records of the open scopes and of the instruction's own scopes are among `runs`, and the exit
label, once made, is `exit`. -/
theorem lowerInstr_resolves (env : Env) (runs : List ScopeRun) (exit : Option String) :
    ∀ (i : Instr) (σ : State) (st : ScanState), Synced σ st →
      σ.scopes.map Scope.shape ⊆ runs.map (·.scope.shape) → scopeRuns env i σ ⊆ runs →
      ExitKept exit ((lowerInstr env i).run σ).2 →
      List.Forall₂ (Resolves runs exit) (Instr.jumpDests (σ.scopes.map Scope.toOpen) i st)
        (Stmt.labelRefsList ((lowerInstr env i).run σ).1)
  | .const ty literal, σ, _, _, _, _, _ => by
    rw [(plain_lowerConst env ty literal σ).noRefs]
    exact .nil
  | .raw name, σ, _, _, _, _, _ => by
    rw [(plain_lowerRaw env name σ).noRefs]
    exact .nil
  | .localGet _, _, _, _, _, _, _ | .nop, _, _, _, _, _, _ | .unreachable, _, _, _, _, _, _ => .nil
  | .localSet _ value, σ, st, synced, recorded, own, kept
  | .localTee _ value, σ, st, synced, recorded, own, kept => by
    simp only [lowerInstr, run_bind, run_pure] at kept ⊢
    exact resolves_plain (lowerOpt_resolves env runs exit value σ st synced recorded own
      (kept.back (Later.quiet (quiet_ensurePopArgs 1) _).exit)) rfl
  | .unary op value, σ, st, synced, recorded, own, kept => by
    simp only [lowerInstr, run_bind, run_pure] at kept ⊢
    exact resolves_plain (lowerOpt_resolves env runs exit value σ st synced recorded own
      (kept.back (Later.quiet (quiet_lowerUnary env op) _).exit)) (plain_lowerUnary env op _).noRefs
  | .binary op left right, σ, st, synced, recorded, own, kept => by
    simp only [lowerInstr, run_bind, run_pure] at kept ⊢
    have keptRight := kept.back (Later.quiet (quiet_lowerBinary env op) _).exit
    cases left with
    | none =>
      exact resolves_plain (lowerOpt_resolves env runs exit right σ st synced recorded own keptRight)
        (plain_lowerBinary env op _).noRefs
    | some l =>
      have afterLeft := lowerInstr_synced env l σ st synced
      have shapes := lowerInstr_shapes env l σ
      have leftJumps := lowerInstr_resolves env runs exit l σ st synced recorded
        (fun r mem => own (List.mem_append_left _ mem))
        (keptRight.back (lowerOpt_labelRun env right _).keepsExit)
      have rightJumps := lowerOpt_resolves env runs exit right _ _ afterLeft (by rw [shapes]; exact recorded)
        (fun r mem => own (List.mem_append_right _ mem)) keptRight
      rw [toOpens_of_shapes shapes] at rightJumps
      exact resolves_plain (resolves_append leftJumps rightJumps) (plain_lowerBinary env op _).noRefs
  | .call _ ops, σ, st, synced, recorded, own, kept | .select ops, σ, st, synced, recorded, own, kept => by
    simp only [lowerInstr, run_bind, run_pure] at kept ⊢
    exact resolves_plain (lowerList_resolves env runs exit ops σ st synced recorded own kept) rfl
  | .structural _ ops, σ, st, synced, recorded, own, kept =>
    lowerList_resolves env runs exit ops σ st synced recorded own kept
  | .ret ops, σ, st, synced, recorded, own, kept => by
    simp only [lowerInstr, run_bind, run_pure] at kept ⊢
    exact resolves_append (lowerList_resolves env runs exit ops σ st synced recorded own
      (kept.back (Later.exitLabel _).exit)) (.cons (kept _ (exitLabel_made_some _)) .nil)
  | .br target ops, σ, st, synced, recorded, own, kept | .brIf target ops, σ, st, synced, recorded, own, kept => by
    simp only [lowerInstr, run_bind, run_pure] at kept ⊢
    have shapes := lowerList_shapes env ops σ
    have operands := lowerList_resolves env runs exit ops σ st synced recorded own
      (kept.back (resolveBranch_reach env target _).2.exit)
    have jump := resolves_branchLabel target (by rw [shapes]; exact recorded)
      (fun unselected => kept _ (resolveBranch_exit env unselected))
    rw [toOpens_of_shapes shapes, ← resolveBranch_result] at jump
    exact resolves_append operands (.cons jump .nil)
  | .brTable ops targets default, σ, st, synced, recorded, own, kept => by
    have shapes := lowerList_shapes env ops σ
    obtain ⟨-, same⟩ := resolveAll_run env targets ((lowerList env ops).run σ).2
    have keeps := (resolveBranch_reach env default
      ((targets.mapM (resolveBranch env)).run ((lowerList env ops).run σ).2).2).2.exit
    simp only [lowerInstr, run_bind, run_pure] at kept
    have operands := lowerList_resolves env runs exit ops σ st synced recorded own
      (kept.back fun l made => keeps l ((resolveAll_reach env targets _).2.exit l made))
    have each : ∀ t ∈ targets, Resolves runs exit (JumpDest.ofTarget (σ.scopes.map Scope.toOpen) t)
        (branchLabel ((lowerList env ops).run σ).2 t) := by
      intro t mem
      rw [← toOpens_of_shapes shapes]
      exact resolves_branchLabel t (by rw [shapes]; exact recorded)
        (fun unselected => kept _ (keeps _ (resolveAll_exit env targets _ t mem unselected)))
    have dflt : Resolves runs exit (JumpDest.ofTarget (σ.scopes.map Scope.toOpen) default)
        (branchLabel ((lowerList env ops).run σ).2 default) := by
      rw [← toOpens_of_shapes shapes]
      refine resolves_branchLabel default (by rw [shapes]; exact recorded) fun unselected => ?_
      rw [← same.exit]
      exact kept _ (resolveBranch_exit env (selectedScope_none_of_same same unselected))
    have table := forall₂_tableOrder (List.forall₂_map_left_iff.2 (List.forall₂_map_right_iff.2
      (List.forall₂_same.2 each))) dflt
    rw [lowerInstr_brTable]
    refine resolves_append operands ?_
    simp only [Stmt.labelRefsList, Stmt.labelRefs, labelRefs_tableDispatch, popTo, Stmt.callProc,
      List.nil_append, List.append_nil]
    exact table
  | .block name body, σ, st, synced, recorded, own, kept => by
    have entered := synced.enter env name .block
    obtain ⟨s, rest, closing, -, -⟩ :=
      scopes_cons_of_entered (enterScope_scopes env name .block σ) (lowerList_shapes env body _)
    simp only [lowerInstr, run_bind, run_pure, leaveScope_run closing] at kept ⊢
    have inner := lowerList_resolves env runs exit body _ _ entered
      (recorded_enter env recorded (own (List.mem_cons_self ..))) (fun r mem => own (List.mem_cons_of_mem _ mem))
      kept
    rw [synced.toOpens_enter] at inner
    exact resolves_plain inner (by split <;> rfl)
  | .loop name body, σ, st, synced, recorded, own, kept => by
    have entered := synced.enter env name .loop
    obtain ⟨s, rest, closing, -, -⟩ :=
      scopes_cons_of_entered (enterScope_scopes env name .loop σ) (lowerList_shapes env body _)
    simp only [lowerInstr, run_bind, run_pure, leaveScope_run closing] at kept ⊢
    have inner := lowerList_resolves env runs exit body _ _ entered
      (recorded_enter env recorded (own (List.mem_cons_self ..))) (fun r mem => own (List.mem_cons_of_mem _ mem))
      kept
    rw [synced.toOpens_enter] at inner
    generalize ((enterScope env name .loop).run σ).1 = place
    cases place <;> exact resolves_plain inner (by split <;> rfl)
  | .ite name cond thenBody elseBody, σ, st, synced, recorded, own, kept => by
    have afterCond := lowerList_synced env cond σ st synced
    have condShapes := lowerList_shapes env cond σ
    have inThen := afterCond.enter env name .ite
    have thenShapes := lowerList_shapes env thenBody ((enterScope env name .ite).run ((lowerList env cond).run σ).2).2
    have entering : ∀ l, ((lowerList env cond).run σ).2.exitLabel = some l →
        ((enterScope env name .ite).run ((lowerList env cond).run σ).2).2.exitLabel = some l := by
      intro l made
      rw [enterScope_exitLabel]
      exact made
    cases elseBody with
    | none =>
      have inScope := recorded_enter env (by rw [condShapes]; exact recorded)
        (own (List.mem_append_right _ (List.mem_cons_self ..)))
      obtain ⟨s, rest, closing, -, -⟩ := scopes_cons_of_entered (enterScope_scopes env name .ite _) thenShapes
      simp only [lowerInstr, run_bind, run_pure, leaveScope_run closing] at kept ⊢
      have condJumps := lowerList_resolves env runs exit cond σ st synced recorded
        (fun r mem => own (List.mem_append_left _ mem))
        ((kept.back (lowerList_labelRun env thenBody _).keepsExit).back entering)
      have thenJumps := lowerList_resolves env runs exit thenBody _ _ inThen inScope
        (fun r mem => own (List.mem_append_right _ (List.mem_cons_of_mem _ (List.mem_append_left _ mem)))) kept
      rw [afterCond.toOpens_enter, toOpens_of_shapes condShapes] at thenJumps
      refine resolves_plain (resolves_append condJumps ?_) (by split <;> rfl)
      rw [labelRefsList_conditional]
      exact List.rel_append thenJumps .nil
    | some b =>
      have inScope := recorded_enter env (by rw [condShapes]; exact recorded)
        (own (List.mem_append_right _ (List.mem_cons_self ..)))
      have elseShapes := lowerList_shapes env b ((lowerList env thenBody).run
        ((enterScope env name .ite).run ((lowerList env cond).run σ).2).2).2
      obtain ⟨s, rest, closing, -, -⟩ :=
        scopes_cons_of_entered (enterScope_scopes env name .ite _) (elseShapes.trans thenShapes)
      simp only [lowerInstr, run_bind, run_pure, run_map, leaveScope_run closing] at kept ⊢
      have keptThen := kept.back (lowerList_labelRun env b _).keepsExit
      have condJumps := lowerList_resolves env runs exit cond σ st synced recorded
        (fun r mem => own (List.mem_append_left _ mem))
        ((keptThen.back (lowerList_labelRun env thenBody _).keepsExit).back entering)
      have thenJumps := lowerList_resolves env runs exit thenBody _ _ inThen inScope
        (fun r mem => own (List.mem_append_right _ (List.mem_cons_of_mem _ (List.mem_append_left _ mem))))
        keptThen
      have elseJumps := lowerList_resolves env runs exit b _ _ (lowerList_synced env thenBody _ _ inThen)
        (by rw [thenShapes]; exact inScope)
        (fun r mem => own (List.mem_append_right _ (List.mem_cons_of_mem _ (List.mem_append_right _ mem)))) kept
      rw [afterCond.toOpens_enter, toOpens_of_shapes condShapes] at thenJumps
      rw [toOpens_of_shapes thenShapes, afterCond.toOpens_enter, toOpens_of_shapes condShapes] at elseJumps
      refine resolves_plain (resolves_append condJumps ?_) (by split <;> rfl)
      rw [labelRefsList_conditional]
      exact List.rel_append thenJumps elseJumps

theorem lowerOpt_resolves (env : Env) (runs : List ScopeRun) (exit : Option String) :
    ∀ (i : Option Instr) (σ : State) (st : ScanState), Synced σ st →
      σ.scopes.map Scope.shape ⊆ runs.map (·.scope.shape) → scopeRunsOpt env i σ ⊆ runs →
      ExitKept exit ((lowerOpt env i).run σ).2 →
      List.Forall₂ (Resolves runs exit) (Instr.jumpDestsOpt (σ.scopes.map Scope.toOpen) i st)
        (Stmt.labelRefsList ((lowerOpt env i).run σ).1)
  | some i, σ, st, synced, recorded, own, kept => lowerInstr_resolves env runs exit i σ st synced recorded own kept
  | none, _, _, _, _, _, _ => .nil

theorem lowerList_resolves (env : Env) (runs : List ScopeRun) (exit : Option String) :
    ∀ (is : List Instr) (σ : State) (st : ScanState), Synced σ st →
      σ.scopes.map Scope.shape ⊆ runs.map (·.scope.shape) → scopeRunsList env is σ ⊆ runs →
      ExitKept exit ((lowerList env is).run σ).2 →
      List.Forall₂ (Resolves runs exit) (Instr.jumpDestsList (σ.scopes.map Scope.toOpen) is st)
        (Stmt.labelRefsList ((lowerList env is).run σ).1)
  | [], _, _, _, _, _, _ => .nil
  | i :: rest, σ, st, synced, recorded, own, kept => by
    simp only [lowerList, run_bind, run_pure] at kept ⊢
    have shapes := lowerInstr_shapes env i σ
    have first := lowerInstr_resolves env runs exit i σ st synced recorded
      (fun r mem => own (List.mem_append_left _ mem)) (kept.back (lowerList_labelRun env rest _).keepsExit)
    have later := lowerList_resolves env runs exit rest _ _ (lowerInstr_synced env i σ st synced)
      (by rw [shapes]; exact recorded) (fun r mem => own (List.mem_append_right _ mem)) kept
    rw [toOpens_of_shapes shapes] at later
    exact resolves_append first later

end

/-- Where a jump of a lowered body lands for a destination: for a scope, at the branch label of
the scope's record, which stands right before a loop's body or right after a block's or an `if`'s
statements; for the end of the function, at the exit label, which stands right before the last
statement. -/
def Lands (runs : List ScopeRun) (body : List Stmt) (last : Stmt) : JumpDest → String → Prop
  | .scope s, l => ∃ r ∈ runs, r.scope.toOpen = s ∧ r.scope.branchTarget = l ∧ Stmt.StandsIn r.landing body
  | .exit, l => ∃ front, body = front ++ [.label l, last]

/-- Branches follow structured control. Lower a function in any state, with or without pruning.
The scopes the lowering meets are those of the function's body, in the order they open, and the
jumps of the implementation go, in order, where the branches of the body leave to: a branch to a
block or an `if` to a label right after the scope's statements, a branch to a loop to a label
right before the statements of its body, and every other branch and every return to the exit
label, right before the footer. -/
theorem branches_follow_structured_control (options : LowerOptions) (callees : CalleeTable) (name : String)
    (f : Function) (σ : State) :
    ∃ σ₀ : State,
      (scopeRunsList (functionEnv options callees name f) f.body σ₀).map (·.scope.toOpen) =
          (Instr.scanEventsList [] f.body {}).filterMap ScopeEvent.opening ∧
      List.Forall₂
        (Lands (scopeRunsList (functionEnv options callees name f) f.body σ₀)
          ((lowerFunction options callees name f).run σ).1.2.body (functionFooter options f))
        (Instr.jumpDestsList [] f.body {}) (Stmt.labelRefsList ((lowerFunction options callees name f).run σ).1.2.body) := by
  obtain ⟨σ₀, pre, body, prePlain, scopes, -, ordinals, -⟩ := lowerFunction_body_footer options callees name f σ
  have synced := Synced.start scopes ordinals
  have resolves := lowerList_resolves (functionEnv options callees name f)
    (scopeRunsList (functionEnv options callees name f) f.body σ₀)
    ((lowerList (functionEnv options callees name f) f.body).run σ₀).2.exitLabel f.body σ₀ {} synced
    (by rw [scopes]; exact List.nil_subset _) (List.Subset.refl _) (fun _ => id)
  rw [scopes, List.map_nil] at resolves
  have needed : ∀ d ∈ Instr.jumpDestsList [] f.body {}, ∀ s, d = .scope s → s.ordinal ∈ (scanLabels f.body).of s.isLoop := by
    rintro d mem s rfl
    exact Instr.needed_of_jumpDestsList mem
  refine ⟨σ₀, ?_, ?_⟩
  · rw [scopeRunsList_toOpen, scopeEventsList_eq_scanEventsList _ f.body σ₀ {} synced, scopes]
    rfl
  · rw [body, labelRefsList_split prePlain (functionFooter_plain options f)]
    refine ((List.forall₂_and_left _ _).2 ⟨needed, resolves⟩).imp ?_
    rintro d l ⟨marked, lands⟩
    cases d with
    | scope s =>
      obtain ⟨r, mem, rfl, target⟩ := lands
      refine ⟨r, mem, rfl, target, ?_⟩
      have placed := lowerList_landings _ f.body σ₀ r mem (marked _ rfl)
      exact placed.widen ((List.infix_append _ _ _).trans (List.prefix_append _ _).isInfix)
    | exit =>
      refine ⟨pre ++ ((lowerList (functionEnv options callees name f) f.body).run σ₀).1, ?_⟩
      rw [lands]
      simp

end Lower

end WasmBoogie
