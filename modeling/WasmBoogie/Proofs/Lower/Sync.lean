import WasmBoogie.Proofs.Lower.Numbering
import WasmBoogie.Proofs.Instr.ScanFrame

namespace WasmBoogie

namespace Lower

/-- The scan's view of an open scope: its ordinal, its name and whether it is a loop. -/
def Scope.toOpen (s : Scope) : OpenScope := ⟨s.ordinal, s.label, s.kind == .loop⟩

@[simp] theorem Scope.toOpen_shape (s : Scope) : s.shape.toOpen = s.toOpen := rfl

theorem toOpens_of_shapes {xs ys : List Scope} (shapes : xs.map Scope.shape = ys.map Scope.shape) :
    xs.map Scope.toOpen = ys.map Scope.toOpen := by
  have views := congrArg (List.map Scope.toOpen) shapes
  simpa only [List.map_map, Function.comp_def, Scope.toOpen_shape] using views

theorem ordinals_of_shapes {xs ys : List Scope} (shapes : xs.map Scope.shape = ys.map Scope.shape) :
    xs.map Scope.ordinal = ys.map Scope.ordinal := by
  have ordinals := congrArg (List.map OpenScope.ordinal) (toOpens_of_shapes shapes)
  simp only [List.map_map, Function.comp_def] at ordinals
  exact ordinals

/-- The scan resolves a target among the open scopes to the scope the lowering selects. -/
theorem resolveScope_toOpen (scopes : List Scope) (target : LabelRef) :
    resolveScope (scopes.map Scope.toOpen) target =
      (scopeIndex scopes target).bind fun i => scopes[i]?.map Scope.toOpen := by
  cases target with
  | depth d =>
    simp only [resolveScope, scopeIndex, List.getElem?_map]
    split
    · rfl
    · rename_i beyond
      simp [List.getElem?_eq_none (Nat.le_of_not_lt beyond)]
  | name n =>
    simp only [resolveScope, scopeIndex, List.find?_eq_bind_findIdx?_getElem?, List.findIdx?_map,
      List.getElem?_map]
    rfl

/-- The lowering state and the pre-scan state agree: they have given out the same number of
scope ordinals, the open scopes have distinct ordinals below it, so do the scan's marks, and an
open scope is referenced exactly when the scan has marked it. -/
structure Synced (σ : State) (st : ScanState) : Prop where
  next : σ.nextOrdinal = st.next
  below : ∀ s ∈ σ.scopes, s.ordinal < st.next
  distinct : (σ.scopes.map Scope.ordinal).Nodup
  marks_below : ∀ b, ∀ o ∈ st.needs.of b, o < st.next
  referenced : ∀ s ∈ σ.scopes, s.referenced = st.marked s.toOpen

namespace Synced

variable {σ σ' : State} {st : ScanState}

/-- Only the open scopes and the ordinal count of the lowering state matter. -/
theorem of_scopes (synced : Synced σ st) (scopes : σ'.scopes = σ.scopes) (next : σ'.nextOrdinal = σ.nextOrdinal) :
    Synced σ' st where
  next := next.trans synced.next
  below := scopes ▸ synced.below
  distinct := scopes ▸ synced.distinct
  marks_below := synced.marks_below
  referenced := scopes ▸ synced.referenced

theorem quiet {α : Type} {x : LowerM α} (q : Quiet x) (synced : Synced σ st) : Synced (x.run σ).2 st :=
  synced.of_scopes (q.scopes σ) (q.nextOrdinal σ)

/-- Closing the innermost scope. -/
theorem tail (synced : Synced σ st) (scopes : σ'.scopes = σ.scopes.tail) (next : σ'.nextOrdinal = σ.nextOrdinal) :
    Synced σ' st := by
  obtain ⟨agree, below, distinct, marks_below, referenced⟩ := synced
  cases opened : σ.scopes with
  | nil => exact ⟨next.trans agree, by simp [scopes, opened], by simp [scopes, opened], marks_below,
      by simp [scopes, opened]⟩
  | cons s rest =>
    rw [opened, List.map_cons, List.nodup_cons] at distinct
    rw [opened] at below referenced
    rw [opened, List.tail_cons] at scopes
    exact ⟨next.trans agree, scopes ▸ fun t mem => below t (List.mem_cons_of_mem _ mem), scopes ▸ distinct.2,
      marks_below, scopes ▸ fun t mem => referenced t (List.mem_cons_of_mem _ mem)⟩

/-- Opening a scope takes the next ordinal on both sides; the new scope is unmarked. -/
theorem enter (env : Env) (label : Option String) (kind : ScopeKind) (synced : Synced σ st) :
    Synced ((enterScope env label kind).run σ).2 { st with next := st.next + 1 } := by
  obtain ⟨agree, below, distinct, marks_below, referenced⟩ := synced
  rw [enterScope_run]
  have fresh : (openedScope σ label kind).ordinal = st.next := by cases kind <;> exact agree
  have unreferenced : (openedScope σ label kind).referenced = false := by cases kind <;> rfl
  refine ⟨by simp [agree], ?_, ?_, fun b o mem => Nat.lt_succ_of_lt (marks_below b o mem), ?_⟩
  · intro s mem
    rcases List.mem_cons.1 mem with rfl | outer
    · show (openedScope σ label kind).ordinal < st.next + 1
      omega
    · exact Nat.lt_succ_of_lt (below s outer)
  · rw [List.map_cons, List.nodup_cons]
    refine ⟨fun mem => ?_, distinct⟩
    obtain ⟨s, outer, same⟩ := List.mem_map.1 mem
    have := below s outer
    omega
  · intro s mem
    rcases List.mem_cons.1 mem with rfl | outer
    · rw [unreferenced]
      symm
      simp only [ScanState.marked, Scope.toOpen, fresh, Bool.eq_false_iff]
      intro marked
      have := marks_below _ _ (List.contains_iff_mem.1 marked)
      omega
    · exact referenced s outer

theorem toOpens_enter (env : Env) (label : Option String) (kind : ScopeKind) (synced : Synced σ st) :
    ((enterScope env label kind).run σ).2.scopes.map Scope.toOpen =
      ⟨st.next, label, kind == .loop⟩ :: σ.scopes.map Scope.toOpen := by
  rw [enterScope_run, List.map_cons, ← synced.next]
  cases kind <;> rfl

/-- A branch marks the same scope on both sides. -/
theorem mark (synced : Synced σ st) {target : LabelRef} {i : Nat} {s : Scope}
    (selects : scopeIndex σ.scopes target = some i) (atI : σ.scopes[i]? = some s) (diagnostics : Array Diagnostic) :
    Synced { σ with diagnostics, scopes := σ.scopes.set i { s with referenced := true } }
      (st.mark (σ.scopes.map Scope.toOpen) target) := by
  obtain ⟨agree, below, distinct, marks_below, referenced⟩ := synced
  obtain ⟨bound, rfl⟩ := List.getElem?_eq_some_iff.1 atI
  have resolves : resolveScope (σ.scopes.map Scope.toOpen) target = some σ.scopes[i].toOpen := by
    rw [resolveScope_toOpen, selects, Option.bind_some, atI, Option.map_some]
  have markedIff : ∀ t : OpenScope, (st.mark (σ.scopes.map Scope.toOpen) target).marked t = true ↔
      st.marked t = true ∨ (σ.scopes[i].toOpen.isLoop = t.isLoop ∧ t.ordinal = σ.scopes[i].ordinal) := by
    intro t
    simp only [ScanState.marked, List.contains_iff_mem, mem_mark_of, resolves, Option.some.injEq,
      exists_eq_left']
    rfl
  have sameOrdinals : (σ.scopes.set i { σ.scopes[i] with referenced := true }).map Scope.ordinal =
      σ.scopes.map Scope.ordinal := ordinals_of_shapes (shapes_set_referenced atI)
  refine ⟨agree.trans (ScanState.mark_next _ _ _).symm, ?_, sameOrdinals ▸ distinct, ?_, ?_⟩
  · intro t mem
    rw [ScanState.mark_next]
    rcases List.mem_or_eq_of_mem_set mem with old | rfl
    · exact below t old
    · exact below σ.scopes[i] (List.getElem_mem bound)
  · intro b o mem
    rw [ScanState.mark_next]
    rcases mem_mark_of.1 mem with old | ⟨t, found, -, rfl⟩
    · exact marks_below b o old
    · rw [resolves, Option.some.injEq] at found
      subst found
      exact below _ (List.getElem_mem bound)
  · intro t mem
    obtain ⟨k, within, rfl⟩ := List.mem_iff_getElem.1 mem
    have kBound : k < σ.scopes.length := by simpa using within
    rw [List.getElem_set]
    split
    · rename_i same
      subst same
      exact ((markedIff _).2 (.inr ⟨rfl, rfl⟩)).symm
    · rename_i other
      have apart : σ.scopes[k].ordinal ≠ σ.scopes[i].ordinal := by
        intro same
        have sameScope : σ.scopes[i] = σ.scopes[k] :=
          List.inj_on_of_nodup_map distinct (List.getElem_mem bound) (List.getElem_mem kBound) same.symm
        exact other ((List.Nodup.getElem_inj_iff (distinct.of_map _)).1 sameScope)
      rw [referenced _ (List.getElem_mem kBound)]
      apply Bool.eq_iff_iff.2
      rw [markedIff]
      exact ⟨.inl, fun marked => marked.elim id fun ⟨_, same⟩ => absurd same apart⟩

/-- Jumping to the function's exit touches no scope. -/
theorem exit (synced : Synced σ st) : Synced (exitLabel.run σ).2 st := by
  refine synced.of_scopes (exitLabel_scopes σ) ?_
  rw [exitLabel_run]
  split <;> rfl

/-- A branch resolves alike on both sides: to the same scope, which both mark, or to no scope. -/
theorem resolveBranch (env : Env) (target : LabelRef) (synced : Synced σ st) :
    Synced ((resolveBranch env target).run σ).2 (st.mark (σ.scopes.map Scope.toOpen) target) := by
  obtain ⟨diagnostics, run⟩ := resolveBranch_run env target σ
  have noted : Synced { σ with diagnostics } st := synced.of_scopes rfl rfl
  rw [run]
  cases selects : scopeIndex σ.scopes target with
  | none =>
    have unmarked : st.mark (σ.scopes.map Scope.toOpen) target = st := by
      simp only [ScanState.mark, resolveScope_toOpen, selects, Option.bind_none]
    rw [unmarked]
    exact noted.exit
  | some i =>
    dsimp only
    cases atI : σ.scopes[i]? with
    | none =>
      have unmarked : st.mark (σ.scopes.map Scope.toOpen) target = st := by
        simp only [ScanState.mark, resolveScope_toOpen, selects, Option.bind_some, atI, Option.map_none]
      rw [unmarked]
      exact noted.exit
    | some s => exact synced.mark selects atI diagnostics

theorem resolveAll (env : Env) (targets : List LabelRef) :
    ∀ (σ : State) (st : ScanState), Synced σ st →
      Synced ((targets.mapM (Lower.resolveBranch env)).run σ).2
        (targets.foldl (fun st t => st.mark (σ.scopes.map Scope.toOpen) t) st) := by
  induction targets with
  | nil => exact fun _ _ synced => synced
  | cons t rest ih =>
    intro σ st synced
    have next := ih _ _ (synced.resolveBranch env t)
    rw [toOpens_of_shapes (resolveBranch_shapes env t σ)] at next
    simp only [List.mapM_cons, run_bind, run_pure, List.foldl_cons]
    exact next

end Synced

theorem leaveScope_nextOrdinal (env : Env) (σ : State) : ((leaveScope env).run σ).2.nextOrdinal = σ.nextOrdinal := by
  obtain ⟨_ | ⟨s, rest⟩, _, _, _, _, _⟩ := σ <;> rfl

mutual

/-- Lowering an instruction and scanning it keep the two states in step. -/
theorem lowerInstr_synced (env : Env) : ∀ (i : Instr) (σ : State) (st : ScanState), Synced σ st →
    Synced ((lowerInstr env i).run σ).2 (Instr.scanNeeds (σ.scopes.map Scope.toOpen) i st)
  | .const ty literal, _, _, synced => synced.quiet (quiet_lowerConst env ty literal)
  | .raw name, _, _, synced => synced.quiet (quiet_lowerRaw env name)
  | .localGet _, _, _, synced | .nop, _, _, synced | .unreachable, _, _, synced => synced
  | .localSet _ value, σ, st, synced | .localTee _ value, σ, st, synced => by
    simp only [lowerInstr, run_bind, run_pure]
    cases value with
    | none => exact synced.quiet (quiet_ensurePopArgs 1)
    | some i => exact (lowerInstr_synced env i σ st synced).quiet (quiet_ensurePopArgs 1)
  | .unary op operand, σ, st, synced => by
    simp only [lowerInstr, run_bind, run_pure]
    cases operand with
    | none => exact synced.quiet (quiet_lowerUnary env op)
    | some i => exact (lowerInstr_synced env i σ st synced).quiet (quiet_lowerUnary env op)
  | .binary op left right, σ, st, synced => by
    simp only [lowerInstr, run_bind, run_pure]
    cases left <;> cases right
    case none.none => exact synced.quiet (quiet_lowerBinary env op)
    case none.some r => exact (lowerInstr_synced env r σ st synced).quiet (quiet_lowerBinary env op)
    case some.none l => exact (lowerInstr_synced env l σ st synced).quiet (quiet_lowerBinary env op)
    case some.some l r =>
      have afterRight := lowerInstr_synced env r _ _ (lowerInstr_synced env l σ st synced)
      rw [toOpens_of_shapes (lowerInstr_shapes env l σ)] at afterRight
      exact afterRight.quiet (quiet_lowerBinary env op)
  | .call _ ops, σ, st, synced | .select ops, σ, st, synced => by
    simp only [lowerInstr, run_bind, run_pure]
    exact lowerList_synced env ops σ st synced
  | .structural _ ops, σ, st, synced => lowerList_synced env ops σ st synced
  | .ret ops, σ, st, synced => by
    simp only [lowerInstr, run_bind, run_pure]
    exact (lowerList_synced env ops σ st synced).exit
  | .block label body, σ, st, synced => by
    have inside := lowerList_synced env body _ _ (synced.enter env label .block)
    rw [synced.toOpens_enter] at inside
    simp only [lowerInstr, run_bind, run_pure]
    exact inside.tail (leaveScope_scopes env _) (leaveScope_nextOrdinal env _)
  | .loop label body, σ, st, synced => by
    have inside := lowerList_synced env body _ _ (synced.enter env label .loop)
    rw [synced.toOpens_enter] at inside
    simp only [lowerInstr, run_bind, run_pure]
    exact inside.tail (leaveScope_scopes env _) (leaveScope_nextOrdinal env _)
  | .ite label cond thenBody elseBody, σ, st, synced => by
    have afterCond := lowerList_synced env cond σ st synced
    have condOpens := toOpens_of_shapes (lowerList_shapes env cond σ)
    have inThen := lowerList_synced env thenBody _ _ (afterCond.enter env label .ite)
    rw [afterCond.toOpens_enter, condOpens] at inThen
    cases elseBody with
    | none =>
      simp only [lowerInstr, run_bind, run_pure]
      exact inThen.tail (leaveScope_scopes env _) (leaveScope_nextOrdinal env _)
    | some b =>
      have inElse := lowerList_synced env b _ _ inThen
      rw [toOpens_of_shapes (lowerList_shapes env thenBody _), afterCond.toOpens_enter, condOpens] at inElse
      simp only [lowerInstr, run_bind, run_pure, run_map]
      exact inElse.tail (leaveScope_scopes env _) (leaveScope_nextOrdinal env _)
  | .br target ops, σ, st, synced | .brIf target ops, σ, st, synced => by
    have resolved := (lowerList_synced env ops σ st synced).resolveBranch env target
    rw [toOpens_of_shapes (lowerList_shapes env ops σ)] at resolved
    simp only [lowerInstr, run_bind, run_pure]
    exact resolved
  | .brTable ops targets default, σ, st, synced => by
    have afterOps := lowerList_synced env ops σ st synced
    have opsOpens := toOpens_of_shapes (lowerList_shapes env ops σ)
    have resolved := (Synced.resolveAll env targets _ _ afterOps).resolveBranch env default
    rw [toOpens_of_shapes (resolveAll_shapes env targets _), opsOpens] at resolved
    simp only [lowerInstr, run_bind, run_pure]
    show Synced _ (List.foldl _ _ (targets ++ [default]))
    rw [List.foldl_append]
    exact resolved

theorem lowerList_synced (env : Env) : ∀ (is : List Instr) (σ : State) (st : ScanState), Synced σ st →
    Synced ((lowerList env is).run σ).2 (Instr.scanNeedsList (σ.scopes.map Scope.toOpen) is st)
  | [], _, _, synced => synced
  | i :: rest, σ, st, synced => by
    have next := lowerList_synced env rest _ _ (lowerInstr_synced env i σ st synced)
    rw [toOpens_of_shapes (lowerInstr_shapes env i σ)] at next
    simp only [lowerList, run_bind, run_pure]
    exact next

end

end Lower

end WasmBoogie
