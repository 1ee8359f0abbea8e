import Mathlib.Data.List.Forall2
import WasmBoogie.Proofs.Lower.ControlFlow

namespace WasmBoogie

open Boogie Boogie.Stmt

namespace Lower

/-- A scope after a run against the same scope before it: the same but for its referenced flag,
which the run sets only with a jump to the scope's branch target among `targets`. -/
def ScopeCovered (targets : List String) (s s' : Scope) : Prop :=
  s'.shape = s.shape ∧ (s'.referenced = true → s.referenced = true ∨ s'.branchTarget ∈ targets)

namespace ScopeCovered

variable {targets targets' : List String}

theorem refl (targets : List String) (xs : List Scope) : List.Forall₂ (ScopeCovered targets) xs xs :=
  List.forall₂_same.2 fun _ _ => ⟨rfl, .inl⟩

theorem mono (sub : ∀ l ∈ targets, l ∈ targets') {xs ys : List Scope}
    (covered : List.Forall₂ (ScopeCovered targets) xs ys) : List.Forall₂ (ScopeCovered targets') xs ys :=
  covered.imp fun _ _ ⟨shape, ref⟩ => ⟨shape, fun r => (ref r).imp id (sub _)⟩

theorem trans {xs ys zs : List Scope} (first : List.Forall₂ (ScopeCovered targets) xs ys)
    (second : List.Forall₂ (ScopeCovered targets') ys zs) : List.Forall₂ (ScopeCovered (targets ++ targets')) xs zs := by
  induction first generalizing zs with
  | nil => cases second; exact .nil
  | @cons x y _ _ head _ ih =>
    cases second with
    | @cons _ z _ _ head' tail' =>
      refine .cons ⟨head'.1.trans head.1, fun ref => ?_⟩ (ih tail')
      rcases head'.2 ref with earlier | jumped
      · rcases head.2 earlier with earliest | jumpedBefore
        · exact .inl earliest
        · rw [Scope.branchTarget_of_shape head'.1]
          exact .inr (List.mem_append_left _ jumpedBefore)
      · exact .inr (List.mem_append_right _ jumped)

/-- A branch marks one open scope referenced and jumps to its branch target. -/
theorem set_referenced : ∀ {xs : List Scope} {i : Nat} {s : Scope}, xs[i]? = some s →
    List.Forall₂ (ScopeCovered [s.branchTarget]) xs (xs.set i { s with referenced := true })
  | [], _, _, found => nomatch found
  | x :: rest, 0, s, found => by
    simp only [List.getElem?_cons_zero, Option.some.injEq] at found
    subst found
    exact .cons ⟨rfl, fun _ => .inr (List.mem_singleton_self _)⟩ (refl _ rest)
  | _ :: _, _ + 1, _, found => .cons ⟨rfl, .inl⟩ (set_referenced found)

end ScopeCovered

/-- The jumps of a run account for what it marks: a scope referenced after the run was referenced
before or is jumped to among `targets`, and an exit label the run made is jumped to among
`targets` and has the exit label's base. -/
structure Covers (σ σ' : State) (targets : List String) : Prop where
  scopes : List.Forall₂ (ScopeCovered targets) σ.scopes σ'.scopes
  exit : ∀ l, σ'.exitLabel = some l → σ.exitLabel = some l ∨ (l ∈ targets ∧ labelStem l = "func_exit")

namespace Covers

variable {σ σ₁ σ₂ : State} {targets targets' : List String} {xs ys : List Stmt}

theorem refl (σ : State) (targets : List String) : Covers σ σ targets :=
  ⟨ScopeCovered.refl targets σ.scopes, fun _ made => .inl made⟩

theorem mono (covers : Covers σ σ₁ targets) (sub : ∀ l ∈ targets, l ∈ targets') : Covers σ σ₁ targets' :=
  ⟨ScopeCovered.mono sub covers.scopes, fun l made => (covers.exit l made).imp id fun ⟨mem, stem⟩ => ⟨sub l mem, stem⟩⟩

theorem trans (first : Covers σ σ₁ targets) (second : Covers σ₁ σ₂ targets') : Covers σ σ₂ (targets ++ targets') where
  scopes := ScopeCovered.trans first.scopes second.scopes
  exit l made := by
    rcases second.exit l made with earlier | ⟨jumped, stem⟩
    · rcases first.exit l earlier with earliest | ⟨jumpedBefore, stem⟩
      · exact .inl earliest
      · exact .inr ⟨List.mem_append_left _ jumpedBefore, stem⟩
    · exact .inr ⟨List.mem_append_right _ jumped, stem⟩

theorem append (first : Covers σ σ₁ (labelRefsList xs)) (second : Covers σ₁ σ₂ (labelRefsList ys)) :
    Covers σ σ₂ (labelRefsList (xs ++ ys)) := by
  rw [labelRefsList_append]
  exact first.trans second

theorem quiet {α : Type} {x : LowerM α} (q : Quiet x) (σ : State) (targets : List String) :
    Covers σ (x.run σ).2 targets := by
  obtain ⟨_, _, run⟩ := q σ
  rw [run]
  exact ⟨ScopeCovered.refl targets σ.scopes, fun _ made => .inl made⟩

theorem exitLabel (σ : State) : Covers σ (Lower.exitLabel.run σ).2 [(Lower.exitLabel.run σ).1] := by
  rw [exitLabel_run]
  split
  · exact refl σ _
  · refine ⟨ScopeCovered.refl _ σ.scopes, fun l made => .inr ⟨?_, ?_⟩⟩ <;>
      rw [← Option.some.inj made]
    · exact List.mem_singleton_self _
    · exact labelStem_numberedLabel _ _

theorem resolveBranch (env : Env) (target : LabelRef) (σ : State) :
    Covers σ ((Lower.resolveBranch env target).run σ).2 [((Lower.resolveBranch env target).run σ).1] := by
  obtain ⟨diagnostics, run⟩ := resolveBranch_run env target σ
  have viaExit : Covers σ (Lower.exitLabel.run { σ with diagnostics }).2 [(Lower.exitLabel.run { σ with diagnostics }).1] :=
    (⟨ScopeCovered.refl _ σ.scopes, fun _ made => .inl made⟩ : Covers σ { σ with diagnostics } []).trans (exitLabel _)
  rw [run]
  split
  · split
    · rename_i s atI
      exact ⟨ScopeCovered.set_referenced atI, fun _ made => .inl made⟩
    · exact viaExit
  · exact viaExit

theorem resolveAll (env : Env) (targets : List LabelRef) (σ : State) :
    Covers σ ((targets.mapM (Lower.resolveBranch env)).run σ).2 ((targets.mapM (Lower.resolveBranch env)).run σ).1 := by
  induction targets generalizing σ with
  | nil => exact refl σ []
  | cons t rest ih =>
    simp only [List.mapM_cons, run_bind, run_pure]
    exact (resolveBranch env t σ).trans (ih _)

/-- Closing the scope opened at `σ₁`: the scopes around it are covered as they were inside. -/
theorem close {opened s : Scope} {rest : List Scope} (covers : Covers σ₁ σ₂ targets)
    (entered : σ₁.scopes = opened :: σ.scopes) (exit : σ₁.exitLabel = σ.exitLabel)
    (closing : σ₂.scopes = s :: rest) : Covers σ { σ₂ with scopes := rest } targets := by
  have covered := covers.scopes
  rw [entered, closing] at covered
  cases covered with
  | cons _ tail => exact ⟨tail, fun l made => exit ▸ covers.exit l made⟩

/-- A scope that opens unreferenced and is referenced when it closes was jumped to inside. -/
theorem closing_target {opened s : Scope} {rest : List Scope} (covers : Covers σ₁ σ₂ targets)
    (entered : σ₁.scopes = opened :: σ.scopes) (fresh : opened.referenced = false)
    (closing : σ₂.scopes = s :: rest) (ref : s.referenced = true) : s.branchTarget ∈ targets := by
  have covered := covers.scopes
  rw [entered, closing] at covered
  cases covered with
  | cons head _ =>
    rcases head.2 ref with before | jumped
    · rw [fresh] at before
      contradiction
    · exact jumped

end Covers

mutual

/-- The jumps a lowered instruction emits account for every scope it marks and the exit label it
makes. -/
theorem lowerInstr_covers (env : Env) : ∀ (i : Instr) (σ : State),
    Covers σ ((lowerInstr env i).run σ).2 (labelRefsList ((lowerInstr env i).run σ).1)
  | .const ty literal, σ => Covers.quiet (quiet_lowerConst env ty literal) σ _
  | .raw name, σ => Covers.quiet (quiet_lowerRaw env name) σ _
  | .localGet _, σ | .nop, σ | .unreachable, σ => Covers.refl σ _
  | .localSet _ value, σ | .localTee _ value, σ => by
    simp only [lowerInstr, run_bind, run_pure]
    exact (lowerOpt_covers env value σ).append (Covers.quiet (quiet_ensurePopArgs 1) _ _)
  | .unary op operand, σ => by
    simp only [lowerInstr, run_bind, run_pure]
    exact (lowerOpt_covers env operand σ).append (Covers.quiet (quiet_lowerUnary env op) _ _)
  | .binary op left right, σ => by
    simp only [lowerInstr, run_bind, run_pure]
    exact ((lowerOpt_covers env left σ).append (lowerOpt_covers env right _)).append
      (Covers.quiet (quiet_lowerBinary env op) _ _)
  | .call _ ops, σ | .select ops, σ => by
    simp only [lowerInstr, run_bind, run_pure]
    exact (lowerList_covers env ops σ).append (Covers.refl _ _)
  | .structural _ ops, σ => lowerList_covers env ops σ
  | .ret ops, σ => by
    simp only [lowerInstr, run_bind, run_pure]
    exact (lowerList_covers env ops σ).append (Covers.exitLabel _)
  | .br target ops, σ | .brIf target ops, σ => by
    simp only [lowerInstr, run_bind, run_pure]
    exact (lowerList_covers env ops σ).append (Covers.resolveBranch env target _)
  | .brTable ops targets default, σ => by
    simp only [lowerInstr, run_bind, run_pure]
    refine (lowerList_covers env ops σ).append
      (((Covers.resolveAll env targets _).trans (Covers.resolveBranch env default _)).mono fun l mem => ?_)
    have dispatched := mem_labelRefs_tableDispatch.2 (List.mem_append.1 mem |>.imp id List.mem_singleton.1)
    simp only [labelRefsList, labelRefs, List.nil_append, List.append_nil]
    exact dispatched
  | .block name body, σ => by
    have inside := lowerList_covers env body ((enterScope env name .block).run σ).2
    obtain ⟨s, rest, closing, -, -⟩ :=
      scopes_cons_of_entered (enterScope_scopes env name .block σ) (lowerList_shapes env body _)
    simp only [lowerInstr, run_bind, run_pure, leaveScope_run closing, labelRefsList_append]
    exact (inside.close (enterScope_scopes env name .block σ) (enterScope_exitLabel env name .block σ) closing).mono
      fun l mem => List.mem_append_left _ mem
  | .loop name body, σ => by
    have inside := lowerList_covers env body ((enterScope env name .loop).run σ).2
    obtain ⟨s, rest, closing, -, -⟩ :=
      scopes_cons_of_entered (enterScope_scopes env name .loop σ) (lowerList_shapes env body _)
    simp only [lowerInstr, run_bind, run_pure, leaveScope_run closing, labelRefsList_append]
    exact (inside.close (enterScope_scopes env name .loop σ) (enterScope_exitLabel env name .loop σ) closing).mono
      fun l mem => List.mem_append_left _ (List.mem_append_right _ mem)
  | .ite name cond thenBody elseBody, σ => by
    have condCovers := lowerList_covers env cond σ
    have inThen := lowerList_covers env thenBody ((enterScope env name .ite).run ((lowerList env cond).run σ).2).2
    have entered := enterScope_scopes env name .ite ((lowerList env cond).run σ).2
    have sameExit := enterScope_exitLabel env name .ite ((lowerList env cond).run σ).2
    cases elseBody with
    | none =>
      obtain ⟨s, rest, closing, -, -⟩ := scopes_cons_of_entered entered (lowerList_shapes env thenBody _)
      simp only [lowerInstr, run_bind, run_pure, leaveScope_run closing]
      rw [List.append_assoc]
      refine condCovers.append ((inThen.close entered sameExit closing).mono fun l mem => ?_)
      simp only [labelRefsList, labelRefs, labelRefsOpt, labelRefsList_append, List.mem_append]
      exact .inl (.inr (.inl (.inl mem)))
    | some b =>
      have inElse := lowerList_covers env b ((lowerList env thenBody).run ((enterScope env name .ite).run ((lowerList env cond).run σ).2).2).2
      obtain ⟨s, rest, closing, -, -⟩ :=
        scopes_cons_of_entered entered ((lowerList_shapes env b _).trans (lowerList_shapes env thenBody _))
      simp only [lowerInstr, run_bind, run_pure, run_map, leaveScope_run closing]
      rw [List.append_assoc]
      refine condCovers.append (((inThen.trans inElse).close entered sameExit closing).mono fun l mem => ?_)
      simp only [labelRefsList, labelRefs, labelRefsOpt, labelRefsList_append, List.mem_append] at mem ⊢
      rcases mem with inThenArm | inElseArm
      · exact .inl (.inr (.inl (.inl inThenArm)))
      · exact .inl (.inr (.inl (.inr inElseArm)))

theorem lowerOpt_covers (env : Env) : ∀ (i : Option Instr) (σ : State),
    Covers σ ((lowerOpt env i).run σ).2 (labelRefsList ((lowerOpt env i).run σ).1)
  | some i, σ => lowerInstr_covers env i σ
  | none, σ => Covers.refl σ _

theorem lowerList_covers (env : Env) : ∀ (is : List Instr) (σ : State),
    Covers σ ((lowerList env is).run σ).2 (labelRefsList ((lowerList env is).run σ).1)
  | [], σ => Covers.refl σ _
  | i :: rest, σ => by
    simp only [lowerList, run_bind, run_pure]
    exact (lowerInstr_covers env i σ).append (lowerList_covers env rest _)

end

/-- Every label placed in `out`, at any depth, is the target of a jump in `out`. -/
def Targeted (out : List Stmt) : Prop := ∀ l ∈ labelDefsList out, l ∈ labelRefsList out

namespace Targeted

variable {xs ys : List Stmt}

theorem of_plain (noDefs : labelDefsList xs = []) : Targeted xs :=
  fun _ mem => absurd (noDefs ▸ mem) List.not_mem_nil

theorem append (first : Targeted xs) (second : Targeted ys) : Targeted (xs ++ ys) := by
  intro l mem
  rw [labelDefsList_append, List.mem_append] at mem
  rw [labelRefsList_append, List.mem_append]
  exact mem.imp (first l) (second l)

/-- A scope's statements: the labels it places itself are jumped to from inside. -/
theorem scope {inner close : List Stmt} (start : List Stmt) (body : Targeted inner)
    (own : ∀ l ∈ labelDefsList start ++ labelDefsList close, l ∈ labelRefsList inner) :
    Targeted (start ++ inner ++ close) := by
  intro l mem
  simp only [labelDefsList_append, List.mem_append] at mem
  simp only [labelRefsList_append, List.mem_append]
  rcases mem with (atStart | placed) | atClose
  · exact .inl (.inr (own l (List.mem_append_left _ atStart)))
  · exact .inl (.inr (body l placed))
  · exact .inl (.inr (own l (List.mem_append_right _ atClose)))

theorem conditional {t e : List Stmt} (thenT : Targeted t) (elseT : Targeted e) (c : Expr) :
    Targeted [popTo 1, .ite c t (some e)] := by
  intro l mem
  simp only [labelDefsList, labelDefs, labelDefsOpt, popTo, callProc, List.nil_append, List.append_nil, List.mem_append] at mem
  simp only [labelRefsList, labelRefs, labelRefsOpt, popTo, callProc, List.nil_append, List.append_nil, List.mem_append]
  exact mem.imp (thenT l) (elseT l)

theorem conditionalNone {t : List Stmt} (thenT : Targeted t) (c : Expr) : Targeted [popTo 1, .ite c t none] := by
  intro l mem
  simp only [labelDefsList, labelDefs, labelDefsOpt, popTo, callProc, List.nil_append, List.append_nil] at mem
  simp only [labelRefsList, labelRefs, labelRefsOpt, popTo, callProc, List.nil_append, List.append_nil]
  exact thenT l mem

end Targeted

/-- A closing scope whose ordinal the needs mark, under its kind, is referenced: the needs are
settled on it, so the scan marked it, and the lowering is in step with the scan. -/
theorem referenced_of_needed {σ : State} {st : ScanState} {opened : List OpenScope} {needs : LabelNeeds}
    {s : Scope} {rest : List Scope} (synced : Synced σ st) (settled : st.Settled opened needs)
    (closing : σ.scopes = s :: rest) (outer : rest.map Scope.toOpen = opened)
    (needed : s.ordinal ∈ needs.of (s.kind == .loop)) : s.referenced = true := by
  subst outer
  have open_ : s ∈ σ.scopes := by rw [closing]; exact List.mem_cons_self ..
  have distinct := synced.distinct
  rw [closing, List.map_cons, List.nodup_cons] at distinct
  have closed : ∀ t ∈ rest.map Scope.toOpen, t.ordinal ≠ s.ordinal := by
    intro t outer same
    obtain ⟨u, mem, rfl⟩ := List.mem_map.1 outer
    exact distinct.1 (List.mem_map.2 ⟨u, mem, same⟩)
  have marked := settled _ _ needed (synced.below s open_) closed
  rw [synced.referenced s open_]
  exact List.contains_iff_mem.2 marked

/-- Under pruning, a block or an `if` places its end label only if a branch went to it. -/
theorem endTarget_jumped {env : Env} (prune : env.options.pruneUnusedLabels = true) {σ : State} {st : ScanState}
    {opened : List OpenScope} {s : Scope} {rest : List Scope} {targets : List String} (synced : Synced σ st)
    (settled : st.Settled opened env.needs) (closing : σ.scopes = s :: rest) (outer : rest.map Scope.toOpen = opened)
    (notLoop : s.kind ≠ .loop) (jumped : s.referenced = true → s.branchTarget ∈ targets) :
    ∀ l ∈ labelDefsList (if endPlaced env s then [.label s.endLabel] else []), l ∈ targets := by
  intro l mem
  split at mem
  · rename_i placed
    have ref : s.referenced = true := by
      unfold endPlaced at placed
      split at placed
      · contradiction
      · simp only [prune, Bool.not_true, Bool.false_or, Bool.or_eq_true] at placed
        rcases placed with ref | needed
        · exact ref
        · have unlooped : (s.kind == .loop) = false := by simpa using notLoop
          refine referenced_of_needed synced settled closing outer ?_
          rw [unlooped]
          exact List.contains_iff_mem.1 needed
    rw [List.mem_singleton.1 mem, ← Scope.branchTarget_of_notLoop notLoop]
    exact jumped ref
  · exact absurd mem List.not_mem_nil

/-- Under pruning, a loop places its start label only if the scan marked the loop, and then a
branch went to it. -/
theorem startTarget_jumped {env : Env} (prune : env.options.pruneUnusedLabels = true) {σ σ₂ : State}
    {st : ScanState} {opened : List OpenScope} {name : Option String} {s : Scope} {rest : List Scope}
    {targets : List String} (synced : Synced σ₂ st) (settled : st.Settled opened env.needs)
    (closing : σ₂.scopes = s :: rest) (outer : rest.map Scope.toOpen = opened)
    (shape : s.shape = (openedScope σ name .loop).shape) (jumped : s.referenced = true → s.branchTarget ∈ targets) :
    ∀ l ∈ ((enterScope env name .loop).run σ).1.toList, l ∈ targets := by
  intro l placed
  rw [enterScope_run] at placed
  simp only [openedScope, Option.filter, prune, Bool.not_true, Bool.false_or] at placed
  by_cases needed : env.needs.loopStarts.contains σ.nextOrdinal = true
  · simp only [needed, if_true, Option.toList_some, List.mem_singleton] at placed
    have ordinal : s.ordinal = σ.nextOrdinal := by
      have same := congrArg Scope.ordinal shape
      exact same
    have kind : s.kind = .loop := Scope.kind_of_shape shape
    have ref := referenced_of_needed synced settled closing outer
      (by rw [kind, ordinal]; exact List.contains_iff_mem.1 needed)
    have target : s.branchTarget = numberedLabel (labelBase name "start" "loop_start") (σ.nextLabel + 1) :=
      Scope.branchTarget_of_shape shape
    rw [placed, ← target]
    exact jumped ref
  · simp only [needed, Bool.false_eq_true, if_false, Option.toList_none] at placed
    exact absurd placed List.not_mem_nil

mutual

/-- Under pruning, every label a lowered instruction places is jumped to from its own statements,
when the needs are settled on the scan of the instruction. -/
theorem lowerInstr_targeted (env : Env) (prune : env.options.pruneUnusedLabels = true) :
    ∀ (i : Instr) (σ : State) (st : ScanState), Synced σ st →
      (Instr.scanNeeds (σ.scopes.map Scope.toOpen) i st).Settled (σ.scopes.map Scope.toOpen) env.needs →
      Targeted ((lowerInstr env i).run σ).1
  | .const ty literal, σ, _, _, _ => Targeted.of_plain (plain_lowerConst env ty literal σ).noDefs
  | .raw name, σ, _, _, _ => Targeted.of_plain (plain_lowerRaw env name σ).noDefs
  | .localGet _, _, _, _, _ | .nop, _, _, _, _ | .unreachable, _, _, _, _ => Targeted.of_plain rfl
  | .localSet _ value, σ, st, synced, settled | .localTee _ value, σ, st, synced, settled => by
    simp only [lowerInstr, run_bind, run_pure]
    cases value with
    | none => exact Targeted.of_plain rfl
    | some i => exact (lowerInstr_targeted env prune i σ st synced settled).append (Targeted.of_plain rfl)
  | .unary op operand, σ, st, synced, settled => by
    simp only [lowerInstr, run_bind, run_pure]
    cases operand with
    | none => exact Targeted.of_plain (plain_lowerUnary env op _).noDefs
    | some i =>
      exact (lowerInstr_targeted env prune i σ st synced settled).append
        (Targeted.of_plain (plain_lowerUnary env op _).noDefs)
  | .binary op left right, σ, st, synced, settled => by
    simp only [lowerInstr, run_bind, run_pure]
    have post : ∀ σ' : State, Targeted ((lowerBinary env op).run σ').1 :=
      fun σ' => Targeted.of_plain (plain_lowerBinary env op σ').noDefs
    cases left <;> cases right
    case none.none => exact post σ
    case none.some r => exact (lowerInstr_targeted env prune r σ st synced settled).append (post _)
    case some.none l =>
      simp only [lowerOpt, run_pure, List.append_nil]
      exact (lowerInstr_targeted env prune l σ st synced settled).append (post _)
    case some.some l r =>
      have leftSettled := (Instr.scanNeeds_grows _ r _).settled settled
      have rightSettled : (Instr.scanNeeds (((lowerInstr env l).run σ).2.scopes.map Scope.toOpen) r
          (Instr.scanNeeds (σ.scopes.map Scope.toOpen) l st)).Settled
          (((lowerInstr env l).run σ).2.scopes.map Scope.toOpen) env.needs := by
        rw [toOpens_of_shapes (lowerInstr_shapes env l σ)]
        exact settled
      exact ((lowerInstr_targeted env prune l σ st synced leftSettled).append
        (lowerInstr_targeted env prune r _ _ (lowerInstr_synced env l σ st synced) rightSettled)).append (post _)
  | .call _ ops, σ, st, synced, settled | .select ops, σ, st, synced, settled
  | .ret ops, σ, st, synced, settled => by
    simp only [lowerInstr, run_bind, run_pure]
    exact (lowerList_targeted env prune ops σ st synced settled).append (Targeted.of_plain rfl)
  | .structural _ ops, σ, st, synced, settled => lowerList_targeted env prune ops σ st synced settled
  | .br target ops, σ, st, synced, settled | .brIf target ops, σ, st, synced, settled => by
    simp only [lowerInstr, run_bind, run_pure]
    exact (lowerList_targeted env prune ops σ st synced ((ScanGrows.mark _ target _).settled settled)).append
      (Targeted.of_plain rfl)
  | .brTable ops targets default, σ, st, synced, settled => by
    simp only [lowerInstr, run_bind, run_pure]
    exact (lowerList_targeted env prune ops σ st synced ((ScanGrows.marks _ (targets ++ [default]) _).settled settled)).append
      (Targeted.of_plain (by simp [labelDefsList, labelDefs, popTo, callProc]))
  | .block name body, σ, st, synced, settled => by
    have entered := synced.enter env name .block
    have inside := lowerList_targeted env prune body _ _ entered (by rw [synced.toOpens_enter]; exact settled.inner _)
    have afterBody := lowerList_synced env body _ _ entered
    rw [synced.toOpens_enter] at afterBody
    obtain ⟨s, rest, closing, shape, restShapes⟩ :=
      scopes_cons_of_entered (enterScope_scopes env name .block σ) (lowerList_shapes env body _)
    have notLoop : s.kind ≠ .loop := by rw [Scope.kind_of_shape shape]; nofun
    simp only [lowerInstr, run_bind, run_pure, leaveScope_run closing]
    refine Targeted.scope [] inside fun l mem => ?_
    exact endTarget_jumped prune afterBody settled closing (toOpens_of_shapes restShapes) notLoop
      ((lowerList_covers env body _).closing_target (enterScope_scopes env name .block σ) rfl closing) l mem
  | .loop name body, σ, st, synced, settled => by
    have entered := synced.enter env name .loop
    have inside := lowerList_targeted env prune body _ _ entered (by rw [synced.toOpens_enter]; exact settled.inner _)
    have afterBody := lowerList_synced env body _ _ entered
    rw [synced.toOpens_enter] at afterBody
    obtain ⟨s, rest, closing, shape, restShapes⟩ :=
      scopes_cons_of_entered (enterScope_scopes env name .loop σ) (lowerList_shapes env body _)
    have jumped := (lowerList_covers env body _).closing_target (enterScope_scopes env name .loop σ) rfl closing
    simp only [lowerInstr, run_bind, run_pure, leaveScope_run closing]
    refine Targeted.scope _ inside fun l mem => ?_
    rcases List.mem_append.1 mem with atStart | atClose
    · refine startTarget_jumped prune afterBody settled closing (toOpens_of_shapes restShapes) shape jumped l ?_
      split at atStart
      · next placed => rw [placed]; exact atStart
      · exact absurd atStart List.not_mem_nil
    · simp only [endPlaced, Scope.kind_of_shape shape, openedScope, prune, Bool.not_true, Bool.false_eq_true,
        if_false] at atClose
      exact absurd atClose List.not_mem_nil
  | .ite name cond thenBody elseBody, σ, st, synced, settled => by
    have afterCond := lowerList_synced env cond σ st synced
    have condOpens := toOpens_of_shapes (lowerList_shapes env cond σ)
    have entered := afterCond.enter env name .ite
    have opened := enterScope_scopes env name .ite ((lowerList env cond).run σ).2
    have inThen := lowerList_synced env thenBody _ _ entered
    have thenCovers := lowerList_covers env thenBody ((enterScope env name .ite).run ((lowerList env cond).run σ).2).2
    cases elseBody with
    | none =>
      have condT := lowerList_targeted env prune cond σ st synced
        ((ScanGrows.enter false name (Instr.scanNeedsList_grows _ thenBody _)).settled settled)
      have thenT := lowerList_targeted env prune thenBody _ _ entered
        (by rw [afterCond.toOpens_enter, condOpens]; exact settled.inner _)
      rw [afterCond.toOpens_enter, condOpens] at inThen
      obtain ⟨s, rest, closing, shape, restShapes⟩ := scopes_cons_of_entered opened (lowerList_shapes env thenBody _)
      have notLoop : s.kind ≠ .loop := by rw [Scope.kind_of_shape shape]; nofun
      simp only [lowerInstr, run_bind, run_pure, leaveScope_run closing]
      rw [List.append_assoc]
      refine condT.append (Targeted.scope [] (Targeted.conditionalNone thenT tmp1IsTrue) fun l mem => ?_)
      have jumped := endTarget_jumped prune inThen settled closing ((toOpens_of_shapes restShapes).trans condOpens) notLoop
        (thenCovers.closing_target opened rfl closing) l mem
      simp only [labelRefsList, labelRefs, labelRefsOpt, popTo, callProc, List.nil_append, List.append_nil]
      exact jumped
    | some b =>
      have condT := lowerList_targeted env prune cond σ st synced
        ((ScanGrows.enter false name ((Instr.scanNeedsList_grows _ thenBody _).trans
          (Instr.scanNeedsList_grows _ b _))).settled settled)
      have thenT := lowerList_targeted env prune thenBody _ _ entered
        (by rw [afterCond.toOpens_enter, condOpens]; exact (Instr.scanNeedsList_grows _ b _).settled (settled.inner _))
      have elseT := lowerList_targeted env prune b _ _ inThen
        (by rw [toOpens_of_shapes (lowerList_shapes env thenBody _), afterCond.toOpens_enter, condOpens]
            exact settled.inner _)
      have inElse := lowerList_synced env b _ _ inThen
      rw [toOpens_of_shapes (lowerList_shapes env thenBody _), afterCond.toOpens_enter, condOpens] at inElse
      have elseCovers := lowerList_covers env b ((lowerList env thenBody).run ((enterScope env name .ite).run ((lowerList env cond).run σ).2).2).2
      obtain ⟨s, rest, closing, shape, restShapes⟩ :=
        scopes_cons_of_entered opened ((lowerList_shapes env b _).trans (lowerList_shapes env thenBody _))
      have notLoop : s.kind ≠ .loop := by rw [Scope.kind_of_shape shape]; nofun
      simp only [lowerInstr, run_bind, run_pure, run_map, leaveScope_run closing]
      rw [List.append_assoc]
      refine condT.append (Targeted.scope [] (Targeted.conditional thenT elseT tmp1IsTrue) fun l mem => ?_)
      have jumped := endTarget_jumped prune inElse settled closing ((toOpens_of_shapes restShapes).trans condOpens) notLoop
        ((thenCovers.trans elseCovers).closing_target opened rfl closing) l mem
      simp only [labelRefsList, labelRefs, labelRefsOpt, popTo, callProc, List.nil_append, List.append_nil]
      exact jumped

theorem lowerList_targeted (env : Env) (prune : env.options.pruneUnusedLabels = true) :
    ∀ (is : List Instr) (σ : State) (st : ScanState), Synced σ st →
      (Instr.scanNeedsList (σ.scopes.map Scope.toOpen) is st).Settled (σ.scopes.map Scope.toOpen) env.needs →
      Targeted ((lowerList env is).run σ).1
  | [], _, _, _, _ => Targeted.of_plain rfl
  | i :: rest, σ, st, synced, settled => by
    have restSettled : (Instr.scanNeedsList (((lowerInstr env i).run σ).2.scopes.map Scope.toOpen) rest
        (Instr.scanNeeds (σ.scopes.map Scope.toOpen) i st)).Settled
        (((lowerInstr env i).run σ).2.scopes.map Scope.toOpen) env.needs := by
      rw [toOpens_of_shapes (lowerInstr_shapes env i σ)]
      exact settled
    simp only [lowerList, run_bind, run_pure]
    exact (lowerInstr_targeted env prune i σ st synced ((Instr.scanNeedsList_grows _ rest _).settled settled)).append
      (lowerList_targeted env prune rest _ _ (lowerInstr_synced env i σ st synced) restSettled)

end

theorem exit_not_mem_openingBases (label : Option String) (kind : ScopeKind) :
    "func_exit" ∉ openingBases label kind := by
  have suffixed : ∀ stem suffix, suffix = "start" ∨ suffix = "end" → ¬"func_exit" = stem ++ "_" ++ suffix := by
    intro stem suffix known same
    have ends := congrArg (fun s : String => s.toList.reverse.take 2) same
    rcases known with rfl | rfl <;> simp at ends
  cases label with
  | none => cases kind <;> simp [openingBases, labelBase, ScopeKind.endFallback]
  | some name =>
    cases kind <;> simp only [openingBases, labelBase, List.mem_cons, List.not_mem_nil, or_false, not_or]
    case loop => exact ⟨suffixed _ _ (.inl rfl), suffixed _ _ (.inr rfl)⟩
    all_goals exact suffixed _ _ (.inr rfl)

mutual

theorem exit_not_mem_scopeBases : ∀ i : Instr, "func_exit" ∉ i.scopeBases
  | .localSet _ value | .localTee _ value | .unary _ value => exit_not_mem_scopeBasesOpt value
  | .binary _ left right => by
    simp only [Instr.scopeBases, List.mem_append, not_or]
    exact ⟨exit_not_mem_scopeBasesOpt left, exit_not_mem_scopeBasesOpt right⟩
  | .call _ ops | .select ops | .br _ ops | .brIf _ ops | .brTable ops _ _ | .ret ops
  | .structural _ ops => exit_not_mem_scopeBasesList ops
  | .block name body | .loop name body => by
    simp only [Instr.scopeBases, List.mem_append, not_or]
    exact ⟨exit_not_mem_openingBases name _, exit_not_mem_scopeBasesList body⟩
  | .ite name cond thenBody none => by
    simp only [Instr.scopeBases, List.mem_append, not_or]
    exact ⟨exit_not_mem_scopeBasesList cond, exit_not_mem_openingBases name _,
      exit_not_mem_scopeBasesList thenBody, List.not_mem_nil⟩
  | .ite name cond thenBody (some b) => by
    simp only [Instr.scopeBases, List.mem_append, not_or]
    exact ⟨exit_not_mem_scopeBasesList cond, exit_not_mem_openingBases name _,
      exit_not_mem_scopeBasesList thenBody, exit_not_mem_scopeBasesList b⟩
  | .const .. | .localGet _ | .nop | .unreachable | .raw _ => List.not_mem_nil

theorem exit_not_mem_scopeBasesOpt : ∀ i : Option Instr, "func_exit" ∉ Instr.scopeBasesOpt i
  | some i => exit_not_mem_scopeBases i
  | none => List.not_mem_nil

theorem exit_not_mem_scopeBasesList : ∀ is : List Instr, "func_exit" ∉ Instr.scopeBasesList is
  | [] => List.not_mem_nil
  | i :: rest => by
    simp only [Instr.scopeBasesList, List.mem_append, not_or]
    exact ⟨exit_not_mem_scopeBases i, exit_not_mem_scopeBasesList rest⟩

end

/-- The scan of a whole body settles its needs from the start. -/
theorem scanLabels_settled (body : List Instr) :
    (Instr.scanNeedsList [] body {}).Settled [] (scanLabels body) :=
  fun _ _ need _ _ => need

/-- With pruning, a lowered function places exactly the labels its jumps go to. -/
theorem lowerFunction_pruned_labels (options : LowerOptions) (callees : CalleeTable) (name : String)
    (f : Function) (σ : State) (prune : options.pruneUnusedLabels = true) (l : String) :
    l ∈ labelDefsList ((lowerFunction options callees name f).run σ).1.2.body ↔
      l ∈ labelRefsList ((lowerFunction options callees name f).run σ).1.2.body := by
  have wj := lowerFunction_body_wellJumped options callees name f σ
  refine ⟨fun placed => ?_, wj.mem_labelDefs⟩
  obtain ⟨σ₀, pre, post, body, prePlain, postPlain, scopes, _, ordinals, noExit⟩ :=
    lowerFunction_body_split options callees name f σ
  rw [body, labelDefsList_split prePlain postPlain, List.mem_append] at placed
  rw [body, labelRefsList_split prePlain postPlain]
  rcases placed with inBody | isExit
  · exact lowerList_targeted (functionEnv options callees name f) prune f.body σ₀ {} (Synced.start scopes ordinals)
      (by rw [scopes]; exact scanLabels_settled f.body) l inBody
  · rcases (lowerList_covers (functionEnv options callees name f) f.body σ₀).exit l (Option.mem_toList.1 isExit)
      with before | ⟨jumped, _⟩
    · rw [noExit] at before
      contradiction
    · exact jumped

/-- The base of the exit label placed after a run from no exit label: the exit label's base exactly
when a jump goes to a label with it, as long as no jump goes to such a label while there is no
exit label. -/
theorem exitStems_eq {σ₀ σ₂ : State} {out : List Stmt} (covers : Covers σ₀ σ₂ (labelRefsList out))
    (noExit : σ₀.exitLabel = none)
    (scopeLabels : σ₂.exitLabel = none → ∀ r ∈ labelRefsList out, labelStem r ≠ "func_exit") :
    σ₂.exitLabel.toList.map labelStem =
      if (labelRefsList out).any (labelStem · == "func_exit") then ["func_exit"] else [] := by
  cases made : σ₂.exitLabel with
  | some l =>
    rcases covers.exit l made with before | ⟨jumped, stem⟩
    · rw [noExit] at before
      contradiction
    · rw [if_pos (List.any_eq_true.2 ⟨l, jumped, by simp [stem]⟩)]
      simp [stem]
  | none =>
    have none_jump : (labelRefsList out).any (labelStem · == "func_exit") = false :=
      List.any_eq_false.2 fun r ref same => scopeLabels made r ref (beq_iff_eq.1 same)
    rw [none_jump]
    rfl

/-- Without pruning, a lowered function places one label for each base its scopes take, a start
and an end label for each loop and an end label for each block and `if`, and the exit label
exactly when a jump goes to it. -/
theorem lowerFunction_unpruned_labels (options : LowerOptions) (callees : CalleeTable) (name : String)
    (f : Function) (σ : State) (unpruned : options.pruneUnusedLabels = false) :
    ((labelDefsList ((lowerFunction options callees name f).run σ).1.2.body).map labelStem).Perm
      (Instr.scopeBasesList f.body ++
        if (labelRefsList ((lowerFunction options callees name f).run σ).1.2.body).any (labelStem · == "func_exit")
        then ["func_exit"] else []) := by
  have wj := lowerFunction_body_wellJumped options callees name f σ
  obtain ⟨σ₀, pre, post, body, prePlain, postPlain, scopes, _, ordinals, noExit⟩ :=
    lowerFunction_body_split options callees name f σ
  have stems := (lowerList_labelRun (functionEnv options callees name f) f.body σ₀).stems unpruned
  have covers := lowerList_covers (functionEnv options callees name f) f.body σ₀
  rw [body] at wj ⊢
  rw [labelDefsList_split prePlain postPlain, labelRefsList_split prePlain postPlain, List.map_append]
  refine stems.append (List.Perm.of_eq (exitStems_eq covers noExit fun made r ref same => ?_))
  have placed := wj.mem_labelDefs (by rw [labelRefsList_split prePlain postPlain]; exact ref)
  rw [labelDefsList_split prePlain postPlain, made, Option.toList_none, List.append_nil] at placed
  have base := stems.mem_iff.1 (List.mem_map_of_mem placed)
  rw [same] at base
  exact exit_not_mem_scopeBasesList f.body base

/-- Label pruning is exact. With pruning, the labels a lowered function places are the labels
its jumps go to. Without it, it places a start and an end label for each loop, an end label for
each block and `if`, and the exit label exactly when a jump goes to it. -/
theorem lowerFunction_labels_exact (options : LowerOptions) (callees : CalleeTable) (name : String)
    (f : Function) (σ : State) :
    (options.pruneUnusedLabels = true → ∀ l,
      l ∈ labelDefsList ((lowerFunction options callees name f).run σ).1.2.body ↔
        l ∈ labelRefsList ((lowerFunction options callees name f).run σ).1.2.body) ∧
    (options.pruneUnusedLabels = false →
      ((labelDefsList ((lowerFunction options callees name f).run σ).1.2.body).map labelStem).Perm
        (Instr.scopeBasesList f.body ++
          if (labelRefsList ((lowerFunction options callees name f).run σ).1.2.body).any (labelStem · == "func_exit")
          then ["func_exit"] else [])) :=
  ⟨lowerFunction_pruned_labels options callees name f σ, lowerFunction_unpruned_labels options callees name f σ⟩

end Lower

end WasmBoogie
