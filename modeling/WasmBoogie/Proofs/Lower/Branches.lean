import WasmBoogie.Proofs.Lower.Sync

namespace WasmBoogie

open Boogie Boogie.Stmt

namespace Lower

/-- The labels a jump may go to that are placed around the statements lowered so far: the
branch targets of the open scopes a branch has gone to, and the function's exit label. -/
def reach (σ : State) : List String :=
  (σ.scopes.filter (·.referenced)).map Scope.branchTarget ++ σ.exitLabel.toList

theorem mem_reach {σ : State} {l : String} :
    l ∈ reach σ ↔ (∃ s ∈ σ.scopes, s.referenced = true ∧ s.branchTarget = l) ∨ σ.exitLabel = some l := by
  simp only [reach, List.mem_append, List.mem_map, List.mem_filter, Option.mem_toList, and_assoc]

theorem Scope.branchTarget_of_shape {s t : Scope} (h : s.shape = t.shape) : s.branchTarget = t.branchTarget := by
  have same := congrArg Scope.branchTarget h
  exact same

theorem Scope.kind_of_shape {s t : Scope} (h : s.shape = t.shape) : s.kind = t.kind := by
  have same := congrArg Scope.kind h
  exact same

/-- The open scopes after a step of the lowering are those before it, each the same but for its
referenced flag, which is only ever set. -/
def ScopesGrow (xs ys : List Scope) : Prop :=
  List.Forall₂ (fun s s' => s'.shape = s.shape ∧ (s.referenced = true → s'.referenced = true)) xs ys

namespace ScopesGrow

theorem refl (xs : List Scope) : ScopesGrow xs xs := by
  induction xs with
  | nil => exact .nil
  | cons s rest ih => exact .cons ⟨rfl, id⟩ ih

theorem trans {xs ys zs : List Scope} (first : ScopesGrow xs ys) (second : ScopesGrow ys zs) :
    ScopesGrow xs zs := by
  induction first generalizing zs with
  | nil => cases second; exact .nil
  | cons head _ ih =>
    cases second with
    | cons head' tail' => exact .cons ⟨head'.1.trans head.1, fun ref => head'.2 (head.2 ref)⟩ (ih tail')

theorem exists_of_mem {xs ys : List Scope} (grow : ScopesGrow xs ys) {s : Scope} (mem : s ∈ xs) :
    ∃ s' ∈ ys, s'.shape = s.shape ∧ (s.referenced = true → s'.referenced = true) := by
  induction grow with
  | nil => nomatch mem
  | @cons t t' _ _ head _ ih =>
    rcases List.mem_cons.1 mem with rfl | later
    · exact ⟨t', List.mem_cons_self .., head⟩
    · obtain ⟨s', found, same⟩ := ih later
      exact ⟨s', List.mem_cons_of_mem _ found, same⟩

/-- A branch marks one open scope referenced. -/
theorem set_referenced : ∀ {xs : List Scope} {i : Nat} {s : Scope}, xs[i]? = some s →
    ScopesGrow xs (xs.set i { s with referenced := true })
  | [], _, _, found => nomatch found
  | x :: rest, 0, s, found => by
    simp only [List.getElem?_cons_zero, Option.some.injEq] at found
    subst found
    exact .cons ⟨rfl, fun _ => rfl⟩ (refl rest)
  | _ :: _, _ + 1, _, found => .cons ⟨rfl, id⟩ (set_referenced found)

end ScopesGrow

/-- A later state of the lowering at the same depth: the same open scopes, possibly more of them
referenced, and the same exit label once there is one. -/
structure Later (σ σ' : State) : Prop where
  scopes : ScopesGrow σ.scopes σ'.scopes
  exit : ∀ l, σ.exitLabel = some l → σ'.exitLabel = some l

namespace Later

theorem refl (σ : State) : Later σ σ := ⟨ScopesGrow.refl _, fun _ => id⟩

theorem trans {σ σ₁ σ₂ : State} (first : Later σ σ₁) (second : Later σ₁ σ₂) : Later σ σ₂ :=
  ⟨first.scopes.trans second.scopes, fun l h => second.exit l (first.exit l h)⟩

/-- The labels placed around only grow. -/
theorem reach {σ σ' : State} (later : Later σ σ') : ∀ l ∈ reach σ, l ∈ reach σ' := by
  intro l mem
  rcases mem_reach.1 mem with ⟨s, open_, ref, rfl⟩ | made
  · obtain ⟨s', open', shape, grows⟩ := later.scopes.exists_of_mem open_
    exact mem_reach.2 (.inl ⟨s', open', grows ref, Scope.branchTarget_of_shape shape⟩)
  · exact mem_reach.2 (.inr (later.exit l made))

theorem quiet {α : Type} {x : LowerM α} (q : Quiet x) (σ : State) : Later σ (x.run σ).2 := by
  obtain ⟨_, _, run⟩ := q σ
  rw [run]
  exact ⟨ScopesGrow.refl _, fun _ => id⟩

theorem exitLabel (σ : State) : Later σ (Lower.exitLabel.run σ).2 := by
  refine ⟨exitLabel_scopes σ ▸ ScopesGrow.refl _, ?_⟩
  rw [exitLabel_run]
  intro l found
  rw [found]
  exact found

/-- Closing the scope opened at `σ₁` leaves a later state than the one before it opened. -/
theorem close {σ σ₁ σ₂ : State} {opened s : Scope} {rest : List Scope} (later : Later σ₁ σ₂)
    (entered : σ₁.scopes = opened :: σ.scopes) (exit : σ₁.exitLabel = σ.exitLabel)
    (closing : σ₂.scopes = s :: rest) : Later σ { σ₂ with scopes := rest } := by
  have grows := later.scopes
  rw [entered, closing] at grows
  cases grows with
  | cons _ tail => exact ⟨tail, fun l made => later.exit l (exit ▸ made)⟩

end Later

theorem exitLabel_mem_reach (σ : State) : (exitLabel.run σ).1 ∈ reach (exitLabel.run σ).2 := by
  rw [exitLabel_run, mem_reach]
  right
  cases made : σ.exitLabel with
  | some l => exact made
  | none => rfl

theorem resolveBranch_reach (env : Env) (target : LabelRef) (σ : State) :
    ((resolveBranch env target).run σ).1 ∈ reach ((resolveBranch env target).run σ).2 ∧
      Later σ ((resolveBranch env target).run σ).2 := by
  obtain ⟨diagnostics, run⟩ := resolveBranch_run env target σ
  have viaExit : (exitLabel.run { σ with diagnostics }).1 ∈ reach (exitLabel.run { σ with diagnostics }).2 ∧
      Later σ (exitLabel.run { σ with diagnostics }).2 :=
    ⟨exitLabel_mem_reach _, (⟨ScopesGrow.refl _, fun _ => id⟩ : Later σ { σ with diagnostics }).trans (Later.exitLabel _)⟩
  rw [run]
  cases scopeIndex σ.scopes target with
  | none => exact viaExit
  | some i =>
    dsimp only
    cases atI : σ.scopes[i]? with
    | none => exact viaExit
    | some s =>
      refine ⟨mem_reach.2 (.inl ⟨{ s with referenced := true }, ?_, rfl, rfl⟩),
        ⟨ScopesGrow.set_referenced atI, fun _ => id⟩⟩
      obtain ⟨bound, _⟩ := List.getElem?_eq_some_iff.1 atI
      exact List.mem_set (by simpa using bound) _

theorem resolveAll_reach (env : Env) (targets : List LabelRef) (σ : State) :
    (∀ l ∈ ((targets.mapM (resolveBranch env)).run σ).1, l ∈ reach ((targets.mapM (resolveBranch env)).run σ).2) ∧
      Later σ ((targets.mapM (resolveBranch env)).run σ).2 := by
  induction targets generalizing σ with
  | nil => exact ⟨fun _ mem => absurd mem List.not_mem_nil, Later.refl σ⟩
  | cons t rest ih =>
    obtain ⟨first, toNext⟩ := resolveBranch_reach env t σ
    obtain ⟨others, toLast⟩ := ih ((resolveBranch env t).run σ).2
    simp only [List.mapM_cons, run_bind, run_pure]
    refine ⟨fun l mem => ?_, toNext.trans toLast⟩
    rcases List.mem_cons.1 mem with rfl | later
    · exact toLast.reach _ first
    · exact others l later

theorem forall₂_of_shapes {R : Scope → Scope → Prop} :
    ∀ {xs ys : List Scope}, ys.map Scope.shape = xs.map Scope.shape →
      (∀ s ∈ xs, ∀ s' ∈ ys, s'.shape = s.shape → R s s') → List.Forall₂ R xs ys
  | [], [], _, _ => .nil
  | s :: rest, s' :: rest', shapes, pointwise => by
    simp only [List.map_cons, List.cons.injEq] at shapes
    exact .cons (pointwise s (List.mem_cons_self ..) s' (List.mem_cons_self ..) shapes.1)
      (forall₂_of_shapes shapes.2 fun t mem t' mem' =>
        pointwise t (List.mem_cons_of_mem _ mem) t' (List.mem_cons_of_mem _ mem'))
  | [], _ :: _, shapes, _ => nomatch shapes
  | _ :: _, [], shapes, _ => nomatch shapes

/-- Between two states in step with the scan, a referenced scope stays referenced: its mark
stays. -/
theorem Synced.grow {σ σ' : State} {st st' : ScanState} {opened : List OpenScope} (synced : Synced σ st)
    (synced' : Synced σ' st') (grows : ScanGrows opened st st')
    (shapes : σ'.scopes.map Scope.shape = σ.scopes.map Scope.shape) : ScopesGrow σ.scopes σ'.scopes := by
  refine forall₂_of_shapes shapes fun s open_ s' open' shape => ⟨shape, fun ref => ?_⟩
  have sameView : s'.toOpen = s.toOpen := by rw [← Scope.toOpen_shape, shape, Scope.toOpen_shape]
  rw [synced'.referenced s' open', sameView]
  rw [synced.referenced s open_] at ref
  exact grows.marked ref

theorem later_lowerInstr (env : Env) (i : Instr) (σ : State) (st : ScanState) (synced : Synced σ st) :
    Later σ ((lowerInstr env i).run σ).2 :=
  ⟨synced.grow (lowerInstr_synced env i σ st synced) (Instr.scanNeeds_grows _ i st) (lowerInstr_shapes env i σ),
    (lowerInstr_labelRun env i σ).keepsExit⟩

theorem later_lowerList (env : Env) (is : List Instr) (σ : State) (st : ScanState) (synced : Synced σ st) :
    Later σ ((lowerList env is).run σ).2 :=
  ⟨synced.grow (lowerList_synced env is σ st synced) (Instr.scanNeedsList_grows _ is st) (lowerList_shapes env is σ),
    (lowerList_labelRun env is σ).keepsExit⟩

theorem labelRefsList_map_gotoIf (cond : Nat → Expr) (pairs : List (String × Nat)) :
    labelRefsList (pairs.map fun (l, i) => gotoIf (cond i) l) = pairs.map Prod.fst := by
  induction pairs with
  | nil => rfl
  | cons p rest ih => simp only [List.map_cons, labelRefsList, ih]; rfl

/-- A table dispatch jumps to its targets and its default. -/
theorem mem_labelRefs_tableDispatch {targets : List String} {default l : String} :
    l ∈ labelRefs (tableDispatch targets default) ↔ l ∈ targets ∨ l = default := by
  cases targets with
  | nil => simp [tableDispatch, gotoLabel, labelRefs]
  | cons first more =>
    simp only [tableDispatch, gotoLabel, labelRefs, labelRefsList, labelRefsOpt, labelRefsList_append,
      labelRefsList_map_gotoIf (fun i => .binary .eq (.ident "idx") (.int i)), List.zipIdx_map_fst,
      List.mem_append, List.mem_cons, List.not_mem_nil, or_false]
    constructor
    · rintro (here | inTargets | here)
      · exact .inr here
      · exact .inl inTargets
      · exact .inr here
    · rintro (inTargets | here)
      · exact .inr (.inl inTargets)
      · exact .inl here

/-- The jumps of statements lowered up to a state go to labels placed in their own statement
list or to labels placed around them. -/
def JumpsClosed (σ : State) (out : List Stmt) : Prop :=
  JumpsWithinList (ownLabels out ++ reach σ) out

namespace JumpsClosed

variable {σ σ₁ σ₂ : State} {out xs ys : List Stmt}

theorem of_refs (targets : ∀ l ∈ labelRefsList out, l ∈ reach σ) : JumpsClosed σ out :=
  JumpsWithinList.of_refs out fun l mem => List.mem_append_right _ (targets l mem)

theorem plain (noRefs : labelRefsList out = []) : JumpsClosed σ out :=
  JumpsWithinList.of_refs_nil noRefs

theorem append (first : JumpsClosed σ₁ xs) (second : JumpsClosed σ₂ ys) (later : Later σ₁ σ₂) :
    JumpsClosed σ₂ (xs ++ ys) := by
  unfold JumpsClosed at *
  rw [jumpsWithinList_append, ownLabels_append]
  constructor
  · refine JumpsWithinList.mono (fun l mem => ?_) xs first
    rcases List.mem_append.1 mem with own | around
    · exact List.mem_append_left _ (List.mem_append_left _ own)
    · exact List.mem_append_right _ (later.reach l around)
  · refine JumpsWithinList.mono (fun l mem => ?_) ys second
    rcases List.mem_append.1 mem with own | around
    · exact List.mem_append_left _ (List.mem_append_right _ own)
    · exact List.mem_append_right _ around

/-- Closing a scope: a jump to it from inside goes to a label it places itself. -/
theorem scope {s : Scope} {rest : List Scope} {inner close : List Stmt} (start : List Stmt)
    (body : JumpsClosed σ₂ inner)
    (closing : σ₂.scopes = s :: rest)
    (placed : s.referenced = true → s.branchTarget ∈ ownLabels start ++ ownLabels close)
    (startPlain : labelRefsList start = []) (closePlain : labelRefsList close = []) :
    JumpsClosed { σ₂ with scopes := rest } (start ++ inner ++ close) := by
  unfold JumpsClosed at *
  rw [jumpsWithinList_append, jumpsWithinList_append]
  refine ⟨⟨JumpsWithinList.of_refs_nil startPlain, ?_⟩, JumpsWithinList.of_refs_nil closePlain⟩
  refine JumpsWithinList.mono (fun l mem => ?_) inner body
  simp only [ownLabels_append, List.mem_append] at mem placed ⊢
  rcases mem with own | around
  · exact .inl (.inl (.inr own))
  · rcases mem_reach.1 around with ⟨t, open_, ref, rfl⟩ | made
    · rw [closing] at open_
      rcases List.mem_cons.1 open_ with rfl | outer
      · rcases placed ref with atStart | atClose
        · exact .inl (.inl (.inl atStart))
        · exact .inl (.inr atClose)
      · exact .inr (mem_reach.2 (.inl ⟨t, outer, ref, rfl⟩))
    · exact .inr (mem_reach.2 (.inr made))

/-- The statements of an `if` after its condition: the pop, then the conditional whose arms
jump within the labels they place and the labels placed around. -/
theorem conditional {σt σe : State} {t e : List Stmt} (thenJumps : JumpsClosed σt t) (elseJumps : JumpsClosed σe e)
    (later : Later σt σe) (c : Expr) : JumpsClosed σe [popTo 1, .ite c t (some e)] := by
  unfold JumpsClosed at *
  refine ⟨trivial, ⟨?_, ?_⟩, trivial⟩
  · refine JumpsWithinList.mono (fun l mem => ?_) t thenJumps
    rcases List.mem_append.1 mem with own | around
    · exact List.mem_append_right _ own
    · exact List.mem_append_left _ (List.mem_append_right _ (later.reach l around))
  · refine JumpsWithinList.mono (fun l mem => ?_) e elseJumps
    rcases List.mem_append.1 mem with own | around
    · exact List.mem_append_right _ own
    · exact List.mem_append_left _ (List.mem_append_right _ around)

theorem conditionalNone {t : List Stmt} (thenJumps : JumpsClosed σ t) (c : Expr) :
    JumpsClosed σ [popTo 1, .ite c t none] := by
  unfold JumpsClosed at *
  refine ⟨trivial, ⟨?_, trivial⟩, trivial⟩
  refine JumpsWithinList.mono (fun l mem => ?_) t thenJumps
  rcases List.mem_append.1 mem with own | around
  · exact List.mem_append_right _ own
  · exact List.mem_append_left _ (List.mem_append_right _ around)

theorem goto {l : String} (mem : l ∈ reach σ) : JumpsClosed σ [.gotoLabel l] :=
  of_refs fun _ ref => List.mem_singleton.1 ref ▸ mem

theorem gotoIf {l : String} (mem : l ∈ reach σ) (c : Expr) : JumpsClosed σ [popTo 1, gotoIf c l] :=
  of_refs fun _ ref => List.mem_singleton.1 ref ▸ mem

theorem dispatch {labels : List String} {d : String} (targets : ∀ l ∈ labels, l ∈ reach σ)
    (dflt : d ∈ reach σ) (assign : Stmt) (noRefs : labelRefs assign = []) :
    JumpsClosed σ [popTo 1, assign, tableDispatch labels d] := by
  refine of_refs fun l ref => ?_
  simp only [labelRefsList, noRefs, List.nil_append, List.append_nil] at ref
  rcases mem_labelRefs_tableDispatch.1 ref with inLabels | rfl
  · exact targets l inLabels
  · exact dflt

end JumpsClosed

/-- A branch to a block or an `if` goes to its end label. -/
theorem Scope.branchTarget_of_notLoop {s : Scope} (notLoop : s.kind ≠ .loop) : s.branchTarget = s.endLabel := by
  unfold Scope.branchTarget
  split
  · contradiction
  · rfl

/-- A block or an `if` that a branch went to places its end label when it closes. -/
theorem endTarget_placed (env : Env) {s : Scope} (notLoop : s.kind ≠ .loop) (ref : s.referenced = true) :
    s.branchTarget ∈ ownLabels (if endPlaced env s then [.label s.endLabel] else []) := by
  have placed : endPlaced env s = true := by
    unfold endPlaced
    split
    · contradiction
    · simp [ref]
  rw [if_pos placed, Scope.branchTarget_of_notLoop notLoop]
  exact List.mem_singleton_self _

/-- A loop that a branch went to was marked by the scan, so its start label is needed. -/
theorem loopStart_needed {env : Env} {σ : State} {st : ScanState} (synced : Synced σ st)
    (within : st.MarksWithin env.needs) {s : Scope} (open_ : s ∈ σ.scopes) (loop : s.kind = .loop)
    (ref : s.referenced = true) : env.needs.loopStarts.contains s.ordinal = true := by
  have marked := synced.referenced s open_
  rw [ref] at marked
  simp only [ScanState.marked, Scope.toOpen, loop] at marked
  exact List.contains_iff_mem.2 (within true s.ordinal (List.contains_iff_mem.1 marked.symm))

mutual

/-- The jumps of a lowered instruction go to labels placed in its own statements or around it,
when the scan marks only scopes the function's needs list. -/
theorem lowerInstr_jumpsClosed (env : Env) : ∀ (i : Instr) (σ : State) (st : ScanState), Synced σ st →
    (Instr.scanNeeds (σ.scopes.map Scope.toOpen) i st).MarksWithin env.needs →
    JumpsClosed ((lowerInstr env i).run σ).2 ((lowerInstr env i).run σ).1
  | .const ty literal, σ, _, _, _ => JumpsClosed.plain (plain_lowerConst env ty literal σ).noRefs
  | .raw name, σ, _, _, _ => JumpsClosed.plain (plain_lowerRaw env name σ).noRefs
  | .localGet _, _, _, _, _ | .nop, _, _, _, _ | .unreachable, _, _, _, _ => JumpsClosed.plain rfl
  | .localSet _ value, σ, st, synced, within | .localTee _ value, σ, st, synced, within => by
    simp only [lowerInstr, run_bind, run_pure]
    cases value with
    | none => exact JumpsClosed.plain rfl
    | some i =>
      exact (lowerInstr_jumpsClosed env i σ st synced within).append (JumpsClosed.plain rfl)
        (Later.quiet (quiet_ensurePopArgs 1) _)
  | .unary op operand, σ, st, synced, within => by
    simp only [lowerInstr, run_bind, run_pure]
    cases operand with
    | none => exact JumpsClosed.plain (plain_lowerUnary env op _).noRefs
    | some i =>
      exact (lowerInstr_jumpsClosed env i σ st synced within).append
        (JumpsClosed.plain (plain_lowerUnary env op _).noRefs) (Later.quiet (quiet_lowerUnary env op) _)
  | .binary op left right, σ, st, synced, within => by
    simp only [lowerInstr, run_bind, run_pure]
    have post : ∀ σ' : State, JumpsClosed ((lowerBinary env op).run σ').2 ((lowerBinary env op).run σ').1 :=
      fun σ' => JumpsClosed.plain (plain_lowerBinary env op σ').noRefs
    cases left <;> cases right
    case none.none => exact post σ
    case none.some r =>
      exact (lowerInstr_jumpsClosed env r σ st synced within).append (post _) (Later.quiet (quiet_lowerBinary env op) _)
    case some.none l =>
      simp only [lowerOpt, run_pure, List.append_nil]
      exact (lowerInstr_jumpsClosed env l σ st synced within).append (post _) (Later.quiet (quiet_lowerBinary env op) _)
    case some.some l r =>
      have leftWithin := (Instr.scanNeeds_grows _ r _).marksWithin within
      have rightWithin : (Instr.scanNeeds (((lowerInstr env l).run σ).2.scopes.map Scope.toOpen) r
          (Instr.scanNeeds (σ.scopes.map Scope.toOpen) l st)).MarksWithin env.needs := by
        rw [toOpens_of_shapes (lowerInstr_shapes env l σ)]
        exact within
      have operands := (lowerInstr_jumpsClosed env l σ st synced leftWithin).append
        (lowerInstr_jumpsClosed env r _ _ (lowerInstr_synced env l σ st synced) rightWithin)
        (later_lowerInstr env r _ _ (lowerInstr_synced env l σ st synced))
      exact operands.append (post _) (Later.quiet (quiet_lowerBinary env op) _)
  | .call _ ops, σ, st, synced, within | .select ops, σ, st, synced, within => by
    simp only [lowerInstr, run_bind, run_pure]
    exact (lowerList_jumpsClosed env ops σ st synced within).append (JumpsClosed.plain rfl) (Later.refl _)
  | .structural _ ops, σ, st, synced, within => lowerList_jumpsClosed env ops σ st synced within
  | .ret ops, σ, st, synced, within => by
    simp only [lowerInstr, run_bind, run_pure]
    exact (lowerList_jumpsClosed env ops σ st synced within).append
      (JumpsClosed.goto (exitLabel_mem_reach _)) (Later.exitLabel _)
  | .br target ops, σ, st, synced, within => by
    simp only [lowerInstr, run_bind, run_pure]
    have resolved := resolveBranch_reach env target ((lowerList env ops).run σ).2
    exact (lowerList_jumpsClosed env ops σ st synced (ScanGrows.mark _ target _ |>.marksWithin within)).append
      (JumpsClosed.goto resolved.1) resolved.2
  | .brIf target ops, σ, st, synced, within => by
    simp only [lowerInstr, run_bind, run_pure]
    have resolved := resolveBranch_reach env target ((lowerList env ops).run σ).2
    exact (lowerList_jumpsClosed env ops σ st synced (ScanGrows.mark _ target _ |>.marksWithin within)).append
      (JumpsClosed.gotoIf resolved.1 tmp1IsTrue) resolved.2
  | .brTable ops targets default, σ, st, synced, within => by
    simp only [lowerInstr, run_bind, run_pure]
    obtain ⟨labels, toAll⟩ := resolveAll_reach env targets ((lowerList env ops).run σ).2
    obtain ⟨dflt, toLast⟩ := resolveBranch_reach env default ((targets.mapM (resolveBranch env)).run ((lowerList env ops).run σ).2).2
    exact (lowerList_jumpsClosed env ops σ st synced (ScanGrows.marks _ (targets ++ [default]) _ |>.marksWithin within)).append
      (JumpsClosed.dispatch (fun l mem => toLast.reach l (labels l mem)) dflt _ rfl) (toAll.trans toLast)
  | .block name body, σ, st, synced, within => by
    have entered := synced.enter env name .block
    have inside := lowerList_jumpsClosed env body _ _ entered (by rw [synced.toOpens_enter]; exact within)
    obtain ⟨s, rest, closing, shape, -⟩ :=
      scopes_cons_of_entered (enterScope_scopes env name .block σ) (lowerList_shapes env body _)
    simp only [lowerInstr, run_bind, run_pure, leaveScope_run closing]
    have notLoop : s.kind ≠ .loop := by rw [Scope.kind_of_shape shape]; nofun
    exact JumpsClosed.scope [] inside closing (fun ref => List.mem_append_right _ (endTarget_placed env notLoop ref))
      rfl (by split <;> rfl)
  | .loop name body, σ, st, synced, within => by
    have entered := synced.enter env name .loop
    have inside := lowerList_jumpsClosed env body _ _ entered (by rw [synced.toOpens_enter]; exact within)
    have afterBody := lowerList_synced env body _ _ entered
    rw [synced.toOpens_enter] at afterBody
    obtain ⟨s, rest, closing, shape, -⟩ :=
      scopes_cons_of_entered (enterScope_scopes env name .loop σ) (lowerList_shapes env body _)
    simp only [lowerInstr, run_bind, run_pure, leaveScope_run closing]
    refine JumpsClosed.scope _ inside closing (fun ref => List.mem_append_left _ ?_) (by split <;> rfl)
      (by split <;> rfl)
    have needed := loopStart_needed afterBody within (by rw [closing]; exact List.mem_cons_self ..)
      (Scope.kind_of_shape shape) ref
    have ordinal : s.ordinal = σ.nextOrdinal := by
      have same := congrArg Scope.ordinal shape
      exact same
    rw [ordinal] at needed
    rw [enterScope_run, Scope.branchTarget_of_shape shape]
    simp only [openedScope, Option.filter, needed, Bool.or_true, if_true]
    exact List.mem_singleton_self _
  | .ite name cond thenBody elseBody, σ, st, synced, within => by
    have afterCond := lowerList_synced env cond σ st synced
    have condOpens := toOpens_of_shapes (lowerList_shapes env cond σ)
    have entered := afterCond.enter env name .ite
    have opened := enterScope_scopes env name .ite ((lowerList env cond).run σ).2
    have sameExit := enterScope_exitLabel env name .ite ((lowerList env cond).run σ).2
    have inThen := lowerList_synced env thenBody _ _ entered
    cases elseBody with
    | none =>
      have thenJumps := lowerList_jumpsClosed env thenBody _ _ entered
        (by rw [afterCond.toOpens_enter, condOpens]; exact within)
      have condJumps := lowerList_jumpsClosed env cond σ st synced
        ((ScanGrows.enter false name (Instr.scanNeedsList_grows _ thenBody _)).marksWithin within)
      obtain ⟨s, rest, closing, shape, -⟩ := scopes_cons_of_entered opened (lowerList_shapes env thenBody _)
      have notLoop : s.kind ≠ .loop := by rw [Scope.kind_of_shape shape]; nofun
      simp only [lowerInstr, run_bind, run_pure, leaveScope_run closing]
      rw [List.append_assoc]
      exact condJumps.append
        (JumpsClosed.scope [] (JumpsClosed.conditionalNone thenJumps tmp1IsTrue) closing
          (fun ref => List.mem_append_right _ (endTarget_placed env notLoop ref)) rfl (by split <;> rfl))
        (Later.close (later_lowerList env thenBody _ _ entered) opened sameExit closing)
    | some b =>
      have thenJumps := lowerList_jumpsClosed env thenBody _ _ entered
        (by rw [afterCond.toOpens_enter, condOpens]; exact (Instr.scanNeedsList_grows _ b _).marksWithin within)
      have elseJumps := lowerList_jumpsClosed env b _ _ inThen
        (by rw [toOpens_of_shapes (lowerList_shapes env thenBody _), afterCond.toOpens_enter, condOpens]; exact within)
      have condJumps := lowerList_jumpsClosed env cond σ st synced
        ((ScanGrows.enter false name ((Instr.scanNeedsList_grows _ thenBody _).trans
          (Instr.scanNeedsList_grows _ b _))).marksWithin within)
      obtain ⟨s, rest, closing, shape, -⟩ :=
        scopes_cons_of_entered opened ((lowerList_shapes env b _).trans (lowerList_shapes env thenBody _))
      have notLoop : s.kind ≠ .loop := by rw [Scope.kind_of_shape shape]; nofun
      have elseLater := later_lowerList env b _ _ inThen
      simp only [lowerInstr, run_bind, run_pure, run_map, leaveScope_run closing]
      rw [List.append_assoc]
      exact condJumps.append
        (JumpsClosed.scope [] (JumpsClosed.conditional thenJumps elseJumps elseLater tmp1IsTrue) closing
          (fun ref => List.mem_append_right _ (endTarget_placed env notLoop ref)) rfl (by split <;> rfl))
        (Later.close ((later_lowerList env thenBody _ _ entered).trans elseLater) opened sameExit closing)

theorem lowerList_jumpsClosed (env : Env) : ∀ (is : List Instr) (σ : State) (st : ScanState), Synced σ st →
    (Instr.scanNeedsList (σ.scopes.map Scope.toOpen) is st).MarksWithin env.needs →
    JumpsClosed ((lowerList env is).run σ).2 ((lowerList env is).run σ).1
  | [], _, _, _, _ => JumpsClosed.plain rfl
  | i :: rest, σ, st, synced, within => by
    have restWithin : (Instr.scanNeedsList (((lowerInstr env i).run σ).2.scopes.map Scope.toOpen) rest
        (Instr.scanNeeds (σ.scopes.map Scope.toOpen) i st)).MarksWithin env.needs := by
      rw [toOpens_of_shapes (lowerInstr_shapes env i σ)]
      exact within
    simp only [lowerList, run_bind, run_pure]
    exact (lowerInstr_jumpsClosed env i σ st synced ((Instr.scanNeedsList_grows _ rest _).marksWithin within)).append
      (lowerList_jumpsClosed env rest _ _ (lowerInstr_synced env i σ st synced) restWithin)
      (later_lowerList env rest _ _ (lowerInstr_synced env i σ st synced))

end

end Lower

end WasmBoogie
