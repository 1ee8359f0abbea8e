import WasmBoogie.Proofs.Lower.StackMoves
import WasmBoogie.Proofs.Lower.BranchTargets
import WasmBoogie.Proofs.Lower.Calling

namespace WasmBoogie.Lower

open Boogie Boogie.Stmt

/-- The height of a label, read from its number in the function's label sequence. -/
def byNumber (heights : Nat → Int) (l : String) : Int :=
  heights (labelNumber l)

/-- The open scopes of the lowering stand for the enclosing scopes of the count typing: the same
names, innermost first, each with its branch target at the scope's height above `base`. -/
def Frames (heights : Nat → Int) (base : Int) (scopes : List Scope) (labels : List LabelHeight) : Prop :=
  List.Forall₂ (fun s l => s.label = l.name ∧ heights (labelNumber s.branchTarget) = base + l.height) scopes labels

/-- The exit label, once made, stands at `h`. -/
def ExitAt (heights : Nat → Int) (h : Int) (σ : State) : Prop :=
  ∀ l, σ.exitLabel = some l → heights (labelNumber l) = h

/-- Two assignments of heights agree on the label numbers above `lo` up to `hi`. -/
def Agrees (heights part : Nat → Int) (lo hi : Nat) : Prop :=
  ∀ k, lo < k → k ≤ hi → heights k = part k

/-- The heights of `first` up to `mid`, and of `second` above it. -/
def splice (first : Nat → Int) (mid : Nat) (second : Nat → Int) (k : Nat) : Int :=
  if k ≤ mid then first k else second k

namespace Agrees

variable {heights first second : Nat → Int} {lo mid hi : Nat}

theorem left (agrees : Agrees heights (splice first mid second) lo hi) (upper : mid ≤ hi) :
    Agrees heights first lo mid := fun k above below => by
  rw [agrees k above (Nat.le_trans below upper), splice, if_pos below]

theorem right (agrees : Agrees heights (splice first mid second) lo hi) (lower : lo ≤ mid) :
    Agrees heights second mid hi := fun k above below => by
  rw [agrees k (Nat.lt_of_le_of_lt lower above) below, splice, if_neg (Nat.not_le.2 above)]

end Agrees

namespace Frames

variable {heights : Nat → Int} {base : Int} {scopes : List Scope} {labels : List LabelHeight}

/-- Only the shapes of the open scopes matter, not which of them branches have referenced. -/
theorem of_shapes {scopes' : List Scope} (frames : Frames heights base scopes labels)
    (shapes : scopes'.map Scope.shape = scopes.map Scope.shape) : Frames heights base scopes' labels := by
  induction frames generalizing scopes' with
  | nil =>
    rw [List.map_nil, List.map_eq_nil_iff] at shapes
    subst shapes
    exact .nil
  | @cons s l _ _ related _ ih =>
    obtain ⟨s', rest', rfl, shape, restShapes⟩ := scopes_cons_of_shapes shapes
    have sameLabel : s'.label = s.label := by simpa using congrArg Scope.label shape
    exact .cons ⟨sameLabel.trans related.1, by rw [Scope.branchTarget_of_shape shape, related.2]⟩ (ih restShapes)

theorem names (frames : Frames heights base scopes labels) : scopes.map Scope.label = labels.map LabelHeight.name := by
  induction frames with
  | nil => rfl
  | cons related _ ih => rw [List.map_cons, List.map_cons, related.1, ih]

/-- A branch target selects the open scope at the position where it selects an enclosing scope. -/
theorem scopeIndex_eq (frames : Frames heights base scopes labels) (target : LabelRef) :
    scopeIndex scopes target = labelIndex labels target := by
  cases target with
  | depth d => simp only [scopeIndex, labelIndex, frames.length_eq]
  | name n =>
    have viaScopes : scopes.findIdx? (·.label == some n) = (scopes.map Scope.label).findIdx? (· == some n) := by
      rw [List.findIdx?_map]
      rfl
    have viaLabels : labels.findIdx? (·.name == some n) = (labels.map LabelHeight.name).findIdx? (· == some n) := by
      rw [List.findIdx?_map]
      rfl
    rw [scopeIndex, labelIndex, viaScopes, viaLabels, frames.names]

theorem get (frames : Frames heights base scopes labels) {i : Nat} {s : Scope} (found : scopes[i]? = some s) :
    ∃ l, labels[i]? = some l ∧ heights (labelNumber s.branchTarget) = base + l.height := by
  induction frames generalizing i with
  | nil => cases found
  | @cons s₀ l₀ _ _ related _ ih =>
    cases i with
    | zero =>
      obtain rfl : s₀ = s := Option.some.inj found
      exact ⟨l₀, rfl, related.2⟩
    | succ i => exact ih found

/-- A branch goes to a label at the height of the target it selects, the exit label's height
standing for the function's when it selects no scope. -/
theorem branchLabel_height {σ : State} {results : Nat} {target : LabelRef} (frames : Frames heights base σ.scopes labels)
    (exit : selectedScope σ target = none → heights (labelNumber (exitLabel.run σ).1) = base + results) :
    heights (labelNumber (branchLabel σ target)) = base + targetHeight results labels target := by
  have index := frames.scopeIndex_eq target
  have viaSelected : branchLabel σ target = (selectedScope σ target).elim (exitLabel.run σ).1 Scope.branchTarget := rfl
  cases selected : selectedScope σ target with
  | some s =>
    obtain ⟨i, atIndex, found⟩ := Option.bind_eq_some_iff.1 selected
    obtain ⟨l, labelFound, height⟩ := frames.get found
    rw [viaSelected, selected, Option.elim_some, height, targetHeight_of_index (index.symm.trans atIndex) labelFound]
  | none =>
    rw [viaSelected, selected, Option.elim_none, exit selected]
    cases atIndex : labelIndex labels target with
    | none => rw [targetHeight_of_none atIndex]
    | some i =>
      have absent : σ.scopes[i]? = none := by simpa [selectedScope, index, atIndex] using selected
      have labelAbsent : labels[i]? = none := by
        rw [List.getElem?_eq_none_iff] at absent ⊢
        rw [← frames.length_eq]
        exact absent
      simp [targetHeight, atIndex, labelAbsent]

end Frames

/-- A run that takes its stretch of the label sequence at one height makes the exit label, if it
makes it, at that height. -/
theorem exitAt_of_labelRun {env : Env} {bases : List String} {σ σ' : State} {out : List Stmt}
    {heights : Nat → Int} {h : Int} (run : LabelRun env bases σ out σ') (exit : ExitAt heights h σ)
    (fresh : Agrees heights (fun _ => h) σ.nextLabel σ'.nextLabel) : ExitAt heights h σ' := by
  intro l found
  cases made : σ.exitLabel with
  | some l₀ =>
    have kept := run.keepsExit l₀ made
    rw [found, Option.some.injEq] at kept
    subst kept
    exact exit l made
  | none =>
    have mem : l ∈ labelDefsList out ++ madeExit σ σ' := by simp [madeExit, made, found]
    obtain ⟨above, below⟩ := run.numbered.range l mem
    exact fresh _ above below

section Lowering

variable (p : Program) (entry base : Int) (results : Nat)

/-- What a run of the lowering from `σ` to `σ'` that emits `out` does for an instruction typed
from `h` to `h'` under the enclosing scopes `labels`. It takes label numbers only forward and
keeps the open scopes; and the numbers it takes can be given heights under which `out` moves the
pointer from `base + h` to `base + h'` and jumps at the heights of its labels, for any heights of
the labels around it that match the enclosing scopes and put the exit label at the function's
height. The exit label it may make is at that height too. -/
structure Lowered (labels : List LabelHeight) (σ : State) (out : List Stmt) (σ' : State) (h h' : Nat) : Prop where
  advances : σ.nextLabel ≤ σ'.nextLabel
  shapes : σ'.scopes.map Scope.shape = σ.scopes.map Scope.shape
  typed : ∃ part : Nat → Int, ∀ heights, Agrees heights part σ.nextLabel σ'.nextLabel →
    Frames heights base σ.scopes labels → ExitAt heights (base + results) σ →
      Heights p (Framed entry) (byNumber heights) out (base + h) (base + h') ∧ ExitAt heights (base + results) σ'

end Lowering

namespace Lowered

variable {p : Program} {entry base : Int} {results : Nat} {labels : List LabelHeight} {σ σ₁ σ₂ : State}
  {xs ys : List Stmt} {h h₁ h₂ h₃ : Nat}

theorem nil (σ : State) (h : Nat) : Lowered p entry base results labels σ [] σ h h :=
  ⟨Nat.le_refl _, rfl, fun _ => 0, fun _ _ _ exit => ⟨.nil, exit⟩⟩

/-- Two runs in sequence: each types its statements on its own stretch of the label sequence. -/
theorem both (first : Lowered p entry base results labels σ xs σ₁ h h₁)
    (second : Lowered p entry base results labels σ₁ ys σ₂ h₂ h₃) :
    ∃ part : Nat → Int, ∀ heights, Agrees heights part σ.nextLabel σ₂.nextLabel →
      Frames heights base σ.scopes labels → ExitAt heights (base + results) σ →
        Heights p (Framed entry) (byNumber heights) xs (base + h) (base + h₁) ∧
          Heights p (Framed entry) (byNumber heights) ys (base + h₂) (base + h₃) ∧
            ExitAt heights (base + results) σ₂ := by
  obtain ⟨part₁, typed₁⟩ := first.typed
  obtain ⟨part₂, typed₂⟩ := second.typed
  refine ⟨splice part₁ σ₁.nextLabel part₂, fun heights agrees frames exit => ?_⟩
  obtain ⟨xsTyped, exit₁⟩ := typed₁ heights (agrees.left second.advances) frames exit
  obtain ⟨ysTyped, exit₂⟩ := typed₂ heights (agrees.right first.advances) (frames.of_shapes first.shapes) exit₁
  exact ⟨xsTyped, ysTyped, exit₂⟩

theorem append (first : Lowered p entry base results labels σ xs σ₁ h h₁)
    (second : Lowered p entry base results labels σ₁ ys σ₂ h₁ h₂) :
    Lowered p entry base results labels σ (xs ++ ys) σ₂ h h₂ := by
  obtain ⟨part, typed⟩ := first.both second
  refine ⟨Nat.le_trans first.advances second.advances, second.shapes.trans first.shapes, part, ?_⟩
  intro heights agrees frames exit
  obtain ⟨xsTyped, ysTyped, exit₂⟩ := typed heights agrees frames exit
  exact ⟨xsTyped.append ysTyped, exit₂⟩

/-- The same run types other statements that the typing of its own gives. -/
theorem wrap {out out' : List Stmt} (lowered : Lowered p entry base results labels σ out σ₁ h h₁)
    (retyped : ∀ H, Heights p (Framed entry) H out (base + h) (base + h₁) →
      Heights p (Framed entry) H out' (base + h₂) (base + h₃)) :
    Lowered p entry base results labels σ out' σ₁ h₂ h₃ := by
  obtain ⟨part, typed⟩ := lowered.typed
  refine ⟨lowered.advances, lowered.shapes, part, fun heights agrees frames exit => ?_⟩
  obtain ⟨outTyped, exit₁⟩ := typed heights agrees frames exit
  exact ⟨retyped _ outTyped, exit₁⟩

/-- A step that only records helpers and diagnostics, and emits statements that move the pointer
whatever the heights of labels. -/
theorem quiet {α : Type} {x : LowerM α} (q : Quiet x) (σ : State) {out : List Stmt} {k k' : Int}
    (typed : ∀ H, Heights p (Framed entry) H out k k') (start : k = base + h) (finish : k' = base + h₁) :
    Lowered p entry base results labels σ out (x.run σ).2 h h₁ := by
  refine ⟨Nat.le_of_eq (q.nextLabel σ).symm, by rw [q.scopes σ], fun _ => 0, fun heights _ _ exit => ?_⟩
  subst start finish
  refine ⟨typed _, fun l found => ?_⟩
  rw [q.exitLabel σ] at found
  exact exit l found

/-- Statements emitted without a change of state. -/
theorem stays (σ : State) {out : List Stmt} {k k' : Int} (typed : ∀ H, Heights p (Framed entry) H out k k')
    (start : k = base + h) (finish : k' = base + h₁) : Lowered p entry base results labels σ out σ h h₁ :=
  quiet (Quiet.pure ()) σ typed start finish

/-- A step that resolves branch targets: the exit label it may make is numbered from the stretch
it takes, which gets the function's height. -/
theorem resolving {env : Env} {bases : List String} {out : List Stmt} (run : LabelRun env bases σ out σ₁)
    (shapes : σ₁.scopes.map Scope.shape = σ.scopes.map Scope.shape)
    (typed : ∀ heights, Frames heights base σ.scopes labels → ExitAt heights (base + results) σ₁ →
      Heights p (Framed entry) (byNumber heights) out (base + h) (base + h₁)) :
    Lowered p entry base results labels σ out σ₁ h h₁ := by
  refine ⟨run.advances, shapes, fun _ => base + results, fun heights fresh frames exit => ?_⟩
  have exit₁ := exitAt_of_labelRun run exit fresh
  exact ⟨typed heights frames exit₁, exit₁⟩

end Lowered

@[simp] theorem openedScope_label (σ : State) (label : Option String) (kind : ScopeKind) :
    (openedScope σ label kind).label = label := by
  cases kind <;> rfl

theorem openedScope_branchTarget_number (σ : State) (label : Option String) (kind : ScopeKind) :
    labelNumber (openedScope σ label kind).branchTarget = σ.nextLabel + 1 := by
  cases kind <;> simp [openedScope, Scope.branchTarget]

theorem openedScope_endLabel_number (σ : State) (label : Option String) (kind : ScopeKind) :
    labelNumber (openedScope σ label kind).endLabel = σ.nextLabel + kind.labelCount := by
  cases kind <;> simp [openedScope, ScopeKind.labelCount]

/-- The start label a loop places is its branch target. -/
theorem loopStart_branchTarget {env : Env} {label : Option String} {σ : State} {l : String}
    (placed : ((enterScope env label .loop).run σ).1 = some l) : (openedScope σ label .loop).branchTarget = l := by
  rw [enterScope_run, Option.filter_eq_some_iff] at placed
  obtain ⟨start, -⟩ := placed
  simpa [openedScope, Scope.branchTarget] using start

namespace Lowered

variable {p : Program} {entry base : Int} {results : Nat} {labels : List LabelHeight} {h h' : Nat}

/-- A scope's run: its inside runs under the scope, and its end label, if placed, stands at the
height the scope ends with. The scope's branch target is its first label; its end label is the
same for a block or an `if`, which is why those end at the height a branch to them carries. -/
theorem scope {env : Env} {label : Option String} {kind : ScopeKind} {σ σ₂ : State} {inside : List Stmt}
    {height : Nat} (ends : kind ≠ .loop → height = h')
    (body : Lowered p entry base results (⟨label, height⟩ :: labels) ((enterScope env label kind).run σ).2 inside σ₂ h h') :
    Lowered p entry base results labels σ (inside ++ ((leaveScope env).run σ₂).1) ((leaveScope env).run σ₂).2 h h' := by
  have entered := enterScope_scopes env label kind σ
  obtain ⟨s, rest, closing, shape, restShapes⟩ := scopes_cons_of_entered entered body.shapes
  have sequence : ((enterScope env label kind).run σ).2.nextLabel = σ.nextLabel + kind.labelCount := by
    rw [enterScope_run]
  have counted : 1 ≤ kind.labelCount := by cases kind <;> simp [ScopeKind.labelCount]
  have advanced := body.advances
  rw [sequence] at advanced
  obtain ⟨part, typed⟩ := body.typed
  rw [leaveScope_run closing]
  refine ⟨Nat.le_trans (Nat.le_add_right _ _) advanced, restShapes, fun k => if k = σ.nextLabel + 1 then base + height
    else if k = σ.nextLabel + kind.labelCount then base + h' else part k, ?_⟩
  intro heights agrees frames exit
  change Agrees heights _ σ.nextLabel σ₂.nextLabel at agrees
  have target : heights (σ.nextLabel + 1) = base + height := by
    rw [agrees _ (by omega) (by omega)]
    simp
  have finish : heights (σ.nextLabel + kind.labelCount) = base + h' := by
    rw [agrees _ (by omega) (by omega)]
    cases kind with
    | loop => simp [ScopeKind.labelCount]
    | block | ite => simp [ScopeKind.labelCount, ends (by decide)]
  have inner : Agrees heights part ((enterScope env label kind).run σ).2.nextLabel σ₂.nextLabel := by
    intro k above below
    rw [sequence] at above
    rw [agrees k (by omega) below]
    simp only [if_neg (show k ≠ σ.nextLabel + 1 by omega), if_neg (show k ≠ σ.nextLabel + kind.labelCount by omega)]
  have framesInside : Frames heights base ((enterScope env label kind).run σ).2.scopes (⟨label, height⟩ :: labels) := by
    rw [entered]
    exact .cons ⟨openedScope_label σ label kind, by rw [openedScope_branchTarget_number, target]⟩ frames
  have exitInside : ExitAt heights (base + results) ((enterScope env label kind).run σ).2 := by
    intro l found
    rw [enterScope_exitLabel] at found
    exact exit l found
  obtain ⟨insideTyped, exitAfter⟩ := typed heights inner framesInside exitInside
  refine ⟨insideTyped.append ?_, exitAfter⟩
  split
  · exact .singleton (.label (by rw [byNumber, Scope.endLabel_of_shape shape, openedScope_endLabel_number, finish]))
  · exact .nil

/-- A loop's start label, placed first inside the loop, stands at the height of the loop's branch
target. -/
theorem startLabel {name : Option String} {σ : State} {s : Scope} {rest : List Scope} (opened : σ.scopes = s :: rest)
    {l : String} (target : s.branchTarget = l) (h : Nat) :
    Lowered p entry base results (⟨name, h⟩ :: labels) σ [.label l] σ h h := by
  refine ⟨Nat.le_refl _, rfl, fun _ => 0, fun heights _ frames exit => ⟨.singleton (.label ?_), exit⟩⟩
  rw [opened] at frames
  cases frames with
  | cons related _ => rw [byNumber, ← target, related.2]

variable {σ σ₁ σ₂ : State} {t e : List Stmt}

/-- The statements of an `if` after its condition: the pop of the condition and the conditional,
whose arms run in turn. -/
theorem conditional {arities : List Nat} (runtime : Runtime p arities) (c : Expr)
    (thenArm : Lowered p entry base results labels σ t σ₁ h h') (elseArm : Lowered p entry base results labels σ₁ e σ₂ h h') :
    Lowered p entry base results labels σ [popTo 1, .ite c t (some e)] σ₂ (h + 1) h' := by
  obtain ⟨part, typed⟩ := thenArm.both elseArm
  refine ⟨Nat.le_trans thenArm.advances elseArm.advances, elseArm.shapes.trans thenArm.shapes, part, ?_⟩
  intro heights agrees frames exit
  obtain ⟨thenTyped, elseTyped, exit₂⟩ := typed heights agrees frames exit
  exact ⟨.cons (popTo_heights runtime (by simp) (by omega)) (.singleton (.ite thenTyped elseTyped)), exit₂⟩

/-- The statements of a table branch after its operands: the pop of the selector into `idx` and
the dispatch, every label of which stands at the height left below the selector. -/
theorem dispatch {arities : List Nat} (runtime : Runtime p arities) (env : Env) (targets : List LabelRef)
    (dflt : LabelRef) (σ : State) {h₁ : Nat} (inRange : ∀ t ∈ targets, targetHeight results labels t = h₁)
    (atDefault : targetHeight results labels dflt = h₁) :
    Lowered p entry base results labels σ
      [popTo 1, .assign (.ident "idx") (.call "real_to_int" [tmp 1]),
        tableDispatch ((targets.mapM (resolveBranch env)).run σ).1
          ((resolveBranch env dflt).run ((targets.mapM (resolveBranch env)).run σ).2).1]
      ((resolveBranch env dflt).run ((targets.mapM (resolveBranch env)).run σ).2).2 (h₁ + 1) h' := by
  obtain ⟨resolved, same⟩ := resolveAll_run env targets σ
  have last := @labelRun_resolveBranch env dflt ((targets.mapM (resolveBranch env)).run σ).2
    [popTo 1, .assign (.ident "idx") (.call "real_to_int" [tmp 1]),
      tableDispatch ((targets.mapM (resolveBranch env)).run σ).1
        ((resolveBranch env dflt).run ((targets.mapM (resolveBranch env)).run σ).2).1]
    (by simp [labelDefsList, labelDefs, popTo, callProc])
  refine resolving ((@labelRun_resolveAll env targets σ [] rfl).append_plain last)
    ((resolveBranch_shapes env dflt _).trans (resolveAll_shapes env targets σ)) fun heights frames exit => ?_
  have toExit : ∀ t ∈ targets, selectedScope σ t = none →
      heights (labelNumber (exitLabel.run σ).1) = base + results := fun t within unselected =>
    exit _ (last.keepsExit _ (resolveAll_exit env targets σ t within unselected))
  have defaultToExit : selectedScope σ dflt = none → heights (labelNumber (exitLabel.run σ).1) = base + results :=
    fun unselected => by
      rw [← same.exit]
      exact exit _ (resolveBranch_exit env (selectedScope_none_of_same same unselected))
  refine .cons (popTo_heights runtime (by simp) (by omega))
    (.cons (.step (moves_assign spare_idx _) rfl) (.singleton (tableDispatch_heights (h := base + h₁) ?_ ?_)))
  · intro l mem
    rw [resolved] at mem
    obtain ⟨t, within, rfl⟩ := List.mem_map.1 mem
    rw [byNumber, frames.branchLabel_height (toExit t within), inRange t within]
  · rw [resolveBranch_result, branchLabel_of_same same, byNumber, frames.branchLabel_height defaultToExit, atDefault]

end Lowered

theorem goto_heights {p : Program} {F : Store → Prop} {H : String → Int} {l : String} {k k' : Int} (at_ : H l = k) :
    Heights p F H [.gotoLabel l] k k' :=
  .singleton (.goto fun _ named => by simp_all)

/-- A resolved branch leaves at the height of its target. -/
theorem resolveBranch_height (env : Env) {σ : State} {target : LabelRef} {heights : Nat → Int} {base : Int}
    {results : Nat} {labels : List LabelHeight} (frames : Frames heights base σ.scopes labels)
    (exit : ExitAt heights (base + results) ((resolveBranch env target).run σ).2) :
    byNumber heights ((resolveBranch env target).run σ).1 = base + targetHeight results labels target := by
  rw [resolveBranch_result, byNumber]
  exact frames.branchLabel_height fun unselected => exit _ (resolveBranch_exit env unselected)

theorem lowerRaw_heights {p : Program} {entry : Int} {H : String → Int} (env : Env) (name : String) (σ : State)
    (k : Int) : Heights p (Framed entry) H ((lowerInstr env (.raw name)).run σ).1 k k := by
  simp only [lowerInstr]
  split
  · exact .nil
  · simp only [run_bind, note_run, run_pure]
    exact .singleton (.step (moves_comment _) rfl)

section Instructions

variable {p : Program} {arities : List Nat} {entry base : Int} {calls : String → Option (Nat × Nat)}
  {results : Nat} (runtime : Runtime p arities) (one : 1 ∈ arities) (env : Env)
  (balanced : ∀ t params returns, calls t = some (params, returns) → Balances p (env.callees.resolve t) params returns)
include runtime one balanced

set_option linter.unusedSectionVars false

mutual

theorem lowerInstr_lowered : ∀ {labels : List LabelHeight} {h : Nat} {i : Instr} {h' : Nat},
    Instr.CountTyped calls results labels h i h' → ∀ σ : State,
      Lowered p entry base results labels σ ((lowerInstr env i).run σ).1 ((lowerInstr env i).run σ).2 h h'
  | _, _, _, _, .const, σ =>
    Lowered.quiet (quiet_lowerConst env _ _) σ (fun _ => lowerConst_heights runtime env _ _ σ _) rfl (by omega)
  | _, _, _, _, .localGet, σ => by
    simp only [lowerInstr, run_pure]
    exact Lowered.stays σ (fun _ => .singleton (push_heights runtime _ rfl)) rfl (by omega)
  | _, _, _, _, .localSet value, σ => by
    simp only [lowerInstr, run_bind, run_pure]
    exact (lowerOpt_lowered value σ).append (Lowered.quiet (quiet_ensurePopArgs 1) _
      (fun _ => .singleton (.step (moves_popArgs runtime one (by simpa using spare_localName _ _) rfl) rfl))
      rfl (by omega))
  | _, _, _, _, .localTee value, σ => by
    simp only [lowerInstr, run_bind, run_pure]
    exact (lowerOpt_lowered value σ).append (Lowered.quiet (quiet_ensurePopArgs 1) _
      (fun _ => .cons (.step (moves_popArgs runtime one (by simpa using spare_localName _ _) rfl) rfl)
        (.singleton (push_heights runtime _ rfl))) rfl (by omega))
  | _, _, _, _, .call found args, σ => by
    simp only [lowerInstr, run_bind, run_pure]
    exact (lowerList_lowered args σ).append
      (Lowered.stays _ (fun _ => .singleton (.step (moves_contract (balanced _ _ _ found) rfl) rfl)) rfl (by omega))
  | _, _, _, _, @Instr.CountTyped.unary _ _ _ _ h' op _ operand, σ => by
    simp only [lowerInstr, run_bind, run_pure]
    exact (lowerOpt_lowered operand σ).append (Lowered.quiet (quiet_lowerUnary env op) _
      (fun _ => lowerUnary_heights runtime env op _ (base + h')) (by omega) (by omega))
  | _, _, _, _, @Instr.CountTyped.binary _ _ _ _ _ h' op _ _ left right, σ => by
    simp only [lowerInstr, run_bind, run_pure]
    exact ((lowerOpt_lowered left σ).append (lowerOpt_lowered right _)).append (Lowered.quiet (quiet_lowerBinary env op) _
      (fun _ => lowerBinary_heights runtime env op _ (base + h')) (by omega) (by omega))
  | _, _, _, _, @Instr.CountTyped.select _ _ _ _ h' _ operands, σ => by
    simp only [lowerInstr, run_bind, run_pure]
    exact (lowerList_lowered operands σ).append
      (Lowered.stays _ (fun _ => select_heights runtime (base + h')) (by omega) (by omega))
  | _, _, _, _, .block body, σ => by
    simp only [lowerInstr, run_bind, run_pure]
    exact Lowered.scope (fun _ => rfl) (lowerList_lowered body _)
  | _, _, _, _, .loop body, σ => by
    simp only [lowerInstr, run_bind, run_pure]
    split
    · next l placed =>
      exact Lowered.scope (fun notLoop => absurd rfl notLoop)
        ((Lowered.startLabel (enterScope_scopes env _ .loop σ) (loopStart_branchTarget placed) _).append
          (lowerList_lowered body _))
    · exact Lowered.scope (fun notLoop => absurd rfl notLoop) ((Lowered.nil _ _).append (lowerList_lowered body _))
  | _, _, _, _, .structural body, σ => by
    simp only [lowerInstr]
    exact lowerList_lowered body σ
  | _, _, _, _, .ite cond thenBody elseBody, σ => by
    simp only [lowerInstr, run_bind, run_pure, run_map, List.append_assoc]
    exact (lowerList_lowered cond σ).append (Lowered.scope (fun _ => rfl)
      (Lowered.conditional runtime tmp1IsTrue (lowerList_lowered thenBody _) (lowerList_lowered elseBody _)))
  | _, _, _, _, .iteNoElse cond thenBody, σ => by
    simp only [lowerInstr, run_bind, run_pure, List.append_assoc]
    exact (lowerList_lowered cond σ).append (Lowered.scope (fun _ => rfl)
      ((lowerList_lowered thenBody _).wrap fun _ typed =>
        .cons (popTo_heights runtime (by simp) (by omega)) (.singleton (.iteNoElse typed))))
  | _, _, _, _, .br operands, σ => by
    simp only [lowerInstr, run_bind, run_pure]
    exact (lowerList_lowered operands σ).append (Lowered.resolving (labelRun_resolveBranch env _ _ rfl)
      (resolveBranch_shapes env _ _) fun _ frames exit => goto_heights (resolveBranch_height env frames exit))
  | _, _, _, _, .brIf operands atTarget, σ => by
    simp only [lowerInstr, run_bind, run_pure]
    exact (lowerList_lowered operands σ).append (Lowered.resolving (labelRun_resolveBranch env _ _ rfl)
      (resolveBranch_shapes env _ _) fun _ frames exit =>
        .cons (popTo_heights runtime (by simp) (by omega))
          (.singleton (gotoIf_heights (by rw [resolveBranch_height env frames exit, atTarget]))))
  | _, _, _, _, @Instr.CountTyped.brTable _ _ _ _ _ _ _ targets dflt operands inRange atDefault, σ => by
    simp only [lowerInstr, run_bind, run_pure]
    exact (lowerList_lowered operands σ).append (Lowered.dispatch runtime env targets dflt _ inRange atDefault)
  | _, _, _, _, .ret operands, σ => by
    simp only [lowerInstr, run_bind, run_pure]
    exact (lowerList_lowered operands σ).append (Lowered.resolving (labelRun_exitLabel env _ rfl)
      (by rw [exitLabel_scopes]) fun _ _ exit => goto_heights (exit _ (exitLabel_made_some _)))
  | _, _, _, _, .nop, σ => by
    simp only [lowerInstr, run_pure]
    exact Lowered.nil σ _
  | _, _, _, _, .unreachable, σ => by
    simp only [lowerInstr, run_pure]
    exact Lowered.stays σ (fun _ => .singleton (.step moves_assume_false rfl)) rfl rfl
  | _, _, _, _, .raw, σ => Lowered.quiet (quiet_lowerRaw env _) σ (fun _ => lowerRaw_heights env _ σ _) rfl rfl

theorem lowerOpt_lowered : ∀ {labels : List LabelHeight} {h : Nat} {i : Option Instr} {h' : Nat},
    Instr.CountTypedOpt calls results labels h i h' → ∀ σ : State,
      Lowered p entry base results labels σ ((lowerOpt env i).run σ).1 ((lowerOpt env i).run σ).2 h h'
  | _, _, _, _, .none, σ => Lowered.nil σ _
  | _, _, _, _, .some typed, σ => lowerInstr_lowered typed σ

theorem lowerList_lowered : ∀ {labels : List LabelHeight} {h : Nat} {is : List Instr} {h' : Nat},
    Instr.CountTypedList calls results labels h is h' → ∀ σ : State,
      Lowered p entry base results labels σ ((lowerList env is).run σ).1 ((lowerList env is).run σ).2 h h'
  | _, _, _, _, .nil, σ => Lowered.nil σ _
  | _, _, _, _, .cons first rest, σ => by
    simp only [lowerList, run_bind, run_pure]
    exact (lowerInstr_lowered first σ).append (lowerList_lowered rest _)

end

end Instructions

end WasmBoogie.Lower
