import WasmBoogie.Proofs.Lower.Scopes
import WasmBoogie.Proofs.Boogie.Jumps

namespace WasmBoogie

open Boogie Boogie.Stmt

namespace Lower

/-- The number of a numbered label: the digits at its end. -/
def labelNumber (l : String) : Nat :=
  Nat.ofDigitChars 10 (l.toList.reverse.takeWhile Char.isDigit).reverse 0

/-- The base of a numbered label: what stands before the underscore and the digits at its end. -/
def labelStem (l : String) : String :=
  String.ofList ((l.toList.reverse.dropWhile Char.isDigit).drop 1).reverse

theorem reverse_toList_numberedLabel (base : String) (n : Nat) :
    (numberedLabel base n).toList.reverse = (Nat.toDigits 10 n).reverse ++ '_' :: base.toList.reverse := by
  have plain : ∀ s : String, toString s = s := fun _ => rfl
  simp [numberedLabel, plain, Nat.toString_eq_repr, Nat.toList_repr]

theorem isDigit_of_mem_reverse_toDigits (n : Nat) : ∀ c ∈ (Nat.toDigits 10 n).reverse, c.isDigit = true :=
  fun _ mem => Nat.isDigit_of_mem_toDigits (by decide) (by decide) (List.mem_reverse.1 mem)

@[simp] theorem labelNumber_numberedLabel (base : String) (n : Nat) : labelNumber (numberedLabel base n) = n := by
  rw [labelNumber, reverse_toList_numberedLabel,
    List.takeWhile_append_of_pos (isDigit_of_mem_reverse_toDigits n)]
  simp [List.takeWhile, Nat.ofDigitChars_ten_toDigits]

@[simp] theorem labelStem_numberedLabel (base : String) (n : Nat) : labelStem (numberedLabel base n) = base := by
  rw [labelStem, reverse_toList_numberedLabel,
    List.dropWhile_append_of_pos (isDigit_of_mem_reverse_toDigits n)]
  simp [List.dropWhile]

/-- Labels with pairwise distinct numbers, all from the part `(lo, hi]` of the label sequence. -/
structure Numbered (lo hi : Nat) (labels : List String) : Prop where
  nodup : (labels.map labelNumber).Nodup
  range : ∀ l ∈ labels, lo < labelNumber l ∧ labelNumber l ≤ hi

namespace Numbered

variable {lo mid hi : Nat} {xs ys : List String}

theorem nil (lo hi : Nat) : Numbered lo hi [] := ⟨List.nodup_nil, fun _ mem => nomatch mem⟩

theorem labels_nodup (h : Numbered lo hi xs) : xs.Nodup := List.Nodup.of_map _ h.nodup

theorem append (first : Numbered lo mid xs) (second : Numbered mid hi ys) (lower : lo ≤ mid)
    (upper : mid ≤ hi) : Numbered lo hi (xs ++ ys) where
  nodup := by
    rw [List.map_append, List.nodup_append]
    refine ⟨first.nodup, second.nodup, ?_⟩
    intro a inFirst b inSecond same
    obtain ⟨x, x_mem, rfl⟩ := List.mem_map.1 inFirst
    obtain ⟨y, y_mem, rfl⟩ := List.mem_map.1 inSecond
    have below := (first.range x x_mem).2
    have above := (second.range y y_mem).1
    omega
  range l mem := by
    rcases List.mem_append.1 mem with inFirst | inSecond
    · have := first.range l inFirst
      constructor <;> omega
    · have := second.range l inSecond
      constructor <;> omega

theorem perm (h : Numbered lo hi xs) (p : xs.Perm ys) : Numbered lo hi ys where
  nodup := (p.map labelNumber).nodup_iff.1 h.nodup
  range l mem := h.range l (p.mem_iff.2 mem)

theorem sublist (h : Numbered lo hi xs) (s : ys.Sublist xs) : Numbered lo hi ys where
  nodup := (s.map labelNumber).nodup h.nodup
  range l mem := h.range l (s.subset mem)

theorem widen {lo' hi' : Nat} (h : Numbered lo hi xs) (lower : lo' ≤ lo) (upper : hi ≤ hi') :
    Numbered lo' hi' xs where
  nodup := h.nodup
  range l mem := by
    have := h.range l mem
    constructor <;> omega

theorem single {lo hi n : Nat} (base : String) (above : lo < n) (upTo : n ≤ hi) :
    Numbered lo hi [numberedLabel base n] where
  nodup := List.nodup_singleton _
  range l mem := by
    rw [List.mem_singleton.1 mem, labelNumber_numberedLabel]
    exact ⟨above, upTo⟩

end Numbered

theorem labelDefsList_eq_nil {ss : List Stmt} (none_placed : ∀ s ∈ ss, labelDefs s = []) : labelDefsList ss = [] := by
  induction ss with
  | nil => rfl
  | cons s rest ih =>
    rw [labelDefsList, none_placed s (List.mem_cons_self ..), ih fun t mem => none_placed t (List.mem_cons_of_mem _ mem)]
    rfl

/-- The jump of a table branch places no label. -/
@[simp] theorem labelDefs_tableDispatch (targets : List String) (default : String) :
    labelDefs (tableDispatch targets default) = [] := by
  cases targets with
  | nil => rfl
  | cons first more =>
    simp only [tableDispatch, labelDefs, labelDefsOpt, List.append_eq_nil_iff]
    refine ⟨rfl, labelDefsList_eq_nil ?_⟩
    intro s mem
    rcases List.mem_append.1 mem with chained | last
    · obtain ⟨_, _, rfl⟩ := List.mem_map.1 chained
      rfl
    · rw [List.mem_singleton.1 last]
      rfl

/-- Statements that place no label and jump nowhere. -/
structure Plain (ss : List Stmt) : Prop where
  noDefs : labelDefsList ss = []
  noRefs : labelRefsList ss = []

namespace Plain

theorem append {xs ys : List Stmt} (first : Plain xs) (second : Plain ys) : Plain (xs ++ ys) where
  noDefs := by rw [labelDefsList_append, first.noDefs, second.noDefs]; rfl
  noRefs := by rw [labelRefsList_append, first.noRefs, second.noRefs]; rfl

theorem of_mem {ss : List Stmt} (each : ∀ s ∈ ss, labelDefs s = [] ∧ labelRefs s = []) : Plain ss where
  noDefs := labelDefsList_eq_nil fun s mem => (each s mem).1
  noRefs := by
    induction ss with
    | nil => rfl
    | cons s rest ih =>
      rw [labelRefsList, (each s (List.mem_cons_self ..)).2, ih fun t mem => each t (List.mem_cons_of_mem _ mem)]
      rfl

end Plain

/-- The statements of an operator, a constant or a raw instruction place no label and do not
jump. -/
theorem plain_lowerUnary (env : Env) (op : String) (σ : State) : Plain ((lowerUnary env op).run σ).1 := by
  simp only [lowerUnary]
  cases UnaryKind.ofName op <;> exact ⟨rfl, rfl⟩

theorem plain_lowerBinary (env : Env) (op : String) (σ : State) : Plain ((lowerBinary env op).run σ).1 := by
  simp only [lowerBinary]
  cases BinaryKind.ofName op <;> exact ⟨rfl, rfl⟩

theorem plain_lowerConst (env : Env) (ty : NumType) (literal : String) (σ : State) :
    Plain ((lowerInstr env (.const ty literal)).run σ).1 := by
  simp only [lowerInstr]
  split <;> exact ⟨rfl, rfl⟩

theorem plain_lowerRaw (env : Env) (name : String) (σ : State) : Plain ((lowerInstr env (.raw name)).run σ).1 := by
  simp only [lowerInstr]
  split <;> exact ⟨rfl, rfl⟩

/-- The exit label a run made: the one it ends with, if it started without one. -/
def madeExit (σ σ' : State) : List String :=
  match σ.exitLabel with
  | some _ => []
  | none => σ'.exitLabel.toList

theorem madeExit_trans {σ σ₁ σ₂ : State} (kept : ∀ l, σ.exitLabel = some l → σ₁.exitLabel = some l)
    (kept' : ∀ l, σ₁.exitLabel = some l → σ₂.exitLabel = some l) :
    madeExit σ σ₂ = madeExit σ σ₁ ++ madeExit σ₁ σ₂ := by
  unfold madeExit
  cases first : σ.exitLabel with
  | some l => simp [kept l first]
  | none =>
    cases second : σ₁.exitLabel with
    | none => rfl
    | some l => simp [kept' l second]

/-- The bases of the labels a scope takes when it opens: a start and an end base for a loop,
an end base for a block or an `if`. -/
def openingBases (label : Option String) : ScopeKind → List String
  | .loop => [labelBase label "start" "loop_start", labelBase label "end" "loop_end"]
  | kind => [labelBase label "end" kind.endFallback]

/-- What a run of the lowering from `σ` to `σ'` that emits `out` does with labels. It takes
numbers from the label sequence only forward and keeps an exit label once made. The labels it
places, and the exit label it makes, have pairwise distinct numbers from the part of the
sequence it took. Without pruning, the bases of the labels it places are `bases`. -/
structure LabelRun (env : Env) (bases : List String) (σ : State) (out : List Stmt) (σ' : State) : Prop where
  advances : σ.nextLabel ≤ σ'.nextLabel
  keepsExit : ∀ l, σ.exitLabel = some l → σ'.exitLabel = some l
  numbered : Numbered σ.nextLabel σ'.nextLabel (labelDefsList out ++ madeExit σ σ')
  stems : env.options.pruneUnusedLabels = false → ((labelDefsList out).map labelStem).Perm bases

namespace LabelRun

variable {env : Env} {bases bases' : List String} {σ σ₁ σ₂ : State} {out out' : List Stmt}

/-- A step that places no label and leaves the label sequence and the exit label alone. -/
theorem same (sequence : σ'.nextLabel = σ.nextLabel) (exit : σ'.exitLabel = σ.exitLabel)
    (none_placed : labelDefsList out = []) : LabelRun env [] σ out σ' where
  advances := Nat.le_of_eq sequence.symm
  keepsExit l h := exit.trans h
  numbered := by
    have noExit : madeExit σ σ' = [] := by
      unfold madeExit
      split
      · rfl
      · rename_i unset
        rw [exit, unset]
        rfl
    rw [none_placed, noExit]
    exact Numbered.nil _ _
  stems _ := by rw [none_placed]; exact List.Perm.refl _

theorem quiet {α : Type} {x : LowerM α} (q : Quiet x) (σ : State) (none_placed : labelDefsList out = []) :
    LabelRun env [] σ out (x.run σ).2 := by
  obtain ⟨_, _, run⟩ := q σ
  exact same (by rw [run]) (by rw [run]) none_placed

theorem append (first : LabelRun env bases σ out σ₁) (second : LabelRun env bases' σ₁ out' σ₂) :
    LabelRun env (bases ++ bases') σ (out ++ out') σ₂ where
  advances := Nat.le_trans first.advances second.advances
  keepsExit l h := second.keepsExit l (first.keepsExit l h)
  numbered := by
    rw [madeExit_trans first.keepsExit second.keepsExit, labelDefsList_append]
    have regroup : (labelDefsList out ++ labelDefsList out' ++ (madeExit σ σ₁ ++ madeExit σ₁ σ₂)).Perm
        (labelDefsList out ++ madeExit σ σ₁ ++ (labelDefsList out' ++ madeExit σ₁ σ₂)) := by
      simpa only [List.append_assoc] using
        (List.perm_append_comm_assoc (labelDefsList out') (madeExit σ σ₁) (madeExit σ₁ σ₂)).append_left
          (labelDefsList out)
    exact (first.numbered.append second.numbered first.advances second.advances).perm regroup.symm
  stems unpruned := by
    rw [labelDefsList_append, List.map_append]
    exact (first.stems unpruned).append (second.stems unpruned)

theorem append_plain (first : LabelRun env bases σ out σ₁) (second : LabelRun env [] σ₁ out' σ₂) :
    LabelRun env bases σ (out ++ out') σ₂ :=
  List.append_nil bases ▸ first.append second

/-- Only the labels a run places matter, not the statements around them. -/
theorem of_defs (h : LabelRun env bases σ out σ') (same_defs : labelDefsList out' = labelDefsList out) :
    LabelRun env bases σ out' σ' where
  advances := h.advances
  keepsExit := h.keepsExit
  numbered := same_defs ▸ h.numbered
  stems := same_defs ▸ h.stems

/-- Only the label sequence and the exit label of the start state matter. -/
theorem of_start {σ₀ : State} (h : LabelRun env bases σ₀ out σ') (sequence : σ₀.nextLabel = σ.nextLabel)
    (exit : σ₀.exitLabel = σ.exitLabel) : LabelRun env bases σ out σ' where
  advances := sequence ▸ h.advances
  keepsExit l found := h.keepsExit l (exit ▸ found)
  numbered := by
    have made : madeExit σ σ' = madeExit σ₀ σ' := by simp only [madeExit, exit]
    rw [made, ← sequence]
    exact h.numbered
  stems := h.stems

/-- The statements of an `if` after its condition: a statement with no label, then the
conditional with its arms. -/
theorem conditional {t : List Stmt} (thenRun : LabelRun env bases σ t σ₁) (pop : Stmt) (c : Expr)
    (popDefs : labelDefs pop = []) : LabelRun env (bases ++ []) σ [pop, .ite c t none] σ₁ :=
  (thenRun.append (LabelRun.same rfl rfl rfl : LabelRun env [] σ₁ [] σ₁)).of_defs
    (by simp [labelDefsList, labelDefs, labelDefsOpt, popDefs])

theorem conditionalElse {t e : List Stmt} (thenRun : LabelRun env bases σ t σ₁)
    (elseRun : LabelRun env bases' σ₁ e σ₂) (pop : Stmt) (c : Expr) (popDefs : labelDefs pop = []) :
    LabelRun env (bases ++ bases') σ [pop, .ite c t (some e)] σ₂ :=
  (thenRun.append elseRun).of_defs (by simp [labelDefsList, labelDefs, labelDefsOpt, popDefs])

end LabelRun

theorem labelRun_exitLabel (env : Env) (σ : State) {out : List Stmt} (none_placed : labelDefsList out = []) :
    LabelRun env [] σ out (exitLabel.run σ).2 := by
  rw [exitLabel_run]
  cases made : σ.exitLabel with
  | some _ => exact LabelRun.same rfl rfl none_placed
  | none =>
    refine ⟨Nat.le_succ _, ?_, ?_, ?_⟩
    · intro _ found
      rw [made] at found
      cases found
    · simp only [madeExit, made, none_placed, Option.toList_some, List.nil_append]
      exact Numbered.single _ (Nat.lt_succ_self _) (Nat.le_refl _)
    · intro _
      rw [none_placed]
      rfl

theorem labelRun_resolveBranch (env : Env) (target : LabelRef) (σ : State) {out : List Stmt}
    (none_placed : labelDefsList out = []) : LabelRun env [] σ out ((resolveBranch env target).run σ).2 := by
  obtain ⟨diagnostics, run⟩ := resolveBranch_run env target σ
  have viaExit : LabelRun env [] σ out (exitLabel.run { σ with diagnostics }).2 :=
    (labelRun_exitLabel env { σ with diagnostics } none_placed).of_start rfl rfl
  rw [run]
  split
  · split
    · exact LabelRun.same rfl rfl none_placed
    · exact viaExit
  · exact viaExit

theorem labelRun_resolveAll (env : Env) (targets : List LabelRef) (σ : State) {out : List Stmt}
    (none_placed : labelDefsList out = []) :
    LabelRun env [] σ out ((targets.mapM (resolveBranch env)).run σ).2 := by
  induction targets generalizing σ with
  | nil => exact LabelRun.same rfl rfl none_placed
  | cons t rest ih =>
    simp only [List.mapM_cons, run_bind, run_pure]
    exact ((labelRun_resolveBranch env t σ (rfl : labelDefsList [] = [])).append_plain (ih _)).of_defs rfl

theorem scopes_cons_of_shapes {scopes : List Scope} {s : Scope} {rest : List Scope}
    (shapes : scopes.map Scope.shape = (s :: rest).map Scope.shape) :
    ∃ s' rest', scopes = s' :: rest' ∧ s'.shape = s.shape ∧ rest'.map Scope.shape = rest.map Scope.shape := by
  cases scopes with
  | nil => nomatch shapes
  | cons s' rest' =>
    simp only [List.map_cons, List.cons.injEq] at shapes
    exact ⟨s', rest', rfl, shapes.1, shapes.2⟩

/-- The scopes after a body lowered in a scope opened on top of `σ`: that scope, then the scopes of
`σ`, up to referenced flags. -/
theorem scopes_cons_of_entered {σ σ₁ σ₂ : State} {opened : Scope} (entered : σ₁.scopes = opened :: σ.scopes)
    (shapes : σ₂.scopes.map Scope.shape = σ₁.scopes.map Scope.shape) :
    ∃ s rest, σ₂.scopes = s :: rest ∧ s.shape = opened.shape ∧ rest.map Scope.shape = σ.scopes.map Scope.shape := by
  rw [entered] at shapes
  exact scopes_cons_of_shapes shapes

theorem Scope.endLabel_of_shape {s t : Scope} (h : s.shape = t.shape) : s.endLabel = t.endLabel := by
  have same := congrArg Scope.endLabel h
  exact same

/-- Without pruning every end label is placed. -/
theorem endPlaced_of_unpruned {env : Env} (unpruned : env.options.pruneUnusedLabels = false) (s : Scope) :
    endPlaced env s = true := by
  unfold endPlaced
  cases s.kind <;> simp [unpruned]

theorem labelDefs_placedIf_sublist (placed : Bool) (l : String) :
    (labelDefsList (if placed then [Stmt.label l] else [])).Sublist [l] := by
  cases placed
  · exact List.nil_sublist _
  · exact List.Sublist.refl _

/-- The labels a scope places itself, at most a start label when it opens and its end label when
it closes, are numbered from the part of the sequence it took when it opened. -/
theorem scope_own_numbered (env : Env) (σ : State) (label : Option String) (kind : ScopeKind)
    {start : List Stmt} (startDefs : labelDefsList start = ((enterScope env label kind).run σ).1.toList)
    {s : Scope} (shape : s.shape = (openedScope σ label kind).shape) :
    Numbered σ.nextLabel (σ.nextLabel + kind.labelCount)
      (labelDefsList start ++ labelDefsList (if endPlaced env s then [.label s.endLabel] else [])) := by
  have closeSub := labelDefs_placedIf_sublist (endPlaced env s) s.endLabel
  rw [startDefs, enterScope_run, Scope.endLabel_of_shape shape] at *
  cases kind with
  | loop =>
    simp only [openedScope, ScopeKind.labelCount] at closeSub ⊢
    have startSub : ((some (numberedLabel (labelBase label "start" "loop_start") (σ.nextLabel + 1))).filter
        (fun _ => !env.options.pruneUnusedLabels || env.needs.loopStarts.contains σ.nextOrdinal)).toList.Sublist
        [numberedLabel (labelBase label "start" "loop_start") (σ.nextLabel + 1)] := by
      simp only [Option.filter]
      split <;> simp
    have first : Numbered σ.nextLabel (σ.nextLabel + 1)
        [numberedLabel (labelBase label "start" "loop_start") (σ.nextLabel + 1)] :=
      Numbered.single _ (by omega) (by omega)
    have second : Numbered (σ.nextLabel + 1) (σ.nextLabel + 2)
        [numberedLabel (labelBase label "end" "loop_end") (σ.nextLabel + 2)] :=
      Numbered.single _ (by omega) (by omega)
    exact (first.append second (by omega) (by omega)).sublist (startSub.append closeSub)
  | block | ite =>
    simp only [openedScope, ScopeKind.labelCount, Option.filter_none, Option.toList_none,
      List.nil_append] at closeSub ⊢
    exact (Numbered.single _ (by omega) (by omega)).sublist closeSub

/-- A scope's run: it opens, takes its labels, its inside runs, and it closes, placing its start
label when it opens and its end label when it closes. -/
theorem LabelRun.scope {env : Env} {label : Option String} {kind : ScopeKind} {σ σ₂ : State}
    {inside : List Stmt} {bases : List String} (start : List Stmt)
    (startDefs : labelDefsList start = ((enterScope env label kind).run σ).1.toList)
    (body : LabelRun env bases ((enterScope env label kind).run σ).2 inside σ₂)
    (shapes : σ₂.scopes.map Scope.shape = ((enterScope env label kind).run σ).2.scopes.map Scope.shape) :
    LabelRun env (openingBases label kind ++ bases) σ (start ++ inside ++ ((leaveScope env).run σ₂).1)
      ((leaveScope env).run σ₂).2 := by
  rw [enterScope_run] at shapes
  obtain ⟨s, rest, closing, shape, -⟩ := scopes_cons_of_shapes shapes
  have own := scope_own_numbered env σ label kind startDefs shape
  rw [enterScope_run] at startDefs body
  rw [leaveScope_run closing]
  refine ⟨?_, body.keepsExit, ?_, ?_⟩
  · have := body.advances
    exact Nat.le_trans (Nat.le_add_right _ _) this
  · have regroup : (labelDefsList start ++ labelDefsList inside ++
        labelDefsList (if endPlaced env s then [.label s.endLabel] else []) ++ madeExit σ { σ₂ with scopes := rest }).Perm
        (labelDefsList start ++ labelDefsList (if endPlaced env s then [.label s.endLabel] else []) ++
          (labelDefsList inside ++ madeExit σ { σ₂ with scopes := rest })) := by
      simpa only [List.append_assoc] using (List.perm_append_comm_assoc (labelDefsList inside) _ _).append_left _
    rw [labelDefsList_append, labelDefsList_append]
    exact (own.append body.numbered (Nat.le_add_right _ _) body.advances).perm regroup.symm
  · intro unpruned
    rw [labelDefsList_append, labelDefsList_append, startDefs, endPlaced_of_unpruned unpruned, if_pos rfl,
      Scope.endLabel_of_shape shape, List.map_append, List.map_append]
    have insideStems := body.stems unpruned
    cases kind with
    | loop =>
      simp only [openedScope, Option.filter, unpruned, Bool.not_false, Bool.true_or, if_true,
        Option.toList_some, labelDefsList, labelDefs, List.map_cons, List.map_nil, labelStem_numberedLabel,
        List.append_nil, List.cons_append, List.nil_append, openingBases]
      exact ((insideStems.append_right _).trans (List.perm_append_singleton _ _)).cons _
    | block | ite =>
      simp only [openedScope, Option.filter, Option.toList_none, labelDefsList, labelDefs, List.map_cons,
        List.map_nil, labelStem_numberedLabel, List.append_nil, List.nil_append, openingBases]
      exact (insideStems.append_right _).trans (List.perm_append_singleton _ _)

end Lower

namespace Instr

mutual

/-- The bases of the labels that the scopes of an instruction take, scope by scope in the order
they open. -/
def scopeBases : Instr → List String
  | .localSet _ value | .localTee _ value | .unary _ value => scopeBasesOpt value
  | .binary _ left right => scopeBasesOpt left ++ scopeBasesOpt right
  | .call _ ops | .select ops | .br _ ops | .brIf _ ops | .brTable ops _ _ | .ret ops
  | .structural _ ops => scopeBasesList ops
  | .block name body => Lower.openingBases name .block ++ scopeBasesList body
  | .loop name body => Lower.openingBases name .loop ++ scopeBasesList body
  | .ite name cond thenBody elseBody =>
    scopeBasesList cond ++ (Lower.openingBases name .ite ++ (scopeBasesList thenBody ++ match elseBody with
      | some b => scopeBasesList b
      | none => []))
  | .const .. | .localGet _ | .nop | .unreachable | .raw _ => []

/-- The bases of the labels that the scopes of an optional operand take. -/
def scopeBasesOpt : Option Instr → List String
  | some i => scopeBases i
  | none => []

/-- The bases of the labels that the scopes of instructions take, in order. -/
def scopeBasesList : List Instr → List String
  | [] => []
  | i :: rest => scopeBases i ++ scopeBasesList rest

end

end Instr

namespace Lower

mutual

/-- Lowering an instruction places labels numbered from the part of the sequence it takes, with
the bases of its scopes when nothing is pruned. -/
theorem lowerInstr_labelRun (env : Env) : ∀ (i : Instr) (σ : State),
    LabelRun env i.scopeBases σ ((lowerInstr env i).run σ).1 ((lowerInstr env i).run σ).2
  | .const ty literal, σ => LabelRun.quiet (quiet_lowerConst env ty literal) σ (plain_lowerConst env ty literal σ).noDefs
  | .raw name, σ => LabelRun.quiet (quiet_lowerRaw env name) σ (plain_lowerRaw env name σ).noDefs
  | .localGet _, _ | .nop, _ | .unreachable, _ => LabelRun.same rfl rfl rfl
  | .localSet _ value, σ | .localTee _ value, σ => by
    simp only [lowerInstr, run_bind, run_pure]
    exact (lowerOpt_labelRun env value σ).append_plain (LabelRun.quiet (quiet_ensurePopArgs 1) _ (by rfl))
  | .unary op operand, σ => by
    simp only [lowerInstr, run_bind, run_pure]
    exact (lowerOpt_labelRun env operand σ).append_plain
      (LabelRun.quiet (quiet_lowerUnary env op) _ (plain_lowerUnary env op _).noDefs)
  | .binary op left right, σ => by
    simp only [lowerInstr, run_bind, run_pure]
    exact ((lowerOpt_labelRun env left σ).append (lowerOpt_labelRun env right _)).append_plain
      (LabelRun.quiet (quiet_lowerBinary env op) _ (plain_lowerBinary env op _).noDefs)
  | .call _ ops, σ | .select ops, σ => by
    simp only [lowerInstr, run_bind, run_pure]
    exact (lowerList_labelRun env ops σ).append_plain (LabelRun.same rfl rfl (by rfl))
  | .structural _ body, σ => lowerList_labelRun env body σ
  | .block name body, σ => by
    simp only [lowerInstr, run_bind, run_pure]
    exact LabelRun.scope [] rfl (lowerList_labelRun env body _) (lowerList_shapes env body _)
  | .loop name body, σ => by
    simp only [lowerInstr, run_bind, run_pure]
    refine LabelRun.scope _ ?_ (lowerList_labelRun env body _) (lowerList_shapes env body _)
    split <;> next placed => rw [placed]; rfl
  | .ite name cond thenBody none, σ => by
    simp only [lowerInstr, run_bind, run_pure, Instr.scopeBases]
    exact ((lowerList_labelRun env cond σ).append (LabelRun.scope [] rfl
      ((lowerList_labelRun env thenBody _).conditional (popTo 1) tmp1IsTrue rfl) (lowerList_shapes env thenBody _))).of_defs
      (by simp only [labelDefsList_append, List.append_assoc, List.nil_append])
  | .ite name cond thenBody (some b), σ => by
    simp only [lowerInstr, run_bind, run_pure, run_map, Instr.scopeBases]
    exact ((lowerList_labelRun env cond σ).append (LabelRun.scope [] rfl
      ((lowerList_labelRun env thenBody _).conditionalElse (lowerList_labelRun env b _) (popTo 1) tmp1IsTrue rfl)
      ((lowerList_shapes env b _).trans (lowerList_shapes env thenBody _)))).of_defs
      (by simp only [labelDefsList_append, List.append_assoc, List.nil_append])
  | .br target ops, σ | .brIf target ops, σ => by
    simp only [lowerInstr, run_bind, run_pure]
    exact (lowerList_labelRun env ops σ).append_plain (labelRun_resolveBranch env target _ (by rfl))
  | .brTable ops targets default, σ => by
    simp only [lowerInstr, run_bind, run_pure]
    exact (lowerList_labelRun env ops σ).append_plain
      ((labelRun_resolveAll env targets _ (by rfl : labelDefsList ([] : List Stmt) = [])).append_plain
        (labelRun_resolveBranch env default _ (by simp [labelDefsList, labelDefs, popTo, callProc])))
  | .ret ops, σ => by
    simp only [lowerInstr, run_bind, run_pure]
    exact (lowerList_labelRun env ops σ).append_plain (labelRun_exitLabel env _ (by rfl))

theorem lowerOpt_labelRun (env : Env) : ∀ (i : Option Instr) (σ : State),
    LabelRun env (Instr.scopeBasesOpt i) σ ((lowerOpt env i).run σ).1 ((lowerOpt env i).run σ).2
  | some i, σ => lowerInstr_labelRun env i σ
  | none, _ => LabelRun.same rfl rfl rfl

theorem lowerList_labelRun (env : Env) : ∀ (is : List Instr) (σ : State),
    LabelRun env (Instr.scopeBasesList is) σ ((lowerList env is).run σ).1 ((lowerList env is).run σ).2
  | [], _ => LabelRun.same rfl rfl rfl
  | i :: rest, σ => by
    simp only [lowerList, run_bind, run_pure]
    exact (lowerInstr_labelRun env i σ).append (lowerList_labelRun env rest _)

end

end Lower

end WasmBoogie
