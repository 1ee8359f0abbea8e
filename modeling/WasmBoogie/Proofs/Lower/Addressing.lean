import WasmBoogie.Proofs.Lower.Scopes

namespace WasmBoogie

namespace LabelRef

/-- The target written as a depth when it is a name that one of the enclosing scope labels,
innermost first, carries; any other target as written. -/
def canonical (labels : List (Option String)) : LabelRef → LabelRef
  | .name n => match labels.findIdx? (· == some n) with
    | some d => .depth d
    | none => .name n
  | .depth d => .depth d

end LabelRef

namespace Instr

mutual

/-- Every branch target of an instruction in its canonical form, under the labels of the
enclosing scopes, innermost first. -/
def canonical (labels : List (Option String)) : Instr → Instr
  | .localSet slot value => .localSet slot (canonicalOpt labels value)
  | .localTee slot value => .localTee slot (canonicalOpt labels value)
  | .call target args => .call target (canonicalList labels args)
  | .unary op operand => .unary op (canonicalOpt labels operand)
  | .binary op left right => .binary op (canonicalOpt labels left) (canonicalOpt labels right)
  | .select operands => .select (canonicalList labels operands)
  | .block label body => .block label (canonicalList (label :: labels) body)
  | .loop label body => .loop label (canonicalList (label :: labels) body)
  | .structural head body => .structural head (canonicalList labels body)
  | .ite label cond thenBody elseBody =>
    .ite label (canonicalList labels cond) (canonicalList (label :: labels) thenBody) (match elseBody with
      | some b => some (canonicalList (label :: labels) b)
      | none => none)
  | .br target operands => .br (target.canonical labels) (canonicalList labels operands)
  | .brIf target operands => .brIf (target.canonical labels) (canonicalList labels operands)
  | .brTable operands targets default =>
    .brTable (canonicalList labels operands) (targets.map (LabelRef.canonical labels)) (default.canonical labels)
  | .ret operands => .ret (canonicalList labels operands)
  | .const ty literal => .const ty literal
  | .localGet slot => .localGet slot
  | .nop => .nop
  | .unreachable => .unreachable
  | .raw name => .raw name

/-- An optional operand in canonical form. -/
def canonicalOpt (labels : List (Option String)) : Option Instr → Option Instr
  | some i => some (canonical labels i)
  | none => none

/-- Instructions in canonical form. -/
def canonicalList (labels : List (Option String)) : List Instr → List Instr
  | [] => []
  | i :: rest => canonical labels i :: canonicalList labels rest

end

/-- `(block $out (loop (br $out)))` branches to the scope one out: `(block $out (loop (br 1)))`. -/
example : canonicalList [] [.block (some "out") [.loop none [.br (.name "out") []]]] =
    [.block (some "out") [.loop none [.br (.depth 1) []]]] := rfl

mutual

theorem checkLabels_canonical (labels : List (Option String)) (opened : List (Option String)) :
    ∀ (i : Instr), checkLabels opened (i.canonical labels) = checkLabels opened i
  | .localSet _ value | .localTee _ value | .unary _ value => by
    cases value <;> simp [canonical, canonicalOpt, checkLabels, checkLabels_canonical]
  | .binary _ left right => by
    cases left <;> cases right <;> simp [canonical, canonicalOpt, checkLabels, checkLabels_canonical]
  | .call _ ops | .select ops | .br _ ops | .brIf _ ops | .brTable ops _ _ | .ret ops
  | .structural _ ops => by
    simp [canonical, checkLabels, checkLabelsList_canonical]
  | .block _ body | .loop _ body => by
    simp [canonical, checkLabels, checkLabelsList_canonical]
  | .ite _ cond thenBody elseBody => by
    cases elseBody <;> simp [canonical, checkLabels, checkLabelsList_canonical]
  | .const .. | .localGet _ | .nop | .unreachable | .raw _ => rfl

theorem checkLabelsList_canonical (labels : List (Option String)) (opened : List (Option String)) :
    ∀ (is : List Instr), checkLabelsList opened (canonicalList labels is) = checkLabelsList opened is
  | [] => rfl
  | i :: rest => by
    simp only [canonicalList, checkLabelsList, checkLabels_canonical,
      checkLabelsList_canonical labels opened rest]

end

end Instr

/-- A name found among the first labels is found at the same place among all of them. -/
theorem findIdx?_extend {labels all : List (Option String)} {p : Option String → Bool} {d : Nat}
    (before : labels <+: all) (found : labels.findIdx? p = some d) : all.findIdx? p = some d := by
  obtain ⟨rest, rfl⟩ := before
  rw [List.findIdx?_append, found]
  rfl

theorem resolveScope_canonical {labels : List (Option String)} {opened : List OpenScope}
    (before : labels <+: opened.map OpenScope.label) (target : LabelRef) :
    resolveScope opened (target.canonical labels) = resolveScope opened target := by
  cases target with
  | depth d => rfl
  | name n =>
    cases found : labels.findIdx? (· == some n) with
    | none => simp only [LabelRef.canonical, found]
    | some d =>
      have atD : opened.findIdx? (·.label == some n) = some d := by
        simpa only [List.findIdx?_map, Function.comp_def] using findIdx?_extend before found
      simp only [LabelRef.canonical, found, resolveScope, List.find?_eq_bind_findIdx?_getElem?, atD,
        Option.bind_some]

namespace Instr

mutual

theorem scanNeeds_canonical (labels : List (Option String)) :
    ∀ (i : Instr) (opened : List OpenScope), labels <+: opened.map OpenScope.label →
      ∀ st, scanNeeds opened (i.canonical labels) st = scanNeeds opened i st
  | .localSet _ value, opened, before, st | .localTee _ value, opened, before, st
  | .unary _ value, opened, before, st => by
    cases value with
    | none => rfl
    | some i => exact scanNeeds_canonical labels i opened before st
  | .binary _ left right, opened, before, st => by
    cases left <;> cases right
    case none.none => rfl
    case none.some r => exact scanNeeds_canonical labels r opened before st
    case some.none l => exact scanNeeds_canonical labels l opened before st
    case some.some l r =>
      show scanNeeds opened (canonical labels r) (scanNeeds opened (canonical labels l) st) =
        scanNeeds opened r (scanNeeds opened l st)
      rw [scanNeeds_canonical labels l opened before, scanNeeds_canonical labels r opened before]
  | .call _ ops, opened, before, st | .select ops, opened, before, st | .ret ops, opened, before, st
  | .structural _ ops, opened, before, st =>
    scanNeedsList_canonical labels ops opened before st
  | .block label body, opened, before, st =>
    scanNeedsList_canonical (label :: labels) body (⟨st.next, label, false⟩ :: opened)
      (List.cons_prefix_cons.2 ⟨rfl, before⟩) { st with next := st.next + 1 }
  | .loop label body, opened, before, st =>
    scanNeedsList_canonical (label :: labels) body (⟨st.next, label, true⟩ :: opened)
      (List.cons_prefix_cons.2 ⟨rfl, before⟩) { st with next := st.next + 1 }
  | .ite label cond thenBody elseBody, opened, before, st => by
    have inner : ∀ st', label :: labels <+: (⟨st', label, false⟩ :: opened : List OpenScope).map OpenScope.label :=
      fun _ => List.cons_prefix_cons.2 ⟨rfl, before⟩
    cases elseBody with
    | none =>
      show scanNeedsList _ (canonicalList _ thenBody) _ = scanNeedsList _ thenBody _
      rw [scanNeedsList_canonical labels cond opened before, scanNeedsList_canonical _ thenBody _ (inner _)]
    | some b =>
      show scanNeedsList _ (canonicalList _ b) (scanNeedsList _ (canonicalList _ thenBody) _) =
        scanNeedsList _ b (scanNeedsList _ thenBody _)
      rw [scanNeedsList_canonical labels cond opened before, scanNeedsList_canonical _ thenBody _ (inner _),
        scanNeedsList_canonical _ b _ (inner _)]
  | .br target ops, opened, before, st | .brIf target ops, opened, before, st => by
    show ScanState.mark _ _ _ = ScanState.mark _ _ _
    rw [scanNeedsList_canonical labels ops opened before]
    simp only [ScanState.mark, resolveScope_canonical before]
  | .brTable ops targets default, opened, before, st => by
    show List.foldl _ _ _ = List.foldl _ _ _
    rw [scanNeedsList_canonical labels ops opened before]
    simp only [List.foldl_append, List.foldl_map, List.foldl_cons, List.foldl_nil, ScanState.mark,
      resolveScope_canonical before]
  | .const .., _, _, _ | .localGet _, _, _, _ | .nop, _, _, _ | .unreachable, _, _, _
  | .raw _, _, _, _ => rfl

theorem scanNeedsList_canonical (labels : List (Option String)) :
    ∀ (is : List Instr) (opened : List OpenScope), labels <+: opened.map OpenScope.label →
      ∀ st, scanNeedsList opened (canonicalList labels is) st = scanNeedsList opened is st
  | [], _, _, _ => rfl
  | i :: rest, opened, before, st => by
    show scanNeedsList _ _ (scanNeeds _ _ _) = scanNeedsList _ _ (scanNeeds _ _ _)
    rw [scanNeeds_canonical labels i opened before, scanNeedsList_canonical labels rest opened before]

end

end Instr

namespace Lower

/-- A name that an open scope carries resolves as the depth of the innermost such scope. -/
theorem resolveBranch_canonical {env : Env} {labels : List (Option String)} {σ : State}
    (before : labels <+: σ.scopes.map Scope.label) (target : LabelRef) :
    (resolveBranch env (target.canonical labels)).run σ = (resolveBranch env target).run σ := by
  cases target with
  | depth d => rfl
  | name n =>
    cases found : labels.findIdx? (· == some n) with
    | none => simp only [LabelRef.canonical, found]
    | some d =>
      have atD : σ.scopes.findIdx? (·.label == some n) = some d := by
        simpa only [List.findIdx?_map, Function.comp_def] using findIdx?_extend before found
      have inside : d < σ.scopes.length := (List.findIdx?_eq_some_iff_getElem.1 atD).1
      have within : ¬ d > σ.scopes.length := by omega
      simp only [LabelRef.canonical, found, resolveBranch, run_bind, run_get, run_pure, atD, inside,
        within, if_true, if_false]

theorem resolveAll_canonical {env : Env} {labels : List (Option String)} :
    ∀ (targets : List LabelRef) (σ : State), labels <+: σ.scopes.map Scope.label →
      ((targets.map (LabelRef.canonical labels)).mapM (resolveBranch env)).run σ =
        (targets.mapM (resolveBranch env)).run σ
  | [], _, _ => rfl
  | t :: rest, σ, before => by
    have after : labels <+: ((resolveBranch env t).run σ).2.scopes.map Scope.label := by
      have shapes := congrArg (List.map Scope.label) (resolveBranch_shapes env t σ)
      simp only [List.map_map, Function.comp_def, Scope.shape_label] at shapes
      rwa [shapes]
    simp only [List.map_cons, List.mapM_cons, run_bind, resolveBranch_canonical before,
      resolveAll_canonical rest _ after]

/-- The labels of the open scopes after a scope opens: its own label, then the others. -/
theorem enterScope_scopeLabels (env : Env) (label : Option String) (kind : ScopeKind)
    {labels : List (Option String)} {σ : State} (before : labels <+: σ.scopes.map Scope.label) :
    label :: labels <+: ((enterScope env label kind).run σ).2.scopes.map Scope.label := by
  rw [enterScope_run]
  cases kind <;> exact List.cons_prefix_cons.2 ⟨rfl, before⟩

mutual

theorem lowerInstr_canonical (env : Env) (labels : List (Option String)) :
    ∀ (i : Instr) (σ : State), labels <+: σ.scopes.map Scope.label →
      (lowerInstr env (i.canonical labels)).run σ = (lowerInstr env i).run σ
  | .localSet _ value, σ, before | .localTee _ value, σ, before | .unary _ value, σ, before => by
    simp only [Instr.canonical, lowerInstr, run_bind, lowerOpt_canonical env labels value σ before]
  | .binary _ left right, σ, before => by
    have after : labels <+: ((lowerOpt env left).run σ).2.scopes.map Scope.label := by
      cases left with
      | none => exact before
      | some l => rwa [lowerOpt, lowerInstr_scopeLabels]
    simp only [Instr.canonical, lowerInstr, run_bind, lowerOpt_canonical env labels left σ before,
      lowerOpt_canonical env labels right _ after]
  | .call _ ops, σ, before | .select ops, σ, before | .structural _ ops, σ, before
  | .ret ops, σ, before => by
    simp only [Instr.canonical, lowerInstr, run_bind, lowerList_canonical env labels ops σ before]
  | .block label body, σ, before => by
    simp only [Instr.canonical, lowerInstr, run_bind,
      lowerList_canonical env _ body _ (enterScope_scopeLabels env label .block before)]
  | .loop label body, σ, before => by
    simp only [Instr.canonical, lowerInstr, run_bind,
      lowerList_canonical env _ body _ (enterScope_scopeLabels env label .loop before)]
  | .ite label cond thenBody elseBody, σ, before => by
    have afterCond := (lowerList_scopeLabels env cond σ).symm ▸ before
    have inner := enterScope_scopeLabels env label .ite afterCond
    cases elseBody with
    | none =>
      simp only [Instr.canonical, lowerInstr, run_bind, lowerList_canonical env labels cond σ before,
        lowerList_canonical env _ thenBody _ inner]
    | some b =>
      have afterThen := (lowerList_scopeLabels env thenBody _).symm ▸ inner
      simp only [Instr.canonical, lowerInstr, run_bind, run_map, lowerList_canonical env labels cond σ before,
        lowerList_canonical env _ thenBody _ inner, lowerList_canonical env _ b _ afterThen]
  | .br target ops, σ, before | .brIf target ops, σ, before => by
    have after := (lowerList_scopeLabels env ops σ).symm ▸ before
    simp only [Instr.canonical, lowerInstr, run_bind, lowerList_canonical env labels ops σ before,
      resolveBranch_canonical after]
  | .brTable ops targets default, σ, before => by
    have after := (lowerList_scopeLabels env ops σ).symm ▸ before
    have afterAll := (scopeLabels_of_shapes (resolveAll_shapes env targets _)).symm ▸ after
    simp only [Instr.canonical, lowerInstr, run_bind, lowerList_canonical env labels ops σ before,
      resolveAll_canonical targets _ after, resolveBranch_canonical afterAll]
  | .const .., _, _ | .localGet _, _, _ | .nop, _, _ | .unreachable, _, _ | .raw _, _, _ => rfl

theorem lowerOpt_canonical (env : Env) (labels : List (Option String)) :
    ∀ (i : Option Instr) (σ : State), labels <+: σ.scopes.map Scope.label →
      (lowerOpt env (Instr.canonicalOpt labels i)).run σ = (lowerOpt env i).run σ
  | some i, σ, before => lowerInstr_canonical env labels i σ before
  | none, _, _ => rfl

theorem lowerList_canonical (env : Env) (labels : List (Option String)) :
    ∀ (is : List Instr) (σ : State), labels <+: σ.scopes.map Scope.label →
      (lowerList env (Instr.canonicalList labels is)).run σ = (lowerList env is).run σ
  | [], _, _ => rfl
  | i :: rest, σ, before => by
    have after : labels <+: ((lowerInstr env i).run σ).2.scopes.map Scope.label := by
      rwa [lowerInstr_scopeLabels]
    simp only [Instr.canonicalList, lowerList, run_bind, lowerInstr_canonical env labels i σ before,
      lowerList_canonical env labels rest _ after]

end

/-- A body and its canonical form read alike to every pass of the lowering. -/
theorem sameBody_canonical (body : List Instr) : SameBody (Instr.canonicalList [] body) body where
  labels := Instr.checkLabelsList_canonical [] [] body
  needs := congrArg ScanState.needs (Instr.scanNeedsList_canonical [] body [] List.nil_prefix {})
  lower env := funext fun σ => lowerList_canonical env [] body σ List.nil_prefix

end Lower

/-- Depth and name addressing are interchangeable. Two modules that are the same once every
branch target by name is written as the depth of the innermost enclosing scope with that name,
as a branch to `$n` and a branch to that depth are, lower to the same program with the same
diagnostics, or fail with the same error. -/
theorem lowerModule_eq_of_canonical {m m' : Module}
    (same : m'.mapBodies (Instr.canonicalList []) = m.mapBodies (Instr.canonicalList []))
    (options : LowerOptions) : lowerModule m' options = lowerModule m options := by
  rw [← lowerModule_mapBodies _ Lower.sameBody_canonical m' options, same,
    lowerModule_mapBodies _ Lower.sameBody_canonical m options]

/-- `(block $out (loop (br $out)))` and `(block $out (loop (br 1)))` lower alike. -/
theorem branch_by_name_lowers_as_by_depth :
    let byName : Module := { functions := [⟨some "f", 0, [.block (some "out") [.loop none [.br (.name "out") []]]],
      0, 0, 0, []⟩] }
    let byDepth : Module := { functions := [⟨some "f", 0, [.block (some "out") [.loop none [.br (.depth 1) []]]],
      0, 0, 0, []⟩] }
    byDepth.mapBodies (Instr.canonicalList []) = byName.mapBodies (Instr.canonicalList []) ∧
      lowerModule byDepth {} = lowerModule byName {} :=
  ⟨rfl, lowerModule_eq_of_canonical rfl {}⟩

end WasmBoogie
