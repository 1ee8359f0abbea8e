import WasmBoogie.Proofs.Lower.Sync
import WasmBoogie.Proofs.Instr.ScanEvents

namespace WasmBoogie

namespace Lower

/-- The open scope that a branch target selects, the one `resolveBranch` marks: a depth below
the number of open scopes, or the innermost scope with the name. -/
def selectedScope (σ : State) (target : LabelRef) : Option Scope :=
  (scopeIndex σ.scopes target).bind fun i => σ.scopes[i]?

/-- A branch whose target selects an open scope goes to that scope's target label, and marks
that scope and no other as referenced. -/
theorem resolveBranch_selected (env : Env) {target : LabelRef} {σ : State} {s : Scope}
    (selects : selectedScope σ target = some s) :
    ((resolveBranch env target).run σ).1 = s.branchTarget ∧
      ∃ i, σ.scopes[i]? = some s ∧
        ((resolveBranch env target).run σ).2.scopes = σ.scopes.set i { s with referenced := true } := by
  obtain ⟨i, index, found⟩ := Option.bind_eq_some_iff.1 selects
  obtain ⟨diagnostics, run⟩ := resolveBranch_run env target σ
  rw [run, index]
  dsimp only
  rw [found]
  exact ⟨rfl, i, found, rfl⟩

/-- A branch whose target selects no open scope leaves the open scopes as they are. -/
theorem resolveBranch_unselected (env : Env) {target : LabelRef} {σ : State}
    (none_ : selectedScope σ target = none) : ((resolveBranch env target).run σ).2.scopes = σ.scopes := by
  obtain ⟨diagnostics, run⟩ := resolveBranch_run env target σ
  rw [run]
  cases index : scopeIndex σ.scopes target with
  | none => exact exitLabel_scopes _
  | some i =>
    have absent : σ.scopes[i]? = none := by simpa [selectedScope, index] using none_
    simp only [absent]
    exact exitLabel_scopes _

theorem selectedScope_toOpen (σ : State) (target : LabelRef) :
    (selectedScope σ target).map Scope.toOpen = resolveScope (σ.scopes.map Scope.toOpen) target := by
  rw [resolveScope_toOpen, selectedScope, Option.map_bind]
  rfl

/-- The events of resolving branch targets one after another, each in the state the lowering
resolves it in. -/
def resolvingEvents (env : Env) : List LabelRef → State → List ScopeEvent
  | [], _ => []
  | t :: rest, σ => ((selectedScope σ t).map fun s => .reaches t s.toOpen).toList ++
      resolvingEvents env rest ((resolveBranch env t).run σ).2

/-- The event of opening a scope: the scope that `enterScope` pushes. -/
def openingEvents (env : Env) (label : Option String) (kind : ScopeKind) (σ : State) : List ScopeEvent :=
  (((enterScope env label kind).run σ).2.scopes.head?.map fun s => .opens s.toOpen).toList

mutual

/-- The scope events of lowering one instruction from a state, in the lowering's order: the
scopes `enterScope` opens and the open scopes that `resolveBranch` resolves targets to. -/
def scopeEvents (env : Env) : Instr → State → List ScopeEvent
  | .block label body, σ =>
    openingEvents env label .block σ ++ scopeEventsList env body ((enterScope env label .block).run σ).2
  | .loop label body, σ =>
    openingEvents env label .loop σ ++ scopeEventsList env body ((enterScope env label .loop).run σ).2
  | .ite label cond thenBody elseBody, σ =>
    let afterCond := ((lowerList env cond).run σ).2
    let inner := ((enterScope env label .ite).run afterCond).2
    scopeEventsList env cond σ ++ (openingEvents env label .ite afterCond ++ (scopeEventsList env thenBody inner ++
      match elseBody with
      | some b => scopeEventsList env b ((lowerList env thenBody).run inner).2
      | none => []))
  | .br target ops, σ | .brIf target ops, σ =>
    scopeEventsList env ops σ ++ resolvingEvents env [target] ((lowerList env ops).run σ).2
  | .brTable ops targets default, σ =>
    scopeEventsList env ops σ ++ resolvingEvents env (targets ++ [default]) ((lowerList env ops).run σ).2
  | .localSet _ value, σ | .localTee _ value, σ | .unary _ value, σ => scopeEventsOpt env value σ
  | .binary _ left right, σ => scopeEventsOpt env left σ ++ scopeEventsOpt env right ((lowerOpt env left).run σ).2
  | .call _ ops, σ | .select ops, σ | .structural _ ops, σ | .ret ops, σ => scopeEventsList env ops σ
  | .const .., _ | .localGet _, _ | .nop, _ | .unreachable, _ | .raw _, _ => []

def scopeEventsOpt (env : Env) : Option Instr → State → List ScopeEvent
  | some i, σ => scopeEvents env i σ
  | none, _ => []

def scopeEventsList (env : Env) : List Instr → State → List ScopeEvent
  | [], _ => []
  | i :: rest, σ => scopeEvents env i σ ++ scopeEventsList env rest ((lowerInstr env i).run σ).2

end

theorem openingEvents_eq (env : Env) (label : Option String) (kind : ScopeKind) (σ : State) :
    openingEvents env label kind σ = [.opens ⟨σ.nextOrdinal, label, kind == .loop⟩] := by
  unfold openingEvents
  rw [enterScope_scopes]
  cases kind <;> rfl

/-- Targets resolve alike in the lowering and in the pre-scan. -/
theorem resolvingEvents_eq (env : Env) (targets : List LabelRef) (σ : State) :
    resolvingEvents env targets σ = ScopeEvent.resolving (σ.scopes.map Scope.toOpen) targets := by
  induction targets generalizing σ with
  | nil => rfl
  | cons t rest ih =>
    rw [resolvingEvents, ih, toOpens_of_shapes (resolveBranch_shapes env t σ)]
    show _ = ((resolveScope (σ.scopes.map Scope.toOpen) t).map (ScopeEvent.reaches t)).toList ++ _
    rw [← selectedScope_toOpen, Option.map_map]
    rfl

namespace Synced

/-- A function's body is lowered from no open scope and no ordinal given out, where the
pre-scan starts. -/
theorem fresh {σ : State} (closed : σ.scopes = []) (first : σ.nextOrdinal = 0) : Synced σ {} where
  next := first
  below := by simp [closed]
  distinct := by simp [closed]
  marks_below b o mem := by cases b <;> cases mem
  referenced := by simp [closed]

/-- A scope opens under the same ordinal on both sides, and its body is then walked alike. -/
theorem scope_events {σ : State} {st : ScanState} (env : Env) (label : Option String) (kind : ScopeKind)
    (body : List Instr) (synced : Synced σ st)
    (inside : scopeEventsList env body ((enterScope env label kind).run σ).2 =
      Instr.scanEventsList (((enterScope env label kind).run σ).2.scopes.map Scope.toOpen) body
        { st with next := st.next + 1 }) :
    openingEvents env label kind σ ++ scopeEventsList env body ((enterScope env label kind).run σ).2 =
      .opens ⟨st.next, label, kind == .loop⟩ ::
        Instr.scanEventsList (⟨st.next, label, kind == .loop⟩ :: σ.scopes.map Scope.toOpen) body
          { st with next := st.next + 1 } := by
  rw [synced.toOpens_enter] at inside
  rw [openingEvents_eq, inside, synced.next]
  rfl

end Synced

mutual

/-- In step with the pre-scan, lowering an instruction opens and resolves what the scan does. -/
theorem scopeEvents_eq_scanEvents (env : Env) : ∀ (i : Instr) (σ : State) (st : ScanState), Synced σ st →
    scopeEvents env i σ = Instr.scanEvents (σ.scopes.map Scope.toOpen) i st
  | .localSet _ value, σ, st, synced | .localTee _ value, σ, st, synced | .unary _ value, σ, st, synced => by
    cases value with
    | none => rfl
    | some i => exact scopeEvents_eq_scanEvents env i σ st synced
  | .binary _ left right, σ, st, synced => by
    cases left <;> cases right
    case none.none => rfl
    case none.some r => exact scopeEvents_eq_scanEvents env r σ st synced
    case some.none l =>
      show scopeEvents env l σ ++ [] = Instr.scanEvents _ l st ++ []
      rw [scopeEvents_eq_scanEvents env l σ st synced]
    case some.some l r =>
      have right := scopeEvents_eq_scanEvents env r _ _ (lowerInstr_synced env l σ st synced)
      rw [toOpens_of_shapes (lowerInstr_shapes env l σ)] at right
      show scopeEvents env l σ ++ scopeEvents env r ((lowerInstr env l).run σ).2 = _
      rw [scopeEvents_eq_scanEvents env l σ st synced, right]
      rfl
  | .call _ ops, σ, st, synced | .select ops, σ, st, synced | .structural _ ops, σ, st, synced
  | .ret ops, σ, st, synced => scopeEventsList_eq_scanEventsList env ops σ st synced
  | .block label body, σ, st, synced =>
    synced.scope_events env label .block body
      (scopeEventsList_eq_scanEventsList env body _ _ (synced.enter env label .block))
  | .loop label body, σ, st, synced =>
    synced.scope_events env label .loop body
      (scopeEventsList_eq_scanEventsList env body _ _ (synced.enter env label .loop))
  | .ite label cond thenBody elseBody, σ, st, synced => by
    have afterCond := lowerList_synced env cond σ st synced
    have condOpens := toOpens_of_shapes (lowerList_shapes env cond σ)
    have inThen := afterCond.enter env label .ite
    have thenEvents := scopeEventsList_eq_scanEventsList env thenBody _ _ inThen
    rw [afterCond.toOpens_enter, condOpens] at thenEvents
    cases elseBody with
    | none =>
      show scopeEventsList env cond σ ++ (openingEvents env label .ite ((lowerList env cond).run σ).2 ++
        (scopeEventsList env thenBody _ ++ [])) = _
      rw [scopeEventsList_eq_scanEventsList env cond σ st synced, openingEvents_eq, thenEvents, afterCond.next]
      rfl
    | some b =>
      have elseEvents := scopeEventsList_eq_scanEventsList env b _ _ (lowerList_synced env thenBody _ _ inThen)
      rw [toOpens_of_shapes (lowerList_shapes env thenBody _), afterCond.toOpens_enter, condOpens] at elseEvents
      show scopeEventsList env cond σ ++ (openingEvents env label .ite ((lowerList env cond).run σ).2 ++
        (scopeEventsList env thenBody _ ++ scopeEventsList env b _)) = _
      rw [scopeEventsList_eq_scanEventsList env cond σ st synced, openingEvents_eq, thenEvents, elseEvents,
        afterCond.next]
      rfl
  | .br target ops, σ, st, synced | .brIf target ops, σ, st, synced => by
    show scopeEventsList env ops σ ++ resolvingEvents env [target] ((lowerList env ops).run σ).2 = _
    rw [scopeEventsList_eq_scanEventsList env ops σ st synced, resolvingEvents_eq,
      toOpens_of_shapes (lowerList_shapes env ops σ)]
    rfl
  | .brTable ops targets default, σ, st, synced => by
    show scopeEventsList env ops σ ++ resolvingEvents env (targets ++ [default]) ((lowerList env ops).run σ).2 = _
    rw [scopeEventsList_eq_scanEventsList env ops σ st synced, resolvingEvents_eq,
      toOpens_of_shapes (lowerList_shapes env ops σ)]
    rfl
  | .const .., _, _, _ | .localGet _, _, _, _ | .nop, _, _, _ | .unreachable, _, _, _ | .raw _, _, _, _ => rfl

theorem scopeEventsList_eq_scanEventsList (env : Env) : ∀ (is : List Instr) (σ : State) (st : ScanState),
    Synced σ st → scopeEventsList env is σ = Instr.scanEventsList (σ.scopes.map Scope.toOpen) is st
  | [], _, _, _ => rfl
  | i :: rest, σ, st, synced => by
    have next := scopeEventsList_eq_scanEventsList env rest _ _ (lowerInstr_synced env i σ st synced)
    rw [toOpens_of_shapes (lowerInstr_shapes env i σ)] at next
    show scopeEvents env i σ ++ scopeEventsList env rest ((lowerInstr env i).run σ).2 = _
    rw [scopeEvents_eq_scanEvents env i σ st synced, next]
    rfl

end

end Lower

/-- The pre-scan of a body agrees with lowering it from a function's start. Both walks open the
same scopes in the same order under the same ordinals, numbered from zero as `enterScope` gives
them out, and resolve the same branch targets to the same scopes. A loop's ordinal is among the
loop starts the scan finds needed exactly when the lowering resolves some branch target to that
loop, and a block's or an if's ordinal is among the block ends exactly when it resolves one to
that scope; neither list repeats an ordinal. -/
theorem scanLabels_agrees_with_lowering (env : Lower.Env) (body : List Instr) {σ : Lower.State}
    (closed : σ.scopes = []) (first : σ.nextOrdinal = 0) :
    Lower.scopeEventsList env body σ = Instr.scanEventsList [] body {} ∧
    ((Lower.scopeEventsList env body σ).filterMap ScopeEvent.opening).map OpenScope.ordinal =
      List.range ((Lower.lowerList env body).run σ).2.nextOrdinal ∧
    (∀ o, o ∈ (scanLabels body).loopStarts ↔
      ∃ target label, ScopeEvent.reaches target ⟨o, label, true⟩ ∈ Lower.scopeEventsList env body σ) ∧
    (∀ o, o ∈ (scanLabels body).blockEnds ↔
      ∃ target label, ScopeEvent.reaches target ⟨o, label, false⟩ ∈ Lower.scopeEventsList env body σ) ∧
    (scanLabels body).loopStarts.Nodup ∧ (scanLabels body).blockEnds.Nodup := by
  have synced := Lower.Synced.fresh closed first
  have agree := Lower.scopeEventsList_eq_scanEventsList env body σ {} synced
  rw [closed, List.map_nil] at agree
  have count : ((Lower.lowerList env body).run σ).2.nextOrdinal =
      ((Instr.scanEventsList [] body {}).filterMap ScopeEvent.opening).length := by
    have next := (Lower.lowerList_synced env body σ {} synced).next
    rw [closed, List.map_nil, Instr.scanNeedsList_next] at next
    simpa using next
  rw [agree, count, List.range_eq_range']
  exact ⟨rfl, Instr.scanEventsList_numbered [] body {}, fun o => @mem_scanLabels_of body true o,
    fun o => @mem_scanLabels_of body false o, scanLabels_nodup body true, scanLabels_nodup body false⟩

/-- A loop left by a branch to its name and a block left by a conditional branch of depth zero:
their pre-scan agrees with their lowering. -/
theorem loop_and_block_scan_agrees :
    let body : List Instr := [.loop (some "l") [.br (.name "l") []], .block none [.brIf (.depth 0) []]]
    let env : Lower.Env := ⟨{}, {}, "f", scanLabels body, 0⟩
    let σ : Lower.State := {}
    σ.scopes = [] ∧ σ.nextOrdinal = 0 ∧
    Lower.scopeEventsList env body σ = Instr.scanEventsList [] body {} ∧
    ((Lower.scopeEventsList env body σ).filterMap ScopeEvent.opening).map OpenScope.ordinal =
      List.range ((Lower.lowerList env body).run σ).2.nextOrdinal ∧
    (∀ o, o ∈ (scanLabels body).loopStarts ↔
      ∃ target label, ScopeEvent.reaches target ⟨o, label, true⟩ ∈ Lower.scopeEventsList env body σ) ∧
    (∀ o, o ∈ (scanLabels body).blockEnds ↔
      ∃ target label, ScopeEvent.reaches target ⟨o, label, false⟩ ∈ Lower.scopeEventsList env body σ) ∧
    (scanLabels body).loopStarts.Nodup ∧ (scanLabels body).blockEnds.Nodup :=
  ⟨rfl, rfl, scanLabels_agrees_with_lowering _ _ rfl rfl⟩

end WasmBoogie
