import WasmBoogie.Proofs.Lower.Congruence

namespace WasmBoogie

namespace ScopeKind

/-- The base of the end label of an unlabeled scope. -/
def endFallback : ScopeKind → String
  | .block => "block_end"
  | .loop => "loop_end"
  | .ite => "if_end"

/-- How many labels a scope takes from the counter: a start and an end label for a loop, an end
label for the others. -/
def labelCount : ScopeKind → Nat
  | .loop => 2
  | .block | .ite => 1

end ScopeKind

namespace Lower

theorem run_bind {α β : Type} (x : LowerM α) (f : α → LowerM β) (σ : State) :
    (x >>= f).run σ = (f (x.run σ).1).run (x.run σ).2 := rfl

theorem run_pure {α : Type} (a : α) (σ : State) : (pure a : LowerM α).run σ = (a, σ) := rfl

theorem run_map {α β : Type} (f : α → β) (x : LowerM α) (σ : State) :
    (f <$> x).run σ = (f (x.run σ).1, (x.run σ).2) := rfl

theorem run_get (σ : State) : (get : LowerM State).run σ = (σ, σ) := rfl

/-- A computation that changes nothing but the helpers in use and the diagnostics. -/
def Quiet {α : Type} (x : LowerM α) : Prop :=
  ∀ σ, ∃ helpers diagnostics, (x.run σ).2 = { σ with helpers, diagnostics }

namespace Quiet

variable {α β : Type} {x : LowerM α}

theorem pure (a : α) : Quiet (Pure.pure a : LowerM α) :=
  fun σ => ⟨σ.helpers, σ.diagnostics, rfl⟩

theorem bind {f : α → LowerM β} (hx : Quiet x) (hf : ∀ a, Quiet (f a)) : Quiet (x >>= f) := by
  intro σ
  obtain ⟨_, _, first⟩ := hx σ
  obtain ⟨helpers, diagnostics, second⟩ := hf (x.run σ).1 (x.run σ).2
  exact ⟨helpers, diagnostics, by rw [run_bind, second, first]⟩

theorem scopes (h : Quiet x) (σ : State) : (x.run σ).2.scopes = σ.scopes := by
  obtain ⟨_, _, e⟩ := h σ
  rw [e]

theorem nextLabel (h : Quiet x) (σ : State) : (x.run σ).2.nextLabel = σ.nextLabel := by
  obtain ⟨_, _, e⟩ := h σ
  rw [e]

theorem nextOrdinal (h : Quiet x) (σ : State) : (x.run σ).2.nextOrdinal = σ.nextOrdinal := by
  obtain ⟨_, _, e⟩ := h σ
  rw [e]

theorem exitLabel (h : Quiet x) (σ : State) : (x.run σ).2.exitLabel = σ.exitLabel := by
  obtain ⟨_, _, e⟩ := h σ
  rw [e]

end Quiet

theorem note_run (env : Env) (kind : DiagnosticKind) (message : String) (σ : State) :
    (note env kind message).run σ = ((), { σ with diagnostics := σ.diagnostics.push ⟨env.function, kind, message⟩ }) :=
  rfl

theorem quiet_note (env : Env) (kind : DiagnosticKind) (message : String) :
    Quiet (note env kind message) :=
  fun σ => ⟨σ.helpers, _, rfl⟩

theorem quiet_ensurePopArgs (arity : Nat) : Quiet (ensurePopArgs arity) :=
  fun σ => ⟨_, σ.diagnostics, rfl⟩

theorem quiet_lowerUnary (env : Env) (op : String) : Quiet (lowerUnary env op) := by
  simp only [lowerUnary]
  cases UnaryKind.ofName op
  case unsupported => exact (quiet_note _ _ _).bind fun _ => Quiet.pure _
  all_goals exact Quiet.pure _

theorem quiet_lowerBinary (env : Env) (op : String) : Quiet (lowerBinary env op) := by
  simp only [lowerBinary]
  split
  · exact (quiet_note _ _ _).bind fun _ => (Quiet.pure _).bind fun _ => Quiet.pure _
  · exact (Quiet.pure _).bind fun _ => Quiet.pure _

/-- Constants, local reads, `nop`, `unreachable` and raw instructions touch no scope. -/
theorem quiet_lowerConst (env : Env) (ty : NumType) (literal : String) :
    Quiet (lowerInstr env (.const ty literal)) := by
  simp only [lowerInstr]
  split
  · exact Quiet.pure _
  · exact (quiet_note _ _ _).bind fun _ => Quiet.pure _

theorem quiet_lowerRaw (env : Env) (name : String) : Quiet (lowerInstr env (.raw name)) := by
  simp only [lowerInstr]
  split
  · exact Quiet.pure _
  · exact (quiet_note _ _ _).bind fun _ => Quiet.pure _

/-- A label made from a base and a number of the function's label sequence. -/
def numberedLabel (base : String) (n : Nat) : String := s!"{base}_{n}"

/-- The base of a scope's start or end label: the sanitized scope name and the suffix, or the
fallback for a scope without a name. -/
def labelBase (label : Option String) (suffix fallback : String) : String :=
  match label with
  | some name => Ident.sanitize name ++ "_" ++ suffix
  | none => fallback

/-- The scope that opens in a state: the next ordinal, and the next labels of the sequence. -/
def openedScope (σ : State) (label : Option String) (kind : ScopeKind) : Scope :=
  match kind with
  | .loop =>
    ⟨label, σ.nextOrdinal, some (numberedLabel (labelBase label "start" "loop_start") (σ.nextLabel + 1)),
      numberedLabel (labelBase label "end" "loop_end") (σ.nextLabel + 2), .loop, false⟩
  | kind => ⟨label, σ.nextOrdinal, none,
      numberedLabel (labelBase label "end" kind.endFallback) (σ.nextLabel + 1), kind, false⟩

theorem enterScope_run (env : Env) (label : Option String) (kind : ScopeKind) (σ : State) :
    (enterScope env label kind).run σ =
      ((openedScope σ label kind).startLabel.filter
          (fun _ => !env.options.pruneUnusedLabels || env.needs.loopStarts.contains σ.nextOrdinal),
        { σ with nextOrdinal := σ.nextOrdinal + 1, nextLabel := σ.nextLabel + kind.labelCount,
                 scopes := openedScope σ label kind :: σ.scopes }) := by
  cases kind <;> cases label <;> rfl

theorem enterScope_scopes (env : Env) (label : Option String) (kind : ScopeKind) (σ : State) :
    ((enterScope env label kind).run σ).2.scopes = openedScope σ label kind :: σ.scopes := by
  rw [enterScope_run]

theorem enterScope_exitLabel (env : Env) (label : Option String) (kind : ScopeKind) (σ : State) :
    ((enterScope env label kind).run σ).2.exitLabel = σ.exitLabel := by
  rw [enterScope_run]

/-- Whether a closing scope's end label is placed: always without pruning; with pruning, never
for a loop, and for a block or an `if` when a branch has gone to it or the pre-scan needs it. -/
def endPlaced (env : Env) (s : Scope) : Bool :=
  match s.kind with
  | .loop => !env.options.pruneUnusedLabels
  | _ => !env.options.pruneUnusedLabels || s.referenced || env.needs.blockEnds.contains s.ordinal

theorem leaveScope_run {env : Env} {σ : State} {s : Scope} {rest : List Scope}
    (open_ : σ.scopes = s :: rest) :
    (leaveScope env).run σ =
      (if endPlaced env s then [.label s.endLabel] else [], { σ with scopes := rest }) := by
  obtain ⟨scopes, _, _, _, _, _⟩ := σ
  subst open_
  rfl

theorem leaveScope_scopes (env : Env) (σ : State) : ((leaveScope env).run σ).2.scopes = σ.scopes.tail := by
  obtain ⟨_ | ⟨s, rest⟩, _, _, _, _, _⟩ := σ <;> rfl

theorem exitLabel_run (σ : State) :
    exitLabel.run σ = match σ.exitLabel with
      | some l => (l, σ)
      | none => (numberedLabel "func_exit" (σ.nextLabel + 1),
          { σ with nextLabel := σ.nextLabel + 1, exitLabel := some (numberedLabel "func_exit" (σ.nextLabel + 1)) }) := by
  obtain ⟨_, _, _, _ | _, _, _⟩ := σ <;> rfl

theorem markReferenced_run (i : Nat) (σ : State) :
    (markReferenced i).run σ = match σ.scopes[i]? with
      | some s => (some s.branchTarget, { σ with scopes := σ.scopes.set i { s with referenced := true } })
      | none => (none, σ) := by
  unfold markReferenced
  cases found : σ.scopes[i]? <;> simp [found] <;> rfl

/-- A scope without its referenced flag: what stays fixed while it is open. -/
def Scope.shape (s : Scope) : Scope := { s with referenced := false }

@[simp] theorem Scope.shape_label (s : Scope) : s.shape.label = s.label := rfl

@[simp] theorem Scope.shape_mark (s : Scope) : Scope.shape { s with referenced := true } = s.shape := rfl

/-- Marking a scope referenced keeps the shapes of all scopes. -/
theorem shapes_set_referenced {scopes : List Scope} {i : Nat} {s : Scope} (found : scopes[i]? = some s) :
    (scopes.set i { s with referenced := true }).map Scope.shape = scopes.map Scope.shape := by
  obtain ⟨bound, rfl⟩ := List.getElem?_eq_some_iff.1 found
  have mapped : i < (scopes.map Scope.shape).length := by simpa using bound
  have atI : (scopes.map Scope.shape)[i] = scopes[i].shape := List.getElem_map ..
  simp only [List.map_set, Scope.shape_mark, ← atI, List.set_getElem_self]

theorem exitLabel_scopes (σ : State) : (exitLabel.run σ).2.scopes = σ.scopes := by
  rw [exitLabel_run]
  split <;> rfl

/-- The position of the open scope that a branch target selects, counted from the innermost:
a depth below the number of open scopes, or the innermost scope with the name. -/
def scopeIndex (scopes : List Scope) : LabelRef → Option Nat
  | .depth d => if d < scopes.length then some d else none
  | .name n => scopes.findIdx? (·.label == some n)

/-- Resolving a branch goes to the target of the scope it selects, which is marked referenced,
or to the exit label; it may also record a diagnostic. -/
theorem resolveBranch_run (env : Env) (target : LabelRef) (σ : State) : ∃ diagnostics,
    (resolveBranch env target).run σ = match scopeIndex σ.scopes target with
      | some i => match σ.scopes[i]? with
        | some s => (s.branchTarget, { σ with diagnostics, scopes := σ.scopes.set i { s with referenced := true } })
        | none => exitLabel.run { σ with diagnostics }
      | none => exitLabel.run { σ with diagnostics } := by
  cases target with
  | depth d =>
    by_cases inside : d < σ.scopes.length
    · have within : ¬ d > σ.scopes.length := by omega
      refine ⟨σ.diagnostics, ?_⟩
      simp only [resolveBranch, run_bind, run_get, run_pure, within, if_false, scopeIndex, inside, if_true,
        markReferenced_run]
      cases σ.scopes[d]? <;> rfl
    · by_cases beyond : d > σ.scopes.length
      · refine ⟨σ.diagnostics.push ⟨env.function, .unresolvedBranch,
          s!"branch depth {d} exceeds {σ.scopes.length} open scopes, using function exit"⟩, ?_⟩
        simp only [resolveBranch, run_bind, run_get, run_pure, beyond, if_true, note_run, scopeIndex, inside,
          if_false]
      · refine ⟨σ.diagnostics, ?_⟩
        simp only [resolveBranch, run_bind, run_get, run_pure, beyond, if_false, scopeIndex, inside]
  | name n =>
    cases found : σ.scopes.findIdx? (·.label == some n) with
    | some i =>
      refine ⟨σ.diagnostics, ?_⟩
      simp only [resolveBranch, run_bind, run_get, run_pure, scopeIndex, found, markReferenced_run]
      cases σ.scopes[i]? <;> rfl
    | none =>
      refine ⟨σ.diagnostics.push ⟨env.function, .unresolvedBranch,
        s!"no enclosing scope labeled ${n}, using function exit"⟩, ?_⟩
      simp only [resolveBranch, run_bind, run_get, run_pure, scopeIndex, found, note_run]

/-- Resolving a branch marks at most one scope and makes at most the exit label. -/
theorem resolveBranch_shapes (env : Env) (target : LabelRef) (σ : State) :
    ((resolveBranch env target).run σ).2.scopes.map Scope.shape = σ.scopes.map Scope.shape := by
  obtain ⟨diagnostics, run⟩ := resolveBranch_run env target σ
  rw [run]
  split
  · split
    · exact shapes_set_referenced ‹_›
    · rw [exitLabel_scopes]
  · rw [exitLabel_scopes]

theorem resolveAll_shapes (env : Env) (targets : List LabelRef) (σ : State) :
    ((targets.mapM (resolveBranch env)).run σ).2.scopes.map Scope.shape = σ.scopes.map Scope.shape := by
  induction targets generalizing σ with
  | nil => rfl
  | cons t rest ih => simp only [List.mapM_cons, run_bind, run_pure, ih, resolveBranch_shapes]

mutual

/-- Lowering an instruction leaves the open scopes as it found them, up to referenced flags. -/
theorem lowerInstr_shapes (env : Env) : ∀ (i : Instr) (σ : State),
    ((lowerInstr env i).run σ).2.scopes.map Scope.shape = σ.scopes.map Scope.shape
  | .const ty literal, σ => by rw [(quiet_lowerConst env ty literal).scopes]
  | .raw name, σ => by rw [(quiet_lowerRaw env name).scopes]
  | .localGet _, _ | .nop, _ | .unreachable, _ => rfl
  | .localSet _ value, σ | .localTee _ value, σ => by
    simp only [lowerInstr, run_bind, run_pure, (quiet_ensurePopArgs 1).scopes, lowerOpt_shapes]
  | .unary op operand, σ => by
    simp only [lowerInstr, run_bind, run_pure, (quiet_lowerUnary env op).scopes, lowerOpt_shapes]
  | .binary op left right, σ => by
    simp only [lowerInstr, run_bind, run_pure, (quiet_lowerBinary env op).scopes, lowerOpt_shapes]
  | .call _ ops, σ | .select ops, σ | .structural _ ops, σ => by
    simp only [lowerInstr, run_bind, run_pure, lowerList_shapes]
  | .block label body, σ | .loop label body, σ => by
    simp only [lowerInstr, run_bind, run_pure, leaveScope_scopes, List.map_tail, lowerList_shapes,
      enterScope_run, List.map_cons, List.tail_cons]
  | .ite label cond thenBody elseBody, σ => by
    cases elseBody <;>
      simp only [lowerInstr, run_bind, run_pure, leaveScope_scopes, List.map_tail, lowerList_shapes,
        enterScope_run, List.map_cons, List.tail_cons, run_map]
  | .br target ops, σ | .brIf target ops, σ => by
    simp only [lowerInstr, run_bind, run_pure, resolveBranch_shapes, lowerList_shapes]
  | .brTable ops targets default, σ => by
    simp only [lowerInstr, run_bind, run_pure, resolveBranch_shapes, resolveAll_shapes, lowerList_shapes]
  | .ret ops, σ => by
    simp only [lowerInstr, run_bind, run_pure, exitLabel_scopes, lowerList_shapes]

theorem lowerOpt_shapes (env : Env) : ∀ (i : Option Instr) (σ : State),
    ((lowerOpt env i).run σ).2.scopes.map Scope.shape = σ.scopes.map Scope.shape
  | some i, σ => lowerInstr_shapes env i σ
  | none, _ => rfl

theorem lowerList_shapes (env : Env) : ∀ (is : List Instr) (σ : State),
    ((lowerList env is).run σ).2.scopes.map Scope.shape = σ.scopes.map Scope.shape
  | [], _ => rfl
  | i :: rest, σ => by
    simp only [lowerList, run_bind, run_pure, lowerList_shapes env rest, lowerInstr_shapes env i]

end

theorem scopeLabels_of_shapes {σ σ' : State} (shapes : σ'.scopes.map Scope.shape = σ.scopes.map Scope.shape) :
    σ'.scopes.map Scope.label = σ.scopes.map Scope.label := by
  have labels := congrArg (List.map Scope.label) shapes
  simpa only [List.map_map, Function.comp_def, Scope.shape_label] using labels

/-- The labels of the open scopes, innermost first, are the same after an instruction. -/
theorem lowerInstr_scopeLabels (env : Env) (i : Instr) (σ : State) :
    ((lowerInstr env i).run σ).2.scopes.map Scope.label = σ.scopes.map Scope.label :=
  scopeLabels_of_shapes (lowerInstr_shapes env i σ)

theorem lowerList_scopeLabels (env : Env) (is : List Instr) (σ : State) :
    ((lowerList env is).run σ).2.scopes.map Scope.label = σ.scopes.map Scope.label :=
  scopeLabels_of_shapes (lowerList_shapes env is σ)

end Lower

end WasmBoogie
