import WasmBoogie.Proofs.Lower.Branches

namespace WasmBoogie

open Boogie Boogie.Stmt

namespace Lower

/-- The environment a function is lowered in. -/
def functionEnv (options : LowerOptions) (callees : CalleeTable) (name : String) (f : Function) : Env :=
  ⟨options, callees, name, scanLabels f.body, f.paramCount⟩

theorem append_exitStmts (pre out post : List Stmt) (exit : Option String) :
    pre ++ out ++ (match exit with
      | some l => [Stmt.label l]
      | none => []) ++ post = pre ++ out ++ exit.toList.map Stmt.label ++ post := by
  cases exit <;> rfl

/-- The last statement of a lowered implementation: the check of the stack's balance, or a
comment where the check is off. -/
def functionFooter (options : LowerOptions) (f : Function) : Stmt :=
  if options.stackAssert then .assert (stackEffect (.ident "entry_sp") f.paramCount f.resultCount)
  else .comment "footer stack assert disabled"

theorem functionFooter_plain (options : LowerOptions) (f : Function) : Plain [functionFooter options f] := by
  unfold functionFooter
  split <;> exact ⟨rfl, rfl⟩

/-- The body of a lowered implementation: a prologue with no label and no jump, the statements
of the function's instructions lowered from a state with no open scope, no exit label and the label
and scope counts at zero, the exit label if a jump made it, and the footer. -/
theorem lowerFunction_body_footer (options : LowerOptions) (callees : CalleeTable) (name : String)
    (f : Function) (σ : State) :
    ∃ σ₀ pre,
      ((lowerFunction options callees name f).run σ).1.2.body =
        pre ++ ((lowerList (functionEnv options callees name f) f.body).run σ₀).1 ++
          ((lowerList (functionEnv options callees name f) f.body).run σ₀).2.exitLabel.toList.map Stmt.label ++
            [functionFooter options f] ∧
      Plain pre ∧ σ₀.scopes = [] ∧ σ₀.nextLabel = 0 ∧ σ₀.nextOrdinal = 0 ∧ σ₀.exitLabel = none := by
  unfold lowerFunction
  have zeroLocals : ∀ names : List String, Plain (names.map fun n => Stmt.assign (.ident n) Expr.realZero) :=
    fun names => Plain.of_mem fun s mem => by
      obtain ⟨n, -, rfl⟩ := List.mem_map.1 mem
      exact ⟨rfl, rfl⟩
  by_cases h : f.paramCount > 0 <;> simp only [h, if_true, if_false, run_bind, run_pure, run_get, ensurePopArgs]
  all_goals exact ⟨_, _, append_exitStmts _ _ _ _, (Plain.append ⟨rfl, rfl⟩ ⟨rfl, rfl⟩).append (zeroLocals _),
    rfl, rfl, rfl, rfl⟩

/-- The body of a lowered implementation: a prologue with no label and no jump, the statements
of the function's instructions lowered from a state with no open scope, no exit label and the label
and scope counts at zero, the exit label if a jump made it, and a footer with no label and no
jump. -/
theorem lowerFunction_body_split (options : LowerOptions) (callees : CalleeTable) (name : String)
    (f : Function) (σ : State) :
    ∃ σ₀ pre post,
      ((lowerFunction options callees name f).run σ).1.2.body =
        pre ++ ((lowerList (functionEnv options callees name f) f.body).run σ₀).1 ++
          ((lowerList (functionEnv options callees name f) f.body).run σ₀).2.exitLabel.toList.map Stmt.label ++ post ∧
      Plain pre ∧ Plain post ∧ σ₀.scopes = [] ∧ σ₀.nextLabel = 0 ∧ σ₀.nextOrdinal = 0 ∧ σ₀.exitLabel = none := by
  obtain ⟨σ₀, pre, body, prePlain, start⟩ := lowerFunction_body_footer options callees name f σ
  exact ⟨σ₀, pre, _, body, prePlain, functionFooter_plain options f, start⟩

@[simp] theorem labelDefsList_exitStmts (exit : Option String) :
    labelDefsList (exit.toList.map Stmt.label) = exit.toList := by
  cases exit <;> rfl

@[simp] theorem labelRefsList_exitStmts (exit : Option String) :
    labelRefsList (exit.toList.map Stmt.label) = [] := by
  cases exit <;> rfl

@[simp] theorem ownLabels_exitStmts (exit : Option String) :
    ownLabels (exit.toList.map Stmt.label) = exit.toList := by
  cases exit <;> rfl

/-- The labels placed in a lowered body: those of the lowered statements and the exit label. -/
theorem labelDefsList_split {pre out post : List Stmt} (prePlain : Plain pre) (postPlain : Plain post)
    (exit : Option String) :
    labelDefsList (pre ++ out ++ exit.toList.map Stmt.label ++ post) = labelDefsList out ++ exit.toList := by
  simp only [labelDefsList_append, prePlain.noDefs, postPlain.noDefs, labelDefsList_exitStmts,
    List.nil_append, List.append_nil]

/-- The labels jumped to in a lowered body: those the lowered statements jump to. -/
theorem labelRefsList_split {pre out post : List Stmt} (prePlain : Plain pre) (postPlain : Plain post)
    (exit : Option String) :
    labelRefsList (pre ++ out ++ exit.toList.map Stmt.label ++ post) = labelRefsList out := by
  simp only [labelRefsList_append, prePlain.noRefs, postPlain.noRefs, labelRefsList_exitStmts,
    List.nil_append, List.append_nil]

/-- A function's body is lowered from no open scope, in step with the scan from its start. -/
theorem Synced.start {σ : State} (scopes : σ.scopes = []) (ordinals : σ.nextOrdinal = 0) : Synced σ {} where
  next := ordinals
  below := by simp [scopes]
  distinct := by simp [scopes]
  marks_below b o mem := by cases b <;> simp [LabelNeeds.of] at mem
  referenced := by simp [scopes]

theorem scopes_eq_nil_of_shapes {σ σ' : State} (shapes : σ'.scopes.map Scope.shape = σ.scopes.map Scope.shape)
    (closed : σ.scopes = []) : σ'.scopes = [] := by
  rw [closed, List.map_nil, List.map_eq_nil_iff] at shapes
  exact shapes

/-- Lowered statements between a plain prologue and footer, followed by the exit label, are well
jumped when their labels and the exit label are numbered apart and their jumps stay within the
labels placed around them with no scope open. -/
theorem wellJumped_of_jumpsClosed {σ : State} {pre out post : List Stmt} (prePlain : Plain pre)
    (postPlain : Plain post) (nodup : (labelDefsList out ++ σ.exitLabel.toList).Nodup)
    (closed : σ.scopes = []) (jumps : JumpsClosed σ out) :
    WellJumped (pre ++ out ++ σ.exitLabel.toList.map Stmt.label ++ post) := by
  constructor
  · rw [labelDefsList_split prePlain postPlain]
    exact nodup
  · simp only [jumpsWithinList_append]
    refine ⟨⟨⟨JumpsWithinList.of_refs_nil prePlain.noRefs, JumpsWithinList.mono (fun l mem => ?_) _ jumps⟩,
      JumpsWithinList.of_refs_nil (labelRefsList_exitStmts _)⟩, JumpsWithinList.of_refs_nil postPlain.noRefs⟩
    simp only [reach, closed, List.filter_nil, List.map_nil, List.nil_append, List.mem_append] at mem
    simp only [ownLabels_append, ownLabels_exitStmts, List.mem_append]
    rcases mem with own | exit
    · exact .inl (.inl (.inr own))
    · exact .inl (.inr exit)

/-- The implementation of a lowered function is well jumped. -/
theorem lowerFunction_body_wellJumped (options : LowerOptions) (callees : CalleeTable) (name : String)
    (f : Function) (σ : State) : WellJumped ((lowerFunction options callees name f).run σ).1.2.body := by
  obtain ⟨σ₀, pre, post, body, prePlain, postPlain, scopes, _, ordinals, noExit⟩ :=
    lowerFunction_body_split options callees name f σ
  have run := lowerList_labelRun (functionEnv options callees name f) f.body σ₀
  have nodup := run.numbered.labels_nodup
  simp only [madeExit, noExit] at nodup
  have jumps := lowerList_jumpsClosed (functionEnv options callees name f) f.body σ₀ {}
    (Synced.start scopes ordinals) (by rw [scopes]; exact fun _ _ mem => mem)
  have closed := scopes_eq_nil_of_shapes (lowerList_shapes (functionEnv options callees name f) f.body σ₀) scopes
  rw [body]
  exact wellJumped_of_jumpsClosed prePlain postPlain nodup closed jumps

/-- The implementation of a lowered function places each label once, every jump goes to
exactly one placed label, and that label is placed in the statement list of the jump or in a list
around the `if` that holds it. -/
theorem lowerFunction_wellJumped (options : LowerOptions) (callees : CalleeTable) (name : String)
    (f : Function) (σ : State) :
    WellJumped ((lowerFunction options callees name f).run σ).1.2.body ∧
      ∀ l ∈ labelRefsList ((lowerFunction options callees name f).run σ).1.2.body,
        (labelDefsList ((lowerFunction options callees name f).run σ).1.2.body).count l = 1 := by
  have wj := lowerFunction_body_wellJumped options callees name f σ
  exact ⟨wj, fun l ref => wj.count_eq_one ref⟩

end Lower

end WasmBoogie
