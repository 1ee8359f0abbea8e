import WasmBoogie.Proofs.Instr.LocalSlots
import WasmBoogie.Proofs.Instr.LabelCheck
import WasmBoogie.Proofs.Lower.Naming
import WasmBoogie.Proofs.Lower.ControlFlow

namespace WasmBoogie

open Boogie

namespace Lower

/-- A slot below the count of parameters and locals names the variable declared for it. -/
theorem getElem?_slotNames {params locals slot : Nat} (within : slot < params + locals) :
    (slotNames params locals)[slot]? = some (localName params slot) := by
  unfold slotNames localName
  by_cases param : slot < params
  · rw [List.getElem?_append_left (by simpa using param)]
    simp [param]
  · rw [List.getElem?_append_right (by simpa using Nat.le_of_not_lt param)]
    have local_ : slot - params < locals := by omega
    simp [List.getElem?_range local_, param]

/-- Lowering a body from no open scope leaves none open. -/
theorem lowerList_closes_scopes (env : Env) (body : List Instr) {σ : State} (closed : σ.scopes = []) :
    ((lowerList env body).run σ).2.scopes = [] :=
  scopes_eq_nil_of_shapes (lowerList_shapes env body σ) closed

theorem labelsPass_iff {options : LowerOptions} {f : Function} :
    LabelsPass options f ↔ (options.verifyLabels = true → ¬ Instr.RepeatsLabel f.body) := by
  rw [LabelsPass, verifyLabels_ok_iff]

end Lower

/-- Lowering a module read from its source cannot fail but on its two checks. Every slot the
lowering looks up names the variable declared for it, and no scope stays open after a body. The
lowering fails exactly when the callee table finds two functions under one procedure name, with
that error, or when the label check is asked for and a body repeats a label, with the label
check's error for the first such function under its procedure name; otherwise it succeeds. -/
theorem lowerModule_fails_only_on_checks (src : ModuleSource) {m : Module} (read : src.read = .ok m)
    (options : LowerOptions) :
    (∀ f ∈ m.functions, ∀ slot ∈ Instr.slotsList f.body,
      (Lower.slotNames f.paramCount f.localCount)[slot]? = some (Lower.localName f.paramCount slot)) ∧
    (∀ f ∈ m.functions, ∀ env σ, σ.scopes = [] → ((Lower.lowerList env f.body).run σ).2.scopes = []) ∧
    (∀ e, lowerModule m options = .error e ↔
      (CalleeTable.build m = .error e ∧ ∃ name first second, e = .duplicateFunctionName name first second) ∨
      ((∃ callees, CalleeTable.build m = .ok callees) ∧ options.verifyLabels = true ∧
        ∃ pre f post, m.functions = pre ++ f :: post ∧ (∀ g ∈ pre, ¬ Instr.RepeatsLabel g.body) ∧
          Instr.RepeatsLabel f.body ∧ ∃ l n, verifyLabels f.body = .error (.duplicateLabel l n) ∧
            e = .parse (Ident.procedureName f.name f.index) (.duplicateLabel l n))) ∧
    ((∃ r, lowerModule m options = .ok r) ↔ (∃ callees, CalleeTable.build m = .ok callees) ∧
      (options.verifyLabels = true → ∀ f ∈ m.functions, ¬ Instr.RepeatsLabel f.body)) := by
  have slots := src.read_slotsBelow m read
  refine ⟨fun f mem slot used => Lower.getElem?_slotNames (slots f mem slot used),
    fun f _ env σ closed => Lower.lowerList_closes_scopes env f.body closed, fun e => ?_, ?_⟩
  · rw [Lower.lowerModule_error_iff]
    constructor
    · rintro (clash | ⟨built, f, err, ⟨on, pre, post, split, passes, fails⟩, rfl⟩)
      · exact .inl ⟨clash, CalleeTable.addEntries_error clash⟩
      obtain ⟨l, n, rfl⟩ := verifyLabels_error fails
      have repeats : Instr.RepeatsLabel f.body := by
        by_contra fresh
        rw [(verifyLabels_ok_iff f.body).2 fresh] at fails
        cases fails
      exact .inr ⟨built, on, pre, f, post, split, fun g mem => Lower.labelsPass_iff.1 (passes g mem) on,
        repeats, l, n, fails, rfl⟩
    · rintro (⟨clash, -⟩ | ⟨built, on, pre, f, post, split, fresh, -, l, n, fails, rfl⟩)
      · exact .inl clash
      · exact .inr ⟨built, f, _, ⟨on, pre, post, split, fun g mem => Lower.labelsPass_iff.2 fun _ => fresh g mem,
          fails⟩, rfl⟩
  · rw [Lower.lowerModule_succeeds_iff]
    exact and_congr_right fun _ =>
      ⟨fun passes on f mem => Lower.labelsPass_iff.1 (passes f mem) on,
        fun fresh f mem => Lower.labelsPass_iff.2 fun on => fresh on f mem⟩

/-- A module that imports one procedure and defines none reads, and its lowering fails only on
the two checks. -/
theorem imported_module_fails_only_on_checks :
    let src : ModuleSource := { imports := [⟨0, "env", "log", none, 1, 0⟩] }
    let m : Module := { imports := [⟨0, "env", "log", none, 1, 0⟩] }
    src.read = .ok m ∧
    (∀ f ∈ m.functions, ∀ slot ∈ Instr.slotsList f.body,
      (Lower.slotNames f.paramCount f.localCount)[slot]? = some (Lower.localName f.paramCount slot)) ∧
    (∀ f ∈ m.functions, ∀ env σ, σ.scopes = [] → ((Lower.lowerList env f.body).run σ).2.scopes = []) ∧
    (∀ e, lowerModule m {} = .error e ↔
      (CalleeTable.build m = .error e ∧ ∃ name first second, e = .duplicateFunctionName name first second) ∨
      ((∃ callees, CalleeTable.build m = .ok callees) ∧ LowerOptions.verifyLabels {} = true ∧
        ∃ pre f post, m.functions = pre ++ f :: post ∧ (∀ g ∈ pre, ¬ Instr.RepeatsLabel g.body) ∧
          Instr.RepeatsLabel f.body ∧ ∃ l n, verifyLabels f.body = .error (.duplicateLabel l n) ∧
            e = .parse (Ident.procedureName f.name f.index) (.duplicateLabel l n))) ∧
    ((∃ r, lowerModule m {} = .ok r) ↔ (∃ callees, CalleeTable.build m = .ok callees) ∧
      (LowerOptions.verifyLabels {} = true → ∀ f ∈ m.functions, ¬ Instr.RepeatsLabel f.body)) :=
  ⟨rfl, lowerModule_fails_only_on_checks { imports := [⟨0, "env", "log", none, 1, 0⟩] } rfl {}⟩

end WasmBoogie
