import WasmBoogie.Lower.Module

namespace WasmBoogie

namespace Instr

theorem checkLabelsList_append (opened : List (Option String)) (xs ys : List Instr) :
    checkLabelsList opened (xs ++ ys) = (do checkLabelsList opened xs; checkLabelsList opened ys) := by
  induction xs with
  | nil => simp [checkLabelsList]
  | cons i rest ih => simp only [List.cons_append, checkLabelsList, ih, bind_assoc]

theorem scanNeedsList_append (opened : List OpenScope) (xs ys : List Instr) (st : ScanState) :
    scanNeedsList opened (xs ++ ys) st = scanNeedsList opened ys (scanNeedsList opened xs st) := by
  induction xs generalizing st with
  | nil => rfl
  | cons i rest ih => exact ih _

end Instr

namespace Lower

theorem lowerList_append (env : Env) (xs ys : List Instr) :
    lowerList env (xs ++ ys) = (do
      let a ← lowerList env xs
      let b ← lowerList env ys
      pure (a ++ b)) := by
  induction xs with
  | nil => simp only [lowerList, List.nil_append, pure_bind, bind_pure]
  | cons i rest ih =>
    simp only [lowerList, List.cons_append, ih, bind_assoc, pure_bind, List.append_assoc]

/-- Two bodies that the label check, the pre-scan and the lowering read alike. -/
structure SameBody (body' body : List Instr) : Prop where
  labels : verifyLabels body' = verifyLabels body
  needs : scanLabels body' = scanLabels body
  lower : ∀ env, lowerList env body' = lowerList env body

theorem lowerFunction_congr {body : List Instr} (options : LowerOptions) (callees : CalleeTable)
    (name : String) (f : Function) (same : SameBody body f.body) :
    lowerFunction options callees name { f with body } = lowerFunction options callees name f := by
  simp only [lowerFunction, same.needs, same.lower]

end Lower

/-- The module with every function body rewritten. -/
def Module.mapBodies (rewrite : List Instr → List Instr) (m : Module) : Module :=
  { m with functions := m.functions.map fun f => { f with body := rewrite f.body } }

section Congruence

variable (rewrite : List Instr → List Instr) (same : ∀ body, Lower.SameBody (rewrite body) body)
include same

theorem Lower.lowerFunctions_mapBodies (options : LowerOptions) (callees : CalleeTable)
    (fs : List Function) (σ : Lower.State) :
    Lower.lowerFunctions options callees (fs.map fun f => { f with body := rewrite f.body }) σ =
      Lower.lowerFunctions options callees fs σ := by
  induction fs generalizing σ with
  | nil => rfl
  | cons f rest ih =>
    simp only [List.map_cons, Lower.lowerFunctions, (same f.body).labels,
      Lower.lowerFunction_congr options callees _ f (same f.body), ih]

/-- A rewriting of bodies that the label check, the pre-scan and the lowering cannot tell apart
keeps the lowered module: the same program and the same diagnostics, or the same error. The
procedure names do not read bodies at all. -/
theorem lowerModule_mapBodies (m : Module) (options : LowerOptions) :
    lowerModule (m.mapBodies rewrite) options = lowerModule m options := by
  have entries : CalleeTable.entries (m.mapBodies rewrite) = CalleeTable.entries m := by
    simp [CalleeTable.entries, Module.mapBodies]
  simp only [lowerModule, CalleeTable.build, entries]
  simp only [Module.mapBodies, Lower.lowerFunctions_mapBodies rewrite same]

end Congruence

end WasmBoogie
