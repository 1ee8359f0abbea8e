import WasmBoogie.Proofs.Lower.Naming

namespace WasmBoogie

open Boogie

/-- The module with its functions given in another order. -/
def Module.withFunctions (m : Module) (fs : List Function) : Module := { m with functions := fs }

namespace CalleeTable

/-- In a list with distinct keys, the lookup of a key does not depend on the order. -/
theorem find?_perm {l l' : List (Nat × String)} (keys : (l.map (·.1)).Nodup) (perm : l.Perm l') (k : Nat) :
    l'.find? (·.1 == k) = l.find? (·.1 == k) := by
  cases hit : l.find? (·.1 == k) with
  | some p =>
    have key : p.1 = k := by simpa using List.find?_some hit
    have mem := perm.subset (List.mem_of_find?_eq_some hit)
    rw [← key]
    exact find?_key ((perm.map _).nodup_iff.1 keys) mem
  | none =>
    refine List.find?_eq_none.2 fun p mem => ?_
    exact List.find?_eq_none.1 hit p (perm.symm.subset mem)

theorem entries_perm {m : Module} {fs : List Function} (perm : fs.Perm m.functions) :
    (entries (m.withFunctions fs)).Perm (entries m) :=
  (perm.map _).append_left _

theorem build_succeeds_perm {m : Module} {fs : List Function} (perm : fs.Perm m.functions) :
    (∃ t, build (m.withFunctions fs) = .ok t) ↔ ∃ t, build m = .ok t := by
  rw [build_succeeds_iff, build_succeeds_iff]
  exact ((entries_perm perm).map _).nodup_iff

/-- Two tables built from the same module in two orders resolve every target alike. -/
theorem resolve_perm {m : Module} {fs : List Function} (perm : fs.Perm m.functions)
    (indices : ((entries m).map (·.1)).Nodup) {t t' : CalleeTable} (built : build m = .ok t)
    (built' : build (m.withFunctions fs) = .ok t') (target : String) :
    t'.resolve target = t.resolve target := by
  cases digits : isDigits target with
  | false =>
    rw [resolve_name t' (byName_sanitized built') digits, resolve_name t (byName_sanitized built) digits]
  | true =>
    have byIndex : t.byIndex = ((entries m).map fun e => (e.1, e.2.2)).reverse := by
      simpa using (addEntries_tables built).1
    have byIndex' : t'.byIndex = ((entries (m.withFunctions fs)).map fun e => (e.1, e.2.2)).reverse := by
      simpa using (addEntries_tables built').1
    have keys : (t.byIndex.map (·.1)).Nodup := by
      rw [byIndex, List.map_reverse, List.map_map]
      exact List.nodup_reverse.2 indices
    have same : t.byIndex.Perm t'.byIndex := by
      rw [byIndex, byIndex']
      exact (List.reverse_perm _).trans (((entries_perm perm).map _).symm.trans (List.reverse_perm _).symm)
    simp only [resolve, digits, if_true, find?_perm keys same]

end CalleeTable

namespace Lower

section Callees

variable {c c' : CalleeTable} (options : LowerOptions) (function : String) (needs : LabelNeeds) (params : Nat)

mutual

/-- An instruction lowers alike under two callee tables that resolve every target alike. -/
theorem lowerInstr_callees (resolves : ∀ target, c.resolve target = c'.resolve target) : ∀ i : Instr,
    lowerInstr ⟨options, c, function, needs, params⟩ i = lowerInstr ⟨options, c', function, needs, params⟩ i
  | .const .. | .localGet _ | .nop | .unreachable | .raw _ => rfl
  | .localSet _ value | .localTee _ value => by
    simp only [lowerInstr, lowerOpt_callees resolves value]
  | .unary _ value => by
    simp only [lowerInstr, lowerOpt_callees resolves value]
    rfl
  | .binary _ left right => by
    simp only [lowerInstr, lowerOpt_callees resolves left, lowerOpt_callees resolves right]
    rfl
  | .call target ops => by
    simp only [lowerInstr, lowerList_callees resolves ops, resolves target]
  | .select ops | .structural _ ops | .ret ops => by
    simp only [lowerInstr, lowerList_callees resolves ops]
  | .block _ body | .loop _ body => by
    simp only [lowerInstr, lowerList_callees resolves body]
    rfl
  | .ite _ cond thenBody (some elseBody) => by
    simp only [lowerInstr, lowerList_callees resolves cond, lowerList_callees resolves thenBody,
      lowerList_callees resolves elseBody]
    rfl
  | .ite _ cond thenBody none => by
    simp only [lowerInstr, lowerList_callees resolves cond, lowerList_callees resolves thenBody]
    rfl
  | .br _ ops | .brIf _ ops | .brTable ops _ _ => by
    simp only [lowerInstr, lowerList_callees resolves ops]
    rfl

theorem lowerOpt_callees (resolves : ∀ target, c.resolve target = c'.resolve target) : ∀ i : Option Instr,
    lowerOpt ⟨options, c, function, needs, params⟩ i = lowerOpt ⟨options, c', function, needs, params⟩ i
  | some i => lowerInstr_callees resolves i
  | none => rfl

theorem lowerList_callees (resolves : ∀ target, c.resolve target = c'.resolve target) : ∀ is : List Instr,
    lowerList ⟨options, c, function, needs, params⟩ is = lowerList ⟨options, c', function, needs, params⟩ is
  | [] => rfl
  | i :: rest => by
    simp only [lowerList, lowerInstr_callees resolves i, lowerList_callees resolves rest]

end

theorem lowerFunction_callees (resolves : ∀ target, c.resolve target = c'.resolve target) (name : String)
    (f : Function) : lowerFunction options c name f = lowerFunction options c' name f := by
  simp only [lowerFunction, lowerList_callees _ _ _ _ resolves]

theorem lowerAlone_callees (resolves : ∀ target, c.resolve target = c'.resolve target) (f : Function) :
    lowerAlone options c f = lowerAlone options c' f := by
  rw [lowerAlone, lowerAlone, lowerFunction_callees options resolves]

end Callees

section Permuted

variable {m : Module} {fs : List Function} (perm : fs.Perm m.functions) (options : LowerOptions)
include perm

theorem lowerModule_succeeds_perm :
    (∃ r, lowerModule (m.withFunctions fs) options = .ok r) ↔ ∃ r, lowerModule m options = .ok r := by
  rw [lowerModule_succeeds_iff, lowerModule_succeeds_iff, CalleeTable.build_succeeds_perm perm]
  exact and_congr_right fun _ =>
    ⟨fun passes f mem => passes f (perm.mem_iff.2 mem), fun passes f mem => passes f (perm.mem_iff.1 mem)⟩

/-- In a module lowered in two orders, each function is lowered alike, and the same helpers are
in use. -/
theorem lowerModule_perm_alike (indices : ((CalleeTable.entries m).map (·.1)).Nodup) {callees callees' : CalleeTable}
    (built : CalleeTable.build m = .ok callees) (built' : CalleeTable.build (m.withFunctions fs) = .ok callees')
    {helpers helpers' : List Nat}
    (used : ∀ n, n ∈ helpers ↔ ∃ f ∈ m.functions, n ∈ (lowerAlone options callees f).2.helpers)
    (used' : ∀ n, n ∈ helpers' ↔ ∃ f ∈ fs, n ∈ (lowerAlone options callees' f).2.helpers) :
    (∀ f, lowerAlone options callees' f = lowerAlone options callees f) ∧ ∀ n, n ∈ helpers' ↔ n ∈ helpers := by
  have alike : ∀ f, lowerAlone options callees' f = lowerAlone options callees f :=
    lowerAlone_callees options (CalleeTable.resolve_perm perm indices built built')
  refine ⟨alike, fun n => ?_⟩
  rw [used', used]
  simp only [alike]
  exact exists_congr fun _ => and_congr_left' perm.mem_iff

end Permuted

end Lower

/-- Functions are independent units of lowering. Permuting the functions of a module whose
functions, imports included, have distinct indices keeps whether it lowers; and when it does,
the two programs share their head and list the declarations of each function, lowered alone from
a fresh state, in the two orders, and so do the two lists of diagnostics. -/
theorem lowerModule_perm_functions (m : Module) (fs : List Function) (perm : fs.Perm m.functions)
    (indices : ((CalleeTable.entries m).map (·.1)).Nodup) (options : LowerOptions) :
    ((∃ r, lowerModule (m.withFunctions fs) options = .ok r) ↔ ∃ r, lowerModule m options = .ok r) ∧
    ∀ r r', lowerModule m options = .ok r → lowerModule (m.withFunctions fs) options = .ok r' →
      ∃ callees head, CalleeTable.build m = .ok callees ∧
        r.program.decls = head ++ m.functions.flatMap (Lower.aloneDecls options callees) ∧
        r'.program.decls = head ++ fs.flatMap (Lower.aloneDecls options callees) ∧
        r.diagnostics = m.functions.flatMap (fun f => (Lower.lowerAlone options callees f).2.diagnostics.toList) ∧
        r'.diagnostics = fs.flatMap (fun f => (Lower.lowerAlone options callees f).2.diagnostics.toList) := by
  refine ⟨Lower.lowerModule_succeeds_perm perm options, fun r r' lowered lowered' => ?_⟩
  obtain ⟨callees, helpers, built, -, used, decls, diagnostics⟩ := Lower.lowerModule_ok lowered
  obtain ⟨callees', helpers', built', -, used', decls', diagnostics'⟩ := Lower.lowerModule_ok lowered'
  obtain ⟨alike, sameHelpers⟩ := Lower.lowerModule_perm_alike perm options indices built built' used used'
  have sameDecls : Lower.aloneDecls options callees' = Lower.aloneDecls options callees :=
    funext fun f => by rw [Lower.aloneDecls, Lower.aloneDecls, alike]
  refine ⟨callees, _, built, decls, ?_, diagnostics, ?_⟩
  · rw [decls', Lower.sortedArities_eq sameHelpers, sameDecls]
    rfl
  · rw [diagnostics']
    simp only [alike]
    rfl

/-- Two functions that call each other, one by name and the other by index, lower alike in
either order. -/
theorem calling_functions_lower_in_either_order :
    let f : Function := ⟨some "f", 0, [.call "$g" []], 1, 0, 0, []⟩
    let g : Function := ⟨some "g", 1, [.call "0" []], 0, 0, 0, []⟩
    let m : Module := { functions := [f, g] }
    [g, f].Perm m.functions ∧ ((CalleeTable.entries m).map (·.1)).Nodup ∧
    (((∃ r, lowerModule (m.withFunctions [g, f]) {} = .ok r) ↔ ∃ r, lowerModule m {} = .ok r) ∧
    ∀ r r', lowerModule m {} = .ok r → lowerModule (m.withFunctions [g, f]) {} = .ok r' →
      ∃ callees head, CalleeTable.build m = .ok callees ∧
        r.program.decls = head ++ m.functions.flatMap (Lower.aloneDecls {} callees) ∧
        r'.program.decls = head ++ [g, f].flatMap (Lower.aloneDecls {} callees) ∧
        r.diagnostics = m.functions.flatMap (fun f => (Lower.lowerAlone {} callees f).2.diagnostics.toList) ∧
        r'.diagnostics = [g, f].flatMap (fun f => (Lower.lowerAlone {} callees f).2.diagnostics.toList)) :=
  ⟨List.Perm.swap _ _ [], by decide, lowerModule_perm_functions _ _ (List.Perm.swap _ _ []) (by decide) {}⟩

end WasmBoogie
