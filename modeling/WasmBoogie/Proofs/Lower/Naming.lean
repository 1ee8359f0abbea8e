import WasmBoogie.Proofs.Lower.PerFunction
import WasmBoogie.Proofs.Instr.RealStack

namespace WasmBoogie

open Boogie

/-- The name of the procedure a declaration declares, if it declares one. -/
def Boogie.Decl.procedureName? : Decl → Option String
  | .procedure q => some q.name
  | _ => none

/-- The names of the procedures a program declares, in order. -/
def Boogie.Program.procedureNames (p : Program) : List String :=
  p.decls.filterMap Decl.procedureName?

namespace Ident

/-- Words that all start otherwise than with a prefix do not hold a name with that prefix. -/
theorem not_mem_of_prefix {words : List String} {pre : String}
    (fresh : ∀ w ∈ words, ¬ pre.toList <+: w.toList) (rest : String) : pre ++ rest ∉ words :=
  fun mem => fresh _ mem (by simp)

theorem isReserved_wasm (rest : String) : isReserved ("wasm_" ++ rest) = false := by
  have fresh : ∀ w ∈ reservedWords, ¬ "wasm_".toList <+: w.toList := by decide
  simp [isReserved, not_mem_of_prefix fresh]

theorem isReserved_func (rest : String) : isReserved ("func_" ++ rest) = false := by
  have fresh : ∀ w ∈ reservedWords, ¬ "func_".toList <+: w.toList := by decide
  simp [isReserved, not_mem_of_prefix fresh]

/-- A reserved word gets the prefix `wasm_`, after which it is no longer reserved. -/
theorem isReserved_guarded (ident : String) :
    isReserved (if isReserved ident then "wasm_" ++ ident else ident) = false := by
  split
  · exact isReserved_wasm ident
  · rename_i kept
    simpa using kept

/-- No name sanitizes to a reserved word. -/
theorem isReserved_sanitize (name : String) : isReserved (sanitize name) = false := by
  unfold sanitize
  dsimp only
  split
  · decide
  · split
    · exact isReserved_func _
    · exact isReserved_guarded _

theorem isReserved_procedureName (name : Option String) (index : Nat) :
    isReserved (procedureName name index) = false := by
  cases name with
  | some n => exact isReserved_sanitize n
  | none => exact isReserved_func _

theorem isReserved_importName (i : Import) : isReserved (importName i) = false := by
  unfold importName
  split <;> exact isReserved_sanitize _

theorem isReserved_popArgsName (arity : Nat) : isReserved (popArgsName arity) = true := by
  have digits : (toString arity).toList = Nat.toDigits 10 arity := by
    simp [Nat.toString_eq_repr, Nat.toList_repr]
  have stem : (toString "popArgs").toList = ['p', 'o', 'p', 'A', 'r', 'g', 's'] := by decide
  simp only [isReserved, popArgsName, Bool.or_eq_true]
  right
  simp only [String.toList_append, digits, stem, List.cons_append, List.nil_append]
  simp only [Bool.and_eq_true, Bool.not_eq_true', List.isEmpty_eq_false_iff, List.all_eq_true]
  exact ⟨Nat.toDigits_ne_nil, fun _ mem => digits_isAsciiDigit mem⟩

end Ident

namespace CalleeTable

/-- Every entry with a declared name is declared under that name sanitized. -/
theorem entries_named {m : Module} : ∀ e ∈ entries m, ∀ n, e.2.1 = some n → e.2.2 = Ident.sanitize n := by
  intro e mem n named
  rcases List.mem_append.1 mem with imported | defined
  · obtain ⟨i, -, rfl⟩ := List.mem_map.1 imported
    simp only at named ⊢
    simp [Ident.importName, named]
  · obtain ⟨f, -, rfl⟩ := List.mem_map.1 defined
    simp only at named ⊢
    simp [Ident.procedureName, named]

/-- Adding entries succeeds exactly when their procedure names are distinct and no earlier entry
owns one of them. -/
theorem addEntries_succeeds_iff : ∀ (t : CalleeTable) (owners : List (String × Nat))
    (es : List (Nat × Option String × String)),
    (∃ t', addEntries t owners es = .ok t') ↔ (es.map (·.2.2)).Nodup ∧ ∀ e ∈ es, e.2.2 ∉ owners.map (·.1)
  | t, owners, [] => by simp [addEntries]
  | t, owners, (index, name, proc) :: rest => by
    simp only [List.map_cons, List.nodup_cons, List.forall_mem_cons]
    cases found : owners.find? (·.1 == proc) with
    | some owner =>
      have owned : proc ∈ owners.map (·.1) := by
        have := List.find?_some found
        exact List.mem_map.2 ⟨owner, List.mem_of_find?_eq_some found, by simpa using this⟩
      simp only [addEntries, found, reduceCtorEq, exists_false, false_iff]
      exact fun ⟨_, free, _⟩ => free owned
    | none =>
      have free : proc ∉ owners.map (·.1) := by
        intro owned
        obtain ⟨owner, mem, rfl⟩ := List.mem_map.1 owned
        exact absurd (List.find?_eq_none.1 found owner mem) (by simp)
      simp only [addEntries, found]
      rw [addEntries_succeeds_iff]
      simp only [List.map_cons, List.mem_cons, not_or]
      constructor
      · rintro ⟨nodup, fresh⟩
        refine ⟨⟨fun mem => ?_, nodup⟩, free, fun e e_mem => (fresh e e_mem).2⟩
        obtain ⟨e, e_mem, same⟩ := List.mem_map.1 mem
        exact (fresh e e_mem).1 same
      · rintro ⟨⟨apart, nodup⟩, -, fresh⟩
        refine ⟨nodup, fun e e_mem => ⟨fun same => apart ?_, fresh e e_mem⟩⟩
        exact List.mem_map.2 ⟨e, e_mem, same⟩

/-- The callee table of a module builds exactly when no two of its functions share a procedure
name. -/
theorem build_succeeds_iff (m : Module) :
    (∃ t, build m = .ok t) ↔ ((entries m).map (·.2.2)).Nodup := by
  rw [build, addEntries_succeeds_iff]
  simp

/-- A table that fails to build names a clash of procedure names. -/
theorem addEntries_error : ∀ {t : CalleeTable} {owners : List (String × Nat)}
    {es : List (Nat × Option String × String)} {e : LowerError},
    addEntries t owners es = .error e → ∃ name first second, e = .duplicateFunctionName name first second
  | _, _, [], _, h => nomatch h
  | t, owners, (index, name, proc) :: rest, e, h => by
    simp only [addEntries] at h
    split at h
    · exact ⟨_, _, _, (Except.error.inj h).symm⟩
    · exact addEntries_error h

/-- A built table lists every entry by index and by declared name, the latest first. -/
theorem addEntries_tables : ∀ {t : CalleeTable} {owners : List (String × Nat)}
    {es : List (Nat × Option String × String)} {t' : CalleeTable},
    addEntries t owners es = .ok t' →
      t'.byIndex = (es.map fun e => (e.1, e.2.2)).reverse ++ t.byIndex ∧
      t'.byName = (es.filterMap fun e => e.2.1.map fun n => (n, e.2.2)).reverse ++ t.byName
  | t, _, [], t', h => by
    cases h
    simp
  | t, owners, (index, name, proc) :: rest, t', h => by
    simp only [addEntries] at h
    split at h
    · cases h
    · obtain ⟨byIndex, byName⟩ := addEntries_tables h
      refine ⟨by simp [byIndex], ?_⟩
      rw [byName]
      cases name <;> simp

/-- A call target denotes a function of the module: a run of digits whose value is the
function's index, or a dollar sign followed by the function's name. -/
def Denotes (target : String) (index : Nat) (name : Option String) : Prop :=
  (isDigits target = true ∧ digitsValue target = index) ∨ ∃ n, name = some n ∧ target = "$" ++ n

theorem isDigits_dollar (n : String) : isDigits ("$" ++ n) = false := by
  simp [isDigits, isAsciiDigit]

theorem dropDollar_dollar (n : String) : dropDollar? ("$" ++ n) = some n := by
  simp [dropDollar?]

/-- A target that is not an index resolves to its name sanitized, with the dollar sign dropped:
the table maps every declared name to that. -/
theorem resolve_name (t : CalleeTable) (named : ∀ p ∈ t.byName, p.2 = Ident.sanitize p.1) {target : String}
    (notIndex : isDigits target = false) :
    t.resolve target = Ident.sanitize ((dropDollar? target).getD target) := by
  simp only [resolve, notIndex, Bool.false_eq_true, if_false]
  cases found : t.byName.find? (·.1 == (dropDollar? target).getD target) with
  | none => rfl
  | some p =>
    have key : p.1 = (dropDollar? target).getD target := by simpa using List.find?_some found
    rw [Option.map_some, Option.getD_some, named p (List.mem_of_find?_eq_some found), key]

theorem resolve_dollar (t : CalleeTable) (named : ∀ p ∈ t.byName, p.2 = Ident.sanitize p.1) (n : String) :
    t.resolve ("$" ++ n) = Ident.sanitize n := by
  rw [resolve_name t named (isDigits_dollar n), dropDollar_dollar, Option.getD_some]

/-- In a list with distinct keys, the lookup of a key finds its one entry. -/
theorem find?_key {l : List (Nat × String)} (keys : (l.map (·.1)).Nodup) {k : Nat} {v : String}
    (mem : (k, v) ∈ l) : l.find? (·.1 == k) = some (k, v) := by
  cases hit : l.find? (·.1 == k) with
  | none => simpa using List.find?_eq_none.1 hit (k, v) mem
  | some found =>
    have key : found.1 = k := by simpa using List.find?_some hit
    rw [List.inj_on_of_nodup_map keys (List.mem_of_find?_eq_some hit) mem key]

/-- A run of digits whose value fits in 32 bits resolves to the entry with that index. -/
theorem resolve_digits (t : CalleeTable) (keys : (t.byIndex.map (·.1)).Nodup) {target proc : String}
    {index : Nat} (digits : isDigits target = true) (value : digitsValue target = index) (word : index ≤ u32Max)
    (mem : (index, proc) ∈ t.byIndex) : t.resolve target = proc := by
  simp only [resolve, digits, if_true, value, word, find?_key keys mem, Option.map_some, Option.getD_some]

theorem isReserved_entries {m : Module} : ∀ proc ∈ (entries m).map (·.2.2), Ident.isReserved proc = false := by
  intro proc named
  obtain ⟨e, mem, rfl⟩ := List.mem_map.1 named
  rcases List.mem_append.1 mem with imported | defined
  · obtain ⟨i, -, rfl⟩ := List.mem_map.1 imported
    exact Ident.isReserved_importName i
  · obtain ⟨f, -, rfl⟩ := List.mem_map.1 defined
    exact Ident.isReserved_procedureName f.name f.index

section Built

variable {m : Module} {t : CalleeTable}

/-- A built table maps every declared name to that name sanitized. -/
theorem byName_sanitized (built : build m = .ok t) : ∀ p ∈ t.byName, p.2 = Ident.sanitize p.1 := by
  intro p mem
  rw [(addEntries_tables built).2, List.append_nil, List.mem_reverse, List.mem_filterMap] at mem
  obtain ⟨e, e_mem, found⟩ := mem
  cases named : e.2.1 with
  | none =>
    rw [named] at found
    cases found
  | some n =>
    rw [named, Option.map_some, Option.some.injEq] at found
    subst found
    exact entries_named e e_mem n named

/-- In a built table, a call target resolves to the procedure of the entry it denotes. -/
theorem resolve_entry (built : build m = .ok t) (indices : ((entries m).map (·.1)).Nodup)
    {e : Nat × Option String × String} (word : e.1 ≤ u32Max) (mem : e ∈ entries m) {target : String}
    (denotes : Denotes target e.1 e.2.1) : t.resolve target = e.2.2 := by
  have byIndex : t.byIndex = ((entries m).map fun e => (e.1, e.2.2)).reverse := by
    simpa using (addEntries_tables built).1
  rcases denotes with ⟨digits, value⟩ | ⟨n, named, rfl⟩
  · have keys : (t.byIndex.map (·.1)).Nodup := by
      rw [byIndex, List.map_reverse, List.map_map]
      exact List.nodup_reverse.2 indices
    refine resolve_digits t keys digits value word ?_
    rw [byIndex, List.mem_reverse]
    exact List.mem_map.2 ⟨e, mem, rfl⟩
  · rw [resolve_dollar t (byName_sanitized built) n, entries_named e mem n named]

end Built

end CalleeTable

namespace Lower

/-- The procedures that every lowered program declares first. -/
def runtimeProcedureNames : List String := ["push", "popToTmp1", "popToTmp2", "popToTmp3", "pop"]

theorem runtimeProcedureNames_reserved : ∀ r ∈ runtimeProcedureNames, Ident.isReserved r = true := by
  decide

theorem procedureNames_helperDecls (arities : List Nat) :
    (helperDecls arities).filterMap Decl.procedureName? = arities.map Ident.popArgsName := by
  induction arities with
  | nil => rfl
  | cons n rest ih =>
    simp only [helperDecls, List.flatMap_cons, List.filterMap_append, List.map_cons] at ih ⊢
    rw [ih]
    rfl

/-- The head of a lowered program declares the runtime's procedures, the helpers and one
procedure per import, in that order. -/
theorem procedureNames_programHead (options : LowerOptions) (imports : List Import) (arities : List Nat) :
    (programHead options imports arities).filterMap Decl.procedureName? =
      runtimeProcedureNames ++ arities.map Ident.popArgsName ++ imports.map Ident.importName := by
  have runtime : prelude.filterMap Decl.procedureName? = runtimeProcedureNames := by decide
  have imported : (imports.map fun i => importProcedure (Ident.importName i) i.paramCount i.resultCount).filterMap
      Decl.procedureName? = imports.map Ident.importName := by
    rw [List.filterMap_map]
    exact congrFun List.filterMap_eq_map imports
  cases contract : options.contractName <;>
    simp only [programHead, contract, List.filterMap_append, List.filterMap_cons, Decl.procedureName?,
      List.filterMap_nil, runtime, procedureNames_helperDecls, imported, List.nil_append]

theorem lowerFunction_name (options : LowerOptions) (callees : CalleeTable) (name : String) (f : Function)
    (σ : State) : ((lowerFunction options callees name f).run σ).1.1.name = name := by
  unfold lowerFunction
  dsimp only
  split <;> rfl

theorem procedureNames_aloneDecls (options : LowerOptions) (callees : CalleeTable) (fs : List Function) :
    (fs.flatMap (aloneDecls options callees)).filterMap Decl.procedureName? =
      fs.map fun f => Ident.procedureName f.name f.index := by
  induction fs with
  | nil => rfl
  | cons f rest ih =>
    rw [List.flatMap_cons, List.filterMap_append, ih, List.map_cons]
    simp [aloneDecls, Decl.procedureName?, lowerAlone, lowerFunction_name]

/-- A lowered program declares the runtime's procedures, the helpers in use, each once, and the
procedures of the module's imports and functions, in that order. -/
theorem lowerModule_procedureNames {m : Module} {options : LowerOptions} {r : LoweredModule}
    (lowered : lowerModule m options = .ok r) :
    ∃ arities : List Nat, arities.Nodup ∧ (∃ callees, CalleeTable.build m = .ok callees) ∧
      r.program.procedureNames =
        runtimeProcedureNames ++ arities.map Ident.popArgsName ++ (CalleeTable.entries m).map (·.2.2) := by
  obtain ⟨callees, helpers, built, -, -, decls, -⟩ := lowerModule_ok lowered
  refine ⟨_, (foldl_insertSorted helpers [] List.Pairwise.nil).1.nodup, ⟨callees, built⟩, ?_⟩
  simp only [Program.procedureNames, decls, List.filterMap_append, procedureNames_programHead,
    procedureNames_aloneDecls, CalleeTable.entries, List.map_append, List.map_map, List.append_assoc]
  rfl

/-- The names of a lowered program's procedures are distinct when the module's are. -/
theorem procedureNames_nodup {arities : List Nat} {names : List String} (distinct : arities.Nodup)
    (module : names.Nodup) (unreserved : ∀ n ∈ names, Ident.isReserved n = false) :
    (runtimeProcedureNames ++ arities.map Ident.popArgsName ++ names).Nodup := by
  have helpers : (arities.map Ident.popArgsName).Nodup :=
    distinct.map fun _ _ same => popArgsName_inj.1 same
  have reserved : ∀ r ∈ runtimeProcedureNames ++ arities.map Ident.popArgsName, Ident.isReserved r = true := by
    intro r mem
    rcases List.mem_append.1 mem with runtime | helper
    · exact runtimeProcedureNames_reserved r runtime
    · obtain ⟨n, -, rfl⟩ := List.mem_map.1 helper
      exact Ident.isReserved_popArgsName n
  have apart : ∀ r ∈ runtimeProcedureNames, r ∉ arities.map Ident.popArgsName := by
    have fresh : ∀ w ∈ runtimeProcedureNames, ¬ "popArgs".toList <+: w.toList := by decide
    intro r mem helper
    obtain ⟨n, -, rfl⟩ := List.mem_map.1 helper
    exact Ident.not_mem_of_prefix fresh (toString n) mem
  refine List.nodup_append.2 ⟨List.nodup_append.2 ⟨by decide, helpers, fun r mem r' mem' same => ?_⟩, module,
    fun r mem n mem' same => ?_⟩
  · exact apart r mem (same ▸ mem')
  · have := reserved r mem
    rw [same, unreserved n mem'] at this
    cases this

end Lower

/-- Procedure naming is collision-free and calls reach their declarations. For a module whose
functions, imports included, have distinct indices that are 32-bit words: the callee table
builds exactly when the procedure names of the functions are distinct; a lowered program then
declares every procedure once, the function's among them; and a call target that denotes a
function, by index or by a dollar sign and its name, resolves to the name of that function's
procedure. -/
theorem procedure_names_distinct_and_resolved (m : Module)
    (indices : ((CalleeTable.entries m).map (·.1)).Nodup)
    (words : ∀ e ∈ CalleeTable.entries m, e.1 ≤ u32Max) :
    ((∃ callees, CalleeTable.build m = .ok callees) ↔ ((CalleeTable.entries m).map (·.2.2)).Nodup) ∧
    (∀ options r, lowerModule m options = .ok r →
      r.program.procedureNames.Nodup ∧ ∀ e ∈ CalleeTable.entries m, e.2.2 ∈ r.program.procedureNames) ∧
    ∀ callees, CalleeTable.build m = .ok callees →
      ∀ e ∈ CalleeTable.entries m, ∀ target, CalleeTable.Denotes target e.1 e.2.1 →
        callees.resolve target = e.2.2 := by
  refine ⟨CalleeTable.build_succeeds_iff m, fun options r lowered => ?_, fun callees built e mem target denotes =>
    CalleeTable.resolve_entry built indices (words e mem) mem denotes⟩
  obtain ⟨arities, distinct, built, names⟩ := Lower.lowerModule_procedureNames lowered
  rw [names]
  exact ⟨Lower.procedureNames_nodup distinct ((CalleeTable.build_succeeds_iff m).1 built)
    CalleeTable.isReserved_entries, fun e e_mem => List.mem_append_right _ (List.mem_map.2 ⟨e, e_mem, rfl⟩)⟩

/-- The module of three functions and an import that calls resolve in: a function named
`helper`, an unnamed function with index 2, and an import of `print-it` with index 3. -/
theorem three_functions_and_an_import_resolve :
    let m : Module := {
      imports := [⟨3, "env", "print-it", none, 1, 0⟩]
      functions := [⟨some "main", 0, [], 0, 0, 0, []⟩, ⟨some "helper", 1, [], 0, 0, 0, []⟩,
        ⟨none, 2, [], 0, 0, 0, []⟩] }
    ((CalleeTable.entries m).map (·.1)).Nodup ∧ (∀ e ∈ CalleeTable.entries m, e.1 ≤ u32Max) ∧
    (((∃ callees, CalleeTable.build m = .ok callees) ↔ ((CalleeTable.entries m).map (·.2.2)).Nodup) ∧
    (∀ options r, lowerModule m options = .ok r →
      r.program.procedureNames.Nodup ∧ ∀ e ∈ CalleeTable.entries m, e.2.2 ∈ r.program.procedureNames) ∧
    ∀ callees, CalleeTable.build m = .ok callees →
      ∀ e ∈ CalleeTable.entries m, ∀ target, CalleeTable.Denotes target e.1 e.2.1 →
        callees.resolve target = e.2.2) :=
  ⟨by decide, by decide, procedure_names_distinct_and_resolved _ (by decide) (by decide)⟩

end WasmBoogie
