import WasmBoogie.Lower.Ident
import WasmBoogie.Lower.Error

namespace WasmBoogie

/-- The procedure names of a module's functions, by index and by declared name. Later entries
come first, so that a later function with the same index is the one found.

Every imported and defined function gets a procedure name, and no two may share one. A call
target that is an index names the function with that index; one that is a name names the
function declared with it. A target that names no function still gets a procedure name, made
from the index or the name as written. -/
structure CalleeTable where
  byIndex : List (Nat × String) := []
  byName : List (String × String) := []
  deriving Repr, Inhabited

namespace CalleeTable

/-- One entry for each function: its index, its declared name and its procedure name; imports
first, then the defined functions. -/
def entries (m : Module) : List (Nat × Option String × String) :=
  m.imports.map (fun i => (i.index, i.name, Ident.importName i)) ++
    m.functions.map (fun f => (f.index, f.name, Ident.procedureName f.name f.index))

/-- Adds entries in order; a procedure name that an earlier entry owns is an error naming both
indices. -/
def addEntries (t : CalleeTable) (owners : List (String × Nat)) :
    List (Nat × Option String × String) → Except LowerError CalleeTable
  | [] => .ok t
  | (index, name, proc) :: rest =>
    match owners.find? (·.1 == proc) with
    | some (_, first) => .error (.duplicateFunctionName proc first index)
    | none =>
      let byName := match name with
        | some n => (n, proc) :: t.byName
        | none => t.byName
      addEntries { byIndex := (index, proc) :: t.byIndex, byName } ((proc, index) :: owners) rest

/-- The table of a module, or the first clash of procedure names. -/
def build (m : Module) : Except LowerError CalleeTable :=
  addEntries {} [] (entries m)

/-- The procedure a call target names. A target of digits is an index: the procedure of the
function with that index if the index fits in 32 bits and has one, else `func_` and the target
as written. Any other target is a name, with or without a dollar sign: the procedure of the
function declared with it, else the name sanitized. -/
def resolve (t : CalleeTable) (target : String) : String :=
  if isDigits target then
    let found := if digitsValue target ≤ u32Max then
        (t.byIndex.find? (·.1 == digitsValue target)).map (·.2)
      else none
    found.getD ("func_" ++ target)
  else
    let name := (dropDollar? target).getD target
    ((t.byName.find? (·.1 == name)).map (·.2)).getD (Ident.sanitize name)

end CalleeTable

end WasmBoogie
