import WasmBoogie.Module.Source
import WasmBoogie.Module.Split
import WasmBoogie.Wasm.Text.Module
import WasmBoogie.Wasm.NameSection
import WasmBoogie.Wasm.Validate
import WasmBoogie.Wasm.Component.Text
import WasmBoogie.Wasm.Component.Binary
import WasmBoogie.Wasm.Component.Validate

namespace WasmBoogie

/-- What a text stands for: a core module, or a component. -/
inductive Artifact where
  | module (m : Wasm.Module)
  | component (c : Wasm.Component.Component)

/-- What a text stands for, before validation. Text that does not read is a compile error;
bytes that do not decode are invalid. -/
def readArtifact (text : String) : Except LoadError Artifact :=
  let read : Except String (Wasm.Text.ModuleText) := do
    Wasm.Text.ModuleText.ofSexps (← Wasm.Text.parseSexps text)
  match read with
  | .error _ => .error .compile
  | .ok (.fields fs) =>
    match Wasm.Text.readModule fs with
    | .ok m => .ok (.module m)
    | .error _ => .error .compile
  | .ok (.component id fs) =>
    match Wasm.Component.readComponent id fs with
    | .ok c => .ok (.component c)
    | .error _ => .error .compile
  | .ok (.binary bs) =>
    if Wasm.Component.Binary.isComponent bs then
      match Wasm.Component.Binary.decode bs with
      | .ok c => .ok (.component c)
      | .error _ => .error .invalid
    else
      match Wasm.Binary.decode bs with
      | .ok m => .ok (.module m)
      | .error _ => .error .invalid

/-- Validates what a text stands for. -/
def Artifact.validate : Artifact → Except LoadError Unit
  | .module m => (Wasm.validate m).mapError fun _ => .invalid
  | .component c => (Wasm.Component.validate c).mapError fun _ => .invalid

/-- The facts that loading takes from the core modules of a text, in order. -/
structure Inspection where
  /-- The parameter and result counts of every core type. -/
  typeCounts : List (Nat × Nat) := []
  imports : List Import := []
  /-- The type counts and declared local count of every defined function. -/
  funcs : List Signature := []
  /-- Function names by number, in order; a later one wins. -/
  names : List (Nat × String) := []

namespace Inspection

/-- The parameter and result counts of a type number: those of the type that the number names
in the list of all types so far, and none for a number beyond it. -/
def countsAt (info : Inspection) (t : Nat) : Nat × Nat :=
  info.typeCounts[t]?.getD (0, 0)

/-- The name given last to a function number. -/
def nameOf (info : Inspection) (i : Nat) : Option String :=
  (info.names.reverse.find? (·.1 == i)).map (·.2)

/-- Adds the function names of a name section's contents. -/
def addNameSection (info : Inspection) (bytes : List UInt8) : Except LoadError Inspection :=
  match Wasm.NameSection.functionNames bytes with
  | .ok ns => .ok { info with names := info.names ++ ns }
  | .error .subsection => .error .nameSection
  | .error .functionName => .error .functionName

/-- Adds a core module: its types, then its imported functions numbered from zero, its
defined functions, and its function names. -/
def addModule (info : Inspection) (m : Wasm.Module) : Except LoadError Inspection := do
  let counts := m.types.map fun st => match st.comp with
    | .func ft => (ft.params.length, ft.results.length)
    | _ => (0, 0)
  let info := { info with typeCounts := info.typeCounts ++ counts }
  let funcImports := m.imports.filterMap fun im => match im.desc with
    | .func t => some (im, t)
    | _ => none
  let imports := funcImports.zipIdx.map fun ((im, t), i) =>
    let (params, results) := info.countsAt t
    ({ index := i, module := im.module, field := im.field, name := none,
       paramCount := params, resultCount := results } : Import)
  let funcs := m.funcs.map fun f =>
    let (params, results) := info.countsAt f.type
    ({ params, results, locals := f.locals.length } : Signature)
  let names ← match m.functionNames with
    | .ok ns => pure ns
    | .error .subsection => throw .nameSection
    | .error .functionName => throw .functionName
  pure { info with imports := info.imports ++ imports, funcs := info.funcs ++ funcs,
                   names := info.names ++ names }

mutual

/-- Adds an item of a component: a core module, the modules of a nested component, or a
custom section named `name`. -/
def addItem (info : Inspection) : Wasm.Component.Item → Except LoadError Inspection
  | .module (.ok m) => info.addModule m
  | .component c => info.addComponent c
  | .custom name bytes => if name == "name" then info.addNameSection bytes else .ok info
  | _ => .ok info

/-- Adds the items of a component, in order. -/
def addComponent (info : Inspection) : Wasm.Component.Component → Except LoadError Inspection
  | .mk items => info.addItems items

/-- Adds items in order. -/
def addItems (info : Inspection) : List Wasm.Component.Item → Except LoadError Inspection
  | [] => .ok info
  | i :: rest => do (← info.addItem i).addItems rest

end

end Inspection

/-- The facts that loading takes from what a text stands for.

A module text is read as WebAssembly text, or as the bytes it gives in binary form: a core
module, or a component. It is validated, and then its core modules are taken in the order of
their binary form, nested components included. Together they give the facts that loading
keeps:

* the parameter and result counts of every core type, all modules' types in one list;
* the imported functions, each numbered within its own module, with the counts of the type
  that its number names in that one list;
* each defined function's type counts and declared locals, looked up the same way;
* the function names of every name section, modules' and components' alike, where a later
  name for a number wins.

For a single module these are exactly its own imports, functions and names. The defined
functions' texts are cut out of the module text; there must be as many as the modules define. -/
def Artifact.inspect : Artifact → Except LoadError Inspection
  | .module m => ({} : Inspection).addModule m
  | .component c => ({} : Inspection).addComponent c

namespace ModuleSource

/-- Loads a module text: reads and validates what it stands for, and pairs each defined
function with its text. -/
def load (text : String) : Except LoadError ModuleSource := do
  let a ← readArtifact text
  a.validate
  let info ← a.inspect
  let texts := splitFunctions text
  if texts.length != info.funcs.length then throw (.functionCount texts.length info.funcs.length)
  let first := info.imports.length
  let functions := (texts.zip info.funcs).zipIdx.map fun ((t, sig), i) =>
    { index := first + i, name := info.nameOf (first + i), text := t,
      signature := some sig : FunctionSource }
  let imports := info.imports.map fun im => { im with name := info.nameOf im.index }
  pure { imports, functions }

/-- Loads, reads and lowers a module text. -/
def lowerText (text : String) (options : LowerOptions) : Except SourceError LoweredModule :=
  match load text with
  | .ok src => src.lower options
  | .error e => .error (.load e)

end ModuleSource

end WasmBoogie
