import WasmBoogie.Wasm.Instr

namespace WasmBoogie.Wasm

/-- What an import brings in. -/
inductive ImportDesc where
  | func (type : Nat)
  | table (t : TableType)
  | memory (m : MemType)
  | global (g : GlobalType)
  | tag (type : Nat)
  deriving Repr, Inhabited

/-- An import: its two names and what it brings in. -/
structure Import where
  module : String
  field : String
  desc : ImportDesc
  deriving Repr, Inhabited

/-- The kinds of exported items. -/
inductive ExternKind where
  | func | table | memory | global | tag
  deriving Repr, DecidableEq, Inhabited

/-- An export: a name and an item. -/
structure Export where
  name : String
  kind : ExternKind
  index : Nat
  deriving Repr, Inhabited

/-- A defined function: its type, its locals after the parameters, and its body. -/
structure Func where
  type : Nat
  locals : List ValType
  body : Code
  deriving Repr, Inhabited

/-- A defined table, with its initial element if it has one. -/
structure Table where
  type : TableType
  init : Option Code := none
  deriving Repr, Inhabited

/-- A defined global with its initializer. -/
structure Global where
  type : GlobalType
  init : Code
  deriving Repr, Inhabited

/-- Where an element segment goes. -/
inductive ElemMode where
  | passive
  | declarative
  | active (table : Nat) (offset : Code)
  deriving Repr, Inhabited

/-- An element segment: its reference type, its mode, and its items as constant
expressions. -/
structure Elem where
  type : ValType
  mode : ElemMode
  items : List Code
  deriving Repr, Inhabited

/-- Where a data segment goes. -/
inductive DataMode where
  | passive
  | active (memory : Nat) (offset : Code)
  deriving Repr, Inhabited

/-- Proposals to the format that the text reader knows but that validation does not enable; a
module that uses one is invalid. -/
inductive Proposal where
  /-- Types, globals and references shared between threads. -/
  | sharedEverything
  /-- Continuation types and references. -/
  | stackSwitching
  /-- Imports written as groups under one module name. -/
  | compactImports
  /-- Reference types exact to one defined type. -/
  | customDescriptors
  deriving Repr, DecidableEq, Inhabited

/-- A module. The index spaces of functions, tables, memories and globals hold the imported
items first. `names` gives names of functions by index that come with the module, beside those
its name sections give.

A module read from text and a module decoded from its binary form both become a value of this
type, and both are validated by the same rules. Index spaces hold the imported items first. -/
structure Module where
  types : List SubType := []
  imports : List Import := []
  funcs : List Func := []
  tables : List Table := []
  memories : List MemType := []
  globals : List Global := []
  exports : List Export := []
  /-- The start functions; a valid module has at most one. -/
  starts : List Nat := []
  elems : List Elem := []
  datas : List DataMode := []
  /-- The number of data segments a binary declares ahead of the code, if it does. -/
  dataCount : Option Nat := none
  tags : List Nat := []
  names : List (Nat × String) := []
  /-- The contents of the custom sections named `name`, in order. -/
  nameSections : List (List UInt8) := []
  /-- The proposals the module uses that validation does not enable. -/
  proposals : List Proposal := []
  deriving Repr, Inhabited

namespace Module

/-- The types of the imported functions, in order. -/
def importedFuncs (m : Module) : List Nat :=
  m.imports.filterMap fun i => match i.desc with
    | .func t => some t
    | _ => none

/-- The types of all functions, imported ones first. -/
def funcTypes (m : Module) : List Nat :=
  m.importedFuncs ++ m.funcs.map (·.type)

/-- The types of all tables, imported ones first. -/
def tableTypes (m : Module) : List TableType :=
  m.imports.filterMap (fun i => match i.desc with
    | .table t => some t
    | _ => none) ++ m.tables.map (·.type)

/-- The types of all memories, imported ones first. -/
def memTypes (m : Module) : List MemType :=
  m.imports.filterMap (fun i => match i.desc with
    | .memory t => some t
    | _ => none) ++ m.memories

/-- The types of all globals, imported ones first. -/
def globalTypes (m : Module) : List GlobalType :=
  m.imports.filterMap (fun i => match i.desc with
    | .global t => some t
    | _ => none) ++ m.globals.map (·.type)

/-- The types of all tags, imported ones first. -/
def tagTypes (m : Module) : List Nat :=
  m.imports.filterMap (fun i => match i.desc with
    | .tag t => some t
    | _ => none) ++ m.tags

/-- The number of imported globals. -/
def importedGlobalCount (m : Module) : Nat :=
  (m.imports.filter fun i => match i.desc with
    | .global _ => true
    | _ => false).length

/-- The function type of a type index, if it is one. -/
def funcType? (m : Module) (idx : Nat) : Option FuncType :=
  match m.types[idx]? with
  | some { comp := .func t, .. } => some t
  | _ => none

end Module

end WasmBoogie.Wasm
