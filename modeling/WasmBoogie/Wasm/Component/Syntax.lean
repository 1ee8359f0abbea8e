import WasmBoogie.Wasm.Module

namespace WasmBoogie.Wasm.Component

/-- The primitive value types. -/
inductive Prim where
  | bool | s8 | u8 | s16 | u16 | s32 | u32 | s64 | u64 | f32 | f64 | char | string
  | errorContext
  deriving Repr, DecidableEq, Inhabited

/-- A value type where one is used: a primitive type, or the index of a defined type. -/
inductive ValRef where
  | prim (p : Prim)
  | index (i : Nat)
  deriving Repr, DecidableEq, Inhabited

/-- A defined value type. -/
inductive DefType where
  | prim (p : Prim)
  | record (fields : List (String × ValRef))
  | variant (cases : List (String × Option ValRef))
  | list (t : ValRef)
  | fixedList (t : ValRef) (length : Nat)
  | tuple (ts : List ValRef)
  | flags (names : List String)
  | enum (names : List String)
  | option (t : ValRef)
  | result (ok err : Option ValRef)
  | own (resource : Nat)
  | borrow (resource : Nat)
  | future (t : Option ValRef)
  | stream (t : Option ValRef)
  deriving Repr, Inhabited

/-- A component function type: named parameters and an optional result. -/
structure FuncSig where
  async : Bool := false
  params : List (String × ValRef) := []
  result : Option ValRef := none
  deriving Repr, Inhabited

/-- The sorts of items in a component's index spaces: the core sorts, then the component
sorts. -/
inductive ItemSort where
  | coreFunc | coreTable | coreMemory | coreGlobal | coreTag | coreType | coreModule
  | coreInstance
  | func | value | type | component | componentInstance
  deriving Repr, DecidableEq, Inhabited

/-- What an import, an export or a declaration describes. -/
inductive ExternDesc where
  /-- A core module of a core module type. -/
  | module (type : Nat)
  | func (type : Nat)
  | value (t : ValRef)
  /-- A type equal to a given one. -/
  | typeEq (type : Nat)
  /-- A fresh resource type. -/
  | typeSubResource
  | instanceType (type : Nat)
  | componentType (type : Nat)
  deriving Repr, Inhabited

/-- A declaration of a core module type. -/
inductive ModuleDecl where
  | import (i : Import)
  | types (group : List SubType)
  /-- A core type of an enclosing scope, `count` levels out. -/
  | outerType (count index : Nat)
  | export (name : String) (desc : ImportDesc)
  deriving Repr, Inhabited

/-- A core type defined in a component: a recursion group, or a module type. -/
inductive CoreTypeDef where
  | group (types : List SubType)
  | module (decls : List ModuleDecl)
  deriving Repr, Inhabited

/-- An alias: an export of an instance or core instance, or an item of an enclosing
component. -/
inductive Alias where
  | export (sort : ItemSort) (inst : Nat) (name : String)
  | coreExport (sort : ItemSort) (inst : Nat) (name : String)
  | outer (sort : ItemSort) (count index : Nat)
  deriving Repr, Inhabited

mutual

/-- A component type definition. -/
inductive TypeDef where
  | defined (d : DefType)
  | func (f : FuncSig)
  | componentType (decls : List Decl)
  | instanceType (decls : List Decl)
  | resource (rep : ValType) (dtor : Option Nat)

/-- A declaration inside a component type or an instance type. -/
inductive Decl where
  | coreType (t : CoreTypeDef)
  | type (t : TypeDef)
  | aliased (a : Alias)
  | import (name : String) (desc : ExternDesc)
  | export (name : String) (desc : ExternDesc)

end

instance : Inhabited TypeDef := ⟨.func {}⟩

/-- An option of a canonical function. -/
inductive CanonOpt where
  | utf8 | utf16 | compactUtf16
  | memory (i : Nat)
  | realloc (i : Nat)
  | postReturn (i : Nat)
  | async
  | callback (i : Nat)
  deriving Repr, DecidableEq, Inhabited

/-- A canonical function: a core function lifted to a component function, a component function
lowered to a core function, or a built-in on resources. -/
inductive Canon where
  | lift (coreFunc : Nat) (opts : List CanonOpt) (type : Nat)
  | lower (func : Nat) (opts : List CanonOpt)
  | resourceNew (type : Nat)
  | resourceDrop (type : Nat)
  | resourceRep (type : Nat)
  /-- A built-in of a proposal that validation does not enable. -/
  | unsupported
  deriving Repr, Inhabited

/-- A core instance: a module instantiated with core instances for its imported module names,
or a bundle of core items under names. -/
inductive CoreInstance where
  | instantiate (module : Nat) (args : List (String × Nat))
  | exports (items : List (String × ItemSort × Nat))
  deriving Repr, Inhabited

/-- A component instance: a component instantiated with items for its imports, or a bundle of
items under names. -/
inductive Instance where
  | instantiate (component : Nat) (args : List (String × ItemSort × Nat))
  | exports (items : List (String × ItemSort × Nat))
  deriving Repr, Inhabited

mutual

/-- One item of a component.

A component is a sequence of items, in the order of its sections: core modules, nested
components, core and component instances, aliases, type definitions, canonical functions, and
its imports, exports and custom sections. Every item may refer only to items before it, by index
into one of the component's index spaces; a component read from text and one decoded from its
binary form both become a value of these types, with every reference an index.

Value types are primitive types or indices of defined types. Types declared inside component
and instance types are themselves sequences of declarations, so types and declarations are
defined together. -/
inductive Item where
  /-- A core module, or why its bytes do not decode. -/
  | module (m : Except String Module)
  | component (c : Component)
  | coreInstance (i : CoreInstance)
  | coreType (t : CoreTypeDef)
  | componentInstance (i : Instance)
  | aliased (a : Alias)
  | type (t : TypeDef)
  | canon (c : Canon)
  | start
  | import (name : String) (desc : ExternDesc)
  | export (name : String) (sort : ItemSort) (index : Nat) (desc : Option ExternDesc)
  | value
  | custom (name : String) (bytes : List UInt8)

/-- A component: its items in order. -/
inductive Component where
  | mk (items : List Item)

end

instance : Inhabited Component := ⟨.mk []⟩

/-- The items of a component. -/
def Component.items : Component → List Item
  | .mk items => items

end WasmBoogie.Wasm.Component
