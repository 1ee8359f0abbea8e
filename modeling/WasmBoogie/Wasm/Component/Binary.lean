import WasmBoogie.Wasm.Component.Syntax
import WasmBoogie.Wasm.Binary

namespace WasmBoogie.Wasm.Component.Binary

open Wasm.Binary

/-- The primitive value type of a one-byte code. -/
def prim? : Nat → Option Prim
  | 0x7f => some .bool
  | 0x7e => some .s8
  | 0x7d => some .u8
  | 0x7c => some .s16
  | 0x7b => some .u16
  | 0x7a => some .s32
  | 0x79 => some .u32
  | 0x78 => some .s64
  | 0x77 => some .u64
  | 0x76 => some .f32
  | 0x75 => some .f64
  | 0x74 => some .char
  | 0x73 => some .string
  | 0x64 => some .errorContext
  | _ => none

/-- Reads a value type: a primitive code, or a type index. -/
def valRef : DecodeM ValRef := do
  match (← get) with
  | b :: rest =>
    match prim? b.toNat with
    | some p => set rest; pure (.prim p)
    | none =>
      let i ← signed 33
      if i < 0 then throw "invalid value type" else pure (.index i.toNat)
  | [] => throw "unexpected end"

/-- Reads something optional: a zero byte, or a one byte and the thing. -/
def optional {α : Type} (d : DecodeM α) : DecodeM (Option α) := do
  match (← byte).toNat with
  | 0 => pure none
  | 1 => some <$> d
  | _ => throw "invalid optional"

/-- Reads the name of an import or export: a discriminating byte, 0 or 1, and the name. -/
def externName : DecodeM String := do
  match (← byte).toNat with
  | 0 | 1 => name
  | _ => throw "invalid leading byte in extern name"

/-- Reads a core sort. -/
def coreSort : DecodeM ItemSort := do
  match (← byte).toNat with
  | 0x00 => pure .coreFunc
  | 0x01 => pure .coreTable
  | 0x02 => pure .coreMemory
  | 0x03 => pure .coreGlobal
  | 0x04 => pure .coreTag
  | 0x10 => pure .coreType
  | 0x11 => pure .coreModule
  | 0x12 => pure .coreInstance
  | _ => throw "invalid core sort"

/-- Reads a sort: a core sort after a zero byte, or a component sort. -/
def sort : DecodeM ItemSort := do
  match (← byte).toNat with
  | 0x00 => coreSort
  | 0x01 => pure .func
  | 0x02 => pure .value
  | 0x03 => pure .type
  | 0x04 => pure .component
  | 0x05 => pure .componentInstance
  | _ => throw "invalid sort"

/-- Reads what an import, export or declaration describes. -/
def externDesc : DecodeM ExternDesc := do
  match (← byte).toNat with
  | 0x00 =>
    if (← byte).toNat != 0x11 then throw "invalid core sort of an extern description"
    .module <$> u32
  | 0x01 => .func <$> u32
  | 0x02 => .value <$> valRef
  | 0x03 =>
    match (← byte).toNat with
    | 0x00 => .typeEq <$> u32
    | 0x01 => pure .typeSubResource
    | _ => throw "invalid type bound"
  | 0x04 => .componentType <$> u32
  | 0x05 => .instanceType <$> u32
  | _ => throw "invalid extern description"

/-- Reads the type of a core item that a module type exports. -/
def coreTypeRef : DecodeM ImportDesc := do
  match (← byte).toNat with
  | 0 => ImportDesc.func <$> u32
  | 1 => ImportDesc.table <$> tableType
  | 2 => ImportDesc.memory <$> memType
  | 3 => ImportDesc.global <$> globalType
  | 4 => do
    if (← byte) != 0 then throw "invalid tag attribute"
    ImportDesc.tag <$> u32
  | _ => throw "invalid external kind"

/-- Reads a core type: a module type after `0x50`, or a recursion group. -/
def coreType : DecodeM CoreTypeDef := do
  match (← get) with
  | 0x50 :: rest =>
    set rest
    let decls ← vec do
      match (← byte).toNat with
      | 0x00 => ModuleDecl.import <$> import_
      | 0x01 => ModuleDecl.types <$> recGroup
      | 0x02 =>
        if (← byte).toNat != 0x10 then throw "invalid outer alias kind"
        if (← byte).toNat != 0x01 then throw "invalid outer alias"
        let count ← u32
        pure (.outerType count (← u32))
      | 0x03 => do
        let n ← name
        pure (.export n (← coreTypeRef))
      | _ => throw "invalid module type declaration"
    pure (.module decls)
  | _ => .group <$> recGroup

/-- Reads a defined value type, after its leading byte. -/
def defType (b : Nat) : DecodeM DefType := do
  match prim? b with
  | some p => pure (.prim p)
  | none =>
    match b with
    | 0x72 => .record <$> vec (do let n ← name; pure (n, ← valRef))
    | 0x71 => .variant <$> vec (do
        let n ← name
        let t ← optional valRef
        let _ ← optional u32
        pure (n, t))
    | 0x70 => .list <$> valRef
    | 0x67 => do
      let t ← valRef
      pure (.fixedList t (← u32))
    | 0x6f => .tuple <$> vec valRef
    | 0x6e => .flags <$> vec name
    | 0x6d => .enum <$> vec name
    | 0x6b => .option <$> valRef
    | 0x6a => do
      let ok ← optional valRef
      pure (.result ok (← optional valRef))
    | 0x69 => .own <$> u32
    | 0x68 => .borrow <$> u32
    | 0x66 => .stream <$> optional valRef
    | 0x65 => .future <$> optional valRef
    | _ => throw "invalid leading byte in component type"

/-- Reads an alias. -/
def aliasDef : DecodeM Alias := do
  let s ← sort
  match (← byte).toNat with
  | 0x00 => do
    let i ← u32
    pure (.export s i (← name))
  | 0x01 => do
    let i ← u32
    pure (.coreExport s i (← name))
  | 0x02 => do
    let count ← u32
    pure (.outer s count (← u32))
  | _ => throw "invalid alias target"

/-- Reads a function type, after its leading byte. -/
def funcSig (async : Bool) : DecodeM FuncSig := do
  let params ← vec (do let n ← name; pure (n, ← valRef))
  let result ← match (← byte).toNat with
    | 0x00 => some <$> valRef
    | 0x01 => do
      if (← byte).toNat != 0 then throw "invalid number of results"
      pure none
    | _ => throw "invalid function results"
  pure { async, params, result }

mutual

/-- Reads a component type definition. `fuel` bounds the nesting of type declarations. -/
def typeDef : Nat → DecodeM TypeDef
  | 0 => throw "types nested too deeply"
  | fuel + 1 => do
    let b := (← byte).toNat
    match b with
    | 0x40 => .func <$> funcSig false
    | 0x43 => .func <$> funcSig true
    | 0x41 => .componentType <$> decls fuel true
    | 0x42 => .instanceType <$> decls fuel false
    | 0x3f => do
      let rep ← valType
      pure (.resource rep (← optional u32))
    | _ => .defined <$> defType b

/-- Reads the declarations of a component type, or of an instance type if not `component`. -/
def decls : Nat → Bool → DecodeM (List Decl)
  | 0, _ => throw "types nested too deeply"
  | fuel + 1, component => vec do
    match (← byte).toNat with
    | 0x00 => Decl.coreType <$> coreType
    | 0x01 => Decl.type <$> typeDef fuel
    | 0x02 => Decl.aliased <$> aliasDef
    | 0x03 =>
      if !component then throw "invalid instance type declaration"
      let n ← externName
      pure (.import n (← externDesc))
    | 0x04 => do
      let n ← externName
      pure (.export n (← externDesc))
    | _ => throw "invalid type declaration"

end

/-- Reads a canonical option. -/
def canonOpt : DecodeM CanonOpt := do
  match (← byte).toNat with
  | 0x00 => pure .utf8
  | 0x01 => pure .utf16
  | 0x02 => pure .compactUtf16
  | 0x03 => .memory <$> u32
  | 0x04 => .realloc <$> u32
  | 0x05 => .postReturn <$> u32
  | 0x06 => pure .async
  | 0x07 => .callback <$> u32
  | _ => throw "invalid canonical option"

/-- Reads a canonical function. Built-ins of proposals that validation does not enable are
refused here. -/
def canon : DecodeM Canon := do
  match (← byte).toNat with
  | 0x00 => do
    if (← byte).toNat != 0 then throw "invalid canonical function"
    let f ← u32
    let opts ← vec canonOpt
    pure (.lift f opts (← u32))
  | 0x01 => do
    if (← byte).toNat != 0 then throw "invalid canonical function"
    let f ← u32
    pure (.lower f (← vec canonOpt))
  | 0x02 => .resourceNew <$> u32
  | 0x03 => .resourceDrop <$> u32
  | 0x04 => .resourceRep <$> u32
  | _ => throw "canonical built-in is not enabled"

/-- Reads a core instance. -/
def coreInstance : DecodeM CoreInstance := do
  match (← byte).toNat with
  | 0x00 => do
    let m ← u32
    let args ← vec do
      let n ← name
      if (← byte).toNat != 0x12 then throw "invalid instantiation argument kind"
      pure (n, ← u32)
    pure (.instantiate m args)
  | 0x01 => .exports <$> vec (do
      let n ← name
      let s ← match (← byte).toNat with
        | 0 => pure ItemSort.coreFunc
        | 1 => pure .coreTable
        | 2 => pure .coreMemory
        | 3 => pure .coreGlobal
        | 4 => pure .coreTag
        | _ => throw "invalid external kind"
      pure (n, s, ← u32))
  | _ => throw "invalid core instance"

/-- Reads a component instance. -/
def instance_ : DecodeM Instance := do
  match (← byte).toNat with
  | 0x00 => do
    let c ← u32
    let args ← vec do
      let n ← name
      let s ← sort
      pure (n, s, ← u32)
    pure (.instantiate c args)
  | 0x01 => .exports <$> vec (do
      let n ← externName
      let s ← sort
      pure (n, s, ← u32))
  | _ => throw "invalid instance"

/-- The items of a section of a component, other than a nested component's. -/
def sectionItems (id : Nat) (content : List UInt8) : DecodeM (List Item) := do
  match id with
  | 0 => do
    let (n, rest) ← match name.run content with
      | .ok r => pure r
      | .error e => throw e
    pure [.custom n rest]
  | 1 => pure [.module (Wasm.Binary.decode content)]
  | 2 => within content (vec (Item.coreInstance <$> coreInstance))
  | 3 => within content (vec (Item.coreType <$> coreType))
  | 5 => within content (vec (Item.componentInstance <$> instance_))
  | 6 => within content (vec (Item.aliased <$> aliasDef))
  | 7 => within content (vec (Item.type <$> typeDef (content.length + 1)))
  | 8 => within content (vec (Item.canon <$> canon))
  | 9 => pure [.start]
  | 10 => within content (vec (do
      let n ← externName
      pure (Item.import n (← externDesc))))
  | 11 => within content (vec (do
      let n ← externName
      let s ← sort
      let i ← u32
      pure (Item.export n s i (← optional externDesc))))
  | 12 => pure [.value]
  | _ => throw "malformed section id"

/-- Whether bytes start with the header of a component. -/
def isComponent (bs : List UInt8) : Bool :=
  bs.take 4 == [0, 0x61, 0x73, 0x6d] && (bs.drop 4).take 4 == [0x0d, 0, 1, 0]

/-- Decodes a binary component; `fuel` bounds the nesting of components. -/
def decodeWith : Nat → List UInt8 → Except String Component
  | 0, _ => .error "components nested too deeply"
  | fuel + 1, bs => do
    if bs.take 4 != [0, 0x61, 0x73, 0x6d] then throw "magic header not detected"
    if !isComponent bs then throw "unknown binary version"
    let rec sections : Nat → List Item → DecodeM (List Item)
      | 0, acc => pure acc
      | k + 1, acc => do
        if (← get).isEmpty then return acc
        let id := (← byte).toNat
        let size ← u32
        let content ← bytes size
        if id == 4 then
          match decodeWith fuel content with
          | .ok c => sections k (acc ++ [.component c])
          | .error e => throw e
        else sections k (acc ++ (← sectionItems id content))
    let rest := bs.drop 8
    let (items, _) ← (sections rest.length []).run rest
    pure (.mk items)

/-- Decodes a binary component.

A binary component is the magic bytes `\0asm`, version `0x0d` and layer 1, and sections in any
order and number: each an id byte, a size and contents of exactly that size. A module section
holds a whole binary module and a component section a whole binary component; the other
sections hold vectors of core instances, core types, instances, aliases, types, canonical
functions, imports and exports, or a start function or values. Names of imports and exports
follow a discriminating byte, 0 or 1. A value type is a primitive type's one-byte code or a
type index. -/
def decode (bs : List UInt8) : Except String Component :=
  decodeWith (bs.length + 1) bs

end WasmBoogie.Wasm.Component.Binary
