import WasmBoogie.Wasm.Module
import WasmBoogie.Wasm.Vector
import WasmBoogie.Wasm.Atomic

namespace WasmBoogie.Wasm.Binary

/-- Decoding: the bytes not yet read, and failure with a message. -/
abbrev DecodeM := StateT (List UInt8) (Except String)

/-- Reads one byte. -/
def byte : DecodeM UInt8 := do
  match ← get with
  | b :: rest => set rest; pure b
  | [] => throw "unexpected end of section or function"

/-- Reads a number of bytes. -/
def bytes (n : Nat) : DecodeM (List UInt8) := do
  let bs ← get
  if bs.length < n then throw "unexpected end of section or function"
  set (bs.drop n)
  pure (bs.take n)

/-- Reads an unsigned LEB128 integer of a width. The last byte may not set bits beyond the
width. -/
def unsigned (width : Nat) : DecodeM Nat := do
  let rec go : Nat → Nat → Nat → DecodeM Nat
    | 0, _, _ => throw "integer representation too long"
    | fuel + 1, shift, acc => do
      let b := (← byte).toNat
      let low := b % 128
      if shift + 7 > width && low ≥ Nat.pow 2 (width - shift) then throw "integer too large"
      let acc := acc + low * Nat.pow 2 shift
      if b < 128 then pure acc else go fuel (shift + 7) acc
  go ((width + 6) / 7) 0 0

/-- Reads a signed LEB128 integer of a width. The unused bits of the last byte must all equal
the sign bit. -/
def signed (width : Nat) : DecodeM Int := do
  let rec go : Nat → Nat → Nat → DecodeM Int
    | 0, _, _ => throw "integer representation too long"
    | fuel + 1, shift, acc => do
      let b := (← byte).toNat
      let low := b % 128
      if b < 128 then
        if shift + 7 > width then
          let used := width - shift
          let top := low / Nat.pow 2 (used - 1)
          if top != 0 && top != Nat.pow 2 (7 - used + 1) - 1 then throw "integer too large"
        let acc := acc + low * Nat.pow 2 shift
        let bits := shift + 7
        if low ≥ 64 then pure ((acc : Int) - (Nat.pow 2 bits : Nat)) else pure acc
      else go fuel (shift + 7) (acc + low * Nat.pow 2 shift)
  go ((width + 6) / 7) 0 0

/-- Reads a `u32`. -/
def u32 : DecodeM Nat := unsigned 32

/-- Reads a vector: a count and that many elements. -/
def vec {α : Type} (elem : DecodeM α) : DecodeM (List α) := do
  let n ← u32
  if n > (← get).length then throw "unexpected end of section or function"
  let rec go : Nat → List α → DecodeM (List α)
    | 0, acc => pure acc.reverse
    | k + 1, acc => do go k ((← elem) :: acc)
  go n []

/-- Reads a name: UTF-8 bytes with their length. -/
def name : DecodeM String := do
  let n ← u32
  let bs ← bytes n
  match String.fromUTF8? (ByteArray.mk bs.toArray) with
  | some s => pure s
  | none => throw "malformed UTF-8 encoding"

/-- The abstract heap type of a one-byte code. -/
def abstractHeap? : Nat → Option HeapType
  | 0x70 => some .func
  | 0x6f => some .external
  | 0x6e => some .any
  | 0x6d => some .eq
  | 0x6c => some .i31
  | 0x6b => some .struct
  | 0x6a => some .array
  | 0x71 => some .none
  | 0x73 => some .noFunc
  | 0x72 => some .noExtern
  | 0x69 => some .exn
  | 0x74 => some .noExn
  | _ => none

/-- Reads a heap type: an abstract code, or a type index as a signed 33-bit integer. -/
def heapType : DecodeM HeapType := do
  match (← get) with
  | b :: rest =>
    match abstractHeap? b.toNat with
    | some h => set rest; pure h
    | none =>
      let i ← signed 33
      if i < 0 then throw "invalid heap type" else pure (.concrete i.toNat)
  | [] => throw "unexpected end of section or function"

/-- The value type of a one-byte code, references by their shorthand. -/
def valCode? (b : Nat) : Option ValType :=
  match b with
  | 0x7f => some .i32
  | 0x7e => some .i64
  | 0x7d => some .f32
  | 0x7c => some .f64
  | 0x7b => some .v128
  | _ => (abstractHeap? b).map (.ref true)

/-- Reads a value type. -/
def valType : DecodeM ValType := do
  let b := (← byte).toNat
  match valCode? b with
  | some t => pure t
  | none =>
    if b == 0x64 then pure (.ref false (← heapType))
    else if b == 0x63 then pure (.ref true (← heapType))
    else throw "invalid value type"

/-- Reads a storage type. -/
def storageType : DecodeM StorageType := do
  match (← get) with
  | 0x78 :: rest => set rest; pure .i8
  | 0x77 :: rest => set rest; pure .i16
  | _ => pure (.val (← valType))

/-- Reads a mutability flag. -/
def mutability : DecodeM Bool := do
  match (← byte).toNat with
  | 0 => pure false
  | 1 => pure true
  | _ => throw "malformed mutability"

/-- Reads a field type. -/
def fieldType : DecodeM FieldType := do
  let s ← storageType
  pure ⟨s, ← mutability⟩

/-- Reads a composite type. -/
def compType : DecodeM CompType := do
  match (← byte).toNat with
  | 0x60 =>
    let params ← vec valType
    let results ← vec valType
    pure (.func ⟨params, results⟩)
  | 0x5f => pure (.struct (← vec fieldType))
  | 0x5e => pure (.array (← fieldType))
  | _ => throw "invalid leading byte in type definition"

/-- Reads a subtype: a composite type, or one with declared supertypes. -/
def subType : DecodeM SubType := do
  match (← get) with
  | 0x50 :: rest =>
    set rest
    let supers ← vec u32
    pure { final := false, supers, comp := ← compType }
  | 0x4f :: rest =>
    set rest
    let supers ← vec u32
    pure { final := true, supers, comp := ← compType }
  | _ => pure { comp := ← compType }

/-- Reads a recursion group, its first type carrying the group's size. -/
def recGroup : DecodeM (List SubType) := do
  match (← get) with
  | 0x4e :: rest =>
    set rest
    let group ← vec subType
    pure (group.zipIdx.map fun (st, i) => { st with groupSize := if i == 0 then group.length else 0 })
  | _ => pure [← subType]

/-- Reads limits with their flags: whether a maximum follows, whether the memory is shared,
whether addresses have 64 bits, and whether a page size follows. -/
def limits (forMemory : Bool) : DecodeM (Limits × Bool × Bool × Option Nat) := do
  let flags := (← byte).toNat
  let allowed := if forMemory then 15 else 5
  if flags &&& allowed != flags then throw "invalid limits flags"
  let addr64 := flags &&& 4 != 0
  let width := if addr64 then 64 else 32
  let min ← unsigned width
  let max ← if flags &&& 1 != 0 then some <$> unsigned width else pure none
  let page ← if flags &&& 8 != 0 then some <$> u32 else pure none
  pure (⟨min, max⟩, flags &&& 2 != 0, addr64, page)

/-- Reads a table type. -/
def tableType : DecodeM TableType := do
  let elem ← valType
  let (l, _, addr64, _) ← limits false
  pure { addr64, limits := l, elem }

/-- Reads a memory type. -/
def memType : DecodeM MemType := do
  let (l, shared, addr64, page) ← limits true
  pure { addr64, limits := l, shared, pageSizeLog2 := page }

/-- Reads a global type. -/
def globalType : DecodeM GlobalType := do
  let t ← valType
  pure ⟨← mutability, t⟩

/-- Reads a block type: empty, one value type, or a type index. -/
def blockType : DecodeM BlockType := do
  match (← get) with
  | 0x40 :: rest => set rest; pure .empty
  | b :: _ =>
    if (valCode? b.toNat).isSome || b == 0x64 || b == 0x63 then pure (.value (← valType))
    else
      let i ← signed 33
      if i < 0 then throw "invalid block type" else pure (.index i.toNat)
  | [] => throw "unexpected end of section or function"

/-- Reads the immediate of a memory access. An alignment with bit 6 set is followed by a memory
index. -/
def memArg : DecodeM MemArg := do
  let a ← u32
  let (alignLog2, memory) ← if a ≥ 64 then do pure (a - 64, ← u32) else pure (a, 0)
  if alignLog2 ≥ 64 then throw "malformed memop alignment"
  let offset ← unsigned 64
  pure { memory, offset, alignLog2 }

/-- The numeric instruction of an opcode from `0x45` to `0xc4`. -/
def numericCode? (op : Nat) : Option Op :=
  let int32 := ValType.i32
  let int64 := ValType.i64
  let flt32 := ValType.f32
  let flt64 := ValType.f64
  if op == 0x45 then some (.numeric [int32] [int32])
  else if op ≤ 0x4f then some (.numeric [int32, int32] [int32])
  else if op == 0x50 then some (.numeric [int64] [int32])
  else if op ≤ 0x5a then some (.numeric [int64, int64] [int32])
  else if op ≤ 0x60 then some (.numeric [flt32, flt32] [int32])
  else if op ≤ 0x66 then some (.numeric [flt64, flt64] [int32])
  else if op ≤ 0x69 then some (.numeric [int32] [int32])
  else if op ≤ 0x6c then some (.intArith int32)
  else if op ≤ 0x78 then some (.numeric [int32, int32] [int32])
  else if op ≤ 0x7b then some (.numeric [int64] [int64])
  else if op ≤ 0x7e then some (.intArith int64)
  else if op ≤ 0x8a then some (.numeric [int64, int64] [int64])
  else if op ≤ 0x91 then some (.numeric [flt32] [flt32])
  else if op ≤ 0x98 then some (.numeric [flt32, flt32] [flt32])
  else if op ≤ 0x9f then some (.numeric [flt64] [flt64])
  else if op ≤ 0xa6 then some (.numeric [flt64, flt64] [flt64])
  else
    let conv : List (ValType × ValType) :=
      [(int64, int32), (flt32, int32), (flt32, int32), (flt64, int32), (flt64, int32), (int32, int64), (int32, int64),
        (flt32, int64), (flt32, int64), (flt64, int64), (flt64, int64), (int32, flt32), (int32, flt32), (int64, flt32),
        (int64, flt32), (flt64, flt32), (int32, flt64), (int32, flt64), (int64, flt64), (int64, flt64), (flt32, flt64),
        (flt32, int32), (flt64, int64), (int32, flt32), (int64, flt64), (int32, int32), (int32, int32), (int64, int64),
        (int64, int64), (int64, int64)]
    (conv[op - 0xa7]?).map fun (s, t) => .numeric [s] [t]

/-- The value type and natural alignment of a load opcode from `0x28` to `0x35`. -/
def loadCode? (op : Nat) : Option (ValType × Nat) :=
  [(ValType.i32, 2), (.i64, 3), (.f32, 2), (.f64, 3), (.i32, 0), (.i32, 0), (.i32, 1), (.i32, 1),
    (.i64, 0), (.i64, 0), (.i64, 1), (.i64, 1), (.i64, 2), (.i64, 2)][op - 0x28]?

/-- The value type and natural alignment of a store opcode from `0x36` to `0x3e`. -/
def storeCode? (op : Nat) : Option (ValType × Nat) :=
  [(ValType.i32, 2), (.i64, 3), (.f32, 2), (.f64, 3), (.i32, 0), (.i32, 1), (.i64, 0), (.i64, 1),
    (.i64, 2)][op - 0x36]?

/-- Reads one instruction of the `0xfc` group. -/
def miscInstr : DecodeM Instr := do
  let sub ← u32
  let plain (o : Op) : DecodeM Instr := pure (.plain o)
  match sub with
  | 0 | 1 => plain (.numeric [.f32] [.i32])
  | 2 | 3 => plain (.numeric [.f64] [.i32])
  | 4 | 5 => plain (.numeric [.f32] [.i64])
  | 6 | 7 => plain (.numeric [.f64] [.i64])
  | 8 =>
    let d ← u32
    plain (.memoryInit (← u32) d)
  | 9 => plain (.dataDrop (← u32))
  | 10 =>
    let d ← u32
    plain (.memoryCopy d (← u32))
  | 11 => plain (.memoryFill (← u32))
  | 12 =>
    let e ← u32
    plain (.tableInit (← u32) e)
  | 13 => plain (.elemDrop (← u32))
  | 14 =>
    let d ← u32
    plain (.tableCopy d (← u32))
  | 15 => plain (.tableGrow (← u32))
  | 16 => plain (.tableSize (← u32))
  | 17 => plain (.tableFill (← u32))
  | _ => throw "unknown 0xfc subopcode"

/-- Reads one vector instruction after its `0xfd` prefix. -/
def vectorInstr : DecodeM Instr := do
  let e ← match Vector.byOpcode? (← u32) with
    | some e => pure e
    | none => throw "unknown 0xfd subopcode"
  let plain (o : Op) : DecodeM Instr := pure (.plain o)
  match e.form with
  | .plain ps rs => plain (.numeric ps rs)
  | .load n => plain (.load .v128 n (← memArg))
  | .store => plain (.store .v128 4 (← memArg))
  | .loadLane n =>
    let arg ← memArg
    plain (.loadLane n arg (← byte).toNat)
  | .storeLane n =>
    let arg ← memArg
    plain (.storeLane n arg (← byte).toNat)
  | .lane count ps rs => plain (.lane count (← byte).toNat ps rs)
  | .const =>
    let _ ← bytes 16
    plain (.const .v128)
  | .shuffle => plain (.shuffle ((← bytes 16).map (·.toNat)))

/-- Reads one atomic instruction after its `0xfe` prefix. -/
def atomicInstr : DecodeM Instr := do
  let sub ← u32
  if sub == Atomic.fenceOpcode then
    if (← byte) != 0 then throw "nonzero byte after atomic.fence"
    pure (.plain .atomicFence)
  else match Atomic.byOpcode? sub with
    | some e => pure (.plain (e.op (← memArg)))
    | none => throw "unknown 0xfe subopcode"

/-- Reads one instruction on structs, arrays, casts or `i31` references after its `0xfb`
prefix. -/
def aggregateInstr : DecodeM Instr := do
  let sub ← u32
  let plain (o : Op) : DecodeM Instr := pure (.plain o)
  let twoIndices (f : Nat → Nat → Op) : DecodeM Instr := do
    let a ← u32
    plain (f a (← u32))
  match sub with
  | 0 => plain (.structNew (← u32))
  | 1 => plain (.structNewDefault (← u32))
  | 2 => twoIndices (.structGet false)
  | 3 | 4 => twoIndices (.structGet true)
  | 5 => twoIndices .structSet
  | 6 => plain (.arrayNew (← u32))
  | 7 => plain (.arrayNewDefault (← u32))
  | 8 => twoIndices .arrayNewFixed
  | 9 => twoIndices .arrayNewData
  | 10 => twoIndices .arrayNewElem
  | 11 => plain (.arrayGet false (← u32))
  | 12 | 13 => plain (.arrayGet true (← u32))
  | 14 => plain (.arraySet (← u32))
  | 15 => plain .arrayLen
  | 16 => plain (.arrayFill (← u32))
  | 17 => twoIndices .arrayCopy
  | 18 => twoIndices .arrayInitData
  | 19 => twoIndices .arrayInitElem
  | 20 => plain (.refTest (.ref false (← heapType)))
  | 21 => plain (.refTest (.ref true (← heapType)))
  | 22 => plain (.refCast (.ref false (← heapType)))
  | 23 => plain (.refCast (.ref true (← heapType)))
  | 24 | 25 =>
    let flags := (← byte).toNat
    if flags > 3 then throw "invalid br_on_cast flags"
    let l ← u32
    let h1 ← heapType
    let h2 ← heapType
    plain (.brOnCast (sub == 25) l (.ref (flags % 2 == 1) h1) (.ref (flags / 2 == 1) h2))
  | 26 => plain .anyConvertExtern
  | 27 => plain .externConvertAny
  | 28 => plain .refI31
  | 29 | 30 => plain .i31Get
  | _ => throw "unknown 0xfb subopcode"

/-- Reads a handler of `try_table`: its kind, the tag unless it catches all, and its label. -/
def catch_ : DecodeM Catch := do
  match (← byte).toNat with
  | 0 =>
    let t ← u32
    pure ⟨some t, false, ← u32⟩
  | 1 =>
    let t ← u32
    pure ⟨some t, true, ← u32⟩
  | 2 => pure ⟨none, false, ← u32⟩
  | 3 => pure ⟨none, true, ← u32⟩
  | _ => throw "invalid catch kind"

/-- Reads one instruction. -/
def instr : DecodeM Instr := do
  let op := (← byte).toNat
  let plain (o : Op) : DecodeM Instr := pure (.plain o)
  match op with
  | 0x00 => plain .unreachable
  | 0x01 => plain .nop
  | 0x02 => pure (.block (← blockType))
  | 0x03 => pure (.loop (← blockType))
  | 0x04 => pure (.ite (← blockType))
  | 0x05 => pure .otherwise
  | 0x08 => plain (.throw (← u32))
  | 0x0a => plain .throwRef
  | 0x0b => pure .close
  | 0x0c => plain (.br (← u32))
  | 0x0d => plain (.brIf (← u32))
  | 0x0e =>
    let ls ← vec u32
    plain (.brTable ls (← u32))
  | 0x0f => plain .ret
  | 0x10 => plain (.call (← u32))
  | 0x11 =>
    let t ← u32
    plain (.callIndirect (← u32) t)
  | 0x12 => plain (.returnCall (← u32))
  | 0x13 =>
    let t ← u32
    plain (.returnCallIndirect (← u32) t)
  | 0x14 => plain (.callRef (← u32))
  | 0x15 => plain (.returnCallRef (← u32))
  | 0x1f =>
    let bt ← blockType
    pure (.tryTable bt (← vec catch_))
  | 0x1a => plain .drop
  | 0x1b => plain (.select none)
  | 0x1c => plain (.select (some (← vec valType)))
  | 0x20 => plain (.localGet (← u32))
  | 0x21 => plain (.localSet (← u32))
  | 0x22 => plain (.localTee (← u32))
  | 0x23 => plain (.globalGet (← u32))
  | 0x24 => plain (.globalSet (← u32))
  | 0x25 => plain (.tableGet (← u32))
  | 0x26 => plain (.tableSet (← u32))
  | 0x3f => plain (.memorySize (← u32))
  | 0x40 => plain (.memoryGrow (← u32))
  | 0x41 => let _ ← signed 32; plain (.const .i32)
  | 0x42 => let _ ← signed 64; plain (.const .i64)
  | 0x43 => let _ ← bytes 4; plain (.const .f32)
  | 0x44 => let _ ← bytes 8; plain (.const .f64)
  | 0xd0 => plain (.refNull (← heapType))
  | 0xd1 => plain .refIsNull
  | 0xd2 => plain (.refFunc (← u32))
  | 0xd3 => plain .refEq
  | 0xd4 => plain .refAsNonNull
  | 0xd5 => plain (.brOnNull (← u32))
  | 0xd6 => plain (.brOnNonNull (← u32))
  | 0xfb => aggregateInstr
  | 0xfc => miscInstr
  | 0xfd => vectorInstr
  | 0xfe => atomicInstr
  | _ =>
    let found : Option (DecodeM Instr) :=
      if 0x28 ≤ op ∧ op ≤ 0x35 then
        (loadCode? op).map fun (t, n) => do plain (.load t n (← memArg))
      else if 0x36 ≤ op ∧ op ≤ 0x3e then
        (storeCode? op).map fun (t, n) => do plain (.store t n (← memArg))
      else if 0x45 ≤ op ∧ op ≤ 0xc4 then (numericCode? op).map plain
      else none
    match found with
    | some d => d
    | none => throw "illegal opcode"

/-- Reads instructions until the bytes run out. Each instruction takes at least one byte, so the
number of bytes bounds the steps. -/
def instrsToEnd : DecodeM Code := do
  let rec go : Nat → List Instr → DecodeM Code
    | 0, acc => pure acc.reverse
    | fuel + 1, acc => do
      if (← get).isEmpty then pure acc.reverse else go fuel ((← instr) :: acc)
  go (← get).length []

/-- Reads a constant expression: instructions up to the `end` that closes it. -/
def constExpr : DecodeM Code := do
  let rec go : Nat → Nat → List Instr → DecodeM Code
    | 0, _, _ => throw "unexpected end of section or function"
    | fuel + 1, depth, acc => do
      let i ← instr
      match i, depth with
      | .close, 0 => pure (.close :: acc).reverse
      | .close, d + 1 => go fuel d (i :: acc)
      | .block _, d | .loop _, d | .ite _, d | .tryTable _ _, d => go fuel (d + 1) (i :: acc)
      | _, d => go fuel d (i :: acc)
  go ((← get).length + 1) 0 []

/-- Runs a decoder on exactly the given bytes. -/
def within {α : Type} (bs : List UInt8) (d : DecodeM α) : DecodeM α := do
  match d.run bs with
  | .ok (a, []) => pure a
  | .ok (_, _ :: _) => throw "section size mismatch: unexpected data at the end of the section"
  | .error e => throw e

/-- Reads an import. -/
def import_ : DecodeM Import := do
  let module ← name
  let field ← name
  let desc ← match (← byte).toNat with
    | 0 => ImportDesc.func <$> u32
    | 1 => ImportDesc.table <$> tableType
    | 2 => ImportDesc.memory <$> memType
    | 3 => ImportDesc.global <$> globalType
    | 4 => do
      if (← byte) != 0 then throw "invalid tag attribute"
      ImportDesc.tag <$> u32
    | _ => throw "invalid external kind"
  pure ⟨module, field, desc⟩

/-- Reads a table definition, with an initial element if it has one. -/
def table : DecodeM Table := do
  match (← get) with
  | 0x40 :: rest =>
    set rest
    if (← byte) != 0 then throw "invalid table encoding"
    let t ← tableType
    pure ⟨t, some (← constExpr)⟩
  | _ => pure ⟨← tableType, none⟩

/-- Reads an export. -/
def export_ : DecodeM Export := do
  let n ← name
  let kind ← match (← byte).toNat with
    | 0 => pure ExternKind.func
    | 1 => pure .table
    | 2 => pure .memory
    | 3 => pure .global
    | 4 => pure .tag
    | _ => throw "invalid external kind"
  pure ⟨n, kind, ← u32⟩

/-- Reads an element kind byte, which must be zero, and gives the type of function indices: non-null
function references. -/
def elemKind : DecodeM ValType := do
  if (← byte) != 0 then throw "invalid element kind"
  pure (.ref false .func)

/-- Reads an element segment by its flags: bit 0 passive or declarative, bit 1 an explicit table
or declarative, bit 2 expressions instead of function indices. A segment of function indices
holds non-null function references; one of expressions without a type holds `funcref`. -/
def elem : DecodeM Elem := do
  let flags ← u32
  if flags > 7 then throw "invalid element segment flags"
  let funcs : DecodeM (List Code) := do
    let fs ← vec u32
    pure (fs.map fun f => [.plain (.refFunc f), .close])
  let exprs : DecodeM (List Code) := vec constExpr
  let active (table : Nat) : DecodeM ElemMode := do pure (.active table (← constExpr))
  match flags with
  | 0 =>
    let mode ← active 0
    pure ⟨.ref false .func, mode, ← funcs⟩
  | 1 =>
    let t ← elemKind
    pure ⟨t, .passive, ← funcs⟩
  | 2 =>
    let tbl ← u32
    let mode ← active tbl
    let t ← elemKind
    pure ⟨t, mode, ← funcs⟩
  | 3 =>
    let t ← elemKind
    pure ⟨t, .declarative, ← funcs⟩
  | 4 =>
    let mode ← active 0
    pure ⟨.ref true .func, mode, ← exprs⟩
  | 5 =>
    let t ← valType
    pure ⟨t, .passive, ← exprs⟩
  | 6 =>
    let tbl ← u32
    let mode ← active tbl
    let t ← valType
    pure ⟨t, mode, ← exprs⟩
  | _ =>
    let t ← valType
    pure ⟨t, .declarative, ← exprs⟩

/-- Reads a data segment by its flags. -/
def data : DecodeM DataMode := do
  match ← u32 with
  | 0 =>
    let off ← constExpr
    let n ← u32
    let _ ← bytes n
    pure (.active 0 off)
  | 1 =>
    let n ← u32
    let _ ← bytes n
    pure .passive
  | 2 =>
    let mem ← u32
    let off ← constExpr
    let n ← u32
    let _ ← bytes n
    pure (.active mem off)
  | _ => throw "invalid data segment flags"

/-- Reads a function body: its locals, at most 50000 in total, and its code. -/
def body : DecodeM (List ValType × Code) := do
  let groups ← vec do
    let n ← u32
    pure (n, ← valType)
  let total := groups.foldl (fun acc g => acc + g.1) 0
  if total > 50000 then throw "too many locals"
  let locals := groups.flatMap fun (n, t) => List.replicate n t
  pure (locals, ← instrsToEnd)

/-- The position of a section id in the order sections must follow. -/
def sectionRank? : Nat → Option Nat
  | 1 => some 1
  | 2 => some 2
  | 3 => some 3
  | 4 => some 4
  | 5 => some 5
  | 13 => some 6
  | 6 => some 7
  | 7 => some 8
  | 8 => some 9
  | 9 => some 10
  | 12 => some 11
  | 10 => some 12
  | 11 => some 13
  | _ => none

/-- A module being decoded: its parts so far, the function types awaiting bodies, the rank of the
last section, and the number of code entries. -/
structure Partial where
  m : Module := {}
  funcTypes : List Nat := []
  bodies : List (List ValType × Code) := []
  sawFunctions : Bool := false
  sawCode : Bool := false
  rank : Nat := 0

/-- Reads one section into a partial module. -/
def section_ (p : Partial) : DecodeM Partial := do
  let id := (← byte).toNat
  let size ← u32
  let content ← bytes size
  if id == 0 then
    let (n, rest) ← match (name.run content) with
      | .ok r => pure r
      | .error e => throw e
    if n == "name" then pure { p with m := { p.m with nameSections := p.m.nameSections ++ [rest] } }
    else pure p
  else
    let rank ← match sectionRank? id with
      | some r => pure r
      | none => throw "malformed section id"
    if rank ≤ p.rank then throw "section out of order"
    let p := { p with rank }
    let m := p.m
    within content do
      match id with
      | 1 => pure { p with m := { m with types := (← vec recGroup).flatten } }
      | 2 => pure { p with m := { m with imports := ← vec import_ } }
      | 3 => pure { p with funcTypes := ← vec u32, sawFunctions := true }
      | 4 => pure { p with m := { m with tables := ← vec table } }
      | 5 => pure { p with m := { m with memories := ← vec memType } }
      | 13 => pure { p with m := { m with tags := ← vec (do
          if (← byte) != 0 then throw "invalid tag attribute"
          u32) } }
      | 6 => pure { p with m := { m with globals := ← vec (do
          let t ← globalType
          pure ⟨t, ← constExpr⟩) } }
      | 7 => pure { p with m := { m with exports := ← vec export_ } }
      | 8 => pure { p with m := { m with starts := [← u32] } }
      | 9 => pure { p with m := { m with elems := ← vec elem } }
      | 12 => pure { p with m := { m with dataCount := some (← u32) } }
      | 10 =>
        let bodies ← vec do
          let n ← u32
          let bs ← bytes n
          within bs body
        pure { p with bodies, sawCode := true }
      | _ => pure { p with m := { m with datas := ← vec data } }

/-- Decodes a binary module.

A binary module is the magic bytes `\0asm`, version 1, and sections: each an id byte, a size
and contents that must use exactly that size. Sections other than custom ones appear at most
once, in the order type, import, function, table, memory, tag, global, export, start, element,
data count, code, data. Integers are LEB128, at most as many bytes as their width needs and
with no stray high bits. Decoding gives the module's parts and the contents of its custom
sections named `name`. Instructions beyond the one-byte opcodes come after a prefix byte and a
`u32` opcode: `0xfb` for structs, arrays, casts and `i31` references, `0xfc` for saturating
conversions and bulk memory and table operations, `0xfd` for vectors, `0xfe` for atomics. -/
def decode (bs : List UInt8) : Except String Module := do
  if bs.take 4 != [0, 0x61, 0x73, 0x6d] then throw "magic header not detected"
  if (bs.drop 4).take 4 != [1, 0, 0, 0] then throw "unknown binary version"
  let rec go : Nat → Partial → DecodeM Partial
    | 0, p => pure p
    | fuel + 1, p => do
      if (← get).isEmpty then pure p else go fuel (← section_ p)
  let rest := bs.drop 8
  let (p, _) ← (go rest.length {}).run rest
  if p.funcTypes.length != p.bodies.length then
    throw "function and code section have inconsistent lengths"
  match p.m.dataCount with
  | some n => if n != p.m.datas.length then
      throw "data count and data section have inconsistent lengths"
  | none => pure ()
  let funcs := (p.funcTypes.zip p.bodies).map fun (t, (locals, code)) => ⟨t, locals, code⟩
  pure { p.m with funcs }

end WasmBoogie.Wasm.Binary
