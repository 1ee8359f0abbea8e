namespace WasmBoogie.Wasm

/-- Heap types of references.

Every reference to a defined type is an index into the module's types. -/
inductive HeapType where
  | func | external | any | eq | i31 | struct | array | none | noFunc | noExtern | exn | noExn
  /-- A type defined in the module, by index. -/
  | concrete (idx : Nat)
  deriving Repr, DecidableEq, Inhabited

/-- Value types. -/
inductive ValType where
  | i32 | i64 | f32 | f64 | v128
  | ref (nullable : Bool) (heap : HeapType)
  deriving Repr, DecidableEq, Inhabited

namespace ValType

/-- `funcref`. -/
def funcRef : ValType := .ref true .func

/-- `externref`. -/
def externRef : ValType := .ref true .external

/-- A number or vector type, as opposed to a reference. -/
def isNumOrVec : ValType → Bool
  | .ref _ _ => false
  | _ => true

/-- A type whose locals start with a default value. -/
def isDefaultable : ValType → Bool
  | .ref nullable _ => nullable
  | _ => true

end ValType

/-- A field of a struct or array type: a value type or a packed integer, maybe mutable. -/
inductive StorageType where
  | val (t : ValType)
  | i8
  | i16
  deriving Repr, DecidableEq, Inhabited

namespace StorageType

/-- The value type a storage type is read as: packed integers as `i32`. -/
def unpacked : StorageType → ValType
  | .val t => t
  | _ => .i32

/-- Whether a storage type is packed. -/
def isPacked : StorageType → Bool
  | .val _ => false
  | _ => true

/-- Whether a storage type has a default value. -/
def isDefaultable : StorageType → Bool
  | .val t => t.isDefaultable
  | _ => true

/-- Whether a storage type is a number or vector, packed or not. -/
def isNumeric : StorageType → Bool
  | .val t => t.isNumOrVec
  | _ => true

end StorageType

/-- A field and its mutability. -/
structure FieldType where
  storage : StorageType
  mutable : Bool
  deriving Repr, DecidableEq, Inhabited

/-- A function type: the parameter and result types. -/
structure FuncType where
  params : List ValType := []
  results : List ValType := []
  deriving Repr, DecidableEq, Inhabited

/-- The shapes of defined types. -/
inductive CompType where
  | func (t : FuncType)
  | struct (fields : List FieldType)
  | array (field : FieldType)
  deriving Repr, DecidableEq, Inhabited

/-- A defined type with its declared supertypes. -/
structure SubType where
  final : Bool := true
  supers : List Nat := []
  comp : CompType
  /-- The number of types in the recursion group this type opens, or 0 inside a group. -/
  groupSize : Nat := 1
  deriving Repr, DecidableEq, Inhabited

/-- The size limits of a table or memory. -/
structure Limits where
  min : Nat
  max : Option Nat
  deriving Repr, DecidableEq, Inhabited

/-- A table type: addressed by 64-bit indices or not, limits and element type. -/
structure TableType where
  addr64 : Bool := false
  limits : Limits
  elem : ValType
  deriving Repr, DecidableEq, Inhabited

/-- A memory type. -/
structure MemType where
  addr64 : Bool := false
  limits : Limits
  shared : Bool := false
  /-- The binary logarithm of the page size, when it is declared. -/
  pageSizeLog2 : Option Nat := none
  deriving Repr, DecidableEq, Inhabited

/-- A global type. -/
structure GlobalType where
  mutable : Bool
  type : ValType
  deriving Repr, DecidableEq, Inhabited

/-- The type of a block: none, one result, or a function type by index. -/
inductive BlockType where
  | empty
  | value (t : ValType)
  | index (idx : Nat)
  deriving Repr, DecidableEq, Inhabited

/-- The immediate of a memory access: the memory, the offset and the alignment as a power of
two. -/
structure MemArg where
  memory : Nat := 0
  offset : Nat := 0
  alignLog2 : Nat
  deriving Repr, DecidableEq, Inhabited

/-- A handler of a `try_table`: the tag it catches, or every exception when it names none;
whether it also passes the exception's reference on; and the label it branches to. -/
structure Catch where
  tag : Option Nat
  withRef : Bool
  label : Nat
  deriving Repr, DecidableEq, Inhabited

/-- The ways an atomic instruction accesses memory: read, write, read-modify-write, compare and
exchange, wake waiters, or wait. -/
inductive AtomicAccess where
  | load | store | rmw | cmpxchg | notify | wait
  deriving Repr, DecidableEq, Inhabited

end WasmBoogie.Wasm
