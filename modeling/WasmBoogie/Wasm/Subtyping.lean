import WasmBoogie.Wasm.Module

namespace WasmBoogie.Wasm

/-- Renames the type indices of a heap type. -/
def HeapType.mapIndex (f : Nat → Nat) : HeapType → HeapType
  | .concrete i => .concrete (f i)
  | h => h

/-- Renames the type indices of a value type. -/
def ValType.mapIndex (f : Nat → Nat) : ValType → ValType
  | .ref n h => .ref n (h.mapIndex f)
  | t => t

/-- Renames the type indices of a storage type. -/
def StorageType.mapIndex (f : Nat → Nat) : StorageType → StorageType
  | .val t => .val (t.mapIndex f)
  | s => s

/-- Renames the type indices of a field type. -/
def FieldType.mapIndex (f : Nat → Nat) (ft : FieldType) : FieldType :=
  { ft with storage := ft.storage.mapIndex f }

/-- Renames the type indices of a composite type. -/
def CompType.mapIndex (f : Nat → Nat) : CompType → CompType
  | .func t => .func ⟨t.params.map (·.mapIndex f), t.results.map (·.mapIndex f)⟩
  | .struct fs => .struct (fs.map (·.mapIndex f))
  | .array a => .array (a.mapIndex f)

/-- Renames the type indices of a defined type, its supertypes included. -/
def SubType.mapIndex (f : Nat → Nat) (t : SubType) : SubType :=
  { t with supers := t.supers.map f, comp := t.comp.mapIndex f }

/-- The value types a composite type mentions. -/
def CompType.valTypes : CompType → List ValType
  | .func ft => ft.params ++ ft.results
  | .struct fs => fs.filterMap fun f => match f.storage with
    | .val v => some v
    | _ => none
  | .array f => match f.storage with
    | .val v => [v]
    | _ => []

/-- The type indices a composite type mentions. -/
def CompType.indices (c : CompType) : List Nat :=
  c.valTypes.filterMap fun
    | .ref _ (.concrete i) => some i
    | _ => none

/-- The recursion groups of a list of types, as the index of each group's first type and the
group's size. A type that opens a group carries the group's size. -/
def recGroups (types : List SubType) : List (Nat × Nat) :=
  types.zipIdx.filterMap fun (t, i) => if t.groupSize > 0 then some (i, t.groupSize) else none

/-- The recursion group that holds a type index: its first index and its size. -/
def groupOf (types : List SubType) (i : Nat) : Nat × Nat :=
  ((recGroups types).find? fun (start, size) => start ≤ i && i < start + size).getD (i, 1)

/-- A group's definitions with references made independent of where the group sits: a
reference before the group becomes `3 * c` for the canonical index `c` of its target, a
reference into the group `3 * k + 1` for the position `k`, and a reference past the group,
which no valid module has, `3 * j + 2`. -/
def groupKey (types : List SubType) (canon : List Nat) (start size : Nat) : List SubType :=
  ((types.drop start).take size).map fun t =>
    t.mapIndex fun j =>
      if j < start then 3 * canon.getD j j
      else if j < start + size then 3 * (j - start) + 1
      else 3 * j + 2

/-- The canonical index of every type: a type whose group has the key of an earlier group
takes the index of the type at its position there, any other its own index.

Defined types come in recursion groups. Two defined types are the same type when they sit at
the same position of two groups of the same shape: as many types, each with the same
definition, where a reference into its own group counts by its position there and a reference
out of it by the type it names, itself compared the same way. So every type has a canonical
index, the index of the first type that is the same as it, and equality of types is equality of
canonical indices. -/
def canonicalIndices (types : List SubType) : List Nat :=
  let step (acc : List Nat × List (Nat × List SubType)) (g : Nat × Nat) :
      List Nat × List (Nat × List SubType) :=
    let (canon, seen) := acc
    let (start, size) := g
    let key := groupKey types canon start size
    match seen.find? (·.2 == key) with
    | some (first, _) => (canon ++ (List.range size).map (first + ·), seen)
    | none => (canon ++ List.range' start size, seen ++ [(start, key)])
  ((recGroups types).foldl step ([], [])).1

/-- The defined types of a module with their canonical indices. -/
structure TypeContext where
  types : List SubType
  canon : List Nat

/-- The type context of a module. -/
def Module.typeContext (m : Module) : TypeContext :=
  ⟨m.types, canonicalIndices m.types⟩

namespace TypeContext

variable (ctx : TypeContext)

/-- The composite type of a type index. -/
def comp? (i : Nat) : Option CompType :=
  (ctx.types[i]?).map (·.comp)

/-- Whether two type indices name the same type. -/
def same (i j : Nat) : Bool :=
  i == j || ctx.canon.getD i i == ctx.canon.getD j j

/-- Whether a type is declared, directly or through others, a subtype of another; `fuel` bounds
the chain of supertypes. -/
def declaredSub : Nat → Nat → Nat → Bool
  | 0, _, _ => false
  | fuel + 1, i, j =>
    ctx.same i j ||
      match ctx.types[i]? with
      | some t => t.supers.any fun s => declaredSub fuel s j
      | none => false

/-- Whether a type index is a function type. -/
def isFunc (i : Nat) : Bool :=
  match ctx.comp? i with
  | some (.func _) => true
  | _ => false

/-- Whether a type index is a struct or array type. -/
def isAggregate (i : Nat) : Bool :=
  match ctx.comp? i with
  | some (.struct _) | some (.array _) => true
  | _ => false

/-- Subtyping of heap types.

Heap types are ordered by the declared supertypes of defined types and by the abstract
hierarchies: `none` below struct, array and `i31` types, those below `eq`, `eq` below `any`;
`nofunc` below function types below `func`; `noextern` below `extern`; `noexn` below `exn`.
Value types are ordered by their heap types, a non-null reference below a nullable one. -/
def heapSub (a b : HeapType) : Bool :=
  if a == b then true
  else match a, b with
  | .concrete i, .concrete j => ctx.same i j || ctx.declaredSub (ctx.types.length + 1) i j
  | .concrete i, .func => ctx.isFunc i
  | .concrete i, .struct => match ctx.comp? i with
    | some (.struct _) => true
    | _ => false
  | .concrete i, .array => match ctx.comp? i with
    | some (.array _) => true
    | _ => false
  | .concrete i, .eq | .concrete i, .any => ctx.isAggregate i
  | .i31, .eq | .i31, .any | .struct, .eq | .struct, .any | .array, .eq | .array, .any
  | .eq, .any => true
  | .none, .any | .none, .eq | .none, .i31 | .none, .struct | .none, .array => true
  | .none, .concrete j => ctx.isAggregate j
  | .noFunc, .func => true
  | .noFunc, .concrete j => ctx.isFunc j
  | .noExtern, .external => true
  | .noExn, .exn => true
  | _, _ => false

/-- Subtyping of value types. -/
def valSub : ValType → ValType → Bool
  | .ref n1 h1, .ref n2 h2 => (!n1 || n2) && ctx.heapSub h1 h2
  | a, b => a == b

/-- Subtyping of lists of value types, position by position. -/
def valsSub (as bs : List ValType) : Bool :=
  as.length == bs.length && (as.zip bs).all fun (a, b) => ctx.valSub a b

/-- Subtyping of storage types: packed types only below themselves. -/
def storageSub : StorageType → StorageType → Bool
  | .val a, .val b => ctx.valSub a b
  | a, b => a == b

/-- Subtyping of fields: an immutable field may narrow its type, a mutable one may not change
it. -/
def fieldSub (a b : FieldType) : Bool :=
  a.mutable == b.mutable &&
    (ctx.storageSub a.storage b.storage && (!a.mutable || ctx.storageSub b.storage a.storage))

/-- Subtyping of composite types: functions with wider parameters and narrower results, structs
that extend a prefix of narrower fields, arrays of narrower elements. -/
def compSub : CompType → CompType → Bool
  | .func a, .func b => ctx.valsSub b.params a.params && ctx.valsSub a.results b.results
  | .struct fs, .struct gs =>
    gs.length ≤ fs.length && (fs.zip gs).all fun (f, g) => ctx.fieldSub f g
  | .array a, .array b => ctx.fieldSub a b
  | _, _ => false

/-- The top of the hierarchy a heap type belongs to. -/
def top : HeapType → HeapType
  | .func | .noFunc => .func
  | .external | .noExtern => .external
  | .exn | .noExn => .exn
  | .concrete i => if ctx.isFunc i then .func else .any
  | _ => .any

/-- A heap type whose index, if it has one, is a defined type. -/
def heapValid : HeapType → Bool
  | .concrete i => i < ctx.types.length
  | _ => true

/-- A value type whose references name defined types. -/
def valValid : ValType → Bool
  | .ref _ h => ctx.heapValid h
  | _ => true

end TypeContext

end WasmBoogie.Wasm
