import WasmBoogie.Wasm.Component.Syntax

namespace WasmBoogie.Wasm.Component

/-- The type of a core item that a core module imports or exports. -/
inductive CoreEntity where
  | func (t : FuncType)
  | table (t : TableType)
  | memory (t : MemType)
  | global (t : GlobalType)
  | tag (t : FuncType)
  deriving Repr, DecidableEq, Inhabited

/-- The type of a core module: its imports, by module and item name, and its exports. -/
structure ModuleTy where
  imports : List (String × String × CoreEntity) := []
  exports : List (String × CoreEntity) := []
  deriving Repr, Inhabited

/-- A resolved component type, or the type of a component item.

Where the syntax refers to types by index, these types are resolved: a value type is its whole
structure, and an instance type lists the types of its exports. Records, variants, flags and
enums carry an identity besides their structure, and so do resources: a type that is exported
or imported again is a fresh identity of the same structure. Matching compares structure and
ignores identities, except that of resources; the rule that an import or export mentions only
named types looks at identities alone.

An item of a component has one of these types: a core module, a function, a value, a type, an
instance or a component. The type of a value is its value type; the type of a type item is the
type itself. -/
inductive Ty where
  | prim (p : Prim)
  | record (id : Nat) (fields : List (String × Ty))
  | variant (id : Nat) (cases : List (String × Option Ty))
  | list (t : Ty)
  | fixedList (t : Ty) (length : Nat)
  | tuple (ts : List Ty)
  | flags (id : Nat) (names : List String)
  | enum (id : Nat) (names : List String)
  | option (t : Ty)
  | result (ok err : Option Ty)
  | own (resource : Nat)
  | borrow (resource : Nat)
  | resource (id : Nat)
  | func (params : List (String × Ty)) (result : Option Ty)
  /-- An instance type: the types of its exports. -/
  | inst (exports : List (String × Ty))
  /-- A component type: the types of its imports and of its exports. -/
  | comp (imports exports : List (String × Ty))
  | module (t : ModuleTy)
  /-- The type of a value item. -/
  | value (t : Ty)
  /-- The type of a type item: the type itself. -/
  | type (t : Ty)
  deriving Repr, Inhabited

/-- A limit on a number of items: a core item of one type is below another when it is at least
as large and bounded at least as tightly. -/
def limitsWithin (a b : Limits) : Bool :=
  a.min ≥ b.min &&
    match b.max, a.max with
    | none, _ => true
    | some _, none => false
    | some bm, some am => am ≤ bm

/-- Whether a core item of type `a` may stand where one of type `b` is expected. -/
def CoreEntity.matches : CoreEntity → CoreEntity → Bool
  | .func a, .func b => a == b
  | .table a, .table b => a.elem == b.elem && a.addr64 == b.addr64 && limitsWithin a.limits b.limits
  | .memory a, .memory b =>
    a.shared == b.shared && a.addr64 == b.addr64 && limitsWithin a.limits b.limits
  | .global a, .global b => a.mutable == b.mutable && a.type == b.type
  | .tag a, .tag b => a == b
  | _, _ => false

/-- Whether a core module of type `a` may stand where one of type `b` is expected: `b` offers
every one of its imports at a type it accepts, and it offers every export that `b` promises. -/
def ModuleTy.matches (a b : ModuleTy) : Bool :=
  a.imports.all (fun (m, n, x) =>
    match b.imports.find? (fun (m', n', _) => m' == m && n' == n) with
    | some (_, _, y) => y.matches x
    | none => false) &&
  b.exports.all fun (n, y) =>
    match a.exports.find? (·.1 == n) with
    | some (_, x) => x.matches y
    | none => false

mutual

/-- The number of nodes of a type. -/
def Ty.size : Ty → Nat
  | .record _ fs => 1 + Ty.fieldsSize fs
  | .variant _ cs => 1 + Ty.casesSize cs
  | .list t | .fixedList t _ | .option t | .value t | .type t => 1 + t.size
  | .tuple ts => 1 + Ty.listSize ts
  | .result ok err => 1 + Ty.optSize ok + Ty.optSize err
  | .func ps r => 1 + Ty.fieldsSize ps + Ty.optSize r
  | .inst es => 1 + Ty.fieldsSize es
  | .comp is es => 1 + Ty.fieldsSize is + Ty.fieldsSize es
  | _ => 1

/-- The number of nodes of named types. -/
def Ty.fieldsSize : List (String × Ty) → Nat
  | [] => 0
  | (_, t) :: rest => t.size + Ty.fieldsSize rest

/-- The number of nodes of named optional types. -/
def Ty.casesSize : List (String × Option Ty) → Nat
  | [] => 0
  | (_, t) :: rest => Ty.optSize t + Ty.casesSize rest

/-- The number of nodes of types. -/
def Ty.listSize : List Ty → Nat
  | [] => 0
  | t :: rest => t.size + Ty.listSize rest

/-- The number of nodes of an optional type. -/
def Ty.optSize : Option Ty → Nat
  | none => 0
  | some t => t.size

end

/-- Whether labels are equal, as kebab-case names are: ignoring case. -/
def labelEq (a b : String) : Bool := a.toLower == b.toLower

/-- Whether an item of type `a` may stand where one of type `b` is expected. Value and function
types must agree in structure and in their labels, in order; an instance must offer every
export that `b` promises; a component must need no import that `b` does not offer and offer
every export `b` promises. `fuel` bounds the depth of the comparison. -/
def Ty.matchesWith : Nat → Ty → Ty → Bool
  | 0, _, _ => false
  | fuel + 1, a, b =>
    let go := Ty.matchesWith fuel
    let opt : Option Ty → Option Ty → Bool
      | none, none => true
      | some x, some y => go x y
      | _, _ => false
    match a, b with
    | .prim p, .prim q => p == q
    | .record _ fs, .record _ gs =>
      fs.length == gs.length && (fs.zip gs).all fun ((n, x), (m, y)) => labelEq n m && go x y
    | .variant _ cs, .variant _ ds =>
      cs.length == ds.length && (cs.zip ds).all fun ((n, x), (m, y)) => labelEq n m && opt x y
    | .list x, .list y | .option x, .option y => go x y
    | .fixedList x n, .fixedList y m => n == m && go x y
    | .tuple xs, .tuple ys => xs.length == ys.length && (xs.zip ys).all fun (x, y) => go x y
    | .flags _ ns, .flags _ ms | .enum _ ns, .enum _ ms =>
      ns.length == ms.length && (ns.zip ms).all fun (n, m) => labelEq n m
    | .result o e, .result o' e' => opt o o' && opt e e'
    | .own r, .own s | .borrow r, .borrow s | .resource r, .resource s => r == s
    | .func ps r, .func qs s =>
      ps.length == qs.length && (ps.zip qs).all (fun ((n, x), (m, y)) => labelEq n m && go x y) &&
        opt r s
    | .inst es, .inst fs =>
      fs.all fun (n, y) =>
        match es.find? (·.1 == n) with
        | some (_, x) => go x y
        | none => false
    | .comp is es, .comp js fs =>
      is.all (fun (n, x) =>
        match js.find? (·.1 == n) with
        | some (_, y) => go y x
        | none => false) &&
      fs.all fun (n, y) =>
        match es.find? (·.1 == n) with
        | some (_, x) => go x y
        | none => false
    | .module x, .module y => x.matches y
    | .value x, .value y => go x y
    | .type x, .type y => go x y
    | _, _ => false

/-- Whether an item of type `a` may stand where one of type `b` is expected. -/
def Ty.matches (a b : Ty) : Bool :=
  Ty.matchesWith (a.size + b.size + 1) a b

mutual

/-- Whether a value type, where it is used, mentions only named types: records, variants,
flags, enums and resources must be in `named`, and the other types must be built of named
types. -/
def Ty.isNamedUse (named : List Nat) : Ty → Bool
  | .record id _ | .variant id _ | .flags id _ | .enum id _ => named.contains id
  | .own r | .borrow r => named.contains r
  | .list t | .fixedList t _ | .option t => t.isNamedUse named
  | .tuple ts => Ty.allNamedUse named ts
  | .result ok err => Ty.optNamedUse named ok && Ty.optNamedUse named err
  | _ => true

/-- Whether every type of a list mentions only named types. -/
def Ty.allNamedUse (named : List Nat) : List Ty → Bool
  | [] => true
  | t :: rest => t.isNamedUse named && Ty.allNamedUse named rest

/-- Whether an optional type mentions only named types. -/
def Ty.optNamedUse (named : List Nat) : Option Ty → Bool
  | none => true
  | some t => t.isNamedUse named

end

mutual

/-- Whether the types inside a type are named, one level down: the fields, cases, elements and
resources of a value type, the parameters and result of a function type, and what the exports
of an instance type mention. -/
def Ty.hasNamedParts (named : List Nat) : Ty → Bool
  | .record _ fs => fs.all fun (_, t) => t.isNamedUse named
  | .variant _ cs => cs.all fun (_, t) => Ty.optNamedUse named t
  | .list t | .fixedList t _ | .option t => t.isNamedUse named
  | .tuple ts => Ty.allNamedUse named ts
  | .result ok err => Ty.optNamedUse named ok && Ty.optNamedUse named err
  | .own r | .borrow r => named.contains r
  | .func ps r => ps.all (fun (_, t) => t.isNamedUse named) && Ty.optNamedUse named r
  | .inst es => Ty.exportsNamed named es
  | .value t => t.isNamedUse named
  | .type t => t.hasNamedParts named
  | _ => true

/-- Whether the exports of an instance type mention only named types. -/
def Ty.exportsNamed (named : List Nat) : List (String × Ty) → Bool
  | [] => true
  | (_, t) :: rest => t.hasNamedParts named && Ty.exportsNamed named rest

end

/-- The identity a type item registers as named: that of a record, variant, flags, enum or
resource. -/
def Ty.identity? : Ty → Option Nat
  | .record id _ | .variant id _ | .flags id _ | .enum id _ | .resource id => some id
  | _ => none

/-- The same type with a fresh identity, as exporting or importing a type gives it. Resources
keep theirs. -/
def Ty.withIdentity (t : Ty) (id : Nat) : Ty :=
  match t with
  | .record _ fs => .record id fs
  | .variant _ cs => .variant id cs
  | .flags _ ns => .flags id ns
  | .enum _ ns => .enum id ns
  | _ => t

/-- Whether a type item is a value type. -/
def Ty.isValueType : Ty → Bool
  | .resource _ | .func _ _ | .inst _ | .comp _ _ | .module _ | .value _ | .type _ => false
  | _ => true

/-- The limits of the canonical flat form of function signatures: parameters passed in place,
and results returned in place. -/
def maxFlatParams : Nat := 16

/-- The number of results that are returned in place. -/
def maxFlatResults : Nat := 1

/-- Joins two core types that one position of a variant's payload takes in different cases. -/
def joinFlat (a b : ValType) : ValType :=
  if a == b then a
  else if (a == .i32 && b == .f32) || (a == .f32 && b == .i32) then .i32
  else .i64

/-- Joins a case's flat payload into the payload so far, position by position. -/
def joinPayload : List ValType → List ValType → List ValType
  | a :: as, b :: bs => joinFlat a b :: joinPayload as bs
  | [], bs => bs
  | as, [] => as

mutual

/-- The core types a value of a type flattens to. -/
def Ty.flat : Ty → List ValType
  | .prim p =>
    match p with
    | .s64 | .u64 => [.i64]
    | .f32 => [.f32]
    | .f64 => [.f64]
    | .string => [.i32, .i32]
    | _ => [.i32]
  | .record _ fs => Ty.fieldsFlat fs
  | .variant _ cs => .i32 :: Ty.casesFlat cs
  | .list _ => [.i32, .i32]
  | .fixedList t n => (List.replicate n t.flat).flatten
  | .tuple ts => Ty.listFlat ts
  | .flags _ ns => List.replicate ((ns.length + 31) / 32) .i32
  | .option t => .i32 :: t.flat
  | .result ok err => .i32 :: joinPayload (Ty.optFlat ok) (Ty.optFlat err)
  | _ => [.i32]

/-- The flat form of the fields of a record, one after the other. -/
def Ty.fieldsFlat : List (String × Ty) → List ValType
  | [] => []
  | (_, t) :: rest => t.flat ++ Ty.fieldsFlat rest

/-- The joined payload of a variant's cases. -/
def Ty.casesFlat : List (String × Option Ty) → List ValType
  | [] => []
  | (_, t) :: rest => joinPayload (Ty.optFlat t) (Ty.casesFlat rest)

/-- The flat form of types, one after the other. -/
def Ty.listFlat : List Ty → List ValType
  | [] => []
  | t :: rest => t.flat ++ Ty.listFlat rest

/-- The flat form of an optional payload. -/
def Ty.optFlat : Option Ty → List ValType
  | none => []
  | some t => t.flat

end

mutual

/-- Whether a value of a type holds data in linear memory: a string or a list. -/
def Ty.holdsPointer : Ty → Bool
  | .prim p => p == .string
  | .list _ => true
  | .record _ fs => Ty.fieldsHoldPointer fs
  | .variant _ cs => Ty.casesHoldPointer cs
  | .fixedList t _ | .option t => t.holdsPointer
  | .tuple ts => Ty.listHoldsPointer ts
  | .result ok err => Ty.optHoldsPointer ok || Ty.optHoldsPointer err
  | _ => false

/-- Whether a field holds data in linear memory. -/
def Ty.fieldsHoldPointer : List (String × Ty) → Bool
  | [] => false
  | (_, t) :: rest => t.holdsPointer || Ty.fieldsHoldPointer rest

/-- Whether a case holds data in linear memory. -/
def Ty.casesHoldPointer : List (String × Option Ty) → Bool
  | [] => false
  | (_, t) :: rest => Ty.optHoldsPointer t || Ty.casesHoldPointer rest

/-- Whether a type of a list holds data in linear memory. -/
def Ty.listHoldsPointer : List Ty → Bool
  | [] => false
  | t :: rest => t.holdsPointer || Ty.listHoldsPointer rest

/-- Whether an optional type holds data in linear memory. -/
def Ty.optHoldsPointer : Option Ty → Bool
  | none => false
  | some t => t.holdsPointer

end

/-- What lowering or lifting a function type needs: the core parameter and result types, and
whether a memory and a reallocation function must be given. -/
structure Lowering where
  params : List ValType := []
  results : List ValType := []
  needsMemory : Bool := false
  needsRealloc : Bool := false
  deriving Repr, Inhabited

/-- The core signature of a component function type: for a lowering (`lower`) the function a
core module calls, else the function that a lifting wraps. Parameters beyond the flat limit
pass through memory as one pointer; results beyond it come back through a pointer, which a
lowering takes as an extra parameter and a lifting returns. -/
def lowering (lower : Bool) (params : List (String × Ty)) (result : Option Ty) : Lowering :=
  let flatParams := (params.map fun (_, t) => t.flat).flatten
  let paramPtr := params.any fun (_, t) => t.holdsPointer
  let (ps, memory, realloc) :=
    if flatParams.length > maxFlatParams then ([ValType.i32], true, !lower)
    else (flatParams, lower && paramPtr, !lower && paramPtr)
  let resultPtr := (result.map Ty.holdsPointer).getD false
  let flatResults := (result.map Ty.flat).getD []
  let realloc := realloc || (lower && resultPtr)
  let (ps, rs, memory) :=
    if flatResults.length > maxFlatResults then
      if lower then (ps ++ [ValType.i32], [], true) else (ps, [ValType.i32], true)
    else (ps, flatResults, memory)
  { params := ps, results := rs, needsMemory := memory || realloc, needsRealloc := realloc }

end WasmBoogie.Wasm.Component
