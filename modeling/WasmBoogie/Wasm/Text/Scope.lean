import WasmBoogie.Wasm.Module
import WasmBoogie.Wasm.Text.Sexp
import WasmBoogie.Wasm.Text.Number

namespace WasmBoogie.Wasm.Text

/-- A reference to an item: an index or an identifier. -/
inductive Ref where
  | num (n : Nat)
  | name (s : String)
  deriving Repr, DecidableEq, Inhabited

/-- A value type as written, before references to defined types are resolved: such a reference
keeps its written form, an index or an identifier. -/
inductive WrittenType where
  | val (t : ValType)
  | ref (nullable : Bool) (target : Ref)
  deriving Repr, DecidableEq, Inhabited

/-- A function type as written: its parameter and result types. Types written in place are
matched to defined function types by this form. -/
structure FuncKey where
  params : List WrittenType := []
  results : List WrittenType := []
  deriving Repr, DecidableEq, Inhabited

/-- The identifiers of one index space, in index order. -/
abbrev Space := List (Option String)

/-- The index that an identifier stands for in a space. -/
def Space.find? (sp : Space) (s : String) : Option Nat :=
  List.idxOf? (some s) sp

/-- The identifiers of every index space of a module.

The items of each index space may carry identifiers. A reference is a number or an
identifier, and an identifier stands for the index of the item that declares it. Types are
written in place (`(param i32) (result i32)`) or by reference (`(type $t)`): a type written in
place stands for the first function type written the same way outside a recursion group, or
else for a new type added after all defined ones. Written the same way means equal as written,
before references are resolved: `(ref $t)` and `(ref 0)` differ even when `$t` is type 0.
Labels resolve to the depth of the innermost open block that carries them. The fields of a
struct type have identifiers of their own, and an item may carry a name annotation,
`(@name "...")`, after its identifier. -/
structure Spaces where
  types : Space := []
  funcs : Space := []
  tables : Space := []
  memories : Space := []
  globals : Space := []
  tags : Space := []
  elems : Space := []
  datas : Space := []
  /-- The identifiers of the fields of each type, by type index. -/
  fields : List Space := []
  deriving Repr, Inhabited

/-- What reading a module's code consults. -/
structure Scope where
  spaces : Spaces := {}
  /-- The function type of each defined type, or nothing for a struct or array type. -/
  defined : List (Option FuncType) := []
  /-- The function types that a type written in place may stand for, by index and as written:
  those defined outside a recursion group. -/
  matchable : List (Option FuncKey) := []
  /-- All the types that reading the fields adds, once a first reading has found them. -/
  ahead : Option (List FuncType) := none
  /-- The identifiers of the current function's locals, parameters first. -/
  locals : Space := []
  deriving Inhabited

/-- What reading a module's code accumulates. -/
structure ReadState where
  /-- The types added for types written in place, in the order they were added, each with the
  form it was written in. -/
  added : List (FuncType × FuncKey) := []
  /-- The labels of the open blocks, innermost first. -/
  labels : List (Option String) := []
  /-- The code read so far, the last instruction first. -/
  code : List Instr := []
  /-- The contents of the custom sections named `name`, each with the rank of its place. -/
  nameCustoms : List (Nat × List UInt8) := []
  /-- The proposals the code read so far uses that validation does not enable. -/
  proposals : List Proposal := []
  deriving Inhabited

/-- Reading module text: a scope to consult, state to accumulate, and failure with a message. -/
abbrev ReadM := ReaderT Scope (StateT ReadState (Except String))

/-- The identifier an item is, if it is one: a dollar sign and identifier characters, or a
dollar sign and a string. A dollar sign alone names nothing. -/
def Sexp.identifier? : Sexp → Except String (Option String)
  | .atom a =>
    match a.toList with
    | ['$'] => .error "empty identifier"
    | '$' :: rest => .ok (some (String.ofList rest))
    | _ => .ok none
  | .strId bytes =>
    match String.fromUTF8? (ByteArray.mk bytes.toArray) with
    | some s => if s.isEmpty then .error "empty identifier" else .ok (some s)
    | none => .error "malformed UTF-8 encoding"
  | _ => .ok none

/-- A string item as text, which must be UTF-8. -/
def Sexp.text? : Sexp → Except String (Option String)
  | .str bytes =>
    match String.fromUTF8? (ByteArray.mk bytes.toArray) with
    | some s => .ok (some s)
    | none => .error "malformed UTF-8 encoding"
  | _ => .ok none

/-- The name an item gives, if it is a name annotation: `(@name "...")` with one UTF-8
string. -/
def Sexp.nameAnnotation? : Sexp → Except String (Option String)
  | .list (.atom "@name" :: items) =>
    match items with
    | [.str bytes] =>
      match String.fromUTF8? (ByteArray.mk bytes.toArray) with
      | some s => .ok (some s)
      | none => .error "malformed UTF-8 encoding"
    | _ => .error "malformed name annotation"
  | _ => .ok none

/-- Lifts a result into reading. -/
def liftRead {α : Type} (r : Except String α) : ReadM α :=
  match r with
  | .ok a => pure a
  | .error e => throw e

/-- Takes an identifier off the front, if one is there. -/
def takeId : List Sexp → ReadM (Option String × List Sexp)
  | s :: rest => do
    match ← liftRead s.identifier? with
    | some n => pure (some n, rest)
    | none => pure (none, s :: rest)
  | [] => pure (none, [])

/-- Takes a name annotation off the front, if one is there. -/
def takeName : List Sexp → ReadM (Option String × List Sexp)
  | s :: rest => do
    match ← liftRead s.nameAnnotation? with
    | some n => pure (some n, rest)
    | none => pure (none, s :: rest)
  | [] => pure (none, [])

/-- Takes an identifier and then a name annotation off the front, each if it is there. -/
def takeIdName (items : List Sexp) : ReadM (Option String × Option String × List Sexp) := do
  let (id, items) ← takeId items
  let (name, items) ← takeName items
  pure (id, name, items)

/-- Takes a string off the front. -/
def takeText (what : String) : List Sexp → ReadM (String × List Sexp)
  | s :: rest => do
    match ← liftRead s.text? with
    | some t => pure (t, rest)
    | none => throw s!"expected a string for the {what}"
  | [] => throw s!"expected a string for the {what}"

/-- An unsigned 32-bit integer written as an item, if the item is an integer. -/
def Sexp.u32? : Sexp → Except String (Option Nat)
  | .atom a =>
    match NumberLit.ofString? a with
    | some (.int neg h n) =>
      match (NumberLit.int neg h n).unsigned? 32 with
      | some v => .ok (some v)
      | none => .error "invalid u32 number: constant out of range"
    | _ => .ok none
  | _ => .ok none

/-- Takes an unsigned integer of a width off the front, if one is there. -/
def takeNumber? (width : Nat) : List Sexp → ReadM (Option Nat × List Sexp)
  | .atom a :: rest =>
    match NumberLit.ofString? a with
    | some (.int neg h n) =>
      match (NumberLit.int neg h n).unsigned? width with
      | some v => pure (some v, rest)
      | none => throw "constant out of range"
    | _ => pure (none, .atom a :: rest)
  | items => pure (none, items)

/-- Takes a reference off the front, if one is there. -/
def takeRef? : List Sexp → ReadM (Option Ref × List Sexp)
  | s :: rest => do
    match ← liftRead s.identifier? with
    | some n => pure (some (.name n), rest)
    | none =>
      match ← liftRead s.u32? with
      | some v => pure (some (.num v), rest)
      | none => pure (none, s :: rest)
  | [] => pure (none, [])

/-- Takes a reference off the front, which must be there. -/
def takeRef (what : String) (items : List Sexp) : ReadM (Ref × List Sexp) := do
  match ← takeRef? items with
  | (some r, rest) => pure (r, rest)
  | (none, _) => throw s!"expected an index for the {what}"

/-- The index a reference stands for in a space. -/
def resolveIn (sp : Space) (what : String) : Ref → ReadM Nat
  | .num n => pure n
  | .name s =>
    match sp.find? s with
    | some i => pure i
    | none => throw s!"unknown {what}: failed to find name"

/-- Takes a reference into the space that `pick` selects and resolves it. -/
def takeIndex (pick : Spaces → Space) (what : String) (items : List Sexp) :
    ReadM (Nat × List Sexp) := do
  let (r, rest) ← takeRef what items
  pure (← resolveIn (pick (← read).spaces) what r, rest)

/-- Like `takeIndex`, with index 0 when no reference is there. -/
def takeIndexOr0 (pick : Spaces → Space) (what : String) (items : List Sexp) :
    ReadM (Nat × List Sexp) := do
  match ← takeRef? items with
  | (some r, rest) => pure (← resolveIn (pick (← read).spaces) what r, rest)
  | (none, rest) => pure (0, rest)

/-- Notes that the module uses a proposal that validation does not enable. -/
def useProposal (p : Proposal) : ReadM Unit :=
  modify fun s => { s with proposals := s.proposals ++ [p] }

/-- The heap types of continuations by keyword, which stand in for the abstract function heap
types: a module that uses them is invalid anyway. -/
def continuationHeap? : String → Option HeapType
  | "cont" => some .func
  | "nocont" => some .noFunc
  | _ => none

/-- The abstract heap types by keyword. -/
def abstractHeap? : String → Option HeapType
  | "func" => some .func
  | "extern" => some .external
  | "any" => some .any
  | "eq" => some .eq
  | "i31" => some .i31
  | "struct" => some .struct
  | "array" => some .array
  | "none" => some .none
  | "nofunc" => some .noFunc
  | "noextern" => some .noExtern
  | "exn" => some .exn
  | "noexn" => some .noExn
  | _ => none

/-- Reads an abstract heap type keyword, noting a continuation type's proposal. -/
def abstractHeapKeyword? (a : String) : ReadM (Option HeapType) := do
  match abstractHeap? a, continuationHeap? a with
  | some h, _ => pure (some h)
  | none, some h => do
    useProposal .stackSwitching
    pure (some h)
  | none, none => pure none

/-- Reads a heap type: a keyword, a type reference, a shared abstract type `(shared any)` or an
exact type `(exact $t)`. -/
def heapType? (s : Sexp) : ReadM (Option HeapType) := do
  match s with
  | .atom a =>
    match ← abstractHeapKeyword? a with
    | some h => return some h
    | none => pure ()
  | .list [.atom "shared", .atom a] =>
    match ← abstractHeapKeyword? a with
    | some h =>
      useProposal .sharedEverything
      return some h
    | none => throw "expected an abstract heap type"
  | .list [.atom "exact", r] =>
    let (i, _) ← takeIndex (·.types) "type" [r]
    useProposal .customDescriptors
    return some (.concrete i)
  | _ => pure ()
  match ← takeRef? [s] with
  | (some r, _) => pure (some (.concrete (← resolveIn (← read).spaces.types "type" r)))
  | (none, _) => pure none

/-- The value types and reference shorthands by keyword. -/
def valKeyword? : String → Option ValType
  | "i32" => some .i32
  | "i64" => some .i64
  | "f32" => some .f32
  | "f64" => some .f64
  | "v128" => some .v128
  | "funcref" => some (.ref true .func)
  | "externref" => some (.ref true .external)
  | "anyref" => some (.ref true .any)
  | "eqref" => some (.ref true .eq)
  | "i31ref" => some (.ref true .i31)
  | "structref" => some (.ref true .struct)
  | "arrayref" => some (.ref true .array)
  | "nullref" => some (.ref true .none)
  | "nullfuncref" => some (.ref true .noFunc)
  | "nullexternref" => some (.ref true .noExtern)
  | "exnref" => some (.ref true .exn)
  | "nullexnref" => some (.ref true .noExn)
  | _ => none

/-- The reference shorthands of continuations by keyword, standing in for those of functions. -/
def continuationKeyword? : String → Option ValType
  | "contref" => some (.ref true .func)
  | "nullcontref" => some (.ref true .noFunc)
  | _ => none

/-- Reads a value type, if the item is one: a keyword, `(ref null? heaptype)`, or a shared
reference shorthand such as `(shared anyref)`. -/
def valType? : Sexp → ReadM (Option ValType)
  | .atom a => do
    match valKeyword? a, continuationKeyword? a with
    | some t, _ => pure (some t)
    | none, some t => do
      useProposal .stackSwitching
      pure (some t)
    | none, none => pure none
  | .list [.atom "shared", .atom a] => do
    match valKeyword? a, continuationKeyword? a with
    | some (.ref n h), _ | none, some (.ref n h) => do
      useProposal .sharedEverything
      pure (some (.ref n h))
    | _, _ => throw "expected a reference type"
  | .list [.atom "ref", h] => do
    match ← heapType? h with
    | some ht => pure (some (.ref false ht))
    | none => throw "expected a heap type"
  | .list [.atom "ref", .atom "null", h] => do
    match ← heapType? h with
    | some ht => pure (some (.ref true ht))
    | none => throw "expected a heap type"
  | .list (.atom "ref" :: _) => throw "malformed reference type"
  | _ => pure none

/-- Reads a value type, which must be there. -/
def valType (s : Sexp) : ReadM ValType := do
  match ← valType? s with
  | some t => pure t
  | none => throw "expected a value type"

/-- Reads a reference type, which must be there. -/
def refType (s : Sexp) : ReadM ValType := do
  match ← valType? s with
  | some (.ref n h) => pure (.ref n h)
  | _ => throw "expected a reference type"

/-- Reads value types to the end of a list. -/
def valTypes (items : List Sexp) : ReadM (List ValType) :=
  items.mapM valType

/-- Reads a value type, together with its written form. -/
def writtenType (s : Sexp) : ReadM (ValType × WrittenType) := do
  let t ← valType s
  let target ← match s with
    | .list [.atom "ref", h] | .list [.atom "ref", .atom "null", h] => do pure (← takeRef? [h]).1
    | _ => pure none
  match t, target with
  | .ref n (.concrete _), some r => pure (t, .ref n r)
  | _, _ => pure (t, .val t)

/-- Reads value types to the end of a list, together with their written forms. -/
def writtenTypes (items : List Sexp) : ReadM (List ValType × List WrittenType) := do
  let ts ← items.mapM writtenType
  pure (ts.map (·.1), ts.map (·.2))

/-- A function type written in place, with the identifiers of its parameters and its written
form. -/
structure InlineType where
  names : List (Option String) := []
  type : FuncType := {}
  key : FuncKey := {}
  deriving Inhabited

/-- Reads the `(param ...)` and `(result ...)` lists at the front: parameters first, each list
of parameters either one named type or any number of unnamed ones. `named` allows identifiers.
Gives nothing if no such list is there. -/
def takeInline (named : Bool) : List Sexp → InlineType → Bool → ReadM (Option InlineType × List Sexp)
  | .list (.atom "param" :: ps) :: rest, acc, _ => do
    if !acc.type.results.isEmpty then throw "cannot list params after results"
    let (id, name, ps) ← takeIdName ps
    let (names, types, written) ← match id, name with
      | none, none => do
        let (ts, ws) ← writtenTypes ps
        pure (ts.map fun _ => none, ts, ws)
      | _, _ =>
        if !named && id.isSome then throw "unexpected identifier in a type"
        match ps with
        | [t] =>
          let (vt, w) ← writtenType t
          pure ([id], [vt], [w])
        | _ => throw "expected one type after a parameter identifier"
    takeInline named rest
      ⟨acc.names ++ names, { acc.type with params := acc.type.params ++ types },
        { acc.key with params := acc.key.params ++ written }⟩ true
  | .list (.atom "result" :: rs) :: rest, acc, _ => do
    let (ts, ws) ← writtenTypes rs
    takeInline named rest
      { acc with type := { acc.type with results := acc.type.results ++ ts },
                 key := { acc.key with results := acc.key.results ++ ws } } true
  | rest, acc, seen => pure (if seen then some acc else none, rest)

/-- A use of a type: a reference, a type written in place, or both. -/
structure TypeUse where
  index : Option Nat := none
  inline : Option InlineType := none
  deriving Inhabited

/-- Reads a type use at the front: `(type x)` and then the type in place. -/
def takeTypeUse (named : Bool) (items : List Sexp) : ReadM (TypeUse × List Sexp) := do
  let (index, items) ← match items with
    | .list (.atom "type" :: inner) :: rest => do
      let (i, after) ← takeIndex (·.types) "type" inner
      if !after.isEmpty then throw "unexpected item in a type reference"
      pure (some i, rest)
    | _ => pure (none, items)
  let (inline, items) ← takeInline named items {} false
  pure (⟨index, inline⟩, items)

/-- The function type at a type index: a defined type or an added one. Added types are all known
once a first reading has found them; before that, those added so far. -/
def typeAt? (i : Nat) : ReadM (Option FuncType) := do
  let sc ← read
  if i < sc.defined.length then pure (sc.defined[i]?.join)
  else
    let added := sc.ahead.getD ((← get).added.map (·.1))
    pure added[i - sc.defined.length]?

/-- Whether a type index may stand for a type that reading has not added yet: beyond the defined
types, in a first reading. -/
def typeAhead (i : Nat) : ReadM Bool := do
  let sc ← read
  pure (sc.ahead.isNone && i ≥ sc.defined.length + (← get).added.length)

/-- The type index a function type written in place stands for: the first type written the same
way that is defined outside a recursion group, else the first added one written the same way,
else a new type added now. -/
def typeIndexOf (ft : FuncType) (key : FuncKey) : ReadM Nat := do
  let defined := (← read).defined
  match List.idxOf? (some key) (← read).matchable with
  | some i => pure i
  | none =>
    let added := (← get).added
    match List.idxOf? key (added.map (·.2)) with
    | some j => pure (defined.length + j)
    | none => do
      modify fun s => { s with added := s.added ++ [(ft, key)] }
      pure (defined.length + added.length)

/-- The type index a type use stands for. A reference with a type in place must be to a function
type, and the two must agree. -/
def TypeUse.resolve (u : TypeUse) : ReadM Nat := do
  match u.index, u.inline with
  | some i, some t => do
    match ← typeAt? i with
    | some ft => if ft != t.type then throw "inline function type doesn't match type reference"
    | none => if !(← typeAhead i) then throw "type reference is not to a function type"
    pure i
  | some i, none => pure i
  | none, some t => typeIndexOf t.type t.key
  | none, none => typeIndexOf {} {}

/-- The block type a type use stands for: no type, or a single result, stays in place; any
other type is a type index. -/
def TypeUse.blockType (u : TypeUse) : ReadM BlockType := do
  match u.index, u.inline with
  | none, none => pure .empty
  | none, some { type := { params := [], results := [] }, .. } => pure .empty
  | none, some { type := { params := [], results := [t] }, .. } => pure (.value t)
  | _, _ => pure (.index (← u.resolve))

/-- The identifiers of a function's parameters, which number its first locals: those written in
place, or none for each parameter of the referenced type. -/
def TypeUse.paramNames (u : TypeUse) (index : Nat) : ReadM Space := do
  match u.inline with
  | some t => pure t.names
  | none =>
    match ← typeAt? index with
    | some ft => pure (ft.params.map fun _ => none)
    | none => pure []

/-- Adds an instruction to the code read so far. -/
def emit (i : Instr) : ReadM Unit :=
  modify fun s => { s with code := i :: s.code }

/-- Opens a block with its label. -/
def emitOpen (label : Option String) (i : Instr) : ReadM Unit :=
  modify fun s => { s with code := i :: s.code, labels := label :: s.labels }

/-- Closes the innermost block, or switches an `if` to its second arm. A label written after
`end` or `else` must be the block's own. -/
def emitEnd (isElse : Bool) (label : Option String) : ReadM Unit := do
  let labels := (← get).labels
  match label with
  | some l =>
    match labels with
    | some m :: _ => if l != m then throw "mismatching labels between end and block"
    | _ => throw "mismatching labels between end and block"
  | none => pure ()
  if isElse then emit .otherwise
  else modify fun s => { s with code := .close :: s.code, labels := s.labels.drop 1 }

/-- The depth a label reference stands for. -/
def labelDepth : Ref → ReadM Nat
  | .num n => pure n
  | .name s => do
    match List.idxOf? (some s) (← get).labels with
    | some d => pure d
    | none => throw s!"unknown label: failed to find name"

end WasmBoogie.Wasm.Text
