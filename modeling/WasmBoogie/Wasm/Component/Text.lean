import WasmBoogie.Wasm.Component.Syntax
import WasmBoogie.Wasm.Text.Module

namespace WasmBoogie.Wasm.Component

open Wasm.Text

/-- The identifiers of one scope, and what it holds so far: a component's items, or the
declarations of a component or instance type. -/
structure Frame where
  /-- The component's own identifier, by which an outer alias may name it. -/
  id : Option String := none
  /-- Whether the scope is the declarations of a type. -/
  declares : Bool := false
  coreFuncs : Space := []
  coreTables : Space := []
  coreMemories : Space := []
  coreGlobals : Space := []
  coreTags : Space := []
  coreTypes : Space := []
  coreModules : Space := []
  coreInstances : Space := []
  funcs : Space := []
  values : Space := []
  types : Space := []
  components : Space := []
  instances : Space := []
  items : Array Item := #[]
  decls : Array Decl := #[]

instance : Inhabited Frame := ⟨{}⟩

/-- The identifiers of one index space of a scope. -/
def Frame.space (f : Frame) : ItemSort → Space
  | .coreFunc => f.coreFuncs
  | .coreTable => f.coreTables
  | .coreMemory => f.coreMemories
  | .coreGlobal => f.coreGlobals
  | .coreTag => f.coreTags
  | .coreType => f.coreTypes
  | .coreModule => f.coreModules
  | .coreInstance => f.coreInstances
  | .func => f.funcs
  | .value => f.values
  | .type => f.types
  | .component => f.components
  | .componentInstance => f.instances

/-- A scope with one index space replaced. -/
def Frame.withSpace (f : Frame) (sp : Space) : ItemSort → Frame
  | .coreFunc => { f with coreFuncs := sp }
  | .coreTable => { f with coreTables := sp }
  | .coreMemory => { f with coreMemories := sp }
  | .coreGlobal => { f with coreGlobals := sp }
  | .coreTag => { f with coreTags := sp }
  | .coreType => { f with coreTypes := sp }
  | .coreModule => { f with coreModules := sp }
  | .coreInstance => { f with coreInstances := sp }
  | .func => { f with funcs := sp }
  | .value => { f with values := sp }
  | .type => { f with types := sp }
  | .component => { f with components := sp }
  | .componentInstance => { f with instances := sp }

/-- Reading component text: the open scopes, innermost first, and failure with a message. -/
abbrev ReadC := StateT (List Frame) (Except String)

/-- Lifts a result into reading. -/
def liftC {α : Type} (r : Except String α) : ReadC α :=
  match r with
  | .ok a => pure a
  | .error e => throw e

/-- Runs a reader of core text against a scope of its own. -/
def runCore {α : Type} (x : ReadM α) (scope : Text.Scope) : ReadC α :=
  liftC ((x.run scope).run' {})

/-- The innermost scope. -/
def currentFrame : ReadC Frame := do
  match ← get with
  | f :: _ => pure f
  | [] => throw "no open scope"

/-- Changes the innermost scope. -/
def modifyFrame (g : Frame → Frame) : ReadC Unit :=
  modify fun
    | f :: rest => g f :: rest
    | [] => []

/-- Gives the next index of a sort in the innermost scope, under an identifier if one is given;
an identifier already declared there is an error. -/
def register (s : ItemSort) (id : Option String) : ReadC Nat := do
  let sp := (← currentFrame).space s
  if let some x := id then
    if sp.contains (some x) then throw "duplicate identifier"
  modifyFrame (·.withSpace (sp ++ [id]) s)
  pure sp.length

/-- Adds an item to the innermost scope, which must be a component. -/
def emitItem (i : Item) : ReadC Unit := do
  if (← currentFrame).declares then throw "item not allowed in a type"
  modifyFrame fun f => { f with items := f.items.push i }

/-- Adds a declaration to the innermost scope, which must be a type's declarations. -/
def emitDecl (d : Decl) : ReadC Unit := do
  if !(← currentFrame).declares then throw "declaration outside a type"
  modifyFrame fun f => { f with decls := f.decls.push d }

/-- Adds an alias to the innermost scope, as an item or a declaration. -/
def emitAlias (a : Alias) : ReadC Unit := do
  if (← currentFrame).declares then emitDecl (.aliased a) else emitItem (.aliased a)

/-- Adds a type definition to the innermost scope, as an item or a declaration. -/
def emitType (t : TypeDef) : ReadC Unit := do
  if (← currentFrame).declares then emitDecl (.type t) else emitItem (.type t)

/-- Adds a core type definition to the innermost scope, as an item or a declaration. -/
def emitCoreType (t : CoreTypeDef) : ReadC Unit := do
  if (← currentFrame).declares then emitDecl (.coreType t) else emitItem (.coreType t)

/-- Whether an enclosing scope's items of a sort may be reached by an outer alias. -/
def ItemSort.isOuter : ItemSort → Bool
  | .coreModule | .coreType | .type | .component => true
  | _ => false

/-- The first scope, counted outward from `depth`, that declares an identifier in a sort, with
the index there. -/
def findOuter (s : ItemSort) (x : String) : List Frame → Nat → Option (Nat × Nat)
  | [], _ => none
  | f :: rest, depth =>
    match (f.space s).find? x with
    | some i => some (depth, i)
    | none => findOuter s x rest (depth + 1)

/-- The index a reference stands for in the innermost scope. An identifier that only an
enclosing scope declares adds an outer alias of it here, under the same identifier. -/
def resolve (s : ItemSort) : Ref → ReadC Nat
  | .num n => pure n
  | .name x => do
    match findOuter s x (← get) 0 with
    | some (0, i) => pure i
    | some (depth, i) =>
      if !s.isOuter then throw "outer item is not a module, type, or component"
      emitAlias (.outer s depth i)
      register s (some x)
    | none => throw "unknown identifier"

/-- The text of a string item. -/
def textOf (s : Sexp) : ReadC String := do
  match ← liftC s.text? with
  | some t => pure t
  | none => throw "expected a string"

/-- The reference an item is: an identifier or an index. -/
def refOf (s : Sexp) : ReadC Ref := do
  match ← liftC s.identifier? with
  | some n => pure (.name n)
  | none =>
    match ← liftC s.u32? with
    | some v => pure (.num v)
    | none => throw "expected an index"

/-- Whether an item is written as a reference. -/
def isRefItem (s : Sexp) : Bool :=
  match s.identifier?, s.u32? with
  | .ok (some _), _ => true
  | _, .ok (some _) => true
  | _, _ => false

/-- Takes an identifier off the front, if one is there. -/
def takeIdC : List Sexp → ReadC (Option String × List Sexp)
  | s :: rest => do
    match ← liftC s.identifier? with
    | some n => pure (some n, rest)
    | none => pure (none, s :: rest)
  | [] => pure (none, [])

/-- Takes an identifier and then a name annotation off the front, each if it is there. -/
def takeIdNameC (items : List Sexp) : ReadC (Option String × List Sexp) := do
  let (id, items) ← takeIdC items
  match items with
  | s :: rest =>
    match ← liftC s.nameAnnotation? with
    | some _ => pure (id, rest)
    | none => pure (id, s :: rest)
  | [] => pure (id, [])

/-- The name of an import or export: a string, or `(interface "...")`. -/
def externNameOf : Sexp → ReadC String
  | .list [.atom "interface", s] => textOf s
  | s => textOf s

/-- Whether an item is an inline export, `(export "name")`. -/
def isInlineExport : Sexp → Bool
  | .list [.atom "export", .str _] => true
  | .list [.atom "export", .list [.atom "interface", .str _]] => true
  | _ => false

/-- Takes the inline exports at the front and gives their names. -/
def takeInlineExports : List Sexp → ReadC (List String × List Sexp)
  | s :: rest => do
    if isInlineExport s then
      match s with
      | .list [_, n] =>
        let name ← externNameOf n
        let (more, rest) ← takeInlineExports rest
        pure (name :: more, rest)
      | _ => pure ([], s :: rest)
    else pure ([], s :: rest)
  | [] => pure ([], [])

/-- Adds an export of an item for each of its inline export names; each export is an item of
the sort too. -/
def exportInPlace (s : ItemSort) (index : Nat) (names : List String) : ReadC Unit :=
  names.forM fun n => do
    emitItem (.export n s index none)
    let _ ← register s none

/-- The sort that the keywords at the front name, and the items after them. -/
def takeSortKeywords : List Sexp → Option (ItemSort × List Sexp)
  | .atom "core" :: .atom "module" :: rest => some (.coreModule, rest)
  | .atom "core" :: .atom "func" :: rest => some (.coreFunc, rest)
  | .atom "core" :: .atom "table" :: rest => some (.coreTable, rest)
  | .atom "core" :: .atom "memory" :: rest => some (.coreMemory, rest)
  | .atom "core" :: .atom "global" :: rest => some (.coreGlobal, rest)
  | .atom "core" :: .atom "tag" :: rest => some (.coreTag, rest)
  | .atom "core" :: .atom "type" :: rest => some (.coreType, rest)
  | .atom "core" :: .atom "instance" :: rest => some (.coreInstance, rest)
  | .atom "func" :: rest => some (.func, rest)
  | .atom "value" :: rest => some (.value, rest)
  | .atom "type" :: rest => some (.type, rest)
  | .atom "component" :: rest => some (.component, rest)
  | .atom "instance" :: rest => some (.componentInstance, rest)
  | _ => none

/-- The sort a core item keyword names. -/
def coreSortOf? : String → Option ItemSort
  | "func" => some .coreFunc
  | "table" => some .coreTable
  | "memory" => some .coreMemory
  | "global" => some .coreGlobal
  | "tag" => some .coreTag
  | _ => none

/-- The sorts an export of a component or an instantiation argument may have. -/
def ItemSort.isExportable : ItemSort → Bool
  | .coreModule | .func | .value | .type | .component | .componentInstance => true
  | _ => false

/-- The index a component item reference `x "name"*` stands for. With names, `x` is an
instance, and each name reaches into the export before it through an added alias; the last
alias is of the given sort. -/
def itemRef (s : ItemSort) : List Sexp → ReadC Nat
  | r :: names => do
    if names.isEmpty then return ← resolve s (← refOf r)
    let texts ← names.mapM textOf
    let inst ← resolve .componentInstance (← refOf r)
    texts.zipIdx.foldlM (fun i (n, k) => do
      let sort := if k + 1 == texts.length then s else .componentInstance
      emitAlias (.export sort i n)
      register sort none) inst
  | [] => throw "expected an index"

/-- The index a core item reference `x "name"?` stands for. With a name, `x` is a core instance
and an alias of its export of that name is added. -/
def coreItemRef (s : ItemSort) : List Sexp → ReadC Nat
  | [r] => do resolve s (← refOf r)
  | [r, n] => do
    let name ← textOf n
    let inst ← resolve .coreInstance (← refOf r)
    emitAlias (.coreExport s inst name)
    register s none
  | _ => throw "expected an index"

/-- The sort and index of a reference to a component item, `(sort x "name"*)`. -/
def sortRef (items : List Sexp) : ReadC (ItemSort × Nat) := do
  match takeSortKeywords items with
  | some (s, rest) =>
    if !s.isExportable then throw "unexpected sort"
    pure (s, ← itemRef s rest)
  | none => throw "expected a sort"

/-- Reads a canonical option. -/
def canonOpt? : Sexp → ReadC (Option CanonOpt)
  | .atom "string-encoding=utf8" => pure (some .utf8)
  | .atom "string-encoding=utf16" => pure (some .utf16)
  | .atom "string-encoding=latin1+utf16" => pure (some .compactUtf16)
  | .atom "async" => pure (some .async)
  | .list (.atom "memory" :: r) => do pure (some (.memory (← coreItemRef .coreMemory r)))
  | .list (.atom "realloc" :: r) => do pure (some (.realloc (← coreItemRef .coreFunc r)))
  | .list (.atom "post-return" :: r) => do pure (some (.postReturn (← coreItemRef .coreFunc r)))
  | .list (.atom "callback" :: r) => do pure (some (.callback (← coreItemRef .coreFunc r)))
  | _ => pure none

/-- Reads canonical options, all of the items. -/
def canonOpts (items : List Sexp) : ReadC (List CanonOpt) :=
  items.mapM fun s => do
    match ← canonOpt? s with
    | some o => pure o
    | none => throw "expected a canonical option"

/-- Reads what follows `canon lift`: the core function, then options. -/
def canonLift : List Sexp → ReadC (Nat × List CanonOpt)
  | .list (.atom "core" :: .atom "func" :: r) :: opts => do
    let f ← coreItemRef .coreFunc r
    pure (f, ← canonOpts opts)
  | _ => throw "expected a core function"

/-- Whether a canonical built-in belongs to a proposal that validation does not enable. -/
def isProposedBuiltin (kw : String) : Bool :=
  ["task.", "subtask.", "stream.", "future.", "error-context.", "thread.", "waitable",
    "context.", "backpressure.", "yield"].any fun p => kw.startsWith p

/-- Reads a canonical function that gives a core function: `lower`, or a built-in. -/
def coreCanon : List Sexp → ReadC Canon
  | .atom "lower" :: .list (.atom "func" :: r) :: opts => do
    let f ← itemRef .func r
    pure (.lower f (← canonOpts opts))
  | [.atom "resource.new", r] => do pure (.resourceNew (← resolve .type (← refOf r)))
  | [.atom "resource.drop", r] => do pure (.resourceDrop (← resolve .type (← refOf r)))
  | [.atom "resource.drop", r, .atom "async"] => do
    let _ ← resolve .type (← refOf r)
    pure .unsupported
  | [.atom "resource.rep", r] => do pure (.resourceRep (← resolve .type (← refOf r)))
  | .atom kw :: _ =>
    if isProposedBuiltin kw then pure .unsupported else throw "unknown canonical function"
  | _ => throw "expected a canonical function"

/-- The keywords of the primitive value types. -/
def primOf? : String → Option Prim
  | "bool" => some .bool
  | "s8" => some .s8
  | "u8" => some .u8
  | "s16" => some .s16
  | "u16" => some .u16
  | "s32" => some .s32
  | "u32" => some .u32
  | "s64" => some .s64
  | "u64" => some .u64
  | "f32" | "float32" => some .f32
  | "f64" | "float64" => some .f64
  | "char" => some .char
  | "string" => some .string
  | "error-context" => some .errorContext
  | _ => none

/-- Reads a core type definition against the core types of the innermost scope. -/
def coreSubType (d : Sexp) : ReadC SubType := do
  let types := (← currentFrame).coreTypes
  runCore (subType d) { spaces := { types } }

/-- Reads the types of a core recursion group, each `(type $id? def)`, with their
identifiers. -/
def coreRecTypes (items : List Sexp) : ReadC (List SubType × List (Option String)) := do
  let read ← items.mapM fun
    | .list (.atom "type" :: titems) => do
      let (id, titems) ← takeIdNameC titems
      match titems with
      | [d] => pure (← coreSubType d, id)
      | _ => throw "expected a type definition"
    | _ => throw "expected a type in a recursion group"
  let n := read.length
  let group := read.zipIdx.map fun ((st, _), i) =>
    { st with groupSize := if i == 0 then n else 0 }
  pure (group, read.map (·.2))

/-- What reading a core module type keeps: the identifiers of its types, the function types
that a type written in place may stand for, and its declarations. -/
structure ModuleTypeState where
  types : Space := []
  funcTypes : List (FuncType × Nat) := []
  decls : Array ModuleDecl := #[]

/-- Adds a group of types to a core module type being read. -/
def ModuleTypeState.addTypes (st : ModuleTypeState) (group : List SubType)
    (ids : List (Option String)) : ReadC ModuleTypeState := do
  let mut types := st.types
  let mut funcTypes := st.funcTypes
  for (t, id) in group.zip ids do
    if let some x := id then
      if types.contains (some x) then throw "duplicate identifier"
    if let .func ft := t.comp then
      funcTypes := funcTypes ++ [(ft, types.length)]
    types := types ++ [id]
  pure { st with types, funcTypes, decls := st.decls.push (.types group) }

/-- Reads a core item of an import or export of a core module type. A function type written in
place stands for the first function type declared so far that equals it, or else for a type
declared just before. -/
def ModuleTypeState.itemSig (st : ModuleTypeState) (d : Sexp) :
    ReadC (ImportDesc × ModuleTypeState) := do
  let scope : Text.Scope := { spaces := { types := st.types } }
  let (kw, items) ← liftC (fieldParts d)
  let items := match items with
    | s :: rest => match s.identifier? with
      | .ok (some _) => rest
      | _ => s :: rest
    | [] => []
  let typeOf (items : List Sexp) (st : ModuleTypeState) : ReadC (Nat × ModuleTypeState) := do
    let (u, rest) ← runCore (takeTypeUse true items) scope
    if !rest.isEmpty then throw "unexpected item in a type use"
    match u.index with
    | some i => pure (i, st)
    | none =>
      let ft := (u.inline.map (·.type)).getD {}
      match st.funcTypes.find? (·.1 == ft) with
      | some (_, i) => pure (i, st)
      | none =>
        let i := st.types.length
        pure (i, { st with types := st.types ++ [none], funcTypes := st.funcTypes ++ [(ft, i)],
                           decls := st.decls.push (.types [{ comp := .func ft }]) })
  match kw with
  | "func" => do
    let (i, st) ← typeOf items st
    pure (.func i, st)
  | "tag" => do
    let (i, st) ← typeOf items st
    pure (.tag i, st)
  | "table" => do
    let (t, rest) ← runCore (takeTableType items) scope
    if !rest.isEmpty then throw "unexpected item in a table type"
    pure (.table t, st)
  | "memory" => do
    let (t, rest) ← runCore (takeMemType items) scope
    if !rest.isEmpty then throw "unexpected item in a memory type"
    pure (.memory t, st)
  | "global" => do
    let (t, rest) ← runCore (takeGlobalType items) scope
    if !rest.isEmpty then throw "unexpected item in a global type"
    pure (.global t, st)
  | _ => throw "expected a core item"

/-- The depth and index of an outer alias in a core module type, `(alias outer c x (type))`:
count 1 is the innermost component. -/
def moduleOuterAlias (o x : Sexp) : ReadC (Nat × Nat) := do
  match ← refOf o, ← refOf x with
  | .num c, .num i => pure (c, i)
  | o, x =>
    let frames ← get
    let depth ← match o with
      | .num c => pure c
      | .name n =>
        match frames.findIdx? (·.id == some n) with
        | some d => pure (d + 1)
        | none => throw "outer component not found"
    if depth == 0 then pure (0, ← resolveIn' [] x)
    else
      match frames[depth - 1]? with
      | some f => pure (depth, ← resolveIn' f.coreTypes x)
      | none => throw "outer count too large"
where
  resolveIn' (sp : Space) : Ref → ReadC Nat
    | .num i => pure i
    | .name n =>
      match sp.find? n with
      | some i => pure i
      | none => throw "unknown identifier"

/-- Reads the declarations of a core module type. -/
def moduleDecls (items : List Sexp) : ReadC (List ModuleDecl) := do
  let mut st : ModuleTypeState := {}
  for d in items do
    match d with
    | .list (.atom "type" :: titems) =>
      let (id, titems) ← takeIdNameC titems
      match titems with
      | [def_] =>
        let t ← runCore (subType def_) { spaces := { types := st.types } }
        st ← st.addTypes [t] [id]
      | _ => throw "expected a type definition"
    | .list (.atom "rec" :: ritems) =>
      let mut group : List SubType := []
      let mut ids : List (Option String) := []
      for t in ritems do
        match t with
        | .list (.atom "type" :: titems) =>
          let (id, titems) ← takeIdNameC titems
          match titems with
          | [def_] =>
            group := group ++ [← runCore (subType def_) { spaces := { types := st.types } }]
            ids := ids ++ [id]
          | _ => throw "expected a type definition"
        | _ => throw "expected a type in a recursion group"
      let n := group.length
      st ← st.addTypes (group.zipIdx.map fun (g, i) =>
        { g with groupSize := if i == 0 then n else 0 }) ids
    | .list [.atom "import", mn, fn, sig] =>
      let module ← textOf mn
      let field ← textOf fn
      let (desc, st') ← st.itemSig sig
      st := { st' with decls := st'.decls.push (.import ⟨module, field, desc⟩) }
    | .list [.atom "export", n, sig] =>
      let name ← textOf n
      let (desc, st') ← st.itemSig sig
      st := { st' with decls := st'.decls.push (.export name desc) }
    | .list [.atom "alias", .atom "outer", o, x, .list (.atom "type" :: target)] =>
      let (id, rest) ← takeIdNameC target
      if !rest.isEmpty then throw "unexpected item in an alias"
      let (count, index) ← moduleOuterAlias o x
      if let some n := id then
        if st.types.contains (some n) then throw "duplicate identifier"
      st := { st with types := st.types ++ [id], decls := st.decls.push (.outerType count index) }
    | _ => throw "expected a module type declaration"
  pure st.decls.toList

/-- The core type a core module type use stands for: `(type x)`, or the declarations of a
module type written in place, which become a core type just before. -/
def coreModuleTypeUse : List Sexp → ReadC Nat
  | [.list [.atom "type", r]] => do resolve .coreType (← refOf r)
  | decls => do
    let ds ← moduleDecls decls
    emitCoreType (.module ds)
    register .coreType none

/-- The nesting depth of a text item. -/
def sexpDepth : Sexp → Nat
  | .list items => depthOfAll items + 1
  | _ => 0
where
  depthOfAll : List Sexp → Nat
    | [] => 0
    | s :: rest => max (sexpDepth s) (depthOfAll rest)

/-- Reads a core module: imported, or given by its fields. -/
def coreModuleField (items : List Sexp) : ReadC Unit := do
  let (id, items) ← takeIdNameC items
  let (exports, items) ← takeInlineExports items
  match items with
  | .list [.atom "import", n] :: rest => do
    let name ← externNameOf n
    let t ← coreModuleTypeUse rest
    emitItem (.import name (.module t))
  | fields => do
    let m ← liftC (readModule fields)
    emitItem (.module (.ok m))
  let i ← register .coreModule id
  exportInPlace .coreModule i exports

/-- Reads a core instance: an instantiated module, or a bundle of core exports. -/
def coreInstanceField (items : List Sexp) : ReadC Unit := do
  let (id, items) ← takeIdNameC items
  let coreBundle (es : List Sexp) : ReadC (List (String × ItemSort × Nat)) :=
    es.mapM fun
      | .list [.atom "export", n, .list (.atom kw :: r)] => do
        let name ← textOf n
        match coreSortOf? kw with
        | some s => pure (name, s, ← coreItemRef s r)
        | none => throw "expected a core item"
      | _ => throw "expected a core export"
  match items with
  | [.list (.atom "instantiate" :: m :: args)] => do
    let mi ← resolve .coreModule (← refOf m)
    let args ← args.mapM fun
      | .list [.atom "with", n, .list (.atom "instance" :: inner)] => do
        let name ← textOf n
        match inner with
        | [r] =>
          if isRefItem r then pure (name, ← resolve .coreInstance (← refOf r))
          else do
            emitItem (.coreInstance (.exports (← coreBundle inner)))
            pure (name, ← register .coreInstance none)
        | _ => do
          emitItem (.coreInstance (.exports (← coreBundle inner)))
          pure (name, ← register .coreInstance none)
      | _ => throw "expected an instantiation argument"
    emitItem (.coreInstance (.instantiate mi args))
  | es => do emitItem (.coreInstance (.exports (← coreBundle es)))
  let _ ← register .coreInstance id

/-- Reads a core type: a module type, or a core type definition. -/
def coreTypeField (items : List Sexp) : ReadC Unit := do
  let (id, items) ← takeIdNameC items
  match items with
  | [.list (.atom "module" :: ds)] => do
    emitCoreType (.module (← moduleDecls ds))
  | [d] => do emitCoreType (.group [← coreSubType d])
  | _ => throw "expected a core type definition"
  let _ ← register .coreType id

/-- Reads a core function: an alias of a core export, or a canonical function. -/
def coreFuncField (items : List Sexp) : ReadC Unit := do
  let (id, items) ← takeIdNameC items
  match items with
  | [.list [.atom "alias", .atom "core", .atom "export", inst, n]] => do
    let i ← resolve .coreInstance (← refOf inst)
    emitAlias (.coreExport .coreFunc i (← textOf n))
  | [.list (.atom "canon" :: c)] => do emitItem (.canon (← coreCanon c))
  | _ => throw "expected a core function definition"
  let _ ← register .coreFunc id

/-- The count and index of an outer alias. An identifier for the component counts the scopes
out to it; an identifier for the item is looked up there. -/
def outerIndices (s : ItemSort) : Ref → Ref → ReadC (Nat × Nat)
  | .num c, .num i => pure (c, i)
  | o, x => do
    let frames ← get
    let depth ← match o with
      | .num c => pure c
      | .name n =>
        match frames.findIdx? (·.id == some n) with
        | some d => pure d
        | none => throw "outer component not found"
    match frames[depth]? with
    | some f =>
      match x with
      | .num i => pure (depth, i)
      | .name n =>
        match (f.space s).find? n with
        | some i => pure (depth, i)
        | none => throw "unknown identifier"
    | none => throw "outer count too large"

/-- Reads an alias: of an instance's export, a core instance's export, or an enclosing
component's item. -/
def aliasField (items : List Sexp) : ReadC Unit := do
  match items with
  | [.atom "export", inst, n, .list target] => do
    let i ← resolve .componentInstance (← refOf inst)
    let name ← textOf n
    match takeSortKeywords target with
    | some (s, rest) => do
      if !s.isExportable then throw "unexpected sort in an alias"
      let (id, rest) ← takeIdNameC rest
      if !rest.isEmpty then throw "unexpected item in an alias"
      emitAlias (.export s i name)
      let _ ← register s id
    | none => throw "expected a sort"
  | [.atom "core", .atom "export", inst, n, .list (.atom "core" :: .atom kw :: rest)] => do
    let i ← resolve .coreInstance (← refOf inst)
    let name ← textOf n
    match coreSortOf? kw with
    | some s => do
      let (id, rest) ← takeIdNameC rest
      if !rest.isEmpty then throw "unexpected item in an alias"
      emitAlias (.coreExport s i name)
      let _ ← register s id
    | none => throw "expected a core sort"
  | [.atom "outer", o, x, .list target] => do
    match takeSortKeywords target with
    | some (s, rest) => do
      if !s.isOuter then throw "unexpected sort in an outer alias"
      let (id, rest) ← takeIdNameC rest
      if !rest.isEmpty then throw "unexpected item in an alias"
      let (count, index) ← outerIndices s (← refOf o) (← refOf x)
      emitAlias (.outer s count index)
      let _ ← register s id
    | none => throw "expected a sort"
  | _ => throw "expected an alias"

/-- Reads a start function: the function, its argument values and its results. -/
def startField (items : List Sexp) : ReadC Unit := do
  match items with
  | r :: rest => do
    let _ ← resolve .func (← refOf r)
    let args := rest.takeWhile fun
      | .list (.atom "value" :: _) => true
      | _ => false
    args.forM fun
      | .list (_ :: v) => do
        let _ ← itemRef .value v
      | _ => pure ()
    let results := rest.drop args.length
    let ids ← results.mapM fun
      | .list [.atom "result", .list (.atom "value" :: v)] => do
        let (id, v) ← takeIdNameC v
        if !v.isEmpty then throw "unexpected item in a start result"
        pure id
      | _ => throw "expected a start result"
    emitItem .start
    ids.forM fun id => do
      let _ ← register .value id
  | [] => throw "expected a start function"

/-- Reads a custom section: its name, an optional placement, and its bytes. -/
def customField (items : List Sexp) : ReadC Unit := do
  match items with
  | n :: rest => do
    let name ← textOf n
    let rest := match rest with
      | .list _ :: more => more
      | _ => rest
    emitItem (.custom name (← liftC (stringBytes rest)))
  | [] => throw "expected a custom section name"

mutual

/-- Reads a value type: a primitive, a reference to a type, or a compound type written in
place, which becomes a type definition just before. -/
def valType : Nat → Sexp → ReadC ValRef
  | 0, _ => throw "nested too deeply"
  | fuel + 1, s => do
    match s with
    | .atom a =>
      match primOf? a with
      | some p => pure (.prim p)
      | none => pure (.index (← resolve .type (← refOf s)))
    | .list (.atom kw :: items) => do
      let d ← readDefType fuel kw items
      emitType (.defined d)
      pure (.index (← register .type none))
    | _ => pure (.index (← resolve .type (← refOf s)))

/-- Reads an optional value type, the only item if there is one. -/
def optValType : Nat → List Sexp → ReadC (Option ValRef)
  | 0, _ => throw "nested too deeply"
  | _, [] => pure none
  | fuel + 1, [t] => some <$> valType fuel t
  | _, _ => throw "expected one value type"

/-- Reads the compound value type a keyword heads. -/
def readDefType : Nat → String → List Sexp → ReadC DefType
  | 0, _, _ => throw "nested too deeply"
  | fuel + 1, kw, items => do
    match kw, items with
    | "record", fields => do
      let fs ← fields.mapM fun
        | .list [.atom "field", n, t] => do
          let name ← textOf n
          pure (name, ← valType fuel t)
        | _ => throw "expected a record field"
      pure (.record fs)
    | "variant", cases => do
      let cs ← cases.mapM fun
        | .list (.atom "case" :: citems) => do
          let (_, citems) ← takeIdNameC citems
          match citems with
          | n :: t => do
            let name ← textOf n
            pure (name, ← optValType fuel t)
          | [] => throw "expected a case name"
        | _ => throw "expected a variant case"
      pure (.variant cs)
    | "list", [t] => do pure (.list (← valType fuel t))
    | "list", [t, n] => do
      let t ← valType fuel t
      match ← liftC n.u32? with
      | some len => pure (.fixedList t len)
      | none => throw "expected a list length"
    | "tuple", ts => do pure (.tuple (← ts.mapM (valType fuel)))
    | "flags", ns => do pure (.flags (← ns.mapM textOf))
    | "enum", ns => do pure (.enum (← ns.mapM textOf))
    | "option", [t] => do pure (.option (← valType fuel t))
    | "result", rest => do
      let (ok, rest) ← match rest with
        | .list (.atom "error" :: _) :: _ => pure (none, rest)
        | t :: rest => do pure (some (← valType fuel t), rest)
        | [] => pure (none, [])
      let err ← match rest with
        | [] => pure none
        | [.list [.atom "error", t]] => some <$> valType fuel t
        | _ => throw "expected an error type"
      pure (.result ok err)
    | "own", [r] => do pure (.own (← resolve .type (← refOf r)))
    | "borrow", [r] => do pure (.borrow (← resolve .type (← refOf r)))
    | "stream", t => do pure (.stream (← optValType fuel t))
    | "future", t => do pure (.future (← optValType fuel t))
    | _, _ => throw "expected a defined type"

/-- Reads a function type: named parameters, then at most one result. -/
def readFuncSig : Nat → List Sexp → ReadC FuncSig
  | 0, _ => throw "nested too deeply"
  | fuel + 1, items => do
    let params := items.takeWhile fun
      | .list (.atom "param" :: _) => true
      | _ => false
    let rest := items.drop params.length
    let ps ← params.mapM fun
      | .list [_, n, t] => do
        let name ← textOf n
        pure (name, ← valType fuel t)
      | _ => throw "expected a parameter name and type"
    let result ← match rest with
      | [] => pure none
      | [.list [.atom "result", t]] => some <$> valType fuel t
      | _ => throw "unexpected item in a function type"
    pure { params := ps, result }

/-- Reads a type definition: a primitive, a compound value type, a function, component,
instance or resource type. -/
def readTypeDef : Nat → Sexp → ReadC TypeDef
  | 0, _ => throw "nested too deeply"
  | fuel + 1, d => do
    match d with
    | .atom a =>
      match primOf? a with
      | some p => pure (.defined (.prim p))
      | none => throw "expected a type definition"
    | .list (.atom "func" :: items) => do pure (.func (← readFuncSig fuel items))
    | .list (.atom "component" :: items) => do pure (.componentType (← decls fuel false items))
    | .list (.atom "instance" :: items) => do pure (.instanceType (← decls fuel true items))
    | .list (.atom "resource" :: items) => do
      match items with
      | .list [.atom "rep", t] :: rest => do
        let rep ← runCore (Text.valType t) {}
        match rest with
        | [] => pure (.resource rep none)
        | [.list [.atom "dtor", .list (.atom "func" :: r)]] => do
          pure (.resource rep (some (← coreItemRef .coreFunc r)))
        | _ => throw "unexpected item in a resource type"
      | _ => throw "expected a resource representation"
    | .list (.atom kw :: items) => do pure (.defined (← readDefType fuel kw items))
    | _ => throw "expected a type definition"

/-- Reads the declarations of a component type, or of an instance type, which has no imports;
they are a scope of their own. -/
def decls : Nat → Bool → List Sexp → ReadC (List Decl)
  | 0, _, _ => throw "nested too deeply"
  | fuel + 1, isInstance, items => do
    modify fun frames => { declares := true } :: frames
    items.forM fun d => decl fuel isInstance d
    let f ← currentFrame
    modify List.tail
    pure f.decls.toList

/-- Reads one declaration of a component or instance type. -/
def decl : Nat → Bool → Sexp → ReadC Unit
  | 0, _, _ => throw "nested too deeply"
  | fuel + 1, isInstance, d => do
    match d with
    | .list (.atom "core" :: .atom "type" :: items) => coreTypeField items
    | .list (.atom "type" :: items) => do
      let (id, items) ← takeIdNameC items
      match items with
      | [def_] => do
        let t ← readTypeDef fuel def_
        emitType t
        let _ ← register .type id
      | _ => throw "expected a type definition"
    | .list (.atom "alias" :: items) => aliasField items
    | .list [.atom "import", n, sig] => do
      if isInstance then throw "imports are not allowed in an instance type"
      let name ← externNameOf n
      let (s, id, desc) ← itemSig fuel sig
      emitDecl (.import name desc)
      let _ ← register s id
    | .list [.atom "export", n, sig] => do
      let name ← externNameOf n
      let (s, id, desc) ← itemSig fuel sig
      emitDecl (.export name desc)
      let _ ← register s id
    | _ => throw "expected a type declaration"

/-- Reads what an import or export describes: its sort, identifier and description. -/
def itemSig : Nat → Sexp → ReadC (ItemSort × Option String × ExternDesc)
  | 0, _ => throw "nested too deeply"
  | fuel + 1, sig => do
    match sig with
    | .list items =>
      match takeSortKeywords items with
      | some (s, rest) => do
        let (id, rest) ← takeIdNameC rest
        match s with
        | .coreModule => do pure (s, id, .module (← coreModuleTypeUse rest))
        | .func => do pure (s, id, .func (← typeUse fuel .func rest))
        | .component => do pure (s, id, .componentType (← typeUse fuel .component rest))
        | .componentInstance => do
          pure (s, id, .instanceType (← typeUse fuel .componentInstance rest))
        | .value =>
          match rest with
          | [t] => do pure (s, id, .value (← valType fuel t))
          | _ => throw "expected a value type"
        | .type =>
          match rest with
          | [.list [.atom "eq", r]] => do pure (s, id, .typeEq (← resolve .type (← refOf r)))
          | [.list [.atom "sub", .atom "resource"]] => pure (s, id, .typeSubResource)
          | _ => throw "expected type bounds"
        | _ => throw "unexpected sort in an item description"
      | none => throw "expected an item description"
    | _ => throw "expected an item description"

/-- The type a type use stands for: `(type x)`, or a function, component or instance type
written in place, which becomes a type definition just before. -/
def typeUse : Nat → ItemSort → List Sexp → ReadC Nat
  | 0, _, _ => throw "nested too deeply"
  | fuel + 1, s, items => do
    match items with
    | [.list [.atom "type", r]] => resolve .type (← refOf r)
    | _ => do
      let t ← match s with
        | .func => do pure (TypeDef.func (← readFuncSig fuel items))
        | .component => do pure (.componentType (← decls fuel false items))
        | _ => do pure (.instanceType (← decls fuel true items))
      emitType t
      register .type none

/-- Reads a bundle of exports, `(export "name" (sort x))*`. -/
def bundle : Nat → List Sexp → ReadC (List (String × ItemSort × Nat))
  | 0, _ => throw "nested too deeply"
  | _ + 1, items =>
    items.mapM fun
      | .list (.atom "export" :: eitems) => do
        let (_, eitems) ← takeIdNameC eitems
        match eitems with
        | [n, .list r] => do
          let name ← externNameOf n
          let (s, i) ← sortRef r
          pure (name, s, i)
        | _ => throw "expected an export"
      | _ => throw "expected an export"

/-- Reads a component field. -/
def field : Nat → Sexp → ReadC Unit
  | 0, _ => throw "nested too deeply"
  | fuel + 1, f => do
    match f with
    | .list (.atom "core" :: .atom "module" :: items) => coreModuleField items
    | .list (.atom "core" :: .atom "instance" :: items) => coreInstanceField items
    | .list (.atom "core" :: .atom "type" :: items) => coreTypeField items
    | .list (.atom "core" :: .atom "rec" :: items) => do
      let (group, ids) ← coreRecTypes items
      emitItem (.coreType (.group group))
      ids.forM fun id => do
        let _ ← register .coreType id
    | .list (.atom "core" :: .atom "func" :: items) => coreFuncField items
    | .list (.atom "component" :: items) => componentField fuel items
    | .list (.atom "instance" :: items) => instanceField fuel items
    | .list (.atom "alias" :: items) => aliasField items
    | .list (.atom "type" :: items) => do
      let (id, items) ← takeIdNameC items
      let (exports, items) ← takeInlineExports items
      match items with
      | [def_] => do
        let t ← readTypeDef fuel def_
        emitType t
        let i ← register .type id
        exportInPlace .type i exports
      | _ => throw "expected a type definition"
    | .list [.atom "import", n, sig] => do
      let name ← externNameOf n
      let (s, id, desc) ← itemSig fuel sig
      emitItem (.import name desc)
      let _ ← register s id
    | .list (.atom "func" :: items) => funcField fuel items
    | .list (.atom "export" :: items) => exportField fuel items
    | .list (.atom "start" :: items) => startField items
    | .list (.atom "canon" :: items) => canonField fuel items
    | .list (.atom "@custom" :: items) => customField items
    | .list (.atom "@producers" :: items) => runCore (checkProducers items) {}
    | _ => throw "expected valid component field"

/-- Reads a nested component: imported, or given by its fields. -/
def componentField : Nat → List Sexp → ReadC Unit
  | 0, _ => throw "nested too deeply"
  | fuel + 1, items => do
    let (id, items) ← takeIdNameC items
    let (exports, items) ← takeInlineExports items
    match items with
    | .list [.atom "import", n] :: rest => do
      let name ← externNameOf n
      let t ← typeUse fuel .component rest
      emitItem (.import name (.componentType t))
    | fs => do
      modify fun frames => { id } :: frames
      fs.forM (field fuel)
      let inner ← currentFrame
      modify List.tail
      emitItem (.component (.mk inner.items.toList))
    let i ← register .component id
    exportInPlace .component i exports

/-- Reads a component instance: imported, instantiated, or a bundle of exports. -/
def instanceField : Nat → List Sexp → ReadC Unit
  | 0, _ => throw "nested too deeply"
  | fuel + 1, items => do
    let (id, items) ← takeIdNameC items
    let (exports, items) ← takeInlineExports items
    match items with
    | .list [.atom "import", n] :: rest => do
      let name ← externNameOf n
      let t ← typeUse fuel .componentInstance rest
      emitItem (.import name (.instanceType t))
    | [.list (.atom "instantiate" :: c :: args)] => do
      let ci ← resolve .component (← refOf c)
      let args ← args.mapM fun
        | .list [.atom "with", n, .list arg] => do
          let name ← textOf n
          match arg with
          | .atom "instance" :: inner =>
            if inner.head?.any isRefItem then
              pure (name, ItemSort.componentInstance, ← itemRef .componentInstance inner)
            else do
              let es ← bundle fuel inner
              emitItem (.componentInstance (.exports es))
              pure (name, .componentInstance, ← register .componentInstance none)
          | _ => do
            let (s, i) ← sortRef arg
            pure (name, s, i)
        | _ => throw "expected an instantiation argument"
      emitItem (.componentInstance (.instantiate ci args))
    | es => do emitItem (.componentInstance (.exports (← bundle fuel es)))
    let i ← register .componentInstance id
    exportInPlace .componentInstance i exports

/-- Reads a component function: imported, an alias, or a lifted core function. -/
def funcField : Nat → List Sexp → ReadC Unit
  | 0, _ => throw "nested too deeply"
  | fuel + 1, items => do
    let (id, items) ← takeIdNameC items
    let (exports, items) ← takeInlineExports items
    match items with
    | .list [.atom "import", n] :: rest => do
      let name ← externNameOf n
      let t ← typeUse fuel .func rest
      emitItem (.import name (.func t))
    | [.list [.atom "alias", .atom "export", inst, n]] => do
      let i ← resolve .componentInstance (← refOf inst)
      emitAlias (.export .func i (← textOf n))
    | _ =>
      match items.getLast? with
      | some (.list (.atom "canon" :: .atom "lift" :: lift)) => do
        let t ← typeUse fuel .func items.dropLast
        let (cf, opts) ← canonLift lift
        emitItem (.canon (.lift cf opts t))
      | _ => throw "expected a function definition"
    let i ← register .func id
    exportInPlace .func i exports

/-- Reads a component export: its name, the item, and optionally what it is exported as. -/
def exportField : Nat → List Sexp → ReadC Unit
  | 0, _ => throw "nested too deeply"
  | fuel + 1, items => do
    let (id, items) ← takeIdNameC items
    match items with
    | n :: .list r :: rest => do
      let name ← externNameOf n
      let (s, i) ← sortRef r
      let desc ← match rest with
        | [] => pure none
        | [sig] => do
          let (_, _, d) ← itemSig fuel sig
          pure (some d)
        | _ => throw "unexpected item in an export"
      emitItem (.export name s i desc)
      let _ ← register s id
    | _ => throw "expected an export name and item"

/-- Reads a `canon` field: a lifted function, or a core function from `lower` or a
built-in. -/
def canonField : Nat → List Sexp → ReadC Unit
  | 0, _ => throw "nested too deeply"
  | fuel + 1, items => do
    match items with
    | .atom "lift" :: rest =>
      match rest.getLast? with
      | some (.list (.atom "func" :: fitems)) => do
        let (id, fitems) ← takeIdNameC fitems
        let t ← typeUse fuel .func fitems
        let (cf, opts) ← canonLift rest.dropLast
        emitItem (.canon (.lift cf opts t))
        let _ ← register .func id
      | _ => throw "expected a function"
    | _ =>
      match items.getLast? with
      | some (.list (.atom "core" :: .atom "func" :: fitems)) => do
        let (id, fitems) ← takeIdNameC fitems
        if !fitems.isEmpty then throw "unexpected item in a core function"
        let c ← coreCanon items.dropLast
        emitItem (.canon c)
        let _ ← register .coreFunc id
      | _ => throw "expected a core function"

end

/-- Whether a field is a start function. -/
def isStartField : Sexp → Bool
  | .list (.atom "start" :: _) => true
  | _ => false

/-- Reads a component from its identifier and fields. A component has at most one start
function.

A component is `(component $id? (@name "...")? field*)`. Its fields are read in order, and an
identifier names an item from the field after the one that declares it: nothing may refer
forward. Each identifier is declared once in its index space.

Written in place, an item becomes an item of its own just before the field that holds it: a
compound value type or a function, component or instance type in a type use becomes a type
definition, a bundle of exports given as an instantiation argument becomes an instance, and
`(func $i "name")` becomes an alias of the export `name` of instance `$i`. An inline export
`(export "name")` becomes an export of the item right after it, and an inline import makes the
item an import.

An identifier that the current component does not declare but an enclosing one does stands for
an outer alias that is added just before the field: this is allowed for modules, types and
components only. Nested components, and the declarations of component and instance types, are
scopes of their own. -/
def readComponent (id : Option String) (fields : List Sexp) : Except String Component := do
  if (fields.filter isStartField).length > 1 then throw "multiple start sections found"
  let fuel := 4 * (sexpDepth (.list fields) + 1)
  let read : ReadC Component := do
    fields.forM (field fuel)
    pure (.mk (← currentFrame).items.toList)
  read.run' [{ id }]

end WasmBoogie.Wasm.Component
