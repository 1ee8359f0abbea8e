import WasmBoogie.Wasm.Text.Instr

namespace WasmBoogie.Wasm.Text

/-- The form a module text takes. -/
inductive ModuleText where
  /-- Fields to read. -/
  | fields (fs : List Sexp)
  /-- The bytes of a binary module or component. -/
  | binary (bytes : List UInt8)
  /-- A component's identifier and fields. -/
  | component (id : Option String) (fs : List Sexp)
  deriving Inhabited

/-- The bytes of strings, which must all be strings. -/
def stringBytes : List Sexp → Except String (List UInt8)
  | [] => .ok []
  | .str b :: rest => (stringBytes rest).map (b ++ ·)
  | _ :: _ => .error "expected a string"

/-- The identifier and name annotation at the front of a module or component, and the items
after them. -/
def takeHead (items : List Sexp) : Except String (Option String × List Sexp) := do
  let (id, items) ← match items with
    | s :: rest => do
      match ← s.identifier? with
      | some n => pure (some n, rest)
      | none => pure (none, s :: rest)
    | [] => pure (none, [])
  let items ← match items with
    | s :: rest => do
      match ← s.nameAnnotation? with
      | some _ => pure rest
      | none => pure (s :: rest)
    | [] => pure []
  pure (id, items)

/-- The form of a module text: one `module` or `component` list, or module fields alone. -/
def ModuleText.ofSexps : List Sexp → Except String ModuleText
  | [] => .error "expected at least one module field"
  | [.list (.atom "module" :: items)] => do
    match (← takeHead items).2 with
    | .atom "binary" :: strs => pure (.binary (← stringBytes strs))
    | items => pure (.fields items)
  | [.list (.atom "component" :: items)] => do
    match ← takeHead items with
    | (_, .atom "binary" :: strs) => pure (.binary (← stringBytes strs))
    | (id, items) => pure (.component id items)
  | .list (.atom "module" :: _) :: _ => .error "extra tokens remaining after parse"
  | .list (.atom "component" :: _) :: _ => .error "extra tokens remaining after parse"
  | items => .ok (.fields items)

/-- A field's keyword and items. -/
def fieldParts : Sexp → Except String (String × List Sexp)
  | .list (.atom kw :: items) => .ok (kw, items)
  | _ => .error "expected a module field"

/-- The identifier at the front of items, if any. -/
def leadingId (items : List Sexp) : Except String (Option String) :=
  match items with
  | s :: _ => s.identifier?
  | [] => .ok none

/-- Drops a leading identifier and a name annotation after it. -/
def dropId (items : List Sexp) : List Sexp :=
  let dropName (items : List Sexp) : List Sexp := match items with
    | s :: rest =>
      match s.nameAnnotation? with
      | .ok (some _) => rest
      | _ => s :: rest
    | [] => []
  match items with
  | s :: rest =>
    match s.identifier? with
    | .ok (some _) => dropName rest
    | _ => dropName (s :: rest)
  | [] => []

/-- Drops inline exports. -/
def dropExports : List Sexp → List Sexp
  | .list (.atom "export" :: _) :: rest => dropExports rest
  | items => items

/-- Whether the items after a field's identifier and exports begin with an inline import. -/
def importsInPlace (items : List Sexp) : Bool :=
  match dropExports (dropId items) with
  | .list (.atom "import" :: _) :: _ => true
  | _ => false

/-- Drops a leading address type keyword. -/
def dropAddrType : List Sexp → List Sexp
  | .atom "i32" :: rest | .atom "i64" :: rest => rest
  | items => items

/-- Whether an item is a reference type. -/
def isRefType : Sexp → Bool
  | .atom a => match valKeyword? a, continuationKeyword? a with
    | some (.ref _ _), _ | _, some _ => true
    | _, _ => false
  | .list (.atom "ref" :: _) => true
  | .list [.atom "shared", .atom a] => match valKeyword? a, continuationKeyword? a with
    | some (.ref _ _), _ | _, some _ => true
    | _, _ => false
  | _ => false

/-- Whether a table field gives its elements in place. -/
def tableHasElems (items : List Sexp) : Bool :=
  match dropAddrType (dropExports (dropId items)) with
  | t :: .list (.atom "elem" :: _) :: _ => isRefType t
  | _ => false

/-- Whether a memory field gives its data in place. -/
def memoryHasData (items : List Sexp) : Bool :=
  match dropAddrType (dropExports (dropId items)) with
  | .list (.atom "data" :: _) :: _ => true
  | .list (.atom "pagesize" :: _) :: .list (.atom "data" :: _) :: _ => true
  | _ => false

/-- Adds an identifier to a space; an identifier may be declared only once. -/
def declare (sp : Space) (id : Option String) : Except String Space :=
  match id with
  | some n => if sp.contains (some n) then .error "duplicate identifier" else .ok (sp ++ [id])
  | none => .ok (sp ++ [none])

/-- The identifiers of the fields of a type definition: for a struct, one per field, each
declared once; for any other type, none. -/
def fieldIds (def_ : Sexp) : Except String Space :=
  let comp := match def_ with
    | .list (.atom "sub" :: items) => items.getLast?
    | c => some c
  let comp := match comp with
    | some (.list [.atom "shared", c]) => some c
    | c => c
  match comp with
  | some (.list (.atom "struct" :: fields)) =>
    let step (sp : Space) (f : Sexp) : Except String Space := match f with
      | .list (.atom "field" :: s :: rest) => do
        match ← s.identifier? with
        | some n => declare sp (some n)
        | none => pure (sp ++ (s :: rest).map fun _ => none)
      | _ => pure sp
    fields.foldlM step []
  | _ => .ok []

/-- The identifiers of the fields of a `type` field's definition. -/
def typeFieldIds (items : List Sexp) : Except String Space :=
  match dropId items with
  | d :: _ => fieldIds d
  | [] => .ok []

/-- What the first pass over the fields gathers: the identifiers of every index space and the
kind of the last definition seen. -/
structure Survey where
  spaces : Spaces := {}
  lastDefined : Option String := none

/-- Notes an import; none may follow a definition. -/
def Survey.noteImport (s : Survey) : Except String Survey :=
  match s.lastDefined with
  | some k => .error s!"import after {k}"
  | none => .ok s

/-- Declares the identifier of an imported item in its space, when the item takes it. -/
def Survey.importDesc (s : Survey) (named : Bool) (d : Sexp) : Except String Survey := do
  let (dkw, ditems) ← fieldParts d
  let did ← if named then leadingId ditems else pure none
  let sp := s.spaces
  match dkw with
  | "func" => pure { s with spaces := { sp with funcs := ← declare sp.funcs did } }
  | "table" => pure { s with spaces := { sp with tables := ← declare sp.tables did } }
  | "memory" => pure { s with spaces := { sp with memories := ← declare sp.memories did } }
  | "global" => pure { s with spaces := { sp with globals := ← declare sp.globals did } }
  | "tag" => pure { s with spaces := { sp with tags := ← declare sp.tags did } }
  | _ => throw "unknown import kind"

/-- The items of an import written as a group under one module name: `(item "name" desc)` items
each with their own description, or `(item "name")` items that share the description after
them, which only the first takes the identifier of. Each item is its name, its description and
whether it takes the description's identifier. -/
def importGroup (items : List Sexp) : Except String (List (Sexp × Sexp × Bool)) := do
  let isItem : Sexp → Bool := fun
    | .list (.atom "item" :: _) => true
    | _ => false
  let heads := items.takeWhile isItem
  match items.dropWhile isItem with
  | [] =>
    if heads.isEmpty then throw "expected import items"
    heads.mapM fun
      | .list [.atom "item", n, d] => pure (n, d, true)
      | _ => throw "expected an import description"
  | [d] =>
    let names ← heads.mapM fun
      | .list [.atom "item", n] => pure n
      | _ => throw "expected an import name"
    pure (names.zipIdx.map fun (n, i) => (n, d, i == 0))
  | _ => throw "malformed import"

/-- Surveys one field. -/
def Survey.field (s : Survey) (f : Sexp) : Except String Survey := do
  let (kw, items) ← fieldParts f
  let sp := s.spaces
  let id ← leadingId items
  match kw with
  | "type" =>
    pure { s with spaces := { sp with types := ← declare sp.types id,
                                      fields := sp.fields ++ [← typeFieldIds items] } }
  | "rec" =>
    let mut types := sp.types
    let mut fields := sp.fields
    for t in items do
      let (tkw, titems) ← fieldParts t
      if tkw != "type" then throw "expected a type in a recursion group"
      types ← declare types (← leadingId titems)
      fields := fields ++ [← typeFieldIds titems]
    pure { s with spaces := { sp with types, fields } }
  | "import" =>
    let s ← s.noteImport
    match items with
    | [.str _, .str _, d] => s.importDesc true d
    | .str _ :: group => (← importGroup group).foldlM (fun s (_, d, named) => s.importDesc named d) s
    | _ => throw "malformed import"
  | "func" | "table" | "memory" | "global" | "tag" =>
    let imported := importsInPlace items
    let s ← if imported then s.noteImport
      else pure (if kw == "tag" then s else { s with lastDefined := some kw })
    let sp := s.spaces
    match kw with
    | "func" => pure { s with spaces := { sp with funcs := ← declare sp.funcs id } }
    | "table" =>
      let elems := if !imported && tableHasElems items then sp.elems ++ [none] else sp.elems
      pure { s with spaces := { sp with tables := ← declare sp.tables id, elems } }
    | "memory" =>
      let datas := if !imported && memoryHasData items then sp.datas ++ [none] else sp.datas
      pure { s with spaces := { sp with memories := ← declare sp.memories id, datas } }
    | "global" => pure { s with spaces := { sp with globals := ← declare sp.globals id } }
    | _ => pure { s with spaces := { sp with tags := ← declare sp.tags id } }
  | "elem" => pure { s with spaces := { sp with elems := ← declare sp.elems id } }
  | "data" => pure { s with spaces := { sp with datas := ← declare sp.datas id } }
  | "export" | "start" | "@custom" | "@producers" | "@dylink.0" => pure s
  | _ => throw "unknown module field"

/-- Surveys all fields. -/
def survey (fields : List Sexp) : Except String Spaces := do
  let s ← fields.foldlM Survey.field {}
  pure s.spaces

/-- Reads a storage type: a value type or a packed integer. -/
def storageType : Sexp → ReadM StorageType
  | .atom "i8" => pure .i8
  | .atom "i16" => pure .i16
  | s => do pure (.val (← valType s))

/-- Reads a field type: a storage type, mutable when written `(mut ...)`. -/
def fieldType : Sexp → ReadM FieldType
  | .list [.atom "mut", t] => do pure ⟨← storageType t, true⟩
  | t => do pure ⟨← storageType t, false⟩

/-- Reads the fields of a struct type: each list one named field or any number of unnamed
ones. -/
def structFields (items : List Sexp) : ReadM (List FieldType) := do
  let mut out : List FieldType := []
  for f in items do
    match f with
    | .list (.atom "field" :: fitems) =>
      match ← takeId fitems with
      | (some _, [t]) => out := out ++ [← fieldType t]
      | (some _, _) => throw "expected one field type"
      | (none, ts) => out := out ++ (← ts.mapM fieldType)
    | _ => throw "expected a field"
  pure out

/-- Reads a composite type. -/
def compType : Sexp → ReadM CompType
  | .list (.atom "func" :: items) => do
    let (inl, rest) ← takeInline true items {} false
    if !rest.isEmpty then throw "unexpected token in a function type"
    pure (.func ((inl.map (·.type)).getD {}))
  | .list (.atom "struct" :: items) => do pure (.struct (← structFields items))
  | .list [.atom "array", f] => do pure (.array (← fieldType f))
  | .list [.atom "shared", c] => do
    useProposal .sharedEverything
    compType c
  | .list [.atom "cont", r] => do
    let _ ← takeIndex (·.types) "type" [r]
    useProposal .stackSwitching
    pure (.struct [])
  | _ => throw "expected a composite type"

/-- Takes the references to supertypes at the front. -/
def takeSupers : List Sexp → ReadM (List Nat × List Sexp)
  | s :: rest => do
    match ← takeRef? [s] with
    | (some r, _) =>
      let i ← resolveIn (← read).spaces.types "type" r
      let (more, rest) ← takeSupers rest
      pure (i :: more, rest)
    | (none, _) => pure ([], s :: rest)
  | [] => pure ([], [])

/-- Takes an optional `(describes t)` or `(descriptor t)` of a type definition, a link to the
type it describes or that describes it; such links need a proposal that validation does not
enable. -/
def takeDescriptorLink (kw : String) : List Sexp → ReadM (List Sexp)
  | .list [.atom k, r] :: rest => do
    if k != kw then return .list [.atom k, r] :: rest
    let _ ← takeIndex (·.types) "type" [r]
    useProposal .customDescriptors
    pure rest
  | items => pure items

/-- Reads a type definition: a composite type, or `(sub final? parent* link* composite)`. -/
def subType : Sexp → ReadM SubType
  | .list (.atom "sub" :: items) => do
    let (final, items) := match items with
      | .atom "final" :: rest => (true, rest)
      | _ => (false, items)
    let (supers, items) ← takeSupers items
    let items ← takeDescriptorLink "describes" items
    let items ← takeDescriptorLink "descriptor" items
    match items with
    | [c] => pure { final, supers, comp := ← compType c }
    | _ => throw "expected a composite type"
  | c => do pure { comp := ← compType c }

/-- Reads the body of a `type` field. -/
def typeField (items : List Sexp) : ReadM SubType := do
  match ← takeIdName items with
  | (_, _, [d]) => subType d
  | _ => throw "expected a type definition"

/-- The written form of a function type definition, `(func ...)`. -/
def funcKey (items : List Sexp) : ReadM FuncKey := do
  let (inl, _) ← takeInline true items {} false
  pure ((inl.map (·.key)).getD {})

/-- The written form of a type definition that is a function type, through `sub` and `shared`. -/
def funcKey? (d : Sexp) : ReadM (Option FuncKey) := do
  let comp := match d with
    | .list (.atom "sub" :: items) | .list [.atom "shared", .list (.atom "sub" :: items)] =>
      items.getLast?
    | c => some c
  match comp with
  | some (.list (.atom "func" :: items)) | some (.list [.atom "shared", .list (.atom "func" :: items)]) =>
    some <$> funcKey items
  | _ => pure none

/-- Reads every defined type, in order: a `type` field is a group of one; a `rec` field is a
group of its types. Gives also, by index and as written, the function types that a type written
in place may stand for: those of `type` fields. -/
def readTypes (fields : List Sexp) : ReadM (List SubType × List (Option FuncKey)) := do
  let mut out : List SubType := []
  let mut matchable : List (Option FuncKey) := []
  for f in fields do
    match f with
    | .list (.atom "type" :: items) =>
      let st ← typeField items
      out := out ++ [st]
      let key ← match ← takeIdName items with
        | (_, _, [d]) => funcKey? d
        | _ => pure none
      matchable := matchable ++ [key]
    | .list (.atom "rec" :: items) =>
      let mut group : List SubType := []
      for t in items do
        match t with
        | .list (.atom "type" :: titems) => group := group ++ [← typeField titems]
        | _ => throw "expected a type in a recursion group"
      let n := group.length
      out := out ++ group.zipIdx.map fun (st, i) => { st with groupSize := if i == 0 then n else 0 }
      matchable := matchable ++ group.map fun _ => none
    | _ => pure ()
  pure (out, matchable)

/-- Takes the inline exports at the front. -/
def takeExports : List Sexp → List String → ReadM (List String × List Sexp)
  | .list (.atom "export" :: eitems) :: rest, acc => do
    match eitems with
    | [s] =>
      let (name, _) ← takeText "export name" [s]
      takeExports rest (acc ++ [name])
    | _ => throw "malformed inline export"
  | items, acc => pure (acc, items)

/-- Takes an inline import at the front, if one is there. -/
def takeImport? : List Sexp → ReadM (Option (String × String) × List Sexp)
  | .list (.atom "import" :: iitems) :: rest => do
    match iitems with
    | [m, n] =>
      let (mname, _) ← takeText "module name" [m]
      let (fname, _) ← takeText "field name" [n]
      pure (some (mname, fname), rest)
    | _ => throw "malformed inline import"
  | items => pure (none, items)

/-- Requires that nothing is left. -/
def expectEnd (items : List Sexp) : ReadM Unit :=
  if items.isEmpty then pure () else throw "unexpected token"

/-- Takes limits: a minimum and an optional maximum, each of 64 bits; validation bounds them by
the address space. -/
def takeLimits (items : List Sexp) : ReadM (Limits × List Sexp) := do
  match ← takeNumber? 64 items with
  | (some min, rest) =>
    let (max, rest) ← takeNumber? 64 rest
    pure (⟨min, max⟩, rest)
  | (none, _) => throw "expected a number for the limits"

/-- Takes an optional address type keyword: whether it is `i64`. -/
def takeAddrType : List Sexp → Bool × List Sexp
  | .atom "i64" :: rest => (true, rest)
  | .atom "i32" :: rest => (false, rest)
  | items => (false, items)

/-- Takes an optional `(pagesize n)`: the binary logarithm of a page size that is a power of
two below 2^32. -/
def takePageSize : List Sexp → ReadM (Option Nat × List Sexp)
  | .list [.atom "pagesize", .atom a] :: rest =>
    match (NumberLit.ofString? a).bind (·.unsigned? 32) with
    | some n =>
      if n != 0 && n == Nat.pow 2 (Nat.log2 n) then pure (some (Nat.log2 n), rest)
      else throw "invalid custom page size"
    | none => throw "invalid custom page size"
  | items => pure (none, items)

/-- Reads a memory type. -/
def takeMemType (items : List Sexp) : ReadM (MemType × List Sexp) := do
  let (addr64, items) := takeAddrType items
  let (limits, items) ← takeLimits items
  let (shared, items) := match items with
    | .atom "shared" :: rest => (true, rest)
    | _ => (false, items)
  let (pageSizeLog2, items) ← takePageSize items
  pure ({ addr64, limits, shared, pageSizeLog2 }, items)

/-- Takes an optional `shared` keyword of a table; a shared table needs a proposal that
validation does not enable. -/
def takeSharedTable : List Sexp → ReadM (List Sexp)
  | .atom "shared" :: rest => do
    useProposal .sharedEverything
    pure rest
  | items => pure items

/-- Reads a table type: limits and a reference type. -/
def takeTableType (items : List Sexp) : ReadM (TableType × List Sexp) := do
  let items ← takeSharedTable items
  let (addr64, items) := takeAddrType items
  let (limits, items) ← takeLimits items
  match items with
  | t :: rest =>
    if isRefType t then pure ({ addr64, limits, elem := ← valType t }, rest)
    else throw "expected a reference type"
  | [] => throw "expected a reference type"

/-- Reads a global type: a value type, mutable when written `(mut ...)`. -/
def takeGlobalType : List Sexp → ReadM (GlobalType × List Sexp)
  | .list [.atom "mut", t] :: rest => do pure (⟨true, ← valType t⟩, rest)
  | .list [.atom "shared", .atom "mut", t] :: rest => do
    useProposal .sharedEverything
    pure (⟨true, ← valType t⟩, rest)
  | .list [.atom "shared", t] :: rest => do
    useProposal .sharedEverything
    pure (⟨false, ← valType t⟩, rest)
  | t :: rest => do pure (⟨false, ← valType t⟩, rest)
  | [] => throw "expected a global type"

/-- Reads one expression given as a single folded instruction, or as a list headed by the
keyword, such as `(offset ...)` or `(item ...)`. -/
def readExprItem (kw : String) : Sexp → ReadM Code
  | .list (.atom k :: items) =>
    if k == kw then readCode items else readCode [.list (.atom k :: items)]
  | _ => throw "expected an expression"

/-- The number of bytes a list of data values of one type gives; each value must be a constant
of the type, and a vector value is a shape and its lanes. `fuel` bounds the vector values. -/
def dataValues (kind : String) (vals : List Sexp) : ReadM Nat := do
  let each (size : Nat) (check : List Sexp → ReadM (List Sexp)) : ReadM Nat := do
    for v in vals do
      let _ ← check [v]
    pure (size * vals.length)
  match kind with
  | "i8" => each 1 (takeIntConst 8)
  | "i16" => each 2 (takeIntConst 16)
  | "i32" => each 4 (takeIntConst 32)
  | "i64" => each 8 (takeIntConst 64)
  | "f32" => each 4 (takeFloatConst .single)
  | "f64" => each 8 (takeFloatConst .double)
  | "v128" =>
    let rec go : Nat → List Sexp → Nat → ReadM Nat
      | _, [], n => pure n
      | 0, _ :: _, _ => throw "unexpected token"
      | fuel + 1, items, n => do go fuel (← takeVectorConst items) (n + 16)
    go vals.length vals 0
  | _ => throw "expected a data value"

/-- The number of bytes of data values: strings, or lists of numbers of one type. -/
def dataLength : List Sexp → ReadM Nat
  | [] => pure 0
  | .str b :: rest => do pure (b.length + (← dataLength rest))
  | .list (.atom w :: vals) :: rest => do pure ((← dataValues w vals) + (← dataLength rest))
  | _ :: _ => throw "expected a data value"

/-- The number of pages of 64 KiB that hold a number of bytes. -/
def pagesFor (bytes : Nat) : Nat := (bytes + 65535) / 65536

/-- Reads function indices, each standing for the expression that references the function. -/
def funcIndices (items : List Sexp) : ReadM (List Code) :=
  items.mapM fun s => do
    match ← takeRef? [s] with
    | (some r, _) => pure [.plain (.refFunc (← resolveIn (← read).spaces.funcs "func" r)), .close]
    | (none, _) => throw "expected a function index"

/-- Reads the items of an element segment after its mode: a reference type and expressions, or
function indices after `func`, which are non-null function references. An active segment that
names no table, or names it by a bare number, may give function indices alone. -/
def elemPayload (bareIndices : Bool) (items : List Sexp) : ReadM (ValType × List Code) := do
  match items with
  | .atom "func" :: rest => pure (.ref false .func, ← funcIndices rest)
  | t :: rest =>
    if isRefType t then pure (← valType t, ← rest.mapM (readExprItem "item"))
    else if bareIndices then pure (.ref false .func, ← funcIndices (t :: rest))
    else throw "expected func or a reference type"
  | [] =>
    if bareIndices then pure (.ref false .func, []) else throw "expected func or a reference type"

/-- Adds one imported item: a module name, an item name and what it brings in. An imported
function's name annotation, or else its identifier, names it. -/
def addImportItem (m : Module) (mn fn d : Sexp) : ReadM Module := do
  let (mname, _) ← takeText "module name" [mn]
  let (fname, _) ← takeText "field name" [fn]
  let (dkw, ditems) ← liftRead (fieldParts d)
  let (id, ann, ditems) ← takeIdName ditems
  let (desc, names) ← match dkw with
    | "func" => do
      let ditems ← match ditems with
        | [.list (.atom "exact" :: inner)] => do
          useProposal .customDescriptors
          pure inner
        | _ => pure ditems
      let (u, rest) ← takeTypeUse true ditems
      expectEnd rest
      let named := match ann <|> id with
        | some n => m.names ++ [(m.importedFuncs.length, n)]
        | none => m.names
      pure (ImportDesc.func (← u.resolve), named)
    | "table" => do
      let (t, rest) ← takeTableType ditems
      expectEnd rest
      pure (.table t, m.names)
    | "memory" => do
      let (t, rest) ← takeMemType ditems
      expectEnd rest
      pure (.memory t, m.names)
    | "global" => do
      let (t, rest) ← takeGlobalType ditems
      expectEnd rest
      pure (.global t, m.names)
    | "tag" => do
      let (u, rest) ← takeTypeUse true ditems
      expectEnd rest
      pure (.tag (← u.resolve), m.names)
    | _ => throw "unknown import kind"
  pure { m with imports := m.imports ++ [⟨mname, fname, desc⟩], names }

/-- Adds an import field: a module name, then an item's name and description, or a group of
items. -/
def addImport (m : Module) (items : List Sexp) : ReadM Module := do
  match items with
  | [mn, .str fn, d] => addImportItem m mn (.str fn) d
  | mn :: group =>
    useProposal .compactImports
    (← liftRead (importGroup group)).foldlM (fun m (n, d, _) => addImportItem m mn n d) m
  | [] => throw "malformed import"

/-- Takes the local declarations at the front of a function's body: their types, and the
identifiers of all locals after those already given. -/
def takeLocals (names : Space) : List Sexp → List ValType → ReadM (List ValType × Space × List Sexp)
  | .list (.atom "local" :: ls) :: more, acc => do
    match ← takeIdName ls with
    | (some n, _, [t]) =>
      let names ← liftRead (declare names (some n))
      takeLocals names more (acc ++ [← valType t])
    | (none, some _, [t]) => takeLocals (names ++ [none]) more (acc ++ [← valType t])
    | (some _, _, _) | (none, some _, _) => throw "expected one local type"
    | (none, none, ts) =>
      let vs ← valTypes ts
      takeLocals (names ++ vs.map fun _ => none) more (acc ++ vs)
  | items, acc => pure (acc, names, items)

/-- Adds a function field: its name annotation, or else its identifier, names it, its inline
exports export it, and an inline import makes it an import; otherwise it has a type, locals and
a body. -/
def addFunc (m : Module) (items : List Sexp) : ReadM Module := do
  let (id, ann, items) ← takeIdName items
  let (exports, items) ← takeExports items []
  let index := m.funcTypes.length
  let m : Module := { m with
    names := m.names ++ ((ann <|> id).map fun n => (index, n)).toList
    exports := m.exports ++ exports.map fun e => ⟨e, .func, index⟩ }
  match ← takeImport? items with
  | (some (mname, fname), rest) =>
    let (u, rest) ← takeTypeUse true rest
    expectEnd rest
    pure { m with imports := m.imports ++ [⟨mname, fname, .func (← u.resolve)⟩] }
  | (none, rest) =>
    let (u, rest) ← takeTypeUse true rest
    let type ← u.resolve
    let params ← liftRead ((← u.paramNames type).foldlM declare [])
    let (locals, names, body) ← takeLocals params rest []
    let code ← withReader (fun s => { s with locals := names }) (readCode body)
    pure { m with funcs := m.funcs ++ [⟨type, locals, code⟩] }

/-- The offset expression of a segment placed at the start of a table or memory. -/
def zeroOffset (addr64 : Bool) : Code :=
  [.plain (.const (if addr64 then .i64 else .i32)), .close]

/-- Adds a table field: imported, given by its elements in place, or given by its type and an
optional initial element. -/
def addTable (m : Module) (items : List Sexp) : ReadM Module := do
  let (_, _, items) ← takeIdName items
  let (exports, items) ← takeExports items []
  let index := m.tableTypes.length
  let m : Module := { m with exports := m.exports ++ exports.map fun e => ⟨e, .table, index⟩ }
  match ← takeImport? items with
  | (some (mname, fname), rest) =>
    let (t, rest) ← takeTableType rest
    expectEnd rest
    pure { m with imports := m.imports ++ [⟨mname, fname, .table t⟩] }
  | (none, rest) =>
    let rest ← takeSharedTable rest
    let (addr64, afterAddr) := takeAddrType rest
    match afterAddr with
    | t :: .list (.atom "elem" :: eitems) :: more =>
      if !isRefType t then throw "expected a reference type"
      expectEnd more
      let elemTy ← valType t
      let (segTy, payload) ← match eitems with
        | .list _ :: _ => do pure (elemTy, ← eitems.mapM (readExprItem "item"))
        | _ => do
          let ty := if elemTy == .ref true .func then .ref false .func else elemTy
          pure (ty, ← funcIndices eitems)
      let n := payload.length
      pure { m with
        tables := m.tables ++ [⟨{ addr64, limits := ⟨n, some n⟩, elem := elemTy }, none⟩]
        elems := m.elems ++ [⟨segTy, .active index (zeroOffset addr64), payload⟩] }
    | _ =>
      let (tt, rest) ← takeTableType rest
      let init ← if rest.isEmpty then pure none else some <$> readCode rest
      pure { m with tables := m.tables ++ [⟨tt, init⟩] }

/-- Adds a memory field: imported, given by its data in place, or given by its type. -/
def addMemory (m : Module) (items : List Sexp) : ReadM Module := do
  let (_, _, items) ← takeIdName items
  let (exports, items) ← takeExports items []
  let index := m.memTypes.length
  let m : Module := { m with exports := m.exports ++ exports.map fun e => ⟨e, .memory, index⟩ }
  match ← takeImport? items with
  | (some (mname, fname), rest) =>
    let (t, rest) ← takeMemType rest
    expectEnd rest
    pure { m with imports := m.imports ++ [⟨mname, fname, .memory t⟩] }
  | (none, rest) =>
    let (addr64, afterAddr) := takeAddrType rest
    let (pageSizeLog2, afterPage) ← takePageSize afterAddr
    match afterPage with
    | [.list (.atom "data" :: dvals)] =>
      let len ← dataLength dvals
      let pageBytes := Nat.pow 2 (pageSizeLog2.getD 16)
      let pages := (len + pageBytes - 1) / pageBytes
      pure { m with
        memories := m.memories ++ [{ addr64, limits := ⟨pages, some pages⟩, pageSizeLog2 }]
        datas := m.datas ++ [.active index (zeroOffset addr64)] }
    | _ =>
      let (t, rest) ← takeMemType rest
      expectEnd rest
      pure { m with memories := m.memories ++ [t] }

/-- Adds a global field: imported, or given by its type and initial value. -/
def addGlobal (m : Module) (items : List Sexp) : ReadM Module := do
  let (_, _, items) ← takeIdName items
  let (exports, items) ← takeExports items []
  let index := m.globalTypes.length
  let m : Module := { m with exports := m.exports ++ exports.map fun e => ⟨e, .global, index⟩ }
  match ← takeImport? items with
  | (some (mname, fname), rest) =>
    let (t, rest) ← takeGlobalType rest
    expectEnd rest
    pure { m with imports := m.imports ++ [⟨mname, fname, .global t⟩] }
  | (none, rest) =>
    let (t, rest) ← takeGlobalType rest
    let init ← readCode rest
    pure { m with globals := m.globals ++ [⟨t, init⟩] }

/-- Adds a tag field: imported, or given by its type. -/
def addTag (m : Module) (items : List Sexp) : ReadM Module := do
  let (_, _, items) ← takeIdName items
  let (exports, items) ← takeExports items []
  let index := m.tags.length
  let m : Module := { m with exports := m.exports ++ exports.map fun e => ⟨e, .tag, index⟩ }
  match ← takeImport? items with
  | (some (mname, fname), rest) =>
    let (u, rest) ← takeTypeUse true rest
    expectEnd rest
    pure { m with imports := m.imports ++ [⟨mname, fname, .tag (← u.resolve)⟩] }
  | (none, rest) =>
    let (u, rest) ← takeTypeUse true rest
    expectEnd rest
    pure { m with tags := m.tags ++ [← u.resolve] }

/-- Adds an export field: a name and a reference to an item of one kind. -/
def addExport (m : Module) (items : List Sexp) : ReadM Module := do
  match items with
  | [n, .list [.atom k, r]] =>
    let (name, _) ← takeText "export name" [n]
    let (kind, pick) ← match k with
      | "func" => pure (ExternKind.func, fun (sp : Spaces) => sp.funcs)
      | "table" => pure (.table, fun (sp : Spaces) => sp.tables)
      | "memory" => pure (.memory, fun (sp : Spaces) => sp.memories)
      | "global" => pure (.global, fun (sp : Spaces) => sp.globals)
      | "tag" => pure (.tag, fun (sp : Spaces) => sp.tags)
      | _ => throw "unknown export kind"
    let (index, _) ← takeIndex pick k [r]
    pure { m with exports := m.exports ++ [⟨name, kind, index⟩] }
  | _ => throw "malformed export"

/-- Takes the offset of an active segment, which must be there. -/
def takeOffset : List Sexp → ReadM (Code × List Sexp)
  | o :: more => do pure (← readExprItem "offset" o, more)
  | [] => throw "expected an offset"

/-- Adds an element segment: declarative, active with an optional table and an offset, or
passive, then its type and items. -/
def addElem (m : Module) (items : List Sexp) : ReadM Module := do
  let (_, _, items) ← takeIdName items
  let (mode, bareIndices, rest) ← match items with
    | .atom "declare" :: rest => pure (ElemMode.declarative, false, rest)
    | s :: rest => do
      match (← takeNumber? 32 [s]).1, s with
      | some t, _ =>
        let (off, more) ← takeOffset rest
        pure (.active t off, true, more)
      | none, .list (.atom "table" :: titems) =>
        let (t, after) ← takeIndex (·.tables) "table" titems
        expectEnd after
        let (off, more) ← takeOffset rest
        pure (.active t off, false, more)
      | none, .list _ =>
        if isRefType s then pure (.passive, false, s :: rest)
        else pure (.active 0 (← readExprItem "offset" s), true, rest)
      | none, _ => pure (.passive, false, s :: rest)
    | [] => pure (.passive, false, [])
  let (ty, payload) ← elemPayload bareIndices rest
  pure { m with elems := m.elems ++ [⟨ty, mode, payload⟩] }

/-- Adds a data segment: passive, or active with an optional memory and an offset, then its
bytes. -/
def addData (m : Module) (items : List Sexp) : ReadM Module := do
  let (_, _, items) ← takeIdName items
  let (mode, rest) ← match items with
    | [] => pure (DataMode.passive, [])
    | .str b :: rest => pure (.passive, .str b :: rest)
    | s :: rest => do
      let (mem, rest) ← match (← takeNumber? 32 [s]).1, s with
        | some i, _ => pure (i, rest)
        | none, .list (.atom "memory" :: mitems) => do
          let (i, after) ← takeIndex (·.memories) "memory" mitems
          expectEnd after
          pure (i, rest)
        | none, _ => pure (0, s :: rest)
      let (off, more) ← takeOffset rest
      pure (.active mem off, more)
  let _ ← dataLength rest
  pure { m with datas := m.datas ++ [mode] }

/-- The rank of a section among the sections of a binary module, by the keyword that names it
where a custom section is placed. -/
def sectionRank? : String → Option Nat
  | "type" => some 1
  | "import" => some 2
  | "func" => some 3
  | "table" => some 4
  | "memory" => some 5
  | "tag" => some 6
  | "global" => some 7
  | "export" => some 8
  | "start" => some 9
  | "elem" => some 10
  | "code" => some 12
  | "data" => some 13
  | _ => none

/-- The rank of a custom section's place: before the first section, before or after one, or
after the last, which is where a custom section goes by default. -/
def placeRank : Sexp → ReadM Nat
  | .list [.atom "before", .atom "first"] => pure 0
  | .list [.atom "after", .atom "last"] => pure 100
  | .list [.atom side, .atom anchor] =>
    match sectionRank? anchor with
    | some r =>
      if side == "before" then pure (2 * r)
      else if side == "after" then pure (2 * r + 1)
      else throw "expected before or after"
    | none => throw "unknown section for a custom section's place"
  | _ => throw "malformed custom section place"

/-- Adds a custom section: a name, an optional place and its bytes. Only sections named `name`
are kept, with the rank of their place. -/
def addCustom (m : Module) (items : List Sexp) : ReadM Module := do
  let (name, items) ← takeText "custom section name" items
  let (rank, items) ← match items with
    | p :: rest => match p with
      | .list _ => do pure (← placeRank p, rest)
      | _ => pure (100, items)
    | [] => pure (100, [])
  let bytes ← liftRead (stringBytes items)
  if name == "name" then
    modify fun s => { s with nameCustoms := s.nameCustoms ++ [(rank, bytes)] }
  pure m

/-- Checks a producers section: lists of a field, a name and a version. -/
def checkProducers (items : List Sexp) : ReadM Unit :=
  items.forM fun
    | .list [.atom field, n, v] => do
      if !(["language", "sdk", "processed-by"].contains field) then throw "unknown producers field"
      let _ ← takeText "producer name" [n]
      let _ ← takeText "producer version" [v]
    | _ => throw "malformed producers section"

/-- The symbol flags a dynamic linking entry may name. -/
def symbolFlags : List String :=
  ["binding-weak", "binding-local", "visibility-hidden", "undefined", "exported", "explicit-name",
    "no-strip", "tls", "absolute"]

/-- Whether an item is a number of 32 bits. -/
def isU32 : Sexp → Bool
  | .atom a => ((NumberLit.ofString? a).bind (·.unsigned? 32)).isSome
  | _ => false

/-- Checks the flags of a dynamic linking entry: numbers of 32 bits and flag names. -/
def checkSymbolFlags (items : List Sexp) : ReadM Unit :=
  items.forM fun f =>
    match f with
    | .atom a => if isU32 f || symbolFlags.contains a then pure () else throw "unknown symbol flag"
    | _ => throw "expected a symbol flag"

/-- Checks that every item is a UTF-8 string. -/
def checkTexts (what : String) (items : List Sexp) : ReadM Unit :=
  items.forM fun t => do
    let _ ← takeText what [t]

/-- Checks the size and alignment of one `memory` or `table` list of a `mem-info` entry. -/
def checkMemInfoPart (kw : String) : List Sexp → ReadM (List Sexp)
  | .list [.atom k, size, align] :: rest =>
    if k == kw && isU32 size && isU32 align then pure rest
    else if k == kw then throw "expected a size and an alignment"
    else pure (.list [.atom k, size, align] :: rest)
  | .list (.atom k :: _) :: _ =>
    if k == kw then throw "expected a size and an alignment" else throw "unexpected token"
  | items => pure items

/-- Checks a dynamic linking section: a list of entries, `(mem-info (memory size align)?
(table size align)?)`, `(needed name*)`, `(export-info name flag*)`,
`(import-info module name flag*)`, `(runtime-path path*)` and `(target-arch name)`. -/
def checkDylink (items : List Sexp) : ReadM Unit :=
  items.forM fun
    | .list (.atom "mem-info" :: parts) => do
      let rest ← checkMemInfoPart "memory" parts
      let rest ← checkMemInfoPart "table" rest
      expectEnd rest
    | .list (.atom "needed" :: names) => checkTexts "needed library" names
    | .list (.atom "export-info" :: n :: flags) => do
      checkTexts "export name" [n]
      checkSymbolFlags flags
    | .list (.atom "import-info" :: mn :: n :: flags) => do
      checkTexts "import name" [mn, n]
      checkSymbolFlags flags
    | .list (.atom "runtime-path" :: paths) => checkTexts "runtime path" paths
    | .list [.atom "target-arch", n] => checkTexts "target architecture" [n]
    | _ => throw "malformed dynamic linking section"

/-- Adds one field to a module; type definitions are read beforehand. -/
def addField (m : Module) (f : Sexp) : ReadM Module := do
  let (kw, items) ← liftRead (fieldParts f)
  match kw with
  | "type" | "rec" => pure m
  | "import" => addImport m items
  | "func" => addFunc m items
  | "table" => addTable m items
  | "memory" => addMemory m items
  | "global" => addGlobal m items
  | "tag" => addTag m items
  | "export" => addExport m items
  | "start" =>
    match items with
    | [r] => do
      let (i, _) ← takeIndex (·.funcs) "func" [r]
      pure { m with starts := m.starts ++ [i] }
    | _ => throw "malformed start"
  | "elem" => addElem m items
  | "data" => addData m items
  | "@custom" => addCustom m items
  | "@producers" => do
    checkProducers items
    pure m
  | "@dylink.0" => do
    checkDylink items
    pure m
  | _ => throw "unknown module field"

/-- Reads the fields of a module, in order, after the types. -/
def readFields (fields : List Sexp) (types : List SubType) : ReadM Module :=
  fields.foldlM addField { types }

/-- Reads module fields into a module. Added types follow the defined ones, and every data
segment counts for the instructions that name one. Custom sections named `name` become the name
sections in the order of their places, and replace the names the fields give. The fields are
read twice: a reference to a type with a type written beside it may name a type that is added
only further on, so the second reading checks it against the types the first one added.

A module is `(module $id? (@name "...")? field*)`, the fields alone, or
`(module $id? binary "..."*)`, which gives the bytes of a binary module. A text may instead be
one component, `(component $id? (@name "...")? field*)` or `(component $id? binary "..."*)`.
A module's fields define types; bring in or define functions, tables, memories, globals and
tags; and give exports, start functions, element and data segments, and custom sections,
`(@custom "name" place? "..."*)`.

A function, table, memory, global or tag may be imported or exported in place: its inline
exports are exports of its index, and an inline import makes it an import at its place. A
table with its elements in place is a table just big enough for them and an active segment at
offset zero; a memory with its data in place is likewise. Imports must come before every
defined function, table, memory and global. Identifiers are declared in the order of the
fields, each once in its index space. A function's name annotation, or else its identifier,
names it in the module's name section, unless the module has a custom section of that name,
which then is the name section. -/
def readModule (fields : List Sexp) : Except String Module := do
  let spaces ← survey fields
  let typeScope : Scope := { spaces }
  let ((types, matchable), typeState) ← ((readTypes fields).run typeScope).run {}
  let defined := types.map fun st => match st.comp with
    | .func ft => some ft
    | _ => none
  let scope : Scope := { spaces, defined, matchable }
  let state : ReadState := { proposals := typeState.proposals }
  let (_, first) ← ((readFields fields types).run scope).run state
  let ahead := first.added.map (·.1)
  let (m, st) ← ((readFields fields types).run { scope with ahead }).run state
  let sections := (st.nameCustoms.mergeSort fun a b => a.1 ≤ b.1).map (·.2)
  pure { m with
    types := m.types ++ st.added.map fun (ft, _) => { comp := .func ft }
    dataCount := some m.datas.length
    names := if sections.isEmpty then m.names else []
    nameSections := sections
    proposals := st.proposals }

end WasmBoogie.Wasm.Text
