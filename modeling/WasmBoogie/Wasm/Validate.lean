import WasmBoogie.Wasm.Validate.Instr

namespace WasmBoogie.Wasm

/-- The largest number of pages of a memory with 32-bit addresses. -/
def maxPages32 : Nat := 65536

/-- The largest number of pages of a memory with 64-bit addresses. -/
def maxPages64 : Nat := Nat.pow 2 48

/-- The most locals a function may declare, its parameters included. -/
def maxLocals : Nat := 50000

/-- The most parameters, and the most results, a function type may have. -/
def maxFuncArity : Nat := 1000

/-- The most fields a struct type may have. -/
def maxStructFields : Nat := 10000

/-- The most tables a module may have, imports included. -/
def maxTables : Nat := 100

/-- The most memories a module may have, imports included. -/
def maxMemories : Nat := 100

/-- The most supertypes above a type in its chain of declared supertypes. -/
def maxSubtypingDepth : Nat := 63

/-- The depth of each defined type in its chain of declared supertypes: zero without a supertype,
else one more than its supertype's. -/
def subtypingDepths (types : List SubType) : List Nat :=
  types.foldl (fun ds t => ds ++ [match t.supers with
    | [s] => (ds[s]?.map (· + 1)).getD 0
    | _ => 0]) []

/-- The function indices that module-level code may reference: those in element segments,
exports, and the initializers of globals, tables and element offsets. -/
def declaredRefs (m : Module) : List Nat :=
  let fromOps (c : Code) : List Nat := c.filterMap fun
    | .plain (.refFunc f) => some f
    | _ => none
  let fromElems := m.elems.flatMap fun e =>
    e.items.flatMap fromOps ++ (match e.mode with
      | .active _ off => fromOps off
      | _ => [])
  let fromExports := m.exports.filterMap fun e => if e.kind == .func then some e.index else none
  let fromGlobals := m.globals.flatMap fun g => fromOps g.init
  let fromTables := m.tables.flatMap fun t => (t.init.map fromOps).getD []
  fromElems ++ fromExports ++ fromGlobals ++ fromTables

/-- Checks a function body against its type. Parameters start set; a local of a type without
a default must be set before it is read. -/
def checkFunc (m : Module) (ctx : TypeContext) (refs : List Nat) (f : Func) :
    Except String Unit := do
  let ft ← match m.funcType? f.type with
    | some ft => pure ft
    | none => throw "function type index is not a function type"
  if !(f.locals.all ctx.valValid) then throw "invalid local type"
  if ft.params.length + f.locals.length > maxLocals then throw "too many locals"
  let body ← nest f.body
  let env : BodyEnv := ⟨m, ctx, refs, ft.params ++ f.locals, ft.results⟩
  let run : CheckM Unit := do
    Check.pushFrame .func [] ft.results
    Check.ops env body
    let _ ← Check.popFrame env
  let _ ← run.run { inits := List.range ft.params.length }
  pure ()

/-- Whether an instruction may stand in a constant expression that reads the first `globals`
globals: constants, null and function references, reads of those globals when immutable,
integer addition, subtraction and multiplication, and the allocation of structs, arrays and
`i31` references. Conversions between internal and external references are not constant. -/
def constInstr (m : Module) (globals : Nat) : Instr → Except String Unit
  | .plain (.globalGet i) =>
    if i ≥ globals then throw "unknown global in constant expression"
    else match m.globalTypes[i]? with
      | some g => if g.mutable then throw "mutable global in constant expression" else pure ()
      | none => throw "unknown global"
  | .plain (.const _) | .plain (.refNull _) | .plain (.refFunc _) | .plain (.intArith _)
  | .plain (.structNew _) | .plain (.structNewDefault _) | .plain (.arrayNew _)
  | .plain (.arrayNewDefault _) | .plain (.arrayNewFixed _ _) | .plain .refI31
  | .close => pure ()
  | _ => throw "constant expression required"

/-- Checks a constant expression: one value of the expected type, made by the instructions that
`constInstr` allows. -/
def checkConst (m : Module) (ctx : TypeContext) (globals : Nat) (expected : ValType) (c : Code) :
    Except String Unit := do
  c.forM (constInstr m globals)
  let e ← nest c
  let env : BodyEnv := ⟨m, ctx, List.range m.funcTypes.length, [], [expected]⟩
  let run : CheckM Unit := do
    Check.pushFrame .func [] [expected]
    Check.ops env e
    let _ ← Check.popFrame env
  let _ ← run.run {}
  pure ()

/-- Checks a memory type: consistent limits within the page bound of its address width, a
maximum if shared, and the default page size. -/
def checkMemType (mt : MemType) : Except String Unit := do
  match mt.limits.max with
  | some mx => if mt.limits.min > mx then throw "size minimum must not be greater than maximum"
  | none => pure ()
  let bound := if mt.addr64 then maxPages64 else maxPages32
  if mt.limits.min > bound then throw "memory size out of bounds"
  match mt.limits.max with
  | some mx => if mx > bound then throw "memory size out of bounds"
  | none => pure ()
  if mt.shared && mt.limits.max.isNone then throw "shared memory must have maximum size"
  if mt.pageSizeLog2.isSome then throw "custom page sizes are not enabled"

/-- Checks a table type: a reference element type and consistent limits, which a table with
32-bit indices keeps below `2 ^ 32`. -/
def checkTableType (ctx : TypeContext) (tt : TableType) : Except String Unit := do
  match tt.elem with
  | .ref _ _ => if !ctx.valValid tt.elem then throw "invalid table element type"
  | _ => throw "table element type must be a reference"
  match tt.limits.max with
  | some mx =>
    if tt.limits.min > mx then throw "size minimum must not be greater than maximum"
    if !tt.addr64 && mx ≥ Nat.pow 2 32 then throw "table size out of bounds"
  | none => pure ()
  if !tt.addr64 && tt.limits.min ≥ Nat.pow 2 32 then throw "table size out of bounds"

/-- Checks a defined type: it names only types before the end of its recursion group, it has
at most one supertype, which comes before it, is not final, and has a composite type that the
type's own matches. -/
def checkSubType (ctx : TypeContext) (idx : Nat) (t : SubType) : Except String Unit := do
  let (start, size) := groupOf ctx.types idx
  if t.comp.indices.any (· ≥ start + size) then throw "unknown type: type index out of bounds"
  match t.comp with
  | .func ft =>
    if ft.params.length > maxFuncArity then throw "function params exceeds limit"
    if ft.results.length > maxFuncArity then throw "function returns exceeds limit"
  | .struct fields => if fields.length > maxStructFields then throw "struct fields exceeds limit"
  | .array _ => pure ()
  if t.supers.length > 1 then throw "multiple supertypes are not supported"
  for s in t.supers do
    if s ≥ idx then throw "supertype must be defined earlier"
    match ctx.types[s]? with
    | some st =>
      if st.final then throw "supertype is final"
      if !ctx.compSub t.comp st.comp then throw "subtype does not match its supertype"
    | none => throw "unknown supertype"

/-- Checks an imported item's type. -/
def checkImport (m : Module) (ctx : TypeContext) (imp : Import) : Except String Unit :=
  match imp.desc with
  | .func t => if (m.funcType? t).isNone then throw "import type is not a function type" else pure ()
  | .table tt => checkTableType ctx tt
  | .memory mt => checkMemType mt
  | .global g => if !ctx.valValid g.type then throw "invalid global type" else pure ()
  | .tag t => match m.funcType? t with
    | some ft => if !ft.results.isEmpty then throw "tag type must not have results" else pure ()
    | none => throw "tag type is not a function type"

/-- Validates a module.

A module is valid when every defined type refers only to types before the end of its recursion
group and matches its one declared supertype, every index it uses is in range, every limit is
consistent, every constant expression is constant and of its type, every export name is unique,
there is at most one start function and it takes and gives nothing, and every function body is
well typed. -/
def validate (m : Module) : Except String Unit := do
  if !m.proposals.isEmpty then throw "the module uses a proposal that is not enabled"
  let ctx := m.typeContext
  for (t, i) in m.types.zipIdx do
    checkSubType ctx i t
  if (subtypingDepths m.types).any (· > maxSubtypingDepth) then
    throw "subtype hierarchy too deep"
  if m.tableTypes.length > maxTables then throw "tables count exceeds limit"
  if m.memTypes.length > maxMemories then throw "memories count exceeds limit"
  let refs := declaredRefs m
  for imp in m.imports do
    checkImport m ctx imp
  for f in m.funcs do
    if (m.funcType? f.type).isNone then throw "function type is not a function type"
  for t in m.tables do
    checkTableType ctx t.type
    match t.init with
    | some e => checkConst m ctx m.importedGlobalCount t.type.elem e
    | none => if !t.type.elem.isDefaultable then throw "missing table initializer"
  for mt in m.memories do
    checkMemType mt
  for t in m.tags do
    match m.funcType? t with
    | some ft => if !ft.results.isEmpty then throw "tag type must not have results"
    | none => throw "tag type is not a function type"
  let mut globalsSeen := m.importedGlobalCount
  for g in m.globals do
    if !ctx.valValid g.type.type then throw "invalid global type"
    checkConst m ctx globalsSeen g.type.type g.init
    globalsSeen := globalsSeen + 1
  let mut names : List String := []
  for e in m.exports do
    if names.contains e.name then throw "duplicate export name"
    names := e.name :: names
    let count := match e.kind with
      | .func => m.funcTypes.length
      | .table => m.tableTypes.length
      | .memory => m.memTypes.length
      | .global => m.globalTypes.length
      | .tag => m.tagTypes.length
    if e.index ≥ count then throw "unknown exported item"
  if m.starts.length > 1 then throw "multiple start sections"
  for s in m.starts do
    match m.funcTypes[s]? with
    | some t => match m.funcType? t with
      | some ft =>
        if !(ft.params.isEmpty && ft.results.isEmpty) then throw "invalid start function type"
      | none => throw "invalid start function type"
    | none => throw "unknown start function"
  for e in m.elems do
    if !ctx.valValid e.type then throw "invalid element type"
    match e.mode with
    | .active t off =>
      match m.tableTypes[t]? with
      | some tt =>
        checkConst m ctx m.globalTypes.length (if tt.addr64 then .i64 else .i32) off
        if !ctx.valSub e.type tt.elem then throw "type mismatch: element segment"
      | none => throw "unknown table"
    | _ => pure ()
    for item in e.items do
      checkConst m ctx m.globalTypes.length e.type item
  for d in m.datas do
    match d with
    | .active i off =>
      match m.memTypes[i]? with
      | some mt => checkConst m ctx m.globalTypes.length (if mt.addr64 then .i64 else .i32) off
      | none => throw "unknown memory"
    | .passive => pure ()
  for f in m.funcs do
    checkFunc m ctx refs f

end WasmBoogie.Wasm
