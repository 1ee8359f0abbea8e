import WasmBoogie.Wasm.Component.Type
import WasmBoogie.Wasm.Component.Name
import WasmBoogie.Wasm.Validate

namespace WasmBoogie.Wasm.Component

/-- What a scope of index spaces belongs to. -/
inductive ScopeKind where
  | component | componentType | instanceType
  deriving Repr, DecidableEq, Inhabited

/-- What a core type index holds: a type of a recursion group, or a module type. -/
inductive CoreTypeEntry where
  | sub (t : SubType)
  | module (t : ModuleTy)
  deriving Repr, Inhabited

/-- The index spaces of a component or of a type being declared, with its imports and
exports so far and the types and resources they named. -/
structure Scope where
  kind : ScopeKind
  coreTypes : List CoreTypeEntry := []
  coreFuncs : List FuncType := []
  coreTables : List TableType := []
  coreMemories : List MemType := []
  coreGlobals : List GlobalType := []
  coreTags : List FuncType := []
  coreModules : List ModuleTy := []
  coreInstances : List (List (String × CoreEntity)) := []
  types : List Ty := []
  funcs : List Ty := []
  instances : List (List (String × Ty)) := []
  components : List (List (String × Ty) × List (String × Ty)) := []
  importNames : List ExternName := []
  exportNames : List ExternName := []
  imports : List (String × Ty) := []
  exports : List (String × Ty) := []
  /-- The identities that imports named; they count as named for exports too. -/
  importedTypes : List Nat := []
  /-- The identities that imports and exports named, for exports. -/
  exportedTypes : List Nat := []
  importedResources : List (Nat × String) := []
  exportedResources : List (Nat × String) := []
  /-- The resources this component defines. -/
  localResources : List Nat := []
  deriving Inhabited

/-- The state of validation: the scopes, innermost first, and the next fresh identity. -/
structure Checker where
  scopes : List Scope
  next : Nat := 0

/-- Validating a component: the state, and failure with a message. -/
abbrev CheckM := StateT Checker (Except String)

/-- The innermost scope. -/
def current : CheckM Scope := do
  match (← get).scopes with
  | s :: _ => pure s
  | [] => throw "no scope"

/-- Changes the innermost scope. -/
def modifyCurrent (f : Scope → Scope) : CheckM Unit :=
  modify fun c => { c with scopes := match c.scopes with
    | s :: rest => f s :: rest
    | [] => [] }

/-- Opens a scope. -/
def pushScope (kind : ScopeKind) : CheckM Unit :=
  modify fun c => { c with scopes := { kind } :: c.scopes }

/-- Closes the innermost scope, giving it. -/
def popScope : CheckM Scope := do
  match (← get).scopes with
  | s :: rest =>
    modify fun c => { c with scopes := rest }
    pure s
  | [] => throw "no scope"

/-- A fresh identity. -/
def fresh : CheckM Nat := do
  let c ← get
  set { c with next := c.next + 1 }
  pure c.next

/-- The item at an index, which must be in range. -/
def itemAt {α : Type} (xs : List α) (i : Nat) : CheckM α :=
  match xs[i]? with
  | some x => pure x
  | none => throw "index out of bounds"

/-- Requires a condition. -/
def require (ok : Bool) (why : String) : CheckM Unit :=
  if ok then pure () else throw why

/-- Whether two items of a list are equal by a test. -/
def hasRepeat {α : Type} (same : α → α → Bool) : List α → Bool
  | [] => false
  | x :: rest => rest.any (same x) || hasRepeat same rest

/-- Requires labels to be kebab case and unique ignoring case. -/
def checkLabels (names : List String) : CheckM Unit := do
  require (names.all isLabel) "label is not in kebab case"
  require (!hasRepeat labelEq names) "label conflicts with a previous label"

/-- The type of a core module: what it imports and what it exports. -/
def moduleTy (m : Module) : ModuleTy :=
  let fty (t : Nat) : FuncType := (m.funcType? t).getD {}
  let entity : ImportDesc → CoreEntity
    | .func t => .func (fty t)
    | .table t => .table t
    | .memory t => .memory t
    | .global g => .global g
    | .tag t => .tag (fty t)
  { imports := m.imports.map fun i => (i.module, i.field, entity i.desc)
    exports := m.exports.map fun e => (e.name, match e.kind with
      | .func => .func (fty (m.funcTypes.getD e.index 0))
      | .table => .table (m.tableTypes.getD e.index default)
      | .memory => .memory (m.memTypes.getD e.index default)
      | .global => .global (m.globalTypes.getD e.index default)
      | .tag => .tag (fty (m.tagTypes.getD e.index 0))) }

/-- Checks a core module of the component and adds it. Inside a component no two imports of a
module may share both names. -/
def coreModule (m : Except String Module) : CheckM Unit := do
  let m ← match m with
    | .ok m => pure m
    | .error e => throw e
  match Wasm.validate m with
  | .ok () => pure ()
  | .error e => throw e
  let mt := moduleTy m
  require (!hasRepeat (fun (a, b, _) (c, d, _) => a == c && b == d) mt.imports)
    "module has a duplicate import name"
  modifyCurrent fun s => { s with coreModules := s.coreModules ++ [mt] }

/-- The sub types that the core types so far stand in for, module types as empty functions, so
that a new recursion group can be checked after them. -/
def priorCoreTypes (entries : List CoreTypeEntry) : List SubType :=
  entries.map fun
    | .sub t => t
    | .module _ => { comp := .func {} }

/-- Checks core types after others, as a module's type section would have them. -/
def checkCoreTypes (prior group : List SubType) : CheckM Unit :=
  match Wasm.validate { types := prior ++ group } with
  | .ok () => pure ()
  | .error e => throw e

/-- The core item an import of a module type brings in, with function types from `types`. -/
def coreEntityOf (types : List SubType) : ImportDesc → CheckM CoreEntity
  | .func t => do
    match (← itemAt types t).comp with
    | .func ft => pure (.func ft)
    | _ => throw "type is not a function type"
  | .table t => pure (.table t)
  | .memory t => pure (.memory t)
  | .global g => pure (.global g)
  | .tag t => do
    match (← itemAt types t).comp with
    | .func ft => pure (.tag ft)
    | _ => throw "type is not a function type"

/-- Checks the declarations of a core module type and gives the type. -/
def moduleTypeOf (decls : List ModuleDecl) : CheckM ModuleTy := do
  let mut types : List SubType := []
  let mut mt : ModuleTy := {}
  for d in decls do
    match d with
    | .types group =>
      checkCoreTypes types group
      types := types ++ group
    | .outerType count index =>
      if count == 0 then types := types ++ [← itemAt types index]
      else
        let scopes := (← get).scopes
        let s ← itemAt scopes (count - 1)
        match ← itemAt s.coreTypes index with
        | .sub t => types := types ++ [t]
        | .module _ => throw "module types cannot be aliased into a module type"
    | .import i =>
      mt := { mt with imports := mt.imports ++ [(i.module, i.field, ← coreEntityOf types i.desc)] }
    | .export name desc =>
      require (!mt.exports.any (·.1 == name)) "duplicate export name"
      mt := { mt with exports := mt.exports ++ [(name, ← coreEntityOf types desc)] }
  require (!hasRepeat (fun (a, b, _) (c, d, _) => a == c && b == d) mt.imports)
    "module type has a duplicate import name"
  pure mt

/-- Checks a core type definition and adds it. -/
def coreTypeDef : CoreTypeDef → CheckM Unit
  | .group sts => do
    let s ← current
    checkCoreTypes (priorCoreTypes s.coreTypes) sts
    modifyCurrent fun s => { s with coreTypes := s.coreTypes ++ sts.map .sub }
  | .module decls => do
    let mt ← moduleTypeOf decls
    modifyCurrent fun s => { s with coreTypes := s.coreTypes ++ [.module mt] }

/-- The value type a reference stands for: a primitive, or an earlier defined value type. -/
def valRef : ValRef → CheckM Ty
  | .prim p => pure (.prim p)
  | .index i => do
    let t ← itemAt (← current).types i
    require t.isValueType "type is not a defined type"
    pure t

/-- The value type an optional reference stands for. -/
def optValRef : Option ValRef → CheckM (Option Ty)
  | none => pure none
  | some r => some <$> valRef r

/-- The resource a type index stands for. -/
def resourceAt (i : Nat) : CheckM Nat := do
  match ← itemAt (← current).types i with
  | .resource r => pure r
  | _ => throw "type is not a resource type"

/-- Checks a defined value type and gives it, with a fresh identity where it has one. -/
def defType : DefType → CheckM Ty
  | .prim p => do
    require (p != .errorContext) "error-context is not enabled"
    pure (.prim p)
  | .record fs => do
    require (!fs.isEmpty) "record type must have at least one field"
    checkLabels (fs.map (·.1))
    let fields ← fs.mapM fun (n, r) => do pure (n, ← valRef r)
    pure (.record (← fresh) fields)
  | .variant cs => do
    require (!cs.isEmpty) "variant type must have at least one case"
    checkLabels (cs.map (·.1))
    let cases ← cs.mapM fun (n, r) => do pure (n, ← optValRef r)
    pure (.variant (← fresh) cases)
  | .list t => .list <$> valRef t
  | .fixedList _ _ => throw "fixed-size lists are not enabled"
  | .tuple ts => do
    require (!ts.isEmpty) "tuple type must have at least one type"
    .tuple <$> ts.mapM valRef
  | .flags ns => do
    require (!ns.isEmpty) "flags must have at least one entry"
    require (ns.length ≤ 32) "cannot have more than 32 flags"
    checkLabels ns
    pure (.flags (← fresh) ns)
  | .enum ns => do
    require (!ns.isEmpty) "enum type must have at least one variant"
    checkLabels ns
    pure (.enum (← fresh) ns)
  | .option t => .option <$> valRef t
  | .result ok err => do pure (.result (← optValRef ok) (← optValRef err))
  | .own i => .own <$> resourceAt i
  | .borrow i => .borrow <$> resourceAt i
  | .future _ | .stream _ => throw "async types are not enabled"

/-- Checks a component function type and gives it. -/
def funcSig (f : FuncSig) : CheckM Ty := do
  require (!f.async) "async functions are not enabled"
  checkLabels (f.params.map (·.1))
  let params ← f.params.mapM fun (n, r) => do pure (n, ← valRef r)
  pure (.func params (← optValRef f.result))

/-- Adds an item of a type to its index space. -/
def pushEntity (e : Ty) : CheckM Unit := do
  match e with
  | .value _ => throw "values are not enabled"
  | _ => pure ()
  modifyCurrent fun s => match e with
    | .module m => { s with coreModules := s.coreModules ++ [m] }
    | .comp is es => { s with components := s.components ++ [(is, es)] }
    | .inst es => { s with instances := s.instances ++ [es] }
    | .func _ _ => { s with funcs := s.funcs ++ [e] }
    | .type t => { s with types := s.types ++ [t] }
    | _ => s

mutual

/-- The identities an import or export names, given the identities named before it, or nothing
if it mentions a type not named before: a type names its own identity once its parts are named,
an instance names what its exports name, in order, and functions and values must mention named
types only. -/
def Ty.registerNamed (named : List Nat) : Ty → Option (List Nat)
  | .type t =>
    if t.hasNamedParts named then some t.identity?.toList else none
  | .inst es => Ty.registerExports named es
  | .func ps r => if (Ty.func ps r).hasNamedParts named then some [] else none
  | .value t => if t.isNamedUse named then some [] else none
  | _ => some []

/-- The identities the exports of an instance name, in order. -/
def Ty.registerExports (named : List Nat) : List (String × Ty) → Option (List Nat)
  | [] => some []
  | (_, e) :: rest => do
    let ids ← e.registerNamed named
    let more ← Ty.registerExports (named ++ ids) rest
    pure (ids ++ more)

end

/-- Records what an import or an export names: the name of a resource it is, and the types it
names, failing if it mentions a type not yet named. Inside an instance type only resource
names are recorded. -/
def registerNamed (isImport : Bool) (name : String) (e : Ty) : CheckM Unit := do
  match e with
  | .type (.resource id) =>
    modifyCurrent fun s =>
      if isImport then { s with importedResources := s.importedResources ++ [(id, name)] }
      else { s with exportedResources := s.exportedResources ++ [(id, name)] }
  | _ => pure ()
  let s ← current
  if s.kind == .instanceType then return
  let named := if isImport then s.importedTypes else s.exportedTypes
  match e.registerNamed named with
  | none => throw "item is not valid to be used as an import or export"
  | some ids =>
    modifyCurrent fun s =>
      if isImport then
        { s with importedTypes := s.importedTypes ++ ids, exportedTypes := s.exportedTypes ++ ids }
      else { s with exportedTypes := s.exportedTypes ++ ids }

/-- Checks an import or export name against the item and the names before it: a constructor
must return an owned handle of the resource it names, a method must take a borrowed handle of
it as `self` first, a static function must name a known resource, and no name may clash with
an earlier one of the same side. -/
def checkExternName (isImport : Bool) (name : String) (e : Ty) : CheckM Unit := do
  let s ← current
  let n ← match ExternName.parse? name with
    | some n => pure n
    | none => throw "name is not a valid extern name"
  if !isImport then
    match n with
    | .url _ | .hash _ | .dependency _ => throw "name is not a valid export name"
    | _ => pure ()
  let known := if isImport then s.importedResources else s.exportedResources
  let nameOf (id : Nat) : Option String := (known.find? (·.1 == id)).map (·.2)
  match n with
  | .constructor r =>
    match e with
    | .func _ (some (.own x)) | .func _ (some (.result (some (.own x)) _)) =>
      require (nameOf x == some r) "function does not match expected resource name"
    | _ => throw "constructor must return an owned handle"
  | .member true r _ =>
    match e with
    | .func (("self", .borrow x) :: _) _ =>
      require (nameOf x == some r) "function does not match expected resource name"
    | _ => throw "method must take a borrowed handle as self"
  | .member false r _ =>
    match e with
    | .func _ _ => require (known.any (·.2 == r)) "static resource name is not known"
    | _ => throw "static member must be a function"
  | _ => pure ()
  let names := if isImport then s.importNames else s.exportNames
  require (!names.any (·.clashes n)) "name conflicts with a previous name"
  let items := if isImport then s.imports else s.exports
  require (!items.any (·.1 == name)) "name conflicts with a previous name"
  modifyCurrent fun s =>
    if isImport then { s with importNames := s.importNames ++ [n] }
    else { s with exportNames := s.exportNames ++ [n] }

/-- Adds an import. -/
def addImport (name : String) (e : Ty) : CheckM Unit := do
  pushEntity e
  registerNamed true name e
  checkExternName true name e
  modifyCurrent fun s => { s with imports := s.imports ++ [(name, e)] }

/-- Adds an export. -/
def addExport (name : String) (e : Ty) : CheckM Unit := do
  pushEntity e
  registerNamed false name e
  checkExternName false name e
  modifyCurrent fun s => { s with exports := s.exports ++ [(name, e)] }

/-- The type of what an import, export or declaration describes. A type bound gives a fresh
identity: a copy of the type equal to it, or a new resource. -/
def externDesc : ExternDesc → CheckM Ty
  | .module t => do
    match ← itemAt (← current).coreTypes t with
    | .module mt => pure (.module mt)
    | _ => throw "core type is not a module type"
  | .func t => do
    match ← itemAt (← current).types t with
    | .func ps r => pure (.func ps r)
    | _ => throw "type is not a function type"
  | .value _ => throw "values are not enabled"
  | .typeEq t => do
    let r ← itemAt (← current).types t
    pure (.type (r.withIdentity (← fresh)))
  | .typeSubResource => do pure (.type (.resource (← fresh)))
  | .instanceType t => do
    match ← itemAt (← current).types t with
    | .inst es => pure (.inst es)
    | _ => throw "type is not an instance type"
  | .componentType t => do
    match ← itemAt (← current).types t with
    | .comp is es => pure (.comp is es)
    | _ => throw "type is not a component type"

/-- The type of an item of a component sort. -/
def entityOf (sort : ItemSort) (i : Nat) : CheckM Ty := do
  let s ← current
  match sort with
  | .coreModule => pure (.module (← itemAt s.coreModules i))
  | .func => itemAt s.funcs i
  | .value => throw "values are not enabled"
  | .type => pure (.type (← itemAt s.types i))
  | .componentInstance => pure (.inst (← itemAt s.instances i))
  | .component => do
    let (is, es) ← itemAt s.components i
    pure (.comp is es)
  | _ => throw "invalid sort"

/-- The type of a core item of a core sort. -/
def coreEntityAt (sort : ItemSort) (i : Nat) : CheckM CoreEntity := do
  let s ← current
  match sort with
  | .coreFunc => .func <$> itemAt s.coreFuncs i
  | .coreTable => .table <$> itemAt s.coreTables i
  | .coreMemory => .memory <$> itemAt s.coreMemories i
  | .coreGlobal => .global <$> itemAt s.coreGlobals i
  | .coreTag => .tag <$> itemAt s.coreTags i
  | _ => throw "invalid core sort"

/-- Adds a core item to its index space. -/
def pushCore (e : CoreEntity) : CheckM Unit :=
  modifyCurrent fun s => match e with
    | .func t => { s with coreFuncs := s.coreFuncs ++ [t] }
    | .table t => { s with coreTables := s.coreTables ++ [t] }
    | .memory t => { s with coreMemories := s.coreMemories ++ [t] }
    | .global t => { s with coreGlobals := s.coreGlobals ++ [t] }
    | .tag t => { s with coreTags := s.coreTags ++ [t] }

/-- Whether a core item's type is of a core sort. -/
def CoreEntity.isOf (sort : ItemSort) : CoreEntity → Bool
  | .func _ => sort == .coreFunc
  | .table _ => sort == .coreTable
  | .memory _ => sort == .coreMemory
  | .global _ => sort == .coreGlobal
  | .tag _ => sort == .coreTag

/-- Whether an item's type is of a component sort. -/
def Ty.isOf (sort : ItemSort) : Ty → Bool
  | .module _ => sort == .coreModule
  | .func _ _ => sort == .func
  | .value _ => sort == .value
  | .type _ => sort == .type
  | .inst _ => sort == .componentInstance
  | .comp _ _ => sort == .component
  | _ => false

/-- Checks an alias and adds the item it names. -/
def checkAlias : Alias → CheckM Unit
  | .export sort i name => do
    require (sort != .value) "values are not enabled"
    let es ← itemAt (← current).instances i
    match es.find? (·.1 == name) with
    | some (_, e) =>
      require (e.isOf sort) "export is not of the aliased sort"
      pushEntity e
    | none => throw "instance has no export of that name"
  | .coreExport sort i name => do
    let es ← itemAt (← current).coreInstances i
    match es.find? (·.1 == name) with
    | some (_, e) =>
      require (e.isOf sort) "export is not of the aliased sort"
      pushCore e
    | none => throw "core instance has no export of that name"
  | .outer sort count index => do
    let s ← itemAt (← get).scopes count
    match sort with
    | .coreModule => do
      let m ← itemAt s.coreModules index
      modifyCurrent fun c => { c with coreModules := c.coreModules ++ [m] }
    | .coreType => do
      let t ← itemAt s.coreTypes index
      modifyCurrent fun c => { c with coreTypes := c.coreTypes ++ [t] }
    | .type => do
      let t ← itemAt s.types index
      modifyCurrent fun c => { c with types := c.types ++ [t] }
    | .component => do
      let t ← itemAt s.components index
      modifyCurrent fun c => { c with components := c.components ++ [t] }
    | _ => throw "invalid outer alias sort"

/-- Whether an alias is an outer one. -/
def Alias.isOuter : Alias → Bool
  | .outer _ _ _ => true
  | _ => false

mutual

/-- Checks a type definition and gives the type. -/
def typeDef : TypeDef → CheckM Ty
  | .defined d => defType d
  | .func f => funcSig f
  | .componentType decls => do
    pushScope .componentType
    checkDecls decls
    let s ← popScope
    pure (.comp s.imports s.exports)
  | .instanceType decls => do
    pushScope .instanceType
    checkDecls decls
    let s ← popScope
    pure (.inst s.exports)
  | .resource rep dtor => do
    let s ← current
    require (s.kind == .component) "resources can only be defined within a concrete component"
    require (rep == .i32) "resources can only be represented by i32"
    match dtor with
    | some d => do
      let ft ← itemAt s.coreFuncs d
      require (ft == { params := [.i32] }) "wrong signature for a destructor"
    | none => pure ()
    let id ← fresh
    modifyCurrent fun s => { s with localResources := s.localResources ++ [id] }
    pure (.resource id)

/-- Checks the declarations of a component or instance type, in order. -/
def checkDecls : List Decl → CheckM Unit
  | [] => pure ()
  | d :: ds => do
    checkDecl d
    checkDecls ds

/-- Checks one declaration of a component or instance type. -/
def checkDecl : Decl → CheckM Unit
  | .coreType t => coreTypeDef t
  | .type t => do
    let ty ← typeDef t
    modifyCurrent fun s => { s with types := s.types ++ [ty] }
  | .aliased a => do
    if (← current).kind == .instanceType && !a.isOuter then
      throw "only outer aliases are allowed in instance types"
    checkAlias a
  | .import name desc => do addImport name (← externDesc desc)
  | .export name desc => do addExport name (← externDesc desc)

end

/-- Checks the options of a canonical function: one string encoding at most, each other option
at most once, a memory and a reallocation function that exist, the reallocation function of
type `[i32 i32 i32 i32] -> [i32]`, a post-return function only when lifting and taking the
lifted function's results, and the memory and reallocation function the signature needs. -/
def checkCanonOpts (lifted : Option FuncType) (low : Lowering) (opts : List CanonOpt) :
    CheckM Unit := do
  let s ← current
  let mut encoding := false
  let mut memory := false
  let mut realloc := false
  let mut postReturn := false
  for o in opts do
    match o with
    | .utf8 | .utf16 | .compactUtf16 =>
      require (!encoding) "canonical encoding option conflicts with another"
      encoding := true
    | .memory i =>
      require (!memory) "canonical option memory is specified more than once"
      let _ ← itemAt s.coreMemories i
      memory := true
    | .realloc i =>
      require (!realloc) "canonical option realloc is specified more than once"
      let ft ← itemAt s.coreFuncs i
      require (ft == { params := [.i32, .i32, .i32, .i32], results := [.i32] })
        "canonical option realloc has an incorrect signature"
      realloc := true
    | .postReturn i =>
      require (!postReturn) "canonical option post-return is specified more than once"
      match lifted with
      | some ct =>
        let ft ← itemAt s.coreFuncs i
        require (ft.params == ct.results && ft.results.isEmpty)
          "canonical option post-return has an incorrect signature"
      | none => throw "canonical option post-return cannot be specified for lowerings"
      postReturn := true
    | .async | .callback _ => throw "async canonical options are not enabled"
  require (!low.needsMemory || memory) "canonical option memory is required"
  require (!low.needsRealloc || realloc) "canonical option realloc is required"

/-- Checks a canonical function and adds what it defines. -/
def checkCanon : Canon → CheckM Unit
  | .lift cf opts ti => do
    let s ← current
    match ← itemAt s.types ti with
    | .func ps r =>
      let ct ← itemAt s.coreFuncs cf
      let low := lowering false ps r
      checkCanonOpts (some ct) low opts
      require (ct.params == low.params && ct.results == low.results)
        "lowered function type does not match"
      modifyCurrent fun s => { s with funcs := s.funcs ++ [.func ps r] }
    | _ => throw "type is not a function type"
  | .lower f opts => do
    match ← itemAt (← current).funcs f with
    | .func ps r =>
      let low := lowering true ps r
      checkCanonOpts none low opts
      pushCore (.func { params := low.params, results := low.results })
    | _ => throw "item is not a function"
  | .resourceNew t => do
    let r ← resourceAt t
    require ((← current).localResources.contains r) "type is not a local resource"
    pushCore (.func { params := [.i32], results := [.i32] })
  | .resourceDrop t => do
    let _ ← resourceAt t
    pushCore (.func { params := [.i32] })
  | .resourceRep t => do
    let r ← resourceAt t
    require ((← current).localResources.contains r) "type is not a local resource"
    pushCore (.func { params := [.i32], results := [.i32] })
  | .unsupported => throw "canonical built-in is not enabled"

/-- Checks a core instance and adds it. -/
def checkCoreInstance : CoreInstance → CheckM Unit
  | .instantiate mi args => do
    let s ← current
    let mt ← itemAt s.coreModules mi
    require (!hasRepeat (fun a b => a.1 == b.1) args) "duplicate module instantiation argument"
    let given ← args.mapM fun (n, i) => do pure (n, ← itemAt s.coreInstances i)
    for (m, n, expected) in mt.imports do
      match given.find? (·.1 == m) with
      | some (_, exports) =>
        match exports.find? (·.1 == n) with
        | some (_, actual) => require (actual.matches expected) "type mismatch for an import"
        | none => throw "module instantiation argument does not export an imported item"
      | none => throw "missing module instantiation argument"
    modifyCurrent fun s => { s with coreInstances := s.coreInstances ++ [mt.exports] }
  | .exports items => do
    require (!hasRepeat (fun a b => a.1 == b.1) items) "duplicate instantiation export name"
    let exports ← items.mapM fun (n, sort, i) => do pure (n, ← coreEntityAt sort i)
    modifyCurrent fun s => { s with coreInstances := s.coreInstances ++ [exports] }

/-- Whether an argument of a type may be given for an import of a type: a fresh resource
accepts any resource. -/
def argMatches (actual expected : Ty) : Bool :=
  match actual, expected with
  | .type (.resource _), .type (.resource _) => true
  | _, _ => actual.matches expected

/-- Checks a component instance and adds it. -/
def checkInstance : Instance → CheckM Unit
  | .instantiate ci args => do
    let s ← current
    let (is, es) ← itemAt s.components ci
    require (!hasRepeat (fun a b => a.1 == b.1) args) "instantiation argument conflicts"
    let given ← args.mapM fun (n, sort, i) => do pure (n, ← entityOf sort i)
    for (n, expected) in is do
      match given.find? (·.1 == n) with
      | some (_, actual) => require (argMatches actual expected) "type mismatch for an import"
      | none => throw "missing import argument"
    modifyCurrent fun s => { s with instances := s.instances ++ [es] }
  | .exports items => do
    let mut names : List ExternName := []
    let mut exports : List (String × Ty) := []
    for (n, sort, i) in items do
      let e ← entityOf sort i
      let x ← match ExternName.parse? n with
        | some x => pure x
        | none => throw "name is not a valid extern name"
      match x with
      | .url _ | .hash _ | .dependency _ => throw "name is not a valid export name"
      | _ => pure ()
      require (!names.any (·.clashes x) && !exports.any (·.1 == n))
        "name conflicts with a previous name"
      names := names ++ [x]
      exports := exports ++ [(n, e)]
    modifyCurrent fun s => { s with instances := s.instances ++ [exports] }

/-- Checks an export and adds it: the item's type, or the type it is ascribed if that type
accepts it. An exported type is a fresh identity of the type. -/
def checkExport (name : String) (sort : ItemSort) (i : Nat) (desc : Option ExternDesc) :
    CheckM Unit := do
  let actual ← match sort with
    | .type => do
      let t ← itemAt (← current).types i
      pure (.type (t.withIdentity (← fresh)))
    | _ => entityOf sort i
  let e ← match desc with
    | none => pure actual
    | some d => do
      let ascribed ← externDesc d
      require (actual.matches ascribed) "ascribed type of export is not compatible"
      pure ascribed
  addExport name e

mutual

/-- Checks one item of a component and adds what it defines. -/
def checkItem : Item → CheckM Unit
  | .module m => coreModule m
  | .component (.mk items) => do
    pushScope .component
    checkItems items
    let s ← popScope
    modifyCurrent fun c => { c with components := c.components ++ [(s.imports, s.exports)] }
  | .coreInstance i => checkCoreInstance i
  | .coreType t => coreTypeDef t
  | .componentInstance i => checkInstance i
  | .aliased a => checkAlias a
  | .type t => do
    let ty ← typeDef t
    modifyCurrent fun s => { s with types := s.types ++ [ty] }
  | .canon c => checkCanon c
  | .start => throw "start functions are not enabled"
  | .import name desc => do addImport name (← externDesc desc)
  | .export name sort i desc => checkExport name sort i desc
  | .value => throw "values are not enabled"
  | .custom _ _ => pure ()

/-- Checks the items of a component, in order. -/
def checkItems : List Item → CheckM Unit
  | [] => pure ()
  | item :: rest => do
    checkItem item
    checkItems rest

end

/-- Validates a component.

Items are checked in order, each against the index spaces that the items before it filled. A
nested component, and each component or instance type being declared, has index spaces of its
own; an outer alias reaches those of an enclosing one.

The rules that matter here:

* a core module must be a valid module, with no two imports of the same two names;
* instantiating a core module needs, for each module name it imports from, a core instance
  argument that exports each item it imports under that name, at a matching type; a component
  instantiation needs an argument for each import, at a matching type;
* a defined value type refers only to earlier value types and resources; records, variants,
  tuples, flags and enums are not empty, flags number at most 32, and labels are kebab case and
  unique ignoring case;
* a resource is defined only in a component, represented by `i32`, and its destructor takes an
  `i32`;
* lifting a core function needs its core type to be the flat signature of the component
  function type; lifting and lowering need a memory and a reallocation function where strings,
  lists or signatures too long to pass in place need them;
* import and export names are valid names, unique among imports and among exports, and each
  of these mentions only types that an earlier import or export named;
* values, start functions, asynchronous functions and built-ins, streams, futures, error
  contexts and fixed-size lists belong to proposals that are not enabled. -/
def validate (c : Component) : Except String Unit :=
  (checkItems c.items).run' { scopes := [{ kind := .component }] }

end WasmBoogie.Wasm.Component
