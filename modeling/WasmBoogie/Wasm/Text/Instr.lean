import WasmBoogie.Wasm.Text.Scope
import WasmBoogie.Wasm.Text.Ops
import WasmBoogie.Wasm.Vector
import WasmBoogie.Wasm.Atomic

namespace WasmBoogie.Wasm.Text

/-- What reading one instruction's name and immediates produces. -/
inductive Action where
  /-- An instruction that opens no block. -/
  | instr (i : Instr)
  /-- A block, loop or if, with its label. -/
  | openBlock (label : Option String) (i : Instr)
  /-- An `end` or `else`, with the label written after it. -/
  | closeBlock (isElse : Bool) (label : Option String)
  deriving Inhabited

/-- Emits what an action produces. -/
def Action.run : Action → ReadM Unit
  | .instr i => emit i
  | .openBlock l i => emitOpen l i
  | .closeBlock e l => emitEnd e l

/-- The value of an unsigned 64-bit field value: decimal digits, or `0x` and hexadecimal
digits, with single underscores between digits. -/
def fieldNumber? (cs : List Char) : Option Nat :=
  let whole (base : Nat) (digit : Char → Option Nat) (ds : List Char) : Option Nat :=
    match digitsOf base digit ds with
    | some (n, _, []) => some n
    | _ => none
  let cs := match cs with
    | '+' :: rest => rest
    | _ => cs
  let v := match cs with
    | '0' :: 'x' :: hex => whole 16 hexDigit hex
    | _ => whole 10 decDigit cs
  v.bind fun n => if n < Nat.pow 2 64 then some n else none

/-- Takes a `name=value` item off the front, if one is there. -/
def takeField (name : String) : List Sexp → ReadM (Option Nat × List Sexp)
  | .atom a :: rest =>
    let pre := (name ++ "=").toList
    if pre.isPrefixOf a.toList then
      match fieldNumber? (a.toList.drop pre.length) with
      | some v => pure (some v, rest)
      | none => throw "i64 constant out of range"
    else pure (none, .atom a :: rest)
  | items => pure (none, items)

/-- Takes the immediate of a memory access: a memory, an offset and an alignment, which must be
a power of two and defaults to the natural one. -/
def takeMemArg (natural : Nat) (items : List Sexp) : ReadM (MemArg × List Sexp) := do
  let (memory, items) ← takeIndexOr0 (·.memories) "memory" items
  let (offset, items) ← takeField "offset" items
  let (align, items) ← takeField "align" items
  let alignLog2 ← match align with
    | none => pure natural
    | some a =>
      if a != 0 && a == Nat.pow 2 (Nat.log2 a) then pure (Nat.log2 a)
      else throw "alignment must be a power of two"
  pure ({ memory, offset := offset.getD 0, alignLog2 }, items)

/-- Takes an integer constant of a width off the front. -/
def takeIntConst (width : Nat) : List Sexp → ReadM (List Sexp)
  | .atom a :: rest =>
    match NumberLit.ofString? a with
    | some n => if n.fitsInt width then pure rest else throw "constant out of range"
    | none => throw "expected an integer"
  | _ => throw "expected an integer"

/-- Takes a float constant of a format off the front. -/
def takeFloatConst (f : FloatFormat) : List Sexp → ReadM (List Sexp)
  | .atom a :: rest =>
    match NumberLit.ofString? a with
    | some n => if n.floatValue.fits f then pure rest else throw "constant out of range"
    | none => throw "expected a float"
  | _ => throw "expected a float"

/-- Takes the `(result ...)` lists of a `select`: none, or the types they list. -/
def takeSelectTypes : List Sexp → Option (List ValType) → ReadM (Option (List ValType) × List Sexp)
  | .list (.atom "result" :: ts) :: rest, acc => do
    let more ← valTypes ts
    takeSelectTypes rest (some (acc.getD [] ++ more))
  | rest, acc => pure (acc, rest)

/-- Takes one or more label references. -/
def takeLabels : List Sexp → List Nat → ReadM (List Nat × List Sexp)
  | items, acc => do
    match ← takeRef? items with
    | (some r, rest) =>
      let d ← labelDepth r
      match rest with
      | [] => pure (acc ++ [d], [])
      | _ => takeLabelsMore rest (acc ++ [d])
    | (none, rest) =>
      if acc.isEmpty then throw "expected a label" else pure (acc, rest)
where
  /-- Takes further label references, at most as many as there are items. -/
  takeLabelsMore : List Sexp → List Nat → ReadM (List Nat × List Sexp)
    | [], acc => pure (acc, [])
    | s :: more, acc => do
      match ← takeRef? [s] with
      | (some r, _) => takeLabelsMore more (acc ++ [← labelDepth r])
      | (none, _) => pure (acc, s :: more)

/-- Takes a pair of indices into one space, or none for index 0 twice. -/
def takePair (pick : Spaces → Space) (what : String) (items : List Sexp) :
    ReadM (Nat × Nat × List Sexp) := do
  match ← takeRef? items with
  | (some r, rest) =>
    let a ← resolveIn (pick (← read).spaces) what r
    let (b, rest) ← takeIndex pick what rest
    pure (a, b, rest)
  | (none, rest) => pure (0, 0, rest)

/-- Takes an optional index into one space followed by an index into another: when two indices
follow, the first is the optional one. -/
def takeTargetAndSegment (pickTarget pickSegment : Spaces → Space) (target segment : String)
    (items : List Sexp) : ReadM (Nat × Nat × List Sexp) := do
  match ← takeRef? items with
  | (some r, rest) =>
    match ← takeRef? rest with
    | (some r2, rest2) =>
      let t ← resolveIn (pickTarget (← read).spaces) target r
      let s ← resolveIn (pickSegment (← read).spaces) segment r2
      pure (t, s, rest2)
    | (none, _) =>
      pure (0, ← resolveIn (pickSegment (← read).spaces) segment r, rest)
  | (none, _) => throw s!"expected an index for the {segment}"

/-- Takes a lane index: an unsigned integer below 256 written without a sign. -/
def takeLaneIndex : List Sexp → ReadM (Nat × List Sexp)
  | .atom a :: rest =>
    match NumberLit.ofString? a, a.toList.head? with
    | some (.int false _ n), some c =>
      if c == '+' then throw "unexpected token"
      else if n < 256 then pure (n, rest) else throw "malformed lane index"
    | _, _ => throw "expected a lane index"
  | _ => throw "expected a lane index"

/-- Whether an item is an integer literal. -/
def Sexp.isInteger : Sexp → Bool
  | .atom a => match NumberLit.ofString? a with
    | some (.int _ _ _) => true
    | _ => false
  | _ => false

/-- Whether an item is an `offset=` or `align=` field. -/
def Sexp.isMemArgField : Sexp → Bool
  | .atom a => a.startsWith "offset=" || a.startsWith "align="
  | _ => false

/-- Takes the immediates of a lane access: a memory immediate when one is written, then the lane
index. A first integer is the memory index when another integer or a memory field follows it,
and the lane index otherwise. -/
def takeLaneAccess (natural : Nat) (items : List Sexp) : ReadM (MemArg × Nat × List Sexp) := do
  let hasMemArg := match items with
    | first :: after :: _ =>
      if first.isInteger then after.isInteger || after.isMemArgField else true
    | [first] => !first.isInteger
    | [] => true
  let (arg, items) ← if hasMemArg then takeMemArg natural items
    else pure ({ alignLog2 := natural }, items)
  let (lane, items) ← takeLaneIndex items
  pure (arg, lane, items)

/-- Takes `count` integer constants of a width. -/
def takeIntConsts (width : Nat) : Nat → List Sexp → ReadM (List Sexp)
  | 0, items => pure items
  | k + 1, items => do takeIntConsts width k (← takeIntConst width items)

/-- Takes `count` float constants of a format. -/
def takeFloatConsts (f : FloatFormat) : Nat → List Sexp → ReadM (List Sexp)
  | 0, items => pure items
  | k + 1, items => do takeFloatConsts f k (← takeFloatConst f items)

/-- Takes a vector constant: a shape and one constant for each of its lanes. -/
def takeVectorConst : List Sexp → ReadM (List Sexp)
  | .atom "i8x16" :: rest => takeIntConsts 8 16 rest
  | .atom "i16x8" :: rest => takeIntConsts 16 8 rest
  | .atom "i32x4" :: rest => takeIntConsts 32 4 rest
  | .atom "i64x2" :: rest => takeIntConsts 64 2 rest
  | .atom "f32x4" :: rest => takeFloatConsts .single 4 rest
  | .atom "f64x2" :: rest => takeFloatConsts .double 2 rest
  | _ => throw "expected a vector shape"

/-- Takes `count` lane indices of a shuffle, each an unsigned 8-bit integer. -/
def takeShuffleLanes : Nat → List Sexp → ReadM (List Nat × List Sexp)
  | 0, items => pure ([], items)
  | k + 1, .atom a :: rest => do
    match NumberLit.ofString? a with
    | some lit =>
      match lit.unsigned? 8 with
      | some n =>
        let (more, rest) ← takeShuffleLanes k rest
        pure (n :: more, rest)
      | none => throw "expected a lane index"
    | none => throw "expected a lane index"
  | _ + 1, _ => throw "expected a lane index"

/-- Reads the immediates of a vector instruction. -/
def vectorInstr (e : Vector.Entry) (items : List Sexp) : ReadM (Op × List Sexp) := do
  match e.form with
  | .plain ps rs => pure (.numeric ps rs, items)
  | .load n =>
    let (arg, rest) ← takeMemArg n items
    pure (.load .v128 n arg, rest)
  | .store =>
    let (arg, rest) ← takeMemArg 4 items
    pure (.store .v128 4 arg, rest)
  | .loadLane n =>
    let (arg, lane, rest) ← takeLaneAccess n items
    pure (.loadLane n arg lane, rest)
  | .storeLane n =>
    let (arg, lane, rest) ← takeLaneAccess n items
    pure (.storeLane n arg lane, rest)
  | .lane count ps rs =>
    let (lane, rest) ← takeLaneIndex items
    pure (.lane count lane ps rs, rest)
  | .const => pure (.const .v128, ← takeVectorConst items)
  | .shuffle =>
    let (lanes, rest) ← takeShuffleLanes 16 items
    pure (.shuffle lanes, rest)

/-- Takes the handlers of a `try_table` at the front. Their labels resolve outside the
`try_table`. -/
def takeCatches : List Sexp → List Catch → ReadM (List Catch × List Sexp)
  | .list (.atom kw :: ci) :: rest, acc => do
    let withTag := kw == "catch" || kw == "catch_ref"
    if !(withTag || kw == "catch_all" || kw == "catch_all_ref") then
      return (acc, .list (.atom kw :: ci) :: rest)
    let (tag, ci) ← if withTag then do
        let (t, ci) ← takeIndex (·.tags) "tag" ci
        pure (some t, ci)
      else pure (none, ci)
    let (l, ci) ← takeRef "label" ci
    if !ci.isEmpty then throw "unexpected token in a handler"
    let c : Catch := ⟨tag, kw == "catch_ref" || kw == "catch_all_ref", ← labelDepth l⟩
    takeCatches rest (acc ++ [c])
  | items, acc => pure (acc, items)

/-- Takes the handlers of a `resume` at the front: `(on tag label)` or `(on tag switch)`. -/
def takeHandlers : List Sexp → ReadM (List Sexp)
  | .list (.atom "on" :: h) :: rest => do
    let (_, after) ← takeIndex (·.tags) "tag" h
    match after with
    | [.atom "switch"] => pure ()
    | [l] =>
      let (r, _) ← takeRef "label" [l]
      let _ ← labelDepth r
    | _ => throw "malformed handler"
    takeHandlers rest
  | items => pure items

/-- Takes a field of a struct type: an index, or an identifier among the type's fields. -/
def takeFieldIndex (type : Nat) (items : List Sexp) : ReadM (Nat × List Sexp) := do
  let (r, rest) ← takeRef "field" items
  let fields := ((← read).spaces.fields[type]?).getD []
  pure (← resolveIn fields "field" r, rest)

/-- Takes a reference type off the front. -/
def takeRefType : List Sexp → ReadM (ValType × List Sexp)
  | s :: rest => do pure (← refType s, rest)
  | [] => throw "expected a reference type"

/-- Reads the immediates of an instruction on structs, arrays, casts or `i31` references. -/
def aggregateInstr (kw : String) (items : List Sexp) : ReadM (Option (Op × List Sexp)) := do
  let typeIdx (items : List Sexp) := takeIndex (·.types) "type" items
  match kw with
  | "struct.new" | "struct.new_default" =>
    let (t, rest) ← typeIdx items
    pure (some (if kw == "struct.new" then .structNew t else .structNewDefault t, rest))
  | "struct.get" | "struct.get_s" | "struct.get_u" | "struct.set" =>
    let (t, rest) ← typeIdx items
    let (f, rest) ← takeFieldIndex t rest
    pure (some (if kw == "struct.set" then .structSet t f else .structGet (kw != "struct.get") t f,
      rest))
  | "array.new" | "array.new_default" | "array.get" | "array.get_s" | "array.get_u"
  | "array.set" | "array.fill" =>
    let (t, rest) ← typeIdx items
    let o : Op := match kw with
      | "array.new" => .arrayNew t
      | "array.new_default" => .arrayNewDefault t
      | "array.get" => .arrayGet false t
      | "array.get_s" | "array.get_u" => .arrayGet true t
      | "array.set" => .arraySet t
      | _ => .arrayFill t
    pure (some (o, rest))
  | "array.new_fixed" =>
    let (t, rest) ← typeIdx items
    match ← takeNumber? 32 rest with
    | (some n, rest) => pure (some (.arrayNewFixed t n, rest))
    | (none, _) => throw "expected a count"
  | "array.new_data" | "array.init_data" =>
    let (t, rest) ← typeIdx items
    let (d, rest) ← takeIndex (·.datas) "data" rest
    pure (some (if kw == "array.new_data" then .arrayNewData t d else .arrayInitData t d, rest))
  | "array.new_elem" | "array.init_elem" =>
    let (t, rest) ← typeIdx items
    let (e, rest) ← takeIndex (·.elems) "elem" rest
    pure (some (if kw == "array.new_elem" then .arrayNewElem t e else .arrayInitElem t e, rest))
  | "array.copy" =>
    let (d, rest) ← typeIdx items
    let (s, rest) ← typeIdx rest
    pure (some (.arrayCopy d s, rest))
  | "array.len" => pure (some (.arrayLen, items))
  | "ref.test" | "ref.cast" =>
    let (t, rest) ← takeRefType items
    pure (some (if kw == "ref.test" then .refTest t else .refCast t, rest))
  | "br_on_cast" | "br_on_cast_fail" =>
    let (r, rest) ← takeRef "label" items
    let l ← labelDepth r
    let (source, rest) ← takeRefType rest
    let (target, rest) ← takeRefType rest
    pure (some (.brOnCast (kw == "br_on_cast_fail") l source target, rest))
  | "any.convert_extern" => pure (some (.anyConvertExtern, items))
  | "extern.convert_any" => pure (some (.externConvertAny, items))
  | "ref.i31" => pure (some (.refI31, items))
  | "i31.get_s" | "i31.get_u" => pure (some (.i31Get, items))
  | _ => pure none

/-- Takes a memory ordering, `seqcst` or `acqrel`, if one is there: whether one was. -/
def takeOrdering? : List Sexp → Bool × List Sexp
  | .atom "seqcst" :: rest | .atom "acqrel" :: rest => (true, rest)
  | items => (false, items)

/-- Takes a memory ordering, which must be there. -/
def takeOrdering (items : List Sexp) : ReadM (List Sexp) :=
  match takeOrdering? items with
  | (true, rest) => pure rest
  | (false, _) => throw "expected a memory ordering"

/-- The kind of item, `global`, `table`, `struct` or `array`, that an atomic instruction with a
memory ordering works on, by the instruction's name. -/
def orderedAtomicKind? (kw : String) : Option String :=
  let rmw := ["rmw.add", "rmw.sub", "rmw.and", "rmw.or", "rmw.xor", "rmw.xchg", "rmw.cmpxchg"]
  let reads := ["get", "get_s", "get_u", "set"]
  let forms : List (String × List String) :=
    [("global", ["get", "set"] ++ rmw), ("table", ["get", "set", "rmw.xchg", "rmw.cmpxchg"]),
      ("struct", reads ++ rmw), ("array", reads ++ rmw)]
  (forms.find? fun (k, ops) => ops.any fun o => kw == k ++ ".atomic." ++ o).map (·.1)

/-- Reads the immediates of an atomic instruction with a memory ordering on shared data: the
ordering, then what it works on. Such instructions need a proposal that validation does not
enable. -/
def orderedAtomic (kind : String) (items : List Sexp) : ReadM (Op × List Sexp) := do
  let rest ← takeOrdering items
  match kind with
  | "global" =>
    let (_, rest) ← takeIndex (·.globals) "global" rest
    pure (.unsupported, rest)
  | "table" =>
    let (_, rest) ← takeIndexOr0 (·.tables) "table" rest
    pure (.unsupported, rest)
  | "struct" =>
    match ← aggregateInstr "struct.get" rest with
    | some (_, rest) => pure (.unsupported, rest)
    | none => throw "expected a struct field"
  | _ =>
    let (_, rest) ← takeIndex (·.types) "type" rest
    pure (.unsupported, rest)

/-- Takes the immediates of a plain load or store: a memory immediate, after an optional array
type `(type t)` that makes the access one on an array, which needs a proposal that validation
does not enable. Gives whether the access is on an array. -/
def takeAccessArg (natural : Nat) : List Sexp → ReadM (Bool × MemArg × List Sexp)
  | .list [.atom "type", r] :: rest => do
    let _ ← takeIndex (·.types) "type" [r]
    let (arg, rest) ← takeMemArg natural rest
    pure (true, arg, rest)
  | items => do
    let (arg, rest) ← takeMemArg natural items
    pure (false, arg, rest)

/-- Reads the name and immediates of one instruction. -/
def plainInstr (kw : String) (items : List Sexp) : ReadM (Action × List Sexp) := do
  let op (o : Op) (rest : List Sexp) : ReadM (Action × List Sexp) := pure (.instr (.plain o), rest)
  match kw with
  | "unreachable" => op .unreachable items
  | "nop" => op .nop items
  | "return" => op .ret items
  | "drop" => op .drop items
  | "select" =>
    let (ts, rest) ← takeSelectTypes items none
    op (.select ts) rest
  | "block" | "loop" | "if" =>
    let (label, _, rest) ← takeIdName items
    let (u, rest) ← takeTypeUse false rest
    let bt ← u.blockType
    let i : Instr := if kw == "block" then .block bt else if kw == "loop" then .loop bt else .ite bt
    pure (.openBlock label i, rest)
  | "try_table" =>
    let (label, _, rest) ← takeIdName items
    let (u, rest) ← takeTypeUse false rest
    let bt ← u.blockType
    let (catches, rest) ← takeCatches rest []
    pure (.openBlock label (.tryTable bt catches), rest)
  | "throw" =>
    let (t, rest) ← takeIndex (·.tags) "tag" items
    op (.throw t) rest
  | "cont.new" =>
    let (_, rest) ← takeIndex (·.types) "type" items
    op .unsupported rest
  | "cont.bind" =>
    let (_, rest) ← takeIndex (·.types) "type" items
    let (_, rest) ← takeIndex (·.types) "type" rest
    op .unsupported rest
  | "suspend" =>
    let (_, rest) ← takeIndex (·.tags) "tag" items
    op .unsupported rest
  | "resume" =>
    let (_, rest) ← takeIndex (·.types) "type" items
    op .unsupported (← takeHandlers rest)
  | "resume_throw" =>
    let (_, rest) ← takeIndex (·.types) "type" items
    let (_, rest) ← takeIndex (·.tags) "tag" rest
    op .unsupported (← takeHandlers rest)
  | "switch" =>
    let (_, rest) ← takeIndex (·.types) "type" items
    let (_, rest) ← takeIndex (·.tags) "tag" rest
    op .unsupported rest
  | "ref.i31_shared" => op .unsupported items
  | "throw_ref" => op .throwRef items
  | "try" =>
    let (label, _, rest) ← takeIdName items
    let (u, rest) ← takeTypeUse false rest
    let bt ← u.blockType
    emit (.plain .unsupported)
    pure (.openBlock label (.block bt), rest)
  | "catch" =>
    let (_, rest) ← takeIndex (·.tags) "tag" items
    op .unsupported rest
  | "catch_all" => op .unsupported items
  | "rethrow" =>
    let (r, rest) ← takeRef "label" items
    let _ ← labelDepth r
    op .unsupported rest
  | "delegate" =>
    emitEnd false none
    let (r, rest) ← takeRef "label" items
    let _ ← labelDepth r
    op .unsupported rest
  | "i64.add128" | "i64.sub128" | "i64.mul_wide_s" | "i64.mul_wide_u" => op .unsupported items
  | "atomic.fence" =>
    match items with
    | .atom "acqrel" :: rest => op .unsupported rest
    | .atom "seqcst" :: rest => op .atomicFence rest
    | _ => op .atomicFence items
  | "pause" => op .unsupported items
  | "memory.discard" =>
    let (_, rest) ← takeIndexOr0 (·.memories) "memory" items
    op .unsupported rest
  | "struct.new_desc" | "struct.new_default_desc" | "ref.get_desc" =>
    let (_, rest) ← takeIndex (·.types) "type" items
    op .unsupported rest
  | "ref.cast_desc_eq" =>
    let (_, rest) ← takeRefType items
    op .unsupported rest
  | "br_on_cast_desc_eq" | "br_on_cast_desc_eq_fail" =>
    let (r, rest) ← takeRef "label" items
    let _ ← labelDepth r
    let (_, rest) ← takeRefType rest
    let (_, rest) ← takeRefType rest
    op .unsupported rest
  | "resume_throw_ref" =>
    let (_, rest) ← takeIndex (·.types) "type" items
    op .unsupported (← takeHandlers rest)
  | "else" | "end" =>
    let (label, rest) ← takeId items
    pure (.closeBlock (kw == "else") label, rest)
  | "br" | "br_if" | "br_on_null" | "br_on_non_null" =>
    let (r, rest) ← takeRef "label" items
    let d ← labelDepth r
    let o : Op := match kw with
      | "br" => .br d
      | "br_if" => .brIf d
      | "br_on_null" => .brOnNull d
      | _ => .brOnNonNull d
    op o rest
  | "br_table" =>
    let (ls, rest) ← takeLabels items []
    op (.brTable ls.dropLast (ls.getLast?.getD 0)) rest
  | "call" | "return_call" =>
    let (f, rest) ← takeIndex (·.funcs) "func" items
    op (if kw == "call" then .call f else .returnCall f) rest
  | "call_indirect" | "return_call_indirect" =>
    let (t, rest) ← takeIndexOr0 (·.tables) "table" items
    let (u, rest) ← takeTypeUse false rest
    let ty ← u.resolve
    op (if kw == "call_indirect" then .callIndirect t ty else .returnCallIndirect t ty) rest
  | "call_ref" | "return_call_ref" =>
    let (ty, rest) ← takeIndex (·.types) "type" items
    op (if kw == "call_ref" then .callRef ty else .returnCallRef ty) rest
  | "local.get" | "local.set" | "local.tee" =>
    let (r, rest) ← takeRef "local" items
    let i ← resolveIn (← read).locals "local" r
    op (match kw with
      | "local.get" => .localGet i
      | "local.set" => .localSet i
      | _ => .localTee i) rest
  | "global.get" | "global.set" =>
    let (g, rest) ← takeIndex (·.globals) "global" items
    op (if kw == "global.get" then .globalGet g else .globalSet g) rest
  | "table.get" | "table.set" | "table.size" | "table.grow" | "table.fill" =>
    let (t, rest) ← takeIndexOr0 (·.tables) "table" items
    op (match kw with
      | "table.get" => .tableGet t
      | "table.set" => .tableSet t
      | "table.size" => .tableSize t
      | "table.grow" => .tableGrow t
      | _ => .tableFill t) rest
  | "table.copy" =>
    let (d, s, rest) ← takePair (·.tables) "table" items
    op (.tableCopy d s) rest
  | "table.init" =>
    let (t, e, rest) ← takeTargetAndSegment (·.tables) (·.elems) "table" "elem" items
    op (.tableInit t e) rest
  | "elem.drop" =>
    let (e, rest) ← takeIndex (·.elems) "elem" items
    op (.elemDrop e) rest
  | "memory.size" | "memory.grow" | "memory.fill" =>
    let (m, rest) ← takeIndexOr0 (·.memories) "memory" items
    op (match kw with
      | "memory.size" => .memorySize m
      | "memory.grow" => .memoryGrow m
      | _ => .memoryFill m) rest
  | "memory.copy" =>
    let (d, s, rest) ← takePair (·.memories) "memory" items
    op (.memoryCopy d s) rest
  | "memory.init" =>
    let (m, d, rest) ← takeTargetAndSegment (·.memories) (·.datas) "memory" "data" items
    op (.memoryInit m d) rest
  | "data.drop" =>
    let (d, rest) ← takeIndex (·.datas) "data" items
    op (.dataDrop d) rest
  | "i32.const" => op (.const .i32) (← takeIntConst 32 items)
  | "i64.const" => op (.const .i64) (← takeIntConst 64 items)
  | "f32.const" => op (.const .f32) (← takeFloatConst .single items)
  | "f64.const" => op (.const .f64) (← takeFloatConst .double items)
  | "ref.null" =>
    match items with
    | h :: rest =>
      match ← heapType? h with
      | some ht => op (.refNull ht) rest
      | none => throw "expected a heap type"
    | [] => throw "expected a heap type"
  | "ref.is_null" => op .refIsNull items
  | "ref.as_non_null" => op .refAsNonNull items
  | "ref.eq" => op .refEq items
  | "ref.func" =>
    let (f, rest) ← takeIndex (·.funcs) "func" items
    op (.refFunc f) rest
  | _ =>
    match loadOp? kw, storeOp? kw, numericOp? kw with
    | some (t, n), _, _ =>
      let (onArray, arg, rest) ← takeAccessArg n items
      op (if onArray then .unsupported else .load t n arg) rest
    | none, some (t, n), _ =>
      let (onArray, arg, rest) ← takeAccessArg n items
      op (if onArray then .unsupported else .store t n arg) rest
    | none, none, some o => op o items
    | none, none, none =>
      match Vector.byName? kw, Atomic.byName? kw with
      | some e, _ =>
        let (o, rest) ← vectorInstr e items
        op o rest
      | none, some e =>
        let (arg, rest) ← takeMemArg e.naturalLog2 items
        let (ordered, rest) := takeOrdering? rest
        op (if ordered then .unsupported else e.op arg) rest
      | none, none =>
        match orderedAtomicKind? kw with
        | some kind =>
          let (o, rest) ← orderedAtomic kind items
          op o rest
        | none =>
          match ← aggregateInstr kw items with
          | some (o, rest) => op o rest
          | none => throw "unknown operator or unexpected token"

/-- Checks a branch hint, `(@metadata.code.branch_hint "\00")` or `"\01"`, against the items
after it in its list: an instruction must follow it there, and an instruction takes at most one
hint. In a folded `if` the `then` list is no instruction. A hint does not change the code. -/
def checkBranchHint (hint following : List Sexp) : ReadM Unit := do
  match hint with
  | [.str [0]] | [.str [1]] => pure ()
  | _ => throw "invalid value for branch hint"
  match following with
  | [] => throw "a branch hint must be followed by an instruction"
  | .list (.atom "@metadata.code.branch_hint" :: _) :: _ =>
    throw "an instruction has two branch hints"
  | _ => pure ()

/-- The number of items in a list of items, at every depth. -/
def itemCount : List Sexp → Nat
  | [] => 0
  | .list xs :: rest => 1 + itemCount xs + itemCount rest
  | _ :: rest => 1 + itemCount rest

mutual

/-- Reads a sequence of instructions, flat or folded, emitting them in order. `fuel` bounds the
number of steps; the items' count is enough. -/
def readInstrs : Nat → List Sexp → ReadM Unit
  | 0, _ => throw "instructions nested too deeply"
  | _ + 1, [] => pure ()
  | fuel + 1, .list (.atom "@metadata.code.branch_hint" :: hint) :: rest => do
    checkBranchHint hint rest
    readInstrs fuel rest
  | fuel + 1, .list xs :: rest => do
    readFolded fuel xs
    readInstrs fuel rest
  | fuel + 1, .atom kw :: rest => do
    let (a, rest) ← plainInstr kw rest
    a.run
    readInstrs fuel rest
  | _ + 1, _ :: _ => throw "unexpected token"

/-- Reads the items of one folded instruction. -/
def readFolded : Nat → List Sexp → ReadM Unit
  | 0, _ => throw "instructions nested too deeply"
  | fuel + 1, .atom "if" :: rest => do
    let (label, _, rest) ← takeIdName rest
    let (u, rest) ← takeTypeUse false rest
    let bt ← u.blockType
    readIf fuel label bt rest
  | fuel + 1, .atom kw :: rest => do
    let (a, rest) ← plainInstr kw rest
    match a with
    | .openBlock l i =>
      emitOpen l i
      readInstrs fuel rest
      emitEnd false none
    | _ =>
      readInstrs fuel rest
      a.run
  | _ + 1, _ => throw "expected an instruction"

/-- Reads the condition lists, the `then` list and the `else` list of a folded `if`. -/
def readIf : Nat → Option String → BlockType → List Sexp → ReadM Unit
  | 0, _, _, _ => throw "instructions nested too deeply"
  | fuel + 1, label, bt, .list (.atom "then" :: thenItems) :: rest => do
    emitOpen label (.ite bt)
    readInstrs fuel thenItems
    match rest with
    | [] => emitEnd false none
    | [.list (.atom "else" :: elseItems)] =>
      emit .otherwise
      readInstrs fuel elseItems
      emitEnd false none
    | _ => throw "expected an else list or the end of the if"
  | fuel + 1, label, bt, .list (.atom "@metadata.code.branch_hint" :: hint) :: rest => do
    checkBranchHint hint rest
    if rest.head?.bind Sexp.head? == some "then" then
      throw "a branch hint must be followed by an instruction"
    readIf fuel label bt rest
  | fuel + 1, label, bt, .list xs :: rest => do
    readFolded fuel xs
    readIf fuel label bt rest
  | _ + 1, _, _, [] => throw "previous if had no then"
  | _ + 1, _, _, _ :: _ => throw "expected a list"

end

/-- Reads a function body or constant expression into a flat stream closed by its `end`.

An instruction is written flat, as its name and immediates, or folded, as a list that holds the
name, the immediates and then the instructions that compute its operands. Folded code means the
flat code that computes the operands followed by the instruction; a folded `block`, `loop` or
`try_table` means the block, its body and its `end`; a folded `if` holds its condition lists, a
`then` list and an optional `else` list. Reading emits the flat stream in that order, so a label resolves
against the blocks that are open at that point of the stream. -/
def readCode (items : List Sexp) : ReadM Code := do
  modify fun s => { s with code := [], labels := [] }
  readInstrs (2 * itemCount items + 2) items
  let code := (← get).code
  pure (code.reverse ++ [.close])

end WasmBoogie.Wasm.Text
