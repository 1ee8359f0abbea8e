import WasmBoogie.Wasm.Validate.Stack

namespace WasmBoogie.Wasm

/-- The most values `array.new_fixed` may take. -/
def maxArrayNewFixed : Nat := 10000

namespace Check

variable (E : BodyEnv)

/-- The element field of an array type whose elements may change. -/
def mutableArrayField (t : Nat) : CheckM FieldType := do
  let f ← arrayField E t
  if !f.mutable then throw "array is immutable"
  pure f

/-- Checks that an element segment's references fit an array's reference elements. -/
def elemFits (f : FieldType) (e : Nat) : CheckM Unit := do
  let et ← elemType E e
  match f.storage with
  | .val (.ref _ _) =>
    if !E.ctx.valSub et f.storage.unpacked then throw "type mismatch: element segment"
  | _ => throw "arrays of element segments need reference elements"

/-- The heap type of a cast's reference type, which must name a defined type if any. -/
def castTarget (t : ValType) : CheckM HeapType :=
  match t with
  | .ref _ h => if E.ctx.heapValid h then pure h else throw "unknown type"
  | _ => throw "expected a reference type"

/-- Checks a handler against the label it branches to: the label must carry exactly the
tag's values, then the exception's reference if the handler passes it on. -/
def checkCatch (c : Catch) : CheckM Unit := do
  let f ← frameAt c.label
  let values ← match c.tag with
    | some t => tagParams E t
    | none => pure []
  let values := if c.withRef then values ++ [.ref false .exn] else values
  if !E.ctx.valsSub values f.labelTypes then throw "type mismatch: catch label"

mutual

/-- Checks one instruction.

Each instruction pops the operands its type asks for, checks its immediates against the module,
and pushes its results. Blocks open a frame for their body; branches check the operands their
target frame carries; instructions that never fall through make the rest of their frame
unreachable. A handler of a `try_table` branches to a label outside it with the tag's values,
and with the exception's reference when it asks for one. -/
def op : Op → CheckM Unit
  | .unreachable => markUnreachable
  | .nop => pure ()
  | .block bt body => do
    let (ps, rs) ← blockSig E bt
    popAll E ps
    pushFrame .block ps rs
    ops body
    let f ← popFrame E
    pushAll f.results
  | .loop bt body => do
    let (ps, rs) ← blockSig E bt
    popAll E ps
    pushFrame .loop ps rs
    ops body
    let f ← popFrame E
    pushAll f.results
  | .ite bt thenBody elseBody => do
    let (ps, rs) ← blockSig E bt
    let _ ← pop E .i32
    popAll E ps
    pushFrame .ite ps rs
    ops thenBody
    let _ ← popFrame E
    pushFrame .els ps rs
    match elseBody with
    | some b => ops b
    | none => pure ()
    let f ← popFrame E
    pushAll f.results
  | .tryTable bt catches body => do
    let (ps, rs) ← blockSig E bt
    popAll E ps
    catches.forM (checkCatch E)
    pushFrame .block ps rs
    ops body
    let f ← popFrame E
    pushAll f.results
  | .br l => do
    let f ← frameAt l
    popAll E f.labelTypes
    markUnreachable
  | .brIf l => do
    let _ ← pop E .i32
    let f ← frameAt l
    relabelOperands E f.labelTypes
  | .brTable ls d => do
    let _ ← pop E .i32
    let df ← frameAt d
    let arity := df.labelTypes.length
    for l in ls do
      let f ← frameAt l
      if f.labelTypes.length != arity then throw "br_table targets have different arities"
      keepOperands E f.labelTypes
    popAll E df.labelTypes
    markUnreachable
  | .ret => do
    popAll E E.results
    markUnreachable
  | .call f => do
    let ft ← funcTypeOf E f
    popAll E ft.params
    pushAll ft.results
  | .callIndirect t ty => do
    let tt ← tableType E t
    if !E.ctx.valSub tt.elem ValType.funcRef then throw "indirect calls need a funcref table"
    let ft ← funcTypeAt E ty
    let _ ← pop E (addrType tt.addr64)
    popAll E ft.params
    pushAll ft.results
  | .returnCall f => do
    let ft ← funcTypeOf E f
    if !(ft.results.length == E.results.length &&
        (ft.results.zip E.results).all fun (a, b) => E.ctx.valSub a b) then
      throw "type mismatch: return_call results"
    popAll E ft.params
    markUnreachable
  | .returnCallIndirect t ty => do
    let tt ← tableType E t
    if !E.ctx.valSub tt.elem ValType.funcRef then throw "indirect calls need a funcref table"
    let ft ← funcTypeAt E ty
    if !(ft.results.length == E.results.length &&
        (ft.results.zip E.results).all fun (a, b) => E.ctx.valSub a b) then
      throw "type mismatch: return_call_indirect results"
    let _ ← pop E (addrType tt.addr64)
    popAll E ft.params
    markUnreachable
  | .callRef ty => do
    let ft ← funcTypeAt E ty
    let _ ← pop E (.ref true (.concrete ty))
    popAll E ft.params
    pushAll ft.results
  | .returnCallRef ty => do
    let ft ← funcTypeAt E ty
    let _ ← pop E (.ref true (.concrete ty))
    popAll E ft.params
    markUnreachable
  | .throw t => do
    popAll E (← tagParams E t)
    markUnreachable
  | .throwRef => do
    let _ ← pop E (.ref true .exn)
    markUnreachable
  | .drop => do let _ ← popAny
  | .select none => do
    let _ ← pop E .i32
    let a ← popAny
    let b ← popAny
    match a, b with
    | .unknownRef _, _ | _, .unknownRef _ | .val (.ref _ _), _ | _, .val (.ref _ _) =>
      throw "type mismatch: select only takes numbers"
    | .bottom, t | t, .bottom => push t
    | .val x, .val y => if x == y then pushVal x else throw "type mismatch: select operands"
  | .select (some ts) => do
    match ts with
    | [t] =>
      if !E.ctx.valValid t then throw "invalid select type"
      let _ ← pop E .i32
      let _ ← pop E t
      let _ ← pop E t
      pushVal (t)
    | _ => throw "invalid result arity"
  | .localGet i => do
    let t ← localType E i
    if !t.isDefaultable && !(← get).inits.contains i then throw "uninitialized local"
    pushVal (t)
  | .localSet i => do
    let t ← localType E i
    let _ ← pop E t
    modify fun s => { s with inits := s.inits ++ [i] }
  | .localTee i => do
    let t ← localType E i
    let _ ← pop E t
    modify fun s => { s with inits := s.inits ++ [i] }
    pushVal (t)
  | .globalGet i => do
    match E.m.globalTypes[i]? with
    | some g => pushVal (g.type)
    | none => throw "unknown global"
  | .globalSet i => do
    match E.m.globalTypes[i]? with
    | some g =>
      if !g.mutable then throw "global is immutable"
      let _ ← pop E g.type
    | none => throw "unknown global"
  | .tableGet t => do
    let tt ← tableType E t
    let _ ← pop E (addrType tt.addr64)
    pushVal (tt.elem)
  | .tableSet t => do
    let tt ← tableType E t
    let _ ← pop E tt.elem
    let _ ← pop E (addrType tt.addr64)
  | .tableSize t => do
    let tt ← tableType E t
    pushVal ((addrType tt.addr64))
  | .tableGrow t => do
    let tt ← tableType E t
    let _ ← pop E (addrType tt.addr64)
    let _ ← pop E tt.elem
    pushVal ((addrType tt.addr64))
  | .tableFill t => do
    let tt ← tableType E t
    let _ ← pop E (addrType tt.addr64)
    let _ ← pop E tt.elem
    let _ ← pop E (addrType tt.addr64)
  | .tableCopy d s => do
    let dt ← tableType E d
    let st ← tableType E s
    if !E.ctx.valSub st.elem dt.elem then throw "type mismatch: table.copy"
    let len := if dt.addr64 && st.addr64 then ValType.i64 else .i32
    let _ ← pop E len
    let _ ← pop E (addrType st.addr64)
    let _ ← pop E (addrType dt.addr64)
  | .tableInit t e => do
    let tt ← tableType E t
    let et ← elemType E e
    if !E.ctx.valSub et tt.elem then throw "type mismatch: table.init"
    let _ ← pop E .i32
    let _ ← pop E .i32
    let _ ← pop E (addrType tt.addr64)
  | .elemDrop e => do let _ ← elemType E e
  | .load t n arg => do
    let a ← memArg E arg n
    let _ ← pop E a
    pushVal (t)
  | .store t n arg => do
    let a ← memArg E arg n
    let _ ← pop E t
    let _ ← pop E a
  | .loadLane n arg lane => do
    let a ← memArg E arg n
    if lane ≥ 16 / Nat.pow 2 n then throw "invalid lane index"
    let _ ← pop E .v128
    let _ ← pop E a
    pushVal (.v128)
  | .storeLane n arg lane => do
    let a ← memArg E arg n
    if lane ≥ 16 / Nat.pow 2 n then throw "invalid lane index"
    let _ ← pop E .v128
    let _ ← pop E a
  | .atomic access t n arg => do
    let a ← atomicMemArg E arg n
    match access with
    | .load =>
      let _ ← pop E a
      pushVal (t)
    | .store =>
      let _ ← pop E t
      let _ ← pop E a
    | .rmw =>
      let _ ← pop E t
      let _ ← pop E a
      pushVal (t)
    | .cmpxchg =>
      let _ ← pop E t
      let _ ← pop E t
      let _ ← pop E a
      pushVal (t)
    | .notify =>
      let _ ← pop E .i32
      let _ ← pop E a
      pushVal (.i32)
    | .wait =>
      let _ ← pop E .i64
      let _ ← pop E t
      let _ ← pop E a
      pushVal (.i32)
  | .atomicFence => pure ()
  | .memorySize i => do
    let mt ← memType E i
    pushVal ((addrType mt.addr64))
  | .memoryGrow i => do
    let mt ← memType E i
    let _ ← pop E (addrType mt.addr64)
    pushVal ((addrType mt.addr64))
  | .memoryFill i => do
    let mt ← memType E i
    let _ ← pop E (addrType mt.addr64)
    let _ ← pop E .i32
    let _ ← pop E (addrType mt.addr64)
  | .memoryCopy d s => do
    let dt ← memType E d
    let st ← memType E s
    let len := if dt.addr64 && st.addr64 then ValType.i64 else .i32
    let _ ← pop E len
    let _ ← pop E (addrType st.addr64)
    let _ ← pop E (addrType dt.addr64)
  | .memoryInit i d => do
    let mt ← memType E i
    dataIndex E d
    let _ ← pop E .i32
    let _ ← pop E .i32
    let _ ← pop E (addrType mt.addr64)
  | .dataDrop d => dataIndex E d
  | .const t => pushVal (t)
  | .intArith t => do
    popAll E [t, t]
    pushVal (t)
  | .numeric ps rs => do
    popAll E ps
    pushAll rs
  | .lane count index ps rs => do
    if index ≥ count then throw "invalid lane index"
    popAll E ps
    pushAll rs
  | .shuffle lanes => do
    if lanes.any (· ≥ 32) then throw "invalid lane index"
    popAll E [.v128, .v128]
    pushVal (.v128)
  | .refNull h => do
    if !E.ctx.heapValid h then throw "unknown type"
    pushVal ((.ref true h))
  | .refIsNull => do
    let _ ← popRef
    pushVal (.i32)
  | .refFunc f => do
    match E.m.funcTypes[f]? with
    | some t =>
      if !E.refs.contains f then throw "undeclared function reference"
      pushVal ((.ref false (.concrete t)))
    | none => throw "unknown function"
  | .refAsNonNull => do
    push (← popRef).asNonNull
  | .refEq => do
    let _ ← pop E (.ref true .eq)
    let _ ← pop E (.ref true .eq)
    pushVal (.i32)
  | .brOnNull l => do
    let f ← frameAt l
    let r ← popRef
    relabelOperands E f.labelTypes
    push r.asNonNull
  | .brOnNonNull l => do
    let f ← frameAt l
    match f.labelTypes.reverse with
    | .ref _ h :: others =>
      let _ ← pop E (.ref true h)
      relabelOperands E others.reverse
    | _ :: _ => throw "type mismatch: br_on_non_null target does not end with a reference"
    | [] => throw "type mismatch: br_on_non_null target has no label types"

  | .structNew t => do
    let fs ← structFields E t
    popAll E (fs.map (·.storage.unpacked))
    pushVal ((.ref false (.concrete t)))
  | .structNewDefault t => do
    let fs ← structFields E t
    if !fs.all (·.storage.isDefaultable) then throw "field type is not defaultable"
    pushVal ((.ref false (.concrete t)))
  | .structGet extend t i => do
    let f ← structField E t i
    if extend != f.storage.isPacked then throw "packed storage needs a signed or unsigned read"
    let _ ← pop E (.ref true (.concrete t))
    pushVal (f.storage.unpacked)
  | .structSet t i => do
    let f ← structField E t i
    if !f.mutable then throw "field is immutable"
    let _ ← pop E f.storage.unpacked
    let _ ← pop E (.ref true (.concrete t))
  | .arrayNew t => do
    let f ← arrayField E t
    let _ ← pop E .i32
    let _ ← pop E f.storage.unpacked
    pushVal ((.ref false (.concrete t)))
  | .arrayNewDefault t => do
    let f ← arrayField E t
    if !f.storage.isDefaultable then throw "field type is not defaultable"
    let _ ← pop E .i32
    pushVal ((.ref false (.concrete t)))
  | .arrayNewFixed t n => do
    let f ← arrayField E t
    if n > maxArrayNewFixed then throw "array.new_fixed arity is too large"
    popAll E (List.replicate n f.storage.unpacked)
    pushVal ((.ref false (.concrete t)))
  | .arrayNewData t d => do
    let f ← arrayField E t
    if !f.storage.isNumeric then throw "array.new_data needs numeric elements"
    dataIndex E d
    popAll E [.i32, .i32]
    pushVal ((.ref false (.concrete t)))
  | .arrayNewElem t e => do
    let f ← arrayField E t
    elemFits E f e
    popAll E [.i32, .i32]
    pushVal ((.ref false (.concrete t)))
  | .arrayGet extend t => do
    let f ← arrayField E t
    if extend != f.storage.isPacked then throw "packed storage needs a signed or unsigned read"
    popAll E [.ref true (.concrete t), .i32]
    pushVal (f.storage.unpacked)
  | .arraySet t => do
    let f ← mutableArrayField E t
    popAll E [.ref true (.concrete t), .i32, f.storage.unpacked]
  | .arrayLen => do
    let _ ← pop E (.ref true .array)
    pushVal (.i32)
  | .arrayFill t => do
    let f ← mutableArrayField E t
    popAll E [.ref true (.concrete t), .i32, f.storage.unpacked, .i32]
  | .arrayCopy d s => do
    let fd ← mutableArrayField E d
    let fs ← arrayField E s
    if !E.ctx.storageSub fs.storage fd.storage then throw "type mismatch: array.copy"
    popAll E [.ref true (.concrete d), .i32, .ref true (.concrete s), .i32, .i32]
  | .arrayInitData t d => do
    let f ← mutableArrayField E t
    if !f.storage.isNumeric then throw "array.init_data needs numeric elements"
    dataIndex E d
    popAll E [.ref true (.concrete t), .i32, .i32, .i32]
  | .arrayInitElem t e => do
    let f ← mutableArrayField E t
    elemFits E f e
    popAll E [.ref true (.concrete t), .i32, .i32, .i32]
  | .refTest t => do
    let h ← castTarget E t
    let _ ← pop E (.ref true (E.ctx.top h))
    pushVal (.i32)
  | .refCast t => do
    let h ← castTarget E t
    let _ ← pop E (.ref true (E.ctx.top h))
    pushVal (t)
  | .brOnCast onFail l source target => do
    let _ ← castTarget E source
    let _ ← castTarget E target
    if !E.ctx.valSub target source then throw "type mismatch: cast target outside its source"
    let f ← frameAt l
    let rest := match source, target with
      | .ref n1 h1, .ref n2 _ => ValType.ref (n1 && !n2) h1
      | _, _ => source
    let (taken, stays) := if onFail then (rest, target) else (target, rest)
    match f.labelTypes.reverse with
    | last :: others =>
      if !E.ctx.valSub taken last then throw "type mismatch: cast result and label"
      let _ ← pop E source
      relabelOperands E others.reverse
      pushVal stays
    | [] => throw "type mismatch: cast to a label without a reference result"
  | .anyConvertExtern => do
    match ← pop E (.ref true .external) with
    | .val (.ref n _) => pushVal (.ref n .any)
    | _ => push (.unknownRef (some .any))
  | .externConvertAny => do
    match ← pop E (.ref true .any) with
    | .val (.ref n _) => pushVal (.ref n .external)
    | _ => push (.unknownRef (some .external))
  | .refI31 => do
    let _ ← pop E .i32
    pushVal ((.ref false .i31))
  | .i31Get => do
    let _ ← pop E (.ref true .i31)
    pushVal (.i32)
  | .unsupported => throw "instruction of a proposal that is not enabled"

/-- Checks instructions in order. -/
def ops : List Op → CheckM Unit
  | [] => pure ()
  | o :: rest => do
    op o
    ops rest

end

end Check

end WasmBoogie.Wasm
