import WasmBoogie.Wasm.Code
import WasmBoogie.Wasm.Subtyping

namespace WasmBoogie.Wasm

/-- The kinds of control frames. -/
inductive FrameKind where
  | block | loop | ite | els | func
  deriving Repr, DecidableEq, Inhabited

/-- A control frame: what the block consumes and produces, the operand stack height at its
start, whether its rest is unreachable, and how many locals were set when it opened. -/
structure Frame where
  kind : FrameKind
  params : List ValType
  results : List ValType
  height : Nat
  unreachable : Bool := false
  initHeight : Nat := 0
  deriving Repr, Inhabited

namespace Frame

/-- The types a branch to the frame carries: a loop's parameters, otherwise its results. -/
def labelTypes (f : Frame) : List ValType :=
  if f.kind == .loop then f.params else f.results

end Frame

/-- What checking a body reads: the module and its types, the declared function references, the
types of the locals, and the function's results. -/
structure BodyEnv where
  m : Module
  ctx : TypeContext
  refs : List Nat
  locals : List ValType
  results : List ValType

/-- The type of an operand as the checker knows it: a value type; in unreachable code, a value of
any type; or a reference of unknown heap type, below an abstract heap type when one is given. -/
inductive Operand where
  | val (t : ValType)
  | bottom
  | unknownRef (bound : Option HeapType)
  deriving Repr, DecidableEq, Inhabited

/-- The operand that makes a reference non-null; operands of unknown type stay as they are. -/
def Operand.asNonNull : Operand → Operand
  | .val (.ref _ h) => .val (.ref false h)
  | o => o

/-- The checker's state: operand types (top first), control frames (innermost first) and the
locals known to be set.

Bodies are checked by the operand-stack algorithm of the specification: a stack of operand
types, where code after an unconditional branch may pop values of any type, and a stack of
control frames, one per open block, that fixes the types each block consumes and produces. This
module holds the two stacks, their operations, and the lookups that instructions make into the
module.

An operand popped from the empty stack of unreachable code has any type; once an instruction has
taken it as a reference, it stays a reference of unknown heap type, which numeric instructions
and `select` reject. A conditional branch leaves its operands typed as its label's values. -/
structure BodyState where
  operands : List Operand := []
  frames : List Frame := []
  inits : List Nat := []
  deriving Inhabited

/-- The checking monad. -/
abbrev CheckM := StateT BodyState (Except String)

namespace Check

variable (E : BodyEnv)

/-- Pushes an operand. -/
def push (t : Operand) : CheckM Unit :=
  modify fun s => { s with operands := t :: s.operands }

/-- Pushes an operand of a value type. -/
def pushVal (t : ValType) : CheckM Unit :=
  push (.val t)

/-- Pushes operands of value types in order. -/
def pushAll (ts : List ValType) : CheckM Unit :=
  ts.forM pushVal

/-- The innermost frame. -/
def top : CheckM Frame := do
  match (← get).frames with
  | f :: _ => pure f
  | [] => throw "no open frame"

/-- Pops an operand of any type; in unreachable code an empty frame gives a value of any type. -/
def popAny : CheckM Operand := do
  let f ← top
  let s ← get
  if s.operands.length == f.height then
    if f.unreachable then pure .bottom else throw "type mismatch: operand stack empty"
  else
    match s.operands with
    | t :: rest =>
      set { s with operands := rest }
      pure t
    | [] => throw "type mismatch: operand stack empty"

/-- Pops an operand that must be a subtype of the expected type. A reference of unknown heap type
matches any reference type that its bound, taken non-null, is a subtype of. -/
def pop (expected : ValType) : CheckM Operand := do
  let t ← popAny
  match t, expected with
  | .val actual, _ => if E.ctx.valSub actual expected then pure t else throw "type mismatch"
  | .bottom, _ => pure t
  | .unknownRef none, .ref _ _ => pure t
  | .unknownRef (some h), .ref _ _ =>
    if E.ctx.valSub (.ref false h) expected then pure t else throw "type mismatch"
  | .unknownRef _, _ => throw "type mismatch: expected a number, found a reference"

/-- Pops operands of the given types, the last one first. -/
def popAll (ts : List ValType) : CheckM Unit :=
  ts.reverse.forM fun t => do let _ ← pop E t

/-- Pops a reference of any heap type; a value of any type becomes a reference of unknown heap
type. -/
def popRef : CheckM Operand := do
  match ← popAny with
  | .val (.ref n h) => pure (.val (.ref n h))
  | .val _ => throw "type mismatch: expected a reference"
  | .bottom => pure (.unknownRef none)
  | .unknownRef b => pure (.unknownRef b)

/-- Opens a frame and pushes its parameters. -/
def pushFrame (kind : FrameKind) (params results : List ValType) : CheckM Unit := do
  let s ← get
  set { s with frames := { kind, params, results, height := s.operands.length,
                           initHeight := s.inits.length } :: s.frames }
  pushAll params

/-- Closes the innermost frame: its results must be exactly what is left above its start. -/
def popFrame : CheckM Frame := do
  let f ← top
  popAll E f.results
  let s ← get
  if s.operands.length != f.height then throw "type mismatch: values remaining on stack"
  set { s with frames := s.frames.drop 1, inits := s.inits.take f.initHeight }
  pure f

/-- Marks the rest of the innermost frame unreachable. -/
def markUnreachable : CheckM Unit := do
  let f ← top
  let s ← get
  set { s with operands := s.operands.drop (s.operands.length - f.height),
               frames := { f with unreachable := true } :: s.frames.drop 1 }

/-- The frame a branch of the given depth targets. -/
def frameAt (depth : Nat) : CheckM Frame := do
  match (← get).frames[depth]? with
  | some f => pure f
  | none => throw "unknown label: branch depth too large"

/-- The parameters and results of a block type. -/
def blockSig (bt : BlockType) : CheckM (List ValType × List ValType) :=
  match bt with
  | .empty => pure ([], [])
  | .value t => if E.ctx.valValid t then pure ([], [t]) else throw "invalid block type"
  | .index i => match E.m.funcType? i with
    | some ft => pure (ft.params, ft.results)
    | none => throw "type index is not a function type"

/-- The function type of a type index. -/
def funcTypeAt (i : Nat) : CheckM FuncType :=
  match E.m.funcType? i with
  | some ft => pure ft
  | none => throw "type index out of bounds or not a function type"

/-- The function type of a function index. -/
def funcTypeOf (f : Nat) : CheckM FuncType := do
  match E.m.funcTypes[f]? with
  | some t => funcTypeAt E t
  | none => throw "unknown function"

/-- The type of a local. -/
def localType (i : Nat) : CheckM ValType :=
  match E.locals[i]? with
  | some t => pure t
  | none => throw "unknown local"

/-- The type of a table. -/
def tableType (i : Nat) : CheckM TableType :=
  match E.m.tableTypes[i]? with
  | some t => pure t
  | none => throw "unknown table"

/-- The type of a memory. -/
def memType (i : Nat) : CheckM MemType :=
  match E.m.memTypes[i]? with
  | some t => pure t
  | none => throw "unknown memory"

/-- The parameter types of a tag, imported tags first. -/
def tagParams (i : Nat) : CheckM (List ValType) := do
  match E.m.tagTypes[i]? with
  | some t => pure (← funcTypeAt E t).params
  | none => throw "unknown tag"

/-- The address type of a memory or table. -/
def addrType (addr64 : Bool) : ValType :=
  if addr64 then .i64 else .i32

/-- Checks a memory access's immediate and gives the memory's address type. -/
def memArg (arg : MemArg) (naturalLog2 : Nat) : CheckM ValType := do
  let mt ← memType E arg.memory
  if arg.alignLog2 > naturalLog2 then throw "alignment must not be larger than natural"
  if !mt.addr64 && arg.offset ≥ Nat.pow 2 32 then throw "offset out of range"
  pure (addrType mt.addr64)

/-- Checks an atomic access's immediate, whose alignment must be the natural one, and gives the
memory's address type. -/
def atomicMemArg (arg : MemArg) (naturalLog2 : Nat) : CheckM ValType := do
  if arg.alignLog2 != naturalLog2 then
    throw "atomic instructions must always specify maximum alignment"
  memArg E arg naturalLog2

/-- The number of data segments that instructions may name. -/
def dataCount : CheckM Nat :=
  match E.m.dataCount with
  | some n => pure n
  | none => throw "data count section required"

/-- Checks that a data segment index is known. -/
def dataIndex (d : Nat) : CheckM Unit := do
  if d ≥ (← dataCount E) then throw "unknown data segment"

/-- The element type of an element segment. -/
def elemType (i : Nat) : CheckM ValType :=
  match E.m.elems[i]? with
  | some e => pure e.type
  | none => throw "unknown elem segment"

/-- The fields of a struct type. -/
def structFields (t : Nat) : CheckM (List FieldType) :=
  match E.ctx.comp? t with
  | some (.struct fs) => pure fs
  | _ => throw "expected a struct type"

/-- The element field of an array type. -/
def arrayField (t : Nat) : CheckM FieldType :=
  match E.ctx.comp? t with
  | some (.array f) => pure f
  | _ => throw "expected an array type"

/-- A field of a struct type. -/
def structField (t i : Nat) : CheckM FieldType := do
  match (← structFields E t)[i]? with
  | some f => pure f
  | none => throw "unknown field: field index out of bounds"

/-- Checks that the operands on top have the given types and leaves them in place. -/
def keepOperands (ts : List ValType) : CheckM Unit := do
  let mut popped : List Operand := []
  for t in ts.reverse do
    popped := (← pop E t) :: popped
  for t in popped do
    push t

/-- Checks that the operands on top have the given types and replaces them by values of exactly
those types, as a conditional branch does with the values its label carries. -/
def relabelOperands (ts : List ValType) : CheckM Unit := do
  popAll E ts
  pushAll ts

end Check

end WasmBoogie.Wasm
