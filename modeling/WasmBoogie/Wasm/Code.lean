import WasmBoogie.Wasm.Instr

namespace WasmBoogie.Wasm

/-- A construct that is open while nesting a stream. -/
inductive OpenShape where
  /-- The whole body. -/
  | body
  | block (bt : BlockType)
  | loop (bt : BlockType)
  | tryTable (bt : BlockType) (catches : List Catch)
  | thenArm (bt : BlockType)
  | elseArm (bt : BlockType) (thenBody : List Op)
  deriving Repr, Inhabited

/-- An open construct and the instructions read into it so far, the last one first. -/
structure Open where
  shape : OpenShape
  ops : List Op
  deriving Repr, Inhabited

/-- The instruction an open construct becomes when it closes, or nothing for the body. -/
def Open.finish (o : Open) : Option Op :=
  match o.shape with
  | .body => none
  | .block bt => some (.block bt o.ops.reverse)
  | .loop bt => some (.loop bt o.ops.reverse)
  | .tryTable bt cs => some (.tryTable bt cs o.ops.reverse)
  | .thenArm bt => some (.ite bt o.ops.reverse none)
  | .elseArm bt t => some (.ite bt t (some o.ops.reverse))

/-- Adds an instruction to the innermost open construct. -/
def addOp (o : Op) : List Open → List Open
  | top :: rest => { top with ops := o :: top.ops } :: rest
  | [] => []

/-- Nests the rest of a stream under the given open constructs, innermost first. The body is
done when its own `end` is read, and nothing may follow it. -/
def nestWith : List Open → List Instr → Except String (List Op)
  | [], _ => .error "operators remaining after end of function"
  | _ :: _, [] => .error "control frames remain at end of function"
  | stack, .plain o :: rest => nestWith (addOp o stack) rest
  | stack, .block bt :: rest => nestWith (⟨.block bt, []⟩ :: stack) rest
  | stack, .loop bt :: rest => nestWith (⟨.loop bt, []⟩ :: stack) rest
  | stack, .tryTable bt cs :: rest => nestWith (⟨.tryTable bt cs, []⟩ :: stack) rest
  | stack, .ite bt :: rest => nestWith (⟨.thenArm bt, []⟩ :: stack) rest
  | top :: outer, .otherwise :: rest =>
    match top.shape with
    | .thenArm bt => nestWith (⟨.elseArm bt top.ops.reverse, []⟩ :: outer) rest
    | _ => .error "else found outside of an if block"
  | top :: outer, .close :: rest =>
    match top.finish, outer with
    | some o, _ => nestWith (addOp o outer) rest
    | none, _ =>
      if rest.isEmpty then .ok top.ops.reverse
      else .error "operators remaining after end of function"

/-- Nests a stream that ends with the `end` of its body.

Both the binary format and the flat text syntax write structured instructions as a stream in
which `block`, `loop`, `if` and `try_table` open a construct, `else` switches an `if` to its
second arm, and `end` closes the innermost construct. A function body or constant expression is such a stream
closed by one last `end`. Nesting reads the stream left to right with a stack of open
constructs, so it is structural recursion on the stream. -/
def nest (code : Code) : Except String (List Op) :=
  nestWith [⟨.body, []⟩] code

end WasmBoogie.Wasm
