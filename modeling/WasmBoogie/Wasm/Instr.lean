import WasmBoogie.Wasm.Types

namespace WasmBoogie.Wasm

/-- Instructions, with what validation needs of them. -/
inductive Op where
  | unreachable
  | nop
  | block (bt : BlockType) (body : List Op)
  | loop (bt : BlockType) (body : List Op)
  | ite (bt : BlockType) (thenBody : List Op) (elseBody : Option (List Op))
  /-- A block whose body's exceptions go to its handlers. -/
  | tryTable (bt : BlockType) (catches : List Catch) (body : List Op)
  | br (label : Nat)
  | brIf (label : Nat)
  | brTable (labels : List Nat) (default : Nat)
  | ret
  | call (func : Nat)
  | callIndirect (table : Nat) (type : Nat)
  | returnCall (func : Nat)
  | returnCallIndirect (table : Nat) (type : Nat)
  | callRef (type : Nat)
  | returnCallRef (type : Nat)
  | throw (tag : Nat)
  | throwRef
  | drop
  /-- A select, with its result types if they are written. -/
  | select (types : Option (List ValType))
  | localGet (idx : Nat)
  | localSet (idx : Nat)
  | localTee (idx : Nat)
  | globalGet (idx : Nat)
  | globalSet (idx : Nat)
  | tableGet (table : Nat)
  | tableSet (table : Nat)
  | tableSize (table : Nat)
  | tableGrow (table : Nat)
  | tableFill (table : Nat)
  | tableCopy (dst src : Nat)
  | tableInit (table elem : Nat)
  | elemDrop (elem : Nat)
  /-- A load of a value type, with the access's natural alignment as a power of two. -/
  | load (t : ValType) (naturalLog2 : Nat) (arg : MemArg)
  | store (t : ValType) (naturalLog2 : Nat) (arg : MemArg)
  /-- A load of one lane of a vector, which also pops the vector to change. -/
  | loadLane (naturalLog2 : Nat) (arg : MemArg) (lane : Nat)
  | storeLane (naturalLog2 : Nat) (arg : MemArg) (lane : Nat)
  /-- An atomic access of a value type; its alignment must be the natural one. -/
  | atomic (access : AtomicAccess) (t : ValType) (naturalLog2 : Nat) (arg : MemArg)
  | atomicFence
  | memorySize (memory : Nat)
  | memoryGrow (memory : Nat)
  | memoryFill (memory : Nat)
  | memoryCopy (dst src : Nat)
  | memoryInit (memory data : Nat)
  | dataDrop (data : Nat)
  | const (t : ValType)
  /-- An instruction that pops and pushes fixed types and does nothing else to validation. -/
  | numeric (params results : List ValType)
  /-- Integer addition, subtraction or multiplication, which constant expressions may use. -/
  | intArith (t : ValType)
  /-- A vector instruction on one lane of `count`, which pops and pushes fixed types. -/
  | lane (count index : Nat) (params results : List ValType)
  /-- A shuffle of two vectors' bytes, by the indices of the lanes it picks. -/
  | shuffle (lanes : List Nat)
  | refNull (heap : HeapType)
  | refIsNull
  | refFunc (func : Nat)
  | refAsNonNull
  | refEq
  | brOnNull (label : Nat)
  | brOnNonNull (label : Nat)
  | structNew (type : Nat)
  | structNewDefault (type : Nat)
  /-- A read of a struct field; `extend` reads a packed field with a sign or zero extension. -/
  | structGet (extend : Bool) (type field : Nat)
  | structSet (type field : Nat)
  | arrayNew (type : Nat)
  | arrayNewDefault (type : Nat)
  | arrayNewFixed (type count : Nat)
  | arrayNewData (type data : Nat)
  | arrayNewElem (type elem : Nat)
  | arrayGet (extend : Bool) (type : Nat)
  | arraySet (type : Nat)
  | arrayLen
  | arrayFill (type : Nat)
  | arrayCopy (dst src : Nat)
  | arrayInitData (type data : Nat)
  | arrayInitElem (type elem : Nat)
  /-- A test whether a reference has a reference type. -/
  | refTest (t : ValType)
  | refCast (t : ValType)
  /-- A branch taken when a cast from `source` to `target` succeeds, or when it fails. -/
  | brOnCast (onFail : Bool) (label : Nat) (source target : ValType)
  | anyConvertExtern
  | externConvertAny
  | refI31
  | i31Get
  /-- An instruction of a proposal that validation does not accept: the first design of
  exception handling (`try`, `catch`, `rethrow`, `delegate`) and wide arithmetic. -/
  | unsupported
  deriving Repr, Inhabited

/-- An instruction of a flat stream, as the binary format and the flat text syntax write
code: `block`, `loop`, `if` and `try_table` open a construct, `else` switches an `if` to its
second arm, and `end` closes the innermost construct.

Every reference is an index. Instructions keep only what validation needs: the structure of
blocks, the indices they refer to, and for plain numeric and vector instructions the types they
pop and push. Code is kept as the flat stream that both the binary format and the flat text
syntax write. -/
inductive Instr where
  /-- An instruction with no body. -/
  | plain (o : Op)
  | block (bt : BlockType)
  | loop (bt : BlockType)
  | ite (bt : BlockType)
  | tryTable (bt : BlockType) (catches : List Catch)
  /-- The start of the second arm of an `if`. -/
  | otherwise
  /-- The end of the innermost construct. -/
  | close
  deriving Repr, Inhabited

/-- Code as a flat stream: a function body or constant expression, closed by its own `end`. -/
abbrev Code := List Instr

end WasmBoogie.Wasm
