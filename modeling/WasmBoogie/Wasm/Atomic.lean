import WasmBoogie.Wasm.Instr

namespace WasmBoogie.Wasm.Atomic

/-- An atomic memory instruction: its opcode, its name, its access, the value type it moves
and the natural alignment of the memory it touches. -/
structure Entry where
  opcode : Nat
  name : String
  access : AtomicAccess
  t : ValType
  naturalLog2 : Nat
  deriving Repr, Inhabited

/-- The opcode of `atomic.fence`. -/
def fenceOpcode : Nat := 3

/-- The seven accesses, in opcode order: the value type, the width written after the
instruction's kind, and the natural alignment. -/
def widths : List (ValType × String × Nat) :=
  [(.i32, "", 2), (.i64, "", 3), (.i32, "8", 0), (.i32, "16", 1), (.i64, "8", 0), (.i64, "16", 1),
    (.i64, "32", 2)]

/-- The name of an integer type. -/
def typeName (t : ValType) : String :=
  if t == .i64 then "i64" else "i32"

/-- The suffix of an access that reads: `_u` for the narrow widths. -/
def zeroSuffix (width : String) : String :=
  if width.isEmpty then "" else "_u"

/-- The read-modify-write operations, in opcode order. -/
def rmwOps : List String := ["add", "sub", "and", "or", "xor", "xchg", "cmpxchg"]

/-- Every atomic memory access.

Each atomic instruction has a name in the text format and an opcode after the `0xfe` prefix in
the binary format. Loads, stores and read-modify-write instructions come for seven accesses: the
full width of `i32` and of `i64`, and the narrower widths of each, which zero-extend and carry
the suffix `_u` where they read. The read-modify-write operations are `add`, `sub`, `and`, `or`,
`xor`, `xchg` and `cmpxchg`, seven opcodes apart. -/
def entries : List Entry :=
  [⟨0x00, "memory.atomic.notify", .notify, .i32, 2⟩, ⟨0x01, "memory.atomic.wait32", .wait, .i32, 2⟩,
    ⟨0x02, "memory.atomic.wait64", .wait, .i64, 3⟩] ++
  widths.zipIdx.map (fun ((t, w, n), k) =>
    ⟨0x10 + k, typeName t ++ ".atomic.load" ++ w ++ zeroSuffix w, .load, t, n⟩) ++
  widths.zipIdx.map (fun ((t, w, n), k) =>
    ⟨0x17 + k, typeName t ++ ".atomic.store" ++ w, .store, t, n⟩) ++
  rmwOps.zipIdx.flatMap fun (o, j) =>
    widths.zipIdx.map fun ((t, w, n), k) =>
      ⟨0x1e + 7 * j + k, typeName t ++ ".atomic.rmw" ++ w ++ "." ++ o ++ zeroSuffix w,
        if o == "cmpxchg" then .cmpxchg else .rmw, t, n⟩

/-- The atomic access of a name. -/
def byName? (name : String) : Option Entry :=
  entries.find? (·.name == name)

/-- The atomic access of an opcode. -/
def byOpcode? (opcode : Nat) : Option Entry :=
  entries.find? (·.opcode == opcode)

/-- The instruction an entry stands for with its memory immediate. -/
def Entry.op (e : Entry) (arg : MemArg) : Op :=
  .atomic e.access e.t e.naturalLog2 arg

end WasmBoogie.Wasm.Atomic
