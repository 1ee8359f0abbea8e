import WasmBoogie.Wasm.Instr

namespace WasmBoogie.Wasm.Vector

/-- The immediates a vector instruction takes and what it does to the operand stack. -/
inductive Form where
  /-- No immediates; pops and pushes fixed types. -/
  | plain (params results : List ValType)
  /-- A load of a vector, with the natural alignment of the memory it reads. -/
  | load (naturalLog2 : Nat)
  | store
  /-- A load of one lane from memory, with the lane's natural alignment. -/
  | loadLane (naturalLog2 : Nat)
  | storeLane (naturalLog2 : Nat)
  /-- A lane index among `count` lanes; pops and pushes fixed types. -/
  | lane (count : Nat) (params results : List ValType)
  | const
  | shuffle
  deriving Repr, Inhabited

/-- A vector instruction: its opcode, its name and its form. -/
structure Entry where
  opcode : Nat
  name : String
  form : Form
  deriving Repr, Inhabited

/-- One vector operand, one vector result. -/
def unary : Form := .plain [.v128] [.v128]

/-- Two vector operands, one vector result. -/
def binary : Form := .plain [.v128, .v128] [.v128]

/-- Three vector operands, one vector result. -/
def ternary : Form := .plain [.v128, .v128, .v128] [.v128]

/-- One vector operand, an `i32` result. -/
def test : Form := .plain [.v128] [.i32]

/-- A vector and a shift count, one vector result. -/
def shift : Form := .plain [.v128, .i32] [.v128]

/-- Entries named with a shape prefix. -/
def shaped (shape : String) (items : List (Nat × String × Form)) : List Entry :=
  items.map fun (op, n, f) => ⟨op, shape ++ "." ++ n, f⟩

/-- Entries at consecutive opcodes from `start`, all of one form. -/
def run (start : Nat) (shape : String) (names : List String) (f : Form) : List Entry :=
  names.zipIdx.map fun (n, i) => ⟨start + i, shape ++ "." ++ n, f⟩

/-- The integer comparisons of a shape, in opcode order. -/
def intCompares : List String :=
  ["eq", "ne", "lt_s", "lt_u", "gt_s", "gt_u", "le_s", "le_u", "ge_s", "ge_u"]

/-- The float comparisons of a shape, in opcode order. -/
def floatCompares : List String := ["eq", "ne", "lt", "gt", "le", "ge"]

/-- Memory accesses, constants, shuffles, splats and lane instructions. -/
def accessEntries : List Entry :=
  shaped "v128" [(0, "load", .load 4), (1, "load8x8_s", .load 3), (2, "load8x8_u", .load 3),
    (3, "load16x4_s", .load 3), (4, "load16x4_u", .load 3), (5, "load32x2_s", .load 3),
    (6, "load32x2_u", .load 3), (7, "load8_splat", .load 0), (8, "load16_splat", .load 1),
    (9, "load32_splat", .load 2), (10, "load64_splat", .load 3), (11, "store", .store),
    (12, "const", .const), (84, "load8_lane", .loadLane 0), (85, "load16_lane", .loadLane 1),
    (86, "load32_lane", .loadLane 2), (87, "load64_lane", .loadLane 3),
    (88, "store8_lane", .storeLane 0), (89, "store16_lane", .storeLane 1),
    (90, "store32_lane", .storeLane 2), (91, "store64_lane", .storeLane 3),
    (92, "load32_zero", .load 2), (93, "load64_zero", .load 3)] ++
  shaped "i8x16" [(13, "shuffle", .shuffle), (14, "swizzle", binary),
    (15, "splat", .plain [.i32] [.v128]),
    (21, "extract_lane_s", .lane 16 [.v128] [.i32]), (22, "extract_lane_u", .lane 16 [.v128] [.i32]),
    (23, "replace_lane", .lane 16 [.v128, .i32] [.v128])] ++
  shaped "i16x8" [(16, "splat", .plain [.i32] [.v128]),
    (24, "extract_lane_s", .lane 8 [.v128] [.i32]), (25, "extract_lane_u", .lane 8 [.v128] [.i32]),
    (26, "replace_lane", .lane 8 [.v128, .i32] [.v128])] ++
  shaped "i32x4" [(17, "splat", .plain [.i32] [.v128]),
    (27, "extract_lane", .lane 4 [.v128] [.i32]), (28, "replace_lane", .lane 4 [.v128, .i32] [.v128])] ++
  shaped "i64x2" [(18, "splat", .plain [.i64] [.v128]),
    (29, "extract_lane", .lane 2 [.v128] [.i64]), (30, "replace_lane", .lane 2 [.v128, .i64] [.v128])] ++
  shaped "f32x4" [(19, "splat", .plain [.f32] [.v128]),
    (31, "extract_lane", .lane 4 [.v128] [.f32]), (32, "replace_lane", .lane 4 [.v128, .f32] [.v128])] ++
  shaped "f64x2" [(20, "splat", .plain [.f64] [.v128]),
    (33, "extract_lane", .lane 2 [.v128] [.f64]), (34, "replace_lane", .lane 2 [.v128, .f64] [.v128])]

/-- Comparisons and bitwise instructions. -/
def compareEntries : List Entry :=
  run 35 "i8x16" intCompares binary ++ run 45 "i16x8" intCompares binary ++
  run 55 "i32x4" intCompares binary ++ run 65 "f32x4" floatCompares binary ++
  run 71 "f64x2" floatCompares binary ++
  shaped "v128" [(77, "not", unary), (78, "and", binary), (79, "andnot", binary),
    (80, "or", binary), (81, "xor", binary), (82, "bitselect", ternary), (83, "any_true", test)]

/-- Integer lane arithmetic, and the float rounding instructions between them. -/
def intEntries : List Entry :=
  shaped "i8x16" [(96, "abs", unary), (97, "neg", unary), (98, "popcnt", unary),
    (99, "all_true", test), (100, "bitmask", test), (101, "narrow_i16x8_s", binary),
    (102, "narrow_i16x8_u", binary), (107, "shl", shift), (108, "shr_s", shift),
    (109, "shr_u", shift), (110, "add", binary), (111, "add_sat_s", binary),
    (112, "add_sat_u", binary), (113, "sub", binary), (114, "sub_sat_s", binary),
    (115, "sub_sat_u", binary), (118, "min_s", binary), (119, "min_u", binary),
    (120, "max_s", binary), (121, "max_u", binary), (123, "avgr_u", binary)] ++
  shaped "i16x8" [(124, "extadd_pairwise_i8x16_s", unary), (125, "extadd_pairwise_i8x16_u", unary),
    (128, "abs", unary), (129, "neg", unary), (130, "q15mulr_sat_s", binary),
    (131, "all_true", test), (132, "bitmask", test), (133, "narrow_i32x4_s", binary),
    (134, "narrow_i32x4_u", binary), (135, "extend_low_i8x16_s", unary),
    (136, "extend_high_i8x16_s", unary), (137, "extend_low_i8x16_u", unary),
    (138, "extend_high_i8x16_u", unary), (139, "shl", shift), (140, "shr_s", shift),
    (141, "shr_u", shift), (142, "add", binary), (143, "add_sat_s", binary),
    (144, "add_sat_u", binary), (145, "sub", binary), (146, "sub_sat_s", binary),
    (147, "sub_sat_u", binary), (149, "mul", binary), (150, "min_s", binary),
    (151, "min_u", binary), (152, "max_s", binary), (153, "max_u", binary),
    (155, "avgr_u", binary), (156, "extmul_low_i8x16_s", binary),
    (157, "extmul_high_i8x16_s", binary), (158, "extmul_low_i8x16_u", binary),
    (159, "extmul_high_i8x16_u", binary)] ++
  shaped "i32x4" [(126, "extadd_pairwise_i16x8_s", unary), (127, "extadd_pairwise_i16x8_u", unary),
    (160, "abs", unary), (161, "neg", unary), (163, "all_true", test), (164, "bitmask", test),
    (167, "extend_low_i16x8_s", unary), (168, "extend_high_i16x8_s", unary),
    (169, "extend_low_i16x8_u", unary), (170, "extend_high_i16x8_u", unary),
    (171, "shl", shift), (172, "shr_s", shift), (173, "shr_u", shift), (174, "add", binary),
    (177, "sub", binary), (181, "mul", binary), (182, "min_s", binary), (183, "min_u", binary),
    (184, "max_s", binary), (185, "max_u", binary), (186, "dot_i16x8_s", binary),
    (188, "extmul_low_i16x8_s", binary), (189, "extmul_high_i16x8_s", binary),
    (190, "extmul_low_i16x8_u", binary), (191, "extmul_high_i16x8_u", binary)] ++
  shaped "i64x2" [(192, "abs", unary), (193, "neg", unary), (195, "all_true", test),
    (196, "bitmask", test), (199, "extend_low_i32x4_s", unary),
    (200, "extend_high_i32x4_s", unary), (201, "extend_low_i32x4_u", unary),
    (202, "extend_high_i32x4_u", unary), (203, "shl", shift), (204, "shr_s", shift),
    (205, "shr_u", shift), (206, "add", binary), (209, "sub", binary), (213, "mul", binary),
    (214, "eq", binary), (215, "ne", binary), (216, "lt_s", binary), (217, "gt_s", binary),
    (218, "le_s", binary), (219, "ge_s", binary), (220, "extmul_low_i32x4_s", binary),
    (221, "extmul_high_i32x4_s", binary), (222, "extmul_low_i32x4_u", binary),
    (223, "extmul_high_i32x4_u", binary)]

/-- Float lane arithmetic and the conversions between lane types. -/
def floatEntries : List Entry :=
  shaped "f32x4" [(103, "ceil", unary), (104, "floor", unary), (105, "trunc", unary),
    (106, "nearest", unary), (224, "abs", unary), (225, "neg", unary), (227, "sqrt", unary),
    (228, "add", binary), (229, "sub", binary), (230, "mul", binary), (231, "div", binary),
    (232, "min", binary), (233, "max", binary), (234, "pmin", binary), (235, "pmax", binary),
    (94, "demote_f64x2_zero", unary), (250, "convert_i32x4_s", unary),
    (251, "convert_i32x4_u", unary)] ++
  shaped "f64x2" [(116, "ceil", unary), (117, "floor", unary), (122, "trunc", unary),
    (148, "nearest", unary), (236, "abs", unary), (237, "neg", unary), (239, "sqrt", unary),
    (240, "add", binary), (241, "sub", binary), (242, "mul", binary), (243, "div", binary),
    (244, "min", binary), (245, "max", binary), (246, "pmin", binary), (247, "pmax", binary),
    (95, "promote_low_f32x4", unary), (254, "convert_low_i32x4_s", unary),
    (255, "convert_low_i32x4_u", unary)] ++
  shaped "i32x4" [(248, "trunc_sat_f32x4_s", unary), (249, "trunc_sat_f32x4_u", unary),
    (252, "trunc_sat_f64x2_s_zero", unary), (253, "trunc_sat_f64x2_u_zero", unary)]

/-- The relaxed instructions, whose results may depend on the machine. -/
def relaxedEntries : List Entry :=
  shaped "i8x16" [(0x100, "relaxed_swizzle", binary), (0x109, "relaxed_laneselect", ternary)] ++
  shaped "i32x4" [(0x101, "relaxed_trunc_f32x4_s", unary), (0x102, "relaxed_trunc_f32x4_u", unary),
    (0x103, "relaxed_trunc_f64x2_s_zero", unary), (0x104, "relaxed_trunc_f64x2_u_zero", unary),
    (0x10b, "relaxed_laneselect", ternary), (0x113, "relaxed_dot_i8x16_i7x16_add_s", ternary)] ++
  shaped "f32x4" [(0x105, "relaxed_madd", ternary), (0x106, "relaxed_nmadd", ternary),
    (0x10d, "relaxed_min", binary), (0x10e, "relaxed_max", binary)] ++
  shaped "f64x2" [(0x107, "relaxed_madd", ternary), (0x108, "relaxed_nmadd", ternary),
    (0x10f, "relaxed_min", binary), (0x110, "relaxed_max", binary)] ++
  shaped "i16x8" [(0x10a, "relaxed_laneselect", ternary), (0x111, "relaxed_q15mulr_s", binary),
    (0x112, "relaxed_dot_i8x16_i7x16_s", binary)] ++
  shaped "i64x2" [(0x10c, "relaxed_laneselect", ternary)]

/-- Every vector instruction.

Each vector instruction has a name in the text format and an opcode after the `0xfd` prefix in
the binary format, and one of a few forms: no immediates and fixed operand and result types, a
memory access, an access to one lane of memory, a lane index, a constant, or a shuffle. Names
are `shape.op`, where the shape `i8x16`, `i16x8`, `i32x4`, `i64x2`, `f32x4` or `f64x2` reads the
128 bits as lanes, and `v128` reads them as bits. -/
def entries : List Entry :=
  accessEntries ++ compareEntries ++ intEntries ++ floatEntries ++ relaxedEntries

/-- The vector instruction of a name. -/
def byName? (name : String) : Option Entry :=
  entries.find? (·.name == name)

/-- The vector instruction of an opcode. -/
def byOpcode? (opcode : Nat) : Option Entry :=
  entries.find? (·.opcode == opcode)

/-- The number of lanes that a lane of the given natural alignment divides a vector into. -/
def laneCount (naturalLog2 : Nat) : Nat :=
  16 / Nat.pow 2 naturalLog2

end WasmBoogie.Wasm.Vector
