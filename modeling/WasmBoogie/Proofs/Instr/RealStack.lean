import Mathlib.Logic.Relation
import WasmBoogie.Proofs.Boogie.Semantics
import WasmBoogie.Lower.Literal
import WasmBoogie.Instr.Op

namespace WasmBoogie

open WasmBoogie.Boogie

/-- A state of the operand-stack machine: the stack, bottom first, and the local slots. -/
structure Machine where
  stack : List ℝ
  locals : ℕ → ℝ

namespace Machine

/-- The machine with a value pushed. -/
def push (m : Machine) (v : ℝ) : Machine :=
  ⟨m.stack ++ [v], m.locals⟩

/-- The machine with a slot set. -/
def assign (m : Machine) (slot : ℕ) (v : ℝ) : Machine :=
  ⟨m.stack, Function.update m.locals slot v⟩

@[simp] theorem push_stack (m : Machine) (v : ℝ) : (m.push v).stack = m.stack ++ [v] := rfl

@[simp] theorem push_locals (m : Machine) (v : ℝ) : (m.push v).locals = m.locals := rfl

@[simp] theorem assign_stack (m : Machine) (slot : ℕ) (v : ℝ) : (m.assign slot v).stack = m.stack :=
  rfl

@[simp] theorem assign_locals (m : Machine) (slot : ℕ) (v : ℝ) :
    (m.assign slot v).locals = Function.update m.locals slot v := rfl

theorem push_inj {m n : Machine} {v w : ℝ} : m.push v = n.push w ↔ m = n ∧ v = w := by
  cases m
  cases n
  simp [push, and_right_comm]

/-- A stack with something on it is a stack with a value pushed. -/
theorem exists_push_of_length_pos {m : Machine} (h : 0 < m.stack.length) :
    ∃ (n : Machine) (v : ℝ), m = n.push v := by
  obtain ⟨stack, locals⟩ := m
  obtain ⟨init, v, rfl⟩ := List.eq_nil_or_concat stack |>.resolve_left (by rintro rfl; simp at h)
  exact ⟨⟨init, locals⟩, v, by simp [push]⟩

end Machine

/-- The real that a literal expression stands for. -/
noncomputable def Boogie.Expr.realValue? : Expr → Option ℝ
  | .real x => some x.toReal
  | .decimal t => (readDecimal t).map (↑)
  | _ => none

/-- A literal expression with a real value evaluates to it in every store. -/
theorem Boogie.Expr.eval_of_realValue {e : Expr} {r : ℝ} {fs : Funs} {s : Store}
    (h : e.realValue? = some r) : e.eval fs s = some (.real r) := by
  cases e <;> simp only [Expr.realValue?, reduceCtorEq] at h
  case real x =>
    cases h
    rfl
  case decimal t =>
    obtain ⟨q, read, rfl⟩ := Option.map_eq_some_iff.1 h
    simp [Expr.eval, read]

/-- The real that a constant stands for: the value of its literal. None for a literal with no
real value: a NaN, an infinity, a hexadecimal float or an integer of more than 128 bits. -/
noncomputable def constValue? (ty : NumType) (literal : String) : Option ℝ :=
  (Lower.literalValue ty literal).bind Expr.realValue?

theorem digits_isAsciiDigit {n : Nat} {c : Char} (h : c ∈ Nat.toDigits 10 n) : isAsciiDigit c = true := by
  have digit := Nat.isDigit_of_mem_toDigits (by decide) (by decide) h
  simp only [Char.isDigit, Bool.and_eq_true, decide_eq_true_eq] at digit
  simp only [isAsciiDigit, Bool.and_eq_true, decide_eq_true_eq, Char.le_def]
  exact ⟨by simpa using digit.1, by simpa using digit.2⟩

theorem span_digits (n : Nat) (rest : List Char) :
    (Nat.toDigits 10 n ++ '.' :: rest).span (· != '.') = (Nat.toDigits 10 n, '.' :: rest) := by
  rw [List.span_eq_takeWhile_dropWhile]
  have notDot : ∀ c ∈ Nat.toDigits 10 n, (c != '.') = true := fun c hc => by
    have digit := digits_isAsciiDigit hc
    rw [bne_iff_ne]
    rintro rfl
    exact absurd digit (by decide)
  simp [List.takeWhile_append_of_pos notDot, List.dropWhile_append_of_pos notDot]

theorem splitSign_digits (n : Nat) (rest : List Char) :
    splitSign (Nat.toDigits 10 n ++ rest) = (false, Nat.toDigits 10 n ++ rest) := by
  obtain ⟨d, ds, hd⟩ : ∃ d ds, Nat.toDigits 10 n = d :: ds :=
    List.exists_cons_of_ne_nil Nat.toDigits_ne_nil
  have digit : isAsciiDigit d = true := digits_isAsciiDigit (n := n) (by simp [hd])
  rw [hd]
  unfold splitSign
  split
  · rename_i h
    obtain ⟨rfl, -⟩ := List.cons.inj h
    exact absurd digit (by decide)
  · rfl

/-- The digits of a natural number followed by `.0` read as that number, after a minus sign or
without one. -/
theorem readDecimal_digits (negative : Bool) (n : Nat) :
    readDecimal (String.ofList ((if negative then ['-'] else []) ++ Nat.toDigits 10 n ++ ['.', '0'])) =
      some (if negative then -(n : ℚ) else n) := by
  have allDigits : (Nat.toDigits 10 n ++ ['0']).all isAsciiDigit = true := by
    rw [List.all_append, Bool.and_eq_true, List.all_eq_true]
    exact ⟨fun c hc => digits_isAsciiDigit hc, rfl⟩
  have sign : splitSign ((if negative then ['-'] else []) ++ Nat.toDigits 10 n ++ ['.', '0']) =
      (negative, Nat.toDigits 10 n ++ ['.', '0']) := by
    cases negative
    · simpa using splitSign_digits n ['.', '0']
    · rfl
  simp only [readDecimal, String.toList_ofList, sign, span_digits, allDigits]
  have zero : Nat.ofDigitChars 10 ['0'] 0 = 0 := rfl
  simp [Nat.ofDigitChars_ten_toDigits, zero]

/-- The decimal real of an integer stands for that integer. -/
theorem realValue_integerReal (negative : Bool) (magnitude : Nat) :
    (Lower.integerReal negative magnitude).realValue? =
      some (if negative && magnitude != 0 then -(magnitude : ℝ) else magnitude) := by
  have text : (if negative && magnitude != 0 then "-" else "") ++ toString magnitude ++ ".0" =
      String.ofList ((if negative && magnitude != 0 then ['-'] else []) ++
        Nat.toDigits 10 magnitude ++ ['.', '0']) := by
    rw [← String.toList_inj]
    split <;> simp [Nat.toList_repr]
  rw [Lower.integerReal, Expr.realValue?, text, readDecimal_digits]
  split <;> simp

/-- A literal that the lowering gives an expression is a binary64 value or an integer. -/
theorem literalValue_form {ty : NumType} {literal : String} {e : Expr}
    (h : Lower.literalValue ty literal = some e) :
    (∃ x, e = .real x) ∨ ∃ negative magnitude, e = Lower.integerReal negative magnitude := by
  unfold Lower.literalValue at h
  simp only at h
  repeat' split at h
  all_goals first
    | (simp at h; done)
    | (obtain ⟨v, -, rfl⟩ := Option.map_eq_some_iff.1 h; exact Or.inr ⟨_, _, rfl⟩)
    | (cases h; exact Or.inl ⟨_, rfl⟩)

/-- Every literal that the lowering gives an expression has a real value. -/
theorem realValue_of_literalValue {ty : NumType} {literal : String} {e : Expr}
    (h : Lower.literalValue ty literal = some e) : ∃ r, e.realValue? = some r := by
  rcases literalValue_form h with ⟨x, rfl⟩ | ⟨negative, magnitude, rfl⟩
  · exact ⟨_, rfl⟩
  · exact ⟨_, realValue_integerReal negative magnitude⟩

/-- A constant pushes its value, or any value if its literal has none. -/
noncomputable def constStep (ty : NumType) (literal : String) (m m' : Machine) : Prop :=
  match constValue? ty literal with
  | some v => m' = m.push v
  | none => ∃ v, m' = m.push v

/-- `local.set` pops a value into a slot. -/
def setStep (slot : ℕ) (m m' : Machine) : Prop :=
  ∃ (n : Machine) (v : ℝ), m = n.push v ∧ m' = n.assign slot v

/-- `local.tee` sets a slot to the value on top and leaves the value there. -/
def teeStep (slot : ℕ) (m m' : Machine) : Prop :=
  ∃ (n : Machine) (v : ℝ), m = n.push v ∧ m' = (n.assign slot v).push v

/-- What a one-operand operator does: `drop` pops, a conversion changes nothing, and the others
replace the value on top by their result. -/
noncomputable def UnaryKind.Step : UnaryKind → Machine → Machine → Prop
  | .drop, m, m' => ∃ v : ℝ, m = m'.push v
  | .conversion, m, m' => m' = m
  | .eqz, m, m' => ∃ (n : Machine) (v : ℝ), m = n.push v ∧ m' = n.push (if v = 0 then 1 else 0)
  | .neg, m, m' => ∃ (n : Machine) (v : ℝ), m = n.push v ∧ m' = n.push (-v)
  | .abs, m, m' => ∃ (n : Machine) (v : ℝ), m = n.push v ∧ m' = n.push |v|
  | .unsupported, m, m' => ∃ (n : Machine) (v r : ℝ), m = n.push v ∧ m' = n.push r

/-- The result of a two-operand operator on its left and right operands; an unsupported one may
give anything. -/
noncomputable def BinaryKind.Result : BinaryKind → ℝ → ℝ → ℝ → Prop
  | .add, l, r, x => x = l + r
  | .sub, l, r, x => x = l - r
  | .mul, l, r, x => x = l * r
  | .div, l, r, x => x = l / r
  | .eq, l, r, x => x = if l = r then 1 else 0
  | .ne, l, r, x => x = if l ≠ r then 1 else 0
  | .lt, l, r, x => x = if l < r then 1 else 0
  | .le, l, r, x => x = if l ≤ r then 1 else 0
  | .gt, l, r, x => x = if l > r then 1 else 0
  | .ge, l, r, x => x = if l ≥ r then 1 else 0
  | .min, l, r, x => x = Min.min l r
  | .max, l, r, x => x = Max.max l r
  | .unsupported, _, _, _ => True

/-- A two-operand operator pops its right operand, then its left one, and pushes its result. -/
def BinaryKind.Step (k : BinaryKind) (m m' : Machine) : Prop :=
  ∃ (n : Machine) (l r x : ℝ), m = (n.push l).push r ∧ k.Result l r x ∧ m' = n.push x

/-- `select` pops a condition and two values, and keeps the first value when the condition is
not zero. -/
noncomputable def selectStep (m m' : Machine) : Prop :=
  ∃ (n : Machine) (v₁ v₂ c : ℝ), m = ((n.push v₁).push v₂).push c ∧ m' = n.push (if c ≠ 0 then v₁ else v₂)

mutual

/-- `Instr.Eval i m m'`: the instruction tree `i` run from `m` can end in `m'`. Branches, calls,
traps and unknown instructions are outside this evaluation and have no result. -/
noncomputable def Instr.Eval : Instr → Machine → Machine → Prop
  | .const ty literal => constStep ty literal
  | .localGet slot => fun m m' => m' = m.push (m.locals slot)
  | .localSet slot value => Relation.Comp (Instr.EvalOpt value) (setStep slot)
  | .localTee slot value => Relation.Comp (Instr.EvalOpt value) (teeStep slot)
  | .unary op operand => Relation.Comp (Instr.EvalOpt operand) (UnaryKind.ofName op).Step
  | .binary op left right =>
    Relation.Comp (Relation.Comp (Instr.EvalOpt left) (Instr.EvalOpt right)) (BinaryKind.ofName op).Step
  | .select operands => Relation.Comp (Instr.EvalList operands) selectStep
  | .block _ body | .loop _ body | .structural _ body => Instr.EvalList body
  | .ite _ cond thenBody elseBody =>
    Relation.Comp (Instr.EvalList cond) fun m m' => ∃ (n : Machine) (c : ℝ), m = n.push c ∧
      ((c ≠ 0 ∧ Instr.EvalList thenBody n m') ∨
        (c = 0 ∧ match elseBody with
          | some b => Instr.EvalList b n m'
          | none => m' = n))
  | .nop => Eq
  | .call .. | .br .. | .brIf .. | .brTable .. | .ret _ | .unreachable | .raw _ => fun _ _ => False

/-- An optional operand: nothing happens without one. -/
noncomputable def Instr.EvalOpt : Option Instr → Machine → Machine → Prop
  | some i => i.Eval
  | none => Eq

/-- Instructions in order. -/
noncomputable def Instr.EvalList : List Instr → Machine → Machine → Prop
  | [] => Eq
  | i :: rest => Relation.Comp i.Eval (Instr.EvalList rest)

end

mutual

/-- Built from constants, local accesses, numeric operators, `select`, `nop` and structured
control only, naming no slot at or above `slots`: no branch, return, call, trap or unknown
instruction anywhere inside. -/
def Instr.isStraight (slots : ℕ) : Instr → Bool
  | .const _ _ | .nop => true
  | .localGet slot => slot < slots
  | .localSet slot value | .localTee slot value => slot < slots && Instr.isStraightOpt slots value
  | .unary _ operand => Instr.isStraightOpt slots operand
  | .binary _ left right => Instr.isStraightOpt slots left && Instr.isStraightOpt slots right
  | .select operands => Instr.isStraightList slots operands
  | .block _ body | .loop _ body | .structural _ body => Instr.isStraightList slots body
  | .ite _ cond thenBody elseBody =>
    Instr.isStraightList slots cond && Instr.isStraightList slots thenBody &&
      match elseBody with
      | some b => Instr.isStraightList slots b
      | none => true
  | .call .. | .br .. | .brIf .. | .brTable .. | .ret _ | .unreachable | .raw _ => false

def Instr.isStraightOpt (slots : ℕ) : Option Instr → Bool
  | some i => i.isStraight slots
  | none => true

def Instr.isStraightList (slots : ℕ) : List Instr → Bool
  | [] => true
  | i :: rest => i.isStraight slots && Instr.isStraightList slots rest

end

end WasmBoogie
