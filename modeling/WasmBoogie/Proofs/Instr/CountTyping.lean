import WasmBoogie.Instr.Op

namespace WasmBoogie

/-- An enclosing scope as the count typing sees it: the name its label may be branched to by, and
the height of the stack when a branch reaches it. -/
structure LabelHeight where
  name : Option String
  height : Nat
  deriving Repr, DecidableEq

/-- How many values a one-operand operator leaves for the one it takes: none for `drop`, one for
every other. -/
def UnaryKind.results : UnaryKind → Nat
  | .drop => 0
  | _ => 1

/-- The position of the scope that a branch target selects among the enclosing scopes, innermost
first: a depth below their number, or the innermost scope with the name. -/
def labelIndex (labels : List LabelHeight) : LabelRef → Option Nat
  | .depth d => if d < labels.length then some d else none
  | .name n => labels.findIdx? (·.name == some n)

/-- The height at which a branch reaches its target: that of the scope it selects, or the
function's result count when it selects none. -/
def targetHeight (results : Nat) (labels : List LabelHeight) (target : LabelRef) : Nat :=
  match labelIndex labels target with
  | some i => (labels[i]?.map (·.height)).getD results
  | none => results

theorem targetHeight_of_index {results : Nat} {labels : List LabelHeight} {target : LabelRef} {i : Nat}
    {l : LabelHeight} (index : labelIndex labels target = some i) (found : labels[i]? = some l) :
    targetHeight results labels target = l.height := by
  simp [targetHeight, index, found]

theorem targetHeight_of_none {results : Nat} {labels : List LabelHeight} {target : LabelRef}
    (index : labelIndex labels target = none) : targetHeight results labels target = results := by
  simp [targetHeight, index]

namespace Instr

mutual

/-- `CountTyped calls results labels h i h'`: run on `h` operands under the enclosing scopes
`labels` (innermost first), `i` falls through with `h'`, and each branch it takes leaves the
stack at its target's height. A function body is typed from `0` to `results` under no scope. -/
inductive CountTyped (calls : String → Option (Nat × Nat)) (results : Nat) :
    List LabelHeight → Nat → Instr → Nat → Prop
  | const {labels h ty literal} : CountTyped calls results labels h (.const ty literal) (h + 1)
  | localGet {labels h slot} : CountTyped calls results labels h (.localGet slot) (h + 1)
  | localSet {labels h h' slot value} : CountTypedOpt calls results labels h value (h' + 1) →
      CountTyped calls results labels h (.localSet slot value) h'
  | localTee {labels h h' slot value} : CountTypedOpt calls results labels h value (h' + 1) →
      CountTyped calls results labels h (.localTee slot value) (h' + 1)
  | call {labels h h' target args params returns} : calls target = some (params, returns) →
      CountTypedList calls results labels h args (h' + params) →
      CountTyped calls results labels h (.call target args) (h' + returns)
  | unary {labels h h' op operand} : CountTypedOpt calls results labels h operand (h' + 1) →
      CountTyped calls results labels h (.unary op operand) (h' + (UnaryKind.ofName op).results)
  | binary {labels h h₁ h' op left right} : CountTypedOpt calls results labels h left h₁ →
      CountTypedOpt calls results labels h₁ right (h' + 2) →
      CountTyped calls results labels h (.binary op left right) (h' + 1)
  | select {labels h h' operands} : CountTypedList calls results labels h operands (h' + 3) →
      CountTyped calls results labels h (.select operands) (h' + 1)
  | block {labels h h' label body} : CountTypedList calls results (⟨label, h'⟩ :: labels) h body h' →
      CountTyped calls results labels h (.block label body) h'
  | loop {labels h h' label body} : CountTypedList calls results (⟨label, h⟩ :: labels) h body h' →
      CountTyped calls results labels h (.loop label body) h'
  | structural {labels h h' head body} : CountTypedList calls results labels h body h' →
      CountTyped calls results labels h (.structural head body) h'
  | ite {labels h h₁ h' label cond thenBody elseBody} :
      CountTypedList calls results labels h cond (h₁ + 1) →
      CountTypedList calls results (⟨label, h'⟩ :: labels) h₁ thenBody h' →
      CountTypedList calls results (⟨label, h'⟩ :: labels) h₁ elseBody h' →
      CountTyped calls results labels h (.ite label cond thenBody (some elseBody)) h'
  | iteNoElse {labels h h₁ label cond thenBody} : CountTypedList calls results labels h cond (h₁ + 1) →
      CountTypedList calls results (⟨label, h₁⟩ :: labels) h₁ thenBody h₁ →
      CountTyped calls results labels h (.ite label cond thenBody none) h₁
  | br {labels h h' target operands} :
      CountTypedList calls results labels h operands (targetHeight results labels target) →
      CountTyped calls results labels h (.br target operands) h'
  | brIf {labels h h' target operands} : CountTypedList calls results labels h operands (h' + 1) →
      targetHeight results labels target = h' → CountTyped calls results labels h (.brIf target operands) h'
  | brTable {labels h h₁ h' operands targets default} :
      CountTypedList calls results labels h operands (h₁ + 1) →
      (∀ t ∈ targets, targetHeight results labels t = h₁) → targetHeight results labels default = h₁ →
      CountTyped calls results labels h (.brTable operands targets default) h'
  | ret {labels h h' operands} : CountTypedList calls results labels h operands results →
      CountTyped calls results labels h (.ret operands) h'
  | nop {labels h} : CountTyped calls results labels h .nop h
  | unreachable {labels h h'} : CountTyped calls results labels h .unreachable h'
  | raw {labels h name} : CountTyped calls results labels h (.raw name) h

/-- An optional operand: nothing happens without one. -/
inductive CountTypedOpt (calls : String → Option (Nat × Nat)) (results : Nat) :
    List LabelHeight → Nat → Option Instr → Nat → Prop
  | none {labels h} : CountTypedOpt calls results labels h none h
  | some {labels h h' i} : CountTyped calls results labels h i h' → CountTypedOpt calls results labels h (some i) h'

/-- Instructions in order, each from the height the one before leaves. -/
inductive CountTypedList (calls : String → Option (Nat × Nat)) (results : Nat) :
    List LabelHeight → Nat → List Instr → Nat → Prop
  | nil {labels h} : CountTypedList calls results labels h [] h
  | cons {labels h h₁ h' i rest} : CountTyped calls results labels h i h₁ →
      CountTypedList calls results labels h₁ rest h' → CountTypedList calls results labels h (i :: rest) h'

end

end Instr

end WasmBoogie
