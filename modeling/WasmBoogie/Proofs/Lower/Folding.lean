import WasmBoogie.Proofs.Lower.Congruence

namespace WasmBoogie

namespace Instr

mutual

/-- The flat form of an instruction: its folded operands, each flattened, in order, then the
instruction with its operand slots empty. -/
def flatten : Instr → List Instr
  | .localSet slot value => flattenOpt value ++ [.localSet slot none]
  | .localTee slot value => flattenOpt value ++ [.localTee slot none]
  | .call target args => flattenList args ++ [.call target []]
  | .unary op operand => flattenOpt operand ++ [.unary op none]
  | .binary op left right => flattenOpt left ++ flattenOpt right ++ [.binary op none none]
  | .select operands => flattenList operands ++ [.select []]
  | .block label body => [.block label (flattenList body)]
  | .loop label body => [.loop label (flattenList body)]
  | .structural head body => [.structural head (flattenList body)]
  | .ite label cond thenBody elseBody =>
    flattenList cond ++ [.ite label [] (flattenList thenBody) (match elseBody with
      | some b => some (flattenList b)
      | none => none)]
  | .br target operands => flattenList operands ++ [.br target []]
  | .brIf target operands => flattenList operands ++ [.brIf target []]
  | .brTable operands targets default => flattenList operands ++ [.brTable [] targets default]
  | .ret operands => flattenList operands ++ [.ret []]
  | .const ty literal => [.const ty literal]
  | .localGet slot => [.localGet slot]
  | .nop => [.nop]
  | .unreachable => [.unreachable]
  | .raw name => [.raw name]

/-- The flat form of an optional operand. -/
def flattenOpt : Option Instr → List Instr
  | some i => flatten i
  | none => []

/-- The flat form of an instruction list. -/
def flattenList : List Instr → List Instr
  | [] => []
  | i :: rest => flatten i ++ flattenList rest

end

/-- `(i32.sub (local.get 0) (i32.const 1))` is `local.get 0`, `i32.const 1`, `i32.sub`. -/
example : flatten (.binary "i32.sub" (some (.localGet 0)) (some (.const .i32 "1"))) =
    [.localGet 0, .const .i32 "1", .binary "i32.sub" none none] := rfl

/-- The pre-scan reads an `if` condition before it opens the `if` scope. -/
theorem scanNeeds_ite (opened : List OpenScope) (label : Option String) (cond thenBody : List Instr)
    (elseBody : Option (List Instr)) (st : ScanState) :
    scanNeeds opened (.ite label cond thenBody elseBody) st =
      scanNeeds opened (.ite label [] thenBody elseBody) (scanNeedsList opened cond st) := by
  cases elseBody <;> rfl

mutual

theorem scanNeedsList_flatten (opened : List OpenScope) : ∀ (i : Instr) (st : ScanState),
    scanNeedsList opened i.flatten st = scanNeeds opened i st
  | .localSet _ value, st | .localTee _ value, st | .unary _ value, st => by
    simp only [flatten, scanNeedsList_append, scanNeedsList_flattenOpt]
    cases value <;> rfl
  | .binary _ left right, st => by
    simp only [flatten, scanNeedsList_append, scanNeedsList_flattenOpt]
    cases left <;> cases right <;> rfl
  | .call _ ops, st | .select ops, st | .br _ ops, st | .brIf _ ops, st | .brTable ops _ _, st
  | .ret ops, st => by
    simp only [flatten, scanNeedsList_append, scanNeedsList_flattenList]
    rfl
  | .block label body, st =>
    scanNeedsList_flattenList (⟨st.next, label, false⟩ :: opened) body { st with next := st.next + 1 }
  | .loop label body, st =>
    scanNeedsList_flattenList (⟨st.next, label, true⟩ :: opened) body { st with next := st.next + 1 }
  | .structural _ body, st => scanNeedsList_flattenList opened body st
  | .ite label cond thenBody none, st => by
    simp only [flatten]
    rw [scanNeedsList_append, scanNeedsList_flattenList, scanNeeds_ite]
    exact scanNeedsList_flattenList _ thenBody _
  | .ite label cond thenBody (some b), st => by
    simp only [flatten]
    rw [scanNeedsList_append, scanNeedsList_flattenList, scanNeeds_ite]
    show scanNeedsList _ (flattenList b) (scanNeedsList _ (flattenList thenBody) _) =
      scanNeedsList _ b (scanNeedsList _ thenBody _)
    rw [scanNeedsList_flattenList, scanNeedsList_flattenList]
  | .const .., _ | .localGet _, _ | .nop, _ | .unreachable, _ | .raw _, _ => rfl

theorem scanNeedsList_flattenOpt (opened : List OpenScope) : ∀ (i : Option Instr) (st : ScanState),
    scanNeedsList opened (flattenOpt i) st = (match i with
      | some i => scanNeeds opened i st
      | none => st)
  | some i, st => scanNeedsList_flatten opened i st
  | none, _ => rfl

theorem scanNeedsList_flattenList (opened : List OpenScope) : ∀ (is : List Instr) (st : ScanState),
    scanNeedsList opened (flattenList is) st = scanNeedsList opened is st
  | [], _ => rfl
  | i :: rest, st => by
    simp only [flattenList, scanNeedsList_append, scanNeedsList_flatten,
      scanNeedsList_flattenList opened rest]
    rfl

end

mutual

theorem checkLabelsList_flatten (opened : List (Option String)) : ∀ (i : Instr),
    checkLabelsList opened i.flatten = checkLabels opened i
  | .localSet _ value | .localTee _ value | .unary _ value => by
    cases value <;>
      simp [flatten, checkLabelsList_append, checkLabelsList_flattenOpt, checkLabelsList, checkLabels]
  | .binary _ left right => by
    cases left <;> cases right <;>
      simp [flatten, checkLabelsList_append, checkLabelsList_flattenOpt, checkLabelsList, checkLabels]
  | .call _ ops | .select ops | .br _ ops | .brIf _ ops | .brTable ops _ _ | .ret ops => by
    simp [flatten, checkLabelsList_append, checkLabelsList_flattenList, checkLabelsList, checkLabels]
  | .block _ body | .loop _ body | .structural _ body => by
    simp [flatten, checkLabelsList_flattenList, checkLabelsList, checkLabels]
  | .ite _ cond thenBody elseBody => by
    cases elseBody <;>
      simp [flatten, checkLabelsList_append, checkLabelsList_flattenList, checkLabelsList, checkLabels]
  | .const .. | .localGet _ | .nop | .unreachable | .raw _ => by simp [flatten, checkLabelsList]

theorem checkLabelsList_flattenOpt (opened : List (Option String)) : ∀ (i : Option Instr),
    checkLabelsList opened (flattenOpt i) = (match i with
      | some i => checkLabels opened i
      | none => pure ())
  | some i => checkLabelsList_flatten opened i
  | none => rfl

theorem checkLabelsList_flattenList (opened : List (Option String)) : ∀ (is : List Instr),
    checkLabelsList opened (flattenList is) = checkLabelsList opened is
  | [] => rfl
  | i :: rest => by
    simp only [flattenList, checkLabelsList_append, checkLabelsList_flatten,
      checkLabelsList_flattenList opened rest, checkLabelsList]

end

open Lower in
mutual

theorem lowerList_flatten (env : Env) : ∀ (i : Instr), lowerList env i.flatten = lowerInstr env i
  | .localSet _ value | .localTee _ value | .unary _ value | .binary _ value _ => by
    simp [flatten, lowerList_append, lowerList_flattenOpt, lowerList, lowerInstr, lowerOpt]
  | .call _ ops | .select ops | .br _ ops | .brIf _ ops | .brTable ops _ _ | .ret ops => by
    simp [flatten, lowerList_append, lowerList_flattenList, lowerList, lowerInstr]
  | .block _ body | .loop _ body | .structural _ body => by
    simp [flatten, lowerList_flattenList, lowerList, lowerInstr]
  | .ite _ cond thenBody elseBody => by
    cases elseBody <;> simp [flatten, lowerList_append, lowerList_flattenList, lowerList, lowerInstr]
  | .const .. | .localGet _ | .nop | .unreachable | .raw _ => by simp [flatten, lowerList]

theorem lowerList_flattenOpt (env : Env) : ∀ (i : Option Instr),
    lowerList env (flattenOpt i) = lowerOpt env i
  | some i => lowerList_flatten env i
  | none => rfl

theorem lowerList_flattenList (env : Env) : ∀ (is : List Instr),
    lowerList env (flattenList is) = lowerList env is
  | [] => rfl
  | i :: rest => by
    simp only [flattenList, lowerList_append, lowerList_flatten, lowerList_flattenList env rest, lowerList]

end

end Instr

/-- Flattening reads alike to every pass of the lowering. -/
theorem Lower.sameBody_flattenList (body : List Instr) : Lower.SameBody (Instr.flattenList body) body where
  labels := Instr.checkLabelsList_flattenList [] body
  needs := congrArg ScanState.needs (Instr.scanNeedsList_flattenList [] body {})
  lower env := Instr.lowerList_flattenList env body

/-- Folded and flat bodies lower alike: flattening every function body of a module gives the
same program and the same diagnostics, or the same error, under every choice of options. -/
theorem lowerModule_flatten_bodies (m : Module) (options : LowerOptions) :
    lowerModule (m.mapBodies Instr.flattenList) options = lowerModule m options :=
  lowerModule_mapBodies Instr.flattenList Lower.sameBody_flattenList m options

end WasmBoogie
