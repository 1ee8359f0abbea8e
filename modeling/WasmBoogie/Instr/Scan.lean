import WasmBoogie.Instr.Basic

namespace WasmBoogie

/-- The scope ordinals whose labels some branch needs. -/
structure LabelNeeds where
  loopStarts : List Nat := []
  blockEnds : List Nat := []
  deriving Repr, DecidableEq, Inhabited

/-- An enclosing scope during the scan. -/
structure OpenScope where
  ordinal : Nat
  label : Option String
  isLoop : Bool
  deriving Repr, DecidableEq, Inhabited

/-- The scan's state: the next ordinal and the needs found so far. -/
structure ScanState where
  next : Nat := 0
  needs : LabelNeeds := {}
  deriving Repr, Inhabited

/-- Adds a number to a list that holds each number once. -/
def insertOnce (n : Nat) (xs : List Nat) : List Nat :=
  if xs.contains n then xs else xs ++ [n]

/-- The enclosing scope a branch target resolves to, scopes listed innermost first. -/
def resolveScope (opened : List OpenScope) : LabelRef → Option OpenScope
  | .depth d => opened[d]?
  | .name n => opened.find? (·.label == some n)

namespace ScanState

/-- Records the label that a branch to the target needs. -/
def mark (opened : List OpenScope) (target : LabelRef) (st : ScanState) : ScanState :=
  match resolveScope opened target with
  | some s =>
    if s.isLoop then { st with needs := { st.needs with loopStarts := insertOnce s.ordinal st.needs.loopStarts } }
    else { st with needs := { st.needs with blockEnds := insertOnce s.ordinal st.needs.blockEnds } }
  | none => st

end ScanState

namespace Instr

mutual

/-- Scans one instruction under the given open scopes, innermost first. -/
def scanNeeds (opened : List OpenScope) : Instr → ScanState → ScanState
  | .block label body, st =>
    let s : OpenScope := ⟨st.next, label, false⟩
    scanNeedsList (s :: opened) body { st with next := st.next + 1 }
  | .loop label body, st =>
    let s : OpenScope := ⟨st.next, label, true⟩
    scanNeedsList (s :: opened) body { st with next := st.next + 1 }
  | .ite label cond thenBody elseBody, st =>
    let st := scanNeedsList opened cond st
    let s : OpenScope := ⟨st.next, label, false⟩
    let st := scanNeedsList (s :: opened) thenBody { st with next := st.next + 1 }
    match elseBody with
    | some e => scanNeedsList (s :: opened) e st
    | none => st
  | .br target ops, st | .brIf target ops, st =>
    (scanNeedsList opened ops st).mark opened target
  | .brTable ops targets default, st =>
    (targets ++ [default]).foldl (fun st t => st.mark opened t) (scanNeedsList opened ops st)
  | .structural _ body, st | .call _ body, st | .select body, st | .ret body, st =>
    scanNeedsList opened body st
  | .localSet _ (some child), st | .localTee _ (some child), st | .unary _ (some child), st =>
    scanNeeds opened child st
  | .binary _ left right, st =>
    let st := match left with
      | some l => scanNeeds opened l st
      | none => st
    match right with
    | some r => scanNeeds opened r st
    | none => st
  | _, st => st

/-- Scans instructions in order. -/
def scanNeedsList (opened : List OpenScope) : List Instr → ScanState → ScanState
  | [], st => st
  | i :: rest, st => scanNeedsList opened rest (scanNeeds opened i st)

end

end Instr

/-- The labels that the branches of a body need, by scope ordinal.

Scopes are numbered in the order they open, an `if` after its condition operands. A branch
reaches the scope its target resolves to: a depth counts enclosing scopes from the innermost,
and a name picks the innermost scope with that label; an unresolved target reaches none. A
branch to a loop needs the loop's start label, and a branch to a block or an if needs its end
label. The lowering places a label only where a branch needs it. -/
def scanLabels (body : List Instr) : LabelNeeds :=
  (Instr.scanNeedsList [] body {}).needs

end WasmBoogie
