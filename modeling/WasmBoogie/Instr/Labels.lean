import WasmBoogie.Instr.Basic
import WasmBoogie.Instr.Error

namespace WasmBoogie

namespace Instr

/-- Opens a scope: a label already open among the enclosing ones is an error. The open scopes
are listed innermost first. -/
def enterScope (label : Option String) (opened : List (Option String)) :
    Except ParseError (List (Option String)) :=
  match label with
  | some l =>
    if opened.contains (some l) then .error (.duplicateLabel l opened.length)
    else .ok (label :: opened)
  | none => .ok (label :: opened)

mutual

/-- Checks one instruction under the given open scopes. -/
def checkLabels (opened : List (Option String)) : Instr → Except ParseError Unit
  | .block label body | .loop label body => do
    let inner ← enterScope label opened
    checkLabelsList inner body
  | .ite label cond thenBody elseBody => do
    checkLabelsList opened cond
    let inner ← enterScope label opened
    checkLabelsList inner thenBody
    match elseBody with
    | some e => checkLabelsList inner e
    | none => pure ()
  | .structural _ body | .call _ body | .select body | .br _ body | .brIf _ body
  | .brTable body _ _ | .ret body => checkLabelsList opened body
  | .localSet _ (some child) | .localTee _ (some child) | .unary _ (some child) =>
    checkLabels opened child
  | .binary _ left right => do
    match left with
    | some l => checkLabels opened l
    | none => pure ()
    match right with
    | some r => checkLabels opened r
    | none => pure ()
  | _ => pure ()

/-- Checks instructions in order under the given open scopes. -/
def checkLabelsList (opened : List (Option String)) : List Instr → Except ParseError Unit
  | [] => pure ()
  | i :: rest => do
    checkLabels opened i
    checkLabelsList opened rest

end

end Instr

/-- Checks that no scope of a body repeats the label of a scope around it.

A label of a block, loop or if may not repeat the label of a scope that encloses it, so that a
branch by name has one meaning. The condition operands of an `if` stand outside its scope, and
both of its arms inside. The first offending scope in reading order is reported, with the
number of scopes open around it. -/
def verifyLabels (body : List Instr) : Except ParseError Unit :=
  Instr.checkLabelsList [] body

end WasmBoogie
