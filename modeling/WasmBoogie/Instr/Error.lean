import WasmBoogie.Text.Token

namespace WasmBoogie

open WasmBoogie.Text

/-- What the reader expected at a position where it found something else. -/
inductive Expectation where
  | openParen
  | closeParen
  | funcKeyword
  | endKeyword
  | instructionName
  | instruction
  | literal
  | callTarget
  | branchTarget
  | localRef
  | atMostOneOperand
  | atMostTwoOperands
  | atMostThreeOperands
  | elseArmOrClose
  | conditionAndThen
  | instructionOrClose
  | endOfFunction
  deriving Repr, DecidableEq, Inhabited

namespace Expectation

/-- The wording of an expectation in messages. -/
def text : Expectation → String
  | .openParen => "`(`"
  | .closeParen => "`)`"
  | .funcKeyword => "`func`"
  | .endKeyword => "`end`"
  | .instructionName => "instruction name"
  | .instruction => "instruction"
  | .literal => "literal"
  | .callTarget => "call target"
  | .branchTarget => "branch target"
  | .localRef => "local index or name"
  | .atMostOneOperand => "at most one operand"
  | .atMostTwoOperands => "at most two operands"
  | .atMostThreeOperands => "at most three operands"
  | .elseArmOrClose => "`(else` or `)`"
  | .conditionAndThen => "condition and then-arm"
  | .instructionOrClose => "instruction or `)`"
  | .endOfFunction => "end of function"

end Expectation

/-- Why reading a function body failed. The window is the text of the tokens around the
position.

Each error says where reading stopped, as a token position, and shows the tokens around it.
What the reader was looking for is a closed list of expectations, each with its wording. -/
inductive ParseError where
  | unexpectedEof (index : Nat) (window : String)
  | unexpectedClose (index : Nat) (window : String)
  | expected (what : Expectation) (found : String) (index : Nat) (window : String)
  /-- A local named by a word that is neither a number nor a declared name. -/
  | unresolvedLocal (name : String) (index : Nat) (window : String)
  /-- A local slot at or past the number of slots of the function. -/
  | localOutOfRange (slot : Nat) (slots : Nat) (window : String)
  | brTableWithoutSelector (index : Nat) (window : String)
  | brTableWithoutTargets (index : Nat) (window : String)
  /-- A scope label that an enclosing scope already has; depth counts the open scopes. -/
  | duplicateLabel (label : String) (depth : Nat)
  deriving Repr, DecidableEq, Inhabited

namespace ParseError

/-- The message of an error. -/
def message : ParseError → String
  | .unexpectedEof i w => s!"unexpected end of input at token {i} (near `{w}`)"
  | .unexpectedClose i w => s!"unexpected closing parenthesis at token {i} (near `{w}`)"
  | .expected what found i w =>
    "expected " ++ what.text ++ s!" at token {i}, found `{found}` (near `{w}`)"
  | .unresolvedLocal name i w => s!"unknown local index/name `{name}` at token {i} (near `{w}`)"
  | .localOutOfRange slot slots w =>
    s!"local slot {slot} out of range, function has {slots} slots (near `{w}`)"
  | .brTableWithoutSelector i w =>
    s!"br_table without a selector expression at token {i} (near `{w}`)"
  | .brTableWithoutTargets i w => s!"br_table without targets at token {i} (near `{w}`)"
  | .duplicateLabel label depth => s!"duplicate label `${label}` in nested scope at depth {depth}"

end ParseError

end WasmBoogie
