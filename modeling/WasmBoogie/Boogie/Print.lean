import WasmBoogie.Boogie.Syntax
import WasmBoogie.Binary64.Shortest

namespace WasmBoogie.Boogie

/-- The text of a real literal: the sign, the shortest decimal digits in positional notation,
and `.0` when no fractional digit was written. -/
def realLiteral (x : Binary64) : String :=
  let text := (if x.negative then "-" else "") ++ x.shortest.positional
  if text.contains '.' then text else text ++ ".0"

namespace Ty

/-- The text of a type; a map type is `[dom]range`. -/
def render : Ty → String
  | .int => "int"
  | .real => "real"
  | .bool => "bool"
  | .map dom range => "[" ++ dom.render ++ "]" ++ range.render

end Ty

namespace BinOp

/-- The symbol of an operator. -/
def symbol : BinOp → String
  | .add => "+" | .sub => "-" | .mul => "*" | .div => "/"
  | .eq => "==" | .neq => "!=" | .lt => "<" | .le => "<=" | .gt => ">" | .ge => ">="
  | .and => "&&" | .or => "||"

end BinOp

namespace Expr

/-- An operand that needs no parentheses. -/
def isAtomic : Expr → Bool
  | .ident _ | .bool _ | .call _ _ | .select _ _ | .old _ => true
  | .int v => v ≥ 0
  | .real x => x.isSignPositive
  | .decimal text => !text.startsWith "-"
  | .neg _ | .binary _ _ _ | .ite _ _ _ => false

/-- A text in parentheses unless it is the text of an atomic operand. -/
def parenthesize (atomic : Bool) (text : String) : String :=
  if atomic then text else "(" ++ text ++ ")"

mutual

/-- The text of an expression. -/
def render : Expr → String
  | .ident name => name
  | .int v => toString v
  | .real x => realLiteral x
  | .decimal text => text
  | .bool b => if b then "true" else "false"
  | .neg e => "-" ++ parenthesize e.isAtomic (render e)
  | .binary op l r => parenthesize l.isAtomic (render l) ++ " " ++ op.symbol ++ " " ++
      parenthesize r.isAtomic (render r)
  | .call fn args => fn ++ "(" ++ renderList args ++ ")"
  | .select m i => parenthesize m.isAtomic (render m) ++ "[" ++ render i ++ "]"
  | .ite c a b => "if " ++ render c ++ " then " ++ render a ++ " else " ++ render b
  | .old e => "old(" ++ render e ++ ")"

/-- Expressions separated by commas. -/
def renderList : List Expr → String
  | [] => ""
  | [e] => render e
  | e :: rest => render e ++ ", " ++ renderList rest

end

end Expr

namespace Var

/-- `name: type`. -/
def render (v : Var) : String :=
  v.name ++ ": " ++ v.ty.render

end Var

/-- Items separated by commas. -/
def commaList (items : List String) : String :=
  ", ".intercalate items

namespace Stmt

mutual

/-- The text of a statement; a conditional spans several lines. -/
def render : Stmt → String
  | .assign l r => l.render ++ " := " ++ r.render ++ ";"
  | .call callee args outs =>
    "call " ++ (if outs.isEmpty then "" else commaList outs ++ " := ") ++ callee ++ "(" ++
      Expr.renderList args ++ ");"
  | .havoc names => "havoc " ++ commaList names ++ ";"
  | .assume e => "assume " ++ e.render ++ ";"
  | .assert e => "assert " ++ e.render ++ ";"
  | .goto labels => "goto " ++ commaList labels ++ ";"
  | .label name => name ++ ":"
  | .ite c t e =>
    "if (" ++ c.render ++ ") \x7b\n" ++ renderLines t ++
      (match e with
       | some e => "\x7d else \x7b\n" ++ renderLines e
       | none => "") ++ "\x7d"
  | .comment text => "// " ++ text

/-- Statements, each followed by a line feed. -/
def renderLines : List Stmt → String
  | [] => ""
  | s :: rest => render s ++ "\n" ++ renderLines rest

end

end Stmt

namespace Attribute

/-- `{:key value}` or `{:key}`. -/
def render (a : Attribute) : String :=
  match a.value with
  | some v => "\x7b:" ++ a.key ++ " " ++ v.render ++ "\x7d"
  | none => "\x7b:" ++ a.key ++ "\x7d"

end Attribute

/-- `name(params)` with ` returns (results)` when there are results. -/
def signature (name : String) (params returns : List Var) : String :=
  name ++ "(" ++ commaList (params.map Var.render) ++ ")" ++
    (if returns.isEmpty then "" else " returns (" ++ commaList (returns.map Var.render) ++ ")")

namespace Procedure

/-- The declaration with its attributes, then a `modifies` line and one `ensures` line per
postcondition. -/
def render (p : Procedure) : String :=
  "procedure " ++ String.join (p.attributes.map fun a => a.render ++ " ") ++
    signature p.name p.params p.returns ++ ";" ++
    (if p.modifies.isEmpty then "" else "\nmodifies " ++ commaList p.modifies ++ ";") ++
    String.join (p.ensures.map fun e => "\nensures " ++ e.render ++ ";")

end Procedure

namespace Implementation

/-- The header, then the body in braces: local declarations first, one line each. -/
def render (i : Implementation) : String :=
  "implementation " ++ signature i.name i.params i.returns ++ "\n\x7b\n" ++
    String.join (i.locals.map fun v => "var " ++ v.render ++ ";\n") ++
    Stmt.renderLines i.body ++ "\x7d"

end Implementation

namespace Decl

/-- The text of a declaration. -/
def render : Decl → String
  | .comment text => "// " ++ text
  | .global v => "var " ++ v.render ++ ";"
  | .function name params ret body =>
    "function " ++ name ++ "(" ++ commaList (params.map Var.render) ++ "): " ++ ret.render ++
      (match body with
       | some b => " \x7b " ++ b.render ++ " \x7d"
       | none => ";")
  | .procedure p => p.render
  | .implementation i => i.render

/-- Comments are the declarations that run together. -/
def isComment : Decl → Bool
  | .comment _ => true
  | _ => false

/-- An implementation joins the procedure before it. -/
def isImplementation : Decl → Bool
  | .implementation _ => true
  | _ => false

end Decl

namespace Program

/-- Declarations after the first, each with a blank line before it unless it is joined to the
previous one. -/
def renderRest : Bool → List Decl → String
  | _, [] => ""
  | prevComment, d :: rest =>
    let joined := d.isImplementation || (d.isComment && prevComment)
    (if joined then "" else "\n") ++ d.render ++ "\n" ++ renderRest d.isComment rest

/-- The text of a program: every declaration ends with a line feed.

Operands of binary operators, negation and map selection are parenthesised unless they are
atomic: names, booleans, calls, selections, `old` terms and literals without a minus sign. A
program puts a blank line before each declaration, except that an implementation follows its
procedure directly and comments that follow comments stay together. -/
def render (p : Program) : String :=
  match p.decls with
  | [] => ""
  | d :: rest => d.render ++ "\n" ++ renderRest d.isComment rest

end Program

end WasmBoogie.Boogie
