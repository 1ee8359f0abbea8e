import WasmBoogie.Wasm.Text.Lexer

namespace WasmBoogie.Wasm.Text

/-- A word, a string, a string identifier, or a parenthesized list. -/
inductive Sexp where
  | atom (text : String)
  | str (bytes : List UInt8)
  | strId (bytes : List UInt8)
  | list (items : List Sexp)
  deriving Repr, Inhabited

namespace Sexp

/-- The annotation a list is, if its head is one. -/
def annotation? : Sexp → Option String
  | .list (.atom a :: _) => if a.startsWith "@" then some a else none
  | _ => none

/-- The head word of a list. -/
def head? : Sexp → Option String
  | .list (.atom a :: _) => some a
  | _ => none

/-- Whether the item is a list headed by the given keyword. -/
def isForm (kw : String) (s : Sexp) : Bool :=
  s.head? == some kw

end Sexp

/-- The annotations that carry meaning for a module. -/
def meaningfulAnnotations : List String :=
  ["@custom", "@name", "@producers", "@dylink.0", "@metadata.code.branch_hint"]

/-- The tokens after a dropped annotation, given the tokens after its opening parenthesis and
the number of lists open within it. -/
def skipAnnotation : Nat → List Token → Except String (List Token)
  | _, [] => .error "unclosed annotation"
  | d, .lparen :: rest => skipAnnotation (d + 1) rest
  | d, .rparen :: rest => if d ≤ 1 then .ok rest else skipAnnotation (d - 1) rest
  | d, _ :: rest => skipAnnotation d rest

/-- Whether a word heads an annotation that is dropped. -/
def droppedAnnotation (a : String) : Bool :=
  a.startsWith "@" && a != "@" && !meaningfulAnnotations.contains a

/-- Builds lists from tokens. The stack holds the items of every open list, innermost first,
each in reverse order. `fuel` bounds the number of tokens. -/
def buildSexps : Nat → List (List Sexp) → List Token → Except String (List Sexp)
  | 0, _, _ => .error "out of fuel"
  | _ + 1, [top], [] => .ok top.reverse
  | _ + 1, _, [] => .error "unbalanced parentheses"
  | fuel + 1, stack, t :: rest =>
    match t, stack with
    | .lparen, _ =>
      match rest with
      | .atom a :: _ =>
        if droppedAnnotation a then do
          let after ← skipAnnotation 1 rest
          buildSexps fuel stack after
        else buildSexps fuel ([] :: stack) rest
      | _ => buildSexps fuel ([] :: stack) rest
    | .rparen, inner :: outer :: more =>
      let item := Sexp.list inner.reverse
      match item.annotation? with
      | some "@" => .error "empty annotation id"
      | _ => buildSexps fuel ((item :: outer) :: more) rest
    | .rparen, _ => .error "unbalanced parentheses"
    | .atom a, top :: more => buildSexps fuel ((.atom a :: top) :: more) rest
    | .str b, top :: more => buildSexps fuel ((.str b :: top) :: more) rest
    | .strId b, top :: more => buildSexps fuel ((.strId b :: top) :: more) rest
    | .reserved, _ => .error "unexpected token"
    | _, [] => .error "unbalanced parentheses"

/-- The top-level items of a text.

Parentheses must balance. A list whose head is an annotation, `(@id ...)`, is dropped unless
the annotation is one the module format gives a meaning: custom sections, names, producers,
dynamic linking and branch hints. A dropped annotation may hold any tokens, reserved ones
included; a reserved token anywhere else is an error. An annotation needs an identifier after
its at sign. -/
def parseSexps (text : String) : Except String (List Sexp) := do
  let tokens ← tokenize text
  buildSexps (tokens.length + 1) [[]] tokens

end WasmBoogie.Wasm.Text
