import WasmBoogie.Instr.Basic

namespace WasmBoogie.Ident

/-- The keywords of the verification language and the names of the prelude's procedures and
functions. -/
def reservedWords : List String :=
  ["push", "pop", "bool_to_real", "real_to_bool", "real_to_int",
   "int", "real", "bool", "old", "var", "call", "goto", "if", "then", "else", "while", "break",
   "return", "returns", "havoc", "assume", "assert", "requires", "ensures", "modifies",
   "procedure", "implementation", "function", "axiom", "const", "type", "true", "false",
   "forall", "exists", "div", "mod",
   "popToTmp1", "popToTmp2", "popToTmp3"]

/-- The name of the helper that pops a number of arguments. -/
def popArgsName (arity : Nat) : String :=
  s!"popArgs{arity}"

/-- A word is reserved if it is a keyword or prelude name, or names an argument-popping
helper: `popArgs` followed by digits. -/
def isReserved (ident : String) : Bool :=
  reservedWords.contains ident ||
    (match ident.toList with
     | 'p' :: 'o' :: 'p' :: 'A' :: 'r' :: 'g' :: 's' :: ds => !ds.isEmpty && ds.all isAsciiDigit
     | _ => false)

/-- A character kept in identifiers: an ASCII letter or digit, or an underscore. -/
def isIdentChar (c : Char) : Bool :=
  c.isAlphanum || c == '_'

/-- The identifier for a WebAssembly name.

A name loses its leading dollar sign; every character that is not an ASCII letter, digit or
underscore becomes an underscore; a name of digits only becomes `func_` and the digits, and
another name that starts with a digit gets a leading underscore. A name that would clash with a
keyword of the language or with a procedure or function of the prelude gets the prefix `wasm_`. -/
def sanitize (name : String) : String :=
  let name := (dropDollar? name).getD name
  if name.isEmpty then "_"
  else if isDigits name then "func_" ++ name
  else
    let cs := name.toList.map fun c => if isIdentChar c then c else '_'
    let cs := match cs with
      | c :: _ => if isAsciiDigit c then '_' :: cs else cs
      | [] => cs
    let ident := String.ofList cs
    if isReserved ident then "wasm_" ++ ident else ident

/-- The procedure name of a function: its sanitized name, or `func_` and its index. -/
def procedureName (name : Option String) (index : Nat) : String :=
  match name with
  | some n => sanitize n
  | none => s!"func_{index}"

/-- The procedure name of an import: its sanitized name, else its sanitized field name. -/
def importName (i : Import) : String :=
  match i.name with
  | some n => sanitize n
  | none => sanitize i.field

end WasmBoogie.Ident
