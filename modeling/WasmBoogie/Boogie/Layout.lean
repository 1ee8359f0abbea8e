import WasmBoogie.Text.Blank

namespace WasmBoogie.Boogie

open WasmBoogie.Text

/-- A character that may continue a label name. -/
def isLabelChar (c : Char) : Bool :=
  c.isAlphanum || c == '_' || c == '.' || c == '$'

/-- A line that is a label: a name, blanks allowed before the colon that ends the line. The
name starts with a letter, an underscore, a dot or a dollar sign. -/
def isLabelLine (line : List Char) : Bool :=
  match line.getLast? with
  | some ':' =>
    let name := (line.dropLast.reverse.dropWhile isBlank).reverse
    match name with
    | c :: rest => (c.isAlpha || c == '_' || c == '.' || c == '$') && rest.all isLabelChar
    | [] => false
  | _ => false

/-- A contract clause of a procedure declaration. -/
def isContractClause (line : List Char) : Bool :=
  "modifies ".toList.isPrefixOf line || "ensures ".toList.isPrefixOf line

/-- The indented lines from the current depth on; the flag says the last line was empty. -/
def indentLines : Nat → Bool → List (List Char) → String
  | _, _, [] => ""
  | level, prevBlank, raw :: rest =>
    let line := trimBlankChars raw
    if line.isEmpty then
      (if prevBlank then "" else "\n") ++ indentLines level true rest
    else
      let level := if line.head? = some '}' then level - 1 else level
      let extra := if level = 0 && isContractClause line then 1 else 0
      let pad := if isLabelLine line then "" else String.join (List.replicate (level + extra) "    ")
      let next := if line.getLast? = some '{' then level + 1 else level
      pad ++ String.ofList line ++ "\n" ++ indentLines next false rest

/-- The text laid out by brace depth, each line ending in a line feed.

Each line is trimmed of blank characters and indented by four spaces per open brace; a line
that starts with a closing brace is indented one level less. Labels stand at the margin,
`modifies` and `ensures` clauses of a top-level procedure get one level, and a run of empty
lines becomes one empty line. Only blank characters are added or removed. -/
def indent (code : String) : String :=
  indentLines 0 false (lineChars code.toList)

end WasmBoogie.Boogie
