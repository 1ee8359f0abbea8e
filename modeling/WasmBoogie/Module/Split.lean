import WasmBoogie.Text.Token

namespace WasmBoogie

open WasmBoogie.Text

/-- The number of tokens of the form that the first token opens, through its closing
parenthesis, or all of them if it is never closed; `depth` counts forms already open. -/
def formLength : Nat → List String → Nat
  | _, [] => 0
  | d, "(" :: rest => formLength (d + 1) rest + 1
  | d, ")" :: rest => if d ≤ 1 then 1 else formLength (d - 1) rest + 1
  | d, _ :: rest => formLength d rest + 1

/-- A form of one token or more is at least one token long. -/
theorem formLength_pos (d : Nat) (t : String) (rest : List String) :
    0 < formLength d (t :: rest) := by
  rw [formLength.eq_def]
  split
  · simp at *
  · omega
  · split <;> omega
  · omega

/-- Whether the forms after the keyword and name of a function, skipping exports, reach an
`import` form: then the function is an inline import. -/
def importsInline : List String → Bool
  | "(" :: "import" :: _ => true
  | "(" :: "export" :: rest =>
    importsInline (("(" :: "export" :: rest).drop (formLength 0 ("(" :: "export" :: rest)))
  | _ => false
termination_by ts => ts.length
decreasing_by
  have := formLength_pos 0 "(" ("export" :: rest)
  simp only [List.length_drop, List.length_cons]
  omega

/-- A function form that only declares an imported function. -/
def isInlineImport (form : List String) : Bool :=
  let afterName := match form.drop 2 with
    | t :: rest => if t.startsWith "$" then rest else t :: rest
    | [] => []
  importsInline afterName

/-- The function forms at the given depth of the remaining tokens; `depth` counts the forms
open around them. -/
def functionForms (top : Nat) (depth : Nat) (ts : List String) : List (List String) :=
  match ts with
  | [] => []
  | "(" :: rest =>
    if depth = top ∧ rest.head? = some "func" then
      let n := formLength 0 ("(" :: rest)
      let form := ("(" :: rest).take n
      (if isInlineImport form then [] else [form]) ++ functionForms top depth (("(" :: rest).drop n)
    else functionForms top (depth + 1) rest
  | ")" :: rest => functionForms top (depth - 1) rest
  | _ :: rest => functionForms top depth rest
termination_by ts.length
decreasing_by
  all_goals
    have hpos := formLength_pos 0 "(" rest
    simp only [List.length_drop, List.length_cons]
    omega

/-- The texts of the defined functions of a module, in order.

The function forms are the `(func ...)` forms at the top level of the module, inside
`(module ...)` or, without that wrapper, at the outermost level. A form that declares an
inline import, `(func $f (export ...) (import ...) ...)`, defines no function and is skipped.
Each function's text is its tokens joined by single spaces; a form that is never closed runs to
the end of the text. -/
def splitFunctions (text : String) : List String :=
  let ts := tokenize text
  let top := if ts[1]? = some "module" then 1 else 0
  (functionForms top 0 ts).map (" ".intercalate ·)

end WasmBoogie
