import WasmBoogie.Instr.Reader

namespace WasmBoogie

open WasmBoogie.Text

/-- What the header of a function has declared so far. -/
structure Header where
  params : Nat := 0
  locals : Nat := 0
  results : Nat := 0
  table : LocalTable := {}
  deriving Inhabited

namespace BodyReader

variable (R : BodyReader)

/-- The slots of one `param` or `local` declaration after its keyword, through its closing
parenthesis: one named slot, or one anonymous slot per type. -/
def slotDeclaration (table : LocalTable) (ts : List String) :
    Except ParseError ((Nat × LocalTable) × Shorter ts) :=
  match takeLabel ts with
  | (some name, ⟨r, h⟩) => do
    let ⟨r', h'⟩ ← R.skipRestOfForm r
    pure ((1, table.declare (some name)), ⟨r', by omega⟩)
  | (none, _) => anonymous table 0 ts
where
  /-- Anonymous slots, one per type or type form. -/
  anonymous (table : LocalTable) (count : Nat) (ts : List String) :
      Except ParseError ((Nat × LocalTable) × Shorter ts) :=
    match ts with
    | [] => .error (R.eof [])
    | ")" :: rest => .ok ((count, table), ⟨rest, by simp⟩)
    | "(" :: rest => do
      let ⟨r, h⟩ ← R.skipRestOfForm rest
      let (res, ⟨r', h'⟩) ← anonymous (table.declare none) (count + 1) r
      pure (res, ⟨r', by simp; omega⟩)
    | t :: rest => do
      let (res, ⟨r', h'⟩) ← anonymous (table.declare none) (count + 1) rest
      pure (res, ⟨r', by simp; omega⟩)
  termination_by ts.length

/-- The result types of a `result` declaration after its keyword, through its closing
parenthesis: one per word or type form. -/
def resultTypes (count : Nat) (ts : List String) : Except ParseError (Nat × Shorter ts) :=
  match ts with
  | [] => .error (R.eof [])
  | ")" :: rest => .ok (count, ⟨rest, by simp⟩)
  | "(" :: rest => do
    let ⟨r, h⟩ ← R.skipRestOfForm rest
    let (res, ⟨r', h'⟩) ← resultTypes (count + 1) r
    pure (res, ⟨r', by simp; omega⟩)
  | t :: rest => do
    let (res, ⟨r', h'⟩) ← resultTypes (count + 1) rest
    pure (res, ⟨r', by simp; omega⟩)
termination_by ts.length

/-- The declarations at the head of a function, up to the first token that starts no
declaration. With the binary's counts, the slots of parameters the text leaves out are
declared before the first local. -/
def header (sig : Option Signature) (h : Header) (ts : List String) :
    Except ParseError (Header × Within ts) :=
  match ts with
  | "(" :: kw :: rest =>
    if kw = "export" ∨ kw = "import" ∨ kw = "type" then do
      let ⟨r, hr⟩ ← R.skipRestOfForm (kw :: rest)
      let (res, ⟨r', hr'⟩) ← header sig h r
      pure (res, ⟨r', by simp at hr ⊢; omega⟩)
    else if kw = "param" then do
      let ((n, table), ⟨r, hr⟩) ← R.slotDeclaration h.table rest
      let (res, ⟨r', hr'⟩) ← header sig { h with params := h.params + n, table } r
      pure (res, ⟨r', by simp; omega⟩)
    else if kw = "local" then do
      let padded := match sig with
        | some s => h.table.padTo s.params
        | none => h.table
      let ((n, table), ⟨r, hr⟩) ← R.slotDeclaration padded rest
      let (res, ⟨r', hr'⟩) ← header sig { h with locals := h.locals + n, table } r
      pure (res, ⟨r', by simp; omega⟩)
    else if kw = "result" then do
      let (n, ⟨r, hr⟩) ← R.resultTypes 0 rest
      let (res, ⟨r', hr'⟩) ← header sig { h with results := h.results + n } r
      pure (res, ⟨r', by simp; omega⟩)
    else .ok (h, ⟨"(" :: kw :: rest, Nat.le_refl _⟩)
  | other => .ok (h, ⟨other, Nat.le_refl _⟩)
termination_by ts.length
decreasing_by all_goals (simp only [List.length_cons] at *; omega)

end BodyReader

/-- Reads the text of one function, `(func $name header body)`, as the function with the given
index. With the binary's counts, those are the function's counts.

The header of a function declares, in any order, exports, imports and a type use (all
skipped), parameters, results and locals. Every parameter and local takes the next slot; a
declaration with a name declares one slot, an anonymous one a slot per type. When the module's
binary gives the function's counts, they win over the declared ones, and the locals are laid
out after all the parameters the binary gives. The body follows the header, and nothing may
follow the function's closing parenthesis. -/
def parseFunction (text : String) (index : Nat) (sig : Option Signature) :
    Except ParseError Function := do
  let tokens := tokenize text
  let R : BodyReader := ⟨tokens.toArray, {}⟩
  let afterOpen ← match tokens with
    | "(" :: rest => pure rest
    | ts => throw (R.expected .openParen ts)
  let afterFunc ← match afterOpen with
    | "func" :: rest => pure rest
    | ts => throw (R.expected .funcKeyword ts)
  let (name, ⟨afterName, _⟩) := BodyReader.takeLabel afterFunc
  let (h, ⟨afterHeader, _⟩) ← R.header sig {} afterName
  let (params, locals, results) := match sig with
    | some s => (s.params, s.locals, s.results)
    | none => (h.params, h.locals, h.results)
  let table := { h.table with slots := (params + locals) % Nat.pow 2 32 }
  let R' : BodyReader := { R with locals := table }
  let (body, ⟨afterBody, _⟩) ← R'.functionBody afterHeader
  let ⟨afterClose, _⟩ ← R'.expectClose afterBody
  match afterClose with
  | [] => pure ()
  | ts => throw (R'.expected .endOfFunction ts)
  pure {
    name, index, body
    paramCount := params
    localCount := locals
    resultCount := results
    aliases := table.aliases }

end WasmBoogie
