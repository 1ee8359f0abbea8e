import WasmBoogie.Instr.Op
import WasmBoogie.Instr.Error
import WasmBoogie.Instr.Locals

namespace WasmBoogie

open WasmBoogie.Text

/-- A strictly shorter rest of a token list. -/
abbrev Shorter (ts : List String) := { r : List String // r.length < ts.length }

/-- A rest of a token list that is no longer than it. -/
abbrev Within (ts : List String) := { r : List String // r.length ≤ ts.length }

/-- What ends a sequence of instructions; it is not consumed. -/
inductive Terminator where
  | close
  | endKeyword
  | elseKeyword
  | eof
  deriving Repr, DecidableEq, Inhabited

/-- What the body reader knows besides the tokens still to read: all the tokens, for positions
and error windows, and the local slots.

The reader is recursive descent over the tokens still to be read. An instruction in
parentheses is folded: its operands, arms and bodies are the forms inside it. Any other
instruction is flat: its immediates follow it, and a flat `block`, `loop` or `if` runs to its
`end`. A form whose head is no known instruction is kept by name and skipped as a whole.

Every reading step returns the rest of the tokens together with a proof that the rest is no
longer, and for a step that reads an instruction strictly shorter, than what it started from.
The reading functions recurse on the length of the tokens, with a level that orders the
functions that read from the same position, so they are total. -/
structure BodyReader where
  tokens : Array String
  locals : LocalTable

/-- The number type of a constant instruction such as `i32.const`. -/
def constType? (head : String) : Option NumType :=
  let cs := head.toList
  if ".const".toList.isSuffixOf cs then
    NumType.ofPrefix? (String.ofList (cs.take (cs.length - 6)))
  else none

/-- A token that a flat table branch takes as a target: digits, or a dollar sign and a name. -/
def isLabelToken (t : String) : Bool :=
  isDigits t || (t.startsWith "$" && t.length > 1)

/-- A token that a flat instruction of unknown shape takes as an immediate: one that starts
with a digit, a dollar sign or a sign, or one that holds an equals sign. -/
def isImmediate (t : String) : Bool :=
  (match t.toList with
   | c :: _ => isAsciiDigit c || c == '$' || c == '-' || c == '+'
   | [] => false) || t.contains '='

/-- Skips tokens to the parenthesis that closes a form already open, with `depth` more forms
open inside it; none if the tokens end first. -/
def skipNested : Nat → (ts : List String) → Option (Shorter ts)
  | _, [] => none
  | d, t :: rest =>
    if t = "(" then
      (skipNested (d + 1) rest).map fun r => ⟨r.1, by have := r.2; simp only [List.length_cons] at *; omega⟩
    else if t = ")" then
      match d with
      | 0 => some ⟨rest, by simp only [List.length_cons]; omega⟩
      | d + 1 => (skipNested d rest).map fun r => ⟨r.1, by have := r.2; simp only [List.length_cons] at *; omega⟩
    else (skipNested d rest).map fun r => ⟨r.1, by have := r.2; simp only [List.length_cons] at *; omega⟩

/-- Dropping a prefix never lengthens a list. -/
theorem length_dropWhile_le {α} (p : α → Bool) : ∀ l : List α, (l.dropWhile p).length ≤ l.length
  | [] => Nat.le_refl _
  | a :: as => by
    rw [List.dropWhile_cons]
    split
    · exact Nat.le_succ_of_le (length_dropWhile_le p as)
    · exact Nat.le_refl _

namespace BodyReader

variable (R : BodyReader)

/-- The position of the first of the remaining tokens. -/
def pos (ts : List String) : Nat :=
  R.tokens.size - ts.length

/-- The tokens around a position. -/
def window (i : Nat) : String :=
  tokenWindow R.tokens.toList i

/-- The input ended where more was needed. -/
def eof (ts : List String) : ParseError :=
  .unexpectedEof (R.pos ts) (R.window (R.pos ts))

/-- Something else was found at the first remaining token. -/
def expected (what : Expectation) : List String → ParseError
  | [] => R.eof []
  | t :: ts => .expected what t (R.pos (t :: ts)) (R.window (R.pos (t :: ts)))

/-- Something else was found at a given position. -/
def expectedAt (i : Nat) (what : Expectation) : ParseError :=
  .expected what (R.tokens[i]?.getD "") i (R.window i)

/-- The next token, which must be a word and not a parenthesis. -/
def nextAtom (what : Expectation) : (ts : List String) → Except ParseError (String × Shorter ts)
  | [] => .error (R.eof [])
  | t :: rest =>
    if t = "(" ∨ t = ")" then .error (R.expected what (t :: rest))
    else .ok (t, ⟨rest, by simp only [List.length_cons]; omega⟩)

/-- The closing parenthesis of the current form. -/
def expectClose : (ts : List String) → Except ParseError (Shorter ts)
  | ")" :: rest => .ok ⟨rest, by simp only [List.length_cons]; omega⟩
  | ts => .error (R.expected .closeParen ts)

/-- The rest of a form whose opening parenthesis is read. -/
def skipRestOfForm (ts : List String) : Except ParseError (Shorter ts) :=
  match skipNested 0 ts with
  | some r => .ok r
  | none => .error (R.eof [])

/-- A whole form, from its opening parenthesis. -/
def skipForm : (ts : List String) → Except ParseError (Shorter ts)
  | "(" :: rest => (R.skipRestOfForm rest).map fun r => ⟨r.1, by have := r.2; simp only [List.length_cons] at *; omega⟩
  | ts => .error (R.expected .openParen ts)

/-- A label, when the next token starts with a dollar sign; the label is what follows it. -/
def takeLabel : (ts : List String) → Option String × Within ts
  | t :: rest =>
    match dropDollar? t with
    | some name => (some name, ⟨rest, by simp⟩)
    | none => (none, ⟨t :: rest, Nat.le_refl _⟩)
  | [] => (none, ⟨[], Nat.le_refl _⟩)

/-- Skips the type annotations of a block: forms headed by `result`, `param` or `type`. -/
def skipAnnotations (ts : List String) : Except ParseError (Within ts) :=
  match ts with
  | "(" :: kw :: rest =>
    if kw = "result" ∨ kw = "param" ∨ kw = "type" then
      match R.skipForm ("(" :: kw :: rest) with
      | .ok r =>
        (skipAnnotations r.1).map fun r' => ⟨r'.1, by have := r.2; have := r'.2; omega⟩
      | .error e => .error e
    else .ok ⟨"(" :: kw :: rest, Nat.le_refl _⟩
  | other => .ok ⟨other, Nat.le_refl _⟩
termination_by ts.length
decreasing_by have := r.2; simp only [List.length_cons] at *; omega

/-- The slot a local reference names: a number, a declared name after a dollar sign, or digits
after a dollar sign. A number too large for 64 bits is read as the largest 64-bit word. The slot
must be below the number of slots. -/
def resolveLocal (token : String) (i : Nat) : Except ParseError Nat := do
  let saturate (s : String) : Nat := min (digitsValue s) (Nat.pow 2 64 - 1)
  let slot ← if isDigits token then pure (saturate token)
    else match dropDollar? token with
      | some name =>
        match R.locals.alias? name with
        | some s => pure s
        | none =>
          if isDigits name then pure (saturate name)
          else throw (.unresolvedLocal token i (R.window i))
      | none => throw (.unresolvedLocal token i (R.window i))
  if slot ≥ R.locals.slots then throw (.localOutOfRange slot R.locals.slots (R.window i))
  pure slot

/-- A local reference: the next token, resolved to a slot. -/
def localRef (ts : List String) : Except ParseError (Nat × Shorter ts) := do
  let (token, rest) ← R.nextAtom .localRef ts
  let slot ← R.resolveLocal token (R.pos ts)
  pure (slot, rest)

/-- The terminator that the next token is, if it is one. -/
def terminator? : List String → Option Terminator
  | [] => some .eof
  | ")" :: _ => some .close
  | "end" :: _ => some .endKeyword
  | "else" :: _ => some .elseKeyword
  | _ => none

/-- At most one operand, or the error for a folded instruction with more. -/
def atMostOne (headIndex : Nat) : List Instr → Except ParseError (Option Instr)
  | [] => .ok none
  | [n] => .ok (some n)
  | _ => .error (R.expectedAt headIndex .atMostOneOperand)

mutual

/-- One instruction, folded if it opens with a parenthesis and flat otherwise. -/
def node (ts : List String) : Except ParseError (Instr × Shorter ts) :=
  match ts with
  | [] => .error (R.eof [])
  | "(" :: rest => do
    let (n, ⟨r, h⟩) ← folded rest
    pure (n, ⟨r, by simp only [List.length_cons]; omega⟩)
  | ")" :: rest => .error (.unexpectedClose (R.pos (")" :: rest)) (R.window (R.pos (")" :: rest))))
  | t :: rest => flat (t :: rest)
termination_by (ts.length, 1)

/-- Instructions up to a terminator, which is left unread. -/
def instrs (ts : List String) : Except ParseError (List Instr × Terminator × Within ts) :=
  match terminator? ts with
  | some t => .ok ([], t, ⟨ts, Nat.le_refl _⟩)
  | none => do
    let (n, ⟨r, h⟩) ← node ts
    let (ns, t, ⟨r', h'⟩) ← instrs r
    pure (n :: ns, t, ⟨r', by omega⟩)
termination_by (ts.length, 2)

/-- The operands of a folded form, through its closing parenthesis. -/
def children (ts : List String) : Except ParseError (List Instr × Shorter ts) := do
  let (ns, t, ⟨r, h⟩) ← instrs ts
  match t with
  | .close =>
    match r, h with
    | _ :: rest, h => pure (ns, ⟨rest, by simp only [List.length_cons] at h; omega⟩)
    | [], _ => throw (R.eof [])
  | .eof => throw (R.eof [])
  | .endKeyword | .elseKeyword => throw (R.expected .closeParen r)
termination_by (ts.length, 3)

/-- The body of a flat block, loop or if arm, through its `end` or `else` and the label that
may follow it. -/
def flatBody (ts : List String) : Except ParseError (List Instr × Terminator × Shorter ts) := do
  let (ns, t, ⟨r, h⟩) ← instrs ts
  match t with
  | .endKeyword | .elseKeyword =>
    match r, h with
    | _ :: rest, h =>
      let (_, ⟨r', h'⟩) := takeLabel rest
      pure (ns, t, ⟨r', by simp only [List.length_cons] at h; omega⟩)
    | [], _ => throw (R.eof [])
  | .eof => throw (R.eof [])
  | .close => throw (R.expected .endKeyword r)
termination_by (ts.length, 3)

/-- A folded instruction after its opening parenthesis, through its closing one. -/
def folded (ts : List String) : Except ParseError (Instr × Shorter ts) := do
  let headIndex := R.pos ts
  let (head, ⟨r1, h1⟩) ← R.nextAtom .instructionName ts
  match constType? head with
  | some ty => do
    let (lit, ⟨r2, h2⟩) ← R.nextAtom .literal r1
    let ⟨r3, h3⟩ ← R.expectClose r2
    pure (.const ty lit, ⟨r3, by omega⟩)
  | none =>
  if head = "local.get" then do
    let (slot, ⟨r2, h2⟩) ← R.localRef r1
    let ⟨r3, h3⟩ ← R.expectClose r2
    pure (.localGet slot, ⟨r3, by omega⟩)
  else if head = "local.set" ∨ head = "local.tee" then do
    let (slot, ⟨r2, h2⟩) ← R.localRef r1
    let (ns, ⟨r3, h3⟩) ← children r2
    let value ← R.atMostOne headIndex ns
    let n := if head = "local.set" then Instr.localSet slot value else Instr.localTee slot value
    pure (n, ⟨r3, by omega⟩)
  else if head = "call" then do
    let (target, ⟨r2, h2⟩) ← R.nextAtom .callTarget r1
    let (args, ⟨r3, h3⟩) ← children r2
    pure (.call target args, ⟨r3, by omega⟩)
  else match OpClass.classify head with
  | some (.unary _) => do
    let (ns, ⟨r2, h2⟩) ← children r1
    let operand ← R.atMostOne headIndex ns
    pure (.unary head operand, ⟨r2, by omega⟩)
  | some (.binary _) => do
    let (ns, ⟨r2, h2⟩) ← children r1
    match ns with
    | [] => pure (.binary head none none, ⟨r2, by omega⟩)
    | [b] => pure (.binary head none (some b), ⟨r2, by omega⟩)
    | [a, b] => pure (.binary head (some a) (some b), ⟨r2, by omega⟩)
    | _ => throw (R.expectedAt headIndex .atMostTwoOperands)
  | none =>
  if head = "block" ∨ head = "loop" then do
    let (label, ⟨r2, h2⟩) := takeLabel r1
    let ⟨r3, h3⟩ ← R.skipAnnotations r2
    let (body, ⟨r4, h4⟩) ← children r3
    let n := if head = "block" then Instr.block label body else Instr.loop label body
    pure (n, ⟨r4, by omega⟩)
  else if head = "if" then do
    let start := R.pos r1
    let (label, ⟨r2, h2⟩) := takeLabel r1
    let ⟨r3, h3⟩ ← R.skipAnnotations r2
    let ((cond, thenBody, elseBody), ⟨r4, h4⟩) ← ifArms start r3 [] none none
    pure (.ite label cond thenBody elseBody, ⟨r4, by omega⟩)
  else if head = "br" ∨ head = "br_if" then do
    let (target, ⟨r2, h2⟩) ← R.nextAtom .branchTarget r1
    let (ops, ⟨r3, h3⟩) ← children r2
    let t := LabelRef.ofToken target
    let n := if head = "br" then Instr.br t ops else Instr.brIf t ops
    pure (n, ⟨r3, by omega⟩)
  else if head = "br_table" then do
    let ((ops, targets), ⟨r2, h2⟩) ← tableArgs r1 [] []
    match ops, targets.reverse with
    | [], _ => throw (.brTableWithoutSelector headIndex (R.window headIndex))
    | _, [] => throw (.brTableWithoutTargets headIndex (R.window headIndex))
    | _, d :: rev => pure (.brTable ops rev.reverse d, ⟨r2, by omega⟩)
  else if head = "return" then do
    let (ops, ⟨r2, h2⟩) ← children r1
    pure (.ret ops, ⟨r2, by omega⟩)
  else if head = "nop" ∨ head = "unreachable" then do
    let ⟨r2, h2⟩ ← R.expectClose r1
    pure (if head = "nop" then .nop else .unreachable, ⟨r2, by omega⟩)
  else if head = "select" then do
    let ⟨r2, h2⟩ ← R.skipAnnotations r1
    let (ops, ⟨r3, h3⟩) ← children r2
    if ops.length > 3 then throw (R.expectedAt headIndex .atMostThreeOperands)
    pure (.select ops, ⟨r3, by omega⟩)
  else match StructuralHead.ofKeyword? head with
  | some sh => do
    let (body, ⟨r2, h2⟩) ← children r1
    pure (.structural sh body, ⟨r2, by omega⟩)
  | none => do
    let ⟨r2, h2⟩ ← R.skipRestOfForm r1
    pure (.raw head, ⟨r2, by omega⟩)
termination_by (ts.length, 0)

/-- The arms of a folded `if` after its label and annotations: condition operands, then the
`(then ...)` and `(else ...)` arms, through the closing parenthesis. Without a `then` arm, two
operands are a condition and a then arm, and three add an else arm. -/
def ifArms (start : Nat) (ts : List String) (cond : List Instr) (thenBody : Option (List Instr))
    (elseBody : Option (List Instr)) :
    Except ParseError ((List Instr × List Instr × Option (List Instr)) × Shorter ts) :=
  match ts with
  | [] => .error (R.eof [])
  | ")" :: rest => do
    let arms ← match thenBody with
      | some t => pure (cond, t, elseBody)
      | none =>
        let (cond, elseBody) :=
          match elseBody, cond.reverse with
          | none, [c, b, a] => ([a, b], some [c])
          | e, _ => (cond, e)
        match cond with
        | [a, b] => pure ([a], [b], elseBody)
        | _ => throw (R.expectedAt start .conditionAndThen)
    pure (arms, ⟨rest, by simp only [List.length_cons]; omega⟩)
  | "(" :: "then" :: rest =>
    if thenBody.isNone then do
      let (body, ⟨r, h⟩) ← children rest
      let (res, ⟨r', h'⟩) ← ifArms start r cond (some body) elseBody
      pure (res, ⟨r', by simp only [List.length_cons]; omega⟩)
    else ifArmsOther start ("(" :: "then" :: rest) cond thenBody elseBody
  | "(" :: "else" :: rest =>
    if elseBody.isNone then do
      let (body, ⟨r, h⟩) ← children rest
      let (res, ⟨r', h'⟩) ← ifArms start r cond thenBody (some body)
      pure (res, ⟨r', by simp only [List.length_cons]; omega⟩)
    else ifArmsOther start ("(" :: "else" :: rest) cond thenBody elseBody
  | t :: rest => ifArmsOther start (t :: rest) cond thenBody elseBody
termination_by (ts.length, 3)

/-- A form inside a folded `if` that is no arm: after the then arm it is an error, before it a
condition operand. -/
def ifArmsOther (start : Nat) (ts : List String) (cond : List Instr)
    (thenBody : Option (List Instr)) (elseBody : Option (List Instr)) :
    Except ParseError ((List Instr × List Instr × Option (List Instr)) × Shorter ts) :=
  if thenBody.isSome then .error (R.expected .elseArmOrClose ts)
  else do
    let (n, ⟨r, h⟩) ← node ts
    let (res, ⟨r', h'⟩) ← ifArms start r (cond ++ [n]) thenBody elseBody
    pure (res, ⟨r', by omega⟩)
termination_by (ts.length, 2)

/-- The operands and targets of a folded table branch, through its closing parenthesis;
operands are folded forms and targets are words. -/
def tableArgs (ts : List String) (ops : List Instr) (targets : List LabelRef) :
    Except ParseError ((List Instr × List LabelRef) × Shorter ts) :=
  match ts with
  | [] => .error (R.eof [])
  | ")" :: rest => .ok ((ops, targets), ⟨rest, by simp only [List.length_cons]; omega⟩)
  | "(" :: rest => do
    let (n, ⟨r, h⟩) ← folded rest
    let (res, ⟨r', h'⟩) ← tableArgs r (ops ++ [n]) targets
    pure (res, ⟨r', by simp only [List.length_cons]; omega⟩)
  | t :: rest => do
    let (res, ⟨r', h'⟩) ← tableArgs rest ops (targets ++ [LabelRef.ofToken t])
    pure (res, ⟨r', by simp only [List.length_cons]; omega⟩)
termination_by (ts.length, 2)

/-- A flat instruction and its immediates; a flat block, loop or if runs through its `end`. -/
def flat (ts : List String) : Except ParseError (Instr × Shorter ts) := do
  let headIndex := R.pos ts
  let (head, ⟨r1, h1⟩) ← R.nextAtom .instruction ts
  match constType? head with
  | some ty => do
    let (lit, ⟨r2, h2⟩) ← R.nextAtom .literal r1
    pure (.const ty lit, ⟨r2, by omega⟩)
  | none =>
  match OpClass.classify head with
  | some (.unary _) => pure (.unary head none, ⟨r1, h1⟩)
  | some (.binary _) => pure (.binary head none none, ⟨r1, h1⟩)
  | none =>
  if head = "local.get" ∨ head = "local.set" ∨ head = "local.tee" then do
    let (slot, ⟨r2, h2⟩) ← R.localRef r1
    let n := if head = "local.get" then Instr.localGet slot
      else if head = "local.set" then Instr.localSet slot none else Instr.localTee slot none
    pure (n, ⟨r2, by omega⟩)
  else if head = "call" then do
    let (target, ⟨r2, h2⟩) ← R.nextAtom .callTarget r1
    pure (.call target [], ⟨r2, by omega⟩)
  else if head = "block" ∨ head = "loop" then do
    let (label, ⟨r2, h2⟩) := takeLabel r1
    let ⟨r3, h3⟩ ← R.skipAnnotations r2
    let (body, t, ⟨r4, h4⟩) ← flatBody r3
    if t = .elseKeyword then throw (R.expectedAt (R.pos r4 - 1) .endKeyword)
    let n := if head = "block" then Instr.block label body else Instr.loop label body
    pure (n, ⟨r4, by omega⟩)
  else if head = "if" then do
    let (label, ⟨r2, h2⟩) := takeLabel r1
    let ⟨r3, h3⟩ ← R.skipAnnotations r2
    let (thenBody, t, ⟨r4, h4⟩) ← flatBody r3
    if t = .elseKeyword then do
      let (elseBody, t', ⟨r5, h5⟩) ← flatBody r4
      if t' = .elseKeyword then throw (R.expectedAt (R.pos r5 - 1) .endKeyword)
      pure (.ite label [] thenBody (some elseBody), ⟨r5, by omega⟩)
    else
      pure (.ite label [] thenBody none, ⟨r4, by omega⟩)
  else if head = "br" ∨ head = "br_if" then do
    let (target, ⟨r2, h2⟩) ← R.nextAtom .branchTarget r1
    let t := LabelRef.ofToken target
    pure (if head = "br" then .br t [] else .brIf t [], ⟨r2, by omega⟩)
  else if head = "br_table" then do
    let targets := r1.takeWhile isLabelToken
    have h2 := length_dropWhile_le isLabelToken r1
    match (targets.map LabelRef.ofToken).reverse with
    | [] => throw (.brTableWithoutTargets headIndex (R.window headIndex))
    | d :: rev => pure (.brTable [] rev.reverse d, ⟨r1.dropWhile isLabelToken, by omega⟩)
  else if head = "return" then pure (.ret [], ⟨r1, h1⟩)
  else if head = "nop" then pure (.nop, ⟨r1, h1⟩)
  else if head = "unreachable" then pure (.unreachable, ⟨r1, h1⟩)
  else if head = "select" then do
    let ⟨r2, h2⟩ ← R.skipAnnotations r1
    pure (.select [], ⟨r2, by omega⟩)
  else
    have h2 := length_dropWhile_le isImmediate r1
    pure (.raw head, ⟨r1.dropWhile isImmediate, by omega⟩)
termination_by (ts.length, 0)

end

/-- A function body: instructions up to a closing parenthesis or the end of the tokens. -/
def functionBody (ts : List String) : Except ParseError (List Instr × Within ts) := do
  let (ns, t, r) ← R.instrs ts
  match t with
  | .close | .eof => pure (ns, r)
  | _ => throw (R.expected .instructionOrClose r.1)

end BodyReader

/-- Reads a bare instruction sequence over the given number of anonymous local slots; the
whole text must be read. -/
def parseBody (text : String) (slots : Nat) : Except ParseError (List Instr) := do
  let tokens := tokenize text
  let R : BodyReader := ⟨tokens.toArray, LocalTable.withSlots slots⟩
  let (body, r) ← R.functionBody tokens
  match r.1 with
  | [] => pure body
  | rest => throw (.unexpectedClose (R.pos rest) (R.window (R.pos rest)))

end WasmBoogie
