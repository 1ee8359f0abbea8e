import WasmBoogie.Instr.Reader

namespace WasmBoogie

open WasmBoogie.Text

namespace Except

variable {ε α β : Type}

theorem ok_bind (a : α) (f : α → Except ε β) : (Except.ok a >>= f) = f a := rfl

theorem error_bind (e : ε) (f : α → Except ε β) : (Except.error e >>= f) = .error e := rfl

theorem toOption_ok (a : α) : (Except.ok a : Except ε α).toOption = some a := rfl

theorem toOption_error (e : ε) : (Except.error e : Except ε α).toOption = none := rfl

/-- A bound check that throws succeeds on the value it lets through, whatever the error. -/
theorem toOption_check (c : Prop) [Decidable c] (e : ε) (a : α) :
    (if c then (Except.error e : Except ε α) else .ok a).toOption = if c then none else some a := by
  split <;> rfl

end Except

/-- The slot a local reference names in a table, if it names one. -/
def LocalTable.slotOf? (locals : LocalTable) (token : String) : Option Nat :=
  (BodyReader.resolveLocal ⟨#[], locals⟩ token 0).toOption

/-- The closing parenthesis of a form, and what follows it. -/
def closing? : List String → Option (List String)
  | ")" :: rest => some rest
  | _ => none

/-- A two-operand operator written folded with its operands: none, the right one, or both. -/
def binaryOperands (op : String) : List Instr → Option Instr
  | [] => some (.binary op none none)
  | [b] => some (.binary op none (some b))
  | [a, b] => some (.binary op (some a) (some b))
  | _ => none

/-- The words that start the instructions the reader knows by name. -/
def instructionKeywords : List String :=
  ["local.get", "local.set", "local.tee", "call", "block", "loop", "if", "br", "br_if", "br_table",
    "return", "nop", "unreachable", "select"]

/-- No instruction keyword names a constant. -/
theorem constType?_keyword : ∀ kw ∈ instructionKeywords, constType? kw = none := by decide

/-- No instruction keyword names an operator. -/
theorem classify_keyword : ∀ kw ∈ instructionKeywords, OpClass.classify kw = none := by decide

namespace BodyReader

variable (R : BodyReader)

/-- One instruction, when it reads: the instruction and the rest. -/
def node? (ts : List String) : Option (Instr × List String) :=
  (R.node ts).toOption.map fun res => (res.1, res.2.1)

/-- A folded instruction after its opening parenthesis, when it reads. -/
def folded? (ts : List String) : Option (Instr × List String) :=
  (R.folded ts).toOption.map fun res => (res.1, res.2.1)

/-- A flat instruction, when it reads. -/
def flat? (ts : List String) : Option (Instr × List String) :=
  (R.flat ts).toOption.map fun res => (res.1, res.2.1)

/-- Instructions up to a terminator, when they read: the instructions, the terminator and the
rest, which starts with the terminator. -/
def instrs? (ts : List String) : Option (List Instr × Terminator × List String) :=
  (R.instrs ts).toOption.map fun res => (res.1, res.2.1, res.2.2.1)

/-- The operands of a folded form through its closing parenthesis, when they read. -/
def children? (ts : List String) : Option (List Instr × List String) :=
  (R.children ts).toOption.map fun res => (res.1, res.2.1)

/-- The body of a flat block or arm through its `end` or `else` and its label, when it reads. -/
def flatBody? (ts : List String) : Option (List Instr × Terminator × List String) :=
  (R.flatBody ts).toOption.map fun res => (res.1, res.2.1, res.2.2.1)

/-- The arms of a folded `if` through its closing parenthesis, when they read. -/
def ifArms? (start : Nat) (ts : List String) (cond : List Instr) (thenBody : Option (List Instr))
    (elseBody : Option (List Instr)) :
    Option ((List Instr × List Instr × Option (List Instr)) × List String) :=
  (R.ifArms start ts cond thenBody elseBody).toOption.map fun res => (res.1, res.2.1)

/-- The operands and targets of a folded table branch, when they read. -/
def tableArgs? (ts : List String) (ops : List Instr) (targets : List LabelRef) :
    Option ((List Instr × List LabelRef) × List String) :=
  (R.tableArgs ts ops targets).toOption.map fun res => (res.1, res.2.1)

/-- What follows the type annotations at the head of the tokens, when they are well formed. -/
def skipAnnotations? (ts : List String) : Option (List String) :=
  (R.skipAnnotations ts).toOption.map Subtype.val

theorem resolveLocal_toOption (token : String) (i : Nat) :
    (R.resolveLocal token i).toOption = R.locals.slotOf? token := by
  unfold LocalTable.slotOf? resolveLocal
  simp only [bind, Except.bind, throw, throwThe, MonadExceptOf.throw, pure, Except.pure]
  by_cases digits : isDigits token
  · simp [digits, Except.toOption_check]
  rcases named : dropDollar? token with _ | name
  · simp [digits, Except.toOption_error]
  rcases aliased : R.locals.alias? name with _ | s
  · by_cases nameDigits : isDigits name <;>
      simp [digits, aliased, nameDigits, Except.toOption_check, Except.toOption_error]
  · simp [digits, aliased, Except.toOption_check]

theorem node?_open (ts : List String) : R.node? ("(" :: ts) = R.folded? ts := by
  unfold node? folded?
  rw [node]
  rcases R.folded ts with e | ⟨n, r, h⟩ <;> rfl

theorem node?_word {t : String} (ts : List String) (notOpen : t ≠ "(") (notClose : t ≠ ")") :
    R.node? (t :: ts) = R.flat? (t :: ts) := by
  unfold node? flat?
  rw [node.eq_4 _ _ _ notOpen notClose]

theorem instrs?_stop {ts : List String} {t : Terminator} (stops : terminator? ts = some t) :
    R.instrs? ts = some ([], t, ts) := by
  unfold instrs?
  rw [instrs, stops]
  rfl

theorem instrs?_step {ts : List String} (going : terminator? ts = none) :
    R.instrs? ts = (R.node? ts).bind fun (n, r) =>
      (R.instrs? r).map fun (ns, t, r') => (n :: ns, t, r') := by
  unfold instrs? node?
  rw [instrs, going]
  rcases R.node ts with e | ⟨n, r, h⟩
  · rfl
  · rcases continued : R.instrs r with e | ⟨ns, t, r', h'⟩ <;>
      simp [bind, Except.bind, continued, Except.toOption, pure, Except.pure]

theorem children?_eq (ts : List String) :
    R.children? ts = (R.instrs? ts).bind fun
      | (ns, .close, _ :: rest) => some (ns, rest)
      | _ => none := by
  unfold children? instrs?
  rw [children]
  rcases R.instrs ts with e | ⟨ns, t, r, h⟩
  · rfl
  · cases t <;> cases r <;> rfl

theorem children?_close (rest : List String) : R.children? (")" :: rest) = some ([], rest) := by
  rw [children?_eq, instrs?_stop R rfl]
  rfl

theorem flatBody?_eq (ts : List String) :
    R.flatBody? ts = (R.instrs? ts).bind fun
      | (ns, .endKeyword, _ :: rest) => some (ns, .endKeyword, (takeLabel rest).2.1)
      | (ns, .elseKeyword, _ :: rest) => some (ns, .elseKeyword, (takeLabel rest).2.1)
      | _ => none := by
  unfold flatBody? instrs?
  rw [flatBody]
  rcases R.instrs ts with e | ⟨ns, t, r, h⟩
  · rfl
  · cases t <;> cases r <;> rfl

theorem ifArms?_close_then (start : Nat) (rest : List String) (cond thenBody : List Instr)
    (elseBody : Option (List Instr)) :
    R.ifArms? start (")" :: rest) cond (some thenBody) elseBody =
      some ((cond, thenBody, elseBody), rest) := by
  unfold ifArms?
  rw [ifArms.eq_2]
  rfl

/-- Without a then arm, two operands are a condition and a then arm. -/
theorem ifArms?_close_two (start : Nat) (rest : List String) (c t : Instr) :
    R.ifArms? start (")" :: rest) [c, t] none none = some (([c], [t], none), rest) := by
  unfold ifArms?
  rw [ifArms.eq_4 _ _ _ _ c t fun _ _ _ _ three => by simp at three]
  rfl

/-- Without a then arm, three operands are a condition, a then arm and an else arm. -/
theorem ifArms?_close_three (start : Nat) (rest : List String) (c t e : Instr) :
    R.ifArms? start (")" :: rest) [c, t, e] none none = some (([c], [t], some [e]), rest) := by
  unfold ifArms?
  rw [ifArms.eq_3 _ _ _ _ e t c rfl]
  rfl

theorem ifArms?_then (start : Nat) (ts : List String) (cond : List Instr)
    (elseBody : Option (List Instr)) :
    R.ifArms? start ("(" :: "then" :: ts) cond none elseBody =
      (R.children? ts).bind fun (body, r) => R.ifArms? start r cond (some body) elseBody := by
  unfold ifArms? children?
  rw [ifArms.eq_6]
  simp only [Option.isNone_none, ↓reduceIte]
  rcases R.children ts with e | ⟨body, r, h⟩
  · rfl
  · rcases continued : R.ifArms start r cond (some body) elseBody with e | ⟨res, r', h'⟩ <;>
      simp [bind, Except.bind, continued, Except.toOption, pure, Except.pure]

theorem ifArms?_else (start : Nat) (ts : List String) (cond : List Instr)
    (thenBody : Option (List Instr)) :
    R.ifArms? start ("(" :: "else" :: ts) cond thenBody none =
      (R.children? ts).bind fun (body, r) => R.ifArms? start r cond thenBody (some body) := by
  unfold ifArms? children?
  rw [ifArms.eq_7]
  simp only [Option.isNone_none, ↓reduceIte]
  rcases R.children ts with e | ⟨body, r, h⟩
  · rfl
  · rcases continued : R.ifArms start r cond thenBody (some body) with e | ⟨res, r', h'⟩ <;>
      simp [bind, Except.bind, continued, Except.toOption, pure, Except.pure]

/-- Before its then arm, a form inside a folded `if` that opens no arm is one more operand. -/
theorem ifArms?_operand (start : Nat) {t : String} (ts : List String) (cond : List Instr)
    (elseBody : Option (List Instr)) (notClose : t ≠ ")")
    (notArm : t = "(" → ts.head? ≠ some "then" ∧ ts.head? ≠ some "else") :
    R.ifArms? start (t :: ts) cond none elseBody =
      (R.node? (t :: ts)).bind fun (n, r) => R.ifArms? start r (cond ++ [n]) none elseBody := by
  unfold ifArms? node?
  rw [ifArms.eq_8 _ _ _ _ _ _ _ notClose (fun _ opens armed => (notArm opens).1 (by simp [armed]))
    (fun _ opens armed => (notArm opens).2 (by simp [armed])), ifArmsOther.eq_1, if_neg (by simp)]
  rcases R.node (t :: ts) with e | ⟨n, r, h⟩
  · rfl
  · rcases continued : R.ifArms start r (cond ++ [n]) none elseBody with e | ⟨res, r', h'⟩ <;>
      simp [bind, Except.bind, continued, Except.toOption, pure, Except.pure]

theorem tableArgs?_close (rest : List String) (ops : List Instr) (targets : List LabelRef) :
    R.tableArgs? (")" :: rest) ops targets = some ((ops, targets), rest) := by
  unfold tableArgs?
  rw [tableArgs.eq_2]
  rfl

theorem tableArgs?_open (ts : List String) (ops : List Instr) (targets : List LabelRef) :
    R.tableArgs? ("(" :: ts) ops targets =
      (R.folded? ts).bind fun (n, r) => R.tableArgs? r (ops ++ [n]) targets := by
  unfold tableArgs? folded?
  rw [tableArgs.eq_3]
  rcases R.folded ts with e | ⟨n, r, h⟩
  · rfl
  · rcases continued : R.tableArgs r (ops ++ [n]) targets with e | ⟨res, r', h'⟩ <;>
      simp [bind, Except.bind, continued, Except.toOption, pure, Except.pure]

theorem tableArgs?_word {t : String} (ts : List String) (ops : List Instr) (targets : List LabelRef)
    (notOpen : t ≠ "(") (notClose : t ≠ ")") :
    R.tableArgs? (t :: ts) ops targets = R.tableArgs? ts ops (targets ++ [LabelRef.ofToken t]) := by
  unfold tableArgs?
  rw [tableArgs.eq_4 _ _ _ _ _ notClose notOpen]
  rcases R.tableArgs ts ops (targets ++ [LabelRef.ofToken t]) with e | ⟨res, r', h'⟩ <;> rfl

/-- An annotation form is skipped through its closing parenthesis. -/
theorem skipAnnotations?_form {kw : String} (ts : List String)
    (annotating : kw = "result" ∨ kw = "param" ∨ kw = "type") :
    R.skipAnnotations? ("(" :: kw :: ts) =
      (skipNested 0 (kw :: ts)).bind fun r => R.skipAnnotations? r.1 := by
  unfold skipAnnotations?
  rw [skipAnnotations.eq_1, if_pos annotating]
  simp only [skipForm, skipRestOfForm]
  rcases skipNested 0 (kw :: ts) with _ | ⟨r, h⟩
  · rfl
  · show Option.map Subtype.val (Except.map _ (R.skipAnnotations r)).toOption =
      Option.map Subtype.val (R.skipAnnotations r).toOption
    rcases R.skipAnnotations r with e | ⟨r', h'⟩ <;> rfl

/-- Tokens that open no annotation are left as they are. -/
theorem skipAnnotations?_none {ts : List String}
    (none : ∀ kw rest, ts = "(" :: kw :: rest → ¬(kw = "result" ∨ kw = "param" ∨ kw = "type")) :
    R.skipAnnotations? ts = some ts := by
  unfold skipAnnotations?
  by_cases opens : ∃ kw rest, ts = "(" :: kw :: rest
  · obtain ⟨kw, rest, rfl⟩ := opens
    rw [skipAnnotations.eq_1, if_neg (none kw rest rfl)]
    rfl
  · rw [skipAnnotations.eq_2 _ _ fun kw rest same => opens ⟨kw, rest, same⟩]
    rfl

theorem flat?_const {kw lit : String} {ty : NumType} (rest : List String)
    (typed : constType? kw = some ty) (word : lit ≠ "(" ∧ lit ≠ ")") :
    R.flat? (kw :: lit :: rest) = some (.const ty lit, rest) := by
  have notParen : ¬(kw = "(" ∨ kw = ")") := by
    rintro (rfl | rfl) <;>
      simp [show constType? "(" = none by decide, show constType? ")" = none by decide] at typed
  unfold flat?
  rw [flat]
  simp only [nextAtom, if_neg notParen, Except.ok_bind, typed, if_neg (not_or.2 word)]
  rfl

theorem flat?_unary {kw : String} {k : UnaryKind} (rest : List String)
    (untyped : constType? kw = none) (unary : OpClass.classify kw = some (.unary k)) :
    R.flat? (kw :: rest) = some (.unary kw none, rest) := by
  have notParen : ¬(kw = "(" ∨ kw = ")") := by
    rintro (rfl | rfl) <;>
      simp [show OpClass.classify "(" = none by decide, show OpClass.classify ")" = none by decide] at unary
  unfold flat?
  rw [flat]
  simp only [nextAtom, if_neg notParen, Except.ok_bind, untyped, unary]
  rfl

theorem flat?_binary {kw : String} {k : BinaryKind} (rest : List String)
    (untyped : constType? kw = none) (binary : OpClass.classify kw = some (.binary k)) :
    R.flat? (kw :: rest) = some (.binary kw none none, rest) := by
  have notParen : ¬(kw = "(" ∨ kw = ")") := by
    rintro (rfl | rfl) <;>
      simp [show OpClass.classify "(" = none by decide, show OpClass.classify ")" = none by decide] at binary
  unfold flat?
  rw [flat]
  simp only [nextAtom, if_neg notParen, Except.ok_bind, untyped, binary]
  rfl

theorem flat?_local {kw ref : String} (rest : List String)
    (access : kw = "local.get" ∨ kw = "local.set" ∨ kw = "local.tee") (word : ref ≠ "(" ∧ ref ≠ ")") :
    R.flat? (kw :: ref :: rest) = (R.locals.slotOf? ref).map fun s =>
      (if kw = "local.get" then .localGet s else if kw = "local.set" then .localSet s none
        else .localTee s none, rest) := by
  have keyword : kw ∈ instructionKeywords := by
    rcases access with rfl | rfl | rfl <;> decide
  have notParen : ¬(kw = "(" ∨ kw = ")") := by rcases access with rfl | rfl | rfl <;> decide
  unfold flat?
  rw [flat]
  simp only [nextAtom, if_neg notParen, Except.ok_bind, constType?_keyword kw keyword,
    classify_keyword kw keyword, if_pos access, localRef, if_neg (not_or.2 word)]
  rw [← resolveLocal_toOption R ref (R.pos (ref :: rest))]
  rcases R.resolveLocal ref (R.pos (ref :: rest)) with e | s <;> rfl

theorem flat?_call {target : String} (rest : List String) (word : target ≠ "(" ∧ target ≠ ")") :
    R.flat? ("call" :: target :: rest) = some (.call target [], rest) := by
  unfold flat?
  rw [flat]
  simp +decide only [nextAtom, ↓reduceIte, Except.ok_bind, constType?_keyword "call" (by decide),
    classify_keyword "call" (by decide), if_neg (not_or.2 word)]
  rfl

theorem flat?_branch {kw target : String} (rest : List String) (branch : kw = "br" ∨ kw = "br_if")
    (word : target ≠ "(" ∧ target ≠ ")") :
    R.flat? (kw :: target :: rest) =
      some (if kw = "br" then .br (.ofToken target) [] else .brIf (.ofToken target) [], rest) := by
  have keyword : kw ∈ instructionKeywords := by rcases branch with rfl | rfl <;> decide
  unfold flat?
  rw [flat]
  rcases branch with rfl | rfl <;>
    simp +decide only [nextAtom, ↓reduceIte, Except.ok_bind, constType?_keyword _ keyword,
      classify_keyword _ keyword, if_neg (not_or.2 word)] <;> rfl

/-- A flat table branch takes every label token that follows it; the last is the default. -/
theorem flat?_table (rest : List String) :
    R.flat? ("br_table" :: rest) =
      match ((rest.takeWhile isLabelToken).map LabelRef.ofToken).reverse with
      | [] => none
      | d :: rev => some (.brTable [] rev.reverse d, rest.dropWhile isLabelToken) := by
  unfold flat?
  rw [flat]
  simp +decide only [nextAtom, ↓reduceIte, Except.ok_bind, constType?_keyword "br_table" (by decide),
    classify_keyword "br_table" (by decide)]
  cases ((rest.takeWhile isLabelToken).map LabelRef.ofToken).reverse <;> rfl

theorem flat?_bare {kw : String} (rest : List String)
    (bare : kw = "return" ∨ kw = "nop" ∨ kw = "unreachable") :
    R.flat? (kw :: rest) =
      some (if kw = "return" then .ret [] else if kw = "nop" then .nop else .unreachable, rest) := by
  have keyword : kw ∈ instructionKeywords := by rcases bare with rfl | rfl | rfl <;> decide
  unfold flat?
  rw [flat]
  rcases bare with rfl | rfl | rfl <;>
    simp +decide only [nextAtom, ↓reduceIte, Except.ok_bind, constType?_keyword _ keyword,
      classify_keyword _ keyword] <;> rfl

theorem flat?_select (rest : List String) :
    R.flat? ("select" :: rest) = (R.skipAnnotations? rest).map fun r => (.select [], r) := by
  unfold flat? skipAnnotations?
  rw [flat]
  simp +decide only [nextAtom, ↓reduceIte, Except.ok_bind, constType?_keyword "select" (by decide),
    classify_keyword "select" (by decide)]
  rcases R.skipAnnotations rest with e | ⟨r, h⟩ <;> rfl

theorem flat?_block {kw : String} (ts : List String) (scope : kw = "block" ∨ kw = "loop") :
    R.flat? (kw :: ts) = (R.skipAnnotations? (takeLabel ts).2.1).bind fun r =>
      (R.flatBody? r).bind fun (body, t, r') =>
        if t = .elseKeyword then none
        else some (if kw = "block" then .block (takeLabel ts).1 body else .loop (takeLabel ts).1 body, r') := by
  have keyword : kw ∈ instructionKeywords := by rcases scope with rfl | rfl <;> decide
  unfold flat? skipAnnotations? flatBody?
  rw [flat]
  rcases scope with rfl | rfl <;>
    simp +decide only [nextAtom, ↓reduceIte, Except.ok_bind, constType?_keyword _ keyword,
      classify_keyword _ keyword] <;>
    rcases R.skipAnnotations (takeLabel ts).2.1 with e | ⟨r, h⟩
  case inl.error | inr.error => rfl
  all_goals
    simp only [Except.ok_bind, Except.toOption_ok, Option.map_some, Option.bind_some]
    rcases R.flatBody r with e | ⟨body, t, r', h'⟩
    · rfl
    · cases t <;> rfl

theorem flat?_if (ts : List String) :
    R.flat? ("if" :: ts) = (R.skipAnnotations? (takeLabel ts).2.1).bind fun r =>
      (R.flatBody? r).bind fun (thenBody, t, r') =>
        if t = .elseKeyword then
          (R.flatBody? r').bind fun (elseBody, t', r'') =>
            if t' = .elseKeyword then none
            else some (.ite (takeLabel ts).1 [] thenBody (some elseBody), r'')
        else some (.ite (takeLabel ts).1 [] thenBody none, r') := by
  unfold flat? skipAnnotations? flatBody?
  rw [flat]
  simp +decide only [nextAtom, ↓reduceIte, Except.ok_bind, constType?_keyword "if" (by decide),
    classify_keyword "if" (by decide)]
  rcases R.skipAnnotations (takeLabel ts).2.1 with e | ⟨r, h⟩
  · rfl
  simp only [Except.ok_bind, Except.toOption_ok, Option.map_some, Option.bind_some]
  rcases R.flatBody r with e | ⟨thenBody, t, r', h'⟩
  · rfl
  cases t
  case elseKeyword =>
    simp only [Except.ok_bind, Except.toOption_ok, Option.map_some, Option.bind_some, ↓reduceIte]
    rcases R.flatBody r' with e | ⟨elseBody, t', r'', h''⟩
    · rfl
    · cases t' <;> rfl
  all_goals rfl

theorem expectClose_toOption (ts : List String) :
    (R.expectClose ts).toOption.map Subtype.val = closing? ts := by
  by_cases closes : ∃ rest, ts = ")" :: rest
  · obtain ⟨rest, rfl⟩ := closes
    rfl
  · rw [expectClose.eq_2 _ _ fun rest same => closes ⟨rest, same⟩,
      closing?.eq_2 _ fun rest same => closes ⟨rest, same⟩]
    rfl

theorem folded?_const {kw lit : String} {ty : NumType} (ts : List String)
    (typed : constType? kw = some ty) (word : lit ≠ "(" ∧ lit ≠ ")") :
    R.folded? (kw :: lit :: ts) = (closing? ts).map fun r => (.const ty lit, r) := by
  have notParen : ¬(kw = "(" ∨ kw = ")") := by
    rintro (rfl | rfl) <;>
      simp [show constType? "(" = none by decide, show constType? ")" = none by decide] at typed
  unfold folded?
  rw [folded, ← expectClose_toOption]
  simp only [nextAtom, if_neg notParen, Except.ok_bind, typed, if_neg (not_or.2 word)]
  rcases R.expectClose ts with e | ⟨r, h⟩ <;> rfl

theorem folded?_localGet {ref : String} (ts : List String) (word : ref ≠ "(" ∧ ref ≠ ")") :
    R.folded? ("local.get" :: ref :: ts) =
      (R.locals.slotOf? ref).bind fun s => (closing? ts).map fun r => (.localGet s, r) := by
  unfold folded?
  rw [folded, ← expectClose_toOption, ← resolveLocal_toOption R ref (R.pos (ref :: ts))]
  simp +decide only [nextAtom, ↓reduceIte, Except.ok_bind, constType?_keyword "local.get" (by decide),
    localRef, if_neg (not_or.2 word)]
  rcases R.resolveLocal ref (R.pos (ref :: ts)) with e | s
  · rfl
  · simp only [Except.ok_bind, pure_bind, Except.toOption_ok, Option.bind_some]
    rcases R.expectClose ts with e | ⟨r, h⟩ <;> rfl

/-- At most one operand reads as the optional operand. -/
theorem atMostOne_bind {α : Type} (headIndex : Nat) (ns : List Instr) (f : Option Instr → α) :
    (R.atMostOne headIndex ns >>= fun v => pure (f v)).toOption =
      if ns.length ≤ 1 then some (f ns.head?) else none := by
  rcases ns with _ | ⟨a, _ | ⟨b, rest⟩⟩
  · rfl
  · rfl
  · rw [atMostOne.eq_3 _ _ _ (by simp) (by simp), Except.error_bind, Except.toOption_error,
      if_neg (by simp)]

theorem folded?_localWrite {kw ref : String} (ts : List String)
    (write : kw = "local.set" ∨ kw = "local.tee") (word : ref ≠ "(" ∧ ref ≠ ")") :
    R.folded? (kw :: ref :: ts) = (R.locals.slotOf? ref).bind fun s =>
      (R.children? ts).bind fun (ns, r) =>
        if ns.length ≤ 1 then
          some (if kw = "local.set" then .localSet s ns.head? else .localTee s ns.head?, r)
        else none := by
  have keyword : kw ∈ instructionKeywords := by rcases write with rfl | rfl <;> decide
  unfold folded? children?
  rw [folded, ← resolveLocal_toOption R ref (R.pos (ref :: ts))]
  rcases write with rfl | rfl <;>
    simp +decide only [nextAtom, ↓reduceIte, Except.ok_bind, constType?_keyword _ keyword, localRef,
      if_neg (not_or.2 word)] <;>
    rcases R.resolveLocal ref (R.pos (ref :: ts)) with e | s
  case inl.error | inr.error => rfl
  all_goals
    simp only [Except.ok_bind, pure_bind, Except.toOption_ok, Option.bind_some]
    rcases R.children ts with e | ⟨ns, r, h⟩
    · rfl
    · simp only [Except.ok_bind, Except.toOption_ok, Option.map_some, Option.bind_some]
      rw [atMostOne_bind]
      by_cases few : ns.length ≤ 1 <;> simp [few]

theorem folded?_call {target : String} (ts : List String) (word : target ≠ "(" ∧ target ≠ ")") :
    R.folded? ("call" :: target :: ts) = (R.children? ts).map fun (ns, r) => (.call target ns, r) := by
  unfold folded? children?
  rw [folded]
  simp +decide only [nextAtom, ↓reduceIte, Except.ok_bind, constType?_keyword "call" (by decide),
    if_neg (not_or.2 word)]
  rcases R.children ts with e | ⟨ns, r, h⟩ <;> rfl

/-- A name that classifies as an operator is none of the instruction keywords. -/
theorem not_keyword_of_classify {kw : String} {c : OpClass} (classified : OpClass.classify kw = some c) :
    kw ∉ instructionKeywords := fun keyword => by
  rw [classify_keyword kw keyword] at classified
  cases classified

/-- A word that is no instruction keyword is read past the keywords the folded reader tries
before the operators. -/
theorem named {kw : String} (other : kw ∉ instructionKeywords) :
    kw ≠ "local.get" ∧ ¬(kw = "local.set" ∨ kw = "local.tee") ∧ kw ≠ "call" := by
  refine ⟨?_, ?_, ?_⟩
  · rintro rfl
    exact other (by decide)
  · rintro (rfl | rfl) <;> exact other (by decide)
  · rintro rfl
    exact other (by decide)

theorem folded?_unary {kw : String} {k : UnaryKind} (ts : List String)
    (untyped : constType? kw = none) (unary : OpClass.classify kw = some (.unary k)) :
    R.folded? (kw :: ts) = (R.children? ts).bind fun (ns, r) =>
      if ns.length ≤ 1 then some (.unary kw ns.head?, r) else none := by
  have other := not_keyword_of_classify unary
  have notParen : ¬(kw = "(" ∨ kw = ")") := by
    rintro (rfl | rfl) <;>
      simp [show OpClass.classify "(" = none by decide, show OpClass.classify ")" = none by decide] at unary
  unfold folded? children?
  rw [folded]
  simp only [nextAtom, if_neg notParen, Except.ok_bind, untyped, if_neg (named other).1,
    if_neg (named other).2.1, if_neg (named other).2.2, unary]
  rcases R.children ts with e | ⟨ns, r, h⟩
  · rfl
  · simp only [Except.ok_bind, Except.toOption_ok, Option.map_some, Option.bind_some]
    rw [atMostOne_bind]
    by_cases few : ns.length ≤ 1 <;> simp [few]

theorem folded?_binary {kw : String} {k : BinaryKind} (ts : List String)
    (untyped : constType? kw = none) (binary : OpClass.classify kw = some (.binary k)) :
    R.folded? (kw :: ts) = (R.children? ts).bind fun (ns, r) => (binaryOperands kw ns).map (·, r) := by
  have other := not_keyword_of_classify binary
  have notParen : ¬(kw = "(" ∨ kw = ")") := by
    rintro (rfl | rfl) <;>
      simp [show OpClass.classify "(" = none by decide, show OpClass.classify ")" = none by decide] at binary
  unfold folded? children?
  rw [folded]
  simp only [nextAtom, if_neg notParen, Except.ok_bind, untyped, if_neg (named other).1,
    if_neg (named other).2.1, if_neg (named other).2.2, binary]
  rcases R.children ts with e | ⟨ns, r, h⟩
  · rfl
  · simp only [Except.ok_bind, Except.toOption_ok]
    rcases ns with _ | ⟨a, _ | ⟨b, _ | ⟨c, more⟩⟩⟩ <;> rfl

theorem folded?_block {kw : String} (ts : List String) (scope : kw = "block" ∨ kw = "loop") :
    R.folded? (kw :: ts) = (R.skipAnnotations? (takeLabel ts).2.1).bind fun r =>
      (R.children? r).map fun (body, r') =>
        (if kw = "block" then .block (takeLabel ts).1 body else .loop (takeLabel ts).1 body, r') := by
  have keyword : kw ∈ instructionKeywords := by rcases scope with rfl | rfl <;> decide
  unfold folded? skipAnnotations? children?
  rw [folded]
  rcases scope with rfl | rfl <;>
    simp +decide only [nextAtom, ↓reduceIte, Except.ok_bind, constType?_keyword _ keyword,
      classify_keyword _ keyword] <;>
    rcases R.skipAnnotations (takeLabel ts).2.1 with e | ⟨r, h⟩
  case inl.error | inr.error => rfl
  all_goals
    simp only [Except.ok_bind, Except.toOption_ok, Option.map_some, Option.bind_some]
    rcases R.children r with e | ⟨body, r', h'⟩ <;> rfl

theorem folded?_if (ts : List String) :
    R.folded? ("if" :: ts) = (R.skipAnnotations? (takeLabel ts).2.1).bind fun r =>
      (R.ifArms? (R.pos ts) r [] none none).map fun ((cond, thenBody, elseBody), r') =>
        (.ite (takeLabel ts).1 cond thenBody elseBody, r') := by
  unfold folded? skipAnnotations? ifArms?
  rw [folded]
  simp +decide only [nextAtom, ↓reduceIte, Except.ok_bind, constType?_keyword "if" (by decide),
    classify_keyword "if" (by decide)]
  rcases R.skipAnnotations (takeLabel ts).2.1 with e | ⟨r, h⟩
  · rfl
  · simp only [Except.ok_bind, Except.toOption_ok, Option.map_some, Option.bind_some]
    rcases R.ifArms (R.pos ts) r [] none none with e | ⟨⟨cond, thenBody, elseBody⟩, r', h'⟩ <;> rfl

theorem folded?_branch {kw target : String} (ts : List String) (branch : kw = "br" ∨ kw = "br_if")
    (word : target ≠ "(" ∧ target ≠ ")") :
    R.folded? (kw :: target :: ts) = (R.children? ts).map fun (ns, r) =>
      (if kw = "br" then .br (.ofToken target) ns else .brIf (.ofToken target) ns, r) := by
  have keyword : kw ∈ instructionKeywords := by rcases branch with rfl | rfl <;> decide
  unfold folded? children?
  rw [folded]
  rcases branch with rfl | rfl <;>
    simp +decide only [nextAtom, ↓reduceIte, Except.ok_bind, constType?_keyword _ keyword,
      classify_keyword _ keyword, if_neg (not_or.2 word)] <;>
    rcases R.children ts with e | ⟨ns, r, h⟩ <;> rfl

/-- A folded table branch takes its operands and targets in any order; the last target is the
default, and it needs an operand and a target. -/
theorem folded?_table (ts : List String) :
    R.folded? ("br_table" :: ts) = (R.tableArgs? ts [] []).bind fun
      | (([], _), _) => none
      | ((ops, targets), r) =>
        match targets.reverse with
        | [] => none
        | d :: rev => some (.brTable ops rev.reverse d, r) := by
  unfold folded? tableArgs?
  rw [folded]
  simp +decide only [nextAtom, ↓reduceIte, Except.ok_bind, constType?_keyword "br_table" (by decide),
    classify_keyword "br_table" (by decide)]
  rcases R.tableArgs ts [] [] with e | ⟨⟨ops, targets⟩, r, h⟩
  · rfl
  · simp only [Except.ok_bind, Except.toOption_ok]
    rcases ops with _ | ⟨op, ops⟩
    · rfl
    · rcases reversed : targets.reverse with _ | ⟨d, rev⟩ <;>
        simp only [reversed, Option.map_some, Option.bind_some] <;> rfl

theorem folded?_return (ts : List String) :
    R.folded? ("return" :: ts) = (R.children? ts).map fun (ns, r) => (.ret ns, r) := by
  unfold folded? children?
  rw [folded]
  simp +decide only [nextAtom, ↓reduceIte, Except.ok_bind, constType?_keyword "return" (by decide),
    classify_keyword "return" (by decide)]
  rcases R.children ts with e | ⟨ns, r, h⟩ <;> rfl

theorem folded?_bare {kw : String} (ts : List String) (bare : kw = "nop" ∨ kw = "unreachable") :
    R.folded? (kw :: ts) =
      (closing? ts).map fun r => (if kw = "nop" then .nop else .unreachable, r) := by
  have keyword : kw ∈ instructionKeywords := by rcases bare with rfl | rfl <;> decide
  unfold folded?
  rw [folded, ← expectClose_toOption]
  rcases bare with rfl | rfl <;>
    simp +decide only [nextAtom, ↓reduceIte, Except.ok_bind, constType?_keyword _ keyword,
      classify_keyword _ keyword] <;>
    rcases R.expectClose ts with e | ⟨r, h⟩ <;> rfl

theorem folded?_select (ts : List String) :
    R.folded? ("select" :: ts) = (R.skipAnnotations? ts).bind fun r =>
      (R.children? r).bind fun (ns, r') => if ns.length ≤ 3 then some (.select ns, r') else none := by
  unfold folded? skipAnnotations? children?
  rw [folded]
  simp +decide only [nextAtom, ↓reduceIte, Except.ok_bind, constType?_keyword "select" (by decide),
    classify_keyword "select" (by decide)]
  rcases R.skipAnnotations ts with e | ⟨r, h⟩
  · rfl
  · simp only [Except.ok_bind, Except.toOption_ok, Option.map_some, Option.bind_some]
    rcases R.children r with e | ⟨ns, r', h'⟩
    · rfl
    · simp only [Except.ok_bind, Except.toOption_ok, Option.map_some, Option.bind_some]
      by_cases many : ns.length > 3
      · rw [if_pos many, if_neg (Nat.not_le.2 many)]
        rfl
      · rw [if_neg many, if_pos (Nat.le_of_not_gt many)]
        rfl

end BodyReader

/-- The reader a body text is read with, over a number of anonymous slots. -/
def bodyReader (text : String) (slots : Nat) : BodyReader :=
  ⟨(tokenize text).toArray, LocalTable.withSlots slots⟩

/-- A body text reads when its instructions read up to a closing parenthesis or the end of the
tokens, with nothing left. -/
theorem parseBody_eq_ok_iff {text : String} {slots : Nat} {body : List Instr} :
    parseBody text slots = .ok body ↔ ∃ t, (t = .close ∨ t = .eof) ∧
      (bodyReader text slots).instrs? (tokenize text) = some (body, t, []) := by
  unfold parseBody BodyReader.functionBody BodyReader.instrs?
  change (((bodyReader text slots).instrs (tokenize text) >>= _) >>= _) = _ ↔ _
  rcases (bodyReader text slots).instrs (tokenize text) with e | ⟨ns, t, r, h⟩
  · simp [Except.error_bind, Except.toOption_error]
  · cases t <;> rcases r with _ | ⟨x, r⟩ <;>
      simp [Except.ok_bind, Except.toOption_ok, pure, Except.pure, throw, throwThe,
        MonadExceptOf.throw, Except.error_bind]

end WasmBoogie
