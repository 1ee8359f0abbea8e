import WasmBoogie.Module.Split
import WasmBoogie.Proofs.Text.Forest

namespace WasmBoogie

open WasmBoogie.Text TokenTree

/-- The declarations of a function form after its `$name`, if it has one. -/
def afterName : List TokenTree → List TokenTree
  | .atom t plain :: rest => if t.startsWith "$" then rest else .atom t plain :: rest
  | rest => rest

/-- Declarations that import the function: export forms, then an import form. -/
def importsFirst : List TokenTree → Bool
  | [] => false
  | s :: rest => s.head? = some "import" || (s.head? = some "export" && importsFirst rest)

/-- A form that defines a function: headed by `func`, and not importing the function. -/
def definesFunction (s : TokenTree) : Bool :=
  s.head? = some "func" && !importsFirst (afterName (s.children.drop 1))

/-- The function definitions of a module read as a forest, in source order: the defining forms
among the children of the top-level forms when the module is wrapped, and among the top-level
forms otherwise. -/
def definedFunctions (wrapped : Bool) (forest : List TokenTree) : List TokenTree :=
  if wrapped then forest.flatMap (fun s => s.children.filter definesFunction)
  else forest.filter definesFunction

mutual

/-- The forms the scan takes from a tree it meets at a depth. -/
def scanTree (top depth : Nat) : TokenTree → List (List String)
  | .atom .. => []
  | .form children =>
    if depth = top ∧ (TokenTree.form children).head? = some "func" then
      if definesFunction (.form children) then [(TokenTree.form children).tokens] else []
    else scanForest top (depth + 1) children

/-- The forms the scan takes from a forest it meets at a depth. -/
def scanForest (top depth : Nat) : List TokenTree → List (List String)
  | [] => []
  | s :: rest => scanTree top depth s ++ scanForest top depth rest

end

section Heads

variable {k : String}

theorem head?_eq_some {s : TokenTree} : s.head? = some k ↔ ∃ plain decls, s = .form (.atom k plain :: decls) := by
  constructor
  · intro keyword
    rcases s with _ | ⟨_ | ⟨⟨t, plain⟩ | inner, decls⟩⟩
    · simp [TokenTree.head?] at keyword
    · simp [TokenTree.head?] at keyword
    · simp only [TokenTree.head?, Option.some.injEq] at keyword
      subst keyword
      exact ⟨plain, decls, rfl⟩
    · simp [TokenTree.head?] at keyword
  · rintro ⟨plain, decls, rfl⟩
    rfl

/-- The token after a form's opening parenthesis is its keyword, when that is not a parenthesis. -/
theorem head?_forestTokens (k : String) (keyword : k ≠ "(" ∧ k ≠ ")") (children : List TokenTree) (rest : List String) :
    (forestTokens children ++ ")" :: rest).head? = some k ↔ (TokenTree.form children).head? = some k := by
  rcases children with _ | ⟨_ | _, _⟩
  · simp [TokenTree.head?, Ne.symm keyword.2]
  · simp [TokenTree.head?]
  · simp [TokenTree.head?, Ne.symm keyword.1]

end Heads

section Lengths

mutual

/-- Inside an open form, a tree's tokens count one each toward the form's length. -/
theorem formLength_tokens :
    ∀ (s : TokenTree) (k : Nat) (rest : List String), 1 ≤ k →
      formLength k (s.tokens ++ rest) = s.tokens.length + formLength k rest
  | .atom t plain, k, rest, _ => by
    rw [tokens_atom, List.singleton_append, formLength.eq_4 _ _ _ plain.1 plain.2]
    simp only [List.length_singleton]
    omega
  | .form children, k, rest, _ => by
    rw [tokens_form_append, formLength.eq_2, formLength_forestTokens children (k + 1) _ (by omega),
      formLength.eq_3, if_neg (by omega)]
    simp only [tokens_form, List.length_cons, List.length_append, List.length_nil,
      Nat.add_sub_cancel]
    omega

/-- Inside an open form, a forest's tokens count one each toward the form's length. -/
theorem formLength_forestTokens :
    ∀ (forest : List TokenTree) (k : Nat) (rest : List String), 1 ≤ k →
      formLength k (forestTokens forest ++ rest) = (forestTokens forest).length + formLength k rest
  | [], _, _, _ => by simp
  | s :: more, k, rest, deep => by
    rw [forestTokens_cons, List.append_assoc, formLength_tokens s k _ deep,
      formLength_forestTokens more k rest deep, List.length_append]
    omega

end

/-- The length the scan cuts at a form's parenthesis is the length of the form. -/
theorem formLength_form (children : List TokenTree) (rest : List String) :
    formLength 0 ((TokenTree.form children).tokens ++ rest) = (TokenTree.form children).tokens.length := by
  rw [tokens_form_append, formLength.eq_2, formLength_forestTokens children 1 _ le_rfl,
    formLength.eq_3, if_pos le_rfl]
  simp

theorem take_formLength (children : List TokenTree) (rest : List String) :
    ((TokenTree.form children).tokens ++ rest).take (formLength 0 ((TokenTree.form children).tokens ++ rest)) =
      (TokenTree.form children).tokens := by
  rw [formLength_form, List.take_left]

theorem drop_formLength (children : List TokenTree) (rest : List String) :
    ((TokenTree.form children).tokens ++ rest).drop (formLength 0 ((TokenTree.form children).tokens ++ rest)) = rest := by
  rw [formLength_form, List.drop_left]

end Lengths

section Imports

/-- Reading a function's declarations up to the function's closing parenthesis finds export
forms and then an import form exactly when the trees do. -/
theorem importsInline_forestTokens (decls : List TokenTree) :
    importsInline (forestTokens decls ++ [")"]) = importsFirst decls := by
  induction decls with
  | nil => simp [importsInline.eq_3, importsFirst]
  | cons s more ih =>
    rcases s with ⟨t, plain⟩ | ⟨_ | ⟨⟨b, named⟩ | inner, fields⟩⟩
    · simp [importsInline.eq_3, plain.1, importsFirst, TokenTree.head?]
    · simp [importsInline.eq_3, importsFirst, TokenTree.head?]
    · by_cases imports : b = "import"
      · subst imports
        simp [importsInline.eq_1, importsFirst, TokenTree.head?]
      · by_cases exports : b = "export"
        · subst exports
          have skip := drop_formLength (.atom "export" named :: fields) (forestTokens more ++ [")"])
          simp only [forestTokens_cons, tokens_form_append, tokens_atom, List.append_assoc,
            List.cons_append, List.nil_append] at skip ⊢
          rw [importsInline.eq_2, skip, ih]
          simp [importsFirst, TokenTree.head?]
        · simp [importsInline.eq_3, imports, exports, importsFirst, TokenTree.head?]
    · simp [importsInline.eq_3, importsFirst, TokenTree.head?]

/-- A function form is an inline import exactly when its declarations after the name import it. -/
theorem isInlineImport_tokens (plain : "func" ≠ "(" ∧ "func" ≠ ")") (decls : List TokenTree) :
    isInlineImport (TokenTree.form (.atom "func" plain :: decls)).tokens = importsFirst (afterName decls) := by
  rcases decls with _ | ⟨⟨t, named⟩ | inner, more⟩
  · simp [isInlineImport, afterName, importsInline.eq_3, importsFirst]
  · cases dollar : t.startsWith "$" <;> simp [isInlineImport, afterName, dollar, ← importsInline_forestTokens]
  · simp [isInlineImport, afterName, ← importsInline_forestTokens]

/-- At the depth it selects at, the scan keeps a function form exactly when it defines one. -/
theorem isInlineImport_eq {children : List TokenTree} (func : (TokenTree.form children).head? = some "func") :
    isInlineImport (TokenTree.form children).tokens = !definesFunction (.form children) := by
  obtain ⟨plain, decls, same⟩ := head?_eq_some.1 func
  cases same
  rw [isInlineImport_tokens]
  simp [definesFunction, TokenTree.head?, TokenTree.children]

end Imports

section Scan

mutual

/-- The scan over the tokens of a tree takes the tree's forms and goes on after it at the same
depth. -/
theorem functionForms_tokens :
    ∀ (s : TokenTree) (top depth : Nat) (rest : List String),
      functionForms top depth (s.tokens ++ rest) = scanTree top depth s ++ functionForms top depth rest
  | .atom t plain, top, depth, rest => by
    rw [tokens_atom, List.singleton_append, functionForms.eq_4 _ _ _ _ plain.1 plain.2, scanTree,
      List.nil_append]
  | .form children, top, depth, rest => by
    have shape := tokens_form_append children rest
    have keyword := head?_forestTokens "func" (by decide) children rest
    rw [shape, functionForms.eq_2, scanTree]
    by_cases chosen : depth = top ∧ (TokenTree.form children).head? = some "func"
    · rw [if_pos (chosen.imp_right keyword.2), if_pos chosen, ← shape]
      dsimp only
      rw [take_formLength, drop_formLength, isInlineImport_eq chosen.2]
      cases definesFunction (.form children) <;> rfl
    · rw [if_neg (fun taken => chosen (taken.imp_right keyword.1)), if_neg chosen,
        functionForms_forestTokens children top (depth + 1),
        functionForms.eq_3, Nat.add_sub_cancel]

/-- The scan over the tokens of a forest takes the forest's forms and goes on after it at the
same depth. -/
theorem functionForms_forestTokens :
    ∀ (forest : List TokenTree) (top depth : Nat) (rest : List String),
      functionForms top depth (forestTokens forest ++ rest) = scanForest top depth forest ++ functionForms top depth rest
  | [], _, _, _ => by rw [forestTokens_nil, List.nil_append, scanForest, List.nil_append]
  | s :: more, top, depth, rest => by
    rw [forestTokens_cons, List.append_assoc, functionForms_tokens, functionForms_forestTokens,
      scanForest, List.append_assoc]

end

mutual

/-- Below the depth it selects at, the scan takes nothing. -/
theorem scanTree_deep : ∀ (s : TokenTree) {top depth : Nat}, top < depth → scanTree top depth s = []
  | .atom .., _, _, _ => by rw [scanTree]
  | .form children, top, depth, deep => by
    rw [scanTree, if_neg (by omega), scanForest_deep children (by omega)]

theorem scanForest_deep : ∀ (forest : List TokenTree) {top depth : Nat}, top < depth → scanForest top depth forest = []
  | [], _, _, _ => by rw [scanForest]
  | s :: more, top, depth, deep => by
    rw [scanForest, scanTree_deep s deep, scanForest_deep more deep, List.nil_append]

end

/-- At the depth it selects at, the scan takes a tree exactly when it defines a function. -/
theorem scanTree_top (s : TokenTree) (top : Nat) :
    scanTree top top s = if definesFunction s then [s.tokens] else [] := by
  rcases s with _ | children
  · simp [scanTree, definesFunction, TokenTree.head?]
  · by_cases func : (TokenTree.form children).head? = some "func"
    · simp [scanTree, func]
    · have other : definesFunction (.form children) = false := by simp [definesFunction, func]
      simp only [scanTree, func, and_false, if_false, other]
      exact scanForest_deep children (Nat.lt_succ_self top)

theorem scanForest_top (forest : List TokenTree) (top : Nat) :
    scanForest top top forest = (forest.filter definesFunction).map TokenTree.tokens := by
  induction forest with
  | nil => rfl
  | cons s more ih =>
    rw [scanForest, scanTree_top, ih, List.filter_cons]
    cases definesFunction s <;> simp

/-- Selecting one level down, the scan takes the defining forms among each top-level form's
children. -/
theorem scanForest_wrapped (forest : List TokenTree) :
    scanForest 1 0 forest = forest.flatMap (fun s => (s.children.filter definesFunction).map TokenTree.tokens) := by
  induction forest with
  | nil => rfl
  | cons s more ih =>
    rw [scanForest, ih, List.flatMap_cons]
    rcases s with _ | children
    · simp [scanTree, TokenTree.children]
    · simp [scanTree, TokenTree.children, scanForest_top]

end Scan

/-- A module whose tokens are balanced is cut into exactly its defined functions. Its tokens
are the printing of a forest, and for that forest the texts are, in source order, the tokens of
the defining function forms joined by single spaces: the forms among the children of the
top-level forms when the second token is `module`, and among the top-level forms otherwise. -/
theorem splitFunctions_eq_definedFunctions (t : String) (balanced : Balanced (tokenize t)) :
    (∃ forest, forestTokens forest = tokenize t) ∧
      ∀ forest, forestTokens forest = tokenize t →
        splitFunctions t = (definedFunctions ((tokenize t)[1]? = some "module") forest).map
          (fun f => " ".intercalate f.tokens) := by
  refine ⟨balanced.forest, fun forest printed => ?_⟩
  have scan : ∀ top, functionForms top 0 (tokenize t) = scanForest top 0 forest := fun top => by
    rw [← printed, ← List.append_nil (forestTokens forest), functionForms_forestTokens,
      functionForms.eq_1, List.append_nil]
  simp only [splitFunctions, scan]
  by_cases wrapped : (tokenize t)[1]? = some "module"
  · simp [wrapped, definedFunctions, scanForest_wrapped, List.map_flatMap, Function.comp_def]
  · simp [wrapped, definedFunctions, scanForest_top]

/-- A function form that only imports its function is not cut out of a wrapped module. -/
theorem imported_function_not_split :
    splitFunctions "(module (func $f (import \"m\" \"f\")) (func $g (nop)))" = ["( func $g ( nop ) )"] := by
  have cut := (splitFunctions_eq_definedFunctions "(module (func $f (import \"m\" \"f\")) (func $g (nop)))"
    (by decide)).2
    [.form [.atom "module" (by decide),
      .form [.atom "func" (by decide), .atom "$f" (by decide),
        .form [.atom "import" (by decide), .atom "\"m\"" (by decide), .atom "\"f\"" (by decide)]],
      .form [.atom "func" (by decide), .atom "$g" (by decide), .form [.atom "nop" (by decide)]]]]
    (by decide)
  rw [cut]
  decide +kernel

end WasmBoogie
