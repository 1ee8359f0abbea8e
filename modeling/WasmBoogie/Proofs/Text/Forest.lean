import Mathlib.Data.List.Infix

namespace WasmBoogie.Text

/-- A tree of tokens, an S-expression: an atom is any token but a parenthesis, and a form holds
its children between parentheses. -/
inductive TokenTree where
  | atom (token : String) (plain : token ≠ "(" ∧ token ≠ ")")
  | form (children : List TokenTree)

namespace TokenTree

mutual

/-- The tokens of a tree. -/
def tokens : TokenTree → List String
  | .atom t _ => [t]
  | .form children => "(" :: (forestTokens children ++ [")"])

/-- The tokens of a forest, tree after tree. -/
def forestTokens : List TokenTree → List String
  | [] => []
  | s :: rest => tokens s ++ forestTokens rest

end

/-- The first token inside a form, when its first child is an atom: the keyword of a field. -/
def head? : TokenTree → Option String
  | .form (.atom t _ :: _) => some t
  | _ => none

/-- The children of a form; an atom has none. -/
def children : TokenTree → List TokenTree
  | .atom .. => []
  | .form children => children

@[simp] theorem forestTokens_nil : forestTokens [] = [] := rfl

@[simp] theorem forestTokens_cons (s : TokenTree) (rest : List TokenTree) :
    forestTokens (s :: rest) = s.tokens ++ forestTokens rest := rfl

@[simp] theorem tokens_atom (t : String) (plain : t ≠ "(" ∧ t ≠ ")") : (atom t plain).tokens = [t] := rfl

@[simp] theorem tokens_form (children : List TokenTree) :
    (form children).tokens = "(" :: (forestTokens children ++ [")"]) := rfl

/-- A form followed by more tokens: its parenthesis, its children, and its closing parenthesis
before the rest. -/
theorem tokens_form_append (children : List TokenTree) (rest : List String) :
    (form children).tokens ++ rest = "(" :: (forestTokens children ++ ")" :: rest) := by
  simp

end TokenTree

open TokenTree

/-- Every prefix of the tokens opens at least as many parentheses as it closes, and the whole
list closes all it opens. -/
structure Balanced (ts : List String) : Prop where
  prefixes : ∀ pre, pre <+: ts → pre.count ")" ≤ pre.count "("
  closed : ts.count "(" = ts.count ")"

instance : DecidablePred Balanced := fun ts =>
  decidable_of_iff ((∀ pre ∈ ts.inits, pre.count ")" ≤ pre.count "(") ∧ ts.count "(" = ts.count ")")
    ⟨fun ⟨prefixes, closed⟩ => ⟨fun pre within => prefixes pre (List.mem_inits pre ts |>.2 within), closed⟩,
      fun balanced => ⟨fun pre mem => balanced.prefixes pre (List.mem_inits pre ts |>.1 mem), balanced.closed⟩⟩

/-- The tokens close `d` parentheses opened before them: no prefix closes more than `d` beyond
what it opens, and the whole list closes exactly `d` beyond. -/
structure Closing (d : Nat) (ts : List String) : Prop where
  prefixes : ∀ pre, pre <+: ts → pre.count ")" ≤ pre.count "(" + d
  closed : ts.count ")" = ts.count "(" + d

theorem Balanced.closing {ts : List String} (balanced : Balanced ts) : Closing 0 ts :=
  ⟨fun pre within => balanced.prefixes pre within, balanced.closed.symm⟩

section Steps

variable {d : Nat} {rest : List String}

/-- A prefix of the rest, with the first token put back, is a prefix of the whole list. -/
theorem Closing.cons_prefix {t : String} {pre : List String} (closing : Closing d (t :: rest))
    (within : pre <+: rest) : (t :: pre).count ")" ≤ (t :: pre).count "(" + d :=
  closing.prefixes (t :: pre) ((List.prefix_cons_inj t).2 within)

/-- Dropping the first token moves the count by what that token opens and closes. -/
theorem Closing.of_cons {t : String} {d' : Nat} (closing : Closing d (t :: rest))
    (shift : d + [t].count "(" = d' + [t].count ")") : Closing d' rest := by
  have split (x : String) (l : List String) : (t :: l).count x = [t].count x + l.count x := by
    rw [← List.singleton_append, List.count_append]
  constructor
  · intro pre within
    have bound := closing.cons_prefix within
    rw [split ")" pre, split "(" pre] at bound
    omega
  · have counts := closing.closed
    rw [split ")" rest, split "(" rest] at counts
    omega

theorem Closing.of_atom {t : String} (plain : t ≠ "(" ∧ t ≠ ")") (closing : Closing d (t :: rest)) :
    Closing d rest :=
  closing.of_cons (by simp [plain.1, plain.2])

theorem Closing.of_open (closing : Closing d ("(" :: rest)) : Closing (d + 1) rest :=
  closing.of_cons (by simp)

theorem Closing.of_close (closing : Closing (d + 1) (")" :: rest)) : Closing d rest :=
  closing.of_cons (by simp)

/-- A list cannot close a parenthesis that nothing opened. -/
theorem Closing.not_close (closing : Closing 0 (")" :: rest)) : False := by
  have bound := closing.prefixes [")"] ((List.prefix_cons_inj _).2 (List.nil_prefix))
  simp at bound

end Steps

/-- A list that closes one parenthesis more than it opens is a forest, then the closing
parenthesis, then a rest that closes one fewer. The forest ends where the count first drops
below its start. -/
theorem Closing.split {d : Nat} {ts : List String} (closing : Closing (d + 1) ts) :
    ∃ forest rest, ts = forestTokens forest ++ ")" :: rest ∧ Closing d rest := by
  induction size : ts.length using Nat.strong_induction_on generalizing ts d with
  | _ n ih =>
  rcases ts with _ | ⟨t, rest⟩
  · have counts := closing.closed
    simp at counts
  · by_cases opens : t = "("
    · subst opens
      obtain ⟨inner, after, rfl, afterClosing⟩ := ih rest.length (by simp [← size]) closing.of_open rfl
      obtain ⟨more, rest', rfl, restClosing⟩ :=
        ih after.length (by simp [← size]; omega) afterClosing rfl
      exact ⟨.form inner :: more, rest', by simp, restClosing⟩
    · by_cases closes : t = ")"
      · subst closes
        exact ⟨[], rest, rfl, closing.of_close⟩
      · obtain ⟨forest, after, rfl, afterClosing⟩ :=
          ih rest.length (by simp [← size]) (closing.of_atom ⟨opens, closes⟩) rfl
        exact ⟨.atom t ⟨opens, closes⟩ :: forest, after, by simp, afterClosing⟩

/-- A list that closes nothing it did not open is the printing of a forest. -/
theorem Closing.forest {ts : List String} (closing : Closing 0 ts) : ∃ forest, forestTokens forest = ts := by
  induction size : ts.length using Nat.strong_induction_on generalizing ts with
  | _ n ih =>
  rcases ts with _ | ⟨t, rest⟩
  · exact ⟨[], rfl⟩
  · by_cases opens : t = "("
    · subst opens
      obtain ⟨inner, after, rfl, afterClosing⟩ := closing.of_open.split
      obtain ⟨more, rfl⟩ := ih after.length (by simp [← size]; omega) afterClosing rfl
      exact ⟨.form inner :: more, by simp⟩
    · by_cases closes : t = ")"
      · subst closes
        exact closing.not_close.elim
      · obtain ⟨forest, rfl⟩ := ih rest.length (by simp [← size]) (closing.of_atom ⟨opens, closes⟩) rfl
        exact ⟨.atom t ⟨opens, closes⟩ :: forest, rfl⟩

/-- Every balanced list of tokens is the printing of a forest. -/
theorem Balanced.forest {ts : List String} (balanced : Balanced ts) : ∃ forest, forestTokens forest = ts :=
  balanced.closing.forest

end WasmBoogie.Text
