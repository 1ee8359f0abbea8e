import WasmBoogie.Proofs.Lower.Naming

namespace WasmBoogie

/-- The name a declaration gives a variable, function or procedure; a comment names nothing. -/
def Boogie.Decl.name? : Boogie.Decl → Option String
  | .global v => some v.name
  | .function name .. => some name
  | .procedure q => some q.name
  | .implementation i => some i.name
  | .comment _ => none

namespace Ident

/-- A word that the verification language reads as one identifier of its own: not empty, made
of ASCII letters, digits and underscores, and not led by a digit. -/
structure IsIdent (t : String) : Prop where
  nonempty : t ≠ ""
  chars : ∀ c ∈ t.toList, c.isAlphanum ∨ c = '_'
  head : ∀ c, t.toList.head? = some c → c.isDigit = false

theorem isAsciiDigit_eq_isDigit (c : Char) : isAsciiDigit c = c.isDigit := by
  simp [isAsciiDigit, Char.isDigit, Char.le_def]

theorem isIdentChar_iff (c : Char) : isIdentChar c = true ↔ c.isAlphanum ∨ c = '_' := by
  simp [isIdentChar]

/-- The characters of a word of identifier characters that is not led by a digit. -/
theorem isIdent_of_chars {cs : List Char} (nonempty : cs ≠ []) (chars : ∀ c ∈ cs, isIdentChar c = true)
    (head : ∀ c, cs.head? = some c → c.isDigit = false) : IsIdent (String.ofList cs) := by
  refine ⟨?_, ?_, ?_⟩
  · simpa [← String.toList_inj] using nonempty
  · simpa [isIdentChar_iff] using chars
  · simpa using head

/-- A word written out is an identifier when its characters, checked one by one, are. -/
theorem IsIdent.of_word {t : String} {cs : List Char} (word : t.toList = cs) (nonempty : cs ≠ [])
    (chars : cs.all isIdentChar = true) (head : cs.head?.map Char.isDigit = some false) : IsIdent t := by
  refine ⟨?_, ?_, ?_⟩
  · rwa [Ne, ← String.toList_eq_nil_iff, word]
  · intro c mem
    rw [word] at mem
    exact (isIdentChar_iff c).1 (List.all_eq_true.1 chars c mem)
  · intro c first
    rw [word] at first
    rw [first] at head
    simpa using head

theorem isIdent_wasm : IsIdent "wasm_" :=
  .of_word (show "wasm_".toList = ['w', 'a', 's', 'm', '_'] by decide) (by decide) (by decide) (by decide)

theorem isIdent_func : IsIdent "func_" :=
  .of_word (show "func_".toList = ['f', 'u', 'n', 'c', '_'] by decide) (by decide) (by decide) (by decide)

theorem isIdent_underscore : IsIdent "_" :=
  .of_word (show "_".toList = ['_'] by decide) (by decide) (by decide) (by decide)

namespace IsIdent

theorem append {s t : String} (first : IsIdent s) (rest : ∀ c ∈ t.toList, c.isAlphanum ∨ c = '_') :
    IsIdent (s ++ t) := by
  obtain ⟨nonempty, chars, head⟩ := first
  have nonempty' : s.toList ≠ [] := by rwa [Ne, String.toList_eq_nil_iff]
  refine ⟨?_, ?_, ?_⟩
  · simp [String.append_eq_empty_iff, nonempty]
  · simp only [String.toList_append, List.mem_append]
    rintro c (inS | inT)
    · exact chars c inS
    · exact rest c inT
  · obtain ⟨c, cs, split⟩ := List.exists_cons_of_ne_nil nonempty'
    simpa [String.toList_append, split] using head

/-- A reserved word gets the prefix `wasm_`, which keeps it an identifier. -/
theorem guarded {t : String} (ident : IsIdent t) : IsIdent (if isReserved t then "wasm_" ++ t else t) := by
  split
  · exact append isIdent_wasm ident.chars
  · exact ident

end IsIdent

/-- Every name sanitizes to an identifier. -/
theorem sanitize_isIdent (name : String) : IsIdent (sanitize name) := by
  unfold sanitize
  extract_lets word cleaned guardedChars ident
  split
  · exact isIdent_underscore
  · rename_i nonempty
    split
    · rename_i digits
      refine IsIdent.append isIdent_func fun c mem => Or.inl ?_
      simp only [isDigits, Bool.and_eq_true, List.all_eq_true] at digits
      simp [Char.isAlphanum, ← isAsciiDigit_eq_isDigit, digits.2 c mem]
    · refine IsIdent.guarded ?_
      have chars : ∀ c ∈ cleaned, isIdentChar c = true := by
        intro c mem
        obtain ⟨c', -, rfl⟩ := List.mem_map.1 mem
        split
        · assumption
        · decide
      have nonempty' : cleaned ≠ [] := by
        simpa [cleaned, String.isEmpty_iff, String.toList_eq_nil_iff] using nonempty
      obtain ⟨c, rest, split⟩ := List.exists_cons_of_ne_nil nonempty'
      have led : guardedChars = if isAsciiDigit c then '_' :: c :: rest else c :: rest := by
        simp only [guardedChars, split]
      rw [split] at chars
      refine isIdent_of_chars ?_ (fun d mem => ?_) (fun d first => ?_) <;> rw [led] at *
      · split <;> simp
      · split at mem
        · rcases List.mem_cons.1 mem with rfl | mem
          · decide
          · exact chars d mem
        · exact chars d mem
      · split at first
        · simp only [List.head?_cons, Option.some.injEq] at first
          subst first
          decide
        · rename_i notDigit
          simp only [List.head?_cons, Option.some.injEq] at first
          subst first
          simpa [isAsciiDigit_eq_isDigit] using notDigit

/-- An identifier that is not reserved is its own sanitized form. -/
theorem sanitize_of_isIdent {t : String} (ident : IsIdent t) (free : isReserved t = false) : sanitize t = t := by
  obtain ⟨nonempty, chars, head⟩ := ident
  have nonempty' : t.toList ≠ [] := by rwa [Ne, String.toList_eq_nil_iff]
  obtain ⟨c, rest, split⟩ := List.exists_cons_of_ne_nil nonempty'
  have first : c.isAlphanum ∨ c = '_' := chars c (by simp [split])
  have notDigit : isAsciiDigit c = false := by
    rw [isAsciiDigit_eq_isDigit]
    exact head c (by simp [split])
  have noDollar : dropDollar? t = none := by
    have : c ≠ '$' := by
      rintro rfl
      revert first
      decide
    simp [dropDollar?, split, this]
  have notDigits : isDigits t = false := by
    simp [isDigits, split, notDigit]
  have kept : t.toList.map (fun c => if isIdentChar c then c else '_') = t.toList := by
    have same : ∀ d ∈ t.toList, (if isIdentChar d then d else '_') = d := fun d mem => by
      simp [(isIdentChar_iff d).2 (chars d mem)]
    rw [List.map_congr_left same, List.map_id']
  have notEmpty : t.isEmpty = false := by simpa [String.isEmpty_iff] using nonempty
  unfold sanitize
  simp only [noDollar, Option.getD_none, notEmpty, notDigits, kept, Bool.false_eq_true, if_false]
  simp only [split, notDigit, Bool.false_eq_true, if_false]
  rw [← split, String.ofList_toList, free, if_neg Bool.false_ne_true]

/-- Sanitizing a sanitized name changes nothing. -/
theorem sanitize_sanitize (name : String) : sanitize (sanitize name) = sanitize name :=
  sanitize_of_isIdent (sanitize_isIdent name) (isReserved_sanitize name)

/-- `popArgs` followed by digits is reserved, whatever the digits. -/
theorem isReserved_popArgs {ds : String} (digits : isDigits ds) : isReserved ("popArgs" ++ ds) = true := by
  have stem : "popArgs".toList = ['p', 'o', 'p', 'A', 'r', 'g', 's'] := by decide
  simp only [isDigits, Bool.and_eq_true, Bool.not_eq_true'] at digits
  simp only [isReserved, Bool.or_eq_true, String.toList_append, stem, List.cons_append, List.nil_append]
  right
  have nonempty : ds.toList.isEmpty = false := by
    simpa [String.isEmpty_iff, String.toList_eq_nil_iff] using digits.1
  simp [nonempty, digits.2]

/-- The prelude declares its globals under names that start with a dollar sign, and its
functions and procedures under reserved names. -/
theorem prelude_names : ∀ n ∈ Lower.prelude.filterMap Boogie.Decl.name?,
    isReserved n = true ∨ n.toList.head? = some '$' := by
  decide

/-- A sanitized name is an identifier that nothing else in a lowered program claims: it is none
of the reserved words, no name the prelude declares and no name of an argument-popping helper.
Sanitizing it again changes nothing. -/
theorem sanitize_safe_and_stable (name : String) :
    IsIdent (sanitize name) ∧ sanitize name ∉ reservedWords ∧
    sanitize name ∉ Lower.prelude.filterMap Boogie.Decl.name? ∧
    (∀ ds, isDigits ds → sanitize name ≠ "popArgs" ++ ds) ∧
    sanitize (sanitize name) = sanitize name := by
  have ident := sanitize_isIdent name
  have free := isReserved_sanitize name
  refine ⟨ident, fun keyword => ?_, fun declared => ?_, fun ds digits named => ?_, sanitize_sanitize name⟩
  · simp [isReserved, keyword] at free
  · rcases prelude_names _ declared with reserved | dollar
    · rw [free] at reserved
      cases reserved
    · have := ident.chars '$' (List.mem_of_mem_head? dollar)
      revert this
      decide
  · rw [named, isReserved_popArgs digits] at free
    cases free

/-- `lambda` is none of the reserved words, so it is kept as it is. -/
theorem sanitize_keeps_lambda : sanitize "lambda" = "lambda" := by
  decide

end Ident

end WasmBoogie
