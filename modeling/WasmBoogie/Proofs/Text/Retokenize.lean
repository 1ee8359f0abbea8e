import Mathlib.Data.List.Infix
import WasmBoogie.Module.Split

namespace WasmBoogie.Text

/-- A character that may stand in a plain word: not blank, no parenthesis and no quote. -/
def WordChar (c : Char) : Prop :=
  isBlank c = false ∧ c ≠ '(' ∧ c ≠ ')' ∧ c ≠ '"'

/-- The characters of a plain word, built one at a time as the reader builds it. A semicolon
never follows a semicolon: two of them start a line comment. -/
inductive WordText : List Char → Prop
  | single {c : Char} : WordChar c → WordText [c]
  | snoc {w : List Char} {c : Char} :
      WordText w → WordChar c → (w.getLast? = some ';' → c ≠ ';') → WordText (w ++ [c])

/-- The characters of a quoted string after its opening quote, up to some point of the reading;
the flag says the last one is a backslash that escapes the next. -/
inductive QuotedText : Bool → List Char → Prop
  | nil : QuotedText false []
  | plain {b : List Char} {c : Char} : QuotedText false b → c ≠ '"' → c ≠ '\\' → QuotedText false (b ++ [c])
  | backslash {b : List Char} : QuotedText false b → QuotedText true (b ++ ['\\'])
  | escaped {b : List Char} {c : Char} : QuotedText true b → QuotedText false (b ++ [c])

/-- A token that is read back whole when a blank or the end of the text follows it: a
parenthesis, a plain word, or a quoted string with its closing quote. -/
inductive Lexeme : List Char → Prop
  | openParen : Lexeme ['(']
  | closeParen : Lexeme [')']
  | word {w : List Char} : WordText w → Lexeme w
  | quoted {b : List Char} : QuotedText false b → Lexeme ('"' :: (b ++ ['"']))

/-- A quoted string that the text never closes: it runs to the end of the text. -/
def Unclosed (u : List Char) : Prop :=
  ∃ escaped b, QuotedText escaped b ∧ u = '"' :: b

section Steps

variable {word : String} {acc : Array String} {rest : List Char}

theorem ofList_push (cs : List Char) (c : Char) : (String.ofList cs).push c = String.ofList (cs ++ [c]) := by
  rw [← String.toList_inj, String.toList_push, String.toList_ofList, String.toList_ofList]

@[simp] theorem flushWord_empty (acc : Array String) : flushWord "" acc = acc := rfl

theorem flushWord_ofList {w : List Char} (nonempty : w ≠ []) (acc : Array String) :
    flushWord (String.ofList w) acc = acc.push (String.ofList w) := by
  simp [flushWord, nonempty]

/-- An opening parenthesis that starts no block comment is a token of its own. -/
theorem readTokens_openParen (noComment : rest.head? ≠ some ';') :
    readTokens .code word acc ('(' :: rest) = readTokens .code "" ((flushWord word acc).push "(") rest := by
  rw [readTokens.eq_def]
  split <;> grind

theorem readTokens_closeParen :
    readTokens .code word acc (')' :: rest) = readTokens .code "" ((flushWord word acc).push ")") rest :=
  rfl

theorem readTokens_openQuote :
    readTokens .code word acc ('"' :: rest) = readTokens (.quoted false) "\"" (flushWord word acc) rest :=
  rfl

/-- Any other character in code: a blank ends the word being read, anything else joins it. -/
theorem readTokens_code_cons {c : Char} (notOpen : c ≠ '(') (noComment : c = ';' → rest.head? ≠ some ';')
    (notClose : c ≠ ')') (notQuote : c ≠ '"') :
    readTokens .code word acc (c :: rest) =
      if isBlank c then readTokens .code "" (flushWord word acc) rest
      else readTokens .code (word.push c) acc rest := by
  rw [readTokens.eq_def]
  split <;> grind

theorem readTokens_code_nil : readTokens .code word acc [] = flushWord word acc := rfl

theorem readTokens_escaped {c : Char} :
    readTokens (.quoted true) word acc (c :: rest) = readTokens (.quoted false) (word.push c) acc rest :=
  rfl

theorem readTokens_closeQuote :
    readTokens (.quoted false) word acc ('"' :: rest) = readTokens .code "" (acc.push (word.push '"')) rest :=
  rfl

theorem readTokens_quoted_cons {c : Char} (notQuote : c ≠ '"') :
    readTokens (.quoted false) word acc (c :: rest) =
      readTokens (.quoted (c == '\\')) (word.push c) acc rest := by
  rw [readTokens.eq_def]
  split <;> simp_all

theorem readTokens_quoted_nil {escaped : Bool} : readTokens (.quoted escaped) word acc [] = acc.push word := by
  cases escaped <;> rfl

/-- A plain character joins the word being read. -/
theorem readTokens_wordChar {c : Char} (plain : WordChar c) (noComment : c = ';' → rest.head? ≠ some ';') :
    readTokens .code word acc (c :: rest) = readTokens .code (word.push c) acc rest := by
  obtain ⟨notBlank, notOpen, notClose, notQuote⟩ := plain
  rw [readTokens_code_cons notOpen noComment notClose notQuote, if_neg (by simp [notBlank])]

/-- A blank ends the word being read. -/
theorem readTokens_blank {c : Char} (blank : isBlank c = true) :
    readTokens .code word acc (c :: rest) = readTokens .code "" (flushWord word acc) rest := by
  have other : c ≠ '(' ∧ c ≠ ';' ∧ c ≠ ')' ∧ c ≠ '"' := by
    refine ⟨?_, ?_, ?_, ?_⟩ <;> rintro rfl <;> exact absurd blank (by decide)
  rw [readTokens_code_cons other.1 (fun isSemi => absurd isSemi other.2.1) other.2.2.1 other.2.2.2,
    if_pos blank]

/-- What follows a token when the tokens are joined: a blank, or the end of the text. -/
def Separated (rest : List Char) : Prop :=
  ∀ c ∈ rest.head?, isBlank c = true

/-- Before a blank or at the end of the text, the word being read is finished. -/
theorem readTokens_separated (separated : Separated rest) :
    readTokens .code word acc rest = readTokens .code "" (flushWord word acc) rest := by
  rcases rest with _ | ⟨c, rest⟩
  · rw [readTokens_code_nil, readTokens_code_nil, flushWord_empty]
  · rw [readTokens_blank (separated c rfl), readTokens_blank (separated c rfl), flushWord_empty]

end Steps

section Forward

variable {acc : Array String}

/-- The characters of a plain word are read into one word. -/
theorem readTokens_wordText {w : List Char} (text : WordText w) {rest : List Char}
    (noComment : w.getLast? = some ';' → rest.head? ≠ some ';') :
    readTokens .code "" acc (w ++ rest) = readTokens .code (String.ofList w) acc rest := by
  induction text generalizing rest with
  | @single c plain =>
    rw [List.singleton_append, readTokens_wordChar plain (by simpa using noComment)]
    exact congrArg (readTokens .code · acc rest) (ofList_push [] c)
  | @snoc w c _ plain apart ih =>
    rw [List.append_assoc, List.singleton_append, ih (by simpa using apart),
      readTokens_wordChar plain (by simpa using noComment), ofList_push]

/-- The characters of a quoted string are read into the string, quote included. -/
theorem readTokens_quotedText {escaped : Bool} {b : List Char} (text : QuotedText escaped b)
    (rest : List Char) :
    readTokens (.quoted false) "\"" acc (b ++ rest) =
      readTokens (.quoted escaped) (String.ofList ('"' :: b)) acc rest := by
  induction text generalizing rest with
  | nil => rfl
  | @plain b c _ notQuote notBackslash ih =>
    have unescaped : (c == '\\') = false := by simpa using notBackslash
    rw [List.append_assoc, List.singleton_append, ih, readTokens_quoted_cons notQuote, ofList_push,
      List.cons_append, unescaped]
  | @backslash b _ ih =>
    rw [List.append_assoc, List.singleton_append, ih, readTokens_quoted_cons (by decide), ofList_push,
      List.cons_append]
    rfl
  | @escaped b c _ ih =>
    rw [List.append_assoc, List.singleton_append, ih, readTokens_escaped, ofList_push, List.cons_append]

/-- A token followed by a blank or by the end of the text is read back as itself. -/
theorem readTokens_lexeme {w : List Char} (token : Lexeme w) {rest : List Char} (separated : Separated rest) :
    readTokens .code "" acc (w ++ rest) = readTokens .code "" (acc.push (String.ofList w)) rest := by
  have notSemi : rest.head? ≠ some ';' := fun semi => absurd (separated ';' semi) (by decide)
  cases token with
  | openParen =>
    rw [List.singleton_append, readTokens_openParen notSemi]
    rfl
  | closeParen =>
    rw [List.singleton_append, readTokens_closeParen]
    rfl
  | word text =>
    have nonempty : w ≠ [] := by cases text <;> simp
    rw [readTokens_wordText text (fun _ => notSemi), readTokens_separated separated,
      flushWord_ofList nonempty]
  | @quoted b text =>
    rw [List.cons_append, readTokens_openQuote, flushWord_empty, List.append_assoc, List.singleton_append,
      readTokens_quotedText text, readTokens_closeQuote, ofList_push, List.cons_append]

/-- A quoted string never closed is read to the end of the text as one token. -/
theorem readTokens_unclosed {u : List Char} (unclosed : Unclosed u) :
    readTokens .code "" acc u = acc.push (String.ofList u) := by
  obtain ⟨escaped, b, text, rfl⟩ := unclosed
  rw [readTokens_openQuote, flushWord_empty, ← List.append_nil b, readTokens_quotedText text, readTokens_quoted_nil,
    List.append_nil]

end Forward

/-- Tokens that read back as themselves when joined by spaces: lexemes, of which only the last
may be a quoted string that is never closed. -/
inductive Readable : List String → Prop
  | nil : Readable []
  | unclosed {u : String} : Unclosed u.toList → Readable [u]
  | cons {w : String} {ts : List String} : Lexeme w.toList → Readable ts → Readable (w :: ts)

namespace Readable

theorem of_lexemes {ts : List String} (tokens : ∀ w ∈ ts, Lexeme w.toList) : Readable ts := by
  induction ts with
  | nil => exact nil
  | cons w ts ih =>
    obtain ⟨first, others⟩ := List.forall_mem_cons.1 tokens
    exact cons first (ih others)

theorem append_unclosed {ts : List String} {u : String} (tokens : ∀ w ∈ ts, Lexeme w.toList)
    (last : Unclosed u.toList) : Readable (ts ++ [u]) := by
  induction ts with
  | nil => exact unclosed last
  | cons w ts ih =>
    obtain ⟨first, others⟩ := List.forall_mem_cons.1 tokens
    exact cons first (ih others)

/-- A token followed by more tokens is a closed lexeme. -/
theorem of_cons_ne_nil {w : String} {ts : List String} (readable : Readable (w :: ts)) (more : ts ≠ []) :
    Lexeme w.toList ∧ Readable ts := by
  obtain ⟨next, others, rfl⟩ := List.exists_cons_of_ne_nil more
  cases readable with
  | cons first rest => exact ⟨first, rest⟩

theorem of_append_right {front back : List String} (readable : Readable (front ++ back)) :
    Readable back := by
  induction front with
  | nil => exact readable
  | cons w front ih =>
    by_cases empty : front ++ back = []
    · exact (List.append_eq_nil_iff.1 empty).2 ▸ nil
    · exact ih (of_cons_ne_nil readable empty).2

theorem of_append_left {front back : List String} (readable : Readable (front ++ back)) :
    Readable front := by
  induction front with
  | nil => exact nil
  | cons w front ih =>
    by_cases empty : front ++ back = []
    · obtain ⟨rfl, rfl⟩ := List.append_eq_nil_iff.1 empty
      exact readable
    · obtain ⟨first, rest⟩ := of_cons_ne_nil readable empty
      exact cons first (ih rest)

/-- A slice of readable tokens is readable. -/
theorem of_slice {ts slice : List String} (readable : Readable ts) (within : slice <:+: ts) :
    Readable slice := by
  obtain ⟨front, back, rfl⟩ := within
  rw [List.append_assoc] at readable
  exact of_append_left (of_append_right readable)

end Readable

/-- What the reader holds in the middle of a text: in code, a plain word so far, never a
semicolon at its end with another one next; in a quoted string, the string so far. -/
def Pending : ReadState → String → List Char → Prop
  | .code, word, input =>
    (word = "" ∨ WordText word.toList) ∧ (word.toList.getLast? = some ';' → input.head? ≠ some ';')
  | .quoted escaped, word, _ => ∃ b, QuotedText escaped b ∧ word.toList = '"' :: b
  | _, _, _ => True

theorem pending_code_empty (input : List Char) : Pending .code "" input := by
  simp [Pending]

theorem push_lexemes {acc : Array String} {t : String} (tokens : ∀ w ∈ acc.toList, Lexeme w.toList)
    (token : Lexeme t.toList) : ∀ w ∈ (acc.push t).toList, Lexeme w.toList := by
  intro w mem
  rw [Array.toList_push, List.mem_append, List.mem_singleton] at mem
  rcases mem with old | rfl
  · exact tokens w old
  · exact token

theorem flushWord_lexemes {word : String} {acc : Array String} (tokens : ∀ w ∈ acc.toList, Lexeme w.toList)
    (plain : word = "" ∨ WordText word.toList) : ∀ w ∈ (flushWord word acc).toList, Lexeme w.toList := by
  unfold flushWord
  split
  · exact tokens
  · rename_i nonempty
    exact push_lexemes tokens (.word (plain.resolve_left (by simpa [String.isEmpty_iff] using nonempty)))

/-- Every token the reader gives is a lexeme, except that the last may be a string never
closed. -/
theorem readTokens_readable {state : ReadState} {word : String} {acc : Array String} {input : List Char}
    (tokens : ∀ w ∈ acc.toList, Lexeme w.toList) (pending : Pending state word input) :
    Readable (readTokens state word acc input).toList := by
  fun_induction readTokens state word acc input with
  | case1 word acc rest ih | case2 word acc rest ih =>
    exact ih (flushWord_lexemes tokens pending.1) trivial
  | case3 word acc rest _ ih =>
    exact ih (push_lexemes (flushWord_lexemes tokens pending.1) .openParen) (pending_code_empty rest)
  | case4 word acc rest ih =>
    exact ih (push_lexemes (flushWord_lexemes tokens pending.1) .closeParen) (pending_code_empty rest)
  | case5 word acc rest ih =>
    exact ih (flushWord_lexemes tokens pending.1) ⟨[], .nil, rfl⟩
  | case6 word acc c rest _ _ _ _ _ _ ih =>
    exact ih (flushWord_lexemes tokens pending.1) (pending_code_empty rest)
  | case7 word acc c rest _ noComment notOpen notClose notQuote notBlank ih =>
    obtain ⟨plain, apart⟩ := pending
    have char : WordChar c := ⟨by simpa using notBlank, notOpen, notClose, notQuote⟩
    refine ih tokens ⟨Or.inr ?_, fun last next => ?_⟩
    · rw [String.toList_push]
      rcases plain with rfl | text
      · exact .single char
      · exact .snoc text char fun semi same => apart semi (by simp [same])
    · obtain ⟨r, rfl⟩ := List.head?_eq_some_iff.1 next
      exact noComment r (by simpa using last) rfl
  | case8 _ acc rest ih => exact ih tokens (pending_code_empty rest)
  | case9 _ acc _ rest _ ih => exact ih tokens trivial
  | case10 _ _ acc rest ih => exact ih tokens trivial
  | case11 _ acc rest ih | case12 _ acc rest ih => exact ih tokens (pending_code_empty rest)
  | case13 _ acc rest _ ih => exact ih tokens trivial
  | case14 _ _ acc _ rest _ _ ih => exact ih tokens trivial
  | case15 word acc c rest ih =>
    obtain ⟨b, text, read⟩ := pending
    exact ih tokens ⟨b ++ [c], .escaped text, by simp [read]⟩
  | case16 word acc rest ih =>
    obtain ⟨b, text, read⟩ := pending
    refine ih (push_lexemes tokens ?_) (pending_code_empty rest)
    simpa [read] using Lexeme.quoted text
  | case17 word acc c rest notQuote ih =>
    obtain ⟨b, text, read⟩ := pending
    by_cases backslash : c = '\\'
    · subst backslash
      exact ih tokens ⟨b ++ ['\\'], .backslash text, by simp [read]⟩
    · have plain : (c == '\\') = false := by simpa using backslash
      rw [plain] at ih ⊢
      exact ih tokens ⟨b ++ [c], .plain text notQuote backslash, by simp [read]⟩
  | case18 word acc => exact .of_lexemes (flushWord_lexemes tokens pending.1)
  | case19 escaped word acc =>
    obtain ⟨b, text, read⟩ := pending
    rw [Array.toList_push]
    exact .append_unclosed tokens ⟨escaped, b, text, read⟩
  | case20 _ _ acc => exact .of_lexemes tokens

/-- Readable tokens joined by single spaces are read back one by one after those already read. -/
theorem readTokens_join {ts : List String} (readable : Readable ts) (acc : Array String) :
    readTokens .code "" acc ([' '].intercalate (ts.map String.toList)) = acc ++ ts.toArray := by
  induction readable generalizing acc with
  | nil => simp [readTokens_code_nil]
  | @unclosed u last => simp [readTokens_unclosed last]
  | @cons w ts first rest ih =>
    cases ts with
    | nil =>
      have read : readTokens .code "" acc (w.toList ++ []) = readTokens .code "" (acc.push (String.ofList w.toList)) [] :=
        readTokens_lexeme first (by simp [Separated])
      simpa [readTokens_code_nil] using read
    | cons t ts =>
      rw [List.map_cons, List.map_cons, List.intercalate_cons_cons, List.append_assoc, List.singleton_append,
        readTokens_lexeme first (by simp [Separated]; decide), readTokens_blank (by decide), flushWord_empty,
        ← List.map_cons, ih]
      simp

/-- Tokens the reader gives read back as themselves. -/
theorem readable_tokenize (t : String) : Readable (tokenize t) :=
  readTokens_readable (by simp) (pending_code_empty _)

end WasmBoogie.Text

namespace WasmBoogie

open WasmBoogie.Text

/-- Every function form is a run of the module's tokens. -/
theorem functionForms_infix {top depth : Nat} {ts form : List String} (h : form ∈ functionForms top depth ts) :
    form <:+: ts := by
  fun_induction functionForms top depth ts with
  | case1 => simp at h
  | case2 depth rest _ n cut ih =>
    rw [List.mem_append] at h
    rcases h with here | later
    · have same : form = cut := by split at here <;> simp_all
      exact same ▸ (List.take_prefix n _).isInfix
    · exact (ih later).trans (List.drop_suffix n _).isInfix
  | case3 depth rest _ ih => exact (ih h).trans (List.suffix_cons _ _).isInfix
  | case4 depth rest ih => exact (ih h).trans (List.suffix_cons _ _).isInfix
  | case5 depth head rest _ _ ih => exact (ih h).trans (List.suffix_cons _ _).isInfix

/-- Joining a run of a text's tokens by single spaces and reading the result gives the same
tokens back. So each function text that the module is cut into is read as exactly the run of
the module's tokens it was cut from. -/
theorem tokenize_intercalate_slice (t : String) :
    (∀ slice, slice <:+: tokenize t → tokenize (" ".intercalate slice) = slice) ∧
      ∀ text ∈ splitFunctions t, ∃ slice, slice <:+: tokenize t ∧ text = " ".intercalate slice ∧
        tokenize text = slice := by
  have reread : ∀ slice, slice <:+: tokenize t → tokenize (" ".intercalate slice) = slice := by
    intro slice within
    have joined := readTokens_join ((readable_tokenize t).of_slice within) #[]
    rw [tokenize, String.toList_intercalate, show " ".toList = [' '] from rfl, joined]
    simp
  refine ⟨reread, fun text cut => ?_⟩
  simp only [splitFunctions, List.mem_map] at cut
  obtain ⟨form, selected, rfl⟩ := cut
  have within := functionForms_infix selected
  exact ⟨form, within, rfl, reread form within⟩

/-- A quoted string with escaped quotes, parentheses and blanks in it, followed by a parenthesis,
reads back from the joined text. -/
theorem quoted_slice_rereads :
    tokenize (" ".intercalate ["\"say \\\"hi\\\" (x)\"", ")"]) = ["\"say \\\"hi\\\" (x)\"", ")"] :=
  (tokenize_intercalate_slice "(import \"env\" \"say \\\"hi\\\" (x)\")").1 _
    ⟨["(", "import", "\"env\""], [], by decide⟩

end WasmBoogie
