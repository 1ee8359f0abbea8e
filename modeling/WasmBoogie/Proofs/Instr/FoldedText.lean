import Mathlib.Data.List.Basic
import WasmBoogie.Proofs.Instr.ReaderSteps
import WasmBoogie.Proofs.Lower.Folding

namespace WasmBoogie

open WasmBoogie.Text

/-- A token an instruction takes as an immediate: anything but a parenthesis. -/
abbrev Word := { t : String // t ≠ "(" ∧ t ≠ ")" }

/-- A token a table branch takes as a target: digits, or a dollar sign and a name. -/
abbrev LabelToken := { t : String // isLabelToken t = true }

/-- A type annotation of a block, an `if` or a `select`: `(result ...)`, `(param ...)` or
`(type ...)` around words. -/
structure Annotation where
  keyword : String
  words : List Word
  annotating : keyword = "result" ∨ keyword = "param" ∨ keyword = "type"

/-- The tokens of an annotation, parentheses included. -/
def Annotation.tokens (a : Annotation) : List String :=
  "(" :: a.keyword :: (a.words.map Subtype.val ++ [")"])

/-- The tokens of annotations in a row. -/
def annotationTokens (annotations : List Annotation) : List String :=
  annotations.flatMap Annotation.tokens

/-- The token that writes a label, if there is one. -/
def labelTokens : Option String → List String
  | some name => ["$" ++ name]
  | none => []

/-- A plain instruction as written: its name and its immediates. -/
inductive Plain where
  | const (ty : NumType) (literal : Word)
  | localGet (ref : Word)
  | localSet (ref : Word)
  | localTee (ref : Word)
  | call (target : Word)
  /-- A name the reader classifies as a one- or two-operand operator. -/
  | operator (name : String) (classified : (OpClass.classify name).isSome)
  | br (target : Word)
  | brIf (target : Word)
  | brTable (targets : List LabelToken) (default : LabelToken)
  | ret
  | nop
  | unreachable
  | select (annotations : List Annotation)

namespace Plain

/-- The name of a plain instruction. -/
def keyword : Plain → String
  | .const ty _ => ty.name ++ ".const"
  | .localGet _ => "local.get"
  | .localSet _ => "local.set"
  | .localTee _ => "local.tee"
  | .call _ => "call"
  | .operator name _ => name
  | .br _ => "br"
  | .brIf _ => "br_if"
  | .brTable _ _ => "br_table"
  | .ret => "return"
  | .nop => "nop"
  | .unreachable => "unreachable"
  | .select _ => "select"

/-- The immediates of a plain instruction, as written after its name. -/
def immediates : Plain → List String
  | .const _ literal => [literal.1]
  | .localGet ref | .localSet ref | .localTee ref => [ref.1]
  | .call target | .br target | .brIf target => [target.1]
  | .brTable targets default => targets.map Subtype.val ++ [default.1]
  | .select annotations => annotationTokens annotations
  | .operator .. | .ret | .nop | .unreachable => []

/-- The tokens of a plain instruction written flat. -/
def tokens (p : Plain) : List String :=
  p.keyword :: p.immediates

/-- What a plain instruction written flat reads as, with its local reference resolved in a
table: the instruction with its operand slots empty. -/
def read (locals : LocalTable) : Plain → Option Instr
  | .const ty literal => some (.const ty literal.1)
  | .localGet ref => (locals.slotOf? ref.1).map .localGet
  | .localSet ref => (locals.slotOf? ref.1).map (.localSet · none)
  | .localTee ref => (locals.slotOf? ref.1).map (.localTee · none)
  | .call target => some (.call target.1 [])
  | .operator name _ =>
    some (match OpClass.classify name with
      | some (.unary _) => .unary name none
      | _ => .binary name none none)
  | .br target => some (.br (.ofToken target.1) [])
  | .brIf target => some (.brIf (.ofToken target.1) [])
  | .brTable targets default =>
    some (.brTable [] (targets.map (LabelRef.ofToken ·.1)) (.ofToken default.1))
  | .ret => some (.ret [])
  | .nop => some .nop
  | .unreachable => some .unreachable
  | .select _ => some (.select [])

end Plain

/-- The kinds of instruction text. -/
inductive TextKind where
  /-- One instruction, flat or folded. -/
  | instr
  /-- One folded instruction. -/
  | folded
  /-- Instructions in a row, as in a body. -/
  | seq
  /-- Folded instructions in a row, as the operands of a folded instruction are. -/
  | foldedSeq

/-- `Unfolds k text flat`: the instruction text `text` of kind `k` unfolds to the flat text
`flat`. -/
inductive Unfolds : TextKind → List String → List String → Prop where
  /-- A flat plain instruction is its own unfolding. -/
  | plain (p : Plain) : Unfolds .instr p.tokens p.tokens
  /-- `block label? annot* body end label?`, or a loop alike. -/
  | block {body body' : List String} (kw : String) (scope : kw = "block" ∨ kw = "loop")
      (label : Option String) (annotations : List Annotation) (endLabel : Option String) :
      Unfolds .seq body body' →
      Unfolds .instr (kw :: labelTokens label ++ annotationTokens annotations ++ body ++
          "end" :: labelTokens endLabel)
        (kw :: labelTokens label ++ annotationTokens annotations ++ body' ++
          "end" :: labelTokens endLabel)
  /-- `if label? annot* t* end label?` -/
  | ite {thenBody thenBody' : List String} (label : Option String) (annotations : List Annotation)
      (endLabel : Option String) :
      Unfolds .seq thenBody thenBody' →
      Unfolds .instr ("if" :: labelTokens label ++ annotationTokens annotations ++ thenBody ++
          "end" :: labelTokens endLabel)
        ("if" :: labelTokens label ++ annotationTokens annotations ++ thenBody' ++
          "end" :: labelTokens endLabel)
  /-- `if label? annot* t* else label? e* end label?` -/
  | iteElse {thenBody thenBody' elseBody elseBody' : List String} (label : Option String)
      (annotations : List Annotation) (elseLabel endLabel : Option String) :
      Unfolds .seq thenBody thenBody' → Unfolds .seq elseBody elseBody' →
      Unfolds .instr ("if" :: labelTokens label ++ annotationTokens annotations ++ thenBody ++
          "else" :: labelTokens elseLabel ++ elseBody ++ "end" :: labelTokens endLabel)
        ("if" :: labelTokens label ++ annotationTokens annotations ++ thenBody' ++
          "else" :: labelTokens elseLabel ++ elseBody' ++ "end" :: labelTokens endLabel)
  /-- A folded instruction is an instruction. -/
  | folded {text flat : List String} : Unfolds .folded text flat → Unfolds .instr text flat
  /-- `(op imm* e*)` unfolds to the unfolded operands, then `op imm*`. -/
  | foldedPlain {operands operands' : List String} (p : Plain) :
      Unfolds .foldedSeq operands operands' →
      Unfolds .folded ("(" :: p.tokens ++ operands ++ [")"]) (operands' ++ p.tokens)
  /-- `(block label? annot* body)` unfolds to `block label? annot* body end`. -/
  | foldedBlock {body body' : List String} (kw : String) (scope : kw = "block" ∨ kw = "loop")
      (label : Option String) (annotations : List Annotation) :
      Unfolds .seq body body' →
      Unfolds .folded ("(" :: kw :: labelTokens label ++ annotationTokens annotations ++ body ++ [")"])
        (kw :: labelTokens label ++ annotationTokens annotations ++ body' ++ ["end"])
  /-- `(if label? annot* c* (then t*))` unfolds to `c* if label? annot* t* end`. -/
  | foldedIf {cond cond' thenBody thenBody' : List String} (label : Option String)
      (annotations : List Annotation) :
      Unfolds .foldedSeq cond cond' → Unfolds .seq thenBody thenBody' →
      Unfolds .folded ("(" :: "if" :: labelTokens label ++ annotationTokens annotations ++ cond ++
          "(" :: "then" :: thenBody ++ [")", ")"])
        (cond' ++ "if" :: labelTokens label ++ annotationTokens annotations ++ thenBody' ++ ["end"])
  /-- `(if label? annot* c* (then t*) (else e*))` unfolds to `c* if label? annot* t* else e* end`. -/
  | foldedIfElse {cond cond' thenBody thenBody' elseBody elseBody' : List String}
      (label : Option String) (annotations : List Annotation) :
      Unfolds .foldedSeq cond cond' → Unfolds .seq thenBody thenBody' →
      Unfolds .seq elseBody elseBody' →
      Unfolds .folded ("(" :: "if" :: labelTokens label ++ annotationTokens annotations ++ cond ++
          "(" :: "then" :: thenBody ++ ")" :: "(" :: "else" :: elseBody ++ [")", ")"])
        (cond' ++ "if" :: labelTokens label ++ annotationTokens annotations ++ thenBody' ++
          "else" :: elseBody' ++ ["end"])
  /-- `(if label? annot* c t)` unfolds to `c if label? annot* t end`. -/
  | foldedIfShort {cond cond' thenArm thenArm' : List String} (label : Option String)
      (annotations : List Annotation) :
      Unfolds .folded cond cond' → Unfolds .folded thenArm thenArm' →
      Unfolds .folded ("(" :: "if" :: labelTokens label ++ annotationTokens annotations ++ cond ++
          thenArm ++ [")"])
        (cond' ++ "if" :: labelTokens label ++ annotationTokens annotations ++ thenArm' ++ ["end"])
  /-- `(if label? annot* c t e)` unfolds to `c if label? annot* t else e end`. -/
  | foldedIfShortElse {cond cond' thenArm thenArm' elseArm elseArm' : List String}
      (label : Option String) (annotations : List Annotation) :
      Unfolds .folded cond cond' → Unfolds .folded thenArm thenArm' →
      Unfolds .folded elseArm elseArm' →
      Unfolds .folded ("(" :: "if" :: labelTokens label ++ annotationTokens annotations ++ cond ++
          thenArm ++ elseArm ++ [")"])
        (cond' ++ "if" :: labelTokens label ++ annotationTokens annotations ++ thenArm' ++
          "else" :: elseArm' ++ ["end"])
  | nil : Unfolds .seq [] []
  | cons {text flat rest rest' : List String} :
      Unfolds .instr text flat → Unfolds .seq rest rest' → Unfolds .seq (text ++ rest) (flat ++ rest')
  | foldedNil : Unfolds .foldedSeq [] []
  | foldedCons {text flat rest rest' : List String} :
      Unfolds .folded text flat → Unfolds .foldedSeq rest rest' →
      Unfolds .foldedSeq (text ++ rest) (flat ++ rest')

/-- The tokens the reader tells apart by themselves: parentheses, the words that end a
sequence, and the keywords of arms and annotations. -/
def reservedTokens : List String := ["(", ")", "end", "else", "then", "result", "param", "type"]

/-- A word that names an instruction: no reserved token, no branch target and no label. -/
def Keyword (kw : String) : Prop :=
  kw ∉ reservedTokens ∧ isLabelToken kw = false ∧ dropDollar? kw = none

theorem keyword_of_mem {kw : String} (known : kw ∈ instructionKeywords) : Keyword kw := by
  refine ⟨?_, ?_, ?_⟩
  · exact (by decide : ∀ k ∈ instructionKeywords, k ∉ reservedTokens) kw known
  · simp only [instructionKeywords, List.mem_cons, List.not_mem_nil, or_false] at known
    rcases known with
      rfl | rfl | rfl | rfl | rfl | rfl | rfl | rfl | rfl | rfl | rfl | rfl | rfl | rfl <;>
      simp [isLabelToken, isDigits, isAsciiDigit]
  · exact (by decide : ∀ k ∈ instructionKeywords, dropDollar? k = none) kw known

/-- A word that starts with a letter names an instruction, unless it is reserved. -/
theorem keyword_of_head {kw : String} {c : Char} (head : kw.toList.head? = some c)
    (letter : c = 'i' ∨ c = 'f') (unreserved : kw ∉ reservedTokens) : Keyword kw := by
  obtain ⟨rest, spelled⟩ := List.head?_eq_some_iff.1 head
  have notDigit : isAsciiDigit c = false := by rcases letter with rfl | rfl <;> decide
  refine ⟨unreserved, ?_, ?_⟩
  · have notDollar : kw.startsWith "$" = false := by
      rw [String.startsWith_string_eq_false_iff, spelled]
      rintro ⟨tail, same⟩
      rcases letter with rfl | rfl <;> simp at same
    simp [isLabelToken, isDigits, spelled, notDigit, notDollar]
  · unfold dropDollar?
    rw [spelled]
    rcases letter with rfl | rfl <;> rfl

/-- The name of an operator other than `drop` starts with the letter of its number type. -/
theorem head_of_classify {name : String} (classified : (OpClass.classify name).isSome) :
    name = "drop" ∨ name.toList.head? = some 'i' ∨ name.toList.head? = some 'f' := by
  unfold OpClass.classify at classified
  by_cases drop : name = "drop"
  · exact .inl drop
  right
  rw [if_neg drop] at classified
  rcases split : OpClass.splitAtDot name with _ | ⟨pre, suffix⟩
  · simp [split] at classified
  rcases typed : NumType.ofPrefix? pre with _ | ty
  · simp [split, typed] at classified
  unfold OpClass.splitAtDot at split
  rcases dot : name.toList.findIdx? (· == '.') with _ | i
  · simp [dot] at split
  simp only [dot, Option.some.injEq, Prod.mk.injEq] at split
  have taken : name.toList.take i = pre.toList := by rw [← split.1, String.toList_ofList]
  have head := congrArg List.head? taken
  rw [List.head?_take] at head
  unfold NumType.ofPrefix? at typed
  split at typed <;> simp_all

/-- The prefix that names a number type names just that type. -/
theorem NumType.eq_name_of_ofPrefix? {pre : String} {ty : NumType}
    (typed : NumType.ofPrefix? pre = some ty) : pre = ty.name := by
  unfold NumType.ofPrefix? at typed
  split at typed <;> cases typed <;> rfl

/-- The name of a constant is no operator. -/
theorem classify_const (ty : NumType) : OpClass.classify (ty.name ++ ".const") = none := by
  have split : OpClass.splitAtDot (ty.name ++ ".const") = some (ty.name, "const") := by
    cases ty <;> simp only [NumType.name, String.reduceAppend] <;> decide
  have notDrop : ty.name ++ ".const" ≠ "drop" := by
    cases ty <;> simp only [NumType.name, String.reduceAppend] <;> decide
  have typed : NumType.ofPrefix? ty.name = some ty := by cases ty <;> rfl
  have unary : OpClass.unaryOfSuffix? "const" = none := by
    simp [OpClass.unaryOfSuffix?, OpClass.conversionFamilies]
  have binary : OpClass.binaryOfSuffix? "const" = none := by decide
  unfold OpClass.classify
  rw [if_neg notDrop, split]
  simp only [typed, unary, binary, Option.map_none]

/-- No operator name is the name of a constant. -/
theorem untyped_of_classify {name : String} (classified : (OpClass.classify name).isSome) :
    constType? name = none := by
  rcases typed : constType? name with _ | ty
  · rfl
  exfalso
  unfold constType? at typed
  simp only at typed
  split at typed
  · rename_i suffix
    obtain ⟨pre, written⟩ := List.isSuffixOf_iff_suffix.1 suffix
    have taken : name.toList.take (name.toList.length - 6) = pre := by
      rw [← written, List.take_left']
      simp
    rw [taken] at typed
    have named : name = String.ofList pre ++ ".const" := by
      apply String.toList_inj.1
      simp [← written]
    rw [named, NumType.eq_name_of_ofPrefix? typed, classify_const] at classified
    cases classified
  · cases typed

theorem constType?_const (ty : NumType) : constType? (ty.name ++ ".const") = some ty := by
  cases ty <;> simp only [NumType.name, String.reduceAppend] <;> decide

namespace Plain

theorem keyword_keyword (p : Plain) : Keyword p.keyword := by
  cases p with
  | const ty _ =>
    cases ty <;> simp only [keyword, NumType.name, String.reduceAppend] <;>
      exact ⟨by decide, by simp [isLabelToken, isDigits, isAsciiDigit], by decide⟩
  | operator name classified =>
    rcases head_of_classify classified with drop | head | head
    · show Keyword name
      subst drop
      exact ⟨by decide, by simp [isLabelToken, isDigits, isAsciiDigit], by decide⟩
    all_goals
      refine keyword_of_head head (by simp) fun reserved => ?_
      simp only [reservedTokens, List.mem_cons, List.not_mem_nil, or_false] at reserved
      rcases reserved with rfl | rfl | rfl | rfl | rfl | rfl | rfl | rfl <;> revert head <;> decide
  | _ => exact keyword_of_mem (by simp [keyword, instructionKeywords])

end Plain

theorem Keyword.word {kw : String} (keyword : Keyword kw) : kw ≠ "(" ∧ kw ≠ ")" :=
  ⟨fun same => keyword.1 (by simp [same, reservedTokens]),
    fun same => keyword.1 (by simp [same, reservedTokens])⟩

theorem Keyword.terminator {kw : String} (keyword : Keyword kw) (rest : List String) :
    BodyReader.terminator? (kw :: rest) = none := by
  unfold BodyReader.terminator?
  split <;> simp_all [Keyword, reservedTokens]

/-- No label opens the tokens. -/
def Unlabelled (ts : List String) : Prop :=
  ∀ t ∈ ts.head?, dropDollar? t = none

/-- No type annotation opens the tokens. -/
def Unannotated (ts : List String) : Prop :=
  ∀ kw tail, ts = "(" :: kw :: tail → ¬(kw = "result" ∨ kw = "param" ∨ kw = "type")

/-- What may follow a flat instruction without being read as part of it: no branch target for a
table branch, no label for an `end`, and no annotation for a `select`. -/
structure Follows (rest : List String) : Prop where
  untargeted : ∀ t ∈ rest.head?, isLabelToken t = false
  unlabelled : Unlabelled rest
  unannotated : Unannotated rest

/-- Text that opens with an instruction: its name, or a parenthesis and its name. -/
def Opens (text : List String) : Prop :=
  ∃ kw rest, Keyword kw ∧ (text = kw :: rest ∨ text = "(" :: kw :: rest)

/-- Instructions in a row: none, or text that opens with an instruction. -/
def Leads (text : List String) : Prop :=
  text = [] ∨ Opens text

theorem unlabelled_cons {t : String} (rest : List String) (unlabelled : dropDollar? t = none) :
    Unlabelled (t :: rest) := by
  intro t' head
  cases head
  exact unlabelled

theorem unannotated_cons {t : String} (rest : List String) (notOpen : t ≠ "(") :
    Unannotated (t :: rest) :=
  fun _ _ same => absurd (List.cons.inj same).1 notOpen

/-- The end of the tokens, a closing parenthesis, `end` and `else` may follow anything. -/
theorem Follows.of_terminator {rest : List String} {t : Terminator}
    (stops : BodyReader.terminator? rest = some t) : Follows rest := by
  rcases rest with _ | ⟨tok, tail⟩
  · exact ⟨by simp, by simp [Unlabelled], fun _ _ same => by cases same⟩
  have ended : tok = ")" ∨ tok = "end" ∨ tok = "else" := by
    unfold BodyReader.terminator? at stops
    split at stops <;> simp_all
  refine ⟨?_, unlabelled_cons tail ?_, unannotated_cons tail ?_⟩
  · rcases ended with rfl | rfl | rfl <;> simp [isLabelToken, isDigits, isAsciiDigit]
  · rcases ended with rfl | rfl | rfl <;> decide
  · rcases ended with rfl | rfl | rfl <;> decide

theorem Opens.append {text : List String} (opens : Opens text) (rest : List String) :
    Opens (text ++ rest) := by
  obtain ⟨kw, tail, keyword, rfl | rfl⟩ := opens
  · exact ⟨kw, tail ++ rest, keyword, .inl rfl⟩
  · exact ⟨kw, tail ++ rest, keyword, .inr rfl⟩

theorem Opens.terminator {text : List String} (opens : Opens text) :
    BodyReader.terminator? text = none := by
  obtain ⟨kw, rest, keyword, rfl | rfl⟩ := opens
  · exact keyword.terminator rest
  · rfl

/-- An instruction may follow any other. -/
theorem Opens.follows {text : List String} (opens : Opens text) : Follows text := by
  obtain ⟨kw, rest, keyword, rfl | rfl⟩ := opens
  · exact ⟨by simpa using keyword.2.1, unlabelled_cons rest keyword.2.2,
      unannotated_cons rest keyword.word.1⟩
  refine ⟨by simp [isLabelToken, isDigits, isAsciiDigit], unlabelled_cons _ (by decide), ?_⟩
  rintro k tail same annotating
  obtain ⟨rfl, -⟩ := List.cons.inj (List.cons.inj same).2
  exact keyword.1 (by rcases annotating with rfl | rfl | rfl <;> simp [reservedTokens])

theorem Leads.follows {text rest : List String} (leads : Leads text) (follows : Follows rest) :
    Follows (text ++ rest) := by
  rcases leads with rfl | opens
  · exact follows
  · exact (opens.append rest).follows

theorem Plain.opens (p : Plain) : Opens p.tokens :=
  ⟨p.keyword, p.immediates, p.keyword_keyword, .inl rfl⟩

theorem dropDollar?_label (name : String) : dropDollar? ("$" ++ name) = some name := by
  simp [dropDollar?]

/-- A label as written is read back, and the reading goes on after it. What follows has to be
told apart from a label only when no label is written. -/
theorem takeLabel_labelTokens (label : Option String) {rest : List String}
    (unlabelled : label = none → Unlabelled rest) :
    (BodyReader.takeLabel (labelTokens label ++ rest)).1 = label ∧
      (BodyReader.takeLabel (labelTokens label ++ rest)).2.1 = rest := by
  rcases label with _ | name
  · rcases rest with _ | ⟨t, tail⟩
    · exact ⟨rfl, rfl⟩
    · simp [labelTokens, BodyReader.takeLabel, unlabelled rfl t rfl]
  · simp [labelTokens, BodyReader.takeLabel, dropDollar?_label]

theorem Unlabelled.annotations (annotations : List Annotation) {rest : List String}
    (unlabelled : Unlabelled rest) : Unlabelled (annotationTokens annotations ++ rest) := by
  rcases annotations with _ | ⟨a, as⟩
  · exact unlabelled
  · simp only [annotationTokens, List.flatMap_cons, Annotation.tokens, List.cons_append]
    exact unlabelled_cons _ (by decide)

theorem Leads.unlabelled {text rest : List String} (leads : Leads text)
    (unlabelled : Unlabelled rest) : Unlabelled (text ++ rest) := by
  rcases leads with rfl | opens
  · exact unlabelled
  · exact (opens.append rest).follows.unlabelled

theorem Leads.unannotated {text rest : List String} (leads : Leads text)
    (unannotated : Unannotated rest) : Unannotated (text ++ rest) := by
  rcases leads with rfl | opens
  · exact unannotated
  · exact (opens.append rest).follows.unannotated

/-- Instructions in a row before a word that is neither a label nor a parenthesis, such as `end`,
`else` or a closing parenthesis, open with no label and no annotation. -/
theorem Leads.before {text : List String} {tok : String} (leads : Leads text) (rest : List String)
    (word : dropDollar? tok = none ∧ tok ≠ "(") :
    Unlabelled (text ++ tok :: rest) ∧ Unannotated (text ++ tok :: rest) :=
  ⟨leads.unlabelled (unlabelled_cons rest word.1),
    leads.unannotated (unannotated_cons rest word.2)⟩

/-- Words up to a closing parenthesis are skipped through it. -/
theorem skipNested_words (words : List Word) (rest : List String) :
    (skipNested 0 (words.map Subtype.val ++ ")" :: rest)).map Subtype.val = some rest := by
  induction words with
  | nil =>
    rw [List.map_nil, List.nil_append, skipNested, if_neg (by decide), if_pos rfl]
    rfl
  | cons w ws ih =>
    rw [List.map_cons, List.cons_append, skipNested, if_neg w.2.1, if_neg w.2.2, Option.map_map]
    exact ih

/-- Annotations as written are skipped, and the reading goes on after them. -/
theorem BodyReader.skipAnnotations?_annotations (R : BodyReader) (annotations : List Annotation)
    {rest : List String} (unannotated : Unannotated rest) :
    R.skipAnnotations? (annotationTokens annotations ++ rest) = some rest := by
  induction annotations with
  | nil => exact R.skipAnnotations?_none unannotated
  | cons a as ih =>
    have word : a.keyword ≠ "(" ∧ a.keyword ≠ ")" := by
      rcases a.annotating with same | same | same <;> simp [same]
    obtain ⟨r, skipped, stop⟩ := Option.map_eq_some_iff.1
      (skipNested_words (⟨a.keyword, word⟩ :: a.words) (annotationTokens as ++ rest))
    have tokens : annotationTokens (a :: as) ++ rest =
        "(" :: a.keyword :: (a.words.map Subtype.val ++ ")" :: (annotationTokens as ++ rest)) := by
      simp [annotationTokens, Annotation.tokens]
    rw [tokens, R.skipAnnotations?_form _ a.annotating]
    change ((skipNested 0 ((⟨a.keyword, word⟩ :: a.words).map Subtype.val ++
      ")" :: (annotationTokens as ++ rest))).bind fun r => R.skipAnnotations? r.1) = some rest
    rw [skipped, Option.bind_some, stop, ih]

namespace Instr

@[simp] theorem flattenList_append (xs ys : List Instr) :
    flattenList (xs ++ ys) = flattenList xs ++ flattenList ys := by
  induction xs with
  | nil => rfl
  | cons i rest ih => simp [flattenList, ih]

@[simp] theorem flattenList_singleton (i : Instr) : flattenList [i] = flatten i := by
  simp [flattenList]

/-- At most one operand flattens as the optional operand it is read as. -/
theorem flattenList_of_length_le_one {ns : List Instr} (short : ns.length ≤ 1) :
    flattenList ns = flattenOpt ns.head? := by
  rcases ns with _ | ⟨n, _ | ⟨m, more⟩⟩
  · rfl
  · simp [flattenOpt]
  · simp at short

end Instr

/-- Label tokens are taken as targets up to the first token that is none. -/
theorem takeWhile_labelTokens (ws : List LabelToken) {rest : List String} (follows : Follows rest) :
    (ws.map Subtype.val ++ rest).takeWhile isLabelToken = ws.map Subtype.val ∧
      (ws.map Subtype.val ++ rest).dropWhile isLabelToken = rest := by
  have labels : ∀ t ∈ ws.map Subtype.val, isLabelToken t := fun t mem => by
    obtain ⟨w, -, rfl⟩ := List.mem_map.1 mem
    exact w.2
  rw [List.takeWhile_append_of_pos labels, List.dropWhile_append_of_pos labels]
  rcases rest with _ | ⟨t, tail⟩
  · simp
  · simp [follows.untargeted t rfl]

/-- A plain instruction written flat reads as `Plain.read`, and the reading goes on after it. -/
theorem BodyReader.node?_plain (R : BodyReader) (p : Plain) {rest : List String}
    (follows : Follows rest) : R.node? (p.tokens ++ rest) = (p.read R.locals).map (·, rest) := by
  have word := p.keyword_keyword.word
  rw [Plain.tokens, List.cons_append, R.node?_word _ word.1 word.2]
  cases p <;> simp only [Plain.keyword, Plain.immediates, List.singleton_append, List.nil_append]
  case const ty literal => exact R.flat?_const rest (constType?_const ty) literal.2
  case localGet ref => simp [Plain.read, R.flat?_local rest (.inl rfl) ref.2, Function.comp_def]
  case localSet ref =>
    simp [Plain.read, R.flat?_local rest (.inr (.inl rfl)) ref.2, Function.comp_def]
  case localTee ref =>
    simp [Plain.read, R.flat?_local rest (.inr (.inr rfl)) ref.2, Function.comp_def]
  case call target => exact R.flat?_call rest target.2
  case operator name classified =>
    obtain ⟨c, classifies⟩ := Option.isSome_iff_exists.1 classified
    cases c with
    | unary k =>
      simp [Plain.read, classifies, R.flat?_unary rest (untyped_of_classify classified) classifies]
    | binary k =>
      simp [Plain.read, classifies, R.flat?_binary rest (untyped_of_classify classified) classifies]
  case br target => exact R.flat?_branch rest (.inl rfl) target.2
  case brIf target => exact R.flat?_branch rest (.inr rfl) target.2
  case brTable targets default =>
    obtain ⟨taken, dropped⟩ := takeWhile_labelTokens (targets ++ [default]) follows
    rw [List.map_append, List.map_singleton] at taken dropped
    rw [R.flat?_table, taken, dropped]
    simp [Plain.read]
  case ret => exact R.flat?_bare rest (.inl rfl)
  case nop => exact R.flat?_bare rest (.inr (.inl rfl))
  case unreachable => exact R.flat?_bare rest (.inr (.inr rfl))
  case select annotations =>
    simp [Plain.read, R.flat?_select,
      R.skipAnnotations?_annotations annotations follows.unannotated]

/-- A plain instruction reads with its operand slots empty, so it is its own flat form. -/
theorem Plain.flatten_read {p : Plain} {locals : LocalTable} {i : Instr}
    (read : p.read locals = some i) : i.flatten = [i] := by
  cases p <;> simp only [Plain.read, Option.map_eq_some_iff, Option.some.injEq] at read
  case operator name _ => subst read; split <;> rfl
  case localGet | localSet | localTee => obtain ⟨_, _, rfl⟩ := read; rfl
  all_goals subst read; rfl

/-- A form closed at once has no operands. -/
theorem BodyReader.children?_of_closing? (R : BodyReader) {ts rest : List String}
    (closes : closing? ts = some rest) : R.children? ts = some ([], rest) := by
  unfold closing? at closes
  split at closes
  · cases closes
    exact R.children?_close rest
  · cases closes

/-- A plain instruction other than a table branch, written folded, reads as the instruction with
its operands put in, which flattens to its operands followed by the instruction read flat. -/
theorem BodyReader.folded?_plain (R : BodyReader) (p : Plain)
    (untabled : ∀ targets d, p ≠ .brTable targets d) {ts rest : List String} {i : Instr}
    (unannotated : Unannotated ts) (reads : R.folded? (p.tokens ++ ts) = some (i, rest)) :
    ∃ i₀ ns, p.read R.locals = some i₀ ∧ R.children? ts = some (ns, rest) ∧
      i.flatten = Instr.flattenList ns ++ [i₀] := by
  cases p <;> simp only [Plain.tokens, Plain.keyword, Plain.immediates, List.cons_append,
    List.nil_append] at reads
  case const ty literal =>
    rw [R.folded?_const ts (constType?_const ty) literal.2] at reads
    obtain ⟨r, closes, ⟨⟩⟩ := Option.map_eq_some_iff.1 reads
    exact ⟨_, [], rfl, R.children?_of_closing? closes, rfl⟩
  case localGet ref =>
    rw [R.folded?_localGet ts ref.2] at reads
    simp only [Option.bind_eq_some_iff, Option.map_eq_some_iff, Prod.mk.injEq] at reads
    obtain ⟨s, found, r, closes, rfl, rfl⟩ := reads
    exact ⟨_, [], by simp [Plain.read, found], R.children?_of_closing? closes, rfl⟩
  case localSet ref =>
    rw [R.folded?_localWrite ts (.inl rfl) ref.2] at reads
    simp only [Option.bind_eq_some_iff, Option.ite_none_right_eq_some, Option.some.injEq,
      Prod.mk.injEq, if_pos] at reads
    obtain ⟨s, found, ⟨ns, r⟩, children, short, rfl, rfl⟩ := reads
    refine ⟨.localSet s none, ns, by simp [Plain.read, found], children, ?_⟩
    simp [Instr.flatten, Instr.flattenList_of_length_le_one short]
  case localTee ref =>
    rw [R.folded?_localWrite ts (.inr rfl) ref.2] at reads
    simp only [Option.bind_eq_some_iff, Option.ite_none_right_eq_some, Option.some.injEq,
      Prod.mk.injEq] at reads
    obtain ⟨s, found, ⟨ns, r⟩, children, short, rfl, rfl⟩ := reads
    refine ⟨.localTee s none, ns, by simp [Plain.read, found], children, ?_⟩
    simp [Instr.flatten, Instr.flattenList_of_length_le_one short]
  case call target =>
    rw [R.folded?_call ts target.2] at reads
    obtain ⟨⟨ns, r⟩, children, ⟨⟩⟩ := Option.map_eq_some_iff.1 reads
    exact ⟨.call target.1 [], ns, rfl, children, rfl⟩
  case operator name classified =>
    obtain ⟨c, classifies⟩ := Option.isSome_iff_exists.1 classified
    cases c with
    | unary k =>
      rw [R.folded?_unary ts (untyped_of_classify classified) classifies] at reads
      simp only [Option.bind_eq_some_iff, Option.ite_none_right_eq_some, Option.some.injEq,
        Prod.mk.injEq] at reads
      obtain ⟨⟨ns, r⟩, children, short, rfl, rfl⟩ := reads
      refine ⟨.unary name none, ns, by simp [Plain.read, classifies], children, ?_⟩
      simp [Instr.flatten, Instr.flattenList_of_length_le_one short]
    | binary k =>
      rw [R.folded?_binary ts (untyped_of_classify classified) classifies] at reads
      obtain ⟨⟨ns, r⟩, children, built⟩ := Option.bind_eq_some_iff.1 reads
      obtain ⟨i', operands, ⟨⟩⟩ := Option.map_eq_some_iff.1 built
      refine ⟨.binary name none none, ns, by simp [Plain.read, classifies], children, ?_⟩
      rcases ns with _ | ⟨a, _ | ⟨b, _ | ⟨c, more⟩⟩⟩ <;>
        simp only [binaryOperands, Option.some.injEq, reduceCtorEq] at operands
      all_goals
        subst operands
        simp [Instr.flatten, Instr.flattenOpt, Instr.flattenList]
  case br target =>
    rw [R.folded?_branch ts (.inl rfl) target.2] at reads
    obtain ⟨⟨ns, r⟩, children, ⟨⟩⟩ := Option.map_eq_some_iff.1 reads
    exact ⟨.br (.ofToken target.1) [], ns, rfl, children, rfl⟩
  case brIf target =>
    rw [R.folded?_branch ts (.inr rfl) target.2] at reads
    obtain ⟨⟨ns, r⟩, children, ⟨⟩⟩ := Option.map_eq_some_iff.1 reads
    exact ⟨.brIf (.ofToken target.1) [], ns, rfl, children, rfl⟩
  case brTable targets d => exact absurd rfl (untabled targets d)
  case ret =>
    rw [R.folded?_return ts] at reads
    obtain ⟨⟨ns, r⟩, children, ⟨⟩⟩ := Option.map_eq_some_iff.1 reads
    exact ⟨.ret [], ns, rfl, children, rfl⟩
  case nop =>
    rw [R.folded?_bare ts (.inl rfl)] at reads
    obtain ⟨r, closes, ⟨⟩⟩ := Option.map_eq_some_iff.1 reads
    exact ⟨.nop, [], rfl, R.children?_of_closing? closes, rfl⟩
  case unreachable =>
    rw [R.folded?_bare ts (.inr rfl)] at reads
    obtain ⟨r, closes, ⟨⟩⟩ := Option.map_eq_some_iff.1 reads
    exact ⟨.unreachable, [], rfl, R.children?_of_closing? closes, rfl⟩
  case select annotations =>
    rw [R.folded?_select, R.skipAnnotations?_annotations annotations unannotated,
      Option.bind_some] at reads
    simp only [Option.bind_eq_some_iff, Option.ite_none_right_eq_some, Option.some.injEq,
      Prod.mk.injEq] at reads
    obtain ⟨⟨ns, r⟩, children, -, rfl, rfl⟩ := reads
    exact ⟨.select [], ns, rfl, children, rfl⟩

theorem LabelToken.word (w : LabelToken) : w.1 ≠ "(" ∧ w.1 ≠ ")" := by
  obtain ⟨t, label⟩ := w
  constructor <;> rintro rfl <;> simp [isLabelToken, isDigits, isAsciiDigit] at label

/-- The targets of a folded table branch are taken in order. -/
theorem BodyReader.tableArgs?_labels (R : BodyReader) (ws : List LabelToken) (ts : List String)
    (ops : List Instr) (targets : List LabelRef) :
    R.tableArgs? (ws.map Subtype.val ++ ts) ops targets =
      R.tableArgs? ts ops (targets ++ ws.map (LabelRef.ofToken ·.1)) := by
  induction ws generalizing targets with
  | nil => simp
  | cons w ws ih =>
    rw [List.map_cons, List.cons_append, R.tableArgs?_word _ _ _ w.word.1 w.word.2, ih]
    simp

end WasmBoogie
