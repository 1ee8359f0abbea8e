import WasmBoogie.Proofs.Instr.FoldedText

namespace WasmBoogie

open WasmBoogie.Text

namespace BodyReader

variable (R : BodyReader)

/-- Flat text reads as the instructions `ns`, and the reading goes on with what follows it. -/
def ReadsFlat (flat : List String) (ns : List Instr) : Prop :=
  ∀ rest, Follows rest →
    R.instrs? (flat ++ rest) = (R.instrs? rest).map fun (ms, t, r) => (ns ++ ms, t, r)

variable {R}

theorem ReadsFlat.nil : R.ReadsFlat [] [] := fun rest _ => by
  simp

theorem ReadsFlat.append {a b : List String} {ns ms : List Instr} (first : R.ReadsFlat a ns)
    (second : R.ReadsFlat b ms) (leads : Leads b) : R.ReadsFlat (a ++ b) (ns ++ ms) := by
  intro rest follows
  rw [List.append_assoc, first _ (leads.follows follows), second rest follows, Option.map_map]
  simp [Function.comp_def]

/-- One flat instruction that reads whatever may follow it. -/
theorem ReadsFlat.single {flat : List String} {i : Instr} (opens : Opens flat)
    (reads : ∀ rest, Follows rest → R.node? (flat ++ rest) = some (i, rest)) :
    R.ReadsFlat flat [i] := by
  intro rest follows
  rw [R.instrs?_step (opens.append rest).terminator, reads rest follows, Option.bind_some]
  rfl

/-- Flat text read up to a terminator. -/
theorem ReadsFlat.instrs? {flat rest : List String} {ns : List Instr} {t : Terminator}
    (reads : R.ReadsFlat flat ns) (stops : terminator? rest = some t) :
    R.instrs? (flat ++ rest) = some (ns, t, rest) := by
  rw [reads rest (Follows.of_terminator stops), R.instrs?_stop stops]
  simp

/-- A flat body is read through the `end` or `else` after it and the label that follows. -/
theorem ReadsFlat.flatBody? {body rest : List String} {ns : List Instr}
    (reads : R.ReadsFlat body ns)
    {tok : String} {t : Terminator} (stops : terminator? [tok] = some t)
    (ending : t = .endKeyword ∨ t = .elseKeyword) (label : Option String)
    (unlabelled : Unlabelled rest) :
    R.flatBody? (body ++ tok :: (labelTokens label ++ rest)) = some (ns, t, rest) := by
  have stops' : terminator? (tok :: (labelTokens label ++ rest)) = some t := by
    unfold terminator? at stops ⊢
    split at stops <;> simp_all
  rw [R.flatBody?_eq, reads.instrs? stops', Option.bind_some]
  rcases ending with rfl | rfl <;> simp [(takeLabel_labelTokens label fun _ => unlabelled).2]

variable (R)

theorem keyword_of_scope {kw : String} (scope : kw = "block" ∨ kw = "loop") : Keyword kw :=
  keyword_of_mem (by rcases scope with rfl | rfl <;> decide)

theorem keyword_if : Keyword "if" :=
  keyword_of_mem (by decide)

/-- The label and the annotations of a block or an `if` are read, and its body comes next. -/
theorem takeLabel_skipAnnotations (label : Option String) (annotations : List Annotation)
    {ts : List String} (bare : Unlabelled ts ∧ Unannotated ts) :
    (takeLabel (labelTokens label ++ (annotationTokens annotations ++ ts))).1 = label ∧
      R.skipAnnotations?
        (takeLabel (labelTokens label ++ (annotationTokens annotations ++ ts))).2.1 = some ts := by
  obtain ⟨labelRead, restRead⟩ := takeLabel_labelTokens label fun _ => bare.1.annotations annotations
  exact ⟨labelRead, by rw [restRead, R.skipAnnotations?_annotations annotations bare.2]⟩

theorem node?_block {kw : String} (scope : kw = "block" ∨ kw = "loop") (label : Option String)
    (annotations : List Annotation) {ts : List String} (bare : Unlabelled ts ∧ Unannotated ts) :
    R.node? (kw :: (labelTokens label ++ (annotationTokens annotations ++ ts))) =
      (R.flatBody? ts).bind fun (body, t, r) =>
        if t = .elseKeyword then none
        else some (if kw = "block" then .block label body else .loop label body, r) := by
  have word := (keyword_of_scope scope).word
  obtain ⟨labelRead, skipped⟩ := R.takeLabel_skipAnnotations label annotations bare
  rw [R.node?_word _ word.1 word.2, R.flat?_block _ scope, skipped, labelRead, Option.bind_some]

theorem node?_flatIf (label : Option String) (annotations : List Annotation) {ts : List String}
    (bare : Unlabelled ts ∧ Unannotated ts) :
    R.node? ("if" :: (labelTokens label ++ (annotationTokens annotations ++ ts))) =
      (R.flatBody? ts).bind fun (thenBody, t, r) =>
        if t = .elseKeyword then
          (R.flatBody? r).bind fun (elseBody, t', r') =>
            if t' = .elseKeyword then none else some (.ite label [] thenBody (some elseBody), r')
        else some (.ite label [] thenBody none, r) := by
  obtain ⟨labelRead, skipped⟩ := R.takeLabel_skipAnnotations label annotations bare
  rw [R.node?_word _ (by decide) (by decide), R.flat?_if, skipped, labelRead, Option.bind_some]

theorem node?_foldedBlock {kw : String} (scope : kw = "block" ∨ kw = "loop")
    (label : Option String) (annotations : List Annotation) {ts : List String}
    (bare : Unlabelled ts ∧ Unannotated ts) :
    R.node? ("(" :: kw :: (labelTokens label ++ (annotationTokens annotations ++ ts))) =
      (R.children? ts).map fun (body, r) =>
        (if kw = "block" then .block label body else .loop label body, r) := by
  obtain ⟨labelRead, skipped⟩ := R.takeLabel_skipAnnotations label annotations bare
  rw [R.node?_open, R.folded?_block _ scope, skipped, labelRead, Option.bind_some]

theorem node?_foldedIf (label : Option String) (annotations : List Annotation) {ts : List String}
    (bare : Unlabelled ts ∧ Unannotated ts) :
    R.node? ("(" :: "if" :: (labelTokens label ++ (annotationTokens annotations ++ ts))) =
      (R.ifArms? (R.pos (labelTokens label ++ (annotationTokens annotations ++ ts))) ts [] none
        none).map fun ((cond, thenBody, elseBody), r) =>
          (.ite label cond thenBody elseBody, r) := by
  obtain ⟨labelRead, skipped⟩ := R.takeLabel_skipAnnotations label annotations bare
  rw [R.node?_open, R.folded?_if, skipped, labelRead, Option.bind_some]

variable {R}

/-- A flat block whose body reads flat reads as the block. -/
theorem ReadsFlat.block {kw : String} (scope : kw = "block" ∨ kw = "loop") (label : Option String)
    (annotations : List Annotation) (endLabel : Option String) {body : List String}
    {ns : List Instr} (leads : Leads body) (reads : R.ReadsFlat body ns) :
    R.ReadsFlat
      (kw :: (labelTokens label ++ (annotationTokens annotations ++
        (body ++ "end" :: labelTokens endLabel))))
      [if kw = "block" then .block label ns else .loop label ns] := by
  refine ReadsFlat.single ⟨kw, _, keyword_of_scope scope, .inl rfl⟩ fun rest follows => ?_
  simp only [List.append_assoc, List.cons_append]
  rw [R.node?_block scope label annotations (leads.before _ (by decide)),
    reads.flatBody? rfl (.inl rfl) endLabel follows.unlabelled, Option.bind_some]
  rfl

/-- A flat `if` whose arm reads flat reads as the `if`. -/
theorem ReadsFlat.ite (label : Option String) (annotations : List Annotation)
    (endLabel : Option String) {body : List String} {ns : List Instr} (leads : Leads body)
    (reads : R.ReadsFlat body ns) :
    R.ReadsFlat
      ("if" :: (labelTokens label ++ (annotationTokens annotations ++
        (body ++ "end" :: labelTokens endLabel))))
      [.ite label [] ns none] := by
  refine ReadsFlat.single ⟨"if", _, keyword_if, .inl rfl⟩ fun rest follows => ?_
  simp only [List.append_assoc, List.cons_append]
  rw [R.node?_flatIf label annotations (leads.before _ (by decide)),
    reads.flatBody? rfl (.inl rfl) endLabel follows.unlabelled, Option.bind_some]
  rfl

/-- A flat `if` whose two arms read flat reads as the `if`. -/
theorem ReadsFlat.iteElse (label : Option String) (annotations : List Annotation)
    (elseLabel endLabel : Option String) {thenBody elseBody : List String}
    {ns ms : List Instr} (leads : Leads thenBody) (leadsElse : Leads elseBody)
    (reads : R.ReadsFlat thenBody ns) (readsElse : R.ReadsFlat elseBody ms) :
    R.ReadsFlat
      ("if" :: (labelTokens label ++ (annotationTokens annotations ++ (thenBody ++
        "else" :: (labelTokens elseLabel ++ (elseBody ++ "end" :: labelTokens endLabel))))))
      [.ite label [] ns (some ms)] := by
  refine ReadsFlat.single ⟨"if", _, keyword_if, .inl rfl⟩ fun rest follows => ?_
  simp only [List.append_assoc, List.cons_append]
  rw [R.node?_flatIf label annotations (leads.before _ (by decide)),
    reads.flatBody? rfl (.inr rfl) elseLabel (leadsElse.unlabelled (unlabelled_cons _ (by decide))),
    Option.bind_some]
  dsimp only
  rw [if_pos rfl, readsElse.flatBody? rfl (.inl rfl) endLabel follows.unlabelled, Option.bind_some]
  rfl

end BodyReader

/-- Text that opens with a parenthesis and the name of an instruction. -/
def OpensFolded (text : List String) : Prop :=
  ∃ kw tail, Keyword kw ∧ text = "(" :: kw :: tail

theorem OpensFolded.opens {text : List String} (head : OpensFolded text) : Opens text := by
  obtain ⟨kw, tail, keyword, rfl⟩ := head
  exact ⟨kw, tail, keyword, .inr rfl⟩

theorem Leads.opens_append {a b : List String} (leads : Leads a) (opens : Opens b) :
    Opens (a ++ b) := by
  rcases leads with rfl | opensA
  · exact opens
  · exact opensA.append b

theorem Keyword.not_arm {kw : String} (keyword : Keyword kw) : kw ≠ "then" ∧ kw ≠ "else" :=
  ⟨fun same => keyword.1 (by simp [same, reservedTokens]),
    fun same => keyword.1 (by simp [same, reservedTokens])⟩

theorem unannotated_arm {kw : String} (rest : List String) (arm : kw = "then" ∨ kw = "else") :
    Unannotated ("(" :: kw :: rest) := by
  rintro k tail same annotating
  obtain ⟨rfl, -⟩ := List.cons.inj (List.cons.inj same).2
  rcases arm with rfl | rfl <;> simp at annotating

section Reading

open BodyReader

variable (R R' : BodyReader)

/-- The text reads in `R` as one instruction through its last token, when what follows it
satisfies `after`, and `flat` reads in `R'` as the flat form of that instruction. -/
def NodeReading (after : List String → Prop) (text flat : List String) : Prop :=
  ∀ rest i r, after rest → R.node? (text ++ rest) = some (i, r) →
    r = rest ∧ R'.ReadsFlat flat i.flatten

/-- The text reads in `R` as instructions up to the terminator after it, and `flat` reads in
`R'` as their flat form. -/
def SeqReading (text flat : List String) : Prop :=
  ∀ rest t ns t' r, terminator? rest = some t → R.instrs? (text ++ rest) = some (ns, t', r) →
    t' = t ∧ r = rest ∧ R'.ReadsFlat flat (Instr.flattenList ns)

/-- Folded operands read in `R` among the arguments of a table branch, and `flat` reads in `R'`
as their flat form. -/
def TableReading (text flat : List String) : Prop :=
  ∀ rest ops targets res, R.tableArgs? (text ++ rest) ops targets = some res →
    ∃ ns, R.tableArgs? rest (ops ++ ns) targets = some res ∧
      R'.ReadsFlat flat (Instr.flattenList ns)

/-- Folded operands read in `R` as the condition of a folded `if`, and `flat` reads in `R'` as
their flat form. -/
def CondReading (text flat : List String) : Prop :=
  ∀ start rest cond elseBody res, R.ifArms? start (text ++ rest) cond none elseBody = some res →
    ∃ ns, R.ifArms? start rest (cond ++ ns) none elseBody = some res ∧
      R'.ReadsFlat flat (Instr.flattenList ns)

/-- What text of each kind reads as, in `R`, and what its unfolding reads as, in `R'`. -/
def Reading : TextKind → List String → List String → Prop
  | .instr, text, flat => Opens text ∧ Opens flat ∧ NodeReading R R' Follows text flat
  | .folded, text, flat =>
    OpensFolded text ∧ Opens flat ∧ NodeReading R R' (fun _ => True) text flat
  | .seq, text, flat => Leads text ∧ Leads flat ∧ SeqReading R R' text flat
  | .foldedSeq, text, flat => Leads text ∧ Leads flat ∧ SeqReading R R' text flat ∧
      TableReading R R' text flat ∧ CondReading R R' text flat

variable {R R'}

/-- A body is read through the closing parenthesis after it. -/
theorem SeqReading.children? {body body' rest r : List String} {ns : List Instr}
    (reading : SeqReading R R' body body')
    (reads : R.children? (body ++ ")" :: rest) = some (ns, r)) :
    r = rest ∧ R'.ReadsFlat body' (Instr.flattenList ns) := by
  rw [R.children?_eq] at reads
  obtain ⟨⟨ns₀, t, r₀⟩, found, closed⟩ := Option.bind_eq_some_iff.1 reads
  obtain ⟨rfl, rfl, flat⟩ := reading _ _ _ _ _ rfl found
  simp only [Option.some.injEq, Prod.mk.injEq] at closed
  obtain ⟨rfl, rfl⟩ := closed
  exact ⟨rfl, flat⟩

/-- A body is read through the `end` or `else` after it and the label that follows. -/
theorem SeqReading.flatBody? {body body' rest r : List String} {ns : List Instr} {tok : String}
    {t t' : Terminator} (reading : SeqReading R R' body body') (stops : terminator? [tok] = some t)
    (ending : t = .endKeyword ∨ t = .elseKeyword) (label : Option String)
    (unlabelled : Unlabelled rest)
    (reads : R.flatBody? (body ++ tok :: (labelTokens label ++ rest)) = some (ns, t', r)) :
    t' = t ∧ r = rest ∧ R'.ReadsFlat body' (Instr.flattenList ns) := by
  have stops' : terminator? (tok :: (labelTokens label ++ rest)) = some t := by
    unfold terminator? at stops ⊢
    split at stops <;> simp_all
  rw [R.flatBody?_eq] at reads
  obtain ⟨⟨ns₀, t₀, r₀⟩, found, read⟩ := Option.bind_eq_some_iff.1 reads
  obtain ⟨rfl, rfl, flat⟩ := reading _ _ _ _ _ stops' found
  rcases ending with rfl | rfl <;>
    simp only [Option.some.injEq, Prod.mk.injEq,
      (takeLabel_labelTokens label fun _ => unlabelled).2] at read <;>
    obtain ⟨rfl, rfl, rfl⟩ := read <;>
    exact ⟨rfl, rfl, flat⟩

theorem SeqReading.nil : SeqReading R R' [] [] := by
  intro rest t ns t' r stops reads
  rw [List.nil_append, R.instrs?_stop stops] at reads
  simp only [Option.some.injEq, Prod.mk.injEq] at reads
  obtain ⟨rfl, rfl, rfl⟩ := reads
  exact ⟨rfl, rfl, ReadsFlat.nil⟩

/-- An instruction followed by a body reads as the instruction and then the body. -/
theorem SeqReading.cons {text flat rest rest' : List String} (opens : Opens text)
    (node : NodeReading R R' Follows text flat) (leads : Leads rest) (leads' : Leads rest')
    (tail : SeqReading R R' rest rest') : SeqReading R R' (text ++ rest) (flat ++ rest') := by
  intro after t ns t' r stops reads
  rw [List.append_assoc, R.instrs?_step (opens.append _).terminator] at reads
  obtain ⟨⟨n, r₀⟩, found, more⟩ := Option.bind_eq_some_iff.1 reads
  obtain ⟨rfl, flatN⟩ := node _ n r₀ (leads.follows (Follows.of_terminator stops)) found
  obtain ⟨⟨ns', t₀, r₁⟩, found', built⟩ := Option.map_eq_some_iff.1 more
  obtain ⟨rfl, rfl, flatRest⟩ := tail after t ns' t₀ r₁ stops found'
  simp only [Prod.mk.injEq] at built
  obtain ⟨rfl, rfl, rfl⟩ := built
  exact ⟨rfl, rfl, flatN.append flatRest leads'⟩

theorem TableReading.nil : TableReading R R' [] [] :=
  fun _ _ _ _ found => ⟨[], by simpa using found, ReadsFlat.nil⟩

/-- A folded operand among the arguments of a table branch is read as an operand. -/
theorem TableReading.cons {text flat rest rest' : List String} (head : OpensFolded text)
    (node : NodeReading R R' (fun _ => True) text flat) (leads' : Leads rest')
    (tail : TableReading R R' rest rest') : TableReading R R' (text ++ rest) (flat ++ rest') := by
  obtain ⟨kw, body, keyword, rfl⟩ := head
  intro after ops targets res found
  rw [List.append_assoc, List.cons_append, R.tableArgs?_open, ← R.node?_open] at found
  obtain ⟨⟨n, r₀⟩, found', more⟩ := Option.bind_eq_some_iff.1 found
  obtain ⟨rfl, flatN⟩ := node _ n r₀ trivial found'
  obtain ⟨ns, closed, flatRest⟩ := tail after (ops ++ [n]) targets res more
  exact ⟨n :: ns, by simpa using closed, flatN.append flatRest leads'⟩

/-- A folded operand in a folded `if` before its arms is read as a condition operand. -/
theorem NodeReading.ifArms? {text flat rest : List String} {start : Nat}
    {cond : List Instr} {elseBody : Option (List Instr)}
    {res : (List Instr × List Instr × Option (List Instr)) × List String}
    (head : OpensFolded text)
    (node : NodeReading R R' (fun _ => True) text flat)
    (found : R.ifArms? start (text ++ rest) cond none elseBody = some res) :
    ∃ n, R.ifArms? start rest (cond ++ [n]) none elseBody = some res ∧
      R'.ReadsFlat flat n.flatten := by
  obtain ⟨kw, body, keyword, rfl⟩ := head
  have notArm := keyword.not_arm
  rw [List.cons_append, R.ifArms?_operand start _ cond elseBody (by decide)
    fun _ => ⟨by simpa using notArm.1, by simpa using notArm.2⟩] at found
  obtain ⟨⟨n, r₀⟩, found', more⟩ := Option.bind_eq_some_iff.1 found
  obtain ⟨rfl, flatN⟩ := node _ n r₀ trivial found'
  exact ⟨n, more, flatN⟩

theorem CondReading.nil : CondReading R R' [] [] :=
  fun _ _ _ _ _ found => ⟨[], by simpa using found, ReadsFlat.nil⟩

theorem CondReading.cons {text flat rest rest' : List String} (head : OpensFolded text)
    (node : NodeReading R R' (fun _ => True) text flat) (leads' : Leads rest')
    (tail : CondReading R R' rest rest') : CondReading R R' (text ++ rest) (flat ++ rest') := by
  intro start after cond elseBody res found
  rw [List.append_assoc] at found
  obtain ⟨n, more, flatN⟩ := node.ifArms? head found
  obtain ⟨ns, arms, flatRest⟩ := tail start after (cond ++ [n]) elseBody res more
  exact ⟨n :: ns, by simpa using arms, flatN.append flatRest leads'⟩

theorem flatten_scope (kw : String) (label : Option String) (body : List Instr) :
    (if kw = "block" then Instr.block label body else .loop label body).flatten =
      [if kw = "block" then .block label (Instr.flattenList body)
        else .loop label (Instr.flattenList body)] := by
  split <;> rfl

theorem Reading.plain (same : R.locals = R'.locals) (p : Plain) :
    Reading R R' .instr p.tokens p.tokens := by
  refine ⟨p.opens, p.opens, fun rest i r follows reads => ?_⟩
  rw [R.node?_plain p follows] at reads
  obtain ⟨i₀, read, built⟩ := Option.map_eq_some_iff.1 reads
  simp only [Prod.mk.injEq] at built
  obtain ⟨rfl, rfl⟩ := built
  rw [same] at read
  refine ⟨rfl, ?_⟩
  rw [Plain.flatten_read read]
  exact ReadsFlat.single p.opens fun rest' follows' => by rw [R'.node?_plain p follows', read]; rfl

theorem Reading.block {body body' : List String} (kw : String)
    (scope : kw = "block" ∨ kw = "loop") (label : Option String) (annotations : List Annotation)
    (endLabel : Option String)
    (inner : Reading R R' .seq body body') :
    Reading R R' .instr
      (kw :: labelTokens label ++ annotationTokens annotations ++ body ++
        "end" :: labelTokens endLabel)
      (kw :: labelTokens label ++ annotationTokens annotations ++ body' ++
        "end" :: labelTokens endLabel) := by
  obtain ⟨leads, leads', reading⟩ := inner
  have keyword := keyword_of_scope scope
  rw [Reading]
  simp only [List.append_assoc, List.cons_append]
  refine ⟨⟨kw, _, keyword, .inl rfl⟩, ⟨kw, _, keyword, .inl rfl⟩,
    fun rest i r follows reads => ?_⟩
  simp only [List.append_assoc, List.cons_append] at reads
  rw [R.node?_block scope label annotations (leads.before _ (by decide))] at reads
  obtain ⟨⟨ns, t, r'⟩, found, built⟩ := Option.bind_eq_some_iff.1 reads
  obtain ⟨rfl, rfl, flat⟩ := reading.flatBody? rfl (.inl rfl) endLabel follows.unlabelled found
  simp only [reduceCtorEq, ↓reduceIte, Option.some.injEq, Prod.mk.injEq] at built
  obtain ⟨rfl, rfl⟩ := built
  refine ⟨rfl, ?_⟩
  rw [flatten_scope]
  exact ReadsFlat.block scope label annotations endLabel leads' flat

theorem Reading.ite {thenBody thenBody' : List String} (label : Option String)
    (annotations : List Annotation) (endLabel : Option String)
    (inner : Reading R R' .seq thenBody thenBody') :
    Reading R R' .instr
      ("if" :: labelTokens label ++ annotationTokens annotations ++ thenBody ++
        "end" :: labelTokens endLabel)
      ("if" :: labelTokens label ++ annotationTokens annotations ++ thenBody' ++
        "end" :: labelTokens endLabel) := by
  obtain ⟨leads, leads', reading⟩ := inner
  rw [Reading]
  simp only [List.append_assoc, List.cons_append]
  refine ⟨⟨"if", _, keyword_if, .inl rfl⟩, ⟨"if", _, keyword_if, .inl rfl⟩,
    fun rest i r follows reads => ?_⟩
  simp only [List.append_assoc, List.cons_append] at reads
  rw [R.node?_flatIf label annotations (leads.before _ (by decide))] at reads
  obtain ⟨⟨ns, t, r'⟩, found, built⟩ := Option.bind_eq_some_iff.1 reads
  obtain ⟨rfl, rfl, flat⟩ := reading.flatBody? rfl (.inl rfl) endLabel follows.unlabelled found
  simp only [reduceCtorEq, ↓reduceIte, Option.some.injEq, Prod.mk.injEq] at built
  obtain ⟨rfl, rfl⟩ := built
  exact ⟨rfl, ReadsFlat.ite label annotations endLabel leads' flat⟩

theorem Reading.iteElse {thenBody thenBody' elseBody elseBody' : List String}
    (label : Option String) (annotations : List Annotation) (elseLabel endLabel : Option String)
    (inner : Reading R R' .seq thenBody thenBody')
    (innerElse : Reading R R' .seq elseBody elseBody') :
    Reading R R' .instr
      ("if" :: labelTokens label ++ annotationTokens annotations ++ thenBody ++
        "else" :: labelTokens elseLabel ++ elseBody ++ "end" :: labelTokens endLabel)
      ("if" :: labelTokens label ++ annotationTokens annotations ++ thenBody' ++
        "else" :: labelTokens elseLabel ++ elseBody' ++ "end" :: labelTokens endLabel) := by
  obtain ⟨leads, leads', reading⟩ := inner
  obtain ⟨leadsElse, leadsElse', readingElse⟩ := innerElse
  rw [Reading]
  simp only [List.append_assoc, List.cons_append]
  refine ⟨⟨"if", _, keyword_if, .inl rfl⟩, ⟨"if", _, keyword_if, .inl rfl⟩,
    fun rest i r follows reads => ?_⟩
  simp only [List.append_assoc, List.cons_append] at reads
  rw [R.node?_flatIf label annotations (leads.before _ (by decide))] at reads
  obtain ⟨⟨ns, t, r'⟩, found, built⟩ := Option.bind_eq_some_iff.1 reads
  obtain ⟨rfl, rfl, flat⟩ := reading.flatBody? rfl (.inr rfl) elseLabel
    (leadsElse.unlabelled (unlabelled_cons _ (by decide))) found
  dsimp only at built
  rw [if_pos rfl] at built
  obtain ⟨⟨ms, t', r''⟩, found', built'⟩ := Option.bind_eq_some_iff.1 built
  obtain ⟨rfl, rfl, flatElse⟩ :=
    readingElse.flatBody? rfl (.inl rfl) endLabel follows.unlabelled found'
  simp only [reduceCtorEq, ↓reduceIte, Option.some.injEq, Prod.mk.injEq] at built'
  obtain ⟨rfl, rfl⟩ := built'
  exact ⟨rfl,
    ReadsFlat.iteElse label annotations elseLabel endLabel leads' leadsElse' flat flatElse⟩

theorem Reading.folded {text flat : List String} (inner : Reading R R' .folded text flat) :
    Reading R R' .instr text flat := by
  obtain ⟨head, opens, node⟩ := inner
  exact ⟨head.opens, opens, fun rest i r _ reads => node rest i r trivial reads⟩

/-- A plain instruction written folded reads as the instruction with its operands put in: a
table branch takes them after its targets, any other after its immediates. -/
theorem Reading.folded?_plain (same : R.locals = R'.locals) (p : Plain)
    {operands operands' rest r : List String} {i : Instr}
    (inner : Reading R R' .foldedSeq operands operands')
    (reads : R.folded? (p.tokens ++ (operands ++ ")" :: rest)) = some (i, r)) :
    ∃ i₀ ns, p.read R'.locals = some i₀ ∧ r = rest ∧
      R'.ReadsFlat operands' (Instr.flattenList ns) ∧
      i.flatten = Instr.flattenList ns ++ [i₀] := by
  obtain ⟨leads, -, seq, table, -⟩ := inner
  by_cases tabled : ∃ targets d, p = .brTable targets d
  · obtain ⟨targets, d, rfl⟩ := tabled
    have tokens : (Plain.brTable targets d).tokens ++ (operands ++ ")" :: rest) =
        "br_table" :: ((targets ++ [d]).map Subtype.val ++ (operands ++ ")" :: rest)) := by
      simp [Plain.tokens, Plain.keyword, Plain.immediates]
    rw [tokens, R.folded?_table, R.tableArgs?_labels] at reads
    obtain ⟨⟨⟨ops, found⟩, r'⟩, args, built⟩ := Option.bind_eq_some_iff.1 reads
    obtain ⟨ns, closed, flat⟩ := table _ _ _ _ args
    rw [R.tableArgs?_close] at closed
    simp only [Option.some.injEq, Prod.mk.injEq, List.nil_append] at closed
    obtain ⟨⟨rfl, rfl⟩, rfl⟩ := closed
    rcases ns with _ | ⟨n, ns⟩
    · simp at built
    · simp [List.reverse_append] at built
      obtain ⟨rfl, rfl⟩ := built
      exact ⟨_, n :: ns, rfl, rfl, flat, by simp [Instr.flatten]⟩
  · obtain ⟨i₀, ns, read, children, flattened⟩ := R.folded?_plain p
      (fun targets d table => tabled ⟨targets, d, table⟩)
      (leads.unannotated (unannotated_cons _ (by decide))) reads
    obtain ⟨rfl, flat⟩ := seq.children? children
    exact ⟨i₀, ns, same ▸ read, rfl, flat, flattened⟩

theorem Reading.foldedPlain (same : R.locals = R'.locals) (p : Plain)
    {operands operands' : List String} (inner : Reading R R' .foldedSeq operands operands') :
    Reading R R' .folded ("(" :: p.tokens ++ operands ++ [")"]) (operands' ++ p.tokens) := by
  have leads' : Leads operands' := inner.2.1
  refine ⟨⟨p.keyword, _, p.keyword_keyword, rfl⟩, leads'.opens_append p.opens,
    fun rest i r _ reads => ?_⟩
  simp only [List.append_assoc, List.cons_append, List.nil_append] at reads
  rw [R.node?_open] at reads
  obtain ⟨i₀, ns, read, rfl, flat, flattened⟩ := Reading.folded?_plain same p inner reads
  refine ⟨rfl, ?_⟩
  rw [flattened]
  exact flat.append (ReadsFlat.single p.opens fun rest' follows' => by
    rw [R'.node?_plain p follows', read]; rfl) (.inr p.opens)

theorem Reading.foldedBlock {body body' : List String} (kw : String)
    (scope : kw = "block" ∨ kw = "loop") (label : Option String) (annotations : List Annotation)
    (inner : Reading R R' .seq body body') :
    Reading R R' .folded
      ("(" :: kw :: labelTokens label ++ annotationTokens annotations ++ body ++ [")"])
      (kw :: labelTokens label ++ annotationTokens annotations ++ body' ++ ["end"]) := by
  obtain ⟨leads, leads', reading⟩ := inner
  have keyword := keyword_of_scope scope
  rw [Reading]
  simp only [List.append_assoc, List.cons_append]
  refine ⟨⟨kw, _, keyword, rfl⟩, ⟨kw, _, keyword, .inl rfl⟩, fun rest i r _ reads => ?_⟩
  simp only [List.append_assoc, List.cons_append, List.nil_append] at reads
  rw [R.node?_foldedBlock scope label annotations (leads.before _ (by decide))] at reads
  obtain ⟨⟨ns, r'⟩, found, built⟩ := Option.map_eq_some_iff.1 reads
  obtain ⟨rfl, flat⟩ := reading.children? found
  simp only [Prod.mk.injEq] at built
  obtain ⟨rfl, rfl⟩ := built
  refine ⟨rfl, ?_⟩
  rw [flatten_scope]
  exact ReadsFlat.block scope label annotations none leads' flat

theorem Reading.foldedIf {cond cond' thenBody thenBody' : List String} (label : Option String)
    (annotations : List Annotation) (condition : Reading R R' .foldedSeq cond cond')
    (arm : Reading R R' .seq thenBody thenBody') :
    Reading R R' .folded
      ("(" :: "if" :: labelTokens label ++ annotationTokens annotations ++ cond ++
        "(" :: "then" :: thenBody ++ [")", ")"])
      (cond' ++ "if" :: labelTokens label ++ annotationTokens annotations ++ thenBody' ++
        ["end"]) := by
  obtain ⟨leads, leads', -, -, condReading⟩ := condition
  obtain ⟨leadsThen, leadsThen', reading⟩ := arm
  rw [Reading]
  simp only [List.append_assoc, List.cons_append]
  refine ⟨⟨"if", _, keyword_if, rfl⟩, leads'.opens_append ⟨"if", _, keyword_if, .inl rfl⟩,
    fun rest i r _ reads => ?_⟩
  simp only [List.append_assoc, List.cons_append, List.nil_append] at reads
  rw [R.node?_foldedIf label annotations ⟨leads.unlabelled (unlabelled_cons _ (by decide)),
    leads.unannotated (unannotated_arm _ (.inl rfl))⟩] at reads
  obtain ⟨⟨⟨c, t, e⟩, r'⟩, found, built⟩ := Option.map_eq_some_iff.1 reads
  obtain ⟨ns, arms, flatCond⟩ := condReading _ _ _ _ _ found
  rw [R.ifArms?_then] at arms
  obtain ⟨⟨body, r₀⟩, children, arms⟩ := Option.bind_eq_some_iff.1 arms
  obtain ⟨rfl, flatThen⟩ := reading.children? children
  dsimp only at arms
  rw [R.ifArms?_close_then] at arms
  simp only [Option.some.injEq, Prod.mk.injEq, List.nil_append] at arms built
  obtain ⟨⟨rfl, rfl, rfl⟩, rfl⟩ := arms
  obtain ⟨rfl, rfl⟩ := built
  exact ⟨rfl, flatCond.append (ReadsFlat.ite label annotations none leadsThen' flatThen)
    (.inr ⟨"if", _, keyword_if, .inl rfl⟩)⟩

theorem Reading.foldedIfElse {cond cond' thenBody thenBody' elseBody elseBody' : List String}
    (label : Option String) (annotations : List Annotation)
    (condition : Reading R R' .foldedSeq cond cond') (arm : Reading R R' .seq thenBody thenBody')
    (armElse : Reading R R' .seq elseBody elseBody') :
    Reading R R' .folded
      ("(" :: "if" :: labelTokens label ++ annotationTokens annotations ++ cond ++
        "(" :: "then" :: thenBody ++ ")" :: "(" :: "else" :: elseBody ++ [")", ")"])
      (cond' ++ "if" :: labelTokens label ++ annotationTokens annotations ++ thenBody' ++
        "else" :: elseBody' ++ ["end"]) := by
  obtain ⟨leads, leads', -, -, condReading⟩ := condition
  obtain ⟨leadsThen, leadsThen', reading⟩ := arm
  obtain ⟨leadsElse, leadsElse', readingElse⟩ := armElse
  rw [Reading]
  simp only [List.append_assoc, List.cons_append]
  refine ⟨⟨"if", _, keyword_if, rfl⟩, leads'.opens_append ⟨"if", _, keyword_if, .inl rfl⟩,
    fun rest i r _ reads => ?_⟩
  simp only [List.append_assoc, List.cons_append, List.nil_append] at reads
  rw [R.node?_foldedIf label annotations ⟨leads.unlabelled (unlabelled_cons _ (by decide)),
    leads.unannotated (unannotated_arm _ (.inl rfl))⟩] at reads
  obtain ⟨⟨⟨c, t, e⟩, r'⟩, found, built⟩ := Option.map_eq_some_iff.1 reads
  obtain ⟨ns, arms, flatCond⟩ := condReading _ _ _ _ _ found
  rw [R.ifArms?_then] at arms
  obtain ⟨⟨body, r₀⟩, children, arms⟩ := Option.bind_eq_some_iff.1 arms
  obtain ⟨rfl, flatThen⟩ := reading.children? children
  dsimp only at arms
  rw [R.ifArms?_else] at arms
  obtain ⟨⟨bodyElse, r₁⟩, childrenElse, arms⟩ := Option.bind_eq_some_iff.1 arms
  obtain ⟨rfl, flatElse⟩ := readingElse.children? childrenElse
  dsimp only at arms
  rw [R.ifArms?_close_then] at arms
  simp only [Option.some.injEq, Prod.mk.injEq, List.nil_append] at arms built
  obtain ⟨⟨rfl, rfl, rfl⟩, rfl⟩ := arms
  obtain ⟨rfl, rfl⟩ := built
  exact ⟨rfl, flatCond.append
    (ReadsFlat.iteElse label annotations none none leadsThen' leadsElse' flatThen flatElse)
    (.inr ⟨"if", _, keyword_if, .inl rfl⟩)⟩

theorem Reading.foldedIfShort {cond cond' thenArm thenArm' : List String} (label : Option String)
    (annotations : List Annotation) (condition : Reading R R' .folded cond cond')
    (arm : Reading R R' .folded thenArm thenArm') :
    Reading R R' .folded
      ("(" :: "if" :: labelTokens label ++ annotationTokens annotations ++ cond ++ thenArm ++ [")"])
      (cond' ++ "if" :: labelTokens label ++ annotationTokens annotations ++ thenArm' ++
        ["end"]) := by
  obtain ⟨head, opens, node⟩ := condition
  obtain ⟨headThen, opensThen, nodeThen⟩ := arm
  rw [Reading]
  simp only [List.append_assoc, List.cons_append]
  refine ⟨⟨"if", _, keyword_if, rfl⟩, opens.append _, fun rest i r _ reads => ?_⟩
  simp only [List.append_assoc, List.cons_append, List.nil_append] at reads
  have follows := (head.opens.append (thenArm ++ ")" :: rest)).follows
  rw [R.node?_foldedIf label annotations ⟨follows.unlabelled, follows.unannotated⟩] at reads
  obtain ⟨⟨⟨c, t, e⟩, r'⟩, found, built⟩ := Option.map_eq_some_iff.1 reads
  obtain ⟨n, arms, flatCond⟩ := node.ifArms? head found
  obtain ⟨n', arms, flatThen⟩ := nodeThen.ifArms? headThen arms
  rw [List.nil_append, List.singleton_append, R.ifArms?_close_two] at arms
  simp only [Option.some.injEq, Prod.mk.injEq] at arms built
  obtain ⟨⟨rfl, rfl, rfl⟩, rfl⟩ := arms
  obtain ⟨rfl, rfl⟩ := built
  have flattened : (Instr.ite label [n] [n'] none).flatten =
      n.flatten ++ [.ite label [] n'.flatten none] := by
    simp [Instr.flatten]
  rw [flattened]
  exact ⟨rfl, flatCond.append (ReadsFlat.ite label annotations none (.inr opensThen) flatThen)
    (.inr ⟨"if", _, keyword_if, .inl rfl⟩)⟩

theorem Reading.foldedIfShortElse {cond cond' thenArm thenArm' elseArm elseArm' : List String}
    (label : Option String) (annotations : List Annotation)
    (condition : Reading R R' .folded cond cond') (arm : Reading R R' .folded thenArm thenArm')
    (armElse : Reading R R' .folded elseArm elseArm') :
    Reading R R' .folded
      ("(" :: "if" :: labelTokens label ++ annotationTokens annotations ++ cond ++ thenArm ++
        elseArm ++ [")"])
      (cond' ++ "if" :: labelTokens label ++ annotationTokens annotations ++ thenArm' ++
        "else" :: elseArm' ++ ["end"]) := by
  obtain ⟨head, opens, node⟩ := condition
  obtain ⟨headThen, opensThen, nodeThen⟩ := arm
  obtain ⟨headElse, opensElse, nodeElse⟩ := armElse
  rw [Reading]
  simp only [List.append_assoc, List.cons_append]
  refine ⟨⟨"if", _, keyword_if, rfl⟩, opens.append _, fun rest i r _ reads => ?_⟩
  simp only [List.append_assoc, List.cons_append, List.nil_append] at reads
  have follows := (head.opens.append (thenArm ++ (elseArm ++ ")" :: rest))).follows
  rw [R.node?_foldedIf label annotations ⟨follows.unlabelled, follows.unannotated⟩] at reads
  obtain ⟨⟨⟨c, t, e⟩, r'⟩, found, built⟩ := Option.map_eq_some_iff.1 reads
  obtain ⟨n, arms, flatCond⟩ := node.ifArms? head found
  obtain ⟨n', arms, flatThen⟩ := nodeThen.ifArms? headThen arms
  obtain ⟨n'', arms, flatElse⟩ := nodeElse.ifArms? headElse arms
  rw [List.nil_append, List.singleton_append, List.cons_append, List.singleton_append,
    R.ifArms?_close_three] at arms
  simp only [Option.some.injEq, Prod.mk.injEq] at arms built
  obtain ⟨⟨rfl, rfl, rfl⟩, rfl⟩ := arms
  obtain ⟨rfl, rfl⟩ := built
  have flattened : (Instr.ite label [n] [n'] (some [n''])).flatten =
      n.flatten ++ [.ite label [] n'.flatten (some n''.flatten)] := by
    simp [Instr.flatten]
  rw [flattened]
  exact ⟨rfl, flatCond.append
    (ReadsFlat.iteElse label annotations none none (.inr opensThen) (.inr opensElse) flatThen
      flatElse)
    (.inr ⟨"if", _, keyword_if, .inl rfl⟩)⟩

theorem Reading.nil : Reading R R' .seq [] [] :=
  ⟨.inl rfl, .inl rfl, SeqReading.nil⟩

theorem Reading.cons {text flat rest rest' : List String} (head : Reading R R' .instr text flat)
    (tail : Reading R R' .seq rest rest') : Reading R R' .seq (text ++ rest) (flat ++ rest') := by
  obtain ⟨opens, opens', node⟩ := head
  obtain ⟨leads, leads', reading⟩ := tail
  exact ⟨.inr (opens.append rest), .inr (opens'.append rest'),
    SeqReading.cons opens node leads leads' reading⟩

theorem Reading.foldedNil : Reading R R' .foldedSeq [] [] :=
  ⟨.inl rfl, .inl rfl, SeqReading.nil, TableReading.nil, CondReading.nil⟩

theorem Reading.foldedCons {text flat rest rest' : List String}
    (head : Reading R R' .folded text flat) (tail : Reading R R' .foldedSeq rest rest') :
    Reading R R' .foldedSeq (text ++ rest) (flat ++ rest') := by
  obtain ⟨opensFolded, opens', node⟩ := head
  obtain ⟨leads, leads', seq, table, cond⟩ := tail
  exact ⟨.inr (opensFolded.opens.append rest), .inr (opens'.append rest'),
    SeqReading.cons opensFolded.opens (fun after i r _ reads => node after i r trivial reads)
      leads leads' seq,
    TableReading.cons opensFolded node leads' table,
    CondReading.cons opensFolded node leads' cond⟩

/-- Text that unfolds reads as its kind says, in any two readers over one table of locals. -/
theorem Unfolds.reading (same : R.locals = R'.locals) {k : TextKind} {text flat : List String}
    (unfolds : Unfolds k text flat) : Reading R R' k text flat := by
  induction unfolds with
  | plain p => exact Reading.plain same p
  | block kw scope label annotations endLabel _ ih =>
    exact Reading.block kw scope label annotations endLabel ih
  | ite label annotations endLabel _ ih => exact Reading.ite label annotations endLabel ih
  | iteElse label annotations elseLabel endLabel _ _ ih ih' =>
    exact Reading.iteElse label annotations elseLabel endLabel ih ih'
  | folded _ ih => exact ih.folded
  | foldedPlain p _ ih => exact Reading.foldedPlain same p ih
  | foldedBlock kw scope label annotations _ ih =>
    exact Reading.foldedBlock kw scope label annotations ih
  | foldedIf label annotations _ _ ih ih' => exact Reading.foldedIf label annotations ih ih'
  | foldedIfElse label annotations _ _ _ ih ih' ih'' =>
    exact Reading.foldedIfElse label annotations ih ih' ih''
  | foldedIfShort label annotations _ _ ih ih' =>
    exact Reading.foldedIfShort label annotations ih ih'
  | foldedIfShortElse label annotations _ _ _ ih ih' ih'' =>
    exact Reading.foldedIfShortElse label annotations ih ih' ih''
  | nil => exact Reading.nil
  | cons _ _ ih ih' => exact ih.cons ih'
  | foldedNil => exact Reading.foldedNil
  | foldedCons _ _ ih ih' => exact ih.foldedCons ih'

end Reading

/-- Folded instructions are sugar for flat ones: when a body reads from text with folded
instructions in it, the unfolding of that text reads as the flat form of the body. -/
theorem parseBody_unfolded {src flat : String} {slots : Nat} {body : List Instr}
    (unfolds : Unfolds .seq (tokenize src) (tokenize flat))
    (parsed : parseBody src slots = .ok body) :
    parseBody flat slots = .ok (Instr.flattenList body) := by
  obtain ⟨t, -, reads⟩ := parseBody_eq_ok_iff.1 parsed
  have same : (bodyReader src slots).locals = (bodyReader flat slots).locals := rfl
  have reading : Reading (bodyReader src slots) (bodyReader flat slots) .seq (tokenize src)
      (tokenize flat) := unfolds.reading same
  obtain ⟨-, -, seq⟩ := reading
  have stops : BodyReader.terminator? ([] : List String) = some .eof := rfl
  obtain ⟨rfl, -, flatReads⟩ :=
    seq [] .eof body t [] stops (by rw [List.append_nil]; exact reads)
  refine parseBody_eq_ok_iff.2 ⟨.eof, .inr rfl, ?_⟩
  simpa using flatReads.instrs? stops

/-- `(call $f (local.get 0))` unfolds to `local.get 0 call $f`, which reads as its flat form. -/
theorem call_with_folded_argument_unfolds :
    Unfolds .seq (tokenize "(call $f (local.get 0))") (tokenize "local.get 0 call $f") ∧
      parseBody "(call $f (local.get 0))" 1 = .ok [.call "$f" [.localGet 0]] ∧
      parseBody "local.get 0 call $f" 1 = .ok (Instr.flattenList [.call "$f" [.localGet 0]]) := by
  have src : tokenize "(call $f (local.get 0))" =
      ["(", "call", "$f", "(", "local.get", "0", ")", ")"] := by decide
  have flat : tokenize "local.get 0 call $f" = ["local.get", "0", "call", "$f"] := by decide
  have unfolds :
      Unfolds .seq (tokenize "(call $f (local.get 0))") (tokenize "local.get 0 call $f") := by
    rw [src, flat]
    exact .cons (.folded (.foldedPlain (.call ⟨"$f", by decide⟩)
      (.foldedCons (.foldedPlain (.localGet ⟨"0", by decide⟩) .foldedNil) .foldedNil))) .nil
  have parsed : parseBody "(call $f (local.get 0))" 1 = .ok [.call "$f" [.localGet 0]] := by
    refine parseBody_eq_ok_iff.2 ⟨.eof, .inr rfl, ?_⟩
    let R := bodyReader "(call $f (local.get 0))" 1
    have close : R.instrs? [")"] = some ([], .close, [")"]) := R.instrs?_stop rfl
    have eof : R.instrs? [] = some ([], .eof, []) := R.instrs?_stop rfl
    have slot : R.locals.slotOf? "0" = some 0 := by decide
    rw [src, R.instrs?_step rfl, R.node?_open, R.folded?_call _ (by decide), R.children?_eq,
      R.instrs?_step rfl, R.node?_open, R.folded?_localGet _ (by decide), slot]
    simp [closing?, close, eof]
  exact ⟨unfolds, parsed, parseBody_unfolded unfolds parsed⟩

/-- A folded table branch takes a bare name as a target, but flat it takes only label tokens:
`(br_table foo (local.get 0))` reads, while `local.get 0 br_table foo`, its unfolding by the
rules of the text format, does not. -/
theorem folded_table_branch_to_bare_name :
    parseBody "(br_table foo (local.get 0))" 1 = .ok [.brTable [.localGet 0] [] (.name "foo")] ∧
      ∀ body, parseBody "local.get 0 br_table foo" 1 ≠ .ok body := by
  have foo : LabelRef.ofToken "foo" = .name "foo" := by decide
  constructor
  · refine parseBody_eq_ok_iff.2 ⟨.eof, .inr rfl, ?_⟩
    let R := bodyReader "(br_table foo (local.get 0))" 1
    have tokens : tokenize "(br_table foo (local.get 0))" =
        ["(", "br_table", "foo", "(", "local.get", "0", ")", ")"] := by decide
    have eof : R.instrs? [] = some ([], .eof, []) := R.instrs?_stop rfl
    have slot : R.locals.slotOf? "0" = some 0 := by decide
    rw [tokens, R.instrs?_step rfl, R.node?_open, R.folded?_table,
      R.tableArgs?_word _ _ _ (by decide) (by decide), R.tableArgs?_open,
      R.folded?_localGet _ (by decide), slot]
    simp [closing?, R.tableArgs?_close, foo, eof]
  · intro body parsed
    obtain ⟨t, -, reads⟩ := parseBody_eq_ok_iff.1 parsed
    let R := bodyReader "local.get 0 br_table foo" 1
    have slot : R.locals.slotOf? "0" = some 0 := by decide
    have tokens : tokenize "local.get 0 br_table foo" = ["local.get", "0", "br_table", "foo"] := by
      decide
    have bare : isLabelToken "foo" = false := by simp [isLabelToken, isDigits, isAsciiDigit]
    have stuck : R.instrs? ["br_table", "foo"] = none := by
      rw [R.instrs?_step rfl, R.node?_word _ (by decide) (by decide), R.flat?_table]
      simp [bare]
    rw [tokens] at reads
    change R.instrs? _ = _ at reads
    rw [R.instrs?_step rfl, R.node?_word _ (by decide) (by decide),
      R.flat?_local _ (.inl rfl) (by decide), slot] at reads
    simp [stuck] at reads

end WasmBoogie
