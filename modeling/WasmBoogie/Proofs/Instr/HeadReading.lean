import WasmBoogie.Proofs.Instr.FoldedText
import WasmBoogie.Instr.Function

namespace WasmBoogie

/-- A value type as a declaration writes it: a word that is no label, or a form of words in
parentheses. -/
inductive TypeText where
  | word (w : Word) (unlabelled : dropDollar? w.1 = none)
  | form (ws : List Word)

/-- The tokens of a written type. -/
def TypeText.tokens : TypeText → List String
  | .word w _ => [w.1]
  | .form ws => "(" :: ws.map Subtype.val ++ [")"]

/-- What is left after skipping to the parenthesis that closes a form with `d` more forms open
inside it, when there is one. -/
def skipTo (d : Nat) (ts : List String) : Option (List String) :=
  (skipNested d ts).map Subtype.val

theorem skipTo_open (d : Nat) (ts : List String) : skipTo d ("(" :: ts) = skipTo (d + 1) ts := by
  unfold skipTo
  cases d <;> simp only [skipNested.eq_2, skipNested.eq_3, if_pos, Option.map_map] <;> rfl

theorem skipTo_word {t : String} (word : t ≠ "(" ∧ t ≠ ")") (d : Nat) (ts : List String) :
    skipTo d (t :: ts) = skipTo d ts := by
  unfold skipTo
  cases d <;>
    simp only [skipNested.eq_2, skipNested.eq_3, if_neg word.1, if_neg word.2, Option.map_map] <;> rfl

theorem skipTo_close_succ (d : Nat) (ts : List String) : skipTo (d + 1) (")" :: ts) = skipTo d ts := by
  unfold skipTo
  simp only [skipNested.eq_3, if_neg (by decide : ")" ≠ "("), if_pos, Option.map_map]
  rfl

theorem skipTo_close_zero (ts : List String) : skipTo 0 (")" :: ts) = some ts := by
  unfold skipTo
  simp only [skipNested.eq_2, if_neg (by decide : ")" ≠ "("), if_pos]
  rfl

/-- Words are skipped at any depth. -/
theorem skipTo_words (ws : List Word) (d : Nat) (ts : List String) :
    skipTo d (ws.map Subtype.val ++ ts) = skipTo d ts := by
  induction ws with
  | nil => rfl
  | cons w ws ih => rw [List.map_cons, List.cons_append, skipTo_word w.2, ih]

/-- A written type is skipped as a whole, at any depth. -/
theorem skipTo_type (ty : TypeText) (d : Nat) (ts : List String) :
    skipTo d (ty.tokens ++ ts) = skipTo d ts := by
  cases ty with
  | word w _ => exact skipTo_words [w] d ts
  | form ws =>
    simp only [TypeText.tokens, List.append_assoc, List.cons_append, List.nil_append]
    rw [skipTo_open, skipTo_words, skipTo_close_succ]

/-- A `param` or `local` declaration: one slot under a name, with its type, or one anonymous slot
per type. -/
inductive SlotDecl where
  | named (name : String) (ty : TypeText)
  | anonymous (tys : List TypeText)

namespace SlotDecl

/-- The tokens of a declaration after its keyword, through its closing parenthesis. -/
def inner : SlotDecl → List String
  | .named name ty => ("$" ++ name) :: ty.tokens ++ [")"]
  | .anonymous tys => tys.flatMap TypeText.tokens ++ [")"]

/-- The tokens of a declaration with its keyword. -/
def tokens (keyword : String) (d : SlotDecl) : List String :=
  "(" :: keyword :: d.inner

/-- The number of slots a declaration declares. -/
def slots : SlotDecl → Nat
  | .named .. => 1
  | .anonymous tys => tys.length

/-- Declares the slots of a declaration in a table. -/
def declareIn : SlotDecl → LocalTable → LocalTable
  | .named name _, t => t.declare (some name)
  | .anonymous tys, t => tys.foldl (fun t _ => t.declare none) t

end SlotDecl

/-- A form at the head of a function that declares no slot: an export, an import or a type use,
around words. -/
structure UseForm where
  keyword : String
  words : List Word
  declaresNone : keyword = "export" ∨ keyword = "import" ∨ keyword = "type"

/-- The tokens of a use form. -/
def UseForm.tokens (u : UseForm) : List String :=
  "(" :: u.keyword :: u.words.map Subtype.val ++ [")"]

/-- The tokens of a `result` declaration of the given types. -/
def resultTokens (tys : List TypeText) : List String :=
  "(" :: "result" :: tys.flatMap TypeText.tokens ++ [")"]

/-- The keywords of the declarations at the head of a function. -/
def headKeywords : List String := ["export", "import", "type", "param", "local", "result"]

/-- Tokens that start no declaration: the head of a function ends before them. -/
def HeadEnds (ts : List String) : Prop :=
  ∀ kw rest, ts = "(" :: kw :: rest → kw ∉ headKeywords

/-- A table padded with anonymous slots up to the parameters the module's binary gives, if it
gives any. -/
def padFor : Option Signature → LocalTable → LocalTable
  | some s, t => t.padTo s.params
  | none, t => t

namespace Header

/-- The header after a parameter declaration. -/
def withParam (h : Header) (d : SlotDecl) : Header :=
  { h with params := h.params + d.slots, table := d.declareIn h.table }

/-- The header after a result declaration. -/
def withResult (h : Header) (tys : List TypeText) : Header :=
  { h with results := h.results + tys.length }

/-- The header after a local declaration, whose slots follow every parameter. -/
def withLocal (sig : Option Signature) (h : Header) (d : SlotDecl) : Header :=
  { h with locals := h.locals + d.slots, table := d.declareIn (padFor sig h.table) }

end Header

/-- Reading what a computation returns after a first step is reading the first step, then the
rest. -/
theorem Except.toOption_bind {ε α β : Type} (x : Except ε α) (f : α → Except ε β) :
    (x >>= f).toOption = x.toOption.bind fun a => (f a).toOption := by
  cases x <;> rfl

theorem Except.eq_ok_of_toOption {ε α : Type} {x : Except ε α} {a : α} (read : x.toOption = some a) :
    x = .ok a := by
  cases x with
  | error e => cases read
  | ok b => cases read; rfl

theorem Except.map_toOption_bind {ε α β γ : Type} (x : Except ε α) (f : α → Except ε β) (g : β → γ) :
    ((x >>= f).toOption).map g = x.toOption.bind fun a => (f a).toOption.map g := by
  cases x <;> rfl

namespace BodyReader

variable (R : BodyReader)

/-- The rest of a form whose opening parenthesis is read, when it closes. -/
def skipRestOfForm? (ts : List String) : Option (List String) :=
  (R.skipRestOfForm ts).toOption.map Subtype.val

/-- Anonymous slots through the closing parenthesis, when they read. -/
def anonymous? (table : LocalTable) (count : Nat) (ts : List String) : Option ((Nat × LocalTable) × List String) :=
  (slotDeclaration.anonymous R table count ts).toOption.map fun res => (res.1, res.2.1)

/-- The slots of a declaration after its keyword, when they read. -/
def slotDeclaration? (table : LocalTable) (ts : List String) : Option ((Nat × LocalTable) × List String) :=
  (R.slotDeclaration table ts).toOption.map fun res => (res.1, res.2.1)

theorem skipRestOfForm?_eq (ts : List String) : R.skipRestOfForm? ts = skipTo 0 ts := by
  unfold skipRestOfForm? skipRestOfForm skipTo
  split <;> rename_i skipped <;> rw [skipped] <;> rfl

theorem anonymous?_close (table : LocalTable) (count : Nat) (rest : List String) :
    R.anonymous? table count (")" :: rest) = some ((count, table), rest) := by
  unfold anonymous?
  rw [slotDeclaration.anonymous.eq_2]
  rfl

theorem anonymous?_type (table : LocalTable) (count : Nat) (ty : TypeText) (ts : List String) :
    R.anonymous? table count (ty.tokens ++ ts) = R.anonymous? (table.declare none) (count + 1) ts := by
  unfold anonymous?
  cases ty with
  | word w _ =>
    rw [TypeText.tokens, List.singleton_append, slotDeclaration.anonymous.eq_4 _ _ _ _ _ w.2.2 w.2.1]
    rcases slotDeclaration.anonymous R (table.declare none) (count + 1) ts with e | ⟨res, r, h⟩ <;> rfl
  | form ws =>
    have skipped : R.skipRestOfForm? (ws.map Subtype.val ++ ")" :: ts) = some ts := by
      rw [skipRestOfForm?_eq, skipTo_words, skipTo_close_zero]
    rw [TypeText.tokens, List.append_assoc, List.cons_append, List.singleton_append,
      slotDeclaration.anonymous.eq_3]
    unfold skipRestOfForm? at skipped
    rcases read : R.skipRestOfForm (ws.map Subtype.val ++ ")" :: ts) with e | ⟨r, h⟩
    · rw [read] at skipped
      cases skipped
    · rw [read] at skipped
      obtain rfl : r = ts := Option.some.inj skipped
      rw [Except.ok_bind]
      dsimp only
      rcases slotDeclaration.anonymous R (table.declare none) (count + 1) r with e | ⟨res, r', h'⟩ <;> rfl

theorem anonymous?_types (table : LocalTable) (count : Nat) (tys : List TypeText) (rest : List String) :
    R.anonymous? table count (tys.flatMap TypeText.tokens ++ ")" :: rest) =
      some ((count + tys.length, tys.foldl (fun t _ => t.declare none) table), rest) := by
  induction tys generalizing table count with
  | nil => exact R.anonymous?_close table count rest
  | cons ty tys ih =>
    rw [List.flatMap_cons, List.append_assoc, anonymous?_type, ih, List.length_cons, List.foldl_cons,
      Nat.add_assoc, Nat.add_comm 1]

theorem takeLabel_label (name : String) (ts : List String) :
    takeLabel (("$" ++ name) :: ts) = (some name, ⟨ts, Nat.le_succ _⟩) := by
  rw [takeLabel]
  split <;> rename_i found
  · rw [dropDollar?_label] at found
    cases found
    rfl
  · rw [dropDollar?_label] at found
    cases found

theorem takeLabel_unlabelled {t : String} (ts : List String) (unlabelled : dropDollar? t = none) :
    takeLabel (t :: ts) = (none, ⟨t :: ts, Nat.le_refl _⟩) := by
  rw [takeLabel]
  split <;> rename_i found
  · rw [unlabelled] at found
    cases found
  · rfl

theorem slotDeclaration?_inner (table : LocalTable) (d : SlotDecl) (rest : List String) :
    R.slotDeclaration? table (d.inner ++ rest) = some ((d.slots, d.declareIn table), rest) := by
  unfold slotDeclaration?
  cases d with
  | named name ty =>
    have skipped : R.skipRestOfForm? (ty.tokens ++ ")" :: rest) = some rest := by
      rw [skipRestOfForm?_eq, skipTo_type, skipTo_close_zero]
    unfold skipRestOfForm? at skipped
    rw [SlotDecl.inner, List.append_assoc, List.cons_append, List.singleton_append, slotDeclaration.eq_1,
      takeLabel_label]
    dsimp only
    rcases read : R.skipRestOfForm (ty.tokens ++ ")" :: rest) with e | ⟨r, h⟩
    · rw [read] at skipped
      cases skipped
    · rw [read] at skipped
      obtain rfl : r = rest := Option.some.inj skipped
      rfl
  | anonymous tys =>
    obtain ⟨t, ts, split, unlabelled⟩ : ∃ t ts, tys.flatMap TypeText.tokens ++ ")" :: rest = t :: ts ∧
        dropDollar? t = none := by
      rcases tys with _ | ⟨_ | _, _⟩
      · exact ⟨")", rest, rfl, by decide⟩
      · exact ⟨_, _, rfl, by assumption⟩
      · exact ⟨"(", _, rfl, by decide⟩
    have read := R.anonymous?_types table 0 tys rest
    rw [split, Nat.zero_add] at read
    rw [SlotDecl.inner, List.append_assoc, List.singleton_append, split, slotDeclaration.eq_1,
      takeLabel_unlabelled ts unlabelled]
    exact read

/-- Result types through the closing parenthesis, when they read. -/
def resultTypes? (count : Nat) (ts : List String) : Option (Nat × List String) :=
  (R.resultTypes count ts).toOption.map fun res => (res.1, res.2.1)

theorem resultTypes?_types (count : Nat) (tys : List TypeText) (rest : List String) :
    R.resultTypes? count (tys.flatMap TypeText.tokens ++ ")" :: rest) = some (count + tys.length, rest) := by
  induction tys generalizing count with
  | nil =>
    unfold resultTypes?
    rw [List.flatMap_nil, List.nil_append, resultTypes.eq_2]
    rfl
  | cons ty tys ih =>
    rw [List.flatMap_cons, List.append_assoc]
    have next := ih (count + 1)
    rw [List.length_cons, show count + (tys.length + 1) = count + 1 + tys.length by omega]
    unfold resultTypes? at next ⊢
    cases ty with
    | word w _ =>
      rw [TypeText.tokens, List.singleton_append, resultTypes.eq_4 _ _ _ _ w.2.2 w.2.1]
      revert next
      rcases R.resultTypes (count + 1) (tys.flatMap TypeText.tokens ++ ")" :: rest) with e | ⟨res, r, h⟩ <;>
        exact id
    | form ws =>
      have skipped : R.skipRestOfForm? (ws.map Subtype.val ++ ")" :: (tys.flatMap TypeText.tokens ++ ")" :: rest)) =
          some (tys.flatMap TypeText.tokens ++ ")" :: rest) := by
        rw [skipRestOfForm?_eq, skipTo_words, skipTo_close_zero]
      unfold skipRestOfForm? at skipped
      rw [TypeText.tokens, List.append_assoc, List.cons_append, List.singleton_append, resultTypes.eq_3]
      rcases read : R.skipRestOfForm (ws.map Subtype.val ++ ")" :: (tys.flatMap TypeText.tokens ++ ")" :: rest))
        with e | ⟨r, h⟩
      · rw [read] at skipped
        cases skipped
      · rw [read] at skipped
        obtain rfl : r = tys.flatMap TypeText.tokens ++ ")" :: rest := Option.some.inj skipped
        rw [Except.ok_bind]
        dsimp only
        revert next
        rcases R.resultTypes (count + 1) (tys.flatMap TypeText.tokens ++ ")" :: rest) with e | ⟨res, r', h'⟩ <;>
          exact id

/-- The declarations at the head of a function, when they read. -/
def header? (sig : Option Signature) (h : Header) (ts : List String) : Option (Header × List String) :=
  (R.header sig h ts).toOption.map fun res => (res.1, res.2.1)

/-- One reading step at the head of a function: a form that declares nothing is skipped, a
`param`, `local` or `result` form is read, and any other token ends the head. -/
theorem header?_open (sig : Option Signature) (h : Header) (kw : String) (rest : List String) :
    R.header? sig h ("(" :: kw :: rest) =
      if kw = "export" ∨ kw = "import" ∨ kw = "type" then
        (R.skipRestOfForm? (kw :: rest)).bind (R.header? sig h)
      else if kw = "param" then
        (R.slotDeclaration? h.table rest).bind fun res =>
          R.header? sig { h with params := h.params + res.1.1, table := res.1.2 } res.2
      else if kw = "local" then
        (R.slotDeclaration? (padFor sig h.table) rest).bind fun res =>
          R.header? sig { h with locals := h.locals + res.1.1, table := res.1.2 } res.2
      else if kw = "result" then
        (R.resultTypes? 0 rest).bind fun res => R.header? sig { h with results := h.results + res.1 } res.2
      else some (h, "(" :: kw :: rest) := by
  unfold header? skipRestOfForm? slotDeclaration? resultTypes?
  cases sig
  on_goal 1 => rw [header.eq_2]
  on_goal 2 => rw [header.eq_1]
  all_goals
    split_ifs
    on_goal 5 => rfl
    all_goals
      rw [Except.map_toOption_bind, Option.bind_map]
      congr 1
      funext res
    on_goal 1 => obtain ⟨r, hr⟩ := res
    on_goal 2 => obtain ⟨⟨n, t⟩, r, hr⟩ := res
    on_goal 3 => obtain ⟨⟨n, t⟩, r, hr⟩ := res
    on_goal 4 => obtain ⟨n, r, hr⟩ := res
    all_goals
      dsimp only [Function.comp]
      rw [Except.map_toOption_bind, Option.map_eq_bind]
      congr 1

theorem header?_use (sig : Option Signature) (h : Header) (u : UseForm) (ts : List String) :
    R.header? sig h (u.tokens ++ ts) = R.header? sig h ts := by
  have word : u.keyword ≠ "(" ∧ u.keyword ≠ ")" := by
    rcases u.declaresNone with same | same | same <;> simp [same]
  rw [UseForm.tokens, List.append_assoc, List.cons_append, List.cons_append, List.singleton_append,
    header?_open, if_pos u.declaresNone, skipRestOfForm?_eq, skipTo_word word, skipTo_words, skipTo_close_zero,
    Option.bind_some]

theorem header?_param (sig : Option Signature) (h : Header) (d : SlotDecl) (ts : List String) :
    R.header? sig h (d.tokens "param" ++ ts) = R.header? sig (h.withParam d) ts := by
  rw [SlotDecl.tokens, List.cons_append, List.cons_append, header?_open, if_neg (by decide), if_pos rfl,
    slotDeclaration?_inner, Option.bind_some]
  rfl

theorem header?_result (sig : Option Signature) (h : Header) (tys : List TypeText) (ts : List String) :
    R.header? sig h (resultTokens tys ++ ts) = R.header? sig (h.withResult tys) ts := by
  rw [resultTokens, List.append_assoc, List.cons_append, List.cons_append, List.singleton_append, header?_open,
    if_neg (by decide), if_neg (by decide), if_neg (by decide), if_pos rfl, resultTypes?_types, Option.bind_some,
    Nat.zero_add]
  rfl

theorem header?_local (sig : Option Signature) (h : Header) (d : SlotDecl) (ts : List String) :
    R.header? sig h (d.tokens "local" ++ ts) = R.header? sig (h.withLocal sig d) ts := by
  rw [SlotDecl.tokens, List.cons_append, List.cons_append, header?_open, if_neg (by decide), if_neg (by decide),
    if_pos rfl, slotDeclaration?_inner, Option.bind_some]
  rfl

/-- Tokens that start no declaration end the head. -/
theorem header?_stop (sig : Option Signature) (h : Header) {ts : List String} (ends : HeadEnds ts) :
    R.header? sig h ts = some (h, ts) := by
  by_cases opens : ∃ kw rest, ts = "(" :: kw :: rest
  · obtain ⟨kw, rest, rfl⟩ := opens
    have other := ends kw rest rfl
    simp only [headKeywords, List.mem_cons, List.not_mem_nil, or_false, not_or] at other
    obtain ⟨notExport, notImport, notType, notParam, notLocal, notResult⟩ := other
    rw [header?_open, if_neg (by simp [notExport, notImport, notType]), if_neg notParam, if_neg notLocal,
      if_neg notResult]
  · unfold header?
    rw [header.eq_3 _ _ _ _ fun kw rest split => opens ⟨kw, rest, split⟩]
    rfl

/-- Declarations in a row are read one after another. -/
theorem header?_flatMap {α : Type} {tokensOf : α → List String} {step : Header → α → Header}
    {sig : Option Signature}
    (each : ∀ h a ts, R.header? sig h (tokensOf a ++ ts) = R.header? sig (step h a) ts) (xs : List α)
    (h : Header) (ts : List String) :
    R.header? sig h (xs.flatMap tokensOf ++ ts) = R.header? sig (xs.foldl step h) ts := by
  induction xs generalizing h with
  | nil => rfl
  | cons x xs ih => rw [List.flatMap_cons, List.append_assoc, each, ih, List.foldl_cons]

end BodyReader
/-- The declarations at the head of a function, in the order of the text format: forms that
declare nothing, then parameters, then results, then locals. -/
structure FuncHead where
  uses : List UseForm
  params : List SlotDecl
  results : List (List TypeText)
  locals : List SlotDecl

namespace FuncHead

/-- The tokens of a head. -/
def tokens (H : FuncHead) : List String :=
  H.uses.flatMap UseForm.tokens ++ H.params.flatMap (SlotDecl.tokens "param") ++
    H.results.flatMap resultTokens ++ H.locals.flatMap (SlotDecl.tokens "local")

/-- The header that reading a head builds, declaration after declaration. -/
def header (H : FuncHead) (sig : Option Signature) : Header :=
  H.locals.foldl (Header.withLocal sig) (H.results.foldl Header.withResult (H.params.foldl Header.withParam {}))
end FuncHead

/-- Tokens that open with a form are no label; with no form, what follows has to be none. -/
theorem Unlabelled.flatMap_forms {α : Type} {tokensOf : α → List String}
    (forms : ∀ a, ∃ ts, tokensOf a = "(" :: ts) (xs : List α) {rest : List String}
    (unlabelled : xs = [] → Unlabelled rest) : Unlabelled (xs.flatMap tokensOf ++ rest) := by
  cases xs with
  | nil => exact unlabelled rfl
  | cons x xs =>
    obtain ⟨ts, opens⟩ := forms x
    rw [List.flatMap_cons, opens, List.cons_append, List.cons_append]
    exact unlabelled_cons _ (by decide)

/-- A head is no label, and an empty head leaves what follows it to be none. -/
theorem FuncHead.unlabelled (H : FuncHead) {rest : List String}
    (unlabelled : H.tokens = [] → Unlabelled rest) : Unlabelled (H.tokens ++ rest) := by
  simp only [FuncHead.tokens, List.append_assoc]
  refine Unlabelled.flatMap_forms (fun _ => ⟨_, rfl⟩) _ fun noUses => ?_
  refine Unlabelled.flatMap_forms (fun _ => ⟨_, rfl⟩) _ fun noParams => ?_
  refine Unlabelled.flatMap_forms (fun _ => ⟨_, rfl⟩) _ fun noResults => ?_
  refine Unlabelled.flatMap_forms (fun _ => ⟨_, rfl⟩) _ fun noLocals => unlabelled ?_
  simp [FuncHead.tokens, noUses, noParams, noResults, noLocals]

/-- A head in the order of the text format is read whole, up to tokens that declare nothing. -/
theorem BodyReader.header?_head (R : BodyReader) (sig : Option Signature) (H : FuncHead) {rest : List String}
    (ends : HeadEnds rest) : R.header? sig {} (H.tokens ++ rest) = some (H.header sig, rest) := by
  simp only [FuncHead.tokens, List.append_assoc]
  rw [R.header?_flatMap (fun h u ts => R.header?_use sig h u ts), List.foldl_fixed,
    R.header?_flatMap (R.header?_param sig), R.header?_flatMap (R.header?_result sig),
    R.header?_flatMap (R.header?_local sig), R.header?_stop sig _ ends]
  rfl

end WasmBoogie
