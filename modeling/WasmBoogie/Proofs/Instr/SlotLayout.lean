import Mathlib.Data.List.Nodup
import WasmBoogie.Proofs.Instr.HeadReading
import WasmBoogie.Proofs.Instr.LocalSlots

namespace WasmBoogie

namespace LocalTable

theorem declare_eq (t : LocalTable) (name : Option String) (fits : t.slots + 1 < Nat.pow 2 32) :
    t.declare name =
      { slots := t.slots + 1, declared := (name.map fun n => (n, t.slots)).toList ++ t.declared } := by
  unfold declare
  rw [Nat.mod_eq_of_lt fits]
  cases name <;> rfl

/-- Anonymous slots, while they fit in a 32-bit count, follow those already declared. -/
theorem foldl_declare_none {α : Type} (tys : List α) (t : LocalTable)
    (fits : t.slots + tys.length < Nat.pow 2 32) :
    tys.foldl (fun t _ => t.declare none) t = { t with slots := t.slots + tys.length } := by
  induction tys generalizing t with
  | nil => rfl
  | cons ty tys ih =>
    simp only [List.length_cons] at fits
    rw [List.foldl_cons, declare_eq t none (by omega), ih _ (by dsimp only; omega)]
    simp [Nat.add_assoc, Nat.add_comm 1]

/-- With no name declared twice, every declaration is an alias. -/
theorem aliases_of_nodup (t : LocalTable) (distinct : (t.declared.map Prod.fst).Nodup) :
    t.aliases = t.declared := by
  suffices kept : ∀ acc l : List (String × Nat), ((acc ++ l).map Prod.fst).Nodup →
      l.foldl (fun acc p => if acc.any (·.1 == p.1) then acc else acc ++ [p]) acc = acc ++ l from
    kept [] t.declared distinct
  intro acc l
  induction l generalizing acc with
  | nil => simp
  | cons p l ih =>
    intro nodup
    have fresh : acc.any (·.1 == p.1) = false := by
      rw [List.any_eq_false]
      intro q mem same
      rw [List.map_append, List.nodup_append] at nodup
      exact nodup.2.2 q.1 (List.mem_map_of_mem mem) p.1 (by simp) (by simpa using same)
    rw [List.foldl_cons, fresh, if_neg Bool.false_ne_true, ih, List.append_assoc, List.singleton_append]
    simpa using nodup

end LocalTable

namespace SlotDecl

/-- The name of a declaration, if it has one. -/
def name? : SlotDecl → Option String
  | .named name _ => some name
  | .anonymous _ => none

/-- The number of slots declarations declare together. -/
def total : List SlotDecl → Nat
  | [] => 0
  | d :: ds => d.slots + total ds

/-- The names of declarations with their slots, in order, when the first slot is `base`: each
declaration takes the slots after those of the declarations before it. -/
def layout : List SlotDecl → Nat → List (String × Nat)
  | [], _ => []
  | d :: ds, base => (d.name?.map fun n => (n, base)).toList ++ layout ds (base + d.slots)

@[simp] theorem total_nil : total [] = 0 := rfl

@[simp] theorem total_cons (d : SlotDecl) (ds : List SlotDecl) : total (d :: ds) = d.slots + total ds := rfl

@[simp] theorem layout_nil (base : Nat) : layout [] base = [] := rfl

@[simp] theorem layout_cons (d : SlotDecl) (ds : List SlotDecl) (base : Nat) :
    layout (d :: ds) base = (d.name?.map fun n => (n, base)).toList ++ layout ds (base + d.slots) := rfl

/-- The names in a layout are those of the named declarations. -/
theorem layout_names (ds : List SlotDecl) (base : Nat) : (layout ds base).map Prod.fst = ds.filterMap name? := by
  induction ds generalizing base with
  | nil => rfl
  | cons d ds ih =>
    cases d <;> simp [name?, ih, List.filterMap_cons]

/-- A declaration with room for its slots takes those after the table's, and its name, if it
has one, stands for the first. -/
theorem declareIn_eq (d : SlotDecl) (t : LocalTable) (fits : t.slots + d.slots < Nat.pow 2 32) :
    d.declareIn t = { slots := t.slots + d.slots, declared := (layout [d] t.slots).reverse ++ t.declared } := by
  cases d with
  | named name ty => simp [declareIn, LocalTable.declare_eq t _ fits, name?, slots]
  | anonymous tys => simp [declareIn, LocalTable.foldl_declare_none tys t fits, name?, slots]

end SlotDecl

/-- The count a signature pads the slots to before the first local: its parameters. -/
def padBound : Option Signature → Nat
  | some s => s.params
  | none => 0

theorem padFor_eq (sig : Option Signature) (t : LocalTable) :
    padFor sig t = { t with slots := max t.slots (padBound sig) } := by
  cases sig <;> simp [padFor, padBound, LocalTable.padTo]

namespace Header

/-- Parameters that fit in a 32-bit count take the slots after those already declared. -/
theorem foldl_withParam (ds : List SlotDecl) (h : Header)
    (fits : h.table.slots + SlotDecl.total ds < Nat.pow 2 32) :
    ds.foldl withParam h = { h with
      params := h.params + SlotDecl.total ds,
      table.slots := h.table.slots + SlotDecl.total ds,
      table.declared := (SlotDecl.layout ds h.table.slots).reverse ++ h.table.declared } := by
  induction ds generalizing h with
  | nil => simp
  | cons d ds ih =>
    simp only [SlotDecl.total_cons] at fits
    have first := SlotDecl.declareIn_eq d h.table (by omega)
    rw [List.foldl_cons, ih]
    · simp [withParam, first, Nat.add_assoc]
    · simp only [withParam, first]
      omega

theorem foldl_withResult (rs : List (List TypeText)) (h : Header) :
    rs.foldl withResult h = { h with results := h.results + rs.foldr (fun tys n => tys.length + n) 0 } := by
  induction rs generalizing h with
  | nil => simp
  | cons tys rs ih => simp [withResult, ih, Nat.add_assoc]

/-- Locals that fit in a 32-bit count take the slots after the parameters, padded to those of the
signature: the first local pads the table, and the later ones find it padded. -/
theorem foldl_withLocal (sig : Option Signature) (ds : List SlotDecl) (h : Header)
    (fits : max h.table.slots (padBound sig) + SlotDecl.total ds < Nat.pow 2 32) :
    ∃ slots, max slots (padBound sig) = max h.table.slots (padBound sig) + SlotDecl.total ds ∧
      ds.foldl (withLocal sig) h = { h with
        locals := h.locals + SlotDecl.total ds,
        table := { slots, declared :=
          (SlotDecl.layout ds (max h.table.slots (padBound sig))).reverse ++ h.table.declared } } := by
  induction ds generalizing h with
  | nil => exact ⟨h.table.slots, by simp, by simp⟩
  | cons d ds ih =>
    simp only [SlotDecl.total_cons] at fits
    have first : d.declareIn (padFor sig h.table) =
        ⟨max h.table.slots (padBound sig) + d.slots,
          (SlotDecl.layout [d] (max h.table.slots (padBound sig))).reverse ++ h.table.declared⟩ := by
      rw [padFor_eq]
      exact SlotDecl.declareIn_eq d _ (by dsimp only; omega)
    obtain ⟨slots, bound, folded⟩ := ih (h.withLocal sig d) (by simp only [withLocal, first]; omega)
    have padded : max (max h.table.slots (padBound sig) + d.slots) (padBound sig) =
        max h.table.slots (padBound sig) + d.slots := by omega
    rw [List.foldl_cons, folded]
    simp only [withLocal, first, padded, SlotDecl.total_cons] at bound ⊢
    refine ⟨slots, by omega, ?_⟩
    simp [Nat.add_assoc]

end Header

namespace FuncHead

/-- The parameter slots a head declares. -/
def paramSlots (H : FuncHead) : Nat := SlotDecl.total H.params

/-- The local slots a head declares. -/
def localSlots (H : FuncHead) : Nat := SlotDecl.total H.locals

/-- The result types a head declares. -/
def resultCount (H : FuncHead) : Nat := H.results.foldr (fun tys n => tys.length + n) 0

/-- The names a head declares. -/
def names (H : FuncHead) : List String := (H.params ++ H.locals).filterMap SlotDecl.name?

/-- The first local slot: after the parameters the binary gives, else after those the head
declares. -/
def localBase (H : FuncHead) : Option Signature → Nat
  | some s => s.params
  | none => H.paramSlots

/-- The parameter, local and result counts of a function with this head: those the binary
gives, else those the head declares. -/
def counts (H : FuncHead) : Option Signature → Nat × Nat × Nat
  | some s => (s.params, s.locals, s.results)
  | none => (H.paramSlots, H.localSlots, H.resultCount)

/-- Each name a head declares with its slot, in the order of the text: the parameters from slot
zero, the locals from the first local slot. -/
def layout (H : FuncHead) (sig : Option Signature) : List (String × Nat) :=
  SlotDecl.layout H.params 0 ++ SlotDecl.layout H.locals (H.localBase sig)

/-- What a head declares once read, when its slots fit in a 32-bit count and it declares no
parameter slot or as many as the signature gives. -/
theorem header_eq {H : FuncHead} {sig : Option Signature}
    (declared : ∀ s, sig = some s → H.paramSlots = 0 ∨ H.paramSlots = s.params)
    (fits : H.localBase sig + H.localSlots < Nat.pow 2 32) :
    (H.header sig).params = H.paramSlots ∧ (H.header sig).locals = H.localSlots ∧
      (H.header sig).results = H.resultCount ∧ (H.header sig).table.declared = (H.layout sig).reverse := by
  have base : max H.paramSlots (padBound sig) = H.localBase sig := by
    cases sig with
    | none => simp [padBound, localBase]
    | some s => rcases declared s rfl with same | same <;> simp [padBound, localBase, same]
  have paramsFit : H.paramSlots < Nat.pow 2 32 := by
    have := Nat.le_max_left H.paramSlots (padBound sig)
    omega
  unfold paramSlots at base paramsFit
  have params := Header.foldl_withParam H.params {} (by simpa using paramsFit)
  obtain ⟨slots, -, folded⟩ := Header.foldl_withLocal sig H.locals
    (H.results.foldl Header.withResult (H.params.foldl Header.withParam {})) (by
      rw [Header.foldl_withResult, params]
      simpa [base, localSlots] using fits)
  rw [header, folded, Header.foldl_withResult, params]
  simp [paramSlots, localSlots, resultCount, layout, base]

end FuncHead

open WasmBoogie.Text

/-- The reader of a function's text with a table of local slots. -/
def functionReader (text : String) (table : LocalTable) : BodyReader :=
  ⟨(tokenize text).toArray, table⟩

namespace Header

/-- The counts of a read function: those the module's binary gives, else those the header
declares. -/
def counts (h : Header) : Option Signature → Nat × Nat × Nat
  | some s => (s.params, s.locals, s.results)
  | none => (h.params, h.locals, h.results)

/-- The table a function's body is read against: the declared slots, counted as the function's
parameters and locals in a 32-bit word. -/
def slotTable (h : Header) (sig : Option Signature) : LocalTable :=
  { h.table with slots := ((h.counts sig).1 + (h.counts sig).2.1) % Nat.pow 2 32 }

/-- The function read with this header. -/
def toFunction (h : Header) (name : Option String) (index : Nat) (sig : Option Signature) (body : List Instr) :
    Function :=
  { name, index, body
    paramCount := (h.counts sig).1
    localCount := (h.counts sig).2.1
    resultCount := (h.counts sig).2.2
    aliases := (h.slotTable sig).aliases }

end Header

/-- A function whose head reads reads as the instructions after the head, read against the
head's table of slots, when they end at the closing parenthesis of the function and nothing
follows it. -/
theorem parseFunction_of_header {text : String} (index : Nat) (sig : Option Signature)
    {afterFunc afterName afterHeader : List String} {name : Option String} {h : Header}
    (written : tokenize text = "(" :: "func" :: afterFunc) (named : (BodyReader.takeLabel afterFunc).1 = name)
    (after : (BodyReader.takeLabel afterFunc).2.1 = afterName)
    (head : (functionReader text {}).header? sig {} afterName = some (h, afterHeader)) :
    (parseFunction text index sig).toOption =
      ((functionReader text (h.slotTable sig)).instrs? afterHeader).bind fun read =>
        if (read.2.1 = .close ∨ read.2.1 = .eof) ∧ read.2.2 = [")"] then some (h.toFunction name index sig read.1)
        else none := by
  unfold parseFunction
  simp only [functionReader] at head ⊢
  rw [written] at head ⊢
  simp only [pure_bind]
  rcases label : BodyReader.takeLabel afterFunc with ⟨nm, aN, p⟩
  rw [label] at named after
  dsimp only at named after ⊢
  subst named after
  generalize ("(" :: "func" :: afterFunc).toArray = arr at head ⊢
  rcases headed : BodyReader.header ⟨arr, {}⟩ sig {} aN with e | ⟨h', aH, p'⟩
  · simp [BodyReader.header?, headed, Except.toOption] at head
  have found : h' = h ∧ aH = afterHeader := by simpa [BodyReader.header?, headed, Except.toOption] using head
  obtain ⟨rfl, rfl⟩ := found
  rw [Except.ok_bind]
  dsimp only
  unfold BodyReader.functionBody BodyReader.instrs?
  rw [Except.toOption_bind, Except.toOption_bind, Option.bind_assoc, Option.bind_map]
  congr 1
  funext read
  obtain ⟨ns, t, r, hr⟩ := read
  dsimp only [Function.comp]
  cases t
  case endKeyword | elseKeyword => simp only [reduceCtorEq, or_self, false_and, if_false]; rfl
  all_goals
    simp only [true_or, or_true, true_and]
    change (Except.ok (ns, (⟨r, hr⟩ : Within aH))).toOption.bind _ = _
    rw [Except.toOption_ok, Option.bind_some, Except.toOption_bind]
    rcases r with _ | ⟨x, rest⟩
    · rfl
    by_cases closing : x = ")"
    · subst closing
      cases rest
      · rfl
      · rfl
    · rw [BodyReader.expectClose.eq_2 _ _ (by simp [closing]), Except.toOption_error, Option.bind_none,
        if_neg (by simp [closing])]

/-- A function whose head is written in the order of the text format reads as the instructions
after the head, read against the table the head declares. -/
theorem parseFunction_of_head {text : String} (index : Nat) (sig : Option Signature) {name : Option String}
    {H : FuncHead} {rest : List String}
    (written : tokenize text = "(" :: "func" :: (labelTokens name ++ H.tokens ++ rest))
    (ends : HeadEnds rest) (unlabelled : name = none → H.tokens = [] → Unlabelled rest) :
    (parseFunction text index sig).toOption =
      ((functionReader text ((H.header sig).slotTable sig)).instrs? rest).bind fun read =>
        if (read.2.1 = .close ∨ read.2.1 = .eof) ∧ read.2.2 = [")"] then
          some ((H.header sig).toFunction name index sig read.1)
        else none := by
  obtain ⟨named, after⟩ := takeLabel_labelTokens name fun noName => H.unlabelled (unlabelled noName)
  exact parseFunction_of_header index sig (List.append_assoc _ _ _ ▸ written) named after
    ((functionReader text {}).header?_head sig H ends)

/-- A function reads with the slot layout of the text format: the counts are those the binary
gives, else those the head declares; each named parameter stands for its position among the
parameter slots, and each named local for the first local slot plus its position among the local
slots. This holds when the head declares no name twice, its slots fit in a 32-bit count, and it
declares either no parameter slot or as many as the binary gives; when the function has neither a
name nor a declaration, its body must not start with a `$` word, which would be read as its name. -/
theorem parseFunction_slot_layout {text : String} {index : Nat} {sig : Option Signature} {name : Option String}
    {H : FuncHead} {rest : List String} {f : Function}
    (written : tokenize text = "(" :: "func" :: (labelTokens name ++ H.tokens ++ rest))
    (ends : HeadEnds rest) (unlabelled : name = none → H.tokens = [] → Unlabelled rest)
    (distinct : H.names.Nodup)
    (declared : ∀ s, sig = some s → H.paramSlots = 0 ∨ H.paramSlots = s.params)
    (fits : H.localBase sig + H.localSlots < Nat.pow 2 32)
    (parsed : parseFunction text index sig = .ok f) :
    (f.paramCount, f.localCount, f.resultCount) = H.counts sig ∧ f.aliases.reverse = H.layout sig := by
  have reads := parseFunction_of_head index sig written ends unlabelled
  rw [parsed, Except.toOption_ok] at reads
  obtain ⟨read, -, found⟩ := Option.bind_eq_some_iff.1 reads.symm
  split at found
  · obtain rfl := (Option.some.inj found).symm
    obtain ⟨params, locals, results, layout⟩ := FuncHead.header_eq declared fits
    constructor
    · cases sig <;> simp [Header.toFunction, Header.counts, FuncHead.counts, params, locals, results]
    · have nodup : (((H.header sig).slotTable sig).declared.map Prod.fst).Nodup := by
        simp only [Header.slotTable, layout, List.map_reverse, List.nodup_reverse, FuncHead.layout, List.map_append,
          SlotDecl.layout_names]
        simpa [FuncHead.names, List.filterMap_append] using distinct
      rw [Header.toFunction, LocalTable.aliases_of_nodup _ nodup]
      simp [Header.slotTable, layout]
  · cases found

/-- A function of declarations only reads as its head, whatever they declare. -/
theorem parseFunction_head_only {text : String} (index : Nat) (sig : Option Signature) {name : Option String}
    {H : FuncHead} (written : tokenize text = "(" :: "func" :: (labelTokens name ++ H.tokens ++ [")"])) :
    parseFunction text index sig = .ok ((H.header sig).toFunction name index sig []) := by
  have ends : HeadEnds [")"] := fun _ _ same => absurd (List.cons.inj same).1 (by decide)
  have closes : Unlabelled [")"] := unlabelled_cons [] (by decide : dropDollar? ")" = none)
  have reads := parseFunction_of_head index sig written ends fun _ _ => closes
  rw [BodyReader.instrs?_stop _ rfl, Option.bind_some, if_pos ⟨.inl rfl, rfl⟩] at reads
  exact Except.eq_ok_of_toOption reads

/-- `i32` as a written type. -/
def TypeText.i32 : TypeText := .word ⟨"i32", by decide⟩ (by decide : dropDollar? "i32" = none)

/-- A named parameter, an anonymous one and a named local take slots 0, 1 and 2. -/
theorem named_parameter_and_local_laid_out : ∃ f,
    parseFunction "(func $f (param $x i32) (param i32) (result i32) (local $y i32))" 0 none = .ok f ∧
      (f.paramCount, f.localCount, f.resultCount) = (2, 1, 1) ∧ f.aliases.reverse = [("x", 0), ("y", 2)] := by
  let H : FuncHead := ⟨[], [.named "x" .i32, .anonymous [.i32]], [[.i32]], [.named "y" .i32]⟩
  have written : tokenize "(func $f (param $x i32) (param i32) (result i32) (local $y i32))" =
      "(" :: "func" :: (labelTokens (some "f") ++ H.tokens ++ [")"]) := by decide
  have parsed := parseFunction_head_only 0 none written
  refine ⟨_, parsed, ?_⟩
  exact parseFunction_slot_layout written (fun _ _ same => absurd (List.cons.inj same).1 (by decide))
    (fun _ _ => unlabelled_cons [] (by decide : dropDollar? ")" = none)) (by decide) (fun _ same => by cases same)
    (by decide) parsed

/-- Past the largest 32-bit count, the slot count wraps and the padding to the binary's
parameters starts again: both locals take the last slot. -/
theorem locals_wrap_past_word :
    parseFunction "(func (local $a i32) (local $b i32))" 0 (some ⟨4294967295, 0, 2⟩) =
      .ok ⟨none, 0, [], 4294967295, 2, 0, [("b", 4294967295), ("a", 4294967295)]⟩ := by
  let H : FuncHead := ⟨[], [], [], [.named "a" .i32, .named "b" .i32]⟩
  have written : tokenize "(func (local $a i32) (local $b i32))" =
      "(" :: "func" :: (labelTokens none ++ H.tokens ++ [")"]) := by decide
  rw [parseFunction_head_only 0 _ written]
  have declared :
      (H.header (some ⟨4294967295, 0, 2⟩)).table.declared = [("b", 4294967295), ("a", 4294967295)] := by
    decide
  simp only [Header.toFunction, Header.counts, Header.slotTable, declared]
  rfl

/-- Every local slot a read body uses is below the number of anonymous slots it is read over, and
every local slot in the body of a read function is below its count of parameters and locals,
taken as a 32-bit word. -/
theorem local_references_below_slot_count (text : String) (slots index : Nat) (sig : Option Signature) :
    Ensures (parseBody text slots) (SlotsBelow slots) ∧
      Ensures (parseFunction text index sig) fun f =>
        SlotsBelow ((f.paramCount + f.localCount) % Nat.pow 2 32) f.body :=
  ⟨parseBody_slotsBelow text slots, parseFunction_slotsBelow_wrapped text index sig⟩

/-- `local.get 1` reads over two slots, and its slot is below two. -/
theorem second_slot_read_below_two :
    parseBody "local.get 1" 2 = .ok [.localGet 1] ∧ SlotsBelow 2 [.localGet 1] := by
  have parsed : parseBody "local.get 1" 2 = .ok [.localGet 1] := by
    refine parseBody_eq_ok_iff.2 ⟨.eof, .inr rfl, ?_⟩
    let R := bodyReader "local.get 1" 2
    have tokens : tokenize "local.get 1" = ["local.get", "1"] := by decide
    have slot : R.locals.slotOf? "1" = some 1 := by decide
    have eof : R.instrs? [] = some ([], .eof, []) := R.instrs?_stop rfl
    rw [tokens, R.instrs?_step rfl, R.node?_word _ (by decide) (by decide), R.flat?_local _ (.inl rfl) (by decide),
      slot]
    simp [eof]
  exact ⟨parsed, (local_references_below_slot_count "local.get 1" 2 0 none).1 _ parsed⟩

/-- With a binary that gives 2^32 - 1 parameters and one local, the count of slots wraps to none,
and `local.get 0` does not read. -/
theorem local_get_past_wrapped_count :
    (parseFunction "(func (local.get 0))" 0 (some ⟨4294967295, 0, 1⟩)).toOption = none := by
  let sig : Option Signature := some ⟨4294967295, 0, 1⟩
  let H : FuncHead := ⟨[], [], [], []⟩
  let body := ["(", "local.get", "0", ")", ")"]
  have written : tokenize "(func (local.get 0))" = "(" :: "func" :: (labelTokens none ++ H.tokens ++ body) := by
    decide
  have ends : HeadEnds body := by
    intro kw rest same
    obtain ⟨-, rfl, -⟩ : "(" = "(" ∧ "local.get" = kw ∧ _ := by simpa [body] using same
    decide
  have opens : Unlabelled body := unlabelled_cons _ (by decide : dropDollar? "(" = none)
  have reads := parseFunction_of_head 0 sig written ends fun _ _ => opens
  let R := functionReader "(func (local.get 0))" ((H.header sig).slotTable sig)
  have noSlot : R.locals.slotOf? "0" = none := by decide
  change (parseFunction _ _ _).toOption = (R.instrs? body).bind _ at reads
  rw [reads, R.instrs?_step rfl, R.node?_open, R.folded?_localGet _ (by decide), noSlot]
  rfl

end WasmBoogie
