import WasmBoogie.Proofs.Instr.LocalSlots
import WasmBoogie.Proofs.Instr.HeadReading

namespace WasmBoogie

/-- A reading that starts at `ts` and leaves `rest` went forward over at least `k` tokens: what it
leaves is what follows the tokens it read. -/
def Advances (ts rest : List String) (k : Nat) : Prop :=
  ∃ read, ts = read ++ rest ∧ k ≤ read.length

namespace Advances

variable {ts mid rest : List String} {j k m : Nat}

theorem refl (ts : List String) : Advances ts ts 0 :=
  ⟨[], rfl, Nat.le_refl _⟩

theorem mono (adv : Advances ts rest k) (le : j ≤ k) : Advances ts rest j := by
  obtain ⟨read, split, long⟩ := adv
  exact ⟨read, split, Nat.le_trans le long⟩

/-- Two readings in a row go forward over the tokens of both. -/
theorem trans (first : Advances ts mid j) (next : Advances mid rest k) : Advances ts rest (j + k) := by
  obtain ⟨read, rfl, long⟩ := first
  obtain ⟨read', rfl, long'⟩ := next
  exact ⟨read ++ read', (List.append_assoc _ _ _).symm, by simp only [List.length_append]; omega⟩

theorem cons (adv : Advances ts rest k) (t : String) : Advances (t :: ts) rest (k + 1) :=
  (Advances.trans ⟨[t], rfl, Nat.le_refl _⟩ adv).mono (Nat.le_of_eq (Nat.add_comm k 1))

theorem length_le (adv : Advances ts rest k) : rest.length + k ≤ ts.length := by
  obtain ⟨read, rfl, long⟩ := adv
  simp only [List.length_append]
  omega

/-- Read from a cursor into the tokens, a reading leaves the tokens from a later cursor on, no
further than their end. -/
theorem cursor {tokens : List String} {i : Nat} (adv : Advances (tokens.drop i) rest k) (moved : 0 < k) :
    ∃ i', rest = tokens.drop i' ∧ i + k ≤ i' ∧ i' ≤ tokens.length := by
  obtain ⟨read, split, long⟩ := adv
  have remaining : (tokens.drop i).length = read.length + rest.length := by
    rw [split, List.length_append]
  rw [List.length_drop] at remaining
  refine ⟨i + read.length, ?_, by omega, by omega⟩
  rw [← List.drop_drop, split, List.drop_left]

end Advances

/-- Dropping the tokens that pass a test moves forward over them. -/
theorem advances_dropWhile (p : String → Bool) (ts : List String) : Advances ts (ts.dropWhile p) 0 :=
  ⟨ts.takeWhile p, List.takeWhile_append_dropWhile.symm, Nat.zero_le _⟩

namespace Instr

mutual

/-- The number of instructions in a tree, its own included. -/
def size : Instr → Nat
  | .localSet _ v | .localTee _ v | .unary _ v => sizeOpt v + 1
  | .binary _ l r => sizeOpt l + sizeOpt r + 1
  | .call _ ops | .select ops | .structural _ ops | .ret ops | .br _ ops | .brIf _ ops
  | .brTable ops _ _ => sizeList ops + 1
  | .block _ body | .loop _ body => sizeList body + 1
  | .ite _ cond thenBody (some elseBody) => sizeList cond + sizeList thenBody + sizeList elseBody + 1
  | .ite _ cond thenBody none => sizeList cond + sizeList thenBody + 1
  | .const .. | .localGet _ | .nop | .unreachable | .raw _ => 1

def sizeOpt : Option Instr → Nat
  | some i => size i
  | none => 0

def sizeList : List Instr → Nat
  | [] => 0
  | i :: rest => size i + sizeList rest

end

/-- The number of instructions in an arm that may be missing. -/
def sizeArm : Option (List Instr) → Nat
  | some body => sizeList body
  | none => 0

@[simp] theorem sizeList_nil : sizeList [] = 0 := rfl

@[simp] theorem sizeList_cons (i : Instr) (rest : List Instr) :
    sizeList (i :: rest) = size i + sizeList rest := rfl

@[simp] theorem sizeList_append (xs ys : List Instr) : sizeList (xs ++ ys) = sizeList xs + sizeList ys := by
  induction xs with
  | nil => simp
  | cons i rest ih => simp [ih, Nat.add_assoc]

theorem size_pos (i : Instr) : 0 < size i := by
  cases i with
  | ite label cond thenBody elseBody => cases elseBody <;> simp [size]
  | _ => simp [size]

theorem size_ite (label : Option String) (cond thenBody : List Instr) (elseBody : Option (List Instr)) :
    size (.ite label cond thenBody elseBody) = sizeList cond + sizeList thenBody + sizeArm elseBody + 1 := by
  cases elseBody <;> rfl

/-- The instructions in the arms of a folded `if`: its condition, its then arm and its else arm. -/
def sizeArms (arms : List Instr × List Instr × Option (List Instr)) : Nat :=
  sizeList arms.1 + sizeList arms.2.1 + sizeArm arms.2.2

end Instr

/-- The slots and result types a function's header has declared. -/
def Header.declared (h : Header) : Nat :=
  h.params + h.locals + h.results

namespace Ensures

variable {ε α β : Type} {P : α → Prop}

/-- What a view of a computation keeps comes from a result, of which the property holds. -/
theorem toOption_map {x : Except ε α} {f : α → β} (holds : Ensures x P) :
    ∀ b, x.toOption.map f = some b → ∃ a, f a = b ∧ P a := by
  intro b read
  cases x with
  | error e => cases read
  | ok a =>
    obtain rfl := Option.some.inj read
    exact ⟨a, rfl, holds a rfl⟩

theorem map {x : Except ε β} {f : β → α} (holds : Ensures x fun b => P (f b)) : Ensures (x.map f) P := by
  intro a ran
  cases read : x with
  | error e =>
    rw [read] at ran
    cases ran
  | ok b =>
    rw [read] at ran
    cases ran
    exact holds b read

end Ensures

/-- Skipping to the parenthesis that closes a form reads through it. -/
theorem skipNested_advances (d : Nat) (ts : List String) :
    ∀ r, skipNested d ts = some r → Advances ts r.1 1 := by
  induction d, ts using skipNested.induct with
  | case1 d =>
    intro r skipped
    rw [skipNested.eq_1] at skipped
    cases skipped
  | case2 d rest inner =>
    intro r skipped
    cases d <;> simp only [skipNested.eq_2, skipNested.eq_3, if_pos, Option.map_eq_some_iff] at skipped
    all_goals
      obtain ⟨r', found, rfl⟩ := skipped
      exact (inner r' found).cons _ |>.mono (by omega)
  | case3 rest notOpen =>
    intro r skipped
    simp only [skipNested.eq_2, if_neg notOpen, if_pos, Option.some.injEq] at skipped
    subst skipped
    exact (Advances.refl rest).cons _
  | case4 rest d notOpen inner =>
    intro r skipped
    simp only [skipNested.eq_3, if_neg notOpen, if_pos, Option.map_eq_some_iff] at skipped
    obtain ⟨r', found, rfl⟩ := skipped
    exact (inner r' found).cons _ |>.mono (by omega)
  | case5 d t rest notOpen notClose inner =>
    intro r skipped
    cases d <;> simp only [skipNested.eq_2, skipNested.eq_3, if_neg notOpen, if_neg notClose,
      Option.map_eq_some_iff] at skipped
    all_goals
      obtain ⟨r', found, rfl⟩ := skipped
      exact (inner r' found).cons _ |>.mono (by omega)

namespace BodyReader

variable (R : BodyReader)

theorem nextAtom_advances (what : Expectation) (ts : List String) :
    Ensures (R.nextAtom what ts) fun res => Advances ts res.2.1 1 := by
  unfold nextAtom
  split
  · exact Ensures.error
  · split
    · exact Ensures.error
    · exact Ensures.ok ((Advances.refl _).cons _)

theorem expectClose_advances (ts : List String) : Ensures (R.expectClose ts) fun r => Advances ts r.1 1 := by
  unfold expectClose
  split
  · exact Ensures.ok ((Advances.refl _).cons _)
  · exact Ensures.error

theorem localRef_advances (ts : List String) : Ensures (R.localRef ts) fun res => Advances ts res.2.1 1 := by
  unfold localRef
  refine Ensures.bind ?_
  rintro ⟨token, rest⟩ read
  exact Ensures.bind fun _ _ => Ensures.pure (R.nextAtom_advances _ ts _ read)

theorem skipRestOfForm_advances (ts : List String) : Ensures (R.skipRestOfForm ts) fun r => Advances ts r.1 1 := by
  unfold skipRestOfForm
  split
  · next r skipped => exact Ensures.ok (skipNested_advances 0 ts r skipped)
  · exact Ensures.error

theorem skipForm_advances (ts : List String) : Ensures (R.skipForm ts) fun r => Advances ts r.1 2 := by
  unfold skipForm
  split
  · exact Ensures.map fun r skipped => (R.skipRestOfForm_advances _ r skipped).cons _
  · exact Ensures.error

/-- A label, when there is one, is one token. -/
theorem takeLabel_advances (ts : List String) :
    Advances ts (takeLabel ts).2.1 (if (takeLabel ts).1 = none then 0 else 1) := by
  cases ts with
  | nil => exact Advances.refl _
  | cons t rest =>
    cases named : dropDollar? t with
    | some name =>
      simp only [takeLabel, named, reduceCtorEq, if_false]
      exact (Advances.refl _).cons _
    | none =>
      simp only [takeLabel, named, if_true]
      exact Advances.refl _

theorem skipAnnotations_advances (ts : List String) :
    Ensures (R.skipAnnotations ts) fun r => Advances ts r.1 0 := by
  induction ts using skipAnnotations.induct R with
  | case1 kw rest annotation r skipped inner =>
    rw [skipAnnotations.eq_1, if_pos annotation, skipped]
    exact Ensures.map fun r' rest' => ((R.skipForm_advances _ r skipped).trans (inner r' rest')).mono (Nat.zero_le _)
  | case2 kw rest annotation e failed =>
    rw [skipAnnotations.eq_1, if_pos annotation, failed]
    exact Ensures.error
  | case3 kw rest other =>
    rw [skipAnnotations.eq_1, if_neg other]
    exact Ensures.ok (Advances.refl _)
  | case4 other notForm =>
    rw [skipAnnotations.eq_2 _ _ notForm]
    exact Ensures.ok (Advances.refl _)

theorem atMostOne_size (headIndex : Nat) (ns : List Instr) :
    Ensures (R.atMostOne headIndex ns) fun v => Instr.sizeOpt v ≤ Instr.sizeList ns := by
  unfold atMostOne
  split
  · exact Ensures.ok (Nat.zero_le _)
  · exact Ensures.ok (by simp [Instr.sizeOpt])
  · exact Ensures.error

variable {R}

theorem folded_advances (ts : List String)
    (children : ∀ r : List String, r.length < ts.length →
      Ensures (R.children r) fun res => Advances r res.2.1 (Instr.sizeList res.1 + 1))
    (ifArms : ∀ r1 : List String, r1.length < ts.length → ∀ r3 : List String, r3.length ≤ r1.length →
      Ensures (R.ifArms (R.pos r1) r3 [] none none) fun res => Advances r3 res.2.1 (Instr.sizeArms res.1 + 1))
    (tableArgs : ∀ r : List String, r.length < ts.length →
      Ensures (R.tableArgs r [] []) fun res => Advances r res.2.1 (Instr.sizeList res.1.1 + res.1.2.length + 1)) :
    Ensures (R.folded ts) fun res => Advances ts res.2.1 (res.1.size + 1) := by
  rw [folded]
  refine Ensures.bind ?_
  rintro ⟨head, r1, h1⟩ named
  have atHead := R.nextAtom_advances _ ts _ named
  dsimp only at atHead ⊢
  split
  · refine Ensures.bind ?_
    rintro ⟨lit, r2, h2⟩ literal
    refine Ensures.bind ?_
    rintro ⟨r3, h3⟩ closed
    have atLiteral := R.nextAtom_advances _ r1 _ literal
    have atClose := R.expectClose_advances r2 _ closed
    exact Ensures.pure ((atHead.trans (atLiteral.trans atClose)).mono (by simp [Instr.size]))
  by_cases get : head = "local.get"
  · rw [if_pos get]
    refine Ensures.bind ?_
    rintro ⟨slot, r2, h2⟩ resolved
    refine Ensures.bind ?_
    rintro ⟨r3, h3⟩ closed
    have atRef := R.localRef_advances r1 _ resolved
    have atClose := R.expectClose_advances r2 _ closed
    exact Ensures.pure ((atHead.trans (atRef.trans atClose)).mono (by simp [Instr.size]))
  rw [if_neg get]
  by_cases write : head = "local.set" ∨ head = "local.tee"
  · rw [if_pos write]
    refine Ensures.bind ?_
    rintro ⟨slot, r2, h2⟩ resolved
    refine Ensures.bind ?_
    rintro ⟨ns, r3, h3⟩ read
    refine Ensures.bind fun value chosen => Ensures.pure ?_
    have atRef := R.localRef_advances r1 _ resolved
    have operands := children r2 (by omega) _ read
    have fewer := R.atMostOne_size _ ns value chosen
    refine (atHead.trans (atRef.trans operands)).mono ?_
    split <;> simp only [Instr.size] <;> omega
  rw [if_neg write]
  by_cases call : head = "call"
  · rw [if_pos call]
    refine Ensures.bind ?_
    rintro ⟨target, r2, h2⟩ callee
    refine Ensures.bind ?_
    rintro ⟨args, r3, h3⟩ read
    have atTarget := R.nextAtom_advances _ r1 _ callee
    have arguments := children r2 (by omega) _ read
    exact Ensures.pure ((atHead.trans (atTarget.trans arguments)).mono (by simp only [Instr.size]; omega))
  rw [if_neg call]
  split
  · refine Ensures.bind ?_
    rintro ⟨ns, r2, h2⟩ read
    refine Ensures.bind fun operand chosen => Ensures.pure ?_
    have operands := children r1 h1 _ read
    have fewer := R.atMostOne_size _ ns operand chosen
    exact (atHead.trans operands).mono (by simp only [Instr.size]; omega)
  · refine Ensures.bind ?_
    rintro ⟨ns, r2, h2⟩ read
    have operands := children r1 h1 _ read
    dsimp only at operands ⊢
    split
    · exact Ensures.pure ((atHead.trans operands).mono (by simp [Instr.size, Instr.sizeOpt]))
    · exact Ensures.pure ((atHead.trans operands).mono (by simp only [Instr.size, Instr.sizeOpt, Instr.sizeList_cons, Instr.sizeList_nil]; omega))
    · exact Ensures.pure ((atHead.trans operands).mono (by simp only [Instr.size, Instr.sizeOpt, Instr.sizeList_cons, Instr.sizeList_nil]; omega))
    · exact Ensures.throw
  by_cases scope : head = "block" ∨ head = "loop"
  · rw [if_pos scope]
    rcases labelled : takeLabel r1 with ⟨label, r2, h2⟩
    have atLabel := takeLabel_advances r1
    rw [labelled] at atLabel
    dsimp only at atLabel ⊢
    refine Ensures.bind ?_
    rintro ⟨r3, h3⟩ skipped
    refine Ensures.bind ?_
    rintro ⟨body, r4, h4⟩ read
    have annotations := R.skipAnnotations_advances r2 _ skipped
    have inside := children r3 (by omega) _ read
    refine Ensures.pure ((atHead.trans (atLabel.trans (annotations.trans inside))).mono ?_)
    split <;> simp only [Instr.size] <;> omega
  rw [if_neg scope]
  by_cases conditional : head = "if"
  · rw [if_pos conditional]
    rcases labelled : takeLabel r1 with ⟨label, r2, h2⟩
    have atLabel := takeLabel_advances r1
    rw [labelled] at atLabel
    dsimp only at atLabel ⊢
    refine Ensures.bind ?_
    rintro ⟨r3, h3⟩ skipped
    refine Ensures.bind ?_
    rintro ⟨⟨cond, thenBody, elseBody⟩, r4, h4⟩ read
    have annotations := R.skipAnnotations_advances r2 _ skipped
    have arms := ifArms r1 h1 r3 (by omega) _ read
    refine Ensures.pure ((atHead.trans (atLabel.trans (annotations.trans arms))).mono ?_)
    simp only [Instr.size_ite, Instr.sizeArms]
    omega
  rw [if_neg conditional]
  by_cases branch : head = "br" ∨ head = "br_if"
  · rw [if_pos branch]
    refine Ensures.bind ?_
    rintro ⟨target, r2, h2⟩ named
    refine Ensures.bind ?_
    rintro ⟨ops, r3, h3⟩ read
    have atTarget := R.nextAtom_advances _ r1 _ named
    have operands := children r2 (by omega) _ read
    refine Ensures.pure ((atHead.trans (atTarget.trans operands)).mono ?_)
    split <;> simp only [Instr.size] <;> omega
  rw [if_neg branch]
  by_cases table : head = "br_table"
  · rw [if_pos table]
    refine Ensures.bind ?_
    rintro ⟨⟨ops, targets⟩, r2, h2⟩ read
    have args := tableArgs r1 h1 _ read
    dsimp only at args ⊢
    split
    · exact Ensures.throw
    · exact Ensures.throw
    · exact Ensures.pure ((atHead.trans args).mono (by simp only [Instr.size]; omega))
  rw [if_neg table]
  by_cases ret : head = "return"
  · rw [if_pos ret]
    refine Ensures.bind ?_
    rintro ⟨ops, r2, h2⟩ read
    exact Ensures.pure ((atHead.trans (children r1 h1 _ read)).mono (by simp only [Instr.size]; omega))
  rw [if_neg ret]
  by_cases bare : head = "nop" ∨ head = "unreachable"
  · rw [if_pos bare]
    refine Ensures.bind ?_
    rintro ⟨r2, h2⟩ closed
    have atClose := R.expectClose_advances r1 _ closed
    exact Ensures.pure ((atHead.trans atClose).mono (by split <;> simp [Instr.size]))
  rw [if_neg bare]
  by_cases select : head = "select"
  · rw [if_pos select]
    refine Ensures.bind ?_
    rintro ⟨r2, h2⟩ skipped
    refine Ensures.bind ?_
    rintro ⟨ops, r3, h3⟩ read
    have annotations := R.skipAnnotations_advances r1 _ skipped
    have operands := children r2 (by omega) _ read
    dsimp only
    split
    · exact Ensures.throw_bind
    · exact Ensures.pure ((atHead.trans (annotations.trans operands)).mono (by simp only [Instr.size]; omega))
  rw [if_neg select]
  split
  · refine Ensures.bind ?_
    rintro ⟨body, r2, h2⟩ read
    exact Ensures.pure ((atHead.trans (children r1 h1 _ read)).mono (by simp only [Instr.size]; omega))
  · refine Ensures.bind ?_
    rintro ⟨r2, h2⟩ skipped
    exact Ensures.pure ((atHead.trans (R.skipRestOfForm_advances r1 _ skipped)).mono (by simp [Instr.size]))

theorem flat_advances (ts : List String)
    (flatBody : ∀ r : List String, r.length < ts.length →
      Ensures (R.flatBody r) fun res => Advances r res.2.2.1 (Instr.sizeList res.1 + 1)) :
    Ensures (R.flat ts) fun res => Advances ts res.2.1 res.1.size := by
  rw [flat]
  refine Ensures.bind ?_
  rintro ⟨head, r1, h1⟩ named
  have atHead := R.nextAtom_advances _ ts _ named
  dsimp only at atHead ⊢
  split
  · refine Ensures.bind ?_
    rintro ⟨lit, r2, h2⟩ literal
    exact Ensures.pure ((atHead.trans (R.nextAtom_advances _ r1 _ literal)).mono (by simp [Instr.size]))
  split
  · exact Ensures.pure (atHead.mono (by simp [Instr.size, Instr.sizeOpt]))
  · exact Ensures.pure (atHead.mono (by simp [Instr.size, Instr.sizeOpt]))
  by_cases access : head = "local.get" ∨ head = "local.set" ∨ head = "local.tee"
  · rw [if_pos access]
    refine Ensures.bind ?_
    rintro ⟨slot, r2, h2⟩ resolved
    refine Ensures.pure ((atHead.trans (R.localRef_advances r1 _ resolved)).mono ?_)
    dsimp only
    split
    · simp [Instr.size]
    · split <;> simp [Instr.size, Instr.sizeOpt]
  rw [if_neg access]
  by_cases call : head = "call"
  · rw [if_pos call]
    refine Ensures.bind ?_
    rintro ⟨target, r2, h2⟩ callee
    exact Ensures.pure ((atHead.trans (R.nextAtom_advances _ r1 _ callee)).mono (by simp [Instr.size]))
  rw [if_neg call]
  by_cases scope : head = "block" ∨ head = "loop"
  · rw [if_pos scope]
    rcases labelled : takeLabel r1 with ⟨label, r2, h2⟩
    have atLabel := takeLabel_advances r1
    rw [labelled] at atLabel
    dsimp only at atLabel ⊢
    refine Ensures.bind ?_
    rintro ⟨r3, h3⟩ skipped
    refine Ensures.bind ?_
    rintro ⟨body, t, r4, h4⟩ read
    have annotations := R.skipAnnotations_advances r2 _ skipped
    have inside := flatBody r3 (by omega) _ read
    dsimp only
    split
    · exact Ensures.throw_bind
    · refine Ensures.pure ((atHead.trans (atLabel.trans (annotations.trans inside))).mono ?_)
      split <;> simp only [Instr.size] <;> omega
  rw [if_neg scope]
  by_cases conditional : head = "if"
  · rw [if_pos conditional]
    rcases labelled : takeLabel r1 with ⟨label, r2, h2⟩
    have atLabel := takeLabel_advances r1
    rw [labelled] at atLabel
    dsimp only at atLabel ⊢
    refine Ensures.bind ?_
    rintro ⟨r3, h3⟩ skipped
    refine Ensures.bind ?_
    rintro ⟨thenBody, t, r4, h4⟩ read
    have annotations := R.skipAnnotations_advances r2 _ skipped
    have thenArm := flatBody r3 (by omega) _ read
    dsimp only at thenArm ⊢
    split
    · refine Ensures.bind ?_
      rintro ⟨elseBody, t', r5, h5⟩ readElse
      have elseArm := flatBody r4 (by dsimp only at h4; omega) _ readElse
      dsimp only
      split
      · exact Ensures.throw_bind
      · refine Ensures.pure
          ((atHead.trans (atLabel.trans (annotations.trans (thenArm.trans elseArm)))).mono ?_)
        simp only [Instr.size, Instr.sizeList_nil]
        omega
    · refine Ensures.pure ((atHead.trans (atLabel.trans (annotations.trans thenArm))).mono ?_)
      simp only [Instr.size, Instr.sizeList_nil]
      omega
  rw [if_neg conditional]
  by_cases branch : head = "br" ∨ head = "br_if"
  · rw [if_pos branch]
    refine Ensures.bind ?_
    rintro ⟨target, r2, h2⟩ named
    refine Ensures.pure ((atHead.trans (R.nextAtom_advances _ r1 _ named)).mono ?_)
    split <;> simp [Instr.size]
  rw [if_neg branch]
  by_cases table : head = "br_table"
  · rw [if_pos table]
    split
    · exact Ensures.throw
    · exact Ensures.pure ((atHead.trans (advances_dropWhile isLabelToken r1)).mono (by simp [Instr.size]))
  rw [if_neg table]
  by_cases ret : head = "return"
  · rw [if_pos ret]
    exact Ensures.pure (atHead.mono (by simp [Instr.size]))
  rw [if_neg ret]
  by_cases nop : head = "nop"
  · rw [if_pos nop]
    exact Ensures.pure (atHead.mono (by simp [Instr.size]))
  rw [if_neg nop]
  by_cases unreachable : head = "unreachable"
  · rw [if_pos unreachable]
    exact Ensures.pure (atHead.mono (by simp [Instr.size]))
  rw [if_neg unreachable]
  by_cases select : head = "select"
  · rw [if_pos select]
    refine Ensures.bind ?_
    rintro ⟨r2, h2⟩ skipped
    exact Ensures.pure ((atHead.trans (R.skipAnnotations_advances r1 _ skipped)).mono (by simp [Instr.size]))
  rw [if_neg select]
  exact Ensures.pure ((atHead.trans (advances_dropWhile isImmediate r1)).mono (by simp [Instr.size]))

/-- A folded `if` closes by reading its parenthesis, with arms made of the instructions read
before: a then arm and an else arm as read, or two or three operands split into condition and
arms. -/
theorem ifArms_close_advances (start : Nat) (rest : List String) (cond : List Instr)
    (thenBody elseBody : Option (List Instr)) :
    Ensures (R.ifArms start (")" :: rest) cond thenBody elseBody) fun res =>
      Advances (")" :: rest) res.2.1
        (Instr.sizeArms res.1 + 1 - (Instr.sizeList cond + Instr.sizeArm thenBody + Instr.sizeArm elseBody)) := by
  have closed : Advances (")" :: rest) rest 1 := (Advances.refl rest).cons _
  cases thenBody with
  | some t =>
    rw [ifArms.eq_2]
    exact Ensures.bind fun _ ran => by
      cases ran
      exact Ensures.pure (closed.mono (by simp [Instr.sizeArms, Instr.sizeArm]))
  | none =>
    by_cases three : elseBody = none ∧ ∃ c b a, cond.reverse = [c, b, a]
    · obtain ⟨rfl, c, b, a, reversed⟩ := three
      have operands : cond = [a, b, c] := by simpa using congrArg List.reverse reversed
      rw [ifArms.eq_3 _ _ _ _ c b a reversed]
      subst operands
      exact Ensures.bind fun _ ran => by
        cases ran
        exact Ensures.pure (closed.mono (by simp only [Instr.sizeArms, Instr.sizeArm, Instr.sizeList_cons, Instr.sizeList_nil]; omega))
    · by_cases two : ∃ a b, cond = [a, b]
      · obtain ⟨a, b, rfl⟩ := two
        rw [ifArms.eq_4 _ _ _ _ a b (fun _ _ _ _ reversed => by simp at reversed)]
        exact Ensures.bind fun _ ran => by
          cases ran
          exact Ensures.pure (closed.mono (by simp [Instr.sizeArms, Instr.sizeArm]))
      · rw [ifArms.eq_5 _ _ _ _ _ (fun c b a none reversed => three ⟨none, c, b, a, reversed⟩)
          (fun a b operands => two ⟨a, b, operands⟩)]
        exact Ensures.throw_bind

variable (R) in
/-- Every reading function of the body reader moves forward through the tokens, at least one
token for each instruction it reads; a loop that carries what it has read so far reads at least
one more token for each instruction or target it adds and one for the parenthesis that ends it.
The induction follows the reader's own recursion. -/
theorem reader_advances :
    (∀ ts, Ensures (R.node ts) fun res => Advances ts res.2.1 res.1.size) ∧
    (∀ ts, Ensures (R.flat ts) fun res => Advances ts res.2.1 res.1.size) ∧
    (∀ ts, Ensures (R.flatBody ts) fun res => Advances ts res.2.2.1 (Instr.sizeList res.1 + 1)) ∧
    (∀ ts, Ensures (R.instrs ts) fun res => Advances ts res.2.2.1 (Instr.sizeList res.1)) ∧
    (∀ ts, Ensures (R.folded ts) fun res => Advances ts res.2.1 (res.1.size + 1)) ∧
    (∀ ts ops targets, Ensures (R.tableArgs ts ops targets) fun res =>
      Advances ts res.2.1 (Instr.sizeList res.1.1 + res.1.2.length + 1 - (Instr.sizeList ops + targets.length))) ∧
    (∀ start ts cond thenBody elseBody, Ensures (R.ifArms start ts cond thenBody elseBody) fun res =>
      Advances ts res.2.1
        (Instr.sizeArms res.1 + 1 - (Instr.sizeList cond + Instr.sizeArm thenBody + Instr.sizeArm elseBody))) ∧
    (∀ start ts cond thenBody elseBody, Ensures (R.ifArmsOther start ts cond thenBody elseBody) fun res =>
      Advances ts res.2.1
        (Instr.sizeArms res.1 + 1 - (Instr.sizeList cond + Instr.sizeArm thenBody + Instr.sizeArm elseBody))) ∧
    (∀ ts, Ensures (R.children ts) fun res => Advances ts res.2.1 (Instr.sizeList res.1 + 1)) := by
  refine BodyReader.node.mutual_induct R _ _ _ _ _ _ _ _ _ ?_ ?_ ?_ ?_ ?_ ?_ ?_ ?_ ?_ ?_ ?_ ?_ ?_ ?_ ?_ ?_ ?_ ?_ ?_
    ?_ ?_ ?_ ?_ ?_ ?_
  · rw [BodyReader.node.eq_1]
    exact Ensures.error
  · intro rest folded
    rw [BodyReader.node.eq_2]
    refine Ensures.bind ?_
    rintro ⟨n, r, h⟩ ran
    exact Ensures.pure (((folded _ ran).cons _).mono (by omega))
  · intro rest
    rw [BodyReader.node.eq_3]
    exact Ensures.error
  · intro t rest notOpen notClose flat
    rw [BodyReader.node.eq_4 _ _ _ notOpen notClose]
    exact flat
  · intro ts flatBody _
    exact flat_advances ts fun r shorter => flatBody r shorter r (Nat.le_refl _) r (Nat.le_refl _)
  · intro ts instrs
    rw [BodyReader.flatBody.eq_1]
    refine Ensures.bind ?_
    rintro ⟨ns, t, r, h⟩ read
    have inside := instrs _ read
    dsimp only at inside ⊢
    split
    · split
      · next keyword rest _ =>
        have atLabel := takeLabel_advances rest
        exact Ensures.pure ((inside.trans (atLabel.cons keyword)).mono (by dsimp only; omega))
      · exact Ensures.throw
    · split
      · next keyword rest _ =>
        have atLabel := takeLabel_advances rest
        exact Ensures.pure ((inside.trans (atLabel.cons keyword)).mono (by dsimp only; omega))
      · exact Ensures.throw
    · exact Ensures.throw
    · exact Ensures.throw
  · intro ts t ended
    rw [BodyReader.instrs.eq_1, ended]
    exact Ensures.ok (Advances.refl ts)
  · intro ts going node instrs
    rw [BodyReader.instrs.eq_1, going]
    refine Ensures.bind ?_
    rintro ⟨n, r, h⟩ ran
    refine Ensures.bind ?_
    rintro ⟨ns, t, r', h'⟩ ranRest
    exact Ensures.pure (((node _ ran).trans (instrs r h _ ranRest)).mono (by simp))
  · intro ts _ children _ ifArms tableArgs _
    refine folded_advances ts children
      (fun r1 h1 r3 h3 => (ifArms r1 h1 r3 h3 r3 (Nat.le_refl _)).mono fun res adv => adv.mono ?_)
      fun r shorter => (tableArgs r shorter).mono fun res adv => adv.mono ?_
    all_goals simp [Instr.sizeArm]
  · intro ops targets
    rw [BodyReader.tableArgs.eq_1]
    exact Ensures.error
  · intro ops targets rest
    rw [BodyReader.tableArgs.eq_2]
    exact Ensures.ok (((Advances.refl rest).cons _).mono (by dsimp only; omega))
  · intro ops targets rest folded tableArgs
    rw [BodyReader.tableArgs.eq_3]
    refine Ensures.bind ?_
    rintro ⟨n, r, h⟩ ran
    refine Ensures.bind ?_
    rintro ⟨res, r', h'⟩ ranRest
    have operand := folded _ ran
    have others := tableArgs n r h _ ranRest
    dsimp only at operand others ⊢
    exact Ensures.pure (((operand.trans others).cons _).mono
      (by simp only [Instr.sizeList_append, Instr.sizeList_cons, Instr.sizeList_nil] at *; omega))
  · intro ops targets t rest notClose notOpen tableArgs
    rw [BodyReader.tableArgs.eq_4 _ _ _ _ _ notClose notOpen]
    refine Ensures.bind ?_
    rintro ⟨res, r', h'⟩ ran
    have others := tableArgs _ ran
    dsimp only at others ⊢
    exact Ensures.pure ((others.cons _).mono (by simp only [List.length_append, List.length_singleton] at *; omega))
  · intro start cond thenBody elseBody
    rw [BodyReader.ifArms.eq_1]
    exact Ensures.error
  · intro start cond elseBody rest t
    exact ifArms_close_advances start rest cond _ elseBody
  · intro start cond elseBody rest _ _ _ _
    exact ifArms_close_advances start rest cond _ elseBody
  · intro start cond elseBody rest _ _ _ _
    exact ifArms_close_advances start rest cond _ elseBody
  · intro start cond thenBody elseBody rest absent children ifArms
    rw [BodyReader.ifArms.eq_6, if_pos absent]
    obtain rfl : thenBody = none := Option.isNone_iff_eq_none.1 absent
    refine Ensures.bind ?_
    rintro ⟨body, r, h⟩ ran
    refine Ensures.bind ?_
    rintro ⟨res, r', h'⟩ ranRest
    have arm := children _ ran
    have others := ifArms body r h _ ranRest
    dsimp only at arm others ⊢
    exact Ensures.pure ((((arm.trans others).cons _).cons _).mono (by simp only [Instr.sizeArm] at *; omega))
  · intro start cond thenBody elseBody rest present other
    rw [BodyReader.ifArms.eq_6, if_neg present]
    exact other
  · intro start cond thenBody elseBody rest absent children ifArms
    rw [BodyReader.ifArms.eq_7, if_pos absent]
    obtain rfl : elseBody = none := Option.isNone_iff_eq_none.1 absent
    refine Ensures.bind ?_
    rintro ⟨body, r, h⟩ ran
    refine Ensures.bind ?_
    rintro ⟨res, r', h'⟩ ranRest
    have arm := children _ ran
    have others := ifArms body r h _ ranRest
    dsimp only at arm others ⊢
    exact Ensures.pure ((((arm.trans others).cons _).cons _).mono (by simp only [Instr.sizeArm] at *; omega))
  · intro start cond thenBody elseBody rest present other
    rw [BodyReader.ifArms.eq_7, if_neg present]
    exact other
  · intro start cond thenBody elseBody t rest notClose notThen notElse other
    rw [BodyReader.ifArms.eq_8 _ _ _ _ _ _ _ notClose notThen notElse]
    exact other
  · intro start ts cond thenBody elseBody present
    rw [BodyReader.ifArmsOther.eq_1, if_pos present]
    exact Ensures.error
  · intro start ts cond thenBody elseBody absent node ifArms
    rw [BodyReader.ifArmsOther.eq_1, if_neg absent]
    refine Ensures.bind ?_
    rintro ⟨n, r, h⟩ ran
    refine Ensures.bind ?_
    rintro ⟨res, r', h'⟩ ranRest
    have operand := node _ ran
    have others := ifArms n r h _ ranRest
    dsimp only at operand others ⊢
    exact Ensures.pure ((operand.trans others).mono
      (by simp only [Instr.sizeList_append, Instr.sizeList_cons, Instr.sizeList_nil] at *; omega))
  · intro ts instrs
    rw [BodyReader.children.eq_1]
    refine Ensures.bind ?_
    rintro ⟨ns, t, r, h⟩ read
    have inside := instrs _ read
    dsimp only at inside ⊢
    split
    · split
      · next close rest _ => exact Ensures.pure ((inside.trans ((Advances.refl rest).cons close)).mono (Nat.le_refl _))
      · exact Ensures.throw
    · exact Ensures.throw
    · exact Ensures.throw
    · exact Ensures.throw

theorem functionBody_advances (ts : List String) :
    Ensures (R.functionBody ts) fun res => Advances ts res.2.1 (Instr.sizeList res.1) := by
  unfold functionBody
  refine Ensures.bind ?_
  rintro ⟨ns, t, r⟩ read
  have inside := (reader_advances R).2.2.2.1 ts _ read
  dsimp only at inside ⊢
  split
  · exact Ensures.pure inside
  · exact Ensures.pure inside
  · exact Ensures.throw

variable (R) in
/-- The anonymous slots of a declaration: a token or a form for each, and the closing
parenthesis. -/
theorem anonymous_advances (table : LocalTable) (count : Nat) (ts : List String) :
    Ensures (slotDeclaration.anonymous R table count ts) fun res => Advances ts res.2.1 (res.1.1 + 1 - count) := by
  induction table, count, ts using slotDeclaration.anonymous.induct with
  | case1 table count =>
    rw [slotDeclaration.anonymous.eq_1]
    exact Ensures.error
  | case2 table count rest =>
    rw [slotDeclaration.anonymous.eq_2]
    exact Ensures.ok (((Advances.refl rest).cons _).mono (by dsimp only; omega))
  | case3 table count rest inner =>
    rw [slotDeclaration.anonymous.eq_3]
    refine Ensures.bind ?_
    rintro ⟨r, h⟩ skipped
    refine Ensures.bind ?_
    rintro ⟨res, r', h'⟩ ran
    have form := R.skipRestOfForm_advances rest _ skipped
    have others := inner r h _ ran
    dsimp only at form others
    exact Ensures.pure (((form.trans others).cons _).mono (by dsimp only; omega))
  | case4 table count t rest notClose notOpen inner =>
    rw [slotDeclaration.anonymous.eq_4 _ _ _ _ _ notClose notOpen]
    refine Ensures.bind ?_
    rintro ⟨res, r', h'⟩ ran
    have others := inner _ ran
    dsimp only at others
    exact Ensures.pure ((others.cons _).mono (by dsimp only; omega))

theorem slotDeclaration_advances (table : LocalTable) (ts : List String) :
    Ensures (R.slotDeclaration table ts) fun res => Advances ts res.2.1 (res.1.1 + 1) := by
  unfold slotDeclaration
  have atLabel := takeLabel_advances ts
  rcases labelled : takeLabel ts with ⟨label, r, h⟩
  rw [labelled] at atLabel
  cases label with
  | some name =>
    dsimp only at atLabel ⊢
    refine Ensures.bind ?_
    rintro ⟨r', h'⟩ skipped
    exact Ensures.pure ((atLabel.trans (R.skipRestOfForm_advances r _ skipped)).mono (by simp))
  | none => exact (anonymous_advances R table 0 ts).mono fun res adv => adv.mono (by omega)

variable (R) in
/-- The result types of a declaration: a token or a form for each, and the closing
parenthesis. -/
theorem resultTypes_advances (count : Nat) (ts : List String) :
    Ensures (R.resultTypes count ts) fun res => Advances ts res.2.1 (res.1 + 1 - count) := by
  induction count, ts using resultTypes.induct with
  | case1 count =>
    rw [resultTypes.eq_1]
    exact Ensures.error
  | case2 count rest =>
    rw [resultTypes.eq_2]
    exact Ensures.ok (((Advances.refl rest).cons _).mono (by dsimp only; omega))
  | case3 count rest inner =>
    rw [resultTypes.eq_3]
    refine Ensures.bind ?_
    rintro ⟨r, h⟩ skipped
    refine Ensures.bind ?_
    rintro ⟨res, r', h'⟩ ran
    have form := R.skipRestOfForm_advances rest _ skipped
    have others := inner r h _ ran
    dsimp only at form others
    exact Ensures.pure (((form.trans others).cons _).mono (by dsimp only; omega))
  | case4 count t rest notClose notOpen inner =>
    rw [resultTypes.eq_4 _ _ _ _ notClose notOpen]
    refine Ensures.bind ?_
    rintro ⟨res, r', h'⟩ ran
    have others := inner _ ran
    dsimp only at others
    exact Ensures.pure ((others.cons _).mono (by dsimp only; omega))

/-- The head of a function reads at least one token for each slot and result type it declares.
The induction follows the reader's own recursion over the head, one declaration at a time. -/
theorem header?_advances (sig : Option Signature) (h : Header) (ts : List String) :
    ∀ res, R.header? sig h ts = some res → Advances ts res.2 (res.1.declared - h.declared) := by
  induction h, ts using header.induct sig with
  | case1 h kw rest use inner =>
    intro res read
    rw [header?_open, if_pos use, Option.bind_eq_some_iff] at read
    obtain ⟨r, skipped, others⟩ := read
    obtain ⟨⟨r, _⟩, rfl, form⟩ := Ensures.toOption_map (R.skipRestOfForm_advances (kw :: rest)) r skipped
    have next := inner r (by have := form.length_le; omega) res others
    exact ((form.trans next).cons _).mono (by omega)
  | case2 h rest _ inner =>
    intro res read
    rw [header?_open, if_neg (by decide), if_pos rfl, Option.bind_eq_some_iff] at read
    obtain ⟨decl, declared, others⟩ := read
    obtain ⟨decl, rfl, slots⟩ := Ensures.toOption_map (R.slotDeclaration_advances h.table rest) _ declared
    have next := inner _ _ _ (by have := slots.length_le; dsimp only; omega) res others
    simp only [Header.declared] at next ⊢
    exact (((slots.trans next).cons _).cons _).mono (by omega)
  | case3 h rest _ _ inner =>
    intro res read
    rw [header?_open, if_neg (by decide), if_neg (by decide), if_pos rfl, Option.bind_eq_some_iff] at read
    obtain ⟨decl, declared, others⟩ := read
    obtain ⟨decl, rfl, slots⟩ := Ensures.toOption_map (R.slotDeclaration_advances (padFor sig h.table) rest) _ declared
    have next := inner _ _ _ (by have := slots.length_le; dsimp only; omega) res others
    simp only [Header.declared] at next ⊢
    exact (((slots.trans next).cons _).cons _).mono (by omega)
  | case4 h rest _ _ _ inner =>
    intro res read
    rw [header?_open, if_neg (by decide), if_neg (by decide), if_neg (by decide), if_pos rfl,
      Option.bind_eq_some_iff] at read
    obtain ⟨count, typed, others⟩ := read
    obtain ⟨count, rfl, types⟩ := Ensures.toOption_map (R.resultTypes_advances 0 rest) _ typed
    have next := inner _ _ (by have := types.length_le; dsimp only; omega) res others
    simp only [Header.declared] at next ⊢
    exact (((types.trans next).cons _).cons _).mono (by omega)
  | case5 h kw rest use param local_ result =>
    intro res read
    rw [header?_open, if_neg use, if_neg param, if_neg local_, if_neg result, Option.some.injEq] at read
    subst read
    exact (Advances.refl _).mono (by dsimp only; omega)
  | case6 h other notForm =>
    intro res read
    unfold header? at read
    rw [header.eq_3 _ _ _ _ notForm] at read
    obtain rfl := Option.some.inj read
    exact (Advances.refl _).mono (by dsimp only; omega)

theorem header_advances (sig : Option Signature) (h : Header) (ts : List String) :
    Ensures (R.header sig h ts) fun res => Advances ts res.2.1 (res.1.declared - h.declared) :=
  fun res ran => R.header?_advances sig h ts (res.1, res.2.1) (by rw [header?, ran]; rfl)

/-- Every reading function of a reader moves forward through the tokens: it leaves what follows
the tokens it read, and reads at least one token for each instruction, target, slot or result
type it adds to what it returns, and one for the token that ends it where one does. A loop that
carries what it has read so far counts only what it adds. -/
structure Advancing (R : BodyReader) : Prop where
  node : ∀ ts, Ensures (R.node ts) fun res => Advances ts res.2.1 res.1.size
  instrs : ∀ ts, Ensures (R.instrs ts) fun res => Advances ts res.2.2.1 (Instr.sizeList res.1)
  children : ∀ ts, Ensures (R.children ts) fun res => Advances ts res.2.1 (Instr.sizeList res.1 + 1)
  flatBody : ∀ ts, Ensures (R.flatBody ts) fun res => Advances ts res.2.2.1 (Instr.sizeList res.1 + 1)
  ifArms : ∀ start ts cond thenBody elseBody, Ensures (R.ifArms start ts cond thenBody elseBody) fun res =>
    Advances ts res.2.1
      (Instr.sizeArms res.1 + 1 - (Instr.sizeList cond + Instr.sizeArm thenBody + Instr.sizeArm elseBody))
  tableArgs : ∀ ts ops targets, Ensures (R.tableArgs ts ops targets) fun res =>
    Advances ts res.2.1 (Instr.sizeList res.1.1 + res.1.2.length + 1 - (Instr.sizeList ops + targets.length))
  skipRestOfForm : ∀ ts, Ensures (R.skipRestOfForm ts) fun r => Advances ts r.1 1
  skipAnnotations : ∀ ts, Ensures (R.skipAnnotations ts) fun r => Advances ts r.1 0
  header : ∀ sig h ts, Ensures (R.header sig h ts) fun res => Advances ts res.2.1 (res.1.declared - h.declared)
  slotDeclaration : ∀ table ts, Ensures (R.slotDeclaration table ts) fun res => Advances ts res.2.1 (res.1.1 + 1)
  resultTypes : ∀ count ts, Ensures (R.resultTypes count ts) fun res => Advances ts res.2.1 (res.1 + 1 - count)
  functionBody : ∀ ts, Ensures (R.functionBody ts) fun res => Advances ts res.2.1 (Instr.sizeList res.1)

variable (R) in
theorem advancing : R.Advancing :=
  have reads := reader_advances R
  { node := reads.1
    instrs := reads.2.2.2.1
    children := reads.2.2.2.2.2.2.2.2
    flatBody := reads.2.2.1
    ifArms := reads.2.2.2.2.2.2.1
    tableArgs := reads.2.2.2.2.2.1
    skipRestOfForm := R.skipRestOfForm_advances
    skipAnnotations := R.skipAnnotations_advances
    header := R.header_advances
    slotDeclaration := R.slotDeclaration_advances
    resultTypes := R.resultTypes_advances
    functionBody := R.functionBody_advances }

variable (R) in
/-- Read at a cursor into the tokens, an instruction moves the cursor forward by at least the
number of instructions in its tree, so by at least one, and leaves the tokens from the new cursor
on; the new cursor is no further than the end of the tokens. -/
theorem node_moves_cursor (i : Nat) :
    Ensures (R.node (R.tokens.toList.drop i)) fun res =>
      ∃ i', res.2.1 = R.tokens.toList.drop i' ∧ i + res.1.size ≤ i' ∧ i' ≤ R.tokens.size := by
  intro res ran
  obtain ⟨i', rest, moved, within⟩ := (R.advancing.node _ res ran).cursor (Instr.size_pos res.1)
  exact ⟨i', rest, moved, by simpa using within⟩

end BodyReader

/-- A body read from a text has no more instructions than the text has tokens. -/
theorem parseBody_size_le (text : String) (slots : Nat) :
    Ensures (parseBody text slots) fun body => Instr.sizeList body ≤ (Text.tokenize text).length := by
  unfold parseBody
  refine Ensures.bind ?_
  rintro ⟨body, rest⟩ read
  have bound := (BodyReader.advancing _).functionBody _ _ read |>.length_le
  dsimp only at bound ⊢
  split
  · exact Ensures.pure (by omega)
  · exact Ensures.throw

/-- A function read from a text has no more instructions in its body than the text has tokens. -/
theorem parseFunction_size_le (text : String) (index : Nat) (sig : Option Signature) :
    Ensures (parseFunction text index sig) fun f => Instr.sizeList f.body ≤ (Text.tokenize text).length := by
  unfold parseFunction
  extract_lets tokens R named opened
  change Ensures _ fun (f : Function) => Instr.sizeList f.body ≤ tokens.length
  suffices reads : ∀ afterFunc, afterFunc.length ≤ tokens.length →
      Ensures (named afterFunc) fun f => Instr.sizeList f.body ≤ tokens.length by
    clear_value tokens R named
    have keyword : ∀ afterOpen, afterOpen.length ≤ tokens.length →
        Ensures (opened afterOpen) fun f => Instr.sizeList f.body ≤ tokens.length := by
      intro afterOpen within
      dsimp only [opened]
      split
      · next rest =>
        exact Ensures.bind fun afterFunc ran => by
          obtain rfl : rest = afterFunc := Except.ok.inj ran
          exact reads _ (by simp only [List.length_cons] at within; omega)
      · exact Ensures.throw_bind
    clear_value opened
    split
    · next rest =>
      exact Ensures.bind fun afterOpen ran => by
        obtain rfl : rest = afterOpen := Except.ok.inj ran
        exact keyword _ (by simp only [List.length_cons]; omega)
    · exact Ensures.throw_bind
  intro afterFunc within
  dsimp only [named]
  rcases labelled : BodyReader.takeLabel afterFunc with ⟨name, afterName, unlabelled⟩
  dsimp only
  refine Ensures.bind ?_
  rintro ⟨h, afterHeader, headed⟩ -
  cases sig <;> dsimp only
  all_goals
    refine Ensures.bind ?_
    rintro ⟨body, afterBody, _⟩ read
    have bound := (BodyReader.advancing _).functionBody afterHeader _ read |>.length_le
    dsimp only at bound
    refine Ensures.bind fun _ _ => ?_
    split
    · exact Ensures.pure (by dsimp only; omega)
    · exact Ensures.throw_bind

/-- Reading always moves forward. Read at any cursor into the tokens, an instruction leaves the
tokens from a later cursor on, at least one further for each instruction in the tree it read and
no further than the end of the tokens. Every reading function and every loop of the reader moves
forward over the tokens, at least one token for each thing it adds to what it returns
(`BodyReader.Advancing`). A body or a function read from a text has no more instructions than
the text has tokens. -/
theorem reading_always_advances :
    (∀ (R : BodyReader) (i : Nat), Ensures (R.node (R.tokens.toList.drop i)) fun res =>
      ∃ i', res.2.1 = R.tokens.toList.drop i' ∧ i + res.1.size ≤ i' ∧ i' ≤ R.tokens.size) ∧
    (∀ R : BodyReader, R.Advancing) ∧
    (∀ text slots, Ensures (parseBody text slots) fun body => Instr.sizeList body ≤ (Text.tokenize text).length) ∧
    (∀ text index sig, Ensures (parseFunction text index sig) fun f =>
      Instr.sizeList f.body ≤ (Text.tokenize text).length) :=
  ⟨BodyReader.node_moves_cursor, BodyReader.advancing, parseBody_size_le, parseFunction_size_le⟩

end WasmBoogie
