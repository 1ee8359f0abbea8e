import WasmBoogie.Module.Source

namespace WasmBoogie

/-- Every value a computation may return satisfies the predicate: errors promise nothing. -/
def Ensures {ε α : Type} (x : Except ε α) (P : α → Prop) : Prop := ∀ a, x = .ok a → P a

namespace Ensures

variable {ε α β : Type} {P : α → Prop}

theorem bind {x : Except ε β} {f : β → Except ε α} (next : ∀ b, x = .ok b → Ensures (f b) P) :
    Ensures (x >>= f) P := by
  intro a ran
  cases ran_x : x with
  | error e =>
    rw [ran_x] at ran
    cases ran
  | ok b =>
    rw [ran_x] at ran
    exact next b ran_x a ran

theorem pure {a : α} (holds : P a) : Ensures (Pure.pure a : Except ε α) P := by
  intro b ran
  cases ran
  exact holds

theorem ok {a : α} (holds : P a) : Ensures (Except.ok a : Except ε α) P := pure holds

theorem throw {e : ε} : Ensures (MonadExcept.throw e : Except ε α) P := by
  intro b ran
  cases ran

theorem error {e : ε} : Ensures (Except.error e : Except ε α) P := throw

theorem throw_bind {e : ε} {f : β → Except ε α} : Ensures (MonadExcept.throw e >>= f) P := by
  intro a ran
  cases ran

theorem mono {x : Except ε α} {Q : α → Prop} (ensures : Ensures x P) (weaker : ∀ a, P a → Q a) :
    Ensures x Q :=
  fun a ran => weaker a (ensures a ran)

/-- Mapping a computation that ensures a property over a list ensures it of every result. -/
theorem mapM {f : β → Except ε α} {xs : List β} (each : ∀ x ∈ xs, Ensures (f x) P) :
    Ensures (xs.mapM f) fun ys => ∀ y ∈ ys, P y := by
  induction xs with
  | nil => exact pure (by simp)
  | cons x rest ih =>
    rw [List.mapM_cons]
    refine bind fun y ran => bind fun ys ranRest => pure ?_
    have first := each x List.mem_cons_self y ran
    have others := ih (fun x' mem => each x' (List.mem_cons_of_mem x mem)) ys ranRest
    simpa [first] using others

end Ensures

namespace Instr

mutual

/-- The local slots an instruction reads or writes, in order. -/
def slots : Instr → List Nat
  | .localGet s => [s]
  | .localSet s v | .localTee s v => s :: slotsOpt v
  | .unary _ v => slotsOpt v
  | .binary _ l r => slotsOpt l ++ slotsOpt r
  | .call _ ops | .select ops | .structural _ ops | .ret ops | .br _ ops | .brIf _ ops
  | .brTable ops _ _ => slotsList ops
  | .block _ body | .loop _ body => slotsList body
  | .ite _ cond thenBody (some elseBody) => slotsList cond ++ slotsList thenBody ++ slotsList elseBody
  | .ite _ cond thenBody none => slotsList cond ++ slotsList thenBody
  | .const .. | .nop | .unreachable | .raw _ => []

def slotsOpt : Option Instr → List Nat
  | some i => slots i
  | none => []

def slotsList : List Instr → List Nat
  | [] => []
  | i :: rest => slots i ++ slotsList rest

end

@[simp] theorem slotsList_append (xs ys : List Instr) : slotsList (xs ++ ys) = slotsList xs ++ slotsList ys := by
  induction xs with
  | nil => rfl
  | cons i rest ih => simp [slotsList, ih]

@[simp] theorem slotsList_singleton (i : Instr) : slotsList [i] = slots i := by
  simp [slotsList]

end Instr

/-- Every local slot the instructions use is below the bound. -/
def SlotsBelow (bound : Nat) (is : List Instr) : Prop := ∀ s ∈ Instr.slotsList is, s < bound

/-- The arms of a folded `if` use only slots below the bound. -/
def ArmsBelow (bound : Nat) (arms : List Instr × List Instr × Option (List Instr)) : Prop :=
  SlotsBelow bound arms.1 ∧ SlotsBelow bound arms.2.1 ∧ ∀ e ∈ arms.2.2, SlotsBelow bound e

namespace SlotsBelow

variable {bound : Nat}

theorem nil : SlotsBelow bound [] := by
  simp [SlotsBelow, Instr.slotsList]

theorem append_iff {xs ys : List Instr} :
    SlotsBelow bound (xs ++ ys) ↔ SlotsBelow bound xs ∧ SlotsBelow bound ys := by
  simp only [SlotsBelow, Instr.slotsList_append, List.mem_append, or_imp, forall_and]

theorem cons_iff {i : Instr} {rest : List Instr} :
    SlotsBelow bound (i :: rest) ↔ SlotsBelow bound [i] ∧ SlotsBelow bound rest :=
  @append_iff bound [i] rest

end SlotsBelow

namespace BodyReader

variable (R : BodyReader)

theorem resolveLocal_lt (token : String) (i : Nat) : Ensures (R.resolveLocal token i) (· < R.locals.slots) := by
  unfold resolveLocal
  extract_lets saturate check
  have checked : ∀ slot, Ensures (check slot) (· < R.locals.slots) := by
    intro slot
    simp only [check]
    split
    · exact Ensures.throw_bind
    · rename_i within
      exact Ensures.pure (Nat.lt_of_not_ge within)
  split
  · exact Ensures.bind fun slot _ => checked slot
  · split
    · split
      · exact Ensures.bind fun slot _ => checked slot
      · split
        · exact Ensures.bind fun slot _ => checked slot
        · exact Ensures.throw_bind
    · exact Ensures.throw_bind

theorem localRef_lt (ts : List String) : Ensures (R.localRef ts) (·.1 < R.locals.slots) := by
  unfold localRef
  refine Ensures.bind fun _ _ => Ensures.bind fun slot resolved => Ensures.pure ?_
  exact R.resolveLocal_lt _ _ slot resolved

theorem atMostOne_below {bound : Nat} (headIndex : Nat) {ns : List Instr} (below : SlotsBelow bound ns) :
    Ensures (R.atMostOne headIndex ns) fun v => ∀ s ∈ Instr.slotsOpt v, s < bound := by
  unfold atMostOne
  split
  · exact Ensures.ok (by simp [Instr.slotsOpt])
  · exact Ensures.ok fun s mem => below s (by simpa [Instr.slotsList, Instr.slotsOpt] using mem)
  · exact Ensures.error

variable {R}

theorem folded_below (ts : List String)
    (children : ∀ r : List String, r.length < ts.length →
      Ensures (R.children r) fun res => SlotsBelow R.locals.slots res.1)
    (ifArms : ∀ r1 : List String, r1.length < ts.length → ∀ r3 : List String, r3.length ≤ r1.length →
      Ensures (R.ifArms (R.pos r1) r3 [] none none) fun res => ArmsBelow R.locals.slots res.1)
    (tableArgs : ∀ r : List String, r.length < ts.length →
      Ensures (R.tableArgs r [] []) fun res => SlotsBelow R.locals.slots res.1.1) :
    Ensures (R.folded ts) fun res => SlotsBelow R.locals.slots [res.1] := by
  rw [folded]
  refine Ensures.bind ?_
  rintro ⟨head, r1, h1⟩ -
  dsimp only
  split
  · exact Ensures.bind fun _ _ => Ensures.bind fun _ _ => Ensures.pure (by simp [SlotsBelow, Instr.slots])
  by_cases get : head = "local.get"
  · rw [if_pos get]
    refine Ensures.bind ?_
    rintro ⟨slot, r2, h2⟩ resolved
    exact Ensures.bind fun _ _ => Ensures.pure (by simpa [SlotsBelow, Instr.slots] using R.localRef_lt r1 _ resolved)
  rw [if_neg get]
  by_cases write : head = "local.set" ∨ head = "local.tee"
  · rw [if_pos write]
    refine Ensures.bind ?_
    rintro ⟨slot, r2, h2⟩ resolved
    refine Ensures.bind ?_
    rintro ⟨ns, r3, h3⟩ read
    refine Ensures.bind fun value chosen => Ensures.pure ?_
    have slotBelow := R.localRef_lt r1 _ resolved
    have valueBelow := R.atMostOne_below _ (children r2 (by omega) _ read) value chosen
    split <;> simpa [SlotsBelow, Instr.slots] using ⟨slotBelow, valueBelow⟩
  rw [if_neg write]
  by_cases call : head = "call"
  · rw [if_pos call]
    refine Ensures.bind ?_
    rintro ⟨target, r2, h2⟩ -
    refine Ensures.bind ?_
    rintro ⟨args, r3, h3⟩ read
    exact Ensures.pure (by simpa [SlotsBelow, Instr.slots] using children r2 (by omega) _ read)
  rw [if_neg call]
  split
  · refine Ensures.bind ?_
    rintro ⟨ns, r2, h2⟩ read
    refine Ensures.bind fun operand chosen => Ensures.pure ?_
    simpa [SlotsBelow, Instr.slots] using R.atMostOne_below _ (children r1 h1 _ read) operand chosen
  · refine Ensures.bind ?_
    rintro ⟨ns, r2, h2⟩ read
    have below := children r1 h1 _ read
    dsimp only at below ⊢
    split
    · exact Ensures.pure (by simp [SlotsBelow, Instr.slots, Instr.slotsOpt])
    · exact Ensures.pure (by simpa [SlotsBelow, Instr.slots, Instr.slotsOpt] using below)
    · exact Ensures.pure (by simpa [SlotsBelow, Instr.slots, Instr.slotsOpt, Instr.slotsList] using below)
    · exact Ensures.throw
  by_cases scope : head = "block" ∨ head = "loop"
  · rw [if_pos scope]
    rcases labelled : takeLabel r1 with ⟨label, r2, h2⟩
    dsimp only
    refine Ensures.bind ?_
    rintro ⟨r3, h3⟩ -
    refine Ensures.bind ?_
    rintro ⟨body, r4, h4⟩ read
    have below := children r3 (by omega) _ read
    exact Ensures.pure (by split <;> simpa [SlotsBelow, Instr.slots] using below)
  rw [if_neg scope]
  by_cases conditional : head = "if"
  · rw [if_pos conditional]
    rcases labelled : takeLabel r1 with ⟨label, r2, h2⟩
    dsimp only
    refine Ensures.bind ?_
    rintro ⟨r3, h3⟩ -
    refine Ensures.bind ?_
    rintro ⟨⟨cond, thenBody, elseBody⟩, r4, h4⟩ read
    obtain ⟨condBelow, thenBelow, elseBelow⟩ := ifArms r1 h1 r3 (by omega) _ read
    refine Ensures.pure ?_
    cases elseBody with
    | none => simpa [SlotsBelow, Instr.slots, or_imp, forall_and] using ⟨condBelow, thenBelow⟩
    | some e => simpa [SlotsBelow, Instr.slots, or_imp, forall_and] using ⟨condBelow, thenBelow, elseBelow e rfl⟩
  rw [if_neg conditional]
  by_cases branch : head = "br" ∨ head = "br_if"
  · rw [if_pos branch]
    refine Ensures.bind ?_
    rintro ⟨target, r2, h2⟩ -
    refine Ensures.bind ?_
    rintro ⟨ops, r3, h3⟩ read
    have below := children r2 (by omega) _ read
    exact Ensures.pure (by split <;> simpa [SlotsBelow, Instr.slots] using below)
  rw [if_neg branch]
  by_cases table : head = "br_table"
  · rw [if_pos table]
    refine Ensures.bind ?_
    rintro ⟨⟨ops, targets⟩, r2, h2⟩ read
    have below := tableArgs r1 h1 _ read
    dsimp only at below ⊢
    split
    · exact Ensures.throw
    · exact Ensures.throw
    · exact Ensures.pure (by simpa [SlotsBelow, Instr.slots] using below)
  rw [if_neg table]
  by_cases ret : head = "return"
  · rw [if_pos ret]
    refine Ensures.bind ?_
    rintro ⟨ops, r2, h2⟩ read
    exact Ensures.pure (by simpa [SlotsBelow, Instr.slots] using children r1 h1 _ read)
  rw [if_neg ret]
  by_cases trivial : head = "nop" ∨ head = "unreachable"
  · rw [if_pos trivial]
    exact Ensures.bind fun _ _ => Ensures.pure (by split <;> simp [SlotsBelow, Instr.slots])
  rw [if_neg trivial]
  by_cases select : head = "select"
  · rw [if_pos select]
    refine Ensures.bind ?_
    rintro ⟨r2, h2⟩ -
    refine Ensures.bind ?_
    rintro ⟨ops, r3, h3⟩ read
    have below := children r2 (by omega) _ read
    dsimp only
    split
    · exact Ensures.throw_bind
    · exact Ensures.pure (by simpa [SlotsBelow, Instr.slots] using below)
  rw [if_neg select]
  split
  · refine Ensures.bind ?_
    rintro ⟨body, r2, h2⟩ read
    exact Ensures.pure (by simpa [SlotsBelow, Instr.slots] using children r1 h1 _ read)
  · exact Ensures.bind fun _ _ => Ensures.pure (by simp [SlotsBelow, Instr.slots])

theorem flat_below (ts : List String)
    (flatBody : ∀ r : List String, r.length < ts.length →
      Ensures (R.flatBody r) fun res => SlotsBelow R.locals.slots res.1) :
    Ensures (R.flat ts) fun res => SlotsBelow R.locals.slots [res.1] := by
  rw [flat]
  refine Ensures.bind ?_
  rintro ⟨head, r1, h1⟩ -
  dsimp only
  split
  · exact Ensures.bind fun _ _ => Ensures.pure (by simp [SlotsBelow, Instr.slots])
  split
  · exact Ensures.pure (by simp [SlotsBelow, Instr.slots, Instr.slotsOpt])
  · exact Ensures.pure (by simp [SlotsBelow, Instr.slots, Instr.slotsOpt])
  by_cases access : head = "local.get" ∨ head = "local.set" ∨ head = "local.tee"
  · rw [if_pos access]
    refine Ensures.bind ?_
    rintro ⟨slot, r2, h2⟩ resolved
    have slotBelow := R.localRef_lt r1 _ resolved
    refine Ensures.pure ?_
    dsimp only at slotBelow ⊢
    split
    · simpa [SlotsBelow, Instr.slots] using slotBelow
    · split <;> simpa [SlotsBelow, Instr.slots, Instr.slotsOpt] using slotBelow
  rw [if_neg access]
  by_cases call : head = "call"
  · rw [if_pos call]
    exact Ensures.bind fun _ _ => Ensures.pure (by simp [SlotsBelow, Instr.slots, Instr.slotsList])
  rw [if_neg call]
  by_cases scope : head = "block" ∨ head = "loop"
  · rw [if_pos scope]
    rcases labelled : takeLabel r1 with ⟨label, r2, h2⟩
    dsimp only
    refine Ensures.bind ?_
    rintro ⟨r3, h3⟩ -
    refine Ensures.bind ?_
    rintro ⟨body, t, r4, h4⟩ read
    have below := flatBody r3 (by omega) _ read
    dsimp only
    split
    · exact Ensures.throw_bind
    · exact Ensures.pure (by split <;> simpa [SlotsBelow, Instr.slots] using below)
  rw [if_neg scope]
  by_cases conditional : head = "if"
  · rw [if_pos conditional]
    rcases labelled : takeLabel r1 with ⟨label, r2, h2⟩
    dsimp only
    refine Ensures.bind ?_
    rintro ⟨r3, h3⟩ -
    refine Ensures.bind ?_
    rintro ⟨thenBody, t, r4, h4⟩ read
    have thenBelow := flatBody r3 (by omega) _ read
    dsimp only
    split
    · refine Ensures.bind ?_
      rintro ⟨elseBody, t', r5, h5⟩ readElse
      have elseBelow := flatBody r4 (by dsimp only at h4; omega) _ readElse
      have below : SlotsBelow R.locals.slots [.ite label [] thenBody (some elseBody)] := by
        simpa [SlotsBelow, Instr.slots, Instr.slotsList, or_imp, forall_and] using ⟨thenBelow, elseBelow⟩
      dsimp only
      split
      · exact Ensures.throw_bind
      · exact Ensures.pure below
    · exact Ensures.pure (by simpa [SlotsBelow, Instr.slots, Instr.slotsList] using thenBelow)
  rw [if_neg conditional]
  by_cases branch : head = "br" ∨ head = "br_if"
  · rw [if_pos branch]
    exact Ensures.bind fun _ _ => Ensures.pure (by split <;> simp [SlotsBelow, Instr.slots, Instr.slotsList])
  rw [if_neg branch]
  by_cases table : head = "br_table"
  · rw [if_pos table]
    split
    · exact Ensures.throw
    · exact Ensures.pure (by simp [SlotsBelow, Instr.slots, Instr.slotsList])
  rw [if_neg table]
  by_cases ret : head = "return"
  · rw [if_pos ret]
    exact Ensures.pure (by simp [SlotsBelow, Instr.slots, Instr.slotsList])
  rw [if_neg ret]
  by_cases nop : head = "nop"
  · rw [if_pos nop]
    exact Ensures.pure (by simp [SlotsBelow, Instr.slots])
  rw [if_neg nop]
  by_cases unreachable : head = "unreachable"
  · rw [if_pos unreachable]
    exact Ensures.pure (by simp [SlotsBelow, Instr.slots])
  rw [if_neg unreachable]
  by_cases select : head = "select"
  · rw [if_pos select]
    exact Ensures.bind fun _ _ => Ensures.pure (by simp [SlotsBelow, Instr.slots, Instr.slotsList])
  rw [if_neg select]
  exact Ensures.pure (by simp [SlotsBelow, Instr.slots])

/-- A folded `if` closes with its arms made of what was read before: a then arm and an else arm
as read, or two or three operands split into condition and arms. -/
theorem ifArms_close_below (start : Nat) (rest : List String) (cond : List Instr)
    (thenBody elseBody : Option (List Instr)) (condBelow : SlotsBelow R.locals.slots cond)
    (thenBelow : ∀ t ∈ thenBody, SlotsBelow R.locals.slots t) (elseBelow : ∀ e ∈ elseBody, SlotsBelow R.locals.slots e) :
    Ensures (R.ifArms start (")" :: rest) cond thenBody elseBody) fun res => ArmsBelow R.locals.slots res.1 := by
  cases thenBody with
  | some t =>
    rw [ifArms.eq_2]
    exact Ensures.bind fun _ ran => by
      cases ran
      exact Ensures.pure ⟨condBelow, thenBelow t rfl, elseBelow⟩
  | none =>
    by_cases three : elseBody = none ∧ ∃ c b a, cond.reverse = [c, b, a]
    · obtain ⟨rfl, c, b, a, reversed⟩ := three
      have operands : cond = [a, b, c] := by simpa using congrArg List.reverse reversed
      rw [ifArms.eq_3 _ _ _ _ c b a reversed]
      subst operands
      exact Ensures.bind fun _ ran => by
        cases ran
        refine Ensures.pure ?_
        simp_all [ArmsBelow, SlotsBelow, Instr.slotsList, or_imp, forall_and]
    · by_cases two : ∃ a b, cond = [a, b]
      · obtain ⟨a, b, rfl⟩ := two
        rw [ifArms.eq_4 _ _ _ _ a b (fun _ _ _ _ reversed => by simp at reversed)]
        exact Ensures.bind fun _ ran => by
          cases ran
          refine Ensures.pure ?_
          simp_all [ArmsBelow, SlotsBelow, Instr.slotsList, or_imp, forall_and]
      · rw [ifArms.eq_5 _ _ _ _ _ (fun c b a none reversed => three ⟨none, c, b, a, reversed⟩)
          (fun a b operands => two ⟨a, b, operands⟩)]
        exact Ensures.throw_bind

variable (R) in
/-- Every instruction the reader returns uses only slots below the count of its table. The
induction follows the reader's own recursion; an `if` and a table branch carry the operands
read so far, which are below the count too. -/
theorem reader_slotsBelow :
    (∀ ts, Ensures (R.node ts) fun res => SlotsBelow R.locals.slots [res.1]) ∧
    (∀ ts, Ensures (R.flat ts) fun res => SlotsBelow R.locals.slots [res.1]) ∧
    (∀ ts, Ensures (R.flatBody ts) fun res => SlotsBelow R.locals.slots res.1) ∧
    (∀ ts, Ensures (R.instrs ts) fun res => SlotsBelow R.locals.slots res.1) ∧
    (∀ ts, Ensures (R.folded ts) fun res => SlotsBelow R.locals.slots [res.1]) ∧
    (∀ ts ops targets, SlotsBelow R.locals.slots ops →
      Ensures (R.tableArgs ts ops targets) fun res => SlotsBelow R.locals.slots res.1.1) ∧
    (∀ start ts cond thenBody elseBody, SlotsBelow R.locals.slots cond →
      (∀ t ∈ thenBody, SlotsBelow R.locals.slots t) → (∀ e ∈ elseBody, SlotsBelow R.locals.slots e) →
      Ensures (R.ifArms start ts cond thenBody elseBody) fun res => ArmsBelow R.locals.slots res.1) ∧
    (∀ start ts cond thenBody elseBody, SlotsBelow R.locals.slots cond →
      (∀ t ∈ thenBody, SlotsBelow R.locals.slots t) → (∀ e ∈ elseBody, SlotsBelow R.locals.slots e) →
      Ensures (R.ifArmsOther start ts cond thenBody elseBody) fun res => ArmsBelow R.locals.slots res.1) ∧
    (∀ ts, Ensures (R.children ts) fun res => SlotsBelow R.locals.slots res.1) := by
  refine BodyReader.node.mutual_induct R _ _ _ _ _ _ _ _ _ ?_ ?_ ?_ ?_ ?_ ?_ ?_ ?_ ?_ ?_ ?_ ?_ ?_ ?_ ?_ ?_ ?_ ?_ ?_
    ?_ ?_ ?_ ?_ ?_ ?_
  · rw [BodyReader.node.eq_1]
    exact Ensures.error
  · intro rest folded
    rw [BodyReader.node.eq_2]
    refine Ensures.bind ?_
    rintro ⟨n, r, h⟩ ran
    exact Ensures.pure (folded _ ran)
  · intro rest
    rw [BodyReader.node.eq_3]
    exact Ensures.error
  · intro t rest notOpen notClose flat
    rw [BodyReader.node.eq_4 _ _ _ notOpen notClose]
    exact flat
  · intro ts flatBody _
    exact flat_below ts fun r shorter => flatBody r shorter r (Nat.le_refl _) r (Nat.le_refl _)
  · intro ts instrs
    rw [BodyReader.flatBody.eq_1]
    refine Ensures.bind ?_
    rintro ⟨ns, t, r, h⟩ read
    have below := instrs _ read
    dsimp only
    split
    · split
      · exact Ensures.pure below
      · exact Ensures.throw
    · split
      · exact Ensures.pure below
      · exact Ensures.throw
    · exact Ensures.throw
    · exact Ensures.throw
  · intro ts t ended
    rw [BodyReader.instrs.eq_1, ended]
    exact Ensures.ok SlotsBelow.nil
  · intro ts going node instrs
    rw [BodyReader.instrs.eq_1, going]
    refine Ensures.bind ?_
    rintro ⟨n, r, h⟩ ran
    refine Ensures.bind ?_
    rintro ⟨ns, t, r', h'⟩ ranRest
    exact Ensures.pure (SlotsBelow.cons_iff.2 ⟨node _ ran, instrs r h _ ranRest⟩)
  · intro ts _ children _ ifArms tableArgs _
    exact folded_below ts children
      (fun r1 h1 r3 h3 => ifArms r1 h1 r3 h3 r3 (Nat.le_refl _) SlotsBelow.nil (by simp) (by simp))
      fun r shorter => tableArgs r shorter SlotsBelow.nil
  · intro ops targets _
    rw [BodyReader.tableArgs.eq_1]
    exact Ensures.error
  · intro ops targets rest below
    rw [BodyReader.tableArgs.eq_2]
    exact Ensures.ok below
  · intro ops targets rest folded tableArgs below
    rw [BodyReader.tableArgs.eq_3]
    refine Ensures.bind ?_
    rintro ⟨n, r, h⟩ ran
    refine Ensures.bind ?_
    rintro ⟨res, r', h'⟩ ranRest
    exact Ensures.pure (tableArgs n r h (SlotsBelow.append_iff.2 ⟨below, folded _ ran⟩) _ ranRest)
  · intro ops targets t rest notClose notOpen tableArgs below
    rw [BodyReader.tableArgs.eq_4 _ _ _ _ _ notClose notOpen]
    refine Ensures.bind ?_
    rintro ⟨res, r', h'⟩ ran
    exact Ensures.pure (tableArgs below _ ran)
  · intro start cond thenBody elseBody _ _ _
    rw [BodyReader.ifArms.eq_1]
    exact Ensures.error
  · intro start cond elseBody rest t condBelow thenBelow elseBelow
    exact ifArms_close_below start rest cond _ elseBody condBelow thenBelow elseBelow
  · intro start cond elseBody rest _ _ _ _ condBelow thenBelow elseBelow
    exact ifArms_close_below start rest cond _ elseBody condBelow thenBelow elseBelow
  · intro start cond elseBody rest _ _ _ _ condBelow thenBelow elseBelow
    exact ifArms_close_below start rest cond _ elseBody condBelow thenBelow elseBelow
  · intro start cond thenBody elseBody rest absent children ifArms condBelow _ elseBelow
    rw [BodyReader.ifArms.eq_6, if_pos absent]
    refine Ensures.bind ?_
    rintro ⟨body, r, h⟩ ran
    refine Ensures.bind ?_
    rintro ⟨res, r', h'⟩ ranRest
    exact Ensures.pure (ifArms body r h condBelow (by simpa using children _ ran) elseBelow _ ranRest)
  · intro start cond thenBody elseBody rest present other condBelow thenBelow elseBelow
    rw [BodyReader.ifArms.eq_6, if_neg present]
    exact other condBelow thenBelow elseBelow
  · intro start cond thenBody elseBody rest absent children ifArms condBelow thenBelow _
    rw [BodyReader.ifArms.eq_7, if_pos absent]
    refine Ensures.bind ?_
    rintro ⟨body, r, h⟩ ran
    refine Ensures.bind ?_
    rintro ⟨res, r', h'⟩ ranRest
    exact Ensures.pure (ifArms body r h condBelow thenBelow (by simpa using children _ ran) _ ranRest)
  · intro start cond thenBody elseBody rest present other condBelow thenBelow elseBelow
    rw [BodyReader.ifArms.eq_7, if_neg present]
    exact other condBelow thenBelow elseBelow
  · intro start cond thenBody elseBody t rest notClose notThen notElse other condBelow thenBelow elseBelow
    rw [BodyReader.ifArms.eq_8 _ _ _ _ _ _ _ notClose notThen notElse]
    exact other condBelow thenBelow elseBelow
  · intro start ts cond thenBody elseBody present _ _ _
    rw [BodyReader.ifArmsOther.eq_1, if_pos present]
    exact Ensures.error
  · intro start ts cond thenBody elseBody absent node ifArms condBelow thenBelow elseBelow
    rw [BodyReader.ifArmsOther.eq_1, if_neg absent]
    refine Ensures.bind ?_
    rintro ⟨n, r, h⟩ ran
    refine Ensures.bind ?_
    rintro ⟨res, r', h'⟩ ranRest
    exact Ensures.pure
      (ifArms n r h (SlotsBelow.append_iff.2 ⟨condBelow, node _ ran⟩) thenBelow elseBelow _ ranRest)
  · intro ts instrs
    rw [BodyReader.children.eq_1]
    refine Ensures.bind ?_
    rintro ⟨ns, t, r, h⟩ read
    have below := instrs _ read
    dsimp only
    split
    · split
      · exact Ensures.pure below
      · exact Ensures.throw
    · exact Ensures.throw
    · exact Ensures.throw
    · exact Ensures.throw

theorem functionBody_slotsBelow (ts : List String) :
    Ensures (R.functionBody ts) fun res => SlotsBelow R.locals.slots res.1 := by
  unfold functionBody
  refine Ensures.bind ?_
  rintro ⟨ns, t, r⟩ read
  have below := (reader_slotsBelow R).2.2.2.1 ts _ read
  dsimp only
  split
  · exact Ensures.pure below
  · exact Ensures.pure below
  · exact Ensures.throw

end BodyReader

theorem SlotsBelow.mono {bound bound' : Nat} {is : List Instr} (below : SlotsBelow bound is) (le : bound ≤ bound') :
    SlotsBelow bound' is :=
  fun s mem => Nat.lt_of_lt_of_le (below s mem) le

/-- Every local slot in a body read over a number of anonymous slots is below that number. -/
theorem parseBody_slotsBelow (text : String) (slots : Nat) : Ensures (parseBody text slots) (SlotsBelow slots) := by
  unfold parseBody
  refine Ensures.bind ?_
  rintro ⟨body, rest⟩ read
  have below := BodyReader.functionBody_slotsBelow _ _ read
  dsimp only
  split
  · exact Ensures.pure below
  · exact Ensures.throw

/-- Every local slot in the body of a read function is below its count of parameters and
locals, taken as a 32-bit word. -/
theorem parseFunction_slotsBelow_wrapped (text : String) (index : Nat) (sig : Option Signature) :
    Ensures (parseFunction text index sig) fun f =>
      SlotsBelow ((f.paramCount + f.localCount) % Nat.pow 2 32) f.body := by
  unfold parseFunction
  extract_lets tokens R named opened
  suffices reads : ∀ afterFunc, Ensures (named afterFunc)
      fun f => SlotsBelow ((f.paramCount + f.localCount) % Nat.pow 2 32) f.body by
    clear_value tokens R named
    have keyword : ∀ afterOpen, Ensures (opened afterOpen)
        fun f => SlotsBelow ((f.paramCount + f.localCount) % Nat.pow 2 32) f.body := by
      intro afterOpen
      dsimp only [opened]
      split
      · exact Ensures.bind fun afterFunc _ => reads afterFunc
      · exact Ensures.throw_bind
    clear_value opened
    split
    · exact Ensures.bind fun afterOpen _ => keyword afterOpen
    · exact Ensures.throw_bind
  intro afterFunc
  dsimp only [named]
  rcases labelled : BodyReader.takeLabel afterFunc with ⟨name, afterName, _⟩
  dsimp only
  refine Ensures.bind ?_
  rintro ⟨h, afterHeader, _⟩ -
  cases sig <;> dsimp only
  all_goals
    refine Ensures.bind ?_
    rintro ⟨body, afterBody, _⟩ read
    have below := BodyReader.functionBody_slotsBelow afterHeader _ read
    refine Ensures.bind fun _ _ => ?_
    split
    · exact Ensures.pure below
    · exact Ensures.throw_bind

/-- Every local slot in the body of a read function names one of its parameters or locals. -/
theorem parseFunction_slotsBelow (text : String) (index : Nat) (sig : Option Signature) :
    Ensures (parseFunction text index sig) fun f => SlotsBelow (f.paramCount + f.localCount) f.body :=
  (parseFunction_slotsBelow_wrapped text index sig).mono fun _ below => below.mono (Nat.mod_le _ _)

theorem FunctionSource.read_slotsBelow (f : FunctionSource) :
    Ensures f.read fun g => SlotsBelow (g.paramCount + g.localCount) g.body := by
  unfold FunctionSource.read
  cases parsed : parseFunction f.text f.index f.signature with
  | ok g => exact Ensures.ok (parseFunction_slotsBelow _ _ _ g parsed)
  | error e => exact Ensures.error

/-- Every local slot in the body of every function of a read module names one of the function's
parameters or locals. -/
theorem ModuleSource.read_slotsBelow (src : ModuleSource) :
    Ensures src.read fun m => ∀ f ∈ m.functions, SlotsBelow (f.paramCount + f.localCount) f.body := by
  unfold ModuleSource.read
  exact Ensures.bind fun functions read => Ensures.pure
    (Ensures.mapM (fun f _ => f.read_slotsBelow) functions read)

end WasmBoogie
