import WasmBoogie.Instr.Scan

namespace WasmBoogie

/-- The marked ordinals of one kind of scope: loop starts for loops, ends for the others. -/
def LabelNeeds.of (needs : LabelNeeds) (isLoop : Bool) : List Nat :=
  if isLoop then needs.loopStarts else needs.blockEnds

namespace ScanState

/-- Whether the scan has marked an open scope as a branch target. -/
def marked (st : ScanState) (s : OpenScope) : Bool :=
  (st.needs.of s.isLoop).contains s.ordinal

end ScanState

theorem mem_insertOnce {o n : Nat} {xs : List Nat} : o ∈ insertOnce n xs ↔ o = n ∨ o ∈ xs := by
  unfold insertOnce
  split
  · rename_i present
    constructor
    · exact .inr
    · rintro (rfl | mem)
      · exact List.contains_iff_mem.1 present
      · exact mem
  · simp only [List.mem_append, List.mem_singleton]
    exact Or.comm

theorem resolveScope_mem {opened : List OpenScope} {target : LabelRef} {s : OpenScope}
    (found : resolveScope opened target = some s) : s ∈ opened := by
  cases target with
  | depth d => exact List.mem_of_getElem? found
  | name n => exact List.mem_of_find?_eq_some found

/-- A mark adds the ordinal of the scope the target resolves to, under that scope's kind. -/
theorem mem_mark_of {opened : List OpenScope} {target : LabelRef} {st : ScanState} {b : Bool} {o : Nat} :
    o ∈ (st.mark opened target).needs.of b ↔
      o ∈ st.needs.of b ∨ ∃ s, resolveScope opened target = some s ∧ s.isLoop = b ∧ o = s.ordinal := by
  unfold ScanState.mark
  cases found : resolveScope opened target with
  | none => simp
  | some s =>
    cases loop : s.isLoop <;> cases b <;> simp [LabelNeeds.of, loop, mem_insertOnce, or_comm]

@[simp] theorem ScanState.mark_next (opened : List OpenScope) (target : LabelRef) (st : ScanState) :
    (st.mark opened target).next = st.next := by
  unfold ScanState.mark
  split
  · split <;> rfl
  · rfl

/-- What scanning more instructions under the open scopes `opened` does: the ordinal count only
grows, marks are only added, and every new mark is of an open scope or of a scope opened
meanwhile. -/
structure ScanGrows (opened : List OpenScope) (st st' : ScanState) : Prop where
  next_le : st.next ≤ st'.next
  keeps : ∀ b, ∀ o ∈ st.needs.of b, o ∈ st'.needs.of b
  fresh : ∀ b, ∀ o ∈ st'.needs.of b,
    o ∈ st.needs.of b ∨ (∃ s ∈ opened, s.ordinal = o) ∨ (st.next ≤ o ∧ o < st'.next)

namespace ScanGrows

variable {opened : List OpenScope} {st st₁ st₂ : ScanState}

theorem refl (opened : List OpenScope) (st : ScanState) : ScanGrows opened st st :=
  ⟨Nat.le_refl _, fun _ _ mem => mem, fun _ _ mem => .inl mem⟩

theorem trans (first : ScanGrows opened st st₁) (second : ScanGrows opened st₁ st₂) :
    ScanGrows opened st st₂ where
  next_le := Nat.le_trans first.next_le second.next_le
  keeps b o mem := second.keeps b o (first.keeps b o mem)
  fresh b o mem := by
    rcases second.fresh b o mem with old | inside | between
    · rcases first.fresh b o old with older | inside | between
      · exact .inl older
      · exact .inr (.inl inside)
      · exact .inr (.inr ⟨between.1, Nat.lt_of_lt_of_le between.2 second.next_le⟩)
    · exact .inr (.inl inside)
    · exact .inr (.inr ⟨Nat.le_trans first.next_le between.1, between.2⟩)

/-- A scope that opens at the scan's count and is scanned inside. -/
theorem enter (isLoop : Bool) (label : Option String)
    (inside : ScanGrows (⟨st.next, label, isLoop⟩ :: opened) { st with next := st.next + 1 } st₂) :
    ScanGrows opened st st₂ where
  next_le := Nat.le_of_succ_le inside.next_le
  keeps := inside.keeps
  fresh b o mem := by
    rcases inside.fresh b o mem with old | ⟨s, opens, same⟩ | between
    · exact .inl old
    · rcases List.mem_cons.1 opens with rfl | outer
      · exact .inr (.inr ⟨Nat.le_of_eq same, same ▸ inside.next_le⟩)
      · exact .inr (.inl ⟨s, outer, same⟩)
    · exact .inr (.inr ⟨Nat.le_of_succ_le between.1, between.2⟩)

theorem mark (opened : List OpenScope) (target : LabelRef) (st : ScanState) :
    ScanGrows opened st (st.mark opened target) where
  next_le := Nat.le_of_eq (ScanState.mark_next opened target st).symm
  keeps _ _ mem := mem_mark_of.2 (.inl mem)
  fresh _ _ mem := by
    rcases mem_mark_of.1 mem with old | ⟨s, found, -, same⟩
    · exact .inl old
    · exact .inr (.inl ⟨s, resolveScope_mem found, same.symm⟩)

theorem marks (opened : List OpenScope) (targets : List LabelRef) (st : ScanState) :
    ScanGrows opened st (targets.foldl (fun st t => st.mark opened t) st) := by
  induction targets generalizing st with
  | nil => exact refl opened st
  | cons t rest ih => exact (mark opened t st).trans (ih _)

/-- A scope that is closed, with an ordinal below the count and not open, keeps its marks. -/
theorem closed_iff (grows : ScanGrows opened st st₂) {o : Nat} (below : o < st.next)
    (closed : ∀ s ∈ opened, s.ordinal ≠ o) (b : Bool) : o ∈ st₂.needs.of b ↔ o ∈ st.needs.of b := by
  refine ⟨fun mem => ?_, grows.keeps b o⟩
  rcases grows.fresh b o mem with old | ⟨s, opens, same⟩ | between
  · exact old
  · exact absurd same (closed s opens)
  · omega

/-- A scope marked before is marked after. -/
theorem marked (grows : ScanGrows opened st st₂) {s : OpenScope} (found : st.marked s = true) :
    st₂.marked s = true := by
  unfold ScanState.marked at *
  exact List.contains_iff_mem.2 (grows.keeps _ _ (List.contains_iff_mem.1 found))

end ScanGrows

/-- The marks of a scan state are among the given needs. -/
def ScanState.MarksWithin (st : ScanState) (needs : LabelNeeds) : Prop :=
  ∀ b, ∀ o ∈ st.needs.of b, o ∈ needs.of b

/-- Marks found by the end of a scan were found by any point before. -/
theorem ScanGrows.marksWithin {opened : List OpenScope} {st st₂ : ScanState} {needs : LabelNeeds}
    (grows : ScanGrows opened st st₂) (within : st₂.MarksWithin needs) : st.MarksWithin needs :=
  fun b o mem => within b o (grows.keeps b o mem)

/-- The needs agree with a scan state on the scopes closed there: an ordinal the scan has passed
that is not open is marked in the needs only if the scan has marked it. The needs of a whole body
are settled at every point of its scan, since a scope that has closed is never marked again. -/
def ScanState.Settled (st : ScanState) (opened : List OpenScope) (needs : LabelNeeds) : Prop :=
  ∀ b, ∀ o ∈ needs.of b, o < st.next → (∀ s ∈ opened, s.ordinal ≠ o) → o ∈ st.needs.of b

/-- Needs settled at the end of a scan are settled at any point before, under the same scopes. -/
theorem ScanGrows.settled {opened : List OpenScope} {st st₂ : ScanState} {needs : LabelNeeds}
    (grows : ScanGrows opened st st₂) (settled : st₂.Settled opened needs) : st.Settled opened needs :=
  fun b o need below closed =>
    (grows.closed_iff below closed b).1 (settled b o need (Nat.lt_of_lt_of_le below grows.next_le) closed)

/-- A scope closed under more open scopes is closed under fewer. -/
theorem ScanState.Settled.inner {opened : List OpenScope} {st : ScanState} {needs : LabelNeeds}
    (settled : st.Settled opened needs) (s : OpenScope) : st.Settled (s :: opened) needs :=
  fun b o need below closed => settled b o need below fun t mem => closed t (List.mem_cons_of_mem _ mem)

namespace Instr

mutual

/-- Scanning an instruction only adds marks, of the open scopes or of scopes it opens. -/
theorem scanNeeds_grows : ∀ (opened : List OpenScope) (i : Instr) (st : ScanState),
    ScanGrows opened st (scanNeeds opened i st)
  | opened, .localSet _ value, st | opened, .localTee _ value, st | opened, .unary _ value, st => by
    cases value with
    | none => exact ScanGrows.refl opened st
    | some i => exact scanNeeds_grows opened i st
  | opened, .binary _ left right, st => by
    cases left <;> cases right
    case none.none => exact ScanGrows.refl opened st
    case none.some r => exact scanNeeds_grows opened r st
    case some.none l => exact scanNeeds_grows opened l st
    case some.some l r => exact (scanNeeds_grows opened l st).trans (scanNeeds_grows opened r _)
  | opened, .call _ ops, st | opened, .select ops, st | opened, .ret ops, st
  | opened, .structural _ ops, st => scanNeedsList_grows opened ops st
  | opened, .block label body, st =>
    ScanGrows.enter false label (scanNeedsList_grows _ body { st with next := st.next + 1 })
  | opened, .loop label body, st =>
    ScanGrows.enter true label (scanNeedsList_grows _ body { st with next := st.next + 1 })
  | opened, .ite label cond thenBody elseBody, st => by
    have afterCond := scanNeedsList_grows opened cond st
    have inThen := scanNeedsList_grows (⟨(scanNeedsList opened cond st).next, label, false⟩ :: opened) thenBody
      { scanNeedsList opened cond st with next := (scanNeedsList opened cond st).next + 1 }
    cases elseBody with
    | none => exact afterCond.trans (ScanGrows.enter false label inThen)
    | some b =>
      exact afterCond.trans (ScanGrows.enter false label (inThen.trans (scanNeedsList_grows _ b _)))
  | opened, .br target ops, st | opened, .brIf target ops, st =>
    (scanNeedsList_grows opened ops st).trans (ScanGrows.mark opened target _)
  | opened, .brTable ops targets default, st =>
    (scanNeedsList_grows opened ops st).trans (ScanGrows.marks opened (targets ++ [default]) _)
  | opened, .const .., st | opened, .localGet _, st | opened, .nop, st | opened, .unreachable, st
  | opened, .raw _, st => ScanGrows.refl opened st

theorem scanNeedsList_grows : ∀ (opened : List OpenScope) (is : List Instr) (st : ScanState),
    ScanGrows opened st (scanNeedsList opened is st)
  | opened, [], st => ScanGrows.refl opened st
  | opened, i :: rest, st => (scanNeeds_grows opened i st).trans (scanNeedsList_grows opened rest _)

end

end Instr

end WasmBoogie
