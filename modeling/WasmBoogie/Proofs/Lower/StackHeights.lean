import WasmBoogie.Proofs.Boogie.Steps
import WasmBoogie.Proofs.Boogie.Jumps
import WasmBoogie.Lower.Prelude

namespace WasmBoogie.Lower

open Boogie Boogie.Stmt

/-- The stack pointer stands at `n`, and the modeled stack is a map. -/
def StackAt (s : Store) (n : Int) : Prop :=
  s.globals spVar = .int n ∧ ∃ g, s.globals stackVar = .map g

section Typing

variable (p : Program) (F : Store → Prop)

/-- A statement moves the pointer from `h` to `h'`: every run of it from a store that keeps the
frame, with the pointer at `h`, falls through, keeps the frame and leaves the pointer at `h'`. A
statement with no run moves it anywhere. -/
def Moves (st : Stmt) (h h' : Int) : Prop :=
  ∀ {s s' o}, F s → StackAt s h → StmtExec p s st s' o → o = .next ∧ F s' ∧ StackAt s' h'

mutual

/-- `StmtHeights p F H st h h'`: run with the pointer at `h`, the statement falls through with it
at `h'`, or jumps to a label `l` with it at `H l`. -/
inductive StmtHeights (H : String → Int) : Stmt → Int → Int → Prop
  | step {st h h'} : Moves p F st h h' → st.labelName? = none → StmtHeights H st h h'
  | label {l h} : H l = h → StmtHeights H (.label l) h h
  | goto {labels h h'} : (∀ l ∈ labels, H l = h) → StmtHeights H (.goto labels) h h'
  | ite {c thenArm elseArm h h'} : Heights H thenArm h h' → Heights H elseArm h h' →
      StmtHeights H (.ite c thenArm (some elseArm)) h h'
  | iteNoElse {c thenArm h} : Heights H thenArm h h → StmtHeights H (.ite c thenArm none) h h

/-- A statement list typed statement by statement, each from where the one before falls
through. -/
inductive Heights (H : String → Int) : List Stmt → Int → Int → Prop
  | nil {h} : Heights H [] h h
  | cons {st rest h h₁ h'} : StmtHeights H st h h₁ → Heights H rest h₁ h' → Heights H (st :: rest) h h'

end

/-- Where a run may end: falling through with the pointer at `h'`, or at a jump to a label `l`
with it at `H l`, in a store that keeps the frame; never at a failed assertion. -/
def LandsAt (H : String → Int) (h' : Int) (s' : Store) : Outcome → Prop
  | .next => F s' ∧ StackAt s' h'
  | .goto l => F s' ∧ StackAt s' (H l)
  | .wrong => False

end Typing

section Lists

variable {p : Program} {F : Store → Prop} {H : String → Int}

theorem Heights.singleton {st : Stmt} {h h' : Int} (typed : StmtHeights p F H st h h') :
    Heights p F H [st] h h' :=
  .cons typed .nil

theorem Heights.append {xs ys : List Stmt} {h h₁ h' : Int} (first : Heights p F H xs h h₁)
    (second : Heights p F H ys h₁ h') : Heights p F H (xs ++ ys) h h' := by
  induction xs generalizing h with
  | nil =>
    cases first
    exact second
  | cons st rest ih =>
    cases first with
    | cons head tail => exact .cons head (ih tail)

/-- The statements after a label run from the label's height. -/
theorem Heights.after_label {ss k : List Stmt} {h h' : Int} {l : String} (typed : Heights p F H ss h h')
    (found : afterLabel l ss = some k) : Heights p F H k (H l) h' := by
  induction ss generalizing h with
  | nil => cases found
  | cons st rest ih =>
    cases typed with
    | cons head tail =>
    cases st with
    | label m =>
      simp only [afterLabel] at found
      split at found
      · rename_i same
        subst same
        cases found
        cases head with
        | step _ plain => cases plain
        | label height => exact height ▸ tail
      · exact ih tail found
    | _ => exact ih tail found

end Lists

section Soundness

variable {p : Program} {F : Store → Prop} {H : String → Int}

mutual

/-- A typed statement ends where its typing says. -/
theorem StmtHeights.sound :
    ∀ {s st s' o} {h h' : Int}, StmtExec p s st s' o → StmtHeights p F H st h h' → F s → StackAt s h →
      LandsAt F H h' s' o
  | _, _, _, _, _, _, run, .step moves _, frame, height => by
    obtain ⟨rfl, framed, moved⟩ := moves frame height run
    exact ⟨framed, moved⟩
  | _, _, _, _, _, _, run, .label named, frame, height => by
    obtain ⟨rfl, rfl⟩ := StmtExec.label_iff.1 run
    exact ⟨frame, height⟩
  | _, _, _, _, _, _, run, .goto heights, frame, height => by
    obtain ⟨rfl, l, named, rfl⟩ := StmtExec.goto_iff.1 run
    exact ⟨frame, heights l named ▸ height⟩
  | _, _, _, _, _, _, .iteTrue _ arm, .ite thenTyped _, frame, height =>
    Heights.sound arm thenTyped (fun _ _ => thenTyped.after_label) frame height
  | _, _, _, _, _, _, .iteFalse _ arm, .ite _ elseTyped, frame, height =>
    Heights.sound arm elseTyped (fun _ _ => elseTyped.after_label) frame height
  | _, _, _, _, _, _, .iteTrue _ arm, .iteNoElse thenTyped, frame, height =>
    Heights.sound arm thenTyped (fun _ _ => thenTyped.after_label) frame height
  | _, _, _, _, _, _, .iteSkip _, .iteNoElse _, frame, height => ⟨frame, height⟩

/-- A typed list, in a body whose labels are typed by their heights, ends where its typing
says: a jump within the body carries the pointer to the label's height, and the run goes on from
there. -/
theorem Heights.sound :
    ∀ {body ss s s' o} {h h' : Int}, Exec p body ss s s' o → Heights p F H ss h h' →
      (∀ l k, afterLabel l body = some k → Heights p F H k (H l) h') → F s → StackAt s h →
      LandsAt F H h' s' o
  | _, _, _, _, _, _, _, .nil, .nil, _, frame, height => ⟨frame, height⟩
  | _, _, _, _, _, _, _, .next step rest, .cons head tail, labels, frame, height => by
    obtain ⟨framed, moved⟩ := StmtHeights.sound step head frame height
    exact Heights.sound rest tail labels framed moved
  | _, _, _, _, _, _, _, .jump step found rest, .cons head _, labels, frame, height => by
    obtain ⟨framed, moved⟩ := StmtHeights.sound step head frame height
    exact Heights.sound rest (labels _ _ found) labels framed moved
  | _, _, _, _, _, _, _, .escape step _, .cons head _, _, frame, height => by
    obtain ⟨framed, moved⟩ := StmtHeights.sound step head frame height
    exact ⟨framed, moved⟩
  | _, _, _, _, _, _, _, .wrong step, .cons head _, _, frame, height =>
    (StmtHeights.sound step head frame height).elim

end

end Soundness

section Landing

variable {p : Program}

/-- A list has no statements after a label exactly when it does not place the label itself. -/
theorem afterLabel_eq_none_iff {l : String} {ss : List Stmt} : afterLabel l ss = none ↔ l ∉ ownLabels ss := by
  induction ss with
  | nil => simp [afterLabel]
  | cons st rest ih =>
    cases st with
    | label m =>
      by_cases same : m = l
      · simp [afterLabel, same, labelName?]
      · simp [afterLabel, same, ih, labelName?, Ne.symm same]
    | _ => simpa [afterLabel, labelName?] using ih

/-- The statements after a label keep their jumps within the visible labels. -/
theorem jumpsWithinList_after_label {visible : List String} {l : String} {ss k : List Stmt}
    (within : JumpsWithinList visible ss) (found : afterLabel l ss = some k) : JumpsWithinList visible k := by
  induction ss with
  | nil => cases found
  | cons st rest ih =>
    cases st with
    | label m =>
      simp only [afterLabel] at found
      split at found
      · cases found
        exact within.2
      · exact ih within.2 found
    | _ => exact ih within.2 found

mutual

/-- A statement whose jumps go to visible labels ends in a jump only to a visible label. -/
theorem StmtExec.jump_visible :
    ∀ {visible : List String} {s st s' o}, StmtExec p s st s' o → JumpsWithin visible st →
      ∀ l, o = .goto l → l ∈ visible
  | _, _, _, _, _, .goto named, within, _, rfl => within _ named
  | visible, _, .ite _ thenArm _, _, _, .iteTrue _ arm, within, l, jumped => by
    obtain ⟨seen, unplaced⟩ := Exec.jump_visible arm within.1
      (fun _ _ found => jumpsWithinList_after_label within.1 found) l jumped
    rcases List.mem_append.1 seen with outside | own
    · exact outside
    · exact absurd own (afterLabel_eq_none_iff.1 unplaced)
  | visible, _, .ite _ _ (some elseArm), _, _, .iteFalse _ arm, within, l, jumped => by
    obtain ⟨seen, unplaced⟩ := Exec.jump_visible arm within.2
      (fun _ _ found => jumpsWithinList_after_label within.2 found) l jumped
    rcases List.mem_append.1 seen with outside | own
    · exact outside
    · exact absurd own (afterLabel_eq_none_iff.1 unplaced)
  | _, _, _, _, _, .assign _, _, _, jumped | _, _, _, _, _, .assignAt _ _ _, _, _, jumped
  | _, _, _, _, _, .havoc _, _, _, jumped | _, _, _, _, _, .assume _, _, _, jumped
  | _, _, _, _, _, .assertHolds _, _, _, jumped | _, _, _, _, _, .assertFails _, _, _, jumped
  | _, _, _, _, _, .label, _, _, jumped | _, _, _, _, _, .comment, _, _, jumped
  | _, _, _, _, _, .iteSkip _, _, _, jumped
  | _, _, _, _, _, .callInline _ _ _ _ _ _ _ _ _, _, _, jumped
  | _, _, _, _, _, .callInlineWrong _ _ _ _ _ _ _ _, _, _, jumped
  | _, _, _, _, _, .callContract _ _ _ _ _ _ _ _ _, _, _, jumped => nomatch jumped

/-- A list whose jumps, and those of the statements after each label of its body, go to visible
labels ends in a jump only to a visible label that the body does not place. -/
theorem Exec.jump_visible :
    ∀ {visible : List String} {body ss s s' o}, Exec p body ss s s' o → JumpsWithinList visible ss →
      (∀ l k, afterLabel l body = some k → JumpsWithinList visible k) →
      ∀ l, o = .goto l → l ∈ visible ∧ afterLabel l body = none
  | _, _, _, _, _, _, .nil, _, _, _, jumped => nomatch jumped
  | _, _, _, _, _, _, .next _ rest, within, labels, l, jumped => Exec.jump_visible rest within.2 labels l jumped
  | _, _, _, _, _, _, .jump _ found rest, _, labels, l, jumped =>
    Exec.jump_visible rest (labels _ _ found) labels l jumped
  | _, _, _, _, _, _, .escape step unplaced, within, _, l, jumped => by
    cases jumped
    exact ⟨StmtExec.jump_visible step within.1 _ rfl, unplaced⟩
  | _, _, _, _, _, _, .wrong _, _, _, _, jumped => nomatch jumped

end

/-- A run of a body whose every jump goes to a label placed in its own list or in a list around it
never ends in a jump. -/
theorem Exec.never_escapes {body : List Stmt} {s s' : Store} {o : Outcome}
    (run : Exec p body body s s' o) (within : JumpsWithinList (ownLabels body) body) (l : String) :
    o ≠ .goto l := by
  intro jumped
  obtain ⟨placed, unplaced⟩ :=
    Exec.jump_visible run within (fun _ _ found => jumpsWithinList_after_label within found) l jumped
  exact afterLabel_eq_none_iff.1 unplaced placed

end Landing

end WasmBoogie.Lower
