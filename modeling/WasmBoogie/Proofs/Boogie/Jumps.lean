import Mathlib.Data.List.Nodup
import WasmBoogie.Boogie.Syntax

namespace WasmBoogie.Boogie

namespace Stmt

/-- The label a statement places directly, if it is a label. -/
def labelName? : Stmt → Option String
  | .label name => some name
  | _ => none

/-- The labels placed directly in a statement list, not inside its conditionals. -/
def ownLabels (ss : List Stmt) : List String := ss.filterMap labelName?

mutual

/-- The labels a statement places, also inside the arms of a conditional. -/
def labelDefs : Stmt → List String
  | .label name => [name]
  | .ite _ thenBranch elseBranch => labelDefsList thenBranch ++ labelDefsOpt elseBranch
  | _ => []

/-- The labels an optional arm places. -/
def labelDefsOpt : Option (List Stmt) → List String
  | some ss => labelDefsList ss
  | none => []

/-- The labels a statement list places, at any depth. -/
def labelDefsList : List Stmt → List String
  | [] => []
  | s :: rest => labelDefs s ++ labelDefsList rest

end

mutual

/-- The labels a statement jumps to, also inside the arms of a conditional. -/
def labelRefs : Stmt → List String
  | .goto labels => labels
  | .ite _ thenBranch elseBranch => labelRefsList thenBranch ++ labelRefsOpt elseBranch
  | _ => []

/-- The labels an optional arm jumps to. -/
def labelRefsOpt : Option (List Stmt) → List String
  | some ss => labelRefsList ss
  | none => []

/-- The labels a statement list jumps to, at any depth. -/
def labelRefsList : List Stmt → List String
  | [] => []
  | s :: rest => labelRefs s ++ labelRefsList rest

end

mutual

/-- Every jump of a statement goes to a visible label. An arm of a conditional sees the labels
visible at the conditional and the labels placed directly in the arm. -/
def JumpsWithin (visible : List String) : Stmt → Prop
  | .goto labels => ∀ l ∈ labels, l ∈ visible
  | .ite _ thenBranch elseBranch =>
    JumpsWithinList (visible ++ ownLabels thenBranch) thenBranch ∧ JumpsWithinOpt visible elseBranch
  | _ => True

/-- Every jump of an optional arm goes to a label visible at its conditional or placed in it. -/
def JumpsWithinOpt (visible : List String) : Option (List Stmt) → Prop
  | some ss => JumpsWithinList (visible ++ ownLabels ss) ss
  | none => True

/-- Every jump of a statement list goes to a visible label. -/
def JumpsWithinList (visible : List String) : List Stmt → Prop
  | [] => True
  | s :: rest => JumpsWithin visible s ∧ JumpsWithinList visible rest

end

@[simp] theorem ownLabels_nil : ownLabels [] = [] := rfl

@[simp] theorem ownLabels_append (xs ys : List Stmt) : ownLabels (xs ++ ys) = ownLabels xs ++ ownLabels ys :=
  List.filterMap_append

@[simp] theorem ownLabels_cons (s : Stmt) (rest : List Stmt) :
    ownLabels (s :: rest) = s.labelName?.toList ++ ownLabels rest := by
  cases s <;> rfl

@[simp] theorem labelDefsList_append (xs ys : List Stmt) :
    labelDefsList (xs ++ ys) = labelDefsList xs ++ labelDefsList ys := by
  induction xs with
  | nil => rfl
  | cons s rest ih => simp only [List.cons_append, labelDefsList, ih, List.append_assoc]

@[simp] theorem labelRefsList_append (xs ys : List Stmt) :
    labelRefsList (xs ++ ys) = labelRefsList xs ++ labelRefsList ys := by
  induction xs with
  | nil => rfl
  | cons s rest ih => simp only [List.cons_append, labelRefsList, ih, List.append_assoc]

@[simp] theorem jumpsWithinList_append (visible : List String) (xs ys : List Stmt) :
    JumpsWithinList visible (xs ++ ys) ↔ JumpsWithinList visible xs ∧ JumpsWithinList visible ys := by
  induction xs with
  | nil => simp [JumpsWithinList]
  | cons s rest ih => simp only [List.cons_append, JumpsWithinList, ih, and_assoc]

/-- The labels placed directly in a list are among all its labels. -/
theorem ownLabels_subset_labelDefsList : ∀ (ss : List Stmt), ∀ l ∈ ownLabels ss, l ∈ labelDefsList ss
  | [], _, h => nomatch h
  | s :: rest, l, h => by
    rw [ownLabels_cons, List.mem_append] at h
    rw [labelDefsList, List.mem_append]
    rcases h with direct | later
    · left
      cases s <;> simp_all [labelName?, labelDefs]
    · exact .inr (ownLabels_subset_labelDefsList rest l later)

mutual

/-- Seeing more labels keeps every jump within the visible ones. -/
theorem JumpsWithin.mono {visible wider : List String} (sub : ∀ l ∈ visible, l ∈ wider) :
    ∀ (s : Stmt), JumpsWithin visible s → JumpsWithin wider s
  | .goto _, h => fun l mem => sub l (h l mem)
  | .ite _ thenBranch elseBranch, ⟨inThen, inElse⟩ =>
    ⟨JumpsWithinList.mono (fun l mem => by
        rcases List.mem_append.1 mem with outer | own
        · exact List.mem_append_left _ (sub l outer)
        · exact List.mem_append_right _ own) thenBranch inThen,
      JumpsWithinOpt.mono sub elseBranch inElse⟩
  | .assign .., h | .call .., h | .havoc _, h | .assume _, h | .assert _, h | .label _, h
  | .comment _, h => h

theorem JumpsWithinOpt.mono {visible wider : List String} (sub : ∀ l ∈ visible, l ∈ wider) :
    ∀ (arm : Option (List Stmt)), JumpsWithinOpt visible arm → JumpsWithinOpt wider arm
  | some ss, h => JumpsWithinList.mono (fun l mem => by
      rcases List.mem_append.1 mem with outer | own
      · exact List.mem_append_left _ (sub l outer)
      · exact List.mem_append_right _ own) ss h
  | none, h => h

theorem JumpsWithinList.mono {visible wider : List String} (sub : ∀ l ∈ visible, l ∈ wider) :
    ∀ (ss : List Stmt), JumpsWithinList visible ss → JumpsWithinList wider ss
  | [], h => h
  | s :: rest, ⟨first, later⟩ => ⟨JumpsWithin.mono sub s first, JumpsWithinList.mono sub rest later⟩

end

mutual

/-- A jump within the visible labels goes to a visible label or to one the statement places. -/
theorem JumpsWithin.ref_mem {visible : List String} :
    ∀ (s : Stmt), JumpsWithin visible s → ∀ l ∈ labelRefs s, l ∈ visible ∨ l ∈ labelDefs s
  | .goto _, h, l, mem => .inl (h l mem)
  | .ite _ thenBranch elseBranch, ⟨inThen, inElse⟩, l, mem => by
    rw [labelRefs, List.mem_append] at mem
    rw [labelDefs, List.mem_append]
    rcases mem with fromThen | fromElse
    · rcases JumpsWithinList.ref_mem thenBranch inThen l fromThen with seen | placed
      · rcases List.mem_append.1 seen with outer | own
        · exact .inl outer
        · exact .inr (.inl (ownLabels_subset_labelDefsList thenBranch l own))
      · exact .inr (.inl placed)
    · rcases JumpsWithinOpt.ref_mem elseBranch inElse l fromElse with outer | placed
      · exact .inl outer
      · exact .inr (.inr placed)
  | .assign .., _, _, mem | .call .., _, _, mem | .havoc _, _, _, mem | .assume _, _, _, mem
  | .assert _, _, _, mem | .label _, _, _, mem | .comment _, _, _, mem => nomatch mem

theorem JumpsWithinOpt.ref_mem {visible : List String} :
    ∀ (arm : Option (List Stmt)), JumpsWithinOpt visible arm →
      ∀ l ∈ labelRefsOpt arm, l ∈ visible ∨ l ∈ labelDefsOpt arm
  | some ss, h, l, mem => by
    rcases JumpsWithinList.ref_mem ss h l mem with seen | placed
    · rcases List.mem_append.1 seen with outer | own
      · exact .inl outer
      · exact .inr (ownLabels_subset_labelDefsList ss l own)
    · exact .inr placed
  | none, _, _, mem => nomatch mem

theorem JumpsWithinList.ref_mem {visible : List String} :
    ∀ (ss : List Stmt), JumpsWithinList visible ss →
      ∀ l ∈ labelRefsList ss, l ∈ visible ∨ l ∈ labelDefsList ss
  | [], _, _, mem => nomatch mem
  | s :: rest, ⟨first, later⟩, l, mem => by
    rw [labelRefsList, List.mem_append] at mem
    rw [labelDefsList, List.mem_append]
    rcases mem with here | there
    · exact (JumpsWithin.ref_mem s first l here).imp_right .inl
    · exact (JumpsWithinList.ref_mem rest later l there).imp_right .inr

end

mutual

/-- A statement whose jumps, at any depth, all go to visible labels jumps within them. -/
theorem JumpsWithin.of_refs {visible : List String} :
    ∀ (s : Stmt), (∀ l ∈ labelRefs s, l ∈ visible) → JumpsWithin visible s
  | .goto _, h => h
  | .ite _ thenBranch elseBranch, h => by
    rw [labelRefs] at h
    refine ⟨JumpsWithinList.of_refs thenBranch fun l mem => ?_, JumpsWithinOpt.of_refs elseBranch fun l mem => ?_⟩
    · exact List.mem_append_left _ (h l (List.mem_append_left _ mem))
    · exact h l (List.mem_append_right _ mem)
  | .assign .., _ | .call .., _ | .havoc _, _ | .assume _, _ | .assert _, _ | .label _, _
  | .comment _, _ => trivial

theorem JumpsWithinOpt.of_refs {visible : List String} :
    ∀ (arm : Option (List Stmt)), (∀ l ∈ labelRefsOpt arm, l ∈ visible) → JumpsWithinOpt visible arm
  | some ss, h => JumpsWithinList.of_refs ss fun l mem => List.mem_append_left _ (h l mem)
  | none, _ => trivial

theorem JumpsWithinList.of_refs {visible : List String} :
    ∀ (ss : List Stmt), (∀ l ∈ labelRefsList ss, l ∈ visible) → JumpsWithinList visible ss
  | [], _ => trivial
  | s :: rest, h => by
    rw [labelRefsList] at h
    exact ⟨JumpsWithin.of_refs s fun l mem => h l (List.mem_append_left _ mem),
      JumpsWithinList.of_refs rest fun l mem => h l (List.mem_append_right _ mem)⟩

end

/-- A statement list that jumps nowhere jumps within any labels. -/
theorem JumpsWithinList.of_refs_nil {visible : List String} {ss : List Stmt} (none_jump : labelRefsList ss = []) :
    JumpsWithinList visible ss :=
  JumpsWithinList.of_refs ss fun _ mem => absurd (none_jump ▸ mem) List.not_mem_nil

end Stmt

open Stmt

/-- A procedure body whose jumps are well formed: the labels it places, at any depth inside
conditionals, are pairwise distinct, and every jump goes to a label placed in its own statement
list or in a list that encloses the conditional it sits in. -/
structure WellJumped (body : List Stmt) : Prop where
  nodup : (labelDefsList body).Nodup
  within : JumpsWithinList (ownLabels body) body

/-- In a well-jumped body every jump goes to a placed label. -/
theorem WellJumped.mem_labelDefs {body : List Stmt} (wj : WellJumped body) {l : String}
    (ref : l ∈ labelRefsList body) : l ∈ labelDefsList body := by
  rcases JumpsWithinList.ref_mem body wj.within l ref with own | placed
  · exact ownLabels_subset_labelDefsList body l own
  · exact placed

/-- In a well-jumped body every jump names exactly one placed label. -/
theorem WellJumped.count_eq_one {body : List Stmt} (wj : WellJumped body) {l : String}
    (ref : l ∈ labelRefsList body) : (labelDefsList body).count l = 1 :=
  List.count_eq_one_of_mem wj.nodup (wj.mem_labelDefs ref)

end WasmBoogie.Boogie
