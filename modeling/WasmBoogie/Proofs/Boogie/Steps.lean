import WasmBoogie.Proofs.Boogie.Semantics

namespace WasmBoogie.Boogie

variable {p : Program} {body rest : List Stmt} {s s' : Store} {o : Outcome}

@[simp] theorem Store.get_set_self (s : Store) (x : String) (v : Val) : (s.set x v).get x = v := by
  unfold Store.set Store.get
  split <;> simp_all

theorem Store.get_set_of_ne (s : Store) {x y : String} (v : Val) (h : y ≠ x) :
    (s.set x v).get y = s.get y := by
  unfold Store.set Store.get
  split <;> simp [Function.update_of_ne h]

@[simp] theorem Store.set_old (s : Store) (x : String) (v : Val) : (s.set x v).old = s.old := by
  unfold Store.set
  split <;> rfl

theorem Store.set_locals_none {s : Store} {x y : String} (v : Val) (h : s.locals y = none) :
    (s.set x v).locals y = none := by
  unfold Store.set
  split
  · rename_i hx
    have : y ≠ x := by rintro rfl; simp_all
    simp [Function.update_of_ne this, h]
  · exact h

/-- An assignment to a global. -/
def Store.setGlobal (s : Store) (x : String) (v : Val) : Store :=
  { s with globals := Function.update s.globals x v }

theorem Store.get_setGlobal_of_ne (s : Store) {x y : String} (v : Val) (h : y ≠ x) :
    (s.setGlobal x v).get y = s.get y := by
  simp [Store.get, Store.setGlobal, Function.update_of_ne h]

theorem Store.get_of_locals_none {s : Store} {x : String} (h : s.locals x = none) :
    s.get x = s.globals x := by
  simp [Store.get, h]

theorem Store.set_of_isSome {s : Store} {x : String} (v : Val) (h : (s.locals x).isSome) :
    s.set x v = { s with locals := Function.update s.locals x (some v) } := by
  unfold Store.set
  split
  · rfl
  · simp_all

theorem Store.set_of_locals_none {s : Store} {x : String} (v : Val) (h : s.locals x = none) :
    s.set x v = s.setGlobal x v := by
  simp [Store.set, Store.setGlobal, h]

theorem Store.set_globals_of_ne (s : Store) {x y : String} (v : Val) (h : y ≠ x) :
    (s.set x v).globals y = s.globals y := by
  unfold Store.set
  split
  · rfl
  · exact Function.update_of_ne h _ _

theorem Store.set_locals_isSome {s : Store} {x y : String} (v : Val) (h : (s.locals y).isSome) :
    ((s.set x v).locals y).isSome := by
  unfold Store.set
  split
  · by_cases hy : y = x
    · simp [hy]
    · simpa [Function.update_of_ne hy] using h
  · exact h

theorem Store.get_setAll_of_not_mem {s : Store} {xs : List String} {vs : List Val} {y : String}
    (h : y ∉ xs) : (s.setAll xs vs).get y = s.get y := by
  induction xs generalizing s vs with
  | nil => rfl
  | cons x xs ih =>
    cases vs with
    | nil => rfl
    | cons v vs =>
      have hne : y ≠ x := fun hyx => h (hyx ▸ List.mem_cons_self)
      rw [Store.setAll, ih (fun hy => h (List.mem_cons_of_mem _ hy)), Store.get_set_of_ne _ _ hne]

/-- Assignments to variables of the frame leave the globals alone. -/
theorem Store.setAll_globals {s : Store} {xs : List String} {vs : List Val}
    (h : ∀ x ∈ xs, (s.locals x).isSome) : (s.setAll xs vs).globals = s.globals := by
  induction xs generalizing s vs with
  | nil => rfl
  | cons x xs ih =>
    cases vs with
    | nil => rfl
    | cons v vs =>
      have hx : (s.locals x).isSome := h x List.mem_cons_self
      rw [Store.setAll, ih (fun y hy => Store.set_locals_isSome v (h y (List.mem_cons_of_mem _ hy))),
        Store.set_of_isSome v hx]

/-- Distinct variables of the frame, assigned in one go, read back the values in order. -/
theorem Store.map_get_setAll {s : Store} {xs : List String} {vs : List Val} (hnd : xs.Nodup)
    (hlen : xs.length = vs.length) (h : ∀ x ∈ xs, (s.locals x).isSome) :
    xs.map (s.setAll xs vs).get = vs := by
  induction xs generalizing s vs with
  | nil => cases vs <;> simp_all
  | cons x xs ih =>
    cases vs with
    | nil => simp at hlen
    | cons v vs =>
      obtain ⟨hx, hnd⟩ := List.nodup_cons.1 hnd
      have hrest : ∀ y ∈ xs, ((s.set x v).locals y).isSome :=
        fun y hy => Store.set_locals_isSome v (h y (List.mem_cons_of_mem _ hy))
      rw [List.map_cons, Store.setAll, Store.get_setAll_of_not_mem hx, Store.get_set_self,
        ih hnd (by simpa using hlen) hrest]

theorem Binary64.toReal_zero : (Binary64.zero false).toReal = 0 := by
  have h : (Binary64.zero false).shortest = ⟨0, 0⟩ := by decide
  simp [Binary64.toReal, h]

@[simp] theorem Expr.eval_realZero {fs : Funs} : Expr.realZero.eval fs s = some (.real 0) := by
  simp [Expr.realZero, Expr.eval, Binary64.toReal_zero]

@[simp] theorem Expr.eval_realOne {fs : Funs} : Expr.realOne.eval fs s = some (.real 1) := by
  have h : Binary64.one.shortest = ⟨1, 0⟩ := by decide +kernel
  have sign : Binary64.one.negative = false := rfl
  simp [Expr.realOne, Expr.eval, Binary64.toReal, h, sign]

theorem frame_eq_none {xs : List String} {vs : List Val} {y : String} (h : y ∉ xs) :
    frame xs vs y = none := by
  induction xs generalizing vs with
  | nil => cases vs <;> rfl
  | cons x xs ih =>
    cases vs with
    | nil => rfl
    | cons v vs =>
      have hne : y ≠ x := fun hyx => h (hyx ▸ List.mem_cons_self)
      simp [frame, hne, ih (fun hy => h (List.mem_cons_of_mem _ hy))]

theorem frame_isSome {xs : List String} {vs : List Val} {y : String} (h : y ∈ xs)
    (hlen : xs.length = vs.length) : (frame xs vs y).isSome := by
  induction xs generalizing vs with
  | nil => simp at h
  | cons x xs ih =>
    cases vs with
    | nil => simp at hlen
    | cons v vs =>
      by_cases hyx : y = x
      · simp [frame, hyx]
      · have hy : y ∈ xs := by simpa [hyx] using h
        simpa [frame, hyx] using ih hy (by simpa using hlen)

@[simp] theorem Var.typed_nil {vals : List Val} : Var.Typed [] vals ↔ vals = [] := by
  simp [Var.Typed]

theorem Var.Typed.length_eq {vs : List Var} {vals : List Val} (h : Var.Typed vs vals) :
    vals.length = vs.length :=
  (List.Forall₂.length_eq h).symm

@[simp] theorem Expr.evalList_nil {fs : Funs} : Expr.evalList fs s [] = some [] := rfl

@[simp] theorem Expr.evalList_singleton {fs : Funs} {e : Expr} :
    Expr.evalList fs s [e] = (e.eval fs s).map ([·]) := by
  simp only [Expr.evalList]
  cases e.eval fs s <;> rfl

@[simp] theorem Exec.nil_iff : Exec p body [] s s' o ↔ s' = s ∧ o = .next := by
  constructor
  · rintro ⟨⟩
    exact ⟨rfl, rfl⟩
  · rintro ⟨rfl, rfl⟩
    exact .nil

/-- A statement that always falls through. -/
def StmtFalls (p : Program) (st : Stmt) : Prop :=
  ∀ s s' o, StmtExec p s st s' o → o = .next

/-- Statements that all fall through. -/
def Falls (p : Program) (ss : List Stmt) : Prop :=
  ∀ st ∈ ss, StmtFalls p st

theorem Exec.cons_iff_of_falls {st : Stmt} (h : StmtFalls p st) :
    Exec p body (st :: rest) s s' o ↔ ∃ s₁, StmtExec p s st s₁ .next ∧ Exec p body rest s₁ s' o := by
  constructor
  · intro hrun
    cases hrun with
    | next hst hrest => exact ⟨_, hst, hrest⟩
    | jump hst _ _ => exact absurd (h _ _ _ hst) (by simp)
    | escape hst _ => exact absurd (h _ _ _ hst) (by simp)
    | wrong hst => exact absurd (h _ _ _ hst) (by simp)
  · rintro ⟨s₁, hst, hrest⟩
    exact .next hst hrest

/-- Straight-line code splits at any point: its first part runs to its end, in whatever list it
stands. -/
theorem Exec.append_iff_of_falls {ss₁ ss₂ : List Stmt} (h : Falls p ss₁) :
    Exec p body (ss₁ ++ ss₂) s s' o ↔ ∃ s₁, Exec p body ss₁ s s₁ .next ∧ Exec p body ss₂ s₁ s' o := by
  induction ss₁ generalizing s with
  | nil => simp
  | cons st ss₁ ih =>
    have hst : StmtFalls p st := h st (by simp)
    have hrest : Falls p ss₁ := fun x hx => h x (by simp [hx])
    rw [List.cons_append, Exec.cons_iff_of_falls hst]
    constructor
    · rintro ⟨s₂, hs, hrun⟩
      obtain ⟨s₁, h₁, h₂⟩ := (ih hrest).1 hrun
      exact ⟨s₁, (Exec.cons_iff_of_falls hst).2 ⟨s₂, hs, h₁⟩, h₂⟩
    · rintro ⟨s₁, h₁, h₂⟩
      obtain ⟨s₂, hs, hrun⟩ := (Exec.cons_iff_of_falls hst).1 h₁
      exact ⟨s₂, hs, (ih hrest).2 ⟨s₁, hrun, h₂⟩⟩

/-- A run of statements that all fall through ends by falling through. -/
theorem Exec.outcome_of_falls {ss : List Stmt} (h : Falls p ss) (hrun : Exec p body ss s s' o) :
    o = .next := by
  induction ss generalizing s with
  | nil => exact (Exec.nil_iff.1 hrun).2
  | cons st ss ih =>
    obtain ⟨s₁, _, hrest⟩ := (Exec.cons_iff_of_falls (h st (by simp))).1 hrun
    exact ih (fun x hx => h x (by simp [hx])) hrest

/-- Where a list runs does not matter to straight-line code. -/
theorem Exec.change_body_of_falls {ss : List Stmt} {body' : List Stmt} (h : Falls p ss)
    (hrun : Exec p body ss s s' o) : Exec p body' ss s s' o := by
  induction ss generalizing s with
  | nil => rw [Exec.nil_iff] at hrun ⊢; exact hrun
  | cons st ss ih =>
    have hst : StmtFalls p st := h st (by simp)
    obtain ⟨s₁, h₁, h₂⟩ := (Exec.cons_iff_of_falls hst).1 hrun
    exact (Exec.cons_iff_of_falls hst).2 ⟨s₁, h₁, ih (fun x hx => h x (by simp [hx])) h₂⟩

theorem Falls.append {ss₁ ss₂ : List Stmt} (h₁ : Falls p ss₁) (h₂ : Falls p ss₂) :
    Falls p (ss₁ ++ ss₂) := by
  intro st hst
  rcases List.mem_append.1 hst with h | h
  · exact h₁ st h
  · exact h₂ st h

@[simp] theorem Falls.nil : Falls p [] := by
  intro st hst
  simp at hst

theorem Falls.cons {st : Stmt} {ss : List Stmt} (h : StmtFalls p st) (hs : Falls p ss) :
    Falls p (st :: ss) := by
  intro x hx
  rcases List.mem_cons.1 hx with rfl | hx
  · exact h
  · exact hs x hx

theorem StmtExec.assign_iff {x : String} {e : Expr} :
    StmtExec p s (.assign (.ident x) e) s' o ↔
      o = .next ∧ ∃ v, e.eval p.funs s = some v ∧ s' = s.set x v := by
  constructor
  · rintro ⟨⟩
    exact ⟨rfl, _, ‹_›, rfl⟩
  · rintro ⟨rfl, v, hv, rfl⟩
    exact .assign hv

theorem StmtExec.assignAt_iff {m : String} {i e : Expr} :
    StmtExec p s (.assign (.select (.ident m) i) e) s' o ↔
      o = .next ∧ ∃ g k r, i.eval p.funs s = some (.int k) ∧ s.get m = .map g ∧
        e.eval p.funs s = some (.real r) ∧ s' = s.set m (.map (Function.update g k r)) := by
  constructor
  · rintro ⟨⟩
    exact ⟨rfl, _, _, _, ‹_›, ‹_›, ‹_›, rfl⟩
  · rintro ⟨rfl, g, k, r, hi, hm, he, rfl⟩
    exact .assignAt hi hm he

theorem StmtExec.assume_iff {c : Expr} :
    StmtExec p s (.assume c) s' o ↔ o = .next ∧ s' = s ∧ c.eval p.funs s = some (.bool true) := by
  constructor
  · rintro ⟨⟩
    exact ⟨rfl, rfl, ‹_›⟩
  · rintro ⟨rfl, rfl, h⟩
    exact .assume h

theorem StmtExec.label_iff {l : String} :
    StmtExec p s (.label l) s' o ↔ o = .next ∧ s' = s := by
  constructor
  · rintro ⟨⟩
    exact ⟨rfl, rfl⟩
  · rintro ⟨rfl, rfl⟩
    exact .label

theorem StmtExec.comment_iff {t : String} :
    StmtExec p s (.comment t) s' o ↔ o = .next ∧ s' = s := by
  constructor
  · rintro ⟨⟩
    exact ⟨rfl, rfl⟩
  · rintro ⟨rfl, rfl⟩
    exact .comment

theorem StmtExec.havoc_iff {xs : List String} :
    StmtExec p s (.havoc xs) s' o ↔
      o = .next ∧ ∃ vs, List.Forall₂ (fun x (v : Val) => v.ty = (s.get x).ty) xs vs ∧ s' = s.setAll xs vs := by
  constructor
  · rintro ⟨⟩
    exact ⟨rfl, _, ‹_›, rfl⟩
  · rintro ⟨rfl, vs, hvs, rfl⟩
    exact .havoc hvs

theorem StmtExec.goto_iff {ls : List String} :
    StmtExec p s (.goto ls) s' o ↔ s' = s ∧ ∃ l ∈ ls, o = .goto l := by
  constructor
  · rintro ⟨⟩
    exact ⟨rfl, _, ‹_›, rfl⟩
  · rintro ⟨rfl, l, hl, rfl⟩
    exact .goto hl

@[simp] theorem Exec.assign_cons_iff {x : String} {e : Expr} :
    Exec p body (.assign (.ident x) e :: rest) s s' o ↔
      ∃ v, e.eval p.funs s = some v ∧ Exec p body rest (s.set x v) s' o := by
  rw [Exec.cons_iff_of_falls (fun _ _ _ h => (StmtExec.assign_iff.1 h).1)]
  simp only [StmtExec.assign_iff, true_and]
  constructor
  · rintro ⟨s₁, ⟨v, hv, rfl⟩, hrun⟩
    exact ⟨v, hv, hrun⟩
  · rintro ⟨v, hv, hrun⟩
    exact ⟨_, ⟨v, hv, rfl⟩, hrun⟩

@[simp] theorem Exec.assignAt_cons_iff {m : String} {i e : Expr} :
    Exec p body (.assign (.select (.ident m) i) e :: rest) s s' o ↔
      ∃ g k r, i.eval p.funs s = some (.int k) ∧ s.get m = .map g ∧ e.eval p.funs s = some (.real r) ∧
        Exec p body rest (s.set m (.map (Function.update g k r))) s' o := by
  rw [Exec.cons_iff_of_falls (fun _ _ _ h => (StmtExec.assignAt_iff.1 h).1)]
  simp only [StmtExec.assignAt_iff, true_and]
  constructor
  · rintro ⟨s₁, ⟨g, k, r, hi, hm, he, rfl⟩, hrun⟩
    exact ⟨g, k, r, hi, hm, he, hrun⟩
  · rintro ⟨g, k, r, hi, hm, he, hrun⟩
    exact ⟨_, ⟨g, k, r, hi, hm, he, rfl⟩, hrun⟩

@[simp] theorem Exec.assume_cons_iff {c : Expr} :
    Exec p body (.assume c :: rest) s s' o ↔
      c.eval p.funs s = some (.bool true) ∧ Exec p body rest s s' o := by
  rw [Exec.cons_iff_of_falls (fun _ _ _ h => (StmtExec.assume_iff.1 h).1)]
  simp only [StmtExec.assume_iff, true_and]
  constructor
  · rintro ⟨s₁, ⟨rfl, hc⟩, hrun⟩
    exact ⟨hc, hrun⟩
  · rintro ⟨hc, hrun⟩
    exact ⟨_, ⟨rfl, hc⟩, hrun⟩

@[simp] theorem Exec.label_cons_iff {l : String} :
    Exec p body (.label l :: rest) s s' o ↔ Exec p body rest s s' o := by
  rw [Exec.cons_iff_of_falls (fun _ _ _ h => (StmtExec.label_iff.1 h).1)]
  simp [StmtExec.label_iff]

@[simp] theorem Exec.comment_cons_iff {t : String} :
    Exec p body (.comment t :: rest) s s' o ↔ Exec p body rest s s' o := by
  rw [Exec.cons_iff_of_falls (fun _ _ _ h => (StmtExec.comment_iff.1 h).1)]
  simp [StmtExec.comment_iff]

theorem StmtFalls.assign {x : String} {e : Expr} : StmtFalls p (.assign (.ident x) e) :=
  fun _ _ _ h => (StmtExec.assign_iff.1 h).1

theorem StmtFalls.assignAt {m : String} {i e : Expr} : StmtFalls p (.assign (.select (.ident m) i) e) :=
  fun _ _ _ h => (StmtExec.assignAt_iff.1 h).1

theorem StmtFalls.assume {c : Expr} : StmtFalls p (.assume c) :=
  fun _ _ _ h => (StmtExec.assume_iff.1 h).1

theorem StmtFalls.label {l : String} : StmtFalls p (.label l) :=
  fun _ _ _ h => (StmtExec.label_iff.1 h).1

theorem StmtFalls.comment {t : String} : StmtFalls p (.comment t) :=
  fun _ _ _ h => (StmtExec.comment_iff.1 h).1

theorem StmtFalls.havoc {xs : List String} : StmtFalls p (.havoc xs) :=
  fun _ _ _ h => (StmtExec.havoc_iff.1 h).1

/-- A conditional whose arms fall through falls through. -/
theorem StmtFalls.ite {c : Expr} {t : List Stmt} {e : Option (List Stmt)} (ht : Falls p t)
    (he : ∀ b, e = some b → Falls p b) : StmtFalls p (.ite c t e) := by
  intro s s' o h
  cases h with
  | iteTrue _ hrun => exact Exec.outcome_of_falls ht hrun
  | iteFalse _ hrun => exact Exec.outcome_of_falls (he _ rfl) hrun
  | iteSkip _ => rfl

/-- A call of an inlined procedure whose body falls through runs the body in a fresh frame and
copies the results out. -/
theorem StmtExec.callInline_iff {f : String} {args : List Expr} {outs : List String} {q : Procedure}
    {impl : Implementation} (hq : p.procedure? f = some q) (hinline : q.isInline = true)
    (himpl : p.implementation? f = some impl) (hbody : Falls p impl.body) :
    StmtExec p s (.call f args outs) s' o ↔
      o = .next ∧ ∃ vs rs ls s₁, Expr.evalList p.funs s args = some vs ∧
        impl.params.length = vs.length ∧ Var.Typed impl.returns rs ∧ Var.Typed impl.locals ls ∧
        Exec p impl.body impl.body
          ⟨s.globals, frame (Var.names (impl.params ++ impl.returns ++ impl.locals)) (vs ++ rs ++ ls),
            s.globals⟩ s₁ .next ∧
        outs.length = impl.returns.length ∧
        s' = Store.setAll ⟨s₁.globals, s.locals, s.old⟩ outs (impl.returns.map fun v => s₁.get v.name) := by
  constructor
  · intro h
    cases h with
    | callInline hq' _ himpl' hvs hlen hrs hls hrun hout =>
      obtain rfl : impl = _ := Option.some.inj (himpl.symm.trans himpl')
      exact ⟨rfl, _, _, _, _, hvs, hlen, hrs, hls, hrun, hout, rfl⟩
    | callInlineWrong _ _ himpl' _ _ _ _ hrun =>
      obtain rfl : impl = _ := Option.some.inj (himpl.symm.trans himpl')
      exact absurd (Exec.outcome_of_falls hbody hrun) (by simp)
    | callContract hq' hnot =>
      obtain rfl : q = _ := Option.some.inj (hq.symm.trans hq')
      simp [hinline] at hnot
  · rintro ⟨rfl, vs, rs, ls, s₁, hvs, hlen, hrs, hls, hrun, hout, rfl⟩
    exact .callInline hq hinline himpl hvs hlen hrs hls hrun hout

/-- A call of an inlined procedure whose body falls through falls through. -/
theorem StmtFalls.callInline {f : String} {args : List Expr} {outs : List String} {q : Procedure}
    {impl : Implementation} (hq : p.procedure? f = some q) (hinline : q.isInline = true)
    (himpl : p.implementation? f = some impl) (hbody : Falls p impl.body) :
    StmtFalls p (.call f args outs) :=
  fun _ _ _ h => ((StmtExec.callInline_iff hq hinline himpl hbody).1 h).1

section Known

variable {t : Store}

/-- Two statements that run alike from a store run alike in front of any rest. -/
theorem Exec.cons_congr {a b : Stmt} (same : ∀ s₁ o₁, StmtExec p s a s₁ o₁ ↔ StmtExec p s b s₁ o₁) :
    Exec p body (a :: rest) s s' o ↔ Exec p body (b :: rest) s s' o := by
  constructor
  · intro run
    cases run with
    | next step more => exact .next ((same _ _).1 step) more
    | jump step found more => exact .jump ((same _ _).1 step) found more
    | escape step missing => exact .escape ((same _ _).1 step) missing
    | wrong step => exact .wrong ((same _ _).1 step)
  · intro run
    cases run with
    | next step more => exact .next ((same _ _).2 step) more
    | jump step found more => exact .jump ((same _ _).2 step) found more
    | escape step missing => exact .escape ((same _ _).2 step) missing
    | wrong step => exact .wrong ((same _ _).2 step)

/-- A statement that from a store only falls through to one store runs the rest from there. -/
theorem Exec.cons_of_next {a : Stmt} (step : ∀ s₁ o₁, StmtExec p s a s₁ o₁ ↔ s₁ = t ∧ o₁ = .next) :
    Exec p body (a :: rest) s s' o ↔ Exec p body rest t s' o := by
  constructor
  · intro run
    cases run with
    | next first more =>
      obtain ⟨rfl, -⟩ := (step _ _).1 first
      exact more
    | jump first => cases ((step _ _).1 first).2
    | escape first => cases ((step _ _).1 first).2
    | wrong first => cases ((step _ _).1 first).2
  · intro run
    exact .next ((step _ _).2 ⟨rfl, rfl⟩) run

/-- In a list that does not place the label, a jump to it leaves the list. -/
theorem Exec.goto_cons_iff {l : String} (unplaced : afterLabel l body = none) :
    Exec p body (.gotoLabel l :: rest) s s' o ↔ s' = s ∧ o = .goto l := by
  have jump : ∀ s₁ o₁, StmtExec p s (.gotoLabel l) s₁ o₁ ↔ s₁ = s ∧ o₁ = .goto l := by
    intro s₁ o₁
    simp [Stmt.gotoLabel, StmtExec.goto_iff]
  constructor
  · intro run
    cases run with
    | next first => cases ((jump _ _).1 first).2
    | jump first found =>
      obtain ⟨-, same⟩ := (jump _ _).1 first
      cases same
      rw [unplaced] at found
      cases found
    | escape first =>
      obtain ⟨rfl, same⟩ := (jump _ _).1 first
      cases same
      exact ⟨rfl, rfl⟩
    | wrong first => cases ((jump _ _).1 first).2
  · rintro ⟨rfl, rfl⟩
    exact .escape ((jump _ _).2 ⟨rfl, rfl⟩) unplaced

/-- A conditional with both arms runs the arm its condition picks. -/
theorem StmtExec.ite_iff {c : Expr} {b : Bool} {thenArm elseArm : List Stmt}
    (cond : c.eval p.funs s = some (.bool b)) :
    StmtExec p s (.ite c thenArm (some elseArm)) s' o ↔
      if b then Exec p thenArm thenArm s s' o else Exec p elseArm elseArm s s' o := by
  constructor
  · intro step
    cases step with
    | iteTrue isTrue run =>
      rw [cond] at isTrue
      cases isTrue
      exact run
    | iteFalse isFalse run =>
      rw [cond] at isFalse
      cases isFalse
      exact run
  · cases b with
    | true => exact .iteTrue cond
    | false => exact .iteFalse cond

end Known

end WasmBoogie.Boogie
