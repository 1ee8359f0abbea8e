import Mathlib.Tactic.NormNum.Basic
import WasmBoogie.Proofs.Instr.RealStack
import WasmBoogie.Proofs.Lower.Runtime

namespace WasmBoogie.Lower

open WasmBoogie.Boogie

theorem localName_injective (P : ℕ) : Function.Injective (localName P) := by
  intro i j h
  unfold localName at h
  split_ifs at h with hi hj hj
  · simp at h
    omega
  · simp [← String.toList_inj] at h
  · simp [← String.toList_inj] at h
  · simp at h
    omega

theorem localName_not_mem_runtimeGlobals (P j : ℕ) : localName P j ∉ runtimeGlobals := by
  unfold localName
  split <;> simp [runtimeGlobals, stackVar, spVar, tmpVar, ← String.toList_inj]

theorem tmpVar_inj {j k : ℕ} : tmpVar j = tmpVar k ↔ j = k := by
  simp [tmpVar]

theorem tmpVar_mem_runtimeGlobals {k : ℕ} (hk : k ∈ [1, 2, 3]) : tmpVar k ∈ runtimeGlobals := by
  simp only [List.mem_cons, List.not_mem_nil, or_false] at hk
  rcases hk with rfl | rfl | rfl <;> simp [runtimeGlobals]

theorem tmpVar_ne_spVar (k : ℕ) : tmpVar k ≠ spVar := by
  simp [tmpVar, spVar, ← String.toList_inj]

theorem tmpVar_ne_stackVar (k : ℕ) : tmpVar k ≠ stackVar := by
  simp [tmpVar, stackVar, ← String.toList_inj]

theorem localName_ne_of_mem {P j : ℕ} {x : String} (hx : x ∈ runtimeGlobals) : localName P j ≠ x := by
  rintro rfl
  exact localName_not_mem_runtimeGlobals P j hx

/-- A store represents a machine, for a function with `P` parameters whose slots below `slots`
are in use: no variable hides the runtime's globals, the stack pointer is the height of the stack,
the modeled stack holds the stack below it, the scratch registers hold reals, and the variable of
each slot in use holds its value. -/
structure Represents (P slots : ℕ) (st : Store) (m : Machine) : Prop where
  sees : ∀ x ∈ runtimeGlobals, st.locals x = none
  height : st.globals spVar = .int m.stack.length
  stack : ∃ g, st.globals stackVar = .map g ∧ ∀ i (h : i < m.stack.length), g i = m.stack[i]
  scratch : ∀ k ∈ [1, 2, 3], ∃ r, st.globals (tmpVar k) = .real r
  vars : ∀ j < slots, st.get (localName P j) = .real (m.locals j)

namespace Represents

variable {P slots : ℕ} {st : Store} {m : Machine}

/-- Dropping the top value: the pointer goes down by one. -/
theorem dropped {v : ℝ} (rep : Represents P slots st (m.push v)) :
    Represents P slots (st.setGlobal spVar (.int m.stack.length)) m where
  sees := rep.sees
  height := by simp [Store.setGlobal]
  stack := by
    obtain ⟨g, atStack, agree⟩ := rep.stack
    refine ⟨g, by simpa [Store.setGlobal, Function.update_of_ne stackVar_ne_spVar] using atStack, ?_⟩
    intro i hi
    simpa [List.getElem_append_left hi] using agree i (by simp; omega)
  scratch k hk := by
    simpa [Store.setGlobal, Function.update_of_ne (tmpVar_ne_spVar k)] using rep.scratch k hk
  vars j hj := by
    rw [Store.get_setGlobal_of_ne _ _ (localName_ne_of_mem (by simp [runtimeGlobals]))]
    exact rep.vars j hj

/-- Pushing a value: it is stored at the pointer, which goes up by one. -/
theorem pushed {g : ℤ → ℝ} (rep : Represents P slots st m) (atStack : st.globals stackVar = .map g)
    (x : ℝ) :
    Represents P slots ((st.setGlobal stackVar (.map (Function.update g m.stack.length x))).setGlobal
      spVar (.int (m.stack.length + 1))) (m.push x) where
  sees := rep.sees
  height := by simp [Store.setGlobal]
  stack := by
    obtain ⟨g', atStack', agree⟩ := rep.stack
    obtain rfl : g' = g := by
      rw [atStack] at atStack'
      injection atStack' with same
      exact same.symm
    refine ⟨Function.update g' m.stack.length x, by
      simp [Store.setGlobal, Function.update_of_ne stackVar_ne_spVar], ?_⟩
    intro i hi
    simp only [Machine.push_stack, List.length_append, List.length_singleton] at hi
    rcases Nat.lt_succ_iff_lt_or_eq.1 hi with below | rfl
    · have ne : (i : ℤ) ≠ m.stack.length := by omega
      simp [Function.update_of_ne ne, List.getElem_append_left below, agree i below]
    · simp
  scratch k hk := by
    simpa [Store.setGlobal, Function.update_of_ne (tmpVar_ne_spVar k),
      Function.update_of_ne (tmpVar_ne_stackVar k)] using rep.scratch k hk
  vars j hj := by
    rw [Store.get_setGlobal_of_ne _ _ (localName_ne_of_mem (by simp [runtimeGlobals])),
      Store.get_setGlobal_of_ne _ _ (localName_ne_of_mem (by simp [runtimeGlobals]))]
    exact rep.vars j hj

/-- Setting a scratch register to a real. -/
theorem setScratch {k : ℕ} (rep : Represents P slots st m) (hk : k ∈ [1, 2, 3]) (r : ℝ) :
    Represents P slots (st.setGlobal (tmpVar k) (.real r)) m where
  sees := rep.sees
  height := by simpa [Store.setGlobal, Function.update_of_ne (tmpVar_ne_spVar k).symm] using rep.height
  stack := by
    simpa [Store.setGlobal, Function.update_of_ne (tmpVar_ne_stackVar k).symm] using rep.stack
  scratch j hj := by
    by_cases same : j = k
    · subst same
      exact ⟨r, by simp [Store.setGlobal]⟩
    · simpa [Store.setGlobal, Function.update_of_ne (mt tmpVar_inj.1 same)] using rep.scratch j hj
  vars j hj := by
    rw [Store.get_setGlobal_of_ne _ _ (localName_ne_of_mem (tmpVar_mem_runtimeGlobals hk))]
    exact rep.vars j hj

/-- Setting the variable of a slot in use. -/
theorem assigned {j : ℕ} (rep : Represents P slots st m) (hj : j < slots) (r : ℝ) :
    Represents P slots (st.set (localName P j) (.real r)) (m.assign j r) where
  sees x hx := Store.set_locals_none _ (rep.sees x hx)
  height := by
    rw [Store.set_globals_of_ne _ _ (localName_ne_of_mem (by simp [runtimeGlobals])).symm]
    exact rep.height
  stack := by
    rw [Store.set_globals_of_ne _ _ (localName_ne_of_mem (by simp [runtimeGlobals])).symm]
    exact rep.stack
  scratch k hk := by
    rw [Store.set_globals_of_ne _ _ (localName_ne_of_mem (tmpVar_mem_runtimeGlobals hk)).symm]
    exact rep.scratch k hk
  vars i hi := by
    by_cases same : i = j
    · subst same
      simp
    · rw [Store.get_set_of_ne _ _ (mt (localName_injective P ·) same)]
      simpa [Function.update_of_ne same] using rep.vars i hi

end Represents

/-- Scratch registers known to hold values. -/
def Holds (st : Store) (regs : List (ℕ × ℝ)) : Prop :=
  ∀ x ∈ regs, st.get (tmpVar x.1) = .real x.2

@[simp] theorem holds_nil (st : Store) : Holds st [] := by
  simp [Holds]

/-- Lowered statements simulate a relation on machines, starting with the scratch registers
holding `regs`: they only fall through, every run from a store that represents a machine ends in
one that represents a machine related to it, and every related machine is reached by a run. -/
structure Simulates (p : Program) (P slots : ℕ) (regs : List (ℕ × ℝ)) (ss : List Stmt)
    (R : Machine → Machine → Prop) : Prop where
  falls : Falls p ss
  sound : ∀ {body st st' m}, Represents P slots st m → Holds st regs →
    Exec p body ss st st' .next → ∃ m', R m m' ∧ Represents P slots st' m'
  complete : ∀ {st m m'}, Represents P slots st m → Holds st regs → R m m' → ∀ body,
    ∃ st', Exec p body ss st st' .next ∧ Represents P slots st' m'

section Simulation

variable {p : Program} {P slots : ℕ} {regs : List (ℕ × ℝ)} {ss ss₁ ss₂ : List Stmt}
  {R R₁ R₂ : Machine → Machine → Prop}

/-- One statement that falls through simulates what its single steps do. -/
theorem Simulates.single {st₀ : Stmt} (falls : StmtFalls p st₀)
    (sound : ∀ {st st' m}, Represents P slots st m → Holds st regs → StmtExec p st st₀ st' .next →
      ∃ m', R m m' ∧ Represents P slots st' m')
    (complete : ∀ {st m m'}, Represents P slots st m → Holds st regs → R m m' →
      ∃ st', StmtExec p st st₀ st' .next ∧ Represents P slots st' m') :
    Simulates p P slots regs [st₀] R where
  falls := Falls.cons falls Falls.nil
  sound rep holds run := by
    obtain ⟨st₁, step, rest⟩ := (Exec.cons_iff_of_falls falls).1 run
    obtain ⟨rfl, -⟩ := Exec.nil_iff.1 rest
    exact sound rep holds step
  complete rep holds related _ := by
    obtain ⟨st', step, rep'⟩ := complete rep holds related
    exact ⟨st', .next step .nil, rep'⟩

theorem Simulates.nil : Simulates p P slots regs [] Eq where
  falls := Falls.nil
  sound {_ _ _ m} rep _ run := by
    obtain ⟨rfl, -⟩ := Exec.nil_iff.1 run
    exact ⟨m, rfl, rep⟩
  complete {st _ _} rep _ same _ := ⟨st, Exec.nil, same ▸ rep⟩

/-- Pieces in sequence simulate the composition of their relations. -/
theorem Simulates.append (first : Simulates p P slots regs ss₁ R₁) (second : Simulates p P slots [] ss₂ R₂) :
    Simulates p P slots regs (ss₁ ++ ss₂) (Relation.Comp R₁ R₂) where
  falls := first.falls.append second.falls
  sound rep holds run := by
    obtain ⟨st₁, run₁, run₂⟩ := (Exec.append_iff_of_falls first.falls).1 run
    obtain ⟨m₁, r₁, rep₁⟩ := first.sound rep holds run₁
    obtain ⟨m', r₂, rep'⟩ := second.sound rep₁ (holds_nil st₁) run₂
    exact ⟨m', ⟨m₁, r₁, r₂⟩, rep'⟩
  complete rep holds related body := by
    obtain ⟨m₁, r₁, r₂⟩ := related
    obtain ⟨st₁, run₁, rep₁⟩ := first.complete rep holds r₁ body
    obtain ⟨st', run₂, rep'⟩ := second.complete rep₁ (holds_nil st₁) r₂ body
    exact ⟨st', (Exec.append_iff_of_falls first.falls).2 ⟨st₁, run₁, run₂⟩, rep'⟩

theorem Simulates.congr (h : Simulates p P slots regs ss R) (same : ∀ m m', R m m' ↔ R₁ m m') :
    Simulates p P slots regs ss R₁ where
  falls := h.falls
  sound rep holds run := by
    obtain ⟨m', r, rep'⟩ := h.sound rep holds run
    exact ⟨m', (same _ _).1 r, rep'⟩
  complete rep holds related := h.complete rep holds ((same _ _).2 related)

/-- A piece that needs no register values runs with any. -/
theorem Simulates.forget (h : Simulates p P slots [] ss R) : Simulates p P slots regs ss R where
  falls := h.falls
  sound rep _ run := h.sound rep (holds_nil _) run
  complete rep _ related := h.complete rep (holds_nil _) related

/-- A statement that changes nothing simulates the identity. -/
theorem Simulates.skip {st₀ : Stmt} (step : ∀ {s s' o}, StmtExec p s st₀ s' o ↔ o = .next ∧ s' = s) :
    Simulates p P slots regs [st₀] Eq :=
  Simulates.single (fun _ _ _ h => (step.1 h).1)
    (fun {_ _ m} rep _ one => by
      obtain ⟨-, rfl⟩ := step.1 one
      exact ⟨m, rfl, rep⟩)
    (fun {st _ _} rep _ same => ⟨st, step.2 ⟨rfl, rfl⟩, same ▸ rep⟩)

end Simulation

section Steps

variable {p : Program} {arities : List Nat} {P slots : ℕ} {regs : List (ℕ × ℝ)} {ss : List Stmt}
  {st st' : Store} {m : Machine} {o : Outcome}

theorem eval_scratch {fs : Funs} {k : ℕ} {v : ℝ} (holds : Holds st regs) (h : (k, v) ∈ regs) :
    (tmp k).eval fs st = some (.real v) := by
  simp [tmp, Expr.eval, holds _ h]

theorem Holds.popped {k : ℕ} {v : ℝ} {z : Val} (holds : Holds st regs) (fresh : ∀ x ∈ regs, x.1 ≠ k)
    (sees : st.locals (tmpVar k) = none) :
    Holds ((st.setGlobal spVar z).setGlobal (tmpVar k) (.real v)) ((k, v) :: regs) := by
  intro x mem
  rcases List.mem_cons.1 mem with rfl | mem
  · simp [Store.get, Store.setGlobal, sees]
  · rw [Store.get_setGlobal_of_ne _ _ (mt tmpVar_inj.1 (fresh x mem)),
      Store.get_setGlobal_of_ne _ _ (tmpVar_ne_spVar _)]
    exact holds x mem

theorem push_represents (runtime : Runtime p arities) {e : Expr} (rep : Represents P slots st m) :
    StmtExec p st (push e) st' o ↔
      o = .next ∧ ∃ g x, st.globals stackVar = .map g ∧ e.eval p.funs st = some (.real x) ∧
        st' = (st.setGlobal stackVar (.map (Function.update g m.stack.length x))).setGlobal spVar
          (.int (m.stack.length + 1)) := by
  rw [push_iff runtime]
  constructor
  · rintro ⟨rfl, n, g, x, atSp, value, atStack, rfl⟩
    rw [rep.height] at atSp
    cases atSp
    exact ⟨rfl, g, x, atStack, value, rfl⟩
  · rintro ⟨rfl, g, x, atStack, value, rfl⟩
    exact ⟨rfl, _, g, x, rep.height, value, atStack, rfl⟩

theorem popTo_represents (runtime : Runtime p arities) {k : ℕ} (hk : k ∈ [1, 2, 3])
    (rep : Represents P slots st m) :
    StmtExec p st (popTo k) st' o ↔
      o = .next ∧ ∃ (n : Machine) (v : ℝ), m = n.push v ∧
        st' = (st.setGlobal spVar (.int n.stack.length)).setGlobal (tmpVar k) (.real v) := by
  obtain ⟨g, atStack, agree⟩ := rep.stack
  rw [popTo_iff runtime hk]
  constructor
  · rintro ⟨rfl, n, g', atSp, pos, atStack', rfl⟩
    rw [rep.height] at atSp
    cases atSp
    rw [atStack] at atStack'
    cases atStack'
    obtain ⟨n, v, rfl⟩ := Machine.exists_push_of_length_pos (m := m) (by omega)
    have top := agree n.stack.length (by simp)
    simp only [Machine.push_stack, List.getElem_concat_length] at top
    refine ⟨rfl, n, v, rfl, ?_⟩
    simp [top]
  · rintro ⟨rfl, n, v, rfl, rfl⟩
    have top := agree n.stack.length (by simp)
    simp only [Machine.push_stack, List.getElem_concat_length] at top
    refine ⟨rfl, _, g, rep.height, by simp, atStack, ?_⟩
    simp [top]

theorem Simulates.pushValue (runtime : Runtime p arities) {e : Expr} {f : Machine → ℝ}
    (value : ∀ {st m}, Represents P slots st m → Holds st regs → e.eval p.funs st = some (.real (f m))) :
    Simulates p P slots regs [push e] (fun m m' => m' = m.push (f m)) :=
  Simulates.single (push_falls runtime)
    (fun rep holds step => by
      obtain ⟨-, g, x, atStack, atValue, rfl⟩ := (push_represents runtime rep).1 step
      rw [value rep holds] at atValue
      cases atValue
      exact ⟨_, rfl, rep.pushed atStack _⟩)
    (fun rep holds related => by
      subst related
      obtain ⟨g, atStack, -⟩ := rep.stack
      exact ⟨_, (push_represents runtime rep).2 ⟨rfl, g, _, atStack, value rep holds, rfl⟩,
        rep.pushed atStack _⟩)

/-- Popping into a scratch register makes its value known to what follows. -/
theorem Simulates.popInto (runtime : Runtime p arities) {k : ℕ} (hk : k ∈ [1, 2, 3])
    (fresh : ∀ x ∈ regs, x.1 ≠ k) {R : ℝ → Machine → Machine → Prop}
    (next : ∀ v, Simulates p P slots ((k, v) :: regs) ss (R v)) :
    Simulates p P slots regs (popTo k :: ss)
      (fun m m' => ∃ (n : Machine) (v : ℝ), m = n.push v ∧ R v n m') where
  falls := Falls.cons (popTo_falls runtime hk) (next 0).falls
  sound rep holds run := by
    obtain ⟨st₁, step, rest⟩ := (Exec.cons_iff_of_falls (popTo_falls runtime hk)).1 run
    obtain ⟨-, n, v, rfl, rfl⟩ := (popTo_represents runtime hk rep).1 step
    obtain ⟨m', related, rep'⟩ := (next v).sound (rep.dropped.setScratch hk v)
      (holds.popped fresh (rep.sees _ (tmpVar_mem_runtimeGlobals hk))) rest
    exact ⟨m', ⟨n, v, rfl, related⟩, rep'⟩
  complete rep holds related body := by
    obtain ⟨n, v, rfl, related⟩ := related
    obtain ⟨st', rest, rep'⟩ := (next v).complete (rep.dropped.setScratch hk v)
      (holds.popped fresh (rep.sees _ (tmpVar_mem_runtimeGlobals hk))) related body
    exact ⟨st', (Exec.cons_iff_of_falls (popTo_falls runtime hk)).2
      ⟨_, (popTo_represents runtime hk rep).2 ⟨rfl, n, v, rfl, rfl⟩, rest⟩, rep'⟩

theorem Simulates.drop (runtime : Runtime p arities) :
    Simulates p P slots regs [.callProc "pop" []] (fun m m' => ∃ v, m = m'.push v) :=
  Simulates.single (pop_falls runtime)
    (fun {_ _ m} rep _ step => by
      obtain ⟨-, n, atSp, pos, rfl⟩ := (pop_iff runtime).1 step
      rw [rep.height] at atSp
      cases atSp
      obtain ⟨n, v, rfl⟩ := Machine.exists_push_of_length_pos (m := m) (by omega)
      have index : (((n.push v).stack.length : ℕ) : ℤ) - 1 = n.stack.length := by simp
      rw [index]
      exact ⟨n, ⟨v, rfl⟩, rep.dropped⟩)
    (fun {_ _ m'} rep _ related => by
      obtain ⟨v, rfl⟩ := related
      have index : (((m'.push v).stack.length : ℕ) : ℤ) - 1 = m'.stack.length := by simp
      exact ⟨_, (pop_iff runtime).2 ⟨rfl, _, rep.height, by simp, rfl⟩, by rw [index]; exact rep.dropped⟩)

theorem set_represents (runtime : Runtime p arities) (one : 1 ∈ arities) {x : String}
    (rep : Represents P slots st m) :
    StmtExec p st (.call (Ident.popArgsName 1) [] [x]) st' o ↔
      o = .next ∧ ∃ (n : Machine) (v : ℝ), m = n.push v ∧
        st' = (st.setGlobal spVar (.int n.stack.length)).set x (.real v) := by
  obtain ⟨g, atStack, agree⟩ := rep.stack
  rw [popArgs_iff runtime one atStack]
  simp only [List.length_singleton, List.range_one, List.map_cons, List.map_nil, Store.setAll,
    Nat.cast_one, Nat.cast_zero, add_zero, true_and]
  constructor
  · rintro ⟨rfl, n, atSp, pos, rfl⟩
    rw [rep.height] at atSp
    cases atSp
    obtain ⟨n, v, rfl⟩ := Machine.exists_push_of_length_pos (m := m) (by omega)
    have top := agree n.stack.length (by simp)
    simp only [Machine.push_stack, List.getElem_concat_length] at top
    refine ⟨rfl, n, v, rfl, ?_⟩
    simp [top]
  · rintro ⟨rfl, n, v, rfl, rfl⟩
    have top := agree n.stack.length (by simp)
    simp only [Machine.push_stack, List.getElem_concat_length] at top
    refine ⟨rfl, _, rep.height, by simp, ?_⟩
    simp [top]

theorem Simulates.setSlot (runtime : Runtime p arities) (one : 1 ∈ arities) {j : ℕ} (hj : j < slots) :
    Simulates p P slots regs [.call (Ident.popArgsName 1) [] [localName P j]] (setStep j) :=
  Simulates.single (popArgs_falls runtime one)
    (fun rep _ step => by
      obtain ⟨-, n, v, rfl, rfl⟩ := (set_represents runtime one rep).1 step
      exact ⟨_, ⟨n, v, rfl, rfl⟩, rep.dropped.assigned hj v⟩)
    (fun rep _ related => by
      obtain ⟨n, v, rfl, rfl⟩ := related
      exact ⟨_, (set_represents runtime one rep).2 ⟨rfl, n, v, rfl, rfl⟩, rep.dropped.assigned hj v⟩)

theorem havoc_represents (rep : Represents P slots st m) :
    StmtExec p st (.havoc [tmpVar 1]) st' o ↔ o = .next ∧ ∃ v, st' = st.setGlobal (tmpVar 1) (.real v) := by
  have sees : st.locals (tmpVar 1) = none := rep.sees _ (tmpVar_mem_runtimeGlobals (by simp))
  have isReal : (st.get (tmpVar 1)).ty = .real := by
    obtain ⟨r, atTmp⟩ := rep.scratch 1 (by simp)
    simp [Store.get_of_locals_none sees, atTmp, Val.ty]
  rw [StmtExec.havoc_iff]
  constructor
  · rintro ⟨rfl, vs, typed, rfl⟩
    rcases typed with _ | ⟨typedHead, typedRest⟩
    cases typedRest
    rename_i w
    rw [isReal] at typedHead
    obtain ⟨r, rfl⟩ : ∃ r, w = .real r := by
      cases w <;> simp_all [Val.ty]
    exact ⟨rfl, r, by simp [Store.setAll, Store.set_of_locals_none _ sees]⟩
  · rintro ⟨rfl, v, rfl⟩
    exact ⟨rfl, [.real v], List.Forall₂.cons (by rw [isReal]; rfl) .nil,
      by simp [Store.setAll, Store.set_of_locals_none _ sees]⟩

/-- Havocking the first scratch register makes it hold some real, known to what follows. -/
theorem Simulates.havocScratch {R : ℝ → Machine → Machine → Prop} (next : ∀ v, Simulates p P slots [(1, v)] ss (R v)) :
    Simulates p P slots [] (.havoc [tmpVar 1] :: ss) (fun m m' => ∃ v, R v m m') where
  falls := Falls.cons StmtFalls.havoc (next 0).falls
  sound {_ st _ _} rep _ run := by
    obtain ⟨st₁, step, rest⟩ := (Exec.cons_iff_of_falls StmtFalls.havoc).1 run
    obtain ⟨-, v, rfl⟩ := (havoc_represents rep).1 step
    have holds : Holds (st.setGlobal (tmpVar 1) (.real v)) [(1, v)] := by
      simp [Holds, Store.get, Store.setGlobal, rep.sees _ (tmpVar_mem_runtimeGlobals (k := 1) (by simp))]
    obtain ⟨m', related, rep'⟩ := (next v).sound (rep.setScratch (by simp) v) holds rest
    exact ⟨m', ⟨v, related⟩, rep'⟩
  complete {st _ _} rep _ related body := by
    obtain ⟨v, related⟩ := related
    have holds : Holds (st.setGlobal (tmpVar 1) (.real v)) [(1, v)] := by
      simp [Holds, Store.get, Store.setGlobal, rep.sees _ (tmpVar_mem_runtimeGlobals (k := 1) (by simp))]
    obtain ⟨st', rest, rep'⟩ := (next v).complete (rep.setScratch (by simp) v) holds related body
    exact ⟨st', (Exec.cons_iff_of_falls StmtFalls.havoc).2 ⟨_, (havoc_represents rep).2 ⟨rfl, v, rfl⟩, rest⟩, rep'⟩

/-- An unknown result pushes any real. -/
theorem Simulates.unknown (runtime : Runtime p arities) :
    Simulates p P slots [] pushUnknown (fun m m' => ∃ v, m' = m.push v) :=
  Simulates.havocScratch fun v => Simulates.pushValue runtime (f := fun _ => v)
    fun _ holds => eval_scratch holds (List.mem_singleton_self _)

theorem Runtime.function_eq (runtime : Runtime p arities) {name : String} {x : List Var × Expr}
    (h : (⟨prelude⟩ : Program).function? name = some x) : p.function? name = some x :=
  runtime.findSome_prelude (fun _ => rfl) h

theorem funs_bool_to_real (runtime : Runtime p arities) (b : Bool) :
    p.funs "bool_to_real" [.bool b] = some (.real (if b then 1 else 0)) := by
  have lookup : p.function? "bool_to_real" =
      some ([⟨"b", .bool⟩], .ite (.ident "b") Expr.realOne Expr.realZero) := runtime.function_eq rfl
  cases b <;> simp [Program.funs, lookup, Expr.eval, Var.names, frame, Store.get]

theorem funs_real_to_bool (runtime : Runtime p arities) (c : ℝ) :
    p.funs "real_to_bool" [.real c] = some (.bool (decide (c ≠ 0))) := by
  have lookup : p.function? "real_to_bool" = some ([⟨"r", .real⟩],
      .ite (.binary .eq (.ident "r") Expr.realZero) (.bool false) (.bool true)) := runtime.function_eq rfl
  by_cases zero : c = 0 <;>
    simp [Program.funs, lookup, Expr.eval, Var.names, frame, Store.get, BinOp.apply, zero]

theorem eval_toReal (runtime : Runtime p arities) {c : Expr} {b : Bool}
    (h : c.eval p.funs st = some (.bool b)) : (toReal c).eval p.funs st = some (.real (if b then 1 else 0)) := by
  simp [toReal, Expr.eval, h, funs_bool_to_real runtime]

theorem eval_tmp1IsTrue (runtime : Runtime p arities) {c : ℝ} (holds : Holds st regs) (hc : (1, c) ∈ regs) :
    tmp1IsTrue.eval p.funs st = some (.bool (decide (c ≠ 0))) := by
  simp [tmp1IsTrue, Expr.eval, eval_scratch holds hc, funs_real_to_bool runtime]

/-- A conditional on the first scratch register runs its then arm when the register is not zero
and its else arm otherwise. -/
theorem Simulates.branch (runtime : Runtime p arities) {c : ℝ} (hc : (1, c) ∈ regs) {t b : List Stmt}
    {T E : Machine → Machine → Prop} (arm : Simulates p P slots regs t T)
    (other : Simulates p P slots regs b E) :
    Simulates p P slots regs [.ite tmp1IsTrue t (some b)]
      (fun m m' => (c ≠ 0 ∧ T m m') ∨ (c = 0 ∧ E m m')) :=
  Simulates.single (StmtFalls.ite arm.falls fun _ same => by cases same; exact other.falls)
    (fun rep holds step => by
      have cond := eval_tmp1IsTrue runtime holds hc
      cases step with
      | iteTrue isTrue run =>
        rw [cond] at isTrue
        obtain ⟨m', related, rep'⟩ := arm.sound rep holds run
        exact ⟨m', .inl ⟨by simpa using isTrue, related⟩, rep'⟩
      | iteFalse isFalse run =>
        rw [cond] at isFalse
        obtain ⟨m', related, rep'⟩ := other.sound rep holds run
        exact ⟨m', .inr ⟨by simpa using isFalse, related⟩, rep'⟩)
    (fun rep holds related => by
      have cond := eval_tmp1IsTrue runtime holds hc
      rcases related with ⟨nonzero, related⟩ | ⟨zero, related⟩
      · obtain ⟨st', run, rep'⟩ := arm.complete rep holds related t
        exact ⟨st', .iteTrue (by simpa [nonzero] using cond) run, rep'⟩
      · obtain ⟨st', run, rep'⟩ := other.complete rep holds related b
        exact ⟨st', .iteFalse (by simpa [zero] using cond) run, rep'⟩)

/-- A conditional without an else arm changes nothing when the register is zero. -/
theorem Simulates.branchSkip (runtime : Runtime p arities) {c : ℝ} (hc : (1, c) ∈ regs) {t : List Stmt}
    {T : Machine → Machine → Prop} (arm : Simulates p P slots regs t T) :
    Simulates p P slots regs [.ite tmp1IsTrue t none] (fun m m' => (c ≠ 0 ∧ T m m') ∨ (c = 0 ∧ m' = m)) :=
  Simulates.single (StmtFalls.ite arm.falls fun _ none => by cases none)
    (fun {_ _ m} rep holds step => by
      have cond := eval_tmp1IsTrue runtime holds hc
      cases step with
      | iteTrue isTrue run =>
        rw [cond] at isTrue
        obtain ⟨m', related, rep'⟩ := arm.sound rep holds run
        exact ⟨m', .inl ⟨by simpa using isTrue, related⟩, rep'⟩
      | iteSkip isFalse =>
        rw [cond] at isFalse
        exact ⟨m, .inr ⟨by simpa using isFalse, rfl⟩, rep⟩)
    (fun {st _ _} rep holds related => by
      have cond := eval_tmp1IsTrue runtime holds hc
      rcases related with ⟨nonzero, related⟩ | ⟨zero, rfl⟩
      · obtain ⟨st', run, rep'⟩ := arm.complete rep holds related t
        exact ⟨st', .iteTrue (by simpa [nonzero] using cond) run, rep'⟩
      · exact ⟨st, .iteSkip (by simpa [zero] using cond), rep⟩)

theorem eval_operands {fs : Funs} {l r : ℝ} (holds : Holds st [(2, l), (1, r)]) :
    (tmp 2).eval fs st = some (.real l) ∧ (tmp 1).eval fs st = some (.real r) :=
  ⟨eval_scratch holds (by simp), eval_scratch holds (by simp)⟩

/-- A one-operand operator that pops into the first register and pushes a function of it. -/
theorem Simulates.unary (runtime : Runtime p arities) {e : Expr} {g : ℝ → ℝ}
    (value : ∀ {st m v}, Represents P slots st m → Holds st [(1, v)] → e.eval p.funs st = some (.real (g v))) :
    Simulates p P slots [] [popTo 1, push e]
      (fun m m' => ∃ (n : Machine) (v : ℝ), m = n.push v ∧ m' = n.push (g v)) :=
  Simulates.popInto runtime (by simp) (by simp) fun _ => Simulates.pushValue runtime (f := fun _ => _) value

/-- A two-operand operator that pops its right operand into the first register, its left one into
the second, and pushes a function of them. -/
theorem Simulates.binary (runtime : Runtime p arities) {k : BinaryKind} {e : Expr} {f : ℝ → ℝ → ℝ}
    (value : ∀ {st m l r}, Represents P slots st m → Holds st [(2, l), (1, r)] →
      e.eval p.funs st = some (.real (f l r)))
    (result : ∀ l r x, k.Result l r x ↔ x = f l r) :
    Simulates p P slots [] [popTo 1, popTo 2, push e] k.Step := by
  refine (Simulates.popInto runtime (by simp) (by simp) fun r => Simulates.popInto runtime (by simp) (by simp)
    fun l => Simulates.pushValue runtime (f := fun _ => f l r) value).congr ?_
  intro m m'
  simp only [BinaryKind.Step, result]
  constructor
  · rintro ⟨_, r, rfl, n, l, rfl, rfl⟩
    exact ⟨n, l, r, _, rfl, rfl, rfl⟩
  · rintro ⟨n, l, r, _, rfl, rfl, rfl⟩
    exact ⟨_, r, rfl, n, l, rfl, rfl⟩

/-- Labels change nothing. -/
theorem Simulates.labels {ss : List Stmt} (h : ∀ st ∈ ss, ∃ l, st = .label l) :
    Simulates p P slots [] ss Eq := by
  induction ss with
  | nil => exact Simulates.nil
  | cons st₀ rest ih =>
    obtain ⟨l, rfl⟩ := h st₀ (by simp)
    have head : Simulates p P slots [] [.label l] Eq := Simulates.skip StmtExec.label_iff
    exact (head.append (ih fun x mem => h x (by simp [mem]))).congr (by simp)

end Steps

section Instructions

variable {p : Program} {arities : List Nat} {slots : ℕ}

theorem leaveScope_labels (env : Env) (σ : State) :
    ∀ st ∈ ((leaveScope env).run σ).1, ∃ l, st = .label l := by
  obtain ⟨_ | ⟨s, rest⟩, _, _, _, _, _⟩ := σ
  · intro st mem
    cases mem
  · intro st mem
    change st ∈ if _ then [Stmt.label s.endLabel] else [] at mem
    split at mem <;> simp_all

theorem lowerUnary_simulates (runtime : Runtime p arities) (env : Env) (op : String) (σ : State) :
    Simulates p env.paramCount slots [] ((lowerUnary env op).run σ).1 (UnaryKind.ofName op).Step := by
  cases kind : UnaryKind.ofName op <;> simp only [lowerUnary, kind]
  case drop => exact Simulates.drop runtime
  case conversion => exact (Simulates.skip StmtExec.comment_iff).congr fun _ _ => eq_comm
  case unsupported =>
    refine ((Simulates.skip StmtExec.comment_iff).append (Simulates.popInto runtime (by simp) (by simp)
      fun _ => (Simulates.unknown runtime).forget)).congr ?_
    intro m m'
    simp only [UnaryKind.Step, Relation.Comp, exists_eq_left']
    constructor
    · rintro ⟨n, v, rfl, r, rfl⟩
      exact ⟨n, v, r, rfl, rfl⟩
    · rintro ⟨n, v, r, rfl, rfl⟩
      exact ⟨n, v, rfl, r, rfl⟩
  case eqz =>
    refine Simulates.unary runtime fun {st _ v} _ holds => ?_
    have zero : (Expr.binary .eq (tmp 1) Expr.realZero).eval p.funs st = some (.bool (decide (v = 0))) := by
      simp [Expr.eval, eval_scratch holds (List.mem_singleton_self _), BinOp.apply]
    simpa using eval_toReal runtime zero
  case neg =>
    exact Simulates.unary runtime fun _ holds => by
      simp [Expr.eval, eval_scratch holds (List.mem_singleton_self _)]
  case abs =>
    refine Simulates.unary runtime fun {st _ v} _ holds => ?_
    by_cases negative : v < 0
    · simp [Expr.eval, eval_scratch holds (List.mem_singleton_self _), BinOp.apply, negative,
        abs_of_neg negative]
    · simp [Expr.eval, eval_scratch holds (List.mem_singleton_self _), BinOp.apply, negative,
        abs_of_nonneg (not_lt.1 negative)]

theorem lowerBinary_simulates (runtime : Runtime p arities) (env : Env) (op : String) (σ : State) :
    Simulates p env.paramCount slots [] ((lowerBinary env op).run σ).1 (BinaryKind.ofName op).Step := by
  cases kind : BinaryKind.ofName op <;> simp only [lowerBinary, kind]
  case unsupported =>
    refine ((Simulates.skip StmtExec.comment_iff).append (Simulates.popInto runtime (by simp) (by simp)
      fun _ => Simulates.popInto runtime (by simp) (by simp)
        fun _ => (Simulates.unknown runtime).forget)).congr ?_
    intro m m'
    simp only [BinaryKind.Step, BinaryKind.Result, Relation.Comp, exists_eq_left', true_and]
    constructor
    · rintro ⟨_, r, rfl, n, l, rfl, x, rfl⟩
      exact ⟨n, l, r, x, rfl, rfl⟩
    · rintro ⟨n, l, r, x, rfl, rfl⟩
      exact ⟨_, r, rfl, n, l, rfl, x, rfl⟩
  all_goals
    refine Simulates.binary runtime (fun {st _ l r} _ holds => ?_) (fun _ _ _ => Iff.rfl)
    obtain ⟨left, right⟩ : (tmp 2).eval p.funs st = some (.real l) ∧ (tmp 1).eval p.funs st = some (.real r) :=
      eval_operands holds
  case add | sub | mul | div => simp [Expr.eval, left, right, BinOp.apply]
  case eq | ne | lt | le | gt | ge => simp [toReal, Expr.eval, left, right, BinOp.apply, funs_bool_to_real runtime]
  case min => by_cases le : l ≤ r <;> simp [Expr.eval, left, right, BinOp.apply, min_def, le]
  case max =>
    by_cases le : l ≤ r
    · rcases le.lt_or_eq with lt | rfl
      · simp [Expr.eval, left, right, BinOp.apply, max_eq_right le, not_le.2 lt]
      · simp [Expr.eval, left, right, BinOp.apply]
    · simp [Expr.eval, left, right, BinOp.apply, le_of_not_ge le]

theorem lowerConst_simulates (runtime : Runtime p arities) (env : Env) (ty : NumType) (literal : String)
    (σ : State) :
    Simulates p env.paramCount slots [] ((lowerInstr env (.const ty literal)).run σ).1 (constStep ty literal) := by
  cases value : literalValue ty literal with
  | some e =>
    obtain ⟨r, real⟩ := realValue_of_literalValue value
    have run : ((lowerInstr env (.const ty literal)).run σ).1 = [push e] := by
      simp only [lowerInstr, value]
      rfl
    rw [run]
    refine (Simulates.pushValue runtime (f := fun _ => r) fun _ _ => Expr.eval_of_realValue real).congr ?_
    intro m m'
    simp [constStep, constValue?, value, real]
  | none =>
    have run : ((lowerInstr env (.const ty literal)).run σ).1 =
        [.comment ("unsupported const value: " ++ ty.name ++ ".const " ++ literal)] ++ pushUnknown := by
      simp only [lowerInstr, value]
      rfl
    rw [run]
    refine ((Simulates.skip StmtExec.comment_iff).append (Simulates.unknown runtime)).congr ?_
    intro m m'
    simp [constStep, constValue?, value, Relation.Comp]

/-- `select` pops the condition into the first register and the values into the other two. -/
theorem select_simulates (runtime : Runtime p arities) {P : ℕ} :
    Simulates p P slots [] [popTo 1, popTo 2, popTo 3, .ite tmp1IsTrue [push (tmp 3)] (some [push (tmp 2)])]
      selectStep := by
  refine (Simulates.popInto runtime (by simp) (by simp) fun c =>
    Simulates.popInto runtime (by simp) (by simp) fun v₂ =>
    Simulates.popInto runtime (by simp) (by simp) fun v₁ =>
    Simulates.branch runtime (c := c) (by simp)
      (Simulates.pushValue runtime (f := fun _ => v₁) fun _ holds => eval_scratch holds (by simp))
      (Simulates.pushValue runtime (f := fun _ => v₂) fun _ holds => eval_scratch holds (by simp))).congr ?_
  intro m m'
  simp only [selectStep]
  constructor
  · rintro ⟨_, c, rfl, _, v₂, rfl, n, v₁, rfl, ⟨nonzero, rfl⟩ | ⟨zero, rfl⟩⟩
    · exact ⟨n, v₁, v₂, c, rfl, by simp [nonzero]⟩
    · exact ⟨n, v₁, v₂, c, rfl, by simp [zero]⟩
  · rintro ⟨n, v₁, v₂, c, rfl, rfl⟩
    refine ⟨_, c, rfl, _, v₂, rfl, n, v₁, rfl, ?_⟩
    by_cases zero : c = 0 <;> simp [zero]

theorem eval_local {fs : Funs} {P j : ℕ} {st : Store} {m : Machine} (rep : Represents P slots st m)
    (hj : j < slots) : (Expr.ident (localName P j)).eval fs st = some (.real (m.locals j)) := by
  simp [Expr.eval, rep.vars j hj]

/-- `local.tee` pops into the slot's variable and pushes the variable back. -/
theorem tee_simulates (runtime : Runtime p arities) (one : 1 ∈ arities) {P j : ℕ} (hj : j < slots) :
    Simulates p P slots [] [.call (Ident.popArgsName 1) [] [localName P j], push (.ident (localName P j))]
      (teeStep j) := by
  refine ((Simulates.setSlot runtime one hj).append
    (Simulates.pushValue runtime (f := fun m => m.locals j) fun rep _ => eval_local rep hj)).congr ?_
  intro m m'
  simp only [Relation.Comp, setStep, teeStep]
  constructor
  · rintro ⟨_, ⟨n, v, rfl, rfl⟩, rfl⟩
    exact ⟨n, v, rfl, by simp⟩
  · rintro ⟨n, v, rfl, rfl⟩
    exact ⟨_, ⟨n, v, rfl, rfl⟩, by simp⟩

/-- The scope's closing label follows its statements and changes nothing. -/
theorem Simulates.closed {ss : List Stmt} {R : Machine → Machine → Prop} {P : ℕ} (env : Env) (σ : State)
    (h : Simulates p P slots [] ss R) : Simulates p P slots [] (ss ++ ((leaveScope env).run σ).1) R :=
  (h.append (Simulates.labels (leaveScope_labels env σ))).congr fun _ _ => by simp [Relation.Comp]

theorem lowerInstr_loop (env : Env) (label : Option String) (body : List Instr) (σ : State) :
    ∃ (starts : List Stmt) (σ₁ σ₂ : State), (∀ st ∈ starts, ∃ l, st = .label l) ∧
      ((lowerInstr env (.loop label body)).run σ).1 =
        starts ++ ((lowerList env body).run σ₁).1 ++ ((leaveScope env).run σ₂).1 := by
  refine ⟨_, _, _, ?_, rfl⟩
  split <;> simp

theorem lowerInstr_ite (env : Env) (label : Option String) (cond thenBody : List Instr)
    (elseBody : Option (List Instr)) (σ : State) :
    ∃ (σ₁ σ₂ : State) (arm : Option (List Stmt)),
      (∀ b, elseBody = some b → ∃ σ₃, arm = some ((lowerList env b).run σ₃).1) ∧
      (elseBody = none → arm = none) ∧
      ((lowerInstr env (.ite label cond thenBody elseBody)).run σ).1 =
        ((lowerList env cond).run σ).1 ++ [popTo 1, .ite tmp1IsTrue ((lowerList env thenBody).run σ₁).1 arm] ++
          ((leaveScope env).run σ₂).1 := by
  cases elseBody with
  | some b => exact ⟨_, _, _, fun _ same => by cases same; exact ⟨_, rfl⟩, by simp, rfl⟩
  | none => exact ⟨_, _, _, by simp, fun _ => rfl, rfl⟩

end Instructions

section Fragments

variable {p : Program} {arities : List Nat} {slots : ℕ}

mutual

theorem lowerInstr_simulates (runtime : Runtime p arities) (one : 1 ∈ arities) (env : Env) :
    ∀ (i : Instr), i.isStraight slots = true → ∀ σ,
      Simulates p env.paramCount slots [] ((lowerInstr env i).run σ).1 i.Eval
  | .const ty literal, _, σ => lowerConst_simulates runtime env ty literal σ
  | .localGet slot, straight, _ =>
    Simulates.pushValue runtime (f := fun m => m.locals slot)
      fun rep _ => eval_local rep (by simpa [Instr.isStraight] using straight)
  | .localSet slot value, straight, σ => by
    simp only [Instr.isStraight, Bool.and_eq_true, decide_eq_true_eq] at straight
    exact (lowerOpt_simulates runtime one env value straight.2 σ).append
      (Simulates.setSlot runtime one straight.1)
  | .localTee slot value, straight, σ => by
    simp only [Instr.isStraight, Bool.and_eq_true, decide_eq_true_eq] at straight
    exact (lowerOpt_simulates runtime one env value straight.2 σ).append
      (tee_simulates runtime one straight.1)
  | .unary op operand, straight, σ =>
    (lowerOpt_simulates runtime one env operand straight σ).append (lowerUnary_simulates runtime env op _)
  | .binary op left right, straight, σ => by
    simp only [Instr.isStraight, Bool.and_eq_true] at straight
    exact ((lowerOpt_simulates runtime one env left straight.1 σ).append
      (lowerOpt_simulates runtime one env right straight.2 _)).append (lowerBinary_simulates runtime env op _)
  | .select operands, straight, σ =>
    (lowerList_simulates runtime one env operands straight σ).append (select_simulates runtime)
  | .block label body, straight, σ =>
    Simulates.closed env _ (lowerList_simulates runtime one env body straight _)
  | .loop label body, straight, σ => by
    obtain ⟨starts, σ₁, σ₂, labels, run⟩ := lowerInstr_loop env label body σ
    rw [run]
    exact Simulates.closed env σ₂ (((Simulates.labels labels).append
      (lowerList_simulates runtime one env body straight σ₁)).congr fun _ _ => by
        simp [Relation.Comp, Instr.Eval])
  | .structural _ body, straight, σ => lowerList_simulates runtime one env body straight σ
  | .ite label cond thenBody (some b), straight, σ => by
    simp only [Instr.isStraight, Bool.and_eq_true] at straight
    obtain ⟨σ₁, σ₂, arm, armSome, -, run⟩ := lowerInstr_ite env label cond thenBody (some b) σ
    obtain ⟨σ₃, rfl⟩ := armSome b rfl
    rw [run]
    exact Simulates.closed env σ₂ ((lowerList_simulates runtime one env cond straight.1.1 σ).append
      (Simulates.popInto runtime (by simp) (by simp) fun c => Simulates.branch runtime (c := c) (by simp)
        (lowerList_simulates runtime one env thenBody straight.1.2 σ₁).forget
        (lowerList_simulates runtime one env b straight.2 σ₃).forget))
  | .ite label cond thenBody none, straight, σ => by
    simp only [Instr.isStraight, Bool.and_eq_true] at straight
    obtain ⟨σ₁, σ₂, arm, -, armNone, run⟩ := lowerInstr_ite env label cond thenBody none σ
    rw [run, armNone rfl]
    exact Simulates.closed env σ₂ ((lowerList_simulates runtime one env cond straight.1.1 σ).append
      (Simulates.popInto runtime (by simp) (by simp) fun c => Simulates.branchSkip runtime (c := c) (by simp)
        (lowerList_simulates runtime one env thenBody straight.1.2 σ₁).forget))
  | .nop, _, _ => Simulates.nil
  | .call .., straight, _ | .br .., straight, _ | .brIf .., straight, _ | .brTable .., straight, _
  | .ret _, straight, _ | .unreachable, straight, _ | .raw _, straight, _ => by
    simp [Instr.isStraight] at straight

theorem lowerOpt_simulates (runtime : Runtime p arities) (one : 1 ∈ arities) (env : Env) :
    ∀ (i : Option Instr), Instr.isStraightOpt slots i = true → ∀ σ,
      Simulates p env.paramCount slots [] ((lowerOpt env i).run σ).1 (Instr.EvalOpt i)
  | some i, straight, σ => lowerInstr_simulates runtime one env i straight σ
  | none, _, _ => Simulates.nil

theorem lowerList_simulates (runtime : Runtime p arities) (one : 1 ∈ arities) (env : Env) :
    ∀ (instrs : List Instr), Instr.isStraightList slots instrs = true → ∀ σ,
      Simulates p env.paramCount slots [] ((lowerList env instrs).run σ).1 (Instr.EvalList instrs)
  | [], _, _ => Simulates.nil
  | i :: rest, straight, σ => by
    simp only [Instr.isStraightList, Bool.and_eq_true] at straight
    exact (lowerInstr_simulates runtime one env i straight.1 σ).append
      (lowerList_simulates runtime one env rest straight.2 _)

end

end Fragments

/-- Straight-line code simulates the operand stack. Take a fragment built from constants, local
accesses, numeric operators, `select`, `nop`, blocks, loops, grouping forms and conditionals,
naming slots below `slots` only, and run the statements it lowers to, in any list, from a store
that represents a machine. The run falls through and ends in a store that represents a result of
evaluating the fragment on the machine; and every such result is the end of some run. -/
theorem straight_line_simulates_operand_stack {p : Program} {arities : List Nat}
    (runtime : Runtime p arities) (one : 1 ∈ arities) (env : Env) {slots : ℕ} {B : List Instr}
    (straight : Instr.isStraightList slots B = true) (σ : State) (body : List Stmt) :
    (∀ {st st' : Store} {o : Outcome} {m : Machine}, Represents env.paramCount slots st m →
        Exec p body ((lowerList env B).run σ).1 st st' o →
        o = .next ∧ ∃ m', Instr.EvalList B m m' ∧ Represents env.paramCount slots st' m') ∧
      (∀ {st : Store} {m m' : Machine}, Represents env.paramCount slots st m → Instr.EvalList B m m' →
        ∃ st', Exec p body ((lowerList env B).run σ).1 st st' .next ∧
          Represents env.paramCount slots st' m') := by
  have sim := lowerList_simulates runtime one env B straight σ
  refine ⟨fun rep run => ?_, fun rep related => sim.complete rep (holds_nil _) related body⟩
  obtain rfl := Exec.outcome_of_falls sim.falls run
  exact ⟨rfl, sim.sound rep (holds_nil _) run⟩

theorem subtraction_of_parameters_simulates :
    ∃ st st' : Store,
      Represents 2 2 st ⟨[], fun j => if j = 0 then 3 else 5⟩ ∧
      Exec ⟨prelude ++ helperDecls [1]⟩
        ((lowerList ⟨{}, {}, "f", scanLabels [], 2⟩
          [.binary "i32.sub" (some (.localGet 0)) (some (.localGet 1))]).run {}).1
        ((lowerList ⟨{}, {}, "f", scanLabels [], 2⟩
          [.binary "i32.sub" (some (.localGet 0)) (some (.localGet 1))]).run {}).1 st st' .next ∧
      Represents 2 2 st' ⟨[-2], fun j => if j = 0 then 3 else 5⟩ := by
  have runtime : Runtime ⟨prelude ++ helperDecls [1]⟩ [1] := ⟨[], [], by simp, by simp⟩
  let ρ : ℕ → ℝ := fun j => if j = 0 then 3 else 5
  let st : Store := ⟨Function.update (Function.update (Function.update (Function.update
    (fun _ => .real 0) spVar (.int 0)) stackVar (.map fun _ => 0)) "arg1" (.real 3)) "arg2" (.real 5),
    fun _ => none, fun _ => .real 0⟩
  have rep : Represents 2 2 st ⟨[], ρ⟩ :=
    { sees := fun _ _ => rfl
      height := rfl
      stack := ⟨fun _ => 0, rfl, by simp⟩
      scratch := fun k hk => ⟨0, by
        simp only [List.mem_cons, List.not_mem_nil, or_false] at hk
        rcases hk with rfl | rfl | rfl <;> rfl⟩
      vars := fun j hj => by
        obtain rfl | rfl : j = 0 ∨ j = 1 := by omega
        · rfl
        · rfl }
  have eval : Instr.EvalList [.binary "i32.sub" (some (.localGet 0)) (some (.localGet 1))]
      ⟨[], ρ⟩ ⟨[-2], ρ⟩ := by
    have sub : BinaryKind.ofName "i32.sub" = .sub := by decide
    refine ⟨⟨[-2], ρ⟩, ⟨⟨[3, 5], ρ⟩, ⟨⟨[3], ρ⟩, ?_, ?_⟩, ?_⟩, rfl⟩
    · simp [Instr.EvalOpt, Instr.Eval, Machine.push, ρ]
    · simp [Instr.EvalOpt, Instr.Eval, Machine.push, ρ]
    · rw [sub]
      exact ⟨⟨[], ρ⟩, 3, 5, -2, by simp [Machine.push], by simp [BinaryKind.Result]; norm_num, by simp [Machine.push]⟩
  obtain ⟨st', run, rep'⟩ := (straight_line_simulates_operand_stack runtime (by simp)
    ⟨{}, {}, "f", scanLabels [], 2⟩ (by decide) {} _).2 rep eval
  exact ⟨st, st', rep, run, rep'⟩

end WasmBoogie.Lower
