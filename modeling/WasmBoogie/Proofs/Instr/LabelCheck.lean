import WasmBoogie.Instr.Labels

namespace WasmBoogie

theorem Except.pure_eq_ok {ε α : Type} (a : α) : (pure a : Except ε α) = .ok a := rfl

theorem Except.bind_eq_ok_iff {ε α β : Type} {x : Except ε α} {f : α → Except ε β} {b : β} :
    x >>= f = .ok b ↔ ∃ a, x = .ok a ∧ f a = .ok b := by
  cases x <;> simp [bind, Except.bind]

namespace Instr

mutual

/-- The scopes an instruction opens, in reading order, each with its label and the labels of
the scopes around it, innermost first. The condition of an `if` stands outside its scope. -/
def scopeContexts (around : List (Option String)) : Instr → List (Option String × List (Option String))
  | .block label body | .loop label body => (label, around) :: scopeContextsList (label :: around) body
  | .ite label cond thenBody (some elseBody) =>
    scopeContextsList around cond ++ (label, around) ::
      (scopeContextsList (label :: around) thenBody ++ scopeContextsList (label :: around) elseBody)
  | .ite label cond thenBody none =>
    scopeContextsList around cond ++ (label, around) :: scopeContextsList (label :: around) thenBody
  | .localSet _ v | .localTee _ v | .unary _ v => scopeContextsOpt around v
  | .binary _ l r => scopeContextsOpt around l ++ scopeContextsOpt around r
  | .call _ ops | .select ops | .structural _ ops | .ret ops | .br _ ops | .brIf _ ops
  | .brTable ops _ _ => scopeContextsList around ops
  | .const .. | .localGet _ | .nop | .unreachable | .raw _ => []

def scopeContextsOpt (around : List (Option String)) : Option Instr → List (Option String × List (Option String))
  | some i => scopeContexts around i
  | none => []

def scopeContextsList (around : List (Option String)) : List Instr → List (Option String × List (Option String))
  | [] => []
  | i :: rest => scopeContexts around i ++ scopeContextsList around rest

end

/-- No scope is labelled like a scope around it. -/
def FreshLabels (contexts : List (Option String × List (Option String))) : Prop :=
  ∀ c ∈ contexts, ∀ l, c.1 = some l → some l ∉ c.2

/-- A scope of the body is labelled like a scope around it. -/
def RepeatsLabel (body : List Instr) : Prop :=
  ∃ l around, (some l, around) ∈ scopeContextsList [] body ∧ some l ∈ around

namespace FreshLabels

theorem nil : FreshLabels [] := fun _ none => absurd none List.not_mem_nil

theorem append_iff {xs ys : List (Option String × List (Option String))} :
    FreshLabels (xs ++ ys) ↔ FreshLabels xs ∧ FreshLabels ys := by
  simp only [FreshLabels, List.mem_append, or_imp, forall_and]

theorem cons_iff {label : Option String} {around : List (Option String)}
    {rest : List (Option String × List (Option String))} :
    FreshLabels ((label, around) :: rest) ↔ (∀ l, label = some l → some l ∉ around) ∧ FreshLabels rest := by
  simp only [FreshLabels, List.mem_cons, or_imp, forall_and, forall_eq]

end FreshLabels

theorem enterScope_ok_iff {label : Option String} {opened inner : List (Option String)} :
    enterScope label opened = .ok inner ↔ (∀ l, label = some l → some l ∉ opened) ∧ inner = label :: opened := by
  cases label with
  | none => simp [enterScope, eq_comm]
  | some l =>
    by_cases open_ : opened.contains (some l)
    · have mem : some l ∈ opened := by simpa using open_
      simp [enterScope, mem]
    · have fresh : some l ∉ opened := by simpa using open_
      simp [enterScope, fresh, eq_comm]

/-- Opening a scope and checking what it holds succeeds exactly when the scope's label is fresh
and what it holds repeats no label. -/
theorem enterScope_bind_ok_iff {label : Option String} {opened : List (Option String)}
    {k : List (Option String) → Except ParseError Unit} :
    (enterScope label opened >>= k) = .ok () ↔ (∀ l, label = some l → some l ∉ opened) ∧ k (label :: opened) = .ok () := by
  rw [Except.bind_eq_ok_iff]
  constructor
  · rintro ⟨inner, entered, checked⟩
    obtain ⟨fresh, rfl⟩ := enterScope_ok_iff.1 entered
    exact ⟨fresh, checked⟩
  · rintro ⟨fresh, checked⟩
    exact ⟨_, enterScope_ok_iff.2 ⟨fresh, rfl⟩, checked⟩

theorem unit_bind_ok_iff {x y : Except ParseError Unit} : (x >>= fun _ => y) = .ok () ↔ x = .ok () ∧ y = .ok () := by
  rw [Except.bind_eq_ok_iff]
  exact ⟨fun ⟨_, ran, next⟩ => ⟨ran, next⟩, fun ⟨ran, next⟩ => ⟨(), ran, next⟩⟩

mutual

theorem checkLabels_ok_iff (opened : List (Option String)) : ∀ i : Instr,
    checkLabels opened i = .ok () ↔ FreshLabels (scopeContexts opened i)
  | .block label body | .loop label body => by
    rw [checkLabels, scopeContexts, enterScope_bind_ok_iff, FreshLabels.cons_iff, checkLabelsList_ok_iff]
  | .ite label cond thenBody (some elseBody) => by
    simp only [checkLabels, scopeContexts, unit_bind_ok_iff, enterScope_bind_ok_iff, checkLabelsList_ok_iff,
      FreshLabels.append_iff, FreshLabels.cons_iff]
  | .ite label cond thenBody none => by
    simp only [checkLabels, scopeContexts, unit_bind_ok_iff, enterScope_bind_ok_iff, checkLabelsList_ok_iff,
      FreshLabels.append_iff, FreshLabels.cons_iff, Except.pure_eq_ok, and_true]
  | .localSet _ (some child) | .localTee _ (some child) | .unary _ (some child) => by
    rw [checkLabels, scopeContexts, scopeContextsOpt, checkLabels_ok_iff opened child]
  | .localSet _ none | .localTee _ none | .unary _ none => by
    simp [checkLabels, scopeContexts, scopeContextsOpt, FreshLabels.nil, Except.pure_eq_ok]
  | .binary _ (some left) (some right) => by
    simp only [checkLabels, scopeContexts, scopeContextsOpt, unit_bind_ok_iff, checkLabels_ok_iff opened left,
      checkLabels_ok_iff opened right, FreshLabels.append_iff]
  | .binary _ (some left) none => by
    simp [checkLabels, scopeContexts, scopeContextsOpt, unit_bind_ok_iff, checkLabels_ok_iff opened left,
      Except.pure_eq_ok]
  | .binary _ none (some right) => by
    simp [checkLabels, scopeContexts, scopeContextsOpt, checkLabels_ok_iff opened right]
  | .binary _ none none => by
    simp [checkLabels, scopeContexts, scopeContextsOpt, FreshLabels.nil, Except.pure_eq_ok]
  | .call _ ops | .select ops | .structural _ ops | .ret ops | .br _ ops | .brIf _ ops | .brTable ops _ _ => by
    rw [checkLabels, scopeContexts, checkLabelsList_ok_iff]
  | .const .. | .localGet _ | .nop | .unreachable | .raw _ => by
    simp [checkLabels, scopeContexts, FreshLabels.nil, Except.pure_eq_ok]

theorem checkLabelsList_ok_iff (opened : List (Option String)) : ∀ is : List Instr,
    checkLabelsList opened is = .ok () ↔ FreshLabels (scopeContextsList opened is)
  | [] => by simp [checkLabelsList, scopeContextsList, FreshLabels.nil, Except.pure_eq_ok]
  | i :: rest => by
    rw [checkLabelsList, scopeContextsList, unit_bind_ok_iff, FreshLabels.append_iff, checkLabels_ok_iff opened i,
      checkLabelsList_ok_iff opened rest]

end

/-- Opens the scopes of a list of contexts one after another, each under the labels around it:
the label check with its walk over the body taken out. -/
def openScopes : List (Option String × List (Option String)) → Except ParseError Unit
  | [] => pure ()
  | (label, around) :: rest => do
    let _ ← enterScope label around
    openScopes rest

theorem openScopes_append (xs ys : List (Option String × List (Option String))) :
    openScopes (xs ++ ys) = (openScopes xs >>= fun _ => openScopes ys) := by
  induction xs with
  | nil => rfl
  | cons c rest ih =>
    obtain ⟨label, around⟩ := c
    simp only [List.cons_append, openScopes, ih, bind_assoc]

theorem enterScope_eq_error_iff {label : Option String} {opened : List (Option String)} {e : ParseError} :
    enterScope label opened = .error e ↔
      ∃ l, label = some l ∧ some l ∈ opened ∧ e = .duplicateLabel l opened.length := by
  cases label with
  | none => simp [enterScope]
  | some l =>
    by_cases open_ : some l ∈ opened
    · simp [enterScope, open_, eq_comm]
    · simp [enterScope, open_]

/-- Once a scope is open, the open scopes are its label in front of those around it. -/
theorem enterScope_bind {β : Type} {label : Option String} {opened : List (Option String)}
    (k : List (Option String) → Except ParseError β) :
    (enterScope label opened >>= k) = (enterScope label opened >>= fun _ => k (label :: opened)) := by
  cases entered : enterScope label opened with
  | error e => rfl
  | ok inner =>
    obtain ⟨-, rfl⟩ := enterScope_ok_iff.1 entered
    rfl

mutual

/-- The label check of an instruction opens the scopes of the instruction in reading order. -/
theorem checkLabels_eq_openScopes (opened : List (Option String)) : ∀ i : Instr,
    checkLabels opened i = openScopes (scopeContexts opened i)
  | .block label body | .loop label body => by
    rw [checkLabels, scopeContexts, openScopes, enterScope_bind, checkLabelsList_eq_openScopes]
  | .ite label cond thenBody (some elseBody) => by
    rw [checkLabels, scopeContexts, openScopes_append, openScopes, openScopes_append, enterScope_bind]
    dsimp only
    rw [checkLabelsList_eq_openScopes, checkLabelsList_eq_openScopes, checkLabelsList_eq_openScopes]
  | .ite label cond thenBody none => by
    rw [checkLabels, scopeContexts, openScopes_append, openScopes, enterScope_bind]
    dsimp only
    rw [checkLabelsList_eq_openScopes, checkLabelsList_eq_openScopes]
    simp only [bind_pure_unit]
  | .localSet _ (some child) | .localTee _ (some child) | .unary _ (some child) => by
    rw [checkLabels, scopeContexts, scopeContextsOpt, checkLabels_eq_openScopes opened child]
  | .localSet _ none | .localTee _ none | .unary _ none => rfl
  | .binary _ (some left) (some right) => by
    rw [checkLabels, scopeContexts, scopeContextsOpt, scopeContextsOpt, openScopes_append,
      checkLabels_eq_openScopes opened left, checkLabels_eq_openScopes opened right]
  | .binary _ (some left) none => by
    rw [checkLabels, scopeContexts, scopeContextsOpt, scopeContextsOpt, List.append_nil]
    dsimp only
    rw [checkLabels_eq_openScopes opened left, bind_pure_unit]
  | .binary _ none (some right) => by
    rw [checkLabels, scopeContexts, scopeContextsOpt, scopeContextsOpt, List.nil_append]
    dsimp only
    rw [checkLabels_eq_openScopes opened right]
  | .binary _ none none => rfl
  | .call _ ops | .select ops | .structural _ ops | .ret ops | .br _ ops | .brIf _ ops | .brTable ops _ _ => by
    rw [checkLabels, scopeContexts, checkLabelsList_eq_openScopes]
  | .const .. | .localGet _ | .nop | .unreachable | .raw _ => rfl

theorem checkLabelsList_eq_openScopes (opened : List (Option String)) : ∀ is : List Instr,
    checkLabelsList opened is = openScopes (scopeContextsList opened is)
  | [] => rfl
  | i :: rest => by
    rw [checkLabelsList, scopeContextsList, openScopes_append, checkLabels_eq_openScopes opened i,
      checkLabelsList_eq_openScopes opened rest]

end

/-- Opening the scopes fails exactly at the first scope whose label is open around it, after
scopes that all open; it reports that label with the number of scopes around it. -/
theorem openScopes_eq_error_iff {cs : List (Option String × List (Option String))} {e : ParseError} :
    openScopes cs = .error e ↔ ∃ pre l around rest, cs = pre ++ (some l, around) :: rest ∧
      FreshLabels pre ∧ some l ∈ around ∧ e = .duplicateLabel l around.length := by
  induction cs with
  | nil => simp [openScopes, Except.pure_eq_ok]
  | cons c rest ih =>
    obtain ⟨label, around⟩ := c
    rw [openScopes]
    cases entered : enterScope label around with
    | error e' =>
      obtain ⟨l, rfl, open_, rfl⟩ := enterScope_eq_error_iff.1 entered
      constructor
      · rintro ⟨⟩
        exact ⟨[], l, around, rest, rfl, FreshLabels.nil, open_, rfl⟩
      · rintro ⟨pre, l', around', rest', split, fresh, -, rfl⟩
        rcases List.cons_eq_append_iff.1 split with ⟨rfl, found⟩ | ⟨pre', rfl, -⟩
        · simp only [List.cons.injEq, Prod.mk.injEq, Option.some.injEq] at found
          obtain ⟨⟨rfl, rfl⟩, -⟩ := found
          rfl
        · exact absurd open_ ((FreshLabels.cons_iff.1 fresh).1 l rfl)
    | ok inner =>
      have opens := (enterScope_ok_iff.1 entered).1
      change openScopes rest = .error e ↔ _
      rw [ih]
      constructor
      · rintro ⟨pre, l, around', rest', rfl, fresh, open_, rfl⟩
        exact ⟨(label, around) :: pre, l, around', rest', rfl, FreshLabels.cons_iff.2 ⟨opens, fresh⟩, open_, rfl⟩
      · rintro ⟨pre, l, around', rest', split, fresh, open_, rfl⟩
        rcases List.cons_eq_append_iff.1 split with ⟨rfl, found⟩ | ⟨pre', rfl, found⟩
        · simp only [List.cons.injEq, Prod.mk.injEq] at found
          obtain ⟨⟨rfl, rfl⟩, -⟩ := found
          exact absurd open_ (opens l rfl)
        · exact ⟨pre', l, around', rest', found, (FreshLabels.cons_iff.1 fresh).2, open_, rfl⟩

end Instr

/-- The label check accepts exactly the bodies that repeat no label. -/
theorem verifyLabels_ok_iff (body : List Instr) : verifyLabels body = .ok () ↔ ¬ Instr.RepeatsLabel body := by
  rw [verifyLabels, Instr.checkLabelsList_ok_iff]
  simp only [Instr.FreshLabels, Instr.RepeatsLabel, not_exists, not_and]
  constructor
  · intro fresh l around mem repeated
    exact fresh _ mem l rfl repeated
  · rintro fresh ⟨label, around⟩ mem l rfl
    exact fresh l around mem

/-- The label check reports nothing but a repeated label. -/
theorem verifyLabels_error {body : List Instr} {e : ParseError} (failed : verifyLabels body = .error e) :
    ∃ l n, e = .duplicateLabel l n := by
  rw [verifyLabels, Instr.checkLabelsList_eq_openScopes, Instr.openScopes_eq_error_iff] at failed
  obtain ⟨-, l, around, -, -, -, -, rfl⟩ := failed
  exact ⟨l, around.length, rfl⟩

/-- The label check accepts a body exactly when none of its scopes repeats the label of a scope
around it. Otherwise it reports the first scope in reading order that does, with the repeated
label and the number of scopes around that scope. -/
theorem verifyLabels_reports_first_repeat (body : List Instr) :
    (verifyLabels body = .ok () ↔ ¬ Instr.RepeatsLabel body) ∧
    ∀ e, verifyLabels body = .error e ↔ ∃ pre l around rest,
      Instr.scopeContextsList [] body = pre ++ (some l, around) :: rest ∧ Instr.FreshLabels pre ∧
      some l ∈ around ∧ e = .duplicateLabel l around.length := by
  refine ⟨verifyLabels_ok_iff body, fun e => ?_⟩
  rw [verifyLabels, Instr.checkLabelsList_eq_openScopes]
  exact Instr.openScopes_eq_error_iff

/-- A block labelled like the block two scopes out is reported at depth two. -/
example : verifyLabels [.block (some "a") [.loop (some "b") [.block (some "a") [.br (.name "a") []]]]] =
    .error (.duplicateLabel "a" 2) := by
  rfl

end WasmBoogie
