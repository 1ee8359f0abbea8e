import WasmBoogie.Proofs.Instr.ScanEvents

namespace WasmBoogie

/-- The order in which a table branch tests its entries and jumps: a table without targets jumps
to its default alone; any other to the default for an index out of range, to each target for its
own index, and to the default again after the last test. -/
def tableOrder {α : Type} (targets : List α) (default : α) : List α :=
  match targets with
  | [] => [default]
  | _ :: _ => default :: (targets ++ [default])

theorem mem_tableOrder {α : Type} {a default : α} {targets : List α} :
    a ∈ tableOrder targets default ↔ a ∈ targets ∨ a = default := by
  cases targets with
  | nil => simp [tableOrder]
  | cons first rest =>
    rw [tableOrder, List.mem_cons, List.mem_append, List.mem_singleton]
    constructor
    · rintro (isDefault | inTargets | isDefault)
      · exact .inr isDefault
      · exact .inl inTargets
      · exact .inr isDefault
    · rintro (inTargets | isDefault)
      · exact .inr (.inl inTargets)
      · exact .inl isDefault

/-- Where a jump leaves to: an enclosing scope, or the end of the function. -/
inductive JumpDest where
  | scope (s : OpenScope)
  | exit
  deriving Repr, DecidableEq

namespace JumpDest

/-- Where a branch target leaves to among the enclosing scopes, innermost first: the scope it
selects, or the end of the function when it selects none. -/
def ofTarget (opened : List OpenScope) (target : LabelRef) : JumpDest :=
  ((resolveScope opened target).map scope).getD exit

theorem ofTarget_eq_scope {opened : List OpenScope} {target : LabelRef} {s : OpenScope} :
    ofTarget opened target = scope s ↔ resolveScope opened target = some s := by
  unfold ofTarget
  cases resolveScope opened target <;> simp

end JumpDest

namespace Instr

mutual

/-- The destinations of the branches of an instruction, in written order, under the enclosing
scopes (innermost first), the scopes opened before it counted by the scan's state. -/
def jumpDests (opened : List OpenScope) : Instr → ScanState → List JumpDest
  | .block label body, st =>
    jumpDestsList (⟨st.next, label, false⟩ :: opened) body { st with next := st.next + 1 }
  | .loop label body, st =>
    jumpDestsList (⟨st.next, label, true⟩ :: opened) body { st with next := st.next + 1 }
  | .ite label cond thenBody elseBody, st =>
    let afterCond := scanNeedsList opened cond st
    let s : OpenScope := ⟨afterCond.next, label, false⟩
    let inner : ScanState := { afterCond with next := afterCond.next + 1 }
    jumpDestsList opened cond st ++ (jumpDestsList (s :: opened) thenBody inner ++
      match elseBody with
      | some e => jumpDestsList (s :: opened) e (scanNeedsList (s :: opened) thenBody inner)
      | none => [])
  | .br target ops, st | .brIf target ops, st =>
    jumpDestsList opened ops st ++ [JumpDest.ofTarget opened target]
  | .brTable ops targets default, st =>
    jumpDestsList opened ops st ++
      tableOrder (targets.map (JumpDest.ofTarget opened)) (JumpDest.ofTarget opened default)
  | .ret ops, st => jumpDestsList opened ops st ++ [.exit]
  | .structural _ body, st | .call _ body, st | .select body, st => jumpDestsList opened body st
  | .localSet _ value, st | .localTee _ value, st | .unary _ value, st => jumpDestsOpt opened value st
  | .binary _ (some l) right, st => jumpDests opened l st ++ jumpDestsOpt opened right (scanNeeds opened l st)
  | .binary _ none right, st => jumpDestsOpt opened right st
  | .const .., _ | .localGet _, _ | .nop, _ | .unreachable, _ | .raw _, _ => []

def jumpDestsOpt (opened : List OpenScope) : Option Instr → ScanState → List JumpDest
  | some i, st => jumpDests opened i st
  | none, _ => []

def jumpDestsList (opened : List OpenScope) : List Instr → ScanState → List JumpDest
  | [], _ => []
  | i :: rest, st => jumpDests opened i st ++ jumpDestsList opened rest (scanNeeds opened i st)

end

example : jumpDestsList [] [.block none [.ite none [.br (.depth 0) []] [.br (.depth 0) []] none]] {} =
    [.scope ⟨0, none, false⟩, .scope ⟨1, none, false⟩] := by
  decide

end Instr

/-- Every scope among some jump destinations is reached by an event among some scope events. -/
def Reaches (dests : List JumpDest) (events : List ScopeEvent) : Prop :=
  ∀ s, JumpDest.scope s ∈ dests → ∃ t, ScopeEvent.reaches t s ∈ events

namespace Reaches

variable {xs ys : List JumpDest} {xs' ys' : List ScopeEvent}

theorem nil (events : List ScopeEvent) : Reaches [] events := fun _ mem => nomatch mem

theorem exit (events : List ScopeEvent) : Reaches [.exit] events := fun _ mem => nomatch mem

theorem append (first : Reaches xs xs') (second : Reaches ys ys') : Reaches (xs ++ ys) (xs' ++ ys') := by
  intro s mem
  rcases List.mem_append.1 mem with inFirst | inSecond
  · obtain ⟨t, reached⟩ := first s inFirst
    exact ⟨t, List.mem_append_left _ reached⟩
  · obtain ⟨t, reached⟩ := second s inSecond
    exact ⟨t, List.mem_append_right _ reached⟩

theorem cons (e : ScopeEvent) (rest : Reaches xs xs') : Reaches xs (e :: xs') := by
  intro s mem
  obtain ⟨t, reached⟩ := rest s mem
  exact ⟨t, List.mem_cons_of_mem _ reached⟩

/-- A target that selects a scope is resolved to it. -/
theorem resolving (opened : List OpenScope) (targets : List LabelRef) :
    Reaches (targets.map (JumpDest.ofTarget opened)) (ScopeEvent.resolving opened targets) := by
  intro s mem
  obtain ⟨t, within, dest⟩ := List.mem_map.1 mem
  refine ⟨t, ?_⟩
  simp only [ScopeEvent.resolving, List.mem_flatMap]
  exact ⟨t, within, by simp [JumpDest.ofTarget_eq_scope.1 dest]⟩

/-- A table dispatch jumps to scopes its targets or its default select. -/
theorem dispatch (opened : List OpenScope) (targets : List LabelRef) (default : LabelRef) :
    Reaches (tableOrder (targets.map (JumpDest.ofTarget opened)) (JumpDest.ofTarget opened default))
      (ScopeEvent.resolving opened (targets ++ [default])) := by
  intro s mem
  apply resolving opened (targets ++ [default]) s
  rw [List.map_append, List.mem_append]
  rcases mem_tableOrder.1 mem with inTargets | isDefault
  · exact .inl inTargets
  · exact .inr (isDefault ▸ List.mem_singleton_self _)

end Reaches

namespace Instr

mutual

/-- Every scope a branch leaves to is one that the scan reaches from that branch. -/
theorem reaches_jumpDests : ∀ (opened : List OpenScope) (i : Instr) (st : ScanState),
    Reaches (jumpDests opened i st) (scanEvents opened i st)
  | opened, .block label body, st | opened, .loop label body, st => (reaches_jumpDestsList _ body _).cons _
  | opened, .ite label cond thenBody elseBody, st => by
    cases elseBody with
    | none =>
      exact (reaches_jumpDestsList opened cond st).append
        (((reaches_jumpDestsList _ thenBody _).append (Reaches.nil [])).cons _)
    | some e =>
      exact (reaches_jumpDestsList opened cond st).append
        (((reaches_jumpDestsList _ thenBody _).append (reaches_jumpDestsList _ e _)).cons _)
  | opened, .br target ops, st | opened, .brIf target ops, st =>
    (reaches_jumpDestsList opened ops st).append (Reaches.resolving opened [target])
  | opened, .brTable ops targets default, st =>
    (reaches_jumpDestsList opened ops st).append (Reaches.dispatch opened targets default)
  | opened, .ret ops, st => by
    have operands := (reaches_jumpDestsList opened ops st).append (Reaches.exit [])
    rw [List.append_nil] at operands
    exact operands
  | opened, .structural _ body, st | opened, .call _ body, st | opened, .select body, st =>
    reaches_jumpDestsList opened body st
  | opened, .localSet _ value, st | opened, .localTee _ value, st | opened, .unary _ value, st =>
    reaches_jumpDestsOpt opened value st
  | opened, .binary _ (some l) right, st =>
    (reaches_jumpDests opened l st).append (reaches_jumpDestsOpt opened right _)
  | opened, .binary _ none right, st => reaches_jumpDestsOpt opened right st
  | _, .const .., _ | _, .localGet _, _ | _, .nop, _ | _, .unreachable, _ | _, .raw _, _ => Reaches.nil []

theorem reaches_jumpDestsOpt : ∀ (opened : List OpenScope) (i : Option Instr) (st : ScanState),
    Reaches (jumpDestsOpt opened i st) (scanEventsOpt opened i st)
  | opened, some i, st => reaches_jumpDests opened i st
  | _, none, _ => Reaches.nil []

theorem reaches_jumpDestsList : ∀ (opened : List OpenScope) (is : List Instr) (st : ScanState),
    Reaches (jumpDestsList opened is st) (scanEventsList opened is st)
  | opened, i :: rest, st => (reaches_jumpDests opened i st).append (reaches_jumpDestsList opened rest _)
  | _, [], _ => Reaches.nil []

end

/-- Every scope a branch of a body leaves to is one whose label the pre-scan finds needed: the
start of a loop, the end of a block or an `if`. -/
theorem needed_of_jumpDestsList {body : List Instr} {s : OpenScope}
    (dest : JumpDest.scope s ∈ jumpDestsList [] body {}) : s.ordinal ∈ (scanLabels body).of s.isLoop := by
  obtain ⟨t, reached⟩ := reaches_jumpDestsList [] body {} s dest
  rw [scanLabels, scanNeedsList_eq_replay]
  exact ScanState.mem_replay_of.2 (.inr ⟨t, s, reached, rfl, rfl⟩)

end Instr

end WasmBoogie
