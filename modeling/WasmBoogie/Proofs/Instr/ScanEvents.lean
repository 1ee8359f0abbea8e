import WasmBoogie.Proofs.Instr.ScanFrame

namespace WasmBoogie

/-- What a walk over a body does to scopes: it opens a scope, or it resolves a branch target to
an open scope. -/
inductive ScopeEvent where
  | opens (s : OpenScope)
  | reaches (target : LabelRef) (s : OpenScope)
  deriving Repr, DecidableEq

namespace ScopeEvent

def opening : ScopeEvent → Option OpenScope
  | opens s => some s
  | reaches _ _ => none

/-- The events of resolving branch targets in order under the open scopes, innermost first: one
for each target that resolves. -/
def resolving (opened : List OpenScope) (targets : List LabelRef) : List ScopeEvent :=
  targets.flatMap fun t => ((resolveScope opened t).map (reaches t)).toList

theorem opening_resolving (opened : List OpenScope) (targets : List LabelRef) :
    (resolving opened targets).filterMap opening = [] := by
  induction targets with
  | nil => rfl
  | cons t rest ih =>
    simp only [resolving, List.flatMap_cons, List.filterMap_append] at ih ⊢
    rw [ih]
    cases resolveScope opened t <;> rfl

/-- The scopes a sequence of events opens are numbered one after another from `n`. -/
def NumberedFrom (n : Nat) (events : List ScopeEvent) : Prop :=
  (events.filterMap opening).map OpenScope.ordinal = List.range' n (events.filterMap opening).length

namespace NumberedFrom

theorem nil (n : Nat) : NumberedFrom n [] := rfl

theorem resolving (n : Nat) (opened : List OpenScope) (targets : List LabelRef) :
    NumberedFrom n (ScopeEvent.resolving opened targets) := by
  unfold NumberedFrom
  rw [opening_resolving]
  rfl

theorem opens {n : Nat} {s : OpenScope} {events : List ScopeEvent} (ordinal : s.ordinal = n)
    (rest : NumberedFrom (n + 1) events) : NumberedFrom n (.opens s :: events) := by
  unfold NumberedFrom at *
  simp only [List.filterMap_cons, opening, List.map_cons, List.length_cons, List.range'_succ, ordinal, rest]

theorem append {n m : Nat} {xs ys : List ScopeEvent} (first : NumberedFrom n xs) (second : NumberedFrom m ys)
    (next : m = n + (xs.filterMap opening).length) : NumberedFrom n (xs ++ ys) := by
  unfold NumberedFrom at *
  subst next
  rw [List.filterMap_append, List.map_append, first, second, List.length_append, ← List.range'_append_1]

end NumberedFrom

end ScopeEvent

namespace ScanState

/-- Marks a scope: its ordinal joins the needs of its kind. -/
def markScope (st : ScanState) (s : OpenScope) : ScanState :=
  if s.isLoop then { st with needs := { st.needs with loopStarts := insertOnce s.ordinal st.needs.loopStarts } }
  else { st with needs := { st.needs with blockEnds := insertOnce s.ordinal st.needs.blockEnds } }

theorem mark_eq_markScope (opened : List OpenScope) (target : LabelRef) (st : ScanState) :
    st.mark opened target = ((resolveScope opened target).map st.markScope).getD st := by
  unfold mark
  cases resolveScope opened target <;> rfl

theorem mem_markScope_of {st : ScanState} {s : OpenScope} {b : Bool} {o : Nat} :
    o ∈ (st.markScope s).needs.of b ↔ o ∈ st.needs.of b ∨ (s.isLoop = b ∧ o = s.ordinal) := by
  unfold markScope
  cases loop : s.isLoop <;> cases b <;> simp [LabelNeeds.of, mem_insertOnce, or_comm]

theorem nodup_insertOnce {n : Nat} {xs : List Nat} (nodup : xs.Nodup) : (insertOnce n xs).Nodup := by
  unfold insertOnce
  split
  · exact nodup
  · rename_i absent
    refine List.nodup_append.2 ⟨nodup, List.nodup_cons.2 ⟨List.not_mem_nil, List.nodup_nil⟩, ?_⟩
    rintro a mem b single rfl
    rw [List.mem_singleton] at single
    subst single
    exact absent (List.contains_iff_mem.2 mem)

theorem nodup_markScope_of {st : ScanState} (s : OpenScope) (nodup : ∀ b, (st.needs.of b).Nodup) (b : Bool) :
    ((st.markScope s).needs.of b).Nodup := by
  unfold markScope
  cases loop : s.isLoop <;> cases b
  all_goals simp only [LabelNeeds.of, Bool.false_eq_true, if_true, if_false]
  · exact nodup_insertOnce (by simpa [LabelNeeds.of] using nodup false)
  · simpa [LabelNeeds.of] using nodup true
  · simpa [LabelNeeds.of] using nodup false
  · exact nodup_insertOnce (by simpa [LabelNeeds.of] using nodup true)

/-- Replays one event: an opening takes the next ordinal, a reach marks the scope. -/
def record (st : ScanState) : ScopeEvent → ScanState
  | .opens _ => { st with next := st.next + 1 }
  | .reaches _ s => st.markScope s

theorem replay_next (events : List ScopeEvent) (st : ScanState) :
    (events.foldl record st).next = st.next + (events.filterMap ScopeEvent.opening).length := by
  induction events generalizing st with
  | nil => rfl
  | cons e rest ih =>
    rw [List.foldl_cons, ih]
    cases e with
    | opens s => simp only [record, ScopeEvent.opening, List.filterMap_cons, List.length_cons]; omega
    | reaches t s =>
      have kept : (st.markScope s).next = st.next := by unfold markScope; split <;> rfl
      simp only [record, kept, ScopeEvent.opening, List.filterMap_cons]

/-- A replay marks the ordinals marked before and those of the scopes its events reach. -/
theorem mem_replay_of {events : List ScopeEvent} {st : ScanState} {b : Bool} {o : Nat} :
    o ∈ (events.foldl record st).needs.of b ↔
      o ∈ st.needs.of b ∨ ∃ t s, ScopeEvent.reaches t s ∈ events ∧ s.isLoop = b ∧ o = s.ordinal := by
  induction events generalizing st with
  | nil => simp
  | cons e rest ih =>
    rw [List.foldl_cons, ih]
    cases e with
    | opens s => simp [record]
    | reaches t s =>
      simp only [record, mem_markScope_of, List.mem_cons, ScopeEvent.reaches.injEq]
      constructor
      · rintro ((old | ⟨loop, rfl⟩) | ⟨t', s', later, loop, rfl⟩)
        · exact .inl old
        · exact .inr ⟨t, s, .inl ⟨rfl, rfl⟩, loop, rfl⟩
        · exact .inr ⟨t', s', .inr later, loop, rfl⟩
      · rintro (old | ⟨t', s', (⟨rfl, rfl⟩ | later), loop, rfl⟩)
        · exact .inl (.inl old)
        · exact .inl (.inr ⟨loop, rfl⟩)
        · exact .inr ⟨t', s', later, loop, rfl⟩

theorem replay_nodup (events : List ScopeEvent) {st : ScanState} (nodup : ∀ b, (st.needs.of b).Nodup) (b : Bool) :
    ((events.foldl record st).needs.of b).Nodup := by
  induction events generalizing st with
  | nil => exact nodup b
  | cons e rest ih =>
    apply ih
    cases e with
    | opens s => exact nodup
    | reaches t s => exact nodup_markScope_of s nodup

theorem replay_resolving (opened : List OpenScope) (targets : List LabelRef) (st : ScanState) :
    (ScopeEvent.resolving opened targets).foldl record st = targets.foldl (fun st t => st.mark opened t) st := by
  induction targets generalizing st with
  | nil => rfl
  | cons t rest ih =>
    simp only [ScopeEvent.resolving, List.flatMap_cons, List.foldl_append, List.foldl_cons] at ih ⊢
    rw [← ih, mark_eq_markScope]
    cases resolveScope opened t <;> rfl

end ScanState

namespace Instr

mutual

/-- The scope events of scanning one instruction under the open scopes, in the scan's order:
an `if` opens its scope after the events of its condition. -/
def scanEvents (opened : List OpenScope) : Instr → ScanState → List ScopeEvent
  | .block label body, st =>
    let s : OpenScope := ⟨st.next, label, false⟩
    .opens s :: scanEventsList (s :: opened) body { st with next := st.next + 1 }
  | .loop label body, st =>
    let s : OpenScope := ⟨st.next, label, true⟩
    .opens s :: scanEventsList (s :: opened) body { st with next := st.next + 1 }
  | .ite label cond thenBody elseBody, st =>
    let afterCond := scanNeedsList opened cond st
    let s : OpenScope := ⟨afterCond.next, label, false⟩
    let inner : ScanState := { afterCond with next := afterCond.next + 1 }
    scanEventsList opened cond st ++ .opens s :: (scanEventsList (s :: opened) thenBody inner ++
      match elseBody with
      | some e => scanEventsList (s :: opened) e (scanNeedsList (s :: opened) thenBody inner)
      | none => [])
  | .br target ops, st | .brIf target ops, st =>
    scanEventsList opened ops st ++ ScopeEvent.resolving opened [target]
  | .brTable ops targets default, st =>
    scanEventsList opened ops st ++ ScopeEvent.resolving opened (targets ++ [default])
  | .structural _ body, st | .call _ body, st | .select body, st | .ret body, st =>
    scanEventsList opened body st
  | .localSet _ value, st | .localTee _ value, st | .unary _ value, st => scanEventsOpt opened value st
  | .binary _ (some l) right, st => scanEvents opened l st ++ scanEventsOpt opened right (scanNeeds opened l st)
  | .binary _ none right, st => scanEventsOpt opened right st
  | .const .., _ | .localGet _, _ | .nop, _ | .unreachable, _ | .raw _, _ => []

def scanEventsOpt (opened : List OpenScope) : Option Instr → ScanState → List ScopeEvent
  | some i, st => scanEvents opened i st
  | none, _ => []

def scanEventsList (opened : List OpenScope) : List Instr → ScanState → List ScopeEvent
  | [], _ => []
  | i :: rest, st => scanEvents opened i st ++ scanEventsList opened rest (scanNeeds opened i st)

end

mutual

/-- Scanning an instruction is replaying its scope events. -/
theorem scanNeeds_eq_replay : ∀ (opened : List OpenScope) (i : Instr) (st : ScanState),
    scanNeeds opened i st = (scanEvents opened i st).foldl ScanState.record st
  | opened, .localSet _ value, st | opened, .localTee _ value, st | opened, .unary _ value, st => by
    cases value with
    | none => rfl
    | some i => exact scanNeeds_eq_replay opened i st
  | opened, .binary _ left right, st => by
    cases left <;> cases right
    case none.none => rfl
    case none.some r => exact scanNeeds_eq_replay opened r st
    case some.none l =>
      show scanNeeds opened l st = List.foldl ScanState.record st (scanEvents opened l st ++ [])
      rw [List.append_nil]
      exact scanNeeds_eq_replay opened l st
    case some.some l r =>
      show scanNeeds opened r (scanNeeds opened l st) =
        List.foldl ScanState.record st (scanEvents opened l st ++ scanEvents opened r (scanNeeds opened l st))
      rw [List.foldl_append, ← scanNeeds_eq_replay opened l st]
      exact scanNeeds_eq_replay opened r _
  | opened, .call _ ops, st | opened, .select ops, st | opened, .ret ops, st
  | opened, .structural _ ops, st => scanNeedsList_eq_replay opened ops st
  | opened, .block label body, st | opened, .loop label body, st =>
    scanNeedsList_eq_replay _ body { st with next := st.next + 1 }
  | opened, .ite label cond thenBody elseBody, st => by
    have afterCond := scanNeedsList_eq_replay opened cond st
    let s : OpenScope := ⟨(scanNeedsList opened cond st).next, label, false⟩
    let inner := (scanNeedsList opened cond st).record (.opens s)
    have inThen := scanNeedsList_eq_replay (s :: opened) thenBody inner
    cases elseBody with
    | none =>
      show scanNeedsList (s :: opened) thenBody inner = List.foldl ScanState.record st
        (scanEventsList opened cond st ++ .opens s :: (scanEventsList (s :: opened) thenBody inner ++ []))
      rw [List.append_nil, List.foldl_append, ← afterCond, List.foldl_cons]
      exact inThen
    | some b =>
      show scanNeedsList (s :: opened) b (scanNeedsList (s :: opened) thenBody inner) =
        List.foldl ScanState.record st (scanEventsList opened cond st ++ .opens s ::
          (scanEventsList (s :: opened) thenBody inner ++
            scanEventsList (s :: opened) b (scanNeedsList (s :: opened) thenBody inner)))
      rw [List.foldl_append, ← afterCond, List.foldl_cons, List.foldl_append, ← inThen]
      exact scanNeedsList_eq_replay _ b _
  | opened, .br target ops, st | opened, .brIf target ops, st => by
    show [target].foldl (fun st t => st.mark opened t) (scanNeedsList opened ops st) =
      List.foldl ScanState.record st (scanEventsList opened ops st ++ ScopeEvent.resolving opened [target])
    rw [← ScanState.replay_resolving, scanNeedsList_eq_replay opened ops st]
    exact (List.foldl_append ..).symm
  | opened, .brTable ops targets default, st => by
    show (targets ++ [default]).foldl (fun st t => st.mark opened t) (scanNeedsList opened ops st) = _
    rw [← ScanState.replay_resolving, scanNeedsList_eq_replay opened ops st]
    exact (List.foldl_append ..).symm
  | opened, .const .., st | opened, .localGet _, st | opened, .nop, st | opened, .unreachable, st
  | opened, .raw _, st => rfl

theorem scanNeedsList_eq_replay : ∀ (opened : List OpenScope) (is : List Instr) (st : ScanState),
    scanNeedsList opened is st = (scanEventsList opened is st).foldl ScanState.record st
  | opened, [], st => rfl
  | opened, i :: rest, st => by
    show scanNeedsList opened rest (scanNeeds opened i st) =
      List.foldl ScanState.record st (scanEvents opened i st ++ scanEventsList opened rest (scanNeeds opened i st))
    rw [List.foldl_append, ← scanNeeds_eq_replay opened i st]
    exact scanNeedsList_eq_replay opened rest _

end

theorem scanNeeds_next (opened : List OpenScope) (i : Instr) (st : ScanState) :
    (scanNeeds opened i st).next = st.next + ((scanEvents opened i st).filterMap ScopeEvent.opening).length := by
  rw [scanNeeds_eq_replay, ScanState.replay_next]

theorem scanNeedsList_next (opened : List OpenScope) (is : List Instr) (st : ScanState) :
    (scanNeedsList opened is st).next = st.next + ((scanEventsList opened is st).filterMap ScopeEvent.opening).length := by
  rw [scanNeedsList_eq_replay, ScanState.replay_next]

mutual

/-- The scopes an instruction opens are numbered one after another from the scan's count. -/
theorem scanEvents_numbered : ∀ (opened : List OpenScope) (i : Instr) (st : ScanState),
    ScopeEvent.NumberedFrom st.next (scanEvents opened i st)
  | opened, .localSet _ value, st | opened, .localTee _ value, st | opened, .unary _ value, st => by
    cases value with
    | none => exact .nil _
    | some i => exact scanEvents_numbered opened i st
  | opened, .binary _ left right, st => by
    cases left <;> cases right
    case none.none => exact .nil _
    case none.some r => exact scanEvents_numbered opened r st
    case some.none l => exact (scanEvents_numbered opened l st).append (.nil _) rfl
    case some.some l r =>
      exact (scanEvents_numbered opened l st).append (scanEvents_numbered opened r _) (scanNeeds_next opened l st)
  | opened, .call _ ops, st | opened, .select ops, st | opened, .ret ops, st
  | opened, .structural _ ops, st => scanEventsList_numbered opened ops st
  | opened, .block label body, st | opened, .loop label body, st =>
    .opens rfl (scanEventsList_numbered _ body { st with next := st.next + 1 })
  | opened, .ite label cond thenBody elseBody, st => by
    let s : OpenScope := ⟨(scanNeedsList opened cond st).next, label, false⟩
    let inner := (scanNeedsList opened cond st).record (.opens s)
    have afterCond := scanEventsList_numbered opened cond st
    have inThen := scanEventsList_numbered (s :: opened) thenBody inner
    cases elseBody with
    | none =>
      show ScopeEvent.NumberedFrom st.next
        (scanEventsList opened cond st ++ .opens s :: (scanEventsList (s :: opened) thenBody inner ++ []))
      exact afterCond.append (.opens rfl (inThen.append (.nil _) rfl)) (scanNeedsList_next opened cond st)
    | some e =>
      show ScopeEvent.NumberedFrom st.next (scanEventsList opened cond st ++ .opens s ::
        (scanEventsList (s :: opened) thenBody inner ++
          scanEventsList (s :: opened) e (scanNeedsList (s :: opened) thenBody inner)))
      have inElse := scanEventsList_numbered (s :: opened) e (scanNeedsList (s :: opened) thenBody inner)
      exact afterCond.append (.opens rfl (inThen.append inElse (scanNeedsList_next _ thenBody _)))
        (scanNeedsList_next opened cond st)
  | opened, .br target ops, st | opened, .brIf target ops, st =>
    (scanEventsList_numbered opened ops st).append (.resolving _ _ _) (scanNeedsList_next opened ops st)
  | opened, .brTable ops targets default, st =>
    (scanEventsList_numbered opened ops st).append (.resolving _ _ _) (scanNeedsList_next opened ops st)
  | _, .const .., _ | _, .localGet _, _ | _, .nop, _ | _, .unreachable, _ | _, .raw _, _ => .nil _

theorem scanEventsList_numbered : ∀ (opened : List OpenScope) (is : List Instr) (st : ScanState),
    ScopeEvent.NumberedFrom st.next (scanEventsList opened is st)
  | _, [], _ => .nil _
  | opened, i :: rest, st =>
    (scanEvents_numbered opened i st).append (scanEventsList_numbered opened rest _) (scanNeeds_next opened i st)

end

end Instr

/-- A body's branches need the label of a scope exactly when the scan resolves one of their
targets to that scope. -/
theorem mem_scanLabels_of {body : List Instr} {b : Bool} {o : Nat} :
    o ∈ (scanLabels body).of b ↔
      ∃ target label, ScopeEvent.reaches target ⟨o, label, b⟩ ∈ Instr.scanEventsList [] body {} := by
  unfold scanLabels
  rw [Instr.scanNeedsList_eq_replay, ScanState.mem_replay_of]
  constructor
  · rintro (empty | ⟨t, s, mem, rfl, rfl⟩)
    · cases b <;> cases empty
    · exact ⟨t, s.label, mem⟩
  · rintro ⟨t, label, mem⟩
    exact .inr ⟨t, _, mem, rfl, rfl⟩

theorem scanLabels_nodup (body : List Instr) (b : Bool) : ((scanLabels body).of b).Nodup := by
  unfold scanLabels
  rw [Instr.scanNeedsList_eq_replay]
  exact ScanState.replay_nodup _ (fun b => by cases b <;> exact List.nodup_nil) b

example : scanLabels [.loop (some "l") [.br (.name "l") []], .block none [.brIf (.depth 0) [], .br (.depth 1) []]] =
    { loopStarts := [0], blockEnds := [1] } := by decide

end WasmBoogie
