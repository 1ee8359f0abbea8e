import WasmBoogie.Instr.Basic

namespace WasmBoogie

/-- The declared slots: their number and the named ones, the latest declaration first.

Parameters and locals share one numbering: each declaration takes the next slot, and a
declaration with a name makes the name an alias of its slot. A later declaration of the same
name takes the name over. Slot counts are 32-bit words, so the count wraps past the largest
word. -/
structure LocalTable where
  slots : Nat := 0
  declared : List (String × Nat) := []
  deriving Repr, Inhabited

namespace LocalTable

/-- A table of anonymous slots. -/
def withSlots (slots : Nat) : LocalTable :=
  { slots }

/-- The slot a name stands for: that of its latest declaration. -/
def alias? (t : LocalTable) (name : String) : Option Nat :=
  (t.declared.find? (·.1 == name)).map (·.2)

/-- Declares the next slot, under a name if one is given; the count wraps as a 32-bit word. -/
def declare (t : LocalTable) (name : Option String) : LocalTable :=
  { slots := (t.slots + 1) % Nat.pow 2 32
    declared := match name with
      | some n => (n, t.slots) :: t.declared
      | none => t.declared }

/-- Declares anonymous slots until there are at least the given number. -/
def padTo (t : LocalTable) (n : Nat) : LocalTable :=
  { t with slots := max t.slots n }

/-- Each name with the slot of its latest declaration, in order of those declarations, latest
first. -/
def aliases (t : LocalTable) : List (String × Nat) :=
  t.declared.foldl (fun acc p => if acc.any (·.1 == p.1) then acc else acc ++ [p]) []

end LocalTable

end WasmBoogie
