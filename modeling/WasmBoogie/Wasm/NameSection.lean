import WasmBoogie.Wasm.Binary

namespace WasmBoogie.Wasm

/-- Why a name section cannot be read. -/
inductive NameError where
  /-- A subsection could not be framed or started. -/
  | subsection
  /-- An entry of the function names could not be read. -/
  | functionName
  deriving Repr, DecidableEq, Inhabited

namespace NameSection

open Binary

/-- The longest module name. -/
def maxModuleName : Nat := 100000

/-- Reads a subsection's frame: its id and its contents. -/
def subsection : DecodeM (Nat × List UInt8) := do
  let id := (← byte).toNat
  if id ≥ 128 then throw "invalid subsection id"
  let size ← u32
  pure (id, ← bytes size)

/-- Reads a module name that fills its subsection. -/
def moduleName : DecodeM String := do
  let n ← u32
  if n > maxModuleName then throw "string size out of bounds"
  let bs ← bytes n
  if !(← get).isEmpty then throw "trailing data at the end of a name"
  match String.fromUTF8? (ByteArray.mk bs.toArray) with
  | some s => pure s
  | none => throw "malformed UTF-8 encoding"

/-- Reads `count` entries of function names, which must fill what is left. -/
def functionEntries (count : Nat) : DecodeM (List (Nat × String)) := do
  let rec go : Nat → List (Nat × String) → DecodeM (List (Nat × String))
    | 0, acc => do
      if !(← get).isEmpty then throw "unexpected data at the end of the section"
      pure acc.reverse
    | k + 1, acc => do
      let i ← u32
      go k ((i, ← name) :: acc)
  go count []

/-- What one subsection gives: for the function names, their entries; for any other, none. -/
def subsectionNames (id : Nat) (content : List UInt8) :
    Except NameError (List (Nat × String)) :=
  if id == 0 then
    match moduleName.run content with
    | .ok _ => .ok []
    | .error _ => .error .subsection
  else if id ≤ 11 then
    match u32.run content with
    | .error _ => .error .subsection
    | .ok (count, entries) =>
      if id == 1 then
        match (functionEntries count).run entries with
        | .ok (names, _) => .ok names
        | .error _ => .error .functionName
      else .ok []
  else .ok []

/-- The function names of a name section's contents, in order. Every subsection takes at least
two bytes, so the contents' length bounds the steps.

A name section is a sequence of subsections, each an id byte below 128, a size, and that many
bytes. Subsection 0 holds the module's name, a string of at most 100000 bytes that fills it;
subsections 1 to 11 start with a count of entries; any other is skipped. Subsection 1 maps
function indices to names: its entries, an index and a UTF-8 string each, are read in order
and must fill it exactly. A subsection that cannot be framed or started is malformed; so is an
entry of the function names that cannot be read, which is told apart from the first. -/
def functionNames (bs : List UInt8) : Except NameError (List (Nat × String)) :=
  let rec go : Nat → List UInt8 → List (Nat × String) → Except NameError (List (Nat × String))
    | 0, _, acc => .ok acc
    | fuel + 1, bs, acc =>
      if bs.isEmpty then .ok acc
      else match subsection.run bs with
        | .error _ => .error .subsection
        | .ok ((id, content), rest) => do
          let names ← subsectionNames id content
          go fuel rest (acc ++ names)
  go bs.length bs []

end NameSection

/-- The function names of a module: those it comes with, then those of its name sections in
order; a later name for an index wins over an earlier one. -/
def Module.functionNames (m : Module) : Except NameError (List (Nat × String)) := do
  let fromSections ← m.nameSections.mapM NameSection.functionNames
  pure (m.names ++ fromSections.flatten)

end WasmBoogie.Wasm
