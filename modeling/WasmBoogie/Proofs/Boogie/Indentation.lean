import Mathlib.Data.List.DropRight
import Mathlib.Data.List.Chain
import WasmBoogie.Boogie.Layout

namespace WasmBoogie.Text

theorem not_mem_of_mem_splitOn {c : Char} {cs piece : List Char} (h : piece ∈ cs.splitOn c) :
    c ∉ piece := by
  induction cs generalizing piece with
  | nil =>
    rw [List.splitOn_nil, List.mem_singleton] at h
    simp [h]
  | cons x xs ih =>
    rw [List.splitOn_cons_eq_if_modifyHead] at h
    split at h
    · rcases List.mem_cons.1 h with rfl | inner
      · simp
      · exact ih inner
    · rename_i separator
      obtain ⟨first, others, split⟩ := List.exists_cons_of_ne_nil (List.splitOn_ne_nil c xs)
      rw [split, List.modifyHead_cons] at h
      rcases List.mem_cons.1 h with rfl | inner
      · have : x ≠ c := by simpa using separator
        simpa [Ne.symm this] using ih (split ▸ List.mem_cons_self)
      · exact ih (split ▸ List.mem_cons_of_mem _ inner)

theorem mem_of_mem_dropCarriageReturn {c : Char} {line : List Char} (h : c ∈ dropCarriageReturn line) :
    c ∈ line := by
  unfold dropCarriageReturn at h
  split at h
  · exact List.dropLast_subset line h
  · exact h

/-- Every line is a piece between line feeds, perhaps without its last character. -/
theorem mem_of_mem_linesOfPieces {c : Char} {pieces : List (List Char)} {line : List Char}
    (h : line ∈ linesOfPieces pieces) (mem : c ∈ line) : ∃ piece ∈ pieces, c ∈ piece := by
  induction pieces with
  | nil => simp [linesOfPieces] at h
  | cons piece rest ih =>
    cases rest with
    | nil =>
      simp only [linesOfPieces] at h
      split at h
      · simp at h
      · rw [List.mem_singleton] at h
        exact ⟨piece, List.mem_singleton_self _, h ▸ mem⟩
    | cons next others =>
      simp only [linesOfPieces, List.mem_cons] at h
      rcases h with rfl | later
      · exact ⟨piece, List.mem_cons_self, mem_of_mem_dropCarriageReturn mem⟩
      · obtain ⟨found, inRest, inFound⟩ := ih later
        exact ⟨found, List.mem_cons_of_mem _ inRest, inFound⟩

/-- No line of a text holds a line feed. -/
theorem not_mem_of_mem_lineChars {cs line : List Char} (h : line ∈ lineChars cs) : '\n' ∉ line := by
  intro mem
  obtain ⟨piece, inPieces, inPiece⟩ := mem_of_mem_linesOfPieces h mem
  exact not_mem_of_mem_splitOn inPieces inPiece

@[simp] theorem lineChars_nil : lineChars [] = [] := rfl

/-- A line ended by a line feed is the first line, without the carriage return of a CRLF pair. -/
theorem lineChars_line {line rest : List Char} (h : '\n' ∉ line) :
    lineChars (line ++ '\n' :: rest) = dropCarriageReturn line :: lineChars rest := by
  unfold lineChars
  rw [List.splitOn_append_cons_self_of_not_mem h]
  obtain ⟨first, others, split⟩ := List.exists_cons_of_ne_nil (List.splitOn_ne_nil '\n' rest)
  rw [split]
  rfl

theorem lineChars_empty (rest : List Char) : lineChars ('\n' :: rest) = [] :: lineChars rest :=
  lineChars_line (show '\n' ∉ ([] : List Char) from List.not_mem_nil)

theorem trimBlankChars_eq (cs : List Char) :
    trimBlankChars cs = (cs.dropWhile isBlank).rdropWhile isBlank := rfl

/-- A trimmed line starts with a character that is not blank. -/
theorem dropWhile_trimBlankChars (cs : List Char) :
    (trimBlankChars cs).dropWhile isBlank = trimBlankChars cs := by
  obtain ⟨suffix, split⟩ := List.rdropWhile_prefix isBlank (cs.dropWhile isBlank)
  rw [← trimBlankChars_eq] at split
  rcases trimmed : trimBlankChars cs with _ | ⟨first, others⟩
  · rfl
  · have lead := List.head_dropWhile_not isBlank
      (show cs.dropWhile isBlank ≠ [] by simp [← split, trimmed])
    simp only [← split, trimmed, List.cons_append, List.head_cons] at lead
    simp [lead]

/-- A trimmed line ends with a character that is not blank. -/
theorem getLast_trimBlankChars {cs : List Char} (h : trimBlankChars cs ≠ []) :
    isBlank ((trimBlankChars cs).getLast h) = false := by
  have last := List.rdropWhile_last_not isBlank (cs.dropWhile isBlank) h
  exact Bool.eq_false_iff.2 last

theorem trimBlankChars_trimBlankChars (cs : List Char) :
    trimBlankChars (trimBlankChars cs) = trimBlankChars cs := by
  rw [trimBlankChars_eq (trimBlankChars cs), dropWhile_trimBlankChars, trimBlankChars_eq,
    List.rdropWhile_idempotent]

/-- Blanks written before a trimmed line are trimmed away again. -/
theorem trimBlankChars_blank_append {pad : List Char} (blank : ∀ c ∈ pad, isBlank c = true)
    (cs : List Char) : trimBlankChars (pad ++ trimBlankChars cs) = trimBlankChars cs := by
  rw [trimBlankChars_eq (pad ++ _), List.dropWhile_append_of_pos blank, ← trimBlankChars_eq,
    trimBlankChars_trimBlankChars]

theorem mem_of_mem_trimBlankChars {c : Char} {cs : List Char} (h : c ∈ trimBlankChars cs) : c ∈ cs :=
  (List.dropWhile_suffix isBlank).subset (List.IsPrefix.subset (List.rdropWhile_prefix isBlank _) h)

theorem isBlank_of_spaces {pad : List Char} (spaces : ∀ c ∈ pad, c = ' ') : ∀ c ∈ pad, isBlank c = true :=
  fun c mem => by rw [spaces c mem]; decide

/-- A line that ends in a character that is not blank keeps its last character. -/
theorem dropCarriageReturn_append_trimBlankChars {pad cs : List Char} (nonblank : trimBlankChars cs ≠ []) :
    dropCarriageReturn (pad ++ trimBlankChars cs) = pad ++ trimBlankChars cs := by
  have last := getLast_trimBlankChars nonblank
  unfold dropCarriageReturn
  rw [List.getLast?_append, List.getLast?_eq_some_getLast nonblank]
  split
  · rename_i ends
    simp only [Option.some_or, Option.some.injEq] at ends
    rw [ends] at last
    exact absurd last (by decide)
  · rfl

/-- A trimmed line written after spaces and ended by a line feed reads back as one line. -/
theorem lineChars_written {pad cs : List Char} (spaces : ∀ c ∈ pad, c = ' ') (noBreak : '\n' ∉ cs)
    (nonblank : trimBlankChars cs ≠ []) (rest : List Char) :
    lineChars (pad ++ trimBlankChars cs ++ '\n' :: rest) = (pad ++ trimBlankChars cs) :: lineChars rest := by
  have breakFree : '\n' ∉ pad ++ trimBlankChars cs := by
    rw [List.mem_append, not_or]
    exact ⟨fun mem => absurd (spaces _ mem) (by decide),
      fun mem => noBreak (mem_of_mem_trimBlankChars mem)⟩
  rw [lineChars_line breakFree, dropCarriageReturn_append_trimBlankChars nonblank]

theorem dropWhile_written {pad cs : List Char} (spaces : ∀ c ∈ pad, c = ' ') :
    (pad ++ trimBlankChars cs).dropWhile isBlank = trimBlankChars cs := by
  rw [List.dropWhile_append_of_pos (isBlank_of_spaces spaces), dropWhile_trimBlankChars]

end WasmBoogie.Text

namespace WasmBoogie.Boogie
open WasmBoogie.Text

variable {level : Nat} {prev : Bool} {raw : List Char} {rest : List (List Char)}

/-- A line that is blank once trimmed writes at most a line feed. -/
theorem indentLines_blank (blank : trimBlankChars raw = []) :
    indentLines level prev (raw :: rest) = (if prev then "" else "\n") ++ indentLines level true rest := by
  simp [indentLines, blank]

/-- Indentation reads a line only through its trimmed form. -/
theorem indentLines_congr {other : List Char} (same : trimBlankChars raw = trimBlankChars other) :
    indentLines level prev (raw :: rest) = indentLines level prev (other :: rest) := by
  simp only [indentLines, same]

/-- A line that is not blank is written trimmed after a run of spaces, and the lines after it are
laid out from some level, the same whatever they are. -/
theorem indentLines_line (level : Nat) (prev : Bool) (nonblank : trimBlankChars raw ≠ []) :
    ∃ pad next, (∀ c ∈ pad, c = ' ') ∧ ∀ rest,
      (indentLines level prev (raw :: rest)).toList =
        pad ++ trimBlankChars raw ++ '\n' :: (indentLines next false rest).toList := by
  set line := trimBlankChars raw
  set shifted := if line.head? = some '}' then level - 1 else level
  set depth := shifted + if (decide (shifted = 0) && isContractClause line) then 1 else 0
  set pad := if isLabelLine line then "" else String.join (List.replicate depth "    ")
  refine ⟨pad.toList, if line.getLast? = some '{' then shifted + 1 else shifted, ?_, fun rest => ?_⟩
  · intro c mem
    simp only [pad] at mem
    split at mem
    · simp at mem
    · simp only [String.toList_join, List.mem_flatMap, List.mem_replicate] at mem
      obtain ⟨_, ⟨-, rfl⟩, inIndent⟩ := mem
      simpa using inIndent
  · simp only [pad, depth, shifted, line] at nonblank ⊢
    simp [indentLines, nonblank]

theorem lineChars_indentLines_blank (blank : trimBlankChars raw = []) :
    lineChars (indentLines level prev (raw :: rest)).toList =
      (if prev then [] else [[]]) ++ lineChars (indentLines level true rest).toList := by
  rw [indentLines_blank blank]
  cases prev <;> simp [lineChars_empty]

section Layout

variable {raws : List (List Char)}

/-- Stripped of the indentation, the written lines that are not empty are the lines of the text
that are not blank, trimmed, in order. -/
theorem indentLines_stripped (level : Nat) (prev : Bool) (noBreak : ∀ raw ∈ raws, '\n' ∉ raw) :
    ((lineChars (indentLines level prev raws).toList).map (·.dropWhile isBlank)).filter (· ≠ []) =
      (raws.map trimBlankChars).filter (· ≠ []) := by
  induction raws generalizing level prev with
  | nil => simp [indentLines]
  | cons raw rest ih =>
    obtain ⟨rawBreak, restBreak⟩ := List.forall_mem_cons.1 noBreak
    by_cases blank : trimBlankChars raw = []
    · rw [lineChars_indentLines_blank blank]
      cases prev <;> simpa [blank] using ih level true restBreak
    · obtain ⟨pad, next, spaces, written⟩ := indentLines_line level prev blank
      rw [written rest, lineChars_written spaces rawBreak blank]
      simpa [dropWhile_written spaces, blank] using ih next false restBreak

/-- After a blank line has been written, the next written line is not empty. -/
theorem head_indentLines_ne_nil (level : Nat) (noBreak : ∀ raw ∈ raws, '\n' ∉ raw) :
    ∀ line ∈ (lineChars (indentLines level true raws).toList).head?, line ≠ [] := by
  induction raws generalizing level with
  | nil => simp [indentLines]
  | cons raw rest ih =>
    obtain ⟨rawBreak, restBreak⟩ := List.forall_mem_cons.1 noBreak
    by_cases blank : trimBlankChars raw = []
    · rw [lineChars_indentLines_blank blank]
      simpa using ih level restBreak
    · obtain ⟨pad, next, spaces, written⟩ := indentLines_line level true blank
      rw [written rest, lineChars_written spaces rawBreak blank]
      simp [blank]

/-- No two written lines in a row are empty. -/
theorem indentLines_no_blank_run (level : Nat) (prev : Bool) (noBreak : ∀ raw ∈ raws, '\n' ∉ raw) :
    (lineChars (indentLines level prev raws).toList).IsChain (fun a b => ¬(a = [] ∧ b = [])) := by
  induction raws generalizing level prev with
  | nil => simp [indentLines]
  | cons raw rest ih =>
    obtain ⟨rawBreak, restBreak⟩ := List.forall_mem_cons.1 noBreak
    by_cases blank : trimBlankChars raw = []
    · rw [lineChars_indentLines_blank blank]
      cases prev
      · refine (ih level true restBreak).cons fun line first => ?_
        exact fun ⟨_, empty⟩ => head_indentLines_ne_nil level restBreak line first empty
      · simpa using ih level true restBreak
    · obtain ⟨pad, next, spaces, written⟩ := indentLines_line level prev blank
      rw [written rest, lineChars_written spaces rawBreak blank]
      exact (ih next false restBreak).cons fun _ _ ⟨empty, _⟩ => blank (List.append_eq_nil_iff.1 empty).2

/-- Laying out written lines again writes them unchanged. -/
theorem indentLines_indentLines (level : Nat) (prev : Bool) (noBreak : ∀ raw ∈ raws, '\n' ∉ raw) :
    indentLines level prev (lineChars (indentLines level prev raws).toList) = indentLines level prev raws := by
  induction raws generalizing level prev with
  | nil => simp [indentLines]
  | cons raw rest ih =>
    obtain ⟨rawBreak, restBreak⟩ := List.forall_mem_cons.1 noBreak
    by_cases blank : trimBlankChars raw = []
    · rw [lineChars_indentLines_blank blank, indentLines_blank blank]
      cases prev
      · simp [indentLines_blank (show trimBlankChars [] = [] from rfl), ih level true restBreak]
      · simpa using ih level true restBreak
    · obtain ⟨pad, next, spaces, written⟩ := indentLines_line level prev blank
      have same : trimBlankChars (pad ++ trimBlankChars raw) = trimBlankChars raw :=
        trimBlankChars_blank_append (isBlank_of_spaces spaces) raw
      rw [written rest, lineChars_written spaces rawBreak blank,
        indentLines_congr same, ← String.toList_inj, written, written, ih next false restBreak]

end Layout

/-- Indentation changes only blanks: stripped of leading blanks, the output's lines that are not
empty are the input's lines that are not blank, each trimmed. It writes no two empty lines in a
row, and indenting its output again changes nothing. -/
theorem indent_changes_only_blanks (t : String) :
    ((lineChars (indent t).toList).map (·.dropWhile isBlank)).filter (· ≠ []) =
        ((lineChars t.toList).map trimBlankChars).filter (· ≠ []) ∧
      (lineChars (indent t).toList).IsChain (fun a b => ¬(a = [] ∧ b = [])) ∧
      indent (indent t) = indent t := by
  have noBreak : ∀ line ∈ lineChars t.toList, '\n' ∉ line := fun _ mem => not_mem_of_mem_lineChars mem
  exact ⟨indentLines_stripped 0 false noBreak, indentLines_no_blank_run 0 false noBreak,
    indentLines_indentLines 0 false noBreak⟩

example : indent "x \x7b\n\n\n  y;\n\x7d" = "x \x7b\n\n    y;\n\x7d\n" := by decide

end WasmBoogie.Boogie
