namespace WasmBoogie.Text

/-- A character is blank when it has the Unicode White_Space property: tab to carriage
return, space, next line, no-break space, ogham space mark, the spaces U+2000 to U+200A,
line and paragraph separators, narrow no-break space, medium mathematical space and
ideographic space (25 code points in all). Both the token reader and the layout pass split on
exactly this class. -/
def isBlank (c : Char) : Bool :=
  let n := c.toNat
  (0x9 ≤ n && n ≤ 0xD) || n == 0x20 || n == 0x85 || n == 0xA0 || n == 0x1680 ||
    (0x2000 ≤ n && n ≤ 0x200A) || n == 0x2028 || n == 0x2029 || n == 0x202F ||
    n == 0x205F || n == 0x3000

/-- Every character that core calls whitespace is blank. -/
theorem isBlank_of_isWhitespace {c : Char} (h : c.isWhitespace = true) : isBlank c = true := by
  simp only [Char.isWhitespace, Bool.or_eq_true, decide_eq_true_eq] at h
  rcases h with ((h | h) | h) | h <;> subst h <;> decide

/-- The characters of a text with the blank ones at both ends removed. -/
def trimBlankChars (cs : List Char) : List Char :=
  ((cs.dropWhile isBlank).reverse.dropWhile isBlank).reverse

/-- A text with the blank characters at both ends removed. -/
def trimBlank (s : String) : String :=
  String.ofList (trimBlankChars s.toList)

/-- A line without its line feed loses one carriage return at its end. -/
def dropCarriageReturn (line : List Char) : List Char :=
  match line.getLast? with
  | some '\r' => line.dropLast
  | _ => line

/-- Lines from the pieces between line feeds: every piece but the last was ended by a line
feed and loses the CR of a CRLF pair; the last piece is a line only if it is not empty. -/
def linesOfPieces : List (List Char) → List (List Char)
  | [] => []
  | [last] => if last.isEmpty then [] else [last]
  | piece :: rest => dropCarriageReturn piece :: linesOfPieces rest

/-- The lines of a text: a final line feed ends the last line and starts no new one, and the
empty text has no lines. -/
def lineChars (cs : List Char) : List (List Char) :=
  linesOfPieces (cs.splitOn '\n')

/-- The lines of a text as strings. -/
def lines (s : String) : List String :=
  (lineChars s.toList).map String.ofList

end WasmBoogie.Text
