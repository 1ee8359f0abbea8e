import WasmBoogie.Text.Blank

namespace WasmBoogie.Text

/-- What the reader is in the middle of. -/
inductive ReadState where
  /-- Between tokens or inside a plain word. -/
  | code
  /-- Inside a line comment, which ends after the next line feed. -/
  | lineComment
  /-- Inside block comments nested this many deep (at least one). -/
  | blockComment (depth : Nat)
  /-- Inside a quoted string; the flag says the last character was a backslash. -/
  | quoted (escaped : Bool)
  deriving Repr, DecidableEq, Inhabited

/-- A finished word is a token only if it has characters. -/
def flushWord (word : String) (acc : Array String) : Array String :=
  if word.isEmpty then acc else acc.push word

/-- One pass over the characters. Tokens found so far are in acc; word is the plain word or
quoted string being read. -/
def readTokens : ReadState → String → Array String → List Char → Array String
  | .code, word, acc, '(' :: ';' :: rest => readTokens (.blockComment 1) "" (flushWord word acc) rest
  | .code, word, acc, ';' :: ';' :: rest => readTokens .lineComment "" (flushWord word acc) rest
  | .code, word, acc, '(' :: rest => readTokens .code "" ((flushWord word acc).push "(") rest
  | .code, word, acc, ')' :: rest => readTokens .code "" ((flushWord word acc).push ")") rest
  | .code, word, acc, '"' :: rest => readTokens (.quoted false) "\"" (flushWord word acc) rest
  | .code, word, acc, c :: rest =>
    if isBlank c then readTokens .code "" (flushWord word acc) rest
    else readTokens .code (word.push c) acc rest
  | .lineComment, _, acc, '\n' :: rest => readTokens .code "" acc rest
  | .lineComment, _, acc, _ :: rest => readTokens .lineComment "" acc rest
  | .blockComment d, _, acc, '(' :: ';' :: rest => readTokens (.blockComment (d + 1)) "" acc rest
  | .blockComment d, _, acc, ';' :: ')' :: rest =>
    match d with
    | 0 | 1 => readTokens .code "" acc rest
    | d + 2 => readTokens (.blockComment (d + 1)) "" acc rest
  | .blockComment d, _, acc, _ :: rest => readTokens (.blockComment d) "" acc rest
  | .quoted true, word, acc, c :: rest => readTokens (.quoted false) (word.push c) acc rest
  | .quoted false, word, acc, '"' :: rest => readTokens .code "" (acc.push (word.push '"')) rest
  | .quoted false, word, acc, c :: rest => readTokens (.quoted (c == '\\')) (word.push c) acc rest
  | .code, word, acc, [] => flushWord word acc
  | .quoted _, word, acc, [] => acc.push word
  | _, _, acc, [] => acc

/-- The tokens of a text, in order.

A token is a parenthesis, a quoted string with its quotes and escapes, or a maximal run of
characters that are neither blank, nor parentheses, nor a quote. Line comments (from a double
semicolon to the line feed) and nested block comments (between an opening parenthesis with a
semicolon and a semicolon with a closing parenthesis) separate tokens and leave nothing; a
comment or string that never ends runs to the end of the text.

The reader is one pass over the characters with a small state, so it is structurally
recursive and total. -/
def tokenize (text : String) : List String :=
  (readTokens .code "" #[] text.toList).toList

/-- How many tokens on each side of a position an error shows. -/
def windowRadius : Nat := 5

/-- The tokens around a position, joined by single spaces: up to five before it, the token
itself and up to five after it. A position past the end shows the words "end of input". -/
def tokenWindow (tokens : List String) (index : Nat) : String :=
  let start := index - windowRadius
  let stop := min (index + windowRadius + 1) tokens.length
  if stop ≤ start then "<end of input>"
  else " ".intercalate ((tokens.drop start).take (stop - start))

end WasmBoogie.Text
