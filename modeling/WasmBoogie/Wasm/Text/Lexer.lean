namespace WasmBoogie.Wasm.Text

/-- A token of the text format. -/
inductive Token where
  | lparen
  | rparen
  /-- A string, as the bytes it stands for. -/
  | str (bytes : List UInt8)
  /-- A run of identifier characters. -/
  | atom (text : String)
  /-- An identifier written as a dollar sign and a string. -/
  | strId (bytes : List UInt8)
  /-- A reserved token. -/
  | reserved
  deriving Repr, DecidableEq, Inhabited

/-- The identifier characters of the text format. -/
def isIdChar (c : Char) : Bool :=
  c.isAlphanum || "!#$%&'*+-./:<=>?@\\^_`|~".toList.contains c

/-- Characters that reorder text invisibly, which strings and comments may not hold. -/
def isConfusing (c : Char) : Bool :=
  [0x202a, 0x202b, 0x202d, 0x202e, 0x2066, 0x2067, 0x2068, 0x206c, 0x2069].contains c.toNat

/-- The value of a hexadecimal digit. -/
def hexValue (c : Char) : Option Nat :=
  if '0' ≤ c ∧ c ≤ '9' then some (c.toNat - '0'.toNat)
  else if 'a' ≤ c ∧ c ≤ 'f' then some (c.toNat - 'a'.toNat + 10)
  else if 'A' ≤ c ∧ c ≤ 'F' then some (c.toNat - 'A'.toNat + 10)
  else none

/-- The UTF-8 bytes of a character. -/
def utf8 (c : Char) : List UInt8 :=
  c.toString.toUTF8.toList

/-- The hexadecimal number of a `\u{...}` escape up to its closing brace: a digit first, then
digits and underscores, and a digit last. -/
def unicodeEscape (acc : Nat) (digits : Nat) (lastUnderscore : Bool) :
    List Char → Except String (Nat × List Char)
  | [] => .error "unterminated escape"
  | c :: rest =>
    if c.toNat = 0x7d then
      if digits = 0 ∨ lastUnderscore then .error "bad escape" else .ok (acc, rest)
    else if c = '_' then
      if digits = 0 then .error "bad escape"
      else unicodeEscape acc digits true rest
    else match hexValue c with
      | some v =>
        if acc * 16 + v ≥ Nat.pow 2 32 then .error "escape too large"
        else unicodeEscape (acc * 16 + v) (digits + 1) false rest
      | none => .error "bad escape"

/-- A string's bytes after its opening quote, and what follows its closing quote. `fuel`
bounds the number of characters read. -/
def stringBody : Nat → Array UInt8 → List Char → Except String (List UInt8 × List Char)
  | 0, _, _ => .error "out of fuel"
  | _ + 1, _, [] => .error "unterminated string"
  | _ + 1, acc, '"' :: rest => .ok (acc.toList, rest)
  | _ + 1, _, ['\\'] => .error "unterminated string"
  | fuel + 1, acc, '\\' :: c :: rest =>
    match c with
    | '"' => stringBody fuel (acc.push 34) rest
    | '\'' => stringBody fuel (acc.push 39) rest
    | 't' => stringBody fuel (acc.push 9) rest
    | 'n' => stringBody fuel (acc.push 10) rest
    | 'r' => stringBody fuel (acc.push 13) rest
    | '\\' => stringBody fuel (acc.push 92) rest
    | 'u' =>
      match rest with
      | b :: rest' =>
        if b.toNat = 0x7b then
          match unicodeEscape 0 0 false rest' with
          | .ok (n, after) =>
            if n < 0xD800 ∨ (0xDFFF < n ∧ n < 0x110000) then
              stringBody fuel (acc ++ (utf8 (Char.ofNat n)).toArray) after
            else .error "invalid code point"
          | .error e => .error e
        else .error "bad escape"
      | [] => .error "bad escape"
    | c1 =>
      match hexValue c1, rest with
      | some h1, c2 :: rest' =>
        match hexValue c2 with
        | some h2 => stringBody fuel (acc.push (h1 * 16 + h2).toUInt8) rest'
        | none => .error "bad escape"
      | _, _ => .error "bad escape"
  | fuel + 1, acc, c :: rest =>
    if c.toNat < 0x20 ∨ c.toNat = 0x7f then .error "control character in string"
    else if isConfusing c then .error "confusing character in string"
    else stringBody fuel (acc ++ (utf8 c).toArray) rest

/-- The rest of a block comment after its opening; comments nest. -/
def blockComment : Nat → List Char → Except String (List Char)
  | _, [] => .error "unterminated block comment"
  | d, '(' :: ';' :: rest => blockComment (d + 1) rest
  | d, ';' :: ')' :: rest => if d ≤ 1 then .ok rest else blockComment (d - 1) rest
  | d, c :: rest => if isConfusing c then .error "confusing character" else blockComment d rest

/-- The rest of a line comment: up to its line feed or carriage return. -/
def lineComment : List Char → Except String (List Char)
  | [] => .ok []
  | '\n' :: rest => .ok ('\n' :: rest)
  | '\r' :: rest => .ok ('\r' :: rest)
  | c :: rest => if isConfusing c then .error "confusing character" else lineComment rest

/-- One piece of a token of identifier characters and strings: a run of identifier characters,
or a string. -/
inductive Piece where
  | chars (cs : List Char)
  | string (bytes : List UInt8)

/-- The pieces of a token, up to the first character that is neither an identifier character
nor a quote. `fuel` bounds the number of pieces. -/
def pieces : Nat → Array Piece → List Char → Except String (List Piece × List Char)
  | 0, _, _ => .error "out of fuel"
  | fuel + 1, acc, '"' :: rest => do
    let (bytes, after) ← stringBody (rest.length + 1) #[] rest
    pieces fuel (acc.push (.string bytes)) after
  | fuel + 1, acc, c :: rest =>
    if isIdChar c then
      let run := (c :: rest).takeWhile isIdChar
      pieces fuel (acc.push (.chars run)) ((c :: rest).dropWhile isIdChar)
    else .ok (acc.toList, c :: rest)
  | _ + 1, acc, [] => .ok (acc.toList, [])

/-- All tokens of a text. `fuel` bounds the number of tokens, one per character at most. -/
def tokensOf : Nat → List Char → Array Token → Except String (List Token)
  | 0, _, _ => .error "out of fuel"
  | _ + 1, [], acc => .ok acc.toList
  | fuel + 1, c :: rest, acc =>
    match c, rest with
    | '(', ';' :: rest' => do
      let after ← blockComment 1 rest'
      tokensOf fuel after acc
    | '(', _ => tokensOf fuel rest (acc.push .lparen)
    | ')', _ => tokensOf fuel rest (acc.push .rparen)
    | ';', ';' :: rest' => do
      let after ← lineComment rest'
      tokensOf fuel after acc
    | ' ', _ | '\t', _ | '\n', _ | '\r', _ => tokensOf fuel rest acc
    | ';', _ | ',', _ | '[', _ | ']', _ | '{', _ | '}', _ => tokensOf fuel rest (acc.push .reserved)
    | c, _ =>
      if c = '"' ∨ isIdChar c then do
        let (ps, after) ← pieces (rest.length + 2) #[] (c :: rest)
        let tok ← match ps with
          | [.string bytes] => pure (Token.str bytes)
          | [.chars run] => pure (Token.atom (String.ofList run))
          | [.chars ['$'], .string bytes] => pure (Token.strId bytes)
          | [.chars ['@'], .string bytes] =>
            match String.fromUTF8? (ByteArray.mk bytes.toArray) with
            | some name => pure (Token.atom ("@" ++ name))
            | none => throw "malformed UTF-8 encoding"
          | _ => pure Token.reserved
        tokensOf fuel after (acc.push tok)
      else .error "unexpected character"

/-- The tokens of a text, or why it has none.

White space is space, tab, line feed and carriage return. A line comment runs from a double
semicolon to the end of the line; block comments nest and must be closed. A string is quoted;
its escapes are `\t`, `\n`, `\r`, `\"`, `\'`, `\\`, two hexadecimal digits for a byte, and
`\u{...}` for a code point; control characters may not appear in it. Every other token is a
run of identifier characters (keywords, identifiers, numbers). A run of identifier characters
and strings that is neither a single string, a plain run, nor a dollar sign or at sign with a
string is reserved (an at sign with a string is the annotation of that name), as are the
characters `,`, `;`, `[`, `]`, `{` and `}`: no rule of the grammar accepts a reserved token,
but one may stand inside an annotation that nothing reads. Characters beyond ASCII may appear
only in strings and comments, and never the invisible characters that reorder text. -/
def tokenize (text : String) : Except String (List Token) :=
  tokensOf (text.length + 1) text.toList #[]

end WasmBoogie.Wasm.Text
