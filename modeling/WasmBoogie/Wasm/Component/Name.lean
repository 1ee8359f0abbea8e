namespace WasmBoogie.Wasm.Component

/-- A parsed import or export name. -/
inductive ExternName where
  | label (s : String)
  | constructor (resource : String)
  /-- A method or a static function of a resource, as the resource and the function. -/
  | member (method : Bool) (resource fn : String)
  | interface (s : String)
  | dependency (s : String)
  | url (s : String)
  | hash (s : String)
  deriving Repr, DecidableEq, Inhabited

/-- Whether a word is kebab case: hyphen-separated words, each a letter and then letters or
digits of the same case as that letter. -/
def isKebab (s : String) : Bool :=
  let step : Option (Option Bool) → Char → Option (Option Bool)
    | none, _ => none
    | some st, c =>
      if c.isLower then
        if st == some false then none else some (some true)
      else if c.isUpper then
        if st == some true then none else some (some false)
      else if c.isDigit then
        if st.isSome then some st else none
      else if c == '-' then
        if st.isSome then some none else none
      else none
  !s.isEmpty && (s.toList.foldl step (some none)).isSome && s.back != '-'

/-- Whether a word is kebab case with no upper case letter. -/
def isLowerKebab (s : String) : Bool :=
  isKebab s && s.all fun c => !c.isUpper

/-- Whether a text is a decimal number without leading zeros. -/
def isVersionNumber (s : String) : Bool :=
  !s.isEmpty && s.all Char.isDigit && (s == "0" || !s.startsWith "0")

/-- Whether a text is a dot-separated list of identifiers of letters, digits and hyphens; with
`numeric` set, identifiers of digits only may not have leading zeros. -/
def isVersionLabels (numeric : Bool) (s : String) : Bool :=
  (s.splitOn ".").all fun part =>
    !part.isEmpty && part.all (fun c => c.isAlphanum || c == '-') &&
      (!numeric || !part.all Char.isDigit || isVersionNumber part)

/-- Whether a text is a semantic version: three numbers, then optionally a pre-release after
`-` and build metadata after `+`. -/
def isSemver (s : String) : Bool :=
  let (core, build) := match s.splitOn "+" with
    | [c] => (c, some none)
    | [c, b] => (c, some (some b))
    | _ => (s, none)
  match build with
  | none => false
  | some build =>
    let (nums, pre) := match core.splitOn "-" with
      | [n] => (n, none)
      | n :: rest => (n, some (String.intercalate "-" rest))
      | [] => (core, none)
    (match nums.splitOn "." with
      | [a, b, c] => isVersionNumber a && isVersionNumber b && isVersionNumber c
      | _ => false) &&
    (pre.map (isVersionLabels true)).getD true && (build.map (isVersionLabels false)).getD true

/-- Whether a text is a package path: `ns:pkg`, with a projection `/iface` if required or if
present, and an optional version after `@` that `version` accepts. -/
def isPackagePath (requireProjection : Bool) (version : String → Bool) (s : String) : Bool :=
  let (path, ver) := match s.splitOn "@" with
    | [p] => (p, some none)
    | [p, v] => (p, some (some v))
    | _ => (s, none)
  match ver with
  | none => false
  | some ver =>
    (match path.splitOn ":" with
      | [ns, rest] =>
        isLowerKebab ns &&
          match rest.splitOn "/" with
          | [pkg] => !requireProjection && isLowerKebab pkg
          | [pkg, iface] => isLowerKebab pkg && isKebab iface
          | _ => false
      | _ => false) && (ver.map version).getD true

/-- Whether a text is a version range of a dependency: `*`, `{>=v}`, `{<v}` or `{>=v <w}`. -/
def isVersionRange (s : String) : Bool :=
  s == "*" ||
    (s.startsWith "\x7b" && s.endsWith "\x7d" &&
      match ((s.drop 1).dropEnd 1).toString.splitOn " " with
      | [a] => (a.startsWith ">=" && isSemver (a.drop 2).toString) ||
        (a.startsWith "<" && isSemver (a.drop 1).toString)
      | [a, b] => a.startsWith ">=" && isSemver (a.drop 2).toString && b.startsWith "<" &&
        isSemver (b.drop 1).toString
      | _ => false)

/-- Whether a text is integrity metadata: hashes `sha256-`, `sha384-` or `sha512-` and base64
digits, separated by spaces. -/
def isIntegrity (s : String) : Bool :=
  let isBase64 (c : Char) : Bool := c.isAlphanum || c == '+' || c == '/' || c == '='
  let parts := (s.splitOn " ").filter (!·.isEmpty)
  !parts.isEmpty && parts.all fun p =>
    ["sha256-", "sha384-", "sha512-"].any fun pre =>
      p.startsWith pre && (p.drop pre.length).toString.length > 0 &&
        (p.drop pre.length).toString.all isBase64

/-- The text between `<` and `>` that a name must end with after a prefix, and what follows the
closing bracket. -/
def bracketed (s pre : String) : Option (String × String) :=
  if s.startsWith (pre ++ "<") then
    let rest := (s.drop (pre.length + 1)).toString
    match rest.splitOn ">" with
    | inner :: after => some (inner, String.intercalate ">" after)
    | [] => none
  else none

/-- Whether what follows a dependency's closing bracket is nothing or `,integrity=<...>`. -/
def isOptionalHash (after : String) : Bool :=
  after.isEmpty ||
    (match bracketed after ",integrity=" with
      | some (h, "") => isIntegrity h
      | _ => false)

/-- Parses an import or export name.

A plain name is a label in kebab case: words joined by single hyphens, each word a letter and
then letters or digits all of one case. A resource's functions are named `[constructor]r`,
`[method]r.f` and `[static]r.f`. An interface is named `ns:pkg/iface`, with namespace and
package in lower case, and an optional semantic version after `@`. Names of dependencies are
written `unlocked-dep=<...>`, `locked-dep=<...>`, `url=<...>` and `integrity=<...>`.

Two names of one component clash when they are labels that differ only in case, when they are
methods or statics of one resource with the same function name, or when they are otherwise
equal names of one kind. -/
def ExternName.parse? (s : String) : Option ExternName :=
  let member (pre : String) : Option (String × String) :=
    if s.startsWith pre then
      match ((s.drop pre.length).toString).splitOn "." with
      | [r, f] => if isKebab r && isKebab f then some (r, f) else none
      | _ => none
    else none
  if s.startsWith "[constructor]" then
    let r := (s.drop "[constructor]".length).toString
    if isKebab r then some (.constructor r) else none
  else if s.startsWith "[method]" then (member "[method]").map fun (r, f) => .member true r f
  else if s.startsWith "[static]" then (member "[static]").map fun (r, f) => .member false r f
  else if s.startsWith "[" then none
  else match bracketed s "unlocked-dep=" with
  | some (inner, after) =>
    let ok := after.isEmpty &&
      match inner.splitOn "@" with
      | [p] => isPackagePath false (fun _ => true) p
      | [p, r] => isPackagePath false (fun _ => true) p && isVersionRange r
      | _ => false
    if ok then some (.dependency s) else none
  | none =>
  match bracketed s "locked-dep=" with
  | some (inner, after) =>
    if isPackagePath false isSemver inner && isOptionalHash after then some (.dependency s)
    else none
  | none =>
  match bracketed s "url=" with
  | some (inner, after) =>
    if !inner.contains '<' && isOptionalHash after then some (.url s) else none
  | none =>
  match bracketed s "integrity=" with
  | some (inner, after) => if after.isEmpty && isIntegrity inner then some (.hash s) else none
  | none =>
  if s.contains ':' then
    if isPackagePath true isSemver s then some (.interface s) else none
  else if isKebab s then some (.label s)
  else none

/-- Whether two names of one component clash. -/
def ExternName.clashes : ExternName → ExternName → Bool
  | .label a, .label b => a.toLower == b.toLower
  | .constructor a, .constructor b => a.toLower == b.toLower
  | .member _ r f, .member _ r' f' => r.toLower == r'.toLower && f.toLower == f'.toLower
  | .interface a, .interface b => a == b
  | .dependency a, .dependency b => a == b
  | .url a, .url b => a == b
  | .hash a, .hash b => a == b
  | _, _ => false

/-- Whether a label is kebab case, as field, case, flag and parameter names must be. -/
def isLabel (s : String) : Bool := isKebab s

end WasmBoogie.Wasm.Component
