namespace WasmBoogie

/-- How a module is lowered. `stackAssert` adds the stack-balance postcondition and final
assertion of every function; `pruneUnusedLabels` leaves out labels that no branch reaches;
`verifyLabels` rejects bodies whose nested scopes repeat a label; `pretty` indents the text;
`contractName` is named in a comment at the top. -/
structure LowerOptions where
  stackAssert : Bool := true
  pruneUnusedLabels : Bool := true
  verifyLabels : Bool := true
  pretty : Bool := true
  contractName : Option String := none
  deriving Repr, Inhabited

end WasmBoogie
