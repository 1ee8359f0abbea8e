import WasmBoogie.Module.Load
import WasmBoogie.Instr.Dump

namespace WasmBoogie.Cli

/-- The settings a command line gives. -/
structure Settings where
  input : String
  output : Option String := none
  options : LowerOptions := {}
  dumpAst : Bool := false

/-- The usage line. -/
def usage : String :=
  "Usage: wasm2bpl [OPTIONS] <INPUT>"

/-- Reads the arguments after the program name; the input is the one argument that is no
option. -/
def parseArgs : List String → Option String → Settings → Except String Settings
  | [], some input, s => .ok { s with input }
  | [], none, _ => .error "the following required arguments were not provided: <INPUT>"
  | ("-o" :: path :: rest), i, s | ("--output" :: path :: rest), i, s =>
    parseArgs rest i { s with output := some path }
  | "--contract" :: name :: rest, i, s =>
    parseArgs rest i { s with options := { s.options with contractName := some name } }
  | "--no-stack-assert" :: rest, i, s =>
    parseArgs rest i { s with options := { s.options with stackAssert := false } }
  | "--keep-labels" :: rest, i, s =>
    parseArgs rest i { s with options := { s.options with pruneUnusedLabels := false } }
  | "--no-verify-labels" :: rest, i, s =>
    parseArgs rest i { s with options := { s.options with verifyLabels := false } }
  | "--raw" :: rest, i, s =>
    parseArgs rest i { s with options := { s.options with pretty := false } }
  | "--dump-ast" :: rest, i, s => parseArgs rest i { s with dumpAst := true }
  | arg :: rest, i, s =>
    if arg.length > 1 && arg.startsWith "-" && (arg.toList.drop 1).all (· == 'v') then
      parseArgs rest i s
    else if arg == "--verbose" then parseArgs rest i s
    else if arg.startsWith "-" then .error s!"unexpected argument found: {arg}"
    else match i with
      | none => parseArgs rest (some arg) s
      | some _ => .error s!"unexpected argument found: {arg}"

end WasmBoogie.Cli

open WasmBoogie

/-- Runs the lowering on the command line's arguments.

It reads a WebAssembly text module, loads it, and writes the verification program to the output
file or to standard output, reporting each approximation on standard error. With `--dump-ast`
it prints the parsed functions instead. -/
def main (args : List String) : IO UInt32 := do
  let stderr ← IO.getStderr
  let stdout ← IO.getStdout
  match Cli.parseArgs args none { input := "" } with
  | .error e =>
    stderr.putStrLn s!"error: {e}\n\n{Cli.usage}"
    return 2
  | .ok settings =>
    stderr.putStrLn s!"wasm2bpl: translating {settings.input}"
    let text ← try IO.FS.readFile settings.input catch e => do
      stderr.putStrLn s!"Error: failed to read {settings.input}: {e}"
      return 1
    match ModuleSource.load text with
    | .error e =>
      stderr.putStrLn s!"Error: {e.message}"
      return 1
    | .ok src =>
      if settings.dumpAst then
        match src.read with
        | .ok m =>
          stdout.putStr m.dump
          return 0
        | .error e =>
          stderr.putStrLn s!"Error: {e.message}"
          return 1
      match src.lower settings.options with
      | .error e =>
        stderr.putStrLn s!"Error: translation failed: {e.message}"
        return 1
      | .ok t =>
        for d in t.diagnostics do
          stderr.putStrLn s!"wasm2bpl: approximated: {d.function}: {d.message}"
        let program := t.text settings.options.pretty
        match settings.output with
        | some path =>
          IO.FS.writeFile path program
          stderr.putStrLn s!"wasm2bpl: wrote {path}"
        | none => stdout.putStr program
        stderr.putStrLn s!"wasm2bpl: translation complete ({t.diagnostics.length} diagnostics)"
        return 0
