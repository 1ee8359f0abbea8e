import WasmBoogie.Instr.Function
import WasmBoogie.Lower.Module

namespace WasmBoogie

/-- A defined function as a module source gives it. -/
structure FunctionSource where
  index : Nat
  name : Option String
  text : String
  signature : Option Signature
  deriving Repr, Inhabited

/-- The imports and function texts of a module.

A module source lists the imported functions and, for every defined function, its index, the
name and counts that the module's binary gives it, and its text. Reading the source reads each
function's text with the binary's counts; the binary's name wins over the name in the text. -/
structure ModuleSource where
  imports : List Import := []
  functions : List FunctionSource := []
  deriving Repr, Inhabited

/-- Why a module text gave no module source: it is no module, the module is invalid, a
subsection or a function name of its name section cannot be read, or the text holds a different
number of function bodies than the module defines. -/
inductive LoadError where
  | compile
  | invalid
  | nameSection
  | functionName
  | functionCount (text binary : Nat)
  deriving Repr, DecidableEq, Inhabited

namespace LoadError

/-- The message, with the context of loading before the cause. -/
def message : LoadError → String
  | .compile => "failed to load WebAssembly module: failed to compile WebAssembly text"
  | .invalid => "failed to load WebAssembly module: WebAssembly module failed validation"
  | .nameSection => "failed to load WebAssembly module: reading name section"
  | .functionName => "failed to load WebAssembly module: reading function name"
  | .functionCount t b =>
    s!"failed to load WebAssembly module: module text has {t} function bodies but the binary defines {b}"

end LoadError

/-- Why a module text could not become a program: it did not load, a function text did not
read, or the module did not lower. -/
inductive SourceError where
  | load (error : LoadError)
  | parse (index : Nat) (error : ParseError)
  | lower (error : LowerError)
  deriving Repr, Inhabited

namespace SourceError

/-- The message, with the context of each stage before the cause. -/
def message : SourceError → String
  | .load e => e.message
  | .parse i e => s!"failed to parse function {i}: " ++ e.message
  | .lower e => "failed to lower module: " ++ e.message

end SourceError

namespace FunctionSource

/-- The function that the text reads as, named by the binary if the binary names it. -/
def read (f : FunctionSource) : Except SourceError Function :=
  match parseFunction f.text f.index f.signature with
  | .ok parsed => .ok { parsed with name := f.name.or parsed.name }
  | .error e => .error (.parse f.index e)

end FunctionSource

namespace ModuleSource

/-- The module that the source reads as; the first function that fails to read stops it. -/
def read (src : ModuleSource) : Except SourceError Module := do
  let functions ← src.functions.mapM FunctionSource.read
  pure { imports := src.imports, functions }

/-- Reads and lowers the module. -/
def lower (src : ModuleSource) (options : LowerOptions) :
    Except SourceError LoweredModule := do
  let m ← src.read
  match lowerModule m options with
  | .ok t => pure t
  | .error e => throw (.lower e)

end ModuleSource

end WasmBoogie
