import WasmBoogie.Binary64.Basic
import WasmBoogie.Binary64.Read
import WasmBoogie.Binary64.Shortest
import WasmBoogie.Boogie.Layout
import WasmBoogie.Boogie.Print
import WasmBoogie.Boogie.Syntax
import WasmBoogie.Instr.Basic
import WasmBoogie.Instr.Dump
import WasmBoogie.Instr.Error
import WasmBoogie.Instr.Function
import WasmBoogie.Instr.Labels
import WasmBoogie.Instr.Locals
import WasmBoogie.Instr.Op
import WasmBoogie.Instr.Reader
import WasmBoogie.Instr.Scan
import WasmBoogie.Lower.Callee
import WasmBoogie.Lower.Error
import WasmBoogie.Lower.Function
import WasmBoogie.Lower.Ident
import WasmBoogie.Lower.Literal
import WasmBoogie.Lower.Module
import WasmBoogie.Lower.Options
import WasmBoogie.Lower.Prelude
import WasmBoogie.Main
import WasmBoogie.Module.Load
import WasmBoogie.Module.Source
import WasmBoogie.Module.Split
import WasmBoogie.Proofs.Boogie.Indentation
import WasmBoogie.Proofs.Boogie.Jumps
import WasmBoogie.Proofs.Boogie.Nested
import WasmBoogie.Proofs.Boogie.Semantics
import WasmBoogie.Proofs.Boogie.Steps
import WasmBoogie.Proofs.Instr.BranchDestinations
import WasmBoogie.Proofs.Instr.FoldedText
import WasmBoogie.Proofs.Instr.HeadReading
import WasmBoogie.Proofs.Instr.LabelCheck
import WasmBoogie.Proofs.Instr.LocalSlots
import WasmBoogie.Proofs.Instr.Progress
import WasmBoogie.Proofs.Instr.RealStack
import WasmBoogie.Proofs.Instr.ReaderSteps
import WasmBoogie.Proofs.Instr.ScanEvents
import WasmBoogie.Proofs.Instr.ScanFrame
import WasmBoogie.Proofs.Instr.SlotLayout
import WasmBoogie.Proofs.Instr.Unfolding
import WasmBoogie.Proofs.Lower.Addressing
import WasmBoogie.Proofs.Lower.Approximations
import WasmBoogie.Proofs.Lower.BranchTargets
import WasmBoogie.Proofs.Lower.Branches
import WasmBoogie.Proofs.Lower.Calling
import WasmBoogie.Proofs.Lower.Congruence
import WasmBoogie.Proofs.Lower.ControlFlow
import WasmBoogie.Proofs.Lower.Folding
import WasmBoogie.Proofs.Lower.Helpers
import WasmBoogie.Proofs.Lower.Identifiers
import WasmBoogie.Proofs.Lower.Independence
import WasmBoogie.Proofs.Lower.IntegerLiterals
import WasmBoogie.Proofs.Lower.Naming
import WasmBoogie.Proofs.Lower.Numbering
import WasmBoogie.Proofs.Lower.PerFunction
import WasmBoogie.Proofs.Lower.Pruning
import WasmBoogie.Proofs.Lower.Runtime
import WasmBoogie.Proofs.Lower.ScanAgreement
import WasmBoogie.Proofs.Lower.Scopes
import WasmBoogie.Proofs.Lower.StraightLine
import WasmBoogie.Proofs.Lower.Sync
import WasmBoogie.Proofs.Lower.TableBranch
import WasmBoogie.Proofs.Lower.Totality
import WasmBoogie.Proofs.Module.FunctionForms
import WasmBoogie.Proofs.Text.Forest
import WasmBoogie.Proofs.Text.Retokenize
import WasmBoogie.Text.Blank
import WasmBoogie.Text.Token
import WasmBoogie.Wasm.Atomic
import WasmBoogie.Wasm.Binary
import WasmBoogie.Wasm.Code
import WasmBoogie.Wasm.Component.Binary
import WasmBoogie.Wasm.Component.Name
import WasmBoogie.Wasm.Component.Syntax
import WasmBoogie.Wasm.Component.Text
import WasmBoogie.Wasm.Component.Type
import WasmBoogie.Wasm.Component.Validate
import WasmBoogie.Wasm.Instr
import WasmBoogie.Wasm.Module
import WasmBoogie.Wasm.NameSection
import WasmBoogie.Wasm.Subtyping
import WasmBoogie.Wasm.Text.Instr
import WasmBoogie.Wasm.Text.Lexer
import WasmBoogie.Wasm.Text.Module
import WasmBoogie.Wasm.Text.Number
import WasmBoogie.Wasm.Text.Ops
import WasmBoogie.Wasm.Text.Scope
import WasmBoogie.Wasm.Text.Sexp
import WasmBoogie.Wasm.Types
import WasmBoogie.Wasm.Validate
import WasmBoogie.Wasm.Validate.Instr
import WasmBoogie.Wasm.Validate.Stack
import WasmBoogie.Wasm.Vector
import WasmBoogie.Proofs.Instr.CountTyping
import WasmBoogie.Proofs.Lower.StackBalance
import WasmBoogie.Proofs.Lower.FunctionBalance
