import GuestBridge.Bytes
import GuestBridge.Module.Digest

/-!
# Compiled modules

What a compiler answers: a `CompiledModule` with its bytecode, or a `Diagnostic` that tells where in
the source it stopped.
-/

namespace GuestBridge

/-- An error in a source, with the line and column where they are known. -/
structure Diagnostic where
  sourceName : String
  message : String
  line : Option UInt32
  column : Option UInt32
  deriving DecidableEq, Repr

namespace Diagnostic

/-- A diagnostic without a position. -/
def unplaced (sourceName message : String) : Diagnostic :=
  ⟨sourceName, message, none, none⟩

/-- The diagnostic at a line and column. -/
def placedAt (d : Diagnostic) (line column : UInt32) : Diagnostic :=
  { d with line := some line, column := some column }

/-- The diagnostic after its position. A column is told only with a line. -/
def text (d : Diagnostic) : String :=
  let name := d.sourceName
  let message := d.message
  match d.line, d.column with
  | some line, some column =>
      let line := line.toNat
      let column := column.toNat
      s!"{name}:{line}:{column}: {message}"
  | some line, none =>
      let line := line.toNat
      s!"{name}:{line}: {message}"
  | none, _ => s!"{name}: {message}"

end Diagnostic

/-- The bytecode compiled from a named source. -/
structure CompiledModule where
  sourceName : String
  bytecode : Bytes
  deriving DecidableEq, Repr

/-- The digest of the bytecode. -/
def CompiledModule.digest (m : CompiledModule) : String :=
  digestText m.bytecode

/-- A compiler takes the name of a source and the source. -/
abbrev Compiler := String → String → Except Diagnostic CompiledModule

end GuestBridge
