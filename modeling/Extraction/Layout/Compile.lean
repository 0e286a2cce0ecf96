import Extraction.Instruction
import Extraction.Layout.Parse
import Extraction.Text.Quoted

/-! # Compiling a layout

The bytes of a layout are those of its records in order. They have no header of their own: the
`layout` instruction in front doubles as one.
-/

namespace Extraction.Layout

open Extraction.Text

inductive CompileError where
  | invalidLine (record : LineRecord)
  | missingLayout
  | malformed (cause : SyntaxError)
deriving DecidableEq, Repr

def CompileError.message : CompileError → String
  | .invalidLine r =>
    s!"line {r.lineNr}: " ++ String.intercalate ", " (r.problems.map Problem.message) ++
      s!": {quoted r.raw}"
  | .missingLayout => "layout directive not set or not on first line"
  | .malformed e => s!"Could not parse layout:\nline {e.lineNr}: {quoted e.raw}"

/-- The instruction of a record, if its call is a directive. -/
def LineRecord.instruction? (r : LineRecord) : Option Instruction :=
  r.directive?.map fun d => ⟨d, r.args⟩

/-- The instruction of a record without problems. -/
def LineRecord.compile (r : LineRecord) : Except CompileError Instruction :=
  match r.instruction? with
  | some i => if r.isOk then .ok i else .error (.invalidLine r)
  | none => .error (.invalidLine r)

/-- The bytes of records, up to the first that cannot be compiled. -/
def compileRecords : List LineRecord → Except CompileError (List UInt8)
  | [] => .ok []
  | r :: rs =>
    match r.compile with
    | .error e => .error e
    | .ok i => (compileRecords rs).map (i.encode ++ ·)

/-- A defective line is reported before a missing header. -/
def compile (records : List (Option LineRecord)) : Except CompileError (List UInt8) :=
  match compileRecords (records.filterMap id) with
  | .error e => .error e
  | .ok bytes =>
    if bytes.head? = some Directive.layout.opcode then .ok bytes else .error .missingLayout

def compileSource (source : String) : Except CompileError (List UInt8) :=
  match parse source with
  | .error e => .error (.malformed e)
  | .ok records => compile records

end Extraction.Layout
