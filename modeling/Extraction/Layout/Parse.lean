import Extraction.Layout.Line
import Extraction.Layout.Record
import Extraction.Text.Split

/-! # Reading a layout

A line is blank, a comment, or a record: fields separated by runs of tabs, with no tab at either
end once the line is trimmed.
-/

namespace Extraction.Layout

open Extraction.Text

/-- The fields of a text that has a field at both ends. -/
def fields? (cs : List Char) : Option (List (List Char)) :=
  let parts := splitOn '\t' cs
  if (parts.headD []).isEmpty || (parts.getLastD []).isEmpty then none
  else some (parts.filter fun f => !f.isEmpty)

/-- A line that holds no sequence of fields. -/
structure SyntaxError where
  lineNr : Nat
  raw : String
deriving DecidableEq, Repr

/-- Blank lines and comments have no record. -/
def parseLine (lineNr : Nat) (raw : String) : Except SyntaxError (Option LineRecord) :=
  match trimChars raw.toList with
  | [] => .ok none
  | '#' :: _ => .ok none
  | cs =>
    match fields? cs with
    | some fields => .ok (some (.ofFields lineNr raw (fields.map String.ofList)))
    | none => .error ⟨lineNr, raw⟩

/-- Reads lines, the first of which has the number `lineNr`. -/
def parseLines (lineNr : Nat) : List String → Except SyntaxError (List (Option LineRecord))
  | [] => .ok []
  | raw :: rest =>
    match parseLine lineNr raw with
    | .error e => .error e
    | .ok r => (parseLines (lineNr + 1) rest).map (r :: ·)

/-- One entry for each line, so that of line `n` is at index `n - 1`. -/
def parse (source : String) : Except SyntaxError (List (Option LineRecord)) :=
  parseLines 1 (lines source)

/-- The records with at least one problem. -/
def invalidRecords (records : List (Option LineRecord)) : List LineRecord :=
  (records.filterMap id).filter fun r => !r.isOk

end Extraction.Layout
