import Extraction.Json.Numeral
import Extraction.Json.Read
import Extraction.Layout.Record
import Extraction.Program
import Extraction.Stack

/-! # Serialized forms

How the values of the library are written as JSON and read again. A record may also be an array
of its fields in order, and a plain name an object with that name and null. Members that a record
does not have are ignored, those that it has must be there once.
-/

namespace Extraction

open Extraction.Layout

namespace Json

def text? : Json → Option String
  | .string s => s
  | _ => none

def list? {α : Type} (f : Json → Option α) : Json → Option (List α)
  | .array js => js.mapM f
  | _ => none

def texts? : Json → Option (List String) := list? text?

/-- The member of a name that occurs once. -/
def member? (members : List (Option String × Json)) (name : String) : Option Json :=
  match members.filter fun m => m.1 = some name with
  | [m] => some m.2
  | _ => none

/-- The values of the fields of a record. -/
def fieldsOf? (names : List String) : Json → Option (List Json)
  | .array js => if js.length = names.length then some js else none
  | .object members =>
    if members.all fun m => m.1.isSome then names.mapM (member? members) else none
  | _ => none

/-- A name that stands for a value. -/
def name? : Json → Option String
  | .string s => s
  | .object [(key, .null)] => key
  | _ => none

/-- A whole number below `2⁶⁴`. -/
def nat? : Json → Option Nat
  | .number n => n.nat?.filter fun k => k < UInt64.size
  | _ => none

def float? : Json → Option Float
  | .number n => n.float?
  | _ => none

/-- Doubles that are not finite have no number. -/
def float (x : Float) : Json := (Numeral.ofDouble? (.ofFloat x)).elim .null .number

end Json

open Json

namespace Directive

def toJson (d : Directive) : Json := .text d.token

def ofJson? (j : Json) : Option Directive := (name? j).bind ofToken?

end Directive

namespace Layout.Problem

def name : Problem → String
  | .unsupportedDirective => "UnsupportedDirective"
  | .noArguments => "NoArguments"
  | .emptyArgument => "EmptyArgument"

def ofName? : String → Option Problem
  | "UnsupportedDirective" => some .unsupportedDirective
  | "NoArguments" => some .noArguments
  | "EmptyArgument" => some .emptyArgument
  | _ => none

def toJson (p : Problem) : Json := .text p.name

def ofJson? (j : Json) : Option Problem := (name? j).bind ofName?

end Layout.Problem

namespace Instruction

def toJson (i : Instruction) : Json :=
  .record [("directive", i.directive.toJson), ("args", .texts i.args)]

def ofJson? (j : Json) : Option Instruction := do
  match ← fieldsOf? ["directive", "args"] j with
  | [directive, args] => return { directive := ← Directive.ofJson? directive, args := ← texts? args }
  | _ => none

end Instruction

namespace Layout.LineRecord

def toJson (r : LineRecord) : Json :=
  .record [("line_nr", .nat r.lineNr), ("raw", .text r.raw), ("call", .text r.call),
    ("args", .texts r.args), ("problems", .list Problem.toJson r.problems)]

def ofJson? (j : Json) : Option LineRecord := do
  match ← fieldsOf? ["line_nr", "raw", "call", "args", "problems"] j with
  | [lineNr, raw, call, args, problems] =>
    return {
      lineNr := ← nat? lineNr
      raw := ← text? raw
      call := ← text? call
      args := ← texts? args
      problems := ← list? Problem.ofJson? problems }
  | _ => none

end Layout.LineRecord

namespace Program

def toJson (p : Program) : Json :=
  .record [("version", .float p.version), ("layout", .texts p.layout),
    ("instructions", .list Instruction.toJson p.instructions)]

def ofJson? (j : Json) : Option Program := do
  match ← fieldsOf? ["version", "layout", "instructions"] j with
  | [version, layout, instructions] =>
    return {
      version := ← float? version
      layout := ← texts? layout
      instructions := ← list? Instruction.ofJson? instructions }
  | _ => none

end Program

namespace Repository

def toJson (r : Repository) : Json := .record (r.entries.map fun e => (e.1, .texts e.2))

def ofMember? (m : Option String × Json) : Option (String × List String) := do
  return (← m.1, ← texts? m.2)

def ofJson? : Json → Option Repository
  | .object members => (members.mapM ofMember?).map ofList
  | _ => none

end Repository

namespace Stack

def toJson (s : Stack) : Json := .list .texts s.frames

def ofJson? (j : Json) : Option Stack := (list? texts? j).map Stack.mk

end Stack

end Extraction
