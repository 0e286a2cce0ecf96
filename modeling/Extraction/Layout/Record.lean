import Extraction.Directive
import Extraction.Text.Blank

/-! # Line records

What is known of a line that carries a directive, its defects included. Defects are collected
and never stop the reading of a layout.
-/

namespace Extraction.Layout

open Extraction.Text

inductive Problem where
  | unsupportedDirective
  | noArguments
  /-- A blank field would be written as two null bytes, which end an instruction. -/
  | emptyArgument
deriving DecidableEq, Repr

def Problem.message : Problem → String
  | .unsupportedDirective => "unsupported directive"
  | .noArguments => "no arguments or incorrect delimiter"
  | .emptyArgument => "empty argument"

/-- One line that is neither blank nor a comment. -/
structure LineRecord where
  /-- Counted from 1. -/
  lineNr : Nat
  /-- The line as it stands in the source. -/
  raw : String
  call : String
  args : List String
  /-- In the order they were found, none if the line is fine. -/
  problems : List Problem
deriving DecidableEq, Repr

/-- The defects of a call with its arguments. -/
def problemsOf (call : String) (args : List String) : List Problem :=
  (if (Directive.ofToken? call).isNone then [.unsupportedDirective] else []) ++
    (if args.isEmpty then [.noArguments]
     else if args.any String.isEmpty then [.emptyArgument]
     else [])

namespace LineRecord

/-- The record of a line, from its fields: the call and its arguments, which are trimmed. -/
def ofFields (lineNr : Nat) (raw : String) (fields : List String) : LineRecord :=
  let fields := fields.map trim
  let call := fields.headD ""
  let args := fields.tail
  { lineNr, raw, call, args, problems := problemsOf call args }

def problem? (r : LineRecord) : Option Problem := r.problems.head?

def isOk (r : LineRecord) : Bool := r.problems.isEmpty

def directive? (r : LineRecord) : Option Directive := Directive.ofToken? r.call

end LineRecord

end Extraction.Layout
