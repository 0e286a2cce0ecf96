/-! # The directives of the layout language

The table is closed: a directive has one token, and its opcode is the index of that token in
alphabetical order. `layout` is number 8, the first byte of every bytecode file.
-/

namespace Extraction

inductive Directive where
  /-- Narrows `follow` and `select` to the nodes of an xpath, or lifts that again. -/
  | bundle
  /-- Removes the strings of the top frame that match a pattern. -/
  | drop
  /-- First capture group of a pattern. -/
  | extract
  /-- Evaluates an xpath. -/
  | follow
  /-- Puts a text in front of each string. -/
  | glue
  /-- Puts each string into a template, in place of a placeholder. -/
  | insert
  /-- Retains the strings of the top frame that match a pattern. -/
  | keep
  /-- Appends the top frame to the repository under a name. -/
  | label
  /-- Header of every program, never executed. -/
  | layout
  /-- Hands the top frame to a host command. -/
  | prompt
  /-- Removes the first occurrence of a literal. -/
  | remove
  /-- Substitutes all matches of a pattern. -/
  | replace
  /-- Evaluates a css selector. -/
  | select
  /-- Computed style of the nodes visited last. -/
  | style
deriving DecidableEq, Repr

namespace Directive

/-- All directives, in the order of their opcodes. -/
def all : List Directive :=
  [.bundle, .drop, .extract, .follow, .glue, .insert, .keep, .label, .layout, .prompt, .remove,
    .replace, .select, .style]

def token : Directive → String
  | .bundle => "bundle"
  | .drop => "drop"
  | .extract => "extract"
  | .follow => "follow"
  | .glue => "glue"
  | .insert => "insert"
  | .keep => "keep"
  | .label => "label"
  | .layout => "layout"
  | .prompt => "prompt"
  | .remove => "remove"
  | .replace => "replace"
  | .select => "select"
  | .style => "style"

def opcode : Directive → UInt8
  | .bundle => 0
  | .drop => 1
  | .extract => 2
  | .follow => 3
  | .glue => 4
  | .insert => 5
  | .keep => 6
  | .label => 7
  | .layout => 8
  | .prompt => 9
  | .remove => 10
  | .replace => 11
  | .select => 12
  | .style => 13

/-- Tokens are case sensitive. -/
def ofToken? (token : String) : Option Directive :=
  all.find? fun d => d.token = token

def ofOpcode? (opcode : UInt8) : Option Directive :=
  all.find? fun d => d.opcode = opcode

/-- Whether executing the directive pushes a frame. The others only have side effects. -/
def producesFrame : Directive → Bool
  | .bundle | .label | .layout | .prompt => false
  | _ => true

@[simp] theorem ofToken?_token (d : Directive) : ofToken? d.token = some d := by
  cases d <;> decide

@[simp] theorem ofOpcode?_opcode (d : Directive) : ofOpcode? d.opcode = some d := by
  cases d <;> decide

theorem token_of_ofToken? {t : String} {d : Directive} (h : ofToken? t = some d) :
    d.token = t := by
  simpa using List.find?_some h

theorem opcode_of_ofOpcode? {b : UInt8} {d : Directive} (h : ofOpcode? b = some d) :
    d.opcode = b := by
  simpa using List.find?_some h

theorem opcode_injective {d d' : Directive} (h : d.opcode = d'.opcode) : d = d' := by
  have hd := congrArg ofOpcode? h
  rwa [ofOpcode?_opcode, ofOpcode?_opcode, Option.some.injEq] at hd

end Directive

end Extraction
