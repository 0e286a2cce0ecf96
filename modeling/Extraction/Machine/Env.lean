import Extraction.Document
import Extraction.Pattern
import Extraction.Stack

/-! # What an instruction can reach besides the stack -/

namespace Extraction

open Extraction.Text

inductive RuntimeError where
  | layoutAtRuntime
  | invalidPattern (pattern : String) (cause : Pattern.Error)
  | query (cause : QueryError)
  | notANodeSet (xpath : String)
  | missingArgument (index : Nat)
deriving DecidableEq, Repr

def RuntimeError.message : RuntimeError → String
  | .layoutAtRuntime =>
    "The layout directive can only be the header of a program, the bytecode is malformed"
  | .invalidPattern pattern cause => s!"Invalid regex {quoted pattern}: {cause.message}"
  | .query cause => cause.text
  | .notANodeSet xpath => s!"The xpath {quoted xpath} doesn't evaluate to a node-set"
  | .missingArgument index => s!"Argument {index} is missing"

structure Env (ν : Type) where
  context : Context := .empty
  /-- The nodes of the last `bundle`, none where the whole document is queried. -/
  scope : Option (List ν) := none
  /-- The nodes touched by the last `follow`, `select` or `bundle`. -/
  visited : List ν := []
deriving DecidableEq, Repr

/-- The environment at the start of a run. -/
def Env.ofContext {ν : Type} (context : Context) : Env ν := { context }

/-- What executing a directive comes to: the environment, also where it fails, and the stack. -/
abbrev Outcome (ν : Type) := Env ν × Except RuntimeError Stack

/-- The argument at an index. -/
def arg (args : List String) (index : Nat) : Except RuntimeError String :=
  match args[index]? with
  | some a => .ok a
  | none => .error (.missingArgument index)

end Extraction
