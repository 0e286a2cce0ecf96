import Extraction.Text.Quoted

/-! # Documents

What a program needs of a document: the answers to xpath and css queries, the text of a node and
its computed style. Engines for these belong to the host.
-/

namespace Extraction

open Extraction.Text

/-- A query that a document cannot evaluate. -/
structure QueryError where
  query : String
  message : String
deriving DecidableEq, Repr

def QueryError.text (e : QueryError) : String :=
  "Invalid query " ++ quoted e.query ++ ": " ++ e.message

/-- The result of an xpath, by its type. -/
inductive XPathResult (ν : Type) where
  | number (value : Float)
  | string (value : String)
  | boolean (value : Bool)
  /-- The answer to a query for a single node, which need not exist. -/
  | node (node : Option ν)
  /-- In document order. -/
  | nodeSet (nodes : List ν)
deriving Repr

/-- The nodes of a result that is made of nodes. -/
def XPathResult.nodes? {ν : Type} : XPathResult ν → Option (List ν)
  | .node n => some n.toList
  | .nodeSet ns => some ns
  | .number _ | .string _ | .boolean _ => none

/-- Queries are evaluated below a node, or on the whole document if there is none. -/
structure Document (ν : Type) where
  evaluate : String → Option ν → Except QueryError (XPathResult ν)
  /-- All elements that a selector matches, in document order. -/
  selectAll : String → Option ν → Except QueryError (List ν)
  /-- The first element that a selector matches. A host may have a faster way to it. -/
  selectFirst : String → Option ν → Except QueryError (Option ν) :=
    fun selector root => (selectAll selector root).map List.head?
  text? : ν → Option String
  style : ν → String → String

namespace Document

variable {ν : Type} (doc : Document ν)

/-- The text of a node, empty if it has none. -/
def textOf (n : ν) : String := (doc.text? n).getD ""

end Document

end Extraction
