import Extraction.Document

/-! # Documents with canned answers

Every query that such a document knows is registered with its answer; all others match nothing.
Later entries stand in front of earlier ones, so the first that fits is the one that counts.
-/

namespace Extraction

/-- The index of a node, in the order in which nodes were added. -/
abbrev NodeId := Nat

structure StaticNode where
  text : Option String
  styles : List (String × String)
deriving DecidableEq, Repr

structure StaticDocument where
  nodes : List StaticNode := []
  xpaths : List ((String × Option NodeId) × XPathResult NodeId) := []
  selectors : List ((String × Option NodeId) × List NodeId) := []
  /-- Queries that fail, with their messages. -/
  rejected : List (String × String) := []
deriving Repr

namespace StaticDocument

def empty : StaticDocument := {}

/-- Adds a node, whose id is the number of nodes so far. -/
def addNode (d : StaticDocument) (text : Option String) : StaticDocument × NodeId :=
  ({ d with nodes := d.nodes ++ [⟨text, []⟩] }, d.nodes.length)

/-- Does nothing if there is no such node yet. -/
def setStyle (d : StaticDocument) (node : NodeId) (property value : String) : StaticDocument :=
  { d with nodes := d.nodes.modify node fun n => { n with styles := (property, value) :: n.styles } }

def onXPath (d : StaticDocument) (xpath : String) (root : Option NodeId)
    (result : XPathResult NodeId) : StaticDocument :=
  { d with xpaths := ((xpath, root), result) :: d.xpaths }

def onSelector (d : StaticDocument) (selector : String) (root : Option NodeId)
    (nodes : List NodeId) : StaticDocument :=
  { d with selectors := ((selector, root), nodes) :: d.selectors }

/-- Makes every evaluation of a query fail. -/
def reject (d : StaticDocument) (query message : String) : StaticDocument :=
  { d with rejected := (query, message) :: d.rejected }

/-- Answers a query that is not rejected. -/
def answer {α : Type} (d : StaticDocument) (query : String) (result : α) : Except QueryError α :=
  match d.rejected.lookup query with
  | some message => .error ⟨query, message⟩
  | none => .ok result

def evaluate (d : StaticDocument) (xpath : String) (root : Option NodeId) :
    Except QueryError (XPathResult NodeId) :=
  d.answer xpath ((d.xpaths.lookup (xpath, root)).getD (.nodeSet []))

def selectAll (d : StaticDocument) (selector : String) (root : Option NodeId) :
    Except QueryError (List NodeId) :=
  d.answer selector ((d.selectors.lookup (selector, root)).getD [])

def text? (d : StaticDocument) (node : NodeId) : Option String :=
  (d.nodes[node]?).bind StaticNode.text

def style (d : StaticDocument) (node : NodeId) (property : String) : String :=
  ((d.nodes[node]?).bind fun n => n.styles.lookup property).getD ""

def toDocument (d : StaticDocument) : Document NodeId :=
  { evaluate := d.evaluate
    selectAll := d.selectAll
    text? := d.text?
    style := d.style }

end StaticDocument

end Extraction
