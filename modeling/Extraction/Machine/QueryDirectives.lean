import Extraction.Machine.Env
import Extraction.Number

/-! # Directives that query the document -/

namespace Extraction

variable {ν : Type}

/-- What a query came to: the strings for the frame, or the error that ended it, and the nodes
visited so far. -/
abbrev Visit (ν : Type) := List ν × Except RuntimeError Frame

/-- One string per result, and the nodes that it is read from. -/
structure Reading (ν : Type) where
  text : String
  nodes : List ν

/-- The text of a node that need not exist. -/
def readNode (doc : Document ν) : Option ν → Reading ν
  | some n => ⟨doc.textOf n, [n]⟩
  | none => ⟨"", []⟩

def boolText (b : Bool) : String := if b then "true" else "false"

/-- The frame for a result on the whole document: one string for each node of a node-set, and a
single one for all else. -/
def XPathResult.frame (doc : Document ν) : XPathResult ν → List ν × Frame
  | .number x => ([], [Number.format x])
  | .string s => ([], [s])
  | .boolean b => ([], [boolText b])
  | .node n => ((readNode doc n).nodes, [(readNode doc n).text])
  | .nodeSet ns => (ns, ns.map doc.textOf)

/-- The string for a result on a node of the scope. Of a node-set, the first node counts. -/
def XPathResult.reading (doc : Document ν) : XPathResult ν → Reading ν
  | .number x => ⟨Number.format x, []⟩
  | .string s => ⟨s, []⟩
  | .boolean b => ⟨boolText b, []⟩
  | .node n => readNode doc n
  | .nodeSet ns => readNode doc ns.head?

/-- Queries every node of a scope, up to the first that fails. -/
def visitScope (query : ν → Except QueryError (Reading ν)) : List ν → Visit ν
  | [] => ([], .ok [])
  | n :: ns =>
    match query n with
    | .error e => ([], .error (.query e))
    | .ok r =>
      let (visited, frame) := visitScope query ns
      (r.nodes ++ visited, frame.map (r.text :: ·))

/-- Queries the scope, or the whole document if there is none. -/
def visit (scope : Option (List ν)) (whole : Except QueryError (List ν × Frame))
    (query : ν → Except QueryError (Reading ν)) : Visit ν :=
  match scope with
  | some ns => visitScope query ns
  | none =>
    match whole with
    | .error e => ([], .error (.query e))
    | .ok (visited, frame) => (visited, .ok frame)

def followVisit (doc : Document ν) (scope : Option (List ν)) (xpath : String) : Visit ν :=
  visit scope ((doc.evaluate xpath none).map fun r => r.frame doc) fun n =>
    (doc.evaluate xpath (some n)).map fun r => r.reading doc

def selectVisit (doc : Document ν) (scope : Option (List ν)) (selector : String) : Visit ν :=
  visit scope ((doc.selectAll selector none).map fun ns => (ns, ns.map doc.textOf)) fun n =>
    (doc.selectFirst selector (some n)).map (readNode doc)

namespace Env

/-- Pushes the strings of a query. Its nodes are the visited ones from then on. -/
def pushVisit (query : String → Visit ν) (env : Env ν) (stack : Stack) (args : List String) :
    Outcome ν :=
  match arg args 0 with
  | .error e => (env, .error e)
  | .ok text =>
    let (visited, frame) := query text
    ({ env with visited }, frame.map stack.push)

def follow (doc : Document ν) (env : Env ν) (stack : Stack) (args : List String) : Outcome ν :=
  pushVisit (followVisit doc env.scope) env stack args

def select (doc : Document ν) (env : Env ν) (stack : Stack) (args : List String) : Outcome ν :=
  pushVisit (selectVisit doc env.scope) env stack args

/-- The argument of `bundle` that lifts the scope. -/
def clearScope : String := "*"

/-- Sets the scope to the nodes of an xpath, evaluated on the whole document. -/
def bundle (doc : Document ν) (env : Env ν) (stack : Stack) (args : List String) : Outcome ν :=
  match arg args 0 with
  | .error e => (env, .error e)
  | .ok xpath =>
    if xpath = clearScope then ({ env with scope := none }, .ok stack)
    else
      match doc.evaluate xpath none with
      | .error e => (env, .error (.query e))
      | .ok result =>
        match result.nodes? with
        | none => (env, .error (.notANodeSet xpath))
        | some ns => ({ env with scope := some ns, visited := ns }, .ok stack)

/-- Pushes the value of a css property for every visited node. -/
def style (doc : Document ν) (env : Env ν) (stack : Stack) (args : List String) : Outcome ν :=
  match arg args 0 with
  | .error e => (env, .error e)
  | .ok property => (env, .ok (stack.push (env.visited.map fun n => doc.style n property)))

end Env

end Extraction
