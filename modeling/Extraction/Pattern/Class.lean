import Extraction.Pattern.Syntax
import Extraction.Unicode.Age
import Extraction.Unicode.Alphabetic
import Extraction.Unicode.Binary
import Extraction.Unicode.Boundary
import Extraction.Unicode.CaseFold
import Extraction.Unicode.Script

/-! # The characters of a class

What the classes of a pattern mean: named sets, properties, and the sets in brackets.
-/

namespace Extraction.Pattern

open Extraction.Unicode

structure Flags where
  ignoreCase : Bool := false
  multiLine : Bool := false
  dotMatchesNewLine : Bool := false
  swapGreed : Bool := false
  unicode : Bool := true
  crlf : Bool := false
deriving DecidableEq, Repr

/-- Skipping blanks is over once a pattern is read, so that flag changes nothing. -/
def Flags.change (fs : Flags) : Flag × Bool → Flags
  | (.ignoreCase, b) => { fs with ignoreCase := b }
  | (.multiLine, b) => { fs with multiLine := b }
  | (.dotMatchesNewLine, b) => { fs with dotMatchesNewLine := b }
  | (.swapGreed, b) => { fs with swapGreed := b }
  | (.unicode, b) => { fs with unicode := b }
  | (.crlf, b) => { fs with crlf := b }
  | (.verbose, _) => fs

def Flags.changes (fs : Flags) (changes : FlagChanges) : Flags := changes.foldl Flags.change fs

def asciiClass (name : String) : CharSet :=
  match name with
  | "alnum" => .ofText "30-39 41-5A 61-7A"
  | "alpha" => .ofText "41-5A 61-7A"
  | "ascii" => .ofText "0-7F"
  | "blank" => .ofText "9 20"
  | "cntrl" => .ofText "0-1F 7F"
  | "digit" => .ofText "30-39"
  | "graph" => .ofText "21-7E"
  | "lower" => .ofText "61-7A"
  | "print" => .ofText "20-7E"
  | "punct" => .ofText "21-2F 3A-40 5B-60 7B-7E"
  | "space" => .ofText "9-D 20"
  | "upper" => .ofText "41-5A"
  | "word" => .ofText "30-39 41-5A 5F 61-7A"
  | "xdigit" => .ofText "30-39 41-46 61-66"
  | _ => .empty

def whiteSpace : CharSet := .ofText "9-D 20 85 A0 1680 2000-200A 2028-2029 202F 205F 3000"

def letterClass (unicode : Bool) : LetterClass → CharSet
  | .digit => if unicode then decimalDigits else asciiClass "digit"
  | .space => if unicode then whiteSpace else asciiClass "space"
  | .word => if unicode then wordChars else asciiClass "word"

/-- General categories that are unions of others, by the loose forms of their names. -/
def majorCategory? (name : String) : Option CharSet :=
  match name with
  | "any" => some .full
  | "ascii" => some (asciiClass "ascii")
  | "assigned" => some (categoryUnion ["Cn"]).compl
  | "l" | "letter" => some (categoryUnion ["Lu", "Ll", "Lt", "Lm", "Lo"])
  | "lc" | "casedletter" => some (categoryUnion ["Lu", "Ll", "Lt"])
  | "m" | "mark" | "combiningmark" => some (categoryUnion ["Mn", "Mc", "Me"])
  | "n" | "number" => some (categoryUnion ["Nd", "Nl", "No"])
  | "p" | "punctuation" | "punct" =>
    some (categoryUnion ["Pc", "Pd", "Ps", "Pe", "Pi", "Pf", "Po"])
  | "s" | "symbol" => some (categoryUnion ["Sm", "Sc", "Sk", "So"])
  | "z" | "separator" => some (categoryUnion ["Zs", "Zl", "Zp"])
  -- the surrogates join the ranges on both sides of them
  | "c" | "other" => some ((categoryUnion ["Cc", "Cf", "Co", "Cn"]).union (.range 0xD7FF 0xE000))
  | _ => none

def category? (name : String) : Option CharSet :=
  (majorCategory? name).or ((find? categories name).map Property.set)

def script? (name : String) : Option CharSet := (find? scripts name).map Property.set

def scriptExtension? (name : String) : Option CharSet :=
  ((find? scriptExtensions name).map Property.set).or (script? name)

def binary? (name : String) : Option CharSet := (find? binaryProperties name).map Property.set

/-- The set that a query for a property asks for. Three names are categories before they are
anything else. -/
def PropertyQuery.set? : PropertyQuery → Option CharSet
  | .named name =>
    let name := looseName name
    let found := (category? name).or (script? name)
    if name ∈ ["cf", "sc", "lc"] then found else (binary? name).or found
  | .valued name value =>
    let value := looseName value
    match looseName name with
    | "gc" | "generalcategory" | "category" => category? value
    | "sc" | "script" => script? value
    | "scx" | "scriptextensions" => scriptExtension? value
    | "age" => age? value
    | "gcb" | "graphemeclusterbreak" => (find? graphemeBreaks value).map Property.set
    | "wb" | "wordbreak" => (find? wordBreaks value).map Property.set
    | "sb" | "sentencebreak" => (find? sentenceBreaks value).map Property.set
    | _ => none

/-- Adds other cases where case is ignored. -/
def Flags.fold (fs : Flags) (s : CharSet) : CharSet :=
  if fs.ignoreCase then (if fs.unicode then caseFold s else asciiCaseFold s) else s

/-- By byte, the complement of a set of ASCII characters holds parts of other characters. -/
def Flags.negate (fs : Flags) (negated : Bool) (s : CharSet) : Except Error CharSet :=
  if negated then (if fs.unicode then .ok s.compl else .error .partOfCharacter) else .ok s

def Flags.letterSet (fs : Flags) (kind : LetterClass) (negated : Bool) : Except Error CharSet :=
  fs.negate negated (letterClass fs.unicode kind)

def Flags.propertySet (fs : Flags) (query : PropertyQuery) (negated : Bool) :
    Except Error CharSet :=
  if fs.unicode then
    match query.set? with
    | some s => fs.negate negated (fs.fold s)
    | none => .error .unknownProperty
  else .error .characterByByte

/-- The code of a character in brackets. -/
def Flags.classCode (fs : Flags) (l : Literal) : Except Error Nat :=
  if fs.unicode || l.char.toNat < 0x80 then .ok l.char.toNat else .error .characterByByte

def SetOperation.apply : SetOperation → CharSet → CharSet → CharSet
  | .inter => CharSet.inter
  | .diff => CharSet.diff
  | .symmDiff => CharSet.symmDiff

/-- The set of what stands in brackets. -/
def ClassExpr.set (fs : Flags) : ClassExpr → Except Error CharSet
  | .empty => .ok .empty
  | .literal l => do
    let n ← fs.classCode l
    return .range n n
  | .range first last => do
    let lo ← fs.classCode first
    let hi ← fs.classCode last
    return .range lo hi
  | .ascii name negated => fs.negate negated (fs.fold (asciiClass name))
  | .letter kind negated => fs.letterSet kind negated
  | .property query negated => fs.propertySet query negated
  | .bracketed inner negated => do
    let s ← inner.set fs
    let s ← fs.negate negated (fs.fold s)
    return .ofRanges s.ranges
  | .union item rest => do
    let s ← item.set fs
    let t ← rest.set fs
    return s.union t
  | .operation op left right => do
    let s ← left.set fs
    let t ← right.set fs
    return op.apply (fs.fold s) (fs.fold t)

end Extraction.Pattern
