import Extraction.Pattern.Syntax
import Extraction.Text.Blank
import Extraction.Text.Digits
import Extraction.Text.Split
import Extraction.Unicode.Alphabetic

/-! # Reading patterns

A recursive descent over the characters of a pattern. The functions that call each other take
fuel, of which `parse` gives more than there can be calls: each of them reads a character, except
for the step from a choice to its first branch.
-/

namespace Extraction.Pattern

open Extraction.Text

/-- What the reader keeps track of. -/
structure Cursor where
  rest : List Char
  /-- Whether blanks and comments are skipped. -/
  verbose : Bool := false
  /-- The number of capturing groups opened so far. -/
  groups : Nat := 0
  /-- The names of groups with their indices. -/
  names : List (String × Nat) := []

abbrev Scanner := StateT Cursor (Except Error)

/-- Drops blanks and comments, which end with their line. -/
def dropComments (inside : Bool) : List Char → List Char
  | [] => []
  | c :: cs =>
    if inside then dropComments (c ≠ '\n') cs
    else if isBlank c then dropComments false cs
    else if c = '#' then dropComments true cs
    else c :: cs

namespace Scanner

def fail {α : Type} (e : Error) : Scanner α := throw e

def rest : Scanner (List Char) := return (← get).rest

def peek? : Scanner (Option Char) := return (← get).rest.head?

def setRest (cs : List Char) : Scanner Unit := modify fun c => { c with rest := cs }

/-- Drops one character. -/
def bump : Scanner Unit := modify fun c => { c with rest := c.rest.tail }

/-- Skips blanks and comments where they do not count. -/
def skip : Scanner Unit :=
  modify fun c => if c.verbose then { c with rest := dropComments false c.rest } else c

/-- Drops one character and what is skipped behind it. -/
def bumpSkip : Scanner Unit := do bump; skip

/-- The next character, where the pattern must not end. -/
def next (e : Error) : Scanner Char := do
  match ← peek? with
  | some c => return c
  | none => fail e

/-- Drops a character and what is skipped, and gives the next one. -/
def advance (e : Error) : Scanner Char := do bumpSkip; next e

/-- Reads characters as long as they satisfy `p`; those that are skipped stand between them. -/
def takeWhile (p : Char → Bool) : Nat → Scanner (List Char)
  | 0 => return []
  | fuel + 1 => do
    match ← peek? with
    | some c =>
      if p c then
        bumpSkip
        return c :: (← takeWhile p fuel)
      else return []
    | none => return []

/-- Reads characters that satisfy `p`. -/
def many (p : Char → Bool) : Scanner (List Char) := do takeWhile p (← rest).length

def dropBlanks : Scanner Unit := modify fun c => { c with rest := c.rest.dropWhile isBlank }

end Scanner

open Scanner

/-- The character with a code, where it is one. -/
def charOfCode (n : Nat) : Scanner Char :=
  if n.isValidChar then return Char.ofNat n else fail .badHexCode

/-- Reads exactly `count` hexadecimal digits. -/
def hexDigits : Nat → Scanner (List Char)
  | 0 => return []
  | count + 1 => do
    let c ← next .badEscape
    if isHexDigit c then
      bumpSkip
      return c :: (← hexDigits count)
    else fail .badHexCode

/-- Reads what follows `\x`, `\u` or `\U`: so many digits, or any number of them in braces. -/
def hexLiteral (count : Nat) : Scanner Literal := do
  let c ← advance .badEscape
  if c = '\x7b' then
    bumpSkip
    let ds ← many isHexDigit
    if (← next .badEscape) ≠ '\x7d' || ds.isEmpty then fail .badHexCode
    else
      bumpSkip
      return { char := ← charOfCode (ofDigits 16 ds) }
  else
    let char ← charOfCode (ofDigits 16 (← hexDigits count))
    return { char, isByte := count = 2 }

/-- A property, or one with a value behind a sign. Also tells whether the sign is `!=`, which asks
for the characters with any other value. -/
def propertyQuery (text : List Char) : PropertyQuery × Bool :=
  match splitFirst? ['!', '='] text with
  | some (name, value) => (.valued (String.ofList name) (String.ofList value), true)
  | none =>
    match (splitFirst? [':'] text).or (splitFirst? ['='] text) with
    | some (name, value) => (.valued (String.ofList name) (String.ofList value), false)
    | none => (.named (String.ofList text), false)

/-- Reads what follows `\p`, or `\P` where `negated` is set: one letter, or a name in braces. To
leave out what `!=` leaves out is to keep it. -/
def propertyClass (negated : Bool) : Scanner Expr := do
  let c ← advance .badEscape
  if c = '\x7b' then
    bumpSkip
    let text ← many fun c => c ≠ '\x7d'
    discard (next .badEscape)
    bump
    let (query, excluded) := propertyQuery text
    return .property query (negated != excluded)
  else if c = '\\' then fail .badEscape
  else
    bumpSkip
    return .property (.named c.toString) negated

def boundaryOfName? : List Char → Option Anchor
  | ['s', 't', 'a', 'r', 't'] => some .wordStart
  | ['e', 'n', 'd'] => some .wordEnd
  | ['s', 't', 'a', 'r', 't', '-', 'h', 'a', 'l', 'f'] => some .wordStartHalf
  | ['e', 'n', 'd', '-', 'h', 'a', 'l', 'f'] => some .wordEndHalf
  | _ => none

def isBoundaryChar (c : Char) : Bool := c = '-' || c.isAlpha

/-- Reads the kind of boundary that may stand in braces behind `\b`. Braces that do not start with
a letter are left for a repetition. -/
def wordBoundary : Scanner Anchor := do
  let start ← rest
  if start.head? = some '\x7b' then
    let c ← advance .badBoundary
    if isBoundaryChar c then
      let name ← many isBoundaryChar
      if (← next .badBoundary) ≠ '\x7d' then fail .badBoundary
      else
        bump
        match boundaryOfName? name with
        | some a => return a
        | none => fail .badBoundary
    else
      setRest start
      return .wordBoundary
  else return .wordBoundary

/-- Characters with a meaning of their own somewhere in a pattern. -/
def isMeta (c : Char) : Bool :=
  c ∈ ['\\', '.', '+', '*', '?', '(', ')', '|', '[', ']', '\x7b', '\x7d', '^', '$', '#', '&', '-', '~']

/-- Characters that stand for themselves behind a backslash. -/
def isEscapable (c : Char) : Bool :=
  isMeta c || (c.val < 0x80 && !c.isAlphanum && c ≠ '<' && c ≠ '>')

/-- Reads what follows a backslash. -/
def escape : Scanner Expr := do
  let c ← next .badEscape
  match c with
  | 'x' => return .literal (← hexLiteral 2)
  | 'u' => return .literal (← hexLiteral 4)
  | 'U' => return .literal (← hexLiteral 8)
  | 'p' => propertyClass false
  | 'P' => propertyClass true
  | _ =>
    bump
    if c.isDigit then fail .backreference
    else if isEscapable c then return .literal { char := c }
    else match c with
      | 'd' => return .letter .digit false
      | 'D' => return .letter .digit true
      | 's' => return .letter .space false
      | 'S' => return .letter .space true
      | 'w' => return .letter .word false
      | 'W' => return .letter .word true
      | 'a' => return .literal { char := '\x07' }
      | 'f' => return .literal { char := '\x0C' }
      | 't' => return .literal { char := '\t' }
      | 'n' => return .literal { char := '\n' }
      | 'r' => return .literal { char := '\r' }
      | 'v' => return .literal { char := '\x0B' }
      | 'A' => return .anchor .startText
      | 'z' => return .anchor .endText
      | 'b' => return .anchor (← wordBoundary)
      | 'B' => return .anchor .notWordBoundary
      | '<' => return .anchor .wordStart
      | '>' => return .anchor .wordEnd
      | _ => fail .badEscape

/-- An atom that is no group and no class in brackets. -/
def primitive (c : Char) : Scanner Expr := do
  bump
  match c with
  | '\\' => escape
  | '.' => return .dot
  | '^' => return .anchor .startLine
  | '$' => return .anchor .endLine
  | c => return .literal { char := c }

/-! ## Classes in brackets -/

def asciiClassNames : List String :=
  ["alnum", "alpha", "ascii", "blank", "cntrl", "digit", "graph", "lower", "print", "punct",
    "space", "upper", "word", "xdigit"]

/-- Reads a class such as `[:alpha:]`, or gives nothing and reads nothing. -/
def asciiClass? (cs : List Char) : Option (ClassExpr × List Char) :=
  match cs with
  | '[' :: ':' :: cs =>
    let (negated, cs) :=
      match cs with
      | '^' :: cs => (true, cs)
      | cs => (false, cs)
    let name := String.ofList (cs.takeWhile (· ≠ ':'))
    match cs.dropWhile (· ≠ ':') with
    | ':' :: ']' :: rest => if name ∈ asciiClassNames then some (.ascii name negated, rest) else none
    | _ => none
  | _ => none

/-- One item of a class: a character or an escape. -/
def classAtom : Scanner ClassExpr := do
  let c ← next .unclosedClass
  bump
  if c = '\\' then
    match ← escape with
    | .literal l => return .literal l
    | .letter kind negated => return .letter kind negated
    | .property query negated => return .property query negated
    | _ => fail .escapeInClass
  else return .literal { char := c }

/-- What stands behind the next character, where blanks are skipped up to the first comment
sign. -/
def peekBehind (verbose : Bool) (cs : List Char) : Option Char :=
  if verbose then
    let behind := cs.tail.dropWhile isBlank
    match behind with
    | '#' :: more => (more.dropWhile isBlank).head?.or cs.tail.head?
    | [] => cs.tail.head?
    | c :: _ => some c
  else cs.tail.head?

/-- A range of characters, or one item if no range starts here. -/
def classRange : Scanner ClassExpr := do
  let first ← classAtom
  skip
  let c ← next .unclosedClass
  let cursor ← get
  let behind := peekBehind cursor.verbose cursor.rest
  if c ≠ '-' || behind = some ']' || behind = some '-' then return first
  else
    discard (advance .unclosedClass)
    match first, ← classAtom with
    | .literal a, .literal b => if a.char ≤ b.char then return .range a b else fail .badRange
    | _, _ => fail .badRange

/-- Reads dashes at the start of a class. -/
def leadingDashes : Nat → Scanner (List ClassExpr)
  | 0 => return []
  | fuel + 1 => do
    if (← next .unclosedClass) = '-' then
      bumpSkip
      return .literal { char := '-' } :: (← leadingDashes fuel)
    else return []

/-- Combines the items since the last operator with what stands in front of it. -/
def combine (pending : Option (SetOperation × ClassExpr)) (items : List ClassExpr) : ClassExpr :=
  let right := ClassExpr.ofItems items.reverse
  match pending with
  | some (op, left) => .operation op left right
  | none => right

def operationAt? : List Char → Option SetOperation
  | '&' :: '&' :: _ => some .inter
  | '-' :: '-' :: _ => some .diff
  | '~' :: '~' :: _ => some .symmDiff
  | _ => none

mutual

/-- Reads a class, from its opening bracket on; also tells whether it is negated. -/
def classBrackets : Nat → Scanner (ClassExpr × Bool)
  | 0 => fail .tooDeep
  | fuel + 1 => do
    let c ← advance .unclosedClass
    let negated := c = '^'
    if negated then discard (advance .unclosedClass)
    let dashes ← leadingDashes fuel
    if dashes.isEmpty && (← next .unclosedClass) = ']' then
      discard (advance .unclosedClass)
      return (← classItems fuel none [.literal { char := ']' }], negated)
    else return (← classItems fuel none dashes, negated)

/-- Reads items up to the closing bracket; those since the last operator are in reverse. -/
def classItems : Nat → Option (SetOperation × ClassExpr) → List ClassExpr → Scanner ClassExpr
  | 0, _, _ => fail .tooDeep
  | fuel + 1, pending, items => do
    skip
    let c ← next .unclosedClass
    let cs ← rest
    match c, operationAt? cs with
    | ']', _ =>
      bump
      return combine pending items
    | '[', _ =>
      match asciiClass? cs with
      | some (item, cs) =>
        setRest cs
        classItems fuel pending (item :: items)
      | none =>
        let (inner, negated) ← classBrackets fuel
        classItems fuel pending (.bracketed inner negated :: items)
    | _, some op =>
      setRest (cs.drop 2)
      classItems fuel (some (op, combine pending items)) []
    | _, none =>
      let item ← classRange
      classItems fuel pending (item :: items)

end

/-! ## Groups -/

/-- Reads flags up to `:` or `)`, and tells whether it was the latter. `set` is whether flags are
set or cleared, `dangling` whether the last character was the sign between them. -/
def readFlags (set dangling : Bool) (acc : FlagChanges) :
    List Char → Except Error (FlagChanges × Bool × List Char)
  | [] => .error .badFlags
  | c :: cs =>
    if c = ')' ∨ c = ':' then
      if dangling then .error .badFlags else .ok (acc.reverse, c = ')', cs)
    else if c = '-' then
      if set then readFlags false true acc cs else .error .badFlags
    else match Flag.ofChar? c with
      | none => .error .badFlags
      | some f =>
        if acc.any fun change => change.1 = f then .error .badFlags
        else readFlags set false ((f, set) :: acc) cs

def isNameStart (c : Char) : Bool := c = '_' || Unicode.alphabetic.contains c

def isNameChar (c : Char) : Bool :=
  c = '_' || c = '.' || c = '[' || c = ']' || Unicode.alphabetic.contains c ||
    Unicode.numeric.contains c

/-- Reads the name of a group up to `>`. -/
def groupName (cs : List Char) : Except Error (String × List Char) :=
  match cs.takeWhile (· ≠ '>'), cs.dropWhile (· ≠ '>') with
  | c :: name, _ :: rest =>
    if isNameStart c && name.all isNameChar then .ok (String.ofList (c :: name), rest)
    else .error .badGroupName
  | _, _ => .error .badGroupName

/-- How a group starts. -/
inductive GroupStart where
  /-- Flags for the rest of the group around. -/
  | flags (changes : FlagChanges)
  | group (kind : GroupKind)

def isLookAround (cs : List Char) : Bool :=
  ["?=", "?!", "?<=", "?<!"].any fun s => s.toList.isPrefixOf cs

def capturingGroup (name : Option String) : Scanner GroupStart := do
  let cursor ← get
  let index := cursor.groups + 1
  match name with
  | none => set { cursor with groups := index }
  | some name =>
    if cursor.names.any fun n => n.1 = name then fail .duplicateGroupName
    else set { cursor with groups := index, names := cursor.names ++ [(name, index)] }
  return .group (.capturing index)

def namedGroup (cs : List Char) : Scanner GroupStart := do
  let (name, cs) ← liftM (groupName cs)
  setRest cs
  capturingGroup (some name)

/-- Reads the start of a group, behind its parenthesis. -/
def groupStart : Scanner GroupStart := do
  skip
  let cs ← rest
  if isLookAround cs then fail .lookAround
  else match cs with
    | '?' :: 'P' :: '<' :: cs => namedGroup cs
    | '?' :: '<' :: cs => namedGroup cs
    | '?' :: cs =>
      let (changes, closed, cs) ← liftM (readFlags true false [] cs)
      setRest cs
      if !closed then return .group (.plain changes)
      else if changes.isEmpty then fail .nothingToRepeat
      else return .flags changes
    | _ => capturingGroup none

/-- Whether changes of flags turn skipping on or off. -/
def verboseAfter (changes : FlagChanges) (before : Bool) : Bool :=
  (changes.lookup .verbose).getD before

/-! ## Repetitions -/

/-- The largest count of a repetition. -/
def maxCount : Nat := UInt32.size - 1

/-- Reads a count, if there is one. -/
def count? : Scanner (Option Nat) := do
  dropBlanks
  let ds ← many Char.isDigit
  dropBlanks
  if ds.isEmpty then return none
  else
    let n := ofDigits 10 ds
    if n ≤ maxCount then return some n else fail .badRepetition

def count : Scanner Nat := do
  match ← count? with
  | some n => return n
  | none => fail .badRepetition

/-- Reads a question mark, which makes an operator lazy. -/
def greedy : Scanner Bool := do
  if (← peek?) = some '?' then
    bump
    return false
  else return true

/-- Reads the bounds of a repetition and whether it is greedy. -/
def bounds (c : Char) : Scanner (Nat × Option Nat × Bool) := do
  if c = '\x7b' then
    discard (advance .badRepetition)
    let min ← count
    let max ←
      if (← next .badRepetition) = ',' then
        if (← advance .badRepetition) = '\x7d' then pure none else some <$> count
      else pure (some min)
    if (← next .badRepetition) ≠ '\x7d' then fail .badRepetition
    else
      bumpSkip
      let lazily ← greedy
      if max.all (min ≤ ·) then return (min, max, lazily) else fail .badRepetition
  else
    bump
    let lazily ← greedy
    match c with
    | '?' => return (0, some 1, lazily)
    | '*' => return (0, none, lazily)
    | _ => return (1, none, lazily)

def isRepeatable : Expr → Bool
  | .empty | .flags _ => false
  | _ => true

def isRepetitionSign (c : Char) : Bool := c ∈ ['?', '*', '+', '\x7b']

/-! ## Patterns -/

mutual

/-- Reads branches up to the end of the group around. -/
def choice : Nat → Scanner Expr
  | 0 => fail .tooDeep
  | fuel + 1 => do
    let first ← branch fuel []
    if (← peek?) = some '|' then
      bump
      return .alt first (← choice fuel)
    else return first

/-- Reads what follows the items of a branch, which are in reverse. -/
def branch : Nat → List Expr → Scanner Expr
  | 0, _ => fail .tooDeep
  | fuel + 1, items => do
    skip
    match ← peek? with
    | none | some '|' | some ')' => return Expr.ofSeq items.reverse
    | some '(' =>
      bump
      match ← groupStart with
      | .flags changes =>
        modify fun c => { c with verbose := verboseAfter changes c.verbose }
        branch fuel (.flags changes :: items)
      | .group kind =>
        let outside := (← get).verbose
        let changes := match kind with | .plain changes => changes | .capturing _ => []
        modify fun c => { c with verbose := verboseAfter changes outside }
        let body ← choice fuel
        if (← next .unclosedGroup) ≠ ')' then fail .unclosedGroup
        else
          bump
          modify fun c => { c with verbose := outside }
          branch fuel (.group kind body :: items)
    | some '[' =>
      let (inner, negated) ← classBrackets fuel
      branch fuel (.bracketed inner negated :: items)
    | some c =>
      if isRepetitionSign c then
        match items with
        | body :: items =>
          if isRepeatable body then
            let (min, max, isGreedy) ← bounds c
            branch fuel (.repetition body min max isGreedy :: items)
          else fail .nothingToRepeat
        | [] => fail .nothingToRepeat
      else
        let item ← primitive c
        branch fuel (item :: items)

end

/-- How deep a pattern may be nested. -/
def maxDepth : Nat := 250

/-- A pattern that was read. -/
structure Parsed where
  expr : Expr
  /-- The number of capturing groups. -/
  groups : Nat
  /-- The names of groups with their indices. -/
  names : List (String × Nat)

def parse (pattern : String) : Except Error Parsed := do
  let cs := pattern.toList
  let (expr, cursor) ← (choice (2 * cs.length + 3)).run { rest := cs }
  if cursor.rest.isEmpty then
    if expr.depth ≤ maxDepth then return { expr, groups := cursor.groups, names := cursor.names }
    else throw .tooDeep
  else throw .unopenedGroup

end Extraction.Pattern
