/-! # The syntax of patterns

What a pattern says before its flags and the names in it are resolved.
-/

namespace Extraction.Pattern

/-- Why a pattern is refused. -/
inductive Error where
  | unclosedGroup
  | unopenedGroup
  | unclosedClass
  | lookAround
  | backreference
  | badGroupName
  | duplicateGroupName
  | badFlags
  | nothingToRepeat
  | badRepetition
  | badEscape
  | badHexCode
  | badBoundary
  | badRange
  | escapeInClass
  | unknownProperty
  /-- A property, or a letter outside ASCII, where matching is by byte. -/
  | characterByByte
  /-- Something that, by byte, matches parts of characters. -/
  | partOfCharacter
  | tooDeep
  | tooLarge
deriving DecidableEq, Repr

def Error.message : Error → String
  | .unclosedGroup => "unclosed group"
  | .unopenedGroup => "unopened group"
  | .unclosedClass => "unclosed character class"
  | .lookAround => "look-around is not supported"
  | .backreference => "backreferences are not supported"
  | .badGroupName => "invalid capture group name"
  | .duplicateGroupName => "duplicate capture group name"
  | .badFlags => "invalid flags"
  | .nothingToRepeat => "repetition operator without an expression"
  | .badRepetition => "invalid repetition count"
  | .badEscape => "unrecognized escape sequence"
  | .badHexCode => "invalid hexadecimal character code"
  | .badBoundary => "invalid word boundary"
  | .badRange => "invalid character class range"
  | .escapeInClass => "escape sequence not allowed in a character class"
  | .unknownProperty => "unknown property"
  | .characterByByte => "not allowed without unicode support"
  | .partOfCharacter => "pattern can match invalid utf-8"
  | .tooDeep => "pattern is nested too deeply"
  | .tooLarge => "compiled pattern is too large"

inductive Flag where
  | ignoreCase
  | multiLine
  | dotMatchesNewLine
  | swapGreed
  | unicode
  | crlf
  | verbose
deriving DecidableEq, Repr

def Flag.ofChar? : Char → Option Flag
  | 'i' => some .ignoreCase
  | 'm' => some .multiLine
  | 's' => some .dotMatchesNewLine
  | 'U' => some .swapGreed
  | 'u' => some .unicode
  | 'R' => some .crlf
  | 'x' => some .verbose
  | _ => none

/-- Flags with whether they are set or cleared, in the order they are written. -/
abbrev FlagChanges := List (Flag × Bool)

inductive Anchor where
  | startLine
  | endLine
  | startText
  | endText
  | wordBoundary
  | notWordBoundary
  | wordStart
  | wordEnd
  | wordStartHalf
  | wordEndHalf
deriving DecidableEq, Repr

/-- The classes with a letter of their own. -/
inductive LetterClass where
  | digit
  | space
  | word
deriving DecidableEq, Repr

/-- A property of characters, as it is asked for. -/
inductive PropertyQuery where
  | named (name : String)
  | valued (name value : String)
deriving DecidableEq, Repr

/-- A character, and whether it is written as a byte: two hexadecimal digits. -/
structure Literal where
  char : Char
  isByte : Bool := false
deriving DecidableEq, Repr

inductive SetOperation where
  | inter
  | diff
  | symmDiff
deriving DecidableEq, Repr

/-- What stands in brackets. -/
inductive ClassExpr where
  | empty
  | literal (l : Literal)
  | range (first last : Literal)
  | ascii (name : String) (negated : Bool)
  | letter (kind : LetterClass) (negated : Bool)
  | property (query : PropertyQuery) (negated : Bool)
  | bracketed (inner : ClassExpr) (negated : Bool)
  /-- An item, and those behind it. -/
  | union (item rest : ClassExpr)
  | operation (op : SetOperation) (left right : ClassExpr)
deriving Repr

inductive GroupKind where
  | capturing (index : Nat)
  | plain (flags : FlagChanges)
deriving DecidableEq, Repr

inductive Expr where
  | empty
  /-- Flags for the rest of the group around. -/
  | flags (changes : FlagChanges)
  | literal (l : Literal)
  | dot
  | anchor (a : Anchor)
  | letter (kind : LetterClass) (negated : Bool)
  | property (query : PropertyQuery) (negated : Bool)
  | bracketed (inner : ClassExpr) (negated : Bool)
  | repetition (body : Expr) (min : Nat) (max : Option Nat) (greedy : Bool)
  | group (kind : GroupKind) (body : Expr)
  | seq (first rest : Expr)
  | alt (first rest : Expr)
deriving Repr

/-- The union of items. -/
def ClassExpr.ofItems : List ClassExpr → ClassExpr
  | [] => .empty
  | [item] => item
  | item :: items => .union item (ofItems items)

/-- Items one after the other. -/
def Expr.ofSeq : List Expr → Expr
  | [] => .empty
  | [e] => e
  | e :: es => .seq e (ofSeq es)

/-- How deep brackets and operators are nested. A union of any number of items is one level. -/
def ClassExpr.depth : ClassExpr → Nat
  | .empty | .literal _ | .range _ _ | .ascii _ _ | .letter _ _ | .property _ _ => 0
  | .bracketed inner _ => inner.depth + 1
  | .union item rest =>
    match rest with
    | .union _ _ => max (item.depth + 1) rest.depth
    | _ => max item.depth rest.depth + 1
  | .operation _ left right => max left.depth right.depth + 1

/-- How deep a pattern is nested. A sequence of any length is one level, as is a choice. -/
def Expr.depth : Expr → Nat
  | .empty | .flags _ | .literal _ | .dot | .anchor _ | .letter _ _ | .property _ _ => 0
  | .bracketed inner _ => inner.depth + 1
  | .repetition body _ _ _ => body.depth + 1
  | .group _ body => body.depth + 1
  | .seq first rest =>
    match rest with
    | .seq _ _ => max (first.depth + 1) rest.depth
    | _ => max first.depth rest.depth + 1
  | .alt first rest =>
    match rest with
    | .alt _ _ => max (first.depth + 1) rest.depth
    | _ => max first.depth rest.depth + 1

end Extraction.Pattern
