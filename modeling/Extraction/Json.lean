import Extraction.Text.Digits

/-! # JSON texts

Values as they are written: numbers keep their digits and objects the order of their members. A
string with half of a surrogate pair is no text, and has no value.
-/

namespace Extraction

/-- A number as it is written, by its digits. -/
structure Numeral where
  negative : Bool
  whole : List Char
  /-- Empty if there is no point. -/
  fraction : List Char
  /-- The sign, true if negative, and the digits of the exponent. -/
  exponent : Option (Bool × List Char)
deriving DecidableEq, Repr

inductive Json where
  | null
  | bool (value : Bool)
  | number (value : Numeral)
  | string (value : Option String)
  | array (items : List Json)
  | object (members : List (Option String × Json))
deriving Repr

namespace Json

def text (s : String) : Json := .string (some s)

def nat (n : Nat) : Json := .number ⟨false, Text.digits 10 n, [], none⟩

def list {α : Type} (f : α → Json) (as : List α) : Json := .array (as.map f)

def texts (ss : List String) : Json := list text ss

/-- An object whose members have names. -/
def record (members : List (String × Json)) : Json :=
  .object (members.map fun m => (some m.1, m.2))

/-! ## Writing -/

def hexDigitChar (n : Nat) : Char := (Nat.digitChar (n % 16))

/-- A code of four hexadecimal digits. -/
def escapeCode (n : Nat) : List Char :=
  ['\\', 'u', hexDigitChar (n / 4096), hexDigitChar (n / 256), hexDigitChar (n / 16),
    hexDigitChar n]

/-- Besides quotes and backslashes, only controls are escaped. -/
def escapeChar (c : Char) : List Char :=
  match c with
  | '"' => ['\\', '"']
  | '\\' => ['\\', '\\']
  | '\x08' => ['\\', 'b']
  | '\x0C' => ['\\', 'f']
  | '\n' => ['\\', 'n']
  | '\r' => ['\\', 'r']
  | '\t' => ['\\', 't']
  | c => if c.toNat < 0x20 then escapeCode c.toNat else [c]

/-- What has no value is written as half of a surrogate pair. -/
def renderString : Option String → List Char
  | some s => '"' :: s.toList.flatMap escapeChar ++ ['"']
  | none => '"' :: escapeCode 0xD800 ++ ['"']

def renderNumeral (n : Numeral) : List Char :=
  (if n.negative then ['-'] else []) ++ n.whole ++
    (if n.fraction.isEmpty then [] else '.' :: n.fraction) ++
    match n.exponent with
    | none => []
    | some (negative, ds) => 'e' :: (if negative then '-' :: ds else ds)

mutual

def render : Json → List Char
  | .null => ['n', 'u', 'l', 'l']
  | .bool true => ['t', 'r', 'u', 'e']
  | .bool false => ['f', 'a', 'l', 's', 'e']
  | .number n => renderNumeral n
  | .string s => renderString s
  | .array [] => ['[', ']']
  | .array (j :: js) => '[' :: render j ++ renderItems js
  | .object [] => ['\x7b', '\x7d']
  | .object ((k, j) :: ms) => '\x7b' :: renderString k ++ ':' :: render j ++ renderMembers ms

/-- The items behind the first one. -/
def renderItems : List Json → List Char
  | [] => [']']
  | j :: js => ',' :: render j ++ renderItems js

/-- The members behind the first one. -/
def renderMembers : List (Option String × Json) → List Char
  | [] => ['\x7d']
  | (k, j) :: ms => ',' :: renderString k ++ ':' :: render j ++ renderMembers ms

end

/-- The text of a value, without blanks. -/
def toText (j : Json) : String := String.ofList j.render

end Json

end Extraction
