/-! # UTF-8

Text as bytes. `decode?` refuses ill-formed bytes and says where and how far they are wrong,
`decodeLossy` puts U+FFFD in place of each maximal ill-formed part.
-/

namespace Extraction.Text.Utf8

def encodeChars (cs : List Char) : List UInt8 := cs.flatMap String.utf8EncodeChar

def encode (s : String) : List UInt8 := encodeChars s.toList

/-- The number of bytes that `encode` gives. -/
def size (s : String) : Nat := (s.toList.map Char.utf8Size).foldr (· + ·) 0

/-- Where decoding stopped. -/
structure Error where
  /-- The number of bytes in front of the defect. -/
  validUpTo : Nat
  /-- The number of bytes that no continuation can mend, none if the bytes end too soon. -/
  length : Option Nat
deriving DecidableEq, Repr

/-- Reads on as: invalid from this index, or ending in the middle of a character. -/
def Error.message (e : Error) : String :=
  match e.length with
  | some n => s!"invalid utf-8 sequence of {n} bytes from index {e.validUpTo}"
  | none => s!"incomplete utf-8 byte sequence from index {e.validUpTo}"

/-- What the bytes start with. -/
inductive Head where
  /-- A character, and the number of bytes that follow its first one. -/
  | char (c : Char) (more : Nat)
  /-- An ill-formed sequence, and the number of bytes that follow its first one. -/
  | invalid (more : Nat)
  /-- The beginning of a character that the bytes do not complete. -/
  | incomplete
deriving DecidableEq, Repr

/-- For a first byte, the number of bytes that follow it and the range of the second one. -/
def shape (b : UInt8) : Option (Nat × UInt8 × UInt8) :=
  if b < 0xC2 then none
  else if b < 0xE0 then some (1, 0x80, 0xBF)
  else if b = 0xE0 then some (2, 0xA0, 0xBF)
  else if b = 0xED then some (2, 0x80, 0x9F)
  else if b < 0xF0 then some (2, 0x80, 0xBF)
  else if b = 0xF0 then some (3, 0x90, 0xBF)
  else if b < 0xF4 then some (3, 0x80, 0xBF)
  else if b = 0xF4 then some (3, 0x80, 0x8F)
  else none

def isContinuation (b : UInt8) : Bool := 0x80 ≤ b && b ≤ 0xBF

/-- The six bits of a continuation byte, behind those read so far. -/
def push (n : Nat) (b : UInt8) : Nat := 64 * n + (b.toNat - 0x80)

/-- The continuation bytes from the third byte on: `count` are left, `seen` were read. -/
def tail (seen n : Nat) : Nat → List UInt8 → Head
  | 0, _ => .char (Char.ofNat n) seen
  | _ + 1, [] => .incomplete
  | count + 1, b :: bs =>
    if isContinuation b then tail (seen + 1) (push n b) count bs else .invalid seen

/-- What a first byte and those behind it start with. -/
def head (b : UInt8) (bs : List UInt8) : Head :=
  if b < 0x80 then .char (Char.ofNat b.toNat) 0
  else match shape b with
    | none => .invalid 0
    | some (count, lo, hi) =>
      match bs with
      | [] => .incomplete
      | b' :: bs' =>
        if lo ≤ b' && b' ≤ hi then
          let bits := b.toNat % Nat.pow 2 (6 - count)
          tail 1 (push bits b') (count - 1) bs'
        else .invalid 0

def decodeFrom (index : Nat) : List UInt8 → Except Error (List Char)
  | [] => .ok []
  | b :: bs =>
    match head b bs with
    | .char c more => (decodeFrom (index + 1 + more) (bs.drop more)).map (c :: ·)
    | .invalid more => .error ⟨index, some (more + 1)⟩
    | .incomplete => .error ⟨index, none⟩
termination_by bs => bs.length
decreasing_by simp only [List.length_drop, List.length_cons]; omega

def decode? (bytes : List UInt8) : Except Error String :=
  (decodeFrom 0 bytes).map String.ofList

/-- Stands for bytes that are no character. -/
def replacement : Char := '\uFFFD'

def decodeLossyChars : List UInt8 → List Char
  | [] => []
  | b :: bs =>
    match head b bs with
    | .char c more => c :: decodeLossyChars (bs.drop more)
    | .invalid more => replacement :: decodeLossyChars (bs.drop more)
    | .incomplete => [replacement]
termination_by bs => bs.length
decreasing_by all_goals simp only [List.length_drop, List.length_cons]; omega

def decodeLossy (bytes : List UInt8) : String := String.ofList (decodeLossyChars bytes)

end Extraction.Text.Utf8
