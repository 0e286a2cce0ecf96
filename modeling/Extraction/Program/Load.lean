import Extraction.Decimal.Read
import Extraction.Program
import Extraction.Text.Quoted
import Extraction.Text.Split

/-! # Loading bytecode

Bytecode is a sequence of instructions, the first of which is the header `layout vivid` with a
version. An instruction ends at its first two nulls in a row; the last one may lack them.
-/

namespace Extraction

open Extraction.Text

inductive LoadError where
  | signature
  | invalidVersion (text : String)
  | unsupportedVersion (text : String)
  | unknownOpcode (offset : Nat) (opcode : UInt8)
  | emptyInstruction (offset : Nat)
  | utf8 (offset : Nat) (cause : Utf8.Error)
deriving DecidableEq, Repr

/-- A byte as `0x` and two digits. -/
def hexByte (b : UInt8) : String :=
  "0x" ++ (if b < 16 then "0" else "") ++ String.ofList (digits 16 b.toNat)

def LoadError.message : LoadError → String
  | .signature => "Not vivid bytecode, the signature doesn't match"
  | .invalidVersion text => "Could not read the bytecode version: " ++ quoted text
  | .unsupportedVersion text =>
    s!"Bytecode version {text} is not supported, the newest supported version is 1.0"
  | .unknownOpcode offset opcode => s!"Unknown opcode {hexByte opcode} at offset {offset}"
  | .emptyInstruction offset => s!"Instruction at offset {offset} has no arguments"
  | .utf8 offset _ => s!"Argument of the instruction at offset {offset} is not valid utf-8"

namespace Program

/-- The first bytes of every program: the opcode of `layout`, and "vivid". -/
def signature : List UInt8 := Directive.layout.opcode :: Utf8.encode "vivid"

/-- Splits at the first two nulls in a row, which belong to neither part. A single null at the
very end is dropped. -/
def splitBody : List UInt8 → List UInt8 × List UInt8
  | [] => ([], [])
  | [0] => ([], [])
  | 0 :: 0 :: rest => ([], rest)
  | b :: rest =>
    let (body, rest) := splitBody rest
    (b :: body, rest)

theorem splitBody_length (bytes : List UInt8) :
    (splitBody bytes).2.length ≤ bytes.length := by
  fun_induction splitBody bytes with
  | case1 => simp
  | case2 => simp
  | case3 => simp; omega
  | case4 b rest body rest' h ih => simp_all; omega

/-- Decodes arguments up to the first that is not text. -/
def decodeArgs (offset : Nat) : List (List UInt8) → Except LoadError (List String)
  | [] => .ok []
  | part :: parts =>
    match Utf8.decode? part with
    | .error e => .error (.utf8 offset e)
    | .ok arg => (decodeArgs offset parts).map (arg :: ·)

/-- Decodes the instruction that starts with `opcode`, at `offset`, and gives the bytes behind
it. -/
def decodeInstruction (offset : Nat) (opcode : UInt8) (bytes : List UInt8) :
    Except LoadError (Instruction × List UInt8) :=
  match Directive.ofOpcode? opcode with
  | none => .error (.unknownOpcode offset opcode)
  | some directive =>
    let (body, rest) := splitBody bytes
    if body.isEmpty then .error (.emptyInstruction offset)
    else (decodeArgs offset (splitOn 0 body)).map fun args => (⟨directive, args⟩, rest)

theorem decodeInstruction_rest {offset : Nat} {opcode : UInt8} {bytes rest : List UInt8}
    {i : Instruction} (h : decodeInstruction offset opcode bytes = .ok (i, rest)) :
    rest = (splitBody bytes).2 := by
  unfold decodeInstruction at h
  split at h
  · cases h
  · simp only at h
    split at h
    · cases h
    · cases e : decodeArgs offset (splitOn 0 (splitBody bytes).1) with
      | error => rw [e] at h; cases h
      | ok args => rw [e] at h; cases h; rfl

/-- Decodes all instructions of bytes that start at `offset`. -/
def decodeAll (offset : Nat) : List UInt8 → Except LoadError (List Instruction)
  | [] => .ok []
  | opcode :: bytes =>
    match h : decodeInstruction offset opcode bytes with
    | .error e => .error e
    | .ok (i, rest) =>
      (decodeAll (offset + 1 + (bytes.length - rest.length)) rest).map (i :: ·)
termination_by bytes => bytes.length
decreasing_by
  have := splitBody_length bytes
  rw [← decodeInstruction_rest h] at this
  simp; omega

/-- The text of the version: up to three bytes behind the null that ends "vivid". -/
def versionText (bytes : List UInt8) : String :=
  Utf8.decodeLossy (((bytes.drop 7).take 3).takeWhile fun b => b ≠ 0)

/-- A version is compared as a whole decimal number. -/
def readVersion (bytes : List UInt8) : Except LoadError Float :=
  let text := versionText bytes
  match Decimal.read? text with
  | none => .error (.invalidVersion text)
  | some version =>
    if version.isFinite then
      if supportedVersion < version then .error (.unsupportedVersion text) else .ok version
    else .error (.invalidVersion text)

def load (bytes : List UInt8) : Except LoadError Program :=
  if bytes.take signature.length ≠ signature then .error .signature
  else
    match readVersion bytes with
    | .error e => .error e
    | .ok version =>
      match decodeAll 0 bytes with
      | .error e => .error e
      | .ok instructions =>
        .ok ⟨version, instructions.head?.elim [] Instruction.args, instructions.tail⟩

end Program

end Extraction
