import Extraction.Directive
import Extraction.Text.Utf8

/-! # Instructions

A directive and its arguments. Its bytes are the opcode, every argument followed by a null, and
one more null.
-/

namespace Extraction

open Extraction.Text

structure Instruction where
  directive : Directive
  args : List String
deriving DecidableEq, Repr

namespace Instruction

def opcode (i : Instruction) : UInt8 := i.directive.opcode

def encodeArgs (args : List String) : List UInt8 := args.flatMap fun a => Utf8.encode a ++ [0]

def encode (i : Instruction) : List UInt8 := i.opcode :: encodeArgs i.args ++ [0]

/-- The number of bytes that `encode` gives. -/
def size (i : Instruction) : Nat := 2 + (i.args.map fun a => Utf8.size a + 1).foldr (· + ·) 0

/-- The instruction as a line of a layout. -/
def render (i : Instruction) : String := String.intercalate "\t" (i.directive.token :: i.args)

end Instruction

end Extraction
