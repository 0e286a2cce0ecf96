import Extraction.Instruction

/-! # Programs

The `layout` instruction in front of a program is its header. It is kept apart from the
instructions that are executed.
-/

namespace Extraction

structure Program where
  version : Float
  /-- The arguments of the header. -/
  layout : List String
  instructions : List Instruction
deriving BEq, Repr

namespace Program

/-- The newest version that can be executed. -/
def supportedVersion : Float := 1.0

/-- A program with the usual header. -/
def ofInstructions (instructions : List Instruction) : Program :=
  { version := supportedVersion, layout := ["vivid", "1.0"], instructions }

def header (p : Program) : Instruction := ⟨.layout, p.layout⟩

def size (p : Program) : Nat := p.instructions.length

def isEmpty (p : Program) : Bool := p.instructions.isEmpty

def toBytes (p : Program) : List UInt8 :=
  p.header.encode ++ p.instructions.flatMap Instruction.encode

/-- The program as a layout, one instruction a line. -/
def render (p : Program) : String :=
  String.intercalate "\n" ((p.header :: p.instructions).map Instruction.render)

end Program

end Extraction
