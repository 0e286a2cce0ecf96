import Extraction.Context

/-! # The stack of frames

Frames are only ever pushed. The top frame is what the text directives work on.
-/

namespace Extraction

structure Stack where
  /-- From the bottom to the top. -/
  frames : List Frame := []
deriving DecidableEq, Repr

namespace Stack

def empty : Stack := {}

def size (s : Stack) : Nat := s.frames.length

/-- The frame pushed last, empty if there is none. -/
def top (s : Stack) : Frame := s.frames.getLastD []

def push (s : Stack) (frame : Frame) : Stack := ⟨s.frames ++ [frame]⟩

/-- Pushes what `f` makes of the strings of the top frame. -/
def mapTop (f : String → String) (s : Stack) : Stack := s.push (s.top.map f)

/-- Pushes the strings of the top frame that satisfy `p`. -/
def filterTop (p : String → Bool) (s : Stack) : Stack := s.push (s.top.filter p)

@[simp] theorem top_push (s : Stack) (frame : Frame) : (s.push frame).top = frame := by
  simp [top, push, List.getLastD_eq_getLast?]

@[simp] theorem size_push (s : Stack) (frame : Frame) : (s.push frame).size = s.size + 1 := by
  simp [size, push]

end Stack

end Extraction
