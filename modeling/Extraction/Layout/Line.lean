/-! # Lines of a text

A line ends at a line feed, a carriage return, or both in that order. There is one line more
than there are line breaks, so a break at the end leaves an empty last line.
-/

namespace Extraction.Layout

def splitLines : List Char → List (List Char)
  | [] => [[]]
  | '\r' :: '\n' :: cs => [] :: splitLines cs
  | '\r' :: cs => [] :: splitLines cs
  | '\n' :: cs => [] :: splitLines cs
  | c :: cs =>
    match splitLines cs with
    | [] => [[c]]
    | l :: ls => (c :: l) :: ls

/-- The lines of a text, without their line breaks. -/
def lines (source : String) : List String := (splitLines source.toList).map String.ofList

theorem splitLines_ne_nil (cs : List Char) : splitLines cs ≠ [] := by
  fun_cases splitLines cs <;> simp_all

end Extraction.Layout
