import Extraction.Unicode.Printable

/-! # Quoted text

A text as it is shown in a message: between double quotes, with everything escaped that would
not be seen as a character of its own.
-/

namespace Extraction.Text

def escapeChar (c : Char) : String :=
  match c with
  | '\x00' => "\\0"
  | '\t' => "\\t"
  | '\r' => "\\r"
  | '\n' => "\\n"
  | '"' => "\\\""
  | '\\' => "\\\\"
  | c =>
    if Unicode.graphemeExtend.contains c || Unicode.unprintable.contains c then
      "\\u\x7b" ++ String.ofList (digits 16 c.toNat) ++ "\x7d"
    else c.toString

def quoted (s : String) : String := "\"" ++ String.join (s.toList.map escapeChar) ++ "\""

/-- A list of quoted texts, in brackets. -/
def quotedList (ss : List String) : String :=
  "[" ++ String.intercalate ", " (ss.map quoted) ++ "]"

end Extraction.Text
