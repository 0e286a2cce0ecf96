import Extraction.Pattern.Node

/-! # Resolving flags

What the flags of a pattern make of its characters, its dots and its anchors.
-/

namespace Extraction.Pattern

def Anchor.look (fs : Flags) : Anchor → Look
  | .startLine => if fs.multiLine then .lineStart fs.crlf else .textStart
  | .endLine => if fs.multiLine then .lineEnd fs.crlf else .textEnd
  | .startText => .textStart
  | .endText => .textEnd
  | .wordBoundary => .word .either fs.unicode
  | .notWordBoundary => .word .neither fs.unicode
  | .wordStart => .word .start fs.unicode
  | .wordEnd => .word .finish fs.unicode
  | .wordStartHalf => .word .startHalf fs.unicode
  | .wordEndHalf => .word .finishHalf fs.unicode

/-- What a dot stands for. -/
def Flags.dot (fs : Flags) : CharSet :=
  if fs.dotMatchesNewLine then .full
  else if fs.crlf then (CharSet.ofText "A D").compl
  else (CharSet.ofText "A").compl

/-- By byte, a byte outside ASCII is no character. -/
def Flags.literal (fs : Flags) (l : Literal) : Except Error Node :=
  if !fs.unicode && l.isByte && 0x80 ≤ l.char.toNat then .error .partOfCharacter
  else .ok (.ofSet (fs.fold (.singleton l.char)) fs.unicode)

/-- Resolves flags, which hold up to the end of the group around. Gives those at the end. The
branches of a choice are all known where its group ends. -/
def Expr.node (fs : Flags) : Expr → Except Error (Node × Flags)
  | .empty => .ok (.empty, fs)
  | .flags changes => .ok (.empty, fs.changes changes)
  | .literal l => do return (← fs.literal l, fs)
  | .dot => if fs.unicode then .ok (.ofSet fs.dot true, fs) else .error .partOfCharacter
  | .anchor a => .ok (.look (a.look fs), fs)
  | .letter kind negated => do return (.ofSet (← fs.letterSet kind negated) fs.unicode, fs)
  | .property query negated => do return (.ofSet (← fs.propertySet query negated) fs.unicode, fs)
  | .bracketed inner negated => do
    let s ← inner.set fs
    return (.ofSet (← fs.negate negated (fs.fold s)) fs.unicode, fs)
  | .repetition body min max greedy => do
    let (n, fs) ← body.node fs
    return (n.repeated min max (greedy != fs.swapGreed), fs)
  | .group (.capturing index) body => do
    let (n, _) ← body.node fs
    return (.capture index n.factored, fs)
  | .group (.plain changes) body => do
    let (n, _) ← body.node (fs.changes changes)
    return (n.factored, fs)
  | .seq first rest => do
    let (n, fs) ← first.node fs
    let (m, fs) ← rest.node fs
    return (n.append m, fs)
  | .alt first rest => do
    let (n, fs) ← first.node fs
    let (m, fs) ← rest.node fs
    return (.alt n m, fs)

/-- The meaning of a whole pattern. -/
def Expr.resolve (e : Expr) : Except Error Node := do
  let (n, _) ← e.node {}
  return n.factored

end Extraction.Pattern
