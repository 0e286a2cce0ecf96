import Extraction.Machine.Env
import Extraction.Text.Split

/-! # Directives on the strings of the top frame

Each of them is a function on stacks that its arguments determine, or an error that they
determine.
-/

namespace Extraction

open Extraction.Text

/-- Puts a text in place of the first occurrence of a part. -/
def replaceFirst (text part replacement : String) : String :=
  match splitFirst? part.toList text.toList with
  | some (front, behind) => String.ofList (front ++ replacement.toList ++ behind)
  | none => text

/-- Puts a text in place of every occurrence of a part that is not empty, from the left. -/
def replaceParts (part replacement : List Char) : List Char → List Char
  | [] => []
  | c :: cs =>
    if !part.isEmpty && part.isPrefixOf (c :: cs) then
      replacement ++ replaceParts part replacement (cs.drop (part.length - 1))
    else c :: replaceParts part replacement cs
termination_by cs => cs.length

/-- Stands for a space in replacement texts, as the arguments of a layout are trimmed. -/
def spaceKeyword : String := "<space>"

/-- The replacement text that an argument stands for. -/
def expandSpaces (s : String) : String :=
  String.ofList (replaceParts spaceKeyword.toList [' '] s.toList)

/-- The pattern that the first argument holds. -/
def patternArg (args : List String) : Except RuntimeError Pattern :=
  match arg args 0 with
  | .error e => .error e
  | .ok text =>
    match Pattern.ofString text with
    | .ok p => .ok p
    | .error e => .error (.invalidPattern text e)

/-- What a directive does with the top frame. -/
inductive FrameChange where
  | map (f : String → String)
  | filter (p : String → Bool)

/-- Pushes what a change makes of the top frame. -/
def FrameChange.push : FrameChange → Stack → Stack
  | .map f, stack => stack.mapTop f
  | .filter p, stack => stack.filterTop p

namespace FrameChange

/-- The first group of the first match, or nothing. -/
def extract (args : List String) : Except RuntimeError FrameChange :=
  (patternArg args).map fun p => .map fun s => (p.extract? s).getD ""

/-- Replaces all matches. Without a second argument they are removed. -/
def replace (args : List String) : Except RuntimeError FrameChange :=
  (patternArg args).map fun p => .map fun s => p.replaceAll s (expandSpaces (args.getD 1 ""))

/-- Removes the first occurrence of a literal. -/
def remove (args : List String) : Except RuntimeError FrameChange :=
  (arg args 0).map fun part => .map fun s => replaceFirst s part ""

/-- Puts each string into the template, in place of the first placeholder. -/
def insert (args : List String) : Except RuntimeError FrameChange :=
  (arg args 0).map fun placeholder => .map fun s => replaceFirst (args.getD 1 "") placeholder s

def glue (args : List String) : Except RuntimeError FrameChange :=
  (arg args 0).map fun front => .map fun s => front ++ s

def keep (args : List String) : Except RuntimeError FrameChange :=
  (patternArg args).map fun p => .filter p.isMatch

def drop (args : List String) : Except RuntimeError FrameChange :=
  (patternArg args).map fun p => .filter fun s => !p.isMatch s

end FrameChange

/-- Makes a change of the top frame, or fails as its arguments have it. -/
def changeTop {ν : Type} (change : Except RuntimeError FrameChange) (env : Env ν) (stack : Stack) :
    Outcome ν :=
  (env, change.map fun c => c.push stack)

end Extraction
