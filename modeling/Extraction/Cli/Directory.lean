import Extraction.Text.Split

/-! # Directories

The files that a command can reach, by their paths. A directory is there if a file is in it. Which
of them may be read and written, and how far a write gets, the system decides.
-/

namespace Extraction.Cli

open Extraction.Text

inductive IoError where
  | notFound
  | permissionDenied
  | isDirectory
  | notDirectory
  | noSpace
  | nameTooLong
  | invalidText
  | other (message : String)
deriving DecidableEq, Repr

def IoError.message : IoError → String
  | .notFound => "No such file or directory (os error 2)"
  | .permissionDenied => "Permission denied (os error 13)"
  | .isDirectory => "Is a directory (os error 21)"
  | .notDirectory => "Not a directory (os error 20)"
  | .noSpace => "No space left on device (os error 28)"
  | .nameTooLong => "File name too long (os error 36)"
  | .invalidText => "stream did not contain valid UTF-8"
  | .other message => message

structure Directory where
  /-- The contents of files by their paths, each path once. -/
  files : List (String × List UInt8)
deriving DecidableEq, Repr

/-- What a path leads to. -/
inductive Place where
  | file (path : String)
  | directory
  /-- A file that can be made. -/
  | missing (path : String)
deriving DecidableEq, Repr

namespace Directory

def pathOf (parts : List String) : String := String.intercalate "/" parts

def hasFile (d : Directory) (path : String) : Bool := d.files.any fun f => f.1 = path

/-- Whether there is a file below a path. -/
def hasDirectory (d : Directory) (path : String) : Bool :=
  d.files.any fun f => (path ++ "/").toList.isPrefixOf f.1.toList

/-- The most bytes that a part of a path may have. -/
def maxName : Nat := 255

/-- The most bytes that a path may have. -/
def maxPath : Nat := 4095

/-- Where parts of a path lead around the whole directory. Nothing is known to be there. -/
def outside (parts : List String) : Except IoError Place :=
  if parts.all fun part => part ∈ ["", ".", ".."] then .ok .directory else .error .notFound

/-- Follows the parts of a path from a directory, whose parts are in reverse. -/
def locateFrom (d : Directory) (here : List String) : List String → Except IoError Place
  | [] => .ok .directory
  | part :: parts =>
    if part = "" ∨ part = "." then d.locateFrom here parts
    else if part = ".." then
      match here with
      | _ :: here => d.locateFrom here parts
      | [] => outside parts
    else
      let path := pathOf (part :: here).reverse
      if maxName < part.utf8ByteSize then .error .nameTooLong
      else if d.hasFile path then
        if parts.isEmpty then .ok (.file path) else .error .notDirectory
      else if d.hasDirectory path then d.locateFrom (part :: here) parts
      else if parts.isEmpty then .ok (.missing path)
      else .error .notFound

/-- Follows a path, from the whole directory unless it starts with a slash. -/
def locate (d : Directory) (path : String) : Except IoError Place :=
  if path.isEmpty then .error .notFound
  else if maxPath < path.utf8ByteSize then .error .nameTooLong
  else
    let parts := (splitOn '/' path.toList).map String.ofList
    if parts.head? = some "" then outside parts else d.locateFrom [] parts

/-- The contents of the file that a path leads to. -/
def read (d : Directory) (path : String) : Except IoError (List UInt8) :=
  match d.locate path with
  | .error e => .error e
  | .ok .directory => .error .isDirectory
  | .ok (.missing _) => .error .notFound
  | .ok (.file p) =>
    match d.files.lookup p with
    | some bytes => .ok bytes
    | none => .error .notFound

/-- Sets the contents of a file. -/
def set (d : Directory) (path : String) (bytes : List UInt8) : Directory :=
  ⟨(path, bytes) :: d.files.filter fun f => f.1 ≠ path⟩

/-- The path of the directory in which the last name of a path is looked up. -/
def folder (path : String) : String :=
  let name := path.toList.reverse.dropWhile (· = '/')
  String.ofList ((name.dropWhile (· ≠ '/')).reverse ++ ['.'])

/-- Why no file can be made at a path. One that ends with a slash is that of a directory, whether
there is one or not. -/
def createError (d : Directory) (path : String) (e : IoError) : IoError :=
  if path.toList.getLast? = some '/' ∧ path.utf8ByteSize ≤ maxPath then
    match d.locate (folder path) with
    | .ok _ => .isDirectory
    | .error e => e
  else e

end Directory

/-! ## Access -/

/-- What a system answers that the files do not tell. -/
structure System where
  /-- Why a file cannot be read, if it cannot. -/
  unreadable : String → Option IoError := fun _ => none
  /-- Why a file cannot be made or opened for writing, if it cannot. -/
  unwritable : String → Option IoError := fun _ => none
  /-- After how many bytes writing to an open file breaks off, and why, if it does. -/
  breaksOff : String → List UInt8 → Option (Nat × IoError) := fun _ _ => none

/-- Ways to read files and to write them. -/
structure Access (m : Type → Type) where
  read : String → m (Except IoError (List UInt8))
  /-- Gives the reason if a file could not be written, or not to its end. -/
  write : String → List UInt8 → m (Option IoError)

namespace System

def read (s : System) (d : Directory) (path : String) : Except IoError (List UInt8) :=
  match d.locate path with
  | .ok (.file p) =>
    match s.unreadable p with
    | some e => .error e
    | none => d.read path
  | _ => d.read path

/-- Opens a file for writing, which makes or empties it. Gives where it is. -/
def create (s : System) (d : Directory) (path : String) : Except IoError (String × Directory) :=
  match d.locate path with
  | .error e => .error (d.createError path e)
  | .ok .directory => .error .isDirectory
  | .ok (.missing p) | .ok (.file p) =>
    match s.unwritable p with
    | some e => .error e
    | none => .ok (p, d.set p [])

/-- Writes to a file that was opened just now. -/
def writeOpen (s : System) (d : Directory) (p : String) (bytes : List UInt8) :
    Option IoError × Directory :=
  match s.breaksOff p bytes with
  | some (n, e) => (some e, d.set p (bytes.take n))
  | none => (none, d.set p bytes)

/-- Writes a file. Once it is open, its former contents are gone, also if writing fails then. -/
def write (s : System) (d : Directory) (path : String) (bytes : List UInt8) :
    Option IoError × Directory :=
  match s.create d path with
  | .error e => (some e, d)
  | .ok (p, d) => s.writeOpen d p bytes

def access (s : System) : Access (StateM Directory) where
  read path d := (s.read d path, d)
  write path bytes d := s.write d path bytes

end System

end Extraction.Cli
