import Extraction.Cli.Args
import Extraction.Cli.Directory
import Extraction.Layout.Compile
import Extraction.Program.Load

/-! # Executing a command

A command reads one file. What it then does is a report, or a file to write and a report on that.
How files are read and written is left open, so that a command can be executed on those of the
machine as well as in a directory that is only described.
-/

namespace Extraction.Cli

open Extraction.Layout Extraction.Text

/-- What a command leaves behind besides files. -/
structure Report where
  code : Nat
  out : String := ""
  err : String := ""
deriving DecidableEq, Repr

/-- A cause on lines of its own, indented; causes are numbered if there are several. -/
def causeLines (causes : List String) : String :=
  match causes with
  | [cause] => s!"    {cause}\n"
  | causes => String.join (causes.mapIdx fun n cause => s!"    {n}: {cause}\n")

/-- The report of a command that failed. -/
def failure (context : String) (causes : List String) : Report :=
  { code := 1, err := s!"Error: {context}\n\nCaused by:\n" ++ causeLines causes }

/-- An error with what caused it. -/
def loadCauses (e : LoadError) : List String :=
  match e with
  | .utf8 _ cause => [e.message, cause.message]
  | _ => [e.message]

/-! ## Showing a layout -/

def grey (s : String) : String := "\x1b[38;5;8m" ++ s ++ "\x1b[39m"

def boldRed (s : String) : String := "\x1b[38;5;9m\x1b[1m" ++ s ++ "\x1b[0m"

/-- A number with blanks in front, four characters at least. -/
def lineLabel (n : Nat) : String :=
  let ds := digits 10 n
  String.ofList (List.replicate (4 - ds.length) ' ' ++ ds) ++ " |"

def diagnostic (message : String) : String :=
  grey "     =" ++ " " ++ boldRed "error" ++ ": " ++ message ++ "\n"

/-- A line, and behind it the problems of its record. -/
def showLine (n : Nat) (raw : String) (record : Option LineRecord) : String :=
  grey (lineLabel n) ++ " " ++ raw ++ "\n" ++
    String.join ((record.elim [] LineRecord.problems).map fun p => diagnostic p.message)

/-- The lines of a layout, numbered from `n`, with their records. -/
def showLines (n : Nat) : List String → List (Option LineRecord) → String
  | raw :: raws, record :: records => showLine n raw record ++ showLines (n + 1) raws records
  | _, _ => ""

def problemCount (records : List (Option LineRecord)) : Nat :=
  (records.map fun r => (r.elim [] LineRecord.problems).length).foldr (· + ·) 0

/-- What is wrong with a layout as a whole, if all of its lines are fine. -/
def layoutProblem? (records : List (Option LineRecord)) : Option CompileError :=
  if problemCount records = 0 then
    match compile records with
    | .error .missingLayout => some .missingLayout
    | _ => none
  else none

def check (path source : String) : Report :=
  match parse source with
  | .error e => { code := 1, err := s!"Error: {(CompileError.malformed e).message}\n" }
  | .ok records =>
    let out := showLines 1 (lines source) records
    let (count, out) :=
      match layoutProblem? records with
      | some e => (1, out ++ diagnostic e.message)
      | none => (problemCount records, out)
    if count = 0 then { code := 0, out }
    else { code := 1, out, err := s!"{count} problem(s) in {path}\n" }

/-! ## Paths -/

/-- The extension of bytecode. -/
def extension : String := "vvd"

/-- The name of a file up to its last point, unless that is its first character. -/
def stem (name : List Char) : List Char :=
  match name.reverse.dropWhile (· ≠ '.') with
  | [] => name
  | _ :: front => if front.isEmpty then name else front.reverse

/-- A path with the extension of bytecode in place of its own. -/
def withExtension (path : String) : String :=
  let name := (splitOn '/' path.toList).getLastD []
  if name = ['.', '.'] then path
  else
    let parent := path.toList.take (path.length - name.length)
    String.ofList (parent ++ stem name ++ '.' :: extension.toList)

/-! ## Commands -/

/-- What a command does after it has read its file. -/
inductive Action where
  | report (r : Report)
  /-- Writes a file; fails with this context. -/
  | write (path : String) (bytes : List UInt8)
deriving DecidableEq, Repr

def Command.input : Command → String
  | .check path => path
  | .compile path _ => path
  | .dis path => path

/-- The text of a layout file. -/
def layoutText (bytes : Except IoError (List UInt8)) : Except IoError String :=
  match bytes with
  | .error e => .error e
  | .ok bytes => (Utf8.decode? bytes).mapError fun _ => .invalidText

def readFailure (path : String) (e : IoError) : Action :=
  .report (failure s!"Could not read {path}" [e.message])

/-- What a command does, given the contents of its input. -/
def Command.act (c : Command) (bytes : Except IoError (List UInt8)) : Action :=
  match c with
  | .check path =>
    match layoutText bytes with
    | .error e => readFailure path e
    | .ok source => .report (Cli.check path source)
  | .compile path output =>
    match layoutText bytes with
    | .error e => readFailure path e
    | .ok source =>
      match compileSource source with
      | .error e => .report (failure s!"Could not compile {path}" [e.message])
      | .ok code => .write (output.getD (withExtension path)) code
  | .dis path =>
    match bytes with
    | .error e => readFailure path e
    | .ok bytes =>
      match Program.load bytes with
      | .error e => .report (failure s!"Could not load {path}" (loadCauses e))
      | .ok p => .report { code := 0, out := p.render ++ "\n" }

/-- The report on a file that was to be written. -/
def writeReport (path : String) : Option IoError → Report
  | none => { code := 0 }
  | some e => failure s!"Could not write {path}" [e.message]

section Execute

variable {m : Type → Type} [Monad m]

def Command.execute (files : Access m) (c : Command) : m Report := do
  match c.act (← files.read c.input) with
  | .report r => return r
  | .write path bytes => return writeReport path (← files.write path bytes)

/-- The report on a command line that asks for no command. The texts that explain how to use the
program are left out. -/
def Stop.report : Stop → Report
  | .help => { code := 0 }
  | .version => { code := 0, out := "vivid 0.1.0\n" }
  | .usage => { code := 2 }

/-- Executes a command line. -/
def execute (files : Access m) (args : List String) : m Report :=
  match read args with
  | .error stop => return stop.report
  | .ok i => i.command.execute files

end Execute

/-- What a command line comes to in a directory. -/
def run (args : List String) (d : Directory) (s : System := {}) : Report × Directory :=
  (execute s.access args).run d

end Extraction.Cli
