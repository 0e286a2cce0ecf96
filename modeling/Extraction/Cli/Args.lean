/-! # The command line

What is asked for on the command line. Options may stand in front of a command and behind it, up
to `--`, and every option at most once on either side.
-/

namespace Extraction.Cli

inductive Command where
  /-- Shows a layout with its defects. -/
  | check (layout : String)
  /-- Compiles a layout, by default into a file beside it. -/
  | compile (layout : String) (output : Option String)
  /-- Turns bytecode back into a layout. -/
  | dis (bytecode : String)
deriving DecidableEq, Repr

/-- Why no command is executed. -/
inductive Stop where
  | help
  | version
  | usage
deriving DecidableEq, Repr

structure Invocation where
  command : Command
  verbose : Bool
deriving DecidableEq, Repr

/-- Where options stand: in front of the command, or behind one that may have an output or not. -/
inductive Level where
  | top
  | plain
  | output
deriving DecidableEq, Repr

structure Options where
  verbose : Bool := false
  output : Option String := none
  path : Option String := none
deriving DecidableEq, Repr

namespace Options

def setVerbose (o : Options) : Except Stop Options :=
  if o.verbose then .error .usage else .ok { o with verbose := true }

def setOutput (o : Options) (value : String) : Except Stop Options :=
  if value.isEmpty || o.output.isSome then .error .usage else .ok { o with output := some value }

def setPath (o : Options) (value : String) : Except Stop Options :=
  if value.isEmpty || o.path.isSome then .error .usage else .ok { o with path := some value }

/-- Reads letters behind one dash. The result is none if the output is the next argument. -/
def letters (level : Level) (o : Options) : List Char → Except Stop (Options × Bool)
  | [] => .ok (o, false)
  | 'v' :: cs => do letters level (← o.setVerbose) cs
  | 'h' :: _ => .error .help
  | 'V' :: _ => .error (if level = .top then .version else .usage)
  | 'o' :: cs =>
    if level = .output then
      match cs with
      | [] => .ok (o, true)
      | '=' :: cs => do return (← o.setOutput (String.ofList cs), false)
      | cs => do return (← o.setOutput (String.ofList cs), false)
    else .error .usage
  | _ => .error .usage

/-- Reads a word behind two dashes. -/
def word (level : Level) (o : Options) (cs : List Char) : Except Stop (Options × Bool) :=
  let value := cs.dropWhile (· ≠ '=')
  match String.ofList (cs.takeWhile (· ≠ '=')), value with
  | "verbose", [] => do return (← o.setVerbose, false)
  | "help", [] => .error .help
  | "version", [] => .error (if level = .top then .version else .usage)
  | "output", [] => if level = .output then .ok (o, true) else .error .usage
  | "output", _ :: value =>
    if level = .output then do return (← o.setOutput (String.ofList value), false)
    else .error .usage
  | _, _ => .error .usage

/-- Reads an argument that is an option. A lone dash is none. -/
def read? (level : Level) (o : Options) (arg : String) :
    Option (Except Stop (Options × Bool)) :=
  match arg.toList with
  | '-' :: '-' :: cs => some (o.word level cs)
  | '-' :: c :: cs => some (o.letters level (c :: cs))
  | _ => none

end Options

/-- Whether an argument can be the value of an option. -/
def isValue (arg : String) : Bool :=
  match arg.toList with
  | '-' :: _ :: _ => false
  | _ => true

/-- Reads what is behind a command. -/
def readOptions (level : Level) (o : Options) : List String → Except Stop Options
  | [] => .ok o
  | arg :: args =>
    if arg = "--" then args.foldlM Options.setPath o
    else
      match o.read? level arg with
      | none => do readOptions level (← o.setPath arg) args
      | some (.error stop) => .error stop
      | some (.ok (o, false)) => readOptions level o args
      | some (.ok (o, true)) =>
        match args with
        | [] => .error .usage
        | value :: args =>
          if isValue value then do readOptions level (← o.setOutput value) args
          else .error .usage

/-- The command that a name and the options behind it stand for. -/
def command (name : String) (args : List String) : Except Stop Invocation := do
  let level ←
    match name with
    | "check" | "dis" => pure Level.plain
    | "compile" => pure Level.output
    | _ => throw Stop.usage
  let o ← readOptions level {} args
  match o.path with
  | none => throw .usage
  | some path =>
    let command :=
      match name with
      | "check" => Command.check path
      | "compile" => .compile path o.output
      | _ => .dis path
    return { command, verbose := o.verbose }

/-- Reads the name of a command that help is wanted for. -/
def helpFor (args : List String) : Stop :=
  match args with
  | [] => .help
  | [name] => if name ∈ ["check", "compile", "dis", "help"] then .help else .usage
  | _ => .usage

/-- Reads a whole command line. -/
def readFrom (o : Options) : List String → Except Stop Invocation
  | [] => .error .usage
  | arg :: args =>
    match o.read? .top arg with
    | some (.error stop) => .error stop
    | some (.ok (o, _)) => readFrom o args
    | none =>
      if arg = "help" then .error (helpFor args)
      else (command arg args).map fun i => { i with verbose := i.verbose || o.verbose }

def read (args : List String) : Except Stop Invocation := readFrom {} args

end Extraction.Cli
