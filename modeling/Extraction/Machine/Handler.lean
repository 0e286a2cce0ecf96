import Extraction.Directive
import Extraction.Machine.QueryDirectives
import Extraction.Machine.TextDirectives

/-! # Executing a directive -/

namespace Extraction

variable {ν : Type}

namespace Env

/-- Appends the top frame to the repository, under a name. -/
def label (env : Env ν) (stack : Stack) (args : List String) : Outcome ν :=
  match arg args 0 with
  | .error e => (env, .error e)
  | .ok name => ({ env with context := env.context.append name stack.top }, .ok stack)

/-- Calls a command with the top frame and the arguments behind its name. Nothing happens if there
is no such command. -/
def prompt (env : Env ν) (stack : Stack) (args : List String) : Outcome ν :=
  match arg args 0 with
  | .error e => (env, .error e)
  | .ok name => ({ env with context := (env.context.call name stack.top args.tail).1 }, .ok stack)

end Env

/-- Executes a directive with its arguments. -/
def Directive.execute (doc : Document ν) (env : Env ν) (stack : Stack) (args : List String) :
    Directive → Outcome ν
  | .bundle => Env.bundle doc env stack args
  | .drop => changeTop (FrameChange.drop args) env stack
  | .extract => changeTop (FrameChange.extract args) env stack
  | .follow => Env.follow doc env stack args
  | .glue => changeTop (FrameChange.glue args) env stack
  | .insert => changeTop (FrameChange.insert args) env stack
  | .keep => changeTop (FrameChange.keep args) env stack
  | .label => Env.label env stack args
  | .layout => (env, .error .layoutAtRuntime)
  | .prompt => Env.prompt env stack args
  | .remove => changeTop (FrameChange.remove args) env stack
  | .replace => changeTop (FrameChange.replace args) env stack
  | .select => Env.select doc env stack args
  | .style => Env.style doc env stack args

end Extraction
