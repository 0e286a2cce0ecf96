import Extraction.Machine.Handler
import Extraction.Program

/-! # The machine that executes programs

A machine takes one step at a time. Once it has run out of instructions or has failed, it is done
and changes no more. A run can be watched as a sequence of stacks, or taken as a whole.
-/

namespace Extraction

variable {ν : Type}

/-- A runtime error with the instruction that caused it. -/
structure Fault where
  index : Nat
  directive : Directive
  source : RuntimeError
deriving DecidableEq, Repr

def Fault.message (f : Fault) : String :=
  s!"Runtime error in instruction {f.index} ({f.directive.token}): {f.source.message}"

inductive StepResult where
  /-- An instruction was executed; this is the stack behind it. -/
  | ok (stack : Stack)
  /-- There is no instruction left, or the run failed before. -/
  | done
  | fault (fault : Fault)
deriving DecidableEq, Repr

structure Machine (ν : Type) where
  instructions : List Instruction
  /-- The index of the next instruction. -/
  pc : Nat := 0
  stack : Stack := .empty
  env : Env ν := {}
  halted : Bool := false
deriving Repr

namespace Machine

/-- A machine in front of the first instruction. -/
def ofProgram (p : Program) (context : Context) : Machine ν :=
  { instructions := p.instructions, env := .ofContext context }

/-- The instruction that the next step executes. -/
def current? (m : Machine ν) : Option Instruction :=
  if m.halted then none else m.instructions[m.pc]?

def isDone (m : Machine ν) : Bool := m.current?.isNone

/-- Executes an instruction. -/
def execute (doc : Document ν) (m : Machine ν) (i : Instruction) : Machine ν × StepResult :=
  match i.directive.execute doc m.env m.stack i.args with
  | (env, .ok stack) => ({ m with env, stack, pc := m.pc + 1 }, .ok stack)
  | (env, .error source) => ({ m with env, halted := true }, .fault ⟨m.pc, i.directive, source⟩)

/-- Executes the current instruction, if there is one. -/
def step (doc : Document ν) (m : Machine ν) : Machine ν × StepResult :=
  match m.current? with
  | some i => m.execute doc i
  | none => ({ m with halted := true }, .done)

/-- What a step gives to those who watch a run. -/
def StepResult.item? : StepResult → Option (Except Fault Stack)
  | .ok stack => some (.ok stack)
  | .done => none
  | .fault f => some (.error f)

/-- The next stack or fault of a run, until it ends. -/
def next (doc : Document ν) (m : Machine ν) : Machine ν × Option (Except Fault Stack) :=
  let (m, r) := m.step doc
  (m, StepResult.item? r)

/-- The number of steps that are surely enough to end a run. -/
def stepsLeft (m : Machine ν) : Nat := m.instructions.length - m.pc + 1

/-- The items of at most so many steps. -/
def collectFor (doc : Document ν) : Nat → Machine ν → Machine ν × List (Except Fault Stack)
  | 0, m => (m, [])
  | n + 1, m =>
    match m.next doc with
    | (m, none) => (m, [])
    | (m, some item) =>
      let (m, items) := collectFor doc n m
      (m, item :: items)

/-- All stacks of a run, with the fault at the end if there is one. -/
def collect (doc : Document ν) (m : Machine ν) : Machine ν × List (Except Fault Stack) :=
  collectFor doc m.stepsLeft m

/-- Steps at most so many times, to the end of the run or the first fault. -/
def runFor (doc : Document ν) : Nat → Machine ν → Machine ν × Except Fault Stack
  | 0, m => (m, .ok m.stack)
  | n + 1, m =>
    match m.step doc with
    | (m, .ok _) => runFor doc n m
    | (m, .done) => (m, .ok m.stack)
    | (m, .fault f) => (m, .error f)

/-- Runs to the end, and gives the final stack or the fault. -/
def run (doc : Document ν) (m : Machine ν) : Machine ν × Except Fault Stack :=
  runFor doc m.stepsLeft m

end Machine

end Extraction
