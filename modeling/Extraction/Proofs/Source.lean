import Extraction.Layout.Compile
import Extraction.Proofs.Bytecode
import Extraction.Proofs.Line

/-!
# Compiling a source text

A text compiles to the encodings of the instructions that its statements ask for, one for each
statement, provided that the checks of a line let all of them through and the first is the header.
The checks keep every argument list within what the null framing can carry, but for nulls in an
argument.
-/

namespace Extraction.Layout

open Extraction.Text

/-! ## Statements -/

/-- The lines of a text that are neither blank nor comments. -/
def statements (source : String) : List String := (lines source).filter isStatement

/-- The arguments of a line. -/
def lineArgs (raw : String) : List String := (lineFields raw).tail

/-- The instruction that a line asks for, if its call is a directive. -/
def lineInstruction? (raw : String) : Option Instruction :=
  (Directive.ofToken? ((lineFields raw).headD "")).map fun d => ⟨d, lineArgs raw⟩

theorem raw_lineRecord (lineNr : Nat) (raw : String) : (lineRecord lineNr raw).raw = raw := by
  rw [lineRecord, LineRecord.ofFields]

theorem call_lineRecord (lineNr : Nat) (raw : String) :
    (lineRecord lineNr raw).call = (lineFields raw).headD "" := by
  rw [lineRecord, LineRecord.ofFields, lineFields]

theorem args_lineRecord (lineNr : Nat) (raw : String) :
    (lineRecord lineNr raw).args = lineArgs raw := by
  rw [lineRecord, LineRecord.ofFields, lineArgs, lineFields]

theorem problems_lineRecord (lineNr : Nat) (raw : String) : (lineRecord lineNr raw).problems =
    problemsOf ((lineFields raw).headD "") (lineArgs raw) := by
  rw [lineRecord, LineRecord.ofFields, lineArgs, lineFields]

theorem instruction?_lineRecord (lineNr : Nat) (raw : String) :
    (lineRecord lineNr raw).instruction? = lineInstruction? raw := by
  rw [LineRecord.instruction?, LineRecord.directive?, call_lineRecord, args_lineRecord,
    lineInstruction?]

theorem args_of_lineInstruction? {raw : String} {i : Instruction}
    (h : lineInstruction? raw = some i) : lineArgs raw = i.args := by
  obtain ⟨d, -, rfl⟩ := Option.map_eq_some_iff.1 h
  dsimp only

/-- The records of lines, the first of which has the number `lineNr`. -/
def recordsFrom (lineNr : Nat) (raws : List String) : List LineRecord :=
  (raws.zipIdx lineNr).filterMap fun l =>
    if isStatement l.1 then some (lineRecord l.2 l.1) else none

theorem recordsFrom_append (lineNr : Nat) (raws raws' : List String) :
    recordsFrom lineNr (raws ++ raws') =
      recordsFrom lineNr raws ++ recordsFrom (lineNr + raws.length) raws' := by
  rw [recordsFrom, List.zipIdx_append, List.filterMap_append, recordsFrom, recordsFrom]

theorem map_raw_recordsFrom (lineNr : Nat) (raws : List String) :
    (recordsFrom lineNr raws).map LineRecord.raw = raws.filter isStatement := by
  calc
    _ = (raws.zipIdx lineNr).filterMap (Option.guard isStatement ∘ Prod.fst) := by
      rw [recordsFrom, List.map_filterMap]
      refine List.filterMap_congr fun l _ => ?_
      by_cases h : isStatement l.1 <;> simp [h, Option.guard, lineRecord, LineRecord.ofFields]
    _ = raws.filter isStatement := by
      rw [← List.filterMap_map, List.zipIdx_map_fst, List.filterMap_eq_filter]

theorem eq_of_mem_recordsFrom {lineNr : Nat} {raws : List String} {r : LineRecord}
    (h : r ∈ recordsFrom lineNr raws) : r = lineRecord r.lineNr r.raw := by
  obtain ⟨⟨raw, n⟩, -, h⟩ := List.mem_filterMap.1 h
  obtain ⟨-, h⟩ := Option.ite_none_right_eq_some.1 h
  cases h
  rfl

/-- Reading a text gives the records of its lines, which are counted from 1. -/
theorem exists_parse_eq (source : String) : ∃ records, parse source = .ok records ∧
    records.filterMap id = recordsFrom 1 (lines source) :=
  ⟨_, parseLines_eq 1 (lines source), List.filterMap_map⟩

/-- Reading a text gives one record for each statement, in order. -/
theorem exists_parse (source : String) : ∃ records, parse source = .ok records ∧
    (records.filterMap id).map LineRecord.raw = statements source ∧
    ∀ r ∈ records.filterMap id, r = lineRecord r.lineNr r.raw := by
  obtain ⟨records, hp, hr⟩ := exists_parse_eq source
  refine ⟨records, hp, ?_⟩
  rw [hr]
  exact ⟨map_raw_recordsFrom 1 _, fun r => eq_of_mem_recordsFrom⟩

/-- So much is known of the records of a text, however they were come by. -/
theorem records_of_parse {source : String} {records : List (Option LineRecord)}
    (h : parse source = .ok records) :
    (records.filterMap id).map LineRecord.raw = statements source ∧
      ∀ r ∈ records.filterMap id, r = lineRecord r.lineNr r.raw := by
  obtain ⟨records', hp, hrecords⟩ := exists_parse source
  obtain rfl : records' = records := Except.ok.inj (hp.symm.trans h)
  exact hrecords

/-! ## Checks -/

/-- What the checks of a line let through. -/
structure Checked (i : Instruction) : Prop where
  args_ne_nil : i.args ≠ []
  args_ne_empty : ∀ a ∈ i.args, a ≠ ""

theorem checked_iff {d : Directive} {args : List String} :
    Checked ⟨d, args⟩ ↔ args ≠ [] ∧ ∀ a ∈ args, a ≠ "" :=
  ⟨fun h => ⟨h.args_ne_nil, h.args_ne_empty⟩, fun h => ⟨h.1, h.2⟩⟩

theorem problemsOf_eq_nil_iff {call : String} {args : List String} :
    problemsOf call args = [] ↔
      (∃ d, Directive.ofToken? call = some d) ∧ args ≠ [] ∧ ∀ a ∈ args, a ≠ "" := by
  rw [problemsOf, List.append_eq_nil_iff, ← Option.isSome_iff_exists]
  refine and_congr ?_ ?_
  · simp [Option.isSome_iff_ne_none]
  · cases args with
    | nil => simp
    | cons a args => simp [List.forall_mem_ne']

theorem compile_lineRecord_eq_ok_iff {lineNr : Nat} {raw : String} {i : Instruction} :
    (lineRecord lineNr raw).compile = .ok i ↔ lineInstruction? raw = some i ∧ Checked i := by
  have hok : (lineRecord lineNr raw).isOk ↔
      problemsOf ((lineFields raw).headD "") (lineArgs raw) = [] := by
    rw [LineRecord.isOk, problems_lineRecord, List.isEmpty_iff]
  rw [LineRecord.compile, instruction?_lineRecord]
  cases h : lineInstruction? raw with
  | none => simp
  | some j =>
      obtain ⟨d, hd, rfl⟩ := Option.map_eq_some_iff.1 h
      have hck : (lineRecord lineNr raw).isOk ↔ Checked ⟨d, lineArgs raw⟩ := by
        rw [hok, problemsOf_eq_nil_iff, checked_iff]
        exact and_iff_right ⟨d, hd⟩
      rw [Option.some.injEq]
      simp only
      split
      case isTrue hr =>
        rw [Except.ok.injEq]
        constructor
        · rintro rfl
          exact ⟨rfl, hck.1 hr⟩
        · exact And.left
      case isFalse hr =>
        refine iff_of_false (by simp) ?_
        rintro ⟨rfl, h⟩
        exact hr (hck.2 h)

theorem compileRecords_cons_eq_ok_iff {r : LineRecord} {rs : List LineRecord}
    {bytes : List UInt8} :
    compileRecords (r :: rs) = .ok bytes ↔ ∃ i bytes', r.compile = .ok i ∧
      compileRecords rs = .ok bytes' ∧ i.encode ++ bytes' = bytes := by
  rw [compileRecords]
  cases r.compile with
  | error e => simp
  | ok i => simp [map_eq_ok_iff]

theorem compileRecords_eq_ok_iff {rs : List LineRecord} {bytes : List UInt8}
    (h : ∀ r ∈ rs, r = lineRecord r.lineNr r.raw) :
    compileRecords rs = .ok bytes ↔ ∃ is : List Instruction,
      (rs.map LineRecord.raw).map lineInstruction? = is.map some ∧ (∀ i ∈ is, Checked i) ∧
        bytes = is.flatMap Instruction.encode := by
  induction rs generalizing bytes with
  | nil =>
      rw [compileRecords, Except.ok.injEq]
      constructor
      · rintro rfl
        exact ⟨[], rfl, nofun, rfl⟩
      · rintro ⟨is, his, -, rfl⟩
        rw [List.map_eq_nil_iff.1 his.symm]
        rfl
  | cons r rs ih =>
      rw [List.forall_mem_cons] at h
      rw [compileRecords_cons_eq_ok_iff, h.1, List.map_cons, List.map_cons, raw_lineRecord]
      constructor
      · rintro ⟨i, bytes', hi, hrs, rfl⟩
        rw [compile_lineRecord_eq_ok_iff] at hi
        obtain ⟨is, his, hck, rfl⟩ := (ih h.2).1 hrs
        refine ⟨i :: is, ?_, List.forall_mem_cons.2 ⟨hi.2, hck⟩, rfl⟩
        rw [hi.1, his, List.map_cons]
      · rintro ⟨is, his, hck, rfl⟩
        obtain ⟨i, is, rfl, hi, his⟩ := List.map_eq_cons_iff.1 his.symm
        rw [List.forall_mem_cons] at hck
        exact ⟨i, _, compile_lineRecord_eq_ok_iff.2 ⟨hi.symm, hck.1⟩,
          (ih h.2).2 ⟨is, his.symm, hck.2, rfl⟩, rfl⟩

/-- The first byte of a sequence of instructions tells whether a header is in front. -/
theorem head?_flatMap_encode_iff {is : List Instruction} :
    (is.flatMap Instruction.encode).head? = some Directive.layout.opcode ↔
      ∃ i ∈ is.head?, i.directive = .layout := by
  cases is with
  | nil => simp
  | cons i is =>
      have ho : i.opcode = Directive.layout.opcode ↔ i.directive = .layout :=
        ⟨Directive.opcode_injective, congrArg Directive.opcode⟩
      simp [Instruction.encode, ho]

/-- When a text compiles, and to which bytes. -/
theorem compileSource_eq_ok_iff {source : String} {bytes : List UInt8} :
    compileSource source = .ok bytes ↔ ∃ is : List Instruction,
      (statements source).map lineInstruction? = is.map some ∧ (∀ i ∈ is, Checked i) ∧
        (∃ i ∈ is.head?, i.directive = .layout) ∧ bytes = is.flatMap Instruction.encode := by
  obtain ⟨records, hp, hraw, hrec⟩ := exists_parse source
  rw [compileSource, hp, ← hraw]
  simp only [compile]
  constructor
  · intro hc
    cases hr : compileRecords (records.filterMap id) with
    | error e =>
        rw [hr] at hc
        cases hc
    | ok bytes' =>
        rw [hr] at hc
        simp only at hc
        split at hc
        case isTrue hl =>
          cases hc
          obtain ⟨is, his, hck, rfl⟩ := (compileRecords_eq_ok_iff hrec).1 hr
          exact ⟨is, his, hck, head?_flatMap_encode_iff.1 hl, rfl⟩
        case isFalse => cases hc
  · rintro ⟨is, his, hck, hl, rfl⟩
    rw [(compileRecords_eq_ok_iff hrec).2 ⟨is, his, hck, rfl⟩]
    exact if_pos (head?_flatMap_encode_iff.2 hl)

/-! ## Loading what was compiled -/

theorem Checked.framed {i : Instruction} (h : Checked i)
    (hnull : ∀ a ∈ i.args, '\x00' ∉ a.toList) : Framed i.args := by
  refine ⟨h.args_ne_nil, hnull, fun a ha => h.args_ne_empty a (List.mem_of_mem_tail ha), ?_⟩
  intro hh
  exact absurd rfl (h.args_ne_empty "" (List.mem_of_mem_head? hh))

theorem map_lineArgs {ls : List String} {is : List Instruction}
    (h : ls.map lineInstruction? = is.map some) : ls.map lineArgs = is.map Instruction.args := by
  induction ls generalizing is with
  | nil =>
      rw [List.map_eq_nil_iff.1 h.symm]
      rfl
  | cons l ls ih =>
      obtain ⟨i, is, rfl, hi, his⟩ := List.map_eq_cons_iff.1 h.symm
      rw [List.map_cons, List.map_cons, args_of_lineInstruction? hi.symm, ih his.symm]

/-- The records of a text have the arguments of its instructions. -/
theorem exists_parse_null_free_iff {source : String} {is : List Instruction}
    (h : (statements source).map lineInstruction? = is.map some) :
    (∃ records, parse source = .ok records ∧
        ∀ r ∈ records.filterMap id, ∀ a ∈ r.args, '\x00' ∉ a.toList) ↔
      ∀ i ∈ is, ∀ a ∈ i.args, '\x00' ∉ a.toList := by
  obtain ⟨records, hp, hraw, hrec⟩ := exists_parse source
  have hargs : (records.filterMap id).map LineRecord.args = is.map Instruction.args := by
    calc
      _ = ((records.filterMap id).map LineRecord.raw).map lineArgs := by
        rw [List.map_map]
        refine List.map_congr_left fun r hr => ?_
        rw [Function.comp_apply, ← args_lineRecord r.lineNr, ← hrec r hr]
      _ = is.map Instruction.args := by rw [hraw, map_lineArgs h]
  rw [hp]
  constructor
  · rintro ⟨records', hr, hnull⟩ i hi
    obtain rfl := Except.ok.inj hr
    have hmem : i.args ∈ (records.filterMap id).map LineRecord.args := by
      rw [hargs]
      exact List.mem_map_of_mem hi
    obtain ⟨r, hr, hri⟩ := List.mem_map.1 hmem
    rw [← hri]
    exact hnull r hr
  · intro hnull
    refine ⟨records, rfl, fun r hr => ?_⟩
    have hmem : r.args ∈ is.map Instruction.args := by
      rw [← hargs]
      exact List.mem_map_of_mem hr
    obtain ⟨i, hi, hir⟩ := List.mem_map.1 hmem
    rw [← hir]
    exact hnull i hi

/-- A compiled text is loaded as the program of its statements exactly if no argument holds a
null, provided that signature and version can be read. -/
theorem load_compileSource_iff {source : String} {bytes : List UInt8}
    (h : compileSource source = .ok bytes) (hs : Program.signature <+: bytes)
    (hv : ∃ v, Program.readVersion bytes = .ok v) :
    (∃ p, Program.load bytes = .ok p ∧ (statements source).head?.map lineArgs = some p.layout ∧
        (statements source).tail.map lineInstruction? = p.instructions.map some) ↔
      ∃ records, parse source = .ok records ∧
        ∀ r ∈ records.filterMap id, ∀ a ∈ r.args, '\x00' ∉ a.toList := by
  obtain ⟨is, his, hck, ⟨i, hi, hd⟩, rfl⟩ := compileSource_eq_ok_iff.1 h
  obtain ⟨v, hv⟩ := hv
  obtain ⟨is, rfl⟩ := List.head?_eq_some_iff.1 hi
  obtain ⟨directive, args⟩ := i
  obtain rfl : directive = .layout := hd
  rw [exists_parse_null_free_iff his]
  obtain ⟨l, ls, hst, hl, hls⟩ := List.map_eq_cons_iff.1 his
  have hlayout : lineArgs l = args := args_of_lineInstruction? hl
  rw [hst, List.head?_cons, List.tail_cons, Option.map_some, hls, hlayout]
  constructor
  · rintro ⟨p, hp, hpl, hpi⟩
    have hload := (Program.load_eq_ok_iff.1 hp).1
    obtain rfl : args = p.layout := Option.some.inj hpl
    obtain rfl : is = p.instructions := (List.map_inj_right fun _ _ => Option.some.inj).1 hpi
    exact List.forall_mem_cons.2
      ⟨hload.layout.no_null, fun i hi => (hload.instructions i hi).no_null⟩
  · intro hnull
    refine ⟨⟨v, args, is⟩, Program.load_eq_ok_iff_decodeAll.2 ⟨hs, hv, ?_⟩, rfl, rfl⟩
    exact Program.decodeAll_of_encode 0 (k := 0) (fun i hi => (hck i hi).framed (hnull i hi))
      (by decide) (List.append_nil _)

/-- A text with a comment, a blank line, two kinds of line breaks and a run of tabs. -/
theorem load_compileSource_greeting :
    let source := "# greeting\r\n\nlayout\tvivid\t1.0\n  glue\t\t a b \t\n"
    let bytes := [8, 118, 105, 118, 105, 100, 0, 49, 46, 48, 0, 0, 4, 97, 32, 98, 0, 0]
    compileSource source = .ok bytes ∧ Program.signature <+: bytes ∧
      (∃ v, Program.readVersion bytes = .ok v) ∧
      ∃ p, Program.load bytes = .ok p ∧ (statements source).head?.map lineArgs = some p.layout ∧
        (statements source).tail.map lineInstruction? = p.instructions.map some := by
  intro source bytes
  have h : compileSource source = .ok bytes := by decide +kernel
  have hs : Program.signature <+: bytes := by decide
  have hv : ∃ v, Program.readVersion bytes = .ok v := ⟨1.0, by decide +kernel⟩
  have hst : (statements source).map lineInstruction? =
      [⟨.layout, ["vivid", "1.0"]⟩, ⟨.glue, ["a b"]⟩].map some := by decide +kernel
  have hnull := (exists_parse_null_free_iff hst).2 (by decide +kernel)
  exact ⟨h, hs, hv, (load_compileSource_iff h hs hv).2 hnull⟩

end Extraction.Layout
