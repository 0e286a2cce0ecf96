import Extraction.Proofs.Numbering
import Extraction.Proofs.Spelling

/-!
# What a line is read as

The entry of a line is the record of its spelling, unless the line is blank or a comment.  So the
call, the arguments and all that is wrong with a line can be told from its one spelling, and so can
which fields are blank: never the first or the last, as white space there belongs to no field.
-/

namespace Extraction.Layout

open Extraction.Text

namespace Spelling

variable {sp : Spelling}

/-! ## The record of a spelling -/

def problems (sp : Spelling) : List Problem :=
  (if trim sp.call ∈ Directive.all.map Directive.token then [] else [.unsupportedDirective]) ++
    (if sp.args = [] then [.noArguments]
     else if ∃ f ∈ sp.fields, AllBlank f then [.emptyArgument]
     else [])

/-- What a line is read as that is spelled this way. -/
def record (lineNr : Nat) (sp : Spelling) : LineRecord :=
  ⟨lineNr, sp.text, trim sp.call, sp.args.map fun p => trim p.2, sp.problems⟩

theorem Proper.not_allBlank_text (h : sp.Proper) : ¬ AllBlank sp.text := by
  intro hblank
  have hnil := trimChars_eq_nil_iff.2 hblank
  rw [h.trimChars_text] at hnil
  exact h.core_ne_nil hnil

theorem Proper.lineFields_text (h : sp.Proper) : lineFields sp.text = sp.fields.map trim := by
  obtain ⟨sp', h', ht, hfields⟩ := exists_proper h.not_allBlank_text
  obtain rfl := h'.unique h ht
  rw [lineFields, hfields]

theorem Proper.not_allBlank_call (h : sp.Proper) : ¬ AllBlank sp.call := by
  intro hblank
  obtain ⟨c, cs, hc⟩ := List.exists_cons_of_ne_nil (h.fields _ List.mem_cons_self).toList_ne_nil
  have hhead := h.head c (by rw [hc]; rfl)
  rw [hblank c (by rw [hc]; exact List.mem_cons_self)] at hhead
  cases hhead

theorem Proper.not_allBlank_last (h : sp.Proper) : ∀ f ∈ sp.fields.getLast?, ¬ AllBlank f := by
  intro f hf hblank
  have hne := (h.fields f (List.mem_of_mem_getLast? hf)).toList_ne_nil
  have hlast := h.last f hf _ (List.getLast?_eq_some_getLast hne)
  rw [hblank _ (List.getLast_mem hne)] at hlast
  cases hlast

/-- Only a field between two others can be blank. -/
theorem Proper.inner_of_allBlank (h : sp.Proper) {j : Nat} {f : String}
    (hf : sp.fields[j]? = some f) (hblank : AllBlank f) : 0 < j ∧ j < sp.args.length := by
  have hlength : sp.fields.length = sp.args.length + 1 := by
    rw [Spelling.fields, List.length_cons, List.length_map]
  have hj : j < sp.fields.length := (List.getElem?_eq_some_iff.1 hf).1
  have hfirst : j ≠ 0 := by
    rintro rfl
    obtain rfl : sp.call = f := Option.some.inj hf
    exact h.not_allBlank_call hblank
  have hlast : j ≠ sp.args.length := by
    rintro rfl
    refine h.not_allBlank_last f ?_ hblank
    rw [List.getLast?_eq_getElem?, hlength]
    exact hf
  omega

theorem Proper.problemsOf_eq (h : sp.Proper) :
    problemsOf (trim sp.call) (sp.args.map fun p => trim p.2) = sp.problems := by
  have hempty : (sp.args.map fun p => trim p.2).any String.isEmpty ↔
      ∃ f ∈ sp.fields, AllBlank f := by
    have hargs : (sp.args.map fun p => trim p.2) = (sp.args.map Prod.snd).map trim := by
      rw [List.map_map]
      rfl
    rw [hargs, List.any_map, List.any_eq_true, Spelling.fields, List.exists_mem_cons_iff]
    simp only [Function.comp_apply, String.isEmpty_iff, trim_eq_empty_iff, h.not_allBlank_call,
      false_or]
  rw [problemsOf, problems]
  simp only [ofToken?_isNone_iff, ite_not, hempty, List.isEmpty_map, List.isEmpty_iff]

theorem Proper.lineRecord_text (h : sp.Proper) (lineNr : Nat) :
    lineRecord lineNr sp.text = sp.record lineNr := by
  have hcall : lineCall sp.text = trim sp.call := by
    rw [lineCall, h.lineFields_text, Spelling.fields, List.map_cons, List.headD_cons]
  have hargs : lineArgs sp.text = sp.args.map fun p => trim p.2 := by
    rw [lineArgs, h.lineFields_text, Spelling.fields, List.map_cons, List.tail_cons, List.map_map]
    rfl
  rw [lineRecord_eq, ← problemsOf_eq_defects, hcall, hargs, h.problemsOf_eq, record]

end Spelling

/-! ## Entries -/

theorem lineEntry_eq_none_iff {lineNr : Nat} {raw : String} :
    lineEntry lineNr raw = none ↔ trim raw = "" ∨ (trim raw).toList.head? = some '#' := by
  rw [lineEntry, ← String.toList_eq_nil_iff, toList_trim, isStatement]
  cases h : trimChars raw.toList with
  | nil => simp
  | cons c cs => simp

/-- What is to be said of a line that is read as `entry`. -/
structure Reads (lineNr : Nat) (raw : String) (entry : Option LineRecord) : Prop where
  eq_none_iff : entry = none ↔ trim raw = "" ∨ (trim raw).toList.head? = some '#'
  existsUnique_spelling : trim raw ≠ "" → ∃! sp : Spelling, sp.Proper ∧ sp.text = raw
  eq_record : ∀ r ∈ entry, ∀ sp : Spelling, sp.Proper → sp.text = raw → r = sp.record lineNr
  inner : ∀ sp : Spelling, sp.Proper → sp.text = raw →
    ∀ j f, sp.fields[j]? = some f → AllBlank f → 0 < j ∧ j < sp.args.length

theorem reads_lineEntry (lineNr : Nat) (raw : String) :
    Reads lineNr raw (lineEntry lineNr raw) where
  eq_none_iff := lineEntry_eq_none_iff
  existsUnique_spelling := by
    intro hne
    obtain ⟨sp, hsp, ht, -⟩ := Spelling.exists_proper (mt trim_eq_empty_iff.2 hne)
    refine ⟨sp, ⟨hsp, ht⟩, ?_⟩
    rintro sp' ⟨hsp', ht'⟩
    exact hsp'.unique hsp (ht'.trans ht.symm)
  eq_record := by
    rintro r hr sp hsp rfl
    obtain ⟨-, hr⟩ := Option.ite_none_right_eq_some.1 hr
    rw [← hsp.lineRecord_text]
    exact (Option.some.inj hr).symm
  inner := by
    intro sp hsp _ j f hf hblank
    exact hsp.inner_of_allBlank hf hblank

/-- Reading a text gives one entry for each of its lines, in order. -/
theorem parse_reads :
    (∀ source, ∃ entries, parse source = .ok entries ∧
      entries.length = (lines source).length ∧
        ∀ i raw entry, (lines source)[i]? = some raw → entries[i]? = some entry →
          Reads (i + 1) raw entry) ∧
      ∀ lineNr raw, ∃ entry, parseLine lineNr raw = .ok entry ∧ Reads lineNr raw entry := by
  constructor
  · intro source
    refine ⟨_, parse_eq source, length_entriesFrom 1 _, ?_⟩
    intro i raw entry hraw hentry
    rw [entriesFrom, List.getElem?_map, List.getElem?_zipIdx, hraw] at hentry
    obtain rfl : lineEntry (1 + i) raw = entry := Option.some.inj hentry
    rw [Nat.add_comm 1 i]
    exact reads_lineEntry (i + 1) raw
  · intro lineNr raw
    exact ⟨_, parseLine_eq lineNr raw, reads_lineEntry lineNr raw⟩

/-- A line with white space of several kinds around it and a blank field, below a comment. -/
theorem parse_reads_blank_field :
    let raw := "\u3000fetch \t\t \tb\u00a0\t"
    let r : LineRecord := ⟨2, raw, "fetch", ["", "b"], [.unsupportedDirective, .emptyArgument]⟩
    (lines ("# a\r" ++ raw))[1]? = some raw ∧ parse ("# a\r" ++ raw) = .ok [none, some r] ∧
      Reads 2 raw (some r) := by
  intro raw r
  have hraw : (lines ("# a\r" ++ raw))[1]? = some raw := by decide +kernel
  have hp : parse ("# a\r" ++ raw) = .ok [none, some r] := by decide +kernel
  obtain ⟨entries, hentries, -, hreads⟩ := parse_reads.1 ("# a\r" ++ raw)
  obtain rfl : entries = [none, some r] := Except.ok.inj (hentries.symm.trans hp)
  exact ⟨hraw, hp, hreads 1 raw (some r) hraw rfl⟩

end Extraction.Layout
