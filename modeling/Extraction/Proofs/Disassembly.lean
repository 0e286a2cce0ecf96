import Extraction.Proofs.Source

/-!
# Compiling a disassembly

A program is written as a layout, one instruction a line, and compiled back.  The text and the
bytes frame an instruction in different ways, so that this gives the bytes of the program only if
every argument can stand between tabs as it is.  That no other program is read with the same bytes
is the unique reading of the null framing.
-/

namespace Extraction.Layout

open Extraction.Text

/-! ## Writing fields and lines -/

theorem writable_iff {s : String} : Writable s ↔ s ≠ "" ∧ trim s = s ∧ '\t' ∉ s.toList ∧
    '\n' ∉ s.toList ∧ '\r' ∉ s.toList :=
  ⟨fun ⟨h₁, h₂, h₃, h₄, h₅⟩ => ⟨h₁, h₂, h₃, h₄, h₅⟩,
    fun ⟨h₁, h₂, h₃, h₄, h₅⟩ => ⟨h₁, h₂, h₃, h₄, h₅⟩⟩

instance : DecidablePred Writable := fun _ => decidable_of_iff _ writable_iff.symm

theorem writable_token (d : Directive) : Writable d.token := by
  cases d <;> decide +kernel

theorem null_free_token (d : Directive) : '\x00' ∉ d.token.toList := by
  cases d <;> decide +kernel

theorem head?_token (d : Directive) : d.token.toList.head?.any fun c => c ≠ '#' := by
  cases d <;> decide +kernel

theorem mem_toList_intercalate {sep : String} {parts : List String} {c : Char}
    (h : c ∈ (String.intercalate sep parts).toList) :
    c ∈ sep.toList ∨ ∃ part ∈ parts, c ∈ part.toList := by
  rw [String.toList_intercalate] at h
  induction parts with
  | nil => cases h
  | cons part parts ih =>
      cases parts with
      | nil =>
          rw [List.map_singleton, List.intercalate_singleton] at h
          exact .inr ⟨part, List.mem_cons_self, h⟩
      | cons part' parts =>
          rw [List.map_cons, List.map_cons, List.intercalate_cons_cons, ← List.map_cons,
            List.mem_append, List.mem_append] at h
          rcases h with (h | h) | h
          · exact .inr ⟨part, List.mem_cons_self, h⟩
          · exact .inl h
          · exact (ih h).imp_right fun ⟨f, hf, hc⟩ => ⟨f, List.mem_cons_of_mem _ hf, hc⟩

/-- What stands between the tabs of an instruction that is written as a line. -/
def instructionFields (i : Instruction) : List String := i.directive.token :: i.args

theorem writable_fields {i : Instruction} (h : ∀ a ∈ i.args, Writable a) :
    ∀ f ∈ instructionFields i, Writable f :=
  List.forall_mem_cons.2 ⟨writable_token _, h⟩

theorem lineInstruction?_render {i : Instruction} (h : ∀ a ∈ i.args, Writable a) :
    lineInstruction? i.render = some i := by
  have hf : lineFields i.render = i.directive.token :: i.args :=
    lineFields_intercalate (List.cons_ne_nil _ _) (writable_fields h)
  rw [lineInstruction?, lineArgs, hf, List.headD_cons, Directive.ofToken?_token]
  rfl

theorem isStatement_render {i : Instruction} (h : ∀ a ∈ i.args, Writable a) :
    isStatement i.render := by
  have hr : Readable (instructionFields i) :=
    readable_of_writable (List.cons_ne_nil _ _) (writable_fields h)
  have ht := trimChars_eq_self_iff.2 hr.trimmed_intercalate
  have htab : "\t".toList = ['\t'] := rfl
  rw [isStatement, Instruction.render, String.toList_intercalate, htab, ← instructionFields, ht,
    instructionFields, List.map_cons, head?_intercalate (writable_token _).toList_ne_nil]
  exact head?_token i.directive

theorem no_break_render {i : Instruction} (h : ∀ a ∈ i.args, Writable a) :
    '\n' ∉ i.render.toList ∧ '\r' ∉ i.render.toList := by
  constructor
  · intro hc
    rcases mem_toList_intercalate hc with hc | ⟨f, hf, hc⟩
    · exact absurd hc (by decide)
    · exact (writable_fields h f hf).no_line_feed hc
  · intro hc
    rcases mem_toList_intercalate hc with hc | ⟨f, hf, hc⟩
    · exact absurd hc (by decide)
    · exact (writable_fields h f hf).no_return hc

/-- What may stand behind the last line without adding one that counts. -/
def endings : List String := ["", "\n", "\r\n", "\r"]

/-- Joined lines are read back, and a line break behind them adds none that counts. -/
theorem statements_intercalate {raws : List String} {ending : String} (hne : raws ≠ [])
    (h : ∀ raw ∈ raws, '\n' ∉ raw.toList ∧ '\r' ∉ raw.toList) (he : ending ∈ endings) :
    statements (String.intercalate "\n" raws ++ ending) = raws.filter isStatement := by
  obtain ⟨rest, hs, hrest⟩ : ∃ rest, splitLines ending.toList = [] :: rest ∧
      (rest.map String.ofList).filter isStatement = [] := by
    simp only [endings, List.mem_cons, List.not_mem_nil, or_false] at he
    rcases he with rfl | rfl | rfl | rfl
    · exact ⟨[], by decide +kernel, rfl⟩
    · exact ⟨[[]], by decide +kernel, by decide +kernel⟩
    · exact ⟨[[]], by decide +kernel, by decide +kernel⟩
    · exact ⟨[[]], by decide +kernel, by decide +kernel⟩
  have hfeed : "\n".toList = ['\n'] := rfl
  have hback : (raws.map String.toList).map String.ofList = raws := by simp
  rw [statements, lines, String.toList_append, String.toList_intercalate, hfeed,
    splitLines_intercalate (by simpa using hne) (by simpa using h) hs, List.map_append, hback,
    List.filter_append, hrest, List.append_nil]

theorem map_lineInstruction?_render {is : List Instruction} {ending : String} (hne : is ≠ [])
    (hw : ∀ i ∈ is, ∀ a ∈ i.args, Writable a) (he : ending ∈ endings) :
    (statements (String.intercalate "\n" (is.map Instruction.render) ++ ending)).map
      lineInstruction? = is.map some := by
  have hbreak : ∀ raw ∈ is.map Instruction.render, '\n' ∉ raw.toList ∧ '\r' ∉ raw.toList := by
    intro raw hr
    obtain ⟨i, hi, rfl⟩ := List.mem_map.1 hr
    exact no_break_render (hw i hi)
  have hst : (is.map Instruction.render).filter isStatement = is.map Instruction.render := by
    rw [List.filter_eq_self]
    intro raw hr
    obtain ⟨i, hi, rfl⟩ := List.mem_map.1 hr
    exact isStatement_render (hw i hi)
  rw [statements_intercalate (by simpa using hne) hbreak he, hst, List.map_map]
  refine List.map_congr_left fun i hi => ?_
  rw [Function.comp_apply, lineInstruction?_render (hw i hi)]

/-! ## Reading a disassembly -/

/-- What a line is read as can be written as a line, and holds nothing that is not in the text. -/
theorem writable_of_mem_statements {source raw : String} {i : Instruction}
    (hr : raw ∈ statements source) (h : lineInstruction? raw = some i) (hc : Checked i) :
    ∀ a ∈ i.args, Writable a ∧ a.toList ⊆ source.toList := by
  intro a ha
  have hne := hc.args_ne_empty a ha
  rw [← args_of_lineInstruction? h, lineArgs] at ha
  obtain ⟨htrim, htab, hsub⟩ := of_mem_lineFields (List.mem_of_mem_tail ha)
  obtain ⟨hfeed, hreturn, hline⟩ := of_mem_lines (List.mem_filter.1 hr).1
  exact ⟨⟨hne, htrim, htab, fun hm => hfeed (hsub hm), fun hm => hreturn (hsub hm)⟩,
    List.Subset.trans hsub hline⟩

theorem null_free_render {p : Program} (h : ∀ i ∈ p.header :: p.instructions, Framed i.args)
    {ending : String} (he : ending ∈ endings) : '\x00' ∉ (p.render ++ ending).toList := by
  intro hc
  rw [String.toList_append, List.mem_append] at hc
  rcases hc with hc | hc
  · rcases mem_toList_intercalate hc with hc | ⟨_, hi, hc⟩
    · exact absurd hc (by decide)
    · obtain ⟨i, hmem, rfl⟩ := List.mem_map.1 hi
      rcases mem_toList_intercalate hc with hc | ⟨f, hf, hc⟩
      · exact absurd hc (by decide)
      · rcases List.mem_cons.1 hf with rfl | hf
        · exact null_free_token _ hc
        · exact (h i hmem).no_null f hf hc
  · have hnull : ∀ s ∈ endings, '\x00' ∉ s.toList := by decide +kernel
    exact hnull ending he hc

/-- A disassembly compiles to the bytes of the program exactly if a line can hold each of its
arguments. -/
theorem compileSource_render_iff {bytes : List UInt8} {p : Program}
    (h : Program.load bytes = .ok p) {ending : String} (he : ending ∈ endings) :
    compileSource (p.render ++ ending) = .ok p.toBytes ↔
      ∀ i ∈ p.header :: p.instructions, ∀ a ∈ i.args, Writable a := by
  have hframed := (Program.loadable_iff.1 (Program.load_eq_ok_iff.1 h).1).1
  rw [compileSource_eq_ok_iff]
  constructor
  · rintro ⟨is, his, hck, -, hb⟩
    have hargs : ∀ i ∈ is, ∀ a ∈ i.args, Writable a ∧ a.toList ⊆ (p.render ++ ending).toList := by
      intro i hi
      have hmem : some i ∈ (statements (p.render ++ ending)).map lineInstruction? := by
        rw [his]
        exact List.mem_map_of_mem hi
      obtain ⟨raw, hr, hri⟩ := List.mem_map.1 hmem
      exact writable_of_mem_statements hr hri (hck i hi)
    have hnull : '\x00' ∉ (p.render ++ ending).toList := null_free_render hframed he
    have his : is = p.header :: p.instructions := by
      refine Program.flatMap_encode_inj (fun i hi => ?_) hframed hb.symm
      exact (hck i hi).framed fun a ha hz => hnull ((hargs i hi a ha).2 hz)
    rw [← his]
    exact fun i hi a ha => (hargs i hi a ha).1
  · intro hw
    refine ⟨p.header :: p.instructions, ?_, fun i hi => ?_, ?_, rfl⟩
    · exact map_lineInstruction?_render (List.cons_ne_nil _ _) hw he
    · exact ⟨(hframed i hi).ne_nil, fun a ha => (hw i hi a ha).ne_empty⟩
    · exact ⟨p.header, rfl, rfl⟩

/-- A program with opcodes that are a tab and a line feed, without the nulls at its end. -/
theorem compileSource_render_prompt_remove :
    let bytes :=
      [8, 118, 105, 118, 105, 100, 0, 49, 46, 48, 0, 0, 9, 97, 32, 98, 0, 0, 10, 195, 169]
    let p : Program := ⟨1.0, ["vivid", "1.0"], [⟨.prompt, ["a b"]⟩, ⟨.remove, ["é"]⟩]⟩
    Program.load bytes = .ok p ∧ "\n" ∈ endings ∧
      compileSource (p.render ++ "\n") = .ok p.toBytes := by
  intro bytes p
  have h : Program.load bytes = .ok p :=
    Program.load_eq_ok_iff_decodeAll.2 ⟨by decide, by decide +kernel, by decide +kernel⟩
  have he : "\n" ∈ endings := by decide
  have hw : ∀ i ∈ p.header :: p.instructions, ∀ a ∈ i.args, Writable a := by decide +kernel
  exact ⟨h, he, (compileSource_render_iff h he).2 hw⟩

end Extraction.Layout
