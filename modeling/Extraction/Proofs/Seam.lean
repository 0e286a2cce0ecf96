import Extraction.Proofs.Verdict

/-!
# Texts put together

Two texts that are joined by a line break have the lines of both, with one exception: a carriage
return at the end of the first and a line feed make up a single break, and so do a carriage return
and a line feed at the start of the second.  What is lost then is an empty line.  As an empty line
is no statement, a text that compiles can be continued by another one, whatever way they are joined.
-/

namespace Extraction.Layout

variable {a b s : String}

/-! ## Lines -/

theorem splitLines_carriage_return {cs : List Char} (h : cs.head? ≠ some '\n') :
    splitLines ('\r' :: cs) = [] :: splitLines cs := by
  rw [splitLines]
  rintro cs' rfl
  exact h rfl

theorem splitLines_break (cs : List Char) :
    splitLines ('\r' :: '\n' :: cs) = [] :: splitLines cs := by
  rw [splitLines]

theorem getLast?_ne_of_cons {c d : Char} {cs : List Char} (h : (c :: cs).getLast? ≠ some d) :
    cs.getLast? ≠ some d := by
  intro hd
  rw [List.getLast?_cons, hd] at h
  exact h rfl

/-- What starts with a line break ends the last line in front of it, unless that break is a line
feed and the other half of it is in front. -/
theorem splitLines_append_break {as ending : List Char} {rest : List (List Char)}
    (he : splitLines ending = [] :: rest)
    (hend : ending.head? = some '\n' → as.getLast? ≠ some '\r') :
    splitLines (as ++ ending) = splitLines as ++ rest := by
  fun_induction splitLines as with
  | case1 => exact he
  | case2 as ih =>
      have hrest := ih fun hh => getLast?_ne_of_cons (getLast?_ne_of_cons (hend hh))
      rw [List.cons_append, List.cons_append, splitLines_break, hrest]
      rfl
  | case3 as hn ih =>
      have hhead : (as ++ ending).head? ≠ some '\n' := by
        cases as with
        | nil => exact fun hh => hend hh rfl
        | cons c as =>
            rintro ⟨⟩
            exact hn as rfl
      rw [List.cons_append, splitLines_carriage_return hhead,
        ih fun hh => getLast?_ne_of_cons (hend hh)]
      rfl
  | case4 as ih =>
      rw [List.cons_append, splitLines_line_feed, ih fun hh => getLast?_ne_of_cons (hend hh)]
      rfl
  | case5 c as _ _ _ hs => exact absurd hs (splitLines_ne_nil as)
  | case6 c as _ hr hn first ls hs ih =>
      obtain ⟨l, ls', hl, hc⟩ := splitLines_cons hn hr (as ++ ending)
      rw [ih fun hh => getLast?_ne_of_cons (hend hh), hs] at hl
      obtain ⟨rfl, rfl⟩ := List.cons.inj hl
      exact hc

/-- The texts that end a line. -/
def lineBreaks : List String := ["\n", "\r\n", "\r"]

/-- A line break is one with the end of the text in front of it, or with the start of the one
behind. -/
def Fuses (a s b : String) : Prop :=
  s = "\n" ∧ a.toList.getLast? = some '\r' ∨ s = "\r" ∧ b.toList.head? = some '\n'

/-- Texts that are joined have the lines of both. -/
theorem lines_append_of_not_fuses (hs : s ∈ lineBreaks) (h : ¬ Fuses a s b) :
    lines (a ++ s ++ b) = lines a ++ lines b := by
  have hsplit (he : splitLines (s.toList ++ b.toList) = [] :: splitLines b.toList)
      (hend : (s.toList ++ b.toList).head? = some '\n' → a.toList.getLast? ≠ some '\r') :
      lines (a ++ s ++ b) = lines a ++ lines b := by
    rw [lines, String.toList_append, String.toList_append, List.append_assoc,
      splitLines_append_break he hend, List.map_append, lines, lines]
  rw [Fuses, not_or, not_and, not_and] at h
  simp only [lineBreaks, List.mem_cons, List.not_mem_nil, or_false] at hs
  rcases hs with rfl | rfl | rfl
  · exact hsplit (splitLines_line_feed _) fun _ => h.1 rfl
  · exact hsplit (splitLines_break _) nofun
  · exact hsplit (splitLines_carriage_return (h.2 rfl)) nofun

theorem lines_empty : lines "" = [""] := rfl

/-- If two breaks become one, the line between them is lost, which is empty. -/
theorem lines_append_of_fuses (h : Fuses a s b) : ∃ front behind : List String,
    lines a ++ lines b = front ++ "" :: behind ∧ lines (a ++ s ++ b) = front ++ behind := by
  obtain ⟨rfl, ha⟩ | ⟨rfl, hb⟩ := h
  · obtain ⟨cs, hcs⟩ := List.getLast?_eq_some_iff.1 ha
    obtain rfl : a = String.ofList cs ++ "\r" ++ "" := String.toList_inj.1 (by simp [hcs])
    have hjoin : String.ofList cs ++ "\r" ++ "" ++ "\n" ++ b = String.ofList cs ++ "\r\n" ++ b :=
      String.toList_inj.1 (by simp)
    refine ⟨lines (String.ofList cs), lines b, ?_, ?_⟩
    · rw [lines_append_of_not_fuses (by decide) (by simp [Fuses]), lines_empty, List.append_assoc]
      rfl
    · rw [hjoin, lines_append_of_not_fuses (by decide) (by simp [Fuses])]
  · obtain ⟨cs, hcs⟩ := List.head?_eq_some_iff.1 hb
    obtain rfl : b = "" ++ "\n" ++ String.ofList cs := String.toList_inj.1 (by simp [hcs])
    have hjoin : a ++ "\r" ++ ("" ++ "\n" ++ String.ofList cs) = a ++ "\r\n" ++ String.ofList cs :=
      String.toList_inj.1 (by simp)
    refine ⟨lines a, lines (String.ofList cs), ?_, ?_⟩
    · rw [lines_append_of_not_fuses (by decide) (by simp [Fuses]), lines_empty]
      rfl
    · rw [hjoin, lines_append_of_not_fuses (by decide) (by simp [Fuses])]

/-! ## Statements -/

/-- An empty line is no statement, so it does not matter whether breaks become one. -/
theorem statements_append_break (hs : s ∈ lineBreaks) (a b : String) :
    statements (a ++ s ++ b) = statements a ++ statements b := by
  have hempty : isStatement "" = false := by decide
  rw [statements, statements, statements, ← List.filter_append]
  by_cases h : Fuses a s b
  · obtain ⟨front, behind, hboth, hjoined⟩ := lines_append_of_fuses h
    rw [hboth, hjoined, List.filter_append, List.filter_append, List.filter_cons, hempty]
    rfl
  · rw [lines_append_of_not_fuses hs h]

variable {records : List (Option LineRecord)}

/-- Nothing is wrong with the statements of a text that has no invalid record. -/
theorem not_hasProblem_of_parse (hp : parse b = .ok records)
    (hvalid : invalidRecords records = []) :
    ∀ raw ∈ statements b, ∀ p, ¬ HasProblem raw p := by
  obtain ⟨hraw, hrec⟩ := records_of_parse hp
  rw [← hraw]
  intro raw hmem p hproblem
  obtain ⟨r, hr, rfl⟩ := List.mem_map.1 hmem
  have hok : r.isOk := by simpa using List.filter_eq_nil_iff.1 hvalid r hr
  rw [LineRecord.isOk, hrec r hr, problems_lineRecord_eq_defects, List.isEmpty_iff] at hok
  exact List.ne_nil_of_mem (mem_defects.2 hproblem) hok

theorem map_instruction?_of_parse (hp : parse b = .ok records) :
    (records.filterMap id).map LineRecord.instruction? = (statements b).map lineInstruction? := by
  obtain ⟨hraw, hrec⟩ := records_of_parse hp
  rw [← hraw, List.map_map]
  refine List.map_congr_left fun r hr => ?_
  rw [hrec r hr, instruction?_lineRecord, Function.comp_apply, raw_lineRecord]

/-! ## Compiling -/

/-- A text that compiles can be continued by any text without invalid records.  The bytes of these
records follow, and it does not matter what the line break between them is, nor what it becomes
together with the end of the one text and the start of the other. -/
theorem compileSource_append_break {x : List UInt8} (hs : s ∈ lineBreaks)
    (ha : compileSource a = .ok x) (hp : parse b = .ok records)
    (hvalid : invalidRecords records = []) :
    ∃ is : List Instruction,
      (records.filterMap id).map LineRecord.instruction? = is.map some ∧
        compileSource (a ++ s ++ b) = .ok (x ++ is.flatMap Instruction.encode) := by
  obtain ⟨front, hfront, hck, ⟨i, hi, hlayout⟩, rfl⟩ := compileSource_eq_ok_iff.1 ha
  obtain ⟨is, his, hck'⟩ := exists_instructions (not_hasProblem_of_parse hp hvalid)
  refine ⟨is, (map_instruction?_of_parse hp).trans his, ?_⟩
  refine compileSource_eq_ok_iff.2 ⟨front ++ is, ?_, ?_, ⟨i, ?_, hlayout⟩, ?_⟩
  · rw [statements_append_break hs, List.map_append, hfront, his, List.map_append]
  · exact List.forall_mem_append.2 ⟨hck, hck'⟩
  · exact List.mem_head?_append_of_mem_head? hi
  · rw [List.flatMap_append]

/-- With a carriage return in front and a line feed behind, either of them is taken up by a line
break between the two texts. -/
theorem compileSource_append_break_fused :
    let a := "layout\tvivid\t1.0\r"
    let b := "\n# b\rglue\ta"
    let x := [8, 118, 105, 118, 105, 100, 0, 49, 46, 48, 0, 0]
    compileSource a = .ok x ∧ (parse b).map invalidRecords = .ok [] ∧
      Fuses a "\n" b ∧ Fuses a "\r" b ∧
      ∀ s ∈ lineBreaks, compileSource (a ++ s ++ b) = .ok (x ++ [4, 97, 0, 0]) := by
  intro a b x
  have ha : compileSource a = .ok x := by decide +kernel
  have hp : parse b = .ok [none, none, some ⟨3, "glue\ta", "glue", ["a"], []⟩] := by decide +kernel
  have hfeed : Fuses a "\n" b := .inl ⟨rfl, by decide +kernel⟩
  have hreturn : Fuses a "\r" b := .inr ⟨rfl, by decide +kernel⟩
  refine ⟨ha, by rw [hp]; rfl, hfeed, hreturn, ?_⟩
  intro s hs
  obtain ⟨is, his, hc⟩ := compileSource_append_break hs ha hp rfl
  have hglue : [⟨.glue, ["a"]⟩] = is := (List.map_inj_right fun _ _ => Option.some.inj).1 his
  rw [hc, ← hglue]
  rfl

end Extraction.Layout
