import Extraction.Proofs.Source
import Mathlib.Data.List.Infix

/-!
# Nulls inside arguments

No check of a line keeps nulls out of its arguments, while in the bytes a null ends an argument and
two of them end an instruction.  Arguments whose nulls are `NullsApart` are merely split further,
so that every line is still loaded from the bytes that it was compiled to.  Any other null makes a
line end too soon, and what is left of it is read as an instruction that no line asks for.
-/

namespace Extraction

open Extraction.Text

/-! ## Nulls that stand apart -/

/-- No two nulls meet when every argument is followed by one. -/
@[mk_iff]
structure NullsApart (args : List String) : Prop where
  no_pair : ∀ a ∈ args, ¬ ['\x00', '\x00'] <:+: a.toList
  not_last : ∀ a ∈ args, a.toList.getLast? ≠ some '\x00'
  not_head : ∀ a ∈ args.tail, a.toList.head? ≠ some '\x00'

instance (args : List String) : Decidable (NullsApart args) :=
  decidable_of_iff' _ (nullsApart_iff args)

/-- No null follows a null. -/
def NoNullPair (cs : List Char) : Prop := cs.IsChain fun c d => c ≠ '\x00' ∨ d ≠ '\x00'

theorem noNullPair_iff {cs : List Char} : NoNullPair cs ↔ ¬ ['\x00', '\x00'] <:+: cs := by
  rw [NoNullPair, List.isChain_iff_forall_rel_of_append_cons_cons]
  constructor
  · rintro h ⟨front, behind, rfl⟩
    have hp := @h '\x00' '\x00' front behind (by simp)
    exact hp.elim (fun hn => hn rfl) fun hn => hn rfl
  · rintro h c d front behind rfl
    by_contra hn
    rw [not_or, not_not, not_not] at hn
    obtain ⟨rfl, rfl⟩ := hn
    exact h ⟨front, behind, by simp⟩

/-- A text with the null behind it, and what follows. -/
theorem noNullPair_append_null {cs ds : List Char} :
    NoNullPair (cs ++ '\x00' :: ds) ↔
      NoNullPair cs ∧ cs.getLast? ≠ some '\x00' ∧ ds.head? ≠ some '\x00' ∧ NoNullPair ds := by
  have hlast : (∀ c ∈ cs.getLast?, c ≠ '\x00') ↔ cs.getLast? ≠ some '\x00' :=
    ⟨fun h hc => h _ hc rfl, fun h c hc hn => h (hn ▸ hc)⟩
  have hhead : (∀ d ∈ ds.head?, d ≠ '\x00') ↔ ds.head? ≠ some '\x00' :=
    ⟨fun h hc => h _ hc rfl, fun h c hc hn => h (hn ▸ hc)⟩
  rw [NoNullPair, List.isChain_append, List.isChain_cons, ← hlast, ← hhead]
  simp only [List.head?_cons, Option.mem_some_iff, forall_eq', ne_eq, not_true_eq_false, or_false,
    false_or]
  exact ⟨fun ⟨hc, ⟨hh, hd⟩, hl⟩ => ⟨hc, hl, hh, hd⟩, fun ⟨hc, hl, hh, hd⟩ => ⟨hc, ⟨hh, hd⟩, hl⟩⟩

/-- The arguments one behind the other, each with a null. -/
def joinArgs (args : List String) : List Char := args.flatMap fun a => a.toList ++ ['\x00']

theorem joinArgs_cons (a : String) (args : List String) :
    joinArgs (a :: args) = a.toList ++ '\x00' :: joinArgs args := by
  rw [joinArgs, List.flatMap_cons, List.append_assoc]
  rfl

theorem head?_joinArgs {a : String} (h : a ≠ "") (args : List String) :
    (joinArgs (a :: args)).head? = a.toList.head? := by
  rw [joinArgs_cons, List.head?_append_of_ne_nil _ (mt String.toList_eq_nil_iff.1 h)]

theorem noNullPair_joinArgs_iff {args : List String} (h : ∀ a ∈ args, a ≠ "") :
    NoNullPair (joinArgs args) ↔ NullsApart args := by
  induction args with
  | nil => exact iff_of_true .nil ⟨nofun, nofun, nofun⟩
  | cons a args ih =>
      rw [List.forall_mem_cons] at h
      have hhead : (joinArgs args).head? ≠ some '\x00' ∧ NullsApart args ↔
          NullsApart args ∧ ∀ b ∈ args, b.toList.head? ≠ some '\x00' := by
        cases args with
        | nil => simp [joinArgs]
        | cons b args =>
            rw [head?_joinArgs (h.2 b List.mem_cons_self), List.forall_mem_cons]
            exact ⟨fun ⟨hb, hs⟩ => ⟨hs, hb, hs.not_head⟩, fun ⟨hs, hb, _⟩ => ⟨hb, hs⟩⟩
      rw [joinArgs_cons, noNullPair_append_null, ih h.2, hhead, noNullPair_iff]
      constructor
      · rintro ⟨hp, hl, hs, hh⟩
        exact ⟨List.forall_mem_cons.2 ⟨hp, hs.no_pair⟩,
          List.forall_mem_cons.2 ⟨hl, hs.not_last⟩, hh⟩
      · rintro ⟨hp, hl, hh⟩
        rw [List.forall_mem_cons] at hp hl
        exact ⟨hp.1, hl.1, ⟨hp.2, hl.2, fun b hb => hh b (List.mem_of_mem_tail hb)⟩, hh⟩

/-! ## The bytes of nulls -/

namespace Text.Utf8

theorem noTwoNulls_encodeChars {cs : List Char} : NoTwoNulls (encodeChars cs) ↔ NoNullPair cs := by
  induction cs with
  | nil => exact iff_of_true .nil .nil
  | cons c cs ih =>
      rw [encodeChars_cons, NoNullPair, List.isChain_cons, ← NoNullPair, ← ih]
      by_cases hc : c = '\x00'
      · rw [hc, encodeChar_null, List.singleton_append, noTwoNulls_cons, ne_eq, ne_eq,
          head?_encodeChars]
        refine and_congr_left fun _ => ?_
        exact ⟨fun h d hd => .inr fun hz => h rfl (hz ▸ hd), fun h _ hz =>
          (h _ hz).elim (fun hn => hn rfl) fun hn => hn rfl⟩
      · rw [noTwoNulls_append (mt zero_mem_encodeChar.1 hc)]
        exact (and_iff_right fun d _ => .inl hc).symm

end Text.Utf8

namespace Instruction

theorem encodeArgs_eq_encodeChars (args : List String) :
    encodeArgs args = Utf8.encodeChars (joinArgs args) := by
  rw [encodeArgs, joinArgs, Utf8.encodeChars, List.flatMap_assoc]
  refine List.flatMap_congr fun a _ => ?_
  rw [List.flatMap_append, List.flatMap_singleton, Utf8.encodeChar_null]
  rfl

theorem noTwoNulls_encodeArgs {args : List String} (h : ∀ a ∈ args, a ≠ "") :
    NoTwoNulls (encodeArgs args) ↔ NullsApart args := by
  rw [encodeArgs_eq_encodeChars, Utf8.noTwoNulls_encodeChars, noNullPair_joinArgs_iff h]

end Instruction

/-! ## Splitting at nulls -/

theorem Text.flatMap_splitOn {α : Type} [DecidableEq α] (sep : α) (as : List α) :
    ((splitOn sep as).flatMap fun part => part ++ [sep]) = as ++ [sep] := by
  induction as with
  | nil => rfl
  | cons a as ih =>
      by_cases ha : a = sep
      · rw [ha, splitOn_cons_self, List.flatMap_cons, ih]
        rfl
      · obtain ⟨part, parts, hs, hc⟩ := splitOn_cons_of_ne ha as
        rw [hs, List.flatMap_cons] at ih
        rw [hc, List.flatMap_cons, List.cons_append, List.cons_append, ih, List.cons_append]

/-- The parts of a text between its nulls. -/
def nullParts (a : String) : List String := (splitOn '\x00' a.toList).map String.ofList

theorem joinArgs_nullParts (a : String) : joinArgs (nullParts a) = a.toList ++ ['\x00'] := by
  rw [joinArgs, nullParts, List.flatMap_map, ← flatMap_splitOn]
  exact List.flatMap_congr fun part _ => by rw [String.toList_ofList]

theorem no_null_of_mem_nullParts {a part : String} (h : part ∈ nullParts a) :
    '\x00' ∉ part.toList := by
  obtain ⟨cs, hcs, rfl⟩ := List.mem_map.1 h
  rw [String.toList_ofList]
  exact (of_mem_splitOn hcs).1

namespace Instruction

/-- The instruction with its arguments split at their nulls. -/
def splitNulls (i : Instruction) : Instruction := ⟨i.directive, i.args.flatMap nullParts⟩

theorem encodeArgs_splitNulls (i : Instruction) :
    encodeArgs i.splitNulls.args = encodeArgs i.args := by
  rw [encodeArgs_eq_encodeChars, encodeArgs_eq_encodeChars, splitNulls, joinArgs, joinArgs,
    List.flatMap_assoc]
  exact congrArg Utf8.encodeChars (List.flatMap_congr fun a _ => joinArgs_nullParts a)

theorem encode_splitNulls (i : Instruction) : i.splitNulls.encode = i.encode := by
  rw [encode, encodeArgs_splitNulls]
  rfl

end Instruction

namespace Layout

/-- Split at its nulls, a checked instruction fits the framing exactly if they stand apart. -/
theorem Checked.framed_splitNulls_iff {i : Instruction} (h : Checked i) :
    Framed i.splitNulls.args ↔ NullsApart i.args := by
  have hnull : ∀ part ∈ i.splitNulls.args, '\x00' ∉ part.toList := by
    intro part hp
    obtain ⟨a, -, ha⟩ := List.mem_flatMap.1 hp
    exact no_null_of_mem_nullParts ha
  rw [← Instruction.noTwoNulls_encodeArgs h.args_ne_empty, ← Instruction.encodeArgs_splitNulls,
    Instruction.noTwoNulls_encodeArgs_iff hnull]
  refine ⟨Framed.tail_ne_empty, fun htail => ⟨?_, hnull, htail, ?_⟩⟩
  · obtain ⟨a, args, hargs⟩ := List.exists_cons_of_ne_nil h.args_ne_nil
    rw [Instruction.splitNulls, hargs, List.flatMap_cons]
    refine List.append_ne_nil_of_left_ne_nil ?_ _
    exact mt List.map_eq_nil_iff.1 (splitOn_ne_nil _ _)
  · intro hh ht
    have hs : i.splitNulls.args = [""] := by
      rw [← List.cons_head?_tail hh, ht]
    have henc := Instruction.encodeArgs_splitNulls i
    rw [hs, Instruction.encodeArgs_eq_singleton_iff.2 rfl] at henc
    have hargs := Instruction.encodeArgs_eq_singleton_iff.1 henc.symm
    exact h.args_ne_empty "" (hargs ▸ List.mem_cons_self) rfl

/-- Where nulls stand apart, one instruction is read for each that was written. -/
theorem decodeAll_of_nullsApart (offset : Nat) {is : List Instruction}
    (h : ∀ i ∈ is, Checked i) (hn : ∀ i ∈ is, NullsApart i.args) :
    Program.decodeAll offset (is.flatMap Instruction.encode) =
      .ok (is.map Instruction.splitNulls) := by
  refine Program.decodeAll_of_encode offset (k := 0) ?_ (by decide) ?_
  · rintro _ hj
    obtain ⟨i, hi, rfl⟩ := List.mem_map.1 hj
    exact (h i hi).framed_splitNulls_iff.2 (hn i hi)
  · rw [List.replicate_zero, List.append_nil, List.flatMap_map]
    exact List.flatMap_congr fun i _ => i.encode_splitNulls.symm

/-- Instructions are read from the bytes that each of them was written to exactly if nulls stand
apart. -/
theorem decodeAll_map_encode_iff (offset : Nat) {is : List Instruction}
    (h : ∀ i ∈ is, Checked i) :
    (∃ js, Program.decodeAll offset (is.flatMap Instruction.encode) = .ok js ∧
        js.map Instruction.encode = is.map Instruction.encode) ↔
      ∀ i ∈ is, NullsApart i.args := by
  constructor
  · rintro ⟨js, hd, hjs⟩ i hi
    have hf := (Program.encode_of_decodeAll hd).1
    have hmem : i.encode ∈ js.map Instruction.encode := hjs ▸ List.mem_map_of_mem hi
    obtain ⟨j, hj, hji⟩ := List.mem_map.1 hmem
    have hargs : Instruction.encodeArgs j.args = Instruction.encodeArgs i.args :=
      List.append_cancel_right (List.cons.inj hji).2
    rw [← Instruction.noTwoNulls_encodeArgs (h i hi).args_ne_empty, ← hargs,
      Instruction.noTwoNulls_encodeArgs_iff (hf j hj).no_null]
    exact (hf j hj).tail_ne_empty
  · intro hn
    refine ⟨_, decodeAll_of_nullsApart offset h hn, ?_⟩
    rw [List.map_map]
    exact List.map_congr_left fun i _ => i.encode_splitNulls

end Layout

/-! ## Loading what was compiled -/

namespace Program

/-- Where instructions can be read, only signature and version can be wrong. -/
theorem load_error_of_decodeAll {bytes : List UInt8} {is : List Instruction} {e : LoadError}
    (hd : decodeAll 0 bytes = .ok is) (h : load bytes = .error e) :
    e = .signature ∨ (∃ t, e = .invalidVersion t) ∨ ∃ t, e = .unsupportedVersion t := by
  obtain h | h | h | ⟨-, -, he⟩ := load_error_cases h
  · exact .inl h
  · exact .inr (.inl h)
  · exact .inr (.inr h)
  · rw [hd] at he
    cases he

end Program

namespace Layout

theorem forall_lineArgs_iff {ls : List String} {is : List Instruction}
    (h : ls.map lineInstruction? = is.map some) (P : List String → Prop) :
    (∀ l ∈ ls, P (lineArgs l)) ↔ ∀ i ∈ is, P i.args := by
  rw [← List.forall_mem_map, map_lineArgs h, List.forall_mem_map]

/-- Where nulls stand apart, the instructions that were written come back, split at their nulls. -/
theorem header_cons_instructions {is : List Instruction} {p : Program} (h : ∀ i ∈ is, Checked i)
    (hn : ∀ i ∈ is, NullsApart i.args)
    (hp : Program.load (is.flatMap Instruction.encode) = .ok p) :
    p.header :: p.instructions = is.map Instruction.splitNulls := by
  obtain ⟨-, -, hd⟩ := Program.load_eq_ok_iff_decodeAll.1 hp
  exact Except.ok.inj (hd.symm.trans (decodeAll_of_nullsApart 0 h hn))

/-- Where nulls stand apart, what is behind the header was asked for by a line. -/
theorem exists_line_of_mem_instructions {source : String} {bytes : List UInt8} {p : Program}
    {i : Instruction} (h : compileSource source = .ok bytes) (hp : Program.load bytes = .ok p)
    (hn : ∀ l ∈ statements source, NullsApart (lineArgs l)) (hi : i ∈ p.instructions) :
    ∃ l ∈ (statements source).tail, ∃ j, lineInstruction? l = some j ∧ i = j.splitNulls := by
  obtain ⟨is, his, hck, -, rfl⟩ := compileSource_eq_ok_iff.1 h
  rw [forall_lineArgs_iff his NullsApart] at hn
  have htail : p.instructions = is.tail.map Instruction.splitNulls := by
    rw [List.map_tail, ← header_cons_instructions hck hn hp, List.tail_cons]
  rw [htail] at hi
  obtain ⟨j, hj, rfl⟩ := List.mem_map.1 hi
  have hlines : (statements source).tail.map lineInstruction? = is.tail.map some := by
    rw [List.map_tail, his, List.map_tail]
  have hline : some j ∈ (statements source).tail.map lineInstruction? :=
    hlines ▸ List.mem_map_of_mem hj
  obtain ⟨l, hl, hj⟩ := List.mem_map.1 hline
  exact ⟨l, hl, j, hj, rfl⟩

/-- The lines of a compiled text are loaded from their own bytes exactly if nulls stand apart.  Then
nothing but signature and version can fail to load, and there is one instruction for each line
behind the header. -/
theorem load_compileSource_nullsApart {source : String} {bytes : List UInt8}
    (h : compileSource source = .ok bytes) :
    ((∃ is, Program.decodeAll 0 bytes = .ok is ∧
        (statements source).map (fun l => (lineInstruction? l).map Instruction.encode) =
          is.map fun i => some i.encode) ↔
      ∀ l ∈ statements source, NullsApart (lineArgs l)) ∧
    ((∀ l ∈ statements source, NullsApart (lineArgs l)) →
      (∀ e, Program.load bytes = .error e →
        e = .signature ∨ (∃ t, e = .invalidVersion t) ∨ ∃ t, e = .unsupportedVersion t) ∧
      ∀ p, Program.load bytes = .ok p →
        p.instructions.length + 1 = (statements source).length) := by
  obtain ⟨is, his, hck, -, rfl⟩ := compileSource_eq_ok_iff.1 h
  rw [forall_lineArgs_iff his NullsApart]
  have hlen : is.length = (statements source).length := by
    simpa using (congrArg List.length his).symm
  constructor
  · rw [← decodeAll_map_encode_iff 0 hck]
    have hbytes : (statements source).map (fun l => (lineInstruction? l).map Instruction.encode) =
        (is.map Instruction.encode).map some := by
      rw [← Function.comp_def, ← List.map_map, his, List.map_map, List.map_map]
      rfl
    refine exists_congr fun js => and_congr_right fun _ => ?_
    rw [hbytes, ← Function.comp_def, ← List.map_map,
      List.map_inj_right fun _ _ => Option.some.inj]
    exact eq_comm
  · intro hn
    refine ⟨fun e => Program.load_error_of_decodeAll (decodeAll_of_nullsApart 0 hck hn),
      fun p hp => ?_⟩
    have hp := congrArg List.length (header_cons_instructions hck hn hp)
    rw [List.length_cons, List.length_map] at hp
    rw [hp, hlen]

/-- A null within an argument only splits it. -/
theorem load_compileSource_lone_null :
    let source := "layout\tvivid\t1.0\nglue\ta\x00b"
    let bytes := [8, 118, 105, 118, 105, 100, 0, 49, 46, 48, 0, 0, 4, 97, 0, 98, 0, 0]
    compileSource source = .ok bytes ∧ (∀ l ∈ statements source, NullsApart (lineArgs l)) ∧
      (∀ e, Program.load bytes = .error e →
        e = .signature ∨ (∃ t, e = .invalidVersion t) ∨ ∃ t, e = .unsupportedVersion t) ∧
      ∀ p, Program.load bytes = .ok p →
        p.instructions.length + 1 = (statements source).length := by
  intro source bytes
  have h : compileSource source = .ok bytes := by decide +kernel
  have hn := (load_compileSource_nullsApart h).1.1
    ⟨[⟨.layout, ["vivid", "1.0"]⟩, ⟨.glue, ["a", "b"]⟩], by decide +kernel, by decide +kernel⟩
  exact ⟨h, hn, (load_compileSource_nullsApart h).2 hn⟩

/-- What is behind two nulls is read as an instruction, be it one or not. -/
theorem load_compileSource_null_pair :
    (∃ bytes, compileSource "layout\tvivid\t1.0\nglue\ta\x00\x00*b" = .ok bytes ∧
        Program.load bytes = .error (.unknownOpcode 16 42)) ∧
      ∃ bytes p, compileSource "layout\tvivid\t1.0\nglue\ta\x00\x00\x04b" = .ok bytes ∧
        Program.load bytes = .ok p ∧ p.instructions = [⟨.glue, ["a"]⟩, ⟨.glue, ["b"]⟩] ∧
          (statements "layout\tvivid\t1.0\nglue\ta\x00\x00\x04b").length = 2 := by
  constructor
  · refine ⟨[8, 118, 105, 118, 105, 100, 0, 49, 46, 48, 0, 0, 4, 97, 0, 0, 42, 98, 0, 0],
      by decide +kernel, ?_⟩
    have hv : Program.readVersion
        [8, 118, 105, 118, 105, 100, 0, 49, 46, 48, 0, 0, 4, 97, 0, 0, 42, 98, 0, 0] = .ok 1.0 := by
      decide +kernel
    have hd : Program.decodeAll 0
        [8, 118, 105, 118, 105, 100, 0, 49, 46, 48, 0, 0, 4, 97, 0, 0, 42, 98, 0, 0] =
          .error (.unknownOpcode 16 42) := by
      decide +kernel
    rw [Program.load, hv, hd]
    rfl
  · refine ⟨[8, 118, 105, 118, 105, 100, 0, 49, 46, 48, 0, 0, 4, 97, 0, 0, 4, 98, 0, 0],
      ⟨1.0, ["vivid", "1.0"], [⟨.glue, ["a"]⟩, ⟨.glue, ["b"]⟩]⟩, by decide +kernel, ?_, rfl,
      by decide +kernel⟩
    exact Program.load_eq_ok_iff_decodeAll.2 ⟨by decide, by decide +kernel, by decide +kernel⟩

end Layout

end Extraction
