import Extraction.Program.Load
import Extraction.Proofs.Basic
import Extraction.Proofs.Utf8
import Mathlib.Data.List.Chain

/-!
# The null framing of instructions

An instruction ends at its first two nulls in a row, although nulls also separate its arguments,
the first argument may be empty, and what follows may begin with a null as well.  The argument
lists for which this works are those of `Framed`; the reader accepts no others, and gives each of
them back from its bytes.

The invariant behind both directions is `NoTwoNulls` of the arguments together with the null that
ends the last of them.  `decodeAll_eq_ok_iff` lifts it to sequences of instructions, the last of
which may lack nulls at its end.
-/

namespace Extraction

open Extraction.Text

/-! ## Two nulls in a row -/

/-- No null follows a null. -/
def NoTwoNulls (bytes : List UInt8) : Prop := bytes.IsChain fun a b => a ≠ 0 ∨ b ≠ 0

theorem noTwoNulls_cons {b : UInt8} {bytes : List UInt8} :
    NoTwoNulls (b :: bytes) ↔ (b = 0 → bytes.head? ≠ some 0) ∧ NoTwoNulls bytes := by
  rw [NoTwoNulls, List.isChain_cons]
  refine and_congr_left fun _ => ?_
  cases bytes with
  | nil => simp
  | cons c bytes =>
      simp only [List.head?_cons, Option.mem_some_iff, forall_eq', ne_eq, Option.some.injEq]
      exact Decidable.imp_iff_not_or.symm

theorem noTwoNulls_append {front bytes : List UInt8} (h : 0 ∉ front) :
    NoTwoNulls (front ++ bytes) ↔ NoTwoNulls bytes := by
  induction front with
  | nil => rfl
  | cons b front ih =>
      rw [List.mem_cons, not_or] at h
      rw [List.cons_append, noTwoNulls_cons, ih h.2]
      exact and_iff_right fun hb => absurd hb.symm h.1

namespace Program

theorem splitBody_cons {b : UInt8} {bytes : List UInt8}
    (h : b = 0 → bytes ≠ [] ∧ bytes.head? ≠ some 0) :
    splitBody (b :: bytes) = (b :: (splitBody bytes).1, (splitBody bytes).2) := by
  rw [splitBody]
  · exact fun hb => (h hb).1
  · rintro rest hb rfl
    exact (h hb).2 rfl

theorem splitBody_append {body ending rest : List UInt8} (hb : NoTwoNulls (body ++ [0]))
    (he : splitBody ending = ([], rest)) : splitBody (body ++ ending) = (body, rest) := by
  induction body with
  | nil => exact he
  | cons b body ih =>
      rw [List.cons_append, noTwoNulls_cons] at hb
      rw [List.cons_append, splitBody_cons, ih hb.2]
      intro hz
      cases body with
      | nil => exact absurd rfl (hb.1 hz)
      | cons c body => exact ⟨List.cons_ne_nil _ _, hb.1 hz⟩

theorem noTwoNulls_splitBody (bytes : List UInt8) : NoTwoNulls ((splitBody bytes).1 ++ [0]) := by
  fun_induction splitBody bytes with
  | case1 => exact .singleton _
  | case2 => exact .singleton _
  | case3 => exact .singleton _
  | case4 b bytes h₁ h₂ body rest h ih =>
      rw [h] at ih
      rw [List.cons_append, noTwoNulls_cons]
      refine ⟨fun hb => ?_, ih⟩
      -- a null that does not end the body is followed by another byte, which stays in the body
      cases bytes with
      | nil => exact absurd rfl (h₁ hb)
      | cons c bytes =>
          have hc : c ≠ 0 := fun hc => h₂ bytes hb (by rw [hc])
          rw [splitBody_cons fun hz => absurd hz hc] at h
          obtain ⟨rfl, -⟩ := Prod.mk.inj h
          simpa using hc

/-- Nulls may be missing at the end, but only where nothing follows. -/
theorem splitBody_mended (bytes : List UInt8) :
    ∃ k ≤ 2, bytes ++ List.replicate k 0 = (splitBody bytes).1 ++ 0 :: 0 :: (splitBody bytes).2 ∧
      (k = 0 ∨ (splitBody bytes).2 = []) := by
  fun_induction splitBody bytes with
  | case1 => exact ⟨2, by decide, rfl, .inr rfl⟩
  | case2 => exact ⟨1, by decide, rfl, .inr rfl⟩
  | case3 rest => exact ⟨0, by decide, List.append_nil _, .inl rfl⟩
  | case4 b bytes h₁ h₂ body rest h ih =>
      rw [h] at ih
      obtain ⟨k, hk, hb, hr⟩ := ih
      exact ⟨k, hk, congrArg (b :: ·) hb, hr⟩

theorem splitBody_eq_iff {bytes body rest : List UInt8} :
    splitBody bytes = (body, rest) ↔
      NoTwoNulls (body ++ [0]) ∧
        ∃ k ≤ 2, bytes ++ List.replicate k 0 = body ++ 0 :: 0 :: rest ∧ (k = 0 ∨ rest = []) := by
  constructor
  · intro h
    have hb := noTwoNulls_splitBody bytes
    have hm := splitBody_mended bytes
    rw [h] at hb hm
    exact ⟨hb, hm⟩
  · rintro ⟨hb, k, hk, h, hr⟩
    obtain rfl | rfl | rfl : k = 0 ∨ k = 1 ∨ k = 2 := by omega
    · rw [List.replicate_zero, List.append_nil] at h
      rw [h]
      exact splitBody_append hb (by simp [splitBody])
    · obtain rfl : rest = [] := hr.resolve_left (by decide)
      obtain rfl : bytes = body ++ [0] :=
        List.append_cancel_right (h.trans (List.append_assoc body [0] [0]).symm)
      exact splitBody_append hb (by simp [splitBody])
    · obtain rfl : rest = [] := hr.resolve_left (by decide)
      obtain rfl : bytes = body := List.append_cancel_right h
      have hs : splitBody (bytes ++ []) = (bytes, []) := splitBody_append hb splitBody.eq_1
      rwa [List.append_nil] at hs

end Program

/-! ## Arguments -/

/-- Argument lists that have bytes of their own.  Only the first argument may be empty, and only
if another one follows. -/
structure Framed (args : List String) : Prop where
  ne_nil : args ≠ []
  no_null : ∀ a ∈ args, '\x00' ∉ a.toList
  tail_ne_empty : ∀ a ∈ args.tail, a ≠ ""
  head_ne_empty : args.head? = some "" → args.tail ≠ []

namespace Instruction

theorem encodeArgs_cons (a : String) (args : List String) :
    encodeArgs (a :: args) = Utf8.encode a ++ 0 :: encodeArgs args := by
  rw [encodeArgs, List.flatMap_cons, List.append_assoc]
  rfl

theorem encodeArgs_eq_intercalate {args : List String} (h : args ≠ []) :
    encodeArgs args = [0].intercalate (args.map Utf8.encode) ++ [0] := by
  induction args with
  | nil => exact absurd rfl h
  | cons a args ih =>
      cases args with
      | nil => simp [encodeArgs]
      | cons b args =>
          rw [encodeArgs_cons, ih (List.cons_ne_nil _ _)]
          simp [List.append_assoc]

theorem encodeArgs_eq_singleton_iff {args : List String} : encodeArgs args = [0] ↔ args = [""] := by
  constructor
  · intro h
    cases args with
    | nil => cases h
    | cons a args =>
        have hl := congrArg List.length h
        rw [encodeArgs_cons, List.length_append, List.length_cons, List.length_singleton] at hl
        have ha : Utf8.encode a = [] := List.eq_nil_of_length_eq_zero (by omega)
        have hargs : encodeArgs args = [] := List.eq_nil_of_length_eq_zero (by omega)
        rw [Utf8.encode_eq_nil_iff.1 ha]
        cases args with
        | nil => rfl
        | cons b args => simp [encodeArgs_cons] at hargs
  · rintro rfl
    rfl

theorem head?_encodeArgs_cons {a : String} (h : '\x00' ∉ a.toList) (args : List String) :
    (encodeArgs (a :: args)).head? = some 0 ↔ a = "" := by
  rw [encodeArgs_cons, ← Utf8.encode_eq_nil_iff]
  cases he : Utf8.encode a with
  | nil => simp
  | cons b bytes =>
      have hb : b ≠ 0 := by
        rintro rfl
        exact h (Utf8.zero_mem_encode.1 (by rw [he]; exact List.mem_cons_self))
      simpa using hb

/-- Two nulls in a row are an empty argument that is not the first. -/
theorem noTwoNulls_encodeArgs_iff {args : List String} (h : ∀ a ∈ args, '\x00' ∉ a.toList) :
    NoTwoNulls (encodeArgs args) ↔ ∀ a ∈ args.tail, a ≠ "" := by
  induction args with
  | nil => exact iff_of_true .nil (by simp)
  | cons a args ih =>
      rw [List.forall_mem_cons] at h
      rw [encodeArgs_cons, noTwoNulls_append (mt Utf8.zero_mem_encode.1 h.1), noTwoNulls_cons,
        ih h.2]
      cases args with
      | nil => simp [encodeArgs]
      | cons b args =>
          rw [List.tail_cons, List.tail_cons, List.forall_mem_cons, ne_eq,
            head?_encodeArgs_cons (h.2 b List.mem_cons_self)]
          exact and_congr_left fun _ => ⟨fun hb => hb rfl, fun hb _ => hb⟩

end Instruction

namespace Program

theorem decodeArgs_eq_ok_iff {offset : Nat} {parts : List (List UInt8)} {args : List String} :
    decodeArgs offset parts = .ok args ↔ args.map Utf8.encode = parts := by
  induction parts generalizing args with
  | nil =>
      rw [decodeArgs, List.map_eq_nil_iff, Except.ok.injEq]
      exact eq_comm
  | cons part parts ih =>
      rw [decodeArgs]
      cases hp : Utf8.decode? part with
      | error e =>
          refine iff_of_false nofun fun h => ?_
          obtain ⟨a, as, rfl, rfl, -⟩ := List.map_eq_cons_iff.1 h
          rw [Utf8.decode?_encode] at hp
          cases hp
      | ok a =>
          rw [Utf8.decode?_eq_ok_iff] at hp
          simp only [map_eq_ok_iff]
          constructor
          · rintro ⟨as, hr, rfl⟩
            rw [List.map_cons, hp, ih.1 hr]
          · intro h
            obtain ⟨b, bs, rfl, hb, hbs⟩ := List.map_eq_cons_iff.1 h
            obtain rfl : b = a := Utf8.encode_injective (hb.trans hp.symm)
            exact ⟨bs, ih.2 hbs, rfl⟩

/-- The body of an instruction and its arguments. -/
theorem framed_iff {args : List String} {body : List UInt8} :
    Framed args ∧ Instruction.encodeArgs args = body ++ [0] ↔
      body ≠ [] ∧ NoTwoNulls (body ++ [0]) ∧ splitOn 0 body = args.map Utf8.encode := by
  constructor
  · rintro ⟨h, hb⟩
    refine ⟨?_, ?_, ?_⟩
    · rintro rfl
      obtain rfl := Instruction.encodeArgs_eq_singleton_iff.1 hb
      exact h.head_ne_empty rfl rfl
    · rw [← hb]
      exact (Instruction.noTwoNulls_encodeArgs_iff h.no_null).2 h.tail_ne_empty
    · rw [Instruction.encodeArgs_eq_intercalate h.ne_nil] at hb
      rw [← List.append_cancel_right hb, splitOn_eq, List.splitOn_intercalate]
      · simpa [Utf8.zero_mem_encode] using h.no_null
      · simpa using h.ne_nil
  · rintro ⟨hne, hb, hs⟩
    have hargs : args ≠ [] := by
      rintro rfl
      exact splitOn_ne_nil 0 body hs
    have hnull : ∀ a ∈ args, '\x00' ∉ a.toList := by
      intro a ha hz
      have hp : Utf8.encode a ∈ splitOn 0 body := by
        rw [hs]
        exact List.mem_map_of_mem ha
      exact (of_mem_splitOn hp).1 (Utf8.zero_mem_encode.2 hz)
    have henc : Instruction.encodeArgs args = body ++ [0] := by
      rw [Instruction.encodeArgs_eq_intercalate hargs, ← hs, splitOn_eq, List.intercalate_splitOn]
    refine ⟨⟨hargs, hnull, ?_, ?_⟩, henc⟩
    · rw [← Instruction.noTwoNulls_encodeArgs_iff hnull, henc]
      exact hb
    · intro hh ht
      have hempty : args = [""] := by
        rw [← List.cons_head?_tail hh, ht]
      rw [hempty, Instruction.encodeArgs_eq_singleton_iff.2 rfl] at henc
      have hbody : body ++ [0] = [] ++ [0] := henc.symm
      exact hne (List.append_cancel_right hbody)

theorem ofOpcode?_eq_some_iff {opcode : UInt8} {i : Instruction} :
    Directive.ofOpcode? opcode = some i.directive ↔ i.opcode = opcode :=
  ⟨Directive.opcode_of_ofOpcode?, fun h => h ▸ Directive.ofOpcode?_opcode _⟩

theorem decodeInstruction_eq_ok_iff_body {offset : Nat} {opcode : UInt8}
    {bytes rest : List UInt8} {i : Instruction} :
    decodeInstruction offset opcode bytes = .ok (i, rest) ↔
      i.opcode = opcode ∧ ∃ body, splitBody bytes = (body, rest) ∧ body ≠ [] ∧
        splitOn 0 body = i.args.map Utf8.encode := by
  rw [← ofOpcode?_eq_some_iff, decodeInstruction]
  cases ho : Directive.ofOpcode? opcode with
  | none => exact iff_of_false nofun fun h => absurd h.1 nofun
  | some d =>
      obtain ⟨body, rest', hb⟩ : ∃ body rest', splitBody bytes = (body, rest') := ⟨_, _, rfl⟩
      simp only [hb, List.isEmpty_iff]
      split
      case isTrue he =>
        refine iff_of_false nofun ?_
        rintro ⟨-, body', h, hne, -⟩
        exact hne (by rw [← he, (Prod.mk.inj h).1])
      case isFalse he =>
        rw [map_eq_ok_iff]
        constructor
        · rintro ⟨args, hr, hi⟩
          cases hi
          exact ⟨rfl, body, rfl, he, (decodeArgs_eq_ok_iff.1 hr).symm⟩
        · rintro ⟨hd, body', h, -, hs⟩
          obtain ⟨rfl, rfl⟩ := Prod.mk.inj h
          refine ⟨i.args, decodeArgs_eq_ok_iff.2 hs.symm, ?_⟩
          rw [Option.some.inj hd]

/-- An instruction is read from its own bytes, up to nulls at the very end. -/
theorem decodeInstruction_eq_ok_iff {offset : Nat} {opcode : UInt8} {bytes rest : List UInt8}
    {i : Instruction} :
    decodeInstruction offset opcode bytes = .ok (i, rest) ↔
      i.opcode = opcode ∧ Framed i.args ∧ ∃ k ≤ 2,
        opcode :: bytes ++ List.replicate k 0 = i.encode ++ rest ∧ (k = 0 ∨ rest = []) := by
  rw [decodeInstruction_eq_ok_iff_body]
  refine and_congr_right fun ho => ?_
  constructor
  · rintro ⟨body, hb, hne, hs⟩
    obtain ⟨hf, k, hk, hbytes, hr⟩ := splitBody_eq_iff.1 hb
    obtain ⟨hargs, henc⟩ := framed_iff.2 ⟨hne, hf, hs⟩
    refine ⟨hargs, k, hk, ?_, hr⟩
    rw [Instruction.encode, henc, ho, List.cons_append, hbytes]
    simp
  · rintro ⟨hargs, k, hk, hbytes, hr⟩
    have henc := Instruction.encodeArgs_eq_intercalate hargs.ne_nil
    obtain ⟨hne, hf, hs⟩ := framed_iff.1 ⟨hargs, henc⟩
    refine ⟨_, splitBody_eq_iff.2 ⟨hf, k, hk, ?_, hr⟩, hne, hs⟩
    rw [Instruction.encode, henc, ho, List.cons_append] at hbytes
    simpa using hbytes

/-- An instruction behind which something follows is written to its end. -/
theorem encode_append_of_decodeInstruction {offset : Nat} {opcode : UInt8}
    {bytes rest : List UInt8} {i : Instruction}
    (h : decodeInstruction offset opcode bytes = .ok (i, rest)) (hrest : rest ≠ []) :
    Framed i.args ∧ opcode :: bytes = i.encode ++ rest := by
  obtain ⟨-, hf, k, -, hb, hr⟩ := decodeInstruction_eq_ok_iff.1 h
  obtain rfl := hr.resolve_right hrest
  rw [List.replicate_zero, List.append_nil] at hb
  exact ⟨hf, hb⟩

/-! ## Sequences of instructions -/

theorem decodeAll_cons (offset : Nat) (opcode : UInt8) (bytes : List UInt8) :
    decodeAll offset (opcode :: bytes) =
      match decodeInstruction offset opcode bytes with
      | .error e => .error e
      | .ok (i, rest) =>
        (decodeAll (offset + 1 + (bytes.length - rest.length)) rest).map (i :: ·) := by
  rw [decodeAll]
  cases h : decodeInstruction offset opcode bytes <;> rfl

theorem decodeAll_cons_eq_ok_iff {offset : Nat} {opcode : UInt8} {bytes : List UInt8}
    {is : List Instruction} :
    decodeAll offset (opcode :: bytes) = .ok is ↔
      ∃ i rest is', decodeInstruction offset opcode bytes = .ok (i, rest) ∧
        decodeAll (offset + 1 + (bytes.length - rest.length)) rest = .ok is' ∧ is = i :: is' := by
  rw [decodeAll_cons]
  cases decodeInstruction offset opcode bytes with
  | error e => exact iff_of_false nofun (by rintro ⟨i, rest, is', h, -⟩; cases h)
  | ok p =>
      obtain ⟨i, rest⟩ := p
      simp only [map_eq_ok_iff, Except.ok.injEq, Prod.mk.injEq]
      constructor
      · rintro ⟨is', h, rfl⟩
        exact ⟨i, rest, is', ⟨rfl, rfl⟩, h, rfl⟩
      · rintro ⟨_, _, is', ⟨rfl, rfl⟩, h, rfl⟩
        exact ⟨is', h, rfl⟩

theorem decodeAll_nil (offset : Nat) : decodeAll offset [] = .ok [] := by
  rw [decodeAll]

theorem three_le_length_encode {i : Instruction} (h : Framed i.args) : 3 ≤ i.encode.length := by
  have hargs := Instruction.encodeArgs_eq_intercalate h.ne_nil
  rw [Instruction.encode, hargs]
  simp

/-- Whatever is read was written, up to nulls at the very end. -/
theorem encode_of_decodeAll {offset : Nat} {bytes : List UInt8} {is : List Instruction}
    (h : decodeAll offset bytes = .ok is) :
    (∀ i ∈ is, Framed i.args) ∧
      ∃ k ≤ 2, bytes ++ List.replicate k 0 = is.flatMap Instruction.encode := by
  induction is generalizing offset bytes with
  | nil =>
      cases bytes with
      | nil => exact ⟨nofun, 0, by decide, rfl⟩
      | cons opcode bytes =>
          obtain ⟨i, rest, is', -, -, h⟩ := decodeAll_cons_eq_ok_iff.1 h
          cases h
  | cons i is ih =>
      cases bytes with
      | nil =>
          rw [decodeAll_nil] at h
          cases h
      | cons opcode bytes =>
          obtain ⟨i, rest, is, hi, hrest, h⟩ := decodeAll_cons_eq_ok_iff.1 h
          cases h
          obtain ⟨-, hf, k, hk, hb, hr⟩ := decodeInstruction_eq_ok_iff.1 hi
          obtain ⟨hfs, k', hk', hb'⟩ := ih hrest
          refine ⟨List.forall_mem_cons.2 ⟨hf, hfs⟩, ?_⟩
          rcases hr with rfl | rfl
          · refine ⟨k', hk', ?_⟩
            rw [List.replicate_zero, List.append_nil] at hb
            rw [hb, List.append_assoc, hb', List.flatMap_cons]
          · rw [decodeAll_nil] at hrest
            cases hrest
            exact ⟨k, hk, hb.trans (by simp)⟩

/-- What follows an instruction is read from where that ends. -/
theorem decodeAll_encode_append (offset : Nat) {i : Instruction} (hi : Framed i.args)
    (rest : List UInt8) :
    decodeAll offset (i.encode ++ rest) =
      (decodeAll (offset + i.encode.length) rest).map (i :: ·) := by
  have hbytes : i.encode ++ rest = i.opcode :: (Instruction.encodeArgs i.args ++ 0 :: rest) := by
    simp [Instruction.encode]
  have hread : decodeInstruction offset i.opcode (Instruction.encodeArgs i.args ++ 0 :: rest) =
      .ok (i, rest) :=
    decodeInstruction_eq_ok_iff.2 ⟨rfl, hi, 0, by decide, by simp [Instruction.encode], .inl rfl⟩
  have hlen : offset + 1 + ((Instruction.encodeArgs i.args ++ 0 :: rest).length - rest.length) =
      offset + i.encode.length := by
    simp only [Instruction.encode, List.length_append, List.length_cons, List.length_nil]
    omega
  rw [hbytes, decodeAll_cons, hread]
  simp only [hlen]

/-- The last instruction may lack nulls. -/
theorem decodeAll_last (offset : Nat) {i : Instruction} {bytes : List UInt8} {k : Nat}
    (hi : Framed i.args) (hk : k ≤ 2) (h : bytes ++ List.replicate k 0 = i.encode) :
    decodeAll offset bytes = .ok [i] := by
  cases bytes with
  | nil =>
      have hlen := three_le_length_encode hi
      rw [← h, List.nil_append, List.length_replicate] at hlen
      omega
  | cons opcode bytes =>
      have ho : i.opcode = opcode := (List.cons.inj h).1.symm
      rw [decodeAll_cons_eq_ok_iff]
      refine ⟨i, [], [], decodeInstruction_eq_ok_iff.2 ?_, decodeAll_nil _, rfl⟩
      exact ⟨ho, hi, k, hk, h.trans (List.append_nil _).symm, .inr rfl⟩

/-- Whatever is written is read back, without some nulls at the very end as well. -/
theorem decodeAll_of_encode (offset : Nat) {bytes : List UInt8} {is : List Instruction} {k : Nat}
    (hf : ∀ i ∈ is, Framed i.args) (hk : k ≤ 2)
    (h : bytes ++ List.replicate k 0 = is.flatMap Instruction.encode) :
    decodeAll offset bytes = .ok is := by
  induction is generalizing offset bytes with
  | nil =>
      rw [List.flatMap_nil, List.append_eq_nil_iff] at h
      rw [h.1, decodeAll_nil]
  | cons i is ih =>
      rw [List.forall_mem_cons] at hf
      rw [List.flatMap_cons, List.append_eq_append_iff] at h
      rcases h with ⟨nulls, hi, hnulls⟩ | ⟨rest, rfl, hrest⟩
      · -- the nulls that are missing belong to this instruction, so it is the last one
        obtain rfl : is = [] := by
          cases is with
          | nil => rfl
          | cons j is =>
              have hj := three_le_length_encode (hf.2 j List.mem_cons_self)
              have hlen := congrArg List.length hnulls
              rw [List.length_replicate, List.flatMap_cons, List.length_append,
                List.length_append] at hlen
              omega
        rw [List.flatMap_nil, List.append_nil] at hnulls
        exact decodeAll_last offset hf.1 hk (hi.trans (by rw [hnulls])).symm
      · rw [decodeAll_encode_append offset hf.1, ih _ hf.2 hrest.symm]
        rfl

theorem decodeAll_eq_ok_iff {offset : Nat} {bytes : List UInt8} {is : List Instruction} :
    decodeAll offset bytes = .ok is ↔
      (∀ i ∈ is, Framed i.args) ∧
        ∃ k ≤ 2, bytes ++ List.replicate k 0 = is.flatMap Instruction.encode :=
  ⟨encode_of_decodeAll, fun ⟨hf, _, hk, h⟩ => decodeAll_of_encode offset hf hk h⟩

/-- No two sequences of framed instructions have the same bytes. -/
theorem flatMap_encode_inj {is js : List Instruction} (hi : ∀ i ∈ is, Framed i.args)
    (hj : ∀ j ∈ js, Framed j.args)
    (h : is.flatMap Instruction.encode = js.flatMap Instruction.encode) : is = js := by
  have his : decodeAll 0 (is.flatMap Instruction.encode) = .ok is :=
    decodeAll_eq_ok_iff.2 ⟨hi, 0, by decide, List.append_nil _⟩
  have hjs : decodeAll 0 (is.flatMap Instruction.encode) = .ok js :=
    decodeAll_eq_ok_iff.2 ⟨hj, 0, by decide, (List.append_nil _).trans h⟩
  exact Except.ok.inj (his.symm.trans hjs)

end Program

end Extraction
