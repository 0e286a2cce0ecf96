import Extraction.Proofs.Bytecode

/-!
# Where loading fails

An error that is about an instruction points at its first byte.  `Defect` lists what can be wrong
with an instruction, in terms of its bytes; `decodeAll_eq_error_iff` says that the first instruction
with a defect is the one that is reported, and that all of the bytes in front of it are
instructions, each written to its end.  These bytes are a program by themselves: signature and
version, which are looked up at fixed places, lie within the header.
-/

namespace Extraction

open Extraction.Text

/-- The offset of the instruction that an error is about, if it is about one. -/
def LoadError.offset? : LoadError → Option Nat
  | .unknownOpcode offset _ | .emptyInstruction offset | .utf8 offset _ => some offset
  | .signature | .invalidVersion _ | .unsupportedVersion _ => none

theorem Directive.ofOpcode?_eq_none_iff {b : UInt8} : ofOpcode? b = none ↔ 13 < b := by
  rw [ofOpcode?, List.find?_eq_none]
  simp only [all, List.forall_mem_cons, List.not_mem_nil, opcode, decide_eq_true_eq,
    ← UInt8.toNat_inj, UInt8.lt_iff_toNat_lt, UInt8.reduceToNat]
  constructor
  · intro h
    omega
  · intro h
    refine ⟨?_, ?_, ?_, ?_, ?_, ?_, ?_, ?_, ?_, ?_, ?_, ?_, ?_, ?_, fun _ h => h.elim⟩ <;> omega

namespace Program

/-! ## The end of an instruction -/

/-- An instruction ends here: two nulls follow, or no more than one byte, which is a null. -/
def AtEnd (bytes : List UInt8) : Prop := [0, 0] <+: bytes ∨ bytes = [0] ∨ bytes = []

theorem exists_ending (bytes : List UInt8) :
    ∃ ending, bytes = (splitBody bytes).1 ++ ending ∧ AtEnd ending := by
  fun_induction splitBody bytes with
  | case1 => exact ⟨[], rfl, .inr (.inr rfl)⟩
  | case2 => exact ⟨[0], rfl, .inr (.inl rfl)⟩
  | case3 rest => exact ⟨0 :: 0 :: rest, rfl, .inl (List.prefix_append [0, 0] rest)⟩
  | case4 b bytes _ _ body rest h ih =>
      rw [h] at ih
      obtain ⟨ending, hb, he⟩ := ih
      exact ⟨ending, congrArg (b :: ·) hb, he⟩

/-- The arguments of an instruction go up to the first place where it ends. -/
theorem fst_splitBody_eq_iff {bytes body : List UInt8} :
    (splitBody bytes).1 = body ↔
      ∃ ending, bytes = body ++ ending ∧ NoTwoNulls (body ++ [0]) ∧ AtEnd ending := by
  constructor
  · rintro rfl
    obtain ⟨ending, hb, he⟩ := exists_ending bytes
    exact ⟨ending, hb, noTwoNulls_splitBody bytes, he⟩
  · rintro ⟨ending, rfl, hb, he⟩
    obtain ⟨rest, hs⟩ : ∃ rest, splitBody ending = ([], rest) := by
      obtain ⟨rest, rfl⟩ | rfl | rfl := he
      · exact ⟨rest, by simp [splitBody]⟩
      · exact ⟨[], by simp [splitBody]⟩
      · exact ⟨[], splitBody.eq_1⟩
    rw [splitBody_append hb hs]

/-! ## One instruction -/

/-- What can be wrong with an instruction: its first byte is no opcode, it ends right behind that,
or one of its arguments is no text.  The first such argument is reported. -/
inductive Defect (offset : Nat) : UInt8 → List UInt8 → LoadError → Prop
  | unknown {opcode : UInt8} {bytes : List UInt8} :
      13 < opcode → Defect offset opcode bytes (.unknownOpcode offset opcode)
  | empty {opcode : UInt8} {bytes : List UInt8} :
      opcode ≤ 13 → AtEnd bytes → Defect offset opcode bytes (.emptyInstruction offset)
  | utf8 {opcode : UInt8} {body ending part : List UInt8} {front behind : List (List UInt8)}
      {cause : Utf8.Error} :
      opcode ≤ 13 → NoTwoNulls (body ++ [0]) → AtEnd ending →
        splitOn 0 body = front ++ part :: behind → (∀ p ∈ front, ∃ a, Utf8.decode? p = .ok a) →
          Utf8.decode? part = .error cause → Defect offset opcode (body ++ ending) (.utf8 offset cause)

variable {offset : Nat} {opcode : UInt8} {bytes : List UInt8} {e : LoadError}

theorem Defect.offset?_eq (h : Defect offset opcode bytes e) : e.offset? = some offset := by
  cases h <;> rfl

/-- The first of a list that is not as all in front of it, taken from the front. -/
theorem exists_first_cons_iff {α : Type} {fine bad : α → Prop} {x : α} {xs : List α} :
    (∃ front y behind, x :: xs = front ++ y :: behind ∧ (∀ z ∈ front, fine z) ∧ bad y) ↔
      bad x ∨ fine x ∧
        ∃ front y behind, xs = front ++ y :: behind ∧ (∀ z ∈ front, fine z) ∧ bad y := by
  constructor
  · rintro ⟨front, y, behind, hxs, hfront, hy⟩
    cases front with
    | nil =>
        obtain ⟨rfl, -⟩ := List.cons.inj hxs
        exact .inl hy
    | cons z front =>
        obtain ⟨rfl, rfl⟩ := List.cons.inj hxs
        obtain ⟨hx, hfront⟩ := List.forall_mem_cons.1 hfront
        exact .inr ⟨hx, front, y, behind, rfl, hfront, hy⟩
  · rintro (hx | ⟨hx, front, y, behind, rfl, hfront, hy⟩)
    · exact ⟨[], x, xs, rfl, fun _ h => absurd h List.not_mem_nil, hx⟩
    · exact ⟨x :: front, y, behind, rfl, List.forall_mem_cons.2 ⟨hx, hfront⟩, hy⟩

theorem decodeArgs_eq_error_iff {parts : List (List UInt8)} :
    decodeArgs offset parts = .error e ↔
      ∃ front part behind, parts = front ++ part :: behind ∧
        (∀ p ∈ front, ∃ a, Utf8.decode? p = .ok a) ∧
          ∃ cause, Utf8.decode? part = .error cause ∧ e = .utf8 offset cause := by
  induction parts with
  | nil => simp [decodeArgs]
  | cons part parts ih =>
      rw [exists_first_cons_iff, ← ih, decodeArgs]
      cases Utf8.decode? part with
      | error cause => simp [eq_comm]
      | ok a => simp [map_eq_error_iff]

/-- Behind an opcode, a defect is one of the arguments. -/
theorem defect_iff_of_le (h : opcode ≤ 13) :
    Defect offset opcode bytes e ↔
      (splitBody bytes).1 = [] ∧ e = .emptyInstruction offset ∨
        decodeArgs offset (splitOn 0 (splitBody bytes).1) = .error e := by
  rw [decodeArgs_eq_error_iff]
  constructor
  · intro hd
    cases hd with
    | unknown hlt => exact absurd hlt (UInt8.not_lt.2 h)
    | empty _ he => exact .inl ⟨fst_splitBody_eq_iff.2 ⟨bytes, rfl, .singleton _, he⟩, rfl⟩
    | utf8 _ hb he hparts hfront hcause =>
        rw [fst_splitBody_eq_iff.2 ⟨_, rfl, hb, he⟩]
        exact .inr ⟨_, _, _, hparts, hfront, _, hcause, rfl⟩
  · obtain ⟨ending, hbytes, hb, he⟩ := fst_splitBody_eq_iff.1 (rfl : (splitBody bytes).1 = _)
    rintro (⟨hempty, rfl⟩ | ⟨front, part, behind, hparts, hfront, cause, hcause, rfl⟩)
    · rw [hempty, List.nil_append] at hbytes
      exact .empty h (hbytes ▸ he)
    · rw [hbytes]
      exact .utf8 h hb he hparts hfront hcause

/-- Reading an instruction fails exactly if it has a defect. -/
theorem decodeInstruction_eq_error_iff :
    decodeInstruction offset opcode bytes = .error e ↔ Defect offset opcode bytes e := by
  rw [decodeInstruction]
  cases ho : Directive.ofOpcode? opcode with
  | none =>
      have hopcode : 13 < opcode := Directive.ofOpcode?_eq_none_iff.1 ho
      constructor
      · intro h
        obtain rfl := Except.error.inj h
        exact .unknown hopcode
      · intro h
        cases h with
        | unknown => rfl
        | empty hle | utf8 hle => exact absurd hopcode (UInt8.not_lt.2 hle)
  | some d =>
      have hopcode : opcode ≤ 13 := by
        rw [← UInt8.not_lt, ← Directive.ofOpcode?_eq_none_iff, ho]
        exact Option.some_ne_none d
      simp only [defect_iff_of_le hopcode, List.isEmpty_iff]
      split
      case isTrue hempty =>
        -- no bytes at all are one empty argument, which is text
        have hargs : decodeArgs offset (splitOn 0 (splitBody bytes).1) = .ok [""] := by
          rw [hempty]
          exact decodeArgs_eq_ok_iff.2 rfl
        rw [hargs, Except.error.injEq, eq_comm]
        exact ⟨fun h => .inl ⟨hempty, h⟩, fun h => (h.resolve_right fun h => by cases h).2⟩
      case isFalse hne =>
        rw [map_eq_error_iff]
        exact (or_iff_right fun h => hne h.1).symm

/-! ## Sequences of instructions -/

theorem decodeAll_flatMap_encode_append (offset : Nat) {is : List Instruction}
    (h : ∀ i ∈ is, Framed i.args) (rest : List UInt8) :
    decodeAll offset (is.flatMap Instruction.encode ++ rest) =
      (decodeAll (offset + (is.flatMap Instruction.encode).length) rest).map (is ++ ·) := by
  induction is generalizing offset with
  | nil => cases hr : decodeAll offset rest <;> simp [hr, Except.map]
  | cons i is ih =>
      rw [List.forall_mem_cons] at h
      rw [List.flatMap_cons, List.append_assoc, decodeAll_encode_append offset h.1, ih _ h.2,
        List.length_append, Nat.add_assoc]
      cases decodeAll (offset + (i.encode.length + (is.flatMap Instruction.encode).length)) rest <;>
        rfl

/-- Reading fails at the first instruction with a defect, behind instructions that are all written
to their ends. -/
theorem decodeAll_eq_error_iff :
    decodeAll offset bytes = .error e ↔
      ∃ (is : List Instruction) (opcode : UInt8) (rest : List UInt8),
        (∀ i ∈ is, Framed i.args) ∧ bytes = is.flatMap Instruction.encode ++ opcode :: rest ∧
          Defect (offset + (is.flatMap Instruction.encode).length) opcode rest e := by
  constructor
  · intro h
    fun_induction decodeAll offset bytes with
    | case1 => cases h
    | case2 offset opcode bytes e' hi =>
        obtain rfl := Except.error.inj h
        exact ⟨[], opcode, bytes, nofun, rfl, decodeInstruction_eq_error_iff.1 hi⟩
    | case3 offset opcode bytes i rest hi ih =>
        rw [map_eq_error_iff] at h
        have hrest : rest ≠ [] := by
          rintro rfl
          rw [decodeAll_nil] at h
          cases h
        obtain ⟨hf, hb⟩ := encode_append_of_decodeInstruction hi hrest
        obtain ⟨is, opcode', rest', his, hr, hd⟩ := ih h
        refine ⟨i :: is, opcode', rest', List.forall_mem_cons.2 ⟨hf, his⟩, ?_, ?_⟩
        · rw [hb, List.flatMap_cons, List.append_assoc, ← hr]
        · have hlen := congrArg List.length hb
          rw [List.length_cons, List.length_append] at hlen
          have hthree := three_le_length_encode hf
          have hstart : offset + 1 + (bytes.length - rest.length) = offset + i.encode.length := by
            omega
          rwa [hstart, Nat.add_assoc, ← List.length_append, ← List.flatMap_cons] at hd
  · rintro ⟨is, opcode, rest, his, rfl, hd⟩
    rw [decodeAll_flatMap_encode_append offset his, decodeAll_cons,
      decodeInstruction_eq_error_iff.2 hd]
    rfl

/-! ## Programs -/

/-- The bytes of the version are cut off at a null, so nothing behind one matters. -/
theorem takeWhile_take_append_zero (front rest : List UInt8) (n : Nat) :
    ((front ++ 0 :: rest).take n).takeWhile (fun b => b ≠ 0) =
      ((front ++ [0]).take n).takeWhile fun b => b ≠ 0 := by
  induction front generalizing n with
  | nil => cases n <;> rfl
  | cons b front ih =>
      cases n with
      | zero => rfl
      | succ n =>
          rw [List.cons_append, List.cons_append, List.take_succ_cons, List.take_succ_cons,
            List.takeWhile_cons, List.takeWhile_cons, ih]

theorem readVersion_append_zero {front : List UInt8} (h : 7 ≤ front.length) (rest : List UInt8) :
    readVersion (front ++ 0 :: rest) = readVersion (front ++ [0]) := by
  have htext : versionText (front ++ 0 :: rest) = versionText (front ++ [0]) := by
    rw [versionText, versionText, List.drop_append_of_le_length h, List.drop_append_of_le_length h,
      takeWhile_take_append_zero]
  rw [readVersion, readVersion, htext]

/-- The instructions in front of others are a program if they are one together. -/
theorem exists_load_flatMap_encode {is : List Instruction} {rest : List UInt8} {v : Float}
    (hne : is ≠ []) (his : ∀ i ∈ is, Framed i.args)
    (hs : signature <+: is.flatMap Instruction.encode ++ rest)
    (hv : readVersion (is.flatMap Instruction.encode ++ rest) = .ok v) :
    ∃ p, load (is.flatMap Instruction.encode) = .ok p ∧
      p.toBytes = is.flatMap Instruction.encode := by
  obtain ⟨front, -, hfront⟩ := exists_flatMap_encode hne his
  rw [hfront, List.append_assoc] at hs
  have hsignature : signature <+: front := (prefix_append_null_iff (by decide)).1 hs
  -- the first byte of the version is no further behind than the second null of the header
  have hversion : readVersion (is.flatMap Instruction.encode) = .ok v := by
    have hlen : 7 ≤ (front ++ [0]).length := by
      rw [List.length_append]
      exact Nat.succ_le_succ hsignature.length_le
    have hnulls (bytes : List UInt8) :
        front ++ List.replicate 2 0 ++ bytes = front ++ [0] ++ 0 :: bytes := by simp
    rw [hfront, hnulls, readVersion_append_zero hlen] at hv
    rw [hfront, ← hv]
    simp
  have hd : decodeAll 0 (is.flatMap Instruction.encode) = .ok is :=
    decodeAll_eq_ok_iff.2 ⟨his, 0, by decide, List.append_nil _⟩
  have hs' : signature <+: is.flatMap Instruction.encode :=
    hfront ▸ hsignature.trans (List.prefix_append _ _)
  obtain ⟨args, is', rfl⟩ := exists_header hs' hd
  exact ⟨⟨v, args, is'⟩, load_eq_ok_iff_decodeAll.2 ⟨hs', hversion, hd⟩, rfl⟩

/-- No more can be wrong with the header than that it is no text. -/
theorem exists_eq_utf8_of_signature {rest : List UInt8} (hs : signature <+: opcode :: rest)
    (hd : Defect offset opcode rest e) : ∃ cause, e = .utf8 offset cause := by
  obtain ⟨hopcode, hrest⟩ := List.cons_prefix_cons.1 hs
  cases hd with
  | unknown hlt =>
      rw [← hopcode] at hlt
      exact absurd hlt (by decide)
  | empty _ he =>
      obtain ⟨rest, rfl⟩ := hrest
      rcases he with h | h | h
      · exact absurd (List.cons_prefix_cons.1 h).1 (by decide)
      · cases h
      · cases h
  | utf8 => exact ⟨_, rfl⟩

/-- An error about an instruction points at its first byte, which lies within the bytes.  What is
in front of it is a program by itself, as it stands; only the header has nothing in front of it, and
can fail only for its text.  What is wrong there is what the error says. -/
theorem defect_of_load {o : Nat} (h : load bytes = .error e) (ho : e.offset? = some o) :
    o < bytes.length ∧
      (0 < o → ∃ p, load (bytes.take o) = .ok p ∧ p.toBytes = bytes.take o) ∧
      (o = 0 → ∃ cause, e = .utf8 0 cause) ∧
      ∃ opcode rest, bytes.drop o = opcode :: rest ∧ Defect o opcode rest e := by
  obtain ⟨hs, ⟨v, hv⟩, hd⟩ : signature <+: bytes ∧ (∃ v, readVersion bytes = .ok v) ∧
      decodeAll 0 bytes = .error e := by
    obtain rfl | ⟨t, rfl⟩ | ⟨t, rfl⟩ | hd := load_error_cases h
    · cases ho
    · cases ho
    · cases ho
    · exact hd
  obtain ⟨is, opcode, rest, his, rfl, hdefect⟩ := decodeAll_eq_error_iff.1 hd
  rw [Nat.zero_add] at hdefect
  obtain rfl : o = (is.flatMap Instruction.encode).length :=
    Option.some.inj (ho.symm.trans hdefect.offset?_eq)
  rw [List.take_left, List.drop_left]
  refine ⟨by simp, fun hpos => ?_, fun hzero => ?_, opcode, rest, rfl, hdefect⟩
  · refine exists_load_flatMap_encode ?_ his hs hv
    rintro rfl
    cases hpos
  · rw [List.eq_nil_of_length_eq_zero hzero] at hs hdefect
    exact exists_eq_utf8_of_signature hs hdefect

/-- A second argument that is no text, in the second of two instructions. -/
theorem defect_of_load_second_argument :
    let bytes : List UInt8 := [8, 118, 105, 118, 105, 100, 0, 49, 46, 48, 0, 0] ++
      [4, 97, 0, 0, 11, 98, 0, 255, 0, 0]
    let e : LoadError := .utf8 16 ⟨0, some 1⟩
    load bytes = .error e ∧ e.offset? = some 16 ∧ 16 < bytes.length ∧
      (∃ p, load (bytes.take 16) = .ok p ∧ p.toBytes = bytes.take 16) ∧
        ∃ opcode rest, bytes.drop 16 = opcode :: rest ∧ Defect 16 opcode rest e := by
  intro bytes e
  have hs : bytes.take signature.length = signature := by decide
  have hv : readVersion bytes = .ok 1.0 := by decide +kernel
  have hd : decodeAll 0 bytes = .error e := by decide +kernel
  have h : load bytes = .error e := by
    rw [load, hv, hd]
    exact if_neg (not_not.2 hs)
  obtain ⟨hlen, hfront, -, hdefect⟩ := defect_of_load h rfl
  exact ⟨h, rfl, hlen, hfront (by decide), hdefect⟩

end Program

end Extraction
