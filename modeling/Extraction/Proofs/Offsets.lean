import Extraction.Proofs.Bytecode

/-!
# Reading by offsets

Bytecode can also be read without taking it apart: `decodeAt` looks at the bytes of one buffer at
offsets, and gives the offset of the next instruction.  All of its accesses are checked against the
buffer, so it says itself whether one of them would lie outside.  None does (`decodeAt_eq`), and
`decodeAt` agrees with reading from the front of what is left.

From what one instruction takes (`Takes`, at least two bytes of those that are there) follows that
a limited number of turns is enough for any bytes, and that the instructions of a program share its
bytes among themselves.
-/

namespace Extraction

open Extraction.Text

theorem Text.Utf8.length_encode (s : String) : (encode s).length = size s := by
  rw [encode, size]
  induction s.toList with
  | nil => rfl
  | cons c cs ih =>
      rw [encodeChars, List.flatMap_cons, List.length_append, String.length_utf8EncodeChar,
        List.map_cons, List.foldr_cons, ← ih]
      rfl

/-- The size is counted without writing the bytes. -/
theorem Instruction.length_encode (i : Instruction) : i.encode.length = i.size := by
  have hargs : (encodeArgs i.args).length =
      (i.args.map fun a => Utf8.size a + 1).foldr (· + ·) 0 := by
    induction i.args with
    | nil => rfl
    | cons a args ih =>
        rw [encodeArgs_cons, List.length_append, List.length_cons, Utf8.length_encode, ih,
          List.map_cons, List.foldr_cons]
        omega
  rw [encode, size, List.length_append, List.length_cons, hargs, List.length_singleton]
  omega

namespace Program

/-! ## Accesses -/

/-- The bytes from one offset up to another, if all of them are there. -/
def slice? (bytes : List UInt8) (first last : Nat) : Option (List UInt8) :=
  if first ≤ last ∧ last ≤ bytes.length then some ((bytes.take last).drop first) else none

/-- The offset of the first two nulls in a row. -/
def terminator? (bytes : List UInt8) : Option Nat :=
  (bytes.zip bytes.tail).findIdx? fun p => p.1 = 0 ∧ p.2 = 0

/-- A null at the very end is dropped, but not more than one. -/
def dropNull (bytes : List UInt8) : List UInt8 :=
  if bytes.getLast? = some 0 then bytes.dropLast else bytes

/-- The bytes of the arguments of the instruction at an offset, and the offset behind it. -/
def bodyAt? (bytes : List UInt8) (offset : Nat) : Option (List UInt8 × Nat) := do
  let behind ← slice? bytes (offset + 1) bytes.length
  match terminator? behind with
  | some last => return (← slice? behind 0 last, offset + 1 + last + 2)
  | none => return (dropNull behind, bytes.length)

/-- The instruction at an offset, and the offset behind it.  Gives nothing if it would look outside
of the buffer. -/
def decodeAt (bytes : List UInt8) (offset : Nat) :
    Option (Except LoadError (Instruction × Nat)) := do
  let opcode ← bytes[offset]?
  match Directive.ofOpcode? opcode with
  | none => return .error (.unknownOpcode offset opcode)
  | some directive =>
    let (body, next) ← bodyAt? bytes offset
    if body.isEmpty then return .error (.emptyInstruction offset)
    else return (decodeArgs offset (splitOn 0 body)).map fun args => (⟨directive, args⟩, next)

theorem slice?_of_le {bytes : List UInt8} {first last : Nat} (h : first ≤ last)
    (hl : last ≤ bytes.length) : slice? bytes first last = some ((bytes.take last).drop first) :=
  if_pos ⟨h, hl⟩

theorem terminator?_cons_cons (b c : UInt8) (bytes : List UInt8) :
    terminator? (b :: c :: bytes) =
      if b = 0 ∧ c = 0 then some 0 else (terminator? (c :: bytes)).map (· + 1) := by
  simp [terminator?, List.findIdx?_cons]

theorem lt_length_of_terminator? {bytes : List UInt8} {last : Nat}
    (h : terminator? bytes = some last) : last + 2 ≤ bytes.length := by
  have hlt := (List.findIdx?_eq_some_iff_findIdx_eq.1 h).1
  rw [List.length_zip, List.length_tail] at hlt
  omega

theorem dropNull_cons_cons (b c : UInt8) (bytes : List UInt8) :
    dropNull (b :: c :: bytes) = b :: dropNull (c :: bytes) := by
  rw [dropNull, dropNull, List.getLast?_cons_cons, List.dropLast_cons_cons]
  split <;> rfl

/-- Where two nulls are found first, or else at the end, is where an instruction is split off. -/
theorem splitBody_eq (bytes : List UInt8) :
    splitBody bytes =
      match terminator? bytes with
      | some last => (bytes.take last, bytes.drop (last + 2))
      | none => (dropNull bytes, []) := by
  fun_induction splitBody bytes with
  | case1 => rfl
  | case2 => rfl
  | case3 => simp [terminator?_cons_cons]
  | case4 b bytes h₁ h₂ body rest h ih =>
      rw [h] at ih
      cases bytes with
      | nil =>
          have hb : b ≠ 0 := fun hb => h₁ hb rfl
          cases h
          simp [terminator?, dropNull, hb]
      | cons c bytes =>
          have hbc : ¬ (b = 0 ∧ c = 0) := fun hbc => h₂ bytes hbc.1 (by rw [hbc.2])
          rw [terminator?_cons_cons, if_neg hbc]
          cases ht : terminator? (c :: bytes) with
          | none =>
              rw [ht] at ih
              obtain ⟨rfl, rfl⟩ := Prod.mk.inj ih
              rw [Option.map_none, dropNull_cons_cons]
          | some last =>
              rw [ht] at ih
              obtain ⟨rfl, rfl⟩ := Prod.mk.inj ih
              rfl

variable {bytes : List UInt8} {offset next : Nat} {i : Instruction}

theorem bodyAt?_eq (h : offset < bytes.length) :
    bodyAt? bytes offset = some ((splitBody (bytes.drop (offset + 1))).1,
      bytes.length - (splitBody (bytes.drop (offset + 1))).2.length) := by
  have hbehind : slice? bytes (offset + 1) bytes.length = some (bytes.drop (offset + 1)) := by
    rw [slice?_of_le h le_rfl, List.take_length]
  rw [bodyAt?, hbehind, splitBody_eq]
  simp only [Option.bind_eq_bind, Option.bind_some]
  cases ht : terminator? (bytes.drop (offset + 1)) with
  | none => rfl
  | some last =>
      have hl := lt_length_of_terminator? ht
      have hbody := slice?_of_le (Nat.zero_le last) (Nat.le_of_add_right_le hl)
      have hnext : offset + 1 + last + 2 =
          bytes.length - ((bytes.drop (offset + 1)).drop (last + 2)).length := by
        rw [List.length_drop] at hl
        rw [List.length_drop, List.length_drop]
        omega
      simp only [hbody, Option.bind_some, List.drop_zero, hnext]
      rfl

/-- No access lies outside, and what is found is what is read from the front of the bytes at the
offset. -/
theorem decodeAt_eq (h : offset < bytes.length) :
    decodeAt bytes offset =
      some ((decodeInstruction offset bytes[offset] (bytes.drop (offset + 1))).map fun p =>
        (p.1, bytes.length - p.2.length)) := by
  rw [decodeAt, List.getElem?_eq_getElem h, decodeInstruction, bodyAt?_eq h]
  simp only [Option.bind_eq_bind, Option.bind_some]
  cases Directive.ofOpcode? bytes[offset] with
  | none => rfl
  | some directive =>
      simp only
      split
      case isTrue => rfl
      case isFalse =>
        cases decodeArgs offset (splitOn 0 (splitBody (bytes.drop (offset + 1))).1) <;> rfl

/-- What is left behind an instruction is the end of the buffer, and at least one byte shorter than
what stood behind the opcode. -/
theorem rest_of_decodeInstruction {opcode : UInt8} {bytes rest : List UInt8}
    (h : decodeInstruction offset opcode bytes = .ok (i, rest)) :
    rest <:+ bytes ∧ rest.length < bytes.length := by
  obtain ⟨-, body, hb, hne, -⟩ := decodeInstruction_eq_ok_iff_body.1 h
  obtain ⟨-, k, hk, hbytes, hr⟩ := splitBody_eq_iff.1 hb
  have hpos := List.length_pos_of_ne_nil hne
  have hlen := congrArg List.length hbytes
  simp only [List.length_append, List.length_replicate, List.length_cons] at hlen
  refine ⟨?_, by omega⟩
  obtain rfl | rfl := hr
  · rw [List.replicate_zero, List.append_nil] at hbytes
    exact ⟨body ++ [0, 0], by rw [hbytes]; simp⟩
  · exact List.nil_suffix

theorem decodeAt_eq_ok_iff (h : offset < bytes.length) :
    decodeAt bytes offset = some (.ok (i, next)) ↔ next ≤ bytes.length ∧
      decodeInstruction offset bytes[offset] (bytes.drop (offset + 1)) =
        .ok (i, bytes.drop next) := by
  rw [decodeAt_eq h, Option.some.injEq, map_eq_ok_iff]
  constructor
  · rintro ⟨⟨_, rest⟩, hd, hi⟩
    obtain ⟨rfl, rfl⟩ := Prod.mk.inj hi
    have hrest := (rest_of_decodeInstruction hd).1.trans (List.drop_suffix _ _)
    exact ⟨Nat.sub_le _ _, by rw [← List.suffix_iff_eq_drop.1 hrest]; exact hd⟩
  · rintro ⟨hn, hd⟩
    refine ⟨_, hd, ?_⟩
    rw [List.length_drop, Nat.sub_sub_self hn]

theorem lt_of_decodeAt {r : Except LoadError (Instruction × Nat)}
    (h : decodeAt bytes offset = some r) : offset < bytes.length := by
  by_contra hn
  rw [decodeAt, List.getElem?_eq_none (not_lt.1 hn)] at h
  cases h

/-! ## One instruction -/

/-- An instruction is read from its own bytes, whatever stands in front of and behind them. -/
theorem decodeAt_encode (h : Framed i.args) (front behind : List UInt8) :
    decodeAt (front ++ i.encode ++ behind) front.length =
        some (.ok (i, front.length + i.size)) ∧
      decodeInstruction front.length i.opcode (i.encode.tail ++ behind) = .ok (i, behind) ∧
      i.size = i.encode.length := by
  have hread : decodeInstruction front.length i.opcode (i.encode.tail ++ behind) =
      .ok (i, behind) :=
    decodeInstruction_eq_ok_iff.2
      ⟨rfl, h, 0, by decide, by simp [Instruction.encode], .inl rfl⟩
  refine ⟨?_, hread, i.length_encode.symm⟩
  have hlt : front.length < (front ++ i.encode ++ behind).length := by
    simp [Instruction.encode]
  have hopcode : (front ++ i.encode ++ behind)[front.length] = i.opcode := by
    simp [Instruction.encode]
  have hargs : (front ++ i.encode ++ behind).drop (front.length + 1) = i.encode.tail ++ behind := by
    rw [← List.drop_drop, List.append_assoc, List.drop_left]
    simp [Instruction.encode]
  rw [decodeAt_eq_ok_iff hlt, hopcode, hargs, ← i.length_encode, ← List.length_append,
    List.drop_left]
  exact ⟨by simp, hread⟩

/-- A null as the opcode, nulls around an empty first argument, and more of them behind. -/
theorem decodeAt_encode_among_nulls :
    let i : Instruction := ⟨.bundle, ["", "€"]⟩
    Framed i.args ∧ i.encode = [0, 0, 0xE2, 0x82, 0xAC, 0, 0] ∧
      decodeAt ([97, 0] ++ i.encode ++ [0, 0, 42]) 2 = some (.ok (i, 2 + 7)) ∧
      decodeInstruction 2 0 (i.encode.tail ++ [0, 0, 42]) = .ok (i, [0, 0, 42]) := by
  have hf : Framed (Instruction.mk .bundle ["", "€"]).args :=
    ⟨by decide, by decide, by decide, by decide⟩
  obtain ⟨hat, hread, -⟩ := decodeAt_encode hf [97, 0] [0, 0, 42]
  exact ⟨hf, by decide, hat, hread⟩

/-- What reading an instruction takes from a buffer: at least two of the bytes that are there, and
no others than those of the instruction, of which some nulls may lack at the very end. -/
structure Takes (bytes : List UInt8) (offset : Nat) (i : Instruction) (next : Nat) : Prop where
  progress : offset + 2 ≤ next
  inside : next ≤ bytes.length
  args_ne_nil : i.args ≠ []
  no_null : ∀ a ∈ i.args, '\x00' ∉ a.toList
  encode_eq : ∃ k ≤ 2, i.encode = (bytes.take next).drop offset ++ List.replicate k 0 ∧
    (0 < k → next = bytes.length)

theorem takes_of_decodeAt (h : decodeAt bytes offset = some (.ok (i, next))) :
    Takes bytes offset i next := by
  have ho := lt_of_decodeAt h
  obtain ⟨hn, hd⟩ := (decodeAt_eq_ok_iff ho).1 h
  obtain ⟨hi, hf, k, hk, hb, hr⟩ := decodeInstruction_eq_ok_iff.1 hd
  have hlt := (rest_of_decodeInstruction hd).2
  simp only [List.length_drop] at hlt
  refine ⟨by omega, hn, hf.ne_nil, hf.no_null, k, hk, ?_, ?_⟩
  · have hmid : bytes.drop offset = (bytes.take next).drop offset ++ bytes.drop next := by
      rw [← List.drop_append_of_le_length (by rw [List.length_take]; omega), List.take_append_drop]
    rw [← List.drop_eq_getElem_cons, hmid] at hb
    obtain rfl | hnil := hr
    · rw [List.replicate_zero, List.append_nil] at hb ⊢
      exact (List.append_cancel_right hb).symm
    · rw [hnil, List.append_nil, List.append_nil] at hb
      exact hb.symm
  · intro hpos
    have hnil := hr.resolve_left (Nat.ne_of_gt hpos)
    exact le_antisymm hn (List.drop_eq_nil_iff.1 hnil)

/-! ## All instructions -/

/-- The instructions from an offset to the end of the buffer.  Gives nothing if it takes more turns
than there are, or looks outside. -/
def decodeWithin (bytes : List UInt8) (turns offset : Nat) :
    Option (Except LoadError (List Instruction)) :=
  if offset < bytes.length then
    match turns with
    | 0 => none
    | turns + 1 => do
      match ← decodeAt bytes offset with
      | .error e => return .error e
      | .ok (i, next) => return (← decodeWithin bytes turns next).map (i :: ·)
  else some (.ok [])

/-- Loading, with so many turns for the instructions behind the header. -/
def loadWithin (turns : Nat) (bytes : List UInt8) : Option (Except LoadError Program) :=
  if bytes.take signature.length ≠ signature then some (.error .signature)
  else
    match readVersion bytes with
    | .error e => some (.error e)
    | .ok version => do
      match ← decodeAt bytes 0 with
      | .error e => return .error e
      | .ok (header, offset) =>
        return (← decodeWithin bytes turns offset).map fun is => ⟨version, header.args, is⟩

/-- Reading on at the offset behind an instruction is reading what is left. -/
theorem decodeAll_drop (h : offset < bytes.length) :
    (∃ e, decodeAt bytes offset = some (.error e) ∧
      decodeAll offset (bytes.drop offset) = .error e) ∨
    ∃ i next, decodeAt bytes offset = some (.ok (i, next)) ∧
      decodeAll offset (bytes.drop offset) =
        (decodeAll next (bytes.drop next)).map (i :: ·) := by
  rw [decodeAt_eq h, List.drop_eq_getElem_cons h, decodeAll_cons]
  cases hd : decodeInstruction offset bytes[offset] (bytes.drop (offset + 1)) with
  | error e => exact .inl ⟨e, rfl, rfl⟩
  | ok p =>
      obtain ⟨i, rest⟩ := p
      obtain ⟨hsuffix, hlt⟩ := rest_of_decodeInstruction hd
      have hrest := List.suffix_iff_eq_drop.1 (hsuffix.trans (List.drop_suffix _ _))
      have hnext : offset + 1 + ((bytes.drop (offset + 1)).length - rest.length) =
          bytes.length - rest.length := by
        rw [List.length_drop] at hlt ⊢
        omega
      refine .inr ⟨i, bytes.length - rest.length, rfl, ?_⟩
      simp only [hnext, ← hrest]

/-- Every turn takes two bytes or more. -/
theorem decodeWithin_eq {turns : Nat} (h : bytes.length ≤ offset + 2 * turns) :
    decodeWithin bytes turns offset = some (decodeAll offset (bytes.drop offset)) := by
  induction turns generalizing offset with
  | zero =>
      have hend : bytes.length ≤ offset := h
      rw [decodeWithin, if_neg (not_lt.2 hend), List.drop_eq_nil_of_le hend, decodeAll_nil]
  | succ turns ih =>
      rw [decodeWithin]
      split
      case isFalse hend => rw [List.drop_eq_nil_of_le (not_lt.1 hend), decodeAll_nil]
      case isTrue hlt =>
        obtain ⟨e, hd, hall⟩ | ⟨i, next, hd, hall⟩ := decodeAll_drop hlt
        · rw [hd, hall]
          rfl
        · have hprogress := (takes_of_decodeAt hd).progress
          have hmore := ih (by omega : bytes.length ≤ next + 2 * turns)
          rw [hd, hall]
          simp only [Option.bind_eq_bind, Option.bind_some, hmore]
          rfl

/-- The header takes two bytes, too. -/
theorem loadWithin_eq {turns : Nat} (h : bytes.length ≤ 2 * turns + 2) :
    loadWithin turns bytes = some (load bytes) := by
  unfold loadWithin load
  split
  case isTrue => rfl
  case isFalse hs =>
    cases readVersion bytes with
    | error e => rfl
    | ok version =>
        have hlt : 0 < bytes.length := by
          refine List.length_pos_of_ne_nil ?_
          rintro rfl
          exact hs (by decide)
        obtain ⟨e, hd, hall⟩ | ⟨i, next, hd, hall⟩ := decodeAll_drop hlt
        · rw [List.drop_zero] at hall
          simp only [hd, hall]
          rfl
        · have hprogress := (takes_of_decodeAt hd).progress
          have hmore := decodeWithin_eq (by omega : bytes.length ≤ next + 2 * turns)
          rw [List.drop_zero] at hall
          simp only [hd, hall, Option.bind_eq_bind, Option.bind_some, hmore]
          cases decodeAll next (bytes.drop next) <;> rfl

/-! ## Shares of a buffer -/

/-- Where each of the instructions begins that share a buffer among themselves; the last one ends
where the buffer does. -/
structure Shares (bytes : List UInt8) (is : List Instruction) (start : Nat → Nat) : Prop where
  last : start is.length = bytes.length
  decodeAt_eq : ∀ (n : Nat) (h : n < is.length),
    decodeAt bytes (start n) = some (.ok (is[n], start (n + 1)))

theorem exists_shares {is : List Instruction} (ho : offset ≤ bytes.length)
    (h : decodeAll offset (bytes.drop offset) = .ok is) :
    ∃ start, start 0 = offset ∧ Shares bytes is start := by
  induction is generalizing offset with
  | nil =>
      obtain hlt | rfl := Nat.lt_or_eq_of_le ho
      · obtain ⟨e, -, hall⟩ | ⟨i, next, -, hall⟩ := decodeAll_drop hlt
        · rw [h] at hall
          cases hall
        · obtain ⟨is, -, his⟩ := map_eq_ok_iff.1 (hall.symm.trans h)
          cases his
      · exact ⟨fun _ => bytes.length, rfl, rfl, fun n hn => absurd hn (Nat.not_lt_zero n)⟩
  | cons i is ih =>
      obtain hlt | rfl := Nat.lt_or_eq_of_le ho
      · obtain ⟨e, -, hall⟩ | ⟨j, next, hd, hall⟩ := decodeAll_drop hlt
        · rw [h] at hall
          cases hall
        · obtain ⟨js, hjs, hcons⟩ := map_eq_ok_iff.1 (hall.symm.trans h)
          obtain ⟨rfl, rfl⟩ := List.cons.inj hcons
          obtain ⟨start, rfl, hs⟩ := ih (takes_of_decodeAt hd).inside hjs
          refine ⟨fun n => n.casesOn offset start, rfl, hs.last, fun n hn => ?_⟩
          cases n with
          | zero => exact hd
          | succ n => exact hs.decodeAt_eq n (Nat.lt_of_succ_lt_succ hn)
      · rw [List.drop_length, decodeAll_nil] at h
        cases h

theorem le_of_increasing {start : Nat → Nat} {j n : Nat} (h : ∀ k < n, start k < start (k + 1))
    (hj : j ≤ n) : start j ≤ start n := by
  induction hj with
  | refl => exact le_rfl
  | step _ ih =>
      exact (ih fun k hk => h k (Nat.lt_succ_of_lt hk)).trans (h _ (Nat.lt_succ_self _)).le

/-- Increasing offsets divide what lies between the first and the last of them. -/
theorem existsUnique_between {start : Nat → Nat} {n place : Nat}
    (h : ∀ k < n, start k < start (k + 1)) (hfirst : start 0 ≤ place) (hlast : place < start n) :
    ∃! k, k < n ∧ start k ≤ place ∧ place < start (k + 1) := by
  induction n with
  | zero => exact absurd hlast (not_lt.2 hfirst)
  | succ n ih =>
      have hn (k : Nat) (hk : k < n) : start k < start (k + 1) := h k (Nat.lt_succ_of_lt hk)
      obtain hlt | hle := Nat.lt_or_ge place (start n)
      · obtain ⟨k, ⟨hk, hplace⟩, hunique⟩ := ih hn hlt
        refine ⟨k, ⟨Nat.lt_succ_of_lt hk, hplace⟩, ?_⟩
        rintro m ⟨hm, hm'⟩
        obtain hm | rfl := Nat.lt_succ_iff_lt_or_eq.1 hm
        · exact hunique m ⟨hm, hm'⟩
        · exact absurd hm'.1 (not_le.2 hlt)
      · refine ⟨n, ⟨Nat.lt_succ_self n, hle, hlast⟩, ?_⟩
        rintro m ⟨hm, -, hplace⟩
        obtain hm | rfl := Nat.lt_succ_iff_lt_or_eq.1 hm
        · exact absurd (hle.trans_lt hplace) (not_lt.2 (le_of_increasing hn hm))
        · rfl

/-! ## Any bytes -/

/-- Reading an instruction looks at nothing outside of the buffer and makes progress, whatever the
bytes are.  So they are loaded in a limited number of turns, and the instructions of a program share
them: every byte belongs to one of these. -/
theorem decodeAt_progress (bytes : List UInt8) :
    (∀ (offset : Nat) (h : offset < bytes.length),
      decodeAt bytes offset =
        some ((decodeInstruction offset bytes[offset] (bytes.drop (offset + 1))).map fun p =>
          (p.1, bytes.length - p.2.length)) ∧
      ∀ i next, decodeAt bytes offset = some (.ok (i, next)) → Takes bytes offset i next) ∧
    (∀ turns, bytes.length ≤ 2 * turns + 2 → loadWithin turns bytes = some (load bytes)) ∧
    ∀ p, load bytes = .ok p →
      ∃ start, start 0 = 0 ∧ Shares bytes (p.header :: p.instructions) start ∧
        ∀ place < bytes.length, ∃! n, n < p.size + 1 ∧ start n ≤ place ∧ place < start (n + 1) := by
  refine ⟨fun offset h => ⟨decodeAt_eq h, fun i next => takes_of_decodeAt⟩,
    fun turns => loadWithin_eq, fun p hp => ?_⟩
  obtain ⟨-, -, hall⟩ := load_eq_ok_iff_decodeAll.1 hp
  obtain ⟨start, hfirst, hs⟩ := exists_shares (Nat.zero_le _) (by rwa [List.drop_zero])
  refine ⟨start, hfirst, hs, fun place hplace => ?_⟩
  refine existsUnique_between (fun n hn => ?_) (by rw [hfirst]; exact Nat.zero_le place) ?_
  · have htakes := takes_of_decodeAt (hs.decodeAt_eq n hn)
    exact lt_of_lt_of_le (Nat.lt_add_of_pos_right (by decide)) htakes.progress
  · rw [← hs.last] at hplace
    exact hplace

/-- A last instruction of two bytes, without nulls at its end. -/
theorem decodeAt_progress_unterminated :
    let bytes := [8, 118, 105, 118, 105, 100, 0, 49, 46, 48, 0, 0, 4, 97]
    let i : Instruction := ⟨.glue, ["a"]⟩
    let p : Program := ⟨1.0, ["vivid", "1.0"], [i]⟩
    decodeAt bytes 12 = some (.ok (i, 14)) ∧ Takes bytes 12 i 14 ∧
      loadWithin 6 bytes = some (load bytes) ∧ load bytes = .ok p ∧
      ∃ start, start 0 = 0 ∧ Shares bytes [p.header, i] start ∧
        ∃! n, n < 2 ∧ start n ≤ 13 ∧ 13 < start (n + 1) := by
  intro bytes i p
  have hat : decodeAt bytes 12 = some (.ok (i, 14)) := by decide +kernel
  have hload : load bytes = .ok p :=
    load_eq_ok_iff_decodeAll.2 ⟨by decide, by decide +kernel, by decide +kernel⟩
  obtain ⟨hreads, hturns, hshares⟩ := decodeAt_progress bytes
  obtain ⟨start, hfirst, hs, hunique⟩ := hshares p hload
  exact ⟨hat, (hreads 12 (by decide)).2 i 14 hat, hturns 6 (by decide), hload,
    start, hfirst, hs, hunique 13 (by decide)⟩

end Program

end Extraction
