import Extraction.Proofs.Framing
import Mathlib.Data.List.DropRight

/-!
# Loading what was written

A program is loaded from its own bytes exactly if it is `Loadable`, and bytes are loaded exactly
if they are those of such a program, up to nulls at the very end.  Signature and version are read
at fixed places, apart from the framing; that they do not depend on the nulls at the end is what
ties the two readings together.
-/

namespace Extraction

open Extraction.Text

/-! ## Finite doubles -/

open Float.Model in
theorem compare_swap {x y : UnpackedFloat} (hx : x.isFinite) (hy : y.isFinite) :
    ∃ o, x.compare y = some o ∧ y.compare x = some o.swap := by
  cases x with
  | notANumber => cases hx
  | infinity => cases hx
  | zero s =>
      cases y with
      | notANumber => cases hy
      | infinity => cases hy
      | zero t => exact ⟨.eq, rfl, rfl⟩
      | finite t => cases t <;> exact ⟨_, rfl, rfl⟩
  | finite s m e =>
      cases y with
      | notANumber => cases hy
      | infinity => cases hy
      | zero t => cases s <;> exact ⟨_, rfl, rfl⟩
      | finite t m' e' =>
          have hs : (compare e' e).then (compare m' m) =
              ((compare e e').then (compare m m')).swap := by
            rw [Ordering.swap_then, Int.compare_swap, Nat.compare_swap]
          cases s <;> cases t
          · exact ⟨_, rfl, congrArg (fun o => some (Ordering.swap o)) hs⟩
          · exact ⟨_, rfl, rfl⟩
          · exact ⟨_, rfl, rfl⟩
          · exact ⟨_, rfl, congrArg some hs⟩

/-- Comparing finite doubles is total. -/
theorem le_iff_not_lt {x y : Float} (hx : x.isFinite) (hy : y.isFinite) : x ≤ y ↔ ¬ y < x := by
  obtain ⟨o, h₁, h₂⟩ := compare_swap hx hy
  have hle : x ≤ y ↔ o.isLE := by
    change decide (x.toModel.unpack.le y.toModel.unpack = true) = true ↔ _
    rw [decide_eq_true_eq, Float.Model.UnpackedFloat.le, h₁]
    rfl
  have hlt : y < x ↔ o.swap = .lt := by
    change decide (y.toModel.unpack.lt x.toModel.unpack = true) = true ↔ _
    rw [decide_eq_true_eq, Float.Model.UnpackedFloat.lt, h₂]
    simp
  rw [hle, hlt]
  cases o <;> decide

/-! ## Signature and version -/

/-- A null ends whatever holds none. -/
theorem prefix_append_null_iff {front bytes rest : List UInt8} (h : 0 ∉ front) :
    front <+: bytes ++ 0 :: rest ↔ front <+: bytes := by
  induction front generalizing bytes with
  | nil => exact iff_of_true List.nil_prefix List.nil_prefix
  | cons b front ih =>
      rw [List.mem_cons, not_or] at h
      cases bytes with
      | nil => simp [List.cons_prefix_cons, Ne.symm h.1]
      | cons c bytes => rw [List.cons_append, List.cons_prefix_cons, List.cons_prefix_cons, ih h.2]

namespace Text.Utf8

theorem encodeChar_append_inj {c d : Char} {xs ys : List UInt8}
    (h : String.utf8EncodeChar c ++ xs = String.utf8EncodeChar d ++ ys) : c = d ∧ xs = ys := by
  obtain ⟨b, bs, hc⟩ := exists_bytes c
  obtain ⟨b', bs', hd⟩ := exists_bytes d
  have hcd : c = d := by
    rw [hc.encodeChar_eq, hd.encodeChar_eq, List.cons_append, List.cons_append] at h
    obtain ⟨rfl, hs⟩ := List.cons.inj h
    have hhead := hc.head_eq xs
    rw [hs, hd.head_eq] at hhead
    exact (Head.char.inj hhead).1.symm
  subst hcd
  exact ⟨rfl, List.append_cancel_left h⟩

theorem encodeChars_prefix_iff {cs ds : List Char} :
    encodeChars cs <+: encodeChars ds ↔ cs <+: ds := by
  induction cs generalizing ds with
  | nil => exact iff_of_true List.nil_prefix List.nil_prefix
  | cons c cs ih =>
      cases ds with
      | nil =>
          obtain ⟨b, bs, hc⟩ := exists_bytes c
          simp [encodeChars, hc.encodeChar_eq]
      | cons d ds =>
          simp only [encodeChars, List.flatMap_cons, List.cons_prefix_cons]
          rw [← encodeChars, ← encodeChars, ← ih]
          constructor
          · rintro ⟨rest, h⟩
            rw [List.append_assoc] at h
            obtain ⟨rfl, hrest⟩ := encodeChar_append_inj h
            exact ⟨rfl, rest, hrest⟩
          · rintro ⟨rfl, h⟩
            exact (List.prefix_append_right_inj _).2 h

end Text.Utf8

namespace Program

theorem readVersion_eq_ok_iff {bytes : List UInt8} {v : Float} :
    readVersion bytes = .ok v ↔
      Decimal.read? (versionText bytes) = some v ∧ v.isFinite ∧ v ≤ 1.0 := by
  unfold readVersion
  simp only
  split
  case h_1 hr =>
    rw [hr]
    exact iff_of_false nofun nofun
  case h_2 w hr =>
    rw [hr, Option.some.injEq]
    split
    case isTrue hf =>
      have hle : w ≤ 1.0 ↔ ¬ supportedVersion < w := le_iff_not_lt hf (by decide +kernel)
      split
      case isTrue hlt =>
        refine iff_of_false nofun ?_
        rintro ⟨rfl, -, h⟩
        exact hle.1 h hlt
      case isFalse hlt =>
        rw [Except.ok.injEq]
        refine ⟨?_, And.left⟩
        rintro rfl
        exact ⟨rfl, hf, hle.2 hlt⟩
    case isFalse hf =>
      refine iff_of_false nofun ?_
      rintro ⟨rfl, h, -⟩
      exact hf h

theorem readVersion_error {bytes : List UInt8} {e : LoadError} (h : readVersion bytes = .error e) :
    (∃ t, e = .invalidVersion t) ∨ ∃ t, e = .unsupportedVersion t := by
  unfold readVersion at h
  simp only at h
  split at h
  case h_1 => exact .inl ⟨_, (Except.error.inj h).symm⟩
  case h_2 =>
    split at h
    case isTrue =>
      split at h
      case isTrue => exact .inr ⟨_, (Except.error.inj h).symm⟩
      case isFalse => cases h
    case isFalse => exact .inl ⟨_, (Except.error.inj h).symm⟩

theorem takeWhile_append_nulls (bytes : List UInt8) (k : Nat) :
    (bytes ++ List.replicate k 0).takeWhile (fun b => b ≠ 0) = bytes.takeWhile fun b => b ≠ 0 := by
  induction bytes with
  | nil => cases k <;> rfl
  | cons b bytes ih => rw [List.cons_append, List.takeWhile_cons, List.takeWhile_cons, ih]

/-- Nulls at the end change nothing, as the version ends at a null. -/
theorem versionText_append_nulls (bytes : List UInt8) (k : Nat) :
    versionText (bytes ++ List.replicate k 0) = versionText bytes := by
  unfold versionText
  rw [List.drop_append, List.take_append, List.drop_replicate, List.take_replicate,
    takeWhile_append_nulls]

theorem readVersion_append_nulls (bytes : List UInt8) (k : Nat) :
    readVersion (bytes ++ List.replicate k 0) = readVersion bytes := by
  rw [readVersion, readVersion, versionText_append_nulls]

theorem signature_prefix_append_nulls (bytes : List UInt8) (k : Nat) :
    signature <+: bytes ++ List.replicate k 0 ↔ signature <+: bytes := by
  cases k with
  | zero => rw [List.replicate_zero, List.append_nil]
  | succ k => exact prefix_append_null_iff (by decide)

/-! ## Programs -/

theorem toBytes_eq_flatMap (p : Program) :
    p.toBytes = (p.header :: p.instructions).flatMap Instruction.encode := rfl

/-- A program that its bytes describe in full.  The version in the bytes is compared with that of
the program by `same`. -/
structure Loadable (same : Float → Float → Prop) (p : Program) : Prop where
  layout : Framed p.layout
  instructions : ∀ i ∈ p.instructions, Framed i.args
  name : ∃ a ∈ p.layout.head?, "vivid".toList <+: a.toList
  version : ∃ v, Decimal.read? (versionText p.toBytes) = some v ∧ v.isFinite ∧ v ≤ 1.0 ∧
    same v p.version

theorem toBytes_eq_cons {p : Program} {a : String} {as : List String} (h : p.layout = a :: as) :
    p.toBytes = 8 :: (Utf8.encode a ++ 0 :: (Instruction.encodeArgs as ++
      0 :: p.instructions.flatMap Instruction.encode)) := by
  rw [toBytes, header, h, Instruction.encode, Instruction.encodeArgs_cons]
  simp [Instruction.opcode, Directive.opcode]

theorem signature_prefix_toBytes_iff {p : Program} (h : Framed p.layout) :
    signature <+: p.toBytes ↔ ∃ a ∈ p.layout.head?, "vivid".toList <+: a.toList := by
  obtain ⟨a, as, ha⟩ := List.exists_cons_of_ne_nil h.ne_nil
  have hs : signature = 8 :: Utf8.encode "vivid" := rfl
  rw [toBytes_eq_cons ha, hs, List.cons_prefix_cons, prefix_append_null_iff (by decide),
    Utf8.encode, Utf8.encode, Utf8.encodeChars_prefix_iff, ha]
  simp

theorem loadable_iff {p : Program} :
    p.Loadable (· = ·) ↔ (∀ i ∈ p.header :: p.instructions, Framed i.args) ∧
      signature <+: p.toBytes ∧ readVersion p.toBytes = .ok p.version := by
  rw [List.forall_mem_cons, readVersion_eq_ok_iff]
  constructor
  · rintro ⟨hl, hi, hn, v, hv, hf, hle, rfl⟩
    exact ⟨⟨hl, hi⟩, (signature_prefix_toBytes_iff hl).2 hn, hv, hf, hle⟩
  · rintro ⟨⟨hl, hi⟩, hs, hv, hf, hle⟩
    exact ⟨hl, hi, (signature_prefix_toBytes_iff hl).1 hs, _, hv, hf, hle, rfl⟩

/-- The signature starts with the opcode of `layout`. -/
theorem exists_header {bytes : List UInt8} {is : List Instruction} (hs : signature <+: bytes)
    (h : decodeAll 0 bytes = .ok is) : ∃ args is', is = ⟨.layout, args⟩ :: is' := by
  obtain ⟨-, k, -, hb⟩ := decodeAll_eq_ok_iff.1 h
  obtain ⟨rest, rfl⟩ := hs
  cases is with
  | nil => cases hb
  | cons i is =>
      obtain ⟨d, args⟩ := i
      obtain rfl : Directive.layout = d := Directive.opcode_injective (List.cons.inj hb).1
      exact ⟨args, is, rfl⟩

theorem load_eq_ok_iff_decodeAll {bytes : List UInt8} {p : Program} :
    load bytes = .ok p ↔ signature <+: bytes ∧ readVersion bytes = .ok p.version ∧
      decodeAll 0 bytes = .ok (p.header :: p.instructions) := by
  unfold load
  have hs : bytes.take signature.length = signature ↔ signature <+: bytes := by
    rw [List.prefix_iff_eq_take]
    exact eq_comm
  split
  case isTrue h => exact iff_of_false nofun fun hp => h (hs.2 hp.1)
  case isFalse h =>
    have hp := hs.1 (Decidable.not_not.1 h)
    cases hv : readVersion bytes with
    | error e => exact iff_of_false nofun fun h => absurd h.2.1 nofun
    | ok v =>
        cases hd : decodeAll 0 bytes with
        | error e => exact iff_of_false nofun fun h => absurd h.2.2 nofun
        | ok is =>
            obtain ⟨args, is, rfl⟩ := exists_header hp hd
            obtain ⟨version, layout, instructions⟩ := p
            simp [hp, header]

/-- Loading fails at the signature, at the version, or at an instruction. -/
theorem load_error_cases {bytes : List UInt8} {e : LoadError} (h : load bytes = .error e) :
    e = .signature ∨ (∃ t, e = .invalidVersion t) ∨ (∃ t, e = .unsupportedVersion t) ∨
      signature <+: bytes ∧ (∃ v, readVersion bytes = .ok v) ∧ decodeAll 0 bytes = .error e := by
  unfold load at h
  split at h
  case isTrue => exact .inl (Except.error.inj h).symm
  case isFalse hs =>
    rw [ne_eq, not_not] at hs
    cases hv : readVersion bytes with
    | error e' =>
        rw [hv] at h
        obtain rfl := Except.error.inj h
        exact .inr ((readVersion_error hv).imp_right .inl)
    | ok v =>
        cases hd : decodeAll 0 bytes with
        | error e' =>
            rw [hv, hd] at h
            obtain rfl := Except.error.inj h
            exact .inr (.inr (.inr ⟨List.prefix_iff_eq_take.2 hs.symm, ⟨v, rfl⟩, rfl⟩))
        | ok is =>
            rw [hv, hd] at h
            cases h

theorem load_eq_ok_iff {bytes : List UInt8} {p : Program} :
    load bytes = .ok p ↔
      p.Loadable (· = ·) ∧ ∃ k ≤ 2, bytes ++ List.replicate k 0 = p.toBytes := by
  rw [load_eq_ok_iff_decodeAll, decodeAll_eq_ok_iff, loadable_iff]
  constructor
  · rintro ⟨hs, hv, hf, k, hk, hb⟩
    refine ⟨⟨hf, ?_, ?_⟩, k, hk, hb⟩
    · rw [toBytes_eq_flatMap, ← hb, signature_prefix_append_nulls]
      exact hs
    · rw [toBytes_eq_flatMap, ← hb, readVersion_append_nulls]
      exact hv
  · rintro ⟨⟨hf, hs, hv⟩, k, hk, hb⟩
    rw [← hb, signature_prefix_append_nulls] at hs
    rw [← hb, readVersion_append_nulls] at hv
    exact ⟨hs, hv, hf, k, hk, hb⟩

theorem beq_iff {p q : Program} :
    q == p ↔ (q.version == p.version) ∧ q.layout = p.layout ∧ q.instructions = p.instructions := by
  obtain ⟨version, layout, instructions⟩ := p
  obtain ⟨version', layout', instructions'⟩ := q
  change (version' == version && (layout' == layout && instructions' == instructions)) = true ↔ _
  simp

/-- A program is loaded from its own bytes exactly if it is loadable, whether versions are compared
by their bits or as numbers. -/
theorem load_toBytes_iff (p : Program) :
    (load p.toBytes = .ok p ↔ p.Loadable (· = ·)) ∧
      ((∃ q, load p.toBytes = .ok q ∧ q == p) ↔ p.Loadable (· == ·)) := by
  have hself (q : Program) : load q.toBytes = .ok q ↔ q.Loadable (· = ·) := by
    rw [load_eq_ok_iff]
    exact and_iff_left ⟨0, by decide, List.append_nil _⟩
  refine ⟨hself p, ?_⟩
  constructor
  · rintro ⟨q, h, hq⟩
    obtain ⟨hv, hl, hi⟩ := beq_iff.1 hq
    obtain ⟨hp, -⟩ := load_eq_ok_iff.1 h
    obtain ⟨v, hr, hf, hle, rfl⟩ := hp.version
    have hb : q.toBytes = p.toBytes := by
      rw [toBytes, toBytes, header, header, hl, hi]
    exact ⟨hl ▸ hp.layout, hi ▸ hp.instructions, hl ▸ hp.name, q.version, hb ▸ hr, hf, hle, hv⟩
  · intro h
    obtain ⟨v, hr, hf, hle, hv⟩ := h.version
    refine ⟨{ p with version := v }, ?_, beq_iff.2 ⟨hv, rfl, rfl⟩⟩
    exact (hself { p with version := v }).2 ⟨h.layout, h.instructions, h.name, v, hr, hf, hle, rfl⟩

/-! ## Nulls at the end -/

/-- The end of an instruction is its last byte that is not null, and two nulls. -/
theorem exists_encode {i : Instruction} (h : Framed i.args) :
    ∃ front b, b ≠ 0 ∧ i.encode = front ++ [b] ++ List.replicate 2 0 := by
  have henc := Instruction.encodeArgs_eq_intercalate h.ne_nil
  obtain ⟨hne, hnull, -⟩ := framed_iff.1 ⟨h, henc⟩
  obtain hnil | ⟨body, b, hb⟩ :=
    List.eq_nil_or_concat ([0].intercalate (i.args.map Utf8.encode))
  · exact absurd hnil hne
  rw [List.concat_eq_append] at hb
  rw [hb] at henc hnull
  refine ⟨i.opcode :: body, b, ?_, ?_⟩
  · rw [NoTwoNulls, List.append_assoc] at hnull
    rintro rfl
    simpa using hnull.right_of_append
  · rw [Instruction.encode, henc]
    simp

theorem rdropWhile_append_nulls (bytes : List UInt8) (k : Nat) :
    (bytes ++ List.replicate k 0).rdropWhile (· == 0) = bytes.rdropWhile (· == 0) := by
  induction k with
  | zero => rw [List.replicate_zero, List.append_nil]
  | succ k ih =>
      rw [List.replicate_succ', ← List.append_assoc, List.rdropWhile_concat_pos _ _ _ rfl, ih]

/-- Instructions end with two nulls, and with no more than that. -/
theorem exists_flatMap_encode {is : List Instruction} (hne : is ≠ [])
    (h : ∀ i ∈ is, Framed i.args) :
    ∃ front, front.rdropWhile (· == 0) = front ∧
      is.flatMap Instruction.encode = front ++ List.replicate 2 0 := by
  obtain rfl | ⟨is, i, rfl⟩ := List.eq_nil_or_concat is
  · exact absurd rfl hne
  rw [List.concat_eq_append] at h ⊢
  obtain ⟨bytes, b, hb, he⟩ := exists_encode (h i (by simp))
  refine ⟨is.flatMap Instruction.encode ++ bytes ++ [b],
    List.rdropWhile_concat_neg _ _ _ (by simpa using hb), ?_⟩
  rw [List.flatMap_append, List.flatMap_singleton, he]
  simp only [List.append_assoc]

theorem exists_toBytes {p : Program} (h : p.Loadable (· = ·)) :
    ∃ front, front.rdropWhile (· == 0) = front ∧ p.toBytes = front ++ List.replicate 2 0 :=
  exists_flatMap_encode (List.cons_ne_nil _ _) (loadable_iff.1 h).1

/-- Loading loses and invents nothing but nulls at the very end. -/
theorem toBytes_of_load {bytes : List UInt8} {p : Program} (h : load bytes = .ok p) :
    p.toBytes = bytes.rdropWhile (· == 0) ++ [0, 0] ∧ load p.toBytes = .ok p ∧
      load p.toBytes.dropLast = .ok p ∧ load p.toBytes.dropLast.dropLast = .ok p := by
  obtain ⟨hp, k, hk, hbytes⟩ := load_eq_ok_iff.1 h
  obtain ⟨front, hfront, hend⟩ := exists_toBytes hp
  have hload (j : Nat) (hj : j ≤ 2) : load (front ++ List.replicate j 0) = .ok p := by
    refine load_eq_ok_iff.2 ⟨hp, 2 - j, Nat.sub_le 2 j, ?_⟩
    rw [List.append_assoc, List.replicate_append_replicate, Nat.add_sub_cancel' hj, hend]
  have hdrop (j : Nat) :
      (front ++ List.replicate (j + 1) 0).dropLast = front ++ List.replicate j (0 : UInt8) := by
    rw [List.replicate_succ', ← List.append_assoc, List.dropLast_concat]
  have hstrip : bytes.rdropWhile (· == 0) = front := by
    rw [← rdropWhile_append_nulls bytes k, hbytes, hend, rdropWhile_append_nulls, hfront]
  refine ⟨?_, ?_, ?_, ?_⟩
  · rw [hstrip, hend]
    rfl
  · rw [hend]
    exact hload 2 (by decide)
  · rw [hend, hdrop]
    exact hload 1 (by decide)
  · rw [hend, hdrop, hdrop]
    exact hload 0 (by decide)

/-- A last instruction with an empty first argument and without nulls at its end. -/
theorem toBytes_of_load_unterminated :
    let bytes := [8, 118, 105, 118, 105, 100, 0, 49, 46, 48, 0, 0, 0, 0, 97]
    let p : Program := ⟨1.0, ["vivid", "1.0"], [⟨.bundle, ["", "a"]⟩]⟩
    load bytes = .ok p ∧
      p.toBytes = bytes.rdropWhile (· == 0) ++ [0, 0] ∧ load p.toBytes = .ok p ∧
        load p.toBytes.dropLast = .ok p ∧ load p.toBytes.dropLast.dropLast = .ok p := by
  have h : load [8, 118, 105, 118, 105, 100, 0, 49, 46, 48, 0, 0, 0, 0, 97] =
      .ok ⟨1.0, ["vivid", "1.0"], [⟨.bundle, ["", "a"]⟩]⟩ :=
    load_eq_ok_iff_decodeAll.2 ⟨by decide, by decide +kernel, by decide +kernel⟩
  exact ⟨h, toBytes_of_load h⟩

end Program

end Extraction
