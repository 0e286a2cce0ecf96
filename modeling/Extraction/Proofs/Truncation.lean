import Extraction.Proofs.Bytecode

/-!
# Bytecode that was cut off

The last instruction may lack its nulls, so bytes that were cut off anywhere are often loaded all
the same.  They are never loaded as something else: all instructions but the last are those of the
whole bytes, and the last one is cut where the bytes are, with all its arguments but the last in
full.  `CutLast` is this relation, between instructions as well as between their arguments.
-/

namespace Extraction

open Extraction.Text

/-! ## Lists that were cut off -/

/-- A list that ends where the other may go on, with an item that is itself cut from the one at its
place. -/
inductive CutLast {α : Type} (Cut : α → α → Prop) : List α → List α → Prop
  | last {a b : α} {bs : List α} : Cut a b → CutLast Cut [a] (b :: bs)
  | cons {a : α} {as bs : List α} : CutLast Cut as bs → CutLast Cut (a :: as) (a :: bs)

namespace CutLast

variable {α β : Type}

theorem length_le {Cut : α → α → Prop} {as bs : List α} (h : CutLast Cut as bs) :
    as.length ≤ bs.length := by
  induction h with
  | last => simp
  | cons _ ih => exact Nat.succ_le_succ ih

/-- Items that were cut are known from their images. -/
theorem of_map {Cut : β → β → Prop} {Cut' : α → α → Prop} {f : α → β} (hf : f.Injective)
    (hcut : ∀ a b, Cut (f a) (f b) → Cut' a b) {as bs : List α}
    (h : CutLast Cut (as.map f) (bs.map f)) : CutLast Cut' as bs := by
  generalize hxs : as.map f = xs at h
  generalize hys : bs.map f = ys at h
  induction h generalizing as bs with
  | last h =>
      obtain ⟨a, as, rfl, rfl, hnil⟩ := List.map_eq_cons_iff.1 hxs
      obtain ⟨b, bs, rfl, rfl, -⟩ := List.map_eq_cons_iff.1 hys
      obtain rfl := List.map_eq_nil_iff.1 hnil
      exact .last (hcut a b h)
  | cons _ ih =>
      obtain ⟨a, as, rfl, rfl, has⟩ := List.map_eq_cons_iff.1 hxs
      obtain ⟨b, bs, rfl, hb, hbs⟩ := List.map_eq_cons_iff.1 hys
      obtain rfl := hf hb
      exact .cons (ih has hbs)

/-- Splitting what was cut off cuts the last part. -/
theorem splitOn_append [DecidableEq α] (sep : α) (front behind : List α) :
    CutLast (· <+: ·) (splitOn sep front) (splitOn sep (front ++ behind)) := by
  induction front with
  | nil =>
      obtain ⟨part, parts, hs⟩ := List.exists_cons_of_ne_nil (splitOn_ne_nil sep behind)
      rw [splitOn_nil, List.nil_append, hs]
      exact .last List.nil_prefix
  | cons a front ih =>
      rw [List.cons_append]
      by_cases ha : a = sep
      · rw [ha, splitOn_cons_self, splitOn_cons_self]
        exact ih.cons
      · obtain ⟨part, parts, hs, hc⟩ := splitOn_cons_of_ne ha front
        obtain ⟨part', parts', hs', hc'⟩ := splitOn_cons_of_ne ha (front ++ behind)
        rw [hs, hs'] at ih
        rw [hc, hc']
        cases ih with
        | last h => exact .last ((List.prefix_cons_inj a).2 h)
        | cons h => exact .cons h

end CutLast

/-! ## Instructions -/

/-- The instruction that is read where the bytes of another one are cut off. -/
structure Instruction.CutFrom (i j : Instruction) : Prop where
  directive_eq : i.directive = j.directive
  args : CutLast (fun a b => a.toList <+: b.toList) i.args j.args

namespace Program

/-- The end of an instruction stays where it is if more follows. -/
theorem splitBody_prefix {front bytes : List UInt8} (h : front <+: bytes) :
    (splitBody front).1 <+: (splitBody bytes).1 := by
  obtain ⟨behind, rfl⟩ := h
  fun_induction splitBody front with
  | case1 => exact List.nil_prefix
  | case2 => exact List.nil_prefix
  | case3 => exact List.nil_prefix
  | case4 b front h₁ h₂ body rest h ih =>
      rw [h] at ih
      rw [List.cons_append, splitBody_cons]
      · exact (List.prefix_cons_inj b).2 ih
      · intro hb
        cases front with
        | nil => exact absurd rfl (h₁ hb)
        | cons c front =>
            have hc : c ≠ 0 := fun hc => h₂ front hb (by rw [hc])
            exact ⟨List.cons_ne_nil _ _, by simpa using hc⟩

variable {offset offset' : Nat} {opcode : UInt8} {front bytes rest : List UInt8}
variable {i j : Instruction} {is js : List Instruction}

theorem cutFrom_of_decodeInstruction {rest' : List UInt8} (h : front <+: bytes)
    (hi : decodeInstruction offset opcode front = .ok (i, rest))
    (hj : decodeInstruction offset' opcode bytes = .ok (j, rest')) : i.CutFrom j := by
  obtain ⟨hoi, body, hbi, -, hsi⟩ := decodeInstruction_eq_ok_iff_body.1 hi
  obtain ⟨hoj, body', hbj, -, hsj⟩ := decodeInstruction_eq_ok_iff_body.1 hj
  have hbody : body <+: body' := by
    have hb := splitBody_prefix h
    rwa [hbi, hbj] at hb
  obtain ⟨behind, rfl⟩ := hbody
  refine ⟨Directive.opcode_injective (hoi.trans hoj.symm), ?_⟩
  have hcut := CutLast.splitOn_append 0 body behind
  rw [hsi, hsj] at hcut
  exact hcut.of_map (fun _ _ => Utf8.encode_injective) fun _ _ => Utf8.encodeChars_prefix_iff.1

/-- An instruction behind which something follows is read the same if still more follows. -/
theorem decodeInstruction_append (h : decodeInstruction offset opcode front = .ok (i, rest))
    (hrest : rest ≠ []) (offset' : Nat) (behind : List UInt8) :
    decodeInstruction offset' opcode (front ++ behind) = .ok (i, rest ++ behind) := by
  obtain ⟨ho, -⟩ := decodeInstruction_eq_ok_iff.1 h
  obtain ⟨hf, hb⟩ := encode_append_of_decodeInstruction h hrest
  refine decodeInstruction_eq_ok_iff.2 ⟨ho, hf, 0, by decide, ?_, .inl rfl⟩
  rw [List.replicate_zero, List.append_nil, ← List.cons_append, hb, List.append_assoc]

theorem cutLast_of_decodeAll (h : front <+: bytes) (hne : front ≠ [])
    (his : decodeAll offset front = .ok is) (hjs : decodeAll offset' bytes = .ok js) :
    CutLast Instruction.CutFrom is js := by
  obtain ⟨behind, rfl⟩ := h
  induction is generalizing offset offset' front js with
  | nil =>
      obtain ⟨opcode, front, rfl⟩ := List.exists_cons_of_ne_nil hne
      obtain ⟨_, _, _, -, -, h⟩ := decodeAll_cons_eq_ok_iff.1 his
      cases h
  | cons i is ih =>
      obtain ⟨opcode, front, rfl⟩ := List.exists_cons_of_ne_nil hne
      obtain ⟨_, rest, _, hi, his, h⟩ := decodeAll_cons_eq_ok_iff.1 his
      cases h
      rw [List.cons_append] at hjs
      obtain ⟨j, rest', js, hj, hjs, rfl⟩ := decodeAll_cons_eq_ok_iff.1 hjs
      by_cases hrest : rest = []
      · -- this is where the bytes end, so there is no instruction behind it
        rw [hrest, decodeAll_nil] at his
        cases his
        exact .last (cutFrom_of_decodeInstruction (List.prefix_append _ _) hi hj)
      · rw [decodeInstruction_append hi hrest] at hj
        cases hj
        exact .cons (ih hrest his hjs)

/-- Cutting bytes off invents nothing.  If both are loaded, then header and instructions are those
of the whole bytes as far as they go, except that the last one may lack arguments, and its last
argument may lack its end. -/
theorem cutLast_of_load {p q : Program} (h : front <+: bytes) (hp : load bytes = .ok p)
    (hq : load front = .ok q) :
    (q.header :: q.instructions).length ≤ (p.header :: p.instructions).length ∧
      CutLast Instruction.CutFrom (q.header :: q.instructions) (p.header :: p.instructions) := by
  obtain ⟨-, -, hp⟩ := load_eq_ok_iff_decodeAll.1 hp
  obtain ⟨hs, -, hq⟩ := load_eq_ok_iff_decodeAll.1 hq
  have hne : front ≠ [] := by
    rintro rfl
    cases List.prefix_nil.1 hs
  have hcut := cutLast_of_decodeAll h hne hq hp
  exact ⟨hcut.length_le, hcut⟩

/-- Cut off within the first argument of the first of two instructions. -/
theorem cutLast_of_load_within_argument :
    let front : List UInt8 := [8, 118, 105, 118, 105, 100, 0, 49, 46, 48, 0, 0, 11, 97]
    let bytes := front ++ [98, 0, 99, 0, 0, 4, 100, 0, 0]
    let p : Program := ⟨1.0, ["vivid", "1.0"], [⟨.replace, ["ab", "c"]⟩, ⟨.glue, ["d"]⟩]⟩
    let q : Program := ⟨1.0, ["vivid", "1.0"], [⟨.replace, ["a"]⟩]⟩
    front <+: bytes ∧ load bytes = .ok p ∧ load front = .ok q ∧
      (q.header :: q.instructions).length ≤ (p.header :: p.instructions).length ∧
        CutLast Instruction.CutFrom (q.header :: q.instructions) (p.header :: p.instructions) := by
  intro front bytes p q
  have h : front <+: bytes := List.prefix_append _ _
  have hp : load bytes = .ok p :=
    load_eq_ok_iff_decodeAll.2 ⟨by decide, by decide +kernel, by decide +kernel⟩
  have hq : load front = .ok q :=
    load_eq_ok_iff_decodeAll.2 ⟨by decide, by decide +kernel, by decide +kernel⟩
  exact ⟨h, hp, hq, cutLast_of_load h hp hq⟩

end Program

end Extraction
