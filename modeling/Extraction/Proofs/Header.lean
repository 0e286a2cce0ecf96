import Extraction.Proofs.Bytecode

/-!
# The header of a loaded program

Signature and version are looked up at fixed places, whatever the framing of the header.  The
signature ends before the null that would end `vivid`, and the version is cut off after three
bytes.  So the header of a loaded program reads `layout vivid` only if that null is there, and its
version is the number of the second argument only as far as three bytes go.
-/

namespace Extraction.Program

open Extraction.Text

theorem read?_empty : Decimal.read? "" = none := by decide +kernel

/-- The bytes of the version are cut off at a null. -/
theorem takeWhile_take_append_null {front : List UInt8} (h : 0 ∉ front) (n : Nat)
    (rest : List UInt8) :
    ((front ++ 0 :: rest).take n).takeWhile (fun b => b ≠ 0) = front.take n := by
  induction front generalizing n with
  | nil => cases n <;> rfl
  | cons b front ih =>
      rw [List.mem_cons, not_or] at h
      cases n with
      | zero => rfl
      | succ n =>
          rw [List.cons_append, List.take_succ_cons, List.take_succ_cons,
            List.takeWhile_cons_of_pos (by simpa using Ne.symm h.1), ih h.2]

/-- A program whose header has only its name has no version. -/
theorem versionText_toBytes_nil {p : Program} (h : p.layout = ["vivid"]) :
    versionText p.toBytes = "" := by
  rw [toBytes_eq_cons h]
  exact Utf8.decodeLossy_encode ""

theorem versionText_toBytes_cons {p : Program} {v : String} {args : List String}
    (h : p.layout = "vivid" :: v :: args) (hv : '\x00' ∉ v.toList) :
    versionText p.toBytes = Utf8.decodeLossy ((Utf8.encode v).take 3) := by
  rw [toBytes_eq_cons h, Instruction.encodeArgs_cons, List.append_assoc, List.cons_append,
    versionText, ← takeWhile_take_append_null (mt Utf8.zero_mem_encode.1 hv)]
  rfl

/-- Behind the signature stands a null exactly if the name of the header ends there. -/
theorem getElem?_toBytes_iff {p : Program} {name : String} {args : List String}
    (h : p.layout = name :: args) (hname : "vivid".toList <+: name.toList)
    (hnull : '\x00' ∉ name.toList) : p.toBytes[6]? = some 0 ↔ name = "vivid" := by
  obtain ⟨more, hmore⟩ := hname
  have hend : name = "vivid" ↔ more = [] := by
    rw [← String.toList_inj, ← hmore, List.append_right_eq_self]
  have hbytes : p.toBytes[6]? = (Utf8.encodeChars more ++ 0 :: (Instruction.encodeArgs args ++
      0 :: p.instructions.flatMap Instruction.encode)).head? := by
    rw [toBytes_eq_cons h, Utf8.encode, ← hmore, Utf8.encodeChars, List.flatMap_append,
      List.append_assoc, List.head?_eq_getElem?]
    rfl
  rw [hend, hbytes]
  cases more with
  | nil => exact iff_of_true rfl rfl
  | cons c more =>
      refine iff_of_false ?_ (List.cons_ne_nil _ _)
      obtain ⟨b, bs, hc⟩ := Utf8.exists_bytes c
      rw [Utf8.encodeChars_cons, hc.encodeChar_eq, List.cons_append, List.cons_append,
        List.head?_cons, Option.some.injEq]
      rintro rfl
      obtain rfl := Utf8.zero_mem_encodeChar.1 (hc.encodeChar_eq ▸ List.mem_cons_self)
      exact hnull (hmore ▸ List.mem_append_right _ List.mem_cons_self)

theorem seven_lt_length_of_readVersion {bytes : List UInt8} {v : Float}
    (h : readVersion bytes = .ok v) : 7 < bytes.length := by
  by_contra hlen
  have htext : versionText bytes = "" := by
    rw [versionText, List.drop_eq_nil_of_le (Nat.le_of_not_lt hlen)]
    exact Utf8.decodeLossy_encode ""
  obtain ⟨hr, -⟩ := readVersion_eq_ok_iff.1 h
  rw [htext, read?_empty] at hr
  cases hr

/-- What the header of a loaded program is known to hold.  Its name starts with `vivid`, and is that
exactly if a null follows the signature.  In this case there is a second argument, and the version
is the number that it holds once cut off after three bytes. -/
theorem header_of_load {bytes : List UInt8} {p : Program} (h : load bytes = .ok p) :
    p.version.isFinite ∧ p.version ≤ 1.0 ∧
      (∃ name args, p.layout = name :: args ∧ "vivid".toList <+: name.toList ∧
        (bytes[6]? = some 0 ↔ name = "vivid")) ∧
      (bytes[6]? = some 0 → ∃ v args, p.layout = "vivid" :: v :: args ∧
        Decimal.read? (Utf8.decodeLossy ((Utf8.encode v).take 3)) = some p.version ∧
        ((Utf8.encode v).length ≤ 3 → Decimal.read? v = some p.version)) := by
  obtain ⟨hp, k, -, hb⟩ := load_eq_ok_iff.1 h
  obtain ⟨-, hv, -⟩ := load_eq_ok_iff_decodeAll.1 h
  obtain ⟨version, hread, hfin, hle, rfl⟩ := hp.version
  obtain ⟨name, args, hl⟩ := List.exists_cons_of_ne_nil hp.layout.ne_nil
  have hnull := hp.layout.no_null
  obtain ⟨name', hname', hprefix⟩ := hp.name
  rw [hl] at hnull hname'
  obtain rfl : name = name' := Option.some.inj hname'
  have hsix : bytes[6]? = some 0 ↔ name = "vivid" := by
    rw [← getElem?_toBytes_iff hl hprefix (hnull name List.mem_cons_self), ← hb,
      List.getElem?_append_left (Nat.lt_of_succ_lt (seven_lt_length_of_readVersion hv))]
  refine ⟨hfin, hle, ⟨name, args, hl, hprefix, hsix⟩, fun hz => ?_⟩
  rw [hsix.1 hz] at hl hnull
  cases args with
  | nil =>
      rw [versionText_toBytes_nil hl, read?_empty] at hread
      cases hread
  | cons v args =>
      rw [versionText_toBytes_cons hl (hnull v (by simp))] at hread
      refine ⟨v, args, hl, hread, fun hlen => ?_⟩
      rwa [List.take_of_length_le hlen, Utf8.decodeLossy_encode] at hread

/-- A version of one digit, with which the bytes end. -/
theorem header_of_load_short_version :
    let bytes := [8, 118, 105, 118, 105, 100, 0, 49]
    let p : Program := ⟨1.0, ["vivid", "1"], []⟩
    load bytes = .ok p ∧ bytes[6]? = some 0 ∧ p.version.isFinite ∧ p.version ≤ 1.0 ∧
      ∃ v args, p.layout = "vivid" :: v :: args ∧
        Decimal.read? (Utf8.decodeLossy ((Utf8.encode v).take 3)) = some p.version ∧
        ((Utf8.encode v).length ≤ 3 → Decimal.read? v = some p.version) := by
  intro bytes p
  have h : load bytes = .ok p :=
    load_eq_ok_iff_decodeAll.2 ⟨by decide, by decide +kernel, by decide +kernel⟩
  obtain ⟨hfin, hle, -, hversion⟩ := header_of_load h
  exact ⟨h, rfl, hfin, hle, hversion rfl⟩

/-- A header of one argument, and one with a version that is too high. -/
theorem header_of_load_misread :
    (∃ p, load [8, 118, 105, 118, 105, 100, 120, 49, 46, 48, 0, 0] = .ok p ∧
        p.layout = ["vividx1.0"]) ∧
      ∃ p, load [8, 118, 105, 118, 105, 100, 0, 49, 46, 48, 53, 0, 0] = .ok p ∧
        p.layout = ["vivid", "1.05"] ∧ p.version = 1.0 ∧
          ∃ v, Decimal.read? "1.05" = some v ∧ 1.0 < v := by
  constructor
  · refine ⟨⟨1.0, ["vividx1.0"], []⟩, ?_, rfl⟩
    exact load_eq_ok_iff_decodeAll.2 ⟨by decide, by decide +kernel, by decide +kernel⟩
  · refine ⟨⟨1.0, ["vivid", "1.05"], []⟩, ?_, rfl, rfl, 1.05, by decide +kernel, by decide +kernel⟩
    exact load_eq_ok_iff_decodeAll.2 ⟨by decide, by decide +kernel, by decide +kernel⟩

end Extraction.Program
