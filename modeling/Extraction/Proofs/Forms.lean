import Extraction.Json.Forms
import Extraction.Proofs.JsonWriting

/-!
# Serialized forms are read back

A form that is written and read again gives the value it was made from, and so does every other text
that denotes the form, however it is laid out and its strings are escaped (`ReadBack`).  Two facts
make this up for each type: its form is `Written`, so the grammar of JSON texts knows what is
written for it, and its reader is the inverse of its form.  Both come from those of the fields.
-/

namespace Extraction

open Extraction.Text

/-! ## Lists and records -/

/-- Where each item succeeds, all do. -/
theorem mapM_map_eq_some {α β γ : Type} {f : γ → α} {g : α → Option β} {h : γ → β} {cs : List γ}
    (hg : ∀ c ∈ cs, g (f c) = some (h c)) : (cs.map f).mapM g = some (cs.map h) := by
  induction cs with
  | nil => rfl
  | cons c cs ih =>
      obtain ⟨hc, hcs⟩ := List.forall_mem_cons.1 hg
      rw [List.map_cons, List.mapM_cons, hc, ih hcs]
      rfl

theorem mapM_map_eq_some_self {α β : Type} {f : α → β} {g : β → Option α} {as : List α}
    (hg : ∀ a ∈ as, g (f a) = some a) : (as.map f).mapM g = some as := by
  have hall := mapM_map_eq_some (h := id) hg
  rwa [List.map_id] at hall

namespace Json

theorem list?_list {α : Type} {f : α → Json} {f? : Json → Option α} {as : List α}
    (h : ∀ a ∈ as, f? (f a) = some a) : list? f? (.list f as) = some as :=
  mapM_map_eq_some_self h

theorem texts?_texts (ss : List String) : texts? (.texts ss) = some ss :=
  list?_list fun _ _ => rfl

theorem appendDigits_eq_ofDigitChars {ds : List Char} (h : ∀ d ∈ ds, d.isDigit) (n : Nat) :
    appendDigits 10 n ds = Nat.ofDigitChars 10 ds n := by
  induction ds generalizing n with
  | nil => rfl
  | cons d ds ih =>
      obtain ⟨hd, hds⟩ := List.forall_mem_cons.1 h
      rw [appendDigits_cons, Nat.ofDigitChars_cons, digitValue, if_pos hd, ih hds]

theorem ofDigits_digits (n : Nat) : ofDigits 10 (digits 10 n) = n := by
  rw [ofDigits, digits, appendDigits_eq_ofDigitChars fun c =>
    Nat.isDigit_of_mem_toDigits (by decide) (by decide)]
  exact Nat.ofDigitChars_toDigits (by decide) (by decide)

theorem nat?_nat {n : Nat} (h : n < UInt64.size) : nat? (.nat n) = some n := by
  have hread : Numeral.nat? ⟨false, digits 10 n, [], none⟩ = some n := by
    rw [Numeral.nat?, ofDigits_digits]
    rfl
  simp [nat?, nat, hread, h]

theorem filter_record_eq_nil {ms : List (String × Json)} {name : String}
    (h : name ∉ ms.map Prod.fst) :
    (ms.map fun m => (some m.1, m.2)).filter (fun m => m.1 = some name) = [] := by
  rw [List.filter_eq_nil_iff]
  intro member hmember hname
  obtain ⟨m, hm, rfl⟩ := List.mem_map.1 hmember
  obtain rfl := Option.some.inj (of_decide_eq_true hname)
  exact h (List.mem_map_of_mem hm)

theorem member?_record {ms : List (String × Json)} (hnodup : (ms.map Prod.fst).Nodup)
    {m : String × Json} (h : m ∈ ms) :
    member? (ms.map fun m => (some m.1, m.2)) m.1 = some m.2 := by
  induction ms with
  | nil => cases h
  | cons m' ms ih =>
      rw [List.map_cons, List.nodup_cons] at hnodup
      rw [member?, List.map_cons]
      obtain rfl | hm := List.mem_cons.1 h
      · rw [List.filter_cons_of_pos (by simp), filter_record_eq_nil hnodup.1]
      · have hne : m'.1 ≠ m.1 := fun heq => hnodup.1 (heq ▸ List.mem_map_of_mem hm)
        rw [List.filter_cons_of_neg (by simpa using hne), ← member?, ih hnodup.2 hm]

theorem fieldsOf?_record {ms : List (String × Json)} (hnodup : (ms.map Prod.fst).Nodup) :
    fieldsOf? (ms.map Prod.fst) (.record ms) = some (ms.map Prod.snd) := by
  have hnames : (ms.map fun m => (some m.1, m.2)).all (fun m => m.1.isSome) = true := by
    simp
  rw [record, fieldsOf?, if_pos hnames]
  exact mapM_map_eq_some fun m => member?_record hnodup

end Json

open Json Layout

/-! ## The forms -/

/-- A value is read back from what is written for it, and from every text of its form. -/
structure ReadBack {α : Type} (toJson : α → Json) (ofJson? : Json → Option α) (a : α) : Prop where
  written : (parse? (toJson a).toText).bind ofJson? = some a
  denoted : ∀ s : String, Denotes s.toList (toJson a) → (parse? s).bind ofJson? = some a

theorem readBack_of_written {α : Type} {toJson : α → Json} {ofJson? : Json → Option α} {a : α}
    (hw : Written (toJson a)) (hread : ofJson? (toJson a) = some a) :
    ReadBack toJson ofJson? a := by
  have hdenoted (s : String) (hs : Denotes s.toList (toJson a)) :
      (parse? s).bind ofJson? = some a := by
    rw [parse?_of_denotes hs, Option.bind_some, hread]
  refine ⟨hdenoted _ ?_, hdenoted⟩
  rw [toText, String.toList_ofList]
  exact hw

theorem Directive.ofJson?_toJson (d : Directive) : ofJson? d.toJson = some d :=
  ofToken?_token d

theorem Layout.Problem.ofJson?_toJson (p : Problem) : ofJson? p.toJson = some p := by
  cases p <;> rfl

namespace Instruction

theorem written_toJson (i : Instruction) : Written i.toJson :=
  written_record (List.forall_mem_cons.2 ⟨written_text _,
    List.forall_mem_cons.2 ⟨written_texts _, List.forall_mem_nil _⟩⟩)

theorem ofJson?_toJson (i : Instruction) : ofJson? i.toJson = some i := by
  have hfields : fieldsOf? ["directive", "args"] i.toJson =
      some [i.directive.toJson, .texts i.args] := fieldsOf?_record (by simp)
  rw [ofJson?, hfields]
  simp only [Option.bind_eq_bind, Option.bind_some, Directive.ofJson?_toJson, texts?_texts]
  rfl

end Instruction

namespace Layout.LineRecord

theorem written_toJson (r : LineRecord) : Written r.toJson :=
  written_record (List.forall_mem_cons.2 ⟨written_nat _,
    List.forall_mem_cons.2 ⟨written_text _, List.forall_mem_cons.2 ⟨written_text _,
      List.forall_mem_cons.2 ⟨written_texts _, List.forall_mem_cons.2
        ⟨written_list fun _ _ => written_text _, List.forall_mem_nil _⟩⟩⟩⟩⟩)

theorem ofJson?_toJson {r : LineRecord} (h : r.lineNr < UInt64.size) :
    ofJson? r.toJson = some r := by
  have hfields : fieldsOf? ["line_nr", "raw", "call", "args", "problems"] r.toJson =
      some [.nat r.lineNr, .text r.raw, .text r.call, .texts r.args,
        .list Problem.toJson r.problems] := fieldsOf?_record (by simp)
  have hproblems : list? Problem.ofJson? (.list Problem.toJson r.problems) = some r.problems :=
    list?_list fun p _ => p.ofJson?_toJson
  rw [ofJson?, hfields]
  simp only [Option.bind_eq_bind, Option.bind_some, nat?_nat h, text?, text, texts?_texts,
    hproblems]
  rfl

end Layout.LineRecord

namespace Repository

/-- A label behind all others is put at the end. -/
theorem alterEntry_of_lt {label : String} {f : List String → List String}
    {es : List (String × List String)} (h : ∀ e ∈ es, e.1 < label) :
    alterEntry label f es = es ++ [(label, f [])] := by
  induction es with
  | nil => rfl
  | cons e es ih =>
      obtain ⟨he, hes⟩ := List.forall_mem_cons.1 h
      have hne : label ≠ e.1 := fun heq => String.lt_irrefl e.1 (heq ▸ he)
      rw [alterEntry, if_neg hne, if_neg (String.lt_asymm he), ih hes, List.cons_append]

theorem entries_foldl_alter {r : Repository} {es : List (String × List String)}
    (h : (r.entries ++ es).Pairwise fun a b => a.1 < b.1) :
    (es.foldl (fun r e => r.alter e.1 fun _ => e.2) r).entries = r.entries ++ es := by
  induction es generalizing r with
  | nil => rw [List.foldl_nil, List.append_nil]
  | cons e es ih =>
      have hlast : (r.alter e.1 fun _ => e.2).entries = r.entries ++ [e] :=
        alterEntry_of_lt fun e' he' => (List.pairwise_append.1 h).2.2 e' he' e List.mem_cons_self
      have hsplit : r.entries ++ e :: es = r.entries ++ [e] ++ es := by simp
      rw [hsplit, ← hlast] at h
      rw [List.foldl_cons, ih h, hlast, hsplit]

/-- Entries that are in order are kept as they are. -/
theorem ofList_entries (r : Repository) : ofList r.entries = r := by
  have hentries : (ofList r.entries).entries = r.entries := entries_foldl_alter r.sorted
  obtain ⟨entries, sorted⟩ := r
  cases hr : ofList entries with
  | mk entries' _ =>
      rw [hr] at hentries
      obtain rfl : entries' = entries := hentries
      rfl

theorem written_toJson (r : Repository) : Written r.toJson :=
  written_record (List.forall_mem_map.2 fun e _ => written_texts e.2)

theorem ofJson?_toJson (r : Repository) : ofJson? r.toJson = some r := by
  have hentry (e : String × List String) : ofMember? (some e.1, .texts e.2) = some e := by
    rw [ofMember?, texts?_texts]
    rfl
  have hentries : ((r.entries.map fun e => (e.1, Json.texts e.2)).map fun m =>
      (some m.1, m.2)).mapM ofMember? = some r.entries := by
    rw [List.map_map]
    exact mapM_map_eq_some_self fun e _ => hentry e
  rw [toJson, record, ofJson?, hentries, Option.map_some, ofList_entries]

end Repository

namespace Stack

theorem written_toJson (s : Stack) : Written s.toJson := written_list fun ss _ => written_texts ss

theorem ofJson?_toJson (s : Stack) : ofJson? s.toJson = some s := by
  have hframes : list? texts? (.list .texts s.frames) = some s.frames :=
    list?_list fun ss _ => texts?_texts ss
  rw [ofJson?, toJson, hframes]
  rfl

end Stack

/-- Line records, instructions, repositories and stacks are read back, whatever they hold.  A line
number is one of 64 bits. -/
theorem forms_read_back :
    (∀ r : LineRecord, r.lineNr < UInt64.size →
      ReadBack LineRecord.toJson LineRecord.ofJson? r) ∧
    (∀ i, ReadBack Instruction.toJson Instruction.ofJson? i) ∧
    (∀ r, ReadBack Repository.toJson Repository.ofJson? r) ∧
    ∀ s, ReadBack Stack.toJson Stack.ofJson? s := by
  refine ⟨fun r hr => ?_, fun i => ?_, fun r => ?_, fun s => ?_⟩
  · exact readBack_of_written r.written_toJson (LineRecord.ofJson?_toJson hr)
  · exact readBack_of_written i.written_toJson i.ofJson?_toJson
  · exact readBack_of_written r.written_toJson r.ofJson?_toJson
  · exact readBack_of_written s.written_toJson s.ofJson?_toJson

/-- The largest line number, characters that are escaped, empty texts, and problems that the fields
do not have. -/
theorem forms_read_back_contradictory :
    let r : LineRecord :=
      ⟨18446744073709551615, "\"\\/\x01\n\u2028😀", "", ["", "€"], [.noArguments, .noArguments]⟩
    r.lineNr < UInt64.size ∧
      r.toJson.toText = "\x7b\"line_nr\":18446744073709551615," ++
        "\"raw\":\"\\\"\\\\/\\u0001\\n\u2028😀\",\"call\":\"\",\"args\":[\"\",\"€\"]," ++
        "\"problems\":[\"NoArguments\",\"NoArguments\"]\x7d" ∧
      (parse? r.toJson.toText).bind LineRecord.ofJson? = some r := by
  intro r
  have hr : r.lineNr < UInt64.size := by decide
  exact ⟨hr, by decide +kernel, (forms_read_back.1 r hr).written⟩

end Extraction
