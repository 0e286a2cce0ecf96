import Extraction.Layout.Parse
import Mathlib.Data.List.DropRight
import Mathlib.Data.List.TakeWhile

/-!
# Trimmed texts, lines and fields

The line breaks, tabs and white space that reading a layout looks for, and the texts that hold
none where it looks.  A line that holds only fields of this kind, and a text of such lines, is
read back as what it was put together from.
-/

namespace Extraction

namespace Text

/-! ## Classes of characters -/

variable {p : Char → Bool} {as as' bs bs' : List Char}

theorem takeWhile_append_of_head (has : ∀ c ∈ as, p c) (hbs : ∀ c ∈ bs.head?, p c = false) :
    (as ++ bs).takeWhile p = as := by
  rw [List.takeWhile_append_of_pos has]
  cases bs with
  | nil => simp
  | cons b bs => simp [hbs b rfl]

theorem dropWhile_append_of_head (has : ∀ c ∈ as, p c) (hbs : ∀ c ∈ bs.head?, p c = false) :
    (as ++ bs).dropWhile p = bs := by
  rw [List.dropWhile_append_of_pos has]
  cases bs with
  | nil => rfl
  | cons b bs => simp [hbs b rfl]

/-- What is in a class, and the rest that does not start in it, are known from both together. -/
theorem append_inj_of_head (has : ∀ c ∈ as, p c) (hbs : ∀ c ∈ bs.head?, p c = false)
    (has' : ∀ c ∈ as', p c) (hbs' : ∀ c ∈ bs'.head?, p c = false) (h : as ++ bs = as' ++ bs') :
    as = as' ∧ bs = bs' := by
  constructor
  · rw [← takeWhile_append_of_head has hbs, h, takeWhile_append_of_head has' hbs']
  · rw [← dropWhile_append_of_head has hbs, h, dropWhile_append_of_head has' hbs']

/-! ## Trimming -/

/-- No white space at either end. -/
structure Trimmed (cs : List Char) : Prop where
  head : ∀ c ∈ cs.head?, isBlank c = false
  last : ∀ c ∈ cs.getLast?, isBlank c = false

theorem dropRight_eq (p : Char → Bool) (cs : List Char) : dropRight p cs = cs.rdropWhile p := rfl

theorem trimmed_trimChars (cs : List Char) : Trimmed (trimChars cs) := by
  rw [trimChars, dropRight_eq]
  constructor
  · intro c hc
    have hp := List.rdropWhile_prefix isBlank (cs.dropWhile isBlank)
    have hd := List.head?_dropWhile_not isBlank cs
    obtain ⟨ds, hds⟩ := List.head?_eq_some_iff.1 hc
    rw [hds] at hp
    obtain ⟨es, hes⟩ := hp
    rw [← hes] at hd
    exact hd
  · intro c hc
    obtain ⟨hne, rfl⟩ := List.mem_getLast?_eq_getLast hc
    simpa using List.rdropWhile_last_not isBlank _ hne

theorem trimChars_eq_self_iff {cs : List Char} : trimChars cs = cs ↔ Trimmed cs := by
  constructor
  · intro h
    rw [← h]
    exact trimmed_trimChars cs
  · rintro ⟨hh, hl⟩
    have hd : cs.dropWhile isBlank = cs := by
      cases cs with
      | nil => rfl
      | cons c cs => exact List.dropWhile_cons_of_neg (by simp [hh c rfl])
    rw [trimChars, hd, dropRight_eq, List.rdropWhile_eq_self_iff]
    intro hne
    simp [hl _ (List.getLast?_eq_some_getLast hne)]

theorem trim_eq_self_iff {s : String} : trim s = s ↔ Trimmed s.toList := by
  rw [← trimChars_eq_self_iff, ← toList_trim, String.toList_inj]

@[simp] theorem trim_trim (s : String) : trim (trim s) = trim s := by
  rw [trim_eq_self_iff, toList_trim]
  exact trimmed_trimChars _

theorem trimChars_subset (cs : List Char) : trimChars cs ⊆ cs := by
  have hp := List.rdropWhile_prefix isBlank (cs.dropWhile isBlank)
  exact List.Subset.trans hp.subset (List.dropWhile_suffix _).subset

end Text

namespace Layout

open Extraction.Text

/-! ## Lines -/

theorem splitLines_line_feed (cs : List Char) : splitLines ('\n' :: cs) = [] :: splitLines cs := by
  rw [splitLines]

theorem splitLines_cons {c : Char} (hn : c ≠ '\n') (hr : c ≠ '\r') (cs : List Char) :
    ∃ l ls, splitLines cs = l :: ls ∧ splitLines (c :: cs) = (c :: l) :: ls := by
  obtain ⟨l, ls, h⟩ := List.exists_cons_of_ne_nil (splitLines_ne_nil cs)
  refine ⟨l, ls, h, ?_⟩
  rw [splitLines, h]
  · exact fun _ hc _ => hr hc
  · exact hr
  · exact hn

/-- A line holds no line break, and nothing that is not in the text. -/
theorem of_mem_splitLines {cs l : List Char} (h : l ∈ splitLines cs) :
    '\n' ∉ l ∧ '\r' ∉ l ∧ l ⊆ cs := by
  have behind (brk : List Char) {cs : List Char}
      (ih : ∀ {l}, l ∈ splitLines cs → '\n' ∉ l ∧ '\r' ∉ l ∧ l ⊆ cs)
      {l : List Char} (h : l ∈ [] :: splitLines cs) : '\n' ∉ l ∧ '\r' ∉ l ∧ l ⊆ brk ++ cs := by
    rcases List.mem_cons.1 h with rfl | h
    · exact ⟨List.not_mem_nil, List.not_mem_nil, List.nil_subset _⟩
    · obtain ⟨hn, hr, hs⟩ := ih h
      exact ⟨hn, hr, List.subset_append_of_subset_right brk hs⟩
  fun_induction splitLines cs generalizing l with
  | case1 =>
      rw [List.mem_singleton] at h
      rw [h]
      exact ⟨List.not_mem_nil, List.not_mem_nil, List.nil_subset _⟩
  | case2 cs ih => exact behind ['\r', '\n'] ih h
  | case3 cs _ ih => exact behind ['\r'] ih h
  | case4 cs ih => exact behind ['\n'] ih h
  | case5 c cs _ _ _ hs => exact absurd hs (splitLines_ne_nil cs)
  | case6 c cs hrn hr hn first rest hs ih =>
      rw [hs] at ih
      rcases List.mem_cons.1 h with rfl | h
      · obtain ⟨hn', hr', hs'⟩ := ih List.mem_cons_self
        simp only [List.mem_cons, not_or]
        exact ⟨⟨Ne.symm hn, hn'⟩, ⟨Ne.symm hr, hr'⟩, List.cons_subset_cons c hs'⟩
      · obtain ⟨hn', hr', hs'⟩ := ih (List.mem_cons_of_mem _ h)
        exact ⟨hn', hr', List.subset_cons_of_subset c hs'⟩

theorem splitLines_append {l cs first : List Char} {rest : List (List Char)} (hn : '\n' ∉ l)
    (hr : '\r' ∉ l) (h : splitLines cs = first :: rest) :
    splitLines (l ++ cs) = (l ++ first) :: rest := by
  induction l with
  | nil => exact h
  | cons c l ih =>
      rw [List.mem_cons, not_or] at hn hr
      obtain ⟨l', ls, hl, hc⟩ := splitLines_cons (Ne.symm hn.1) (Ne.symm hr.1) (l ++ cs)
      rw [ih hn.2 hr.2] at hl
      obtain ⟨rfl, rfl⟩ := List.cons.inj hl
      exact hc

/-- Lines joined by line feeds are split again, whatever way the last of them ends. -/
theorem splitLines_intercalate {ls rest : List (List Char)} {ending : List Char} (hne : ls ≠ [])
    (hl : ∀ l ∈ ls, '\n' ∉ l ∧ '\r' ∉ l) (he : splitLines ending = [] :: rest) :
    splitLines (['\n'].intercalate ls ++ ending) = ls ++ rest := by
  induction ls with
  | nil => exact absurd rfl hne
  | cons l ls ih =>
      rw [List.forall_mem_cons] at hl
      cases ls with
      | nil =>
          rw [List.intercalate_singleton, splitLines_append hl.1.1 hl.1.2 he, List.append_nil]
          rfl
      | cons l' ls =>
          rw [List.intercalate_cons_cons, List.append_assoc, List.append_assoc,
            List.singleton_append, splitLines_append hl.1.1 hl.1.2 (splitLines_line_feed _),
            List.append_nil, ih (List.cons_ne_nil _ _) hl.2]
          rfl

theorem of_mem_lines {source raw : String} (h : raw ∈ lines source) :
    '\n' ∉ raw.toList ∧ '\r' ∉ raw.toList ∧ raw.toList ⊆ source.toList := by
  obtain ⟨l, hl, rfl⟩ := List.mem_map.1 h
  rw [String.toList_ofList]
  exact of_mem_splitLines hl

/-! ## Fields -/

/-- A line that is neither blank nor a comment. -/
def isStatement (raw : String) : Bool := (trimChars raw.toList).head?.any fun c => c ≠ '#'

/-- What stands between the tabs of a line. -/
def tabFields (raw : String) : List String :=
  ((splitOn '\t' (trimChars raw.toList)).filter fun f => !f.isEmpty).map String.ofList

/-- The call of a line and its arguments. -/
def lineFields (raw : String) : List String := (tabFields raw).map trim

/-- The record of a line that is neither blank nor a comment. -/
def lineRecord (lineNr : Nat) (raw : String) : LineRecord := .ofFields lineNr raw (tabFields raw)

/-- A text that a line can have as a field. -/
structure Writable (s : String) : Prop where
  ne_empty : s ≠ ""
  trimmed : trim s = s
  no_tab : '\t' ∉ s.toList
  no_line_feed : '\n' ∉ s.toList
  no_return : '\r' ∉ s.toList

theorem ne_tab_of_not_blank {c : Char} (h : isBlank c = false) : c ≠ '\t' := by
  rintro rfl
  exact absurd h (by decide)

/-- A trimmed line has no tab at its ends, so that it is always fields. -/
theorem fields?_eq_some {cs : List Char} (h : Trimmed cs) (hne : cs ≠ []) :
    fields? cs = some ((splitOn '\t' cs).filter fun f => !f.isEmpty) := by
  obtain ⟨c, cs, rfl⟩ := List.exists_cons_of_ne_nil hne
  obtain ⟨part, parts, -, hs⟩ :=
    splitOn_cons_of_ne (ne_tab_of_not_blank (h.head c rfl)) cs
  have hlast := getLastD_splitOn_ne_nil (List.getLast?_eq_some_getLast hne)
    (ne_tab_of_not_blank (h.last _ (List.getLast?_eq_some_getLast hne)))
  rw [fields?, if_neg]
  rw [hs] at hlast ⊢
  simpa using hlast

/-- Every line can be read. -/
theorem parseLine_eq (lineNr : Nat) (raw : String) :
    parseLine lineNr raw =
      .ok (if isStatement raw then some (lineRecord lineNr raw) else none) := by
  have ht := trimmed_trimChars raw.toList
  rw [parseLine, isStatement, lineRecord, tabFields]
  split
  case h_1 h => simp [h]
  case h_2 h => simp [h]
  case h_3 hnil hcomment =>
    obtain ⟨c, cs, hc⟩ := List.exists_cons_of_ne_nil hnil
    have hne : c ≠ '#' := by
      rintro rfl
      exact hcomment cs hc
    rw [fields?_eq_some ht hnil, hc]
    simp [hne]

theorem parseLines_eq (lineNr : Nat) (raws : List String) :
    parseLines lineNr raws = .ok ((raws.zipIdx lineNr).map fun l =>
      if isStatement l.1 then some (lineRecord l.2 l.1) else none) := by
  induction raws generalizing lineNr with
  | nil => rfl
  | cons raw raws ih =>
      rw [parseLines, parseLine_eq, ih, List.zipIdx_cons, List.map_cons]
      rfl

theorem of_mem_lineFields {raw f : String} (h : f ∈ lineFields raw) :
    trim f = f ∧ '\t' ∉ f.toList ∧ f.toList ⊆ raw.toList := by
  obtain ⟨g, hg, rfl⟩ := List.mem_map.1 h
  obtain ⟨part, hp, rfl⟩ := List.mem_map.1 hg
  obtain ⟨htab, hsub⟩ := of_mem_splitOn (List.mem_filter.1 hp).1
  have hpart : trimChars part ⊆ part := trimChars_subset part
  refine ⟨trim_trim _, ?_, ?_⟩
  · rw [toList_trim, String.toList_ofList]
    exact fun ht => htab (hpart ht)
  · rw [toList_trim, String.toList_ofList]
    exact List.Subset.trans hpart (List.Subset.trans hsub (trimChars_subset _))

theorem Writable.toList_ne_nil {s : String} (h : Writable s) : s.toList ≠ [] :=
  mt String.toList_eq_nil_iff.1 h.ne_empty

theorem head?_intercalate {α : Type} {sep part : List α} (h : part ≠ []) (parts : List (List α)) :
    (sep.intercalate (part :: parts)).head? = part.head? := by
  cases parts with
  | nil => rw [List.intercalate_singleton]
  | cons part' parts =>
      rw [List.intercalate_cons_cons, List.append_assoc, List.head?_append_of_ne_nil _ h]

theorem getLast?_intercalate {α : Type} {sep part : List α} {parts : List (List α)}
    (hp : parts.getLast? = some part) (h : part ≠ []) :
    (sep.intercalate parts).getLast? = part.getLast? := by
  induction parts with
  | nil => cases hp
  | cons part' parts ih =>
      cases parts with
      | nil =>
          obtain rfl : part' = part := Option.some.inj hp
          rw [List.intercalate_singleton]
      | cons part'' parts =>
          rw [List.getLast?_cons_cons] at hp
          rw [List.intercalate_cons_cons, List.getLast?_append, ih hp,
            List.getLast?_eq_some_getLast h, Option.some_or]

/-- Fields that a line with tabs between them can be read from, except that empty ones are lost. -/
structure Readable (fields : List String) : Prop where
  ne_nil : fields ≠ []
  trimmed : ∀ f ∈ fields, trim f = f
  no_tab : ∀ f ∈ fields, '\t' ∉ f.toList
  head : fields.head? ≠ some ""
  last : fields.getLast? ≠ some ""

theorem readable_of_writable {fields : List String} (hne : fields ≠ [])
    (h : ∀ f ∈ fields, Writable f) : Readable fields where
  ne_nil := hne
  trimmed f hf := (h f hf).trimmed
  no_tab f hf := (h f hf).no_tab
  head hh := (h "" (List.mem_of_mem_head? hh)).ne_empty rfl
  last hh := (h "" (List.mem_of_mem_getLast? hh)).ne_empty rfl

theorem Readable.trimmed_intercalate {fields : List String} (h : Readable fields) :
    Trimmed (['\t'].intercalate (fields.map String.toList)) := by
  have hends {f : String} (hf : f ∈ fields) : Trimmed f.toList :=
    trim_eq_self_iff.1 (h.trimmed f hf)
  constructor
  · obtain ⟨f, rest, rfl⟩ := List.exists_cons_of_ne_nil h.ne_nil
    have hne : f ≠ "" := fun hf => h.head (hf ▸ rfl)
    rw [List.map_cons, head?_intercalate (mt String.toList_eq_nil_iff.1 hne)]
    exact (hends List.mem_cons_self).head
  · have hlast := List.getLast?_eq_some_getLast h.ne_nil
    have hne : fields.getLast h.ne_nil ≠ "" := fun hf => h.last (hf ▸ hlast)
    have hmap : (fields.map String.toList).getLast? = some (fields.getLast h.ne_nil).toList := by
      rw [List.getLast?_map, hlast]
      rfl
    rw [getLast?_intercalate hmap (mt String.toList_eq_nil_iff.1 hne)]
    exact (hends (List.getLast_mem h.ne_nil)).last

/-- Of fields that are joined by tabs, those that are not empty are read back. -/
theorem Readable.lineFields_intercalate {fields : List String} (h : Readable fields) :
    lineFields (String.intercalate "\t" fields) = fields.filter fun f => !f.isEmpty := by
  have hsplit : splitOn '\t' (['\t'].intercalate (fields.map String.toList)) =
      fields.map String.toList := by
    rw [splitOn_eq, List.splitOn_intercalate]
    · simpa using h.no_tab
    · simpa using h.ne_nil
  have hback : ((fields.map String.toList).filter fun f => !f.isEmpty).map String.ofList =
      fields.filter fun f => !f.isEmpty := by
    have hempty (f : String) : f.toList.isEmpty = f.isEmpty := by
      rw [Bool.eq_iff_iff, List.isEmpty_iff, String.isEmpty_iff, String.toList_eq_nil_iff]
    rw [List.filter_map, List.map_map]
    simp [Function.comp_def, hempty]
  have htrim : (fields.filter fun f => !f.isEmpty).map trim = fields.filter fun f => !f.isEmpty :=
    (List.map_congr_left fun f hf => h.trimmed f (List.mem_filter.1 hf).1).trans (List.map_id _)
  have htab : "\t".toList = ['\t'] := rfl
  rw [lineFields, tabFields, String.toList_intercalate, htab,
    trimChars_eq_self_iff.2 h.trimmed_intercalate, hsplit, hback, htrim]

/-- Fields that are joined by tabs are read back. -/
theorem lineFields_intercalate {fields : List String} (hne : fields ≠ [])
    (h : ∀ f ∈ fields, Writable f) : lineFields (String.intercalate "\t" fields) = fields := by
  rw [(readable_of_writable hne h).lineFields_intercalate, List.filter_eq_self]
  simpa using fun f hf => (h f hf).ne_empty

end Layout

end Extraction
