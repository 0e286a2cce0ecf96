import Extraction.Proofs.Seam
import Mathlib.Data.List.Chain

/-!
# The lines of a text and the breaks between them

A text is its lines with line breaks between them.  It could be put together from lines and breaks
in more than one way only if a carriage return, an empty line and a line feed were to stand in a
row, as these two breaks are one.  Without that, lines and breaks are known from the text.
-/

namespace Extraction.Layout

open Extraction.Text

/-- Lines and the breaks between them: the first line, and each break with the line behind it. -/
structure Division where
  first : String
  rest : List (String × String)

namespace Division

def lines (d : Division) : List String := d.first :: d.rest.map Prod.snd

def breaks (d : Division) : List String := d.rest.map Prod.fst

def text (d : Division) : String := String.join (d.first :: d.rest.map fun p => p.1 ++ p.2)

/-- No line holds what breaks a line, and no two breaks are one. -/
structure Proper (d : Division) : Prop where
  breaks : ∀ s ∈ d.breaks, s ∈ lineBreaks
  lines : ∀ l ∈ d.lines, '\n' ∉ l.toList ∧ '\r' ∉ l.toList
  apart : d.rest.IsChain fun p q => ¬ (p = ("\r", "") ∧ q.1 = "\n")

end Division

/-! ## Breaks in front of a text -/

variable {s s' l first : String} {rest : List (String × String)} {cs cs' : List Char}

theorem mem_lineBreaks : s ∈ lineBreaks ↔ s = "\n" ∨ s = "\r\n" ∨ s = "\r" := by
  simp [lineBreaks]

theorem head?_ne_line_feed (h : ∀ cs', cs = '\n' :: cs' → False) : cs.head? ≠ some '\n' := by
  intro hh
  obtain ⟨cs', rfl⟩ := List.head?_eq_some_iff.1 hh
  exact h cs' rfl

theorem splitLines_break_append (hs : s ∈ lineBreaks) (h : s = "\r" → cs.head? ≠ some '\n') :
    splitLines (s.toList ++ cs) = [] :: splitLines cs := by
  rcases mem_lineBreaks.1 hs with rfl | rfl | rfl
  · exact splitLines_line_feed cs
  · exact splitLines_break cs
  · exact splitLines_carriage_return (h rfl)

theorem head?_break_append (hs : s ∈ lineBreaks) (cs : List Char) :
    (s.toList ++ cs).head? = some (if s = "\n" then '\n' else '\r') := by
  rcases mem_lineBreaks.1 hs with rfl | rfl | rfl
  · rfl
  · rfl
  · rfl

/-- A break is known from the text that it stands in front of. -/
theorem break_append_inj (hs : s ∈ lineBreaks) (hs' : s' ∈ lineBreaks)
    (h : s = "\r" → cs.head? ≠ some '\n') (h' : s' = "\r" → cs'.head? ≠ some '\n')
    (heq : s.toList ++ cs = s'.toList ++ cs') : s = s' ∧ cs = cs' := by
  rcases mem_lineBreaks.1 hs with rfl | rfl | rfl <;>
    rcases mem_lineBreaks.1 hs' with rfl | rfl | rfl <;> simp at heq <;> grind

namespace Division

theorem toList_text_nil : (text ⟨first, []⟩).toList = first.toList := by
  simp [text]

theorem toList_text_cons : (text ⟨first, (s, l) :: rest⟩).toList =
    first.toList ++ (s.toList ++ (text ⟨l, rest⟩).toList) := by
  simp [text, String.toList_join]

/-- A text starts with a line feed only if its first line is empty and ends there. -/
theorem head?_text_eq_iff (hl : '\n' ∉ l.toList) (hb : ∀ p ∈ rest, p.1 ∈ lineBreaks) :
    (text ⟨l, rest⟩).toList.head? = some '\n' ↔ l = "" ∧ ∃ p ∈ rest.head?, p.1 = "\n" := by
  by_cases hempty : l = ""
  · subst hempty
    cases rest with
    | nil => simp [toList_text_nil]
    | cons p rest =>
        have hhead := head?_break_append (hb p List.mem_cons_self) (text ⟨p.2, rest⟩).toList
        rw [toList_text_cons, String.toList_empty, List.nil_append, hhead]
        by_cases hp : p.1 = "\n" <;> simp [hp]
  · have hne : l.toList ≠ [] := mt String.toList_eq_nil_iff.1 hempty
    refine iff_of_false (fun h => ?_) fun h => hempty h.1
    have hlhead : l.toList.head? = some '\n' := by
      cases rest with
      | nil => rwa [toList_text_nil] at h
      | cons p rest => rwa [toList_text_cons, List.head?_append_of_ne_nil _ hne] at h
    exact hl (List.mem_of_mem_head? hlhead)

theorem proper_nil_iff : Proper ⟨first, []⟩ ↔ '\n' ∉ first.toList ∧ '\r' ∉ first.toList := by
  constructor
  · intro h
    exact h.lines first List.mem_cons_self
  · intro h
    exact ⟨nofun, List.forall_mem_singleton.2 h, .nil⟩

/-- A division goes on properly behind a break that is not one with the start of what follows. -/
theorem proper_cons_iff : Proper ⟨first, (s, l) :: rest⟩ ↔
    ('\n' ∉ first.toList ∧ '\r' ∉ first.toList) ∧ s ∈ lineBreaks ∧
      (s = "\r" → (text ⟨l, rest⟩).toList.head? ≠ some '\n') ∧ Proper ⟨l, rest⟩ := by
  constructor
  · intro h
    obtain ⟨hs, hb⟩ := List.forall_mem_cons.1 (List.forall_mem_map.1 h.breaks)
    obtain ⟨hfirst, hl⟩ := List.forall_mem_cons.1 h.lines
    obtain ⟨hnext, hapart⟩ := List.isChain_cons.1 h.apart
    refine ⟨hfirst, hs, ?_, List.forall_mem_map.2 hb, hl, hapart⟩
    rintro rfl hhead
    obtain ⟨rfl, p, hp, hfeed⟩ := (head?_text_eq_iff (hl l List.mem_cons_self).1 hb).1 hhead
    exact hnext p hp ⟨rfl, hfeed⟩
  · rintro ⟨hfirst, hs, hnext, h⟩
    refine ⟨List.forall_mem_cons.2 ⟨hs, h.breaks⟩, List.forall_mem_cons.2 ⟨hfirst, h.lines⟩,
      List.isChain_cons.2 ⟨?_, h.apart⟩⟩
    rintro p hp ⟨hsl, hfeed⟩
    obtain ⟨rfl, rfl⟩ := Prod.mk.inj hsl
    exact hnext rfl ((head?_text_eq_iff List.not_mem_nil (List.forall_mem_map.1 h.breaks)).2
      ⟨rfl, p, hp, hfeed⟩)

/-! ## Taking a text apart -/

theorem Proper.splitLines_text {d : Division} (h : d.Proper) :
    splitLines d.text.toList = d.lines.map String.toList := by
  obtain ⟨first, rest⟩ := d
  induction rest generalizing first with
  | nil =>
      obtain ⟨hn, hr⟩ := proper_nil_iff.1 h
      have hsplit := splitLines_append hn hr splitLines.eq_1
      rwa [List.append_nil, ← toList_text_nil] at hsplit
  | cons p rest ih =>
      obtain ⟨hfirst, hs, hapart, hrest⟩ := proper_cons_iff.1 h
      rw [toList_text_cons,
        splitLines_append hfirst.1 hfirst.2 (splitLines_break_append hs hapart), ih _ hrest,
        List.append_nil]
      rfl

theorem Proper.lines_eq {d d' : Division} (h : d.Proper) (h' : d'.Proper) (ht : d.text = d'.text) :
    d.lines = d'.lines := by
  have hlines := h.splitLines_text
  rw [ht, h'.splitLines_text] at hlines
  exact (List.map_inj_right fun _ _ => String.toList_inj.1).1 hlines.symm

/-- Lines and breaks are known from the text. -/
theorem Proper.unique {d d' : Division} (h : d.Proper) (h' : d'.Proper) (ht : d.text = d'.text) :
    d = d' := by
  obtain ⟨first, rest⟩ := d
  obtain ⟨first', rest'⟩ := d'
  obtain ⟨hfirst, hrest⟩ : first = first' ∧ rest.map Prod.snd = rest'.map Prod.snd :=
    List.cons.inj (h.lines_eq h' ht)
  subst hfirst
  induction rest generalizing first rest' with
  | nil => rw [List.map_eq_nil_iff.1 hrest.symm]
  | cons p rest ih =>
      obtain ⟨⟨s', l'⟩, rest', rfl, hl, htails⟩ := List.map_eq_cons_iff.1 hrest.symm
      obtain ⟨s, l⟩ := p
      obtain rfl : l' = l := hl
      obtain ⟨-, hs, hapart, hd⟩ := proper_cons_iff.1 h
      obtain ⟨-, hs', hapart', hd'⟩ := proper_cons_iff.1 h'
      have htail := String.toList_inj.2 ht
      rw [toList_text_cons, toList_text_cons] at htail
      -- The first line is the same, so that the breaks behind it stand in front of the same text.
      obtain ⟨rfl, htext⟩ :=
        break_append_inj hs hs' hapart hapart' (List.append_cancel_left htail)
      obtain rfl : rest = rest' :=
        (Division.mk.inj (ih _ hd _ htails.symm hd' (String.toList_inj.1 htext))).2
      rfl

theorem Proper.withFirst (h : Proper ⟨l, rest⟩) (hn : '\n' ∉ first.toList)
    (hr : '\r' ∉ first.toList) : Proper ⟨first, rest⟩ :=
  ⟨h.breaks, List.forall_mem_cons.2 ⟨⟨hn, hr⟩, (List.forall_mem_cons.1 h.lines).2⟩, h.apart⟩

/-- Every text has a division. -/
theorem exists_proper (cs : List Char) : ∃ d : Division, d.Proper ∧ d.text.toList = cs := by
  have behind {s : String} {cs : List Char} (hs : s ∈ lineBreaks)
      (hapart : s = "\r" → cs.head? ≠ some '\n') :
      (∃ d : Division, d.Proper ∧ d.text.toList = cs) →
        ∃ d : Division, d.Proper ∧ d.text.toList = s.toList ++ cs := by
    rintro ⟨d, hd, rfl⟩
    exact ⟨⟨"", (s, d.first) :: d.rest⟩,
      proper_cons_iff.2 ⟨⟨List.not_mem_nil, List.not_mem_nil⟩, hs, hapart, hd⟩, toList_text_cons⟩
  fun_induction splitLines cs with
  | case1 =>
      exact ⟨⟨"", []⟩, proper_nil_iff.2 ⟨List.not_mem_nil, List.not_mem_nil⟩, toList_text_nil⟩
  | case2 cs ih => exact behind (s := "\r\n") (by decide) (fun h => absurd h (by decide)) ih
  | case3 cs hn ih => exact behind (s := "\r") (by decide) (fun _ => head?_ne_line_feed hn) ih
  | case4 cs ih => exact behind (s := "\n") (by decide) (fun h => absurd h (by decide)) ih
  | case5 c cs _ _ _ hs => exact absurd hs (splitLines_ne_nil cs)
  | case6 c cs _ hr hn first rest hs ih =>
      obtain ⟨⟨l, rest⟩, hd, rfl⟩ := ih
      have hl := hd.lines l List.mem_cons_self
      refine ⟨⟨String.ofList (c :: l.toList), rest⟩, hd.withFirst ?_ ?_, ?_⟩
      · simp [Ne.symm hn, hl.1]
      · simp [Ne.symm hr, hl.2]
      · simp [text, String.toList_join]

end Division

/-! ## Counting lines -/

/-- How often a line feed stands directly behind a carriage return. -/
def pairedBreaks (cs : List Char) : Nat := (cs.zip cs.tail).count ('\r', '\n')

theorem pairedBreaks_cons (c : Char) (cs : List Char) :
    pairedBreaks (c :: cs) =
      pairedBreaks cs + if c = '\r' ∧ cs.head? = some '\n' then 1 else 0 := by
  cases cs with
  | nil => simp [pairedBreaks]
  | cons d cs => simp [pairedBreaks, List.count_cons]

theorem length_splitLines (cs : List Char) :
    (splitLines cs).length + pairedBreaks cs = cs.count '\n' + cs.count '\r' + 1 := by
  fun_induction splitLines cs with
  | case1 => rfl
  | case2 cs ih =>
      simp [pairedBreaks_cons]
      omega
  | case3 cs hn ih =>
      simp [pairedBreaks_cons, head?_ne_line_feed hn]
      omega
  | case4 cs ih =>
      simp [pairedBreaks_cons]
      omega
  | case5 c cs _ _ _ hs => exact absurd hs (splitLines_ne_nil cs)
  | case6 c cs _ hr hn first rest hs ih =>
      have hpair : ¬ (c = '\r' ∧ cs.head? = some '\n') := fun h => hr h.1
      rw [hs] at ih
      rw [pairedBreaks_cons, if_neg hpair, List.count_cons_of_ne hn, List.count_cons_of_ne hr, ← ih]
      rfl

/-- Every character that breaks no line is in one. -/
theorem flatten_splitLines (cs : List Char) :
    (splitLines cs).flatten = cs.filter fun c => c ≠ '\n' ∧ c ≠ '\r' := by
  fun_induction splitLines cs with
  | case1 => rfl
  | case2 cs ih => simp [ih]
  | case3 cs hn ih => simp [ih]
  | case4 cs ih => simp [ih]
  | case5 c cs _ _ _ hs => exact absurd hs (splitLines_ne_nil cs)
  | case6 c cs _ hr hn first rest hs ih =>
      have hc : decide (c ≠ '\n' ∧ c ≠ '\r') := decide_eq_true ⟨hn, hr⟩
      rw [hs] at ih
      rw [List.filter_cons, if_pos hc, ← ih]
      rfl

/-- There is one way to take a text apart into lines without line breaks and the breaks between
them, and these are its lines.  A carriage return with a line feed behind it is counted once, and
every other character is in a line. -/
theorem lines_eq_division (source : String) :
    ∃ d : Division, lines source = d.lines ∧ d.text = source ∧ d.Proper ∧
      (∀ d' : Division, d'.text = source → d'.Proper → d' = d) ∧
      (lines source).length = d.breaks.length + 1 ∧
      d.breaks.length + pairedBreaks source.toList =
        source.toList.count '\n' + source.toList.count '\r' ∧
      (lines source).flatMap String.toList =
        source.toList.filter fun c => c ≠ '\n' ∧ c ≠ '\r' := by
  obtain ⟨d, hd, htext⟩ := Division.exists_proper source.toList
  have hlines : lines source = d.lines := by
    rw [lines, ← htext, hd.splitLines_text]
    simp
  have hlength : (lines source).length = d.breaks.length + 1 := by
    simp [hlines, Division.lines, Division.breaks]
  have hcount := length_splitLines source.toList
  refine ⟨d, hlines, String.toList_inj.1 htext, hd, ?_, hlength, ?_, ?_⟩
  · rintro d' rfl hd'
    exact hd'.unique hd (String.toList_inj.1 htext).symm
  · rw [lines, List.length_map] at hlength
    omega
  · rw [← flatten_splitLines, lines, List.flatMap_map, List.flatMap_def]
    simp

/-- A run of breaks, and characters that break lines elsewhere. -/
theorem lines_eq_division_run :
    let d : Division := ⟨"", [("\r", ""), ("\r\n", ""), ("\n", ""), ("\r", "a\u0085b\u2028c\x0b")]⟩
    d.text = "\r\r\n\n\ra\u0085b\u2028c\x0b" ∧ d.Proper ∧ lines d.text = d.lines := by
  intro d
  have hd : d.Proper := ⟨by decide +kernel, by decide +kernel, by simp [d]⟩
  obtain ⟨d', hlines, -, -, hunique, -⟩ := lines_eq_division d.text
  refine ⟨by decide +kernel, hd, ?_⟩
  rw [hlines, hunique d rfl hd]

end Extraction.Layout
