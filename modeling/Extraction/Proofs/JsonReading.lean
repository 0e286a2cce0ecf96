import Extraction.Json.Read
import Extraction.Proofs.Line

/-!
# Reading JSON texts

`Denotes` is the grammar of the texts that stand for a value: blanks may be put around every value
and every name, and the characters of strings may be escaped in any of the ways there are.  Whatever
denotes a value is read as that value (`parse?_of_denotes`).

The reader takes its steps from a fuel, which twice the length of the text suffices for; so the
lemmas on values bound the fuel by the text that is read (`Readable`).  They leave the blanks behind
a value open, as these are skipped only where something else is looked for.
-/

namespace Extraction

open Extraction.Text

/-- The digits of a number as the grammar has them. -/
structure Numeral.Grammatical (n : Numeral) : Prop where
  whole : n.whole = ['0'] ∨ n.whole ≠ [] ∧ n.whole.head? ≠ some '0'
  whole_digits : ∀ c ∈ n.whole, c.isDigit
  fraction_digits : ∀ c ∈ n.fraction, c.isDigit
  exponent : ∀ e ∈ n.exponent, e.2 ≠ [] ∧ ∀ c ∈ e.2, c.isDigit

namespace Json

/-! ## The grammar -/

/-- What stands between quotes denotes characters: each is written as it is, as a letter behind a
backslash, or as one code or two of four digits. -/
inductive DenotesChars : List Char → List Char → Prop
  | nil : DenotesChars [] []
  | plain {c : Char} {t cs : List Char} : 0x20 ≤ c.toNat → c ≠ '"' → c ≠ '\\' →
      DenotesChars t cs → DenotesChars (c :: t) (c :: cs)
  | letter {e c : Char} {t cs : List Char} : letterEscape? e = some c.toNat →
      DenotesChars t cs → DenotesChars ('\\' :: e :: t) (c :: cs)
  | code {a₁ a₂ a₃ a₄ c : Char} {t cs : List Char} : hexCode? [a₁, a₂, a₃, a₄] = some c.toNat →
      DenotesChars t cs → DenotesChars ('\\' :: 'u' :: a₁ :: a₂ :: a₃ :: a₄ :: t) (c :: cs)
  | pair {a₁ a₂ a₃ a₄ b₁ b₂ b₃ b₄ c : Char} {n m : Nat} {t cs : List Char} :
      hexCode? [a₁, a₂, a₃, a₄] = some n → hexCode? [b₁, b₂, b₃, b₄] = some m →
      isHighSurrogate n → isLowSurrogate m →
      c.toNat = 0x10000 + 0x400 * (n - 0xD800) + (m - 0xDC00) → DenotesChars t cs →
      DenotesChars ('\\' :: 'u' :: a₁ :: a₂ :: a₃ :: a₄ ::
        '\\' :: 'u' :: b₁ :: b₂ :: b₃ :: b₄ :: t) (c :: cs)

def Blanks (ws : List Char) : Prop := ∀ c ∈ ws, isBlank c

/-- A name of an object, with the blanks around it. -/
inductive DenotesName : List Char → String → Prop
  | mk {front chars behind : List Char} {name : String} : Blanks front → Blanks behind →
      DenotesChars chars name.toList → DenotesName (front ++ '"' :: (chars ++ '"' :: behind)) name

/-- A member of an object, and the texts of its name and its value. -/
structure MemberText where
  nameText : List Char
  name : String
  valueText : List Char
  value : Json

namespace MemberText

def text (m : MemberText) : List Char := m.nameText ++ ':' :: m.valueText

def member (m : MemberText) : Option String × Json := (some m.name, m.value)

end MemberText

/-- Texts with commas between them. -/
def joined (ts : List (List Char)) : List Char := [','].intercalate ts

/-- The text denotes the value. -/
inductive Denotes : List Char → Json → Prop
  | null : Denotes ['n', 'u', 'l', 'l'] .null
  | true : Denotes ['t', 'r', 'u', 'e'] (.bool true)
  | false : Denotes ['f', 'a', 'l', 's', 'e'] (.bool false)
  | number {n : Numeral} : n.Grammatical → Denotes (renderNumeral n) (.number n)
  | string {t : List Char} {s : String} : DenotesChars t s.toList →
      Denotes ('"' :: (t ++ ['"'])) (.text s)
  | emptyArray {ws : List Char} : Blanks ws → Denotes ('[' :: (ws ++ [']'])) (.array [])
  | array {items : List (List Char × Json)} : items ≠ [] → (∀ p ∈ items, Denotes p.1 p.2) →
      Denotes ('[' :: (joined (items.map Prod.fst) ++ [']']))
        (.array (items.map Prod.snd))
  | emptyObject {ws : List Char} : Blanks ws →
      Denotes ('\x7b' :: (ws ++ ['\x7d'])) (.object [])
  | object {members : List MemberText} : members ≠ [] →
      (∀ m ∈ members, DenotesName m.nameText m.name) →
      (∀ m ∈ members, Denotes m.valueText m.value) →
      Denotes ('\x7b' :: (joined (members.map MemberText.text) ++ ['\x7d']))
        (.object (members.map MemberText.member))
  | before {c : Char} {t : List Char} {j : Json} : isBlank c → Denotes t j → Denotes (c :: t) j
  | behind {c : Char} {t : List Char} {j : Json} : isBlank c → Denotes t j → Denotes (t ++ [c]) j

theorem joined_singleton (t : List Char) : joined [t] = t := List.intercalate_singleton

theorem joined_cons_cons (t t' : List Char) (ts : List (List Char)) :
    joined (t :: t' :: ts) = t ++ ',' :: joined (t' :: ts) := by
  rw [joined, List.intercalate_cons_cons, List.append_assoc]
  rfl

/-! ## Strings -/

theorem charsOfCodes?_cons {n : Nat} (h : isHighSurrogate n = false) (h' : isLowSurrogate n = false)
    (ns : List Nat) :
    charsOfCodes? (n :: ns) = (charsOfCodes? ns).map (Char.ofNat n :: ·) := by
  cases ns with
  | nil => simp [charsOfCodes?, h, h']
  | cons m ns => simp [charsOfCodes?, h, h']

/-- A character is no surrogate. -/
theorem charsOfCodes?_toNat_cons {c : Char} {ns : List Nat} {cs : List Char}
    (h : charsOfCodes? ns = some cs) : charsOfCodes? (c.toNat :: ns) = some (c :: cs) := by
  have hc : c.toNat < 0xD800 ∨ 0xDFFF < c.toNat ∧ c.toNat < 0x110000 := c.valid
  rw [charsOfCodes?_cons, h, Char.ofNat_toNat, Option.map_some]
  · simp only [isHighSurrogate, Bool.and_eq_false_iff, decide_eq_false_iff_not]
    omega
  · simp only [isLowSurrogate, Bool.and_eq_false_iff, decide_eq_false_iff_not]
    omega

theorem exists_stringCodes? {t cs : List Char} (h : DenotesChars t cs) (rest : List Char) :
    ∃ ns, stringCodes? (t ++ '"' :: rest) = some (ns, rest) ∧ charsOfCodes? ns = some cs := by
  induction h with
  | nil => exact ⟨[], rfl, rfl⟩
  | @plain c t cs hc hquote hslash _ ih =>
      obtain ⟨ns, hns, hcs⟩ := ih
      have hcontrol : ¬ (c.toNat < 0x20 ∨ c = '\\') := not_or.2 ⟨Nat.not_lt.2 hc, hslash⟩
      refine ⟨c.toNat :: ns, ?_, charsOfCodes?_toNat_cons hcs⟩
      rw [List.cons_append, stringCodes?, if_neg hcontrol, hns]
      · rfl
      · exact hquote
      · exact fun _ _ _ _ _ h _ => hslash h
      · exact fun _ _ h _ => hslash h
  | @letter e c t cs he _ ih =>
      obtain ⟨ns, hns, hcs⟩ := ih
      refine ⟨c.toNat :: ns, ?_, charsOfCodes?_toNat_cons hcs⟩
      rw [List.cons_append, List.cons_append, stringCodes?, he, hns]
      · rfl
      -- the letter of a code is none of the others
      · rintro _ _ _ _ _ rfl
        cases he
  | @code a₁ a₂ a₃ a₄ c t cs ha _ ih =>
      obtain ⟨ns, hns, hcs⟩ := ih
      refine ⟨c.toNat :: ns, ?_, charsOfCodes?_toNat_cons hcs⟩
      simp only [List.cons_append, stringCodes?, ha, hns]
      rfl
  | @pair a₁ a₂ a₃ a₄ b₁ b₂ b₃ b₄ c n m t cs ha hb hn hm hc _ ih =>
      obtain ⟨ns, hns, hcs⟩ := ih
      refine ⟨n :: m :: ns, ?_, ?_⟩
      · simp only [List.cons_append, stringCodes?, ha, hb, hns]
        rfl
      · rw [charsOfCodes?, if_pos (by rw [hn, hm]; rfl), hcs, ← hc, Char.ofNat_toNat]
        rfl

theorem string?_append {t rest : List Char} {s : String} (h : DenotesChars t s.toList) :
    string? (t ++ '"' :: rest) = some (some s, rest) := by
  obtain ⟨ns, hns, hcs⟩ := exists_stringCodes? h rest
  rw [string?, hns]
  simp [hcs]

/-! ## Numbers -/

/-- A number does not go on with this character. -/
abbrev EndsNumber (c : Char) : Prop := c.isDigit = false ∧ c ≠ '.' ∧ ¬ (c = 'e' ∨ c = 'E')

/-- What follows does not go on with a number. -/
def Ends (rest : List Char) : Prop := ∀ c ∈ rest.head?, EndsNumber c

theorem ends_cons {c : Char} (h : EndsNumber c) (rest : List Char) : Ends (c :: rest) := by
  intro d hd
  obtain rfl := Option.some.inj hd
  exact h

theorem endsNumber_of_isBlank {c : Char} (h : isBlank c) : EndsNumber c := by
  simp only [isBlank, Bool.or_eq_true, decide_eq_true_eq] at h
  obtain ((rfl | rfl) | rfl) | rfl := h <;> decide

variable {ds rest : List Char}

theorem digits?_append (hne : ds ≠ []) (hds : ∀ c ∈ ds, c.isDigit)
    (hrest : ∀ c ∈ rest.head?, c.isDigit = false) : digits? (ds ++ rest) = some (ds, rest) := by
  have hempty : ds.isEmpty = false := List.isEmpty_eq_false_iff.2 hne
  simp only [digits?, takeWhile_append_of_head hds hrest, dropWhile_append_of_head hds hrest,
    hempty, Bool.false_eq_true, if_false]

theorem whole?_append {n : Numeral} (hn : n.Grammatical)
    (hrest : ∀ c ∈ rest.head?, c.isDigit = false) :
    whole? (n.whole ++ rest) = some (n.whole, rest) := by
  obtain hzero | ⟨hne, hhead⟩ := hn.whole
  · have hany : rest.head?.any Char.isDigit = false := by
      cases rest with
      | nil => rfl
      | cons c rest => exact hrest c rfl
    simp [hzero, whole?, hany]
  · obtain ⟨d, ds, hds⟩ := List.exists_cons_of_ne_nil hne
    have hd : d ≠ '0' := by
      rintro rfl
      exact hhead (by rw [hds]; rfl)
    have hdigits := digits?_append hne hn.whole_digits hrest
    rw [hds, List.cons_append] at hdigits ⊢
    rw [whole?, hdigits]
    exact fun _ h => hd (List.cons.inj h).1

/-- Digits behind a point, if there are any. -/
def fractionText (ds : List Char) : List Char := if ds.isEmpty then [] else '.' :: ds

def exponentText : Option (Bool × List Char) → List Char
  | none => []
  | some (negative, ds) => 'e' :: (if negative then '-' :: ds else ds)

theorem renderNumeral_eq (n : Numeral) :
    renderNumeral n = (if n.negative then ['-'] else []) ++
      (n.whole ++ (fractionText n.fraction ++ exponentText n.exponent)) := by
  simp only [← List.append_assoc]
  rfl

theorem fraction?_append (hds : ∀ c ∈ ds, c.isDigit)
    (hrest : ∀ c ∈ rest.head?, c.isDigit = false ∧ c ≠ '.') :
    fraction? (fractionText ds ++ rest) = some (ds, rest) := by
  cases ds with
  | nil =>
      cases rest with
      | nil => rfl
      | cons c rest =>
          have hc := (hrest c rfl).2
          change fraction? (c :: rest) = _
          rw [fraction?]
          exact fun _ h => hc (List.cons.inj h).1
  | cons d ds => exact digits?_append (List.cons_ne_nil _ _) hds fun c hc => (hrest c hc).1

theorem exponent?_append {exponent : Option (Bool × List Char)}
    (he : ∀ e ∈ exponent, e.2 ≠ [] ∧ ∀ c ∈ e.2, c.isDigit) (hrest : Ends rest) :
    exponent? (exponentText exponent ++ rest) = some (exponent, rest) := by
  cases exponent with
  | none =>
      cases rest with
      | nil => rfl
      | cons c rest =>
          have hc := (hrest c rfl).2.2
          change exponent? (c :: rest) = _
          rw [exponent?.eq_def]
          exact if_neg hc
  | some e =>
      obtain ⟨negative, ds⟩ := e
      obtain ⟨hne, hds⟩ := he _ rfl
      have hdigits := digits?_append hne hds fun c hc => (hrest c hc).1
      cases negative with
      | true =>
          change exponent? ('e' :: '-' :: (ds ++ rest)) = _
          rw [exponent?, if_pos (.inl rfl)]
          simp only [hdigits]
          rfl
      | false =>
          obtain ⟨d, ds, rfl⟩ := List.exists_cons_of_ne_nil hne
          have hd := hds d List.mem_cons_self
          change exponent? ('e' :: (d :: ds ++ rest)) = _
          rw [exponent?, if_pos (.inl rfl)]
          · simp only [hdigits]
            rfl
          -- a digit is neither of the signs
          · rintro cs h
            obtain ⟨rfl, -⟩ := List.cons.inj h
            cases hd
          · rintro cs h
            obtain ⟨rfl, -⟩ := List.cons.inj h
            cases hd

theorem head?_exponentText_append (exponent : Option (Bool × List Char)) (hrest : Ends rest) :
    ∀ c ∈ (exponentText exponent ++ rest).head?, c.isDigit = false ∧ c ≠ '.' := by
  cases exponent with
  | none => exact fun c hc => ⟨(hrest c hc).1, (hrest c hc).2.1⟩
  | some e =>
      intro c hc
      obtain rfl := Option.some.inj hc
      decide

theorem head?_fractionText_append (ds : List Char)
    (hrest : ∀ c ∈ rest.head?, c.isDigit = false ∧ c ≠ '.') :
    ∀ c ∈ (fractionText ds ++ rest).head?, c.isDigit = false := by
  cases ds with
  | nil => exact fun c hc => (hrest c hc).1
  | cons d ds =>
      intro c hc
      obtain rfl := Option.some.inj hc
      decide

theorem unsigned?_append {n : Numeral} (h : n.Grammatical) (hrest : Ends rest) :
    unsigned? n.negative
        (n.whole ++ (fractionText n.fraction ++ (exponentText n.exponent ++ rest))) =
      some (.number n, rest) := by
  have hexp := head?_exponentText_append n.exponent hrest
  rw [unsigned?, whole?_append h (head?_fractionText_append n.fraction hexp)]
  simp only [Option.bind_eq_bind, Option.bind_some, fraction?_append h.fraction_digits hexp,
    exponent?_append h.exponent hrest]
  rfl

theorem exists_whole {n : Numeral} (h : n.Grammatical) :
    ∃ d ds, n.whole = d :: ds ∧ d.isDigit := by
  have hne : n.whole ≠ [] := by
    obtain hzero | hw := h.whole
    · rw [hzero]
      exact List.cons_ne_nil _ _
    · exact hw.1
  obtain ⟨d, ds, hds⟩ := List.exists_cons_of_ne_nil hne
  exact ⟨d, ds, hds, h.whole_digits d (by rw [hds]; exact List.mem_cons_self)⟩

theorem number?_renderNumeral {n : Numeral} (h : n.Grammatical) (hrest : Ends rest) :
    number? (renderNumeral n ++ rest) = some (.number n, rest) := by
  have hread := unsigned?_append h hrest
  obtain ⟨d, ds, hds, hd⟩ := exists_whole h
  rw [renderNumeral_eq, List.append_assoc, List.append_assoc, List.append_assoc]
  cases hn : n.negative with
  | true =>
      rw [hn] at hread
      exact hread
  | false =>
      rw [hn, hds] at hread
      rw [hds]
      change number? (d :: _) = _
      rw [number?]
      · exact hread
      · rintro cs h
        obtain ⟨rfl, -⟩ := List.cons.inj h
        cases hd

/-- What a number starts with. -/
theorem exists_renderNumeral {n : Numeral} (h : n.Grammatical) :
    ∃ c cs, renderNumeral n = c :: cs ∧ (c = '-' ∨ c.isDigit) := by
  obtain ⟨d, ds, hds, hd⟩ := exists_whole h
  rw [renderNumeral_eq, hds]
  cases n.negative with
  | true => exact ⟨'-', _, rfl, .inl rfl⟩
  | false => exact ⟨d, _, rfl, .inr hd⟩

/-! ## Values -/

theorem skip_append {ws : List Char} (hws : Blanks ws) (cs : List Char) :
    skip (ws ++ cs) = skip cs := List.dropWhile_append_of_pos hws

theorem skip_cons {c : Char} (h : isBlank c = false) (cs : List Char) :
    skip (c :: cs) = c :: cs := by
  rw [skip, List.dropWhile_cons_of_neg (by rw [h]; decide)]

theorem skip_blank {c : Char} (h : isBlank c) (cs : List Char) : skip (c :: cs) = skip cs := by
  rw [skip, List.dropWhile_cons_of_pos h]
  rfl

theorem skip_skip (cs : List Char) : skip (skip cs) = skip cs :=
  List.dropWhile_idempotent isBlank cs

theorem value?_skip (fuel : Nat) (cs : List Char) : value? fuel (skip cs) = value? fuel cs := by
  cases fuel with
  | zero => rfl
  | succ fuel => rw [value?, value?, skip_skip]

theorem items?_skip (fuel : Nat) (cs : List Char) : items? fuel (skip cs) = items? fuel cs := by
  cases fuel with
  | zero => rfl
  | succ fuel => rw [items?, items?, value?_skip]

theorem members?_skip (fuel : Nat) (cs : List Char) :
    members? fuel (skip cs) = members? fuel cs := by
  cases fuel with
  | zero => rfl
  | succ fuel => rw [members?, members?, skip_skip]

theorem value?_number {c : Char} (h : c = '-' ∨ c.isDigit) (fuel : Nat) (cs : List Char) :
    value? (fuel + 1) (c :: cs) = number? (c :: cs) := by
  have hblank : isBlank c = false := by
    rw [← Bool.not_eq_true]
    intro hb
    have hdigit : c.isDigit := h.resolve_left (by rintro rfl; cases hb)
    rw [(endsNumber_of_isBlank hb).1] at hdigit
    cases hdigit
  rw [value?, skip_cons hblank]
  split
  case h_7 => rfl
  -- all other values start with a character of their own
  all_goals
    rename_i hcs
    obtain ⟨rfl, -⟩ := List.cons.inj hcs
    exact absurd h (by decide)

/-- Behind an opening bracket, the closing one is no item. -/
theorem items?_bracket (fuel : Nat) (cs : List Char) : items? fuel (']' :: cs) = none := by
  match fuel with
  | 0 => rfl
  | 1 => rfl
  | fuel + 2 =>
      rw [items?, value?, skip_cons (by decide)]
      rfl

theorem members?_brace (fuel : Nat) (cs : List Char) : members? fuel ('\x7d' :: cs) = none := by
  cases fuel with
  | zero => rfl
  | succ fuel =>
      rw [members?, skip_cons (by decide)]
      rfl

variable {fuel : Nat} {cs : List Char}

theorem value?_array {js : List Json} (h : items? fuel cs = some (js, rest)) :
    value? (fuel + 1) ('[' :: cs) = some (.array js, rest) := by
  rw [value?, skip_cons (by decide)]
  simp only
  split
  case h_1 cs' hcs =>
    rw [← items?_skip, hcs, items?_bracket] at h
    cases h
  case h_2 =>
    rw [items?_skip, h]
    rfl

theorem value?_object {ms : List (Option String × Json)} (h : members? fuel cs = some (ms, rest)) :
    value? (fuel + 1) ('\x7b' :: cs) = some (.object ms, rest) := by
  rw [value?, skip_cons (by decide)]
  simp only
  split
  case h_1 cs' hcs =>
    rw [← members?_skip, hcs, members?_brace] at h
    cases h
  case h_2 =>
    rw [members?_skip, h]
    rfl

/-- The text is read as the value wherever a value may stand, up to blanks behind it. -/
def Readable (t : List Char) (j : Json) : Prop :=
  ∀ (fuel : Nat) (rest : List Char), 2 * t.length ≤ fuel → Ends rest →
    ∃ rest', value? fuel (t ++ rest) = some (j, rest') ∧ skip rest' = skip rest

theorem items?_joined {items : List (List Char × Json)} (hne : items ≠ [])
    (h : ∀ p ∈ items, Readable p.1 p.2)
    (hfuel : 2 * (joined (items.map Prod.fst)).length < fuel) (rest : List Char) :
    items? fuel (joined (items.map Prod.fst) ++ ']' :: rest) =
      some (items.map Prod.snd, rest) := by
  induction items generalizing fuel with
  | nil => exact absurd rfl hne
  | cons p items ih =>
      obtain ⟨hp, hitems⟩ := List.forall_mem_cons.1 h
      obtain ⟨fuel, rfl⟩ := Nat.exists_eq_add_one_of_ne_zero (Nat.ne_zero_of_lt hfuel)
      cases items with
      | nil =>
          rw [List.map_singleton, joined_singleton] at hfuel ⊢
          obtain ⟨rest', hread, hskip⟩ := hp fuel (']' :: rest) (Nat.le_of_lt_succ hfuel)
            (ends_cons (by decide) rest)
          rw [skip_cons (by decide)] at hskip
          rw [items?, hread]
          simp only [Option.bind_eq_bind, Option.bind_some, hskip]
          rfl
      | cons q items =>
          rw [List.map_cons, List.map_cons, joined_cons_cons, ← List.map_cons,
            List.length_append, List.length_cons] at hfuel
          obtain ⟨rest', hread, hskip⟩ := hp fuel
            (',' :: (joined ((q :: items).map Prod.fst) ++ ']' :: rest)) (by omega)
            (ends_cons (by decide) _)
          have hmore := ih (List.cons_ne_nil _ _) hitems (by omega : _ < fuel)
          rw [skip_cons (by decide)] at hskip
          rw [List.map_cons, List.map_cons, joined_cons_cons, ← List.map_cons, List.append_assoc,
            List.cons_append, items?, hread]
          simp only [Option.bind_eq_bind, Option.bind_some, hskip, hmore]
          rfl

/-- The first member is read, and what stands behind it tells whether there are more. -/
theorem members?_name {t : List Char} {name : String} {j : Json}
    (hname : DenotesName t name) (hvalue : value? fuel cs = some (j, rest)) :
    members? (fuel + 1) (t ++ ':' :: cs) =
      match skip rest with
      | ',' :: cs => (members? fuel cs).bind fun p => some ((some name, j) :: p.1, p.2)
      | '\x7d' :: cs => some ([(some name, j)], cs)
      | _ => none := by
  cases hname with
  | @mk front chars behind _ hfront hbehind hchars =>
      have hquote : skip (front ++ '"' :: (chars ++ '"' :: behind) ++ ':' :: cs) =
          '"' :: (chars ++ '"' :: (behind ++ ':' :: cs)) := by
        rw [List.append_assoc, skip_append hfront, List.cons_append, skip_cons (by decide),
          List.append_assoc, List.cons_append]
      have hcolon : skip (behind ++ ':' :: cs) = ':' :: cs := by
        rw [skip_append hbehind, skip_cons (by decide)]
      rw [members?, hquote]
      simp only [string?_append hchars, Option.bind_eq_bind, Option.bind_some, hcolon, hvalue]
      rfl

theorem members?_joined {members : List MemberText} (hne : members ≠ [])
    (hnames : ∀ m ∈ members, DenotesName m.nameText m.name)
    (h : ∀ m ∈ members, Readable m.valueText m.value)
    (hfuel : 2 * (joined (members.map MemberText.text)).length < fuel) (rest : List Char) :
    members? fuel (joined (members.map MemberText.text) ++ '\x7d' :: rest) =
      some (members.map MemberText.member, rest) := by
  induction members generalizing fuel with
  | nil => exact absurd rfl hne
  | cons m members ih =>
      obtain ⟨hm, hmembers⟩ := List.forall_mem_cons.1 h
      obtain ⟨hname, hnames⟩ := List.forall_mem_cons.1 hnames
      obtain ⟨fuel, rfl⟩ := Nat.exists_eq_add_one_of_ne_zero (Nat.ne_zero_of_lt hfuel)
      cases members with
      | nil =>
          rw [List.map_singleton, joined_singleton, MemberText.text, List.length_append,
            List.length_cons] at hfuel
          obtain ⟨rest', hread, hskip⟩ := hm fuel ('\x7d' :: rest) (by omega)
            (ends_cons (by decide) rest)
          rw [skip_cons (by decide)] at hskip
          rw [List.map_singleton, joined_singleton, MemberText.text, List.append_assoc,
            List.cons_append, members?_name hname hread, hskip]
          rfl
      | cons m' members =>
          rw [List.map_cons, List.map_cons, joined_cons_cons, ← List.map_cons, MemberText.text,
            List.length_append, List.length_append, List.length_cons, List.length_cons] at hfuel
          obtain ⟨rest', hread, hskip⟩ := hm fuel
            (',' :: (joined ((m' :: members).map MemberText.text) ++ '\x7d' :: rest))
            (by omega) (ends_cons (by decide) _)
          have hmore := ih (List.cons_ne_nil _ _) hnames hmembers (by omega : _ < fuel)
          rw [skip_cons (by decide)] at hskip
          rw [List.map_cons, List.map_cons, joined_cons_cons, ← List.map_cons, MemberText.text,
            List.append_assoc, List.append_assoc, List.cons_append, List.cons_append,
            members?_name hname hread, hskip]
          simp only [hmore]
          rfl

/-- Where nothing but the text itself is read, there is fuel for its first character. -/
theorem readable_of_value? {c : Char} {t : List Char} {j : Json}
    (h : ∀ (fuel : Nat) (rest : List Char), 2 * t.length < fuel → Ends rest →
      value? (fuel + 1) (c :: (t ++ rest)) = some (j, rest)) : Readable (c :: t) j := by
  intro fuel rest hfuel hrest
  rw [List.length_cons] at hfuel
  obtain ⟨fuel, rfl⟩ := Nat.exists_eq_add_of_le' (by omega : 1 ≤ fuel)
  exact ⟨rest, h fuel rest (by omega) hrest, rfl⟩

/-- Whatever denotes a value is read as that value. -/
theorem readable_of_denotes {t : List Char} {j : Json} (h : Denotes t j) : Readable t j := by
  induction h with
  | null =>
      refine readable_of_value? fun fuel rest _ _ => ?_
      rw [value?, skip_cons (by decide)]
      rfl
  | true =>
      refine readable_of_value? fun fuel rest _ _ => ?_
      rw [value?, skip_cons (by decide)]
      rfl
  | false =>
      refine readable_of_value? fun fuel rest _ _ => ?_
      rw [value?, skip_cons (by decide)]
      rfl
  | number hn =>
      obtain ⟨c, cs, htext, hc⟩ := exists_renderNumeral hn
      rw [htext]
      refine readable_of_value? fun fuel rest _ hrest => ?_
      rw [value?_number hc, ← List.cons_append, ← htext, number?_renderNumeral hn hrest]
  | string hs =>
      refine readable_of_value? fun fuel rest _ _ => ?_
      rw [value?, skip_cons (by decide), List.append_assoc]
      simp only [List.singleton_append, string?_append hs]
      rfl
  | emptyArray hws =>
      refine readable_of_value? fun fuel rest _ _ => ?_
      have hend : skip (']' :: rest) = ']' :: rest := skip_cons (by decide) rest
      rw [value?, skip_cons (by decide), List.append_assoc]
      simp only [skip_append hws, List.singleton_append, hend]
  | array hne _ ih =>
      refine readable_of_value? fun fuel rest hfuel _ => ?_
      rw [List.length_append] at hfuel
      rw [List.append_assoc]
      exact value?_array (items?_joined hne ih (by omega) rest)
  | emptyObject hws =>
      refine readable_of_value? fun fuel rest _ _ => ?_
      have hend : skip ('\x7d' :: rest) = '\x7d' :: rest := skip_cons (by decide) rest
      rw [value?, skip_cons (by decide), List.append_assoc]
      simp only [skip_append hws, List.singleton_append, hend]
  | object hne hnames _ ih =>
      refine readable_of_value? fun fuel rest hfuel _ => ?_
      rw [List.length_append] at hfuel
      rw [List.append_assoc]
      exact value?_object (members?_joined hne hnames ih (by omega) rest)
  | @before c t j hc _ ih =>
      intro fuel rest hfuel hrest
      rw [List.length_cons] at hfuel
      obtain ⟨rest', hread, hskip⟩ := ih fuel rest (by omega) hrest
      refine ⟨rest', ?_, hskip⟩
      rw [List.cons_append, ← value?_skip, skip_blank hc, value?_skip, hread]
  | @behind c t j hc _ ih =>
      intro fuel rest hfuel hrest
      rw [List.length_append] at hfuel
      obtain ⟨rest', hread, hskip⟩ := ih fuel (c :: rest) (by omega)
        (ends_cons (endsNumber_of_isBlank hc) rest)
      refine ⟨rest', ?_, hskip.trans (skip_blank hc rest)⟩
      rw [List.append_assoc, List.singleton_append, hread]

/-- Every text that denotes a value is read as that value. -/
theorem parse?_of_denotes {s : String} {j : Json} (h : Denotes s.toList j) : parse? s = some j := by
  obtain ⟨rest, hread, hskip⟩ := readable_of_denotes h (2 * s.toList.length + 2) [] (by omega) nofun
  rw [List.append_nil] at hread
  have hend : (skip rest).isEmpty = true := by rw [hskip]; rfl
  rw [parse?]
  simp only [hread, Option.bind_eq_bind, Option.bind_some, hend, if_true]
  rfl

end Json

end Extraction
