import Extraction.Proofs.Frames

/-!
# What a pattern matches

`keep`, `drop`, `extract` and `replace` each put the same question to every string, whether the
pattern has a match in it, and each does something else with the answer.  `Dealt` says of the four
frames that they make of one frame what they have to do with each other, string by string, and
`pattern_directives_agree` that every pattern gives such frames, and what follows for directives
that come one after the other.
-/

namespace Extraction

namespace Pattern

variable {p : Pattern} {s : String}

/-- Whether there is a match is what the one search says. -/
theorem isMatch_eq_false_iff : p.isMatch s = false ↔ p.find? none s.toList = none := by
  rw [isMatch, Option.isSome_eq_false_iff, Option.isNone_iff_eq_none]

theorem extract?_of_not_isMatch (h : p.isMatch s = false) : p.extract? s = none := by
  rw [extract?, isMatch_eq_false_iff.1 h]
  rfl

theorem replaceAll_of_not_isMatch (h : p.isMatch s = false) (replacement : String) :
    p.replaceAll s replacement = s := by
  rw [replaceAll, replaceFrom, isMatch_eq_false_iff.1 h]
  exact String.ofList_toList

end Pattern

/-! ## One frame -/

/-- The strings of a frame are dealt out to two, kept and dropped, in their order.  A dropped one
has nothing to extract and nothing to replace; of a kept one, anything may be extracted, and
anything put in its place. -/
inductive Dealt : (top kept dropped extracted replaced : Frame) → Prop
  | nil : Dealt [] [] [] [] []
  | keep {s extract replace : String} {top kept dropped extracted replaced : Frame} :
      Dealt top kept dropped extracted replaced →
        Dealt (s :: top) (s :: kept) dropped (extract :: extracted) (replace :: replaced)
  | drop {s : String} {top kept dropped extracted replaced : Frame} :
      Dealt top kept dropped extracted replaced →
        Dealt (s :: top) kept (s :: dropped) ("" :: extracted) (s :: replaced)

/-- A pattern deals out every frame. -/
theorem Pattern.dealt (p : Pattern) (replacement : String) (top : Frame) :
    Dealt top (top.filter p.isMatch) (top.filter fun s => !p.isMatch s)
      (top.map fun s => (p.extract? s).getD "") (top.map fun s => p.replaceAll s replacement) := by
  induction top with
  | nil => exact .nil
  | cons s top ih =>
      cases h : p.isMatch s with
      | true =>
          rw [List.filter_cons_of_pos h, List.filter_cons_of_neg (by simp [h])]
          exact .keep ih
      | false =>
          rw [List.filter_cons_of_neg (by simp [h]), List.filter_cons_of_pos (by simp [h]),
            List.map_cons, List.map_cons, extract?_of_not_isMatch h, replaceAll_of_not_isMatch h]
          exact .drop ih

/-! ## The directives -/

namespace Directive

variable {d : Directive} {text : String} {p : Pattern} {args : List String}

/-- A directive that takes a pattern makes of the top frame what it makes of the pattern. -/
theorem pushes_of_pattern (change : Pattern → FrameChange) (hp : Pattern.ofString text = .ok p)
    (hd : d.frameChange? (text :: args) = some ((patternArg (text :: args)).map change)) :
    d.Pushes (text :: args) (change p).apply := by
  have harg : patternArg (text :: args) = .ok p := by simp [patternArg, arg, hp]
  rw [harg] at hd
  exact pushes_of_frameChange? hd

theorem pushes_keep (hp : Pattern.ofString text = .ok p) (args : List String) :
    Directive.keep.Pushes (text :: args) (List.filter p.isMatch) :=
  pushes_of_pattern (fun p => .filter p.isMatch) hp rfl

theorem failsAlways_of_pattern {cause : Pattern.Error} (hd : d.takesPattern)
    (hp : Pattern.ofString text = .error cause) :
    d.FailsAlways (text :: args) (.invalidPattern text cause) := by
  have harg : patternArg (text :: args) = .error (.invalidPattern text cause) := by
    simp [patternArg, arg, hp]
  cases d with
  | drop | extract | keep | replace =>
      exact failsAlways_of_frameChange? (congrArg some (map_eq_error_iff.2 harg))
  | bundle | follow | glue | insert | label | layout | prompt | remove | select | style => cases hd

/-- With one pattern, `keep` and `drop` deal out the strings of the top frame, and `extract` and
`replace` do nothing with the strings that are dropped, whatever the replacement.  Kept are the
strings in which the pattern is found; so nothing is left if what was kept is dropped, keeping it
again changes nothing, and keeps with two patterns come to the same in either order.  With what is
not a pattern all four fail, and with the same error. -/
theorem pattern_directives_agree :
    (∀ (text : String) (p : Pattern), Pattern.ofString text = .ok p →
      ∃ keep drop extract : Frame → Frame,
        (∀ args, Directive.keep.Pushes (text :: args) keep ∧
          Directive.drop.Pushes (text :: args) drop ∧
          Directive.extract.Pushes (text :: args) extract) ∧
        (∀ args, ∃ replace : Frame → Frame, Directive.replace.Pushes (text :: args) replace ∧
          ∀ top, Dealt top (keep top) (drop top) (extract top) (replace top)) ∧
        (∀ top s, s ∈ keep top ↔ s ∈ top ∧ ∃ m, p.find? none s.toList = some m) ∧
        (∀ top s, s ∈ drop top ↔ s ∈ top ∧ p.find? none s.toList = none) ∧
        (∀ top, drop (keep top) = []) ∧
        (∀ top, keep (keep top) = keep top) ∧
        ∀ (text' : String) (p' : Pattern), Pattern.ofString text' = .ok p' →
          ∃ keep' : Frame → Frame, (∀ args, Directive.keep.Pushes (text' :: args) keep') ∧
            ∀ top, keep' (keep top) = keep (keep' top)) ∧
    ∀ (text : String) (cause : Pattern.Error), Pattern.ofString text = .error cause →
      ∀ (d : Directive) (args : List String), d.takesPattern →
        d.FailsAlways (text :: args) (.invalidPattern text cause) := by
  constructor
  · intro text p hp
    have hdrop (args : List String) :
        Directive.drop.Pushes (text :: args) (List.filter fun s => !p.isMatch s) :=
      pushes_of_pattern (fun p => .filter fun s => !p.isMatch s) hp rfl
    have hextract (args : List String) :
        Directive.extract.Pushes (text :: args) (List.map fun s => (p.extract? s).getD "") :=
      pushes_of_pattern (fun p => .map fun s => (p.extract? s).getD "") hp rfl
    refine ⟨_, _, _, fun args => ⟨pushes_keep hp args, hdrop args, hextract args⟩, ?_, ?_, ?_, ?_,
      ?_, ?_⟩
    · intro args
      let replacement := expandSpaces (args.getD 0 "")
      exact ⟨List.map fun s => p.replaceAll s replacement,
        pushes_of_pattern (fun p => .map fun s => p.replaceAll s replacement) hp rfl,
        p.dealt replacement⟩
    · intro top s
      rw [List.mem_filter, Pattern.isMatch, Option.isSome_iff_exists]
    · intro top s
      rw [List.mem_filter, Bool.not_eq_true', Pattern.isMatch_eq_false_iff]
    · intro top
      rw [List.filter_filter, List.filter_eq_nil_iff]
      simp
    · intro top
      rw [List.filter_filter]
      simp
    · intro text' p' hp'
      refine ⟨List.filter p'.isMatch, pushes_keep hp', fun top => ?_⟩
      rw [List.filter_filter, List.filter_filter]
      exact List.filter_congr fun s _ => Bool.and_comm _ _
  · intro text cause hp d args hd
    exact failsAlways_of_pattern hd hp

/-- Two patterns on a frame with an empty string and a string twice, and what is not a pattern. -/
theorem pattern_directives_agree_frame_of_five :
    let top : Frame := ["ab", "", "cd", "bbd", "ab"]
    (∃ keep drop extract replace keep' : Frame → Frame,
      Directive.keep.Pushes ["(b+)"] keep ∧ Directive.extract.Pushes ["(b+)"] extract ∧
      Directive.replace.Pushes ["(b+)", "<space>"] replace ∧ Directive.keep.Pushes ["c?d"] keep' ∧
      Dealt top (keep top) (drop top) (extract top) (replace top) ∧
      keep top = ["ab", "bbd", "ab"] ∧ extract top = ["b", "", "", "bb", "b"] ∧
      drop (keep top) = [] ∧ keep (keep top) = keep top ∧ keep' (keep top) = keep (keep' top)) ∧
    ∃ cause, Directive.extract.FailsAlways ["[a-"] (.invalidPattern "[a-" cause) := by
  intro top
  obtain ⟨p, hp⟩ : ∃ p, Pattern.ofString "(b+)" = .ok p := ⟨_, rfl⟩
  obtain ⟨p', hp'⟩ : ∃ p, Pattern.ofString "c?d" = .ok p := ⟨_, rfl⟩
  obtain ⟨cause, hcause⟩ : ∃ cause, Pattern.ofString "[a-" = .error cause := ⟨_, rfl⟩
  obtain ⟨hagree, hrejected⟩ := pattern_directives_agree
  obtain ⟨keep, drop, extract, hpushes, hreplace, -, -, hnone, htwice, hother⟩ := hagree _ p hp
  obtain ⟨keep', hpushes', hcommute⟩ := hother _ p' hp'
  obtain ⟨replace, hreplace, hdealt⟩ := hreplace ["<space>"]
  obtain ⟨hkeep, -, hextract⟩ := hpushes []
  have hkept : (Directive.keep.execute (.blank : Document Unit) {} ⟨[top]⟩ ["(b+)"]).2 =
      .ok ⟨[top, ["ab", "bbd", "ab"]]⟩ := by rfl
  have hextracted : (Directive.extract.execute (.blank : Document Unit) {} ⟨[top]⟩ ["(b+)"]).2 =
      .ok ⟨[top, ["b", "", "", "bb", "b"]]⟩ := by rfl
  refine ⟨⟨keep, drop, extract, replace, keep', hkeep, hextract, hreplace, hpushes' [],
    hdealt top, ?_, ?_, hnone top, htwice top, hcommute top⟩, cause, hrejected _ _ hcause _ _ rfl⟩
  · exact (hkeep.top_eq hkept).symm
  · exact (hextract.top_eq hextracted).symm

end Directive

end Extraction
