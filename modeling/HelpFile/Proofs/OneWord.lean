import HelpFile.Proofs.Tag
import HelpFile.Text.Blank

/-!
# Tags of one word

A viewer reads a tag up to the next blank. Case mapping keeps blanks and makes none, and of the
blanks in a heading its slug loses only the spaces. So a tag is one word if and only if the heading
has no blank but spaces and the name of the file has none at all.
-/
namespace HelpFile

namespace Text

def isBlankNumber (n : Nat) : Bool := blankRanges.any fun r => r.1 ≤ n && n ≤ r.2

theorem isBlank_eq (c : Char) : isBlank c = isBlankNumber c.toNat := rfl

theorem ne_of_isBlank {c d : Char} (hd : isBlank d) (hc : isBlank c = false) : d ≠ c := by
  rintro rfl
  simp [hc] at hd

/-- Whether a shift moves nothing out of a range of numbers and nothing into it. -/
def CaseShift.avoids (s : CaseShift) (range : Nat × Nat) : Bool :=
  (s.last < range.1 || range.2 < s.first) &&
    (s.last + s.offset < range.1 || range.2 < s.first + s.offset)

def CaseMap.keepsBlanks (m : CaseMap) : Bool :=
  m.shifts.all (fun s => blankRanges.all s.avoids) &&
    m.expansions.all fun e => !isBlankNumber e.1 && e.2.all (!isBlankNumber ·)

theorem upperMap_keepsBlanks : upperMap.keepsBlanks := by decide +kernel

theorem lowerMap_keepsBlanks : lowerMap.keepsBlanks := by decide +kernel

theorem CaseShift.not_blank_of_covers {s : CaseShift} (hs : blankRanges.all s.avoids) {n : Nat}
    (hn : s.covers n) :
    isBlankNumber n = false ∧ isBlankNumber (n + s.offset).toNat = false := by
  have hbounds : s.first ≤ n ∧ n ≤ s.last := by
    simp only [covers, Bool.and_eq_true, decide_eq_true_eq] at hn
    exact hn.1
  have havoids : ∀ r ∈ blankRanges, (s.last < r.1 ∨ r.2 < s.first) ∧
      (s.last + s.offset < r.1 ∨ r.2 < s.first + s.offset) := by
    simpa [avoids] using hs
  -- A sum below zero is cut off to zero, which is not a blank either.
  have hpositive : ∀ r ∈ blankRanges, 0 < r.1 := by decide
  constructor
  · refine List.any_eq_false.mpr fun r hr => ?_
    have := havoids r hr
    simp only [Bool.and_eq_true, decide_eq_true_eq]
    omega
  · refine List.any_eq_false.mpr fun r hr => ?_
    have := havoids r hr
    have := hpositive r hr
    simp only [Bool.and_eq_true, decide_eq_true_eq]
    omega

theorem CaseMap.not_blank_of_lookup {m : CaseMap} (hm : m.keepsBlanks) {n : Nat} {ns : List Nat}
    (h : m.expansions.lookup n = some ns) :
    isBlankNumber n = false ∧ ∀ k ∈ ns, isBlankNumber k = false := by
  obtain ⟨before, after, he, -⟩ := List.lookup_eq_some_iff.mp h
  have hmem : (n, ns) ∈ m.expansions := by simp [he]
  have hentry := List.all_eq_true.mp (Bool.and_eq_true_iff.mp hm).2 _ hmem
  simpa using hentry

theorem CaseMap.not_blank_of_find? {m : CaseMap} (hm : m.keepsBlanks) {n : Nat} {s : CaseShift}
    (h : m.shifts.find? (·.covers n) = some s) :
    isBlankNumber n = false ∧ isBlankNumber (n + s.offset).toNat = false := by
  have hs := List.all_eq_true.mp (Bool.and_eq_true_iff.mp hm).1 s (List.mem_of_find?_eq_some h)
  have hn : s.covers n := by simpa using List.find?_some h
  exact CaseShift.not_blank_of_covers hs hn

theorem isBlank_ofNat {n : Nat} (h : isBlankNumber n = false) : isBlank (Char.ofNat n) = false := by
  have hnull : isBlankNumber 0 = false := by decide
  rw [isBlank_eq]
  rcases toNat_ofNat n with hn | hn <;> rw [hn] <;> assumption

theorem CaseMap.apply_of_isBlank {m : CaseMap} (hm : m.keepsBlanks) {c : Char} (hc : isBlank c) :
    m.apply c = [c] := by
  rw [isBlank_eq] at hc
  unfold apply
  split
  · next ns hns => simp [(not_blank_of_lookup hm hns).1] at hc
  · split
    · next s hs => simp [(not_blank_of_find? hm hs).1] at hc
    · rfl

theorem CaseMap.not_isBlank_of_mem_apply {m : CaseMap} (hm : m.keepsBlanks) {c d : Char}
    (hc : isBlank c = false) (hd : d ∈ m.apply c) : isBlank d = false := by
  unfold apply at hd
  split at hd
  · next ns hns =>
    obtain ⟨n, hn, rfl⟩ := List.mem_map.mp hd
    exact isBlank_ofNat ((not_blank_of_lookup hm hns).2 n hn)
  · split at hd
    · next s hs =>
      obtain rfl := List.mem_singleton.mp hd
      exact isBlank_ofNat (not_blank_of_find? hm hs).2
    · exact List.mem_singleton.mp hd ▸ hc

/-- What a case mapping makes of a character has a blank in it only if the character is that
blank. -/
theorem CaseMap.mem_apply_iff {m : CaseMap} (hm : m.keepsBlanks) {c d : Char} (hd : isBlank d) :
    d ∈ m.apply c ↔ d = c := by
  cases hc : isBlank c with
  | true => rw [apply_of_isBlank hm hc, List.mem_singleton]
  | false =>
    refine iff_of_false (fun h => ?_) (ne_of_isBlank hd hc)
    exact ne_of_isBlank hd (not_isBlank_of_mem_apply hm hc h) rfl

theorem mem_lowerAfter_iff {d : Char} (hd : isBlank d) (before text : Text) :
    d ∈ lowerAfter before text ↔ d ∈ text := by
  induction text generalizing before with
  | nil => rfl
  | cons c rest ih =>
    rw [lowerAfter, List.mem_append, ih, List.mem_cons]
    refine or_congr_left ?_
    split
    · next hc =>
      have hsigma : ['Σ', 'ς', 'σ'].all (!isBlank ·) := by decide
      have hne : ∀ c ∈ ['Σ', 'ς', 'σ'], d ≠ c := fun c hc =>
        ne_of_isBlank hd (by simpa using List.all_eq_true.mp hsigma c hc)
      rw [hc]
      split <;> simp_all
    · exact CaseMap.mem_apply_iff lowerMap_keepsBlanks hd

end Text

namespace Tag
open Text

theorem mem_capitalizeFrom_iff {d : Char} (hd : isBlank d) (before : Bool) (text : Text) :
    d ∈ capitalizeFrom before text ↔ d ∈ text := by
  induction text generalizing before with
  | nil => rfl
  | cons c rest ih =>
    rw [capitalizeFrom, List.mem_append, ih, List.mem_cons]
    refine or_congr_left ?_
    split
    · exact CaseMap.mem_apply_iff upperMap_keepsBlanks hd
    · exact List.mem_singleton

/-- A slug has all blanks of the heading but its spaces. -/
theorem mem_slug_iff {d : Char} (hd : isBlank d) (text : Text) (pascal : Bool) :
    d ∈ slug text pascal ↔ d ∈ text ∧ d ≠ ' ' := by
  cases pascal with
  | true => simp [slug, capitalize, mem_capitalizeFrom_iff hd]
  | false =>
    have hunder : d ≠ '_' := ne_of_isBlank hd (by decide)
    have hlower : d ∈ lower text ↔ d ∈ text := mem_lowerAfter_iff hd [] text
    rw [← hlower]
    simp only [slug, Bool.false_eq_true, if_false, List.mem_map]
    constructor
    · rintro ⟨c, hc, rfl⟩
      split at hunder
      · exact absurd rfl hunder
      · next hspace => simpa [hspace] using hc
    · rintro ⟨hm, hspace⟩
      exact ⟨d, hm, if_neg hspace⟩

end Tag

def nameStem (filename : Text) : Text :=
  (Path.beforeLastDot? (Path.ofText filename).name).getD (Path.ofText filename).name

theorem mem_helpTitle_iff {d : Char} (hd : Text.isBlank d) (filename : Text) (pascal : Bool) :
    d ∈ helpTitle filename pascal ↔ d ∈ nameStem filename := by
  cases hb : Path.beforeLastDot? (Path.ofText filename).name with
  | none => simp [helpTitle, nameStem, hb]
  | some base =>
    have hlower : d ∈ Text.lower base ↔ d ∈ base := Text.mem_lowerAfter_iff hd [] base
    cases pascal <;> simp [helpTitle, nameStem, hb, hlower]

namespace Tag
open Text

def OneWord (tag : Text) : Prop := ∀ c ∈ tag, ¬ isBlank c

instance (tag : Text) : Decidable (OneWord tag) :=
  List.decidableBAll _ tag

theorem mem_ofHeading_iff {d : Char} (hd : isBlank d) (filename text : Text) (pascal : Bool) :
    d ∈ ofHeading (helpTitle filename pascal) text pascal ↔
      d ∈ nameStem filename ∨ d ∈ text ∧ d ≠ ' ' := by
  have hdash : d ≠ '-' := ne_of_isBlank hd (by decide)
  rw [ofHeading, List.mem_append, List.mem_cons, mem_helpTitle_iff hd, mem_slug_iff hd]
  simp [hdash]

/-- The tag of a heading is one word if and only if the name of the file, its extension left out,
has no blank and the heading has no blank other than spaces. -/
theorem ofHeading_one_word_iff (filename text : Text) (pascal : Bool) :
    OneWord (ofHeading (helpTitle filename pascal) text pascal) ↔
      OneWord (nameStem filename) ∧ ∀ c ∈ text, isBlank c → c = ' ' := by
  constructor
  · intro h
    refine ⟨fun d hm hd => ?_, fun d hm hd => ?_⟩
    · exact h d ((mem_ofHeading_iff hd _ _ _).mpr (Or.inl hm)) hd
    · by_cases hspace : d = ' '
      · exact hspace
      · exact absurd hd (h d ((mem_ofHeading_iff hd _ _ _).mpr (Or.inr ⟨hm, hspace⟩)))
  · rintro ⟨hstem, htext⟩ d hm hd
    rcases (mem_ofHeading_iff hd _ _ _).mp hm with hm | ⟨hm, hspace⟩
    · exact hstem d hm hd
    · exact hspace (htext d hm hd)

/-- A space in the name of the file stays in the tags, in either case, and so does a tab in a
heading. -/
theorem tags_of_two_words :
    ofHeading (helpTitle "my plugin.txt".toList false) "Usage".toList false =
      "my plugin-usage".toList ∧
    ofHeading (helpTitle "my plugin.txt".toList true) "Usage".toList true =
      "my plugin-Usage".toList ∧
    ofHeading (helpTitle "doc.txt".toList false) "Set\tup".toList false = "doc-set\tup".toList ∧
    ¬ OneWord "my plugin-usage".toList ∧ ¬ OneWord "my plugin-Usage".toList ∧
      ¬ OneWord "doc-set\tup".toList := by
  decide +kernel

end Tag
end HelpFile
