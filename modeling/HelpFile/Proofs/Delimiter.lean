import HelpFile.Delimiter
import HelpFile.Proofs.Text.Lines
import Mathlib.Data.List.TakeWhile

/-!
# The sweep line by line

The sweep over a finished text does to each line what `flushLine` says and nothing else. So it
distributes over texts joined at a line feed, and leaves a line alone that shows anything but marks.
-/
namespace HelpFile.Delimiter
open Text

/-- What can stand behind a line: nothing, or a line feed and more. -/
def Follows (after : Text) : Prop := after = [] ∨ ∃ more, after = '\n' :: more

theorem exists_first_line (text : Text) :
    ∃ line after, text = line ++ after ∧ '\n' ∉ line ∧ Follows after := by
  induction text with
  | nil => exact ⟨[], [], rfl, by simp, Or.inl rfl⟩
  | cons c rest ih =>
    by_cases hc : c = '\n'
    · exact ⟨[], c :: rest, rfl, by simp, Or.inr ⟨rest, by rw [hc]⟩⟩
    · obtain ⟨line, after, rfl, hl, ha⟩ := ih
      exact ⟨c :: line, after, rfl, by simp [Ne.symm hc, hl], ha⟩

theorem lines_follows {after : Text} (ha : Follows after) : ∃ more, lines after = [] :: more := by
  rcases ha with rfl | ⟨more, rfl⟩
  · exact ⟨[], rfl⟩
  · exact ⟨lines more, rfl⟩

theorem dropWhile_padding_append (line : Text) {after : Text} (ha : Follows after) :
    (line ++ after).dropWhile isPadding = line.dropWhile isPadding ++ after := by
  induction line with
  | nil => rcases ha with rfl | ⟨more, rfl⟩ <;> rfl
  | cons c line ih =>
    by_cases hc : isPadding c
    · simpa [hc] using ih
    · simp [hc]

/-- A mark line is recognised by its first line alone, and is the line that `flushLine` changes. -/
theorem markLine?_cases {line : Text} (hl : '\n' ∉ line) {after : Text} (ha : Follows after) :
    (∃ mark, markLine? (line ++ after) = some (mark, after) ∧ flushLine line = [mark]) ∨
      (markLine? (line ++ after) = none ∧ flushLine line = line) := by
  unfold markLine? flushLine
  rw [dropWhile_padding_append line ha]
  cases h : line.dropWhile isPadding with
  | nil =>
    right
    rcases ha with rfl | ⟨more, rfl⟩ <;> simp [isMark]
  | cons c rest =>
    have hr : '\n' ∉ rest := fun m =>
      hl ((List.dropWhile_sublist _).subset (h ▸ List.mem_cons_of_mem c m))
    by_cases hc : isMark c
    · simp only [List.cons_append, hc, if_true, Bool.true_and, dropWhile_padding_append rest ha]
      cases hd : rest.dropWhile isPadding with
      | nil =>
        left
        have hp : rest.all isPadding = true :=
          List.all_eq_true.mpr (List.dropWhile_eq_nil_iff.mp hd)
        refine ⟨c, ?_, by rw [hp]; rfl⟩
        rcases ha with rfl | ⟨more, rfl⟩ <;> simp
      | cons d more =>
        right
        have hn : d ≠ '\n' := by
          rintro rfl
          exact hr ((List.dropWhile_sublist _).subset (hd ▸ List.mem_cons_self))
        have hp : rest.all isPadding ≠ true := fun hall => by
          rw [List.dropWhile_eq_nil_iff.mpr (List.all_eq_true.mp hall)] at hd
          simp at hd
        simp [hn, hp]
    · right
      simp [hc]

theorem markLine?_some {text after : Text} {mark : Char} {line : Text} {more : List Text}
    (hm : markLine? text = some (mark, after)) (hl : lines text = line :: more) :
    flushLine line = [mark] ∧ lines after = [] :: more := by
  obtain ⟨first, rest, rfl, hf, hr⟩ := exists_first_line text
  obtain ⟨others, ho⟩ := lines_follows hr
  rw [lines_append_of_not_mem hf ho, List.append_nil] at hl
  obtain ⟨rfl, rfl⟩ := List.cons.inj hl
  rcases markLine?_cases hf hr with ⟨mark', hs, hk⟩ | ⟨hn, -⟩
  · obtain ⟨rfl, rfl⟩ := Prod.mk.inj (Option.some.inj (hs.symm.trans hm))
    exact ⟨hk, ho⟩
  · simp [hn] at hm

theorem markLine?_none {text line : Text} {more : List Text} (hm : markLine? text = none)
    (hl : lines text = line :: more) : flushLine line = line := by
  obtain ⟨first, rest, rfl, hf, hr⟩ := exists_first_line text
  obtain ⟨others, ho⟩ := lines_follows hr
  rw [lines_append_of_not_mem hf ho, List.append_nil] at hl
  obtain ⟨rfl, rfl⟩ := List.cons.inj hl
  rcases markLine?_cases hf hr with ⟨mark', hs, -⟩ | ⟨-, hk⟩
  · simp [hs] at hm
  · exact hk

theorem unlines_cons_char (c : Char) (line : Text) (more : List Text) :
    unlines ((c :: line) :: more) = c :: unlines (line :: more) := by
  cases more <;> rfl

theorem sweep_char (c : Char) (rest : Text) {line : Text} {more : List Text}
    (h : lines (c :: rest) = line :: more)
    (ih : ∀ line more, lines rest = line :: more → sweep (c == '\n') rest =
      unlines ((if c == '\n' then flushLine line else line) :: more.map flushLine)) :
    c :: sweep (c == '\n') rest = unlines (line :: more.map flushLine) := by
  obtain ⟨first, others, hr⟩ := exists_lines rest
  rw [ih first others hr]
  by_cases hc : c = '\n'
  · subst c
    obtain ⟨rfl, rfl⟩ := List.cons.inj ((lines_newline rest).symm.trans h)
    simp [hr, unlines]
  · obtain ⟨rfl, rfl⟩ := List.cons.inj ((lines_cons hc hr).symm.trans h)
    simp [hc, unlines_cons_char]

/-- From inside a line the sweep keeps the rest of that line. -/
theorem sweep_eq (atStart : Bool) (text : Text) {line : Text} {more : List Text}
    (h : lines text = line :: more) :
    sweep atStart text =
      unlines ((if atStart then flushLine line else line) :: more.map flushLine) := by
  induction atStart, text using sweep.induct generalizing line more with
  | case1 atStart =>
    obtain ⟨rfl, rfl⟩ := List.cons.inj h
    cases atStart <;> simp [sweep, flushLine, unlines]
  | case2 c rest mark after hm ih =>
    obtain ⟨hf, ho⟩ := markLine?_some hm h
    rw [sweep, if_pos rfl]
    split
    · next mark' after' hm' =>
      obtain ⟨rfl, rfl⟩ := Prod.mk.inj (Option.some.inj (hm.symm.trans hm'))
      simp [ih ho, hf, unlines_cons_char]
    · next hm' => simp [hm] at hm'
  | case3 c rest hm ih =>
    have hf := markLine?_none hm h
    rw [sweep, if_pos rfl, if_pos rfl, hf]
    split
    · next hm' => simp [hm] at hm'
    · exact sweep_char c rest h fun _ _ hr => ih hr
  | case4 atStart c rest h0 ih =>
    obtain rfl : atStart = false := by simpa using h0
    rw [sweep, if_neg Bool.false_ne_true, if_neg Bool.false_ne_true]
    exact sweep_char c rest h fun _ _ hr => ih hr

theorem flushLeft_eq_flushLines (text : Text) : flushLeft text = flushLines text := by
  obtain ⟨line, more, h⟩ := exists_lines text
  rw [flushLeft, sweep_eq true text h, flushLines, h]
  rfl

theorem flushLeft_nil : flushLeft [] = [] := by
  rw [flushLeft_eq_flushLines]
  rfl

theorem flushLeft_append_newline (a b : Text) :
    flushLeft (a ++ '\n' :: b) = flushLeft a ++ '\n' :: flushLeft b := by
  have hmap : ∀ text, (lines text).map flushLine ≠ [] := by
    intro text
    simpa using lines_ne_nil text
  rw [flushLeft_eq_flushLines, flushLeft_eq_flushLines, flushLeft_eq_flushLines, flushLines,
    flushLines, flushLines, lines_append_newline, List.map_append, unlines_append _ (hmap b),
    ofLines_eq (hmap a), List.append_assoc, List.singleton_append]

/-- Nothing is swept across a line end. -/
theorem flushLeft_append {a : Text} (ha : Ended a) (b : Text) :
    flushLeft (a ++ b) = flushLeft a ++ flushLeft b := by
  rcases ha with rfl | ⟨s, rfl⟩
  · rw [flushLeft_nil]
    rfl
  · rw [List.append_assoc, List.singleton_append, flushLeft_append_newline,
      flushLeft_append_newline, flushLeft_nil, List.append_assoc, List.singleton_append]

theorem flushLeft_ofLines {ls : List Text} (h : ∀ l ∈ ls, '\n' ∉ l) :
    flushLeft (ofLines ls) = ofLines (ls.map flushLine) := by
  have hl := lines_ofLines_append h []
  rw [List.append_nil] at hl
  rw [flushLeft_eq_flushLines, flushLines, hl, List.map_append,
    unlines_append _ (by simp [lines])]
  simp [lines, unlines, flushLine]

theorem flushLine_cases (line : Text) :
    flushLine line = line ∨ ∃ mark ∈ line, isMark mark ∧ flushLine line = [mark] := by
  unfold flushLine
  cases h : line.dropWhile isPadding with
  | nil => exact Or.inl rfl
  | cons c rest =>
    by_cases hc : isMark c && rest.all isPadding
    · right
      refine ⟨c, ?_, by simp_all, by simp [hc]⟩
      exact (List.dropWhile_sublist _).subset (h ▸ List.mem_cons_self)
    · simp [hc]

theorem mem_of_mem_flushLine {line : Text} {c : Char} (h : c ∈ flushLine line) : c ∈ line := by
  rcases flushLine_cases line with hl | ⟨mark, hm, -, hl⟩
  · rwa [hl] at h
  · rw [hl] at h
    exact List.mem_singleton.mp h ▸ hm

theorem newline_not_mem_flushLine {line : Text} (h : '\n' ∉ line) : '\n' ∉ flushLine line :=
  fun hm => h (mem_of_mem_flushLine hm)

def LoneMark (line : Text) : Prop :=
  ∃ before mark after, line = before ++ mark :: after ∧ isMark mark ∧
    (∀ c ∈ before, isPadding c) ∧ ∀ c ∈ after, isPadding c

theorem not_isPadding_of_isMark {c : Char} (h : isMark c) : ¬ isPadding c := by
  intro hp
  simp only [isMark, isPadding, Bool.or_eq_true, beq_iff_eq] at h hp
  rcases h with rfl | rfl <;> simp at hp

theorem flushLine_padded {before after : Text} {mark : Char} (hm : isMark mark)
    (hb : ∀ c ∈ before, isPadding c) (ha : ∀ c ∈ after, isPadding c) :
    flushLine (before ++ mark :: after) = [mark] := by
  have hd : (before ++ mark :: after).dropWhile isPadding = mark :: after := by
    rw [List.dropWhile_append_of_pos hb,
      List.dropWhile_cons_of_neg (not_isPadding_of_isMark hm)]
  have hall : after.all isPadding = true := List.all_eq_true.mpr ha
  rw [flushLine, hd]
  simp [hm, hall]

theorem flushLine_of_loneMark {line : Text} (h : LoneMark line) :
    ∃ mark, isMark mark ∧ flushLine line = [mark] := by
  obtain ⟨before, mark, after, rfl, hm, hb, ha⟩ := h
  exact ⟨mark, hm, flushLine_padded hm hb ha⟩

theorem flushLine_of_not_loneMark {line : Text} (h : ¬ LoneMark line) : flushLine line = line := by
  unfold flushLine
  cases hd : line.dropWhile isPadding with
  | nil => rfl
  | cons c rest =>
    have hk : ¬ (isMark c && rest.all isPadding) := by
      intro hk
      obtain ⟨hm, hr⟩ := Bool.and_eq_true_iff.mp hk
      refine h ⟨line.takeWhile isPadding, c, rest, ?_, hm, ?_, List.all_eq_true.mp hr⟩
      · rw [← hd, List.takeWhile_append_dropWhile]
      · intro d hdm
        exact List.mem_takeWhile_imp hdm
    simp [hk]

theorem loneMark_spaces_append {n : Nat} {line : Text} :
    LoneMark (Text.spaces n ++ line) ↔ LoneMark line := by
  induction n with
  | zero => rfl
  | succ n ih =>
    rw [← ih]
    constructor
    · rintro ⟨before, mark, after, ht, hm, hb, ha⟩
      cases before with
      | nil =>
        obtain ⟨rfl, -⟩ := List.cons.inj ht
        simp [isMark] at hm
      | cons c before =>
        obtain ⟨-, ht⟩ := List.cons.inj ht
        exact ⟨before, mark, after, ht, hm, fun d hd => hb d (List.mem_cons_of_mem _ hd), ha⟩
    · rintro ⟨before, mark, after, ht, hm, hb, ha⟩
      refine ⟨' ' :: before, mark, after, congrArg (' ' :: ·) ht, hm, ?_, ha⟩
      intro d hd
      rcases List.mem_cons.mp hd with rfl | hd
      · rfl
      · exact hb d hd

theorem not_loneMark_of_mem {line : Text} {c : Char} (hc : c ∈ line) (hm : ¬ isMark c)
    (hp : ¬ isPadding c) : ¬ LoneMark line := by
  rintro ⟨before, mark, after, rfl, hmark, hb, ha⟩
  rcases List.mem_append.mp hc with hc | hc
  · exact hp (hb c hc)
  · rcases List.mem_cons.mp hc with rfl | hc
    · exact hm hmark
    · exact hp (ha c hc)

/-- A line that shows anything but one mark is left as it is. -/
theorem flushLine_of_mem {line : Text} {c : Char} (hc : c ∈ line) (hm : ¬ isMark c)
    (hp : ¬ isPadding c) : flushLine line = line :=
  flushLine_of_not_loneMark (not_loneMark_of_mem hc hm hp)

theorem loneMark_singleton {mark : Char} (hm : isMark mark) : LoneMark [mark] :=
  ⟨[], mark, [], rfl, hm, by simp, by simp⟩

/-- The sweep leaves a mark alone in its line if and only if nothing but padding was around it. -/
theorem flushLine_alone_iff {mark : Char} (hm : isMark mark) (line : Text) :
    (mark ∈ flushLine line → flushLine line = [mark]) ↔ (mark ∈ line → LoneMark line) := by
  by_cases hl : LoneMark line
  · obtain ⟨other, -, hf⟩ := flushLine_of_loneMark hl
    rw [hf]
    refine iff_of_true (fun hmem => ?_) fun _ => hl
    rw [List.mem_singleton.mp hmem]
  · rw [flushLine_of_not_loneMark hl]
    refine imp_congr_right fun _ => ⟨fun he => ?_, fun h => absurd h hl⟩
    exact he ▸ loneMark_singleton hm

theorem flushLine_spaces (n : Nat) {mark : Char} (hm : isMark mark) :
    flushLine (Text.spaces n ++ [mark]) = [mark] := by
  apply flushLine_padded hm
  · intro c hc
    rw [List.eq_of_mem_replicate hc]
    rfl
  · simp

end HelpFile.Delimiter
