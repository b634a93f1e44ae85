import HelpFile.Text.Basic

/-!
# Lines of a text

Cutting a text into lines and writing lines out are inverse to each other, and cutting distributes
over texts joined at a line feed. A text that is empty or ends with a line feed is called ended.
-/
namespace HelpFile.Text

def ofLines (ls : List Text) : Text := ls.flatMap (· ++ ['\n'])

def Ended (text : Text) : Prop := text = [] ∨ ∃ before, text = before ++ ['\n']

@[simp] theorem ofLines_nil : ofLines [] = [] := rfl

@[simp] theorem ofLines_cons (l : Text) (ls : List Text) :
    ofLines (l :: ls) = l ++ '\n' :: ofLines ls := by simp [ofLines]

@[simp] theorem ofLines_append (ls ms : List Text) :
    ofLines (ls ++ ms) = ofLines ls ++ ofLines ms := by simp [ofLines]

theorem ended_append {a b : Text} (ha : Ended a) (hb : Ended b) : Ended (a ++ b) := by
  rcases hb with rfl | ⟨s, rfl⟩
  · simpa using ha
  · exact Or.inr ⟨a ++ s, by simp⟩

theorem ended_append_newline (text : Text) : Ended (text ++ ['\n']) := Or.inr ⟨text, rfl⟩

theorem append_ended {a b : Text} (ha : ∃ before, a = before ++ ['\n']) (hb : Ended b) :
    ∃ before, a ++ b = before ++ ['\n'] := by
  rcases hb with rfl | ⟨s, rfl⟩
  · simpa using ha
  · exact ⟨a ++ s, by simp⟩

theorem ended_ofLines (ls : List Text) : Ended (ofLines ls) := by
  induction ls with
  | nil => exact Or.inl rfl
  | cons l ls ih =>
    rw [ofLines_cons, ← List.singleton_append, ← List.append_assoc]
    exact ended_append (ended_append_newline l) ih

theorem lines_newline (rest : Text) : lines ('\n' :: rest) = [] :: lines rest := rfl

theorem lines_ne_nil (text : Text) : lines text ≠ [] := by
  unfold lines
  split
  · simp
  · split
    · simp
    · split <;> simp

theorem lines_cons {c : Char} (hc : c ≠ '\n') {rest line : Text} {more : List Text}
    (h : lines rest = line :: more) : lines (c :: rest) = (c :: line) :: more := by
  rw [lines, if_neg hc, h]

theorem exists_lines (text : Text) : ∃ line more, lines text = line :: more :=
  List.exists_cons_of_ne_nil (lines_ne_nil text)

theorem lines_append_of_not_mem {l : Text} (hl : '\n' ∉ l) {rest line : Text} {more : List Text}
    (h : lines rest = line :: more) : lines (l ++ rest) = (l ++ line) :: more := by
  induction l with
  | nil => exact h
  | cons c l ih =>
    have hc : c ≠ '\n' := fun e => hl (e ▸ List.mem_cons_self)
    exact lines_cons hc (ih fun m => hl (List.mem_cons_of_mem _ m))

theorem lines_of_not_mem {l : Text} (hl : '\n' ∉ l) : lines l = [l] := by
  have h : lines (l ++ []) = [l ++ []] := lines_append_of_not_mem hl rfl
  simpa using h

theorem lines_append_newline (a b : Text) : lines (a ++ '\n' :: b) = lines a ++ lines b := by
  induction a with
  | nil => rfl
  | cons c a ih =>
    by_cases hc : c = '\n'
    · subst c
      rw [List.cons_append, lines_newline, ih, lines_newline, List.cons_append]
    · obtain ⟨line, more, h⟩ := exists_lines a
      have hab : lines (a ++ '\n' :: b) = line :: (more ++ lines b) := by rw [ih, h]; rfl
      rw [List.cons_append, lines_cons hc hab, lines_cons hc h]
      rfl

theorem newline_not_mem_of_mem_lines {text l : Text} (h : l ∈ lines text) : '\n' ∉ l := by
  induction text generalizing l with
  | nil => simp_all [lines]
  | cons c rest ih =>
    by_cases hc : c = '\n'
    · subst c
      rcases List.mem_cons.mp (lines_newline rest ▸ h) with rfl | h
      · simp
      · exact ih h
    · obtain ⟨line, more, hl⟩ := exists_lines rest
      rw [lines_cons hc hl] at h
      rcases List.mem_cons.mp h with rfl | h
      · have hn : '\n' ∉ line := ih (by simp [hl])
        simp [Ne.symm hc, hn]
      · exact ih (by simp [hl, h])

theorem mem_of_mem_lines {text l : Text} (h : l ∈ lines text) {c : Char} (hc : c ∈ l) :
    c ∈ text := by
  induction text generalizing l with
  | nil => simp_all [lines]
  | cons d rest ih =>
    by_cases hd : d = '\n'
    · subst d
      rcases List.mem_cons.mp (lines_newline rest ▸ h) with rfl | h
      · simp at hc
      · exact List.mem_cons_of_mem _ (ih h hc)
    · obtain ⟨line, more, hl⟩ := exists_lines rest
      rw [lines_cons hd hl] at h
      rcases List.mem_cons.mp h with rfl | h
      · rcases List.mem_cons.mp hc with rfl | hc
        · exact List.mem_cons_self
        · exact List.mem_cons_of_mem _ (ih (by simp [hl]) hc)
      · exact List.mem_cons_of_mem _ (ih (by simp [hl, h]) hc)

theorem lines_ofLines_append {ls : List Text} (h : ∀ l ∈ ls, '\n' ∉ l) (rest : Text) :
    lines (ofLines ls ++ rest) = ls ++ lines rest := by
  induction ls with
  | nil => rfl
  | cons l ls ih =>
    rw [ofLines_cons, List.append_assoc, List.cons_append, lines_append_newline,
      lines_of_not_mem (h l List.mem_cons_self), ih fun k m => h k (List.mem_cons_of_mem _ m)]
    rfl

theorem ofLines_lines (text : Text) : ofLines (lines text) = text ++ ['\n'] := by
  induction text with
  | nil => rfl
  | cons c rest ih =>
    by_cases hc : c = '\n'
    · subst c
      rw [lines_newline, ofLines_cons, ih]
      rfl
    · obtain ⟨line, more, h⟩ := exists_lines rest
      rw [lines_cons hc h]
      rw [h, ofLines_cons] at ih
      rw [ofLines_cons, List.cons_append, ih, List.cons_append]

theorem unlines_cons (l : Text) {ls : List Text} (h : ls ≠ []) :
    unlines (l :: ls) = l ++ '\n' :: unlines ls := by
  obtain ⟨m, ms, rfl⟩ := List.exists_cons_of_ne_nil h
  rfl

theorem unlines_append (ls : List Text) {ms : List Text} (h : ms ≠ []) :
    unlines (ls ++ ms) = ofLines ls ++ unlines ms := by
  induction ls with
  | nil => rfl
  | cons l ls ih =>
    rw [List.cons_append, unlines_cons l (by simp [h]), ih, ofLines_cons, List.append_assoc,
      List.cons_append]

/-- Lines without line feeds are read back from the text they make. -/
theorem lines_unlines {ls : List Text} (hne : ls ≠ []) (h : ∀ l ∈ ls, '\n' ∉ l) :
    lines (unlines ls) = ls := by
  induction ls with
  | nil => exact absurd rfl hne
  | cons l ls ih =>
    have hl : '\n' ∉ l := h l List.mem_cons_self
    cases ls with
    | nil => exact lines_of_not_mem hl
    | cons m ms =>
      have hrest := ih (List.cons_ne_nil m ms) fun k hk => h k (List.mem_cons_of_mem _ hk)
      rw [unlines_cons l (List.cons_ne_nil m ms), lines_append_newline, lines_of_not_mem hl, hrest]
      rfl

theorem ofLines_eq {ls : List Text} (h : ls ≠ []) : ofLines ls = unlines ls ++ ['\n'] := by
  induction ls with
  | nil => exact absurd rfl h
  | cons l ls ih =>
    cases ls with
    | nil => simp [unlines]
    | cons m ms =>
      rw [ofLines_cons, ih (by simp), unlines_cons l (by simp), List.append_assoc, List.cons_append]

end HelpFile.Text
