import HelpFile.Proofs.Unmarked
import Mathlib.Data.List.TakeWhile

/-!
# Brackets

The marks of a text are read as brackets, `>` as an opening one and `<` as a closing one. Reading is
the inverse of writing nested blocks as a word of brackets, and sees nothing but marks.
-/
namespace HelpFile
open Text

inductive Nest where
  | block (inner : List Nest)

namespace Nest

mutual

def word : Nest → Text
  | block inner => '>' :: wordOf inner ++ ['<']

def wordOf : List Nest → Text
  | [] => []
  | n :: rest => n.word ++ wordOf rest

end

/-- Reads the brackets of a text, any other character aside. The blocks read so far inside the
innermost open bracket are in `done`, those in front of each open bracket in `stack`. -/
def readFrom (stack : List (List Nest)) (done : List Nest) : Text → Option (List Nest)
  | [] => if stack.isEmpty then some done else none
  | c :: rest =>
    if c = '>' then readFrom (done :: stack) [] rest
    else if c = '<' then
      match stack with
      | [] => none
      | outer :: stack => readFrom stack (outer ++ [block done]) rest
    else readFrom stack done rest

def read (text : Text) : Option (List Nest) := readFrom [] [] text

theorem readFrom_open (stack : List (List Nest)) (done : List Nest) (rest : Text) :
    readFrom stack done ('>' :: rest) = readFrom (done :: stack) [] rest := rfl

theorem readFrom_close (outer : List Nest) (stack : List (List Nest)) (done : List Nest)
    (rest : Text) :
    readFrom (outer :: stack) done ('<' :: rest) = readFrom stack (outer ++ [block done]) rest :=
  rfl

theorem readFrom_other (stack : List (List Nest)) (done : List Nest) {c : Char}
    (hc : ¬ Delimiter.isMark c) (rest : Text) :
    readFrom stack done (c :: rest) = readFrom stack done rest := by
  have hm : ¬ c = '>' ∧ ¬ c = '<' := by simpa [Delimiter.isMark] using hc
  rw [readFrom.eq_def]
  simp [hm]

mutual

theorem readFrom_word : (n : Nest) → (stack : List (List Nest)) → (done : List Nest) →
    (rest : Text) → readFrom stack done (n.word ++ rest) = readFrom stack (done ++ [n]) rest
  | block inner, stack, done, rest => by
    have hinner := readFrom_wordOf inner (done :: stack) [] ('<' :: rest)
    rw [List.nil_append] at hinner
    rw [word, List.append_assoc, List.cons_append, List.singleton_append, readFrom_open, hinner,
      readFrom_close]

theorem readFrom_wordOf : (nests : List Nest) → (stack : List (List Nest)) → (done : List Nest) →
    (rest : Text) → readFrom stack done (wordOf nests ++ rest) = readFrom stack (done ++ nests) rest
  | [], stack, done, rest => by rw [wordOf, List.nil_append, List.append_nil]
  | n :: nests, stack, done, rest => by
    rw [wordOf, List.append_assoc, readFrom_word n, readFrom_wordOf nests, List.append_assoc]
    rfl

end

theorem read_wordOf (nests : List Nest) : read (wordOf nests) = some nests := by
  have h := readFrom_wordOf nests [] [] []
  rw [List.append_nil] at h
  rw [read, h]
  rfl

example : read ['>', 'a', '>', '<', '<', '>', '<'] = some [block [block []], block []] := rfl

theorem wordOf_append (nests more : List Nest) :
    wordOf (nests ++ more) = wordOf nests ++ wordOf more := by
  induction nests with
  | nil => rfl
  | cons n nests ih => rw [List.cons_append, wordOf, ih, wordOf, List.append_assoc]

/-- The first bracket opens a block. -/
theorem wordOf_ne (nests : List Nest) (rest : Text) : wordOf nests ≠ '<' :: rest := by
  cases nests with
  | nil => simp [wordOf]
  | cons n nests =>
    cases n
    simp [wordOf, word]

end Nest

namespace Text

def marks (text : Text) : Text := text.filter Delimiter.isMark

@[simp] theorem marks_nil : marks [] = [] := rfl

@[simp] theorem marks_append (text more : Text) : marks (text ++ more) = marks text ++ marks more :=
  List.filter_append ..

theorem marks_newline_cons (text : Text) : marks ('\n' :: text) = marks text :=
  List.filter_cons_of_neg (by decide)

theorem Unmarked.marks {text : Text} (h : Unmarked text) : marks text = [] :=
  List.filter_eq_nil_iff.mpr fun _ hc => h.not_isMark hc

theorem readFrom_marks (stack : List (List Nest)) (done : List Nest) (text : Text) :
    Nest.readFrom stack done (marks text) = Nest.readFrom stack done text := by
  induction text generalizing stack done with
  | nil => rfl
  | cons c rest ih =>
    by_cases hc : Delimiter.isMark c
    · rw [marks, List.filter_cons_of_pos hc]
      simp only [Delimiter.isMark, Bool.or_eq_true, beq_iff_eq] at hc
      rcases hc with rfl | rfl
      · exact ih (done :: stack) []
      · cases stack with
        | nil => rfl
        | cons outer stack => exact ih stack (outer ++ [.block done])
    · rw [marks, List.filter_cons_of_neg hc, Nest.readFrom_other stack done hc]
      exact ih stack done

theorem marks_flushLine (line : Text) : marks (Delimiter.flushLine line) = marks line := by
  have hpad : ∀ text : Text, (∀ c ∈ text, Delimiter.isPadding c) → marks text = [] := by
    intro text h
    refine List.filter_eq_nil_iff.mpr fun c hc hm => ?_
    have hp := h c hc
    simp only [Delimiter.isMark, Delimiter.isPadding, Bool.or_eq_true, beq_iff_eq] at hm hp
    rcases hm with rfl | rfl <;> simp at hp
  unfold Delimiter.flushLine
  split
  · next c rest hd =>
    split
    · next hc =>
      obtain ⟨-, hrest⟩ := Bool.and_eq_true_iff.mp hc
      have hline := List.takeWhile_append_dropWhile (p := Delimiter.isPadding) (l := line)
      rw [hd] at hline
      have hfront := hpad (line.takeWhile Delimiter.isPadding) fun _ => List.mem_takeWhile_imp
      have hback := hpad rest (List.all_eq_true.mp hrest)
      have hcons : c :: rest = [c] ++ rest := rfl
      rw [← hline, hcons, marks_append, marks_append, hfront, hback]
      simp
    · rfl
  · rfl

theorem marks_ofLines (ls : List Text) : marks (ofLines ls) = ls.flatMap marks := by
  induction ls with
  | nil => rfl
  | cons l ls ih => rw [ofLines_cons, marks_append, marks_newline_cons, ih, List.flatMap_cons]

end Text
end HelpFile
