import HelpFile.ListStack
import HelpFile.Proofs.Delimiter
import HelpFile.Proofs.Text.Lines
import HelpFile.Text.Blank
import HelpFile.Layout
import Mathlib.Data.List.Forall2

/-!
# Rows

A row is one line of a help file together with what the line is for. Containers drop the rows that
show nothing and put spaces or a list marker in front of the others; they never change what a row
is for.
-/
namespace HelpFile

inductive Lead : Text → Prop where
  | nil : Lead []
  | space {t} : Lead t → Lead (' ' :: t)
  | marker (c : ListContext) {t} : Lead t → Lead (c.marker ++ t)

theorem Lead.append {s t : Text} (hs : Lead s) (ht : Lead t) : Lead (s ++ t) := by
  induction hs with
  | nil => exact ht
  | space _ ih => exact .space ih
  | marker c _ ih => rw [List.append_assoc]; exact .marker c ih

theorem Lead.spaces (n : Nat) : Lead (Text.spaces n) := by
  induction n with
  | zero => exact .nil
  | succ n ih => exact .space ih

theorem Text.spaces_add (m n : Nat) : spaces (m + n) = spaces m ++ spaces n :=
  List.replicate_append_replicate.symm

theorem ListContext.mem_marker {c : ListContext} {d : Char} (h : d ∈ c.marker) :
    d.isDigit ∨ d = '*' ∨ d = '.' ∨ d = ' ' := by
  unfold ListContext.marker at h
  split at h
  · simp only [List.mem_cons, List.not_mem_nil, or_false] at h
    rcases h with rfl | rfl <;> simp
  · rcases List.mem_append.mp h with h | h
    · exact Or.inl (Nat.isDigit_of_mem_toDigits (by decide) (by decide) h)
    · simp only [List.mem_cons, List.not_mem_nil, or_false] at h
      rcases h with rfl | rfl <;> simp

theorem Lead.mem {t : Text} (ht : Lead t) {d : Char} (h : d ∈ t) :
    d.isDigit ∨ d = '*' ∨ d = '.' ∨ d = ' ' := by
  induction ht with
  | nil => simp at h
  | space _ ih =>
    rcases List.mem_cons.mp h with rfl | h
    · simp
    · exact ih h
  | marker c _ ih =>
    rcases List.mem_append.mp h with h | h
    · exact ListContext.mem_marker h
    · exact ih h

theorem Lead.newline_not_mem {t : Text} (ht : Lead t) : '\n' ∉ t := by
  intro h
  rcases ht.mem h with h | h | h | h <;> simp at h

theorem Text.filter_shown {line : Text} (h : line ≠ []) (more : List Text) :
    (line :: more).filter (fun l => !l.isEmpty) = line :: more.filter fun l => !l.isEmpty := by
  apply List.filter_cons_of_pos
  simpa using h

namespace Layout
open Text

theorem indentLine_of_ne_nil (width : Int) {line : Text} (h : line ≠ []) :
    indentLine width line = blanks width ++ line ++ ['\n'] := by
  cases line with
  | nil => exact absurd rfl h
  | cons c line => rfl

theorem flatMap_indentLine (width : Int) (ls : List Text) :
    ls.flatMap (indentLine width) =
      ofLines ((ls.filter fun l => !l.isEmpty).map (blanks width ++ ·)) := by
  induction ls with
  | nil => rfl
  | cons l ls ih =>
    rw [List.flatMap_cons, ih]
    by_cases hl : l = []
    · rw [hl]
      rfl
    · rw [filter_shown hl, List.map_cons, ofLines_cons, indentLine_of_ne_nil _ hl, List.append_assoc]
      rfl

theorem indentBlock_cons {text line : Text} {more : List Text} (h : lines text = line :: more)
    (width trim : Int) : indentBlock text width trim =
      indentLine (max (width - trim) 0) line ++ more.flatMap (indentLine width) := by
  rw [indentBlock, h]

end Layout

inductive Purpose where
  | rule
  | title
  | opening
  | closing
  | plain
  deriving DecidableEq

structure Row where
  purpose : Purpose
  text : Text
  newline_not_mem : '\n' ∉ text

namespace Row

def blank : Row := ⟨.plain, [], by simp⟩

def ofLines (purpose : Purpose) (text : Text) : List Row :=
  (Text.lines text).pmap (fun line h => ⟨purpose, line, h⟩)
    fun _ => Text.newline_not_mem_of_mem_lines

def ofEnded (purpose : Purpose) (text : Text) : List Row := (ofLines purpose text).dropLast

def textOf (rows : List Row) : Text := Text.ofLines (rows.map text)

def shows (r : Row) : Bool := !r.text.isEmpty

def behind (lead : Text) (h : Lead lead) (r : Row) : Row where
  purpose := r.purpose
  text := lead ++ r.text
  newline_not_mem := by simpa using ⟨h.newline_not_mem, r.newline_not_mem⟩

def indent (width : Int) (r : Row) : Row := r.behind (Layout.blanks width) (Lead.spaces _)

def indented (width : Int) (rows : List Row) : List Row := (rows.filter shows).map (indent width)

/-- Indented rows of which the first leaves room for `trim` characters. -/
def hung (width trim : Int) : List Row → List Row
  | [] => []
  | first :: rest => indented (max (width - trim) 0) [first] ++ indented width rest

@[simp] theorem textOf_nil : textOf [] = [] := rfl

@[simp] theorem textOf_cons (r : Row) (rows : List Row) :
    textOf (r :: rows) = r.text ++ '\n' :: textOf rows := by simp [textOf]

@[simp] theorem textOf_append (rows others : List Row) :
    textOf (rows ++ others) = textOf rows ++ textOf others := by simp [textOf]

theorem ended_textOf (rows : List Row) : Text.Ended (textOf rows) := Text.ended_ofLines _

theorem map_text_ofLines (purpose : Purpose) (text : Text) :
    (ofLines purpose text).map Row.text = Text.lines text := by
  simp [ofLines, List.map_pmap]

theorem mem_ofLines {purpose : Purpose} {text : Text} {r : Row} (h : r ∈ ofLines purpose text) :
    r.purpose = purpose ∧ r.text ∈ Text.lines text := by
  obtain ⟨line, hl, rfl⟩ := List.mem_pmap.mp h
  exact ⟨rfl, hl⟩

theorem mem_ofEnded {purpose : Purpose} {text : Text} {r : Row} (h : r ∈ ofEnded purpose text) :
    r.purpose = purpose ∧ r.text ∈ Text.lines text :=
  mem_ofLines ((List.dropLast_sublist _).subset h)

theorem map_text_ofEnded (purpose : Purpose) (text : Text) :
    (ofEnded purpose text).map Row.text = (Text.lines text).dropLast := by
  rw [ofEnded, List.map_dropLast, map_text_ofLines]

theorem ofLines_ne_nil (purpose : Purpose) (text : Text) : ofLines purpose text ≠ [] := by
  simp [ofLines, Text.lines_ne_nil]

theorem ofLines_append_newline (purpose : Purpose) (text more : Text) :
    ofLines purpose (text ++ '\n' :: more) = ofLines purpose text ++ ofLines purpose more := by
  simp only [ofLines, Text.lines_append_newline, List.pmap_append]

theorem ofEnded_append_newline (purpose : Purpose) (text : Text) :
    ofEnded purpose (text ++ ['\n']) = ofLines purpose text := by
  rw [ofEnded, ofLines_append_newline]
  simp [ofLines, Text.lines]

theorem textOf_ofEnded (purpose : Purpose) {text : Text} (h : Text.Ended text) :
    textOf (ofEnded purpose text) = text := by
  rw [textOf, map_text_ofEnded]
  rcases h with rfl | ⟨s, rfl⟩
  · rfl
  · have hs : (Text.lines (s ++ ['\n'])).dropLast = Text.lines s := by
      rw [Text.lines_append_newline]
      simp [Text.lines]
    rw [hs, Text.ofLines_lines]

theorem lines_textOf_append (rows : List Row) (rest : Text) :
    Text.lines (textOf rows ++ rest) = rows.map Row.text ++ Text.lines rest := by
  apply Text.lines_ofLines_append
  intro l hl
  obtain ⟨r, -, rfl⟩ := List.mem_map.mp hl
  exact r.newline_not_mem

theorem lines_textOf (rows : List Row) : Text.lines (textOf rows) = rows.map Row.text ++ [[]] := by
  simpa [Text.lines] using lines_textOf_append rows []

theorem flatMap_indentLine (width : Int) (rows : List Row) :
    (rows.map Row.text).flatMap (Layout.indentLine width) = textOf (indented width rows) := by
  rw [Layout.flatMap_indentLine, List.filter_map, List.map_map, textOf, indented, List.map_map]
  rfl

/-- Indenting a text is indenting the rows of its lines; an empty last line is no row. -/
theorem indentBlock_of_lines {text : Text} {rows : List Row}
    (h : Text.lines text = rows.map Row.text ∨ Text.lines text = rows.map Row.text ++ [[]])
    (width trim : Int) : Layout.indentBlock text width trim = textOf (hung width trim rows) := by
  unfold Layout.indentBlock
  cases rows with
  | nil =>
    rcases h with h | h
    · exact absurd h (Text.lines_ne_nil text)
    · rw [h]
      rfl
  | cons r rows =>
    rcases h with h | h <;>
      simp [h, hung, ← flatMap_indentLine, Layout.indentLine]

theorem indented_append (width : Int) (rows more : List Row) :
    indented width (rows ++ more) = indented width rows ++ indented width more := by
  rw [indented, List.filter_append, List.map_append]
  rfl

theorem hung_append {rows : List Row} (h : rows ≠ []) (width trim : Int) (more : List Row) :
    hung width trim (rows ++ more) = hung width trim rows ++ indented width more := by
  obtain ⟨first, rest, rfl⟩ := List.exists_cons_of_ne_nil h
  rw [List.cons_append, hung, hung, indented_append, List.append_assoc]

theorem hung_zero {width : Int} (hw : 0 ≤ width) (rows : List Row) :
    hung width 0 rows = indented width rows := by
  cases rows with
  | nil => rfl
  | cons r rows =>
    have hm : max (width - 0) 0 = width := by omega
    rw [hung, hm, ← indented_append, List.singleton_append]

theorem behind_behind (r : Row) {s t : Text} (hs : Lead s) (ht : Lead t) :
    (r.behind s hs).behind t ht = r.behind (t ++ s) (ht.append hs) := by
  simp [behind]

def Within (r' r : Row) : Prop :=
  r'.purpose = r.purpose ∧ ∃ lead, Lead lead ∧ r'.text = lead ++ r.text

theorem within_behind (lead : Text) (h : Lead lead) (r : Row) : Within (r.behind lead h) r :=
  ⟨rfl, lead, h, rfl⟩

theorem Within.trans {r s t : Row} (h : Within r s) (k : Within s t) : Within r t := by
  obtain ⟨hp, l, hl, ht⟩ := h
  obtain ⟨kp, m, hm, kt⟩ := k
  exact ⟨hp.trans kp, l ++ m, hl.append hm, by rw [ht, kt, List.append_assoc]⟩

theorem Within.shows {r s : Row} (h : Within r s) (hs : s.shows) : r.shows := by
  obtain ⟨-, l, -, ht⟩ := h
  simp_all [Row.shows]

theorem shows_behind {r : Row} (h : r.shows) {s : Text} (hs : Lead s) : (r.behind s hs).shows :=
  (within_behind s hs r).shows h

/-- The rows of a container are those of its contents that show something, each behind a lead. -/
def Framed (framed rows : List Row) : Prop := List.Forall₂ Within framed (rows.filter shows)

theorem framed_indented (width : Int) (rows : List Row) : Framed (indented width rows) rows := by
  unfold Framed indented
  induction rows.filter shows with
  | nil => exact .nil
  | cons r rows ih => exact .cons (within_behind _ _ r) ih

theorem framed_hung (width trim : Int) (rows : List Row) : Framed (hung width trim rows) rows := by
  cases rows with
  | nil => exact .nil
  | cons r rows =>
    have h : List.Forall₂ Within (indented (max (width - trim) 0) [r] ++ indented width rows)
        ([r].filter shows ++ rows.filter shows) :=
      List.rel_append (framed_indented _ _) (framed_indented _ _)
    rwa [← List.filter_append] at h

/-- Of the rows that show something, those for some purposes stay in a container, in order. -/
theorem Framed.select {framed rows : List Row} (h : Framed framed rows) (p : Purpose → Bool) :
    List.Forall₂ Within (framed.filter fun r => p r.purpose && r.shows)
      (rows.filter fun r => p r.purpose && r.shows) := by
  have key : ∀ {rs ss : List Row}, List.Forall₂ Within rs ss → (∀ s ∈ ss, s.shows) →
      List.Forall₂ Within (rs.filter fun r => p r.purpose && r.shows)
        (ss.filter fun r => p r.purpose && r.shows) := by
    intro rs ss h hs
    induction h with
    | nil => exact .nil
    | @cons r s rs ss hrs _ ih =>
      have ih := ih fun t ht => hs t (List.mem_cons_of_mem _ ht)
      have h1 : s.shows := hs s List.mem_cons_self
      by_cases hp : p s.purpose
      · simpa [hrs.1, hp, h1, hrs.shows h1] using ⟨hrs, ih⟩
      · simpa [hrs.1, hp] using ih
  simpa only [List.filter_filter, Bool.and_assoc, Bool.and_self] using
    key h fun s hs => (List.mem_filter.mp hs).2

def literal (width : Int) (rows : List Row) : List Row :=
  ⟨.opening, ['>'], by simp⟩ :: indented width rows ++ [⟨.closing, ['<'], by simp⟩, blank]

theorem newline_not_mem_trimEnd {text : Text} (h : '\n' ∉ text) : '\n' ∉ Text.trimEnd text :=
  fun m => h (List.mem_reverse.mp ((List.dropWhile_sublist _).subset (List.mem_reverse.mp m)))

def item (width : Int) (c : ListContext) (rows : List Row) : List Row :=
  match hung width c.marker.length rows with
  | [] => [⟨.plain, Text.trimEnd c.marker,
      newline_not_mem_trimEnd (by simpa using (Lead.marker c .nil).newline_not_mem)⟩]
  | first :: rest => first.behind c.marker (by simpa using Lead.marker c .nil) :: rest

/-- An item keeps the rows of its contents, or has none to keep. -/
theorem framed_item (width : Int) (c : ListContext) (rows : List Row) :
    Framed (item width c rows) rows ∨
      (rows.filter shows = [] ∧ ∃ r : Row, r.purpose = .plain ∧ item width c rows = [r]) := by
  have h := framed_hung width c.marker.length rows
  unfold item
  cases hh : hung width c.marker.length rows with
  | nil =>
    right
    rw [hh] at h
    exact ⟨List.forall₂_nil_left_iff.mp h, _, rfl, rfl⟩
  | cons first rest =>
    left
    rw [hh] at h
    unfold Framed at h ⊢
    obtain ⟨s, ss, hf, hr, hs⟩ := List.forall₂_cons_left_iff.mp h
    rw [hs]
    exact .cons ((within_behind _ _ _).trans hf) hr

end Row
end HelpFile
