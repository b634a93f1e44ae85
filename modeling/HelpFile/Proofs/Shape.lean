import HelpFile.Proofs.Entries
import Mathlib.Algebra.Order.Ring.Int

/-!
# Reading an outline back

A table of contents has one line for each heading, and a line is indented by the depth of its
heading. So the shape of the tree of headings can be read off the text: from the last line to the
first, each line takes the lines behind it that are indented deeper as what is below it.
-/
namespace HelpFile

inductive Shape where
  | node (below : List Shape)

namespace Heading

mutual

def shape : Heading → Shape
  | node _ _ children => .node (shapes children)

def shapes : List Heading → List Shape
  | [] => []
  | h :: rest => h.shape :: shapes rest

end

mutual

theorem nodes_add (start depth : Int) : (h : Heading) →
    h.nodes (start + depth) = (h.nodes depth).map fun n => (start + n.1, n.2)
  | node _ _ children => by
    rw [nodes, nodes, List.map_cons, add_assoc, nodesOfAll_add start (depth + 1) children]

theorem nodesOfAll_add (start depth : Int) : (headings : List Heading) →
    nodesOfAll (start + depth) headings =
      (nodesOfAll depth headings).map fun n => (start + n.1, n.2)
  | [] => rfl
  | h :: rest => by
    rw [nodesOfAll, nodesOfAll, List.map_append, nodes_add start depth h,
      nodesOfAll_add start depth rest]

end

/-- Every text of the tree shows where it begins: it is one line and starts with something other
than a space. -/
def Titled (h : Heading) : Prop :=
  ∀ n ∈ h.nodes 0, n.2 ≠ [] ∧ '\n' ∉ n.2 ∧ n.2.head? ≠ some ' '

instance (h : Heading) : Decidable h.Titled :=
  inferInstanceAs (Decidable (∀ n ∈ h.nodes 0, _ ∧ _ ∧ _))

end Heading

namespace Shape

/-- Puts a line in front of others. What is indented deeper goes below it, up to the first that is
not. -/
def place (indent : Nat) (behind : List (Nat × Shape)) : List (Nat × Shape) :=
  (indent, node ((behind.takeWhile fun e => indent < e.1).map Prod.snd)) ::
    behind.dropWhile fun e => indent < e.1

def indentation (line : Text) : Nat := (line.takeWhile (· == ' ')).length

def ofLines (lines : List Text) : Shape :=
  node (((lines.tail.map indentation).foldr place []).map Prod.snd)

theorem place_run {indent deeper : Nat} (hd : indent < deeper) (shapes : List Shape)
    {behind : List (Nat × Shape)} (hb : ∀ e ∈ behind.head?, e.1 ≤ indent) :
    place indent (shapes.map (deeper, ·) ++ behind) = (indent, node shapes) :: behind := by
  have hrun : ∀ e ∈ shapes.map (deeper, ·), decide (indent < e.1) = true := by
    intro e he
    obtain ⟨shape, -, rfl⟩ := List.mem_map.mp he
    exact decide_eq_true hd
  have hstop : behind.takeWhile (fun e => indent < e.1) = [] ∧
      behind.dropWhile (fun e => indent < e.1) = behind := by
    cases behind with
    | nil => exact ⟨rfl, rfl⟩
    | cons e rest =>
      have hn : ¬ indent < e.1 := Nat.not_lt.mpr (hb e rfl)
      simp [hn]
  rw [place, List.takeWhile_append_of_pos hrun, List.dropWhile_append_of_pos hrun, hstop.1, hstop.2]
  simp [Function.comp_def]

theorem indentation_straddled {width : Int} {text : Text} (hne : text ≠ [])
    (hs : text.head? ≠ some ' ') (right : Text) (columnWidth trim : Int) :
    indentation (Layout.straddled (Layout.blanks width ++ text) right columnWidth trim) =
      width.toNat := by
  obtain ⟨c, rest, rfl⟩ := List.exists_cons_of_ne_nil hne
  have hc : (c == ' ') = false := by simpa using hs
  have hblanks : ∀ d ∈ Layout.blanks width, (d == ' ') = true := by
    intro d hd
    simp [List.eq_of_mem_replicate hd]
  rw [indentation, Layout.straddled, List.append_assoc, List.append_assoc,
    List.takeWhile_append_of_pos hblanks]
  simp [hc, Layout.blanks, Text.spaces]

end Shape

namespace ContentsStyle

def indent (s : ContentsStyle) (depth : Int) : Nat := (depth * s.tabWidth).toNat

theorem indent_lt {s : ContentsStyle} (htab : 1 ≤ s.tabWidth) {depth : Int} (hd : 0 ≤ depth) :
    s.indent depth < s.indent (depth + 1) := by
  have hnonneg : 0 ≤ depth * s.tabWidth := mul_nonneg hd (by omega)
  unfold indent
  rw [add_mul, one_mul]
  omega

mutual

/-- By induction on the tree: placed in front of lines that are not indented deeper, the lines of a
heading make one more shape. -/
theorem place_nodes {s : ContentsStyle} (htab : 1 ≤ s.tabWidth) {depth : Int} (hd : 0 ≤ depth)
    {behind : List (Nat × Shape)} (hb : ∀ e ∈ behind.head?, e.1 ≤ s.indent depth) :
    (h : Heading) → ((h.nodes depth).map fun n => s.indent n.1).foldr Shape.place behind =
      (s.indent depth, h.shape) :: behind
  | .node _ _ children => by
    have hlt := indent_lt htab hd
    have hbelow : ∀ e ∈ behind.head?, e.1 ≤ s.indent (depth + 1) :=
      fun e he => (hb e he).trans hlt.le
    have hchildren := place_nodesOfAll htab (by omega) hbelow children
    rw [Heading.nodes, List.map_cons, List.foldr_cons, hchildren, Shape.place_run hlt _ hb]
    rfl

theorem place_nodesOfAll {s : ContentsStyle} (htab : 1 ≤ s.tabWidth) {depth : Int} (hd : 0 ≤ depth)
    {behind : List (Nat × Shape)} (hb : ∀ e ∈ behind.head?, e.1 ≤ s.indent depth) :
    (headings : List Heading) →
    ((Heading.nodesOfAll depth headings).map fun n => s.indent n.1).foldr Shape.place behind =
      (Heading.shapes headings).map (s.indent depth, ·) ++ behind
  | [] => rfl
  | h :: rest => by
    have hrest := place_nodesOfAll htab hd hb rest
    -- What comes next is a sibling, or else the first of the lines behind.
    have hnext : ∀ e ∈ ((Heading.shapes rest).map (s.indent depth, ·) ++ behind).head?,
        e.1 ≤ s.indent depth := by
      intro e he
      cases rest with
      | nil => exact hb e he
      | cons g more =>
        obtain rfl : (s.indent depth, g.shape) = e := by simpa [Heading.shapes] using he
        exact le_rfl
    rw [Heading.nodesOfAll, List.map_append, List.foldr_append, hrest, place_nodes htab hd hnext h]
    rfl

end

def line (s : ContentsStyle) (n : Int × Text) : Text :=
  Layout.straddled (Layout.blanks (n.1 * s.tabWidth) ++ n.2) ('|' :: s.tagOf n.2 ++ ['|'])
    s.columnWidth Layout.concealedTagWidth

section Lines
variable {s : ContentsStyle} (htag : ∀ text, '\n' ∉ text → '\n' ∉ s.tagOf text) {h : Heading}
  (hh : h.Titled) (start : Int)
include hh

theorem mem_nodes_titled {n : Int × Text} (hn : n ∈ h.nodes start) :
    n.2 ≠ [] ∧ '\n' ∉ n.2 ∧ n.2.head? ≠ some ' ' := by
  rw [← add_zero start, Heading.nodes_add] at hn
  obtain ⟨m, hm, rfl⟩ := List.mem_map.mp hn
  exact hh m hm

theorem indentation_line {n : Int × Text} (hn : n ∈ h.nodes start) :
    Shape.indentation (s.line n) = s.indent n.1 := by
  obtain ⟨hne, -, hspace⟩ := mem_nodes_titled hh start hn
  exact Shape.indentation_straddled hne hspace _ _ _

include htag

theorem lines_contents : Text.lines (s.contents start h) = (h.nodes start).map s.line ++ [[]] := by
  have hlines : ∀ l ∈ (h.nodes start).map s.line, '\n' ∉ l := by
    intro l hl
    obtain ⟨n, hn, rfl⟩ := List.mem_map.mp hl
    have htext : '\n' ∉ n.2 := (mem_nodes_titled hh start hn).2.1
    have hindent : '\n' ∉ Layout.blanks (n.1 * s.tabWidth) := (Lead.spaces _).newline_not_mem
    exact Layout.newline_not_mem_straddled (by simp [hindent, htext]) (by simp [htag _ htext]) _ _
  have htext : s.contents start h = Text.ofLines ((h.nodes start).map s.line) := by
    rw [contents_eq_nodes, Text.ofLines, List.flatMap_map]
    rfl
  rw [htext]
  simpa [Text.lines] using Text.lines_ofLines_append hlines []

/-- The first line is the root however little it is indented, so a start one level above the margin
does no harm. -/
theorem ofLines_contents (htab : 1 ≤ s.tabWidth) (hstart : -1 ≤ start) :
    Shape.ofLines (Text.lines (s.contents start h)).dropLast = h.shape := by
  have hindents : ((h.nodes start).map s.line).map Shape.indentation =
      (h.nodes start).map fun n => s.indent n.1 := by
    rw [List.map_map]
    exact List.map_congr_left fun n hn => indentation_line hh start hn
  rw [lines_contents htag hh, List.dropLast_concat, Shape.ofLines, List.map_tail, hindents]
  obtain ⟨text, level, children⟩ := h
  have hend : ∀ e ∈ ([] : List (Nat × Shape)).head?, e.1 ≤ s.indent (start + 1) := by simp
  have hbelow := place_nodesOfAll htab (by omega) hend children
  rw [Heading.nodes, List.map_cons, List.tail_cons, hbelow, Heading.shape]
  simp [Function.comp_def]

end Lines

/-- A table of contents has one line for each heading, in preorder, indented by its depth, and two
trees have the same shape if they have the same table of contents. A negative depth indents like
depth zero, so below the root no level is hidden as long as the start is not less than -1. -/
theorem contents_determines_shape {s : ContentsStyle} (htab : 1 ≤ s.tabWidth)
    (htag : ∀ text, '\n' ∉ text → '\n' ∉ s.tagOf text) {h : Heading} (hh : h.Titled) (start : Int) :
    (∃ ls, Text.lines (s.contents start h) = ls ++ [[]] ∧
      List.Forall₂ (fun n l => l ++ ['\n'] =
        Layout.straddle (Layout.blanks ((start + n.1) * s.tabWidth) ++ n.2)
          ('|' :: s.tagOf n.2 ++ ['|']) s.columnWidth Layout.concealedTagWidth) (h.nodes 0) ls) ∧
    (-1 ≤ start → ∀ g : Heading, g.Titled → s.contents start g = s.contents start h →
      g.shape = h.shape) := by
  constructor
  · have hnodes : h.nodes start = (h.nodes 0).map fun n => (start + n.1, n.2) := by
      rw [← Heading.nodes_add, add_zero]
    refine ⟨(h.nodes start).map s.line, lines_contents htag hh start, ?_⟩
    rw [hnodes, List.map_map, List.forall₂_map_right_iff, List.forall₂_same]
    exact fun n _ => rfl
  · intro hstart g hg hsame
    rw [← ofLines_contents htag hg start htab hstart, hsame,
      ofLines_contents htag hh start htab hstart]

/-- Levels do not show in a table of contents, and the shape does not depend on them. -/
theorem contents_determines_shape_of_sections :
    let s : ContentsStyle := ⟨fun text => Tag.ofHeading "doc".toList text false, 20, 2⟩
    let h : Heading := .node "Set up".toList 1
      [.node "By hand".toList 2 [.node "Tools".toList 3 []], .node "Usage".toList 2 []]
    let g : Heading := .node "Set up".toList 1
      [.node "By hand".toList 3 [.node "Tools".toList 6 []], .node "Usage".toList 4 []]
    (1 ≤ s.tabWidth ∧ (∀ text, '\n' ∉ text → '\n' ∉ s.tagOf text) ∧ h.Titled ∧ g.Titled) ∧
      (∃ ls, Text.lines (s.contents 1 h) = ls ++ [[]] ∧ ls.length = 4) ∧
      s.contents 1 g = s.contents 1 h ∧ g.shape = h.shape := by
  intro s h g
  have htag : ∀ text, '\n' ∉ text → '\n' ∉ s.tagOf text := by
    intro text htext hm
    rcases Tag.mem_of_mem_ofHeading (by simp [IsSign]) hm with hm | hm | hm
    · simp at hm
    · simp at hm
    · exact htext hm
  have htab : 1 ≤ s.tabWidth := by decide
  have hh : h.Titled := by decide
  have hg : g.Titled := by decide
  have hsame : s.contents 1 g = s.contents 1 h := rfl
  obtain ⟨⟨ls, hls, hnodes⟩, hshape⟩ := contents_determines_shape htab htag hh 1
  exact ⟨⟨htab, htag, hh, hg⟩, ⟨ls, hls, hnodes.length_eq.symm⟩, hsame,
    hshape (by decide) g hg hsame⟩

end ContentsStyle
end HelpFile
