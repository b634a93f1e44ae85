import HelpFile.Proofs.Anchors
import HelpFile.Proofs.Body

/-!
# Whole lines for headings

A heading has a line of its own in the table of contents and ends a line of the body, each time with
its tag in one piece, if and only if its text has no line feed. A line break in a heading is one: it
splits the title, and the tag with it.
-/
namespace HelpFile

theorem Text.isWord_newline : Text.isWord '\n' = false := by decide +kernel

theorem Text.lowerMap_newline : Text.lowerMap.apply '\n' = ['\n'] := by decide +kernel

theorem Text.newline_mem_lowerAfter {before text : Text} (h : '\n' ∈ text) :
    '\n' ∈ Text.lowerAfter before text := by
  induction text generalizing before with
  | nil => simp at h
  | cons c rest ih =>
    rw [lowerAfter]
    rcases List.mem_cons.mp h with rfl | h
    · have hs : ¬ '\n' = 'Σ' := by decide
      simp [hs, lowerMap_newline]
    · exact List.mem_append_right _ (ih h)

namespace Tag

theorem newline_mem_capitalizeFrom {before : Bool} {text : Text} (h : '\n' ∈ text) :
    '\n' ∈ capitalizeFrom before text := by
  induction text generalizing before with
  | nil => simp at h
  | cons c rest ih =>
    rw [capitalizeFrom]
    rcases List.mem_cons.mp h with rfl | h
    · simp [Text.isWord_newline]
    · exact List.mem_append_right _ (ih h)

theorem newline_mem_slug {text : Text} (h : '\n' ∈ text) (pascal : Bool) :
    '\n' ∈ slug text pascal := by
  cases pascal with
  | true =>
    have hc : '\n' ∈ capitalize text := newline_mem_capitalizeFrom h
    simp [slug, hc]
  | false =>
    have hl : '\n' ∈ Text.lower text := Text.newline_mem_lowerAfter h
    exact List.mem_map.mpr ⟨'\n', hl, rfl⟩

end Tag

namespace Heading

mutual

def nodes (depth : Int) : Heading → List (Int × Text)
  | node text _ children => (depth, text) :: nodesOfAll (depth + 1) children

def nodesOfAll (depth : Int) : List Heading → List (Int × Text)
  | [] => []
  | h :: rest => h.nodes depth ++ nodesOfAll depth rest

end

theorem nodesOfAll_leaves (depth : Int) {headings : List Heading}
    (hleaf : ∀ h ∈ headings, h.children = []) :
    nodesOfAll depth headings = headings.map fun h => (depth, h.text) := by
  induction headings with
  | nil => rfl
  | cons h rest ih =>
    obtain ⟨text, level, children⟩ := h
    obtain rfl : children = [] := hleaf _ List.mem_cons_self
    rw [nodesOfAll, nodes, ih fun g hg => hleaf g (List.mem_cons_of_mem _ hg)]
    rfl

theorem mem_nodes_over {first : Heading} {rest : List Heading}
    (hleaf : ∀ h ∈ first :: rest, h.children = []) {n : Int × Text}
    (hn : n ∈ (first.over rest).nodes 0) : ∃ h ∈ first :: rest, h.text = n.2 := by
  have hrun : ∀ h ∈ rest.takeWhile fun h => first.level < h.level, h.children = [] := by
    intro h hm
    exact hleaf h (List.mem_cons_of_mem _ ((List.takeWhile_sublist _).subset hm))
  rw [Heading.over, hleaf first List.mem_cons_self, List.nil_append, nodes,
    nodesOfAll_leaves _ hrun] at hn
  rcases List.mem_cons.mp hn with rfl | hn
  · exact ⟨first, List.mem_cons_self, rfl⟩
  · obtain ⟨h, hm, rfl⟩ := List.mem_map.mp hn
    exact ⟨h, List.mem_cons_of_mem _ ((List.takeWhile_sublist _).subset hm), rfl⟩

end Heading

namespace ContentsStyle

mutual

theorem contents_eq_nodes (s : ContentsStyle) (depth : Int) : (h : Heading) →
    s.contents depth h = (h.nodes depth).flatMap fun n => s.entry n.1 n.2
  | .node text _ children => by
    rw [contents, contentsOf_eq_nodes s (depth + 1) children, Heading.nodes, List.flatMap_cons]

theorem contentsOf_eq_nodes (s : ContentsStyle) (depth : Int) : (headings : List Heading) →
    s.contentsOf depth headings =
      (Heading.nodesOfAll depth headings).flatMap fun n => s.entry n.1 n.2
  | [] => rfl
  | h :: rest => by
    rw [contentsOf, contents_eq_nodes s depth h, contentsOf_eq_nodes s depth rest,
      Heading.nodesOfAll, List.flatMap_append]

end

end ContentsStyle

namespace Writer
open Block Delimiter

theorem newline_mem_tag (w : Writer) {text : Text} (h : '\n' ∈ text) : '\n' ∈ w.tag text :=
  List.mem_append_right _ (List.mem_cons_of_mem _ (Tag.newline_mem_slug h _))

def EndsInTag (w : Writer) (mark : Char) (text line : Text) : Prop :=
  ∃ title, line = title ++ mark :: w.tag text ++ [mark]

theorem endsInTag_link (w : Writer) (indent text : Text) :
    w.EndsInTag '|' text (w.link indent text) := by
  unfold EndsInTag link Layout.straddled
  exact ⟨_, (List.append_assoc _ _ _).symm⟩

theorem endsInTag_anchor (w : Writer) (lead text : Text) :
    w.EndsInTag '*' text (lead ++ w.anchor text) := by
  unfold EndsInTag anchor Layout.straddled
  rw [← List.append_assoc, ← List.append_assoc lead]
  exact ⟨_, (List.append_assoc _ _ _).symm⟩

theorem newline_not_mem_of_endsInTag {w : Writer} {mark : Char} {text line : Text}
    (h : w.EndsInTag mark text line) (hl : '\n' ∉ line) : '\n' ∉ text := by
  obtain ⟨title, rfl⟩ := h
  intro ht
  exact hl (by simp [w.newline_mem_tag ht])

/-- A text of one line for each node, each line with the link to its node at the end. -/
def LinkLines (w : Writer) (nodes : List (Int × Text)) (text : Text) : Prop :=
  ∃ ls, Text.lines text = ls ++ [[]] ∧
    List.Forall₂ (fun n l => w.EndsInTag '|' n.2 l) nodes ls

/-- Among the lines of a text, one for each heading in order, with its anchor at the end. -/
def AnchorLines (w : Writer) (headings : List Heading) (text : Text) : Prop :=
  List.SublistForall₂ (fun h l => w.EndsInTag '*' h.text l) headings (Text.lines text)

theorem exists_mem_of_forall₂ {α β : Type*} {R : α → β → Prop} {as : List α} {bs : List β}
    (h : List.Forall₂ R as bs) {a : α} (ha : a ∈ as) : ∃ b ∈ bs, R a b := by
  induction h with
  | nil => simp at ha
  | cons hab _ ih =>
    rcases List.mem_cons.mp ha with rfl | ha
    · exact ⟨_, List.mem_cons_self, hab⟩
    · obtain ⟨b, hb, hr⟩ := ih ha
      exact ⟨b, List.mem_cons_of_mem _ hb, hr⟩

theorem linkLines_iff {w : Writer} (hname : '\n' ∉ w.options.basename) (root : Heading) :
    w.LinkLines (root.nodes 0) (flushLeft (w.contentsStyle.contents 0 root)) ↔
      ∀ n ∈ root.nodes 0, '\n' ∉ n.2 := by
  constructor
  · rintro ⟨ls, hlines, hlinks⟩ n hn
    obtain ⟨l, hl, hends⟩ := exists_mem_of_forall₂ hlinks hn
    have hm : l ∈ Text.lines (flushLeft (w.contentsStyle.contents 0 root)) := by
      rw [hlines]
      exact List.mem_append_left _ hl
    exact newline_not_mem_of_endsInTag hends (Text.newline_not_mem_of_mem_lines hm)
  · intro h
    let line := fun n : Int × Text => w.link (Layout.blanks (n.1 * w.options.tabWidth)) n.2
    have hlines : ∀ l ∈ (root.nodes 0).map line, '\n' ∉ l := by
      intro l hl
      obtain ⟨n, hn, rfl⟩ := List.mem_map.mp hl
      exact newline_not_mem_link hname (Lead.spaces _).newline_not_mem (h n hn)
    have htext : w.contentsStyle.contents 0 root = Text.ofLines ((root.nodes 0).map line) := by
      rw [ContentsStyle.contents_eq_nodes, Text.ofLines, List.flatMap_map]
      rfl
    have hflush : ((root.nodes 0).map line).map flushLine = (root.nodes 0).map line := by
      simp [line, flushLine_link]
    refine ⟨(root.nodes 0).map line, ?_, ?_⟩
    · rw [htext, flushLeft_ofLines hlines, hflush]
      simpa [Text.lines] using Text.lines_ofLines_append hlines []
    · rw [List.forall₂_map_right_iff, List.forall₂_same]
      intro n _
      exact w.endsInTag_link _ n.2

theorem anchorLines_iff {w : Writer} (hname : '\n' ∉ w.options.basename) (blocks : List Block) :
    w.AnchorLines (headingsOfAll blocks) (w.body blocks) ↔
      ∀ h ∈ headingsOfAll blocks, '\n' ∉ h.text := by
  constructor
  · intro hanchors h hm
    obtain ⟨ls, hall, hs⟩ := List.sublistForall₂_iff.mp hanchors
    obtain ⟨l, hl, hends⟩ := exists_mem_of_forall₂ hall hm
    exact newline_not_mem_of_endsInTag hends (Text.newline_not_mem_of_mem_lines (hs.subset hl))
  · intro h
    have hrows := anchors_of_headingLines hname h (headingLines_rowsOfAll w.options blocks)
    obtain ⟨ls, hall, hs⟩ := List.sublistForall₂_iff.mp hrows
    rw [AnchorLines, body, Row.lines_textOf]
    refine List.sublistForall₂_iff.mpr ⟨ls, hall.imp ?_, hs.trans (List.sublist_append_left _ _)⟩
    rintro g l ⟨lead, -, rfl⟩
    exact w.endsInTag_anchor lead g.text

/-- The table of contents is one line for each heading below its root, and the body has a line for
each of its headings, every such line with the tag whole at its end, if and only if no heading has
a line feed in its text. -/
theorem entries_whole_iff {w : Writer} (hs : w.options.showContents)
    (hname : '\n' ∉ w.options.basename) {blocks : List Block} (hh : headingsOfAll blocks ≠ []) :
    ∃ root contents ahead behind left,
    w.document blocks =
      .ok (flushLeft w.headerText ++ ahead ++ contents ++ '\n' :: behind, left) ∧
    left.outline.root? = some root ∧
    w.body blocks = ahead ++ behind ∧
    (∀ n ∈ root.nodes 0, ∃ h ∈ headingsOfAll blocks, h.text = n.2) ∧
    (w.LinkLines (root.nodes 0) contents ∧ w.AnchorLines (headingsOfAll blocks) (ahead ++ behind) ↔
      ∀ h ∈ headingsOfAll blocks, '\n' ∉ h.text) := by
  obtain ⟨first, rest, hfirst⟩ := List.exists_cons_of_ne_nil hh
  have hroot := w.root?_after hfirst
  have hbody := w.body_eq_ahead_append_behind blocks
  have hnodes : ∀ n ∈ (first.over rest).nodes 0, ∃ h ∈ headingsOfAll blocks, h.text = n.2 := by
    rw [hfirst]
    intro n hn
    exact Heading.mem_nodes_over
      (fun h hm => (mem_headingsOfAll blocks (hfirst ▸ hm)).1) hn
  refine ⟨first.over rest, _, _, _, _,
    document_with_contents hs hroot (ahead_append_behind w.options blocks), hroot, hbody, hnodes, ?_⟩
  rw [← hbody, linkLines_iff hname, anchorLines_iff hname]
  constructor
  · exact And.right
  · intro h
    refine ⟨fun n hn => ?_, h⟩
    obtain ⟨g, hg, ht⟩ := hnodes n hn
    exact ht ▸ h g hg

theorem entries_whole_in_containers :
    let w := Writer.fresh .standard
    let blocks := [quote [heading 1 [.strong [.text ['a']], .text ['b']]],
      list true [.item [heading 2 [.code ['c']]]]]
    (w.options.showContents ∧ '\n' ∉ w.options.basename ∧ headingsOfAll blocks ≠ []) ∧
    ∃ root contents ahead behind left,
    w.document blocks =
      .ok (flushLeft w.headerText ++ ahead ++ contents ++ '\n' :: behind, left) ∧
    left.outline.root? = some root ∧
    w.body blocks = ahead ++ behind ∧
    (∀ n ∈ root.nodes 0, ∃ h ∈ headingsOfAll blocks, h.text = n.2) ∧
    (w.LinkLines (root.nodes 0) contents ∧ w.AnchorLines (headingsOfAll blocks) (ahead ++ behind) ↔
      ∀ h ∈ headingsOfAll blocks, '\n' ∉ h.text) := by
  intro w blocks
  have hname : '\n' ∉ w.options.basename := by decide
  have hh : headingsOfAll blocks ≠ [] := List.cons_ne_nil _ _
  exact ⟨⟨rfl, hname, hh⟩, entries_whole_iff rfl hname hh⟩

/-- A line break in a heading cuts its link and its anchor in two. -/
theorem entries_cut_by_break :
    let w := Writer.fresh
      { Options.standard with columnWidth := 20, showRules := false, columnWidth_pos := by decide }
    let blocks := [heading 1 [.text ['a'], .lineBreak, .text ['b']]]
    ∃ root left, w.document blocks = .ok
        ("doc.txt\n\na\nb          |doc-a\nb|\n\nA\nB          *doc-a\nb*\n\n".toList, left) ∧
      left.outline.root? = some root ∧
      ¬ w.LinkLines (root.nodes 0) (flushLeft (w.contentsStyle.contents 0 root)) ∧
      ¬ w.AnchorLines (headingsOfAll blocks) (w.body blocks) := by
  intro w blocks
  have hname : '\n' ∉ w.options.basename := by decide
  let root := Heading.node ['a', '\n', 'b'] 1 []
  have hh : headingsOfAll blocks = [root] := rfl
  have hroot : (w.after blocks).outline.root? = some root := rfl
  refine ⟨root, w.after blocks, ?_, hroot, ?_, ?_⟩
  · have htext : flushLines w.headerText ++ w.bodyAround (w.contentsText blocks) blocks =
        "doc.txt\n\na\nb          |doc-a\nb|\n\nA\nB          *doc-a\nb*\n\n".toList := by
      decide +kernel
    rw [document_eq_bodyAround, flushLeft_eq_flushLines, htext]
  · rw [linkLines_iff hname]
    simp [root, Heading.nodes]
  · rw [anchorLines_iff hname, hh]
    simp [root, Heading.text]

end Writer
end HelpFile
