import HelpFile.Proofs.Body
import HelpFile.Proofs.Numbering

/-!
# The place of the table of contents

The table of contents stands in front of the block that has the first heading, unless that block is
a list whose first item has no heading. Then it stands between two items: those in front of the
heading's own are part of the document before the heading is met.
-/
namespace HelpFile

namespace Row

theorem Framed.shows {framed rows : List Row} (h : Framed framed rows) :
    ∀ r ∈ framed, r.shows := by
  have hrows : ∀ s ∈ rows.filter Row.shows, s.shows := fun s hs => (List.mem_filter.mp hs).2
  unfold Framed at h
  generalize rows.filter Row.shows = ss at h hrows
  induction h with
  | nil => simp
  | @cons r s rs ss hrs _ ih =>
    intro t ht
    rcases List.mem_cons.mp ht with rfl | ht
    · exact hrs.shows (hrows s List.mem_cons_self)
    · exact ih (fun u hu => hrows u (List.mem_cons_of_mem _ hu)) t ht

theorem trimEnd_marker_ne_nil (c : ListContext) : Text.trimEnd c.marker ≠ [] := by
  rw [c.trimEnd_marker, ListContext.marker]
  split <;> simp

theorem shows_item {width : Int} {c : ListContext} {rows : List Row} :
    ∀ r ∈ item width c rows, r.shows := by
  intro r hr
  unfold item at hr
  split at hr
  · rw [List.mem_singleton.mp hr]
    simpa [shows] using trimEnd_marker_ne_nil c
  · next first rest hh =>
    have hframed := (framed_hung width c.marker.length rows).shows
    rw [hh] at hframed
    rcases List.mem_cons.mp hr with rfl | hr
    · have hfirst := hframed first List.mem_cons_self
      simp_all [shows, behind]
    · exact hframed r (List.mem_cons_of_mem _ hr)

theorem item_ne_nil (width : Int) (c : ListContext) (rows : List Row) :
    item width c rows ≠ [] := by
  unfold item
  split <;> simp

theorem shows_flush {r : Row} (h : r.shows) : r.flush.shows := by
  rcases Delimiter.flushLine_cases r.text with ht | ⟨mark, -, -, ht⟩
  · simpa [shows, ht] using h
  · simp [shows, ht]

/-- Lines that all show something cannot change places with a text that ends in an empty line. -/
theorem eq_nil_of_textOf_append_comm {rows : List Row} (hs : ∀ r ∈ rows, r.shows) {start : Text}
    (h : textOf rows ++ (start ++ ['\n', '\n']) = start ++ ['\n', '\n'] ++ textOf rows) :
    rows = [] := by
  rcases List.eq_nil_or_concat' rows with hnil | ⟨init, last, rfl⟩
  · exact hnil
  · have hlast : last.text ≠ [] := by simpa [shows] using hs last (by simp)
    obtain ⟨line, c, hc⟩ := (List.eq_nil_or_concat' last.text).resolve_left hlast
    have hn : c ≠ '\n' := by
      rintro rfl
      exact last.newline_not_mem (by simp [hc])
    have hrows : textOf (init ++ [last]) = textOf init ++ line ++ [c, '\n'] := by
      rw [textOf_append, textOf_cons, textOf_nil, hc]
      simp
    rw [← List.append_assoc, hrows, ← List.append_assoc] at h
    have hends : ['\n', '\n'] = [c, '\n'] := List.append_inj_right' h rfl
    exact absurd (List.cons.inj hends).1.symm hn

end Row

namespace Block
open Row

theorem headingsOfItems_eq (children : List ListChild) :
    headingsOfItems children = (ListChild.bodies children).flatMap headingsOfAll := by
  induction children with
  | nil => rfl
  | cons child rest ih =>
    cases child with
    | item body => rw [headingsOfItems, ih, ListChild.bodies, List.flatMap_cons]
    | other b => exact ih

def HeadedFirst (children : List ListChild) : Prop :=
  ∃ body rest, ListChild.bodies children = body :: rest ∧ headingsOfAll body ≠ []

theorem shows_aheadOfItems (o : Options) (c : ListContext) {children : List ListChild}
    (h : headingsOfItems children ≠ []) : ∀ r ∈ aheadOfItems o c children, r.shows := by
  induction children generalizing c with
  | nil => exact absurd rfl h
  | cons child rest ih =>
    cases child with
    | other b => exact ih c h
    | item body =>
      intro r hr
      rw [aheadOfItems] at hr
      split at hr
      · next he =>
        have hrest : headingsOfItems rest ≠ [] := by
          rwa [headingsOfItems, List.isEmpty_iff.mp he, List.nil_append] at h
        have hany : rest.any ListChild.isItem = true := by
          rw [ListChild.any_isItem]
          cases hb : ListChild.bodies rest with
          | nil => simp [headingsOfItems_eq, hb] at hrest
          | cons _ _ => rfl
        rw [itemRows, hany, if_pos rfl, List.append_nil] at hr
        rcases List.mem_append.mp hr with hr | hr
        · exact shows_item r hr
        · exact ih c.advance hrest r hr
      · simp at hr

theorem aheadOfItems_eq_nil_iff (o : Options) (c : ListContext) {children : List ListChild}
    (h : headingsOfItems children ≠ []) :
    aheadOfItems o c children = [] ↔ HeadedFirst children := by
  induction children generalizing c with
  | nil => exact absurd rfl h
  | cons child rest ih =>
    cases child with
    | other b => exact ih c h
    | item body =>
      rw [aheadOfItems]
      split
      · next he =>
        constructor
        · intro hn
          rw [itemRows, List.append_assoc] at hn
          exact absurd (List.append_eq_nil_iff.mp hn).1 (item_ne_nil _ _ _)
        · rintro ⟨first, _, hb, hh⟩
          obtain ⟨rfl, -⟩ := List.cons.inj hb
          exact absurd (List.isEmpty_iff.mp he) hh
      · next he => exact iff_of_true rfl ⟨body, _, rfl, by simpa using he⟩

/-- Only a list that has its first heading in a later item writes something in front of it. -/
theorem ahead_cases (o : Options) {b : Block} (hh : b.headings ≠ []) (hg : ∀ body, b ≠ group body) :
    (∀ r ∈ b.ahead o, r.shows) ∧
      (b.ahead o = [] ↔ ∀ ordered children, b = list ordered children → HeadedFirst children) := by
  cases b with
  | list ordered children =>
    refine ⟨shows_aheadOfItems o (.start ordered) hh, ?_⟩
    rw [ahead, aheadOfItems_eq_nil_iff o (.start ordered) hh]
    constructor
    · rintro hf _ _ hl
      cases hl
      exact hf
    · intro hf
      exact hf ordered children rfl
  -- A group only stands for its blocks, and any of these may come in front of the heading.
  | group body => exact absurd rfl (hg body)
  | _ => simp [ahead]

end Block

namespace ContentsStyle

theorem exists_contents_eq (s : ContentsStyle) (depth : Int) (root : Heading) :
    ∃ before, s.contents depth root = before ++ ['\n'] := by
  obtain ⟨text, level, children⟩ := root
  exact Text.append_ended ⟨_, rfl⟩ (s.ended_contentsOf (depth + 1) children)

end ContentsStyle

namespace Writer
open Block Delimiter

theorem flushLeft_contents_eq (w : Writer) (root : Heading) :
    ∃ start, flushLeft (w.contentsStyle.contents 0 root) ++ ['\n'] = start ++ ['\n', '\n'] := by
  obtain ⟨before, hb⟩ := w.contentsStyle.exists_contents_eq 0 root
  refine ⟨flushLeft before, ?_⟩
  rw [hb, flushLeft_append_newline before [], flushLeft_nil]
  simp

/-- A document up to the block that has its first heading, what that block has in front of the
heading, the table of contents, and the rest. -/
theorem document_around_contents {w : Writer} (hs : w.options.showContents) {b : Block}
    (hb : b.headings ≠ []) (before after : List Block) (hbefore : headingsOfAll before = []) :
    ∃ root behind,
    (w.after (before ++ b :: after)).outline.root? = some root ∧
    w.body (b :: after) = Row.textOf ((b.ahead w.options).map Row.flush) ++ behind ∧
    w.document (before ++ b :: after) = .ok
      (flushLeft w.headerText ++ w.body before ++ Row.textOf ((b.ahead w.options).map Row.flush) ++
        flushLeft (w.contentsStyle.contents 0 root) ++ '\n' :: behind,
        w.after (before ++ b :: after)) := by
  have hhead : headingsOfAll (b :: after) ≠ [] := List.append_ne_nil_of_left_ne_nil hb _
  have hall : headingsOfAll (before ++ b :: after) = headingsOfAll (b :: after) := by
    rw [headingsOfAll_append, hbefore, List.nil_append]
  have hahead : aheadOfAll w.options (b :: after) = b.ahead w.options := by
    rw [aheadOfAll, if_neg (by simpa using hb)]
  obtain ⟨first, rest, hfirst⟩ := List.exists_cons_of_ne_nil hhead
  have hroot := w.root?_after (hall.trans hfirst)
  refine ⟨first.over rest, Row.textOf ((behindOfAll w.options (b :: after)).map Row.flush), hroot,
    ?_, ?_⟩
  · rw [body_eq_ahead_append_behind, hahead]
  · rw [document_eq_bodyAround, bodyAround_append_plain w hbefore, contentsText_eq hs hroot,
      w.bodyAround_headed hhead, hahead]
    simp only [List.append_assoc, List.singleton_append]

theorem contents_moved_iff (w : Writer) {rows : List Row} (hrows : ∀ r ∈ rows, r.shows)
    (root : Heading) (front behind : Text) :
    front ++ Row.textOf (rows.map Row.flush) ++ flushLeft (w.contentsStyle.contents 0 root) ++
        '\n' :: behind =
      front ++ flushLeft (w.contentsStyle.contents 0 root) ++
        '\n' :: (Row.textOf (rows.map Row.flush) ++ behind) ↔ rows = [] := by
  constructor
  · intro h
    obtain ⟨start, hstart⟩ := w.flushLeft_contents_eq root
    have hflushed : ∀ r ∈ rows.map Row.flush, r.shows := by
      intro r hr
      obtain ⟨s, hs, rfl⟩ := List.mem_map.mp hr
      exact Row.shows_flush (hrows s hs)
    have hcomm : Row.textOf (rows.map Row.flush) ++ (start ++ ['\n', '\n']) =
        start ++ ['\n', '\n'] ++ Row.textOf (rows.map Row.flush) := by
      simp only [List.append_assoc, List.append_cancel_left_eq] at h
      rw [← hstart]
      refine List.append_cancel_right (?_ : _ ++ behind = _ ++ behind)
      simpa only [List.append_assoc, List.singleton_append, List.cons_append, List.nil_append]
        using h
    exact List.map_eq_nil_iff.mp (Row.eq_nil_of_textOf_append_comm hflushed hcomm)
  · intro h
    simp [h]

/-- The table of contents comes right before the block that has the first heading, if and only if
this is not a list with a first item that has no heading. -/
theorem contents_before_block_iff {w : Writer} (hs : w.options.showContents)
    {before after : List Block} {b : Block} (hbefore : headingsOfAll before = [])
    (hb : b.headings ≠ []) (hg : ∀ body, b ≠ group body) : ∃ text left root,
    (∀ blocks, ∃ bare, (w.showing false).document blocks =
      .ok (flushLeft w.headerText ++ w.body blocks, bare)) ∧
    w.document (before ++ b :: after) = .ok (text, left) ∧
    left.outline.root? = some root ∧
    (∃ ahead behind, w.body (b :: after) = ahead ++ behind ∧
      text = flushLeft w.headerText ++ w.body before ++ ahead ++
        flushLeft (w.contentsStyle.contents 0 root) ++ '\n' :: behind) ∧
    (text = flushLeft w.headerText ++ w.body before ++
        flushLeft (w.contentsStyle.contents 0 root) ++ '\n' :: w.body (b :: after) ↔
      ∀ ordered children, b = list ordered children → HeadedFirst children) := by
  obtain ⟨root, behind, hroot, hbody, hd⟩ := document_around_contents hs hb before after hbefore
  obtain ⟨hshows, hnil⟩ := ahead_cases w.options hb hg
  refine ⟨_, _, root, fun blocks => ⟨_, w.document_showing_false blocks⟩, hd, hroot,
    ⟨_, behind, hbody, rfl⟩, ?_⟩
  rw [hbody, contents_moved_iff w hshows, hnil]

theorem contents_before_list :
    let w := Writer.fresh .standard
    let b := list true [.item [quote [heading 1 [.text ['T']]]], .item [heading 2 [.text ['S']]]]
    let before := [paragraph none false [.text ['p']]]
    (w.options.showContents ∧ headingsOfAll before = [] ∧ b.headings ≠ [] ∧
      ∀ body, b ≠ group body) ∧
    ∃ text left root,
    (∀ blocks, ∃ bare, (w.showing false).document blocks =
      .ok (flushLeft w.headerText ++ w.body blocks, bare)) ∧
    w.document (before ++ b :: [b]) = .ok (text, left) ∧
    left.outline.root? = some root ∧
    (∃ ahead behind, w.body (b :: [b]) = ahead ++ behind ∧
      text = flushLeft w.headerText ++ w.body before ++ ahead ++
        flushLeft (w.contentsStyle.contents 0 root) ++ '\n' :: behind) ∧
    (text = flushLeft w.headerText ++ w.body before ++
        flushLeft (w.contentsStyle.contents 0 root) ++ '\n' :: w.body (b :: [b]) ↔
      ∀ ordered children, b = list ordered children → HeadedFirst children) := by
  intro w b before
  have hb : b.headings ≠ [] := List.cons_ne_nil _ _
  have hg : ∀ body, b ≠ group body := by simp [b]
  exact ⟨⟨rfl, rfl, hb, hg⟩, contents_before_block_iff rfl rfl hb hg⟩

/-- A heading in the second item of a list draws the table of contents between the two items. -/
theorem contents_within_list :
    let w := Writer.fresh
      { Options.standard with columnWidth := 20, showRules := false, columnWidth_pos := by decide }
    let b := list false [.item [paragraph none true [.text ['o', 'n', 'e']]],
      .item [heading 1 [.text ['T', 'w', 'o']]]]
    ∃ text left root, w.document [b] = .ok (text, left) ∧ left.outline.root? = some root ∧
      text = "doc.txt\n\n*   one\nTwo          |doc-two|\n\n*   TWO          *doc-two*\n\n".toList ∧
      text ≠ flushLeft w.headerText ++ w.body [] ++
        flushLeft (w.contentsStyle.contents 0 root) ++ '\n' :: w.body [b] := by
  intro w b
  have hb : b.headings ≠ [] := List.cons_ne_nil _ _
  obtain ⟨root, behind, hroot, hbody, hd⟩ := document_around_contents (w := w) rfl hb [] [] rfl
  obtain ⟨hshows, hnil⟩ := ahead_cases w.options hb (by simp [b])
  refine ⟨_, _, root, hd, hroot, ?_, ?_⟩
  · have htext : flushLines w.headerText ++ w.bodyAround (w.contentsText [b]) [b] =
        "doc.txt\n\n*   one\nTwo          |doc-two|\n\n*   TWO          *doc-two*\n\n".toList := by
      decide +kernel
    rw [← htext, ← flushLeft_eq_flushLines]
    exact (Prod.mk.inj (Except.ok.inj (hd.symm.trans (w.document_eq_bodyAround [b])))).1
  · intro h
    rw [hbody] at h
    have hfirst := hnil.mp ((w.contents_moved_iff hshows root _ behind).mp h) false _ rfl
    obtain ⟨body, rest, hitem, hh⟩ := hfirst
    obtain ⟨rfl, -⟩ := List.cons.inj hitem
    exact hh rfl

end Writer
end HelpFile
