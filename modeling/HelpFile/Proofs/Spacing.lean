import HelpFile.Proofs.Contents
import HelpFile.Proofs.Numbering
import HelpFile.Proofs.Text.Spaces

/-!
# Widths

The widths of a layout decide how many spaces stand where, and how long rules are. Two runs with
different widths write rows that agree but for spaces, row by row and at any depth, and insert the
table of contents between the same rows.
-/
namespace HelpFile

namespace Text

/-- What is left of a line without its spaces, and whether it had any character at all. -/
def core (line : Text) : Bool × Text := (!line.isEmpty, despaced line)

def cores (text : Text) : List (Bool × Text) := (lines text).map core

theorem core_append (line more : Text) :
    core (line ++ more) = (!line.isEmpty || !more.isEmpty, despaced line ++ despaced more) := by
  have hempty : (line ++ more).isEmpty = (line.isEmpty && more.isEmpty) := by
    cases line <;> rfl
  rw [core, hempty, Bool.not_and, despaced_append]

theorem cores_append_left (text : Text) {a b : Text} (h : cores a = cores b) :
    cores (text ++ a) = cores (text ++ b) := by
  induction text with
  | nil => exact h
  | cons c text ih =>
    unfold cores at ih ⊢
    by_cases hc : c = '\n'
    · subst c
      rw [List.cons_append, lines_newline, List.cons_append, lines_newline, List.map_cons, ih,
        List.map_cons]
    · obtain ⟨line, more, hl⟩ := exists_lines (text ++ a)
      obtain ⟨line', more', hl'⟩ := exists_lines (text ++ b)
      rw [hl, hl', List.map_cons, List.map_cons, List.cons.injEq] at ih
      obtain ⟨hline, hmore⟩ := ih
      have hdespaced : despaced line = despaced line' := congrArg Prod.snd hline
      have hcore : core ([c] ++ line) = core ([c] ++ line') := by
        rw [core_append, core_append, hdespaced]
        rfl
      rw [List.cons_append, lines_cons hc hl, List.cons_append, lines_cons hc hl', List.map_cons,
        hmore, List.map_cons]
      exact congrArg (· :: more'.map core) hcore

/-- How many spaces stand in front makes no difference if there is one. -/
theorem cores_spaces_append {n m : Nat} (hn : 1 ≤ n) (hm : 1 ≤ m) (text : Text) :
    cores (spaces n ++ text) = cores (spaces m ++ text) := by
  have hcore : ∀ k, 1 ≤ k → ∀ line : Text, core (spaces k ++ line) = (true, despaced line) := by
    intro k hk line
    have hne : (spaces k).isEmpty = false := by
      simp [spaces]
      omega
    rw [core_append, hne, despaced_spaces]
    rfl
  have hmem : ∀ k, '\n' ∉ spaces k := fun k => (Lead.spaces k).newline_not_mem
  obtain ⟨line, more, hl⟩ := exists_lines text
  rw [cores, lines_append_of_not_mem (hmem n) hl, cores, lines_append_of_not_mem (hmem m) hl,
    List.map_cons, List.map_cons, hcore n hn, hcore m hm]

end Text

namespace Row
open Text

def core (r : Row) : Bool × Text := Text.core r.text

def cores (rows : List Row) : List (Bool × Text) := rows.map core

theorem cores_append (rows others : List Row) : cores (rows ++ others) = cores rows ++ cores others :=
  List.map_append

theorem cores_ofEnded (purpose : Purpose) (text : Text) :
    cores (ofEnded purpose text) = (Text.cores text).dropLast := by
  have hmap : cores (ofEnded purpose text) = ((ofEnded purpose text).map Row.text).map Text.core := by
    rw [List.map_map]
    rfl
  rw [hmap, map_text_ofEnded, List.map_dropLast]
  rfl

theorem core_behind (lead : Text) (h : Lead lead) (r : Row) :
    (r.behind lead h).core = (!lead.isEmpty || r.shows, despaced lead ++ despaced r.text) :=
  core_append lead r.text

theorem core_indent (width : Int) {r : Row} (h : r.shows) : (r.indent width).core = r.core := by
  have hnonempty : (!r.text.isEmpty) = true := h
  have hcore : (r.indent width).core = Text.core (Layout.blanks width ++ r.text) := rfl
  rw [hcore, core_append, hnonempty, despaced_blanks, Bool.or_true]
  exact Prod.ext h.symm rfl

theorem cores_indented (width : Int) (rows : List Row) :
    cores (indented width rows) = (cores rows).filter Prod.fst := by
  have hshows : Prod.fst ∘ core = shows := rfl
  rw [cores, indented, List.map_map, cores, List.filter_map, hshows]
  apply List.map_congr_left
  intro r hr
  exact core_indent width (List.mem_filter.mp hr).2

theorem cores_hung (width trim : Int) (rows : List Row) :
    cores (hung width trim rows) = (cores rows).filter Prod.fst := by
  cases rows with
  | nil => rfl
  | cons first rest =>
    rw [hung, cores_append, cores_indented, cores_indented, ← List.filter_append, ← cores_append]
    rfl

theorem cores_literal (width width' : Int) {rows rows' : List Row} (h : cores rows = cores rows') :
    cores (literal width rows) = cores (literal width' rows') := by
  have hi : (indented width rows).map core = (indented width' rows').map core := by
    change cores (indented width rows) = cores (indented width' rows')
    rw [cores_indented, h, cores_indented]
  simp only [cores, literal, List.cons_append, List.map_cons, List.map_append, hi]

theorem cores_item (width width' : Int) (c : ListContext) {rows rows' : List Row}
    (h : cores rows = cores rows') : cores (item width c rows) = cores (item width' c rows') := by
  have hh : cores (hung width c.marker.length rows) = cores (hung width' c.marker.length rows') := by
    rw [cores_hung, h, cores_hung]
  unfold item
  generalize hung width c.marker.length rows = hs, hung width' c.marker.length rows' = hs' at hh
  cases hs with
  | nil =>
    cases hs' with
    | nil => rfl
    | cons => simp [cores] at hh
  | cons first rest =>
    cases hs' with
    | nil => simp [cores] at hh
    | cons first' rest' =>
      obtain ⟨hfirst, hrest⟩ := List.cons.inj hh
      have hshows : first.shows = first'.shows := congrArg Prod.fst hfirst
      have htext : despaced first.text = despaced first'.text := congrArg Prod.snd hfirst
      simp only [cores, List.map_cons, core_behind, hshows, htext]
      exact congrArg _ hrest

theorem despaced_textOf (rows : List Row) :
    despaced (textOf rows) = Text.ofLines ((cores rows).map Prod.snd) := by
  rw [textOf, despaced_ofLines, List.map_map, cores, List.map_map]
  rfl

end Row

def Options.SameButWidths (o o' : Options) : Prop :=
  o'.toOptionsRequest =
    { o.toOptionsRequest with columnWidth := o'.columnWidth, tabWidth := o'.tabWidth }

namespace Options.SameButWidths

variable {o o' : Options}

theorem description (h : o.SameButWidths o') : o'.description = o.description := by
  rw [h]

theorem showContents (h : o.SameButWidths o') : o'.showContents = o.showContents := by
  rw [h]

theorem showRules (h : o.SameButWidths o') : o'.showRules = o.showRules := by
  rw [h]

theorem pascal (h : o.SameButWidths o') : o'.pascal = o.pascal := by
  rw [h]

theorem basename (h : o.SameButWidths o') : o'.basename = o.basename := by
  rw [Options.basename, h, Options.basename]

theorem title (h : o.SameButWidths o') : o'.title = o.title := by
  rw [Options.title, h, Options.title]

theorem tag {w w' : Writer} (h : w.options.SameButWidths w'.options) : w'.tag = w.tag := by
  funext text
  rw [Writer.tag, h.title, h.pascal, Writer.tag]

end Options.SameButWidths

namespace Layout
open Text

theorem one_le_gap (left right : Text) (columnWidth trim : Int) :
    1 ≤ (gap left right columnWidth trim).toNat := by
  unfold gap
  omega

theorem cores_straddle_append (left right : Text) (columnWidth columnWidth' trim : Int)
    (more : Text) :
    cores (straddle left right columnWidth trim ++ more) =
      cores (straddle left right columnWidth' trim ++ more) := by
  have hsplit : ∀ width, straddle left right width trim ++ more =
      left ++ (spaces (gap left right width trim).toNat ++ (right ++ '\n' :: more)) := by
    intro width
    simp [straddle, blanks]
  rw [hsplit, hsplit]
  apply cores_append_left
  exact cores_spaces_append (one_le_gap ..) (one_le_gap ..) _

end Layout

/-- Runs whose rules, if they draw any, have the same length. -/
structure Respaced (o o' : Options) (parts : List Block) : Prop where
  same : o.SameButWidths o'
  rules : o.columnWidth = o'.columnWidth ∨ o.showRules = false ∧ Block.thematicBreak ∉ parts

theorem Respaced.mono {o o' : Options} {parts more : List Block} (h : Respaced o o' more)
    (hs : parts ⊆ more) : Respaced o o' parts := by
  refine ⟨h.same, ?_⟩
  rcases h.rules with hc | ⟨hr, hb⟩
  · exact Or.inl hc
  · exact Or.inr ⟨hr, fun hm => hb (hs hm)⟩

namespace Block
open Row

theorem headingRule_respaced {o o' : Options} {parts : List Block} (h : Respaced o o' parts)
    (level : Int) : (Writer.fresh o).headingRule level = (Writer.fresh o').headingRule level := by
  have hrules := h.same.showRules
  unfold Writer.headingRule Writer.fresh
  rcases h.rules with hc | ⟨hr, -⟩
  · rw [hrules, hc]
  · rw [hrules, hr]
    rfl

theorem cores_headingLine {o o' : Options} (h : o.SameButWidths o') (text : Text) :
    Text.cores ((Writer.fresh o).headingLine text) =
      Text.cores ((Writer.fresh o').headingLine text) := by
  have htag : (Writer.fresh o').tag = (Writer.fresh o).tag := Options.SameButWidths.tag h
  rw [Writer.headingLine, Writer.headingLine, htag]
  exact Layout.cores_straddle_append ..

theorem cores_headingRows {o o' : Options} {parts : List Block} (h : Respaced o o' parts)
    (content : Fragment) (level : Int) :
    cores (content.headingRows o level) = cores (content.headingRows o' level) := by
  unfold Fragment.headingRows
  cases content.shown with
  | false => rfl
  | true =>
    rw [if_pos rfl, if_pos rfl, cores_append, cores_append, headingRule_respaced h, cores_ofEnded,
      cores_ofEnded, cores_headingLine h.same, cores_ofEnded]

theorem cores_itemRows {o o' : Options} {rows rows' : List Row} (h : cores rows = cores rows')
    (c : ListContext) (rest : List ListChild) :
    cores (itemRows o c rows rest) = cores (itemRows o' c rows' rest) := by
  rw [itemRows, cores_append, cores_item o.tabWidth o'.tabWidth c h, itemRows, cores_append]

mutual

theorem cores_rows {o o' : Options} : (b : Block) → Respaced o o' b.parts →
    cores (b.rows o) = cores (b.rows o')
  | heading level content, h => cores_headingRows h (fragment none content) level
  | list ordered children, h =>
    cores_rowsOfItems (.start ordered) children (h.mono (List.subset_cons_self ..))
  | quote body, h =>
    cores_literal _ _ (cores_rowsOfAll body (h.mono (List.subset_cons_self ..)))
  | alert kind body, h => by
    have hbody := cores_rowsOfAll body (h.mono (List.subset_cons_self ..))
    apply cores_literal
    rw [cores_append, hbody, cores_append]
  | group body, h => cores_rowsOfAll body (h.mono (List.subset_cons_self ..))
  | fencedCode .., _ | indentedCode _, _ | html _, _ => cores_literal _ _ rfl
  | thematicBreak, h => by
    rcases h.rules with hc | ⟨-, hb⟩
    · rw [rows, hc, rows]
    · exact absurd (List.mem_singleton_self _) hb
  | paragraph .., _ | blankLine, _ | linkDefinition, _ | table, _ | footnoteDefinition, _
  | inline _, _ => rfl

theorem cores_rowsOfAll {o o' : Options} : (blocks : List Block) →
    Respaced o o' (partsOfAll blocks) → cores (rowsOfAll o blocks) = cores (rowsOfAll o' blocks)
  | [], _ => rfl
  | b :: rest, h => by
    have hb := cores_rows b (h.mono (List.subset_append_left ..))
    have hrest := cores_rowsOfAll rest (h.mono (List.subset_append_right ..))
    rw [rowsOfAll, cores_append, hb, hrest, rowsOfAll, cores_append]

theorem cores_rowsOfItems {o o' : Options} : (c : ListContext) → (children : List ListChild) →
    Respaced o o' (partsOfItems children) →
    cores (rowsOfItems o c children) = cores (rowsOfItems o' c children)
  | _, [], _ => rfl
  | c, .item body :: rest, h => by
    have hbody := cores_rowsOfAll body (h.mono (List.subset_append_left ..))
    have hrest := cores_rowsOfItems c.advance rest (h.mono (List.subset_append_right ..))
    rw [rowsOfItems, cores_append, cores_itemRows hbody, hrest, rowsOfItems, cores_append]
  | c, .other _ :: rest, h => cores_rowsOfItems c rest h

end

mutual

theorem cores_ahead {o o' : Options} : (b : Block) → Respaced o o' b.parts →
    cores (b.ahead o) = cores (b.ahead o')
  | list ordered children, h =>
    cores_aheadOfItems (.start ordered) children (h.mono (List.subset_cons_self ..))
  | group body, h => cores_aheadOfAll body (h.mono (List.subset_cons_self ..))
  | heading .., _ | paragraph .., _ | quote _, _ | alert .., _ | fencedCode .., _
  | indentedCode _, _ | html _, _ | thematicBreak, _ | blankLine, _ | linkDefinition, _ | table, _
  | footnoteDefinition, _ | inline _, _ => rfl

theorem cores_aheadOfAll {o o' : Options} : (blocks : List Block) →
    Respaced o o' (partsOfAll blocks) → cores (aheadOfAll o blocks) = cores (aheadOfAll o' blocks)
  | [], _ => rfl
  | b :: rest, h => by
    have hb := h.mono (List.subset_append_left ..)
    rw [aheadOfAll, aheadOfAll]
    split
    · have hrest := cores_aheadOfAll rest (h.mono (List.subset_append_right ..))
      rw [cores_append, cores_rows b hb, hrest, cores_append]
    · exact cores_ahead b hb

theorem cores_aheadOfItems {o o' : Options} : (c : ListContext) → (children : List ListChild) →
    Respaced o o' (partsOfItems children) →
    cores (aheadOfItems o c children) = cores (aheadOfItems o' c children)
  | _, [], _ => rfl
  | c, .item body :: rest, h => by
    rw [aheadOfItems, aheadOfItems]
    split
    · have hbody := cores_rowsOfAll body (h.mono (List.subset_append_left ..))
      have hrest := cores_aheadOfItems c.advance rest (h.mono (List.subset_append_right ..))
      rw [cores_append, cores_itemRows hbody, hrest, cores_append]
    · rfl
  | c, .other _ :: rest, h => cores_aheadOfItems c rest h

end

end Block

namespace Writer
open Block Row Text

theorem despaced_headerText {w w' : Writer} (h : w.options.SameButWidths w'.options) :
    despaced w.headerText = despaced w'.headerText := by
  simp only [headerText]
  rw [h.description, h.basename]
  cases w.options.description.isEmpty with
  | true => rfl
  | false => simp [Layout.despaced_straddle]

theorem despaced_entry {w w' : Writer} (h : w.options.SameButWidths w'.options) (depth : Int)
    (text : Text) :
    despaced (w.contentsStyle.entry depth text) = despaced (w'.contentsStyle.entry depth text) := by
  have htag : w'.contentsStyle.tagOf = w.contentsStyle.tagOf := h.tag
  have hindented : ∀ width, despaced (Layout.blanks width ++ text) = despaced text := by
    intro width
    rw [despaced_append, despaced_blanks, List.nil_append]
  rw [ContentsStyle.entry, Layout.despaced_straddle, hindented, ← htag, ContentsStyle.entry,
    Layout.despaced_straddle, hindented]

mutual

theorem despaced_contents {w w' : Writer} (h : w.options.SameButWidths w'.options) (depth : Int) :
    (root : Heading) → despaced (w.contentsStyle.contents depth root) =
      despaced (w'.contentsStyle.contents depth root)
  | .node text level children => by
    rw [ContentsStyle.contents, despaced_append, despaced_entry h,
      despaced_contentsOf h (depth + 1) children, ContentsStyle.contents, despaced_append]

theorem despaced_contentsOf {w w' : Writer} (h : w.options.SameButWidths w'.options) (depth : Int) :
    (headings : List Heading) → despaced (w.contentsStyle.contentsOf depth headings) =
      despaced (w'.contentsStyle.contentsOf depth headings)
  | [] => rfl
  | root :: rest => by
    rw [ContentsStyle.contentsOf, despaced_append, despaced_contents h depth root,
      despaced_contentsOf h depth rest, ContentsStyle.contentsOf, despaced_append]

end

theorem despaced_withContents {w w' : Writer} {blocks : List Block}
    (h : Respaced w.options w'.options (partsOfAll blocks)) :
    despaced ((w.after blocks).withContents
      (w.headerText ++ textOf (rowsOfAll w.options blocks))) =
    despaced ((w'.after blocks).withContents
      (w'.headerText ++ textOf (rowsOfAll w'.options blocks))) := by
  have hheader := despaced_headerText h.same
  have hrows := cores_rowsOfAll blocks h
  have hshow := h.same.showContents
  by_cases hplain : w.options.showContents = false ∨ headingsOfAll blocks = []
  · have hplain' : w'.options.showContents = false ∨ headingsOfAll blocks = [] := by
      rwa [hshow]
    rw [withContents_plain hplain, withContents_plain hplain', despaced_append, hheader,
      despaced_textOf, hrows, despaced_append, despaced_textOf]
  · obtain ⟨hs, hne⟩ := not_or.mp hplain
    have hs : w.options.showContents = true := by simpa using hs
    have hs' : w'.options.showContents = true := hshow.trans hs
    obtain ⟨first, rest, hh⟩ := List.exists_cons_of_ne_nil hne
    obtain ⟨⟨behind, hb⟩, -⟩ := aheadOfAll_prefix w.options blocks
    obtain ⟨⟨behind', hb'⟩, -⟩ := aheadOfAll_prefix w'.options blocks
    have hahead := cores_aheadOfAll blocks h
    -- The rows ahead agree, so the rows behind begin at the same place.
    have hbehind : cores behind = cores behind' := by
      rw [← hb, ← hb', cores_append, cores_append, hahead] at hrows
      exact List.append_cancel_left hrows
    rw [withContents_after hs (w.root?_after hh) hb, withContents_after hs' (w'.root?_after hh) hb']
    simp only [despaced_append, despaced_newline_cons, despaced_textOf, hheader, hahead, hbehind,
      despaced_contents h.same]

/-- Widths change nothing but spaces: the tab width in any document, the column width in one that
draws no rules. -/
theorem document_respaced {w w' : Writer} (hs : w.options.SameButWidths w'.options)
    {blocks : List Block} (hr : w.options.columnWidth = w'.options.columnWidth ∨
      w.options.showRules = false ∧ thematicBreak ∉ partsOfAll blocks) :
    ∃ text left text' left',
      w.document blocks = .ok (text, left) ∧ w'.document blocks = .ok (text', left') ∧
      despaced text = despaced text' ∧
      (lines text).map despaced = (lines text').map despaced ∧
      left.notices = left'.notices := by
  have hdespaced := despaced_withContents ⟨hs, hr⟩
  have htext : despaced (w.textFor (stretchOfAll w.options blocks)) =
      despaced (w'.textFor (stretchOfAll w'.options blocks)) := by
    rw [textFor, ← Delimiter.flushLeft_despaced, textFor, ← Delimiter.flushLeft_despaced]
    exact congrArg Delimiter.flushLeft hdespaced
  refine ⟨_, _, _, _, w.document_eq_stretch blocks, w'.document_eq_stretch blocks, htext, ?_, rfl⟩
  rw [← lines_despaced, htext, lines_despaced]

theorem document_respaced_in_item :
    let wide := Writer.fresh { Options.standard with showRules := false }
    let narrow := Writer.fresh
      { Options.standard with
        columnWidth := 20, tabWidth := 0, showRules := false
        columnWidth_pos := by decide, tabWidth_nonneg := by decide }
    let blocks := [heading 1 [.text ['a']], list true [.item [quote [paragraph none true [.text ['b']]],
      heading 2 [.text ['c']]]]]
    wide.options.SameButWidths narrow.options ∧ wide.options.showRules = false ∧
      thematicBreak ∉ partsOfAll blocks ∧ ∃ text left text' left',
      wide.document blocks = .ok (text, left) ∧ narrow.document blocks = .ok (text', left') ∧
        despaced text = despaced text' ∧
        (lines text).map despaced = (lines text').map despaced ∧
        left.notices = left'.notices := by
  intro wide narrow blocks
  have hs : wide.options.SameButWidths narrow.options := rfl
  have hb : thematicBreak ∉ partsOfAll blocks := by
    simp [blocks, partsOfAll, parts, partsOfItems]
  exact ⟨hs, rfl, hb, document_respaced hs (Or.inr ⟨rfl, hb⟩)⟩

end Writer
end HelpFile
