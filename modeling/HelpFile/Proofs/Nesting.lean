import HelpFile.Proofs.Anchors
import HelpFile.Proofs.Brackets

/-!
# Nesting of literal blocks

Reading the marks of a help file as brackets gives the literal blocks of its document, nested as the
document nests them, provided the strings of the document hold no marks themselves. A container
never puts a marker in front of a closing mark: the first mark inside it opens a block.
-/
namespace HelpFile
open Text

namespace Row

/-- Rows that are bracketed as some blocks are nested: an opening mark ends its row and has a lead
in front, a closing one has spaces. -/
structure Bracketed (rows : List Row) (nests : List Nest) : Prop where
  word : marks (textOf rows) = Nest.wordOf nests
  opening : ∀ r ∈ rows, '>' ∈ r.text → ∃ lead, Lead lead ∧ r.text = lead ++ ['>']
  closing : ∀ r ∈ rows, '<' ∈ r.text → ∃ n, r.text = spaces n ++ ['<']

theorem bracketed_nil : Bracketed [] [] := ⟨rfl, by simp, by simp⟩

theorem Bracketed.append {rows others : List Row} {nests more : List Nest}
    (h : Bracketed rows nests) (k : Bracketed others more) :
    Bracketed (rows ++ others) (nests ++ more) where
  word := by rw [textOf_append, marks_append, h.word, k.word, Nest.wordOf_append]
  opening r hr := (List.mem_append.mp hr).elim (h.opening r) (k.opening r)
  closing r hr := (List.mem_append.mp hr).elim (h.closing r) (k.closing r)

theorem bracketed_of_unmarked {rows : List Row} (h : ∀ r ∈ rows, Unmarked r.text) :
    Bracketed rows [] where
  word := by
    rw [textOf, marks_ofLines]
    refine List.flatMap_eq_nil_iff.mpr fun l hl => ?_
    obtain ⟨r, hr, rfl⟩ := List.mem_map.mp hl
    exact (h r hr).marks
  opening r hr hm := absurd hm (h r hr).2
  closing r hr hm := absurd hm (h r hr).1

theorem bracketed_ofLines (purpose : Purpose) {text : Text} (h : Unmarked text) :
    Bracketed (ofLines purpose text) [] :=
  bracketed_of_unmarked fun _ hr => h.line (mem_ofLines hr).2

theorem bracketed_ofEnded (purpose : Purpose) {text : Text} (h : Unmarked text) :
    Bracketed (ofEnded purpose text) [] :=
  bracketed_of_unmarked fun _ hr => h.line (mem_ofEnded hr).2

theorem marks_within {r s : Row} (h : Within r s) : marks r.text = marks s.text := by
  obtain ⟨-, lead, hlead, ht⟩ := h
  rw [ht, marks_append, hlead.unmarked.marks, List.nil_append]

theorem marks_framed {framed rows : List Row} (h : Framed framed rows) :
    marks (textOf framed) = marks (textOf rows) := by
  have hshown : marks (textOf rows) = marks (textOf (rows.filter shows)) := by
    clear h
    induction rows with
    | nil => rfl
    | cons r rows ih =>
      by_cases hr : r.shows
      · rw [List.filter_cons_of_pos hr, textOf_cons, textOf_cons, marks_append, marks_append,
          marks_newline_cons, marks_newline_cons, ih]
      · have ht : r.text = [] := by simpa [shows] using hr
        rw [List.filter_cons_of_neg hr, textOf_cons, ht, List.nil_append, marks_newline_cons, ih]
  rw [hshown]
  unfold Framed at h
  generalize rows.filter shows = shown at h
  induction h with
  | nil => rfl
  | cons hrs _ ih =>
    rw [textOf_cons, textOf_cons, marks_append, marks_append, marks_newline_cons,
      marks_newline_cons, marks_within hrs, ih]

theorem mem_indented {width : Int} {rows : List Row} {s : Row} (h : s ∈ indented width rows) :
    ∃ v, ∃ r ∈ rows, s = indent v r := by
  obtain ⟨r, hr, rfl⟩ := List.mem_map.mp h
  exact ⟨width, r, (List.mem_filter.mp hr).1, rfl⟩

theorem mem_hung {width trim : Int} {rows : List Row} {s : Row} (h : s ∈ hung width trim rows) :
    ∃ v, ∃ r ∈ rows, s = indent v r := by
  cases rows with
  | nil => simp [hung] at h
  | cons first rest =>
    rcases List.mem_append.mp h with h | h
    · obtain ⟨v, r, hr, hs⟩ := mem_indented h
      exact ⟨v, r, List.mem_singleton.mp hr ▸ List.mem_cons_self, hs⟩
    · obtain ⟨v, r, hr, hs⟩ := mem_indented h
      exact ⟨v, r, List.mem_cons_of_mem _ hr, hs⟩

theorem Bracketed.framed {framed rows : List Row} {nests : List Nest} (h : Bracketed rows nests)
    (hf : Framed framed rows) (hi : ∀ s ∈ framed, ∃ v, ∃ r ∈ rows, s = indent v r) :
    Bracketed framed nests where
  word := (marks_framed hf).trans h.word
  opening s hs hm := by
    obtain ⟨v, r, hr, rfl⟩ := hi s hs
    have hblank := (Lead.spaces v.toNat).unmarked.2
    obtain ⟨lead, hlead, ht⟩ := h.opening r hr ((List.mem_append.mp hm).resolve_left hblank)
    refine ⟨spaces v.toNat ++ lead, (Lead.spaces _).append hlead, ?_⟩
    rw [List.append_assoc, ← ht]
    rfl
  closing s hs hm := by
    obtain ⟨v, r, hr, rfl⟩ := hi s hs
    have hblank := (Lead.spaces v.toNat).unmarked.1
    obtain ⟨n, ht⟩ := h.closing r hr ((List.mem_append.mp hm).resolve_left hblank)
    refine ⟨v.toNat + n, ?_⟩
    rw [spaces_add, List.append_assoc, ← ht]
    rfl

theorem Bracketed.literal {rows : List Row} {nests : List Nest} (h : Bracketed rows nests)
    (width : Int) : Bracketed (literal width rows) [.block nests] := by
  have hi := h.framed (framed_indented width rows) fun _ => mem_indented
  have hmem : ∀ r ∈ Row.literal width rows,
      r.text = ['>'] ∨ r ∈ indented width rows ∨ r.text = ['<'] ∨ r.text = [] := by
    intro r hr
    simp only [Row.literal, List.cons_append, List.mem_cons, List.mem_append, List.not_mem_nil,
      or_false] at hr
    rcases hr with rfl | hr | rfl | rfl
    · exact Or.inl rfl
    · exact Or.inr (Or.inl hr)
    · exact Or.inr (Or.inr (Or.inl rfl))
    · exact Or.inr (Or.inr (Or.inr rfl))
  refine ⟨?_, ?_, ?_⟩
  · have htext : textOf (Row.literal width rows) =
        ['>'] ++ '\n' :: textOf (indented width rows) ++ ['<'] ++ ['\n', '\n'] := by
      simp [Row.literal, blank]
    have hopen : marks ['>'] = ['>'] := rfl
    have hclose : marks ['<'] = ['<'] := rfl
    have hend : marks ['\n', '\n'] = [] := rfl
    rw [htext, marks_append, marks_append, marks_append, marks_newline_cons, hi.word, hopen, hclose,
      hend]
    rfl
  · intro r hr hm
    rcases hmem r hr with ht | hr | ht | ht
    · exact ⟨[], .nil, ht⟩
    · exact hi.opening r hr hm
    · simp [ht] at hm
    · simp [ht] at hm
  · intro r hr hm
    rcases hmem r hr with ht | hr | ht | ht
    · simp [ht] at hm
    · exact hi.closing r hr hm
    · exact ⟨0, ht⟩
    · simp [ht] at hm

theorem Bracketed.item {rows : List Row} {nests : List Nest} (h : Bracketed rows nests)
    (width : Int) (c : ListContext) : Bracketed (item width c rows) nests := by
  have hh := h.framed (framed_hung width c.marker.length rows) fun _ => mem_hung
  have hmarker : Lead c.marker := by simpa using Lead.marker c .nil
  unfold Row.item
  cases hc : hung width c.marker.length rows with
  | nil =>
    rw [hc] at hh
    have htrim : Unmarked (trimEnd c.marker) := hmarker.unmarked.of_subset fun d hd _ =>
      List.mem_reverse.mp ((List.dropWhile_sublist _).subset (List.mem_reverse.mp hd))
    -- With no row left there is no mark, so the item has no block in it.
    have hnil : Nest.wordOf nests = Nest.wordOf [] := hh.word.symm
    let row : Row := ⟨.plain, trimEnd c.marker, newline_not_mem_trimEnd hmarker.newline_not_mem⟩
    have hrow : Bracketed [row] [] := bracketed_of_unmarked (by simpa using htrim)
    exact ⟨hrow.word.trans hnil.symm, hrow.opening, hrow.closing⟩
  | cons first rest =>
    rw [hc] at hh
    have hword := hh.word
    rw [textOf_cons, marks_append] at hword
    refine ⟨?_, ?_, ?_⟩
    · rw [textOf_cons, marks_append, marks_within (within_behind c.marker hmarker first)]
      exact hword
    · intro r hr hm
      rcases List.mem_cons.mp hr with rfl | hr
      · obtain ⟨lead, hlead, ht⟩ := hh.opening first List.mem_cons_self
          ((List.mem_append.mp hm).resolve_left hmarker.unmarked.2)
        refine ⟨c.marker ++ lead, hmarker.append hlead, ?_⟩
        rw [List.append_assoc, ← ht]
        rfl
      · exact hh.opening r (List.mem_cons_of_mem _ hr) hm
    · intro r hr hm
      rcases List.mem_cons.mp hr with rfl | hr
      · -- A closing mark up front would close a block that was never opened.
        obtain ⟨n, ht⟩ := hh.closing first List.mem_cons_self
          ((List.mem_append.mp hm).resolve_left hmarker.unmarked.1)
        rw [ht, marks_append, (Lead.spaces n).unmarked.marks] at hword
        exact absurd hword.symm (Nest.wordOf_ne nests _)
      · exact hh.closing r (List.mem_cons_of_mem _ hr) hm

end Row

namespace Block
open Row

mutual

def nests : Block → List Nest
  | quote body | alert _ body => [.block (nestsOfAll body)]
  | fencedCode .. | indentedCode _ | html _ => [.block []]
  | list _ children => nestsOfItems children
  | group body => nestsOfAll body
  | heading .. | paragraph .. | thematicBreak | blankLine | linkDefinition | table
  | footnoteDefinition | inline _ => []

def nestsOfAll : List Block → List Nest
  | [] => []
  | b :: rest => b.nests ++ nestsOfAll rest

def nestsOfItems : List ListChild → List Nest
  | [] => []
  | .item body :: rest => nestsOfAll body ++ nestsOfItems rest
  | .other _ :: rest => nestsOfItems rest

end

theorem bracketed_headingRows {o : Options} (hf : Unmarked o.filename) {content : Fragment}
    (hc : Unmarked content.text) (level : Int) : Bracketed (content.headingRows o level) [] := by
  unfold Fragment.headingRows
  split
  · exact (bracketed_ofEnded .rule (Writer.unmarked_headingRule (Writer.fresh o) level)).append
      (bracketed_ofEnded .title (Writer.unmarked_headingLine (w := Writer.fresh o) hf hc))
  · exact bracketed_nil

theorem bracketed_itemRows {o : Options} {rows : List Row} {nests : List Nest}
    (h : Bracketed rows nests) (c : ListContext) (rest : List ListChild) :
    Bracketed (itemRows o c rows rest) nests := by
  have hblank : Bracketed (if rest.any ListChild.isItem then [] else [blank]) [] := by
    refine bracketed_of_unmarked fun r hr => ?_
    split at hr
    · simp at hr
    · rw [List.mem_singleton.mp hr]
      exact unmarked_nil
  simpa [itemRows] using (h.item o.tabWidth c).append hblank

mutual

theorem bracketed_rows {o : Options} (hf : Unmarked o.filename) : (b : Block) →
    (∀ s ∈ b.strings, Unmarked s) → Bracketed (b.rows o) b.nests
  | heading level content, h => bracketed_headingRows hf (unmarked_fragment none h) level
  | paragraph task tight content, h => by
    rw [rows, Fragment.paragraphRows]
    split
    · have ht := unmarked_fragment task h
      exact bracketed_ofEnded .plain (by cases tight <;> simp [ht])
    · exact bracketed_nil
  | list ordered children, h => bracketed_rowsOfItems hf (.start ordered) children h
  | quote body, h => (bracketed_rowsOfAll hf body h).literal o.tabWidth
  | alert kind body, h => by
    have hkind : Unmarked (kind ++ [':']) := by simp [h kind (by simp [strings])]
    have hbody := bracketed_rowsOfAll hf body fun s hs => h s (by simp [strings, hs])
    exact ((bracketed_ofLines .plain hkind).append hbody).literal o.tabWidth
  | fencedCode _ text, h | indentedCode text, h | html text, h =>
    (bracketed_ofLines .plain (h text (by simp [strings]))).literal o.tabWidth
  | thematicBreak, _ => bracketed_ofEnded .plain (Layout.unmarked_rule (by simp) _)
  | blankLine, _ | linkDefinition, _ | table, _ | footnoteDefinition, _ | inline _, _ =>
    bracketed_nil
  | group body, h => bracketed_rowsOfAll hf body h

theorem bracketed_rowsOfAll {o : Options} (hf : Unmarked o.filename) : (blocks : List Block) →
    (∀ s ∈ stringsOfAll blocks, Unmarked s) → Bracketed (rowsOfAll o blocks) (nestsOfAll blocks)
  | [], _ => bracketed_nil
  | b :: rest, h =>
    (bracketed_rows hf b fun s hs => h s (by simp [stringsOfAll, hs])).append
      (bracketed_rowsOfAll hf rest fun s hs => h s (by simp [stringsOfAll, hs]))

theorem bracketed_rowsOfItems {o : Options} (hf : Unmarked o.filename) : (c : ListContext) →
    (children : List ListChild) → (∀ s ∈ stringsOfItems children, Unmarked s) →
    Bracketed (rowsOfItems o c children) (nestsOfItems children)
  | _, [], _ => bracketed_nil
  | c, .item body :: rest, h => by
    have hbody := bracketed_rowsOfAll hf body fun s hs => h s (by simp [stringsOfItems, hs])
    exact (bracketed_itemRows hbody c rest).append
      (bracketed_rowsOfItems hf c.advance rest fun s hs => h s (by simp [stringsOfItems, hs]))
  | c, .other _ :: rest, h => bracketed_rowsOfItems hf c rest h

end

end Block

/-- A viewer knows a closing mark alone in column zero and an opening one at the end of a line, in
column zero too if no list marker is in front. -/
structure Delimited (line : Text) : Prop where
  closing : '<' ∈ line → line = ['<']
  opening : '>' ∈ line → ∃ lead, Lead lead ∧ line = lead ++ ['>'] ∧
    ((∀ c ∈ lead, c = ' ') → lead = [])

namespace Row

theorem Bracketed.delimited {rows : List Row} {nests : List Nest} (h : Bracketed rows nests)
    {r : Row} (hr : r ∈ rows) : Delimited r.flush.text := by
  refine ⟨fun hm => ?_, fun hm => ?_⟩
  · obtain ⟨n, ht⟩ := h.closing r hr (Delimiter.mem_of_mem_flushLine hm)
    rw [flush_text, ht]
    exact Delimiter.flushLine_spaces n rfl
  · obtain ⟨lead, hlead, ht⟩ := h.opening r hr (Delimiter.mem_of_mem_flushLine hm)
    by_cases hspaces : ∀ c ∈ lead, c = ' '
    · refine ⟨[], .nil, ?_, fun _ => rfl⟩
      have hs : lead = spaces lead.length := List.eq_replicate_of_mem hspaces
      rw [flush_text, ht, hs]
      exact Delimiter.flushLine_spaces _ rfl
    · refine ⟨lead, hlead, ?_, fun h => absurd h hspaces⟩
      push Not at hspaces
      obtain ⟨c, hc, hne⟩ := hspaces
      have hpad : ¬ Delimiter.isPadding c := by
        intro hp
        simp only [Delimiter.isPadding, Bool.or_eq_true, beq_iff_eq] at hp
        rcases hp with rfl | rfl
        · exact hne rfl
        · rcases hlead.mem hc with h | h | h | h <;> simp at h
      rw [flush_text, ht]
      have hmark := hlead.unmarked.not_isMark hc
      exact Delimiter.flushLine_of_mem (List.mem_append_left _ hc) hmark hpad

/-- Rows without marks can stand anywhere. -/
theorem Bracketed.insert {rows others : List Row} {nests : List Nest}
    (h : Bracketed (rows ++ others) nests) {more : List Row} (hm : ∀ r ∈ more, Unmarked r.text) :
    Bracketed (rows ++ more ++ others) nests := by
  have hmore := bracketed_of_unmarked hm
  have hmem : ∀ r ∈ rows ++ more ++ others, r ∈ rows ++ others ∨ r ∈ more := by
    simp only [List.mem_append]
    tauto
  refine ⟨?_, fun r hr => ?_, fun r hr => ?_⟩
  · have hw := h.word
    have hnil : marks (textOf more) = [] := hmore.word
    rw [textOf_append, marks_append] at hw
    rw [textOf_append, textOf_append, marks_append, marks_append, hnil, List.append_nil, hw]
  · exact (hmem r hr).elim (h.opening r) (hmore.opening r)
  · exact (hmem r hr).elim (h.closing r) (hmore.closing r)

theorem marks_flush (rows : List Row) : marks (textOf (rows.map flush)) = marks (textOf rows) := by
  induction rows with
  | nil => rfl
  | cons r rows ih =>
    rw [List.map_cons, textOf_cons, textOf_cons, marks_append, marks_append, marks_newline_cons,
      marks_newline_cons, ih, flush_text, marks_flushLine]

end Row

namespace Writer
open Block Row

theorem unmarked_link {w : Writer} (hf : Unmarked w.options.filename) {indent text : Text}
    (hi : Unmarked indent) (ht : Unmarked text) : Unmarked (w.link indent text) := by
  have htag := unmarked_tag hf ht
  have hleft : Unmarked (indent ++ text) := by simp [hi, ht]
  have hright : Unmarked ('|' :: w.tag text ++ ['|']) := by simp [htag]
  exact (unmarked_append.mp (Layout.unmarked_straddle hleft hright _ _)).1

theorem unmarked_links {w : Writer} (hf : Unmarked w.options.filename) {first : Heading}
    {rest : List Heading} (ht : ∀ h ∈ first :: rest, Unmarked h.text) :
    ∀ l ∈ w.links first rest, Unmarked l := by
  intro l hl
  obtain ⟨n, h, hm, rfl⟩ := mem_links hl
  exact unmarked_link hf (Lead.spaces n).unmarked (ht h hm)

theorem unmarked_contents {w : Writer} (hf : Unmarked w.options.filename) {blocks : List Block}
    (hs : ∀ s ∈ stringsOfAll blocks, Unmarked s) {first : Heading} {rest : List Heading}
    (hh : headingsOfAll blocks = first :: rest) :
    Unmarked (w.contentsStyle.contents 0 (first.over rest)) := by
  have hleaf : ∀ h ∈ first :: rest, h.children = [] :=
    fun h hm => (mem_headingsOfAll blocks (hh ▸ hm)).1
  rw [w.contents_eq_links first hleaf]
  exact unmarked_ofLines (unmarked_links hf fun h hm => unmarked_headings hs (hh ▸ hm))

/-- Before the sweep a help file is the rows of its blocks, with a header in front and a table of
contents in between that hold no marks. -/
theorem exists_rows_around {w : Writer} (hf : Unmarked w.options.filename)
    (hd : Unmarked w.options.description) {blocks : List Block}
    (hs : ∀ s ∈ stringsOfAll blocks, Unmarked s) : ∃ header contents ahead behind : List Row,
    ahead ++ behind = rowsOfAll w.options blocks ∧
    (∀ r ∈ header, Unmarked r.text) ∧ (∀ r ∈ contents, Unmarked r.text) ∧
    (w.after blocks).withContents (w.headerText ++ textOf (rowsOfAll w.options blocks)) =
      textOf (header ++ ahead ++ contents ++ behind) := by
  have hheader : textOf (ofEnded .plain w.headerText) = w.headerText :=
    textOf_ofEnded .plain (Or.inr w.headerText_ended)
  have hplain : ∀ r ∈ ofEnded .plain w.headerText, Unmarked r.text :=
    fun r hr => (unmarked_headerText hf hd).line (mem_ofEnded hr).2
  by_cases hnone : w.options.showContents = false ∨ headingsOfAll blocks = []
  · refine ⟨_, [], rowsOfAll w.options blocks, [], List.append_nil _, hplain, by simp, ?_⟩
    rw [withContents_plain hnone, List.append_nil, List.append_nil, textOf_append, hheader]
  · obtain ⟨hshow, hne⟩ := not_or.mp hnone
    obtain ⟨first, rest, hh⟩ := List.exists_cons_of_ne_nil hne
    obtain ⟨⟨behind, hb⟩, -⟩ := aheadOfAll_prefix w.options blocks
    let contents := w.contentsStyle.contents 0 (first.over rest)
    have hcontents : textOf (ofEnded .plain contents) = contents :=
      textOf_ofEnded .plain (ContentsStyle.ended_contents _ _ _)
    have hmore : ∀ r ∈ ofEnded .plain contents ++ [blank], Unmarked r.text := by
      intro r hr
      rcases List.mem_append.mp hr with hr | hr
      · exact (unmarked_contents hf hs hh).line (mem_ofEnded hr).2
      · rw [List.mem_singleton.mp hr]
        exact unmarked_nil
    refine ⟨_, _, _, _, hb, hplain, hmore, ?_⟩
    rw [withContents_after (by simpa using hshow) (w.root?_after hh) hb]
    simp [hheader, hcontents, blank, contents]

/-- The header and the table of contents hold no marks, and the rows are bracketed. -/
theorem bracketed_document {w : Writer} (hf : Unmarked w.options.filename)
    (hd : Unmarked w.options.description) {blocks : List Block}
    (hs : ∀ s ∈ stringsOfAll blocks, Unmarked s) : ∃ rows,
    (w.after blocks).withContents (w.headerText ++ textOf (rowsOfAll w.options blocks)) =
      textOf rows ∧ Bracketed rows (nestsOfAll blocks) := by
  obtain ⟨header, contents, ahead, behind, hrows, hheader, hcontents, ht⟩ :=
    exists_rows_around hf hd hs
  have hbody := bracketed_rowsOfAll hf blocks hs
  rw [← hrows] at hbody
  have hall := (bracketed_of_unmarked hheader).append hbody
  rw [← List.append_assoc] at hall
  exact ⟨_, ht, hall.insert hcontents⟩

/-- Read as brackets, the marks of a help file are the literal blocks of its document, nested alike,
and every mark stands where a viewer knows it. -/
theorem marks_nested {w : Writer} (hf : Unmarked w.options.filename)
    (hd : Unmarked w.options.description) {blocks : List Block}
    (hs : ∀ s ∈ stringsOfAll blocks, Unmarked s) : ∃ text left,
    w.document blocks = .ok (text, left) ∧
    Nest.read text = some (nestsOfAll blocks) ∧
    ∀ line ∈ lines text, Delimited line := by
  obtain ⟨rows, ht, hb⟩ := bracketed_document hf hd hs
  refine ⟨textOf (rows.map flush), w.after blocks, ?_, ?_, ?_⟩
  · rw [document_eq, ht, flushLeft_textOf]
  · rw [Nest.read, ← readFrom_marks, marks_flush, hb.word]
    exact Nest.read_wordOf _
  · intro line hl
    rw [lines_textOf, List.map_map] at hl
    rcases List.mem_append.mp hl with hl | hl
    · obtain ⟨r, hr, rfl⟩ := List.mem_map.mp hl
      exact hb.delimited hr
    · rw [List.mem_singleton.mp hl]
      exact ⟨by simp, by simp⟩

theorem marks_nested_in_item :
    let w := Writer.fresh .standard
    let blocks := [quote [list true [.item [fencedCode [] ['x']]], html ['y']]]
    (Unmarked w.options.filename ∧ Unmarked w.options.description ∧
      ∀ s ∈ stringsOfAll blocks, Unmarked s) ∧
    ∃ text left, w.document blocks = .ok (text, left) ∧
      Nest.read text = some [.block [.block [], .block []]] ∧
      ∀ line ∈ lines text, Delimited line := by
  intro w blocks
  have hf : Unmarked w.options.filename := by constructor <;> decide
  have hs : ∀ s ∈ stringsOfAll blocks, Unmarked s := by
    simp [blocks, stringsOfAll, stringsOfItems, strings]
  exact ⟨⟨hf, unmarked_nil, hs⟩, marks_nested hf unmarked_nil hs⟩

end Writer
end HelpFile
