import HelpFile.Proofs.Nesting
import HelpFile.Proofs.Placement

/-!
# Opening marks

The sweep takes a mark back to column zero over spaces, not over the marker of a list item. So every
opening mark of a help file is alone in its line if and only if no item begins with a literal block,
whose mark would go behind the marker.
-/
namespace HelpFile
open Text

theorem ListContext.not_loneMark_marker_append (c : ListContext) (text : Text) :
    ¬ Delimiter.LoneMark (c.marker ++ text) := by
  have hsign : ∃ d ∈ c.marker, d = '*' ∨ d = '.' := by
    unfold marker
    split
    · exact ⟨'*', by simp, Or.inl rfl⟩
    · exact ⟨'.', by simp, Or.inr rfl⟩
  obtain ⟨d, hd, rfl | rfl⟩ := hsign <;>
    exact Delimiter.not_loneMark_of_mem (List.mem_append_left _ hd) (by decide) (by decide)

namespace Row

def opens (r : Row) : Bool := r.text.contains '>'

def Alone (r : Row) : Prop := r.opens → Delimiter.LoneMark r.text

theorem opens_iff {r : Row} : r.opens ↔ '>' ∈ r.text := List.contains_iff_mem

theorem alone_of_unmarked {r : Row} (h : Unmarked r.text) : r.Alone :=
  fun ho => absurd (opens_iff.mp ho) h.2

theorem alone_of_not_shows {r : Row} (h : ¬ r.shows) : r.Alone := by
  have ht : r.text = [] := by simpa [shows] using h
  exact alone_of_unmarked (ht ▸ unmarked_nil)

theorem opens_behind (lead : Text) (h : Lead lead) (r : Row) :
    (r.behind lead h).opens = r.opens := by
  have hm : '>' ∈ lead ++ r.text ↔ '>' ∈ r.text := by simp [h.unmarked.2]
  rw [Bool.eq_iff_iff, opens_iff, opens_iff]
  exact hm

theorem opens_indent (width : Int) (r : Row) : (r.indent width).opens = r.opens :=
  opens_behind _ (Lead.spaces _) r

theorem alone_indent (width : Int) (r : Row) : (r.indent width).Alone ↔ r.Alone := by
  rw [Alone, Alone, opens_indent]
  exact imp_congr_right fun _ => Delimiter.loneMark_spaces_append

/-- The mark of a list item has no place in front of an opening mark. -/
theorem alone_behind_marker (c : ListContext) (h : Lead c.marker) (r : Row) :
    (r.behind c.marker h).Alone ↔ r.opens = false := by
  rw [Alone, opens_behind]
  constructor
  · intro ha
    exact Bool.eq_false_iff.mpr fun ho => c.not_loneMark_marker_append r.text (ha ho)
  · intro hn ho
    exact absurd ho (by simp [hn])

theorem forall_alone_shown (rows : List Row) :
    (∀ r ∈ rows.filter shows, r.Alone) ↔ ∀ r ∈ rows, r.Alone := by
  constructor
  · intro h r hr
    by_cases hs : r.shows
    · exact h r (List.mem_filter.mpr ⟨hr, hs⟩)
    · exact alone_of_not_shows hs
  · intro h r hr
    exact h r (List.mem_filter.mp hr).1

theorem forall_alone_indented (width : Int) (rows : List Row) :
    (∀ r ∈ indented width rows, r.Alone) ↔ ∀ r ∈ rows, r.Alone := by
  rw [← forall_alone_shown rows, indented, List.forall_mem_map]
  exact forall₂_congr fun r _ => alone_indent width r

theorem forall_alone_literal (width : Int) (rows : List Row) :
    (∀ r ∈ literal width rows, r.Alone) ↔ ∀ r ∈ rows, r.Alone := by
  have hopen : Alone ⟨.opening, ['>'], by simp⟩ := fun _ => Delimiter.loneMark_singleton rfl
  have hclose : ∀ r ∈ [(⟨.closing, ['<'], by simp⟩ : Row), blank], r.Alone := by
    intro r hr ho
    simp only [List.mem_cons, List.not_mem_nil, or_false] at hr
    rcases hr with rfl | rfl <;> simp [opens, blank] at ho
  rw [literal, List.cons_append, List.forall_mem_cons, List.forall_mem_append,
    forall_alone_indented]
  exact ⟨fun h => h.2.1, fun h => ⟨hopen, h, hclose⟩⟩

/-- The rows of a hung text are those that show something, each indented. -/
theorem forall₂_hung (width trim : Int) (rows : List Row) :
    List.Forall₂ (fun s r => ∃ v, s = indent v r) (hung width trim rows) (rows.filter shows) := by
  have hindented : ∀ (v : Int) (rs : List Row),
      List.Forall₂ (fun s r => ∃ v, s = indent v r) (indented v rs) (rs.filter shows) := by
    intro v rs
    rw [indented, List.forall₂_map_left_iff, List.forall₂_same]
    exact fun r _ => ⟨v, rfl⟩
  cases rows with
  | nil => exact .nil
  | cons first rest =>
    have h : List.Forall₂ (fun s r => ∃ v, s = indent v r)
        (indented (max (width - trim) 0) [first] ++ indented width rest)
        ([first].filter shows ++ rest.filter shows) :=
      List.rel_append (hindented _ _) (hindented _ _)
    rwa [← List.filter_append] at h

/-- Of an item's rows, the first that shows something loses its place. -/
theorem forall_alone_item (width : Int) (c : ListContext) (rows : List Row) :
    (∀ r ∈ item width c rows, r.Alone) ↔
      (rows.find? shows).map opens ≠ some true ∧ ∀ r ∈ rows, r.Alone := by
  have hmarker : Lead c.marker := by simpa using Lead.marker c .nil
  have hh := forall₂_hung width c.marker.length rows
  rw [← forall_alone_shown rows, ← List.head?_filter]
  unfold item
  cases hc : hung width c.marker.length rows with
  | nil =>
    rw [hc, List.forall₂_nil_left_iff] at hh
    have htrim : Unmarked (trimEnd c.marker) := hmarker.unmarked.of_subset fun d hd _ =>
      List.mem_reverse.mp ((List.dropWhile_sublist _).subset (List.mem_reverse.mp hd))
    simp [hh, alone_of_unmarked, htrim]
  | cons first rest =>
    rw [hc] at hh
    obtain ⟨s, shown, ⟨v, rfl⟩, hrest, hs⟩ := List.forall₂_cons_left_iff.mp hh
    have hothers : (∀ r ∈ rest, r.Alone) ↔ ∀ r ∈ shown, r.Alone := by
      clear hh hs hc
      induction hrest with
      | nil => simp
      | cons hrs _ ih =>
        obtain ⟨u, rfl⟩ := hrs
        rw [List.forall_mem_cons, List.forall_mem_cons, ih, alone_indent]
    have hplain : s.opens = false → s.Alone := fun hn ho => absurd ho (by simp [hn])
    rw [hs, List.forall_mem_cons, List.forall_mem_cons, hothers, alone_behind_marker, opens_indent]
    simp only [List.head?_cons, Option.map_some, ne_eq, Option.some.injEq, Bool.not_eq_true]
    exact ⟨fun h => ⟨h.1, hplain h.1, h.2⟩, fun h => ⟨h.1, h.2.2⟩⟩

/-- What leads an item leads its blocks; without any, the marker stands alone. -/
theorem find?_item (width : Int) (c : ListContext) (rows : List Row) :
    ((item width c rows).find? shows).map opens =
      some (((rows.find? shows).map opens).getD false) := by
  have hmarker : Lead c.marker := by simpa using Lead.marker c .nil
  have hh := forall₂_hung width c.marker.length rows
  have hshows := @shows_item width c rows
  rw [← List.head?_filter, ← List.head?_filter, List.filter_eq_self.mpr hshows]
  unfold item
  cases hc : hung width c.marker.length rows with
  | nil =>
    rw [hc, List.forall₂_nil_left_iff] at hh
    have htrim : '>' ∉ trimEnd c.marker := fun hm => hmarker.unmarked.2
      (List.mem_reverse.mp ((List.dropWhile_sublist _).subset (List.mem_reverse.mp hm)))
    simp [hh, opens, htrim]
  | cons first rest =>
    rw [hc] at hh
    obtain ⟨s, shown, ⟨v, rfl⟩, -, hs⟩ := List.forall₂_cons_left_iff.mp hh
    simp [hs, opens_behind, opens_indent]

theorem exists_shows {rows : List Row} {c : Char} (hc : c ∈ textOf rows) (hn : c ≠ '\n') :
    ∃ r ∈ rows, r.shows := by
  obtain ⟨l, hl, hm⟩ := List.mem_flatMap.mp hc
  obtain ⟨r, hr, rfl⟩ := List.mem_map.mp hl
  have hr' : c ∈ r.text := (List.mem_append.mp hm).resolve_right (by simpa using hn)
  exact ⟨r, hr, by simpa [shows] using List.ne_nil_of_mem hr'⟩

theorem find?_unmarked {rows : List Row} (h : ∀ r ∈ rows, Unmarked r.text) {c : Char}
    (hc : c ∈ textOf rows) (hn : c ≠ '\n') : (rows.find? shows).map opens = some false := by
  obtain ⟨s, hs, hshows⟩ := exists_shows hc hn
  obtain ⟨r, hr⟩ := Option.isSome_iff_exists.mp (List.find?_isSome.mpr ⟨s, hs, hshows⟩)
  have hplain := (h r (List.mem_of_find?_eq_some hr)).2
  simp [hr, opens, hplain]

theorem Bracketed.unmarked {rows : List Row} (h : Bracketed rows []) :
    ∀ r ∈ rows, Unmarked r.text := by
  have hnone : ∀ c ∈ textOf rows, ¬ Delimiter.isMark c := List.filter_eq_nil_iff.mp h.word
  intro r hr
  have hmem : ∀ c ∈ r.text, c ∈ textOf rows := fun c hc =>
    List.mem_flatMap.mpr ⟨r.text, List.mem_map_of_mem hr, List.mem_append_left _ hc⟩
  exact ⟨fun hm => hnone _ (hmem _ hm) rfl, fun hm => hnone _ (hmem _ hm) rfl⟩

end Row

namespace Block
open Row

mutual

/-- Whether the first line that a block shows holds an opening mark; nothing if it shows no line. -/
def leading? : Block → Option Bool
  | heading _ content => if (fragment none content).shown then some false else none
  | paragraph task _ content => if (fragment task content).shown then some false else none
  | list _ children => leadingOfItems? children
  | quote _ | alert .. | fencedCode .. | indentedCode _ | html _ => some true
  | thematicBreak => some false
  | blankLine | linkDefinition | table | footnoteDefinition | inline _ => none
  | group body => leadingOfAll? body

def leadingOfAll? : List Block → Option Bool
  | [] => none
  | b :: rest => b.leading?.or (leadingOfAll? rest)

def leadingOfItems? : List ListChild → Option Bool
  | [] => none
  | .item body :: _ => some ((leadingOfAll? body).getD false)
  | .other _ :: rest => leadingOfItems? rest

end

theorem mem_textOf_headingRows (o : Options) {content : Fragment} (h : content.shown = true)
    (level : Int) : '*' ∈ textOf (content.headingRows o level) := by
  have hline : textOf (ofEnded .title ((Writer.fresh o).headingLine content.text)) =
      (Writer.fresh o).headingLine content.text :=
    textOf_ofEnded .title (Text.ended_append_newline _)
  rw [Fragment.headingRows, if_pos h, textOf_append, hline]
  exact List.mem_append_right _ (by simp [Writer.headingLine, Layout.straddle])

theorem exists_mem_textOf_paragraphRows {task : Option Bool} {content : List Inline}
    (h : (fragment task content).shown = true) (tight : Bool) :
    ∃ c ∈ textOf ((fragment task content).paragraphRows tight), c ≠ '\n' := by
  have hvoid : isVoid (fragment task content).text = false := by
    simpa [fragment, Fragment.ofText] using h
  obtain ⟨c, hc, hblank⟩ := List.all_eq_false.mp hvoid
  have hn : c ≠ '\n' := by
    rintro rfl
    exact hblank (by decide)
  refine ⟨c, ?_, hn⟩
  rw [Fragment.paragraphRows, if_pos h, textOf_ofEnded]
  · exact List.mem_append_left _ hc
  · cases tight
    · exact Or.inr ⟨(fragment task content).text ++ ['\n'], by simp⟩
    · exact Text.ended_append_newline _

theorem mem_textOf_rule (o : Options) :
    '-' ∈ textOf (ofEnded .plain (Layout.rule ['-'] o.columnWidth)) := by
  have hrule : textOf (ofEnded .plain (Layout.rule ['-'] o.columnWidth)) =
      Layout.rule ['-'] o.columnWidth := textOf_ofEnded .plain (Text.ended_append_newline _)
  have hpos := o.columnWidth_pos
  rw [hrule, Layout.rule]
  refine List.mem_append_left _ (List.mem_flatten.mpr ⟨['-'], ?_, by simp⟩)
  exact List.mem_replicate.mpr ⟨by omega, rfl⟩

theorem find?_literal (width : Int) (rows : List Row) :
    ((Row.literal width rows).find? shows).map opens = some true := rfl

mutual

theorem find?_rows {o : Options} (hf : Unmarked o.filename) : (b : Block) →
    (∀ s ∈ b.strings, Unmarked s) → ((b.rows o).find? shows).map opens = b.leading?
  | heading level content, h => by
    have hplain := (bracketed_rows hf (heading level content) h).unmarked
    rw [leading?]
    split
    · next hs => exact find?_unmarked hplain (mem_textOf_headingRows o hs level) (by decide)
    · next hs => simp [rows, Fragment.headingRows, hs]
  | paragraph task tight content, h => by
    have hplain := (bracketed_rows hf (paragraph task tight content) h).unmarked
    rw [leading?]
    split
    · next hs =>
      obtain ⟨c, hc, hn⟩ := exists_mem_textOf_paragraphRows hs tight
      exact find?_unmarked hplain hc hn
    · next hs => simp [rows, Fragment.paragraphRows, hs]
  | list ordered children, h => find?_rowsOfItems hf (.start ordered) children h
  | quote _, _ | alert .., _ | fencedCode .., _ | indentedCode _, _ | html _, _ =>
    find?_literal o.tabWidth _
  | thematicBreak, h =>
    find?_unmarked (bracketed_rows hf thematicBreak h).unmarked (mem_textOf_rule o) (by decide)
  | blankLine, _ | linkDefinition, _ | table, _ | footnoteDefinition, _ | inline _, _ => rfl
  | group body, h => find?_rowsOfAll hf body h

theorem find?_rowsOfAll {o : Options} (hf : Unmarked o.filename) : (blocks : List Block) →
    (∀ s ∈ stringsOfAll blocks, Unmarked s) →
    ((rowsOfAll o blocks).find? shows).map opens = leadingOfAll? blocks
  | [], _ => rfl
  | b :: rest, h => by
    have hb := find?_rows hf b fun s hs => h s (by simp [stringsOfAll, hs])
    have hrest := find?_rowsOfAll hf rest fun s hs => h s (by simp [stringsOfAll, hs])
    rw [rowsOfAll, List.find?_append, Option.map_or, hb, hrest, leadingOfAll?]

theorem find?_rowsOfItems {o : Options} (hf : Unmarked o.filename) : (c : ListContext) →
    (children : List ListChild) → (∀ s ∈ stringsOfItems children, Unmarked s) →
    ((rowsOfItems o c children).find? shows).map opens = leadingOfItems? children
  | _, [], _ => rfl
  | c, .item body :: rest, h => by
    have hbody := find?_rowsOfAll hf body fun s hs => h s (by simp [stringsOfItems, hs])
    rw [rowsOfItems, itemRows, List.append_assoc, List.find?_append, Option.map_or, find?_item,
      hbody, Option.some_or, leadingOfItems?]
  | c, .other _ :: rest, h => find?_rowsOfItems hf c rest h

end

/-- No item of a list begins with a literal block: if its blocks show a line, the first one holds no
opening mark. -/
def ItemsUnopened : Block → Prop
  | list _ children => ∀ body ∈ ListChild.bodies children, leadingOfAll? body ≠ some true
  | _ => True

theorem forall_alone_itemRows (o : Options) (c : ListContext) (rows : List Row)
    (rest : List ListChild) :
    (∀ r ∈ itemRows o c rows rest, r.Alone) ↔
      (rows.find? shows).map opens ≠ some true ∧ ∀ r ∈ rows, r.Alone := by
  have hblank : ∀ r ∈ if rest.any ListChild.isItem then [] else [blank], r.Alone := by
    intro r hr
    split at hr
    · simp at hr
    · rw [List.mem_singleton.mp hr]
      exact alone_of_unmarked unmarked_nil
  rw [itemRows, List.forall_mem_append, forall_alone_item]
  exact and_iff_left hblank

mutual

theorem forall_alone_rows {o : Options} (hf : Unmarked o.filename) : (b : Block) →
    (∀ s ∈ b.strings, Unmarked s) →
    ((∀ r ∈ b.rows o, r.Alone) ↔ ∀ p ∈ b.parts, p.ItemsUnopened)
  | list ordered children, h => by
    rw [parts, List.forall_mem_cons]
    exact forall_alone_rowsOfItems hf (.start ordered) children h
  | quote body, h => by
    rw [parts, List.forall_mem_cons, rows, forall_alone_literal, forall_alone_rowsOfAll hf body h]
    exact (and_iff_right trivial).symm
  | alert kind body, h => by
    have hkind : Unmarked (kind ++ [':']) := by simp [h kind (by simp [strings])]
    have htitle : ∀ r ∈ Row.ofLines .plain (kind ++ [':']), r.Alone := fun r hr =>
      alone_of_unmarked ((bracketed_ofLines .plain hkind).unmarked r hr)
    have hbody := forall_alone_rowsOfAll hf body fun s hs => h s (by simp [strings, hs])
    rw [parts, List.forall_mem_cons, rows, forall_alone_literal, List.forall_mem_append, hbody,
      and_iff_right htitle]
    exact (and_iff_right trivial).symm
  | fencedCode _ text, h | indentedCode text, h | html text, h => by
    have htext : ∀ r ∈ Row.ofLines .plain text, r.Alone := fun r hr =>
      alone_of_unmarked ((bracketed_ofLines .plain (h text (by simp [strings]))).unmarked r hr)
    refine iff_of_true ((forall_alone_literal o.tabWidth _).mpr htext) ?_
    simp [parts, ItemsUnopened]
  | heading level content, h => by
    have hplain := (bracketed_rows hf (heading level content) h).unmarked
    refine iff_of_true (fun r hr => alone_of_unmarked (hplain r hr)) ?_
    simp [parts, ItemsUnopened]
  | paragraph task tight content, h => by
    have hplain := (bracketed_rows hf (paragraph task tight content) h).unmarked
    refine iff_of_true (fun r hr => alone_of_unmarked (hplain r hr)) ?_
    simp [parts, ItemsUnopened]
  | thematicBreak, h => by
    have hplain := (bracketed_rows hf thematicBreak h).unmarked
    refine iff_of_true (fun r hr => alone_of_unmarked (hplain r hr)) ?_
    simp [parts, ItemsUnopened]
  | blankLine, _ | linkDefinition, _ | table, _ | footnoteDefinition, _ | inline _, _ => by
    simp [rows, parts, ItemsUnopened]
  | group body, h => by
    rw [parts, List.forall_mem_cons, rows, forall_alone_rowsOfAll hf body h]
    exact (and_iff_right trivial).symm

theorem forall_alone_rowsOfAll {o : Options} (hf : Unmarked o.filename) : (blocks : List Block) →
    (∀ s ∈ stringsOfAll blocks, Unmarked s) →
    ((∀ r ∈ rowsOfAll o blocks, r.Alone) ↔ ∀ p ∈ partsOfAll blocks, p.ItemsUnopened)
  | [], _ => by simp [rowsOfAll, partsOfAll]
  | b :: rest, h => by
    have hb := forall_alone_rows hf b fun s hs => h s (by simp [stringsOfAll, hs])
    have hrest := forall_alone_rowsOfAll hf rest fun s hs => h s (by simp [stringsOfAll, hs])
    rw [rowsOfAll, partsOfAll, List.forall_mem_append, List.forall_mem_append, hb, hrest]

theorem forall_alone_rowsOfItems {o : Options} (hf : Unmarked o.filename) : (c : ListContext) →
    (children : List ListChild) → (∀ s ∈ stringsOfItems children, Unmarked s) →
    ((∀ r ∈ rowsOfItems o c children, r.Alone) ↔
      (∀ body ∈ ListChild.bodies children, leadingOfAll? body ≠ some true) ∧
      ∀ p ∈ partsOfItems children, p.ItemsUnopened)
  | _, [], _ => by simp [rowsOfItems, ListChild.bodies, partsOfItems]
  | c, .item body :: rest, h => by
    have hstrings : ∀ s ∈ stringsOfAll body, Unmarked s :=
      fun s hs => h s (by simp [stringsOfItems, hs])
    have hbody := forall_alone_rowsOfAll hf body hstrings
    have hrest := forall_alone_rowsOfItems hf c.advance rest
      fun s hs => h s (by simp [stringsOfItems, hs])
    rw [rowsOfItems, ListChild.bodies, partsOfItems, List.forall_mem_append,
      List.forall_mem_append, List.forall_mem_cons, forall_alone_itemRows,
      find?_rowsOfAll hf body hstrings, hbody, hrest]
    exact and_and_and_comm
  | c, .other _ :: rest, h => forall_alone_rowsOfItems hf c rest h

end

end Block

namespace Writer
open Block Row

/-- Every opening mark of a help file is alone in its line, in column zero, if and only if no list
item of the document begins with a literal block. -/
theorem openings_alone_iff {w : Writer} (hf : Unmarked w.options.filename)
    (hd : Unmarked w.options.description) {blocks : List Block}
    (hs : ∀ s ∈ stringsOfAll blocks, Unmarked s) : ∃ text left,
    w.document blocks = .ok (text, left) ∧
    ((∀ line ∈ lines text, '>' ∈ line → line = ['>']) ↔
      ∀ b ∈ partsOfAll blocks, b.ItemsUnopened) := by
  obtain ⟨header, contents, ahead, behind, hrows, hheader, hcontents, ht⟩ :=
    exists_rows_around hf hd hs
  refine ⟨textOf ((header ++ ahead ++ contents ++ behind).map flush), w.after blocks, ?_, ?_⟩
  · rw [document_eq, ht, flushLeft_textOf]
  · have hplain : ∀ {rs : List Row}, (∀ r ∈ rs, Unmarked r.text) → ∀ r ∈ rs, r.Alone :=
      fun h r hr => alone_of_unmarked (h r hr)
    have hline : ∀ r : Row, ('>' ∈ r.flush.text → r.flush.text = ['>']) ↔ r.Alone := fun r => by
      rw [Alone, opens_iff]
      exact Delimiter.flushLine_alone_iff rfl r.text
    have hlast : ∀ line ∈ [([] : Text)], '>' ∈ line → line = ['>'] := by simp
    have hfront := hplain hheader
    have hbetween := hplain hcontents
    rw [← forall_alone_rowsOfAll hf blocks hs, ← hrows, lines_textOf, List.map_map,
      List.forall_mem_append, List.forall_mem_map, and_iff_left hlast]
    simp only [Function.comp_apply, hline, List.forall_mem_append]
    exact ⟨fun h => ⟨h.1.1.2, h.2⟩, fun h => ⟨⟨⟨hfront, h.1⟩, hbetween⟩, h.2⟩⟩

theorem openings_alone_in_containers :
    let w := Writer.fresh .standard
    let blocks := [quote [list true [.item [paragraph none true [.text ['a']], fencedCode [] ['x']],
      .item [list false [.item [html ['y']]]]]]]
    (Unmarked w.options.filename ∧ Unmarked w.options.description ∧
      ∀ s ∈ stringsOfAll blocks, Unmarked s) ∧
    ∃ text left, w.document blocks = .ok (text, left) ∧
      ((∀ line ∈ lines text, '>' ∈ line → line = ['>']) ↔
        ∀ b ∈ partsOfAll blocks, b.ItemsUnopened) := by
  intro w blocks
  have hf : Unmarked w.options.filename := by constructor <;> decide
  have hs : ∀ s ∈ stringsOfAll blocks, Unmarked s := by
    simp [blocks, stringsOfAll, stringsOfItems, strings, Inline.stringsOfAll, Inline.strings]
  exact ⟨⟨hf, unmarked_nil, hs⟩, openings_alone_iff hf unmarked_nil hs⟩

/-- The marker of an item stays in front of the code block that the item begins with. -/
theorem opening_behind_marker :
    let w := Writer.fresh .standard
    let blocks := [list false [.item [fencedCode [] ['x']]]]
    (Unmarked w.options.filename ∧ Unmarked w.options.description ∧
      ∀ s ∈ stringsOfAll blocks, Unmarked s) ∧
    (∃ left, w.document blocks = .ok ("doc.txt\n\n*   >\n        x\n<\n\n".toList, left)) ∧
    ¬ ∀ line ∈ lines "doc.txt\n\n*   >\n        x\n<\n\n".toList, '>' ∈ line → line = ['>'] := by
  refine ⟨⟨by constructor <;> decide, unmarked_nil, ?_⟩, exists_document_eq rfl, by decide⟩
  simp [stringsOfAll, stringsOfItems, strings]

end Writer
end HelpFile
