import HelpFile.Proofs.Body

/-!
# Lines of a list item

The lines of an item that show something stand in one column behind its marker if the first line of
its text is one of them. An empty first line takes the room of the marker with it, and the item
begins too far to the right.
-/
namespace HelpFile
open Text

namespace Layout

/-- Lines behind a marker. The first begins at column `width`, or where a wider marker ends, and the
others begin at column `width`. -/
def hanging (width : Nat) (marker : Text) : List Text → List Text
  | [] => []
  | first :: rest => (marker.rightpad width ' ' ++ first) :: rest.map (spaces width ++ ·)

/-- The indentation of the first line that a text shows. Room for a marker is left in the first line
only, whether that line shows or not. -/
def firstIndent (width trim : Nat) (text : Text) : Nat :=
  if (lines text).head? = some [] then width else width - trim

/-- The lines of an item. Its marker is in front of the first line that its text shows; with no such
line it stands alone, without its blank. -/
def itemLines (width : Nat) (marker text : Text) : List Text :=
  match shownLines text with
  | [] => [marker.dropLast]
  | first :: rest =>
    (marker ++ spaces (firstIndent width marker.length text) ++ first) :: rest.map (spaces width ++ ·)

theorem blanks_sub (width : Int) (trim : Nat) :
    blanks (max (width - trim) 0) = spaces (width.toNat - trim) := by
  have hn : (max (width - trim) 0).toNat = width.toNat - trim := by omega
  rw [blanks, hn]

theorem indentBlock_shown {text first : Text} {rest : List Text}
    (hs : shownLines text = first :: rest) (width : Int) (trim : Nat) :
    indentBlock text width trim = ofLines
      ((spaces (firstIndent width.toNat trim text) ++ first) ::
        rest.map (spaces width.toNat ++ ·)) := by
  obtain ⟨line, more, hl⟩ := exists_lines text
  rw [shownLines, hl] at hs
  rw [indentBlock_cons hl, firstIndent, hl, List.head?_cons, flatMap_indentLine]
  by_cases he : line = []
  · subst he
    rw [if_pos rfl]
    change more.filter (fun l => !l.isEmpty) = first :: rest at hs
    rw [hs]
    rfl
  · rw [filter_shown he] at hs
    obtain ⟨rfl, hrest⟩ := List.cons.inj hs
    have hne : some line ≠ some [] := fun h => he (Option.some.inj h)
    rw [if_neg hne, indentLine_of_ne_nil _ he, blanks_sub, hrest, ofLines_cons, List.append_assoc]
    rfl

theorem indentBlock_of_shownLines_nil {text : Text} (hs : shownLines text = [])
    (width trim : Int) : indentBlock text width trim = [] := by
  obtain ⟨line, more, hl⟩ := exists_lines text
  rw [shownLines, hl, List.filter_eq_nil_iff] at hs
  have hline : line = [] := by simpa using hs line List.mem_cons_self
  have hmore : more.filter (fun l => !l.isEmpty) = [] :=
    List.filter_eq_nil_iff.mpr fun l hm => hs l (List.mem_cons_of_mem _ hm)
  rw [indentBlock_cons hl, hline, flatMap_indentLine, hmore]
  rfl

end Layout

theorem ListContext.marker_ne_nil (c : ListContext) : c.marker ≠ [] := by
  unfold marker
  split <;> simp

theorem ListContext.trimEnd_marker (c : ListContext) : trimEnd c.marker = c.marker.dropLast := by
  have hblank : isBlank ' ' = true := by decide
  have hdot : isBlank '.' = false := by decide
  have hstar : isBlank '*' = false := by decide
  unfold marker
  split <;> simp [trimEnd, hblank, hdot, hstar]

namespace Writer

theorem itemText_shown (w : Writer) (marker : Text) {text first : Text} {rest : List Text}
    (hs : shownLines text = first :: rest) :
    w.itemText marker text = ofLines
      ((marker ++ spaces (Layout.firstIndent w.options.tabWidth.toNat marker.length text) ++ first) ::
        rest.map (spaces w.options.tabWidth.toNat ++ ·)) := by
  rw [itemText, Layout.indentBlock_shown hs]
  split
  · next h => simp at h
  · simp

theorem itemText_eq_itemLines (w : Writer) (c : ListContext) (text : Text) :
    w.itemText c.marker text =
      ofLines (Layout.itemLines w.options.tabWidth.toNat c.marker text) := by
  cases hs : shownLines text with
  | nil =>
    rw [itemText, Layout.indentBlock_of_shownLines_nil hs, Layout.itemLines, hs, c.trimEnd_marker]
    exact (List.append_nil _).symm
  | cons first rest => rw [w.itemText_shown _ hs, Layout.itemLines, hs]

end Writer

namespace Page

/-- An item on a list that is open, whatever its counter and wherever the page is written. -/
theorem listItem_eq {p : Page} {i : Nat} {outer : List Nat} {c : ListContext}
    (ho : p.writer.lists.openLists = i :: outer) (hc : p.writer.lists.contexts[i]? = some c)
    (text : Text) (last : Bool) : ∃ q, p.listItem text last = .ok q ∧
      q.out = p.out.write (p.writer.itemText c.marker text ++ if last then ['\n'] else []) := by
  have hd : p.writer.lists.draw = .ok (c.marker,
      { p.writer.lists with contexts := p.writer.lists.contexts.set i c.advance }) := by
    simp [ListStack.draw, ListStack.peek, ListStack.drawFrom, ho, hc, Except.map]
  simp only [listItem, hd, bind, Except.bind, pure, Except.pure]
  refine ⟨_, rfl, ?_⟩
  cases last with
  | false =>
    have hnone : (if false = true then ['\n'] else []) = ([] : Text) := rfl
    rw [hnone, List.append_nil]
    rfl
  | true =>
    rw [if_pos rfl, if_pos rfl, ← Buffer.write_write]
    rfl

/-- The lines that an item shows hang behind its marker if and only if the first line of its text is
one of them, or nothing is indented at all. -/
theorem item_hanging_iff {p : Page} {i : Nat} {outer : List Nat} {c : ListContext}
    (ho : p.writer.lists.openLists = i :: outer) (hc : p.writer.lists.contexts[i]? = some c)
    {text : Text} (hs : ∃ l ∈ lines text, l ≠ []) (last : Bool) :
    let width := p.writer.options.tabWidth.toNat
    ∃ q written first rest, p.listItem text last = .ok q ∧
      q.out = p.out.write (ofLines written ++ if last then ['\n'] else []) ∧
      shownLines text = first :: rest ∧
      written = (c.marker ++ spaces (Layout.firstIndent width c.marker.length text) ++ first) ::
        rest.map (spaces width ++ ·) ∧
      (written = Layout.hanging width c.marker (shownLines text) ↔
        (lines text).head? ≠ some [] ∨ width = 0) := by
  intro width
  have hne : shownLines text ≠ [] := by
    obtain ⟨l, hl, hshown⟩ := hs
    have hm : l ∈ shownLines text := List.mem_filter.mpr ⟨hl, by simpa using hshown⟩
    exact List.ne_nil_of_mem hm
  obtain ⟨first, rest, hfirst⟩ := List.exists_cons_of_ne_nil hne
  obtain ⟨q, hq, hout⟩ := listItem_eq ho hc text last
  rw [Writer.itemText_shown _ _ hfirst] at hout
  refine ⟨q, _, first, rest, hq, hout, hfirst, rfl, ?_⟩
  have hpos : 0 < c.marker.length := List.length_pos_of_ne_nil c.marker_ne_nil
  have hindent : Layout.firstIndent width c.marker.length text = width - c.marker.length ↔
      (lines text).head? ≠ some [] ∨ width = 0 := by
    unfold Layout.firstIndent
    by_cases he : (lines text).head? = some []
    · simp only [he, if_true, ne_eq, not_true_eq_false, false_or]
      omega
    · simp [he]
  rw [← hindent, hfirst, Layout.hanging, List.cons.injEq, and_iff_left rfl,
    List.append_left_inj, List.rightpad, List.append_right_inj]
  constructor
  · intro h
    simpa [spaces] using congrArg List.length h
  · intro h
    exact congrArg spaces h

/-- A marker may be wider than the indentation. -/
theorem item_hanging_behind_wide_marker :
    let options : Options := { Options.standard with tabWidth := 2, tabWidth_nonneg := by decide }
    let c : ListContext := { kind := .ordered, nextIndex := 10 }
    let p : Page := { writer := { options, lists := ⟨[c], [0]⟩ } }
    let text := "a\n\n b\n".toList
    (p.writer.lists.openLists = 0 :: [] ∧ p.writer.lists.contexts[0]? = some c ∧
      ∃ l ∈ lines text, l ≠ []) ∧
    ∃ q written first rest, p.listItem text true = .ok q ∧
      q.out = p.out.write (ofLines written ++ if true then ['\n'] else []) ∧
      shownLines text = first :: rest ∧
      written = (c.marker ++ spaces (Layout.firstIndent 2 c.marker.length text) ++ first) ::
        rest.map (spaces 2 ++ ·) ∧
      (written = Layout.hanging 2 c.marker (shownLines text) ↔
        (lines text).head? ≠ some [] ∨ 2 = 0) := by
  intro options c p text
  have hs : ∃ l ∈ lines text, l ≠ [] := ⟨['a'], by decide, by decide⟩
  exact ⟨⟨rfl, rfl, hs⟩, item_hanging_iff rfl rfl hs true⟩

/-- Code with a space in it is not shown, so the first line of the item is empty. -/
theorem item_shifted_by_break :
    let p := Page.openList { writer := Writer.fresh .standard } false
    let text := "\na\nb\n".toList
    ((∃ l ∈ lines text, l ≠ []) ∧
      ∃ q, p.listItem text true = .ok q ∧ q.out.contents = "*     a\n    b\n\n".toList ∧
        q.out.contents ≠ ofLines (Layout.hanging 4 ['*', ' '] (shownLines text)) ++ ['\n']) ∧
    ∃ left, (Writer.fresh .standard).document
      [.list false [.item [.paragraph none true
        [.code ['x', ' ', 'y'], .lineBreak, .text ['a'], .lineBreak, .text ['b']]]]] =
      .ok ("doc.txt\n\n*     a\n    b\n\n".toList, left) := by
  refine ⟨⟨⟨['a'], by decide, by decide⟩, ⟨_, rfl, by decide, by decide⟩⟩, ?_⟩
  exact Writer.exists_document_eq rfl

end Page
end HelpFile
