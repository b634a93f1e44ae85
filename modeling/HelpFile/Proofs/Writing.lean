import HelpFile.Proofs.Stretch
import Mathlib.Logic.Function.Iterate

/-!
# Writing blocks

The stretch of a block is read off the block, the options and, for the notices, the outline so far.
The main statement is that writing a block extends the page by exactly this stretch, at any nesting
of containers, and never meets a closed list.
-/
namespace HelpFile

def ListContext.start (ordered : Bool) : ListContext where
  kind := if ordered then .ordered else .unordered

def ListContext.past (c : ListContext) : List ListChild → ListContext
  | [] => c
  | .item _ :: rest => c.advance.past rest
  | .other _ :: rest => c.past rest

theorem ListContext.past_eq_iterate (c : ListContext) (children : List ListChild) :
    c.past children = ListContext.advance^[children.countP ListChild.isItem] c := by
  induction children generalizing c with
  | nil => rfl
  | cons child rest ih =>
    cases child with
    | item body =>
      rw [past, ih, List.countP_cons_of_pos rfl, Function.iterate_succ_apply]
    | other b => rw [past, ih, List.countP_cons_of_neg Bool.false_ne_true]

theorem ListContext.past_congr (c : ListContext) {children others : List ListChild}
    (h : children.countP ListChild.isItem = others.countP ListChild.isItem) :
    c.past children = c.past others := by
  rw [past_eq_iterate, h, past_eq_iterate]

def itemRows (o : Options) (c : ListContext) (rows : List Row) (rest : List ListChild) : List Row :=
  Row.item o.tabWidth c rows ++ if rest.any ListChild.isItem then [] else [Row.blank]

theorem itemRows_congr (o : Options) (c : ListContext) {rows others : List Row}
    (hr : Row.item o.tabWidth c rows = Row.item o.tabWidth c others) {rest more : List ListChild}
    (hn : rest.countP ListChild.isItem = more.countP ListChild.isItem) :
    itemRows o c rows rest = itemRows o c others more := by
  have hany : rest.any ListChild.isItem = more.any ListChild.isItem := by
    rw [Bool.eq_iff_iff, List.any_eq_true, List.any_eq_true, ← List.countP_pos_iff,
      ← List.countP_pos_iff, hn]
  rw [itemRows, itemRows, hr, hany]

/-- An item whose body was written on an inner page, with the lists that its body opened. -/
theorem Page.listItem_resume {p : Page} (h : p.out.AtEnd) {before after : List ListContext}
    {c : ListContext} {outer : List Nat}
    (hl : p.writer.lists = ⟨before ++ c :: after, before.length :: outer⟩) (s : Stretch)
    (rest : List ListChild) :
    (p.resume (p.inner.extend s)).listItem (Row.textOf s.rows) (!rest.any ListChild.isItem) = .ok
      ((p.setLists ⟨before ++ c.advance :: after, before.length :: outer⟩).extend
        (s.enclose (itemRows p.writer.options c s.rows rest))) := by
  let q := p.resume (p.inner.extend s)
  have hq : q.out.AtEnd := h
  have hlists : q.writer.lists = ⟨before ++ c :: (after ++ s.opened), before.length :: outer⟩ := by
    simp [q, resume, extend, inner, hl]
  have hrows : itemRows p.writer.options c s.rows rest =
      Row.item q.writer.options.tabWidth c s.rows ++
        if !rest.any ListChild.isItem then [Row.blank] else [] := by
    cases hr : rest.any ListChild.isItem <;> simp [itemRows, hr, q, resume, inner]
  rw [listItem_eq_extend hq hlists, ← hrows]
  simp [q, resume, setLists, extend, inner, Stretch.enclose, Outline.placeAll]

namespace Block

mutual

def rows (o : Options) : Block → List Row
  | heading level content => (fragment none content).headingRows o level
  | paragraph task tight content => (fragment task content).paragraphRows tight
  | list ordered children => rowsOfItems o (.start ordered) children
  | quote body => Row.literal o.tabWidth (rowsOfAll o body)
  | alert kind body =>
    Row.literal o.tabWidth (Row.ofLines .plain (kind ++ [':']) ++ rowsOfAll o body)
  | fencedCode _ text | indentedCode text | html text =>
    Row.literal o.tabWidth (Row.ofLines .plain text)
  | thematicBreak => Row.ofEnded .plain (Layout.rule ['-'] o.columnWidth)
  | blankLine | linkDefinition | table | footnoteDefinition | inline _ => []
  | group body => rowsOfAll o body

def rowsOfAll (o : Options) : List Block → List Row
  | [] => []
  | b :: rest => b.rows o ++ rowsOfAll o rest

def rowsOfItems (o : Options) (c : ListContext) : List ListChild → List Row
  | [] => []
  | .item body :: rest => itemRows o c (rowsOfAll o body) rest ++ rowsOfItems o c.advance rest
  | .other _ :: rest => rowsOfItems o c rest

end

mutual

def headings : Block → List Heading
  | heading level content => (fragment none content).headings level
  | list _ children => headingsOfItems children
  | quote body | alert _ body | group body => headingsOfAll body
  | paragraph .. | fencedCode .. | indentedCode _ | html _ | thematicBreak | blankLine
  | linkDefinition | table | footnoteDefinition | inline _ => []

def headingsOfAll : List Block → List Heading
  | [] => []
  | b :: rest => b.headings ++ headingsOfAll rest

def headingsOfItems : List ListChild → List Heading
  | [] => []
  | .item body :: rest => headingsOfAll body ++ headingsOfItems rest
  | .other _ :: rest => headingsOfItems rest

end

mutual

/-- The rows of a block in front of its first heading. A heading in a quote has the whole quote
behind these, one in an item the items from this one on. -/
def ahead (o : Options) : Block → List Row
  | list ordered children => aheadOfItems o (.start ordered) children
  | group body => aheadOfAll o body
  | heading .. | paragraph .. | quote _ | alert .. | fencedCode .. | indentedCode _ | html _
  | thematicBreak | blankLine | linkDefinition | table | footnoteDefinition | inline _ => []

def aheadOfAll (o : Options) : List Block → List Row
  | [] => []
  | b :: rest => if b.headings.isEmpty then b.rows o ++ aheadOfAll o rest else b.ahead o

def aheadOfItems (o : Options) (c : ListContext) : List ListChild → List Row
  | [] => []
  | .item body :: rest =>
    if (headingsOfAll body).isEmpty then
      itemRows o c (rowsOfAll o body) rest ++ aheadOfItems o c.advance rest
    else []
  | .other _ :: rest => aheadOfItems o c rest

end

mutual

def notices (outline : Outline) : Block → List Notice
  | heading level content => (fragment none content).headingNotices level outline
  | paragraph task _ content => (fragment task content).notices
  | list _ children => noticesOfItems outline children
  | quote body | alert _ body | group body => noticesOfAll outline body
  | table => [.table]
  | footnoteDefinition => [.footnoteDefinition]
  | inline content => content.notices
  | fencedCode .. | indentedCode _ | html _ | thematicBreak | blankLine | linkDefinition => []

def noticesOfAll (outline : Outline) : List Block → List Notice
  | [] => []
  | b :: rest => b.notices outline ++ noticesOfAll (outline.placeAll b.headings) rest

def noticesOfItems (outline : Outline) : List ListChild → List Notice
  | [] => []
  | .item body :: rest =>
    noticesOfAll outline body ++ noticesOfItems (outline.placeAll (headingsOfAll body)) rest
  | .other _ :: rest => noticesOfItems outline rest

end

mutual

def opened : Block → List ListContext
  | list ordered children => (ListContext.start ordered).past children :: openedOfItems children
  | quote body | alert _ body | group body => openedOfAll body
  | heading .. | paragraph .. | fencedCode .. | indentedCode _ | html _ | thematicBreak | blankLine
  | linkDefinition | table | footnoteDefinition | inline _ => []

def openedOfAll : List Block → List ListContext
  | [] => []
  | b :: rest => b.opened ++ openedOfAll rest

def openedOfItems : List ListChild → List ListContext
  | [] => []
  | .item body :: rest => openedOfAll body ++ openedOfItems rest
  | .other _ :: rest => openedOfItems rest

end

def stretch (o : Options) (b : Block) : Stretch where
  rows := b.rows o
  ahead := b.ahead o
  headings := b.headings
  notices outline := b.notices outline
  opened := b.opened

def stretchOfAll (o : Options) (blocks : List Block) : Stretch where
  rows := rowsOfAll o blocks
  ahead := aheadOfAll o blocks
  headings := headingsOfAll blocks
  notices outline := noticesOfAll outline blocks
  opened := openedOfAll blocks

def stretchOfItems (o : Options) (c : ListContext) (children : List ListChild) : Stretch where
  rows := rowsOfItems o c children
  ahead := aheadOfItems o c children
  headings := headingsOfItems children
  notices outline := noticesOfItems outline children
  opened := openedOfItems children

theorem stretch_list (o : Options) (ordered : Bool) (children : List ListChild) :
    (list ordered children).stretch o =
      (stretchOfItems o (.start ordered) children).opening
        ((ListContext.start ordered).past children) := rfl

theorem stretch_quote (o : Options) (body : List Block) :
    (quote body).stretch o =
      (stretchOfAll o body).enclose (Row.literal o.tabWidth (rowsOfAll o body)) := rfl

theorem stretch_alert (o : Options) (kind : Text) (body : List Block) :
    (alert kind body).stretch o = (stretchOfAll o body).enclose
      (Row.literal o.tabWidth (Row.ofLines .plain (kind ++ [':']) ++ rowsOfAll o body)) := rfl

theorem stretch_group (o : Options) (body : List Block) :
    (group body).stretch o = stretchOfAll o body := rfl

theorem stretchOfAll_cons (o : Options) (b : Block) (rest : List Block) :
    stretchOfAll o (b :: rest) = (b.stretch o).append (stretchOfAll o rest) := by
  simp [stretchOfAll, stretch, Stretch.append, rowsOfAll, aheadOfAll, headingsOfAll, noticesOfAll,
    openedOfAll]

theorem stretchOfItems_item (o : Options) (c : ListContext) (body : List Block)
    (rest : List ListChild) :
    stretchOfItems o c (.item body :: rest) =
      ((stretchOfAll o body).enclose (itemRows o c (rowsOfAll o body) rest)).append
        (stretchOfItems o c.advance rest) := by
  simp [stretchOfItems, stretchOfAll, Stretch.append, Stretch.enclose, rowsOfItems, aheadOfItems,
    headingsOfItems, noticesOfItems, openedOfItems]

mutual

theorem write_eq : (b : Block) → {p : Page} → p.out.AtEnd →
    b.write p = .ok (p.extend (b.stretch p.writer.options))
  | heading level content, p, h => by rw [write, Page.heading_eq_extend h]; rfl
  | paragraph task tight content, p, h => by rw [write, Page.paragraph_eq_extend h]; rfl
  | list ordered children, p, h => by
    have ho : (p.openList ordered).out.AtEnd := h
    rw [write, writeItems_eq children ho rfl]
    exact p.closeList_extend ordered _ _
  | quote body, p, h => by
    rw [write, writeAll_eq body p.atEnd_inner]
    have hr : (p.resume (p.inner.extend (stretchOfAll p.writer.options body))).out.AtEnd := h
    have ht := Row.lines_textOf (rowsOfAll p.writer.options body)
    exact congrArg Except.ok
      ((Page.literalBlock_eq_extend hr (Or.inr ht)).trans (p.resume_extend _ _))
  | alert kind body, p, h => by
    rw [write, writeAll_eq body p.atEnd_inner]
    have hr : (p.resume (p.inner.extend (stretchOfAll p.writer.options body))).out.AtEnd := h
    have ht : Text.lines (kind ++ ':' :: '\n' :: Row.textOf (rowsOfAll p.writer.options body)) =
        (Row.ofLines .plain (kind ++ [':']) ++ rowsOfAll p.writer.options body).map Row.text ++
          [[]] := by
      have := Text.lines_append_newline (kind ++ [':'])
        (Row.textOf (rowsOfAll p.writer.options body))
      rw [Row.lines_textOf, List.append_assoc] at this
      simpa [Row.map_text_ofLines] using this
    exact congrArg Except.ok
      ((Page.literalBlock_eq_extend hr (Or.inr ht)).trans (p.resume_extend _ _))
  | fencedCode _ text, p, h | indentedCode text, p, h | html text, p, h => by
    rw [write, Page.literalBlock_eq_extend h (Or.inl (Row.map_text_ofLines .plain text).symm)]; rfl
  | thematicBreak, p, h => by rw [write, Page.thematicBreak_eq_extend h]; rfl
  | blankLine, p, h | linkDefinition, p, h => by
    rw [write]
    exact congrArg Except.ok (Page.extend_empty h).symm
  | table, p, h => by rw [write, Page.notify_eq_extend h]; rfl
  | footnoteDefinition, p, h => by rw [write, Page.notify_eq_extend h]; rfl
  | inline content, p, h => by rw [write, Page.notify_eq_extend h]; rfl
  | group body, p, h => by rw [write, writeAll_eq body h]; rfl

theorem writeAll_eq : (blocks : List Block) → {p : Page} → p.out.AtEnd →
    writeAll p blocks = .ok (p.extend (stretchOfAll p.writer.options blocks))
  | [], p, h => by
    rw [writeAll]
    exact congrArg Except.ok (Page.extend_empty h).symm
  | b :: rest, p, h => by
    rw [writeAll, write_eq b h, stretchOfAll_cons, ← Page.extend_extend h]
    exact writeAll_eq rest (p.atEnd_extend _)

theorem writeItems_eq : (children : List ListChild) → {p : Page} → p.out.AtEnd →
    {before after : List ListContext} → {c : ListContext} → {outer : List Nat} →
    p.writer.lists = ⟨before ++ c :: after, before.length :: outer⟩ →
    writeItems p children = .ok
      ((p.setLists ⟨before ++ c.past children :: after, before.length :: outer⟩).extend
        (stretchOfItems p.writer.options c children))
  | [], p, h, before, after, c, outer, hl => by
    rw [writeItems, ListContext.past, ← hl]
    exact congrArg Except.ok (Page.extend_empty h).symm
  | .item body :: rest, p, h, before, after, c, outer, hl => by
    let s := stretchOfAll p.writer.options body
    let item := s.enclose (itemRows p.writer.options c s.rows rest)
    let r := (p.setLists ⟨before ++ c.advance :: after, before.length :: outer⟩).extend item
    have hr : r.out.AtEnd := Page.atEnd_extend _ _
    -- The lists that the body opened come behind this one.
    have hlists : r.writer.lists =
        ⟨before ++ c.advance :: (after ++ s.opened), before.length :: outer⟩ := by
      simp [r, item, Page.extend, Page.setLists, Stretch.enclose]
    have hitem := Page.listItem_resume h hl s rest
    have hpast : r.setLists
        ⟨before ++ c.advance.past rest :: (after ++ s.opened), before.length :: outer⟩ =
        (p.setLists
          ⟨before ++ c.advance.past rest :: after, before.length :: outer⟩).extend item := by
      simp [r, item, Page.setLists, Page.extend, Stretch.enclose]
    have ho : (p.setLists
        ⟨before ++ c.advance.past rest :: after, before.length :: outer⟩).out.AtEnd := h
    rw [writeItems, writeAll_eq body p.atEnd_inner]
    change ((p.resume (p.inner.extend s)).listItem (Row.textOf s.rows) _ >>=
      fun written => writeItems written rest) = _
    rw [hitem]
    change writeItems r rest = _
    rw [writeItems_eq rest hr hlists, hpast, stretchOfItems_item]
    exact congrArg Except.ok (Page.extend_extend ho _ _)
  | .other _ :: rest, p, h, before, after, c, outer, hl => by
    rw [writeItems, ListContext.past, writeItems_eq rest h hl]
    rfl

end

end Block
end HelpFile
