import HelpFile.Proofs.Document

/-!
# Tight paragraphs in containers

A loose paragraph writes one empty row more than a tight one. A container drops empty rows, so the
difference is lost at the first item, quote or alert around the paragraph, at any depth.
-/
namespace HelpFile

namespace Row

/-- All that a container sees of its rows: an empty one counts only in front. -/
def squeeze : List Row → List Row
  | [] => []
  | first :: rest => first :: rest.filter shows

theorem filter_squeeze (rows : List Row) : (squeeze rows).filter shows = rows.filter shows := by
  cases rows with
  | nil => rfl
  | cons first rest => simp [squeeze, List.filter_cons]

theorem indented_squeeze (width : Int) (rows : List Row) :
    indented width (squeeze rows) = indented width rows := by
  rw [indented, filter_squeeze, indented]

theorem hung_squeeze (width trim : Int) (rows : List Row) :
    hung width trim (squeeze rows) = hung width trim rows := by
  cases rows with
  | nil => rfl
  | cons first rest => simp [squeeze, hung, indented]

theorem squeeze_append {rows others rows' others' : List Row} (h : squeeze rows = squeeze rows')
    (k : squeeze others = squeeze others') : squeeze (rows ++ others) = squeeze (rows' ++ others') := by
  have hk : others.filter shows = others'.filter shows := by
    rw [← filter_squeeze others, k, filter_squeeze]
  cases rows with
  | nil =>
    cases rows' with
    | nil => exact k
    | cons => simp [squeeze] at h
  | cons first rest =>
    cases rows' with
    | nil => simp [squeeze] at h
    | cons first' rest' =>
      simp only [squeeze, List.cons.injEq] at h
      simp [squeeze, h, hk]

theorem squeeze_append_blank {rows : List Row} (h : rows ≠ []) :
    squeeze (rows ++ [blank]) = squeeze rows := by
  cases rows with
  | nil => exact absurd rfl h
  | cons first rest => simp [squeeze, blank, shows]

theorem literal_squeeze {rows others : List Row} (h : squeeze rows = squeeze others) (width : Int) :
    literal width rows = literal width others := by
  rw [literal, ← indented_squeeze width rows, h, indented_squeeze, literal]

theorem item_squeeze {rows others : List Row} (h : squeeze rows = squeeze others) (width : Int)
    (c : ListContext) : item width c rows = item width c others := by
  unfold item
  rw [← hung_squeeze width _ rows, h, hung_squeeze]

end Row

namespace Fragment

theorem paragraphRows_true (content : Fragment) :
    content.paragraphRows true = if content.shown then Row.ofLines .plain content.text else [] := by
  rw [paragraphRows, if_pos rfl, Row.ofEnded_append_newline]

theorem paragraphRows_false (content : Fragment) :
    content.paragraphRows false =
      if content.shown then Row.ofLines .plain content.text ++ [Row.blank] else [] := by
  have hsplit : content.text ++ ['\n', '\n'] = (content.text ++ ['\n']) ++ ['\n'] := by simp
  rw [paragraphRows, if_neg Bool.false_ne_true, hsplit, Row.ofEnded_append_newline,
    Row.ofLines_append_newline]
  rfl

theorem squeeze_paragraphRows (content : Fragment) (tight : Bool) :
    Row.squeeze (content.paragraphRows true) = Row.squeeze (content.paragraphRows tight) := by
  cases tight with
  | true => rfl
  | false =>
    rw [paragraphRows_true, paragraphRows_false]
    cases content.shown with
    | false => rfl
    | true => exact (Row.squeeze_append_blank (Row.ofLines_ne_nil _ _)).symm

end Fragment

namespace Stretch

/-- Stretches that a container around them makes equal. -/
def Inseparable (s t : Stretch) : Prop :=
  Row.squeeze s.rows = Row.squeeze t.rows ∧ s.enclose [] = t.enclose []

theorem Inseparable.refl (s : Stretch) : s.Inseparable s := ⟨rfl, rfl⟩

theorem Inseparable.enclose {s t : Stretch} (h : s.Inseparable t) (rows : List Row) :
    s.enclose rows = t.enclose rows := by
  change (s.enclose []).enclose rows = (t.enclose []).enclose rows
  rw [h.2]

theorem Inseparable.append {s t s' t' : Stretch} (h : s.Inseparable s') (k : t.Inseparable t') :
    (s.append t).Inseparable (s'.append t') := by
  constructor
  · exact Row.squeeze_append h.1 k.1
  · change ((s.enclose []).append (t.enclose [])).enclose [] =
      ((s'.enclose []).append (t'.enclose [])).enclose []
    rw [h.2, k.2]

end Stretch

namespace Block

mutual

/-- The block with all paragraphs in containers made tight; `inside` tells whether the block itself
stands in one. -/
def tighten (inside : Bool) : Block → Block
  | paragraph task tight content => paragraph task (inside || tight) content
  | list ordered children => list ordered (tightenItems inside children)
  | quote body => quote (tightenAll true body)
  | alert kind body => alert kind (tightenAll true body)
  | group body => group (tightenAll inside body)
  | b => b

def tightenAll (inside : Bool) : List Block → List Block
  | [] => []
  | b :: rest => b.tighten inside :: tightenAll inside rest

def tightenItems (inside : Bool) : List ListChild → List ListChild
  | [] => []
  | .item body :: rest => .item (tightenAll true body) :: tightenItems inside rest
  | .other b :: rest => .other (b.tighten inside) :: tightenItems inside rest

end

theorem countP_tightenItems (inside : Bool) (children : List ListChild) :
    (tightenItems inside children).countP ListChild.isItem =
      children.countP ListChild.isItem := by
  induction children with
  | nil => rfl
  | cons child rest ih =>
    cases child with
    | item body =>
      rw [tightenItems, List.countP_cons_of_pos rfl, ih, List.countP_cons_of_pos rfl]
    | other b =>
      rw [tightenItems, List.countP_cons_of_neg Bool.false_ne_true, ih,
        List.countP_cons_of_neg Bool.false_ne_true]

theorem stretch_list_tighten {o : Options} {inside ordered : Bool} {children : List ListChild}
    (h : stretchOfItems o (.start ordered) (tightenItems inside children) =
      stretchOfItems o (.start ordered) children) :
    (list ordered (tightenItems inside children)).stretch o = (list ordered children).stretch o := by
  have hpast := ListContext.past_congr (.start ordered) (countP_tightenItems inside children)
  rw [stretch_list, h, hpast, stretch_list]

/-- A quote or an alert hides what its body is inseparable in. -/
theorem stretch_quote_congr {o : Options} {body other : List Block}
    (h : (stretchOfAll o body).Inseparable (stretchOfAll o other)) :
    (quote body).stretch o = (quote other).stretch o := by
  have hrows : Row.literal o.tabWidth (rowsOfAll o body) =
      Row.literal o.tabWidth (rowsOfAll o other) := Row.literal_squeeze h.1 _
  rw [stretch_quote, h.enclose, hrows, stretch_quote]

theorem stretch_alert_congr {o : Options} (kind : Text) {body other : List Block}
    (h : (stretchOfAll o body).Inseparable (stretchOfAll o other)) :
    (alert kind body).stretch o = (alert kind other).stretch o := by
  have hrows : Row.literal o.tabWidth (Row.ofLines .plain (kind ++ [':']) ++ rowsOfAll o body) =
      Row.literal o.tabWidth (Row.ofLines .plain (kind ++ [':']) ++ rowsOfAll o other) :=
    Row.literal_squeeze (Row.squeeze_append rfl h.1) _
  rw [stretch_alert, h.enclose, hrows, stretch_alert]

mutual

theorem stretch_tighten_inside (o : Options) : (b : Block) →
    ((b.tighten true).stretch o).Inseparable (b.stretch o)
  | paragraph task tight content => by
    constructor
    · exact (fragment task content).squeeze_paragraphRows tight
    · rfl
  | list ordered children => by
    rw [tighten, stretch_list_tighten (stretchOfItems_tighten o true (.start ordered) children)]
    exact .refl _
  | quote body => by
    rw [tighten, stretch_quote_congr (stretchOfAll_tighten_inside o body)]
    exact .refl _
  | alert kind body => by
    rw [tighten, stretch_alert_congr kind (stretchOfAll_tighten_inside o body)]
    exact .refl _
  | group body => stretchOfAll_tighten_inside o body
  | heading .. | fencedCode .. | indentedCode _ | html _ | thematicBreak | blankLine
  | linkDefinition | table | footnoteDefinition | inline _ => .refl _

theorem stretchOfAll_tighten_inside (o : Options) : (blocks : List Block) →
    (stretchOfAll o (tightenAll true blocks)).Inseparable (stretchOfAll o blocks)
  | [] => .refl _
  | b :: rest => by
    rw [tightenAll, stretchOfAll_cons, stretchOfAll_cons]
    exact (stretch_tighten_inside o b).append (stretchOfAll_tighten_inside o rest)

/-- An item is a container itself, so nothing shows outside of it. -/
theorem stretchOfItems_tighten (o : Options) (inside : Bool) : (c : ListContext) →
    (children : List ListChild) →
    stretchOfItems o c (tightenItems inside children) = stretchOfItems o c children
  | _, [] => rfl
  | c, .item body :: rest => by
    have hbody := stretchOfAll_tighten_inside o body
    have hitem := itemRows_congr o c (Row.item_squeeze hbody.1 o.tabWidth c)
      (countP_tightenItems inside rest)
    rw [tightenItems, stretchOfItems_item, stretchOfItems_tighten o inside c.advance rest,
      hbody.enclose, stretchOfItems_item]
    exact congrArg (fun rows => ((stretchOfAll o body).enclose rows).append _) hitem
  | c, .other b :: rest => stretchOfItems_tighten o inside c rest

end

mutual

theorem stretch_tighten (o : Options) : (b : Block) → (b.tighten false).stretch o = b.stretch o
  | list ordered children =>
    stretch_list_tighten (stretchOfItems_tighten o false (.start ordered) children)
  | quote body => stretch_quote_congr (stretchOfAll_tighten_inside o body)
  | alert kind body => stretch_alert_congr kind (stretchOfAll_tighten_inside o body)
  | group body => stretchOfAll_tighten o body
  | heading .. | paragraph .. | fencedCode .. | indentedCode _ | html _ | thematicBreak | blankLine
  | linkDefinition | table | footnoteDefinition | inline _ => rfl

theorem stretchOfAll_tighten (o : Options) : (blocks : List Block) →
    stretchOfAll o (tightenAll false blocks) = stretchOfAll o blocks
  | [] => rfl
  | b :: rest => by
    rw [tightenAll, stretchOfAll_cons, stretch_tighten o b, stretchOfAll_tighten o rest,
      stretchOfAll_cons]

end

def SameUpToTightness (blocks others : List Block) : Prop :=
  tightenAll false blocks = tightenAll false others

end Block

namespace Writer
open Block

/-- Inside containers it makes no difference whether a paragraph is loose or tight. -/
theorem tightness_hidden (w : Writer) {blocks others : List Block}
    (h : SameUpToTightness blocks others) : ∃ text left,
    w.document blocks = .ok (text, left) ∧ w.document others = .ok (text, left) := by
  have hstretch : stretchOfAll w.options others = stretchOfAll w.options blocks := by
    rw [← stretchOfAll_tighten, ← h, stretchOfAll_tighten]
  refine ⟨_, _, w.document_eq_stretch blocks, ?_⟩
  rw [document_eq_stretch, hstretch]

theorem tightness_hidden_in_item :
    let w := Writer.fresh .standard
    let blocks (tight : Bool) := [paragraph none true [.text ['a']],
      list true [.item [paragraph none tight [.text ['b']], quote [paragraph none tight []],
        heading 1 [.text ['c']]]]]
    SameUpToTightness (blocks true) (blocks false) ∧ ∃ text left,
      w.document (blocks true) = .ok (text, left) ∧
      w.document (blocks false) = .ok (text, left) := by
  intro w blocks
  have h : SameUpToTightness (blocks true) (blocks false) := rfl
  exact ⟨h, w.tightness_hidden h⟩

end Writer
end HelpFile
