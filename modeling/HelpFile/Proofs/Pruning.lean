import HelpFile.Proofs.Document

/-!
# Elements without a rendering

Pruning takes out of a document whatever a help file does not show, and unwraps what it shows without
a form of its own. The pruned document renders alike, and its notices are the rest of the notices:
those of its headings. All others were raised by what was taken out.
-/
namespace HelpFile

namespace Inline

mutual

def prune : Inline → List Inline
  | text t => [text t]
  | code t => if t.any Text.isBlank then [] else [code t]
  | html _ | image _ _ | footnoteReference _ => []
  | lineBreak => [lineBreak]
  | emphasis content | strong content | strikethrough content | autoLink content | url content =>
    pruneAll content
  | link target content => [link target (pruneAll content)]
  | group content => [group (pruneAll content)]

def pruneAll : List Inline → List Inline
  | [] => []
  | i :: rest => i.prune ++ pruneAll rest

end

theorem renderAll_append (content more : List Inline) :
    renderAll (content ++ more) = renderAll content ++ renderAll more := by
  induction content with
  | nil => rfl
  | cons i content ih => rw [List.cons_append, renderAll, ih, renderAll, List.append_assoc]

theorem noticesOfAll_append (content more : List Inline) :
    noticesOfAll (content ++ more) = noticesOfAll content ++ noticesOfAll more := by
  induction content with
  | nil => rfl
  | cons i content ih => rw [List.cons_append, noticesOfAll, ih, noticesOfAll, List.append_assoc]

theorem renderAll_singleton (i : Inline) : renderAll [i] = i.render := by simp [renderAll]

theorem noticesOfAll_singleton (i : Inline) : noticesOfAll [i] = i.notices := by
  simp [noticesOfAll]

mutual

theorem render_prune : (i : Inline) → renderAll i.prune = i.render
  | text t => renderAll_singleton _
  | code t => by
    rw [prune, render, Span.code]
    split
    · rfl
    · next hb => simp [renderAll, render, Span.code, hb]
  | html _ | image _ _ | footnoteReference _ => rfl
  | lineBreak => renderAll_singleton _
  | emphasis content | strong content | strikethrough content | autoLink content | url content =>
    renderAll_pruneAll content
  | link target content => by
    rw [prune, renderAll_singleton, render, renderAll_pruneAll content, render]
  | group content => by
    rw [prune, renderAll_singleton, render, renderAll_pruneAll content, render]

theorem renderAll_pruneAll : (content : List Inline) →
    renderAll (pruneAll content) = renderAll content
  | [] => rfl
  | i :: rest => by
    rw [pruneAll, renderAll_append, render_prune i, renderAll_pruneAll rest, renderAll]

end

mutual

theorem notices_prune : (i : Inline) → noticesOfAll i.prune = []
  | text t => rfl
  | code t => by
    rw [prune]
    split <;> rfl
  | html _ | image _ _ | footnoteReference _ | lineBreak => rfl
  | emphasis content | strong content | strikethrough content | autoLink content | url content =>
    noticesOfAll_pruneAll content
  | link target content => by
    rw [prune, noticesOfAll_singleton, notices, noticesOfAll_pruneAll content]
  | group content => by
    rw [prune, noticesOfAll_singleton, notices, noticesOfAll_pruneAll content]

theorem noticesOfAll_pruneAll : (content : List Inline) → noticesOfAll (pruneAll content) = []
  | [] => rfl
  | i :: rest => by
    rw [pruneAll, noticesOfAll_append, notices_prune i, noticesOfAll_pruneAll rest]
    rfl

end

mutual

theorem kind_of_mem_notices : (i : Inline) → {n : Notice} → n ∈ i.notices → n.kind = .unsupported
  | text _, n, h | code _, n, h | lineBreak, n, h => by simp [notices] at h
  | html tag, n, h => by rw [List.mem_singleton.mp h]; rfl
  | footnoteReference label, n, h => by rw [List.mem_singleton.mp h]; rfl
  | image target content, n, h => by
    rcases List.mem_append.mp h with h | h
    · exact kind_of_mem_noticesOfAll content h
    · rw [List.mem_singleton.mp h]; rfl
  | emphasis content, n, h | strong content, n, h | strikethrough content, n, h
  | autoLink content, n, h | url content, n, h | group content, n, h | link _ content, n, h =>
    kind_of_mem_noticesOfAll content h

theorem kind_of_mem_noticesOfAll : (content : List Inline) → {n : Notice} →
    n ∈ noticesOfAll content → n.kind = .unsupported
  | [], n, h => by simp [noticesOfAll] at h
  | i :: rest, n, h => by
    rcases List.mem_append.mp h with h | h
    · exact kind_of_mem_notices i h
    · exact kind_of_mem_noticesOfAll rest h

end

end Inline

namespace Block

mutual

/-- A heading that shows nothing is taken out, and so is a paragraph without a box. -/
def prune : Block → List Block
  | heading level content =>
    if Text.isVoid (Inline.renderAll content) then []
    else [heading level (Inline.pruneAll content)]
  | paragraph none tight content =>
    if Text.isVoid (Inline.renderAll content) then []
    else [paragraph none tight (Inline.pruneAll content)]
  | paragraph (some checked) tight content =>
    [paragraph (some checked) tight (Inline.pruneAll content)]
  | list ordered children => [list ordered (pruneItems children)]
  | quote body => [quote (pruneAll body)]
  | alert kind body => [alert kind (pruneAll body)]
  | group body => [group (pruneAll body)]
  | blankLine | linkDefinition | table | footnoteDefinition => []
  | inline content => [inline (.group content.prune)]
  | b => [b]

def pruneAll : List Block → List Block
  | [] => []
  | b :: rest => b.prune ++ pruneAll rest

def pruneItems : List ListChild → List ListChild
  | [] => []
  | .item body :: rest => .item (pruneAll body) :: pruneItems rest
  | .other b :: rest => b.prune.map .other ++ pruneItems rest

end

mutual

/-- What the elements that pruning takes out raise, in document order. Of inline content no other
element raises anything. -/
def omitted : Block → List Notice
  | heading _ content | paragraph _ _ content => Inline.noticesOfAll content
  | list _ children => omittedOfItems children
  | quote body | alert _ body | group body => omittedOfAll body
  | table => [.table]
  | footnoteDefinition => [.footnoteDefinition]
  | inline content => content.notices
  | fencedCode .. | indentedCode _ | html _ | thematicBreak | blankLine | linkDefinition => []

def omittedOfAll : List Block → List Notice
  | [] => []
  | b :: rest => b.omitted ++ omittedOfAll rest

def omittedOfItems : List ListChild → List Notice
  | [] => []
  | .item body :: rest => omittedOfAll body ++ omittedOfItems rest
  | .other _ :: rest => omittedOfItems rest

end

end Block

def Notice.only (kind : NoticeKind) (notices : List Notice) : List Notice :=
  notices.filter (·.kind = kind)

namespace Notice

theorem only_append (kind : NoticeKind) (notices more : List Notice) :
    only kind (notices ++ more) = only kind notices ++ only kind more := List.filter_append ..

theorem only_self {kind : NoticeKind} {notices : List Notice} (h : ∀ n ∈ notices, n.kind = kind) :
    only kind notices = notices := by
  apply List.filter_eq_self.mpr
  intro n hn
  simpa using h n hn

theorem only_other {kind other : NoticeKind} {notices : List Notice}
    (h : ∀ n ∈ notices, n.kind = other) (hk : other ≠ kind) : only kind notices = [] := by
  apply List.filter_eq_nil_iff.mpr
  intro n hn
  simpa [h n hn] using hk

end Notice

namespace Stretch

def hush (s : Stretch) : Stretch :=
  { s with notices := fun outline => Notice.only .hierarchy (s.notices outline) }

theorem hush_append (s t : Stretch) : (s.append t).hush = s.hush.append t.hush := by
  simp [hush, append, Notice.only_append]

theorem empty_append (s : Stretch) : append {} s = s := by
  simp [append, Outline.placeAll]

end Stretch

namespace Fragment

def Unsupported (content : Fragment) : Prop := ∀ n ∈ content.notices, n.kind = .unsupported

theorem Unsupported.only_hierarchy {content : Fragment} (h : content.Unsupported) :
    Notice.only .hierarchy content.notices = [] := Notice.only_other h (by decide)

theorem Unsupported.only_unsupported {content : Fragment} (h : content.Unsupported) :
    Notice.only .unsupported content.notices = content.notices := Notice.only_self h

def problems (content : Fragment) (level : Int) (outline : Outline) : List Notice :=
  if content.shown then ((outline.problem? content.text level).map Notice.heading).toList else []

theorem headingNotices_eq (content : Fragment) (level : Int) (outline : Outline) :
    content.headingNotices level outline = content.notices ++ content.problems level outline := rfl

theorem kind_of_mem_problems {content : Fragment} {level : Int} {outline : Outline} {n : Notice}
    (h : n ∈ content.problems level outline) : n.kind = .hierarchy := by
  unfold problems at h
  split at h
  · simp only [Option.mem_toList, Option.map_eq_some_iff] at h
    obtain ⟨problem, -, rfl⟩ := h
    rfl
  · simp at h

theorem Unsupported.only_headingNotices {content : Fragment} (h : content.Unsupported)
    (level : Int) (outline : Outline) :
    Notice.only .hierarchy (content.headingNotices level outline) =
      content.problems level outline := by
  rw [headingNotices_eq, Notice.only_append, h.only_hierarchy,
    Notice.only_self fun n => kind_of_mem_problems]
  rfl

theorem Unsupported.only_unsupported_headingNotices {content : Fragment} (h : content.Unsupported)
    (level : Int) (outline : Outline) :
    Notice.only .unsupported (content.headingNotices level outline) = content.notices := by
  have hp : Notice.only .unsupported (content.problems level outline) = [] :=
    Notice.only_other (fun n => kind_of_mem_problems) (by decide)
  rw [headingNotices_eq, Notice.only_append, h.only_unsupported, hp, List.append_nil]

end Fragment

namespace Block

theorem unsupported_fragment (task : Option Bool) (content : List Inline) :
    (fragment task content).Unsupported := fun _ h => Inline.kind_of_mem_noticesOfAll content h

theorem fragment_pruneAll (task : Option Bool) (content : List Inline) :
    fragment task (Inline.pruneAll content) = { fragment task content with notices := [] } := by
  unfold fragment Fragment.ofText
  rw [Inline.renderAll_pruneAll, Inline.noticesOfAll_pruneAll]

theorem shown_fragment_none (content : List Inline) :
    (fragment none content).shown = !Text.isVoid (Inline.renderAll content) := rfl

theorem stretch_heading (o : Options) (level : Int) (content : List Inline) :
    (heading level content).stretch o =
      { rows := (fragment none content).headingRows o level
        headings := (fragment none content).headings level
        notices := (fragment none content).headingNotices level } := rfl

theorem stretch_paragraph (o : Options) (task : Option Bool) (tight : Bool)
    (content : List Inline) :
    (paragraph task tight content).stretch o =
      { rows := (fragment task content).paragraphRows tight
        notices := fun _ => (fragment task content).notices } := rfl

theorem hush_heading (o : Options) (level : Int) (content : List Inline) :
    ((heading level content).stretch o).hush =
      { rows := (fragment none content).headingRows o level
        headings := (fragment none content).headings level
        notices := (fragment none content).problems level } := by
  rw [stretch_heading, Stretch.hush]
  simp only [(unsupported_fragment none content).only_headingNotices]

theorem hush_paragraph (o : Options) (task : Option Bool) (tight : Bool)
    (content : List Inline) :
    ((paragraph task tight content).stretch o).hush =
      { rows := (fragment task content).paragraphRows tight } := by
  rw [stretch_paragraph, Stretch.hush]
  simp only [(unsupported_fragment task content).only_hierarchy]

theorem stretch_heading_pruneAll (o : Options) (level : Int) (content : List Inline) :
    (heading level (Inline.pruneAll content)).stretch o =
      ((heading level content).stretch o).hush := by
  rw [hush_heading, stretch_heading, fragment_pruneAll]
  rfl

theorem stretch_paragraph_pruneAll (o : Options) (task : Option Bool) (tight : Bool)
    (content : List Inline) :
    (paragraph task tight (Inline.pruneAll content)).stretch o =
      ((paragraph task tight content).stretch o).hush := by
  rw [hush_paragraph, stretch_paragraph, fragment_pruneAll]
  rfl

theorem hush_heading_void (o : Options) (level : Int) {content : List Inline}
    (h : Text.isVoid (Inline.renderAll content)) :
    ((heading level content).stretch o).hush = {} := by
  have hs : (fragment none content).shown = false := by rw [shown_fragment_none, h]; rfl
  have hp : (fragment none content).problems level = fun _ => [] := by
    funext outline
    simp [Fragment.problems, hs]
  rw [hush_heading, hp]
  simp [Fragment.headingRows, Fragment.headings, hs]

theorem hush_paragraph_void (o : Options) (tight : Bool) {content : List Inline}
    (h : Text.isVoid (Inline.renderAll content)) :
    ((paragraph none tight content).stretch o).hush = {} := by
  have hs : (fragment none content).shown = false := by rw [shown_fragment_none, h]; rfl
  rw [hush_paragraph]
  simp [Fragment.paragraphRows, hs]

theorem stretch_inline_prune (o : Options) (content : Inline) :
    (inline (.group content.prune)).stretch o = ((inline content).stretch o).hush := by
  have hnone : Notice.only .hierarchy content.notices = [] :=
    Notice.only_other (fun n => Inline.kind_of_mem_notices content) (by decide)
  have hpruned : (Inline.group content.prune).notices = [] := Inline.notices_prune content
  simp [stretch, rows, ahead, headings, notices, opened, Stretch.hush, hnone, hpruned]

theorem stretchOfItems_others (o : Options) (c : ListContext) (bs : List Block)
    (rest : List ListChild) :
    stretchOfItems o c (bs.map .other ++ rest) = stretchOfItems o c rest := by
  induction bs with
  | nil => rfl
  | cons b bs ih => exact ih

theorem countP_pruneItems (children : List ListChild) :
    (pruneItems children).countP ListChild.isItem = children.countP ListChild.isItem := by
  induction children with
  | nil => rfl
  | cons child rest ih =>
    cases child with
    | item body => rw [pruneItems, List.countP_cons_of_pos rfl, ih, List.countP_cons_of_pos rfl]
    | other b =>
      have hothers : (b.prune.map ListChild.other).countP ListChild.isItem = 0 := by
        simp [List.countP_eq_zero, ListChild.isItem]
      rw [pruneItems, List.countP_append, hothers, ih, List.countP_cons_of_neg Bool.false_ne_true,
        Nat.zero_add]

theorem rowsOfAll_hushed {o : Options} {body other : List Block}
    (h : stretchOfAll o other = (stretchOfAll o body).hush) :
    rowsOfAll o other = rowsOfAll o body := congrArg Stretch.rows h

theorem stretch_quote_hushed {o : Options} {body other : List Block}
    (h : stretchOfAll o other = (stretchOfAll o body).hush) :
    (quote other).stretch o = ((quote body).stretch o).hush := by
  rw [stretch_quote, h, rowsOfAll_hushed h, stretch_quote]
  rfl

theorem stretch_alert_hushed {o : Options} (kind : Text) {body other : List Block}
    (h : stretchOfAll o other = (stretchOfAll o body).hush) :
    (alert kind other).stretch o = ((alert kind body).stretch o).hush := by
  rw [stretch_alert, h, rowsOfAll_hushed h, stretch_alert]
  rfl

/-- A block that pruning keeps in another form, or takes out. -/
theorem prune_kept {o : Options} {b b' : Block} (hp : b.prune = [b'])
    (hs : b'.stretch o = (b.stretch o).hush) (rest : List Block) :
    stretchOfAll o (b.prune ++ rest) = (b.stretch o).hush.append (stretchOfAll o rest) := by
  rw [hp, List.singleton_append, stretchOfAll_cons, hs]

theorem prune_dropped {o : Options} {b : Block} (hp : b.prune = [])
    (hs : (b.stretch o).hush = {}) (rest : List Block) :
    stretchOfAll o (b.prune ++ rest) = (b.stretch o).hush.append (stretchOfAll o rest) := by
  rw [hp, hs, List.nil_append, Stretch.empty_append]

mutual

theorem stretch_prune (o : Options) : (b : Block) → (rest : List Block) →
    stretchOfAll o (b.prune ++ rest) = (b.stretch o).hush.append (stretchOfAll o rest)
  | heading level content, rest => by
    by_cases hv : Text.isVoid (Inline.renderAll content)
    · exact prune_dropped (by rw [prune, if_pos hv]) (hush_heading_void o level hv) rest
    · exact prune_kept (by rw [prune, if_neg hv]) (stretch_heading_pruneAll o level content) rest
  | paragraph none tight content, rest => by
    by_cases hv : Text.isVoid (Inline.renderAll content)
    · exact prune_dropped (by rw [prune, if_pos hv]) (hush_paragraph_void o tight hv) rest
    · exact prune_kept (by rw [prune, if_neg hv])
        (stretch_paragraph_pruneAll o none tight content) rest
  | paragraph (some checked) tight content, rest =>
    prune_kept rfl (stretch_paragraph_pruneAll o (some checked) tight content) rest
  | list ordered children, rest => by
    have hpast := ListContext.past_congr (.start ordered) (countP_pruneItems children)
    apply prune_kept rfl
    rw [stretch_list, stretchOfItems_prune o (.start ordered) children, hpast, stretch_list]
    rfl
  | quote body, rest => prune_kept rfl (stretch_quote_hushed (stretchOfAll_prune o body)) rest
  | alert kind body, rest =>
    prune_kept rfl (stretch_alert_hushed kind (stretchOfAll_prune o body)) rest
  | group body, rest => by
    apply prune_kept rfl
    rw [stretch_group, stretchOfAll_prune o body, stretch_group]
  | inline content, rest => prune_kept rfl (stretch_inline_prune o content) rest
  | blankLine, rest | linkDefinition, rest | table, rest | footnoteDefinition, rest =>
    prune_dropped rfl rfl rest
  | fencedCode .., rest | indentedCode _, rest | html _, rest | thematicBreak, rest =>
    prune_kept rfl rfl rest

theorem stretchOfAll_prune (o : Options) : (blocks : List Block) →
    stretchOfAll o (pruneAll blocks) = (stretchOfAll o blocks).hush
  | [] => rfl
  | b :: rest => by
    rw [pruneAll, stretch_prune o b, stretchOfAll_prune o rest, stretchOfAll_cons,
      Stretch.hush_append]

theorem stretchOfItems_prune (o : Options) : (c : ListContext) → (children : List ListChild) →
    stretchOfItems o c (pruneItems children) = (stretchOfItems o c children).hush
  | _, [] => rfl
  | c, .item body :: rest => by
    have hbody := stretchOfAll_prune o body
    have hitem := itemRows_congr o c (congrArg (Row.item o.tabWidth c) (rowsOfAll_hushed hbody))
      (countP_pruneItems rest)
    rw [pruneItems, stretchOfItems_item, hbody, hitem, stretchOfItems_prune o c.advance rest,
      stretchOfItems_item, Stretch.hush_append]
    rfl
  | c, .other b :: rest => by
    rw [pruneItems, stretchOfItems_others, stretchOfItems_prune o c rest]
    rfl

end

mutual

theorem only_unsupported_notices (outline : Outline) : (b : Block) →
    Notice.only .unsupported (b.notices outline) = b.omitted
  | heading _ content => (unsupported_fragment none content).only_unsupported_headingNotices ..
  | paragraph task _ content => (unsupported_fragment task content).only_unsupported
  | list _ children => only_unsupported_noticesOfItems outline children
  | quote body | alert _ body | group body => only_unsupported_noticesOfAll outline body
  | inline content => Notice.only_self fun _ => Inline.kind_of_mem_notices content
  | fencedCode .. | indentedCode _ | html _ | thematicBreak | blankLine | linkDefinition | table
  | footnoteDefinition => rfl

theorem only_unsupported_noticesOfAll (outline : Outline) : (blocks : List Block) →
    Notice.only .unsupported (noticesOfAll outline blocks) = omittedOfAll blocks
  | [] => rfl
  | b :: rest => by
    rw [noticesOfAll, Notice.only_append, only_unsupported_notices outline b,
      only_unsupported_noticesOfAll _ rest, omittedOfAll]

theorem only_unsupported_noticesOfItems (outline : Outline) : (children : List ListChild) →
    Notice.only .unsupported (noticesOfItems outline children) = omittedOfItems children
  | [] => rfl
  | .item body :: rest => by
    rw [noticesOfItems, Notice.only_append, only_unsupported_noticesOfAll outline body,
      only_unsupported_noticesOfItems _ rest, omittedOfItems]
  | .other _ :: rest => only_unsupported_noticesOfItems outline rest

end

end Block

namespace Writer
open Block

/-- A pruned document renders alike. Its notices are those on headings; all others were raised by
what pruning took out. -/
theorem document_pruned (w : Writer) (blocks : List Block) : ∃ text left,
    w.document blocks = .ok (text, left) ∧
    (let kept := Notice.only .hierarchy left.notices
    w.document (pruneAll blocks) =
      .ok (text, { left with notices := kept, reported := w.reported ++ kept })) ∧
    Notice.only .unsupported left.notices = omittedOfAll blocks := by
  refine ⟨_, _, w.document_eq_stretch blocks, ?_, ?_⟩
  · rw [document_eq_stretch, stretchOfAll_prune]
    rfl
  · exact only_unsupported_noticesOfAll .empty blocks

end Writer
end HelpFile
