import HelpFile.Proofs.Document

/-!
# What is lost

A walk through a document meets its elements in the order in which they end. What a help file cannot
show is reported at the element and nowhere else. A heading that is shown is reported if it does not
fit the headings met before. Containers and options have no part in this.
-/
namespace HelpFile

inductive Element where
  | inline (inline : Inline)
  | heading (level : Int) (text : Text)
  | table
  | footnoteDefinition

namespace Inline

mutual

def walk : Inline → List Inline
  | emphasis content => walkAll content ++ [emphasis content]
  | strong content => walkAll content ++ [strong content]
  | strikethrough content => walkAll content ++ [strikethrough content]
  | link target content => walkAll content ++ [link target content]
  | image target content => walkAll content ++ [image target content]
  | autoLink content => walkAll content ++ [autoLink content]
  | url content => walkAll content ++ [url content]
  | group content => walkAll content ++ [group content]
  | text t => [text t]
  | code t => [code t]
  | html tag => [html tag]
  | lineBreak => [lineBreak]
  | footnoteReference label => [footnoteReference label]

def walkAll : List Inline → List Inline
  | [] => []
  | i :: rest => i.walk ++ walkAll rest

end

def loss : Inline → List Notice
  | html tag => [.rawHtml tag]
  | footnoteReference label => [.footnoteReference label]
  | image target _ => [.image target]
  | _ => []

mutual

theorem notices_eq_walk : (i : Inline) → i.notices = i.walk.flatMap loss
  | emphasis content | strong content | strikethrough content | link _ content | autoLink content
  | url content | group content | image _ content => by
    simp [notices, walk, loss, noticesOfAll_eq_walk content]
  | text _ | code _ | html _ | lineBreak | footnoteReference _ => by simp [notices, walk, loss]

theorem noticesOfAll_eq_walk : (content : List Inline) →
    noticesOfAll content = (walkAll content).flatMap loss
  | [] => rfl
  | i :: rest => by
    rw [noticesOfAll, notices_eq_walk i, noticesOfAll_eq_walk rest, walkAll, List.flatMap_append]

end

end Inline

namespace Block

mutual

/-- The elements of a block, each behind its contents. A table, a footnote definition and a list's
children that are not items are not looked into. -/
def walk : Block → List Element
  | heading level content =>
    (Inline.walkAll content).map .inline ++ [.heading level (Inline.renderAll content)]
  | paragraph _ _ content => (Inline.walkAll content).map .inline
  | list _ children => walkItems children
  | quote body | alert _ body | group body => walkAll body
  | table => [.table]
  | footnoteDefinition => [.footnoteDefinition]
  | inline content => content.walk.map .inline
  | fencedCode .. | indentedCode _ | html _ | thematicBreak | blankLine | linkDefinition => []

def walkAll : List Block → List Element
  | [] => []
  | b :: rest => b.walk ++ walkAll rest

def walkItems : List ListChild → List Element
  | [] => []
  | .item body :: rest => walkAll body ++ walkItems rest
  | .other _ :: rest => walkItems rest

end

end Block

namespace Element

def place (outline : Outline) : Element → Outline
  | heading level text => if Text.isVoid text then outline else (outline.add text level).1
  | _ => outline

/-- What is lost at an element that comes behind the headings of an outline. -/
def loss (outline : Outline) : Element → List Notice
  | inline i => i.loss
  | heading level text =>
    if Text.isVoid text then [] else ((outline.add text level).2.map Notice.heading).toList
  | table => [.table]
  | footnoteDefinition => [.footnoteDefinition]

def losses (outline : Outline) : List Element → List Notice
  | [] => []
  | e :: rest => e.loss outline ++ losses (e.place outline) rest

theorem losses_append (outline : Outline) (elements more : List Element) :
    losses outline (elements ++ more) =
      losses outline elements ++ losses (elements.foldl place outline) more := by
  induction elements generalizing outline with
  | nil => rfl
  | cons e rest ih => rw [List.cons_append, losses, ih, losses, List.foldl_cons, List.append_assoc]

theorem foldl_place_inlines (outline : Outline) (inlines : List Inline) :
    (inlines.map Element.inline).foldl place outline = outline := by
  induction inlines with
  | nil => rfl
  | cons i rest ih => exact ih

theorem losses_inlines (outline : Outline) (inlines : List Inline) :
    losses outline (inlines.map Element.inline) = inlines.flatMap Inline.loss := by
  induction inlines with
  | nil => rfl
  | cons i rest ih =>
    rw [List.flatMap_cons, ← ih]
    rfl

end Element

namespace Block
open Element

theorem foldl_place_heading (outline : Outline) (level : Int) (content : List Inline) :
    (heading level content).walk.foldl place outline =
      outline.placeAll (heading level content).headings := by
  rw [walk, List.foldl_append, foldl_place_inlines, List.foldl_cons, List.foldl_nil, place,
    headings, Fragment.headings]
  by_cases hv : Text.isVoid (Inline.renderAll content)
  · simp [hv, fragment, Fragment.ofText, Outline.placeAll]
  · simp [hv, fragment, Fragment.ofText, Outline.placeAll, Outline.add]

theorem losses_heading (outline : Outline) (level : Int) (content : List Inline) :
    losses outline (heading level content).walk = (heading level content).notices outline := by
  rw [walk, losses_append, losses_inlines, foldl_place_inlines, ← Inline.noticesOfAll_eq_walk,
    notices, Fragment.headingNotices]
  by_cases hv : Text.isVoid (Inline.renderAll content)
  · simp [hv, fragment, Fragment.ofText, losses, loss]
  · simp [hv, fragment, Fragment.ofText, losses, loss, Outline.add]

mutual

theorem foldl_place_walk (outline : Outline) : (b : Block) →
    b.walk.foldl place outline = outline.placeAll b.headings
  | heading level content => foldl_place_heading outline level content
  | paragraph _ _ content => foldl_place_inlines outline (Inline.walkAll content)
  | list _ children => foldl_place_walkItems outline children
  | quote body | alert _ body | group body => foldl_place_walkAll outline body
  | inline content => foldl_place_inlines outline content.walk
  | table | footnoteDefinition | fencedCode .. | indentedCode _ | html _ | thematicBreak
  | blankLine | linkDefinition => rfl

theorem foldl_place_walkAll (outline : Outline) : (blocks : List Block) →
    (walkAll blocks).foldl place outline = outline.placeAll (headingsOfAll blocks)
  | [] => rfl
  | b :: rest => by
    rw [walkAll, List.foldl_append, foldl_place_walk outline b, foldl_place_walkAll _ rest,
      headingsOfAll, Outline.placeAll, Outline.placeAll, Outline.placeAll, List.foldl_append]

theorem foldl_place_walkItems (outline : Outline) : (children : List ListChild) →
    (walkItems children).foldl place outline = outline.placeAll (headingsOfItems children)
  | [] => rfl
  | .item body :: rest => by
    rw [walkItems, List.foldl_append, foldl_place_walkAll outline body,
      foldl_place_walkItems _ rest, headingsOfItems, Outline.placeAll, Outline.placeAll,
      Outline.placeAll, List.foldl_append]
  | .other _ :: rest => foldl_place_walkItems outline rest

end

mutual

theorem losses_walk (outline : Outline) : (b : Block) → losses outline b.walk = b.notices outline
  | heading level content => losses_heading outline level content
  | paragraph _ _ content => by
    rw [walk, losses_inlines, ← Inline.noticesOfAll_eq_walk]
    rfl
  | list _ children => losses_walkItems outline children
  | quote body | alert _ body | group body => losses_walkAll outline body
  | inline content => by
    rw [walk, losses_inlines, ← Inline.notices_eq_walk]
    rfl
  | table | footnoteDefinition | fencedCode .. | indentedCode _ | html _ | thematicBreak
  | blankLine | linkDefinition => rfl

theorem losses_walkAll (outline : Outline) : (blocks : List Block) →
    losses outline (walkAll blocks) = noticesOfAll outline blocks
  | [] => rfl
  | b :: rest => by
    rw [walkAll, losses_append, losses_walk outline b, foldl_place_walk outline b,
      losses_walkAll _ rest, noticesOfAll]

theorem losses_walkItems (outline : Outline) : (children : List ListChild) →
    losses outline (walkItems children) = noticesOfItems outline children
  | [] => rfl
  | .item body :: rest => by
    rw [walkItems, losses_append, losses_walkAll outline body, foldl_place_walkAll outline body,
      losses_walkItems _ rest, noticesOfItems]
  | .other _ :: rest => losses_walkItems outline rest

end

end Block

namespace Writer
open Block

/-- Whatever the options, a document is reported on by the losses of its elements, once each and in
order, and a listener is told the same. -/
theorem losses_reported (w : Writer) (blocks : List Block) : ∃ text left,
    w.document blocks = .ok (text, left) ∧
    left.notices = Element.losses .empty (walkAll blocks) ∧
    left.reported = w.reported ++ Element.losses .empty (walkAll blocks) := by
  refine ⟨_, _, w.document_eq blocks, ?_, ?_⟩
  · exact (losses_walkAll .empty blocks).symm
  · rw [losses_walkAll]
    rfl

/-- A heading without text has no place in the outline, but the image in it is reported. -/
example :
    let blocks := [quote [heading 1 [.image ['p'] [.html ['b']]]], table, heading 2 [.text ['T']]]
    Element.losses .empty (walkAll blocks) =
      [.rawHtml ['b'], .image ['p'], .table, .heading (.topLevel ['T'] 2)] := rfl

end Writer
end HelpFile
