import HelpFile.Proofs.Document
import HelpFile.Proofs.ItemLines
import Mathlib.Logic.Relation

/-!
# Numbering of list items

Writing a document is followed step by step, into every container and past every block. Whatever
was written before, the open lists of a page are as they were once a block is on it, and a list
numbers its items from one.
-/
namespace HelpFile

/-- What is left to write on a page: blocks, or children of the innermost open list. -/
inductive Work where
  | blocks (page : Page) (rest : List Block)
  | items (page : Page) (rest : List ListChild)

namespace Work

inductive Step : Work → Work → Prop where
  | past {p q b rest} : b.write p = .ok q → Step (blocks p (b :: rest)) (blocks q rest)
  | list {p ordered children rest} :
      Step (blocks p (.list ordered children :: rest)) (items (p.openList ordered) children)
  | quote {p body rest} : Step (blocks p (.quote body :: rest)) (blocks p.inner body)
  | alert {p kind body rest} : Step (blocks p (.alert kind body :: rest)) (blocks p.inner body)
  | group {p body rest} : Step (blocks p (.group body :: rest)) (blocks p body)
  | item {p body rest} : Step (items p (.item body :: rest)) (blocks p.inner body)
  | pastItem {p q r body rest} : Block.writeAll p.inner body = .ok q →
      (p.resume q).listItem q.out.contents (!rest.any ListChild.isItem) = .ok r →
      Step (items p (.item body :: rest)) (items r rest)
  | pastOther {p b rest} : Step (items p (.other b :: rest)) (items p rest)

def Reaches : Work → Work → Prop := Relation.ReflTransGen Step

end Work

def Writer.start (w : Writer) (blocks : List Block) : Work :=
  .blocks (Page.header { writer := w }) blocks

structure Page.Sound (p : Page) : Prop where
  atEnd : p.out.AtEnd
  opened : ∀ i ∈ p.writer.lists.openLists, i < p.writer.lists.contexts.length

namespace Page

theorem sound_header (w : Writer) : (header { writer := w }).Sound := by
  constructor
  · rw [Writer.header_out]
    exact Buffer.atEnd_append _ _
  · intro i hi
    simp [header, Writer.restart] at hi

theorem Sound.extend {p : Page} (h : p.Sound) (s : Stretch) : (p.extend s).Sound := by
  constructor
  · exact p.atEnd_extend s
  · intro i hi
    have := h.opened i hi
    simp only [Page.extend, List.length_append]
    omega

theorem Sound.inner {p : Page} (h : p.Sound) : p.inner.Sound := ⟨p.atEnd_inner, h.opened⟩

theorem Sound.openList {p : Page} (h : p.Sound) (ordered : Bool) : (p.openList ordered).Sound := by
  constructor
  · exact h.atEnd
  · intro i hi
    simp only [Page.openList, ListStack.push, List.mem_cons, List.length_append,
      List.length_singleton] at hi ⊢
    rcases hi with rfl | hi
    · omega
    · have := h.opened i hi
      omega

/-- The innermost open list with the lists that were opened before and after it. -/
theorem Sound.innermost {p : Page} (h : p.Sound) (hne : p.writer.lists.openLists ≠ []) :
    ∃ before c after outer, p.writer.lists = ⟨before ++ c :: after, before.length :: outer⟩ := by
  obtain ⟨i, outer, ho⟩ := List.exists_cons_of_ne_nil hne
  have hi : i < p.writer.lists.contexts.length := h.opened i (by simp [ho])
  refine ⟨p.writer.lists.contexts.take i, p.writer.lists.contexts[i],
    p.writer.lists.contexts.drop (i + 1), outer, ?_⟩
  have hlen : (p.writer.lists.contexts.take i).length = i := List.length_take_of_le hi.le
  have hsplit : p.writer.lists.contexts.take i ++
      p.writer.lists.contexts[i] :: p.writer.lists.contexts.drop (i + 1) =
      p.writer.lists.contexts := by
    rw [List.getElem_cons_drop, List.take_append_drop]
  rw [hlen, hsplit, ← ho]

/-- Lists that are opened later do not touch the open ones. -/
theorem openContexts_extend {p : Page} (h : p.Sound) (s : Stretch) :
    (p.extend s).writer.lists.openContexts = p.writer.lists.openContexts := by
  apply List.filterMap_congr
  intro i hi
  exact List.getElem?_append_left (h.opened i hi)

end Page

namespace Work

def Sound : Work → Prop
  | blocks p _ => p.Sound
  | items p _ => p.Sound ∧ p.writer.lists.openLists ≠ []

theorem step_sound {work next : Work} (hs : work.Sound) (h : Step work next) : next.Sound := by
  cases h with
  | @past p q b rest hq =>
    have hp : p.Sound := hs
    rw [Block.write_eq b hp.atEnd] at hq
    cases hq
    exact hp.extend _
  | list =>
    have ho := Page.Sound.openList hs
    exact ⟨ho _, by simp [Page.openList, ListStack.push]⟩
  | quote => exact Page.Sound.inner hs
  | alert => exact Page.Sound.inner hs
  | group => exact hs
  | item => exact hs.1.inner
  | @pastItem p q r body rest hq hr =>
    obtain ⟨hp, hne⟩ := hs
    obtain ⟨before, c, after, outer, hl⟩ := hp.innermost hne
    rw [Block.writeAll_eq body p.atEnd_inner] at hq
    cases hq
    have hitem := Page.listItem_resume hp.atEnd hl
      (Block.stretchOfAll p.writer.options body) rest
    cases hr.symm.trans hitem
    have hadvanced : (p.setLists ⟨before ++ c.advance :: after, before.length :: outer⟩).Sound := by
      constructor
      · exact hp.atEnd
      · intro i hi
        have := hp.opened i (by rw [hl]; exact hi)
        rw [hl] at this
        simpa [Page.setLists] using this
    exact ⟨hadvanced.extend _, by simp [Page.extend, Page.setLists]⟩
  | pastOther => exact hs

theorem reaches_sound {work reached : Work} (hs : work.Sound) (h : Reaches work reached) :
    reached.Sound := by
  induction h with
  | refl => exact hs
  | tail _ hstep ih => exact step_sound ih hstep

theorem exists_step_item {p : Page} {body : List Block} {rest : List ListChild}
    (hs : (items p (.item body :: rest)).Sound) :
    ∃ r, Step (items p (.item body :: rest)) (items r rest) := by
  obtain ⟨hp, hne⟩ := hs
  obtain ⟨before, c, after, outer, hl⟩ := hp.innermost hne
  have hbody := Block.writeAll_eq body p.atEnd_inner
  have hitem := Page.listItem_resume hp.atEnd hl (Block.stretchOfAll p.writer.options body) rest
  exact ⟨_, .pastItem hbody hitem⟩

end Work

namespace Block

mutual

def parts : Block → List Block
  | list ordered children => list ordered children :: partsOfItems children
  | quote body => quote body :: partsOfAll body
  | alert kind body => alert kind body :: partsOfAll body
  | group body => group body :: partsOfAll body
  | b => [b]

def partsOfAll : List Block → List Block
  | [] => []
  | b :: rest => b.parts ++ partsOfAll rest

def partsOfItems : List ListChild → List Block
  | [] => []
  | .item body :: rest => partsOfAll body ++ partsOfItems rest
  | .other _ :: rest => partsOfItems rest

end

end Block

namespace Work
open Block

def Meets (work : Work) (b : Block) : Prop := ∃ p rest, work.Reaches (blocks p (b :: rest))

theorem Step.meets {work next : Work} (h : Step work next) {b : Block} (hb : next.Meets b) :
    work.Meets b := by
  obtain ⟨p, rest, hr⟩ := hb
  exact ⟨p, rest, .head h hr⟩

theorem meets_first (p : Page) (b : Block) (rest : List Block) : (blocks p (b :: rest)).Meets b :=
  ⟨p, rest, .refl⟩

mutual

theorem meets_parts : (b : Block) → {p : Page} → p.Sound → (rest : List Block) → {c : Block} →
    c ∈ b.parts → (blocks p (b :: rest)).Meets c
  | .list ordered children, p, hp, rest, c, hc => by
    rcases List.mem_cons.mp hc with rfl | hc
    · exact meets_first p _ rest
    · have hopen : Step (blocks p (.list ordered children :: rest))
          (items (p.openList ordered) children) := .list
      have hp : (blocks p (.list ordered children :: rest)).Sound := hp
      have hs : (items (p.openList ordered) children).Sound := step_sound hp hopen
      exact hopen.meets (meets_partsOfItems children hs hc)
  | .quote body, p, hp, rest, c, hc => by
    rcases List.mem_cons.mp hc with rfl | hc
    · exact meets_first p _ rest
    · exact Step.quote.meets (meets_partsOfAll body hp.inner hc)
  | .alert kind body, p, hp, rest, c, hc => by
    rcases List.mem_cons.mp hc with rfl | hc
    · exact meets_first p _ rest
    · exact Step.alert.meets (meets_partsOfAll body hp.inner hc)
  | .group body, p, hp, rest, c, hc => by
    rcases List.mem_cons.mp hc with rfl | hc
    · exact meets_first p _ rest
    · exact Step.group.meets (meets_partsOfAll body hp hc)
  | .heading .., p, _, rest, c, hc | .paragraph .., p, _, rest, c, hc
  | .fencedCode .., p, _, rest, c, hc | .indentedCode _, p, _, rest, c, hc
  | .html _, p, _, rest, c, hc | .thematicBreak, p, _, rest, c, hc | .blankLine, p, _, rest, c, hc
  | .linkDefinition, p, _, rest, c, hc | .table, p, _, rest, c, hc
  | .footnoteDefinition, p, _, rest, c, hc | .inline _, p, _, rest, c, hc => by
    obtain rfl := List.mem_singleton.mp hc
    exact meets_first p _ rest

theorem meets_partsOfAll : (bs : List Block) → {p : Page} → p.Sound → {c : Block} →
    c ∈ partsOfAll bs → (blocks p bs).Meets c
  | [], _, _, _, hc => by simp [partsOfAll] at hc
  | b :: rest, p, hp, c, hc => by
    rcases List.mem_append.mp hc with hc | hc
    · exact meets_parts b hp rest hc
    · have hpast : Step (blocks p (b :: rest)) (blocks (p.extend (b.stretch p.writer.options)) rest) :=
        .past (write_eq b hp.atEnd)
      exact hpast.meets (meets_partsOfAll rest (hp.extend _) hc)

theorem meets_partsOfItems : (children : List ListChild) → {p : Page} →
    (items p children).Sound → {c : Block} → c ∈ partsOfItems children →
    (items p children).Meets c
  | [], _, _, _, hc => by simp [partsOfItems] at hc
  | .item body :: rest, p, hs, c, hc => by
    rcases List.mem_append.mp hc with hc | hc
    · exact Step.item.meets (meets_partsOfAll body hs.1.inner hc)
    · obtain ⟨r, hstep⟩ := exists_step_item hs
      exact hstep.meets (meets_partsOfItems rest (step_sound hs hstep) hc)
  | .other _ :: rest, p, hs, c, hc => Step.pastOther.meets (meets_partsOfItems rest hs hc)

end

end Work

def ListContext.numbered (ordered : Bool) (j : Nat) : ListContext :=
  if ordered then { kind := .ordered, nextIndex := j } else { kind := .unordered }

def itemMarker (ordered : Bool) (j : Nat) : Text :=
  if ordered then Text.decimal j ++ ['.', ' '] else ['*', ' ']

theorem ListContext.start_eq_numbered (ordered : Bool) : start ordered = numbered ordered 1 := by
  cases ordered <;> rfl

theorem ListContext.marker_numbered (ordered : Bool) (j : Nat) :
    (numbered ordered j).marker = itemMarker ordered j := by
  cases ordered <;> rfl

theorem ListContext.advance_numbered (ordered : Bool) (j : Nat) :
    (numbered ordered j).advance = numbered ordered (j + 1) := by
  cases ordered <;> rfl

def ListChild.bodies : List ListChild → List (List Block)
  | [] => []
  | .item body :: rest => body :: bodies rest
  | .other _ :: rest => bodies rest

theorem ListChild.any_isItem (children : List ListChild) :
    children.any isItem = !(bodies children).isEmpty := by
  induction children with
  | nil => rfl
  | cons child rest ih =>
    cases child with
    | item body => rfl
    | other b => exact ih

namespace Writer
open Block

/-- Items with the given bodies, numbered from `j` on. An empty line ends the list. -/
def listText (w : Writer) (ordered : Bool) (j : Nat) (bodies : List Text) : Text :=
  Text.ofLines ((bodies.zipIdx j).flatMap fun item =>
    Layout.itemLines w.options.tabWidth.toNat (itemMarker ordered item.2) item.1) ++
    if bodies.isEmpty then [] else ['\n']

/-- What blocks written on a page of their own leave there. -/
def Leaves (w : Writer) (blocks : List Block) (text : Text) : Prop :=
  ∀ p : Page, p.writer.options = w.options → p.out = {} →
    ∃ q, writeAll p blocks = .ok q ∧ q.out.contents = text

theorem leaves_rowsOfAll (w : Writer) (blocks : List Block) :
    w.Leaves blocks (Row.textOf (rowsOfAll w.options blocks)) := by
  intro p ho hout
  have hend : p.out.AtEnd := by rw [hout]; rfl
  refine ⟨_, writeAll_eq blocks hend, ?_⟩
  rw [ho]
  simp [Page.extend, Buffer.append, hout, stretchOfAll]

theorem textOf_rowsOfItems (w : Writer) (ordered : Bool) (j : Nat) (children : List ListChild) :
    Row.textOf (rowsOfItems w.options (.numbered ordered j) children) =
      w.listText ordered j
        ((ListChild.bodies children).map fun body => Row.textOf (rowsOfAll w.options body)) := by
  -- On the children. What is no item is passed over, and the number stays for the next one.
  induction children generalizing j with
  | nil => rfl
  | cons child rest ih =>
    cases child with
    | other b => exact ih j
    | item body =>
      have hitem := Page.itemText_eq w (.numbered ordered j) (rowsOfAll w.options body)
      rw [itemText_eq_itemLines, ListContext.marker_numbered] at hitem
      rw [rowsOfItems, ListContext.advance_numbered, Row.textOf_append, ih, itemRows,
        Row.textOf_append, ← hitem, ListChild.any_isItem, ListChild.bodies]
      cases hb : ListChild.bodies rest with
      | nil => simp [listText, Row.blank]
      | cons next more => simp [listText]

/-- Rendering never meets a closed list. It comes to every block of the document; each leaves the
open lists as they were, and a list numbers its items from one whatever else stands in it. -/
theorem lists_numbered (w : Writer) (blocks : List Block) :
    (∃ text left, w.document blocks = .ok (text, left)) ∧
    (∀ b ∈ partsOfAll blocks, ∃ p rest, (w.start blocks).Reaches (.blocks p (b :: rest))) ∧
    ∀ p b rest, (w.start blocks).Reaches (.blocks p (b :: rest)) → ∃ q, b.write p = .ok q ∧
      q.writer.lists.openLists = p.writer.lists.openLists ∧
      q.writer.lists.openContexts = p.writer.lists.openContexts ∧
      ∀ ordered children, b = .list ordered children → ∃ texts,
        List.Forall₂ p.writer.Leaves (ListChild.bodies children) texts ∧
        q.out.contents = p.out.contents ++ p.writer.listText ordered 1 texts := by
  have hstart : (w.start blocks).Sound := Page.sound_header w
  refine ⟨⟨_, _, w.document_eq blocks⟩, ?_, ?_⟩
  · intro b hb
    exact Work.meets_partsOfAll blocks hstart hb
  · intro p b rest hr
    have hp : p.Sound := Work.reaches_sound hstart hr
    refine ⟨_, write_eq b hp.atEnd, rfl, Page.openContexts_extend hp _, ?_⟩
    rintro ordered children rfl
    refine ⟨_, List.forall₂_map_right_iff.mpr (List.forall₂_same.mpr fun body _ =>
      p.writer.leaves_rowsOfAll body), ?_⟩
    rw [← textOf_rowsOfItems, ← ListContext.start_eq_numbered]
    rfl

end Writer
end HelpFile
