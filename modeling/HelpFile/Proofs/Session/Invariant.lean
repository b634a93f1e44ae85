import HelpFile.Proofs.Session.Moves
import HelpFile.Proofs.Stretch

/-!
# What holds throughout a session

After every event, inside lists as well and whichever events fail, the place of the table of
contents is known just when the outline has a root, and the current heading is no deeper than that.
Until the next header place and root stay. A heading or paragraph that shows nothing leaves no trace
but the notices raised while it was made.
-/
namespace HelpFile

namespace Outline

theorem isSome_current? (o : Outline) : o.current?.isSome = o.root?.isSome := by
  cases o <;> rfl

theorem isSome_root?_place (o : Outline) (h : Heading) : (o.place h).root?.isSome := by
  cases o with
  | empty => rfl
  | rooted | detached =>
    rw [place]
    split <;> rfl

def Ordered (o : Outline) : Prop :=
  ∀ root current, o.root? = some root → o.current? = some current → current.level ≤ root.level

theorem level_addChild (parent child : Heading) : (parent.addChild child).level = parent.level := by
  cases parent
  rfl

theorem text_addChild (parent child : Heading) : (parent.addChild child).text = parent.text := by
  cases parent
  rfl

theorem ordered_rooted (root : Heading) : (rooted root).Ordered := by
  rintro _ _ ⟨⟩ ⟨⟩
  exact Int.le_refl _

theorem ordered_detached_iff {root current : Heading} :
    (detached root current).Ordered ↔ current.level ≤ root.level :=
  ⟨fun h => h root current rfl rfl, by rintro h _ _ ⟨⟩ ⟨⟩; exact h⟩

theorem ordered_place {o : Outline} (ho : o.Ordered) (h : Heading) : (o.place h).Ordered := by
  cases o with
  | empty => exact ordered_rooted h
  | rooted root =>
    rw [place]
    split
    · next hl => exact ordered_detached_iff.mpr hl
    · exact ordered_rooted _
  | detached root current =>
    have hc : current.level ≤ root.level := ordered_detached_iff.mp ho
    rw [place]
    split
    · next hl => exact ordered_detached_iff.mpr (Int.le_trans hl hc)
    · exact ordered_detached_iff.mpr ((level_addChild current h).trans_le hc)

/-- The root keeps its text and level when a heading is placed. -/
theorem root?_place {o : Outline} {root : Heading} (hr : o.root? = some root) (h : Heading) :
    ∃ kept, (o.place h).root? = some kept ∧ kept.text = root.text ∧ kept.level = root.level := by
  cases o with
  | empty => cases hr
  | rooted =>
    cases hr
    rw [place]
    split
    · exact ⟨root, rfl, rfl, rfl⟩
    · exact ⟨_, rfl, text_addChild root h, level_addChild root h⟩
  | detached =>
    cases hr
    rw [place]
    split <;> exact ⟨root, rfl, rfl, rfl⟩

end Outline

namespace Writer

structure Settled (w : Writer) : Prop where
  root : w.contentsAt.isSome = w.outline.root?.isSome
  current : w.outline.root?.isSome = w.outline.current?.isSome
  ordered : w.outline.Ordered

structure Keeps (w v : Writer) : Prop where
  contentsAt : ∀ offset, w.contentsAt = some offset → v.contentsAt = some offset
  root : ∀ root, w.outline.root? = some root → ∃ kept, v.outline.root? = some kept ∧
    kept.text = root.text ∧ kept.level = root.level

structure Alike (w v : Writer) : Prop where
  options : v.options = w.options
  contentsAt : v.contentsAt = w.contentsAt
  outline : v.outline = w.outline

/-- What an event makes of the headings of a document: a header forgets them, a heading that shows
something is placed, all else leaves them. -/
inductive Moved (w : Writer) : Event → Writer → Prop where
  | header : Moved w .header w.restart
  | same {event : Event} {v : Writer} : event ≠ .header → w.Alike v → Moved w event v
  | placed {event : Event} {v : Writer} (offset : Nat) (heading : Heading) : event ≠ .header →
      v.options = w.options → v.contentsAt = w.contentsAt.or (some offset) →
      v.outline = w.outline.place heading → Moved w event v

variable {w v : Writer} {event : Event}

theorem Keeps.refl (w : Writer) : w.Keeps w where
  contentsAt _ h := h
  root root h := ⟨root, h, rfl, rfl⟩

theorem Keeps.trans {x : Writer} (h : w.Keeps v) (h' : v.Keeps x) : w.Keeps x where
  contentsAt offset hw := h'.contentsAt offset (h.contentsAt offset hw)
  root root hw := by
    obtain ⟨kept, hk, ht, hl⟩ := h.root root hw
    obtain ⟨last, hlast, ht', hl'⟩ := h'.root kept hk
    exact ⟨last, hlast, ht'.trans ht, hl'.trans hl⟩

theorem Moved.options (h : w.Moved event v) : v.options = w.options := by
  cases h with
  | header => rfl
  | same _ hv => exact hv.options
  | placed _ _ _ ho => exact ho

theorem Moved.settled (h : w.Moved event v) (hw : w.Settled) : v.Settled := by
  cases h with
  | header => exact ⟨rfl, rfl, by intro _ _ hr; cases hr⟩
  | same _ hv =>
    exact ⟨by rw [hv.contentsAt, hv.outline, hw.root], by rw [hv.outline, hw.current],
      hv.outline ▸ hw.ordered⟩
  | placed offset heading _ _ hc ho =>
    refine ⟨?_, by rw [Outline.isSome_current?], ho ▸ Outline.ordered_place hw.ordered heading⟩
    rw [hc, ho, Outline.isSome_root?_place, Option.isSome_or]
    exact Bool.or_true _

theorem Moved.keeps (h : w.Moved event v) (he : event ≠ .header) : w.Keeps v := by
  cases h with
  | header => exact absurd rfl he
  | same _ hv =>
    exact ⟨fun offset hw => hv.contentsAt.trans hw,
      fun root hr => ⟨root, hv.outline ▸ hr, rfl, rfl⟩⟩
  | placed offset heading _ _ hc ho =>
    refine ⟨fun offset hw => ?_, fun root hr => ho ▸ Outline.root?_place hr heading⟩
    rw [hc, hw]
    rfl

end Writer

namespace Page

variable (p : Page)

/-- A heading moves the headings of its document as it is shown or not. -/
theorem heading_moved (content : Fragment) (level : Int) {event : Event} (he : event ≠ .header) :
    p.writer.Moved event (p.heading content level).writer := by
  unfold heading
  dsimp only
  split
  · exact .same he ⟨rfl, rfl, rfl⟩
  · exact .placed _ _ he rfl rfl rfl

theorem paragraph_writer (content : Fragment) (tight : Bool) :
    (p.paragraph content tight).writer = p.writer.notify content.notices := by
  unfold paragraph
  dsimp only
  split <;> rfl

/-- The rule of a heading that shows nothing is taken back with what was written for it. -/
theorem heading_hidden {p : Page} (hp : p.out.AtEnd) {content : Fragment}
    (hs : content.shown = false) (level : Int) :
    p.heading content level = p.notify content.notices := by
  have hrule := Buffer.write_of_atEnd hp (p.writer.headingRule level)
  have htext := Buffer.write_of_atEnd (Buffer.atEnd_append p.out (p.writer.headingRule level))
    content.text
  simp only [heading, hs, write, notify, hrule, htext, Buffer.append_append,
    Buffer.truncate_append hp, Bool.not_false, if_true]

theorem paragraph_hidden {p : Page} (hp : p.out.AtEnd) {content : Fragment}
    (hs : content.shown = false) (tight : Bool) :
    p.paragraph content tight = p.notify content.notices := by
  have htext := Buffer.write_of_atEnd hp content.text
  simp only [paragraph, hs, write, notify, htext, Buffer.truncate_append hp, Bool.not_false,
    if_true]

theorem closeList_alike {p q : Page} (h : p.closeList = .ok q) : p.writer.Alike q.writer := by
  unfold closeList at h
  cases hl : p.writer.lists.pop with
  | error e =>
    rw [hl] at h
    cases h
  | ok popped =>
    rw [hl] at h
    cases h
    exact ⟨rfl, rfl, rfl⟩

theorem listItem_alike {p q : Page} {text : Text} {last : Bool} (h : p.listItem text last = .ok q) :
    p.writer.Alike q.writer := by
  unfold listItem at h
  cases hl : p.writer.lists.draw with
  | error e =>
    rw [hl] at h
    cases h
  | ok drawn =>
    rw [hl] at h
    cases h
    cases last <;> exact ⟨rfl, rfl, rfl⟩

end Page

namespace Session

/-- An event that may fail moves no headings if its success does not. -/
theorem tryPage_moved (s : Session) (name : Text) {f : Page → Except ListError Page} {event : Event}
    (he : event ≠ .header)
    (hf : ∀ {p q : Page}, f p = .ok q → p.writer.Alike q.writer) :
    s.writer.Moved event (s.tryPage name f).1.writer := by
  unfold tryPage
  dsimp only
  split
  · next h => exact .same he (hf h)
  · exact .same he ⟨rfl, rfl, rfl⟩

theorem literalText_writer (kind : LiteralKind) (text : Text) (p : Page) :
    (literalText kind text p).writer = p.writer := by
  cases kind <;> rfl

/-- What one move makes of the headings. -/
theorem enter_moved (s : Session) (m : Move) : s.writer.Moved m.2 (s.enter m).writer := by
  obtain ⟨name, event⟩ := m
  cases event with
  | header => exact .header
  | heading content level shown =>
    exact Page.heading_moved (s.page (s.number name)) (fragment content shown) level (by simp)
  | paragraph content tight shown =>
    have hw : (s.enter (name, .paragraph content tight shown)).writer =
        s.writer.notify (fragment content shown).notices := Page.paragraph_writer ..
    rw [hw]
    exact .same (by simp) ⟨rfl, rfl, rfl⟩
  | popList => exact tryPage_moved s name (by simp) Page.closeList_alike
  | listItem source last => exact tryPage_moved s name (by simp) Page.listItem_alike
  | literalBlock kind source =>
    have hw : (s.enter (name, .literalBlock kind source)).writer = s.writer :=
      literalText_writer kind (s.read source) _
    rw [hw]
    exact .same (by simp) ⟨rfl, rfl, rfl⟩
  | create | write | footer | thematicBreak | table | footnotes | titleBlock | span | tag | list =>
    exact .same (by simp) ⟨rfl, rfl, rfl⟩

theorem settled_play {s : Session} (hs : s.writer.Settled) (moves : List Move) :
    (s.play moves).writer.Settled := by
  induction moves generalizing s with
  | nil => exact hs
  | cons m rest ih => exact ih ((s.enter_moved m).settled hs)

theorem keeps_play (s : Session) {moves : List Move} (hm : ∀ m ∈ moves, m.2 ≠ .header) :
    s.writer.Keeps (s.play moves).writer := by
  induction moves generalizing s with
  | nil => exact .refl _
  | cons m rest ih =>
    obtain ⟨he, hrest⟩ := List.forall_mem_cons.mp hm
    exact ((s.enter_moved m).keeps he).trans (ih _ hrest)

theorem options_play (s : Session) (moves : List Move) :
    (s.play moves).writer.options = s.writer.options := by
  induction moves generalizing s with
  | nil => rfl
  | cons m rest ih => exact (ih _).trans (s.enter_moved m).options

/-- A page that has taken notices and no text leaves all buffers as they are. -/
theorem update_notify (s : Session) (i : Nat) (notices : List Notice) :
    s.update i ((s.page i).notify notices) = { s with writer := s.writer.notify notices } := by
  have hset : s.buffers.set i (s.buffer i) = s.buffers := by
    by_cases hi : i < s.buffers.length
    · have hb : s.buffer i = s.buffers[i] := by simp [buffer, hi]
      rw [hb, List.set_getElem_self]
    · exact List.set_eq_of_length_le (Nat.not_lt.mp hi)
  exact congrArg (fun buffers => { s with writer := s.writer.notify notices, buffers }) hset

/-- A heading that shows nothing changes nothing but the notices. -/
theorem enter_heading_hidden {s : Session} {name : Text} (hb : (s.buffer (s.number name)).AtEnd)
    {content : Piece} {shown : Option Bool} (hs : (fragment content shown).shown = false)
    (level : Int) : s.enter (name, .heading content level shown) =
      { s with writer := s.writer.notify (fragment content shown).notices } := by
  have hp : (s.page (s.number name)).out.AtEnd := hb
  rw [← update_notify s (s.number name), ← Page.heading_hidden hp hs level]
  rfl

/-- A paragraph that shows nothing changes nothing but the notices. -/
theorem enter_paragraph_hidden {s : Session} {name : Text} (hb : (s.buffer (s.number name)).AtEnd)
    {content : Piece} {shown : Option Bool} (hs : (fragment content shown).shown = false)
    (tight : Bool) : s.enter (name, .paragraph content tight shown) =
      { s with writer := s.writer.notify (fragment content shown).notices } := by
  have hp : (s.page (s.number name)).out.AtEnd := hb
  rw [← update_notify s (s.number name), ← Page.paragraph_hidden hp hs tight]
  rfl

/-- Every run is a sequence of moves, and after every sequence of moves the headings are settled;
the place of the table of contents and the root stay through all moves up to the next header; and a
heading or paragraph that shows nothing, on a buffer whose position is at its end, changes nothing
but the notices. -/
theorem settled_throughout (options : Options) (first : Text) :
    let s := start options first
    (∀ events, s.play (s.movesOfAll events) = (s.runAll events).1) ∧
    ∀ before : List Move,
      let t := s.play before
      t.writer.Settled ∧
      (∀ between : List Move, (∀ m ∈ between, m.2 ≠ .header) →
        t.writer.Keeps (t.play between).writer) ∧
      ∀ (name : Text) (content : Piece) (shown : Option Bool),
        (t.buffer (t.number name)).AtEnd → (fragment content shown).shown = false →
        let left := { t with writer := t.writer.notify (fragment content shown).notices }
        (∀ level, (t.step name (.heading content level shown)).1 = left) ∧
          ∀ tight, (t.step name (.paragraph content tight shown)).1 = left := by
  have hstart : (start options first).writer.Settled := ⟨rfl, rfl, by rintro _ _ ⟨⟩⟩
  refine ⟨play_movesOfAll _, fun before => ⟨settled_play hstart before, fun between => keeps_play _,
    fun name content shown hb hs => ⟨?_, ?_⟩⟩⟩
  · exact enter_heading_hidden hb hs
  · exact enter_paragraph_hidden hb hs

/-- The place of the table of contents is still that of the first heading when a list has failed
half-way, behind a second one. -/
theorem settled_throughout_aborted :
    let s := start .standard "doc".toList
    let before : List Move := [("doc".toList, .header),
      ("doc".toList, .heading (.text "b".toList) 2 none)]
    let body : List (Text × Event) := [("doc".toList, .popList),
      ("doc".toList, .heading (.text "a".toList) 1 none), ("doc".toList, .popList)]
    let t := (s.runAll (before ++ [("doc".toList, .list true body)])).1
    t.writer.Settled ∧ t.writer.contentsAt = some 9 := by
  intro s before body t
  obtain ⟨hrun, hafter⟩ := settled_throughout .standard "doc".toList
  let moves : List Move := ("doc".toList, .list true body) :: body
  have ht : t = s.play (before ++ moves) := (hrun _).symm
  have hkeeps := (hafter before).2.1 moves (by simp [moves, body])
  have hfirst : (s.play before).writer.contentsAt = some 9 := rfl
  rw [ht]
  refine ⟨(hafter (before ++ moves)).1, ?_⟩
  rw [play_append]
  exact hkeeps.contentsAt 9 hfirst

end Session
end HelpFile
