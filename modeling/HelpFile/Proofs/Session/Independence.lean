import HelpFile.Proofs.Document
import HelpFile.Proofs.Session.Invariant

/-!
# Documents do not depend on what came before

A session may go on behind a past one. What the past has left behind is never read again once a
header has been written on a new buffer: the events that follow, on that buffer and on those made
afterwards, do what they would do in a session of their own.
-/
namespace HelpFile

namespace Writer

def documents (w : Writer) :
    List (List Block) → Except ListError (List (Text × List Notice) × Writer)
  | [] => .ok ([], w)
  | blocks :: rest => do
    let (text, after) ← w.document blocks
    let (more, last) ← after.documents rest
    return ((text, after.notices) :: more, last)

/-- What a writer has written before shows neither in the text of a document nor in its notices. -/
theorem document_fresh (w : Writer) (blocks : List Block) : ∃ text after own,
    w.document blocks = .ok (text, after) ∧ after.options = w.options ∧
      (fresh w.options).document blocks = .ok (text, own) ∧ own.notices = after.notices :=
  ⟨_, _, _, w.document_eq blocks, rfl, (fresh w.options).document_eq blocks, rfl⟩

theorem documents_fresh (w : Writer) (documents : List (List Block)) : ∃ results last,
    w.documents documents = .ok (results, last) ∧
      List.Forall₂ (fun blocks result => ∃ own, (fresh w.options).document blocks =
        .ok (result.1, own) ∧ own.notices = result.2) documents results := by
  induction documents generalizing w with
  | nil => exact ⟨[], w, rfl, .nil⟩
  | cons blocks rest ih =>
    obtain ⟨text, after, own, hw, ho, hown, hn⟩ := w.document_fresh blocks
    obtain ⟨more, last, hmore, hall⟩ := ih after
    rw [ho] at hall
    refine ⟨(text, after.notices) :: more, last, ?_, .cons ⟨own, hown, hn⟩ hall⟩
    simp only [documents, hw, hmore, bind, Except.bind]
    rfl

end Writer

def Writer.atop (w : Writer) (past : List Notice) : Writer :=
  { w with reported := past ++ w.reported }

namespace Page

def atop (p : Page) (past : List Notice) : Page := { p with writer := p.writer.atop past }

variable (p : Page) (past : List Notice)

theorem notify_atop (notices : List Notice) :
    (p.atop past).notify notices = (p.notify notices).atop past := by
  simp [notify, atop, Writer.notify, Writer.atop]

theorem heading_atop (content : Fragment) (level : Int) :
    (p.atop past).heading content level = (p.heading content level).atop past := by
  have hruled : ((p.atop past).write ((p.atop past).writer.headingRule level)).notify
      content.notices =
      ((p.write (p.writer.headingRule level)).notify content.notices).atop past :=
    notify_atop (p.write (p.writer.headingRule level)) past content.notices
  unfold heading
  dsimp only
  rw [hruled]
  split
  · rfl
  · simp [atop, Writer.atop, write, notify, Writer.notify, Writer.headingLine, Writer.tag]

theorem paragraph_atop (content : Fragment) (tight : Bool) :
    (p.atop past).paragraph content tight = (p.paragraph content tight).atop past := by
  unfold paragraph
  dsimp only
  rw [notify_atop]
  split <;> rfl

theorem closeList_atop : (p.atop past).closeList = p.closeList.map (·.atop past) := by
  unfold closeList
  have : (p.atop past).writer.lists = p.writer.lists := rfl
  rw [this]
  cases p.writer.lists.pop <;> rfl

theorem listItem_atop (text : Text) (last : Bool) :
    (p.atop past).listItem text last = (p.listItem text last).map (·.atop past) := by
  unfold listItem
  have : (p.atop past).writer.lists = p.writer.lists := rfl
  rw [this]
  cases p.writer.lists.draw with
  | error e => rfl
  | ok drawn => cases last <;> rfl

end Page

namespace Session

def Knows (t : Session) (name : Text) : Prop := (t.names.lookup name).isSome

def Reads (t : Session) : Source → Prop
  | .given _ => True
  | .buffer name => t.Knows name

def Admits (t : Session) (m : Move) : Prop :=
  match m.2 with
  | .create _ => True
  | .listItem source _ | .literalBlock _ source => t.Knows m.1 ∧ t.Reads source
  | _ => t.Knows m.1

/-- Moves that use no buffers but those of the session and those made on the way. -/
def Scoped : Session → List Move → Prop
  | _, [] => True
  | t, m :: rest => t.Admits m ∧ (t.enter m).Scoped rest

theorem scoped_append_iff {t : Session} {moves more : List Move} :
    t.Scoped (moves ++ more) ↔ t.Scoped moves ∧ (t.play moves).Scoped more := by
  induction moves generalizing t with
  | nil => simp [Scoped]
  | cons m rest ih => rw [List.cons_append, Scoped, Scoped, ih, and_assoc, play_cons]

/-- The session `t` on top of a past one: its buffers come behind those of the past, and its names
hide those of the past. -/
def atop (t past : Session) : Session where
  writer := t.writer.atop past.writer.reported
  buffers := past.buffers ++ t.buffers
  names := (t.names.map fun (name, i) => (name, past.buffers.length + i)) ++ past.names
  document := t.document.map (past.buffers.length + ·)

section
variable (t past : Session)

theorem buffer_atop (i : Nat) : (t.atop past).buffer (past.buffers.length + i) = t.buffer i := by
  simp [buffer, atop, List.getElem?_append_right]

theorem lookup_atop {t : Session} {name : Text} {i : Nat} (h : t.names.lookup name = some i) :
    (t.atop past).names.lookup name = some (past.buffers.length + i) := by
  obtain ⟨before, after, hs, hn⟩ := List.lookup_eq_some_iff.mp h
  refine List.lookup_eq_some_iff.mpr ⟨before.map fun (name, i) => (name, past.buffers.length + i),
    (after.map fun (name, i) => (name, past.buffers.length + i)) ++ past.names, ?_, ?_⟩
  · simp [atop, hs]
  · intro shifted hm
    obtain ⟨known, hk, rfl⟩ := List.mem_map.mp hm
    exact hn known hk

theorem number_atop {t : Session} {name : Text} (hn : t.Knows name) :
    (t.atop past).number name = past.buffers.length + t.number name := by
  obtain ⟨i, hi⟩ := Option.isSome_iff_exists.mp hn
  rw [number, number, lookup_atop past hi, hi, Option.getD_some, Option.getD_some]

theorem page_atop (i : Nat) : (t.atop past).page (past.buffers.length + i) =
    (t.page i).atop past.writer.reported := by
  have hdocument : (t.atop past).document = t.document.map (past.buffers.length + ·) := rfl
  rw [page, page, buffer_atop, hdocument]
  cases t.document with
  | none => rfl
  | some d =>
    simp only [Option.map_some, Nat.add_left_cancel_iff, buffer_atop]
    rfl

theorem update_atop (i : Nat) (p : Page) :
    (t.atop past).update (past.buffers.length + i) (p.atop past.writer.reported) =
      (t.update i p).atop past := by
  simp [update, atop, Page.atop, List.set_append_right]

theorem create_atop (name text : Text) :
    (t.atop past).create name text = (t.create name text).atop past := by
  simp [create, atop]

theorem read_atop {t : Session} {source : Source} (hs : t.Reads source) :
    (t.atop past).read source = t.read source := by
  cases source with
  | given text => rfl
  | buffer name => rw [read, read, number_atop past hs, buffer_atop]

theorem report_atop {u : Session} {name : Text} (hn : u.Knows name)
    (result : Except ListError (Option Text)) (body : Option (List Report)) :
    (t.atop past).report (u.atop past) name result body = t.report u name result body := by
  have hraised : (u.atop past).writer.reported.drop (t.atop past).writer.reported.length =
      u.writer.reported.drop t.writer.reported.length := by
    simp [atop, Writer.atop, List.drop_append]
  rw [report, hraised, number_atop past hn, buffer_atop]
  rfl

theorem runPage_atop {t : Session} {name : Text} (hn : t.Knows name) (f : Page → Page)
    (hf : ∀ p : Page, f (p.atop past.writer.reported) = (f p).atop past.writer.reported) :
    (t.atop past).runPage name f = ((t.runPage name f).1.atop past, (t.runPage name f).2) := by
  have hafter : (t.atop past).update ((t.atop past).number name)
      (f ((t.atop past).page ((t.atop past).number name))) =
      (t.runPage name f).1.atop past := by
    rw [number_atop past hn, page_atop, hf, update_atop]
    rfl
  have hk : (t.runPage name f).1.Knows name := hn
  rw [runPage, hafter, report_atop t past hk]
  rfl

theorem tryPage_atop {t : Session} {name : Text} (hn : t.Knows name)
    (f : Page → Except ListError Page)
    (hf : ∀ p : Page, f (p.atop past.writer.reported) =
      (f p).map (·.atop past.writer.reported)) :
    (t.atop past).tryPage name f = ((t.tryPage name f).1.atop past, (t.tryPage name f).2) := by
  have hresult : f ((t.atop past).page ((t.atop past).number name)) =
      (f (t.page (t.number name))).map (·.atop past.writer.reported) := by
    rw [number_atop past hn, page_atop, hf]
  unfold tryPage
  dsimp only
  rw [hresult]
  cases f (t.page (t.number name)) with
  | error e =>
    dsimp only [Except.map]
    rw [report_atop t past hn]
  | ok p =>
    have hk : (t.update (t.number name) p).Knows name := hn
    dsimp only [Except.map]
    rw [number_atop past hn, update_atop, report_atop t past hk]

theorem names_tryPage (name : Text) (f : Page → Except ListError Page) :
    (t.tryPage name f).1.names = t.names := by
  unfold tryPage
  dsimp only
  split <;> rfl

theorem knows_of_names {t u : Session} (h : u.names = t.names) {name : Text} (hn : t.Knows name) :
    u.Knows name := by
  rwa [Knows, h]

/-- A name that is known stays known. -/
theorem knows_enter {t : Session} {name : Text} (hn : t.Knows name) (m : Move) :
    (t.enter m).Knows name := by
  obtain ⟨other, event⟩ := m
  cases event with
  | create text =>
    have hnames : (t.enter (other, .create text)).names =
        (other, t.buffers.length) :: t.names := rfl
    unfold Knows at hn ⊢
    rw [hnames, List.lookup_cons]
    split
    · rfl
    · exact hn
  | popList => exact knows_of_names (t.names_tryPage other _) hn
  | listItem => exact knows_of_names (t.names_tryPage other _) hn
  | _ => exact hn

theorem knows_play {t : Session} {name : Text} (hn : t.Knows name) (moves : List Move) :
    (t.play moves).Knows name := by
  induction moves generalizing t with
  | nil => exact hn
  | cons m rest ih => exact ih (knows_enter hn m)

theorem literalText_atop (kind : LiteralKind) (text : Text) (p : Page) (reported : List Notice) :
    literalText kind text (p.atop reported) = (literalText kind text p).atop reported := by
  cases kind <;> rfl

theorem endList_atop {t : Session} {name : Text} {ran : Session × Except ListError (List Report)}
    (hn : ran.1.Knows name) : (t.atop past).endList name (ran.1.atop past, ran.2) =
      ((t.endList name ran).1.atop past, (t.endList name ran).2) := by
  obtain ⟨after, ran⟩ := ran
  have hclose := tryPage_atop past hn Page.closeList fun p => p.closeList_atop _
  have hk : (after.tryPage name Page.closeList).1.Knows name := knows_enter hn (name, .popList)
  cases ran with
  | error e =>
    dsimp only [endList]
    rw [report_atop t past hn]
  | ok reports =>
    dsimp only [endList] at hclose ⊢
    rw [hclose]
    cases (after.tryPage name Page.closeList).2.result with
    | error e | ok answer => simp only [report_atop t past hk]

mutual

/-- One event does on top of a past session what it does alone, if it uses no buffers of the past.
-/
theorem step_atop {t : Session} {name : Text} : (event : Event) →
    t.Scoped (t.moves name event) →
    (t.atop past).step name event = ((t.step name event).1.atop past, (t.step name event).2)
  | .create text, _ => by
    have hk : (t.create name text).Knows name := by simp [Knows, create]
    simp only [step, create_atop, report_atop t past hk]
  | .write text, hs => runPage_atop past hs.1 (·.write text) fun _ => rfl
  | .header, hs => by
    have hpage := runPage_atop past hs.1 Page.header fun _ => rfl
    have hnumber := number_atop past hs.1
    simp only [step, hpage, hnumber]
    rfl
  | .footer, hs => runPage_atop past hs.1 Page.footer fun _ => rfl
  | .heading content level shown, hs =>
    runPage_atop past hs.1 (·.heading _ level) fun p => p.heading_atop _ _ level
  | .paragraph content tight shown, hs =>
    runPage_atop past hs.1 (·.paragraph _ tight) fun p => p.paragraph_atop _ _ tight
  | .popList, hs => tryPage_atop past hs.1 Page.closeList fun p => p.closeList_atop _
  | .listItem source last, hs => by
    have hread : (t.atop past).read source = t.read source := read_atop past hs.1.2
    simp only [step, hread]
    exact tryPage_atop past hs.1.1 (·.listItem _ last) fun p => p.listItem_atop _ _ last
  | .literalBlock kind source, hs => by
    have hread : (t.atop past).read source = t.read source := read_atop past hs.1.2
    simp only [step, hread]
    exact runPage_atop past hs.1.1 (literalText kind _) fun p => literalText_atop kind _ p _
  | .thematicBreak, hs => runPage_atop past hs.1 Page.thematicBreak fun _ => rfl
  | .table, hs => runPage_atop past hs.1 (·.notify [.table]) fun p => p.notify_atop _ _
  | .footnotes, hs =>
    runPage_atop past hs.1 (·.notify [.footnoteDefinition]) fun p => p.notify_atop _ _
  | .titleBlock, hs => runPage_atop past hs.1 (·.notify [.titleBlock]) fun p => p.notify_atop _ _
  | .span piece, hs => by
    have hpage := runPage_atop past hs.1 (·.notify piece.notices) fun p => p.notify_atop _ _
    have hk : (t.runPage name (·.notify piece.notices)).1.Knows name := hs.1
    simp only [step, hpage, report_atop t past hk]
  | .tag text, hs => by
    have hk : t.Knows name := hs.1
    simp only [step, report_atop t past hk]
    rfl
  | .list ordered body, hs => by
    have hopened : (t.atop past).enter (name, .list ordered body) =
        (t.enter (name, .list ordered body)).atop past :=
      congrArg Prod.fst (runPage_atop past hs.1 (·.openList ordered) fun _ => rfl)
    have hscoped := (scoped_append_iff.mp hs.2).1
    -- The name is still known behind the body, so it is the same list that is closed.
    have hafter := knows_play (knows_enter hs.1 (name, .list ordered body))
      ((t.enter (name, .list ordered body)).movesOf body)
    rw [play_movesOf] at hafter
    rw [step_list, step_list, hopened, run_atop body hscoped, endList_atop past hafter]

theorem run_atop {t : Session} : (events : List (Text × Event)) → t.Scoped (t.movesOf events) →
    (t.atop past).run events = ((t.run events).1.atop past, (t.run events).2)
  | [], _ => rfl
  | (name, event) :: rest, hs => by
    obtain ⟨hfirst, hrest⟩ := scoped_append_iff.mp hs
    rw [play_moves] at hrest
    rw [run_cons, run_cons, step_atop event hfirst]
    dsimp only
    cases hr : (t.step name event).2.result with
    | error e => rfl
    | ok answer =>
      rw [hr] at hrest
      dsimp only
      rw [run_atop rest hrest]

end

theorem runAll_atop {t : Session} (events : List (Text × Event))
    (hs : t.Scoped (t.movesOfAll events)) :
    (t.atop past).runAll events = ((t.runAll events).1.atop past, (t.runAll events).2) := by
  induction events generalizing t with
  | nil => rfl
  | cons e rest ih =>
    obtain ⟨hfirst, hrest⟩ := scoped_append_iff.mp hs
    rw [play_moves] at hrest
    simp only [runAll, step_atop past e.2 hfirst, ih hrest]

/-- A header on a new buffer forgets the past. -/
theorem step_header_create (past : Session) (name : Text) :
    (past.create name []).step name .header =
      (((start past.writer.options name).step name .header).1.atop past,
        ((start past.writer.options name).step name .header).2) := by
  simp [step, runPage, update, page, Page.header, number, create, buffer, start, report, atop,
    Writer.atop, Writer.restart, Writer.headerText]

/-- From a header on a new buffer on, all goes as in a session of its own. -/
theorem runAll_create (past : Session) (name : Text) (events : List (Text × Event))
    (hs : (start past.writer.options name).Scoped
      ((start past.writer.options name).movesOfAll ((name, .header) :: events))) :
    (past.create name []).runAll ((name, .header) :: events) =
      (((start past.writer.options name).runAll ((name, .header) :: events)).1.atop past,
        ((start past.writer.options name).runAll ((name, .header) :: events)).2) := by
  let headed := ((start past.writer.options name).step name .header).1
  have hrest : headed.Scoped (headed.movesOfAll events) := hs.2
  simp only [runAll, step_header_create]
  rw [runAll_atop past events hrest]

end

/-- Whatever events came before: from a header on a new buffer up to the footer, events on that
buffer and on those made afterwards answer what they answer on a new writer, leave the same texts
in these buffers and raise the same notices, and the buffers of the past stay as they are. In the
same way documents that are written in turn are each written as on a new writer. -/
theorem independent_of_history (options : Options) (first : Text) (history : List (Text × Event)) :
    let past := ((start options first).runAll history).1
    (∀ (name : Text) (events : List (Text × Event)),
      let document := (name, .header) :: (events ++ [(name, .footer)])
      let fresh := start options name
      let alone := fresh.runAll document
      let ran := (past.create name []).runAll document
      fresh.Scoped (fresh.movesOfAll document) →
      ran.2 = alone.2 ∧ ran.1.buffers = past.buffers ++ alone.1.buffers ∧
        ran.1.writer.notices = alone.1.writer.notices ∧
        ran.1.writer.reported = past.writer.reported ++ alone.1.writer.reported) ∧
    ∀ documents : List (List Block), ∃ results last,
      past.writer.documents documents = .ok (results, last) ∧
        List.Forall₂ (fun blocks result => ∃ own, (Writer.fresh options).document blocks =
          .ok (result.1, own) ∧ own.notices = result.2) documents results := by
  intro past
  have hoptions : past.writer.options = options := by
    have h := options_play (start options first) ((start options first).movesOfAll history)
    rwa [play_movesOfAll] at h
  rw [← hoptions]
  refine ⟨fun name events => ?_, past.writer.documents_fresh⟩
  intro document fresh alone ran hs
  have hran : ran = (alone.1.atop past, alone.2) := runAll_create past name _ hs
  rw [hran]
  exact ⟨rfl, rfl, rfl, rfl⟩

/-- A document with an item from a buffer of its own, behind one that has no footer and whose list
failed. -/
theorem independent_of_history_aborted :
    let other : Text := "a".toList
    let history : List (Text × Event) := [(other, .header),
      (other, .heading (.text "past".toList) 3 none),
      (other, .list true [(other, .popList), (other, .popList)])]
    let name : Text := "b".toList
    let item : Text := "c".toList
    let events : List (Text × Event) := [(name, .heading (.text "head".toList) 1 none),
      (item, .create []), (item, .paragraph (.text "item".toList) true none),
      (name, .list true [(name, .listItem (.buffer item) true)])]
    let document := (name, .header) :: (events ++ [(name, .footer)])
    let past := ((start .standard other).runAll history).1
    let alone := (start .standard name).runAll document
    let ran := (past.create name []).runAll document
    ran.2 = alone.2 ∧ ran.1.buffers = past.buffers ++ alone.1.buffers := by
  intro other history name item events
  have h := (independent_of_history .standard other history).1 name events
    ⟨rfl, rfl, trivial, rfl, rfl, ⟨rfl, rfl⟩, rfl, rfl, trivial⟩
  exact ⟨h.1, h.2.1⟩

end Session
end HelpFile
