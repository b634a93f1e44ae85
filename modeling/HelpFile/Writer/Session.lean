import HelpFile.Span
import HelpFile.Writer

/-!
# Sessions

A session drives one writer through events on several named buffers. An event that needs an open
list and finds none fails without effect; inside a list it ends the whole list event, and the lists
opened so far stay open.
-/
namespace HelpFile

/-- The text of a container: given, or what a buffer holds when the event runs. -/
inductive Source where
  | given (text : Text)
  | buffer (name : Text)

inductive LiteralKind where
  | code (language : Text)
  | quote
  | html
  | alert (kind : Text)

inductive Event where
  | create (text : Text)
  | write (text : Text)
  | header
  | footer
  | heading (content : Piece) (level : Int) (shown : Option Bool)
  | paragraph (content : Piece) (tight : Bool) (shown : Option Bool)
  | list (ordered : Bool) (body : List (Text × Event))
  | popList
  | listItem (source : Source) (last : Bool)
  | literalBlock (kind : LiteralKind) (source : Source)
  | thematicBreak
  | table
  | footnotes
  | titleBlock
  | span (piece : Piece)
  | tag (text : Text)

structure Report where
  result : Except ListError (Option Text)
  body : Option (List Report)
  contents : Text
  contentsAt : Option Nat
  depth : Nat
  outline : Outline
  raised : List Notice
  noticeCount : Nat

/-- Buffers are numbered in the order of their creation; a name stands for the latest of its
buffers, and the document keeps its buffer when the name moves on. -/
structure Session where
  writer : Writer
  buffers : List Buffer := []
  names : List (Text × Nat) := []
  document : Option Nat := none

namespace Session

def create (s : Session) (name text : Text) : Session :=
  { s with
    buffers := s.buffers ++ [Buffer.ofText text]
    names := (name, s.buffers.length) :: s.names }

def number (s : Session) (name : Text) : Nat := (s.names.lookup name).getD s.buffers.length

def buffer (s : Session) (i : Nat) : Buffer := s.buffers[i]?.getD {}

def read (s : Session) : Source → Text
  | .given text => text
  | .buffer name => (s.buffer (s.number name)).contents

def page (s : Session) (i : Nat) : Page where
  writer := s.writer
  out := s.buffer i
  landing :=
    match s.document with
    | none => none
    | some d => if d = i then none else some (s.buffer d).position

def update (s : Session) (i : Nat) (p : Page) : Session :=
  { s with writer := p.writer, buffers := s.buffers.set i p.out }

def fragment (content : Piece) (shown : Option Bool) : Fragment :=
  let plain := Fragment.ofText content.render content.notices
  { plain with shown := shown.getD plain.shown }

def literalText (kind : LiteralKind) (text : Text) (p : Page) : Page :=
  match kind with
  | .alert kind => p.alert kind text
  | _ => p.literalBlock text

def report (s after : Session) (name : Text) (result : Except ListError (Option Text))
    (body : Option (List Report)) : Report where
  result := result
  body := body
  contents := (after.buffer (after.number name)).contents
  contentsAt := after.writer.contentsAt
  depth := after.writer.lists.depth
  outline := after.writer.outline
  raised := after.writer.reported.drop s.writer.reported.length
  noticeCount := after.writer.notices.length

def runPage (s : Session) (name : Text) (f : Page → Page) : Session × Report :=
  let i := s.number name
  let after := s.update i (f (s.page i))
  (after, s.report after name (.ok none) none)

def tryPage (s : Session) (name : Text) (f : Page → Except ListError Page) : Session × Report :=
  let i := s.number name
  match f (s.page i) with
  | .ok p =>
    let after := s.update i p
    (after, s.report after name (.ok none) none)
  | .error e => (s, s.report s name (.error e) none)

mutual

def step (s : Session) (name : Text) : Event → Session × Report
  | .create text =>
    let after := s.create name text
    (after, s.report after name (.ok none) none)
  | .write text => s.runPage name (·.write text)
  | .header =>
    let (after, report) := s.runPage name Page.header
    ({ after with document := some (s.number name) }, report)
  | .footer => s.runPage name Page.footer
  | .heading content level shown => s.runPage name (·.heading (fragment content shown) level)
  | .paragraph content tight shown => s.runPage name (·.paragraph (fragment content shown) tight)
  | .popList => s.tryPage name Page.closeList
  | .listItem source last => s.tryPage name (·.listItem (s.read source) last)
  | .literalBlock kind source => s.runPage name (literalText kind (s.read source))
  | .thematicBreak => s.runPage name Page.thematicBreak
  | .table => s.runPage name (·.notify [.table])
  | .footnotes => s.runPage name (·.notify [.footnoteDefinition])
  | .titleBlock => s.runPage name (·.notify [.titleBlock])
  | .span piece =>
    let (after, _) := s.runPage name (·.notify piece.notices)
    (after, s.report after name (.ok (some piece.render)) none)
  | .tag text => (s, s.report s name (.ok (some (s.writer.tag text))) none)
  | .list ordered body =>
    let opened := (s.runPage name (·.openList ordered)).1
    match opened.run body with
    | (after, .error e) => (after, s.report after name (.error e) none)
    | (after, .ok reports) =>
      match after.tryPage name Page.closeList with
      | (closed, { result := .error e, .. }) => (closed, s.report closed name (.error e) none)
      | (closed, _) => (closed, s.report closed name (.ok none) (some reports))

def run (s : Session) : List (Text × Event) → Session × Except ListError (List Report)
  | [] => (s, .ok [])
  | (name, event) :: rest =>
    match s.step name event with
    | (after, { result := .error e, .. }) => (after, .error e)
    | (after, report) =>
      match after.run rest with
      | (last, .ok reports) => (last, .ok (report :: reports))
      | (last, .error e) => (last, .error e)

end

def runAll (s : Session) : List (Text × Event) → Session × List Report
  | [] => (s, [])
  | (name, event) :: rest =>
    let (after, report) := s.step name event
    let (last, reports) := after.runAll rest
    (last, report :: reports)

def start (options : Options) (name : Text) : Session :=
  ({ writer := { options } } : Session).create name []

end Session
end HelpFile
