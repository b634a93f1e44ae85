import HelpFile.Writer.Session

/-!
# The moves of a session

A list event has a body that runs between its opening and its closing, and that may fail on the way.
Laid out flat, a run is a sequence of moves, each of which acts on one page: what holds after every
move holds after every event, inside lists as well.
-/
namespace HelpFile

/-- An event at the name of its buffer. A list event stands for its opening; it is closed by a pop.
-/
abbrev Move := Text × Event

namespace Session

def enter (s : Session) (m : Move) : Session :=
  match m.2 with
  | .list ordered _ => (s.runPage m.1 (·.openList ordered)).1
  | event => (s.step m.1 event).1

def play (s : Session) (moves : List Move) : Session := moves.foldl enter s

mutual

/-- The moves of one event. A list whose body fails is not closed. -/
def moves (s : Session) (name : Text) : Event → List Move
  | .list ordered body =>
    let opened := s.enter (name, .list ordered body)
    (name, .list ordered body) :: (opened.movesOf body ++
      match (opened.run body).2 with
      | .ok _ => [(name, .popList)]
      | .error _ => [])
  | event => [(name, event)]

def movesOf (s : Session) : List (Text × Event) → List Move
  | [] => []
  | (name, event) :: rest =>
    s.moves name event ++
      match (s.step name event).2.result with
      | .ok _ => (s.step name event).1.movesOf rest
      | .error _ => []

end

def movesOfAll (s : Session) : List (Text × Event) → List Move
  | [] => []
  | (name, event) :: rest => s.moves name event ++ (s.step name event).1.movesOfAll rest

@[simp] theorem play_nil (s : Session) : s.play [] = s := rfl

@[simp] theorem play_cons (s : Session) (m : Move) (rest : List Move) :
    s.play (m :: rest) = (s.enter m).play rest := rfl

@[simp] theorem play_append (s : Session) (before after : List Move) :
    s.play (before ++ after) = (s.play before).play after := List.foldl_append

def endList (s : Session) (name : Text) (ran : Session × Except ListError (List Report)) :
    Session × Report :=
  let closed := ran.1.tryPage name Page.closeList
  match ran.2, closed.2.result with
  | .error e, _ => (ran.1, s.report ran.1 name (.error e) none)
  | .ok _, .error e => (closed.1, s.report closed.1 name (.error e) none)
  | .ok reports, .ok _ => (closed.1, s.report closed.1 name (.ok none) (some reports))

theorem step_list (s : Session) (name : Text) (ordered : Bool) (body : List (Text × Event)) :
    s.step name (.list ordered body) =
      s.endList name ((s.enter (name, .list ordered body)).run body) := by
  have henter : s.enter (name, .list ordered body) = (s.runPage name (·.openList ordered)).1 := rfl
  rw [step, henter]
  rcases (s.runPage name (·.openList ordered)).1.run body with ⟨after, ran⟩
  cases ran with
  | error e => rfl
  | ok reports =>
    dsimp only [endList]
    rcases after.tryPage name Page.closeList with ⟨closed, ⟨result⟩⟩
    cases result <;> rfl

/-- Whether or not the list can be closed, its pop is the last move. -/
theorem endList_fst (s : Session) (name : Text)
    (ran : Session × Except ListError (List Report)) :
    (s.endList name ran).1 = ran.1.play (match ran.2 with
      | .ok _ => [(name, .popList)]
      | .error _ => []) := by
  obtain ⟨after, ran⟩ := ran
  cases ran with
  | error e => rfl
  | ok reports =>
    dsimp only [endList]
    cases (after.tryPage name Page.closeList).2.result <;> rfl

theorem run_cons (s : Session) (name : Text) (event : Event) (rest : List (Text × Event)) :
    s.run ((name, event) :: rest) =
      let (after, report) := s.step name event
      match report.result with
      | .error e => (after, .error e)
      | .ok _ => ((after.run rest).1, (after.run rest).2.map (report :: ·)) := by
  rw [run]
  rcases s.step name event with ⟨after, ⟨result⟩⟩
  cases result with
  | error e => rfl
  | ok answer =>
    dsimp only
    rcases after.run rest with ⟨last, ran⟩
    cases ran <;> rfl

mutual

theorem play_moves (s : Session) (name : Text) : (event : Event) →
    s.play (s.moves name event) = (s.step name event).1
  | .list ordered body => by
    rw [moves, step_list, endList_fst, play_cons, play_append, play_movesOf]
  | .create _ | .write _ | .header | .footer | .heading .. | .paragraph .. | .popList
  | .listItem .. | .literalBlock .. | .thematicBreak | .table | .footnotes | .titleBlock | .span _
  | .tag _ => rfl

theorem play_movesOf (s : Session) : (events : List (Text × Event)) →
    s.play (s.movesOf events) = (s.run events).1
  | [] => rfl
  | (name, event) :: rest => by
    rw [movesOf, run_cons, play_append, play_moves]
    dsimp only
    cases (s.step name event).2.result with
    | error e => rfl
    | ok answer => exact play_movesOf _ rest

end

theorem play_movesOfAll (s : Session) (events : List (Text × Event)) :
    s.play (s.movesOfAll events) = (s.runAll events).1 := by
  induction events generalizing s with
  | nil => rfl
  | cons e rest ih => rw [movesOfAll, play_append, play_moves, ih, runAll]

end Session
end HelpFile
