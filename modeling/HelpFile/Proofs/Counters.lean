import HelpFile.Proofs.Numbering
import Mathlib.Data.List.Induction
import Mathlib.Order.Bounds.Basic

/-!
# Counters of open and closed lists

Lists are opened, closed and numbered in any order, and a marker can be drawn from a list that was
closed long ago by whoever holds on to it. The innermost list is always the last one opened of those
not closed, and a list counts the markers drawn from itself and no others.
-/
namespace HelpFile.ListStack

inductive Operation where
  | push (kind : ListKind)
  | pop
  | peek
  | marker
  | held (i : Nat)

inductive Answer where
  | opened (i : Nat)
  | closed (i : Nat)
  | innermost (i : Nat)
  | drawn (i : Nat) (marker : Text)
  | nothing
  deriving DecidableEq

/-- An operation that fails leaves the lists as they are. Nobody holds a list that was never
opened. -/
def step (s : ListStack) : Operation → ListStack × Except ListError Answer
  | .push kind => (s.push kind, .ok (.opened s.contexts.length))
  | .pop =>
    match s.pop with
    | .ok (i, after) => (after, .ok (.closed i))
    | .error e => (s, .error e)
  | .peek => (s, s.peek.map .innermost)
  | .marker =>
    match s.draw with
    | .ok (marker, after) => (after, s.peek.map (.drawn · marker))
    | .error e => (s, .error e)
  | .held i =>
    if i < s.contexts.length then
      let (marker, after) := s.drawFrom i
      (after, .ok (.drawn i marker))
    else (s, .ok .nothing)

def run (s : ListStack) : List Operation → ListStack × List (Except ListError Answer)
  | [] => (s, [])
  | op :: ops =>
    let (after, answer) := s.step op
    let (last, answers) := after.run ops
    (last, answer :: answers)

theorem run_concat (s : ListStack) (ops : List Operation) (op : Operation) :
    s.run (ops ++ [op]) =
      (((s.run ops).1.step op).1, (s.run ops).2 ++ [((s.run ops).1.step op).2]) := by
  induction ops generalizing s with
  | nil => rfl
  | cons first ops ih =>
    have hrest := ih (s.step first).1
    simp only [List.cons_append, run, hrest]

def Operation.opens? : Operation → Option ListKind
  | push kind => some kind
  | pop | peek | marker | held _ => none

/-- The kinds of the lists that operations open, in order: a list has the number of its place. -/
def openedBy (ops : List Operation) : List ListKind := ops.filterMap Operation.opens?

def closes? : Except ListError Answer → Option Nat
  | .ok (.closed i) => some i
  | .ok (.opened _) | .ok (.innermost _) | .ok (.drawn ..) | .ok .nothing | .error _ => none

def draws? (i : Nat) : Except ListError Answer → Option Text
  | .ok (.drawn j marker) => if j = i then some marker else none
  | .ok (.opened _) | .ok (.closed _) | .ok (.innermost _) | .ok .nothing | .error _ => none

def closedIn (answers : List (Except ListError Answer)) : List Nat := answers.filterMap closes?

def drawnFrom (i : Nat) (answers : List (Except ListError Answer)) : List Text :=
  answers.filterMap (draws? i)

theorem filterMap_concat {α β : Type} (f : α → Option β) (l : List α) (a : α) :
    (l ++ [a]).filterMap f = l.filterMap f ++ (f a).toList := by
  rw [List.filterMap_append, List.filterMap_cons, List.filterMap_nil]
  cases f a <;> rfl

theorem closedIn_concat (answers : List (Except ListError Answer)) (a : Except ListError Answer) :
    closedIn (answers ++ [a]) = closedIn answers ++ (closes? a).toList := filterMap_concat ..

theorem drawnFrom_concat (i : Nat) (answers : List (Except ListError Answer))
    (a : Except ListError Answer) :
    drawnFrom i (answers ++ [a]) = drawnFrom i answers ++ (draws? i a).toList := filterMap_concat ..

theorem openedBy_concat (ops : List Operation) (op : Operation) :
    openedBy (ops ++ [op]) = openedBy ops ++ op.opens?.toList := filterMap_concat ..

def firstMarkers (kind : ListKind) (n : Nat) : List Text :=
  (List.range n).map fun k => itemMarker (kind = .ordered) (k + 1)

theorem firstMarkers_succ (kind : ListKind) (n : Nat) :
    firstMarkers kind (n + 1) = firstMarkers kind n ++ [itemMarker (kind = .ordered) (n + 1)] := by
  rw [firstMarkers, List.range_succ, List.map_append]
  rfl

theorem new_eq_numbered (kind : ListKind) :
    ({ kind } : ListContext) = .numbered (kind = .ordered) 1 := by
  cases kind <;> rfl

theorem step_held_of_numbered {s : ListStack} {i j : Nat} {ordered : Bool}
    (h : s.contexts[i]? = some (.numbered ordered j)) :
    s.step (.held i) = ({ s with contexts := s.contexts.set i (.numbered ordered (j + 1)) },
      .ok (.drawn i (itemMarker ordered j))) := by
  have hi : i < s.contexts.length := (List.getElem?_eq_some_iff.mp h).1
  simp only [step, if_pos hi, drawFrom, h, ListContext.marker_numbered,
    ListContext.advance_numbered]

theorem step_held_of_unknown {s : ListStack} {i : Nat} (h : ¬ i < s.contexts.length) :
    s.step (.held i) = (s, .ok .nothing) := if_neg h

theorem step_pop_of_open {s : ListStack} {i : Nat} {outer : List Nat}
    (h : s.openLists = i :: outer) :
    s.step .pop = ({ s with openLists := outer }, .ok (.closed i)) := by
  simp only [step, pop, h]

theorem step_peek_of_open {s : ListStack} {i : Nat} {outer : List Nat}
    (h : s.openLists = i :: outer) : s.step .peek = (s, .ok (.innermost i)) := by
  simp only [step, peek, h]
  rfl

/-- Drawing from the innermost list is drawing from the list itself. -/
theorem step_marker_of_open {s : ListStack} {i : Nat} {outer : List Nat}
    (h : s.openLists = i :: outer) (hi : i < s.contexts.length) :
    s.step .marker = s.step (.held i) := by
  simp only [step, draw, peek, h, if_pos hi]
  rfl

theorem step_of_none_open {s : ListStack} (h : s.openLists = []) :
    s.step .pop = (s, .error .closedNone) ∧ s.step .peek = (s, .error .itemOutside) ∧
      s.step .marker = (s, .error .itemOutside) := by
  simp only [step, pop, peek, draw, h]
  exact ⟨trivial, rfl, rfl⟩

/-- The lists after operations that opened lists of some kinds and gave some answers. -/
structure Follows (s : ListStack) (opened : List ListKind)
    (answers : List (Except ListError Answer)) : Prop where
  descending : s.openLists.Pairwise (· > ·)
  mem_open : ∀ i, i ∈ s.openLists ↔ i < opened.length ∧ i ∉ closedIn answers
  balance : s.openLists.length + (closedIn answers).length = opened.length
  known : s.contexts.length = opened.length
  closed_known : ∀ i ∈ closedIn answers, i < opened.length
  drawn_known : ∀ i, opened.length ≤ i → drawnFrom i answers = []
  counted : ∀ i kind, opened[i]? = some kind → ∃ n, drawnFrom i answers = firstMarkers kind n ∧
    s.contexts[i]? = some (.numbered (kind = .ordered) (n + 1))

theorem follows_start : ({} : ListStack).Follows [] [] where
  descending := .nil
  mem_open i := by simp
  balance := rfl
  known := rfl
  closed_known i hi := by simp [closedIn] at hi
  drawn_known _ _ := rfl
  counted i kind h := by simp at h

namespace Follows

variable {s : ListStack} {opened : List ListKind} {answers : List (Except ListError Answer)}

/-- An answer that neither closes a list nor draws from one. -/
theorem idle (h : s.Follows opened answers) {a : Except ListError Answer}
    (hc : closes? a = none) (hd : ∀ i, draws? i a = none) : s.Follows opened (answers ++ [a]) := by
  have hclosed : closedIn (answers ++ [a]) = closedIn answers := by
    rw [closedIn_concat, hc]
    exact List.append_nil _
  have hdrawn : ∀ i, drawnFrom i (answers ++ [a]) = drawnFrom i answers := by
    intro i
    rw [drawnFrom_concat, hd i]
    exact List.append_nil _
  exact {
    descending := h.descending
    mem_open := fun i => hclosed ▸ h.mem_open i
    balance := hclosed ▸ h.balance
    known := h.known
    closed_known := hclosed ▸ h.closed_known
    drawn_known := fun i hi => hdrawn i ▸ h.drawn_known i hi
    counted := fun i kind hk => hdrawn i ▸ h.counted i kind hk }

/-- A list that is opened has the highest number and no marker drawn from it. -/
theorem open_new (h : s.Follows opened answers) (kind : ListKind) :
    (s.push kind).Follows (opened ++ [kind]) answers := by
  have hlen : (opened ++ [kind]).length = opened.length + 1 := List.length_append
  have hlists : (s.push kind).openLists = opened.length :: s.openLists := by
    rw [push, h.known]
  constructor
  case descending =>
    rw [hlists]
    exact List.pairwise_cons.mpr ⟨fun i hi => ((h.mem_open i).mp hi).1, h.descending⟩
  case mem_open =>
    intro i
    -- Only numbers of opened lists are ever closed, so the new one is not among them.
    have hnew : opened.length ∉ closedIn answers := fun hc =>
      absurd (h.closed_known _ hc) (Nat.lt_irrefl _)
    rw [hlists, List.mem_cons, h.mem_open, hlen]
    constructor
    · rintro (rfl | ⟨hi, hc⟩)
      · exact ⟨Nat.lt_succ_self _, hnew⟩
      · exact ⟨Nat.lt_succ_of_lt hi, hc⟩
    · rintro ⟨hi, hc⟩
      rcases Nat.lt_succ_iff_lt_or_eq.mp hi with hi | rfl
      · exact Or.inr ⟨hi, hc⟩
      · exact Or.inl rfl
  case balance =>
    have := h.balance
    rw [hlists, hlen, List.length_cons]
    omega
  case known =>
    rw [push, List.length_append, hlen, h.known]
    rfl
  case closed_known =>
    intro i hi
    have := h.closed_known i hi
    omega
  case drawn_known =>
    intro i hi
    exact h.drawn_known i (by omega)
  case counted =>
    intro i k hk
    rw [push]
    by_cases hi : i < opened.length
    · rw [List.getElem?_append_left hi] at hk
      rw [List.getElem?_append_left (h.known ▸ hi)]
      exact h.counted i k hk
    · obtain rfl : i = opened.length := by
        have := (List.getElem?_eq_some_iff.mp hk).1
        omega
      rw [List.getElem?_concat_length] at hk
      obtain rfl := Option.some.inj hk
      refine ⟨0, h.drawn_known _ le_rfl, ?_⟩
      rw [← h.known, List.getElem?_concat_length, new_eq_numbered]

theorem close (h : s.Follows opened answers) {i : Nat} {outer : List Nat}
    (ho : s.openLists = i :: outer) :
    ({ s with openLists := outer } : ListStack).Follows opened (answers ++ [.ok (.closed i)]) := by
  have hclosed : closedIn (answers ++ [.ok (.closed i)]) = closedIn answers ++ [i] :=
    closedIn_concat _ _
  have hdrawn : ∀ j, drawnFrom j (answers ++ [.ok (.closed i)]) = drawnFrom j answers := fun j =>
    (drawnFrom_concat j _ _).trans (List.append_nil _)
  obtain ⟨hbelow, hdesc⟩ := List.pairwise_cons.mp (ho ▸ h.descending)
  have hmem := ho ▸ h.mem_open
  constructor
  case descending =>
    exact hdesc
  case mem_open =>
    intro j
    have hj : j = i ∨ j ∈ outer ↔ _ := List.mem_cons.symm.trans (hmem j)
    -- A list is open once only: what is below it has other numbers.
    have hne : j ∈ outer → j ≠ i := fun hm => (hbelow j hm).ne
    rw [hclosed, List.mem_append, List.mem_singleton, not_or, ← and_assoc, ← hj]
    constructor
    · exact fun hm => ⟨Or.inr hm, hne hm⟩
    · rintro ⟨rfl | hm, hne⟩
      · exact absurd rfl hne
      · exact hm
  case balance =>
    have := h.balance
    rw [ho, List.length_cons] at this
    rw [hclosed, List.length_append, List.length_singleton, ← this, Nat.add_right_comm]
    rfl
  case known =>
    exact h.known
  case closed_known =>
    intro j hj
    rw [hclosed, List.mem_append, List.mem_singleton] at hj
    rcases hj with hj | rfl
    · exact h.closed_known j hj
    · exact ((hmem j).mp List.mem_cons_self).1
  case drawn_known =>
    intro j hj
    exact (hdrawn j).trans (h.drawn_known j hj)
  case counted =>
    intro j kind hj
    rw [hdrawn]
    exact h.counted j kind hj

/-- Drawing from one list does not touch the others. -/
theorem draw (h : s.Follows opened answers) {i : Nat} (hi : i < opened.length) :
    (s.step (.held i)).1.Follows opened (answers ++ [(s.step (.held i)).2]) := by
  obtain ⟨n, hn, hc⟩ := h.counted i _ (List.getElem?_eq_getElem hi)
  rw [step_held_of_numbered hc]
  have hclosed : ∀ marker, closedIn (answers ++ [.ok (.drawn i marker)]) = closedIn answers :=
    fun _ => (closedIn_concat _ _).trans (List.append_nil _)
  have hother : ∀ j marker, i ≠ j →
      drawnFrom j (answers ++ [.ok (.drawn i marker)]) = drawnFrom j answers := by
    intro j marker hij
    rw [drawnFrom_concat, draws?, if_neg hij]
    exact List.append_nil _
  constructor
  case descending =>
    exact h.descending
  case mem_open =>
    intro j
    rw [hclosed]
    exact h.mem_open j
  case balance =>
    rw [hclosed]
    exact h.balance
  case known =>
    rw [List.length_set]
    exact h.known
  case closed_known =>
    rw [hclosed]
    exact h.closed_known
  case drawn_known =>
    intro j hj
    rw [hother j _ (by omega)]
    exact h.drawn_known j hj
  case counted =>
    intro j kind hj
    by_cases hij : i = j
    · subst hij
      rw [List.getElem?_eq_getElem hi] at hj
      obtain rfl := Option.some.inj hj
      refine ⟨n + 1, ?_, ?_⟩
      · rw [drawnFrom_concat, hn, firstMarkers_succ, draws?, if_pos rfl]
        rfl
      · exact List.getElem?_set_self (h.known ▸ hi)
    · rw [hother j _ hij, List.getElem?_set_ne hij]
      exact h.counted j kind hj

theorem step_of_opens_none (h : s.Follows opened answers) {op : Operation}
    (hop : op.opens? = none) :
    (s.step op).1.Follows opened (answers ++ [(s.step op).2]) := by
  cases op with
  | push kind => cases hop
  | pop =>
    cases ho : s.openLists with
    | nil =>
      rw [(step_of_none_open ho).1]
      exact h.idle rfl fun _ => rfl
    | cons i outer =>
      rw [step_pop_of_open ho]
      exact h.close ho
  | peek =>
    cases ho : s.openLists with
    | nil =>
      rw [(step_of_none_open ho).2.1]
      exact h.idle rfl fun _ => rfl
    | cons i outer =>
      rw [step_peek_of_open ho]
      exact h.idle rfl fun _ => rfl
  | marker =>
    cases ho : s.openLists with
    | nil =>
      rw [(step_of_none_open ho).2.2]
      exact h.idle rfl fun _ => rfl
    | cons i outer =>
      have hi : i < opened.length := ((h.mem_open i).mp (ho ▸ List.mem_cons_self)).1
      rw [step_marker_of_open ho (h.known ▸ hi)]
      exact h.draw hi
  | held i =>
    by_cases hi : i < opened.length
    · exact h.draw hi
    · rw [step_held_of_unknown (h.known ▸ hi)]
      exact h.idle rfl fun _ => rfl

theorem step (h : s.Follows opened answers) (op : Operation) :
    (s.step op).1.Follows (opened ++ op.opens?.toList) (answers ++ [(s.step op).2]) := by
  cases op with
  | push kind => exact (h.open_new kind).idle rfl fun _ => rfl
  | pop | peek | marker | held _ =>
    rw [Operation.opens?, Option.toList_none, List.append_nil]
    exact h.step_of_opens_none rfl

theorem openLists_eq_nil_iff (h : s.Follows opened answers) :
    s.openLists = [] ↔ (closedIn answers).length = opened.length := by
  have := h.balance
  rw [← List.length_eq_zero_iff]
  omega

/-- The innermost list is the last one opened of those that are not closed. -/
theorem isGreatest (h : s.Follows opened answers) {i : Nat} {outer : List Nat}
    (ho : s.openLists = i :: outer) :
    IsGreatest {j | j < opened.length ∧ j ∉ closedIn answers} i := by
  have hbelow := (List.pairwise_cons.mp (ho ▸ h.descending)).1
  have hmem := h.mem_open
  rw [ho] at hmem
  refine ⟨(hmem i).mp List.mem_cons_self, fun j hj => ?_⟩
  rcases List.mem_cons.mp ((hmem j).mpr hj) with rfl | hj
  · exact le_rfl
  · exact (hbelow j hj).le

end Follows

theorem follows_run (ops : List Operation) :
    (run {} ops).1.Follows (openedBy ops) (run {} ops).2 := by
  -- The last operation is split off, since it meets the lists that all before it left.
  induction ops using List.reverseRecOn with
  | nil => exact follows_start
  | append_singleton ops op ih =>
    rw [run_concat, openedBy_concat]
    exact ih.step op

/-- What a list has counted tells which markers were drawn from it and which one is next. -/
theorem Follows.exists_context {s : ListStack} {opened : List ListKind}
    {answers : List (Except ListError Answer)} (h : s.Follows opened answers) {i : Nat}
    {kind : ListKind} (hk : opened[i]? = some kind) :
    ∃ n c, drawnFrom i answers = firstMarkers kind n ∧
      (s.step (.held i)).2 = .ok (.drawn i (itemMarker (kind = .ordered) (n + 1))) ∧
      s.contexts[i]? = some c ∧ c.kind = kind ∧
      c.nextIndex = if kind = .ordered then n + 1 else 1 := by
  obtain ⟨n, hn, hc⟩ := h.counted i kind hk
  refine ⟨n, _, hn, ?_, hc, ?_⟩
  · rw [step_held_of_numbered hc]
  · cases kind with
    | ordered | unordered => exact ⟨rfl, rfl⟩

/-- Closing a list, reading the innermost one and drawing from it fail while none is open, and else
are about the last one opened of those not closed. The markers of a list are numbered from one,
whoever draws them. -/
theorem counters_apart (ops : List Operation) :
    let s := (run {} ops).1
    let answers := (run {} ops).2
    let opened := openedBy ops
    let closed := closedIn answers
    ((s.step .pop).2 = .error .closedNone ↔ closed.length = opened.length) ∧
    ((s.step .peek).2 = .error .itemOutside ↔ closed.length = opened.length) ∧
    (closed.length = opened.length →
      (s.step .pop).1 = s ∧ (s.step .peek).1 = s ∧ s.step .marker = (s, .error .itemOutside)) ∧
    (closed.length ≠ opened.length → ∃ i, IsGreatest {j | j < opened.length ∧ j ∉ closed} i ∧
      (s.step .pop).2 = .ok (.closed i) ∧ s.step .peek = (s, .ok (.innermost i)) ∧
      s.step .marker = s.step (.held i)) ∧
    ∀ i kind, opened[i]? = some kind → ∃ n c,
      drawnFrom i answers = firstMarkers kind n ∧
      (s.step (.held i)).2 = .ok (.drawn i (itemMarker (kind = .ordered) (n + 1))) ∧
      s.contexts[i]? = some c ∧ c.kind = kind ∧
      c.nextIndex = if kind = .ordered then n + 1 else 1 := by
  intro s answers opened closed
  have h : s.Follows opened answers := follows_run ops
  cases ho : s.openLists with
  | nil =>
    have hsame := h.openLists_eq_nil_iff.mp ho
    obtain ⟨hpop, hpeek, hmarker⟩ := step_of_none_open ho
    rw [hpop, hpeek]
    exact ⟨iff_of_true rfl hsame, iff_of_true rfl hsame, fun _ => ⟨rfl, rfl, hmarker⟩,
      fun hne => absurd hsame hne, fun _ _ hk => h.exists_context hk⟩
  | cons i outer =>
    have hne : closed.length ≠ opened.length := fun he => by
      simp [h.openLists_eq_nil_iff.mpr he] at ho
    have hgreatest := h.isGreatest ho
    have hmarker := step_marker_of_open ho (h.known ▸ hgreatest.1.1)
    rw [step_pop_of_open ho, step_peek_of_open ho]
    exact ⟨iff_of_false nofun hne, iff_of_false nofun hne, fun he => absurd he hne,
      fun _ => ⟨i, hgreatest, rfl, rfl, hmarker⟩, fun _ _ hk => h.exists_context hk⟩

/-- A list inside another, and both held after they are closed. -/
theorem counters_apart_when_closed :
    let ops := [.push .ordered, .marker, .push .unordered, .marker, .held 0, .pop, .marker, .held 1,
      .pop, .pop, .held 0]
    let s := (run {} ops).1
    let answers := (run {} ops).2
    ((closedIn answers).length = (openedBy ops).length ∧ (openedBy ops)[0]? = some .ordered) ∧
    ((s.step .pop).1 = s ∧ (s.step .peek).1 = s ∧ s.step .marker = (s, .error .itemOutside)) ∧
    (drawnFrom 0 answers).length = 4 ∧
    ∃ n c, drawnFrom 0 answers = firstMarkers .ordered n ∧
      (s.step (.held 0)).2 = .ok (.drawn 0 (itemMarker true (n + 1))) ∧
      s.contexts[0]? = some c ∧ c.kind = .ordered ∧ c.nextIndex = n + 1 := by
  intro ops s answers
  have hsame : (closedIn answers).length = (openedBy ops).length := by decide
  have hkind : (openedBy ops)[0]? = some .ordered := rfl
  obtain ⟨-, -, hfails, -, hcounted⟩ := counters_apart ops
  exact ⟨⟨hsame, hkind⟩, hfails hsame, by decide, hcounted 0 .ordered hkind⟩

end HelpFile.ListStack
