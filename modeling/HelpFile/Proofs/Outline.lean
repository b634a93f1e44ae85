import HelpFile.Proofs.Contents
import HelpFile.Proofs.Session.Invariant
import Mathlib.Data.List.Induction
import Mathlib.Order.Bounds.Basic

/-!
# Where headings are placed

Of headings added one after another the root keeps the run of deeper ones behind the first. The
current heading is the last one that is at or above all in front of it, and has everything behind it
below. Only the first heading and those at or above its level are reported.
-/
namespace HelpFile

def Heading.leaf (h : Text × Int) : Heading := .node h.1 h.2 []

namespace Outline

def addAll (o : Outline) : List (Text × Int) → Outline × List (Option HeadingProblem)
  | [] => (o, [])
  | h :: rest =>
    let (placed, problem) := o.add h.1 h.2
    let (last, problems) := placed.addAll rest
    (last, problem :: problems)

def AtRoot : Outline → Prop
  | rooted _ => True
  | empty | detached .. => False

/-- The `i`-th heading is at or above every heading in front of it. -/
def Topmost (headings : List (Text × Int)) (i : Nat) : Prop :=
  ∃ h, headings[i]? = some h ∧ ∀ g ∈ headings.take i, h.2 ≤ g.2

theorem fst_addAll (o : Outline) (headings : List (Text × Int)) :
    (o.addAll headings).1 = o.placeAll (headings.map Heading.leaf) := by
  induction headings generalizing o with
  | nil => rfl
  | cons h rest ih => exact ih _

theorem problem?_of_root {o : Outline} {root : Heading} (hr : o.root? = some root) (text : Text)
    (level : Int) : o.problem? text level =
      if level ≤ root.level then some (.notBelowRoot text level root.text root.level) else none := by
  cases o with
  | empty => cases hr
  | rooted | detached =>
    cases hr
    rfl

/-- What is wrong with later headings depends on the root alone, whose text and level stay. -/
theorem snd_addAll {o : Outline} {root : Heading} (hr : o.root? = some root)
    (headings : List (Text × Int)) : (o.addAll headings).2 = headings.map fun h =>
      if h.2 ≤ root.level then some (.notBelowRoot h.1 h.2 root.text root.level) else none := by
  induction headings generalizing o root with
  | nil => rfl
  | cons h rest ih =>
    obtain ⟨kept, hk, htext, hlevel⟩ := root?_place hr (Heading.leaf h)
    have hrest := ih hk
    rw [htext, hlevel] at hrest
    rw [List.map_cons, ← problem?_of_root hr, ← hrest]
    rfl

theorem place_above {o : Outline} {current : Heading} (hc : o.current? = some current)
    {h : Heading} (hl : h.level ≤ current.level) :
    (o.place h).current? = some h ∧ ¬ (o.place h).AtRoot := by
  cases o with
  | empty => cases hc
  | rooted | detached =>
    cases hc
    rw [place, if_pos hl]
    exact ⟨rfl, id⟩

theorem place_below {o : Outline} {current : Heading} (hc : o.current? = some current)
    {h : Heading} (hl : ¬ h.level ≤ current.level) :
    (o.place h).current? = some (current.addChild h) ∧ ((o.place h).AtRoot ↔ o.AtRoot) := by
  cases o with
  | empty => cases hc
  | rooted | detached =>
    cases hc
    rw [place, if_neg hl]
    exact ⟨rfl, Iff.rfl⟩

theorem topmost_lt {headings : List (Text × Int)} {i : Nat} (h : Topmost headings i) :
    i < headings.length := by
  obtain ⟨g, hg, -⟩ := h
  exact (List.getElem?_eq_some_iff.mp hg).1

theorem topmost_concat_iff (headings : List (Text × Int)) (h : Text × Int) (i : Nat) :
    Topmost (headings ++ [h]) i ↔
      Topmost headings i ∨ i = headings.length ∧ ∀ g ∈ headings, h.2 ≤ g.2 := by
  constructor
  · intro ht
    have hi := topmost_lt ht
    rw [List.length_append, List.length_singleton] at hi
    obtain ⟨g, hg, habove⟩ := ht
    by_cases hlast : i = headings.length
    · right
      rw [hlast, List.getElem?_concat_length] at hg
      rw [hlast, List.take_left, ← Option.some.inj hg] at habove
      exact ⟨hlast, habove⟩
    · left
      have hlt : i < headings.length := by omega
      rw [List.getElem?_append_left hlt] at hg
      rw [List.take_append_of_le_length hlt.le] at habove
      exact ⟨g, hg, habove⟩
  · rintro (ht | ⟨rfl, habove⟩)
    · have hi := topmost_lt ht
      obtain ⟨g, hg, habove⟩ := ht
      refine ⟨g, ?_, ?_⟩
      · rw [List.getElem?_append_left hi, hg]
      · rw [List.take_append_of_le_length hi.le]
        exact habove
    · exact ⟨h, List.getElem?_concat_length, by rwa [List.take_left]⟩

structure Tracks (o : Outline) (headings : List (Text × Int)) (m : Nat) : Prop where
  greatest : IsGreatest {i | Topmost headings i} m
  lowest : ∃ h, headings[m]? = some h ∧ (∀ g ∈ headings, h.2 ≤ g.2) ∧
    o.current? = some (.node h.1 h.2 ((headings.drop (m + 1)).map Heading.leaf))
  atRoot : o.AtRoot ↔ m = 0

theorem tracks_first (h : Text × Int) : (rooted (Heading.leaf h)).Tracks [h] 0 := by
  refine ⟨⟨⟨h, rfl, by simp⟩, ?_⟩, ⟨h, rfl, by simp, rfl⟩, iff_of_true trivial rfl⟩
  intro i hi
  have := topmost_lt hi
  rw [List.length_singleton] at this
  omega

/-- One more heading either becomes the last topmost one or goes below it. -/
theorem tracks_place {o : Outline} {headings : List (Text × Int)} {m : Nat}
    (ht : o.Tracks headings m) (h : Text × Int) :
    ∃ k, (o.place (Heading.leaf h)).Tracks (headings ++ [h]) k := by
  obtain ⟨⟨hm, hmax⟩, ⟨c, hc, hlow, hcurrent⟩, hroot⟩ := ht
  have hlt := topmost_lt hm
  -- `c` is the lowest level so far: a heading at or above it is at or above all of them.
  by_cases hl : h.2 ≤ c.2
  · obtain ⟨hnew, hleft⟩ := place_above (h := Heading.leaf h) hcurrent hl
    have hall : ∀ g ∈ headings, h.2 ≤ g.2 := fun g hg => Int.le_trans hl (hlow g hg)
    refine ⟨headings.length, ⟨?_, ?_⟩, ⟨h, List.getElem?_concat_length, ?_, ?_⟩, ?_⟩
    · exact (topmost_concat_iff headings h _).mpr (Or.inr ⟨rfl, hall⟩)
    · intro i hi
      have := topmost_lt hi
      rw [List.length_append, List.length_singleton] at this
      omega
    · intro g hg
      rcases List.mem_append.mp hg with hg | hg
      · exact hall g hg
      · rw [List.mem_singleton.mp hg]
    · rw [hnew, List.drop_eq_nil_of_le (by simp)]
      rfl
    · exact iff_of_false hleft (by omega)
  · obtain ⟨hnew, hsame⟩ := place_below (h := Heading.leaf h) hcurrent hl
    refine ⟨m, ⟨?_, ?_⟩, ⟨c, ?_, ?_, ?_⟩, hsame.trans hroot⟩
    · exact (topmost_concat_iff headings h m).mpr (Or.inl hm)
    · intro i hi
      rcases (topmost_concat_iff headings h i).mp hi with hi | ⟨-, habove⟩
      · exact hmax hi
      · exact absurd (habove c (List.mem_of_getElem? hc)) hl
    · rw [List.getElem?_append_left hlt, hc]
    · intro g hg
      rcases List.mem_append.mp hg with hg | hg
      · exact hlow g hg
      · rw [List.mem_singleton.mp hg]
        omega
    · rw [hnew, List.drop_append_of_le_length hlt, List.map_append]
      rfl

theorem exists_tracks (first : Text × Int) (rest : List (Text × Int)) :
    ∃ m, (empty.placeAll ((first :: rest).map Heading.leaf)).Tracks (first :: rest) m := by
  induction rest using List.reverseRecOn with
  | nil => exact ⟨0, tracks_first first⟩
  | append_singleton rest h ih =>
    obtain ⟨m, hm⟩ := ih
    obtain ⟨k, hk⟩ := tracks_place hm h
    refine ⟨k, ?_⟩
    rw [← List.cons_append, List.map_append, placeAll, List.foldl_append]
    exact hk

theorem over_leaves (first : Text × Int) (rest : List (Text × Int)) :
    (Heading.leaf first).over (rest.map Heading.leaf) =
      .node first.1 first.2 ((rest.takeWhile fun h => first.2 < h.2).map Heading.leaf) := by
  rw [Heading.over, List.takeWhile_map]
  rfl

/-- Headings added to an empty outline: what the root and the current heading are and have below
them, and what is reported. -/
theorem addAll_empty (first : Text × Int) (rest : List (Text × Int)) :
    let headings := first :: rest
    ∃ o problems m current, empty.addAll headings = (o, problems) ∧
      o.root? = some (.node first.1 first.2
        ((rest.takeWhile fun h => first.2 < h.2).map Heading.leaf)) ∧
      IsGreatest {i | Topmost headings i} m ∧
      headings[m]? = some current ∧
      o.current? = some (.node current.1 current.2
        ((headings.drop (m + 1)).map Heading.leaf)) ∧
      (o.AtRoot ↔ m = 0) ∧
      problems = (if first.2 = 1 then none else some (.topLevel first.1 first.2)) ::
        rest.map fun h =>
          if h.2 ≤ first.2 then some (.notBelowRoot h.1 h.2 first.1 first.2) else none := by
  intro headings
  obtain ⟨m, hgreatest, ⟨current, hm, -, hcurrent⟩, hroot⟩ := exists_tracks first rest
  have hplaced := fst_addAll empty headings
  refine ⟨(empty.addAll headings).1, (empty.addAll headings).2, m, current, rfl, ?_, hgreatest, hm,
    hplaced ▸ hcurrent, hplaced ▸ hroot, ?_⟩
  · rw [hplaced, List.map_cons, root?_placeAll, over_leaves]
  · have hfirst : (rooted (Heading.leaf first)).root? = some (Heading.leaf first) := rfl
    exact congrArg _ (snd_addAll hfirst rest)

example : (empty.addAll [(['a'], 2), (['b'], 3), (['c'], 1), (['d'], 2)]).1 =
    detached (.node ['a'] 2 [.node ['b'] 3 []]) (.node ['c'] 1 [.node ['d'] 2 []]) := rfl

end Outline
end HelpFile
