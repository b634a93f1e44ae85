import HelpFile.CommandLine.Arguments
import Mathlib.Data.List.Forall2

/-!
# One argument under two grammars

The grammar of the settings knows some of the options of the full one and no others. An argument
that the full grammar can classify, the grammar of the settings can classify as well: an option that
both know is the same option to both, and one that the full grammar alone knows is no option to the
other.
-/
namespace HelpFile.CommandLine

def Flag.configurable : Flag → Bool
  | cols | tabs | notoc | norules | pascal | desc => true
  | help | name | version => false

/-- Nothing but a value is attached to the flag, unless it asks for help. -/
def Found.Closed (found : Found) : Prop :=
  found.flag = .help ∨ found.flag.takesValue ∨ found.attached = [] ∨
    ∃ value, found.attached = '=' :: value

def Mark.found? : Mark → Option Found
  | option found => some found
  | plain _ | dashes | unknown _ => none

/-- What a mark of the full grammar is to the grammar of the settings. -/
inductive Counterpart : Mark → Mark → Prop where
  | same {m : Mark} : (∀ found, m = .option found → found.flag.configurable ∧ found.Closed) →
      Counterpart m m
  | foreign {found : Found} {m : Mark} : found.flag.configurable = false → found.Closed →
      m.found? = none → Counterpart (.option found) m

theorem Counterpart.of_none {m other : Mark} (h : Counterpart m other) (hm : m.found? = none) :
    other.found? = none := by
  cases h with
  | same => exact hm
  | foreign => cases hm

theorem Counterpart.eq_plain {value : Text} {other : Mark} (h : Counterpart (.plain value) other) :
    other = .plain value := by
  cases h
  rfl

namespace Grammar

theorem settings_spellings :
    settings.spellings = full.spellings.filter fun s => s.2.configurable := by decide

theorem mem_of_flag? {g : Grammar} {spelling : Text} {f : Flag} (h : g.flag? spelling = some f) :
    (spelling, f) ∈ g.spellings := by
  obtain ⟨before, after, hs, -⟩ := List.lookup_eq_some_iff.mp h
  rw [hs]
  exact List.mem_append_right _ List.mem_cons_self

/-- No spelling stands for two flags. -/
theorem flag?_of_mem {spelling : Text} {f : Flag} (h : (spelling, f) ∈ full.spellings) :
    full.flag? spelling = some f := by
  have hall : ∀ s ∈ full.spellings, full.flag? s.1 = some s.2 := by decide
  exact hall _ h

theorem settings_flag?_of_configurable {spelling : Text} {f : Flag}
    (h : full.flag? spelling = some f) (hf : f.configurable) :
    settings.flag? spelling = some f := by
  have hall : ∀ s ∈ full.spellings, s.2.configurable → settings.flag? s.1 = some s.2 := by decide
  exact hall _ (mem_of_flag? h) hf

theorem full_flag?_of_settings {spelling : Text} {f : Flag}
    (h : settings.flag? spelling = some f) : full.flag? spelling = some f ∧ f.configurable := by
  have hmem := mem_of_flag? h
  rw [settings_spellings, List.mem_filter] at hmem
  exact ⟨flag?_of_mem hmem.1, hmem.2⟩

theorem spelled?_eq_some_iff {g : Grammar} {argument : Text} {found : Found} :
    g.spelled? argument = some found ↔
      g.flag? (cutEquals argument).1 = some found.flag ∧
        found.attached = (cutEquals argument).2 := by
  obtain ⟨flag, attached⟩ := found
  simp only [spelled?, Option.map_eq_some_iff, Found.mk.injEq]
  constructor
  · rintro ⟨f, hf, rfl, rfl⟩
    exact ⟨hf, rfl⟩
  · rintro ⟨hf, rfl⟩
    exact ⟨flag, hf, rfl, rfl⟩

theorem completions_settings (argument : Text) :
    settings.completions argument =
      (full.completions argument).filter fun c => c.2.flag.configurable := by
  unfold completions
  split <;>
    simp only [settings_spellings, List.filter_map, List.filter_filter, Function.comp_def,
      Bool.and_comm]

theorem cutEquals_append (argument : Text) :
    (cutEquals argument).1 ++ (cutEquals argument).2 = argument :=
  List.takeWhile_append_dropWhile

theorem cutEquals_snd (argument : Text) :
    (cutEquals argument).2 = [] ∨ ∃ value, (cutEquals argument).2 = '=' :: value := by
  cases h : (cutEquals argument).2 with
  | nil => exact Or.inl rfl
  | cons c value =>
    have hc : argument.dropWhile (· != '=') = c :: value := h
    have hhead := List.head?_dropWhile_not (· != '=') argument
    rw [hc] at hhead
    simp at hhead
    exact Or.inr ⟨value, by rw [hhead]⟩

theorem closed_of_spelled? {g : Grammar} {argument : Text} {found : Found}
    (h : g.spelled? argument = some found) : found.Closed := by
  have hattached := (spelled?_eq_some_iff.mp h).2
  rcases cutEquals_snd argument with hn | ⟨value, hv⟩
  · exact Or.inr (Or.inr (Or.inl (hattached.trans hn)))
  · exact Or.inr (Or.inr (Or.inr ⟨value, hattached.trans hv⟩))

/-- Short spellings stand for flags that take a value, but for that of help. -/
theorem closed_of_completion {argument spelling : Text} {found : Found}
    (h : (spelling, found) ∈ full.completions argument) : found.Closed := by
  unfold completions at h
  split at h
  · obtain ⟨_, -, hc⟩ := List.mem_map.mp h
    obtain ⟨rfl, rfl⟩ := Prod.mk.inj hc
    rcases cutEquals_snd argument with hn | ⟨value, hv⟩
    · exact Or.inr (Or.inr (Or.inl hn))
    · exact Or.inr (Or.inr (Or.inr ⟨value, hv⟩))
  · obtain ⟨⟨short, flag⟩, hs, hc⟩ := List.mem_map.mp h
    obtain ⟨rfl, rfl⟩ := Prod.mk.inj hc
    obtain ⟨hmem, htake⟩ := List.mem_filter.mp hs
    have hlen : short.length ≤ 2 := by
      have hshort : short = argument.take 2 := of_decide_eq_true htake
      rw [hshort]
      exact List.length_take_le _ _
    have hshort : ∀ s ∈ full.spellings, s.1.length ≤ 2 → s.2 = .help ∨ s.2.takesValue := by decide
    exact (hshort _ hmem hlen).imp_right Or.inl

theorem spelled?_settings {argument : Text} {found : Found}
    (h : full.spelled? argument = some found) :
    settings.spelled? argument = if found.flag.configurable then some found else none := by
  obtain ⟨hflag, hattached⟩ := spelled?_eq_some_iff.mp h
  split
  · next hc =>
    exact spelled?_eq_some_iff.mpr ⟨settings_flag?_of_configurable hflag hc, hattached⟩
  · next hc =>
    refine Option.eq_none_iff_forall_ne_some.mpr fun other ho => hc ?_
    obtain ⟨hfull, hother⟩ := full_flag?_of_settings (spelled?_eq_some_iff.mp ho).1
    rw [hflag] at hfull
    rwa [Option.some.inj hfull]

theorem spelled?_settings_none {argument : Text} (h : full.spelled? argument = none) :
    settings.spelled? argument = none := by
  refine Option.eq_none_iff_forall_ne_some.mpr fun found hf => ?_
  obtain ⟨hflag, hattached⟩ := spelled?_eq_some_iff.mp hf
  have hfull := spelled?_eq_some_iff.mpr ⟨(full_flag?_of_settings hflag).1, hattached⟩
  rw [h] at hfull
  cases hfull

theorem isLong_iff (argument : Text) : isLong argument ↔ argument.take 2 = ['-', '-'] := by
  match argument with
  | [] => decide
  | [c] => rcases eq_or_ne '-' c with rfl | hc <;> simp [isLong, Text.startsWith, Text.after?, *]
  | c :: d :: rest =>
    rcases eq_or_ne '-' c with rfl | hc
    · rcases eq_or_ne '-' d with rfl | hd
      · simp [isLong, Text.startsWith, Text.after?]
      · simp [isLong, Text.startsWith, Text.after?, hd, hd.symm]
    · simp [isLong, Text.startsWith, Text.after?, hc, hc.symm]

/-- A spelling that the full grammar alone knows is no beginning of one that both know. -/
theorem completions_settings_foreign {argument : Text} {found : Found}
    (h : full.spelled? argument = some found) (hf : found.flag.configurable = false) :
    settings.completions argument = [] := by
  have hforeign : ∀ s ∈ full.spellings, s.2.configurable = false →
      (∀ t ∈ settings.spellings, ¬ Text.startsWith s.1 t.1) ∧ 2 ≤ s.1.length ∧
      (s.1.take 2 = ['-', '-'] ∨ ∀ t ∈ settings.spellings, t.1 ≠ s.1.take 2) := by decide
  obtain ⟨hstart, hlen, hshort⟩ :=
    hforeign _ (mem_of_flag? (spelled?_eq_some_iff.mp h).1) hf
  have htake : argument.take 2 = (cutEquals argument).1.take 2 := by
    conv_lhs => rw [← cutEquals_append argument]
    exact List.take_append_of_le_length hlen
  unfold completions
  split
  · simpa using hstart
  · next hn =>
    rw [isLong_iff, htake] at hn
    simpa [htake] using hshort.resolve_left hn

def bare (argument : Text) : Mark :=
  if isNegativeNumber argument || argument.any (· == ' ') then .plain argument
  else .unknown argument

theorem found?_bare (argument : Text) : (bare argument).found? = none := by
  unfold bare
  split <;> rfl

section
variable {g : Grammar} {argument : Text}
  (hp : ¬ (!Text.startsWith ['-'] argument || decide (argument = ['-'])) = true)
include hp

theorem classify_spelled {found : Found} (hs : g.spelled? argument = some found) :
    g.classify argument = .ok (.option found) := by
  rw [classify, if_neg hp, hs]

theorem classify_completed (hs : g.spelled? argument = none) {c : Text × Found}
    (hc : g.completions argument = [c]) : g.classify argument = .ok (.option c.2) := by
  rw [classify, if_neg hp, hs, hc]

theorem classify_bare (hs : g.spelled? argument = none) (hc : g.completions argument = []) :
    g.classify argument = .ok (bare argument) := by
  simp only [classify, if_neg hp, hs, hc, bare]
  split <;> rfl

end

/-- Both grammars classify what the full one does. -/
theorem classify_settings {argument : Text} {mark : Mark} (h : full.classify argument = .ok mark) :
    ∃ other, settings.classify argument = .ok other ∧ Counterpart mark other := by
  by_cases hp : (!Text.startsWith ['-'] argument || decide (argument = ['-'])) = true
  · rw [classify, if_pos hp] at h
    cases h
    exact ⟨.plain argument, if_pos hp, .same (by simp)⟩
  cases hs : full.spelled? argument with
  | some found =>
    rw [classify_spelled hp hs] at h
    cases h
    have hclosed := closed_of_spelled? hs
    have hother := spelled?_settings hs
    cases hc : found.flag.configurable with
    | true =>
      rw [if_pos hc] at hother
      exact ⟨_, classify_spelled hp hother, .same (by rintro _ ⟨⟩; exact ⟨hc, hclosed⟩)⟩
    | false =>
      -- A foreign option is nothing that the settings could be short for, either.
      rw [if_neg (by simp [hc])] at hother
      have hnone := completions_settings_foreign hs hc
      exact ⟨_, classify_bare hp hother hnone, .foreign hc hclosed (found?_bare argument)⟩
  | none =>
    have hother := spelled?_settings_none hs
    have hcompletions := completions_settings argument
    cases hc : full.completions argument with
    | nil =>
      rw [classify_bare hp hs hc] at h
      cases h
      rw [hc] at hcompletions
      refine ⟨_, classify_bare hp hother hcompletions, .same fun found hf => ?_⟩
      have hnone := found?_bare argument
      rw [hf] at hnone
      cases hnone
    | cons c more =>
      cases more with
      | nil =>
        rw [classify_completed hp hs hc] at h
        cases h
        have hclosed : c.2.Closed := closed_of_completion (hc ▸ List.mem_singleton_self c)
        rw [hc] at hcompletions
        cases hf : c.2.flag.configurable with
        | true =>
          have hone : settings.completions argument = [c] := by simpa [hf] using hcompletions
          exact ⟨_, classify_completed hp hother hone, .same (by rintro _ ⟨⟩; exact ⟨hf, hclosed⟩)⟩
        | false =>
          have hnone : settings.completions argument = [] := by simpa [hf] using hcompletions
          exact ⟨_, classify_bare hp hother hnone, .foreign hf hclosed (found?_bare argument)⟩
      | cons d rest =>
        rw [classify, if_neg hp, hs, hc] at h
        cases h

theorem classifyAll_settings {arguments : List Text} {marks : List Mark}
    (h : full.classifyAll arguments = .ok marks) :
    ∃ others, settings.classifyAll arguments = .ok others ∧
      List.Forall₂ Counterpart marks others := by
  induction arguments generalizing marks with
  | nil =>
    cases h
    exact ⟨[], rfl, .nil⟩
  | cons argument rest ih =>
    rw [classifyAll] at h ⊢
    split at h
    · next hd =>
      cases h
      rw [if_pos hd]
      refine ⟨_, rfl, List.forall₂_same.mpr fun m hm => .same ?_⟩
      rintro found rfl
      simp at hm
    · next hd =>
      rw [if_neg hd]
      cases hm : full.classify argument with
      | error e =>
        rw [hm] at h
        cases h
      | ok mark =>
        cases hr : full.classifyAll rest with
        | error e =>
          rw [hm, hr] at h
          cases h
        | ok more =>
          rw [hm, hr] at h
          cases h
          obtain ⟨other, ho, hmark⟩ := classify_settings hm
          obtain ⟨others, hall, hmore⟩ := ih hr
          rw [ho, hall]
          exact ⟨_, rfl, .cons hmark hmore⟩

end Grammar
end HelpFile.CommandLine
