import HelpFile.Proofs.CommandLine.Classification
import Mathlib.Data.List.Infix
import Mathlib.Data.List.TakeWhile

/-!
# The options that a reading gives

Of the marks of a command line only the options and their values decide what options are given. The
places of the plain arguments and what is left over have no part in it, so the grammar of the
settings gives what the full one gives, less the options that it does not know.
-/
namespace HelpFile.CommandLine

theorem bind_eq_ok {ε α β : Type} {x : Except ε α} {f : α → Except ε β} {b : β} :
    x >>= f = .ok b ↔ ∃ a, x = .ok a ∧ f a = .ok b := by
  cases x with
  | error e => simp [bind, Except.bind]
  | ok a => simp [bind, Except.bind]

theorem mapError_eq_ok {ε ε' α : Type} {f : ε → ε'} {x : Except ε α} {a : α} :
    x.mapError f = .ok a ↔ x = .ok a := by
  cases x <;> simp [Except.mapError]

theorem map_eq_ok {ε α β : Type} {f : α → β} {x : Except ε α} {b : β} :
    x.map f = .ok b ↔ ∃ a, x = .ok a ∧ f a = b := by
  cases x <;> simp [Except.map]

namespace Grammar

/-- The options that marks give: each takes its value, and what is no option is passed over. -/
inductive Gives (g : Grammar) : List Mark → List Given → Prop where
  | nil : g.Gives [] []
  | pass {m : Mark} {rest : List Mark} {given : List Given} :
      m.found? = none → g.Gives rest given → g.Gives (m :: rest) given
  | option {found : Found} {rest : List Mark} {u : Unfolding} {given more : List Given} :
      g.unfold found.flag found.attached rest = .ok u →
      u.options.mapM (fun (f, value) => g.given f value) = .ok given →
      g.Gives u.rest more → g.Gives (.option found :: rest) (given ++ more)

theorem gives_nil_iff {g : Grammar} {given : List Given} : g.Gives [] given ↔ given = [] := by
  constructor
  · intro h
    cases h
    rfl
  · rintro rfl
    exact .nil

theorem gives_pass_iff {g : Grammar} {m : Mark} (hm : m.found? = none) {rest : List Mark}
    {given : List Given} : g.Gives (m :: rest) given ↔ g.Gives rest given := by
  constructor
  · intro h
    cases h with
    | pass _ h => exact h
    | option => cases hm
  · exact .pass hm

theorem gives_append_iff {g : Grammar} {passed rest : List Mark}
    (hp : ∀ m ∈ passed, m.found? = none) {given : List Given} :
    g.Gives (passed ++ rest) given ↔ g.Gives rest given := by
  induction passed with
  | nil => rfl
  | cons m passed ih =>
    obtain ⟨hm, hp⟩ := List.forall_mem_cons.mp hp
    rw [List.cons_append, gives_pass_iff hm, ih hp]

theorem gives_option_iff {g : Grammar} {found : Found} {rest : List Mark} {given : List Given} :
    g.Gives (.option found :: rest) given ↔ ∃ u first more,
      g.unfold found.flag found.attached rest = .ok u ∧
      u.options.mapM (fun (f, value) => g.given f value) = .ok first ∧
      g.Gives u.rest more ∧ given = first ++ more := by
  constructor
  · intro h
    cases h with
    | pass hm => cases hm
    | option hu hg hr => exact ⟨_, _, _, hu, hg, hr, rfl⟩
  · rintro ⟨u, first, more, hu, hg, hr, rfl⟩
    exact .option hu hg hr

theorem length_rest_separate {g : Grammar} {f : Flag} {rest : List Mark} {u : Unfolding}
    (h : g.separate f rest = .ok u) : u.rest.length ≤ rest.length := by
  unfold separate at h
  split at h
  · cases h
    exact Nat.le_refl _
  · split at h
    · cases h
      exact Nat.le_succ _
    · cases h

/-- A value is all that an option takes of the marks behind it. -/
theorem length_rest_unfold {g : Grammar} {f : Flag} {attached : Text} {rest : List Mark}
    {u : Unfolding} (h : g.unfold f attached rest = .ok u) : u.rest.length ≤ rest.length := by
  fun_induction Grammar.unfold g f attached rest generalizing u with
  | case1 => exact length_rest_separate h
  | case2 | case4 | case6 =>
    cases h
    exact Nat.le_refl _
  | case3 | case5 => cases h
  | case7 _ _ more _ _ _ next _ ih =>
    obtain ⟨v, hv, rfl⟩ := map_eq_ok.mp h
    have hrest : v.rest.length ≤ rest.length := ih hv
    exact hrest

/-- The places take marks that are no options. -/
theorem takePlace_suffix (marks : List Mark) :
    ∃ taken, marks = taken ++ (takePlace marks).2 ∧ ∀ m ∈ taken, m.isOption = false := by
  unfold takePlace
  split
  · exact ⟨[.dashes, .plain _], rfl, by simp [Mark.isOption]⟩
  · exact ⟨[.dashes], rfl, by simp [Mark.isOption]⟩
  · exact ⟨[.plain _, .dashes], rfl, by simp [Mark.isOption]⟩
  · exact ⟨[.plain _], rfl, by simp [Mark.isOption]⟩
  · exact ⟨[], rfl, by simp⟩

theorem fillPlaces_suffix (places : Nat) (marks : List Mark) :
    ∃ taken, marks = taken ++ (fillPlaces places marks).2 ∧ ∀ m ∈ taken, m.isOption = false := by
  induction places generalizing marks with
  | zero => exact ⟨[], rfl, by simp⟩
  | succ places ih =>
    obtain ⟨taken, ht, hp⟩ := takePlace_suffix marks
    obtain ⟨more, hm, hq⟩ := ih (takePlace marks).2
    refine ⟨taken ++ more, ?_, fun m h => (List.mem_append.mp h).elim (hp m) (hq m)⟩
    rw [List.append_assoc, fillPlaces, ← hm, ← ht]

theorem found?_of_isOption {m : Mark} (h : m.isOption = false) : m.found? = none := by
  cases m with
  | plain | dashes => rfl
  | option | unknown => cases h

theorem drop_length_takeWhile {α : Type} (p : α → Bool) (l : List α) :
    l.drop (l.takeWhile p).length = l.dropWhile p :=
  List.append_cancel_left ((List.prefix_append_drop (List.takeWhile_prefix p)).symm.trans
    List.takeWhile_append_dropWhile.symm)

/-- One step on marks that begin with no option passes over these and leaves the options alone. -/
theorem act_plain {g : Grammar} {m : Mark} (hm : m.isOption = false) (steps places : Nat)
    (r : Reading) (rest : List Mark) : ∃ taken last r', m :: rest = taken ++ last ∧
    (∀ t ∈ taken, t.found? = none) ∧ last.length ≤ rest.length ∧ r'.options = r.options ∧
    g.act (steps + 1) places r (m :: rest) = g.act steps 0 r' last := by
  obtain ⟨taken, ht, hp⟩ := fillPlaces_suffix places (m :: rest)
  let filled := fillPlaces places (m :: rest)
  let extra := filled.2.takeWhile (!·.isOption)
  let last := filled.2.dropWhile (!·.isOption)
  let r' : Reading := { r with
    positionals := r.positionals ++ filled.1
    leftover := r.leftover ++ extra.map Mark.text }
  have hact : g.act (steps + 1) places r (m :: rest) = g.act steps 0 r' last := by
    have hlast : filled.2.drop extra.length = last := drop_length_takeWhile _ _
    rw [← hlast]
    cases m with
    | option | unknown => cases hm
    | plain | dashes => rfl
  have hsplit : m :: rest = (taken ++ extra) ++ last := by
    rw [List.append_assoc, List.takeWhile_append_dropWhile]
    exact ht
  have hpassed : ∀ t ∈ taken ++ extra, t.isOption = false := by
    intro t h
    rcases List.mem_append.mp h with h | h
    · exact hp t h
    · simpa using List.mem_takeWhile_imp h
  refine ⟨taken ++ extra, last, r', hsplit, fun t h => found?_of_isOption (hpassed t h), ?_, rfl,
    hact⟩
  cases hn : taken ++ extra with
  | nil =>
    -- The marks behind begin with an option, so the first mark is passed.
    rw [hn, List.nil_append] at hsplit
    have hfirst : filled.2.dropWhile (!·.isOption) = m :: rest := hsplit.symm
    have hhead := List.head?_dropWhile_not (!·.isOption) filled.2
    rw [hfirst] at hhead
    simp [hm] at hhead
  | cons first more =>
    rw [hn] at hsplit
    have hlen := congrArg List.length hsplit
    simp only [List.length_cons, List.length_append] at hlen
    omega

/-- The options of a reading are those that the marks give, and no more steps are needed than there
are marks. -/
theorem act_options_iff {g : Grammar} {steps places : Nat} {r : Reading} {marks : List Mark}
    {options : List Given} (hlen : marks.length ≤ steps) :
    (∃ r', g.act steps places r marks = .ok r' ∧ r'.options = options) ↔
      ∃ given, g.Gives marks given ∧ options = r.options ++ given := by
  -- On the steps. Each passes at least one mark, so what is left never outnumbers them.
  induction steps generalizing places r marks with
  | zero =>
    obtain rfl := List.length_eq_zero_iff.mp (Nat.le_zero.mp hlen)
    simp [act, gives_nil_iff, eq_comm]
  | succ steps ih =>
    cases marks with
    | nil => simp [act, gives_nil_iff, eq_comm]
    | cons m rest =>
      have hrest : rest.length ≤ steps := Nat.le_of_succ_le_succ hlen
      by_cases hm : m.isOption = false
      · obtain ⟨taken, last, r', hsplit, hpassed, hlast, hoptions, hact⟩ :=
          act_plain (g := g) hm steps places r rest
        rw [hact, hsplit, ih (hlast.trans hrest), hoptions]
        simp only [gives_append_iff hpassed]
      · cases m with
        | plain | dashes => exact absurd rfl hm
        | unknown a =>
          rw [act, ih hrest]
          simp only [gives_pass_iff (m := .unknown a) rfl]
        | option found =>
          rw [act]
          simp only [bind_eq_ok, mapError_eq_ok, gives_option_iff]
          constructor
          · rintro ⟨r', ⟨u, hu, first, hfirst, hact⟩, ho⟩
            have hu' := (length_rest_unfold hu).trans hrest
            obtain ⟨more, hmore, rfl⟩ := (ih hu').mp ⟨r', hact, ho⟩
            exact ⟨_, ⟨u, first, more, hu, hfirst, hmore, rfl⟩, List.append_assoc ..⟩
          · rintro ⟨_, ⟨u, first, more, hu, hfirst, hmore, rfl⟩, rfl⟩
            have hu' := (length_rest_unfold hu).trans hrest
            let next : Reading :=
              { r with options := r.options ++ first, leftover := r.leftover ++ u.leftover }
            have hnext : r.options ++ (first ++ more) = next.options ++ more :=
              (List.append_assoc ..).symm
            obtain ⟨r', hact, ho⟩ := (ih hu').mpr ⟨more, hmore, hnext⟩
            exact ⟨r', ⟨u, hu, first, hfirst, hact⟩, ho⟩

theorem read_options_iff {g : Grammar} {arguments : List Text} {options : List Given} :
    (∃ r, g.read arguments = .ok r ∧ r.options = options) ↔
      ∃ marks, g.classifyAll arguments = .ok marks ∧ g.Gives marks options := by
  simp only [read, bind_eq_ok, mapError_eq_ok]
  constructor
  · rintro ⟨r, ⟨marks, hm, hact⟩, ho⟩
    obtain ⟨given, hg, rfl⟩ := (act_options_iff (Nat.le_refl _)).mp ⟨r, hact, ho⟩
    exact ⟨marks, hm, hg⟩
  · rintro ⟨marks, hm, hg⟩
    obtain ⟨r, hact, ho⟩ := (act_options_iff (r := {}) (Nat.le_refl _)).mpr ⟨options, hg, rfl⟩
    exact ⟨r, ⟨marks, hm, hact⟩, ho⟩

/-- The one value of an option that was found: its own text, or the next plain argument. No grammar
has a say in it. -/
inductive Takes (found : Found) (value : Text) : List Mark → List Mark → Prop where
  | own {rest : List Mark} :
      (∀ (g : Grammar) (marks : List Mark), g.unfold found.flag found.attached marks =
        .ok { options := [(found.flag, value)], rest := marks }) → Takes found value rest rest
  | next {rest : List Mark} :
      (∀ (g : Grammar) (marks : List Mark),
        g.unfold found.flag found.attached (.plain value :: marks) =
          .ok { options := [(found.flag, value)], rest := marks }) →
      Takes found value (.plain value :: rest) rest

theorem takes_of_unfold {g : Grammar} {found : Found} (hc : found.Closed) (hh : found.flag ≠ .help)
    {rest : List Mark} {u : Unfolding} (h : g.unfold found.flag found.attached rest = .ok u) :
    ∃ value, u.options = [(found.flag, value)] ∧ Takes found value rest u.rest := by
  obtain ⟨f, attached⟩ := found
  cases attached with
  | nil =>
    simp only [Grammar.unfold, separate] at h
    split at h
    · next hv =>
      cases h
      exact ⟨[], rfl, .own fun g marks => by simp only [Grammar.unfold, separate, if_pos hv]⟩
    · next hv =>
      split at h
      · next value rest =>
        cases h
        exact ⟨value, rfl, .next fun g marks => by simp only [Grammar.unfold, separate, if_neg hv]⟩
      · cases h
  | cons c more =>
    by_cases he : c = '='
    · subst he
      simp only [Grammar.unfold] at h
      split at h
      · next hv =>
        cases h
        exact ⟨more, rfl, .own fun g marks => by simp only [Grammar.unfold, if_pos hv]⟩
      · cases h
    · have hv : f.takesValue = true := by
        rcases hc with hc | hc | hc | ⟨value, hc⟩
        · exact absurd hc hh
        · exact hc
        · cases hc
        · exact absurd (List.cons.inj hc).1 he
      have hown : ∀ (g : Grammar) (marks : List Mark), g.unfold f (c :: more) marks =
          .ok { options := [(f, c :: more)], rest := marks } := by
        intro g marks
        rw [Grammar.unfold, if_pos hv]
        exact he
      rw [hown] at h
      cases h
      exact ⟨c :: more, rfl, .own hown⟩

/-- Unfolding an option that asks for help begins with that. -/
theorem unfold_help {g : Grammar} {attached : Text} {rest : List Mark} {u : Unfolding}
    (h : g.unfold .help attached rest = .ok u) : ∃ more, u.options = (.help, []) :: more := by
  unfold Grammar.unfold at h
  split at h
  · cases h
    exact ⟨[], rfl⟩
  · cases h
  · rw [if_neg (by decide)] at h
    split at h
    · cases h
    · split at h
      · cases h
        exact ⟨[], rfl⟩
      · obtain ⟨v, -, rfl⟩ := map_eq_ok.mp h
        exact ⟨v.options, rfl⟩

theorem number_eq_ok {g : Grammar} {f : Flag} {value : Text} {n : Int} :
    given.number g f value = .ok n ↔ Text.readInt? value = some n := by
  unfold given.number
  cases Text.readInt? value <;> simp

/-- What a configuration can set comes of the flags that it can set. -/
theorem isSome_setting? {g : Grammar} {f : Flag} {value : Text} {o : Given}
    (h : g.given f value = .ok o) : o.setting?.isSome = f.configurable := by
  cases f with
  | help => cases h
  | cols | tabs =>
    obtain ⟨n, -, rfl⟩ := map_eq_ok.mp h
    rfl
  | name | notoc | norules | pascal | desc | version =>
    cases h
    rfl

/-- Grammars differ in the titles of the options that they find fault with, and in nothing that
they give. -/
theorem given_eq {g : Grammar} (g' : Grammar) {f : Flag} {value : Text} {o : Given}
    (h : g.given f value = .ok o) : g'.given f value = .ok o := by
  cases f with
  | help => cases h
  | cols | tabs =>
    obtain ⟨n, hn, rfl⟩ := map_eq_ok.mp h
    exact map_eq_ok.mpr ⟨n, number_eq_ok.mpr (number_eq_ok.mp hn), rfl⟩
  | name | notoc | norules | pascal | desc | version => exact h

theorem mapM_given_singleton {g : Grammar} {f : Flag} {value : Text} {given : List Given} :
    [(f, value)].mapM (fun (f, value) => g.given f value) = .ok given ↔
      ∃ o, g.given f value = .ok o ∧ given = [o] := by
  simp only [List.mapM_cons, List.mapM_nil, bind_eq_ok, pure, Except.pure, Except.ok.injEq]
  grind

/-- An option that gives something asks for no help and gives one thing. -/
theorem one_of_unfold {g : Grammar} {found : Found} (hc : found.Closed) {rest : List Mark}
    {u : Unfolding} (hu : g.unfold found.flag found.attached rest = .ok u) {given : List Given}
    (hg : u.options.mapM (fun (f, value) => g.given f value) = .ok given) :
    ∃ value o, Takes found value rest u.rest ∧ g.given found.flag value = .ok o ∧ given = [o] := by
  by_cases hh : found.flag = .help
  · rw [hh] at hu
    obtain ⟨more, hmore⟩ := unfold_help hu
    rw [hmore, List.mapM_cons] at hg
    cases hg
  · obtain ⟨value, ho, ht⟩ := takes_of_unfold hc hh hu
    rw [ho] at hg
    obtain ⟨o, hgiven, hone⟩ := mapM_given_singleton.mp hg
    exact ⟨value, o, ht, hgiven, hone⟩

/-- An option that both grammars know gives the same to both. -/
theorem gives_known {g : Grammar} {found : Found} {value : Text} {o : Given}
    {rest last others : List Mark} (hm : List.Forall₂ Counterpart rest others)
    (ht : Takes found value rest last) (ho : g.given found.flag value = .ok o) {more : List Given}
    (hmore : ∀ others, List.Forall₂ Counterpart last others → g.Gives others more) :
    g.Gives (.option found :: others) (o :: more) := by
  have hone := mapM_given_singleton.mpr ⟨o, ho, rfl⟩
  cases ht with
  | own hu => exact Gives.option (hu g others) hone (hmore others hm)
  | next hu =>
    obtain ⟨plain, others, hp, hlast, rfl⟩ := List.forall₂_cons_left_iff.mp hm
    obtain rfl := hp.eq_plain
    exact Gives.option (hu g others) hone (hmore others hlast)

/-- An option that a grammar does not know is passed over with its value. -/
theorem gives_unknown {g : Grammar} {found : Found} {value : Text} {m : Mark}
    (hn : m.found? = none) {rest last others : List Mark}
    (hm : List.Forall₂ Counterpart rest others) (ht : Takes found value rest last)
    {more : List Given}
    (hmore : ∀ others, List.Forall₂ Counterpart last others → g.Gives others more) :
    g.Gives (m :: others) more := by
  cases ht with
  | own => exact .pass hn (hmore others hm)
  | next =>
    obtain ⟨plain, others, hp, hlast, rfl⟩ := List.forall₂_cons_left_iff.mp hm
    exact .pass hn (.pass (hp.of_none rfl) (hmore others hlast))

/-- The grammar of the settings gives what the full one gives, less what no configuration sets. -/
theorem gives_settings {marks others : List Mark} (hm : List.Forall₂ Counterpart marks others)
    {given : List Given} (h : full.Gives marks given) :
    settings.Gives others (given.filter fun o => o.setting?.isSome) := by
  induction h generalizing others with
  | nil =>
    cases hm
    exact .nil
  | pass hn _ ih =>
    obtain ⟨other, others, hother, hrest, rfl⟩ := List.forall₂_cons_left_iff.mp hm
    exact .pass (hother.of_none hn) (ih hrest)
  | @option found rest u given more hu hg _ ih =>
    obtain ⟨other, others, hother, hrest, rfl⟩ := List.forall₂_cons_left_iff.mp hm
    cases hother with
    | same hs =>
      obtain ⟨hf, hc⟩ := hs found rfl
      obtain ⟨value, o, ht, ho, rfl⟩ := one_of_unfold hc hu hg
      rw [List.singleton_append, List.filter_cons, if_pos ((isSome_setting? ho).trans hf)]
      exact gives_known hrest ht (given_eq settings ho) fun _ => ih
    | foreign hf hc hn =>
      obtain ⟨value, o, ht, ho, rfl⟩ := one_of_unfold hc hu hg
      have hnone : ¬ o.setting?.isSome = true := by simp [isSome_setting? ho, hf]
      rw [List.singleton_append, List.filter_cons, if_neg hnone]
      exact gives_unknown hn hrest ht fun _ => ih

/-- Whatever the full grammar reads the grammar of the settings reads too, and gives the same
settings. -/
theorem read_settings {arguments : List Text} {r : Reading} (h : full.read arguments = .ok r) :
    ∃ given, settings.read arguments = .ok given ∧
      given.options = r.options.filter fun o => o.setting?.isSome := by
  obtain ⟨marks, hm, hg⟩ := read_options_iff.mp ⟨r, h, rfl⟩
  obtain ⟨others, ho, hall⟩ := classifyAll_settings hm
  exact read_options_iff.mpr ⟨others, ho, gives_settings hall hg⟩

end Grammar
end HelpFile.CommandLine
