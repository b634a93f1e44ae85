import HelpFile.Proofs.CommandLine.Reading

/-!
# Precedence of settings

A setting has the value given last on the command line, else that of the configuration, else its
default. Whether it was given is told by the reading for the settings alone, and never by the value,
so a default that is given holds against a configuration.
-/
namespace HelpFile

namespace Setting

def default : (s : Setting) → s.Value
  | cols => (80 : Int)
  | tabs => (4 : Int)
  | notoc | norules | pascal => false
  | desc => ([] : Text)

theorem mem_all (s : Setting) : s ∈ all := by
  cases s <;> decide

end Setting

def Settings.value? (config : Settings) : (s : Setting) → Option s.Value
  | .cols => config.cols
  | .tabs => config.tabs
  | .notoc => config.notoc
  | .norules => config.norules
  | .pascal => config.pascal
  | .desc => config.desc

namespace CommandLine

def Given.value? : Given → (s : Setting) → Option s.Value
  | .cols n, .cols => some n
  | .tabs n, .tabs => some n
  | .notoc, .notoc => some true
  | .norules, .norules => some true
  | .pascal, .pascal => some true
  | .desc text, .desc => some text
  | _, _ => none

theorem Given.value?_isSome_iff (o : Given) (s : Setting) :
    (o.value? s).isSome ↔ o.setting? = some s := by
  cases o <;> cases s <;> simp [Given.value?, Given.setting?]

namespace Arguments

def value (a : Arguments) : (s : Setting) → s.Value
  | .cols => a.cols
  | .tabs => a.tabs
  | .notoc => a.notoc
  | .norules => a.norules
  | .pascal => a.pascal
  | .desc => a.desc

theorem value_apply (a : Arguments) (o : Given) (s : Setting) :
    (a.apply o).value s = (o.value? s).getD (a.value s) := by
  cases o <;> cases s <;> rfl

/-- Of several options for one setting the last one holds. -/
theorem value_foldl_apply (a : Arguments) (options : List Given) (s : Setting) :
    (options.foldl apply a).value s =
      (options.filterMap (·.value? s)).getLast?.getD (a.value s) := by
  induction options generalizing a with
  | nil => rfl
  | cons o rest ih =>
    rw [List.foldl_cons, ih, value_apply, List.filterMap_cons]
    cases o.value? s with
    | none => rfl
    | some v => rw [List.getLast?_cons, Option.getD_some, Option.getD_some]

/-- The places have no part in the settings. -/
theorem value_ofReading (r : Reading) (s : Setting) :
    (ofReading r).value s = (r.options.filterMap (·.value? s)).getLast?.getD s.default := by
  unfold ofReading
  rw [value_foldl_apply]
  congr 1
  split <;> cases s <;> rfl

theorem mem_explicitIn_iff (r : Reading) (s : Setting) :
    s ∈ explicitIn r ↔ ∃ o ∈ r.options, o.setting? = some s := by
  simp [explicitIn, Setting.mem_all]

theorem value_merge (a : Arguments) (explicit : List Setting) (config : Settings) (s : Setting) :
    (a.merge explicit config).value s =
      if s ∈ explicit then a.value s else (config.value? s).getD (a.value s) := by
  cases s <;> simp only [merge, merge.pick, value, Settings.value?, List.contains_iff_mem]

theorem filterMap_value?_eq_nil_iff {options : List Given} {s : Setting} :
    options.filterMap (·.value? s) = [] ↔ ¬ ∃ o ∈ options, o.setting? = some s := by
  rw [List.filterMap_eq_nil_iff]
  simp only [← Given.value?_isSome_iff, not_exists, not_and, Option.not_isSome_iff_eq_none]

/-- The reading for the settings alone finds the settings that the full one gives. -/
theorem mem_explicitIn_filter (r given : Reading)
    (h : given.options = r.options.filter fun o => o.setting?.isSome) (s : Setting) :
    s ∈ explicitIn given ↔ ∃ o ∈ r.options, o.setting? = some s := by
  rw [mem_explicitIn_iff, h]
  constructor
  · rintro ⟨o, ho, hs⟩
    exact ⟨o, List.mem_of_mem_filter ho, hs⟩
  · rintro ⟨o, ho, hs⟩
    exact ⟨o, List.mem_filter.mpr ⟨ho, by rw [hs]; rfl⟩, hs⟩

theorem value_merge_ofReading (r : Reading) (explicit : List Setting) (config : Settings)
    (s : Setting) (h : s ∈ explicit ↔ ∃ o ∈ r.options, o.setting? = some s) :
    ((ofReading r).merge explicit config).value s =
      ((r.options.filterMap (·.value? s)).getLast?.or (config.value? s)).getD s.default := by
  rw [value_merge, value_ofReading]
  cases hg : r.options.filterMap (·.value? s) with
  | nil =>
    have hn : s ∉ explicit := fun hs => filterMap_value?_eq_nil_iff.mp hg (h.mp hs)
    rw [if_neg hn]
    rfl
  | cons v more =>
    have hs : s ∈ explicit := by
      by_contra hn
      rw [h, ← filterMap_value?_eq_nil_iff, hg] at hn
      cases hn
    rw [if_pos hs, List.getLast?_cons]
    rfl

/-- A command line that is accepted is accepted by the reading for the settings alone, which finds
the settings for which an option was acted on. Merged with a configuration, every setting has the
value given last on the command line, else that of the configuration, else its default; the rest of
what the command line asks for stays. -/
theorem parse_merge {arguments : List Text} {r : Reading}
    (hr : Grammar.full.read arguments = .ok r) (hl : r.leftover = []) :
    ∃ given explicit, Grammar.settings.read arguments = .ok given ∧ explicit = explicitIn given ∧
      parse arguments = .ok (ofReading r, explicit) ∧
      (∀ s, s ∈ explicit ↔ ∃ o ∈ r.options, o.setting? = some s) ∧
      ∀ config : Settings, ∃ merged, merged = (ofReading r).merge explicit config ∧
        (∀ s, merged.value s =
          ((r.options.filterMap (·.value? s)).getLast?.or (config.value? s)).getD s.default) ∧
        merged.input = (ofReading r).input ∧ merged.output = (ofReading r).output ∧
        merged.name = (ofReading r).name ∧ merged.version = (ofReading r).version := by
  obtain ⟨given, hg, ho⟩ := Grammar.read_settings hr
  have hexplicit := mem_explicitIn_filter r given ho
  refine ⟨given, _, hg, rfl, ?_, hexplicit, fun config => ⟨_, rfl, fun s => ?_, rfl, rfl, rfl, rfl⟩⟩
  · simp [parse, hr, hl, hg, bind, Except.bind, pure, Except.pure]
  · exact value_merge_ofReading r _ config s (hexplicit s)

/-- A default that is given holds and the last of two widths does; what is the value of an option,
or stands behind the two dashes, gives no setting. -/
theorem parse_merge_repeated :
    let arguments := ["--cols=100", "-n", "-5", "-c80", "a.md", "--", "--notoc"].map String.toList
    ∃ a explicit, parse arguments = .ok (a, explicit) ∧ Setting.cols ∈ explicit ∧
      Setting.notoc ∉ explicit ∧ ∀ config : Settings, ∃ merged,
        merged = a.merge explicit config ∧ merged.cols = 80 ∧ merged.tabs = config.tabs.getD 4 ∧
        merged.notoc = config.notoc.getD false ∧ merged.input = some "a.md".toList ∧
        merged.output = "--notoc".toList ∧ merged.name = some "-5".toList := by
  let r : Reading :=
    { options := [.cols 100, .name "-5".toList, .cols 80]
      positionals := [some "a.md".toList, some "--notoc".toList] }
  have hr : Grammar.full.read
      (["--cols=100", "-n", "-5", "-c80", "a.md", "--", "--notoc"].map String.toList) = .ok r := rfl
  obtain ⟨given, explicit, -, -, hparse, hexplicit, hmerge⟩ := parse_merge hr rfl
  have hnotoc : ¬ ∃ o ∈ r.options, o.setting? = some .notoc := by decide
  refine ⟨ofReading r, explicit, hparse, (hexplicit .cols).mpr (by decide),
    fun h => hnotoc ((hexplicit .notoc).mp h), fun config => ?_⟩
  obtain ⟨merged, hmerged, hvalue, hinput, houtput, hname, -⟩ := hmerge config
  exact ⟨merged, hmerged, hvalue .cols, hvalue .tabs, hvalue .notoc, hinput, houtput, hname⟩

end Arguments
end CommandLine
end HelpFile
