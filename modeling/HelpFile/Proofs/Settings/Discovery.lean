import HelpFile.Proofs.FileTree
import HelpFile.Settings.Discovery
import Mathlib.Tactic.Common

/-!
# Failures of finding and loading a configuration

The walk for a configuration passes over project files without a section of this program. It takes
what a project file has under `tool` for a table, and what stands there under the name of this
program for another. Where these are something else, the walk or the loading fails; nothing else can
fail but a value of the wrong type.
-/
namespace HelpFile.Config
open Toml (Table Value)

inductive Standing where
  | absent
  | present
  /-- Something other than a table of settings in a table. -/
  | askew
  deriving DecidableEq

/-- How the section stands in what is under `tool`. It is absent only if its name cannot be found:
in a table as a key, in a string as a part, in an array as an element. -/
def standing : Value → Standing
  | .table tools =>
    match Table.get? tools sectionKey with
    | none => .absent
    | some (.table _) => .present
    | some _ => .askew
  | .string text => if Text.hasPart sectionKey text then .askew else .absent
  | .array values => if values.any (isString sectionKey) then .askew else .absent
  | _ => .askew

/-- What a project file has under `tool`; nothing counts as an empty table. -/
def toolOf (t : Table) : Value := (t.get? toolKey).getD (.table [])

def standingAt? (tree : FileTree) (file : Location) : Option Standing := do
  let octets ← tree.file? file
  let text ← (textOf octets).toOption
  let t ← Toml.read? text
  return standing (toolOf t)

/-- The walk goes on behind a place where no file is, and behind a project file that is not valid
TOML or has no section. -/
def Passed (tree : FileTree) (file : Location) : Prop :=
  tree.file? file = none ∨
    file.getLast? = some projectFile ∧
      (standingAt? tree file = none ∨ standingAt? tree file = some .absent)

def Askew (tree : FileTree) (file : Location) : Prop :=
  file.getLast? = some projectFile ∧ standingAt? tree file = some .askew

instance (tree : FileTree) (file : Location) : Decidable (Askew tree file) :=
  inferInstanceAs (Decidable (_ ∧ _))

inductive Reaches (tree : FileTree) : List Location → Location → Prop where
  | here (file rest) : Reaches tree (file :: rest) file
  | further {file rest target} : Passed tree file → Reaches tree rest target →
      Reaches tree (file :: rest) target

def Loads (tree : FileTree) (file : Location) : Prop :=
  ∃ octets, tree.file? file = some octets ∧
    ((∃ settings, (load file octets).2 = .ok settings) ∨
      ∃ e, (load file octets).2 = .error (.type e))

def Succeeds (tree : FileTree) (files : List Location) : Prop :=
  ∃ found, findAmong tree files = .ok found ∧ ∀ file, found = some file → Loads tree file

/-! ## The section of a project file -/

section Section
variable {t : Table}

theorem hasSection_of_absent {tool : Value} (h : standing tool = .absent) :
    hasSection tool = .ok false := by
  cases tool with
  | table tools =>
    cases hget : Table.get? tools sectionKey with
    | none => simp [hasSection, hget]
    | some value => cases value <;> simp [standing, hget] at h
  | string text => simpa [standing, hasSection] using h
  | array values => simpa [standing, hasSection] using h
  | _ => simp [standing] at h

theorem standing_eq_present_iff {tool : Value} :
    standing tool = .present ↔ ∃ tools entries, tool = .table tools ∧
      Table.get? tools sectionKey = some (.table entries) := by
  constructor
  · intro h
    cases tool with
    | table tools =>
      cases hget : Table.get? tools sectionKey with
      | none => simp [standing, hget] at h
      | some value => cases value <;> simp_all [standing]
    | string text => simp only [standing] at h; split at h <;> cases h
    | array values => simp only [standing] at h; split at h <;> cases h
    | _ => cases h
  · rintro ⟨tools, entries, rfl, hget⟩
    simp [standing, hget]

theorem settingsTable_of_project (t : Table) :
    settingsTable true t = match toolOf t with
      | .table tools =>
        match (Table.get? tools sectionKey).getD (.table []) with
        | .table entries => .ok entries
        | value => .error (.sectionNotTable value)
      | tool => .error (.toolNotTable tool) := rfl

theorem hasSection_of_present (h : standing (toolOf t) = .present) :
    hasSection (toolOf t) = .ok true ∧ ∃ entries, settingsTable true t = .ok entries := by
  obtain ⟨tools, entries, htool, hget⟩ := standing_eq_present_iff.mp h
  simp [settingsTable_of_project, hasSection, htool, hget]

/-- If a section that is askew is found at all, it cannot be loaded. -/
theorem hasSection_of_askew (h : standing (toolOf t) = .askew) :
    (∃ e, hasSection (toolOf t) = .error e) ∨
      hasSection (toolOf t) = .ok true ∧
        ∃ e, settingsTable true t = .error e ∧ ∀ cause, e ≠ .type cause := by
  rw [settingsTable_of_project]
  cases htool : toolOf t with
  | table tools =>
    rw [htool] at h
    cases hget : Table.get? tools sectionKey with
    | none => simp [standing, hget] at h
    | some value => cases value <;> simp_all [standing, hasSection]
  | string text => simp_all [standing, hasSection]
  | array values => simp_all [standing, hasSection]
  | _ => simp [hasSection]

end Section

/-! ## One place of the walk -/

section Place
variable {tree : FileTree} {file : Location} {octets : List UInt8} {text : Text} {t : Table}

theorem textOf_of_textual (htree : tree.Textual) (hfile : tree.file? file = some octets) :
    ∃ text, Config.textOf octets = .ok text := by
  obtain ⟨text, htext⟩ := htree file octets hfile
  exact ⟨Text.unifyLineEnds text, by simp [Config.textOf, htext]⟩

theorem isUsable_of_project (hfile : tree.file? file = some octets)
    (hname : file.getLast? = some projectFile) (htext : textOf octets = .ok text) :
    isUsable tree file = match Toml.read? text with
      | none => .ok false
      | some t => hasSection (toolOf t) := by
  have hproject : isUsable tree file = isProjectConfig octets := by simp [isUsable, hfile, hname]
  rw [hproject, isProjectConfig, htext]
  rfl

theorem load_of_table (htext : textOf octets = .ok text) (ht : Toml.read? text = some t) :
    (load file octets).2 = (settingsTable (file.getLast? == some projectFile) t).bind fun entries =>
      (Settings.ofTable entries).2.mapError .type := by
  simp only [load, htext, ht]
  cases settingsTable (file.getLast? == some projectFile) t <;> rfl

/-- The settings of a table are read, or one of them is of the wrong type. -/
theorem loads_of_settingsTable (hfile : tree.file? file = some octets)
    (htext : textOf octets = .ok text) (ht : Toml.read? text = some t) {entries : Table}
    (h : settingsTable (file.getLast? == some projectFile) t = .ok entries) : Loads tree file := by
  refine ⟨octets, hfile, ?_⟩
  rw [load_of_table htext ht, h]
  cases hread : (Settings.ofTable entries).2 with
  | ok settings => exact .inl ⟨settings, by simp [Except.bind, Except.mapError, hread]⟩
  | error e => exact .inr ⟨e, by simp [Except.bind, Except.mapError, hread]⟩

theorem standingAt?_eq (hfile : tree.file? file = some octets) (htext : textOf octets = .ok text) :
    standingAt? tree file = (Toml.read? text).map fun t => standing (toolOf t) := by
  simp only [standingAt?, hfile, Option.bind_eq_bind, Option.bind_some, htext, Except.toOption]
  cases Toml.read? text <;> rfl

theorem isUsable_of_passed (htree : tree.Textual) (h : Passed tree file) :
    isUsable tree file = .ok false := by
  cases hfile : tree.file? file with
  | none => simp [isUsable, hfile]
  | some octets =>
    obtain ⟨hname, hstanding⟩ := h.resolve_left (by simp [hfile])
    obtain ⟨text, htext⟩ := textOf_of_textual htree hfile
    rw [standingAt?_eq hfile htext] at hstanding
    rw [isUsable_of_project hfile hname htext]
    cases ht : Toml.read? text with
    | none => rfl
    | some t => exact hasSection_of_absent (by simpa [ht] using hstanding)

theorem usable_of_project (htree : tree.Textual) (hname : file.getLast? = some projectFile)
    (hpassed : ¬ Passed tree file) (haskew : ¬ Askew tree file) :
    isUsable tree file = .ok true ∧ Loads tree file := by
  obtain ⟨octets, hfile⟩ := Option.ne_none_iff_exists'.mp (not_or.mp hpassed).1
  obtain ⟨text, htext⟩ := textOf_of_textual htree hfile
  simp only [Passed, Askew, hfile, hname, standingAt?_eq hfile htext] at hpassed haskew
  cases ht : Toml.read? text with
  | none => simp [ht] at hpassed
  | some t =>
    have hpresent : standing (toolOf t) = .present := by
      cases hstanding : standing (toolOf t) <;> simp_all
    obtain ⟨hfound, entries, hentries⟩ := hasSection_of_present hpresent
    refine ⟨by simp [isUsable_of_project hfile hname htext, ht, hfound], ?_⟩
    exact loads_of_settingsTable hfile htext ht (by simpa [hname] using hentries)

/-- A configuration that is no project file is used and loaded as a whole. -/
theorem usable_of_not_project (htree : tree.Textual) (hname : file.getLast? ≠ some projectFile)
    (hfile : tree.file? file = some octets) : isUsable tree file = .ok true ∧ Loads tree file := by
  obtain ⟨text, htext⟩ := textOf_of_textual htree hfile
  refine ⟨by simp [isUsable, hfile, hname], ?_⟩
  cases ht : Toml.read? text with
  | none => exact ⟨octets, hfile, .inl ⟨{}, by simp [load, htext, ht]⟩⟩
  | some t =>
    have hentries : settingsTable (file.getLast? == some projectFile) t = .ok t := by
      simp [hname, settingsTable]
    exact loads_of_settingsTable hfile htext ht hentries

theorem fails_of_askew (htree : tree.Textual) (h : Askew tree file) :
    (∃ e, isUsable tree file = .error e) ∨ isUsable tree file = .ok true ∧ ¬ Loads tree file := by
  obtain ⟨hname, hstanding⟩ := h
  obtain ⟨octets, hfile⟩ : ∃ octets, tree.file? file = some octets := by
    cases hfile : tree.file? file with
    | none => simp [standingAt?, hfile] at hstanding
    | some octets => exact ⟨octets, rfl⟩
  obtain ⟨text, htext⟩ := textOf_of_textual htree hfile
  rw [standingAt?_eq hfile htext] at hstanding
  obtain ⟨t, ht, haskew⟩ := Option.map_eq_some_iff.mp hstanding
  simp only [isUsable_of_project hfile hname htext, ht]
  refine (hasSection_of_askew haskew).imp_right fun ⟨hfound, e, he, hcause⟩ => ⟨hfound, ?_⟩
  rintro ⟨octets', hfile', hload⟩
  obtain rfl : octets = octets' := by simpa [hfile] using hfile'
  have hfails : (load file octets).2 = .error e := by
    rw [load_of_table htext ht]
    simp [hname, he, Except.bind]
  obtain ⟨settings, hok⟩ | ⟨cause, herror⟩ := hload
  · simp [hfails] at hok
  · exact hcause cause (by simpa [hfails] using herror)

end Place

/-! ## The whole walk -/

section Walk
variable {tree : FileTree} {file : Location} {rest : List Location}

theorem findAmong_cons_of_unusable (h : isUsable tree file = .ok false) :
    findAmong tree (file :: rest) = findAmong tree rest := by
  simp [findAmong, h, bind, Except.bind]

theorem findAmong_cons_of_usable (h : isUsable tree file = .ok true) :
    findAmong tree (file :: rest) = .ok (some file) := by
  simp [findAmong, h, bind, Except.bind, pure, Except.pure]

theorem findAmong_cons_of_error {e : ConfigError} (h : isUsable tree file = .error e) :
    findAmong tree (file :: rest) = .error e := by
  simp [findAmong, h, bind, Except.bind]

theorem succeeds_cons_of_passed (htree : tree.Textual) (h : Passed tree file) :
    Succeeds tree (file :: rest) ↔ Succeeds tree rest := by
  rw [Succeeds, findAmong_cons_of_unusable (isUsable_of_passed htree h), Succeeds]

theorem succeeds_cons_of_neither (htree : tree.Textual) (hpassed : ¬ Passed tree file)
    (haskew : ¬ Askew tree file) : Succeeds tree (file :: rest) := by
  obtain ⟨husable, hloads⟩ : isUsable tree file = .ok true ∧ Loads tree file := by
    by_cases hname : file.getLast? = some projectFile
    · exact usable_of_project htree hname hpassed haskew
    · obtain ⟨octets, hfile⟩ := Option.ne_none_iff_exists'.mp (not_or.mp hpassed).1
      exact usable_of_not_project htree hname hfile
  refine ⟨some file, findAmong_cons_of_usable husable, ?_⟩
  rintro _ ⟨⟩
  exact hloads

theorem not_succeeds_cons_of_askew (htree : tree.Textual) (h : Askew tree file) :
    ¬ Succeeds tree (file :: rest) := by
  rintro ⟨found, hfind, hloads⟩
  obtain ⟨e, he⟩ | ⟨husable, hfails⟩ := fails_of_askew htree h
  · rw [findAmong_cons_of_error he] at hfind
    cases hfind
  · rw [findAmong_cons_of_usable husable] at hfind
    cases hfind
    exact hfails (hloads file rfl)

theorem reaches_cons_iff {target : Location} :
    Reaches tree (file :: rest) target ↔
      target = file ∨ Passed tree file ∧ Reaches tree rest target := by
  constructor
  · intro h
    cases h with
    | here => exact .inl rfl
    | further hpassed hrest => exact .inr ⟨hpassed, hrest⟩
  · rintro (rfl | ⟨hpassed, hrest⟩)
    · exact .here target rest
    · exact .further hpassed hrest

theorem Reaches.mem {files : List Location} (h : Reaches tree files file) : file ∈ files := by
  induction h with
  | here => exact List.mem_cons_self
  | further _ _ ih => exact List.mem_cons_of_mem _ ih

/-- By induction on the places: one that is passed hands the question on to the rest, any other
answers it. -/
theorem succeeds_iff (htree : tree.Textual) (files : List Location) :
    Succeeds tree files ↔ ∀ file, Reaches tree files file → ¬ Askew tree file := by
  induction files with
  | nil =>
    refine iff_of_true ⟨none, rfl, ?_⟩ ?_
    · rintro _ ⟨⟩
    · rintro _ ⟨⟩
  | cons file rest ih =>
    simp only [reaches_cons_iff]
    by_cases haskew : Askew tree file
    · exact iff_of_false (not_succeeds_cons_of_askew htree haskew) fun h => h file (.inl rfl) haskew
    by_cases hpassed : Passed tree file
    · rw [succeeds_cons_of_passed htree hpassed, ih]
      constructor
      · rintro h target (rfl | ⟨-, hreached⟩)
        · exact haskew
        · exact h target hreached
      · exact fun h target hreached => h target (.inr ⟨hpassed, hreached⟩)
    · refine iff_of_true (succeeds_cons_of_neither htree hpassed haskew) ?_
      rintro target (rfl | ⟨hpassed', -⟩)
      · exact haskew
      · exact absurd hpassed' hpassed

end Walk

/-- In a tree of encoded texts, finding a configuration and loading it fail for no other reason than
a value of the wrong type, unless the walk comes to a project file in which the section is askew. -/
theorem fails_on_types_iff {tree : FileTree} {directory : Location} (htree : tree.Textual) :
    (∃ found, find tree directory = .ok found ∧ ∀ file, found = some file → Loads tree file) ↔
      ∀ file, Reaches tree (candidates directory) file → ¬ Askew tree file :=
  succeeds_iff htree (candidates directory)

def unrelatedBelow : FileTree where
  entries := [
    (["a".toList, projectFile], .file (Text.encode "[tool.other]\n".toList)),
    ([projectFile], .file (Text.encode "[tool.md2vim]\ncols = \"wide\"\n".toList))]

theorem fails_on_types_behind_unrelated :
    unrelatedBelow.Textual ∧
      ∃ found, find unrelatedBelow ["a".toList] = .ok found ∧
        ∀ file, found = some file → Loads unrelatedBelow file := by
  have htree : unrelatedBelow.Textual := FileTree.textual_of_entries (by decide +kernel)
  have hnone : ∀ file ∈ candidates ["a".toList], ¬ Askew unrelatedBelow file := by decide +kernel
  exact ⟨htree, (fails_on_types_iff htree).mpr fun file hreached => hnone file hreached.mem⟩

def numberForTool : FileTree where
  entries := [([projectFile], .file (Text.encode "tool = 1\n".toList))]

theorem finding_fails_on_number :
    numberForTool.Textual ∧
      ∃ e, find numberForTool [] = .error e ∧
        e.message = "argument of type 'int' is not iterable" := by
  have hfails : (match find numberForTool [] with
      | .error e => e.message == "argument of type 'int' is not iterable"
      | .ok _ => false) = true := by decide +kernel
  refine ⟨FileTree.textual_of_entries (by decide +kernel), ?_⟩
  cases hfind : find numberForTool [] with
  | ok found => simp [hfind] at hfails
  | error e => exact ⟨e, rfl, by simpa [hfind] using hfails⟩

end HelpFile.Config
