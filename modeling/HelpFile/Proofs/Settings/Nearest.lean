import HelpFile.Proofs.Settings.Discovery
import Mathlib.Data.List.Infix

/-!
# The nearest configuration

Of the configurations that can be used in a directory and its ancestors the walk finds the nearest,
and of several in one directory the one whose name comes first. A project file without a section of
this program is passed as if it were not there.
-/
namespace HelpFile.Config
open Toml (Table Value)

def tableOf? (octets : List UInt8) : Option Table := (textOf octets).toOption.bind Toml.read?

def isTable : Value → Bool
  | .table _ => true
  | _ => false

/-- A project file that is encoded text and is not TOML, has nothing under `tool` or a table. -/
def Orderly (octets : List UInt8) : Prop :=
  (textOf octets).isOk ∧ (tableOf? octets).all fun t => (Table.get? t toolKey).all isTable

instance (octets : List UInt8) : Decidable (Orderly octets) :=
  inferInstanceAs (Decidable (_ ∧ _))

def holdsSection : Value → Bool
  | .table tools => (Table.get? tools sectionKey).isSome
  | _ => false

def hasSettings (octets : List UInt8) : Bool :=
  (tableOf? octets).any fun t => (Table.get? t toolKey).any holdsSection

/-- A file that can be used: any file under a name of its own, and a project file with a section. -/
def Configures (tree : FileTree) (file : Location) : Prop :=
  ∃ octets ∈ tree.file? file, file.getLast? = some projectFile → hasSettings octets

instance (tree : FileTree) (file : Location) : Decidable (Configures tree file) :=
  inferInstanceAs (Decidable (∃ octets ∈ tree.file? file, _ → _))

def Offered (directory file : Location) : Prop :=
  ∃ d name, d <+: directory ∧ name ∈ fileNames ∧ file = d ++ [name]

def distance (directory file : Location) : Nat := directory.length - file.dropLast.length

def nameRank (file : Location) : Nat := fileNames.idxOf (file.getLast?.getD [])

def Before (directory a b : Location) : Prop :=
  distance directory a < distance directory b ∨
    distance directory a = distance directory b ∧ nameRank a < nameRank b

instance (directory a b : Location) : Decidable (Before directory a b) :=
  inferInstanceAs (Decidable (_ < _ ∨ _ = _ ∧ _ < _))

theorem Before.asymm {directory a b : Location} (h : Before directory a b) :
    ¬ Before directory b a := by
  unfold Before at *
  omega

/-! ## The order of the places -/

theorem mem_upward_iff {directory d : Location} : d ∈ upward directory ↔ d <+: directory := by
  unfold upward
  rw [List.mem_map]
  constructor
  · rintro ⟨n, -, rfl⟩
    exact List.take_prefix _ _
  · intro h
    have hle := h.length_le
    refine ⟨directory.length - d.length, List.mem_range.mpr (by omega), ?_⟩
    rw [Nat.sub_sub_self hle]
    exact (List.prefix_iff_eq_take.mp h).symm

theorem mem_candidates_iff {directory file : Location} :
    file ∈ candidates directory ↔ Offered directory file := by
  unfold candidates Offered
  simp only [List.mem_flatMap, List.mem_map, mem_upward_iff]
  constructor
  · rintro ⟨d, hd, name, hname, rfl⟩
    exact ⟨d, name, hd, hname, rfl⟩
  · rintro ⟨d, name, hd, hname, rfl⟩
    exact ⟨d, hd, name, hname, rfl⟩

theorem distance_concat (directory d : Location) (name : Text) :
    distance directory (d ++ [name]) = directory.length - d.length := by
  rw [distance, List.dropLast_concat]

theorem nameRank_concat (d : Location) (name : Text) :
    nameRank (d ++ [name]) = fileNames.idxOf name := by
  rw [nameRank, List.getLast?_concat, Option.getD_some]

theorem upward_pairwise (directory : Location) :
    (upward directory).Pairwise fun d e =>
      directory.length - d.length < directory.length - e.length := by
  unfold upward
  rw [List.pairwise_map]
  refine List.pairwise_lt_range.imp_of_mem fun {m n} hm hn hlt => ?_
  rw [List.mem_range] at hm hn
  simp only [List.length_take]
  omega

/-- The walk tries the places in their order. -/
theorem candidates_pairwise (directory : Location) :
    (candidates directory).Pairwise (Before directory) := by
  have hnames : fileNames.Pairwise fun m n => fileNames.idxOf m < fileNames.idxOf n := by
    decide +kernel
  refine List.pairwise_flatMap.mpr ⟨fun d _ => ?_, (upward_pairwise directory).imp ?_⟩
  · rw [List.pairwise_map]
    refine hnames.imp fun {m n} hlt => Or.inr ⟨?_, ?_⟩
    · rw [distance_concat, distance_concat]
    · rwa [nameRank_concat, nameRank_concat]
  · intro d e hlt a ha b hb
    obtain ⟨m, -, rfl⟩ := List.mem_map.mp ha
    obtain ⟨n, -, rfl⟩ := List.mem_map.mp hb
    refine Or.inl ?_
    rwa [distance_concat, distance_concat]

/-- In a list in order, the first element with a property is the one before all others with it. -/
theorem find?_eq_some_iff_first {α : Type} {R : α → α → Prop} (hR : ∀ a b, R a b → ¬ R b a)
    {xs : List α} (h : xs.Pairwise R) {p : α → Bool} {a : α} :
    xs.find? p = some a ↔ a ∈ xs ∧ p a = true ∧ ∀ b ∈ xs, p b = true → b = a ∨ R a b := by
  induction xs with
  | nil => simp
  | cons x xs ih =>
    obtain ⟨hx, hxs⟩ := List.pairwise_cons.mp h
    by_cases hp : p x = true
    · rw [List.find?_cons_of_pos hp, Option.some.injEq]
      constructor
      · rintro rfl
        refine ⟨List.mem_cons_self, hp, fun b hb _ => ?_⟩
        rcases List.mem_cons.mp hb with rfl | hb
        · exact Or.inl rfl
        · exact Or.inr (hx b hb)
      · rintro ⟨ha, -, hfirst⟩
        rcases List.mem_cons.mp ha with rfl | ha
        · rfl
        · rcases hfirst x List.mem_cons_self hp with rfl | hax
          · rfl
          · exact absurd hax (hR x a (hx a ha))
    · rw [List.find?_cons_of_neg hp, ih hxs]
      have hne : ∀ b, p b = true → b ≠ x := by
        rintro b hb rfl
        exact hp hb
      constructor
      · rintro ⟨ha, hpa, hfirst⟩
        refine ⟨List.mem_cons_of_mem _ ha, hpa, fun b hb hpb => ?_⟩
        exact hfirst b (List.mem_of_ne_of_mem (hne b hpb) hb) hpb
      · rintro ⟨ha, hpa, hfirst⟩
        exact ⟨List.mem_of_ne_of_mem (hne a hpa) ha, hpa,
          fun b hb => hfirst b (List.mem_cons_of_mem _ hb)⟩

/-! ## What the walk finds -/

theorem hasSection_toolOf {t : Table} (h : (Table.get? t toolKey).all isTable) :
    hasSection (toolOf t) = .ok ((Table.get? t toolKey).any holdsSection) := by
  unfold toolOf
  cases htool : Table.get? t toolKey with
  | none => rfl
  | some tool =>
    cases tool with
    | table tools => rfl
    | _ => simp [htool, isTable] at h

theorem isUsable_eq {tree : FileTree} {file : Location}
    (h : file.getLast? = some projectFile → ∀ octets ∈ tree.file? file, Orderly octets) :
    isUsable tree file = .ok (decide (Configures tree file)) := by
  cases hfile : tree.file? file with
  | none => simp [isUsable, Configures, hfile]
  | some octets =>
    by_cases hname : file.getLast? = some projectFile
    · obtain ⟨hdecodes, htool⟩ := h hname octets hfile
      have hconfigures : decide (Configures tree file) = hasSettings octets := by
        simp [Configures, hfile, hname]
      rw [hconfigures, hasSettings]
      cases htext : textOf octets with
      | error e => simp [htext, Except.isOk, Except.toBool] at hdecodes
      | ok text =>
        have htable : tableOf? octets = Toml.read? text := by simp [tableOf?, htext, Except.toOption]
        rw [isUsable_of_project hfile hname htext]
        rw [htable] at htool ⊢
        cases ht : Toml.read? text with
        | none => rfl
        | some t =>
          rw [ht, Option.all_some] at htool
          exact hasSection_toolOf htool
    · simp [isUsable, Configures, hfile, hname]

theorem findAmong_eq_find? {tree : FileTree} {files : List Location} {usable : Location → Bool}
    (h : ∀ file ∈ files, isUsable tree file = .ok (usable file)) :
    findAmong tree files = .ok (files.find? usable) := by
  induction files with
  | nil => rfl
  | cons file rest ih =>
    have hfile := h file List.mem_cons_self
    cases hu : usable file with
    | true =>
      rw [hu] at hfile
      rw [findAmong_cons_of_usable hfile, List.find?_cons_of_pos hu]
    | false =>
      rw [hu] at hfile
      rw [findAmong_cons_of_unusable hfile, ih fun f hf => h f (List.mem_cons_of_mem _ hf),
        List.find?_cons_of_neg (by simp [hu])]

/-- Leaving out files that cannot be used changes nothing for a place of the walk. -/
theorem isUsable_congr {tree tree' : FileTree} {file : Location}
    (husable : isUsable tree file = .ok (decide (Configures tree file)))
    (h : tree'.file? file = tree.file? file ∨
      tree'.file? file = none ∧ ¬ Configures tree file) :
    isUsable tree' file = isUsable tree file := by
  rcases h with hsame | ⟨hgone, hnot⟩
  · unfold isUsable
    rw [hsame]
  · rw [husable, decide_eq_false hnot]
    simp [isUsable, hgone]

theorem findAmong_congr {tree tree' : FileTree} {files : List Location}
    (h : ∀ file ∈ files, isUsable tree' file = isUsable tree file) :
    findAmong tree' files = findAmong tree files := by
  induction files with
  | nil => rfl
  | cons file rest ih =>
    rw [findAmong, findAmong, h file List.mem_cons_self,
      ih fun f hf => h f (List.mem_cons_of_mem _ hf)]

/-- If the project files on the way are orderly, the walk ends and finds the first of the files that
can be used, in order of distance and then of names, and nothing if and only if there is none. A
project file without a section does not stop it: the walk finds the same when such files are left
out. -/
theorem find_nearest {tree : FileTree} {directory : Location}
    (h : ∀ d, d <+: directory → ∀ octets ∈ tree.file? (d ++ [projectFile]), Orderly octets) :
    ∃ found, find tree directory = .ok found ∧
      (∀ file, found = some file ↔ Offered directory file ∧ Configures tree file ∧
        ∀ other, Offered directory other → Configures tree other →
          other = file ∨ Before directory file other) ∧
      (found = none ↔ ∀ file, Offered directory file → ¬ Configures tree file) ∧
      ∀ tree' : FileTree, (∀ file, tree'.file? file = tree.file? file ∨
          file.getLast? = some projectFile ∧ ¬ Configures tree file ∧ tree'.file? file = none) →
        find tree' directory = .ok found := by
  have husable : ∀ file ∈ candidates directory,
      isUsable tree file = .ok (decide (Configures tree file)) := by
    intro file hfile
    obtain ⟨d, name, hd, -, rfl⟩ := mem_candidates_iff.mp hfile
    refine isUsable_eq fun hname => ?_
    obtain rfl : name = projectFile := by simpa using hname
    exact h d hd
  have hfind : find tree directory =
      .ok ((candidates directory).find? fun file => decide (Configures tree file)) :=
    findAmong_eq_find? husable
  refine ⟨_, hfind, fun file => ?_, ?_, fun tree' hless => ?_⟩
  · rw [find?_eq_some_iff_first (fun _ _ => Before.asymm) (candidates_pairwise directory)]
    simp only [mem_candidates_iff, decide_eq_true_eq]
  · simp only [List.find?_eq_none, mem_candidates_iff, decide_eq_true_eq]
  · rw [← hfind]
    refine findAmong_congr fun file hfile => isUsable_congr (husable file hfile) ?_
    exact (hless file).imp_right fun ⟨_, hnot, hgone⟩ => ⟨hgone, hnot⟩

def nested : FileTree where
  entries := [
    (["a".toList, "b".toList, projectFile], .file (Text.encode "[tool.other]\n".toList)),
    (["a".toList, "b".toList, "md2vim.toml".toList], .directory),
    (["a".toList, projectFile], .file (Text.encode "tool =\n".toList)),
    (["a".toList, "md2vim.toml".toList], .file [255]),
    (["a".toList, ".md2vim.toml".toList], .file []),
    ([projectFile], .file (Text.encode "[tool.md2vim]\n".toList))]

theorem find_nearest_of_nested :
    let directory := ["a".toList, "b".toList]
    (∀ d, d <+: directory → ∀ octets ∈ nested.file? (d ++ [projectFile]), Orderly octets) ∧
      find nested directory = .ok (some ["a".toList, ".md2vim.toml".toList]) := by
  intro directory
  let file : Location := ["a".toList, ".md2vim.toml".toList]
  have horderly : ∀ d, d <+: directory →
      ∀ octets ∈ nested.file? (d ++ [projectFile]), Orderly octets := by
    -- Of a prefix nothing can be computed, so the check runs over the list of them.
    have hall : ∀ d ∈ directory.inits,
        ∀ octets ∈ nested.file? (d ++ [projectFile]), Orderly octets := by decide +kernel
    exact fun d hd => hall d ((List.mem_inits d directory).mpr hd)
  have hfile : file ∈ candidates directory := by decide +kernel
  have hbefore : ∀ other ∈ candidates directory, Configures nested other →
      other = file ∨ Before directory file other := by decide +kernel
  obtain ⟨found, hfind, hfirst, -, -⟩ := find_nearest horderly
  have hfound : found = some file := (hfirst file).mpr
    ⟨mem_candidates_iff.mp hfile, by decide +kernel,
      fun other hoffered => hbefore other (mem_candidates_iff.mpr hoffered)⟩
  exact ⟨horderly, hfound ▸ hfind⟩

end HelpFile.Config
