import HelpFile.CommandLine.Outcome
import HelpFile.Proofs.CommandLine.Reading
import HelpFile.Proofs.Document
import HelpFile.Proofs.FileTree

/-!
# Outcomes without a configuration

A run that finds no configuration either delivers the converted text and nothing else, or fails and
leaves standard output and every file as they were. It exits with 1 for paths and octets that cannot
be used as such, and with 2 for what the file tree does not allow.
-/
namespace HelpFile.CommandLine

/-! ## The code of a result -/

def exitCodeOf {α : Type} : Except Failure α → Nat
  | .ok _ => 0
  | .error e => e.exitCode

theorem Failure.exitCode_eq (e : Failure) : e.exitCode = 1 ∨ e.exitCode = 2 := by
  cases e with
  | config cause => cases cause <;> simp [exitCode]
  | file cause => cases cause <;> simp [exitCode]
  | _ => simp [exitCode]

theorem Failure.exitCode_file_iff (e : FileError) :
    (file e).exitCode = 1 ↔ e = .nullCharacter := by
  cases e <;> simp [exitCode]

theorem exitCodeOf_mapError_file {α : Type} (r : Except FileError α) :
    exitCodeOf (r.mapError .file) = 1 ↔ r = .error .nullCharacter := by
  cases r with
  | ok a => simp [Except.mapError, exitCodeOf]
  | error e => simpa [Except.mapError, exitCodeOf] using Failure.exitCode_file_iff e

def inputOctets (s : Surroundings) (input : Text) : Except Failure (List UInt8) :=
  if input = ['-'] then .ok s.stdin
  else (s.tree.read s.working (Path.ofText input)).mapError .file

theorem readInput_eq_bind (s : Surroundings) (input : Text) :
    readInput s input = (inputOctets s input).bind fun octets =>
      ((Text.decode octets).mapError .malformed).map Text.unifyLineEnds := by
  rw [readInput, inputOctets]
  split <;> rfl

theorem exitCodeOf_inputOctets (s : Surroundings) (input : Text) :
    exitCodeOf (inputOctets s input) = 1 ↔ '\x00' ∈ input := by
  rw [inputOctets]
  split
  · next h => subst h; simp [exitCodeOf]
  · rw [exitCodeOf_mapError_file, FileTree.read_eq_null_iff, Path.exists_null_iff]

def BadInput (s : Surroundings) (input : Text) : Prop :=
  '\x00' ∈ input ∨ ∃ octets m, inputOctets s input = .ok octets ∧ Text.decode octets = .error m

theorem exitCodeOf_readInput (s : Surroundings) (input : Text) :
    exitCodeOf (readInput s input) = 1 ↔ BadInput s input := by
  rw [BadInput, ← exitCodeOf_inputOctets s, readInput_eq_bind]
  cases inputOctets s input with
  | error e => simp [Except.bind, exitCodeOf]
  | ok octets =>
    cases hdecode : Text.decode octets with
    | ok text => simp [Except.bind, Except.map, Except.mapError, exitCodeOf, hdecode]
    | error m =>
      simp [Except.bind, Except.map, Except.mapError, exitCodeOf, Failure.exitCode, hdecode]

def target (s : Surroundings) (output : Text) : Location :=
  FileTree.locate s.working (Path.ofText output)

def withDirectories (s : Surroundings) (path : Path) : Except FileError FileTree :=
  s.tree.makeDirectories path.parent (if path.isAbsolute then [] else s.working) path.parent.names

theorem writeFile_eq_bind (s : Surroundings) {path : Path} (text : Text) (hname : path.name ≠ [])
    (hnull : ¬ ∃ name ∈ path.names, '\x00' ∈ name) :
    writeFile s path text = (withDirectories s path).mapError .file >>= fun made =>
      if made.isDirectory (FileTree.locate s.working path) then .error (.outputIsDirectory path)
      else .ok (made.put (FileTree.locate s.working path) (.file (Text.encode text))) := by
  have hnamed : ¬ path.name.isEmpty = true := by simpa using hname
  have hclean : ¬ path.names.any (·.contains '\x00') = true := by simpa using hnull
  rw [writeFile, if_neg hnamed, if_neg hclean]
  rfl

theorem exitCodeOf_writeFile (s : Surroundings) (path : Path) (text : Text) :
    exitCodeOf (writeFile s path text) = 1 ↔
      path.name = [] ∨ ∃ name ∈ path.names, '\x00' ∈ name := by
  by_cases hname : path.name = []
  · simp [writeFile, hname, exitCodeOf, Failure.exitCode]
  by_cases hnull : ∃ name ∈ path.names, '\x00' ∈ name
  · simp [writeFile, hname, hnull, exitCodeOf, Failure.exitCode]
  -- What can still fail is a directory or a file in the way, and that exits with 2.
  refine iff_of_false ?_ (not_or.mpr ⟨hname, hnull⟩)
  rw [writeFile_eq_bind s text hname hnull]
  cases hmade : withDirectories s path with
  | error e =>
    intro h
    have he : e = .nullCharacter := (Failure.exitCode_file_iff e).mp h
    exact FileTree.makeDirectories_ne_null (he ▸ hmade)
  | ok made =>
    simp only [Except.mapError, bind, Except.bind]
    split <;> simp [exitCodeOf, Failure.exitCode]

def BadOutput (output : Text) : Prop := (Path.ofText output).name = [] ∨ '\x00' ∈ output

theorem exitCodeOf_deliver (s : Surroundings) (output text : Text) :
    exitCodeOf (deliver s output text) = 1 ↔ BadOutput output := by
  rw [deliver]
  split
  · next h =>
    subst h
    exact iff_of_false (by simp [exitCodeOf]) (by unfold BadOutput; decide)
  · rw [BadOutput, ← Path.exists_null_iff, ← exitCodeOf_writeFile s _ text]
    cases writeFile s (Path.ofText output) text <;> simp [Except.map, exitCodeOf]

/-! ## What is delivered -/

def Delivered (s : Surroundings) (output text stdout : Text) (tree : FileTree) : Prop :=
  if output = ['-'] then stdout = text ∧ tree = s.tree
  else stdout = [] ∧ tree.file? (target s output) = some (Text.encode text) ∧
    ∀ l, l ≠ target s output → tree.file? l = s.tree.file? l

theorem file?_of_writeFile {s : Surroundings} {path : Path} {text : Text} {tree : FileTree}
    (h : writeFile s path text = .ok tree) :
    tree.file? (FileTree.locate s.working path) = some (Text.encode text) ∧
      ∀ l, l ≠ FileTree.locate s.working path → tree.file? l = s.tree.file? l := by
  have hcode : exitCodeOf (writeFile s path text) ≠ 1 := by simp [h, exitCodeOf]
  rw [Ne, exitCodeOf_writeFile, not_or] at hcode
  rw [writeFile_eq_bind s text hcode.1 hcode.2, bind_eq_ok] at h
  obtain ⟨made, hmade, hput⟩ := h
  rw [mapError_eq_ok] at hmade
  split at hput
  · cases hput
  · cases hput
    refine ⟨FileTree.file?_put_self .., fun l hl => ?_⟩
    rw [FileTree.file?_put_ne hl, FileTree.file?_makeDirectories hmade]

theorem delivered_of_deliver {s : Surroundings} {output text stdout : Text} {tree : FileTree}
    (h : deliver s output text = .ok (stdout, tree)) : Delivered s output text stdout tree := by
  rw [deliver] at h
  rw [Delivered]
  split at h
  · next hdash =>
    cases h
    simp [hdash]
  · next hfile =>
    obtain ⟨written, hwrite, hpair⟩ := map_eq_ok.mp h
    cases hpair
    rw [if_neg hfile]
    exact ⟨rfl, file?_of_writeFile hwrite⟩

/-! ## The whole run -/

section Run
variable {s : Surroundings} {a : Arguments} {explicit : List Setting} {input : Text}

theorem exists_convert (options : Options) (source : Text) :
    ∃ c, convert options source = .ok c := by
  rw [convert, Writer.document_eq]
  exact ⟨_, rfl⟩

theorem Arguments.merge_empty (a : Arguments) (explicit : List Setting) :
    a.merge explicit {} = a := by
  simp [merge, merge.pick]

theorem exists_check (hcols : 1 ≤ a.cols) (htabs : 0 ≤ a.tabs) :
    ∃ options, a.request.check = .ok options := by
  have hwidths : 0 < a.request.columnWidth ∧ 0 ≤ a.request.tabWidth := ⟨hcols, htabs⟩
  exact ⟨_, by rw [OptionsRequest.check, dif_pos hwidths.1, dif_pos hwidths.2]⟩

theorem configureAndConvert_of_none (hconfig : Config.find s.tree s.working = .ok none) :
    configureAndConvert s a explicit input = convertFile s a input := by
  simp [configureAndConvert, Config.discover, hconfig, Arguments.merge_empty]

theorem convertFile_of_unread {options : Options} {e : Failure}
    (hoptions : a.request.check = .ok options) (hread : readInput s input = .error e) :
    (convertFile s a input).2 = .error e := by
  simp [convertFile, hoptions, hread]

theorem convertFile_of_read {options : Options} {source : Text} {c : Conversion}
    (hoptions : a.request.check = .ok options) (hread : readInput s input = .ok source)
    (hconvert : convert options source = .ok c) :
    (convertFile s a input).2 = deliver s a.output c.text := by
  simp [convertFile, hoptions, hread, hconvert]

theorem exitCodeOf_convertFile {options : Options} (hoptions : a.request.check = .ok options) :
    exitCodeOf (convertFile s a input).2 = 1 ↔
      BadInput s input ∨ (∃ source, readInput s input = .ok source) ∧ BadOutput a.output := by
  rw [← exitCodeOf_readInput]
  cases hread : readInput s input with
  | error e =>
    rw [convertFile_of_unread hoptions hread]
    simp only [exitCodeOf, reduceCtorEq, exists_false, false_and, or_false]
  | ok source =>
    obtain ⟨c, hconvert⟩ := exists_convert options source
    rw [convertFile_of_read hoptions hread hconvert, exitCodeOf_deliver]
    simp [exitCodeOf]

/-- A run ends in one of two ways: it has delivered the converted text, or it has failed and left
everything as it was. -/
def Classified (s : Surroundings) (a : Arguments) (input : Text) (o : Outcome) : Prop :=
  (o.exitCode = 0 ∧ ∃ options source c, a.request.check = .ok options ∧
    readInput s input = .ok source ∧ convert options source = .ok c ∧
      Delivered s a.output c.text o.stdout o.tree) ∨
  ((o.exitCode = 1 ∨ o.exitCode = 2) ∧ o.stdout = [] ∧ o.tree = s.tree)

def outcomeOf (s : Surroundings) (result : List String × Except Failure (Text × FileTree)) :
    Outcome :=
  match result with
  | (lines, .ok (stdout, tree)) => { exitCode := 0, stdout, stderr := lines, tree }
  | (lines, .error e) =>
    { exitCode := e.exitCode, stderr := lines ++ [s!"Error: {e.message}"], tree := s.tree }

theorem exitCode_outcomeOf (result : List String × Except Failure (Text × FileTree)) :
    (outcomeOf s result).exitCode = exitCodeOf result.2 := by
  obtain ⟨lines, ⟨e⟩ | ⟨stdout, tree⟩⟩ := result <;> rfl

theorem classified_convertFile {options : Options} (hoptions : a.request.check = .ok options) :
    Classified s a input (outcomeOf s (convertFile s a input)) := by
  rcases hresult : convertFile s a input with ⟨lines, ⟨e⟩ | ⟨stdout, tree⟩⟩
  · exact .inr ⟨e.exitCode_eq, rfl, rfl⟩
  · have hdelivered : (convertFile s a input).2 = .ok (stdout, tree) := by rw [hresult]
    cases hread : readInput s input with
    | error e => simp [convertFile_of_unread hoptions hread] at hdelivered
    | ok source =>
      obtain ⟨c, hconvert⟩ := exists_convert options source
      rw [convertFile_of_read hoptions hread hconvert] at hdelivered
      exact .inl ⟨rfl, options, source, c, hoptions, hread, hconvert,
        delivered_of_deliver hdelivered⟩

theorem run_of_input {arguments : List Text}
    (hparse : Arguments.parse arguments = .ok (a, explicit)) (hversion : a.version = false)
    (hinput : a.input = some input) (hne : input ≠ []) :
    run s arguments = outcomeOf s (configureAndConvert s a explicit input) := by
  have hgiven : a.input.filter (!·.isEmpty) = some input := by simp [hinput, Option.filter, hne]
  simp only [run, hparse, hversion, Bool.false_eq_true, if_false, hgiven]
  rfl

theorem run_of_empty {arguments : List Text}
    (hparse : Arguments.parse arguments = .ok (a, explicit)) (hversion : a.version = false)
    (hinput : a.input = some []) :
    run s arguments = { exitCode := 1, stderr := [missingInput], tree := s.tree } := by
  simp [run, hparse, hversion, hinput, Option.filter]

/-- Without a configuration, a run on an input exits with 0 and has delivered the converted text, or
it fails and leaves everything as it was. Exit code 1 is for an input without a name, for octets
that are no text, and for what cannot be a path to a file. -/
theorem run_classified_iff {arguments : List Text}
    (hparse : Arguments.parse arguments = .ok (a, explicit)) (hversion : a.version = false)
    (hinput : a.input = some input) (hcols : 1 ≤ a.cols) (htabs : 0 ≤ a.tabs)
    (hconfig : Config.find s.tree s.working = .ok none) :
    Classified s a input (run s arguments) ∧
      ((run s arguments).exitCode = 1 ↔ input = [] ∨ BadInput s input ∨
        (∃ source, readInput s input = .ok source) ∧ BadOutput a.output) := by
  obtain ⟨options, hoptions⟩ := exists_check hcols htabs
  by_cases hne : input = []
  · subst hne
    rw [run_of_empty hparse hversion hinput]
    exact ⟨.inr ⟨.inl rfl, rfl, rfl⟩, iff_of_true rfl (.inl rfl)⟩
  · rw [run_of_input hparse hversion hinput hne, configureAndConvert_of_none hconfig,
      exitCode_outcomeOf, exitCodeOf_convertFile hoptions]
    exact ⟨classified_convertFile hoptions, by simp [hne]⟩

def oneFile (name : Text) (octets : List UInt8) : Surroundings where
  tree := { entries := [([name], .file octets)] }
  working := []
  stdin := []

theorem run_classified_of_file :
    Classified (oneFile "in.md".toList (Text.encode "# A\n".toList))
        { input := some "in.md".toList, output := "out/help.txt".toList } "in.md".toList
        (run (oneFile "in.md".toList (Text.encode "# A\n".toList))
          ["in.md".toList, "out/help.txt".toList]) := by
  have hparse : Arguments.parse ["in.md".toList, "out/help.txt".toList] =
      .ok ({ input := some "in.md".toList, output := "out/help.txt".toList }, []) := rfl
  exact (run_classified_iff hparse rfl rfl (by decide) (by decide) rfl).1

/-- Octets that are no text count as a value that cannot be used. -/
theorem malformed_input_exits_with_one :
    Arguments.parse ["in.md".toList] = .ok ({ input := some "in.md".toList }, []) ∧
      Config.find (oneFile "in.md".toList [0xFF]).tree [] = .ok none ∧
      (run (oneFile "in.md".toList [0xFF]) ["in.md".toList]).exitCode = 1 :=
  ⟨rfl, rfl, rfl⟩

end Run

end HelpFile.CommandLine
