import HelpFile.FileTree
import HelpFile.Proofs.Tag

/-!
# Changes of a file tree

Putting an entry changes the file at its own location alone, and making directories changes no file.
A path with a null character cannot be used, and no other path is refused for one.
-/
namespace HelpFile

/-! ## Files behind a change of the tree -/

def Entry.octets? : Entry → Option (List UInt8)
  | .file octets => some octets
  | .directory => none

def Entry.isTextual : Entry → Bool
  | .file octets => (Text.decode octets).isOk
  | .directory => true

namespace FileTree

theorem file?_eq_bind (t : FileTree) (l : Location) :
    t.file? l = (t.entries.lookup l).bind Entry.octets? := by
  unfold file?
  cases t.entries.lookup l with
  | none => rfl
  | some e => cases e <;> rfl

theorem mem_entries_of_file? {t : FileTree} {l : Location} {octets : List UInt8}
    (h : t.file? l = some octets) : (l, Entry.file octets) ∈ t.entries := by
  rw [file?_eq_bind] at h
  obtain ⟨e, hlookup, he⟩ := Option.bind_eq_some_iff.mp h
  cases e with
  | directory => cases he
  | file found =>
    cases he
    obtain ⟨before, after, heq, -⟩ := List.lookup_eq_some_iff.mp hlookup
    simp [heq]

theorem lookup_filter_key (keep : Location → Bool) (entries : List (Location × Entry))
    (m : Location) :
    (entries.filter fun e => keep e.1).lookup m = if keep m then entries.lookup m else none := by
  induction entries with
  | nil => simp
  | cons e rest ih =>
    obtain ⟨l, e⟩ := e
    by_cases hm : m = l
    · subst hm
      cases hkeep : keep m <;> simp [hkeep, ih]
    · have hml : (m == l) = false := beq_eq_false_iff_ne.mpr hm
      cases hkeep : keep l <;> simp [hkeep, List.lookup_cons, hml, ih]

theorem file?_put_self (t : FileTree) (l : Location) (e : Entry) :
    (t.put l e).file? l = e.octets? := by
  rw [file?_eq_bind, put, List.lookup_append, lookup_filter_key (· != l)]
  simp

theorem file?_put_ne {t : FileTree} {l m : Location} {e : Entry} (h : m ≠ l) :
    (t.put l e).file? m = t.file? m := by
  have hml : (m == l) = false := beq_eq_false_iff_ne.mpr h
  rw [file?_eq_bind, put, List.lookup_append, lookup_filter_key (· != l), file?_eq_bind]
  simp [List.lookup_cons, hml, h]

/-- Directories are only made where no file is. -/
theorem file?_makeDirectories {path : Path} {names : List Text} {t t' : FileTree} {l : Location}
    (h : t.makeDirectories path l names = .ok t') (m : Location) : t'.file? m = t.file? m := by
  induction names generalizing t l with
  | nil => cases h; rfl
  | cons name rest ih =>
    simp only [makeDirectories] at h
    split at h
    · exact ih h
    · split at h
      · cases h
      · next hfile =>
        rw [ih h]
        by_cases hm : m = enter l name
        · subst hm
          have hnone : t.file? (enter l name) = none := by simpa [isFile] using hfile
          rw [file?_put_self, hnone, Entry.octets?]
        · exact file?_put_ne hm

/-! ## Trees of encoded texts -/

def Textual (t : FileTree) : Prop :=
  ∀ l octets, t.file? l = some octets → ∃ text, Text.decode octets = .ok text

theorem textual_of_entries {t : FileTree} (h : ∀ e ∈ t.entries, e.2.isTextual = true) :
    t.Textual := by
  intro l octets hfile
  have htextual : (Entry.file octets).isTextual = true := h _ (mem_entries_of_file? hfile)
  cases hdecode : Text.decode octets with
  | ok text => exact ⟨text, rfl⟩
  | error m => simp [Entry.isTextual, hdecode, Except.isOk, Except.toBool] at htextual

/-! ## Which failures are due to a null character -/

theorem follow_ne_null {t : FileTree} {path : Path} {names : List Text} {l : Location} :
    t.follow path l names ≠ .error .nullCharacter := by
  induction names generalizing l with
  | nil => simp [follow]
  | cons name rest ih =>
    rw [follow]
    split
    · exact ih
    · split <;> simp

theorem read_eq_null_iff {t : FileTree} {working : Location} {path : Path} :
    t.read working path = .error .nullCharacter ↔ ∃ name ∈ path.names, '\x00' ∈ name := by
  by_cases hnull : ∃ name ∈ path.names, '\x00' ∈ name
  · refine iff_of_true ?_ hnull
    simp [read, resolve, hnull, bind, Except.bind]
  · refine iff_of_false ?_ hnull
    have hresolve : t.resolve working path =
        t.follow path (if path.isAbsolute then [] else working) path.names := by
      simp [resolve, hnull]
    rw [read, hresolve]
    cases hfollow : t.follow path (if path.isAbsolute then [] else working) path.names with
    | error e =>
      intro h
      have he : e = .nullCharacter := Except.error.inj h
      exact follow_ne_null (he ▸ hfollow)
    | ok l =>
      simp only [bind, Except.bind]
      split
      · simp
      · split <;> simp

theorem makeDirectories_ne_null {t : FileTree} {path : Path} {names : List Text} {l : Location} :
    t.makeDirectories path l names ≠ .error .nullCharacter := by
  induction names generalizing t l with
  | nil => simp [makeDirectories]
  | cons name rest ih =>
    simp only [makeDirectories]
    split
    · exact ih
    · split
      · split <;> simp
      · exact ih

end FileTree

theorem Text.exists_mem_splitOn {separator c : Char} {text : Text} (hc : c ∈ text)
    (hne : c ≠ separator) : ∃ part ∈ Text.splitOn separator text, c ∈ part := by
  induction text with
  | nil => cases hc
  | cons d rest ih =>
    rw [splitOn]
    rcases List.mem_cons.mp hc with rfl | hc
    · rw [if_neg hne]
      split <;> exact ⟨_, List.mem_cons_self, List.mem_cons_self⟩
    · obtain ⟨part, hpart, hmem⟩ := ih hc
      split
      · exact ⟨part, List.mem_cons_of_mem _ hpart, hmem⟩
      · split
        · next hnil => simp [hnil] at hpart
        · next first more hsplit =>
          rw [hsplit] at hpart
          rcases List.mem_cons.mp hpart with rfl | hpart
          · exact ⟨d :: part, List.mem_cons_self, List.mem_cons_of_mem _ hmem⟩
          · exact ⟨part, List.mem_cons_of_mem _ hpart, hmem⟩

/-- A path holds a null character where its text does. -/
theorem Path.exists_null_iff (text : Text) :
    (∃ name ∈ (Path.ofText text).names, '\x00' ∈ name) ↔ '\x00' ∈ text := by
  constructor
  · rintro ⟨name, hname, hnull⟩
    exact Text.mem_of_mem_splitOn (List.mem_filter.mp hname).1 hnull
  · intro hnull
    obtain ⟨part, hpart, hmem⟩ : ∃ part ∈ Text.splitOn '/' text, '\x00' ∈ part :=
      Text.exists_mem_splitOn hnull (by decide)
    refine ⟨part, List.mem_filter.mpr ⟨hpart, ?_⟩, hmem⟩
    have hempty : part ≠ [] := List.ne_nil_of_mem hmem
    have hdot : part ≠ ['.'] := by
      rintro rfl
      simp at hmem
    simp [hempty, hdot]

end HelpFile
