import HelpFile.Proofs.Settings.Entries
import Mathlib.Data.List.Induction
import Mathlib.Data.List.Nodup

/-!
# Settings named several times

Flattening a table puts a later value in the place of an earlier one with the same key, and of the
keys that name a setting the last in place gives the value. So the last entry for a setting counts,
unless its key has come before and the other key of the setting has come in between.
-/
namespace HelpFile

namespace Toml.Table

theorem keys_insert (key : Text) (value : Value) (t : Table) :
    (t.insert key value).map Prod.fst =
      if key ∈ t.map Prod.fst then t.map Prod.fst else t.map Prod.fst ++ [key] := by
  induction t with
  | nil => rfl
  | cons e rest ih =>
    by_cases he : e.1 = key
    · simp [insert, he]
    · rw [insert, if_neg he, List.map_cons, ih, List.map_cons]
      by_cases hm : key ∈ rest.map Prod.fst
      · rw [if_pos hm, if_pos (List.mem_cons_of_mem _ hm)]
      · rw [if_neg hm, if_neg (by simpa [Ne.symm he] using hm), List.cons_append]

/-- With keys that are all different, nothing else stays under a key that gets a value. -/
theorem mem_insert {key : Text} {value : Value} {t : Table} (h : (t.map Prod.fst).Nodup)
    {e : Text × Value} (he : e ∈ t.insert key value) :
    e = (key, value) ∨ e ∈ t ∧ e.1 ≠ key := by
  induction t with
  | nil => exact Or.inl (List.mem_singleton.mp he)
  | cons f rest ih =>
    rw [List.map_cons, List.nodup_cons] at h
    rw [insert] at he
    split at he
    · next hf =>
      rcases List.mem_cons.mp he with rfl | he
      · exact Or.inl rfl
      · refine Or.inr ⟨List.mem_cons_of_mem _ he, fun hkey => h.1 ?_⟩
        rw [hf, ← hkey]
        exact List.mem_map_of_mem he
    · next hf =>
      rcases List.mem_cons.mp he with rfl | he
      · exact Or.inr ⟨List.mem_cons_self, hf⟩
      · exact (ih h.2 he).imp_right (And.imp_left (List.mem_cons_of_mem _))

end Toml.Table

/-! ## Keys in the order in which they first come -/

theorem eraseDups_concat (keys : List Text) (key : Text) :
    (keys ++ [key]).eraseDups =
      if key ∈ keys then keys.eraseDups else keys.eraseDups ++ [key] := by
  have hone : [key].eraseDups = [key] := rfl
  rw [List.eraseDups_append]
  by_cases h : key ∈ keys <;> simp [List.removeAll, h, hone]

theorem nodup_eraseDups (keys : List Text) : keys.eraseDups.Nodup := by
  induction keys using List.reverseRecOn with
  | nil => exact List.nodup_nil
  | append_singleton keys key ih =>
    rw [eraseDups_concat]
    split
    · exact ih
    · next h =>
      refine List.nodup_append.mpr ⟨ih, by simp, fun a ha b hb => ?_⟩
      rw [List.mem_singleton.mp hb]
      rintro rfl
      exact h (List.mem_eraseDups.mp ha)

namespace Settings
open Toml (Table Value)

def lastAmong? (es : Table) (names : List Text) : Option Value :=
  ((es.filter fun e => e.1 ∈ names).getLast?).map Prod.snd

theorem lastAmong?_concat (es : Table) (e : Text × Value) (names : List Text) :
    lastAmong? (es ++ [e]) names = if e.1 ∈ names then some e.2 else lastAmong? es names := by
  unfold lastAmong?
  by_cases h : e.1 ∈ names <;> simp [h]

theorem mem_of_lastAmong? {es : Table} {names : List Text} {v : Value}
    (h : lastAmong? es names = some v) : ∃ key ∈ names, (key, v) ∈ es := by
  obtain ⟨e, he, rfl⟩ := Option.map_eq_some_iff.mp h
  obtain ⟨hmem, hkey⟩ := List.mem_filter.mp (List.mem_of_getLast? he)
  exact ⟨e.1, of_decide_eq_true hkey, hmem⟩

def lastKey? (keys : List Text) (s : Setting) : Option Text :=
  (keys.filter (· ∈ s.keys)).getLast?

def newestKey? (keys : List Text) (s : Setting) : Option Text :=
  (keys.eraseDups.filter (· ∈ s.keys)).getLast?

theorem mem_of_lastKey? {keys : List Text} {s : Setting} {key : Text}
    (h : lastKey? keys s = some key) : key ∈ keys ∧ key ∈ s.keys := by
  simpa using List.mem_filter.mp (List.mem_of_getLast? h)

theorem mem_of_newestKey? {keys : List Text} {s : Setting} {key : Text}
    (h : newestKey? keys s = some key) : key ∈ keys ∧ key ∈ s.keys := by
  simpa using List.mem_filter.mp (List.mem_of_getLast? h)

theorem newestKey?_eq_none_iff {keys : List Text} {s : Setting} :
    newestKey? keys s = none ↔ lastKey? keys s = none := by
  simp [newestKey?, lastKey?]

theorem lastAmong?_eq_bind (es : Table) (s : Setting) : lastAmong? es s.keys =
    (lastKey? (es.map Prod.fst) s).bind fun key => lastAmong? es [key] := by
  unfold lastKey?
  induction es using List.reverseRecOn with
  | nil => rfl
  | append_singleton es e ih =>
    rw [lastAmong?_concat, List.map_append, List.filter_append]
    by_cases h : e.1 ∈ s.keys
    · simp [h, lastAmong?_concat]
    · rw [if_neg h, ih]
      simp only [List.map_cons, List.map_nil, List.filter_cons, h, decide_false,
        Bool.false_eq_true, if_false, List.filter_nil, List.append_nil]
      refine Option.bind_congr fun key hkey => ?_
      have hne : e.1 ≠ key := by
        rintro rfl
        exact h (mem_of_lastKey? hkey).2
      rw [lastAmong?_concat, if_neg (by simpa using hne)]

/-! ## What flattening leaves -/

/-- The keys of the entries in the order in which they first come, each with its last value. -/
structure Flattened (es flat : Table) : Prop where
  keys : flat.map Prod.fst = (es.map Prod.fst).eraseDups
  values : ∀ e ∈ flat, lastAmong? es [e.1] = some e.2

/-- One more entry is added or changes the value of its key. -/
theorem Flattened.insert {es flat : Table} (h : Flattened es flat) (e : Text × Value) :
    Flattened (es ++ [e]) (flat.insert e.1 e.2) := by
  have hnodup : (flat.map Prod.fst).Nodup := h.keys ▸ nodup_eraseDups _
  constructor
  · rw [Table.keys_insert, h.keys, List.map_append, List.map_singleton, eraseDups_concat]
    simp only [List.mem_eraseDups]
  · intro f hf
    rw [lastAmong?_concat]
    rcases Table.mem_insert hnodup hf with rfl | ⟨hf, hne⟩
    · simp
    · rw [if_neg (by simpa using Ne.symm hne), h.values f hf]

theorem flattened_flatten (t : Table) : Flattened (entries t) (flatten t) := by
  rw [flatten_eq_foldl]
  induction entries t using List.reverseRecOn with
  | nil => exact ⟨rfl, by simp⟩
  | append_singleton es e ih =>
    rw [List.foldl_concat]
    exact ih.insert e

theorem Flattened.valueOf? {es flat : Table} (h : Flattened es flat) (s : Setting) :
    valueOf? flat s =
      (newestKey? (es.map Prod.fst) s).bind fun key => lastAmong? es [key] := by
  have hnames : ∀ e : Text × Value,
      (Setting.ofKey? e.1 == some s) = decide (e.1 ∈ s.keys) := by
    intro e
    rw [Bool.eq_iff_iff, beq_iff_eq, Setting.ofKey?_eq_some_iff, decide_eq_true_iff]
  have hkeys : newestKey? (es.map Prod.fst) s =
      ((flat.filter fun e => e.1 ∈ s.keys).getLast?).map Prod.fst := by
    rw [newestKey?, ← h.keys, List.filter_map, List.getLast?_map]
    rfl
  rw [hkeys, Settings.valueOf?]
  simp only [hnames]
  cases hlast : (flat.filter fun e => e.1 ∈ s.keys).getLast? with
  | none => rfl
  | some e =>
    have he := (List.mem_filter.mp (List.mem_of_getLast? hlast)).1
    exact (h.values e he).symm

/-! ## Which entry counts -/

def sectionOf : Value → Table
  | .table es => es
  | _ => []

def Distinct (t : Table) : Prop :=
  (t.map Prod.fst).Nodup ∧ ∀ e ∈ t, ((sectionOf e.2).map Prod.fst).Nodup

instance (t : Table) : Decidable (Distinct t) :=
  inferInstanceAs (Decidable (_ ∧ ∀ e ∈ t, _))

def WellTyped (es : Table) : Prop :=
  ∀ e ∈ es, ∀ s ∈ Setting.all, e.1 ∈ s.keys → (s.read? e.2).isSome

instance (es : Table) : Decidable (WellTyped es) :=
  inferInstanceAs (Decidable (∀ e ∈ es, ∀ s ∈ Setting.all, _ → _))

/-- A setting has the last value of the one of its keys that comes up last. -/
theorem exists_ofTable {t : Table} (h : WellTyped (entries t)) :
    ∃ config, (ofTable t).2 = .ok config ∧ ∀ s, config.value? s =
      ((newestKey? ((entries t).map Prod.fst) s).bind fun key =>
        lastAmong? (entries t) [key]).bind s.read? := by
  have hvalue := (flattened_flatten t).valueOf?
  refine ⟨ofValues fun s => (valueOf? (flatten t) s).bind s.read?, ?_, fun s => ?_⟩
  · refine ofFlat_of_checked fun s => checked?_eq_ok_iff.mpr ⟨fun v hv => ?_, ?_⟩
    · rw [hvalue, Option.bind_eq_some_iff] at hv
      obtain ⟨key, hkey, hv⟩ := hv
      obtain ⟨same, hsame, hentry⟩ := mem_of_lastAmong? hv
      obtain rfl := List.mem_singleton.mp hsame
      exact Option.isSome_iff_ne_none.mp (h _ hentry s s.mem_all (mem_of_newestKey? hkey).2)
    · rw [value?_ofValues]
  · rw [value?_ofValues, hvalue]

def spread (keys : List Text) (value : Text → Value) : Table :=
  keys.zipIdx.map fun k => (List.replicate k.2 'x', .table [(k.1, value k.1)])

theorem entries_spread (keys : List Text) (value : Text → Value) :
    entries (spread keys value) = keys.map fun key => (key, value key) := by
  have hkeys : keys.map (fun key => (key, value key)) =
      (keys.zipIdx.map Prod.fst).map fun key => (key, value key) := by
    rw [List.zipIdx_map_fst]
  rw [entries, spread, List.flatMap_map, hkeys, List.map_map]
  exact List.map_eq_flatMap.symm

theorem distinct_spread (keys : List Text) (value : Text → Value) :
    Distinct (spread keys value) := by
  constructor
  · have hnames : (spread keys value).map Prod.fst =
        (List.range' 0 keys.length).map fun n => List.replicate n 'x' := by
      rw [← List.zipIdx_map_snd 0 keys, spread, List.map_map, List.map_map]
      rfl
    rw [hnames]
    refine List.Nodup.map (fun m n hmn => ?_) List.nodup_range'
    simpa using congrArg List.length hmn
  · intro e he
    obtain ⟨k, -, rfl⟩ := List.mem_map.mp he
    exact List.nodup_singleton _

theorem lastAmong?_map {keys : List Text} (value : Text → Value) {key : Text} (h : key ∈ keys) :
    lastAmong? (keys.map fun k => (k, value k)) [key] = some (value key) := by
  induction keys using List.reverseRecOn with
  | nil => cases h
  | append_singleton keys k ih =>
    rw [List.map_append, List.map_singleton, lastAmong?_concat]
    by_cases hk : k = key
    · simp [hk]
    · rw [if_neg (by simpa using hk)]
      refine ih ((List.mem_append.mp h).resolve_right fun hs => hk ?_)
      exact (List.mem_singleton.mp hs).symm

def sample : Setting → Bool → Value
  | .cols, b | .tabs, b => .integer (if b then 1 else 0)
  | .notoc, b | .norules, b | .pascal, b => .boolean b
  | .desc, b => .string (if b then ['x'] else [])

theorem isSome_read?_sample (s : Setting) (b : Bool) : (s.read? (sample s b)).isSome := by
  cases s <;> rfl

theorem read?_sample_ne (s : Setting) : s.read? (sample s true) ≠ s.read? (sample s false) := by
  cases s <;> simp [sample, Setting.read?]

/-- Gives one key a value of its own, and otherwise all keys of a setting the same. -/
def marked (key k : Text) : Value :=
  match Setting.ofKey? k with
  | some s => sample s (k == key)
  | none => .boolean true

theorem marked_of_mem_keys (key : Text) {k : Text} {s : Setting} (hk : k ∈ s.keys) :
    marked key k = sample s (k == key) := by
  rw [marked, Setting.ofKey?_eq_some_iff.mpr hk]

theorem wellTyped_marked (keys : List Text) (key : Text) :
    WellTyped (keys.map fun k => (k, marked key k)) := by
  intro e he s _ hname
  obtain ⟨k, -, rfl⟩ := List.mem_map.mp he
  rw [marked_of_mem_keys key hname]
  exact isSome_read?_sample s _

/-- Values can be given to the keys so that the last entry for the setting is not the one that
counts. -/
theorem exists_passed_over {keys : List Text} {s : Setting}
    (h : newestKey? keys s ≠ lastKey? keys s) :
    ∃ t config, Distinct t ∧ WellTyped (entries t) ∧ (entries t).map Prod.fst = keys ∧
      (ofTable t).2 = .ok config ∧
      config.value? s ≠ (lastAmong? (entries t) s.keys).bind s.read? := by
  cases hnew : newestKey? keys s with
  | none => exact absurd (hnew.trans (newestKey?_eq_none_iff.mp hnew).symm) h
  | some new =>
    cases hlast : lastKey? keys s with
    | none => exact absurd ((newestKey?_eq_none_iff.mpr hlast).trans hlast.symm) h
    | some last =>
      have hne : (last == new) = false := by
        refine beq_eq_false_iff_ne.mpr ?_
        rintro rfl
        exact h (hnew.trans hlast.symm)
      obtain ⟨hnewKeys, hnewName⟩ := mem_of_newestKey? hnew
      obtain ⟨hlastKeys, hlastName⟩ := mem_of_lastKey? hlast
      -- `last` has one sample wherever it stands, and only `new` has the other.
      let t := spread keys (marked new)
      have hentries : entries t = keys.map fun k => (k, marked new k) := entries_spread keys _
      have hkeys : (entries t).map Prod.fst = keys := by
        rw [hentries, List.map_map]
        exact List.map_id' keys
      have htyped : WellTyped (entries t) := hentries ▸ wellTyped_marked keys new
      obtain ⟨config, hok, hvalue⟩ := exists_ofTable htyped
      refine ⟨t, config, distinct_spread _ _, htyped, hkeys, hok, ?_⟩
      rw [hvalue, lastAmong?_eq_bind, hkeys, hnew, hlast, Option.bind_some, Option.bind_some,
        hentries, lastAmong?_map _ hnewKeys, lastAmong?_map _ hlastKeys, Option.bind_some,
        Option.bind_some, marked_of_mem_keys new hnewName, marked_of_mem_keys new hlastName, hne,
        beq_self_eq_true]
      exact read?_sample_ne s

/-- In a table with the given keys, a setting gets the last value of the one of its keys that is the
last to come for the first time. The last entry for the setting counts, whatever the values are, if
and only if that is also the key of the last entry. -/
theorem last_entry_counts_iff (keys : List Text) (s : Setting) :
    (∀ t, WellTyped (entries t) → (entries t).map Prod.fst = keys →
      ∃ config, (ofTable t).2 = .ok config ∧
        config.value? s = ((newestKey? keys s).bind fun key =>
          lastAmong? (entries t) [key]).bind s.read?) ∧
    ((∀ t, Distinct t → WellTyped (entries t) → (entries t).map Prod.fst = keys →
      ∃ config, (ofTable t).2 = .ok config ∧
        config.value? s = (lastAmong? (entries t) s.keys).bind s.read?) ↔
      newestKey? keys s = lastKey? keys s) := by
  refine ⟨?_, fun hcounts => ?_, ?_⟩
  · rintro t htyped rfl
    obtain ⟨config, hok, hvalue⟩ := exists_ofTable htyped
    exact ⟨config, hok, hvalue s⟩
  · by_contra hne
    obtain ⟨t, config, hdistinct, htyped, hkeys, hok, hpassed⟩ := exists_passed_over hne
    obtain ⟨same, hsame, hlast⟩ := hcounts t hdistinct htyped hkeys
    obtain rfl : config = same := Except.ok.inj (hok.symm.trans hsame)
    exact hpassed hlast
  · rintro hsame t - htyped rfl
    obtain ⟨config, hok, hvalue⟩ := exists_ofTable htyped
    refine ⟨config, hok, ?_⟩
    rw [hvalue, lastAmong?_eq_bind, hsame]

/-- The longer name in a section counts behind the own name at the top. -/
theorem last_entry_counts_in_section :
    let t : Table := [("cols".toList, .integer 1),
      ("layout".toList, .table [("columns".toList, .integer 2)])]
    Distinct t ∧ WellTyped (entries t) ∧
      ∃ config, (ofTable t).2 = .ok config ∧ config.cols = some 2 := by
  intro t
  have hdistinct : Distinct t := by decide
  have htyped : WellTyped (entries t) := by decide
  obtain ⟨config, hok, hlast⟩ :=
    (last_entry_counts_iff _ .cols).2.mpr (by decide) t hdistinct htyped rfl
  exact ⟨hdistinct, htyped, config, hok, hlast⟩

/-- When the own name comes again behind the longer name, its value does not count. -/
theorem last_entry_passed_over :
    let t : Table := [("cols".toList, .integer 1),
      ("layout".toList, .table [("columns".toList, .integer 2)]),
      ("override".toList, .table [("cols".toList, .integer 3)])]
    Distinct t ∧ WellTyped (entries t) ∧ (ofTable t).2 = .ok { cols := some 2 } ∧
      (lastAmong? (entries t) Setting.cols.keys).bind Setting.cols.read? = some (3 : Int) := by
  intro t
  exact ⟨by decide, by decide, rfl, rfl⟩

end Settings
end HelpFile
