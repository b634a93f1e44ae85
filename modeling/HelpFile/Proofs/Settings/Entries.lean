import HelpFile.Proofs.CommandLine.Precedence

/-!
# Settings by their entries

What a table says about the settings is told by its entries alone, those of its sections included.
As long as no setting is named twice, neither the order of the entries nor the section that an entry
stands in matters.
-/
namespace HelpFile

namespace Setting
open Toml (Value)

def keys (s : Setting) : List Text := s.name.toList :: (s.longName?.map String.toList).toList

example : Setting.all.flatMap keys = ["cols", "columns", "tabs", "tab-width", "notoc", "no-toc",
    "norules", "no-rules", "pascal", "desc", "description"].map String.toList := rfl

theorem underscore_not_mem_name (s : Setting) : '_' ∉ s.name.toList := by
  cases s <;> decide

/-- No name has an underscore, so a key with a dash is no name. -/
theorem eq_name_of_dashed {s : Setting} {key : Text}
    (h : s.name.toList = key.map fun c => if c = '-' then '_' else c) : key = s.name.toList := by
  have hdash : ∀ c ∈ key, (if c = '-' then '_' else c) = c := by
    intro c hc
    by_cases hd : c = '-'
    · have hm : '_' ∈ s.name.toList := by
        rw [h]
        exact List.mem_map.mpr ⟨c, hc, if_pos hd⟩
      exact absurd hm s.underscore_not_mem_name
    · exact if_neg hd
  rw [h, List.map_congr_left hdash, List.map_id']

theorem ofKey?_eq_some_iff {key : Text} {s : Setting} : ofKey? key = some s ↔ key ∈ s.keys := by
  constructor
  · intro h
    unfold ofKey? at h
    split at h
    · next r hr =>
      obtain rfl := Option.some.inj h
      have hlong := List.find?_some hr
      simp only [beq_iff_eq] at hlong
      simp [keys, hlong]
    · have hname := List.find?_some h
      simp only [beq_iff_eq] at hname
      rw [eq_name_of_dashed hname]
      exact List.mem_cons_self
  · intro h
    cases s <;> simp [keys, name, longName?] at h <;> rcases h with rfl | rfl <;> rfl

def earlier (s : Setting) : List Setting := all.takeWhile (· ≠ s)

theorem earlier_of_find? {p : Setting → Bool} {s : Setting} (h : all.find? p = some s) :
    ∀ r ∈ s.earlier, p r = false := by
  obtain ⟨hs, before, after, hall, hbefore⟩ := List.find?_eq_some_iff_append.mp h
  have hne : ∀ r ∈ before, decide (r ≠ s) = true := by
    intro r hr
    refine decide_eq_true fun hrs => ?_
    have := hbefore r hr
    rw [hrs, hs] at this
    exact absurd this (by decide)
  have hearlier : s.earlier = before := by
    rw [earlier, hall, List.takeWhile_append_of_pos hne]
    simp
  intro r hr
  rw [hearlier] at hr
  simpa using hbefore r hr

end Setting

namespace Toml.Table

theorem insert_of_not_mem {key : Text} (value : Value) {t : Table} (h : key ∉ t.map Prod.fst) :
    t.insert key value = t ++ [(key, value)] := by
  induction t with
  | nil => rfl
  | cons e rest ih =>
    rw [List.map_cons, List.mem_cons, not_or] at h
    rw [insert, if_neg (Ne.symm h.1), ih h.2, List.cons_append]

theorem foldl_insert_of_nodup {es : Table} (h : (es.map Prod.fst).Nodup) :
    es.foldl (fun t e => insert e.1 e.2 t) [] = es := by
  induction es using List.reverseRecOn with
  | nil => rfl
  | append_singleton es e ih =>
    rw [List.map_append, List.nodup_append] at h
    obtain ⟨hes, -, hne⟩ := h
    have hfresh : e.1 ∉ es.map Prod.fst :=
      fun hm => hne _ hm _ (List.mem_singleton_self _) rfl
    rw [List.foldl_concat, ih hes, insert_of_not_mem e.2 hfresh]

end Toml.Table

namespace Settings
open Toml (Table Value)

def entries (t : Table) : Table :=
  t.flatMap fun e =>
    match e.2 with
    | .table es => es
    | _ => [e]

theorem entries_append (t more : Table) : entries (t ++ more) = entries t ++ entries more :=
  List.flatMap_append

theorem flatten_eq_foldl (t : Table) :
    flatten t = (entries t).foldl (fun flat e => Table.insert e.1 e.2 flat) [] := by
  rw [entries, List.foldl_flatMap, flatten]
  congr 1
  funext flat e
  obtain ⟨key, value⟩ := e
  cases value <;> rfl

def Unambiguous (es : Table) : Prop :=
  es.Pairwise fun e f => e.1 ≠ f.1 ∧ ∀ s ∈ Setting.all, e.1 ∈ s.keys → f.1 ∉ s.keys

instance (es : Table) : Decidable (Unambiguous es) :=
  inferInstanceAs (Decidable (List.Pairwise _ es))

theorem Unambiguous.perm {es more : Table} (h : Unambiguous es) (hp : es.Perm more) :
    Unambiguous more :=
  hp.pairwise h fun hef => ⟨hef.1.symm, fun s hs hf he => hef.2 s hs he hf⟩

theorem flatten_eq_entries {t : Table} (h : Unambiguous (entries t)) : flatten t = entries t := by
  have hkeys : ((entries t).map Prod.fst).Nodup :=
    List.pairwise_map.mpr (h.imp And.left)
  rw [flatten_eq_foldl, Table.foldl_insert_of_nodup hkeys]

def Gives (es : Table) (s : Setting) (v : Value) : Prop := ∃ key ∈ s.keys, (key, v) ∈ es

theorem valueOf?_eq_some_iff {es : Table} (h : Unambiguous es) {s : Setting} {v : Value} :
    valueOf? es s = some v ↔ Gives es s v := by
  have hmem : ∀ e, e ∈ es.filter (fun e => Setting.ofKey? e.1 == some s) ↔
      e ∈ es ∧ e.1 ∈ s.keys := by
    intro e
    rw [List.mem_filter, beq_iff_eq, Setting.ofKey?_eq_some_iff]
  have hone := h.filter fun e => Setting.ofKey? e.1 == some s
  unfold valueOf? Gives
  -- Two entries for one setting would make the table ambiguous, so there is at most one.
  match hf : es.filter fun e => Setting.ofKey? e.1 == some s with
  | [] =>
    rw [hf] at hmem ⊢
    simp only [List.getLast?_nil, Option.map_none, reduceCtorEq, false_iff, not_exists, not_and]
    intro key hkey he
    exact List.not_mem_nil ((hmem (key, v)).mpr ⟨he, hkey⟩)
  | [e] =>
    rw [hf] at hmem ⊢
    simp only [List.getLast?_singleton, Option.map_some, Option.some.injEq]
    constructor
    · rintro rfl
      obtain ⟨he, hkey⟩ := (hmem e).mp List.mem_cons_self
      exact ⟨e.1, hkey, he⟩
    · rintro ⟨key, hkey, he⟩
      rw [← List.mem_singleton.mp ((hmem (key, v)).mpr ⟨he, hkey⟩)]
  | e :: f :: rest =>
    rw [hf] at hone hmem
    have hef := (List.pairwise_cons.mp hone).1 f List.mem_cons_self
    have he := ((hmem e).mp List.mem_cons_self).2
    have hf := ((hmem f).mp (List.mem_cons_of_mem _ List.mem_cons_self)).2
    exact absurd hf (hef.2 s s.mem_all he)

theorem checked?_eq_ok_iff {flat : Table} {s : Setting} {x? : Option s.Value} :
    checked? flat s = .ok x? ↔
      (∀ v, valueOf? flat s = some v → s.read? v ≠ none) ∧ (valueOf? flat s).bind s.read? = x? := by
  unfold checked?
  cases valueOf? flat s with
  | none => simp
  | some v => cases hr : s.read? v <;> simp [hr]

theorem checked?_eq_error_iff {flat : Table} {s : Setting} {e : SettingTypeError} :
    checked? flat s = .error e ↔
      e.setting = s ∧ valueOf? flat s = some e.value ∧ s.read? e.value = none := by
  obtain ⟨r, u⟩ := e
  unfold checked?
  cases valueOf? flat s with
  | none => simp
  | some v =>
    cases hr : s.read? v with
    | none =>
      simp only [hr, Except.error.injEq, SettingTypeError.mk.injEq, Option.some.injEq]
      constructor
      · rintro ⟨rfl, rfl⟩
        exact ⟨rfl, rfl, hr⟩
      · rintro ⟨rfl, rfl, -⟩
        exact ⟨rfl, rfl⟩
    | some x =>
      simp only [hr, reduceCtorEq, false_iff, Option.some.injEq, not_and]
      rintro - rfl
      simp [hr]

theorem ofFlat_of_checked {flat : Table} {config : Settings}
    (h : ∀ s, checked? flat s = .ok (config.value? s)) : ofFlat flat = .ok config := by
  rw [ofFlat, h .cols, h .tabs, h .notoc, h .norules, h .pascal, h .desc]
  rfl

theorem ofFlat_of_failed {flat : Table} {s : Setting} {e : SettingTypeError}
    (hs : checked? flat s = .error e)
    (h : ∀ r ∈ s.earlier, checked? flat r = .ok ((valueOf? flat r).bind r.read?)) :
    ofFlat flat = .error e := by
  cases s <;> simp [Setting.earlier, Setting.all] at h <;> simp [ofFlat, h, hs, bind, Except.bind]

def ofValues (value? : (s : Setting) → Option s.Value) : Settings where
  cols := value? .cols
  tabs := value? .tabs
  notoc := value? .notoc
  norules := value? .norules
  pascal := value? .pascal
  desc := value? .desc

theorem value?_ofValues (value? : (s : Setting) → Option s.Value) (s : Setting) :
    (ofValues value?).value? s = value? s := by
  cases s <;> rfl

/-- Either every setting can be read, or there is a first one that cannot. -/
theorem checked_or_failed (flat : Table) :
    (∀ s, checked? flat s = .ok ((valueOf? flat s).bind s.read?)) ∨
    ∃ s e, checked? flat s = .error e ∧
      ∀ r ∈ s.earlier, checked? flat r = .ok ((valueOf? flat r).bind r.read?) := by
  have hok : ∀ s, (checked? flat s).isOk →
      checked? flat s = .ok ((valueOf? flat s).bind s.read?) := by
    intro s hs
    cases hc : checked? flat s with
    | error e => simp [hc, Except.isOk, Except.toBool] at hs
    | ok x? => rw [(checked?_eq_ok_iff.mp hc).2]
  cases hf : Setting.all.find? fun s => !(checked? flat s).isOk with
  | none =>
    refine Or.inl fun s => hok s ?_
    simpa using List.find?_eq_none.mp hf s s.mem_all
  | some s =>
    right
    have hs := List.find?_some hf
    cases hc : checked? flat s with
    | ok x? => simp [hc, Except.isOk, Except.toBool] at hs
    | error e =>
      refine ⟨s, e, hc, fun r hr => hok r ?_⟩
      simpa using Setting.earlier_of_find? hf r hr

theorem ofFlat_eq_ok_iff {flat : Table} {config : Settings} :
    ofFlat flat = .ok config ↔ ∀ s, checked? flat s = .ok (config.value? s) := by
  constructor
  · intro h
    rcases checked_or_failed flat with hall | ⟨s, e, hs, hearlier⟩
    · have hread : ofFlat flat = .ok (ofValues fun s => (valueOf? flat s).bind s.read?) :=
        ofFlat_of_checked fun s => by rw [hall s, value?_ofValues]
      rw [hread] at h
      obtain rfl := Except.ok.inj h
      intro s
      rw [hall s, value?_ofValues]
    · rw [ofFlat_of_failed hs hearlier] at h
      exact absurd h (by simp)
  · exact ofFlat_of_checked

/-- The first setting that cannot be read is reported. -/
theorem ofFlat_eq_error_iff {flat : Table} {e : SettingTypeError} :
    ofFlat flat = .error e ↔ checked? flat e.setting = .error e ∧
      ∀ r ∈ e.setting.earlier, checked? flat r = .ok ((valueOf? flat r).bind r.read?) := by
  constructor
  · intro h
    rcases checked_or_failed flat with hall | ⟨s, e', hs, hearlier⟩
    · have hread : ofFlat flat = .ok (ofValues fun s => (valueOf? flat s).bind s.read?) :=
        ofFlat_of_checked fun s => by rw [hall s, value?_ofValues]
      rw [hread] at h
      exact absurd h (by simp)
    · rw [ofFlat_of_failed hs hearlier] at h
      obtain rfl := Except.error.inj h
      obtain rfl := (checked?_eq_error_iff.mp hs).1
      exact ⟨hs, hearlier⟩
  · rintro ⟨hs, hearlier⟩
    exact ofFlat_of_failed hs hearlier

/-- Two tables that differ in the order of entries, at the top or within a section, in what stands
at the top and what in a section, or in sections without entries. -/
inductive Regrouped : Table → Table → Prop where
  | permuted {t t' : Table} : t.Perm t' → Regrouped t t'
  | within (before after : Table) (key : Text) {es es' : Table} : es.Perm es' →
      Regrouped (before ++ (key, .table es) :: after) (before ++ (key, .table es') :: after)
  | moved (before after : Table) (key : Text) (es : Table) (e : Text × Value) :
      (∀ sub, e.2 ≠ .table sub) →
      Regrouped (e :: before ++ (key, .table es) :: after)
        (before ++ (key, .table (e :: es)) :: after)
  | emptied (before after : Table) (key : Text) :
      Regrouped (before ++ (key, .table []) :: after) (before ++ after)
  | symm {t t' : Table} : Regrouped t t' → Regrouped t' t
  | trans {t t' t'' : Table} : Regrouped t t' → Regrouped t' t'' → Regrouped t t''

theorem entries_section (before after : Table) (key : Text) (es : Table) :
    entries (before ++ (key, .table es) :: after) = entries before ++ (es ++ entries after) := by
  rw [entries_append]
  rfl

theorem entries_cons_of_not_table {e : Text × Value} (h : ∀ sub, e.2 ≠ .table sub) (t : Table) :
    entries (e :: t) = e :: entries t := by
  obtain ⟨key, value⟩ := e
  cases value with
  | table sub => exact absurd rfl (h sub)
  | _ => rfl

theorem Regrouped.perm {t t' : Table} (h : Regrouped t t') : (entries t).Perm (entries t') := by
  induction h with
  | permuted hp => exact hp.flatMap_right _
  | within before after key hp =>
    rw [entries_section, entries_section]
    exact (hp.append_right _).append_left _
  | moved before after key es e he =>
    rw [List.cons_append, entries_cons_of_not_table he, entries_section, entries_section]
    exact List.perm_middle.symm
  | emptied before after key => rw [entries_section, List.nil_append, entries_append]
  | symm _ ih => exact ih.symm
  | trans _ _ ih ih' => exact ih.trans ih'

theorem Gives.perm {es es' : Table} (hp : es.Perm es') {s : Setting} {v : Value} :
    Gives es s v ↔ Gives es' s v := by
  unfold Gives
  simp only [hp.mem_iff]

theorem checked?_perm {es es' : Table} (h : Unambiguous es) (hp : es.Perm es') (s : Setting) :
    checked? es s = checked? es' s := by
  have hv : valueOf? es s = valueOf? es' s := by
    ext v
    rw [valueOf?_eq_some_iff h, valueOf?_eq_some_iff (h.perm hp), Gives.perm hp]
  unfold checked?
  rw [hv]

theorem ofFlat_perm {es es' : Table} (h : Unambiguous es) (hp : es.Perm es') :
    ofFlat es' = ofFlat es := by
  unfold ofFlat
  simp only [checked?_perm h hp]

theorem checked?_eq_ok_iff_gives {es : Table} (h : Unambiguous es) {s : Setting}
    {x? : Option s.Value} :
    checked? es s = .ok x? ↔ (∀ v, Gives es s v → s.read? v ≠ none) ∧
      ∀ x, x? = some x ↔ ∃ v, Gives es s v ∧ s.read? v = some x := by
  rw [checked?_eq_ok_iff]
  simp only [valueOf?_eq_some_iff h]
  refine and_congr_right fun _ => ?_
  constructor
  · rintro rfl x
    simp only [Option.bind_eq_some_iff, valueOf?_eq_some_iff h]
  · intro hx
    ext x
    simp only [hx x, Option.bind_eq_some_iff, valueOf?_eq_some_iff h]

theorem unknownKeys_eq (es : Table) : unknownKeys es =
    (es.map Prod.fst).filter fun key => ∀ s ∈ Setting.all, key ∉ s.keys := by
  have hnone : ∀ key, (Setting.ofKey? key).isNone ↔ ∀ s ∈ Setting.all, key ∉ s.keys := by
    intro key
    simp [Option.eq_none_iff_forall_not_mem, Option.mem_def, Setting.ofKey?_eq_some_iff,
      Setting.mem_all]
  rw [unknownKeys, List.filter_map]
  congr 1
  refine List.filter_congr fun e _ => ?_
  rw [Bool.eq_iff_iff, hnone]
  simp

end Settings
end HelpFile
