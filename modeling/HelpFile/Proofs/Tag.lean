import HelpFile.Options
import HelpFile.Tag

/-!
# Signs in titles and tags

A sign is a character whose number comes before the letters, such as a line feed or a mark of a
literal block. Case mapping makes no signs, so the signs of a tag are those of the file name and of
the heading.
-/
namespace HelpFile

def IsSign (c : Char) : Prop := 0 < c.toNat ∧ c.toNat < 65

namespace Text

def CaseMap.above (m : CaseMap) (bound : Nat) : Bool :=
  m.shifts.all (fun s => bound ≤ s.first + s.offset) &&
    m.expansions.all (fun e => e.2.all (bound ≤ ·))

theorem upperMap_above : upperMap.above 65 := by decide +kernel

theorem lowerMap_above : lowerMap.above 97 := by decide +kernel

theorem toNat_ofNat (n : Nat) : (Char.ofNat n).toNat = n ∨ (Char.ofNat n).toNat = 0 := by
  by_cases hv : n.isValidChar
  · exact Or.inl (by rw [Char.ofNat, dif_pos hv]; rfl)
  · exact Or.inr (by rw [Char.ofNat, dif_neg hv]; rfl)

/-- A character below the bound is not made from another. -/
theorem CaseMap.eq_of_mem_apply {m : CaseMap} {bound : Nat} (hm : m.above bound) {c d : Char}
    (hpos : 0 < d.toNat) (hlt : d.toNat < bound) (hd : d ∈ m.apply c) : d = c := by
  obtain ⟨hshift, hexp⟩ := Bool.and_eq_true_iff.mp hm
  rw [List.all_eq_true] at hshift hexp
  unfold CaseMap.apply at hd
  split at hd
  · next cs hcs =>
    obtain ⟨n, hn, rfl⟩ := List.mem_map.mp hd
    obtain ⟨k, hk⟩ : ∃ k, (k, cs) ∈ m.expansions := by
      rw [List.lookup_eq_some_iff] at hcs
      obtain ⟨before, after, he, -⟩ := hcs
      exact ⟨c.toNat, by simp [he]⟩
    have hbound : bound ≤ n := by simpa using List.all_eq_true.mp (hexp _ hk) n hn
    have := toNat_ofNat n
    omega
  · split at hd
    · next s hf =>
      obtain rfl := List.mem_singleton.mp hd
      have hb : (bound : Int) ≤ s.first + s.offset := by
        simpa using hshift s (List.mem_of_find?_eq_some hf)
      have hc : s.covers c.toNat := by simpa using List.find?_some hf
      have : s.first ≤ c.toNat := by
        simp only [CaseShift.covers, Bool.and_eq_true, decide_eq_true_eq] at hc
        exact hc.1.1
      have := toNat_ofNat (c.toNat + s.offset).toNat
      omega
    · exact List.mem_singleton.mp hd

theorem mem_of_mem_upper {d : Char} (hs : IsSign d) {text : Text} (h : d ∈ upper text) :
    d ∈ text := by
  obtain ⟨c, hc, hd⟩ := List.mem_flatMap.mp h
  exact CaseMap.eq_of_mem_apply upperMap_above hs.1 hs.2 hd ▸ hc

theorem mem_of_mem_lowerAfter {d : Char} (hpos : 0 < d.toNat) (hlt : d.toNat < 97)
    {before text : Text} (h : d ∈ lowerAfter before text) : d ∈ text := by
  induction text generalizing before with
  | nil => simp [lowerAfter] at h
  | cons c rest ih =>
    rw [lowerAfter] at h
    rcases List.mem_append.mp h with h | h
    · split at h
      · split at h
        · rw [List.mem_singleton.mp h] at hlt
          exact absurd hlt (by decide)
        · rw [List.mem_singleton.mp h] at hlt
          exact absurd hlt (by decide)
      · rw [CaseMap.eq_of_mem_apply lowerMap_above hpos hlt h]
        exact List.mem_cons_self
    · exact List.mem_cons_of_mem _ (ih h)

theorem mem_of_mem_lower {d : Char} (hs : IsSign d) {text : Text} (h : d ∈ lower text) :
    d ∈ text :=
  mem_of_mem_lowerAfter hs.1 (Nat.lt_trans hs.2 (by decide)) h

theorem mem_of_mem_splitOn {separator : Char} {text part : Text}
    (hp : part ∈ splitOn separator text) {c : Char} (hc : c ∈ part) : c ∈ text := by
  induction text generalizing part with
  | nil =>
    obtain rfl := List.mem_singleton.mp hp
    simp at hc
  | cons d rest ih =>
    rw [splitOn] at hp
    split at hp
    · rcases List.mem_cons.mp hp with rfl | hp
      · simp at hc
      · exact List.mem_cons_of_mem _ (ih hp hc)
    · split at hp
      · obtain rfl := List.mem_singleton.mp hp
        exact List.mem_singleton.mp hc ▸ List.mem_cons_self
      · next first more hm =>
        rcases List.mem_cons.mp hp with rfl | hp
        · rcases List.mem_cons.mp hc with rfl | hc
          · exact List.mem_cons_self
          · exact List.mem_cons_of_mem _ (ih (hm ▸ List.mem_cons_self) hc)
        · exact List.mem_cons_of_mem _ (ih (hm ▸ List.mem_cons_of_mem _ hp) hc)

end Text

namespace Tag

theorem mem_of_mem_capitalizeFrom {d : Char} (hs : IsSign d) {before : Bool} {text : Text}
    (h : d ∈ capitalizeFrom before text) : d ∈ text := by
  induction text generalizing before with
  | nil => simp [capitalizeFrom] at h
  | cons c rest ih =>
    rw [capitalizeFrom] at h
    rcases List.mem_append.mp h with h | h
    · split at h
      · rw [Text.CaseMap.eq_of_mem_apply Text.upperMap_above hs.1 hs.2 h]
        exact List.mem_cons_self
      · exact List.mem_singleton.mp h ▸ List.mem_cons_self
    · exact List.mem_cons_of_mem _ (ih h)

theorem mem_of_mem_slug {d : Char} (hs : IsSign d) {text : Text} {pascal : Bool}
    (h : d ∈ slug text pascal) : d ∈ text := by
  unfold slug at h
  split at h
  · exact mem_of_mem_capitalizeFrom hs (List.mem_filter.mp h).1
  · obtain ⟨c, hc, rfl⟩ := List.mem_map.mp h
    split at hs
    · simp [IsSign] at hs
    · next hne =>
      rw [if_neg hne]
      exact Text.mem_of_mem_lower hs hc

/-- The dash behind the title is the only sign a tag adds. -/
theorem mem_of_mem_ofHeading {d : Char} (hs : IsSign d) {title text : Text} {pascal : Bool}
    (h : d ∈ ofHeading title text pascal) : d ∈ title ∨ d = '-' ∨ d ∈ text := by
  rcases List.mem_append.mp h with h | h
  · exact Or.inl h
  · rcases List.mem_cons.mp h with h | h
    · exact Or.inr (Or.inl h)
    · exact Or.inr (Or.inr (mem_of_mem_slug hs h))

end Tag

theorem Path.mem_of_mem_name {text : Text} {c : Char} (h : c ∈ (Path.ofText text).name) :
    c ∈ text := by
  unfold Path.name at h
  cases hl : (Path.ofText text).names.getLast? with
  | none => simp [hl] at h
  | some part =>
    rw [hl, Option.getD_some] at h
    have hp := List.mem_of_getLast? hl
    exact Text.mem_of_mem_splitOn (List.mem_filter.mp hp).1 h

theorem Path.mem_of_beforeLastDot {name base : Text} (hb : beforeLastDot? name = some base)
    {c : Char} (h : c ∈ base) : c ∈ name := by
  unfold beforeLastDot? at hb
  split at hb
  · obtain rfl := Option.some.inj hb
    have := List.mem_of_mem_drop (List.mem_reverse.mp h)
    exact List.mem_reverse.mp ((List.dropWhile_sublist _).subset this)
  · simp at hb

theorem Options.mem_of_mem_basename {o : Options} {c : Char} (h : c ∈ o.basename) :
    c ∈ o.filename := Path.mem_of_mem_name h

theorem Options.mem_of_mem_title {d : Char} (hs : IsSign d) {o : Options} (h : d ∈ o.title) :
    d ∈ o.basename := by
  unfold Options.title helpTitle at h
  unfold Options.basename
  simp only at h
  split at h
  · exact h
  · next base hb =>
    split at h
    · exact Path.mem_of_beforeLastDot hb h
    · exact Path.mem_of_beforeLastDot hb (Text.mem_of_mem_lower hs h)

end HelpFile
