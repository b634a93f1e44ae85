import HelpFile.Proofs.Entries

/-!
# Distinct tags

A slug is made word by word. In lower case the words can be read back from it, so two headings share
a tag only if they have the same words, letter case apart. In Pascal case the words run together;
two headings that share a tag then differ at most in letter case and spaces. A document has as many
anchors as headings, and a link has one target, if no two of its headings are alike in this way.
-/
namespace HelpFile

namespace Tag

/-- Where a slug ends a word: at spaces, and in lower case at underscores, which stand for spaces
there. -/
def isGap (pascal : Bool) (c : Char) : Bool := c == ' ' || !pascal && c == '_'

def words (pascal : Bool) (text : Text) : List Text := text.splitOnP (isGap pascal)

/-- Two texts have the same words in lower case or, in Pascal case, the same capitalised words when
these are written together. -/
def Alike (pascal : Bool) (a b : Text) : Prop :=
  if pascal then (words true a).flatMap capitalize = (words true b).flatMap capitalize
  else (words false a).map Text.lower = (words false b).map Text.lower

instance (pascal : Bool) (a b : Text) : Decidable (Alike pascal a b) :=
  inferInstanceAs (Decidable (if pascal then _ = _ else _ = _))

inductive Raised : Text → Text → Prop where
  | nil : Raised [] []
  | kept (c : Char) {text raised : Text} : Raised text raised → Raised (c :: text) (c :: raised)
  | upper (c : Char) {text raised : Text} : Raised text raised →
      Raised (c :: text) (Text.upperMap.apply c ++ raised)

end Tag

/-! ## Case at the ends of words -/

namespace Text
open Tag (isGap)

theorem eq_of_isGap {pascal : Bool} {g : Char} (hg : isGap pascal g = true) :
    g = ' ' ∨ g = '_' := by
  rcases Bool.or_eq_true_iff.mp hg with hg | hg
  · exact Or.inl (by simpa using hg)
  · exact Or.inr (by simpa using (Bool.and_eq_true_iff.mp hg).2)

variable {g : Char} (hg : isGap false g = true)
include hg

theorem lowerMap_gap : lowerMap.apply g = [g] := by
  rcases eq_of_isGap hg with rfl | rfl <;> decide +kernel

theorem nextIsCased_gap (behind : Text) : nextIsCased (g :: behind) = false := by
  have hneither : inRanges caseIgnorableRanges g = false ∧ inRanges casedRanges g = false := by
    rcases eq_of_isGap hg with rfl | rfl <;> decide +kernel
  rw [nextIsCased, hneither.1, hneither.2]
  rfl

/-- What is beyond a gap has no say in whether a sigma is final. -/
theorem nextIsCased_append_gap (ahead behind : Text) :
    nextIsCased (ahead ++ g :: behind) = nextIsCased ahead := by
  induction ahead with
  | nil => exact nextIsCased_gap hg behind
  | cons c ahead ih => rw [List.cons_append, nextIsCased, nextIsCased, ih]

theorem lowerAfter_append_before (before beyond text : Text) :
    lowerAfter (before ++ g :: beyond) text = lowerAfter before text := by
  induction text generalizing before with
  | nil => rfl
  | cons c text ih =>
    rw [lowerAfter, lowerAfter, nextIsCased_append_gap hg, ← List.cons_append, ih]

theorem lowerAfter_append_gap (before word rest : Text) :
    lowerAfter before (word ++ g :: rest) = lowerAfter before word ++ g :: lower rest := by
  induction word generalizing before with
  | nil =>
    have hsigma : g ≠ 'Σ' := by rcases eq_of_isGap hg with rfl | rfl <;> decide
    have hrest : lowerAfter (g :: before) rest = lower rest :=
      lowerAfter_append_before hg [] before rest
    simp only [List.nil_append, lowerAfter, if_neg hsigma, lowerMap_gap hg, hrest,
      List.singleton_append]
  | cons c word ih =>
    rw [List.cons_append, lowerAfter, lowerAfter, nextIsCased_append_gap hg, ih, List.append_assoc]

end Text

namespace Tag

theorem isWord_space : Text.isWord ' ' = false := by decide +kernel

theorem capitalizeFrom_append_space (before : Bool) (word rest : Text) :
    capitalizeFrom before (word ++ ' ' :: rest) =
      capitalizeFrom before word ++ ' ' :: capitalize rest := by
  induction word generalizing before with
  | nil => simp [capitalizeFrom, capitalize, isWord_space]
  | cons c word ih => rw [List.cons_append, capitalizeFrom, capitalizeFrom, ih, List.append_assoc]

/-! ## A slug word by word -/

theorem slug_pascal_append_space (word rest : Text) :
    slug (word ++ ' ' :: rest) true = slug word true ++ slug rest true := by
  simp [slug, capitalize, capitalizeFrom_append_space]

theorem slug_lower_append_gap {g : Char} (hg : isGap false g = true) (word rest : Text) :
    slug (word ++ g :: rest) false = slug word false ++ '_' :: slug rest false := by
  have hunder : (if g = ' ' then '_' else g) = '_' := by
    rcases Text.eq_of_isGap hg with rfl | rfl <;> decide
  simp [slug, Text.lower, Text.lowerAfter_append_gap hg, hunder]

/-- A text is one word, or a word, a gap and a text. -/
theorem words_induction (pascal : Bool) {P : Text → Prop}
    (last : ∀ word, (∀ c ∈ word, isGap pascal c = false) → P word)
    (more : ∀ word g rest, (∀ c ∈ word, isGap pascal c = false) → isGap pascal g = true →
      P rest → P (word ++ g :: rest)) (text : Text) : P text := by
  -- The word in front is carried along until a gap or the end of the text completes it.
  suffices h : ∀ word, (∀ c ∈ word, isGap pascal c = false) → P (word ++ text) from
    h [] (by simp)
  induction text with
  | nil => simpa using last
  | cons c text ih =>
    intro word hword
    cases hc : isGap pascal c with
    | true => exact more word c text hword hc (ih [] (by simp))
    | false =>
      rw [← List.singleton_append, ← List.append_assoc]
      refine ih (word ++ [c]) fun d hd => ?_
      rcases List.mem_append.mp hd with hd | hd
      · exact hword d hd
      · exact List.mem_singleton.mp hd ▸ hc

theorem words_append_gap {pascal : Bool} {word : Text} (hword : ∀ c ∈ word, isGap pascal c = false)
    {g : Char} (hg : isGap pascal g = true) (rest : Text) :
    words pascal (word ++ g :: rest) = word :: words pascal rest :=
  List.splitOnP_append_cons_of_forall_mem hword g hg rest

theorem isGap_of_mem_words {pascal : Bool} {text word : Text} (hword : word ∈ words pascal text)
    {c : Char} (hc : c ∈ word) : isGap pascal c = false := by
  induction text using words_induction pascal with
  | last whole hwhole =>
    rw [words, List.splitOnP_eq_singleton hwhole] at hword
    exact hwhole c (List.mem_singleton.mp hword ▸ hc)
  | more first g rest hfirst hg ih =>
    rw [words_append_gap hfirst hg] at hword
    rcases List.mem_cons.mp hword with rfl | hword
    · exact hfirst c hc
    · exact ih hword

theorem slug_pascal_word {word : Text} (hword : ∀ c ∈ word, isGap true c = false) :
    slug word true = capitalize word := by
  have hs : IsSign ' ' := by simp [IsSign]
  refine List.filter_eq_self.mpr fun c hc => ?_
  have hne : c ≠ ' ' := by
    rintro rfl
    exact absurd (hword ' ' (mem_of_mem_capitalizeFrom hs hc)) (by decide)
  simpa using hne

theorem slug_pascal_eq_words (text : Text) :
    slug text true = (words true text).flatMap capitalize := by
  induction text using words_induction true with
  | last word hword => simp [words, List.splitOnP_eq_singleton hword, slug_pascal_word hword]
  | more word g rest hword hg ih =>
    obtain rfl : g = ' ' := by simpa [isGap] using hg
    rw [slug_pascal_append_space, words_append_gap hword hg, List.flatMap_cons,
      slug_pascal_word hword, ih]

/-- A word has no gaps in lower case either. -/
theorem isGap_of_mem_lower {word : Text} (hword : ∀ c ∈ word, isGap false c = false) {c : Char}
    (hc : c ∈ Text.lower word) : isGap false c = false := by
  by_contra hgap
  have hor : c = ' ' ∨ c = '_' := Text.eq_of_isGap (by simpa using hgap)
  have hmem : c ∈ word := by
    rcases hor with rfl | rfl <;> exact Text.mem_of_mem_lowerAfter (by decide) (by decide) hc
  exact hgap (hword c hmem)

theorem slug_lower_word {word : Text} (hword : ∀ c ∈ word, isGap false c = false) :
    slug word false = Text.lower word := by
  refine (List.map_congr_left fun c hc => if_neg ?_).trans (List.map_id' _)
  rintro rfl
  exact absurd (isGap_of_mem_lower hword hc) (by decide)

theorem slug_lower_eq_words (text : Text) :
    slug text false = ['_'].intercalate ((words false text).map Text.lower) := by
  induction text using words_induction false with
  | last word hword => simp [words, List.splitOnP_eq_singleton hword, slug_lower_word hword]
  | more word g rest hword hg ih =>
    have hne : (words false rest).map Text.lower ≠ [] := by simp [words]
    rw [slug_lower_append_gap hg, ih, words_append_gap hword hg, List.map_cons,
      List.intercalate_cons_of_ne_nil hne, slug_lower_word hword]
    simp

/-! ## Alike headings -/

/-- The words in lower case can be read back from a slug, cut at its underscores. -/
theorem words_of_slug (text : Text) :
    List.splitOn '_' (slug text false) = (words false text).map Text.lower := by
  have hunder : ∀ word ∈ (words false text).map Text.lower, '_' ∉ word := by
    intro word hword h
    obtain ⟨plain, hplain, rfl⟩ := List.mem_map.mp hword
    exact absurd (isGap_of_mem_lower (fun c hc => isGap_of_mem_words hplain hc) h) (by decide)
  have hne : (words false text).map Text.lower ≠ [] := by simp [words]
  rw [slug_lower_eq_words, List.splitOn_intercalate '_' hunder hne]

theorem slug_eq_iff {pascal : Bool} {a b : Text} :
    slug a pascal = slug b pascal ↔ Alike pascal a b := by
  cases pascal with
  | true => rw [slug_pascal_eq_words, slug_pascal_eq_words, Alike, if_pos rfl]
  | false =>
    rw [Alike, if_neg Bool.false_ne_true]
    constructor
    · intro h
      rw [← words_of_slug, ← words_of_slug, h]
    · intro h
      rw [slug_lower_eq_words, slug_lower_eq_words, h]

theorem ofHeading_eq_iff {title : Text} {pascal : Bool} {a b : Text} :
    ofHeading title a pascal = ofHeading title b pascal ↔ Alike pascal a b := by
  rw [ofHeading, ofHeading, List.append_cancel_left_eq, List.cons.injEq, slug_eq_iff]
  simp

theorem raised_capitalizeFrom (before : Bool) (text : Text) :
    Raised (text.filter (· != ' ')) ((capitalizeFrom before text).filter (· != ' ')) := by
  have hs : IsSign ' ' := by simp [IsSign]
  induction text generalizing before with
  | nil => exact .nil
  | cons c rest ih =>
    by_cases hspace : c = ' '
    · subst hspace
      simpa [capitalizeFrom, isWord_space] using ih false
    rw [List.filter_cons_of_pos (by simpa using hspace), capitalizeFrom, List.filter_append]
    split
    · have hupper : (Text.upperMap.apply c).filter (· != ' ') = Text.upperMap.apply c := by
        refine List.filter_eq_self.mpr fun d hd => ?_
        have hne : d ≠ ' ' := by
          rintro rfl
          exact hspace (Text.CaseMap.eq_of_mem_apply Text.upperMap_above hs.1 hs.2 hd).symm
        simpa using hne
      rw [hupper]
      exact .upper c (ih _)
    · rw [List.filter_cons_of_pos (by simpa using hspace)]
      exact .kept c (ih _)

/-- Texts that are alike in Pascal case differ at most in letter case and spaces. -/
theorem exists_raised_of_alike {a b : Text} (h : Alike true a b) :
    ∃ common, Raised (a.filter (· != ' ')) common ∧ Raised (b.filter (· != ' ')) common := by
  have hslug : slug a true = slug b true := slug_eq_iff.mpr h
  refine ⟨slug a true, raised_capitalizeFrom false a, ?_⟩
  rw [hslug]
  exact raised_capitalizeFrom false b

end Tag

namespace Writer
open Block Delimiter

def tags (w : Writer) (blocks : List Block) : List Text :=
  (headingsOfAll blocks).map fun h => w.tag h.text

theorem nodup_tags_iff (w : Writer) (blocks : List Block) :
    (w.tags blocks).Nodup ↔ (headingsOfAll blocks).Pairwise fun g h =>
      ¬ Tag.Alike w.options.pascal g.text h.text := by
  rw [tags, List.Nodup, List.pairwise_map]
  exact List.Pairwise.iff fun g h => not_congr Tag.ofHeading_eq_iff

/-- What the table of contents links to is an anchor of the document. -/
theorem tag_mem_tags {w : Writer} {blocks : List Block} {root : Heading}
    (hroot : (w.after blocks).outline.root? = some root) {n : Int × Text}
    (hn : n ∈ root.nodes 0) : w.tag n.2 ∈ w.tags blocks := by
  cases hh : headingsOfAll blocks with
  | nil => simp [after, hh, Outline.placeAll, Outline.root?] at hroot
  | cons first rest =>
    obtain rfl : first.over rest = root := by simpa [w.root?_after hh] using hroot
    have hleaf : ∀ h ∈ first :: rest, h.children = [] :=
      fun h hm => (mem_headingsOfAll blocks (hh ▸ hm)).1
    obtain ⟨h, hm, ht⟩ := Heading.mem_nodes_over hleaf hn
    exact List.mem_map.mpr ⟨h, hh ▸ hm, congrArg w.tag ht⟩

/-- The rows of a document are among its lines, in order. -/
theorem rows_sublist_lines (w : Writer) (blocks : List Block) :
    (((rowsOfAll w.options blocks).map Row.flush).map Row.text).Sublist (Text.lines
      (flushLeft w.headerText ++ w.bodyAround (w.contentsText blocks) blocks)) := by
  obtain ⟨before, hheader⟩ := w.flushLeft_headerText_append (Or.inl rfl)
  rw [List.append_nil] at hheader
  rw [hheader, List.append_assoc, List.singleton_append, Text.lines_append_newline]
  refine List.Sublist.trans ?_ (List.sublist_append_right _ _)
  -- With headings, the table of contents and its empty line come between the rows.
  by_cases hh : headingsOfAll blocks = []
  · rw [w.bodyAround_plain hh, body, Row.lines_textOf]
    exact List.sublist_append_left _ _
  · rw [w.bodyAround_headed hh, ← ahead_append_behind, List.map_append, List.map_append,
      List.append_assoc, Row.lines_textOf_append]
    refine List.Sublist.append_left ?_ _
    rcases w.ended_contentsText blocks with hnone | ⟨contents, hcontents⟩
    · rw [hnone, List.nil_append, Row.lines_textOf]
      exact List.sublist_append_left _ _
    · rw [hcontents, List.append_assoc, List.singleton_append, Text.lines_append_newline,
        Row.lines_textOf]
      exact (List.sublist_append_left _ _).trans (List.sublist_append_right _ _)

theorem anchorLines_document {w : Writer} (hname : '\n' ∉ w.options.basename) {blocks : List Block}
    (ht : ∀ h ∈ headingsOfAll blocks, '\n' ∉ h.text) :
    w.AnchorLines (headingsOfAll blocks)
      (flushLeft w.headerText ++ w.bodyAround (w.contentsText blocks) blocks) := by
  have hrows := anchors_of_headingLines hname ht (headingLines_rowsOfAll w.options blocks)
  obtain ⟨anchors, hall, hs⟩ := List.sublistForall₂_iff.mp hrows
  refine List.sublistForall₂_iff.mpr ⟨anchors, hall.imp ?_, hs.trans (w.rows_sublist_lines blocks)⟩
  rintro h line ⟨lead, -, rfl⟩
  exact w.endsInTag_anchor lead h.text

/-- Two headings have the same tag if and only if they are alike, which in Pascal case leaves room
for letter case and spaces only. So the anchors that stand at the ends of a document's heading lines
are distinct if and only if no two headings are alike, and then every link has one target. -/
theorem tags_distinct_iff (w : Writer) (blocks : List Block) :
    (∀ title pascal a b, Tag.ofHeading title a pascal = Tag.ofHeading title b pascal ↔
      Tag.Alike pascal a b) ∧
    (∀ a b, Tag.Alike true a b → ∃ common, Tag.Raised (a.filter (· != ' ')) common ∧
      Tag.Raised (b.filter (· != ' ')) common) ∧
    ∃ text left, w.document blocks = .ok (text, left) ∧
      ((w.tags blocks).Nodup ↔ (headingsOfAll blocks).Pairwise fun g h =>
        ¬ Tag.Alike w.options.pascal g.text h.text) ∧
      ((w.tags blocks).Nodup → ∀ root, left.outline.root? = some root →
        ∀ n ∈ root.nodes 0, (w.tags blocks).count (w.tag n.2) = 1) ∧
      ('\n' ∉ w.options.basename → (∀ h ∈ headingsOfAll blocks, '\n' ∉ h.text) →
        w.AnchorLines (headingsOfAll blocks) text) := by
  refine ⟨fun title pascal a b => Tag.ofHeading_eq_iff, fun a b => Tag.exists_raised_of_alike,
    _, _, w.document_eq_bodyAround blocks, w.nodup_tags_iff blocks, ?_,
    fun hname ht => anchorLines_document hname ht⟩
  intro hnodup root hroot n hn
  rw [hnodup.count, if_pos (tag_mem_tags hroot hn)]

theorem tags_distinct_in_document :
    let w := Writer.fresh .standard
    let blocks := [heading 1 [.text "Set up".toList], heading 2 [.text "Setup".toList]]
    ∃ text left, w.document blocks = .ok (text, left) ∧ (w.tags blocks).Nodup ∧
      (∀ root, left.outline.root? = some root →
        ∀ n ∈ root.nodes 0, (w.tags blocks).count (w.tag n.2) = 1) ∧
      w.AnchorLines (headingsOfAll blocks) text := by
  intro w blocks
  obtain ⟨-, -, text, left, hdocument, hdistinct, htarget, hanchors⟩ := tags_distinct_iff w blocks
  have hnodup : (w.tags blocks).Nodup := hdistinct.mpr (by decide +kernel)
  exact ⟨text, left, hdocument, hnodup, htarget hnodup, hanchors (by decide) (by decide +kernel)⟩

/-- Letter case is lost in lower case, and word spacing in Pascal case. -/
theorem tags_collide :
    "Usage".toList ≠ "USAGE".toList ∧
      Tag.ofHeading "doc".toList "Usage".toList false =
        Tag.ofHeading "doc".toList "USAGE".toList false ∧
      "Set Up".toList ≠ "SetUp".toList ∧
      Tag.ofHeading "doc".toList "Set Up".toList true =
        Tag.ofHeading "doc".toList "SetUp".toList true := by
  decide +kernel

end Writer
end HelpFile
