import HelpFile.Proofs.CodeLines
import HelpFile.Proofs.Place
import HelpFile.Proofs.Sweep
import HelpFile.Proofs.Unmarked

/-!
# Code inside containers

What is written in front of a code block and behind it depends on its place alone, and each quote,
alert or item around the place moves the lines of the code one more indentation to the right.
-/
namespace HelpFile

namespace Row
open Text

theorem newline_not_mem_mark {mark : Char} (h : Delimiter.isMark mark) : '\n' ∉ [mark] := by
  intro hm
  rw [← List.mem_singleton.mp hm] at h
  cases h

def openingBehind (lead : Text) (h : Lead lead) : Row :=
  (⟨.opening, ['>'], newline_not_mem_mark rfl⟩ : Row).behind lead h

theorem indented_openingBehind (width : Int) {lead : Text} (h : Lead lead) :
    indented width [openingBehind lead h] =
      [openingBehind (spaces width.toNat ++ lead) ((Lead.spaces _).append h)] := by
  have hshows : (openingBehind lead h).shows := shows_behind rfl h
  rw [indented, List.filter_singleton, hshows]
  exact congrArg ([·]) (behind_behind _ h (Lead.spaces _))

def codeLines (m n : Nat) (code : Text) : List Row :=
  ((ofLines .plain code).filter shows).map (·.behind (spaces n) (Lead.spaces n)) ++
    [(⟨.closing, ['<'], newline_not_mem_mark rfl⟩ : Row).behind (spaces m) (Lead.spaces m)]

def codeRows (lead : Text) (h : Lead lead) (m n : Nat) (code : Text) : List Row :=
  openingBehind lead h :: codeLines m n code

theorem shows_codeLines {m n : Nat} {code : Text} : ∀ r ∈ codeLines m n code, r.shows := by
  intro r hr
  rcases List.mem_append.mp hr with hr | hr
  · obtain ⟨s, hs, rfl⟩ := List.mem_map.mp hr
    exact shows_behind (List.mem_filter.mp hs).2 _
  · rw [List.mem_singleton.mp hr]
    exact shows_behind rfl _

theorem indented_codeLines (width : Int) (m n : Nat) (code : Text) :
    indented width (codeLines m n code) = codeLines (width.toNat + m) (width.toNat + n) code := by
  have hindent : ∀ (k : Nat) (r : Row), indent width (r.behind (spaces k) (Lead.spaces k)) =
      r.behind (spaces (width.toNat + k)) (Lead.spaces _) := by
    intro k r
    simp [indent, behind, Layout.blanks, spaces_add]
  rw [indented, List.filter_eq_self.mpr shows_codeLines, codeLines, codeLines, List.map_append,
    List.map_map, List.map_singleton, hindent m]
  congr 1
  exact List.map_congr_left fun r _ => hindent n r

theorem hung_codeRows (width trim : Int) {lead : Text} (h : Lead lead) (m n : Nat) (code : Text)
    (more : List Row) :
    hung width trim (codeRows lead h m n code ++ more) =
      codeRows (spaces (max (width - trim) 0).toNat ++ lead) ((Lead.spaces _).append h)
        (width.toNat + m) (width.toNat + n) code ++ indented width more := by
  rw [codeRows, List.cons_append, hung, indented_openingBehind, indented_append,
    indented_codeLines]
  rfl

theorem indented_codeRows (width : Int) {lead : Text} (h : Lead lead) (m n : Nat) (code : Text) :
    indented width (codeRows lead h m n code) =
      codeRows (spaces width.toNat ++ lead) ((Lead.spaces _).append h) (width.toNat + m)
        (width.toNat + n) code := by
  rw [codeRows, ← List.singleton_append, indented_append, indented_openingBehind,
    indented_codeLines]
  rfl

end Row

namespace Stretch

def around (s : Stretch) (more : List Row) : List Row :=
  s.ahead ++ more ++ s.rows.drop s.ahead.length

theorem around_append_plain {s : Stretch} (h : s.headings = []) (t : Stretch) (more : List Row) :
    (s.append t).around more = s.rows ++ t.around more := by
  simp [around, append, h, List.drop_append]

theorem around_append_headed {s : Stretch} (h : s.headings ≠ []) (hs : s.ahead <+: s.rows)
    (t : Stretch) (more : List Row) : (s.append t).around more = s.around more ++ t.rows := by
  have he : ¬ s.headings.isEmpty = true := by simpa using h
  simp only [around, append, if_neg he, List.drop_append_of_le_length hs.length_le,
    List.append_assoc]

theorem around_enclose (s : Stretch) (rows more : List Row) :
    (s.enclose rows).around more = more ++ rows := by
  simp [around, enclose]

end Stretch

namespace Block
open Row

/-- Rows that show a code block at some depth and depend on the block nowhere else. -/
def Shows (width depth : Nat) (f : Block → List Row) : Prop :=
  ∃ front back lead, ∃ h : Lead lead, ∀ b code, b.code? = some code →
    f b = front ++ codeRows lead h (depth * width) ((depth + 1) * width) code ++ back

variable {o : Options} {width depth : Nat} {f g : Block → List Row}

theorem Shows.congr (hg : Shows width depth g)
    (h : ∀ b code, b.code? = some code → f b = g b) : Shows width depth f := by
  obtain ⟨front, back, lead, hlead, hrows⟩ := hg
  exact ⟨front, back, lead, hlead, fun b code hb => (h b code hb).trans (hrows b code hb)⟩

theorem Shows.append_left (h : Shows width depth f) (before : List Row) :
    Shows width depth fun b => before ++ f b := by
  obtain ⟨front, back, lead, hlead, hrows⟩ := h
  refine ⟨before ++ front, back, lead, hlead, ?_⟩
  intro b code hb
  simp only [hrows b code hb, List.append_assoc]

theorem Shows.append_right (h : Shows width depth f) (after : List Row) :
    Shows width depth fun b => f b ++ after := by
  obtain ⟨front, back, lead, hlead, hrows⟩ := h
  refine ⟨front, back ++ after, lead, hlead, ?_⟩
  intro b code hb
  simp only [hrows b code hb, List.append_assoc]

theorem shows_code (o : Options) : Shows o.tabWidth.toNat 0 fun b => b.rows o := by
  refine ⟨[], [blank], [], .nil, ?_⟩
  intro b code hb
  simp [(rows_code hb o).1, Row.literal, Row.indented, codeRows, codeLines, openingBehind,
    behind, indent, Layout.blanks, Text.spaces]

theorem depth_succ (width depth : Nat) : (depth + 1) * width = width + depth * width := by
  rw [Nat.succ_mul, Nat.add_comm]

theorem Shows.indented (h : Shows o.tabWidth.toNat depth f) :
    Shows o.tabWidth.toNat (depth + 1) fun b => Row.indented o.tabWidth (f b) := by
  obtain ⟨front, back, lead, hlead, hrows⟩ := h
  refine ⟨Row.indented o.tabWidth front, Row.indented o.tabWidth back, _,
    (Lead.spaces o.tabWidth.toNat).append hlead, ?_⟩
  intro b code hb
  simp only [hrows b code hb, indented_append, indented_codeRows, ← depth_succ]

theorem Shows.literal (h : Shows o.tabWidth.toNat depth f) :
    Shows o.tabWidth.toNat (depth + 1) fun b => Row.literal o.tabWidth (f b) :=
  (h.indented.append_left [⟨.opening, ['>'], newline_not_mem_mark rfl⟩]).append_right
    [⟨.closing, ['<'], newline_not_mem_mark rfl⟩, blank]

theorem Shows.hung (h : Shows o.tabWidth.toNat depth f) (trim : Int) :
    Shows o.tabWidth.toNat (depth + 1) fun b => Row.hung o.tabWidth trim (f b) := by
  obtain ⟨front, back, lead, hlead, hrows⟩ := h
  cases front with
  | nil =>
    refine ⟨[], Row.indented o.tabWidth back, _,
      (Lead.spaces (max (o.tabWidth - trim) 0).toNat).append hlead, ?_⟩
    intro b code hb
    simp only [hrows b code hb, List.nil_append, hung_codeRows, ← depth_succ]
  | cons first rest =>
    refine ⟨Row.hung o.tabWidth trim (first :: rest), Row.indented o.tabWidth back, _,
      (Lead.spaces o.tabWidth.toNat).append hlead, ?_⟩
    intro b code hb
    simp only [hrows b code hb, List.append_assoc, hung_append (List.cons_ne_nil first rest),
      indented_append, indented_codeRows, ← depth_succ]

/-- The marker stands in front of the opening mark, or of what comes before it. -/
theorem Shows.item (h : Shows o.tabWidth.toNat depth f) (c : ListContext) :
    Shows o.tabWidth.toNat (depth + 1) fun b => Row.item o.tabWidth c (f b) := by
  obtain ⟨front, back, lead, hlead, hrows⟩ := h.hung c.marker.length
  have hmarker : Lead c.marker := by simpa using Lead.marker c .nil
  cases front with
  | nil =>
    refine ⟨[], back, c.marker ++ lead, hmarker.append hlead, ?_⟩
    intro b code hb
    simp only [Row.item, hrows b code hb, codeRows, List.nil_append, List.cons_append,
      openingBehind, behind_behind]
  | cons first rest =>
    refine ⟨first.behind c.marker hmarker :: rest, back, lead, hlead, ?_⟩
    intro b code hb
    simp only [Row.item, hrows b code hb, List.cons_append]

/-- A stretch that shows a code block, with a table of contents put in it or without. -/
structure Carries (width depth : Nat) (f : Block → Stretch) : Prop where
  headings : ∃ headings, ∀ b code, b.code? = some code → (f b).headings = headings
  rows : Shows width depth fun b => (f b).rows
  around : ∀ more, Shows width depth fun b => (f b).around more

namespace Carries

variable {f : Block → Stretch}

theorem append_left (h : Carries width depth f) {s : Stretch} (hs : s.ahead <+: s.rows) :
    Carries width depth fun b => s.append (f b) where
  headings := by
    obtain ⟨headings, hh⟩ := h.headings
    exact ⟨s.headings ++ headings, fun b code hb => congrArg (s.headings ++ ·) (hh b code hb)⟩
  rows := h.rows.append_left s.rows
  around more := by
    by_cases hn : s.headings = []
    · simp only [Stretch.around_append_plain hn]
      exact (h.around more).append_left s.rows
    · simp only [Stretch.around_append_headed hn hs]
      exact h.rows.append_left (s.around more)

theorem append_right (h : Carries width depth f) (hf : ∀ b, (f b).ahead <+: (f b).rows)
    (t : Stretch) : Carries width depth fun b => (f b).append t where
  headings := by
    obtain ⟨headings, hh⟩ := h.headings
    exact ⟨headings ++ t.headings, fun b code hb => congrArg (· ++ t.headings) (hh b code hb)⟩
  rows := h.rows.append_right t.rows
  around more := by
    -- Without headings in front of `t`, the table of contents goes into `t` or behind it.
    obtain ⟨headings, hh⟩ := h.headings
    by_cases hn : headings = []
    · refine (h.rows.append_right (t.around more)).congr ?_
      intro b code hb
      exact Stretch.around_append_plain ((hh b code hb).trans hn) t more
    · refine ((h.around more).append_right t.rows).congr ?_
      intro b code hb
      have hne : (f b).headings ≠ [] := by
        rw [hh b code hb]
        exact hn
      exact Stretch.around_append_headed hne (hf b) t more

theorem enclose (h : Carries width depth f) {depth' : Nat} {g : Block → List Row}
    (hg : Shows width depth' g) : Carries width depth' fun b => (f b).enclose (g b) where
  headings := h.headings
  rows := hg
  around more := by
    simp only [Stretch.around_enclose]
    exact hg.append_left more

theorem opening (h : Carries width depth f) (c : Block → ListContext) :
    Carries width depth fun b => (f b).opening (c b) :=
  ⟨h.headings, h.rows, h.around⟩

end Carries

theorem carries_code (o : Options) : Carries o.tabWidth.toNat 0 fun b => b.stretch o where
  headings := ⟨[], fun _ _ hb => (rows_code hb o).2⟩
  rows := shows_code o
  around more := by
    refine ((shows_code o).append_left more).congr ?_
    intro b code hb
    cases b with
    | fencedCode _ _ | indentedCode _ => rfl
    | _ => simp [code?] at hb

theorem carries_all {x : Block → Block} (h : Carries width depth fun b => (x b).stretch o)
    (before after : List Block) :
    Carries width depth fun b => stretchOfAll o (before ++ x b :: after) := by
  induction before with
  | nil =>
    simp only [List.nil_append, stretchOfAll_cons]
    refine h.append_right (fun b => ?_) _
    obtain ⟨hfirst, -⟩ := ahead_prefix o (x b)
    exact hfirst
  | cons first before ih =>
    obtain ⟨hfirst, -⟩ := ahead_prefix o first
    simp only [List.cons_append, stretchOfAll_cons]
    exact ih.append_left hfirst

theorem itemRows_before (o : Options) (c : ListContext) (rows : List Row)
    (earlier later : List ListChild) (body : List Block) :
    itemRows o c rows (earlier ++ .item body :: later) = Row.item o.tabWidth c rows := by
  simp [itemRows, ListChild.isItem]

theorem carries_items {body : Block → List Block}
    (h : Carries o.tabWidth.toNat depth fun b => stretchOfAll o (body b)) (c : ListContext)
    (earlier later : List ListChild) :
    Carries o.tabWidth.toNat (depth + 1) fun b =>
      stretchOfItems o c (earlier ++ .item (body b) :: later) := by
  induction earlier generalizing c with
  | nil =>
    simp only [List.nil_append, stretchOfItems_item]
    have hitem := (h.rows.item c).append_right
      (if later.any ListChild.isItem then [] else [blank])
    exact (h.enclose hitem).append_right (fun b => List.nil_prefix) _
  | cons child earlier ih =>
    cases child with
    | item first =>
      simp only [List.cons_append, stretchOfItems_item, itemRows_before]
      exact (ih c.advance).append_left List.nil_prefix
    | other _ => exact ih c

theorem carries_around {body : Block → List Block}
    (h : Carries o.tabWidth.toNat depth fun b => stretchOfAll o (body b)) (k : Container) :
    Carries o.tabWidth.toNat (depth + k.levels) fun b => (k.around (body b)).stretch o := by
  cases k with
  | quote => exact h.enclose h.rows.literal
  | alert kind => exact h.enclose (h.rows.append_left (ofLines .plain (kind ++ [':']))).literal
  | item ordered earlier later => exact (carries_items h (.start ordered) earlier later).opening _
  | group => exact h

/-- One level of indentation for every container around the place. -/
theorem carries_fill (o : Options) (place : Place) :
    Carries o.tabWidth.toNat place.depth fun b => stretchOfAll o (place.fill b) := by
  induction place with
  | among before after => exact carries_all (carries_code o) before after
  | inside before container inner after ih =>
    exact carries_all (carries_around ih container) before after

end Block

namespace Row
open Text Delimiter

theorem flushLine_lead {lead : Text} (h : Lead lead) (mark : Char) :
    ∃ kept, Lead kept ∧ flushLine (lead ++ [mark]) = kept ++ [mark] := by
  rcases flushLine_cases (lead ++ [mark]) with hf | ⟨other, ho, hmark, hf⟩
  · exact ⟨lead, h, hf⟩
  · refine ⟨[], .nil, ?_⟩
    rcases List.mem_append.mp ho with ho | ho
    · exact absurd hmark (h.unmarked.not_isMark ho)
    · rw [hf, List.mem_singleton.mp ho]
      rfl

theorem textOf_flush_codeLines {code : Text} (h : ∀ l ∈ lines code, ¬ LoneMark l) (m n : Nat) :
    textOf ((codeLines m n code).map flush) = Text.ofLines (indentedLines n code) ++ ['<', '\n'] := by
  have hclose : flushLine (spaces m ++ ['<']) = ['<'] := flushLine_spaces m rfl
  rw [codeLines, List.map_append, textOf_append, textOf, map_text_flush_code,
    flush_indentedLines h n]
  simp [behind, hclose]

end Row

namespace Writer
open Block Delimiter Text

theorem contentsText_congr (w : Writer) {blocks others : List Block}
    (h : headingsOfAll blocks = headingsOfAll others) :
    w.contentsText blocks = w.contentsText others := by
  rw [contentsText, contentsText, after, after, h]

theorem flushLeft_contentsText (w : Writer) (blocks : List Block) :
    flushLeft (w.contentsText blocks) = w.contentsText blocks := by
  unfold contentsText
  split
  · rw [flushLeft_append_newline, flushLeft_flushLeft, flushLeft_nil]
  · exact flushLeft_nil

theorem bodyAround_contentsText (w : Writer) {blocks : List Block} (h : headingsOfAll blocks ≠ []) :
    w.bodyAround (w.contentsText blocks) blocks = Row.textOf
      (((stretchOfAll w.options blocks).around
        (Row.ofEnded .plain (w.contentsText blocks))).map Row.flush) := by
  have hcontents : Row.textOf ((Row.ofEnded .plain (w.contentsText blocks)).map Row.flush) =
      w.contentsText blocks := by
    rw [← Row.flushLeft_textOf, Row.textOf_ofEnded _ (w.ended_contentsText blocks),
      flushLeft_contentsText]
  rw [w.bodyAround_headed h, Stretch.around, List.map_append, List.map_append, Row.textOf_append,
    Row.textOf_append, hcontents]
  rfl

/-- The rows of a document with a code block in some place, the table of contents among them. -/
theorem exists_bodyAround_eq (w : Writer) (place : Place) : ∃ f : Block → List Row,
    Shows w.options.tabWidth.toNat place.depth f ∧ ∀ b code, b.code? = some code →
      w.bodyAround (w.contentsText (place.fill b)) (place.fill b) =
        Row.textOf ((f b).map Row.flush) := by
  have hcarries := carries_fill w.options place
  obtain ⟨headings, hheadings⟩ := hcarries.headings
  by_cases hn : headings = []
  · refine ⟨_, hcarries.rows, ?_⟩
    intro b code hb
    exact w.bodyAround_plain ((hheadings b code hb).trans hn) _
  · -- The headings are those of the place, so every code block gets the same table of contents.
    refine ⟨_, hcarries.around (Row.ofEnded .plain (w.contentsText (place.fill (.indentedCode [])))),
      ?_⟩
    intro b code hb
    have hb : headingsOfAll (place.fill b) = headings := hheadings b code hb
    have hsame : w.contentsText (place.fill b) = w.contentsText (place.fill (.indentedCode [])) :=
      w.contentsText_congr (hb.trans (hheadings (.indentedCode []) [] rfl).symm)
    have hne : headingsOfAll (place.fill b) ≠ [] := by
      rw [hb]
      exact hn
    rw [w.bodyAround_contentsText hne, hsame]

/-- Every block of a document has a place. A code block without lone marks that is put there stands
between its marks line by line, each line that is not empty behind one indentation more than there
are quotes, alerts and items around the place. -/
theorem code_at_depth (w : Writer) :
    (∀ blocks, ∀ b ∈ partsOfAll blocks, ∃ place : Place, place.fill b = blocks) ∧
    ∀ place : Place, ∃ front lead back, Ended front ∧ Lead lead ∧
      ∀ b code, b.code? = some code → (∀ l ∈ lines code, ¬ LoneMark l) →
        ∃ left, w.document (place.fill b) = .ok
          (front ++ lead ++ '>' :: '\n' ::
            (ofLines (indentedLines ((place.depth + 1) * w.options.tabWidth.toNat) code) ++
              '<' :: '\n' :: back), left) := by
  constructor
  · intro blocks b hb
    exact Place.mem_partsOfAll blocks hb
  · intro place
    obtain ⟨f, ⟨front, back, lead, hlead, hrows⟩, hbody⟩ := w.exists_bodyAround_eq place
    obtain ⟨kept, hkept, hopen⟩ := Row.flushLine_lead hlead '>'
    refine ⟨flushLeft w.headerText ++ Row.textOf (front.map Row.flush), kept,
      Row.textOf (back.map Row.flush), ?_, hkept, ?_⟩
    · exact Or.inr (w.flushLeft_headerText_append (Row.ended_textOf _))
    · intro b code hb hcode
      refine ⟨w.after (place.fill b), ?_⟩
      rw [document_eq_bodyAround, hbody b code hb, hrows b code hb, List.map_append,
        List.map_append, Row.textOf_append, Row.textOf_append, Row.codeRows, List.map_cons,
        Row.textOf_cons, Row.textOf_flush_codeLines hcode, Row.flush_text, Row.openingBehind,
        Row.behind, hopen]
      simp only [List.append_assoc, List.cons_append, List.nil_append]

theorem code_in_item_in_quote :
    let w := Writer.fresh .standard
    let item : Container := .item true [.item [.thematicBreak]] []
    let place : Place := .inside [] .quote (.inside [] item (.among [] [.blankLine]) []) []
    let b := fencedCode [] "if a <b>:\n\n  < c".toList
    (b.code? = some "if a <b>:\n\n  < c".toList ∧
      ∀ l ∈ lines "if a <b>:\n\n  < c".toList, ¬ LoneMark l) ∧
    ∃ front lead back left, Ended front ∧ Lead lead ∧ w.document (place.fill b) = .ok
      (front ++ lead ++ '>' :: '\n' ::
        (ofLines ["            if a <b>:".toList, "              < c".toList] ++
          '<' :: '\n' :: back), left) := by
  intro w item place b
  have hcode : ∀ l ∈ lines "if a <b>:\n\n  < c".toList, ¬ LoneMark l := by
    intro l hl
    have hlines : lines "if a <b>:\n\n  < c".toList =
        ["if a <b>:".toList, [], "  < c".toList] := rfl
    simp only [hlines, List.mem_cons, List.not_mem_nil, or_false] at hl
    rcases hl with rfl | rfl | rfl
    · exact not_loneMark_of_mem (c := 'a') (by decide) (by decide) (by decide)
    · exact not_loneMark_nil
    · exact not_loneMark_of_mem (c := 'c') (by decide) (by decide) (by decide)
  obtain ⟨-, hplace⟩ := code_at_depth w
  obtain ⟨front, lead, back, hfront, hlead, hdocument⟩ := hplace place
  obtain ⟨left, hleft⟩ := hdocument b _ rfl hcode
  exact ⟨⟨rfl, hcode⟩, front, lead, back, left, hfront, hlead, hleft⟩

end Writer
end HelpFile
