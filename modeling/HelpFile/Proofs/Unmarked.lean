import HelpFile.Proofs.Tag
import HelpFile.Proofs.Writing

/-!
# Text without marks

The marks are the brackets of literal blocks. Of the strings of a document only those that a help
file shows matter here; if these hold no mark, neither do the headings, tags and lines made of them.
-/
namespace HelpFile

namespace Text

def Unmarked (text : Text) : Prop := '<' ∉ text ∧ '>' ∉ text

@[simp] theorem unmarked_nil : Unmarked [] := ⟨by simp, by simp⟩

@[simp] theorem unmarked_cons {c : Char} {text : Text} :
    Unmarked (c :: text) ↔ (c ≠ '<' ∧ c ≠ '>') ∧ Unmarked text := by
  simp only [Unmarked, List.mem_cons, not_or, ne_comm (a := c)]
  tauto

@[simp] theorem unmarked_append {text more : Text} :
    Unmarked (text ++ more) ↔ Unmarked text ∧ Unmarked more := by
  simp only [Unmarked, List.mem_append, not_or]
  tauto

theorem Unmarked.of_subset {text more : Text} (h : Unmarked more)
    (hs : ∀ c ∈ text, IsSign c → c ∈ more) : Unmarked text :=
  ⟨fun hm => h.1 (hs _ hm (by simp [IsSign])), fun hm => h.2 (hs _ hm (by simp [IsSign]))⟩

theorem Unmarked.upper {text : Text} (h : Unmarked text) : Unmarked (upper text) :=
  h.of_subset fun _ hm hs => mem_of_mem_upper hs hm

theorem Unmarked.line {text line : Text} (h : Unmarked text) (hl : line ∈ lines text) :
    Unmarked line :=
  h.of_subset fun _ hm _ => mem_of_mem_lines hl hm

theorem unmarked_ofLines {ls : List Text} (h : ∀ l ∈ ls, Unmarked l) : Unmarked (ofLines ls) := by
  induction ls with
  | nil => exact unmarked_nil
  | cons l ls ih =>
    have hl := h l List.mem_cons_self
    have hls := ih fun m hm => h m (List.mem_cons_of_mem _ hm)
    simp [hl, hls]

theorem Unmarked.not_isMark {text : Text} (h : Unmarked text) {c : Char} (hc : c ∈ text) :
    ¬ Delimiter.isMark c := by
  intro hm
  simp only [Delimiter.isMark, Bool.or_eq_true, beq_iff_eq] at hm
  rcases hm with rfl | rfl
  · exact h.2 hc
  · exact h.1 hc

end Text

open Text

theorem Lead.unmarked {t : Text} (ht : Lead t) : Unmarked t := by
  constructor <;> intro h <;> rcases ht.mem h with h | h | h | h <;> simp at h

theorem Layout.unmarked_rule {mark : Char} (h : mark ≠ '<' ∧ mark ≠ '>') (columnWidth : Int) :
    Unmarked (Layout.rule [mark] columnWidth) := by
  have hm : Unmarked [mark, '\n'] := by simp [h]
  refine hm.of_subset fun c hc _ => ?_
  rcases List.mem_append.mp hc with hc | hc
  · obtain ⟨piece, hp, hc⟩ := List.mem_flatten.mp hc
    rw [List.eq_of_mem_replicate hp] at hc
    exact List.mem_cons.mpr (Or.inl (List.mem_singleton.mp hc))
  · exact List.mem_cons_of_mem _ hc

theorem Layout.unmarked_straddle {left right : Text} (hl : Unmarked left) (hr : Unmarked right)
    (columnWidth trim : Int) : Unmarked (Layout.straddle left right columnWidth trim) := by
  have hb : Unmarked (blanks (gap left right columnWidth trim)) := (Lead.spaces _).unmarked
  simp [straddle, hl, hr, hb]

namespace Writer

theorem unmarked_tag {w : Writer} (hf : Unmarked w.options.filename) {text : Text}
    (ht : Unmarked text) : Unmarked (w.tag text) := by
  have hft : Unmarked (w.options.filename ++ '-' :: text) := by simp [hf, ht]
  refine hft.of_subset fun c hc hs => ?_
  rcases Tag.mem_of_mem_ofHeading hs hc with h | h | h
  · have := Options.mem_of_mem_basename (Options.mem_of_mem_title hs h)
    simp [this]
  · simp [h]
  · simp [h]

theorem unmarked_headingLine {w : Writer} (hf : Unmarked w.options.filename) {text : Text}
    (ht : Unmarked text) : Unmarked (w.headingLine text) := by
  have htag := unmarked_tag hf ht
  have hright : Unmarked ('*' :: w.tag text ++ ['*']) := by simp [htag]
  rw [headingLine, unmarked_append]
  exact ⟨Layout.unmarked_straddle ht.upper hright _ _, by simp⟩

theorem unmarked_headingRule (w : Writer) (level : Int) : Unmarked (w.headingRule level) := by
  unfold headingRule ruleMark?
  split
  · next mark hm =>
    split at hm
    · split at hm
      · rw [← Option.some.inj hm]
        exact Layout.unmarked_rule (by simp) _
      · split at hm
        · rw [← Option.some.inj hm]
          exact Layout.unmarked_rule (by simp) _
        · simp at hm
    · simp at hm
  · simp

theorem unmarked_headerText {w : Writer} (hf : Unmarked w.options.filename)
    (hd : Unmarked w.options.description) : Unmarked w.headerText := by
  have hb : Unmarked w.options.basename := hf.of_subset fun _ hc _ => Options.mem_of_mem_basename hc
  unfold headerText
  simp only
  split
  · simp [hb]
  · simpa using Layout.unmarked_straddle hb hd w.options.columnWidth 0

end Writer

namespace Inline

mutual

def strings : Inline → List Text
  | text t | code t => [t]
  | html _ | image _ _ | footnoteReference _ | lineBreak => []
  | emphasis content | strong content | strikethrough content | autoLink content | url content
  | group content => stringsOfAll content
  | link target content => target :: stringsOfAll content

def stringsOfAll : List Inline → List Text
  | [] => []
  | i :: rest => i.strings ++ stringsOfAll rest

end

mutual

theorem unmarked_render : (i : Inline) → (∀ s ∈ i.strings, Unmarked s) → Unmarked i.render
  | text t, h => h t (by simp [strings])
  | code t, h => by
    have ht := h t (by simp [strings])
    rw [render, Span.code]
    split
    · simp
    · simp [ht, Span.backtick]
  | html _, _ | image _ _, _ | footnoteReference _, _ => by simp [render]
  | lineBreak, _ => by simp [render, Span.lineBreak]
  | emphasis content, h | strong content, h | strikethrough content, h | autoLink content, h
  | url content, h | group content, h => unmarked_renderAll content h
  | link target content, h => by
    have ht := h target (by simp [strings])
    have hc := unmarked_renderAll content fun s hs => h s (by simp [strings, hs])
    simp [render, Span.link, ht, hc]

theorem unmarked_renderAll : (content : List Inline) → (∀ s ∈ stringsOfAll content, Unmarked s) →
    Unmarked (renderAll content)
  | [], _ => by simp [renderAll]
  | i :: rest, h => by
    have hi := unmarked_render i fun s hs => h s (by simp [stringsOfAll, hs])
    have hr := unmarked_renderAll rest fun s hs => h s (by simp [stringsOfAll, hs])
    simp [renderAll, hi, hr]

end

end Inline

namespace Block

mutual

def strings : Block → List Text
  | heading _ content | paragraph _ _ content => Inline.stringsOfAll content
  | list _ children => stringsOfItems children
  | quote body | group body => stringsOfAll body
  | alert kind body => kind :: stringsOfAll body
  | fencedCode _ text | indentedCode text | html text => [text]
  | thematicBreak | blankLine | linkDefinition | table | footnoteDefinition | inline _ => []

def stringsOfAll : List Block → List Text
  | [] => []
  | b :: rest => b.strings ++ stringsOfAll rest

def stringsOfItems : List ListChild → List Text
  | [] => []
  | .item body :: rest => stringsOfAll body ++ stringsOfItems rest
  | .other _ :: rest => stringsOfItems rest

end

theorem unmarked_fragment (task : Option Bool) {content : List Inline}
    (h : ∀ s ∈ Inline.stringsOfAll content, Unmarked s) :
    Unmarked (fragment task content).text := by
  have hc := Inline.unmarked_renderAll content h
  cases task with
  | none => exact hc
  | some checked => cases checked <;> simp [fragment, Fragment.ofText, Span.taskMarker, hc]

mutual

/-- A heading has no children when it reaches the outline, and its text is that of its inlines. -/
theorem mem_headings : (b : Block) → {h : Heading} → h ∈ b.headings →
    h.children = [] ∧ ∃ content, h.text = Inline.renderAll content ∧
      Inline.stringsOfAll content ⊆ b.strings
  | heading level content, h, hm => by
    rw [headings, Fragment.headings] at hm
    split at hm
    · rw [List.mem_singleton.mp hm]
      exact ⟨rfl, content, rfl, fun _ hs => hs⟩
    · simp at hm
  | list _ children, _, hm => mem_headingsOfItems children hm
  | quote body, _, hm | group body, _, hm => mem_headingsOfAll body hm
  | alert kind body, _, hm => by
    obtain ⟨hc, content, ht, hs⟩ := mem_headingsOfAll body hm
    exact ⟨hc, content, ht, fun _ h => List.mem_cons_of_mem _ (hs h)⟩
  | paragraph .., _, hm | fencedCode .., _, hm | indentedCode _, _, hm | html _, _, hm
  | thematicBreak, _, hm | blankLine, _, hm | linkDefinition, _, hm | table, _, hm
  | footnoteDefinition, _, hm | inline _, _, hm => by simp [headings] at hm

theorem mem_headingsOfAll : (blocks : List Block) → {h : Heading} → h ∈ headingsOfAll blocks →
    h.children = [] ∧ ∃ content, h.text = Inline.renderAll content ∧
      Inline.stringsOfAll content ⊆ stringsOfAll blocks
  | [], _, hm => by simp [headingsOfAll] at hm
  | b :: rest, _, hm => by
    rcases List.mem_append.mp hm with hm | hm
    · obtain ⟨hc, content, ht, hs⟩ := mem_headings b hm
      exact ⟨hc, content, ht, fun _ h => List.mem_append_left _ (hs h)⟩
    · obtain ⟨hc, content, ht, hs⟩ := mem_headingsOfAll rest hm
      exact ⟨hc, content, ht, fun _ h => List.mem_append_right _ (hs h)⟩

theorem mem_headingsOfItems : (children : List ListChild) → {h : Heading} →
    h ∈ headingsOfItems children →
    h.children = [] ∧ ∃ content, h.text = Inline.renderAll content ∧
      Inline.stringsOfAll content ⊆ stringsOfItems children
  | [], _, hm => by simp [headingsOfItems] at hm
  | .item body :: rest, _, hm => by
    rcases List.mem_append.mp hm with hm | hm
    · obtain ⟨hc, content, ht, hs⟩ := mem_headingsOfAll body hm
      exact ⟨hc, content, ht, fun _ h => List.mem_append_left _ (hs h)⟩
    · obtain ⟨hc, content, ht, hs⟩ := mem_headingsOfItems rest hm
      exact ⟨hc, content, ht, fun _ h => List.mem_append_right _ (hs h)⟩
  | .other _ :: rest, _, hm => mem_headingsOfItems rest hm

end

theorem unmarked_headings {blocks : List Block} (hs : ∀ s ∈ stringsOfAll blocks, Unmarked s)
    {h : Heading} (hm : h ∈ headingsOfAll blocks) : Unmarked h.text := by
  obtain ⟨-, content, ht, hsub⟩ := mem_headingsOfAll blocks hm
  rw [ht]
  exact Inline.unmarked_renderAll content fun s h => hs s (hsub h)

end Block
end HelpFile
