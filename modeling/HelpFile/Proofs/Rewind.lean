import HelpFile.Proofs.Stretch

/-!
# Writing and rewinding

The write position of a buffer is never in front of the end of its contents, so writing appends,
after null characters if the position is beyond the end. As long as nobody truncates beyond the end,
a position that was read once is a mark: what was written since can be told from what stood there
before, and taken back.
-/
namespace HelpFile.Buffer

inductive Operation where
  | write (text : Text)
  | truncate (position : Int)
  | reset (text : Text)
  | tell
  | since (position : Int)
  | read

inductive Answer where
  | done
  | position (n : Nat)
  | text (text : Text)
  deriving DecidableEq

def step (b : Buffer) : Operation → Buffer × Except NegativePosition Answer
  | .write text => (b.write text, .ok .done)
  | .truncate position =>
    match b.truncateAt position with
    | .ok c => (c, .ok .done)
    | .error e => (b, .error e)
  | .reset text => (b.reset text, .ok .done)
  | .tell => (b, .ok (.position b.position))
  | .since position => (b, .ok (.text (b.since position)))
  | .read => (b, .ok (.text b.contents))

def run (b : Buffer) (ops : List Operation) : Buffer := ops.foldl (fun c op => (c.step op).1) b

theorem run_append (b : Buffer) (before after : List Operation) :
    b.run (before ++ after) = (b.run before).run after := List.foldl_append

theorem step_truncate_cases (b : Buffer) (position : Int) :
    position < 0 ∧ b.step (.truncate position) = (b, .error ⟨position⟩) ∨
      ∃ n : Nat, position = n ∧ b.step (.truncate position) = (b.truncate n, .ok .done) := by
  by_cases h : position < 0
  · left
    rw [step, truncateAt, if_pos h]
    exact ⟨h, rfl⟩
  · right
    refine ⟨position.toNat, by omega, ?_⟩
    rw [step, truncateAt, if_neg h]

theorem atEnd_ofText (text : Text) : (ofText text).AtEnd := by
  have h : ({} : Buffer).AtEnd := rfl
  rw [ofText, write_of_atEnd h]
  exact atEnd_append {} text

theorem atEnd_reset (b : Buffer) (text : Text) : (b.reset text).AtEnd := by
  rw [reset_eq]
  exact atEnd_append {} text

/-! ## Appending -/

/-- No part of the contents stands behind the write position. -/
def Clear (b : Buffer) : Prop := b.contents.length ≤ b.position

theorem AtEnd.clear {b : Buffer} (h : b.AtEnd) : b.Clear := Nat.le_of_eq h.symm

theorem write_of_clear {b : Buffer} (h : b.Clear) {text : Text} (ht : text ≠ []) :
    b.write text = ⟨b.padded ++ text, b.position + text.length⟩ := by
  have hbehind : b.contents.drop (b.position + text.length) = [] :=
    List.drop_eq_nil_of_le (Nat.le_add_right_of_le h)
  rw [write_of_ne_nil b ht, hbehind, List.append_nil]

theorem Clear.write {b : Buffer} (h : b.Clear) (text : Text) : (b.write text).Clear := by
  by_cases ht : text = []
  · subst ht
    exact h
  · rw [write_of_clear h ht, Clear, List.length_append, length_padded]

theorem Clear.step {b : Buffer} (h : b.Clear) (op : Operation) : (b.step op).1.Clear := by
  cases op with
  | write text => exact h.write text
  | truncate position =>
    rcases step_truncate_cases b position with ⟨-, hs⟩ | ⟨n, -, hs⟩
    · rw [hs]
      exact h
    · rw [hs]
      exact List.length_take_le n b.contents
  | reset text => exact (b.atEnd_reset text).clear
  | tell | since _ | read => exact h

theorem Clear.run {b : Buffer} (h : b.Clear) (ops : List Operation) : (b.run ops).Clear := by
  induction ops generalizing b with
  | nil => exact h
  | cons op ops ih => exact ih (h.step op)

/-- A text that is not empty is written at the position, behind as many null characters as lead
there. -/
theorem contents_write {b : Buffer} (h : b.Clear) (text : Text) : ∃ n,
    (b.write text).contents = b.contents ++ List.replicate n '\x00' ++ text ∧
    (0 < n ↔ b.contents.length < b.position ∧ text ≠ []) ∧
    (text ≠ [] → b.contents.length + n = b.position) := by
  by_cases ht : text = []
  · subst ht
    refine ⟨0, ?_, by simp, fun hne => absurd rfl hne⟩
    simp [write]
  · have hle : b.contents.length ≤ b.position := h
    refine ⟨b.position - b.contents.length, ?_, ?_, fun _ => by omega⟩
    · rw [write_of_clear h ht, padded, List.take_of_length_le h]
    · rw [Nat.sub_pos_iff_lt, and_iff_left ht]

example : (((ofText ['a']).truncate 3).write ['b']).contents = ['a', '\x00', '\x00', 'b'] := rfl

/-! ## Marks -/

def Operation.Within (length : Nat) : Operation → Prop
  | .truncate position => position ≤ length
  | .write _ | .reset _ | .tell | .since _ | .read => True

def Operation.GoesBelow (mark : Nat) : Operation → Prop
  | .truncate position => 0 ≤ position ∧ position < mark
  | .reset _ => 0 < mark
  | .write _ | .tell | .since _ | .read => False

def Confined (b : Buffer) : List Operation → Prop
  | [] => True
  | op :: ops => op.Within b.contents.length ∧ Confined (b.step op).1 ops

instance (length : Nat) : (op : Operation) → Decidable (op.Within length)
  | .truncate position => inferInstanceAs (Decidable (position ≤ length))
  | .write _ | .reset _ | .tell | .since _ | .read => isTrue trivial

instance (mark : Nat) : (op : Operation) → Decidable (op.GoesBelow mark)
  | .truncate position => inferInstanceAs (Decidable (0 ≤ position ∧ position < mark))
  | .reset _ => inferInstanceAs (Decidable (0 < mark))
  | .write _ | .tell | .since _ | .read => isFalse id

instance Confined.decidable (b : Buffer) : (ops : List Operation) → Decidable (Confined b ops)
  | [] => isTrue trivial
  | op :: ops =>
    have := Confined.decidable (b.step op).1 ops
    inferInstanceAs (Decidable (op.Within b.contents.length ∧ Confined (b.step op).1 ops))

theorem confined_append_iff (b : Buffer) (before after : List Operation) :
    Confined b (before ++ after) ↔ Confined b before ∧ Confined (b.run before) after := by
  induction before generalizing b with
  | nil => exact (and_iff_right trivial).symm
  | cons op ops ih =>
    rw [List.cons_append, Confined, ih, Confined, and_assoc]
    rfl

theorem AtEnd.step {b : Buffer} (h : b.AtEnd) {op : Operation} (hop : op.Within b.contents.length) :
    (b.step op).1.AtEnd := by
  cases op with
  | write text =>
    change (b.write text).AtEnd
    rw [write_of_atEnd h]
    exact atEnd_append b text
  | truncate position =>
    rcases step_truncate_cases b position with ⟨-, hs⟩ | ⟨n, rfl, hs⟩
    · rw [hs]
      exact h
    · rw [hs]
      exact (List.length_take_of_le (Int.ofNat_le.mp hop)).symm
  | reset text => exact b.atEnd_reset text
  | tell | since _ | read => exact h

theorem AtEnd.run {b : Buffer} (h : b.AtEnd) {ops : List Operation} (hc : Confined b ops) :
    (b.run ops).AtEnd := by
  induction ops generalizing b with
  | nil => exact h
  | cons op ops ih => exact ih (h.step hc.1) hc.2

def Extends (b marked : Buffer) : Prop := ∃ text, b = marked.append text

theorem Extends.refl {marked : Buffer} (hm : marked.AtEnd) : marked.Extends marked :=
  ⟨[], (append_nil hm).symm⟩

theorem eq_empty_of_position {marked : Buffer} (hm : marked.AtEnd) (h : marked.position = 0) :
    marked = {} := by
  have hnil : marked.contents = [] := List.length_eq_zero_iff.mp (hm.symm.trans h)
  cases marked
  simp_all

theorem truncate_append_of_le {marked : Buffer} (hm : marked.AtEnd) (text : Text) {position : Nat}
    (hlow : marked.position ≤ position)
    (hhigh : position ≤ (marked.contents ++ text).length) :
    (marked.append text).truncate position =
      marked.append (text.take (position - marked.position)) := by
  unfold AtEnd at hm
  have hcontents : (marked.contents ++ text).take position =
      marked.contents ++ text.take (position - marked.position) := by
    rw [List.take_append, List.take_of_length_le (hm ▸ hlow), hm]
  have hposition :
      position = (marked.contents ++ text.take (position - marked.position)).length := by
    rw [← hcontents, List.length_take_of_le hhigh]
  rw [truncate, append, Buffer.mk.injEq]
  exact ⟨hcontents, hposition⟩

/-- What stood at a mark is kept by every operation that does not go below it. -/
theorem Extends.step {b marked : Buffer} (hm : marked.AtEnd) (h : b.Extends marked) {op : Operation}
    (hop : op.Within b.contents.length) (hlow : ¬ op.GoesBelow marked.position) :
    (b.step op).1.Extends marked := by
  obtain ⟨text, rfl⟩ := h
  cases op with
  | write more =>
    refine ⟨text ++ more, ?_⟩
    rw [← append_append]
    exact write_of_atEnd (atEnd_append marked text) more
  | truncate position =>
    rcases step_truncate_cases (marked.append text) position with ⟨-, hs⟩ | ⟨n, rfl, hs⟩
    · rw [hs]
      exact ⟨text, rfl⟩
    · have hmark : marked.position ≤ n := by
        simp only [Operation.GoesBelow] at hlow
        omega
      rw [hs]
      exact ⟨_, truncate_append_of_le hm text hmark (Int.ofNat_le.mp hop)⟩
  | reset more =>
    -- Nothing stood in front of the mark, or the reset would go below it.
    obtain rfl := eq_empty_of_position hm (Nat.eq_zero_of_not_pos hlow)
    exact ⟨more, reset_eq _ more⟩
  | tell | since _ | read => exact ⟨text, rfl⟩

theorem Extends.run {b marked : Buffer} (hm : marked.AtEnd) (h : b.Extends marked)
    {ops : List Operation} (hc : Confined b ops)
    (hlow : ∀ op ∈ ops, ¬ op.GoesBelow marked.position) : (b.run ops).Extends marked := by
  induction ops generalizing b with
  | nil => exact h
  | cons op ops ih =>
    obtain ⟨hop, hrest⟩ := List.forall_mem_cons.mp hlow
    exact ih (h.step hm hc.1 hop) hc.2 hrest

/-- What a mark is good for: the text written since is what stands behind the contents at the mark,
truncating there brings the buffer back, and marks taken later are no lower. -/
theorem Extends.rewind {b marked : Buffer} (hm : marked.AtEnd) (h : b.Extends marked) :
    b.contents = marked.contents ++ b.since marked.position ∧
    b.step (.truncate marked.position) = (marked, .ok .done) ∧ marked.position ≤ b.position := by
  obtain ⟨text, rfl⟩ := h
  refine ⟨?_, ?_, ?_⟩
  · rw [since_append hm]
    rfl
  · rcases step_truncate_cases (marked.append text) marked.position with ⟨hn, -⟩ | ⟨n, hn, hs⟩
    · omega
    · obtain rfl := Int.ofNat_inj.mp hn
      rw [hs, truncate_append hm]
  · unfold AtEnd at hm
    simp [append, hm]

/-- Whatever was done to a buffer, writing appends. If the position was never moved beyond the end,
every position that was read is a mark, until an operation goes below it. -/
theorem never_overwrites (initial : Text) (ops : List Operation) :
    let b := (ofText initial).run ops
    b.contents.length ≤ b.position ∧
    (∀ text, ∃ n, (b.write text).contents = b.contents ++ List.replicate n '\x00' ++ text ∧
      (0 < n ↔ b.contents.length < b.position ∧ text ≠ []) ∧
      (text ≠ [] → b.contents.length + n = b.position)) ∧
    (∀ position < 0, b.step (.truncate position) = (b, .error ⟨position⟩)) ∧
    (Confined (ofText initial) ops →
      b.position = b.contents.length ∧
      (∃ text, (b.step .read).2 = .ok (.text text) ∧
        (b.step .tell).2 = .ok (.position text.length)) ∧
      ∀ before after, ops = before ++ .tell :: after →
        let marked := (ofText initial).run before
        ∃ mark, (marked.step .tell).2 = .ok (.position mark) ∧
          ((∀ op ∈ after, ¬ op.GoesBelow mark) →
            mark ≤ b.position ∧
            (∃ text, (b.step (.since mark)).2 = .ok (.text text) ∧
              b.contents = marked.contents ++ text) ∧
            b.step (.truncate mark) = (marked, .ok .done))) := by
  intro b
  have hstart := atEnd_ofText initial
  have hclear : b.Clear := hstart.clear.run ops
  refine ⟨hclear, contents_write hclear, ?_, fun hc => ?_⟩
  · intro position hn
    rcases step_truncate_cases b position with ⟨-, hs⟩ | ⟨n, rfl, -⟩
    · exact hs
    · omega
  have hend : b.AtEnd := hstart.run hc
  refine ⟨hend, ⟨b.contents, rfl, congrArg (fun n => Except.ok (Answer.position n)) hend⟩, ?_⟩
  rintro before after rfl marked
  refine ⟨marked.position, rfl, fun hlow => ?_⟩
  -- Reading the position changes nothing, so what follows it starts from the marked buffer.
  obtain ⟨hbefore, -, hafter⟩ := (confined_append_iff _ _ _).mp hc
  have hm : marked.AtEnd := hstart.run hbefore
  have hb : b = marked.run after := run_append _ _ _
  have hext : b.Extends marked := hb ▸ (Extends.refl hm).run hm hafter hlow
  obtain ⟨hsince, hback, hle⟩ := hext.rewind hm
  exact ⟨hle, ⟨_, rfl, hsince⟩, hback⟩

/-- A mark survives a failed truncation and a rewind to a mark taken after it. -/
theorem never_overwrites_nested :
    let initial := ['k', 'e', 'p', 't']
    let before := [.write ['a']]
    let after := [.write ['b', 'c'], .tell, .write ['d'], .truncate (-1), .truncate 7, .write ['e']]
    let marked := (ofText initial).run before
    let b := (ofText initial).run (before ++ .tell :: after)
    (Confined (ofText initial) (before ++ .tell :: after) ∧ ∀ op ∈ after, ¬ op.GoesBelow 5) ∧
    b.contents = ['k', 'e', 'p', 't', 'a', 'b', 'c', 'e'] ∧
    5 ≤ b.position ∧
    (∃ text, (b.step (.since 5)).2 = .ok (.text text) ∧ b.contents = marked.contents ++ text) ∧
    b.step (.truncate 5) = (marked, .ok .done) := by
  intro initial before after marked b
  have hc : Confined (ofText initial) (before ++ .tell :: after) := by decide
  have hlow : ∀ op ∈ after, ¬ op.GoesBelow 5 := by decide
  obtain ⟨-, -, -, hmarks⟩ := never_overwrites initial (before ++ .tell :: after)
  obtain ⟨mark, htell, hrewind⟩ := (hmarks hc).2.2 before after rfl
  obtain rfl : mark = 5 := Answer.position.inj (Except.ok.inj htell.symm)
  exact ⟨⟨hc, hlow⟩, by decide, hrewind hlow⟩

end HelpFile.Buffer
