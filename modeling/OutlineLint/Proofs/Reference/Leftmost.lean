import Mathlib.Data.List.Pairwise
import OutlineLint.Proofs.Reference.Columns
import OutlineLint.Proofs.Text.Decimal

/-!
# Leftmost references

The references on a line can be told without reading it from left to right.
Each stands in the line between a `[` and the next `]`; they come in the order
of their columns, and no column belongs to two of them.  A `[` outside all of
them is closed at once or never.  No other list has these properties.

What has been read of a line counts for the rest only by the `[` that it has
left open, if any.  Two brackets behind it make a span, or are inside the span
of that `[`.
-/

namespace OutlineLint

/-- The text has a `[` with no `]` behind it. -/
def Text.LeavesOpen (text : Text) : Prop :=
  ∃ outer inner : Text, text = outer ++ '[' :: inner ∧ ']' ∉ inner

theorem Text.not_leavesOpen_nil : ¬ Text.LeavesOpen [] := by
  rintro ⟨outer, inner, whole, _⟩
  exact List.append_ne_nil_of_right_ne_nil outer
    (List.cons_ne_nil _ inner) whole.symm

theorem Text.leavesOpen_cons_iff (character : Char) (text : Text) :
    Text.LeavesOpen (character :: text) ↔
      character = '[' ∧ ']' ∉ text ∨ text.LeavesOpen := by
  constructor
  · rintro ⟨outer, inner, whole, free⟩
    cases outer with
    | nil =>
        obtain ⟨rfl, rfl⟩ := List.cons.inj whole
        exact Or.inl ⟨rfl, free⟩
    | cons first outer =>
        exact Or.inr ⟨outer, inner, (List.cons.inj whole).2, free⟩
  · rintro (⟨rfl, free⟩ | ⟨outer, inner, rfl, free⟩)
    · exact ⟨[], text, rfl, free⟩
    · exact ⟨character :: outer, inner, rfl, free⟩

namespace Reference

/-- The column belongs to the span, which goes from its `[` to its `]`. -/
def Covers (span : Int × Text) (col : Int) : Prop :=
  span.1 ≤ col ∧ col ≤ span.1 + span.2.length + 1

/-- The column of the `[` and the text between the brackets. -/
def span (reference : Reference) : Int × Text :=
  (reference.position.col, reference.text)

/-- The references are the leftmost on the line that do not overlap. -/
structure AreLeftmost
    (file : Text) (row : Int) (line : Text) (references : List Reference) :
    Prop where
  belong :
    ∀ reference ∈ references,
      reference.file = file ∧ reference.position.row = row
  ordered :
    references.Pairwise fun first second =>
      first.position.col < second.position.col
  stand : ∀ reference ∈ references, line.HasSpan reference.span
  apart :
    references.Pairwise fun first second =>
      ∀ col : Int, Covers first.span col → ¬ Covers second.span col
  /-- A `[` outside the references is closed at once or never. -/
  others :
    ∀ before after : Text,
      line = before ++ '[' :: after →
        (∀ reference ∈ references,
            ¬ Covers reference.span (before.length + 1)) →
          after.head? = some ']' ∨ ']' ∉ after

/-! ## The references that are read -/

/-- A pending bracket makes a span with everything up to the next `]`. -/
theorem mem_spans_of_closed
    (start : Int) (reversed : Text) (col : Int) {content : Text}
    (free : ']' ∉ content)
    (after : Text) (nonempty : reversed.reverse ++ content ≠ []) :
    (start, reversed.reverse ++ content) ∈
      spans (some ⟨start, reversed⟩) col (content ++ ']' :: after) := by
  induction content generalizing reversed col with
  | nil =>
      have pending : reversed ≠ [] := by simpa using nonempty
      simp [spans, pending]
  | cons character content ih =>
      rw [List.mem_cons, not_or] at free
      have moved : reversed.reverse ++ character :: content =
          (character :: reversed).reverse ++ content := by simp
      rw [List.cons_append, spans, if_neg (Ne.symm free.1), moved]
      exact ih (character :: reversed) (col + 1) free.2 (moved ▸ nonempty)

/-- What is pending behind the first part of a line has been left open by it. -/
theorem exists_spans_append
    {opening : Option Opening} {col : Int} (ends : EndsBefore col opening)
    (before rest : Text) :
    ∃ (next : Option Opening) (made : List (Int × Text)),
      spans opening col (before ++ rest) =
          made ++ spans next (col + before.length) rest ∧
        EndsBefore (col + before.length) next ∧
          (next.isSome = true ↔
            before.LeavesOpen ∨ opening.isSome = true ∧ ']' ∉ before) := by
  induction before generalizing opening col with
  | nil =>
      refine ⟨opening, [], by simp, by simpa using ends, ?_⟩
      simp [Text.not_leavesOpen_nil]
  | cons character before ih =>
      obtain ⟨afterFirst, madeFirst, advances, spansEq⟩ :=
        exists_advances opening col character (before ++ rest)
      obtain ⟨next, made, restEq, nextEnds, isOpen⟩ :=
        ih (advances.endsBefore ends)
      have further :
          col + 1 + before.length = col + (character :: before).length := by
        rw [List.length_cons]
        omega
      rw [further] at restEq nextEnds
      refine ⟨next, madeFirst ++ made, ?_, nextEnds, ?_⟩
      · rw [List.cons_append, spansEq, restEq, List.append_assoc]
      · rw [isOpen, Text.leavesOpen_cons_iff]
        cases advances with
        | passes notOpener => simp [notOpener]
        | opens => simp [or_comm]
        | continues notCloser =>
            have sameRest : ']' ∉ character :: before ↔ ']' ∉ before := by
              simp [Ne.symm notCloser]
            rw [sameRest]
            grind
        | drops _ | closes _ => simp

/--
Two brackets are those of a span, or inside a span that begins before them.
-/
theorem exists_span_of_closed
    {opening : Option Opening} {col : Int} (ends : EndsBefore col opening)
    {content : Text} (nonempty : content ≠ []) (free : ']' ∉ content)
    (after : Text) :
    ∃ span ∈ spans opening col ('[' :: (content ++ ']' :: after)),
      Covers span col ∧ (opening = none → span = (col, content)) ∧
        (opening.isSome = true → span.1 < col) := by
  cases opening with
  | none =>
      have member :=
        mem_spans_of_closed col [] (col + 1) free after
          (by simpa using nonempty)
      refine ⟨_, member, ?_, fun _ => rfl, by simp⟩
      simp only [Covers]
      omega
  | some opened =>
      obtain ⟨start, reversed⟩ := opened
      have ended : start + reversed.length + 1 = col := ends _ rfl
      have member :=
        mem_spans_of_closed start ('[' :: reversed) (col + 1) free after
          (by simp)
      refine ⟨_, member, ?_, by simp, fun _ => ?_⟩
      · simp only [Covers, List.length_append, List.length_reverse,
          List.length_cons]
        omega
      · dsimp only
        omega

/--
A `[` of a line is in one of its spans, unless it is closed at once or never.
-/
theorem exists_span_covering (before after : Text) :
    (∃ span ∈ spans none 1 (before ++ '[' :: after),
        Covers span (1 + before.length)) ∨
      after.head? = some ']' ∨ ']' ∉ after := by
  by_cases closed : ']' ∈ after
  · obtain ⟨content, rest, rfl, free⟩ := List.eq_append_cons_of_mem closed
    by_cases nonempty : content = []
    · rw [nonempty]
      exact Or.inr (Or.inl rfl)
    · obtain ⟨next, made, spansEq, ends, _⟩ :=
        exists_spans_append (endsBefore_none 1) before
          ('[' :: (content ++ ']' :: rest))
      obtain ⟨span, member, covers, _⟩ :=
        exists_span_of_closed ends nonempty free rest
      rw [spansEq]
      exact Or.inl ⟨span, List.mem_append_right made member, covers⟩
  · exact Or.inr (Or.inr closed)

theorem areLeftmost_onLine (file : Text) (row : Int) (line : Text) :
    AreLeftmost file row line (onLine file row line) := by
  have ends := pairwise_spans (endsBefore_none 1) line
  constructor
  case belong =>
    intro reference member
    obtain ⟨span, _, rfl⟩ := List.mem_map.mp member
    exact ⟨rfl, rfl⟩
  case ordered =>
    rw [onLine, List.pairwise_map]
    apply ends.imp
    intro first second before
    dsimp only
    omega
  case stand =>
    intro reference member
    exact (hasSpan_of_mem_onLine member).2
  case apart =>
    rw [onLine, List.pairwise_map]
    apply ends.imp
    intro first second before col inFirst inSecond
    simp only [Covers, span] at inFirst inSecond
    omega
  case others =>
    rintro before after rfl uncovered
    rcases exists_span_covering before after
      with ⟨found, member, covers⟩ | closed
    · rw [Int.add_comm] at covers
      exact absurd covers
        (uncovered ⟨found.2, ⟨row, found.1⟩, file⟩ (List.mem_map_of_mem member))
    · exact closed

/-! ## No other references -/

/-- Two spans of a line that begin at one column are the same. -/
theorem eq_of_hasSpan
    {line : Text} {first second : Int × Text}
    (isFirst : line.HasSpan first) (isSecond : line.HasSpan second)
    (sameCol : first.1 = second.1) :
    first = second := by
  obtain ⟨before, after, whole, colEq, _, free⟩ := isFirst
  obtain ⟨otherBefore, otherAfter, otherWhole, otherColEq, _, otherFree⟩ :=
    isSecond
  have sameLength : before.length = otherBefore.length := by omega
  obtain ⟨rfl, sameRest⟩ :=
    List.append_inj (whole.symm.trans otherWhole) sameLength
  have inContent {content : Text} (free : ']' ∉ content) :
      ∀ character ∈ content, (character != ']') = true := by
    intro character member
    rw [bne_iff_ne]
    rintro rfl
    exact free member
  have sameContent : first.2 = second.2 :=
    (Text.append_cons_inj (inContent free) (inContent otherFree) rfl rfl
      (List.cons.inj sameRest).2).1
  exact Prod.ext sameCol sameContent

namespace AreLeftmost

variable {file line : Text} {row : Int} {references others : List Reference}

theorem not_covers
    (leftmost : AreLeftmost file row line references) {first second : Reference}
    (isFirst : first ∈ references) (isSecond : second ∈ references)
    (different : first ≠ second) {col : Int} (covers : Covers first.span col) :
    ¬ Covers second.span col := by
  have symmetric :
      Std.Symm fun first second : Reference =>
        ∀ col : Int, Covers first.span col → ¬ Covers second.span col :=
    ⟨fun _ _ apart col inSecond inFirst => apart col inFirst inSecond⟩
  exact leftmost.apart.forall isFirst isSecond different col covers

/-- References at one column of the line are the same. -/
theorem eq_of_col_eq
    (leftmost : AreLeftmost file row line references)
    (alike : AreLeftmost file row line others) {reference other : Reference}
    (isReference : reference ∈ references) (isOther : other ∈ others)
    (sameCol : reference.position.col = other.position.col) :
    reference = other := by
  have sameSpan :=
    eq_of_hasSpan (leftmost.stand reference isReference)
      (alike.stand other isOther) sameCol
  obtain ⟨fileEq, rowEq⟩ := leftmost.belong reference isReference
  obtain ⟨otherFileEq, otherRowEq⟩ := alike.belong other isOther
  obtain ⟨text, position, ownFile⟩ := reference
  obtain ⟨otherText, otherPosition, otherFile⟩ := other
  obtain ⟨row, col⟩ := position
  obtain ⟨otherRow, otherCol⟩ := otherPosition
  simp only [span, Prod.mk.injEq] at sameSpan
  simp only [Reference.mk.injEq, Position.mk.injEq]
  exact ⟨sameSpan.2, ⟨rowEq.trans otherRowEq.symm, sameSpan.1⟩,
    fileEq.trans otherFileEq.symm⟩

/-- A `[` that begins a span of the line is in one of the references. -/
theorem exists_covering
    (leftmost : AreLeftmost file row line references) {span : Int × Text}
    (stands : line.HasSpan span) :
    ∃ reference ∈ references, Covers reference.span span.1 := by
  obtain ⟨before, after, whole, colEq, nonempty, free⟩ := stands
  by_contra uncovered
  push Not at uncovered
  rw [colEq] at uncovered
  rcases leftmost.others before _ whole uncovered with atOnce | never
  · obtain ⟨first, content, contentEq⟩ := List.exists_cons_of_ne_nil nonempty
    rw [contentEq] at atOnce free
    cases atOnce
    exact free List.mem_cons_self
  · exact never (List.mem_append_right _ List.mem_cons_self)

/-- The references of one list are in any other of the kind. -/
theorem mem_of_mem
    (leftmost : AreLeftmost file row line references)
    (alike : AreLeftmost file row line others) {reference : Reference}
    (member : reference ∈ references) :
    reference ∈ others := by
  -- Two lists that first differ at a column would both cover
  -- it, one of them twice.
  induction length : reference.position.col.toNat using Nat.strongRecOn
    generalizing references others reference with
  | ind bound ih =>
      have stands := leftmost.stand reference member
      obtain ⟨other, isOther, covers⟩ := alike.exists_covering stands
      rcases Int.lt_or_eq_of_le covers.1 with earlier | sameCol
      · have counted : 0 < other.span.1 := by
          obtain ⟨before, _, _, colEq, _⟩ := alike.stand other isOther
          omega
        have inBoth :=
          ih _ (by simp only [span] at *; omega) alike leftmost isOther rfl
        have ownCover : Covers reference.span reference.span.1 := by
          simp only [Covers]
          omega
        have different : other ≠ reference := by
          rintro rfl
          omega
        exact absurd ownCover
          (leftmost.not_covers inBoth member different covers)
      · rwa [leftmost.eq_of_col_eq alike member isOther sameCol.symm]

theorem unique
    (leftmost : AreLeftmost file row line references)
    (alike : AreLeftmost file row line others) :
    references = others := by
  have distinct {list : List Reference}
      (leftmost : AreLeftmost file row line list) :
      list.Nodup :=
    leftmost.ordered.imp fun before same => by
      rw [same] at before
      omega
  have sameMembers : references.Perm others := by
    rw [List.perm_ext_iff_of_nodup (distinct leftmost) (distinct alike)]
    exact fun reference =>
      ⟨leftmost.mem_of_mem alike, alike.mem_of_mem leftmost⟩
  apply sameMembers.eq_of_pairwise _ leftmost.ordered alike.ordered
  intro first second _ _ before after
  omega

end AreLeftmost

/-! ## The references on a line -/

/--
The references on a line are the leftmost that do not
overlap, and no other list is.
-/
theorem eq_onLine_iff
    (file : Text) (row : Int) (line : Text) (references : List Reference) :
    references = onLine file row line ↔
      AreLeftmost file row line references := by
  constructor
  · rintro rfl
    exact areLeftmost_onLine file row line
  · intro leftmost
    exact leftmost.unique (areLeftmost_onLine file row line)

end Reference

end OutlineLint
