import OutlineLint.Proofs.Reference.Leftmost

/-!
# References inside references

Between two brackets of a line there is a reference exactly if no `[` is waiting
for its `]` where they begin.  Otherwise the reference that the waiting `[`
opens goes on to the same `]`, and what stands between the inner brackets is a
part of its text.  So a reference can be hidden by one around it, although the
brackets of the text balance.
-/

namespace OutlineLint

namespace Reference

/--
Between two brackets is a reference exactly if no other
is open where they begin.
-/
theorem exists_mem_onLine_iff
    (file : Text) (row : Int) (before : Text) {content : Text} (after : Text)
    (nonempty : content ≠ []) (free : ']' ∉ content) :
    (∃ reference ∈ onLine file row (before ++ '[' :: (content ++ ']' :: after)),
        reference.text = content ∧
          reference.position = ⟨row, before.length + 1⟩) ↔
      ¬ before.LeavesOpen := by
  obtain ⟨next, made, spansEq, ends, isOpen⟩ :=
    exists_spans_append (endsBefore_none 1) before
      ('[' :: (content ++ ']' :: after))
  obtain ⟨closing, isSpan, covers, outermost, around⟩ :=
    exists_span_of_closed ends nonempty free after
  have member :
      ⟨closing.2, ⟨row, closing.1⟩, file⟩ ∈
        onLine file row (before ++ '[' :: (content ++ ']' :: after)) := by
    rw [onLine, spansEq]
    exact List.mem_map_of_mem (List.mem_append_right made isSpan)
  simp only [Option.isSome_none, Bool.false_eq_true, false_and,
    or_false] at isOpen
  rw [Int.add_comm] at covers around outermost
  rw [← isOpen]
  constructor
  · rintro ⟨reference, isReference, _, positionEq⟩ isSome
    have leftmost :=
      areLeftmost_onLine file row (before ++ '[' :: (content ++ ']' :: after))
    have begins := around isSome
    apply leftmost.not_covers member isReference _ covers
    · simp only [Covers, span, positionEq]
      omega
    · rintro rfl
      rw [Position.mk.injEq] at positionEq
      omega
  · intro notSome
    rw [outermost (Option.not_isSome_iff_eq_none.mp notSome)] at member
    exact ⟨_, member, rfl, rfl⟩

end Reference

/-- A line of a text is known by its row. -/
theorem Text.eq_of_mem_numberedLines
    {text line other : Text} {row : Nat}
    (isLine : (line, row) ∈ text.numberedLines)
    (isOther : (other, row) ∈ text.numberedLines) :
    line = other := by
  rw [numberedLines, List.mem_zipIdx_iff_le_and_getElem?_sub] at isLine isOther
  exact Option.some.inj (isLine.2.symm.trans isOther.2)

/-! ## A reference around another -/

/-- The brackets of the line balance, and the inner reference is hidden. -/
def Outline.nested : Text :=
  "wear\n   [my [closet.shoes] there]".toList

theorem Outline.nested_line :
    ("   [my [closet.shoes] there]".toList, 2) ∈ nested.numberedLines := by
  decide +kernel

/--
What stands between two brackets of a line, and holds no `]`, is a reference
exactly if the line has no `[` before it that is still open.
-/
theorem Outline.exists_reference_iff_not_leavesOpen
    {file text line : Text} {row : Nat}
    (isLine : (line, row) ∈ text.numberedLines)
    {before content after : Text}
    (whole : line = before ++ '[' :: (content ++ ']' :: after))
    (nonempty : content ≠ []) (free : ']' ∉ content) :
    (∃ reference ∈ (parse file text).references,
        reference.text = content ∧
          reference.position = ⟨row, before.length + 1⟩) ↔
      ¬ before.LeavesOpen := by
  rw [← Reference.exists_mem_onLine_iff file row before after nonempty free,
    ← whole]
  constructor
  · rintro ⟨reference, member, textEq, positionEq⟩
    obtain ⟨⟨other, otherRow⟩, isOther, onLine⟩ := List.mem_flatMap.mp member
    have rowEq := Reference.row_of_mem_onLine onLine
    rw [positionEq] at rowEq
    obtain rfl : row = otherRow := Int.ofNat.inj rowEq
    rw [Text.eq_of_mem_numberedLines isLine isOther]
    exact ⟨reference, onLine, textEq, positionEq⟩
  · rintro ⟨reference, onLine, found⟩
    exact ⟨reference, List.mem_flatMap.mpr ⟨_, isLine, onLine⟩, found⟩

/-- The reference around it is still open where the inner one begins. -/
theorem Outline.nested_hidden :
    ("   [my [closet.shoes] there]".toList, 2) ∈ nested.numberedLines ∧
      "   [my [closet.shoes] there]".toList =
          "   [my ".toList ++ '[' ::
            ("closet.shoes".toList ++ ']' :: " there]".toList) ∧
        "closet.shoes".toList ≠ [] ∧ ']' ∉ "closet.shoes".toList ∧
          ¬ ∃ reference ∈ (parse [] nested).references,
            reference.text = "closet.shoes".toList ∧
              reference.position = ⟨2, 8⟩ := by
  have whole :
      "   [my [closet.shoes] there]".toList =
        "   [my ".toList ++ '[' ::
          ("closet.shoes".toList ++ ']' :: " there]".toList) := by
    decide
  have nonempty : "closet.shoes".toList ≠ [] := by decide
  have free : ']' ∉ "closet.shoes".toList := by decide
  have leftOpen : Text.LeavesOpen "   [my ".toList :=
    ⟨"   ".toList, "my ".toList, by decide, by decide⟩
  refine ⟨nested_line, whole, nonempty, free, fun found => ?_⟩
  exact (exists_reference_iff_not_leavesOpen nested_line whole nonempty free).mp
    found leftOpen

/--
Not every text between two brackets is a reference, even if it
holds no bracket itself.
-/
theorem Outline.nested_not_collected :
    ¬ ∀ (file text line : Text) (row : Nat) (before content after : Text),
      (line, row) ∈ text.numberedLines →
        line = before ++ '[' :: (content ++ ']' :: after) →
          content ≠ [] → '[' ∉ content → ']' ∉ content →
            ∃ reference ∈ (parse file text).references,
              reference.text = content ∧
                reference.position = ⟨row, before.length + 1⟩ := by
  intro collected
  have found :=
    collected [] nested _ 2 "   [my ".toList "closet.shoes".toList
      " there]".toList nested_line
      (by decide) (by decide) (by decide) (by decide)
  revert found
  decide +kernel

end OutlineLint
