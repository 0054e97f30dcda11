import Mathlib.Data.List.Nodup
import OutlineLint.Outline.Parse
import OutlineLint.Proofs.Reference.Spans
import OutlineLint.Proofs.Text.Walk

/-!
# Places of references

The references of a text come in reading order, each at a place of its own: on a
line their columns grow, and the lines follow each other.  So a reference is
known by its position.
-/

namespace OutlineLint

namespace Reference

/-- No span begins before both the pending bracket and the rest of the line. -/
theorem le_col_of_mem_spans
    {bound col : Int} {opening : Option Opening}
    (pending : ∀ opened ∈ opening, bound ≤ opened.col) (here : bound ≤ col)
    (rest : Text) :
    ∀ span ∈ spans opening col rest, bound ≤ span.1 := by
  induction rest generalizing col opening with
  | nil => exact nofun
  | cons character rest ih =>
      obtain ⟨next, made, advances, spansEq⟩ :=
        exists_advances opening col character rest
      have further : bound ≤ col + 1 := by omega
      rw [spansEq]
      cases advances with
      | passes _ | drops _ => exact ih forall_pending_none further
      | opens => exact ih (forall_pending_some here) further
      | continues _ =>
          have bounded := pending _ rfl
          exact ih (forall_pending_some bounded) further
      | closes _ =>
          rw [List.singleton_append, List.forall_mem_cons]
          exact ⟨pending _ rfl, ih forall_pending_none further⟩

/-- The pending bracket and the characters since end before the column. -/
def EndsBefore (col : Int) (opening : Option Opening) : Prop :=
  ∀ opened ∈ opening, opened.col + opened.reversed.length + 1 = col

theorem endsBefore_none (col : Int) : EndsBefore col none :=
  forall_pending_none

theorem Advances.endsBefore
    {opening next : Option Opening} {col : Int} {character : Char}
    {made : List (Int × Text)}
    (advances : Advances col opening character next made)
    (ends : EndsBefore col opening) :
    EndsBefore (col + 1) next := by
  cases advances with
  | passes _ | drops _ | closes _ => exact endsBefore_none _
  | opens => exact forall_pending_some (by simp)
  | @continues start reversed _ _ =>
      have ended : start + reversed.length + 1 = col := ends _ rfl
      apply forall_pending_some
      simp only [List.length_cons]
      omega

/-- A span ends before the next one begins. -/
theorem pairwise_spans
    {col : Int} {opening : Option Opening} (ends : EndsBefore col opening)
    (rest : Text) :
    (spans opening col rest).Pairwise fun (first second : Int × Text) =>
      first.1 + first.2.length + 1 < second.1 := by
  induction rest generalizing col opening with
  | nil => exact List.Pairwise.nil
  | cons character rest ih =>
      obtain ⟨next, made, advances, spansEq⟩ :=
        exists_advances opening col character rest
      have later := ih (advances.endsBefore ends)
      rw [spansEq]
      cases advances with
      | passes _ | opens | continues _ | drops _ => exact later
      | @closes start reversed _ =>
          have ended : start + reversed.length + 1 = col := ends _ rfl
          refine List.pairwise_cons.mpr ⟨?_, later⟩
          intro span member
          have afterwards :=
            le_col_of_mem_spans forall_pending_none
              (Int.le_refl (col + 1)) rest span member
          rw [List.length_reverse]
          omega

theorem row_of_mem_onLine
    {file line : Text} {row : Int} {reference : Reference}
    (member : reference ∈ onLine file row line) :
    reference.position.row = row := by
  obtain ⟨span, _, rfl⟩ := List.mem_map.mp member
  rfl

theorem pairwise_onLine (file : Text) (row : Int) (line : Text) :
    (onLine file row line).Pairwise fun first second =>
      first.position.Precedes second.position := by
  rw [onLine, List.pairwise_map]
  apply (pairwise_spans (endsBefore_none 1) line).imp
  intro first second before
  refine Or.inr ⟨rfl, ?_⟩
  dsimp only
  omega

end Reference

theorem Text.pairwise_numberedLines (text : Text) :
    text.numberedLines.Pairwise fun first second => first.2 < second.2 := by
  have rows :
      text.numberedLines.map Prod.snd = List.range' 1 text.lines.length :=
    List.zipIdx_map_snd 1 text.lines
  apply List.pairwise_map.mp
  rw [rows]
  exact List.pairwise_lt_range'

namespace Outline

/-- The references of a text come in reading order. -/
theorem pairwise_references (file text : Text) :
    (parse file text).references.Pairwise fun first second =>
      first.position.Precedes second.position := by
  rw [parse, List.pairwise_flatMap]
  constructor
  · intro numbered _
    exact Reference.pairwise_onLine file numbered.2 numbered.1
  · apply text.pairwise_numberedLines.imp
    intro above below rowsGrow first isAbove second isBelow
    left
    rw [Reference.row_of_mem_onLine isAbove,
      Reference.row_of_mem_onLine isBelow]
    exact Int.ofNat_lt.mpr rowsGrow

theorem file_of_mem_references
    {file text : Text} {reference : Reference}
    (member : reference ∈ (parse file text).references) :
    reference.file = file := by
  obtain ⟨numbered, _, onLine⟩ := List.mem_flatMap.mp member
  obtain ⟨span, _, rfl⟩ := List.mem_map.mp onLine
  rfl

/-- A reference of a text is known by its position. -/
theorem eq_of_position_eq
    {file text : Text} {first second : Reference}
    (isFirst : first ∈ (parse file text).references)
    (isSecond : second ∈ (parse file text).references)
    (samePosition : first.position = second.position) :
    first = second := by
  have distinct :
      ((parse file text).references.map Reference.position).Nodup := by
    rw [List.Nodup, List.pairwise_map]
    apply (pairwise_references file text).imp
    intro earlier later precedes same
    rw [same] at precedes
    unfold Position.Precedes at precedes
    omega
  exact List.inj_on_of_nodup_map distinct isFirst isSecond samePosition

end Outline

end OutlineLint
