import OutlineLint.Check
import OutlineLint.Proofs.Outline.Renumbering

/-!
# Findings about renumbered rows

The checks show rows and look at none of them.  So the findings about an outline
or a text with other rows are the findings about the first, with the rows that
they name changed alike: the row of the finding itself, that of an opening
bracket, and that of the first of several equal entries.
-/

namespace OutlineLint

/-! ## Findings with other rows -/

def FindingDetail.renumber (number : Int → Int) : FindingDetail → FindingDetail
  | .balance fault bracket openedAt expected =>
      .balance fault bracket (openedAt.map (·.renumber number)) expected
  | .duplicate scope text firstRow => .duplicate scope text (number firstRow)
  | .unresolved fault reference first second =>
      .unresolved fault reference first second

/-- The finding with every row that it names changed by `number`. -/
def Finding.renumber (finding : Finding) (number : Int → Int) : Finding :=
  { finding with
    position := finding.position.renumber number
    detail := finding.detail.renumber number }

def OpenBracket.renumber
    (opened : OpenBracket) (number : Int → Int) : OpenBracket :=
  { opened with position := opened.position.renumber number }

def BracketProblem.renumber (number : Int → Int) :
    BracketProblem → BracketProblem
  | unmatched bracket position => unmatched bracket (position.renumber number)
  | mismatched bracket position opened =>
      mismatched bracket (position.renumber number) (opened.renumber number)
  | unclosed opened => unclosed (opened.renumber number)

theorem BracketProblem.renumber_finding
    (file : Text) (problem : BracketProblem) (number : Int → Int) :
    (problem.renumber number).finding file =
      (problem.finding file).renumber number := by
  cases problem <;> rfl

/-! ## Brackets -/

/--
Brackets with other positions have the same problem, at the other positions.
-/
theorem Balance.scan_renumber
    (number : Int → Int) (pending : List OpenBracket)
    (located : List (Char × Position)) :
    scan (pending.map (·.renumber number))
        (located.map (Prod.map id (·.renumber number))) =
      (scan pending located).map (BracketProblem.renumber number) := by
  induction located generalizing pending with
  | nil => cases pending <;> rfl
  | cons head rest ih =>
      obtain ⟨character, position⟩ := head
      rw [List.map_cons, Prod.map_apply, id, scan, scan]
      split
      · exact ih (⟨_, position⟩ :: pending)
      · exact ih pending
      · cases pending with
        | nil => rfl
        | cons opened outer =>
            have sameBracket :
                (opened.renumber number).bracket = opened.bracket :=
              rfl
            simp only [List.map_cons, sameBracket]
            split
            · exact ih outer
            · rfl

/-! ## Duplicate entries -/

namespace Duplicate

def Repetition.renumber
    (repetition : Repetition) (number : Int → Int) : Repetition :=
  ⟨repetition.item.renumber number, number repetition.firstRow⟩

theorem lookup_map_snd
    (number : Int → Int) (key : Text) (seen : List (Text × Int)) :
    (seen.map (Prod.map id number)).lookup key =
      (seen.lookup key).map number := by
  induction seen with
  | nil => rfl
  | cons first rest ih =>
      obtain ⟨other, row⟩ := first
      rw [List.map_cons, Prod.map_apply, List.lookup_cons, List.lookup_cons, id,
        ih]
      split <;> rfl

theorem repetitionsAfter_renumber
    (number : Int → Int) (seen : List (Text × Int)) (items : List Item) :
    repetitionsAfter (seen.map (Prod.map id number))
        (items.map (·.renumber number)) =
      (repetitionsAfter seen items).map (·.renumber number) := by
  induction items generalizing seen with
  | nil => rfl
  | cons item rest ih =>
      have sameText : (item.renumber number).normalized = item.normalized := rfl
      rw [List.map_cons, repetitionsAfter, repetitionsAfter, sameText,
        lookup_map_snd]
      cases seen.lookup item.normalized with
      | none => exact ih ((item.normalized, item.position.row) :: seen)
      | some firstRow => exact congrArg (_ :: ·) (ih seen)

theorem scopeFindings_renumber
    (file scope : Text) (items : List Item) (number : Int → Int) :
    scopeFindings file scope (items.map (·.renumber number)) =
      (scopeFindings file scope items).map (·.renumber number) := by
  have repetitionsEq :
      repetitions (items.map (·.renumber number)) =
        (repetitions items).map (·.renumber number) :=
    repetitionsAfter_renumber number [] items
  rw [scopeFindings, repetitionsEq, scopeFindings, List.map_map, List.map_map]
  rfl

theorem sectionFindings_renumber
    (file : Text) (opened : Section) (number : Int → Int) :
    sectionFindings file (opened.renumber number) =
      (sectionFindings file opened).map (·.renumber number) := by
  have partsEq :
      (opened.subsections.map (·.renumber number)).flatMap (fun part =>
          scopeFindings file
            (subsectionScope opened.name part.name) part.items) =
        (opened.subsections.flatMap fun part =>
          scopeFindings file
              (subsectionScope opened.name part.name) part.items).map
            (·.renumber number) := by
    rw [List.flatMap_map, List.map_flatMap]
    apply List.flatMap_congr
    intro part _
    exact scopeFindings_renumber file _ part.items number
  simp only [sectionFindings, Section.renumber, List.map_append,
    scopeFindings_renumber, partsEq, List.map_map]
  rfl

theorem findings_renumber
    (file : Text) (outline : Outline) (number : Int → Int) :
    findings file (outline.renumber number) =
      (findings file outline).map (·.renumber number) := by
  rw [findings, findings, Outline.renumber, List.flatMap_map, List.map_flatMap]
  apply List.flatMap_congr
  intro opened _
  exact sectionFindings_renumber file opened number

end Duplicate

/-! ## Unresolved references -/

theorem Outline.sectionNamed?_renumber
    (outline : Outline) (name : Text) (number : Int → Int) :
    (outline.renumber number).sectionNamed? name =
      (outline.sectionNamed? name).map (·.renumber number) := by
  rw [sectionNamed?, renumber, List.find?_map]
  rfl

namespace Resolution

theorem sectionKnows_renumber
    (opened : Section) (name : Text) (number : Int → Int) :
    sectionKnows (opened.renumber number) name = sectionKnows opened name := by
  simp only [sectionKnows, Section.renumber, Subsection.renumber, List.any_map,
    Function.comp_def]
  rfl

theorem missing?_renumber
    (outline : Outline) (trimmed : Text) (number : Int → Int) :
    missing? (outline.renumber number) trimmed = missing? outline trimmed := by
  unfold missing?
  simp only [Outline.sectionNamed?_renumber]
  split
  · next first second _ _ =>
      cases outline.sectionNamed? (normalizedSegment first) with
      | none => rfl
      | some entry => simp only [Option.map_some, sectionKnows_renumber]
  · rw [Option.isNone_map]

theorem finding?_renumber
    (outline : Outline) (reference : Reference) (number : Int → Int) :
    finding? (outline.renumber number) (reference.renumber number) =
      (finding? outline reference).map (·.renumber number) := by
  have sameText : (reference.renumber number).text = reference.text := rfl
  rw [finding?, finding?, sameText, missing?_renumber]
  split
  · rfl
  · rw [Option.map_map]
    rfl

theorem findings_renumber (outline : Outline) (number : Int → Int) :
    findings (outline.renumber number) =
      (findings outline).map (·.renumber number) := by
  rw [findings, findings, Outline.renumber, List.filterMap_map,
    List.map_filterMap]
  apply List.filterMap_congr
  intro reference _
  exact finding?_renumber outline reference number

end Resolution

end OutlineLint
