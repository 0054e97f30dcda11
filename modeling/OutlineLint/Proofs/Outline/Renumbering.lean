import OutlineLint.Proofs.Outline.Merge
import OutlineLint.Proofs.Outline.Reading

/-!
# Renumbered rows

Rows are kept with the parts of an outline and never compared while a text is
read.  So a text whose lines have other numbers is read into the same outline
with its rows changed alike.  Putting an outline below other lines is the
renumbering that adds their number.
-/

namespace OutlineLint

/-! ## Outlines with other rows -/

def Position.renumber (position : Position) (number : Int → Int) : Position :=
  { position with row := number position.row }

def Item.renumber (item : Item) (number : Int → Int) : Item :=
  { item with position := item.position.renumber number }

def Reference.renumber
    (reference : Reference) (number : Int → Int) : Reference :=
  { reference with position := reference.position.renumber number }

def RepeatedHeader.renumber
    (again : RepeatedHeader) (number : Int → Int) : RepeatedHeader :=
  ⟨again.header.renumber number, number again.firstRow⟩

def HeaderLine.renumber
    (headerLine : HeaderLine) (number : Int → Int) : HeaderLine :=
  { headerLine with row := number headerLine.row }

def Subsection.renumber (part : Subsection) (number : Int → Int) : Subsection :=
  { part with
    position := part.position.renumber number
    items := part.items.map (·.renumber number) }

def Section.renumber (opened : Section) (number : Int → Int) : Section :=
  { opened with
    subsections := opened.subsections.map (·.renumber number)
    items := opened.items.map (·.renumber number)
    repeatedHeaders := opened.repeatedHeaders.map (·.renumber number)
    headerLines := opened.headerLines.map (·.renumber number) }

/-- The outline with every row changed by `number`. -/
def Outline.renumber (outline : Outline) (number : Int → Int) : Outline :=
  ⟨outline.sections.map (·.renumber number),
    outline.references.map (·.renumber number)⟩

theorem Outline.below_eq_renumber (outline : Outline) (lines : Nat) :
    outline.below lines = outline.renumber (· + lines) :=
  rfl

theorem Subsection.renumber_renumber
    (part : Subsection) (first second : Int → Int) :
    (part.renumber first).renumber second = part.renumber (second ∘ first) := by
  simp only [renumber, List.map_map]
  rfl

theorem Section.renumber_renumber
    (opened : Section) (first second : Int → Int) :
    (opened.renumber first).renumber second =
      opened.renumber (second ∘ first) := by
  have partsEq :
      (opened.subsections.map (·.renumber first)).map (·.renumber second) =
        opened.subsections.map (·.renumber (second ∘ first)) := by
    rw [List.map_map]
    exact List.map_congr_left fun part _ => part.renumber_renumber first second
  simp only [renumber, partsEq, List.map_map]
  rfl

theorem Outline.renumber_renumber
    (outline : Outline) (first second : Int → Int) :
    (outline.renumber first).renumber second =
      outline.renumber (second ∘ first) := by
  simp only [renumber, List.map_map]
  congr 1
  exact List.map_congr_left fun opened _ =>
    opened.renumber_renumber first second

/-! ## Drafts with other rows -/

def Heading.renumber (heading : Heading) (number : Int → Int) : Heading :=
  { heading with header := heading.header.renumber number }

def Place.renumber (place : Place) (number : Int → Int) : Place :=
  { place with heading := place.heading.map (·.renumber number) }

def Draft.renumber (draft : Draft) (number : Int → Int) : Draft :=
  ⟨draft.sections.map (·.renumber number), draft.place.map (·.renumber number)⟩

/--
A conversion that keeps the names goes past a change
that corresponds to another.
-/
theorem Named.map_alter
    {Entry Other : Type} [Named Entry] [Named Other]
    (convert : Entry → Other) (change : Entry → Entry) (changed : Other → Other)
    (keeps : ∀ entry : Entry, name (convert entry) = name entry)
    (corresponds :
      ∀ entry : Entry, convert (change entry) = changed (convert entry))
    (wanted : Text) (fresh : Entry) (entries : List Entry) :
    (alter wanted fresh change entries).map convert =
      alter wanted (convert fresh) changed (entries.map convert) := by
  induction entries with
  | nil => simp [alter, corresponds]
  | cons entry rest ih =>
      rw [List.map_cons, alter, alter, keeps]
      split
      · rw [List.map_cons, corresponds]
      · rw [List.map_cons, ih]

namespace Section

theorem renumber_attach
    (opened : Section) (heading : Option Heading) (item : Item)
    (number : Int → Int) :
    (opened.attach heading item).renumber number =
      (opened.renumber number).attach (heading.map (·.renumber number))
        (item.renumber number) := by
  cases heading with
  | none => simp [attach, renumber]
  | some heading =>
      have attached :=
        Named.map_alter (Subsection.renumber · number)
          (fun part => { part with items := part.items ++ [item] })
          (fun part =>
            { part with items := part.items ++ [item.renumber number] })
          (fun _ => rfl)
            (fun part => by simp [Subsection.renumber]) heading.name
          (Subsection.empty heading.name heading.header.position)
            opened.subsections
      rw [attach, renumber, attached]
      rfl

theorem renumber_enter
    (opened : Section) (heading : Heading) (number : Int → Int) :
    (opened.enter heading).renumber number =
      (opened.renumber number).enter (heading.renumber number) := by
  have entered :=
    Named.map_alter (Subsection.renumber · number) id id (fun _ => rfl)
      (fun _ => rfl)
      heading.name
      (Subsection.empty heading.name heading.header.position) opened.subsections
  rw [enter, renumber, entered]
  rfl

theorem renumber_recordRepeat
    (opened : Section) (header : Item) (firstRow : Int) (number : Int → Int) :
    (opened.recordRepeat header firstRow).renumber number =
      (opened.renumber number).recordRepeat (header.renumber number)
        (number firstRow) := by
  simp [recordRepeat, renumber, RepeatedHeader.renumber]

theorem renumber_recordHeaderLine
    (opened : Section) (row : Int) (line : Text) (number : Int → Int) :
    (opened.recordHeaderLine row line).renumber number =
      (opened.renumber number).recordHeaderLine (number row) line := by
  simp [recordHeaderLine, renumber, HeaderLine.renumber]

end Section

namespace Draft

theorem renumber_alterSection
    (draft : Draft) (name : Text) (change changed : Section → Section)
    {number : Int → Int} (corresponds : ∀ opened : Section,
      (change opened).renumber number = changed (opened.renumber number)) :
    (draft.alterSection name change).renumber number =
      (draft.renumber number).alterSection name changed := by
  have altered :=
    Named.map_alter (Section.renumber · number) change changed
      (fun _ => rfl) corresponds name
      (Section.empty name) draft.sections
  exact congrArg (Draft.mk · (draft.place.map (·.renumber number))) altered

theorem renumber_openSection
    (draft : Draft) (name : Text) (number : Int → Int) :
    (draft.openSection name).renumber number =
      (draft.renumber number).openSection name := by
  have opened : (draft.alterSection name id).renumber number = _ :=
    draft.renumber_alterSection name id id fun _ => rfl
  exact congrArg
    (fun opened : Draft => { opened with place := some ⟨name, none⟩ }) opened

theorem renumber_enter
    (draft : Draft) (sectionName : Text) (heading : Heading)
    (number : Int → Int) :
    (openSubsection?.enter draft sectionName heading).renumber number =
      openSubsection?.enter (draft.renumber number) sectionName
        (heading.renumber number) := by
  have entered :=
    draft.renumber_alterSection sectionName (·.enter heading)
      (·.enter (heading.renumber number))
      fun opened => opened.renumber_enter heading number
  exact
    congrArg
      (fun entered : Draft =>
        { entered with
          place := some ⟨sectionName, some (heading.renumber number)⟩ })
      entered

theorem renumber_openSubsection?
    (draft : Draft) (name : Text) (header : Item) (number : Int → Int) :
    (draft.openSubsection? name header).map (·.renumber number) =
      (draft.renumber number).openSubsection? name
        (header.renumber number) := by
  rw [openSubsection?, openSubsection?, renumber]
  cases isPlace : draft.place with
  | none => rfl
  | some place =>
      obtain ⟨sectionName, heading⟩ := place
      cases heading with
      | none =>
          exact congrArg some
            (draft.renumber_enter sectionName ⟨name, header⟩ number)
      | some current =>
          have sameAnswer :
              (current.renumber number).isRepeatedBy name
                  (header.renumber number) =
                current.isRepeatedBy name header :=
            rfl
          simp only [Option.map_some, Place.renumber, sameAnswer]
          split
          · have recorded :=
              draft.renumber_alterSection sectionName
                (·.recordRepeat header current.header.position.row)
                (·.recordRepeat (header.renumber number)
                  (number current.header.position.row))
                fun opened => opened.renumber_recordRepeat header _ number
            rw [Option.map_some, recorded, renumber, isPlace]
            rfl
          · exact congrArg some
              (draft.renumber_enter sectionName ⟨name, header⟩ number)

theorem renumber_attach? (draft : Draft) (item : Item) (number : Int → Int) :
    (draft.attach? item).map (·.renumber number) =
      (draft.renumber number).attach? (item.renumber number) := by
  rw [attach?, attach?, renumber]
  cases isPlace : draft.place with
  | none => rfl
  | some place =>
      have attached :=
        draft.renumber_alterSection place.sectionName
          (·.attach place.heading item)
          (·.attach (place.heading.map (·.renumber number))
            (item.renumber number))
          fun opened => opened.renumber_attach place.heading item number
      rw [Option.map_some, attached, renumber, isPlace]
      rfl

/-- A line with another number is read alike. -/
theorem renumber_read
    (draft : Draft) (row : Int) (line : Text) (number : Int → Int) :
    (draft.read row line).renumber number =
      (draft.renumber number).read (number row) line := by
  rw [read, read]
  split
  · next name _ =>
      rw [renumber_alterSection _ name (·.recordHeaderLine row line)
          (·.recordHeaderLine (number row) line)
          fun opened => opened.renumber_recordHeaderLine row line number,
        renumber_openSection]
  · next name content _ =>
      rw [← Option.getD_map (renumber · number), renumber_openSubsection?]
      rfl
  · next content _ =>
      rw [← Option.getD_map (renumber · number), renumber_attach?]
      rfl
  · rfl

/-- Lines with other numbers are read alike. -/
theorem renumber_readAll
    (draft : Draft) (numbered : List (Text × Nat)) (number : Int → Int) :
    (draft.readAll numbered).renumber number =
      numbered.foldl (fun draft (line, row) => draft.read (number row) line)
        (draft.renumber number) := by
  induction numbered generalizing draft with
  | nil => rfl
  | cons first rest ih =>
      obtain ⟨line, row⟩ := first
      have readFirst := draft.renumber_read row line number
      have readRest := ih (draft.read row line)
      rw [readFirst] at readRest
      exact readRest

end Draft

/-! ## Lines with other rows -/

/-- The references of lines, the first of which is in row 1. -/
def Reference.ofLines (file : Text) (lines : List Text) : List Reference :=
  (lines.zipIdx 1).flatMap fun (line, row) => onLine file row line

/-- The outline of lines, the first of which is in row 1. -/
def Outline.ofLines (file : Text) (lines : List Text) : Outline :=
  ⟨Layout.sections lines, Reference.ofLines file lines⟩

theorem Outline.parse_eq_ofLines (file text : Text) :
    parse file text = ofLines file text.lines := by
  rw [ofLines, ← Layout.parse_sections file text]
  rfl

theorem Layout.renumber_draft (lines : List Text) (number : Int → Int) :
    (draft lines).renumber number =
      (lines.zipIdx 1).foldl
        (fun draft (line, row) => draft.read (number row) line)
        Draft.empty := by
  rw [← readAll_eq_draft, Draft.renumber_readAll]
  rfl

theorem Reference.renumber_onLine
    (file : Text) (row : Int) (line : Text) (number : Int → Int) :
    (onLine file row line).map (·.renumber number) =
      onLine file (number row) line := by
  rw [onLine, onLine, List.map_map]
  rfl

theorem Reference.renumber_ofLines
    (file : Text) (lines : List Text) (number : Int → Int) :
    (ofLines file lines).map (·.renumber number) =
      (lines.zipIdx 1).flatMap fun (line, row) =>
        onLine file (number row) line := by
  rw [ofLines, List.map_flatMap]
  exact List.flatMap_congr fun numbered _ =>
    renumber_onLine file numbered.2 numbered.1 number

/-- Only the rows of the lines count for a renumbering. -/
theorem Outline.renumber_ofLines_congr
    (file : Text) {lines : List Text} {number other : Int → Int}
    (agree :
      ∀ row : Nat, 1 ≤ row → row ≤ lines.length → number row = other row) :
    (ofLines file lines).renumber number =
      (ofLines file lines).renumber other := by
  have agreeOn {line : Text} {row : Nat}
      (member : (line, row) ∈ lines.zipIdx 1) :
      number row = other row := by
    have ⟨low, high, _⟩ := List.mem_zipIdx member
    exact agree row low (by omega)
  have sectionsEq :
      (Layout.draft lines).renumber number =
        (Layout.draft lines).renumber other := by
    rw [Layout.renumber_draft, Layout.renumber_draft]
    apply List.foldl_ext
    rintro draft ⟨line, row⟩ member
    dsimp only
    rw [agreeOn member]
  have referencesEq :
      (Reference.ofLines file lines).map (·.renumber number) =
        (Reference.ofLines file lines).map (·.renumber other) := by
    rw [Reference.renumber_ofLines, Reference.renumber_ofLines]
    apply List.flatMap_congr
    rintro ⟨line, row⟩ member
    dsimp only
    rw [agreeOn member]
  exact congrArg₂ Outline.mk (congrArg Draft.sections sectionsEq) referencesEq

end OutlineLint
