import OutlineLint.Proofs.Guarded.Reading

/-!
# Steps of a guarded cursor

The steps that make a draft are taken here by a cursor whose section, subsection
and header stand apart.  A step is carried out in place, one assignment after
the other, and what it has assigned stays when it breaks off.  Such a cursor has
states that no draft has.  A subsection may be open beside no header, and then a
step can break off for want of the header.

`WellFormed` keeps the cursor from these states.  A step from a well-formed
cursor succeeds and leads to a well-formed one, or it finds no section open and
breaks off before it has assigned anything.  By induction no sequence of steps
looks for a header or a subsection in vain, and it makes the cursor of the draft
that the same steps make.
-/

namespace OutlineLint.Guarded.Cursor

open Draft (Step)

/-! ## Steps in place -/

/-- An operation on the cursor, which keeps what is assigned before a breach. -/
abbrev Operation : Type → Type :=
  EStateM Breach Cursor

/-- Looks something up in the cursor. -/
def consult {Value : Type} (look : Cursor → Except Breach Value) :
    Operation Value := fun cursor =>
  match look cursor with
  | .ok value => .ok value cursor
  | .error breach => .error breach cursor

/-- Assigns sections in which the open one is changed. -/
def assignSection (change : Section → Except Breach Section) :
    Operation Unit := do
  let changed ← consult (·.changeSection change)
  set changed

def openSectionInPlace (name : Text) : Operation Unit := do
  modify fun cursor =>
    { cursor with
      sections := Named.alter name (Section.empty name) id cursor.sections }
  modify ({ · with sectionName := some name })
  modify ({ · with subsectionName := none })
  modify ({ · with header := none })

def openSubsectionInPlace (name : Text) (header : Item) : Operation Unit := do
  if ← consult (·.repeats name header) then
    let stored ← consult fun cursor => require cursor.header .noHeader
    assignSection fun opened =>
      .ok (opened.recordRepeat header stored.position.row)
  else
    -- The section is assigned first, so that without one nothing is assigned.
    assignSection fun opened => .ok (opened.enter ⟨name, header⟩)
    modify ({ · with subsectionName := some name })
    modify ({ · with header := some header })

def perform : Step → Operation Unit
  | .openSection name => openSectionInPlace name
  | .openSubsection name header => openSubsectionInPlace name header
  | .attach item => do
      let attached ← consult (·.attach item)
      set attached

/-- The cursor that a step leaves behind, whether or not it breaks off. -/
def after (cursor : Cursor) (step : Step) : Cursor :=
  match (perform step).run cursor with
  | .ok _ next => next
  | .error _ left => left

/-- The cursor that the steps make of the first one. -/
def made (steps : List Step) : Cursor :=
  steps.foldl after start

/-! ## Steps that assign nothing when they break off -/

/-- The outcome of an operation that assigns its result as a whole. -/
def wholly (cursor : Cursor) :
    Except Breach Cursor → EStateM.Result Breach Cursor Unit
  | .ok next => .ok () next
  | .error breach => .error breach cursor

/-- The cursor after a step, apart from how the step gets there. -/
def take (cursor : Cursor) : Step → Except Breach Cursor
  | .openSection name => .ok (cursor.openSection name)
  | .openSubsection name header => cursor.openSubsection name header
  | .attach item => cursor.attach item

theorem run_consult_bind
    {Value : Type} (look : Cursor → Except Breach Value)
    (next : Value → Operation Unit) (cursor : Cursor) :
    (consult look >>= next).run cursor =
      match look cursor with
      | .ok value => (next value).run cursor
      | .error breach => .error breach cursor := by
  cases found : look cursor <;>
    simp only [EStateM.run, bind, EStateM.bind, consult, found]

/-- A step that breaks off leaves the cursor as it was, whatever that is. -/
theorem run_perform (cursor : Cursor) (step : Step) :
    (perform step).run cursor = cursor.wholly (cursor.take step) := by
  cases step with
  | openSection name => rfl
  | openSubsection name header =>
      rw [perform, openSubsectionInPlace, run_consult_bind, take,
        openSubsection]
      cases cursor.repeats name header with
      | error breach => rfl
      | ok repeated =>
          cases repeated with
          | false =>
              rw [ok_bind]
              simp only [Bool.false_eq_true, if_false]
              rw [assignSection, bind_assoc, run_consult_bind]
              cases cursor.changeSection _ <;> rfl
          | true =>
              rw [ok_bind]
              simp only [if_true]
              rw [run_consult_bind]
              cases cursor.header with
              | none => rfl
              | some stored =>
                  rw [require_some, ok_bind]
                  dsimp only
                  rw [assignSection, run_consult_bind]
                  cases cursor.changeSection _ <;> rfl
  | attach item =>
      rw [perform, run_consult_bind, take]
      cases cursor.attach item <;> rfl

/-! ## Well-formed cursors -/

def currentSection? (cursor : Cursor) : Option Section :=
  cursor.sectionName.bind fun name => Named.find? name cursor.sections

/-- Names are distinct, what is open is there, and a header is beside it. -/
structure WellFormed (cursor : Cursor) : Prop where
  sectionNames : (cursor.sections.map Section.name).Nodup
  subsectionNames :
    ∀ opened ∈ cursor.sections,
      (opened.subsections.map Subsection.name).Nodup
  currentSection :
    ∀ name ∈ cursor.sectionName, ∃ opened ∈ cursor.sections,
      opened.name = name ∧ cursor.currentSection? = some opened
  /-- No subsection is open outside a section. -/
  currentSubsection :
    ∀ name ∈ cursor.subsectionName, ∃ opened,
      cursor.currentSection? = some opened ∧
        name ∈ opened.subsections.map Subsection.name
  header : cursor.header = none ↔ cursor.subsectionName = none

theorem wellFormed_ofDraft {draft : Draft} (wellFormed : draft.WellFormed) :
    (ofDraft draft).WellFormed := by
  constructor
  case sectionNames => exact wellFormed.sectionNames
  case subsectionNames => exact wellFormed.subsectionNames
  case currentSection =>
    intro name isName
    obtain ⟨place, isOpen, rfl⟩ := Option.map_eq_some_iff.mp isName
    obtain ⟨opened, found, _⟩ := wellFormed.place place isOpen
    obtain ⟨member, named⟩ := Named.mem_and_name_of_find? found
    refine ⟨opened, member, named, ?_⟩
    rw [currentSection?, sectionName_ofDraft isOpen]
    exact found
  case currentSubsection =>
    intro name isName
    obtain ⟨heading, isHeading, rfl⟩ := Option.map_eq_some_iff.mp isName
    obtain ⟨place, isOpen, inPlace⟩ := Option.bind_eq_some_iff.mp isHeading
    obtain ⟨opened, found, known⟩ := wellFormed.place place isOpen
    refine ⟨opened, ?_, known heading inPlace⟩
    rw [currentSection?, sectionName_ofDraft isOpen]
    exact found
  case header => simp [ofDraft, Draft.currentHeader?]

/-- The subsection and its header together, if there are both. -/
def heading? (cursor : Cursor) : Option Heading :=
  cursor.subsectionName.bind fun name => cursor.header.map (Heading.mk name)

def toDraft (cursor : Cursor) : Draft where
  sections := cursor.sections
  place := cursor.sectionName.map fun name => ⟨name, cursor.heading?⟩

namespace WellFormed

variable {cursor : Cursor} (wellFormed : cursor.WellFormed)

include wellFormed

theorem map_heading? :
    cursor.heading?.map Heading.name = cursor.subsectionName ∧
      cursor.heading?.map Heading.header = cursor.header := by
  have together := wellFormed.header
  rw [heading?]
  cases isName : cursor.subsectionName with
  | none => simp [together.mpr isName]
  | some name =>
      have present : cursor.header ≠ none := fun absent =>
        absurd (isName.symm.trans (together.mp absent)) nofun
      obtain ⟨header, isHeader⟩ := Option.ne_none_iff_exists'.mp present
      simp [isHeader]

theorem subsectionName_of_heading?
    {heading : Heading} (isHeading : cursor.heading? = some heading) :
    cursor.subsectionName = some heading.name := by
  rw [← wellFormed.map_heading?.1, isHeading]
  rfl

theorem currentHeading?_toDraft :
    cursor.toDraft.currentHeading? = cursor.heading? := by
  rw [Draft.currentHeading?, toDraft]
  cases isName : cursor.sectionName with
  | some name => rfl
  | none =>
      cases isHeading : cursor.heading? with
      | none => rfl
      | some heading =>
          -- A subsection would be one of the section that is not there.
          obtain ⟨_, found, _⟩ :=
            wellFormed.currentSubsection _
              (wellFormed.subsectionName_of_heading? isHeading)
          rw [currentSection?, isName] at found
          cases found

/-- A well-formed cursor is the cursor of a draft. -/
theorem ofDraft_toDraft : ofDraft cursor.toDraft = cursor := by
  obtain ⟨named, headed⟩ := wellFormed.map_heading?
  have sectionName :
      cursor.toDraft.place.map Place.sectionName = cursor.sectionName := by
    rw [toDraft, Option.map_map]
    exact congrFun Option.map_id cursor.sectionName
  rw [ofDraft, Draft.currentHeader?, wellFormed.currentHeading?_toDraft,
    named, headed, sectionName]
  rfl

theorem wellFormed_toDraft : cursor.toDraft.WellFormed where
  sectionNames := wellFormed.sectionNames
  subsectionNames := wellFormed.subsectionNames
  place := by
    intro place isOpen
    obtain ⟨name, isName, rfl⟩ := Option.map_eq_some_iff.mp isOpen
    obtain ⟨opened, _, _, found⟩ := wellFormed.currentSection name isName
    rw [currentSection?, isName] at found
    refine ⟨opened, found, ?_⟩
    intro heading isHeading
    obtain ⟨current, isCurrent, known⟩ :=
      wellFormed.currentSubsection _
        (wellFormed.subsectionName_of_heading? isHeading)
    rw [currentSection?, isName] at isCurrent
    rwa [Option.some.inj (found.symm.trans isCurrent)]

end WellFormed

/-! ## Steps of well-formed cursors -/

theorem changeSection_of_none
    {cursor : Cursor} (isNowhere : cursor.sectionName = none)
    (change : Section → Except Breach Section) :
    cursor.changeSection change = .error .noSection := by
  rw [changeSection, isNowhere]
  rfl

/-- The cursor of a draft takes the step that the draft takes. -/
theorem take_ofDraft
    {draft : Draft} (wellFormed : draft.WellFormed) (step : Step) :
    (ofDraft draft).take step =
      require ((draft.take? step).map ofDraft) .noSection := by
  cases isPlace : draft.place with
  | none =>
      have isNowhere := sectionName_ofDraft_of_none isPlace
      cases step with
      | openSection name => rfl
      | openSubsection name header =>
          have noSubsection : (ofDraft draft).subsectionName = none := by
            rw [ofDraft, Draft.currentHeading?, isPlace]
            rfl
          have differs : (ofDraft draft).repeats name header = .ok false := by
            rw [repeats, noSubsection]
            rfl
          rw [take, openSubsection, differs, ok_bind,
            changeSection_of_none isNowhere, Draft.take?,
            Draft.openSubsection?, isPlace]
          rfl
      | attach item =>
          rw [take, attach, changeSection_of_none isNowhere, Draft.take?,
            Draft.attach?, isPlace]
          rfl
  | some place =>
      have succeeds : draft.take? step ≠ none := by
        rw [ne_eq, Draft.take?_eq_none_iff, isPlace]
        rintro ⟨_, isNowhere⟩
        cases isNowhere
      obtain ⟨next, takes⟩ := Option.ne_none_iff_exists'.mp succeeds
      rw [takes]
      cases step with
      | openSection name =>
          cases takes
          rfl
      | openSubsection name header =>
          rw [Draft.take?] at takes
          rw [take, openSubsection_ofDraft isPlace wellFormed, takes]
          rfl
      | attach item =>
          rw [Draft.take?] at takes
          rw [take, attach_ofDraft isPlace wellFormed, takes]
          rfl

theorem run_perform_ofDraft
    {draft : Draft} (wellFormed : draft.WellFormed) (step : Step) :
    (perform step).run (ofDraft draft) =
      (ofDraft draft).wholly
        (require ((draft.take? step).map ofDraft) .noSection) := by
  rw [run_perform, take_ofDraft wellFormed]

theorem after_ofDraft
    {draft : Draft} (wellFormed : draft.WellFormed) (step : Step) :
    (ofDraft draft).after step = ofDraft (draft.take step) := by
  rw [after, run_perform_ofDraft wellFormed, Draft.take]
  cases draft.take? step <;> rfl

/--
A step succeeds and leads to a well-formed cursor, or it finds no section open
and assigns nothing.
-/
theorem WellFormed.run_perform
    {cursor : Cursor} (wellFormed : cursor.WellFormed) (step : Step) :
    (∃ next, (perform step).run cursor = .ok () next ∧ next.WellFormed) ∨
      (perform step).run cursor = .error .noSection cursor ∧
        step.opensSection = false ∧ cursor.sectionName = none := by
  have draftWellFormed := wellFormed.wellFormed_toDraft
  rw [← wellFormed.ofDraft_toDraft, run_perform_ofDraft draftWellFormed]
  have kept := Draft.wellFormed_take draftWellFormed step
  rw [Draft.take] at kept
  cases takes : cursor.toDraft.take? step with
  | none =>
      obtain ⟨inside, isNowhere⟩ := (Draft.take?_eq_none_iff _ _).mp takes
      exact .inr ⟨rfl, inside, sectionName_ofDraft_of_none isNowhere⟩
  | some next =>
      rw [takes] at kept
      exact .inl ⟨ofDraft next, rfl, wellFormed_ofDraft kept⟩

/-! ## What steps make -/

theorem made_snoc (steps : List Step) (step : Step) :
    made (steps ++ [step]) = (made steps).after step := by
  rw [made, List.foldl_append, made]
  rfl

/-- After every sequence of steps the cursor is well-formed. -/
theorem wellFormed_made (steps : List Step) : (made steps).WellFormed := by
  induction steps using List.reverseRecOn with
  | nil => exact wellFormed_ofDraft Draft.wellFormed_empty
  | append_singleton steps step ih =>
      rw [made_snoc, after]
      obtain ⟨next, succeeds, kept⟩ | ⟨breaksOff, _⟩ := ih.run_perform step
      · rwa [succeeds]
      · rwa [breaksOff]

/-- The steps make the cursor of the draft that they make. -/
theorem made_eq_ofDraft (steps : List Step) :
    made steps = ofDraft (Draft.made steps) := by
  induction steps using List.reverseRecOn with
  | nil => rfl
  | append_singleton steps step ih =>
      rw [made_snoc, ih, after_ofDraft (Draft.wellFormed_made steps),
        Draft.made_snoc]

/--
Behind every sequence of steps, a step breaks off exactly if it needs a section
and none has been opened.  The breach is always the same, and the cursor is left
as it was.
-/
theorem run_perform_made_eq_error_iff
    (steps : List Step) (step : Step) (breach : Breach) (left : Cursor) :
    (perform step).run (made steps) = .error breach left ↔
      (breach = .noSection ∧ left = made steps) ∧
        step.opensSection = false ∧
          ∀ earlier ∈ steps, earlier.opensSection = false := by
  have wellFormed := Draft.wellFormed_made steps
  rw [← Draft.place_made_eq_none_iff, ← Draft.take?_eq_none_iff,
    made_eq_ofDraft, run_perform_ofDraft wellFormed]
  cases (Draft.made steps).take? step with
  | none =>
      simp only [Option.map_none, require, wholly, and_true,
        EStateM.Result.error.injEq, eq_comm]
  | some next =>
      simp [require, wholly]

/-- Outside the well-formed cursors a step can miss a header. -/
example :
    (perform (.openSubsection ['b'] ⟨['b'], ⟨3, 3⟩⟩)).run
        ⟨[Section.empty ['a']], some ['a'], some ['b'], none⟩ =
      .error .noHeader ⟨[Section.empty ['a']], some ['a'], some ['b'], none⟩ :=
  rfl

end OutlineLint.Guarded.Cursor
